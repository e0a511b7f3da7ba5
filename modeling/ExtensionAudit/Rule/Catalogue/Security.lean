import ExtensionAudit.Rule.Standard

/-!
# Security

Dynamic code, telemetry, insecure paths, raised privileges, and commands that are run from an
extension.
-/

namespace ExtensionAudit.Rule.Catalogue

/-- The rules of this group, in order. -/
def security : List Standard :=
  [{ id := "R-SEC-01"
     pattern := "\\beval\\s*\\("
     blocking := true
     message := "eval() is a security risk; never execute dynamic code"
     category := "security"
     fix :=
       "Remove eval() entirely. If parsing JSON, use JSON.parse(). If computing values, use " ++
       "a lookup table." },
   { id := "R-SEC-02"
     pattern := "\\bnew\\s+Function\\s*\\("
     blocking := true
     message := "new Function() is equivalent to eval(); avoid dynamic code execution"
     category := "security"
     fix := "Replace with a direct function definition or a lookup table." },
   { id := "R-SEC-03"
     pattern := "http://(?!localhost|127\\.0\\.0\\.1|\\[::1\\])"
     blocking := false
     message := "Use HTTPS instead of HTTP for network requests"
     category := "security"
     fix := "Change http:// to https://." },
   { id := "R-SEC-04"
     pattern := "\\bsudo\\b"
     scope := ["*.js", "*.sh"]
     blocking := true
     message :=
       "sudo is prohibited in GNOME extensions; use pkexec with a polkit policy for " ++
       "privileged operations"
     category := "security"
     fix :=
       "Replace sudo with pkexec and provide a polkit action file, or use a udev rule for " ++
       "hardware access." },
   { id := "R-SEC-05"
     pattern := "Subprocess.*'/bin/sh'.*'-c'"
     blocking := true
     message := "Subprocess with /bin/sh -c risks command injection; use explicit argv array"
     category := "security"
     fix :=
       "Pass command and arguments as separate argv array elements instead of a shell " ++
       "string." },
   { id := "R-SEC-06"
     pattern := "\\.run_dispose\\s*\\("
     blocking := false
     message := "GObject.run_dispose() should not be used unless absolutely necessary"
     category := "security"
     fix := "Remove run_dispose() call. If genuinely needed, add a comment explaining why." },
   { id := "R-SEC-08"
     pattern := "\\b(analytics|telemetry|trackEvent|trackPage|GA_TRACKING_ID|gtag)\\b"
     blocking := true
     message := "Telemetry/analytics is banned in GNOME extensions — this will be rejected"
     category := "security"
     fix := "Remove all telemetry/analytics code. EGO explicitly bans user tracking." },
   { id := "R-SEC-09"
     pattern := "\\b(Main\\.extensionManager|ExtensionManager|lookupByUUID)\\b"
     blocking := false
     message :=
       "Extension system interference is discouraged; modifying other extensions requires " ++
       "justification"
     category := "security"
     fix :=
       "Avoid interacting with other extensions unless absolutely necessary. Document the " ++
       "justification." },
   { id := "R-SEC-13"
     pattern := "Subprocess[^;]*['\"]\\s*\\+|\\+\\s*['\"][^;]*Subprocess"
     blocking := true
     message :=
       "Subprocess with string concatenation risks command injection; use explicit argv " ++
       "array"
     category := "security"
     fix :=
       "Pass command and arguments as separate argv array elements instead of concatenating " ++
       "strings" },
   { id := "R-SEC-17"
     pattern := "Gio\\.File\\.new_for_path\\s*\\(\\s*['\"]\\/tmp"
     blocking := false
     message :=
       "Writing to /tmp is insecure; use GLib.get_tmp_dir() or XDG dirs " ++
       "(GLib.get_user_cache_dir())"
     category := "security"
     fix :=
       "Use GLib.get_tmp_dir() for temporary files or GLib.get_user_cache_dir() for " ++
       "persistent cache" },
   { id := "R-SEC-20"
     pattern := "\\bpkexec\\b"
     blocking := false
     message :=
       "pkexec usage will receive extra reviewer scrutiny; ensure a valid polkit policy is " ++
       "included"
     category := "security"
     fix :=
       "Verify the polkit .policy file is present and the action ID matches. Consider udev " ++
       "rules for hardware access."
     deduplicate := true },
   { id := "R-SEC-23"
     pattern := "\\b(atob|btoa)\\s*\\("
     blocking := false
     message := "Base64 encoding/decoding may indicate obfuscated content — reviewer will inspect"
     category := "security"
     fix := "If used legitimately (e.g., data URIs), add a comment explaining the purpose" },
   { id := "R-SEC-14"
     pattern := "\\bspawn_sync\\b"
     blocking := true
     message := "GLib.spawn_sync blocks the main loop; use Gio.Subprocess with async"
     category := "security"
     fix :=
       "Use 'new Gio.Subprocess(\x7bargv: [...]\x7d)' with communicate_utf8_async() or " ++
       "Gio._promisify." },
   { id := "R-SEC-15"
     pattern := "\\bspawn_command_line_async\\b"
     blocking := false
     message := "GLib.spawn_command_line_async provides no error handling; prefer Gio.Subprocess"
     category := "security"
     fix :=
       "Use 'new Gio.Subprocess(\x7bargv: [...]\x7d)' for proper lifecycle control and " ++
       "error handling." },
   { id := "R-SEC-21"
     pattern := "(Subprocess|spawn|spawn_async|spawn_command_line).*['\"]curl['\"]|['\"]curl\\s"
     blocking := true
     message := "Spawning curl is forbidden — use Soup.Session for HTTP requests"
     category := "security"
     fix := "Replace subprocess curl call with Soup.Session and Soup.Message" },
   { id := "R-SEC-22"
     pattern :=
       "(Subprocess|spawn|spawn_async|spawn_command_line).*['\"]gsettings['\"]|['\"]gsetting" ++
       "s\\s|['\"]dconf['\"]|['\"]dconf\\s"
     blocking := true
     message := "Spawning gsettings/dconf CLI is forbidden — use Gio.Settings API directly"
     category := "security"
     fix := "Use this.getSettings() or new Gio.Settings() to access GSettings programmatically" },
   { id := "R-SEC-10"
     pattern := "\\bpip\\s+install\\b"
     scope := ["*.js", "*.sh"]
     blocking := true
     message :=
       "Automatic pip install is banned; extensions must not install packages without " ++
       "explicit user action"
     category := "security"
     fix :=
       "Remove automatic pip install. If a Python dependency is needed, document manual " ++
       "installation steps." },
   { id := "R-SEC-11"
     pattern := "\\bnpm\\s+install\\b"
     scope := ["*.js", "*.sh"]
     blocking := true
     message :=
       "Automatic npm install is banned; extensions must not install packages without " ++
       "explicit user action"
     category := "security"
     fix :=
       "Remove automatic npm install. If a Node dependency is needed, document manual " ++
       "installation steps." },
   { id := "R-SEC-12"
     pattern := "\\b(apt|apt-get|dnf|yum|pacman|zypper)\\s+(install|-S)\\b"
     scope := ["*.js", "*.sh"]
     blocking := true
     message :=
       "Automatic system package installation is banned; extensions must not install " ++
       "packages without explicit user action"
     category := "security"
     fix :=
       "Remove automatic package installation. Document manual installation steps for " ++
       "required system packages." }]

end ExtensionAudit.Rule.Catalogue
