import ExtensionAudit.Rule.Standard

/-!
# Signs of unreviewed code

Patterns that are not wrong by themselves but point to code that nobody has read, calls of
methods that do not exist, and constructions that reviewers turn down.
-/

namespace ExtensionAudit.Rule.Catalogue

/-- The rules of this group, in order. -/
def style : List Standard :=
  [{ id := "R-QUAL-23"
     pattern := "\\.bind\\s*\\([^)]*GObject\\.BindingFlags"
     blocking := false
     message := "GSettings.bind() takes Gio.SettingsBindFlags, not GObject.BindingFlags"
     category := "quality"
     fix :=
       "Use Gio.SettingsBindFlags.DEFAULT (or .GET, .SET, .INVERT_BOOLEAN) instead of " ++
       "GObject.BindingFlags" },
   { id := "R-SLOP-01"
     pattern := "@param\\s*\\\x7b\\w+\\\x7d"
     blocking := false
     message := "TypeScript-style JSDoc (@param \x7bType\x7d) is unusual in GNOME extensions"
     category := "ai-slop"
     fix :=
       "Remove @param \x7bType\x7d annotations; GNOME extensions don't use TypeScript-style " ++
       "JSDoc." },
   { id := "R-SLOP-02"
     pattern := "@returns\\s*\\\x7b\\w+\\\x7d"
     blocking := false
     message := "TypeScript-style JSDoc (@returns \x7bType\x7d) is unusual in GNOME extensions"
     category := "ai-slop"
     fix :=
       "Remove @returns \x7bType\x7d annotations; GNOME extensions don't use " ++
       "TypeScript-style JSDoc." },
   { id := "R-SLOP-03"
     pattern := "\"version\":\\s*\\d"
     scope := ["metadata.json"]
     blocking := false
     message := "version field is deprecated; EGO manages versions for GNOME 45+"
     category := "ai-slop"
     fix := "Remove the version field from metadata.json; EGO manages versions automatically." },
   { id := "R-SLOP-05"
     pattern := "\"homepage\""
     scope := ["metadata.json"]
     blocking := false
     message := "homepage is a non-standard metadata field; use url instead"
     category := "ai-slop"
     fix := "Rename homepage to url in metadata.json." },
   { id := "R-SLOP-06"
     pattern := "\"bug-report-url\""
     scope := ["metadata.json"]
     blocking := false
     message := "bug-report-url is a non-standard metadata field"
     category := "ai-slop"
     fix := "Remove bug-report-url; use the url field for your project URL." },
   { id := "R-SLOP-07"
     pattern := "\\.get_button\\(\\)\\s*===?\\s*[123]"
     blocking := false
     message := "Use Clutter.BUTTON_PRIMARY/SECONDARY/MIDDLE instead of magic numbers"
     category := "ai-slop"
     fix :=
       "Replace 1 with Clutter.BUTTON_PRIMARY, 2 with Clutter.BUTTON_MIDDLE, 3 with " ++
       "Clutter.BUTTON_SECONDARY." },
   { id := "R-SLOP-13"
     pattern := "\\bthis\\s+instanceof\\s+\\w+"
     blocking := false
     message := "this instanceof check inside a class method is always true"
     category := "ai-slop"
     fix := "Remove the redundant instanceof check." },
   { id := "R-SLOP-17"
     pattern := "typeof\\s+(?:super|this(?:\\.\\w+)+)\\.\\w+\\s*===?\\s*['\"]function['\"]"
     blocking := false
     message :=
       "typeof method guard — verify this check is necessary; GObject and well-typed " ++
       "objects have known methods"
     category := "ai-slop"
     fix :=
       "Remove the typeof check. Use a null/undefined guard on the object instead, or add a " ++
       "comment if duck-typing is intentional." },
   { id := "R-SLOP-18"
     pattern :=
       "^\\s*//\\s*(Important|Note|Remember|TODO):\\s*(Make sure|Ensure|Always|Don't " ++
       "forget|Handle)"
     blocking := false
     message := "Imperative comment pattern ('Important: Make sure...') draws reviewer scrutiny"
     category := "ai-slop"
     fix := "Remove or rewrite to explain 'why', not 'what to do'" },
   { id := "R-SLOP-19"
     pattern := "console\\.(error|warn)\\(`Failed to \\$\\\x7b"
     blocking := false
     message := "Verbose template error message — prefer terse error strings"
     category := "ai-slop"
     fix := "Simplify to: console.error('ExtName: init failed', e)" },
   { id := "R-SLOP-22"
     pattern :=
       "catch\\s*\\(\\w+\\)\\s*\\\x7b[^\x7d]*console\\.(error|warn|log)\\([^)]*\\);?\\s*(thr" ++
       "ow|rethrow)\\s"
     blocking := false
     message := "Catch-log-rethrow adds no value — handle or let propagate"
     category := "ai-slop"
     fix := "Remove the try-catch or handle the error meaningfully" },
   { id := "R-SLOP-23"
     pattern := "throw\\s+[^;]+;\\s*\\n\\s*return\\s"
     blocking := false
     message := "Dead code after throw — unreachable return"
     category := "ai-slop"
     fix := "Remove the unreachable return statement" },
   { id := "R-SLOP-27"
     pattern := "\\\x7b\\s*\\.\\.\\.this\\._\\w+\\s*\\\x7d"
     blocking := false
     message := "Unnecessary object spread copy — GNOME extensions should pass references"
     category := "ai-slop"
     fix := "Pass the object reference directly instead of creating a shallow copy" },
   { id := "R-SLOP-28"
     pattern := "instanceof\\s+(Error|TypeError|RangeError|SyntaxError|ReferenceError)"
     blocking := false
     message := "instanceof Error check is unusual in GNOME extensions"
     category := "ai-slop"
     fix := "In GJS, catch blocks already have typed errors; instanceof checks are rarely needed" },
   { id := "R-SLOP-29"
     pattern := "destroy\\s*\\(\\)\\s*\\\x7b\\s*super\\.destroy\\(\\)\\s*;?\\s*\\\x7d"
     blocking := false
     message := "Empty destroy() that only calls super.destroy() — remove the override"
     category := "ai-slop"
     fix := "Remove the destroy() override; GObject chains to super automatically" },
   { id := "R-SLOP-30"
     pattern := "typeof super\\.\\w+\\s*===\\s*['\"]function['\"]"
     blocking := true
     message :=
       "typeof super.method check is unnecessary — GObject parent methods always exist; " ++
       "reviewers flag this pattern"
     category := "ai-slop"
     fix := "Remove the typeof check and call super.method() directly." },
   { id := "R-SLOP-08"
     pattern :=
       "\\b(Meta\\.Screen|Meta\\.Cursor|Shell\\.ActionMode\\.ALL|Shell\\.WindowTracker\\.get" ++
       "_default\\(\\)\\.get_active_window)"
     blocking := false
     message :=
       "Likely hallucinated API — Meta.Screen, Meta.Cursor, Shell.ActionMode.ALL do not " ++
       "exist"
     category := "ai-slop"
     fix :=
       "Check the GJS API docs: https://gjs-docs.gnome.org. Use Meta.Display, " ++
       "global.display, etc." },
   { id := "R-SLOP-09"
     pattern := "\\bSt\\.(Button|Label|Widget)\\.(set_label|set_text|set_icon_name)\\s*\\("
     blocking := false
     message := "St widgets use GObject properties, not setter methods (set_label, set_text)"
     category := "ai-slop"
     fix := "Use property assignment: this.label = 'text' instead of this.set_label('text')." },
   { id := "R-SLOP-10"
     pattern := "\\bClutter\\.Actor\\.(show_all|hide_all|set_position|set_size)\\s*\\("
     blocking := false
     message :=
       "Hallucinated Clutter method — show_all/hide_all/set_position/set_size are GTK, not " ++
       "Clutter"
     category := "ai-slop"
     fix :=
       "Use actor.show()/hide() for visibility. Use actor.set(\x7bx, y, width, height\x7d) " ++
       "for geometry." },
   { id := "R-SLOP-11"
     pattern := "\\bGLib\\.(timeout_add_seconds_full|source_remove)\\b"
     blocking := false
     message :=
       "Non-existent GLib method — use GLib.timeout_add_seconds() and GLib.Source.remove()"
     category := "ai-slop"
     fix :=
       "GLib.timeout_add_seconds_full → GLib.timeout_add_seconds. GLib.source_remove → " ++
       "GLib.Source.remove." },
   { id := "R-SLOP-16"
     pattern := "\\bGLib\\.file_get_contents\\b"
     blocking := true
     message := "GLib.file_get_contents() does not exist in GJS; use Gio.File.load_contents()"
     category := "ai-slop"
     fix := "Use: const [ok, contents] = file.load_contents(null); then TextDecoder to decode." },
   { id := "R-SLOP-24"
     pattern := "\\bnew\\s+Gio\\.Settings\\s*\\("
     blocking := false
     message :=
       "new Gio.Settings() is incorrect in GNOME 45+; use this.getSettings() from Extension " ++
       "base class"
     category := "ai-slop"
     fix :=
       "Use this.getSettings() in Extension subclass or this.getSettings() in " ++
       "ExtensionPreferences" },
   { id := "R-SLOP-25"
     pattern := "\\bMain\\.extensionManager\\.(enable|disable)\\s*\\("
     blocking := false
     message :=
       "Main.extensionManager.enable()/disable() is a hallucinated API — extensions cannot " ++
       "enable/disable themselves"
     category := "ai-slop"
     fix :=
       "Remove the call. Extension lifecycle is managed by GNOME Shell, not by the " ++
       "extension itself." },
   { id := "R-SLOP-26"
     pattern := "\\bShell\\.ActionMode\\.ALL\\b"
     blocking := false
     message :=
       "Shell.ActionMode.ALL does not exist; use Shell.ActionMode.NORMAL or combine " ++
       "specific modes"
     category := "ai-slop"
     fix :=
       "Use Shell.ActionMode.NORMAL for most keybindings, or Shell.ActionMode.OVERVIEW | " ++
       "Shell.ActionMode.NORMAL for multi-mode" },
   { id := "R-QUAL-04b"
     pattern := "^(let|var)\\s+\\w+\\s*=\\s*new\\s+(St|Gio|GLib|Clutter|Meta|Shell|GObject)\\."
     blocking := true
     message :=
       "Module-scope GObject construction persists across enable/disable cycles — move into " ++
       "enable()"
     category := "quality"
     fix := "Move the GObject construction into enable() and store as an instance property" },
   { id := "R-QUAL-25"
     pattern := "this\\.dir\\.get_path\\(\\)"
     blocking := false
     message := "Use this.path instead of this.dir.get_path()"
     category := "quality"
     fix := "Replace this.dir.get_path() with this.path" },
   { id := "R-QUAL-26"
     pattern := "class\\s+Logger\\b"
     blocking := false
     message := "Custom Logger class is unnecessary — use console.debug/warn/error"
     category := "quality"
     fix := "Remove custom Logger; use console.debug() for messages, console.error() for errors" },
   { id := "R-QUAL-27"
     pattern := "Config\\.PACKAGE_VERSION\\s*(===|!==|>=|<=|>|<)"
     blocking := false
     message :=
       "String comparison on PACKAGE_VERSION is unreliable — use parseInt() for numeric " ++
       "comparison"
     category := "quality"
     fix :=
       "Use parseInt(Config.PACKAGE_VERSION) >= 45 instead of " ++
       "Config.PACKAGE_VERSION >= '45'" },
   { id := "R-QUAL-27b"
     pattern := "Config\\.PACKAGE_VERSION\\.startsWith\\s*\\("
     blocking := false
     message :=
       "String comparison on PACKAGE_VERSION is unreliable — use parseInt() for numeric " ++
       "comparison"
     category := "quality"
     fix :=
       "Use parseInt(Config.PACKAGE_VERSION) >= 45 instead of " ++
       "Config.PACKAGE_VERSION.startsWith('45')" },
   { id := "R-QUAL-30"
     pattern := "\\blookupByURL\\s*\\("
     blocking := false
     message :=
       "lookupByURL() is discouraged — use this.getSettings() and this.path from the entry " ++
       "point class"
     category := "code-quality"
     fix := "Access settings and path via the Extension/ExtensionPreferences base class instead" },
   { id := "R-QUAL-31"
     pattern := "_onDestroy\\s*\\("
     blocking := false
     message := "_onDestroy() should be renamed to destroy() with super.destroy() at the end"
     category := "code-quality"
     fix := "Rename to destroy() \x7b /* cleanup */; super.destroy(); \x7d" },
   { id := "R-QUAL-32"
     pattern := "gi://(GLib|Gio|GObject|St|Clutter|Meta|Shell|Pango|Graphene|Mtk)\\?version="
     blocking := false
     message :=
       "Unnecessary ?version= in gi:// import — this library does not require a version " ++
       "specifier"
     category := "code-quality"
     fix :=
       "Remove ?version= from the import; only Soup, Gtk, Gdk, and Adw require version " ++
       "specifiers" }]

end ExtensionAudit.Rule.Catalogue
