import ExtensionAudit.Rule.Standard

/-!
# Browser interfaces

Interfaces of browsers that the shell does not offer.
-/

namespace ExtensionAudit.Rule.Catalogue

/-- The rules of this group, in order. -/
def web : List Standard :=
  [{ id := "R-WEB-01"
     pattern := "\\bsetTimeout\\s*\\("
     blocking := true
     message :=
       "setTimeout is a browser API; use GLib.timeout_add() or GLib.timeout_add_seconds()"
     category := "web-apis"
     fix := "GLib.timeout_add_seconds(GLib.PRIORITY_DEFAULT, seconds, callback)" },
   { id := "R-WEB-02"
     pattern := "\\bsetInterval\\s*\\("
     blocking := true
     message := "setInterval is a browser API; use GLib.timeout_add() with GLib.SOURCE_CONTINUE"
     category := "web-apis"
     fix :=
       "GLib.timeout_add_seconds(GLib.PRIORITY_DEFAULT, seconds, () => \x7b ...; return " ++
       "GLib.SOURCE_CONTINUE; \x7d)" },
   { id := "R-WEB-03"
     pattern := "\\bfetch\\s*\\("
     blocking := true
     message := "fetch is a browser API; use Soup.Session for HTTP requests"
     category := "web-apis"
     fix := "Import Soup from 'gi://Soup?version=3.0' and use Soup.Session" },
   { id := "R-WEB-04"
     pattern := "\\bXMLHttpRequest\\b"
     blocking := true
     message := "XMLHttpRequest is a browser API; use Soup.Session"
     category := "web-apis"
     fix := "Import Soup from 'gi://Soup?version=3.0' and use Soup.Session." },
   { id := "R-WEB-05"
     pattern := "\\brequestAnimationFrame\\b"
     blocking := true
     message := "requestAnimationFrame is a browser API; use Clutter animation framework"
     category := "web-apis"
     fix := "Use Clutter.Timeline or actor.ease() for animations." },
   { id := "R-WEB-06"
     pattern := "\\bdocument\\."
     blocking := true
     message := "DOM APIs (document.*) are not available in GJS"
     category := "web-apis"
     fix := "GJS has no DOM. Use GObject/Clutter/St/GTK widgets instead." },
   { id := "R-WEB-07"
     pattern :=
       "\\bwindow\\.(document|location|navigator|localStorage|sessionStorage|alert|confirm|p" ++
       "rompt|history|performance)"
     blocking := true
     message :=
       "Browser window properties are not available in GJS (window is a GTK widget in " ++
       "prefs.js)"
     category := "web-apis"
     fix :=
       "In prefs.js, use the GTK widget directly. In extension.js, there is no window " ++
       "object." },
   { id := "R-WEB-08"
     pattern := "\\blocalStorage\\b"
     blocking := true
     message := "localStorage is a browser API; use GSettings for persistent storage"
     category := "web-apis"
     fix := "Use GSettings (this.getSettings()) for persistent key-value storage." },
   { id := "R-WEB-09"
     pattern := "\\brequire\\s*\\("
     blocking := true
     message := "require() is Node.js; use ESM imports (import ... from ...)"
     category := "web-apis"
     fix :=
       "Use ESM: import X from 'gi://X' or import \x7bY\x7d from " ++
       "'resource:///path/to/module.js'." },
   { id := "R-WEB-10"
     pattern := "\\bclearTimeout\\s*\\("
     blocking := true
     message := "clearTimeout is a browser API; use GLib.Source.remove(sourceId)"
     category := "web-apis"
     fix := "Store the return value of GLib.timeout_add() and pass it to GLib.Source.remove()." },
   { id := "R-WEB-11"
     pattern := "\\bclearInterval\\s*\\("
     blocking := true
     message := "clearInterval is a browser API; use GLib.Source.remove(sourceId)"
     category := "web-apis"
     fix := "Store the return value of GLib.timeout_add() and pass it to GLib.Source.remove()." },
   { id := "R-WEB-12"
     pattern := "\\bPromise\\.race\\s*\\("
     blocking := false
     message := "Promise.race() is risky without _destroyed guards; verify async safety"
     category := "web-apis"
     fix :=
       "Ensure _destroyed is checked after the race resolves. " ++
       "Consider simpler alternatives." }]

end ExtensionAudit.Rule.Catalogue
