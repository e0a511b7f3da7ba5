import ExtensionAudit.Rule.Standard

/-!
# Superseded interfaces

Interfaces that later versions of the shell have removed or replaced, and imports that the
preferences process cannot load.
-/

namespace ExtensionAudit.Rule.Catalogue

/-- The rules of this group, in order. -/
def deprecated : List Standard :=
  [{ id := "R-DEPR-04"
     pattern := "\\bimports\\.(ui|gi|misc)\\."
     blocking := true
     message := "Legacy imports.* syntax; use ESM imports for GNOME 45+"
     category := "deprecated"
     fix :=
       "Replace 'const X = imports.ui.main' with 'import * as Main from " ++
       "\"resource:///org/gnome/shell/ui/main.js\"'."
     least := some 45 },
   { id := "R-DEPR-04-legacy"
     pattern := "\\bimports\\.(ui|gi|misc)\\."
     blocking := false
     message := "Legacy imports.* syntax — will be required to migrate for GNOME 45+"
     category := "deprecated"
     fix :=
       "For GNOME 45+ readiness, replace 'const X = imports.ui.main' with 'import * as Main " ++
       "from \"resource:///org/gnome/shell/ui/main.js\"'."
     most := some 44 },
   { id := "R-DEPR-05"
     pattern := "\\bExtensionUtils\\b"
     blocking := true
     message :=
       "ExtensionUtils removed in GNOME 45+; use Extension/ExtensionPreferences class " ++
       "methods"
     category := "deprecated"
     fix :=
       "Use this.getSettings(), this.gettext(), this.path, etc. from the Extension base " ++
       "class" },
   { id := "R-DEPR-06"
     pattern := "\\bTweener\\b"
     blocking := true
     message := "Tweener is removed; use Clutter animation framework"
     category := "deprecated"
     fix :=
       "Use actor.ease(\x7bproperty: value, duration: ms, mode: " ++
       "Clutter.AnimationMode.EASE_OUT_QUAD\x7d)." },
   { id := "R-DEPR-07"
     pattern := "imports\\.misc\\.convenience"
     blocking := true
     message := "Convenience module removed in GNOME 45+; use Extension class methods"
     category := "deprecated"
     fix := "Use this.getSettings() from the Extension base class." },
   { id := "R-DEPR-08"
     pattern := "\\bspawn_command_line_sync\\b"
     blocking := true
     message := "GLib.spawn_command_line_sync is deprecated; use Gio.Subprocess"
     category := "deprecated"
     fix := "Use new Gio.Subprocess(\x7bargv: [...], flags: ...\x7d) instead." },
   { id := "R-DEPR-09"
     pattern := "^\\s*var\\s+\\w"
     blocking := false
     message := "Use const/let instead of var; var has function scope and causes bugs in closures"
     category := "deprecated"
     fix := "Replace var with const (preferred) or let (when reassignment needed)." },
   { id := "R-DEPR-10"
     pattern := "\\bimports\\.format\\b"
     blocking := true
     message := "imports.format is deprecated; use ES6 template literals"
     category := "deprecated"
     fix := "Replace format() calls with template literals: `my $\x7bvariable\x7d string`." },
   { id := "R-IMPORT-08"
     pattern := "resource:///org/gnome/shell/ui/"
     scope := ["prefs.js"]
     blocking := true
     message := "GNOME Shell UI modules are not available in the preferences process"
     category := "imports"
     fix :=
       "Preferences must only use GTK/Adw/Gio/GLib. Shell UI modules run in a different " ++
       "process." }]

end ExtensionAudit.Rule.Catalogue
