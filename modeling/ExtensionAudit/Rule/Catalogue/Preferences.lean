import ExtensionAudit.Rule.Standard

/-!
# Preferences, messages and logging

Widgets in the preferences that have a replacement, texts that cannot be extracted into
message catalogues, and superseded logging.
-/

namespace ExtensionAudit.Rule.Catalogue

/-- The rules of this group, in order. -/
def preferences : List Standard :=
  [{ id := "R-PREFS-04"
     pattern := "\\bnew\\s+Gtk\\.(HeaderBar|StackSwitcher|Notebook|InfoBar)\\b"
     scope := ["prefs.js"]
     blocking := true
     message :=
       "GTK widget with direct Adw replacement used in prefs.js — use the Adwaita equivalent"
     category := "prefs"
     fix :=
       "Gtk.HeaderBar → Adw.HeaderBar, Gtk.StackSwitcher → Adw.ViewSwitcher, Gtk.Notebook → " ++
       "Adw.ViewStack, Gtk.InfoBar → Adw.Banner" },
   { id := "R-PREFS-04b"
     pattern :=
       "\\bnew\\s+Gtk\\.(Frame|ComboBoxText|RadioButton|Revealer|Expander|FlowBox|Overlay|Pa" ++
       "ned)\\b"
     scope := ["prefs.js"]
     blocking := false
     message := "GTK widget in prefs.js — Adwaita replacement available for GNOME 45+"
     category := "prefs"
     fix :=
       "Gtk.Frame → Adw.PreferencesGroup, Gtk.ComboBoxText → Adw.ComboRow, Gtk.RadioButton " ++
       "→ Adw.ActionRow, Gtk.Revealer → Adw.ExpanderRow, Gtk.Expander → Adw.ExpanderRow, " ++
       "Gtk.FlowBox → Adw.PreferencesGroup"
     deduplicate := true },
   { id := "R-PREFS-04c"
     pattern := "\\bnew\\s+Gtk\\.(Grid|ScrolledWindow|Stack|ListBox)\\b"
     scope := ["prefs.js"]
     blocking := false
     message :=
       "GTK layout widget in prefs.js — verify no Adw equivalent for this specific use case"
     category := "prefs"
     fix :=
       "Gtk.ListBox with boxed-list CSS is valid for dynamic lists. Gtk.ScrolledWindow is " ++
       "valid for constrained-height content. Gtk.Grid/Stack may have Adw equivalents " ++
       "depending on usage."
     deduplicate := true },
   { id := "R-I18N-01"
     pattern := "_\\(\\`[^`]*\\$\\\x7b"
     blocking := false
     message := "Template literal inside gettext _() breaks xgettext string extraction"
     category := "i18n"
     fix := "Use _('Found %d items').format(count) instead of _(`Found $\x7bcount\x7d items`)" },
   { id := "R-I18N-02"
     pattern := "_\\([^)]*['\"]\\s*\\+"
     blocking := false
     message := "String concatenation inside gettext _() breaks xgettext extraction"
     category := "i18n"
     fix := "Use _('Hello %s').format(name) instead of _('Hello ' + name)" },
   { id := "R-LOG-02"
     pattern := "(?<![.\\w])log\\s*\\("
     blocking := false
     message := "Legacy log() function; use console.debug() instead"
     category := "logging"
     fix := "Replace log(...) with console.debug(...)." },
   { id := "R-LOG-03"
     pattern := "\\b(print|printerr)\\s*\\("
     blocking := false
     message := "print()/printerr() should not be used in production; use console.debug()"
     category := "logging"
     fix := "Replace print()/printerr() with console.debug() or console.error()." }]

end ExtensionAudit.Rule.Catalogue
