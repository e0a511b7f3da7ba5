import ExtensionAudit.Rule.Standard

/-!
# Migration between versions

Interfaces that a version of the shell has removed or renamed.  Each rule is bound to the versions
it speaks of.
-/

namespace ExtensionAudit.Rule.Catalogue

/-- The rules of this group, in order. -/
def migration : List Standard :=
  [{ id := "R-VER44-01"
     pattern := "\\bMeta\\.later_add\\b"
     blocking := true
     message :=
       "Meta.later_add() removed in GNOME 44; use global.compositor.get_laters().addLater()"
     category := "version-compat"
     fix := "Use global.compositor.get_laters().addLater(Meta.LaterType.BEFORE_REDRAW, callback)"
     least := some 44 },
   { id := "R-VER44-02"
     pattern := "\\bMeta\\.later_remove\\b"
     blocking := true
     message :=
       "Meta.later_remove() removed in GNOME 44; use " ++
       "global.compositor.get_laters().removeLater()"
     category := "version-compat"
     fix := "Use global.compositor.get_laters().removeLater(id)"
     least := some 44 },
   { id := "R-VER46-01"
     pattern := "\\.add_actor\\s*\\("
     blocking := true
     message := "Clutter.Container.add_actor() removed in GNOME 46; use add_child()"
     category := "version-compat"
     fix := "Replace .add_actor(child) with .add_child(child)"
     least := some 46 },
   { id := "R-VER46-02"
     pattern := "\\.remove_actor\\s*\\("
     blocking := true
     message := "Clutter.Container.remove_actor() removed in GNOME 46; use remove_child()"
     category := "version-compat"
     fix := "Replace .remove_actor(child) with .remove_child(child)"
     least := some 46 },
   { id := "R-VER46-03"
     pattern := "\\bClutter\\.cairo_set_source_color\\b"
     blocking := true
     message :=
       "Clutter.cairo_set_source_color() removed in GNOME 46; use " ++
       "cairo.Context.setSourceColor()"
     category := "version-compat"
     fix := "Use cr.setSourceColor(color) instead"
     least := some 46 },
   { id := "R-VER46-04"
     pattern := "\\bGio\\.UnixInputStream\\b"
     blocking := true
     message := "Gio.UnixInputStream moved to GioUnix.InputStream in GNOME 46"
     category := "version-compat"
     fix := "Import GioUnix from 'gi://GioUnix' and use GioUnix.InputStream"
     least := some 46 },
   { id := "R-VER46-05"
     pattern := "\\bExtensionState\\.(ENABLED|DISABLED|INITIALIZED|DEACTIVATING|ACTIVATING)\\b"
     blocking := true
     message :=
       "ExtensionState enum renamed in GNOME 46: ENABLED->ACTIVE, DISABLED->INACTIVE, etc."
     category := "version-compat"
     fix := "Use ACTIVE, INACTIVE, ENABLING, DISABLING instead"
     least := some 46 },
   { id := "R-VER46-06"
     pattern := "\\bBlurEffect[^;]*\\.sigma\\b|\\bBlurEffect\\s*\\(\\s*\\\x7b[^\x7d]*sigma"
     blocking := true
     message := "Shell.BlurEffect.sigma replaced by .radius in GNOME 46 (radius = sigma * 2.0)"
     category := "version-compat"
     fix := "Use .radius instead of .sigma (radius = sigma * 2.0)"
     least := some 46 },
   { id := "R-VER46-07"
     pattern := "\\bClutter\\.Container\\b"
     blocking := true
     message :=
       "Clutter.Container interface removed in GNOME 46; use Clutter.Actor methods directly"
     category := "version-compat"
     fix := "Use Clutter.Actor add_child/remove_child instead of Container interface methods"
     least := some 46 },
   { id := "R-VER47-01"
     pattern := "\\bClutter\\.Color\\b"
     blocking := true
     message := "Clutter.Color removed in GNOME 47; use Cogl.Color()"
     category := "version-compat"
     fix := "Import Cogl from 'gi://Cogl' and use new Cogl.Color() instead"
     least := some 47 },
   { id := "R-VER48-01"
     pattern := "\\bClutter\\.Image\\b"
     blocking := true
     message := "Clutter.Image removed in GNOME 48; use St.ImageContent"
     category := "version-compat"
     fix := "Use St.ImageContent instead of Clutter.Image"
     least := some 48 },
   { id := "R-VER48-02"
     pattern :=
       "\\bMeta\\.(disable_unredirect_for_display|enable_unredirect_for_display|get_window_a" ++
       "ctors|get_window_group_for_display|get_top_window_group_for_display)\\b"
     blocking := true
     message :=
       "Meta display functions moved to Meta.Compositor in GNOME 48; use global.compositor"
     category := "version-compat"
     fix := "Access via global.compositor instead of Meta directly"
     least := some 48 },
   { id := "R-VER48-03"
     pattern := "\\bCursorTracker\\.get_for_display\\b"
     blocking := true
     message :=
       "Meta.CursorTracker.get_for_display() changed in GNOME 48; use " ++
       "global.backend.get_cursor_tracker()"
     category := "version-compat"
     fix := "Use global.backend.get_cursor_tracker() instead"
     least := some 48 },
   { id := "R-VER48-04"
     pattern := "\\.vertical\\s*="
     blocking := false
     message :=
       "St.Widget.vertical property deprecated in GNOME 48; use orientation: " ++
       "Clutter.Orientation.VERTICAL"
     category := "version-compat"
     fix :=
       "Use \x7borientation: Clutter.Orientation.VERTICAL\x7d instead of \x7bvertical: " ++
       "true\x7d"
     least := some 48 },
   { id := "R-VER48-04b"
     pattern := "vertical:\\s*(true|false)"
     blocking := false
     message :=
       "vertical property in constructor config removed in GNOME 48; use orientation: " ++
       "Clutter.Orientation.VERTICAL"
     category := "version-compat"
     fix :=
       "Replace \x7bvertical: true\x7d with \x7borientation: " ++
       "Clutter.Orientation.VERTICAL\x7d"
     least := some 48 },
   { id := "R-VER48-05"
     pattern := "\\bShell\\.SnippetHook\\b"
     blocking := true
     message := "Shell.SnippetHook removed in GNOME 48"
     category := "version-compat"
     fix := "Shell.SnippetHook was removed without replacement in GNOME 48"
     least := some 48 },
   { id := "R-VER48-06"
     pattern := "\\.get_key_focus\\s*\\("
     blocking := false
     message :=
       "Clutter.Stage.get_key_focus() returns null on Wayland in GNOME 48; track focus via " ++
       "signals instead"
     category := "version-compat"
     fix :=
       "get_key_focus() returns null on Wayland in GNOME 48; track focus via 'key-focus-in' " ++
       "signal"
     least := some 48 },
   { id := "R-VER48-07"
     pattern := "quick-menu-toggle"
     scope := ["*.css"]
     blocking := true
     message := "CSS class .quick-menu-toggle renamed to .quick-toggle-has-menu in GNOME 48"
     category := "version-compat"
     fix := "Replace .quick-menu-toggle with .quick-toggle-has-menu"
     least := some 48
     replacement := some "quick-toggle-has-menu" },
   { id := "R-VER49-01"
     pattern := "\\bMeta\\.Rectangle\\b"
     blocking := true
     message := "Meta.Rectangle removed in GNOME 49; use Mtk.Rectangle"
     category := "version-compat"
     fix := "Import Mtk from 'gi://Mtk' and use Mtk.Rectangle instead"
     least := some 49 },
   { id := "R-VER49-02"
     pattern := "\\bClutter\\.ClickAction\\b"
     blocking := true
     message := "Clutter.ClickAction removed in GNOME 49; use Clutter.ClickGesture"
     category := "version-compat"
     fix := "Use new Clutter.ClickGesture() instead"
     least := some 49 },
   { id := "R-VER49-03"
     pattern := "\\bClutter\\.TapAction\\b"
     blocking := true
     message := "Clutter.TapAction removed in GNOME 49; use Clutter.LongPressGesture"
     category := "version-compat"
     fix := "Use new Clutter.LongPressGesture() instead"
     least := some 49 },
   { id := "R-VER49-04"
     pattern := "\\bMeta\\.Window\\.get_maximized\\b"
     blocking := true
     message := "Meta.Window.get_maximized() removed in GNOME 49; use is_maximized()"
     category := "version-compat"
     fix := "Use window.is_maximized() instead of window.get_maximized()"
     least := some 49 },
   { id := "R-VER49-05"
     pattern := "\\bCursorTracker\\.set_pointer_visible\\b"
     blocking := true
     message :=
       "CursorTracker.set_pointer_visible() removed in GNOME 49; use " ++
       "inhibit/uninhibit_cursor_visibility()"
     category := "version-compat"
     fix := "Use tracker.inhibit_cursor_visibility() / uninhibit_cursor_visibility()"
     least := some 49 },
   { id := "R-VER49-06"
     pattern := "\\bClutter\\.DragAction\\b"
     blocking := true
     message := "Clutter.DragAction removed in GNOME 49; use Clutter.DragGesture"
     category := "version-compat"
     fix := "Use new Clutter.DragGesture() instead"
     least := some 49 },
   { id := "R-VER49-07"
     pattern := "\\bClutter\\.SwipeAction\\b"
     blocking := true
     message := "Clutter.SwipeAction removed in GNOME 49; use Clutter.SwipeGesture"
     category := "version-compat"
     fix := "Use new Clutter.SwipeGesture() instead"
     least := some 49 },
   { id := "R-VER49-08"
     pattern := "\\bmaximize\\s*\\(\\s*(Meta\\.)?MaximizeFlags"
     blocking := true
     message :=
       "maximize() lost MaximizeFlags parameter in GNOME 49; use set_maximize_flags() first"
     category := "version-compat"
     fix := "Call window.set_maximize_flags(flags) then window.maximize()"
     least := some 49 },
   { id := "R-VER49-09"
     pattern := "\\bAppMenuButton\\b"
     blocking := true
     message := "AppMenuButton removed from panel.js in GNOME 49"
     category := "version-compat"
     fix := "AppMenuButton was removed without replacement in GNOME 49"
     least := some 49 },
   { id := "R-VER49-10"
     pattern := "\\bDoNotDisturbSwitch\\b"
     blocking := true
     message := "DoNotDisturbSwitch was removed in GNOME 49 — use DoNotDisturbToggle"
     category := "version-compat"
     fix := "Replace DoNotDisturbSwitch with DoNotDisturbToggle"
     least := some 49 },
   { id := "R-VER49-11"
     pattern := "\\bunmaximize\\s*\\([^)]*MaximizeFlags"
     blocking := true
     message := "MaximizeFlags parameter was removed from unmaximize() in GNOME 49"
     category := "version-compat"
     fix := "Call unmaximize() without the MaximizeFlags parameter"
     least := some 49 },
   { id := "R-VER50-01"
     pattern := "\\breleaseKeyboard\\s*\\("
     blocking := true
     message := "releaseKeyboard() removed from misc/keyboardManager.js in GNOME 50"
     category := "version-compat"
     fix := "Remove calls to releaseKeyboard(); this function no longer exists in GNOME 50"
     least := some 50 },
   { id := "R-VER50-02"
     pattern := "\\bholdKeyboard\\s*\\("
     blocking := true
     message := "holdKeyboard() removed from misc/keyboardManager.js in GNOME 50"
     category := "version-compat"
     fix := "Remove calls to holdKeyboard(); this function no longer exists in GNOME 50"
     least := some 50 },
   { id := "R-VER50-03"
     pattern := "connect\\s*\\(\\s*['\"]show-restart-message['\"]"
     blocking := true
     message :=
       "'show-restart-message' signal removed from global.display in GNOME 50 (X11 support " ++
       "dropped)"
     category := "version-compat"
     fix :=
       "Remove the signal connection; restart is no longer available in GNOME 50 (Wayland " ++
       "only)"
     least := some 50 },
   { id := "R-VER50-04"
     pattern := "connect\\s*\\(\\s*['\"]restart['\"]"
     blocking := true
     message := "'restart' signal removed from global.display in GNOME 50 (X11 support dropped)"
     category := "version-compat"
     fix :=
       "Remove the signal connection; restart is no longer available in GNOME 50 (Wayland " ++
       "only)"
     least := some 50 },
   { id := "R-VER50-05"
     pattern := "timeout_add_once|idle_add_once|timeout_add_seconds_once"
     blocking := false
     message :=
       "One-shot timeouts cannot be cancelled with Source.remove() — use a _destroyed guard " ++
       "in the callback"
     category := "version-compat"
     fix := "Check if (this._destroyed) return; at the start of the callback"
     least := some 50 }]

end ExtensionAudit.Rule.Catalogue
