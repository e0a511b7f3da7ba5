import ExtensionAudit.Lifecycle.Basic

/-!
# Preferences

The preferences of an extension run in a process of their own.  The checks look at the methods
of its script, at the class it exports, at paths that do not exist in that process, and at
objects that are never given back.
-/

namespace ExtensionAudit.Preferences

/-- The path of the script. -/
def path : Path := ["prefs.js"]

/-- The older of the two methods. -/
def widgetMethod : Pattern := Pattern.of "\\bgetPreferencesWidget\\b"

/-- The newer of the two methods. -/
def windowMethod : Pattern := Pattern.of "\\bfillPreferencesWindow\\b"

/-- Reports a script with both methods or with none. -/
def checkMethods (code : Text) : Check Unit :=
  match windowMethod.found code, widgetMethod.found code with
  | true, true =>
      Check.fail "prefs/dual-prefs-pattern"
        ("prefs.js defines both getPreferencesWidget() and fillPreferencesWindow() — " ++
          "use only fillPreferencesWindow() for GNOME 45+")
  | true, false => Check.pass "prefs/prefs-method" "prefs.js uses fillPreferencesWindow()"
  | false, true => Check.pass "prefs/prefs-method" "prefs.js uses getPreferencesWidget()"
  | false, false =>
      Check.fail "prefs/missing-prefs-method"
        "prefs.js does not define fillPreferencesWindow() or getPreferencesWidget()"

/-- The class extends that of the platform. -/
def baseClass : Pattern := Pattern.of "\\bextends\\s+ExtensionPreferences\\b"

/-- Reports a script that exports no class, or one with another base. -/
def checkClass (code : Text) : Check Unit := do
  if Lifecycle.defaultClass.found code then
    Check.pass "prefs/default-export" "prefs.js has default export class"
    if baseClass.found code then
      Check.pass "prefs/extends-base" "prefs.js extends ExtensionPreferences"
    else
      Check.warn "prefs/extends-base"
        ("prefs.js default class does not extend ExtensionPreferences — " ++
          "required for GNOME 45+")
  else
    Check.warn "prefs/default-export"
      "prefs.js missing 'export default class' — required for GNOME 45+"

/-- Reports a script that names modules of the shell, in comments too. -/
def checkPaths (text : Text) : Check Unit :=
  if Text.occursIn "resource:///org/gnome/shell/ui/".toList text then
    Check.fail "prefs/resource-path"
      ("prefs.js uses Shell UI resource path (resource:///org/gnome/shell/ui/) — " ++
        "Shell UI modules are not available in the preferences process")
  else Check.pass "prefs/resource-path" "Resource paths OK"

/-- An object of the platform is stored in a property. -/
def storedObject : Pattern :=
  Pattern.of "this\\._\\w+\\s*=\\s*new\\s+(?:Gtk|Adw|Gio|GLib|GObject)\\.\\w+"

/-- A word that tells of cleanup. -/
def cleanupWord : Pattern :=
  Pattern.of "\\bdestroy\\b|\\bclose-request\\b|\\bdisconnectObject\\b|\\brun_dispose\\b"

/-- Reports stored objects if no word tells of cleanup. -/
def checkStoredObjects (code : Text) : Check Unit :=
  let stored := (storedObject.all code).map fun m =>
    String.ofList (Text.trim (Text.before '=' m.text))
  if stored.isEmpty then
    Check.pass "prefs/memory-leak" "No stored GObject instances in prefs.js"
  else if cleanupWord.found code then
    Check.pass "prefs/memory-leak" "Stored GObject instances have cleanup indicators"
  else
    Check.warn "prefs/memory-leak"
      ("GObject instances stored without cleanup: " ++ ", ".intercalate stored ++
        " — add destroy/disconnectObject in close-request handler")

/-- All checks on the preferences. -/
def check (ext : Extension) : Check Unit := do
  if ext.isFile path then
    let text ← ext.text path
    let code := Source.code text
    checkMethods code
    checkClass code
    checkPaths text
    checkStoredObjects code
  else Check.skip "prefs/exists" "No prefs.js found"

end ExtensionAudit.Preferences
