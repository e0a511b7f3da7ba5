import ExtensionAudit.Extension
import ExtensionAudit.Pattern.Search
import ExtensionAudit.Source.Comments
import ExtensionAudit.Source.Scope

/-!
# Startup

Loading an extension must change nothing.  The checks look at the code that runs when a module
is loaded or an object of it is made: the lines of the module itself and of constructors.  They
count lines in the code without its comments.
-/

namespace ExtensionAudit.Startup

/-- The head of a list of exports. -/
def exportList : Pattern := Pattern.of "^export\\s*\\\x7b"

/-- The line cannot change anything: it is blank, imports, exports, or wraps a method for
waiting. -/
def isHarmless (line : Text) : Bool :=
  let t := Text.trim line
  t.isEmpty || "import ".toList.isPrefixOf t || "import\x7b".toList.isPrefixOf t ||
    Text.occursIn "Gio._promisify".toList t || (exportList.matchStart t).isSome

/-- A part of the shell. -/
def shellPart : Pattern :=
  Pattern.of ("\\bMain\\.(panel|overview|layoutManager|sessionMode|messageTray|wm|" ++
    "extensionManager|notify)\\b")

/-- The creation of an object of the platform. -/
def platformObject : Pattern :=
  Pattern.of ("\\bnew\\s+(St\\.\\w+|Clutter\\.\\w+|Gio\\.\\w+|GLib\\.\\w+|" ++
    "GObject\\.\\w+|Meta\\.\\w+|Shell\\.\\w+|Pango\\.\\w+|" ++
    "Soup\\.\\w+|Cogl\\.\\w+|Atk\\.\\w+|GdkPixbuf\\.\\w+)\\b")

/-- The line touches the shell. -/
def touchesShell (line : Text) : Bool :=
  !isHarmless line && (shellPart.found line || platformObject.found line)

/-- The numbers of the lines of a script that touch the shell at startup: first those of the
module, then those of constructors. -/
def startupLines (t : Text) : List Nat :=
  let lines := Text.lines (Source.code t)
  (Source.moduleScope lines ++ Source.constructorLines lines).filterMap fun (n, line) =>
    if touchesShell line then some n else none

/-- Reports the lines that touch the shell at startup. -/
def checkModifications (ext : Extension) : Check Unit := do
  let places := (← ext.texts ext.runtimeScripts).flatMap fun (p, t) => (startupLines t).map p.atLine
  if places.isEmpty then
    Check.pass "init/shell-modification" "No init-time Shell modifications detected"
  else
    Trace.each places fun place =>
      Check.fail "init/shell-modification" s!"{place}: Shell modification outside enable()"

/-- The numbers of the lines that wrap a method for waiting in `enable`. -/
def lateWraps (t : Text) : List Nat :=
  (Source.enableLines (Text.lines (Source.code t))).filterMap fun (n, line) =>
    if Text.occursIn "Gio._promisify".toList line then some n else none

/-- Reports methods that are wrapped for waiting each time the extension is switched on. -/
def checkWraps (ext : Extension) : Check Unit := do
  let places := (← ext.texts ext.runtimeScripts).flatMap fun (p, t) => (lateWraps t).map p.atLine
  if places.isEmpty then
    Check.pass "init/promisify-in-enable" "No Gio._promisify() placement issues"
  else
    Trace.each places fun place =>
      Check.warn "init/promisify-in-enable"
        s!"{place}: Gio._promisify() inside enable() — should be at module scope"

/-- All checks on startup. -/
def check (ext : Extension) : Check Unit := do
  checkModifications ext
  checkWraps ext

end ExtensionAudit.Startup
