import ExtensionAudit.Quality.Volume
import ExtensionAudit.Source.Block

/-!
# State

Checks on state that cannot arise, on state that outlives the extension, and on errors that are
swallowed.
-/

namespace ExtensionAudit.Quality

/-! ## States that cannot arise -/

/-- The session modes that the manifest declares, whatever value stands there. -/
def sessionModes (ext : Extension) : Except Fault (Option Json) := do
  if ext.isFile Extension.manifestPath then
    match ← ext.manifest? with
    | some m => m.member? "session-modes"
    | none => return none
  else return none

/-- The extension declares that it runs on the lock screen or the login screen. -/
def runsLocked (modes : Option Json) : Bool :=
  match modes with
  | some (.arr items) => ["unlock-dialog", "gdm"].any fun name => items.any (·.isString name)
  | _ => false

/-- A question whether the screen is locked. -/
def lockQuestion : Pattern := Pattern.of "sessionMode\\.isLocked"

/-- A comparison of the mode with that of the lock screen. -/
def modeQuestion : Pattern := Pattern.of "currentMode\\s*===?\\s*['\"]unlock-dialog['\"]"

/-- What is wrong with a line that asks for the lock screen. -/
def lockRemark? (line : Text) : Option String :=
  if lockQuestion.found line then
    some "checks isLocked but extension does not run in lock screen"
  else if modeQuestion.found line then
    some "checks for unlock-dialog but extension does not declare this session-mode"
  else none

/-- Reports the lines of a file that ask for the lock screen, and tells whether there are any. -/
def reportLockLines (ext : Extension) (p : Path) : Check Bool := do
  let t ← ext.text p
  let remarks := (Text.numbered (Text.newlineLines t)).filterMap fun (n, line) =>
    (lockRemark? line).map fun remark => s!"{p.atLine n}: {remark}"
  Trace.each remarks (Check.warn "quality/impossible-state")
  return !remarks.isEmpty

/-- Reports questions for the lock screen in an extension that never runs there. -/
def checkImpossibleState (ext : Extension) : Check Unit := do
  if runsLocked (← sessionModes ext) then
    Check.pass "quality/impossible-state" "Extension declares lock screen session-modes"
  else
    let found ← ext.scripts.mapM (reportLockLines ext)
    if !found.any id then
      Check.pass "quality/impossible-state" "No impossible state checks found"

/-- Reports two flags that together make up for a missing order of events. -/
def checkPendulumPattern (ext : Extension) : Check Unit := do
  let texts ← ext.texts ext.scripts
  let uses (flag : String) : Bool := texts.any fun (_, t) => Text.occursIn flag.toList t
  if uses "_pendingDestroy" && uses "_initializing" then
    Check.warn "quality/pendulum-pattern"
      ("Uses _pendingDestroy + _initializing coordination — " ++
        "consider simpler _destroyed flag pattern per GNOME conventions")
  else
    Check.pass "quality/pendulum-pattern" "No over-engineered async coordination detected"

/-! ## State of a module -/

/-- The numbered lines after which no block is open, if `depth` blocks are open before the
first.  Here closing braces too many do count. -/
def closedLinesFrom (n : Nat) (depth : Int) : List Text → List (Nat × Text)
  | [] => []
  | line :: rest =>
      let depth := depth + Source.surplus line
      let more := closedLinesFrom (n + 1) depth rest
      if depth ≤ 0 then (n, line) :: more else more

/-- The numbered lines after which no block is open. -/
def closedLines (lines : List Text) : List (Nat × Text) :=
  closedLinesFrom 1 0 lines

/-- The declaration of a variable at the start of a line. -/
def declaration : Pattern := Pattern.of "\\s*(let|var)\\s+(\\w+)"

/-- An assignment that resets the variable of a name. -/
def resetOf (name : Text) : Pattern :=
  Pattern.of ("\\b" ++ String.ofList name ++ "\\s*=\\s*" ++
    "(?:null|undefined|0|false|true|(?:''|\"\")|Promise\\.resolve\\(\\))\\s*[;\\n]")

/-- The numbers of the lines that declare a variable of the module which is never reset. -/
def lastingVariables (t : Text) : List Nat :=
  (closedLines (Text.lines t)).filterMap fun (n, line) =>
    match declaration.matchStart line with
    | some m => if (resetOf (m.group 2)).found t then none else some n
    | none => none

/-- Reports variables of a module that are never reset. -/
def checkModuleState (ext : Extension) : Check Unit := do
  let places := (← ext.texts ext.scripts).flatMap fun (p, t) =>
    (lastingVariables t).map p.atLine
  if places.isEmpty then
    Check.pass "quality/module-state" "No module-level mutable state found"
  else
    Check.warn "quality/module-state"
      ("Module-level mutable state at " ++ ", ".intercalate (places.take 5) ++
        " — ensure reset in both enable() and disable()")

/-! ## Errors that are swallowed -/

/-- A handler with its body. -/
def handler : Pattern := Pattern.of "\\bcatch\\s*(?:\\([^)]*\\))?\\s*\\\x7b([\\s\\S]*?)\\\x7d"

/-- A protected block at the end of a text, with its body. -/
def endingTry : Pattern := Pattern.of "\\btry\\s*\\\x7b([\\s\\S]*)\\\x7d[\\s\\n]*$"

/-- A call whose failure needs no answer. -/
def harmlessCall : Pattern :=
  Pattern.of ("\\.(disconnect|cancel|destroy|close)\\s*\\(|import\\s*\\(" ++
    "|\\.(get_value|set_value|get_string|set_string|get_int|set_int" ++
    "|get_boolean|set_boolean|get_double|set_double)\\s*\\(")

/-- The text before a handler shows that nothing needs to be done. -/
def excuses (before : Text) : Bool :=
  match endingTry.search before with
  | some m => harmlessCall.found (m.group 1)
  | none => false

/-- The numbers of the lines on which a handler without a body starts. -/
def emptyHandlers (t : Text) : List Nat :=
  (handler.all t).filterMap fun m =>
    let before := t.take m.start
    if (Text.trim (m.group 1)).isEmpty && !excuses before then some (Text.newlines before + 1)
    else none

/-- Reports handlers without a body. -/
def checkEmptyCatch (ext : Extension) : Check Unit := do
  let places := (← ext.texts ext.scripts).flatMap fun (p, t) => (emptyHandlers t).map p.atLine
  if places.isEmpty then
    Check.pass "quality/empty-catch" "No empty catch blocks found"
  else
    Trace.each places fun place =>
      Check.warn "quality/empty-catch"
        s!"{place}: empty catch block — at minimum log with console.debug()"

end ExtensionAudit.Quality
