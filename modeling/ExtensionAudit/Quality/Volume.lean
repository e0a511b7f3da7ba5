import ExtensionAudit.Extension
import ExtensionAudit.Pattern.Search
import ExtensionAudit.Source.Comments
import ExtensionAudit.Text.Lines

/-!
# Volume

Checks that count: lines of code, calls that log, notifications.  A count over a bound is worth
a closer look.
-/

namespace ExtensionAudit.Quality

/-- The line holds more than blanks. -/
def isInked (line : Text) : Bool := !(Text.trim line).isEmpty

/-- How many lines of a text hold more than blanks. -/
def inkedLines (t : Text) : Nat := (Text.newlineLines t).countP isInked

/-- The lines of a text outside of comments. -/
def codeLines (t : Text) : List Text :=
  (Text.newlineLines t).filter fun line => !Source.isCommentLine line

/-- A sum over the lines of all scripts that are outside of comments. -/
def sumOfCode (ext : Extension) (f : Text → Nat) : Except Fault Nat := do
  let texts ← ext.texts ext.scripts
  return Text.total (texts.map fun (_, t) => Text.total ((codeLines t).map f))

/-- Reports an extension of more than 8000 lines. -/
def checkCodeVolume (ext : Extension) : Check Unit := do
  let texts ← ext.texts ext.scripts
  let total := Text.total (texts.map fun (_, t) => inkedLines t)
  if total > 8000 then
    Check.warn "quality/code-volume"
      (s!"{total} non-blank JS lines — large codebase; " ++
        "ensure all code is necessary and manually reviewed")
  else
    Check.pass "quality/code-volume" s!"Code volume OK ({total} non-blank lines)"

/-- The most lines that a file should have.  Preferences build their windows in code and may be
longer. -/
def lineBound (p : Path) : Nat := if p.name == "prefs.js" then 2000 else 1500

/-- Reports the first file that has too many lines. -/
def checkFileComplexity (ext : Extension) : Check Unit := do
  let large? ← ext.firstText? (fun p t =>
    let count := inkedLines t
    if count > lineBound p then some (p, count) else none) ext.scripts
  match large? with
  | some (p, count) =>
      Check.warn "quality/file-complexity"
        s!"{p.shown}: {count} non-blank lines — consider splitting into modules"
  | none =>
      Check.pass "quality/file-complexity" "No individual files exceed complexity thresholds"

/-- Reports more than 15 calls that write debug messages. -/
def checkDebugVolume (ext : Extension) : Check Unit := do
  let total ← sumOfCode ext (Text.occurrences "console.debug(".toList)
  if total > 15 then
    Check.warn "quality/debug-volume"
      (s!"{total} console.debug() calls — excessive for production; " ++
        "remove or reduce debug logging before submission")
  else
    Check.pass "quality/debug-volume" s!"Debug logging volume OK ({total} calls)"

/-- The calls that write messages; plain logging is refused elsewhere. -/
def messageCalls : List Text :=
  ["console.debug(".toList, "console.warn(".toList, "console.error(".toList,
    "console.info(".toList]

/-- Reports more calls that write messages than the size of the code allows. -/
def checkLoggingVolume (ext : Extension) : Check Unit := do
  let total ← sumOfCode ext fun line =>
    Text.total (messageCalls.map fun call => Text.occurrences call line)
  let lines ← sumOfCode ext fun line => if isInked line then 1 else 0
  let threshold := max 30 (lines / 70)
  if total > threshold then
    Check.warn "quality/logging-volume"
      (s!"{total} total console.* calls (threshold: {threshold} for " ++
        s!"{lines} lines) — excessive logging may cause " ++
        "rejection; keep only essential error/warning messages")
  else
    Check.pass "quality/logging-volume"
      s!"Total logging volume OK ({total} calls, threshold: {threshold})"

/-- A call that shows a notification. -/
def notifyCall : Pattern := Pattern.of "Main\\.notify\\s*\\("

/-- Reports more than five calls that show notifications. -/
def checkNotificationVolume (ext : Extension) : Check Unit := do
  let total ← sumOfCode ext fun line => (notifyCall.all line).length
  if total > 5 then
    Check.warn "quality/notification-volume"
      (s!"{total} Main.notify() call sites — reviewers consider excessive " ++
        "notifications a rejection risk; keep 2-3 essential (errors, one-time setup)")
  else
    Check.pass "quality/notification-volume" s!"Notification volume OK ({total} call sites)"

/-- A call that logs or writes a debug message. -/
def debugCall : Pattern := Pattern.of "\\bconsole\\.(debug|log)\\s*\\("

/-- A word that tells of a switch for messages. -/
def messageSwitch : Pattern :=
  Pattern.of "(\\bsettings\\b|_debug\\b|\\bDEBUG\\b|\\bverbose\\b|\\blogLevel\\b)"

/-- Reports more than 15 lines that log when nothing can switch them off. -/
def checkExcessiveLogging (ext : Extension) : Check Unit := do
  let count ← sumOfCode ext fun line => if debugCall.found (Text.trimFront line) then 1 else 0
  let guards ← sumOfCode ext fun line => if messageSwitch.found (Text.trimFront line) then 1 else 0
  if count > 15 && guards == 0 then
    Check.warn "quality/excessive-logging"
      (s!"{count} console.debug/log calls without a settings guard — " ++
        "consider making debug output configurable")
  else
    Check.pass "quality/excessive-logging"
      s!"Logging volume acceptable ({count} debug/log calls)"

end ExtensionAudit.Quality
