import ExtensionAudit.Decimal.Fixed
import ExtensionAudit.Quality.Volume

/-!
# Density

Checks that compare two counts: error handlers with functions, comments with code, verbose
forms with short ones.  Bounds on a quotient are compared as whole numbers; only the quotient
that is shown is a floating-point number.
-/

namespace ExtensionAudit.Quality

/-- A quotient as text with a number of places. -/
def quotientText (places num den : Nat) : String :=
  Decimal.fixedText places (num.toFloat / den.toFloat)

/-! ## Error handlers -/

/-- The head of a named function. -/
def functionHead : Pattern := Pattern.of "\\b(function|async\\s+function)\\s+\\w+\\s*\\("

/-- A head with a block, of a method or of a statement. -/
def blockHead : Pattern := Pattern.of "\\b(async\\s+)?\\w+\\s*\\([^)]*\\)\\s*\\\x7b"

/-- A word that starts a statement with a block. -/
def statementWord : Pattern := Pattern.of "\\b(if|else|for|while|switch|catch|do)\\b"

/-- The start of a protected block. -/
def tryBlock : Pattern := Pattern.of "\\btry\\s*\\\x7b"

/-- A protected block that does nothing but destroy. -/
def protectedDestroy : Pattern :=
  Pattern.of "try\\s*\\\x7b[^\x7d]*\\.destroy\\(\\)[^\x7d]*\\\x7d\\s*catch"

/-- The line starts a function. -/
def startsFunction (line : Text) : Bool :=
  functionHead.found line || (blockHead.found line && !statementWord.found line)

/-- The numbers of the lines that start a protected block around a call that destroys.  The block
has to end within five lines. -/
def protectedDestroys (n : Nat) : List Text → List Nat
  | [] => []
  | line :: rest =>
      let more := protectedDestroys (n + 1) rest
      if tryBlock.found line && protectedDestroy.found ((line :: rest).take 5).flatten then
        n :: more
      else more

/-- Reports many error handlers in files, each given by its lines. -/
def reportHandlers (files : List (Path × List Text)) : Check Unit :=
  let tries := Text.total (files.map fun (_, lines) => lines.countP tryBlock.found)
  let functions := Text.total (files.map fun (_, lines) => max (lines.countP startsFunction) 1)
  if 2 * tries > max functions 1 && tries ≥ 3 then
    Check.warn "quality/try-catch-density"
      (s!"{tries} try-catch blocks across {functions} functions " ++
        s!"(ratio: {quotientText 1 tries (max functions 1)}) — review for necessity")
  else
    Check.pass "quality/try-catch-density" s!"Try-catch ratio acceptable ({tries}/{functions})"

/-- Reports error handlers around calls that destroy. -/
def reportProtectedDestroys (files : List (Path × List Text)) : Check Unit :=
  Trace.each files fun (p, lines) =>
    Trace.each (protectedDestroys 1 lines) fun n =>
      Check.warn "quality/destroy-try-catch"
        s!"{p.atLine n}: try-catch around .destroy() — usually unnecessary"

/-- Reports many error handlers, and those around calls that destroy. -/
def checkTryCatchDensity (ext : Extension) : Check Unit := do
  let files := (← ext.texts ext.scripts).map fun (p, t) => (p, Text.newlineLines t)
  reportHandlers files
  reportProtectedDestroys files

/-! ## Flags for destroyed objects -/

/-- Names of flags that tell whether an object is still in use. -/
def stateFlags : List Text :=
  ["_destroyed".toList, "_pendingDestroy".toList, "_initializing".toList]

/-- At how many places a text names a flag. -/
def flagCount (t : Text) : Nat :=
  Text.total (stateFlags.map fun name => Text.occurrences name t)

/-- Reports a code that asks often whether an object is still in use. -/
def checkDestroyedDensity (ext : Extension) : Check Unit := do
  let files := (← ext.texts ext.scripts).map fun (p, t) => (p, flagCount t, inkedLines t)
  let total := Text.total (files.map fun (_, count, _) => count)
  let lines := Text.total (files.map fun (_, _, lines) => lines)
  let users := (files.filter fun (_, count, _) => count > 0).map fun (p, count, _) => (p, count)
  if total ≥ 10 && lines > 0 && 50 * total > lines then
    let top := ((users.mergeSort fun a b => a.2 ≥ b.2).take 3).map fun (p, count) =>
      s!"{p.shown}({count})"
    Check.warn "quality/destroyed-density"
      (s!"{total} _destroyed/_pendingDestroy/_initializing " ++
        s!"checks across {users.length} files " ++
        s!"(ratio: {quotientText 3 total lines}) — top: " ++ ", ".intercalate top)
  else
    Check.pass "quality/destroyed-density"
      s!"Destroyed-flag density acceptable ({total} in {lines} lines)"

/-! ## Comments -/

/-- Counts of lines, and whether a block comment is open. -/
structure CommentCount where
  /-- Lines of comments. -/
  comments : Nat := 0
  /-- Lines of code. -/
  code : Nat := 0
  /-- A block comment is open. -/
  inBlock : Bool := false
deriving DecidableEq, Repr

/-- One line more. -/
def CommentCount.step (s : CommentCount) (line : Text) : CommentCount :=
  let t := Text.trim line
  let closes := Text.occursIn ['*', '/'] t
  if t.isEmpty then s
  else if s.inBlock then { s with comments := s.comments + 1, inBlock := !closes }
  else if ['/', '*'].isPrefixOf t then
    { s with comments := s.comments + 1, inBlock := !closes }
  else if ['/', '/'].isPrefixOf t || ['*'].isPrefixOf t then
    { s with comments := s.comments + 1 }
  else { s with code := s.code + 1 }

/-- The counts for a file, a header of ten lines apart. -/
def commentCount (lines : List Text) : CommentCount :=
  (lines.drop 10).foldl CommentCount.step {}

/-- Reports the first file of fifty lines or more in which two lines of five are comments. -/
def checkCommentDensity (ext : Extension) : Check Unit := do
  let dense? ← ext.firstText? (fun p t =>
    let lines := Text.newlineLines t
    let s := commentCount lines
    let total := s.comments + s.code
    if lines.length ≥ 50 && total > 0 && 5 * s.comments > 2 * total then
      some (p, s.comments, total)
    else none) ext.scripts
  match dense? with
  | some (p, comments, total) =>
      Check.warn "quality/comment-density"
        (s!"{p.shown}: {comments}/{total} lines are comments " ++
          s!"({comments * 100 / total}%) — may indicate AI-generated verbose comments")
  | none => Check.pass "quality/comment-density" "Comment density acceptable"

/-- A comment that gives an order. -/
def orderComment : Pattern :=
  Pattern.of ("//\\s*(Important|Note|Remember|TODO|FIXME):\\s*" ++
    "(Make sure|Ensure|Always|Don't forget|Handle|Never|Check|Verify)") { anyCase := true }

/-- Reports the first file with more than five comments that give orders. -/
def checkCommentPromptDensity (ext : Extension) : Check Unit := do
  let dense? ← ext.firstText? (fun p t =>
    let count := (Text.newlineLines t).countP orderComment.found
    if count > 5 then some (p, count) else none) ext.scripts
  match dense? with
  | some (p, count) =>
      Check.warn "quality/comment-prompt-density"
        (s!"{p.shown}: {count} imperative instructional comments — " ++
          "reads like LLM prompts; explain 'why' not 'what to do'")
  | none =>
      Check.pass "quality/comment-prompt-density" "No excessive instructional comment patterns"

/-! ## Verbose forms -/

/-- A condition on a reference around a call that destroys it. -/
def verboseCleanup : Pattern :=
  Pattern.of "if\\s*\\(this\\._\\w+\\)\\s*\\\x7b[^\x7d]*\\.destroy\\(\\)"

/-- An optional call that destroys. -/
def shortCleanup : Pattern := Pattern.of "\\?\\.\\s*destroy\\s*\\("

/-- Reports verbose cleanup where most could be short. -/
def checkRedundantCleanup (ext : Extension) : Check Unit := do
  let texts ← ext.texts ext.scripts
  let verbose := Text.total (texts.map fun (_, t) => (verboseCleanup.all t).length)
  let short := Text.total (texts.map fun (_, t) => (shortCleanup.all t).length)
  let total := verbose + short
  if total ≥ 4 && 5 * verbose > 3 * total then
    Check.warn "quality/redundant-cleanup"
      (s!"{verbose} verbose destroy guards vs {short} idiomatic " ++
        "'?.destroy()' — prefer optional chaining for cleanup")
  else
    Check.pass "quality/redundant-cleanup"
      s!"Cleanup pattern balance OK (verbose: {verbose}, idiomatic: {short})"

/-- Comparisons with a missing value. -/
def nullChecks : List Pattern :=
  [Pattern.of "===?\\s*null\\b", Pattern.of "!==?\\s*null\\b", Pattern.of "===?\\s*undefined\\b",
    Pattern.of "typeof\\s+\\w+\\s*!==?\\s*['\"]undefined['\"]"]

/-- Reports a code that compares often with a missing value. -/
def checkExcessiveNullChecks (ext : Extension) : Check Unit := do
  let texts ← ext.texts ext.scripts
  let lines := Text.total (texts.map fun (_, t) => inkedLines t)
  let checks ← sumOfCode ext fun line => Text.total (nullChecks.map fun p => (p.all line).length)
  if lines > 0 && checks ≥ 15 && 50 * checks > lines then
    Check.warn "quality/excessive-null-checks"
      (s!"{checks} null/undefined checks across {lines} lines " ++
        s!"(ratio: {quotientText 3 checks lines}) — " ++
        "prefer optional chaining (?.) or nullish coalescing (??)")
  else
    Check.pass "quality/excessive-null-checks"
      s!"Null/undefined check density acceptable ({checks} in {lines} lines)"

end ExtensionAudit.Quality
