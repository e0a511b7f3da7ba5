import ExtensionAudit.Lifecycle.Pairs
import ExtensionAudit.Text.Case

/-!
# Waiting

Operations that finish later must be cancelled when the extension is switched off.  The checks
look for operations that cannot be cancelled, and for callbacks on methods that do not wait.
-/

namespace ExtensionAudit.Waiting

/-! ## Operations -/

/-- Operations on files and sessions that finish later. -/
def operations : List Pattern :=
  ["load_contents_async", "send_and_read_async", "read_bytes_async", "write_bytes_async",
    "query_info_async", "enumerate_children_async", "replace_contents_async"].map fun name =>
      Pattern.of (name ++ "\\s*\\(")

/-- The line numbers of the operations in a text, one kind after the other. -/
def operationLines (t : Text) : List Nat :=
  operations.flatMap fun p => (p.all t).map fun m => Text.newlines (t.take m.start) + 1

/-- Reports operations if nothing in the code can cancel any. -/
def checkCancellableUse (ext : Extension) : Check Unit := do
  let texts ← Lifecycle.runtimeCode ext
  let places := texts.flatMap fun (p, t) => (operationLines t).map p.atLine
  if !places.isEmpty then
    if texts.any fun (_, t) => Text.occursIn "Gio.Cancellable".toList t then
      Check.pass "async/cancellable-used" "Gio.Cancellable used with async operations"
    else
      Check.warn "async/no-cancellable"
        ("Gio async calls at " ++ ", ".intercalate (places.take 3) ++
          " without Gio.Cancellable — async operations should be cancellable via disable()")

/-! ## Arguments of calls -/

/-- The head of a function with its parameters. -/
def parameterHead : Pattern := Pattern.of "(?:async\\s+)?\\w+\\s*\\(([^)]*)\\)\\s*\\\x7b"

/-- The names of parameters, in lower case and without their defaults. -/
def parameterNames (parameters : Text) : List Text :=
  (Text.splitAt ',' (Text.lower parameters)).map fun p =>
    Text.trim (Text.before '=' (Text.trim p))

/-- The line starts a function that takes something to cancel by. -/
def takesCancellable (line : Text) : Bool :=
  match parameterHead.search line with
  | some m =>
      (parameterNames (m.group 1)).any fun name =>
        ["iscancelled", "cancellable", "cancel"].contains (String.ofList name)
  | none => false

/-- Where a walk through the lines stands. -/
structure CallScan where
  /-- Open blocks. -/
  depth : Int := 0
  /-- The open blocks before a function that takes something to cancel by, while inside it. -/
  covered? : Option Int := none
deriving DecidableEq, Repr

/-- One line outside of comments: where the walk stands after it, and whether the line calls an
operation that nothing can cancel. -/
def CallScan.step (s : CallScan) (line : Text) : CallScan × Bool :=
  let covered? := if takesCancellable line then some s.depth else s.covered?
  let depth := s.depth + Source.surplus line
  let covered? := covered?.filter fun start => depth > start
  let calls := Text.occursIn "_async(".toList line &&
    !Text.occursIn "cancellable".toList (Text.lower line)
  ({ depth, covered? }, calls && covered?.isNone)

/-- The numbers of the lines that call an operation that nothing can cancel. -/
def looseCallsFrom (n : Nat) (s : CallScan) : List Text → List Nat
  | [] => []
  | line :: rest =>
      if Source.isCommentLine line then looseCallsFrom (n + 1) s rest
      else
        let (s, loose) := s.step line
        let more := looseCallsFrom (n + 1) s rest
        if loose then n :: more else more

/-- The numbers of the lines of a text that call an operation that nothing can cancel.  A text
that knows of destroyed objects has another way to be safe. -/
def looseCalls (t : Text) : List Nat :=
  if Text.occursIn "_destroyed".toList t then []
  else looseCallsFrom 1 {} (Text.linesWithEnds t)

/-- Reports calls of operations that nothing can cancel. -/
def checkCallCancellable (ext : Extension) : Check Unit := do
  let places := (← ext.texts ext.runtimeScripts).flatMap fun (p, t) => (looseCalls t).map p.atLine
  if places.isEmpty then
    Check.pass "async/missing-cancellable" "All _async() calls have cancellable argument"
  else
    let more := if places.length > 3 then s!" (+{places.length - 3} more)" else ""
    Check.warn "async/missing-cancellable"
      ("_async() calls without Gio.Cancellable at " ++ ", ".intercalate (places.take 3) ++
        s!"{more} — async operations may run after disable()")

/-! ## Switching off -/

/-- A call that ends an operation. -/
def endCall : Pattern := Pattern.of "\\.(cancel|abort)\\s*\\("

/-- The flag for a destroyed object is set. -/
def setsDestroyed : Pattern := Pattern.of "_destroyed\\s*=\\s*true"

/-- The body of the method `disable`. -/
def disableBody? (t : Text) : Option Text :=
  (Source.afterMethod? "disable" t).map Source.blockBody

/-- Reports a main script that waits and whose method `disable` ends nothing. -/
def checkDisableCancellation (ext : Extension) : Check Unit := do
  match ← Lifecycle.mainCode? ext with
  | none => return
  | some t =>
      match disableBody? t with
      | none => return
      | some body =>
          if Lifecycle.waits t then
            if endCall.found body || setsDestroyed.found body then
              Check.pass "async/disable-cancellation" "disable() handles async cancellation"
            else
              Check.warn "async/disable-no-cancel"
                ("Extension uses async but disable() has no .cancel(), " ++
                  ".abort(), or _destroyed flag — async operations may outlive disable()")

/-! ## Callbacks on methods that do not wait -/

/-- The head of a method. -/
def methodHead : Pattern := Pattern.of "(async\\s+)?(\\w+)\\s*\\([^)]*\\)\\s*\\\x7b"

/-- A callback on the result of a method. -/
def callbackCall : Pattern := Pattern.of "this\\.(_?\\w+)\\(\\)\\.(?:catch|then)\\s*\\("

/-- The last head with a name is there and does not wait. -/
def isPlainMethod (heads : List Pattern.Found) (name : Text) : Bool :=
  match (heads.filter fun m => m.group 2 == name).getLast? with
  | some m => (m.group? 1).isNone
  | none => false

/-- The callbacks on methods of the same text that do not wait, with line numbers. -/
def plainCallbacks (t : Text) : List (Nat × Text) :=
  let heads := methodHead.all t
  (Text.numbered (Text.lines t)).flatMap fun (n, line) =>
    (callbackCall.all line).filterMap fun m =>
      if isPlainMethod heads (m.group 1) then some (n, m.group 1) else none

/-- Reports the first five callbacks on methods that do not wait. -/
def checkPlainCallbacks (ext : Extension) : Check Unit := do
  let found := (← Lifecycle.runtimeCode ext).flatMap fun (p, t) =>
    (plainCallbacks t).map fun (n, name) => (p.atLine n, name)
  if found.isEmpty then
    Check.pass "async/catch-on-sync" "No .catch()/.then() calls on non-async methods"
  else
    Trace.each (found.take 5) fun (place, name) =>
      Check.warn "async/catch-on-sync"
        (s!"{place}: .catch() on non-async {String.ofList name}() " ++
          "— verify method returns a Promise")

/-- All checks on waiting. -/
def check (ext : Extension) : Check Unit := do
  if ext.runtimeScripts.isEmpty then
    Check.skip "async/no-js" "No JavaScript files found"
  else
    checkCancellableUse ext
    checkCallCancellable ext
    checkDisableCancellation ext
    checkPlainCallbacks ext

end ExtensionAudit.Waiting
