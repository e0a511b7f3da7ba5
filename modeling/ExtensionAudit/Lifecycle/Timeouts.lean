import ExtensionAudit.Lifecycle.Basic

/-!
# Timeouts

A timeout or idle callback belongs to the main loop until it is removed.  The checks look for
identifiers that are not stored, not removed or overwritten, and for callbacks that do not say
whether they want to run again.
-/

namespace ExtensionAudit.Lifecycle

/-- A call that starts a timeout. -/
def timeoutCall : Pattern := Pattern.of "(timeout_add|idle_add)\\s*\\("

/-- A timeout whose identifier is used. -/
def keptTimeout : Pattern := Pattern.of "(=|return)\\s*.*(timeout_add|idle_add)"

/-- The line starts a timeout, comments apart. -/
def startsTimeout (line : Text) : Bool :=
  !Source.isCommentLine line && timeoutCall.found (Text.trim line)

/-- Reports timeouts whose identifiers are lost. -/
def checkUntrackedTimeouts (ext : Extension) : Check Unit := do
  if ext.runtimeScripts.isEmpty then return
  let places := (← ext.texts ext.runtimeScripts).flatMap fun (p, t) =>
    (Text.numbered (Text.lines t)).filterMap fun (n, line) =>
      if startsTimeout line && !keptTimeout.found (Text.trim line) then some (p.atLine n) else none
  if places.isEmpty then
    Check.pass "lifecycle/untracked-timeout" "All timeout/idle sources have stored IDs"
  else
    Trace.each places fun place =>
      Check.warn "lifecycle/untracked-timeout"
        (s!"{place}: timeout_add/idle_add return value not stored — " ++
          "cannot be removed in disable()")

/-- The identifier of a timeout is stored in a property. -/
def storedTimeout : Pattern := Pattern.of "this\\.(_\\w+)\\s*=\\s*.*?(timeout_add|idle_add)"

/-- A call that removes a timeout. -/
def removeCall : Pattern := Pattern.of "(Source\\.remove|source_remove)\\s*\\("

/-- The removal of the timeout in the property of a name. -/
def removalOf (name : Text) : Pattern :=
  (Pattern.of "(Source\\.remove|source_remove)\\s*\\(\\s*this\\.").followedBy name

/-- The names of the properties that store timeouts, each once and in order. -/
def timeoutNames (t : Text) : List Text :=
  (((storedTimeout.all t).map fun m => m.group 1).eraseDups).mergeSort fun a b =>
    !Text.precedes b a

/-- Reports stored timeouts that `disable` does not remove, where it removes none at all. -/
def checkTimeoutRemoval (ext : Extension) : Check Unit := do
  match ← mainCode? ext with
  | none => return
  | some t =>
      match timeoutNames t, disableBlock? t with
      | [], _ => return
      | _, none => return
      | names, some block =>
          let missing := names.filter fun name =>
            !(removalOf name).found block && !removeCall.found block
          if missing.isEmpty then
            Check.pass "lifecycle/timeout-not-removed"
              "All stored timeout/idle IDs have Source.remove() in disable()"
          else
            Trace.each missing fun name =>
              Check.fail "lifecycle/timeout-not-removed"
                (s!"this.{String.ofList name} stores timeout/idle source but no " ++
                  "GLib.Source.remove() call found in disable()")

/-- The numbers of the lines that start a timeout without an answer within twenty lines. -/
def unanswered (n : Nat) : List Text → List Nat
  | [] => []
  | line :: rest =>
      let ahead := Text.join ['\n'] ((line :: rest).take 20)
      let more := unanswered (n + 1) rest
      if startsTimeout line && !Text.occursIn "SOURCE_REMOVE".toList ahead &&
          !Text.occursIn "SOURCE_CONTINUE".toList ahead then n :: more
      else more

/-- Reports the first three callbacks that do not say whether they want to run again. -/
def checkTimeoutReturnValue (ext : Extension) : Check Unit := do
  if ext.runtimeScripts.isEmpty then return
  let places ← ext.gather (fun p t => (unanswered 1 (Text.lines t)).map p.atLine) 3
    ext.runtimeScripts
  if places.isEmpty then
    Check.pass "lifecycle/timeout-return-value"
      "All timeout/idle callbacks return SOURCE_REMOVE or SOURCE_CONTINUE"
  else
    Check.warn "lifecycle/timeout-return-value"
      ("timeout_add/idle_add callback missing SOURCE_REMOVE/SOURCE_CONTINUE: " ++
        ", ".intercalate places)

/-- A property that stores a timeout as it is started. -/
def startedTimeout : Pattern :=
  Pattern.of "this\\.(_\\w+)\\s*=\\s*.*?(timeout_add|idle_add)\\s*\\("

/-- A timeout stored in the property of a name. -/
def timeoutOf (name : Text) : Pattern :=
  Pattern.of ("this\\." ++ String.ofList name ++ "\\s*=\\s*.*?(timeout_add|idle_add)\\s*\\(")

/-- The number of the first line that overwrites the identifier of a timeout in `code` without a
removal in the five lines before it.  `before` holds the lines before, the nearest first. -/
def overwriting? (code : Text) (n : Nat) (before : List Text) : List Text → Option Nat
  | [] => none
  | line :: rest =>
      let overwrites := match startedTimeout.search line with
        | some m =>
            let name := m.group 1
            ((timeoutOf name).all code).length ≥ 2 &&
              !(removalOf name).found (Text.join ['\n'] (before.take 5).reverse)
        | none => false
      if overwrites then some n else overwriting? code (n + 1) (line :: before) rest

/-- Reports the first line of each file that overwrites the identifier of a timeout. -/
def checkTimeoutReassignment (ext : Extension) : Check Unit := do
  if ext.runtimeScripts.isEmpty then return
  let places := (← runtimeCode ext).filterMap fun (p, t) =>
    (overwriting? t 1 [] (Text.lines t)).map p.atLine
  if places.isEmpty then
    Check.pass "lifecycle/timeout-reassignment"
      "No timeout ID reassignment without removal detected"
  else
    Trace.each places fun place =>
      Check.warn "lifecycle/timeout-reassignment"
        (s!"{place}: timeout/idle ID reassigned without prior " ++
          "GLib.Source.remove() — may leak GLib sources")

end ExtensionAudit.Lifecycle
