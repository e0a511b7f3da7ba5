import ExtensionAudit.Lifecycle.Basic

/-!
# Signals

Checks that connections to signals are undone, and that keyboard signals are guarded on the lock
screen.
-/

namespace ExtensionAudit.Lifecycle

/-- The line connects a signal by hand. -/
def connects (line : Text) : Bool :=
  !Source.hasCall ".connectObject" line && Source.hasCall ".connect" line &&
    !Text.occursIn ".disconnect".toList line

/-- The line disconnects a signal by hand. -/
def disconnects (line : Text) : Bool :=
  !Source.hasCall ".disconnectObject" line && Source.hasCall ".disconnect" line &&
    !Source.hasCall ".connect" line

/-- Reports more connections than disconnections.  One connection too many is let pass. -/
def checkSignalBalance (ext : Extension) : Check Unit := do
  if ext.runtimeScripts.isEmpty then return
  let lines := (← ext.texts ext.runtimeScripts).flatMap fun (_, t) => Text.lines t
  let made := lines.countP connects
  let undone := lines.countP disconnects
  let tied := lines.countP (Source.hasCall ".connectObject")
  if made > undone + 1 then
    Check.warn "lifecycle/signal-balance"
      (s!"{made} manual .connect() calls but only {undone} " ++
        ".disconnect() calls — verify all signals are disconnected in disable()")
  else
    Check.pass "lifecycle/signal-balance"
      s!"Signal balance OK ({made} connects, {undone} disconnects, {tied} connectObject)"

/-- The identifier of a connection is stored. -/
def storedConnection : Pattern := Pattern.of "=\\s*\\w+\\.connect\\s*\\("

/-- Suggests connections that are tied to an object, if there are three or more by hand and none
of those. -/
def checkConnectObjectMigration (ext : Extension) : Check Unit := do
  if ext.runtimeScripts.isEmpty then return
  let texts ← ext.texts ext.runtimeScripts
  let stored := Text.total (texts.map fun (_, t) => (storedConnection.all t).length)
  let tied := texts.any fun (_, t) => Source.hasCall ".connectObject" t
  if stored ≥ 3 && !tied then
    Check.warn "lifecycle/connectObject-migration"
      (s!"{stored} manual signal connections found — " ++
        "consider using connectObject() for automatic cleanup")
  else
    Check.pass "lifecycle/connectObject-migration" "Signal connection pattern OK"

end ExtensionAudit.Lifecycle
