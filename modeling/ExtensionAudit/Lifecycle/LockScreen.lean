import ExtensionAudit.Lifecycle.Basic
import ExtensionAudit.Manifest.Value

/-!
# The lock screen

Checks for extensions that declare to run on the lock screen, where keyboard signals carry
passwords.
-/

namespace ExtensionAudit.Lifecycle

/-- The manifest declares the mode of the lock screen. -/
def declaresLockScreen (ext : Extension) : Except Fault Bool := do
  if ext.isFile Extension.manifestPath then
    match ← ext.manifest? with
    | some m => ((← m.member? "session-modes").getD (.arr [])).holds "unlock-dialog"
    | none => return false
  else return false

/-- The names of the signals that carry keys. -/
def keyboardSignals : List Text :=
  ["key-press-event".toList, "key-release-event".toList, "captured-event".toList]

/-- A question for the mode of the session. -/
def modeGuard : Pattern := Pattern.of "(currentMode|sessionMode|unlock-dialog|session-modes)"

/-- Reports the first file with keyboard signals. -/
def checkLockScreenSignals (ext : Extension) : Check Unit := do
  if ← declaresLockScreen ext then
    let use? ← ext.firstText? (fun p t =>
      let code := Source.code t
      if keyboardSignals.any fun name => Text.occursIn name code then some (p, code) else none)
      ext.runtimeScripts
    match use? with
    | none => return
    | some (p, code) =>
        if modeGuard.found code then
          Check.pass "lifecycle/lockscreen-signals"
            s!"{p.shown}: keyboard signal with session mode guard detected"
        else
          Check.fail "lifecycle/lockscreen-signals"
            (s!"{p.shown}: keyboard signal connected but session-modes includes " ++
              "'unlock-dialog' — must disconnect or guard keyboard signals on lock screen")

/-- A comment on the lock screen. -/
def lockComment : Pattern :=
  Pattern.of "//.*\\b(unlock|lock|session|mode)\\b" { anyCase := true }

/-- Reports a method `disable` without a comment on the lock screen. -/
def checkUnlockDialogComment (ext : Extension) : Check Unit := do
  if ← declaresLockScreen ext then
    if ext.isFile Extension.mainScript then
      match disableBlock? (← ext.text Extension.mainScript) with
      | none => return
      | some block =>
          if lockComment.found block then
            Check.pass "lifecycle/unlock-dialog-comment"
              "disable() has comment documenting lock screen behavior"
          else
            Check.warn "lifecycle/unlock-dialog-comment"
              ("extension declares 'unlock-dialog' session mode but disable() has no " ++
                "comment explaining lock screen behavior — add a comment documenting " ++
                "which resources need special handling on the lock screen")

end ExtensionAudit.Lifecycle
