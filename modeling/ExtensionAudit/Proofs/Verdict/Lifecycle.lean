import Mathlib
import ExtensionAudit.Lifecycle
import ExtensionAudit.Proofs.Verdict

/-!
# Verdicts on the lifecycle

Each check on the lifecycle reports on names of its own, and what it reports is consistent.
Unlike the checks on quality, most of them say nothing if there is nothing to look at.
-/

namespace ExtensionAudit.Lifecycle

open Finding Trace Check

variable (ext : Extension)

/-- The names of the checks, in their order. -/
def names : List (List String) :=
  [["lifecycle/enable-method", "lifecycle/disable-method", "lifecycle/enable-disable"],
    ["lifecycle/default-export"], ["lifecycle/signal-balance"], ["lifecycle/untracked-timeout"],
    ["lifecycle/timeout-not-removed"], ["lifecycle/connectObject-migration"],
    ["lifecycle/async-destroyed-guard"], ["lifecycle/timeout-return-value"],
    ["lifecycle/keybinding-cleanup"], ["lifecycle/dbus-proxy-cleanup"],
    ["lifecycle/file-monitor-cleanup"],
    ["lifecycle/injection-cleanup", "lifecycle/prototype-override"],
    ["lifecycle/lockscreen-signals"], ["lifecycle/selective-disable"],
    ["lifecycle/unlock-dialog-comment"], ["lifecycle/clipboard-keybinding"],
    ["lifecycle/pkexec-user-writable"], ["lifecycle/dbus-export-leak"],
    ["lifecycle/timeout-reassignment"], ["lifecycle/subprocess-no-cancel"],
    ["lifecycle/clipboard-network"], ["lifecycle/soup-session-abort"],
    ["lifecycle/destroy-no-null"], ["lifecycle/widget-destroy"], ["lifecycle/settings-cleanup"]]

/-! ## Switching on and off -/

theorem sound_checkEnableDisable :
    (checkEnableDisable ext).Writes (Sound ["lifecycle/enable-method", "lifecycle/disable-method",
      "lifecycle/enable-disable"]) := by
  refine sound_found rfl fun t => ?_
  refine sound_if_then sound_report ?_ (by decide)
  refine sound_if_then sound_report ?_ (by decide)
  exact sound_if sound_report

theorem sound_checkDefaultExport :
    (checkDefaultExport ext).Writes (Sound ["lifecycle/default-export"]) :=
  sound_found rfl fun _ => sound_either

/-- There is at most one finding on the block of `disable`. -/
theorem sound_checkSelectiveDisable :
    (checkSelectiveDisable ext).Writes (Sound ["lifecycle/selective-disable"]) := by
  apply writes_lift
  intro main _
  cases main.bind disableBlock? with
  | none => exact writes_pure sound_nil
  | some block =>
      dsimp only
      split
      next => exact sound_report
      next => exact sound_report

/-! ## Signals -/

theorem sound_checkSignalBalance :
    (checkSignalBalance ext).Writes (Sound ["lifecycle/signal-balance"]) := by
  apply sound_unless
  apply writes_lift
  intro texts _
  exact sound_either

theorem sound_checkConnectObjectMigration :
    (checkConnectObjectMigration ext).Writes (Sound ["lifecycle/connectObject-migration"]) := by
  apply sound_unless
  apply writes_lift
  intro texts _
  exact sound_either

/-! ## Timeouts -/

theorem sound_checkUntrackedTimeouts :
    (checkUntrackedTimeouts ext).Writes (Sound ["lifecycle/untracked-timeout"]) := by
  apply sound_unless
  apply writes_lift
  intro texts _
  exact sound_settled (settled_pass_or_each fun _ _ => alarms_warn)

theorem sound_checkTimeoutRemoval :
    (checkTimeoutRemoval ext).Writes (Sound ["lifecycle/timeout-not-removed"]) := by
  refine sound_found rfl fun t => ?_
  dsimp only
  split
  · exact writes_pure sound_nil
  · exact writes_pure sound_nil
  · apply writes_ite
    · exact sound_report
    · exact sound_each fun _ _ => alarms_fail

theorem sound_checkTimeoutReturnValue :
    (checkTimeoutReturnValue ext).Writes (Sound ["lifecycle/timeout-return-value"]) := by
  apply sound_unless
  apply writes_lift
  intro places _
  exact sound_either

theorem sound_checkTimeoutReassignment :
    (checkTimeoutReassignment ext).Writes (Sound ["lifecycle/timeout-reassignment"]) := by
  apply sound_unless
  apply writes_lift
  intro texts _
  exact sound_settled (settled_pass_or_each fun _ _ => alarms_warn)

/-! ## Pairs -/

theorem Pair.sound_judge (pair : Pair) (texts : List (Path × Text)) :
    (pair.judge texts).Writes (Sound [pair.check]) :=
  sound_if sound_either

theorem Pair.sound_run (pair : Pair) : (pair.run ext).Writes (Sound [pair.check]) := by
  apply writes_lift
  intro texts _
  exact pair.sound_judge texts

theorem sound_checkInjections :
    (checkInjections ext).Writes
      (Sound ["lifecycle/injection-cleanup", "lifecycle/prototype-override"]) := by
  apply writes_lift
  intro texts _
  refine sound_then (injections.sound_judge texts) ?_ (by decide)
  apply sound_if
  apply writes_lift
  intro main _
  apply sound_if
  exact sound_each fun _ _ => alarms_warn

theorem sound_checkKeybindings :
    (checkKeybindings ext).Writes (Sound ["lifecycle/keybinding-cleanup"]) := by
  apply writes_lift
  intro texts _
  exact sound_if sound_either

theorem sound_checkExports :
    (checkExports ext).Writes (Sound ["lifecycle/dbus-export-leak"]) := by
  apply writes_lift
  intro texts _
  dsimp only
  split
  next => exact writes_pure sound_nil
  next => exact sound_either

/-! ## Access and the lock screen -/

theorem sound_checkClipboardKeys :
    (checkClipboardKeys ext).Writes (Sound ["lifecycle/clipboard-keybinding"]) :=
  sound_found rfl fun _ => sound_report

theorem sound_checkClipboardNetwork :
    (checkClipboardNetwork ext).Writes (Sound ["lifecycle/clipboard-network"]) := by
  apply writes_lift
  intro texts _
  exact sound_if sound_report

theorem sound_checkCommands :
    (checkCommands ext).Writes (Sound ["lifecycle/pkexec-user-writable"]) :=
  sound_found rfl fun _ => sound_report

theorem sound_checkLockScreenSignals :
    (checkLockScreenSignals ext).Writes (Sound ["lifecycle/lockscreen-signals"]) := by
  apply writes_lift
  intro declares _
  apply sound_if
  exact sound_found rfl fun _ => sound_either

theorem sound_checkUnlockDialogComment :
    (checkUnlockDialogComment ext).Writes (Sound ["lifecycle/unlock-dialog-comment"]) := by
  apply writes_lift
  intro declares _
  apply sound_if
  apply sound_if
  apply writes_lift
  intro t _
  cases disableBlock? t with
  | none => exact writes_pure sound_nil
  | some block => exact sound_either

/-! ## References -/

theorem sound_checkDestroyThenNull :
    (checkDestroyThenNull ext).Writes (Sound ["lifecycle/destroy-no-null"]) := by
  apply sound_unless
  apply writes_lift
  intro places _
  exact sound_settled (settled_pass_or_each fun _ _ => alarms_warn)

theorem sound_checkWidgetLifecycle :
    (checkWidgetLifecycle ext).Writes (Sound ["lifecycle/widget-destroy"]) := by
  refine sound_found rfl fun t => ?_
  apply writes_ite
  · exact sound_report
  · exact sound_either

theorem sound_checkSettingsCleanup :
    (checkSettingsCleanup ext).Writes (Sound ["lifecycle/settings-cleanup"]) := by
  refine sound_found rfl fun t => ?_
  apply writes_ite
  · exact sound_report
  · exact sound_either

/-! ## The whole run -/

/-- All checks of the lifecycle are sound, under their names. -/
theorem sound_checks :
    List.Forall₂ (fun c is => (c ext).Writes (Sound is)) checks names :=
  .cons (sound_checkEnableDisable ext) <| .cons (sound_checkDefaultExport ext) <|
  .cons (sound_checkSignalBalance ext) <| .cons (sound_checkUntrackedTimeouts ext) <|
  .cons (sound_checkTimeoutRemoval ext) <| .cons (sound_checkConnectObjectMigration ext) <|
  .cons (waitingGuard.sound_run ext) <| .cons (sound_checkTimeoutReturnValue ext) <|
  .cons (sound_checkKeybindings ext) <| .cons (busProxy.sound_run ext) <|
  .cons (fileMonitor.sound_run ext) <| .cons (sound_checkInjections ext) <|
  .cons (sound_checkLockScreenSignals ext) <| .cons (sound_checkSelectiveDisable ext) <|
  .cons (sound_checkUnlockDialogComment ext) <| .cons (sound_checkClipboardKeys ext) <|
  .cons (sound_checkCommands ext) <| .cons (sound_checkExports ext) <|
  .cons (sound_checkTimeoutReassignment ext) <| .cons (childProcess.sound_run ext) <|
  .cons (sound_checkClipboardNetwork ext) <| .cons (webSession.sound_run ext) <|
  .cons (sound_checkDestroyThenNull ext) <| .cons (sound_checkWidgetLifecycle ext) <|
  .cons (sound_checkSettingsCleanup ext) .nil

theorem sound_check : (check ext).Writes (Sound names.flatten) :=
  writes_each_sound (sound_checks ext) (by decide)

end ExtensionAudit.Lifecycle
