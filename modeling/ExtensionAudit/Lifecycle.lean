import ExtensionAudit.Lifecycle.Access
import ExtensionAudit.Lifecycle.LockScreen
import ExtensionAudit.Lifecycle.Pairs
import ExtensionAudit.Lifecycle.References
import ExtensionAudit.Lifecycle.Signals
import ExtensionAudit.Lifecycle.Timeouts

/-!
# The lifecycle of an extension

All checks on what an extension does when it is switched on and off, in the order of their
reports.
-/

namespace ExtensionAudit.Lifecycle

/-- The checks in order. -/
def checks : List (Extension → Check Unit) :=
  [checkEnableDisable, checkDefaultExport, checkSignalBalance, checkUntrackedTimeouts,
    checkTimeoutRemoval, checkConnectObjectMigration, waitingGuard.run, checkTimeoutReturnValue,
    checkKeybindings, busProxy.run, fileMonitor.run, checkInjections, checkLockScreenSignals,
    checkSelectiveDisable, checkUnlockDialogComment, checkClipboardKeys, checkCommands,
    checkExports, checkTimeoutReassignment, childProcess.run, checkClipboardNetwork,
    webSession.run, checkDestroyThenNull, checkWidgetLifecycle, checkSettingsCleanup]

/-- All checks on the lifecycle of an extension. -/
def check (ext : Extension) : Check Unit :=
  Trace.each checks fun c => c ext

end ExtensionAudit.Lifecycle
