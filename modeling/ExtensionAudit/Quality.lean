import ExtensionAudit.Quality.Constructor
import ExtensionAudit.Quality.Density
import ExtensionAudit.Quality.Disclosure
import ExtensionAudit.Quality.Habits
import ExtensionAudit.Quality.State

/-!
# Quality

All checks on how the scripts of an extension are written, in the order of their reports.
-/

namespace ExtensionAudit.Quality

/-- The checks in order. -/
def checks : List (Extension → Check Unit) :=
  [checkTryCatchDensity, checkImpossibleState, checkPendulumPattern, checkModuleState,
    checkEmptyCatch, checkDestroyedDensity, checkMockInProduction, checkConstructorResources,
    checkCodeVolume, checkCommentDensity, checkFileComplexity, checkDebugVolume,
    checkLoggingVolume, checkNotificationVolume, checkPrivateApi, checkGettextPattern,
    checkRedundantCleanup, checkCommentPromptDensity, checkRunDisposeComment,
    checkClipboardDisclosure, checkNetworkDisclosure, checkExcessiveNullChecks,
    checkRepeatedSettings, checkObfuscatedNames, checkMixedIndentation, checkExcessiveLogging,
    checkCodeProvenance]

/-- All checks on an extension that has scripts. -/
def check (ext : Extension) : Check Unit :=
  if ext.scripts.isEmpty then Check.skip "quality/no-js" "No JavaScript files found"
  else Trace.each checks fun c => c ext

end ExtensionAudit.Quality
