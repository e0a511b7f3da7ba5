import Mathlib
import ExtensionAudit.Lifecycle
import ExtensionAudit.Proofs.Trace
import ExtensionAudit.Quality
import ExtensionAudit.Registration
import ExtensionAudit.Resource.Tracking
import ExtensionAudit.Startup
import ExtensionAudit.Waiting

/-!
# What the checks on scripts read

Most checks read no more of an extension than its scripts, and of the other files the manifest and
the packaging script.  So they report the same on two extensions that read alike in this.

There are two degrees of it.  `SameRuntime` is about the scripts that run in the shell, and
`SameScripts` about all scripts.
-/

namespace ExtensionAudit

namespace Extension

variable {a b : Extension} {files : List Path}

/-- A file reads the same in both extensions. -/
structure SameFile (a b : Extension) (p : Path) : Prop where
  /-- It is a file in both or in none. -/
  isFile_eq : a.isFile p = b.isFile p
  /-- It has the same text. -/
  text_eq : a.text p = b.text p
  /-- It has the same text if it must be UTF-8. -/
  strictText_eq : a.strictText p = b.strictText p

/-- The scripts that run in the shell are the same. -/
structure SameRuntime (a b : Extension) : Prop where
  /-- The directories have the same path. -/
  base_eq : a.base = b.base
  /-- They lie on the same machine. -/
  machine_eq : a.volume.machine = b.volume.machine
  /-- At this path stands a directory in both or in none. -/
  isDir_eq : a.volume.isDir a.base = b.volume.isDir b.base
  /-- The same scripts run in the shell. -/
  runtimeScripts_eq : a.runtimeScripts = b.runtimeScripts
  /-- They read the same. -/
  runtime : ∀ p ∈ b.runtimeScripts, a.text p = b.text p
  /-- So does the main script. -/
  main : SameFile a b mainScript

/-- All scripts are the same, and so are the other files that go with them. -/
structure SameScripts (a b : Extension) : Prop extends SameRuntime a b where
  /-- There are the same scripts. -/
  scripts_eq : a.scripts = b.scripts
  /-- They read the same. -/
  all : ∀ p ∈ b.scripts, a.text p = b.text p
  /-- So does the manifest. -/
  manifest : SameFile a b manifestPath
  /-- So does the packaging script. -/
  package : SameFile a b ["package.sh"]

/-! ## Reading files one after the other -/

theorem texts_congr (h : ∀ p ∈ files, a.text p = b.text p) : a.texts files = b.texts files :=
  Trace.mapM_congr fun p hp => by rw [h p hp]

theorem firstText?_congr {α : Type} (f : Path → Text → Option α)
    (h : ∀ p ∈ files, a.text p = b.text p) : a.firstText? f files = b.firstText? f files := by
  induction files with
  | nil => rfl
  | cons p files ih =>
      obtain ⟨hp, hfiles⟩ := List.forall_mem_cons.mp h
      rw [firstText?, firstText?, hp, ih hfiles]

theorem gather_congr {α : Type} (f : Path → Text → List α) (bound : Nat)
    (h : ∀ p ∈ files, a.text p = b.text p) :
    a.gather f bound files = b.gather f bound files := by
  induction files generalizing bound with
  | nil => rfl
  | cons p files ih =>
      obtain ⟨hp, hfiles⟩ := List.forall_mem_cons.mp h
      simp only [gather, hp, ih _ hfiles]

theorem readManifest_congr (h : SameFile a b manifestPath) : a.readManifest = b.readManifest := by
  rw [readManifest, readManifest, h.strictText_eq]

theorem manifest?_congr (h : SameFile a b manifestPath) : a.manifest? = b.manifest? := by
  rw [manifest?, manifest?, readManifest_congr h]

namespace SameRuntime

variable (h : SameRuntime a b)

include h

theorem texts_eq : a.texts a.runtimeScripts = b.texts b.runtimeScripts := by
  rw [h.runtimeScripts_eq, texts_congr h.runtime]

theorem firstText?_eq {α : Type} (f : Path → Text → Option α) :
    a.firstText? f a.runtimeScripts = b.firstText? f b.runtimeScripts := by
  rw [h.runtimeScripts_eq, firstText?_congr f h.runtime]

theorem gather_eq {α : Type} (f : Path → Text → List α) (bound : Nat) :
    a.gather f bound a.runtimeScripts = b.gather f bound b.runtimeScripts := by
  rw [h.runtimeScripts_eq, gather_congr f bound h.runtime]

theorem runtimeCode_eq : Lifecycle.runtimeCode a = Lifecycle.runtimeCode b := by
  rw [Lifecycle.runtimeCode, Lifecycle.runtimeCode, Lifecycle.codeOf, Lifecycle.codeOf, h.texts_eq]

theorem mainCode?_eq : Lifecycle.mainCode? a = Lifecycle.mainCode? b := by
  rw [Lifecycle.mainCode?, Lifecycle.mainCode?, h.main.isFile_eq, h.main.text_eq]

end SameRuntime

namespace SameScripts

variable (h : SameScripts a b)

include h

theorem allTexts_eq : a.texts a.scripts = b.texts b.scripts := by
  rw [h.scripts_eq, texts_congr h.all]

theorem allFirstText?_eq {α : Type} (f : Path → Text → Option α) :
    a.firstText? f a.scripts = b.firstText? f b.scripts := by
  rw [h.scripts_eq, firstText?_congr f h.all]

theorem sumOfCode_eq (f : Text → Nat) : Quality.sumOfCode a f = Quality.sumOfCode b f := by
  rw [Quality.sumOfCode, Quality.sumOfCode, h.allTexts_eq]

/-- A run for each script is the same if it is the same for scripts that read the same. -/
theorem mapM_eq {α : Type} {f g : Path → Check α} (hfg : ∀ p, a.text p = b.text p → f p = g p) :
    a.scripts.mapM f = b.scripts.mapM g := by
  rw [h.scripts_eq, Trace.mapM_congr fun p hp => hfg p (h.all p hp)]

end SameScripts

end Extension

open Extension

/-! ## Waiting, startup and resources -/

namespace Waiting

/-- The findings depend on the scripts that run in the shell alone. -/
theorem check_congr {a b : Extension} (h : SameRuntime a b) : check a = check b := by
  have huse : checkCancellableUse a = checkCancellableUse b := by
    rw [checkCancellableUse, checkCancellableUse, h.runtimeCode_eq]
  have hcall : checkCallCancellable a = checkCallCancellable b := by
    rw [checkCallCancellable, checkCallCancellable, h.texts_eq]
  have hdisable : checkDisableCancellation a = checkDisableCancellation b := by
    rw [checkDisableCancellation, checkDisableCancellation, h.mainCode?_eq]
  have hplain : checkPlainCallbacks a = checkPlainCallbacks b := by
    rw [checkPlainCallbacks, checkPlainCallbacks, h.runtimeCode_eq]
  rw [check, check, h.runtimeScripts_eq, huse, hcall, hdisable, hplain]

end Waiting

namespace Startup

theorem check_congr {a b : Extension} (h : SameRuntime a b) : check a = check b := by
  have hmodify : checkModifications a = checkModifications b := by
    rw [checkModifications, checkModifications, h.texts_eq]
  have hwrap : checkWraps a = checkWraps b := by
    rw [checkWraps, checkWraps, h.texts_eq]
  rw [check, check, hmodify, hwrap]

end Startup

namespace Resource

theorem printable_congr {a b : Extension} (h : SameRuntime a b) : printable a = printable b := by
  have hscan : scanAll a = scanAll b := by
    rw [scanAll, scanAll, h.texts_eq, h.base_eq]
  rw [printable, printable, graph, graph, hscan]

theorem check_congr {a b : Extension} (h : SameRuntime a b) : check a = check b := by
  rw [check, check, delivery, delivery, h.machine_eq, h.base_eq, printable_congr h]

end Resource

/-! ## Registration -/

namespace Registration

theorem check_congr {a b : Extension} (h : SameScripts a b) : check a = check b := by
  have hnames : checkTypeNames a = checkTypeNames b := by
    rw [checkTypeNames, checkTypeNames, h.allTexts_eq]
  have hparents : checkParents a = checkParents b := by
    rw [checkParents, checkParents, h.allTexts_eq]
  have hdrawing : checkDrawing a = checkDrawing b := by
    rw [checkDrawing, checkDrawing, h.allTexts_eq]
  rw [check, check, h.scripts_eq, hnames, hparents, hdrawing]

end Registration

/-! ## The lifecycle -/

namespace Lifecycle

variable {a b : Extension}

theorem declaresLockScreen_congr (h : SameFile a b manifestPath) :
    declaresLockScreen a = declaresLockScreen b := by
  rw [declaresLockScreen, declaresLockScreen, h.isFile_eq, manifest?_congr h]

theorem writableCommand?_congr {files : List Path} (h : ∀ p ∈ files, a.text p = b.text p) :
    writableCommand? a files = writableCommand? b files := by
  induction files with
  | nil => rfl
  | cons p files ih =>
      obtain ⟨hp, hfiles⟩ := List.forall_mem_cons.mp h
      rw [writableCommand?, writableCommand?, hp, ih hfiles]

theorem Pair.run_congr (h : SameRuntime a b) (pair : Pair) : pair.run a = pair.run b := by
  rw [Pair.run, Pair.run, h.runtimeCode_eq]

/-- Each check depends on the scripts alone. -/
theorem checks_congr (h : SameScripts a b) : ∀ c ∈ checks, c a = c b := by
  simp only [checks, List.forall_mem_cons, List.not_mem_nil, false_implies, implies_true, and_true]
  have hlock := declaresLockScreen_congr h.manifest
  have hrun := Pair.run_congr h.toSameRuntime
  refine ⟨?_, ?_, ?_, ?_, ?_, ?_, hrun _, ?_, ?_, hrun _, hrun _, ?_, ?_, ?_, ?_, ?_, ?_, ?_, ?_,
    hrun _, ?_, hrun _, ?_, ?_, ?_⟩
  · rw [checkEnableDisable, checkEnableDisable, h.mainCode?_eq]
  · rw [checkDefaultExport, checkDefaultExport, h.mainCode?_eq]
  · rw [checkSignalBalance, checkSignalBalance, h.texts_eq, h.runtimeScripts_eq]
  · rw [checkUntrackedTimeouts, checkUntrackedTimeouts, h.texts_eq, h.runtimeScripts_eq]
  · rw [checkTimeoutRemoval, checkTimeoutRemoval, h.mainCode?_eq]
  · rw [checkConnectObjectMigration, checkConnectObjectMigration, h.texts_eq, h.runtimeScripts_eq]
  · rw [checkTimeoutReturnValue, checkTimeoutReturnValue, h.gather_eq, h.runtimeScripts_eq]
  · rw [checkKeybindings, checkKeybindings, codeOf, codeOf, h.allTexts_eq]
  · rw [checkInjections, checkInjections, h.runtimeCode_eq, h.mainCode?_eq]
  · rw [checkLockScreenSignals, checkLockScreenSignals, hlock, h.firstText?_eq]
  · rw [checkSelectiveDisable, checkSelectiveDisable, h.mainCode?_eq]
  · rw [checkUnlockDialogComment, checkUnlockDialogComment, hlock, h.main.isFile_eq, h.main.text_eq]
  · rw [checkClipboardKeys, checkClipboardKeys, h.firstText?_eq]
  · rw [checkCommands, checkCommands, h.scripts_eq, writableCommand?_congr h.all]
  · rw [checkExports, checkExports, h.runtimeCode_eq]
  · rw [checkTimeoutReassignment, checkTimeoutReassignment, h.runtimeCode_eq, h.runtimeScripts_eq]
  · rw [checkClipboardNetwork, checkClipboardNetwork, h.runtimeCode_eq]
  · rw [checkDestroyThenNull, checkDestroyThenNull, h.gather_eq, h.runtimeScripts_eq]
  · rw [checkWidgetLifecycle, checkWidgetLifecycle, h.mainCode?_eq]
  · rw [checkSettingsCleanup, checkSettingsCleanup, h.mainCode?_eq]

theorem check_congr (h : SameScripts a b) : check a = check b :=
  Trace.each_congr (checks_congr h)

end Lifecycle

/-! ## Quality -/

namespace Quality

variable {a b : Extension}

theorem checkDescribed_congr (h : SameFile a b manifestPath) (check subject : String)
    (judge : Text → Check Unit) :
    checkDescribed a check subject judge = checkDescribed b check subject judge := by
  rw [checkDescribed, checkDescribed, h.isFile_eq, manifest?_congr h]

theorem sessionModes_congr (h : SameFile a b manifestPath) : sessionModes a = sessionModes b := by
  rw [sessionModes, sessionModes, h.isFile_eq, manifest?_congr h]

theorem placesOf_congr {files : List Path} (p : Pattern) (h : ∀ q ∈ files, a.text q = b.text q) :
    placesOf a p files = placesOf b p files := by
  rw [placesOf, placesOf, texts_congr h]

/-- Each check depends on the scripts alone. -/
theorem checks_congr (h : SameScripts a b) : ∀ c ∈ checks, c a = c b := by
  simp only [checks, List.forall_mem_cons, List.not_mem_nil, false_implies, implies_true, and_true]
  have hlock : a.scripts.mapM (reportLockLines a) = b.scripts.mapM (reportLockLines b) :=
    h.mapM_eq fun p hp => by rw [reportLockLines, reportLockLines, hp]
  have hhold : a.scripts.mapM (reportConstructors a) = b.scripts.mapM (reportConstructors b) :=
    h.mapM_eq fun p hp => by rw [reportConstructors, reportConstructors, hp]
  refine ⟨?_, ?_, ?_, ?_, ?_, ?_, ?_, ?_, ?_, ?_, ?_, ?_, ?_, ?_, ?_, ?_, ?_, ?_, ?_, ?_, ?_, ?_,
    ?_, ?_, ?_, ?_, ?_⟩
  · rw [checkTryCatchDensity, checkTryCatchDensity, h.allTexts_eq]
  · rw [checkImpossibleState, checkImpossibleState, sessionModes_congr h.manifest, hlock]
  · rw [checkPendulumPattern, checkPendulumPattern, h.allTexts_eq]
  · rw [checkModuleState, checkModuleState, h.allTexts_eq]
  · rw [checkEmptyCatch, checkEmptyCatch, h.allTexts_eq]
  · rw [checkDestroyedDensity, checkDestroyedDensity, h.allTexts_eq]
  · simp only [checkMockInProduction, h.allTexts_eq, h.package.isFile_eq, h.package.text_eq]
  · rw [checkConstructorResources, checkConstructorResources, hhold]
  · rw [checkCodeVolume, checkCodeVolume, h.allTexts_eq]
  · rw [checkCommentDensity, checkCommentDensity, h.allFirstText?_eq]
  · rw [checkFileComplexity, checkFileComplexity, h.allFirstText?_eq]
  · rw [checkDebugVolume, checkDebugVolume, h.sumOfCode_eq]
  · simp only [checkLoggingVolume, h.sumOfCode_eq]
  · rw [checkNotificationVolume, checkNotificationVolume, h.sumOfCode_eq]
  · rw [checkPrivateApi, checkPrivateApi, h.allTexts_eq]
  · rw [checkGettextPattern, checkGettextPattern, h.scripts_eq, placesOf_congr]
    exact fun p hp => h.all p (List.mem_of_mem_filter hp)
  · rw [checkRedundantCleanup, checkRedundantCleanup, h.allTexts_eq]
  · rw [checkCommentPromptDensity, checkCommentPromptDensity, h.allFirstText?_eq]
  · rw [checkRunDisposeComment, checkRunDisposeComment, h.allTexts_eq]
  · simp only [checkClipboardDisclosure, h.allFirstText?_eq, checkDescribed_congr h.manifest]
  · simp only [checkNetworkDisclosure, h.firstText?_eq, checkDescribed_congr h.manifest]
  · rw [checkExcessiveNullChecks, checkExcessiveNullChecks, h.allTexts_eq, h.sumOfCode_eq]
  · rw [checkRepeatedSettings, checkRepeatedSettings, h.runtimeScripts_eq,
      placesOf_congr _ h.runtime]
  · rw [checkObfuscatedNames, checkObfuscatedNames, h.allTexts_eq]
  · rw [checkMixedIndentation, checkMixedIndentation, h.allTexts_eq]
  · simp only [checkExcessiveLogging, h.sumOfCode_eq]
  · rw [checkCodeProvenance, checkCodeProvenance, h.allTexts_eq]

theorem check_congr (h : SameScripts a b) : check a = check b := by
  rw [check, check, h.scripts_eq, Trace.each_congr (checks_congr h)]

end Quality

end ExtensionAudit
