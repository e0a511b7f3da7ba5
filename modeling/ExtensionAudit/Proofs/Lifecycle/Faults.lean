import Mathlib
import ExtensionAudit.Command
import ExtensionAudit.Proofs.Completion
import ExtensionAudit.Proofs.Lifecycle.Commands
import ExtensionAudit.Proofs.Readable

/-!
# When the checks on the lifecycle break off

On a readable extension without a manifest all checks on the lifecycle complete but one.  The check
on commands breaks off at a string with the word that starts a command and nothing but blanks
after it, unless a command that the user can write to comes first (`Stumbles`).  The eight checks
after it are then not run (`runFamily_lifecycle`).
-/

namespace ExtensionAudit.Lifecycle

open Trace Check

variable {ext : Extension}

/-! ## Reading the scripts -/

section

variable (h : ext.IsReadable)

include h

theorem exists_codeOf_scripts : ∃ ts, codeOf ext ext.scripts = .ok ts :=
  exists_ok_bind (Extension.exists_texts fun _ => h.exists_text_of_mem_scripts) fun _ _ => ⟨_, rfl⟩

theorem exists_runtimeTexts : ∃ ts, ext.texts ext.runtimeScripts = .ok ts :=
  Extension.exists_texts fun _ => h.exists_text_of_mem_runtimeScripts

theorem exists_runtimeCode : ∃ ts, runtimeCode ext = .ok ts :=
  exists_ok_bind (exists_runtimeTexts h) fun _ _ => ⟨_, rfl⟩

theorem exists_mainCode? : ∃ t, mainCode? ext = .ok t := by
  unfold mainCode?
  split
  next hmain => exact exists_ok_bind (h.exists_text_mainScript hmain) fun _ _ => ⟨_, rfl⟩
  next => exact ⟨none, rfl⟩

/-- Without a main script nothing is left to check. -/
theorem completes_mainCode? {f : Option Text → Check Unit} (hnone : (f none).Completes)
    (hsome : ∀ t, (f (some t)).Completes) :
    (liftM (mainCode? ext) >>= f : Check Unit).Completes := by
  refine completes_lift (exists_mainCode? h) fun main _ => ?_
  cases main with
  | none => exact hnone
  | some t => exact hsome t

/-! ## Switching on and off -/

theorem completes_checkEnableDisable : (checkEnableDisable ext).Completes := by
  refine completes_mainCode? h (completes_pure ()) fun t => ?_
  refine completes_if_then completes_report ?_
  refine completes_if_then completes_report ?_
  exact completes_if completes_report

theorem completes_checkDefaultExport : (checkDefaultExport ext).Completes :=
  completes_mainCode? h (completes_pure ()) fun _ => completes_either

theorem completes_checkSelectiveDisable : (checkSelectiveDisable ext).Completes := by
  refine completes_lift (exists_mainCode? h) fun main _ => ?_
  cases main.bind disableBlock? with
  | none => exact completes_pure ()
  | some block =>
      dsimp only
      split
      next => exact completes_report
      next => exact completes_report

/-! ## Signals -/

theorem completes_checkSignalBalance : (checkSignalBalance ext).Completes :=
  completes_unless <| completes_lift (exists_runtimeTexts h) fun _ _ => completes_either

theorem completes_checkConnectObjectMigration : (checkConnectObjectMigration ext).Completes :=
  completes_unless <| completes_lift (exists_runtimeTexts h) fun _ _ => completes_either

/-! ## Timeouts -/

theorem completes_checkUntrackedTimeouts : (checkUntrackedTimeouts ext).Completes :=
  completes_unless <| completes_lift (exists_runtimeTexts h) fun _ _ =>
    completes_ite completes_report completes_each_report

theorem completes_checkTimeoutRemoval : (checkTimeoutRemoval ext).Completes := by
  refine completes_mainCode? h (completes_pure ()) fun t => ?_
  dsimp only
  split
  · exact completes_pure ()
  · exact completes_pure ()
  · exact completes_ite completes_report completes_each_report

theorem completes_checkTimeoutReturnValue : (checkTimeoutReturnValue ext).Completes :=
  completes_unless <| completes_lift
    (Extension.exists_gather (fun _ => h.exists_text_of_mem_runtimeScripts) _ _) fun _ _ =>
      completes_either

theorem completes_checkTimeoutReassignment : (checkTimeoutReassignment ext).Completes :=
  completes_unless <| completes_lift (exists_runtimeCode h) fun _ _ =>
    completes_ite completes_report completes_each_report

/-! ## Pairs -/

omit h in
theorem Pair.completes_judge (pair : Pair) (texts : List (Path × Text)) :
    (pair.judge texts).Completes :=
  completes_if completes_either

theorem Pair.completes_run (pair : Pair) : (pair.run ext).Completes :=
  completes_lift (exists_runtimeCode h) fun texts _ => pair.completes_judge texts

theorem completes_checkInjections : (checkInjections ext).Completes := by
  refine completes_lift (exists_runtimeCode h) fun texts _ => ?_
  refine completes_seq (injections.completes_judge texts) fun _ => ?_
  refine completes_if (completes_lift (exists_mainCode? h) fun _ _ => ?_)
  exact completes_if completes_each_report

theorem completes_checkKeybindings : (checkKeybindings ext).Completes :=
  completes_lift (exists_codeOf_scripts h) fun _ _ => completes_if completes_either

theorem completes_checkExports : (checkExports ext).Completes := by
  refine completes_lift (exists_runtimeCode h) fun texts _ => ?_
  dsimp only
  split
  next => exact completes_pure ()
  next => exact completes_either

/-! ## Access and the lock screen -/

theorem completes_checkClipboardKeys : (checkClipboardKeys ext).Completes := by
  refine completes_lift
    (Extension.exists_firstText? (fun _ => h.exists_text_of_mem_runtimeScripts) _) fun file _ => ?_
  cases file with
  | none => exact completes_pure ()
  | some p => exact completes_report

omit h in
/-- Without a manifest no mode is declared. -/
theorem declaresLockScreen_of_absent (hmanifest : ext.isFile Extension.manifestPath = false) :
    declaresLockScreen ext = .ok false := by
  rw [declaresLockScreen, hmanifest]
  rfl

theorem completes_checkLockScreenSignals
    (hmanifest : ext.isFile Extension.manifestPath = false) :
    (checkLockScreenSignals ext).Completes := by
  refine completes_lift ⟨false, declaresLockScreen_of_absent hmanifest⟩ fun _ _ => completes_if ?_
  refine completes_lift
    (Extension.exists_firstText? (fun _ => h.exists_text_of_mem_runtimeScripts) _) fun use _ => ?_
  cases use with
  | none => exact completes_pure ()
  | some found => exact completes_either

/-- Without a manifest the check for a comment on the lock screen ends. -/
theorem completes_checkUnlockDialogComment
    (hmanifest : ext.isFile Extension.manifestPath = false) :
    (checkUnlockDialogComment ext).Completes := by
  refine completes_lift ⟨false, declaresLockScreen_of_absent hmanifest⟩ fun _ _ => completes_if ?_
  split
  next hmain =>
      refine completes_lift (h.exists_text_mainScript hmain) fun t _ => ?_
      cases disableBlock? t with
      | none => exact completes_pure ()
      | some block => exact completes_either
  next => exact completes_pure ()

theorem completes_checkClipboardNetwork : (checkClipboardNetwork ext).Completes :=
  completes_lift (exists_runtimeCode h) fun _ _ => completes_if completes_report

/-! ## References -/

theorem completes_checkDestroyThenNull : (checkDestroyThenNull ext).Completes :=
  completes_unless <| completes_lift
    (Extension.exists_gather (fun _ => h.exists_text_of_mem_runtimeScripts) _ _) fun _ _ =>
      completes_ite completes_report completes_each_report

theorem completes_checkWidgetLifecycle : (checkWidgetLifecycle ext).Completes :=
  completes_mainCode? h (completes_pure ()) fun _ =>
    completes_ite completes_report completes_either

theorem completes_checkSettingsCleanup : (checkSettingsCleanup ext).Completes :=
  completes_mainCode? h (completes_pure ()) fun _ =>
    completes_ite completes_report completes_either

end

/-! ## Commands -/

/-- A command that neither breaks the search off nor ends it. -/
def Harmless (command : Except Fault Text) : Prop :=
  ∃ word, command = .ok word ∧ isWritable word = false

instance (command : Except Fault Text) : Decidable (Harmless command) :=
  decidable_of_iff (command.toOption.any fun word => !isWritable word) (by
    cases command <;> simp [Harmless, Except.toOption])

theorem writable?_cons_of_harmless {c : Except Fault Text} (hc : Harmless c)
    (cs : List (Except Fault Text)) : writable? (c :: cs) = writable? cs := by
  obtain ⟨word, rfl, hword⟩ := hc
  change (if isWritable word then _ else writable? cs) = _
  rw [hword, if_neg Bool.false_ne_true]

theorem writable?_append_of_harmless {cs ds : List (Except Fault Text)}
    (h : ∀ c ∈ cs, Harmless c) : writable? (cs ++ ds) = writable? ds := by
  induction cs with
  | nil => rfl
  | cons c cs ih =>
      obtain ⟨hc, hcs⟩ := List.forall_mem_cons.mp h
      rw [List.cons_append, writable?_cons_of_harmless hc, ih hcs]

/-- Of commands that are all there, the first that the user can write to ends the search. -/
theorem exists_writable?_of_writable {words : List Text} {word : Text} (hmem : word ∈ words)
    (hword : isWritable word = true) (ds : List (Except Fault Text)) :
    ∃ target, writable? (words.map .ok ++ ds) = .ok (some target) := by
  induction words with
  | nil => cases hmem
  | cons w words ih =>
      by_cases hw : isWritable w = true
      · refine ⟨w, ?_⟩
        change (if isWritable w then _ else _) = _
        rw [if_pos hw]
        rfl
      · rw [List.map_cons, List.cons_append,
          writable?_cons_of_harmless ⟨w, rfl, by simpa using hw⟩]
        rcases List.mem_cons.mp hmem with rfl | hmem
        · exact absurd hword hw
        · exact ih hmem

/-- No command of a text ends the search. -/
def IsHarmless (t : Text) : Prop :=
  (∀ m ∈ listedCommand.all t, isWritable (m.group 1) = false) ∧
    ∀ line ∈ quotedLines t, Harmless (firstWord line)

instance (t : Text) : Decidable (IsHarmless t) := inferInstanceAs (Decidable (_ ∧ _))

/-- A quoted line of a text is blank, and no command before it ends the search. -/
def HasBlankCommand (t : Text) : Prop :=
  (∀ m ∈ listedCommand.all t, isWritable (m.group 1) = false) ∧
    ∃ before line after, quotedLines t = before ++ line :: after ∧
      (∀ x ∈ line, Text.isBlank x = true) ∧ ∀ l ∈ before, Harmless (firstWord l)

theorem commands_eq (t : Text) :
    commands t = ((listedCommand.all t).map fun m => m.group 1).map .ok ++
      (quotedLines t).map firstWord := by
  rw [commands, map_writtenCommand, List.map_map]
  rfl

/-- If no listed command ends the search, it goes on to the quoted lines. -/
theorem writable?_commands {t : Text}
    (h : ∀ m ∈ listedCommand.all t, isWritable (m.group 1) = false) :
    writable? (commands t) = writable? ((quotedLines t).map firstWord) := by
  rw [commands_eq, writable?_append_of_harmless]
  exact List.forall_mem_map.mpr (List.forall_mem_map.mpr fun m hm => ⟨_, rfl, h m hm⟩)

theorem writable?_of_isHarmless {t : Text} (h : IsHarmless t) :
    writable? (commands t) = .ok none := by
  rw [writable?_commands h.1, ← List.append_nil (List.map _ _), writable?_append_of_harmless]
  · rfl
  · exact List.forall_mem_map.mpr h.2

theorem writable?_of_hasBlankCommand {t : Text} (h : HasBlankCommand t) :
    writable? (commands t) = .error .outOfRange := by
  obtain ⟨hlisted, before, line, after, hlines, hblank, hbefore⟩ := h
  rw [writable?_commands hlisted, hlines, List.map_append, List.map_cons,
    firstWord_eq_error.mpr ⟨rfl, hblank⟩, writable?_append_of_harmless]
  · rfl
  · exact List.forall_mem_map.mpr hbefore

/-- The search in quoted lines goes on, breaks off at a blank line, or finds a command that the
user can write to. -/
theorem lines_cases (lines : List Text) :
    (∀ line ∈ lines, Harmless (firstWord line)) ∨
      (∃ before line after, lines = before ++ line :: after ∧
        (∀ x ∈ line, Text.isBlank x = true) ∧ ∀ l ∈ before, Harmless (firstWord l)) ∨
      ∃ target, writable? (lines.map firstWord) = .ok (some target) := by
  induction lines with
  | nil => exact .inl (by simp)
  | cons line lines ih =>
      cases hfirst : firstWord line with
      | error e =>
          exact .inr (.inl ⟨[], line, lines, rfl, (firstWord_eq_error.mp hfirst).2, by simp⟩)
      | ok word =>
          by_cases hword : isWritable word = true
          · refine .inr (.inr ?_)
            rw [List.map_cons, hfirst]
            exact exists_writable?_of_writable (List.mem_singleton.mpr rfl) hword _
          · have hline : Harmless (firstWord line) := ⟨word, hfirst, by simpa using hword⟩
            rcases ih with hall | ⟨before, blank, after, rfl, hblank, hbefore⟩ | htarget
            · exact .inl (List.forall_mem_cons.mpr ⟨hline, hall⟩)
            · exact .inr (.inl ⟨line :: before, blank, after, rfl, hblank,
                List.forall_mem_cons.mpr ⟨hline, hbefore⟩⟩)
            · refine .inr (.inr ?_)
              rwa [List.map_cons, writable?_cons_of_harmless hline]

/-- A text is harmless, has a blank command, or has a writable one before any blank one. -/
theorem text_cases (t : Text) :
    IsHarmless t ∨ HasBlankCommand t ∨ ∃ target, writable? (commands t) = .ok (some target) := by
  by_cases hlisted : ∀ m ∈ listedCommand.all t, isWritable (m.group 1) = false
  · rcases lines_cases (quotedLines t) with hall | hblank | ⟨target, htarget⟩
    · exact .inl ⟨hlisted, hall⟩
    · exact .inr (.inl ⟨hlisted, hblank⟩)
    · exact .inr (.inr ⟨target, (writable?_commands hlisted).trans htarget⟩)
  · simp only [not_forall] at hlisted
    obtain ⟨m, hm, hword⟩ := hlisted
    refine .inr (.inr ?_)
    rw [commands_eq]
    exact exists_writable?_of_writable (List.mem_map.mpr ⟨m, hm, rfl⟩) (by simpa using hword) _

/-! ## All scripts -/

/-- The script can be read, and no command in it ends the search. -/
def PassesOver (ext : Extension) (p : Path) : Prop :=
  ∃ t, ext.text p = .ok t ∧ IsHarmless (Source.code t)

/-- The script can be read, and the search breaks off at a blank command in it. -/
def BreaksOff (ext : Extension) (p : Path) : Prop :=
  ∃ t, ext.text p = .ok t ∧ HasBlankCommand (Source.code t)

theorem writableCommand?_cons {p : Path} {t : Text} (ht : ext.text p = .ok t) (ps : List Path) :
    writableCommand? ext (p :: ps) = writable? (commands (Source.code t)) >>= fun found =>
      found.elim (writableCommand? ext ps) fun target => .ok (some (p, target)) := by
  rw [writableCommand?, ht]
  refine congrArg (writable? (commands (Source.code t)) >>= ·) (funext fun found => ?_)
  cases found <;> rfl

theorem writableCommand?_append {ps qs : List Path} (h : ∀ p ∈ ps, PassesOver ext p) :
    writableCommand? ext (ps ++ qs) = writableCommand? ext qs := by
  induction ps with
  | nil => rfl
  | cons p ps ih =>
      obtain ⟨⟨t, ht, hharmless⟩, hps⟩ := List.forall_mem_cons.mp h
      rw [List.cons_append, writableCommand?_cons ht, writable?_of_isHarmless hharmless]
      exact ih hps

theorem writableCommand?_of_breaksOff {p : Path} (h : BreaksOff ext p) (ps : List Path) :
    writableCommand? ext (p :: ps) = .error .outOfRange := by
  obtain ⟨t, ht, hblank⟩ := h
  rw [writableCommand?_cons ht, writable?_of_hasBlankCommand hblank]
  rfl

/-- The search through scripts breaks off at one of them, or it has an answer. -/
theorem scripts_cases {ps : List Path} (h : ∀ p ∈ ps, ∃ t, ext.text p = .ok t) :
    (∃ before p after, ps = before ++ p :: after ∧ (∀ q ∈ before, PassesOver ext q) ∧
        BreaksOff ext p) ∨
      ∃ found, writableCommand? ext ps = .ok found := by
  induction ps with
  | nil => exact .inr ⟨none, rfl⟩
  | cons p ps ih =>
      obtain ⟨⟨t, ht⟩, hps⟩ := List.forall_mem_cons.mp h
      rcases text_cases (Source.code t) with hharmless | hblank | ⟨target, htarget⟩
      · have hp : PassesOver ext p := ⟨t, ht, hharmless⟩
        rcases ih hps with ⟨before, q, after, rfl, hbefore, hq⟩ | ⟨found, hfound⟩
        · exact .inl ⟨p :: before, q, after, rfl, List.forall_mem_cons.mpr ⟨hp, hbefore⟩, hq⟩
        · refine .inr ⟨found, ?_⟩
          rw [← hfound]
          exact writableCommand?_append (List.forall_mem_singleton.mpr hp)
      · exact .inl ⟨[], p, ps, rfl, by simp, t, ht, hblank⟩
      · refine .inr ⟨some (p, target), ?_⟩
        rw [writableCommand?_cons ht, htarget]
        rfl

/-- The first script that ends the search for commands does so by a blank one. -/
def Stumbles (ext : Extension) : Prop :=
  ∃ before p after, ext.scripts = before ++ p :: after ∧ (∀ q ∈ before, PassesOver ext q) ∧
    BreaksOff ext p

theorem checkCommands_of_stumbles (h : Stumbles ext) :
    checkCommands ext = ⟨[], .error .outOfRange⟩ := by
  obtain ⟨before, p, after, hscripts, hbefore, hp⟩ := h
  rw [checkCommands, hscripts, writableCommand?_append hbefore, writableCommand?_of_breaksOff hp]
  rfl

theorem completes_checkCommands (h : ext.IsReadable) (hs : ¬ Stumbles ext) :
    (checkCommands ext).Completes := by
  have hfound := (scripts_cases fun _ => h.exists_text_of_mem_scripts).resolve_left hs
  refine completes_lift hfound fun found _ => ?_
  cases found with
  | none => exact completes_pure ()
  | some x => exact completes_report

/-! ## The whole run -/

/-- The checks before the one on commands. -/
def firstChecks : List (Extension → Check Unit) := checks.take 16

/-- The checks after the one on commands. -/
def lastChecks : List (Extension → Check Unit) := checks.drop 17

theorem checks_eq : checks = firstChecks ++ checkCommands :: lastChecks := rfl

/-- The lines of checks one after the other. -/
def linesOf (ext : Extension) (cs : List (Extension → Check Unit)) : List String :=
  cs.flatMap fun c => (Outcome.ofCheck (c ext)).lines

section

variable (h : ext.IsReadable) (hmanifest : ext.isFile Extension.manifestPath = false)

include h hmanifest

/-- The checks before the one on commands end. -/
theorem completes_firstChecks : ∀ c ∈ firstChecks, (c ext).Completes := by
  simp only [firstChecks, checks, List.take_succ_cons, List.take_zero, List.forall_mem_cons]
  exact ⟨completes_checkEnableDisable h, completes_checkDefaultExport h,
    completes_checkSignalBalance h, completes_checkUntrackedTimeouts h,
    completes_checkTimeoutRemoval h, completes_checkConnectObjectMigration h,
    waitingGuard.completes_run h, completes_checkTimeoutReturnValue h,
    completes_checkKeybindings h, busProxy.completes_run h, fileMonitor.completes_run h,
    completes_checkInjections h, completes_checkLockScreenSignals h hmanifest,
    completes_checkSelectiveDisable h, completes_checkUnlockDialogComment h hmanifest,
    completes_checkClipboardKeys h, by simp⟩

omit hmanifest in
theorem completes_lastChecks : ∀ c ∈ lastChecks, (c ext).Completes := by
  simp only [lastChecks, checks, List.drop_succ_cons, List.drop_zero, List.forall_mem_cons]
  exact ⟨completes_checkExports h, completes_checkTimeoutReassignment h,
    childProcess.completes_run h, completes_checkClipboardNetwork h, webSession.completes_run h,
    completes_checkDestroyThenNull h, completes_checkWidgetLifecycle h,
    completes_checkSettingsCleanup h, by simp⟩

theorem ofCheck_of_stumbles (hs : Stumbles ext) :
    Outcome.ofCheck (check ext) =
      { lines := linesOf ext firstChecks, status := 1, fault := some .outOfRange } :=
  Outcome.ofCheck_each_of_fault (completes_firstChecks h hmanifest) (checkCommands_of_stumbles hs)

theorem ofCheck_of_not_stumbles (hs : ¬ Stumbles ext) :
    Outcome.ofCheck (check ext) =
      { lines := linesOf ext checks, status := 0, fault := none } := by
  refine Outcome.ofCheck_each ?_
  rw [checks_eq, List.forall_mem_append, List.forall_mem_cons]
  exact ⟨completes_firstChecks h hmanifest, completes_checkCommands h hs, completes_lastChecks h⟩

end

/-- On a readable extension without a manifest the command for the lifecycle runs all checks and
ends by itself, unless the search for commands comes to a blank one.  Then the command ends with a
fault, and only the checks before this one have been run. -/
theorem runFamily_lifecycle (v : Volume) (here : Path) (dir : String) (args : List String)
    (hread : Extension.IsReadable ⟨v, v.realPath here dir⟩)
    (hmanifest : Extension.isFile ⟨v, v.realPath here dir⟩ Extension.manifestPath = false) :
    let ext : Extension := ⟨v, v.realPath here dir⟩
    let run := Command.runFamily v here .lifecycle (dir :: args)
    (Stumbles ext → run =
        { lines := linesOf ext firstChecks, status := 1, fault := some .outOfRange }) ∧
      (¬ Stumbles ext → run = { lines := linesOf ext checks, status := 0, fault := none }) :=
  ⟨ofCheck_of_stumbles hread hmanifest, ofCheck_of_not_stumbles hread hmanifest⟩

theorem not_stumbles_of_passesOver (h : ∀ p ∈ ext.scripts, PassesOver ext p) :
    ¬ Stumbles ext := by
  rintro ⟨before, p, after, hscripts, hbefore, hp⟩
  have hnone : writableCommand? ext ext.scripts = .ok none := by
    rw [← List.append_nil ext.scripts, writableCommand?_append h]
    rfl
  rw [hscripts, writableCommand?_append hbefore, writableCommand?_of_breaksOff hp] at hnone
  cases hnone

/-- A directory with two scripts. -/
def twoScripts (a b : String) : Volume :=
  ⟨.dir [("ext", .dir [("a.js", .file (Text.encode a.toList) false),
    ("b.js", .file (Text.encode b.toList) false)])], .plain⟩

theorem isReadable_twoScripts (a b : String) :
    Extension.IsReadable ⟨twoScripts a b, ["ext"]⟩ := by
  intro p hp
  have hp : p ∈ [["a.js"], ["b.js"]] := hp
  rcases List.mem_pair.mp hp with rfl | rfl <;> exact ⟨_, rfl⟩

/-- Commands with words, in a list and in strings, let all checks be run. -/
theorem runFamily_lifecycle_words :
    let v := twoScripts "['pkexec', '/bin/ls'], 'pkexec  id'" "\"pkexec\t/bin/sh -c x\""
    Extension.IsReadable ⟨v, ["ext"]⟩ ∧
      Extension.isFile ⟨v, ["ext"]⟩ Extension.manifestPath = false ∧
      Command.runFamily v [] .lifecycle ["/ext"] =
        { lines := linesOf ⟨v, ["ext"]⟩ checks, status := 0, fault := none } := by
  intro v
  have hread : Extension.IsReadable ⟨v, ["ext"]⟩ := isReadable_twoScripts _ _
  have hpasses : ∀ p ∈ Extension.scripts ⟨v, ["ext"]⟩, PassesOver ⟨v, ["ext"]⟩ p := by
    intro p hp
    have hp : p ∈ [["a.js"], ["b.js"]] := hp
    rcases List.mem_pair.mp hp with rfl | rfl <;> exact ⟨_, rfl, by decide +kernel⟩
  exact ⟨hread, rfl, (runFamily_lifecycle v [] "/ext" [] hread rfl).2
    (not_stumbles_of_passesOver hpasses)⟩

/-- A string with two blanks after the word ends the command before the last eight checks. -/
theorem runFamily_lifecycle_blanks :
    let v := twoScripts "['pkexec', '/bin/ls'], 'pkexec  id'" "'pkexec  '"
    Extension.IsReadable ⟨v, ["ext"]⟩ ∧
      Extension.isFile ⟨v, ["ext"]⟩ Extension.manifestPath = false ∧
      Command.runFamily v [] .lifecycle ["/ext"] =
        { lines := linesOf ⟨v, ["ext"]⟩ firstChecks, status := 1, fault := some .outOfRange } := by
  intro v
  have hread : Extension.IsReadable ⟨v, ["ext"]⟩ := isReadable_twoScripts _ _
  have hfirst : PassesOver ⟨v, ["ext"]⟩ ["a.js"] := ⟨_, rfl, by decide +kernel⟩
  have hsecond : BreaksOff ⟨v, ["ext"]⟩ ["b.js"] :=
    ⟨_, rfl, by decide +kernel, [], "  ".toList, [], by decide +kernel, by simp [Text.isBlank],
      by simp⟩
  have hstumbles : Stumbles ⟨v, ["ext"]⟩ :=
    ⟨[["a.js"]], ["b.js"], [], rfl, List.forall_mem_singleton.mpr hfirst, hsecond⟩
  exact ⟨hread, rfl, ofCheck_of_stumbles hread rfl hstumbles⟩

end ExtensionAudit.Lifecycle
