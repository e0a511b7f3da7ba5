import Mathlib
import ExtensionAudit.Proofs.Verdict
import ExtensionAudit.Quality

/-!
# Verdicts on quality

Each check on quality settles its own name.  Only the check on the density of error handlers
reports on a second name, and there it only warns.
-/

namespace ExtensionAudit.Quality

open Finding Trace Check

variable (ext : Extension)

/-- The names of the checks, in their order. -/
def names : List String :=
  ["quality/try-catch-density", "quality/impossible-state", "quality/pendulum-pattern",
    "quality/module-state", "quality/empty-catch", "quality/destroyed-density",
    "quality/mock-in-production", "quality/constructor-resources", "quality/code-volume",
    "quality/comment-density", "quality/file-complexity", "quality/debug-volume",
    "quality/logging-volume", "quality/notification-volume", "quality/private-api",
    "quality/gettext-pattern", "quality/redundant-cleanup", "quality/comment-prompt-density",
    "quality/run-dispose-no-comment", "quality/clipboard-disclosure",
    "quality/network-disclosure", "quality/excessive-null-checks", "quality/repeated-settings",
    "quality/obfuscated-names", "quality/mixed-indentation", "quality/excessive-logging",
    "quality/code-provenance"]

/-- The name for error handlers around calls that destroy. -/
def protectedName : String := "quality/destroy-try-catch"

/-- There is a verdict on the check, and besides there are only warnings about error handlers
around calls that destroy. -/
def Judged (name : String) (fs : List Finding) : Prop :=
  ∃ us vs, fs = us ++ vs ∧ Settled name us ∧ ∀ f ∈ vs, f.check = protectedName ∧ f.status = .warn

theorem Judged.of_settled {name : String} {fs : List Finding} (h : Settled name fs) :
    Judged name fs :=
  ⟨fs, [], (List.append_nil fs).symm, h, by simp⟩

/-! ## Volume -/

theorem settled_checkCodeVolume :
    (checkCodeVolume ext).Writes (Settled "quality/code-volume") := by
  apply writes_lift
  intro texts _
  exact settled_warn_or_pass

theorem settled_checkFileComplexity :
    (checkFileComplexity ext).Writes (Settled "quality/file-complexity") := by
  apply writes_lift
  intro large _
  cases large with
  | some found => exact settled_warn
  | none => exact settled_pass

theorem settled_checkDebugVolume :
    (checkDebugVolume ext).Writes (Settled "quality/debug-volume") := by
  apply writes_lift
  intro total _
  exact settled_warn_or_pass

theorem settled_checkLoggingVolume :
    (checkLoggingVolume ext).Writes (Settled "quality/logging-volume") := by
  apply writes_lift
  intro total _
  apply writes_lift
  intro lines _
  exact settled_warn_or_pass

theorem settled_checkNotificationVolume :
    (checkNotificationVolume ext).Writes (Settled "quality/notification-volume") := by
  apply writes_lift
  intro total _
  exact settled_warn_or_pass

theorem settled_checkExcessiveLogging :
    (checkExcessiveLogging ext).Writes (Settled "quality/excessive-logging") := by
  apply writes_lift
  intro count _
  apply writes_lift
  intro guards _
  exact settled_warn_or_pass

/-! ## Density -/

theorem settled_checkDestroyedDensity :
    (checkDestroyedDensity ext).Writes (Settled "quality/destroyed-density") := by
  apply writes_lift
  intro texts _
  exact settled_warn_or_pass

theorem settled_checkCommentDensity :
    (checkCommentDensity ext).Writes (Settled "quality/comment-density") := by
  apply writes_lift
  intro dense _
  cases dense with
  | some found => exact settled_warn
  | none => exact settled_pass

theorem settled_checkCommentPromptDensity :
    (checkCommentPromptDensity ext).Writes (Settled "quality/comment-prompt-density") := by
  apply writes_lift
  intro dense _
  cases dense with
  | some found => exact settled_warn
  | none => exact settled_pass

theorem settled_checkRedundantCleanup :
    (checkRedundantCleanup ext).Writes (Settled "quality/redundant-cleanup") := by
  apply writes_lift
  intro texts _
  exact settled_warn_or_pass

theorem settled_checkExcessiveNullChecks :
    (checkExcessiveNullChecks ext).Writes (Settled "quality/excessive-null-checks") := by
  apply writes_lift
  intro texts _
  apply writes_lift
  intro checks _
  exact settled_warn_or_pass

theorem settled_reportHandlers (files : List (Path × List Text)) :
    (reportHandlers files).Writes (Settled "quality/try-catch-density") :=
  settled_warn_or_pass

/-- This part of a check never passes. -/
theorem reportProtectedDestroys_warns (files : List (Path × List Text)) :
    (reportProtectedDestroys files).Writes fun fs =>
      ∀ f ∈ fs, f.check = protectedName ∧ f.status = .warn := by
  apply writes_each
  intro file _
  apply writes_each
  intro n _
  apply writes_write
  intro f hf
  rw [List.mem_singleton.mp hf]
  exact ⟨rfl, rfl⟩

theorem judged_checkTryCatchDensity :
    (checkTryCatchDensity ext).Writes (Judged "quality/try-catch-density") := by
  apply writes_lift
  intro texts _
  refine writes_seq (settled_reportHandlers _) (reportProtectedDestroys_warns _) ?_
  intro us vs hu hv
  exact ⟨us, vs, rfl, hu, hv⟩

/-! ## State -/

theorem tells_reportLockLines (p : Path) :
    Tells "quality/impossible-state" (reportLockLines ext p) := by
  apply tells_lift
  intro t
  exact tells_each fun _ _ => alarms_warn

theorem settled_checkImpossibleState :
    (checkImpossibleState ext).Writes (Settled "quality/impossible-state") := by
  apply writes_lift
  intro modes _
  apply writes_ite
  · exact settled_pass
  · exact settled_mapM (tells_reportLockLines ext)

theorem settled_checkPendulumPattern :
    (checkPendulumPattern ext).Writes (Settled "quality/pendulum-pattern") := by
  apply writes_lift
  intro texts _
  exact settled_warn_or_pass

theorem settled_checkModuleState :
    (checkModuleState ext).Writes (Settled "quality/module-state") := by
  apply writes_lift
  intro texts _
  exact settled_pass_or_warn

theorem settled_checkEmptyCatch :
    (checkEmptyCatch ext).Writes (Settled "quality/empty-catch") := by
  apply writes_lift
  intro texts _
  exact settled_pass_or_each fun _ _ => alarms_warn

theorem tells_reportConstructors (p : Path) :
    Tells "quality/constructor-resources" (reportConstructors ext p) := by
  apply tells_lift
  intro t
  exact tells_each fun _ _ => alarms_warn

theorem settled_checkConstructorResources :
    (checkConstructorResources ext).Writes (Settled "quality/constructor-resources") :=
  settled_mapM (tells_reportConstructors ext)

/-! ## Disclosure -/

/-- What the description is compared with settles the check, and so does a missing manifest. -/
theorem settled_checkDescribed {name subject : String} {judge : Text → Check Unit}
    (h : ∀ description, (judge description).Writes (Settled name)) :
    (checkDescribed ext name subject judge).Writes (Settled name) := by
  apply writes_ite
  · exact settled_warn
  · apply writes_lift
    intro manifest _
    cases manifest with
    | none => exact settled_warn
    | some m =>
        apply writes_lift
        intro description _
        exact h description

theorem settled_checkClipboardDisclosure :
    (checkClipboardDisclosure ext).Writes (Settled "quality/clipboard-disclosure") := by
  apply writes_lift
  intro use _
  apply writes_ite
  · exact settled_pass
  · apply settled_checkDescribed
    intro description
    exact settled_pass_or_warn

theorem settled_checkNetworkDisclosure :
    (checkNetworkDisclosure ext).Writes (Settled "quality/network-disclosure") := by
  apply writes_lift
  intro use _
  apply writes_ite
  · exact settled_pass
  · apply settled_checkDescribed
    intro description
    cases networkWords.find? fun word => Text.occursIn word.toList description with
    | some word => exact settled_pass
    | none => exact settled_warn

/-! ## Habits -/

theorem settled_checkMockInProduction :
    (checkMockInProduction ext).Writes (Settled "quality/mock-in-production") := by
  apply writes_lift
  intro texts _
  apply writes_ite
  · apply writes_lift
    intro packaging _
    exact settled_each_each (fun _ _ => alarms_warn) fun _ _ => alarms_warn
  · rw [pure_bind]
    exact settled_each_each (fun _ _ => alarms_warn) fun _ _ => alarms_warn

theorem settled_checkPrivateApi :
    (checkPrivateApi ext).Writes (Settled "quality/private-api") := by
  apply writes_lift
  intro texts _
  dsimp only
  split
  · exact settled_pass
  · exact settled_warn

theorem settled_checkGettextPattern :
    (checkGettextPattern ext).Writes (Settled "quality/gettext-pattern") := by
  apply writes_lift
  intro places _
  exact settled_pass_or_warn

theorem settled_checkRepeatedSettings :
    (checkRepeatedSettings ext).Writes (Settled "quality/repeated-settings") := by
  apply writes_lift
  intro places _
  exact settled_warn_or_pass

theorem settled_checkRunDisposeComment :
    (checkRunDisposeComment ext).Writes (Settled "quality/run-dispose-no-comment") := by
  apply writes_lift
  intro texts _
  exact settled_pass_or_each fun _ _ => alarms_warn

theorem settled_checkObfuscatedNames :
    (checkObfuscatedNames ext).Writes (Settled "quality/obfuscated-names") := by
  apply writes_lift
  intro texts _
  apply writes_ite
  · exact settled_fail
  · exact settled_pass

theorem settled_checkMixedIndentation :
    (checkMixedIndentation ext).Writes (Settled "quality/mixed-indentation") := by
  apply writes_lift
  intro texts _
  exact settled_pass_or_warn

theorem settled_checkCodeProvenance :
    (checkCodeProvenance ext).Writes (Settled "quality/code-provenance") := by
  apply writes_lift
  intro texts _
  exact settled_pass

/-! ## The whole run -/

/-- Each check but the first settles its own name and reports nothing else. -/
theorem settled_checks_tail :
    List.Forall₂ (fun c name => (c ext).Writes (Settled name)) checks.tail names.tail :=
  .cons (settled_checkImpossibleState ext) <| .cons (settled_checkPendulumPattern ext) <|
  .cons (settled_checkModuleState ext) <| .cons (settled_checkEmptyCatch ext) <|
  .cons (settled_checkDestroyedDensity ext) <| .cons (settled_checkMockInProduction ext) <|
  .cons (settled_checkConstructorResources ext) <| .cons (settled_checkCodeVolume ext) <|
  .cons (settled_checkCommentDensity ext) <| .cons (settled_checkFileComplexity ext) <|
  .cons (settled_checkDebugVolume ext) <| .cons (settled_checkLoggingVolume ext) <|
  .cons (settled_checkNotificationVolume ext) <| .cons (settled_checkPrivateApi ext) <|
  .cons (settled_checkGettextPattern ext) <| .cons (settled_checkRedundantCleanup ext) <|
  .cons (settled_checkCommentPromptDensity ext) <| .cons (settled_checkRunDisposeComment ext) <|
  .cons (settled_checkClipboardDisclosure ext) <| .cons (settled_checkNetworkDisclosure ext) <|
  .cons (settled_checkExcessiveNullChecks ext) <| .cons (settled_checkRepeatedSettings ext) <|
  .cons (settled_checkObfuscatedNames ext) <| .cons (settled_checkMixedIndentation ext) <|
  .cons (settled_checkExcessiveLogging ext) <| .cons (settled_checkCodeProvenance ext) .nil

theorem judged_checks :
    List.Forall₂ (fun c name => (c ext).Writes (Judged name)) checks names := by
  refine .cons (judged_checkTryCatchDensity ext) ((settled_checks_tail ext).imp ?_)
  intro c name h
  exact h.mono fun _ hfs => .of_settled hfs

/-- An extension with scripts gets a verdict from each check, in their order. -/
theorem judged_check (hext : ext.scripts ≠ []) :
    (check ext).Writes fun fs =>
      ∃ blocks, List.Forall₂ Judged names blocks ∧ fs = blocks.flatten := by
  rw [check, if_neg (by simpa using hext)]
  exact writes_each_blocks (judged_checks ext)

variable {name : String} {ns : List String} {fs : List Finding} {blocks : List (List Finding)}

theorem Judged.settled_on (h : Judged name fs) (hname : name ≠ protectedName) :
    Settled name (on name fs) := by
  obtain ⟨us, vs, rfl, hus, hvs⟩ := h
  have hnone : on name vs = [] := on_eq_nil fun f hf heq => hname (heq.symm.trans (hvs f hf).1)
  rw [on_append, hnone, List.append_nil, on_eq_self hus.check_eq]
  exact hus

/-- What is reported is on one of the checks, or warns of an error handler. -/
theorem check_mem_of_judged (h : List.Forall₂ Judged ns blocks) :
    ∀ f ∈ blocks.flatten, f.check ∈ ns ∨ (f.check = protectedName ∧ f.status = .warn) := by
  induction h with
  | nil => simp
  | cons hb _ ih =>
      obtain ⟨us, vs, rfl, hus, hvs⟩ := hb
      intro f hf
      rw [List.flatten_cons, List.append_assoc, List.mem_append, List.mem_append] at hf
      rcases hf with hf | hf | hf
      · exact .inl (by simp [hus.check_eq f hf])
      · exact .inr (hvs f hf)
      · exact (ih f hf).imp_left (List.mem_cons_of_mem _)

/-- The findings on a check are its own verdict. -/
theorem settled_on_of_judged (h : List.Forall₂ Judged ns blocks) (hnodup : ns.Nodup)
    (hout : protectedName ∉ ns) (hname : name ∈ ns) : Settled name (on name blocks.flatten) := by
  induction h with
  | nil => cases hname
  | @cons n b ns bs hb hbs ih =>
      obtain ⟨hn, hns⟩ := List.nodup_cons.mp hnodup
      obtain ⟨hne, hout⟩ := not_or.mp (mt List.mem_cons.mpr hout)
      rw [List.flatten_cons, on_append]
      rcases List.mem_cons.mp hname with rfl | hmem
      · have hrest : on name bs.flatten = [] := by
          apply on_eq_nil
          intro f hf heq
          rcases check_mem_of_judged hbs f hf with hcheck | ⟨hcheck, _⟩
          · exact hn (heq ▸ hcheck)
          · exact hne (hcheck.symm.trans heq)
        rw [hrest, List.append_nil]
        exact hb.settled_on (Ne.symm hne)
      · have hfirst : on name b = [] := by
          obtain ⟨us, vs, rfl, hus, hvs⟩ := hb
          apply on_eq_nil
          intro f hf heq
          rcases List.mem_append.mp hf with hf | hf
          · exact hn ((hus.check_eq f hf).symm.trans heq ▸ hmem)
          · exact hout ((hvs f hf).1.symm.trans heq ▸ hmem)
        rw [hfirst, List.nil_append]
        exact ih hns hout hmem

/-- What is judged part by part has no pass beside an alarm. -/
theorem consistent_of_judged (h : List.Forall₂ Judged ns blocks) (hnodup : ns.Nodup)
    (hout : protectedName ∉ ns) : Consistent blocks.flatten := by
  intro f hf hpass
  rcases check_mem_of_judged h f hf with hname | ⟨_, hwarn⟩
  · have hmem : f ∈ on f.check blocks.flatten := List.mem_filter.mpr ⟨hf, by simp⟩
    rcases settled_on_of_judged h hnodup hout hname with ⟨detail, hon⟩ | halarms
    · rw [hon] at hmem ⊢
      rw [List.mem_singleton.mp hmem]
    · rcases (halarms.all f hmem).2 with hs | hs <;> rw [hs] at hpass <;> cases hpass
  · rw [hwarn] at hpass
    cases hpass

end ExtensionAudit.Quality
