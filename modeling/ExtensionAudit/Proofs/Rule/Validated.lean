import Mathlib
import ExtensionAudit.Proofs.Completion
import ExtensionAudit.Proofs.Rule.Defects
import ExtensionAudit.Proofs.Versions

/-!
# Validated rules

Validation looks at the fields of a rule one by one, and applying the rule reads more of them than
validation does.  A rule that passes has a pattern that can be read, or an empty list in place of
a pattern (`pattern_of_patternDefects`).

`Runs ext r p` says what it takes to apply the rule with its pattern without a fault: the scopes
can be looked up, and on the files that they select the replacement is no list and no match has a
group that stops before it starts.  It is exact (`completes_applyPattern`), and validation sees
nothing of it.
-/

namespace ExtensionAudit

theorem Outcome.fault_ofCheck_eq_none_iff (c : Check Unit) :
    (ofCheck c).fault = none ↔ c.Completes := by
  constructor
  · intro h
    exact ⟨c.output, (), (ends_of_fault_ofCheck h).1⟩
  · rintro ⟨ws, u, hends⟩
    unfold ofCheck ofTrace
    rw [hends.outcome]
    rfl

namespace Rule

open Trace

/-! ## What validation says -/

/-- The pattern of a rule without a defect in it is a pattern or an empty list. -/
theorem pattern_of_patternDefects {r : Rule} (h : r.patternDefects = .ok []) :
    r.getD "pattern" "" = .list [] ∨ ∃ p, r.pattern? = .ok (some p) := by
  unfold patternDefects at h
  unfold pattern?
  cases hv : r.getD "pattern" "" with
  | list items =>
      rw [hv] at h
      cases items with
      | nil => exact .inl rfl
      | cons item more => cases h
  | text t =>
      rw [hv] at h
      dsimp only at h ⊢
      cases hread : Pattern.read t with
      | ok p => exact .inr ⟨p, rfl⟩
      | error refusal =>
          rw [hread] at h
          cases refusal <;> cases h

/-- So where applying the rule gets past the pattern, there is one. -/
theorem eq_some_of_pattern? {r : Rule} (hr : r.patternDefects = .ok []) {found : Option Pattern}
    (h : r.pattern? = .ok found) : ∃ p, found = some p := by
  rcases pattern_of_patternDefects hr with hlist | ⟨p, hp⟩
  · rw [pattern?, hlist] at h
    cases h
  · exact ⟨p, Except.ok.inj (h.symm.trans hp)⟩

/-- In valid rules no pattern has a defect. -/
theorem patternDefects_of_validateFrom {earlier rules : List Rule} {ws : List String}
    (h : (validateFrom earlier rules).Ends ws 0) : ∀ r ∈ rules, r.patternDefects = .ok [] := by
  induction rules generalizing earlier ws with
  | nil => simp
  | cons r rest ih =>
      obtain ⟨us, here, _, hr, hrest, -⟩ := ends_bind.mp h
      obtain ⟨_, more, _, hmore, hsum, -⟩ := ends_bind.mp hrest
      have htotal : 0 = here + more := (ends_pure.mp hsum).2
      obtain ⟨rfl, rfl⟩ : here = 0 ∧ more = 0 := by omega
      obtain ⟨duplicates, patterns, -, hpatterns, hlength, hus⟩ := ends_validate hr
      obtain rfl : patterns = [] := by
        rw [hus, eq_comm, List.length_eq_zero_iff, List.map_eq_nil_iff] at hlength
        simp only [List.append_eq_nil_iff] at hlength
        exact hlength.2.2.2
      exact List.forall_mem_cons.mpr ⟨hpatterns, ih hmore⟩

/-- Rules that pass the validation have no defect in their patterns. -/
theorem patternDefects_of_validateAll {rules : List Rule}
    (h : (Outcome.ofTrace (validateAll rules)).status = 0) :
    ∀ r ∈ rules, r.patternDefects = .ok [] := by
  unfold Outcome.ofTrace at h
  cases hall : (validateAll rules).outcome with
  | error e =>
      rw [hall] at h
      cases h
  | ok status =>
      rw [hall] at h
      obtain ⟨_, errors, hfrom, ⟨rfl, -⟩ | ⟨-, hone, -⟩⟩ := ends_validateAll (ends_of_outcome hall)
      · exact patternDefects_of_validateFrom hfrom
      · rw [hone] at h
        cases h

/-! ## What applying a rule takes -/

/-- The text of a file can be searched with the pattern of a rule without a fault. -/
structure RunsOn (r : Rule) (p : Pattern) (t : Text) : Prop where
  /-- There is no list of replacements to look for. -/
  replacement : ∀ item items, r.getD "replacement-pattern" "" ≠ .list (item :: items)
  /-- No match has a group that stops before it starts, unless the text is left alone. -/
  uncrossed : Unreplaced r t → ∀ line ∈ Text.linesWithEnds t, ∀ m, p.search line = some m →
    m.isCrossed = false

/-- A rule can be applied with its pattern without a fault. -/
structure Runs (ext : Extension) (r : Rule) (p : Pattern) : Prop where
  /-- The scopes can be looked up. -/
  scopes : ∀ scope ∈ r.scopes, checkScope ext scope = .ok ()
  /-- The files that can be read can be searched. -/
  files : ∀ scope ∈ r.scopes, ∀ file ∈ selected ext scope, ∀ t,
    ext.volume.text file.1 = .ok t → r.RunsOn p t

theorem exists_isHit (p : Pattern) (check : Option Text) (previous line : Text) :
    (∃ b, isHit p check previous line = .ok b) ↔
      ∀ m, p.search line = some m → m.isCrossed = false := by
  unfold isHit
  cases p.search line with
  | none => simp
  | some m => cases hm : m.isCrossed <;> simp [hm]

theorem exists_isReplaced {r : Rule} {t : Text} :
    (∃ b, r.isReplaced t = .ok b) ↔
      ∀ item items, r.getD "replacement-pattern" "" ≠ .list (item :: items) := by
  unfold isReplaced
  cases r.getD "replacement-pattern" "" with
  | text new => simp
  | list items => cases items <;> simp

/-- The search of a line ends iff its match is not crossed. -/
theorem completes_lineHits {r : Rule} {p : Pattern} {file : String} {previous line : Text}
    {n : Nat} : (r.lineHits p file previous n line).Completes ↔
      ∀ m, p.search line = some m → m.isCrossed = false := by
  rw [← exists_isHit p r.checkName? previous line, lineHits, completes_lift_bind]
  constructor
  · rintro ⟨b, hb, -⟩
    exact ⟨b, hb⟩
  · rintro ⟨b, hb⟩
    refine ⟨b, hb, ?_⟩
    cases b with
    | false => exact completes_pure _
    | true =>
        cases hd : r.deduplicates with
        | true => exact completes_pure _
        | false =>
            exact completes_bind.mpr ⟨_, (), ends_write.mpr rfl, completes_pure _⟩

/-- The search of a file ends iff the rule runs on its text. -/
theorem completes_fileHits {ext : Extension} {r : Rule} {p : Pattern} {file : Path × String} :
    (fileHits ext r p file).Completes ↔
      ∀ t, ext.volume.text file.1 = .ok t → r.RunsOn p t := by
  unfold fileHits
  cases ext.volume.text file.1 with
  | error e => simp [completes_pure]
  | ok t =>
      rw [completes_lift_bind]
      constructor
      · rintro ⟨b, hb, hrest⟩ t' ⟨⟩
        refine ⟨exists_isReplaced.mp ⟨b, hb⟩, ?_⟩
        intro hun line hline
        obtain rfl := (isReplaced_eq_ok hb).mpr hun
        obtain ⟨i, hi⟩ := List.mem_iff_getElem?.mp hline
        exact completes_lineHits.mp
          (completes_collect.mp hrest _ (mem_linesInContext.mpr ⟨i, rfl, hi, rfl⟩))
      · intro hruns
        obtain ⟨hreplacement, huncrossed⟩ := hruns t rfl
        obtain ⟨b, hb⟩ := exists_isReplaced.mpr hreplacement
        refine ⟨b, hb, ?_⟩
        cases b with
        | true => exact completes_pure _
        | false =>
            refine completes_collect.mpr ?_
            rintro ⟨previous, n, line⟩ hmem
            obtain ⟨i, -, hi, -⟩ := mem_linesInContext.mp hmem
            exact completes_lineHits.mpr
              (huncrossed ((isReplaced_eq_ok hb).mp rfl) line (List.mem_of_getElem? hi))

/-- The search of a scope ends iff the scope is good and the rule runs on all its files. -/
theorem completes_scopeHits {ext : Extension} {r : Rule} {p : Pattern} {scope : Text} :
    (scopeHits ext r p scope).Completes ↔ checkScope ext scope = .ok () ∧
      ∀ file ∈ selected ext scope, ∀ t, ext.volume.text file.1 = .ok t → r.RunsOn p t := by
  rw [scopeHits, completes_lift_bind]
  simp only [completes_collect, completes_fileHits]
  constructor
  · rintro ⟨_, hcheck, hfiles⟩
    exact ⟨hcheck, hfiles⟩
  · rintro ⟨hcheck, hfiles⟩
    exact ⟨(), hcheck, hfiles⟩

/-- A rule is applied with its pattern to the end iff it runs. -/
theorem completes_applyPattern {ext : Extension} {r : Rule} {p : Pattern} :
    (r.applyPattern ext p).Completes ↔ r.Runs ext p := by
  have hending : ∀ hits : List Hit, Completes (if hits.isEmpty then r.reportAs .pass "No matches"
      else if r.deduplicates then r.reportFiles hits else pure ()) := by
    intro hits
    split
    · exact completes_write _
    · split
      · exact completes_write _
      · exact completes_pure ()
  rw [applyPattern, completes_bind_left hending, completes_collect]
  simp only [completes_scopeHits]
  constructor
  · intro h
    exact ⟨fun scope hscope => (h scope hscope).1, fun scope hscope => (h scope hscope).2⟩
  · rintro ⟨hscopes, hfiles⟩ scope hscope
    exact ⟨hscopes scope hscope, hfiles scope hscope⟩

/-! ## Rules of a validated file -/

/-- A rule without a defect in its pattern is applied to the end iff it does not apply to the
declared versions, or has a pattern and runs. -/
theorem completes_apply {ext : Extension} {versions : List Int} {r : Rule}
    (hr : r.patternDefects = .ok []) :
    (r.apply ext versions).Completes ↔
      (r.applies versions = true → ∃ p, r.pattern? = .ok (some p) ∧ r.Runs ext p) := by
  rw [apply]
  cases happlies : r.applies versions with
  | false => exact iff_of_true (completes_write _) (by simp)
  | true =>
      constructor
      · intro hrest _
        obtain ⟨found, hfound, happly⟩ := completes_lift_bind.mp hrest
        obtain ⟨p, rfl⟩ := eq_some_of_pattern? hr hfound
        exact ⟨p, hfound, completes_applyPattern.mp happly⟩
      · intro hruns
        obtain ⟨p, hp, hrun⟩ := hruns rfl
        exact completes_lift_bind.mpr ⟨some p, hp, completes_applyPattern.mpr hrun⟩

/-- The finding skips its rule for the declared versions, if it skips it at all. -/
def SkipsForVersions (f : Finding) : Prop :=
  f.status = .skip → f.detail = "Not applicable for declared shell-version(s)"

theorem outputs_reportAs {r : Rule} {s : Status} {detail : String} (h : s ≠ .skip) :
    (r.reportAs s detail).Outputs SkipsForVersions := by
  refine outputs_write ?_
  intro f hf
  obtain rfl := List.mem_singleton.mp hf
  exact fun hskip => absurd hskip h

theorem status_ne_skip (r : Rule) : r.status ≠ .skip := by
  unfold status
  split <;> simp

theorem outputs_lineHits (r : Rule) (p : Pattern) (file : String) (previous : Text) (n : Nat)
    (line : Text) : (r.lineHits p file previous n line).Outputs SkipsForVersions := by
  refine outputs_lift_bind fun b _ => ?_
  cases b with
  | false => exact outputs_pure _
  | true =>
      cases hd : r.deduplicates with
      | true => exact outputs_pure _
      | false => exact outputs_bind (outputs_reportAs r.status_ne_skip) fun _ => outputs_pure _

/-- The search of a file skips nothing for its version. -/
theorem outputs_fileHits (ext : Extension) (r : Rule) (p : Pattern) (file : Path × String) :
    (fileHits ext r p file).Outputs SkipsForVersions := by
  unfold fileHits
  cases ext.volume.text file.1 with
  | error e => exact outputs_pure _
  | ok t =>
      refine outputs_lift_bind fun b _ => ?_
      cases b with
      | true => exact outputs_pure _
      | false =>
          exact outputs_collect fun x _ => outputs_lineHits r p file.2 x.1 x.2.1 x.2.2

/-- A rule with a pattern is not skipped, also if applying it breaks off. -/
theorem outputs_applyPattern (ext : Extension) (r : Rule) (p : Pattern) :
    (r.applyPattern ext p).Outputs SkipsForVersions := by
  have hscope : ∀ scope, (scopeHits ext r p scope).Outputs SkipsForVersions := fun scope =>
    outputs_lift_bind fun _ _ => outputs_collect fun file _ => outputs_fileHits ext r p file
  refine outputs_bind (outputs_collect fun scope _ => hscope scope) fun hits => ?_
  split
  · exact outputs_reportAs (by decide)
  · split
    · exact outputs_reportAs r.status_ne_skip
    · exact outputs_pure ()

/-- A rule without a defect in its pattern is skipped for the declared versions only. -/
theorem outputs_apply {ext : Extension} {versions : List Int} {r : Rule}
    (hr : r.patternDefects = .ok []) : (r.apply ext versions).Outputs SkipsForVersions := by
  rw [apply]
  cases r.applies versions with
  | false =>
      refine outputs_write fun f hf _ => ?_
      obtain rfl := List.mem_singleton.mp hf
      rfl
  | true =>
      refine outputs_lift_bind fun found hfound => ?_
      obtain ⟨p, rfl⟩ := eq_some_of_pattern? hr hfound
      exact outputs_applyPattern ext r p

end Rule

namespace Command

/-- A file of rules that passes the validation can be read, and no rule in it has a defect in its
pattern. -/
theorem readRules_of_validateRules {v : Volume} {here : Path} {file : String}
    (h : (validateRules v here file).status = 0) :
    ∃ rules, readRules v here file = .ok (some rules) ∧
      ∀ r ∈ rules, r.patternDefects = .ok [] := by
  unfold validateRules at h
  cases hread : readRules v here file with
  | error e =>
      rw [hread] at h
      cases h
  | ok found =>
      rw [hread] at h
      cases found with
      | none => cases h
      | some rules => exact ⟨rules, rfl, Rule.patternDefects_of_validateAll h⟩

/-- Applying a file of rules that passes the validation, to an extension whose manifest can be
made sense of, never skips a rule for its pattern.  It ends by itself iff every rule that applies
to the declared versions has a pattern and runs. -/
theorem fault_applyRules_of_validated (v : Volume) (here : Path) (file dir : String)
    (hvalid : (validateRules v here file).status = 0)
    (hmanifest : Manifest.IsWellFormed ⟨v, v.realPath here dir⟩) :
    ∃ (rules : List Rule) (versions : List Int) (findings : List Finding),
      readRules v here file = .ok (some rules) ∧
      Manifest.declaredVersions ⟨v, v.realPath here dir⟩ = .ok versions ∧
      ((applyRules v here file dir).fault = none ↔
        ∀ r ∈ rules, r.applies versions = true →
          ∃ p, r.pattern? = .ok (some p) ∧ r.Runs ⟨v, v.realPath here dir⟩ p) ∧
      (applyRules v here file dir).lines = findings.flatMap (fun f => splitLines f.line) ∧
      ∀ f ∈ findings, f.status = .skip →
        f.detail = "Not applicable for declared shell-version(s)" := by
  obtain ⟨rules, hread, hdefects⟩ := readRules_of_validateRules hvalid
  obtain ⟨versions, hversions⟩ := Manifest.exists_declaredVersions hmanifest
  have hrun : applyRules v here file dir =
      Outcome.ofCheck (Rule.applyAll ⟨v, v.realPath here dir⟩ rules) := by
    rw [applyRules, hread]
  refine ⟨rules, versions, (Rule.applyAll ⟨v, v.realPath here dir⟩ rules).output, hread,
    hversions, ?_, ?_, ?_⟩
  · rw [hrun, Outcome.fault_ofCheck_eq_none_iff, Rule.applyAll, Trace.completes_lift_bind]
    constructor
    · rintro ⟨versions', hsame, hall⟩ r hr
      obtain rfl : versions = versions' := Except.ok.inj (hversions.symm.trans hsame)
      exact (Rule.completes_apply (hdefects r hr)).mp (Trace.completes_each.mp hall r hr)
    · intro hall
      exact ⟨versions, hversions, Trace.completes_each.mpr fun r hr =>
        (Rule.completes_apply (hdefects r hr)).mpr (hall r hr)⟩
  · rw [hrun, Outcome.lines_ofCheck]
  · exact Trace.outputs_lift_bind fun versions' _ =>
      Trace.outputs_each fun r hr => Rule.outputs_apply (hdefects r hr)

/-- A file with one rule for scripts that has every required field. -/
def ruleWith (pattern : String) : String :=
  "- id: A\n  pattern: " ++ pattern ++
    "\n  scope: [\"*.js\"]\n  severity: advisory\n  message: m\n"

/-- A rule that passes the validation is applied to a script without a fault, so it runs. -/
theorem fault_applyRules_of_validated_eval :
    let v := oneScript (ruleWith "eval") "eval(x)\n"
    (applyRules v ["ext"] "/rules" ".").fault = none ∧
      ∃ rules versions, readRules v ["ext"] "/rules" = .ok (some rules) ∧
        Manifest.declaredVersions ⟨v, v.realPath ["ext"] "."⟩ = .ok versions ∧
        ∀ r ∈ rules, r.applies versions = true →
          ∃ p, r.pattern? = .ok (some p) ∧ r.Runs ⟨v, v.realPath ["ext"] "."⟩ p := by
  intro v
  have hvalid : (validateRules v ["ext"] "/rules").status = 0 := by decide +kernel
  have hmanifest : Manifest.IsWellFormed ⟨v, v.realPath ["ext"] "."⟩ := .inl (by decide)
  have hends : (applyRules v ["ext"] "/rules" ".").fault = none := by decide +kernel
  obtain ⟨rules, versions, _, hread, hversions, hruns, -⟩ :=
    fault_applyRules_of_validated v ["ext"] "/rules" "." hvalid hmanifest
  exact ⟨hends, rules, versions, hread, hversions, hruns.mp hends⟩

/-- A rule with an empty list in place of a pattern passes the validation, and applying it is a
fault. -/
theorem fault_applyRules_of_validated_list :
    let v := oneScript (ruleWith "[]") "eval(x)\n"
    (validateRules v ["ext"] "/rules").status = 0 ∧
      Manifest.IsWellFormed ⟨v, v.realPath ["ext"] "."⟩ ∧
      (applyRules v ["ext"] "/rules" ".").fault = some .wrongKind := by
  intro v
  exact ⟨by decide, .inl (by decide), by decide⟩

end Command

end ExtensionAudit
