import Mathlib
import ExtensionAudit.Proofs.Audit

/-!
# The grouped report

The grouped report stands where the short report has its hint, and nothing before it changes
(`lines_audit`).  It ends with a verdict only if some result warns: the count of checks with
warnings breaks off where there is none, and the status is one then (`status_grouped`).

So two reports that do not break off have the same status iff some result warns or fails.
-/

namespace ExtensionAudit.Command

open Report (Result Ledger)

/-- The hint that ends the short report. -/
def hint : String := "  (run with --verbose for grouped report and fix suggestions)"

section

variable {rules : String} {here : Path} {ext : Extension}

/-- Both reports go on from the same lines. -/
theorem lines_audit (h : Linter.finding? ext ≠ none) :
    ∃ common groups, (audit here rules false ext).lines = common ++ [hint] ∧
      (audit here rules true ext).lines = common ++ groups := by
  refine ⟨upToCounts rules here ext ++ countLines (results rules here ext), ?_⟩
  rw [audit_short h, audit_verbose h]
  cases Report.verdict? (Ledger.ofResults (results rules here ext)) with
  | none => exact ⟨_, rfl, rfl⟩
  | some verdict => exact ⟨_, rfl, List.append_assoc _ _ _⟩

/-- With a warning the grouped report has the status of the short one, without it has one. -/
theorem status_grouped (h : Linter.finding? ext ≠ none) :
    (audit here rules true ext).status =
      if ∃ r ∈ results rules here ext, r.hasStatus .warn = true then
        (audit here rules false ext).status
      else 1 := by
  rw [audit_short h, audit_verbose h]
  by_cases hwarn : ∃ r ∈ results rules here ext, r.hasStatus .warn = true
  · obtain ⟨v, hv, -⟩ := Report.exists_verdict clean_results hwarn
    rw [hv, if_pos hwarn]
  · rw [Report.verdict?_eq_none clean_results hwarn, if_neg hwarn]

/-- Where nothing is flagged the short report has status zero and the grouped one has one. -/
theorem status_of_not_flagged (hlinted : Linter.finding? ext ≠ none)
    (h : ¬ ∃ r ∈ results rules here ext, Flagged r) :
    (audit here rules false ext).status = 0 ∧ (audit here rules true ext).status = 1 := by
  constructor
  · rw [status_short_eq_zero_iff hlinted]
    intro r hr
    exact Bool.eq_false_iff.mpr fun hfail => h ⟨r, hr, .inl hfail⟩
  · rw [status_grouped hlinted, if_neg]
    rintro ⟨r, hr, hwarn⟩
    exact h ⟨r, hr, .inr hwarn⟩

/-- Where something is flagged the two reports have the same status. -/
theorem status_of_flagged (hlinted : Linter.finding? ext ≠ none)
    (h : ∃ r ∈ results rules here ext, Flagged r) :
    (audit here rules true ext).status = (audit here rules false ext).status := by
  rw [status_grouped hlinted]
  split
  next => rfl
  next hwarn =>
    obtain ⟨r, hr, hfail | hflag⟩ := h
    · exact ((status_short_eq_one_iff hlinted).mpr ⟨r, hr, hfail⟩).symm
    · exact absurd ⟨r, hr, hflag⟩ hwarn

end

/-! ## The option -/

/-- The words that are read as options. -/
def options : List String := ["--help", "-h", "--verbose", "-v"]

theorem ofArgs_of_notMem {dir : String} (hdir : dir ∉ options) :
    Request.ofArgs false "" [dir] = .audit false dir ∧
      Request.ofArgs false "" ["-v", dir] = .audit true dir := by
  simp only [options, List.mem_cons, List.not_mem_nil, or_false, not_or] at hdir
  simp [Request.ofArgs, hdir]

/-- The option for the grouped report changes only what stands in place of the hint, and it keeps
the status iff some result is flagged, the report breaks off at the linter, or there is none.
Otherwise the status goes from zero to one. -/
theorem status_runAudit_grouped (v : Volume) (here : Path) (rules dir : String)
    (hdir : dir ∉ options) :
    let short := runAudit v here rules [dir]
    let grouped := runAudit v here rules ["-v", dir]
    (grouped.status = short.status ↔
        ∀ base, v.enter here dir = .ok base → Linter.finding? ⟨v, base⟩ ≠ none →
          ∃ r ∈ results rules here ⟨v, base⟩, Flagged r) ∧
      (grouped.status ≠ short.status → short.status = 0 ∧ grouped.status = 1) ∧
      ((∃ base, v.enter here dir = .ok base ∧ Linter.finding? ⟨v, base⟩ ≠ none) →
        ∃ common groups, short.lines = common ++ [hint] ∧ grouped.lines = common ++ groups) ∧
      ((∀ base, v.enter here dir = .ok base → Linter.finding? ⟨v, base⟩ = none) →
        grouped = short) := by
  intro short grouped
  obtain ⟨hone, htwo⟩ := ofArgs_of_notMem hdir
  simp only [short, grouped, runAudit, hone, htwo]
  cases v.enter here dir with
  | error cause => simp
  | ok base =>
      simp only [Except.ok.injEq, forall_eq', exists_eq_left']
      by_cases hlinted : Linter.finding? ⟨v, base⟩ = none
      · simp [audit_of_none hlinted, hlinted]
      by_cases h : ∃ r ∈ results rules here ⟨v, base⟩, Flagged r
      · have hsame := status_of_flagged hlinted h
        exact ⟨⟨fun _ _ => h, fun _ => hsame⟩, fun hne => absurd hsame hne,
          fun _ => lines_audit hlinted, fun hnone => absurd hnone hlinted⟩
      · obtain ⟨hzero, hstatus⟩ := status_of_not_flagged hlinted h
        refine ⟨⟨fun hsame => ?_, fun hall => absurd (hall hlinted) h⟩,
          fun _ => ⟨hzero, hstatus⟩, fun _ => lines_audit hlinted,
          fun hnone => absurd hnone hlinted⟩
        rw [hzero, hstatus] at hsame
        cases hsame

theorem not_exists_flagged_quietExtension :
    ¬ ∃ r ∈ results "/rules" [] quietExtension, Flagged r := by
  rintro ⟨r, hr, hflag⟩
  exact not_flagged_quietExtension.2 r hr hflag

theorem enter_quietExtension : quietExtension.volume.enter [] "/ext" = .ok ["ext"] := by
  decide

theorem status_runAudit_grouped_quiet :
    "/ext" ∉ options ∧ (runAudit quietExtension.volume [] "/rules" ["-v", "/ext"]).status ≠
      (runAudit quietExtension.volume [] "/rules" ["/ext"]).status := by
  have hdir : "/ext" ∉ options := by decide
  refine ⟨hdir, fun hsame => not_exists_flagged_quietExtension ?_⟩
  exact (status_runAudit_grouped quietExtension.volume [] "/rules" "/ext" hdir).1.mp hsame _
    enter_quietExtension not_flagged_quietExtension.1

/-- Nothing is flagged in this extension, and the option takes the status from zero to one. -/
theorem status_runAudit_quietExtension :
    (runAudit quietExtension.volume [] "/rules" ["/ext"]).status = 0 ∧
      (runAudit quietExtension.volume [] "/rules" ["-v", "/ext"]).status = 1 := by
  have hdir : "/ext" ∉ options := by decide
  obtain ⟨hone, htwo⟩ := ofArgs_of_notMem hdir
  simp only [runAudit, hone, htwo, enter_quietExtension]
  exact status_of_not_flagged not_flagged_quietExtension.1 not_exists_flagged_quietExtension

end ExtensionAudit.Command
