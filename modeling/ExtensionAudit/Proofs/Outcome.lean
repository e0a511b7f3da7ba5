import Mathlib
import ExtensionAudit.Outcome
import ExtensionAudit.Proofs.Text
import ExtensionAudit.Proofs.Trace

/-!
# What a run leaves behind

The lines of an outcome are the pieces of the lines that its run has written, whether or not the
run ends by itself.  The outcome names a fault iff it does not.
-/

namespace ExtensionAudit

/-- A string without a newline takes one line. -/
theorem splitLines_of_notMem {s : String} (h : '\n' ∉ s.toList) : splitLines s = [s] := by
  rw [splitLines, Text.splitAt_of_notMem h, List.map_singleton, String.ofList_toList]

/-- A string takes one line iff it has no newline. -/
theorem splitLines_eq_singleton_iff {s : String} : splitLines s = [s] ↔ '\n' ∉ s.toList := by
  refine ⟨fun h => ?_, splitLines_of_notMem⟩
  have hmem : s ∈ splitLines s := by simp [h]
  obtain ⟨piece, hpiece, rfl⟩ := List.mem_map.mp hmem
  rw [String.toList_ofList]
  exact Text.notMem_of_mem_splitAt hpiece

/-! ## Findings and notes -/

theorem filterMap_finding (fs : List Finding) :
    (fs.map Remark.finding).filterMap Remark.finding? = fs := by
  rw [List.filterMap_map]
  exact List.filterMap_some

theorem filterMap_note (lines : List String) :
    (lines.map Remark.note).filterMap Remark.finding? = [] := by
  rw [List.filterMap_map, List.filterMap_eq_nil_iff]
  exact fun _ _ => rfl

/-- The findings are those among the remarks. -/
theorem Transcript.mem_findings {t : Transcript} {f : Finding} :
    f ∈ t.findings ↔ .finding f ∈ t.remarks := by
  rw [findings, List.mem_filterMap]
  constructor
  · rintro ⟨remark, hmem, hf⟩
    cases remark with
    | finding g =>
        cases hf
        exact hmem
    | note line => cases hf
  · exact fun hmem => ⟨_, hmem, rfl⟩

/-! ## Outcomes -/

namespace Outcome

theorem lines_ofTrace (t : Trace String Nat) : (ofTrace t).lines = t.output.flatMap splitLines := by
  unfold ofTrace
  cases t.outcome <;> rfl

theorem lines_ofCheck (c : Check Unit) :
    (ofCheck c).lines = c.output.flatMap fun f => splitLines f.line := by
  rw [ofCheck, lines_ofTrace, List.flatMap_map]

theorem messages_ofCheck (c : Check Unit) : (ofCheck c).messages = [] := by
  unfold ofCheck ofTrace
  cases c.outcome <;> rfl

/-- The outcome of a check that ends is that of its findings. -/
theorem ofCheck_of_ends {c : Check Unit} {fs : List Finding} (h : c.Ends fs ()) :
    ofCheck c = ofFindings fs := by
  rw [ofCheck, h.output, h.outcome]
  simp [ofTrace, ofFindings, List.flatMap_map, Except.map]

/-- A check whose outcome names no fault ends by itself, with status zero. -/
theorem ends_of_fault_ofCheck {c : Check Unit} (h : (ofCheck c).fault = none) :
    c.Ends c.output () ∧ (ofCheck c).status = 0 := by
  unfold ofCheck ofTrace at h ⊢
  cases hc : c.outcome with
  | error e =>
      rw [hc] at h
      cases h
  | ok u => exact ⟨Trace.ends_of_outcome hc, rfl⟩

/-- A run whose outcome names no fault ends by itself. -/
theorem ends_of_fault_ofTrace {t : Trace String Nat} (h : (ofTrace t).fault = none) :
    t.Ends t.output (ofTrace t).status := by
  unfold ofTrace at h ⊢
  cases ht : t.outcome with
  | error e =>
      rw [ht] at h
      cases h
  | ok status => exact Trace.ends_of_outcome ht

end Outcome

end ExtensionAudit
