import Mathlib
import ExtensionAudit.Command
import ExtensionAudit.Proofs.Outcome
import ExtensionAudit.Proofs.Verdict.Lifecycle
import ExtensionAudit.Proofs.Verdict.Manifest
import ExtensionAudit.Proofs.Verdict.Quality

/-!
# Verdicts of the commands

The commands for the manifest, for quality and for the lifecycle give at most one verdict on a
check.  The command for quality gives a verdict on each of its checks if there is a script to look
at.
-/

namespace ExtensionAudit.Command

open Finding

theorem consistent_quality (ext : Extension) : (Quality.check ext).Writes Consistent := by
  by_cases hext : ext.scripts = []
  · rw [Quality.check, if_pos (by simp [hext])]
    exact Check.sound_report.mono fun _ hfs => hfs.consistent
  · refine (Quality.judged_check ext hext).mono ?_
    rintro fs ⟨blocks, hblocks, rfl⟩
    exact Quality.consistent_of_judged hblocks (by decide) (by decide)

/-- A run of the checks for quality, the lifecycle or the manifest that ends by itself reports a
check that passes only once.  For quality, each of the 27 checks is settled if there are scripts,
and all else that is reported are warnings about error handlers around calls that destroy. -/
theorem verdicts_runFamily (v : Volume) (here : Path) (dir : String) (args : List String)
    (family : Family) (hfamily : family ∈ [Family.quality, .lifecycle, .manifest])
    (hends : (runFamily v here family (dir :: args)).fault = none) :
    let ext : Extension := ⟨v, v.realPath here dir⟩
    let fs := (family.check ext).output
    (runFamily v here family (dir :: args)).lines = fs.flatMap (fun f => splitLines f.line) ∧
      (∀ f ∈ fs, f.status = .pass → on f.check fs = [f]) ∧
      (family = .quality → ext.scripts ≠ [] →
        Quality.names.length = 27 ∧ Quality.checks.length = 27 ∧ Quality.names.Nodup ∧
          (∀ name ∈ Quality.names, Settled name (on name fs)) ∧
          ∀ f ∈ fs, f.check ∉ Quality.names →
            f.check = "quality/destroy-try-catch" ∧ f.status = .warn) := by
  intro ext fs
  obtain ⟨hfs, -⟩ := Outcome.ends_of_fault_ofCheck hends
  refine ⟨Outcome.lines_ofCheck _, ?_, ?_⟩
  · have hfamilies : (family.check ext).Writes Consistent := by
      simp only [List.mem_cons, List.not_mem_nil, or_false] at hfamily
      rcases hfamily with rfl | rfl | rfl
      · exact consistent_quality ext
      · exact (Lifecycle.sound_check ext).mono fun _ h => h.consistent
      · exact (Manifest.sound_check ext).mono fun _ h => h.consistent
    exact hfamilies fs () hfs
  · rintro rfl hext
    obtain ⟨blocks, hblocks, hflat⟩ := Quality.judged_check ext hext fs () hfs
    refine ⟨rfl, rfl, by decide, ?_, ?_⟩
    · intro name hname
      rw [hflat]
      exact Quality.settled_on_of_judged hblocks (by decide) (by decide) hname
    · intro f hf hout
      rw [hflat] at hf
      exact (Quality.check_mem_of_judged hblocks f hf).resolve_left hout

/-- An extension of one script, which swallows an error. -/
def swallowing : Volume :=
  ⟨.dir [("extension.js", .file (Text.encode "try\x7b\x7dcatch\x7b\x7d".toList) false)], .plain⟩

/-- A script that swallows an error is settled for that check. -/
theorem verdicts_runFamily_swallowing :
    let ext : Extension := ⟨swallowing, swallowing.realPath [] "/"⟩
    let fs := (Family.quality.check ext).output
    (runFamily swallowing [] .quality ["/"]).fault = none ∧ ext.scripts = [["extension.js"]] ∧
      Settled "quality/empty-catch" (on "quality/empty-catch" fs) := by
  intro ext fs
  have hends : (runFamily swallowing [] .quality ["/"]).fault = none := by decide +kernel
  have hscripts : ext.scripts = [["extension.js"]] := by decide
  obtain ⟨-, -, hquality⟩ :=
    verdicts_runFamily swallowing [] "/" [] .quality (by decide) hends
  obtain ⟨-, -, -, hsettled, -⟩ := hquality rfl (by rw [hscripts]; decide)
  exact ⟨hends, hscripts, hsettled "quality/empty-catch" (by decide)⟩

end ExtensionAudit.Command
