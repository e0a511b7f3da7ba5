import Mathlib
import ExtensionAudit.Command
import ExtensionAudit.Proofs.Distinct
import ExtensionAudit.Proofs.Outcome
import ExtensionAudit.Proofs.Rule.Hits

/-!
# One block for each rule

Applying rules writes one block of findings for each rule, in the order of the rules.  `Block`
says what the block of a rule can be:

* one finding that the rule is skipped, if it does not apply or its pattern is malformed;
* one finding that the rule passes, if there is no offence;
* a finding for each offence, if the rule is plain;
* one finding with the names of the files with offences, if the rule deduplicates.

The cases exclude each other, so the block of a plain rule is fixed up to order and repetition by
the offences (`Offence`), and every other block is fixed as it stands.

A finding is written as one line, unless one of its texts holds a newline.  The texts of a rule
can: between double quotes, a rules file writes a newline as an escape.
-/

namespace ExtensionAudit.Rule

/-! ## Blocks -/

/-- The finding with which a rule that deduplicates reports files. -/
def filesFinding (r : Rule) (files : List String) : Finding :=
  let names := ", ".intercalate files
  ⟨r.status, r.label, r.withFix s!"{r.message} in {files.length} file(s): {names}"⟩

/-- What a rule writes on an extension that declares the given versions. -/
inductive Block (ext : Extension) (versions : List Int) (r : Rule) : List Finding → Prop where
  /-- The rule does not apply. -/
  | closed : r.applies versions = false →
      Block ext versions r [⟨.skip, r.label, "Not applicable for declared shell-version(s)"⟩]
  /-- The pattern is malformed. -/
  | malformed : r.applies versions = true → r.pattern? = .ok none →
      Block ext versions r
        [⟨.skip, r.label, "Invalid regex: " ++ String.ofList (r.getD "pattern" "").shown⟩]
  /-- Nothing offends. -/
  | clean (p : Pattern) : r.applies versions = true → r.pattern? = .ok (some p) →
      (∀ t n, ¬ Offence ext r p t n) →
      Block ext versions r [⟨.pass, r.label, "No matches"⟩]
  /-- A plain rule reports every offence. -/
  | plain (p : Pattern) (hits : List Hit) : r.applies versions = true →
      r.pattern? = .ok (some p) → r.deduplicates = false → hits ≠ [] →
      (∀ h, h ∈ hits ↔ ∃ t, relativeName ext t = h.file ∧ Offence ext r p t h.line) →
      Block ext versions r (hits.map r.hitFinding)
  /-- A rule that deduplicates reports every file with an offence, in ascending order. -/
  | gathered (p : Pattern) (files : List String) : r.applies versions = true →
      r.pattern? = .ok (some p) → r.deduplicates = true → files ≠ [] →
      files.Pairwise (fun a b => a.toList < b.toList) →
      (∀ name, name ∈ files ↔ ∃ t n, relativeName ext t = name ∧ Offence ext r p t n) →
      Block ext versions r [r.filesFinding files]

/-! ## Files in order -/

/-- The files of hits: each once, in ascending order. -/
def filesOf (hits : List Hit) : List String :=
  (hits.map (·.file)).eraseDups.mergeSort fileBefore

theorem fileBefore_iff (a b : String) : fileBefore a b = true ↔ a.toList ≤ b.toList := by
  unfold fileBefore
  rw [Bool.not_eq_true', Bool.eq_false_iff, ne_eq, Text.precedes_iff, not_lt]

theorem mem_filesOf {hits : List Hit} {name : String} :
    name ∈ filesOf hits ↔ ∃ h ∈ hits, h.file = name := by
  unfold filesOf
  rw [List.mem_mergeSort, List.mem_eraseDups, List.mem_map]

/-- The files of hits are in ascending order. -/
theorem pairwise_filesOf (hits : List Hit) :
    (filesOf hits).Pairwise fun a b => a.toList < b.toList := by
  have hsorted : (filesOf hits).Pairwise fun a b => fileBefore a b = true := by
    apply List.pairwise_mergeSort
    · intro a b c hab hbc
      rw [fileBefore_iff] at hab hbc ⊢
      exact hab.trans hbc
    · intro a b
      rw [Bool.or_eq_true, fileBefore_iff, fileBefore_iff]
      exact le_total _ _
  have hdistinct : (filesOf hits).Nodup :=
    (List.mergeSort_perm _ _).nodup_iff.mpr (nodup_eraseDups _)
  refine (hsorted.and hdistinct).imp ?_
  rintro a b ⟨hle, hne⟩
  refine lt_of_le_of_ne ((fileBefore_iff a b).mp hle) ?_
  exact fun h => hne (String.toList_injective h)

/-! ## The block of a rule -/

/-- What a rule with a pattern writes is its block. -/
theorem ends_applyPattern {ext : Extension} {versions : List Int} {r : Rule} {p : Pattern}
    (happlies : r.applies versions = true) (hpattern : r.pattern? = .ok (some p))
    {ws : List Finding} (hrun : (r.applyPattern ext p).Ends ws ()) : Block ext versions r ws := by
  unfold applyPattern at hrun
  obtain ⟨us, hits, vs, hcollect, hrest, rfl⟩ := Trace.ends_bind.mp hrun
  obtain ⟨rfl, hmem⟩ := ends_allHits ext r p hcollect
  cases hits with
  | nil =>
      obtain rfl := Trace.ends_write.mp hrest
      rw [written_nil]
      refine .clean p happlies hpattern fun t n hoff => ?_
      exact List.not_mem_nil ((hmem ⟨relativeName ext t, n⟩).mpr ⟨t, rfl, hoff⟩)
  | cons hit more =>
      cases hd : r.deduplicates with
      | false =>
          simp only [List.isEmpty_cons, hd] at hrest
          obtain ⟨rfl, -⟩ := Trace.ends_pure.mp hrest
          simp only [written, hd, List.append_nil]
          exact .plain p (hit :: more) happlies hpattern hd (List.cons_ne_nil _ _) hmem
      | true =>
          simp only [List.isEmpty_cons, hd] at hrest
          obtain rfl := Trace.ends_write.mp hrest
          simp only [written, hd]
          refine .gathered p (filesOf (hit :: more)) happlies hpattern hd ?_
            (pairwise_filesOf _) fun name => ?_
          · exact List.ne_nil_of_mem (mem_filesOf.mpr ⟨hit, List.mem_cons_self, rfl⟩)
          · rw [mem_filesOf]
            constructor
            · rintro ⟨h, hh, rfl⟩
              obtain ⟨t, hname, hoff⟩ := (hmem h).mp hh
              exact ⟨t, h.line, hname, hoff⟩
            · rintro ⟨t, n, hname, hoff⟩
              exact ⟨⟨name, n⟩, (hmem _).mpr ⟨t, hname, hoff⟩, rfl⟩

/-- What a rule writes is its block. -/
theorem ends_apply {ext : Extension} {versions : List Int} {r : Rule} {ws : List Finding}
    (hrun : (r.apply ext versions).Ends ws ()) : Block ext versions r ws := by
  unfold apply at hrun
  cases happlies : r.applies versions with
  | false =>
      rw [happlies] at hrun
      obtain rfl := Trace.ends_write.mp hrun
      exact .closed happlies
  | true =>
      rw [happlies] at hrun
      obtain ⟨us, found, vs, hlift, hrest, rfl⟩ := Trace.ends_bind.mp hrun
      obtain ⟨rfl, hpattern⟩ := Trace.ends_lift.mp hlift
      cases found with
      | none =>
          obtain rfl := Trace.ends_write.mp hrest
          exact .malformed happlies hpattern
      | some p => exact ends_applyPattern happlies hpattern hrest

/-- Applying rules writes their blocks, one after the other. -/
theorem ends_applyAll {ext : Extension} {rules : List Rule} {ws : List Finding}
    (hrun : (applyAll ext rules).Ends ws ()) :
    ∃ versions blocks, Manifest.declaredVersions ext = .ok versions ∧
      List.Forall₂ (Block ext versions) rules blocks ∧ ws = blocks.flatten := by
  unfold applyAll at hrun
  obtain ⟨us, versions, vs, hlift, hrest, rfl⟩ := Trace.ends_bind.mp hrun
  obtain ⟨rfl, hversions⟩ := Trace.ends_lift.mp hlift
  obtain ⟨blocks, hblocks, rfl⟩ := Trace.ends_each.mp hrest
  exact ⟨versions, blocks, hversions, hblocks.imp fun _ _ => ends_apply, rfl⟩

end ExtensionAudit.Rule

namespace ExtensionAudit.Command

/-! ## The output of the command -/

/-- A command that applies rules and is not ended by a fault writes the blocks of the rules, and
nothing else.  A finding takes one line, unless one of its texts holds a newline. -/
theorem lines_applyRules (v : Volume) (here : Path) (file dir : String) (rules : List Rule)
    (hread : readRules v here file = .ok (some rules))
    (hends : (applyRules v here file dir).fault = none) :
    ∃ versions blocks,
      Manifest.declaredVersions ⟨v, v.realPath here dir⟩ = .ok versions ∧
      List.Forall₂ (Rule.Block ⟨v, v.realPath here dir⟩ versions) rules blocks ∧
      (applyRules v here file dir).lines = blocks.flatten.flatMap (fun f => splitLines f.line) ∧
      (∀ f ∈ blocks.flatten, '\n' ∉ f.line.toList → splitLines f.line = [f.line]) ∧
      (applyRules v here file dir).status = 0 := by
  simp only [applyRules, hread] at hends ⊢
  obtain ⟨hrun, hstatus⟩ := Outcome.ends_of_fault_ofCheck hends
  obtain ⟨versions, blocks, hversions, hblocks, hout⟩ := Rule.ends_applyAll hrun
  refine ⟨versions, blocks, hversions, hblocks, ?_, fun _ _ => splitLines_of_notMem, hstatus⟩
  rw [Outcome.lines_ofCheck, hout]

/-- A tree with a rules file, and an extension of one script beside it. -/
def oneScript (rules script : String) : Volume :=
  ⟨.dir [("ext", .dir [("extension.js", .file (Text.encode script.toList) false)]),
    ("rules", .file (Text.encode rules.toList) false)], .plain⟩

/-- Two rules, of which the second deduplicates, on a script with two offences and a directive. -/
theorem lines_applyRules_two :
    let v := oneScript
      "- id: A\n  pattern: eval\n  severity: blocking\n- id: B\n  pattern: e\n  deduplicate: true"
      "eval(x)\nlog(x) // ego-lint-ignore: A\neval(y)\neval(z)"
    ∃ rules, readRules v ["ext"] "/rules" = .ok (some rules) ∧
      (applyRules v ["ext"] "/rules" ".").lines =
        ["FAIL|A|extension.js:1: A", "FAIL|A|extension.js:4: A",
          "WARN|B|B in 1 file(s): extension.js"] ∧
      ∃ versions blocks,
        List.Forall₂ (Rule.Block ⟨v, v.realPath ["ext"] "."⟩ versions) rules blocks ∧
        (applyRules v ["ext"] "/rules" ".").lines =
          blocks.flatten.flatMap (fun f => splitLines f.line) := by
  intro v
  obtain ⟨rules, hrules⟩ : ∃ rules, readRules v ["ext"] "/rules" = .ok (some rules) := ⟨_, rfl⟩
  obtain ⟨versions, blocks, -, hblocks, hlines, -⟩ :=
    lines_applyRules v ["ext"] "/rules" "." rules hrules (by decide +kernel)
  exact ⟨rules, hrules, by decide +kernel, versions, blocks, hblocks, hlines⟩

/-- A pattern with a newline in it makes the finding that its rule is skipped take two lines. -/
theorem lines_applyRules_newline :
    let v := oneScript "- id: A\n  pattern: \"(\\nx\"" "eval(x)"
    let r : Rule := ⟨[(['i', 'd'], .text ['A']), ("pattern".toList, .text ['(', '\n', 'x'])]⟩
    readRules v ["ext"] "/rules" = .ok (some [r]) ∧ r.pattern? = .ok none ∧
      (applyRules v ["ext"] "/rules" ".").fault = none ∧
      (applyRules v ["ext"] "/rules" ".").lines = ["SKIP|A|Invalid regex: (", "x"] := by
  intro v r
  exact ⟨by decide +kernel, by decide +kernel, by decide +kernel, by decide +kernel⟩

end ExtensionAudit.Command
