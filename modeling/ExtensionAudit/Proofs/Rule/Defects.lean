import Mathlib
import ExtensionAudit.Proofs.Rule.Blocks

/-!
# What validation counts

Each rule is validated with the rules before it: what fields it lacks, whether an earlier rule has
its name, its severity and its pattern.  A validation that ends by itself writes one record for
each defect and counts the records (`ends_validateFrom`).  So rules are valid iff nothing is there
to be counted, and otherwise the summary states the number of records (`validateRules_counts`).
-/

namespace ExtensionAudit

namespace Rule

open Trace

/-! ## One rule -/

/-- An earlier rule has the same name. -/
def repeatsName (earlier : List Rule) (r : Rule) : Bool :=
  r.has "id" && earlier.any (·.get? "id" == r.get? "id")

/-- The severity is empty or known. -/
def hasKnownSeverity (r : Rule) : Bool :=
  r.getD "severity" "" ∈ [.text [], .list [], .text "blocking".toList, .text "advisory".toList]

/-- The pattern is empty or well formed. -/
def hasGoodPattern (r : Rule) : Bool :=
  match r.getD "pattern" "" with
  | .text t => t.isEmpty || (Pattern.read t).isOk
  | .list _ => true

/-- A name that comes again is one defect. -/
theorem length_of_duplicateDefects {earlier : List Rule} {r : Rule} {ds : List Defect}
    (h : r.duplicateDefects earlier = .ok ds) :
    ds.length = if r.repeatsName earlier then 1 else 0 := by
  unfold duplicateDefects at h
  unfold repeatsName has
  cases hid : r.get? "id" with
  | none =>
      rw [hid] at h
      cases h
      rfl
  | some v =>
      rw [hid] at h
      cases v with
      | list items => cases h
      | text t =>
          have hearlier : (Text.numbered earlier).map Prod.snd = earlier := by
            simp [Text.numbered, Function.comp_def]
          have hany : ((Text.numbered earlier).reverse.find? fun x =>
              x.2.get? "id" == some (.text t)).isSome =
                earlier.any (·.get? "id" == some (.text t)) := by
            rw [List.isSome_find?, List.any_reverse, ← hearlier, List.any_map, hearlier]
            rfl
          rw [Option.isSome_some, Bool.true_and, ← hany]
          dsimp only at h
          split at h
          next hfound =>
            cases h
            exact (congrArg (fun o => if o.isSome then 1 else 0) hfound).symm
          next hnone =>
            cases h
            exact (congrArg (fun o => if o.isSome then 1 else 0) hnone).symm

/-- An unknown severity is one defect. -/
theorem length_severityDefects (r : Rule) :
    r.severityDefects.length = if !r.hasKnownSeverity then 1 else 0 := by
  have hknown (v : Value) : decide (v ∈ [.text [], .list [], .text "blocking".toList,
      .text "advisory".toList]) = !(v.isPresent && v != .text "blocking".toList &&
        v != .text "advisory".toList) := by
    cases v with
    | list items => cases items <;> simp [Value.isPresent]
    | text t => cases t <;> simp [Value.isPresent, bne, beq_eq_decide]
  rw [hasKnownSeverity, hknown, Bool.not_not, severityDefects]
  split <;> rfl

/-- A pattern that cannot be read is one defect. -/
theorem length_of_patternDefects {r : Rule} {ds : List Defect} (h : r.patternDefects = .ok ds) :
    ds.length = if !r.hasGoodPattern then 1 else 0 := by
  unfold patternDefects at h
  cases hv : r.getD "pattern" "" with
  | list items =>
      rw [hv] at h
      rw [hasGoodPattern, hv]
      cases items with
      | nil =>
          cases h
          rfl
      | cons item items => cases h
  | text t =>
      rw [hv] at h
      have hgood : r.hasGoodPattern = (t.isEmpty || (Pattern.read t).isOk) := by
        rw [hasGoodPattern, hv]
      have hempty : (Pattern.read []).isOk = true := by decide +kernel
      rw [hgood]
      dsimp only at h
      cases hread : Pattern.read t with
      | ok p =>
          rw [hread] at h
          cases h
          simp [Except.isOk, Except.toBool]
      | error refusal =>
          rw [hread] at h
          cases refusal with
          | malformed p place =>
              cases h
              cases t with
              | nil =>
                  rw [hread] at hempty
                  cases hempty
              | cons c t => rfl
          | _ => cases h

/-- The record for a defect of the rule with a number. -/
def record (number : Nat) (r : Rule) (d : Defect) : String :=
  "ERROR: " ++ r.nameAt number ++ ": " ++ d.message

/-- The validation of a rule writes a record for each of its defects. -/
theorem ends_validate {earlier : List Rule} {r : Rule} {ws : List String} {n : Nat}
    (h : (r.validate earlier).Ends ws n) :
    ∃ duplicates patterns, r.duplicateDefects earlier = .ok duplicates ∧
      r.patternDefects = .ok patterns ∧ n = ws.length ∧
      ws = (r.missingDefects ++ (duplicates ++ (r.severityDefects ++ patterns))).map
        (r.record (earlier.length + 1)) := by
  have hsay {ds : List Defect} {us : List String} {k : Nat}
      (h : Ends (write (ds.map (r.record (earlier.length + 1))) >>= fun _ => pure ds.length) us k) :
      us = ds.map (r.record (earlier.length + 1)) ∧ k = ds.length := by
    obtain ⟨_, _, _, hwrite, hlength, rfl⟩ := ends_bind.mp h
    obtain ⟨rfl, rfl⟩ := ends_pure.mp hlength
    obtain rfl := ends_write.mp hwrite
    simp
  unfold validate at h
  obtain ⟨_, _, _, hmissing, hrest, rfl⟩ := ends_bind.mp h
  obtain ⟨_, duplicates, _, hduplicates, hrest₁, rfl⟩ := ends_bind.mp hrest
  obtain ⟨_, _, _, hduplicate, hrest₂, rfl⟩ := ends_bind.mp hrest₁
  obtain ⟨_, _, _, hseverity, hrest₃, rfl⟩ := ends_bind.mp hrest₂
  obtain ⟨_, patterns, _, hpatterns, hrest₄, rfl⟩ := ends_bind.mp hrest₃
  obtain ⟨_, _, _, hpattern, hsum, rfl⟩ := ends_bind.mp hrest₄
  obtain ⟨rfl, rfl⟩ := ends_pure.mp hsum
  obtain ⟨rfl, hearlier⟩ := ends_lift.mp hduplicates
  obtain ⟨rfl, hread⟩ := ends_lift.mp hpatterns
  obtain ⟨rfl, rfl⟩ := hsay hmissing
  obtain ⟨rfl, rfl⟩ := hsay hduplicate
  obtain ⟨rfl, rfl⟩ := hsay hseverity
  obtain ⟨rfl, rfl⟩ := hsay hpattern
  refine ⟨duplicates, patterns, hearlier, hread, ?_, by simp⟩
  simp
  omega

/-! ## All rules -/

/-- How many rules have the name of a rule before them, if they follow `earlier` ones. -/
def repeats (earlier rules : List Rule) : Nat :=
  rules.zipIdx.countP fun p => p.1.repeatsName (earlier ++ rules.take p.2)

theorem repeats_cons (earlier : List Rule) (r : Rule) (rest : List Rule) :
    repeats earlier (r :: rest) =
      repeats (earlier ++ [r]) rest + if r.repeatsName earlier then 1 else 0 := by
  rw [repeats, repeats, List.zipIdx_cons', List.countP_cons, List.countP_map]
  congr 1
  · exact List.countP_congr fun p _ => by simp
  · simp

/-- The number of missing fields, repeated names, unknown severities and malformed patterns of
rules that follow `earlier` ones. -/
def defectCount (earlier rules : List Rule) : Nat :=
  (rules.map fun r => requiredFields.countP (!r.has ·)).sum + repeats earlier rules +
    rules.countP (!·.hasKnownSeverity) + rules.countP (!·.hasGoodPattern)

/-- The validation of rules writes a record for each defect. -/
theorem ends_validateFrom {earlier rules : List Rule} {ws : List String} {n : Nat}
    (h : (validateFrom earlier rules).Ends ws n) :
    n = ws.length ∧ (∀ w ∈ ws, ∃ number r d, w = record number r d) ∧
      n = defectCount earlier rules := by
  induction rules generalizing earlier ws n with
  | nil =>
      obtain ⟨rfl, rfl⟩ := ends_pure.mp h
      simp [defectCount, repeats]
  | cons r rest ih =>
      obtain ⟨us, here, _, hr, hrest, rfl⟩ := ends_bind.mp h
      obtain ⟨vs, more, _, hmore, hsum, rfl⟩ := ends_bind.mp hrest
      obtain ⟨rfl, rfl⟩ := ends_pure.mp hsum
      obtain ⟨duplicates, patterns, hduplicates, hpatterns, hhere, hus⟩ := ends_validate hr
      obtain ⟨hlength, hrecords, hcount⟩ := ih hmore
      have hmissing : r.missingDefects.length = requiredFields.countP (!r.has ·) := by
        rw [missingDefects, List.length_map, List.countP_eq_length_filter]
      refine ⟨by simp [hhere, hlength], ?_, ?_⟩
      · intro w hw
        rw [List.append_nil, hus, List.mem_append] at hw
        rcases hw with hw | hw
        · obtain ⟨d, -, rfl⟩ := List.mem_map.mp hw
          exact ⟨_, r, d, rfl⟩
        · exact hrecords w hw
      · simp only [hhere, hus, hcount, defectCount, repeats_cons, List.map_cons, List.sum_cons,
          List.countP_cons, List.length_map, List.length_append, hmissing,
          length_of_duplicateDefects hduplicates, length_severityDefects,
          length_of_patternDefects hpatterns]
        omega

/-- No rule has the name of a rule before it iff no two have the same name, and none has that of an
earlier one. -/
theorem repeats_eq_zero_iff (earlier rules : List Rule) : repeats earlier rules = 0 ↔
    (∀ r ∈ rules, r.repeatsName earlier = false) ∧
      rules.Pairwise fun e r => r.repeatsName [e] = false := by
  induction rules generalizing earlier with
  | nil => simp [repeats]
  | cons r rest ih =>
      have happend (x : Rule) : x.repeatsName (earlier ++ [r]) = false ↔
          x.repeatsName earlier = false ∧ x.repeatsName [r] = false := by
        simp only [repeatsName, List.any_append, Bool.and_or_distrib_left, Bool.or_eq_false_iff]
      rw [repeats_cons, Nat.add_eq_zero_iff, ih, List.pairwise_cons, List.forall_mem_cons]
      simp only [happend, forall_and, ite_eq_right_iff, Nat.one_ne_zero, imp_false,
        Bool.not_eq_true]
      tauto

/-- Nothing is wrong with the rules. -/
@[mk_iff]
structure AreValid (rules : List Rule) : Prop where
  /-- Each rule has the required fields. -/
  fields : ∀ r ∈ rules, ∀ field ∈ requiredFields, r.has field = true
  /-- No two rules have the same name. -/
  distinct : rules.Pairwise fun e r => r.repeatsName [e] = false
  /-- Each severity is empty or known. -/
  severities : ∀ r ∈ rules, r.hasKnownSeverity = true
  /-- Each pattern is empty or well formed. -/
  patterns : ∀ r ∈ rules, r.hasGoodPattern = true

theorem defectCount_eq_zero_iff (rules : List Rule) :
    defectCount [] rules = 0 ↔ AreValid rules := by
  rw [areValid_iff, defectCount, Nat.add_eq_zero_iff, Nat.add_eq_zero_iff, Nat.add_eq_zero_iff,
    repeats_eq_zero_iff]
  simp [List.sum_eq_zero_iff, List.countP_eq_zero, repeatsName, and_assoc]

/-- What the validation of rules ends with. -/
theorem ends_validateAll {rules : List Rule} {ws : List String} {status : Nat}
    (h : (validateAll rules).Ends ws status) :
    ∃ records errors, (validateFrom [] rules).Ends records errors ∧
      (errors = 0 ∧ status = 0 ∨ errors ≠ 0 ∧ status = 1 ∧
        ws = records ++ ["", s!"{errors} error(s) found in {rules.length} rules"]) := by
  obtain ⟨records, errors, _, hfrom, hsummary, rfl⟩ := ends_bind.mp h
  refine ⟨records, errors, hfrom, ?_⟩
  split at hsummary
  next hzero =>
    obtain ⟨_, _, _, -, hstatus, -⟩ := ends_bind.mp hsummary
    exact .inl ⟨beq_iff_eq.mp hzero, (ends_pure.mp hstatus).2⟩
  next hsome =>
    obtain ⟨_, _, _, hwrite, hstatus, rfl⟩ := ends_bind.mp hsummary
    obtain ⟨rfl, rfl⟩ := ends_pure.mp hstatus
    obtain rfl := ends_write.mp hwrite
    exact .inr ⟨mt beq_iff_eq.mpr hsome, rfl, by rw [List.append_nil]⟩

end Rule

namespace Command

/-- Rules pass iff they are valid.  Otherwise the summary states the number of the records before
it, which is the number of the defects. -/
theorem validateRules_counts (v : Volume) (here : Path) (file : String) (rules : List Rule)
    (hread : readRules v here file = .ok (some rules))
    (hends : (validateRules v here file).fault = none) :
    ((validateRules v here file).status = 0 ↔ Rule.AreValid rules) ∧
    ((validateRules v here file).status ≠ 0 → (validateRules v here file).status = 1 ∧
      ∃ records : List String, records.length = Rule.defectCount [] rules ∧
        (∀ w ∈ records, (∃ number r d, w = Rule.record number r d) ∧
          ('\n' ∉ w.toList → splitLines w = [w])) ∧
        (validateRules v here file).lines = (records ++ ["",
          s!"{records.length} error(s) found in {rules.length} rules"]).flatMap splitLines) := by
  simp only [validateRules, hread] at hends ⊢
  obtain ⟨records, errors, hfrom, hsummary⟩ :=
    Rule.ends_validateAll (Outcome.ends_of_fault_ofTrace hends)
  obtain ⟨hlength, hrecords, hcount⟩ := Rule.ends_validateFrom hfrom
  rw [← Rule.defectCount_eq_zero_iff, ← hcount]
  rcases hsummary with ⟨herrors, hstatus⟩ | ⟨herrors, hstatus, hlines⟩
  · simp [hstatus, herrors]
  · refine ⟨by simp [hstatus, herrors], fun _ => ⟨hstatus, records, hlength.symm,
      fun w hw => ⟨hrecords w hw, splitLines_of_notMem⟩, ?_⟩⟩
    rw [Outcome.lines_ofTrace, hlines, hlength]

/-- Two rules with one name: the first lacks fields, and the severity of the second is unknown. -/
theorem validateRules_counts_repeated :
    let v := oneScript
      "- id: A\n- id: A\n  pattern: x\n  scope: y\n  severity: high\n  message: z" ""
    ∃ rules records, readRules v ["ext"] "/rules" = .ok (some rules) ∧
      (validateRules v ["ext"] "/rules").fault = none ∧ ¬ Rule.AreValid rules ∧
      records.length = Rule.defectCount [] rules ∧
      (validateRules v ["ext"] "/rules").lines = (records ++
        ["", s!"{records.length} error(s) found in {rules.length} rules"]).flatMap splitLines := by
  intro v
  obtain ⟨rules, hrules⟩ : ∃ rules, readRules v ["ext"] "/rules" = .ok (some rules) := ⟨_, rfl⟩
  have hrun : (validateRules v ["ext"] "/rules").fault = none ∧
      (validateRules v ["ext"] "/rules").status ≠ 0 := by decide +kernel
  obtain ⟨hvalid, hcounts⟩ := validateRules_counts v ["ext"] "/rules" rules hrules hrun.1
  obtain ⟨-, records, hlength, -, hlines⟩ := hcounts hrun.2
  exact ⟨rules, records, hrules, hrun.1, mt hvalid.mpr hrun.2, hlength, hlines⟩

/-- A name with a newline in it makes two lines of each record, and both may look like records. -/
theorem validateRules_newline :
    let v := oneScript "- id: \"A\\nERROR: B\"" ""
    let out := validateRules v ["ext"] "/rules"
    readRules v ["ext"] "/rules" =
        .ok (some [⟨[("id".toList, .text "A\nERROR: B".toList)]⟩]) ∧
      out.fault = none ∧ out.status = 1 ∧
      out.lines.countP ("ERROR:".toList.isPrefixOf ·.toList) = 8 ∧
      out.lines.getLast? = some "4 error(s) found in 1 rules" := by
  decide +kernel

end Command

end ExtensionAudit
