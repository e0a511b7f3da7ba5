import Mathlib
import ExtensionAudit.Proofs.Distinct
import ExtensionAudit.Proofs.Text
import ExtensionAudit.Report

/-!
# Counts, record and verdict

The report keeps two accounts of the results.  The tally counts them one by one as they come, and
the record keeps their lines, which the verdict takes apart again at newlines and bars.  The two
agree on results that are *clean*: no newline in them, no bar in the status and in the name of
the check.  Every result that is read off a line is clean (`clean_of_mem_resultsOf`).

* `tally_ofResults`: the tally holds the numbers of results of each status.
* `lines_ofResults`: the lines that are read from the record are those of the results, in order.
* `verdict?_ofResults`: the verdict in terms of the results.
-/

namespace ExtensionAudit

/-! ## Rows -/

namespace Text

theorem dropNewline_append {l : Text} (h : '\n' ∉ l) : dropNewline (l ++ ['\n']) = l := by
  have hall : ∀ c ∈ l, (c != '\n') = true := fun c hc => bne_iff_ne.mpr fun he => h (he ▸ hc)
  rw [dropNewline, List.takeWhile_append_of_pos hall]
  simp

/-- Lines that are written with newlines are read as they were. -/
theorem rows_flatMap {ls : List Text} (h : ∀ l ∈ ls, '\n' ∉ l) :
    rows (ls.flatMap (· ++ ['\n'])) = ls := by
  induction ls with
  | nil => rfl
  | cons l ls ih =>
      obtain ⟨hl, hls⟩ := List.forall_mem_cons.mp h
      rw [List.flatMap_cons, List.append_assoc, List.singleton_append, rows,
        newlineLines_append hl, List.map_cons, dropNewline_append hl]
      exact congrArg _ (ih hls)

end Text

/-- The text starts and ends with plain characters that are no blanks, or it is empty. -/
def Text.endsPlainly (t : Text) : Bool :=
  let isPlain := fun c : Char => c.toNat < 128 && !Text.isAsciiBlank c
  t.head?.all isPlain && t.getLast?.all isPlain

namespace Machine

/-- Such a text has no blanks at its ends on any machine. -/
theorem trimOf_eq_self (m : Machine) {t : Text} (h : t.endsPlainly = true) :
    Text.trimOf m.isBlank t = t := by
  have hplain : ∀ o : Option Char,
      o.all (fun c => c.toNat < 128 && !Text.isAsciiBlank c) = true →
        o.any m.isBlank = false := by
    intro o ho
    cases o with
    | none => rfl
    | some c =>
        simp only [Option.all_some, Bool.and_eq_true, decide_eq_true_eq, Bool.not_eq_true'] at ho
        rw [Option.any_some, m.isBlank_ascii c ho.1, ho.2]
  obtain ⟨hfirst, hlast⟩ := Bool.and_eq_true_iff.mp h
  exact Text.trimOf_eq_self (hplain _ hfirst) (hplain _ hlast)

end Machine

namespace Report

/-! ## The tally -/

/-- How many results have a status. -/
def count (s : Status) (rs : List Result) : Nat := rs.countP (Result.hasStatus s)

theorem count_cons (s : Status) (r : Result) (rs : List Result) :
    count s (r :: rs) = count s rs + if r.hasStatus s then 1 else 0 := List.countP_cons

theorem count_pos_iff {s : Status} {rs : List Result} :
    0 < count s rs ↔ ∃ r ∈ rs, r.hasStatus s = true := List.countP_pos_iff

/-- A result has at most one of the four statuses. -/
theorem Result.hasStatus_unique {r : Result} {s t : Status} (hs : r.hasStatus s = true)
    (ht : r.hasStatus t = true) : s = t := by
  have hword : s.word.toList = t.word.toList := (beq_iff_eq.mp hs).symm.trans (beq_iff_eq.mp ht)
  revert hword
  cases s <;> cases t <;> decide

/-- Counting a result adds one to the count of its status, if it has one. -/
theorem Tally.add_status (t : Tally) (r : Result) :
    t.add r.status =
      { passed := t.passed + if r.hasStatus .pass then 1 else 0
        failed := t.failed + if r.hasStatus .fail then 1 else 0
        warned := t.warned + if r.hasStatus .warn then 1 else 0
        skipped := t.skipped + if r.hasStatus .skip then 1 else 0 } := by
  -- The four tests exclude each other, so their order does not matter.
  have hother : ∀ {s : Status} (s' : Status), r.hasStatus s = true → s ≠ s' →
      r.hasStatus s' = false :=
    fun _ hs hne => Bool.eq_false_iff.mpr fun hs' => hne (Result.hasStatus_unique hs hs')
  change (if r.hasStatus .fail then _ else if r.hasStatus .warn then _ else
    if r.hasStatus .pass then _ else if r.hasStatus .skip then _ else _) = _
  split
  next h =>
    simp [hother .pass h (by decide), hother .warn h (by decide), hother .skip h (by decide)]
  next hf =>
    split
    next h => simp [hother .pass h (by decide), hother .skip h (by decide)]
    next hw =>
      split
      next h => simp [hother .skip h (by decide)]
      next hp => split <;> simp [*]

/-- The tally of results. -/
def tallyOf (rs : List Result) : Tally :=
  { passed := count .pass rs, failed := count .fail rs
    warned := count .warn rs, skipped := count .skip rs }

/-- Each count grows by the number of results with its status. -/
theorem tally_foldl (rs : List Result) (l : Ledger) :
    (rs.foldl Ledger.add l).tally =
      { passed := l.tally.passed + count .pass rs, failed := l.tally.failed + count .fail rs
        warned := l.tally.warned + count .warn rs
        skipped := l.tally.skipped + count .skip rs } := by
  induction rs generalizing l with
  | nil => rfl
  | cons r rs ih =>
      rw [List.foldl_cons, ih, Ledger.add, Tally.add_status]
      simp only [count_cons, Nat.add_assoc, Nat.add_comm (count _ rs)]

theorem tally_ofResults (rs : List Result) : (Ledger.ofResults rs).tally = tallyOf rs := by
  rw [Ledger.ofResults, tally_foldl]
  simp [tallyOf]

/-! ## The record -/

theorem kept_foldl (rs : List Result) (l : Ledger) :
    (rs.foldl Ledger.add l).kept = (rs.map Result.line).reverse ++ l.kept := by
  induction rs generalizing l with
  | nil => rfl
  | cons r rs ih =>
      rw [List.foldl_cons, ih, Ledger.add]
      simp

/-- The record is the lines of the results in order. -/
theorem record_ofResults (rs : List Result) :
    (Ledger.ofResults rs).record = (rs.map Result.line).flatMap (· ++ ['\n']) := by
  rw [Ledger.record, Ledger.ofResults, kept_foldl, List.append_nil, List.reverse_reverse]

variable {m : Machine}

/-- A result that is read as it was when its line is taken apart. -/
structure Result.Clean (m : Machine) (r : Result) : Prop where
  /-- No bar is in the status. -/
  status : '|' ∉ r.status
  /-- No bar is in the name of the check. -/
  check : '|' ∉ r.check
  /-- No newline is in the line. -/
  line : '\n' ∉ r.line
  /-- The status has no blanks at its ends. -/
  trimmed : Text.trimOf m.isBlank r.status = r.status

theorem Result.newline_notMem_line {r : Result} (hstatus : '\n' ∉ r.status)
    (hcheck : '\n' ∉ r.check) (hdetail : '\n' ∉ r.detail) : '\n' ∉ r.line := by
  simp [Result.line, hstatus, hcheck, hdetail]

theorem lines_ofResults {rs : List Result} (h : ∀ r ∈ rs, r.Clean m) :
    (Ledger.ofResults rs).lines = rs.map Result.line := by
  rw [Ledger.lines, record_ofResults, Text.rows_flatMap]
  intro l hl
  obtain ⟨r, hr, rfl⟩ := List.mem_map.mp hl
  exact (h r hr).line

/-- The line of a clean result is read as its fields. -/
theorem Result.Clean.fields_line {r : Result} (h : r.Clean m) :
    fields r.line = ⟨r.status, r.check, lastField r.detail⟩ := by
  have hstatus : field r.line = (r.status, r.check ++ '|' :: r.detail) := by
    rw [field, Text.breakAt_eq_some_iff.mpr ⟨h.status, ?_⟩, Option.getD_some]
    simp [Result.line]
  have hcheck : field (r.check ++ '|' :: r.detail) = (r.check, r.detail) := by
    rw [field, Text.breakAt_eq_some_iff.mpr ⟨h.check, rfl⟩, Option.getD_some]
  rw [fields, hstatus]
  dsimp only
  rw [hcheck]

/-- The names of the checks among the results of a status. -/
def checksOf (s : Status) (rs : List Result) : Finset Text :=
  ((rs.filter (Result.hasStatus s)).map (·.check)).toFinset

/-- The checks of a status are the same in the record and among the results. -/
theorem length_checksWith {rs : List Result} (h : ∀ r ∈ rs, r.Clean m) (s : Status) :
    (checksWith s (Ledger.ofResults rs).lines).length = (checksOf s rs).card := by
  have hread : ((rs.map fun r => fields r.line).filter (Result.hasStatus s)).map (·.check) =
      (rs.filter (Result.hasStatus s)).map (·.check) := by
    induction rs with
    | nil => rfl
    | cons r rs ih =>
        obtain ⟨hr, hrs⟩ := List.forall_mem_cons.mp h
        rw [List.map_cons, hr.fields_line, List.filter_cons, List.filter_cons]
        change List.map _ (if r.hasStatus s then _ else _) = _
        split <;> simp [ih hrs]
  rw [checksWith, lines_ofResults h, List.map_map, checksOf, ← hread, ← length_eraseDups]
  rfl

theorem card_checksOf_pos_iff {s : Status} {rs : List Result} :
    0 < (checksOf s rs).card ↔ ∃ r ∈ rs, r.hasStatus s = true := by
  rw [Finset.card_pos, checksOf, List.toFinset_nonempty_iff, ne_eq, List.map_eq_nil_iff,
    List.filter_eq_nil_iff]
  push Not
  rfl

/-! ## The verdict -/

/-- The verdict in terms of the results. -/
theorem verdict?_ofResults {rs : List Result} (h : ∀ r ∈ rs, r.Clean m) :
    verdict? (Ledger.ofResults rs) =
      if (checksOf .warn rs).card = 0 then none
      else if 0 < count .fail rs then some (.rejected (count .fail rs))
      else if 8 < (checksOf .warn rs).card then
        some (.likelyRejected (checksOf .warn rs).card (count .warn rs))
      else some (.commented (checksOf .warn rs).card (count .warn rs)) := by
  simp only [verdict?, length_checksWith h, tally_ofResults, tallyOf, beq_iff_eq, gt_iff_lt]

/-- If something warns there is a verdict, and the results decide which. -/
theorem exists_verdict {rs : List Result} (h : ∀ r ∈ rs, r.Clean m)
    (hwarn : ∃ r ∈ rs, r.hasStatus .warn = true) :
    ∃ v, verdict? (Ledger.ofResults rs) = some v ∧
      (v = .rejected (count .fail rs) ↔ ∃ r ∈ rs, r.hasStatus .fail = true) ∧
      (v = .likelyRejected (checksOf .warn rs).card (count .warn rs) ↔
        (¬ ∃ r ∈ rs, r.hasStatus .fail = true) ∧ 8 < (checksOf .warn rs).card) ∧
      (v = .commented (checksOf .warn rs).card (count .warn rs) ↔
        (¬ ∃ r ∈ rs, r.hasStatus .fail = true) ∧ ¬ 8 < (checksOf .warn rs).card ∧
          ∃ r ∈ rs, r.hasStatus .warn = true) := by
  have hflagged : (checksOf .warn rs).card ≠ 0 := (card_checksOf_pos_iff.mpr hwarn).ne'
  rw [verdict?_ofResults h, if_neg hflagged]
  by_cases hfail : ∃ r ∈ rs, r.hasStatus .fail = true
  · rw [if_pos (count_pos_iff.mpr hfail)]
    exact ⟨_, rfl, by simp [hfail], by simp [hfail], by simp [hfail]⟩
  · rw [if_neg (count_pos_iff.not.mpr hfail)]
    by_cases hmany : 8 < (checksOf .warn rs).card
    · rw [if_pos hmany]
      exact ⟨_, rfl, by simp [hfail], by simp [hfail, hmany], by simp [hmany]⟩
    · rw [if_neg hmany]
      exact ⟨_, rfl, by simp [hfail], by simp [hmany], by simp only [hfail, hmany, hwarn]; simp⟩

/-- If nothing warns there is no verdict. -/
theorem verdict?_eq_none {rs : List Result} (h : ∀ r ∈ rs, r.Clean m)
    (hwarn : ¬ ∃ r ∈ rs, r.hasStatus .warn = true) : verdict? (Ledger.ofResults rs) = none := by
  rw [verdict?_ofResults h, if_pos]
  exact Nat.eq_zero_of_not_pos (card_checksOf_pos_iff.not.mpr hwarn)

/-! ## Results of lines -/

theorem notMem_field {t : Text} : '|' ∉ (field t).1 := by
  unfold field
  cases h : Text.breakAt '|' t with
  | none => exact Text.breakAt_eq_none_iff.mp h
  | some cut => exact (Text.breakAt_eq_some_iff.mp h).1

theorem field_sublist (t : Text) : (field t).1.Sublist t ∧ (field t).2.Sublist t := by
  unfold field
  cases h : Text.breakAt '|' t with
  | none => exact ⟨List.Sublist.refl t, List.nil_sublist t⟩
  | some cut =>
      obtain ⟨-, rfl⟩ := Text.breakAt_eq_some_iff.mp h
      exact ⟨List.sublist_append_left _ _,
        (List.sublist_cons_self _ _).trans (List.sublist_append_right _ _)⟩

theorem lastField_sublist (t : Text) : (lastField t).Sublist t := by
  unfold lastField
  split
  next before h =>
    obtain ⟨-, rfl⟩ := Text.breakAt_eq_some_iff.mp h
    exact List.sublist_append_left _ _
  next => exact List.Sublist.refl t

/-- A result that is read off one line is clean. -/
theorem clean_of_ofLine? {line : Text} {r : Result} (hline : '\n' ∉ line)
    (h : Result.ofLine? m line = some r) : r.Clean m := by
  unfold Result.ofLine? at h
  dsimp only at h
  split at h
  next => cases h
  next =>
    cases h
    have htrim : ∀ t, (Text.trimOf m.isBlank t).Sublist t := Text.trimOf_sublist _
    have hrest : (field line).2.Sublist line := (field_sublist line).2
    have hstatus : (Text.trimOf m.isBlank (fields line).status).Sublist line :=
      (htrim _).trans (field_sublist line).1
    have hcheck : (Text.trimOf m.isBlank (fields line).check).Sublist line :=
      (htrim _).trans ((field_sublist _).1.trans hrest)
    have hdetail : (Text.trimOf m.isBlank (fields line).detail).Sublist line :=
      (htrim _).trans ((lastField_sublist _).trans ((field_sublist _).2.trans hrest))
    refine ⟨?_, ?_, ?_, Text.trimOf_trimOf _ _⟩
    · exact fun hbar => notMem_field ((htrim _).subset hbar)
    · exact fun hbar => notMem_field ((htrim _).subset hbar)
    · exact Result.newline_notMem_line (fun h => hline (hstatus.subset h))
        (fun h => hline (hcheck.subset h)) (fun h => hline (hdetail.subset h))

theorem clean_of_mem_resultsOf {said : List String} {r : Result} (h : r ∈ resultsOf m said) :
    r.Clean m := by
  obtain ⟨line, hline, hr⟩ := List.mem_filterMap.mp h
  exact clean_of_ofLine? (Text.notMem_of_mem_splitAt hline) hr

/-! ## Results line by line -/

/-- The results of the lines of a text. -/
def resultsIn (m : Machine) (t : Text) : List Result :=
  (Text.splitAt '\n' t).filterMap (Result.ofLine? m)

theorem resultsIn_append (s t : Text) :
    resultsIn m (s ++ '\n' :: t) = resultsIn m s ++ resultsIn m t := by
  rw [resultsIn, Text.splitAt_append, List.filterMap_append]
  rfl

theorem resultsIn_append_newlines {t u : Text} (hu : ∀ c ∈ u, c = '\n') :
    resultsIn m (t ++ u) = resultsIn m t := by
  induction u generalizing t with
  | nil => rw [List.append_nil]
  | cons c u ih =>
      obtain ⟨rfl, hrest⟩ := List.forall_mem_cons.mp hu
      have hempty : resultsIn m u = [] := (ih (t := []) hrest).trans rfl
      rw [resultsIn_append, hempty, List.append_nil]

/-- Newlines at the end of an output have no results. -/
theorem resultsIn_captured (t : Text) :
    resultsIn m (Text.captured t) = resultsIn m (t.filter fun c => !Text.isZero c) := by
  generalize hkept : t.filter (fun c => !Text.isZero c) = kept
  have hcaptured : Text.captured t = kept.rdropWhile (· == '\n') := by
    rw [← hkept]
    rfl
  have hcut : kept.rdropWhile (· == '\n') ++ kept.rtakeWhile (· == '\n') = kept :=
    List.rdropWhile_append_rtakeWhile
  have hnewlines : ∀ c ∈ kept.rtakeWhile (· == '\n'), c = '\n' := by
    intro c hc
    simpa using List.mem_rtakeWhile_imp hc
  rw [hcaptured, ← resultsIn_append_newlines hnewlines, hcut]

/-- Results are read line by line. -/
theorem resultsIn_join (ts : List Text) :
    resultsIn m ((Text.join ['\n'] ts).filter fun c => !Text.isZero c) =
      ts.flatMap fun t => resultsIn m (t.filter fun c => !Text.isZero c) := by
  induction ts with
  | nil => rfl
  | cons t ts ih =>
      cases ts with
      | nil => simp [Text.join]
      | cons u ts =>
          rw [List.flatMap_cons, ← ih, ← resultsIn_append, Text.join,
            List.intercalate_cons_cons, List.filter_append, List.filter_append,
            List.append_assoc]
          rfl

/-- The results of a run are those of its lines, one after the other. -/
theorem resultsOf_eq (m : Machine) (said : List String) :
    resultsOf m said =
      said.flatMap fun s => resultsIn m (s.toList.filter fun c => !Text.isZero c) := by
  calc resultsOf m said
      = resultsIn m (Text.captured (Text.join ['\n'] (said.map String.toList))) := rfl
    _ = said.flatMap fun s => resultsIn m (s.toList.filter fun c => !Text.isZero c) := by
        rw [resultsIn_captured, resultsIn_join, List.flatMap_map]

/-- What is said later adds its results to those of what has been said. -/
theorem resultsOf_append (m : Machine) (before after : List String) :
    resultsOf m (before ++ after) = resultsOf m before ++ resultsOf m after := by
  simp only [resultsOf_eq, List.flatMap_append]

end Report

end ExtensionAudit
