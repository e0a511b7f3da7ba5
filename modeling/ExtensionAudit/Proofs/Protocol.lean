import Mathlib
import ExtensionAudit.Proofs.Audit
import ExtensionAudit.Proofs.Verdict.Manifest

/-!
# What the report reads off the lines of a check

A check writes each finding as a line, and the report takes the lines apart again.  Nothing
escapes the texts in a line.  So a detail with a newline in it takes several lines, and the report
takes each of them for a line of the check.

* `results_line`: the first result on the lines of a finding has its status and its name, and the
  pieces of the detail after a newline give the `extras`.
* `extras_eq_nil_iff`: a piece gives no result iff it is heard as empty or as starting with a bar.
* `keys_resultsOf`: the report hears what a check has found, in order and without a loss, and after
  each finding its extras.
-/

namespace ExtensionAudit

namespace Report

variable {m : Machine}

/-! ## Lines -/

/-- What the report hears of a text: zero characters are lost. -/
def heard (t : Text) : Text := t.filter fun c => !Text.isZero c

theorem heard_append (s t : Text) : heard (s ++ t) = heard s ++ heard t := List.filter_append s t

theorem heard_bar (t : Text) : heard ('|' :: t) = '|' :: heard t := rfl

theorem notMem_heard {c : Char} {t : Text} (h : c ∉ t) : c ∉ heard t :=
  fun hmem => h (List.mem_of_mem_filter hmem)

/-- The results that the report reads off one line. -/
def resultsOn (m : Machine) (line : String) : List Result := resultsIn m (heard line.toList)

theorem resultsOf_eq_flatMap (m : Machine) (said : List String) :
    resultsOf m said = said.flatMap (resultsOn m) :=
  resultsOf_eq m said

theorem resultsIn_of_notMem {t : Text} (h : '\n' ∉ t) :
    resultsIn m t = (Result.ofLine? m t).toList := by
  rw [resultsIn, Text.splitAt_of_notMem h]
  cases hr : Result.ofLine? m t <;> simp [hr]

/-- A line has no result iff it is empty or starts with a bar. -/
theorem ofLine?_eq_none_iff {t : Text} :
    Result.ofLine? m t = none ↔ t = [] ∨ t.head? = some '|' := by
  have hstatus : Result.ofLine? m t = none ↔ (field t).1 = [] := by
    simp [Result.ofLine?, fields]
  rw [hstatus]
  cases t with
  | nil => simp [field, Text.breakAt, Text.breakOn]
  | cons c rest =>
      rw [field, Text.breakAt_cons]
      by_cases hc : c = '|'
      · simp [hc]
      · cases Text.breakAt '|' rest <;> simp [hc]

/-- A line with two bars is cut at them. -/
theorem ofLine?_bars {status check : Text} (detail : Text) (hstatus : '|' ∉ status)
    (hne : status ≠ []) (hcheck : '|' ∉ check) :
    let trimmed := Text.trimOf m.isBlank
    Result.ofLine? m (status ++ '|' :: (check ++ '|' :: detail)) =
      some ⟨trimmed status, trimmed check, trimmed (lastField detail)⟩ := by
  have hfirst : field (status ++ '|' :: (check ++ '|' :: detail)) =
      (status, check ++ '|' :: detail) := by
    rw [field, Text.breakAt_eq_some_iff.mpr ⟨hstatus, rfl⟩, Option.getD_some]
  have hsecond : field (check ++ '|' :: detail) = (check, detail) := by
    rw [field, Text.breakAt_eq_some_iff.mpr ⟨hcheck, rfl⟩, Option.getD_some]
  simp [Result.ofLine?, fields, hfirst, hsecond, hne]

/-! ## Findings -/

/-- A name that is read off a line as it is written there. -/
structure IsPlain (m : Machine) (name : Text) : Prop where
  /-- It has no bar. -/
  bar : '|' ∉ name
  /-- It has no newline. -/
  newline : '\n' ∉ name
  /-- It has no zero character. -/
  heard : heard name = name
  /-- It has no blanks at its ends. -/
  trimmed : Text.trimOf m.isBlank name = name

/-- The status and the name of a result. -/
def Result.key (r : Result) : Text × Text := (r.status, r.check)

/-- The status and the name of a finding. -/
def keyOf (f : Finding) : Text × Text := (f.status.word.toList, f.check.toList)

/-- The pieces of a detail that get lines of their own. -/
def laterPieces (detail : Text) : List Text := (Text.splitAt '\n' detail).tail

/-- The results on these lines. -/
def extras (m : Machine) (f : Finding) : List Result :=
  (laterPieces f.detail.toList).flatMap fun piece => (Result.ofLine? m (heard piece)).toList

theorem extras_eq_nil_iff (m : Machine) (f : Finding) :
    extras m f = [] ↔ ∀ piece ∈ laterPieces f.detail.toList,
      heard piece = [] ∨ (heard piece).head? = some '|' := by
  simp only [extras, List.flatMap_eq_nil_iff, Option.toList_eq_nil_iff, ofLine?_eq_none_iff]

/-- On the lines of a finding with a plain name, the first result is the finding's own, and the
others are extras. -/
theorem results_line {f : Finding} (h : IsPlain m f.check.toList) :
    ∃ detail, (splitLines f.line).flatMap (resultsOn m) =
      ⟨f.status.word.toList, f.check.toList, detail⟩ :: extras m f := by
  obtain ⟨hbar, hnewline, hheard, hne⟩ := word_facts f.status
  obtain ⟨first, hfirst⟩ : ∃ first, (Text.splitAt '\n' f.detail.toList).headD [] = first :=
    ⟨_, rfl⟩
  have hstart : '\n' ∉ f.status.word.toList ++ '|' :: (f.check.toList ++ ['|']) := by
    simp [hnewline, h.newline]
  have hpieces : Text.splitAt '\n' f.line.toList =
      (f.status.word.toList ++ '|' :: (f.check.toList ++ '|' :: first)) ::
        laterPieces f.detail.toList := by
    have hline : f.line.toList =
        (f.status.word.toList ++ '|' :: (f.check.toList ++ ['|'])) ++ f.detail.toList := by
      rw [toList_line]
      simp
    rw [hline, Text.splitAt_append_of_notMem hstart, hfirst]
    simp [laterPieces]
  have hown : heard (f.status.word.toList ++ '|' :: (f.check.toList ++ '|' :: first)) =
      f.status.word.toList ++ '|' :: (f.check.toList ++ '|' :: heard first) := by
    rw [heard_append, heard_bar, heard_append, heard_bar, h.heard]
    exact congrArg (· ++ _) hheard
  refine ⟨Text.trimOf m.isBlank (lastField (heard first)), ?_⟩
  calc (splitLines f.line).flatMap (resultsOn m)
      = (Text.splitAt '\n' f.line.toList).flatMap fun piece => resultsIn m (heard piece) := by
        simp [splitLines, List.flatMap_map, resultsOn]
    _ = (Text.splitAt '\n' f.line.toList).flatMap fun piece =>
          (Result.ofLine? m (heard piece)).toList :=
        List.flatMap_congr fun piece hp =>
          resultsIn_of_notMem (notMem_heard (Text.notMem_of_mem_splitAt hp))
    _ = _ := by
        rw [hpieces, List.flatMap_cons, hown, ofLine?_bars _ hbar hne h.bar, trimOf_word,
          h.trimmed]
        rfl

/-! ## Keys -/

section

variable {α β : Type} (g : α → β) (more : α → List β) (xs : List α)

theorem map_sublist_flatMap_cons : (xs.map g).Sublist (xs.flatMap fun x => g x :: more x) := by
  induction xs with
  | nil => exact .slnil
  | cons x xs ih =>
      rw [List.map_cons, List.flatMap_cons, List.cons_append]
      exact .cons_cons _ (ih.trans (List.sublist_append_right _ _))

/-- Each element comes with its first value alone iff there are no further values. -/
theorem flatMap_cons_eq_map_iff :
    (xs.flatMap fun x => g x :: more x) = xs.map g ↔ ∀ x ∈ xs, more x = [] := by
  induction xs with
  | nil => simp
  | cons x xs ih =>
      rw [List.flatMap_cons, List.map_cons, List.cons_append, List.cons_eq_cons,
        List.forall_mem_cons, ← ih]
      constructor
      · rintro ⟨-, heq⟩
        have hle := (map_sublist_flatMap_cons g more xs).length_le
        have hlength := congrArg List.length heq
        rw [List.length_append] at hlength
        have hnil : more x = [] := List.length_eq_zero_iff.mp (by omega)
        rw [hnil, List.nil_append] at heq
        exact ⟨hnil, heq⟩
      · rintro ⟨hnil, heq⟩
        rw [hnil, heq]
        exact ⟨rfl, rfl⟩

end

/-- Off the lines of a check with plain names, the report reads the keys of its findings, each with
the keys of its extras after it. -/
theorem keys_resultsOf {c : Check Unit} (hplain : ∀ f ∈ c.output, IsPlain m f.check.toList) :
    (resultsOf m (Outcome.ofCheck c).lines).map Result.key =
      c.output.flatMap fun f => keyOf f :: (extras m f).map Result.key := by
  rw [resultsOf_eq_flatMap, Outcome.lines_ofCheck, List.flatMap_assoc, List.map_flatMap]
  apply List.flatMap_congr
  intro f hf
  obtain ⟨detail, hresults⟩ := results_line (hplain f hf)
  exact congrArg (List.map Result.key) hresults

end Report

namespace Command

open Report

theorem isPlain_of_mem_manifest (m : Machine) :
    ∀ name ∈ Manifest.names, IsPlain m name.toList := by
  have hnames : ∀ name ∈ Manifest.names,
      '|' ∉ name.toList ∧ '\n' ∉ name.toList ∧ heard name.toList = name.toList ∧
        Text.endsPlainly name.toList = true := by
    decide +kernel
  intro name hname
  obtain ⟨hbar, hnewline, hheard, hends⟩ := hnames name hname
  exact ⟨hbar, hnewline, hheard, m.trimOf_eq_self hends⟩

section

variable {rules : String} {here : Path} {ext : Extension}
  (hends : ((Part.family .manifest).outcome rules here ext).fault = none)

include hends

theorem check_mem_manifest :
    ∀ f ∈ (Manifest.check ⟨ext.volume, ext.volume.realPath here ext.base.text⟩).output,
      f.check ∈ Manifest.names := by
  obtain ⟨hfs, -⟩ := Outcome.ends_of_fault_ofCheck hends
  exact (Manifest.sound_check _ _ () hfs).named

/-- Each finding on the manifest gives its own key and those of its extra lines. -/
theorem keys_results_manifest :
    (Part.results rules here ext (.family .manifest)).map Result.key =
      (Manifest.check ⟨ext.volume, ext.volume.realPath here ext.base.text⟩).output.flatMap
        fun f => keyOf f :: (extras ext.volume.machine f).map Result.key := by
  have hsaid : Part.said rules here ext (.family .manifest) =
      ((Part.family .manifest).outcome rules here ext).lines := by
    have hmessages : ((Part.family .manifest).outcome rules here ext).messages = [] :=
      Outcome.messages_ofCheck _
    simp only [Part.said, Part.faultLines, hends, hmessages, List.append_nil]
  have hresults : Part.results rules here ext (.family .manifest) =
      resultsOf ext.volume.machine ((Part.family .manifest).outcome rules here ext).lines := by
    rw [← hsaid]
    rfl
  rw [hresults]
  exact keys_resultsOf fun f hf =>
    isPlain_of_mem_manifest _ f.check (check_mem_manifest hends f hf)

end

/-- The report hears of the manifest what the checks have found, in their order and without a
loss.  It hears nothing else iff each piece of a detail after a newline is heard as empty or as
starting with a bar. -/
theorem keys_manifest (rules : String) (here : Path) (ext : Extension)
    (hends : ((Part.family .manifest).outcome rules here ext).fault = none) :
    let fs := (Manifest.check ⟨ext.volume, ext.volume.realPath here ext.base.text⟩).output
    let heardKeys := (Part.results rules here ext (.family .manifest)).map Result.key
    (fs.map keyOf).Sublist heardKeys ∧
      (heardKeys = fs.map keyOf ↔
        ∀ f ∈ fs, ∀ piece ∈ laterPieces f.detail.toList,
          heard piece = [] ∨ (heard piece).head? = some '|') := by
  intro fs heardKeys
  have hkeys : heardKeys =
      fs.flatMap fun f => keyOf f :: (extras ext.volume.machine f).map Result.key :=
    keys_results_manifest hends
  rw [hkeys]
  refine ⟨map_sublist_flatMap_cons _ _ _, ?_⟩
  rw [flatMap_cons_eq_map_iff]
  simp only [List.map_eq_nil_iff, extras_eq_nil_iff]

/-- An extension of nothing but a manifest with one field, whose name is between the quotes. -/
def oneField (name : String) : Extension :=
  ⟨⟨.dir [("metadata.json", .file (Text.encode ("\x7b\"".toList ++ name.toList ++
    "\":0\x7d".toList)) false)], .plain⟩, []⟩

/-- A newline does no harm if a bar comes next. -/
theorem keys_manifest_barred :
    let ext := oneField "a\\n|b"
    ((Part.family .manifest).outcome "" [] ext).fault = none ∧
      (Part.results "" [] ext (.family .manifest)).map Result.key =
        (Manifest.check ⟨ext.volume, ext.volume.realPath [] ext.base.text⟩).output.map
          keyOf := by
  intro ext
  have hends : ((Part.family .manifest).outcome "" [] ext).fault = none := by decide +kernel
  refine ⟨hends, (keys_manifest "" [] ext hends).2.mpr ?_⟩
  decide +kernel

/-- The name of a field can forge a result. -/
theorem keys_manifest_forged :
    let ext := oneField "a\\nPASS|b|"
    ((Part.family .manifest).outcome "" [] ext).fault = none ∧
      ("PASS".toList, "b".toList) ∈ (Part.results "" [] ext (.family .manifest)).map Result.key ∧
      ("PASS".toList, "b".toList) ∉
        (Manifest.check ⟨ext.volume, ext.volume.realPath [] ext.base.text⟩).output.map
          keyOf := by
  intro ext
  have hends : ((Part.family .manifest).outcome "" [] ext).fault = none := by decide +kernel
  refine ⟨hends, ?_, ?_⟩
  · rw [keys_results_manifest hends, List.mem_flatMap]
    decide +kernel
  · intro hmem
    obtain ⟨f, hf, hkey⟩ := List.mem_map.mp hmem
    have hcheck : f.check = "b" := String.toList_injective (Prod.ext_iff.mp hkey).2
    have hname := check_mem_manifest hends f hf
    rw [hcheck] at hname
    revert hname
    decide

end Command

end ExtensionAudit
