import Mathlib
import ExtensionAudit.Proofs.Manifest.Faults

/-!
# Lists of declared versions

The check on the entries of a declared list of versions stops at the first entry that does not pass.
`Accepted` says which entries pass, `Rejected` gives the finding on each that does not, and `Judged`
the finding on a whole list.  Main statement: a list whose strings are not too long gets exactly one
finding, the one that `Judged` tells (`checkVersionEntries_judged`).

*Form.*  `IsVersion` is the form of a version, without patterns.  The pattern for versions matches
these texts to the end and no others (`isSome_versionPattern`), and the pattern with a point gives
the number before the point (`of_matchWhole_minorPattern`).

*One step.*  `Decides` says what is done with the first entry of a list.  It holds of all values
(`decides`), by cases on the form of the entry.
-/

namespace ExtensionAudit

namespace Points

theorem view_ofText (t : Text) : (ofText t).view = t := by
  rw [view, ofText, List.map_map]
  exact List.map_id t

theorem text?_ofText (t : Text) : (ofText t).text? = some t := by
  induction t with
  | nil => rfl
  | cons c t ih =>
      rw [ofText, text?] at ih ⊢
      rw [List.map_cons, List.mapM_cons, ih]
      rfl

/-- A string in which no replacement character shows is made of characters. -/
theorem ofText_view {s : Points} (h : Char.ofNat 0xFFFD ∉ s.view) : ofText s.view = s := by
  induction s with
  | nil => rfl
  | cons x s ih =>
      rw [view, List.map_cons, List.mem_cons, not_or] at h
      cases x with
      | half n => exact absurd rfl h.1
      | char c => exact congrArg (Point.char c :: ·) (ih h.2)

end Points

namespace Manifest

open Trace Check Pattern

/-! ## The form of a version -/

/-- A whole number, or two with a point between them. -/
inductive IsVersion : Text → Prop where
  | whole {t : Text} : IsNumber t → IsVersion t
  | pointed {major minor : Text} : IsNumber major → IsNumber minor →
      IsVersion (major ++ '.' :: minor)

theorem isDigit_point : Text.isDigit '.' = false := by decide

theorem IsNumber.notMem {t : Text} (h : IsNumber t) {c : Char} (hc : Text.isDigit c = false) :
    c ∉ t := by
  intro hmem
  rw [h.2 c hmem] at hc
  cases hc

theorem IsNumber.length_le {ds : Text} (h : IsNumber ds) (rest : Text) :
    ds.length ≤ ((ds ++ rest).takeWhile Text.isDigit).length := by
  rw [List.takeWhile_append_of_pos h.2, List.length_append]
  omega

theorem IsNumber.length_pos {ds : Text} (h : IsNumber ds) : 0 < ds.length :=
  List.length_pos_iff.mpr h.1

theorem before_pointed {major : Text} (h : IsNumber major) (minor : Text) :
    Text.before '.' (major ++ '.' :: minor) = major := by
  rw [Text.before, List.takeWhile_append_of_pos]
  · simp
  · intro c hc
    have hne : c ≠ '.' := by
      rintro rfl
      exact h.notMem isDigit_point hc
    simpa using hne

theorem before_number {t : Text} (h : IsNumber t) : Text.before '.' t = t := by
  rw [Text.before, List.takeWhile_eq_self_iff]
  intro c hc
  have hne : c ≠ '.' := by
    rintro rfl
    exact h.notMem isDigit_point hc
  simpa using hne

/-- A version has digits and points only. -/
theorem IsVersion.notMem {t : Text} (h : IsVersion t) {c : Char} (hc : Text.isDigit c = false)
    (hpoint : c ≠ '.') : c ∉ t := by
  cases h with
  | whole hnumber => exact hnumber.notMem hc
  | pointed hmajor hminor =>
      rw [List.mem_append, List.mem_cons]
      rintro (h | h | h)
      · exact hmajor.notMem hc h
      · exact hpoint h
      · exact hminor.notMem hc h

/-! ## The patterns for versions -/

/-- A point and digits. -/
def minorNode : Node := .seq (.one (.literal 46)) (.rep .greedy 1 none (.one digitTest))

theorem mem_ways_digits {c : Cursor} {ms : Marks} {w : Cursor × Marks} :
    w ∈ (Node.rep .greedy 1 none (.one digitTest)).ways c ms ↔
      ∃ n, 0 < n ∧ n ≤ (c.after.takeWhile Text.isDigit).length ∧ w = (c.forward n, ms) := by
  rw [Node.ways, List.mem_map]
  simp only [mem_stops_none, funext passes_digitTest, and_assoc, Nat.succ_le_iff, eq_comm]

/-- The ways to match a point. -/
theorem mem_ways_point {c : Cursor} {ms : Marks} {w : Cursor × Marks} :
    w ∈ (Node.one (.literal 46)).ways c ms ↔
      c.after.head? = some '.' ∧ w = (c.forward 1, ms) := by
  have hpass : c.after.head?.any (CharTest.literal 46).passes = true ↔
      c.after.head? = some '.' := by
    cases c.after.head? with
    | none => simp
    | some x =>
        have hcode : x.toNat = 46 ↔ x = '.' := Char.toNat_inj (d := '.')
        simp [CharTest.passes, hcode]
  rw [Node.ways]
  split
  next h => simp [hpass.mp h]
  next h => simp [mt hpass.mpr h]

/-- The ways to match a point and digits after it. -/
theorem mem_ways_minorNode {c : Cursor} {ms : Marks} {w : Cursor × Marks} :
    w ∈ minorNode.ways c ms ↔ c.after.head? = some '.' ∧
      ∃ k, 0 < k ∧ k ≤ ((c.after.drop 1).takeWhile Text.isDigit).length ∧
        w = (c.forward (1 + k), ms) := by
  simp only [minorNode, Node.mem_ways_seq, mem_ways_point, mem_ways_digits]
  constructor
  · rintro ⟨_, ⟨hpoint, rfl⟩, k, hk, hmore, rfl⟩
    exact ⟨hpoint, k, hk, hmore, by rw [Cursor.forward_forward]⟩
  · rintro ⟨hpoint, k, hk, hmore, rfl⟩
    exact ⟨_, ⟨hpoint, rfl⟩, k, hk, hmore, by rw [Cursor.forward_forward]⟩

/-- A text is two numbers with a point between them iff it can be gone through in this way. -/
theorem exists_pointed_iff {t major : Text} :
    (∃ minor, IsNumber major ∧ IsNumber minor ∧ t = major ++ '.' :: minor) ↔
      ∃ n k, 0 < n ∧ n ≤ (t.takeWhile Text.isDigit).length ∧ (t.drop n).head? = some '.' ∧
        0 < k ∧ k ≤ ((t.drop (n + 1)).takeWhile Text.isDigit).length ∧
        t.drop (n + 1 + k) = [] ∧ major = t.take n := by
  constructor
  · rintro ⟨minor, hmajor, hminor, rfl⟩
    have hdrop : (major ++ '.' :: minor).drop (major.length + 1) = minor := by
      rw [← List.drop_drop, List.drop_left]
      rfl
    refine ⟨major.length, minor.length, hmajor.length_pos, hmajor.length_le _, by simp,
      hminor.length_pos, ?_, ?_, by simp⟩
    · rw [hdrop]
      simpa using hminor.length_le []
    · rw [← List.drop_drop, hdrop, List.drop_length]
  · rintro ⟨n, k, hn, hdigits, hpoint, hk, hmore, hend, rfl⟩
    obtain ⟨rest, hrest⟩ := List.head?_eq_some_iff.mp hpoint
    have hdrop : t.drop (n + 1) = rest := by
      rw [← List.drop_drop, hrest]
      rfl
    have hall : (t.drop (n + 1)).take k = rest := by
      rw [hdrop]
      refine List.take_of_length_le ?_
      rwa [← List.drop_drop, hdrop, List.drop_eq_nil_iff] at hend
    refine ⟨(t.drop (n + 1)).take k, isNumber_take hn hdigits, isNumber_take hk hmore, ?_⟩
    rw [hall, ← hrest, List.take_append_drop]

theorem versionPattern_node :
    versionPattern.node = .seq (.rep .greedy 1 none (.one digitTest))
      (.rep .greedy 0 (some 1) (.group 1 minorNode)) := by
  decide +kernel

/-- What the pattern for versions matches to the end are the versions. -/
theorem isSome_versionPattern {t : Text} :
    (versionPattern.matchWhole t).isSome = true ↔ IsVersion t := by
  have hgroup : (Node.group 1 minorNode).Flat 0 2 :=
    .group (Nat.le_refl 0) (.seq .one (.rep rfl))
  have hnumber : (Node.rep .greedy 1 none (.one digitTest)).Flat 0 0 := .rep rfl
  have hrun := Node.run_is hnumber false
    (Node.run_optional hgroup false none (is_done (fun c => c.after.isEmpty) 2)) (awaits_none _)
  have hmatch := @matchFrom_of_is versionPattern (fun c => c.after.isEmpty) _
    (by rw [versionPattern_node]; exact hrun) (Cursor.start t)
  have hends : ∀ (c : Cursor) (ms : Marks),
      (if c.after.isEmpty then some (⟨ms, c⟩ : Memory) else none).isSome = true ↔
        c.after = [] := by
    intro c ms
    split
    next h => simpa using h
    next h => simpa using h
  rw [matchWhole, hmatch, Option.isSome_map, Node.isSome_through]
  simp only [mem_ways_digits, Option.isSome_or, Bool.or_eq_true, Node.isSome_through, hends]
  constructor
  · rintro ⟨_, ⟨n, hpos, hn, rfl⟩, ⟨w, hw, hend⟩ | hend⟩
    · rw [Node.ways] at hw
      obtain ⟨w, hminor, rfl⟩ := List.mem_map.mp hw
      obtain ⟨hpoint, k, hk, hmore, rfl⟩ := mem_ways_minorNode.mp hminor
      rw [Cursor.forward_forward, ← Nat.add_assoc] at hend
      rw [Cursor.after_forward, List.drop_drop] at hmore
      obtain ⟨minor, hmajor, hminor, ht⟩ :=
        (exists_pointed_iff (t := t)).mpr ⟨n, k, hpos, hn, hpoint, hk, hmore, hend, rfl⟩
      rw [ht]
      exact .pointed hmajor hminor
    · have hall : t.take n = t := List.take_of_length_le (List.drop_eq_nil_iff.mp hend)
      rw [← hall]
      exact .whole (isNumber_take hpos hn)
  · intro h
    cases h with
    | whole h =>
        refine ⟨_, ⟨t.length, h.length_pos, ?_, rfl⟩, .inr List.drop_length⟩
        change t.length ≤ (t.takeWhile Text.isDigit).length
        simpa using h.length_le []
    | @pointed major minor hmajor hminor =>
        obtain ⟨n, k, hpos, hn, hpoint, hk, hmore, hend, -⟩ :=
          exists_pointed_iff.mp ⟨minor, hmajor, hminor, rfl⟩
        refine ⟨_, ⟨n, hpos, hn, rfl⟩, .inl ⟨_, List.mem_map_of_mem
          (mem_ways_minorNode.mpr ⟨hpoint, k, hk, ?_, rfl⟩), ?_⟩⟩
        · rwa [Cursor.after_forward, List.drop_drop]
        · rwa [Cursor.forward_forward, ← Nat.add_assoc]

/-- The ways to match a major and a minor number. -/
theorem mem_ways_minorPattern {c : Cursor} {w : Cursor × Marks} :
    w ∈ minorPattern.node.ways c [] ↔
      ∃ n k, 0 < n ∧ n ≤ (c.after.takeWhile Text.isDigit).length ∧
        (c.after.drop n).head? = some '.' ∧
        0 < k ∧ k ≤ ((c.after.drop (n + 1)).takeWhile Text.isDigit).length ∧
        w = (c.forward (n + 1 + k), [some c, some (c.forward n), some (c.forward (n + 1)),
          some (c.forward (n + 1 + k))]) := by
  simp only [minorPattern_eq, Node.mem_ways_seq, mem_ways_digitsNode, mem_ways_point]
  constructor
  · rintro ⟨_, ⟨n, hpos, hn, rfl⟩, _, ⟨hpoint, rfl⟩, k, hk, hmore, rfl⟩
    rw [Cursor.forward_forward] at hmore
    refine ⟨n, k, hpos, hn, hpoint, hk, hmore, ?_⟩
    simp only [Cursor.forward_forward]
    rfl
  · rintro ⟨n, k, hpos, hn, hpoint, hk, hmore, rfl⟩
    refine ⟨_, ⟨n, hpos, hn, rfl⟩, _, ⟨hpoint, rfl⟩, k, hk, ?_, ?_⟩
    · rwa [Cursor.forward_forward]
    · simp only [Cursor.forward_forward]
      rfl

/-- What the pattern with a point matches to the end are two numbers, and its first group is the
first of them. -/
theorem of_matchWhole_minorPattern {t : Text} {found : Found}
    (h : minorPattern.matchWhole t = some found) :
    ∃ minor, IsNumber (found.group 1) ∧ IsNumber minor ∧ t = found.group 1 ++ '.' :: minor := by
  rw [matchWhole, matchFrom_eq_ways flat_minorPattern] at h
  obtain ⟨w, hfind, rfl⟩ := Option.map_eq_some_iff.mp h
  have hend := List.find?_some hfind
  obtain ⟨n, k, hpos, hn, hpoint, hk, hmore, rfl⟩ :=
    mem_ways_minorPattern.mp (List.mem_of_find?_eq_some hfind)
  exact (exists_pointed_iff (t := t)).mpr ⟨n, k, hpos, hn, hpoint, hk, hmore,
    List.isEmpty_iff.mp hend, Found.group_one _ (Cursor.start t) n _⟩

theorem isSome_minorPattern {major minor : Text} (hmajor : IsNumber major)
    (hminor : IsNumber minor) :
    (minorPattern.matchWhole (major ++ '.' :: minor)).isSome = true := by
  obtain ⟨n, k, hpos, hn, hpoint, hk, hmore, hend, -⟩ :=
    exists_pointed_iff.mp ⟨minor, hmajor, hminor, rfl⟩
  rw [matchWhole, matchFrom_eq_ways flat_minorPattern, Option.isSome_map, List.find?_isSome]
  exact ⟨_, mem_ways_minorPattern.mpr ⟨n, k, hpos, hn, hpoint, hk, hmore, rfl⟩,
    List.isEmpty_iff.mpr hend⟩

theorem needlessMinor?_number {t : Text} (h : IsNumber t) : needlessMinor? t = .ok none := by
  have hnone : minorPattern.matchWhole t = none := by
    cases hfound : minorPattern.matchWhole t with
    | none => rfl
    | some found =>
        obtain ⟨minor, -, -, ht⟩ := of_matchWhole_minorPattern hfound
        exact absurd (ht ▸ List.mem_append_right _ List.mem_cons_self) (h.notMem isDigit_point)
  rw [needlessMinor?, hnone]

/-- A minor number is needless from version 40 on. -/
theorem needlessMinor?_pointed {major minor : Text} (hmajor : IsNumber major)
    (hminor : IsNumber minor) (hshort : major.length ≤ Json.digitBound) :
    needlessMinor? (major ++ '.' :: minor) =
      .ok (if 40 ≤ Number.digitsValue major then some major else none) := by
  obtain ⟨found, hfound⟩ := Option.isSome_iff_exists.mp (isSome_minorPattern hmajor hminor)
  obtain ⟨minor', hgroup, -, ht⟩ := of_matchWhole_minorPattern hfound
  have hmajor' : found.group 1 = major := by
    rw [← before_pointed hgroup minor', ← ht, before_pointed hmajor]
  rw [needlessMinor?, hfound]
  simp only [hmajor', Number.read?_of_digits hmajor.1 hmajor.2 hshort]
  norm_cast

/-! ## Entries -/

/-- The entry passes: it is a released version, or a whole number beyond the stable version. -/
def Accepted (v : Json) : Prop :=
  ∃ t, v = .str (Points.ofText t) ∧
    (String.ofList t ∈ releasedVersions ∨ IsNumber t ∧ currentStable < Number.digitsValue t)

/-- The finding on an entry that does not pass. -/
inductive Rejected : Json → Finding → Prop where
  /-- It is no string in the form of a version. -/
  | malformed {v : Json} : (∀ t, IsVersion t → v ≠ .str (Points.ofText t)) →
      Rejected v ⟨.fail, "metadata/shell-version-entry",
        s!"Invalid shell-version entry: {describe v}; expected format like '45' or '3.38'"⟩
  /-- It has a part after the point, and the part before it is 40 or more. -/
  | needlessMinor {t major minor : Text} : IsNumber major → IsNumber minor →
      t = major ++ '.' :: minor → 40 ≤ Number.digitsValue major →
      Rejected (.str (Points.ofText t)) ⟨.fail, "metadata/shell-version-minor",
        s!"shell-version '{String.ofList t}' uses minor version — " ++
          s!"GNOME 40+ requires major-only (e.g. '{String.ofList major}')"⟩
  /-- It is any other version that does not pass. -/
  | unknown {t : Text} : IsVersion t →
      (∀ major minor, IsNumber major → t = major ++ '.' :: minor →
        Number.digitsValue major < 40) →
      ¬ Accepted (.str (Points.ofText t)) →
      Rejected (.str (Points.ofText t)) ⟨.warn, "metadata/shell-version-unknown",
        s!"shell-version '{String.ofList t}' is not a known GNOME release"⟩

/-- The finding on a list of entries: the first that does not pass decides. -/
inductive Judged (items : List Json) : Finding → Prop where
  /-- All pass. -/
  | accepted : (∀ v ∈ items, Accepted v) →
      Judged items ⟨.pass, "metadata/shell-version-entries", "All shell-version entries are valid"⟩
  /-- One does not pass, and all before it do. -/
  | rejected (front : List Json) (v : Json) (back : List Json) {f : Finding} :
      items = front ++ v :: back → (∀ u ∈ front, Accepted u) → ¬ Accepted v → Rejected v f →
      Judged items f

theorem Judged.cons {v : Json} {items : List Json} {f : Finding} (hv : Accepted v)
    (h : Judged items f) : Judged (v :: items) f := by
  cases h with
  | accepted hall => exact .accepted (List.forall_mem_cons.mpr ⟨hv, hall⟩)
  | rejected front u back hitems hfront hu hf =>
      rw [hitems]
      exact .rejected (v :: front) u back rfl (List.forall_mem_cons.mpr ⟨hv, hfront⟩) hu hf

theorem Rejected.status_ne_pass {v : Json} {f : Finding} (h : Rejected v f) : f.status ≠ .pass := by
  cases h <;> simp

theorem Judged.status_eq_pass_iff {items : List Json} {f : Finding} (h : Judged items f) :
    f.status = .pass ↔ ∀ v ∈ items, Accepted v := by
  cases h with
  | accepted hall => simpa using hall
  | rejected front v back hitems hfront hv hf =>
      refine iff_of_false hf.status_ne_pass fun hall => hv (hall v ?_)
      rw [hitems]
      exact List.mem_append_right _ List.mem_cons_self

theorem accepted_text {t : Text} :
    Accepted (.str (Points.ofText t)) ↔
      String.ofList t ∈ releasedVersions ∨ IsNumber t ∧ currentStable < Number.digitsValue t := by
  constructor
  · rintro ⟨u, hu, h⟩
    have htu : t = u := by
      rw [← Points.view_ofText t, Json.str.inj hu, Points.view_ofText]
    rwa [htu]
  · exact fun h => ⟨t, rfl, h⟩

/-- A text is known iff it is one of the released versions. -/
theorem any_released {t : Text} :
    releasedVersions.any ((Json.str (Points.ofText t)).isString ·) = true ↔
      String.ofList t ∈ releasedVersions := by
  have hname : ∀ name : String, (Json.str (Points.ofText t)).isString name = true ↔
      String.ofList t = name := by
    intro name
    rw [Json.isString, beq_iff_eq]
    constructor
    · intro h
      have hview : t = name.toList := by
        rw [← Points.view_ofText t, h, Points.ofString, Points.view_ofText]
      rw [hview, String.ofList_toList]
    · rintro rfl
      rw [Points.ofString, String.toList_ofList]
  simp only [List.any_eq_true, hname]
  constructor
  · rintro ⟨name, hmem, rfl⟩
    exact hmem
  · exact fun h => ⟨_, h, rfl⟩

/-- The released versions have the form of a version, and those with a part after the point all
have the same part before it. -/
theorem released_form :
    ∀ name ∈ releasedVersions, (versionPattern.matchWhole name.toList).isSome = true ∧
      ('.' ∈ name.toList → Text.before '.' name.toList = ['3']) := by
  decide +kernel

theorem show?_text (t : Text) : show? (Points.ofText t) = .ok (String.ofList t) := by
  rw [show?, Points.text?_ofText]

theorem checkVersions_malformed {s : Points} (h : ¬ IsVersion s.view) (rest : List Json) :
    checkVersions (.str s :: rest) = write [⟨.fail, "metadata/shell-version-entry",
      s!"Invalid shell-version entry: {describe (.str s)}; expected format like '45' or '3.38'"⟩] :=
    by
  have hnone : (versionPattern.matchWhole s.view).isNone = true := by
    rwa [← Option.not_isSome, Bool.not_eq_true', ← Bool.not_eq_true, isSome_versionPattern]
  rw [checkVersions]
  simp only [hnone, if_true]
  rfl

section

variable {t : Text} (hform : IsVersion t) (rest : List Json)

include hform

theorem isNone_versionPattern : (versionPattern.matchWhole t).isNone = false := by
  rw [← Option.not_isSome, isSome_versionPattern.mpr hform]
  rfl

theorem checkVersions_needlessMinor {major : Text} (hmajor : needlessMinor? t = .ok (some major)) :
    checkVersions (.str (Points.ofText t) :: rest) =
      write [⟨.fail, "metadata/shell-version-minor",
        s!"shell-version '{String.ofList t}' uses minor version — " ++
          s!"GNOME 40+ requires major-only (e.g. '{String.ofList major}')"⟩] := by
  rw [checkVersions]
  simp only [Points.view_ofText, isNone_versionPattern hform, hmajor, show?_text]
  rfl

/-- A version without a needless minor number is known, or too new, or reported. -/
theorem checkVersions_plain (hmajor : needlessMinor? t = .ok none) :
    checkVersions (.str (Points.ofText t) :: rest) =
      if !releasedVersions.any ((Json.str (Points.ofText t)).isString ·) &&
          (Number.read? (Text.before '.' t)).any (· ≤ currentStable) then
        write [⟨.warn, "metadata/shell-version-unknown",
          s!"shell-version '{String.ofList t}' is not a known GNOME release"⟩]
      else checkVersions rest := by
  rw [checkVersions]
  simp only [Points.view_ofText, isNone_versionPattern hform, hmajor, show?_text]
  rfl

end

/-- What is done with one entry: one that passes is left behind, and one that does not ends the
run. -/
def Decides (v : Json) (rest : List Json) : Prop :=
  (Accepted v ∧ checkVersions (v :: rest) = checkVersions rest) ∨
    (¬ Accepted v ∧ ∃ f, Rejected v f ∧ checkVersions (v :: rest) = write [f])

theorem isVersion_released {t : Text} (h : String.ofList t ∈ releasedVersions) : IsVersion t := by
  have hform := (released_form _ h).1
  rwa [String.toList_ofList, isSome_versionPattern] at hform

/-- No released version has a part after the point and 40 or more before it. -/
theorem major_released {major minor : Text} (hmajor : IsNumber major)
    (h : String.ofList (major ++ '.' :: minor) ∈ releasedVersions) :
    Number.digitsValue major < 40 := by
  have hbefore := (released_form _ h).2
  rw [String.toList_ofList, before_pointed hmajor] at hbefore
  rw [hbefore (by simp)]
  decide

theorem decides_malformed {v : Json} (h : ∀ t, IsVersion t → v ≠ .str (Points.ofText t))
    {rest : List Json}
    (hrun : checkVersions (v :: rest) = write [⟨.fail, "metadata/shell-version-entry",
      s!"Invalid shell-version entry: {describe v}; expected format like '45' or '3.38'"⟩]) :
    Decides v rest := by
  refine .inr ⟨?_, _, .malformed h, hrun⟩
  rintro ⟨t, rfl, hreleased | ⟨hnumber, -⟩⟩
  · exact h t (isVersion_released hreleased) rfl
  · exact h t (.whole hnumber) rfl

/-- A needless minor number decides the check. -/
theorem decides_needlessMinor {major minor : Text} (hmajor : IsNumber major)
    (hminor : IsNumber minor) (hhigh : 40 ≤ Number.digitsValue major)
    (hshort : major.length ≤ Json.digitBound) (rest : List Json) :
    Decides (.str (Points.ofText (major ++ '.' :: minor))) rest := by
  have hneedless := needlessMinor?_pointed hmajor hminor hshort
  rw [if_pos hhigh] at hneedless
  refine .inr ⟨?_, _, .needlessMinor hmajor hminor rfl hhigh,
    checkVersions_needlessMinor (.pointed hmajor hminor) rest hneedless⟩
  rw [accepted_text]
  rintro (hreleased | ⟨hnumber, -⟩)
  · exact absurd (major_released hmajor hreleased) (Nat.not_lt.mpr hhigh)
  · exact hnumber.notMem isDigit_point (by simp)

/-- An entry in the form of a version that has no needless part after the point. -/
theorem decides_plain {t : Text} (hform : IsVersion t) (hneedless : needlessMinor? t = .ok none)
    (hlow : ∀ major minor, IsNumber major → t = major ++ '.' :: minor →
      Number.digitsValue major < 40)
    (hread : Number.read? (Text.before '.' t) = some (Number.digitsValue (Text.before '.' t) : Int))
    (rest : List Json) : Decides (.str (Points.ofText t)) rest := by
  have hrun := checkVersions_plain hform rest hneedless
  rw [hread, Option.any_some] at hrun
  by_cases hreleased : String.ofList t ∈ releasedVersions
  · rw [any_released.mpr hreleased] at hrun
    exact .inl ⟨accepted_text.mpr (.inl hreleased), hrun⟩
  · rw [Bool.eq_false_of_not_eq_true (mt any_released.mp hreleased)] at hrun
    by_cases hold : (Number.digitsValue (Text.before '.' t) : Int) ≤ currentStable
    · rw [decide_eq_true hold] at hrun
      have hnot : ¬ Accepted (.str (Points.ofText t)) := by
        rw [accepted_text]
        rintro (h | ⟨hnumber, hahead⟩)
        · exact hreleased h
        · rw [before_number hnumber] at hold
          exact absurd hahead (Int.not_lt.mpr hold)
      exact .inr ⟨hnot, _, .unknown hform hlow hnot, hrun⟩
    · rw [decide_eq_false hold] at hrun
      refine .inl ⟨accepted_text.mpr (.inr ?_), hrun⟩
      cases hform with
      | whole hnumber =>
          rw [before_number hnumber, Int.not_le] at hold
          exact ⟨hnumber, hold⟩
      | @pointed major minor hmajor hminor =>
          have hbelow := hlow major minor hmajor rfl
          rw [before_pointed hmajor, currentStable] at hold
          omega

/-- An entry in the form of a version. -/
theorem decides_version {t : Text} (hform : IsVersion t) (hshort : t.length ≤ Json.digitBound)
    (rest : List Json) : Decides (.str (Points.ofText t)) rest := by
  cases hform with
  | whole hnumber =>
      refine decides_plain (.whole hnumber) (needlessMinor?_number hnumber) ?_ ?_ rest
      · rintro major minor - rfl
        exact absurd (by simp) (hnumber.notMem isDigit_point)
      · rw [before_number hnumber]
        exact Number.read?_of_digits hnumber.1 hnumber.2 hshort
  | @pointed major minor hmajor hminor =>
      have hlength : major.length ≤ Json.digitBound := by
        rw [List.length_append] at hshort
        omega
      by_cases hhigh : 40 ≤ Number.digitsValue major
      · exact decides_needlessMinor hmajor hminor hhigh hlength rest
      · have hneedless := needlessMinor?_pointed hmajor hminor hlength
        rw [if_neg hhigh] at hneedless
        refine decides_plain (.pointed hmajor hminor) hneedless ?_ ?_ rest
        · intro major' minor' hmajor' heq
          rw [← before_pointed hmajor' minor', ← heq, before_pointed hmajor]
          exact Nat.not_le.mp hhigh
        · rw [before_pointed hmajor]
          exact Number.read?_of_digits hmajor.1 hmajor.2 hlength

/-- Every entry that is not an overlong string. -/
theorem decides (v : Json) (hshort : ∀ s, v = .str s → s.length ≤ Json.digitBound)
    (rest : List Json) : Decides v rest := by
  cases v with
  | str s =>
      by_cases hform : IsVersion s.view
      · have hwhole : Points.ofText s.view = s :=
          Points.ofText_view (hform.notMem (by decide) (by decide))
        have hlength : s.view.length ≤ Json.digitBound := by
          rw [Points.view, List.length_map]
          exact hshort s rfl
        have hdecides := decides_version hform hlength rest
        rwa [hwhole] at hdecides
      · refine decides_malformed ?_ (checkVersions_malformed hform rest)
        rintro t ht heq
        cases heq
        rw [Points.view_ofText] at hform
        exact hform ht
  | _ => exact decides_malformed (fun t _ h => by cases h) rfl

/-! ## Lists of entries -/

/-- The check makes one finding: the first entry that does not pass decides. -/
theorem checkVersions_judged {items : List Json}
    (hshort : ∀ s, Json.str s ∈ items → s.length ≤ Json.digitBound) :
    ∃ f, checkVersions items = write [f] ∧ Judged items f := by
  induction items with
  | nil => exact ⟨_, rfl, .accepted (by simp)⟩
  | cons v rest ih =>
      have hfirst : ∀ s, v = .str s → s.length ≤ Json.digitBound := by
        rintro s rfl
        exact hshort s List.mem_cons_self
      rcases decides v hfirst rest with ⟨hv, hstep⟩ | ⟨hv, f, hf, hstep⟩
      · obtain ⟨f, hrun, hjudged⟩ := ih fun s hs => hshort s (List.mem_cons_of_mem _ hs)
        exact ⟨f, hstep.trans hrun, hjudged.cons hv⟩
      · exact ⟨f, hstep, .rejected [] v rest rfl (by simp) hv hf⟩

/-- A list of entries gets one finding, which is good iff all entries pass, and which the first
entry that does not pass decides otherwise. -/
theorem checkVersionEntries_judged (fields : List (Points × Json)) (items : List Json)
    (hfield : Json.field? fields "shell-version" = some (.arr items))
    (hshort : ∀ s, Json.str s ∈ items → s.length ≤ Json.digitBound) :
    ∃ f, (checkVersionEntries (.obj fields)).Ends [f] () ∧ Judged items f ∧
      (f.status = .pass ↔ ∀ v ∈ items, Accepted v) := by
  obtain ⟨f, hrun, hjudged⟩ := checkVersions_judged hshort
  have hmember : (Json.obj fields).member? "shell-version" = .ok (some (.arr items)) :=
    congrArg Except.ok hfield
  have hwrites : (checkVersions items).Ends [f] () := by
    rw [hrun]
    exact ends_write.mpr rfl
  exact ⟨f, ends_lift_bind hmember hwrites, hjudged, hjudged.status_eq_pass_iff⟩

/-- A number beyond the stable version passes, and a needless part after the point is reported
although an unknown version comes after it. -/
theorem checkVersionEntries_judged_minor :
    let items := [Json.ofString "50", .ofString "45.1", .ofString "12"]
    Json.field? [(.ofString "shell-version", .arr items)] "shell-version" = some (.arr items) ∧
      ∃ f, (checkVersionEntries (.obj [(.ofString "shell-version", .arr items)])).Ends [f] () ∧
        Judged items f ∧ (f.status = .pass ↔ ∀ v ∈ items, Accepted v) :=
  ⟨rfl, checkVersionEntries_judged _ _ rfl (by
    intro s hs
    simp only [List.mem_cons, List.not_mem_nil, or_false, Json.ofString, Json.str.injEq] at hs
    rcases hs with rfl | rfl | rfl <;> decide)⟩

end Manifest

end ExtensionAudit
