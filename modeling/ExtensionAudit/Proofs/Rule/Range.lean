import Mathlib
import ExtensionAudit.Rule.Gate

/-!
# Version gates and ranges

A rule that names a least and a last version reads as a rule for the versions from the one to the
other.  The gate holds each bound against all declared versions by itself, so the version that keeps
the first bound need not be the one that keeps the second.

`gateOpen_iff` says when the gate is open.  `gateOpen_range` says when this is the reading by
ranges: unless the declared versions *straddle* the range, where some keep the one bound, some keep
the other, and none keeps both.
-/

namespace ExtensionAudit.Rule

/-- The version keeps the bounds that there are. -/
def InRange (least most : Option Int) (v : Int) : Prop :=
  (∀ a ∈ least, a ≤ v) ∧ ∀ b ∈ most, v ≤ b

instance (least most : Option Int) (v : Int) : Decidable (InRange least most v) :=
  inferInstanceAs (Decidable (_ ∧ _))

/-- Some version keeps the first bound and some the second, and none keeps both. -/
def Straddles (least most : Option Int) (versions : List Int) : Prop :=
  ∃ a ∈ least, ∃ b ∈ most, (∃ v ∈ versions, a ≤ v) ∧ (∃ v ∈ versions, v ≤ b) ∧
    ∀ v ∈ versions, ¬ InRange least most v

theorem keptBy_number (ok : Int → Int → Bool) (versions : List Int) (bound : Option Int) :
    Bound.keptBy ok versions (bound.map .number) = bound.all fun n => versions.any (ok n) := by
  cases bound <;> rfl

/-- The gate asks for a version that keeps the first bound and for one that keeps the second. -/
theorem gateOpen_iff (least most : Option Int) (versions : List Int) :
    gateOpen (least.map .number) (most.map .number) versions = true ↔
      (least = none ∧ most = none) ∨
        (∀ a ∈ least, ∃ v ∈ versions, a ≤ v) ∧ ∀ b ∈ most, ∃ v ∈ versions, v ≤ b := by
  rw [gateOpen, keptBy_number, keptBy_number]
  cases least <;> cases most <;> cases versions <;> simp

/-- The versions that keep a range keep each of its bounds. -/
theorem gateOpen_of_inRange {least most : Option Int} {versions : List Int}
    (h : ∃ v ∈ versions, InRange least most v) :
    gateOpen (least.map .number) (most.map .number) versions = true := by
  obtain ⟨v, hv, hleast, hmost⟩ := h
  exact (gateOpen_iff least most versions).mpr
    (.inr ⟨fun a ha => ⟨v, hv, hleast a ha⟩, fun b hb => ⟨v, hv, hmost b hb⟩⟩)

/-- If no version keeps the range, the gate is open only where the versions straddle it. -/
theorem gateOpen_iff_straddles {least most : Option Int} {versions : List Int}
    (hbound : ¬ (least = none ∧ most = none))
    (hnone : ∀ v ∈ versions, ¬ InRange least most v) :
    gateOpen (least.map .number) (most.map .number) versions = true ↔
      Straddles least most versions := by
  rw [gateOpen_iff]
  constructor
  · rintro (hfree | ⟨hleast, hmost⟩)
    · exact absurd hfree hbound
    · cases least with
      | none =>
          cases most with
          | none => exact absurd ⟨rfl, rfl⟩ hbound
          | some b =>
              obtain ⟨v, hv, hvb⟩ := hmost b rfl
              exact absurd ⟨by simp, by simpa using hvb⟩ (hnone v hv)
      | some a =>
          obtain ⟨v, hv, hav⟩ := hleast a rfl
          cases most with
          | none => exact absurd ⟨by simpa using hav, by simp⟩ (hnone v hv)
          | some b => exact ⟨a, rfl, b, rfl, ⟨v, hv, hav⟩, hmost b rfl, hnone⟩
  · rintro ⟨a, ha, b, hb, hleast, hmost, -⟩
    cases ha
    cases hb
    exact .inr ⟨by simpa using hleast, by simpa using hmost⟩

/-- A range with one bound is not straddled, nor is any range by one version. -/
theorem not_straddles {least most : Option Int} {versions : List Int}
    (h : least = none ∨ most = none ∨ versions.length ≤ 1) : ¬ Straddles least most versions := by
  rintro ⟨a, ha, b, hb, ⟨v, hv, hav⟩, ⟨w, hw, hwb⟩, hnone⟩
  cases ha
  cases hb
  rcases h with h | h | h
  · cases h
  · cases h
  · obtain rfl : v = w := by
      obtain ⟨u, rfl⟩ := List.length_eq_one_iff.mp
        (Nat.le_antisymm h (List.length_pos_of_mem hv))
      rw [List.mem_singleton.mp hv, List.mem_singleton.mp hw]
    exact hnone v hv ⟨by simpa using hav, by simpa using hwb⟩

/-- The gate with whole numbers as bounds, which is that of a rule whose fields state these bounds,
is open iff there is no bound, or one version keeps the first bound and one, not always the same,
the second.  So it is open iff there is no bound or some version lies in the range, unless the
versions straddle the range: then it is open though none lies in it. -/
theorem gateOpen_range (least most : Option Int) (versions : List Int) :
    ∃ opened, gateOpen (least.map .number) (most.map .number) versions = opened ∧
      (∀ r : Rule, (r.get? "min-version").map Value.bound = least.map .number →
        (r.get? "max-version").map Value.bound = most.map .number →
          r.applies versions = opened) ∧
      (opened = true ↔ (least = none ∧ most = none) ∨
        (∀ a ∈ least, ∃ v ∈ versions, a ≤ v) ∧ ∀ b ∈ most, ∃ v ∈ versions, v ≤ b) ∧
      ((opened = true ↔ (least = none ∧ most = none) ∨ ∃ v ∈ versions, InRange least most v) ↔
        ¬ Straddles least most versions) ∧
      (least = none ∨ most = none ∨ versions.length ≤ 1 → ¬ Straddles least most versions) := by
  refine ⟨_, rfl, ?_, gateOpen_iff least most versions, ?_, not_straddles⟩
  · intro r hleast hmost
    rw [applies, hleast, hmost]
  · by_cases hfree : least = none ∧ most = none
    · have hopen := (gateOpen_iff least most versions).mpr (.inl hfree)
      exact iff_of_true (iff_of_true hopen (.inl hfree)) (not_straddles (.inl hfree.1))
    · by_cases hrange : ∃ v ∈ versions, InRange least most v
      · have hinside : ¬ Straddles least most versions := by
          rintro ⟨a, -, b, -, -, -, hnone⟩
          obtain ⟨v, hv, hin⟩ := hrange
          exact hnone v hv hin
        simp [gateOpen_of_inRange hrange, hrange, hinside]
      · have hnone : ∀ v ∈ versions, ¬ InRange least most v := by
          simpa using hrange
        rw [gateOpen_iff_straddles hfree hnone]
        simp [hfree, hrange]

/-- A rule for the versions 46 and 47. -/
def narrowRule : Rule :=
  ⟨[("min-version".toList, .text ['4', '6']), ("max-version".toList, .text ['4', '7'])]⟩

/-- The rule applies to an extension for 45 and 50, which straddle its range. -/
theorem gateOpen_range_narrowRule :
    (narrowRule.get? "min-version").map Value.bound = (some 46).map .number ∧
      (narrowRule.get? "max-version").map Value.bound = (some 47).map .number ∧
      narrowRule.applies [45, 50] = true ∧ Straddles (some 46) (some 47) [45, 50] := by
  have hleast : (narrowRule.get? "min-version").map Value.bound = (some 46).map .number := by
    decide
  have hmost : (narrowRule.get? "max-version").map Value.bound = (some 47).map .number := by
    decide
  obtain ⟨opened, -, hrule, hopen, -⟩ := gateOpen_range (some 46) (some 47) [45, 50]
  have htrue : opened = true := hopen.mpr (.inr (by decide))
  rw [htrue] at hrule
  exact ⟨hleast, hmost, hrule narrowRule hleast hmost, 46, rfl, 47, rfl, by decide⟩

/-- An extension for the versions 45 and 48 gets a rule for 46 to 47. -/
theorem gateOpen_straddled :
    gateOpen (some (.number 46)) (some (.number 47)) [45, 48] = true ∧
      narrowRule.applies [45, 48] = true ∧
      ¬ ∃ v ∈ [45, 48], InRange (some 46) (some 47) v := by
  decide

end ExtensionAudit.Rule
