import Mathlib
import ExtensionAudit.Manifest
import ExtensionAudit.Proofs.Text

/-!
# Reading declared versions

The versions of the shell that a manifest declares can be read if the manifest is an object, as
far as the numbers in front of them are not too long.  A manifest that is missing declares none.
-/

namespace ExtensionAudit

namespace Number

/-- The rows of ten digits and the blanks lie apart. -/
theorem notBlank_digitZeros :
    (Text.digitZeros.all fun z => (List.range 10).all fun k =>
      !Text.inRanges Text.blankRanges (z + k)) = true := by
  decide

/-- A digit is no blank. -/
theorem isBlank_of_isDigit {c : Char} (h : Text.isDigit c = true) : isBlank c = false := by
  unfold Text.isDigit Text.digitValue? at h
  unfold isBlank
  by_cases hascii : c.toNat < 128
  · rw [if_pos hascii] at h ⊢
    have hdigit : c.isDigit = true := by
      by_contra hno
      simp [hno] at h
    have hlow : 48 ≤ c.toNat := (Char.isDigit_iff_toNat.mp hdigit).1
    have hspace : c ≠ ' ' := by
      rintro rfl
      cases hdigit
    have hhigh : ¬ c.toNat ≤ 13 := by omega
    simp [Text.isAsciiBlank, hspace, hhigh]
  · rw [if_neg hascii] at h ⊢
    rw [Option.isSome_map] at h
    obtain ⟨z, hz⟩ := Option.isSome_iff_exists.mp h
    have hmem := List.mem_of_find?_eq_some hz
    have hrow := List.find?_some hz
    simp only [Bool.and_eq_true, decide_eq_true_eq] at hrow
    have hapart := List.all_eq_true.mp notBlank_digitZeros z hmem
    have hthis := List.all_eq_true.mp hapart (c.toNat - z) (List.mem_range.mpr (by omega))
    rw [Nat.add_sub_cancel' hrow.1] at hthis
    rw [Text.isBlank, if_neg hascii]
    simpa using hthis

/-- A number that is written in digits alone is read as it stands, if it is not too long. -/
theorem read?_of_digits {ds : Text} (hne : ds ≠ [])
    (hdigits : ∀ c ∈ ds, Text.isDigit c = true) (hlength : ds.length ≤ Json.digitBound) :
    read? ds = some (digitsValue ds : Int) := by
  have hother : ∀ c, Text.isDigit c = false → c ∉ ds := by
    intro c hc hmem
    rw [hdigits c hmem] at hc
    cases hc
  have htrim : Text.trimOf isBlank ds = ds := by
    apply Text.trimOf_eq_self
    · obtain ⟨c, rest, rfl⟩ := List.exists_cons_of_ne_nil hne
      exact isBlank_of_isDigit (hdigits c List.mem_cons_self)
    · rw [List.getLast?_eq_some_getLast hne]
      exact isBlank_of_isDigit (hdigits _ (List.getLast_mem hne))
  have hsign : signOf ds = (false, ds) := by
    unfold signOf
    split
    · exact absurd List.mem_cons_self (hother '-' (by decide))
    · exact absurd List.mem_cons_self (hother '+' (by decide))
    · rfl
  have hpieces : Text.splitAt '_' ds = [ds] :=
    Text.splitAt_of_notMem (hother '_' (by decide))
  have hall : ds.all Text.isDigit = true := List.all_eq_true.mpr hdigits
  simp [read?, htrim, hsign, hpieces, hall, hne, hlength]

theorem exists_read?_of_digits {ds : Text} (hne : ds ≠ [])
    (hdigits : ∀ c ∈ ds, Text.isDigit c = true) (hlength : ds.length ≤ Json.digitBound) :
    ∃ n, read? ds = some n :=
  ⟨_, read?_of_digits hne hdigits hlength⟩

end Number

namespace Manifest

/-- The digits in front of a value, as a message shows it. -/
def frontDigits (v : Json) : Text := v.shown.view.takeWhile Text.isDigit

/-- The manifest can be made sense of: there is none, or it is an object, and no entry of a list
of declared versions starts with more digits than a whole number may have. -/
def IsWellFormed (ext : Extension) : Prop :=
  ext.isFile Extension.manifestPath = false ∨
    ∃ fields, ext.readManifest = .ok (.value (.obj fields)) ∧
      ∀ items, Json.field? fields "shell-version" = some (.arr items) →
        ∀ v ∈ items, (frontDigits v).length ≤ Json.digitBound

/-- Versions whose digits are few enough are numbers. -/
theorem exists_numbersOf {items : List Json}
    (h : ∀ v ∈ items, (frontDigits v).length ≤ Json.digitBound) :
    ∃ numbers, numbersOf items = .ok numbers := by
  induction items with
  | nil => exact ⟨[], rfl⟩
  | cons v rest ih =>
      obtain ⟨hv, hrest⟩ := List.forall_mem_cons.mp h
      obtain ⟨numbers, hnumbers⟩ := ih hrest
      by_cases hnone : frontDigits v = []
      · have hlead : leadingNumber? v.shown.view = none := by
          rw [leadingNumber?]
          exact if_pos (List.isEmpty_iff.mpr hnone)
        exact ⟨numbers, by rw [numbersOf, hlead, hnumbers]⟩
      · obtain ⟨n, hn⟩ := Number.exists_read?_of_digits hnone
          (fun c hc => List.mem_takeWhile_imp hc) hv
        have hlead : leadingNumber? v.shown.view = some (.ok n) := by
          unfold leadingNumber?
          unfold frontDigits at hn hnone
          simp [hn, hnone]
        exact ⟨n :: numbers, by rw [numbersOf, hlead, hnumbers]; rfl⟩

/-- So are the versions of a manifest. -/
theorem exists_shellVersions {fields : List (Points × Json)}
    (h : ∀ items, Json.field? fields "shell-version" = some (.arr items) →
      ∀ v ∈ items, (frontDigits v).length ≤ Json.digitBound) :
    ∃ versions, shellVersions (.obj fields) = .ok versions := by
  have hmember : (Json.obj fields).member? "shell-version" =
      .ok (Json.field? fields "shell-version") := rfl
  rw [shellVersions, hmember]
  cases hfield : Json.field? fields "shell-version" with
  | none => exact ⟨[], rfl⟩
  | some v =>
      cases v with
      | arr items => exact exists_numbersOf (h items hfield)
      | _ => exact ⟨[], rfl⟩

/-- The versions that a manifest declares can be read if it can be made sense of. -/
theorem exists_declaredVersions {ext : Extension} (h : IsWellFormed ext) :
    ∃ versions, declaredVersions ext = .ok versions := by
  unfold declaredVersions
  rcases h with hnone | ⟨fields, hread, hitems⟩
  · exact ⟨[], by rw [hnone]; rfl⟩
  · by_cases hfile : ext.isFile Extension.manifestPath = true
    · rw [hfile, hread]
      exact exists_shellVersions hitems
    · rw [Bool.eq_false_of_not_eq_true hfile]
      exact ⟨[], rfl⟩

end Manifest

end ExtensionAudit
