import Mathlib
import ExtensionAudit.Proofs.Pattern.Ways

/-!
# Scanning a text

A search tries one place after the other (`searchOn_eq`).  `scan` goes through a text once and
takes what it finds without overlap.  Main statement: if a function of the text says what a pattern
matches at each place, and its matches are not empty, all matches of the pattern are the scan with
this function (`Scans.map_all`).
-/

namespace ExtensionAudit.Pattern

variable {β : Type} {p : Pattern}

/-! ## Searching -/

/-- What is found in a range is found at its first place. -/
theorem exists_of_findSome?_range {f : Nat → Option β} {k : Nat} {b : β}
    (h : (List.range k).findSome? f = some b) :
    ∃ n < k, f n = some b ∧ ∀ i < n, f i = none := by
  induction k with
  | zero => cases h
  | succ k ih =>
      rw [List.range_succ, List.findSome?_append] at h
      cases hk : (List.range k).findSome? f with
      | some a =>
          obtain ⟨n, hn, hfn⟩ := ih (by simpa [hk] using h)
          exact ⟨n, by omega, hfn⟩
      | none =>
          refine ⟨k, by omega, by simpa [hk] using h, fun i hi => ?_⟩
          exact List.findSome?_eq_none_iff.mp hk i (List.mem_range.mpr hi)

/-- A search tries the places one after the other. -/
theorem searchOn_eq (p : Pattern) (place : Nat) (before : List Char) (places : Nat)
    (after : List Char) :
    p.searchOn place before places after =
      (List.range (min places (after.length + 1))).findSome? fun n =>
        p.matchAt (Cursor.forward ⟨place, before, after⟩ n) := by
  induction after generalizing place before places with
  | nil =>
      cases places with
      | zero => rfl
      | succ places =>
          cases h : p.matchAt ⟨place, before, []⟩ <;>
            simp [searchOn, List.range_succ, h]
  | cons x rest ih =>
      cases places with
      | zero => rfl
      | succ places =>
          have hmin : min (places + 1) ((x :: rest).length + 1) =
              min places (rest.length + 1) + 1 := by
            simp
          rw [hmin, List.range_succ_eq_map, List.findSome?_cons, List.findSome?_map, searchOn,
            Cursor.forward_zero]
          cases h : p.matchAt ⟨place, before, x :: rest⟩ with
          | some m => rfl
          | none =>
              dsimp only
              rw [ih]
              simp [Function.comp_def, Cursor.forward_cons]

/-! ## Scanning -/

/-- What stands in a text, from left to right and without overlap.  `first?` says what stands at
the start of a text, and how long it is; the first `skip` characters are passed over. -/
def scan (first? : Text → Option (β × Nat)) : Nat → Text → List β
  | _, [] => []
  | skip + 1, _ :: rest => scan first? skip rest
  | 0, x :: rest =>
      match first? (x :: rest) with
      | some m => m.1 :: scan first? (m.2 - 1) rest
      | none => scan first? 0 rest

/-- To skip is to drop. -/
theorem scan_eq_drop (first? : Text → Option (β × Nat)) (skip : Nat) (t : Text) :
    scan first? skip t = scan first? 0 (t.drop skip) := by
  induction t generalizing skip with
  | nil => simp [scan]
  | cons x rest ih =>
      cases skip with
      | zero => rfl
      | succ skip =>
          rw [scan, List.drop_succ_cons]
          exact ih skip

/-- Where nothing stands before a place, a scan starts there. -/
theorem scan_drop {first? : Text → Option (β × Nat)} {t : Text} {n : Nat}
    (h : ∀ i < n, first? (t.drop i) = none) : scan first? 0 t = scan first? 0 (t.drop n) := by
  induction n with
  | zero => rfl
  | succ n ih =>
      have hn := h n (by omega)
      rw [ih fun i hi => h i (by omega), ← List.drop_drop]
      cases ht : t.drop n with
      | nil => rfl
      | cons x rest =>
          rw [ht] at hn
          rw [scan, hn]
          rfl

/-- A scan takes what it finds first and goes on behind it. -/
theorem scan_of_first? {first? : Text → Option (β × Nat)} {t : Text} {m : β × Nat}
    (h : first? t = some m) (hpos : 0 < m.2) (hfits : m.2 ≤ t.length) :
    scan first? 0 t = m.1 :: scan first? 0 (t.drop m.2) := by
  cases t with
  | nil => simp at hfits; omega
  | cons x rest =>
      obtain ⟨b, n⟩ := m
      cases n with
      | zero => cases hpos
      | succ n =>
          rw [scan, h, List.drop_succ_cons, ← scan_eq_drop]
          rfl

/-- A scan commutes with a map of what it finds. -/
theorem scan_map {γ : Type} (first? : Text → Option (β × Nat)) (g : β → γ) (skip : Nat)
    (t : Text) :
    scan (fun t => (first? t).map (Prod.map g id)) skip t = (scan first? skip t).map g := by
  induction t generalizing skip with
  | nil => rfl
  | cons x rest ih =>
      cases skip with
      | zero =>
          rw [scan, scan]
          cases first? (x :: rest) with
          | none => exact ih 0
          | some m => exact congrArg _ (ih _)
      | succ skip => exact ih skip

/-- At each place `first?` says what the pattern matches, read off by `g`, and how long it is. -/
structure Scans (p : Pattern) (g : Found → β) (first? : Text → Option (β × Nat)) : Prop where
  matches_eq : ∀ c : Cursor, (p.matchAt c).map (fun m => (g m, m.span)) =
    (first? c.after).map fun m => (m.1, ⟨c, c.forward m.2⟩)
  fits : ∀ {t : Text} {m : β × Nat}, first? t = some m → 0 < m.2 ∧ m.2 ≤ t.length
  least : ∀ {t : Text}, t.length < p.start.least → first? t = none
  unbounded : p.start.bounded = false

variable {g : Found → β} {first? : Text → Option (β × Nat)}

theorem Scans.matchAt_eq_none (h : p.Scans g first?) {c : Cursor} :
    p.matchAt c = none ↔ first? c.after = none := by
  rw [← Option.map_eq_none_iff, h.matches_eq c, Option.map_eq_none_iff]

theorem Scans.of_matchAt (h : p.Scans g first?) {c : Cursor} {f : Found}
    (hf : p.matchAt c = some f) :
    ∃ n, first? c.after = some (g f, n) ∧ f.span = ⟨c, c.forward n⟩ := by
  have hmatch := h.matches_eq c
  rw [hf] at hmatch
  obtain ⟨m, hm, heq⟩ := Option.map_eq_some_iff.mp hmatch.symm
  obtain ⟨hg, hspan⟩ := Prod.mk.inj heq
  exact ⟨m.2, by rw [hm, ← hg], hspan.symm⟩

/-- A search finds the first place where something stands. -/
theorem Scans.searchFrom_eq (h : p.Scans g first?) {t : Text} {c : Cursor}
    (hc : c.place + c.after.length = t.length) :
    p.searchFrom t.length c false =
      (List.range (c.after.length + 1)).findSome? fun n => p.matchAt (c.forward n) := by
  have hlength : t.length - c.place = c.after.length := by omega
  rw [searchFrom, hlength]
  simp only [Bool.false_eq_true, if_false]
  rw [searchOn_eq, places, h.unbounded]
  split
  next hshort =>
      refine (List.findSome?_eq_none_iff.mpr fun n _ => h.matchAt_eq_none.mpr (h.least ?_)).symm
      simp
      omega
  next => simp

/-- All matches from a cursor on.  Each takes a character at least, so the fuel suffices. -/
theorem Scans.map_allFrom (h : p.Scans g first?) {t : Text} {fuel : Nat} {c : Cursor}
    (hc : c.place + c.after.length = t.length) (hfuel : c.after.length < fuel) :
    (p.allFrom t.length fuel c false).map g = scan first? 0 c.after := by
  induction fuel generalizing c with
  | zero => omega
  | succ fuel ih =>
      rw [allFrom, h.searchFrom_eq hc]
      cases hfound : (List.range (c.after.length + 1)).findSome? fun n =>
          p.matchAt (c.forward n) with
      | none =>
          have hnone : ∀ i < c.after.length, first? (c.after.drop i) = none := fun i hi =>
            h.matchAt_eq_none.mp
              (List.findSome?_eq_none_iff.mp hfound i (List.mem_range.mpr (by omega)))
          rw [scan_drop hnone, List.drop_length]
          rfl
      | some f =>
          obtain ⟨n, hn, hf, hbefore⟩ := exists_of_findSome?_range hfound
          obtain ⟨k, hk, hspan⟩ := h.of_matchAt hf
          obtain ⟨hpos, hfits⟩ := h.fits hk
          have hstart : (f.start == f.stop) = false := by
            simp [Found.start, Found.stop, hspan]
            omega
          have hroom : k ≤ c.after.length - n := by simpa using hfits
          rw [scan_drop fun i hi => h.matchAt_eq_none.mp (hbefore i hi)]
          dsimp only
          rw [hstart, hspan, List.map_cons, ih]
          · exact (scan_of_first? hk hpos hfits).symm
          · simp
            omega
          · simp
            omega

/-- All matches of a pattern, read off one by one, are the scan of the text. -/
theorem Scans.map_all (h : p.Scans g first?) (t : Text) : (p.all t).map g = scan first? 0 t :=
  h.map_allFrom (by simp [Cursor.start]) (by simp [Cursor.start]; omega)

end ExtensionAudit.Pattern
