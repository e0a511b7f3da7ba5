import Mathlib
import ExtensionAudit.Source.Block

/-!
# The block that ends a text

A text is closed if each of its braces has its partner in it.  If no brace of a text lacks the one
that opens it and some block stays open, the text has a last brace that stays open, and a closed
text follows it (`exists_openBrace`).

The step that carries this statement is that of a closing brace: the block that it closes is
found in the text before it, and then the brace that is looked for in the text before that block.
-/

namespace ExtensionAudit.Source

/-- The brace that opens a block. -/
abbrev openBrace : Char := '\x7b'

/-- The brace that closes a block. -/
abbrev closeBrace : Char := '\x7d'

@[simp]
theorem surplus_nil : surplus [] = 0 := rfl

@[simp]
theorem surplus_append (s t : Text) : surplus (s ++ t) = surplus s + surplus t := by
  simp only [surplus, Text.countOf, List.count_append, Int.ofNat_eq_natCast, Nat.cast_add]
  ring

theorem surplus_cons (x : Char) (t : Text) : surplus (x :: t) = surplus [x] + surplus t :=
  surplus_append [x] t

@[simp]
theorem surplus_openBrace : surplus [openBrace] = 1 := rfl

@[simp]
theorem surplus_closeBrace : surplus [closeBrace] = -1 := rfl

theorem surplus_other {x : Char} (hopening : x ≠ openBrace) (hclosing : x ≠ closeBrace) :
    surplus [x] = 0 := by
  have hcount (c : Char) (h : x ≠ c) : Text.countOf c [x] = 0 := by
    rw [Text.countOf, List.count_singleton, if_neg (by simpa using h)]
  rw [surplus, hcount _ hopening, hcount _ hclosing]
  rfl

/-- Each brace of the text has its partner in it. -/
structure Closed (t : Text) : Prop where
  /-- As many braces close as open. -/
  surplus_eq : surplus t = 0
  /-- No brace closes what opened before the text. -/
  nonneg : ∀ n, 0 ≤ surplus (t.take n)

theorem Closed.nil : Closed [] := ⟨rfl, fun n => by simp⟩

theorem surplus_take_append {s t : Text} (hs : ∀ n, 0 ≤ surplus (s.take n))
    (ht : ∀ n, 0 ≤ surplus (t.take n)) (n : Nat) : 0 ≤ surplus ((s ++ t).take n) := by
  rw [List.take_append, surplus_append]
  exact add_nonneg (hs n) (ht _)

/-- Only the parts of a text up to its length have to be looked at. -/
theorem surplus_take_nonneg {t : Text} (h : ∀ n < t.length + 1, 0 ≤ surplus (t.take n)) (n : Nat) :
    0 ≤ surplus (t.take n) := by
  rw [← List.take_length (l := t), List.take_take]
  exact h _ (Nat.lt_succ_iff.mpr (Nat.min_le_right ..))

/-- If no brace of a text lacks the one that opens it, none of its first part does. -/
theorem surplus_take_of_append {s t : Text} (h : ∀ n, 0 ≤ surplus ((s ++ t).take n)) (n : Nat) :
    0 ≤ surplus (s.take n) := by
  have hn := h (min n s.length)
  rwa [List.take_append_of_le_length (Nat.min_le_right ..), ← List.take_take,
    List.take_length] at hn

theorem Closed.append {s t : Text} (hs : Closed s) (ht : Closed t) : Closed (s ++ t) where
  surplus_eq := by rw [surplus_append, hs.surplus_eq, ht.surplus_eq, add_zero]
  nonneg := surplus_take_append hs.nonneg ht.nonneg

theorem Closed.singleton {x : Char} (h : surplus [x] = 0) : Closed [x] where
  surplus_eq := h
  nonneg n := by cases n <;> simp [h]

/-- A closed text between two braces is closed. -/
theorem Closed.block {t : Text} (h : Closed t) : Closed (openBrace :: (t ++ [closeBrace])) where
  surplus_eq := by
    rw [surplus_cons, surplus_append, h.surplus_eq, surplus_openBrace, surplus_closeBrace]
    rfl
  nonneg n := by
    cases n with
    | zero => simp
    | succ n =>
        have hlast : -1 ≤ surplus ([closeBrace].take (n - t.length)) := by
          cases n - t.length <;> simp
        have hfront := h.nonneg n
        rw [List.take_succ_cons, surplus_cons, List.take_append, surplus_append, surplus_openBrace]
        omega

/-- If a block stays open at the end of a text, a closed text follows the last brace that opens
such a block. -/
theorem exists_openBrace {t : Text} (h : ∀ n, 0 ≤ surplus (t.take n)) (hopen : 0 < surplus t) :
    ∃ head block, t = head ++ openBrace :: block ∧ Closed block := by
  induction hlength : t.length using Nat.strong_induction_on generalizing t with
  | _ k ih =>
    rcases List.eq_nil_or_concat' t with rfl | ⟨s, x, rfl⟩
    · simp at hopen
    have hs : s.length < k := by simp [← hlength]
    rw [surplus_append] at hopen
    by_cases hopening : x = openBrace
    · exact ⟨s, [], by rw [hopening], .nil⟩
    by_cases hclosing : x = closeBrace
    · rw [hclosing, surplus_closeBrace] at hopen
      obtain ⟨head, block, rfl, hblock⟩ :=
        ih s.length hs (surplus_take_of_append h) (by omega) rfl
      have hhead : 0 < surplus head := by
        rw [surplus_append, surplus_cons, hblock.surplus_eq, surplus_openBrace] at hopen
        omega
      have hlength : head.length < k := by simp at hs; omega
      obtain ⟨head', block', rfl, hblock'⟩ :=
        ih head.length hlength (surplus_take_of_append (surplus_take_of_append h)) hhead rfl
      exact ⟨head', block' ++ openBrace :: (block ++ [closeBrace]), by simp [hclosing],
        hblock'.append hblock.block⟩
    · have hx := surplus_other hopening hclosing
      obtain ⟨head, block, rfl, hblock⟩ :=
        ih s.length hs (surplus_take_of_append h) (by omega) rfl
      exact ⟨head, block ++ [x], by simp, hblock.append (.singleton hx)⟩

/-! ## The block that starts a text -/

/-- The text up to a closing brace is the first part of the text. -/
theorem throughClose_isPrefix (depth : Nat) (t : Text) : throughClose depth t <+: t := by
  fun_induction throughClose depth t with
  | case1 => exact List.prefix_rfl
  | case2 depth c rest _ _ => exact ⟨rest, rfl⟩
  | case3 depth c rest _ _ ih => exact (List.prefix_cons_inj c).mpr ih
  | case4 depth c rest _ _ ih => exact (List.prefix_cons_inj c).mpr ih
  | case5 depth c rest _ _ ih => exact (List.prefix_cons_inj c).mpr ih

theorem blockBody_isPrefix (t : Text) : blockBody t <+: t :=
  (List.dropLast_prefix _).trans (throughClose_isPrefix 1 t)

end ExtensionAudit.Source
