import Mathlib

/-!
# Each element once

Several parts of the audit drop repetitions from a list: the files of a rule, the files that the
preferences reach, the checks with warnings.  What is left has each element once, and as many
elements as the list has different ones.
-/

namespace ExtensionAudit

variable {α : Type} [BEq α] [LawfulBEq α]

theorem nodup_eraseDups : ∀ xs : List α, xs.eraseDups.Nodup
  | [] => List.nodup_nil
  | x :: xs => by
      rw [List.eraseDups_cons, List.nodup_cons]
      constructor
      · simp [List.mem_eraseDups]
      · exact nodup_eraseDups _
termination_by xs => xs.length
decreasing_by exact Nat.lt_succ_of_le (List.length_filter_le _ _)

/-- Repetitions can be dropped before or after some elements are left out. -/
theorem filter_eraseDups (p : α → Bool) : ∀ xs : List α,
    xs.eraseDups.filter p = (xs.filter p).eraseDups
  | [] => rfl
  | x :: xs => by
      have ih := filter_eraseDups p (xs.filter fun y => !y == x)
      rw [List.eraseDups_cons, List.filter_cons, List.filter_cons, ih]
      cases hx : p x with
      | true => rw [if_pos rfl, if_pos rfl, List.eraseDups_cons, List.filter_comm]
      | false =>
          rw [if_neg Bool.false_ne_true, if_neg Bool.false_ne_true, List.filter_filter]
          congr 1
          refine List.filter_congr fun y _ => ?_
          cases hy : p y with
          | false => rfl
          | true =>
              have hne : y ≠ x := by
                rintro rfl
                rw [hx] at hy
                cases hy
              simpa using hne
termination_by xs => xs.length
decreasing_by exact Nat.lt_succ_of_le (List.length_filter_le _ _)

/-- Repetitions can be dropped before or after elements are renamed. -/
theorem eraseDups_map {β : Type} [BEq β] [LawfulBEq β] {f : α → β} (hf : Function.Injective f) :
    ∀ xs : List α, (xs.map f).eraseDups = xs.eraseDups.map f
  | [] => rfl
  | x :: xs => by
      have ih := eraseDups_map hf (xs.filter fun y => !y == x)
      have hfilter : (xs.map f).filter (fun z => !z == f x) =
          (xs.filter fun y => !y == x).map f := by
        rw [List.filter_map]
        congr 1
        refine List.filter_congr fun y _ => ?_
        by_cases hy : y = x
        · simp [hy]
        · simp [hy, hf.ne hy]
      rw [List.map_cons, List.eraseDups_cons, List.eraseDups_cons, List.map_cons, hfilter, ih]
termination_by xs => xs.length
decreasing_by exact Nat.lt_succ_of_le (List.length_filter_le _ _)

/-- Without repetitions, a list is as long as the set of its elements is large. -/
theorem length_eraseDups [DecidableEq α] (xs : List α) :
    xs.eraseDups.length = xs.toFinset.card := by
  rw [← List.toFinset_card_of_nodup (nodup_eraseDups xs)]
  congr 1
  ext x
  rw [List.mem_toFinset, List.mem_toFinset, List.mem_eraseDups]

end ExtensionAudit
