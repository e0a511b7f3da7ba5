import Mathlib
import ExtensionAudit.Proofs.Distinct
import ExtensionAudit.Reach

/-!
# The search leaves every element it reaches, once

`Reach.reachOn` leaves the elements of a queue one by one under a bound on its steps.  `Leaves`
is the same search without the bound.  Such a search need not end, and `leaves_reachOn` says when
it does: if a finite set holds the queue and all that is reached from it, then as many steps as
the set has elements are enough, and the bounded search is the unbounded one.

What the search knows on the way is the invariant `Known`.  One step keeps it (`Known.leave`), so
a search that ends has left each element once, and has left just the least set that holds the
start and is closed under `next` (`Leaves.known`, `Known.isLeast`).
-/

namespace ExtensionAudit.Reach

variable {α : Type} {next : α → List α}

/-! ## What a search knows -/

/-- A set that holds the start and all that is next to one of its elements. -/
def Closed (next : α → List α) (start : α) (s : Set α) : Prop :=
  start ∈ s ∧ ∀ x ∈ s, ∀ y ∈ next x, y ∈ s

/-- What holds of the elements that have been left and of those that wait. -/
structure Known (next : α → List α) (start : α) (left queue : List α) : Prop where
  /-- Each element is known once. -/
  nodup : (left ++ queue).Nodup
  /-- The start is known. -/
  start_mem : start ∈ left ++ queue
  /-- What is next to an element that has been left is known. -/
  next_mem : ∀ x ∈ left, ∀ y ∈ next x, y ∈ left ++ queue
  /-- Every closed set holds what is known. -/
  mem_of_closed : ∀ s, Closed next start s → ∀ x ∈ left ++ queue, x ∈ s

theorem known_start (next : α → List α) (start : α) : Known next start [] [start] where
  nodup := List.nodup_singleton start
  start_mem := List.mem_singleton_self start
  next_mem := by simp
  mem_of_closed := by
    intro s hs x hx
    rw [List.nil_append, List.mem_singleton] at hx
    exact hx ▸ hs.1

/-- When nothing waits, the elements that have been left are the least closed set. -/
theorem Known.isLeast {start : α} {result : List α} (h : Known next start result []) :
    IsLeast {s | Closed next start s} {x | x ∈ result} := by
  obtain ⟨-, hstart, hnext, hleast⟩ := h
  rw [List.append_nil] at hstart hnext hleast
  exact ⟨⟨hstart, hnext⟩, hleast⟩

/-! ## One step -/

/-- The elements that are known after a step: those known before, and the new ones. -/
theorem leave_eq (left queue more : List α) (x : α) :
    (left ++ [x]) ++ (queue ++ more) = (left ++ x :: queue) ++ more := by
  simp

variable [DecidableEq α]

theorem mem_fresh {known xs : List α} {y : α} : y ∈ fresh known xs ↔ y ∈ xs ∧ y ∉ known := by
  rw [fresh, List.mem_eraseDups, List.mem_filter]
  simp

/-- What joins the queue is not known yet, and joins it once. -/
theorem nodup_append_fresh {known : List α} (h : known.Nodup) (xs : List α) :
    (known ++ fresh known xs).Nodup :=
  h.append (nodup_eraseDups _) fun _ hk hf => (mem_fresh.mp hf).2 hk

/-- Leaving an element keeps what holds. -/
theorem Known.leave {start x : α} {left queue : List α} (h : Known next start left (x :: queue)) :
    Known next start (left ++ [x]) (queue ++ fresh (left ++ x :: queue) (next x)) where
  nodup := by
    rw [leave_eq]
    exact nodup_append_fresh h.nodup _
  start_mem := by
    rw [leave_eq]
    exact List.mem_append_left _ h.start_mem
  next_mem := by
    intro z hz y hy
    rw [leave_eq, List.mem_append, mem_fresh]
    obtain hleft | rfl : z ∈ left ∨ z = x := by simpa using hz
    · exact .inl (h.next_mem z hleft y hy)
    · by_cases hk : y ∈ left ++ z :: queue
      · exact .inl hk
      · exact .inr ⟨hy, hk⟩
  mem_of_closed := by
    intro s hs y hy
    rw [leave_eq, List.mem_append, mem_fresh] at hy
    rcases hy with hk | ⟨hnext, -⟩
    · exact h.mem_of_closed s hs y hk
    · have hx : x ∈ s := h.mem_of_closed s hs x (by simp)
      exact hs.2 x hx y hnext

/-! ## The whole search -/

/-- Leaving the elements of a queue one by one ends.  `left` has been left before, and the last
list is all that has been left in the end, in order. -/
inductive Leaves (next : α → List α) : List α → List α → List α → Prop where
  /-- The queue is empty. -/
  | done {left : List α} : Leaves next left [] left
  /-- The first element of the queue is left, and what is new behind it joins the queue. -/
  | leave {left queue result : List α} {x : α} :
      Leaves next (left ++ [x]) (queue ++ fresh (left ++ x :: queue) (next x)) result →
      Leaves next left (x :: queue) result

theorem Leaves.known {start : α} {left queue result : List α}
    (hl : Leaves next left queue result) (h : Known next start left queue) :
    Known next start result [] := by
  induction hl with
  | done => exact h
  | leave _ ih => exact ih h.leave

/-- With as many steps as a closed finite set has elements, the search ends by itself. -/
theorem leaves_reachOn {u : Finset α} (hclosed : ∀ x ∈ u, ∀ y ∈ next x, y ∈ u) (steps : Nat)
    {left queue : List α} (hnodup : (left ++ queue).Nodup) (hmem : ∀ x ∈ left ++ queue, x ∈ u)
    (hcard : u.card ≤ steps + left.length) :
    Leaves next left queue (reachOn next steps left queue) := by
  induction steps generalizing left queue with
  | zero =>
      -- All of the set has been left, so nothing can wait.
      have hle : (left ++ queue).length ≤ u.card := by
        rw [← List.toFinset_card_of_nodup hnodup]
        exact Finset.card_le_card fun x hx => hmem x (List.mem_toFinset.mp hx)
      have hqueue : queue = [] := by
        rw [List.length_append] at hle
        exact List.eq_nil_of_length_eq_zero (by omega)
      subst hqueue
      rw [reachOn, List.append_nil]
      exact .done
  | succ steps ih =>
      cases queue with
      | nil => exact .done
      | cons x queue =>
          have hx : x ∈ u := hmem x (by simp)
          rw [reachOn]
          refine .leave (ih ?_ ?_ ?_)
          · rw [leave_eq]
            exact nodup_append_fresh hnodup _
          · intro y hy
            rw [leave_eq, List.mem_append, mem_fresh] at hy
            rcases hy with hk | ⟨hnext, -⟩
            · exact hmem y hk
            · exact hclosed x hx y hnext
          · rw [List.length_append, List.length_singleton]
            omega

/-- The search from one element ends by itself if a finite set holds all that it can meet. -/
theorem leaves_reached {u : Finset α} (hclosed : ∀ x ∈ u, ∀ y ∈ next x, y ∈ u) {start : α}
    (hstart : start ∈ u) {steps : Nat} (hcard : u.card ≤ steps) :
    Leaves next [] [start] (reached next steps start) := by
  refine leaves_reachOn hclosed steps (List.nodup_singleton start) ?_ (by simpa using hcard)
  simpa using hstart

end ExtensionAudit.Reach
