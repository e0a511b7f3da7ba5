import Mathlib
import ExtensionAudit.Table

/-!
# What tables say

A table is read by its keys, and what it says of a key is what was put last (`get?_putAll`).  If
each key stands in the table once, then reading is membership (`get?_eq_some_iff`), so the order of
the entries does not show (`get?_eq_of_perm`).  Putting keeps that (`nodup_keys_putAll`).
-/

namespace ExtensionAudit.Table

variable {κ α : Type} [BEq κ] [LawfulBEq κ] {t u : Table κ α} {k : κ} {v : α}

/-! ## Putting -/

omit [LawfulBEq κ] in
theorem get?_cons (e : κ × α) (t : Table κ α) (k : κ) :
    get? (e :: t) k = if k == e.1 then some e.2 else t.get? k := by
  rw [get?, List.lookup_cons]
  cases k == e.1 <;> rfl

theorem has_eq_isSome (t : Table κ α) (k : κ) : t.has k = (t.get? k).isSome := by
  induction t with
  | nil => rfl
  | cons e t ih =>
      have hcons : has (e :: t) k = (e.1 == k || has t k) := List.any_cons
      rw [hcons, ih, get?_cons, Bool.beq_comm]
      cases k == e.1 <;> rfl

/-- A value that takes the place of the one before is all that changes. -/
theorem get?_replace (t : Table κ α) (k j : κ) (v : α) :
    get? (t.map fun e => if e.1 == k then (e.1, v) else e) j =
      (t.get? j).map fun w => if j == k then v else w := by
  induction t with
  | nil => rfl
  | cons e t ih =>
      rw [List.map_cons, get?_cons, get?_cons, ih]
      by_cases hj : j = e.1
      · subst hj
        cases h : e.1 == k <;> simp
      · have hne : (j == e.1) = false := by simpa using hj
        cases h : e.1 == k <;> simp [hne]

/-- A new entry is found under its key, and the others stay. -/
theorem get?_put (t : Table κ α) (k j : κ) (v : α) :
    (t.put k v).get? j = if j == k then some v else t.get? j := by
  rw [put, has_eq_isSome]
  by_cases hj : j = k
  · subst hj
    cases hget : t.get? j with
    | some w => simp [get?_replace, hget]
    | none =>
        rw [get?] at hget
        simp [get?, List.lookup_append, hget]
  · have hne : (j == k) = false := by simpa using hj
    split
    next => simp [get?_replace, hne]
    next => simp [get?, List.lookup_append, List.lookup_cons, hne]

/-- The last entry of a key counts, and what stood in the table before counts if there is none. -/
theorem get?_putAll (t : Table κ α) (entries : List (κ × α)) (k : κ) :
    (t.putAll entries).get? k = (entries.reverse.lookup k).or (t.get? k) := by
  induction entries generalizing t with
  | nil => rfl
  | cons e entries ih =>
      rw [putAll, List.foldl_cons, ← putAll, ih, get?_put, List.reverse_cons, List.lookup_append,
        Option.or_assoc, List.lookup_cons]
      cases k == e.1 <;> rfl

/-! ## Tables in which each key stands once -/

/-- With distinct keys an entry is found iff it is in the table. -/
theorem get?_eq_some_iff (h : t.keys.Nodup) : t.get? k = some v ↔ (k, v) ∈ t := by
  rw [get?, List.lookup_eq_some_iff]
  constructor
  · rintro ⟨before, after, rfl, -⟩
    exact List.mem_append_right _ List.mem_cons_self
  · intro hmem
    obtain ⟨before, after, rfl⟩ := List.append_of_mem hmem
    refine ⟨before, after, rfl, fun e he => ?_⟩
    rw [keys, List.map_append, List.map_cons, List.nodup_append] at h
    have hne : e.1 ≠ k := h.2.2 e.1 (List.mem_map_of_mem he) k List.mem_cons_self
    simpa using hne.symm

/-- The order of the entries does not show. -/
theorem get?_eq_of_perm (h : t.keys.Nodup) (hperm : t.Perm u) (k : κ) : t.get? k = u.get? k := by
  have hu : u.keys.Nodup := (hperm.map _).nodup_iff.mp h
  refine Option.ext fun v => ?_
  rw [get?_eq_some_iff h, get?_eq_some_iff hu, hperm.mem_iff]

/-! ## Keys -/

/-- A new entry leaves the keys distinct. -/
theorem nodup_keys_put (h : t.keys.Nodup) (k : κ) (v : α) : (t.put k v).keys.Nodup := by
  unfold put
  split
  next =>
      have hkeys : keys (t.map fun e => if e.1 == k then (e.1, v) else e) = t.keys := by
        rw [keys, keys, List.map_map]
        refine List.map_congr_left fun e _ => ?_
        rw [Function.comp_apply]
        split <;> rfl
      rwa [hkeys]
  next hnew =>
      rw [keys, List.map_append, List.map_singleton, List.nodup_append]
      refine ⟨h, List.nodup_singleton k, ?_⟩
      rintro j hj _ hk rfl
      obtain ⟨e, he, heq⟩ := List.mem_map.mp hj
      rw [List.mem_singleton.mp hk] at heq
      exact hnew (List.any_eq_true.mpr ⟨e, he, beq_iff_eq.mpr heq⟩)

/-- A table to which entries were put holds each key once. -/
theorem nodup_keys_putAll (h : t.keys.Nodup) (entries : List (κ × α)) :
    (t.putAll entries).keys.Nodup := by
  induction entries generalizing t with
  | nil => exact h
  | cons e entries ih => exact ih (nodup_keys_put h e.1 e.2)

/-! ## Entries -/

/-- An entry of a table was put there. -/
theorem mem_of_mem_putAll {entries : List (κ × α)} {e : κ × α} (h : e ∈ t.putAll entries) :
    e ∈ t ∨ e ∈ entries := by
  induction entries generalizing t with
  | nil => exact .inl h
  | cons x entries ih =>
      rcases ih (t := t.put x.1 x.2) h with hput | hrest
      · rw [put] at hput
        split at hput
        · obtain ⟨y, hy, rfl⟩ := List.mem_map.mp hput
          split
          next hkey => exact .inr (by simp [beq_iff_eq.mp hkey])
          next => exact .inl hy
        · rcases List.mem_append.mp hput with hold | hnew
          · exact .inl hold
          · exact .inr (by simp [List.mem_singleton.mp hnew])
      · exact .inr (List.mem_cons_of_mem _ hrest)

/-- Entries with different keys are put one after the other. -/
theorem putAll_eq_append {entries : List (κ × α)} (h : (t ++ entries).keys.Nodup) :
    t.putAll entries = t ++ entries := by
  induction entries generalizing t with
  | nil => exact (List.append_nil t).symm
  | cons e entries ih =>
      have hnew : t.has e.1 = false := by
        rw [keys, List.map_append, List.map_cons] at h
        rw [has, List.any_eq_false]
        intro x hx hkey
        exact (List.nodup_append.mp h).2.2 x.1 (List.mem_map_of_mem hx) e.1 List.mem_cons_self
          (beq_iff_eq.mp hkey)
      have hput : t.put e.1 e.2 = t ++ [e] := by
        rw [put, hnew]
        rfl
      rw [putAll, List.foldl_cons, ← putAll, hput, ih (by simpa using h)]
      simp

end ExtensionAudit.Table
