import Mathlib
import ExtensionAudit.Proofs.Volume.Literal

/-!
# Trees with hidden entries

`Entry.without` takes entries out of a tree, each with all that lies below it.  Which ones is
asked of their place and of themselves.  The tree that is left tells what nobody can know who
does not look at hidden entries: a path on which none of them stands leads to the same entry as
before (`under_without`), and a walk that passes over them lists the same files
(`filter_filesBelow_without`).
-/

namespace ExtensionAudit

/-- What holds of an entry whenever it holds of those in it holds of every entry. -/
theorem Entry.inductionOn {P : Entry → Prop}
    (h : ∀ d : Entry, (∀ c e, (c, e) ∈ d.entries → P e) → P d) (d : Entry) : P d := by
  induction hn : d.depth using Nat.strong_induction_on generalizing d with
  | _ n ih =>
      refine h d fun c e hc => ih e.depth ?_ e rfl
      rw [← hn]
      exact depth_lt_of_mem_entries hc

/-! ## Taking entries out -/

mutual

/-- The tree at a place without its hidden entries. -/
def Entry.without (hides : Path → Entry → Bool) (here : Path) : Entry → Entry
  | .dir es => .dir (withoutAll hides here es)
  | .file bytes executable => .file bytes executable
  | .unreadable => .unreadable
  | .link target => .link target

/-- The entries of the directory at a place without the hidden ones. -/
def withoutAll (hides : Path → Entry → Bool) (here : Path) :
    List (String × Entry) → List (String × Entry)
  | [] => []
  | (name, e) :: rest =>
      if hides (here ++ [name]) e then withoutAll hides here rest
      else (name, e.without hides (here ++ [name])) :: withoutAll hides here rest

end

/-- The file tree without its hidden entries. -/
def Volume.without (v : Volume) (hides : Path → Entry → Bool) : Volume :=
  { v with root := v.root.without hides [] }

section

variable {hides : Path → Entry → Bool} {here : Path}

theorem flatMap_withoutAll {α : Type} (f : String × Entry → List α) (es : List (String × Entry)) :
    (withoutAll hides here es).flatMap f = es.flatMap fun x =>
      if hides (here ++ [x.1]) x.2 then []
      else f (x.1, x.2.without hides (here ++ [x.1])) := by
  induction es with
  | nil => rfl
  | cons x es ih =>
      rw [withoutAll, List.flatMap_cons, ← ih]
      split <;> rfl

/-- An entry that is left is one that was not hidden. -/
theorem mem_withoutAll {es : List (String × Entry)} {c : String} {e : Entry}
    (h : (c, e) ∈ withoutAll hides here es) :
    ∃ x, (c, x) ∈ es ∧ hides (here ++ [c]) x = false ∧ e = x.without hides (here ++ [c]) := by
  rw [← List.flatMap_singleton' (withoutAll hides here es), flatMap_withoutAll,
    List.mem_flatMap] at h
  obtain ⟨⟨name, x⟩, hx, hmem⟩ := h
  split at hmem
  next => cases hmem
  next hshown =>
    cases List.mem_singleton.mp hmem
    exact ⟨x, hx, by simpa using hshown, rfl⟩

theorem names_withoutAll_sublist (es : List (String × Entry)) :
    ((withoutAll hides here es).map (·.1)).Sublist (es.map (·.1)) := by
  induction es with
  | nil => exact List.Sublist.slnil
  | cons x es ih =>
      rw [withoutAll]
      split
      next => exact ih.trans (List.sublist_cons_self _ _)
      next => exact ih.cons_cons _

/-- An entry is left under its name iff it is not hidden. -/
theorem lookup_withoutAll {es : List (String × Entry)} (hnodup : (es.map (·.1)).Nodup)
    (c : String) :
    (withoutAll hides here es).lookup c = (es.lookup c).bind fun x =>
      if hides (here ++ [c]) x then none else some (x.without hides (here ++ [c])) := by
  induction es with
  | nil => rfl
  | cons first es ih =>
      obtain ⟨name, e⟩ := first
      obtain ⟨hname, hrest⟩ := List.nodup_cons.mp hnodup
      rw [withoutAll]
      by_cases hc : c = name
      · subst hc
        rw [List.lookup_cons_self, Option.bind_some]
        split
        next =>
          -- No other entry has the name of the hidden one.
          have hnone : es.lookup c = none := by
            refine List.lookup_eq_none_iff.mpr fun x hx => ?_
            have hne : x.1 ≠ c := fun h => hname (h ▸ List.mem_map.mpr ⟨x, hx, rfl⟩)
            simpa using hne.symm
          rw [ih hrest, hnone]
          rfl
        next => exact List.lookup_cons_self
      · have hne : (c == name) = false := by simpa using hc
        rw [List.lookup_cons, hne, ← ih hrest]
        split
        next => rfl
        next => rw [List.lookup_cons, hne]

end

namespace Entry

variable {hides : Path → Entry → Bool} {here : Path} {d e : Entry} {c : String}

@[simp] theorem isDir_without : (d.without hides here).isDir = d.isDir := by
  cases d <;> rfl

@[simp] theorem isFile_without : (d.without hides here).isFile = d.isFile := by
  cases d <;> rfl

@[simp] theorem isLink_without : (d.without hides here).isLink = d.isLink := by
  cases d <;> rfl

theorem entries_without : (d.without hides here).entries = withoutAll hides here d.entries := by
  cases d <;> rfl

/-- The entry of a name is the same as before, unless it is hidden. -/
theorem child?_without (h : d.isSound = true) :
    (d.without hides here).child? c = (d.child? c).bind fun x =>
      if hides (here ++ [c]) x then none else some (x.without hides (here ++ [c])) := by
  rw [child?, entries_without]
  exact lookup_withoutAll (nodup_of_isSound h) c

theorem isSound_iff : d.isSound = true ↔ (d.entries.map (·.1)).Nodup ∧
    ∀ c e, (c, e) ∈ d.entries → Path.isProper c = true ∧ e.isSound = true := by
  refine ⟨fun h => ⟨nodup_of_isSound h, fun _ _ => isSound_of_mem h⟩, fun ⟨hnodup, hall⟩ => ?_⟩
  cases d with
  | dir es =>
      rw [isSound, Bool.and_eq_true, decide_eq_true_iff]
      exact ⟨hnodup, isSoundAll_iff.mpr fun x hx => hall x.1 x.2 hx⟩
  | file | unreadable | link => rfl

theorem isUnlinked_iff : d.isUnlinked = true ↔ d.isLink = false ∧
    ∀ c e, (c, e) ∈ d.entries → e.isUnlinked = true := by
  refine ⟨fun h => ⟨isLink_of_isUnlinked h, fun _ _ => isUnlinked_of_mem h⟩, fun ⟨hd, hall⟩ => ?_⟩
  cases d with
  | dir es => exact isUnlinkedAll_iff.mpr fun x hx => hall x.1 x.2 hx
  | link target => cases hd
  | file | unreadable => rfl

theorem isSound_without (h : d.isSound = true) : (d.without hides here).isSound = true := by
  induction d using Entry.inductionOn generalizing here with
  | _ d ih =>
      obtain ⟨hnodup, hall⟩ := isSound_iff.mp h
      rw [isSound_iff, entries_without]
      refine ⟨hnodup.sublist (names_withoutAll_sublist _), fun c e hc => ?_⟩
      obtain ⟨x, hx, -, rfl⟩ := mem_withoutAll hc
      exact ⟨(hall c x hx).1, ih c x hx (hall c x hx).2⟩

theorem isUnlinked_without (h : d.isUnlinked = true) :
    (d.without hides here).isUnlinked = true := by
  induction d using Entry.inductionOn generalizing here with
  | _ d ih =>
      obtain ⟨hd, hall⟩ := isUnlinked_iff.mp h
      rw [isUnlinked_iff, entries_without, isLink_without]
      refine ⟨hd, fun c e hc => ?_⟩
      obtain ⟨x, hx, -, rfl⟩ := mem_withoutAll hc
      exact ih c x hx (hall c x hx)

/-! ## Paths on which nothing is hidden -/

/-- No entry on the way from a place is hidden. -/
def Shows (hides : Path → Entry → Bool) (here : Path) (d : Entry) (q : Path) : Prop :=
  ∀ p x, p ≠ [] → p <+: q → d.under p = .ok x → hides (here ++ p) x = false

theorem Shows.of_cons {q : Path} {x : Entry} (h : Shows hides here d (c :: q))
    (hdir : d.isDir = true) (hx : d.child? c = some x) : Shows hides (here ++ [c]) x q := by
  intro p y _ hpre hy
  have := h (c :: p) y (List.cons_ne_nil c p) (List.cons_prefix_cons.mpr ⟨rfl, hpre⟩)
    (under_cons_eq_ok.mpr ⟨hdir, x, hx, hy⟩)
  rwa [List.append_assoc]

/-- A path on which nothing is hidden leads to the same entry, less what is hidden below it. -/
theorem under_without (h : d.isSound = true) {q : Path} (hq : Shows hides here d q) :
    (d.without hides here).under q = (d.under q).map (without hides (here ++ q)) := by
  induction q generalizing d here with
  | nil =>
      rw [List.append_nil]
      rfl
  | cons c q ih =>
      rw [under, under, isDir_without, child?_without h]
      split
      next => rfl
      next hdir =>
        have hdir : d.isDir = true := by simpa using hdir
        cases hx : d.child? c with
        | none => rfl
        | some x =>
            have hshown : hides (here ++ [c]) x = false :=
              hq [c] x (List.cons_ne_nil c []) (List.cons_prefix_cons.mpr ⟨rfl, List.nil_prefix⟩)
                (under_cons_eq_ok.mpr ⟨hdir, x, hx, rfl⟩)
            have hsound := (isSound_of_mem h (mem_entries_of_child? hx)).2
            rw [Option.bind_some, hshown, if_neg Bool.false_ne_true]
            simpa using ih hsound (hq.of_cons hdir hx)

/-- The names on a way through a sound tree are names. -/
theorem isProper_of_under (h : d.isSound = true) {q : Path} {x : Entry} (hx : d.under q = .ok x) :
    ∀ c ∈ q, Path.isProper c = true := by
  induction q generalizing d with
  | nil => simp
  | cons c q ih =>
      obtain ⟨-, y, hy, hrest⟩ := under_cons_eq_ok.mp hx
      obtain ⟨hc, hsound⟩ := isSound_of_mem h (mem_entries_of_child? hy)
      exact List.forall_mem_cons.mpr ⟨hc, ih hsound hrest⟩

end Entry

/-! ## Walks -/

section

variable {linkIsDir linkIsDir' : Path → Bool} {skip : String → Bool} {here : Path} {d : Entry}

theorem filesBelowAll_eq_flatMap (es : List (String × Entry)) :
    filesBelowAll linkIsDir skip here es = es.flatMap fun x =>
      if skip x.1 then [] else x.2.filesBelow linkIsDir skip (here ++ [x.1]) := by
  induction es with
  | nil => rfl
  | cons x es ih => rw [filesBelowAll, List.flatMap_cons, ih]

/-- A walk lists what is no directory and no link to one, and then what lies below the
directories. -/
theorem Entry.filesBelow_eq_append (d : Entry) :
    d.filesBelow linkIsDir skip here =
      (d.entries.filter fun x => !x.2.isDir && !(x.2.isLink && linkIsDir (here ++ [x.1]))).map
          (fun x => here ++ [x.1]) ++
        d.entries.flatMap fun x =>
          if skip x.1 then [] else x.2.filesBelow linkIsDir skip (here ++ [x.1]) := by
  cases d with
  | dir es =>
      rw [Entry.filesBelow, filesBelowAll_eq_flatMap]
      rfl
  | file | unreadable | link => rfl

/-- What is no directory, each with its path. -/
def filesHere (here : Path) (es : List (String × Entry)) : List Path :=
  (es.filter fun x => !x.2.isDir).map fun x => here ++ [x.1]

/-- Without links, a walk lists what is no directory, and then what lies below the directories. -/
theorem Entry.filesBelow_eq (hd : d.isUnlinked = true) :
    d.filesBelow linkIsDir skip here = filesHere here d.entries ++ d.entries.flatMap fun x =>
      if skip x.1 then [] else x.2.filesBelow linkIsDir skip (here ++ [x.1]) := by
  rw [Entry.filesBelow_eq_append, filesHere]
  congr 2
  refine List.filter_congr fun x hx => ?_
  have hlink : x.2.isLink = false :=
    Entry.isLink_of_isUnlinked (Entry.isUnlinked_of_mem hd hx)
  simp [hlink]

theorem Entry.filesBelow_of_not_isDir (hd : d.isDir = false) :
    d.filesBelow linkIsDir skip here = [] := by
  cases d with
  | dir es => cases hd
  | file | unreadable | link => rfl

/-- A file that a walk lists stands in the tree, and no directory on the way to it is to be
skipped. -/
theorem Entry.of_mem_filesBelow (hsound : d.isSound = true) (hlink : d.isUnlinked = true)
    {p : Path} (h : p ∈ d.filesBelow linkIsDir skip here) :
    ∃ q x, p = here ++ q ∧ q ≠ [] ∧ d.under q = .ok x ∧ x.isDir = false ∧
      ∀ c ∈ q.dropLast, skip c = false := by
  induction d using Entry.inductionOn generalizing here with
  | _ d ih =>
      rw [Entry.filesBelow_eq hlink, List.mem_append] at h
      rcases h with hfile | hbelow
      · obtain ⟨⟨c, x⟩, hx, rfl⟩ := List.mem_map.mp hfile
        obtain ⟨hc, hfile⟩ := List.mem_filter.mp hx
        exact ⟨[c], x, rfl, List.cons_ne_nil c [], Entry.under_singleton_of_mem hsound hc,
          by simpa using hfile, by simp⟩
      · obtain ⟨⟨c, x⟩, hc, hp⟩ := List.mem_flatMap.mp hbelow
        split at hp
        next => cases hp
        next hskip =>
          obtain ⟨q, y, rfl, hne, hy, hfile, hq⟩ := ih c x hc (Entry.isSound_of_mem hsound hc).2
            (Entry.isUnlinked_of_mem hlink hc) hp
          refine ⟨c :: q, y, by simp, List.cons_ne_nil c q, ?_, hfile, ?_⟩
          · rw [← List.singleton_append,
              Entry.under_append_of_ok (Entry.under_singleton_of_mem hsound hc), hy]
          · rw [List.dropLast_cons_of_ne_nil hne]
            exact List.forall_mem_cons.mpr ⟨by simpa using hskip, hq⟩

variable {hides : Path → Entry → Bool} {base : Path} {keep : Path → Bool}

/-- Of the files of a directory the same are kept, if hidden ones are not. -/
theorem filter_filesHere_without
    (hfiles : ∀ p c e, hides (base ++ (p ++ [c])) e = true → e.isDir = false →
      keep (p ++ [c]) = false)
    (es : List (String × Entry)) :
    (filesHere here (withoutAll hides (base ++ here) es)).filter keep =
      (filesHere here es).filter keep := by
  induction es with
  | nil => rfl
  | cons x es ih =>
      obtain ⟨name, e⟩ := x
      unfold filesHere at ih ⊢
      rw [withoutAll, List.append_assoc, List.filter_cons]
      cases hhides : hides (base ++ (here ++ [name])) e <;> cases hdir : e.isDir
      · simp [hdir, List.filter_cons, ih]
      · simp [hdir, ih]
      · simp [hfiles here name e hhides hdir, ih]
      · simp [ih]

/-- A walk that skips hidden directories lists the same files, if hidden ones are not kept. -/
theorem Entry.filter_filesBelow_without
    (hdirs : ∀ p c e, hides (base ++ (p ++ [c])) e = true → e.isDir = true → skip c = true)
    (hfiles : ∀ p c e, hides (base ++ (p ++ [c])) e = true → e.isDir = false →
      keep (p ++ [c]) = false)
    (hd : d.isUnlinked = true) :
    ((d.without hides (base ++ here)).filesBelow linkIsDir' skip here).filter keep =
      (d.filesBelow linkIsDir skip here).filter keep := by
  induction d using Entry.inductionOn generalizing here with
  | _ d ih =>
      rw [Entry.filesBelow_eq hd, Entry.filesBelow_eq (Entry.isUnlinked_without hd),
        List.filter_append, List.filter_append, Entry.entries_without,
        filter_filesHere_without hfiles, flatMap_withoutAll, List.filter_flatMap,
        List.filter_flatMap]
      congr 1
      refine List.flatMap_congr fun x hx => ?_
      obtain ⟨name, e⟩ := x
      have hbelow := @ih name e hx (here ++ [name]) (Entry.isUnlinked_of_mem hd hx)
      rw [List.append_assoc]
      cases hhides : hides (base ++ (here ++ [name])) e
      · cases skip name <;> simp [hbelow]
      · cases hdir : e.isDir with
        | true => simp [hdirs here name e hhides hdir]
        | false => simp [Entry.filesBelow_of_not_isDir hdir]

end

end ExtensionAudit
