import Mathlib
import ExtensionAudit.Proofs.Volume

/-!
# Paths without links

Where no link stands, a path means what it says.  `Entry.under` goes down a tree by names alone,
and `Volume.resolve_append` says that following a path comes to the same: from a directory that
stands under its own path, and in which no link lies.

The trees that stand on a disk are *sound*: the names in a directory are names, and each stands
there once.
-/

namespace ExtensionAudit

/-! ## Sound trees -/

/-- The text can be the name of an entry. -/
def Path.isProper (c : String) : Bool :=
  c != "" && c != "." && c != ".." && !c.toList.contains '/'

theorem Path.isName_of_isProper {c : String} (h : isProper c = true) : IsName c := by
  simp only [isProper, Bool.and_eq_true, bne_iff_ne] at h
  exact ⟨h.1.1.1, h.1.1.2, h.1.2⟩

theorem Path.slash_notMem_of_isProper {c : String} (h : isProper c = true) : '/' ∉ c.toList := by
  simp only [isProper, Bool.and_eq_true, Bool.not_eq_true'] at h
  simpa using h.2

mutual

/-- The names of each directory are names, each of one entry. -/
def Entry.isSound : Entry → Bool
  | .dir es => decide (es.map (·.1)).Nodup && isSoundAll es
  | .file .. | .unreadable | .link _ => true

/-- The entries are sound, and their names are names. -/
def isSoundAll : List (String × Entry) → Bool
  | [] => true
  | (name, e) :: rest => Path.isProper name && e.isSound && isSoundAll rest

end

mutual

/-- No link stands in the tree. -/
def Entry.isUnlinked : Entry → Bool
  | .dir es => isUnlinkedAll es
  | .link _ => false
  | .file .. | .unreadable => true

/-- No link stands among the entries or below them. -/
def isUnlinkedAll : List (String × Entry) → Bool
  | [] => true
  | (_, e) :: rest => e.isUnlinked && isUnlinkedAll rest

end

theorem isSoundAll_iff {es : List (String × Entry)} :
    isSoundAll es = true ↔ ∀ x ∈ es, Path.isProper x.1 = true ∧ x.2.isSound = true := by
  induction es with
  | nil => simp [isSoundAll]
  | cons x es ih => simp [isSoundAll, ih]

theorem isUnlinkedAll_iff {es : List (String × Entry)} :
    isUnlinkedAll es = true ↔ ∀ x ∈ es, x.2.isUnlinked = true := by
  induction es with
  | nil => simp [isUnlinkedAll]
  | cons x es ih => simp [isUnlinkedAll, ih]

namespace Entry

variable {d e : Entry} {c : String}

theorem nodup_of_isSound (h : d.isSound = true) : (d.entries.map (·.1)).Nodup := by
  cases d with
  | dir es =>
      rw [isSound, Bool.and_eq_true, decide_eq_true_iff] at h
      exact h.1
  | file | unreadable | link => exact List.nodup_nil

theorem isSound_of_mem (h : d.isSound = true) (hc : (c, e) ∈ d.entries) :
    Path.isProper c = true ∧ e.isSound = true := by
  cases d with
  | dir es =>
      rw [isSound, Bool.and_eq_true] at h
      exact isSoundAll_iff.mp h.2 _ hc
  | file | unreadable | link => cases hc

theorem isUnlinked_of_mem (h : d.isUnlinked = true) (hc : (c, e) ∈ d.entries) :
    e.isUnlinked = true := by
  cases d with
  | dir es => exact isUnlinkedAll_iff.mp h _ hc
  | file | unreadable | link => cases hc

theorem isLink_of_isUnlinked (h : e.isUnlinked = true) : e.isLink = false := by
  cases e with
  | link target => cases h
  | file | unreadable | dir => rfl

theorem isLink_of_isDir (h : e.isDir = true) : e.isLink = false := by
  cases e with
  | dir es => rfl
  | file | unreadable | link => cases h

theorem isFile_of_isDir (h : e.isDir = true) : e.isFile = false := by
  cases e with
  | dir es => rfl
  | file | unreadable | link => cases h

/-- In a sound directory the entry of a name is the one that is listed under it. -/
theorem child?_of_mem (h : d.isSound = true) (hc : (c, e) ∈ d.entries) : d.child? c = some e := by
  obtain ⟨before, after, heq⟩ := List.append_of_mem hc
  have hnodup := nodup_of_isSound h
  rw [heq, List.map_append, List.map_cons, List.nodup_append] at hnodup
  refine List.lookup_eq_some_iff.mpr ⟨before, after, heq, fun x hx => ?_⟩
  have hne : x.1 ≠ c := hnodup.2.2 x.1 (List.mem_map_of_mem hx) c List.mem_cons_self
  simpa using hne.symm

/-! ## Going down by names -/

/-- The entry that names lead to.  No link is followed. -/
def under : Entry → Path → Except Fault Entry
  | e, [] => .ok e
  | e, c :: rest =>
      if !e.isDir then .error .notDirectory
      else
        match e.child? c with
        | none => .error .absent
        | some x => x.under rest

theorem under_cons_eq_ok {p : Path} :
    d.under (c :: p) = .ok e ↔ d.isDir = true ∧ ∃ x, d.child? c = some x ∧ x.under p = .ok e := by
  rw [under]
  cases d.isDir <;> cases d.child? c <;> simp

/-- One path is gone under after the other. -/
theorem under_append (d : Entry) (p q : Path) :
    d.under (p ++ q) = d.under p >>= fun e => e.under q := by
  induction p generalizing d with
  | nil => rfl
  | cons c p ih =>
      rw [List.cons_append, under, under]
      split
      next => rfl
      next =>
        split
        next => rfl
        next x _ => exact ih x

theorem under_append_of_ok {p : Path} (h : d.under p = .ok e) (q : Path) :
    d.under (p ++ q) = e.under q := by
  rw [under_append, h]
  rfl

theorem under_singleton_of_mem (h : d.isSound = true) (hc : (c, e) ∈ d.entries) :
    d.under [c] = .ok e := by
  refine under_cons_eq_ok.mpr ⟨?_, e, child?_of_mem h hc, rfl⟩
  cases d with
  | dir es => rfl
  | file | unreadable | link => cases hc

/-- What holds of a tree and of what lies in its directories holds wherever names lead. -/
theorem under_induction {P : Entry → Prop} (hP : ∀ d c e, (c, e) ∈ d.entries → P d → P e)
    {p : Path} (h : d.under p = .ok e) (hd : P d) : P e := by
  induction p generalizing d with
  | nil =>
      cases h
      exact hd
  | cons c p ih =>
      obtain ⟨-, x, hx, hrest⟩ := under_cons_eq_ok.mp h
      exact ih hrest (hP d c x (mem_entries_of_child? hx) hd)

theorem isSound_of_under {p : Path} (h : d.under p = .ok e) (hd : d.isSound = true) :
    e.isSound = true :=
  under_induction (fun _ _ _ hc hs => (isSound_of_mem hs hc).2) h hd

theorem isUnlinked_of_under {p : Path} (h : d.under p = .ok e) (hd : d.isUnlinked = true) :
    e.isUnlinked = true :=
  under_induction (fun _ _ _ hc hs => isUnlinked_of_mem hs hc) h hd

theorem depth_of_under {p : Path} (h : d.under p = .ok e) : e.depth ≤ d.depth :=
  under_induction (fun _ _ _ hc hs => (depth_lt_of_mem_entries hc).le.trans hs) h le_rfl

end Entry

/-- What a path leads to in a sound tree is sound, whatever links it goes through. -/
theorem Volume.isSound_of_resolve {v : Volume} {p : Path} {s : Spot}
    (hsound : v.root.isSound = true) (h : v.resolve p = .ok s) : s.entry.isSound = true := by
  obtain ⟨result, hgoes, rfl⟩ := goes_of_resolve h
  exact hgoes.topOf_induction (P := fun e => e.isSound = true)
    (fun _ _ _ hc hd => (Entry.isSound_of_mem hd hc).2) hsound (by simp)

/-! ## Following names -/

namespace Volume

/-- What is done with a link on the way. -/
abbrev Jump := List (String × Entry) → String → List String → Except Fault (List (String × Entry))

variable {root : Entry} {above : List (String × Entry)}

/-- A name is looked up in a directory, and a link is jumped over or kept. -/
theorem descend_name {c : String} (hc : Path.IsName c) (keepLast : Bool) (jump : Jump)
    (rest : List String) :
    descend keepLast root jump above (c :: rest) =
      if !(topOf root above).isDir then .error .notDirectory
      else
        match (topOf root above).child? c with
        | none => .error .absent
        | some (.link target) =>
            if keepLast && rest.isEmpty then .ok ((c, .link target) :: above)
            else jump above target rest
        | some e => descend keepLast root jump ((c, e) :: above) rest := by
  obtain ⟨hempty, hdot, hdots⟩ := hc
  simp only [descend, topOf, beq_iff_eq, hempty, hdot, hdots, Bool.or_eq_true, or_self, if_false]
  rfl

/-- A name that leads to an entry that is no link is one step down. -/
theorem descend_child {c : String} {e : Entry} (hc : Path.IsName c)
    (hdir : (topOf root above).isDir = true) (he : (topOf root above).child? c = some e)
    (hlink : e.isLink = false) (keepLast : Bool) (jump : Jump) (rest : List String) :
    descend keepLast root jump above (c :: rest) =
      descend keepLast root jump ((c, e) :: above) rest := by
  rw [descend_name hc, hdir, he]
  cases e with
  | link target => cases hlink
  | file | unreadable | dir => rfl

/-- Names that lead somewhere are steps down.  What the last step leaves is a directory. -/
theorem exists_descend_of_under {q : Path} {x : Entry} (hq : q.Plain)
    (hx : (topOf root above).under q = .ok x) (hlink : x.isLink = false)
    (hup : (topOf root above).isDir = true → (topOf root above.tail).isDir = true) :
    ∃ stack, topOf root stack = x ∧ stack.map (·.1) = q.reverse ++ above.map (·.1) ∧
      (x.isDir = true → (topOf root stack.tail).isDir = true) ∧
      ∀ keepLast jump rest, descend keepLast root jump above (q ++ rest) =
        descend keepLast root jump stack rest := by
  induction q generalizing above with
  | nil =>
      cases hx
      exact ⟨above, rfl, rfl, hup, fun _ _ _ => rfl⟩
  | cons c q ih =>
      obtain ⟨hc, hq⟩ := List.forall_mem_cons.mp hq
      obtain ⟨hdir, y, hy, hrest⟩ := Entry.under_cons_eq_ok.mp hx
      have hylink : y.isLink = false := by
        cases q with
        | nil =>
            cases hrest
            exact hlink
        | cons => exact Entry.isLink_of_isDir (Entry.under_cons_eq_ok.mp hrest).1
      have hrest : (topOf root ((c, y) :: above)).under q = .ok x := hrest
      obtain ⟨stack, htop, hnames, hparent, hstep⟩ := ih hq hrest fun _ => hdir
      refine ⟨stack, htop, by simpa using hnames, hparent, fun keepLast jump rest => ?_⟩
      rw [List.cons_append, descend_child hc hdir hy hylink, hstep]

/-- Names that lead nowhere end a path, if no link is met. -/
theorem descend_of_under_error {q : Path} {fault : Fault} (hq : q.Plain)
    (hx : (topOf root above).under q = .error fault)
    (hlink : (topOf root above).isUnlinked = true) (keepLast : Bool) (jump : Jump)
    (rest : List String) : descend keepLast root jump above (q ++ rest) = .error fault := by
  induction q generalizing above with
  | nil => cases hx
  | cons c q ih =>
      obtain ⟨hc, hq⟩ := List.forall_mem_cons.mp hq
      rw [Entry.under] at hx
      split at hx
      next hdir =>
        rw [List.cons_append, descend_name hc, hdir]
        cases hx
        rfl
      next hdir =>
        split at hx
        next hnone =>
          rw [List.cons_append, descend_name hc, hnone, if_neg hdir]
          cases hx
          rfl
        next y hy =>
          have hylink := Entry.isUnlinked_of_mem hlink (Entry.mem_entries_of_child? hy)
          have hdir : (topOf root above).isDir = true := by simpa using hdir
          rw [List.cons_append, descend_child hc hdir hy (Entry.isLink_of_isUnlinked hylink)]
          exact ih hq hx hylink

theorem descend_dots {c : String} (hc : c = "." ∨ c = "..") (keepLast : Bool) (jump : Jump) :
    descend keepLast root jump above [c] =
      if (topOf root above).isDir then .ok (if c == ".." then above.tail else above)
      else .error .notDirectory := by
  rcases hc with rfl | rfl <;> simp [descend, topOf]

end Volume

/-! ## Trees that stand under their own path -/

/-- A tree stands at a path, with no link on the way to it and none in it. -/
structure Volume.Stands (v : Volume) (base : Path) (e : Entry) : Prop where
  /-- The components of the path are names. -/
  plain : base.Plain
  /-- The names lead to the tree. -/
  under_base : v.root.under base = .ok e
  /-- No link stands in the tree. -/
  unlinked : e.isUnlinked = true

namespace Volume.Stands

variable {v : Volume} {base q : Path} {e x : Entry}

/-- Following names that lead somewhere in the tree. -/
theorem exists_follow (h : v.Stands base e) (hq : q.Plain) (hx : e.under q = .ok x) :
    ∃ stack, topOf v.root stack = x ∧ stack.map (·.1) = (base ++ q).reverse ∧
      (x.isDir = true → (topOf v.root stack.tail).isDir = true) ∧
      ∀ keepLast rest, follow keepLast v.root linkBound [] (base ++ q ++ rest) =
        follow keepLast v.root linkBound stack rest := by
  have hunder : (topOf v.root []).under (base ++ q) = .ok x :=
    (Entry.under_append_of_ok h.under_base q).trans hx
  have hlink := Entry.isLink_of_isUnlinked (Entry.isUnlinked_of_under hx h.unlinked)
  obtain ⟨stack, htop, hnames, hparent, hstep⟩ :=
    exists_descend_of_under (Path.plain_append.mpr ⟨h.plain, hq⟩) hunder hlink id
  exact ⟨stack, htop, by simpa using hnames, hparent, fun keepLast => hstep keepLast _⟩

/-- Following names that lead nowhere in the tree. -/
theorem follow_error (h : v.Stands base e) (hq : q.Plain) {fault : Fault}
    (hx : e.under q = .error fault) (keepLast : Bool) (rest : List String) :
    follow keepLast v.root linkBound [] (base ++ q ++ rest) = .error fault := by
  have hbase : (topOf v.root []).under base = .ok e := h.under_base
  obtain ⟨stack, htop, -, -, hstep⟩ :=
    exists_descend_of_under h.plain hbase (Entry.isLink_of_isUnlinked h.unlinked) id
  rw [List.append_assoc, follow, hstep]
  exact descend_of_under_error hq (htop ▸ hx) (htop ▸ h.unlinked) _ _ rest

/-- A path into the tree leads where its names lead. -/
theorem follow_append (h : v.Stands base e) (hq : q.Plain) (keepLast : Bool) :
    (follow keepLast v.root linkBound [] (base ++ q)).map v.spotOf =
      (e.under q).map fun x => ⟨base ++ q, x⟩ := by
  cases hx : e.under q with
  | error fault =>
      have hfollow := h.follow_error hq hx keepLast []
      rw [List.append_nil] at hfollow
      rw [hfollow]
      rfl
  | ok x =>
      obtain ⟨stack, htop, hnames, -, hstep⟩ := h.exists_follow hq hx
      have hfollow := hstep keepLast []
      rw [List.append_nil] at hfollow
      have hspot : v.spotOf stack = ⟨base ++ q, x⟩ := by
        rw [spotOf, hnames, List.reverse_reverse]
        exact congrArg (Spot.mk (base ++ q)) htop
      rw [hfollow, follow, descend]
      exact congrArg Except.ok hspot

theorem resolve_append (h : v.Stands base e) (hq : q.Plain) :
    v.resolve (base ++ q) = (e.under q).map fun x => ⟨base ++ q, x⟩ :=
  h.follow_append hq false

theorem resolve_base (h : v.Stands base e) : v.resolve base = .ok ⟨base, e⟩ := by
  have hbase := h.resolve_append Path.plain_nil
  rwa [List.append_nil] at hbase

theorem isDir_append (h : v.Stands base e) (hq : q.Plain) :
    v.isDir (base ++ q) = ((e.under q).map Entry.isDir).toOption.getD false := by
  rw [isDir, h.resolve_append hq]
  cases e.under q <;> rfl

theorem exists?_append (h : v.Stands base e) (hq : q.Plain) :
    v.exists? (base ++ q) = (e.under q).isOk := by
  rw [exists?, resolveKeep, h.follow_append hq true]
  cases e.under q <;> rfl

/-! ### Dots -/

/-- Dots behind a path lead on from a directory only, to a directory. -/
theorem follow_dots (h : v.Stands base e) (hq : q.Plain) {c : String} (hc : c = "." ∨ c = "..")
    (keepLast : Bool) :
    (∃ fault, follow keepLast v.root linkBound [] (base ++ q ++ [c]) = .error fault ∧
      v.isDir (base ++ q) = false) ∨
    ∃ stack, follow keepLast v.root linkBound [] (base ++ q ++ [c]) = .ok stack ∧
      (topOf v.root stack).isDir = true ∧ v.isDir (base ++ q) = true := by
  rw [h.isDir_append hq]
  cases hx : e.under q with
  | error fault => exact .inl ⟨fault, h.follow_error hq hx keepLast [c], rfl⟩
  | ok x =>
      obtain ⟨stack, htop, -, hparent, hstep⟩ := h.exists_follow hq hx
      rw [hstep, follow, descend_dots hc, htop]
      cases hdir : x.isDir with
      | false => exact .inl ⟨.notDirectory, rfl, hdir⟩
      | true =>
          refine .inr ⟨_, rfl, ?_, hdir⟩
          split
          · exact hparent hdir
          · exact htop ▸ hdir

theorem exists?_dots (h : v.Stands base e) (hq : q.Plain) {c : String} (hc : c = "." ∨ c = "..") :
    v.exists? (base ++ q ++ [c]) = v.isDir (base ++ q) := by
  rw [exists?, resolveKeep]
  rcases h.follow_dots hq hc true with ⟨fault, hf, hdir⟩ | ⟨stack, hf, -, hdir⟩ <;>
    rw [hf, hdir] <;> rfl

theorem isFile_dots (h : v.Stands base e) (hq : q.Plain) {c : String} (hc : c = "." ∨ c = "..") :
    v.isFile (base ++ q ++ [c]) = false := by
  rw [isFile, resolve]
  rcases h.follow_dots hq hc false with ⟨fault, hf, -⟩ | ⟨stack, hf, hdir, -⟩
  · rw [hf]
    rfl
  · rw [hf]
    exact Entry.isFile_of_isDir hdir

end Volume.Stands

end ExtensionAudit
