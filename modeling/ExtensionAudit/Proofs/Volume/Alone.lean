import Mathlib
import ExtensionAudit.Proofs.Volume.Glob

/-!
# A directory as a file tree of its own

A pattern that does not go up, behind the text of a path without special characters, matches what
it matches in the directory's own tree, each text with the path in front (`matching_place`).

A pattern is cut component by component from its end.  Behind a path each cut is the same, with the
path in front of what is left (`exists_cut`), and at the end what is left is the path itself, in one
spelling or another (`Placed`).  From there on the components are looked for in directories that
hold the same, and what they find there is put behind the path again.

The two runs have different bounds on the length of a pattern and on the depth of a tree.  Neither
shows, since each cut makes the pattern shorter.
-/

namespace ExtensionAudit

open Glob (joinText pathOf isPattern slashed splitText)

/-! ## Texts behind a path -/

namespace Glob

variable {base : Path} {d r n s t : Text}

theorem pathOf_slashed (t : Text) : pathOf (slashed t) = pathOf t := by
  have hjoin : joinText t [] = slashed t ++ [] := joinText_eq (by simp) t
  rw [← List.append_nil (slashed t), ← hjoin, pathOf_joinText (by simp), pathOf_nil,
    List.append_nil]

theorem pathOf_append_slashes {u : Text} (hu : ∀ c ∈ u, c = '/') (t : Text) :
    pathOf (t ++ u) = pathOf t := by
  induction u generalizing t with
  | nil => rw [List.append_nil]
  | cons c u ih =>
      obtain ⟨hc, hrest⟩ := List.forall_mem_cons.mp hu
      have hnil : pathOf u = [] := ih hrest []
      rw [hc, pathOf_append_slash, hnil, List.append_nil]

theorem exists_slashed_chars (hbase : base.Proper) :
    ∃ front, slashed base.chars = front ++ ['/'] ∧ pathOf front = base := by
  rw [Path.slashed_chars hbase]
  cases base with
  | nil => exact ⟨[], Path.chars_nil, rfl⟩
  | cons c rest => exact ⟨Path.chars (c :: rest), rfl, Path.pathOf_chars hbase⟩

/-- The path of a text behind a path. -/
theorem pathOf_place (hbase : base.Proper) (t : Text) :
    pathOf (slashed base.chars ++ t) = base ++ pathOf t := by
  obtain ⟨front, hfront, hpath⟩ := exists_slashed_chars hbase
  rw [hfront, List.append_assoc, List.singleton_append, pathOf_append_slash, hpath]

theorem isPattern_place (hplain : isPattern base.chars = false) (t : Text) :
    isPattern (slashed base.chars ++ t) = isPattern t := by
  have happend : isPattern (slashed base.chars ++ t) = (isPattern base.chars || isPattern t) := by
    rw [slashed]
    split <;> simp [isPattern]
  rw [happend, hplain, Bool.false_or]

theorem slashed_append (ht : t ≠ []) (a : Text) : slashed (a ++ t) = a ++ slashed t := by
  rw [slashed, slashed, List.getLast?_append_of_ne_nil _ ht]
  by_cases hlast : t.getLast? = some '/' <;> simp [ht, hlast]

theorem slashed_place (hbase : base.Proper) (t : Text) :
    slashed (slashed base.chars ++ t) = slashed base.chars ++ slashed t := by
  by_cases ht : t = []
  · obtain ⟨front, hfront, -⟩ := exists_slashed_chars hbase
    rw [ht, hfront]
    simp [slashed]
  · exact slashed_append ht _

/-- The directory of one text is that of the other behind a path. -/
def Placed (base : Path) (d r : Text) : Prop :=
  slashed d = slashed base.chars ++ slashed r

theorem placed_base : Placed base base.chars [] := (List.append_nil _).symm

theorem placed_append (hbase : base.Proper) (r : Text) :
    Placed base (slashed base.chars ++ r) r := slashed_place hbase r

namespace Placed

theorem pathOf_eq (h : Placed base d r) (hbase : base.Proper) : pathOf d = base ++ pathOf r := by
  rw [← pathOf_slashed d, h, pathOf_place hbase, pathOf_slashed]

theorem joinText_eq (h : Placed base d r) (hn : n.head? ≠ some '/') :
    joinText d n = slashed base.chars ++ joinText r n := by
  rw [Glob.joinText_eq hn, h, Glob.joinText_eq hn, List.append_assoc]

theorem join (h : Placed base d r) (hbase : base.Proper) (hn : n.head? ≠ some '/') :
    Placed base (joinText d n) (joinText r n) := by
  rw [h.joinText_eq hn]
  exact placed_append hbase _

end Placed

/-! ## Cutting a text behind a path -/

/-- A text is cut at its last slash, if it has one. -/
theorem cut_cases (s : Text) : '/' ∉ s ∨ ∃ front c, s = front ++ '/' :: c ∧ '/' ∉ c := by
  induction s with
  | nil => exact .inl List.not_mem_nil
  | cons x s ih =>
      rcases ih with hnone | ⟨front, c, rfl, hc⟩
      · by_cases hx : x = '/'
        · exact .inr ⟨[], s, by rw [hx, List.nil_append], hnone⟩
        · exact .inl (by simp [hnone, Ne.symm hx])
      · exact .inr ⟨x :: front, c, rfl, hc⟩

/-- The text without the slashes at its end. -/
abbrev unslashed (t : Text) : Text := t.rdropWhile (· == '/')

theorem exists_unslashed (t : Text) : ∃ u, t = unslashed t ++ u ∧ ∀ c ∈ u, c = '/' := by
  refine ⟨(t.reverse.takeWhile (· == '/')).reverse, ?_, fun c hc => ?_⟩
  · rw [unslashed, List.rdropWhile, ← List.reverse_append, List.takeWhile_append_dropWhile,
      List.reverse_reverse]
  · simpa using List.mem_takeWhile_imp (List.mem_reverse.mp hc)

/-- The first character stays if it is no slash. -/
theorem exists_unslashed_cons {x : Char} (hx : x ≠ '/') (t : Text) :
    ∃ rest, unslashed (x :: t) = x :: rest := by
  obtain ⟨u, hu, -⟩ := exists_unslashed (x :: t)
  cases hshort : unslashed (x :: t) with
  | nil =>
      have hslash := List.rdropWhile_eq_nil_iff.mp hshort x List.mem_cons_self
      exact absurd (beq_iff_eq.mp hslash) hx
  | cons y rest =>
      rw [hshort] at hu
      cases hu
      exact ⟨rest, rfl⟩

theorem unslashed_append {t : Text} (ht : unslashed t ≠ []) (a : Text) :
    unslashed (a ++ t) = a ++ unslashed t := by
  have hne : t.reverse.dropWhile (· == '/') ≠ [] := fun h => ht (List.reverse_eq_nil_iff.mpr h)
  rw [unslashed, unslashed, List.rdropWhile, List.rdropWhile, List.reverse_append,
    List.dropWhile_append, if_neg (by simpa using hne), List.reverse_append, List.reverse_reverse]

theorem splitText_of_notMem (h : '/' ∉ s) : splitText s = ([], s) := by
  have hlast : s.reverse.takeWhile (· != '/') = s.reverse := by
    refine List.takeWhile_eq_self_iff.mpr fun c hc => ?_
    have hne : c ≠ '/' := fun heq => h (heq ▸ List.mem_reverse.mp hc)
    simpa using hne
  simp [splitText, hlast]

/-- A text that does not start with a slash is cut behind a path as it is cut by itself. -/
structure Cut (base : Path) (s d r c : Text) : Prop where
  /-- The cut of the text behind the path. -/
  place : splitText (slashed base.chars ++ s) = (d, c)
  /-- The cut of the text. -/
  alone : splitText s = (r, c)
  /-- The component is one. -/
  component : '/' ∉ c
  /-- The path of the text is that of its parts. -/
  pathOf_eq : pathOf s = pathOf r ++ pathOf c
  /-- Either nothing is before the component, or a shorter text that does not start with a slash
  either. -/
  before : r = [] ∧ d = base.chars ∨
    r.length < s.length ∧ r.head? ≠ some '/' ∧ d = slashed base.chars ++ r

/-- A text that does not start with a slash can be cut. -/
theorem exists_cut (hbase : base.Proper) (hs : s.head? ≠ some '/') : ∃ d r c, Cut base s d r c := by
  rcases cut_cases s with hnone | ⟨front, c, rfl, hc⟩
  · refine ⟨base.chars, [], s, ⟨?_, splitText_of_notMem hnone, hnone, rfl, .inl ⟨rfl, rfl⟩⟩⟩
    rw [← joinText_eq hs]
    exact Path.splitText_joinText hbase hnone
  · cases front with
    | nil => exact absurd rfl hs
    | cons x front =>
        have hx : x ≠ '/' := fun heq => hs (congrArg some heq)
        obtain ⟨rest, hrest⟩ := exists_unslashed_cons hx front
        have hne : unslashed (x :: front) ≠ [] := hrest ▸ List.cons_ne_nil x rest
        have hcut : ∀ a : Text, splitText (a ++ (x :: front ++ '/' :: c)) =
            (a ++ unslashed (x :: front), c) := by
          intro a
          rw [← List.append_assoc, splitText_append_slash hc, if_neg (by simp [hx]),
            ← unslashed_append hne]
          rfl
        refine ⟨_, _, c, ⟨hcut _, hcut [], hc, ?_, .inr ⟨?_, ?_, rfl⟩⟩⟩
        · obtain ⟨u, hu, hslashes⟩ := exists_unslashed (x :: front)
          rw [pathOf_append_slash, List.nil_append]
          nth_rewrite 1 [hu]
          rw [pathOf_append_slashes hslashes]
        · have hle : (unslashed (x :: front)).length ≤ (x :: front).length :=
            (List.rdropWhile_prefix _ _).length_le
          simp only [List.nil_append, List.length_append, List.length_cons] at hle ⊢
          omega
        · rw [List.nil_append, hrest]
          exact fun heq => hx (Option.some.inj heq)

end Glob

/-! ## What a component finds behind a path -/

namespace Entry

variable {x : Entry} {base : Path} {dirsOnly : Bool} {d r component : Text}

/-- What lies below is the same wherever the tree stands. -/
theorem textsBelow_place (hx : x.isSound = true) (hbase : base.Proper)
    (h : Glob.Placed base d r) :
    x.textsBelow dirsOnly d = (x.textsBelow dirsOnly r).map (slashed base.chars ++ ·) := by
  induction x using Entry.inductionOn generalizing d r with
  | _ x ih =>
      rw [textsBelow_eq, textsBelow_eq, List.map_flatMap]
      refine List.flatMap_congr fun y hy => ?_
      obtain ⟨hname, hsound⟩ := isSound_of_mem hx hy
      have hslash := Glob.head?_ne_slash (Path.slash_notMem_of_isProper hname)
      split
      next => rfl
      next =>
        rw [List.map_cons, ← h.joinText_eq hslash, ih y.1 y.2 hy hsound (h.join hbase hslash)]

theorem textsMatching_place (hx : x.isSound = true) (h : Glob.Placed base d r) :
    x.textsMatching dirsOnly component d =
      (x.textsMatching dirsOnly component r).map (slashed base.chars ++ ·) := by
  rw [textsMatching, textsMatching, List.map_flatMap]
  refine List.flatMap_congr fun y hy => ?_
  have hname := (isSound_of_mem hx hy).1
  rw [h.joinText_eq (Glob.head?_ne_slash (Path.slash_notMem_of_isProper hname))]
  split <;> rfl

end Entry

/-- A sound tree without links stands at a path that can be read off its text. -/
structure Volume.Holds (v : Volume) (base : Path) (e : Entry) : Prop extends v.Stands base e where
  /-- The components of the path are names without slashes. -/
  proper : base.Proper
  /-- The tree is sound. -/
  sound : e.isSound = true

namespace Volume.Holds

variable {v : Volume} {base q : Path} {e : Entry} {recursive dirsOnly : Bool} {fuel fuel' : Nat}
  {d r s component : Text}

theorem alone (h : v.Holds base e) : Holds ⟨e, .plain⟩ [] e :=
  ⟨.alone h.unlinked, by simp [Path.Proper], h.sound⟩

theorem isDir_place (h : v.Holds base e) (hq : q.Descends) :
    v.isDir (base ++ q) = Volume.isDir ⟨e, .plain⟩ q := by
  rw [h.isDir_eq_found hq]
  exact (h.alone.isDir_eq_found hq).symm

theorem exists?_place (h : v.Holds base e) (hq : q.Descends) :
    v.exists? (base ++ q) = Volume.exists? ⟨e, .plain⟩ q := by
  rw [h.exists?_eq_along hq]
  exact (h.alone.exists?_eq_along hq).symm

theorem isFile_place (h : v.Holds base e) (hq : q.Descends) :
    v.isFile (base ++ q) = Volume.isFile ⟨e, .plain⟩ q := by
  rw [h.isFile_eq_along hq]
  exact (h.alone.isFile_eq_along hq).symm

theorem bytes_place (h : v.Holds base e) (hq : q.Descends) :
    v.bytes (base ++ q) = Volume.bytes ⟨e, .plain⟩ q := by
  rw [h.bytes_eq_along hq]
  exact (h.alone.bytes_eq_along hq).symm

/-- The texts that a component finds are those that it finds in the tree of its own, each behind
the path. -/
theorem map_namesIn_place (h : v.Holds base e) (hd : Glob.Placed base d r)
    (hr : (pathOf r).Descends) (hc : '/' ∉ component) (hdown : (pathOf component).Descends) :
    (Glob.namesIn v recursive dirsOnly d component).map (joinText d) =
      ((Glob.namesIn ⟨e, .plain⟩ recursive dirsOnly r component).map (joinText r)).map
        (slashed base.chars ++ ·) := by
  have hsound := Entry.isSound_found h.sound (pathOf r)
  have hself := Glob.head?_ne_slash hc
  have hexists : v.exists? (pathOf (joinText d component)) =
      Volume.exists? ⟨e, .plain⟩ (pathOf (joinText r component)) := by
    rw [hd.joinText_eq hself, Glob.pathOf_place h.proper, h.exists?_place]
    rw [Glob.pathOf_joinText hself]
    exact Path.descends_append.mpr ⟨hr, hdown⟩
  rw [h.map_namesIn h.sound hr (hd.pathOf_eq h.proper), h.alone.map_namesIn h.sound hr rfl, hexists]
  split
  next =>
    rw [hd.joinText_eq hself]
    split <;> split <;> rfl
  next =>
    split
    next =>
      rw [List.map_cons, hd.joinText_eq (by simp), Entry.textsBelow_place hsound h.proper hd]
    next => exact Entry.textsMatching_place hsound hd

/-- What a component finds does not go up, if the component does not. -/
theorem descends_of_mem_namesIn (h : Holds ⟨e, .plain⟩ [] e) (hr : (pathOf r).Descends)
    (hc : '/' ∉ component) (hdown : (pathOf component).Descends) {t : Text}
    (ht : t ∈ (Glob.namesIn ⟨e, .plain⟩ recursive dirsOnly r component).map (joinText r)) :
    (pathOf t).Descends := by
  obtain ⟨q, hq, hlast⟩ := h.of_mem_namesIn h.sound hr rfl hc ht
  rw [hq]
  refine Path.descends_append.mpr ⟨hr, ?_⟩
  rcases hlast with hplain | ⟨hne, rfl⟩
  · exact hplain.descends
  · rwa [← Glob.pathOf_of_notMem hc hne]

/-! ## Patterns behind a path -/

/-- What a pattern matches does not go up, if the pattern does not. -/
theorem descends_of_mem_matchesFrom (h : Holds ⟨e, .plain⟩ [] e) (hs : s.head? ≠ some '/')
    (hdown : (pathOf s).Descends) {t : Text}
    (ht : t ∈ Glob.matchesFrom ⟨e, .plain⟩ recursive fuel dirsOnly s) : (pathOf t).Descends := by
  induction fuel generalizing s t dirsOnly with
  | zero => cases ht
  | succ fuel ih =>
      obtain ⟨d, r, c, hcut⟩ := Glob.exists_cut h.proper hs
      rw [hcut.pathOf_eq] at hdown
      obtain ⟨hr, hc⟩ := Path.descends_append.mp hdown
      rw [Glob.matchesFrom, hcut.alone] at ht
      simp only at ht
      split at ht
      next =>
        have ht : t = s := by
          split at ht <;> split at ht <;> first | exact List.mem_singleton.mp ht | cases ht
        rwa [ht, hcut.pathOf_eq]
      next =>
        obtain ⟨d', hd', ht⟩ := List.mem_flatMap.mp ht
        refine h.descends_of_mem_namesIn ?_ hcut.component hc ht
        split at hd'
        next hpattern =>
          rcases hcut.before with ⟨rfl, -⟩ | ⟨-, hhead, -⟩
          · cases hpattern
          · exact ih hhead hr hd'
        next =>
          rw [List.mem_singleton.mp hd']
          exact hr

/-- A pattern behind a path matches what it matches in the tree of its own, each text behind the
path.  No bound shows that is greater than the length of the pattern. -/
theorem matchesFrom_place (h : v.Holds base e) (hplain : isPattern base.chars = false)
    (hs : s.head? ≠ some '/') (hdown : (pathOf s).Descends) (hfuel : s.length < fuel)
    (hfuel' : s.length < fuel') :
    Glob.matchesFrom v recursive fuel dirsOnly (slashed base.chars ++ s) =
      (Glob.matchesFrom ⟨e, .plain⟩ recursive fuel' dirsOnly s).map (slashed base.chars ++ ·) := by
  induction fuel generalizing fuel' s dirsOnly with
  | zero => cases hfuel
  | succ fuel ih =>
      obtain ⟨fuel', rfl⟩ : ∃ m, fuel' = m + 1 := ⟨fuel' - 1, by omega⟩
      obtain ⟨d, r, c, hcut⟩ := Glob.exists_cut h.proper hs
      obtain ⟨hr, hc⟩ := Path.descends_append.mp (hcut.pathOf_eq ▸ hdown)
      have hplaced : Glob.Placed base d r := by
        rcases hcut.before with ⟨rfl, rfl⟩ | ⟨-, -, rfl⟩
        · exact Glob.placed_base
        · exact Glob.placed_append h.proper r
      have hdirs : (if isPattern d then Glob.matchesFrom v recursive fuel true d else [d]).flatMap
            (fun d => (Glob.namesIn v recursive dirsOnly d c).map (joinText d)) =
          ((if isPattern r then Glob.matchesFrom ⟨e, .plain⟩ recursive fuel' true r
              else [r]).flatMap
            (fun d => (Glob.namesIn ⟨e, .plain⟩ recursive dirsOnly d c).map (joinText d))).map
              (slashed base.chars ++ ·) := by
        rcases hcut.before with ⟨rfl, rfl⟩ | ⟨hlength, hhead, rfl⟩
        · have hnone : isPattern [] = false := rfl
          simp only [hplain, hnone, Bool.false_eq_true, if_false, List.flatMap_singleton]
          exact h.map_namesIn_place hplaced hr hcut.component hc
        · rw [Glob.isPattern_place hplain]
          split
          next =>
            have hbefore : Glob.matchesFrom v recursive fuel true (slashed base.chars ++ r) =
                (Glob.matchesFrom ⟨e, .plain⟩ recursive fuel' true r).map
                  (slashed base.chars ++ ·) :=
              ih hhead hr (by omega) (by omega)
            rw [hbefore, List.flatMap_map, List.map_flatMap]
            refine List.flatMap_congr fun r' hr' => ?_
            exact h.map_namesIn_place (Glob.placed_append h.proper r')
              (h.alone.descends_of_mem_matchesFrom hhead hr hr') hcut.component hc
          next =>
            rw [List.flatMap_singleton, List.flatMap_singleton]
            exact h.map_namesIn_place hplaced hr hcut.component hc
      rw [Glob.matchesFrom, Glob.matchesFrom, hcut.place, hcut.alone]
      simp only [hdirs, Glob.isPattern_place hplain, Glob.pathOf_place h.proper,
        hplaced.pathOf_eq h.proper, h.isDir_place hr, h.exists?_place hdown]
      split
      next => split <;> split <;> rfl
      next => rfl

theorem matching_place (h : v.Holds base e) (hplain : isPattern base.chars = false)
    (hs : s.head? ≠ some '/') (hdown : (pathOf s).Descends) :
    Glob.matching v recursive (slashed base.chars ++ s) =
      (Glob.matching ⟨e, .plain⟩ recursive s).map (slashed base.chars ++ ·) := by
  refine h.matchesFrom_place hplain hs hdown ?_ (Nat.lt_succ_self _)
  rw [List.length_append]
  omega

end Volume.Holds

end ExtensionAudit
