import Mathlib
import ExtensionAudit.Resource.Ownership

/-!
# The depth of the ownership

The depth is the number of files on a longest of the shortest chains of owners that start at a
root (`isGreatest_depth`).  Ownership may run in circles, a file may own itself or another one more
than once, and every file may be owned.

A file waits in the queue of a search more than once, with different levels, and is marked only
when it is left.  Its first turn has the least level all the same, and this rests on the order of
the queue: the levels ascend and differ by one at most.  `Searching` holds what a search keeps, with
one lemma for a file that was left before (`Searching.skip`) and one for a file that is left now
(`Searching.leave`).
-/

namespace ExtensionAudit.Resource

variable {scans : Scans} {own : Ownership} {root : String}

/-! ## Owners and chains of owners -/

/-- A file owns another one: it stores an object whose class the other one defines.  No file has an
empty name. -/
def Owns (own : Ownership) (owner file : String) : Prop :=
  ∃ owned, (owner, owned) ∈ own ∧ ∃ entry ∈ owned, entry.2.source? = some file ∧ file ≠ ""

/-- A chain of owners from a file to another one, with the number of its steps.  Each step leads to
a scanned file. -/
inductive Chain (scans : Scans) (own : Ownership) (root : String) : Nat → String → Prop where
  /-- The chain of the file itself. -/
  | start : Chain scans own root 0 root
  /-- One more step. -/
  | step {n : Nat} {owner file : String} : Chain scans own root n owner → Owns own owner file →
      file ∈ scans.keys → Chain scans own root (n + 1) file

/-- The roots are the scanned files that nobody owns, or the first file if all are owned. -/
def IsRoot (scans : Scans) (own : Ownership) (file : String) : Prop :=
  (file ∈ scans.keys ∧ ∀ owner, ¬ Owns own owner file) ∨
    ((∀ f ∈ scans.keys, ∃ owner, Owns own owner f) ∧ scans.keys.head? = some file)

/-- The level of a file below a root: the number of files on a shortest chain from the root. -/
def OnLevel (scans : Scans) (own : Ownership) (root file : String) (level : Nat) : Prop :=
  ∃ n, IsLeast {k | Chain scans own root k file} n ∧ level = n + 1

theorem OnLevel.eq {file : String} {l l' : Nat} (h : OnLevel scans own root file l)
    (h' : OnLevel scans own root file l') : l = l' := by
  obtain ⟨n, hn, rfl⟩ := h
  obtain ⟨n', hn', rfl⟩ := h'
  rw [hn.unique hn']

theorem onLevel_root : OnLevel scans own root root 1 :=
  ⟨0, ⟨.start, fun _ _ => Nat.zero_le _⟩, rfl⟩

/-! ## What the definitions compute -/

theorem mem_edges {owner file : String} : (owner, file) ∈ edges own ↔ Owns own owner file := by
  simp only [edges, List.mem_flatMap, List.mem_filterMap, Option.map_eq_some_iff, givenFile?,
    Option.filter_eq_some_iff, Prod.mk.injEq, Owns]
  constructor
  · rintro ⟨⟨_, owned⟩, howned, entry, hentry, _, ⟨hsource, hname⟩, rfl, rfl⟩
    exact ⟨owned, howned, entry, hentry, hsource, by simpa using hname⟩
  · rintro ⟨owned, howned, entry, hentry, hsource, hname⟩
    exact ⟨_, howned, entry, hentry, file, ⟨hsource, by simpa using hname⟩, rfl, rfl⟩

theorem mem_keys_iff_has {file : String} : file ∈ scans.keys ↔ scans.has file = true := by
  simp [Table.keys, Table.has]

theorem mem_childrenOf {file child : String} :
    child ∈ childrenOf scans own file ↔ Owns own file child ∧ child ∈ scans.keys := by
  simp only [childrenOf, List.mem_map, List.mem_filter, Bool.and_eq_true, beq_iff_eq,
    ← mem_keys_iff_has]
  constructor
  · rintro ⟨⟨_, _⟩, ⟨hedge, rfl, hscanned⟩, rfl⟩
    exact ⟨mem_edges.mp hedge, hscanned⟩
  · rintro ⟨howns, hscanned⟩
    exact ⟨(file, child), ⟨mem_edges.mpr howns, rfl, hscanned⟩, rfl⟩

/-- The roots that are listed are the roots. -/
theorem mem_roots {file : String} : file ∈ roots scans own ↔ IsRoot scans own file := by
  have howned (f : String) : (edges own).any (fun e => e.2 == f) = true ↔
      ∃ owner, Owns own owner f := by
    simp only [List.any_eq_true, beq_iff_eq, ← mem_edges, Prod.exists, exists_eq_right]
  have hfree (f : String) : f ∈ scans.keys.filter (fun f => !(edges own).any (·.2 == f)) ↔
      f ∈ scans.keys ∧ ∀ owner, ¬ Owns own owner f := by
    rw [List.mem_filter, Bool.not_eq_true', ← Bool.not_eq_true, howned, not_exists]
  have hempty : (scans.keys.filter (fun f => !(edges own).any (·.2 == f))).isEmpty = true ↔
      ∀ f ∈ scans.keys, ∃ owner, Owns own owner f := by
    simp only [List.isEmpty_iff, List.filter_eq_nil_iff, Bool.not_eq_true', Bool.not_eq_false,
      howned]
  rw [roots, IsRoot]
  split
  next h =>
      have hall := hempty.mp h
      have hnone : ¬ (file ∈ scans.keys ∧ ∀ owner, ¬ Owns own owner file) :=
        fun hfile => (hall file hfile.1).elim hfile.2
      rw [or_iff_right hnone, and_iff_right hall, List.take_one, Option.mem_toList]
  next h =>
      rw [hfree, or_iff_left fun hall => h (hempty.mpr hall.1)]

theorem exists_isRoot (hne : scans ≠ []) : ∃ file, IsRoot scans own file := by
  by_cases hall : ∀ f ∈ scans.keys, ∃ owner, Owns own owner f
  · obtain ⟨e, rest, rfl⟩ := List.exists_cons_of_ne_nil hne
    exact ⟨e.1, .inr ⟨hall, rfl⟩⟩
  · push Not at hall
    obtain ⟨file, hscanned, hfree⟩ := hall
    exact ⟨file, .inl ⟨hscanned, hfree⟩⟩

/-! ## What a search keeps -/

/-- What holds of a search from a root.  `before` are the levels that were met before it started. -/
structure Searching (scans : Scans) (own : Ownership) (root : String) (before : Set Nat)
    (left : List String) (best : Nat) (queue : List (String × Nat)) : Prop where
  /-- The root has been left or waits. -/
  root_mem : root ∈ left ∨ (root, 1) ∈ queue
  /-- A file waits at the end of a chain. -/
  chain : ∀ e ∈ queue, ∃ n, Chain scans own root n e.1 ∧ e.2 = n + 1
  /-- The levels of the queue ascend. -/
  ascending : queue.Pairwise fun e f => e.2 ≤ f.2
  /-- The levels of the queue differ by one at most. -/
  close : ∀ e ∈ queue, ∀ f ∈ queue, f.2 ≤ e.2 + 1
  /-- What is owned by a file that has been left was left too, or waits one level below. -/
  children : ∀ file ∈ left, ∀ child ∈ childrenOf scans own file, child ∈ left ∨
    ∃ level, (child, level) ∈ queue ∧ ∀ n, Chain scans own root n file → level ≤ n + 2
  /-- The deepest level so far. -/
  best : IsGreatest (before ∪ {level | ∃ file ∈ left, OnLevel scans own root file level}) best

namespace Searching

variable {before : Set Nat} {left : List String} {best level : Nat} {file : String}
  {queue : List (String × Nat)}

/-- The search starts with the root on level one. -/
theorem start (h : IsGreatest before best) :
    Searching scans own root before [] best [(root, 1)] where
  root_mem := .inr List.mem_cons_self
  chain := by
    intro e he
    rw [List.mem_singleton.mp he]
    exact ⟨0, .start, rfl⟩
  ascending := List.pairwise_singleton _ _
  close := by simp
  children := by simp
  best := by simpa using h

/-- The end of a chain has been left, unless a file waits on no deeper level. -/
theorem left_or_waits (h : Searching scans own root before left best queue) {n : Nat}
    (hchain : Chain scans own root n file) : file ∈ left ∨ ∃ e ∈ queue, e.2 ≤ n + 1 := by
  induction hchain with
  | start => exact h.root_mem.imp_right fun hwaits => ⟨_, hwaits, le_rfl⟩
  | @step n owner file hchain howns hscanned ih =>
      rcases ih with hleft | ⟨e, he, hle⟩
      · rcases h.children owner hleft file (mem_childrenOf.mpr ⟨howns, hscanned⟩) with
          hfile | ⟨level, hwaits, hlevel⟩
        · exact .inl hfile
        · exact .inr ⟨_, hwaits, hlevel n hchain⟩
      · exact .inr ⟨e, he, hle.trans (by omega)⟩

/-- At its first turn a file has its least level. -/
theorem onLevel_of_first (h : Searching scans own root before left best ((file, level) :: queue))
    (hnew : file ∉ left) : OnLevel scans own root file level := by
  obtain ⟨n, hchain, hlevel⟩ := h.chain _ List.mem_cons_self
  refine ⟨n, ⟨hchain, fun k hk => ?_⟩, hlevel⟩
  obtain ⟨e, he, hle⟩ := (h.left_or_waits hk).resolve_left hnew
  have hfirst : level ≤ e.2 := by
    rcases List.mem_cons.mp he with rfl | he
    · exact le_rfl
    · exact List.rel_of_pairwise_cons h.ascending he
  dsimp only at hlevel
  omega

/-- What was left or waits behind a file still is, once that file counts as left. -/
theorem passed {child : String} {l : Nat} {left' : List String} (hfile : file ∈ left')
    (hwaits : (child, l) ∈ (file, level) :: queue) : child ∈ left' ∨ (child, l) ∈ queue := by
  rcases List.mem_cons.mp hwaits with heq | hwaits
  · obtain ⟨rfl, -⟩ := Prod.mk.inj heq
    exact .inl hfile
  · exact .inr hwaits

/-- A file that was left before is passed over. -/
theorem skip (h : Searching scans own root before left best ((file, level) :: queue))
    (hleft : file ∈ left) : Searching scans own root before left best queue where
  root_mem := h.root_mem.elim .inl (passed hleft)
  chain := fun e he => h.chain e (List.mem_cons_of_mem _ he)
  ascending := h.ascending.of_cons
  close := fun e he f hf => h.close e (List.mem_cons_of_mem _ he) f (List.mem_cons_of_mem _ hf)
  children := by
    intro owner howner child hchild
    rcases h.children owner howner child hchild with hdone | ⟨l, hwaits, hlevel⟩
    · exact .inl hdone
    · exact (passed hleft hwaits).imp_right fun hwaits => ⟨l, hwaits, hlevel⟩
  best := h.best

/-- A file that is left is on its level, and the files that it owns wait one level below. -/
theorem leave {more : List (String × Nat)}
    (h : Searching scans own root before left best ((file, level) :: queue)) (hnew : file ∉ left)
    (hmore : ∀ e ∈ more, e.1 ∈ childrenOf scans own file ∧ e.2 = level + 1)
    (hall : ∀ child ∈ childrenOf scans own file,
      child ∈ file :: left ∨ (child, level + 1) ∈ more) :
    Searching scans own root before (file :: left) (max best level) (queue ++ more) := by
  have honLevel := h.onLevel_of_first hnew
  obtain ⟨least, hleast, hlevel⟩ := id honLevel
  have hrange : ∀ e ∈ queue ++ more, level ≤ e.2 ∧ e.2 ≤ level + 1 := by
    intro e he
    rcases List.mem_append.mp he with he | he
    · exact ⟨List.rel_of_pairwise_cons h.ascending he,
        h.close _ List.mem_cons_self e (List.mem_cons_of_mem _ he)⟩
    · have := (hmore e he).2
      omega
  constructor
  case root_mem =>
    rcases h.root_mem with hroot | hwaits
    · exact .inl (List.mem_cons_of_mem _ hroot)
    · exact (passed List.mem_cons_self hwaits).imp_right (List.mem_append_left _)
  case chain =>
    intro e he
    rcases List.mem_append.mp he with he | he
    · exact h.chain e (List.mem_cons_of_mem _ he)
    · obtain ⟨hchild, hbelow⟩ := hmore e he
      obtain ⟨howns, hscanned⟩ := mem_childrenOf.mp hchild
      exact ⟨least + 1, .step hleast.1 howns hscanned, by omega⟩
  case ascending =>
    refine List.pairwise_append.mpr ⟨h.ascending.of_cons, ?_, ?_⟩
    · refine List.pairwise_of_forall_mem_list fun e he f hf => ?_
      rw [(hmore e he).2, (hmore f hf).2]
    · intro e he f hf
      rw [(hmore f hf).2]
      exact (hrange e (List.mem_append_left _ he)).2
  case close =>
    intro e he f hf
    have := (hrange e he).1
    have := (hrange f hf).2
    omega
  case children =>
    intro owner howner child hchild
    rcases List.mem_cons.mp howner with rfl | howner
    · refine (hall child hchild).imp_right fun hwaits =>
        ⟨level + 1, List.mem_append_right _ hwaits, fun n hchain => ?_⟩
      have := hleast.2 hchain
      omega
    · rcases h.children owner howner child hchild with hdone | ⟨l, hwaits, hl⟩
      · exact .inl (List.mem_cons_of_mem _ hdone)
      · exact (passed List.mem_cons_self hwaits).imp_right fun hwaits =>
          ⟨l, List.mem_append_left _ hwaits, hl⟩
  case best =>
    have hset : before ∪ {l | ∃ f ∈ file :: left, OnLevel scans own root f l} =
        insert level (before ∪ {l | ∃ f ∈ left, OnLevel scans own root f l}) := by
      have hlevels : {l | OnLevel scans own root file l} = {level} :=
        Set.ext fun l => ⟨fun hl => hl.eq honLevel, fun hl => hl ▸ honLevel⟩
      simp only [List.mem_cons, exists_eq_or_imp, Set.ofPred_or, hlevels]
      rw [Set.union_left_comm, Set.singleton_union]
    rw [hset, max_comm]
    exact h.best.insert level

/-- When nothing waits, every level has been met. -/
theorem isGreatest_of_nil (h : Searching scans own root before left best []) :
    IsGreatest (before ∪ {level | ∃ file, OnLevel scans own root file level}) best := by
  have hleft {f : String} {l : Nat} (hl : OnLevel scans own root f l) : f ∈ left := by
    obtain ⟨n, hleast, -⟩ := hl
    exact (h.left_or_waits hleast.1).resolve_right (by simp)
  have hset : {l | ∃ f ∈ left, OnLevel scans own root f l} =
      {l | ∃ f, OnLevel scans own root f l} :=
    Set.ext fun l => exists_congr fun f => and_iff_right_of_imp hleft
  exact hset ▸ h.best

/-- A search finds the deepest of the levels met before and of those below its root. -/
theorem isGreatest_deepestFrom (h : Searching scans own root before left best queue) :
    IsGreatest (before ∪ {level | ∃ file, OnLevel scans own root file level})
      (deepestFrom scans own left best queue) := by
  fun_induction deepestFrom scans own left best queue with
  | case1 left best => exact h.isGreatest_of_nil
  | case2 left best file level queue hleft ih => exact ih (h.skip (by simpa using hleft))
  | case3 left best file level queue hnew below ih =>
      refine ih (h.leave (by simpa using hnew) ?_ ?_)
      · intro e he
        obtain ⟨child, hchild, rfl⟩ := List.mem_map.mp he
        exact ⟨(List.mem_filter.mp hchild).1, rfl⟩
      · intro child hchild
        by_cases hdone : child ∈ file :: left
        · exact .inl hdone
        · have hbelow : child ∈ below := List.mem_filter.mpr ⟨hchild, by simpa using hdone⟩
          exact .inr (List.mem_map_of_mem hbelow)

end Searching

/-! ## The depth -/

/-- Searches from several roots find the deepest of all levels. -/
theorem isGreatest_foldl {before : Set Nat} {best : Nat} (files : List String)
    (h : IsGreatest before best) :
    IsGreatest (before ∪ {level | ∃ root ∈ files, ∃ file, OnLevel scans own root file level})
      (files.foldl (fun best root => deepestFrom scans own [] best [(root, 1)]) best) := by
  induction files generalizing before best with
  | nil => simpa using h
  | cons root files ih =>
      have hfirst : Searching scans own root before [] best [(root, 1)] := .start h
      rw [List.foldl_cons]
      simp only [List.mem_cons, exists_eq_or_imp, Set.ofPred_or, ← Set.union_assoc]
      exact ih hfirst.isGreatest_deepestFrom

/-- The depth of the ownership is the deepest level of a file below a root.  Circles do not
matter. -/
theorem isGreatest_depth (scans : Scans) (own : Ownership) (hne : scans ≠ []) :
    IsGreatest {level | ∃ root file, IsRoot scans own root ∧ OnLevel scans own root file level}
      (depth scans own) := by
  obtain ⟨first, hfirst⟩ := exists_isRoot hne
  have hset : {1} ∪ {level | ∃ root ∈ roots scans own, ∃ file, OnLevel scans own root file level} =
      {level | ∃ root file, IsRoot scans own root ∧ OnLevel scans own root file level} := by
    simp only [mem_roots, exists_and_left]
    refine Set.union_eq_self_of_subset_left (Set.singleton_subset_iff.mpr ?_)
    exact ⟨first, hfirst, first, onLevel_root⟩
  rw [← hset]
  exact isGreatest_foldl (roots scans own) isGreatest_singleton

/-- Two files own each other, one of them twice and the other one itself too, and a third is owned
by both and by a file that was not scanned.  Nobody is left to start from, so the search starts at
the first file. -/
def ring : Scans × Ownership :=
  let object (source : String) : Owned := ⟨['C'], some source, 1, none⟩
  ([("b.js", {}), ("a.js", {}), ("c.js", {})],
    [("a.js", [(['x'], object "b.js"), (['y'], object "b.js"), (['z'], object "c.js")]),
      ("b.js", [(['x'], object "b.js"), (['y'], object "a.js"), (['z'], object "d.js")]),
      ("d.js", [(['x'], object "c.js")])])

theorem isGreatest_depth_ring :
    depth ring.1 ring.2 = 3 ∧ IsGreatest {level | ∃ root file,
      IsRoot ring.1 ring.2 root ∧ OnLevel ring.1 ring.2 root file level} (depth ring.1 ring.2) :=
  ⟨by decide +kernel, isGreatest_depth ring.1 ring.2 (by decide)⟩

end ExtensionAudit.Resource
