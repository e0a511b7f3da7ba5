import Mathlib
import ExtensionAudit.Proofs.Path
import ExtensionAudit.Proofs.Volume.Down
import ExtensionAudit.Proofs.Volume.Hidden

/-!
# File name patterns in trees without links

A pattern is matched component by component: each text that the components so far match is a
directory in which the next component looks for names.  In a tree without links, what a component
finds in a directory is a list that can be read off the directory's entry (`map_namesIn`), so the
bound on the depth of `**` does not show.

The second part compares a tree with what is left of it when entries are hidden.  `Screens` is a
test on paths that fails wherever something hidden stands on the way.  Up to paths that fail it, a
pattern matches the same texts in both trees, in the same order (`filter_matchesFrom_without`):
this holds of one component, and goes on from there by induction on the components.
-/

namespace ExtensionAudit

open Glob (joinText pathOf isPattern isHidden isRecursive matchName)

/-- To keep some elements and map them is to map each to one element or none. -/
theorem map_filter_eq_flatMap {α β : Type} (p : α → Bool) (f : α → β) (xs : List α) :
    (xs.filter p).map f = xs.flatMap fun x => if p x then [f x] else [] := by
  induction xs with
  | nil => rfl
  | cons x xs ih =>
      rw [List.filter_cons, List.flatMap_cons, ← ih]
      split <;> rfl

/-! ## What `**` stands for -/

mutual

/-- The path texts below the directory of a text, a directory before what lies below it. -/
def Entry.textsBelow (dirsOnly : Bool) (dir : Text) : Entry → List Text
  | .dir es => textsBelowAll dirsOnly dir es
  | .file .. | .unreadable | .link _ => []

/-- The path texts of entries in the directory of a text, each with those below it. -/
def textsBelowAll (dirsOnly : Bool) (dir : Text) : List (String × Entry) → List Text
  | [] => []
  | (name, e) :: rest =>
      (if isHidden name.toList || (dirsOnly && !e.isDir) then []
        else joinText dir name.toList :: e.textsBelow dirsOnly (joinText dir name.toList)) ++
        textsBelowAll dirsOnly dir rest

end

namespace Entry

variable {dirsOnly : Bool} {dir : Text} {d : Entry}

/-- What lies below a directory are its entries and what lies below them. -/
theorem textsBelow_eq : d.textsBelow dirsOnly dir = d.entries.flatMap fun x =>
    if isHidden x.1.toList || (dirsOnly && !x.2.isDir) then []
    else joinText dir x.1.toList :: x.2.textsBelow dirsOnly (joinText dir x.1.toList) := by
  have hall : ∀ es, textsBelowAll dirsOnly dir es = es.flatMap fun x =>
      if isHidden x.1.toList || (dirsOnly && !x.2.isDir) then []
      else joinText dir x.1.toList :: x.2.textsBelow dirsOnly (joinText dir x.1.toList) := by
    intro es
    induction es with
    | nil => rfl
    | cons x es ih => rw [textsBelowAll, List.flatMap_cons, ih]
  cases d with
  | dir es => exact hall es
  | file | unreadable | link => rfl

/-- The texts below a directory are those of paths below its own. -/
theorem of_mem_textsBelow (hd : d.isSound = true) {t : Text} (h : t ∈ d.textsBelow dirsOnly dir) :
    ∃ q : Path, q.Proper ∧ pathOf t = pathOf dir ++ q := by
  induction d using Entry.inductionOn generalizing dir with
  | _ d ih =>
      rw [textsBelow_eq, List.mem_flatMap] at h
      obtain ⟨⟨c, e⟩, hc, ht⟩ := h
      obtain ⟨hname, hsound⟩ := isSound_of_mem hd hc
      have hpath := Glob.pathOf_joinText_name hname dir
      split at ht
      next => cases ht
      next =>
        rcases List.mem_cons.mp ht with rfl | hbelow
        · exact ⟨[c], Path.proper_singleton.mpr hname, hpath⟩
        · obtain ⟨q, hq, heq⟩ := ih c e hc hsound hbelow
          refine ⟨c :: q, List.forall_mem_cons.mpr ⟨hname, hq⟩, ?_⟩
          rw [heq, hpath, List.append_assoc, List.singleton_append]

/-- The names in a directory that a component matches, each as a path text. -/
def textsMatching (dirsOnly : Bool) (component dir : Text) (d : Entry) : List Text :=
  d.entries.flatMap fun x =>
    if (isHidden component || !isHidden x.1.toList) && matchName component x.1.toList &&
        (!dirsOnly || x.2.isDir) then [joinText dir x.1.toList] else []

/-- What matches in a directory lies in it. -/
theorem of_mem_textsMatching (hd : d.isSound = true) {component t : Text}
    (h : t ∈ d.textsMatching dirsOnly component dir) :
    ∃ q : Path, q.Proper ∧ pathOf t = pathOf dir ++ q := by
  obtain ⟨⟨c, e⟩, hc, ht⟩ := List.mem_flatMap.mp h
  have hname := (isSound_of_mem hd hc).1
  split at ht
  next =>
    cases List.mem_singleton.mp ht
    exact ⟨[c], Path.proper_singleton.mpr hname, Glob.pathOf_joinText_name hname dir⟩
  next => cases ht

/-- What names lead to, or an entry with nothing in it. -/
def reach (d : Entry) (q : Path) : Entry := (d.under q).toOption.getD .unreadable

theorem found_of_plain {q : Path} (hq : q.Plain) (d : Entry) : d.found q = d.reach q := by
  rw [found, reach, along_of_plain hq]

end Entry

/-! ## What one component finds -/

namespace Volume.Stands

variable {v : Volume} {start q : Path} {e : Entry} {dirsOnly recursive : Bool}
  {dir component : Text}

/-- What a name in a directory leads to is the entry that is listed under it. -/
theorem isDir_joinText (h : v.Stands start e) (he : e.isSound = true) (hq : q.Descends)
    (hdir : pathOf dir = start ++ q) {x : String × Entry} (hx : x ∈ (e.found q).entries) :
    v.isDir (pathOf (joinText dir x.1.toList)) = x.2.isDir := by
  have hname := (Entry.isSound_of_mem (Entry.isSound_found he q) hx).1
  have hnext : Path.Descends (q ++ [x.1]) :=
    Path.descends_append.mpr ⟨hq, (Path.proper_singleton.mpr hname).plain.descends⟩
  rw [Glob.pathOf_joinText_name hname, hdir, List.append_assoc, h.isDir_eq_found hnext,
    Entry.found_append_singleton he hx]

/-- A name behind the text of a path in the tree is one more name on the way. -/
theorem extend (hq : q.Descends) (hdir : pathOf dir = start ++ q) {c : String}
    (hc : Path.isProper c = true) :
    Path.Descends (q ++ [c]) ∧ pathOf (joinText dir c.toList) = start ++ (q ++ [c]) := by
  constructor
  · exact Path.descends_append.mpr ⟨hq, (Path.proper_singleton.mpr hc).plain.descends⟩
  · rw [Glob.pathOf_joinText_name hc, hdir, List.append_assoc]

theorem below_succ (h : v.Stands start e) (he : e.isSound = true) (hq : q.Descends)
    (hdir : pathOf dir = start ++ q) (fuel : Nat) :
    Glob.below v dirsOnly (fuel + 1) dir = (e.found q).entries.flatMap fun x =>
      if isHidden x.1.toList || (dirsOnly && !x.2.isDir) then []
      else x.1.toList :: (Glob.below v dirsOnly fuel (joinText dir x.1.toList)).map
        (joinText x.1.toList) := by
  rw [Glob.below, hdir, h.names_eq_found hq, List.flatMap_map]
  refine List.flatMap_congr fun x hx => ?_
  simp only [h.isDir_joinText he hq hdir hx]

/-- What `**` finds are names, and not texts of absolute paths. -/
theorem head?_of_mem_below (h : v.Stands start e) (he : e.isSound = true) (hq : q.Descends)
    (hdir : pathOf dir = start ++ q) {fuel : Nat} {y : Text}
    (hy : y ∈ Glob.below v dirsOnly fuel dir) : y.head? ≠ some '/' := by
  induction fuel generalizing dir q y with
  | zero => cases hy
  | succ fuel ih =>
      rw [h.below_succ he hq hdir, List.mem_flatMap] at hy
      obtain ⟨x, hx, hy⟩ := hy
      have hname := (Entry.isSound_of_mem (Entry.isSound_found he q) hx).1
      have hslash := Path.slash_notMem_of_isProper hname
      obtain ⟨hnext, hpath⟩ := extend hq hdir hname
      split at hy
      next => cases hy
      next =>
        rcases List.mem_cons.mp hy with rfl | hbelow
        · exact Glob.head?_ne_slash hslash
        · obtain ⟨z, hz, rfl⟩ := List.mem_map.mp hbelow
          exact Glob.head?_joinText hslash (Path.toList_ne_nil hname) (ih hnext hpath hz)

/-- With a bound that is no less than the depth, the bound does not show. -/
theorem map_below (h : v.Stands start e) (he : e.isSound = true) (hq : q.Descends)
    (hdir : pathOf dir = start ++ q) {fuel : Nat} (hfuel : (e.found q).depth ≤ fuel) :
    (Glob.below v dirsOnly fuel dir).map (joinText dir) = (e.found q).textsBelow dirsOnly dir := by
  induction fuel generalizing dir q with
  | zero =>
      cases hx : e.found q with
      | dir es =>
          rw [hx, Entry.depth] at hfuel
          omega
      | file | unreadable | link => rfl
  | succ fuel ih =>
      rw [h.below_succ he hq hdir, Entry.textsBelow_eq, List.map_flatMap]
      refine List.flatMap_congr fun x hx => ?_
      have hname := (Entry.isSound_of_mem (Entry.isSound_found he q) hx).1
      have hslash := Path.slash_notMem_of_isProper hname
      obtain ⟨hnext, hpath⟩ := extend hq hdir hname
      have hfound := Entry.found_append_singleton he hx
      have hdepth : (e.found (q ++ [x.1])).depth ≤ fuel := by
        rw [hfound]
        exact Nat.le_of_lt_succ ((Entry.depth_lt_of_mem_entries hx).trans_le hfuel)
      split
      next => rfl
      next =>
        rw [List.map_cons, List.map_map, ← hfound, ← ih hnext hpath hdepth]
        congr 1
        refine List.map_congr_left fun y hy => ?_
        exact Glob.joinText_assoc hslash (Path.toList_ne_nil hname)
          (h.head?_of_mem_below he hnext hpath hy) dir

/-- What a component finds in a directory can be read off the directory's entry, unless the
component is a name or dots. -/
theorem map_namesIn (h : v.Stands start e) (he : e.isSound = true) (hq : q.Descends)
    (hdir : pathOf dir = start ++ q) :
    (Glob.namesIn v recursive dirsOnly dir component).map (joinText dir) =
      if !isPattern component then
        if component.isEmpty then (if (e.found q).isDir then [joinText dir component] else [])
        else if v.exists? (pathOf (joinText dir component)) then [joinText dir component] else []
      else if recursive && isRecursive component then
        joinText dir [] :: (e.found q).textsBelow dirsOnly dir
      else (e.found q).textsMatching dirsOnly component dir := by
  have hdepth : (e.found q).depth ≤ (Volume.linkBound + 1) * (v.root.depth + 1) := by
    have hbase := Entry.depth_of_under h.under_base
    have hfound := Entry.depth_found_le e q
    rw [Volume.linkBound]
    omega
  rw [Glob.namesIn]
  split
  next =>
    rw [hdir, h.isDir_eq_found hq]
    split <;> split <;> rfl
  next =>
    split
    next => rw [List.map_cons, h.map_below he hq hdir hdepth]
    next =>
      rw [hdir, h.names_eq_found hq, List.map_map, List.filter_map, List.map_map,
        Entry.textsMatching, ← map_filter_eq_flatMap]
      congr 1
      refine List.filter_congr fun x hx => ?_
      have hchild := h.isDir_joinText he hq hdir hx
      simp only [Function.comp_apply, hchild]

/-- The texts that a component finds lie at or below the directory, or are made of a name or
dots. -/
theorem of_mem_namesIn (h : v.Stands start e) (he : e.isSound = true) (hq : q.Descends)
    (hdir : pathOf dir = start ++ q) (hc : '/' ∉ component) {t : Text}
    (ht : t ∈ (Glob.namesIn v recursive dirsOnly dir component).map (joinText dir)) :
    ∃ r : Path, pathOf t = pathOf dir ++ r ∧
      (r.Plain ∨ component ≠ [] ∧ r = [String.ofList component]) := by
  have hsound := Entry.isSound_found he q
  have hhere : pathOf (joinText dir []) = pathOf dir ++ [] := Glob.pathOf_joinText (by simp) dir
  rw [h.map_namesIn he hq hdir] at ht
  split at ht
  next =>
    split at ht
    next hempty =>
      rw [List.isEmpty_iff] at hempty
      subst hempty
      split at ht
      next =>
        cases List.mem_singleton.mp ht
        exact ⟨[], hhere, .inl Path.plain_nil⟩
      next => cases ht
    next hne =>
      rw [List.isEmpty_iff] at hne
      split at ht
      next =>
        cases List.mem_singleton.mp ht
        refine ⟨_, ?_, .inr ⟨hne, rfl⟩⟩
        rw [Glob.pathOf_joinText (Glob.head?_ne_slash hc), Glob.pathOf_of_notMem hc hne]
      next => cases ht
  next =>
    split at ht
    next =>
      rcases List.mem_cons.mp ht with rfl | hbelow
      · exact ⟨[], hhere, .inl Path.plain_nil⟩
      · obtain ⟨r, hr, heq⟩ := Entry.of_mem_textsBelow hsound hbelow
        exact ⟨r, heq, .inl hr.plain⟩
    next =>
      obtain ⟨r, hr, heq⟩ := Entry.of_mem_textsMatching hsound ht
      exact ⟨r, heq, .inl hr.plain⟩

end Volume.Stands

/-! ## What a component finds when entries are hidden -/

theorem filter_ite_singleton {seen : Path → Bool} {t : Text} (h : seen (pathOf t) = false)
    (b : Bool) : (if b then [t] else []).filter (fun t => seen (pathOf t)) = [] := by
  cases b <;> simp [h]

/-- The test fails for all paths on which something hidden stands. -/
structure Screens (hides : Path → Entry → Bool) (seen : Path → Bool) : Prop where
  /-- What lies below a path that fails fails too. -/
  of_append : ∀ p q, seen (p ++ q) = true → seen p = true
  /-- Hidden entries fail. -/
  hides_eq_false : ∀ p c e, seen (p ++ [c]) = true → hides (p ++ [c]) e = false

namespace Screens

variable {hides : Path → Entry → Bool} {seen : Path → Bool} {here q : Path} {d e : Entry}
  {dirsOnly : Bool} {dir component : Text}

/-- On the way to a path that passes nothing is hidden. -/
theorem shows (h : Screens hides seen) (hq : seen (here ++ q) = true) :
    Entry.Shows hides here d q := by
  intro p x hp hpre _
  obtain ⟨rest, rfl⟩ := hpre
  obtain ⟨front, c, rfl⟩ := (List.eq_nil_or_concat' p).resolve_left hp
  rw [← List.append_assoc, ← List.append_assoc] at hq
  rw [← List.append_assoc]
  exact h.hides_eq_false _ _ _ (h.of_append _ _ hq)

/-- A list of texts below a path that fails has none that passes. -/
theorem filter_eq_nil (h : Screens hides seen) {p : Path} (hp : seen p = false) {ts : List Text}
    (hts : ∀ t ∈ ts, ∃ r, pathOf t = p ++ r) : ts.filter (fun t => seen (pathOf t)) = [] := by
  refine List.filter_eq_nil_iff.mpr fun t ht hseen => ?_
  obtain ⟨r, hr⟩ := hts t ht
  rw [hr] at hseen
  rw [h.of_append _ _ hseen] at hp
  cases hp

/-- Below a directory, `**` finds the same texts that pass. -/
theorem filter_textsBelow_without (h : Screens hides seen) (hd : d.isSound = true) :
    ((d.without hides (pathOf dir)).textsBelow dirsOnly dir).filter (fun t => seen (pathOf t)) =
      (d.textsBelow dirsOnly dir).filter fun t => seen (pathOf t) := by
  induction d using Entry.inductionOn generalizing dir with
  | _ d ih =>
      rw [Entry.textsBelow_eq, Entry.textsBelow_eq, Entry.entries_without, flatMap_withoutAll,
        List.filter_flatMap, List.filter_flatMap]
      refine List.flatMap_congr fun x hx => ?_
      obtain ⟨c, e⟩ := x
      obtain ⟨hname, hsound⟩ := Entry.isSound_of_mem hd hx
      have hpath := Glob.pathOf_joinText_name hname dir
      cases hseen : seen (pathOf dir ++ [c]) with
      | true =>
          have hbelow := @ih c e hx (joinText dir c.toList) hsound
          rw [hpath] at hbelow
          simp only [h.hides_eq_false _ _ e hseen, Entry.isDir_without, Bool.false_eq_true,
            if_false]
          split
          next => rfl
          next => rw [List.filter_cons, List.filter_cons, hbelow]
      | false =>
          -- All texts of this entry lie below its path, in either tree.
          have hnone : ∀ y : Entry, y.isSound = true →
              (if isHidden c.toList || (dirsOnly && !y.isDir) then []
                else joinText dir c.toList :: y.textsBelow dirsOnly (joinText dir c.toList)).filter
                  (fun t => seen (pathOf t)) = [] := by
            intro y hy
            split
            next => rfl
            next =>
              refine h.filter_eq_nil hseen (List.forall_mem_cons.mpr ⟨⟨[], ?_⟩, fun t ht => ?_⟩)
              · rw [hpath, List.append_nil]
              · obtain ⟨r, -, heq⟩ := Entry.of_mem_textsBelow hy ht
                exact ⟨r, hpath ▸ heq⟩
          rw [hnone e hsound]
          split
          next => rfl
          next => exact hnone _ (Entry.isSound_without hsound)

/-- In a directory, a component finds the same texts that pass. -/
theorem filter_textsMatching_without (h : Screens hides seen) (hd : d.isSound = true) :
    ((d.without hides (pathOf dir)).textsMatching dirsOnly component dir).filter
        (fun t => seen (pathOf t)) =
      (d.textsMatching dirsOnly component dir).filter fun t => seen (pathOf t) := by
  rw [Entry.textsMatching, Entry.textsMatching, Entry.entries_without, flatMap_withoutAll,
    List.filter_flatMap, List.filter_flatMap]
  refine List.flatMap_congr fun x hx => ?_
  obtain ⟨c, e⟩ := x
  have hpath := Glob.pathOf_joinText_name (Entry.isSound_of_mem hd hx).1 dir
  cases hseen : seen (pathOf dir ++ [c]) with
  | true =>
      simp only [h.hides_eq_false _ _ e hseen, Entry.isDir_without, Bool.false_eq_true, if_false]
  | false =>
      have hnot : seen (pathOf (joinText dir c.toList)) = false := hpath ▸ hseen
      rw [filter_ite_singleton hnot]
      split
      next => rfl
      next => exact filter_ite_singleton hnot _

/-- Names that pass lead to the same entry, less what is hidden in it. -/
theorem reach_without (h : Screens hides seen) (he : e.isSound = true)
    (hq : seen (here ++ q) = true) :
    (e.without hides here).reach q = (e.reach q).without hides (here ++ q) := by
  rw [Entry.reach, Entry.reach, Entry.under_without he (h.shows hq)]
  cases e.under q <;> rfl

variable {v w : Volume} {start : Path} {recursive : Bool}

/-- A name or dots behind a path that passes exist in both trees or in none, if they pass. -/
theorem exists?_without (h : Screens hides seen) (hv : v.Stands start e)
    (hw : w.Stands start (e.without hides start)) (he : e.isSound = true) (hq : q.Plain)
    (hdir : seen (start ++ q) = true) {c : String} (hc : c ≠ "")
    (hseen : seen (start ++ q ++ [c]) = true) :
    w.exists? (start ++ q ++ [c]) = v.exists? (start ++ q ++ [c]) := by
  by_cases hdots : c = "." ∨ c = ".."
  · rw [hw.exists?_dots hq hdots, hv.exists?_dots hq hdots, hw.isDir_eq_found hq.descends,
      hv.isDir_eq_found hq.descends, Entry.found_of_plain hq, Entry.found_of_plain hq,
      h.reach_without he hdir, Entry.isDir_without]
  · have hname : Path.IsName c := ⟨hc, fun h => hdots (.inl h), fun h => hdots (.inr h)⟩
    have hplain : Path.Plain (q ++ [c]) :=
      Path.plain_append.mpr ⟨hq, Path.plain_singleton.mpr hname⟩
    rw [List.append_assoc] at hseen ⊢
    rw [hw.exists?_append hplain, hv.exists?_append hplain, Entry.under_without he (h.shows hseen)]
    cases e.under (q ++ [c]) <;> rfl

/-- In a directory that passes, a component finds the same texts that pass. -/
theorem filter_namesIn_without (h : Screens hides seen) (hv : v.Stands start e)
    (hw : w.Stands start (e.without hides start)) (he : e.isSound = true) (hq : q.Plain)
    (hdir : pathOf dir = start ++ q) (hseen : seen (pathOf dir) = true) (hc : '/' ∉ component) :
    ((Glob.namesIn w recursive dirsOnly dir component).map (joinText dir)).filter
        (fun t => seen (pathOf t)) =
      ((Glob.namesIn v recursive dirsOnly dir component).map (joinText dir)).filter
        fun t => seen (pathOf t) := by
  have hsound := Entry.isSound_found he q
  have hfound : (e.without hides start).found q = (e.found q).without hides (pathOf dir) := by
    rw [hdir, Entry.found_of_plain hq, Entry.found_of_plain hq]
    exact h.reach_without he (hdir ▸ hseen)
  rw [hw.map_namesIn (Entry.isSound_without he) hq.descends hdir,
    hv.map_namesIn he hq.descends hdir, hfound, Entry.isDir_without]
  split
  next =>
    split
    next => rfl
    next hne =>
      rw [List.isEmpty_iff] at hne
      cases hpasses : seen (pathOf (joinText dir component)) with
      | false => rw [filter_ite_singleton hpasses, filter_ite_singleton hpasses]
      | true =>
          have hpath :
              pathOf (joinText dir component) = start ++ q ++ [String.ofList component] := by
            rw [Glob.pathOf_joinText (Glob.head?_ne_slash hc), Glob.pathOf_of_notMem hc hne, hdir]
          have hempty : String.ofList component ≠ "" := mt String.ofList_eq_empty_iff.mp hne
          rw [hpath] at hpasses
          rw [hpath, h.exists?_without hv hw he hq (hdir ▸ hseen) hempty hpasses]
  next =>
    split
    next => rw [List.filter_cons, List.filter_cons, h.filter_textsBelow_without hsound]
    next => exact h.filter_textsMatching_without hsound

end Screens

/-! ## Patterns of several components -/

namespace Glob

variable {v : Volume} {recursive dirsOnly : Bool} {fuel : Nat} {p : Path} {component : Text}

/-- The directories in which the component after a path is looked for. -/
def dirsOf (v : Volume) (recursive : Bool) (fuel : Nat) (p : Path) : List Text :=
  if isPattern p.chars then matchesFrom v recursive fuel true p.chars else [p.chars]

/-- The last component is looked for in the directories of those before it. -/
theorem matchesFrom_joinText (hp : p.Proper) (hc : '/' ∉ component) :
    matchesFrom v recursive (fuel + 1) dirsOnly (joinText p.chars component) =
      (dirsOf v recursive fuel p).flatMap fun d =>
        (namesIn v recursive dirsOnly d component).map (joinText d) := by
  rw [matchesFrom, Path.splitText_joinText hp hc]
  simp only
  split
  next hplain =>
    -- Without special characters the only directory is the path itself.
    rw [isPattern_joinText (head?_ne_slash hc), Bool.not_or, Bool.and_eq_true,
      Bool.not_eq_true', Bool.not_eq_true'] at hplain
    rw [dirsOf, hplain.1, if_neg Bool.false_ne_true, List.flatMap_singleton, namesIn, hplain.2,
      Bool.not_false, if_pos rfl]
    split <;> split <;> rfl
  next => rfl

/-- No component of the place is looked for: it is the root, or has no special character. -/
def Fixed (start : Path) : Prop := start = [] ∨ isPattern start.chars = false

theorem Fixed.prefix_of_isPattern {start p : Path} {c : String} (h : Fixed start)
    (hpattern : isPattern (Path.chars (p ++ [c])) = true) (hpre : start <+: p ++ [c]) :
    start <+: p := by
  rcases List.prefix_concat_iff.mp hpre with rfl | hpre
  · rcases h with hnil | hplain
    · simp at hnil
    · rw [hplain] at hpattern
      cases hpattern
  · exact hpre

theorem dirsOf_of_not_isPattern (h : isPattern p.chars = false) :
    dirsOf v recursive fuel p = [p.chars] := by
  rw [dirsOf, h, if_neg Bool.false_ne_true]

theorem dirsOf_zero (h : isPattern p.chars = true) : dirsOf v recursive 0 p = [] := by
  rw [dirsOf, h, if_pos rfl]
  rfl

theorem dirsOf_concat {c : String} (hp : p.Proper) (hc : Path.isProper c = true)
    (h : isPattern (Path.chars (p ++ [c])) = true) :
    dirsOf v recursive (fuel + 1) (p ++ [c]) = (dirsOf v recursive fuel p).flatMap fun d =>
      (namesIn v recursive true d c.toList).map (joinText d) := by
  rw [dirsOf, h, if_pos rfl, Path.chars_append_singleton hp hc,
    matchesFrom_joinText hp (Path.slash_notMem_of_isProper hc)]

/-- Induction on the components that are looked for. -/
theorem dirsOf_induction {P : Nat → Path → Prop}
    (plain : ∀ fuel p, isPattern p.chars = false → P fuel p)
    (zero : ∀ p, isPattern p.chars = true → P 0 p)
    (concat : ∀ fuel p c, isPattern (Path.chars (p ++ [c])) = true → P fuel p →
      P (fuel + 1) (p ++ [c])) (fuel : Nat) (p : Path) : P fuel p := by
  induction p using List.reverseRecOn generalizing fuel with
  | nil => exact plain fuel [] (by rw [Path.chars_nil]; rfl)
  | append_singleton p c ih =>
      cases hpattern : isPattern (Path.chars (p ++ [c])) with
      | false => exact plain fuel _ hpattern
      | true =>
          cases fuel with
          | zero => exact zero _ hpattern
          | succ fuel => exact concat fuel p c hpattern (ih fuel)

end Glob

namespace Volume.Stands

variable {v : Volume} {start : Path} {e : Entry} {recursive dirsOnly : Bool} {fuel : Nat}
  {p : Path} {component : Text}

/-- The directories in which a component is looked for lie at or below a fixed place. -/
theorem of_mem_dirsOf (h : v.Stands start e) (he : e.isSound = true) (hstart : Glob.Fixed start)
    (hp : p.Proper) (hpre : start <+: p) {d : Text} (hd : d ∈ Glob.dirsOf v recursive fuel p) :
    ∃ q : Path, q.Plain ∧ pathOf d = start ++ q := by
  induction fuel, p using Glob.dirsOf_induction generalizing d with
  | plain fuel p hplain =>
      rw [Glob.dirsOf_of_not_isPattern hplain, List.mem_singleton] at hd
      obtain ⟨q, rfl⟩ := hpre
      exact ⟨q, (Path.proper_append.mp hp).2.plain, hd ▸ Path.pathOf_chars hp⟩
  | zero p hpattern =>
      rw [Glob.dirsOf_zero hpattern] at hd
      cases hd
  | concat fuel p c hpattern ih =>
      obtain ⟨hp, hc⟩ := Path.proper_append.mp hp
      have hc := Path.proper_singleton.mp hc
      rw [Glob.dirsOf_concat hp hc hpattern] at hd
      obtain ⟨d', hd', ht⟩ := List.mem_flatMap.mp hd
      obtain ⟨q, hq, hpath⟩ := ih hp (hstart.prefix_of_isPattern hpattern hpre) hd'
      obtain ⟨r, hr, hplain⟩ :=
        h.of_mem_namesIn he hq.descends hpath (Path.slash_notMem_of_isProper hc) ht
      refine ⟨q ++ r, Path.plain_append.mpr ⟨hq, ?_⟩, by rw [hr, hpath, List.append_assoc]⟩
      rcases hplain with hplain | ⟨-, rfl⟩
      · exact hplain
      · rw [String.ofList_toList]
        exact Path.plain_singleton.mpr (Path.isName_of_isProper hc)

/-- The texts that a pattern matches lie at or below a fixed place, but for dots at the end. -/
theorem of_mem_matchesFrom (h : v.Stands start e) (he : e.isSound = true)
    (hstart : Glob.Fixed start) (hp : p.Proper) (hpre : start <+: p) (hc : '/' ∉ component)
    {t : Text}
    (ht : t ∈ Glob.matchesFrom v recursive (fuel + 1) dirsOnly (joinText p.chars component)) :
    ∃ q : Path, q.Plain ∧ (pathOf t = start ++ q ∨
      pathOf t = start ++ q ++ ["."] ∨ pathOf t = start ++ q ++ [".."]) := by
  rw [Glob.matchesFrom_joinText hp hc] at ht
  obtain ⟨d, hd, ht⟩ := List.mem_flatMap.mp ht
  obtain ⟨q, hq, hpath⟩ := h.of_mem_dirsOf he hstart hp hpre hd
  obtain ⟨r, hr, hlast⟩ := h.of_mem_namesIn he hq.descends hpath hc ht
  rw [hpath] at hr
  rcases hlast with hplain | ⟨hne, rfl⟩
  · exact ⟨q ++ r, Path.plain_append.mpr ⟨hq, hplain⟩, .inl (by rw [hr, List.append_assoc])⟩
  · by_cases hone : String.ofList component = "."
    · exact ⟨q, hq, .inr (.inl (hone ▸ hr))⟩
    · by_cases htwo : String.ofList component = ".."
      · exact ⟨q, hq, .inr (.inr (htwo ▸ hr))⟩
      · have hname : Path.IsName (String.ofList component) :=
          ⟨mt String.ofList_eq_empty_iff.mp hne, hone, htwo⟩
        refine ⟨q ++ [String.ofList component], ?_, .inl (by rw [hr, List.append_assoc])⟩
        exact Path.plain_append.mpr ⟨hq, Path.plain_singleton.mpr hname⟩

end Volume.Stands

/-! ## Patterns when entries are hidden -/

/-- Elements that fail a test and lead only to such are no loss. -/
theorem filter_flatMap_of_fail {α β : Type} {p : α → Bool} {q : β → Bool} {f : α → List β}
    {xs : List α} (h : ∀ x ∈ xs, p x = false → (f x).filter q = []) :
    (xs.flatMap f).filter q = (xs.filter p).flatMap fun x => (f x).filter q := by
  rw [List.filter_flatMap]
  induction xs with
  | nil => rfl
  | cons x xs ih =>
      obtain ⟨hx, hxs⟩ := List.forall_mem_cons.mp h
      rw [List.flatMap_cons, List.filter_cons, ih hxs]
      cases hp : p x with
      | false => rw [hx hp, if_neg Bool.false_ne_true, List.nil_append]
      | true => rw [if_pos rfl, List.flatMap_cons]

namespace Screens

variable {hides : Path → Entry → Bool} {seen : Path → Bool} {v w : Volume} {start p : Path}
  {e : Entry} {recursive dirsOnly : Bool} {fuel : Nat} {component : Text}

/-- From directories that pass alike, a component finds the same texts that pass. -/
theorem filter_flatMap_namesIn (h : Screens hides seen) (hv : v.Stands start e)
    (hw : w.Stands start (e.without hides start)) (he : e.isSound = true)
    (hc : '/' ∉ component) {dirs dirs' : List Text}
    (hdirs : ∀ d ∈ dirs, ∃ q : Path, q.Plain ∧ pathOf d = start ++ q)
    (hdirs' : ∀ d ∈ dirs', ∃ q : Path, q.Plain ∧ pathOf d = start ++ q)
    (hsame : dirs'.filter (fun d => seen (pathOf d)) = dirs.filter fun d => seen (pathOf d)) :
    (dirs'.flatMap fun d =>
        (Glob.namesIn w recursive dirsOnly d component).map (joinText d)).filter
          (fun t => seen (pathOf t)) =
      (dirs.flatMap fun d =>
        (Glob.namesIn v recursive dirsOnly d component).map (joinText d)).filter
          fun t => seen (pathOf t) := by
  rw [filter_flatMap_of_fail (p := fun d => seen (pathOf d)),
    filter_flatMap_of_fail (p := fun d => seen (pathOf d)), hsame]
  · refine List.flatMap_congr fun d hd => ?_
    obtain ⟨hd, hseen⟩ := List.mem_filter.mp hd
    obtain ⟨q, hq, hpath⟩ := hdirs d hd
    exact h.filter_namesIn_without hv hw he hq hpath hseen hc
  · intro d hd hfail
    obtain ⟨q, hq, hpath⟩ := hdirs d hd
    refine h.filter_eq_nil hfail fun t ht => ?_
    obtain ⟨r, hr, -⟩ := hv.of_mem_namesIn he hq.descends hpath hc ht
    exact ⟨r, hr⟩
  · intro d hd hfail
    obtain ⟨q, hq, hpath⟩ := hdirs' d hd
    refine h.filter_eq_nil hfail fun t ht => ?_
    obtain ⟨r, hr, -⟩ := hw.of_mem_namesIn (Entry.isSound_without he) hq.descends hpath hc ht
    exact ⟨r, hr⟩

/-- The directories that are seen stay if what is hidden is removed. -/
theorem filter_dirsOf_without (h : Screens hides seen) (hv : v.Stands start e)
    (hw : w.Stands start (e.without hides start)) (he : e.isSound = true)
    (hstart : Glob.Fixed start) (hp : p.Proper) (hpre : start <+: p) :
    (Glob.dirsOf w recursive fuel p).filter (fun d => seen (pathOf d)) =
      (Glob.dirsOf v recursive fuel p).filter fun d => seen (pathOf d) := by
  induction fuel, p using Glob.dirsOf_induction with
  | plain fuel p hplain =>
      rw [Glob.dirsOf_of_not_isPattern hplain, Glob.dirsOf_of_not_isPattern hplain]
  | zero p hpattern => rw [Glob.dirsOf_zero hpattern, Glob.dirsOf_zero hpattern]
  | concat fuel p c hpattern ih =>
      obtain ⟨hp, hc⟩ := Path.proper_append.mp hp
      have hc := Path.proper_singleton.mp hc
      have hpre := hstart.prefix_of_isPattern hpattern hpre
      rw [Glob.dirsOf_concat hp hc hpattern, Glob.dirsOf_concat hp hc hpattern]
      exact h.filter_flatMap_namesIn hv hw he (Path.slash_notMem_of_isProper hc)
        (fun d => hv.of_mem_dirsOf he hstart hp hpre)
        (fun d => hw.of_mem_dirsOf (Entry.isSound_without he) hstart hp hpre) (ih hp hpre)

/-- A pattern matches the same texts that pass. -/
theorem filter_matchesFrom_without (h : Screens hides seen) (hv : v.Stands start e)
    (hw : w.Stands start (e.without hides start)) (he : e.isSound = true)
    (hstart : Glob.Fixed start) (hp : p.Proper) (hpre : start <+: p) (hc : '/' ∉ component) :
    (Glob.matchesFrom w recursive (fuel + 1) dirsOnly (joinText p.chars component)).filter
        (fun t => seen (pathOf t)) =
      (Glob.matchesFrom v recursive (fuel + 1) dirsOnly (joinText p.chars component)).filter
        fun t => seen (pathOf t) := by
  rw [Glob.matchesFrom_joinText hp hc, Glob.matchesFrom_joinText hp hc]
  exact h.filter_flatMap_namesIn hv hw he hc (fun d => hv.of_mem_dirsOf he hstart hp hpre)
    (fun d => hw.of_mem_dirsOf (Entry.isSound_without he) hstart hp hpre)
    (h.filter_dirsOf_without hv hw he hstart hp hpre)

end Screens

end ExtensionAudit
