import Mathlib
import ExtensionAudit.Proofs.Distinct
import ExtensionAudit.Proofs.Foreign
import ExtensionAudit.Proofs.Volume.Glob
import ExtensionAudit.Rule.Engine

/-!
# The files that rules select

A rule selects files by patterns that run over the whole extension, and drops those in foreign
directories afterwards.  What is left is the same as if these directories were not there
(`selected_trimmed`), so rules report the same (`applyAll_trimmed`).

The extension's own path is part of the patterns.  If there are special characters in it, the
patterns also run over other directories, and then no link may stand anywhere.
-/

namespace ExtensionAudit

/-! ## Paths that are seen -/

namespace Extension

/-- The path does not lie in a foreign directory of the extension, and is not such a one. -/
def isSeen (base p : Path) : Bool :=
  !(base.isPrefixOf p && (p.drop base.length).any isForeignDir)

/-- A path is not seen iff it lies in a foreign directory of the extension. -/
theorem isSeen_eq_false_iff {base p : Path} :
    isSeen base p = false ↔ ∃ q, p = base ++ q ∧ q.any isForeignDir = true := by
  rw [isSeen, Bool.not_eq_false', Bool.and_eq_true, List.isPrefixOf_iff_prefix]
  constructor
  · rintro ⟨⟨q, rfl⟩, hany⟩
    rw [List.drop_left] at hany
    exact ⟨q, rfl, hany⟩
  · rintro ⟨q, rfl, hany⟩
    rw [List.drop_left]
    exact ⟨List.prefix_append base q, hany⟩

/-- Paths in foreign directories are not seen. -/
theorem screens_isSeen (base : Path) : Screens (passesOver false base) (isSeen base) where
  of_append := by
    intro p q h
    by_contra hp
    obtain ⟨r, rfl, hany⟩ := isSeen_eq_false_iff.mp (Bool.eq_false_iff.mpr hp)
    have hnot : isSeen base (base ++ r ++ q) = false :=
      isSeen_eq_false_iff.mpr ⟨r ++ q, List.append_assoc .., by simp [hany]⟩
    rw [h] at hnot
    cases hnot
  hides_eq_false := by
    intro p c e h
    by_contra hp
    rw [Bool.not_eq_false, passesOver, List.dropLast_concat, Bool.and_eq_true,
      List.isPrefixOf_iff_prefix] at hp
    obtain ⟨⟨r, rfl⟩, hover⟩ := hp
    have hforeign : isForeignDir c = true := by
      split at hover
      next => simpa [Path.name] using hover
      next => cases hover
    have hnot : isSeen base (base ++ r ++ [c]) = false :=
      isSeen_eq_false_iff.mpr ⟨r ++ [c], List.append_assoc .., by simp [hforeign]⟩
    rw [h] at hnot
    cases hnot

end Extension

namespace Path

theorem isProper_of_isName {c : String} (hc : IsName c) (hslash : '/' ∉ c.toList) :
    isProper c = true := by
  obtain ⟨hempty, hdot, hdots⟩ := hc
  simp [isProper, hempty, hdot, hdots, hslash]

theorem walk_of_plain {p : Path} (hp : p.Plain) (start : Path) : walk start p = start ++ p := by
  induction p generalizing start with
  | nil => exact (List.append_nil start).symm
  | cons c p ih =>
      obtain ⟨⟨-, hdot, hdots⟩, hp⟩ := List.forall_mem_cons.mp hp
      have hpush : push start c = start ++ [c] := by simp [push, hdot, hdots]
      rw [walk, List.foldl_cons, hpush, ← walk, ih hp, List.append_assoc, List.singleton_append]

theorem shared_append (base q : Path) : shared base (base ++ q) = base.length := by
  induction base with
  | nil => cases q <;> rfl
  | cons c base ih => simp [shared, ih]

/-- The way from a directory to what lies in it has the components below the directory. -/
theorem components_relativeTo {base q : Path} (hq : q.Proper) (hne : q ≠ []) :
    components (relativeTo base (base ++ q)) = q := by
  have hrelative : relativeTo base (base ++ q) = "/".intercalate q := by
    simp [relativeTo, shared_append, hne]
  have hchars : chars q = [] ++ '/' :: ("/".intercalate q).toList := by
    rw [chars, text, String.toList_append]
    rfl
  have hpath := pathOf_chars hq
  rw [hchars, Glob.pathOf_append_slash, Glob.pathOf_nil, List.nil_append, Glob.pathOf,
    String.ofList_toList] at hpath
  rw [hrelative, hpath]

end Path

namespace Rule

open Glob (pathOf)
open Extension (isSeen passesOver)

/-- A path that is not seen is not one of the extension's own. -/
theorem isOwn_of_not_isSeen {base p : Path} (hp : p.Proper) (h : isSeen base p = false) :
    isOwn (Path.relativeTo base p) = false := by
  obtain ⟨q, rfl, hany⟩ := Extension.isSeen_eq_false_iff.mp h
  have hne : q ≠ [] := by
    rintro rfl
    cases hany
  rw [isOwn, Path.components_relativeTo (Path.proper_append.mp hp).2 hne, hany, Bool.not_true]

/-! ## Where patterns look -/

/-- The patterns of rules look at a tree without links that holds the extension. -/
structure Searches (ext : Extension) (start : Path) (e : Entry) : Prop where
  /-- The file tree is sound. -/
  sound : ext.volume.root.isSound = true
  /-- The tree stands at its path. -/
  stands : ext.volume.Stands start e
  /-- No pattern looks elsewhere. -/
  fixed : Glob.Fixed start
  /-- The extension lies in the tree. -/
  pre : start <+: ext.base
  /-- The extension's path can be read off its text. -/
  proper : ext.base.Proper

/-- Patterns look at the extension only, unless there are special characters in its path. -/
theorem exists_searches {ext : Extension} (h : ext.IsPlain)
    (hlinks : Glob.isPattern ext.base.chars = true → ext.volume.root.isUnlinked = true) :
    ∃ start e, Searches ext start e := by
  obtain ⟨hsound, e, hstands⟩ := h
  have hproper : ext.base.Proper := Entry.isProper_of_under hsound hstands.under_base
  cases hpattern : Glob.isPattern ext.base.chars with
  | false => exact ⟨ext.base, e, hsound, hstands, .inr hpattern, List.prefix_rfl, hproper⟩
  | true =>
      exact ⟨[], ext.volume.root, hsound, ⟨Path.plain_nil, rfl, hlinks hpattern⟩, .inl rfl,
        List.nil_prefix, hproper⟩

namespace Searches

variable {ext : Extension} {start : Path} {e : Entry} {scope t : Text}

theorem trimmed (h : Searches ext start e) :
    Searches (ext.trimmed false) start (e.without (passesOver false ext.base) start) where
  sound := Entry.isSound_without h.sound
  stands := h.stands.without h.sound h.pre false
  fixed := h.fixed
  pre := h.pre
  proper := h.proper

theorem isProper_stars : Path.isProper "**" = true := by decide

theorem scopeFiles_eq (h : Searches ext start e) (scope : Text) :
    scopeFiles ext scope =
      (Glob.matching ext.volume true (Glob.joinText (Path.chars (ext.base ++ ["**"])) scope) ++
        Glob.matching ext.volume false (Glob.joinText ext.base.chars scope)).eraseDups := by
  have hchars : Path.chars (ext.base ++ ["**"]) = Glob.joinText ext.base.chars ['*', '*'] :=
    Path.chars_append_singleton h.proper isProper_stars
  rw [hchars]
  rfl

theorem proper_deep (h : Searches ext start e) : Path.Proper (ext.base ++ ["**"]) :=
  Path.proper_append.mpr ⟨h.proper, Path.proper_singleton.mpr isProper_stars⟩

theorem pre_deep (h : Searches ext start e) : start <+: ext.base ++ ["**"] :=
  h.pre.trans (List.prefix_append _ _)

/-- The files of a scope lie in the tree, but for dots at the end. -/
theorem of_mem_scopeFiles (h : Searches ext start e) (hc : '/' ∉ scope)
    (ht : t ∈ scopeFiles ext scope) :
    ∃ q : Path, q.Plain ∧ (pathOf t = start ++ q ∨
      pathOf t = start ++ q ++ ["."] ∨ pathOf t = start ++ q ++ [".."]) := by
  have hsound := Entry.isSound_of_under h.stands.under_base h.sound
  rw [h.scopeFiles_eq, List.mem_eraseDups, List.mem_append] at ht
  rcases ht with hdeep | hflat
  · exact h.stands.of_mem_matchesFrom hsound h.fixed h.proper_deep h.pre_deep hc hdeep
  · exact h.stands.of_mem_matchesFrom hsound h.fixed h.proper h.pre hc hflat

/-- The files of a scope that are seen are the same without foreign directories. -/
theorem filter_scopeFiles_trimmed (h : Searches ext start e) (hc : '/' ∉ scope) :
    (scopeFiles (ext.trimmed false) scope).filter (fun t => isSeen ext.base (pathOf t)) =
      (scopeFiles ext scope).filter fun t => isSeen ext.base (pathOf t) := by
  have hsound := Entry.isSound_of_under h.stands.under_base h.sound
  have hscreens := Extension.screens_isSeen ext.base
  have hmatching : ∀ (p : Path) (recursive : Bool), p.Proper → start <+: p →
      (Glob.matching (ext.trimmed false).volume recursive (Glob.joinText p.chars scope)).filter
          (fun t => isSeen ext.base (pathOf t)) =
        (Glob.matching ext.volume recursive (Glob.joinText p.chars scope)).filter
          fun t => isSeen ext.base (pathOf t) := fun p recursive hp hpre =>
    hscreens.filter_matchesFrom_without h.stands h.trimmed.stands hsound h.fixed hp hpre hc
  have hbase : (ext.trimmed false).base = ext.base := rfl
  rw [h.scopeFiles_eq, h.trimmed.scopeFiles_eq, hbase, filter_eraseDups, filter_eraseDups,
    List.filter_append, List.filter_append, hmatching _ true h.proper_deep h.pre_deep,
    hmatching _ false h.proper h.pre]

/-- A path in the tree that is seen leads to the same entry without foreign directories. -/
theorem resolve_trimmed (h : Searches ext start e) {q : Path} (hq : q.Plain)
    (hseen : isSeen ext.base (start ++ q) = true) :
    (ext.trimmed false).volume.resolve (start ++ q) =
      (ext.volume.resolve (start ++ q)).map fun s =>
        ⟨s.path, s.entry.without (passesOver false ext.base) s.path⟩ :=
  h.stands.resolve_without h.sound h.pre hq ((Extension.screens_isSeen ext.base).shows hseen)

end Searches

/-! ## Selected files -/

/-- The file of a text with its name, if it is selected. -/
def pick? (ext : Extension) (t : Text) : Option (Path × String) :=
  let p := pathOf t
  let relative := Path.relativeTo ext.base (Path.walk [] p)
  if ext.volume.isFile p && isOwn relative then some (p, relative) else none

namespace Searches

variable {ext : Extension} {start : Path} {e : Entry} {scope t : Text}

/-- Dots lead to no file. -/
theorem pick?_dots (h : Searches ext start e) {q : Path} (hq : q.Plain)
    (ht : pathOf t = start ++ q ++ ["."] ∨ pathOf t = start ++ q ++ [".."]) :
    pick? ext t = none := by
  have hfile : ext.volume.isFile (pathOf t) = false := by
    rcases ht with ht | ht
    · rw [ht, h.stands.isFile_dots hq (.inl rfl)]
    · rw [ht, h.stands.isFile_dots hq (.inr rfl)]
  rw [pick?, hfile]
  rfl

/-- A path in the tree is selected if it is a file and seen. -/
theorem isSeen_of_isOwn (h : Searches ext start e) {q : Path} (hq : q.Plain)
    (ht : pathOf t = start ++ q)
    (hown : isOwn (Path.relativeTo ext.base (Path.walk [] (pathOf t))) = true) :
    isSeen ext.base (pathOf t) = true := by
  have hplain : (pathOf t).Plain := by
    rw [ht]
    exact Path.plain_append.mpr ⟨h.stands.plain, hq⟩
  have hproper : (pathOf t).Proper := fun c hc =>
    Path.isProper_of_isName (hplain c hc) (Glob.slash_notMem_of_mem_pathOf hc)
  by_contra hseen
  rw [Path.walk_of_plain hplain, List.nil_append,
    isOwn_of_not_isSeen hproper (Bool.eq_false_iff.mpr hseen)] at hown
  cases hown

/-- A path that is not seen is not picked. -/
theorem pick?_of_not_isSeen (h : Searches ext start e) (hc : '/' ∉ scope)
    (ht : t ∈ scopeFiles ext scope) (hseen : isSeen ext.base (pathOf t) = false) :
    pick? ext t = none := by
  obtain ⟨q, hq, hpath | hdots⟩ := h.of_mem_scopeFiles hc ht
  · have hown : isOwn (Path.relativeTo ext.base (Path.walk [] (pathOf t))) = false := by
      by_contra hown
      rw [h.isSeen_of_isOwn hq hpath (Bool.not_eq_false _ ▸ hown)] at hseen
      cases hseen
    rw [pick?, hown, Bool.and_false]
    rfl
  · exact h.pick?_dots hq hdots

/-- A path that is seen is picked alike without the foreign directories. -/
theorem pick?_trimmed (h : Searches ext start e) (hc : '/' ∉ scope)
    (ht : t ∈ scopeFiles ext scope) (hseen : isSeen ext.base (pathOf t) = true) :
    pick? (ext.trimmed false) t = pick? ext t := by
  obtain ⟨q, hq, hpath | hdots⟩ := h.of_mem_scopeFiles hc ht
  · have hfile : (ext.trimmed false).volume.isFile (pathOf t) = ext.volume.isFile (pathOf t) := by
      rw [hpath] at hseen ⊢
      exact Volume.isFile_of_resolve (h.resolve_trimmed hq hseen)
    rw [pick?, pick?, hfile]
    rfl
  · rw [h.pick?_dots hq hdots, h.trimmed.pick?_dots hq hdots]

/-- Elements that fail a test and are not picked are no loss. -/
theorem filterMap_of_fail {α β : Type} {p : α → Bool} {f : α → Option β} {xs : List α}
    (h : ∀ x ∈ xs, p x = false → f x = none) : xs.filterMap f = (xs.filter p).filterMap f := by
  rw [List.filterMap_filter]
  refine List.filterMap_congr fun x hx => ?_
  cases hp : p x with
  | false => rw [h x hx hp, if_neg Bool.false_ne_true]
  | true => rw [if_pos rfl]

/-- A scope selects the same files without foreign directories. -/
theorem selected_trimmed (h : Searches ext start e) (hc : '/' ∉ scope) :
    selected (ext.trimmed false) scope = selected ext scope := by
  change (scopeFiles _ scope).filterMap (pick? _) = (scopeFiles ext scope).filterMap (pick? ext)
  rw [filterMap_of_fail fun t => h.pick?_of_not_isSeen hc,
    filterMap_of_fail fun t => h.trimmed.pick?_of_not_isSeen hc]
  change ((scopeFiles (ext.trimmed false) scope).filter fun t =>
    isSeen ext.base (pathOf t)).filterMap _ = _
  rw [h.filter_scopeFiles_trimmed hc]
  refine List.filterMap_congr fun t ht => ?_
  obtain ⟨ht, hseen⟩ := List.mem_filter.mp ht
  exact h.pick?_trimmed hc ht hseen

/-- A selected file reads the same without foreign directories. -/
theorem text_trimmed (h : Searches ext start e) (hc : '/' ∉ scope) {file : Path × String}
    (hfile : file ∈ selected ext scope) :
    (ext.trimmed false).volume.text file.1 = ext.volume.text file.1 := by
  obtain ⟨t, ht, hpick⟩ := List.mem_filterMap.mp hfile
  change pick? ext t = some file at hpick
  obtain ⟨q, hq, hpath | hdots⟩ := h.of_mem_scopeFiles hc ht
  · rw [pick?] at hpick
    split at hpick
    next hboth =>
      rw [Bool.and_eq_true] at hboth
      have hseen := h.isSeen_of_isOwn hq hpath hboth.2
      cases hpick
      rw [hpath] at hseen ⊢
      rw [Volume.text, Volume.text, Volume.bytes_of_resolve (h.resolve_trimmed hq hseen)]
    next => cases hpick
  · rw [h.pick?_dots hq hdots] at hpick
    cases hpick

end Searches

/-! ## Rules -/

variable {ext : Extension} {start : Path} {e : Entry}

/-- A rule reports the same without the foreign directories. -/
theorem applyPattern_trimmed (h : Searches ext start e) {r : Rule}
    (hr : ∀ scope ∈ r.scopes, '/' ∉ scope) (p : Pattern) :
    r.applyPattern (ext.trimmed false) p = r.applyPattern ext p := by
  have hhits : ∀ scope ∈ r.scopes,
      scopeHits (ext.trimmed false) r p scope = scopeHits ext r p scope := by
    intro scope hscope
    have hfiles : Trace.collect (selected ext scope) (fileHits (ext.trimmed false) r p) =
        Trace.collect (selected ext scope) (fileHits ext r p) := by
      refine Trace.collect_congr fun file hfile => ?_
      rw [fileHits, fileHits, h.text_trimmed (hr scope hscope) hfile]
    rw [scopeHits, scopeHits, h.selected_trimmed (hr scope hscope), hfiles]
    rfl
  rw [applyPattern, applyPattern, Trace.collect_congr hhits]

/-- Rules with scopes for one component report the same without foreign directories. -/
theorem applyAll_trimmed (h : ext.IsPlain)
    (hlinks : Glob.isPattern ext.base.chars = true → ext.volume.root.isUnlinked = true)
    {rules : List Rule} (hrules : ∀ r ∈ rules, ∀ scope ∈ r.scopes, '/' ∉ scope) :
    applyAll (ext.trimmed false) rules = applyAll ext rules := by
  obtain ⟨start, e, hsearches⟩ := exists_searches h hlinks
  have hmanifest := h.sameScripts.manifest
  have hversions :
      Manifest.declaredVersions (ext.trimmed false) = Manifest.declaredVersions ext := by
    rw [Manifest.declaredVersions, Manifest.declaredVersions, hmanifest.isFile_eq,
      Extension.readManifest_congr hmanifest]
  have happly : ∀ versions, Trace.each rules (apply (ext.trimmed false) versions) =
      Trace.each rules (apply ext versions) := by
    refine fun versions => Trace.each_congr fun r hr => ?_
    simp only [apply, applyPattern_trimmed hsearches (hrules r hr)]
  simp only [applyAll, hversions, happly]

end Rule

end ExtensionAudit
