import Mathlib
import ExtensionAudit.Command
import ExtensionAudit.Proofs.Rule.Selection
import ExtensionAudit.Proofs.Volume.Alone

/-!
# Rules and the place of an extension

What rules report on an extension does not depend on where it lies, as long as its path has no
special characters and no scope goes up or starts at the root.  The same tree at another place is
given the same findings.

The extension's path is part of the patterns, of the paths that are read and of what file names are
taken against.  In all three it can be taken off again: a scope selects the files that it selects
in the tree alone, each behind the path (`selected_place`).

With special characters in the path, the pattern that starts with it looks for other names as well,
and perhaps not for its own.
-/

namespace ExtensionAudit

open Glob (joinText pathOf isPattern slashed)

/-! ## Paths behind a path -/

namespace Path

theorem push_of_ne {c : String} (hc : c ≠ "..") (start : Path) :
    push start c = start ++ push [] c := by
  by_cases hdot : c = "." <;> simp [push, hc, hdot]

/-- A path that does not go up leads on from where it starts. -/
theorem walk_of_descends {q : Path} (hq : q.Descends) (start : Path) :
    walk start q = start ++ walk [] q := by
  induction q generalizing start with
  | nil => exact (List.append_nil start).symm
  | cons c q ih =>
      obtain ⟨hc, hq⟩ := List.forall_mem_cons.mp hq
      rw [walk, walk, List.foldl_cons, List.foldl_cons, ← walk, ← walk, ih hq (push start c),
        ih hq (push [] c), push_of_ne hc start, List.append_assoc]

theorem relativeTo_append (base p : Path) : relativeTo base (base ++ p) = relativeTo [] p := by
  simp [relativeTo, shared_append, shared]

end Path

namespace Rule

variable {v : Volume} {base : Path} {e : Entry} {scope t : Text}

/-! ## Selected files -/

/-- The scope is for paths in the extension: it neither starts at the root nor goes up. -/
def StaysInside (scope : Text) : Prop := scope.head? ≠ some '/' ∧ (pathOf scope).Descends

instance (scope : Text) : Decidable (StaysInside scope) :=
  inferInstanceAs (Decidable (_ ∧ ∀ c ∈ pathOf scope, c ≠ ".."))

/-- The texts that a scope's file name patterns match in a tree, each once, as paths in it. -/
def textsWithin (e : Entry) (scope : Text) : List Text :=
  (Glob.matching ⟨e, .plain⟩ true (joinText ['*', '*'] scope) ++
    Glob.matching ⟨e, .plain⟩ false scope).eraseDups

/-- The scope with `**` before it stays inside as well. -/
theorem StaysInside.deep (h : StaysInside scope) : StaysInside (joinText ['*', '*'] scope) := by
  refine ⟨Glob.head?_joinText (by decide) (by decide) h.1, ?_⟩
  rw [Glob.pathOf_joinText h.1]
  exact Path.descends_append.mpr ⟨by simp [Path.Descends, Glob.pathOf_of_notMem], h.2⟩

/-- The files of a scope lie below the place of the tree. -/
theorem scopeFiles_place (h : v.Holds base e) (hplain : isPattern base.chars = false)
    (hscope : StaysInside scope) :
    scopeFiles ⟨v, base⟩ scope = (textsWithin e scope).map (slashed base.chars ++ ·) := by
  have hdeep : joinText (joinText base.chars ['*', '*']) scope =
      slashed base.chars ++ joinText ['*', '*'] scope := by
    rw [← Glob.joinText_assoc (by decide) (by decide) hscope.1, Glob.joinText_eq hscope.deep.1]
  have hflat : joinText base.chars scope = slashed base.chars ++ scope :=
    Glob.joinText_eq hscope.1 base.chars
  have hfiles : scopeFiles ⟨v, base⟩ scope =
      (Glob.matching v true (joinText (joinText base.chars ['*', '*']) scope) ++
        Glob.matching v false (joinText base.chars scope)).eraseDups := rfl
  rw [hfiles, hdeep, hflat, h.matching_place hplain hscope.deep.1 hscope.deep.2,
    h.matching_place hplain hscope.1 hscope.2, ← List.map_append,
    eraseDups_map (List.append_right_injective _), textsWithin]

theorem descends_of_mem_textsWithin (h : v.Holds base e) (hscope : StaysInside scope)
    (ht : t ∈ textsWithin e scope) : (pathOf t).Descends := by
  rw [textsWithin, List.mem_eraseDups, List.mem_append] at ht
  rcases ht with hdeep | hflat
  · exact h.alone.descends_of_mem_matchesFrom hscope.deep.1 hscope.deep.2 hdeep
  · exact h.alone.descends_of_mem_matchesFrom hscope.1 hscope.2 hflat

/-- A text is picked behind the path if it is picked in the tree alone. -/
theorem pick?_place (h : v.Holds base e) (ht : (pathOf t).Descends) :
    pick? ⟨v, base⟩ (slashed base.chars ++ t) =
      (pick? ⟨⟨e, .plain⟩, []⟩ t).map fun file => (base ++ file.1, file.2) := by
  have hrelative : Path.relativeTo base (Path.walk [] (base ++ pathOf t)) =
      Path.relativeTo [] (Path.walk [] (pathOf t)) := by
    rw [Path.walk, List.foldl_append, ← Path.walk, ← Path.walk, Path.walk_of_plain h.plain,
      Path.walk_of_descends ht, List.nil_append, Path.relativeTo_append]
  simp only [pick?, Glob.pathOf_place h.proper, hrelative, h.isFile_place ht]
  split <;> rfl

/-- The files that a scope selects in a tree. -/
def selectedWithin (e : Entry) (scope : Text) : List (Path × String) :=
  (textsWithin e scope).filterMap (pick? ⟨⟨e, .plain⟩, []⟩)

/-- A scope selects the files that it selects in the tree alone, each behind the path. -/
theorem selected_place (h : v.Holds base e) (hplain : isPattern base.chars = false)
    (hscope : StaysInside scope) :
    selected ⟨v, base⟩ scope =
      (selectedWithin e scope).map fun file => (base ++ file.1, file.2) := by
  have hselected : selected ⟨v, base⟩ scope =
      (scopeFiles ⟨v, base⟩ scope).filterMap (pick? ⟨v, base⟩) := rfl
  rw [hselected, scopeFiles_place h hplain hscope, List.filterMap_map, selectedWithin,
    List.map_filterMap]
  refine List.filterMap_congr fun t ht => ?_
  rw [Function.comp_apply, pick?_place h (descends_of_mem_textsWithin h hscope ht)]

theorem descends_of_mem_selectedWithin (h : v.Holds base e) (hscope : StaysInside scope)
    {file : Path × String} (hfile : file ∈ selectedWithin e scope) : file.1.Descends := by
  obtain ⟨t, ht, hpick⟩ := List.mem_filterMap.mp hfile
  rw [pick?] at hpick
  split at hpick
  next =>
    cases hpick
    exact descends_of_mem_textsWithin h hscope ht
  next => cases hpick

/-! ## Rules -/

theorem checkScope_eq (hplain : isPattern base.chars = false) (hscope : StaysInside scope) :
    checkScope ⟨v, base⟩ scope =
      if isPattern scope && (Glob.start scope).any (·.toNat == 0) then .error .badValue
      else .ok () := by
  have hbase : isPattern (Path.text base).toList = false := hplain
  have hhead : (scope.head? == some '/') = false := beq_eq_false_iff_ne.mpr hscope.1
  simp only [checkScope, hbase, hhead, Bool.not_false, Bool.or_true, Bool.and_true]

/-- The files that a scope selects in the tree alone are the same files, each behind the path. -/
theorem collect_fileHits_place (h : v.Holds base e) (hplain : isPattern base.chars = false)
    (hscope : StaysInside scope) (r : Rule) (p : Pattern) :
    Trace.collect (selected ⟨v, base⟩ scope) (fileHits ⟨v, base⟩ r p) =
      Trace.collect (selectedWithin e scope) (fileHits ⟨⟨e, .plain⟩, []⟩ r p) := by
  rw [selected_place h hplain hscope, Trace.collect_map]
  refine Trace.collect_congr fun file hfile => ?_
  have hdown := descends_of_mem_selectedWithin h hscope hfile
  have htext : v.text (base ++ file.1) = Volume.text ⟨e, .plain⟩ file.1 := by
    rw [Volume.text, Volume.text, h.bytes_place hdown]
  rw [fileHits, fileHits, htext]

/-- A rule reports the same wherever the tree stands. -/
theorem applyPattern_place (h : v.Holds base e) (hplain : isPattern base.chars = false)
    {r : Rule} (hr : ∀ scope ∈ r.scopes, StaysInside scope) (p : Pattern) :
    r.applyPattern ⟨v, base⟩ p = r.applyPattern ⟨⟨e, .plain⟩, []⟩ p := by
  have hroot : isPattern (Path.chars []) = false := by
    rw [Path.chars_nil]
    rfl
  have hhits : ∀ scope ∈ r.scopes,
      scopeHits ⟨v, base⟩ r p scope = scopeHits ⟨⟨e, .plain⟩, []⟩ r p scope := by
    intro scope hscope
    rw [scopeHits, scopeHits, checkScope_eq hplain (hr scope hscope),
      checkScope_eq hroot (hr scope hscope), collect_fileHits_place h hplain (hr scope hscope),
      collect_fileHits_place h.alone hroot (hr scope hscope)]
  rw [applyPattern, applyPattern, Trace.collect_congr hhits]

/-- A file of the tree is the same wherever the tree stands. -/
theorem sameFile_place (h : v.Holds base e) {q : Path} (hq : q.Descends) :
    Extension.SameFile ⟨v, base⟩ ⟨⟨e, .plain⟩, []⟩ q where
  isFile_eq := h.isFile_place hq
  text_eq := by
    rw [Extension.text, Extension.text, Volume.text, Volume.text, h.bytes_place hq]
    rfl
  strictText_eq := by
    rw [Extension.strictText, Extension.strictText, Volume.strictText, Volume.strictText,
      h.bytes_place hq]
    rfl

/-- Rules report on an extension what they report on its tree alone. -/
theorem applyAll_place (h : v.Holds base e) (hplain : isPattern base.chars = false)
    {rules : List Rule} (hrules : ∀ r ∈ rules, ∀ scope ∈ r.scopes, StaysInside scope) :
    applyAll ⟨v, base⟩ rules = applyAll ⟨⟨e, .plain⟩, []⟩ rules := by
  have hmanifest : Extension.SameFile ⟨v, base⟩ ⟨⟨e, .plain⟩, []⟩ Extension.manifestPath :=
    sameFile_place h (by simp [Extension.manifestPath, Path.Descends])
  have hversions :
      Manifest.declaredVersions ⟨v, base⟩ = Manifest.declaredVersions ⟨⟨e, .plain⟩, []⟩ := by
    rw [Manifest.declaredVersions, Manifest.declaredVersions, hmanifest.isFile_eq,
      Extension.readManifest_congr hmanifest]
  have happly : ∀ versions, Trace.each rules (apply ⟨v, base⟩ versions) =
      Trace.each rules (apply ⟨⟨e, .plain⟩, []⟩ versions) := by
    refine fun versions => Trace.each_congr fun r hr => ?_
    simp only [apply, applyPattern_place h hplain (hrules r hr)]
  simp only [applyAll, hversions, happly]

end Rule

/-! ## The command for rules -/

namespace Command

/-- An argument names a tree without links, at a path without special characters. -/
structure Places (v : Volume) (here : Path) (dir : String) (base : Path) (e : Entry) : Prop where
  /-- The argument leads to the path. -/
  realPath_eq : v.realPath here dir = base
  /-- The tree stands at it. -/
  holds : v.Holds base e
  /-- No character of the path is special in patterns. -/
  not_isPattern : isPattern base.chars = false

/-- The command for rules reports the same on a tree at two places, in the same or in different
file trees, if the rules are the same and their scopes stay inside. -/
theorem run_rules_place (v w : Volume) (here here' base base' : Path)
    (file file' dir dir' standard : String) (e : Entry) (hv : Places v here dir base e)
    (hw : Places w here' dir' base' e) (hfile : file ≠ "--validate") (hfile' : file' ≠ "--validate")
    (hread : readRules v here file = readRules w here' file')
    (hscopes : ∀ rules, readRules v here file = .ok (some rules) →
      ∀ r ∈ rules, ∀ scope ∈ r.scopes, Rule.StaysInside scope) :
    Tool.rules.run v here standard [file, dir] = Tool.rules.run w here' standard [file', dir'] := by
  have happly : applyRules v here file dir = applyRules w here' file' dir' := by
    rw [applyRules, applyRules, ← hread, hv.realPath_eq, hw.realPath_eq]
    cases hrules : readRules v here file with
    | error fault => rfl
    | ok rules? =>
        cases rules? with
        | none => rfl
        | some rules =>
            have hleft := Rule.applyAll_place hv.holds hv.not_isPattern (hscopes rules hrules)
            have hright := Rule.applyAll_place hw.holds hw.not_isPattern (hscopes rules hrules)
            exact congrArg Outcome.ofCheck (hleft.trans hright.symm)
  simp only [Tool.run, runRules, beq_eq_false_iff_ne.mpr hfile, beq_eq_false_iff_ne.mpr hfile',
    Bool.false_eq_true, if_false, happly]

/-- A tree with a script in it and one below it. -/
def smallTree : Entry :=
  .dir
    [("extension.js", .file (Text.encode "a".toList) false),
      ("lib", .dir [("b.js", .file (Text.encode "ba".toList) false)])]

/-- An entry beside a file with a rule. -/
def besideRules (name : String) (e : Entry) : Volume where
  root := .dir [("r", .file (Text.encode "- pattern: a".toList) false), (name, e)]

theorem readRules_besideRules (name : String) (e : Entry) :
    readRules (besideRules name e) [] "/r" =
      .ok (some (Rule.readAll "- pattern: a".toList)) := rfl

theorem places_smallTree :
    Places (besideRules "x" smallTree) [] "/x" ["x"] smallTree ∧
      Places (besideRules "y" (.dir [("z", smallTree)])) [] "y/./z" ["y", "z"] smallTree := by
  refine ⟨⟨rfl, ⟨⟨?_, rfl, rfl⟩, ?_, rfl⟩, rfl⟩, ⟨rfl, ⟨⟨?_, rfl, rfl⟩, ?_, rfl⟩, rfl⟩⟩
  · simp [Path.Plain, Path.IsName]
  · simp [Path.Proper, Path.isProper]
  · simp [Path.Plain, Path.IsName]
  · simp [Path.Proper, Path.isProper]

/-- A tree in two places, under two names, gets the same report. -/
theorem run_rules_place_smallTree :
    Tool.rules.run (besideRules "x" smallTree) [] "" ["/r", "/x"] =
      Tool.rules.run (besideRules "y" (.dir [("z", smallTree)])) [] "" ["/r", "y/./z"] := by
  obtain ⟨hv, hw⟩ := places_smallTree
  refine run_rules_place _ _ [] [] ["x"] ["y", "z"] "/r" "/r" "/x" "y/./z" "" smallTree hv hw
    (by decide) (by decide) ?_ fun rules hread => ?_
  · rw [readRules_besideRules, readRules_besideRules]
  · rw [readRules_besideRules] at hread
    cases hread
    decide

/-- A bracket stands for one of the characters in it, so the pattern for `[x]` looks for `x`. -/
theorem run_rules_bracketed :
    (Tool.rules.run (besideRules "x" smallTree) [] "" ["/r", "/x"]).lines =
        ["WARN|?|extension.js:1: ?", "WARN|?|lib/b.js:1: ?"] ∧
      (Tool.rules.run (besideRules "[x]" smallTree) [] "" ["/r", "/[x]"]).lines =
        ["PASS|?|No matches"] := by
  decide +kernel

end Command

end ExtensionAudit
