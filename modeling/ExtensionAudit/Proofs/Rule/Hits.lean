import Mathlib
import ExtensionAudit.Proofs.Text
import ExtensionAudit.Proofs.Trace
import ExtensionAudit.Rule.Engine

/-!
# The hits of a rule

`Offence ext r p t n` says, without the loops of the engine, that line `n` of the file with the
path text `t` breaks the rule `r` with the pattern `p`:

* a scope of the rule matches the path text, it leads to a file, and the file lies in no foreign
  directory;
* the file can be read, and its text does not hold the rule's replacement;
* the pattern matches the line, and neither the line nor the line before it silences the rule.

`ends_fileHits` and `ends_collectHits` say that the engine finds just these lines, file by file
and in all files together, and that a plain rule has reported each of them.
-/

namespace ExtensionAudit.Rule

/-! ## Offences -/

/-- The line before the one at a place; there is an empty one before the first. -/
def lineBefore (lines : List Text) : Nat → Text
  | 0 => []
  | i + 1 => lines.getD i []

/-- The pattern matches a line, and neither it nor the line before it silences the check. -/
def Offends (p : Pattern) (check : Option Text) (previous line : Text) : Prop :=
  (p.search line).isSome ∧ Suppression.isSuppressed line previous check = false

/-- The line of a text with a number offends. -/
def OffendingLine (p : Pattern) (check : Option Text) (t : Text) (n : Nat) : Prop :=
  ∃ i line, n = i + 1 ∧ (Text.linesWithEnds t)[i]? = some line ∧
    Offends p check (lineBefore (Text.linesWithEnds t) i) line

/-- The text does not hold the replacement of the rule, if the rule has one. -/
def Unreplaced (r : Rule) (t : Text) : Prop :=
  ∀ new, r.getD "replacement-pattern" "" = .text new → new ≠ [] → ¬ new <:+: t

/-- The file at a path can be read, holds no replacement, and offends on the line with a
number. -/
def OffendingFile (ext : Extension) (r : Rule) (p : Pattern) (file : Path) (n : Nat) : Prop :=
  ∃ t, ext.volume.text file = .ok t ∧ Unreplaced r t ∧ OffendingLine p r.checkName? t n

/-- A scope of the rule matches the path text, at the top of the extension or anywhere below. -/
def InScope (ext : Extension) (r : Rule) (t : Text) : Prop :=
  ∃ scope ∈ r.scopes,
    t ∈ Glob.matching ext.volume true
        (Glob.joinText (Glob.joinText (Path.text ext.base).toList ['*', '*']) scope) ∨
      t ∈ Glob.matching ext.volume false (Glob.joinText (Path.text ext.base).toList scope)

/-- The name of a file against the extension, from its path text. -/
def relativeName (ext : Extension) (t : Text) : String :=
  Path.relativeTo ext.base (Path.walk [] (Glob.pathOf t))

/-- A line of a file breaks a rule. -/
structure Offence (ext : Extension) (r : Rule) (p : Pattern) (t : Text) (n : Nat) : Prop where
  /-- A scope matches the file. -/
  inScope : InScope ext r t
  /-- It is a file. -/
  isFile : ext.volume.isFile (Glob.pathOf t) = true
  /-- It lies in no foreign directory. -/
  isOwn : ∀ part ∈ Path.components (relativeName ext t),
    part ≠ "node_modules" ∧ part ≠ ".git" ∧ part ≠ "__pycache__"
  /-- It can be read and offends on the line. -/
  inFile : OffendingFile ext r p (Glob.pathOf t) n

/-! ## What is written on the way -/

/-- The name of a rule as findings show it. -/
def label (r : Rule) : String := String.ofList r.name.shown

/-- The finding with which a plain rule reports a hit. -/
def hitFinding (r : Rule) (h : Hit) : Finding :=
  ⟨r.status, r.label, r.withFix s!"{h.file}:{h.line}: {r.message}"⟩

/-- What a rule writes while it goes over the lines: its hits, or nothing if it deduplicates. -/
def written (r : Rule) (hits : List Hit) : List Finding :=
  if r.deduplicates then [] else hits.map r.hitFinding

theorem written_nil (r : Rule) : r.written [] = [] := by
  unfold written
  split <;> rfl

theorem written_append (r : Rule) (hits more : List Hit) :
    r.written (hits ++ more) = r.written hits ++ r.written more := by
  unfold written
  split
  · rfl
  · exact List.map_append

/-- If the run for each element writes its hits and its hits are those that `P` says, then so it
is for all elements together. -/
theorem ends_collectHits {γ : Type} {r : Rule} {f : γ → Check (List Hit)} {P : γ → Hit → Prop}
    (hf : ∀ x ws hits, (f x).Ends ws hits → ws = r.written hits ∧ ∀ h, h ∈ hits ↔ P x h)
    {xs : List γ} {ws : List Finding} {hits : List Hit}
    (hrun : (Trace.collect xs f).Ends ws hits) :
    ws = r.written hits ∧ ∀ h, h ∈ hits ↔ ∃ x ∈ xs, P x h := by
  obtain ⟨runs, hruns, rfl, rfl⟩ := Trace.ends_collect.mp hrun
  clear hrun
  induction hruns with
  | nil => exact ⟨(written_nil r).symm, by simp⟩
  | @cons x run xs runs hx _ ih =>
      obtain ⟨hw, hmem⟩ := hf x run.1 run.2 hx
      obtain ⟨hws, hmems⟩ := ih
      constructor
      · rw [List.flatMap_cons, List.flatMap_cons, written_append, ← hw, ← hws]
      · intro h
        rw [List.flatMap_cons, List.mem_append, hmem, hmems]
        simp

/-! ## One line -/

/-- A line is a hit iff it offends. -/
theorem isHit_eq_ok {p : Pattern} {check : Option Text} {previous line : Text} {b : Bool}
    (h : isHit p check previous line = .ok b) : b = true ↔ Offends p check previous line := by
  unfold isHit at h
  unfold Offends
  split at h
  next hs =>
    cases h
    simp [hs]
  next m hs =>
    split at h
    next => cases h
    next =>
      cases h
      simp [hs]

/-- A line that offends is the only hit on it. -/
theorem ends_lineHits (r : Rule) (p : Pattern) (file : String) (previous : Text) (n : Nat)
    (line : Text) {ws : List Finding} {hits : List Hit}
    (hrun : (r.lineHits p file previous n line).Ends ws hits) :
    ws = r.written hits ∧
      ∀ h, h ∈ hits ↔ h = ⟨file, n⟩ ∧ Offends p r.checkName? previous line := by
  unfold lineHits at hrun
  obtain ⟨us, b, vs, hlift, hrest, rfl⟩ := Trace.ends_bind.mp hrun
  obtain ⟨rfl, hhit⟩ := Trace.ends_lift.mp hlift
  have hb := isHit_eq_ok hhit
  cases b with
  | false =>
      obtain ⟨rfl, rfl⟩ := Trace.ends_pure.mp hrest
      exact ⟨(written_nil r).symm, by simpa using hb⟩
  | true =>
      have ho : Offends p r.checkName? previous line := hb.mp rfl
      cases hd : r.deduplicates with
      | true =>
          simp only [hd, Bool.not_true, if_true] at hrest
          obtain ⟨rfl, rfl⟩ := Trace.ends_pure.mp hrest
          exact ⟨by simp [written, hd], by simp [ho]⟩
      | false =>
          simp only [hd, Bool.not_false, if_true] at hrest
          obtain ⟨us, _, vs, hw, hp, rfl⟩ := Trace.ends_bind.mp hrest
          obtain rfl := Trace.ends_write.mp hw
          obtain ⟨rfl, rfl⟩ := Trace.ends_pure.mp hp
          exact ⟨by simp [written, hd, hitFinding, label], by simp [ho]⟩

/-! ## One file -/

/-- The lines of a text in context are its lines, each with its number and the line before. -/
theorem mem_linesInContext {t previous line : Text} {n : Nat} :
    (previous, n, line) ∈ linesInContext t ↔
      ∃ i, n = i + 1 ∧ (Text.linesWithEnds t)[i]? = some line ∧
        previous = lineBefore (Text.linesWithEnds t) i := by
  unfold linesInContext
  generalize Text.linesWithEnds t = lines
  have before_eq : ∀ i line, lines[i]? = some line →
      ([] :: lines)[i]? = some (lineBefore lines i) := by
    intro i line hline
    cases i with
    | zero => rfl
    | succ i =>
        have hlt : i < lines.length := by
          have := (List.getElem?_eq_some_iff.mp hline).1
          omega
        simp [lineBefore, List.getElem?_eq_getElem hlt]
  simp only [List.mem_iff_getElem?, List.getElem?_zip_eq_some, Text.getElem?_numbered,
    Option.map_eq_some_iff, Prod.mk.injEq]
  constructor
  · rintro ⟨i, hprev, _, hline, rfl, rfl⟩
    have hsome := before_eq i _ hline
    exact ⟨i, rfl, hline, Option.some.inj (hprev.symm.trans hsome)⟩
  · rintro ⟨i, rfl, hline, rfl⟩
    exact ⟨i, before_eq i line hline, line, hline, rfl, rfl⟩

/-- A text is passed over iff it holds the replacement. -/
theorem isReplaced_eq_ok {r : Rule} {t : Text} {b : Bool} (h : r.isReplaced t = .ok b) :
    b = false ↔ Unreplaced r t := by
  unfold isReplaced at h
  unfold Unreplaced
  cases hv : r.getD "replacement-pattern" "" with
  | text new =>
      rw [hv] at h
      cases h
      simp only [Value.text.injEq, forall_eq', Bool.and_eq_false_iff, Bool.not_eq_false',
        List.isEmpty_iff, ← Text.occursIn_iff, Bool.not_eq_true, ne_eq]
      exact or_iff_not_imp_left
  | list items =>
      rw [hv] at h
      cases items with
      | nil =>
          cases h
          simp
      | cons item more => cases h

/-- The hits in a file are the lines that offend. -/
theorem ends_fileHits (ext : Extension) (r : Rule) (p : Pattern) (file : Path × String)
    {ws : List Finding} {hits : List Hit} (hrun : (fileHits ext r p file).Ends ws hits) :
    ws = r.written hits ∧
      ∀ h, h ∈ hits ↔ h.file = file.2 ∧ OffendingFile ext r p file.1 h.line := by
  unfold fileHits at hrun
  unfold OffendingFile
  cases ht : ext.volume.text file.1 with
  | error e =>
      rw [ht] at hrun
      obtain ⟨rfl, rfl⟩ := Trace.ends_pure.mp hrun
      exact ⟨(written_nil r).symm, by simp⟩
  | ok t =>
      rw [ht] at hrun
      obtain ⟨us, b, vs, hlift, hrest, rfl⟩ := Trace.ends_bind.mp hrun
      obtain ⟨rfl, hb⟩ := Trace.ends_lift.mp hlift
      have hreplaced := isReplaced_eq_ok hb
      cases b with
      | true =>
          obtain ⟨rfl, rfl⟩ := Trace.ends_pure.mp hrest
          have hnot : ¬ Unreplaced r t := fun hu => by simpa using hreplaced.mpr hu
          exact ⟨(written_nil r).symm, by simp [hnot]⟩
      | false =>
          have hu : Unreplaced r t := hreplaced.mp rfl
          obtain ⟨hw, hmem⟩ := ends_collectHits
            (fun x _ _ hx => ends_lineHits r p file.2 x.1 x.2.1 x.2.2 hx) hrest
          refine ⟨hw, fun h => ?_⟩
          rw [hmem]
          constructor
          · rintro ⟨⟨previous, n, line⟩, hx, rfl, ho⟩
            obtain ⟨i, rfl, hline, rfl⟩ := mem_linesInContext.mp hx
            exact ⟨rfl, t, rfl, hu, i, line, rfl, hline, ho⟩
          · rintro ⟨hfile, t', ht', _, i, line, hn, hline, ho⟩
            cases ht'
            refine ⟨(_, h.line, line), mem_linesInContext.mpr ⟨i, hn, hline, rfl⟩, ?_, ho⟩
            cases h
            cases hfile
            rfl

/-! ## All files -/

theorem isOwn_iff (name : String) :
    isOwn name = true ↔ ∀ part ∈ Path.components name,
      part ≠ "node_modules" ∧ part ≠ ".git" ∧ part ≠ "__pycache__" := by
  unfold isOwn Extension.isForeignDir
  simp [and_assoc]

/-- The files that a scope selects are the own files among those whose path text it matches. -/
theorem mem_selected {ext : Extension} {r : Rule} {file : Path × String} :
    file ∈ r.scopes.flatMap (selected ext) ↔
      ∃ t, InScope ext r t ∧ ext.volume.isFile (Glob.pathOf t) = true ∧
        isOwn (relativeName ext t) = true ∧ file = (Glob.pathOf t, relativeName ext t) := by
  simp only [List.mem_flatMap, selected, scopeFiles, List.mem_filterMap, List.mem_eraseDups,
    List.mem_append]
  constructor
  · rintro ⟨scope, hscope, t, ht, hsome⟩
    split at hsome
    next hcond =>
      obtain ⟨hfile, hown⟩ := Bool.and_eq_true_iff.mp hcond
      exact ⟨t, ⟨scope, hscope, ht⟩, hfile, hown, (Option.some.inj hsome).symm⟩
    next => cases hsome
  · rintro ⟨t, ⟨scope, hscope, ht⟩, hfile, hown, rfl⟩
    refine ⟨scope, hscope, t, ht, if_pos ?_⟩
    exact Bool.and_eq_true_iff.mpr ⟨hfile, hown⟩

theorem ends_scopeHits (ext : Extension) (r : Rule) (p : Pattern) (scope : Text)
    {ws : List Finding} {hits : List Hit} (hrun : (scopeHits ext r p scope).Ends ws hits) :
    ws = r.written hits ∧
      ∀ h, h ∈ hits ↔
        ∃ file ∈ selected ext scope, h.file = file.2 ∧ OffendingFile ext r p file.1 h.line := by
  unfold scopeHits at hrun
  obtain ⟨us, _, vs, hlift, hrest, rfl⟩ := Trace.ends_bind.mp hrun
  obtain ⟨rfl, -⟩ := Trace.ends_lift.mp hlift
  exact ends_collectHits (fun file _ _ hf => ends_fileHits ext r p file hf) hrest

/-- The hits in all files of a rule are its offences, by the names of the files. -/
theorem ends_allHits (ext : Extension) (r : Rule) (p : Pattern) {ws : List Finding}
    {hits : List Hit} (hrun : (Trace.collect r.scopes (scopeHits ext r p)).Ends ws hits) :
    ws = r.written hits ∧
      ∀ h, h ∈ hits ↔ ∃ t, relativeName ext t = h.file ∧ Offence ext r p t h.line := by
  obtain ⟨hw, hmem⟩ := ends_collectHits (fun scope _ _ hs => ends_scopeHits ext r p scope hs) hrun
  refine ⟨hw, fun h => ?_⟩
  rw [hmem]
  constructor
  · rintro ⟨scope, hscope, file, hsel, hname, hoff⟩
    obtain ⟨t, hscope, hfile, hown, rfl⟩ :=
      mem_selected.mp (List.mem_flatMap.mpr ⟨scope, hscope, hsel⟩)
    exact ⟨t, hname.symm, hscope, hfile, (isOwn_iff _).mp hown, hoff⟩
  · rintro ⟨t, hname, hoff⟩
    have hsel : (Glob.pathOf t, relativeName ext t) ∈ r.scopes.flatMap (selected ext) :=
      mem_selected.mpr ⟨t, hoff.inScope, hoff.isFile, (isOwn_iff _).mpr hoff.isOwn, rfl⟩
    obtain ⟨scope, hscope, hsel⟩ := List.mem_flatMap.mp hsel
    exact ⟨scope, hscope, _, hsel, hname.symm, hoff.inFile⟩

end ExtensionAudit.Rule
