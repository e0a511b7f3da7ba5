import Mathlib
import ExtensionAudit.Proofs.Rule.Blocks

/-!
# Gathered and plain reports agree

A rule that deduplicates and the same rule without that field go over the same files and lines.
The plain rule writes a finding for each hit on the way, the other one keeps silent and reports the
files of its hits at the end.  Main statement: either both runs break off with the same fault, or
both write the same single finding that passes or skips the rule, or the one gathers the files that
the findings of the other name, each once and in ascending order (`apply_gathers`).

*Fields.*  All that the engine reads of a rule goes through the look-up of a field, so a rule
without a field differs only in what is read of this field (`get?_without`).

*Lockstep.*  `Trace.Gathers` relates the two runs: the first writes nothing, both end alike, and the
second has written what both give.  It holds line by line and is kept by runs over lists
(`gathers_collect`).
-/

namespace ExtensionAudit

/-! ## Runs in lockstep -/

namespace Trace

variable {ω α γ : Type} {report : α → ω}

/-- The first run writes nothing, both end alike, and what they give is what the second has
written. -/
structure Gathers (report : α → ω) (x y : Trace ω (List α)) : Prop where
  /-- The first writes nothing. -/
  silent : x.output = []
  /-- They end alike. -/
  outcome_eq : x.outcome = y.outcome
  /-- The second writes what they give. -/
  written : ∀ as, y.outcome = .ok as → y.output = as.map report

theorem gathers_nil : Gathers report (pure []) (pure []) := by
  refine ⟨rfl, rfl, fun as h => ?_⟩
  cases h
  rfl

/-- Both runs read the same value first. -/
theorem gathers_lift {e : Except Fault γ} {f g : γ → Trace ω (List α)}
    (h : ∀ a, e = .ok a → Gathers report (f a) (g a)) :
    Gathers report (liftM e >>= f) (liftM e >>= g) := by
  change Gathers report (Trace.bind ⟨[], e⟩ f) (Trace.bind ⟨[], e⟩ g)
  cases e with
  | error fault => exact ⟨rfl, rfl, fun as has => by cases has⟩
  | ok a => exact h a rfl

theorem collect_cons (x : γ) (xs : List γ) (f : γ → Trace ω (List α)) :
    collect (x :: xs) f = f x >>= fun as => collect xs f >>= fun more => pure (as ++ more) := by
  simp [collect, List.mapM_cons]

/-- Two runs in lockstep, and then two others. -/
theorem Gathers.append {x y x' y' : Trace ω (List α)} (h : Gathers report x y)
    (h' : Gathers report x' y') :
    Gathers report (x >>= fun as => x' >>= fun more => pure (as ++ more))
      (y >>= fun as => y' >>= fun more => pure (as ++ more)) := by
  obtain ⟨xs, o⟩ := x
  obtain ⟨ys, p⟩ := y
  obtain ⟨xs', o'⟩ := x'
  obtain ⟨ys', p'⟩ := y'
  obtain ⟨rfl, rfl, hy⟩ := h
  obtain ⟨rfl, rfl, hy'⟩ := h'
  cases o with
  | error fault => exact ⟨rfl, rfl, fun as has => by cases has⟩
  | ok as =>
      cases o' with
      | error fault => exact ⟨rfl, rfl, fun as has => by cases has⟩
      | ok more =>
          refine ⟨rfl, rfl, fun all hall => ?_⟩
          cases hall
          have hfirst : ys = as.map report := hy as rfl
          have hrest : ys' = more.map report := hy' more rfl
          change ys ++ (ys' ++ []) = (as ++ more).map report
          rw [hfirst, hrest, List.append_nil, List.map_append]

theorem gathers_collect {f g : γ → Trace ω (List α)} {xs : List γ}
    (h : ∀ x ∈ xs, Gathers report (f x) (g x)) :
    Gathers report (collect xs f) (collect xs g) := by
  induction xs with
  | nil => exact gathers_nil
  | cons x xs ih =>
      obtain ⟨hx, hxs⟩ := List.forall_mem_cons.mp h
      rw [collect_cons, collect_cons]
      exact hx.append (ih hxs)

end Trace

namespace Rule

open Trace

/-! ## A rule without a field -/

/-- The rule without a field. -/
def without (r : Rule) (name : String) : Rule :=
  ⟨r.fields.filter (·.1 != name.toList)⟩

/-- A field that is taken out is gone, and the others stay. -/
theorem get?_without (r : Rule) (name other : String) :
    (r.without name).get? other = if other = name then none else r.get? other := by
  obtain ⟨fields⟩ := r
  simp only [get?, without]
  induction fields with
  | nil => simp
  | cons field fields ih =>
      obtain ⟨key, value⟩ := field
      by_cases hkey : key = name.toList
      · subst hkey
        rw [List.filter_cons_of_neg (by simp), ih]
        by_cases hother : other = name
        · simp [hother]
        · simp [List.lookup_cons, hother, beq_eq_false_iff_ne.mpr (mt String.toList_inj.mp hother)]
      · rw [List.filter_cons_of_pos (by simpa using hkey), List.lookup_cons, List.lookup_cons, ih]
        by_cases hother : other = name
        · have hne : (name.toList == key) = false := beq_eq_false_iff_ne.mpr (Ne.symm hkey)
          simp [hother, hne]
        · simp [hother]

/-- The rule without the field that makes it deduplicate. -/
def plain (r : Rule) : Rule := r.without "deduplicate"

theorem get?_plain (r : Rule) {name : String} (h : name ≠ "deduplicate") :
    r.plain.get? name = r.get? name := by
  rw [plain, get?_without, if_neg h]

theorem deduplicates_plain (r : Rule) : r.plain.deduplicates = false := by
  rw [deduplicates, getD, plain, get?_without, if_pos rfl]
  decide

section

variable (r : Rule)

theorem applies_plain (versions : List Int) : r.plain.applies versions = r.applies versions := by
  rw [applies, applies, get?_plain r (by decide), get?_plain r (by decide)]

theorem getD_plain {name : String} (h : name ≠ "deduplicate") (default : String) :
    r.plain.getD name default = r.getD name default := by
  rw [getD, getD, get?_plain r h]

theorem name_plain : r.plain.name = r.name := getD_plain r (by decide) _

theorem pattern?_plain : r.plain.pattern? = r.pattern? := by
  rw [pattern?, pattern?, getD_plain r (by decide)]

theorem scopes_plain : r.plain.scopes = r.scopes := by
  rw [scopes, scopes, get?_plain r (by decide)]

theorem checkName?_plain : r.plain.checkName? = r.checkName? := by
  rw [checkName?, checkName?, getD_plain r (by decide)]

theorem isReplaced_plain (t : Text) : r.plain.isReplaced t = r.isReplaced t := by
  rw [isReplaced, isReplaced, getD_plain r (by decide)]

theorem status_plain : r.plain.status = r.status := by
  rw [status, status, getD_plain r (by decide)]

theorem reportAs_plain (s : Status) (detail : String) :
    r.plain.reportAs s detail = r.reportAs s detail := by
  rw [reportAs, reportAs, name_plain]

theorem hitFinding_plain : r.plain.hitFinding = r.hitFinding := by
  funext h
  rw [hitFinding, hitFinding, status_plain, label, label, name_plain, withFix, withFix,
    getD_plain r (by decide), message, message, get?_plain r (by decide), name_plain]

end

/-! ## The hits of both rules -/

variable {ext : Extension} {r : Rule}

/-- On a line, one rule gathers what the other writes. -/
theorem gathers_lineHits (hd : r.deduplicates = true) (p : Pattern) (file : String)
    (previous : Text) (n : Nat) (line : Text) :
    Gathers r.hitFinding (r.lineHits p file previous n line)
      (r.plain.lineHits p file previous n line) := by
  unfold lineHits
  rw [checkName?_plain]
  refine gathers_lift fun hit _ => ?_
  cases hit with
  | false => exact gathers_nil
  | true =>
      simp only [hd, deduplicates_plain, Bool.not_true, Bool.not_false, if_true]
      refine ⟨rfl, rfl, fun hits hhits => ?_⟩
      cases hhits
      exact congrArg (fun report => [report ⟨file, n⟩]) (hitFinding_plain r)

/-- So it is in a file. -/
theorem gathers_fileHits (hd : r.deduplicates = true) (p : Pattern) (file : Path × String) :
    Gathers r.hitFinding (fileHits ext r p file) (fileHits ext r.plain p file) := by
  unfold fileHits
  cases ext.volume.text file.1 with
  | error fault => exact gathers_nil
  | ok t =>
      dsimp only
      rw [isReplaced_plain]
      refine gathers_lift fun replaced _ => ?_
      cases replaced with
      | true => exact gathers_nil
      | false => exact gathers_collect fun x _ => gathers_lineHits hd p _ _ _ _

/-- Both rules find the same hits, and the plain one has reported them. -/
theorem gathers_hits (ext : Extension) (hd : r.deduplicates = true) (p : Pattern) :
    Gathers r.hitFinding (collect r.scopes (scopeHits ext r p))
      (collect r.plain.scopes (scopeHits ext r.plain p)) := by
  rw [scopes_plain]
  refine gathers_collect fun scope _ => gathers_lift fun _ _ => ?_
  exact gathers_collect fun file _ => gathers_fileHits hd p file

/-! ## The reports of both rules -/

/-- What a rule and the plain rule make of the same extension: both break off, both settle the rule
without a hit, or the one gathers the files that the findings of the other name. -/
inductive Agrees (r : Rule) (x y : Check Unit) : Prop where
  /-- Both break off with the same fault. -/
  | broken (fault : Fault) : x.outcome = .error fault → y.outcome = .error fault → Agrees r x y
  /-- Both write the same finding, and no other, that the rule passes or is skipped. -/
  | quiet (f : Finding) : f.status = .pass ∨ f.status = .skip → x.Ends [f] () → y.Ends [f] () →
      Agrees r x y
  /-- The one writes a single finding with the files of the other's findings, each once and in
  ascending order. -/
  | gathered (hits : List Hit) (files : List String) : hits ≠ [] →
      r.status = .fail ∨ r.status = .warn → y.Ends (hits.map r.hitFinding) () →
      x.Ends [r.filesFinding files] () → files.Pairwise (fun a b => a.toList < b.toList) →
      (∀ name, name ∈ files ↔ ∃ h ∈ hits, h.file = name) → Agrees r x y

theorem status_cases (r : Rule) : r.status = .fail ∨ r.status = .warn := by
  unfold status
  split
  · exact .inl rfl
  · exact .inr rfl

theorem agrees_lift {γ : Type} {e : Except Fault γ} {f g : γ → Check Unit}
    (h : ∀ a, e = .ok a → Agrees r (f a) (g a)) : Agrees r (liftM e >>= f) (liftM e >>= g) := by
  change Agrees r (Trace.bind ⟨[], e⟩ f) (Trace.bind ⟨[], e⟩ g)
  cases e with
  | error fault => exact .broken fault rfl rfl
  | ok a => exact h a rfl

theorem agrees_reportAs {s : Status} (hs : s = .pass ∨ s = .skip) (detail : String) :
    Agrees r (r.reportAs s detail) (r.plain.reportAs s detail) := by
  rw [reportAs_plain]
  exact .quiet ⟨s, r.label, detail⟩ hs ⟨rfl, rfl⟩ ⟨rfl, rfl⟩

/-- With a pattern, the two rules agree. -/
theorem agrees_applyPattern (hd : r.deduplicates = true) (p : Pattern) :
    Agrees r (r.applyPattern ext p) (r.plain.applyPattern ext p) := by
  unfold applyPattern
  obtain ⟨hsilent, hsame, hwritten⟩ := gathers_hits ext hd p
  generalize collect r.scopes (scopeHits ext r p) = x at hsilent hsame ⊢
  generalize collect r.plain.scopes (scopeHits ext r.plain p) = y at hsame hwritten ⊢
  cases hy : y.outcome with
  | error fault =>
      rw [hy] at hsame
      refine .broken fault ?_ ?_
      · change (Trace.bind x _).outcome = _
        rw [Trace.bind, hsame]
      · change (Trace.bind y _).outcome = _
        rw [Trace.bind, hy]
  | ok hits =>
      rw [hy] at hsame
      have hx : x.Ends [] hits := ⟨hsilent, hsame⟩
      have hy : y.Ends (hits.map r.hitFinding) hits := ⟨hwritten hits hy, hy⟩
      cases hits with
      | nil =>
          refine .quiet ⟨.pass, r.label, "No matches"⟩ (.inl rfl) ?_ ?_
          · exact ends_bind.mpr ⟨_, _, _, hx, ⟨rfl, rfl⟩, rfl⟩
          · refine ends_bind.mpr ⟨_, _, _, hy, ?_, rfl⟩
            rw [List.isEmpty_nil, if_pos rfl, reportAs_plain]
            exact ⟨rfl, rfl⟩
      | cons hit more =>
          refine .gathered (hit :: more) (filesOf (hit :: more)) (List.cons_ne_nil _ _)
            (status_cases r) ?_ ?_ (pairwise_filesOf _) fun name => mem_filesOf
          · refine ends_bind.mpr ⟨_, _, [], hy, ?_, (List.append_nil _).symm⟩
            simp only [List.isEmpty_cons, deduplicates_plain]
            exact ends_pure.mpr ⟨rfl, rfl⟩
          · refine ends_bind.mpr ⟨_, _, _, hx, ?_, rfl⟩
            simp only [List.isEmpty_cons, hd]
            exact ⟨rfl, rfl⟩

/-- With or without a pattern, the two rules agree. -/
theorem agrees_apply (ext : Extension) (versions : List Int) (hd : r.deduplicates = true) :
    Agrees r (r.apply ext versions) (r.plain.apply ext versions) := by
  unfold apply
  rw [applies_plain, pattern?_plain, getD_plain r (by decide)]
  cases r.applies versions with
  | false => exact agrees_reportAs (.inr rfl) _
  | true =>
      refine agrees_lift fun found _ => ?_
      cases found with
      | none => exact agrees_reportAs (.inr rfl) _
      | some p => exact agrees_applyPattern hd p

/-- A rule that deduplicates agrees with the plain rule on every extension, whatever versions it
declares.  The finding with the gathered files takes one line iff there is no newline in it, else a
line for each piece. -/
theorem apply_gathers (ext : Extension) (versions : List Int) (r : Rule)
    (hd : r.deduplicates = true) :
    Agrees r (r.apply ext versions) (r.plain.apply ext versions) ∧
      ∀ files, (r.apply ext versions).Ends [r.filesFinding files] () →
        let lines := (Outcome.ofCheck (r.apply ext versions)).lines
        lines = splitLines (r.filesFinding files).line ∧
          (lines = [(r.filesFinding files).line] ↔ '\n' ∉ (r.filesFinding files).line.toList) := by
  refine ⟨agrees_apply ext versions hd, fun files hends => ?_⟩
  have hlines : (Outcome.ofCheck (r.apply ext versions)).lines =
      splitLines (r.filesFinding files).line := by
    rw [Outcome.lines_ofCheck, hends.output, List.flatMap_singleton]
  refine ⟨hlines, ?_⟩
  rw [hlines]
  exact splitLines_eq_singleton_iff

/-- A script with two offences, and a directory with a script that comes before it in order. -/
def twoScripts : Extension :=
  ⟨⟨.dir [("ext", .dir
    [("lib", .dir [("a.js", .file (Text.encode "eval(x)".toList) false)]),
      ("z.js", .file (Text.encode "eval(y)\neval(z)".toList) false)])], .plain⟩, ["ext"]⟩

/-- A rule with two scopes that overlap. -/
def overlapping : Rule :=
  ⟨[("pattern".toList, .text "eval".toList), ("deduplicate".toList, .text "true".toList),
    ("scope".toList, .list ["*.js".toList, "z*".toList])]⟩

/-- Two scopes find the same script, and its name is gathered once. -/
theorem apply_gathers_overlapping :
    overlapping.deduplicates = true ∧
      (overlapping.plain.apply twoScripts []).output.map Finding.detail =
        ["z.js:1: ?", "z.js:2: ?", "lib/a.js:1: ?", "z.js:1: ?", "z.js:2: ?"] ∧
      ∃ (hits : List Hit) (files : List String), (overlapping.plain.apply twoScripts []).Ends
          (hits.map overlapping.hitFinding) () ∧
        (overlapping.apply twoScripts []).Ends [overlapping.filesFinding files] () ∧
        files.Pairwise (fun a b => a.toList < b.toList) ∧
        ∀ name, name ∈ files ↔ ∃ h ∈ hits, h.file = name := by
  have hd : overlapping.deduplicates = true := by decide
  have hplain : (overlapping.plain.apply twoScripts []).output.map Finding.detail =
        ["z.js:1: ?", "z.js:2: ?", "lib/a.js:1: ?", "z.js:1: ?", "z.js:2: ?"] ∧
      (overlapping.plain.apply twoScripts []).outcome.isOk = true := by
    decide +kernel
  refine ⟨hd, hplain.1, ?_⟩
  cases (apply_gathers twoScripts [] overlapping hd).1 with
  | broken fault _ hy =>
      rw [hy] at hplain
      cases hplain.2
  | quiet f _ _ hy =>
      rw [hy.output] at hplain
      exact absurd (congrArg List.length hplain.1) (by simp)
  | gathered hits files _ _ hy hx hsorted hmem => exact ⟨hits, files, hy, hx, hsorted, hmem⟩

/-- A newline in the message makes the gathered finding take two lines. -/
theorem lines_gathered_newline :
    let r : Rule := ⟨[("pattern".toList, .text "eval".toList),
      ("deduplicate".toList, .text "true".toList), ("message".toList, .text ['a', '\n', 'b'])]⟩
    let ext : Extension := ⟨Command.oneScript "" "eval(x)", ["ext"]⟩
    r.deduplicates = true ∧ (Outcome.ofCheck (r.apply ext [])).lines =
      ["WARN|?|a", "b in 1 file(s): extension.js"] := by
  decide +kernel

end Rule

end ExtensionAudit
