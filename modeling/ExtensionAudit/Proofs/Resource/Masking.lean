import Mathlib
import ExtensionAudit.Proofs.Resource.Cleanup
import ExtensionAudit.Proofs.Text
import ExtensionAudit.Text.Word

/-!
# Leaks that another property hides

In a file that is destroyed, a resource that stays in a property is let pass if a line that gives
something back holds the name of the property.  The name is looked for as a stretch of the line, and
a stretch may go on: `this._a` is found in a line that gives back `this._ab`.  So a resource is let
pass for one of three reasons (`not_reported_iff`).

* A line gives back the property, or the property stands in it as a whole.
* In a line that gives something back, the property's name goes on with a word character, so the
  line is about another property.
* A method that cleans up sets the property to null.

The second one hides a leak.  If it is excluded, then a resource that is let pass is cleaned up.
-/

namespace ExtensionAudit

/-! ## Names in texts -/

namespace Text

variable {needle t : Text}

/-- The first text stands in the second as a whole: no word character follows. -/
def StandsIn (needle t : Text) : Prop :=
  ∃ before after, t = before ++ needle ++ after ∧ after.head?.any isWord = false

/-- The first text stands in the second and goes on: a word character follows. -/
def RunsOn (needle t : Text) : Prop :=
  ∃ before after, t = before ++ needle ++ after ∧ after.head?.any isWord = true

/-- A place in a text can be looked for among its numbers. -/
theorem exists_append_iff (P : Text → Prop) :
    (∃ before after, t = before ++ needle ++ after ∧ P after) ↔
      ∃ n < t.length + 1, needle <+: t.drop n ∧ P (t.drop (n + needle.length)) := by
  constructor
  · rintro ⟨before, after, rfl, hafter⟩
    refine ⟨before.length, by simp, ?_, ?_⟩
    · simp [List.append_assoc]
    · rw [← List.length_append, List.drop_left]
      exact hafter
  · rintro ⟨n, -, ⟨after, hafter⟩, hrest⟩
    refine ⟨t.take n, after, ?_, ?_⟩
    · rw [List.append_assoc, hafter, List.take_append_drop]
    · rwa [← List.drop_drop, ← hafter, List.drop_left] at hrest

instance (needle t : Text) : Decidable (StandsIn needle t) :=
  decidable_of_iff _ (exists_append_iff _).symm

instance (needle t : Text) : Decidable (RunsOn needle t) :=
  decidable_of_iff _ (exists_append_iff _).symm

theorem standsIn_refl (t : Text) : StandsIn t t :=
  ⟨[], [], by simp, rfl⟩

/-- Wherever a text occurs, it stands there as a whole or goes on. -/
theorem infix_iff_standsIn_or_runsOn : needle <:+: t ↔ StandsIn needle t ∨ RunsOn needle t := by
  constructor
  · rintro ⟨before, after, rfl⟩
    cases hafter : after.head?.any isWord with
    | false => exact .inl ⟨before, after, rfl, hafter⟩
    | true => exact .inr ⟨before, after, rfl, hafter⟩
  · rintro (⟨before, after, rfl, -⟩ | ⟨before, after, rfl, -⟩)
    · exact ⟨before, after, rfl⟩
    · exact ⟨before, after, rfl⟩

end Text

namespace Resource

open Text (StandsIn RunsOn)

/-! ## Lines that give something back -/

/-- The property stands in the line's text, or in the property that the line gives back, as a
whole. -/
def Release.Names (r : Release) (reference : Text) : Prop :=
  StandsIn reference r.text ∨ ∃ other ∈ r.reference?, StandsIn reference other

/-- The line gives back a property, and this is the one, or it stands in the line as a whole. -/
def Release.CleansUp (r : Release) (reference : Text) : Prop :=
  ∃ other, given? r.reference? = some other ∧ (other = reference ∨ StandsIn reference r.text)

/-- The line gives back a property, and the name of this one goes on in its text. -/
def Release.Masks (r : Release) (reference : Text) : Prop :=
  (given? r.reference?).isSome = true ∧ RunsOn reference r.text

instance (r : Release) (reference : Text) : Decidable (r.Names reference) :=
  inferInstanceAs (Decidable (_ ∨ ∃ other ∈ r.reference?, StandsIn reference other))

instance (r : Release) (reference : Text) : Decidable (r.Masks reference) :=
  inferInstanceAs (Decidable (_ ∧ RunsOn reference r.text))

theorem Release.frees_iff {r : Release} {reference : Text} :
    r.frees reference = true ↔ r.CleansUp reference ∨ r.Masks reference := by
  unfold frees CleansUp Masks
  cases given? r.reference? with
  | none => simp
  | some other =>
      simp only [Bool.or_eq_true, beq_iff_eq, Text.occursIn_iff, Text.infix_iff_standsIn_or_runsOn]
      simp [or_assoc]

theorem Release.CleansUp.names {r : Release} {reference : Text} (h : r.CleansUp reference) :
    r.Names reference := by
  obtain ⟨other, hother, rfl | hstands⟩ := h
  · exact .inr ⟨other, (Option.filter_eq_some_iff.mp hother).1, Text.standsIn_refl other⟩
  · exact .inl hstands

/-! ## Resources that are let pass -/

theorem Creation.not_isExempt {c : Creation} {scan : Scan} {reference : Text}
    (hwidget : ¬ (c.kind = .widget ∧ reference ∈ scan.childReferences))
    (hproxy : ¬ (c.kind = .dbus ∧ "makeProxyWrapper".toList <:+: c.text)) :
    c.isExempt scan reference = false := by
  rw [← Text.occursIn_iff] at hproxy
  rw [isExempt, Bool.or_eq_false_iff]
  constructor
  · simpa using hwidget
  · simpa using hproxy

/-- Each file stands in the scans once, so it is reported by its own scan. -/
theorem reported_iff_of_mem {scans : Scans} {own : Ownership} (hkeys : scans.keys.Nodup)
    {file parent : String} {scan : Scan} (hfile : (file, scan) ∈ scans)
    (hparent : parent? own file = some parent) {c : Creation} (hc : c ∈ scan.creations) :
    Reported scans own file c ↔ (scan.cause? (destroys own parent file) c).isSome = true := by
  rw [reported_iff]
  constructor
  · rintro ⟨scan', hfile', -, parent', hparent', hcause⟩
    rw [← Table.get?_eq_some_iff hkeys] at hfile hfile'
    cases hfile.symm.trans hfile'
    cases hparent.symm.trans hparent'
    exact hcause
  · exact fun hcause => ⟨scan, hfile, hc, parent, hparent, hcause⟩

/-- In a file that its owner destroys, a resource that stays in a property is let pass iff a line
cleans the property up, or the name of the property goes on in a line that gives another one back,
or a method that cleans up sets it to null.  If its name goes on in no such line, then a resource
that is let pass is one whose property a line names as a whole or a method sets to null. -/
theorem not_reported_iff (scans : Scans) (own : Ownership) (hkeys : scans.keys.Nodup)
    (file : String) (scan : Scan) (hfile : (file, scan) ∈ scans) (hcleanup : scan.hasCleanup = true)
    (parent : String) (hparent : parent? own file = some parent)
    (hcalls : destroys own parent file = true) (c : Creation) (hc : c ∈ scan.creations)
    (reference : Text) (hstored : c.stored? = some reference) (hne : reference ≠ [])
    (hwidget : ¬ (c.kind = .widget ∧ reference ∈ scan.childReferences))
    (hproxy : ¬ (c.kind = .dbus ∧ "makeProxyWrapper".toList <:+: c.text)) :
    (¬ Reported scans own file c ↔ (∃ r ∈ scan.releases, r.CleansUp reference) ∨
        (∃ r ∈ scan.releases, r.Masks reference) ∨ reference ∈ releasedReferences scan.code) ∧
      ((∀ r ∈ scan.releases, ¬ r.Masks reference) → ¬ Reported scans own file c →
        (∃ r ∈ scan.releases, r.Names reference) ∨ reference ∈ releasedReferences scan.code) := by
  have hgiven : given? c.stored? = some reference := by
    simp [given?, hstored, hne]
  have hreported : Reported scans own file c ↔ (∀ r ∈ scan.releases, r.frees reference = false) ∧
      reference ∉ releasedReferences scan.code := by
    rw [reported_iff_of_mem hkeys hfile hparent hc, hcalls, cause?_of_called hcleanup,
      Option.isSome_map, isSome_leak?, hgiven]
    simp [Creation.not_isExempt hwidget hproxy]
  have hiff : ¬ Reported scans own file c ↔ (∃ r ∈ scan.releases, r.CleansUp reference) ∨
      (∃ r ∈ scan.releases, r.Masks reference) ∨ reference ∈ releasedReferences scan.code := by
    rw [hreported, not_and_or, not_not, ← or_assoc]
    refine or_congr_left ?_
    simp only [not_forall, Bool.not_eq_false, Release.frees_iff, exists_prop, and_or_left,
      exists_or]
  refine ⟨hiff, fun hmasks hpass => ?_⟩
  rcases hiff.mp hpass with ⟨r, hr, hcleans⟩ | ⟨r, hr, hmask⟩ | hnull
  · exact .inl ⟨r, hr, hcleans.names⟩
  · exact absurd hmask (hmasks r hr)
  · exact .inr hnull

/-- A module that stores a connection and gives back the one in a property. -/
def givingBack (name : Text) : Scan where
  creations := [⟨1, .signal, "this._a = x.connect()".toList, some "this._a".toList⟩]
  releases := [⟨3, .signal, "x.disconnect(".toList ++ name ++ [')'], some name⟩]
  hasDestroy := true

/-- A resource that is given back under its own name is not reported. -/
theorem not_reported_iff_givingBack :
    let scan := givingBack "this._a".toList
    (∀ r ∈ scan.releases, ¬ r.Masks "this._a".toList) ∧
      (∀ c ∈ scan.creations, ¬ Reported [("m.js", scan)] (oneOwner (some 2)) "m.js" c) ∧
      ((∃ r ∈ scan.releases, r.Names "this._a".toList) ∨
        "this._a".toList ∈ releasedReferences scan.code) := by
  intro scan
  have hmasks : ∀ r ∈ scan.releases, ¬ r.Masks "this._a".toList := by decide
  have hpass : ∀ c ∈ scan.creations, ¬ Reported [("m.js", scan)] (oneOwner (some 2)) "m.js" c := by
    decide
  refine ⟨hmasks, hpass, ?_⟩
  have hboth := not_reported_iff [("m.js", scan)] (oneOwner (some 2)) (by decide) "m.js" scan
    List.mem_cons_self rfl "a.js" (by decide) (by decide) _ List.mem_cons_self "this._a".toList rfl
    (by decide) (by simp) (by simp)
  exact hboth.2 hmasks (hpass _ List.mem_cons_self)

/-- The connection in `this._a` is not given back, and what is given back hides it. -/
theorem not_reported_givingBack_longer :
    let scan := givingBack "this._ab".toList
    let scans : Scans := [("m.js", scan)]
    let own := oneOwner (some 2)
    scans.keys.Nodup ∧ scan.hasCleanup = true ∧ parent? own "m.js" = some "a.js" ∧
      destroys own "a.js" "m.js" = true ∧
      scan.creations = [⟨1, .signal, "this._a = x.connect()".toList, some "this._a".toList⟩] ∧
      (∀ c ∈ scan.creations, ¬ Reported scans own "m.js" c) ∧
      ¬ ((∃ r ∈ scan.releases, r.Names "this._a".toList) ∨
        "this._a".toList ∈ releasedReferences scan.code) := by
  decide

end Resource

end ExtensionAudit
