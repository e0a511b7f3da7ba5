import Mathlib
import ExtensionAudit.Lifecycle.Timeouts
import ExtensionAudit.Proofs.Lifecycle.Widgets
import ExtensionAudit.Proofs.Pattern.Takes

/-!
# Removed timeouts

A property that stores a timeout should be removed in `disable`.  The check has two tests for a
property: whether a removal is called with this property, and whether a removal is called at all.
A property is reported only if both fail.  Main statement: the check passes iff a timeout is stored
and `disable` calls for a removal of anything (`timeoutRemoval_passes_iff`).

*Calls.*  Both tests are read as statements about the calls in a text (`found_removeCall_iff`,
`found_removalOf_iff`).  A call with the property is a call, so the first test never decides.

*Stored timeouts.*  `Stores name t` says that the text assigns the result of a call to a property.
There is a name to check iff some property is assigned to in this way.
-/

namespace ExtensionAudit.Lifecycle

open Pattern

/-! ## Calls for a removal -/

/-- The ways to name the removal of a timeout. -/
def removalWords : List Text := ["Source.remove".toList, "source_remove".toList]

/-- A removal of the property is called in the text. -/
def RemovesProperty (name t : Text) : Prop :=
  ∃ space rest, Calls removalWords (space ++ ("this.".toList ++ (name ++ rest))) t ∧
    (∀ x ∈ space, Text.isBlank x = true) ∧ rest.head?.any Text.isWord = false

/-- The name of a removal. -/
def removalNode : Node := .group 1 (.oneOf removalWords)

theorem flat_removalNode : removalNode.Flat 0 2 :=
  .group (Nat.zero_le 0) (Node.flat_oneOf _)

theorem spans_removalNode {front piece back : Text} :
    removalNode.Spans front piece back ↔ piece ∈ removalWords := by
  rw [removalNode, Node.spans_group]
  exact Node.spans_oneOf (List.cons_ne_nil _ _)

/-- A removal starts with one of two letters. -/
theorem head?_removalWords {word : Text} (h : word ∈ removalWords) (back : Text) :
    (word ++ back).head?.any
      (CharSet.has ⟨[.one 83, .one 115], false, false, false⟩) = true := by
  rcases List.mem_pair.mp h with rfl | rfl <;> rfl

theorem removeCall_eq : removeCall =
    ⟨removalNode.called, [],
      ⟨14, some ⟨[.one 83, .one 115], false, false, false⟩, false⟩⟩ := by
  decide +kernel

theorem spans_removeCall {front piece back : Text} :
    removeCall.node.Spans front piece back ↔ ∃ word gap,
      piece = word ++ (gap ++ ['(']) ∧ word ∈ removalWords ∧ ∀ x ∈ gap, Text.isBlank x = true := by
  rw [removeCall_eq, Node.spans_called]
  simp only [spans_removalNode]

/-- The pattern for a removal is plain. -/
theorem plain_removeCall : removeCall.Plain 2 where
  flat := by
    rw [removeCall_eq]
    exact flat_removalNode.called
  starts := by
    intro s hs front piece back h
    rw [removeCall_eq] at hs
    cases hs
    obtain ⟨word, gap, rfl, hword, -⟩ := spans_removeCall.mp h
    rw [List.append_assoc]
    exact head?_removalWords hword _
  least := by
    rw [removeCall_eq]
    decide

theorem found_removeCall_iff {t : Text} :
    removeCall.found t = true ↔ ∃ after, Calls removalWords after t :=
  plain_removeCall.found_iff_calls fun _ _ _ => spans_removeCall

/-- The removal of a property, up to its name. -/
def propertyRemovalNode : Node :=
  .seq removalNode (.seq .blanks (.seq (.one (.literal '('.toNat))
    (.seq .blanks (.word "this.".toList))))

theorem removalOf_eq (name : Text) : removalOf name =
    ⟨.seq propertyRemovalNode (.spelled name .empty), [],
      .of false (.seq propertyRemovalNode (.spelled name .empty))⟩ := by
  have hfixed : (Pattern.of "(Source\\.remove|source_remove)\\s*\\(\\s*this\\.").node =
        propertyRemovalNode ∧
      (Pattern.of "(Source\\.remove|source_remove)\\s*\\(\\s*this\\.").names = [] := by
    decide +kernel
  rw [removalOf, followedBy, hfixed.1, hfixed.2]

/-- What the pattern for the removal of a name spans. -/
theorem spans_removalOf {name front piece back : Text} :
    (removalOf name).node.Spans front piece back ↔
      ∃ word gap space, piece = word ++ (gap ++ '(' :: (space ++ ("this.".toList ++ name))) ∧
        word ∈ removalWords ∧ (∀ x ∈ gap, Text.isBlank x = true) ∧
        ∀ x ∈ space, Text.isBlank x = true := by
  rw [removalOf_eq]
  simp only [propertyRemovalNode, Node.spans_seq, spans_removalNode, Node.spans_blanks,
    Node.spans_literal, Node.spans_word, Node.spans_spelled, Node.spans_empty]
  constructor
  · rintro ⟨_, _, rfl, ⟨word, _, rfl, hword, gap, _, rfl, hgap, _, _, rfl, rfl, space, _, rfl,
      hspace, rfl⟩, _, rfl, rfl⟩
    exact ⟨word, gap, space, by simp, hword, hgap, hspace⟩
  · rintro ⟨word, gap, space, rfl, hword, hgap, hspace⟩
    exact ⟨word ++ (gap ++ (['('] ++ (space ++ "this.".toList))), name ++ [], by simp,
      ⟨word, _, rfl, hword, gap, _, rfl, hgap, ['('], _, rfl, rfl, space, _, rfl, hspace, rfl⟩,
      [], rfl, rfl⟩

/-- The pattern for the removal of a name is plain. -/
theorem plain_removalOf (name : Text) : (removalOf name).Plain 2 where
  flat := by
    rw [removalOf_eq]
    exact .seq (flat_removalNode.seq (.seq (.rep rfl) (.seq .one (.seq (.rep rfl)
      (Node.flat_word _))))) (.spelled .empty _)
  starts := by
    intro s hs front piece back h
    rw [removalOf_eq] at hs
    obtain ⟨word, gap, space, rfl, hword, -⟩ := spans_removalOf.mp h
    obtain ⟨r, hr, rfl⟩ := Start.exists_firstSet hs
    have hset : propertyRemovalNode.firstSet? =
        some ⟨[.one 83, .one 115], false, false, false⟩ := by decide
    obtain rfl := Option.some_inj.mp (hr.symm.trans hset)
    rw [List.append_assoc]
    exact head?_removalWords hword _
  least := by
    rw [removalOf_eq]
    exact Start.least_of_le ..

/-- The test for one property does not look at what follows its name. -/
theorem found_removalOf_iff {name t : Text} :
    (removalOf name).found t = true ↔ ∃ space rest,
      Calls removalWords (space ++ ("this.".toList ++ (name ++ rest))) t ∧
        ∀ x ∈ space, Text.isBlank x = true := by
  rw [(plain_removalOf name).found_iff]
  simp only [spans_removalOf]
  constructor
  · rintro ⟨front, _, back, rfl, word, gap, space, rfl, hword, hgap, hspace⟩
    exact ⟨space, back, ⟨front, word, gap, by simp, hword, hgap⟩, hspace⟩
  · rintro ⟨space, rest, ⟨front, word, gap, rfl, hword, hgap⟩, hspace⟩
    exact ⟨front, _, rest, by simp, word, gap, space, rfl, hword, hgap, hspace⟩

theorem RemovesProperty.found_removalOf {name t : Text} (h : RemovesProperty name t) :
    (removalOf name).found t = true := by
  obtain ⟨space, rest, hcall, hspace, -⟩ := h
  exact found_removalOf_iff.mpr ⟨space, rest, hcall, hspace⟩

/-- A removal of one property is a removal, so the first test never decides. -/
theorem removal_missing_eq (name block : Text) :
    (!(removalOf name).found block && !removeCall.found block) = !removeCall.found block := by
  by_cases hfound : (removalOf name).found block = true
  · obtain ⟨space, rest, hcall, -⟩ := found_removalOf_iff.mp hfound
    simp [hfound, found_removeCall_iff.mpr ⟨_, hcall⟩]
  · simp [hfound]

/-! ## Stored timeouts -/

/-- The calls that start a timeout. -/
def timeoutWords : List Text := ["timeout_add".toList, "idle_add".toList]

/-- The text is the name of a property that a timeout can be stored in. -/
def IsStoreName (name : Text) : Prop :=
  ∃ w, name = '_' :: w ∧ w ≠ [] ∧ ∀ x ∈ w, Text.isWord x = true

/-- The text assigns the result of a call that starts a timeout to a property.  The call stands on
the line of the assignment, blanks apart. -/
def Stores (name t : Text) : Prop :=
  ∃ front gap space filler call back,
    t = front ++ ("this.".toList ++
      (name ++ (gap ++ '=' :: (space ++ (filler ++ (call ++ back)))))) ∧
    IsStoreName name ∧ (∀ x ∈ gap, Text.isBlank x = true) ∧
    (∀ x ∈ space, Text.isBlank x = true) ∧ '\n' ∉ filler ∧ call ∈ timeoutWords

/-- The name of a property that stores a timeout. -/
def storeNode : Node :=
  .group 1 (.seq (.one (.literal '_'.toNat))
    (.rep .greedy 1 none (.one (.inSet ⟨[.cls .word false], false, false, false⟩))))

/-- What follows the name. -/
def callNode : Node :=
  .seq .blanks (.seq (.one (.literal '='.toNat)) (.seq .blanks
    (.seq (.rep .lazy 0 none (.one .notNewline)) (.group 2 (.oneOf timeoutWords)))))

theorem storedTimeout_eq : storedTimeout =
    ⟨.spelled "this.".toList (.seq storeNode callNode), [], ⟨16, none, false⟩⟩ := by
  decide +kernel

theorem flat_storeNode : storeNode.Flat 0 2 :=
  .group (Nat.zero_le 0) (.seq .one (.rep rfl))

theorem flat_callNode : callNode.Flat 2 4 :=
  .seq (.rep rfl) (.seq .one (.seq (.rep rfl) (.seq .lazy
    (.group (Nat.le_refl _) (Node.flat_oneOf _)))))

/-- The pattern for a stored timeout is plain. -/
theorem plain_storedTimeout : storedTimeout.Plain 4 where
  flat := by
    rw [storedTimeout_eq]
    exact .spelled (flat_storeNode.seq flat_callNode) _
  starts := by
    rw [storedTimeout_eq]
    rintro s ⟨⟩
  least := by
    rw [storedTimeout_eq]
    decide

/-- The group of the name takes a name and marks where it stands. -/
theorem takes_storeNode {front piece back : Text} {ns : Marks} :
    storeNode.Takes front piece back [] ns ↔ IsStoreName piece ∧
      ns = [some (.between front (piece ++ back)), some (.between (front ++ piece) back)] := by
  have hword : (CharTest.inSet ⟨[.cls .word false], false, false, false⟩).passes = Text.isWord := by
    funext x
    simp [CharTest.passes, CharSet.has, Member.covers, CharClass.has]
  simp only [storeNode, Node.Takes, hword]
  constructor
  · rintro ⟨_, ⟨_, w, _, rfl, ⟨⟨x, rfl, hx⟩, rfl⟩, ⟨hlength, -⟩, hw, rfl⟩, rfl⟩
    obtain rfl : x = '_' := Char.toNat_inj.mp (beq_iff_eq.mp hx)
    exact ⟨⟨w, rfl, List.length_pos_iff.mp hlength, hw⟩, rfl⟩
  · rintro ⟨⟨w, rfl, hne, hw⟩, rfl⟩
    exact ⟨_, ⟨['_'], w, _, rfl, ⟨⟨'_', rfl, by decide⟩, rfl⟩,
      ⟨List.length_pos_iff.mpr hne, by simp⟩, hw, rfl⟩, rfl⟩

/-- What the pattern spans after the name. -/
theorem spans_callNode {front piece back : Text} : callNode.Spans front piece back ↔
    ∃ gap space filler call, piece = gap ++ '=' :: (space ++ (filler ++ call)) ∧
      (∀ x ∈ gap, Text.isBlank x = true) ∧ (∀ x ∈ space, Text.isBlank x = true) ∧
      '\n' ∉ filler ∧ call ∈ timeoutWords := by
  have hwords : timeoutWords ≠ [] := List.cons_ne_nil _ _
  have hfiller {front piece back : Text} :
      (Node.rep .lazy 0 none (.one .notNewline)).Spans front piece back ↔ '\n' ∉ piece := by
    have hnone : (∀ x ∈ piece, (x != '\n') = true) ↔ '\n' ∉ piece := by
      simp only [bne_iff_ne]
      exact ⟨fun h hmem => h _ hmem rfl, fun h x hx heq => h (heq ▸ hx)⟩
    simp [Node.Spans, Node.Takes, CharTest.passes, ← hnone]
  simp only [callNode, Node.spans_seq, Node.spans_blanks, Node.spans_literal, Node.spans_group,
    Node.spans_oneOf hwords, hfiller]
  constructor
  · rintro ⟨gap, _, rfl, hgap, _, _, rfl, rfl, space, _, rfl, hspace, filler, call, rfl, hfiller,
      hcall⟩
    exact ⟨gap, space, filler, call, by simp, hgap, hspace, hfiller, hcall⟩
  · rintro ⟨gap, space, filler, call, rfl, hgap, hspace, hfiller, hcall⟩
    exact ⟨gap, _, rfl, hgap, ['='], _, rfl, rfl, space, _, rfl, hspace, filler, call, rfl,
      hfiller, hcall⟩

/-- What the pattern takes stores a timeout, and the group holds its name. -/
theorem takes_storedTimeout {front piece back : Text} {ms : Marks}
    (h : storedTimeout.node.Takes front piece back [] ms) :
    ∃ name rest os, piece = "this.".toList ++ (name ++ rest) ∧
      Stores name (front ++ (piece ++ back)) ∧
      ms = some (.between (front ++ "this.".toList) (name ++ (rest ++ back))) ::
        some (.between (front ++ "this.".toList ++ name) (rest ++ back)) :: os := by
  rw [storedTimeout_eq, Node.takes_spelled] at h
  obtain ⟨_, rfl, name, rest, os, rfl, hname, hcall⟩ := h
  obtain ⟨hstore, rfl⟩ := takes_storeNode.mp hname
  obtain ⟨⟨os, rfl⟩, -⟩ := hcall.prefix_marks flat_callNode (Nat.le_refl 2)
  refine ⟨name, rest, os, rfl, ?_, rfl⟩
  obtain ⟨gap, space, filler, call, rfl, hgap, hspace, hfiller, hword⟩ :=
    spans_callNode.mp hcall.spans
  exact ⟨front, gap, space, filler, call, back, by simp, hstore, hgap, hspace, hfiller, hword⟩

/-- The pattern is found iff some name stores a timeout. -/
theorem found_storedTimeout_iff {t : Text} :
    storedTimeout.found t = true ↔ ∃ name, Stores name t := by
  rw [plain_storedTimeout.found_iff]
  constructor
  · rintro ⟨front, piece, back, rfl, ms, htakes⟩
    obtain ⟨name, -, -, -, hstores, -⟩ := takes_storedTimeout htakes
    exact ⟨name, hstores⟩
  · rintro ⟨name, front, gap, space, filler, call, back, rfl, hname, hcall⟩
    refine ⟨front, "this.".toList ++ (name ++ (gap ++ '=' :: (space ++ (filler ++ call)))), back,
      by simp, ?_⟩
    rw [storedTimeout_eq, Node.spans_spelled]
    refine ⟨_, rfl, Node.spans_seq.mpr ⟨name, _, rfl, ⟨_, takes_storeNode.mpr ⟨hname, rfl⟩⟩, ?_⟩⟩
    exact spans_callNode.mpr ⟨gap, space, filler, call, rfl, hcall⟩

theorem mem_timeoutNames {name t : Text} :
    name ∈ timeoutNames t ↔ ∃ m ∈ storedTimeout.all t, m.group 1 = name := by
  rw [timeoutNames, List.mem_mergeSort, List.mem_eraseDups, List.mem_map]

theorem stores_of_mem_timeoutNames {name t : Text} (h : name ∈ timeoutNames t) : Stores name t := by
  obtain ⟨m, hm, rfl⟩ := mem_timeoutNames.mp h
  have hpos : 0 < storedTimeout.node.width.least := by
    rw [storedTimeout_eq]
    decide
  obtain ⟨front, _, rfl, hmatch⟩ := plain_storedTimeout.of_mem_all hpos hm
  obtain ⟨piece, back, rfl, -, htakes⟩ := plain_storedTimeout.of_matchAt hmatch
  obtain ⟨name, rest, os, rfl, hstores, hmarks⟩ := takes_storedTimeout htakes
  rwa [Found.group_one_between hmarks]

theorem timeoutNames_eq_nil_iff {t : Text} : timeoutNames t = [] ↔ ¬ ∃ name, Stores name t := by
  rw [← found_storedTimeout_iff, Bool.not_eq_true, ← all_eq_nil_iff, List.eq_nil_iff_forall_not_mem]
  simp only [mem_timeoutNames, not_exists, not_and]
  constructor
  · intro hnone
    exact List.eq_nil_iff_forall_not_mem.mpr fun m hm => hnone _ m hm rfl
  · rintro hnil name m hm
    rw [hnil] at hm
    cases hm

/-! ## The check -/

/-- What the check says where nothing is missing. -/
def removalPass : Finding :=
  ⟨.pass, "lifecycle/timeout-not-removed",
    "All stored timeout/idle IDs have Source.remove() in disable()"⟩

/-- What the check says of a property. -/
def removalFailure (name : Text) : Finding :=
  ⟨.fail, "lifecycle/timeout-not-removed",
    s!"this.{String.ofList name} stores timeout/idle source but no " ++
      "GLib.Source.remove() call found in disable()"⟩

variable {ext : Extension} {t : Text}

/-- Without a stored timeout or a method `disable` nothing is said. -/
theorem ends_checkTimeoutRemoval_nil (hmain : mainCode? ext = .ok (some t))
    (h : timeoutNames t = [] ∨ disableBlock? t = none) :
    Trace.Ends (checkTimeoutRemoval ext) [] () := by
  refine Trace.ends_lift_bind hmain ?_
  dsimp only
  split
  next => exact Trace.ends_pure.mpr ⟨rfl, rfl⟩
  next => exact Trace.ends_pure.mpr ⟨rfl, rfl⟩
  next block hblock hnames =>
      rcases h with h | h
      · exact absurd h hnames
      · cases hblock.symm.trans h

/-- All properties that store a timeout are reported, or none is. -/
theorem ends_checkTimeoutRemoval {block : Text} (hmain : mainCode? ext = .ok (some t))
    (hnames : timeoutNames t ≠ []) (hblock : disableBlock? t = some block) :
    Trace.Ends (checkTimeoutRemoval ext)
      (if removeCall.found block = true then [removalPass]
        else (timeoutNames t).map removalFailure) () := by
  obtain ⟨name, names, hcons⟩ := List.exists_cons_of_ne_nil hnames
  refine Trace.ends_lift_bind hmain ?_
  dsimp only
  simp only [removal_missing_eq, hcons, hblock]
  cases removeCall.found block with
  | true =>
      rw [if_pos rfl]
      exact Trace.ends_if_pos (by simp) (Trace.ends_write.mpr rfl)
  | false =>
      rw [if_neg Bool.false_ne_true]
      refine Trace.ends_if_neg (by simp) ?_
      simp only [Bool.not_false, List.filter_true]
      exact Trace.ends_each_write _ removalFailure

/-- The check passes iff a timeout is stored and `disable()` has a removal of any name. -/
theorem ends_removalPass_iff (hmain : mainCode? ext = .ok (some t)) :
    Trace.Ends (checkTimeoutRemoval ext) [removalPass] () ↔ (∃ name, Stores name t) ∧
      ∃ block, disableBlock? t = some block ∧ ∃ after, Calls removalWords after block := by
  constructor
  · intro hpass
    have hsome : ¬ (timeoutNames t = [] ∨ disableBlock? t = none) := fun hnone => by
      cases (ends_checkTimeoutRemoval_nil hmain hnone).output.symm.trans hpass.output
    obtain ⟨hnames, hblock⟩ := not_or.mp hsome
    obtain ⟨block, hblock⟩ := Option.ne_none_iff_exists'.mp hblock
    refine ⟨not_not.mp (mt timeoutNames_eq_nil_iff.mpr hnames), block, hblock, ?_⟩
    rw [← found_removeCall_iff]
    by_contra hfound
    have hends := ends_checkTimeoutRemoval hmain hnames hblock
    rw [if_neg hfound] at hends
    have hmem : removalPass ∈ (timeoutNames t).map removalFailure := by
      rw [← hends.output, hpass.output]
      exact List.mem_singleton_self _
    obtain ⟨name, -, hname⟩ := List.mem_map.mp hmem
    cases congrArg Finding.status hname
  · rintro ⟨hstores, block, hblock, hremoves⟩
    have hnames : timeoutNames t ≠ [] := fun hnil => timeoutNames_eq_nil_iff.mp hnil hstores
    have hends := ends_checkTimeoutRemoval hmain hnames hblock
    rwa [if_pos (found_removeCall_iff.mpr hremoves)] at hends

/-- The check passes iff a timeout is stored and `disable` calls for the removal of anything.  So a
pass says of a stored property that it is removed only where it is removed, or where nothing is; and
properties are reported only if nothing is removed. -/
theorem timeoutRemoval_passes_iff (ext : Extension) (t : Text)
    (hmain : mainCode? ext = .ok (some t)) :
    (Trace.Ends (checkTimeoutRemoval ext) [removalPass] () ↔ (∃ name, Stores name t) ∧
      ∃ block, disableBlock? t = some block ∧ ∃ after, Calls removalWords after block) ∧
    ∀ block, disableBlock? t = some block →
      (∀ name, Stores name t →
        ((Trace.Ends (checkTimeoutRemoval ext) [removalPass] () → RemovesProperty name block) ↔
          RemovesProperty name block ∨ ¬ ∃ after, Calls removalWords after block)) ∧
      ((¬ ∃ after, Calls removalWords after block) →
        Trace.Ends (checkTimeoutRemoval ext) ((timeoutNames t).map removalFailure) () ∧
          ∀ name ∈ timeoutNames t, Stores name t) := by
  have hpasses := ends_removalPass_iff hmain
  refine ⟨hpasses, fun block hblock => ⟨fun name hname => ?_, fun hnone => ?_⟩⟩
  · have hany : Trace.Ends (checkTimeoutRemoval ext) [removalPass] () ↔
        ∃ after, Calls removalWords after block := by
      rw [hpasses, hblock]
      constructor
      · rintro ⟨-, _, ⟨⟩, hremoves⟩
        exact hremoves
      · exact fun hremoves => ⟨⟨name, hname⟩, block, rfl, hremoves⟩
    rw [hany, imp_iff_or_not]
  · refine ⟨?_, fun name => stores_of_mem_timeoutNames⟩
    by_cases hnames : timeoutNames t = []
    · rw [hnames]
      exact ends_checkTimeoutRemoval_nil hmain (.inl hnames)
    · have hends := ends_checkTimeoutRemoval hmain hnames hblock
      rwa [if_neg (mt found_removeCall_iff.mp hnone)] at hends

/-- A timeout is stored, and `disable` removes nothing. -/
def keptScript : Text :=
  "this._a = GLib.timeout_add(f);\ndisable() \x7b\nthis._a = null;\n\x7d".toList

/-- The timeout is reported. -/
theorem timeoutRemoval_passes_iff_kept :
    Trace.Ends (checkTimeoutRemoval (scripted keptScript))
      ((timeoutNames keptScript).map removalFailure) () ∧
        "_a".toList ∈ timeoutNames keptScript := by
  have hscript : mainCode? (scripted keptScript) = .ok (some keptScript) ∧
      disableBlock? keptScript = some "\nthis._a = null;\n\x7d".toList ∧
      removeCall.found "\nthis._a = null;\n\x7d".toList = false ∧
      ∃ m ∈ storedTimeout.all keptScript, m.group 1 = "_a".toList := by
    decide +kernel
  obtain ⟨hmain, hblock, hnone, hmem⟩ := hscript
  obtain ⟨-, hreports⟩ := timeoutRemoval_passes_iff (scripted keptScript) keptScript hmain
  obtain ⟨hends, -⟩ :=
    (hreports _ hblock).2 (mt found_removeCall_iff.mpr (ne_true_of_eq_false hnone))
  exact ⟨hends, mem_timeoutNames.mpr hmem⟩

/-- Two timeouts are stored, and `disable` removes the first. -/
def halfRemovedScript : Text :=
  ("this._a = GLib.timeout_add(f);\nthis._b = GLib.idle_add(g);\n" ++
    "disable() \x7b\nGLib.Source.remove(this._a);\n\x7d").toList

/-- The check passes, although the second timeout is not removed. -/
theorem timeoutRemoval_halfRemoved :
    Trace.Ends (checkTimeoutRemoval (scripted halfRemovedScript)) [removalPass] () ∧
      Stores "_b".toList halfRemovedScript ∧ ∃ block,
        disableBlock? halfRemovedScript = some block ∧ ¬ RemovesProperty "_b".toList block := by
  have hscript : mainCode? (scripted halfRemovedScript) = .ok (some halfRemovedScript) ∧
      disableBlock? halfRemovedScript = some "\nGLib.Source.remove(this._a);\n\x7d".toList ∧
      removeCall.found "\nGLib.Source.remove(this._a);\n\x7d".toList = true ∧
      (removalOf "_b".toList).found "\nGLib.Source.remove(this._a);\n\x7d".toList = false ∧
      ∃ m ∈ storedTimeout.all halfRemovedScript, m.group 1 = "_b".toList := by
    decide +kernel
  obtain ⟨hmain, hblock, hany, hone, hmem⟩ := hscript
  have hstores := stores_of_mem_timeoutNames (mem_timeoutNames.mpr hmem)
  refine ⟨(ends_removalPass_iff hmain).mpr
    ⟨⟨_, hstores⟩, _, hblock, found_removeCall_iff.mp hany⟩, hstores, _, hblock, fun hremoves => ?_⟩
  exact absurd hremoves.found_removalOf (ne_true_of_eq_false hone)

end ExtensionAudit.Lifecycle
