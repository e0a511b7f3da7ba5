import Mathlib
import ExtensionAudit.Proofs.Completion
import ExtensionAudit.Proofs.Lifecycle.Widgets
import ExtensionAudit.Proofs.Quality.Excuse
import ExtensionAudit.Quality.Constructor

/-!
# Lines of what a constructor takes hold of

A call in a constructor that takes hold of a resource is reported with a line.  Main statement: the
number is one more than that of the line on which the call starts, less the newlines in the head of
the constructor (`constructorResources_lines`).  So it is right iff the head holds exactly one
newline, and one too large if the head stands on one line.

*Heads and calls.*  What the patterns take is said in words: `IsConstructorHead` for the head, from
its name to its opening brace, and `IsHeldCall` for the calls.

*Places.*  `HeldAt` cuts a text into what stands before a head, the head, what stands between it and
a call, the call and the rest.  The check counts the newlines before the head and those between head
and call, and adds one for each of the two parts.
-/

namespace ExtensionAudit.Quality

open Pattern Source
open Lifecycle (scripted)

/-! ## Heads -/

/-- The names of constructors. -/
def constructorWords : List Text := ["constructor".toList, "_init".toList]

/-- The text is the head of a constructor, with its opening brace. -/
def IsConstructorHead (t : Text) : Prop :=
  ∃ word gap parameters space,
    t = word ++ (gap ++ '(' :: (parameters ++ ')' :: (space ++ [openBrace]))) ∧
      word ∈ constructorWords ∧ AllBlank gap ∧ ')' ∉ parameters ∧ AllBlank space

/-- The head of a constructor as a node. -/
def constructorNode : Node :=
  .seq (.oneOf constructorWords) (.seq .blanks (.seq (.one (.literal '('.toNat))
    (.seq (.rep .greedy 0 none (.one (.notLiteral ')'.toNat))) (.seq (.one (.literal ')'.toNat))
      (.seq .blanks (.one (.literal openBrace.toNat)))))))

theorem constructorHead_eq : constructorHead =
    ⟨constructorNode, [], ⟨8, some ⟨[.one 99, .one 95], false, false, false⟩, false⟩⟩ := by
  decide +kernel

/-- The pattern spans the heads of constructors. -/
theorem spans_constructorHead {front piece back : Text} :
    constructorHead.node.Spans front piece back ↔ IsConstructorHead piece := by
  have hwords : constructorWords ≠ [] := List.cons_ne_nil _ _
  have hparameters (t : Text) : (∀ x ∈ t, (CharTest.notLiteral ')'.toNat).passes x = true) ↔
      ')' ∉ t := by
    simp only [CharTest.passes, bne_iff_ne, ne_eq, Char.toNat_inj]
    exact ⟨fun h hmem => h _ hmem rfl, fun h x hx heq => h (heq ▸ hx)⟩
  rw [constructorHead_eq]
  simp only [constructorNode, Node.spans_seq, Node.spans_oneOf hwords, Node.spans_blanks,
    Node.spans_literal, Node.spans_many, hparameters]
  constructor
  · rintro ⟨word, _, rfl, hword, gap, _, rfl, hgap, _, _, rfl, rfl, parameters, _, rfl,
      hparameters, _, _, rfl, rfl, space, _, rfl, hspace, rfl⟩
    exact ⟨word, gap, parameters, space, rfl, hword, hgap, hparameters, hspace⟩
  · rintro ⟨word, gap, parameters, space, rfl, hword, hgap, hparameters, hspace⟩
    exact ⟨word, _, rfl, hword, gap, _, rfl, hgap, ['('], _, rfl, rfl, parameters, _, rfl,
      hparameters, [')'], _, rfl, rfl, space, _, rfl, hspace, rfl⟩

/-- The pattern for the head of a constructor is plain. -/
theorem plain_constructorHead : constructorHead.Plain 0 where
  flat := by
    rw [constructorHead_eq]
    exact (Node.flat_oneOf _).seq (.seq (.rep rfl) (.seq .one (.seq (.rep rfl) (.seq .one
      (.seq (.rep rfl) .one)))))
  starts := by
    intro s hs front piece back h
    rw [constructorHead_eq] at hs
    cases hs
    obtain ⟨word, gap, parameters, space, rfl, hword, -⟩ := spans_constructorHead.mp h
    rcases List.mem_pair.mp hword with rfl | rfl <;> rfl
  least := by
    rw [constructorHead_eq]
    decide

/-! ## Calls -/

/-- Methods that take hold of a resource, with the words for them. -/
def heldWords : List (Text × String) :=
  [("this.getSettings".toList, "this.getSettings()"), (".connect".toList, ".connect()"),
    (".connectObject".toList, ".connectObject()")]

/-- The text is a call that takes hold of a resource, which goes by the given words. -/
inductive IsHeldCall : String → Text → Prop where
  /-- The call of a method. -/
  | method (word gap : Text) (name : String) (hword : (word, name) ∈ heldWords)
      (hgap : AllBlank gap) : IsHeldCall name (word ++ (gap ++ ['(']))
  /-- The name of a function that starts a timeout. -/
  | timeout : IsHeldCall "GLib.timeout_add()" "timeout_add".toList
  /-- A new proxy. -/
  | proxy (gap : Text) (hne : gap ≠ []) (hgap : AllBlank gap) :
      IsHeldCall "new Gio.DBusProxy()" ("new".toList ++ (gap ++ "Gio.DBusProxy".toList))

/-- The call of a method as a node. -/
def heldNode (word : Text) : Node :=
  .spelled word (.seq .blanks (.one (.literal '('.toNat)))

/-- A new proxy as a node. -/
def proxyNode : Node :=
  .spelled "new".toList (.seq (.rep .greedy 1 none
    (.one (.inSet ⟨[.cls .blank false], false, false, false⟩))) (.word "Gio.DBusProxy".toList))

theorem heldResources_eq : heldResources =
    [(⟨heldNode "this.getSettings".toList, [], ⟨17, none, false⟩⟩, "this.getSettings()"),
      (⟨heldNode ".connect".toList, [], ⟨9, none, false⟩⟩, ".connect()"),
      (⟨heldNode ".connectObject".toList, [], ⟨15, none, false⟩⟩, ".connectObject()"),
      (⟨.word "timeout_add".toList, [], ⟨11, none, false⟩⟩, "GLib.timeout_add()"),
      (⟨proxyNode, [], ⟨17, none, false⟩⟩, "new Gio.DBusProxy()")] := by
  decide +kernel

/-- What is looked for in a constructor. -/
structure Seeks (p : Pattern) (name : String) : Prop where
  /-- It is looked for everywhere. -/
  plain : p.Plain 0
  /-- It is not empty. -/
  pos : 0 < p.node.width.least
  /-- It is a call that goes by the name. -/
  isHeldCall : ∀ front piece back, p.node.Spans front piece back → IsHeldCall name piece

/-- The pattern of a held word seeks calls of it. -/
theorem seeks_heldNode {word : Text} {name : String} (hword : (word, name) ∈ heldWords)
    {least : Nat} (hleast : least ≤ (heldNode word).width.least)
    (hpos : 0 < (heldNode word).width.least) :
    Seeks ⟨heldNode word, [], ⟨least, none, false⟩⟩ name where
  plain := .of_flat (.spelled (.seq (.rep rfl) .one) word) hleast
  pos := hpos
  isHeldCall := by
    intro front piece back h
    simp only [heldNode, Node.spans_spelled, Node.spans_seq, Node.spans_blanks,
      Node.spans_literal] at h
    obtain ⟨_, rfl, gap, _, rfl, hgap, rfl⟩ := h
    exact .method word gap name hword hgap

theorem seeks_timeout :
    Seeks ⟨.word "timeout_add".toList, [], ⟨11, none, false⟩⟩ "GLib.timeout_add()" where
  plain := .of_flat (Node.flat_word _) (by decide)
  pos := by decide
  isHeldCall := by
    intro front piece back h
    obtain rfl := Node.spans_word.mp h
    exact .timeout

/-- The pattern for proxies seeks their constructor. -/
theorem seeks_proxyNode : Seeks ⟨proxyNode, [], ⟨17, none, false⟩⟩ "new Gio.DBusProxy()" where
  plain := .of_flat (.spelled (.seq (.rep rfl) (Node.flat_word _)) _) (by decide)
  pos := by decide
  isHeldCall := by
    intro front piece back h
    rw [proxyNode, Node.spans_spelled] at h
    obtain ⟨_, rfl, h⟩ := h
    obtain ⟨gap, _, rfl, ⟨_, ⟨hlength, -⟩, hgap, -⟩, hname⟩ := Node.spans_seq.mp h
    obtain rfl := Node.spans_word.mp hname
    refine .proxy gap (List.length_pos_iff.mp hlength) fun x hx => ?_
    simpa [CharTest.passes, CharSet.has, Member.covers, CharClass.has] using hgap x hx

/-- Each pattern for a held resource seeks it. -/
theorem seeks_of_mem_heldResources {p : Pattern} {name : String} (h : (p, name) ∈ heldResources) :
    Seeks p name := by
  rw [heldResources_eq] at h
  simp only [List.mem_cons, List.not_mem_nil, or_false, Prod.mk.injEq] at h
  obtain ⟨rfl, rfl⟩ | ⟨rfl, rfl⟩ | ⟨rfl, rfl⟩ | ⟨rfl, rfl⟩ | ⟨rfl, rfl⟩ := h
  · exact seeks_heldNode (by decide) (by decide) (by decide)
  · exact seeks_heldNode (by decide) (by decide) (by decide)
  · exact seeks_heldNode (by decide) (by decide) (by decide)
  · exact seeks_timeout
  · exact seeks_proxyNode

/-! ## Places -/

/-- The resources that the constructors of a text take hold of, each with the line that is
reported. -/
def heldPlaces (t : Text) : List (Nat × String) :=
  (constructorHead.all t).flatMap (resourcesIn t)

/-- The check reports a call.  The text is cut around it: `head` is the head of a constructor that
is found and whose class is not excused, and `call` is found in its body. -/
structure HeldAt (t front head gap call back : Text) (name : String) : Prop where
  /-- The parts make up the text. -/
  text_eq : t = front ++ (head ++ (gap ++ (call ++ back)))
  /-- A constructor starts after the first part. -/
  isHead : IsConstructorHead head
  /-- The call takes hold of a resource. -/
  isCall : IsHeldCall name call
  /-- The call lies in the body. -/
  inside : gap ++ call <+: blockBody (gap ++ (call ++ back))
  /-- The constructor is found. -/
  head_found : ∃ m ∈ constructorHead.all t,
    m.start = front.length ∧ m.stop = (front ++ head).length
  /-- The call is found. -/
  call_found : ∃ p, (p, name) ∈ heldResources ∧ ∃ hit ∈ p.all (blockBody (gap ++ (call ++ back))),
    hit.start = gap.length ∧ hit.stop = (gap ++ call).length
  /-- The class is no widget. -/
  not_widget : isWidgetClass t front.length = false
  /-- The class cannot destroy itself. -/
  not_destroyable : isDestroyable t front.length = false

/-- The resources in a constructor are the hits in its block, unless its class cleans up. -/
theorem mem_resourcesIn {t : Text} {m : Found} {n : Nat} {name : String} :
    (n, name) ∈ resourcesIn t m ↔
      isWidgetClass t m.start = false ∧ isDestroyable t m.start = false ∧
        ∃ p, (p, name) ∈ heldResources ∧ ∃ hit ∈ p.all (blockBody m.rest),
          n = Text.newlines (t.take m.start) +
            Text.newlines ((blockBody m.rest).take hit.start) + 2 := by
  unfold resourcesIn
  split
  next hexcused =>
      refine iff_of_false List.not_mem_nil ?_
      rintro ⟨hwidget, hdestroyable, -⟩
      simp [hwidget, hdestroyable] at hexcused
  next hexcused =>
      obtain ⟨hwidget, hdestroyable⟩ := Bool.or_eq_false_iff.mp (Bool.eq_false_iff.mpr hexcused)
      simp only [hwidget, hdestroyable, true_and, List.mem_flatMap, List.mem_map, Prod.mk.injEq]
      constructor
      · rintro ⟨⟨p, _⟩, hp, hit, hmem, rfl, rfl⟩
        exact ⟨p, hp, hit, hmem, by omega⟩
      · rintro ⟨p, hp, hit, hmem, rfl⟩
        exact ⟨(p, name), hp, hit, hmem, by omega, rfl⟩

theorem newlines_append (s t : Text) :
    Text.newlines (s ++ t) = Text.newlines s + Text.newlines t :=
  List.count_append

/-- The constructor that a match stands for. -/
theorem head_of_mem_all {t : Text} {m : Found} (hm : m ∈ constructorHead.all t) :
    ∃ front head, t = front ++ (head ++ m.rest) ∧ IsConstructorHead head ∧
      m.start = front.length ∧ m.stop = (front ++ head).length := by
  have hpos : 0 < constructorHead.node.width.least := by
    rw [constructorHead_eq]
    decide
  obtain ⟨front, head, back, rfl, hstart, hstop, rfl, hspans⟩ :=
    plain_constructorHead.piece_of_mem_all hpos hm
  exact ⟨front, head, rfl, spans_constructorHead.mp hspans, hstart, hstop⟩

/-- The number that is reported for a call, with the newlines in the head made up for. -/
theorem mem_heldPlaces {t : Text} {n : Nat} {name : String} : (n, name) ∈ heldPlaces t ↔
    ∃ front head gap call back, HeldAt t front head gap call back name ∧
      n + Text.newlines head = Text.newlines (front ++ (head ++ gap)) + 2 := by
  rw [heldPlaces, List.mem_flatMap]
  simp only [mem_resourcesIn, newlines_append]
  constructor
  · rintro ⟨m, hm, hwidget, hdestroyable, p, hp, hit, hhit, rfl⟩
    obtain ⟨front, head, htext, hhead, hstart, hstop⟩ := head_of_mem_all hm
    have hseeks := seeks_of_mem_heldResources hp
    obtain ⟨gap, call, tail, hbody, hplace, hend, -, hspans⟩ :=
      hseeks.plain.piece_of_mem_all hseeks.pos hhit
    -- the body is the first part of what follows the head
    obtain ⟨more, hmore⟩ := blockBody_isPrefix m.rest
    have hrest : m.rest = gap ++ (call ++ (tail ++ more)) := by
      rw [← hmore, hbody]
      simp
    refine ⟨front, head, gap, call, tail ++ more, ?_, ?_⟩
    · rw [hrest] at htext hhit hbody
      exact
        { text_eq := htext
          isHead := hhead
          isCall := hseeks.isHeldCall _ _ _ hspans
          inside := ⟨tail, by rw [hbody, List.append_assoc]⟩
          head_found := ⟨m, hm, hstart, hstop⟩
          call_found := ⟨p, hp, hit, hhit, hplace, hend⟩
          not_widget := hstart ▸ hwidget
          not_destroyable := hstart ▸ hdestroyable }
    · rw [hbody, hplace, List.take_left, hstart, htext, List.take_left]
      omega
  · rintro ⟨front, head, gap, call, back, h, hn⟩
    obtain ⟨m, hm, hstart, hstop⟩ := h.head_found
    obtain ⟨p, hp, hit, hhit, hplace, -⟩ := h.call_found
    obtain ⟨front', head', htext, -, hstart', hstop'⟩ := head_of_mem_all hm
    -- the match starts and stops where the head does
    obtain ⟨rfl, hparts⟩ := List.append_inj (h.text_eq.symm.trans htext) (hstart.symm.trans hstart')
    have hlength : head.length = head'.length := by
      simpa using hstop.symm.trans hstop'
    obtain ⟨rfl, hrest⟩ := List.append_inj hparts hlength
    obtain ⟨tail, hbody⟩ := h.inside
    refine ⟨m, hm, hstart ▸ h.not_widget, hstart ▸ h.not_destroyable, p, hp, hit, hrest ▸ hhit, ?_⟩
    rw [← hrest, ← hbody, hplace, List.append_assoc, List.take_left, hstart, h.text_eq,
      List.take_left]
    omega

/-! ## The check -/

/-- What the check says of a place. -/
def heldWarning (p : Path) (place : Nat × String) : Finding :=
  ⟨.warn, "quality/constructor-resources",
    s!"{p.atLine place.1}: {place.2} in constructor — move to enable()"⟩

/-- What the check says where nothing is found. -/
def heldPass : Finding :=
  ⟨.pass, "quality/constructor-resources", "No resource allocation in constructors"⟩

/-- What the check says of scripts with their texts. -/
def heldFindings (texts : List (Path × Text)) : List Finding :=
  texts.flatMap fun file => (heldPlaces file.2).map (heldWarning file.1)

variable {ext : Extension}

theorem ends_reportConstructors {p : Path} {t : Text} (h : ext.text p = .ok t) :
    Trace.Ends (reportConstructors ext p) ((heldPlaces t).map (heldWarning p))
      !(heldPlaces t).isEmpty := by
  refine Trace.ends_lift_bind h ?_
  refine Trace.ends_bind.mpr ⟨(heldPlaces t).map (heldWarning p), (), [], ?_, ?_, ?_⟩
  · exact Trace.ends_each_write _ (heldWarning p)
  · exact Trace.ends_pure.mpr ⟨rfl, rfl⟩
  · rw [List.append_nil]

/-- The reports on all scripts, with whether each of them has one. -/
theorem ends_mapM_reportConstructors {texts : List (Path × Text)}
    (h : ext.texts ext.scripts = .ok texts) :
    Trace.Ends (ext.scripts.mapM (reportConstructors ext)) (heldFindings texts)
      (texts.map fun file => !(heldPlaces file.2).isEmpty) := by
  refine Trace.ends_mapM.mpr ⟨texts.map fun file =>
    ((heldPlaces file.2).map (heldWarning file.1), !(heldPlaces file.2).isEmpty), ?_, ?_, ?_⟩
  · refine List.forall₂_map_right_iff.mpr ((Trace.forall₂_of_mapM h).imp fun p file hread => ?_)
    obtain ⟨t, ht, hread⟩ := Trace.exists_of_bind_eq_ok hread
    cases hread
    exact ends_reportConstructors ht
  · rw [heldFindings, List.flatMap_map]
  · rw [List.map_map]
    rfl

/-- The check passes iff no constructor holds a resource. -/
theorem ends_checkConstructorResources {texts : List (Path × Text)}
    (h : ext.texts ext.scripts = .ok texts) :
    Trace.Ends (checkConstructorResources ext)
      (if heldFindings texts = [] then [heldPass] else heldFindings texts) () := by
  have hnone : (texts.map fun file => !(heldPlaces file.2).isEmpty).any id = false ↔
      heldFindings texts = [] := by
    simp [heldFindings]
  by_cases hempty : heldFindings texts = []
  · rw [if_pos hempty]
    refine Trace.ends_bind.mpr ⟨_, _, [heldPass], ends_mapM_reportConstructors h, ?_, ?_⟩
    · refine Trace.ends_if_pos ?_ (Trace.ends_write.mpr rfl)
      rw [hnone.mpr hempty]
      rfl
    · rw [hempty]
      rfl
  · rw [if_neg hempty]
    refine Trace.ends_bind.mpr ⟨_, _, [], ends_mapM_reportConstructors h, ?_, ?_⟩
    · refine Trace.ends_if_neg ?_ (Trace.ends_pure.mpr ⟨rfl, rfl⟩)
      simpa using mt hnone.mp hempty
    · rw [List.append_nil]

/-- All that is said of constructors is said of a script that can be read. -/
theorem outputs_checkConstructorResources (ext : Extension) :
    (checkConstructorResources ext).Outputs fun f => f = heldPass ∨ ∃ p ∈ ext.scripts,
      ∃ t, ext.text p = .ok t ∧ ∃ place ∈ heldPlaces t, f = heldWarning p place := by
  refine Trace.outputs_bind (Trace.outputs_mapM fun p hp => ?_) fun found => ?_
  · refine Trace.outputs_lift_bind fun t ht => ?_
    refine Trace.outputs_bind (Trace.outputs_each fun place hplace => ?_) fun _ => ?_
    · refine Trace.outputs_write fun f hf => .inr ⟨p, hp, t, ht, place, hplace, ?_⟩
      exact List.mem_singleton.mp hf
    · exact Trace.outputs_pure _
  · split
    · exact Trace.outputs_write fun f hf => .inl (List.mem_singleton.mp hf)
    · exact Trace.outputs_pure _

/-- The check reports a resource with the number of its line plus one, less the newlines in the
head of the constructor.  So the number is right iff the head holds exactly one newline. -/
theorem constructorResources_lines (ext : Extension) :
    ((checkConstructorResources ext).Outputs fun f => f = heldPass ∨ ∃ p ∈ ext.scripts,
      ∃ t, ext.text p = .ok t ∧ ∃ place ∈ heldPlaces t, f = heldWarning p place) ∧
    (∀ texts, ext.texts ext.scripts = .ok texts →
      Trace.Ends (checkConstructorResources ext)
        (if heldFindings texts = [] then [heldPass] else heldFindings texts) ()) ∧
    ∀ t n name, (n, name) ∈ heldPlaces t ↔
      ∃ front head gap call back, HeldAt t front head gap call back name ∧
        n + Text.newlines head = Text.newlines (front ++ (head ++ gap)) + 2 ∧
        (n = Text.newlines (front ++ (head ++ gap)) + 1 ↔ Text.newlines head = 1) := by
  refine ⟨outputs_checkConstructorResources ext, fun texts => ends_checkConstructorResources,
    fun t n name => mem_heldPlaces.trans ?_⟩
  constructor
  · rintro ⟨front, head, gap, call, back, h, hn⟩
    exact ⟨front, head, gap, call, back, h, hn, by omega⟩
  · rintro ⟨front, head, gap, call, back, h, hn, -⟩
    exact ⟨front, head, gap, call, back, h, hn⟩

/-- The head of the constructor stands on two lines. -/
def wrappedScript : Text :=
  "constructor(a,\nb) \x7b\nthis.getSettings();\n\x7d".toList

/-- The call on the third line is reported there. -/
theorem constructorResources_lines_wrapped :
    Trace.Ends (checkConstructorResources (scripted wrappedScript))
      [heldWarning ["extension.js"] (3, "this.getSettings()")] () ∧
    ∃ front head gap call back, HeldAt wrappedScript front head gap call back "this.getSettings()" ∧
      3 + Text.newlines head = Text.newlines (front ++ (head ++ gap)) + 2 := by
  have hscript : (scripted wrappedScript).texts (scripted wrappedScript).scripts =
        .ok [(["extension.js"], wrappedScript)] ∧
      heldPlaces wrappedScript = [(3, "this.getSettings()")] := by
    decide +kernel
  obtain ⟨htexts, hplaces⟩ := hscript
  obtain ⟨-, hends, hlines⟩ := constructorResources_lines (scripted wrappedScript)
  have hfindings : heldFindings [(["extension.js"], wrappedScript)] =
      [heldWarning ["extension.js"] (3, "this.getSettings()")] := by
    simp [heldFindings, hplaces]
  refine ⟨by simpa [hfindings] using hends _ htexts, ?_⟩
  obtain ⟨front, head, gap, call, back, h, hn, -⟩ :=
    (hlines wrappedScript 3 "this.getSettings()").mp (hplaces ▸ List.mem_singleton_self _)
  exact ⟨front, head, gap, call, back, h, hn⟩

/-- The head of the constructor stands on one line. -/
def uprightScript : Text :=
  ("class A \x7b\n    constructor() \x7b\n        this.getSettings();\n    \x7d\n\x7d\n").toList

/-- The call on the third line is reported on the fourth. -/
theorem constructorResources_upright :
    Trace.Ends (checkConstructorResources (scripted uprightScript))
      [heldWarning ["extension.js"] (4, "this.getSettings()")] () ∧
    Text.occurrences "this.getSettings".toList uprightScript = 1 ∧
    ∃ before after, uprightScript = before ++ ("this.getSettings(".toList ++ after) ∧
      Text.newlines before + 1 = 3 := by
  have hscript : (scripted uprightScript).texts (scripted uprightScript).scripts =
        .ok [(["extension.js"], uprightScript)] ∧
      heldPlaces uprightScript = [(4, "this.getSettings()")] ∧
      Text.occurrences "this.getSettings".toList uprightScript = 1 := by
    decide +kernel
  obtain ⟨htexts, hplaces, honce⟩ := hscript
  have hfindings : heldFindings [(["extension.js"], uprightScript)] =
      [heldWarning ["extension.js"] (4, "this.getSettings()")] := by
    simp [heldFindings, hplaces]
  refine ⟨by simpa [hfindings] using ends_checkConstructorResources htexts, honce,
    "class A \x7b\n    constructor() \x7b\n        ".toList, ");\n    \x7d\n\x7d\n".toList, rfl,
    rfl⟩

end ExtensionAudit.Quality
