import Mathlib
import ExtensionAudit.Proofs.Lifecycle.Widgets
import ExtensionAudit.Proofs.Quality.Excuse

/-!
# Handlers without a body

A handler without a body is reported unless it is excused by the text before it.  Main statement: it
goes unreported iff it lies inside of another handler, or the block before it is excused in one of
three ways (`blankHandler_unreported_iff`).  Only one of them is about this block alone.

*Matches.*  The pattern of a handler has one way to read its head, and stops at the first closing
brace after it (`HandlerAt.matchAt_eq`).  So a handler without a body is matched where it stands,
and is found unless the search has passed this place inside of another match.
-/

namespace ExtensionAudit.Quality

open Pattern Source
open Lifecycle (scripted)

/-! ## Handlers -/

/-- The word of a handler. -/
def catchWord : Text := "catch".toList

/-- The parameter of a handler in its parentheses, or nothing. -/
def IsParameter (t : Text) : Prop :=
  t = [] ∨ ∃ name, t = '(' :: (name ++ [')']) ∧ ')' ∉ name

/-- A handler starts where the two texts meet, and `rest` follows its opening brace. -/
def HandlerAt (before rest after : Text) : Prop :=
  ∃ gap parameter space,
    after = catchWord ++ (gap ++ (parameter ++ (space ++ openBrace :: rest))) ∧
      AllBlank gap ∧ IsParameter parameter ∧ AllBlank space ∧ EndsWord before

/-- A handler with nothing but blanks in its body starts where the two texts meet. -/
def BlankHandler (before after : Text) : Prop :=
  ∃ body back, HandlerAt before (body ++ closeBrace :: back) after ∧ AllBlank body

/-- What follows a parameter. -/
def afterParameter : Text → Text
  | '(' :: t => (t.dropWhile (· != ')')).drop 1
  | t => t

theorem afterParameter_append {name : Text} (h : ')' ∉ name) (t : Text) :
    afterParameter ('(' :: (name ++ ')' :: t)) = t := by
  have hname : ∀ x ∈ name, (x != ')') = true := by
    simp only [bne_iff_ne]
    exact fun x hx heq => h (heq ▸ hx)
  rw [afterParameter, List.dropWhile_append_of_pos hname]
  rfl

/-- The head of a handler is read in one way only. -/
theorem dropWhile_head {gap parameter space : Text} (hgap : AllBlank gap)
    (hparameter : IsParameter parameter) (hspace : AllBlank space) (rest : Text) :
    (afterParameter ((gap ++ (parameter ++ (space ++ openBrace :: rest))).dropWhile
      Text.isBlank)).dropWhile Text.isBlank = openBrace :: rest := by
  have hbrace : (space ++ openBrace :: rest).dropWhile Text.isBlank = openBrace :: rest := by
    rw [List.dropWhile_append_of_pos hspace]
    rfl
  rw [List.dropWhile_append_of_pos hgap]
  rcases hparameter with rfl | ⟨name, rfl, hname⟩
  · rw [List.nil_append, hbrace]
    rfl
  · have hopen (t : Text) : ('(' :: t).dropWhile Text.isBlank = '(' :: t := rfl
    rw [List.cons_append, hopen, List.append_assoc, List.singleton_append,
      afterParameter_append hname, hbrace]

/-- The parameter in its parentheses. -/
def parameterNode : Node :=
  .seq (.one (.literal '('.toNat)) (.seq (.rep .greedy 0 none (.one (.notLiteral ')'.toNat)))
    (.one (.literal ')'.toNat)))

/-- A handler up to its opening brace. -/
def headNode : Node :=
  .seq (.anchor (.boundary false)) (.spelled catchWord (.seq .blanks
    (.seq (.rep .greedy 0 (some 1) parameterNode) (.seq .blanks
      (.one (.literal openBrace.toNat))))))

/-- The body of a handler with its closing brace. -/
def bodyNode : Node :=
  .seq (.group 1 (.rep .lazy 0 none (.one Node.anyTest))) (.one (.literal closeBrace.toNat))

theorem handler_eq : handler =
    ⟨.seq (.anchor (.boundary false)) (.spelled catchWord (.seq .blanks
      (.seq (.rep .greedy 0 (some 1) parameterNode) (.seq .blanks
        (.seq (.one (.literal openBrace.toNat)) bodyNode))))), [], ⟨7, none, true⟩⟩ := by
  decide +kernel

theorem splits_handler : handler.node.Splits headNode bodyNode := by
  rw [handler_eq]
  exact ((((Node.splits_seq _ _).seq _).seq _).seq _).spelled _ |>.seq _

theorem flat_headNode : headNode.Flat 0 0 :=
  .seq .anchor (.spelled (.seq (.rep rfl) (.seq (.optional (fun _ => Node.noConfusion)
    (.seq .one (.seq (.rep rfl) .one))) (.seq (.rep rfl) .one))) _)

/-- The pattern for a handler is plain. -/
theorem plain_handler : handler.Plain 2 where
  flat := by
    rw [handler_eq]
    exact .seq .anchor (.spelled (.seq (.rep rfl) (.seq (.optional (fun _ => Node.noConfusion)
      (.seq .one (.seq (.rep rfl) .one))) (.seq (.rep rfl) (.seq .one
        (.seq (.group (Nat.zero_le 0) .lazy) .one))))) _)
  starts := by
    rw [handler_eq]
    rintro s ⟨⟩
  least := by
    rw [handler_eq]
    decide

/-- The pattern spans a parameter, which may be missing. -/
theorem isParameter_iff {front piece back : Text} :
    (Node.rep .greedy 0 (some 1) parameterNode).Spans front piece back ↔ IsParameter piece := by
  have hname (name : Text) : (∀ x ∈ name, (CharTest.notLiteral ')'.toNat).passes x = true) ↔
      ')' ∉ name := by
    simp only [CharTest.passes, bne_iff_ne, ne_eq, Char.toNat_inj]
    exact ⟨fun h hmem => h _ hmem rfl, fun h x hx heq => h (heq ▸ hx)⟩
  rw [Node.spans_optional (fun _ => Node.noConfusion), IsParameter, or_comm]
  simp only [parameterNode, Node.spans_seq, Node.spans_literal, Node.spans_many, hname]
  refine or_congr_right ⟨?_, ?_⟩
  · rintro ⟨_, _, rfl, rfl, name, _, rfl, hname, rfl⟩
    exact ⟨name, rfl, hname⟩
  · rintro ⟨name, rfl, hname⟩
    exact ⟨['('], _, rfl, rfl, name, _, rfl, hname, rfl⟩

/-- The pattern spans the head of a handler. -/
theorem spans_headNode {before piece rest : Text} :
    headNode.Spans before piece rest ↔ ∃ gap parameter space,
      piece = catchWord ++ (gap ++ (parameter ++ (space ++ [openBrace]))) ∧
        AllBlank gap ∧ IsParameter parameter ∧ AllBlank space ∧ EndsWord before := by
  have hboundary (s t : Text) :
      Anchor.holds (.between before (catchWord ++ s ++ t)) (.boundary false) = true ↔
        EndsWord before := by
    have hword : Text.isWord 'c' = true := by decide
    rw [catchWord, EndsWord, ← Bool.not_eq_true', ← holds_boundary hword]
    rfl
  simp only [headNode, Node.spans_seq, Node.spans_anchor, Node.spans_spelled, Node.spans_blanks,
    isParameter_iff, Node.spans_literal]
  constructor
  · rintro ⟨_, _, rfl, ⟨rfl, hbefore⟩, _, rfl, gap, _, rfl, hgap, parameter, _, rfl, hparameter,
      space, _, rfl, hspace, rfl⟩
    exact ⟨gap, parameter, space, rfl, hgap, hparameter, hspace, (hboundary _ _).mp hbefore⟩
  · rintro ⟨gap, parameter, space, rfl, hgap, hparameter, hspace, hbefore⟩
    exact ⟨[], _, rfl, ⟨rfl, (hboundary _ _).mpr hbefore⟩, _, rfl, gap, _, rfl, hgap, parameter, _,
      rfl, hparameter, space, _, rfl, hspace, rfl⟩

theorem HandlerAt.exists_spans {before rest after : Text} (h : HandlerAt before rest after) :
    ∃ piece, after = piece ++ rest ∧ headNode.Spans before piece rest := by
  obtain ⟨gap, parameter, space, rfl, hhead⟩ := h
  exact ⟨_, by simp, spans_headNode.mpr ⟨gap, parameter, space, rfl, hhead⟩⟩

/-- The head of a handler ends at one place only. -/
theorem HandlerAt.eq_of_spans {before rest rest' piece : Text}
    (h : HandlerAt before rest (piece ++ rest')) (hpiece : headNode.Spans before piece rest') :
    rest = rest' := by
  obtain ⟨gap, parameter, space, heq, hgap, hparameter, hspace, -⟩ := h
  obtain ⟨gap', parameter', space', rfl, hgap', hparameter', hspace', -⟩ :=
    spans_headNode.mp hpiece
  have hheads : gap ++ (parameter ++ (space ++ openBrace :: rest)) =
      gap' ++ (parameter' ++ (space' ++ openBrace :: rest')) := by
    simpa using heq.symm
  have hrest := dropWhile_head hgap hparameter hspace rest
  rw [hheads, dropWhile_head hgap' hparameter' hspace'] at hrest
  exact (List.cons.inj hrest).2.symm

/-- A handler is matched up to the first closing brace after its head. -/
theorem HandlerAt.matchAt_eq {before body back after : Text}
    (h : HandlerAt before (body ++ closeBrace :: back) after) (hbody : closeBrace ∉ body) :
    ∃ m, handler.matchAt (.between before after) = some m ∧ m.start = before.length ∧
      m.group 1 = body := by
  obtain ⟨piece, rfl, ms, htakes⟩ := h.exists_spans
  have hmarks {piece back : Text} {ms : Marks} (htakes : headNode.Takes before piece back [] ms) :
      ms = [] :=
    List.length_eq_zero_iff.mp
      (Nat.le_zero.mp (htakes.prefix_marks flat_headNode (Nat.le_refl 0)).2)
  obtain rfl := hmarks htakes
  have hway : (Cursor.between (before ++ piece) (body ++ closeBrace :: back), []) ∈
      headNode.ways (.between before (piece ++ (body ++ closeBrace :: back))) [] :=
    Node.mem_ways_iff.mpr ⟨piece, _, rfl, rfl, htakes⟩
  have honly : ∀ u ∈ headNode.ways (.between before (piece ++ (body ++ closeBrace :: back))) [],
      u = (Cursor.between (before ++ piece) (body ++ closeBrace :: back), []) := by
    intro u hu
    obtain ⟨piece', back', hrest, hplace, htakes'⟩ := Node.mem_ways_iff.mp hu
    rw [hrest] at h
    obtain rfl := h.eq_of_spans htakes'.spans
    obtain rfl := List.append_cancel_right hrest
    exact Prod.ext hplace (hmarks htakes')
  have hfirst := splits_handler.head?_ways hway honly
  rw [bodyNode, head?_ways_lazy (fun x _ => Node.passes_anyTest x) hbody] at hfirst
  refine ⟨_, by rw [plain_handler.matchAt_eq, hfirst]; rfl, rfl, ?_⟩
  exact Found.group_one_between rfl

/-! ## The check -/

/-- The handler that starts at a place is reported. -/
def Reported (t : Text) (place : Nat) : Prop :=
  ∃ m ∈ handler.all t, m.start = place ∧ (Text.trim (m.group 1)).isEmpty = true ∧
    excuses (t.take place) = false

/-- The place lies inside of a handler that is found. -/
def InHandler (t : Text) (place : Nat) : Prop :=
  ∃ m ∈ handler.all t, m.start < place ∧ place < m.stop

/-- The lines of the empty handlers are those of the places reported. -/
theorem mem_emptyHandlers {t : Text} {n : Nat} : n ∈ emptyHandlers t ↔
    ∃ place, Reported t place ∧ n = Text.newlines (t.take place) + 1 := by
  rw [emptyHandlers, List.mem_filterMap]
  constructor
  · rintro ⟨m, hm, hn⟩
    dsimp only at hn
    split at hn
    next h =>
        obtain ⟨hblank, hexcuses⟩ := Bool.and_eq_true_iff.mp h
        refine ⟨m.start, ⟨m, hm, rfl, hblank, ?_⟩, (Option.some_inj.mp hn).symm⟩
        exact Bool.not_eq_true' _ |>.mp hexcuses
    next => cases hn
  · rintro ⟨_, ⟨m, hm, rfl, hblank, hexcuses⟩, rfl⟩
    refine ⟨m, hm, ?_⟩
    simp only [hblank, hexcuses]
    rfl

theorem isEmpty_trim {t : Text} (h : AllBlank t) : (Text.trim t).isEmpty = true := by
  have hfront : t.dropWhile Text.isBlank = [] := List.dropWhile_eq_nil_iff.mpr h
  rw [Text.trim, Text.trimOf, Text.trimFrontOf, hfront]
  rfl

/-- A handler without a body is reported unless it lies inside of another one or is excused. -/
theorem BlankHandler.reported_iff {before after : Text} (h : BlankHandler before after) :
    Reported (before ++ after) before.length ↔
      ¬ InHandler (before ++ after) before.length ∧ excuses before = false := by
  obtain ⟨body, back, hhandler, hbody⟩ := h
  obtain ⟨m, hmatch, hstart, hgroup⟩ := hhandler.matchAt_eq hbody.closeBrace_notMem
  have hpos : 0 < handler.node.width.least := by
    rw [handler_eq]
    decide
  constructor
  · rintro ⟨m, hm, hplace, -, hexcuses⟩
    rw [List.take_left] at hexcuses
    refine ⟨?_, hexcuses⟩
    rintro ⟨m', hm', hinside⟩
    exact plain_handler.not_inside_of_mem_all hpos hm hm' (hplace ▸ hinside)
  · rintro ⟨houtside, hexcuses⟩
    rcases plain_handler.mem_all_or_inside hpos hmatch with hm | hinside
    · exact ⟨m, hm, hstart, hgroup ▸ isEmpty_trim hbody, by rwa [List.take_left]⟩
    · exact absurd hinside houtside

/-- The places that the check reports. -/
def handlerPlaces (texts : List (Path × Text)) : List String :=
  texts.flatMap fun file => (emptyHandlers file.2).map file.1.atLine

/-- What the check says of a place. -/
def handlerWarning (place : String) : Finding :=
  ⟨.warn, "quality/empty-catch",
    s!"{place}: empty catch block — at minimum log with console.debug()"⟩

theorem ends_checkEmptyCatch {ext : Extension} {texts : List (Path × Text)}
    (h : ext.texts ext.scripts = .ok texts) :
    Trace.Ends (checkEmptyCatch ext)
      (if handlerPlaces texts = [] then
        [⟨.pass, "quality/empty-catch", "No empty catch blocks found"⟩]
      else (handlerPlaces texts).map handlerWarning) () := by
  refine Trace.ends_lift_bind h ?_
  exact Trace.ends_isEmpty (Trace.ends_write.mpr rfl) (Trace.ends_each_write _ handlerWarning)

/-- A handler without a body is not reported iff it lies inside of another one, or a block ends
before it and excuses it: because this block is protected and holds a harmless call, because a
harmless call stands between any earlier protected block and the end of this one, or because this
block is not protected and the first one inside of it is followed by a harmless call. -/
theorem blankHandler_unreported_iff (ext : Extension) (texts : List (Path × Text))
    (htexts : ext.texts ext.scripts = .ok texts) :
    Trace.Ends (checkEmptyCatch ext)
      (if handlerPlaces texts = [] then
        [⟨.pass, "quality/empty-catch", "No empty catch blocks found"⟩]
      else (handlerPlaces texts).map handlerWarning) () ∧
    ∀ t, (∀ n, n ∈ emptyHandlers t ↔
        ∃ place, Reported t place ∧ n = Text.newlines (t.take place) + 1) ∧
      ∀ before after, t = before ++ after → (∀ n, 0 ≤ surplus (t.take n)) →
        BlankHandler before after →
        (¬ Reported t before.length ↔ InHandler t before.length ∨
          ∃ head block, EndsBlock head block before ∧
            ((Protects head ∧ Harmless block) ∨
              (∃ rest, FirstTry rest head ∧ Harmless (rest ++ openBrace :: block)) ∨
              ((¬ ∃ rest, FirstTry rest head) ∧ ¬ Protects head ∧
                ∃ rest, FirstTry rest block ∧ Harmless rest))) := by
  refine ⟨ends_checkEmptyCatch htexts, fun t => ⟨fun n => mem_emptyHandlers, ?_⟩⟩
  rintro before after rfl hbraces hblank
  rw [hblank.reported_iff, not_and_or, not_not, Bool.not_eq_false]
  refine or_congr_right ⟨fun hexcuses => ?_, ?_⟩
  · obtain ⟨front, tail, rest, rfl, htail, -⟩ := excuses_iff.mp hexcuses
    obtain ⟨head, block, hblock⟩ := exists_endsBlock (surplus_take_of_append hbraces) htail
    exact ⟨head, block, hblock, hblock.excuses_iff.mp hexcuses⟩
  · rintro ⟨head, block, hblock, hexcuse⟩
    exact hblock.excuses_iff.mpr hexcuse

/-- A handler without a body after a block with a harmless call. -/
def harmlessScript : Text := "try \x7b a.destroy(); \x7d catch (e) \x7b\x7d".toList

/-- The handler is not reported. -/
theorem blankHandler_unreported_iff_harmless : ¬ Reported harmlessScript 21 := by
  have hscript : (scripted harmlessScript).texts (scripted harmlessScript).scripts =
        .ok [(["extension.js"], harmlessScript)] ∧
      (∀ n < harmlessScript.length + 1, 0 ≤ surplus (harmlessScript.take n)) ∧
      ∀ n < " a.destroy(); ".toList.length + 1, 0 ≤ surplus (" a.destroy(); ".toList.take n) := by
    decide
  obtain ⟨htexts, hbraces, hblock⟩ := hscript
  have hblank : BlankHandler "try \x7b a.destroy(); \x7d ".toList "catch (e) \x7b\x7d".toList :=
    ⟨[], [], ⟨[' '], "(e)".toList, [' '], rfl, by decide, .inr ⟨['e'], rfl, by decide⟩, by decide,
      by decide⟩, by decide⟩
  have hends : EndsBlock "try ".toList " a.destroy(); ".toList
      "try \x7b a.destroy(); \x7d ".toList :=
    ⟨[' '], rfl, ⟨rfl, surplus_take_nonneg hblock⟩, by decide⟩
  have hprotects : Protects "try ".toList := ⟨[], [' '], rfl, by decide, by decide⟩
  have hharmless : Harmless " a.destroy(); ".toList :=
    ⟨"); ".toList, " a".toList, ".destroy".toList, [], rfl, by decide, by simp⟩
  obtain ⟨-, hreports⟩ := blankHandler_unreported_iff (scripted harmlessScript) _ htexts
  exact ((hreports harmlessScript).2 _ _ rfl (surplus_take_nonneg hbraces) hblank).mpr
    (.inr ⟨_, _, hends, .inl ⟨hprotects, hharmless⟩⟩)

/-- The first block of the script holds a harmless call, and the second one does not. -/
def laterScript : Text :=
  ("try \x7b a.close(); \x7d catch (e) \x7b log(e); \x7d\n" ++
    "try \x7b f(); \x7d catch (e) \x7b\x7d").toList

/-- The handler of the second block is not reported, although its block is not harmless. -/
theorem emptyHandlers_laterScript : emptyHandlers laterScript = [] ∧ Closed laterScript ∧
    ∃ before, laterScript = before ++ "catch (e) \x7b\x7d".toList ∧
      BlankHandler before "catch (e) \x7b\x7d".toList ∧
      ∃ head, EndsBlock head " f(); ".toList before ∧ Protects head ∧
        ¬ Harmless " f(); ".toList := by
  have hscript : emptyHandlers laterScript = [] ∧
      (∀ n < laterScript.length + 1, 0 ≤ surplus (laterScript.take n)) ∧
      surplus laterScript = 0 ∧
      (∀ n < " f(); ".toList.length + 1, 0 ≤ surplus (" f(); ".toList.take n)) ∧
      harmlessCall.found " f(); ".toList = false := by
    decide +kernel
  obtain ⟨hnone, hbraces, hsurplus, hblock, hharmless⟩ := hscript
  refine ⟨hnone, ⟨hsurplus, surplus_take_nonneg hbraces⟩,
    "try \x7b a.close(); \x7d catch (e) \x7b log(e); \x7d\ntry \x7b f(); \x7d ".toList, rfl,
    ⟨[], [], ⟨[' '], "(e)".toList, [' '], rfl, by decide, .inr ⟨['e'], rfl, by decide⟩, by decide,
      by decide⟩, by decide⟩,
    "try \x7b a.close(); \x7d catch (e) \x7b log(e); \x7d\ntry ".toList,
    ⟨[' '], rfl, ⟨rfl, surplus_take_nonneg hblock⟩, by decide⟩,
    ⟨"try \x7b a.close(); \x7d catch (e) \x7b log(e); \x7d\n".toList, [' '], rfl, by decide,
      by decide⟩, ?_⟩
  exact mt found_harmlessCall_iff.mpr (ne_true_of_eq_false hharmless)

end ExtensionAudit.Quality
