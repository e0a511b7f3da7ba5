import Mathlib
import ExtensionAudit.Proofs.Pattern.Takes
import ExtensionAudit.Proofs.Source.Braces
import ExtensionAudit.Quality.State

/-!
# Excuses for a handler

A handler without a body is excused by the text before it.  Main statement: the text excuses it iff
it ends in a closing brace, blanks apart, and a harmless call stands anywhere between the first
protected block of the text and this brace (`excuses_iff`).  So it is the first block of the whole
text that counts.  It can be the block that the brace closes, one before it, or one inside of it
(`firstTry_append`).
-/

namespace ExtensionAudit.Quality

open Pattern Source

/-- All characters of the text are blanks. -/
def AllBlank (t : Text) : Prop := ∀ x ∈ t, Text.isBlank x = true

instance (t : Text) : Decidable (AllBlank t) := List.decidableBAll _ t

theorem AllBlank.openBrace_notMem {t : Text} (h : AllBlank t) : openBrace ∉ t := fun hmem =>
  absurd (h _ hmem) (by decide)

theorem AllBlank.closeBrace_notMem {t : Text} (h : AllBlank t) : closeBrace ∉ t := fun hmem =>
  absurd (h _ hmem) (by decide)

/-! ## Harmless calls -/

/-- Methods that give something up. -/
def cleanupWords : List Text :=
  ["disconnect".toList, "cancel".toList, "destroy".toList, "close".toList]

/-- Methods that read or write a setting. -/
def valueWords : List Text :=
  ["get_value".toList, "set_value".toList, "get_string".toList, "set_string".toList,
    "get_int".toList, "set_int".toList, "get_boolean".toList, "set_boolean".toList,
    "get_double".toList, "set_double".toList]

/-- What is called in a harmless call. -/
def harmlessWords : List Text :=
  cleanupWords.map ('.' :: ·) ++ "import".toList :: valueWords.map ('.' :: ·)

/-- The call of a method with one of some names. -/
def methodNode (i : Nat) (names : List Text) : Node :=
  .seq (.one (.literal '.'.toNat)) (.called (.group i (.oneOf names)))

/-- A method is spanned with its point, blanks and the bracket. -/
theorem spans_methodNode {i : Nat} {names : List Text} (h : names ≠ []) {front piece back : Text} :
    (methodNode i names).Spans front piece back ↔ ∃ word gap, piece = word ++ (gap ++ ['(']) ∧
      word ∈ names.map ('.' :: ·) ∧ ∀ x ∈ gap, Text.isBlank x = true := by
  simp only [methodNode, Node.spans_seq, Node.spans_literal, Node.spans_called, Node.spans_group,
    Node.spans_oneOf h, List.mem_map]
  constructor
  · rintro ⟨_, _, rfl, rfl, name, gap, rfl, hname, hgap⟩
    exact ⟨'.' :: name, gap, rfl, ⟨name, hname, rfl⟩, hgap⟩
  · rintro ⟨_, gap, rfl, ⟨name, hname, rfl⟩, hgap⟩
    exact ⟨['.'], _, rfl, rfl, name, gap, rfl, hname, hgap⟩

/-- The call of the function that loads a module. -/
def importNode : Node :=
  .spelled "import".toList (.seq .blanks (.one (.literal '('.toNat)))

theorem spans_importNode {front piece back : Text} : importNode.Spans front piece back ↔
    ∃ gap, piece = "import".toList ++ (gap ++ ['(']) ∧ ∀ x ∈ gap, Text.isBlank x = true := by
  simp only [importNode, Node.spans_spelled, Node.spans_seq, Node.spans_blanks, Node.spans_literal]
  constructor
  · rintro ⟨_, rfl, gap, _, rfl, hgap, rfl⟩
    exact ⟨gap, rfl, hgap⟩
  · rintro ⟨gap, rfl, hgap⟩
    exact ⟨_, rfl, gap, _, rfl, hgap, rfl⟩

theorem harmlessCall_eq : harmlessCall =
    ⟨.alt (methodNode 1 cleanupWords) (.alt importNode (methodNode 2 valueWords)), [],
      ⟨7, some ⟨[.one 46, .one 105, .one 46], false, false, false⟩, false⟩⟩ := by
  decide +kernel

/-- The pattern spans the calls of harmless words. -/
theorem spans_harmlessCall {front piece back : Text} :
    harmlessCall.node.Spans front piece back ↔ ∃ word gap, piece = word ++ (gap ++ ['(']) ∧
      word ∈ harmlessWords ∧ ∀ x ∈ gap, Text.isBlank x = true := by
  have hcleanup : cleanupWords ≠ [] := List.cons_ne_nil _ _
  have hvalue : valueWords ≠ [] := List.cons_ne_nil _ _
  rw [harmlessCall_eq, Node.spans_alt, Node.spans_alt, spans_methodNode hcleanup,
    spans_methodNode hvalue, spans_importNode]
  simp only [harmlessWords, List.mem_append, List.mem_cons]
  constructor
  · rintro (⟨word, gap, hpiece, hword, hgap⟩ | ⟨gap, hpiece, hgap⟩ |
      ⟨word, gap, hpiece, hword, hgap⟩)
    · exact ⟨word, gap, hpiece, .inl hword, hgap⟩
    · exact ⟨_, gap, hpiece, .inr (.inl rfl), hgap⟩
    · exact ⟨word, gap, hpiece, .inr (.inr hword), hgap⟩
  · rintro ⟨word, gap, hpiece, hword | rfl | hword, hgap⟩
    · exact .inl ⟨word, gap, hpiece, hword, hgap⟩
    · exact .inr (.inl ⟨gap, hpiece, hgap⟩)
    · exact .inr (.inr ⟨word, gap, hpiece, hword, hgap⟩)

/-- A harmless word starts with a point or with an `i`. -/
theorem head?_harmlessWords {word : Text} (h : word ∈ harmlessWords) (back : Text) :
    (word ++ back).head?.any
      (CharSet.has ⟨[.one 46, .one 105, .one 46], false, false, false⟩) = true := by
  rw [harmlessWords, List.mem_append, List.mem_cons] at h
  rcases h with h | rfl | h
  · obtain ⟨name, -, rfl⟩ := List.mem_map.mp h
    rfl
  · rfl
  · obtain ⟨name, -, rfl⟩ := List.mem_map.mp h
    rfl

/-- The pattern for a harmless call is plain. -/
theorem plain_harmlessCall : harmlessCall.Plain 4 where
  flat := by
    rw [harmlessCall_eq]
    exact .alt (.seq .one (.called (.group (Nat.zero_le 0) (Node.flat_oneOf _))))
      (.alt (.spelled (.seq (.rep rfl) .one) _)
        (.seq .one (.called (.group (by decide) (Node.flat_oneOf _)))))
  starts := by
    intro s hs front piece back h
    rw [harmlessCall_eq] at hs
    cases hs
    obtain ⟨word, gap, rfl, hword, -⟩ := spans_harmlessCall.mp h
    rw [List.append_assoc]
    exact head?_harmlessWords hword _
  least := by
    rw [harmlessCall_eq]
    decide

/-- A harmless call stands in the text. -/
def Harmless (t : Text) : Prop := ∃ after, Calls harmlessWords after t

theorem found_harmlessCall_iff {t : Text} : harmlessCall.found t = true ↔ Harmless t :=
  plain_harmlessCall.found_iff_calls fun _ _ _ => spans_harmlessCall

theorem Harmless.append_left {t : Text} (h : Harmless t) (front : Text) :
    Harmless (front ++ t) := by
  obtain ⟨after, hcall⟩ := h
  exact ⟨after ++ [], by simpa using hcall.append front []⟩

/-! ## Protected blocks -/

/-- The word of a protected block. -/
def tryWord : Text := "try".toList

/-- No word runs on beyond the end of the text. -/
def EndsWord (front : Text) : Prop := front.getLast?.any Text.isWord = false

instance (front : Text) : Decidable (EndsWord front) :=
  inferInstanceAs (Decidable (front.getLast?.any Text.isWord = false))

/-- A protected block starts after `front`, and `rest` follows its opening brace. -/
def TryAt (front rest t : Text) : Prop :=
  ∃ gap, t = front ++ (tryWord ++ (gap ++ openBrace :: rest)) ∧ AllBlank gap ∧ EndsWord front

/-- The text ends in the word of a protected block, which starts after `front`. -/
def Introduces (front head : Text) : Prop :=
  ∃ gap, head = front ++ (tryWord ++ gap) ∧ AllBlank gap ∧ EndsWord front

/-- The block whose opening brace follows the text is protected. -/
def Protects (head : Text) : Prop := ∃ front, Introduces front head

/-- The first protected block of a text: `rest` follows its opening brace. -/
def FirstTry (rest t : Text) : Prop :=
  ∃ front, TryAt front rest t ∧ ∀ front' rest', TryAt front' rest' t → front.length ≤ front'.length

theorem TryAt.append {front rest t : Text} (h : TryAt front rest t) (back : Text) :
    TryAt front (rest ++ back) (t ++ back) := by
  obtain ⟨gap, rfl, hgap, hfront⟩ := h
  exact ⟨gap, by simp, hgap, hfront⟩

theorem Introduces.tryAt {front head : Text} (h : Introduces front head) (block : Text) :
    TryAt front block (head ++ openBrace :: block) := by
  obtain ⟨gap, rfl, hgap, hfront⟩ := h
  exact ⟨gap, by simp, hgap, hfront⟩

theorem endsWord_append_openBrace {head front : Text} :
    EndsWord (head ++ openBrace :: front) ↔ EndsWord front := by
  have hbrace : Text.isWord openBrace = false := by decide
  cases front using List.reverseRecOn with
  | nil => simp [EndsWord, hbrace]
  | append_singleton front x =>
      have hlast : (head ++ openBrace :: (front ++ [x])).getLast? = some x := by
        rw [← List.cons_append, ← List.append_assoc, List.getLast?_concat]
      simp [EndsWord, hlast]

theorem TryAt.cons {front rest block : Text} (h : TryAt front rest block) (head : Text) :
    TryAt (head ++ openBrace :: front) rest (head ++ openBrace :: block) := by
  obtain ⟨gap, rfl, hgap, hfront⟩ := h
  exact ⟨gap, by simp, hgap, endsWord_append_openBrace.mpr hfront⟩

/-- A protected block of a text with a brace starts before the brace, with it or after it. -/
theorem TryAt.cases {front rest head block : Text}
    (h : TryAt front rest (head ++ openBrace :: block)) :
    (∃ r, TryAt front r head ∧ rest = r ++ openBrace :: block) ∨
      (Introduces front head ∧ rest = block) ∨
        ∃ front', TryAt front' rest block ∧ front = head ++ openBrace :: front' := by
  obtain ⟨gap, heq, hgap, hfront⟩ := h
  have heq : head ++ openBrace :: block = (front ++ (tryWord ++ gap)) ++ openBrace :: rest := by
    simpa using heq
  rcases List.append_eq_append_iff.mp heq with ⟨a, hhead, hblock⟩ | ⟨a, hhead, hblock⟩
  · cases a with
    | nil =>
        refine .inr (.inl ⟨⟨gap, ?_, hgap, hfront⟩, (List.cons.inj hblock).2.symm⟩)
        simpa using hhead.symm
    | cons x a =>
        obtain ⟨rfl, rfl⟩ := List.cons.inj hblock
        -- the brace is no part of the word or of the blanks after it
        have hnot : openBrace ∉ tryWord ++ gap := by
          rw [List.mem_append, not_or]
          exact ⟨by decide, hgap.openBrace_notMem⟩
        rcases List.append_eq_append_iff.mp hhead with ⟨b, -, hword⟩ | ⟨b, rfl, hword⟩
        · exact absurd (by simp [hword]) hnot
        · cases b with
          | nil =>
              rw [List.nil_append] at hword
              exact absurd (hword ▸ List.mem_cons_self) hnot
          | cons y b =>
              obtain ⟨rfl, rfl⟩ := List.cons.inj hword
              exact .inr (.inr ⟨b, ⟨gap, by simp, hgap, endsWord_append_openBrace.mp hfront⟩, rfl⟩)
  · cases a with
    | nil =>
        refine .inr (.inl ⟨⟨gap, ?_, hgap, hfront⟩, (List.cons.inj hblock).2⟩)
        simpa using hhead
    | cons x a =>
        obtain ⟨rfl, rfl⟩ := List.cons.inj hblock
        exact .inl ⟨a, ⟨gap, by simpa using hhead, hgap, hfront⟩, rfl⟩

theorem exists_firstTry {front rest t : Text} (h : TryAt front rest t) :
    ∃ r, FirstTry r t := by
  have hex : ∃ n front rest, TryAt front rest t ∧ front.length = n := ⟨_, front, rest, h, rfl⟩
  classical
  obtain ⟨front', rest', htry, hlength⟩ := Nat.find_spec hex
  refine ⟨rest', front', htry, fun front'' rest'' htry' => ?_⟩
  rw [hlength]
  exact Nat.find_min' hex ⟨front'', rest'', htry', rfl⟩

/-- Only one block is protected at a place. -/
theorem TryAt.eq_of_length {front front' rest rest' t : Text} (h : TryAt front rest t)
    (h' : TryAt front' rest' t) (hlength : front.length = front'.length) : rest = rest' := by
  obtain ⟨gap, rfl, hgap, -⟩ := h
  obtain ⟨gap', heq, hgap', -⟩ := h'
  have hrest := List.append_cancel_left (List.append_inj_right heq hlength)
  rcases List.append_eq_append_iff.mp hrest with ⟨a, rfl, ha⟩ | ⟨a, rfl, ha⟩
  · cases a with
    | nil => exact (List.cons.inj ha).2
    | cons x a =>
        obtain ⟨rfl, -⟩ := List.cons.inj ha
        exact absurd (by simp) hgap'.openBrace_notMem
  · cases a with
    | nil => exact (List.cons.inj ha).2.symm
    | cons x a =>
        obtain ⟨rfl, -⟩ := List.cons.inj ha
        exact absurd (by simp) hgap.openBrace_notMem

theorem FirstTry.eq {rest rest' t : Text} (h : FirstTry rest t) (h' : FirstTry rest' t) :
    rest = rest' := by
  obtain ⟨front, htry, hfirst⟩ := h
  obtain ⟨front', htry', hfirst'⟩ := h'
  exact htry.eq_of_length htry' (le_antisymm (hfirst _ _ htry') (hfirst' _ _ htry))

/-- A block that starts in a text starts before the word that ends the text. -/
theorem Introduces.lt_of_tryAt {front front' rest head : Text} (h : Introduces front head)
    (htry : TryAt front' rest head) : front'.length < front.length := by
  obtain ⟨gap, rfl, hgap, -⟩ := h
  obtain ⟨gap', heq, -, -⟩ := htry
  by_contra hle
  have heq : (front ++ tryWord) ++ gap = (front' ++ (tryWord ++ gap')) ++ openBrace :: rest := by
    simpa using heq
  have hlength : (front ++ tryWord).length ≤ (front' ++ (tryWord ++ gap')).length := by
    simp only [List.length_append]
    omega
  rcases List.append_eq_append_iff.mp heq with ⟨a, -, rfl⟩ | ⟨a, ha, hbrace⟩
  · exact absurd (by simp) hgap.openBrace_notMem
  · rw [ha, List.length_append] at hlength
    obtain rfl : a = [] := List.length_eq_zero_iff.mp (by omega)
    rw [List.nil_append] at hbrace
    exact absurd (hbrace ▸ List.mem_cons_self) hgap.openBrace_notMem

/-- The first protected block of a text with a brace starts before the brace if one starts there.
Otherwise it is the block of the brace, if that is protected, or else the first one after it. -/
theorem FirstTry.cases {rest head block : Text}
    (h : FirstTry rest (head ++ openBrace :: block)) :
    (∃ r, FirstTry r head ∧ rest = r ++ openBrace :: block) ∨
      (¬ ∃ r, FirstTry r head) ∧
        (Protects head ∧ rest = block ∨ ¬ Protects head ∧ FirstTry rest block) := by
  obtain ⟨front, htry, hfirst⟩ := h
  rcases htry.cases with ⟨r, hr, rfl⟩ | ⟨hhead, rfl⟩ | ⟨front', hblock, rfl⟩
  · refine .inl ⟨r, ⟨front, hr, fun front' r' h' => ?_⟩, rfl⟩
    exact hfirst front' _ (h'.append _)
  · refine .inr ⟨?_, .inl ⟨⟨front, hhead⟩, rfl⟩⟩
    rintro ⟨r, front', h', -⟩
    exact absurd (hfirst front' _ (h'.append _)) (not_le.mpr (hhead.lt_of_tryAt h'))
  · have hbefore {f r : Text} (hf : TryAt f r (head ++ openBrace :: block)) :
        head.length < f.length := by
      have := hfirst f r hf
      simp only [List.length_append, List.length_cons] at this
      omega
    refine .inr ⟨?_, .inr ⟨?_, front', hblock, fun f r hf => ?_⟩⟩
    · rintro ⟨r, f, hf, -⟩
      have hlength := hbefore (hf.append _)
      obtain ⟨gap, rfl, -⟩ := hf
      simp only [List.length_append] at hlength
      omega
    · rintro ⟨f, hf⟩
      have hlength := hbefore (hf.tryAt block)
      obtain ⟨gap, rfl, -⟩ := hf
      simp only [List.length_append] at hlength
      omega
    · have hle := hfirst _ r (hf.cons head)
      simpa using hle

/-- The first protected block of a text with a block at its end. -/
theorem firstTry_append {rest head block : Text} :
    FirstTry rest (head ++ openBrace :: block) ↔
      (∃ r, FirstTry r head ∧ rest = r ++ openBrace :: block) ∨
        (¬ ∃ r, FirstTry r head) ∧
          (Protects head ∧ rest = block ∨ ¬ Protects head ∧ FirstTry rest block) := by
  refine ⟨FirstTry.cases, fun h => ?_⟩
  -- some block is the first one, and it can only be the given one
  obtain ⟨r, hr⟩ : ∃ r, FirstTry r (head ++ openBrace :: block) := by
    rcases h with ⟨r, ⟨f, hf, -⟩, -⟩ | ⟨-, ⟨⟨f, hf⟩, -⟩ | ⟨-, f, hf, -⟩⟩
    · exact exists_firstTry (hf.append _)
    · exact exists_firstTry (hf.tryAt block)
    · exact exists_firstTry (hf.cons head)
  suffices hrest : rest = r by rwa [hrest]
  rcases h with ⟨s, hs, rfl⟩ | ⟨hnone, h⟩
  · rcases hr.cases with ⟨s', hs', rfl⟩ | ⟨hnone, -⟩
    · rw [hs.eq hs']
    · exact absurd ⟨s, hs⟩ hnone
  · rcases hr.cases with ⟨s', hs', -⟩ | ⟨-, hr⟩
    · exact absurd ⟨s', hs'⟩ hnone
    · rcases h with ⟨hhead, rfl⟩ | ⟨hhead, hrest⟩ <;> rcases hr with ⟨hhead', rfl⟩ | ⟨hhead', hr⟩
      · rfl
      · exact absurd hhead hhead'
      · exact absurd hhead' hhead
      · exact hrest.eq hr

/-! ## The block before a handler -/

/-- Blanks, among them line breaks. -/
def gapTest : CharTest := .inSet ⟨[.cls .blank false, .one 10], false, false, false⟩

/-- The test for gaps passes blanks. -/
theorem passes_gapTest (x : Char) : gapTest.passes x = Text.isBlank x := by
  have hbreak : (x.toNat == 10) = true → Text.isBlank x = true := by
    intro h
    obtain rfl : x = '\n' := Char.toNat_inj.mp (beq_iff_eq.mp h)
    decide
  cases h : Text.isBlank x with
  | true => simp [gapTest, CharTest.passes, CharSet.has, Member.covers, CharClass.has, h]
  | false =>
      have hno : (x.toNat == 10) = false := by
        rw [← Bool.not_eq_true]
        intro hten
        rw [hbreak hten] at h
        cases h
      simp [gapTest, CharTest.passes, CharSet.has, Member.covers, CharClass.has, h, hno]

theorem endingTry_eq : endingTry =
    ⟨.seq (.anchor (.boundary false)) (.spelled tryWord (.seq .blanks
      (.seq (.one (.literal openBrace.toNat))
        (.seq (.group 1 (.rep .greedy 0 none (.one Node.anyTest)))
          (.seq (.one (.literal closeBrace.toNat))
            (.seq (.rep .greedy 0 none (.one gapTest)) (.anchor .textEnd))))))), [],
      ⟨5, none, true⟩⟩ := by
  decide +kernel

/-- The pattern for a protected block at the end is plain. -/
theorem plain_endingTry : endingTry.Plain 2 where
  flat := by
    rw [endingTry_eq]
    exact .seq .anchor (.spelled (.seq (.rep rfl) (.seq .one
      (.seq (.group (Nat.zero_le 0) (.rep rfl)) (.seq .one (.seq (.rep rfl) .anchor))))) _)
  starts := by
    rw [endingTry_eq]
    rintro s ⟨⟩
  least := by
    rw [endingTry_eq]
    decide

/-- What the pattern takes is a protected block at the end, and the group holds its body. -/
theorem of_takes_endingTry {front piece back : Text} {ms : Marks}
    (h : endingTry.node.Takes front piece back [] ms) : ∃ gap body tail,
      piece = tryWord ++ (gap ++ openBrace :: (body ++ closeBrace :: tail)) ∧
      AllBlank gap ∧ EndsWord front ∧ AllBlank (tail ++ back) ∧
      ms = [some (.between (front ++ (tryWord ++ (gap ++ [openBrace])))
          (body ++ closeBrace :: (tail ++ back))),
        some (.between (front ++ (tryWord ++ (gap ++ [openBrace])) ++ body)
          (closeBrace :: (tail ++ back)))] := by
  rw [endingTry_eq] at h
  simp only [Node.Takes, Node.takes_spelled, Node.takes_blanks, passes_gapTest] at h
  obtain ⟨_, _, _, rfl, ⟨rfl, hboundary, rfl⟩, _, rfl, gap, _, _, rfl, ⟨hgap, rfl⟩, _, _, _, rfl,
    ⟨⟨x, rfl, hx⟩, rfl⟩, body, _, _, rfl, ⟨_, ⟨-, -, rfl⟩, rfl⟩, _, _, _, rfl,
    ⟨⟨y, rfl, hy⟩, rfl⟩, tail, _, _, rfl, ⟨-, htail, rfl⟩, rfl, hend, rfl⟩ := h
  obtain rfl : x = openBrace := Char.toNat_inj.mp (beq_iff_eq.mp hx)
  obtain rfl : y = closeBrace := Char.toNat_inj.mp (beq_iff_eq.mp hy)
  rw [tryWord] at hboundary
  have hback : back = [] ∨ back = ['\n'] := by simpa [Anchor.holds] using hend
  refine ⟨gap, body, tail, by simp, hgap, ?_, ?_, by simp [Marks.put, openMark, closeMark]⟩
  · simpa [EndsWord] using (holds_boundary (by decide)).symm.trans hboundary
  · intro x hx
    rcases List.mem_append.mp hx with hx | hx
    · exact htail x hx
    · rcases hback with rfl | rfl
      · cases hx
      · rw [List.mem_singleton.mp hx]
        decide

/-- The pattern spans every protected block at the end. -/
theorem spans_endingTry {front rest t tail : Text} (h : TryAt front rest t)
    (htail : AllBlank tail) :
    ∃ piece, t ++ closeBrace :: tail = front ++ (piece ++ []) ∧
      endingTry.node.Spans front piece [] := by
  obtain ⟨gap, rfl, hgap, hfront⟩ := h
  refine ⟨tryWord ++ (gap ++ ([openBrace] ++ (rest ++ ([closeBrace] ++ (tail ++ []))))), by simp,
    ?_⟩
  rw [endingTry_eq]
  simp only [Node.spans_seq, Node.spans_anchor, Node.spans_spelled, Node.spans_blanks,
    Node.spans_literal, Node.spans_group, Node.spans_many, passes_gapTest]
  refine ⟨[], _, rfl, ⟨rfl, ?_⟩, _, rfl, gap, _, rfl, hgap, _, _, rfl, rfl, rest, _, rfl, ?_, _, _,
    rfl, rfl, tail, [], rfl, htail, rfl, rfl⟩
  · rw [EndsWord] at hfront
    exact (holds_boundary (by decide)).trans (by rw [hfront]; rfl)
  · exact fun x _ => Node.passes_anyTest x

/-- The search finds the first protected block. -/
theorem of_search_endingTry {before : Text} {m : Found} (h : endingTry.search before = some m) :
    ∃ front tail, before = front ++ closeBrace :: tail ∧ AllBlank tail ∧
      FirstTry (m.group 1) front := by
  obtain ⟨front, piece, back, rfl, htakes, hfirst⟩ := plain_endingTry.of_search h
  obtain ⟨gap, body, tail, rfl, hgap, hfront, htail, hmarks⟩ := of_takes_endingTry htakes
  refine ⟨front ++ (tryWord ++ (gap ++ openBrace :: body)), tail ++ back, by simp, htail, ?_⟩
  rw [Found.group_one_between hmarks]
  refine ⟨front, ⟨gap, rfl, hgap, hfront⟩, fun front' rest' htry => ?_⟩
  obtain ⟨piece, hpiece, hspans⟩ := spans_endingTry htry htail
  exact hfirst front' piece [] (by simpa using hpiece) hspans

/-- The last closing brace of a text is found in one way only, if only blanks follow it. -/
theorem closeBrace_unique {front front' tail tail' : Text} (htail : AllBlank tail)
    (htail' : AllBlank tail') (h : front ++ closeBrace :: tail = front' ++ closeBrace :: tail') :
    front = front' := by
  rcases List.append_eq_append_iff.mp h with ⟨a, rfl, ha⟩ | ⟨a, rfl, ha⟩
  · cases a with
    | nil => simp
    | cons x a => exact absurd ((List.cons.inj ha).2 ▸ by simp) htail.closeBrace_notMem
  · cases a with
    | nil => simp
    | cons x a => exact absurd ((List.cons.inj ha).2 ▸ by simp) htail'.closeBrace_notMem

/-- A handler is excused by the first protected block of the text before it. -/
theorem excuses_iff {before : Text} : excuses before = true ↔
    ∃ front tail rest, before = front ++ closeBrace :: tail ∧ AllBlank tail ∧
      FirstTry rest front ∧ Harmless rest := by
  constructor
  · intro h
    rw [excuses] at h
    split at h
    next m hm =>
        obtain ⟨front, tail, hbefore, htail, hfirst⟩ := of_search_endingTry hm
        exact ⟨front, tail, m.group 1, hbefore, htail, hfirst, found_harmlessCall_iff.mp h⟩
    next => cases h
  · rintro ⟨front, tail, rest, rfl, htail, hfirst, hharmless⟩
    have hfound : endingTry.found (front ++ closeBrace :: tail) = true := by
      obtain ⟨front', htry, -⟩ := hfirst
      obtain ⟨piece, hpiece, hspans⟩ := spans_endingTry htry htail
      exact plain_endingTry.found_iff.mpr ⟨front', piece, [], hpiece, hspans⟩
    obtain ⟨m, hm⟩ := Option.isSome_iff_exists.mp hfound
    obtain ⟨front', tail', heq, htail', hfirst'⟩ := of_search_endingTry hm
    obtain rfl := closeBrace_unique htail htail' heq
    rw [excuses, hm]
    exact found_harmlessCall_iff.mpr (hfirst.eq hfirst' ▸ hharmless)

/-- The text ends in a block, blanks apart: `head` stands before its opening brace, and `block` is
what it holds. -/
def EndsBlock (head block t : Text) : Prop :=
  ∃ tail, t = head ++ openBrace :: (block ++ closeBrace :: tail) ∧ Closed block ∧ AllBlank tail

/-- If braces are balanced, a text that ends in a closing brace ends in a block. -/
theorem exists_endsBlock {front tail : Text}
    (h : ∀ n, 0 ≤ surplus ((front ++ closeBrace :: tail).take n)) (htail : AllBlank tail) :
    ∃ head block, EndsBlock head block (front ++ closeBrace :: tail) := by
  have hopen : 0 < surplus front := by
    have hn := h (front.length + 1)
    rw [List.take_length_add_append, List.take_succ_cons, List.take_zero, surplus_append,
      surplus_closeBrace] at hn
    omega
  obtain ⟨head, block, rfl, hblock⟩ := exists_openBrace (surplus_take_of_append h) hopen
  exact ⟨head, block, tail, by simp, hblock, htail⟩

/-- The block before a handler excuses it if it is protected and holds a harmless call.  So does any
protected block that starts before it, if a harmless call follows; and if the block before the
handler is not protected, the first one inside of it counts. -/
theorem EndsBlock.excuses_iff {head block before : Text} (h : EndsBlock head block before) :
    excuses before = true ↔ (Protects head ∧ Harmless block) ∨
      (∃ rest, FirstTry rest head ∧ Harmless (rest ++ openBrace :: block)) ∨
      ((¬ ∃ rest, FirstTry rest head) ∧ ¬ Protects head ∧
        ∃ rest, FirstTry rest block ∧ Harmless rest) := by
  obtain ⟨tail, rfl, -, htail⟩ := h
  have hexcuses : excuses (head ++ openBrace :: (block ++ closeBrace :: tail)) = true ↔
      ∃ rest, FirstTry rest (head ++ openBrace :: block) ∧ Harmless rest := by
    rw [Quality.excuses_iff]
    constructor
    · rintro ⟨front, tail', rest, heq, htail', hfirst⟩
      have heq : (head ++ openBrace :: block) ++ closeBrace :: tail =
          front ++ closeBrace :: tail' := by
        simpa using heq
      obtain rfl := closeBrace_unique htail htail' heq
      exact ⟨rest, hfirst⟩
    · rintro ⟨rest, hfirst⟩
      exact ⟨_, tail, rest, by simp, htail, hfirst⟩
  rw [hexcuses]
  simp only [firstTry_append]
  constructor
  · rintro ⟨_, ⟨rest, hrest, rfl⟩ | ⟨hnone, ⟨hhead, rfl⟩ | ⟨hhead, hrest⟩⟩, hharmless⟩
    · exact .inr (.inl ⟨rest, hrest, hharmless⟩)
    · exact .inl ⟨hhead, hharmless⟩
    · exact .inr (.inr ⟨hnone, hhead, _, hrest, hharmless⟩)
  · rintro (⟨hhead, hharmless⟩ | ⟨rest, hrest, hharmless⟩ | ⟨hnone, hhead, rest, hrest, hharmless⟩)
    · by_cases hbefore : ∃ rest, FirstTry rest head
      · obtain ⟨rest, hrest⟩ := hbefore
        refine ⟨rest ++ openBrace :: block, .inl ⟨rest, hrest, rfl⟩, ?_⟩
        simpa using hharmless.append_left (rest ++ [openBrace])
      · exact ⟨block, .inr ⟨hbefore, .inl ⟨hhead, rfl⟩⟩, hharmless⟩
    · exact ⟨_, .inl ⟨rest, hrest, rfl⟩, hharmless⟩
    · exact ⟨rest, .inr ⟨hnone, .inr ⟨hhead, hrest⟩⟩, hharmless⟩

end ExtensionAudit.Quality
