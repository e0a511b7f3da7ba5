import Mathlib
import ExtensionAudit.Source.Scope

/-!
# The lines of a constructor

A constructor is read line by line, with a count of the blocks that are open.  The lines of a body
are taken until the count is no longer positive (`untilClosed`), and this is the whole body if a
block stays open up to its last line (`untilClosed_eq_self_iff`).

The count is looked at from the line after the head on, whether or not a brace has opened by then.
So a body is found whose first brace stands in the head or in the next line, and a longer list of
parameters hides it (`constructorLines_eq_body_iff`).
-/

namespace ExtensionAudit

/-- Each element with its number, counted from a given one. -/
def Text.numberedFrom {α : Type} (n : Nat) (xs : List α) : List (Nat × α) :=
  (xs.zipIdx n).map fun (x, i) => (i, x)

namespace Source

open Text (numberedFrom)

/-! ## Counting braces -/

/-- How many more braces open than close in some lines. -/
def balance (lines : List Text) : Int := (lines.map surplus).sum

@[simp]
theorem balance_nil : balance [] = 0 := rfl

@[simp]
theorem balance_cons (line : Text) (lines : List Text) :
    balance (line :: lines) = surplus line + balance lines := by
  simp [balance]

@[simp]
theorem balance_append (front back : List Text) :
    balance (front ++ back) = balance front + balance back := by
  simp [balance]

theorem balance_take_succ {lines : List Text} {k : Nat} {line : Text} (h : lines[k]? = some line) :
    balance (lines.take (k + 1)) = balance (lines.take k) + surplus line := by
  rw [List.take_add_one, h, balance_append]
  simp

/-- A line without an opening brace opens nothing. -/
theorem surplus_nonpos {line : Text} (h : opens line = false) : surplus line ≤ 0 := by
  have hcount : Text.countOf (Char.ofNat 123) line = 0 := by
    rw [Text.countOf, List.count_eq_zero]
    simpa [opens] using h
  simp [surplus, hcount]

/-- The lines up to the first at whose end no block is open, if `depth` blocks are open before
them. -/
def untilClosed (depth : Int) : List Text → List Text
  | [] => []
  | line :: rest =>
      line :: if depth + surplus line ≤ 0 then [] else untilClosed (depth + surplus line) rest

/-- Lines at whose end no block is open are followed by nothing. -/
theorem untilClosed_append {depth : Int} {lines : List Text} (hne : lines ≠ [])
    (hclosed : depth + balance lines ≤ 0) (rest : List Text) :
    untilClosed depth (lines ++ rest) = untilClosed depth lines := by
  induction lines generalizing depth with
  | nil => exact absurd rfl hne
  | cons line lines ih =>
      rw [List.cons_append, untilClosed, untilClosed]
      split
      next => rfl
      next hopen =>
          rw [balance_cons] at hclosed
          have hlines : lines ≠ [] := by
            rintro rfl
            rw [balance_nil] at hclosed
            omega
          rw [ih hlines (by omega)]

/-- All lines are taken iff a block is open at the end of each but the last. -/
theorem untilClosed_eq_self_iff (depth : Int) (lines : List Text) :
    untilClosed depth lines = lines ↔
      ∀ n < lines.length, 0 < n → 0 < depth + balance (lines.take n) := by
  induction lines generalizing depth with
  | nil => simp [untilClosed]
  | cons line lines ih =>
      have hprefixes : (∀ n < (line :: lines).length, 0 < n →
          0 < depth + balance ((line :: lines).take n)) ↔
            ∀ n < lines.length, 0 < depth + surplus line + balance (lines.take n) := by
        constructor
        · intro h n hn
          have := h (n + 1) (Nat.succ_lt_succ hn) n.succ_pos
          rw [List.take_succ_cons, balance_cons] at this
          omega
        · rintro h (_ | n) hn hpos
          · omega
          · have := h n (Nat.lt_of_succ_lt_succ hn)
            rw [List.take_succ_cons, balance_cons]
            omega
      rw [untilClosed, List.cons_inj_right, hprefixes]
      split
      next hclosed =>
          rw [eq_comm]
          constructor
          · rintro rfl n hn
            exact absurd hn n.not_lt_zero
          · intro h
            by_contra hne
            have := h 0 (List.length_pos_iff.mpr hne)
            rw [List.take_zero, balance_nil] at this
            omega
      next hopen =>
          rw [ih]
          refine ⟨fun h n hn => ?_, fun h n hn _ => h n hn⟩
          rcases Nat.eq_zero_or_pos n with rfl | hpos
          · rw [List.take_zero, balance_nil]
            omega
          · exact h n hn hpos

/-! ## One line -/

/-- A line that neither registers a class nor is the head of a constructor. -/
structure Quiet (line : Text) : Prop where
  /-- No class is registered. -/
  registers : hasCall "GObject.registerClass" line = false
  /-- There is no head of a constructor. -/
  head : hasWordCall "constructor" line = false

namespace ConstructorScan

/-- The walk is outside of constructors and of calls that register a class. -/
@[mk_iff]
structure Idle (s : ConstructorScan) : Prop where
  /-- No class is being registered. -/
  registering : s.registering = false
  /-- No constructor is open. -/
  inside : s.inside = false

/-- The walk is inside a constructor in which so many blocks are open.  None need be open yet. -/
@[mk_iff]
structure Inside (s : ConstructorScan) (own : Int) : Prop where
  /-- No class is being registered. -/
  registering : s.registering = false
  /-- A constructor is open. -/
  inside : s.inside = true
  /-- The open blocks. -/
  own : s.own = own

/-- The walk has read a line of a constructor, at whose end so many blocks are open. -/
def After (s : ConstructorScan) (own : Int) : Prop :=
  if own ≤ 0 then s.Idle else s.Inside own

variable {s : ConstructorScan} {own : Int} {line : Text}

theorem step_idle (h : s.Idle) (hline : Quiet line) :
    (s.step line).2 = false ∧ (s.step line).1.Idle := by
  simp [step, h.registering, h.inside, hline.registers, hline.head, idle_iff]

theorem step_inside (h : s.Inside own) (hline : hasCall "GObject.registerClass" line = false) :
    (s.step line).2 = true ∧ (s.step line).1.After (own + surplus line) := by
  by_cases hclosed : own + surplus line ≤ 0 <;>
    simp [step, h.registering, h.inside, h.own, hline, After, idle_iff, inside_iff, hclosed]
  omega

/-- A head with a brace is a line of the constructor. -/
theorem step_head (h : s.Idle) (hline : hasCall "GObject.registerClass" line = false)
    (hhead : hasWordCall "constructor" line = true) (hopens : opens line = true) :
    (s.step line).2 = true ∧ (s.step line).1.After (surplus line) := by
  by_cases hclosed : surplus line ≤ 0 <;>
    simp [step, h.registering, h.inside, hline, hhead, hopens, After, idle_iff, inside_iff, hclosed]
  omega

/-- A head without a brace is left out. -/
theorem step_bare_head (h : s.Idle) (hline : hasCall "GObject.registerClass" line = false)
    (hhead : hasWordCall "constructor" line = true) (hopens : opens line = false) :
    (s.step line).2 = false ∧ (s.step line).1.Inside 0 := by
  simp [step, h.registering, h.inside, hline, hhead, hopens, inside_iff]

end ConstructorScan

/-! ## All lines -/

open ConstructorScan

variable {s : ConstructorScan} {own : Int} {lines : List Text}

theorem constructorLinesFrom_cons (n : Nat) (s : ConstructorScan) (line : Text)
    (lines : List Text) :
    constructorLinesFrom n s (line :: lines) =
      (if (s.step line).2 then [(n, line)] else []) ++
        constructorLinesFrom (n + 1) (s.step line).1 lines := by
  rw [constructorLinesFrom]
  obtain ⟨s', belongs⟩ := s.step line
  cases belongs <;> rfl

theorem constructorLinesFrom_of_idle (h : s.Idle) (hlines : ∀ line ∈ lines, Quiet line) (n : Nat) :
    constructorLinesFrom n s lines = [] := by
  induction lines generalizing s n with
  | nil => rfl
  | cons line lines ih =>
      obtain ⟨hline, hlines⟩ := List.forall_mem_cons.mp hlines
      obtain ⟨hbelongs, hidle⟩ := step_idle h hline
      rw [constructorLinesFrom_cons, hbelongs, ih hidle hlines]
      rfl

/-- Quiet lines before a constructor are passed over. -/
theorem constructorLinesFrom_append {front : List Text} (h : s.Idle)
    (hfront : ∀ line ∈ front, Quiet line) (n : Nat) (lines : List Text) :
    ∃ s' : ConstructorScan, s'.Idle ∧ constructorLinesFrom n s (front ++ lines) =
      constructorLinesFrom (n + front.length) s' lines := by
  induction front generalizing s n with
  | nil => exact ⟨s, h, rfl⟩
  | cons line front ih =>
      obtain ⟨hline, hfront⟩ := List.forall_mem_cons.mp hfront
      obtain ⟨hbelongs, hidle⟩ := step_idle h hline
      obtain ⟨s', hs', heq⟩ := ih hidle hfront (n + 1)
      refine ⟨s', hs', ?_⟩
      rw [List.cons_append, constructorLinesFrom_cons, hbelongs, heq, List.length_cons]
      simp only [Bool.false_eq_true, if_false, List.nil_append]
      congr 1
      omega

/-- After a line of a constructor, the lines are taken until no block is open. -/
theorem constructorLinesFrom_of_after (h : s.After own) (hlines : ∀ line ∈ lines, Quiet line)
    (n : Nat) : constructorLinesFrom n s lines =
      numberedFrom n (if own ≤ 0 then [] else untilClosed own lines) := by
  induction lines generalizing s own n with
  | nil => split <;> rfl
  | cons line lines ih =>
      by_cases hclosed : own ≤ 0
      · rw [After, if_pos hclosed] at h
        rw [if_pos hclosed, constructorLinesFrom_of_idle h hlines]
        rfl
      · rw [After, if_neg hclosed] at h
        obtain ⟨hline, hlines⟩ := List.forall_mem_cons.mp hlines
        obtain ⟨hbelongs, hafter⟩ := step_inside h hline.registers
        rw [if_neg hclosed, constructorLinesFrom_cons, hbelongs, ih hafter hlines]
        rfl

/-- Inside a constructor in which no block need be open yet, the next line is taken at any rate. -/
theorem constructorLinesFrom_of_inside (h : s.Inside own) (hlines : ∀ line ∈ lines, Quiet line)
    (n : Nat) : constructorLinesFrom n s lines = numberedFrom n (untilClosed own lines) := by
  cases lines with
  | nil => rfl
  | cons line lines =>
      obtain ⟨hline, hlines⟩ := List.forall_mem_cons.mp hlines
      obtain ⟨hbelongs, hafter⟩ := step_inside h hline.registers
      rw [constructorLinesFrom_cons, hbelongs, constructorLinesFrom_of_after hafter hlines]
      rfl

/-! ## One constructor -/

/-- A script with one constructor.  `gap` are the lines from the head of the constructor on that
stand before the first line with an opening brace, and `body` goes from this line to the first one
at whose end as many braces have closed as opened. -/
structure OneConstructor (before gap body after : List Text) : Prop where
  /-- No class is registered. -/
  registers : ∀ line ∈ before ++ gap ++ body ++ after, hasCall "GObject.registerClass" line = false
  /-- The head of the constructor. -/
  head : (gap ++ body).head?.any (hasWordCall "constructor") = true
  /-- There is no other head. -/
  others : ∀ line ∈ before ++ (gap ++ body).tail ++ after, hasWordCall "constructor" line = false
  /-- No brace opens before the body. -/
  gap_opens : ∀ line ∈ gap, opens line = false
  /-- A brace opens in the first line of the body. -/
  body_opens : body.head?.any opens = true
  /-- All that opens in the body closes in it. -/
  balance_body : balance body = 0
  /-- The body is no longer than that. -/
  balance_take : ∀ n < body.length, 0 < n → balance (body.take n) ≠ 0

namespace OneConstructor

variable {before gap body after : List Text}

theorem body_ne_nil (h : OneConstructor before gap body after) : body ≠ [] := by
  rintro rfl
  exact absurd h.body_opens Bool.false_ne_true

theorem quiet_before (h : OneConstructor before gap body after) : ∀ line ∈ before, Quiet line :=
  fun line hline => ⟨h.registers line (by simp [hline]), h.others line (by simp [hline])⟩

/-- No line after the head of the constructor starts a scope. -/
theorem quiet_tail (h : OneConstructor before gap body after) :
    ∀ line ∈ (gap ++ body).tail ++ after, Quiet line := by
  intro line hline
  refine ⟨h.registers line ?_, h.others line ?_⟩
  · rw [List.append_assoc before, List.append_assoc, List.mem_append]
    rcases List.mem_append.mp hline with hmem | hmem
    · exact .inr (List.mem_append_left _ (List.mem_of_mem_tail hmem))
    · exact .inr (List.mem_append_right _ hmem)
  · rw [List.append_assoc]
    exact List.mem_append_right _ hline

/-- The lines are taken from the head on if it has a brace, else from the line after it. -/
theorem constructorLines_eq (h : OneConstructor before gap body after) :
    constructorLines (before ++ gap ++ body ++ after) =
      numberedFrom (before.length + (gap.take 1).length + 1)
        (untilClosed 0 (gap.drop 1 ++ body ++ after)) := by
  have hstart : ConstructorScan.Idle {} := ⟨rfl, rfl⟩
  have hquiet := h.quiet_tail
  obtain ⟨s, hs, hskip⟩ := constructorLinesFrom_append hstart h.quiet_before 1
    (gap ++ body ++ after)
  rw [constructorLines, List.append_assoc, List.append_assoc, ← List.append_assoc gap, hskip]
  have hhead := h.head
  have hnumber : 1 + before.length = before.length + 1 := Nat.add_comm ..
  cases gap with
  | nil =>
      obtain ⟨line, rest, rfl⟩ := List.exists_cons_of_ne_nil h.body_ne_nil
      obtain ⟨hbelongs, hafter⟩ := step_head hs (h.registers line (by simp)) hhead h.body_opens
      have hrest := constructorLinesFrom_of_after hafter hquiet (1 + before.length + 1)
      rw [← zero_add (surplus line)] at hrest
      rw [List.nil_append, List.cons_append, constructorLinesFrom_cons, hbelongs]
      refine (congrArg _ hrest).trans ?_
      rw [hnumber]
      rfl
  | cons line gap =>
      obtain ⟨hbelongs, hinside⟩ := step_bare_head hs (h.registers line (by simp)) hhead
        (h.gap_opens line List.mem_cons_self)
      have hrest := constructorLinesFrom_of_inside hinside hquiet (1 + before.length + 1)
      rw [List.cons_append, List.cons_append, constructorLinesFrom_cons, hbelongs]
      refine (congrArg _ hrest).trans ?_
      rw [hnumber]
      rfl

/-- If the brace stands in the head or in the line after it, the body is taken up to the first line
at whose end no block is open. -/
theorem constructorLines_of_near (h : OneConstructor before gap body after)
    (hgap : gap.length ≤ 1) :
    constructorLines (before ++ gap ++ body ++ after) =
      numberedFrom (before.length + gap.length + 1) (untilClosed 0 body) := by
  rw [h.constructorLines_eq, List.take_of_length_le hgap, List.drop_eq_nil_of_le hgap,
    List.nil_append, untilClosed_append h.body_ne_nil (by rw [h.balance_body, zero_add])]

/-- If the brace comes later, only the line after the head is taken. -/
theorem constructorLines_of_far (h : OneConstructor before gap body after)
    (hgap : 2 ≤ gap.length) :
    constructorLines (before ++ gap ++ body ++ after) =
      numberedFrom (before.length + 2) ((gap.drop 1).take 1) := by
  obtain ⟨head, line, gap, rfl⟩ : ∃ head line rest, gap = head :: line :: rest := by
    rcases gap with _ | ⟨head, _ | ⟨line, gap⟩⟩
    · simp at hgap
    · simp at hgap
    · exact ⟨head, line, gap, rfl⟩
  have hclosed : surplus line ≤ 0 := surplus_nonpos (h.gap_opens line (by simp))
  rw [h.constructorLines_eq]
  simp [untilClosed, hclosed]

end OneConstructor

theorem numberedFrom_injective (n : Nat) :
    Function.Injective (numberedFrom n : List Text → List (Nat × Text)) := by
  intro xs ys h
  have hlines := congrArg (List.map Prod.snd) h
  simpa [numberedFrom, Function.comp_def] using hlines

theorem head?_numberedFrom (n : Nat) (xs : List Text) :
    (numberedFrom n xs).head? = xs.head?.map fun x => (n, x) := by
  cases xs <;> rfl

/-- The body of a constructor is taken, and nothing else, iff the first brace stands in the head or
in the line after it, and a block is open at the end of each line of the body but the last.  If the
brace comes later, then only the line after the head is taken. -/
theorem constructorLines_eq_body_iff (before gap body after : List Text)
    (h : OneConstructor before gap body after) :
    (constructorLines (before ++ gap ++ body ++ after) =
        numberedFrom (before.length + gap.length + 1) body ↔
      gap.length ≤ 1 ∧ ∀ n < body.length, 0 < n → 0 < balance (body.take n)) ∧
    (2 ≤ gap.length → constructorLines (before ++ gap ++ body ++ after) =
      numberedFrom (before.length + 2) ((gap.drop 1).take 1)) := by
  refine ⟨?_, h.constructorLines_of_far⟩
  by_cases hgap : gap.length ≤ 1
  · have hbody := untilClosed_eq_self_iff 0 body
    simp only [zero_add] at hbody
    rw [h.constructorLines_of_near hgap, ← hbody, and_iff_right hgap]
    exact (numberedFrom_injective _).eq_iff
  · have hfar : 2 ≤ gap.length := by omega
    refine iff_of_false ?_ fun hnear => hgap hnear.1
    rw [h.constructorLines_of_far hfar]
    intro heq
    obtain ⟨line, rest, hbody⟩ := List.exists_cons_of_ne_nil h.body_ne_nil
    have hfirst := congrArg List.head? heq
    rw [hbody, head?_numberedFrom, head?_numberedFrom, List.head?_cons, Option.map_some,
      Option.map_eq_some_iff] at hfirst
    obtain ⟨_, -, hnumber⟩ := hfirst
    have := (Prod.mk.inj hnumber).1
    omega

/-- The brace stands in the line after the head. -/
theorem constructorLines_eq_body_iff_near :
    constructorLines ["class A \x7b".toList, "constructor(a,".toList, "b) \x7b".toList,
        "if (a) \x7b".toList, "f();".toList, "\x7d".toList, "\x7d".toList, "\x7d".toList] =
      [(3, "b) \x7b".toList), (4, "if (a) \x7b".toList), (5, "f();".toList), (6, "\x7d".toList),
        (7, "\x7d".toList)] := by
  have h : OneConstructor ["class A \x7b".toList] ["constructor(a,".toList]
      ["b) \x7b".toList, "if (a) \x7b".toList, "f();".toList, "\x7d".toList, "\x7d".toList]
      ["\x7d".toList] :=
    ⟨by decide, by decide, by decide, by decide, by decide, by decide, by decide⟩
  exact (constructorLines_eq_body_iff _ _ _ _ h).1.mpr ⟨by decide, by decide⟩

/-- The brace stands two lines after the head, and the body is not taken. -/
theorem constructorLines_far :
    OneConstructor [] ["constructor(".toList, "a".toList] [") \x7b".toList, "\x7d".toList] [] ∧
      constructorLines ["constructor(".toList, "a".toList, ") \x7b".toList, "\x7d".toList] =
        [(2, "a".toList)] :=
  ⟨⟨by decide, by decide, by decide, by decide, by decide, by decide, by decide⟩, by decide⟩

end Source

end ExtensionAudit
