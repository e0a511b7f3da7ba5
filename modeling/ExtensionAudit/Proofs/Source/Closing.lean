import Mathlib
import ExtensionAudit.Lifecycle.Basic
import ExtensionAudit.Proofs.Source.Braces
import ExtensionAudit.Waiting

/-!
# Where a block ends

Every check that reads a block walks through the text after its opening brace and counts braces.
Some checks take the block with its closing brace (`closedBlock`), others without its last
character (`blockBody`).

The walk ends in one of two ways: it passes a closed text and stops behind the brace after it, or
nothing closes the block up to the end (`closedBlock_cases`).  So it stops behind the first place
up to which one more brace closes than opens, if there is such a place (`blockStop_of_closesAt`).
-/

namespace ExtensionAudit.Source

/-! ## The walk -/

/-- One step: unless it closes the last block, the walk goes on with the blocks that are open. -/
theorem throughClose_step {depth : Nat} {x : Char} (hdepth : 0 < depth)
    (hx : x = closeBrace → 1 < depth) (t : Text) :
    ∃ d : Nat, 0 < d ∧ (d : Int) = depth + surplus [x] ∧
      throughClose depth (x :: t) = x :: throughClose d t := by
  by_cases hopening : x = openBrace
  · subst hopening
    exact ⟨depth + 1, depth.succ_pos, rfl, rfl⟩
  by_cases hclosing : x = closeBrace
  · have hmore := hx hclosing
    subst hclosing
    refine ⟨depth - 1, by omega, by simp; omega, ?_⟩
    rw [throughClose, if_pos (by rfl), if_neg (by omega)]
  · refine ⟨depth, hdepth, by simp [surplus_other hopening hclosing], ?_⟩
    rw [throughClose, if_neg, if_neg]
    · exact fun h => hopening (Char.toNat_inj.mp (beq_iff_eq.mp h))
    · exact fun h => hclosing (Char.toNat_inj.mp (beq_iff_eq.mp h))

/-- The walk stops behind the first brace that leaves no block open, or at the end. -/
theorem throughClose_cases {depth : Nat} (hdepth : 0 < depth) (t : Text) :
    (throughClose depth t = t ∧ ∀ n, 0 < depth + surplus (t.take n)) ∨
      ∃ body rest, t = body ++ closeBrace :: rest ∧
        throughClose depth t = body ++ [closeBrace] ∧ depth + surplus body = 1 ∧
        ∀ n, 0 < depth + surplus (body.take n) := by
  induction t generalizing depth with
  | nil => exact .inl ⟨rfl, fun n => by simpa using hdepth⟩
  | cons x t ih =>
      by_cases hlast : x = closeBrace ∧ depth = 1
      · obtain ⟨rfl, rfl⟩ := hlast
        exact .inr ⟨[], t, rfl, rfl, rfl, fun n => by simp⟩
      have hmore : x = closeBrace → 1 < depth := by
        intro hx
        have hone : depth ≠ 1 := fun h => hlast ⟨hx, h⟩
        omega
      obtain ⟨d, hpos, hd, hwalk⟩ := throughClose_step hdepth hmore t
      have hopen {s : Text} (h : ∀ n, 0 < d + surplus (s.take n)) (n : Nat) :
          0 < depth + surplus ((x :: s).take n) := by
        cases n with
        | zero => simpa using hdepth
        | succ n =>
            rw [List.take_succ_cons, surplus_cons x, ← add_assoc, ← hd]
            exact h n
      rcases ih hpos with ⟨hall, hrest⟩ | ⟨body, rest, rfl, hbody, hsurplus, hrest⟩
      · exact .inl ⟨hwalk.trans (by rw [hall]), hopen hrest⟩
      · refine .inr ⟨x :: body, rest, rfl, hwalk.trans (by rw [hbody]; rfl), ?_, hopen hrest⟩
        rw [surplus_cons x, ← add_assoc, ← hd, hsurplus]

/-- The block is a closed text and the brace after it, or reaches to the end. -/
theorem closedBlock_cases (t : Text) :
    (closedBlock t = t ∧ ∀ n, 0 ≤ surplus (t.take n)) ∨
      ∃ body rest, t = body ++ closeBrace :: rest ∧ closedBlock t = body ++ [closeBrace] ∧
        Closed body := by
  rcases throughClose_cases Nat.one_pos t with ⟨hall, hopen⟩ | ⟨body, rest, ht, hbody, hone, hopen⟩
  · exact .inl ⟨hall, fun n => by have := hopen n; omega⟩
  · exact .inr ⟨body, rest, ht, hbody, by omega, fun n => by have := hopen n; omega⟩

/-! ## Places in a text -/

/-- The place behind the block that starts at `start`. -/
def blockStop (t : Text) (start : Nat) : Nat :=
  start + (closedBlock (t.drop start)).length

/-- The brace that closes the block which starts at `start`: the first place up to which one more
brace closes than opens. -/
def ClosesAt (t : Text) (start place : Nat) : Prop :=
  IsLeast {e | start ≤ e ∧ e < t.length ∧ surplus (Text.slice t start (e + 1)) = -1} place

/-- What a place from `start` on has before it. -/
theorem slice_add (t : Text) (start n : Nat) :
    Text.slice t start (start + n) = (t.drop start).take n := by
  rw [Text.slice, Nat.add_sub_cancel_left]

theorem closedBlock_drop (t : Text) (start : Nat) :
    closedBlock (t.drop start) = Text.slice t start (blockStop t start) := by
  rw [blockStop, slice_add]
  exact List.prefix_iff_eq_take.mp (throughClose_isPrefix 1 _)

theorem blockBody_drop (t : Text) (start : Nat) :
    blockBody (t.drop start) = Text.slice t start (blockStop t start - 1) := by
  have hlength : blockStop t start - start = (closedBlock (t.drop start)).length :=
    Nat.add_sub_cancel_left ..
  rw [blockBody, List.dropLast_eq_take, ← hlength, closedBlock_drop, Text.slice, Text.slice,
    List.take_take, min_eq_left (Nat.sub_le ..), Nat.sub_right_comm]

/-- A brace after a closed text closes the block. -/
theorem Closed.closesAt {t body rest : Text} {start : Nat} (h : Closed body)
    (ht : t.drop start = body ++ closeBrace :: rest) : ClosesAt t start (start + body.length) := by
  have hlength := congrArg List.length ht
  rw [List.length_drop, List.length_append, List.length_cons] at hlength
  refine ⟨⟨Nat.le_add_right .., by omega, ?_⟩, ?_⟩
  · rw [Nat.add_assoc, slice_add, ht, List.take_append, List.take_of_length_le (Nat.le_succ _),
      Nat.add_sub_cancel_left, surplus_append, h.surplus_eq]
    rfl
  · rintro e ⟨hstart, -, he⟩
    by_contra hlt
    obtain ⟨n, rfl⟩ := Nat.exists_eq_add_of_le hstart
    rw [Nat.add_assoc, slice_add, ht, List.take_append_of_le_length (by omega)] at he
    have := h.nonneg (n + 1)
    omega

/-- The walk through a block stops behind the brace that closes it, or at the end of the text if
there is none.  So the two ways to read the method `disable` give the same up to this brace. -/
theorem blockStop_of_closesAt (t : Text) (start : Nat) :
    (blockBody (t.drop start) = Text.slice t start (blockStop t start - 1) ∧
      closedBlock (t.drop start) = Text.slice t start (blockStop t start)) ∧
    (∀ place, ClosesAt t start place →
      blockStop t start = place + 1 ∧ Closed (Text.slice t start place) ∧
      blockBody (t.drop start) = Text.slice t start place ∧
      closedBlock (t.drop start) = Text.slice t start place ++ [closeBrace] ∧
      (afterMethod? "disable" t = some (t.drop start) →
        Waiting.disableBody? t = some (Text.slice t start place) ∧
        Lifecycle.disableBlock? t = some (Text.slice t start place ++ [closeBrace]))) ∧
    (start ≤ t.length → (¬ ∃ place, ClosesAt t start place) → blockStop t start = t.length) := by
  refine ⟨⟨blockBody_drop t start, closedBlock_drop t start⟩, ?_⟩
  rcases closedBlock_cases (t.drop start) with ⟨hall, hopen⟩ | ⟨body, rest, ht, hblock, hclosed⟩
  · refine ⟨fun place h => ?_, fun hstart _ => ?_⟩
    · obtain ⟨⟨hle, _, hsurplus⟩, -⟩ := h
      obtain ⟨n, rfl⟩ := Nat.exists_eq_add_of_le hle
      rw [Nat.add_assoc, slice_add] at hsurplus
      have := hopen (n + 1)
      omega
    · rw [blockStop, hall, List.length_drop, Nat.add_sub_cancel' hstart]
  · have hcloses := hclosed.closesAt ht
    refine ⟨fun place h => ?_, fun _ hnone => absurd ⟨_, hcloses⟩ hnone⟩
    obtain rfl := h.unique hcloses
    have hbody : Text.slice t start (start + body.length) = body := by
      rw [slice_add, ht, List.take_left]
    have hfront : blockBody (t.drop start) = body := by
      rw [blockBody, hblock, List.dropLast_concat]
    rw [hbody]
    refine ⟨?_, hclosed, hfront, hblock, fun hmethod => ⟨?_, ?_⟩⟩
    · rw [blockStop, hblock, List.length_append, List.length_singleton, Nat.add_assoc]
    · rw [Waiting.disableBody?, hmethod, Option.map_some, hfront]
    · rw [Lifecycle.disableBlock?, hmethod, Option.map_some, hblock]

/-- A method with a block in it, inside of another block. -/
def nestedScript : Text :=
  "\x7b disable() \x7b if (a) \x7b b(); \x7d c(); \x7d\n\x7d".toList

/-- The block ends at its own brace, not at that of the block in it or around it. -/
theorem blockStop_of_closesAt_nestedScript :
    ClosesAt nestedScript 13 35 ∧ blockStop nestedScript 13 = 36 ∧
      Waiting.disableBody? nestedScript = some " if (a) \x7b b(); \x7d c(); ".toList ∧
      Lifecycle.disableBlock? nestedScript = some " if (a) \x7b b(); \x7d c(); \x7d".toList := by
  have hplaces : (35 < nestedScript.length ∧ surplus (Text.slice nestedScript 13 36) = -1 ∧
      afterMethod? "disable" nestedScript = some (nestedScript.drop 13)) ∧
      ∀ e < 35, 13 ≤ e → surplus (Text.slice nestedScript 13 (e + 1)) ≠ -1 := by decide
  obtain ⟨⟨hplace, hsurplus, hmethod⟩, hbefore⟩ := hplaces
  have hcloses : ClosesAt nestedScript 13 35 := by
    refine ⟨⟨by decide, hplace, hsurplus⟩, fun e he => ?_⟩
    by_contra hlt
    exact hbefore e (Nat.lt_of_not_le hlt) he.1 he.2.2
  obtain ⟨hstop, -, -, -, hread⟩ := (blockStop_of_closesAt nestedScript 13).2.1 35 hcloses
  exact ⟨hcloses, hstop, hread hmethod⟩

end ExtensionAudit.Source
