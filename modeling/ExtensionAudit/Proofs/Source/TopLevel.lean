import Mathlib
import ExtensionAudit.Proofs.Source.Scope
import ExtensionAudit.Proofs.Text
import ExtensionAudit.Quality.State

/-!
# The top level of a script

Two checks ask which lines of a script stand outside of all blocks.  Both count braces, but
`moduleScope` looks at the blocks that are open before a line and `closedLines` at those that are
open after it.  So a line that opens a block of the module is one of the first kind only, and the
line that closes this block is one of the second kind only.

The count of `moduleScope` is cut off at zero after each line.  So it is no sum over the lines
before, but the greatest surplus of a block of lines that ends there, and the lines of the module
are those before which no such block opens more than it closes (`moduleScope_blocks`).

Where no brace closes too much nothing is cut off.  Then the two agree on a script iff each of its
lines closes what it opens (`closedLines_eq_moduleScope_iff`).
-/

namespace ExtensionAudit.Source

open Quality (closedLines closedLinesFrom)

variable {lines : List Text} {line : Text} {n m k : Nat} {depth : Int}

/-! ## Which lines are taken -/

/-- A line is taken iff no more opens than closes up to its end. -/
theorem mem_closedLinesFrom :
    (m, line) ∈ closedLinesFrom n depth lines ↔ ∃ k, lines[k]? = some line ∧ m = n + k ∧
      depth + balance (lines.take (k + 1)) ≤ 0 := by
  induction lines generalizing n depth with
  | nil => simp [closedLinesFrom]
  | cons first lines ih =>
      have hrest : (m, line) ∈ closedLinesFrom (n + 1) (depth + surplus first) lines ↔
          ∃ k, (first :: lines)[k + 1]? = some line ∧ m = n + (k + 1) ∧
            depth + balance ((first :: lines).take (k + 1 + 1)) ≤ 0 := by
        rw [ih]
        refine exists_congr fun k => ?_
        rw [List.getElem?_cons_succ, List.take_succ_cons, balance_cons, Int.add_assoc,
          Nat.add_assoc, Nat.add_comm 1 k]
      rw [← Nat.or_exists_add_one, ← hrest, closedLinesFrom]
      split
      next hclosed => simp [hclosed, and_comm, eq_comm]
      next hopen => simp [hopen]

/-- The blocks that are open after some lines, if `depth` blocks are open before them. -/
def openAfter (depth : Int) (lines : List Text) : Int :=
  lines.foldl (fun depth line => max 0 (depth + surplus line)) depth

theorem openAfter_concat (depth : Int) (lines : List Text) (line : Text) :
    openAfter depth (lines ++ [line]) = max 0 (openAfter depth lines + surplus line) := by
  rw [openAfter, List.foldl_concat, openAfter]

/-- As long as nothing is closed that was not open, the count is never cut off at zero. -/
theorem openAfter_take (h : ∀ k, 0 ≤ balance (lines.take k)) (k : Nat) :
    openAfter 0 (lines.take k) = balance (lines.take k) := by
  induction k with
  | zero => rfl
  | succ k ih =>
      cases hline : lines[k]? with
      | none => simpa [List.take_add_one, hline] using ih
      | some line =>
          have hstep := balance_take_succ hline
          have hafter := h (k + 1)
          rw [hstep] at hafter ⊢
          rw [List.take_add_one, hline, Option.toList_some, openAfter_concat, ih,
            max_eq_right hafter]

theorem moduleScopeFrom_append (n : Nat) (depth : Int) (front rest : List Text) :
    moduleScopeFrom n depth (front ++ rest) = moduleScopeFrom n depth front ++
      moduleScopeFrom (n + front.length) (openAfter depth front) rest := by
  induction front generalizing n depth with
  | nil => rfl
  | cons line front ih =>
      rw [List.cons_append, moduleScopeFrom, moduleScopeFrom, ih, List.length_cons,
        Nat.add_right_comm, Nat.add_assoc]
      split <;> rfl

/-- A line is taken iff no block is open after the lines before it. -/
theorem moduleScope_eq_filter (lines : List Text) : moduleScope lines =
    (Text.numbered lines).filter fun p => openAfter 0 (lines.take (p.1 - 1)) = 0 := by
  induction lines using List.reverseRecOn with
  | nil => rfl
  | append_singleton lines line ih =>
      have hnumbered : Text.numbered (lines ++ [line]) =
          Text.numbered lines ++ [(lines.length + 1, line)] := by
        simp [Text.numbered, List.zipIdx_append, Nat.add_comm]
      have hfront : ∀ p ∈ Text.numbered lines,
          (lines ++ [line]).take (p.1 - 1) = lines.take (p.1 - 1) := by
        intro p hp
        have hnumber := List.mem_range'_1.mp (Text.map_fst_numbered lines ▸ List.mem_map_of_mem hp)
        exact List.take_append_of_le_length (by omega)
      rw [moduleScope, moduleScopeFrom_append, ← moduleScope, ih, hnumbered, List.filter_append]
      congr 1
      · exact List.filter_congr fun p hp => by rw [hfront p hp]
      · simp [moduleScopeFrom, List.filter_cons, Nat.add_comm]

theorem mem_closedLines_iff (h : lines[k]? = some line) :
    (k + 1, line) ∈ closedLines lines ↔ balance (lines.take (k + 1)) ≤ 0 := by
  rw [closedLines, mem_closedLinesFrom]
  constructor
  · rintro ⟨j, -, hj, hclosed⟩
    obtain rfl : k = j := by omega
    simpa using hclosed
  · intro hclosed
    exact ⟨k, h, Nat.add_comm k 1, by simpa using hclosed⟩

theorem mem_moduleScope_iff (hopen : ∀ k, 0 ≤ balance (lines.take k)) (h : lines[k]? = some line) :
    (k + 1, line) ∈ moduleScope lines ↔ balance (lines.take k) = 0 := by
  have hnumbered : (k + 1, line) ∈ Text.numbered lines :=
    List.mem_of_getElem? (by rw [Text.getElem?_numbered, h, Option.map_some])
  rw [moduleScope_eq_filter, List.mem_filter, and_iff_right hnumbered, decide_eq_true_iff,
    Nat.add_sub_cancel, openAfter_take hopen]

/-! ## The greatest surplus -/

theorem balance_drop_concat (lines : List Text) (line : Text) {k : Nat} (h : k ≤ lines.length) :
    balance ((lines ++ [line]).drop k) = balance (lines.drop k) + surplus line := by
  rw [List.drop_append_of_le_length h, balance_append, balance_cons, balance_nil, add_zero]

/-- The blocks that are open after some lines are the greatest surplus of lines that end there.
With one line more, each surplus grows by that of the line, and that of no lines is zero. -/
theorem isGreatest_openAfter (lines : List Text) :
    IsGreatest (Set.range fun k => balance (lines.drop k)) (openAfter 0 lines) := by
  induction lines using List.reverseRecOn with
  | nil => simp [openAfter, isGreatest_singleton]
  | append_singleton lines line ih =>
      obtain ⟨⟨k, hk⟩, hgreatest⟩ := ih
      rw [openAfter_concat]
      constructor
      · rcases le_total (openAfter 0 lines + surplus line) 0 with hclosed | hopen
        · exact ⟨(lines ++ [line]).length, by rw [max_eq_left hclosed]; simp⟩
        · refine ⟨min k lines.length, ?_⟩
          have hmin : lines.drop (min k lines.length) = lines.drop k := by
            rcases le_total k lines.length with h | h <;> simp [h, List.drop_of_length_le]
          rw [max_eq_right hopen, ← hk]
          exact (balance_drop_concat lines line (Nat.min_le_right ..)).trans (by rw [hmin])
      · rintro _ ⟨j, rfl⟩
        rcases le_or_gt j lines.length with hj | hj
        · have hlines : balance (lines.drop j) ≤ openAfter 0 lines := hgreatest ⟨j, rfl⟩
          have hj := balance_drop_concat lines line hj
          dsimp only
          omega
        · have hnone : (lines ++ [line]).drop j = [] := List.drop_of_length_le (by simpa using hj)
          exact le_max_of_le_left (by simp [hnone])

/-- No block is open after some lines iff no lines that end there open more than they close. -/
theorem openAfter_eq_zero_iff {n : Nat} (h : lines.length ≤ n) :
    openAfter 0 lines = 0 ↔ ∀ k < n, balance (lines.drop k) ≤ 0 := by
  obtain ⟨⟨k, hk⟩, hgreatest⟩ := isGreatest_openAfter lines
  have hnone (j : Nat) (hj : n ≤ j) : balance (lines.drop j) = 0 := by
    rw [List.drop_of_length_le (h.trans hj), balance_nil]
  constructor
  · intro hzero j _
    exact hzero ▸ hgreatest ⟨j, rfl⟩
  · intro hle
    have hpos : balance (lines.drop n) ≤ openAfter 0 lines := hgreatest ⟨n, rfl⟩
    rw [hnone n le_rfl] at hpos
    refine le_antisymm ?_ hpos
    rw [← hk]
    rcases lt_or_ge k n with hlt | hge
    · exact hle k hlt
    · exact (hnone k hge).le

/-- The lines of the module are those before which no block of lines opens more than it closes.
The count of open blocks, which is cut off at zero, is the greatest surplus of such a block. -/
theorem moduleScope_blocks (lines : List Text) :
    (moduleScope lines = (Text.numbered lines).filter fun p =>
      ∀ k < p.1, balance ((lines.take (p.1 - 1)).drop k) ≤ 0) ∧
    ∀ n, moduleScope lines = moduleScope (lines.take n) ++
        moduleScopeFrom (n + 1) (openAfter 0 (lines.take n)) (lines.drop n) ∧
      IsGreatest (Set.range fun k => balance ((lines.take n).drop k))
        (openAfter 0 (lines.take n)) := by
  refine ⟨?_, fun n => ⟨?_, isGreatest_openAfter _⟩⟩
  · rw [moduleScope_eq_filter]
    refine List.filter_congr fun p _ => decide_eq_decide.mpr (openAfter_eq_zero_iff ?_)
    rw [List.length_take]
    omega
  · rcases le_total n lines.length with hn | hn
    · have happend := moduleScopeFrom_append 1 0 (lines.take n) (lines.drop n)
      rwa [List.take_append_drop, List.length_take_of_le hn, Nat.add_comm] at happend
    · rw [List.take_of_length_le hn, List.drop_of_length_le hn, moduleScopeFrom, List.append_nil]

/-! ## Where both agree -/

/-- From the top level on, both take all lines if each line closes what it opens. -/
theorem closedLinesFrom_eq_moduleScopeFrom (h : ∀ line ∈ lines, surplus line = 0) (n : Nat) :
    closedLinesFrom n 0 lines = moduleScopeFrom n 0 lines := by
  induction lines generalizing n with
  | nil => rfl
  | cons line lines ih =>
      obtain ⟨hline, hlines⟩ := List.forall_mem_cons.mp h
      simp [closedLinesFrom, moduleScopeFrom, hline, ih hlines]

/-- If both take the same lines, no line goes away from the top level, since the first that does
so would be taken by one of them only. -/
theorem balance_take_eq_zero (hopen : ∀ k, 0 ≤ balance (lines.take k))
    (h : closedLines lines = moduleScope lines) (k : Nat) : balance (lines.take k) = 0 := by
  induction k with
  | zero => rfl
  | succ k ih =>
      cases hline : lines[k]? with
      | none =>
          rw [List.take_add_one, hline]
          simpa using ih
      | some line =>
          have hmem : (k + 1, line) ∈ closedLines lines :=
            h ▸ (mem_moduleScope_iff hopen hline).mpr ih
          exact le_antisymm ((mem_closedLines_iff hline).mp hmem) (hopen (k + 1))

theorem surplus_eq_zero_of_balance (h : ∀ k, balance (lines.take k) = 0) :
    ∀ line ∈ lines, surplus line = 0 := by
  intro line hline
  obtain ⟨k, hk⟩ := List.mem_iff_getElem?.mp hline
  have hstep := balance_take_succ hk
  rw [h, h] at hstep
  omega

/-- The lines before which no block is open are those after which none is open iff each line closes
what it opens.  Otherwise they differ in the lines that open a block of the module, which are not
among the second, and in those that close one, which are not among the first. -/
theorem closedLines_eq_moduleScope_iff (lines : List Text)
    (hfronts : ∀ front, front <+: lines → 0 ≤ balance front) :
    (closedLines lines = moduleScope lines ↔ ∀ line ∈ lines, surplus line = 0) ∧
    ∀ k line, lines[k]? = some line →
      ((k + 1, line) ∈ moduleScope lines ∧ (k + 1, line) ∉ closedLines lines ↔
        balance (lines.take k) = 0 ∧ 0 < surplus line) ∧
      ((k + 1, line) ∈ closedLines lines ∧ (k + 1, line) ∉ moduleScope lines ↔
        0 < balance (lines.take k) ∧ balance (lines.take (k + 1)) = 0) := by
  have hopen : ∀ k, 0 ≤ balance (lines.take k) := fun k => hfronts _ (List.take_prefix k lines)
  refine ⟨⟨fun h => ?_, fun h => closedLinesFrom_eq_moduleScopeFrom h 1⟩, fun k line hk => ?_⟩
  · exact surplus_eq_zero_of_balance (balance_take_eq_zero hopen h)
  · have hbefore := hopen k
    have hafter := hopen (k + 1)
    have hstep := balance_take_succ hk
    rw [mem_closedLines_iff hk, mem_moduleScope_iff hopen hk]
    constructor <;> omega

/-- A variable whose value is an object over several lines. -/
def objectLines : List Text :=
  ["let count = 0;".toList, "let cache = \x7b".toList, "size: 1,".toList, "\x7d;".toList]

theorem balance_nonneg_objectLines : ∀ front, front <+: objectLines → 0 ≤ balance front := by
  have hinits : ∀ front ∈ objectLines.inits, 0 ≤ balance front := by decide
  exact fun front hfront => hinits front ((List.mem_inits ..).mpr hfront)

/-- The second line opens the object, and the last one closes it. -/
theorem closedLines_eq_moduleScope_iff_objectLines :
    ((2, "let cache = \x7b".toList) ∈ moduleScope objectLines ∧
      (2, "let cache = \x7b".toList) ∉ closedLines objectLines) ∧
    ((4, "\x7d;".toList) ∈ closedLines objectLines ∧
      (4, "\x7d;".toList) ∉ moduleScope objectLines) := by
  obtain ⟨-, hlines⟩ := closedLines_eq_moduleScope_iff objectLines balance_nonneg_objectLines
  exact ⟨(hlines 1 _ rfl).1.mpr ⟨by decide, by decide⟩,
    (hlines 3 _ rfl).2.mpr ⟨by decide, by decide⟩⟩

/-- The declaration is looked at before its line, and not after it. -/
theorem closedLines_objectLines :
    (∀ front, front <+: objectLines → 0 ≤ balance front) ∧
      closedLines objectLines = [(1, "let count = 0;".toList), (4, "\x7d;".toList)] ∧
      moduleScope objectLines = [(1, "let count = 0;".toList), (2, "let cache = \x7b".toList)] :=
  ⟨balance_nonneg_objectLines, by decide, by decide⟩

end ExtensionAudit.Source
