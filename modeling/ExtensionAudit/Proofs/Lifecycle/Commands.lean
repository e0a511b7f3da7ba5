import Mathlib
import ExtensionAudit.Lifecycle.Access
import ExtensionAudit.Segregation
import ExtensionAudit.Proofs.Pattern.Scan

/-!
# Commands in strings

The pattern for a command in one string asks for blanks and then for the command, both as long as
they can be.  If nothing but blanks stands between the word and the closing quote, the pattern
gives one blank back and takes it for the command.  `quotedLines` reads a text without the pattern:
it takes what stands between the word and the quote.  Main statement: the commands of a text are
the first words of its quoted lines (`map_writtenCommand`), and a line has no first word exactly if
it is blank (`firstWord_eq_error`).
-/

namespace ExtensionAudit.Lifecycle

open Pattern
open Segregation (isQuote)

/-! ## The pattern -/

/-- A quote. -/
def quoteTest : CharTest := .inSet ⟨[.one 39, .one 34], false, false, false⟩

/-- Any character but a quote. -/
def plainTest : CharTest := .inSet ⟨[.one 39, .one 34], true, false, false⟩

/-- A blank. -/
def blankTest : CharTest := .inSet ⟨[.cls .blank false], false, false, false⟩

theorem passes_quoteTest (x : Char) : quoteTest.passes x = isQuote x := by
  have hdouble : (x == '"') = (x.toNat == 34) := by
    rw [Bool.eq_iff_iff, beq_iff_eq, beq_iff_eq, ← Char.toNat_inj]
    rfl
  simp [quoteTest, CharTest.passes, CharSet.has, Member.covers, isQuote, hdouble, Bool.or_comm]

theorem passes_plainTest (x : Char) : plainTest.passes x = !isQuote x := by
  rw [← passes_quoteTest]
  simp [plainTest, quoteTest, CharTest.passes, CharSet.has]

theorem passes_blankTest (x : Char) : blankTest.passes x = Text.isBlank x := by
  simp [blankTest, CharTest.passes, CharSet.has, Member.covers, CharClass.has]

/-- The word that starts a command. -/
def commandWord : Text := "pkexec".toList

/-- The command and the quote that closes it. -/
def closedCommand : Node :=
  .seq (.group 1 (.rep .greedy 1 none (.one plainTest))) (.one quoteTest)

/-- The syntax tree of the pattern. -/
def writtenNode : Node :=
  .seq (.one quoteTest)
    (Node.spelled commandWord (.seq (.rep .greedy 1 none (.one blankTest)) closedCommand))

theorem writtenCommand_eq :
    writtenCommand =
      ⟨writtenNode, [], ⟨10, some ⟨[.one 39, .one 34], false, false, false⟩, false⟩⟩ := by
  decide +kernel

theorem flat_writtenNode : writtenNode.Flat 0 2 :=
  .seq .one (.spelled (.seq (.rep rfl) (.seq (.group (Nat.zero_le 0) (.rep rfl)) .one)) commandWord)

/-! ## The ways of the pattern -/

/-- The blanks of a line that are taken before the command: all but the last character. -/
def blanksTaken (line : Text) : Nat :=
  min (line.takeWhile Text.isBlank).length (line.length - 1)

/-- The part of a quoted line that the pattern takes for the command: what follows its blanks, or
else its last blank. -/
def lineCommand (line : Text) : Text := line.drop (blanksTaken line)

theorem isQuote_of_isBlank {x : Char} (h : Text.isBlank x = true) : isQuote x = false := by
  by_contra hquote
  rw [Bool.not_eq_false, ← passes_quoteTest] at hquote
  have hcode : x.toNat = 39 ∨ x.toNat = 34 := by
    simpa [quoteTest, CharTest.passes, CharSet.has, Member.covers] using hquote
  rcases hcode with hx | hx <;> simp [Text.isBlank, hx] at h

/-- The command reaches to the next quote. -/
theorem head?_closedCommand {c : Cursor} {xs rest : Text} (hc : c.after = xs ++ rest)
    (hxs : ∀ x ∈ xs, isQuote x = false) (hrest : rest.head?.all isQuote = true) :
    (closedCommand.ways c []).head? =
      if xs ≠ [] ∧ rest ≠ [] then
        some (c.forward (xs.length + 1), [some c, some (c.forward xs.length)])
      else none := by
  have hrun : (c.after.takeWhile plainTest.passes).length = xs.length := by
    rw [hc, List.takeWhile_append_of_pos (by simpa [passes_plainTest] using hxs)]
    cases rest with
    | nil => simp
    | cons y rest => simpa [passes_plainTest] using hrest
  have hclose : ∀ k, ((Node.one quoteTest).ways (c.forward k) [some c, some (c.forward k)]).head? =
      if (c.after.drop k).head?.any isQuote then
        some (c.forward (k + 1), [some c, some (c.forward k)])
      else none := by
    intro k
    rw [Node.ways, Cursor.after_forward, funext passes_quoteTest, Cursor.forward_forward]
    split <;> rfl
  have hways : (closedCommand.ways c []).head? = (stops plainTest 1 none c.after).findSome? fun k =>
      ((Node.one quoteTest).ways (c.forward k) [some c, some (c.forward k)]).head? := by
    rw [closedCommand, Node.ways, List.head?_flatMap, Node.ways, List.findSome?_map, Node.ways,
      List.findSome?_map]
    rfl
  rw [hways]
  simp only [hclose]
  have hat : ∀ k < xs.length, (c.after.drop k).head?.any isQuote = false := by
    intro k hk
    rw [hc, List.head?_drop, List.getElem?_append_left hk, List.getElem?_eq_getElem hk]
    exact hxs _ (List.getElem_mem hk)
  have hend : (c.after.drop xs.length).head? = rest.head? := by
    rw [hc, List.drop_left]
  split
  next h =>
      obtain ⟨hne, hrest'⟩ := h
      have hquote : rest.head?.any isQuote = true := by
        cases rest with
        | nil => exact absurd rfl hrest'
        | cons y rest => exact hrest
      rw [findSome?_stops (List.length_pos_iff.mpr hne) hrun.ge]
      · rw [hend, hquote, if_pos rfl]
      · omega
      · rw [hend, hquote, if_pos rfl]
        rfl
  next h =>
      refine List.findSome?_eq_none_iff.mpr fun k hk => ?_
      obtain ⟨hpos, hle⟩ := mem_stops_none.mp hk
      rw [hrun] at hle
      rcases Nat.lt_or_eq_of_le hle with hlt | rfl
      · rw [hat k hlt]
        rfl
      · have hnil : rest = [] := by
          by_contra hne
          exact h ⟨List.length_pos_iff.mp hpos, hne⟩
        rw [hend, hnil]
        rfl

/-- The blanks of a line do not run on beyond it. -/
theorem length_takeWhile_blank {line rest : Text} (hrest : rest.head?.all isQuote = true) :
    ((line ++ rest).takeWhile blankTest.passes).length = (line.takeWhile Text.isBlank).length := by
  have hnone : rest.takeWhile Text.isBlank = [] := by
    cases rest with
    | nil => rfl
    | cons y rest =>
        refine List.takeWhile_cons_of_neg fun hy => ?_
        rw [List.head?_cons, Option.all_some, isQuote_of_isBlank hy] at hrest
        cases hrest
  rw [funext passes_blankTest, List.takeWhile_append, hnone, List.append_nil]
  split
  next h => rw [h]
  next => rfl

/-- The first way from the end of the word: the blanks are taken as far as a character is left for
the command. -/
theorem head?_blanks {c : Cursor} {line rest : Text} (hc : c.after = line ++ rest)
    (hline : ∀ x ∈ line, isQuote x = false) (hrest : rest.head?.all isQuote = true) :
    ((Node.seq (.rep .greedy 1 none (.one blankTest)) closedCommand).ways c []).head? =
      if line.head?.any Text.isBlank = true ∧ 2 ≤ line.length ∧ rest ≠ [] then
        some (c.forward (line.length + 1),
          [some (c.forward (blanksTaken line)), some (c.forward line.length)])
      else none := by
  have hrun : (c.after.takeWhile blankTest.passes).length =
      (line.takeWhile Text.isBlank).length := by
    rw [hc, length_takeWhile_blank hrest]
  have hle : (line.takeWhile Text.isBlank).length ≤ line.length :=
    (List.takeWhile_prefix _).length_le
  have hpos : 0 < (line.takeWhile Text.isBlank).length ↔ line.head?.any Text.isBlank = true := by
    cases line with
    | nil => simp
    | cons x line => by_cases hx : Text.isBlank x = true <;> simp [hx]
  have hafter : ∀ n ≤ line.length, (closedCommand.ways (c.forward n) []).head? =
      if n < line.length ∧ rest ≠ [] then
        some (c.forward (line.length + 1), [some (c.forward n), some (c.forward line.length)])
      else none := by
    intro n hn
    have hdrop : (c.forward n).after = line.drop n ++ rest := by
      rw [Cursor.after_forward, hc, List.drop_append_of_le_length hn]
    rw [head?_closedCommand hdrop (fun x hx => hline x (List.mem_of_mem_drop hx)) hrest]
    have hto : n + (line.length - n) = line.length := by omega
    simp only [Cursor.forward_forward, List.length_drop, ← Nat.add_assoc, hto, ne_eq,
      List.drop_eq_nil_iff, Nat.not_le]
  have hways : ((Node.seq (.rep .greedy 1 none (.one blankTest)) closedCommand).ways c []).head? =
      (stops blankTest 1 none c.after).findSome? fun n =>
        (closedCommand.ways (c.forward n) []).head? := by
    rw [Node.ways, List.head?_flatMap, Node.ways, List.findSome?_map]
    rfl
  rw [hways]
  split
  next h =>
      obtain ⟨hblank, htwo, hclosed⟩ := h
      have hfirst := hpos.mpr hblank
      have htaken : 1 ≤ blanksTaken line ∧ blanksTaken line < line.length := by
        rw [blanksTaken]
        omega
      have hat := hafter (blanksTaken line) htaken.2.le
      rw [if_pos ⟨htaken.2, hclosed⟩] at hat
      rw [findSome?_stops htaken.1]
      · exact hat
      · rw [hrun]
        exact Nat.min_le_left ..
      · intro i hi hirun
        rw [blanksTaken] at hi
        rw [hafter i (by omega), if_neg (by omega)]
      · rw [hat]
        rfl
  next h =>
      refine List.findSome?_eq_none_iff.mpr fun n hn => ?_
      obtain ⟨hone, hmost⟩ := mem_stops_none.mp hn
      rw [hafter n (by omega), if_neg]
      rintro ⟨hlt, hclosed⟩
      exact h ⟨hpos.mp (by omega), by omega, hclosed⟩

/-! ## Quoted lines -/

/-- What stands between the word and the closing quote, at the start of a text. -/
def quotedLine? (t : Text) : Option Text :=
  let line := (t.drop 7).takeWhile fun x => !isQuote x
  if t.head?.any isQuote = true ∧ commandWord.isPrefixOf (t.drop 1) = true ∧
      line.head?.any Text.isBlank = true ∧ 2 ≤ line.length ∧ 7 + line.length < t.length then
    some line
  else none

/-- The quoted lines of a text, from left to right. -/
def quotedLines (t : Text) : List Text :=
  scan (fun t => (quotedLine? t).map fun line => (line, line.length + 8)) 0 t

/-- The first way of the pattern. -/
theorem head?_writtenNode (c : Cursor) :
    (writtenNode.ways c []).head? = (quotedLine? c.after).map fun line =>
      (c.forward (7 + (line.length + 1)),
        [some (c.forward (7 + blanksTaken line)), some (c.forward (7 + line.length))]) := by
  have hsplit : (c.forward 7).after = (c.after.drop 7).takeWhile (fun x => !isQuote x) ++
      (c.after.drop 7).dropWhile fun x => !isQuote x :=
    List.takeWhile_append_dropWhile.symm
  have hclosed : (c.after.drop 7).dropWhile (fun x => !isQuote x) ≠ [] ↔
      7 + ((c.after.drop 7).takeWhile fun x => !isQuote x).length < c.after.length := by
    have hlength := congrArg List.length hsplit
    rw [Cursor.after_forward, List.length_append, List.length_drop] at hlength
    rw [← List.length_pos_iff]
    omega
  have hrest : ((c.after.drop 7).dropWhile fun x => !isQuote x).head?.all isQuote = true := by
    rw [Option.all_eq_true]
    intro x hx
    have hnot := List.head?_dropWhile_not (fun x => !isQuote x) (c.after.drop 7)
    rw [hx] at hnot
    simpa using hnot
  have hblanks := head?_blanks hsplit
    (fun x hx => by simpa using List.mem_takeWhile_imp hx) hrest
  simp only [hclosed, Cursor.forward_forward] at hblanks
  rw [writtenNode, Node.ways, Node.ways, funext passes_quoteTest, quotedLine?]
  by_cases hquote : c.after.head?.any isQuote = true
  · by_cases hword : commandWord.isPrefixOf (c.after.drop 1) = true
    · have hways : (Node.spelled commandWord
          (.seq (.rep .greedy 1 none (.one blankTest)) closedCommand)).ways (c.forward 1) [] =
            (Node.seq (.rep .greedy 1 none (.one blankTest)) closedCommand).ways
              (c.forward 7) [] := by
        rw [Node.ways_spelled, Cursor.after_forward, if_pos hword, Cursor.forward_forward]
        rfl
      rw [if_pos hquote, List.flatMap_singleton, hways, hblanks]
      simp only [hquote, hword, true_and]
      split <;> rfl
    · have hword : ¬ commandWord <+: c.after.tail := by simpa using hword
      simp [hquote, hword, Node.ways_spelled]
  · simp [hquote]

/-- What the pattern matches at a place. -/
theorem matchAt_writtenCommand (c : Cursor) :
    writtenCommand.matchAt c = (quotedLine? c.after).map fun line =>
      ⟨⟨c, c.forward (7 + (line.length + 1))⟩,
        [some (c.forward (7 + blanksTaken line)), some (c.forward (7 + line.length))]⟩ := by
  rw [writtenCommand_eq, matchAt_eq_ways flat_writtenNode, head?_writtenNode, Option.map_map]
  · rfl
  · intro s hs
    cases hs
    rfl

/-- A quoted line stands between the word and the closing quote. -/
theorem of_quotedLine? {t line : Text} (h : quotedLine? t = some line) :
    2 ≤ line.length ∧ 7 + line.length < t.length ∧ line <+: t.drop 7 := by
  rw [quotedLine?] at h
  split at h
  next hline =>
      cases h
      exact ⟨hline.2.2.2.1, hline.2.2.2.2, List.takeWhile_prefix _⟩
  next => cases h

/-- The command that a match has found. -/
theorem group_writtenCommand {c : Cursor} {line : Text} (h : quotedLine? c.after = some line) :
    Found.group ⟨⟨c, c.forward (7 + (line.length + 1))⟩,
      [some (c.forward (7 + blanksTaken line)), some (c.forward (7 + line.length))]⟩ 1 =
        lineCommand line := by
  obtain ⟨-, -, rest, hrest⟩ := of_quotedLine? h
  have htaken : blanksTaken line ≤ line.length := (Nat.min_le_right ..).trans (Nat.sub_le ..)
  have hstop : c.forward (7 + line.length) =
      (c.forward (7 + blanksTaken line)).forward (lineCommand line).length := by
    rw [Cursor.forward_forward, lineCommand, List.length_drop]
    congr 1
    omega
  rw [hstop, Found.group_one, Cursor.after_forward, ← List.drop_drop, ← hrest,
    List.drop_append_of_le_length htaken]
  exact List.take_left

/-- The search for written commands is a scan for quoted lines. -/
theorem scans_writtenCommand :
    writtenCommand.Scans (·.group 1)
      (fun t => (quotedLine? t).map fun line => (lineCommand line, line.length + 8)) where
  matches_eq := by
    intro c
    rw [matchAt_writtenCommand, Option.map_map, Option.map_map]
    cases h : quotedLine? c.after with
    | none => rfl
    | some line =>
        exact congrArg some (Prod.ext (group_writtenCommand h) (by simp [Nat.add_comm]))
  fits := by
    intro t m hm
    obtain ⟨line, hline, rfl⟩ := Option.map_eq_some_iff.mp hm
    obtain ⟨-, hfits, -⟩ := of_quotedLine? hline
    dsimp only
    omega
  least := by
    intro t ht
    rw [writtenCommand_eq] at ht
    refine Option.map_eq_none_iff.mpr (Option.eq_none_iff_forall_ne_some.mpr fun line hline => ?_)
    obtain ⟨htwo, hfits, -⟩ := of_quotedLine? hline
    dsimp only at ht
    omega
  unbounded := by rw [writtenCommand_eq]

/-- The commands of a text in strings are those of its quoted lines. -/
theorem map_group_writtenCommand (t : Text) :
    (writtenCommand.all t).map (·.group 1) = (quotedLines t).map lineCommand := by
  rw [scans_writtenCommand.map_all, quotedLines, ← scan_map]
  simp only [Option.map_map]
  rfl

/-! ## First words -/

/-- Blanks before a text do not change its first word. -/
theorem firstWord_append {bs t : Text} (hbs : ∀ x ∈ bs, Text.isBlank x = true) :
    firstWord (bs ++ t) = firstWord t := by
  rw [firstWord, firstWord, List.dropWhile_append_of_pos hbs]

/-- A text has no first word exactly if it is blank. -/
theorem firstWord_eq_error {t : Text} {e : Fault} :
    firstWord t = .error e ↔ e = .outOfRange ∧ ∀ x ∈ t, Text.isBlank x = true := by
  have hword : (t.dropWhile Text.isBlank).takeWhile (fun c => !Text.isBlank c) = [] ↔
      ∀ x ∈ t, Text.isBlank x = true := by
    rw [← List.dropWhile_eq_nil_iff, List.takeWhile_eq_nil_iff]
    constructor
    · intro h
      by_contra hne
      have hpos := List.length_pos_iff.mpr hne
      have hnot := List.dropWhile_get_zero_not Text.isBlank t hpos
      exact h hpos (by simpa using hnot)
    · intro h hpos
      simp [h] at hpos
  rw [← hword, firstWord]
  split
  next hnil => simp [hnil, eq_comm]
  next hne => exact iff_of_false (by simp) fun h => hne h.2

theorem firstWord_lineCommand (line : Text) : firstWord (lineCommand line) = firstWord line := by
  have htaken : blanksTaken line ≤ (line.takeWhile Text.isBlank).length := Nat.min_le_left ..
  have hblank : ∀ x ∈ line.take (blanksTaken line), Text.isBlank x = true := by
    intro x hx
    have hleading : line.take (blanksTaken line) <+: line.takeWhile Text.isBlank :=
      List.prefix_of_prefix_length_le (List.take_prefix ..) (List.takeWhile_prefix _)
        ((List.length_take_le ..).trans htaken)
    exact List.mem_takeWhile_imp (hleading.mem hx)
  rw [lineCommand, ← firstWord_append hblank, List.take_append_drop]

/-- The commands of a text in strings are the first words of its quoted lines. -/
theorem map_writtenCommand (t : Text) :
    (writtenCommand.all t).map (fun m => firstWord (m.group 1)) =
      (quotedLines t).map firstWord := by
  have h := congrArg (List.map firstWord) (map_group_writtenCommand t)
  rw [List.map_map, List.map_map] at h
  simpa only [Function.comp_def, firstWord_lineCommand] using h

end ExtensionAudit.Lifecycle
