import Mathlib
import ExtensionAudit.Json.Printer
import ExtensionAudit.Json.Reader

/-!
# What is written as JSON is read back

A value that is written over several lines is read as the same value, if it holds no number that is
too long, no half of a surrogate pair and no double, if no object has two fields of one name, and if
it does not nest too deeply (`Plain`).  Main statement: a document that holds such a value and
perhaps newlines after it is read as the value (`read_indented`).

*Strings.*  Each character is written in one of four ways, and each of them is read as the
character whatever follows (`Spells`).

*What follows.*  A whole number ends where no digit, point or letter follows it.  In a document with
a line for each item a comma, a newline or the end follows each value (`closes`).

*Fuel.*  The reader starts with twice the length of the document and some.  A value needs at most
twice its own length (`ReadBack`), and a list or an object one step more for each item, which its
comma and its line break pay for (`items_indented`, `fields_indented`).
-/

namespace ExtensionAudit

namespace Json

attribute [local simp] stringFrom Reader.value Reader.items Reader.fields written indented

/-! ## Strings -/

theorem hexValue?_hexDigit {n : Nat} (h : n < 16) : hexValue? (Text.hexDigit n) = some n := by
  interval_cases n <;> rfl

/-- A 16-bit unit is written in four digits, which are read as the unit. -/
theorem exists_hex4? {n : Nat} (h : n < 0x10000) :
    ∃ a b c d, Text.hex 4 n = [a, b, c, d] ∧ hex4? a b c d = some n := by
  refine ⟨_, _, _, _, rfl, ?_⟩
  rw [hex4?, hexValue?_hexDigit (Nat.mod_lt _ (by decide)),
    hexValue?_hexDigit (Nat.mod_lt _ (by decide)), hexValue?_hexDigit (Nat.mod_lt _ (by decide)),
    hexValue?_hexDigit (Nat.mod_lt _ (by decide))]
  change some _ = some n
  congr 1
  omega

theorem point_toNat (c : Char) : point c.toNat = .char c := by
  have hvalid : c.toNat < 0xD800 ∨ 0xDFFF < c.toNat ∧ c.toNat < 0x110000 := c.valid
  have hhalf : ¬ (0xD800 ≤ c.toNat ∧ c.toNat < 0xE000) := by omega
  simp only [point, Bool.and_eq_true, decide_eq_true_eq, if_neg hhalf, Char.ofNat_toNat]

/-- Inside a string, the text stands for the character. -/
def Spells (u : Text) (c : Char) : Prop :=
  ∀ (start place : Nat) (t : Text), t ≠ [] → ∃ stop,
    stringFrom start place (u ++ t) = putFirst (.char c) (stringFrom start stop t)

theorem spells_ite {p : Prop} [Decidable p] {u w : Text} {c : Char} (hu : p → Spells u c)
    (hw : ¬ p → Spells w c) : Spells (if p then u else w) c := by
  split
  next h => exact hu h
  next h => exact hw h

theorem spells_self {c : Char} (hlow : 32 ≤ c.toNat) (hquote : c ≠ '"') (hslash : c ≠ '\\') :
    Spells [c] c := by
  intro start place t _
  refine ⟨place + 1, ?_⟩
  rw [List.singleton_append, stringFrom, if_neg (by omega)]
  all_goals simp [hquote, hslash]

theorem spells_escape (e d : Char) {c : Char} (he : escaped? e = some d) (hu : e ≠ 'u')
    (hc : (c.toNat == d.toNat) = true) : Spells ['\\', e] c := by
  intro start place t _
  refine ⟨place + 2, ?_⟩
  rw [Char.toNat_inj.mp (beq_iff_eq.mp hc), List.cons_append, List.singleton_append, stringFrom, he]
  all_goals simp [hu]

/-- The escape by number spells a character of one unit. -/
theorem spells_unitEscape {c : Char} (hc : c.toNat < 0x10000) :
    Spells (unitEscape c.toNat) c := by
  intro start place t ht
  refine ⟨place + 6, ?_⟩
  obtain ⟨x, y, z, w, hhex, hread⟩ := exists_hex4? hc
  have hvalid : c.toNat < 0xD800 ∨ 0xDFFF < c.toNat ∧ c.toNat < 0x110000 := c.valid
  have hhigh : (decide (0xD800 ≤ c.toNat) && decide (c.toNat < 0xDC00)) = false := by
    rw [Bool.and_eq_false_iff, decide_eq_false_iff_not, decide_eq_false_iff_not]
    omega
  have hempty : t.isEmpty = false := List.isEmpty_eq_false_iff.mpr ht
  rw [unitEscape, hhex]
  simp [hempty, hread, hhigh, point_toNat]

/-- A character beyond the 16-bit units is written as both halves of a pair. -/
theorem spells_pair {c : Char} {n m : Nat} (hn : 0xD800 ≤ n ∧ n < 0xDC00)
    (hm : 0xDC00 ≤ m ∧ m < 0xE000)
    (hc : 0x10000 + (n - 0xD800) * 0x400 + (m - 0xDC00) = c.toNat) :
    Spells (unitEscape n ++ unitEscape m) c := by
  intro start place t ht
  refine ⟨place + 12, ?_⟩
  have hunit : n < 0x10000 ∧ m < 0x10000 := by omega
  obtain ⟨x, y, z, w, hhex, hread⟩ := exists_hex4? hunit.1
  obtain ⟨x', y', z', w', hhex', hread'⟩ := exists_hex4? hunit.2
  obtain ⟨first, t, rfl⟩ := List.exists_cons_of_ne_nil ht
  rw [unitEscape, hhex, unitEscape, hhex']
  simp [pairPartner?, hread, hread', hn, hm, hc, point_toNat]

/-- What is written for a character stands for it. -/
theorem spells_writtenPoint (c : Char) : Spells (writtenPoint (.char c)) c := by
  have hvalid : c.toNat < 0xD800 ∨ 0xDFFF < c.toNat ∧ c.toNat < 0x110000 := c.valid
  have hcode : (Point.char c).code = c.toNat := rfl
  rw [writtenPoint, hcode]
  refine spells_ite (spells_escape '"' '"' rfl (by decide)) fun hquote => ?_
  refine spells_ite (spells_escape '\\' '\\' rfl (by decide)) fun hslash => ?_
  refine spells_ite (spells_escape 'n' '\n' rfl (by decide)) fun _ => ?_
  refine spells_ite (spells_escape 'r' '\r' rfl (by decide)) fun _ => ?_
  refine spells_ite (spells_escape 't' '\t' rfl (by decide)) fun _ => ?_
  refine spells_ite (spells_escape 'b' (Char.ofNat 8) rfl (by decide)) fun _ => ?_
  refine spells_ite (spells_escape 'f' (Char.ofNat 12) rfl (by decide)) fun _ => ?_
  refine spells_ite (fun h => ?_) fun _ => ?_
  · rw [Bool.and_eq_true, decide_eq_true_eq] at h
    rw [Char.ofNat_toNat]
    refine spells_self h.1 ?_ ?_
    · rintro rfl
      exact hquote rfl
    · rintro rfl
      exact hslash rfl
  · exact spells_ite spells_unitEscape fun h => spells_pair (by omega) (by omega) (by omega)

/-- A string is read back up to its closing quote. -/
theorem stringFrom_written (start : Nat) (t rest : Text) (place : Nat) :
    ∃ stop, stringFrom start place ((Points.ofText t).flatMap writtenPoint ++ '"' :: rest) =
      .ok (Points.ofText t, rest, stop) := by
  induction t generalizing place with
  | nil => exact ⟨place + 1, by simp [Points.ofText]⟩
  | cons c t ih =>
      obtain ⟨next, hnext⟩ := spells_writtenPoint c start place
        ((Points.ofText t).flatMap writtenPoint ++ '"' :: rest) (by simp)
      obtain ⟨stop, hstop⟩ := ih next
      refine ⟨stop, ?_⟩
      have hcons : (Points.ofText (c :: t)).flatMap writtenPoint =
          writtenPoint (.char c) ++ (Points.ofText t).flatMap writtenPoint := rfl
      rw [hcons, List.append_assoc, hnext, hstop]
      rfl

/-! ## Parts of a document -/

/-- The step reads a value off a text, wherever the text stands, if `rest` follows it. -/
def Reads {α : Type} (step : Reader → Except Refusal (α × Reader)) (t rest : Text) (a : α) : Prop :=
  ∀ place, ∃ stop, step ⟨t ++ rest, place⟩ = .ok (a, ⟨rest, stop⟩)

theorem reads_string (t rest : Text) :
    Reads Reader.string ((Points.ofText t).flatMap writtenPoint ++ ['"']) rest
      (Points.ofText t) := by
  intro place
  obtain ⟨stop, hstop⟩ := stringFrom_written (place - 1) t rest place
  refine ⟨stop, ?_⟩
  rw [Reader.string, List.append_assoc, List.singleton_append, hstop]
  rfl

theorem isGap_of_lt {c : Char} (h : 33 ≤ c.toNat) : isGap c = false := by
  have hne : ∀ d : Char, d.toNat < 33 → c ≠ d := by
    rintro d hd rfl
    omega
  simp [isGap, hne]

/-- White space is passed over. -/
theorem skipGap_append {gap : Text} (hgap : ∀ x ∈ gap, isGap x = true) {c : Char}
    (hc : 33 ≤ c.toNat) (t : Text) (place : Nat) :
    (Reader.mk (gap ++ c :: t) place).skipGap = ⟨c :: t, place + gap.length⟩ := by
  have htaken : (gap ++ c :: t).takeWhile isGap = gap := by
    rw [List.takeWhile_append_of_pos hgap]
    simp [isGap_of_lt hc]
  simp [Reader.skipGap, Reader.skip, htaken]

theorem isGap_newLine (level : Nat) : ∀ x ∈ newLine level, isGap x = true := by
  intro x hx
  rcases List.mem_cons.mp hx with rfl | hx
  · rfl
  · rw [List.eq_of_mem_replicate hx]
    rfl

theorem skipGap_cons {c : Char} (hc : 33 ≤ c.toNat) (t : Text) (place : Nat) :
    (Reader.mk (c :: t) place).skipGap = ⟨c :: t, place⟩ :=
  skipGap_append (List.forall_mem_nil _) hc t place

theorem skip_one (c : Char) (t : Text) (place : Nat) :
    (Reader.mk (c :: t) place).skip 1 = ⟨t, place + 1⟩ := rfl

/-- What can follow a value that is written over several lines. -/
def closes (rest : Text) : Bool := rest.head?.all fun c => c == ',' || c == '\n'

/-! ## Numbers -/

theorem head?_toDigits {n : Nat} (h : 0 < n) : (Nat.toDigits 10 n).head? ≠ some '0' := by
  induction n using Nat.strongRecOn with
  | _ n ih =>
      by_cases hlt : n < 10
      · rw [Nat.toDigits_of_lt_base hlt]
        interval_cases n <;> decide
      · rw [Nat.toDigits_of_base_le (by decide) (by omega),
          List.head?_append_of_ne_nil _ Nat.toDigits_ne_nil]
        exact ih (n / 10) (by omega) (by omega)

/-- An integer is written with its sign and its decimal digits. -/
theorem written_int (n : Int) :
    written (.int n) = (if n < 0 then ['-'] else []) ++ Nat.toDigits 10 n.natAbs := by
  rw [written, Text.ofString, Int.toString_eq_repr, Int.repr_eq_if]
  split
  next h =>
      rw [if_neg (by omega), Nat.toList_repr, List.nil_append]
      congr 1
      omega
  next h =>
      rw [if_pos (by omega), String.toList_append, Nat.toList_repr]
      have habs : (-n).toNat = n.natAbs := by omega
      rw [habs]
      rfl

theorem digitsValue_toDigits (n : Nat) : digitsValue (Nat.toDigits 10 n) = n := by
  have hfold : digitsValue (Nat.toDigits 10 n) = Nat.ofDigitChars 10 (Nat.toDigits 10 n) 0 :=
    List.foldl_ext _ _ _ fun k c _ => congrArg (· + (c.toNat - 48)) (Nat.mul_comm k 10)
  rw [hfold, Nat.ofDigitChars_ten_toDigits]

theorem isDigit_toDigits {n : Nat} {c : Char} (h : c ∈ Nat.toDigits 10 n) : c.isDigit = true :=
  Nat.isDigit_of_mem_toDigits (by decide) (by decide) h

theorem exists_toDigits (n : Nat) : ∃ c ds, Nat.toDigits 10 n = c :: ds ∧ c.isDigit = true := by
  obtain ⟨c, ds, h⟩ := List.exists_cons_of_ne_nil (Nat.toDigits_ne_nil (n := n) (b := 10))
  exact ⟨c, ds, h, isDigit_toDigits (h ▸ List.mem_cons_self)⟩

theorem closes_cases {rest : Text} (h : closes rest = true) :
    rest = [] ∨ (∃ t, rest = ',' :: t) ∨ ∃ t, rest = '\n' :: t := by
  cases rest with
  | nil => exact .inl rfl
  | cons c t =>
      simp only [closes, List.head?_cons, Option.all_some, Bool.or_eq_true, beq_iff_eq] at h
      rcases h with rfl | rfl
      · exact .inr (.inl ⟨t, rfl⟩)
      · exact .inr (.inr ⟨t, rfl⟩)

/-- The digits of a number are read off in full where a value may end. -/
theorem wholeDigits?_toDigits (n : Nat) {rest : Text} (hrest : closes rest = true) :
    wholeDigits? (Nat.toDigits 10 n ++ rest) = some (Nat.toDigits 10 n) := by
  have htaken : (Nat.toDigits 10 n ++ rest).takeWhile Char.isDigit = Nat.toDigits 10 n := by
    rw [List.takeWhile_append_of_pos fun c hc => isDigit_toDigits hc]
    rcases closes_cases hrest with rfl | ⟨t, rfl⟩ | ⟨t, rfl⟩ <;> simp
  rcases Nat.eq_zero_or_pos n with rfl | hpos
  · rfl
  · have hne : (Nat.toDigits 10 n).isEmpty = false :=
      List.isEmpty_eq_false_iff.mpr Nat.toDigits_ne_nil
    rw [wholeDigits?, htaken, hne]
    · rfl
    · intro t ht
      have hhead : (Nat.toDigits 10 n ++ rest).head? = (Nat.toDigits 10 n).head? :=
        List.head?_append_of_ne_nil _ Nat.toDigits_ne_nil
      rw [ht] at hhead
      exact head?_toDigits hpos hhead.symm

/-- A number is read off its digits, with the sign before them. -/
theorem reads_numberAfter (negative : Bool) (start : Nat) {n : Nat} (hn : n < 10 ^ digitBound)
    {rest : Text} (hrest : closes rest = true) :
    Reads (Reader.numberAfter negative start) (Nat.toDigits 10 n) rest
      (.int (if negative then -n else n)) := by
  intro place
  have hfraction : fractionOf rest = [] := by
    rcases closes_cases hrest with rfl | ⟨t, rfl⟩ | ⟨t, rfl⟩ <;> rfl
  have hexponent : exponentOf? rest = none := by
    rcases closes_cases hrest with rfl | ⟨t, rfl⟩ | ⟨t, rfl⟩ <;> rfl
  have hlength := Nat.not_lt.mpr (Nat.toDigits_length 10 n digitBound (by decide) hn)
  refine ⟨place + (Nat.toDigits 10 n).length, ?_⟩
  rw [Reader.numberAfter, wholeDigits?_toDigits n hrest]
  simp [Reader.skip, hfraction, hexponent, Numeral.value, hlength, digitsValue_toDigits, Except.map]

/-- A whole number that is not too long is read back, with its sign. -/
theorem reads_number {n : Int} (hn : n.natAbs < 10 ^ digitBound) {rest : Text}
    (hrest : closes rest = true) : Reads Reader.number (written (.int n)) rest (.int n) := by
  intro place
  rw [written_int]
  by_cases hneg : n < 0
  · obtain ⟨stop, hstop⟩ := reads_numberAfter true place hn hrest (place + 1)
    have habs : -(n.natAbs : Int) = n := by omega
    refine ⟨stop, ?_⟩
    rw [if_pos rfl, habs] at hstop
    rw [if_pos hneg]
    exact hstop
  · obtain ⟨stop, hstop⟩ := reads_numberAfter false place hn hrest place
    have habs : (n.natAbs : Int) = n := by omega
    obtain ⟨c, ds, hds, hc⟩ := exists_toDigits n.natAbs
    have hsign : ((Nat.toDigits 10 n.natAbs ++ rest).head? == some '-') = false := by
      have hne : c ≠ '-' := by
        rintro rfl
        exact absurd hc (by decide)
      simp [hds, hne]
    refine ⟨stop, ?_⟩
    rw [if_neg Bool.false_ne_true, habs] at hstop
    rw [if_neg hneg, List.nil_append, Reader.number, hsign]
    exact hstop

/-! ## Words and numbers -/

/-- An integer that is not too long is read back. -/
theorem reads_plain_int {n : Int} (hn : n.natAbs < 10 ^ digitBound) {rest : Text}
    (hrest : closes rest = true) :
    Reads Reader.plain (written (.int n)) rest (.int n) := by
  intro place
  obtain ⟨stop, hstop⟩ := reads_number hn hrest place
  have hword : (words.find? fun x => x.1.toList.isPrefixOf (written (.int n) ++ rest)) = none := by
    obtain ⟨c, ds, hds, hc⟩ := exists_toDigits n.natAbs
    have hne : ∀ d : Char, d.isDigit = false → (d == c) = false := by
      intro d hd
      rw [beq_eq_false_iff_ne]
      rintro rfl
      rw [hc] at hd
      cases hd
    rw [written_int, hds]
    split <;> simp [words, List.isPrefixOf, hne]
  refine ⟨stop, ?_⟩
  rw [Reader.plain]
  simp only [hword]
  exact hstop

theorem reads_plain_null (rest : Text) : Reads Reader.plain (written .null) rest .null := by
  intro place
  exact ⟨place + 4, rfl⟩

theorem reads_plain_bool (b : Bool) (rest : Text) :
    Reads Reader.plain (written (.bool b)) rest (.bool b) := by
  intro place
  cases b with
  | true => exact ⟨place + 4, rfl⟩
  | false => exact ⟨place + 5, rfl⟩

/-! ## Values -/

theorem value_plain (fuel depth : Nat) {c : Char} (hquote : c ≠ '"') (hlist : c ≠ '[')
    (hobject : c.toNat ≠ 123) (t : Text) (place : Nat) :
    Reader.value (fuel + 1) depth ⟨c :: t, place⟩ = Reader.plain ⟨c :: t, place⟩ := by
  rw [Reader.value]
  simp [hlist, hobject]

theorem reads_value_string (fuel depth : Nat) (t rest : Text) :
    Reads (Reader.value (fuel + 1) depth) (writtenString (Points.ofText t)) rest
      (.str (Points.ofText t)) := by
  intro place
  obtain ⟨stop, hstop⟩ := reads_string t rest (place + 1)
  refine ⟨stop, ?_⟩
  rw [writtenString, List.cons_append, List.cons_append, Reader.value]
  simp only [Reader.skip, List.drop_succ_cons, List.drop_zero, hstop]
  rfl

theorem value_list (fuel depth : Nat) (t : Text) (place : Nat)
    (h : (Reader.mk t (place + 1)).skipGap.rest.head? ≠ some ']') :
    Reader.value (fuel + 1) (depth + 1) ⟨'[' :: t, place⟩ =
      Reader.items fuel depth [] (Reader.mk t (place + 1)).skipGap := by
  rw [Reader.value]
  simp [Reader.skip, h]

theorem value_object (fuel depth : Nat) (t : Text) (place : Nat)
    (h : (Reader.mk t (place + 1)).skipGap.rest.head? ≠ some (Char.ofNat 125)) :
    Reader.value (fuel + 1) (depth + 1) ⟨Char.ofNat 123 :: t, place⟩ =
      Reader.fields fuel depth [] (Reader.mk t (place + 1)).skipGap := by
  rw [Reader.value]
  simp [Reader.skip, h]

/-- A field whose name is made of characters. -/
def named (x : Text × Json) : Points × Json := (Points.ofText x.1, x.2)

/-- The values that come back as they were written: whole numbers are not too long, strings hold
characters only, the fields of an object differ in their names, and lists and objects do not nest
deeper than the number says. -/
inductive Plain : Nat → Json → Prop where
  | null {depth : Nat} : Plain depth .null
  | bool {depth : Nat} (b : Bool) : Plain depth (.bool b)
  | int {depth : Nat} {n : Int} : n.natAbs < 10 ^ digitBound → Plain depth (.int n)
  | str {depth : Nat} (t : Text) : Plain depth (.str (Points.ofText t))
  | arr {depth : Nat} {items : List Json} : (∀ v ∈ items, Plain depth v) →
      Plain (depth + 1) (.arr items)
  | obj {depth : Nat} {fields : List (Text × Json)} : (fields.map (·.1)).Nodup →
      (∀ x ∈ fields, Plain depth x.2) →
      Plain (depth + 1) (.obj (fields.map named))

/-- An object with one field for each element is plain if the names differ. -/
theorem plain_map {α : Type} {depth : Nat} {xs : List α} (key : α → Text) {value : α → Json}
    (hkeys : (xs.map key).Nodup) (h : ∀ x ∈ xs, Plain depth (value x)) :
    Plain (depth + 1) (.obj (xs.map fun x => (Points.ofText (key x), value x))) := by
  have hobj : Plain (depth + 1) (.obj ((xs.map fun x => (key x, value x)).map named)) := by
    refine .obj ?_ ?_
    · rwa [List.map_map]
    · intro y hy
      obtain ⟨x, hx, rfl⟩ := List.mem_map.mp hy
      exact h x hx
  rwa [List.map_map] at hobj

theorem nodup_toList {α : Type} {fields : List (String × α)} (h : (fields.map (·.1)).Nodup) :
    (fields.map fun x => x.1.toList).Nodup := by
  have htexts := h.map fun _ _ heq => String.toList_injective heq
  rwa [List.map_map] at htexts

theorem plain_object {depth : Nat} {fields : List (String × Json)}
    (hkeys : (fields.map (·.1)).Nodup) (h : ∀ x ∈ fields, Plain depth x.2) :
    Plain (depth + 1) (object fields) := by
  refine plain_map (fun x => x.1.toList) ?_ h
  exact nodup_toList hkeys

/-- Every value starts with a character that is no white space and closes nothing. -/
theorem exists_start {depth : Nat} {v : Json} (h : Plain depth v) (level : Nat) :
    ∃ c t, indented level v = c :: t ∧ 33 ≤ c.toNat ∧ c.toNat < 125 ∧ c ≠ ']' := by
  cases h with
  | null => exact ⟨'n', _, rfl, by decide⟩
  | bool b =>
      cases b with
      | true => exact ⟨'t', _, rfl, by decide⟩
      | false => exact ⟨'f', _, rfl, by decide⟩
  | @int _ n =>
      obtain ⟨c, ds, hds, hc⟩ := exists_toDigits n.natAbs
      have hrange : 48 ≤ c.toNat ∧ c.toNat ≤ 57 := Char.isDigit_iff_toNat.mp hc
      have hne : c ≠ ']' := by
        rintro rfl
        exact absurd hc (by decide)
      rw [indented, written_int, hds]
      split
      · exact ⟨'-', _, rfl, by decide⟩
      · exact ⟨c, ds, rfl, by omega, by omega, hne⟩
  | str t => exact ⟨'"', _, by rw [indented, written, writtenString]; rfl, by decide⟩
  | @arr _ items =>
      cases items with
      | nil => exact ⟨'[', _, rfl, by decide⟩
      | cons v items => exact ⟨'[', _, rfl, by decide⟩
  | @obj _ fields =>
      cases fields with
      | nil => exact ⟨Char.ofNat 123, _, rfl, by decide⟩
      | cons x fields => exact ⟨Char.ofNat 123, _, rfl, by decide⟩

/-- The value is read back at a level, with enough fuel for its length, if it ends there. -/
def ReadBack (depth : Nat) (v : Json) : Prop :=
  ∀ (level fuel bound : Nat) (rest : Text), closes rest = true →
    2 * (indented level v).length ≤ fuel → depth ≤ bound →
    Reads (Reader.value fuel bound) (indented level v) rest v

/-- A value that is written on one line is read back on every level. -/
theorem readBack_plain {depth : Nat} {v : Json} (h : Plain depth v)
    (hflat : ∀ level, indented level v = written v)
    (hread : ∀ rest, closes rest = true → Reads Reader.plain (written v) rest v)
    (hstart : ∀ c t, written v = c :: t → c ≠ '"' ∧ c ≠ '[' ∧ c.toNat ≠ 123) :
    ReadBack depth v := by
  intro level fuel bound rest hrest hfuel _ place
  obtain ⟨c, t, hct, -⟩ := exists_start h level
  obtain ⟨hquote, hlist, hobject⟩ := hstart c t (hflat level ▸ hct)
  obtain ⟨stop, hstop⟩ := hread rest hrest place
  rw [hct, List.length_cons] at hfuel
  obtain ⟨fuel, rfl⟩ := Nat.exists_eq_add_one.mpr (show 0 < fuel by omega)
  refine ⟨stop, ?_⟩
  rw [← hflat level, hct, List.cons_append] at hstop
  rw [hct, List.cons_append, value_plain fuel bound hquote hlist hobject, hstop]

theorem readBack_str (depth : Nat) (t : Text) : ReadBack depth (.str (Points.ofText t)) := by
  intro level fuel bound rest _ hfuel _
  have htext : indented level (.str (Points.ofText t)) = writtenString (Points.ofText t) := by
    rw [indented, written]
  rw [htext] at hfuel ⊢
  have hpos : 0 < (writtenString (Points.ofText t)).length := by simp [writtenString]
  obtain ⟨fuel, rfl⟩ := Nat.exists_eq_add_one.mpr (show 0 < fuel by omega)
  exact reads_value_string fuel bound t rest

theorem writtenString_append (s : Points) (t : Text) :
    writtenString s ++ t = '"' :: (s.flatMap writtenPoint ++ '"' :: t) := by
  simp [writtenString]

theorem skipGap_writtenString (level : Nat) (s : Points) (t : Text) (place : Nat) :
    (Reader.mk (newLine level ++ (writtenString s ++ t)) place).skipGap =
      ⟨writtenString s ++ t, place + (newLine level).length⟩ := by
  rw [writtenString_append]
  exact skipGap_append (isGap_newLine level) (by decide) _ place

theorem skipGap_indented {depth : Nat} {v : Json} (h : Plain depth v) (level : Nat) (t : Text)
    (place : Nat) :
    (Reader.mk (newLine level ++ (indented level v ++ t)) place).skipGap =
      ⟨indented level v ++ t, place + (newLine level).length⟩ := by
  obtain ⟨c, u, hcu, hc, -⟩ := exists_start h level
  rw [hcu]
  exact skipGap_append (isGap_newLine level) hc (u ++ t) place

theorem indentedItems_append (level : Nat) (v : Json) (items : List Json) (t : Text) :
    indentedItems level (v :: items) ++ t =
      ',' :: (newLine level ++ (indented level v ++ (indentedItems level items ++ t))) := by
  simp [indentedItems]

theorem indentedFields_append (level : Nat) (k : Points) (v : Json) (fields : List (Points × Json))
    (t : Text) :
    indentedFields level ((k, v) :: fields) ++ t =
      ',' :: (newLine level ++ (writtenString k ++ (':' :: ' ' :: (indented level v ++
        (indentedFields level fields ++ t))))) := by
  simp [indentedFields]

section

variable {fuel bound p : Nat} {r next : Reader} {v : Json} {t : Text}

theorem items_last (hv : Reader.value fuel bound r = .ok (v, next))
    (hend : next.skipGap = ⟨']' :: t, p⟩) (done : List Json) :
    Reader.items (fuel + 1) bound done r = .ok (.arr (v :: done).reverse, ⟨t, p + 1⟩) := by
  rw [Reader.items, hv]
  simp only [bind, Except.bind, hend]
  rfl

theorem items_next (hv : Reader.value fuel bound r = .ok (v, next))
    (hcomma : next.skipGap = ⟨',' :: t, p⟩) (done : List Json) :
    Reader.items (fuel + 1) bound done r =
      Reader.items fuel bound (v :: done) (Reader.mk t (p + 1)).skipGap := by
  rw [Reader.items, hv]
  simp only [bind, Except.bind, hcomma]
  rfl

end

/-- The items of a list, from the first one on. -/
theorem items_indented {depth bound : Nat} (hbound : depth ≤ bound) (level outer : Nat)
    (rest : Text) {w : Json} {items : List Json}
    (h : ∀ v ∈ w :: items, Plain depth v ∧ ReadBack depth v) (done : List Json) (place : Nat)
    {fuel : Nat}
    (hfuel : 2 * ((indented level w).length + (indentedItems level items).length) < fuel) :
    ∃ stop, Reader.items fuel bound done
      ⟨indented level w ++ (indentedItems level items ++ (newLine outer ++ ']' :: rest)), place⟩ =
        .ok (.arr (done.reverse ++ w :: items), ⟨rest, stop⟩) := by
  obtain ⟨fuel, rfl⟩ := Nat.exists_eq_add_one.mpr (show 0 < fuel by omega)
  induction items generalizing w fuel done place with
  | nil =>
      obtain ⟨stop, hstop⟩ := (h w List.mem_cons_self).2 level fuel bound
        (newLine outer ++ ']' :: rest) rfl (by omega) hbound place
      have hlast := items_last hstop
        (skipGap_append (isGap_newLine outer) (by decide) rest stop) done
      exact ⟨stop + (newLine outer).length + 1, by simpa [indentedItems] using hlast⟩
  | cons u items ih =>
      obtain ⟨hw, hitems⟩ := List.forall_mem_cons.mp h
      have hlength : (indentedItems level (u :: items)).length = 1 + (newLine level).length +
          ((indented level u).length + (indentedItems level items).length) := by
        simp [indentedItems]
        omega
      rw [indentedItems_append]
      obtain ⟨stop, hstop⟩ := hw.2 level fuel bound (',' :: (newLine level ++ (indented level u ++
        (indentedItems level items ++ (newLine outer ++ ']' :: rest))))) rfl (by omega) hbound place
      rw [items_next hstop (skipGap_cons (by decide) _ stop),
        skipGap_indented (hitems u List.mem_cons_self).1]
      obtain ⟨fuel, rfl⟩ := Nat.exists_eq_add_one.mpr (show 0 < fuel by omega)
      obtain ⟨stop', hstop'⟩ := ih hitems (w :: done) (stop + 1 + (newLine level).length) fuel
        (by omega)
      exact ⟨stop', by simpa using hstop'⟩

section

variable {fuel bound place p q : Nat} {next : Reader} {name : Points} {v : Json} {t t' after : Text}

theorem fields_last (hname : Reader.string ⟨t, place + 1⟩ = .ok (name, ⟨':' :: t', p⟩))
    (hv : Reader.value fuel bound (Reader.mk t' (p + 1)).skipGap = .ok (v, next))
    (hend : next.skipGap = ⟨Char.ofNat 125 :: after, q⟩) (done : List (Points × Json)) :
    Reader.fields (fuel + 1) bound done ⟨'"' :: t, place⟩ =
      .ok (.obj (setField done name v), ⟨after, q + 1⟩) := by
  rw [Reader.fields]
  simp [skip_one, hname, skipGap_cons, hv, hend, bind, Except.bind]
  rfl

theorem fields_next (hname : Reader.string ⟨t, place + 1⟩ = .ok (name, ⟨':' :: t', p⟩))
    (hv : Reader.value fuel bound (Reader.mk t' (p + 1)).skipGap = .ok (v, next))
    (hcomma : next.skipGap = ⟨',' :: after, q⟩) (done : List (Points × Json)) :
    Reader.fields (fuel + 1) bound done ⟨'"' :: t, place⟩ =
      Reader.fields fuel bound (setField done name v) (Reader.mk after (q + 1)).skipGap := by
  rw [Reader.fields]
  simp [skip_one, hname, skipGap_cons, hv, hcomma, bind, Except.bind]

end

theorem setField_of_notMem {done : List (Points × Json)} {name : Points}
    (h : name ∉ done.map (·.1)) (v : Json) : setField done name v = done ++ [(name, v)] := by
  have hany : done.any (·.1 == name) = false := by
    rw [List.any_eq_false]
    intro x hx heq
    exact h (List.mem_map.mpr ⟨x, hx, beq_iff_eq.mp heq⟩)
  rw [setField, hany]
  rfl

/-- A field with a new name goes to the end. -/
theorem setField_named {done fields : List (Text × Json)} {x : Text × Json}
    (hnames : ((done ++ x :: fields).map (·.1)).Nodup) :
    setField (done.map named) (Points.ofText x.1) x.2 = (done ++ [x]).map named := by
  have hnew : x.1 ∉ done.map (·.1) := by
    rw [List.map_append, List.map_cons] at hnames
    exact fun hx => List.disjoint_of_nodup_append hnames hx List.mem_cons_self
  rw [setField_of_notMem, List.map_append]
  · rfl
  · intro hmem
    rw [List.map_map] at hmem
    obtain ⟨y, hy, heq⟩ := List.mem_map.mp hmem
    have htext : y.1 = x.1 := List.map_injective_iff.mpr (fun a b h => Point.char.inj h) heq
    exact hnew (htext ▸ List.mem_map_of_mem hy)

/-- The name and the value of a field. -/
theorem exists_field {depth bound : Nat} (hbound : depth ≤ bound) {x : Text × Json}
    (h : Plain depth x.2 ∧ ReadBack depth x.2) (level fuel : Nat)
    (hfuel : 2 * (indented level x.2).length ≤ fuel) {u : Text} (hu : closes u = true)
    (place : Nat) :
    ∃ p stop, Reader.string ⟨(Points.ofText x.1).flatMap writtenPoint ++
        '"' :: ':' :: ' ' :: (indented level x.2 ++ u), place⟩ =
          .ok (Points.ofText x.1, ⟨':' :: ' ' :: (indented level x.2 ++ u), p⟩) ∧
      Reader.value fuel bound (Reader.mk (' ' :: (indented level x.2 ++ u)) (p + 1)).skipGap =
        .ok (x.2, ⟨u, stop⟩) := by
  obtain ⟨p, hname⟩ := reads_string x.1 (':' :: ' ' :: (indented level x.2 ++ u)) place
  obtain ⟨c, t, hct, hc, -⟩ := exists_start h.1 level
  have hblank : ∀ c ∈ [' '], isGap c = true := by simp [isGap]
  have hgap : (Reader.mk (' ' :: (indented level x.2 ++ u)) (p + 1)).skipGap =
      ⟨indented level x.2 ++ u, p + 1 + 1⟩ := by
    rw [hct]
    exact skipGap_append hblank hc (t ++ u) (p + 1)
  obtain ⟨stop, hvalue⟩ := h.2 level fuel bound u hu hfuel hbound (p + 1 + 1)
  refine ⟨p, stop, ?_, ?_⟩
  · rwa [List.append_assoc] at hname
  · rw [hgap, hvalue]

/-- The fields of an object, from the first one on. -/
theorem fields_indented {depth bound : Nat} (hbound : depth ≤ bound) (level outer : Nat)
    (rest : Text) {x : Text × Json} {fields : List (Text × Json)}
    (h : ∀ y ∈ x :: fields, Plain depth y.2 ∧ ReadBack depth y.2) (done : List (Text × Json))
    (hnames : ((done ++ x :: fields).map (·.1)).Nodup) (place : Nat) {fuel : Nat}
    (hfuel : 2 * ((indented level x.2).length +
      (indentedFields level (fields.map named)).length) < fuel) :
    ∃ stop, Reader.fields fuel bound (done.map named)
      ⟨writtenString (Points.ofText x.1) ++ (':' :: ' ' :: (indented level x.2 ++
        (indentedFields level (fields.map named) ++ (newLine outer ++ Char.ofNat 125 :: rest)))),
          place⟩ = .ok (.obj ((done ++ x :: fields).map named), ⟨rest, stop⟩) := by
  obtain ⟨fuel, rfl⟩ := Nat.exists_eq_add_one.mpr (show 0 < fuel by omega)
  induction fields generalizing x fuel done place with
  | nil =>
      obtain ⟨p, stop, hname, hvalue⟩ := exists_field hbound (h x List.mem_cons_self) level fuel
        (by omega) (u := newLine outer ++ Char.ofNat 125 :: rest) rfl (place + 1)
      have hlast := fields_last hname hvalue
        (skipGap_append (isGap_newLine outer) (by decide) rest stop) (done.map named)
      rw [setField_named hnames] at hlast
      refine ⟨stop + (newLine outer).length + 1, ?_⟩
      simpa [writtenString, indentedFields] using hlast
  | cons y fields ih =>
      obtain ⟨hx, hfields⟩ := List.forall_mem_cons.mp h
      have hlength : (indentedFields level ((y :: fields).map named)).length =
          3 + (newLine level).length + (writtenString (Points.ofText y.1)).length +
          ((indented level y.2).length + (indentedFields level (fields.map named)).length) := by
        simp [indentedFields, named]
        omega
      rw [List.map_cons, named, indentedFields_append]
      obtain ⟨p, stop, hname, hvalue⟩ := exists_field hbound hx level fuel (by omega)
        (u := ',' :: (newLine level ++ (writtenString (Points.ofText y.1) ++
          (':' :: ' ' :: (indented level y.2 ++ (indentedFields level (fields.map named) ++
            (newLine outer ++ Char.ofNat 125 :: rest))))))) rfl (place + 1)
      have hnext := fields_next hname hvalue (skipGap_cons (by decide) _ stop) (done.map named)
      rw [setField_named hnames, skipGap_writtenString] at hnext
      obtain ⟨fuel, rfl⟩ := Nat.exists_eq_add_one.mpr (show 0 < fuel by omega)
      obtain ⟨stop', hstop'⟩ := ih hfields (done ++ [x]) (by simpa using hnames)
        (stop + 1 + (newLine level).length) fuel (by omega)
      rw [List.append_assoc, List.singleton_append] at hstop'
      exact ⟨stop', by rw [writtenString_append (Points.ofText x.1), hnext, hstop']⟩

theorem indented_list_append (level : Nat) (v : Json) (items : List Json) (t : Text) :
    indented level (.arr (v :: items)) ++ t = '[' :: (newLine (level + 1) ++
      (indented (level + 1) v ++ (indentedItems (level + 1) items ++
        (newLine level ++ ']' :: t)))) := by
  simp

theorem indented_object_append (level : Nat) (x : Text × Json) (fields : List (Text × Json))
    (t : Text) :
    indented level (.obj ((x :: fields).map named)) ++ t = Char.ofNat 123 :: (newLine (level + 1) ++
      (writtenString (Points.ofText x.1) ++ (':' :: ' ' :: (indented (level + 1) x.2 ++
        (indentedFields (level + 1) (fields.map named) ++
          (newLine level ++ Char.ofNat 125 :: t)))))) := by
  simp [named]

/-- A list is read back if its items are. -/
theorem readBack_arr {depth : Nat} {items : List Json}
    (h : ∀ v ∈ items, Plain depth v ∧ ReadBack depth v) : ReadBack (depth + 1) (.arr items) := by
  intro level fuel bound rest _ hfuel hbound place
  obtain ⟨bound, rfl⟩ := Nat.exists_eq_add_one.mpr (show 0 < bound by omega)
  cases items with
  | nil =>
      have hpos : 0 < fuel := by
        simp only [indented, List.length_cons, List.length_nil] at hfuel
        omega
      obtain ⟨fuel, rfl⟩ := Nat.exists_eq_add_one.mpr hpos
      exact ⟨place + 2, rfl⟩
  | cons v items =>
      have hv := (h v List.mem_cons_self).1
      have hlength := congrArg List.length (indented_list_append level v items [])
      simp only [List.append_nil, List.length_cons, List.length_append] at hlength
      obtain ⟨fuel, rfl⟩ := Nat.exists_eq_add_one.mpr (show 0 < fuel by omega)
      rw [indented_list_append, value_list, skipGap_indented hv]
      · exact items_indented (by omega) (level + 1) level rest h [] _ (by omega)
      · obtain ⟨c, t, hct, -, -, hc⟩ := exists_start hv (level + 1)
        rw [skipGap_indented hv, hct]
        simpa using hc

/-- An object with different names is read back if its values are. -/
theorem readBack_obj {depth : Nat} {fields : List (Text × Json)}
    (hnames : (fields.map (·.1)).Nodup)
    (h : ∀ x ∈ fields, Plain depth x.2 ∧ ReadBack depth x.2) :
    ReadBack (depth + 1) (.obj (fields.map named)) := by
  intro level fuel bound rest _ hfuel hbound place
  obtain ⟨bound, rfl⟩ := Nat.exists_eq_add_one.mpr (show 0 < bound by omega)
  cases fields with
  | nil =>
      have hpos : 0 < fuel := by
        simp only [indented, List.length_cons, List.length_nil, List.map_nil] at hfuel
        omega
      obtain ⟨fuel, rfl⟩ := Nat.exists_eq_add_one.mpr hpos
      exact ⟨place + 2, rfl⟩
  | cons x fields =>
      have hlength := congrArg List.length (indented_object_append level x fields [])
      simp only [List.append_nil, List.length_cons, List.length_append] at hlength
      obtain ⟨fuel, rfl⟩ := Nat.exists_eq_add_one.mpr (show 0 < fuel by omega)
      rw [indented_object_append, value_object, skipGap_writtenString]
      · exact fields_indented (by omega) (level + 1) level rest h [] hnames _ (by omega)
      · rw [skipGap_writtenString, writtenString_append]
        simp

/-- Every plain value is read back, by induction on its depth. -/
theorem readBack {depth : Nat} {v : Json} (h : Plain depth v) : ReadBack depth v := by
  induction h with
  | null =>
      refine readBack_plain .null (fun _ => rfl) (fun rest _ => reads_plain_null rest) ?_
      intro c t hct
      cases hct
      decide
  | bool b =>
      refine readBack_plain (.bool b) (fun _ => rfl) (fun rest _ => reads_plain_bool b rest) ?_
      intro c t hct
      cases b <;> cases hct <;> decide
  | @int depth n hn =>
      refine readBack_plain (.int hn) (fun _ => rfl) (fun rest => reads_plain_int hn) ?_
      intro c t hct
      obtain ⟨d, ds, hds, hd⟩ := exists_toDigits n.natAbs
      rw [written_int, hds] at hct
      split at hct
      · cases hct
        decide
      · cases hct
        have hrange : 48 ≤ c.toNat ∧ c.toNat ≤ 57 := Char.isDigit_iff_toNat.mp hd
        refine ⟨?_, ?_, by omega⟩
        · rintro rfl
          exact absurd hd (by decide)
        · rintro rfl
          exact absurd hd (by decide)
  | @str depth t => exact readBack_str depth t
  | arr hitems ih => exact readBack_arr fun v hv => ⟨hitems v hv, ih v hv⟩
  | obj hnames hfields ih => exact readBack_obj hnames fun x hx => ⟨hfields x hx, ih x hx⟩

/-! ## Documents -/

/-- A value that is written as a document of its own is read back. -/
theorem read_indented {v : Json} (h : Plain depthBound v) {ends : Text}
    (hends : ∀ c ∈ ends, c = '\n') : read (v.indented 0 ++ ends) = .ok v := by
  obtain ⟨c, t, hct, hlow, hhigh, -⟩ := exists_start h 0
  have hmark : ((v.indented 0 ++ ends).head? == some (Char.ofNat 0xFEFF)) = false := by
    have hne : c ≠ Char.ofNat 0xFEFF := by
      rintro rfl
      exact absurd hhigh (by decide)
    simpa [hct] using hne
  have hcloses : closes ends = true := by
    cases ends with
    | nil => rfl
    | cons d ends => simp [closes, hends d List.mem_cons_self]
  have hgap : (Reader.mk (v.indented 0 ++ ends) 0).skipGap = ⟨v.indented 0 ++ ends, 0⟩ := by
    rw [hct]
    exact skipGap_cons hlow (t ++ ends) 0
  obtain ⟨stop, hstop⟩ := readBack h 0 (2 * (v.indented 0 ++ ends).length + 2) depthBound ends
    hcloses (by rw [List.length_append]; omega) (Nat.le_refl _) 0
  have hend : (Reader.mk ends stop).skipGap.rest = [] := by
    have htaken : ends.takeWhile isGap = ends := by
      rw [List.takeWhile_eq_self_iff]
      intro c hc
      rw [hends c hc]
      rfl
    simp [Reader.skipGap, Reader.skip, htaken]
  rw [read, hmark, hgap]
  simp only [bind, Except.bind, hstop, hend]
  rfl

end Json

end ExtensionAudit
