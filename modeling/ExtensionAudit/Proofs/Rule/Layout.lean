import Mathlib
import ExtensionAudit.Proofs.Text
import ExtensionAudit.Rule.Reader

/-!
# The lines of a rules file that say something

A rules file is read through its lines, but neither the blanks around a line count nor blank lines
nor comments.  What is left of a file are its *said* lines: the text is cut at every newline and
every carriage return, each piece is trimmed, and a piece stays if it says something.  The rules of
a file depend on its said lines only (`readAll_unifyNewlines`).

The said lines are easy to find in a text that is put together from parts: they split at each break
(`said_append_break`), and blanks at either end add none (`said_append_left`,
`said_append_right`).  So a file that is laid out freely around given lines says these lines
(`said_join_of_laid`).
-/

namespace ExtensionAudit.Rule

/-! ## Breaks -/

/-- A character that ends a line of a file. -/
def isBreak (c : Char) : Bool := c == '\n' || c == '\r'

/-- The text stands on one line. -/
def Unbroken (t : Text) : Prop := ∀ c ∈ t, isBreak c = false

/-- The text holds blanks only. -/
def Blank (t : Text) : Prop := ∀ c ∈ t, Text.isBlank c = true

-- The characters are finitely many, and a search through all of them must not be taken here.
instance (t : Text) : Decidable (Unbroken t) := List.decidableBAll (isBreak · = false) t

instance (t : Text) : Decidable (Blank t) := List.decidableBAll (Text.isBlank · = true) t

theorem isBreak_iff {c : Char} : isBreak c = true ↔ c = '\n' ∨ c = '\r' := by
  simp [isBreak]

theorem Unbroken.notMem_newline {t : Text} (h : Unbroken t) : '\n' ∉ t := by
  intro hmem
  exact absurd (h _ hmem) (by decide)

theorem unbroken_append {s t : Text} : Unbroken (s ++ t) ↔ Unbroken s ∧ Unbroken t :=
  List.forall_mem_append

theorem unbroken_cons {c : Char} {t : Text} :
    Unbroken (c :: t) ↔ isBreak c = false ∧ Unbroken t :=
  List.forall_mem_cons

/-- A text stands on one line, or it has a first break. -/
theorem unbroken_or_exists_break (t : Text) :
    Unbroken t ∨ ∃ l b rest, t = l ++ b :: rest ∧ Unbroken l ∧ isBreak b = true := by
  cases hfind : t.find? isBreak with
  | none =>
      left
      simpa [Unbroken] using hfind
  | some b =>
      right
      obtain ⟨hb, l, rest, rfl, hl⟩ := List.find?_eq_some_iff_append.mp hfind
      exact ⟨l, b, rest, rfl, by simpa [Unbroken] using hl, hb⟩

/-! ## Newlines -/

/-- A text without breaks is left as it is. -/
theorem unifyNewlines_append {l : Text} (h : Unbroken l) (rest : Text) :
    Text.unifyNewlines (l ++ rest) = l ++ Text.unifyNewlines rest := by
  induction l with
  | nil => rfl
  | cons c l ih =>
      obtain ⟨hc, hl⟩ := unbroken_cons.mp h
      have hcr : c ≠ '\r' := by
        rintro rfl
        exact absurd hc (by decide)
      rw [List.cons_append, Text.unifyNewlines, ih hl, List.cons_append]
      · rintro - rfl
        exact absurd rfl hcr
      · exact hcr

/-- A break becomes a newline, together with the newline that may follow it. -/
theorem unifyNewlines_break {b : Char} (h : isBreak b = true) (rest : Text) :
    ∃ rest', Text.unifyNewlines (b :: rest) = '\n' :: Text.unifyNewlines rest' ∧
      (rest = rest' ∨ rest = '\n' :: rest') := by
  rcases isBreak_iff.mp h with rfl | rfl
  · exact ⟨rest, rfl, .inl rfl⟩
  · by_cases hnext : rest.head? = some '\n'
    · obtain ⟨rest', rfl⟩ := List.head?_eq_some_iff.mp hnext
      exact ⟨rest', rfl, .inr rfl⟩
    · refine ⟨rest, ?_, .inl rfl⟩
      rw [Text.unifyNewlines]
      rintro rest' rfl
      exact hnext rfl

/-! ## Said lines -/

/-- A line without blanks around it says something: it is neither empty nor a comment. -/
def speaks (line : Text) : Bool := !(line.isEmpty || line.head? == some '#')

/-- The lines that say something, without the blanks around them. -/
def speaking (lines : List Text) : List Text := (lines.map Text.trim).filter speaks

/-- The lines of a text that say something. -/
def said (t : Text) : List Text := speaking (t.splitOnP isBreak)

theorem speaking_append (ls ls' : List Text) :
    speaking (ls ++ ls') = speaking ls ++ speaking ls' := by
  simp [speaking]

theorem speaking_cons (l : Text) (ls : List Text) :
    speaking (l :: ls) = speaking [l] ++ speaking ls :=
  speaking_append [l] ls

theorem speaking_congr {l l' : Text} (h : Text.trim l = Text.trim l') :
    speaking [l] = speaking [l'] := by
  simp only [speaking, List.map_cons, h]

@[simp]
theorem said_nil : said [] = [] := rfl

theorem said_of_unbroken {t : Text} (h : Unbroken t) : said t = speaking [t] := by
  rw [said, List.splitOnP_eq_singleton h]

/-- A text splits at each break. -/
theorem said_append_break {b : Char} (h : isBreak b = true) (s t : Text) :
    said (s ++ b :: t) = said s ++ said t := by
  rw [said, List.splitOnP_append_cons s t h, speaking_append]
  rfl

theorem said_cons_break {b : Char} (h : isBreak b = true) (t : Text) : said (b :: t) = said t :=
  said_append_break h [] t

/-- What a file says is what its lines say, once each carriage return is a newline. -/
theorem speaking_newlineLines (t : Text) :
    speaking (Text.newlineLines (Text.unifyNewlines t)) = said t := by
  -- The induction is on the length, since a carriage return may take a newline with it.
  induction hn : t.length using Nat.strong_induction_on generalizing t with
  | _ n ih =>
      rcases unbroken_or_exists_break t with ht | ⟨l, b, rest, rfl, hl, hb⟩
      · have hunify : Text.unifyNewlines t = t := by
          simpa [Text.unifyNewlines] using unifyNewlines_append ht []
        rw [hunify, said_of_unbroken ht]
        by_cases hne : t = []
        · subst hne
          rfl
        · rw [Text.newlineLines_of_notMem ht.notMem_newline hne]
      · obtain ⟨rest', hunify, hrest⟩ := unifyNewlines_break hb rest
        have hsaid : said rest = said rest' := by
          rcases hrest with rfl | rfl
          · rfl
          · exact said_cons_break (by decide) rest'
        have hlen : rest'.length < n := by
          rw [List.length_append, List.length_cons] at hn
          rcases hrest with rfl | rfl
          · omega
          · rw [List.length_cons] at hn
            omega
        have hblank : Blank ['\n'] := by decide
        have htrim : Text.trim (l ++ ['\n']) = Text.trim l := Text.trimOf_append_right hblank l
        rw [unifyNewlines_append hl, hunify, Text.newlineLines_append hl.notMem_newline,
          speaking_cons, ih _ hlen _ rfl, said_append_break hb, hsaid, said_of_unbroken hl,
          speaking_congr htrim]

/-! ## Blanks and comments -/

/-- A blank at the front says nothing. -/
theorem said_cons_blank {c : Char} (h : Text.isBlank c = true) (t : Text) :
    said (c :: t) = said t := by
  have htrim : ∀ l, Text.trim (c :: l) = Text.trim l := by
    have hblank : Blank [c] := List.forall_mem_singleton.mpr h
    exact Text.trimOf_append_left hblank
  cases hc : isBreak c with
  | true => exact said_cons_break hc t
  | false =>
      rcases unbroken_or_exists_break t with ht | ⟨l, b, rest, rfl, hl, hb⟩
      · rw [said_of_unbroken (unbroken_cons.mpr ⟨hc, ht⟩), said_of_unbroken ht,
          speaking_congr (htrim t)]
      · rw [← List.cons_append, said_append_break hb, said_append_break hb,
          said_of_unbroken (unbroken_cons.mpr ⟨hc, hl⟩), said_of_unbroken hl,
          speaking_congr (htrim l)]

/-- Blanks at the front say nothing. -/
theorem said_append_left {front : Text} (h : Blank front) (t : Text) :
    said (front ++ t) = said t := by
  induction front with
  | nil => rfl
  | cons c front ih =>
      obtain ⟨hc, hfront⟩ := List.forall_mem_cons.mp h
      rw [List.cons_append, said_cons_blank hc, ih hfront]

/-- Blanks say nothing. -/
theorem said_of_blank {t : Text} (h : Blank t) : said t = [] := by
  simpa using said_append_left h []

/-- Blanks at the back say nothing. -/
theorem said_append_right {t back : Text} (ht : Unbroken t) (h : Blank back) :
    said (t ++ back) = said t := by
  rcases unbroken_or_exists_break back with hback | ⟨l, b, rest, rfl, hl, hb⟩
  · rw [said_of_unbroken (unbroken_append.mpr ⟨ht, hback⟩), said_of_unbroken ht,
      speaking_congr (Text.trimOf_append_right h t)]
  · obtain ⟨hblank, hrest⟩ := List.forall_mem_append.mp h
    have hnone : said rest = [] := said_of_blank (List.forall_mem_cons.mp hrest).2
    rw [← List.append_assoc, said_append_break hb, hnone, List.append_nil,
      said_of_unbroken (unbroken_append.mpr ⟨ht, hl⟩), said_of_unbroken ht,
      speaking_congr (Text.trimOf_append_right hblank t)]

/-- Comments say nothing. -/
theorem said_comment {words : Text} (h : Unbroken words) : said ('#' :: words) = [] := by
  have hhead : (Text.trim ('#' :: words)).head? = some '#' :=
    Text.head?_trimOf_cons (by decide) words
  rw [said_of_unbroken (unbroken_cons.mpr ⟨by decide, h⟩)]
  simp [speaking, speaks, hhead]

/-! ## Files that are laid out freely -/

/-- A line that says something and has no blanks around it. -/
structure IsLine (l : Text) : Prop where
  unbroken : Unbroken l
  first : l.head?.any Text.isBlank = false
  last : l.getLast?.any Text.isBlank = false
  speaks : speaks l = true

theorem IsLine.trim {l : Text} (h : IsLine l) : Text.trim l = l :=
  Text.trimOf_eq_self h.first h.last

theorem IsLine.said {l : Text} (h : IsLine l) : said l = [l] := by
  rw [said_of_unbroken h.unbroken]
  simp [speaking, h.trim, h.speaks]

/-- The second list holds the lines of the first, in order, each with blanks around it, and lines
that say nothing between them. -/
inductive Laid : List Text → List Text → Prop
  | nil : Laid [] []
  | blank {ps ls : List Text} (line : Text) : Blank line → Laid ps ls → Laid ps (line :: ls)
  | comment {ps ls : List Text} (front words : Text) : Blank front → Unbroken words →
      Laid ps ls → Laid ps ((front ++ '#' :: words) :: ls)
  | line {ps ls : List Text} {p : Text} (front back : Text) : Blank front → Blank back →
      Laid ps ls → Laid (p :: ps) ((front ++ p ++ back) :: ls)

/-- Lines say what each of them says. -/
theorem said_join (ls : List Text) : said (Text.join ['\n'] ls) = ls.flatMap said := by
  induction ls with
  | nil => rfl
  | cons l ls ih =>
      cases ls with
      | nil => simp [Text.join]
      | cons l' ls =>
          have hjoin : Text.join ['\n'] (l :: l' :: ls) =
              l ++ '\n' :: Text.join ['\n'] (l' :: ls) := by
            simp [Text.join, List.intercalate_cons_cons]
          rw [hjoin, said_append_break (by decide), ih]
          rfl

/-- A file that is laid out around given lines says these lines. -/
theorem said_join_of_laid {ps ls : List Text} (h : Laid ps ls) (hps : ∀ p ∈ ps, IsLine p) :
    said (Text.join ['\n'] ls) = ps := by
  rw [said_join]
  induction h with
  | nil => rfl
  | blank line hline _ ih => rw [List.flatMap_cons, said_of_blank hline, ih hps, List.nil_append]
  | comment front words hfront hwords _ ih =>
      rw [List.flatMap_cons, said_append_left hfront, said_comment hwords, ih hps, List.nil_append]
  | line front back hfront hback _ ih =>
      obtain ⟨hp, hrest⟩ := List.forall_mem_cons.mp hps
      rw [List.flatMap_cons, List.append_assoc, said_append_left hfront,
        said_append_right hp.unbroken hback, hp.said, ih hrest, List.singleton_append]

/-! ## Reading -/

/-- The rules that are read so far, in order. -/
def Progress.rules (p : Progress) : List Rule := (p.current.toList ++ p.closed).reverse

/-- Blanks around a line do not count. -/
theorem Progress.line_trim (p : Progress) (l : Text) : p.line (Text.trim l) = p.line l := by
  have htrim : Text.trim (Text.trim l) = Text.trim l := Text.trimOf_trimOf Text.isBlank l
  rw [Progress.line, htrim]
  rfl

/-- A line that says nothing adds nothing. -/
theorem Progress.line_of_not_speaks {p : Progress} {l : Text} (h : speaks (Text.trim l) = false) :
    p.line l = p := by
  rw [speaks, Bool.not_eq_false'] at h
  rw [Progress.line]
  exact if_pos h

/-- Only lines that say something add to the rules. -/
theorem foldl_line_speaking (ls : List Text) (p : Progress) :
    (speaking ls).foldl Progress.line p = ls.foldl Progress.line p := by
  induction ls generalizing p with
  | nil => rfl
  | cons l ls ih =>
      rw [speaking_cons, List.foldl_append, ih, List.foldl_cons]
      congr 1
      cases hspeaks : speaks (Text.trim l) with
      | false => simp [speaking, hspeaks, Progress.line_of_not_speaks hspeaks]
      | true => simp [speaking, hspeaks, Progress.line_trim]

/-- The rules of a file are those of its said lines. -/
theorem readAll_unifyNewlines (t : Text) :
    readAll (Text.unifyNewlines t) = ((said t).foldl Progress.line ⟨[], none⟩).rules := by
  rw [← speaking_newlineLines, foldl_line_speaking]
  rfl

end ExtensionAudit.Rule
