import Mathlib
import ExtensionAudit.Proofs.Text
import ExtensionAudit.Suppression

/-!
# The reach of directives

A directive in a comment silences a check on its own line and on the next one.  The form for the
next line is meant for that line alone.  `Covers` says what it is for a line to carry a directive of
a form that names no check or the given one, and `Reaches` puts the meant reach together.  Main
statement: the two tests, for rules and for checks of scripts, agree, and they go by `Reaches` but
for one case, a directive for the next line on the line itself (`isSuppressed_reaches`).

*Reading.*  If the word of a directive stands only once in a line, the directive is read off this
place: its form from the ending that follows (`Once.carries_iff`), and its name from what comes
after a colon (`named?_eq_some_iff`).
-/

namespace ExtensionAudit.Suppression

/-! ## What a directive names -/

/-- What follows the word of a directive names a check: after a colon and blanks, as a word that
blanks or the end of the line end. -/
def Names (after name : Text) : Prop :=
  ∃ space back, after = ':' :: (space ++ (name ++ back)) ∧
    (∀ x ∈ space, Text.isBlank x = true) ∧ name ≠ [] ∧ (∀ x ∈ name, Text.isBlank x = false) ∧
      back.head?.all Text.isBlank = true

/-- A name that is read off is the name that the text gives. -/
theorem names_of_named? {after name : Text} (h : named? after = some name) : Names after name := by
  unfold named? at h
  split at h
  next rest =>
      dsimp only at h
      split at h
      next => cases h
      next hne =>
          cases h
          refine ⟨rest.takeWhile Text.isBlank,
            (rest.dropWhile Text.isBlank).dropWhile fun c => !Text.isBlank c, ?_,
            fun x hx => List.mem_takeWhile_imp hx, mt List.isEmpty_iff.mpr hne, ?_, ?_⟩
          · rw [List.takeWhile_append_dropWhile, List.takeWhile_append_dropWhile]
          · intro x hx
            simpa using List.mem_takeWhile_imp hx
          · rw [Option.all_eq_true]
            intro x hx
            have hstop := List.head?_dropWhile_not (fun c => !Text.isBlank c)
              (rest.dropWhile Text.isBlank)
            rw [hx] at hstop
            simpa using hstop
  next => cases h

/-- The name that a text gives is read off. -/
theorem Names.named?_eq {after name : Text} (h : Names after name) : named? after = some name := by
  obtain ⟨space, back, rfl, hspace, hne, hname, hback⟩ := h
  have hfront : (space ++ (name ++ back)).dropWhile Text.isBlank = name ++ back := by
    obtain ⟨x, more, rfl⟩ := List.exists_cons_of_ne_nil hne
    rw [List.dropWhile_append_of_pos hspace, List.cons_append, List.dropWhile_cons_of_neg]
    simpa using hname x List.mem_cons_self
  have hword : (name ++ back).takeWhile (fun c => !Text.isBlank c) = name := by
    rw [List.takeWhile_append_of_pos fun x hx => by simp [hname x hx]]
    cases back with
    | nil => simp
    | cons x back => simp [show Text.isBlank x = true from hback]
  rw [named?, hfront, hword]
  exact if_neg (mt List.isEmpty_iff.mp hne)

/-- The name of a directive is read as it is written. -/
theorem named?_eq_some_iff {after name : Text} : named? after = some name ↔ Names after name :=
  ⟨names_of_named?, Names.named?_eq⟩

theorem named?_eq_none_iff {after : Text} : named? after = none ↔ ∀ name, ¬ Names after name := by
  simp only [← named?_eq_some_iff, Option.eq_none_iff_forall_ne_some, ne_eq]

/-! ## Directives on a line -/

/-- The line carries a directive, for the next line if the second argument is true.  The third is
what follows the directive. -/
inductive Carries : Text → Bool → Text → Prop where
  /-- A directive for its own line and the next one. -/
  | both (front after : Text) (h : ¬ nextLine <+: after) :
      Carries (front ++ (keyword ++ after)) false after
  /-- A directive for the next line. -/
  | next (front after : Text) : Carries (front ++ (keyword ++ (nextLine ++ after))) true after

/-- The line carries a directive of a form that names no check, or names the given one. -/
def Covers (line : Text) (forNext : Bool) (check : Text) : Prop :=
  ∃ after, Carries line forNext after ∧ ((∀ name, ¬ Names after name) ∨ Names after check)

/-- The word of a directive stands at most once in the line. -/
def Once (line : Text) : Prop := Text.occurrences keyword line ≤ 1

instance (line : Text) : Decidable (Once line) := inferInstanceAs (Decidable (_ ≤ 1))

theorem once_nil : Once [] := Nat.zero_le 1

/-- The only directive of a line is the one that is found. -/
theorem Once.breakOn_eq {line front rest : Text} (honce : Once line)
    (h : line = front ++ (keyword ++ rest)) : Text.breakOn keyword line = some (front, rest) := by
  subst h
  exact Text.breakOn_of_occurrences_le_one (by decide) honce

theorem Carries.isInfix {line after : Text} {forNext : Bool} (h : Carries line forNext after) :
    keyword <:+: line := by
  cases h with
  | both front => exact ⟨front, after, by simp⟩
  | next front => exact ⟨front, nextLine ++ after, by simp⟩

/-- The form of a directive and what follows it, from what follows its word. -/
theorem Once.carries_iff {line front rest after : Text} {forNext : Bool} (honce : Once line)
    (h : Text.breakOn keyword line = some (front, rest)) :
    Carries line forNext after ↔ forNext = nextLine.isPrefixOf rest ∧
      after = if nextLine.isPrefixOf rest then rest.drop nextLine.length else rest := by
  constructor
  · intro hcarries
    cases hcarries with
    | both front' after hnext =>
        obtain ⟨-, rfl⟩ := Prod.mk.inj (Option.some_inj.mp ((honce.breakOn_eq rfl).symm.trans h))
        have hother : nextLine.isPrefixOf after = false :=
          Bool.eq_false_iff.mpr (mt List.isPrefixOf_iff_prefix.mp hnext)
        exact ⟨hother.symm, by rw [hother]; rfl⟩
    | next front' after =>
        obtain ⟨-, rfl⟩ := Prod.mk.inj (Option.some_inj.mp ((honce.breakOn_eq rfl).symm.trans h))
        have hform : nextLine.isPrefixOf (nextLine ++ after) = true :=
          List.isPrefixOf_iff_prefix.mpr (List.prefix_append ..)
        exact ⟨hform.symm, by rw [if_pos hform, List.drop_left]⟩
  · rintro ⟨rfl, rfl⟩
    rw [Text.eq_of_breakOn h]
    by_cases hnext : nextLine <+: rest
    · obtain ⟨after, rfl⟩ := hnext
      have hform : nextLine.isPrefixOf (nextLine ++ after) = true :=
        List.isPrefixOf_iff_prefix.mpr (List.prefix_append ..)
      rw [hform, if_pos rfl, List.drop_left]
      exact .next front after
    · have hother : nextLine.isPrefixOf rest = false :=
        Bool.eq_false_iff.mpr (mt List.isPrefixOf_iff_prefix.mp hnext)
      rw [hother, if_neg Bool.false_ne_true]
      exact .both front rest hnext

/-- A line silences a check iff it carries a directive, of either form, that names no check or this
one. -/
theorem Once.silences_iff {line check : Text} (honce : Once line) :
    silences line (some check) = true ↔ ∃ forNext, Covers line forNext check := by
  rw [silences, directive?]
  cases hbreak : Text.breakOn keyword line with
  | none =>
      refine iff_of_false Bool.false_ne_true ?_
      rintro ⟨forNext, after, hcarries, -⟩
      exact Text.breakOn_eq_none_iff.mp hbreak hcarries.isInfix
  | some cut =>
      obtain ⟨front, rest⟩ := cut
      simp only [Covers, honce.carries_iff hbreak, Option.map_some]
      generalize hafter : (if nextLine.isPrefixOf rest then rest.drop nextLine.length else rest) =
        after
      have hcovers : (∃ forNext after', (forNext = nextLine.isPrefixOf rest ∧ after' = after) ∧
          ((∀ name, ¬ Names after' name) ∨ Names after' check)) ↔
            (∀ name, ¬ Names after name) ∨ Names after check := by
        constructor
        · rintro ⟨_, _, ⟨rfl, rfl⟩, hnames⟩
          exact hnames
        · exact fun hnames => ⟨_, _, ⟨rfl, rfl⟩, hnames⟩
      rw [hcovers, ← named?_eq_none_iff, ← named?_eq_some_iff]
      cases hnamed : named? after with
      | none => exact iff_of_true rfl (.inl rfl)
      | some name =>
          refine beq_iff_eq.trans ⟨fun hname => .inr hname.symm, ?_⟩
          rintro (hname | hname)
          · cases hname
          · exact hname.symm

/-- The directives of a line have one form. -/
theorem Once.form_unique {line after after' : Text} {forNext forNext' : Bool} (honce : Once line)
    (h : Carries line forNext after) (h' : Carries line forNext' after') : forNext = forNext' := by
  cases hbreak : Text.breakOn keyword line with
  | none => exact absurd h.isInfix (Text.breakOn_eq_none_iff.mp hbreak)
  | some cut =>
      obtain ⟨front, rest⟩ := cut
      rw [((honce.carries_iff hbreak).mp h).1, ((honce.carries_iff hbreak).mp h').1]

/-! ## The two tests -/

/-- The meant reach of directives: one for both lines counts on the line itself and on the line
before it, and one for the next line only on the line before. -/
def Reaches (line previous check : Text) : Prop :=
  Covers line false check ∨ ∃ forNext, Covers previous forNext check

/-- The line of a number in a file, with the line before it, which is empty before the first. -/
structure InFile (lines : List Text) (n : Nat) (line previous : Text) : Prop where
  /-- The line. -/
  line_eq : lines[n]? = some line
  /-- The line before it. -/
  previous_eq : ([] :: lines)[n]? = some previous

theorem InFile.once {lines : List Text} {n : Nat} {line previous : Text}
    (h : InFile lines n line previous) (honce : ∀ l ∈ lines, Once l) :
    Once line ∧ Once previous := by
  refine ⟨honce _ (List.mem_of_getElem? h.line_eq), ?_⟩
  rcases List.mem_cons.mp (List.mem_of_getElem? h.previous_eq) with rfl | hmem
  · exact once_nil
  · exact honce _ hmem

/-- The two tests agree. -/
theorem isExcused_eq_isSuppressed (line previous check : Text) :
    isExcused line check previous = isSuppressed line previous (some check) := by
  simp [isExcused, isSuppressed]

theorem isSuppressed_iff {line previous check : Text} (hline : Once line)
    (hprevious : Once previous) :
    isSuppressed line previous (some check) = true ↔
      Reaches line previous check ∨ Covers line true check := by
  rw [isSuppressed, Bool.or_eq_true, hline.silences_iff, hprevious.silences_iff, Bool.exists_bool,
    Reaches, or_right_comm]

/-- The two tests agree on every line of a file.  They go by the meant reach, and beyond it by a
directive for the next line on the line itself; so they go by the meant reach alone iff there is no
such directive or the line is reached anyway. -/
theorem isSuppressed_reaches (lines : List Text) (honce : ∀ l ∈ lines, Once l) (n : Nat)
    (line previous : Text) (hfile : InFile lines n line previous) (check : Text) :
    isSuppressed line previous (some check) = isExcused line check previous ∧
    (isSuppressed line previous (some check) = true ↔
      Reaches line previous check ∨ Covers line true check) ∧
    ((isSuppressed line previous (some check) = true ↔ Reaches line previous check) ↔
      (Covers line true check → ∃ forNext, Covers previous forNext check)) := by
  obtain ⟨hline, hprevious⟩ := hfile.once honce
  have hiff : isSuppressed line previous (some check) = true ↔
      Reaches line previous check ∨ Covers line true check := isSuppressed_iff hline hprevious
  refine ⟨(isExcused_eq_isSuppressed line previous check).symm, hiff, ?_⟩
  rw [hiff, or_iff_left_iff_imp]
  constructor
  · intro hreaches hnext
    rcases hreaches hnext with ⟨after, hboth, -⟩ | hprevious
    · obtain ⟨after', hnext, -⟩ := hnext
      cases hline.form_unique hboth hnext
    · exact hprevious
  · exact fun hprevious hnext => .inr (hprevious hnext)

/-- A line after a directive for the next line that names a check. -/
def announcedLines : List Text :=
  ["// ego-lint-ignore-next-line: R-WEB-01".toList, "setTimeout(f, 1000);".toList]

/-- The second line is reached, and the check that is named is silenced there. -/
theorem isSuppressed_reaches_announced :
    isSuppressed "setTimeout(f, 1000);".toList "// ego-lint-ignore-next-line: R-WEB-01".toList
        (some "R-WEB-01".toList) = true ∧
      Reaches "setTimeout(f, 1000);".toList "// ego-lint-ignore-next-line: R-WEB-01".toList
        "R-WEB-01".toList := by
  have honce : ∀ l ∈ announcedLines, Once l := by decide
  have hcovers : Covers "// ego-lint-ignore-next-line: R-WEB-01".toList true "R-WEB-01".toList :=
    ⟨": R-WEB-01".toList, .next "// ".toList _, .inr (names_of_named? (by decide))⟩
  obtain ⟨-, hiff, -⟩ :=
    isSuppressed_reaches announcedLines honce 1 _ _ ⟨rfl, rfl⟩ "R-WEB-01".toList
  have hreaches : Reaches "setTimeout(f, 1000);".toList
      "// ego-lint-ignore-next-line: R-WEB-01".toList "R-WEB-01".toList := .inr ⟨true, hcovers⟩
  exact ⟨hiff.mpr (.inl hreaches), hreaches⟩

/-- A directive for the next line that stands on the line itself. -/
def strayLine : Text := "setTimeout(f, 1000); // ego-lint-ignore-next-line".toList

/-- Both tests silence the line itself, which is not the next one. -/
theorem isSuppressed_strayLine :
    Once strayLine ∧ isSuppressed strayLine [] (some "R-WEB-01".toList) = true ∧
      isExcused strayLine "R-WEB-01".toList [] = true ∧
      ¬ Reaches strayLine [] "R-WEB-01".toList := by
  have honce : Once strayLine := by decide
  have hcarries : Carries strayLine true [] := .next "setTimeout(f, 1000); // ".toList []
  refine ⟨honce, by decide, by decide, ?_⟩
  rintro (⟨after, hboth, -⟩ | ⟨forNext, after, hempty, -⟩)
  · cases honce.form_unique hboth hcarries
  · exact absurd hempty.isInfix (by decide)

end ExtensionAudit.Suppression
