import Mathlib
import ExtensionAudit.Source.Comments

/-!
# Two passes and one scan

`Source.code` takes comments out in two passes, first all block comments and then all line
comments.  `Source.scanned` does it in one scan from left to right, where the comment that opens
first decides: inside a line comment there is no block comment.

The two differ if a block comment opens inside a line comment.  A line comment is *sealed* if no
block comment crosses its ends: every block comment that opens in it closes in it, and none opens
with its second slash; or nothing from it on closes a block comment at all.  If all line comments
of a text are sealed, the two passes and the scan give the same (`code_eq_scanned`).
-/

namespace ExtensionAudit.Source

/-! ## One scan -/

/-- The text without its comments, by one scan from left to right. -/
def scanned : Text → Text
  | [] => []
  | '/' :: '/' :: rest => scanned (rest.dropWhile (· != '\n'))
  | '/' :: '*' :: rest =>
      match _h : afterComment? rest with
      | some after => scanned after
      | none => '/' :: '*' :: scanned rest
  | c :: rest => c :: scanned rest
termination_by t => t.length
decreasing_by
  · have := (List.dropWhile_suffix (l := rest) (· != '\n')).length_le
    simp
    omega
  · have := length_of_afterComment? _h
    simp
    omega
  · simp
  · simp

/-- The line comments that the scan finds, each with what follows it. -/
def lineComments : Text → List (Text × Text)
  | [] => []
  | '/' :: '/' :: rest =>
      ('/' :: '/' :: rest.takeWhile (· != '\n'), rest.dropWhile (· != '\n')) ::
        lineComments (rest.dropWhile (· != '\n'))
  | '/' :: '*' :: rest =>
      match _h : afterComment? rest with
      | some after => lineComments after
      | none => lineComments rest
  | _ :: rest => lineComments rest
termination_by t => t.length
decreasing_by
  · have := (List.dropWhile_suffix (l := rest) (· != '\n')).length_le
    simp
    omega
  · have := length_of_afterComment? _h
    simp
    omega
  · simp
  · simp

/-- Every block comment that opens in the text closes in it. -/
def closesBlocks : Text → Bool
  | [] => true
  | '/' :: '*' :: rest =>
      match _h : afterComment? rest with
      | some after => closesBlocks after
      | none => false
  | _ :: rest => closesBlocks rest
termination_by t => t.length
decreasing_by
  · have := length_of_afterComment? _h
    simp
    omega
  · simp

/-- No block comment crosses the ends of a line comment. -/
def Sealed (comment after : Text) : Prop :=
  (¬ ['/', '/', '*'] <+: comment ∧ closesBlocks comment = true) ∨
    ¬ ['*', '/'] <:+: comment ++ after

instance (comment after : Text) : Decidable (Sealed comment after) :=
  inferInstanceAs (Decidable (_ ∨ _))

/-! ## The end of a block comment -/

/-- A comment that ends in a text ends at the same place if the text goes on. -/
theorem afterComment?_append {t after : Text} (h : afterComment? t = some after) (u : Text) :
    afterComment? (t ++ u) = some (after ++ u) := by
  fun_induction afterComment? t with
  | case1 => cases h
  | case2 rest =>
      cases h
      rfl
  | case3 c rest hnot ih =>
      rw [List.cons_append, afterComment?]
      · exact ih h
      · intro more hc hrest
        cases rest with
        | nil => cases h
        | cons d rest =>
            cases hrest
            exact hnot rest hc rfl

/-- What follows a comment follows its closing mark. -/
theorem exists_of_afterComment? {t after : Text} (h : afterComment? t = some after) :
    ∃ inside, t = inside ++ '*' :: '/' :: after := by
  fun_induction afterComment? t with
  | case1 => cases h
  | case2 rest =>
      cases h
      exact ⟨[], rfl⟩
  | case3 c rest hnot ih =>
      obtain ⟨inside, rfl⟩ := ih h
      exact ⟨c :: inside, rfl⟩

/-- A comment does not end iff its closing mark does not follow. -/
theorem afterComment?_eq_none_iff {t : Text} :
    afterComment? t = none ↔ ¬ ['*', '/'] <:+: t := by
  fun_induction afterComment? t with
  | case1 => simp
  | case2 rest => simpa using (List.prefix_append ['*', '/'] rest).isInfix
  | case3 c rest hnot ih =>
      rw [ih, List.infix_cons_iff, not_or, and_iff_right]
      rintro ⟨more, hmore⟩
      cases hmore
      exact hnot more rfl rfl

/-! ## Block comments, piece by piece -/

theorem dropBlocks_open {rest after : Text} (h : afterComment? rest = some after) :
    dropBlocks ('/' :: '*' :: rest) = dropBlocks after := by
  rw [dropBlocks]
  split
  next a ha =>
    cases h.symm.trans ha
    rfl
  next ha => cases h.symm.trans ha

theorem dropBlocks_unclosed {rest : Text} (h : afterComment? rest = none) :
    dropBlocks ('/' :: '*' :: rest) = '/' :: '*' :: rest := by
  rw [dropBlocks]
  split
  next a ha => cases h.symm.trans ha
  next => rfl

theorem dropBlocks_cons {c : Char} {rest : Text} (h : ¬ ['/', '*'] <+: c :: rest) :
    dropBlocks (c :: rest) = c :: dropBlocks rest := by
  rw [dropBlocks]
  rintro more rfl rfl
  exact h ⟨more, rfl⟩

/-- Where nothing closes a block comment there is none. -/
theorem dropBlocks_of_notMem {t : Text} (h : ¬ ['*', '/'] <:+: t) : dropBlocks t = t := by
  fun_induction dropBlocks t with
  | case1 => rfl
  | case2 rest after hafter ih =>
      obtain ⟨inside, rfl⟩ := exists_of_afterComment? hafter
      exact absurd ⟨'/' :: '*' :: inside, after, by simp⟩ h
  | case3 rest hafter => rfl
  | case4 c rest hnot ih => rw [ih fun hin => h (hin.trans (List.suffix_cons c rest).isInfix)]

theorem dropBlocks_sublist (t : Text) : (dropBlocks t).Sublist t := by
  fun_induction dropBlocks t with
  | case1 => exact List.Sublist.refl _
  | case2 rest after hafter ih =>
      obtain ⟨inside, rfl⟩ := exists_of_afterComment? hafter
      refine ih.trans (List.IsSuffix.sublist ⟨'/' :: '*' :: inside ++ ['*', '/'], ?_⟩)
      simp
  | case3 rest hafter => exact List.Sublist.refl _
  | case4 c rest hnot ih => exact ih.cons_cons c

/-- A text that does not start with a slash keeps its first character. -/
theorem head?_dropBlocks {t : Text} (h : t.head? ≠ some '/') : (dropBlocks t).head? = t.head? := by
  cases t with
  | nil => rw [dropBlocks]
  | cons c rest =>
      rw [dropBlocks_cons]
      · rfl
      · rintro ⟨more, hmore⟩
        cases hmore
        exact h rfl

/-- The mark that opens a block comment cannot stand half in each of two texts. -/
theorem not_open_append {c : Char} {rest t : Text} (h : ¬ ['/', '*'] <+: c :: rest)
    (ht : t.head? ≠ some '*') : ¬ ['/', '*'] <+: c :: (rest ++ t) := by
  rintro ⟨more, hmore⟩
  cases rest with
  | nil =>
      cases hmore
      exact ht rfl
  | cons d rest =>
      cases hmore
      exact h ⟨rest, rfl⟩

/-- Block comments that close in the first of two texts do not reach into the second. -/
theorem dropBlocks_append {s t : Text} (h : closesBlocks s = true) (ht : t.head? ≠ some '*') :
    dropBlocks (s ++ t) = dropBlocks s ++ dropBlocks t := by
  fun_induction closesBlocks s with
  | case1 => rw [dropBlocks]; rfl
  | case2 rest after hafter ih =>
      calc dropBlocks ('/' :: '*' :: rest ++ t)
          = dropBlocks (after ++ t) := dropBlocks_open (afterComment?_append hafter t)
        _ = dropBlocks after ++ dropBlocks t := ih h
        _ = dropBlocks ('/' :: '*' :: rest) ++ dropBlocks t := by rw [dropBlocks_open hafter]
  | case3 => cases h
  | case4 c rest hnot ih =>
      have hopen : ¬ ['/', '*'] <+: c :: rest := by
        rintro ⟨more, hmore⟩
        cases hmore
        exact hnot more rfl rfl
      rw [List.cons_append, dropBlocks_cons (not_open_append hopen ht), dropBlocks_cons hopen, ih h,
        List.cons_append]

/-! ## Line comments -/

theorem dropLineComments_open (rest : Text) :
    dropLineComments ('/' :: '/' :: rest) = dropLineComments (rest.dropWhile (· != '\n')) := by
  rw [dropLineComments]

theorem dropLineComments_cons {c : Char} {rest : Text} (h : ¬ ['/', '/'] <+: c :: rest) :
    dropLineComments (c :: rest) = c :: dropLineComments rest := by
  rw [dropLineComments]
  rintro more rfl rfl
  exact h ⟨more, rfl⟩

/-- A line comment reaches to the first newline after it. -/
theorem dropLineComments_comment {body after : Text} (hbody : '\n' ∉ body)
    (hafter : after.head? = none ∨ after.head? = some '\n') :
    dropLineComments ('/' :: '/' :: body ++ after) = dropLineComments after := by
  have hskip : (body ++ after).dropWhile (· != '\n') = after := by
    rw [List.dropWhile_append_of_pos]
    · cases after with
      | nil => rfl
      | cons c after =>
          have hc : c = '\n' := by simpa using hafter
          rw [List.dropWhile_cons_of_neg (by simp [hc])]
    · intro c hc
      exact bne_iff_ne.mpr fun he => hbody (he ▸ hc)
  exact (dropLineComments_open (body ++ after)).trans (by rw [hskip])

/-- What follows the rest of a line is nothing or starts with a newline. -/
theorem head?_dropWhile_newline (t : Text) :
    (t.dropWhile (· != '\n')).head? = none ∨ (t.dropWhile (· != '\n')).head? = some '\n' := by
  induction t with
  | nil => exact .inl rfl
  | cons c rest ih =>
      by_cases hc : c = '\n'
      · exact .inr (by simp [hc])
      · rwa [List.dropWhile_cons_of_pos (by simpa using hc)]

/-! ## The two passes as one scan -/

theorem lineComments_open {rest after : Text} (h : afterComment? rest = some after) :
    lineComments ('/' :: '*' :: rest) = lineComments after := by
  rw [lineComments]
  split
  next a ha =>
    cases h.symm.trans ha
    rfl
  next ha => cases h.symm.trans ha

theorem lineComments_unclosed {rest : Text} (h : afterComment? rest = none) :
    lineComments ('/' :: '*' :: rest) = lineComments rest := by
  rw [lineComments]
  split
  next a ha => cases h.symm.trans ha
  next => rfl

/-- Both passes together take a sealed line comment out as a whole. -/
theorem code_comment {body after : Text} (hsealed : Sealed ('/' :: '/' :: body) after)
    (hbody : '\n' ∉ body) (hafter : after.head? = none ∨ after.head? = some '\n') :
    code ('/' :: '/' :: body ++ after) = code after := by
  obtain ⟨hslash, hstar⟩ : after.head? ≠ some '/' ∧ after.head? ≠ some '*' := by
    rcases hafter with h | h <;> simp [h]
  have hrest : (dropBlocks after).head? = none ∨ (dropBlocks after).head? = some '\n' := by
    rwa [head?_dropBlocks hslash]
  unfold code
  rcases hsealed with ⟨hmark, hcloses⟩ | hnone
  · -- The block comments of the line comment go, and its two slashes stay.
    have hbodyMark : ¬ ['/', '*'] <+: '/' :: body := by
      rintro ⟨more, hmore⟩
      cases hmore
      exact hmark ⟨more, rfl⟩
    have hslashes : dropBlocks ('/' :: '/' :: body) = '/' :: '/' :: dropBlocks body := by
      rw [dropBlocks_cons (by simp), dropBlocks_cons hbodyMark]
    rw [dropBlocks_append hcloses hstar, hslashes]
    exact dropLineComments_comment (fun hin => hbody ((dropBlocks_sublist body).subset hin)) hrest
  · have hafterNone : ¬ ['*', '/'] <:+: after := fun hin =>
      hnone (hin.trans (List.suffix_append _ _).isInfix)
    rw [dropBlocks_of_notMem hnone, dropBlocks_of_notMem hafterNone]
    exact dropLineComments_comment hbody hafter

/-- If no block comment crosses the ends of a line comment, the two passes take out what one scan
from left to right takes out. -/
theorem code_eq_scanned {t : Text} (h : ∀ x ∈ lineComments t, Sealed x.1 x.2) :
    code t = scanned t := by
  fun_induction scanned t with
  | case1 => rw [code, dropBlocks, dropLineComments]
  | case2 rest ih =>
      rw [lineComments, List.forall_mem_cons] at h
      obtain ⟨hsealed, hmore⟩ := h
      rw [← ih hmore, ← code_comment hsealed ?_ (head?_dropWhile_newline rest)]
      · rw [List.cons_append, List.cons_append, List.takeWhile_append_dropWhile]
      · intro hin
        simpa using List.mem_takeWhile_imp hin
  | case3 rest after hafter ih =>
      rw [lineComments_open hafter] at h
      rw [← ih h, code, code, dropBlocks_open hafter]
  | case4 rest hafter ih =>
      rw [lineComments_unclosed hafter] at h
      -- Nothing closes the comment, so the first pass changes neither the text nor its rest.
      have hrest : dropBlocks rest = rest :=
        dropBlocks_of_notMem (afterComment?_eq_none_iff.mp hafter)
      rw [← ih h, code, code, dropBlocks_unclosed hafter, hrest,
        dropLineComments_cons (by simp), dropLineComments_cons (by simp)]
  | case5 c rest hline hblock ih =>
      have hmore : lineComments (c :: rest) = lineComments rest := by
        rw [lineComments]
        · exact hline
        · exact hblock
      have hopen : ¬ ['/', '*'] <+: c :: rest := by
        rintro ⟨more, hmore⟩
        cases hmore
        exact hblock more rfl rfl
      have hslashes : ¬ ['/', '/'] <+: c :: dropBlocks rest := by
        -- Two slashes that the first pass brings together were together before.
        rintro ⟨more, hmore⟩
        obtain ⟨rfl, hhead⟩ := List.cons.inj hmore
        have hrest : rest.head? = some '/' := by
          by_contra hne
          rw [← head?_dropBlocks hne, ← hhead] at hne
          exact hne rfl
        obtain ⟨tail, rfl⟩ := List.head?_eq_some_iff.mp hrest
        exact hline tail rfl rfl
      rw [hmore] at h
      rw [← ih h, code, code, dropBlocks_cons hopen, dropLineComments_cons hslashes]

/-- A line comment with a block comment in it, before another block comment. -/
theorem code_eq_scanned_nested :
    (lineComments "a// /*b*/c\nd/*e*/".toList ≠ [] ∧
      ∀ x ∈ lineComments "a// /*b*/c\nd/*e*/".toList, Sealed x.1 x.2) ∧
      code "a// /*b*/c\nd/*e*/".toList = scanned "a// /*b*/c\nd/*e*/".toList := by
  have hsealed : lineComments "a// /*b*/c\nd/*e*/".toList ≠ [] ∧
      ∀ x ∈ lineComments "a// /*b*/c\nd/*e*/".toList, Sealed x.1 x.2 := by decide +kernel
  exact ⟨hsealed, code_eq_scanned hsealed.2⟩

/-- A block comment that opens in one line comment and closes in another takes out the code
between the two.  No quotes are in the text. -/
theorem code_crossed :
    (∀ quote ∈ [34, 39, 96], Char.ofNat quote ∉ "// /*\nf()\n// */".toList) ∧
      code "// /*\nf()\n// */".toList = [] ∧
      scanned "// /*\nf()\n// */".toList = "\nf()\n".toList := by
  decide +kernel

end ExtensionAudit.Source
