import Mathlib
import ExtensionAudit.Proofs.Comments

/-!
# What stands between comments

A text is cut at its block comments if each comment opens with the first mark after the piece
before it, closes with the first mark after its opening, and no comment is left in the last piece
(`IsCut`).  Marks can overlap, as in `/*/` and `//*`, and what a comment separates may look like a
mark when it is put together.  Still there is one way only to cut a text, and its pieces are what
`dropBlocks` leaves (`existsUnique_isCut`).
-/

namespace ExtensionAudit.Source

/-- If the mark follows the text, it stands at the end only. -/
def EndsFirst (mark t : Text) : Prop :=
  ∀ front back, t ++ mark = front ++ (mark ++ back) → back = []

/-- The text is cut at its block comments into a first piece and, for each comment, what stands in
it and the piece that follows it. -/
inductive IsCut : Text → List (Text × Text) → Text → Prop
  /-- In the last piece nothing closes a comment that opens. -/
  | last (t : Text) (h : ∀ front back, t = front ++ (['/', '*'] ++ back) → ¬ ['*', '/'] <:+: back) :
      IsCut t [] t
  /-- A piece, a comment, and the cut of the text after it. -/
  | comment (first inside next rest t : Text) (more : List (Text × Text))
      (hfirst : EndsFirst ['/', '*'] first) (hinside : EndsFirst ['*', '/'] inside)
      (ht : t = first ++ (['/', '*'] ++ (inside ++ (['*', '/'] ++ rest))))
      (hrest : IsCut next more rest) : IsCut first ((inside, next) :: more) t

/-! ## The first mark -/

theorem endsFirst_nil (mark : Text) : EndsFirst mark [] := by
  intro front back h
  have hlength := congrArg List.length h
  simp only [List.length_append, List.length_nil] at hlength
  exact List.eq_nil_of_length_eq_zero (by omega)

theorem EndsFirst.cons {mark t after : Text} {c : Char} (h : EndsFirst mark t)
    (hc : ¬ mark <+: c :: (t ++ (mark ++ after))) : EndsFirst mark (c :: t) := by
  intro front back heq
  cases front with
  | nil =>
      refine absurd ⟨back ++ after, ?_⟩ hc
      rw [← List.append_assoc, ← List.nil_append (mark ++ back), ← heq]
      simp
  | cons d front => exact h front back (List.cons.inj heq).2

/-- A mark that stands further on in one of two texts would stand in the middle of the other. -/
theorem EndsFirst.eq_nil {mark s gap t t' : Text} (h : EndsFirst mark (s ++ gap))
    (heq : mark ++ t = gap ++ (mark ++ t')) : gap = [] := by
  have hmark : mark <+: gap ++ mark := by
    refine List.prefix_of_prefix_length_le ⟨t, heq⟩ ⟨t', List.append_assoc ..⟩ ?_
    simp
  obtain ⟨back, hback⟩ := hmark
  obtain rfl := h s back (by rw [List.append_assoc, hback])
  have hlength := congrArg List.length hback
  simp only [List.length_append, List.length_nil] at hlength
  exact List.eq_nil_of_length_eq_zero (by omega)

/-- There is only one first mark. -/
theorem EndsFirst.unique {mark s s' t t' : Text} (h : EndsFirst mark s) (h' : EndsFirst mark s')
    (heq : s ++ (mark ++ t) = s' ++ (mark ++ t')) : s = s' ∧ t = t' := by
  rcases List.append_eq_append_iff.mp heq with ⟨gap, rfl, hgap⟩ | ⟨gap, rfl, hgap⟩
  · obtain rfl := h'.eq_nil hgap
    exact ⟨(List.append_nil s).symm, List.append_cancel_left hgap⟩
  · obtain rfl := h.eq_nil hgap
    exact ⟨List.append_nil s', (List.append_cancel_left hgap).symm⟩

/-- A comment closes with the first mark. -/
theorem endsFirst_of_afterComment? {t after : Text} (h : afterComment? t = some after) :
    ∃ inside, EndsFirst ['*', '/'] inside ∧ t = inside ++ (['*', '/'] ++ after) := by
  fun_induction afterComment? t with
  | case1 => cases h
  | case2 rest =>
      cases h
      exact ⟨[], endsFirst_nil _, rfl⟩
  | case3 c rest hnot ih =>
      have hc : ¬ ['*', '/'] <+: c :: rest := by
        rintro ⟨more, hmore⟩
        cases hmore
        exact hnot more rfl rfl
      obtain ⟨inside, hinside, rfl⟩ := ih h
      exact ⟨c :: inside, hinside.cons hc, rfl⟩

/-! ## Cuts -/

/-- A character that does not open a comment belongs to the first piece. -/
theorem IsCut.cons {c : Char} {first t : Text} {comments : List (Text × Text)}
    (h : IsCut first comments t) (hc : ¬ ['/', '*'] <+: c :: t) :
    IsCut (c :: first) comments (c :: t) := by
  cases h with
  | last _ h =>
      refine .last _ fun front back heq => ?_
      cases front with
      | nil => exact absurd ⟨back, heq.symm⟩ hc
      | cons d front => exact h front back (List.cons.inj heq).2
  | comment _ inside next rest _ more hfirst hinside ht hrest =>
      subst ht
      exact .comment _ inside next rest _ more (hfirst.cons hc) hinside rfl hrest

/-- A text is cut in one way. -/
theorem IsCut.unique {first first' t : Text} {comments comments' : List (Text × Text)}
    (h : IsCut first comments t) (h' : IsCut first' comments' t) :
    first = first' ∧ comments = comments' := by
  induction h generalizing first' comments' with
  | last t hopen =>
      cases h' with
      | last => exact ⟨rfl, rfl⟩
      | comment first' inside next rest _ more _ _ ht _ =>
          exact absurd ⟨inside, rest, by simp⟩ (hopen first' _ ht)
  | comment first inside next rest t more hfirst hinside ht hrest ih =>
      cases h' with
      | last _ hopen => exact absurd ⟨inside, rest, by simp⟩ (hopen first _ ht)
      | comment first' inside' next' rest' _ more' hfirst' hinside' ht' hrest' =>
          obtain ⟨rfl, hinner⟩ := hfirst.unique hfirst' (ht.symm.trans ht')
          obtain ⟨rfl, rfl⟩ := hinside.unique hinside' hinner
          obtain ⟨rfl, rfl⟩ := ih hrest'
          exact ⟨rfl, rfl⟩

/-- A text has a cut, and the pieces are what stays without the comments. -/
theorem exists_isCut (t : Text) :
    ∃ first comments, IsCut first comments t ∧
      dropBlocks t = first ++ comments.flatMap Prod.snd := by
  fun_induction dropBlocks t with
  | case1 => exact ⟨[], [], .last _ (by simp), rfl⟩
  | case2 rest after hafter ih =>
      obtain ⟨inside, hinside, rfl⟩ := endsFirst_of_afterComment? hafter
      obtain ⟨next, more, hcut, hkept⟩ := ih
      exact ⟨[], (inside, next) :: more,
        .comment _ _ _ after _ _ (endsFirst_nil _) hinside rfl hcut, hkept⟩
  | case3 rest hafter =>
      refine ⟨_, [], .last _ fun front back heq hclose => ?_, (List.append_nil _).symm⟩
      have hback : back <:+ rest := by
        refine List.suffix_of_suffix_length_le ⟨front ++ ['/', '*'], by simp [heq]⟩
          (List.suffix_append ['/', '*'] rest) ?_
        have hlength := congrArg List.length heq
        simp only [List.length_append, List.length_cons] at hlength
        omega
      exact afterComment?_eq_none_iff.mp hafter (hclose.trans hback.isInfix)
  | case4 c rest hnot ih =>
      obtain ⟨first, comments, hcut, hkept⟩ := ih
      refine ⟨c :: first, comments, hcut.cons ?_, by rw [hkept]; rfl⟩
      rintro ⟨more, hmore⟩
      cases hmore
      exact hnot more rfl rfl

/-- There is one way only to cut a text at its block comments, and without them its pieces stay.
In a script the line comments are then taken out of what stays. -/
theorem existsUnique_isCut (t : Text) :
    ∃ first comments, IsCut first comments t ∧
      (∀ first' comments', IsCut first' comments' t → first' = first ∧ comments' = comments) ∧
      dropBlocks t = first ++ comments.flatMap Prod.snd ∧
      code t = dropLineComments (first ++ comments.flatMap Prod.snd) := by
  obtain ⟨first, comments, hcut, hkept⟩ := exists_isCut t
  exact ⟨first, comments, hcut, fun _ _ hcut' => hcut'.unique hcut, hkept, by rw [code, hkept]⟩

end ExtensionAudit.Source
