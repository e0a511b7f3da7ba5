import Mathlib
import ExtensionAudit.Text.Blank
import ExtensionAudit.Text.Lines

/-!
# Texts as lists

What the searches and cuts of texts mean for the list of characters.
-/

namespace ExtensionAudit.Text

/-! ## Occurrences -/

/-- A text occurs in another iff it is a stretch of it. -/
theorem occursIn_iff (needle t : Text) : occursIn needle t = true ↔ needle <:+: t := by
  induction t with
  | nil => rw [occursIn, List.isEmpty_iff, List.infix_nil]
  | cons c rest ih =>
      rw [occursIn, Bool.or_eq_true, List.isPrefixOf_iff_prefix, ih, List.infix_cons_iff]

theorem occursIn_eq_false {needle t : Text} : occursIn needle t = false ↔ ¬ needle <:+: t := by
  rw [← Bool.not_eq_true, occursIn_iff]

/-- A text that has another character does not occur. -/
theorem occursIn_of_notMem {needle t : Text} {c : Char} (hc : c ∈ needle) (ht : c ∉ t) :
    occursIn needle t = false :=
  occursIn_eq_false.mpr fun h => ht (h.mem hc)

/-- A text that occurs in two together occurs in one of them, or the cut between them is inside. -/
theorem cut_of_infix_append {needle front back : Text} (h : needle <:+: front ++ back) :
    needle <:+: front ∨ needle <:+: back ∨
      ∃ n ≤ needle.length, needle.take n <:+ front ∧ needle.drop n <+: back := by
  rcases List.infix_append_iff.mp h with h | h | ⟨first, second, rfl, hfirst, hsecond⟩
  · exact .inl h
  · exact .inr (.inl h)
  · exact .inr (.inr ⟨first.length, by simp, by simpa using hfirst, by simpa using hsecond⟩)

/-- A separator that is found stands between the two parts. -/
theorem eq_of_breakOn {sep t before after : Text} (h : breakOn sep t = some (before, after)) :
    t = before ++ (sep ++ after) := by
  induction t generalizing before with
  | nil =>
      rw [breakOn] at h
      split at h
      next hsep =>
          cases h
          rw [List.isEmpty_iff.mp hsep]
          rfl
      next => cases h
  | cons c rest ih =>
      rw [breakOn] at h
      split at h
      next hsep =>
          cases h
          obtain ⟨after, hafter⟩ := List.isPrefixOf_iff_prefix.mp hsep
          rw [← hafter, List.drop_left]
          rfl
      next =>
          obtain ⟨cut, hcut, heq⟩ := Option.map_eq_some_iff.mp h
          cases heq
          rw [List.cons_append, ← ih hcut]

/-- A text is not broken iff the separator is no part of it. -/
theorem breakOn_eq_none_iff {sep t : Text} : breakOn sep t = none ↔ ¬ sep <:+: t := by
  induction t with
  | nil =>
      rw [breakOn, List.infix_nil]
      split
      next hsep => simp [List.isEmpty_iff.mp hsep]
      next hsep => simp [mt List.isEmpty_iff.mpr hsep]
  | cons c rest ih =>
      rw [breakOn, List.infix_cons_iff, ← List.isPrefixOf_iff_prefix]
      split
      next hsep => simp [hsep]
      next hsep => simp [hsep, ih]

/-- A part that is not empty is counted. -/
theorem occurrences_pos {sep t : Text} (hsep : sep ≠ []) (h : sep <:+: t) :
    0 < occurrences sep t := by
  induction t with
  | nil => exact absurd (List.infix_nil.mp h) hsep
  | cons c rest ih =>
      rw [occurrences]
      rcases List.infix_cons_iff.mp h with hhere | hlater
      · rw [if_pos (List.isPrefixOf_iff_prefix.mpr hhere)]
        omega
      · exact Nat.add_pos_right _ (ih hlater)

/-- The only occurrence of a separator is the one that is found. -/
theorem breakOn_of_occurrences_le_one {sep front rest : Text} (hsep : sep ≠ [])
    (h : occurrences sep (front ++ (sep ++ rest)) ≤ 1) :
    breakOn sep (front ++ (sep ++ rest)) = some (front, rest) := by
  induction front with
  | nil =>
      obtain ⟨c, more, rfl⟩ := List.exists_cons_of_ne_nil hsep
      simp [breakOn]
  | cons c front ih =>
      have hlater : 0 < occurrences sep (front ++ (sep ++ rest)) :=
        occurrences_pos hsep ⟨front, rest, by simp⟩
      rw [List.cons_append, occurrences] at h
      rw [List.cons_append, breakOn]
      split at h
      next => omega
      next hhere =>
          rw [if_neg hhere, ih (by omega)]
          rfl

theorem breakAt_cons (sep c : Char) (rest : Text) :
    breakAt sep (c :: rest) =
      if c = sep then some ([], rest)
      else (breakAt sep rest).map fun cut => (c :: cut.1, cut.2) := by
  by_cases h : c = sep
  · simp [breakAt, breakOn, h]
  · simp [breakAt, breakOn, h, Ne.symm h]

/-- The first occurrence of a character has none before it. -/
theorem breakAt_eq_some_iff {sep : Char} {t before after : Text} :
    breakAt sep t = some (before, after) ↔ sep ∉ before ∧ t = before ++ sep :: after := by
  induction t generalizing before with
  | nil => simp [breakAt, breakOn]
  | cons c rest ih =>
      rw [breakAt_cons]
      by_cases hc : c = sep
      · subst hc
        cases before with
        | nil => simp
        | cons b before => simp +contextual
      · cases before with
        | nil => simp [hc]
        | cons b before =>
            rw [if_neg hc, Option.map_eq_some_iff]
            constructor
            · rintro ⟨cut, hcut, heq⟩
              cases heq
              obtain ⟨hmem, rfl⟩ := ih.mp hcut
              exact ⟨by simp [Ne.symm hc, hmem], rfl⟩
            · rintro ⟨hmem, heq⟩
              cases heq
              refine ⟨(before, after), ih.mpr ⟨?_, rfl⟩, rfl⟩
              exact fun h => hmem (List.mem_cons_of_mem _ h)

theorem breakAt_eq_none_iff {sep : Char} {t : Text} : breakAt sep t = none ↔ sep ∉ t := by
  induction t with
  | nil => simp [breakAt, breakOn]
  | cons c rest ih =>
      rw [breakAt_cons]
      by_cases hc : c = sep
      · simp [hc]
      · simp [hc, Ne.symm hc, ih]

/-! ## Pieces -/

theorem splitAt_ne_nil (sep : Char) (t : Text) : splitAt sep t ≠ [] := by
  cases t with
  | nil => exact List.cons_ne_nil _ _
  | cons c rest =>
      rw [splitAt]
      split
      · exact List.cons_ne_nil _ _
      · split <;> exact List.cons_ne_nil _ _

/-- A text is cut before each separator. -/
theorem splitAt_append (sep : Char) (s t : Text) :
    splitAt sep (s ++ sep :: t) = splitAt sep s ++ splitAt sep t := by
  induction s with
  | nil =>
      obtain ⟨piece, pieces, ht⟩ := List.exists_cons_of_ne_nil (splitAt_ne_nil sep t)
      simp [splitAt, ht]
  | cons c rest ih =>
      obtain ⟨piece, pieces, hrest⟩ := List.exists_cons_of_ne_nil (splitAt_ne_nil sep rest)
      rw [List.cons_append, splitAt, ih, splitAt, hrest, List.cons_append]
      dsimp only
      split <;> rfl

/-- A text without the separator is one piece. -/
theorem splitAt_of_notMem {sep : Char} {t : Text} (h : sep ∉ t) : splitAt sep t = [t] := by
  induction t with
  | nil => rfl
  | cons c rest ih =>
      obtain ⟨hc, hrest⟩ := not_or.mp (List.mem_cons.not.mp h)
      rw [splitAt, ih hrest]
      exact if_neg (by simpa using Ne.symm hc)

/-- A text without the separator goes in front of the first piece. -/
theorem splitAt_append_of_notMem {sep : Char} {s : Text} (h : sep ∉ s) (t : Text) :
    splitAt sep (s ++ t) = (s ++ (splitAt sep t).headD []) :: (splitAt sep t).tail := by
  induction s with
  | nil =>
      obtain ⟨piece, pieces, ht⟩ := List.exists_cons_of_ne_nil (splitAt_ne_nil sep t)
      simp [ht]
  | cons c s ih =>
      obtain ⟨hc, hs⟩ := not_or.mp (List.mem_cons.not.mp h)
      rw [List.cons_append, splitAt, ih hs]
      exact if_neg (by simpa using Ne.symm hc)

/-- No piece holds the separator. -/
theorem notMem_of_mem_splitAt {sep : Char} {t piece : Text} (h : piece ∈ splitAt sep t) :
    sep ∉ piece := by
  induction t generalizing piece with
  | nil =>
      rw [List.mem_singleton.mp h]
      exact List.not_mem_nil
  | cons c rest ih =>
      obtain ⟨first, more, hrest⟩ := List.exists_cons_of_ne_nil (splitAt_ne_nil sep rest)
      rw [splitAt, hrest] at h
      rw [hrest] at ih
      dsimp only at h
      split at h
      next =>
        rcases List.mem_cons.mp h with rfl | hmem
        · exact List.not_mem_nil
        · exact ih hmem
      next hc =>
        rcases List.mem_cons.mp h with rfl | hmem
        · refine List.mem_cons.not.mpr (not_or.mpr ⟨?_, ih List.mem_cons_self⟩)
          exact fun he => hc (beq_iff_eq.mpr he.symm)
        · exact ih (List.mem_cons_of_mem _ hmem)

/-! ## Joined texts -/

theorem join_cons_cons (sep t u : Text) (ts : List Text) :
    join sep (t :: u :: ts) = t ++ sep ++ join sep (u :: ts) := by
  rw [join, join, List.intercalate_cons_cons]

/-- A separator stands between two lists that are joined. -/
theorem join_append (sep : Text) {ts us : List Text} (hts : ts ≠ []) (hus : us ≠ []) :
    join sep (ts ++ us) = join sep ts ++ (sep ++ join sep us) := by
  induction ts with
  | nil => exact absurd rfl hts
  | cons t ts ih =>
      cases ts with
      | nil =>
          obtain ⟨u, us, rfl⟩ := List.exists_cons_of_ne_nil hus
          simp [join]
      | cons t' ts =>
          rw [List.cons_append, List.cons_append, join_cons_cons, join_cons_cons,
            ← List.cons_append, ih (List.cons_ne_nil _ _)]
          simp

/-- Texts without the separator are the pieces of what they are joined to. -/
theorem splitAt_join {sep : Char} {ts : List Text} (hne : ts ≠ []) (h : ∀ t ∈ ts, sep ∉ t) :
    splitAt sep (join [sep] ts) = ts := by
  induction ts with
  | nil => exact absurd rfl hne
  | cons t ts ih =>
      obtain ⟨ht, hts⟩ := List.forall_mem_cons.mp h
      cases ts with
      | nil => simpa [join] using splitAt_of_notMem ht
      | cons u ts =>
          rw [join_cons_cons, List.append_assoc, List.singleton_append, splitAt_append,
            splitAt_of_notMem ht, ih (List.cons_ne_nil _ _) hts, List.singleton_append]

/-- The pieces of a text are joined to the text again. -/
theorem join_splitAt (sep : Char) (t : Text) : join [sep] (splitAt sep t) = t := by
  induction t with
  | nil => rfl
  | cons c rest ih =>
      obtain ⟨piece, pieces, hrest⟩ := List.exists_cons_of_ne_nil (splitAt_ne_nil sep rest)
      rw [hrest] at ih
      rw [splitAt, hrest]
      dsimp only
      split
      next hc =>
          rw [join_cons_cons, ih, beq_iff_eq.mp hc]
          rfl
      next =>
          cases pieces with
          | nil => simpa [join] using ih
          | cons piece' pieces => simpa [join_cons_cons] using ih

/-- What holds of the characters of all parts holds of those of the whole. -/
theorem forall_mem_join {p : Char → Prop} {sep : Text} {ts : List Text} (hsep : ∀ c ∈ sep, p c)
    (h : ∀ t ∈ ts, ∀ c ∈ t, p c) : ∀ c ∈ join sep ts, p c := by
  induction ts with
  | nil => simp [join]
  | cons t ts ih =>
      obtain ⟨ht, hts⟩ := List.forall_mem_cons.mp h
      cases ts with
      | nil => simpa [join] using ht
      | cons u ts =>
          rw [join_cons_cons, List.forall_mem_append, List.forall_mem_append]
          exact ⟨⟨ht, hsep⟩, ih hts⟩

/-! ## Trimmed texts -/

theorem trimBackOf_eq (p : Char → Bool) (t : Text) : trimBackOf p t = t.rdropWhile p := rfl

theorem trimOf_sublist (p : Char → Bool) (t : Text) : (trimOf p t).Sublist t := by
  rw [trimOf, trimBackOf_eq]
  exact (List.rdropWhile_prefix p _).sublist.trans (List.dropWhile_sublist p)

/-- Trimming once is enough. -/
theorem trimOf_trimOf (p : Char → Bool) (t : Text) : trimOf p (trimOf p t) = trimOf p t := by
  have hfront : trimFrontOf p (trimOf p t) = trimOf p t := by
    have hpre : trimOf p t <+: t.dropWhile p := List.rdropWhile_prefix p _
    rw [trimFrontOf, List.dropWhile_eq_self_iff]
    intro hl
    rw [hpre.getElem hl]
    exact List.dropWhile_eq_self_iff.mp (List.dropWhile_idempotent p t) _
  calc trimOf p (trimOf p t)
      = trimBackOf p (trimOf p t) := by rw [trimOf, hfront]
    _ = trimOf p t := List.rdropWhile_idempotent p _

/-- Characters of the class do not count at the front. -/
theorem trimOf_append_left {p : Char → Bool} {front : Text} (h : ∀ c ∈ front, p c = true)
    (t : Text) : trimOf p (front ++ t) = trimOf p t := by
  rw [trimOf, trimFrontOf, List.dropWhile_append_of_pos h, trimOf, trimFrontOf]

/-- Characters of the class do not count at the back. -/
theorem trimOf_append_right {p : Char → Bool} {back : Text} (h : ∀ c ∈ back, p c = true)
    (t : Text) : trimOf p (t ++ back) = trimOf p t := by
  have hback : ∀ s, trimBackOf p (s ++ back) = trimBackOf p s := by
    intro s
    rw [trimBackOf, List.reverse_append, List.dropWhile_append_of_pos (by simpa using h),
      trimBackOf]
  rw [trimOf, trimFrontOf, List.dropWhile_append, trimOf, trimFrontOf]
  split
  next hnone =>
    rw [List.isEmpty_iff.mp hnone, List.dropWhile_eq_nil_iff.mpr h]
  next => exact hback _

/-- A text whose ends are not of the class stays as it is. -/
theorem trimOf_eq_self {p : Char → Bool} {t : Text} (hfirst : t.head?.any p = false)
    (hlast : t.getLast?.any p = false) : trimOf p t = t := by
  cases t with
  | nil => rfl
  | cons c rest =>
      rw [trimOf, trimFrontOf, List.dropWhile_cons_of_neg (by simpa using hfirst), trimBackOf_eq,
        List.rdropWhile_eq_self_iff]
      intro hne
      rw [List.getLast?_eq_some_getLast hne] at hlast
      simpa using hlast

/-- A first character that is not of the class stays the first one. -/
theorem head?_trimOf_cons {p : Char → Bool} {c : Char} (h : p c = false) (t : Text) :
    (trimOf p (c :: t)).head? = some c := by
  rw [trimOf, trimFrontOf, List.dropWhile_cons_of_neg (by simpa using h), trimBackOf_eq]
  have hne : (c :: t).rdropWhile p ≠ [] := by
    intro hnil
    have hall := List.rdropWhile_eq_nil_iff.mp hnil c List.mem_cons_self
    exact Bool.false_ne_true (h.symm.trans hall)
  obtain ⟨first, more, heq⟩ := List.exists_cons_of_ne_nil hne
  obtain ⟨back, hback⟩ := List.rdropWhile_prefix p (c :: t)
  rw [heq, List.cons_append] at hback
  rw [heq, List.head?_cons, (List.cons.inj hback).1]

/-! ## Lines -/

/-- A line ends at its first newline. -/
theorem newlineLines_append {l : Text} (h : '\n' ∉ l) (rest : Text) :
    newlineLines (l ++ '\n' :: rest) = (l ++ ['\n']) :: newlineLines rest := by
  induction l with
  | nil => simp [newlineLines]
  | cons c l ih =>
      obtain ⟨hc, hl⟩ := not_or.mp (List.mem_cons.not.mp h)
      rw [List.cons_append, newlineLines, ih hl, if_neg (by simpa using Ne.symm hc)]
      rfl

/-- A text without newlines that is not empty is one line. -/
theorem newlineLines_of_notMem {t : Text} (h : '\n' ∉ t) (hne : t ≠ []) :
    newlineLines t = [t] := by
  induction t with
  | nil => exact absurd rfl hne
  | cons c rest ih =>
      obtain ⟨hc, hrest⟩ := not_or.mp (List.mem_cons.not.mp h)
      rw [newlineLines, if_neg (by simpa using Ne.symm hc)]
      cases rest with
      | nil => rfl
      | cons d rest => rw [ih hrest (List.cons_ne_nil _ _)]

/-! ## Numbers of lines -/

/-- An element has the number that is one more than its place. -/
theorem getElem?_numbered {α : Type} (xs : List α) (i : Nat) :
    (numbered xs)[i]? = xs[i]?.map fun x => (i + 1, x) := by
  unfold numbered
  rw [List.getElem?_map, List.getElem?_zipIdx, Option.map_map]
  cases xs[i]? with
  | none => rfl
  | some x =>
      rw [Option.map_some, Option.map_some, Function.comp_apply, Nat.add_comm]

/-- The numbers go up from one. -/
theorem map_fst_numbered {α : Type} (xs : List α) :
    (numbered xs).map Prod.fst = List.range' 1 xs.length := by
  rw [numbered, List.map_map]
  exact List.zipIdx_map_snd 1 xs

theorem map_snd_numbered {α : Type} (xs : List α) : (numbered xs).map Prod.snd = xs := by
  rw [numbered, List.map_map]
  exact List.zipIdx_map_fst 1 xs

theorem nodup_numbered {α : Type} (xs : List α) : (numbered xs).Nodup := by
  apply List.Nodup.of_map Prod.fst
  rw [map_fst_numbered]
  exact List.nodup_range'

/-! ## The order of texts -/

/-- The order of texts is the lexicographic order of their characters. -/
theorem precedes_iff (s t : Text) : precedes s t = true ↔ s < t := by
  induction s generalizing t with
  | nil =>
      cases t with
      | nil => simp [precedes]
      | cons b t => simp [precedes]
  | cons a s ih =>
      cases t with
      | nil => simp [precedes]
      | cons b t =>
          rw [precedes, Bool.or_eq_true, Bool.and_eq_true, ih, List.cons_lt_cons_iff,
            decide_eq_true_eq, beq_iff_eq]
          rfl

end ExtensionAudit.Text
