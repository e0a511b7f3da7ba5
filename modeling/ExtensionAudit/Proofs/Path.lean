import Mathlib
import ExtensionAudit.Proofs.Text
import ExtensionAudit.Proofs.Volume.Literal
import ExtensionAudit.Volume.Glob

/-!
# Paths as texts

File name patterns work on the texts of paths.  A text is put together from components and cut
before its last one, and its path is read off it again.  The lemmas here say that none of this
loses anything, as long as the components are names: no slash is in them, and none is empty.
-/

namespace ExtensionAudit

theorem Path.toList_ne_nil {c : String} (hc : isProper c = true) : c.toList ≠ [] :=
  fun h => (isName_of_isProper hc).1 (String.toList_eq_nil_iff.mp h)

/-! ## Reading paths off texts -/

namespace Glob

/-- The components of a text are read off piece by piece. -/
theorem pathOf_eq (t : Text) :
    pathOf t = ((Text.splitAt '/' t).filter (!·.isEmpty)).map String.ofList := by
  rw [pathOf, Path.components, String.toList_ofList]

theorem pathOf_nil : pathOf [] = [] := rfl

theorem pathOf_append_slash (s t : Text) : pathOf (s ++ '/' :: t) = pathOf s ++ pathOf t := by
  rw [pathOf_eq, pathOf_eq, pathOf_eq, Text.splitAt_append, List.filter_append, List.map_append]

theorem pathOf_of_notMem {t : Text} (h : '/' ∉ t) (hne : t ≠ []) :
    pathOf t = [String.ofList t] := by
  rw [pathOf_eq, Text.splitAt_of_notMem h]
  simp [hne]

/-- A proper name is read as itself. -/
theorem pathOf_toList {c : String} (hc : Path.isProper c = true) : pathOf c.toList = [c] := by
  rw [pathOf_of_notMem (Path.slash_notMem_of_isProper hc) (Path.toList_ne_nil hc),
    String.ofList_toList]

theorem slash_notMem_of_mem_pathOf {t : Text} {c : String} (h : c ∈ pathOf t) :
    '/' ∉ c.toList := by
  rw [pathOf_eq] at h
  obtain ⟨piece, hpiece, rfl⟩ := List.mem_map.mp h
  rw [String.toList_ofList]
  exact Text.notMem_of_mem_splitAt (List.mem_filter.mp hpiece).1

/-! ## Joining -/

/-- The text with a slash at its end, unless it is empty or has one. -/
def slashed (t : Text) : Text :=
  if t.isEmpty || t.getLast? == some '/' then t else t ++ ['/']

theorem joinText_eq {b : Text} (hb : b.head? ≠ some '/') (a : Text) :
    joinText a b = slashed a ++ b := by
  rw [joinText, slashed, if_neg (by simpa using hb)]
  split <;> simp

/-- Joining texts joins their paths. -/
theorem pathOf_joinText {b : Text} (hb : b.head? ≠ some '/') (a : Text) :
    pathOf (joinText a b) = pathOf a ++ pathOf b := by
  rw [joinText_eq hb, slashed]
  split
  next h =>
    rw [Bool.or_eq_true, List.isEmpty_iff, beq_iff_eq] at h
    rcases h with rfl | hlast
    · rfl
    · obtain ⟨front, rfl⟩ := List.getLast?_eq_some_iff.mp hlast
      rw [List.append_assoc, List.singleton_append, pathOf_append_slash, pathOf_append_slash,
        pathOf_nil, List.append_nil]
  next => rw [List.append_assoc, List.singleton_append, pathOf_append_slash]

theorem head?_ne_slash {t : Text} (h : '/' ∉ t) : t.head? ≠ some '/' :=
  fun hhead => h (List.mem_of_head? hhead)

theorem pathOf_joinText_name {c : String} (hc : Path.isProper c = true) (a : Text) :
    pathOf (joinText a c.toList) = pathOf a ++ [c] := by
  rw [pathOf_joinText (head?_ne_slash (Path.slash_notMem_of_isProper hc)), pathOf_toList hc]

theorem slashed_append_name {a n : Text} (hn : '/' ∉ n) (hne : n ≠ []) :
    slashed (a ++ n) = a ++ n ++ ['/'] := by
  have hlast : n.getLast? ≠ some '/' := fun h => hn (List.mem_of_getLast? h)
  rw [slashed, if_neg]
  simp [hne, hlast]

theorem slashed_name {n : Text} (hn : '/' ∉ n) (hne : n ≠ []) : slashed n = n ++ ['/'] :=
  @slashed_append_name [] n hn hne

theorem head?_joinText {n y : Text} (hn : '/' ∉ n) (hne : n ≠ []) (hy : y.head? ≠ some '/') :
    (joinText n y).head? ≠ some '/' := by
  rw [joinText_eq hy, slashed_name hn hne]
  cases n with
  | nil => exact absurd rfl hne
  | cons c n =>
      rintro ⟨⟩
      exact hn List.mem_cons_self

theorem joinText_assoc {n y : Text} (hn : '/' ∉ n) (hne : n ≠ []) (hy : y.head? ≠ some '/')
    (a : Text) : joinText a (joinText n y) = joinText (joinText a n) y := by
  rw [joinText_eq (head?_joinText hn hne hy), joinText_eq hy n,
    joinText_eq (head?_ne_slash hn), joinText_eq hy, slashed_append_name hn hne,
    slashed_name hn hne]
  simp

/-- A slash is nothing special in patterns. -/
theorem isPattern_joinText {b : Text} (hb : b.head? ≠ some '/') (a : Text) :
    isPattern (joinText a b) = (isPattern a || isPattern b) := by
  rw [joinText_eq hb, slashed]
  split <;> simp [isPattern]

end Glob

/-! ## Texts of paths -/

namespace Path

/-- The components are names without slashes. -/
def Proper (p : Path) : Prop := ∀ c ∈ p, isProper c = true

theorem Proper.plain {p : Path} (h : Proper p) : p.Plain :=
  fun c hc => isName_of_isProper (h c hc)

theorem proper_append {p q : Path} : Proper (p ++ q) ↔ Proper p ∧ Proper q :=
  List.forall_mem_append

theorem proper_singleton {c : String} : Proper [c] ↔ isProper c = true :=
  List.forall_mem_singleton

/-- The characters of a path's text. -/
def chars (p : Path) : Text := (text p).toList

theorem chars_nil : chars [] = ['/'] := by
  rw [chars, text, String.intercalate_nil]
  rfl

/-- A component more adds a slash, unless it is the first, and its name. -/
theorem chars_concat (p : Path) (c : String) :
    chars (p ++ [c]) = (if p.isEmpty then chars p else chars p ++ ['/']) ++ c.toList := by
  cases p with
  | nil => simp [chars, text]
  | cons first rest =>
      have happend : "/".intercalate (first :: rest ++ [c]) =
          "/".intercalate (first :: rest) ++ "/" ++ c := by
        rw [String.intercalate_append_of_ne_nil (List.cons_ne_nil _ _) (List.cons_ne_nil _ _),
          String.intercalate_singleton]
      have hslash : "/".toList = ['/'] := rfl
      rw [chars, chars, text, text, happend, List.isEmpty_cons, if_neg Bool.false_ne_true]
      simp only [String.toList_append, List.append_assoc, hslash]

/-- The text of a path has no slash at its end, unless the path is that of the root. -/
theorem slashed_chars {p : Path} (hp : p.Proper) :
    Glob.slashed (chars p) = if p.isEmpty then chars p else chars p ++ ['/'] := by
  rcases List.eq_nil_or_concat' p with rfl | ⟨front, c, rfl⟩
  · rw [chars_nil]
    rfl
  · have hc := proper_singleton.mp (proper_append.mp hp).2
    rw [chars_concat,
      Glob.slashed_append_name (slash_notMem_of_isProper hc) (toList_ne_nil hc)]
    simp

theorem chars_append_singleton {p : Path} (hp : p.Proper) {c : String}
    (hc : isProper c = true) : chars (p ++ [c]) = Glob.joinText (chars p) c.toList := by
  rw [Glob.joinText_eq (Glob.head?_ne_slash (slash_notMem_of_isProper hc)), slashed_chars hp,
    chars_concat]

theorem pathOf_chars {p : Path} (hp : p.Proper) : Glob.pathOf (chars p) = p := by
  induction p using List.reverseRecOn with
  | nil =>
      rw [chars_nil]
      rfl
  | append_singleton p c ih =>
      obtain ⟨hp, hc⟩ := proper_append.mp hp
      have hc := proper_singleton.mp hc
      rw [chars_append_singleton hp hc, Glob.pathOf_joinText_name hc, ih hp]

end Path

/-- A text is cut after its last slash, and the slashes before the cut are left out, unless there
is nothing else before it. -/
theorem Glob.splitText_append_slash {c : Text} (hc : '/' ∉ c) (s : Text) :
    splitText (s ++ '/' :: c) =
      if (s ++ ['/']).all (· == '/') then (s ++ ['/'], c)
      else ((s.reverse.dropWhile (· == '/')).reverse, c) := by
  have hkeep : ∀ x ∈ c.reverse, (x != '/') = true := by
    intro x hx
    have hne : x ≠ '/' := fun h => hc (h ▸ List.mem_reverse.mp hx)
    simpa using hne
  have hlast : (s ++ '/' :: c).reverse.takeWhile (· != '/') = c.reverse := by
    rw [List.reverse_append, List.reverse_cons, List.append_assoc,
      List.takeWhile_append_of_pos hkeep]
    simp
  have hhead : (s ++ '/' :: c).take ((s ++ '/' :: c).length - c.length) = s ++ ['/'] := by
    have hcut : s ++ '/' :: c = (s ++ ['/']) ++ c := by simp
    rw [hcut, List.length_append, Nat.add_sub_cancel, List.take_left]
  simp only [splitText, hlast, List.reverse_reverse, hhead]
  congr 2
  simp

namespace Path

/-- A path's text with one more component is cut before that component. -/
theorem splitText_joinText {p : Path} (hp : p.Proper) {c : Text} (hc : '/' ∉ c) :
    Glob.splitText (Glob.joinText (chars p) c) = (chars p, c) := by
  rw [Glob.joinText_eq (Glob.head?_ne_slash hc), slashed_chars hp]
  rcases List.eq_nil_or_concat' p with rfl | ⟨front, name, rfl⟩
  · rw [chars_nil]
    exact Glob.splitText_append_slash hc []
  · have hname := proper_singleton.mp (proper_append.mp hp).2
    obtain ⟨before, last, hlast⟩ :=
      (List.eq_nil_or_concat' name.toList).resolve_left (toList_ne_nil hname)
    have hslash : last ≠ '/' := by
      rintro rfl
      exact slash_notMem_of_isProper hname (hlast ▸ List.mem_append_right _ List.mem_cons_self)
    obtain ⟨rest, hrest⟩ : ∃ rest, chars (front ++ [name]) = rest ++ [last] := by
      rw [chars_concat, hlast, ← List.append_assoc]
      exact ⟨_, rfl⟩
    rw [hrest, if_neg (by simp), List.append_assoc (rest ++ [last]), List.singleton_append,
      Glob.splitText_append_slash hc, if_neg (by simp [hslash])]
    simp [hslash]

end Path

end ExtensionAudit
