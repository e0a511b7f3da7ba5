import Mathlib
import ExtensionAudit.Proofs.Comments
import ExtensionAudit.Proofs.Text
import ExtensionAudit.Proofs.Trace
import ExtensionAudit.Resource.Scan
import ExtensionAudit.Startup

/-!
# Reported places

Places are reported by the numbers of lines of the code, which has lost its comments.  A line
comment stays on its line.  A block comment takes the newlines in it along, and every line after
it gets too small a number.

If each block comment of a text closes on the line on which it opens, the lines of the code are
the lines of the text, each without its comments (`splitAt_code`).  Then a reported number is the
number of a line of the file.
-/

namespace ExtensionAudit

/-! ## Lines -/

namespace Text

/-- No character but a newline ends a line. -/
def OnlyNewlines (t : Text) : Prop := ∀ c ∈ t, isLineEnd c = true → c = '\n'

instance (t : Text) : Decidable t.OnlyNewlines :=
  decidable_of_iff (t.all fun c => !isLineEnd c || c == '\n')
    (by simp [OnlyNewlines, imp_iff_not_or])

theorem OnlyNewlines.of_cons {c : Char} {rest : Text} (h : OnlyNewlines (c :: rest)) :
    OnlyNewlines rest := fun d hd => h d (List.mem_cons_of_mem c hd)

theorem OnlyNewlines.of_sublist {s t : Text} (h : OnlyNewlines t) (hs : s.Sublist t) :
    OnlyNewlines s := fun c hc => h c (hs.subset hc)

theorem lines_newline (rest : Text) : lines ('\n' :: rest) = [] :: lines rest := by
  rw [lines, linesWithEnds]
  · rfl
  · simp

/-- A character that ends no line is put before the first line. -/
theorem lines_cons {c : Char} (hc : isLineEnd c = false) (rest : Text) :
    lines (c :: rest) =
      match lines rest with
      | [] => [[c]]
      | line :: more => (c :: line) :: more := by
  have hdrop : ∀ line, dropLineEnd (c :: line) = c :: dropLineEnd line := fun line => by
    simp [dropLineEnd, hc]
  rw [lines, lines, linesWithEnds]
  · rw [if_neg (by simp [hc])]
    cases linesWithEnds rest with
    | nil => simp [dropLineEnd, hc]
    | cons line more => simp [hdrop]
  · rintro more rfl
    cases hc

/-- The lines of a text are its pieces between newlines.  Only an empty last piece is no line. -/
theorem splitAt_eq_lines {t : Text} (h : OnlyNewlines t) :
    splitAt '\n' t = lines t ++ [[]] ∨
      splitAt '\n' t = lines t ∧ (splitAt '\n' t).getLast? ≠ some [] := by
  induction t with
  | nil => exact .inl rfl
  | cons c rest ih =>
      obtain ⟨piece, pieces, hrest⟩ := List.exists_cons_of_ne_nil (splitAt_ne_nil '\n' rest)
      have ih := ih h.of_cons
      by_cases hc : c = '\n'
      · subst hc
        have hsplit : splitAt '\n' ('\n' :: rest) = [] :: splitAt '\n' rest := by
          rw [splitAt, hrest]
          rfl
        rw [hsplit, lines_newline]
        rcases ih with heq | ⟨heq, hlast⟩
        · exact .inl (by rw [heq]; rfl)
        · refine .inr ⟨by rw [heq], ?_⟩
          rwa [hrest, List.getLast?_cons_cons, ← hrest]
      · have hend : isLineEnd c = false :=
          Bool.eq_false_iff.mpr fun hend => hc (h c List.mem_cons_self hend)
        have hsplit : splitAt '\n' (c :: rest) = (c :: piece) :: pieces := by
          rw [splitAt, hrest]
          exact if_neg (by simpa using hc)
        rw [hsplit, lines_cons hend]
        rcases ih with heq | ⟨heq, hlast⟩
        · cases hlines : lines rest with
          | nil =>
              rw [hrest, hlines] at heq
              cases heq
              exact .inr ⟨rfl, by simp⟩
          | cons line more =>
              rw [hrest, hlines] at heq
              cases heq
              exact .inl rfl
        · rw [← heq, hrest]
          refine .inr ⟨rfl, ?_⟩
          rw [hrest] at hlast
          cases pieces with
          | nil => simp
          | cons next pieces => exact hlast

/-- A function that works line by line maps the pieces of a text.  `P` is what it needs. -/
theorem splitAt_map {f : Text → Text} {P : Text → Prop}
    (hline : ∀ line, '\n' ∉ line → '\n' ∉ f line)
    (hrest : ∀ line rest, P (line ++ '\n' :: rest) → '\n' ∉ line →
      f (line ++ '\n' :: rest) = f line ++ '\n' :: f rest ∧ P rest) {t : Text} (h : P t) :
    splitAt '\n' (f t) = (splitAt '\n' t).map f := by
  induction hlength : t.length using Nat.strong_induction_on generalizing t with
  | _ n ih =>
      subst hlength
      by_cases hnew : '\n' ∈ t
      · obtain ⟨line, rest, rfl, hnot⟩ := List.eq_append_cons_of_mem hnew
        obtain ⟨heq, hmore⟩ := hrest line rest h hnot
        have hshort : rest.length < (line ++ '\n' :: rest).length := by
          rw [List.length_append, List.length_cons]
          omega
        rw [heq, splitAt_append, splitAt_append, splitAt_of_notMem (hline line hnot),
          splitAt_of_notMem hnot, List.map_append, List.map_singleton, ih _ hshort hmore rfl]
      · rw [splitAt_of_notMem (hline t hnew), splitAt_of_notMem hnew, List.map_singleton]

end Text

namespace Source

/-! ## Block comments on one line -/

/-- The block comments of a text, from mark to mark. -/
def blockComments : Text → List Text
  | [] => []
  | '/' :: '*' :: rest =>
      match _h : afterComment? rest with
      | some after =>
          ('/' :: '*' :: rest.take (rest.length - after.length)) :: blockComments after
      | none => []
  | _ :: rest => blockComments rest
termination_by t => t.length
decreasing_by
  · have := length_of_afterComment? _h
    simp
    omega
  · simp

/-- Every block comment closes on the line on which it opens. -/
def OneLineBlocks (t : Text) : Prop := ∀ comment ∈ blockComments t, '\n' ∉ comment

instance (t : Text) : Decidable (OneLineBlocks t) :=
  inferInstanceAs (Decidable (∀ comment ∈ blockComments t, '\n' ∉ comment))

/-- A block comment at the front is the first one. -/
theorem blockComments_open {inside after : Text}
    (h : afterComment? (inside ++ '*' :: '/' :: after) = some after) :
    blockComments ('/' :: '*' :: (inside ++ '*' :: '/' :: after)) =
      ('/' :: '*' :: inside ++ ['*', '/']) :: blockComments after := by
  have htake : (inside ++ '*' :: '/' :: after).take
      ((inside ++ '*' :: '/' :: after).length - after.length) = inside ++ ['*', '/'] := by
    have hcut : inside ++ '*' :: '/' :: after = (inside ++ ['*', '/']) ++ after := by simp
    rw [hcut, List.length_append, Nat.add_sub_cancel, List.take_left]
  rw [blockComments]
  split
  next a ha =>
    cases h.symm.trans ha
    rw [htake]
    rfl
  next ha => cases h.symm.trans ha

theorem blockComments_cons {c : Char} {rest : Text} (h : ¬ ['/', '*'] <+: c :: rest) :
    blockComments (c :: rest) = blockComments rest := by
  rw [blockComments]
  rintro more rfl rfl
  exact h ⟨more, rfl⟩

theorem blockComments_of_notMem {t : Text} (h : ¬ ['*', '/'] <:+: t) : blockComments t = [] := by
  fun_induction blockComments t with
  | case1 => rfl
  | case2 rest after hafter ih =>
      obtain ⟨inside, rfl⟩ := exists_of_afterComment? hafter
      exact absurd ⟨'/' :: '*' :: inside, after, by simp⟩ h
  | case3 rest hafter => rfl
  | case4 c rest hnot ih => exact ih fun hin => h (hin.trans (List.suffix_cons c rest).isInfix)

/-- A comment that does not close on its line goes on after the newline. -/
theorem exists_of_crossing {line rest inside after : Text} (hopen : ¬ ['*', '/'] <:+: line)
    (h : line ++ '\n' :: rest = inside ++ '*' :: '/' :: after) :
    ∃ more, inside = line ++ '\n' :: more ∧ rest = more ++ '*' :: '/' :: after := by
  rcases List.append_eq_append_iff.mp h with ⟨more, rfl, hmore⟩ | ⟨more, rfl, hmore⟩
  · cases more with
    | nil => cases hmore
    | cons c more =>
        cases hmore
        exact ⟨more, rfl, rfl⟩
  · -- The closing mark would stand before the newline, or half on each side of it.
    cases more with
    | nil => cases hmore
    | cons c more =>
        obtain ⟨rfl, hslash⟩ := List.cons.inj hmore
        cases more with
        | nil => cases hslash
        | cons d more =>
            obtain ⟨rfl, -⟩ := List.cons.inj hslash
            exact absurd ⟨inside, more, by simp⟩ hopen

/-- If no block comment crosses the end of a line, the line and the rest lose theirs apart. -/
theorem dropBlocks_line {line rest : Text} (h : OneLineBlocks (line ++ '\n' :: rest))
    (hline : '\n' ∉ line) :
    dropBlocks (line ++ '\n' :: rest) = dropBlocks line ++ '\n' :: dropBlocks rest ∧
      OneLineBlocks rest := by
  have hnewline : ¬ ['/', '*'] <+: '\n' :: rest := by simp
  fun_induction dropBlocks line with
  | case1 =>
      rw [List.nil_append, OneLineBlocks, blockComments_cons hnewline] at h
      exact ⟨dropBlocks_cons hnewline, h⟩
  | case2 line after hafter ih =>
      have hlong := afterComment?_append hafter ('\n' :: rest)
      have hblocks : OneLineBlocks (after ++ '\n' :: rest) := by
        obtain ⟨inside, rfl⟩ := exists_of_afterComment? hafter
        have heq : '/' :: '*' :: (inside ++ '*' :: '/' :: after) ++ '\n' :: rest =
            '/' :: '*' :: (inside ++ '*' :: '/' :: (after ++ '\n' :: rest)) := by simp
        rw [List.append_assoc, List.cons_append, List.cons_append] at hlong
        rw [heq, OneLineBlocks, blockComments_open hlong, List.forall_mem_cons] at h
        exact h.2
      have hshort : '\n' ∉ after := by
        obtain ⟨inside, rfl⟩ := exists_of_afterComment? hafter
        exact fun hin => hline (by simp [hin])
      obtain ⟨heq, hrest⟩ := ih hblocks hshort
      exact ⟨(dropBlocks_open hlong).trans heq, hrest⟩
  | case3 line hopen =>
      have hnone := afterComment?_eq_none_iff.mp hopen
      cases hclose : afterComment? (line ++ '\n' :: rest) with
      | some after =>
          -- The comment crosses the end of the line, against what is given.
          obtain ⟨inside, hinside⟩ := exists_of_afterComment? hclose
          obtain ⟨more, rfl, -⟩ := exists_of_crossing hnone hinside
          rw [List.cons_append, List.cons_append, hinside] at h
          rw [hinside] at hclose
          rw [OneLineBlocks, blockComments_open hclose, List.forall_mem_cons] at h
          exact absurd (by simp) h.1
      | none =>
          have hrest : ¬ ['*', '/'] <:+: rest := fun hin => by
            refine afterComment?_eq_none_iff.mp hclose (hin.trans ?_)
            exact ⟨line ++ ['\n'], [], by simp⟩
          constructor
          · rw [dropBlocks_of_notMem hrest]
            exact dropBlocks_unclosed hclose
          · rw [OneLineBlocks, blockComments_of_notMem hrest]
            exact List.forall_mem_nil _
  | case4 c line hnot ih =>
      have hopen : ¬ ['/', '*'] <+: c :: line := by
        rintro ⟨more, hmore⟩
        cases hmore
        exact hnot more rfl rfl
      have hlong := not_open_append (t := '\n' :: rest) hopen (by simp)
      rw [List.cons_append, OneLineBlocks, blockComments_cons hlong] at h
      obtain ⟨heq, hrest⟩ := ih h fun hin => hline (List.mem_cons_of_mem c hin)
      exact ⟨by rw [List.cons_append, dropBlocks_cons hlong, heq, List.cons_append], hrest⟩

/-- Line comments end with their lines. -/
theorem dropLineComments_line (line rest : Text) :
    dropLineComments (line ++ '\n' :: rest) =
      dropLineComments line ++ '\n' :: dropLineComments rest := by
  fun_induction dropLineComments line with
  | case1 => exact dropLineComments_cons (by simp)
  | case2 line ih =>
      have hskip : (line ++ '\n' :: rest).dropWhile (· != '\n') =
          line.dropWhile (· != '\n') ++ '\n' :: rest := by
        rw [List.dropWhile_append]
        split
        next hempty => rw [List.isEmpty_iff.mp hempty, List.dropWhile_cons_of_neg (by simp)]; rfl
        next => rfl
      rw [List.cons_append, List.cons_append, dropLineComments_open, hskip, ih]
  | case3 c line hnot ih =>
      have hlong : ¬ ['/', '/'] <+: c :: (line ++ '\n' :: rest) := by
        rintro ⟨more, hmore⟩
        cases line with
        | nil => cases hmore
        | cons d line =>
            cases hmore
            exact hnot line rfl rfl
      rw [List.cons_append, dropLineComments_cons hlong, ih, List.cons_append]

theorem dropLineComments_sublist (t : Text) : (dropLineComments t).Sublist t := by
  fun_induction dropLineComments t with
  | case1 => exact List.Sublist.refl _
  | case2 rest ih =>
      exact ih.trans (((List.dropWhile_sublist _).cons _).cons _)
  | case3 c rest hnot ih => exact ih.cons_cons c

theorem code_sublist (t : Text) : (code t).Sublist t :=
  (dropLineComments_sublist _).trans (dropBlocks_sublist t)

/-- The lines of the code are the lines of the text, each without its comments. -/
theorem splitAt_code {t : Text} (h : OneLineBlocks t) :
    Text.splitAt '\n' (code t) = (Text.splitAt '\n' t).map code := by
  refine Text.splitAt_map (P := OneLineBlocks) (fun line hline hin => ?_)
    (fun line rest hblocks hline => ?_) h
  · exact hline ((code_sublist line).subset hin)
  · obtain ⟨heq, hrest⟩ := dropBlocks_line hblocks hline
    exact ⟨by rw [code, heq, dropLineComments_line]; rfl, hrest⟩

theorem code_nil : code [] = [] := by rw [code, dropBlocks, dropLineComments]

/-- A line of the code is the line of the text with the same number, without its comments. -/
theorem getElem?_lines_code {t line : Text} (hnewlines : Text.OnlyNewlines t)
    (hblocks : OneLineBlocks t) {i : Nat} (h : (Text.lines (code t))[i]? = some line) :
    ∃ whole, (Text.lines t)[i]? = some whole ∧ code whole = line := by
  have hpieces := splitAt_code hblocks
  have hcode := Text.splitAt_eq_lines (hnewlines.of_sublist (code_sublist t))
  rw [hpieces] at hcode
  rcases Text.splitAt_eq_lines hnewlines with heq | ⟨heq, -⟩
  · -- The empty piece after the last newline is there in the code too.
    rw [heq, List.map_append, List.map_singleton, code_nil] at hcode
    have hlines : (Text.lines t).map code = Text.lines (code t) := by
      rcases hcode with hsame | ⟨-, hlast⟩
      · exact List.append_cancel_right hsame
      · exact absurd List.getLast?_concat hlast
    rwa [← hlines, List.getElem?_map, Option.map_eq_some_iff] at h
  · rw [heq] at hcode
    have hpiece : ((Text.lines t).map code)[i]? = some line := by
      rcases hcode with hmore | ⟨hsame, -⟩
      · rw [hmore, List.getElem?_append_left (List.getElem?_eq_some_iff.mp h).1, h]
      · rw [hsame, h]
    rwa [List.getElem?_map, Option.map_eq_some_iff] at hpiece

/-! ## Lines by number -/

/-- The line of a text with a number, counted from one. -/
def LineAt (t : Text) (n : Nat) (line : Text) : Prop :=
  ∃ i, n = i + 1 ∧ (Text.lines t)[i]? = some line

/-- The numbered lines are the lines at their numbers. -/
theorem mem_numbered_lines {t line : Text} {n : Nat} :
    (n, line) ∈ Text.numbered (Text.lines t) ↔ LineAt t n line := by
  rw [List.mem_iff_getElem?]
  refine exists_congr fun i => ?_
  rw [Text.getElem?_numbered, Option.map_eq_some_iff]
  constructor
  · rintro ⟨_, hline, hpair⟩
    cases hpair
    exact ⟨rfl, hline⟩
  · rintro ⟨rfl, hline⟩
    exact ⟨line, hline, rfl⟩

theorem lineAt_of_code {t line : Text} {n : Nat} (hnewlines : Text.OnlyNewlines t)
    (hblocks : OneLineBlocks t) (h : LineAt (code t) n line) :
    ∃ whole, LineAt t n whole ∧ code whole = line := by
  obtain ⟨i, rfl, hline⟩ := h
  obtain ⟨whole, hwhole, hcode⟩ := getElem?_lines_code hnewlines hblocks hline
  exact ⟨whole, ⟨i, rfl, hwhole⟩, hcode⟩

/-- The lines of the module itself keep their numbers. -/
theorem moduleScopeFrom_sublist (n : Nat) (depth : Int) (lines : List Text) :
    (moduleScopeFrom n depth lines).Sublist ((lines.zipIdx n).map fun (x, i) => (i, x)) := by
  induction lines generalizing n depth with
  | nil => exact List.Sublist.refl _
  | cons line rest ih =>
      rw [moduleScopeFrom, List.zipIdx_cons, List.map_cons]
      dsimp only
      split
      · exact (ih _ _).cons_cons _
      · exact (ih _ _).cons _

/-- The lines of constructors keep their numbers. -/
theorem constructorLinesFrom_sublist (n : Nat) (s : ConstructorScan) (lines : List Text) :
    (constructorLinesFrom n s lines).Sublist ((lines.zipIdx n).map fun (x, i) => (i, x)) := by
  induction lines generalizing n s with
  | nil => exact List.Sublist.refl _
  | cons line rest ih =>
      rw [constructorLinesFrom, List.zipIdx_cons, List.map_cons]
      dsimp only
      split
      · exact (ih _ _).cons_cons _
      · exact (ih _ _).cons _

end Source

/-- The texts that are read are those of the files, in order. -/
theorem Extension.forall₂_of_texts {ext : Extension} {files : List Path}
    {found : List (Path × Text)} (h : ext.texts files = .ok found) :
    List.Forall₂ (fun p x => x.1 = p ∧ ext.text p = .ok x.2) files found := by
  refine (Trace.forall₂_of_mapM h).imp fun p x hx => ?_
  obtain ⟨t, htext, hx⟩ := Trace.exists_of_bind_eq_ok hx
  cases hx
  exact ⟨rfl, htext⟩

/-- A text that is read is that of one of the files. -/
theorem Extension.of_mem_texts {ext : Extension} {files : List Path}
    {found : List (Path × Text)}
    (h : ext.texts files = .ok found) {x : Path × Text} (hx : x ∈ found) :
    x.1 ∈ files ∧ ext.text x.1 = .ok x.2 := by
  have hall := forall₂_of_texts h
  clear h
  induction hall with
  | nil => cases hx
  | cons hp _ ih =>
      rcases List.mem_cons.mp hx with rfl | hmore
      · exact ⟨hp.1 ▸ List.mem_cons_self, hp.1 ▸ hp.2⟩
      · obtain ⟨hfile, htext⟩ := ih hmore
        exact ⟨List.mem_cons_of_mem _ hfile, htext⟩

namespace Startup

open Source (code LineAt)

/-- A number that startup reports is that of a line of the code that touches the shell. -/
theorem lineAt_of_mem_startupLines {t : Text} {n : Nat} (h : n ∈ startupLines t) :
    ∃ line, LineAt (code t) n line ∧ touchesShell line = true := by
  obtain ⟨⟨k, line⟩, hmem, hsome⟩ := List.mem_filterMap.mp h
  obtain ⟨htouch, rfl⟩ : touchesShell line = true ∧ k = n := by
    simpa using hsome
  refine ⟨line, Source.mem_numbered_lines.mp ?_, htouch⟩
  rcases List.mem_append.mp hmem with hmem | hmem
  · exact (Source.moduleScopeFrom_sublist 1 0 _).subset hmem
  · exact (Source.constructorLinesFrom_sublist 1 {} _).subset hmem

/-- The finding on a place that touches the shell at startup. -/
def placeFinding (p : Path) (n : Nat) : Finding :=
  ⟨.fail, "init/shell-modification", s!"{p.atLine n}: Shell modification outside enable()"⟩

/-- What is reported as a failure is a place in a script. -/
theorem exists_of_mem_checkModifications {ext : Extension} {f : Finding}
    (h : f ∈ (checkModifications ext).output) (hfail : f.status = .fail) :
    ∃ p ∈ ext.runtimeScripts, ∃ t n, ext.text p = .ok t ∧ n ∈ startupLines t ∧
      f = placeFinding p n := by
  unfold checkModifications at h
  cases htexts : ext.texts ext.runtimeScripts with
  | error e =>
      rw [htexts] at h
      cases h
  | ok texts =>
      rw [htexts] at h
      change f ∈ (ite _ _ _ : Check Unit).output at h
      split at h
      next =>
        obtain rfl := List.mem_singleton.mp h
        cases hfail
      next =>
        change f ∈ (Trace.each _ fun place => Trace.write [_] : Check Unit).output at h
        rw [Trace.each_write] at h
        obtain ⟨place, hplace, rfl⟩ := List.mem_map.mp h
        obtain ⟨⟨p, t⟩, hx, hplace⟩ := List.mem_flatMap.mp hplace
        obtain ⟨n, hn, rfl⟩ := List.mem_map.mp hplace
        obtain ⟨hp, htext⟩ := Extension.of_mem_texts htexts hx
        exact ⟨p, hp, t, n, htext, hn, rfl⟩

end Startup

namespace Resource

open Source (code LineAt)

/-- A resource is recorded as taken on a line of the code. -/
theorem lineAt_of_mem_creations {base file : Path} {t : Text} {c : Creation}
    (h : c ∈ (scan base file t).creations) :
    ∃ line, LineAt (code t) c.line line ∧ c ∈ creationsOf c.line (Text.trim line) := by
  obtain ⟨⟨n, trimmed⟩, hmem, hc⟩ := List.mem_flatMap.mp h
  obtain ⟨⟨k, line⟩, hline, heq⟩ := List.mem_map.mp hmem
  cases heq
  obtain ⟨kind, -, rfl⟩ := List.mem_map.mp hc
  exact ⟨line, Source.mem_numbered_lines.mp hline, hc⟩

/-- A resource is recorded as given back on a line of the code. -/
theorem lineAt_of_mem_releases {base file : Path} {t : Text} {r : Release}
    (h : r ∈ (scan base file t).releases) :
    ∃ line, LineAt (code t) r.line line ∧ r ∈ releasesOf r.line (Text.trim line) := by
  obtain ⟨⟨n, trimmed⟩, hmem, hr⟩ := List.mem_flatMap.mp h
  obtain ⟨⟨k, line⟩, hline, heq⟩ := List.mem_map.mp hmem
  cases heq
  obtain ⟨kind, -, rfl⟩ := List.mem_map.mp hr
  exact ⟨line, Source.mem_numbered_lines.mp hline, hr⟩

end Resource

/-! ## Places in files -/

open Source (code LineAt OneLineBlocks)
open Startup (placeFinding touchesShell)
open Resource (scan creationsOf releasesOf)

/-- Numbers of lines are reported as they are in the code without its comments.  They are those of
the file if each of its block comments closes on the line on which it opens: then the line of the
file with the reported number, without its comments, is the line that was found. -/
theorem lineAt_of_reported (ext : Extension) :
    (∀ f ∈ (Startup.checkModifications ext).output, f.status = .fail →
      ∃ p ∈ ext.runtimeScripts, ∃ t n, ext.text p = .ok t ∧ f = placeFinding p n ∧
        (∃ line, LineAt (code t) n line ∧ touchesShell line = true) ∧
        (t.OnlyNewlines → OneLineBlocks t →
          ∃ line, LineAt t n line ∧ touchesShell (code line) = true)) ∧
      ∀ (file : Path) (t : Text), t.OnlyNewlines → OneLineBlocks t →
        (∀ c ∈ (scan ext.base file t).creations,
          ∃ line, LineAt t c.line line ∧ c ∈ creationsOf c.line (Text.trim (code line))) ∧
        ∀ r ∈ (scan ext.base file t).releases,
          ∃ line, LineAt t r.line line ∧ r ∈ releasesOf r.line (Text.trim (code line)) := by
  refine ⟨fun f hf hfail => ?_, fun file t hnewlines hblocks => ⟨fun c hc => ?_, fun r hr => ?_⟩⟩
  · obtain ⟨p, hp, t, n, htext, hn, rfl⟩ := Startup.exists_of_mem_checkModifications hf hfail
    obtain ⟨line, hline, htouch⟩ := Startup.lineAt_of_mem_startupLines hn
    refine ⟨p, hp, t, n, htext, rfl, ⟨line, hline, htouch⟩, fun hnewlines hblocks => ?_⟩
    obtain ⟨whole, hwhole, rfl⟩ := Source.lineAt_of_code hnewlines hblocks hline
    exact ⟨whole, hwhole, htouch⟩
  · obtain ⟨line, hline, hmem⟩ := Resource.lineAt_of_mem_creations hc
    obtain ⟨whole, hwhole, rfl⟩ := Source.lineAt_of_code hnewlines hblocks hline
    exact ⟨whole, hwhole, hmem⟩
  · obtain ⟨line, hline, hmem⟩ := Resource.lineAt_of_mem_releases hr
    obtain ⟨whole, hwhole, rfl⟩ := Source.lineAt_of_code hnewlines hblocks hline
    exact ⟨whole, hwhole, hmem⟩

/-- A script with a block comment of one line before a line that touches the shell. -/
def inlineScript : Text := "/* a */ b\nMain.panel.connect(c)".toList

/-- The extension with this script. -/
def inlineExtension : Extension :=
  ⟨⟨.dir [("ext", .dir [("extension.js", .file (Text.encode inlineScript) false)])], .plain⟩,
    ["ext"]⟩

/-- A comment on one line leaves the numbers as they are. -/
theorem lineAt_of_reported_inlineExtension :
    (placeFinding ["extension.js"] 2 ∈ (Startup.checkModifications inlineExtension).output ∧
      ∃ p ∈ inlineExtension.runtimeScripts, ∃ t n, inlineExtension.text p = .ok t ∧
        placeFinding ["extension.js"] 2 = placeFinding p n ∧
        ∃ line, LineAt t n line ∧ touchesShell (code line) = true) ∧
      ((scan ["ext"] ["extension.js"] inlineScript).creations.map fun c => c.line) = [2] ∧
      ∀ c ∈ (scan ["ext"] ["extension.js"] inlineScript).creations,
        ∃ line, LineAt inlineScript c.line line ∧
          c ∈ creationsOf c.line (Text.trim (code line)) := by
  have hnewlines : inlineScript.OnlyNewlines := by decide
  have hblocks : OneLineBlocks inlineScript := by decide +kernel
  have hscripts : inlineExtension.runtimeScripts = [["extension.js"]] ∧
      inlineExtension.text ["extension.js"] = .ok inlineScript := by decide
  have hfound : placeFinding ["extension.js"] 2 ∈
      (Startup.checkModifications inlineExtension).output := by decide +kernel
  refine ⟨⟨hfound, ?_⟩, by decide +kernel,
    ((lineAt_of_reported inlineExtension).2 ["extension.js"] inlineScript hnewlines hblocks).1⟩
  obtain ⟨p, hp, t, n, htext, heq, -, hline⟩ :=
    (lineAt_of_reported inlineExtension).1 _ hfound rfl
  obtain rfl : p = ["extension.js"] := by rwa [hscripts.1, List.mem_singleton] at hp
  obtain rfl : inlineScript = t := Except.ok.inj (hscripts.2.symm.trans htext)
  exact ⟨_, hp, _, n, htext, heq, hline hnewlines hblocks⟩

/-- A script with a block comment of two lines before a line that touches the shell. -/
def shiftedScript : Text := "/*\n*/Main.panel".toList

/-- The extension with this script. -/
def shiftedExtension : Extension :=
  ⟨⟨.dir [("ext", .dir [("extension.js", .file (Text.encode shiftedScript) false)])], .plain⟩,
    ["ext"]⟩

/-- The line is reported as the first, where the comment opens.  In the file it is the second. -/
theorem reported_shiftedExtension :
    (Startup.checkModifications shiftedExtension).output = [placeFinding ["extension.js"] 1] ∧
      shiftedExtension.text ["extension.js"] = .ok shiftedScript ∧
      Text.lines shiftedScript = ["/*".toList, "*/Main.panel".toList] := by
  decide +kernel

end ExtensionAudit
