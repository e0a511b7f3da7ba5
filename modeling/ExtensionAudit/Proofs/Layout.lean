import Mathlib
import ExtensionAudit.Layout
import ExtensionAudit.Proofs.Audit
import ExtensionAudit.Proofs.Rule.Scripts
import ExtensionAudit.Proofs.Segregation

/-!
# Calls that are counted

The search for calls that log to the console goes through the scripts row by row.  The hits are
written one after the other, each with the number of its row in front, and counted again as lines.

The finding is on the number of these lines (`consoleLog_eq`).  It is the number of all rows with
such a call that the search shows, if no name has a newline (`countHits_rowHits`).  The number in
front hides how a row starts, so a call that is commented out counts as well, and the finding is
about the live calls only where there is no other.
-/

namespace ExtensionAudit

theorem Text.notMem_of_mem_rows {t row : Text} (h : row ∈ t.rows) : '\n' ∉ row := by
  obtain ⟨line, -, rfl⟩ := List.mem_map.mp h
  intro hmem
  simpa using List.mem_takeWhile_imp hmem

/-- Slashes apart, the characters of a path's text are those of its components. -/
theorem Path.notMem_shown {c : Char} (hc : c ≠ '/') {p : Path} (h : ∀ s ∈ p, c ∉ s.toList) :
    c ∉ p.shown.toList := by
  have hslash : c ∉ "/".toList := by simpa using hc
  induction p with
  | nil => simp [shown]
  | cons s p ih =>
      obtain ⟨hs, hp⟩ := List.forall_mem_cons.mp h
      cases p with
      | nil => simpa [shown] using hs
      | cons t p =>
          rw [shown, String.intercalate_cons_cons]
          exact notMem_toList_append (notMem_toList_append hs hslash) (ih hp)

namespace Layout

open Segregation (shownPath)

/-! ## Hits in a text -/

section

variable (v : Volume) (p : Path)

/-- The rows of a script that log to the console and do not start like a comment. -/
def liveCalls : Nat :=
  (v.plainText p).rows.countP fun row => isConsoleLog row && !isCommentRow v.machine.isBlank row

/-- The rows of a script that log to the console and start like a comment. -/
def commentedCalls : Nat :=
  (v.plainText p).rows.countP fun row => isConsoleLog row && isCommentRow v.machine.isBlank row

/-- The hits in a script: each row that logs to the console, as far as the search shows them. -/
def hitCount : Nat := (v.foundRows p isConsoleLog).length

variable {v p}

theorem hitCount_eq (v : Volume) (p : Path) :
    hitCount v p = ((v.shownRows isConsoleLog p).map Prod.snd).countP isConsoleLog := by
  rw [hitCount, Volume.foundRows, ← List.countP_eq_length_filter, List.countP_map]
  rfl

theorem add_calls (v : Volume) (p : Path) :
    liveCalls v p + commentedCalls v p = (v.plainText p).rows.countP isConsoleLog := by
  rw [liveCalls, commentedCalls, Nat.add_comm,
    List.countP_eq_countP_filter_add _ isConsoleLog (isCommentRow v.machine.isBlank),
    List.countP_filter, List.countP_filter]

/-- No row is a hit that does not log to the console. -/
theorem hitCount_le (v : Volume) (p : Path) :
    hitCount v p ≤ liveCalls v p + commentedCalls v p := by
  have hrows := (v.shownRows_prefix isConsoleLog p).sublist.map Prod.snd
  rw [Text.map_snd_numbered] at hrows
  rw [hitCount_eq, add_calls]
  exact hrows.countP_le

/-- In a text every row that logs to the console is a hit. -/
theorem hitCount_eq_add (h : v.IsText p) : hitCount v p = liveCalls v p + commentedCalls v p := by
  rw [hitCount_eq, add_calls, h.shownRows_eq, Text.map_snd_numbered]

end

/-! ## Rows that the search keeps -/

/-- The number in front of a row hides how the row starts: a digit is no blank in any locale, and no
comment starts with one. -/
theorem isCommentRow_numbered (m : Machine) (n : Nat) (row : Text) :
    isCommentRow m.isBlank ((toString n).toList ++ ':' :: row) = false := by
  obtain ⟨c, digits, hdigits⟩ :=
    List.exists_cons_of_ne_nil (Nat.toDigits_ne_nil (n := n) (b := 10))
  have hdigit : c.isDigit = true :=
    Nat.isDigit_of_mem_toDigits (by decide) (by decide) (hdigits ▸ List.mem_cons_self)
  obtain ⟨hlow, hhigh⟩ : 48 ≤ c.toNat ∧ c.toNat ≤ 57 := Char.isDigit_iff_toNat.mp hdigit
  have hother : ∀ d : Char, d.toNat ≤ 47 → d ≠ c := by
    rintro d hd rfl
    omega
  have hblank : m.isBlank c = false := by
    rw [m.isBlank_ascii c (by omega)]
    simp [Text.isAsciiBlank, (hother ' ' (by decide)).symm]
    omega
  have hfront : Text.trimFrontOf m.isBlank (c :: (digits ++ ':' :: row)) =
      c :: (digits ++ ':' :: row) :=
    List.dropWhile_cons_of_neg (ne_true_of_eq_false hblank)
  rw [Nat.toString_eq_ofList_toDigits, String.toList_ofList, hdigits, List.cons_append,
    isCommentRow, hfront]
  simp [List.isPrefixOf, hother '/' (by decide), hother '*' (by decide)]

/-- The search keeps every hit, with its number in front. -/
theorem logRows_eq (ext : Extension) (p : Path) :
    logRows ext p = ext.volume.numberedRows p isConsoleLog := by
  rw [logRows, List.filter_eq_self]
  intro row hrow
  obtain ⟨x, -, rfl⟩ := List.mem_map.mp hrow
  exact congrArg (!·) (isCommentRow_numbered _ x.1 x.2)

theorem length_logRows (ext : Extension) (p : Path) :
    (logRows ext p).length = hitCount ext.volume p := by
  rw [logRows_eq, Volume.numberedRows, List.length_map, hitCount]

/-! ## Lines of hits -/

theorem countHits_cons (s : String) (hits : List String) :
    countHits (s :: hits) = countHits [s] + countHits hits := by
  simp [countHits, List.countP_append]

/-- The lines of one hit, which starts with a blank: one, and more only if there is a newline. -/
theorem countHits_singleton {s : String} {t : Text} (h : s.toList = ' ' :: t) :
    1 ≤ countHits [s] ∧ ('\n' ∉ t → countHits [s] = 1) := by
  obtain ⟨piece, pieces, hsplit⟩ := List.exists_cons_of_ne_nil (Text.splitAt_ne_nil '\n' t)
  have hcount : countHits [s] = 1 + pieces.countP fun line => !line.isEmpty := by
    simp [countHits, h, Text.splitAt, hsplit, Nat.add_comm]
  refine ⟨by omega, fun hline => ?_⟩
  rw [Text.splitAt_of_notMem hline, List.cons.injEq] at hsplit
  rw [hcount, ← hsplit.2]
  rfl

/-- The recount finds at least one line for each hit. -/
theorem length_le_countHits {hits : List String} (h : ∀ s ∈ hits, ∃ t, s.toList = ' ' :: t) :
    hits.length ≤ countHits hits := by
  induction hits with
  | nil => exact Nat.zero_le _
  | cons s hits ih =>
      obtain ⟨⟨t, ht⟩, hrest⟩ := List.forall_mem_cons.mp h
      have hone := (countHits_singleton ht).1
      have hmore := ih hrest
      rw [countHits_cons, List.length_cons]
      omega

theorem countHits_eq_length {hits : List String}
    (h : ∀ s ∈ hits, ∃ t, s.toList = ' ' :: t ∧ '\n' ∉ t) : countHits hits = hits.length := by
  induction hits with
  | nil => rfl
  | cons s hits ih =>
      obtain ⟨⟨t, ht, hline⟩, hrest⟩ := List.forall_mem_cons.mp h
      rw [countHits_cons, (countHits_singleton ht).2 hline, ih hrest, List.length_cons,
        Nat.add_comm]

/-- The rows that are shown have no newline. -/
theorem newline_notMem_of_mem_logRows {ext : Extension} {p : Path} {row : Text}
    (h : row ∈ logRows ext p) : '\n' ∉ row := by
  rw [logRows_eq] at h
  obtain ⟨⟨n, r⟩, hr, rfl⟩ := List.mem_map.mp h
  have hmem : r ∈ (ext.volume.plainText p).rows := by
    rw [← Text.map_snd_numbered (ext.volume.plainText p).rows]
    exact List.mem_map_of_mem
      ((ext.volume.shownRows_prefix isConsoleLog p).subset (List.mem_filter.mp hr).1)
  have hnumber : '\n' ∉ ("" ++ toString n ++ "").toList :=
    newline_notMem_around (by simp) n (by simp)
  rw [String.empty_append, String.append_empty] at hnumber
  refine List.mem_append.not.mpr (not_or.mpr ⟨hnumber, ?_⟩)
  simpa using Text.notMem_of_mem_rows hmem

theorem newline_notMem_shownPath {ext : Extension} {p : Path} (h : ∀ s ∈ p, '\n' ∉ s.toList) :
    '\n' ∉ (shownPath ext p).toList := by
  unfold shownPath
  split
  · exact Path.notMem_shown (by decide) fun s hs => h s (List.mem_of_mem_drop hs)
  · exact notMem_toList_append (notMem_literal (by decide)) (Path.notMem_shown (by decide) h)

/-- A hit is a row behind the path of its script. -/
theorem exists_of_mem_rowHits {ext : Extension} {hit : String}
    (h : hit ∈ rowHits ext (logRows ext)) : ∃ p ∈ scripts ext, ∃ row ∈ logRows ext p,
      hit.toList = ' ' :: ' ' :: ((shownPath ext p).toList ++ ':' :: ' ' :: row) := by
  unfold rowHits at h
  split at h
  · obtain ⟨p, hp, hshown⟩ := List.mem_flatMap.mp h
    obtain ⟨row, hrow, rfl⟩ := List.mem_map.mp hshown
    refine ⟨p, hp, row, hrow, ?_⟩
    simp [toString]
  · cases h

/-- Each hit takes a line at least. -/
theorem length_rowHits_le (ext : Extension) :
    (rowHits ext (logRows ext)).length ≤ countHits (rowHits ext (logRows ext)) := by
  apply length_le_countHits
  intro hit hhit
  obtain ⟨p, -, row, -, hchars⟩ := exists_of_mem_rowHits hhit
  exact ⟨_, hchars⟩

/-- The hits take one line each, if there is no newline in the scripts' names. -/
theorem countHits_rowHits {ext : Extension}
    (h : ∀ p ∈ scripts ext, ∀ s ∈ p, '\n' ∉ s.toList) :
    countHits (rowHits ext (logRows ext)) = (rowHits ext (logRows ext)).length := by
  apply countHits_eq_length
  intro hit hhit
  obtain ⟨p, hp, row, hrow, hchars⟩ := exists_of_mem_rowHits hhit
  have hline := newline_notMem_of_mem_logRows hrow
  exact ⟨_, hchars, by simp [hline, newline_notMem_shownPath (h p hp)]⟩

/-- The hits in the scripts, if the search is made. -/
def callHits (ext : Extension) : Nat :=
  if isSearched ext then ((scripts ext).map (hitCount ext.volume)).sum else 0

theorem length_rowHits (ext : Extension) :
    (rowHits ext (logRows ext)).length = callHits ext := by
  unfold rowHits callHits
  split
  · simp only [List.length_flatMap, List.length_map, length_logRows]
  · rfl

theorem callHits_eq_add {ext : Extension} (hsearched : isSearched ext = true)
    (htext : ∀ p ∈ scripts ext, ext.volume.IsText p) :
    callHits ext = ((scripts ext).map (liveCalls ext.volume)).sum +
      ((scripts ext).map (commentedCalls ext.volume)).sum := by
  rw [callHits, if_pos hsearched, ← List.sum_map_add]
  exact congrArg _ (List.map_congr_left fun p hp => hitCount_eq_add (htext p hp))

/-! ## Where the search is made -/

/-- Without a backslash a path is its own pattern. -/
theorem unquoted_of_notMem {t : Text} (h : '\\' ∉ t) : unquoted t = t := by
  induction t with
  | nil => rfl
  | cons c t ih =>
      obtain ⟨hc, ht⟩ := not_or.mp (List.mem_cons.not.mp h)
      rw [unquoted.eq_def]
      split
      next heq => exact absurd (List.cons.inj heq).1 (Ne.symm hc)
      next heq =>
        cases heq
        rw [ih ht]
      next heq => cases heq

/-- A script at the top is found by the name pattern for scripts. -/
theorem mem_namesIn_of_topScripts {ext : Extension} {p : Path} (hp : p ∈ topScripts ext) {d : Text}
    (hd : Glob.pathOf d = ext.base) :
    p.name.toList ∈ Glob.namesIn ext.volume false false d "*.js".toList := by
  obtain ⟨hp, -⟩ := List.mem_filter.mp hp
  obtain ⟨name, hname, rfl⟩ := List.mem_map.mp hp
  obtain ⟨hname, htest⟩ := List.mem_filter.mp hname
  obtain ⟨hscript, hhidden⟩ := (Bool.and_eq_true _ _).mp htest
  have hmatch := (Glob.matchName_scripts name).trans hscript
  have hlast : Path.name (ext.base ++ [name]) = name := by
    rw [Path.name, List.getLast?_concat, Option.getD_some]
  have hpattern : Glob.isPattern "*.js".toList = true := by decide
  rw [hlast, Glob.namesIn, hd, hpattern, Bool.not_true, if_neg Bool.false_ne_true,
    Bool.false_and, if_neg Bool.false_ne_true, List.mem_filter]
  refine ⟨List.mem_map_of_mem hname, ?_⟩
  rw [hmatch, hhidden]
  rfl

/-- A name pattern behind the text of a path looks in the directory of that path. -/
theorem exists_splitText {base : Path} (hbase : base.Proper)
    (hplain : Glob.isPattern base.chars = false) {c : Text} (hc : '/' ∉ c) :
    ∃ d, Glob.splitText (base.chars ++ '/' :: c) = (d, c) ∧ Glob.pathOf d = base ∧
      Glob.isPattern d = false := by
  cases base with
  | nil =>
      refine ⟨['/', '/'], ?_, rfl, rfl⟩
      rw [Path.chars_nil, Glob.splitText_append_slash hc]
      rfl
  | cons first rest =>
      have hjoin : Path.chars (first :: rest) ++ '/' :: c =
          Glob.joinText (Path.chars (first :: rest)) c := by
        rw [Glob.joinText_eq (Glob.head?_ne_slash hc), Path.slashed_chars hbase]
        simp
      exact ⟨_, by rw [hjoin, Path.splitText_joinText hbase hc], Path.pathOf_chars hbase, hplain⟩

/-- The search is made if there is a script at the top, unless a character of the directory's own
path is special. -/
theorem isSearched_of_topScripts {ext : Extension} (hbase : ext.base.Proper)
    (hspecial : ∀ c ∈ ext.base.chars, c ≠ '*' ∧ c ≠ '?' ∧ c ≠ '[' ∧ c ≠ '\\')
    (htop : topScripts ext ≠ []) : isSearched ext = true := by
  obtain ⟨p, hp⟩ := List.exists_mem_of_ne_nil _ htop
  have hplain : Glob.isPattern ext.base.chars = false := by
    rw [Glob.isPattern, List.any_eq_false]
    intro c hc
    obtain ⟨hstar, hmark, hbracket, -⟩ := hspecial c hc
    simp [hstar, hmark, hbracket]
  obtain ⟨d, hcut, hd, hdir⟩ := exists_splitText hbase hplain (c := "*.js".toList) (by decide)
  have hpattern : Glob.isPattern (ext.base.chars ++ '/' :: "*.js".toList) = true := by
    rw [Glob.isPattern, List.any_append, Bool.or_eq_true]
    exact .inr (by decide)
  have hfound : Glob.matching ext.volume false (ext.base.chars ++ '/' :: "*.js".toList) ≠ [] := by
    rw [Glob.matching, Glob.matchesFrom, hcut]
    simp only [hpattern, hdir, Bool.not_true, Bool.false_eq_true, if_false,
      List.flatMap_singleton]
    exact List.ne_nil_of_mem (List.mem_map_of_mem (mem_namesIn_of_topScripts hp hd))
  have hquoted : unquoted ext.base.text.toList = ext.base.chars :=
    unquoted_of_notMem fun h => (hspecial _ h).2.2.2 rfl
  rw [isSearched, hquoted]
  exact (Bool.or_eq_true _ _).mpr (.inl (by simpa using hfound))

/-! ## The finding -/

/-- The finding on a number of calls. -/
def logFinding (n : Nat) : Finding :=
  if n = 0 then ⟨.pass, "no-console-log", "No console.log() calls found"⟩
  else ⟨.fail, "no-console-log", s!"Found {n} console.log() call(s)"⟩

/-- The finding tells the number of calls. -/
theorem logFinding_inj {m n : Nat} : logFinding m = logFinding n ↔ m = n := by
  refine ⟨fun h => ?_, congrArg logFinding⟩
  unfold logFinding at h
  split at h
  next hm =>
    split at h
    next hn => rw [hm, hn]
    next => cases h
  next =>
    split at h
    next => cases h
    next =>
      have hdetail := (Finding.mk.injEq .. ▸ h).2.2
      exact Nat.repr_inj.mp ((String.append_right_inj _).mp ((String.append_left_inj _).mp hdetail))

theorem consoleLog_eq (ext : Extension) :
    consoleLog ext = logFinding (countHits (rowHits ext (logRows ext))) := by
  have hlength := length_rowHits_le ext
  rw [consoleLog, hitFinding, logFinding]
  cases hhits : rowHits ext (logRows ext) with
  | nil => rfl
  | cons hit hits =>
      rw [hhits, List.length_cons] at hlength
      rw [if_neg (by simp), if_neg (by omega)]

/-- The finding passes iff there is no hit.  It counts all hits, and nothing else if there is no
newline in the scripts' names.  A hit is a row that logs to the console, and in a text each such
row is one.  So the finding is on the rows that do not start like a comment iff no row that logs to
the console does, as long as the search is made and the scripts are texts.  The search is made if
there is a script at the top and no character of the directory's own path is special. -/
theorem consoleLog_counts (ext : Extension) :
    (∀ p, hitCount ext.volume p ≤ liveCalls ext.volume p + commentedCalls ext.volume p) ∧
      ∃ n, consoleLog ext = logFinding n ∧ callHits ext ≤ n ∧ (callHits ext = 0 → n = 0) ∧
      ((∀ p ∈ scripts ext, ∀ s ∈ p, '\n' ∉ s.toList) → n = callHits ext ∧
        (isSearched ext = true → (∀ p ∈ scripts ext, ext.volume.IsText p) →
          (consoleLog ext = logFinding ((scripts ext).map (liveCalls ext.volume)).sum ↔
            ∀ p ∈ scripts ext, commentedCalls ext.volume p = 0))) ∧
      (ext.base.Proper → (∀ c ∈ ext.base.chars, c ≠ '*' ∧ c ≠ '?' ∧ c ≠ '[' ∧ c ≠ '\\') →
        topScripts ext ≠ [] → isSearched ext = true) := by
  have hlength := length_rowHits ext
  refine ⟨hitCount_le ext.volume, _, consoleLog_eq ext, hlength ▸ length_rowHits_le ext, ?_, ?_,
    isSearched_of_topScripts⟩
  · intro hnone
    rw [List.eq_nil_of_length_eq_zero (hlength.trans hnone)]
    rfl
  · intro hnames
    have hcount := (countHits_rowHits hnames).trans hlength
    refine ⟨hcount, fun hsearched htext => ?_⟩
    rw [consoleLog_eq, hcount, logFinding_inj, callHits_eq_add hsearched htext, Nat.add_eq_left,
      List.sum_eq_zero_iff, List.forall_mem_map]

/-- An extension of one script, in which a call is commented out. -/
def commentedExtension : Extension where
  volume := ⟨.dir [("ext", .dir [("extension.js",
    .file (Text.encode "// console.log(x)\n".toList) false)])], .plain⟩
  base := ["ext"]

/-- The finding on this extension is not the one on its live calls. -/
theorem consoleLog_counts_commentedExtension :
    (∀ p ∈ scripts commentedExtension, ∀ s ∈ p, '\n' ∉ s.toList) ∧
      isSearched commentedExtension = true ∧
      consoleLog commentedExtension ≠ logFinding
        ((scripts commentedExtension).map (liveCalls commentedExtension.volume)).sum := by
  have hscripts : scripts commentedExtension = [["ext", "extension.js"]] := by decide
  have hnames : ∀ p ∈ scripts commentedExtension, ∀ s ∈ p, '\n' ∉ s.toList := by
    rw [hscripts]
    decide
  have htext : ∀ p ∈ scripts commentedExtension, commentedExtension.volume.IsText p := by
    rw [hscripts, List.forall_mem_singleton]
    rintro bytes ⟨⟩
    decide
  have hchars : commentedExtension.base.chars = ['/', 'e', 'x', 't'] := by decide
  obtain ⟨-, n, -, -, -, hlines, hsearched⟩ := consoleLog_counts commentedExtension
  obtain ⟨-, hlive⟩ := hlines hnames
  have hsearched : isSearched commentedExtension = true :=
    hsearched (Path.proper_singleton.mpr (by decide)) (by simp [hchars]) (by decide)
  refine ⟨hnames, hsearched, fun hsame => ?_⟩
  have hnone := (hlive hsearched htext).mp hsame ["ext", "extension.js"] (by rw [hscripts]; simp)
  revert hnone
  decide

/-- The call that is commented out is counted. -/
theorem consoleLog_commentedExtension :
    topScripts commentedExtension = [["ext", "extension.js"]] ∧
      ((scripts commentedExtension).map (liveCalls commentedExtension.volume)).sum = 0 ∧
      consoleLog commentedExtension =
        ⟨.fail, "no-console-log", "Found 1 console.log() call(s)"⟩ := by
  decide

end Layout

end ExtensionAudit
