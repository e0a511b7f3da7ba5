import Mathlib
import ExtensionAudit.Command
import ExtensionAudit.Proofs.Manifest.Entries
import ExtensionAudit.Proofs.Outcome
import ExtensionAudit.Proofs.Resource.Document

/-!
# Reported orphans

The graph says why a resource is an orphan in words only, and the report finds the case by looking
for words of two of the cases.  The words of a case also hold the path of a file or the name of a
property, so the report may look into these.  A property is `this.` and word characters, in which no
slash or bracket stands; so only a path can lead the report astray, and only by the words of the
first case.

Main statement: `runResources_of_runGraph`, one warning for each orphan in the order of the graph,
under the check of its cause, and one line that sums up; the same if the graph is printed and read.
-/

namespace ExtensionAudit

namespace Resource

open Pattern

/-! ## References -/

def blankTest : CharTest := .inSet ⟨[.cls .blank false], false, false, false⟩

def wordTest : CharTest := .inSet ⟨[.cls .word false], false, false, false⟩

theorem passes_wordTest (x : Char) : wordTest.passes x = Text.isWord x := by
  simp [wordTest, CharTest.passes, CharSet.has, Member.covers, CharClass.has]

/-- A property of the object itself. -/
def propertyNode : Node :=
  .group 1 (Node.spelled "this.".toList (.rep .greedy 1 none (.one wordTest)))

theorem assigned_node :
    assigned.node = .seq (.rep .greedy 0 none (.one blankTest)) (.seq propertyNode
      (.seq (.rep .greedy 0 none (.one blankTest)) (.one (.literal 61)))) := by
  decide +kernel

theorem flat_assigned : assigned.node.Flat 0 2 := by
  rw [assigned_node]
  exact .seq (.rep rfl) (.seq (.group (Nat.zero_le 0) ((Node.Flat.rep rfl).spelled _))
    (.seq (.rep rfl) .one))

/-- A property is matched as `this.` and part of the word after it. -/
theorem mem_ways_propertyNode {c : Cursor} {w : Cursor × Marks}
    (h : w ∈ propertyNode.ways c []) :
    "this.".toList <+: c.after ∧ ∃ n ≤ ((c.after.drop 5).takeWhile Text.isWord).length,
      w = (c.forward (5 + n), [some c, some (c.forward (5 + n))]) := by
  rw [propertyNode, Node.ways, List.mem_map] at h
  obtain ⟨u, hu, rfl⟩ := h
  rw [Node.ways_spelled] at hu
  split at hu
  next hthis =>
      rw [Node.ways, List.mem_map] at hu
      obtain ⟨n, hn, rfl⟩ := hu
      rw [mem_stops_none, funext passes_wordTest] at hn
      refine ⟨List.isPrefixOf_iff_prefix.mp hthis, n, hn.2, ?_⟩
      simp only [Cursor.forward_forward]
      rfl
  next => cases hu

theorem mem_ways_blanks {c : Cursor} {ms : Marks} {w : Cursor × Marks}
    (h : w ∈ (Node.rep .greedy 0 none (.one blankTest)).ways c ms) : w.2 = ms := by
  rw [Node.ways, List.mem_map] at h
  obtain ⟨n, -, rfl⟩ := h
  rfl

/-- A property that a line assigns to is spelled with word characters after its start. -/
theorem mem_storedReference {line reference : Text} (h : storedReference? line = some reference) :
    ∀ c ∈ reference, c ∈ "this.".toList ∨ Text.isWord c = true := by
  rw [storedReference?, matchStart, matchFrom_eq_ways flat_assigned] at h
  obtain ⟨found, hfound, rfl⟩ := Option.map_eq_some_iff.mp h
  obtain ⟨w, hw, rfl⟩ := Option.map_eq_some_iff.mp hfound
  have hways := List.mem_of_find?_eq_some hw
  rw [assigned_node, Node.mem_ways_seq] at hways
  obtain ⟨first, hfirst, hafter⟩ := hways
  obtain ⟨property, hproperty, htail⟩ := Node.mem_ways_seq.mp hafter
  obtain ⟨blanks, hblanks, hend⟩ := Node.mem_ways_seq.mp htail
  rw [mem_ways_blanks hfirst] at hproperty
  obtain ⟨⟨rest, hrest⟩, n, hn, rfl⟩ := mem_ways_propertyNode hproperty
  have hmarks : w.2 = [some first.1, some (first.1.forward (5 + n))] := by
    rw [Node.ways] at hend
    split at hend
    next =>
        have hkept := mem_ways_blanks hblanks
        rw [List.mem_singleton.mp hend]
        exact hkept
    next => cases hend
  intro c hc
  have hlength : 5 = "this.".toList.length := rfl
  have htake : ("this.".toList ++ rest).take (5 + n) = "this.".toList ++ rest.take n := by
    rw [hlength, List.take_length_add_append]
  rw [hmarks, Found.group_one, ← hrest, htake, List.mem_append] at hc
  rw [← hrest] at hn
  rcases hc with hc | hc
  · exact .inl hc
  · have htaken : rest.take n <+: rest.takeWhile Text.isWord :=
      List.prefix_of_prefix_length_le (List.take_prefix ..) (List.takeWhile_prefix _)
        ((List.length_take_le ..).trans hn)
    exact .inr (List.mem_takeWhile_imp (htaken.mem hc))

theorem notMem_storedReference {line reference : Text} (h : storedReference? line = some reference)
    {c : Char} (hthis : c ∉ "this.".toList) (hword : Text.isWord c = false) : c ∉ reference := by
  intro hc
  rcases mem_storedReference h c hc with hmem | hmem
  · exact hthis hmem
  · rw [hmem] at hword
    cases hword

/-! ## The words of a cause -/

/-- What a report looks for in the words of the first case. -/
def noMethodWords : Text := "no destroy()/disable() method".toList

/-- What a report looks for in the words of the second case. -/
def notCalledWords : Text := "parent does not call destroy()".toList

/-- The words of the first case before the file. -/
def noMethodFront : Text := "no destroy()/disable() method in ".toList

/-- The words of the second case before the file. -/
def notCalledFront : Text := "parent does not call destroy() on ".toList

/-- The words of the third case after the property. -/
def notCleanedBack : Text := " created but not cleaned up in destroy()".toList

theorem words_noMethod (file : String) :
    (Cause.noMethod.words file).toList = noMethodFront ++ file.toList :=
  String.toList_append

theorem words_notCalled (file : String) :
    (Cause.notCalled.words file).toList = notCalledFront ++ file.toList :=
  String.toList_append

theorem words_notCleaned (file : String) (reference : Text) :
    ((Cause.notCleaned reference).words file).toList = reference ++ notCleanedBack := by
  have happend : ((Cause.notCleaned reference).words file).toList =
      (String.ofList reference).toList ++ notCleanedBack := String.toList_append
  rw [happend, String.toList_ofList]

/-- The fixed words of each case hold what a report looks for in the case. -/
theorem fixed_words : noMethodWords <:+: noMethodFront ∧ notCalledWords <:+: notCalledFront := by
  decide +kernel

/-- The fixed words of the second case do not hold those of the first, nor a part of them at their
end. -/
theorem noMethodWords_apart :
    ¬ noMethodWords <:+: notCalledFront ∧
      ∀ n ≤ noMethodWords.length, noMethodWords.take n <:+ notCalledFront → n = 0 := by
  decide +kernel

/-- The fixed words of the third case have no slash, and do not hold the words of the second, nor a
part of them with a bracket at their start. -/
theorem notCleanedBack_apart :
    '/' ∈ noMethodWords ∧ '/' ∉ notCleanedBack ∧ '(' ∈ notCalledWords ∧
      ¬ notCalledWords <:+: notCleanedBack ∧
      ∀ n ≤ notCalledWords.length, notCalledWords.drop n <+: notCleanedBack →
        '(' ∉ notCalledWords.drop n := by
  decide +kernel

theorem occursIn_noMethod (file : String) :
    Text.occursIn noMethodWords (Cause.noMethod.words file).toList = true := by
  rw [Text.occursIn_iff, words_noMethod]
  exact fixed_words.1.trans (List.infix_append_left ..)

theorem occursIn_notCalled (file : String) :
    Text.occursIn notCalledWords (Cause.notCalled.words file).toList = true := by
  rw [Text.occursIn_iff, words_notCalled]
  exact fixed_words.2.trans (List.infix_append_left ..)

/-- The words for a missing method occur in no other cause, but in a file name. -/
theorem noMethodWords_notCalled {file : String}
    (hfile : Text.occursIn noMethodWords file.toList = false) :
    Text.occursIn noMethodWords (Cause.notCalled.words file).toList = false := by
  rw [Text.occursIn_eq_false] at hfile ⊢
  rw [words_notCalled]
  intro h
  rcases Text.cut_of_infix_append h with h | h | ⟨n, hn, hfront, hback⟩
  · exact noMethodWords_apart.1 h
  · exact hfile h
  · rw [noMethodWords_apart.2 n hn hfront, List.drop_zero] at hback
    exact hfile hback.isInfix

/-- A property has no slash, and the words after it have none. -/
theorem noMethodWords_notCleaned (file : String) {reference : Text} (h : '/' ∉ reference) :
    Text.occursIn noMethodWords ((Cause.notCleaned reference).words file).toList = false := by
  obtain ⟨hslash, hback, -⟩ := notCleanedBack_apart
  refine Text.occursIn_of_notMem hslash ?_
  rw [words_notCleaned, List.mem_append]
  exact not_or.mpr ⟨h, hback⟩

/-- A property has no bracket, so the bracket of the words would stand after it. -/
theorem notCalledWords_notCleaned (file : String) {reference : Text} (h : '(' ∉ reference) :
    Text.occursIn notCalledWords ((Cause.notCleaned reference).words file).toList = false := by
  obtain ⟨-, -, hbracket, hwhole, hpart⟩ := notCleanedBack_apart
  rw [words_notCleaned, Text.occursIn_eq_false]
  intro hoccurs
  rcases Text.cut_of_infix_append hoccurs with hoccurs | hoccurs | ⟨n, hn, hfront, hback⟩
  · exact h (hoccurs.mem hbracket)
  · exact hwhole hoccurs
  · rw [← List.take_append_drop n notCalledWords, List.mem_append] at hbracket
    rcases hbracket with hbracket | hbracket
    · exact h (hfront.mem hbracket)
    · exact hpart n hn hback hbracket

/-! ## The report -/

/-- The check that an orphan belongs to. -/
def Orphan.check (o : Orphan) : String :=
  match o.cause with
  | .noMethod => "resource-tracking/no-destroy-method"
  | .notCalled => "resource-tracking/destroy-not-called"
  | .notCleaned _ => "resource-tracking/orphan-" ++ o.creation.kind.word

/-- The warning about an orphan. -/
def Orphan.finding (o : Orphan) : Finding :=
  ⟨.warn, o.check, s!"{o.file}:{o.creation.line} — {o.cause.words o.file}"⟩

/-- The line that sums up. -/
def Graph.ownershipFinding (g : Graph) : Finding :=
  let scanned := s!"{g.scans.length} files scanned, depth {g.levels}"
  if g.orphaned.isEmpty then ⟨.pass, ownershipCheck, s!"{scanned}, 0 orphans"⟩
  else
    let ending := if g.orphaned.length == 1 then "" else "s"
    ⟨.warn, ownershipCheck, s!"{scanned}, {g.orphaned.length} orphan{ending} detected"⟩

theorem showValue_ofString (s : String) : Manifest.showValue (Json.ofString s) = .ok s := by
  have hshow := Manifest.show?_text s.toList
  rwa [String.ofList_toList] at hshow

theorem showValue_countValue (n : Nat) : Manifest.showValue (countValue n) = .ok (toString n) := by
  have hshow := Manifest.show?_text (toString (n : Int)).toList
  rwa [String.ofList_toList] at hshow

theorem holds_ofString (s w : String) :
    (Json.ofString s).holds w = .ok (Text.occursIn w.toList s.toList) := by
  rw [Json.ofString, Json.holds, Points.ofString, Points.view_ofText]

theorem kindCheck_ofString (s : String) :
    kindCheck (Json.ofString s) = .ok ("resource-tracking/orphan-" ++ s) := by
  rw [kindCheck, showValue_ofString]
  rfl

/-- The words of the causes can be told apart. -/
def Orphan.Clear (o : Orphan) : Prop :=
  Text.occursIn noMethodWords o.file.toList = false ∧
    ∀ reference, o.cause = .notCleaned reference → '/' ∉ reference ∧ '(' ∉ reference

/-- What is said of an orphan, where its words have been searched. -/
theorem classify_value (o : Orphan) :
    classify o.value = .ok
      (if Text.occursIn noMethodWords (o.cause.words o.file).toList then
        "resource-tracking/no-destroy-method"
      else if Text.occursIn notCalledWords (o.cause.words o.file).toList then
        "resource-tracking/destroy-not-called"
      else "resource-tracking/orphan-" ++ o.creation.kind.word, o.finding.detail) := by
  have hreason : memberOr o.value "reason" (Json.ofString "") =
      .ok (Json.ofString (o.cause.words o.file)) := rfl
  have hkind : memberOr o.value "type" (Json.ofString "") =
      .ok (Json.ofString o.creation.kind.word) := rfl
  have hfile : memberOr o.value "file" (Json.ofString "") = .ok (Json.ofString o.file) := rfl
  have hline : memberOr o.value "line" (Json.ofString "?") =
      .ok (countValue o.creation.line) := rfl
  have hfirst : (Json.ofString (o.cause.words o.file)).holds "no destroy()/disable() method" =
      .ok (Text.occursIn noMethodWords (o.cause.words o.file).toList) := holds_ofString _ _
  have hsecond : (Json.ofString (o.cause.words o.file)).holds "parent does not call destroy()" =
      .ok (Text.occursIn notCalledWords (o.cause.words o.file).toList) := holds_ofString _ _
  rw [classify, hreason, hkind, hfile, hline]
  simp only [bind, Except.bind, hfirst, hsecond, kindCheck_ofString, showValue_ofString,
    showValue_countValue]
  cases Text.occursIn noMethodWords (o.cause.words o.file).toList with
  | true => rfl
  | false =>
      cases Text.occursIn notCalledWords (o.cause.words o.file).toList with
      | true => rfl
      | false => rfl

/-- A clear orphan is put under its own check. -/
theorem classify_of_clear {o : Orphan} (h : o.Clear) :
    classify o.value = .ok (o.check, o.finding.detail) := by
  rw [classify_value, Orphan.check]
  cases hcause : o.cause with
  | noMethod => rw [occursIn_noMethod, if_pos rfl]
  | notCalled =>
      rw [noMethodWords_notCalled h.1, occursIn_notCalled, if_neg Bool.false_ne_true, if_pos rfl]
  | notCleaned reference =>
      obtain ⟨hslash, hbracket⟩ := h.2 reference hcause
      rw [noMethodWords_notCleaned o.file hslash, notCalledWords_notCleaned o.file hbracket,
        if_neg Bool.false_ne_true, if_neg Bool.false_ne_true]

open Trace Check

/-- The report has a finding for each orphan and one on the owners. -/
theorem ends_reportGraph {g : Graph} (h : ∀ o ∈ g.orphaned, o.Clear) :
    (reportGraph g.value).Ends (g.orphaned.map Orphan.finding ++ [g.ownershipFinding]) () := by
  obtain ⟨summary, hsummary, hfiles, hdepth, hcount⟩ :
      ∃ summary, memberOr g.value "summary" (.obj []) = .ok summary ∧
        memberOr summary "files_scanned" (.int 0) = .ok (countValue g.scans.length) ∧
        memberOr summary "ownership_depth" (.int 0) = .ok (countValue g.levels) ∧
        memberOr summary "orphan_count" (.int (g.orphaned.map Orphan.value).length) =
          .ok (countValue g.orphaned.length) := ⟨_, rfl, rfl, rfl, rfl⟩
  have horphans : memberOr g.value "orphans" (.arr []) =
      .ok (.arr (g.orphaned.map Orphan.value)) := rfl
  refine ends_lift_bind horphans (ends_lift_bind hsummary (ends_lift_bind hfiles
    (ends_lift_bind hdepth (ends_lift_bind rfl (ends_lift_bind hcount (ends_lift_bind rfl ?_))))))
  refine ends_bind.mpr ⟨g.orphaned.map Orphan.finding, (), [g.ownershipFinding], ?_, ?_, rfl⟩
  · refine ends_each.mpr ⟨g.orphaned.map fun o => [o.finding], ?_, ?_⟩
    · rw [List.forall₂_map_left_iff, List.forall₂_map_right_iff, List.forall₂_same]
      intro o ho
      exact ends_lift_bind (classify_of_clear (h o ho)) (ends_write.mpr rfl)
    · rw [← List.flatMap_def, List.map_eq_flatMap]
  · refine ends_lift_bind (showValue_countValue _) (ends_lift_bind (showValue_countValue _) ?_)
    have hzero : isNumber (countValue g.orphaned.length) 0 = g.orphaned.isEmpty := by
      cases g.orphaned with
      | nil => rfl
      | cons o rest => simp [isNumber, countValue]; omega
    have hone : isNumber (countValue g.orphaned.length) 1 = (g.orphaned.length == 1) := by
      rw [Bool.eq_iff_iff]
      simp [isNumber, countValue]
    dsimp only
    rw [hzero, hone, Graph.ownershipFinding]
    cases g.orphaned.isEmpty with
    | true => exact ends_write.mpr rfl
    | false => exact ends_lift_bind (showValue_countValue _) (ends_write.mpr rfl)

/-- What is not cleaned up is what was stored. -/
theorem stored_of_cause {scan : Scan} {called : Bool} {c : Creation} {reference : Text}
    (h : scan.cause? called c = some (.notCleaned reference)) : c.stored? = some reference := by
  unfold Scan.cause? at h
  split at h
  · cases h
  split at h
  · cases h
  obtain ⟨other, hleak, hcause⟩ := Option.map_eq_some_iff.mp h
  cases hcause
  exact Option.eq_some_of_filter_eq_some (Option.eq_some_of_filter_eq_some hleak)

/-- The property of a resource is one that a line assigns to. -/
theorem exists_line_of_mem_creations {base file : Path} {t : Text} {c : Creation}
    (h : c ∈ (scan base file t).creations) : ∃ line, c.stored? = storedReference? line := by
  obtain ⟨⟨n, line⟩, -, hline⟩ := List.mem_flatMap.mp h
  obtain ⟨kind, -, rfl⟩ := List.mem_map.mp hline
  exact ⟨line, rfl⟩

theorem exists_scan_of_scanAll {ext : Extension} {scans : Scans} (h : scanAll ext = .ok scans)
    {x : String × Scan} (hx : x ∈ scans) :
    ∃ p t, x = (Path.shown p, scan ext.base (ext.base ++ p) t) := by
  obtain ⟨texts, -, rfl⟩ := exists_texts_of_scanAll h
  rcases Table.mem_of_mem_putAll hx with hnone | hfound
  · cases hnone
  · obtain ⟨⟨p, t⟩, -, rfl⟩ := List.mem_map.mp hfound
    exact ⟨p, t, rfl⟩

/-- The orphans of a graph are clear, if no path holds the words of the first case. -/
theorem clear_of_graph {ext : Extension} {g : Graph} (hg : graph ext = .ok g)
    (hpaths : ∀ x ∈ g.scans, Text.occursIn noMethodWords x.1.toList = false) :
    ∀ o ∈ g.orphaned, o.Clear := by
  obtain ⟨scans, hscans, rfl⟩ := graph_eq_ok_iff.mp hg
  intro o ho
  obtain ⟨scan, hscan, hfile⟩ := mem_orphans.mp ho
  refine ⟨hpaths _ hscan, ?_⟩
  intro reference hcause
  obtain ⟨-, hcreation, parent, -, hverdict⟩ := mem_fileOrphans.mp hfile
  obtain ⟨p, t, hx⟩ := exists_scan_of_scanAll hscans hscan
  obtain ⟨-, rfl⟩ := Prod.mk.inj hx
  obtain ⟨line, hline⟩ := exists_line_of_mem_creations hcreation
  rw [hcause] at hverdict
  rw [stored_of_cause hverdict] at hline
  exact ⟨notMem_storedReference hline.symm (by decide) (by decide),
    notMem_storedReference hline.symm (by decide) (by decide)⟩

/-! ## The command -/

/-- The command gives a graph only for a directory. -/
theorem runGraph_eq_ok {v : Volume} {here : Path} {args : List String} {g : Graph}
    (h : Command.runGraph v here args = .ok g) :
    ∃ dir rest, args = dir :: rest ∧ v.isDir (v.realPath here dir) = true ∧
      printable ⟨v, v.realPath here dir⟩ = .ok g := by
  cases args with
  | nil => cases h
  | cons dir rest =>
      rw [Command.runGraph] at h
      split at h
      next hdir =>
          cases hg : printable ⟨v, v.realPath here dir⟩ with
          | error fault =>
              rw [hg] at h
              cases h
          | ok other =>
              rw [hg] at h
              cases h
              exact ⟨dir, rest, rfl, hdir, hg⟩
      next => cases h

theorem status_ownershipFinding (g : Graph) :
    g.ownershipFinding.status = .pass ↔ g.orphaned = [] := by
  rw [Graph.ownershipFinding]
  cases g.orphaned with
  | nil => simp
  | cons o rest => simp

/-- Where the graph is built and no path holds the words of the first case, the report is one
warning for each orphan, under the check of its cause, and the line that sums up.  It goes through
the printed graph, and reading that gives the same. -/
theorem runResources_of_runGraph {v : Volume} {here : Path} {args : List String} {g : Graph}
    (hg : Command.runGraph v here args = .ok g)
    (hends : ∀ dir ∈ args.head?, v.machine.builder (v.realPath here dir) = none)
    (hpaths : ∀ x ∈ g.scans, Text.occursIn noMethodWords x.1.toList = false) :
    Command.runResources v here args =
        Outcome.ofFindings (g.orphaned.map Orphan.finding ++ [g.ownershipFinding]) ∧
      (g.ownershipFinding.status = .pass ↔ g.orphaned = []) ∧
      Command.reportDelivery v here
          (fun _ => (Delivery.written (g.value.indented 0 ++ ['\n'])).report) args =
        Outcome.ofFindings (g.orphaned.map Orphan.finding ++ [g.ownershipFinding]) := by
  obtain ⟨dir, rest, rfl, hdir, hprintable⟩ := runGraph_eq_ok hg
  have hreport : (Delivery.written (g.value.indented 0 ++ ['\n'])).report.Ends
      (g.orphaned.map Orphan.finding ++ [g.ownershipFinding]) () := by
    rw [Delivery.report, read_printable hprintable]
    exact ends_reportGraph (clear_of_graph (printable_eq_ok hprintable).1 hpaths)
  have hdelivery : delivery ⟨v, v.realPath here dir⟩ =
      .written (g.value.indented 0 ++ ['\n']) := by
    rw [delivery, hends dir rfl, hprintable]
  refine ⟨?_, status_ownershipFinding g, ?_⟩
  · rw [Command.runResources, Command.reportDelivery, if_pos hdir, check, hdelivery]
    exact Outcome.ofCheck_of_ends hreport
  · rw [Command.reportDelivery, if_pos hdir]
    exact Outcome.ofCheck_of_ends hreport

/-- An owner of three objects: the class of the first has no method that cleans up, the second is
never destroyed, and the third keeps a signal when it is destroyed. -/
def orphanedVolume : Volume :=
  let owner : Text := ("import \x7bA\x7d from './a.js'\nimport \x7bB\x7d from './b.js'\n" ++
    "import \x7bC\x7d from './c.js'\nthis._a = new A()\nthis._b = new B()\n" ++
    "this._c = new C()\nthis._c.destroy()").toList
  ⟨.dir [("ext", .dir [("a.js", .file (Text.encode "a.connect()".toList) false),
    ("b.js", .file (Text.encode "b.connect()\ndestroy() \x7b\x7d".toList) false),
    ("c.js", .file (Text.encode "this._s = c.connect()\ndestroy() \x7b\x7d".toList) false),
    ("o.js", .file (Text.encode owner) false)])], .plain⟩

/-- Three orphans with the three causes are each reported. -/
theorem runResources_of_runGraph_orphanedVolume :
    ∃ g, Command.runGraph orphanedVolume [] ["/ext"] = .ok g ∧
      g.orphaned.map (·.cause) = [.noMethod, .notCalled, .notCleaned "this._s".toList] ∧
      ∃ fs : List Finding,
        fs.map (fun f => (f.status, f.check)) =
          [(.warn, "resource-tracking/no-destroy-method"),
            (.warn, "resource-tracking/destroy-not-called"),
            (.warn, "resource-tracking/orphan-signal"), (.warn, "resource-tracking/ownership")] ∧
        Command.runResources orphanedVolume [] ["/ext"] = Outcome.ofFindings fs ∧
        Command.reportDelivery orphanedVolume []
            (fun _ => (Delivery.written (g.value.indented 0 ++ ['\n'])).report) ["/ext"] =
          Outcome.ofFindings fs := by
  have hvalues : ((Command.runGraph orphanedVolume [] ["/ext"]).toOption.map fun g =>
      (g.orphaned.map (·.cause),
        (g.orphaned.map Orphan.finding ++ [g.ownershipFinding]).map fun f => (f.status, f.check),
        g.scans.all fun x => !Text.occursIn noMethodWords x.1.toList)) =
      some ([.noMethod, .notCalled, .notCleaned "this._s".toList],
        [(.warn, "resource-tracking/no-destroy-method"),
          (.warn, "resource-tracking/destroy-not-called"),
          (.warn, "resource-tracking/orphan-signal"), (.warn, "resource-tracking/ownership")],
        true) := by decide +kernel
  cases hrun : Command.runGraph orphanedVolume [] ["/ext"] with
  | error outcome =>
      rw [hrun] at hvalues
      cases hvalues
  | ok g =>
      rw [hrun] at hvalues
      simp only [Except.toOption, Option.map_some, Option.some.injEq, Prod.mk.injEq,
        List.all_eq_true, Bool.not_eq_true'] at hvalues
      obtain ⟨hcauses, hfindings, hpaths⟩ := hvalues
      obtain ⟨hdirect, -, hread⟩ := runResources_of_runGraph hrun (fun _ _ => rfl) hpaths
      exact ⟨g, rfl, hcauses, _, hfindings, hdirect, hread⟩

end Resource

end ExtensionAudit
