import Mathlib
import ExtensionAudit.Command
import ExtensionAudit.Proofs.Outcome
import ExtensionAudit.Proofs.Report

/-!
# The audit as a whole

The audit gathers results: its own findings on the layout and on the linter, and those that it
reads off the lines of the other parts.  All of them are clean, so what the report counts, records
and concludes is said in terms of the results (`Report.count`, `Report.checksOf`).

The status of a report depends on the results alone.  So it does not tell that a part has been
ended by a fault: the lines that are said of the fault are read like any others.
-/

namespace ExtensionAudit

/-! ## Findings that take one line -/

/-- The finding has no newline in its texts, and no bar in the name of the check. -/
structure Finding.OneLine (f : Finding) : Prop where
  /-- No bar is in the name of the check. -/
  bar : '|' ∉ f.check.toList
  /-- No newline is in the name of the check. -/
  check : '\n' ∉ f.check.toList
  /-- No newline is in the detail. -/
  detail : '\n' ∉ f.detail.toList

instance (f : Finding) : Decidable f.OneLine :=
  decidable_of_iff ('|' ∉ f.check.toList ∧ '\n' ∉ f.check.toList ∧ '\n' ∉ f.detail.toList)
    ⟨fun ⟨hbar, hcheck, hdetail⟩ => ⟨hbar, hcheck, hdetail⟩, fun h => ⟨h.bar, h.check, h.detail⟩⟩

/-- A literal is the list of its characters, so there is no need to read its bytes. -/
theorem notMem_literal {c : Char} {cs : List Char} (h : c ∉ cs) :
    c ∉ (String.ofList cs).toList := by
  rwa [String.toList_ofList]

theorem notMem_toList_append {c : Char} {s t : String} (hs : c ∉ s.toList) (ht : c ∉ t.toList) :
    c ∉ (s ++ t).toList := by
  simp [hs, ht]

/-- A number between two texts brings no newline. -/
theorem newline_notMem_around {s t : String} (hs : '\n' ∉ s.toList) (n : Nat)
    (ht : '\n' ∉ t.toList) : '\n' ∉ (s ++ toString n ++ t).toList := by
  refine notMem_toList_append (notMem_toList_append hs fun h => ?_) ht
  rw [Nat.toString_eq_ofList_toDigits, String.toList_ofList] at h
  exact absurd (Nat.isDigit_of_mem_toDigits (by decide) (by decide) h) (by decide)

namespace Report

variable {m : Machine}

/-- The word for a status is read as it is written. -/
theorem word_facts (s : Status) :
    '|' ∉ s.word.toList ∧ '\n' ∉ s.word.toList ∧
      s.word.toList.filter (fun c => !Text.isZero c) = s.word.toList ∧ s.word.toList ≠ [] := by
  cases s <;> decide

theorem trimOf_word (m : Machine) (s : Status) :
    Text.trimOf m.isBlank s.word.toList = s.word.toList := by
  cases s <;> exact m.trimOf_eq_self (by decide)

theorem clean_ofFinding {f : Finding} (h : f.OneLine) : (Result.ofFinding f).Clean m := by
  obtain ⟨hbar, hnewline, -, -⟩ := word_facts f.status
  exact ⟨hbar, h.bar, Result.newline_notMem_line hnewline h.check h.detail, trimOf_word m _⟩

theorem toList_line (f : Finding) :
    f.line.toList = f.status.word.toList ++ '|' :: (f.check.toList ++ '|' :: f.detail.toList) := by
  simp [Finding.line]

end Report

namespace Layout

theorem oneLine_hitFinding {bad : Status} {check none : String} {hits : List String}
    {found : Nat → String} (hbar : '|' ∉ check.toList) (hcheck : '\n' ∉ check.toList)
    (hfound : ∀ n, '\n' ∉ (found n).toList) (hnone : '\n' ∉ none.toList) :
    (hitFinding bad check hits found none).OneLine := by
  unfold hitFinding
  split
  · exact ⟨hbar, hcheck, hnone⟩
  · exact ⟨hbar, hcheck, hfound _⟩

/-- The finding on a main file takes one line if its name does. -/
theorem oneLine_mainFile (ext : Extension) {name : String} (hbar : '|' ∉ name.toList)
    (hname : '\n' ∉ name.toList) : (mainFile ext name).OneLine := by
  have hcheck : '|' ∉ s!"file-structure/{name}".toList ∧
      '\n' ∉ s!"file-structure/{name}".toList :=
    ⟨notMem_toList_append (notMem_literal (by decide)) hbar,
      notMem_toList_append (notMem_literal (by decide)) hname⟩
  unfold mainFile
  split
  · exact ⟨hcheck.1, hcheck.2, notMem_toList_append hname (notMem_literal (by decide))⟩
  · exact ⟨hcheck.1, hcheck.2, notMem_toList_append hname (notMem_literal (by decide))⟩

/-- The finding on the license takes one line. -/
theorem oneLine_license (ext : Extension) : (license ext).OneLine := by
  have hcheck : '|' ∉ "license".toList ∧ '\n' ∉ "license".toList :=
    ⟨notMem_literal (by decide), notMem_literal (by decide)⟩
  unfold license
  split
  · exact ⟨hcheck.1, hcheck.2, notMem_literal (by decide)⟩
  · dsimp only
    split
    · exact ⟨hcheck.1, hcheck.2, notMem_literal (by decide)⟩
    · exact ⟨hcheck.1, hcheck.2, notMem_literal (by decide)⟩

theorem oneLine_otherScripts (ext : Extension) : (otherScripts ext).OneLine := by
  unfold otherScripts
  dsimp only
  split
  all_goals
    refine oneLine_hitFinding (notMem_literal (by decide)) (notMem_literal (by decide))
      (fun n => notMem_toList_append ?_ (notMem_literal (by decide))) (notMem_literal (by decide))
    exact newline_notMem_around (notMem_literal (by decide)) n (notMem_literal (by decide))

theorem oneLine_permissions (ext : Extension) : (permissions ext).OneLine := by
  unfold permissions
  refine oneLine_hitFinding (notMem_literal (by decide)) (notMem_literal (by decide))
    (fun n => notMem_toList_append ?_ (notMem_literal (by decide))) (notMem_literal (by decide))
  exact newline_notMem_around (notMem_literal (by decide)) n (notMem_literal (by decide))

/-- The findings on the layout take one line each, whatever the files are called. -/
theorem oneLine_findings (ext : Extension) : ∀ f ∈ findings ext, f.OneLine := by
  simp only [findings, List.forall_mem_cons]
  refine ⟨oneLine_mainFile ext (notMem_literal (by decide)) (notMem_literal (by decide)),
    oneLine_mainFile ext (notMem_literal (by decide)) (notMem_literal (by decide)),
    oneLine_license ext, ?consoleLog, ?outdated, ?binaries, oneLine_otherScripts ext,
    oneLine_permissions ext, ?policies, ?minified, List.forall_mem_nil _⟩
  all_goals
    exact oneLine_hitFinding (notMem_literal (by decide)) (notMem_literal (by decide))
      (fun n => newline_notMem_around (notMem_literal (by decide)) n (notMem_literal (by decide)))
      (notMem_literal (by decide))

end Layout

namespace Linter

/-- Only digits are taken for a number. -/
theorem isDigit_of_mem_countsFrom {word digits t : Text} (hdigits : ∀ c ∈ digits, c.isDigit = true)
    {count : Text} (h : count ∈ countsFrom word digits t) : ∀ c ∈ count, c.isDigit = true := by
  induction t generalizing digits with
  | nil => cases h
  | cons c rest ih =>
      rw [countsFrom] at h
      split at h
      next hc =>
        refine ih (fun d hd => ?_) h
        rcases List.mem_append.mp hd with hd | hd
        · exact hdigits d hd
        · rw [List.mem_singleton.mp hd, hc]
      next =>
        split at h
        next =>
          rcases List.mem_cons.mp h with rfl | h
          · exact hdigits
          · exact ih (List.forall_mem_nil _) h
        next => exact ih (List.forall_mem_nil _) h

theorem newline_notMem_lastCount? {m : Machine} {word : String} {printed count : Text}
    (h : lastCount? m word printed = some count) : '\n' ∉ count := by
  obtain ⟨row, -, hcount⟩ := List.mem_flatMap.mp (List.mem_of_getLast? h)
  intro hmem
  exact absurd (isDigit_of_mem_countsFrom (List.forall_mem_nil _) hcount _ hmem) (by decide)

/-- The finding of the linter takes one line. -/
theorem oneLine_of_finding? {ext : Extension} {f : Finding} (h : finding? ext = some f) :
    f.OneLine := by
  have hcheck : '|' ∉ "eslint".toList ∧ '\n' ∉ "eslint".toList :=
    ⟨notMem_literal (by decide), notMem_literal (by decide)⟩
  simp only [finding?, judged?] at h
  split at h
  next =>
    split at h
    · cases h
      exact ⟨hcheck.1, hcheck.2, notMem_literal (by decide)⟩
    split at h
    · cases h
      exact ⟨hcheck.1, hcheck.2, notMem_literal (by decide)⟩
    obtain ⟨errors, herrors, h⟩ := Option.bind_eq_some_iff.mp h
    obtain ⟨warnings, hwarnings, h⟩ := Option.bind_eq_some_iff.mp h
    have hcounted : '\n' ∉ (String.ofList warnings ++ " warning(s)").toList :=
      notMem_toList_append (notMem_literal (newline_notMem_lastCount? hwarnings))
        (notMem_literal (by decide))
    split at h
    · cases h
      refine ⟨hcheck.1, hcheck.2, notMem_toList_append (notMem_toList_append ?_ ?_) hcounted⟩
      · exact notMem_literal (newline_notMem_lastCount? herrors)
      · exact notMem_literal (by decide)
    · cases h
      exact ⟨hcheck.1, hcheck.2, hcounted⟩
  next =>
    cases h
    exact ⟨hcheck.1, hcheck.2, notMem_literal (by decide)⟩

end Linter

namespace Command

open Report (Result Ledger Verdict)

/-! ## The results of an audit -/

section

variable (rules : String) (here : Path) (ext : Extension)

/-- The result of the linter, if the audit does not break off. -/
def linterResults : List Result := (Linter.finding? ext).toList.map .ofFinding

/-- The results of an audit that does not break off, in order. -/
def results : List Result :=
  firstResults rules here ext ++ linterResults ext ++ secondResults rules here ext

variable {rules here ext}

/-- A result is one of the layout, of a part or of the linter. -/
theorem mem_results {r : Result} :
    r ∈ results rules here ext ↔
      (∃ f ∈ Layout.findings ext, Result.ofFinding f = r) ∨
        (∃ part ∈ firstParts ++ secondParts, r ∈ part.results rules here ext) ∨
          ∃ f, Linter.finding? ext = some f ∧ Result.ofFinding f = r := by
  simp only [results, firstResults, secondResults, linterResults, List.mem_append, List.mem_map,
    List.mem_flatMap, Option.mem_toList]
  constructor
  · rintro (((h | ⟨part, hpart, h⟩) | h) | ⟨part, hpart, h⟩)
    · exact .inl h
    · exact .inr (.inl ⟨part, .inl hpart, h⟩)
    · exact .inr (.inr h)
    · exact .inr (.inl ⟨part, .inr hpart, h⟩)
  · rintro (h | ⟨part, hpart | hpart, h⟩ | h)
    · exact .inl (.inl (.inl h))
    · exact .inl (.inl (.inr ⟨part, hpart, h⟩))
    · exact .inr ⟨part, hpart, h⟩
    · exact .inl (.inr h)

theorem oneLine_noRules : noRules.OneLine :=
  ⟨notMem_literal (by decide), notMem_literal (by decide), notMem_literal (by decide)⟩

theorem clean_of_mem_partResults {part : Part} {r : Result} (h : r ∈ part.results rules here ext) :
    r.Clean ext.volume.machine := by
  unfold Part.results at h
  split at h
  · rw [List.mem_singleton.mp h]
    exact Report.clean_ofFinding oneLine_noRules
  · exact Report.clean_of_mem_resultsOf h

theorem clean_results : ∀ r ∈ results rules here ext, r.Clean ext.volume.machine := by
  intro r hr
  rcases mem_results.mp hr with ⟨f, hf, rfl⟩ | ⟨part, -, hpart⟩ | ⟨f, hf, rfl⟩
  · exact Report.clean_ofFinding (Layout.oneLine_findings ext f hf)
  · exact clean_of_mem_partResults hpart
  · exact Report.clean_ofFinding (Linter.oneLine_of_finding? hf)

/-! ## The report -/

variable (rules here ext) in
/-- The lines of the report up to the counts. -/
def upToCounts : List String :=
  Report.header ext.base.text ++
    Report.shownLines (firstResults rules here ext ++ linterResults ext) ++ [""] ++
      Report.shownLines (secondResults rules here ext)

/-- The lines with the counts of results. -/
def countLines (rs : List Result) : List String :=
  let passed := Report.count .pass rs
  let failed := Report.count .fail rs
  let warned := Report.count .warn rs
  let skipped := Report.count .skip rs
  let total := passed + failed + warned + skipped
  ["", Report.singleRule,
    s!"  Results: {total} checks — {passed} passed, {failed} failed, " ++
      s!"{warned} warnings, {skipped} skipped",
    Report.singleRule]

theorem summary_ofResults (rs : List Result) :
    Report.summary (Ledger.ofResults rs).tally = countLines rs := by
  rw [Report.tally_ofResults]
  rfl

theorem status_ofResults (rs : List Result) :
    Report.status (Ledger.ofResults rs).tally = if 0 < Report.count .fail rs then 1 else 0 := by
  rw [Report.tally_ofResults]
  rfl

theorem audit_of_none (h : Linter.finding? ext = none) (verbose : Bool) :
    audit here rules verbose ext =
      Report.breakOff ext.base.text (firstResults rules here ext) := by
  rw [audit, h]

theorem audit_of_ne_none (h : Linter.finding? ext ≠ none) (verbose : Bool) :
    audit here rules verbose ext =
      Report.write ext.volume.machine verbose ext.base.text
        (firstResults rules here ext ++ linterResults ext) (secondResults rules here ext) := by
  obtain ⟨linted, hlinted⟩ := Option.ne_none_iff_exists'.mp h
  rw [audit, linterResults, hlinted]
  rfl

theorem audit_short (h : Linter.finding? ext ≠ none) :
    audit here rules false ext =
      { lines := upToCounts rules here ext ++ countLines (results rules here ext) ++
          ["  (run with --verbose for grouped report and fix suggestions)"]
        status := if 0 < Report.count .fail (results rules here ext) then 1 else 0 } := by
  rw [audit_of_ne_none h, Report.write, ← results]
  simp only [Bool.false_eq_true, if_false, upToCounts, summary_ofResults, status_ofResults]

/-- The grouped report: the counts, the groups and a verdict, if there is one. -/
theorem audit_verbose (h : Linter.finding? ext ≠ none) :
    audit here rules true ext =
      match Report.verdict? (Ledger.ofResults (results rules here ext)) with
      | some v =>
          { lines := upToCounts rules here ext ++ countLines (results rules here ext) ++
              Report.groups ext.volume.machine (Ledger.ofResults (results rules here ext)) ++
                [v.text, Report.doubleRule]
            status := if 0 < Report.count .fail (results rules here ext) then 1 else 0 }
      | none =>
          { lines := upToCounts rules here ext ++ countLines (results rules here ext) ++
              Report.groups ext.volume.machine (Ledger.ofResults (results rules here ext))
            status := 1 } := by
  rw [audit_of_ne_none h, Report.write, ← results]
  cases Report.verdict? (Ledger.ofResults (results rules here ext)) <;>
    simp only [if_true, upToCounts, summary_ofResults, status_ofResults]

theorem status_short_eq_zero_iff (h : Linter.finding? ext ≠ none) :
    (audit here rules false ext).status = 0 ↔
      ∀ r ∈ results rules here ext, r.hasStatus .fail = false := by
  rw [audit_short h]
  dsimp only
  rw [ite_eq_right_iff, Report.count_pos_iff]
  simp

theorem status_short_eq_one_iff (h : Linter.finding? ext ≠ none) :
    (audit here rules false ext).status = 1 ↔
      ∃ r ∈ results rules here ext, r.hasStatus .fail = true := by
  rw [audit_short h, ← Report.count_pos_iff]
  dsimp only
  split
  next hfail => simp [hfail]
  next hnone => simp [Nat.eq_zero_of_not_pos hnone]

theorem status_verbose_eq_zero_iff (h : Linter.finding? ext ≠ none) :
    (audit here rules true ext).status = 0 ↔
      (∀ r ∈ results rules here ext, r.hasStatus .fail = false) ∧
        ∃ r ∈ results rules here ext, r.hasStatus .warn = true := by
  rw [← status_short_eq_zero_iff h, audit_short h, audit_verbose h]
  by_cases hwarn : ∃ r ∈ results rules here ext, r.hasStatus .warn = true
  · obtain ⟨v, hv, -⟩ := Report.exists_verdict clean_results hwarn
    simp only [hv, hwarn, and_true]
  · simp only [Report.verdict?_eq_none clean_results hwarn, hwarn, and_false, one_ne_zero]

end

/-- The report agrees with the results.  It breaks off after the first of them, with status one and
without its counts, iff the linter leaves it without an answer.  Otherwise all results are recorded
in order, and the short report counts those of each status and has status one iff one of them
fails.  With the grouped report, there is a verdict iff one of them warns, and it depends on whether
one fails and on how many checks warn. -/
theorem audit_agrees_with_results (rules : String) (here : Path) (ext : Extension) :
    let rs := results rules here ext
    let checks := (Report.checksOf .warn rs).card
    let m := ext.volume.machine
    (Linter.finding? ext = none → ∀ verbose, audit here rules verbose ext =
        Report.breakOff ext.base.text (firstResults rules here ext)) ∧
      (Linter.finding? ext ≠ none →
        (Ledger.ofResults rs).record = (rs.map Result.line).flatMap (· ++ ['\n']) ∧
        (Ledger.ofResults rs).lines = rs.map Result.line ∧
        (∀ r ∈ rs, Text.trimOf m.isBlank r.status = r.status) ∧
        (audit here rules false ext).lines = upToCounts rules here ext ++ countLines rs ++
          ["  (run with --verbose for grouped report and fix suggestions)"] ∧
        ((audit here rules false ext).status = 1 ↔ ∃ r ∈ rs, r.hasStatus .fail = true) ∧
        ((audit here rules false ext).status = 0 ↔ ¬ ∃ r ∈ rs, r.hasStatus .fail = true) ∧
        ((∃ r ∈ rs, r.hasStatus .warn = true) → ∃ v : Verdict,
          (audit here rules true ext).lines = upToCounts rules here ext ++ countLines rs ++
            Report.groups m (Ledger.ofResults rs) ++ [v.text, Report.doubleRule] ∧
          (v = .rejected (Report.count .fail rs) ↔ ∃ r ∈ rs, r.hasStatus .fail = true) ∧
          (v = .likelyRejected checks (Report.count .warn rs) ↔
            (¬ ∃ r ∈ rs, r.hasStatus .fail = true) ∧ 8 < checks) ∧
          (v = .commented checks (Report.count .warn rs) ↔
            (¬ ∃ r ∈ rs, r.hasStatus .fail = true) ∧ ¬ 8 < checks ∧
              ∃ r ∈ rs, r.hasStatus .warn = true)) ∧
        ((¬ ∃ r ∈ rs, r.hasStatus .warn = true) →
          (audit here rules true ext).lines = upToCounts rules here ext ++ countLines rs ++
            Report.groups m (Ledger.ofResults rs))) := by
  intro rs checks m
  have hclean : ∀ r ∈ rs, r.Clean m := clean_results
  refine ⟨audit_of_none, fun hlinted => ?_⟩
  refine ⟨Report.record_ofResults rs, Report.lines_ofResults hclean,
    fun r hr => (hclean r hr).trimmed, by rw [audit_short hlinted], ?_, ?_, fun hwarn => ?_,
    fun hwarn => ?_⟩
  · exact status_short_eq_one_iff hlinted
  · rw [status_short_eq_zero_iff hlinted]
    simp [rs]
  · obtain ⟨v, hv, hverdict⟩ := Report.exists_verdict hclean hwarn
    exact ⟨v, by rw [audit_verbose hlinted, hv], hverdict⟩
  · rw [audit_verbose hlinted, Report.verdict?_eq_none hclean hwarn]

/-! ## Faults -/

/-- The rules of a file that is missing are not applied, so no fault ends them. -/
theorem fault_applyRules_of_none {v : Volume} {here : Path} {rules dir : String}
    (h : readRules v here rules = .ok none) : (applyRules v here rules dir).fault = none := by
  rw [applyRules, h]

/-- A part that a fault has ended has the results of what it has written, and then those of what is
said of the fault. -/
theorem results_of_fault {rules : String} {here : Path} {ext : Extension} {part : Part} {e : Fault}
    (h : (part.outcome rules here ext).fault = some e) :
    let m := ext.volume.machine
    let o := part.outcome rules here ext
    part.results rules here ext = Report.resultsOf m (o.lines ++ o.messages) ++
      Report.resultsOf m (m.traceback part.word (part.args rules ext) e) := by
  intro m o
  have hsaid : part.said rules here ext =
      o.lines ++ o.messages ++ m.traceback part.word (part.args rules ext) e := by
    cases part with
    | files f => cases h
    | family f => simp only [Part.said, Part.faultLines, h, o, m]
    | rules => simp only [Part.said, Part.faultLines, h, o, m]
    | resources => simp only [Part.said, Part.faultLines, h, o, m]
  rw [← Report.resultsOf_append, ← hsaid]
  unfold Part.results
  split
  next hnone =>
    have hrules : (applyRules ext.volume here rules ext.base.text).fault = some e := h
    rw [fault_applyRules_of_none hnone] at hrules
    cases hrules
  next => rfl

/-- The status is zero iff the linter leaves an answer, nothing fails and, for the grouped report,
something warns.  A part that a fault has ended adds to the results those of what it has written,
and then those of what is said of the fault.  So the fault itself does not show in the status. -/
theorem status_audit_eq_zero_iff (rules : String) (here : Path) (verbose : Bool)
    (ext : Extension) :
    ((audit here rules verbose ext).status = 0 ↔
        Linter.finding? ext ≠ none ∧
        (∀ r ∈ results rules here ext, r.hasStatus .fail = false) ∧
          (verbose = true → ∃ r ∈ results rules here ext, r.hasStatus .warn = true)) ∧
      ∀ (part : Part) (e : Fault), (part.outcome rules here ext).fault = some e →
        let m := ext.volume.machine
        let o := part.outcome rules here ext
        part.results rules here ext = Report.resultsOf m (o.lines ++ o.messages) ++
          Report.resultsOf m (m.traceback part.word (part.args rules ext) e) := by
  refine ⟨?_, fun part e hfault => results_of_fault hfault⟩
  by_cases hlinted : Linter.finding? ext = none
  · simp [audit_of_none hlinted, Report.breakOff, hlinted]
  · cases verbose with
    | false => simp [status_short_eq_zero_iff hlinted, hlinted]
    | true => simp [status_verbose_eq_zero_iff hlinted, hlinted]

/-! ## An extension in which nothing is flagged -/

/-- The result calls for attention: it fails or it warns. -/
def Flagged (r : Result) : Prop := r.hasStatus .fail = true ∨ r.hasStatus .warn = true

instance : DecidablePred Flagged := fun r =>
  inferInstanceAs (Decidable (r.hasStatus .fail = true ∨ r.hasStatus .warn = true))

/-- The files of an extension in which nothing is flagged.  Its script and its manifest cannot be
read, so the parts that read them break off. -/
def quietFiles : List (String × Entry) :=
  [("LICENSE", .file (Text.encode "GPL".toList) false), ("extension.js", .unreadable),
    ("metadata.json", .unreadable)]

/-- The extension with these files, beside a file with a rule. -/
def quietExtension : Extension :=
  ⟨⟨.dir [("ext", .dir quietFiles),
    ("rules", .file (Text.encode "- id: R\n  pattern: eval\n  severity: blocking".toList) false)],
    .plain⟩, ["ext"]⟩

theorem not_flagged_quietExtension :
    Linter.finding? quietExtension ≠ none ∧
      ∀ r ∈ results "/rules" [] quietExtension, ¬ Flagged r := by
  decide +kernel

/-- Six families of checks have been ended by a fault, and the status is zero. -/
theorem status_audit_quietExtension :
    (∀ family ∈ [Family.manifest, .quality, .lifecycle, .waiting, .startup, .registration],
        ((Part.family family).outcome "/rules" [] quietExtension).fault = some .unreadable) ∧
      (audit [] "/rules" false quietExtension).status = 0 := by
  obtain ⟨hlinted, hquiet⟩ := not_flagged_quietExtension
  refine ⟨by decide, (status_short_eq_zero_iff hlinted).mpr fun r hr => ?_⟩
  exact Bool.eq_false_iff.mpr fun hfail => hquiet r hr (.inl hfail)

end Command

end ExtensionAudit
