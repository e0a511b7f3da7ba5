import ExtensionAudit.Outcome
import ExtensionAudit.Volume.Rows

/-!
# The report

The report on an extension gathers the lines that all families of checks have written.  A line
is taken apart at its first two bars into a status, the name of a check and a detail, and each
of the three is trimmed.  A detail may end in a suggestion for a fix, which the short report
leaves out.

Every result is counted by its status, and is kept as a line of a record.  The grouped report at
the end reads the record once more.
-/

namespace ExtensionAudit.Report

/-! ## Results -/

/-- A result: three texts, of which the first need not be the word for a status. -/
structure Result where
  /-- The status. -/
  status : Text
  /-- The name of the check. -/
  check : Text
  /-- The detail, with the suggestion for a fix. -/
  detail : Text
deriving DecidableEq, Repr

/-- The field before the first bar, and what follows the bar. -/
def field (t : Text) : Text × Text :=
  (Text.breakAt '|' t).getD (t, [])

/-- The last field of a line.  A single bar that ends it does not belong to it. -/
def lastField (t : Text) : Text :=
  match Text.breakAt '|' t with
  | some (before, []) => before
  | _ => t

/-- The three fields of a line. -/
def fields (line : Text) : Result :=
  let (status, rest) := field line
  let (check, rest) := field rest
  ⟨status, check, lastField rest⟩

/-- The result of a line, without the machine's blanks at the ends of the three texts.  A line
whose status is empty has none. -/
def Result.ofLine? (m : Machine) (line : Text) : Option Result :=
  let r := fields line
  let trimmed := Text.trimOf m.isBlank
  if r.status.isEmpty then none
  else some ⟨trimmed r.status, trimmed r.check, trimmed r.detail⟩

/-- The result of a finding, as it is. -/
def Result.ofFinding (f : Finding) : Result :=
  ⟨f.status.word.toList, f.check.toList, f.detail.toList⟩

/-- The line under which a result is kept. -/
def Result.line (r : Result) : Text :=
  r.status ++ '|' :: r.check ++ '|' :: r.detail

/-- The mark of a suggestion. -/
def fixMark : Text := "|fix:".toList

/-- The detail before the suggestion. -/
def withoutFix (detail : Text) : Text :=
  match Text.breakOn fixMark detail with
  | some (before, _) => before
  | none => detail

/-- The suggestion in a detail, without the machine's blanks in front. -/
def fix? (m : Machine) (detail : Text) : Option Text :=
  (Text.breakOn fixMark detail).map fun (_, after) => Text.trimFrontOf m.isBlank after

/-- The text filled with blanks up to a number of bytes. -/
def padded (width : Nat) (t : Text) : Text :=
  t ++ List.replicate (width - (Text.encode t).length) ' '

/-- The result in the short report. -/
def Result.shown (r : Result) : Text :=
  '[' :: padded 4 r.status ++ "] ".toList ++ padded 38 r.check ++ ' ' :: withoutFix r.detail

/-- The result has a status. -/
def Result.hasStatus (s : Status) (r : Result) : Bool :=
  r.status == s.word.toList

/-! ## Lines of the families -/

/-- The results of the lines that a run has said. -/
def resultsOf (m : Machine) (said : List String) : List Result :=
  let t := Text.captured (Text.join ['\n'] (said.map String.toList))
  (Text.splitAt '\n' t).filterMap (Result.ofLine? m)

/-! ## Recording -/

/-- How many results there have been of each status. -/
structure Tally where
  /-- Results that pass. -/
  passed : Nat := 0
  /-- Results that fail. -/
  failed : Nat := 0
  /-- Results that warn. -/
  warned : Nat := 0
  /-- Results that are skipped. -/
  skipped : Nat := 0
deriving DecidableEq, Repr

namespace Tally

/-- Counts a result of a status.  A word that is no status is counted nowhere. -/
def add (t : Tally) (status : Text) : Tally :=
  if status == Status.fail.word.toList then { t with failed := t.failed + 1 }
  else if status == Status.warn.word.toList then { t with warned := t.warned + 1 }
  else if status == Status.pass.word.toList then { t with passed := t.passed + 1 }
  else if status == Status.skip.word.toList then { t with skipped := t.skipped + 1 }
  else t

/-- How many results have one of the four statuses. -/
def total (t : Tally) : Nat :=
  t.passed + t.failed + t.warned + t.skipped

end Tally

/-- What is kept of the results. -/
structure Ledger where
  /-- The counts. -/
  tally : Tally := {}
  /-- The lines of the results, the last one first. -/
  kept : List Text := []

namespace Ledger

/-- Counts and keeps a result. -/
def add (l : Ledger) (r : Result) : Ledger :=
  { tally := l.tally.add r.status, kept := r.line :: l.kept }

/-- The ledger of results, one after the other. -/
def ofResults (rs : List Result) : Ledger :=
  rs.foldl add {}

/-- The record: the lines of the results in order, each with a newline. -/
def record (l : Ledger) : Text :=
  l.kept.reverse.flatMap (· ++ ['\n'])

/-- The lines that are read from the record. -/
def lines (l : Ledger) : List Text := l.record.rows

end Ledger

/-- The names of the checks among results of a status, each once. -/
def checksWith (s : Status) (lines : List Text) : List Text :=
  ((lines.map fields).filter (Result.hasStatus s)).map (·.check) |>.eraseDups

/-! ## The grouped report -/

/-- The results of a status, as the grouped report lists them. -/
def group (mark : String) (s : Status) (lines : List Text) : List Text :=
  ((lines.map fields).filter (Result.hasStatus s)).map fun r =>
    mark.toList ++ r.check ++ ": ".toList ++ withoutFix r.detail

/-- The suggestions of all results. -/
def fixes (m : Machine) (lines : List Text) : List Text :=
  (lines.map fields).filterMap fun r =>
    (fix? m r.detail).map fun fix => "  ".toList ++ r.check ++ ": ".toList ++ fix

/-- A line of equals signs. -/
def doubleRule : String := String.ofList (List.replicate 64 '=')

/-- A line of hyphens. -/
def singleRule : String := String.ofList (List.replicate 64 '-')

/-- What the counts say about the review. -/
inductive Verdict where
  /-- Something blocks the extension. -/
  | rejected (failures : Nat)
  /-- Many checks are flagged. -/
  | likelyRejected (checks findings : Nat)
  /-- Some checks are flagged. -/
  | commented (checks findings : Nat)
deriving DecidableEq, Repr

/-- The words for a verdict. -/
def Verdict.text : Verdict → String
  | .rejected n => s!"  WILL BE REJECTED: {n} blocking issue(s) found"
  | .likelyRejected checks n => s!"  LIKELY REJECTED: {checks} checks flagged ({n} total findings)"
  | .commented checks n =>
      s!"  MAY PASS WITH COMMENTS: {checks} checks flagged ({n} total findings)"

/-- The verdict.  The checks with warnings are read from the record, the other numbers are those
of the tally.  Where nothing is flagged there is no verdict, and the report breaks off. -/
def verdict? (l : Ledger) : Option Verdict :=
  let flagged := (checksWith .warn l.lines).length
  if flagged == 0 then none
  else if l.tally.failed > 0 then some (.rejected l.tally.failed)
  else if flagged > 8 then some (.likelyRejected flagged l.tally.warned)
  else some (.commented flagged l.tally.warned)

/-- The grouped report up to the verdict. -/
def groups (m : Machine) (l : Ledger) : List String :=
  let lines := l.lines
  let suggestions := fixes m lines
  ["", doubleRule, "  VERBOSE REPORT", doubleRule, "", "--- BLOCKING ISSUES (FAIL) ---"] ++
    (group "  ✗ " .fail lines).map String.ofList ++
    ["", "--- WARNINGS ---"] ++ (group "  ⚠ " .warn lines).map String.ofList ++
    (if suggestions.isEmpty then []
     else ["", "--- FIX SUGGESTIONS ---"] ++ suggestions.map String.ofList) ++
    ["", "--- VERDICT ---"]

/-! ## The whole report -/

/-- The lines at the top. -/
def header (dir : String) : List String :=
  [doubleRule, "  ego-lint — GNOME Shell Extension Compliance Checker", doubleRule, "",
    s!"Extension: {dir}", ""]

/-- The lines with the counts. -/
def summary (t : Tally) : List String :=
  ["", singleRule,
    s!"  Results: {t.total} checks — {t.passed} passed, {t.failed} failed, " ++
      s!"{t.warned} warnings, {t.skipped} skipped",
    singleRule]

/-- The status of a report: one if something blocks the extension. -/
def status (t : Tally) : Nat :=
  if t.failed > 0 then 1 else 0

/-- The results in the short report. -/
def shownLines (rs : List Result) : List String :=
  rs.map fun r => String.ofList r.shown

/-- The report that breaks off before its second part. -/
def breakOff (dir : String) (first : List Result) : Outcome :=
  { lines := header dir ++ shownLines first, status := 1 }

/-- The report on the results of two parts, with the grouped report if `verbose`. -/
def write (m : Machine) (verbose : Bool) (dir : String) (first second : List Result) : Outcome :=
  let ledger := Ledger.ofResults (first ++ second)
  let lines :=
    header dir ++ shownLines first ++ [""] ++ shownLines second ++ summary ledger.tally
  if verbose then
    match verdict? ledger with
    | some v =>
        { lines := lines ++ groups m ledger ++ [v.text, doubleRule], status := status ledger.tally }
    | none => { lines := lines ++ groups m ledger, status := 1 }
  else
    { lines := lines ++ ["  (run with --verbose for grouped report and fix suggestions)"]
      status := status ledger.tally }

/-! ## Help -/

/-- How to use the program. -/
def help : List String :=
  ["Usage: ego-lint [OPTIONS] [EXTENSION_DIR]",
    "",
    "GNOME Shell extension compliance checker for EGO (extensions.gnome.org)",
    "submission. Runs deterministic checks — bash + python only, no AI, no",
    "network access.",
    "",
    "Options:",
    "  -h, --help       Show this help message and exit",
    "  -v, --verbose    Show verbose report with grouped results and verdict",
    "",
    "Checks (113 pattern rules + 13 structural scripts):",
    "  metadata         UUID, required fields, shell-version, session-modes, GNOME trademark",
    "  imports          GTK/Shell import segregation, transitive dependency analysis",
    "  schema           Schema ID, path format, glib-compile-schemas dry-run",
    "  lifecycle        enable/disable symmetry, signals, timeouts, D-Bus, widgets",
    "  async            _destroyed guards, cancellable usage",
    "  gobject          GObject.registerClass patterns, GTypeName validation",
    "  resources        Cross-file resource graph, orphan detection",
    "  security         Subprocess validation, pkexec, clipboard/network disclosure",
    "  deprecated       Mainloop, Lang, ByteArray, ExtensionUtils, legacy imports",
    "  version-compat   GNOME 44-50 migration rules (version-gated)",
    "  css              Unscoped classes, !important, Shell theme overrides",
    "  quality          AI slop detection, code provenance scoring, obfuscation",
    "  package          Forbidden/required files, compiled schemas",
    "  preferences      ExtensionPreferences base class, GTK4/Adwaita, memory leaks",
    "",
    "Exit codes:",
    "  0  No blocking issues found",
    "  1  Blocking issues found (likely rejection)"]

end ExtensionAudit.Report
