import ExtensionAudit.Manifest
import ExtensionAudit.Pattern.Search
import ExtensionAudit.Rule.Gate
import ExtensionAudit.Suppression
import ExtensionAudit.Volume.Glob

/-!
# Applying rules

Each rule is applied to the extension by itself, and the blocks of findings stand in the order
of the rules.

* A rule that does not apply to the declared versions, or whose pattern is malformed, is skipped.
* A rule looks at the files that one of its scopes matches, each once per scope, foreign
  directories apart.  A file that holds the replacement is left alone.
* A line that the pattern matches is a hit, unless a directive silences it.
* A plain rule reports each hit.  A rule that deduplicates reports the files with hits, in order,
  in one finding.  A rule without hits passes.
-/

namespace ExtensionAudit.Rule

/-- A line that a rule finds fault with. -/
structure Hit where
  /-- The file, against the extension's directory. -/
  file : String
  /-- The number of the line. -/
  line : Nat
deriving DecidableEq, Repr

/-- The lines of a text with their numbers, each after the line before it. -/
def linesInContext (t : Text) : List (Text × Nat × Text) :=
  let lines := Text.linesWithEnds t
  List.zip ([] :: lines) (Text.numbered lines)

/-- The pattern matches a line and no directive of it or of the line before silences the check.
A match with a group that stops before it starts is a fault. -/
def isHit (p : Pattern) (check : Option Text) (previous line : Text) : Except Fault Bool :=
  match p.search line with
  | none => .ok false
  | some m =>
      if m.isCrossed then .error .crossedGroup
      else .ok (!Suppression.isSuppressed line previous check)

/-- The texts that a scope's file name patterns match, each once, as paths. -/
def scopeFiles (ext : Extension) (scope : Text) : List Text :=
  let base := (Path.text ext.base).toList
  let deep := Glob.joinText (Glob.joinText base ['*', '*']) scope
  let flat := Glob.joinText base scope
  (Glob.matching ext.volume true deep ++ Glob.matching ext.volume false flat).eraseDups

/-- A file belongs to the extension itself. -/
def isOwn (relative : String) : Bool :=
  !(Path.components relative).any Extension.isForeignDir

/-- The files that a scope selects: their paths, and their names against the extension. -/
def selected (ext : Extension) (scope : Text) : List (Path × String) :=
  (scopeFiles ext scope).filterMap fun t =>
    let p := Glob.pathOf t
    let relative := Path.relativeTo ext.base (Path.walk [] p)
    if ext.volume.isFile p && isOwn relative then some (p, relative) else none

/-- The text holds the rule's replacement. -/
def isReplaced (r : Rule) (t : Text) : Except Fault Bool :=
  match r.getD "replacement-pattern" "" with
  | .text new => .ok (!new.isEmpty && Text.occursIn new t)
  | .list items => if items.isEmpty then .ok false else .error .wrongKind

/-- The name by which directives silence a rule. -/
def checkName? (r : Rule) : Option Text :=
  match r.getD "id" "?" with
  | .text t => some t
  | .list _ => none

/-- The name of a rule in findings. -/
def name (r : Rule) : Value := r.getD "id" "?"

/-- The scopes of a rule. -/
def scopes (r : Rule) : List Text :=
  match r.get? "scope" with
  | none => ["*.js".toList]
  | some (.text t) => [t]
  | some (.list items) => items

/-- The status of a rule's findings. -/
def status (r : Rule) : Status :=
  if r.getD "severity" "advisory" == .text "blocking".toList then .fail else .warn

/-- The rule reports files and not lines. -/
def deduplicates (r : Rule) : Bool :=
  r.getD "deduplicate" "" == .text "true".toList

/-- The detail of a finding, with the suggested fix. -/
def withFix (r : Rule) (detail : String) : String :=
  let fix := r.getD "fix" ""
  if fix.isPresent then detail ++ "|fix: " ++ String.ofList fix.shown else detail

/-- The message of a rule. -/
def message (r : Rule) : String :=
  String.ofList ((r.get? "message").getD r.name).shown

/-- Reports a finding under the rule's name. -/
def reportAs (r : Rule) (status : Status) (detail : String) : Check Unit :=
  Check.report status (String.ofList r.name.shown) detail

/-- The order of file names. -/
def fileBefore (a b : String) : Bool := !Text.precedes b.toList a.toList

/-- Reports a hit of a plain rule. -/
def reportHit (r : Rule) (h : Hit) : Check Unit :=
  r.reportAs r.status (r.withFix s!"{h.file}:{h.line}: {r.message}")

/-- The hits of a rule on one line of a file, none or one, which is reported if the rule is
plain. -/
def lineHits (r : Rule) (p : Pattern) (file : String) (previous : Text) (n : Nat) (line : Text) :
    Check (List Hit) := do
  if ← isHit p r.checkName? previous line then
    let h : Hit := ⟨file, n⟩
    if !r.deduplicates then r.reportHit h
    return [h]
  else return []

/-- The hits of a rule in one file, line by line.  A file that cannot be read has none. -/
def fileHits (ext : Extension) (r : Rule) (p : Pattern) (file : Path × String) :
    Check (List Hit) := do
  match ext.volume.text file.1 with
  | .error _ => return []
  | .ok t =>
      if ← r.isReplaced t then return []
      Trace.collect (linesInContext t) fun (previous, n, line) =>
        r.lineHits p file.2 previous n line

/-- A scope with special characters asks for the names in the directory that it starts with, if
the extension's path has no special characters before it.  The names in a directory whose path
holds a zero character cannot be asked for. -/
def checkScope (ext : Extension) (scope : Text) : Except Fault Unit :=
  let base := (Path.text ext.base).toList
  let asks := Glob.isPattern scope && (scope.head? == some '/' || !Glob.isPattern base)
  if asks && (Glob.start scope).any (·.toNat == 0) then .error .badValue else .ok ()

/-- The hits of a rule in the files that a scope selects. -/
def scopeHits (ext : Extension) (r : Rule) (p : Pattern) (scope : Text) : Check (List Hit) := do
  checkScope ext scope
  Trace.collect (selected ext scope) (fileHits ext r p)

/-- Reports the files of a rule that deduplicates. -/
def reportFiles (r : Rule) (hits : List Hit) : Check Unit :=
  let files := (hits.map (·.file)).eraseDups.mergeSort fileBefore
  let names := ", ".intercalate files
  r.reportAs r.status (r.withFix s!"{r.message} in {files.length} file(s): {names}")

/-- The pattern of a rule, if its text is one. -/
def pattern? (r : Rule) : Except Fault (Option Pattern) :=
  match r.getD "pattern" "" with
  | .list _ => .error .wrongKind
  | .text t =>
      match Pattern.read t with
      | .ok p => .ok (some p)
      | .error refusal =>
          match refusal.fault? with
          | some e => .error e
          | none => .ok none

/-- Applies a rule with its pattern: reports the hits, and tells whether there were any. -/
def applyPattern (ext : Extension) (r : Rule) (p : Pattern) : Check Unit := do
  let hits ← Trace.collect r.scopes (scopeHits ext r p)
  if hits.isEmpty then r.reportAs .pass "No matches"
  else if r.deduplicates then r.reportFiles hits

/-- Applies a rule to an extension that declares the given versions. -/
def apply (ext : Extension) (versions : List Int) (r : Rule) : Check Unit := do
  if !r.applies versions then
    r.reportAs .skip "Not applicable for declared shell-version(s)"
  else
    match ← r.pattern? with
    | none => r.reportAs .skip ("Invalid regex: " ++ String.ofList (r.getD "pattern" "").shown)
    | some p => r.applyPattern ext p

/-- Applies rules to an extension. -/
def applyAll (ext : Extension) (rules : List Rule) : Check Unit := do
  let versions ← Manifest.declaredVersions ext
  Trace.each rules (apply ext versions)

end ExtensionAudit.Rule
