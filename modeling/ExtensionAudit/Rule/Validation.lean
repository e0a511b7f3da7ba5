import ExtensionAudit.Outcome
import ExtensionAudit.Pattern.Reader
import ExtensionAudit.Rule.Basic
import ExtensionAudit.Text.Lines

/-!
# Validating rules

A rules file is valid if every rule has the required fields, no two rules have the same name,
every severity is known and every pattern is well formed.  An empty severity and an empty pattern
are let through.
-/

namespace ExtensionAudit.Rule

/-- What is wrong with a rule. -/
inductive Defect where
  /-- A required field is missing. -/
  | missing (field : String)
  /-- An earlier rule, counted from one, has the same name. -/
  | duplicate (earlier : Nat)
  /-- The severity is not known. -/
  | severity (v : Value)
  /-- The pattern is malformed. -/
  | pattern (message : String)
deriving DecidableEq, Repr

/-- The words for a defect. -/
def Defect.message : Defect → String
  | .missing field => s!"missing required field '{field}'"
  | .duplicate earlier => s!"duplicate ID (first seen at rule #{earlier})"
  | .severity v =>
      "invalid severity '" ++ String.ofList v.shown ++ "' (must be 'blocking' or 'advisory')"
  | .pattern message => "invalid regex: " ++ message

/-- The fields that a rule must have. -/
def requiredFields : List String := ["id", "pattern", "scope", "severity", "message"]

/-- The required fields that are missing. -/
def missingDefects (r : Rule) : List Defect :=
  (requiredFields.filter (!r.has ·)).map .missing

/-- The name was used by an earlier rule; the latest one counts.  Only a text can be a name. -/
def duplicateDefects (earlier : List Rule) (r : Rule) : Except Fault (List Defect) :=
  match r.get? "id" with
  | none => .ok []
  | some (.list _) => .error .wrongKind
  | some v =>
      match ((Text.numbered earlier).reverse.find? fun (_, e) => e.get? "id" == some v) with
      | some (n, _) => .ok [.duplicate n]
      | none => .ok []

/-- The severity is neither empty nor known. -/
def severityDefects (r : Rule) : List Defect :=
  let v := r.getD "severity" ""
  if v.isPresent && v != .text "blocking".toList && v != .text "advisory".toList then
    [.severity v]
  else []

/-- The pattern is neither empty nor well formed. -/
def patternDefects (r : Rule) : Except Fault (List Defect) :=
  match r.getD "pattern" "" with
  | .list items => if items.isEmpty then .ok [] else .error .wrongKind
  | .text t =>
      match Pattern.read t with
      | .ok _ => .ok []
      | .error (.malformed p place) => .ok [.pattern (p.messageAt t place)]
      | .error refusal =>
          match refusal.fault? with
          | some e => .error e
          | none => .ok []

/-- The name of a rule in messages; a rule without one is named by its number. -/
def nameAt (number : Nat) (r : Rule) : String :=
  String.ofList (r.getD "id" s!"(rule #{number})").shown

/-- Writes the defects of a rule that follows `earlier` ones, and gives their number. -/
def validate (earlier : List Rule) (r : Rule) : Trace String Nat := do
  let say (ds : List Defect) : Trace String Nat := do
    Trace.write (ds.map fun d => "ERROR: " ++ r.nameAt (earlier.length + 1) ++ ": " ++ d.message)
    return ds.length
  let missing ← say r.missingDefects
  let duplicate ← say (← r.duplicateDefects earlier)
  let severity ← say r.severityDefects
  let pattern ← say (← r.patternDefects)
  return missing + duplicate + severity + pattern

/-- Writes the defects of rules that follow `earlier` ones, and gives their number. -/
def validateFrom (earlier : List Rule) : List Rule → Trace String Nat
  | [] => return 0
  | r :: rest => do
      let here ← r.validate earlier
      return here + (← validateFrom (earlier ++ [r]) rest)

/-- Writes the defects of rules and a summary.  The status is zero if there are none. -/
def validateAll (rules : List Rule) : Trace String Nat := do
  let errors ← validateFrom [] rules
  if errors == 0 then
    Trace.write [s!"OK: {rules.length} rules validated"]
    return 0
  else
    Trace.write ["", s!"{errors} error(s) found in {rules.length} rules"]
    return 1

end ExtensionAudit.Rule
