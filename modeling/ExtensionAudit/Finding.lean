/-!
# Findings

A check reports findings.  A finding has a status, the name of the check and a detail, and
is written as one line with bars between the three.
-/

namespace ExtensionAudit

/-- The status of a finding. -/
inductive Status where
  /-- All is well. -/
  | pass
  /-- The extension will be rejected. -/
  | fail
  /-- Someone should look at this. -/
  | warn
  /-- The check does not apply. -/
  | skip
deriving DecidableEq, Repr

/-- The word for a status. -/
def Status.word : Status → String
  | .pass => "PASS"
  | .fail => "FAIL"
  | .warn => "WARN"
  | .skip => "SKIP"

/-- What a check reports. -/
structure Finding where
  /-- The status. -/
  status : Status
  /-- The name of the check. -/
  check : String
  /-- The detail. -/
  detail : String
deriving DecidableEq, Repr

/-- The line of a finding. -/
def Finding.line (f : Finding) : String :=
  f.status.word ++ "|" ++ f.check ++ "|" ++ f.detail

end ExtensionAudit
