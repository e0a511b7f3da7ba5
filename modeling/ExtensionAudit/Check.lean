import ExtensionAudit.Finding
import ExtensionAudit.Trace

/-!
# Checks

A check is a run that writes findings.
-/

namespace ExtensionAudit

/-- A run that writes findings. -/
abbrev Check (α : Type) := Trace Finding α

namespace Check

/-- Reports one finding. -/
def report (status : Status) (check detail : String) : Check Unit :=
  Trace.write [⟨status, check, detail⟩]

/-- Reports that all is well. -/
def pass (check detail : String) : Check Unit := report .pass check detail

/-- Reports a cause for rejection. -/
def fail (check detail : String) : Check Unit := report .fail check detail

/-- Reports something to look at. -/
def warn (check detail : String) : Check Unit := report .warn check detail

/-- Reports that the check does not apply. -/
def skip (check detail : String) : Check Unit := report .skip check detail

end Check

end ExtensionAudit
