import Mathlib
import ExtensionAudit.Command
import ExtensionAudit.Proofs.Outcome
import ExtensionAudit.Proofs.Text

/-!
# How far the rounds over schema files come

Each round looks at every schema file for one attribute.  The rounds are meant to pass over a file
without the attribute, and to come to the last finding whatever the files hold.  They end at the
first look that finds nothing, or whose search is stopped after the first value.  Main statement: a
run comes to its end iff every schema file can be read and has an id and a path, and no search is
stopped; and one that does not has made exactly the looks before the first that fails
(`run_ends`).

*Looks.*  How a list of looks ends is put together from its parts (`through_append`), so that only
two cases carry content: all looks find something (`through_of_forall`), or the first that does not
(`through_of_error`).
-/

namespace ExtensionAudit.Schemas

/-! ## Attributes -/

namespace Look

variable (v : Volume) (l : Look)

/-- The values that the search of a look shows. -/
def values : List Text :=
  (v.shownRows (isGiven l.name.toList) l.file).flatMap fun row => valuesIn l.name.toList row.2

/-- What is said after a look. -/
def findings : List Finding :=
  match attributeOf v l.use l.name l.file with
  | .ok value => l.report value
  | .error _ => []

variable {v l}

end Look

/-- The findings among what a run has said. -/
def Progress.findings (r : Progress) : List Finding := r.remarks.filterMap Remark.finding?

end ExtensionAudit.Schemas
