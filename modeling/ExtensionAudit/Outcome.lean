import ExtensionAudit.Check
import ExtensionAudit.Text.Basic

/-!
# Outcomes

What a command leaves behind: the lines of its output, its messages, its exit status, and the
fault that ended it, if one did.  A command that a fault ends has status one.

Where findings and notes take turns, a transcript keeps the order in which they are written.
-/

namespace ExtensionAudit

/-- What a command leaves behind. -/
structure Outcome where
  /-- The lines of the output. -/
  lines : List String
  /-- The lines of the messages. -/
  messages : List String := []
  /-- The exit status. -/
  status : Nat := 0
  /-- The fault that ended the command. -/
  fault : Option Fault := none
deriving Repr, DecidableEq

/-- The pieces of a string between its newlines. -/
def splitLines (s : String) : List String :=
  (Text.splitAt '\n' s.toList).map String.ofList

/-- The outcome of a run that writes strings and ends with a status.  A string with newlines
in it takes several lines. -/
def Outcome.ofTrace (t : Trace String Nat) : Outcome :=
  let lines := t.output.flatMap splitLines
  match t.outcome with
  | .ok status => { lines, status }
  | .error e => { lines, status := 1, fault := some e }

/-- The outcome of a list of findings. -/
def Outcome.ofFindings (fs : List Finding) : Outcome :=
  { lines := fs.flatMap fun f => splitLines f.line }

/-- The outcome of a check. -/
def Outcome.ofCheck (c : Check Unit) : Outcome :=
  Outcome.ofTrace ⟨c.output.map Finding.line, c.outcome.map fun _ => 0⟩

/-- What a command writes: a finding on its output, or a line of its messages. -/
inductive Remark where
  /-- A finding. -/
  | finding (f : Finding)
  /-- A line of the messages. -/
  | note (line : String)
deriving DecidableEq, Repr

namespace Remark

/-- The finding that a remark is. -/
def finding? : Remark → Option Finding
  | finding f => some f
  | note _ => none

/-- The message that a remark is. -/
def note? : Remark → Option String
  | finding _ => none
  | note line => some line

/-- The lines that a remark takes. -/
def lines : Remark → List String
  | finding f => splitLines f.line
  | note line => [line]

end Remark

/-- All that a command writes, in order, and its exit status. -/
structure Transcript where
  /-- What it writes. -/
  remarks : List Remark := []
  /-- The exit status. -/
  status : Nat := 0
deriving DecidableEq, Repr

namespace Transcript

/-- The findings. -/
def findings (t : Transcript) : List Finding := t.remarks.filterMap Remark.finding?

/-- The messages. -/
def notes (t : Transcript) : List String := t.remarks.filterMap Remark.note?

/-- The lines of output and messages together. -/
def said (t : Transcript) : List String := t.remarks.flatMap Remark.lines

/-- The outcome, with output and messages apart. -/
def outcome (t : Transcript) : Outcome :=
  { Outcome.ofFindings t.findings with messages := t.notes, status := t.status }

end Transcript

end ExtensionAudit
