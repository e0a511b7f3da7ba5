import ExtensionAudit.Rule.Basic

/-!
# Writing rules

A list of rules as a rules file.  A text is written between double quotes, with a backslash
before a double quote and a backslash, and escapes for the newline, the tab and the carriage
return.  A list is written between brackets, each item between double quotes.
-/

namespace ExtensionAudit.Rule

/-- A character between double quotes. -/
def escapedChar (c : Char) : Text :=
  if c == '\\' then ['\\', '\\']
  else if c == '"' then ['\\', '"']
  else if c == '\n' then ['\\', 'n']
  else if c == '\t' then ['\\', 't']
  else if c == '\r' then ['\\', 'r']
  else [c]

/-- A text between double quotes. -/
def writtenText (t : Text) : Text :=
  '"' :: t.flatMap escapedChar ++ ['"']

/-- A value as the file holds it. -/
def writtenValue : Value → Text
  | .text t => writtenText t
  | .list items => '[' :: Text.join [',', ' '] (items.map fun i => '"' :: i ++ ['"']) ++ [']']

/-- A field as the file holds it. -/
def writtenField (f : Text × Value) : Text :=
  f.1 ++ ':' :: ' ' :: writtenValue f.2

/-- The lines of a rule: a hyphen before the first field, blanks before the others. -/
def writtenRule (r : Rule) : List Text :=
  match r.fields with
  | [] => [['-', ' ']]
  | f :: rest => ('-' :: ' ' :: writtenField f) :: rest.map fun g => ' ' :: ' ' :: writtenField g

/-- A rules file. -/
def writeAll (rules : List Rule) : Text :=
  (rules.flatMap writtenRule).flatMap fun line => line ++ ['\n']

end ExtensionAudit.Rule
