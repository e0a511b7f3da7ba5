import ExtensionAudit.Rule.Basic
import ExtensionAudit.Text.Blank
import ExtensionAudit.Text.Lines

/-!
# Reading rules

A rules file is read line by line.  Blanks around a line do not count, and neither do blank
lines and lines that start with a number sign.

* A line that starts with a hyphen and a blank starts a rule, and may hold a field.
* Any other line with a colon adds a field to the rule that is open.

A field is a name, a colon and a value.  A value between brackets is a list, a value between
double quotes is unescaped, a value between single quotes is taken as it stands, and so is
anything else.
-/

namespace ExtensionAudit.Rule

/-- The character that a letter after a backslash stands for between double quotes. -/
def unescaped? : Char → Option Char
  | '\\' => some '\\'
  | '"' => some '"'
  | 'n' => some '\n'
  | 't' => some '\t'
  | 'r' => some '\r'
  | _ => none

/-- A text between double quotes with its escapes replaced.  An unknown escape stays. -/
def unescape : Text → Text
  | [] => []
  | '\\' :: c :: rest =>
      match unescaped? c with
      | some e => e :: unescape rest
      | none => '\\' :: c :: unescape rest
  | c :: rest => c :: unescape rest

/-- The text starts and ends with the given characters. -/
def isBetween (first last : Char) (t : Text) : Bool :=
  t.head? == some first && t.getLast? == some last

/-- The text without its first and its last character. -/
def inner (t : Text) : Text :=
  (t.drop 1).dropLast

/-- An item of a list, without blanks and quotes around it. -/
def readItem (t : Text) : Text :=
  Text.trimOf (· == '\'') (Text.trimOf (· == '"') (Text.trim t))

/-- The value of a field. -/
def readValue (t : Text) : Value :=
  if isBetween '[' ']' t then
    if (Text.trim (inner t)).isEmpty then .list []
    else .list ((Text.splitAt ',' (inner t)).map readItem)
  else if isBetween '"' '"' t then .text (unescape (inner t))
  else if isBetween '\'' '\'' t then .text (inner t)
  else .text t

/-- The rule with the field that a line holds, if it holds one. -/
def addField (r : Rule) (line : Text) : Rule :=
  match Text.breakAt ':' line with
  | some (name, value) => r.set (Text.trim name) (readValue (Text.trim value))
  | none => r

/-- The rules read so far, the last one first, and the rule that is open. -/
structure Progress where
  /-- The rules that are closed, the last one first. -/
  closed : List Rule
  /-- The rule that is open. -/
  current : Option Rule

/-- What one line adds. -/
def Progress.line (p : Progress) (raw : Text) : Progress :=
  let line := Text.trim raw
  if line.isEmpty || line.head? == some '#' then p
  else if ['-', ' '].isPrefixOf line then
    { closed := p.current.toList ++ p.closed
      current := some (addField Rule.empty (Text.trim (line.drop 2))) }
  else { p with current := p.current.map (addField · line) }

/-- The rules of a file. -/
def readAll (t : Text) : List Rule :=
  let p := (Text.newlineLines t).foldl Progress.line ⟨[], none⟩
  (p.current.toList ++ p.closed).reverse

end ExtensionAudit.Rule
