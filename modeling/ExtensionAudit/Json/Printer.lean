import ExtensionAudit.Json.Basic

/-!
# Writing JSON

A value as one line of JSON, or with a line for each item and each field, which stand two
blanks further in than what holds them.  A character outside the printable part of the first
128 is written as an escape, so the lines are plain text whatever the value holds.
-/

namespace ExtensionAudit.Json

/-- A 16-bit unit as an escape. -/
def unitEscape (n : Nat) : Text :=
  '\\' :: 'u' :: Text.hex 4 n

/-- A code point inside a JSON string. -/
def writtenPoint (p : Point) : Text :=
  let n := p.code
  if n == 34 then ['\\', '"']
  else if n == 92 then ['\\', '\\']
  else if n == 10 then ['\\', 'n']
  else if n == 13 then ['\\', 'r']
  else if n == 9 then ['\\', 't']
  else if n == 8 then ['\\', 'b']
  else if n == 12 then ['\\', 'f']
  else if 32 ≤ n && n < 127 then [Char.ofNat n]
  else if n < 0x10000 then unitEscape n
  else unitEscape (0xD800 + (n - 0x10000) / 0x400) ++ unitEscape (0xDC00 + (n - 0x10000) % 0x400)

/-- A string between double quotes. -/
def writtenString (s : Points) : Text :=
  '"' :: s.flatMap writtenPoint ++ ['"']

/-- A double, with the reader's words for the values that are no number. -/
def writtenFloat (x : Float) : String :=
  if x.isNaN then "NaN"
  else if x.isInf then (if x < 0.0 then "-Infinity" else "Infinity")
  else Decimal.shortestText x

mutual

/-- A value as JSON. -/
def written : Json → Text
  | .null => Text.ofString "null"
  | .bool true => Text.ofString "true"
  | .bool false => Text.ofString "false"
  | .int n => Text.ofString (toString n)
  | .float x => Text.ofString (writtenFloat x)
  | .str s => writtenString s
  | .arr items => '[' :: writtenItems items ++ [']']
  | .obj fields => Char.ofNat 123 :: writtenFields fields ++ [Char.ofNat 125]

/-- The items of a list, divided by commas. -/
def writtenItems : List Json → Text
  | [] => []
  | [v] => written v
  | v :: w :: rest => written v ++ ',' :: writtenItems (w :: rest)

/-- The fields of an object, divided by commas. -/
def writtenFields : List (Points × Json) → Text
  | [] => []
  | [(k, v)] => writtenString k ++ ':' :: written v
  | (k, v) :: w :: rest => writtenString k ++ ':' :: written v ++ ',' :: writtenFields (w :: rest)

end

/-- A new line that starts with blanks, two for each level. -/
def newLine (level : Nat) : Text :=
  '\n' :: List.replicate (2 * level) ' '

mutual

/-- A value as JSON over several lines, where it stands at a level. -/
def indented (level : Nat) : Json → Text
  | .arr [] => ['[', ']']
  | .arr (v :: rest) =>
      '[' :: newLine (level + 1) ++ indented (level + 1) v ++
        indentedItems (level + 1) rest ++ newLine level ++ [']']
  | .obj [] => [Char.ofNat 123, Char.ofNat 125]
  | .obj ((k, v) :: rest) =>
      Char.ofNat 123 :: newLine (level + 1) ++ writtenString k ++ ':' :: ' ' ::
        indented (level + 1) v ++ indentedFields (level + 1) rest ++ newLine level ++
        [Char.ofNat 125]
  | .null => written .null
  | .bool b => written (.bool b)
  | .int n => written (.int n)
  | .float x => written (.float x)
  | .str s => written (.str s)

/-- Further items, each after a comma on a line of its own. -/
def indentedItems (level : Nat) : List Json → Text
  | [] => []
  | v :: rest => ',' :: newLine level ++ indented level v ++ indentedItems level rest

/-- Further fields, each after a comma on a line of its own. -/
def indentedFields (level : Nat) : List (Points × Json) → Text
  | [] => []
  | (k, v) :: rest =>
      ',' :: newLine level ++ writtenString k ++ ':' :: ' ' :: indented level v ++
        indentedFields level rest

end

end ExtensionAudit.Json
