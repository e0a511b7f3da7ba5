import ExtensionAudit.Text.Point
import ExtensionAudit.Text.Quoted
import ExtensionAudit.Decimal.Shortest

/-!
# JSON values

The values of a JSON document.  Whole numbers and numbers with a fraction or an
exponent stay apart.  The fields of an object keep the order in which they first
appear.

A value shows in a message in one of two ways: `shown` writes a string as it is, and
`described` writes it between quotes.  Both write a value inside a list or an object
between quotes.
-/

namespace ExtensionAudit

/-- A JSON value. -/
inductive Json where
  /-- The null value. -/
  | null
  /-- A truth value. -/
  | bool (b : Bool)
  /-- A whole number. -/
  | int (n : Int)
  /-- A number with a fraction or an exponent. -/
  | float (x : Float)
  /-- A string. -/
  | str (s : Points)
  /-- A list. -/
  | arr (items : List Json)
  /-- An object, as its fields in order. -/
  | obj (fields : List (Points × Json))
deriving Inhabited

namespace Json

/-- The string value of a string. -/
def ofString (s : String) : Json := .str (Points.ofString s)

/-- The object with the given fields. -/
def object (fields : List (String × Json)) : Json :=
  .obj (fields.map fun (k, v) => (Points.ofString k, v))

/-- The value of a field. -/
def field? (fields : List (Points × Json)) (name : String) : Option Json :=
  (fields.find? fun (k, _) => k == Points.ofString name).map (·.2)

/-- Sets a field.  A field that is there keeps its place, a new one goes to the end. -/
def setField (fields : List (Points × Json)) (name : Points) (v : Json) : List (Points × Json) :=
  if fields.any (·.1 == name) then fields.map fun (k, w) => if k == name then (k, v) else (k, w)
  else fields ++ [(name, v)]

/-- The value is a string equal to the given one. -/
def isString (v : Json) (s : String) : Bool :=
  match v with
  | .str t => t == Points.ofString s
  | _ => false

/-- The name of the value's kind in messages. -/
def kind : Json → String
  | .null => "NoneType"
  | .bool _ => "bool"
  | .int _ => "int"
  | .float _ => "float"
  | .str _ => "str"
  | .arr _ => "list"
  | .obj _ => "dict"

/-- The value counts as present: not null, false, zero or empty. -/
def isPresent : Json → Bool
  | .null => false
  | .bool b => b
  | .int n => n != 0
  | .float x => x != 0.0
  | .str s => !s.isEmpty
  | .arr items => !items.isEmpty
  | .obj fields => !fields.isEmpty

mutual

/-- The value as it stands inside a list or an object of a message. -/
def described : Json → Text
  | .null => Text.ofString "None"
  | .bool true => Text.ofString "True"
  | .bool false => Text.ofString "False"
  | .int n => Text.ofString (toString n)
  | .float x => Text.ofString (Decimal.shortestText x)
  | .str s => Text.quoted s
  | .arr items => '[' :: describedItems items ++ [']']
  | .obj fields => Char.ofNat 123 :: describedFields fields ++ [Char.ofNat 125]

/-- The items of a list, divided by commas. -/
def describedItems : List Json → Text
  | [] => []
  | [v] => described v
  | v :: w :: rest => described v ++ ',' :: ' ' :: describedItems (w :: rest)

/-- The fields of an object, divided by commas. -/
def describedFields : List (Points × Json) → Text
  | [] => []
  | [(k, v)] => Text.quoted k ++ ':' :: ' ' :: described v
  | (k, v) :: w :: rest =>
      Text.quoted k ++ ':' :: ' ' :: described v ++ ',' :: ' ' :: describedFields (w :: rest)

end

/-- The value as a message shows it: a string as it is, all else described. -/
def shown : Json → Points
  | .str s => s
  | v => Points.ofText v.described

end Json

end ExtensionAudit
