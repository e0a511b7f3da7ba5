import ExtensionAudit.Text.Quoted

/-!
# Rules

A rule says which text must not stand in which files.  Its fields are kept by name, in the
order in which they first appear, and hold a text or a list of texts.  The engine reads the
fields that it knows and fills in the rest.
-/

namespace ExtensionAudit

namespace Rule

/-- The value of a field. -/
inductive Value where
  /-- A text. -/
  | text (t : Text)
  /-- A list of texts. -/
  | list (items : List Text)
deriving DecidableEq, Repr

/-- A list of texts between brackets, each between quotes. -/
def listText (items : List Text) : Text :=
  '[' :: Text.join [',', ' '] (items.map Text.quotedText) ++ [']']

/-- A value as a message shows it. -/
def Value.shown : Value → Text
  | .text t => t
  | .list items => listText items

/-- The value is not empty. -/
def Value.isPresent : Value → Bool
  | .text t => !t.isEmpty
  | .list items => !items.isEmpty

end Rule

/-- A rule, as its fields in order. -/
structure Rule where
  /-- The fields. -/
  fields : List (Text × Rule.Value)
deriving DecidableEq, Repr

namespace Rule

/-- The rule without fields. -/
def empty : Rule := ⟨[]⟩

/-- The value of a field. -/
def get? (r : Rule) (name : String) : Option Value :=
  r.fields.lookup name.toList

/-- The value of a field, or a text in its place. -/
def getD (r : Rule) (name default : String) : Value :=
  (r.get? name).getD (.text default.toList)

/-- The rule has a field. -/
def has (r : Rule) (name : String) : Bool :=
  (r.get? name).isSome

/-- Sets a field.  A field that is there keeps its place, a new one goes to the end. -/
def set (r : Rule) (name : Text) (v : Value) : Rule :=
  if r.fields.any (·.1 == name) then
    ⟨r.fields.map fun (k, w) => if k == name then (k, v) else (k, w)⟩
  else ⟨r.fields ++ [(name, v)]⟩

end Rule

end ExtensionAudit
