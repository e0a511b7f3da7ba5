import ExtensionAudit.Rule.Basic

/-!
# Standard rules

A rule of the built-in catalogue has all its fields under their own names.
-/

namespace ExtensionAudit.Rule

/-- A rule of the catalogue. -/
structure Standard where
  /-- The name of the rule. -/
  id : String
  /-- The pattern of what must not stand in a line. -/
  pattern : String
  /-- The file name patterns of the files it looks at. -/
  scope : List String := ["*.js"]
  /-- A hit leads to rejection. -/
  blocking : Bool
  /-- What is wrong with a hit. -/
  message : String
  /-- The group of the rule. -/
  category : String
  /-- How a hit can be mended. -/
  fix : String
  /-- The least version of the shell that the rule speaks of. -/
  least : Option Nat := none
  /-- The last version of the shell that the rule speaks of. -/
  most : Option Nat := none
  /-- A text that shows that a file already uses the replacement. -/
  replacement : Option String := none
  /-- The rule reports files and not lines. -/
  deduplicate : Bool := false

/-- The text of a field. -/
def textField (name value : String) : Text × Value := (name.toList, .text value.toList)

/-- The rule of a catalogue entry. -/
def Standard.rule (s : Standard) : Rule where
  fields :=
    [textField "id" s.id, textField "pattern" s.pattern,
     ("scope".toList, .list (s.scope.map String.toList)),
     textField "severity" (if s.blocking then "blocking" else "advisory"),
     textField "message" s.message, textField "category" s.category, textField "fix" s.fix] ++
    (s.least.map fun n => textField "min-version" (toString n)).toList ++
    (s.most.map fun n => textField "max-version" (toString n)).toList ++
    (s.replacement.map (textField "replacement-pattern")).toList ++
    (if s.deduplicate then [textField "deduplicate" "true"] else [])

end ExtensionAudit.Rule
