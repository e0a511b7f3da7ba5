import ExtensionAudit.Source.Block

/-!
# Methods

A method starts with its name at the start of a line or after a blank, a list of parameters in
parentheses and an opening brace.  Its block is taken to start at the first opening brace after
the name, even if that brace stands among the parameters.
-/

namespace ExtensionAudit.Source

/-- A method with its place. -/
structure Method where
  /-- The line of the opening brace. -/
  startLine : Nat
  /-- The line of the closing brace. -/
  endLine : Nat
  /-- What stands between the braces. -/
  body : Text
deriving DecidableEq, Repr

/-- The text starts with the head of a method. -/
def startsMethod (name t : Text) : Bool :=
  match afterCall? name t with
  | some parameters =>
      match parameters.dropWhile (· != ')') with
      | _ :: rest => (afterMark? (Char.ofNat 123) rest).isSome
      | [] => false
  | none => false

/-- The text from the first head of a method on.  `free` tells whether a head may stand at the
start of the text. -/
def fromMethod? (name : Text) (free : Bool) : Text → Option Text
  | [] => none
  | c :: rest =>
      if free && startsMethod name (c :: rest) then some (c :: rest)
      else fromMethod? name (Text.isBlank c) rest

/-- The first method with this name. -/
def method? (name t : Text) : Option Method := do
  let head ← fromMethod? name true t
  let (_, after) ← Text.breakAt (Char.ofNat 123) head
  let startLine := Text.newlines (t.take (t.length - after.length - 1)) + 1
  return {
    startLine
    endLine := startLine + Text.newlines (closedBlock after)
    body := blockBody after }

end ExtensionAudit.Source
