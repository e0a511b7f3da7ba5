import ExtensionAudit.Text.Basic
import ExtensionAudit.Text.Blank
import ExtensionAudit.Text.Word

/-!
# Heads and blocks

A head is a name with an opening parenthesis after it, as in a call or in the first line of a
method.  The block of a method runs from its opening brace to the brace that closes it.  Braces
are counted wherever they stand, in strings too.
-/

namespace ExtensionAudit.Source

/-! ## Heads -/

/-- What follows a character that stands after any number of blanks. -/
def afterMark? (mark : Char) (t : Text) : Option Text :=
  match t.dropWhile Text.isBlank with
  | [] => none
  | c :: rest => if c == mark then some rest else none

/-- What follows a name and an opening parenthesis at the start of a text. -/
def afterCall? (name t : Text) : Option Text :=
  if name.isPrefixOf t then afterMark? '(' (t.drop name.length) else none

/-- What follows the head of a method without parameters and its opening brace, at the start of
a text. -/
def afterHead? (name t : Text) : Option Text := do
  afterMark? (Char.ofNat 123) (← afterMark? ')' (← afterCall? name t))

/-- The first answer of `start?` on the ends of a text. -/
def firstAt? (start? : Text → Option Text) : Text → Option Text
  | [] => none
  | c :: rest =>
      match start? (c :: rest) with
      | some after => some after
      | none => firstAt? start? rest

/-- The first answer of `start?` on the ends of a text that do not follow a word character.
`inWord` tells whether the text itself follows one. -/
def firstAtWord? (start? : Text → Option Text) (inWord : Bool) : Text → Option Text
  | [] => none
  | c :: rest =>
      match if inWord then none else start? (c :: rest) with
      | some after => some after
      | none => firstAtWord? start? (Text.isWord c) rest

/-- The text holds a head with this name, at any place. -/
def hasCall (name : String) (t : Text) : Bool :=
  (firstAt? (afterCall? name.toList) t).isSome

/-- The text holds a head with this name as a whole word. -/
def hasWordCall (name : String) (t : Text) : Bool :=
  (firstAtWord? (afterCall? name.toList) false t).isSome

/-! ## Blocks -/

/-- The text up to the brace that closes `depth` open blocks, this brace included.  If there is
none, all of the text. -/
def throughClose (depth : Nat) : Text → Text
  | [] => []
  | c :: rest =>
      if c.toNat == 125 then
        if depth ≤ 1 then [c] else c :: throughClose (depth - 1) rest
      else if c.toNat == 123 then c :: throughClose (depth + 1) rest
      else c :: throughClose depth rest

/-- The block whose opening brace stands just before a text, with its closing brace. -/
def closedBlock (t : Text) : Text := throughClose 1 t

/-- The block whose opening brace stands just before a text, without its last character: the
closing brace, or the end of a text in which the block stays open. -/
def blockBody (t : Text) : Text := (closedBlock t).dropLast

/-- What follows the opening brace of the first method with this name and no parameters. -/
def afterMethod? (name : String) (t : Text) : Option Text :=
  firstAtWord? (afterHead? name.toList) false t

/-- How many more braces open than close in a line. -/
def surplus (line : Text) : Int :=
  Int.ofNat (Text.countOf (Char.ofNat 123) line) - Int.ofNat (Text.countOf (Char.ofNat 125) line)

/-- The line holds an opening brace. -/
def opens (line : Text) : Bool := line.contains (Char.ofNat 123)

end ExtensionAudit.Source
