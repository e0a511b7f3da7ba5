import ExtensionAudit.Pattern.Piece
import ExtensionAudit.Pattern.Problem

/-!
# Tokens

A pattern is read token by token.  A backslash and the character after it are one token, so a
backslash that ends the text is found as soon as the token before it has been read.
-/

namespace ExtensionAudit.Pattern

/-- A character, or a backslash with the character after it. -/
inductive Token where
  /-- A character by itself. -/
  | char (c : Char)
  /-- A character after a backslash. -/
  | escape (c : Char)
deriving DecidableEq, Repr

/-- The text of a token. -/
def Token.text : Token → Text
  | .char c => [c]
  | .escape c => ['\\', c]

/-- What the reader knows: the rest of the text, and what it has seen. -/
structure Book where
  /-- The rest of the text. -/
  rest : Text
  /-- The place of the rest. -/
  place : Nat
  /-- The flags of the whole pattern. -/
  flags : Flags
  /-- The widths of the groups opened so far, known once a group is closed. -/
  widths : List (Option Width)
  /-- The named groups. -/
  names : List (Text × Nat)
  /-- The first group number inside the outermost look behind. -/
  behindFrom : Option Nat
  /-- The groups that choices ask about, with the places where they do. -/
  asked : List (Nat × Nat)

/-- A reading step. -/
abbrev Parse := StateT Book (Except Refusal)

/-- Stops at a problem. -/
def problem {α : Type} (p : Problem) (place : Nat) : Parse α :=
  throw (.malformed p (some place))

/-- The next token. -/
def peek : Parse (Option Token) := do
  match (← get).rest with
  | [] => return none
  | '\\' :: c :: _ => return some (.escape c)
  | c :: _ => return some (.char c)

/-- The place of the next token. -/
def place : Parse Nat := return (← get).place

/-- Moves to a place of the text.  A backslash with nothing after it cannot be next. -/
def moveTo (rest : Text) (place : Nat) : Parse Unit := do
  if rest == ['\\'] then problem .escapeAtEnd place
  modify fun b => { b with rest, place }

/-- Reads the next token. -/
def take : Parse (Option Token) := do
  let t ← peek
  match t with
  | none => return none
  | some t =>
      let b ← get
      let n := t.text.length
      moveTo (b.rest.drop n) (b.place + n)
      return some t

/-- Reads the next token if it is the given character. -/
def accept (c : Char) : Parse Bool := do
  if (← peek) == some (.char c) then
    let _ ← take
    return true
  else return false

/-- Reads at most `n` characters of a class. -/
def takeUpTo (p : Char → Bool) : Nat → Parse Text
  | 0 => return []
  | n + 1 => do
      match ← peek with
      | some (.char c) =>
          if p c then
            let _ ← take
            return c :: (← takeUpTo p n)
          else return []
      | _ => return []

/-- Reads all characters of a class that follow. -/
def takeAll (p : Char → Bool) : Parse Text := do
  takeUpTo p (← get).rest.length

/-- Reads a name up to a closing character.  The first argument bounds the steps. -/
def nameUpTo (closing : Char) (what : String) : Nat → Text → Parse Text
  | 0, name => return name
  | fuel + 1, name => do
      match ← take with
      | none =>
          if name.isEmpty then problem (.noName what) (← place)
          else problem (.openName closing) ((← place) - name.length)
      | some t =>
          if t == .char closing then
            if name.isEmpty then problem (.noName what) ((← place) - 1) else return name
          else nameUpTo closing what fuel (name ++ t.text)

/-- Reads a name up to a closing character. -/
def nameTo (closing : Char) (what : String) : Parse Text := do
  nameUpTo closing what ((← get).rest.length + 1) []

end ExtensionAudit.Pattern
