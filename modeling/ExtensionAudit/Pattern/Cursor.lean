import ExtensionAudit.Pattern.Node
import ExtensionAudit.Text.Basic

/-!
# Cursors and marks

A cursor is a place between two characters of a text.  It holds what stands before it, nearest
first, and what follows.  So no step can leave the text, and a look behind is a few steps back.

A group sets two marks, one where it starts and one where it stops.  The marks are numbered
through, and the list of marks ends with the highest one that is set: the marks of group `n`
have the numbers `2 * (n - 1)` and `2 * (n - 1) + 1`.
-/

namespace ExtensionAudit.Pattern

/-! ## Cursors -/

/-- A place between two characters of a text. -/
structure Cursor where
  /-- The number of characters before the place. -/
  place : Nat
  /-- The characters before the place, the nearest first. -/
  before : List Char
  /-- The characters after the place. -/
  after : List Char
deriving DecidableEq, Repr

namespace Cursor

/-- The start of a text. -/
def start (t : Text) : Cursor := ⟨0, [], t⟩

/-- One character on. -/
def next? (c : Cursor) : Option (Char × Cursor) :=
  match c.after with
  | [] => none
  | x :: rest => some (x, ⟨c.place + 1, x :: c.before, rest⟩)

/-- A number of characters back. -/
def back? : Nat → Cursor → Option Cursor
  | 0, c => some c
  | n + 1, c =>
      match c.before with
      | [] => none
      | x :: rest => back? n ⟨c.place - 1, rest, x :: c.after⟩

/-- The text from one cursor to a later one. -/
def textTo (c d : Cursor) : Text :=
  c.after.take (d.place - c.place)

end Cursor

/-- A word character stands next to the place on exactly one side. -/
def atBoundary (narrow : Bool) (c : Cursor) : Bool :=
  let isWord := fun x => CharClass.word.has narrow x
  c.before.head?.any isWord != c.after.head?.any isWord

/-- An anchor holds at a cursor. -/
def Anchor.holds (c : Cursor) : Anchor → Bool
  | .textStart => c.before.isEmpty
  | .lineStart => c.before.head?.all (· == '\n')
  | .textEnd => c.after.isEmpty || c.after == ['\n']
  | .lineEnd => c.after.head?.all (· == '\n')
  | .veryEnd => c.after.isEmpty
  | .boundary narrow => atBoundary narrow c
  | .noBoundary narrow => !(c.before.isEmpty && c.after.isEmpty) && !atBoundary narrow c

/-! ## Marks -/

/-- What a group has matched. -/
structure Span where
  /-- Where the match starts. -/
  start : Cursor
  /-- Where it stops. -/
  stop : Cursor
deriving DecidableEq, Repr

/-- The text of a span. -/
def Span.text (s : Span) : Text := s.start.textTo s.stop

/-- A span that stops before it starts. -/
def Span.isCrossed (s : Span) : Bool := s.stop.place < s.start.place

/-- The marks that groups have set, by number. -/
abbrev Marks := List (Option Cursor)

/-- Sets a mark. -/
def Marks.put : Marks → Nat → Cursor → Marks
  | [], 0, c => [some c]
  | [], n + 1, c => none :: Marks.put [] n c
  | _ :: rest, 0, c => some c :: rest
  | m :: rest, n + 1, c => m :: Marks.put rest n c

/-- The number of the mark where a group starts. -/
def openMark (index : Nat) : Nat := 2 * (index - 1)

/-- The number of the mark where a group stops. -/
def closeMark (index : Nat) : Nat := 2 * (index - 1) + 1

/-- The two marks of a group, if both are set. -/
def Marks.span? (ms : Marks) (index : Nat) : Option Span :=
  match (ms[openMark index]?).join, (ms[closeMark index]?).join with
  | some start, some stop => some ⟨start, stop⟩
  | _, _ => none

/-- What a group has matched.  A group that stops before it starts has matched nothing. -/
def Marks.group? (ms : Marks) (index : Nat) : Option Span :=
  (ms.span? index).filter (!·.isCrossed)

/-- A group stops before it starts. -/
def Marks.anyCrossed : Marks → Bool
  | some start :: some stop :: rest => Span.isCrossed ⟨start, stop⟩ || Marks.anyCrossed rest
  | _ :: _ :: rest => Marks.anyCrossed rest
  | _ => false

end ExtensionAudit.Pattern
