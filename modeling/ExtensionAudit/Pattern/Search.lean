import ExtensionAudit.Pattern.Match
import ExtensionAudit.Pattern.Reader

/-!
# Searching

The leftmost match of a pattern in a text, all matches from left to right, and the text with
its matches replaced.  A search tries the places where a match can start.

Matches do not overlap.  After a match the search goes on where it stopped; after an empty
match, an empty match at the same place does not count again.
-/

namespace ExtensionAudit.Pattern

/-- A match: where it lies and what the groups have matched. -/
structure Found where
  /-- The matched stretch. -/
  span : Span
  /-- The marks of the groups. -/
  marks : Marks
deriving DecidableEq, Repr

namespace Found

/-- Where the match starts. -/
def start (m : Found) : Nat := m.span.start.place

/-- Where the match stops. -/
def stop (m : Found) : Nat := m.span.stop.place

/-- The matched text. -/
def text (m : Found) : Text := m.span.text

/-- What a group has matched; the number zero is the whole match. -/
def group? (m : Found) (index : Nat) : Option Text :=
  if index == 0 then some m.text else (m.marks.group? index).map Span.text

/-- What a group has matched, or nothing. -/
def group (m : Found) (index : Nat) : Text :=
  (m.group? index).getD []

/-- The text after the match. -/
def rest (m : Found) : Text := m.span.stop.after

/-- A group of the match stops before it starts. -/
def isCrossed (m : Found) : Bool := m.marks.anyCrossed

end Found

/-- The match that starts at a cursor and ends where `goal` allows. -/
def matchFrom (p : Pattern) (goal : Cursor → Bool) (c : Cursor) : Option Found :=
  let done : Then := fun d m => if goal d then stop d m else .failed m
  match p.node.run false none c ⟨[], c⟩ done with
  | .matched m => some ⟨⟨c, m.reach⟩, m.marks⟩
  | .failed _ => none

/-- The match that starts at a cursor, if a match can start there. -/
def matchAt (p : Pattern) (c : Cursor) : Option Found :=
  if p.start.set.all fun s => c.after.head?.any s.has then p.matchFrom (fun _ => true) c else none

/-- The first match at one of the next `places` places. -/
def searchOn (p : Pattern) (place : Nat) (before : List Char) :
    Nat → List Char → Option Found
  | 0, _ => none
  | _ + 1, [] => p.matchAt ⟨place, before, []⟩
  | places + 1, x :: rest =>
      match p.matchAt ⟨place, before, x :: rest⟩ with
      | some m => some m
      | none => searchOn p (place + 1) (x :: before) places rest

/-- The number of places where a match can start, if `length` characters follow. -/
def places (p : Pattern) (length : Nat) : Nat :=
  if length < p.start.least then 0
  else if p.start.bounded then length - (p.start.least - 1) + 1
  else length + 1

/-- The first match from a cursor on, in a text of the given length.  With `advance` an empty
match at the cursor itself does not count. -/
def searchFrom (p : Pattern) (length : Nat) (c : Cursor) (advance : Bool) : Option Found :=
  let places := p.places (length - c.place)
  if advance then
    match p.matchFrom (fun d => d.place != c.place) c with
    | some m => some m
    | none =>
        match c.after with
        | [] => none
        | x :: rest => searchOn p (c.place + 1) (x :: c.before) (places - 1) rest
  else searchOn p c.place c.before places c.after

/-- The leftmost match in a text. -/
def search (p : Pattern) (t : Text) : Option Found :=
  p.searchFrom t.length (Cursor.start t) false

/-- The pattern matches somewhere in a text. -/
def found (p : Pattern) (t : Text) : Bool :=
  (p.search t).isSome

/-- The match at the start of a text. -/
def matchStart (p : Pattern) (t : Text) : Option Found :=
  p.matchFrom (fun _ => true) (Cursor.start t)

/-- The match of a whole text. -/
def matchWhole (p : Pattern) (t : Text) : Option Found :=
  p.matchFrom (fun c => c.after.isEmpty) (Cursor.start t)

/-- The matches from a cursor on, in a text of the given length.  The second argument bounds their
number. -/
def allFrom (p : Pattern) (length : Nat) : Nat → Cursor → Bool → List Found
  | 0, _, _ => []
  | fuel + 1, c, advance =>
      match p.searchFrom length c advance with
      | none => []
      | some m => m :: allFrom p length fuel m.span.stop (m.start == m.stop)

/-- All matches in a text, from left to right.  Between two characters there are at most two. -/
def all (p : Pattern) (t : Text) : List Found :=
  p.allFrom t.length (2 * t.length + 2) (Cursor.start t) false

end ExtensionAudit.Pattern
