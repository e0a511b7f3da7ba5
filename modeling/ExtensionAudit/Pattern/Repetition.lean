import ExtensionAudit.Pattern.Escape

/-!
# Repetition

A mark or counts in braces repeat the item before them.  Neither an anchor nor a repetition can
be repeated.
-/

namespace ExtensionAudit.Pattern

/-- The most digits that a count may have. -/
def countDigits : Nat := 4300

/-- A count, if there are digits for one. -/
def readCount (ds : Text) : Parse (Option Nat) := do
  if ds.isEmpty then return none
  if ds.length > countDigits then throw .countTooLong
  let n := valueIn 10 ds
  if n ≥ countBound then throw .countTooLarge
  return some n

/-- The counts of a repetition in braces, whose opening brace has been read.  Without
the right form there is no repetition, and the reader goes back to after the brace. -/
def readBraces : Parse (Option (Nat × Option Nat)) := do
  let back ← get
  if (← peek) == some (.char (Char.ofNat 125)) then return none
  let lo ← takeAll Char.isDigit
  let hi ← if ← accept ',' then takeAll Char.isDigit else pure lo
  if !(← accept (Char.ofNat 125)) then
    set back
    return none
  let least ← readCount lo
  let most ← readCount hi
  match least, most with
  | some a, some b =>
      if b < a then problem .countsCrossed back.place
      return some (a, most)
  | _, _ => return some (least.getD 0, most)

/-- The mark after a repetition that says how it chooses its count. -/
def readGreed : Parse Greed := do
  if ← accept '?' then return .lazy
  else if ← accept '+' then return .possessive
  else return .greedy

/-- Repeats the last of the pieces.  The mark of the repetition stands at `start`. -/
def repeatLast (start least : Nat) (most : Option Nat) (done : List Piece) :
    Parse (List Piece) := do
  match done with
  | [] => problem .nothingToRepeat start
  | .rep _ :: _ => problem .repeatedRepeat start
  | p :: rest =>
      if p.isAnchor then problem .nothingToRepeat start
      let greed ← readGreed
      return .rep (.rep greed least most p.node) :: rest

end ExtensionAudit.Pattern
