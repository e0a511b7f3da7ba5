import ExtensionAudit.Text.Basic

/-!
# Code points

A string read from JSON can hold half of a surrogate pair, written as an escape.
Such a half is no character, so it cannot be printed, but it takes part in
comparisons and counts as one place.  A string of code points keeps it.

* `Points.text?` is the text of a string that has no such half.
* `Points.view` is the string as a search sees it.  A half shows as the replacement
  character, which belongs to no class that a search names.
-/

namespace ExtensionAudit

/-- A character, or half of a surrogate pair without its partner. -/
inductive Point where
  /-- A character. -/
  | char (c : Char)
  /-- Half of a surrogate pair. -/
  | half (n : Nat)
deriving DecidableEq, Repr

/-- The code point's number. -/
def Point.code : Point → Nat
  | .char c => c.toNat
  | .half n => n

/-- A string of code points. -/
abbrev Points := List Point

namespace Points

/-- The code points of a text. -/
def ofText (t : Text) : Points := t.map .char

/-- The code points of a string. -/
def ofString (s : String) : Points := ofText s.toList

/-- The text of a string of characters only. -/
def text? (s : Points) : Option Text :=
  s.mapM fun
    | .char c => some c
    | .half _ => none

/-- The string as a search sees it. -/
def view (s : Points) : Text :=
  s.map fun
    | .char c => c
    | .half _ => Char.ofNat 0xFFFD

end Points

end ExtensionAudit
