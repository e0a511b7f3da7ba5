/-!
# Texts

A text is a list of characters.  This module holds the searches and cuts that the
checks share: whether one text occurs in another, the place of its first
occurrence, and the pieces between occurrences.
-/

namespace ExtensionAudit

/-- A text, as the list of its characters. -/
abbrev Text := List Char

namespace Text

/-- The text of a string. -/
abbrev ofString (s : String) : Text := s.toList

/-- The first text occurs in the second without a gap. -/
def occursIn (needle : Text) : Text → Bool
  | [] => needle.isEmpty
  | c :: rest => needle.isPrefixOf (c :: rest) || occursIn needle rest

/-- What stands before and after the first occurrence of a separator. -/
def breakOn (sep : Text) : Text → Option (Text × Text)
  | [] => if sep.isEmpty then some ([], []) else none
  | c :: rest =>
      if sep.isPrefixOf (c :: rest) then some ([], (c :: rest).drop sep.length)
      else (breakOn sep rest).map fun (before, after) => (c :: before, after)

/-- What stands before and after the first occurrence of a character. -/
def breakAt (sep : Char) (t : Text) : Option (Text × Text) :=
  breakOn [sep] t

/-- The pieces between the occurrences of a character; there is always one. -/
def splitAt (sep : Char) : Text → List Text
  | [] => [[]]
  | c :: rest =>
      match splitAt sep rest with
      | [] => [[]]
      | piece :: pieces => if c == sep then [] :: piece :: pieces else (c :: piece) :: pieces

/-- The part of the text before the first occurrence of a character, or all of it. -/
def before (sep : Char) (t : Text) : Text :=
  t.takeWhile (· != sep)

/-- How often a character occurs. -/
def countOf (c : Char) (t : Text) : Nat :=
  t.count c

/-- At how many places a text occurs. -/
def occurrences (needle : Text) : Text → Nat
  | [] => 0
  | c :: rest =>
      (if needle.isPrefixOf (c :: rest) then 1 else 0) + occurrences needle rest

/-- How many newlines a text holds. -/
def newlines (t : Text) : Nat := t.count '\n'

/-- The numbers added up. -/
def total (ns : List Nat) : Nat :=
  ns.foldr (fun n rest => n + rest) 0

/-- The texts one after the other, with a separator between them. -/
def join (sep : Text) (ts : List Text) : Text :=
  sep.intercalate ts

/-- The characters from one place up to another. -/
def slice (t : Text) (start stop : Nat) : Text :=
  (t.drop start).take (stop - start)

/-- The text ends with the given one. -/
def endsIn (ending t : Text) : Bool :=
  ending.isSuffixOf t

/-- The text is in the ascending code point order strictly before the other. -/
def precedes : Text → Text → Bool
  | [], [] => false
  | [], _ :: _ => true
  | _ :: _, [] => false
  | a :: s, b :: t => a.toNat < b.toNat || (a == b && precedes s t)

end Text

end ExtensionAudit
