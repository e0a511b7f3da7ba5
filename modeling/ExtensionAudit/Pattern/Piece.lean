import ExtensionAudit.Pattern.Flags
import ExtensionAudit.Pattern.Node

/-!
# Pieces of a sequence

A sequence is read piece by piece.  A piece is a single item, a repetition, or a plain group,
whose items become part of the sequence around it.

Branches that start alike are drawn together: items that all branches share stand once, in front
of the choice.  Items are alike if they have the same *face*, which is how they are written apart
from flags.  If one character, or one set that is not negated, is left of every branch, then the
choice is a set itself.
-/

namespace ExtensionAudit.Pattern

/-- How an item is written, for those items that are compared. -/
inductive Face where
  /-- A character or a set. -/
  | chars (members : List Member) (negated : Bool)
  /-- The dot. -/
  | dot
  /-- An anchor, by its letter. -/
  | anchor (letter : Char)
  /-- A reference to a group. -/
  | reference (index : Nat)
deriving DecidableEq, Repr

/-- An item of a sequence. -/
structure Item where
  /-- The node. -/
  node : Node
  /-- How the item is written. -/
  face : Option Face := none
deriving DecidableEq, Repr

namespace Item

/-- The item for the entries of a set. -/
def chars (f : Flags) (negated : Bool) (members : List Member) : Item where
  node := .one (.ofMembers f.anyCase f.narrow negated members)
  face := some (.chars members negated)

/-- The item for one code point. -/
def code (f : Flags) (n : Nat) : Item := .chars f false [.one n]

/-- The item for an anchor. -/
def anchor (letter : Char) (a : Anchor) : Item where
  node := .anchor a
  face := some (.anchor letter)

/-- The item is an anchor. -/
def isAnchor (i : Item) : Bool :=
  match i.face with
  | some (.anchor _) => true
  | _ => false

/-- The entries of an item that is a character or a set that is not negated. -/
def members? (i : Item) : Option (List Member) :=
  match i.face with
  | some (.chars members false) => some members
  | _ => none

/-- The node for items one after the other. -/
def sequence (items : List Item) : Node :=
  Node.sequence (items.map (·.node))

end Item

/-! ## Branches -/

/-- The items that a branch and the others start with alike. -/
def sharedFront : List Item → List (List Item) → List Item
  | [], _ => []
  | i :: rest, others =>
      if i.face.isSome && others.all (fun b => b.head?.any (·.face == i.face)) then
        i :: sharedFront rest (others.map (·.drop 1))
      else []

/-- The entries of branches that are one character or set each. -/
def membersOf? : List (List Item) → Option (List Member)
  | [] => some []
  | [i] :: rest =>
      match i.members?, membersOf? rest with
      | some here, some others => some (here ++ others)
      | _, _ => none
  | _ :: _ => none

/-- The items for a choice between branches. -/
def choose (f : Flags) : List (List Item) → List Item
  | [] => []
  | [items] => items
  | first :: others =>
      let front := sharedFront first others
      let rests := (first :: others).map (·.drop front.length)
      let choice :=
        match membersOf? rests with
        | some members => Item.chars f false members.eraseDups
        | none => { node := Node.branches (rests.map Item.sequence) }
      front ++ [choice]

/-! ## Pieces -/

/-- A piece of a sequence. -/
inductive Piece where
  /-- A single item. -/
  | item (i : Item)
  /-- A repetition, which cannot be repeated. -/
  | rep (node : Node)
  /-- A plain group. -/
  | plain (items : List Item)
deriving DecidableEq, Repr

/-- The items that a piece adds to its sequence. -/
def Piece.items : Piece → List Item
  | .item i => [i]
  | .rep node => [{ node }]
  | .plain items => items

/-- The piece is an anchor, which cannot be repeated. -/
def Piece.isAnchor : Piece → Bool
  | .item i => i.isAnchor
  | _ => false

/-- What a repetition of the piece repeats. -/
def Piece.node (p : Piece) : Node := Item.sequence p.items

/-- The items of pieces that were read last to first. -/
def itemsOf (pieces : List Piece) : List Item :=
  pieces.reverse.flatMap Piece.items

end ExtensionAudit.Pattern
