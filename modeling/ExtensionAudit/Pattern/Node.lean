import ExtensionAudit.Pattern.CharSet
import ExtensionAudit.Text.Basic

/-!
# Patterns

The syntax tree of a regular expression, and the width of what it can match.  Flags
are resolved when the tree is built, so a node says all there is to know about it.

A look behind steps back by a fixed number of characters.  So its body must have one
width, and a width that can be stepped back by.  `Node.defect?` finds the first node that
is well formed and yet not allowed.
-/

namespace ExtensionAudit.Pattern

/-- A condition on a place between two characters. -/
inductive Anchor where
  /-- The start of the text. -/
  | textStart
  /-- The start of a line. -/
  | lineStart
  /-- The end of the text, or before a newline that ends it. -/
  | textEnd
  /-- The end of a line. -/
  | lineEnd
  /-- The very end of the text. -/
  | veryEnd
  /-- Between a word character and another one. -/
  | boundary (narrow : Bool)
  /-- Not at such a boundary; the empty text has no such place. -/
  | noBoundary (narrow : Bool)
deriving DecidableEq, Repr

/-- How a repetition chooses its count. -/
inductive Greed where
  /-- As often as possible first. -/
  | greedy
  /-- As seldom as possible first. -/
  | lazy
  /-- As often as possible, without giving back. -/
  | possessive
deriving DecidableEq, Repr

/-- The least and the greatest number of characters that a match can take. -/
structure Width where
  /-- The least number. -/
  least : Nat
  /-- The greatest number. -/
  most : Nat
deriving DecidableEq, Repr

/-- Where an assertion looks. -/
inductive Direction where
  /-- At what follows. -/
  | ahead
  /-- At what stands before, with the width of the body. -/
  | behind (w : Width)
deriving DecidableEq, Repr

/-- A regular expression. -/
inductive Node where
  /-- Matches the empty text. -/
  | empty
  /-- Matches one character that passes a test. -/
  | one (t : CharTest)
  /-- One after the other. -/
  | seq (a b : Node)
  /-- The first, or else the second. -/
  | alt (a b : Node)
  /-- A number of times from `least` to `most`, without upper bound for `none`. -/
  | rep (greed : Greed) (least : Nat) (most : Option Nat) (body : Node)
  /-- Remembers what the body matches under a number. -/
  | group (index : Nat) (body : Node)
  /-- The first way the body matches, and no other. -/
  | atomic (body : Node)
  /-- The body matches, or does not match, next to this place. -/
  | look (dir : Direction) (negated : Bool) (body : Node)
  /-- A condition on the place. -/
  | anchor (a : Anchor)
  /-- What the group matched last, up to case or not, with the width of the group. -/
  | backref (index : Nat) (anyCase narrow : Bool) (w : Width)
  /-- The first branch if the group has matched, else the second. -/
  | ifGroup (index : Nat) (yes no : Node)
deriving DecidableEq, Repr

/-! ## Width -/

/-- The largest count that a repetition can name; it stands for no bound. -/
def countBound : Nat := 4294967295

/-- A width with both numbers cut off.  Only the greatest number can be without bound. -/
def Width.cut (w : Width) : Width :=
  ⟨min w.least (countBound - 1), min w.most countBound⟩

/-- The width of a repetition. -/
def Width.times (w : Width) (least : Nat) (most : Option Nat) : Width :=
  Width.cut ⟨w.least * least, w.most * most.getD countBound⟩

/-- The width of what a pattern matches. -/
def Node.width : Node → Width
  | .empty => ⟨0, 0⟩
  | .one _ => ⟨1, 1⟩
  | .seq a b => Width.cut ⟨a.width.least + b.width.least, a.width.most + b.width.most⟩
  | .alt a b => ⟨min a.width.least b.width.least, max a.width.most b.width.most⟩
  | .rep _ least most body => body.width.times least most
  | .group _ body => body.width
  | .atomic body => body.width
  | .look .. => ⟨0, 0⟩
  | .anchor _ => ⟨0, 0⟩
  | .backref _ _ _ w => w
  | .ifGroup _ yes no =>
      ⟨min yes.width.least no.width.least, max yes.width.most no.width.most⟩

/-! ## Defects -/

/-- What can be wrong with a node. -/
inductive Defect where
  /-- A repetition where none is allowed. -/
  | repetition (greed : Greed)
  /-- A look behind whose body has more than one width. -/
  | notFixed
deriving DecidableEq, Repr

/-- The first defect of a pattern, from the outside in and left to right.  In a template no
repetition is allowed. -/
def Node.defect? (template : Bool) : Node → Option Defect
  | .empty | .one _ | .anchor _ | .backref .. => none
  | .seq a b | .alt a b => a.defect? template <|> b.defect? template
  | .rep greed _ _ body => if template then some (.repetition greed) else body.defect? template
  | .group _ body | .atomic body | .look .ahead _ body => body.defect? template
  | .look (.behind w) _ body =>
      if w.least != w.most then some .notFixed else body.defect? template
  | .ifGroup _ yes no => yes.defect? template <|> no.defect? template

/-- The first width that a look behind cannot step back by. -/
def stepBound : Nat := 2147483648

/-- A look behind of the pattern is too wide to step back by. -/
def Node.looksTooFar : Node → Bool
  | .empty | .one _ | .anchor _ | .backref .. => false
  | .seq a b | .alt a b | .ifGroup _ a b => a.looksTooFar || b.looksTooFar
  | .rep _ _ _ body | .group _ body | .atomic body | .look .ahead _ body => body.looksTooFar
  | .look (.behind w) _ body => w.least ≥ stepBound || body.looksTooFar

/-! ## Sequences and branches -/

/-- The nodes one after the other. -/
def Node.sequence : List Node → Node
  | [] => .empty
  | [n] => n
  | n :: rest => .seq n (Node.sequence rest)

/-- The characters of a text one after the other, and then a node. -/
def Node.spelled : Text → Node → Node
  | [], n => n
  | x :: rest, n => .seq (.one (.literal x.toNat)) (Node.spelled rest n)

/-- The node is a choice between branches. -/
def Node.isAlt : Node → Bool
  | .alt .. => true
  | _ => false

/-- The nodes as branches, the first one first.  In a choice the second part holds the branches
that are left, so a last branch that is a choice of its own is set apart. -/
def Node.branches : List Node → Node
  | [] => .empty
  | [n] => if n.isAlt then .seq n .empty else n
  | n :: rest => .alt n (Node.branches rest)

/-! ## The first character -/

/-- The node asks for nothing at all. -/
def Node.isVoid : Node → Bool
  | .empty => true
  | .seq a b => a.isVoid && b.isVoid
  | _ => false

/-- The test that a node starts with. -/
def Node.first? : Node → Option CharTest
  | .one t => some t
  | .seq a b => if a.isVoid then b.first? else a.first?
  | _ => none

/-- The code point that must come first if a node follows.  `after` is the one that must come
after the node. -/
def Node.leadOr (n : Node) (after : Option Nat) : Option Nat :=
  if n.isVoid then after
  else
    match n.first? with
    | some (.literal code) => some code
    | _ => none

end ExtensionAudit.Pattern
