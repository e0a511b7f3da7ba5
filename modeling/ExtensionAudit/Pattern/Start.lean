import ExtensionAudit.Pattern.Node

/-!
# Where a match can start

A search does not try every place of a text.  A match of a pattern takes a least number of
characters, so near the end of the text there is no room for one.  If the pattern starts with a
set, a match starts before a character of this set.  The classes of the set are then those of the
whole pattern, also if the set stands in a group with other flags.
-/

namespace ExtensionAudit.Pattern

/-- The entry is a cased letter, or a range that holds one or goes beyond the folded
characters. -/
def Member.isCased (narrow : Bool) : Member → Bool
  | .one n => isCasedCode narrow n
  | m => m.folds narrow

/-- The set, unless it looks past the case of an entry. -/
def CharSet.plain? (s : CharSet) : Option CharSet :=
  if s.folded && s.members.any (·.isCased s.narrow) then none else some { s with folded := false }

/-- The code points that branches start with, if each starts with one. -/
def Node.branchCodes? : Node → Option (List Member)
  | .one (.literal n) => some [.one n]
  | .seq (.one (.literal n)) _ => some [.one n]
  | .alt a b =>
      match a.branchCodes?, b.branchCodes? with
      | some m, some n => some (m ++ n)
      | _, _ => none
  | _ => none

/-- The set that a node starts with. -/
def Node.firstSet? : Node → Option CharSet
  | .one (.inSet s) => s.plain?
  | .seq a _ => a.firstSet?
  | .group _ body => body.firstSet?
  | .alt a b => (Node.branchCodes? (.alt a b)).map fun ms => ⟨ms, false, false, false⟩
  | _ => none

/-- What a node starts with. -/
inductive Lead where
  /-- A fixed character. -/
  | fixed
  /-- Nothing: the node is empty, groups apart. -/
  | nothing
  /-- Something else. -/
  | other
deriving DecidableEq, Repr

/-- What the node starts with. -/
def Node.lead : Node → Lead
  | .empty => .nothing
  | .one (.literal _) => .fixed
  | .seq a b => if a.lead == .nothing then b.lead else a.lead
  | .group _ body => body.lead
  | _ => .other

/-- Where a match can start. -/
structure Start where
  /-- The least number of characters that a match takes. -/
  least : Nat := 0
  /-- The set that a match starts with. -/
  set : Option CharSet := none
  /-- No match starts where fewer than `least - 1` characters follow. -/
  bounded : Bool := false
deriving DecidableEq, Repr

/-- Where the match of a node can start.  `narrow` is the flag of the whole pattern. -/
def Start.of (narrow : Bool) (n : Node) : Start :=
  let least := n.width.least
  if least == 0 then {}
  else if n.lead == .fixed then { least }
  else
    match n.firstSet? with
    | some s => { least, set := some { s with narrow } }
    | none => { least, bounded := true }

end ExtensionAudit.Pattern
