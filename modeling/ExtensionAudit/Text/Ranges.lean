/-!
# Classes of characters

A small class of characters is written down as its ranges of code points, both ends included.  A
large one is written down as the lengths of its stretches: how many code points are outside from
zero on, then how many are inside, and so on by turns.
-/

namespace ExtensionAudit.Text

/-- A code point lies in one of the ranges. -/
def inRanges (ranges : List (Nat × Nat)) (n : Nat) : Bool :=
  ranges.any fun (lo, hi) => lo ≤ n && n ≤ hi

/-- A code point lies in a stretch inside. -/
def inStretches : List Nat → Nat → Bool
  | outside :: inside :: rest, n =>
      outside ≤ n && (n < outside + inside || inStretches rest (n - (outside + inside)))
  | _, _ => false

end ExtensionAudit.Text
