/-!
# Reaching

The elements that are reached from one by going on and on.  A queue holds the elements that
have been reached and not yet left; an element joins it once.  Leaving one element takes one
step, so as many steps as there are elements to reach are enough.
-/

namespace ExtensionAudit.Reach

variable {α : Type} [DecidableEq α]

/-- The elements that are not known yet, each once. -/
def fresh (known : List α) (xs : List α) : List α :=
  (xs.filter fun x => !known.contains x).eraseDups

/-- Leaves the elements of the queue one by one.  The first argument bounds the steps, `left`
holds the elements that have been left. -/
def reachOn (next : α → List α) : Nat → List α → List α → List α
  | 0, left, queue => left ++ queue
  | _ + 1, left, [] => left
  | steps + 1, left, x :: queue =>
      reachOn next steps (left ++ [x]) (queue ++ fresh (left ++ x :: queue) (next x))

/-- The elements that are reached from one in at most so many steps, that one first. -/
def reached (next : α → List α) (steps : Nat) (start : α) : List α :=
  reachOn next steps [] [start]

end ExtensionAudit.Reach
