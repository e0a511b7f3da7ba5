import ExtensionAudit.Number
import ExtensionAudit.Rule.Basic

/-!
# Version gates

A rule can be bound to versions of the shell: to a least version, a last version, or both.  A
rule without bounds always applies.  A rule with a bound applies if, for each bound, some
declared version keeps it.  A bound that is no number is kept by none.
-/

namespace ExtensionAudit.Rule

/-- A bound on versions. -/
inductive Bound where
  /-- A number. -/
  | number (n : Int)
  /-- A value that is no number. -/
  | notNumber
deriving DecidableEq, Repr

/-- The bound that a field's value states. -/
def Value.bound : Value → Bound
  | .text t =>
      match Number.read? t with
      | some n => .number n
      | none => .notNumber
  | .list _ => .notNumber

/-- A bound is kept by some version. -/
def Bound.keptBy (ok : Int → Int → Bool) (versions : List Int) : Option Bound → Bool
  | none => true
  | some (.number n) => versions.any (ok n)
  | some .notNumber => false

/-- The gate with the given bounds is open for the declared versions. -/
def gateOpen (least most : Option Bound) (versions : List Int) : Bool :=
  if least.isNone && most.isNone then true
  else
    !versions.isEmpty && Bound.keptBy (fun n v => n ≤ v) versions least &&
      Bound.keptBy (fun n v => v ≤ n) versions most

/-- The rule applies to the declared versions. -/
def applies (r : Rule) (versions : List Int) : Bool :=
  gateOpen ((r.get? "min-version").map Value.bound) ((r.get? "max-version").map Value.bound)
    versions

end ExtensionAudit.Rule
