/-!
# Binary fractions and decimals

A finite double is `significand * 2 ^ exponent`.  A decimal is
`digits * 10 ^ exponent`.  The two are compared by multiplying out, so no step
rounds.
-/

namespace ExtensionAudit.Decimal

/-- The size of a finite double: `significand * 2 ^ exponent`. -/
structure Binary where
  /-- The significand. -/
  significand : Nat
  /-- The power of two. -/
  exponent : Int
  /-- The neighbour below is half as far away as the neighbour above. -/
  narrowBelow : Bool

/-- The size of a finite double. -/
def Binary.ofFloat (x : Float) : Binary :=
  let bits := x.toBits
  let e := ((bits >>> 52) &&& 0x7FF).toNat
  let f := (bits &&& 0xFFFFFFFFFFFFF).toNat
  if e == 0 then ⟨f, -1074, false⟩ else ⟨Nat.pow 2 52 + f, (e : Int) - 1075, f == 0 && e > 1⟩

/-- The double is below zero or the negative zero. -/
def isNegative (x : Float) : Bool :=
  (x.toBits >>> 63) == 1

/-- The decimal `digits * 10 ^ exponent`. -/
structure Dec where
  /-- The digits, as one number. -/
  digits : Nat
  /-- The power of ten. -/
  exponent : Int
deriving DecidableEq, Repr

/-- The order of `a * 10 ^ i` and `b * 2 ^ j`. -/
def order (a : Nat) (i : Int) (b : Nat) (j : Int) : Ordering :=
  compare (a * Nat.pow 10 i.toNat * Nat.pow 2 (-j).toNat)
    (b * Nat.pow 2 j.toNat * Nat.pow 10 (-i).toNat)

/-- The whole part of a binary fraction divided by a power of ten. -/
def Binary.wholeIn (x : Binary) (i : Int) : Nat :=
  (x.significand * Nat.pow 2 x.exponent.toNat * Nat.pow 10 (-i).toNat) /
    (Nat.pow 10 i.toNat * Nat.pow 2 (-x.exponent).toNat)

/-- Reading the decimal gives the binary fraction back: it lies between the halfway
points to the two neighbours, which count when the significand is even. -/
def Binary.readsBack (x : Binary) (d : Dec) : Bool :=
  let low := if x.narrowBelow then 4 * x.significand - 1 else 4 * x.significand - 2
  let high := 4 * x.significand + 2
  let ends := x.significand % 2 == 0
  let atLow := order d.digits d.exponent low (x.exponent - 2)
  let atHigh := order d.digits d.exponent high (x.exponent - 2)
  (atLow == .gt || (ends && atLow == .eq)) && (atHigh == .lt || (ends && atHigh == .eq))

end ExtensionAudit.Decimal
