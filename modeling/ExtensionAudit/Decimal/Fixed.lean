import ExtensionAudit.Decimal.Binary

/-!
# A fixed number of places

The exact size of a double, rounded to a number of decimal places.  Halfway cases
go to the even neighbour.
-/

namespace ExtensionAudit.Decimal

/-- The quotient rounded to the nearest whole number, a half to the even one. -/
def roundDiv (num den : Nat) : Nat :=
  let q := num / den
  let r := num % den
  match compare (2 * r) den with
  | .lt => q
  | .gt => q + 1
  | .eq => if q % 2 == 0 then q else q + 1

/-- A number of units of `10 ^ -places`, written with a point. -/
def placesText (places units : Nat) : String :=
  let digits := toString units
  let padded := String.ofList (List.replicate (places + 1 - digits.length) '0') ++ digits
  let whole := padded.length - places
  if places == 0 then padded
  else String.ofList (padded.toList.take whole) ++ "." ++ String.ofList (padded.toList.drop whole)

/-- A finite double that is not negative, rounded to a number of places. -/
def fixedText (places : Nat) (x : Float) : String :=
  let b := Binary.ofFloat x
  let num := b.significand * Nat.pow 2 b.exponent.toNat * Nat.pow 10 places
  let den := Nat.pow 2 (-b.exponent).toNat
  placesText places (roundDiv num den)

end ExtensionAudit.Decimal
