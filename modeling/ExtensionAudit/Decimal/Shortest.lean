import ExtensionAudit.Decimal.Binary

/-!
# The shortest decimal of a double

Among the decimals that read back as the double, the one with the fewest digits,
and of two with as many the nearer one.  The search takes one digit more at a time
and tries the two neighbours of the double on that grid.  Seventeen digits always
suffice.

The text is positional while the leading digit stands from `10 ^ -4` to `10 ^ 15`, and
has a signed exponent of at least two digits otherwise.
-/

namespace ExtensionAudit.Decimal

/-- The least power of ten above a binary fraction that is not zero. -/
def Binary.scale (x : Binary) : Int :=
  let twos : Int := (x.significand.log2 : Int) + x.exponent
  let guess := (twos * 30103) / 100000 - 1
  let tries := [guess, guess + 1, guess + 2, guess + 3]
  (tries.find? fun k => order 1 k x.significand x.exponent == .gt).getD (guess + 4)

/-- The nearer of two neighbours on a grid, or the even one halfway between. -/
def Binary.nearer (x : Binary) (low : Nat) (exponent : Int) : Dec :=
  match order (2 * low + 1) exponent (2 * x.significand) x.exponent with
  | .gt => ⟨low, exponent⟩
  | .lt => ⟨low + 1, exponent⟩
  | .eq => if low % 2 == 0 then ⟨low, exponent⟩ else ⟨low + 1, exponent⟩

/-- A decimal on the grid that reads back, if there is one. -/
def Binary.onGrid? (x : Binary) (exponent : Int) : Option Dec :=
  let low := x.wholeIn exponent
  let a : Dec := ⟨low, exponent⟩
  let b : Dec := ⟨low + 1, exponent⟩
  match x.readsBack a, x.readsBack b with
  | true, true => some (x.nearer low exponent)
  | true, false => some a
  | false, true => some b
  | false, false => none

/-- The decimal without the zeros at the end of its digits. -/
def Dec.strip (d : Dec) : Nat → Dec
  | 0 => d
  | fuel + 1 => if d.digits != 0 && d.digits % 10 == 0
      then Dec.strip ⟨d.digits / 10, d.exponent + 1⟩ fuel else d

/-- The shortest decimal that reads back as a binary fraction that is not zero. -/
def Binary.shortest (x : Binary) : Dec :=
  let k := x.scale
  let grids := (List.range 17).map fun n => k - (n + 1 : Nat)
  let found := (grids.findSome? x.onGrid?).getD ⟨x.wholeIn (k - 17), k - 17⟩
  found.strip 20

/-- The exponent of a power of ten: a sign and at least two digits. -/
def exponentText (e : Int) : String :=
  let digits := toString e.natAbs
  let padded := if digits.length < 2 then "0" ++ digits else digits
  (if e < 0 then "e-" else "e+") ++ padded

/-- Zeros in a row. -/
def zeros (n : Nat) : String :=
  String.ofList (List.replicate n '0')

/-- A decimal in positional notation or with an exponent. -/
def Dec.text (d : Dec) : String :=
  let digits := toString d.digits
  let count : Int := digits.length
  let lead := d.exponent + count - 1
  if -4 ≤ lead && lead < 16 then
    if 0 ≤ d.exponent then digits ++ zeros d.exponent.toNat ++ ".0"
    else if 0 ≤ lead then
      let whole := (lead + 1).toNat
      String.ofList (digits.toList.take whole) ++ "." ++ String.ofList (digits.toList.drop whole)
    else "0." ++ zeros (-lead - 1).toNat ++ digits
  else
    let head := String.ofList (digits.toList.take 1)
    let tail := String.ofList (digits.toList.drop 1)
    head ++ (if tail.isEmpty then "" else "." ++ tail) ++ exponentText lead

/-- The shortest text of a double. -/
def shortestText (x : Float) : String :=
  if x.isNaN then "nan"
  else
    let sign := if isNegative x then "-" else ""
    if x.isInf then sign ++ "inf"
    else
      let b := Binary.ofFloat x
      if b.significand == 0 then sign ++ "0.0" else sign ++ b.shortest.text

end ExtensionAudit.Decimal
