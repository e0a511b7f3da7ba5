import ExtensionAudit.Json.Reader
import ExtensionAudit.Text.Blank
import ExtensionAudit.Text.Digit

/-!
# Whole numbers from text

A whole number may have blanks around it, a sign, digits of any script and single underscores
between digits.  It may not have more digits than `Json.digitBound`.  The information separators
do not count as blanks here.
-/

namespace ExtensionAudit.Number

/-- The value of digits of any script. -/
def digitsValue (ds : Text) : Nat :=
  ds.foldl (fun n c => n * 10 + (Text.digitValue? c).getD 0) 0

/-- A blank that can stand around a number. -/
def isBlank (c : Char) : Bool :=
  if c.toNat < 128 then Text.isAsciiBlank c else Text.isBlank c

/-- The sign in front, and what follows it. -/
def signOf : Text → Bool × Text
  | '-' :: rest => (true, rest)
  | '+' :: rest => (false, rest)
  | t => (false, t)

/-- The whole number of a text. -/
def read? (t : Text) : Option Int :=
  let (negative, body) := signOf (Text.trimOf isBlank t)
  let pieces := Text.splitAt '_' body
  let digits := pieces.flatten
  if pieces.all (fun p => !p.isEmpty && p.all Text.isDigit) && digits.length ≤ Json.digitBound then
    let n : Int := digitsValue digits
    some (if negative then -n else n)
  else none

/-- The number of digits in a base, where each digit must be below the base. -/
def ofDigits? (base : Nat) (digits : Text) : Option Nat :=
  digits.foldlM (fun n c =>
    let d := c.toNat - 48
    if d < base then some (n * base + d) else none) 0

/-- The number of digits as a 64-bit word.  A zero in front makes it octal. -/
def word? (digits : Text) : Option Int64 :=
  (ofDigits? (if digits.head? == some '0' then 8 else 10) digits).map Int64.ofNat

end ExtensionAudit.Number
