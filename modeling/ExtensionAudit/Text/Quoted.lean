import ExtensionAudit.Text.Point
import ExtensionAudit.Text.Printable

/-!
# Quoted strings

A string between quotes, with an escape for whatever would not show.  The quote is
the single one, unless the string holds a single quote and no double one.
-/

namespace ExtensionAudit.Text

/-- A digit of base sixteen. -/
def hexDigit (n : Nat) : Char :=
  if n < 10 then Char.ofNat (48 + n) else Char.ofNat (87 + n)

/-- The last `width` digits of a number in base sixteen. -/
def hex : Nat → Nat → Text
  | 0, _ => []
  | width + 1, n => hex width (n / 16) ++ [hexDigit (n % 16)]

/-- The escape of a code point by its number, in the shortest of three widths. -/
def numericEscape (n : Nat) : Text :=
  if n < 0x100 then '\\' :: 'x' :: hex 2 n
  else if n < 0x10000 then '\\' :: 'u' :: hex 4 n
  else '\\' :: 'U' :: hex 8 n

/-- A code point inside the given quotes. -/
def quotedPoint (quote : Char) : Point → Text
  | .half n => numericEscape n
  | .char c =>
      if c == quote || c == '\\' then ['\\', c]
      else if c == '\t' then ['\\', 't']
      else if c == '\n' then ['\\', 'n']
      else if c == '\r' then ['\\', 'r']
      else if isPrintable c then [c]
      else numericEscape c.toNat

/-- The quote for a string. -/
def quoteFor (s : Points) : Char :=
  if s.contains (.char '\'') && !s.contains (.char '"') then '"' else '\''

/-- A string between quotes. -/
def quoted (s : Points) : Text :=
  let q := quoteFor s
  q :: s.flatMap (quotedPoint q) ++ [q]

/-- A text between quotes. -/
def quotedText (t : Text) : Text :=
  quoted (Points.ofText t)

end ExtensionAudit.Text
