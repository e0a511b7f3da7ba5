import ExtensionAudit.Text.Ranges

/-!
# White space

The blank characters of all scripts, and texts with the blanks at their ends cut
off.  The information separators 28 to 31 count as blank.
-/

namespace ExtensionAudit.Text

/-- The blank characters. -/
def blankRanges : List (Nat × Nat) :=
  [(9, 13), (28, 32), (133, 133), (160, 160), (0x1680, 0x1680), (0x2000, 0x200a),
   (0x2028, 0x2029), (0x202f, 0x202f), (0x205f, 0x205f), (0x3000, 0x3000)]

/-- White space of any script. -/
def isBlank (c : Char) : Bool :=
  if c.toNat < 128 then (9 ≤ c.toNat && c.toNat ≤ 13) || (28 ≤ c.toNat && c.toNat ≤ 32)
  else inRanges blankRanges c.toNat

/-- White space below 128 without the information separators. -/
def isAsciiBlank (c : Char) : Bool :=
  c == ' ' || (9 ≤ c.toNat && c.toNat ≤ 13)

/-- The text without the characters of a class at its front. -/
def trimFrontOf (p : Char → Bool) (t : List Char) : List Char :=
  t.dropWhile p

/-- The text without the characters of a class at its back. -/
def trimBackOf (p : Char → Bool) (t : List Char) : List Char :=
  (t.reverse.dropWhile p).reverse

/-- The text without the characters of a class at either end. -/
def trimOf (p : Char → Bool) (t : List Char) : List Char :=
  trimBackOf p (trimFrontOf p t)

/-- The text without blanks at its front. -/
def trimFront (t : List Char) : List Char := trimFrontOf isBlank t

/-- The text without blanks at either end. -/
def trim (t : List Char) : List Char := trimOf isBlank t

end ExtensionAudit.Text
