import ExtensionAudit.Text.Blank
import ExtensionAudit.Text.Case
import ExtensionAudit.Text.Digit
import ExtensionAudit.Text.Word

/-!
# Sets of characters

The part of a pattern that looks at one character.  A set lists single code points,
ranges and classes, and may be negated.  Its classes can be narrowed to the first 128
characters.

A set that looks past letter case *folds*: the character is put in lower case, and the entries
are put in lower case too.  A single code point then stands for the letters that share its
upper-case form, and a range for all characters whose lower-case forms it meets.  Beyond the
first 65536 characters entries are not put in lower case.  There a single code point stands for
itself alone, and a range for the characters that lie in it or whose upper-case forms do.  A set
folds only if one of its entries is cased or lies beyond these characters.
-/

namespace ExtensionAudit.Pattern

/-! ## Entries -/

/-- A class of characters with a letter of its own. -/
inductive CharClass where
  /-- Decimal digits. -/
  | digit
  /-- White space. -/
  | blank
  /-- Letters, numerals and the underscore. -/
  | word
deriving DecidableEq, Repr

/-- A character belongs to a class. -/
def CharClass.has (narrow : Bool) : CharClass → Char → Bool
  | .digit, c => if narrow then c.isDigit else Text.isDigit c
  | .blank, c => if narrow then Text.isAsciiBlank c else Text.isBlank c
  | .word, c => if narrow then Text.isAsciiWord c else Text.isWord c

/-- One entry of a set. -/
inductive Member where
  /-- A single code point. -/
  | one (n : Nat)
  /-- All code points between two, both included. -/
  | range (lo hi : Nat)
  /-- A class, or all characters outside it. -/
  | cls (c : CharClass) (negated : Bool)
deriving DecidableEq, Repr

/-- An entry covers a character as it stands. -/
def Member.covers (narrow : Bool) (c : Char) : Member → Bool
  | .one n => c.toNat == n
  | .range lo hi => lo ≤ c.toNat && c.toNat ≤ hi
  | .cls k negated => k.has narrow c != negated

/-! ## Folding -/

/-- The last code point that is put in lower case in a set. -/
def foldLimit : Nat := 0xFFFF

/-- The lower-case form of a code point. -/
def foldCode (narrow : Bool) (n : Nat) : Nat :=
  if narrow then Text.asciiLower n else Text.lowerCode n

/-- A code point has another form in the other case. -/
def isCasedCode (narrow : Bool) (n : Nat) : Bool :=
  if narrow then (Char.ofNat n).isAlpha else Text.isCased n

/-- The lower-case letters that a lower-case letter stands for. -/
def foldGroup (narrow : Bool) (n : Nat) : List Nat :=
  if narrow then [n] else Text.lowerGroup n

/-- A range has a code point whose lower-case form stands for the given one. -/
def foldMeets (narrow : Bool) (lo hi n : Nat) : Bool :=
  if narrow then
    (lo ≤ n && n ≤ hi) || (97 ≤ n && n ≤ 122 && lo ≤ n - 32 && n - 32 ≤ hi)
  else Text.groupMeets lo hi n

/-- The entry makes a set fold. -/
def Member.folds (narrow : Bool) : Member → Bool
  | .one n => isCasedCode narrow n || n > foldLimit
  | .range lo hi =>
      hi > foldLimit ||
        if narrow then Text.progressionMeets lo hi 65 90 1 || Text.progressionMeets lo hi 97 122 1
        else Text.casedBetween lo hi
  | .cls .. => false

/-- An entry of a set that folds covers a lower-case code point. -/
def Member.coversFolded (narrow : Bool) (n : Nat) : Member → Bool
  | .one m =>
      let l := foldCode narrow m
      if l ≤ foldLimit then (foldGroup narrow l).contains n else n == m
  | .range lo hi =>
      foldMeets narrow lo (min hi foldLimit) n ||
        (hi > foldLimit &&
          ((lo ≤ n && n ≤ hi) || (lo ≤ Text.upperCode n && Text.upperCode n ≤ hi)))
  | .cls k negated => k.has narrow (Char.ofNat n) != negated

/-! ## Sets -/

/-- A set of characters. -/
structure CharSet where
  /-- The entries. -/
  members : List Member
  /-- The set holds what the entries do not. -/
  negated : Bool
  /-- The set looks past letter case. -/
  folded : Bool
  /-- Classes and letter case are those of the first 128 characters. -/
  narrow : Bool
deriving DecidableEq, Repr

/-- A set holds a character. -/
def CharSet.has (s : CharSet) (c : Char) : Bool :=
  let covered :=
    if s.folded then
      let n := foldCode s.narrow c.toNat
      s.members.any (·.coversFolded s.narrow n)
    else s.members.any (·.covers s.narrow c)
  covered != s.negated

/-! ## Tests -/

/-- What a pattern asks of one character. -/
inductive CharTest where
  /-- Any character. -/
  | any
  /-- Any character but the newline. -/
  | notNewline
  /-- The character with this code point. -/
  | literal (n : Nat)
  /-- Any character but the one with this code point. -/
  | notLiteral (n : Nat)
  /-- A character of a set. -/
  | inSet (s : CharSet)
deriving DecidableEq, Repr

/-- A character passes a test. -/
def CharTest.passes : CharTest → Char → Bool
  | .any, _ => true
  | .notNewline, c => c != '\n'
  | .literal n, c => c.toNat == n
  | .notLiteral n, c => c.toNat != n
  | .inSet s, c => s.has c

/-- The test for one code point or, negated, for all others. -/
def CharTest.ofCode (anyCase narrow negated : Bool) (n : Nat) : CharTest :=
  if anyCase && isCasedCode narrow n then
    .inSet ⟨[.one (foldCode narrow n)], negated, true, narrow⟩
  else if negated then .notLiteral n
  else .literal n

/-- The test for the entries of a set.  A set of one code point is the test for it. -/
def CharTest.ofMembers (anyCase narrow negated : Bool) (members : List Member) : CharTest :=
  match members with
  | [.one n] => .ofCode anyCase narrow negated n
  | ms => .inSet ⟨ms, negated, anyCase && ms.any (·.folds narrow), narrow⟩

end ExtensionAudit.Pattern
