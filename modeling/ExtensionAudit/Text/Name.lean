import ExtensionAudit.Text.Name.Alias
import ExtensionAudit.Text.Name.Alphabets
import ExtensionAudit.Text.Name.EastAsian
import ExtensionAudit.Text.Name.Historic
import ExtensionAudit.Text.Name.Pictures
import ExtensionAudit.Text.Name.Syllables
import ExtensionAudit.Text.Name.Symbols
import ExtensionAudit.Text.Ranges

/-!
# Names of characters

Characters by their names, in letters of either case.  Most names are listed.  Others follow
from the character:

* An ideograph is named by its number.  For the unified ideographs the name has capital letters
  only, and its number four or five digits.
* A syllable of Hangul is named by its sounds, in capital letters only.
* A variation selector has an abbreviation with its number.
-/

namespace ExtensionAudit.Text

/-- What follows a text at the start of another. -/
def afterStart? (start : String) (t : Text) : Option Text :=
  if start.toList.isPrefixOf t then some (t.drop start.length) else none

/-! ## Names with a number -/

/-- The value of a digit of base sixteen, with capital letters. -/
def hexDigit? (c : Char) : Option Nat :=
  if c.isDigit then some (c.toNat - 48)
  else if 'A' ≤ c && c ≤ 'F' then some (c.toNat - 55)
  else none

/-- The number of digits of base sixteen. -/
def hexNumber? (t : Text) : Option Nat :=
  t.foldlM (fun n c => (hexDigit? c).map (n * 16 + ·)) 0

/-- The unified ideographs. -/
def ideographRanges : List (Nat × Nat) :=
  [(0x3400, 0x4dbf), (0x4e00, 0x9fff), (0x20000, 0x2a6df), (0x2a700, 0x2b738),
   (0x2b740, 0x2b81d), (0x2b820, 0x2cea1), (0x2ceb0, 0x2ebe0), (0x30000, 0x3134a)]

/-- The unified ideograph of a name. -/
def ideographNamed? (name : Text) : Option Nat := do
  let digits ← afterStart? "CJK UNIFIED IDEOGRAPH-" name
  let n ← hexNumber? digits
  if (digits.length == 4 || digits.length == 5) && inRanges ideographRanges n then some n else none

/-- Characters that are named by a text and their number: the text, the first and the last
character. -/
def numberedNames : List (String × Nat × Nat) :=
  [("CJK COMPATIBILITY IDEOGRAPH-", 0xf900, 0xfa6d),
   ("CJK COMPATIBILITY IDEOGRAPH-", 0xfa70, 0xfad9),
   ("CJK COMPATIBILITY IDEOGRAPH-", 0x2f800, 0x2fa1d),
   ("KHITAN SMALL SCRIPT CHARACTER-", 0x18b00, 0x18cd5),
   ("NUSHU CHARACTER-", 0x1b170, 0x1b2fb)]

/-- The character that is named by its number.  A number has no zero in front. -/
def numberedNamed? (name : Text) : Option Nat :=
  numberedNames.findSome? fun (start, lo, hi) => do
    let digits ← afterStart? start name
    let n ← hexNumber? digits
    if digits.head? != some '0' && lo ≤ n && n ≤ hi then some n else none

/-- The variation selector of an abbreviation. -/
def selectorNamed? (name : Text) : Option Nat := do
  let digits ← afterStart? "VS" name
  if digits.isEmpty || digits.head? == some '0' || digits.any (!·.isDigit) then none
  else
    let n := digits.foldl (fun n c => n * 10 + (c.toNat - 48)) 0
    if n ≤ 16 then some (0xfe00 + n - 1) else if n ≤ 256 then some (0xe0100 + n - 17) else none

/-! ## Syllables of Hangul -/

/-- The sounds that a syllable starts with. -/
def leadingSounds : List String :=
  ["G", "GG", "N", "D", "DD", "R", "M", "B", "BB", "S", "SS", "", "J", "JJ", "C", "K", "T", "P",
   "H"]

/-- The vowels of a syllable. -/
def vowelSounds : List String :=
  ["A", "AE", "YA", "YAE", "EO", "E", "YEO", "YE", "O", "WA", "WAE", "OE", "YO", "U", "WEO", "WE",
   "WI", "YU", "EU", "YI", "I"]

/-- The sounds that a syllable ends with. -/
def trailingSounds : List String :=
  ["", "G", "GG", "GS", "N", "NJ", "NH", "D", "L", "LG", "LM", "LB", "LS", "LT", "LP", "LH", "M",
   "B", "BS", "S", "SS", "NG", "J", "C", "K", "T", "P", "H"]

/-- The ways to take a sound off a text: the number of the sound and what follows it. -/
def takeSound (sounds : List String) (t : Text) : List (Nat × Text) :=
  (List.zip (List.range sounds.length) sounds).filterMap fun (i, s) =>
    (afterStart? s t).map (i, ·)

/-- The syllable of a name.  The syllables are in the order of their sounds. -/
def syllableNamed? (name : Text) : Option Nat := do
  let t ← afterStart? "HANGUL SYLLABLE " name
  (takeSound leadingSounds t).findSome? fun (l, t) =>
    (takeSound vowelSounds t).findSome? fun (v, t) =>
      (trailingSounds.findIdx? (·.toList == t)).map fun e =>
        0xac00 + (l * vowelSounds.length + v) * trailingSounds.length + e

/-! ## All names -/

/-- The listed names, as lists of words, each with its character.  They are read once, when they
are first asked for. -/
def listedNames : Thunk (List (Nat × List Text)) where
  fn _ := namesOf {} [alphabetNames, syllableNames, symbolNames, eastAsianNames, historicNames,
    pictureNames]

/-- The character of a listed name. -/
def listedNamed? (name : Text) : Option Nat :=
  (listedNames.get.find? (·.2 == splitAt ' ' name)).map (·.1)

/-- The character of a name. -/
def characterNamed? (name : Text) : Option Nat :=
  let capitals := name.map Char.toUpper
  ideographNamed? name <|> syllableNamed? name <|> numberedNamed? capitals <|>
    selectorNamed? capitals <|> otherNamed? capitals <|>
    listedNamed? capitals

end ExtensionAudit.Text
