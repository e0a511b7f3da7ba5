import ExtensionAudit.Text.Basic

/-!
# Runs of names

The names of characters stand one after the other in a text.  The small letter in front of a name
tells how it comes from the name before it.  Names themselves have no small letters.

* `a` to `l`: the name starts with no, one, two words of the name before it, and so on.  The other
  words are written.
* `n` to `y`: likewise, but the written words only take the place of as many others, and the words
  after them are taken over as well.
* `m`: nothing is written.  The name before it goes on to the next number or letter at its end.
* `z`: there is no name.  As many characters as written have none.

So `aSMALL LETTER AmnCAPITALz5aDIGIT ZERO` stands for four names, the fourth of them five characters
farther on.

The text itself is long, so it is kept in a code.  A number, given by its digits, is narrowed down
sign by sign.  The numbers that are left are shared out among the signs that may come next, and the
sign that comes is the one in whose share the number lies.  The more often a sign has come after
the same signs before, the larger its share.
-/

namespace ExtensionAudit.Text

/-! ## The code -/

/-- The digits. -/
def codeDigits : Text :=
  "!$%&()*+,.0123456789:;<=>?@ABCDEFGHIJKLMNOPQRSTUVWXYZ[]^_abcdefghijklmnopqrstuvwxyz|~".toList

/-- A part of the numbers: where in it the number lies, how large it is, and the digits of the
number that are not read yet. -/
structure Share where
  /-- Where the number lies. -/
  place : Nat
  /-- How large the part is. -/
  size : Nat
  /-- The digits that are not read yet. -/
  digits : Text

namespace Share

/-- Digits are read until the part is large enough to be shared out. -/
def refined : Nat → Nat → Text → Share
  | place, size, [] => ⟨place, size, []⟩
  | place, size, d :: rest =>
      if size < Nat.pow 85 5 then refined (85 * place + codeDigits.idxOf d) (85 * size) rest
      else ⟨place, size, d :: rest⟩

/-- The part from some `low` on and as wide as given, of `total` in all. -/
def narrowed (s : Share) (low width total : Nat) : Share :=
  let unit := s.size / total
  refined (s.place - low * unit) (width * unit) s.digits

end Share

/-- The value at a key is changed.  A key that is not there gets a first value. -/
def changed {α : Type} (key : Char) (change : α → α) (first : α) :
    List (Char × α) → List (Char × α)
  | [] => [(key, change first)]
  | (c, a) :: rest =>
      if c == key then (c, change a) :: rest else (c, a) :: changed key change first rest

/-- How often each sign has come so far, and the same after each sign. -/
inductive Memory where
  | node (counts : List (Char × Nat)) (after : List (Char × Memory))

namespace Memory

/-- How often each sign has come after the recent ones, the last of them first.  The counts after
the most signs come first. -/
def countsAfter : Memory → Text → List (List (Char × Nat))
  | node counts _, [] => [counts]
  | node counts after, c :: recent =>
      match after.lookup c with
      | some m => m.countsAfter recent ++ [counts]
      | none => [counts]

/-- A sign has come after the recent ones.  It is not counted after fewer signs than given. -/
def learned (sign : Char) : Nat → Memory → Text → Memory
  | fewer, node counts after, recent =>
      let counts := if fewer == 0 then changed sign (· + 1) 0 counts else counts
      match recent with
      | [] => node counts after
      | c :: recent =>
          node counts (changed c (fun m => learned sign (fewer - 1) m recent) (node [] []) after)

end Memory

/-- The sign whose share a place lies in, with the start and the width of the share. -/
def signAt (place : Nat) : Nat → List (Char × Nat) → Option (Char × Nat × Nat)
  | _, [] => none
  | low, (c, n) :: rest =>
      if place < low + (2 * n - 1) then some (c, low, 2 * n - 1)
      else signAt place (low + (2 * n - 1)) rest

/-- The next sign, by the first counts that have it.  Each sign has a share there, and so have the
other signs together.  With the sign comes the number of the counts that follow. -/
def nextSign : List (List (Char × Nat)) → Text → Share → Char × Nat × Share
  | [], _, s => (' ', 0, s)
  | counts :: rest, others, s =>
      let fresh := counts.filter fun (c, _) => !others.contains c
      let total := 2 * (fresh.map (·.2)).foldl (· + ·) 0
      match signAt (s.place / (s.size / total)) 0 fresh with
      | some (c, low, width) => (c, rest.length, s.narrowed low width total)
      | none =>
          nextSign rest (fresh.map (·.1) ++ others)
            (if fresh.isEmpty then s
              else s.narrowed (total - fresh.length) fresh.length total)

/-- What has been read, the last sign first, and what is known from it. -/
structure Reading where
  /-- The signs. -/
  signs : Text := []
  /-- What has come after what. -/
  memory : Memory := .node [] []

/-- The signs of names, counted once each. -/
def nameSigns : List (Char × Nat) :=
  " -0123456789ABCDEFGHIJKLMNOPQRSTUVWXYZabcdefghijklmnopqrstuvwxyz".toList.map (·, 1)

/-- As many signs are read as given. -/
def Reading.on : Nat → Reading → Share → Reading
  | 0, r, _ => r
  | n + 1, r, s =>
      let recent := r.signs.take 5
      let (sign, shorter, s) := nextSign (r.memory.countsAfter recent ++ [nameSigns]) [] s
      on n ⟨sign :: r.signs, r.memory.learned sign (shorter - 1) recent⟩ s

/-! ## The names -/

/-- The names of characters in a row. -/
structure NameRun where
  /-- The first character. -/
  first : Nat
  /-- The length of the text with the names. -/
  length : Nat
  /-- The digits of its code.  Lines end anywhere. -/
  digits : String

/-- A run is read. -/
def Reading.run (r : Reading) (names : NameRun) : Reading :=
  r.on names.length (.refined 0 1 (names.digits.toList.filter (· != '\n')))

/-- What is written, each piece with the letter in front of it. -/
def writtenPieces (t : Text) : List (Char × Text) :=
  let step := fun (c : Char) ((piece, done) : Text × List (Char × Text)) =>
    if c.isLower then ([], (c, piece) :: done) else (c :: piece, done)
  (t.foldr step ([], [])).2

/-- The next number or letter, from the end on. -/
def goOn : Text → Text
  | '9' :: rest => '0' :: goOn rest
  | c :: rest => Char.ofNat (c.toNat + 1) :: rest
  | [] => []

/-- The words of a name, from those of the name before it. -/
def wordsAfter (before : List Text) (c : Char) (piece : Text) : List Text :=
  let words := splitAt ' ' piece
  if c < 'm' then before.take (c.toNat - 97) ++ words
  else if c == 'm' then
    before.dropLast ++ (before.getLast?.map fun w => (goOn w.reverse).reverse).toList
  else
    let kept := c.toNat - 110
    before.take kept ++ words ++ before.drop (kept + words.length)

/-- The names in full, as lists of words, each with its character.  The first arguments are the
next character and the name before it. -/
def fullNames : Nat → List Text → List (Char × Text) → List (Nat × List Text)
  | _, _, [] => []
  | n, before, (c, piece) :: rest =>
      if c == 'z' then
        fullNames (piece.foldl (fun k d => k * 10 + (d.toNat - 48)) 0 + n) before rest
      else
        let name := wordsAfter before c piece
        (n, name) :: fullNames (n + 1) name rest

/-- The names of runs in full, each run read with what is known from those before it. -/
def namesOf : Reading → List NameRun → List (Nat × List Text)
  | _, [] => []
  | r, names :: rest =>
      let r := r.run names
      fullNames names.first [] (writtenPieces (r.signs.take names.length).reverse) ++
        namesOf r rest

end ExtensionAudit.Text
