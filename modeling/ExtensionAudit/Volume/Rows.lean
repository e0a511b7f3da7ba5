import ExtensionAudit.Volume

/-!
# Rows of files

A search through a file goes row by row, where a newline ends a row.  A row that passes is shown
with its number.  Of bytes that are no text a search shows no row from the place on where it
notices that, which depends on what it looks for, and zero bytes end rows too.
-/

namespace ExtensionAudit

namespace Text

/-- The line without the newline at its end. -/
def dropNewline (line : Text) : Text :=
  line.takeWhile (· != '\n')

/-- The rows of a text: its lines without their newlines. -/
def rows (t : Text) : List Text :=
  (newlineLines t).map dropNewline

/-- A zero byte. -/
def isZero (c : Char) : Bool := c.toNat == 0

/-- The rows that a search goes through, which zero bytes end as well. -/
def searched (t : Text) : List Text :=
  if t.any isZero then (rows t).flatMap (splitAt (Char.ofNat 0)) else rows t

/-- The text of an output that is kept as one value: without zero bytes, and without the
newlines at its end. -/
def captured (t : Text) : Text :=
  let kept := t.filter fun c => !isZero c
  (kept.reverse.dropWhile (· == '\n')).reverse

/-- The rows of bytes, without their newlines. -/
def byteRows : List UInt8 → List (List UInt8)
  | [] => []
  | b :: rest =>
      if b == 10 then [] :: byteRows rest
      else
        match byteRows rest with
        | [] => [[b]]
        | row :: more => (b :: row) :: more

end Text

/-- A search does not take the bytes for text: one of them is zero, or they are no text in the
locale. -/
def Machine.isBinary (m : Machine) (bytes : List UInt8) : Bool :=
  bytes.contains 0 || m.isBroken bytes

/-- Those of the rows of bytes that a search shows if they pass its test.  Of bytes that are no text
these are the rows before it notices. -/
def Machine.shown {α : Type} (m : Machine) (test : Text → Bool) (bytes : List UInt8)
    (rows : List α) : List α :=
  if m.isBinary bytes then rows.take (m.early test bytes) else rows

/-- The rows of bytes that a search shows if they pass its test, with their numbers. -/
def Machine.shownRows (m : Machine) (test : Text → Bool) (bytes : List UInt8) :
    List (Nat × Text) :=
  m.shown test bytes (Text.numbered (Text.readLossy bytes).rows)

/-- Bytes that are kept as a value and then handed on: without zero bytes, and with one newline at
the end. -/
def Machine.handedOn (bytes : List UInt8) : List UInt8 :=
  ((bytes.filter (· != 0)).reverse.dropWhile (· == 10)).reverse ++ [10]

/-- What is said where a text is kept as a value. -/
def Machine.zeroNotes (m : Machine) (use : String) (t : Text) : List String :=
  if t.any Text.isZero then m.zeroNote use else []

namespace Volume

/-- The text of the file at a path with its line ends as they are.  What cannot be read has
none. -/
def plainText (v : Volume) (p : Path) : Text :=
  match v.bytes p with
  | .ok bytes => Text.readLossy bytes
  | .error _ => []

/-- A row of the file at a path passes a test. -/
def anyRow (v : Volume) (p : Path) (test : Text → Bool) : Bool :=
  (v.plainText p).searched.any test

/-- The rows of the file at a path that a search shows if they pass its test. -/
def shownRows (v : Volume) (test : Text → Bool) (p : Path) : List (Nat × Text) :=
  match v.bytes p with
  | .ok bytes => v.machine.shownRows test bytes
  | .error _ => []

/-- The rows of the file at a path that pass a test, with their numbers, as far as a search shows
them. -/
def foundRows (v : Volume) (p : Path) (test : Text → Bool) : List (Nat × Text) :=
  (v.shownRows test p).filter fun (_, row) => test row

/-- The rows that pass a test, each with its number in front. -/
def numberedRows (v : Volume) (p : Path) (test : Text → Bool) : List Text :=
  (v.foundRows p test).map fun (n, row) => (toString n).toList ++ ':' :: row

end Volume

end ExtensionAudit
