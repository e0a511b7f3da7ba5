import ExtensionAudit.Text.Basic

/-!
# Lines

Three ways to cut a text into lines, which the checks use side by side.

* `splitAt '\n'` cuts at every newline and keeps an empty last piece.
* `newlineLines` keeps each newline at the end of its line.
* `lines` also cuts at the other line boundaries: the vertical tab, the form feed,
  the separators 28 to 30, the next-line character and the two Unicode separators.

Reading a file as text first turns every carriage return, with or without a
newline after it, into one newline.
-/

namespace ExtensionAudit.Text

/-- Every carriage return, with the newline that may follow it, becomes a newline. -/
def unifyNewlines : Text → Text
  | [] => []
  | '\r' :: '\n' :: rest => '\n' :: unifyNewlines rest
  | '\r' :: rest => '\n' :: unifyNewlines rest
  | c :: rest => c :: unifyNewlines rest

/-- A character that ends a line. -/
def isLineEnd (c : Char) : Bool :=
  let n := c.toNat
  (10 ≤ n && n ≤ 13) || (28 ≤ n && n ≤ 30) || n == 0x85 || n == 0x2028 || n == 0x2029

/-- The lines of a text, each with its newline.  The empty text has no line. -/
def newlineLines : Text → List Text
  | [] => []
  | c :: rest =>
      if c == '\n' then [c] :: newlineLines rest
      else
        match newlineLines rest with
        | [] => [[c]]
        | line :: more => (c :: line) :: more

/-- The lines of a text, each with the line boundary that ends it. -/
def linesWithEnds : Text → List Text
  | [] => []
  | '\r' :: '\n' :: rest => ['\r', '\n'] :: linesWithEnds rest
  | c :: rest =>
      if isLineEnd c then [c] :: linesWithEnds rest
      else
        match linesWithEnds rest with
        | [] => [[c]]
        | line :: more => (c :: line) :: more

/-- The line without the boundary that ends it. -/
def dropLineEnd (line : Text) : Text :=
  line.takeWhile fun c => !isLineEnd c

/-- The lines of a text, without their boundaries. -/
def lines (t : Text) : List Text :=
  (linesWithEnds t).map dropLineEnd

/-- Each element with its number, counted from one. -/
def numbered {α : Type} (xs : List α) : List (Nat × α) :=
  (xs.zipIdx 1).map fun (x, n) => (n, x)

end ExtensionAudit.Text
