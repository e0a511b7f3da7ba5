import ExtensionAudit.Json.Basic

/-!
# Reading JSON

The reader accepts the JSON grammar and the three number words `NaN`, `Infinity` and
`-Infinity`.  It stops at the first fault and says what it expected there, or where the
string began that never ends.  A field given twice keeps its first place and its last
value.

Two bounds are faults of their own: a document may not nest deeper than `depthBound`,
and a whole number may not have more than `digitBound` digits.
-/

namespace ExtensionAudit.Json

/-- What is wrong at a place of the document. -/
inductive Cause where
  /-- The document opens with a byte order mark. -/
  | byteOrderMark
  /-- No value starts here. -/
  | value
  /-- A field's name must start here. -/
  | fieldName
  /-- A colon must stand here. -/
  | colon
  /-- A comma must stand here. -/
  | comma
  /-- The string that starts here has no end. -/
  | openString
  /-- A control character stands in a string. -/
  | control
  /-- The backslash starts no escape. -/
  | escape
  /-- Four digits of base sixteen must follow. -/
  | unicodeEscape
  /-- Text follows the value. -/
  | extra
deriving DecidableEq, Repr

/-- The words for a cause. -/
def Cause.message : Cause → String
  | .byteOrderMark => "Unexpected UTF-8 BOM (decode using utf-8-sig)"
  | .value => "Expecting value"
  | .fieldName => "Expecting property name enclosed in double quotes"
  | .colon => "Expecting ':' delimiter"
  | .comma => "Expecting ',' delimiter"
  | .openString => "Unterminated string starting at"
  | .control => "Invalid control character at"
  | .escape => "Invalid \\escape"
  | .unicodeEscape => "Invalid \\uXXXX escape"
  | .extra => "Extra data"

/-- Why a document cannot be read. -/
inductive Refusal where
  /-- The text departs from the grammar at a place. -/
  | malformed (cause : Cause) (place : Nat)
  /-- Lists and objects nest too deeply. -/
  | tooDeep
  /-- A whole number has too many digits. -/
  | tooManyDigits (digits : Nat)
deriving DecidableEq, Repr

/-- How deeply lists and objects may nest. -/
def depthBound : Nat := 985

/-- How many digits a whole number may have. -/
def digitBound : Nat := 4300

/-- The rest of the document, and its place. -/
structure Reader where
  /-- What is still to be read. -/
  rest : Text
  /-- How many characters have been read. -/
  place : Nat

/-- A fault at a place. -/
def fault {α : Type} (cause : Cause) (place : Nat) : Except Refusal α :=
  .error (.malformed cause place)

/-- White space of the grammar. -/
def isGap (c : Char) : Bool :=
  c == ' ' || c == '\t' || c == '\n' || c == '\r'

/-- The reader after `n` characters. -/
def Reader.skip (r : Reader) (n : Nat) : Reader :=
  ⟨r.rest.drop n, r.place + n⟩

/-- The reader after the white space. -/
def Reader.skipGap (r : Reader) : Reader :=
  r.skip (r.rest.takeWhile isGap).length

/-- The value of a digit of base sixteen. -/
def hexValue? (c : Char) : Option Nat :=
  let n := c.toNat
  if 48 ≤ n && n ≤ 57 then some (n - 48)
  else if 97 ≤ n && n ≤ 102 then some (n - 87)
  else if 65 ≤ n && n ≤ 70 then some (n - 55)
  else none

/-- The value of four digits of base sixteen. -/
def hex4? (a b c d : Char) : Option Nat := do
  return (((← hexValue? a) * 16 + (← hexValue? b)) * 16 + (← hexValue? c)) * 16 + (← hexValue? d)

/-- The character a backslash and a letter stand for. -/
def escaped? : Char → Option Char
  | '"' => some '"'
  | '\\' => some '\\'
  | '/' => some '/'
  | 'b' => some (Char.ofNat 8)
  | 'f' => some (Char.ofNat 12)
  | 'n' => some '\n'
  | 'r' => some '\r'
  | 't' => some '\t'
  | _ => none

/-- The code point of a number: half of a surrogate pair or a character. -/
def point (n : Nat) : Point :=
  if 0xD800 ≤ n && n < 0xE000 then .half n else .char (Char.ofNat n)

/-- The second half of a surrogate pair, if one is written here with text after it. -/
def pairPartner? (place : Nat) : Text → Except Refusal (Option Nat)
  | '\\' :: 'u' :: a :: b :: c :: d :: _ :: _ =>
      match hex4? a b c d with
      | none => fault .unicodeEscape (place + 1)
      | some n => .ok (if 0xDC00 ≤ n && n < 0xE000 then some n else none)
  | _ => .ok none

/-- A code point in front of the rest of a string. -/
def putFirst (p : Point) (rest : Except Refusal (Points × Text × Nat)) :
    Except Refusal (Points × Text × Nat) :=
  rest.map fun (s, after, stop) => (p :: s, after, stop)

/-- The rest of a string that began at `start`, up to and with its closing quote. -/
def stringFrom (start : Nat) : Nat → Text → Except Refusal (Points × Text × Nat)
  | _, [] => fault .openString start
  | place, '"' :: rest => .ok ([], rest, place + 1)
  | _, ['\\'] => fault .openString start
  | place, '\\' :: 'u' :: a :: b :: c :: d :: rest =>
      if rest.isEmpty then fault .unicodeEscape (place + 1)
      else
        match hex4? a b c d with
        | none => fault .unicodeEscape (place + 1)
        | some n =>
            if 0xD800 ≤ n && n < 0xDC00 then
              match pairPartner? (place + 6) rest with
              | .error e => .error e
              | .ok none => putFirst (point n) (stringFrom start (place + 6) rest)
              | .ok (some m) =>
                  -- the partner takes six characters, so there are as many
                  match rest with
                  | _ :: _ :: _ :: _ :: _ :: _ :: rest =>
                      putFirst (point (0x10000 + (n - 0xD800) * 0x400 + (m - 0xDC00)))
                        (stringFrom start (place + 12) rest)
                  | _ => fault .openString start
            else putFirst (point n) (stringFrom start (place + 6) rest)
  | place, '\\' :: 'u' :: _ => fault .unicodeEscape (place + 1)
  | place, '\\' :: c :: rest =>
      match escaped? c with
      | none => fault .escape place
      | some e => putFirst (.char e) (stringFrom start (place + 2) rest)
  | place, c :: rest =>
      if c.toNat ≤ 0x1F then fault .control place
      else putFirst (.char c) (stringFrom start (place + 1) rest)

/-- A string whose opening quote has been read. -/
def Reader.string (r : Reader) : Except Refusal (Points × Reader) := do
  let (s, rest, place) ← stringFrom (r.place - 1) r.place r.rest
  return (s, ⟨rest, place⟩)

/-- The value of decimal digits. -/
def digitsValue (ds : Text) : Nat :=
  ds.foldl (fun n c => n * 10 + (c.toNat - 48)) 0

/-- The double nearest to `digits * 10 ^ exponent`. -/
def toDouble (digits : Nat) (exponent : Int) : Float :=
  if digits == 0 then 0.0
  else
    let size := exponent + (toString digits).length
    if size > 400 then 1.0 / 0.0
    else if size < -400 then 0.0
    else Float.ofScientific digits (exponent < 0) exponent.natAbs

/-- A number in its parts. -/
structure Numeral where
  /-- A minus sign stands in front. -/
  negative : Bool
  /-- The digits before the point. -/
  whole : Text
  /-- The digits after the point. -/
  fraction : Text
  /-- The exponent's sign and digits. -/
  exponent : Option (Bool × Text)

/-- The number that a numeral stands for: a whole one without a fraction and an exponent. -/
def Numeral.value (n : Numeral) : Except Refusal Json :=
  if n.fraction.isEmpty && n.exponent.isNone then
    if n.whole.length > digitBound then .error (.tooManyDigits n.whole.length)
    else
      let m : Int := digitsValue n.whole
      .ok (.int (if n.negative then -m else m))
  else
    let shift : Int :=
      match n.exponent with
      | none => 0
      | some (negative, ds) =>
          let e : Int := digitsValue ds
          if negative then -e else e
    let x := toDouble (digitsValue (n.whole ++ n.fraction)) (shift - n.fraction.length)
    .ok (.float (if n.negative then -x else x))

/-- The digits before the point: a zero alone, or digits that start with none. -/
def wholeDigits? : Text → Option Text
  | '0' :: _ => some ['0']
  | t =>
      let ds := t.takeWhile Char.isDigit
      if ds.isEmpty then none else some ds

/-- An exponent, with its length: the letter, a sign perhaps, and digits. -/
def exponentOf? : Text → Option (Bool × Text × Nat)
  | e :: rest =>
      if e == 'e' || e == 'E' then
        let (negative, signed, ds) :=
          match rest with
          | '-' :: r => (true, 1, r.takeWhile Char.isDigit)
          | '+' :: r => (false, 1, r.takeWhile Char.isDigit)
          | r => (false, 0, r.takeWhile Char.isDigit)
        if ds.isEmpty then none else some (negative, ds, 1 + signed + ds.length)
      else none
  | [] => none

/-- The digits after a point, if one stands here. -/
def fractionOf : Text → Text
  | '.' :: rest => rest.takeWhile Char.isDigit
  | _ => []

/-- A number after its sign, which began at `start`. -/
def Reader.numberAfter (negative : Bool) (start : Nat) (r : Reader) :
    Except Refusal (Json × Reader) :=
  match wholeDigits? r.rest with
  | none => fault .value start
  | some whole =>
      let afterWhole := r.skip whole.length
      let fraction := fractionOf afterWhole.rest
      let afterFraction :=
        if fraction.isEmpty then afterWhole else afterWhole.skip (1 + fraction.length)
      let exponent := exponentOf? afterFraction.rest
      let stop := afterFraction.skip ((exponent.map (·.2.2)).getD 0)
      (Numeral.value ⟨negative, whole, fraction, exponent.map fun (n, ds, _) => (n, ds)⟩).map
        (·, stop)

/-- A number that starts at the reader. -/
def Reader.number (r : Reader) : Except Refusal (Json × Reader) :=
  if r.rest.head? == some '-' then (r.skip 1).numberAfter true r.place
  else r.numberAfter false r.place

/-- The words for values, with their values. -/
def words : List (String × Json) :=
  [("null", .null), ("true", .bool true), ("false", .bool false), ("NaN", .float (0.0 / 0.0)),
   ("Infinity", .float (1.0 / 0.0)), ("-Infinity", .float (-1.0 / 0.0))]

/-- A value that is a word or a number. -/
def Reader.plain (r : Reader) : Except Refusal (Json × Reader) :=
  match words.find? fun (w, _) => w.toList.isPrefixOf r.rest with
  | some (w, v) => .ok (v, r.skip w.length)
  | none => r.number

mutual

/-- A value.  The first argument bounds the steps, the second the nesting. -/
def Reader.value : Nat → Nat → Reader → Except Refusal (Json × Reader)
  | 0, _, _ => .error .tooDeep
  | fuel + 1, depth, r =>
      match r.rest with
      | '"' :: _ => do
          let (s, r) ← (r.skip 1).string
          return (.str s, r)
      | c :: _ =>
          if c == '[' || c.toNat == 123 then
            match depth with
            | 0 => .error .tooDeep
            | depth + 1 =>
                let inside := (r.skip 1).skipGap
                if c == '[' then
                  if inside.rest.head? == some ']' then .ok (.arr [], inside.skip 1)
                  else Reader.items fuel depth [] inside
                else if inside.rest.head? == some (Char.ofNat 125) then .ok (.obj [], inside.skip 1)
                else Reader.fields fuel depth [] inside
          else r.plain
      | [] => fault .value r.place

/-- The items of a list, from the first one on. -/
def Reader.items : Nat → Nat → List Json → Reader → Except Refusal (Json × Reader)
  | 0, _, _, _ => .error .tooDeep
  | fuel + 1, depth, done, r => do
      let (v, r) ← Reader.value fuel depth r
      let r := r.skipGap
      match r.rest with
      | ']' :: _ => return (.arr (v :: done).reverse, r.skip 1)
      | ',' :: _ => Reader.items fuel depth (v :: done) (r.skip 1).skipGap
      | _ => fault .comma r.place

/-- The fields of an object, from the first one on. -/
def Reader.fields : Nat → Nat → List (Points × Json) → Reader → Except Refusal (Json × Reader)
  | 0, _, _, _ => .error .tooDeep
  | fuel + 1, depth, done, r => do
      if r.rest.head? != some '"' then fault .fieldName r.place
      let (name, r) ← (r.skip 1).string
      let r := r.skipGap
      if r.rest.head? != some ':' then fault .colon r.place
      let (v, r) ← Reader.value fuel depth (r.skip 1).skipGap
      let r := r.skipGap
      let done := setField done name v
      match r.rest with
      | c :: _ =>
          if c.toNat == 125 then return (.obj done, r.skip 1)
          else if c == ',' then Reader.fields fuel depth done (r.skip 1).skipGap
          else fault .comma r.place
      | [] => fault .comma r.place

end

/-- The value of a document. -/
def read (t : Text) : Except Refusal Json := do
  if t.head? == some (Char.ofNat 0xFEFF) then fault .byteOrderMark 0
  let (v, r) ← Reader.value (2 * t.length + 2) depthBound (Reader.mk t 0).skipGap
  let r := r.skipGap
  if r.rest.isEmpty then return v else fault .extra r.place

/-- The words for a fault at a place of a document: its line, its column and its
number, the first two counted from one. -/
def placeMessage (t : Text) (cause : Cause) (place : Nat) : String :=
  let before := t.take place
  let line := before.count '\n' + 1
  let column := (before.reverse.takeWhile (· != '\n')).length + 1
  s!"{cause.message}: line {line} column {column} (char {place})"

end ExtensionAudit.Json
