import ExtensionAudit.Manifest

/-!
# Values of a manifest

A manifest can hold a value of the wrong kind anywhere.  The operations here say what each kind
of value answers, and which fault it gives if it has no answer.
-/

namespace ExtensionAudit.Json

/-- A text occurs in a value: as a part of a string, an item of a list or the name of a field. -/
def holds (v : Json) (s : String) : Except Fault Bool :=
  match v with
  | .str t => .ok (Text.occursIn s.toList t.view)
  | .arr items => .ok (items.any (·.isString s))
  | .obj fields => .ok (Json.field? fields s).isSome
  | _ => .error .wrongKind

/-- The value of a field that is known to be there. -/
def valueAt (v : Json) (name : String) : Except Fault Json :=
  match v with
  | .obj fields =>
      match Json.field? fields name with
      | some w => .ok w
      | none => .error .wrongKind
  | _ => .error .wrongKind

/-- The string that a search looks at. -/
def searchable (v : Json) : Except Fault Text :=
  match v with
  | .str s => .ok s.view
  | _ => .error .wrongKind

/-- The value can be looked up in a set. -/
def checkHashable (v : Json) : Except Fault Unit :=
  match v with
  | .arr _ | .obj _ => .error .wrongKind
  | _ => .ok ()

/-- The whole part of a finite double. -/
def wholePart (x : Float) : Int :=
  let b := Decimal.Binary.ofFloat x
  let n : Nat := b.significand * Nat.pow 2 b.exponent.toNat / Nat.pow 2 (-b.exponent).toNat
  if Decimal.isNegative x then -Int.ofNat n else Int.ofNat n

/-- The value as a whole number.  A text that is no number and a double that is none give
nothing; other kinds of value are faults. -/
def whole? (v : Json) : Except Fault (Option Int) :=
  match v with
  | .str s => .ok (Number.read? s.view)
  | .int n => .ok (some n)
  | .bool b => .ok (some (if b then 1 else 0))
  | .float x =>
      if x.isNaN then .ok none
      else if x.isInf then .error .overflow
      else .ok (some (wholePart x))
  | _ => .error .wrongKind

/-- The number before the first point of the value as a message shows it. -/
def major? (v : Json) : Option Int :=
  Number.read? (Text.before '.' v.shown.view)

/-- Strings with commas between them.  Any other value among them is a fault. -/
def joined (vs : List Json) : Except Fault Points := do
  let parts ← vs.mapM fun v =>
    match v with
    | .str s => Except.ok s
    | _ => .error Fault.wrongKind
  return (Points.ofString ", ").intercalate parts

end ExtensionAudit.Json
