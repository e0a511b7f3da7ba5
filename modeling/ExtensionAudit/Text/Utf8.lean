import ExtensionAudit.Text.Basic

/-!
# UTF-8

Reading a byte sequence as text.  The reader is a machine with one state between
characters and one for each run of continuation bytes it still waits for.  It emits
a character, or a gap for the longest beginning of a character that goes wrong.
`readLossy` shows a gap as the replacement character, `readStrict?` refuses it.
-/

namespace ExtensionAudit.Text

/-- A character that has begun: its bits so far, how many bytes are still due, and
the bounds on the next one. -/
structure Begun where
  /-- The bits read so far. -/
  bits : Nat
  /-- The number of continuation bytes due after the next one. -/
  due : Nat
  /-- The least value of the next byte. -/
  least : Nat
  /-- The greatest value of the next byte. -/
  most : Nat

/-- What a byte between characters is. -/
inductive Opening where
  /-- A character of one byte. -/
  | whole (c : Char)
  /-- The first byte of a longer character. -/
  | first (b : Begun)
  /-- No character starts with this byte. -/
  | bad

/-- The role of a byte between characters. -/
def opening (b : Nat) : Opening :=
  if b < 0x80 then .whole (Char.ofNat b)
  else if b < 0xC2 then .bad
  else if b < 0xE0 then .first ⟨b - 0xC0, 0, 0x80, 0xBF⟩
  else if b == 0xE0 then .first ⟨0, 1, 0xA0, 0xBF⟩
  else if b == 0xED then .first ⟨0xD, 1, 0x80, 0x9F⟩
  else if b < 0xF0 then .first ⟨b - 0xE0, 1, 0x80, 0xBF⟩
  else if b == 0xF0 then .first ⟨0, 2, 0x90, 0xBF⟩
  else if b < 0xF4 then .first ⟨b - 0xF0, 2, 0x80, 0xBF⟩
  else if b == 0xF4 then .first ⟨4, 2, 0x80, 0x8F⟩
  else .bad

/-- The characters of a byte sequence, a gap where bytes make no character. -/
def decodeFrom : Option Begun → List UInt8 → List (Option Char)
  | none, [] => []
  | some _, [] => [none]
  | none, b :: rest =>
      match opening b.toNat with
      | .whole c => some c :: decodeFrom none rest
      | .first s => decodeFrom (some s) rest
      | .bad => none :: decodeFrom none rest
  | some s, b :: rest =>
      if s.least ≤ b.toNat && b.toNat ≤ s.most then
        let bits := s.bits * 64 + (b.toNat - 0x80)
        match s.due with
        | 0 => some (Char.ofNat bits) :: decodeFrom none rest
        | due + 1 => decodeFrom (some ⟨bits, due, 0x80, 0xBF⟩) rest
      else
        none :: match opening b.toNat with
          | .whole c => some c :: decodeFrom none rest
          | .first s => decodeFrom (some s) rest
          | .bad => none :: decodeFrom none rest

/-- The text of a byte sequence, with the replacement character for every gap. -/
def readLossy (bytes : List UInt8) : Text :=
  (decodeFrom none bytes).map (·.getD (Char.ofNat 0xFFFD))

/-- The text of a byte sequence that is UTF-8 throughout. -/
def readStrict? (bytes : List UInt8) : Option Text :=
  (decodeFrom none bytes).mapM id

/-- The bytes of a text in UTF-8. -/
def encode (t : Text) : List UInt8 :=
  t.flatMap String.utf8EncodeChar

end ExtensionAudit.Text
