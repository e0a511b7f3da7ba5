import ExtensionAudit.Pattern.Token
import ExtensionAudit.Text.Name

/-!
# Escapes and sets

A character after a backslash stands for a control character, for a class, for the character
with a number or a name, or for itself.  A set lists characters, ranges and classes between
brackets.
-/

namespace ExtensionAudit.Pattern

/-! ## Escapes -/

/-- A digit of base eight. -/
def isOctal (c : Char) : Bool := 48 ≤ c.toNat && c.toNat ≤ 55

/-- The value of a digit of base sixteen. -/
def hexValue (c : Char) : Nat :=
  let n := c.toNat
  if n ≤ 57 then n - 48 else if 97 ≤ n then n - 87 else n - 55

/-- A digit of base sixteen. -/
def isHex (c : Char) : Bool :=
  c.isDigit || ('a' ≤ c && c ≤ 'f') || ('A' ≤ c && c ≤ 'F')

/-- The value of digits in a base. -/
def valueIn (base : Nat) (ds : Text) : Nat :=
  ds.foldl (fun n c => n * base + hexValue c) 0

/-- An escape by a number of base sixteen with a fixed number of digits. -/
def hexEscape (start : Nat) (letter : Char) (count : Nat) : Parse Nat := do
  let ds ← takeUpTo isHex count
  let escape := '\\' :: letter :: ds
  if ds.length != count then problem (.shortEscape escape) start
  let n := valueIn 16 ds
  if n > 0x10FFFF then problem (.badEscape escape) start
  return n

/-- An escape by the name of a character. -/
def namedEscape (start : Nat) : Parse Nat := do
  if !(← accept (Char.ofNat 123)) then problem .noBrace (← place)
  let name ← nameTo (Char.ofNat 125) "character name"
  match Text.characterNamed? name with
  | some n => return n
  | none => problem (.noSuchCharacter name) start

/-- The control character that a letter after a backslash stands for. -/
def controlOf? : Char → Option Nat
  | 'a' => some 7
  | 'b' => some 8
  | 'f' => some 12
  | 'n' => some 10
  | 'r' => some 13
  | 't' => some 9
  | 'v' => some 11
  | _ => none

/-- The class that a letter after a backslash stands for. -/
def classOf? : Char → Option Member
  | 'd' => some (.cls .digit false)
  | 'D' => some (.cls .digit true)
  | 's' => some (.cls .blank false)
  | 'S' => some (.cls .blank true)
  | 'w' => some (.cls .word false)
  | 'W' => some (.cls .word true)
  | _ => none

/-- The entry that an escape adds to a set.  The escape began at `start`. -/
def setEscape (start : Nat) (c : Char) : Parse Member := do
  match controlOf? c, classOf? c with
  | some n, _ => return .one n
  | _, some m => return m
  | none, none =>
      if c == 'x' then return .one (← hexEscape start c 2)
      else if c == 'u' then return .one (← hexEscape start c 4)
      else if c == 'U' then return .one (← hexEscape start c 8)
      else if c == 'N' then return .one (← namedEscape start)
      else if isOctal c then
        let ds := c :: (← takeUpTo isOctal 2)
        let n := valueIn 8 ds
        if n > 255 then problem (.octalRange ('\\' :: ds)) start
        return .one n
      else if c.isAlphanum then problem (.badEscape ['\\', c]) start
      else return .one c.toNat

/-! ## Sets -/

/-- The entry of a set that a token stands for. -/
def setEntry (t : Token) : Parse Member := do
  match t with
  | .char c => return .one c.toNat
  | .escape c => setEscape ((← place) - 2) c

/-- The entries of a set up to its closing bracket.  The set began at `start`. -/
def setEntries (start : Nat) : Nat → List Member → Parse (List Member)
  | 0, done => return done.reverse
  | fuel + 1, done => do
      match ← take with
      | none => problem .openSet start
      | some t =>
          if t == .char ']' && !done.isEmpty then return done.reverse
          else
            let first ← setEntry t
            if ← accept '-' then
              match ← take with
              | none => problem .openSet start
              | some u =>
                  if u == .char ']' then return (.one 45 :: first :: done).reverse
                  else
                    let last ← setEntry u
                    let width := t.text.length + 1 + u.text.length
                    let bad : Parse (List Member) := do
                      problem (.badRange t.text u.text) ((← place) - width)
                    match first, last with
                    | .one lo, .one hi =>
                        if hi < lo then bad else setEntries start fuel (.range lo hi :: done)
                    | _, _ => bad
            else setEntries start fuel (first :: done)

/-- A set whose opening bracket has been read.  An entry counts once. -/
def readSet (f : Flags) : Parse Item := do
  let start := (← place) - 1
  let negated ← accept '^'
  let members ← setEntries start ((← get).rest.length + 1) []
  return Item.chars f negated members.eraseDups

end ExtensionAudit.Pattern
