import ExtensionAudit.Number
import ExtensionAudit.Pattern.Escape
import ExtensionAudit.Text.Identifier

/-!
# Groups and references

Groups are counted in the order in which they are opened.  A reference is to a group that is
closed, and inside a look behind to one that was closed before it.  A choice may also ask about a
group that comes later.
-/

namespace ExtensionAudit.Pattern

/-! ## References -/

/-- The number of groups opened so far, the whole match included. -/
def groupCount : Parse Nat := return (← get).widths.length + 1

/-- The width of a group that is closed. -/
def closedWidth? (index : Nat) : Parse (Option Width) := do
  if index == 0 then return none
  return ((← get).widths[index - 1]?).join

/-- Inside a look behind only groups closed before it can be referred to. -/
def checkBehind (index : Nat) : Parse Unit := do
  match (← get).behindFrom with
  | none => return
  | some start =>
      if (← closedWidth? index).isNone then problem .openGroup (← place)
      if index ≥ start then problem .sameLookBehind (← place)

/-- A reference to a closed group, which was written at `start`. -/
def reference (f : Flags) (index start : Nat) : Parse Item := do
  match ← closedWidth? index with
  | none => problem .openGroup start
  | some w =>
      checkBehind index
      return {
        node := .backref index f.anyCase f.narrow w
        face := some (.reference index) }

/-- A reference by number, or an octal escape, that starts with a digit other than zero. -/
def numberEscape (f : Flags) (start : Nat) (c : Char) : Parse Item := do
  let second ← takeUpTo Char.isDigit 1
  let third ←
    match second with
    | [d] => if isOctal c && isOctal d then takeUpTo isOctal 1 else pure []
    | _ => pure []
  if !third.isEmpty then
    let ds := c :: second ++ third
    let n := valueIn 8 ds
    if n > 255 then problem (.octalRange ('\\' :: ds)) start
    return .code f n
  else
    let index := valueIn 10 (c :: second)
    if index < (← groupCount) then reference f index start
    else problem (.noSuchGroup index) (start + 1)

/-- What an escape outside a set stands for.  The escape began at `start`. -/
def readEscape (f : Flags) (start : Nat) (c : Char) : Parse Item := do
  if c == 'A' then return .anchor c .textStart
  else if c == 'b' then return .anchor c (.boundary f.narrow)
  else if c == 'B' then return .anchor c (.noBoundary f.narrow)
  else if c == 'Z' then return .anchor c .veryEnd
  else
    match classOf? c, controlOf? c with
    | some m, _ => return .chars f false [m]
    | _, some n => return .code f n
    | none, none =>
        if c == 'x' then return .code f (← hexEscape start c 2)
        else if c == 'u' then return .code f (← hexEscape start c 4)
        else if c == 'U' then return .code f (← hexEscape start c 8)
        else if c == 'N' then return .code f (← namedEscape start)
        else if c == '0' then
          let ds ← takeUpTo isOctal 2
          return .code f (valueIn 8 ds)
        else if c.isDigit then numberEscape f start c
        else if c.isAlpha then problem (.badEscape ['\\', c]) start
        else return .code f c.toNat

/-! ## Names and numbers -/

/-- The name is an identifier; it ends before the last token. -/
def checkName (name : Text) : Parse Unit := do
  if !Text.isIdentifier name then problem (.badName name) ((← place) - name.length - 1)

/-- The group of a name that ends before the last token. -/
def groupNamed (name : Text) : Parse Nat := do
  match (← get).names.find? (·.1 == name) with
  | some (_, index) => return index
  | none => problem (.unknownName name) ((← place) - name.length - 1)

/-- Opens a group, with a name or without. -/
def openGroup (name : Option Text) : Parse Nat := do
  let index ← groupCount
  modify fun b => { b with widths := b.widths ++ [none] }
  match name with
  | none => return index
  | some name =>
      match (← get).names.find? (·.1 == name) with
      | some (_, earlier) =>
          problem (.nameTaken name index earlier) ((← place) - name.length - 1)
      | none =>
          modify fun b => { b with names := b.names ++ [(name, index)] }
          return index

/-- Closes a group with its body. -/
def closeGroup (index : Nat) (body : Node) : Parse Unit :=
  modify fun b => { b with widths := b.widths.set (index - 1) (some body.width) }

/-- The largest group number that a choice can ask about, plus one. -/
def groupBound : Nat := 1073741823

/-- The group that a choice asks about. -/
def askedGroup : Parse Nat := do
  let name ← nameTo ')' "group name"
  let start := (← place) - name.length - 1
  let index ←
    if Text.isIdentifier name then groupNamed name
    else
      match Number.read? name with
      | none | some (.negSucc _) => problem (.badName name) start
      | some (.ofNat n) =>
          if n == 0 then problem .groupZero start
          if n ≥ groupBound then problem (.noSuchGroup n) start
          modify fun b =>
            if b.asked.any (·.1 == n) then b else { b with asked := b.asked ++ [(n, start)] }
          pure n
  checkBehind index
  return index

end ExtensionAudit.Pattern
