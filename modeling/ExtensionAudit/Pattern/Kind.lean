import ExtensionAudit.Pattern.Group

/-!
# Kinds of groups

The text after an opening parenthesis says what kind of group it opens.  It may also hold flags,
which are turned on and off for the group, or set for the whole pattern.
-/

namespace ExtensionAudit.Pattern

/-! ## Flags in the text -/

/-- A token that is a flag. -/
def Token.flag? : Token → Option Char
  | .char c => if isFlag c then some c else none
  | .escape _ => none

/-- A token that is a letter. -/
def Token.isLetter : Token → Bool
  | .char c => Text.isLetter c
  | .escape _ => false

/-- The flags turned on, up to the token that ends them. -/
def flagsOn : Nat → Flags → Char → Parse (Flags × Char)
  | 0, on, c => return (on, c)
  | fuel + 1, on, c => do
      if c == 'L' then problem .localeFlag (← place)
      let on := on.set c
      if (c == 'a' || c == 'u') && on.narrow && on.wide then problem .clashingFlags (← place)
      match ← take with
      | none => problem .flagsUnclosed (← place)
      | some t =>
          if t == .char ')' then return (on, ')')
          else if t == .char '-' then return (on, '-')
          else if t == .char ':' then return (on, ':')
          else
            match t.flag? with
            | some c => flagsOn fuel on c
            | none =>
                problem (if t.isLetter then .unknownFlag else .flagsUnclosed)
                  ((← place) - t.text.length)

/-- The flags turned off, up to the colon that ends them. -/
def flagsOff : Nat → Flags → Char → Parse Flags
  | 0, off, _ => return off
  | fuel + 1, off, c => do
      if c == 'a' || c == 'u' || c == 'L' then problem .fixedFlagOff (← place)
      let off := off.set c
      match ← take with
      | none => problem .noColon (← place)
      | some t =>
          if t == .char ':' then return off
          else
            match t.flag? with
            | some c => flagsOff fuel off c
            | none =>
                problem (if t.isLetter then .unknownFlag else .noColon) ((← place) - t.text.length)

/-- Flags whose first token has been read: for the whole pattern (`none`), or turned on
and off for a group. -/
def readFlags (c : Char) : Parse (Option (Flags × Flags)) := do
  let fuel := (← get).rest.length + 1
  let (on, stop) ← if c == '-' then pure ({}, '-') else flagsOn fuel {} c
  if stop == ')' then
    modify fun b => { b with flags := {
      anyCase := b.flags.anyCase || on.anyCase
      multiline := b.flags.multiline || on.multiline
      dotAll := b.flags.dotAll || on.dotAll
      verbose := b.flags.verbose || on.verbose
      narrow := b.flags.narrow || on.narrow
      wide := b.flags.wide || on.wide
      template := b.flags.template || on.template } }
    return none
  if on.template then problem .wholeFlagOn ((← place) - 1)
  let off ←
    if stop == '-' then
      match ← take with
      | none => problem .noFlag (← place)
      | some t =>
          match t.flag? with
          | some c => flagsOff fuel {} c
          | none =>
              problem (if t.isLetter then .unknownFlag else .noFlag) ((← place) - t.text.length)
    else pure {}
  if off.template then problem .wholeFlagOff ((← place) - 1)
  if on.meets off then problem .flagOnAndOff ((← place) - 1)
  return some (on, off)

/-! ## Kinds -/

/-- What the text after an opening parenthesis announces. -/
inductive GroupKind where
  /-- A group that remembers its match. -/
  | capture (name : Option Text)
  /-- A group that does not, with the flags it turns on and off. -/
  | plain (on off : Flags)
  /-- A group that matches in one way only. -/
  | atomic
  /-- A look at the text around. -/
  | look (behind negated : Bool)
  /-- A choice by a group. -/
  | choice
  /-- A reference by name. -/
  | named (name : Text)
  /-- A comment. -/
  | remark
  /-- Flags for the whole pattern. -/
  | flags

/-- The kind of a group whose opening parenthesis has been read. -/
def readKind : Parse GroupKind := do
  if !(← accept '?') then return .capture none
  match ← take with
  | none => problem .endOfPattern (← place)
  | some t =>
      let unknown (start : Text) (t : Token) : Parse GroupKind := do
        problem (.unknownKind (start ++ t.text)) ((← place) - t.text.length - start.length - 1)
      match t with
      | .char 'P' =>
          if ← accept '<' then
            let name ← nameTo '>' "group name"
            checkName name
            return .capture (some name)
          else if ← accept '=' then
            let name ← nameTo ')' "group name"
            checkName name
            return .named name
          else
            match ← take with
            | none => problem .endOfPattern (← place)
            | some u => unknown ['P'] u
      | .char ':' => return .plain {} {}
      | .char '#' => return .remark
      | .char '=' => return .look false false
      | .char '!' => return .look false true
      | .char '<' =>
          match ← take with
          | none => problem .endOfPattern (← place)
          | some (.char '=') => return .look true false
          | some (.char '!') => return .look true true
          | some u => unknown ['<'] u
      | .char '(' => return .choice
      | .char '>' => return .atomic
      | t =>
          match t.flag? with
          | some c =>
              match ← readFlags c with
              | none => return .flags
              | some (on, off) => return .plain on off
          | none =>
              if t == .char '-' then
                match ← readFlags '-' with
                | none => return .flags
                | some (on, off) => return .plain on off
              else unknown [] t

/-- The closing parenthesis of a group that began at `start`. -/
def closing (start : Nat) : Parse Unit := do
  if !(← accept ')') then problem .unclosedGroup start

end ExtensionAudit.Pattern
