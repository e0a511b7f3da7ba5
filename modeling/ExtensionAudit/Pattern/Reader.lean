import ExtensionAudit.Pattern.Kind
import ExtensionAudit.Pattern.Repetition
import ExtensionAudit.Pattern.Start

/-!
# Reading patterns

The text of a regular expression becomes a syntax tree.  The reader goes through the
text once, from left to right, and stops at the first problem.  The tree is
inspected for defects after the whole text has been read.

The functions that call each other take a bound on their steps.  Every step reads a
token or enters a group that has just been opened, so three times the length of the text
is enough (`Pattern.read`).
-/

namespace ExtensionAudit.Pattern

/-! ## Comments -/

/-- Skips a comment up to the end of the line. -/
def skipComment : Nat → Parse Unit
  | 0 => return
  | fuel + 1 => do
      match ← take with
      | none => return
      | some t => if t == .char '\n' then return else skipComment fuel

/-- Skips a comment up to its closing parenthesis.  The comment began at `start`. -/
def skipRemark (start : Nat) : Nat → Parse Unit
  | 0 => return
  | fuel + 1 => do
      match ← take with
      | none => problem .openComment start
      | some t => if t == .char ')' then return else skipRemark start fuel

/-! ## Sequences, branches and groups -/

/-- The deepest nesting that can be read.  A choice by group counts once, any other group
twice. -/
def nestingBound : Nat := 984

/-- How much deeper the body of a group is. -/
def GroupKind.depth : GroupKind → Nat
  | .choice => 1
  | _ => 2

mutual

/-- The items for branches divided by bars.  The outermost ones follow the flags of the whole
pattern. -/
def readBranches : Nat → Nat → Bool → Flags → List (List Item) → Parse (List Item)
  | 0, _, _, f, done => return choose f done.reverse
  | fuel + 1, depth, outermost, f, done => do
      let items ← readPieces fuel depth (outermost && done.isEmpty) f []
      let whole := (← get).flags
      let f := if outermost then whole else f
      if ← accept '|' then readBranches fuel depth outermost f (items :: done)
      else return choose f (items :: done).reverse

/-- The items of a sequence.  The pieces read so far come last to first.  Only the first branch
of the whole pattern can set its flags, before any other piece. -/
def readPieces : Nat → Nat → Bool → Flags → List Piece → Parse (List Item)
  | 0, _, _, _, done => return itemsOf done
  | fuel + 1, depth, first, f, done => do
      match ← peek with
      | none => return itemsOf done
      | some (.char '|') => return itemsOf done
      | some (.char ')') => return itemsOf done
      | some t =>
          let start ← place
          let _ ← take
          let goOn := fun (done : List Piece) => readPieces fuel depth first f done
          match t with
          | .escape c => goOn (.item (← readEscape f start c) :: done)
          | .char c =>
              if f.verbose && Text.isAsciiBlank c then goOn done
              else if f.verbose && c == '#' then
                skipComment ((← get).rest.length + 1)
                goOn done
              else if c == '[' then goOn (.item (← readSet f) :: done)
              else if c == '?' then goOn (← repeatLast start 0 (some 1) done)
              else if c == '*' then goOn (← repeatLast start 0 none done)
              else if c == '+' then goOn (← repeatLast start 1 none done)
              else if c.toNat == 123 then
                match ← readBraces with
                | none => goOn (.item (.code f 123) :: done)
                | some (least, most) => goOn (← repeatLast start least most done)
              else if c == '.' then
                let node := Node.one (if f.dotAll then .any else .notNewline)
                goOn (.item { node, face := some .dot } :: done)
              else if c == '^' then
                goOn (.item (.anchor c (if f.multiline then .lineStart else .textStart)) :: done)
              else if c == '$' then
                goOn (.item (.anchor c (if f.multiline then .lineEnd else .textEnd)) :: done)
              else if c == '(' then
                match ← readKind with
                | .remark =>
                    skipRemark start ((← get).rest.length + 1)
                    goOn done
                | .flags =>
                    if !first || !done.isEmpty then problem .lateFlags start
                    readPieces fuel depth first (← get).flags done
                | .named name =>
                    let index ← groupNamed name
                    goOn (.item (← reference f index ((← place) - name.length - 1)) :: done)
                | kind => goOn ((← readGroup fuel depth f start kind) :: done)
              else goOn (.item (.code f c.toNat) :: done)

/-- The body of a group of a known kind, with its closing parenthesis.  The group began at
`start`. -/
def readGroup : Nat → Nat → Flags → Nat → GroupKind → Parse Piece
  | 0, _, _, _, _ => return .plain []
  | fuel + 1, depth, f, start, kind => do
      let depth := depth + kind.depth
      if depth > nestingBound then throw .tooNested
      let body := fun (f : Flags) => readBranches fuel depth false f []
      match kind with
      | .look behind negated =>
          let saved := (← get).behindFrom
          if behind && saved.isNone then
            let count ← groupCount
            modify fun b => { b with behindFrom := some count }
          let node := Item.sequence (← body f)
          if behind && saved.isNone then modify fun b => { b with behindFrom := none }
          closing start
          let dir := if behind then Direction.behind node.width else .ahead
          return .item { node := .look dir negated node }
      | .choice =>
          let index ← askedGroup
          let yes ← readPieces fuel depth false f []
          let no ←
            if ← accept '|' then
              let no ← readPieces fuel depth false f []
              if (← peek) == some (.char '|') then problem .thirdBranch (← place)
              pure no
            else pure []
          closing start
          return .item { node := .ifGroup index (Item.sequence yes) (Item.sequence no) }
      | .capture name =>
          let index ← openGroup name
          let node := Item.sequence (← body f)
          closing start
          closeGroup index node
          return .item { node := .group index node }
      | .atomic =>
          let node := Item.sequence (← body f)
          closing start
          return .item { node := .atomic node }
      | .plain on off =>
          let items ← body (f.within on off)
          closing start
          if on == {} && off == {} then return .plain items
          else return .item { node := Item.sequence items }
      | .named _ | .remark | .flags => return .plain []

end

/-! ## Whole patterns -/

/-- The words for the kinds of repetition. -/
def Greed.word : Greed → String
  | .greedy => "MAX_REPEAT"
  | .lazy => "MIN_REPEAT"
  | .possessive => "POSSESSIVE_REPEAT"

/-- The problem that a defect of a node is. -/
def Defect.problem : Defect → Problem
  | .repetition greed => .templateRepeat greed.word
  | .notFixed => .behindNotFixed

/-- Reads a whole pattern. -/
def readWhole (fuel : Nat) (flags : Flags) : Parse Node := do
  if (← get).rest == ['\\'] then problem .escapeAtEnd 0
  let node := Item.sequence (← readBranches fuel 0 true flags [])
  let b ← get
  if b.flags.narrow && b.flags.wide then throw .flagClash
  if !b.rest.isEmpty then problem .unbalanced b.place
  match b.asked.find? fun (n, _) => n > b.widths.length with
  | some (n, p) => problem (.noSuchGroup n) p
  | none => pure ()
  match node.defect? b.flags.template with
  | some d => throw (.malformed d.problem none)
  | none => pure ()
  if node.looksTooFar then throw .behindTooFar
  return node

end ExtensionAudit.Pattern

namespace ExtensionAudit

/-- A regular expression, ready to be matched. -/
structure Pattern where
  /-- The syntax tree. -/
  node : Pattern.Node
  /-- The numbers of the named groups. -/
  names : List (Text × Nat)
  /-- Where a match can start. -/
  start : Pattern.Start
deriving DecidableEq, Repr

namespace Pattern

/-- The pattern of a text. -/
def read (source : Text) (flags : Flags := {}) : Except Refusal Pattern := do
  let book : Book := ⟨source, 0, flags, [], [], none, []⟩
  let (node, book) ← (readWhole (3 * source.length + 6) flags).run book
  return ⟨node, book.names, .of book.flags.narrow node⟩

/-- The pattern of a text that is known to be well formed.  A malformed text would give the
empty pattern. -/
def of (source : String) (flags : Flags := {}) : Pattern :=
  match read source.toList flags with
  | .ok p => p
  | .error _ => ⟨.empty, [], {}⟩

/-- The pattern, which has no flags, and after it a text that stands for itself. -/
def followedBy (p : Pattern) (t : Text) : Pattern :=
  let node := Node.seq p.node (.spelled t .empty)
  ⟨node, p.names, .of false node⟩

end Pattern

end ExtensionAudit
