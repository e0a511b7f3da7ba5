import ExtensionAudit.Volume.Walk

/-!
# File name patterns

A pattern for one name is a text in which `*` stands for any characters, `?` for one, and a
bracket for one of a set.  A pattern for paths has one such pattern a component.  The
component `**` stands for any number of directories, a directory before those below it.

A name that starts with a dot is only matched by a component that does too.
-/

namespace ExtensionAudit.Glob

/-- One item of a name pattern. -/
inductive Item where
  /-- A character as it is. -/
  | char (c : Char)
  /-- Any character. -/
  | one
  /-- Any characters. -/
  | many
  /-- A character in, or not in, one of the ranges. -/
  | set (negated : Bool) (ranges : List (Nat × Nat))
deriving DecidableEq, Repr

/-- The pieces of a set between the hyphens that make ranges.  The first argument is the piece
so far, the last character first; the second counts the characters until a hyphen counts. -/
def rangePieces : Text → Nat → Text → List Text
  | piece, _, [] => [piece.reverse]
  | piece, wait, c :: rest =>
      if c == '-' && wait == 0 then piece.reverse :: rangePieces [] 2 rest
      else rangePieces (c :: piece) (wait - 1) rest

/-- The last piece joins the one before it when nothing follows the hyphen. -/
def joinLast : List Text → List Text
  | [a, []] => [a ++ ['-']]
  | a :: rest => a :: joinLast rest
  | [] => []

/-- A range whose ends are not in order is left out, and the pieces on its two sides become
one. -/
def dropCrossed : List Text → List Text
  | [] => []
  | a :: rest =>
      match dropCrossed rest with
      | [] => [a]
      | b :: more =>
          let lo := (a.getLast?.map Char.toNat).getD 0
          let hi := (b.head?.map Char.toNat).getD 0
          if hi < lo then (a.dropLast ++ b.drop 1) :: more else a :: b :: more

/-- The ranges of single characters. -/
def singles (t : Text) : List (Nat × Nat) :=
  t.map fun c => (c.toNat, c.toNat)

/-- The ranges of pieces with a range from the end of each to the start of the next.  With
`joined` the first character belongs to the range before. -/
def pieceRanges (joined : Bool) : List Text → List (Nat × Nat)
  | [] => []
  | [piece] => singles (if joined then piece.drop 1 else piece)
  | a :: b :: rest =>
      let lo := (a.getLast?.map Char.toNat).getD 0
      let hi := (b.head?.map Char.toNat).getD 0
      singles (if joined then a.drop 1 else a).dropLast ++ (lo, hi) :: pieceRanges true (b :: rest)

/-- The item of a bracket with the given inside.  An exclamation mark negates the set if it
stands first once the crossed ranges are left out.  Alone it stands for any character, and a
hyphen right after it is a character. -/
def setItem (inside : Text) : Item :=
  let wait := if inside.head? == some '!' then 2 else 1
  match dropCrossed (joinLast (rangePieces [] wait inside)) with
  | [['!']] => .one
  | ['!'] :: b :: more => .set true (pieceRanges false (('-' :: b) :: more))
  | ('!' :: a) :: more => .set true (pieceRanges false (a :: more))
  | pieces => .set false (pieceRanges false pieces)

/-- The inside of a bracket and what follows it, if the bracket is closed. -/
def bracket? (t : Text) : Option (Text × Text) :=
  let (bang, rest) :=
    match t with
    | '!' :: r => (['!'], r)
    | r => ([], r)
  let (first, rest) :=
    match rest with
    | ']' :: r => ([']'], r)
    | r => ([], r)
  (Text.breakAt ']' rest).map fun (inside, after) => (bang ++ first ++ inside, after)

/-- The items of a name pattern.  The first argument bounds the steps. -/
def itemsFrom : Nat → Text → List Item
  | 0, _ => []
  | _, [] => []
  | fuel + 1, c :: rest =>
      if c == '*' then .many :: itemsFrom fuel rest
      else if c == '?' then .one :: itemsFrom fuel rest
      else if c == '[' then
        match bracket? rest with
        | some (inside, after) => setItem inside :: itemsFrom fuel after
        | none => .char c :: itemsFrom fuel rest
      else .char c :: itemsFrom fuel rest

/-- The items of a name pattern. -/
def items (pattern : Text) : List Item :=
  itemsFrom (pattern.length + 1) pattern

/-- The rest of a name after any number of characters passes a test. -/
def anySuffix (p : Text → Bool) : Text → Bool
  | [] => p []
  | c :: rest => p (c :: rest) || anySuffix p rest

/-- Items match a whole name. -/
def matchItems : List Item → Text → Bool
  | [], name => name.isEmpty
  | .many :: rest, name => anySuffix (matchItems rest) name
  | .one :: rest, _ :: name => matchItems rest name
  | .char c :: rest, x :: name => c == x && matchItems rest name
  | .set negated ranges :: rest, x :: name =>
      (ranges.any fun (lo, hi) => lo ≤ x.toNat && x.toNat ≤ hi) != negated && matchItems rest name
  | _ :: _, [] => false

/-- A pattern matches a whole name. -/
def matchName (pattern name : Text) : Bool :=
  matchItems (items pattern) name

/-- The text has a character that is special in patterns. -/
def isPattern (t : Text) : Bool :=
  t.any fun c => c == '*' || c == '?' || c == '['

/-- The name starts with a dot. -/
def isHidden (t : Text) : Bool :=
  t.head? == some '.'

/-- The component that stands for any number of directories. -/
def isRecursive (t : Text) : Bool :=
  t == ['*', '*']

/-- A path text and one more component. -/
def joinText (a b : Text) : Text :=
  if b.head? == some '/' then b
  else if a.isEmpty || a.getLast? == some '/' then a ++ b
  else a ++ '/' :: b

/-- A path text cut before its last component. -/
def splitText (t : Text) : Text × Text :=
  let last := (t.reverse.takeWhile (· != '/')).reverse
  let head := t.take (t.length - last.length)
  if head.all (· == '/') then (head, last)
  else ((head.reverse.dropWhile (· == '/')).reverse, last)

/-- The path of an absolute path text, with its dots as they are. -/
def pathOf (t : Text) : Path :=
  Path.components (String.ofList t)

/-- The part of a path pattern before its first component with special characters.  The first
argument bounds the components. -/
def startFrom : Nat → Text → Text
  | 0, pattern => pattern
  | fuel + 1, pattern =>
      if isPattern pattern then startFrom fuel (splitText pattern).1 else pattern

/-- The part of a path pattern before its first component with special characters. -/
def start (pattern : Text) : Text :=
  startFrom (pattern.length + 1) pattern

/-- The path texts below a directory, a directory before what lies below it.  The first
argument bounds the depth. -/
def below (v : Volume) (dirsOnly : Bool) : Nat → Text → List Text
  | 0, _ => []
  | fuel + 1, dir =>
      (v.names (pathOf dir)).flatMap fun name =>
        let n := name.toList
        let p := joinText dir n
        if isHidden n || (dirsOnly && !v.isDir (pathOf p)) then []
        else n :: (below v dirsOnly fuel p).map fun y => joinText n y

/-- The names in a directory that match a component of a pattern. -/
def namesIn (v : Volume) (recursive dirsOnly : Bool) (dir component : Text) : List Text :=
  if !isPattern component then
    if component.isEmpty then (if v.isDir (pathOf dir) then [component] else [])
    else if v.exists? (pathOf (joinText dir component)) then [component] else []
  else if recursive && isRecursive component then
    [] :: below v dirsOnly ((Volume.linkBound + 1) * (v.root.depth + 1)) dir
  else
    ((v.names (pathOf dir)).map String.toList).filter fun n =>
      (isHidden component || !isHidden n) && matchName component n &&
        (!dirsOnly || v.isDir (pathOf (joinText dir n)))

/-- The path texts that a pattern matches.  The first argument bounds the components. -/
def matchesFrom (v : Volume) (recursive : Bool) : Nat → Bool → Text → List Text
  | 0, _, _ => []
  | fuel + 1, dirsOnly, pattern =>
      let (dir, component) := splitText pattern
      if !isPattern pattern then
        if component.isEmpty then (if v.isDir (pathOf dir) then [pattern] else [])
        else if v.exists? (pathOf pattern) then [pattern] else []
      else
        let dirs := if isPattern dir then matchesFrom v recursive fuel true dir else [dir]
        dirs.flatMap fun d => (namesIn v recursive dirsOnly d component).map (joinText d)

/-- The path texts that a pattern for absolute paths matches. -/
def matching (v : Volume) (recursive : Bool) (pattern : Text) : List Text :=
  matchesFrom v recursive (pattern.length + 1) false pattern

end ExtensionAudit.Glob
