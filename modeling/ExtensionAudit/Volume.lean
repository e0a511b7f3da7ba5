import ExtensionAudit.Machine
import ExtensionAudit.Text.Lines
import ExtensionAudit.Text.Utf8

/-!
# File trees

What the checks inspect: a tree of directories, files and links, on a machine.

`Volume.resolve` follows links, at most `linkBound` of them, and gives the entry with the path on
which it really stands.
-/

namespace ExtensionAudit

/-- A file tree, from its root directory, and the machine that it lies on. -/
structure Volume where
  /-- The root directory. -/
  root : Entry
  /-- The machine. -/
  machine : Machine := .plain
deriving Inhabited

/-- Where a path leads: the path on which the entry really stands, and the entry. -/
structure Spot where
  /-- The path, without links. -/
  path : Path
  /-- The entry. -/
  entry : Entry

namespace Volume

/-- How many links a path may go through. -/
def linkBound : Nat := 40

/-- Goes down the components of a path from the directories `above`, the innermost first.  The
first link on the way is left to `jump`, which gets the directories above the link, its target
and the components after it.  A link that is the last component is kept if `keepLast`. -/
def descend (keepLast : Bool) (root : Entry)
    (jump : List (String × Entry) → String → List String → Except Fault (List (String × Entry)))
    (above : List (String × Entry)) : List String → Except Fault (List (String × Entry))
  | [] => .ok above
  | c :: rest =>
      let here := (above.head?.map (·.2)).getD root
      if c == "." || c == "" then
        if here.isDir then descend keepLast root jump above rest else .error .notDirectory
      else if c == ".." then
        if here.isDir then descend keepLast root jump above.tail rest else .error .notDirectory
      else if !here.isDir then .error .notDirectory
      else
        match here.child? c with
        | none => .error .absent
        | some (.link target) =>
            if keepLast && rest.isEmpty then .ok ((c, .link target) :: above)
            else jump above target rest
        | some e => descend keepLast root jump ((c, e) :: above) rest

/-- Follows components from the directories `above` through at most `links` links. -/
def follow (keepLast : Bool) (root : Entry) (links : Nat) :
    List (String × Entry) → List String → Except Fault (List (String × Entry)) :=
  descend keepLast root fun above target rest =>
    match links with
    | 0 => .error .linkLoop
    | links + 1 =>
        if target.isEmpty then .error .absent
        else
          follow keepLast root links (if Path.isAbsolute target then [] else above)
            (Path.steps target ++ rest)

/-- The spot that a stack of directories describes. -/
def spotOf (v : Volume) (above : List (String × Entry)) : Spot :=
  ⟨(above.map (·.1)).reverse, (above.head?.map (·.2)).getD v.root⟩

/-- The entry at a path, behind all links. -/
def resolve (v : Volume) (p : Path) : Except Fault Spot :=
  (follow false v.root linkBound [] p).map v.spotOf

/-- The entry at a path, which may be a link itself. -/
def resolveKeep (v : Volume) (p : Path) : Except Fault Spot :=
  (follow true v.root linkBound [] p).map v.spotOf

/-- The path leads to a file. -/
def isFile (v : Volume) (p : Path) : Bool :=
  match v.resolve p with
  | .ok s => s.entry.isFile
  | .error _ => false

/-- The path leads to a directory. -/
def isDir (v : Volume) (p : Path) : Bool :=
  match v.resolve p with
  | .ok s => s.entry.isDir
  | .error _ => false

/-- The bytes of the file at a path. -/
def bytes (v : Volume) (p : Path) : Except Fault (List UInt8) := do
  match (← v.resolve p).entry with
  | .file bytes _ => return bytes
  | .unreadable => throw .unreadable
  | .dir _ => throw .isDirectory
  | .link _ => throw .linkLoop

/-- The text of the file at a path, with the replacement character for bytes that are no
UTF-8, and with every line ended by a newline. -/
def text (v : Volume) (p : Path) : Except Fault Text := do
  return Text.unifyNewlines (Text.readLossy (← v.bytes p))

/-- The text of the file at a path, which must be UTF-8. -/
def strictText (v : Volume) (p : Path) : Except Fault Text := do
  match Text.readStrict? (← v.bytes p) with
  | some t => return Text.unifyNewlines t
  | none => throw .undecodable

end Volume

end ExtensionAudit
