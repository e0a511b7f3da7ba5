import ExtensionAudit.Path

/-!
# Entries of directories

A directory lists its entries in ascending order of their names.  A link holds the text of a path
against the directory it stands in.
-/

namespace ExtensionAudit

/-- An entry of a directory. -/
inductive Entry where
  /-- A file with its bytes. -/
  | file (bytes : List UInt8) (executable : Bool)
  /-- A file that can be opened but not read. -/
  | unreadable
  /-- A link to a path. -/
  | link (target : String)
  /-- A directory with its entries. -/
  | dir (entries : List (String × Entry))
deriving Inhabited

namespace Entry

/-- The entries of a directory. -/
def entries : Entry → List (String × Entry)
  | .dir es => es
  | _ => []

/-- The entry is a directory. -/
def isDir : Entry → Bool
  | .dir _ => true
  | _ => false

/-- The entry is a file. -/
def isFile : Entry → Bool
  | .file .. | .unreadable => true
  | _ => false

/-- The entry is a link. -/
def isLink : Entry → Bool
  | .link _ => true
  | _ => false

/-- The entry of a name. -/
def child? (e : Entry) (name : String) : Option Entry :=
  e.entries.lookup name

/-- Puts an entry into a directory, in the order of the names. -/
def insertInto (name : String) (e : Entry) : List (String × Entry) → List (String × Entry)
  | [] => [(name, e)]
  | (other, x) :: rest =>
      if name == other then (name, e) :: rest
      else if Text.precedes name.toList other.toList then (name, e) :: (other, x) :: rest
      else (other, x) :: insertInto name e rest

/-- Puts an entry at a path below this one.  Directories on the way are made. -/
def place (e : Entry) : Path → Entry → Entry
  | [], new => new
  | name :: rest, new =>
      let below := (e.child? name).getD (.dir [])
      .dir (insertInto name (below.place rest new) e.entries)

end Entry

end ExtensionAudit
