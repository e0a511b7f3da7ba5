import ExtensionAudit.Volume

/-!
# The standard machine

The machine that a command runs on if it is started by hand.  It has the locale C, directories are
listed in the order of the texts of whole paths, and archives are read right here.

A directory at the end of an archive lists its members with their names and the places where they
start; the record after it says where the directory starts and how many members it lists.  Numbers
have their lowest byte first.  Only members that are stored as they are can be read; the bytes of
a compressed one are left out.
-/

namespace ExtensionAudit

/-! ## Archives -/

namespace Archive

/-- The number in the first bytes, as many as given. -/
def number (count : Nat) (bytes : List UInt8) : Nat :=
  (bytes.take count).foldr (fun b n => b.toNat + 256 * n) 0

/-- The bytes start with the mark of a record of a kind. -/
def isRecord (kind second : UInt8) (bytes : List UInt8) : Bool :=
  bytes.take 4 == [0x50, 0x4b, kind, second]

/-- The last record of an archive, from its mark on. -/
def lastRecord? : List UInt8 → Option (List UInt8)
  | [] => none
  | b :: rest =>
      match lastRecord? rest with
      | some r => some r
      | none =>
          if isRecord 5 6 (b :: rest) && (b :: rest).length ≥ 22 then some (b :: rest) else none

/-- The bytes of the member that starts at a place. -/
def contents (archive : List UInt8) (start size method : Nat) : List UInt8 :=
  let record := archive.drop start
  if isRecord 3 4 record && method == 0 then
    let header := 30 + number 2 (record.drop 26) + number 2 (record.drop 28)
    (record.drop header).take size
  else []

/-- The members that a directory lists.  The first argument bounds their number. -/
def listed (archive : List UInt8) : Nat → List UInt8 → List (String × List UInt8)
  | 0, _ => []
  | count + 1, record =>
      if isRecord 1 2 record then
        let nameSize := number 2 (record.drop 28)
        let name := Text.readLossy ((record.drop 46).take nameSize)
        let extra := number 2 (record.drop 30) + number 2 (record.drop 32)
        let bytes := contents archive (number 4 (record.drop 42)) (number 4 (record.drop 20))
          (number 2 (record.drop 10))
        (String.ofList name, bytes) :: listed archive count (record.drop (46 + nameSize + extra))
      else []

/-- The members of an archive.  Bytes that are no archive have none. -/
def members (archive : List UInt8) : List (String × List UInt8) :=
  match lastRecord? archive with
  | none => []
  | some r => listed archive (number 2 (r.drop 10)) (archive.drop (number 4 (r.drop 16)))

/-- The members of the archive at a path of a tree. -/
def membersAt (root : Entry) (p : Path) : List (String × List UInt8) :=
  match Volume.bytes { root } p with
  | .ok bytes => members bytes
  | .error _ => []

/-- The name of a member on its line.  A control character is written as a caret and a letter. -/
def shownName (name : String) : Text :=
  name.toList.flatMap fun c => if c.toNat < 32 then ['^', Char.ofNat (c.toNat + 64)] else [c]

/-- The names of members, one a line. -/
def listing (members : List (String × List UInt8)) : List UInt8 :=
  members.flatMap fun (name, _) => Text.encode (shownName name ++ ['\n'])

/-- The contents of all members of a name. -/
def contentsOf (members : List (String × List UInt8)) (name : String) : List UInt8 :=
  members.flatMap fun (other, bytes) => if other == name then bytes else []

end Archive

/-! ## The machine -/

namespace Machine

/-- The first path does not come after the second in the order of their texts. -/
def notAfter (p q : Path) : Bool :=
  !Text.precedes q.text.toList p.text.toList

/-- Why a search cannot read a file. -/
def causeText : Fault → String
  | .absent => "No such file or directory"
  | .notDirectory => "Not a directory"
  | .isDirectory => "Is a directory"
  | .linkLoop => "Too many levels of symbolic links"
  | _ => "Input/output error"

/-- The standard machine. -/
def standard : Machine :=
  { plain with
    searchNote := fun name cause =>
      match cause with
      | some e => [s!"grep: {name}: {causeText e}"]
      | none => [s!"grep: {name}: binary file matches"]
    arrange := fun found => found.mergeSort fun a b => notAfter a.1 b.1
    arrange_perm := fun found => found.mergeSort_perm _
    lister? := some fun root p => Archive.listing (Archive.membersAt root p)
    unpacker? := some
      { table := fun _ _ => []
        contents := fun root p => Archive.contentsOf (Archive.membersAt root p) } }

end Machine

end ExtensionAudit
