import ExtensionAudit.Volume.Walk

/-!
# Everything below a path

The entries at and below a path, whatever their kind, in the order in which the machine lists
them.  Links are listed and not followed, so a link at the path itself has nothing below it.
-/

namespace ExtensionAudit

mutual

/-- The entries below one, each with its path. -/
def Entry.inside (here : Path) : Entry → List (Path × Entry)
  | .dir es => insideAll here es
  | .file .. | .unreadable | .link _ => []

/-- A list of entries with all that lies below them. -/
def insideAll (here : Path) : List (String × Entry) → List (Path × Entry)
  | [] => []
  | (name, e) :: rest =>
      (here ++ [name], e) :: e.inside (here ++ [name]) ++ insideAll here rest

end

/-- The bytes of a file.  Other entries have none. -/
def Entry.contents : Entry → List UInt8
  | .file bytes _ => bytes
  | _ => []

/-- A directory on the way to the path has the given name. -/
def Path.isBelow (p : Path) (name : String) : Bool :=
  p.dropLast.contains name

namespace Volume

/-- The entry at a path and all entries below it. -/
def find (v : Volume) (start : Path) : List (Path × Entry) :=
  match v.resolveKeep start with
  | .ok s => v.machine.arrange ((start, s.entry) :: s.entry.inside start)
  | .error _ => []

/-- The entries at and below a path whose names pass a test. -/
def findNamed (v : Volume) (start : Path) (test : String → Bool) : List Path :=
  ((v.find start).filter fun (p, _) => test p.name).map (·.1)

/-- The files at and below a path whose names pass a test.  A link is no file. -/
def findFiles (v : Volume) (start : Path) (test : String → Bool) : List Path :=
  ((v.find start).filter fun (p, e) => e.isFile && test p.name).map (·.1)

/-- All entries of the tree, with their paths. -/
def everything (v : Volume) : List (Path × Entry) :=
  ([], v.root) :: v.root.inside []

end Volume

end ExtensionAudit
