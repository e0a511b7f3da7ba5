import ExtensionAudit.Volume

/-!
# Walks

All files below a directory, directory by directory: first the directory's own files in the
order of their names, then what lies below its subdirectories.  A link to a directory counts
as a directory and is not entered, any other link counts as a file.  Directories whose name is
to be skipped are left out with all that lies below them.
-/

namespace ExtensionAudit

mutual

/-- The paths of the files below a directory, each with `here` in front. -/
def Entry.filesBelow (linkIsDir : Path → Bool) (skip : String → Bool) (here : Path) :
    Entry → List Path
  | .dir es =>
      (es.filter fun (name, e) => !e.isDir && !(e.isLink && linkIsDir (here ++ [name]))).map
          (fun (name, _) => here ++ [name]) ++
        filesBelowAll linkIsDir skip here es
  | .file .. | .unreadable | .link _ => []

/-- The paths of the files below the directories of a list of entries. -/
def filesBelowAll (linkIsDir : Path → Bool) (skip : String → Bool) (here : Path) :
    List (String × Entry) → List Path
  | [] => []
  | (name, e) :: rest =>
      (if skip name then [] else e.filesBelow linkIsDir skip (here ++ [name])) ++
        filesBelowAll linkIsDir skip here rest

end

mutual

/-- How many levels of directories lie below an entry. -/
def Entry.depth : Entry → Nat
  | .dir es => depthAll es + 1
  | .file .. | .unreadable | .link _ => 0

/-- The greatest depth of a list of entries. -/
def depthAll : List (String × Entry) → Nat
  | [] => 0
  | (_, e) :: rest => max e.depth (depthAll rest)

end

namespace Volume

/-- The files below a directory, as paths against it.  A path that is no directory has none. -/
def walk (v : Volume) (skip : String → Bool) (base : Path) : List Path :=
  match v.resolve base with
  | .ok s => s.entry.filesBelow (fun p => v.isDir (base ++ p)) skip []
  | .error _ => []

/-- The names in a directory. -/
def names (v : Volume) (p : Path) : List String :=
  match v.resolve p with
  | .ok s => s.entry.entries.map (·.1)
  | .error _ => []

/-- Something stands at a path, be it a link that leads nowhere. -/
def exists? (v : Volume) (p : Path) : Bool :=
  match v.resolveKeep p with
  | .ok _ => true
  | .error _ => false

/-- Goes on from the path `done` by components, as far as there is no link.  The first link is
left to `jump`, which gets the path to it, its name, its target and the components after it. -/
def realDown (v : Volume) (jump : Path → String → String → List String → Path) (done : Path) :
    List String → Path
  | [] => done
  | c :: rest =>
      if c == "." || c == "" then realDown v jump done rest
      else if c == ".." then realDown v jump done.dropLast rest
      else
        match v.resolveKeep (done ++ [c]) with
        | .ok ⟨_, .link target⟩ => jump done c target rest
        | _ => realDown v jump (done ++ [c]) rest

/-- The path with at most so many links followed.  From the first component on that does not
exist, the path is taken by its text, and so is what follows a link too many. -/
def realFrom (v : Volume) (links : Nat) : Path → List String → Path :=
  realDown v fun done c target rest =>
    match links with
    | 0 => Path.walk (done ++ [c]) rest
    | links + 1 =>
        realFrom v links (if Path.isAbsolute target then [] else done)
          (Path.components target ++ rest)

/-- The path of a text against a directory, with all links followed. -/
def realPath (v : Volume) (here : Path) (s : String) : Path :=
  v.realFrom linkBound (if Path.isAbsolute s then [] else here) (Path.components s)

end Volume

end ExtensionAudit
