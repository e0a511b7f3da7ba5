import ExtensionAudit.Resource.Scan

/-!
# Ownership

A file owns another one if it makes and stores an object of a class that the other one defines.
Where a class is defined is told by the imports of all files together; the last import of a name
counts.

The depth of the ownership is the number of levels below the files that nobody owns.  It is found
by a search from each of these files, breadth first.
-/

namespace ExtensionAudit.Resource

/-- An object that a file stores in a property. -/
structure Owned where
  /-- The class of the object. -/
  className : Text
  /-- The file that defines the class. -/
  source? : Option String
  /-- The line that makes the object. -/
  createdLine : Nat
  /-- The first line that destroys the object. -/
  destroyedLine? : Option Nat
deriving DecidableEq, Repr

/-- The scans of files by name. -/
abbrev Scans := Table String Scan

/-- The objects of files, by file and by property. -/
abbrev Ownership := Table String (Table Text Owned)

/-- A name that is there and not empty. -/
def given? {α : Type} (name? : Option (List α)) : Option (List α) :=
  name?.filter (!·.isEmpty)

/-- A file name that is there and not empty. -/
def givenFile? (name? : Option String) : Option String :=
  name?.filter (!·.isEmpty)

/-- The names that all files import, with their files. -/
def importMap (scans : Scans) : Table Text String :=
  Table.putAll [] (scans.flatMap fun (_, scan) => scan.imports)

/-- The objects that a file stores. -/
def ownedBy (classes : Table Text String) (scan : Scan) : Table Text Owned :=
  Table.putAll [] (scan.instances.filterMap fun i =>
    (given? i.stored?).map fun reference =>
      (reference, ⟨i.className, classes.get? i.className, i.line, i.destroyLine?⟩))

/-- The objects of all files.  A file that stores none is left out. -/
def ownership (scans : Scans) : Ownership :=
  let classes := importMap scans
  (scans.map fun (file, scan) => (file, ownedBy classes scan)).filter fun (_, owned) =>
    !owned.isEmpty

/-! ## Depth -/

/-- The pairs of an owner and the file that defines the class of an object. -/
def edges (own : Ownership) : List (String × String) :=
  own.flatMap fun (file, owned) =>
    owned.filterMap fun (_, o) => (givenFile? o.source?).map fun source => (file, source)

/-- The scanned files that a file owns. -/
def childrenOf (scans : Scans) (own : Ownership) (file : String) : List String :=
  ((edges own).filter fun (owner, source) => owner == file && scans.has source).map (·.2)

/-- The files that nobody owns, or the first file if all are owned. -/
def roots (scans : Scans) (own : Ownership) : List String :=
  let free := scans.keys.filter fun file => !(edges own).any fun (_, source) => source == file
  if free.isEmpty then scans.keys.take 1 else free

/-! The search leaves the files of a queue one by one.  A file may wait in the queue more than once,
but it is left at its first turn only, and only then do the files that it owns join the queue.  So
each edge is followed at most once. -/

/-- The edges that a search has not followed: those whose owners have not been left. -/
def edgesAhead (own : Ownership) (left : List String) : List (String × String) :=
  (edges own).filter fun (owner, _) => !left.contains owner

/-- A file that is left takes the edges to its children with it. -/
theorem length_childrenOf_le (scans : Scans) (own : Ownership) {left : List String} {file : String}
    (hnew : ¬ left.contains file) :
    (childrenOf scans own file).length + (edgesAhead own (file :: left)).length ≤
      (edgesAhead own left).length := by
  unfold childrenOf edgesAhead
  rw [List.length_map]
  induction edges own with
  | nil => simp
  | cons e es ih =>
      by_cases howner : e.1 = file
      · subst howner
        cases hscanned : scans.has e.2 <;> simp_all <;> omega
      · by_cases hleft : left.contains e.1 <;> simp_all
        omega

/-- The deepest level of a search, where `left` holds the files that have been left, `best` is the
deepest level so far, and the files of the queue wait with their levels. -/
def deepestFrom (scans : Scans) (own : Ownership) (left : List String) (best : Nat) :
    List (String × Nat) → Nat
  | [] => best
  | (file, level) :: queue =>
      if left.contains file then deepestFrom scans own left best queue
      else
        let below := (childrenOf scans own file).filter fun f => !(file :: left).contains f
        deepestFrom scans own (file :: left) (max best level)
          (queue ++ below.map fun f => (f, level + 1))
termination_by queue => (edgesAhead own left).length + queue.length
decreasing_by
  · simp
  · have hchildren := @length_childrenOf_le scans own left file (by assumption)
    have hbelow := (childrenOf scans own file).length_filter_le fun f => !(file :: left).contains f
    simp only [List.length_append, List.length_map, List.length_cons]
    omega

/-- The depth of the ownership.  The root of a search is on the first level. -/
def depth (scans : Scans) (own : Ownership) : Nat :=
  (roots scans own).foldl (fun best root => deepestFrom scans own [] best [(root, 1)]) 1

end ExtensionAudit.Resource
