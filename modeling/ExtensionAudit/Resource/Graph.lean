import ExtensionAudit.Resource.Orphan

/-!
# The graph of resources

What all files of an extension do with resources, who owns whom, and which resources are
orphans; and the graph as a JSON value.
-/

namespace ExtensionAudit.Resource

/-- The graph of an extension. -/
structure Graph where
  /-- The scans by file. -/
  scans : Scans
  /-- The objects by file. -/
  own : Ownership
  /-- The orphans. -/
  orphaned : List Orphan
  /-- The depth of the ownership; zero if there are no files. -/
  levels : Nat
deriving DecidableEq, Repr

/-- The graph of scans. -/
def Graph.ofScans (scans : Scans) : Graph :=
  let own := ownership scans
  { scans, own, orphaned := orphans scans own,
    levels := if scans.isEmpty then 0 else depth scans own }

/-- Scans the scripts of an extension that run in the shell. -/
def scanAll (ext : Extension) : Except Fault Scans := do
  return Table.putAll [] <| (← ext.texts ext.runtimeScripts).map fun (p, t) =>
    (p.shown, scan ext.base (ext.base ++ p) t)

/-- The graph of an extension. -/
def graph (ext : Extension) : Except Fault Graph := do
  return Graph.ofScans (← scanAll ext)

/-! ## The graph as JSON -/

/-- A text as a value. -/
def textValue (t : Text) : Json := .str (Points.ofText t)

/-- A value or null. -/
def optionValue {α : Type} (f : α → Json) : Option α → Json
  | some a => f a
  | none => .null

/-- A number as a value. -/
def countValue (n : Nat) : Json := .int n

/-- A line that takes a resource, as a value. -/
def Creation.value (c : Creation) : Json :=
  Json.object [("line", countValue c.line), ("type", Json.ofString c.kind.word),
    ("pattern", textValue c.text), ("stored_as", optionValue textValue c.stored?)]

/-- A line that gives a resource back, as a value. -/
def Release.value (r : Release) : Json :=
  Json.object [("line", countValue r.line), ("type", Json.ofString r.kind.word),
    ("pattern", textValue r.text), ("ref", optionValue textValue r.reference?)]

/-- A line that makes an object, as a value. -/
def Instance.value (i : Instance) : Json :=
  Json.object [("line", countValue i.line), ("type", Json.ofString "object"),
    ("class", textValue i.className), ("stored_as", optionValue textValue i.stored?),
    ("has_destroy_call", .bool i.destroyLine?.isSome),
    ("destroy_line", optionValue countValue i.destroyLine?)]

/-- An object that a file stores, as a value. -/
def Owned.value (o : Owned) : Json :=
  Json.object [("class", textValue o.className),
    ("source_file", optionValue Json.ofString o.source?),
    ("created_line", countValue o.createdLine),
    ("destroyed_line", optionValue countValue o.destroyedLine?)]

/-- An orphan as a value. -/
def Orphan.value (o : Orphan) : Json :=
  Json.object [("file", Json.ofString o.file), ("line", countValue o.creation.line),
    ("type", Json.ofString o.creation.kind.word), ("pattern", textValue o.creation.text),
    ("reason", Json.ofString (o.cause.words o.file))]

/-- What a file does with resources, as a value. -/
def Scan.value (s : Scan) : Json :=
  Json.object [("creates", .arr (s.creations.map Creation.value)),
    ("destroys", .arr (s.releases.map Release.value)),
    ("instantiates", .arr (s.instances.map Instance.value))]

/-- The objects of files as a value. -/
def ownershipValue (own : Ownership) : Json :=
  .obj (own.map fun (file, owned) =>
    (Points.ofString file, .obj (owned.map fun (reference, o) =>
      (Points.ofText reference, o.value))))

/-- The graph as a value. -/
def Graph.value (g : Graph) : Json :=
  Json.object [
    ("files", .obj (g.scans.map fun (file, s) => (Points.ofString file, s.value))),
    ("ownership", ownershipValue g.own),
    ("orphans", .arr (g.orphaned.map Orphan.value)),
    ("summary", Json.object [
      ("total_creates", countValue (Text.total (g.scans.map fun (_, s) => s.creations.length))),
      ("total_destroys", countValue (Text.total (g.scans.map fun (_, s) => s.releases.length))),
      ("orphan_count", countValue g.orphaned.length),
      ("files_scanned", countValue g.scans.length),
      ("ownership_depth", countValue g.levels)])]

/-! ## Printing -/

/-- The lines that a scan has counted. -/
def Scan.numbers (s : Scan) : List Nat :=
  s.creations.map (·.line) ++ s.releases.map (·.line) ++
    s.instances.flatMap fun i => i.line :: i.destroyLine?.toList

/-- The numbers in a graph. -/
def Graph.numbers (g : Graph) : List Nat :=
  (g.scans.flatMap fun x => x.2.numbers) ++
    (g.own.flatMap fun x => x.2.flatMap fun y => y.2.createdLine :: y.2.destroyedLine?.toList) ++
    g.orphaned.map (·.creation.line) ++
    [Text.total (g.scans.map fun x => x.2.creations.length),
      Text.total (g.scans.map fun x => x.2.releases.length), g.orphaned.length, g.scans.length,
      g.levels]

/-- The graph of an extension, for printing.  A number with too many digits cannot be printed. -/
def printable (ext : Extension) : Except Fault Graph := do
  let g ← graph ext
  if g.numbers.all (· < Nat.pow 10 Json.digitBound) then return g else throw .badValue

end ExtensionAudit.Resource
