import ExtensionAudit.Manifest
import ExtensionAudit.Outcome
import ExtensionAudit.Volume.Find
import ExtensionAudit.Volume.Rows

/-!
# Settings schemas

The schema files below the directory `schemas`, and the schema that the manifest names.  The id
and the path of a schema are the first attributes of these names in its file.

The rounds over the files come one after the other, each a list of looks at the files.  A file that
lacks the attribute that a look is for, or that cannot be read, ends the whole run.  So does a file
with so many attributes of the name that the search for them is stopped after the first.
-/

namespace ExtensionAudit.Schemas

/-! ## Attributes -/

/-- The value of the first attribute of a name in a row, and what follows it. -/
def inRow? (name : Text) (row : Text) : Option (Text × Text) := do
  let (_, rest) ← Text.breakOn (name ++ ['=', '"']) row
  Text.breakAt '"' rest

/-- The values of the attributes of a name in a row.  The first argument bounds their number. -/
def valuesFrom (name : Text) : Nat → Text → List Text
  | 0, _ => []
  | fuel + 1, row =>
      match inRow? name row with
      | some (value, rest) => value :: valuesFrom name fuel rest
      | none => []

/-- The values of the attributes of a name in a row, from left to right. -/
def valuesIn (name row : Text) : List Text :=
  valuesFrom name row.length row

/-- The row has an attribute of a name. -/
def isGiven (name row : Text) : Bool := (inRow? name row).isSome

/-- Why a look fails. -/
inductive Stop where
  /-- The file lacks the attribute. -/
  | lacking
  /-- The file cannot be read. -/
  | unreadable (cause : Fault)
  /-- The search was stopped, since only its first line was read. -/
  | stopped
deriving DecidableEq, Repr

/-- The status of a run that ends with a look that fails.  A search that is stopped has the number
of the signal and 128 more. -/
def Stop.status : Stop → Nat
  | .lacking => 1
  | .unreadable _ => 2
  | .stopped => 141

/-- The value of the first attribute of a name in a file, as far as a search shows it.  A value
that it does not show is empty. -/
def attributeOf (v : Volume) (use name : String) (file : Path) : Except Stop Text :=
  match v.bytes file with
  | .error cause => .error (.unreadable cause)
  | .ok bytes =>
      if (Text.readLossy bytes).searched.any (isGiven name.toList) then
        let rows := v.machine.shownRows (isGiven name.toList) bytes
        match rows.flatMap fun (_, row) => valuesIn name.toList row with
        | [] => .ok []
        | value :: unread =>
            if v.machine.isStopped use file (value :: unread) unread then .error .stopped
            else .ok value
      else .error .lacking

/-- What a search for an attribute says beside the values: that the file cannot be read, or that
it is no text and has the attribute in a row that is not shown. -/
def searchNotes (v : Volume) (name : String) (file : Path) : List String :=
  let m := v.machine
  match v.bytes file with
  | .error cause => m.searchNote file.text (some cause)
  | .ok bytes =>
      let test := isGiven name.toList
      let hidden := ((Text.readLossy bytes).rows.drop (m.early test bytes)).flatMap
        (Text.splitAt (Char.ofNat 0))
      if m.isBinary bytes && hidden.any test then m.searchNote file.text none
      else []

/-! ## Looks -/

/-- A look at a file for an attribute, with what is then said. -/
structure Look where
  /-- The check that it is for. -/
  use : String
  /-- The name of the attribute. -/
  name : String
  /-- The file. -/
  file : Path
  /-- What is said of a value. -/
  report : Text → List Finding

/-- What a run has said, and why it has ended early, if it has. -/
structure Progress where
  /-- What it has said. -/
  remarks : List Remark := []
  /-- Why it has ended early. -/
  stop : Option Stop := none

namespace Progress

/-- One run after the other. -/
def andThen (a b : Progress) : Progress :=
  match a.stop with
  | some _ => a
  | none => ⟨a.remarks ++ b.remarks, b.stop⟩

/-- All that a run says, with its status. -/
def transcript (r : Progress) : Transcript :=
  { remarks := r.remarks, status := (r.stop.map Stop.status).getD 0 }

end Progress

/-- One look after the other, to the first that fails. -/
def through (v : Volume) : List Look → Progress
  | [] => {}
  | l :: rest =>
      let notes := (searchNotes v l.name l.file).map Remark.note
      match attributeOf v l.use l.name l.file with
      | .error stop => ⟨notes, some stop⟩
      | .ok value =>
          Progress.andThen ⟨notes ++ (l.report value).map .finding, none⟩ (through v rest)

/-! ## What an extension has -/

/-- The name of a schema file. -/
def isSchemaName (name : String) : Bool :=
  Text.endsIn ".gschema.xml".toList name.toList

/-- The directory of the schemas. -/
def directory : Path := ["schemas"]

/-- The schema files of an extension. -/
def files (ext : Extension) : List Path :=
  if ext.isDir directory then ext.volume.findNamed (ext.base ++ directory) isSchemaName else []

/-- The schema that a manifest names, as it is printed.  Without a manifest that can be read and
shown it is empty. -/
def printedSchema (ext : Extension) : Text :=
  if ext.isFile Extension.manifestPath then
    match shown with
    | .ok s => s.toList
    | .error _ => []
  else []
where
  /-- The value as a message shows it. -/
  shown : Except Fault String := do
    match ← ext.readManifest with
    | .malformed .. => return ""
    | .value v =>
        match ← v.member? "settings-schema" with
        | some w => Manifest.showValue w
        | none => return ""

/-- The schema that a manifest names, as it is kept. -/
def declared (ext : Extension) : Text := Text.captured (printedSchema ext)

/-! ## Findings on a file -/

/-- The id is the one that the manifest names. -/
def idFindings (wanted : Text) (id : Text) : List Finding :=
  let shown := String.ofList id
  if id == wanted then
    [⟨.pass, "schema/id-matches", s!"Schema ID '{shown}' matches metadata.json settings-schema"⟩]
  else
    [⟨.fail, "schema/id-matches",
      s!"Schema ID '{shown}' does not match metadata.json settings-schema '" ++
        String.ofList wanted ++ "'"⟩]

/-- A file is named for its id. -/
def nameFindings (file : Path) (id : Text) : List Finding :=
  let expected := String.ofList id ++ ".gschema.xml"
  if id.isEmpty then []
  else if file.name == expected then
    [⟨.pass, "schema/filename-convention", s!"Schema filename matches ID: {file.name}"⟩]
  else
    [⟨.fail, "schema/filename-convention",
      s!"Schema filename '{file.name}' MUST be '{expected}'"⟩]

/-- The path lies below that of the shell's extensions and ends with a slash. -/
def pathFindings (path : Text) : List Finding :=
  let shown := String.ofList path
  if path.isEmpty then []
  else
    [if "/org/gnome/shell/extensions/".toList.isPrefixOf path then
        ⟨.pass, "schema/path", s!"Schema path is correct: {shown}"⟩
      else
        ⟨.fail, "schema/path",
          s!"Schema path should start with /org/gnome/shell/extensions/, got: {shown}"⟩,
      if Text.endsIn ['/'] path then
        ⟨.pass, "schema/path-trailing-slash", "Schema path ends with /"⟩
      else
        ⟨.fail, "schema/path-trailing-slash", s!"Schema path must end with /, got: {shown}"⟩]

/-- The part of an id that is the extension's own. -/
def ownPart (id : Text) : Text :=
  let standard := "org.gnome.shell.extensions.".toList
  if standard.isPrefixOf id then id.drop standard.length else id

/-- The extension's own part of an id does not hold the trademark. -/
def trademarkFindings (id : Text) : List Finding :=
  if !id.isEmpty && Text.occursIn "gnome".toList ((ownPart id).map Char.toLower) then
    [⟨.fail, "schema/gnome-trademark",
      "GNOME trademark must not appear in schema ID extension part: " ++ String.ofList id⟩]
  else []

/-! ## All looks -/

/-- All looks of a run, round by round. -/
def looks (files : List Path) (wanted : Text) : List Look :=
  (if wanted.isEmpty then []
    else files.map fun file => ⟨"schema/id-matches", "id", file, idFindings wanted⟩) ++
    files.map (fun file => ⟨"schema/filename-convention", "id", file, nameFindings file⟩) ++
    files.map (fun file => ⟨"schema/path", "path", file, pathFindings⟩) ++
    files.map fun file => ⟨"schema/gnome-trademark", "id", file, trademarkFindings⟩

/-- What the compiler says of the schemas, if there is one. -/
def compileFinding (ext : Extension) : Finding :=
  match ext.volume.machine.compiler? with
  | none => ⟨.skip, "schema/compile", "glib-compile-schemas not available"⟩
  | some compile =>
      let answer := compile ext.volume.root (ext.base ++ directory)
      if answer.status == 0 then
        ⟨.pass, "schema/compile", "glib-compile-schemas --strict --dry-run passed"⟩
      else
        ⟨.fail, "schema/compile", "glib-compile-schemas failed: " ++
          String.ofList (Text.captured answer.printed)⟩

/-- What is said of the number of schema files. -/
def existsFinding (ext : Extension) : Finding :=
  match files ext with
  | [] =>
      if (declared ext).isEmpty then
        ⟨.skip, "schema/exists", "No schemas defined (not all extensions use schemas)"⟩
      else
        ⟨.fail, "schema/exists",
          "settings-schema '" ++ String.ofList (declared ext) ++
            "' in metadata.json but no .gschema.xml files found"⟩
  | found => ⟨.pass, "schema/exists", s!"Found {found.length} schema file(s)"⟩

/-- The run on the schemas of an extension.  Without schema files it ends at once. -/
def run (ext : Extension) : Progress :=
  let notes := ext.volume.machine.zeroNotes "schema" (printedSchema ext)
  let start : Progress := ⟨notes.map .note ++ [.finding (existsFinding ext)], none⟩
  if (files ext).isEmpty then start
  else
    start.andThen <| (through ext.volume (looks (files ext) (declared ext))).andThen
      ⟨[.finding (compileFinding ext)], none⟩

end ExtensionAudit.Schemas
