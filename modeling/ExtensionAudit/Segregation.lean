import ExtensionAudit.Extension
import ExtensionAudit.Outcome
import ExtensionAudit.Reach
import ExtensionAudit.Volume.Find
import ExtensionAudit.Volume.Rows

/-!
# Segregation of imports

The scripts that run in the shell must not import the toolkit, and the preferences, which run
in a process of their own, must not import the shell's libraries.  The second rule also holds
for every file that the preferences reach by imports of local files.

The files that are reached are known by names.  What is printed for an import is the path of its
file, and every line of it is a name of its own.  A name that starts at no root is taken from the
directory in which the run was started.
-/

namespace ExtensionAudit.Segregation

/-- One of the texts occurs in a row. -/
def holdsAny (needles : List String) (row : Text) : Bool :=
  needles.any fun s => Text.occursIn s.toList row

/-- A row that imports the toolkit. -/
def importsToolkit : Text → Bool :=
  holdsAny ["gi://Gtk", "gi://Gdk", "gi://Adw"]

/-- A row that imports a library of the shell. -/
def importsShell : Text → Bool :=
  holdsAny ["gi://Clutter", "gi://Meta", "gi://St", "gi://Shell"]

/-- The path of the preferences. -/
def preferences : Path := ["prefs.js"]

/-- The directory of further scripts. -/
def library : Path := ["lib"]

/-- The path of a file as a finding shows it: against the extension if it lies in it. -/
def shownPath (ext : Extension) (p : Path) : String :=
  if ext.base.isPrefixOf p then Path.shown (p.drop ext.base.length) else p.text

/-- The scripts below the library, links and directories of such a name among them. -/
def libraryScripts (ext : Extension) : List Path :=
  if ext.isDir library then ext.volume.findNamed (ext.base ++ library) Extension.isScriptName
  else []

/-- The scripts that run in the shell. -/
def shellScripts (ext : Extension) : List Path :=
  (if ext.isFile Extension.mainScript then [ext.base ++ Extension.mainScript] else []) ++
    libraryScripts ext

/-! ## Imports of local files -/

/-- A quote of either kind. -/
def isQuote (c : Char) : Bool := c == '"' || c.toNat == 39

section

variable (isBlank : Char → Bool)

/-- What follows the word `from`, blanks and a quote at the start of a text. -/
def afterFrom? (t : Text) : Option Text :=
  if "from".toList.isPrefixOf t then
    match (t.drop 4).head?, Text.trimFrontOf isBlank (t.drop 4) with
    | some blank, quote :: rest => if isBlank blank && isQuote quote then some rest else none
    | _, _ => none
  else none

/-- A path that starts at the own or at the enclosing directory. -/
def isLocal (path : Text) : Bool :=
  "./".toList.isPrefixOf path || "../".toList.isPrefixOf path

/-- A row that imports a local file. -/
def importsLocal : Text → Bool
  | [] => false
  | c :: rest => (afterFrom? isBlank (c :: rest)).any isLocal || importsLocal rest

/-- The module that is named at the start of a text. -/
def module? (t : Text) : Option Text :=
  match afterFrom? isBlank t with
  | none => none
  | some rest =>
      let path := rest.takeWhile fun c => !isQuote c
      if path.isEmpty || path.length == rest.length then none else some path

/-- The module that is named last in a row. -/
def lastModule? : Text → Option Text
  | [] => none
  | c :: rest =>
      match lastModule? rest with
      | some path => some path
      | none => module? isBlank (c :: rest)

/-- The path that a row with an import stands for.  A row that names no module stands for
itself. -/
def importPath (row : Text) : Text :=
  (lastModule? isBlank row).getD row

end

/-- A text that is taken for an option. -/
def isOption (t : Text) : Bool :=
  t.head? == some '-' && t.length > 1

/-- An option that only asks for help or for the version, which it may do in short. -/
def asksForHelp (t : Text) : Bool :=
  t.length > 2 && (t.isPrefixOf "--help".toList || t.isPrefixOf "--version".toList)

/-- The file that an import from a directory leads to, as its text is kept: the path itself, or
with the ending of a script added. -/
def importedFile? (v : Volume) (dir : Path) (path : Text) : Option String :=
  let name := String.ofList (Text.captured (v.realPath dir (String.ofList path)).text.toList)
  let script := name ++ ".js"
  if v.isFile (Path.steps name) then some name
  else if v.isFile (Path.steps script) then some script
  else none

/-- The lines that are printed for an import from a directory.  None is empty. -/
def importLines (v : Volume) (dir : Path) (path : Text) : List String :=
  if isOption path then []
  else
    match importedFile? v dir path with
    | some name => (splitLines name).filter fun line => line != ""
    | none => []

/-- The paths that stand for the imports in rows. -/
def importPaths (isBlank : Char → Bool) (rows : List (Nat × Text)) : List Text :=
  (rows.filter fun (_, row) => importsLocal isBlank row).map fun (_, row) =>
    importPath isBlank row

/-- The rows of the file of a name that a search for imports shows.  A hyphen names the standard
input. -/
def rowsOf (v : Volume) (here : Path) (name : String) : List (Nat × Text) :=
  let test := importsLocal v.machine.isBlank
  if name == "-" then v.machine.shownRows test v.machine.input
  else v.shownRows test (Path.stepsFrom here name)

/-- The lines for the imports of the file of a name, from the current directory.  A name that is
taken for an option has none.  An import that is taken for an option ends the list, unless it asks
for help. -/
def localImports (v : Volume) (here : Path) (name : String) : List String :=
  if isOption name.toList then []
  else
    match v.resolve (Path.stepsFrom here name).parent with
    | .ok dir =>
        let paths := importPaths v.machine.isBlank (rowsOf v here name)
        (paths.takeWhile fun path => !isOption path || asksForHelp path).flatMap
          (importLines v dir.path)
    | .error _ => []

/-- The lines that imports can have at all: every import in a file of the tree or in the standard
input, from every place in the tree. -/
def everyLine (v : Volume) : List String :=
  let contents := v.machine.input :: v.everything.map fun (_, e) => e.contents
  let paths := contents.flatMap fun bytes =>
    importPaths v.machine.isBlank (v.machine.shownRows (importsLocal v.machine.isBlank) bytes)
  v.everything.flatMap fun (dir, _) => paths.flatMap (importLines v dir)

/-- The name of the preferences. -/
def preferencesName (ext : Extension) : String := ext.base.text ++ "/prefs.js"

/-- The names that the preferences reach, their own first. -/
def reachedNames (here : Path) (ext : Extension) : List String :=
  Reach.reached (localImports ext.volume here) ((everyLine ext.volume).length + 1)
    (preferencesName ext)

/-! ## Findings -/

/-- The toolkit in scripts that run in the shell. -/
def toolkitFindings (ext : Extension) : List Finding :=
  (shellScripts ext).flatMap fun file =>
    (ext.volume.numberedRows file importsToolkit).map fun row =>
      ⟨.fail, "imports/no-gtk-in-extension", s!"{shownPath ext file}: {String.ofList row}"⟩

/-- The shell's libraries in the preferences. -/
def shellFindings (ext : Extension) : List Finding :=
  if ext.isFile preferences then
    (ext.volume.numberedRows (ext.base ++ preferences) importsShell).map fun row =>
      ⟨.fail, "imports/no-shell-in-prefs", s!"prefs.js: {String.ofList row}"⟩
  else []

/-- A resource path in the wrong case, said once for a file. -/
def caseFindings (ext : Extension) (file : Path) (wrong detail : String) : List Finding :=
  if ext.isFile file &&
      !(ext.volume.foundRows (ext.base ++ file) (Text.occursIn wrong.toList)).isEmpty then
    [⟨.fail, "imports/resource-path-case", detail⟩]
  else []

/-- A name as a finding shows it: against the extension if it starts with its path. -/
def shownName (ext : Extension) (name : String) : String :=
  let dir := (ext.base.text ++ "/").toList
  if dir.isPrefixOf name.toList then String.ofList (name.toList.drop dir.length) else name

/-- The rows with the shell's libraries that a search shows for a name, with their numbers.  For a
name that looks like an option the rows are the machine's. -/
def shellRows (v : Volume) (here : Path) (name : String) : List Text :=
  if name.toList.head? == some '-' then v.machine.optionRows name
  else v.numberedRows (Path.stepsFrom here name) importsShell

/-- The shell's libraries in the file of a name that the preferences reach. -/
def sharedFindings (here : Path) (ext : Extension) (name : String) : List Finding :=
  (shellRows ext.volume here name).map fun row =>
    ⟨.fail, "imports/shared-module-shell",
      s!"{shownName ext name}: Shell runtime import in module reachable from prefs.js: " ++
        String.ofList row⟩

/-- The names that the preferences reach, their own apart, as a table lists them. -/
def sharedNames (here : Path) (ext : Extension) : List String :=
  (ext.volume.machine.shuffle (reachedNames here ext)).filter fun name =>
    name != preferencesName ext

/-- What breaks the rules in the scripts and the preferences themselves. -/
def ownViolations (ext : Extension) : List Finding :=
  toolkitFindings ext ++ shellFindings ext ++
    caseFindings ext preferences "resource:///org/gnome/shell/"
      ("prefs.js: wrong resource path case — " ++
        "use resource:///org/gnome/Shell/Extensions/ (capitalized Shell)") ++
    caseFindings ext Extension.mainScript "resource:///org/gnome/Shell/Extensions/"
      "extension.js: wrong resource path case — use resource:///org/gnome/shell/ (lowercase)"

/-- What breaks the rules in the files that the preferences reach. -/
def sharedViolations (here : Path) (ext : Extension) : List Finding :=
  if ext.isFile preferences then (sharedNames here ext).flatMap (sharedFindings here ext) else []

/-- What is said of names that are taken for options while their imports are looked for. -/
def optionNotes (here : Path) (ext : Extension) : List String :=
  if ext.isFile preferences then
    ((reachedNames here ext).filter fun name => isOption name.toList).flatMap
      ext.volume.machine.optionNote
  else []

/-- All that is said on imports. -/
def transcript (here : Path) (ext : Extension) : Transcript :=
  let own := ownViolations ext
  let shared := sharedViolations here ext
  let well : List Finding :=
    if own.isEmpty && shared.isEmpty then
      [⟨.pass, "imports/segregation", "Import contexts are properly segregated"⟩]
    else []
  { remarks := own.map .finding ++ (optionNotes here ext).map .note ++
      (shared ++ well).map .finding }

/-- The findings on imports. -/
def findings (here : Path) (ext : Extension) : List Finding :=
  (transcript here ext).findings

end ExtensionAudit.Segregation
