import ExtensionAudit.Check
import ExtensionAudit.Json.Reader
import ExtensionAudit.Volume.Walk

/-!
# The extension under inspection

A directory of a file tree, with the files that the checks look at.  Paths inside it are
given against the directory.
-/

namespace ExtensionAudit

/-- An extension: a file tree and the directory in it. -/
structure Extension where
  /-- The file tree. -/
  volume : Volume
  /-- The directory, without links. -/
  base : Path

/-- A path against the extension's directory, as text. -/
def Path.shown (p : Path) : String := "/".intercalate p

/-- A line of a file, as text. -/
def Path.atLine (p : Path) (n : Nat) : String := s!"{p.shown}:{n}"

namespace Extension

/-- The name of the directory. -/
def dirName (ext : Extension) : String := ext.base.name

/-- The path leads to a file. -/
def isFile (ext : Extension) (p : Path) : Bool := ext.volume.isFile (ext.base ++ p)

/-- The path leads to a directory. -/
def isDir (ext : Extension) (p : Path) : Bool := ext.volume.isDir (ext.base ++ p)

/-- The text of a file. -/
def text (ext : Extension) (p : Path) : Except Fault Text := ext.volume.text (ext.base ++ p)

/-- The text of a file that must be UTF-8. -/
def strictText (ext : Extension) (p : Path) : Except Fault Text :=
  ext.volume.strictText (ext.base ++ p)

/-- The texts of files, in order. -/
def texts (ext : Extension) (files : List Path) : Except Fault (List (Path × Text)) :=
  files.mapM fun p => do return (p, ← ext.text p)

/-- The first answer on the texts of files.  The files after it are not read. -/
def firstText? {α : Type} (ext : Extension) (f : Path → Text → Option α) :
    List Path → Except Fault (Option α)
  | [] => .ok none
  | p :: rest => do
      match f p (← ext.text p) with
      | some a => return some a
      | none => firstText? ext f rest

/-- The first answers on the texts of files, up to a bound.  The files after the last one needed
are not read. -/
def gather {α : Type} (ext : Extension) (f : Path → Text → List α) (bound : Nat) :
    List Path → Except Fault (List α)
  | [] => .ok []
  | p :: rest => do
      let found := (f p (← ext.text p)).take bound
      if found.length ≥ bound then return found
      return found ++ (← gather ext f (bound - found.length) rest)

/-- Directories that do not belong to the extension. -/
def isForeignDir (name : String) : Bool :=
  name == "node_modules" || name == ".git" || name == "__pycache__"

/-- A name of a JavaScript file. -/
def isScriptName (name : String) : Bool :=
  Text.endsIn ".js".toList name.toList

/-- All files of the extension, foreign directories apart. -/
def ownFiles (ext : Extension) : List Path :=
  ext.volume.walk isForeignDir ext.base

/-- The JavaScript files of the extension. -/
def scripts (ext : Extension) : List Path :=
  ext.ownFiles.filter fun p => isScriptName p.name

/-- The JavaScript files that run in the shell: all but the preferences. -/
def runtimeScripts (ext : Extension) : List Path :=
  ext.scripts.filter fun p => p.name != "prefs.js"

/-- The manifest's path. -/
def manifestPath : Path := ["metadata.json"]

/-- The path of the main script. -/
def mainScript : Path := ["extension.js"]

/-- What reading a manifest can give. -/
inductive ManifestText where
  /-- The document's value. -/
  | value (v : Json)
  /-- A text that is no JSON, with the cause and its place. -/
  | malformed (text : Text) (cause : Json.Cause) (place : Nat)

/-- Reads the manifest, which must be a UTF-8 file. -/
def readManifest (ext : Extension) : Except Fault ManifestText := do
  let t ← ext.strictText manifestPath
  match Json.read t with
  | .ok v => return .value v
  | .error (.malformed cause place) => return .malformed t cause place
  | .error .tooDeep => throw .tooDeep
  | .error (.tooManyDigits _) => throw .badValue

/-- The manifest's value, or nothing if the file cannot be read or is no JSON. -/
def manifest? (ext : Extension) : Except Fault (Option Json) :=
  match ext.readManifest with
  | .ok (.value v) => .ok (some v)
  | .ok (.malformed ..) => .ok none
  | .error e => if e.fromFiles then .ok none else .error e

end Extension

/-- The field of a value that must be an object. -/
def Json.member? (v : Json) (name : String) : Except Fault (Option Json) :=
  match v with
  | .obj fields => .ok (Json.field? fields name)
  | _ => .error .noOperation

end ExtensionAudit
