import ExtensionAudit.Extension
import ExtensionAudit.Number
import ExtensionAudit.Outcome
import ExtensionAudit.Volume.Find
import ExtensionAudit.Volume.Rows

/-!
# Packages

The archive that lies in the extension's directory: what it must hold, and what it must not
hold.  The tests go over the list of its members that a program of the machine prints, one a line.

A test for a name that must be there reads up to the first line that passes.  If the rest of the
list is then still to be written, its writer may be stopped, and the test counts as failed.

In the names that are looked for, a point stands for any character of the locale, except in names
that start with a point.
-/

namespace ExtensionAudit.Packaging

/-! ## Names -/

/-- Every pair of characters agrees, where a point in the first text agrees with any character
but zero. -/
def agrees : Text → Text → Bool
  | [], [] => true
  | a :: s, b :: t => (a == '.' && !Text.isZero b || a == b) && agrees s t
  | _, _ => false

/-- The last characters of a text, as many as given, with what stands before them. -/
def lastOf (n : Nat) (t : Text) : Text × Text :=
  (t.take (t.length - n), t.drop (t.length - n))

/-- The text is empty or ends with a slash, so that a name starts after it. -/
def startsName (before : Text) : Bool :=
  before.isEmpty || before.getLast? == some '/'

/-- The line ends with a whole name that agrees with the given one. -/
def endsInName (same : Text → Text → Bool) (name line : Text) : Bool :=
  let (before, last) := lastOf name.length line
  startsName before && same name last

/-- What a package must not hold. -/
inductive Forbidden where
  /-- A directory, with the slash at its end. -/
  | directory (name : Text)
  /-- A name or an ending that starts with a point. -/
  | dotted (name : Text)
  /-- A name. -/
  | plain (name : Text)
deriving DecidableEq, Repr

/-- The kind of an entry of the list. -/
def Forbidden.ofString (s : String) : Forbidden :=
  let name := s.toList
  if Text.endsIn ['/'] name then .directory name
  else if name.head? == some '.' then .dotted name
  else .plain name

/-- The lines that an entry forbids, where `found` gives the lines that are found with a test.  An
ending counts only if no line has it as a whole name. -/
def Forbidden.hits (found : (Text → Bool) → List Text) : Forbidden → List Text
  | .directory name => found (Text.occursIn name)
  | .dotted name =>
      let whole := found (endsInName (· == ·) name)
      if whole.isEmpty then found (Text.endsIn name) else whole
  | .plain name => found (endsInName agrees name)

/-- What no package may hold. -/
def forbidden : List String :=
  ["node_modules/", ".git/", ".github/", ".claude/", "CLAUDE.md", ".cursorrules", ".cursor/",
    ".windsurf/", ".aider", "cline_docs/", ".github/copilot-instructions.md", ".po", ".pot",
    ".pyc", "__pycache__/", ".env", ".gitignore", "package.json", "package-lock.json",
    "eslint.config.mjs", "eslint.config.js", "eslint.config.cjs", ".eslintrc", ".eslintrc.js",
    ".eslintrc.json", ".eslintrc.yml", "Makefile", ".editorconfig", ".prettierrc",
    ".prettierrc.js", ".prettierrc.json", ".prettierrc.yml", ".prettierignore", ".vscode/",
    ".idea/", "webpack.config.js", "webpack.config.mjs", "rollup.config.js",
    "rollup.config.mjs", "jest.config.js", "jest.config.ts", "vitest.config.js",
    "vitest.config.ts", ".gitlab-ci.yml", "Dockerfile", "docker-compose.yml",
    "docker-compose.yaml", "CONTRIBUTING.md", "CODE_OF_CONDUCT.md", "README.md", "dist/",
    "build/", ".npmrc", "yarn.lock", "pnpm-lock.yaml", "tsconfig.json", "tsconfig.build.json",
    ".babelrc", ".map", "env.d.ts", "jsconfig.json", ".old", ".bak", ".orig", ".swp", ".swo",
    "meson.build", "CHANGELOG.md", "convenience.js"]

/-- What every package must hold. -/
def required : List String := ["extension.js", "metadata.json"]

/-! ## Contents -/

/-- The name of a package. -/
def isPackageName (name : String) : Bool :=
  Text.endsIn ".zip".toList name.toList

/-- The first package in the extension's directory. -/
def package? (ext : Extension) : Option (Path × Entry) :=
  (ext.volume.find ext.base).find? fun (p, _) =>
    p.length ≤ ext.base.length + 1 && isPackageName p.name

/-- The size of an entry in bytes, where it can matter. -/
def size : Entry → Nat
  | .file bytes _ => bytes.length
  | _ => 0

/-- The last field of a line, where blanks and tabs divide fields.  A line without fields is
itself one. -/
def lastField (line : Text) : Text :=
  let fields := (Text.splitAt ' ' (line.map fun c => if c == '\t' then ' ' else c)).filter
    (!·.isEmpty)
  fields.getLast?.getD line

/-- The names of members in a table: the last fields of the lines after the third that start with
a blank.  Bytes are taken one by one. -/
def tableNames (table : List UInt8) : List UInt8 :=
  let lines := (Text.rows (table.map fun b => Char.ofNat b.toNat)).drop 3
  let names := (lines.filter fun line => line.head? == some ' ').map lastField
  (Text.join ['\n'] names).map fun c => UInt8.ofNat c.toNat

/-- The names of members that are printed of the archive at a path: by the lister, or by the
unpacker in its place. -/
def printedNames? (v : Volume) (p : Path) : Option (List UInt8) :=
  match v.machine.lister?, v.machine.unpacker? with
  | some list, _ => some (list v.root p)
  | none, some u => some (tableNames (u.table v.root p))
  | none, none => none

/-- The contents that the unpacker prints of a member, if there is one. -/
def printedMember (v : Volume) (p : Path) (name : String) : List UInt8 :=
  match v.machine.unpacker? with
  | some u => u.contents v.root p name
  | none => []

/-! ## Versions of the shell -/

/-- The value of a manifest that is printed from a package. -/
def manifest? (printed : List UInt8) : Option Json :=
  let t := Text.captured (Text.readLossy printed)
  if t.isEmpty then none
  else
    match Json.read (Text.unifyNewlines t) with
    | .ok v => some v
    | .error _ => none

/-- The values that a manifest lists as versions: the items of a list, the names of fields or
the characters of a string. -/
def versionValues : Json → List Points
  | .arr items => items.map Json.shown
  | .obj fields => fields.map (·.1)
  | .str s => s.map fun c => [c]
  | _ => []

/-- The versions as far as they can be shown. -/
def shownVersions (values : List Points) : List Text :=
  (values.takeWhile fun s => s.text?.isSome).map Points.view

/-- The versions that a manifest lists, as they are printed. -/
def printedVersions (m : Json) : Text :=
  match m with
  | .obj fields =>
      let listed := (Json.field? fields "shell-version").getD (.arr [])
      Text.join ['\n'] (shownVersions (versionValues listed))
  | _ => []

/-- The rows of the versions that a manifest lists. -/
def versionRows (m : Json) : List Text :=
  Text.splitAt '\n' (Text.captured (printedVersions m))

/-- The version is 45 or later, by the digits before its first point. -/
def isModern (version : Text) : Bool :=
  let major := Text.before '.' version
  !major.isEmpty && major.all Char.isDigit && (Number.word? major).any (45 ≤ ·)

/-- The manifest that is printed from a package lists a version from 45 on. -/
def listsModern (printed : List UInt8) : Bool :=
  match manifest? printed with
  | some m => (versionRows m).any isModern
  | none => false

/-! ## Findings -/

/-- The package is not too large. -/
def sizeFinding (m : Machine) (e : Entry) : Finding :=
  if size e > 5242880 then
    ⟨.warn, "package/size",
      s!"Package is {m.megabytes (size e)}MB — consider reducing (recommended: under 5MB)"⟩
  else ⟨.pass, "package/size", "Package size OK"⟩

/-- What the package must not hold and holds. -/
def forbiddenFindings (found : (Text → Bool) → List Text) : List Finding :=
  let failures := forbidden.filterMap fun s =>
    let n := ((Forbidden.ofString s).hits found).length
    if n == 0 then none
    else
      some ⟨.fail, "package/no-forbidden", s!"Found forbidden content: {s} ({n} match(es))"⟩
  if failures.isEmpty then
    [⟨.pass, "package/no-forbidden", "No forbidden files found in package"⟩]
  else failures

/-- The package holds a file, as far as the search for it tells. -/
def holds (m : Machine) (p : Path) (lines : List Text) (name : String) : Bool :=
  m.finds s!"package/has-{name}" p (endsInName agrees name.toList) lines

/-- What the package must hold. -/
def requiredFindings (m : Machine) (p : Path) (lines : List Text) : List Finding :=
  required.map fun name =>
    if holds m p lines name then ⟨.pass, s!"package/has-{name}", s!"{name} found in package"⟩
    else ⟨.fail, s!"package/has-{name}", s!"{name} missing from package"⟩

/-- A line for the main script right below one directory, in whose name there is no zero. -/
def isNested (line : Text) : Bool :=
  match Text.breakAt '/' line with
  | some (dir, rest) => !dir.isEmpty && !dir.any Text.isZero && rest == "extension.js".toList
  | none => false

/-- The main script lies at the top. -/
def nestedFindings (m : Machine) (p : Path) (lines : List Text) : List Finding :=
  if m.finds "package/nested-structure" p isNested lines &&
      !m.finds "package/top" p (· == "extension.js".toList) lines then
    [⟨.fail, "package/nested-structure",
      "extension.js is inside a subdirectory — files must be at zip root"⟩]
  else []

/-- Compiled schemas beside their sources, for a package whose manifest is printed as given. -/
def schemaRemarks (m : Machine) (p : Path) (manifest : List UInt8) (lines : List Text) :
    List Remark :=
  if !m.finds "package/schemas" p (Text.endsIn ".gschema.xml".toList) lines then []
  else if !m.finds "package/compiled-schemas" p (Text.occursIn "gschemas.compiled".toList) lines
    then [.finding ⟨.pass, "package/compiled-schemas", "No unnecessary gschemas.compiled"⟩]
  else
    (m.zeroNotes "manifest" (Text.readLossy manifest)).map .note ++
      (m.zeroNotes "versions" (((manifest? manifest).map printedVersions).getD [])).map .note ++
      [.finding <|
        if listsModern manifest then
          ⟨.fail, "package/compiled-schemas-forbidden",
            "gschemas.compiled must not be included for GNOME 45+ (auto-compiled by Shell)"⟩
        else
          ⟨.warn, "package/compiled-schemas-unnecessary",
            "gschemas.compiled is unnecessary for GNOME 44+ (auto-compiled by Shell)"⟩]

/-- Packages in the package. -/
def innerFindings (found : (Text → Bool) → List Text) : List Finding :=
  if !(found (Text.endsIn ".zip".toList)).isEmpty then
    [⟨.warn, "package/nested-zip", "Found nested zip file(s) in package"⟩]
  else []

/-- The lines of the list that is printed, as the machine reads them. -/
def linesOf (m : Machine) (printed : List UInt8) : List Text :=
  (Text.byteRows (Machine.handedOn printed)).map m.read

/-- Those of the lines that a search finds with a test. -/
def foundLines (m : Machine) (printed : List UInt8) (test : Text → Bool) : List Text :=
  (m.shown test (Machine.handedOn printed) (linesOf m printed)).filter test

/-- What is said on the members of the package at a path, as they are printed. -/
def memberRemarks (v : Volume) (p : Path) (printed : List UInt8) : List Remark :=
  let m := v.machine
  let lines := linesOf m printed
  let found := foundLines m printed
  (m.zeroNotes "listing" (Text.readLossy printed)).map .note ++
    (forbiddenFindings found ++ requiredFindings m p lines ++ nestedFindings m p lines).map
      .finding ++
    schemaRemarks m p (printedMember v p "metadata.json") lines ++
    (innerFindings found).map .finding

/-- All that is said on the package of an extension. -/
def transcript (ext : Extension) : Transcript :=
  match package? ext with
  | none =>
      { remarks := [.finding
          ⟨.skip, "package/exists", "No zip package found in extension directory"⟩] }
  | some (p, e) =>
      { remarks := .finding ⟨.pass, "package/exists", s!"Found package: {p.name}"⟩ ::
          .finding (sizeFinding ext.volume.machine e) ::
          match printedNames? ext.volume p with
          | some printed => memberRemarks ext.volume p printed
          | none => [.finding
              ⟨.skip, "package/contents", "Neither zipinfo nor unzip available"⟩] }

/-- The findings on the package of an extension. -/
def findings (ext : Extension) : List Finding :=
  (transcript ext).findings

end ExtensionAudit.Packaging
