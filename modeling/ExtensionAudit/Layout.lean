import ExtensionAudit.Segregation
import ExtensionAudit.Volume.Glob

/-!
# The layout of an extension

What the extension's directory must hold and must not hold: the main files, a license, no
binaries, no scripts of other languages, no minified code.  The two searches for calls and for
outdated imports go over the scripts at the top and below the library.
-/

namespace ExtensionAudit.Layout

open Segregation (libraryScripts library shownPath)

/-! ## Files -/

/-- A directory of the dependencies or of the version control lies on the way to the path. -/
def isForeign (p : Path) : Bool :=
  p.isBelow "node_modules" || p.isBelow ".git"

/-- A name that ends in one of the given texts. -/
def hasEnding (endings : List String) (name : String) : Bool :=
  endings.any fun e => Text.endsIn e.toList name.toList

/-- The files of the extension whose names pass a test, foreign directories apart. -/
def filesNamed (ext : Extension) (test : String → Bool) : List Path :=
  (ext.volume.findFiles ext.base test).filter fun p => !isForeign p

/-- The scripts at the top of the extension. -/
def topScripts (ext : Extension) : List Path :=
  let names := (ext.volume.names ext.base).filter fun name =>
    Extension.isScriptName name && !Glob.isHidden name.toList
  (names.map fun name => ext.base ++ [name]).filter ext.volume.isFile

/-- The scripts at the top, then those below the library. -/
def scripts (ext : Extension) : List Path :=
  topScripts ext ++ libraryScripts ext

/-- The name pattern that a path is when it stands in one as it is.  A backslash takes the
meaning from the character after it. -/
def unquoted : Text → Text
  | '\\' :: c :: rest =>
      if c == '*' || c == '?' || c == '[' then '[' :: c :: ']' :: unquoted rest
      else c :: unquoted rest
  | c :: rest => c :: unquoted rest
  | [] => []

/-- The searches are made: a script lies at the top or two levels below it in the library.
Characters in the directory's own path that are special in name patterns count as such. -/
def isSearched (ext : Extension) : Bool :=
  let base := unquoted ext.base.text.toList
  !(Glob.matching ext.volume false (base ++ "/*.js".toList)).isEmpty ||
    !(Glob.matching ext.volume false (base ++ "/lib/*/*.js".toList)).isEmpty

/-- The number of lines that a list of hits takes, a line for each and one more for each newline
in it. -/
def countHits (hits : List String) : Nat :=
  (hits.flatMap fun s => Text.splitAt '\n' s.toList).countP fun line => !line.isEmpty

/-- The finding for a list of hits. -/
def hitFinding (bad : Status) (check : String) (hits : List String) (found : Nat → String)
    (none : String) : Finding :=
  if hits.isEmpty then ⟨.pass, check, none⟩ else ⟨bad, check, found (countHits hits)⟩

/-- The hits for the rows that a search gives of each script. -/
def rowHits (ext : Extension) (rows : Path → List Text) : List String :=
  if isSearched ext then
    (scripts ext).flatMap fun file =>
      (rows file).map fun row => s!"  {shownPath ext file}: {String.ofList row}"
  else []

/-- The hits for files. -/
def fileHits (ext : Extension) (files : List Path) : List String :=
  files.map fun file => "  " ++ shownPath ext file

/-! ## Main files and license -/

/-- A file that must be there. -/
def mainFile (ext : Extension) (name : String) : Finding :=
  if ext.isFile [name] then ⟨.pass, s!"file-structure/{name}", s!"{name} exists"⟩
  else ⟨.fail, s!"file-structure/{name}", s!"{name} is missing"⟩

/-- The file with the license. -/
def licenseFile? (ext : Extension) : Option Path :=
  ["COPYING", "LICENSE"].findSome? fun name =>
    if ext.isFile [name] then some (ext.base ++ [name]) else none

/-- The words that name a compatible license, in lower case. -/
def licenseWords : List String :=
  ["gpl", "lgpl", "mit", "bsd", "apache", "mpl", "isc", "artistic"]

/-- A row names a compatible license, in letters of either case. -/
def namesLicense (lower : Char → Char) (row : Text) : Bool :=
  licenseWords.any fun word => Text.occursIn word.toList (row.map lower)

/-- The first five rows of a text, as they are kept. -/
def firstRows (t : Text) : List Text :=
  Text.splitAt '\n' (Text.captured (Text.join ['\n'] (t.rows.take 5)))

/-- The license. -/
def license (ext : Extension) : Finding :=
  let m := ext.volume.machine
  match licenseFile? ext with
  | none => ⟨.fail, "license", "No LICENSE or COPYING file — MUST use GPL-compatible license"⟩
  | some file =>
      if m.finds "license" file (namesLicense m.lower) (firstRows (ext.volume.plainText file)) then
        ⟨.pass, "license", "License file found (appears GPL-compatible)"⟩
      else ⟨.warn, "license", "License file found but could not confirm GPL-compatibility"⟩

/-! ## Calls and imports -/

/-- A row that logs to the console. -/
def isConsoleLog : Text → Bool :=
  Text.occursIn "console.log(".toList

/-- The row starts like a comment: after blanks there are two slashes or a star. -/
def isCommentRow (isBlank : Char → Bool) (row : Text) : Bool :=
  let t := Text.trimFrontOf isBlank row
  ['/', '/'].isPrefixOf t || ['*'].isPrefixOf t

/-- The rows of a file that log to the console, as the search shows them, less those that then
start like a comment. -/
def logRows (ext : Extension) (file : Path) : List Text :=
  (ext.volume.numberedRows file isConsoleLog).filter fun row =>
    !isCommentRow ext.volume.machine.isBlank row

/-- Logging to the console. -/
def consoleLog (ext : Extension) : Finding :=
  hitFinding .fail "no-console-log" (rowHits ext (logRows ext))
    (fun n => s!"Found {n} console.log() call(s)") "No console.log() calls found"

/-- The words for outdated modules after `from`. -/
def outdatedModules : List String :=
  ["mainloop", "bytearray", "lang", "ByteArray", "Lang", "Mainloop"]

/-- An outdated module between quotes stands at the start of a text, after `from`. -/
def startsOutdated (t : Text) : Bool :=
  "from ".toList.isPrefixOf t &&
    match t.drop 5 with
    | quote :: rest =>
        Segregation.isQuote quote && outdatedModules.any fun m =>
          m.toList.isPrefixOf rest && (rest.drop m.length).head?.any Segregation.isQuote
    | [] => false

/-- A row imports an outdated module in the new way. -/
def importsOutdated : Text → Bool
  | [] => false
  | c :: rest => startsOutdated (c :: rest) || importsOutdated rest

/-- A row that imports an outdated module. -/
def isOutdated (row : Text) : Bool :=
  importsOutdated row ||
    Segregation.holdsAny ["imports.misc.mainloop", "imports.lang", "imports.byteArray"] row

/-- Imports of outdated modules. -/
def outdated (ext : Extension) : Finding :=
  hitFinding .fail "no-deprecated-modules" (rowHits ext (ext.volume.numberedRows · isOutdated))
    (fun n => s!"Found {n} deprecated module import(s)") "No deprecated module imports found"

/-! ## Binaries and scripts -/

/-- The endings of binaries. -/
def binaryEndings : List String :=
  [".so", ".o", ".a", ".exe", ".bin", ".dll", ".dylib", ".wasm"]

/-- The endings of files that are not opened to see what they are. -/
def plainEndings : List String :=
  [".js", ".json", ".xml", ".css", ".mo", ".po", ".pot", ".md", ".txt", ".yml", ".yaml", ".sh",
    ".py", ".svg", ".png", ".jpg", ".zip", ".ui", ".policy", ".rules"]

/-- The name of a file that is opened to see what it is. -/
def isOpened (name : String) : Bool :=
  !hasEnding (binaryEndings ++ plainEndings) name && name != "LICENSE" && name != "COPYING"

/-- The file starts with the mark of an executable. -/
def isExecutable (v : Volume) (p : Path) : Bool :=
  match v.bytes p with
  | .ok bytes => bytes.take 4 == [0x7f, 0x45, 0x4c, 0x46]
  | .error _ => false

/-- The binaries of an extension. -/
def binaryHits (ext : Extension) : List String :=
  fileHits ext (filesNamed ext (hasEnding binaryEndings)) ++
    (fileHits ext ((filesNamed ext isOpened).filter (isExecutable ext.volume))).map
      (· ++ " (ELF binary)")

/-- Binaries. -/
def binaries (ext : Extension) : Finding :=
  hitFinding .fail "no-binary-files" (binaryHits ext)
    (fun n => s!"Found {n} binary file(s) — extensions MUST NOT include binaries")
    "No binary files found"

/-- A script of the extension asks for the rights of another user. -/
def asksForRights (ext : Extension) : Bool :=
  (ext.volume.findNamed ext.base Extension.isScriptName).any fun p =>
    !isForeign p && ext.volume.anyRow p (Text.occursIn "pkexec".toList)

/-- Scripts of other languages. -/
def otherScripts (ext : Extension) : Finding :=
  let hits := fileHits ext (filesNamed ext (hasEnding [".py", ".sh", ".rb", ".pl"]))
  if asksForRights ext then
    hitFinding .pass "non-gjs-scripts" hits
      (fun n =>
        s!"Found {n} non-GJS script(s) — pkexec helper detected, " ++
          "scripts support privileged operations")
      "No non-GJS scripts found"
  else
    hitFinding .fail "non-gjs-scripts" hits
      (fun n =>
        s!"Found {n} non-GJS script(s) — scripts MUST be written in GJS; " ++
          "no pkexec/privileged helper justification found")
      "No non-GJS scripts found"

/-- The file at a path may be executed. -/
def mayExecute (v : Volume) (p : Path) : Bool :=
  match v.resolve p with
  | .ok ⟨_, .file _ executable⟩ => executable
  | _ => false

/-- Shell scripts that may not be executed. -/
def permissions (ext : Extension) : Finding :=
  let files := (filesNamed ext (hasEnding [".sh"])).filter fun p => !mayExecute ext.volume p
  hitFinding .warn "script-permissions" (fileHits ext files)
    (fun n =>
      s!"Found {n} shell script(s) without execute permission — " ++
        "packaging tools may strip permissions")
    "All shell scripts have execute permission (or no shell scripts found)"

/-- Policies for the rights of users. -/
def policies (ext : Extension) : Finding :=
  hitFinding .warn "polkit-files" (fileHits ext (filesNamed ext (hasEnding [".policy", ".rules"])))
    (fun n => s!"Found {n} polkit policy/rules file(s) — requires security review")
    "No polkit policy files found"

/-! ## Minified code -/

/-- A row is longer than the bound. -/
def hasLongRow (m : Machine) (bound : Nat) (bytes : List UInt8) : Bool :=
  (Text.byteRows bytes).any fun row => m.rowLength row > bound

/-- What makes a script look like generated code. -/
def minifiedHit? (ext : Extension) (file : Path) : Option String :=
  let shown := "  " ++ shownPath ext file
  if ext.volume.anyRow file (Text.occursIn "__webpack_require__".toList) then
    some (shown ++ " (webpack bundle)")
  else
    match ext.volume.bytes file with
    | .ok bytes =>
        if hasLongRow ext.volume.machine 500 bytes then some (shown ++ " (lines > 500 chars)")
        else none
    | .error _ => none

/-- Minified code. -/
def minified (ext : Extension) : Finding :=
  hitFinding .fail "minified-js" ((scripts ext).filterMap (minifiedHit? ext))
    (fun n => s!"Found {n} minified/bundled JS file(s) — reviewers cannot review minified code")
    "No minified or bundled JavaScript detected"

/-- The findings on the layout. -/
def findings (ext : Extension) : List Finding :=
  [mainFile ext "extension.js", mainFile ext "metadata.json", license ext, consoleLog ext,
    outdated ext, binaries ext, otherScripts ext, permissions ext, policies ext, minified ext]

end ExtensionAudit.Layout
