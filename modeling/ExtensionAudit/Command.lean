import ExtensionAudit.Json.Printer
import ExtensionAudit.Lifecycle
import ExtensionAudit.Linter
import ExtensionAudit.Manifest.Sources
import ExtensionAudit.Outcome
import ExtensionAudit.Packaging
import ExtensionAudit.Preferences
import ExtensionAudit.Quality
import ExtensionAudit.Registration
import ExtensionAudit.Report
import ExtensionAudit.Resource.Tracking
import ExtensionAudit.Rule.Engine
import ExtensionAudit.Rule.Reader
import ExtensionAudit.Rule.Validation
import ExtensionAudit.Schemas
import ExtensionAudit.Segregation
import ExtensionAudit.Startup
import ExtensionAudit.Stylesheet
import ExtensionAudit.Volume.Enter
import ExtensionAudit.Waiting

/-!
# Commands

The commands of the program, each with its arguments as texts.  A command runs on a file tree in
a current directory.

The audit runs the other commands and reads the lines that they write, their messages among them.
A command that a fault ends has its results, and then those of the lines that are said of the
fault.
-/

namespace ExtensionAudit.Command

/-! ## Families of checks -/

/-- The families of checks that take a directory and report findings. -/
inductive Family where
  /-- The manifest. -/
  | manifest
  /-- How the scripts are written. -/
  | quality
  /-- Switching on and off. -/
  | lifecycle
  /-- Waiting. -/
  | waiting
  /-- The style sheet. -/
  | stylesheet
  /-- Registered classes. -/
  | registration
  /-- Startup. -/
  | startup
  /-- The preferences. -/
  | preferences
deriving DecidableEq, Repr

namespace Family

/-- The word for a family in the names of its checks. -/
def word : Family → String
  | manifest => "metadata"
  | quality => "quality"
  | lifecycle => "lifecycle"
  | waiting => "async"
  | stylesheet => "css"
  | registration => "gobject"
  | startup => "init"
  | preferences => "prefs"

/-- All families. -/
def all : List Family :=
  [manifest, quality, lifecycle, waiting, stylesheet, registration, startup, preferences]

/-- The checks of a family. -/
def check : Family → Extension → Check Unit
  | manifest => Manifest.check
  | quality => Quality.check
  | lifecycle => Lifecycle.check
  | waiting => Waiting.check
  | stylesheet => Stylesheet.check
  | registration => Registration.check
  | startup => Startup.check
  | preferences => Preferences.check

end Family

/-- Runs the checks of a family on the directory that the first argument names. -/
def runFamily (v : Volume) (here : Path) (family : Family) : List String → Outcome
  | [] =>
      { lines := [Finding.line ⟨.fail, family.word ++ "/args", "No extension directory provided"⟩]
        status := 1 }
  | dir :: _ => Outcome.ofCheck (family.check ⟨v, v.realPath here dir⟩)

/-! ## Rules -/

/-- How to use the command for rules. -/
def rulesUsage : List String :=
  ["Usage: apply-patterns.py RULES_YAML EXTENSION_DIR",
    "       apply-patterns.py --validate RULES_YAML"]

/-- The rules of the file that an argument names, or nothing if there is no such file. -/
def readRules (v : Volume) (here : Path) (file : String) : Except Fault (Option (List Rule)) := do
  let p := Path.stepsFrom here file
  if !file.isEmpty && v.isFile p then return some (Rule.readAll (← v.strictText p))
  else return none

/-- Checks the rules of a file. -/
def validateRules (v : Volume) (here : Path) (file : String) : Outcome :=
  match readRules v here file with
  | .error e => { lines := [], status := 1, fault := some e }
  | .ok none => { lines := [], messages := ["ERROR: File not found: " ++ file], status := 1 }
  | .ok (some rules) => Outcome.ofTrace (Rule.validateAll rules)

/-- Applies the rules of a file to an extension.  Without such a file nothing is done. -/
def applyRules (v : Volume) (here : Path) (file dir : String) : Outcome :=
  match readRules v here file with
  | .error e => { lines := [], status := 1, fault := some e }
  | .ok none => { lines := [] }
  | .ok (some rules) => Outcome.ofCheck (Rule.applyAll ⟨v, v.realPath here dir⟩ rules)

/-- Runs the command for rules. -/
def runRules (v : Volume) (here : Path) : List String → Outcome
  | file :: dir :: _ => if file == "--validate" then validateRules v here dir
      else applyRules v here file dir
  | _ => { lines := [], messages := rulesUsage, status := 1 }

/-! ## Resources -/

/-- The outcome for an argument that names no directory. -/
def notDirectory (p : Path) : Outcome :=
  { lines := [], messages := [s!"Error: {p.text} is not a directory"], status := 1 }

/-- What the command for the graph leaves behind: a graph, or an outcome without one. -/
def runGraph (v : Volume) (here : Path) : List String → Except Outcome Resource.Graph
  | [] => .error { lines := [], messages := ["Usage: build-resource-graph.py EXTENSION_DIR"]
                   status := 1 }
  | dir :: _ =>
      let base := v.realPath here dir
      if v.isDir base then
        match Resource.printable ⟨v, base⟩ with
        | .ok g => .ok g
        | .error e => .error { lines := [], status := 1, fault := some e }
      else .error (notDirectory base)

/-- Runs the command for orphans, with what building the graph comes to. -/
def reportDelivery (v : Volume) (here : Path) (delivery : Path → Check Unit) :
    List String → Outcome
  | [] => { lines := [], messages := ["Usage: check-resources.py EXTENSION_DIR"], status := 1 }
  | dir :: _ =>
      let base := v.realPath here dir
      if v.isDir base then Outcome.ofCheck (delivery base) else notDirectory base

/-- Runs the command for orphans. -/
def runResources (v : Volume) (here : Path) (args : List String) : Outcome :=
  reportDelivery v here (fun base => Resource.check ⟨v, base⟩) args

/-! ## Files and packages -/

/-- The families of checks that enter the directory and look at its files. -/
inductive FileFamily where
  /-- The segregation of imports. -/
  | imports
  /-- The settings schemas. -/
  | schemas
  /-- The package. -/
  | package
deriving DecidableEq, Repr

namespace FileFamily

/-- The word for a family in the names of its checks. -/
def word : FileFamily → String
  | imports => "imports"
  | schemas => "schema"
  | package => "package"

/-- All such families. -/
def all : List FileFamily := [imports, schemas, package]

/-- All that a family says on an extension, from the current directory. -/
def transcript (here : Path) (ext : Extension) : FileFamily → Transcript
  | imports => Segregation.transcript here ext
  | schemas => (Schemas.run ext).transcript
  | package => Packaging.transcript ext

end FileFamily

/-- All that a family of files says on the directory that an argument names. -/
def sayFileFamily (v : Volume) (here : Path) (family : FileFamily) (dir : String) : Transcript :=
  match v.enter here dir with
  | .ok base => family.transcript here ⟨v, base⟩
  | .error e => { remarks := (v.machine.enterNote dir).map .note, status := e.status }

/-- Runs the checks of a family of files. -/
def runFileFamily (v : Volume) (here : Path) (family : FileFamily) (args : List String) :
    Outcome :=
  (sayFileFamily v here family (args.head?.getD "")).outcome

/-! ## The whole audit -/

/-- What is asked of the audit. -/
inductive Request where
  /-- To show how to use the program. -/
  | help
  /-- To audit a directory, with the grouped report if `verbose`. -/
  | audit (verbose : Bool) (dir : String)
deriving DecidableEq, Repr

/-- The request in a list of arguments.  The last argument that is no option is the directory. -/
def Request.ofArgs (verbose : Bool) (dir : String) : List String → Request
  | [] => .audit verbose dir
  | arg :: rest =>
      if arg == "--help" || arg == "-h" then .help
      else if arg == "--verbose" || arg == "-v" then ofArgs true dir rest
      else ofArgs verbose arg rest

/-- One part of the audit. -/
inductive Part where
  /-- A family of checks. -/
  | family (f : Family)
  /-- A family of checks on files. -/
  | files (f : FileFamily)
  /-- The rules of a file. -/
  | rules
  /-- The resources. -/
  | resources
deriving DecidableEq, Repr

/-- The word for a part. -/
def Part.word : Part → String
  | .family f => f.word
  | .files f => f.word
  | .rules => "patterns"
  | .resources => "resources"

/-- The arguments of a part, with the rules in the given file. -/
def Part.args (rules : String) (ext : Extension) : Part → List String
  | .rules => [rules, ext.base.text]
  | _ => [ext.base.text]

/-- The outcome of a part on an extension. -/
def Part.outcome (rules : String) (here : Path) (ext : Extension) (part : Part) : Outcome :=
  let args := part.args rules ext
  match part with
  | .family f => runFamily ext.volume here f args
  | .files f => runFileFamily ext.volume here f args
  | .rules => applyRules ext.volume here rules ext.base.text
  | .resources => runResources ext.volume here args

/-- The lines that are said of the fault that has ended a part. -/
def Part.faultLines (rules : String) (here : Path) (ext : Extension) (part : Part) :
    List String :=
  match (part.outcome rules here ext).fault with
  | some e => ext.volume.machine.traceback part.word (part.args rules ext) e
  | none => []

/-- The lines that a part says, its messages among them. -/
def Part.said (rules : String) (here : Path) (ext : Extension) (part : Part) : List String :=
  match part with
  | .files f => (sayFileFamily ext.volume here f ext.base.text).said
  | _ =>
      (part.outcome rules here ext).lines ++ (part.outcome rules here ext).messages ++
        part.faultLines rules here ext

/-- The parts before the break in the report. -/
def firstParts : List Part := [.family .stylesheet, .rules]

/-- The parts after the break. -/
def secondParts : List Part :=
  [.family .manifest, .files .schemas, .files .imports, .family .quality, .family .lifecycle,
    .family .registration, .family .waiting, .family .preferences, .family .startup,
    .resources, .files .package]

/-- The finding where the file with the rules is missing. -/
def noRules : Finding := ⟨.skip, "pattern-rules", "rules/patterns.yaml not found"⟩

/-- The results of a part. -/
def Part.results (rules : String) (here : Path) (ext : Extension) (part : Part) :
    List Report.Result :=
  match part, readRules ext.volume here rules with
  | .rules, .ok none => [.ofFinding noRules]
  | _, _ => Report.resultsOf ext.volume.machine (part.said rules here ext)

/-- The results before the linter is run. -/
def firstResults (rules : String) (here : Path) (ext : Extension) : List Report.Result :=
  (Layout.findings ext).map Report.Result.ofFinding ++
    firstParts.flatMap (Part.results rules here ext)

/-- The results after the break. -/
def secondResults (rules : String) (here : Path) (ext : Extension) : List Report.Result :=
  secondParts.flatMap (Part.results rules here ext)

/-- The report on an extension, with the rules in the given file. -/
def audit (here : Path) (rules : String) (verbose : Bool) (ext : Extension) : Outcome :=
  match Linter.finding? ext with
  | none => Report.breakOff ext.base.text (firstResults rules here ext)
  | some linted =>
      Report.write ext.volume.machine verbose ext.base.text
        (firstResults rules here ext ++ [.ofFinding linted]) (secondResults rules here ext)

/-- Runs the audit. -/
def runAudit (v : Volume) (here : Path) (rules : String) (args : List String) : Outcome :=
  match Request.ofArgs false "" args with
  | .help => { lines := Report.help }
  | .audit verbose dir =>
      match v.enter here dir with
      | .ok base => audit here rules verbose ⟨v, base⟩
      | .error e => { lines := [], messages := v.machine.enterNote dir, status := e.status }

/-! ## Commands by name -/

/-- A command of the program. -/
inductive Tool where
  /-- A family of checks. -/
  | family (f : Family)
  /-- A family of checks on files. -/
  | files (f : FileFamily)
  /-- Applying or validating rules. -/
  | rules
  /-- The graph of resources. -/
  | graph
  /-- The orphans among the resources. -/
  | resources
  /-- The whole audit. -/
  | audit
deriving DecidableEq, Repr

namespace Tool

/-- The name of a command. -/
def word : Tool → String
  | family f => f.word
  | files f => f.word
  | rules => "patterns"
  | graph => "graph"
  | resources => "resources"
  | audit => "ego-lint"

/-- All commands. -/
def all : List Tool :=
  Family.all.map family ++ FileFamily.all.map files ++ [rules, graph, resources, audit]

/-- The command of a name. -/
def ofWord? (s : String) : Option Tool :=
  all.find? fun t => t.word == s

/-- Runs a command in a current directory, with the standard rules in the given file. -/
def run (v : Volume) (here : Path) (standard : String) : Tool → List String → Outcome
  | family f, args => runFamily v here f args
  | files f, args => runFileFamily v here f args
  | rules, args => runRules v here args
  | graph, args =>
      match runGraph v here args with
      | .ok g => { lines := splitLines (String.ofList (g.value.indented 0)) }
      | .error o => o
  | resources, args => runResources v here args
  | audit, args => runAudit v here standard args

end Tool

end ExtensionAudit.Command
