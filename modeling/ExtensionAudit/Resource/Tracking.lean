import ExtensionAudit.Json.Printer
import ExtensionAudit.Manifest.Value
import ExtensionAudit.Resource.Graph

/-!
# Reporting orphans

The graph comes as a JSON text from whoever has built it.  The report has a warning for each
orphan and a line that sums up.
-/

namespace ExtensionAudit.Resource

/-- What building the graph can come to. -/
inductive Delivery where
  /-- There is no builder. -/
  | noBuilder
  /-- The builder took too long. -/
  | timedOut
  /-- The builder could not be started, and why. -/
  | notStarted (reason : String)
  /-- The builder failed with a message. -/
  | failed (message : Text)
  /-- What the builder has written. -/
  | written (text : Text)

/-- The field of an object, or a value in its place. -/
def memberOr (v : Json) (name : String) (d : Json) : Except Fault Json := do
  return (← v.member? name).getD d

/-- The check that an orphan of a kind belongs to. -/
def kindCheck (kind : Json) : Except Fault String := do
  kind.checkHashable
  return "resource-tracking/orphan-" ++ (← Manifest.showValue kind)

/-- The check that an orphan belongs to, and what is said of it. -/
def classify (orphan : Json) : Except Fault (String × String) := do
  let reason ← memberOr orphan "reason" (Json.ofString "")
  let kind ← memberOr orphan "type" (Json.ofString "")
  let file ← memberOr orphan "file" (Json.ofString "")
  let line ← memberOr orphan "line" (Json.ofString "?")
  let check ←
    if ← reason.holds "no destroy()/disable() method" then
      pure "resource-tracking/no-destroy-method"
    else if ← reason.holds "parent does not call destroy()" then
      pure "resource-tracking/destroy-not-called"
    else kindCheck kind
  let place := s!"{← Manifest.showValue file}:{← Manifest.showValue line}"
  return (check, s!"{place} — {← Manifest.showValue reason}")

/-- The items of a value that a report goes through: those of a list, the names of an object's
fields, the characters of a string. -/
def itemsOf (v : Json) : Except Fault (List Json) :=
  match v with
  | .arr items => .ok items
  | .obj fields => .ok (fields.map fun (name, _) => .str name)
  | .str s => .ok (s.map fun c => .str [c])
  | _ => .error .wrongKind

/-- How many items a value has. -/
def sizeOf (v : Json) : Except Fault Nat := do
  return (← itemsOf v).length

/-- The value is the number. -/
def isNumber (v : Json) (n : Int) : Bool :=
  match v with
  | .int m => m == n
  | .bool b => (if b then 1 else 0) == n
  | .float x => x == Float.ofInt n
  | _ => false

/-- The check for the line that sums up. -/
def ownershipCheck : String := "resource-tracking/ownership"

/-- Reports a graph. -/
def reportGraph (g : Json) : Check Unit := do
  let orphans ← memberOr g "orphans" (.arr [])
  let summary ← memberOr g "summary" (.obj [])
  let files ← memberOr summary "files_scanned" (.int 0)
  let depth ← memberOr summary "ownership_depth" (.int 0)
  let count ← memberOr summary "orphan_count" (.int (← sizeOf orphans))
  Trace.each (← itemsOf orphans) fun orphan => do
    let (check, detail) ← classify orphan
    Check.warn check detail
  let scanned := s!"{← Manifest.showValue files} files scanned, depth {← Manifest.showValue depth}"
  if isNumber count 0 then Check.pass ownershipCheck s!"{scanned}, 0 orphans"
  else
    let ending := if isNumber count 1 then "" else "s"
    Check.warn ownershipCheck
      s!"{scanned}, {← Manifest.showValue count} orphan{ending} detected"

/-- A message on one line, cut off. -/
def oneLine (message : Text) : String :=
  String.ofList (((Text.trim message).map fun c => if c == '\n' then ' ' else c).take 200)

/-- Reports what building the graph has come to. -/
def Delivery.report : Delivery → Check Unit
  | .noBuilder => Check.skip ownershipCheck "build-resource-graph.py not found"
  | .timedOut => Check.skip ownershipCheck "build-resource-graph.py timed out (30s)"
  | .notStarted reason =>
      Check.skip ownershipCheck s!"failed to run build-resource-graph.py: {reason}"
  | .failed message =>
      Check.skip ownershipCheck s!"build-resource-graph.py failed: {oneLine message}"
  | .written text =>
      match Json.read text with
      | .ok g => reportGraph g
      | .error (.malformed cause place) =>
          Check.skip ownershipCheck
            ("failed to parse graph JSON: " ++ Json.placeMessage text cause place)
      | .error (.tooManyDigits digits) =>
          Check.skip ownershipCheck
            ("failed to parse graph JSON: Exceeds the limit (4300 digits) for integer " ++
              s!"string conversion: value has {digits} digits; " ++
              "use sys.set_int_max_str_digits() to increase the limit")
      | .error .tooDeep => Trace.fault .tooDeep

/-- What building the graph of an extension comes to. -/
def delivery (ext : Extension) : Delivery :=
  let m := ext.volume.machine
  match m.builder ext.base with
  | some .missing => .noBuilder
  | some .timedOut => .timedOut
  | some (.refused reason) => .notStarted reason
  | none =>
      match printable ext with
      | .ok g => .written (g.value.indented 0 ++ ['\n'])
      | .error e =>
          .failed ((m.traceback "graph" [ext.base.text] e).flatMap fun line =>
            line.toList ++ ['\n'])

/-- Has the graph of an extension built and reports it. -/
def check (ext : Extension) : Check Unit :=
  (delivery ext).report

end ExtensionAudit.Resource
