import ExtensionAudit.Extension
import ExtensionAudit.Pattern.Search
import ExtensionAudit.Source.Comments
import ExtensionAudit.Source.Imports
import ExtensionAudit.Source.Method

/-!
# Resources of a file

What a file does with resources: which it takes hold of, which it gives back, and which objects
of other classes it makes.  Lines are counted in the code without its comments.
-/

namespace ExtensionAudit.Resource

/-! ## Kinds -/

/-- Kinds of resources. -/
inductive Kind where
  /-- A connection to a signal. -/
  | signal
  /-- A callback of the main loop. -/
  | timeout
  /-- A widget. -/
  | widget
  /-- A proxy of an object on the bus. -/
  | dbus
  /-- A monitor of files. -/
  | filemonitor
  /-- A settings object. -/
  | gsettings
  /-- A kind that no scan finds. -/
  | other (name : String)
deriving DecidableEq, Repr

namespace Kind

/-- The word for a kind. -/
def word : Kind → String
  | signal => "signal"
  | timeout => "timeout"
  | widget => "widget"
  | dbus => "dbus"
  | filemonitor => "filemonitor"
  | gsettings => "gsettings"
  | other name => name

/-- The kinds that a scan finds, in the order of its report. -/
def scanned : List Kind := [signal, timeout, widget, dbus, filemonitor, gsettings]

end Kind

/-- What shows that a line takes hold of a resource. -/
def takers : Kind → List Pattern
  | .signal => [Pattern.of "\\.connect\\s*\\(", Pattern.of "\\.connectObject\\s*\\("]
  | .timeout =>
      [Pattern.of "timeout_add\\s*\\(", Pattern.of "idle_add\\s*\\(",
        Pattern.of "timeout_add_seconds\\s*\\("]
  | .widget =>
      [Pattern.of "new\\s+St\\.\\w+", Pattern.of "new\\s+Clutter\\.\\w+",
        Pattern.of "new\\s+PanelMenu\\.\\w+"]
  | .dbus =>
      [Pattern.of "Gio\\.DBusProxy\\.new_for_bus", Pattern.of "new\\s+Gio\\.DBusProxy",
        Pattern.of "makeProxyWrapper"]
  | .filemonitor =>
      [Pattern.of "\\.monitor_file\\s*\\(", Pattern.of "\\.monitor_directory\\s*\\(",
        Pattern.of "\\.monitor_children\\s*\\("]
  | .gsettings => [Pattern.of "\\.getSettings\\s*\\(", Pattern.of "new\\s+Gio\\.Settings\\s*\\("]
  | .other _ => []

/-- What shows that a line gives a resource back. -/
def givers : Kind → List Pattern
  | .signal => [Pattern.of "\\.disconnect\\s*\\(", Pattern.of "\\.disconnectObject\\s*\\("]
  | .timeout => [Pattern.of "Source\\.remove\\s*\\("]
  | .widget => [Pattern.of "\\.destroy\\s*\\("]
  | .dbus => [Pattern.of "\\.disconnect\\s*\\(", Pattern.of "\\.disconnectSignal\\s*\\("]
  | .filemonitor => [Pattern.of "\\.cancel\\s*\\("]
  | .gsettings => [Pattern.of "\\.disconnectObject\\s*\\(", Pattern.of "\\.disconnect\\s*\\("]
  | .other _ => []

/-! ## References -/

/-- A property that is assigned to. -/
def assigned : Pattern := Pattern.of "\\s*(this\\.\\w+)\\s*="

/-- The property that a line assigns to. -/
def storedReference? (line : Text) : Option Text :=
  (assigned.matchStart line).map fun m => m.group 1

/-- A method of a property is called. -/
def calledOn : Pattern := Pattern.of "(this[._]\\w+(?:\\._\\w+)*)\\??\\.\\w+\\s*\\("

/-- A property is the first argument of a method. -/
def passedTo : Pattern := Pattern.of "\\w+\\.\\w+\\s*\\(\\s*(this\\._\\w+)"

/-- The property that a line gives back. -/
def returnedReference? (line : Text) : Option Text :=
  match calledOn.search line with
  | some m => some (m.group 1)
  | none => (passedTo.search line).map fun m => m.group 1

/-! ## Records -/

/-- A line that takes hold of a resource. -/
structure Creation where
  /-- The line's number. -/
  line : Nat
  /-- The kind of resource. -/
  kind : Kind
  /-- The line's text, cut off. -/
  text : Text
  /-- The property that stores the resource. -/
  stored? : Option Text
deriving DecidableEq, Repr

/-- A line that gives a resource back. -/
structure Release where
  /-- The line's number. -/
  line : Nat
  /-- The kind of resource. -/
  kind : Kind
  /-- The line's text, cut off. -/
  text : Text
  /-- The property that is given back. -/
  reference? : Option Text
deriving DecidableEq, Repr

/-- A line that makes an object and stores it. -/
structure Instance where
  /-- The line's number. -/
  line : Nat
  /-- The class of the object. -/
  className : Text
  /-- The property that stores the object. -/
  stored? : Option Text
  /-- The first line that destroys the object. -/
  destroyLine? : Option Nat
deriving DecidableEq, Repr

/-- What a file does with resources. -/
structure Scan where
  /-- Resources that are taken. -/
  creations : List Creation := []
  /-- Resources that are given back. -/
  releases : List Release := []
  /-- Objects that are made. -/
  instances : List Instance := []
  /-- Names bound by imports, with their files. -/
  imports : Table Text String := []
  /-- There is a method `destroy`. -/
  hasDestroy : Bool := false
  /-- There is a method `disable`. -/
  hasDisable : Bool := false
  /-- There is a method whose name starts with `_destroy`. -/
  hasPrivateDestroy : Bool := false
  /-- Properties that are handed to a parent widget, each once and in order. -/
  childReferences : List Text := []
  /-- The code without comments. -/
  code : Text := []
deriving DecidableEq, Repr

/-! ## Scanning -/

/-- How many characters of a line are kept. -/
def textBound : Nat := 120

/-- The resources that a line takes. -/
def creationsOf (n : Nat) (line : Text) : List Creation :=
  (Kind.scanned.filter fun k => (takers k).any fun p => p.found line).map fun k =>
    ⟨n, k, line.take textBound, storedReference? line⟩

/-- The resources that a line gives back. -/
def releasesOf (n : Nat) (line : Text) : List Release :=
  (Kind.scanned.filter fun k => (givers k).any fun p => p.found line).map fun k =>
    ⟨n, k, line.take textBound, returnedReference? line⟩

/-- The making of an object. -/
def madeObject : Pattern := Pattern.of "(this[._]\\w+)\\s*=\\s*new\\s+(\\w+)\\s*\\("

/-- A call that destroys the object in a property. -/
def destroyOf (reference : Text) : Pattern :=
  Pattern.of (String.ofList (reference.flatMap fun c => if c == '.' then ['\\', '.'] else [c]) ++
    "\\??\\.destroy\\s*\\(")

/-- The first line that matches. -/
def lineOf? (p : Pattern) (lines : List (Nat × Text)) : Option Nat :=
  (lines.find? fun (_, line) => p.found line).map (·.1)

/-- The object that a line makes, where `lines` are all lines of the file. -/
def instanceOf? (lines : List (Nat × Text)) (n : Nat) (line : Text) : Option Instance :=
  (madeObject.search line).map fun m =>
    { line := n
      className := m.group 2
      stored? := some (m.group 1)
      destroyLine? := lineOf? (destroyOf (m.group 1)) lines }

/-- A property is handed to a parent widget. -/
def handedOver : Pattern :=
  Pattern.of ("\\.(?:add_child|insert_child_below|insert_child_above|" ++
    "insert_child_at_index|set_child|add_actor)\\s*\\(\\s*(this[._]\\w+)")

/-- A method whose name starts with `_destroy`. -/
def privateDestroy : Pattern :=
  Pattern.of "(?:^|\\s)_destroy\\w*\\s*\\([^)]*\\)\\s*\\\x7b" { multiline := true }

/-- The properties that lines hand to parent widgets, each once and in order. -/
def childReferences (lines : List Text) : List Text :=
  ((lines.filterMap fun line =>
    (handedOver.search line).map fun m => m.group 1).eraseDups).mergeSort fun a b =>
      !Text.precedes b a

/-- Scans the text of a file. -/
def scan (base file : Path) (t : Text) : Scan :=
  let code := Source.code t
  let lines := Text.numbered (Text.lines code)
  let trimmed := lines.map fun (n, line) => (n, Text.trim line)
  { creations := trimmed.flatMap fun (n, line) => creationsOf n line
    releases := trimmed.flatMap fun (n, line) => releasesOf n line
    instances := trimmed.filterMap fun (n, line) => instanceOf? lines n line
    imports := Source.imports base file t
    hasDestroy := (Source.method? "destroy".toList code).isSome
    hasDisable := (Source.method? "disable".toList code).isSome
    hasPrivateDestroy := privateDestroy.found code
    childReferences := childReferences (trimmed.map (·.2))
    code }

end ExtensionAudit.Resource
