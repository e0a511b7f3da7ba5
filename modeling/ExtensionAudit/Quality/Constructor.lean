import ExtensionAudit.Quality.Volume
import ExtensionAudit.Source.Block

/-!
# Constructors

A constructor must not take hold of resources, since nothing gives them back.  Two kinds of
classes are excused: widgets, which live only while the extension is on, and classes that can
destroy themselves.
-/

namespace ExtensionAudit.Quality

/-- The names of classes of widgets, without their modules. -/
def widgetNames : List String :=
  ["Widget", "BoxLayout", "Button", "Label", "Bin", "Icon", "Entry", "ScrollView", "Viewport",
    "Actor", "LayoutManager", "Object", "QuickToggle", "QuickMenuToggle", "QuickSlider",
    "SystemIndicator", "ButtonBox", "PopupBaseMenuItem", "PopupMenuItem", "PopupSwitchMenuItem",
    "PopupSubMenuMenuItem", "PreferencesPage", "PreferencesGroup", "ActionRow", "ExpanderRow",
    "ComboRow", "SwitchRow", "SpinRow", "EntryRow", "Box"]

/-- What a constructor must not do, with the words for it. -/
def heldResources : List (Pattern × String) :=
  [(Pattern.of "this\\.getSettings\\s*\\(", "this.getSettings()"),
    (Pattern.of "\\.connect\\s*\\(", ".connect()"),
    (Pattern.of "\\.connectObject\\s*\\(", ".connectObject()"),
    (Pattern.of "timeout_add", "GLib.timeout_add()"),
    (Pattern.of "new\\s+Gio\\.DBusProxy", "new Gio.DBusProxy()")]

/-- The head of a constructor. -/
def constructorHead : Pattern := Pattern.of "(?:constructor|_init)\\s*\\([^)]*\\)\\s*\\\x7b"

/-- The head of a class that extends another. -/
def derivedClass : Pattern := Pattern.of "class\\s+(\\w+)\\s+extends\\s+([\\w.]+)"

/-- The head of a class. -/
def anyClass : Pattern := Pattern.of "class\\s+\\w+"

/-- The head of a class at the start of a line. -/
def nextClass : Pattern := Pattern.of "\\nclass\\s+\\w+"

/-- The last match that starts before a place. -/
def lastBefore? (ms : List Pattern.Found) (place : Nat) : Option Pattern.Found :=
  (ms.filter fun m => m.start < place).getLast?

/-- The last part of a name with dots. -/
def shortName (name : Text) : String :=
  String.ofList ((Text.splitAt '.' name).getLast?.getD [])

/-- The class around a place extends a widget. -/
def isWidgetClass (t : Text) (place : Nat) : Bool :=
  match lastBefore? (derivedClass.all t) place with
  | some m => widgetNames.contains (shortName (m.group 2))
  | none => false

/-- The class around a place can destroy itself.  The class ends where the next one starts a
line. -/
def isDestroyable (t : Text) (place : Nat) : Bool :=
  match lastBefore? (anyClass.all t) place with
  | some m =>
      let stop := match nextClass.search (t.drop place) with
        | some next => place + next.start
        | none => t.length
      (Source.afterMethod? "destroy" (Text.slice t m.start stop)).isSome
  | none => false

/-- The resources that a constructor takes hold of, each with a line number. -/
def resourcesIn (t : Text) (m : Pattern.Found) : List (Nat × String) :=
  if isWidgetClass t m.start || isDestroyable t m.start then []
  else
    let body := Source.blockBody m.rest
    let first := Text.newlines (t.take m.start) + 1
    heldResources.flatMap fun (p, name) =>
      (p.all body).map fun hit => (first + Text.newlines (body.take hit.start) + 1, name)

/-- Reports the resources that the constructors of a file take hold of, and tells whether there
are any. -/
def reportConstructors (ext : Extension) (p : Path) : Check Bool := do
  let t ← ext.text p
  let hits := (constructorHead.all t).flatMap (resourcesIn t)
  Trace.each hits fun (n, name) =>
    Check.warn "quality/constructor-resources"
      s!"{p.atLine n}: {name} in constructor — move to enable()"
  return !hits.isEmpty

/-- Reports constructors that take hold of resources. -/
def checkConstructorResources (ext : Extension) : Check Unit := do
  let found ← ext.scripts.mapM (reportConstructors ext)
  if !found.any id then
    Check.pass "quality/constructor-resources" "No resource allocation in constructors"

end ExtensionAudit.Quality
