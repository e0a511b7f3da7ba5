import ExtensionAudit.Lifecycle.Basic

/-!
# References

A reference to something that has been destroyed, or that belongs to the shell, must be let go.
The checks look for widgets and settings objects that are never set to null.
-/

namespace ExtensionAudit.Lifecycle

/-- A reference that is destroyed. -/
def destroyedReference : Pattern := Pattern.of "this\\.(_\\w+)\\??\\.\\bdestroy\\s*\\("

/-- The property of a name is set to null, as a whole word. -/
def releaseOf (name : Text) : Pattern :=
  Pattern.of ("this\\." ++ String.ofList name ++ "\\s*=\\s*null\\b")

/-- The numbers of the lines that destroy a reference and do not let it go, there or in the five
lines after. -/
def keptReferences (n : Nat) : List Text → List Nat
  | [] => []
  | line :: rest =>
      let more := keptReferences (n + 1) rest
      let kept := match destroyedReference.search (Text.trim line) with
        | some m => !(releaseOf (m.group 1)).found (Text.join ['\n'] ((line :: rest).take 6))
        | none => false
      if !Source.isCommentLine line && kept then n :: more else more

/-- Reports the first five references that are destroyed and not let go. -/
def checkDestroyThenNull (ext : Extension) : Check Unit := do
  if ext.runtimeScripts.isEmpty then return
  let places ← ext.gather (fun p t => (keptReferences 1 (Text.lines t)).map p.atLine) 5
    ext.runtimeScripts
  if places.isEmpty then
    Check.pass "lifecycle/destroy-no-null" "All destroy() calls followed by null assignment"
  else
    Trace.each places fun place =>
      Check.warn "lifecycle/destroy-no-null"
        (s!"{place}: .destroy() without null assignment — " ++
          "set reference to null after destroy to prevent stale access")

/-! ## Widgets -/

/-- The creation of a widget in a property. -/
def newWidget : Pattern :=
  Pattern.of ("this\\.(_\\w+)\\s*=\\s*new\\s+" ++
    "(St\\.\\w+|PanelMenu\\.\\w+|PopupMenu\\.\\w+|Clutter\\.\\w+)")

/-- Where a walk through the lines of the main script stands.  Both methods share one count of
open blocks. -/
structure WidgetScan where
  /-- Inside `enable`. -/
  inEnable : Bool := false
  /-- Inside `disable`. -/
  inDisable : Bool := false
  /-- Open blocks. -/
  depth : Int := 0
deriving DecidableEq, Repr

/-- One line: where the walk stands after it, and the widget that it creates in `enable`. -/
def WidgetScan.step (s : WidgetScan) (line : Text) : WidgetScan × Option Text :=
  let enables := Source.hasWordCall "enable" line
  let disables := Source.hasWordCall "disable" line
  let inEnable := s.inEnable || enables
  let inDisable := s.inDisable || disables
  let depth := if enables || disables then 0 else s.depth
  let change := Source.surplus line
  let opens := Source.opens line
  let afterEnable := if inEnable then depth + change else depth
  let afterDisable := if inDisable then afterEnable + change else afterEnable
  let created := if inEnable then (newWidget.search line).map fun m => m.group 1 else none
  ({ inEnable := inEnable && !(afterEnable ≤ 0 && opens)
     inDisable := inDisable && !(afterDisable ≤ 0 && opens)
     depth := afterDisable }, created)

/-- The widgets that the lines create in `enable`, with line numbers. -/
def widgetsFrom (n : Nat) (s : WidgetScan) : List Text → List (Text × Nat)
  | [] => []
  | line :: rest =>
      let (s, created) := s.step (Text.trim line)
      let more := widgetsFrom (n + 1) s rest
      match created with
      | some name => (name, n) :: more
      | none => more

/-- Puts a widget into a table.  A name that is there keeps its place and takes the new line. -/
def putWidget (table : List (Text × Nat)) (w : Text × Nat) : List (Text × Nat) :=
  if table.any fun e => e.1 == w.1 then table.map fun e => if e.1 == w.1 then w else e
  else table ++ [w]

/-- The widgets that a script creates in `enable`, each with the last line that does so. -/
def enableWidgets (t : Text) : List (Text × Nat) :=
  (widgetsFrom 1 {} (Text.lines t)).foldl putWidget []

/-- The widget in the property of a name is taken down. -/
def takedownOf (name : Text) : Pattern :=
  Pattern.of ("this\\." ++ String.ofList name ++
    "\\.(destroy|remove_child|remove_all_children)\\s*\\(")

/-- The property of a name is set to null. -/
def nullOf (name : Text) : Pattern :=
  Pattern.of ("this\\." ++ String.ofList name ++ "\\s*=\\s*null")

/-- The widgets of `enable` that the script never takes down nor lets go. -/
def leakedWidgets (t : Text) : List (Text × Nat) :=
  (enableWidgets t).filter fun (name, _) =>
    !(takedownOf name).found t && !(nullOf name).found t

/-- Reports widgets of `enable` that are never taken down. -/
def checkWidgetLifecycle (ext : Extension) : Check Unit := do
  match ← mainCode? ext with
  | none => return
  | some t =>
      let widgets := enableWidgets t
      let leaked := (leakedWidgets t).map fun (name, n) => s!"{String.ofList name}(L{n})"
      if widgets.isEmpty then
        Check.pass "lifecycle/widget-destroy" "No widgets tracked in enable()"
      else if leaked.isEmpty then
        Check.pass "lifecycle/widget-destroy"
          s!"All {widgets.length} widget(s) properly cleaned up"
      else
        Check.warn "lifecycle/widget-destroy"
          ("Widget(s) created in enable() but not destroyed/nulled in disable(): " ++
            ", ".intercalate (leaked.take 5))

/-! ## Settings -/

/-- The creation of a settings object in a property. -/
def newSettings : Pattern :=
  Pattern.of "this\\.(_\\w+)\\s*=\\s*(?:this\\.getSettings|new\\s+Gio\\.Settings)\\s*\\("

/-- Reports settings objects that are never let go. -/
def checkSettingsCleanup (ext : Extension) : Check Unit := do
  match ← mainCode? ext with
  | none => return
  | some t =>
      let names := (newSettings.all t).map fun m => m.group 1
      let leaked := names.filter fun name => !(nullOf name).found t
      if names.isEmpty then
        Check.pass "lifecycle/settings-cleanup" "No settings objects tracked"
      else if leaked.isEmpty then
        Check.pass "lifecycle/settings-cleanup" "All settings objects properly cleaned up"
      else
        Check.warn "lifecycle/settings-cleanup"
          ("Settings object(s) not nulled in disable(): " ++
            ", ".intercalate (leaked.map String.ofList))

end ExtensionAudit.Lifecycle
