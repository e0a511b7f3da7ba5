import ExtensionAudit.Extension
import ExtensionAudit.Pattern.Search
import ExtensionAudit.Source.Comments
import ExtensionAudit.Text.Case
import ExtensionAudit.Text.Lines

/-!
# The style sheet

A style sheet applies to the whole shell.  The checks look for classes whose names other
extensions may use too, for declarations that override all others, and for classes of the shell
itself.
-/

namespace ExtensionAudit.Stylesheet

/-- The path of the style sheet. -/
def path : Path := ["stylesheet.css"]

/-- The classes of the shell. -/
def shellClasses : List String :=
  ["panel", "panel-button", "system-status-icon", "popup-menu", "popup-menu-item",
    "popup-separator-menu-item", "popup-sub-menu", "popup-menu-section", "quick-toggle",
    "quick-settings", "quick-settings-item", "message", "message-list", "notification",
    "overview", "workspace", "search-entry", "app-well-icon", "dash", "show-apps"]

/-- The style sheet without its comments, if there is one. -/
def read? (ext : Extension) : Except Fault (Option Text) := do
  if ext.isFile path then return some (Source.dropBlocks (← ext.text path)) else return none

/-- A class at the start of a line. -/
def lineClass : Pattern := Pattern.of "^\\s*\\.([\\w-]+)" { multiline := true }

/-- The classes at the starts of lines, each once and in order. -/
def lineClasses (t : Text) : List Text :=
  (((lineClass.all t).map fun m => m.group 1).eraseDups).mergeSort fun a b => !Text.precedes b a

/-- The name of a class has no part that tells whose it is. -/
def isBare (name : Text) : Bool :=
  !name.contains '-' && !name.contains '_' &&
    !shellClasses.contains (String.ofList (Text.lower name))

/-- Reports classes with bare names. -/
def checkScoping (ext : Extension) : Check Unit := do
  match ← read? ext with
  | none => Check.skip "css/scoping" "No stylesheet.css found"
  | some t =>
      let bare := (lineClasses t).filter isBare
      if bare.isEmpty then Check.pass "css/scoping" "CSS classes appear properly scoped"
      else
        let names := (bare.take 5).map fun name => "." ++ String.ofList name
        Check.warn "css/unscoped-class"
          (s!"Found {bare.length} potentially unscoped CSS class(es): " ++
            ", ".intercalate names ++ " — add a namespace prefix to avoid conflicts")

/-- Reports declarations that override all others. -/
def checkImportant (ext : Extension) : Check Unit := do
  match ← read? ext with
  | none => return
  | some t =>
      let count := Text.occurrences "!important".toList t
      if count > 0 then
        Check.warn "css/important"
          (s!"Found {count} !important usage(s) in stylesheet.css — " ++
            "!important overrides Shell theme; prefer higher specificity")
      else Check.pass "css/important" "No !important usage"

/-- A class at the start of a text. -/
def leadingClass : Pattern := Pattern.of "^\\.([\\w-]+)"

/-- The class of the shell that a line starts with. -/
def shellClass? (line : Text) : Option String :=
  match leadingClass.matchStart (Text.trim line) with
  | some m =>
      let name := String.ofList (m.group 1)
      if shellClasses.contains name then some name else none
  | none => none

/-- Reports classes of the shell, each once. -/
def checkShellClasses (ext : Extension) : Check Unit := do
  match ← read? ext with
  | none => Check.skip "css/shell-class-override" "No stylesheet.css found"
  | some t =>
      let names := ((Text.lines t).filterMap shellClass?).eraseDups
      if names.isEmpty then
        Check.pass "css/shell-class-override" "No unscoped GNOME Shell theme class overrides"
      else
        Trace.each names fun name =>
          Check.fail "css/shell-class-override"
            (s!".{name}: overrides GNOME Shell theme class " ++
              s!"— use a scoped selector (.my-extension .{name})")

/-- All checks on the style sheet. -/
def check (ext : Extension) : Check Unit := do
  checkScoping ext
  checkImportant ext
  checkShellClasses ext

end ExtensionAudit.Stylesheet
