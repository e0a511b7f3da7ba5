import ExtensionAudit.Extension
import ExtensionAudit.Number
import ExtensionAudit.Pattern.Search

/-!
# The manifest

What several checks read off the manifest of an extension.
-/

namespace ExtensionAudit.Manifest

/-- A string of a manifest as a message shows it.  Half of a surrogate pair cannot be shown. -/
def show? (s : Points) : Except Fault String :=
  match s.text? with
  | some t => .ok (String.ofList t)
  | none => .error .unencodable

/-- A value of a manifest as a message shows it. -/
def showValue (v : Json) : Except Fault String := show? v.shown

/-- A value of a manifest between quotes, as a message shows it. -/
def describe (v : Json) : String := String.ofList v.described

/-- The digits at the start of a text, as a number. -/
def leadingNumber? (t : Text) : Option (Except Fault Int) :=
  let ds := t.takeWhile Text.isDigit
  if ds.isEmpty then none
  else
    match Number.read? ds with
    | some n => some (.ok n)
    | none => some (.error .badValue)

/-- The declared versions of the shell that start with a number. -/
def numbersOf : List Json → Except Fault (List Int)
  | [] => .ok []
  | v :: rest => do
      match leadingNumber? v.shown.view with
      | none => numbersOf rest
      | some n => return (← n) :: (← numbersOf rest)

/-- The versions of the shell that a manifest declares. -/
def shellVersions (manifest : Json) : Except Fault (List Int) := do
  match ← manifest.member? "shell-version" with
  | some (.arr items) => numbersOf items
  | _ => return []

/-- The versions of the shell that an extension declares.  A manifest that is missing, cannot
be read or is no JSON declares none. -/
def declaredVersions (ext : Extension) : Except Fault (List Int) :=
  if !ext.isFile Extension.manifestPath then .ok []
  else
    match ext.readManifest with
    | .ok (.value v) => shellVersions v
    | .ok (.malformed ..) => .ok []
    | .error e => if e.fromFiles then .ok [] else .error e

end ExtensionAudit.Manifest
