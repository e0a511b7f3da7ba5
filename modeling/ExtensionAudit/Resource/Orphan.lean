import ExtensionAudit.Resource.Ownership

/-!
# Orphans

An orphan is a resource of an owned file that nothing gives back.  There are three cases.

* The file has no method that cleans up.
* The file that owns it never destroys it.  If several files own it, the last one counts.
* The resource is stored in a property, and no line of the file that gives something back names
  this property, nor does a method that cleans up set it to null.

In the third case a widget that is handed to a parent widget is no orphan, and neither is a class
of proxies.  A resource that is not stored cannot be followed and is let pass.
-/

namespace ExtensionAudit.Resource

/-- Why a resource is an orphan. -/
inductive Cause where
  /-- The file has no method that cleans up. -/
  | noMethod
  /-- The owner never destroys the object. -/
  | notCalled
  /-- The property is never cleaned up. -/
  | notCleaned (reference : Text)
deriving DecidableEq, Repr

/-- The words for a cause. -/
def Cause.words (file : String) : Cause → String
  | .noMethod => s!"no destroy()/disable() method in {file}"
  | .notCalled => s!"parent does not call destroy() on {file}"
  | .notCleaned reference => s!"{String.ofList reference} created but not cleaned up in destroy()"

/-- A resource that nothing gives back. -/
structure Orphan where
  /-- The file. -/
  file : String
  /-- The line that takes the resource. -/
  creation : Creation
  /-- Why it is an orphan. -/
  cause : Cause
deriving DecidableEq, Repr

/-- The last file that owns a file. -/
def parent? (own : Ownership) (file : String) : Option String :=
  ((edges own).filter fun (_, source) => source == file).getLast?.map (·.1)

/-- An owner destroys an object whose class a file defines.  An owner without a name does not. -/
def destroys (own : Ownership) (owner file : String) : Bool :=
  !owner.isEmpty && ((own.get? owner).getD []).any fun (_, o) =>
    o.source? == some file && o.destroyedLine?.isSome

/-- The file has a method that cleans up. -/
def Scan.hasCleanup (scan : Scan) : Bool :=
  scan.hasDestroy || scan.hasDisable || scan.hasPrivateDestroy

/-- A property is set to null. -/
def nullAssignment : Pattern := Pattern.of "(this[._]\\w+)\\s*=\\s*null"

/-- The properties that the methods that clean up set to null. -/
def releasedReferences (code : Text) : List Text :=
  ["destroy", "disable", "_destroy"].flatMap fun name =>
    match Source.method? name.toList code with
    | some m => (nullAssignment.all m.body).map fun found => found.group 1
    | none => []

/-- A line gives a property back: it names the property or has it in its text. -/
def Release.frees (r : Release) (reference : Text) : Bool :=
  match given? r.reference? with
  | some other => other == reference || Text.occursIn reference r.text
  | none => false

/-- The resource needs no cleanup of its own. -/
def Creation.isExempt (c : Creation) (scan : Scan) (reference : Text) : Bool :=
  (c.kind == .widget && scan.childReferences.contains reference) ||
    (c.kind == .dbus && Text.occursIn "makeProxyWrapper".toList c.text)

/-- The property under which a resource stays, if the file never gives it back. -/
def Creation.leak? (c : Creation) (scan : Scan) : Option Text :=
  (given? c.stored?).filter fun reference =>
    !c.isExempt scan reference && !(scan.releases.any fun r => r.frees reference) &&
      !(releasedReferences scan.code).contains reference

/-- The orphans of a file with a given parent. -/
def orphansOf (own : Ownership) (file : String) (scan : Scan) (parent : String) : List Orphan :=
  if !scan.hasCleanup then scan.creations.map fun c => ⟨file, c, .noMethod⟩
  else if !destroys own parent file then scan.creations.map fun c => ⟨file, c, .notCalled⟩
  else scan.creations.filterMap fun c => (c.leak? scan).map fun reference =>
    ⟨file, c, .notCleaned reference⟩

/-- The orphans of all files, in the order of the scans. -/
def orphans (scans : Scans) (own : Ownership) : List Orphan :=
  scans.flatMap fun (file, scan) =>
    match parent? own file with
    | some parent => orphansOf own file scan parent
    | none => []

end ExtensionAudit.Resource
