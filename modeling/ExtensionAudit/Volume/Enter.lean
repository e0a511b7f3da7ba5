import ExtensionAudit.Volume.Rows

/-!
# Entering a directory

The directory that an argument names.  Two dots go back to the directory the text came from,
also after a link.  If that leads to no directory, links are followed first and the path is the
one without them.  The path is kept as a value, so newlines at the end of its text are lost.
-/

namespace ExtensionAudit.Volume

/-- Goes through the components of a text from a directory.  Each must lead to a directory. -/
def enterFrom (v : Volume) (here : Path) : List String → Option Path
  | [] => some here
  | c :: rest =>
      let next := here.push c
      if v.isDir next then v.enterFrom next rest else none

/-- The path that is left of a path if its text is kept as a value. -/
def kept (p : Path) : Path :=
  Path.components (String.ofList (Text.captured p.text.toList))

/-- Why no directory is entered. -/
inductive Refused where
  /-- The argument looks like an option. -/
  | option
  /-- The argument leads to no directory. -/
  | noDirectory
deriving DecidableEq, Repr

/-- The exit status of a command that cannot enter a directory. -/
def Refused.status : Refused → Nat
  | option => 2
  | noDirectory => 1

/-- The directory that an argument names from the current one.  An empty argument names the
current one. -/
def enter (v : Volume) (here : Path) (s : String) : Except Refused Path :=
  if s.toList.head? == some '-' then .error (if s.length ≤ 1 then .noDirectory else .option)
  else
    match v.enterFrom (if Path.isAbsolute s then [] else here) (Path.components s) with
    | some p => .ok (kept p)
    | none =>
        match v.resolve (Path.stepsFrom here s) with
        | .ok spot => if spot.entry.isDir then .ok (kept spot.path) else .error .noDirectory
        | .error _ => .error .noDirectory

end ExtensionAudit.Volume
