import ExtensionAudit.Text.Basic

/-!
# Paths

An absolute path is the list of its components.  A path is read off a text against a
directory: empty components and single dots are dropped, and two dots take the last
component away.
-/

namespace ExtensionAudit

/-- An absolute path, as the list of its components. -/
abbrev Path := List String

namespace Path

/-- The components of a text that is divided by slashes, without the empty ones. -/
def components (s : String) : List String :=
  ((Text.splitAt '/' s.toList).filter (!·.isEmpty)).map String.ofList

/-- The steps that a text asks for.  A slash at its end asks for a directory, which is a step to
the place itself. -/
def steps (s : String) : List String :=
  components s ++ if Text.endsIn ['/'] s.toList then ["."] else []

/-- The text starts at the root. -/
def isAbsolute (s : String) : Bool :=
  s.toList.head? == some '/'

/-- One more component, where dots stand for this and for the last directory. -/
def push (p : Path) (c : String) : Path :=
  if c == "." then p else if c == ".." then p.dropLast else p ++ [c]

/-- The path that components lead to from a directory, by their text alone. -/
def walk (p : Path) (cs : List String) : Path :=
  cs.foldl push p

/-- The steps from the root that a text asks for against a directory, taken as they are. -/
def stepsFrom (here : Path) (s : String) : Path :=
  (if isAbsolute s then [] else here) ++ steps s

/-- A path as text. -/
def text (p : Path) : String :=
  "/" ++ "/".intercalate p

/-- The components that two paths share at their front. -/
def shared : Path → Path → Nat
  | a :: p, b :: q => if a == b then shared p q + 1 else 0
  | _, _ => 0

/-- The way from a directory to a path: two dots for each step up, then the steps down. -/
def relativeTo (base p : Path) : String :=
  let n := shared base p
  let steps := List.replicate (base.length - n) ".." ++ p.drop n
  if steps.isEmpty then "." else "/".intercalate steps

/-- The last component. -/
def name (p : Path) : String := p.getLast?.getD ""

/-- The directory that holds the path. -/
def parent (p : Path) : Path := p.dropLast

end Path

end ExtensionAudit
