import ExtensionAudit.Source.Block
import ExtensionAudit.Text.Lines

/-!
# Scope

Which lines of a script belong to the module itself, to a constructor, or to the method that
switches the extension on.  Scope is told by the braces of whole lines.
-/

namespace ExtensionAudit.Source

/-! ## The module -/

/-- The lines from number `n` on before which no block is open, if `depth` blocks are open before
the first.  A closing brace too many closes nothing. -/
def moduleScopeFrom (n : Nat) (depth : Int) : List Text → List (Nat × Text)
  | [] => []
  | line :: rest =>
      let more := moduleScopeFrom (n + 1) (max 0 (depth + surplus line)) rest
      if depth == 0 then (n, line) :: more else more

/-- The numbered lines of a script that belong to no block. -/
def moduleScope (lines : List Text) : List (Nat × Text) :=
  moduleScopeFrom 1 0 lines

/-! ## Constructors -/

/-- Where a walk through the lines stands. -/
structure ConstructorScan where
  /-- Open blocks. -/
  depth : Int := 0
  /-- Inside the call that registers a class. -/
  registering : Bool := false
  /-- Inside a constructor. -/
  inside : Bool := false
  /-- Open blocks of the constructor. -/
  own : Int := 0
deriving DecidableEq, Repr

/-- One line: where the walk stands after it, and whether the line belongs to a constructor.
A constructor of a class that is being registered runs only on demand and does not count. -/
def ConstructorScan.step (s : ConstructorScan) (line : Text) : ConstructorScan × Bool :=
  let s := { s with
    registering := s.registering || hasCall "GObject.registerClass" line
    depth := max 0 (s.depth + surplus line) }
  if s.registering && line.contains ')' && s.depth == 0 then
    ({ s with registering := false }, false)
  else if !s.inside && hasWordCall "constructor" line then
    if s.registering then (s, false)
    else if opens line then
      ({ s with inside := surplus line > 0, own := surplus line }, true)
    else ({ s with inside := true, own := 0 }, false)
  else if s.inside then
    let own := s.own + surplus line
    ({ s with inside := own > 0, own }, true)
  else (s, false)

/-- The numbered lines that belong to a constructor, from where a walk stands. -/
def constructorLinesFrom (n : Nat) (s : ConstructorScan) : List Text → List (Nat × Text)
  | [] => []
  | line :: rest =>
      let (s, belongs) := s.step line
      let more := constructorLinesFrom (n + 1) s rest
      if belongs then (n, line) :: more else more

/-- The numbered lines of a script that belong to a constructor. -/
def constructorLines (lines : List Text) : List (Nat × Text) :=
  constructorLinesFrom 1 {} lines

/-! ## Switching on -/

/-- The numbered lines inside a method `enable`, from line `n` on.  `open?` holds the open blocks
of the method while inside it.  The line that starts the method belongs to it only if the method
also ends there. -/
def enableLinesFrom (n : Nat) (open? : Option Int) : List Text → List (Nat × Text)
  | [] => []
  | line :: rest =>
      match open? with
      | none =>
          if hasWordCall "enable" line then
            if surplus line ≤ 0 && opens line then
              (n, line) :: enableLinesFrom (n + 1) none rest
            else enableLinesFrom (n + 1) (some (surplus line)) rest
          else enableLinesFrom (n + 1) none rest
      | some depth =>
          let depth := depth + surplus line
          (n, line) :: enableLinesFrom (n + 1) (if depth ≤ 0 then none else some depth) rest

/-- The numbered lines inside a method `enable`. -/
def enableLines (lines : List Text) : List (Nat × Text) :=
  enableLinesFrom 1 none lines

end ExtensionAudit.Source
