import ExtensionAudit.Path
import ExtensionAudit.Table
import ExtensionAudit.Text.Blank
import ExtensionAudit.Text.Word

/-!
# Imports

An import binds names to a module, which is named by a path from the directory of the importing
file.  There are three forms: a list of names in braces, one name for the default, and a star
with one name for all.  Only modules whose paths start with a dot belong to the extension.

The statements are looked for anywhere in a text, in comments too.  If a name is bound more than
once, the star wins over the default and the default over the list; within one form the last
statement wins.
-/

namespace ExtensionAudit.Source

/-! ## Parts of a statement -/

/-- What follows a given text. -/
def afterText? (part t : Text) : Option Text :=
  if part.isPrefixOf t then some (t.drop part.length) else none

/-- What follows one blank or more. -/
def afterBlanks? : Text → Option Text
  | [] => none
  | c :: rest => if Text.isBlank c then some (rest.dropWhile Text.isBlank) else none

/-- A word and what follows it. -/
def word? (t : Text) : Option (Text × Text) :=
  let w := t.takeWhile Text.isWord
  if w.isEmpty then none else some (w, t.drop w.length)

/-- A mark that starts or ends a string. -/
def isQuote (c : Char) : Bool := c.toNat == 39 || c.toNat == 34

/-- The path in quotes that starts with a dot and has another character, and what follows it. -/
def modulePath? : Text → Option (Text × Text)
  | [] => none
  | c :: rest =>
      let path := rest.takeWhile fun d => !isQuote d
      if isQuote c && path.head? == some '.' && path.length ≥ 2 then
        match rest.drop path.length with
        | _ :: after => some (path, after)
        | [] => none
      else none

/-- What stands in braces, if anything does, and what follows them. -/
def braced? : Text → Option (Text × Text)
  | [] => none
  | c :: rest =>
      let inner := rest.takeWhile fun d => d.toNat != 125
      if c.toNat == 123 && !inner.isEmpty then
        match rest.drop inner.length with
        | _ :: after => some (inner, after)
        | [] => none
      else none

/-- The module of an import, after the names, and what follows it. -/
def fromModule? (t : Text) : Option (Text × Text) := do
  modulePath? (← afterBlanks? (← afterText? "from".toList (← afterBlanks? t)))

/-! ## Statements -/

/-- An import: the names that it binds, and the path of the module. -/
structure Import where
  /-- The names that are bound. -/
  names : List Text
  /-- The path of the module. -/
  module : Text
deriving DecidableEq, Repr

/-- The pieces between the occurrences of a separator, where `skip` characters still belong to
the last one. -/
def piecesFrom (sep : Text) (skip : Nat) : Text → List Text
  | [] => [[]]
  | c :: rest =>
      match skip with
      | n + 1 => piecesFrom sep n rest
      | 0 =>
          if sep.isPrefixOf (c :: rest) then [] :: piecesFrom sep (sep.length - 1) rest
          else
            match piecesFrom sep 0 rest with
            | [] => [[c]]
            | piece :: more => (c :: piece) :: more

/-- The name under which an item of a list is bound: the part after the last `as`. -/
def boundName (item : Text) : Text :=
  Text.trim ((piecesFrom " as ".toList 0 (Text.trim item)).getLast?.getD [])

/-- The import of a list of names at the start of a text, and what follows it. -/
def listImport? (t : Text) : Option (Import × Text) := do
  let (inner, t) ← braced? (← afterBlanks? (← afterText? "import".toList t))
  let (module, t) ← fromModule? t
  return (⟨((Text.splitAt ',' inner).map boundName).filter (!·.isEmpty), module⟩, t)

/-- The import of the default at the start of a text, and what follows it. -/
def defaultImport? (t : Text) : Option (Import × Text) := do
  let (name, t) ← word? (← afterBlanks? (← afterText? "import".toList t))
  let (module, t) ← fromModule? t
  return (⟨[name], module⟩, t)

/-- The import of all under one name at the start of a text, and what follows it. -/
def starImport? (t : Text) : Option (Import × Text) := do
  let t ← afterText? ['*'] (← afterBlanks? (← afterText? "import".toList t))
  let t ← afterText? ['a', 's'] (← afterBlanks? t)
  let (name, t) ← word? (← afterBlanks? t)
  let (module, t) ← fromModule? t
  return (⟨[name], module⟩, t)

/-- The imports of one form in a text, from left to right.  The search goes on after each; the
first argument bounds their number. -/
def importsFrom (form? : Text → Option (Import × Text)) : Nat → Text → List Import
  | 0, _ => []
  | _, [] => []
  | fuel + 1, c :: rest =>
      match form? (c :: rest) with
      | some (found, after) => found :: importsFrom form? fuel after
      | none => importsFrom form? fuel rest

/-- The imports of one form in a text. -/
def importsOf (form? : Text → Option (Import × Text)) (t : Text) : List Import :=
  importsFrom form? (t.length + 1) t

/-! ## Names and files -/

/-- The file that a path leads to from a directory, against the directory `base`. -/
def moduleFile (base dir : Path) (module : Text) : String :=
  Path.relativeTo base (Path.walk dir (Path.components (String.ofList module)))

/-- The names that a text binds, with the files of their modules.  The text is that of `file`, and
files are given against the directory `base`. -/
def imports (base file : Path) (t : Text) : Table Text String :=
  let found := importsOf listImport? t ++ importsOf defaultImport? t ++ importsOf starImport? t
  Table.putAll [] (found.flatMap fun i =>
    i.names.map fun name => (name, moduleFile base file.parent i.module))

end ExtensionAudit.Source
