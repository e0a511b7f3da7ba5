import ExtensionAudit.Entry
import ExtensionAudit.Fault
import ExtensionAudit.Text.Blank
import ExtensionAudit.Text.Utf8

/-!
# Machines

What a run depends on besides the program and the file tree: the locale, the orders in which
directories and tables are listed, when a writer is stopped since nobody reads on, and what the
programs around this one answer.

A machine may be any, up to the laws among its fields.  So what holds on every machine holds
whatever tools are installed and however they behave.  The laws fix that the locale agrees with
ASCII and that it takes all UTF-8 for text, be it as characters or byte by byte.  Two texts are the
same on a machine only if they are equal.  The program itself is installed whole, with what runs it.
-/

namespace ExtensionAudit

/-- Why a program that was called for comes to no end of its own. -/
inductive Launch where
  /-- There is no such program. -/
  | missing
  /-- It took too long. -/
  | timedOut
  /-- It could not be started, and why. -/
  | refused (reason : String)
deriving DecidableEq, Repr

/-- What a program has printed, and its exit status. -/
structure Answer where
  /-- The exit status. -/
  status : Nat
  /-- What it has printed. -/
  printed : Text

/-- A program that looks into archives. -/
structure Unpacker where
  /-- The table of members that it prints of the archive at a path. -/
  table : Entry → Path → List UInt8
  /-- The contents that it prints of the members of a name. -/
  contents : Entry → Path → String → List UInt8

/-- A machine.  Functions of a tree and a path get the whole tree from its root. -/
structure Machine where
  /-- A blank of the locale. -/
  isBlank : Char → Bool
  /-- Below 128 all locales have the same blanks. -/
  isBlank_ascii : ∀ c : Char, c.toNat < 128 → isBlank c = Text.isAsciiBlank c
  /-- The small letter for a letter, as searches in any case take it. -/
  lower : Char → Char
  /-- The characters of a row of bytes in the encoding of the locale.  Bytes that are none are read
  as zero. -/
  read : List UInt8 → Text
  /-- Below 128 a byte is a character. -/
  read_ascii : ∀ row : List UInt8, (∀ b ∈ row, b.toNat < 128) →
    read row = row.map fun b => Char.ofNat b.toNat
  /-- The bytes are no text in the encoding of the locale. -/
  isBroken : List UInt8 → Bool
  /-- What is UTF-8 is text. -/
  isBroken_encode : ∀ t : Text, isBroken (Text.encode t) = false
  /-- How many rows of bytes that are no text a search for some rows shows before it notices. -/
  early : (Text → Bool) → List UInt8 → Nat
  /-- How long a row of bytes is to a filter of rows. -/
  rowLength : List UInt8 → Nat
  /-- What a search says of a file that is no text, or that cannot be read for the given
  cause. -/
  searchNote : String → Option Fault → List String
  /-- The rows that a search shows if its file has a name that looks like an option. -/
  optionRows : String → List Text
  /-- What is said of a name that looks like an option if its directory is asked for. -/
  optionNote : String → List String
  /-- What is said of a directory that cannot be entered. -/
  enterNote : String → List String
  /-- What can be read from the standard input. -/
  input : List UInt8
  /-- What the shell says where zero bytes are left out of a value. -/
  zeroNote : String → List String
  /-- The writer of lines for a use of a file is stopped, since the reader has ended with the
  given lines unread. -/
  isStopped : String → Path → List Text → List Text → Bool
  /-- A writer whose lines have all been read is not stopped. -/
  isStopped_nil : ∀ use file lines, isStopped use file lines [] = false
  /-- The order in which a search of directories lists what it finds. -/
  arrange : List (Path × Entry) → List (Path × Entry)
  /-- All that is found is listed, once. -/
  arrange_perm : ∀ found, (arrange found).Perm found
  /-- The order in which a table lists its keys. -/
  shuffle : List String → List String
  /-- All keys are listed, once. -/
  shuffle_perm : ∀ keys, (shuffle keys).Perm keys
  /-- What the linter of the extension in a directory answers. -/
  linter : Entry → Path → Answer
  /-- What the compiler for the schemas in a directory answers, if there is one. -/
  compiler? : Option (Entry → Path → Answer)
  /-- The names of members that the lister of archives prints, if there is one. -/
  lister? : Option (Entry → Path → List UInt8)
  /-- The unpacker, if there is one. -/
  unpacker? : Option Unpacker
  /-- A number of bytes in megabytes, as the calculator gives it. -/
  megabytes : Nat → String
  /-- Why the builder of the graph for a directory comes to no end of its own, if so. -/
  builder : Path → Option Launch
  /-- What is said of the fault that ends a command on its arguments. -/
  traceback : String → List String → Fault → List String

namespace Machine

/-- A machine with the locale C and none of the other programs.  Directories and tables are listed
in the order in which they are kept, and no writer is stopped. -/
def plain : Machine where
  isBlank := Text.isAsciiBlank
  isBlank_ascii _ _ := rfl
  lower := Char.toLower
  read row := row.map fun b => Char.ofNat b.toNat
  read_ascii _ _ := rfl
  isBroken _ := false
  isBroken_encode _ := rfl
  early _ _ := 0
  rowLength := List.length
  searchNote _ _ := []
  optionRows _ := []
  optionNote _ := []
  enterNote _ := []
  input := []
  zeroNote _ := []
  isStopped _ _ _ _ := false
  isStopped_nil _ _ _ := rfl
  arrange := id
  arrange_perm := .refl
  shuffle := id
  shuffle_perm := .refl
  linter _ _ := ⟨0, []⟩
  compiler? := none
  lister? := none
  unpacker? := none
  megabytes _ := "?"
  builder _ := none
  traceback _ _ _ := ["Traceback (most recent call last):"]

instance : Inhabited Machine := ⟨plain⟩

/-- A quiet search through the lines that a writer hands on.  It ends with the first line that
passes, and it counts as failed if that stops the writer. -/
def finds (m : Machine) (use : String) (file : Path) (test : Text → Bool) (lines : List Text) :
    Bool :=
  match lines.dropWhile fun line => !test line with
  | [] => false
  | _ :: unread => !m.isStopped use file lines unread

end Machine

end ExtensionAudit
