import ExtensionAudit.Command
import ExtensionAudit.Machine.Standard
import ExtensionAudit.Rule.Catalogue
import ExtensionAudit.Rule.Printer

/-!
# The command line

The first argument names a command, the others are its arguments.  What the arguments name is
loaded from the file system before the command runs.

Who may execute a file is not known here, so every file counts as executable.
-/

namespace ExtensionAudit.Main

/-- Where the standard rules stand in the tree that a command sees. -/
def standardRules : Path := ["usr", "share", "rules", "patterns.yaml"]

/-- The link at a path, by the path that it leads to.  A link that leads nowhere becomes a link to
itself, which leads nowhere either. -/
def loadLink (d : IO.FS.DirEntry) : IO Entry := do
  try return .link (← IO.FS.realPath d.path).toString
  catch _ => return .link d.fileName

/-- Loads an entry of a directory. -/
partial def loadEntry (d : IO.FS.DirEntry) : IO Entry := do
  match (← d.path.symlinkMetadata).type with
  | .dir =>
      let entries ← (← d.path.readDir).toList.mapM fun e => return (e.fileName, ← loadEntry e)
      return .dir (entries.foldl (fun es (name, e) => Entry.insertInto name e es) [])
  | .symlink => loadLink d
  | .file =>
      try return .file (← IO.FS.readBinFile d.path).toList true
      catch _ => return .unreadable
  | .other => return .unreadable

/-- The tree with what an argument names loaded into it.  An argument that names nothing changes
nothing. -/
def loadArgument (root : Entry) (arg : String) : IO Entry := do
  try
    let real ← IO.FS.realPath arg
    match real.parent, real.fileName with
    | some parent, some name =>
        return root.place (Path.components real.toString) (← loadEntry ⟨parent, name⟩)
    | _, _ => return root
  catch _ => return root

/-- Runs a command and prints what it leaves behind. -/
def run (args : List String) : IO UInt32 := do
  let here := Path.components (← IO.currentDir).toString
  let rules := Entry.file (Text.encode (Rule.writeAll Rule.catalogue)) false
  match args with
  | word :: rest =>
      match Command.Tool.ofWord? word with
      | some tool =>
          let named := if rest.isEmpty then ["."] else rest
          let root ← named.foldlM loadArgument ((Entry.dir []).place here (.dir []))
          let volume : Volume := { root := root.place standardRules rules, machine := .standard }
          let o := tool.run volume here (Path.text standardRules) rest
          o.lines.forM IO.println
          o.messages.forM IO.eprintln
          return o.status.toUInt32
      | none =>
          IO.eprintln s!"unknown command: {word}"
          return 1
  | [] =>
      IO.eprintln ("commands: " ++ ", ".intercalate (Command.Tool.all.map Command.Tool.word))
      return 1

end ExtensionAudit.Main

/-- The program. -/
def main (args : List String) : IO UInt32 :=
  ExtensionAudit.Main.run args
