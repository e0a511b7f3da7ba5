import ExtensionAudit.Lifecycle.Pairs

/-!
# Access

Checks on access that calls for a closer look: the clipboard together with keys or the network,
and commands run with the rights of an administrator.
-/

namespace ExtensionAudit.Lifecycle

/-- Reports the first file with both the clipboard and key bindings. -/
def checkClipboardKeys (ext : Extension) : Check Unit := do
  let file? ← ext.firstText? (fun p t =>
    let code := Source.code t
    if hasAny ["St.Clipboard"] code && hasAny ["addKeybinding"] code then some p else none)
    ext.runtimeScripts
  match file? with
  | none => return
  | some p =>
      Check.warn "lifecycle/clipboard-keybinding"
        (s!"{p.shown}: St.Clipboard and addKeybinding() in same file — " ++
          "review whether keybinding-triggered clipboard access is intended " ++
          "and not a keylogger pattern")

/-- A call that fetches from the network. -/
def fetches (t : Text) : Bool := Source.hasWordCall "fetch" t

/-- Reports an extension with both the clipboard and the network. -/
def checkClipboardNetwork (ext : Extension) : Check Unit := do
  let texts ← runtimeCode ext
  let clipboard := texts.any fun (_, t) => hasAny ["St.Clipboard"] t
  let network := texts.any fun (_, t) => hasAny ["Soup.Session", "Gio.SocketClient"] t || fetches t
  if clipboard && network then
    Check.warn "lifecycle/clipboard-network"
      ("Extension accesses both St.Clipboard and network APIs — " ++
        "manual review required to verify clipboard data is not exfiltrated")

/-! ## Commands with the rights of an administrator -/

/-- A command in a list of arguments. -/
def listedCommand : Pattern := Pattern.of "pkexec['\"]\\s*,\\s*['\"]([^'\"]+)['\"]"

/-- A command in one string. -/
def writtenCommand : Pattern := Pattern.of "['\"]pkexec\\s+([^'\"]+)['\"]"

/-- The first word of a text. -/
def firstWord (t : Text) : Except Fault Text :=
  match (t.dropWhile Text.isBlank).takeWhile fun c => !Text.isBlank c with
  | [] => .error .outOfRange
  | word => .ok word

/-- The user can write to the place of a command. -/
def isWritable (target : Text) : Bool :=
  ["/home/", "/tmp/", "./", "../"].any fun start => start.toList.isPrefixOf target

/-- The first command that the user can write to. -/
def writable? : List (Except Fault Text) → Except Fault (Option Text)
  | [] => .ok none
  | target :: rest => do
      let target ← target
      if isWritable target then return some target else writable? rest

/-- The commands of a text: those in lists of arguments, then those in strings. -/
def commands (t : Text) : List (Except Fault Text) :=
  ((listedCommand.all t).map fun m => .ok (m.group 1)) ++
    (writtenCommand.all t).map fun m => firstWord (m.group 1)

/-- The first file with a command that the user can write to. -/
def writableCommand? (ext : Extension) : List Path → Except Fault (Option (Path × Text))
  | [] => .ok none
  | p :: rest => do
      match ← writable? (commands (Source.code (← ext.text p))) with
      | some target => return some (p, target)
      | none => writableCommand? ext rest

/-- Reports the first command that the user can write to and that runs with the rights of an
administrator. -/
def checkCommands (ext : Extension) : Check Unit := do
  match ← writableCommand? ext ext.scripts with
  | none => return
  | some (p, target) =>
      Check.fail "lifecycle/pkexec-user-writable"
        (s!"{p.shown}: pkexec target '{String.ofList target}' is user-writable — " ++
          "attacker can replace it with arbitrary code")

end ExtensionAudit.Lifecycle
