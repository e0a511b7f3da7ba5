import ExtensionAudit.Lifecycle.Basic

/-!
# Pairs of calls

Many resources come with a pair of calls, one that takes and one that gives back.  The checks
look for the first call without the second anywhere in the code.
-/

namespace ExtensionAudit.Lifecycle

/-- A pair of calls, and what is said about it. -/
structure Pair where
  /-- The name of the check. -/
  check : String
  /-- The code takes the resource. -/
  takes : Text → Bool
  /-- The code gives the resource back. -/
  gives : Text → Bool
  /-- How grave it is if nothing gives the resource back. -/
  status : Status
  /-- What is said if nothing gives the resource back. -/
  missing : String
  /-- What is said if something does. -/
  present : String

/-- Reports a pair of which only the first call is there.  Without the first call nothing is
reported. -/
def Pair.judge (pair : Pair) (texts : List (Path × Text)) : Check Unit :=
  if texts.any fun (_, t) => pair.takes t then
    if texts.any fun (_, t) => pair.gives t then Check.pass pair.check pair.present
    else Check.report pair.status pair.check pair.missing
  else pure ()

/-- Reports a pair in the scripts that run in the shell. -/
def Pair.run (pair : Pair) (ext : Extension) : Check Unit := do
  pair.judge (← runtimeCode ext)

/-- The text has one of the parts. -/
def hasAny (parts : List String) (t : Text) : Bool :=
  parts.any fun part => Text.occursIn part.toList t

/-- The text has a call with one of the names. -/
def hasAnyCall (names : List String) (t : Text) : Bool :=
  names.any fun name => Source.hasCall name t

/-! ## Waiting -/

/-- The word that marks a function that can wait. -/
def asyncWord : Pattern := Pattern.of "\\basync\\b"

/-- The word that waits. -/
def awaitWord : Pattern := Pattern.of "\\bawait\\b"

/-- The code waits. -/
def waits (t : Text) : Bool := asyncWord.found t && awaitWord.found t

/-- A flag for a destroyed object, as a whole word. -/
def destroyedWord : Pattern := Pattern.of "\\b_destroyed\\b|\\b_isDestroyed\\b"

/-- Waiting and the flag for a destroyed object. -/
def waitingGuard : Pair where
  check := "lifecycle/async-destroyed-guard"
  takes := waits
  gives := destroyedWord.found
  status := .warn
  missing := "async/await used without _destroyed or _isDestroyed guard — " ++
    "extension may act on stale state after disable()"
  present := "async/await with _destroyed guard detected"

/-! ## Proxies, monitors, sessions, processes -/

/-- The creation of a proxy. -/
def newProxy : Pattern := Pattern.of "new\\s+Gio\\.DBusProxy"

/-- Proxies and their disconnection. -/
def busProxy : Pair where
  check := "lifecycle/dbus-proxy-cleanup"
  takes t := hasAny ["Gio.DBusProxy.new_for_bus", "makeProxyWrapper"] t || newProxy.found t
  gives t := hasAny ["disconnectObject"] t || Source.hasCall ".disconnect" t
  status := .warn
  missing := "DBus proxy created but no disconnect/disconnectObject found — " ++
    "signals may leak after disable()"
  present := "DBus proxy with disconnect pattern detected"

/-- Monitors of files and their end. -/
def fileMonitor : Pair where
  check := "lifecycle/file-monitor-cleanup"
  takes := hasAnyCall [".monitor_file", ".monitor_directory", ".monitor_children"]
  gives := Source.hasCall ".cancel"
  status := .warn
  missing := "File monitor created but no .cancel() found — " ++
    "monitor will continue after disable()"
  present := "File monitor with cancel pattern detected"

/-- The creation of a process. -/
def newProcess : Pattern := Pattern.of "new\\s+Gio\\.Subprocess"

/-- An operation that is cancelled. -/
def cancelled : Pattern := Pattern.of "cancellable.*\\.cancel\\s*\\(" { anyCase := true }

/-- Processes and their end. -/
def childProcess : Pair where
  check := "lifecycle/subprocess-no-cancel"
  takes t := newProcess.found t || hasAny ["Gio.Subprocess.new", "Gio.SubprocessLauncher"] t
  gives t := hasAnyCall [".force_exit", ".send_signal"] t || cancelled.found t
  status := .warn
  missing := "Gio.Subprocess created but no .force_exit(), .send_signal(), or " ++
    "cancellable.cancel() found — subprocess may outlive disable()"
  present := "Subprocess with cancellation pattern detected"

/-- The creation of a session. -/
def newSession : Pattern := Pattern.of "new\\s+Soup\\.Session"

/-- Sessions with a server and their end. -/
def webSession : Pair where
  check := "lifecycle/soup-session-abort"
  takes t := newSession.found t || hasAny ["Soup.Session.new"] t
  gives := Source.hasCall ".abort"
  status := .warn
  missing := "Soup.Session created but no .abort() found — " ++
    "pending requests will continue after disable()"
  present := "Soup.Session with .abort() cleanup detected"

/-! ## Injections -/

/-- The creation of a manager of injections. -/
def newInjections : Pattern := Pattern.of "new\\s+InjectionManager\\s*\\("

/-- Injections and their end. -/
def injections : Pair where
  check := "lifecycle/injection-cleanup"
  takes := newInjections.found
  gives := Source.hasCall ".clear"
  status := .fail
  missing := "new InjectionManager() found but no .clear() call — " ++
    "injections will persist after disable()"
  present := "InjectionManager with .clear() cleanup detected"

/-- An assignment to a method of a prototype. -/
def prototypeMethod : Pattern := Pattern.of "(\\w+\\.prototype\\.\\w+)\\s*="

/-- An assignment to all of a prototype. -/
def wholePrototype : Pattern := Pattern.of "Object\\.assign\\s*\\(\\s*(\\w+\\.prototype)"

/-- What a text overrides in prototypes. -/
def overrides (t : Text) : List String :=
  ((prototypeMethod.all t).map fun m => String.ofList (m.group 1)) ++
    (wholePrototype.all t).map fun m => s!"Object.assign({String.ofList (m.group 1)}, ...)"

/-- The method `disable` of a main script assigns to a prototype. -/
def restoresPrototypes (t : Text) : Bool :=
  (disableBlock? t).any prototypeMethod.found

/-- Reports injections that are not cleared and prototypes that are not restored. -/
def checkInjections (ext : Extension) : Check Unit := do
  let texts ← runtimeCode ext
  injections.judge texts
  let found := texts.flatMap fun (p, t) => (overrides t).map fun override => (p, override)
  if !found.isEmpty then
    let restored := (← mainCode? ext).any restoresPrototypes
    if !restored then
      Trace.each found fun (p, override) =>
        Check.warn "lifecycle/prototype-override"
          (s!"{p.shown}: {override} — direct prototype modification " ++
            "should be restored in disable()")

/-! ## Key bindings -/

/-- The calls with a name. -/
def callCount (name : Text) : Text → Nat
  | [] => 0
  | c :: rest =>
      (if (Source.afterCall? name (c :: rest)).isSome then 1 else 0) + callCount name rest

/-- Reports key bindings that nothing removes, in all scripts. -/
def checkKeybindings (ext : Extension) : Check Unit := do
  let texts ← codeOf ext ext.scripts
  let count (name : String) : Nat := Text.total (texts.map fun (_, t) => callCount name.toList t)
  let added := count ".addKeybinding"
  let removed := count ".removeKeybinding"
  if added > 0 then
    if removed == 0 then
      Check.fail "lifecycle/keybinding-cleanup"
        (s!"{added} addKeybinding() call(s) but no removeKeybinding() — " ++
          "keybindings will leak after disable()")
    else
      Check.pass "lifecycle/keybinding-cleanup"
        s!"Keybinding balance OK ({added} add, {removed} remove)"

/-! ## Exports -/

/-- Methods that export an object on the bus. -/
def exportNames : List Text :=
  [".export".toList, ".export_action_group".toList, ".export_menu_model".toList]

/-- The character before a point shows that the point starts no call of a method. -/
def isLooseEnd (c : Char) : Bool :=
  c == ' ' || c == '\t' || c == '\n' || c == ';' || c.toNat == 123

/-- The text calls a method on an object.  `last?` is the character before the text. -/
def callsOn (name : Text) (last? : Option Char) : Text → Bool
  | [] => false
  | c :: rest =>
      ((Source.afterCall? name (c :: rest)).isSome && last?.any fun last => !isLooseEnd last) ||
        callsOn name (some c) rest

/-- Reports the first file that exports an object, if nothing in the code takes one back. -/
def checkExports (ext : Extension) : Check Unit := do
  let texts ← runtimeCode ext
  match texts.find? fun (_, t) => exportNames.any fun name => callsOn name none t with
  | none => return
  | some (p, _) =>
      if hasAnyCall [".unexport", "unexport_action_group", "unexport_menu_model"]
          (texts.flatMap (·.2)) then
        Check.pass "lifecycle/dbus-export-leak" "DBus export/unexport lifecycle OK"
      else
        Check.fail "lifecycle/dbus-export-leak"
          (s!"{p.shown}: DBus interface exported but no .unexport() found — " ++
            "exported interfaces must be unexported in disable()")

end ExtensionAudit.Lifecycle
