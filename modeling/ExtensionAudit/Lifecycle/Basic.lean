import ExtensionAudit.Extension
import ExtensionAudit.Pattern.Search
import ExtensionAudit.Source.Block
import ExtensionAudit.Source.Comments
import ExtensionAudit.Text.Lines

/-!
# Switching on and off

The shell switches an extension on and off with its methods `enable` and `disable`.  This module
holds what the checks on them share, and the checks that both methods are there.
-/

namespace ExtensionAudit.Lifecycle

/-- The code of files, without comments. -/
def codeOf (ext : Extension) (files : List Path) : Except Fault (List (Path × Text)) := do
  return (← ext.texts files).map fun (p, t) => (p, Source.code t)

/-- The code of the scripts that run in the shell. -/
def runtimeCode (ext : Extension) : Except Fault (List (Path × Text)) :=
  codeOf ext ext.runtimeScripts

/-- The code of the main script, if there is such a file. -/
def mainCode? (ext : Extension) : Except Fault (Option Text) := do
  if ext.isFile Extension.mainScript then
    return some (Source.code (← ext.text Extension.mainScript))
  else return none

/-- The block of the method `disable`, with its closing brace. -/
def disableBlock? (t : Text) : Option Text :=
  (Source.afterMethod? "disable" t).map Source.closedBlock

/-- Reports a main script without the two methods. -/
def checkEnableDisable (ext : Extension) : Check Unit := do
  match ← mainCode? ext with
  | none => return
  | some t =>
      let enables := Source.hasWordCall "enable" t
      let disables := Source.hasWordCall "disable" t
      if !enables then
        Check.fail "lifecycle/enable-method" "extension.js missing enable() method"
      if !disables then
        Check.fail "lifecycle/disable-method" "extension.js missing disable() method"
      if enables && disables then
        Check.pass "lifecycle/enable-disable" "enable() and disable() both defined"

/-- The head of the class that a module exports by default. -/
def defaultClass : Pattern := Pattern.of "\\bexport\\s+default\\s+class\\b"

/-- Reports a main script without a class that is exported by default. -/
def checkDefaultExport (ext : Extension) : Check Unit := do
  match ← mainCode? ext with
  | none => return
  | some t =>
      if defaultClass.found t then
        Check.pass "lifecycle/default-export" "extension.js has default export class"
      else
        Check.warn "lifecycle/default-export"
          "extension.js missing 'export default class' — required for GNOME 45+"

/-- A condition under which a method is left. -/
def earlyReturn : Pattern := Pattern.of "if\\s*\\(([^)]+)\\)\\s*return\\s*;"

/-- The condition that a reference is not set. -/
def missingReference : Pattern := Pattern.of "^!\\s*this\\._\\w+$"

/-- The first condition under which a block is left, other than that a reference is not set. -/
def skipCondition? (block : Text) : Option Text :=
  ((earlyReturn.all block).map fun m => Text.trim (m.group 1)).find? fun condition =>
    (missingReference.matchStart condition).isNone

/-- Reports a method `disable` that cleans up only under a condition. -/
def checkSelectiveDisable (ext : Extension) : Check Unit := do
  match (← mainCode? ext).bind disableBlock? with
  | none => return
  | some block =>
      match skipCondition? block with
      | some condition =>
          Check.fail "lifecycle/selective-disable"
            (s!"disable() has conditional return: 'if ({String.ofList condition}) return;' — " ++
              "disable() must always clean up all resources regardless of state")
      | none =>
          Check.pass "lifecycle/selective-disable"
            "disable() does not conditionally skip cleanup"

end ExtensionAudit.Lifecycle
