import ExtensionAudit.Manifest.Fields
import ExtensionAudit.Source.Comments

/-!
# The manifest against the sources

Checks that compare a field of the manifest with what the scripts of the extension do, and the run
of all checks on the manifest.
-/

namespace ExtensionAudit.Manifest

/-- Reports versions of the shell that cannot load the modules of the main script. -/
def checkModuleVersions (m : Json) (ext : Extension) : Check Unit := do
  match (← m.member? "shell-version").getD (.arr []) with
  | .arr items =>
      let old := items.filter fun v => v.major?.any fun n => 40 ≤ n && n < 45
      if !old.isEmpty && ext.isFile Extension.mainScript then
        let t ← ext.text Extension.mainScript
        if Text.occursIn "import ".toList t && Text.occursIn "from ".toList t then
          let shown ← show? (← Json.joined old)
          Check.fail "metadata/shell-version-esm-floor"
            (s!"shell-version includes pre-ESM version(s) ({shown}) " ++
              "but extension uses ESM imports (GNOME 45+ only)")
  | _ => return

/-- A use of the session's mode. -/
def modeUse : Pattern := Pattern.of "sessionMode\\.(currentMode|isLocked)"

/-- The lines of a text that use the session's mode outside of comments. -/
def modeLines (t : Text) : List Nat :=
  (Text.numbered (Text.newlineLines t)).filterMap fun (n, line) =>
    if !Source.isCommentLine line && modeUse.found line then some n else none

/-- Reports scripts that ask for the session's mode though the extension does not run on the
lock screen.  Files that cannot be read are passed over. -/
def checkModeUse (m : Json) (ext : Extension) : Check Unit := do
  let declared := match ← m.member? "session-modes" with
    | some (.arr items) => items.any (·.isString "unlock-dialog")
    | _ => false
  if declared then
    Check.pass "metadata/session-modes-consistency" "session-modes includes 'unlock-dialog'"
  else
    let files := (ext.volume.walk (fun _ => false) ext.base).filter fun p =>
      Extension.isScriptName p.name
    let uses := files.flatMap fun p =>
      match ext.text p with
      | .ok t => (modeLines t).map fun n => s!"{p.shown}:{n}"
      | .error _ => []
    if uses.isEmpty then
      Check.pass "metadata/session-modes-consistency"
        "No sessionMode references without matching declaration"
    else
      Trace.each uses fun place =>
        Check.warn "metadata/session-modes-consistency"
          (s!"{place}: references sessionMode but metadata.json does not " ++
            "declare session-modes with 'unlock-dialog'")

/-- A look-up in a message domain. -/
def domainUse : Pattern := Pattern.of "dgettext\\s*\\(\\s*['\"]([^'\"]+)['\"]"

/-- The lines of a text that use another message domain, with the domain. -/
def otherDomains (domain : Json) (t : Text) : List (Nat × Text) :=
  (Text.numbered (Text.newlineLines t)).filterMap fun (n, line) =>
    match domainUse.search line with
    | some found =>
        if domain.isString (String.ofList (found.group 1)) then none else some (n, found.group 1)
    | none => none

/-- Reports scripts that look texts up in another message domain than the declared one. -/
def checkDomainUse (m : Json) (ext : Extension) : Check Unit := do
  match ← m.member? "gettext-domain" with
  | none => return
  | some domain =>
      if domain.isPresent then
        let found ← Trace.collect ext.scripts fun p => do
          return (otherDomains domain (← ext.text p)).map fun (n, d) => (p, n, d)
        if found.isEmpty then
          Check.pass "metadata/gettext-domain-consistency"
            s!"gettext-domain '{← showValue domain}' consistent with JS usage"
        else
          let shown ← showValue domain
          let all := (found.take 3).map fun (p, n, d) =>
            s!"{p.shown}:{n} uses '{String.ofList d}' instead of '{shown}'"
          Check.warn "metadata/gettext-domain-mismatch"
            ("gettext-domain mismatch: " ++ "; ".intercalate all)

/-- All checks on a manifest that is an object. -/
def checkFields (ext : Extension) (m : Json) (fields : List (Points × Json)) : Check Unit := do
  let uuid := (Json.field? fields "uuid").getD (Json.ofString "")
  checkUuid uuid ext.dirName
  checkShellVersionList (Json.field? fields "shell-version")
  checkRedundantModes (Json.field? fields "session-modes")
  checkSchema (Json.field? fields "settings-schema")
  checkUuidAtSign uuid
  checkFieldNames fields
  checkVersionField fields
  checkDomainField ext fields
  checkFutureVersions (Json.field? fields "shell-version")
  checkTrademark m
  checkDonations m
  checkSessionModes m
  checkVersionName m
  checkVersionEntries m
  checkDescription m
  checkUrl m
  checkDevelopmentVersions m
  checkModuleVersions m ext
  checkModeUse m ext
  checkDomainUse m ext

/-- All checks on the manifest of an extension. -/
def check (ext : Extension) : Check Unit := do
  if !ext.isFile Extension.manifestPath then
    Check.fail "metadata/exists" "metadata.json not found"
  else
    match ← ext.readManifest with
    | .malformed t cause place =>
        Check.fail "metadata/valid-json" ("Invalid JSON: " ++ Json.placeMessage t cause place)
    | .value m =>
        Check.pass "metadata/valid-json" "metadata.json is valid JSON"
        checkRequired m
        match m with
        | .obj fields => checkFields ext m fields
        | _ => Trace.fault .noOperation

end ExtensionAudit.Manifest
