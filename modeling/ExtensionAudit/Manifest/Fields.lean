import ExtensionAudit.Manifest.Value

/-!
# Checks on single fields

Each check looks at one field of the manifest, or at a few that belong together, and reports what
it finds.
-/

namespace ExtensionAudit.Manifest

/-- The stable version of the shell. -/
def currentStable : Int := 49

/-- The fields that a manifest must have. -/
def requiredFields : List String := ["uuid", "name", "description", "shell-version"]

/-- Reports the required fields that are missing. -/
def checkRequired (m : Json) : Check Unit := do
  let there ← requiredFields.mapM fun f => do return (f, ← m.holds f)
  let missing := (there.filter (!·.2)).map (·.1)
  if missing.isEmpty then
    Check.pass "metadata/required-fields" "All required fields present"
  else
    Check.fail "metadata/required-fields"
      ("Missing required field(s): " ++ ", ".intercalate missing)

/-- The characters of an identifier. -/
def uuidPattern : Pattern := Pattern.of "[a-zA-Z0-9._@-]+"

/-- Checks the characters of the identifier. -/
def checkUuidFormat (uuid : Json) : Check Unit := do
  let shape ← uuid.searchable
  let shown := showValue uuid
  if (uuidPattern.matchWhole shape).isSome then
    Check.pass "metadata/uuid-format" s!"UUID format is valid: {← shown}"
  else Check.fail "metadata/uuid-format" s!"UUID contains invalid characters: {← shown}"

/-- Checks that the directory has the name of the identifier. -/
def checkUuidDirectory (uuid : Json) (dirName : String) : Check Unit := do
  if uuid.isString dirName then
    Check.pass "metadata/uuid-matches-dir" "UUID matches directory name"
  else
    Check.fail "metadata/uuid-matches-dir"
      s!"UUID '{← showValue uuid}' does not match directory '{dirName}'"

/-- Checks that the identifier is not in the namespace of the desktop itself. -/
def checkUuidNamespace (uuid : Json) : Check Unit := do
  if ← uuid.holds "@gnome.org" then
    Check.fail "metadata/uuid-no-gnome-org" "UUID must not use @gnome.org namespace"
  else Check.pass "metadata/uuid-no-gnome-org" "UUID does not use @gnome.org namespace"

/-- Checks an identifier that is there: its characters, the name of the directory and the
namespace. -/
def checkUuid (uuid : Json) (dirName : String) : Check Unit := do
  if uuid.isPresent then
    checkUuidFormat uuid
    checkUuidDirectory uuid dirName
    checkUuidNamespace uuid

/-- Checks that the identifier has a sign for the namespace. -/
def checkUuidAtSign (uuid : Json) : Check Unit := do
  if uuid.isPresent then
    if ← uuid.holds "@" then Check.pass "metadata/uuid-at-sign" "UUID contains @"
    else
      let shown ← showValue uuid
      Check.fail "metadata/uuid-at-sign"
        s!"UUID must contain @ (e.g., my-extension@username), got: {shown}"

/-- Checks that the declared versions are a list with the current one. -/
def checkShellVersionList (v : Option Json) : Check Unit := do
  match v with
  | none | some .null => return
  | some (.arr items) =>
      Check.pass "metadata/shell-version-array" "shell-version is an array"
      if items.any (·.isString "49") then
        Check.pass "metadata/shell-version-current" "shell-version includes current GNOME 49"
      else
        Check.warn "metadata/shell-version-current" "shell-version does not include GNOME 49"
  | some v =>
      Check.fail "metadata/shell-version-array"
        s!"shell-version must be an array, got {v.kind}"

/-- The value is the list that holds the default session mode alone. -/
def isDefaultModes : Option Json → Bool
  | some (.arr [v]) => v.isString "user"
  | _ => false

/-- Checks that the session modes are not the default ones. -/
def checkRedundantModes (v : Option Json) : Check Unit :=
  if isDefaultModes v then
    Check.fail "metadata/session-modes"
      "session-modes [\"user\"] is redundant and MUST be dropped — it is the EGO default"
  else Check.pass "metadata/session-modes" "No redundant session-modes key"

/-- The start that the identifier of a settings schema must have. -/
def schemaStart : String := "org.gnome.shell.extensions."

/-- Checks the start of the schema's identifier. -/
def checkSchema (v : Option Json) : Check Unit := do
  match v with
  | none | some .null => return
  | some (.str s) =>
      if schemaStart.toList.isPrefixOf s.view then
        Check.pass "metadata/settings-schema"
          s!"settings-schema has correct prefix: {← show? s}"
      else
        Check.fail "metadata/settings-schema"
          s!"settings-schema should start with org.gnome.shell.extensions., got: {← show? s}"
  | some _ => Trace.fault .noOperation

/-- The fields that a manifest may have. -/
def standardFields : List String :=
  ["uuid", "name", "description", "shell-version", "settings-schema", "gettext-domain", "url",
   "session-modes", "donations", "original-author", "version", "version-name"]

/-- Reports fields that a manifest may not have. -/
def checkFieldNames (fields : List (Points × Json)) : Check Unit := do
  let odd := (fields.map (·.1)).filter fun k =>
    !standardFields.any fun f => k == Points.ofString f
  if odd.isEmpty then
    Check.pass "metadata/non-standard-field" "No non-standard metadata fields"
  else
    Trace.each odd fun k => do
      Check.warn "metadata/non-standard-field"
        s!"'{← show? k}' is not a standard metadata field"

/-- Reports a version field, which is no longer used. -/
def checkVersionField (fields : List (Points × Json)) : Check Unit :=
  if (Json.field? fields "version").isSome then
    Check.warn "metadata/deprecated-version"
      "version field is ignored by EGO for GNOME 45+; consider removing"
  else return

/-- Checks that an extension with message catalogues names their domain. -/
def checkDomainField (ext : Extension) (fields : List (Points × Json)) : Check Unit :=
  if ext.isDir ["locale"] then
    if (Json.field? fields "gettext-domain").isSome then
      Check.pass "metadata/gettext-domain" "gettext-domain set with locale/ directory"
    else
      Check.warn "metadata/missing-gettext-domain"
        "locale/ directory exists but gettext-domain not set in metadata.json"
  else return

/-- Reports declared versions that are not out yet. -/
def checkFutureVersions (v : Option Json) : Check Unit := do
  match v with
  | some (.arr items) =>
      Trace.each items fun v => do
        match ← v.whole? with
        | some n =>
            if n > currentStable then
              Check.fail "metadata/future-shell-version"
                (s!"shell-version '{← showValue v}' is newer than current stable " ++
                  s!"({currentStable})")
        | none => return
  | _ => return

/-- The name of the desktop in any case. -/
def trademark : Pattern := Pattern.of "gnome" { anyCase := true }

/-- The identifier without its namespace. -/
def withoutNamespace (uuid : Json) : Except Fault Text := do
  if ← uuid.holds "@" then
    match uuid with
    | .str s => return Text.before '@' s.view
    | _ => throw .noOperation
  else uuid.searchable

/-- The schema's identifier names the desktop outside its usual start. -/
def schemaInfringes (v : Json) : Except Fault Bool := do
  if !v.isPresent then return false
  let t ← v.searchable
  if !trademark.found t then return false
  let start := schemaStart.toList
  return trademark.found (if start.isPrefixOf t then t.drop start.length else t)

/-- Reports fields that use the name of the desktop. -/
def checkTrademark (m : Json) : Check Unit := do
  let empty := Json.ofString ""
  let uuid := (← m.member? "uuid").getD empty
  let inUuid := trademark.found (← withoutNamespace uuid)
  let name := (← m.member? "name").getD empty
  let inName := trademark.found (← name.searchable)
  let schema := (← m.member? "settings-schema").getD empty
  let inSchema ← schemaInfringes schema
  let named (yes : Bool) (what : String) (v : Json) : List Points :=
    if yes then [Points.ofString (what ++ " '") ++ v.shown ++ Points.ofString "'"] else []
  let all := named inUuid "UUID" uuid ++ named inName "name" name ++
    named inSchema "settings-schema" schema
  if all.isEmpty then
    Check.pass "metadata/gnome-trademark" "No GNOME trademark violations in metadata"
  else
    let shown ← show? ((Points.ofString ", ").intercalate all)
    Check.fail "metadata/gnome-trademark" s!"GNOME trademark must not appear in {shown}"

/-- The names of the donation services, in order. -/
def donationServices : List String :=
  ["buymeacoffee", "custom", "github", "kofi", "liberapay", "opencollective", "patreon", "paypal"]

/-- Checks the donation links one after the other, up to the first that is wrong. -/
def checkDonationFields : List (Points × Json) → Check Unit
  | [] => Check.pass "metadata/donations" "donations field is valid"
  | (k, v) :: rest => do
      let name ← if donationServices.any fun s => k == Points.ofString s then pure none
        else pure (some (← show? k))
      match name, v with
      | some name, _ =>
          let services := ", ".intercalate donationServices
          Check.fail "metadata/donations-invalid-key"
            s!"'{name}' is not a valid donations key; valid keys: {services}"
      | none, .arr items =>
          if items.length > 3 then
            Check.fail "metadata/donations-array-length"
              s!"donations.{← show? k} array has {items.length} items (max 3)"
          else checkDonationFields rest
      | none, .str _ => checkDonationFields rest
      | none, v =>
          Check.fail "metadata/donations-value-type"
            s!"donations.{← show? k} must be a string or array, got {v.kind}"

/-- Checks the donation links. -/
def checkDonations (m : Json) : Check Unit := do
  if ← m.holds "donations" then
    match ← m.valueAt "donations" with
    | .obj [] =>
        Check.fail "metadata/donations-empty"
          "donations object is empty; drop the field entirely if unused"
    | .obj fields => checkDonationFields fields
    | _ => Check.fail "metadata/donations-format" "donations must be an object"

/-- Checks session modes one after the other, up to the first that is not known. -/
def checkModes : List Json → Check Unit
  | [] => Check.pass "metadata/session-modes-values" "session-modes values are valid"
  | v :: rest => do
      v.checkHashable
      if v.isString "user" || v.isString "unlock-dialog" then checkModes rest
      else
        Check.fail "metadata/session-modes-invalid"
          s!"Invalid session-modes value '{← showValue v}'; allowed: unlock-dialog, user"

/-- Checks that all session modes are known. -/
def checkSessionModes (m : Json) : Check Unit := do
  match ← m.member? "session-modes" with
  | some (.arr items) => checkModes items
  | _ => return

/-- The form of a version's name. -/
def versionNamePattern : Pattern := Pattern.of "(?!^[. ]+$)[a-zA-Z0-9 .]\x7b1,16\x7d"

/-- Checks the form of the version's name. -/
def checkVersionName (m : Json) : Check Unit := do
  if ← m.holds "version-name" then
    match ← m.valueAt "version-name" with
    | .str s =>
        if (versionNamePattern.matchWhole s.view).isSome then
          Check.pass "metadata/version-name-format" s!"version-name '{← show? s}' is valid"
        else
          Check.fail "metadata/version-name-format"
            (s!"version-name '{← show? s}' is invalid; must be 1-16 alphanumeric/space/dot " ++
              "characters and not only dots/spaces")
    | v =>
        Check.fail "metadata/version-name-format"
          s!"version-name must be a string, got {v.kind}"

/-- The versions of the shell that have been released. -/
def releasedVersions : List String :=
  ["3.28", "3.30", "3.32", "3.34", "3.36", "3.38", "40", "41", "42", "43", "44", "45", "46", "47",
   "48", "49", "50"]

/-- The form of a version of the shell. -/
def versionPattern : Pattern := Pattern.of "\\d+(\\.\\d+)?"

/-- A version with a part after the point. -/
def minorPattern : Pattern := Pattern.of "(\\d+)\\.(\\d+)"

/-- The major number of a version that has a part after the point and must not. -/
def needlessMinor? (t : Text) : Except Fault (Option Text) :=
  match minorPattern.matchWhole t with
  | none => .ok none
  | some found =>
      match Number.read? (found.group 1) with
      | none => .error .badValue
      | some n => .ok (if n ≥ 40 then some (found.group 1) else none)

/-- Checks declared versions one after the other, up to the first that is wrong. -/
def checkVersions : List Json → Check Unit
  | [] => Check.pass "metadata/shell-version-entries" "All shell-version entries are valid"
  | v :: rest => do
      let malformed : Check Unit :=
        Check.fail "metadata/shell-version-entry"
          s!"Invalid shell-version entry: {describe v}; expected format like '45' or '3.38'"
      match v with
      | .str s =>
          let t := s.view
          if (versionPattern.matchWhole t).isNone then malformed
          else
            match ← needlessMinor? t with
            | some major =>
                Check.fail "metadata/shell-version-minor"
                  (s!"shell-version '{← show? s}' uses minor version — " ++
                    s!"GNOME 40+ requires major-only (e.g. '{String.ofList major}')")
            | none =>
                let old := !releasedVersions.any (v.isString ·) &&
                  (Number.read? (Text.before '.' t)).any (· ≤ currentStable)
                if old then
                  Check.warn "metadata/shell-version-unknown"
                    s!"shell-version '{← show? s}' is not a known GNOME release"
                else checkVersions rest
      | _ => malformed

/-- Checks the form of all declared versions, and that they have been released. -/
def checkVersionEntries (m : Json) : Check Unit := do
  match ← m.member? "shell-version" with
  | some (.arr items) => checkVersions items
  | _ => return

/-- Reports a very short description. -/
def checkDescription (m : Json) : Check Unit := do
  match ← m.member? "description" with
  | some (.str s) =>
      if 0 < s.length && s.length < 20 then
        Check.warn "metadata/description-short"
          s!"Description is very short ({s.length} chars)"
  | _ => return

/-- Parts of the addresses of source repositories. -/
def repositoryHosts : List String :=
  ["github.com", "gitlab.", "codeberg.org", "sr.ht", "bitbucket.org", "pagure.io",
   "salsa.debian.org"]

/-- Checks that there is an address, and that it looks like a repository. -/
def checkUrl (m : Json) : Check Unit := do
  if ← m.holds "url" then
    let url ← m.valueAt "url"
    Check.pass "metadata/missing-url" "url field is present"
    match url with
    | .str s =>
        if !repositoryHosts.any fun h => Text.occursIn h.toList s.view then
          Check.warn "metadata/url-format"
            (s!"url '{← show? s}' does not appear to be a repository URL — " ++
              "EGO expects a link to the source code repository")
    | _ => return
  else
    Check.fail "metadata/missing-url"
      "metadata.json has no url field — required for EGO submission"

/-- Checks that at most one declared version is not out yet. -/
def checkDevelopmentVersions (m : Json) : Check Unit := do
  match (← m.member? "shell-version").getD (.arr []) with
  | .arr items =>
      let future := items.filter fun v => v.major?.any (· > currentStable)
      if future.length > 1 then
        let shown ← show? (← Json.joined future)
        Check.fail "metadata/shell-version-dev-limit"
          (s!"shell-version has {future.length} development releases " ++
            s!"({shown}); at most 1 allowed")
      else
        Check.pass "metadata/shell-version-dev-limit"
          "shell-version has at most 1 development release"
  | _ => return

end ExtensionAudit.Manifest
