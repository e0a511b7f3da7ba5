import Mathlib
import ExtensionAudit.Manifest.Sources
import ExtensionAudit.Proofs.Verdict

/-!
# Verdicts on the manifest

Each check on the manifest reports on names of its own, and what it reports is consistent.  Some
checks go through the entries of a field and stop at the first that is wrong; these report once.
-/

namespace ExtensionAudit.Manifest

open Finding Trace Check

/-! ## The identifier -/

theorem sound_checkRequired (m : Json) :
    (checkRequired m).Writes (Sound ["metadata/required-fields"]) := by
  apply writes_after_silent
  · apply mapM_silent
    intro field
    exact writes_lift fun _ _ => writes_pure rfl
  · intro there
    exact sound_either

/-- The three checks of the UUID have a name each. -/
theorem sound_checkUuid (uuid : Json) (dirName : String) :
    (checkUuid uuid dirName).Writes (Sound ["metadata/uuid-format", "metadata/uuid-matches-dir",
      "metadata/uuid-no-gnome-org"]) := by
  have hformat : (checkUuidFormat uuid).Writes (Sound ["metadata/uuid-format"]) := by
    apply writes_lift
    intro shape _
    apply writes_ite
    · exact writes_lift fun _ _ => sound_report
    · exact writes_lift fun _ _ => sound_report
  have hdirectory : (checkUuidDirectory uuid dirName).Writes
      (Sound ["metadata/uuid-matches-dir"]) := by
    apply writes_ite
    · exact sound_report
    · exact writes_lift fun _ _ => sound_report
  have hnamespace : (checkUuidNamespace uuid).Writes (Sound ["metadata/uuid-no-gnome-org"]) :=
    writes_lift fun _ _ => sound_either
  apply sound_if
  exact sound_then hformat (sound_then hdirectory hnamespace (by decide)) (by decide)

theorem sound_checkUuidAtSign (uuid : Json) :
    (checkUuidAtSign uuid).Writes (Sound ["metadata/uuid-at-sign"]) := by
  apply sound_if
  apply writes_lift
  intro holds _
  apply writes_ite
  · exact sound_report
  · exact writes_lift fun _ _ => sound_report

/-! ## Single fields -/

theorem sound_checkShellVersionList (v : Option Json) :
    (checkShellVersionList v).Writes
      (Sound ["metadata/shell-version-array", "metadata/shell-version-current"]) := by
  rw [checkShellVersionList.eq_def]
  split
  · exact writes_pure sound_nil
  · exact writes_pure sound_nil
  · exact sound_then sound_report sound_either (by decide)
  · exact sound_report_of_mem (by decide)

theorem sound_checkRedundantModes (v : Option Json) :
    (checkRedundantModes v).Writes (Sound ["metadata/session-modes"]) :=
  sound_either

theorem sound_checkSchema (v : Option Json) :
    (checkSchema v).Writes (Sound ["metadata/settings-schema"]) := by
  rw [checkSchema.eq_def]
  split
  · exact writes_pure sound_nil
  · exact writes_pure sound_nil
  · apply writes_ite
    · exact writes_lift fun _ _ => sound_report
    · exact writes_lift fun _ _ => sound_report
  · exact writes_fault

theorem sound_checkFieldNames (fields : List (Points × Json)) :
    (checkFieldNames fields).Writes (Sound ["metadata/non-standard-field"]) := by
  apply sound_settled
  apply settled_pass_or_each
  intro k _
  exact writes_lift fun _ _ => alarms_warn

theorem sound_checkVersionField (fields : List (Points × Json)) :
    (checkVersionField fields).Writes (Sound ["metadata/deprecated-version"]) :=
  sound_if sound_report

theorem sound_checkDomainField (ext : Extension) (fields : List (Points × Json)) :
    (checkDomainField ext fields).Writes
      (Sound ["metadata/gettext-domain", "metadata/missing-gettext-domain"]) := by
  apply sound_if
  apply writes_ite
  · exact sound_report_of_mem (by decide)
  · exact sound_report_of_mem (by decide)

theorem sound_checkFutureVersions (v : Option Json) :
    (checkFutureVersions v).Writes (Sound ["metadata/future-shell-version"]) := by
  rw [checkFutureVersions.eq_def]
  split
  · refine (writes_each ?_).mono fun _ hfs => sound_of_forall_alarm hfs
    intro item _
    apply writes_lift
    intro whole _
    cases whole with
    | none => exact writes_pure (by simp)
    | some n =>
        apply writes_ite
        · apply writes_lift
          intro shown _
          exact alarms_fail.mono fun _ hfs => hfs.all
        · exact writes_pure (by simp)
  · exact writes_pure sound_nil

theorem sound_checkTrademark (m : Json) :
    (checkTrademark m).Writes (Sound ["metadata/gnome-trademark"]) := by
  refine writes_lift fun uuid _ => writes_lift fun name _ => writes_lift fun _ _ =>
    writes_lift fun _ _ => writes_lift fun _ _ => writes_lift fun _ _ => ?_
  apply writes_ite
  · exact sound_report
  · exact writes_lift fun _ _ => sound_report

theorem sound_checkVersionName (m : Json) :
    (checkVersionName m).Writes (Sound ["metadata/version-name-format"]) := by
  apply writes_lift
  intro holds _
  apply sound_if
  apply writes_lift
  intro v _
  split
  · apply writes_ite
    · exact writes_lift fun _ _ => sound_report
    · exact writes_lift fun _ _ => sound_report
  · exact sound_report

theorem sound_checkDescription (m : Json) :
    (checkDescription m).Writes (Sound ["metadata/description-short"]) := by
  apply writes_lift
  intro v _
  split
  · exact sound_if sound_report
  · exact writes_pure sound_nil

theorem sound_checkUrl (m : Json) :
    (checkUrl m).Writes (Sound ["metadata/missing-url", "metadata/url-format"]) := by
  apply writes_lift
  intro holds _
  apply writes_ite
  · apply writes_lift
    intro url _
    refine sound_then sound_report ?_ (by decide)
    split
    · apply sound_if
      exact writes_lift fun _ _ => sound_report
    · exact writes_pure sound_nil
  · exact sound_report_of_mem (by decide)

theorem sound_checkDevelopmentVersions (m : Json) :
    (checkDevelopmentVersions m).Writes (Sound ["metadata/shell-version-dev-limit"]) := by
  apply writes_lift
  intro v _
  split
  · apply writes_ite
    · exact writes_lift fun _ _ => writes_lift fun _ _ => sound_report
    · exact sound_report
  · exact writes_pure sound_nil

/-! ## Fields with entries -/

/-- The names of the checks on donation links. -/
def donationNames : List String :=
  ["metadata/donations", "metadata/donations-invalid-key", "metadata/donations-array-length",
    "metadata/donations-value-type", "metadata/donations-empty", "metadata/donations-format"]

/-- The first platform that fails ends the check, and otherwise all pass together. -/
theorem sound_checkDonationFields (fields : List (Points × Json)) :
    (checkDonationFields fields).Writes (Sound donationNames) := by
  induction fields with
  | nil => exact sound_report_of_mem (by decide)
  | cons field rest ih =>
      obtain ⟨k, v⟩ := field
      rw [checkDonationFields]
      apply writes_ite
      · rw [pure_bind]
        cases v with
        | arr items =>
            apply writes_ite
            · exact writes_lift fun _ _ => sound_report_of_mem (by decide)
            · exact ih
        | str s => exact ih
        | null => exact writes_lift fun _ _ => sound_report_of_mem (by decide)
        | bool b => exact writes_lift fun _ _ => sound_report_of_mem (by decide)
        | int n => exact writes_lift fun _ _ => sound_report_of_mem (by decide)
        | float x => exact writes_lift fun _ _ => sound_report_of_mem (by decide)
        | obj fields => exact writes_lift fun _ _ => sound_report_of_mem (by decide)
      · apply writes_lift
        intro name _
        rw [pure_bind]
        exact sound_report_of_mem (by decide)

theorem sound_checkDonations (m : Json) : (checkDonations m).Writes (Sound donationNames) := by
  apply writes_lift
  intro holds _
  apply sound_if
  apply writes_lift
  intro v _
  split
  · exact sound_report_of_mem (by decide)
  · exact sound_checkDonationFields _
  · exact sound_report_of_mem (by decide)

/-- The names of the checks on session modes. -/
def modeNames : List String := ["metadata/session-modes-values", "metadata/session-modes-invalid"]

theorem sound_checkModes (modes : List Json) : (checkModes modes).Writes (Sound modeNames) := by
  induction modes with
  | nil => exact sound_report_of_mem (by decide)
  | cons v rest ih =>
      apply writes_lift
      intro _ _
      apply writes_ite
      · exact ih
      · exact writes_lift fun _ _ => sound_report_of_mem (by decide)

theorem sound_checkSessionModes (m : Json) :
    (checkSessionModes m).Writes (Sound modeNames) := by
  apply writes_lift
  intro v _
  split
  · exact sound_checkModes _
  · exact writes_pure sound_nil

/-- The names of the checks on declared versions. -/
def versionNames : List String :=
  ["metadata/shell-version-entries", "metadata/shell-version-entry",
    "metadata/shell-version-minor", "metadata/shell-version-unknown"]

/-- The first version that is flagged ends the check, and otherwise all pass together. -/
theorem sound_checkVersions (versions : List Json) :
    (checkVersions versions).Writes (Sound versionNames) := by
  induction versions with
  | nil => exact sound_report_of_mem (by decide)
  | cons v rest ih =>
      rw [checkVersions.eq_def]
      dsimp only
      split
      · apply writes_ite
        · exact sound_report_of_mem (by decide)
        · apply writes_lift
          intro minor _
          cases minor with
          | some major => exact writes_lift fun _ _ => sound_report_of_mem (by decide)
          | none =>
              apply writes_ite
              · exact writes_lift fun _ _ => sound_report_of_mem (by decide)
              · exact ih
      · exact sound_report_of_mem (by decide)

theorem sound_checkVersionEntries (m : Json) :
    (checkVersionEntries m).Writes (Sound versionNames) := by
  apply writes_lift
  intro v _
  split
  · exact sound_checkVersions _
  · exact writes_pure sound_nil

/-! ## The manifest against the sources -/

theorem sound_checkModuleVersions (m : Json) (ext : Extension) :
    (checkModuleVersions m ext).Writes (Sound ["metadata/shell-version-esm-floor"]) := by
  apply writes_lift
  intro v _
  split
  · apply sound_if
    apply writes_lift
    intro t _
    apply sound_if
    exact writes_lift fun _ _ => writes_lift fun _ _ => sound_report
  · exact writes_pure sound_nil

theorem sound_checkModeUse (m : Json) (ext : Extension) :
    (checkModeUse m ext).Writes (Sound ["metadata/session-modes-consistency"]) := by
  apply writes_lift
  intro v _
  apply writes_ite
  · exact sound_report
  · exact sound_settled (settled_pass_or_each fun _ _ => alarms_warn)

theorem sound_checkDomainUse (m : Json) (ext : Extension) :
    (checkDomainUse m ext).Writes
      (Sound ["metadata/gettext-domain-consistency", "metadata/gettext-domain-mismatch"]) := by
  apply writes_lift
  intro v _
  cases v with
  | none => exact writes_pure sound_nil
  | some domain =>
      apply sound_if
      apply writes_after_silent
      · apply writes_after_silent
        · apply mapM_silent
          intro p
          exact writes_lift fun _ _ => writes_pure rfl
        · intro found
          exact writes_pure rfl
      · intro found
        apply writes_ite
        · exact writes_lift fun _ _ => sound_report_of_mem (by decide)
        · exact writes_lift fun _ _ => sound_report_of_mem (by decide)

/-! ## The whole run -/

/-- The checks on a manifest that is an object, in their order. -/
def fieldChecks (ext : Extension) (m : Json) (fields : List (Points × Json)) : List (Check Unit) :=
  let uuid := (Json.field? fields "uuid").getD (Json.ofString "")
  [checkUuid uuid ext.dirName, checkShellVersionList (Json.field? fields "shell-version"),
    checkRedundantModes (Json.field? fields "session-modes"),
    checkSchema (Json.field? fields "settings-schema"), checkUuidAtSign uuid,
    checkFieldNames fields, checkVersionField fields, checkDomainField ext fields,
    checkFutureVersions (Json.field? fields "shell-version"), checkTrademark m, checkDonations m,
    checkSessionModes m, checkVersionName m, checkVersionEntries m, checkDescription m,
    checkUrl m, checkDevelopmentVersions m, checkModuleVersions m ext, checkModeUse m ext,
    checkDomainUse m ext]

theorem checkFields_eq_each (ext : Extension) (m : Json) (fields : List (Points × Json)) :
    checkFields ext m fields = Trace.each (fieldChecks ext m fields) id := by
  simp [checkFields, fieldChecks, each_cons, each_nil]

/-- The names of these checks, in their order. -/
def fieldNames : List (List String) :=
  [["metadata/uuid-format", "metadata/uuid-matches-dir", "metadata/uuid-no-gnome-org"],
    ["metadata/shell-version-array", "metadata/shell-version-current"],
    ["metadata/session-modes"], ["metadata/settings-schema"], ["metadata/uuid-at-sign"],
    ["metadata/non-standard-field"], ["metadata/deprecated-version"],
    ["metadata/gettext-domain", "metadata/missing-gettext-domain"],
    ["metadata/future-shell-version"], ["metadata/gnome-trademark"], donationNames, modeNames,
    ["metadata/version-name-format"], versionNames, ["metadata/description-short"],
    ["metadata/missing-url", "metadata/url-format"], ["metadata/shell-version-dev-limit"],
    ["metadata/shell-version-esm-floor"], ["metadata/session-modes-consistency"],
    ["metadata/gettext-domain-consistency", "metadata/gettext-domain-mismatch"]]

/-- All checks of the fields are sound, under their names. -/
theorem sound_fieldChecks (ext : Extension) (m : Json) (fields : List (Points × Json)) :
    List.Forall₂ (fun c is => Trace.Writes (id c) (Sound is)) (fieldChecks ext m fields)
      fieldNames :=
  .cons (sound_checkUuid _ _) <| .cons (sound_checkShellVersionList _) <|
  .cons (sound_checkRedundantModes _) <| .cons (sound_checkSchema _) <|
  .cons (sound_checkUuidAtSign _) <| .cons (sound_checkFieldNames _) <|
  .cons (sound_checkVersionField _) <| .cons (sound_checkDomainField _ _) <|
  .cons (sound_checkFutureVersions _) <| .cons (sound_checkTrademark m) <|
  .cons (sound_checkDonations m) <| .cons (sound_checkSessionModes m) <|
  .cons (sound_checkVersionName m) <| .cons (sound_checkVersionEntries m) <|
  .cons (sound_checkDescription m) <| .cons (sound_checkUrl m) <|
  .cons (sound_checkDevelopmentVersions m) <| .cons (sound_checkModuleVersions m ext) <|
  .cons (sound_checkModeUse m ext) <| .cons (sound_checkDomainUse m ext) .nil

theorem sound_checkFields (ext : Extension) (m : Json) (fields : List (Points × Json)) :
    (checkFields ext m fields).Writes (Sound fieldNames.flatten) := by
  rw [checkFields_eq_each]
  exact writes_each_sound (sound_fieldChecks ext m fields) (by decide)

/-- The names of all checks on the manifest. -/
def names : List String :=
  "metadata/exists" :: "metadata/valid-json" :: "metadata/required-fields" :: fieldNames.flatten

/-- So is the whole check of a manifest. -/
theorem sound_check (ext : Extension) : (check ext).Writes (Sound names) := by
  apply writes_ite
  · exact sound_report_of_mem (by decide)
  · apply writes_lift
    intro document _
    cases document with
    | malformed t cause place => exact sound_report_of_mem (by decide)
    | value m =>
        have hsub : ∀ fs, Sound names.tail fs → Sound names fs :=
          fun _ hfs => hfs.mono (List.tail_subset names)
        refine Writes.mono ?_ hsub
        refine sound_then sound_report ?_ (by decide)
        refine sound_then (sound_checkRequired m) ?_ (by decide)
        cases m with
        | obj fields => exact sound_checkFields ext _ fields
        | _ => exact writes_fault

end ExtensionAudit.Manifest
