import Mathlib
import ExtensionAudit.Packaging
import ExtensionAudit.Proofs.Json.RoundTrip
import ExtensionAudit.Proofs.Manifest.Entries

/-!
# The numbers of declared versions

Four readers take a number from a declared version: the rules for some versions only take the digits
in front, two checks on the manifest what stands before the first point, and the check on a package
the same of a row of text, as a word of 64 bits.  On versions in plain digits without a zero in
front (`PlainVersion`) they agree.  Main statement: `readAlike`, for the same manifest in a
directory and in a package; `ReadAlike` says what each reader makes of it.

*Digits.*  Each reader adds up digits in its own way.  All are compared with `Nat.ofDigitChars`.

*Rows.*  A package lists the versions one a row.  Versions hold no newline and no zero, so the rows
are the versions (`versionRows_entries`).
-/

namespace ExtensionAudit

/-! ## Numbers in plain digits -/

section Digits

variable {ds : Text}

theorem Text.digitValue?_of_isDigit {c : Char} (h : c.isDigit = true) :
    Text.digitValue? c = some (c.toNat - 48) := by
  have hrange : 48 ≤ c.toNat ∧ c.toNat ≤ 57 := Char.isDigit_iff_toNat.mp h
  have hascii : c.toNat < 128 := by omega
  rw [digitValue?, if_pos hascii, if_pos h]

theorem Text.isDigit_of_isDigit {c : Char} (h : c.isDigit = true) : Text.isDigit c = true := by
  rw [isDigit, digitValue?_of_isDigit h]
  rfl

/-- The value of digits of any script is that of plain digits. -/
theorem Number.digitsValue_eq (h : ∀ c ∈ ds, c.isDigit = true) :
    Number.digitsValue ds = Nat.ofDigitChars 10 ds 0 := by
  refine List.foldl_ext _ _ _ fun n c hc => ?_
  rw [Text.digitValue?_of_isDigit (h c hc), Option.getD_some, Nat.mul_comm]
  rfl

/-- All digits are below ten, so there is a number in base ten. -/
theorem Number.ofDigits?_eq (h : ∀ c ∈ ds, c.isDigit = true) :
    Number.ofDigits? 10 ds = some (Nat.ofDigitChars 10 ds 0) := by
  rw [ofDigits?]
  generalize 0 = n
  induction ds generalizing n with
  | nil => rfl
  | cons c ds ih =>
      obtain ⟨hc, hrest⟩ := List.forall_mem_cons.mp h
      have hhigh : c.toNat ≤ 57 := (Char.isDigit_iff_toNat.mp hc).2
      have hbelow : c.toNat - 48 < 10 := by omega
      rw [List.foldlM_cons, if_pos hbelow, Nat.ofDigitChars_cons, Nat.mul_comm 10 n]
      exact ih hrest _

/-- Each digit read multiplies what stands before by ten. -/
theorem mul_pow_le_ofDigitChars (ds : Text) (n : Nat) :
    n * 10 ^ ds.length ≤ Nat.ofDigitChars 10 ds n := by
  induction ds generalizing n with
  | nil => simp
  | cons c ds ih =>
      rw [Nat.ofDigitChars_cons]
      calc n * 10 ^ (c :: ds).length
          = 10 * n * 10 ^ ds.length := by rw [List.length_cons]; ring
        _ ≤ (10 * n + (c.toNat - '0'.toNat)) * 10 ^ ds.length := by gcongr; omega
        _ ≤ Nat.ofDigitChars 10 ds (10 * n + (c.toNat - '0'.toNat)) := ih _

end Digits

/-! ## Lines -/

namespace Text

/-- Lines that are not empty do not end in a newline. -/
theorem getLast_join_ne {ts : List Text} (h : ∀ t ∈ ts, t ≠ [] ∧ '\n' ∉ t)
    (hne : join ['\n'] ts ≠ []) : (join ['\n'] ts).getLast hne ≠ '\n' := by
  induction ts with
  | nil => exact absurd rfl hne
  | cons t ts ih =>
      obtain ⟨⟨-, ht⟩, hts⟩ := List.forall_mem_cons.mp h
      cases ts with
      | nil =>
          intro hlast
          have hmem : '\n' ∈ join ['\n'] [t] := hlast ▸ List.getLast_mem hne
          exact ht (by simpa [join] using hmem)
      | cons u ts =>
          have hmore : join ['\n'] (u :: ts) ≠ [] := by
            have hu := (hts u List.mem_cons_self).1
            cases ts with
            | nil => simpa [join] using hu
            | cons w ts => simp [join_cons_cons, hu]
          simp only [join_cons_cons, List.getLast_append_of_ne_nil _ hmore]
          exact ih hts hmore

/-- Nothing is lost of lines without zeros that are not empty. -/
theorem captured_join {ts : List Text} (h : ∀ t ∈ ts, t ≠ [] ∧ '\n' ∉ t)
    (hzero : ∀ t ∈ ts, ∀ c ∈ t, isZero c = false) :
    captured (join ['\n'] ts) = join ['\n'] ts := by
  have hkept : (join ['\n'] ts).filter (fun c => !isZero c) = join ['\n'] ts := by
    rw [List.filter_eq_self]
    exact forall_mem_join (by simp [isZero]) fun t ht c hc => by rw [hzero t ht c hc]; rfl
  have hend : (join ['\n'] ts).rdropWhile (· == '\n') = join ['\n'] ts :=
    List.rdropWhile_eq_self_iff.mpr fun hne hlast => getLast_join_ne h hne (beq_iff_eq.mp hlast)
  calc captured (join ['\n'] ts)
      = ((join ['\n'] ts).filter fun c => !isZero c).rdropWhile (· == '\n') := rfl
    _ = join ['\n'] ts := by rw [hkept, hend]

end Text

/-- Joining commutes with taking points. -/
theorem Points.intercalate_ofText (sep : Text) (ts : List Text) :
    (Points.ofText sep).intercalate (ts.map Points.ofText) = Points.ofText (Text.join sep ts) := by
  induction ts with
  | nil => rfl
  | cons t ts ih =>
      cases ts with
      | nil => simp [Text.join]
      | cons u ts =>
          rw [List.map_cons, List.map_cons, List.intercalate_cons_cons, ← List.map_cons, ih,
            Text.join_cons_cons]
          simp [Points.ofText]

namespace Manifest

open Trace Check

/-! ## Versions in plain digits -/

/-- A version in plain digits: a number without a zero in front that fits a word of 64 bits, and
perhaps a point and more digits. -/
structure PlainVersion where
  /-- The digits before the point. -/
  major : Text
  /-- The digits after the point, if there is one. -/
  minor : Option Text
  major_digits : major.all Char.isDigit = true
  major_head : major.head?.any (· != '0') = true
  minor_digits : minor.all (fun ds => !ds.isEmpty && ds.all Char.isDigit) = true
  number_lt : Nat.ofDigitChars 10 major 0 < 2 ^ 63

namespace PlainVersion

/-- The number before the point. -/
def number (v : PlainVersion) : Nat := Nat.ofDigitChars 10 v.major 0

/-- The version as it is written. -/
def text (v : PlainVersion) : Text := v.major ++ v.minor.elim [] ('.' :: ·)

/-- The version as an entry of a list. -/
def entry (v : PlainVersion) : Json := .str (Points.ofText v.text)

variable (v : PlainVersion)

theorem isDigit_of_mem {c : Char} (hc : c ∈ v.major) : c.isDigit = true :=
  List.all_eq_true.mp v.major_digits c hc

theorem exists_major : ∃ c rest, v.major = c :: rest ∧ c ≠ '0' := by
  have hhead := v.major_head
  cases hmajor : v.major with
  | nil => simp [hmajor] at hhead
  | cons c rest => exact ⟨c, rest, rfl, by simpa [hmajor] using hhead⟩

theorem isNumber_major : IsNumber v.major := by
  obtain ⟨c, rest, hmajor, -⟩ := v.exists_major
  refine ⟨by simp [hmajor], fun c hc => Text.isDigit_of_isDigit (v.isDigit_of_mem hc)⟩

/-- The number has at most nineteen digits. -/
theorem length_major : v.major.length ≤ 19 := by
  obtain ⟨c, rest, hmajor, hc⟩ := v.exists_major
  have hdigit : c.isDigit = true := v.isDigit_of_mem (by simp [hmajor])
  have hfirst : 1 ≤ c.toNat - '0'.toNat := by
    have hlow : '0'.toNat ≤ c.toNat := (Char.isDigit_iff_toNat.mp hdigit).1
    have hne : c.toNat ≠ '0'.toNat := mt Char.toNat_inj.mp hc
    omega
  have hpow : 10 ^ rest.length < 10 ^ 19 :=
    calc 10 ^ rest.length
        ≤ (c.toNat - '0'.toNat) * 10 ^ rest.length := Nat.le_mul_of_pos_left _ hfirst
      _ ≤ Nat.ofDigitChars 10 rest (c.toNat - '0'.toNat) := mul_pow_le_ofDigitChars rest _
      _ = Nat.ofDigitChars 10 v.major 0 := by
          rw [hmajor, Nat.ofDigitChars_cons, Nat.mul_zero, Nat.zero_add]
      _ < 10 ^ 19 := v.number_lt.trans (by norm_num)
  rw [hmajor]
  exact (Nat.pow_lt_pow_iff_right (by norm_num)).mp hpow

theorem before_text : Text.before '.' v.text = v.major := by
  rw [text]
  cases v.minor with
  | none => rw [Option.elim_none, List.append_nil, before_number v.isNumber_major]
  | some minor => exact before_pointed v.isNumber_major minor

theorem takeWhile_text : v.text.takeWhile Text.isDigit = v.major := by
  rw [text, List.takeWhile_append_of_pos v.isNumber_major.2]
  cases v.minor with
  | none => simp
  | some minor => simp [isDigit_point]

theorem read?_major : Number.read? v.major = some (v.number : Int) := by
  have hread := Number.read?_of_digits v.isNumber_major.1 v.isNumber_major.2
    (v.length_major.trans (by decide))
  rwa [Number.digitsValue_eq fun c => v.isDigit_of_mem] at hread

/-- Digits at the start of a version and digits before its point are the same. -/
theorem leadingNumber?_text : leadingNumber? v.text = some (.ok (v.number : Int)) := by
  have hne : v.major.isEmpty = false := List.isEmpty_eq_false_iff.mpr v.isNumber_major.1
  simp [leadingNumber?, takeWhile_text, read?_major, hne]

theorem major?_entry : v.entry.major? = some (v.number : Int) := by
  have hshown : v.entry.shown = Points.ofText v.text := rfl
  rw [Json.major?, hshown, Points.view_ofText, before_text, read?_major]

/-- A number without a zero in front is read in base ten. -/
theorem word?_major : Number.word? v.major = some (Int64.ofNat v.number) := by
  obtain ⟨c, rest, hmajor, hc⟩ := v.exists_major
  have hbase : (v.major.head? == some '0') = false := by simp [hmajor, hc]
  rw [Number.word?, hbase]
  exact congrArg (Option.map Int64.ofNat) (Number.ofDigits?_eq fun c => v.isDigit_of_mem)

theorem isModern_text : Packaging.isModern v.text = true ↔ 45 ≤ v.number := by
  have hne : v.major.isEmpty = false := List.isEmpty_eq_false_iff.mpr v.isNumber_major.1
  have hword : (45 : Int64) ≤ Int64.ofNat v.number ↔ 45 ≤ v.number :=
    Int64.ofNat_le_iff_le (by norm_num) v.number_lt
  simp [Packaging.isModern, before_text, hne, v.major_digits, word?_major, hword]

/-- Versions are written in digits and points. -/
theorem notMem_text {c : Char} (hc : c.isDigit = false) (hpoint : c ≠ '.') : c ∉ v.text := by
  have hmajor : c ∉ v.major := by
    intro h
    rw [v.isDigit_of_mem h] at hc
    cases hc
  rw [text, List.mem_append]
  rintro (h | h)
  · exact hmajor h
  · cases hminor : v.minor with
    | none => simp [hminor] at h
    | some minor =>
        have hdigits := v.minor_digits
        rw [hminor, Option.all_some, Bool.and_eq_true] at hdigits
        rw [hminor, Option.elim_some, List.mem_cons] at h
        rcases h with h | h
        · exact hpoint h
        · rw [List.all_eq_true.mp hdigits.2 c h] at hc
          cases hc

theorem text_ne_nil : v.text ≠ [] := by
  obtain ⟨c, rest, hmajor, -⟩ := v.exists_major
  simp [text, hmajor]

end PlainVersion

/-! ## Lists of versions -/

variable (vs : List PlainVersion)

theorem numbersOf_entries :
    numbersOf (vs.map PlainVersion.entry) = .ok (vs.map fun v => (v.number : Int)) := by
  induction vs with
  | nil => rfl
  | cons v vs ih =>
      have hshown : v.entry.shown.view = v.text := Points.view_ofText v.text
      rw [List.map_cons, numbersOf, hshown, PlainVersion.leadingNumber?_text, ih]
      rfl

/-- Rules read the number of each entry. -/
theorem declaredVersions_entries {ext : Extension} {fields : List (Points × Json)}
    (hread : ext.readManifest = .ok (.value (.obj fields)))
    (hfield : Json.field? fields "shell-version" = some (.arr (vs.map PlainVersion.entry))) :
    declaredVersions ext = .ok (vs.map fun v => (v.number : Int)) := by
  have hmember : (Json.obj fields).member? "shell-version" =
      .ok (some (.arr (vs.map PlainVersion.entry))) := congrArg Except.ok hfield
  rw [declaredVersions, isFile_of_readManifest hread, hread]
  dsimp only
  rw [shellVersions, hmember]
  exact numbersOf_entries vs

/-- Versions with commas between them. -/
def listed (vs : List PlainVersion) : String :=
  String.ofList (Text.join ", ".toList (vs.map PlainVersion.text))

/-- The entries are shown joined. -/
theorem show?_joined_entries :
    ∃ joined, Json.joined (vs.map PlainVersion.entry) = .ok joined ∧
      show? joined = .ok (listed vs) := by
  have hentries : vs.map PlainVersion.entry =
      ((vs.map PlainVersion.text).map Points.ofText).map .str := by
    rw [List.map_map, List.map_map]
    rfl
  refine ⟨_, by rw [hentries, joined_map], ?_⟩
  rw [Points.ofString, Points.intercalate_ofText, show?_text]
  rfl

/-- The entries whose numbers pass a test. -/
theorem filter_entries (p : Int → Bool) :
    (vs.map PlainVersion.entry).filter (fun u => u.major?.any p) =
      (vs.filter fun v => p v.number).map PlainVersion.entry := by
  rw [List.filter_map]
  congr 2
  funext v
  simp [PlainVersion.major?_entry]

/-- The finding on the versions that are not out yet. -/
def developmentFinding (vs : List PlainVersion) : Finding :=
  let future := vs.filter fun v => (v.number : Int) > currentStable
  if future.length > 1 then
    ⟨.fail, "metadata/shell-version-dev-limit",
      s!"shell-version has {future.length} development releases " ++
        s!"({listed future}); at most 1 allowed"⟩
  else
    ⟨.pass, "metadata/shell-version-dev-limit", "shell-version has at most 1 development release"⟩

/-- The check for development versions reads the numbers. -/
theorem ends_checkDevelopmentVersions {fields : List (Points × Json)}
    (hfield : Json.field? fields "shell-version" = some (.arr (vs.map PlainVersion.entry))) :
    (checkDevelopmentVersions (.obj fields)).Ends [developmentFinding vs] () := by
  refine ends_lift_bind rfl ?_
  rw [hfield, Option.getD_some]
  dsimp only
  rw [filter_entries vs (· > currentStable), List.length_map, developmentFinding]
  split
  next =>
      obtain ⟨joined, hjoined, hshow⟩ := show?_joined_entries
        (vs.filter fun v => (v.number : Int) > currentStable)
      exact ends_lift_bind hjoined (ends_lift_bind hshow (ends_write.mpr rfl))
  next => exact ends_write.mpr rfl

/-- The findings on versions that cannot load modules. -/
def moduleFindings (vs : List PlainVersion) : List Finding :=
  let old := vs.filter fun v => 40 ≤ v.number && v.number < 45
  if old.isEmpty then []
  else
    [⟨.fail, "metadata/shell-version-esm-floor",
      s!"shell-version includes pre-ESM version(s) ({listed old}) " ++
        "but extension uses ESM imports (GNOME 45+ only)"⟩]

/-- The main script imports modules. -/
def UsesModules (ext : Extension) : Prop :=
  ext.isFile Extension.mainScript = true ∧ ∃ t, ext.text Extension.mainScript = .ok t ∧
    Text.occursIn "import ".toList t = true ∧ Text.occursIn "from ".toList t = true

/-- So does the check for versions that cannot load modules. -/
theorem ends_checkModuleVersions {ext : Extension} {fields : List (Points × Json)}
    (hfield : Json.field? fields "shell-version" = some (.arr (vs.map PlainVersion.entry)))
    (huses : UsesModules ext) :
    (checkModuleVersions (.obj fields) ext).Ends (moduleFindings vs) () := by
  obtain ⟨hmain, t, htext, himport, hfrom⟩ := huses
  refine ends_lift_bind rfl ?_
  rw [hfield, Option.getD_some]
  dsimp only
  have hold : ∀ v : PlainVersion,
      (decide (40 ≤ (v.number : Int)) && decide ((v.number : Int) < 45)) =
        (decide (40 ≤ v.number) && decide (v.number < 45)) := by
    intro v
    norm_cast
  rw [filter_entries vs (fun n => decide (40 ≤ n) && decide (n < 45)), hmain]
  simp only [moduleFindings, hold, List.isEmpty_map, Bool.and_true]
  generalize vs.filter (fun v => decide (40 ≤ v.number) && decide (v.number < 45)) = old
  cases hempty : old.isEmpty with
  | true => exact ends_pure.mpr ⟨rfl, rfl⟩
  | false =>
      obtain ⟨joined, hjoined, hshow⟩ := show?_joined_entries old
      refine ends_lift_bind htext ?_
      rw [himport, hfrom]
      exact ends_lift_bind hjoined (ends_lift_bind hshow (ends_write.mpr rfl))

/-- The reader of packages gets the entries as texts. -/
theorem shownVersions_entries :
    Packaging.shownVersions ((vs.map PlainVersion.entry).map Json.shown) =
      vs.map PlainVersion.text := by
  have hshown : (vs.map PlainVersion.entry).map Json.shown =
      (vs.map PlainVersion.text).map Points.ofText := by
    rw [List.map_map, List.map_map]
    rfl
  have hall : ∀ s ∈ (vs.map PlainVersion.text).map Points.ofText, s.text?.isSome = true := by
    intro s hs
    obtain ⟨t, -, rfl⟩ := List.mem_map.mp hs
    rw [Points.text?_ofText]
    rfl
  rw [Packaging.shownVersions, hshown, List.takeWhile_eq_self_iff.mpr hall, List.map_map]
  exact (List.map_congr_left fun t _ => Points.view_ofText t).trans (List.map_id _)

/-- A package lists the versions of its manifest one a row. -/
theorem versionRows_entries {fields : List (Points × Json)} (hne : vs ≠ [])
    (hfield : Json.field? fields "shell-version" = some (.arr (vs.map PlainVersion.entry))) :
    Packaging.versionRows (.obj fields) = vs.map PlainVersion.text := by
  have hlines : ∀ t ∈ vs.map PlainVersion.text, t ≠ [] ∧ '\n' ∉ t := by
    intro t ht
    obtain ⟨v, -, rfl⟩ := List.mem_map.mp ht
    exact ⟨v.text_ne_nil, v.notMem_text (by decide) (by decide)⟩
  have hzero : ∀ t ∈ vs.map PlainVersion.text, ∀ c ∈ t, Text.isZero c = false := by
    intro t ht c hc
    obtain ⟨v, -, rfl⟩ := List.mem_map.mp ht
    rw [Text.isZero, beq_eq_false_iff_ne]
    intro hcode
    have hc0 : c = Char.ofNat 0 := Char.toNat_inj.mp hcode
    exact v.notMem_text (by decide) (by decide) (hc0 ▸ hc)
  rw [Packaging.versionRows, Packaging.printedVersions]
  simp only [hfield, Option.getD_some, Packaging.versionValues, shownVersions_entries]
  rw [Text.captured_join hlines hzero]
  exact Text.splitAt_join (by simpa using hne) fun t ht => (hlines t ht).2

/-- It reads the numbers as well. -/
theorem listsModern_entries {fields : List (Points × Json)} {printed : List UInt8}
    (hfield : Json.field? fields "shell-version" = some (.arr (vs.map PlainVersion.entry)))
    (hsame : Packaging.manifest? printed = some (.obj fields)) :
    Packaging.listsModern printed = true ↔ ∃ v ∈ vs, 45 ≤ v.number := by
  rw [Packaging.listsModern, hsame]
  dsimp only
  cases vs with
  | nil =>
      have hrows : Packaging.versionRows (.obj fields) = [[]] := by
        rw [Packaging.versionRows, Packaging.printedVersions, hfield]
        rfl
      rw [hrows]
      decide
  | cons v vs =>
      rw [versionRows_entries _ (List.cons_ne_nil _ _) hfield, List.any_map, List.any_eq_true]
      simp only [Function.comp_apply, PlainVersion.isModern_text]

/-! ## All readers -/

/-- All readers of the versions that a manifest declares take the same numbers from them, also
those of the manifest that is printed from a package. -/
structure ReadAlike (ext : Extension) (m : Json) (printed : List UInt8)
    (vs : List PlainVersion) : Prop where
  /-- The rules for some versions only. -/
  declared : declaredVersions ext = .ok (vs.map fun v => (v.number : Int))
  /-- The checks on the manifest, entry by entry. -/
  entries : (vs.map PlainVersion.entry).map Json.major? = vs.map fun v => some (v.number : Int)
  development : (checkDevelopmentVersions m).Ends [developmentFinding vs] ()
  modules : UsesModules ext → (checkModuleVersions m ext).Ends (moduleFindings vs) ()
  /-- The check on compiled schemas in a package. -/
  packaged : Packaging.listsModern printed = true ↔ ∃ v ∈ vs, 45 ≤ v.number

/-- The readers of a manifest, and of the same manifest in a package, agree on its versions. -/
theorem readAlike (ext : Extension) (fields : List (Points × Json)) (printed : List UInt8)
    (vs : List PlainVersion)
    (hread : ext.readManifest = .ok (.value (.obj fields)))
    (hfield : Json.field? fields "shell-version" = some (.arr (vs.map PlainVersion.entry)))
    (hsame : Packaging.manifest? printed = some (.obj fields)) :
    ReadAlike ext (.obj fields) printed vs where
  declared := declaredVersions_entries vs hread hfield
  entries := by
    rw [List.map_map]
    exact List.map_congr_left fun v _ => v.major?_entry
  development := ends_checkDevelopmentVersions vs hfield
  modules := ends_checkModuleVersions vs hfield
  packaged := listsModern_entries vs hfield hsame

/-- A version with a part after the point, one from before modules and one that is not out yet. -/
def threeVersions : List PlainVersion :=
  [⟨['3'], some ['3', '8'], rfl, rfl, rfl, by simp [Nat.ofDigitChars]⟩,
    ⟨['4', '4'], none, rfl, rfl, rfl, by simp [Nat.ofDigitChars]⟩,
    ⟨['5', '0'], none, rfl, rfl, rfl, by simp [Nat.ofDigitChars]⟩]

/-- The fields of a manifest that declares these versions. -/
def threeVersionsFields : List (Points × Json) :=
  [(Points.ofString "shell-version", .arr (threeVersions.map PlainVersion.entry))]

/-- The bytes of the manifest. -/
def threeVersionsBytes : List UInt8 :=
  Text.encode ((Json.obj threeVersionsFields).indented 0 ++ ['\n'])

/-- The manifest beside a script that imports a module. -/
def threeVersionsExtension : Extension :=
  ⟨⟨.dir [("extension.js", .file (Text.encode "import a from b".toList) false),
    ("metadata.json", .file threeVersionsBytes false)], .plain⟩, []⟩

theorem plain_threeVersions : Json.Plain Json.depthBound (.obj threeVersionsFields) := by
  have hentries : Json.Plain 984 (.arr (threeVersions.map PlainVersion.entry)) := by
    refine .arr fun v hv => ?_
    obtain ⟨version, -, rfl⟩ := List.mem_map.mp hv
    exact .str version.text
  exact @Json.Plain.obj 984 [("shell-version".toList, _)] (by simp) (by simpa using hentries)

/-- Three versions, one of them with a minor number, are read alike. -/
theorem readAlike_threeVersions :
    threeVersionsExtension.readManifest = .ok (.value (.obj threeVersionsFields)) ∧
      Packaging.manifest? threeVersionsBytes = some (.obj threeVersionsFields) ∧
      UsesModules threeVersionsExtension ∧
      ReadAlike threeVersionsExtension (.obj threeVersionsFields) threeVersionsBytes
        threeVersions := by
  have hdocument : Json.read ((Json.obj threeVersionsFields).indented 0 ++ ['\n']) =
      .ok (.obj threeVersionsFields) := Json.read_indented plain_threeVersions (by simp)
  have htrimmed : Json.read ((Json.obj threeVersionsFields).indented 0 ++ []) =
      .ok (.obj threeVersionsFields) := Json.read_indented plain_threeVersions (by simp)
  have htext : threeVersionsExtension.strictText Extension.manifestPath =
      .ok ((Json.obj threeVersionsFields).indented 0 ++ ['\n']) := by
    decide
  have hread : threeVersionsExtension.readManifest = .ok (.value (.obj threeVersionsFields)) := by
    rw [Extension.readManifest, htext]
    simp only [bind, Except.bind, hdocument]
    rfl
  have hcaptured : Text.captured (Text.readLossy threeVersionsBytes) =
      (Json.obj threeVersionsFields).indented 0 ∧
        Text.unifyNewlines ((Json.obj threeVersionsFields).indented 0) =
          (Json.obj threeVersionsFields).indented 0 ++ [] := by
    decide
  have hsame : Packaging.manifest? threeVersionsBytes = some (.obj threeVersionsFields) := by
    rw [Packaging.manifest?, hcaptured.1, hcaptured.2, htrimmed]
    rfl
  exact ⟨hread, hsame, ⟨rfl, _, rfl, by decide, by decide⟩,
    readAlike _ threeVersionsFields _ threeVersions hread rfl hsame⟩

end Manifest

end ExtensionAudit
