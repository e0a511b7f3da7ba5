import Mathlib
import ExtensionAudit.Command
import ExtensionAudit.Proofs.Completion
import ExtensionAudit.Proofs.Pattern.Ways
import ExtensionAudit.Proofs.Readable
import ExtensionAudit.Proofs.Verdict.Manifest
import ExtensionAudit.Proofs.Versions

/-!
# Well-typed manifests

A check on the manifest can meet a value of the wrong kind, a string that cannot be shown or a
number that is too long.  `WellTyped` says which kinds the fields need that are used without a
test, and that strings can be shown.  Main statement: the checks on a readable extension with a
well-typed manifest all complete, whatever the other fields hold
(`runFamily_manifest_of_wellTyped`).

*Strings.*  A string without halves of surrogate pairs can be shown, and so can strings that are put
together from such (`isWhole_intercalate`).

*Versions.*  The part of a version before its point is a run of digits (`group_minorPattern`), so it
can be read as a number if the whole version is not too long.
-/

namespace ExtensionAudit

/-! ## Strings that can be shown -/

/-- The code point is a character. -/
def Point.isChar : Point → Bool
  | .char _ => true
  | .half _ => false

namespace Points

/-- The string has no half of a surrogate pair. -/
def isWhole (s : Points) : Bool := s.all Point.isChar

theorem isWhole_ofText (t : Text) : (ofText t).isWhole = true := by
  simp [isWhole, ofText, Point.isChar]

theorem isWhole_append {s t : Points} (hs : s.isWhole = true) (ht : t.isWhole = true) :
    isWhole (s ++ t) = true := by
  rw [isWhole, List.all_append, Bool.and_eq_true]
  exact ⟨hs, ht⟩

/-- Whole texts are joined to a whole text. -/
theorem isWhole_intercalate {sep : Points} {ss : List Points} (hsep : sep.isWhole = true)
    (hss : ∀ s ∈ ss, s.isWhole = true) : isWhole (sep.intercalate ss) = true := by
  induction ss with
  | nil => rfl
  | cons s ss ih =>
      obtain ⟨hs, hrest⟩ := List.forall_mem_cons.mp hss
      cases ss with
      | nil => simpa using hs
      | cons t ss =>
          rw [List.intercalate_cons_cons]
          exact isWhole_append (isWhole_append hs hsep) (ih hrest)

/-- Whole points make a text. -/
theorem exists_text? {s : Points} (hs : s.isWhole = true) : ∃ t, s.text? = some t := by
  induction s with
  | nil => exact ⟨[], rfl⟩
  | cons x s ih =>
      cases x with
      | half n => cases hs
      | char c =>
          obtain ⟨t, ht⟩ := ih hs
          refine ⟨c :: t, ?_⟩
          rw [text?] at ht ⊢
          rw [List.mapM_cons, ht]
          rfl

end Points

namespace Json

mutual

/-- No string and no key in the value has half of a surrogate pair. -/
def isWhole : Json → Bool
  | .str s => s.isWhole
  | .arr items => wholeItems items
  | .obj fields => wholeFields fields
  | .null | .bool _ | .int _ | .float _ => true

/-- No string and no key in the items of a list has half of a surrogate pair. -/
def wholeItems : List Json → Bool
  | [] => true
  | v :: rest => v.isWhole && wholeItems rest

/-- No string and no key in the fields of an object has half of a surrogate pair. -/
def wholeFields : List (Points × Json) → Bool
  | [] => true
  | (k, v) :: rest => k.isWhole && v.isWhole && wholeFields rest

end

theorem isWhole_arr {items : List Json} :
    (Json.arr items).isWhole = true ↔ ∀ v ∈ items, v.isWhole = true := by
  rw [isWhole]
  induction items with
  | nil => simp [wholeItems]
  | cons v rest ih => rw [wholeItems, Bool.and_eq_true, ih, List.forall_mem_cons]

theorem isWhole_obj {fields : List (Points × Json)} :
    (Json.obj fields).isWhole = true ↔
      ∀ x ∈ fields, x.1.isWhole = true ∧ x.2.isWhole = true := by
  rw [isWhole]
  induction fields with
  | nil => simp [wholeFields]
  | cons x rest ih => rw [wholeFields, Bool.and_eq_true, Bool.and_eq_true, ih, List.forall_mem_cons]

theorem isWhole_shown {v : Json} (h : v.isWhole = true) : v.shown.isWhole = true := by
  cases v with
  | str s => rwa [isWhole] at h
  | _ => exact Points.isWhole_ofText _

end Json

namespace Manifest

open Trace Check Pattern

theorem exists_show? {s : Points} (hs : s.isWhole = true) : ∃ t, show? s = .ok t := by
  obtain ⟨t, ht⟩ := Points.exists_text? hs
  exact ⟨String.ofList t, by rw [show?, ht]⟩

theorem exists_showValue {v : Json} (hv : v.isWhole = true) : ∃ t, showValue v = .ok t :=
  exists_show? (Json.isWhole_shown hv)

/-! ## The part of a version before its point -/

/-- A digit. -/
def digitTest : CharTest := .inSet ⟨[.cls .digit false], false, false, false⟩

theorem passes_digitTest (x : Char) : digitTest.passes x = Text.isDigit x := by
  simp [digitTest, CharTest.passes, CharSet.has, Member.covers, CharClass.has]

/-- Digits, remembered under a number. -/
def digitsNode (index : Nat) : Node := .group index (.rep .greedy 1 none (.one digitTest))

theorem mem_ways_digitsNode {index : Nat} {c : Cursor} {ms : Marks} {w : Cursor × Marks} :
    w ∈ (digitsNode index).ways c ms ↔
      ∃ n, 0 < n ∧ n ≤ (c.after.takeWhile Text.isDigit).length ∧
        w = (c.forward n, (ms.put (openMark index) c).put (closeMark index) (c.forward n)) := by
  rw [digitsNode, Node.ways, Node.ways, List.map_map, List.mem_map]
  simp only [mem_stops_none, funext passes_digitTest, and_assoc, Function.comp_def,
    Nat.succ_le_iff, eq_comm]

theorem minorPattern_eq :
    minorPattern =
      ⟨.seq (digitsNode 1) (.seq (.one (.literal 46)) (digitsNode 2)), [], ⟨3, none, true⟩⟩ := by
  decide +kernel

theorem flat_minorPattern : minorPattern.node.Flat 0 4 := by
  rw [minorPattern_eq]
  exact .seq (.group (Nat.zero_le 0) (.rep rfl)) (.seq .one (.group (Nat.le_refl 2) (.rep rfl)))

/-- What stands before the point is a run of digits at the start of the version. -/
theorem group_minorPattern {t : Text} {found : Found} (h : minorPattern.matchWhole t = some found) :
    ∃ n, 0 < n ∧ n ≤ (t.takeWhile Text.isDigit).length ∧ found.group 1 = t.take n := by
  rw [matchWhole, matchFrom_eq_ways flat_minorPattern] at h
  obtain ⟨w, hw, rfl⟩ := Option.map_eq_some_iff.mp h
  have hw := List.mem_of_find?_eq_some hw
  rw [minorPattern_eq, Node.ways] at hw
  obtain ⟨major, hmajor, hw⟩ := List.mem_flatMap.mp hw
  obtain ⟨n, hpos, hn, rfl⟩ := mem_ways_digitsNode.mp hmajor
  rw [Node.ways] at hw
  obtain ⟨point, hpoint, hw⟩ := List.mem_flatMap.mp hw
  rw [Node.ways] at hpoint
  split at hpoint
  next =>
      obtain rfl := List.mem_singleton.mp hpoint
      obtain ⟨k, -, -, rfl⟩ := mem_ways_digitsNode.mp hw
      exact ⟨n, hpos, hn, Found.group_one _ (Cursor.start t) n _⟩
  next => cases hpoint

/-- One or more digits of any script. -/
def IsNumber (t : Text) : Prop := t ≠ [] ∧ ∀ c ∈ t, Text.isDigit c = true

/-- The first digits of a text are a number, if there are any. -/
theorem isNumber_take {t : Text} {n : Nat} (hpos : 0 < n)
    (hn : n ≤ (t.takeWhile Text.isDigit).length) : IsNumber (t.take n) := by
  have htaken : t.take n <+: t.takeWhile Text.isDigit :=
    List.prefix_of_prefix_length_le (List.take_prefix ..) (List.takeWhile_prefix _)
      ((List.length_take_le ..).trans hn)
  have hlength : n ≤ t.length := hn.trans (List.takeWhile_prefix _).length_le
  constructor
  · rw [← List.length_pos_iff, List.length_take]
    omega
  · intro c hc
    exact List.mem_takeWhile_imp (htaken.mem hc)

/-- The part of a version before its point can be read, if the version is not too long. -/
theorem exists_needlessMinor? {t : Text} (h : t.length ≤ Json.digitBound) :
    ∃ major, needlessMinor? t = .ok major := by
  unfold needlessMinor?
  split
  next => exact ⟨none, rfl⟩
  next found hfound =>
      obtain ⟨n, hpos, hn, hgroup⟩ := group_minorPattern hfound
      obtain ⟨hne, hdigits⟩ := isNumber_take hpos hn
      obtain ⟨number, hnumber⟩ : ∃ number, Number.read? (found.group 1) = some number := by
        rw [hgroup]
        exact Number.exists_read?_of_digits hne hdigits ((List.length_take_le' ..).trans h)
      rw [hnumber]
      exact ⟨_, rfl⟩

/-! ## Well-typed fields -/

/-- The fields that are used as strings. -/
def stringFields : List String := ["uuid", "name", "settings-schema", "gettext-domain"]

/-- The fields that are used as lists of strings. -/
def listFields : List String := ["shell-version", "session-modes"]

/-- The value is a string. -/
def isStr : Json → Bool
  | .str _ => true
  | _ => false

/-- The value is a list of strings. -/
def isStrList : Json → Bool
  | .arr items => items.all isStr
  | _ => false

/-- The items of a list. -/
def itemsOf : Json → List Json
  | .arr items => items
  | _ => []

/-- The fields have the kinds that the checks expect, and strings can be shown.  All other fields
may hold anything. -/
@[mk_iff]
structure WellTyped (fields : List (Points × Json)) : Prop where
  strings : ∀ name ∈ stringFields, (Json.field? fields name).all isStr = true
  lists : ∀ name ∈ listFields, (Json.field? fields name).all isStrList = true
  short : ∀ v ∈ ((Json.field? fields "shell-version").map itemsOf).getD [],
    v.shown.length ≤ Json.digitBound
  whole : (Json.obj fields).isWhole = true

instance (fields : List (Points × Json)) : Decidable (WellTyped fields) :=
  decidable_of_iff _ (wellTyped_iff fields).symm

theorem exists_of_isStr {v : Json} (h : isStr v = true) : ∃ s, v = .str s := by
  cases v with
  | str s => exact ⟨s, rfl⟩
  | _ => cases h

/-- A list of strings is one of strings only. -/
theorem exists_of_isStrList {v : Json} (h : isStrList v = true) :
    ∃ ss : List Points, v = .arr (ss.map .str) := by
  cases v with
  | arr items =>
      induction items with
      | nil => exact ⟨[], rfl⟩
      | cons v items ih =>
          obtain ⟨hv, hitems⟩ := Bool.and_eq_true_iff.mp h
          obtain ⟨s, rfl⟩ := exists_of_isStr hv
          obtain ⟨ss, hss⟩ := ih hitems
          cases hss
          exact ⟨s :: ss, rfl⟩
  | _ => cases h

variable {fields : List (Points × Json)}

namespace WellTyped

theorem whole_key (h : WellTyped fields) {x : Points × Json} (hx : x ∈ fields) :
    x.1.isWhole = true := (Json.isWhole_obj.mp h.whole x hx).1

theorem whole_field (h : WellTyped fields) {name : String} {v : Json}
    (hv : Json.field? fields name = some v) : v.isWhole = true := by
  obtain ⟨x, hx, rfl⟩ := Option.map_eq_some_iff.mp hv
  exact (Json.isWhole_obj.mp h.whole x (List.mem_of_find?_eq_some hx)).2

theorem exists_str_of_field? (h : WellTyped fields) {name : String} (hname : name ∈ stringFields)
    {v : Json} (hv : Json.field? fields name = some v) :
    ∃ s, v = .str s ∧ s.isWhole = true := by
  have hstr := h.strings name hname
  rw [hv] at hstr
  obtain ⟨s, rfl⟩ := exists_of_isStr hstr
  have hwhole := h.whole_field hv
  rw [Json.isWhole] at hwhole
  exact ⟨s, rfl, hwhole⟩

theorem exists_list_of_field? (h : WellTyped fields) {name : String} (hname : name ∈ listFields)
    {v : Json} (hv : Json.field? fields name = some v) :
    ∃ ss : List Points, v = .arr (ss.map .str) ∧ ∀ s ∈ ss, s.isWhole = true := by
  have hlist := h.lists name hname
  rw [hv] at hlist
  obtain ⟨ss, rfl⟩ := exists_of_isStrList hlist
  refine ⟨ss, rfl, fun s hs => ?_⟩
  have hwhole := Json.isWhole_arr.mp (h.whole_field hv) _ (List.mem_map_of_mem hs)
  rwa [Json.isWhole] at hwhole

/-- The string of a field, which may be missing. -/
theorem exists_str (h : WellTyped fields) (name : String) (hname : name ∈ stringFields) :
    ∃ s : Points, (Json.field? fields name).getD (Json.ofString "") = .str s ∧
      s.isWhole = true := by
  cases hv : Json.field? fields name with
  | none => exact ⟨_, rfl, Points.isWhole_ofText _⟩
  | some v => exact h.exists_str_of_field? hname hv

/-- The strings of a list, which may be missing. -/
theorem exists_list (h : WellTyped fields) (name : String) (hname : name ∈ listFields) :
    ∃ ss : List Points, (Json.field? fields name).getD (.arr []) = .arr (ss.map .str) ∧
      ∀ s ∈ ss, s.isWhole = true := by
  cases hv : Json.field? fields name with
  | none => exact ⟨[], rfl, by simp⟩
  | some v => exact h.exists_list_of_field? hname hv

end WellTyped

/-! ## The checks -/

theorem completes_checkRequired (fields : List (Points × Json)) :
    (checkRequired (.obj fields)).Completes := by
  refine completes_seq ?_ fun there => completes_either
  exact completes_mapM.mpr fun f _ => completes_lift ⟨_, rfl⟩ fun _ _ => completes_pure _

section

variable {s : Points} (hs : s.isWhole = true)

include hs

theorem completes_checkUuid (dirName : String) : (checkUuid (.str s) dirName).Completes := by
  refine completes_if (completes_seq ?_ fun _ => completes_seq ?_ fun _ => ?_)
  · refine completes_lift ⟨_, rfl⟩ fun _ _ => completes_ite ?_ ?_
    · exact completes_lift_report (exists_show? hs)
    · exact completes_lift_report (exists_show? hs)
  · refine completes_ite completes_report ?_
    exact completes_lift_report (exists_show? hs)
  · exact completes_lift ⟨_, rfl⟩ fun _ _ => completes_either

theorem completes_checkUuidAtSign : (checkUuidAtSign (.str s)).Completes := by
  refine completes_if (completes_lift ⟨_, rfl⟩ fun _ _ => completes_ite completes_report ?_)
  exact completes_lift_report (exists_show? hs)

end

theorem completes_checkShellVersionList (v : Option Json) :
    (checkShellVersionList v).Completes := by
  unfold checkShellVersionList
  split
  · exact completes_pure ()
  · exact completes_pure ()
  · exact completes_seq completes_report fun _ => completes_either
  · exact completes_report

theorem completes_checkRedundantModes (v : Option Json) : (checkRedundantModes v).Completes :=
  completes_either

theorem completes_checkVersionField (fields : List (Points × Json)) :
    (checkVersionField fields).Completes := completes_if completes_report

theorem completes_checkDomainField (ext : Extension) (fields : List (Points × Json)) :
    (checkDomainField ext fields).Completes :=
  completes_if completes_either

section

variable (h : WellTyped fields)

include h

theorem completes_checkSchema :
    (checkSchema (Json.field? fields "settings-schema")).Completes := by
  cases hv : Json.field? fields "settings-schema" with
  | none => exact completes_pure ()
  | some v =>
      obtain ⟨s, rfl, hs⟩ := h.exists_str_of_field? (by decide) hv
      refine completes_ite ?_ ?_
      · exact completes_lift_report (exists_show? hs)
      · exact completes_lift_report (exists_show? hs)

theorem completes_checkFieldNames : (checkFieldNames fields).Completes := by
  refine completes_ite completes_report (completes_each.mpr fun k hk => ?_)
  obtain ⟨x, hx, rfl⟩ := List.mem_map.mp (List.mem_filter.mp hk).1
  exact completes_lift_report (exists_show? (h.whole_key hx))

/-- The check for future versions ends. -/
theorem completes_checkFutureVersions :
    (checkFutureVersions (Json.field? fields "shell-version")).Completes := by
  cases hv : Json.field? fields "shell-version" with
  | none => exact completes_pure ()
  | some v =>
      obtain ⟨ss, rfl, hss⟩ := h.exists_list_of_field? (by decide) hv
      refine completes_each.mpr (List.forall_mem_map.mpr fun s hs => ?_)
      refine completes_lift ⟨_, rfl⟩ fun n _ => ?_
      cases n with
      | none => exact completes_pure ()
      | some n =>
          exact completes_if
            (completes_lift_report (exists_show? (hss s hs)))

omit h in
theorem exists_withoutNamespace (s : Points) : ∃ t, withoutNamespace (.str s) = .ok t := by
  refine exists_ok_bind ⟨_, rfl⟩ fun found _ => ?_
  split
  next => exact ⟨_, rfl⟩
  next => exact ⟨_, rfl⟩

omit h in
theorem exists_schemaInfringes (s : Points) : ∃ b, schemaInfringes (.str s) = .ok b := by
  unfold schemaInfringes
  split
  next => exact ⟨_, rfl⟩
  next =>
      refine exists_ok_bind ⟨_, rfl⟩ fun t _ => ?_
      split
      next => exact ⟨_, rfl⟩
      next => exact ⟨_, rfl⟩

/-- The check for the trademark ends. -/
theorem completes_checkTrademark : (checkTrademark (.obj fields)).Completes := by
  obtain ⟨uuid, huuid, huuidWhole⟩ := h.exists_str "uuid" (by decide)
  obtain ⟨name, hname, hnameWhole⟩ := h.exists_str "name" (by decide)
  obtain ⟨schema, hschema, hschemaWhole⟩ := h.exists_str "settings-schema" (by decide)
  have hnamed : ∀ (yes : Bool) (what : String) {s : Points}, s.isWhole = true →
      ∀ t ∈ (if yes then [Points.ofString (what ++ " '") ++ s ++ Points.ofString "'"] else []),
        t.isWhole = true := by
    intro yes what s hs t ht
    split at ht
    next =>
        obtain rfl := List.mem_singleton.mp ht
        exact Points.isWhole_append (Points.isWhole_append (Points.isWhole_ofText _) hs)
          (Points.isWhole_ofText _)
    next => cases ht
  refine completes_lift_bind.mpr ⟨_, rfl, ?_⟩
  rw [huuid]
  refine completes_lift (exists_withoutNamespace uuid) fun inUuid _ => ?_
  refine completes_lift_bind.mpr ⟨_, rfl, ?_⟩
  rw [hname]
  refine completes_lift ⟨_, rfl⟩ fun inName _ => ?_
  refine completes_lift_bind.mpr ⟨_, rfl, ?_⟩
  rw [hschema]
  refine completes_lift (exists_schemaInfringes schema) fun inSchema _ => ?_
  refine completes_ite completes_report ?_
  refine completes_lift_report
    (exists_show? (Points.isWhole_intercalate (Points.isWhole_ofText _) ?_))
  exact List.forall_mem_append.mpr ⟨List.forall_mem_append.mpr
    ⟨hnamed _ _ huuidWhole, hnamed _ _ hnameWhole⟩, hnamed _ _ hschemaWhole⟩

omit h in
/-- A field that is there has a value. -/
theorem completes_valueAt {name : String} {f : Json → Check Unit} {x : Check Unit}
    (hf : ∀ v, Json.field? fields name = some v → (f v).Completes) (hx : x.Completes) :
    (do if ← (Json.obj fields).holds name then f (← (Json.obj fields).valueAt name)
        else x : Check Unit).Completes := by
  refine completes_lift_bind.mpr ⟨_, rfl, ?_⟩
  split
  next hfield =>
      obtain ⟨v, hv⟩ := Option.isSome_iff_exists.mp hfield
      exact completes_lift_bind.mpr ⟨v, by rw [Json.valueAt, hv], hf v hv⟩
  next => exact hx

omit h in
/-- The check on donation fields ends if their names are whole. -/
theorem completes_checkDonationFields {donations : List (Points × Json)}
    (hkeys : ∀ x ∈ donations, x.1.isWhole = true) : (checkDonationFields donations).Completes := by
  induction donations with
  | nil => exact completes_report
  | cons x donations ih =>
      obtain ⟨k, v⟩ := x
      obtain ⟨hk, hrest⟩ := List.forall_mem_cons.mp hkeys
      rw [checkDonationFields]
      -- both ways to the name of the key lead to the same match on the value
      refine completes_ite (completes_seq (completes_pure _) fun name => ?_)
        (completes_lift (exists_show? hk) fun _ _ =>
          completes_seq (completes_pure _) fun name => ?_)
      all_goals
        dsimp only
        split
        · exact completes_report
        · refine completes_ite ?_ (ih hrest)
          exact completes_lift_report (exists_show? hk)
        · exact ih hrest
        · exact completes_lift_report (exists_show? hk)

theorem completes_checkDonations : (checkDonations (.obj fields)).Completes := by
  refine completes_valueAt (fun v hv => ?_) (completes_pure ())
  split
  · exact completes_report
  · exact completes_checkDonationFields fun x hx =>
      (Json.isWhole_obj.mp (h.whole_field hv) x hx).1
  · exact completes_report

omit h in
theorem completes_checkModes {modes : List Points} (hmodes : ∀ s ∈ modes, s.isWhole = true) :
    (checkModes (modes.map .str)).Completes := by
  induction modes with
  | nil => exact completes_report
  | cons s modes ih =>
      obtain ⟨hs, hrest⟩ := List.forall_mem_cons.mp hmodes
      rw [List.map_cons, checkModes]
      refine completes_lift ⟨_, rfl⟩ fun _ _ => completes_ite (ih hrest) ?_
      exact completes_lift_report (exists_show? hs)

theorem completes_checkSessionModes : (checkSessionModes (.obj fields)).Completes := by
  refine completes_lift_bind.mpr ⟨_, rfl, ?_⟩
  cases hv : Json.field? fields "session-modes" with
  | none => exact completes_pure ()
  | some v =>
      obtain ⟨modes, rfl, hwhole⟩ := h.exists_list_of_field? (by decide) hv
      exact completes_checkModes hwhole

theorem completes_checkVersionName : (checkVersionName (.obj fields)).Completes := by
  refine completes_valueAt (fun v hv => ?_) (completes_pure ())
  split
  · have hshow := exists_showValue (h.whole_field hv)
    exact completes_ite (completes_lift_report hshow) (completes_lift_report hshow)
  · exact completes_report

omit h in
/-- The check on versions ends if they are whole and not too long. -/
theorem completes_checkVersions {versions : List Points} (hwhole : ∀ s ∈ versions, s.isWhole = true)
    (hshort : ∀ s ∈ versions, s.length ≤ Json.digitBound) :
    (checkVersions (versions.map .str)).Completes := by
  induction versions with
  | nil => exact completes_report
  | cons s versions ih =>
      obtain ⟨hs, hrest⟩ := List.forall_mem_cons.mp hwhole
      obtain ⟨hlength, hrestShort⟩ := List.forall_mem_cons.mp hshort
      rw [List.map_cons, checkVersions]
      refine completes_ite completes_report ?_
      have hview : s.view.length ≤ Json.digitBound := by simpa [Points.view] using hlength
      refine completes_lift (exists_needlessMinor? hview) fun major _ => ?_
      cases major with
      | some major => exact completes_lift_report (exists_show? hs)
      | none =>
          refine completes_ite ?_ (ih hrest hrestShort)
          exact completes_lift_report (exists_show? hs)

theorem completes_checkVersionEntries : (checkVersionEntries (.obj fields)).Completes := by
  refine completes_lift_bind.mpr ⟨_, rfl, ?_⟩
  cases hv : Json.field? fields "shell-version" with
  | none => exact completes_pure ()
  | some v =>
      obtain ⟨versions, rfl, hwhole⟩ := h.exists_list_of_field? (by decide) hv
      have hshort := h.short
      rw [hv] at hshort
      exact completes_checkVersions hwhole fun s hs => hshort _ (List.mem_map_of_mem hs)

omit h in
theorem completes_checkDescription (fields : List (Points × Json)) :
    (checkDescription (.obj fields)).Completes := by
  refine completes_lift ⟨_, rfl⟩ fun v hv => ?_
  split
  · exact completes_if completes_report
  · exact completes_pure ()

theorem completes_checkUrl : (checkUrl (.obj fields)).Completes := by
  refine completes_valueAt (fun v hv => ?_) completes_report
  refine completes_seq completes_report fun _ => ?_
  split
  · exact completes_if (completes_lift_report (exists_showValue (h.whole_field hv)))
  · exact completes_pure ()

omit h in
/-- Strings are joined as texts. -/
theorem joined_map (ss : List Points) :
    Json.joined (ss.map .str) = .ok ((Points.ofString ", ").intercalate ss) := by
  have hparts : ∀ f : Json → Except Fault Points, (∀ s, f (.str s) = .ok s) →
      (ss.map Json.str).mapM f = .ok ss := by
    intro f hf
    induction ss with
    | nil => rfl
    | cons s ss ih =>
        rw [List.map_cons, List.mapM_cons, hf, ih]
        rfl
  rw [Json.joined, hparts _ fun _ => rfl]
  rfl

omit h in
/-- Some of the strings of a list can be shown together. -/
theorem exists_show?_joined {ss : List Points} (hss : ∀ s ∈ ss, s.isWhole = true)
    (test : Json → Bool) :
    ∃ joined, Json.joined ((ss.map Json.str).filter test) = .ok joined ∧
      ∃ t, show? joined = .ok t := by
  rw [List.filter_map, joined_map]
  refine ⟨_, rfl, exists_show? (Points.isWhole_intercalate (Points.isWhole_ofText _) ?_)⟩
  exact fun s hs => hss s (List.mem_filter.mp hs).1

theorem completes_checkDevelopmentVersions :
    (checkDevelopmentVersions (.obj fields)).Completes := by
  obtain ⟨versions, hversions, hwhole⟩ := h.exists_list "shell-version" (by decide)
  refine completes_lift_bind.mpr ⟨_, rfl, ?_⟩
  rw [hversions]
  refine completes_ite ?_ completes_report
  obtain ⟨joined, hjoined, hshow⟩ := exists_show?_joined hwhole _
  refine completes_lift_bind.mpr ⟨joined, hjoined, ?_⟩
  exact completes_lift_report hshow

/-- The check for versions that cannot load modules ends if the scripts can be read. -/
theorem completes_checkModuleVersions {ext : Extension} (hread : ext.IsReadable) :
    (checkModuleVersions (.obj fields) ext).Completes := by
  obtain ⟨versions, hversions, hwhole⟩ := h.exists_list "shell-version" (by decide)
  refine completes_lift_bind.mpr ⟨_, rfl, ?_⟩
  rw [hversions]
  dsimp only
  split
  next hmain =>
      have hmain := (Bool.and_eq_true_iff.mp hmain).2
      refine completes_lift (hread.exists_text_mainScript hmain) fun t _ => completes_if ?_
      obtain ⟨joined, hjoined, hshow⟩ := exists_show?_joined hwhole _
      refine completes_lift_bind.mpr ⟨joined, hjoined, ?_⟩
      exact completes_lift_report hshow
  next => exact completes_pure ()

omit h in
theorem completes_checkModeUse (fields : List (Points × Json)) (ext : Extension) :
    (checkModeUse (.obj fields) ext).Completes := by
  refine completes_lift_bind.mpr ⟨_, rfl, ?_⟩
  exact completes_ite completes_report
    (completes_ite completes_report completes_each_report)

/-- The check on message domains ends if the scripts can be read. -/
theorem completes_checkDomainUse {ext : Extension} (hread : ext.IsReadable) :
    (checkDomainUse (.obj fields) ext).Completes := by
  refine completes_lift_bind.mpr ⟨_, rfl, ?_⟩
  cases hv : Json.field? fields "gettext-domain" with
  | none => exact completes_pure ()
  | some domain =>
      have hshow := exists_showValue (h.whole_field hv)
      refine completes_if (completes_seq ?_ fun found => completes_ite ?_ ?_)
      · exact completes_collect.mpr fun p hp =>
          completes_lift (hread.exists_text_of_mem_scripts hp) fun _ _ => completes_pure _
      · exact completes_lift_report hshow
      · exact completes_lift_report hshow

/-! ## The whole run -/

/-- All checks on the fields end if the scripts can be read. -/
theorem completes_fieldChecks {ext : Extension} (hread : ext.IsReadable) :
    ∀ c ∈ fieldChecks ext (.obj fields) fields, c.Completes := by
  obtain ⟨uuid, huuid, hwhole⟩ := h.exists_str "uuid" (by decide)
  rw [fieldChecks, huuid]
  simp only [List.forall_mem_cons]
  exact ⟨completes_checkUuid hwhole _, completes_checkShellVersionList _,
    completes_checkRedundantModes _, completes_checkSchema h, completes_checkUuidAtSign hwhole,
    completes_checkFieldNames h, completes_checkVersionField _, completes_checkDomainField _ _,
    completes_checkFutureVersions h, completes_checkTrademark h, completes_checkDonations h,
    completes_checkSessionModes h, completes_checkVersionName h, completes_checkVersionEntries h,
    completes_checkDescription _, completes_checkUrl h, completes_checkDevelopmentVersions h,
    completes_checkModuleVersions h hread, completes_checkModeUse _ _,
    completes_checkDomainUse h hread, by simp⟩

end

/-- A manifest that has been read is a file. -/
theorem isFile_of_readManifest {ext : Extension} {m : Extension.ManifestText}
    (h : ext.readManifest = .ok m) : ext.isFile Extension.manifestPath = true := by
  rw [Extension.readManifest, Extension.strictText, Volume.strictText, Volume.bytes] at h
  rw [Extension.isFile, Volume.isFile]
  cases hs : ext.volume.resolve (ext.base ++ Extension.manifestPath) with
  | error e =>
      rw [hs] at h
      cases h
  | ok s =>
      obtain ⟨path, entry⟩ := s
      rw [hs] at h
      cases entry with
      | file | unreadable => rfl
      | link | dir => cases h

/-- The checks on a manifest that is an object, one after the other. -/
theorem check_eq_each {ext : Extension} {fields : List (Points × Json)}
    (h : ext.readManifest = .ok (.value (.obj fields))) :
    check ext = each (pass "metadata/valid-json" "metadata.json is valid JSON" ::
      checkRequired (.obj fields) :: fieldChecks ext (.obj fields) fields) id := by
  rw [check, isFile_of_readManifest h, h, each_cons, each_cons, ← checkFields_eq_each]
  rfl

/-- The checks on a readable extension whose manifest is a well-typed object all complete: the
command says first that the manifest is JSON, then what each of the checks says, and ends with
status zero. -/
theorem runFamily_manifest_of_wellTyped (v : Volume) (here : Path) (dir : String)
    (args : List String) (fields : List (Points × Json))
    (hread : Extension.IsReadable ⟨v, v.realPath here dir⟩)
    (hmanifest : Extension.readManifest ⟨v, v.realPath here dir⟩ = .ok (.value (.obj fields)))
    (htyped : WellTyped fields) :
    Command.runFamily v here .manifest (dir :: args) =
      { lines := "PASS|metadata/valid-json|metadata.json is valid JSON" ::
          (checkRequired (.obj fields) ::
            fieldChecks ⟨v, v.realPath here dir⟩ (.obj fields) fields).flatMap fun c =>
              (Outcome.ofCheck c).lines
        status := 0
        fault := none } := by
  have hrun : Command.runFamily v here .manifest (dir :: args) =
      Outcome.ofCheck (check ⟨v, v.realPath here dir⟩) := rfl
  rw [hrun, check_eq_each hmanifest, Outcome.ofCheck_each]
  · rfl
  · exact List.forall_mem_cons.mpr ⟨completes_report, List.forall_mem_cons.mpr
      ⟨completes_checkRequired _, completes_fieldChecks htyped hread⟩⟩

/-- The fields of a manifest that is an object. -/
def objectOf : Except Fault Extension.ManifestText → Option (List (Points × Json))
  | .ok (.value (.obj fields)) => some fields
  | _ => none

theorem eq_of_objectOf {r : Except Fault Extension.ManifestText} {fields : List (Points × Json)}
    (h : objectOf r = some fields) : r = .ok (.value (.obj fields)) := by
  unfold objectOf at h
  split at h
  next =>
      cases h
      rfl
  next => cases h

/-- A script beside a manifest with a version that has a part after the point, a mode that does not
exist, too many donation links, and values that are no strings in two other fields. -/
def mixedVolume : Volume :=
  ⟨.dir [("ext", .dir
    [("extension.js", .file (Text.encode "import a from b".toList) false),
      ("metadata.json", .file (Text.encode
        ("\x7b\"uuid\": \"a@b\", \"shell-version\": [\"49\", \"45.1\"], " ++
          "\"session-modes\": [\"x\"], \"settings-schema\": \"s\", " ++
          "\"donations\": \x7b\"github\": [1, 2, 3, 4]\x7d, " ++
          "\"url\": null, \"k\": [1.5]\x7d").toList) false)])], .plain⟩

/-- A manifest with fields of many types gets through all checks. -/
theorem runFamily_manifest_mixedVolume :
    Extension.IsReadable ⟨mixedVolume, ["ext"]⟩ ∧ ∃ fields,
      Extension.readManifest ⟨mixedVolume, ["ext"]⟩ = .ok (.value (.obj fields)) ∧
      fields.length = 7 ∧ WellTyped fields ∧
      (Command.runFamily mixedVolume [] .manifest ["/ext"]).fault = none ∧
      (Command.runFamily mixedVolume [] .manifest ["/ext"]).status = 0 ∧
      (Command.runFamily mixedVolume [] .manifest ["/ext"]).lines.head? =
        some "PASS|metadata/valid-json|metadata.json is valid JSON" := by
  have hread : Extension.IsReadable ⟨mixedVolume, ["ext"]⟩ := by
    intro p hp
    have hp : p ∈ [["extension.js"], ["metadata.json"]] := hp
    rcases List.mem_pair.mp hp with rfl | rfl <;> exact ⟨_, rfl⟩
  have htest : (objectOf (Extension.readManifest ⟨mixedVolume, ["ext"]⟩)).any (fun fields =>
      decide (fields.length = 7 ∧ WellTyped fields)) = true := by
    decide +kernel
  cases hobject : objectOf (Extension.readManifest ⟨mixedVolume, ["ext"]⟩) with
  | none =>
      rw [hobject] at htest
      cases htest
  | some fields =>
      rw [hobject, Option.any_some, decide_eq_true_iff] at htest
      have hmanifest := eq_of_objectOf hobject
      refine ⟨hread, fields, hmanifest, htest.1, htest.2, ?_⟩
      rw [runFamily_manifest_of_wellTyped mixedVolume [] "/ext" [] fields hread hmanifest htest.2]
      exact ⟨rfl, rfl, rfl⟩

end Manifest

end ExtensionAudit
