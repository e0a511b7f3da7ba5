import Mathlib
import ExtensionAudit.Packaging
import ExtensionAudit.Proofs.Segregation

/-!
# Names in a package

The tests on a package look for names among its entries, which the lister prints one a line.  Three
kinds of names are looked for, and each is meant to be found exactly.

* A required name, or a forbidden one, is that of an entry: the entry is the name, or ends with a
  slash and the name (`IsNamed`).  The test lets any character stand for a point of the name
  (`PassesFor`).
* A forbidden directory is one on the way to an entry.  The test asks only that a directory on the
  way ends with the name.

The test for a required name ends with the first entry that passes, and it counts as failed if that
stops the writer of the list (`Machine.finds_iff`).

Main statement: what is reported goes by these tests, and by the exact meaning iff an entry that
passes the test comes with one that has the name (`findings_named`).
-/

namespace ExtensionAudit

/-- A quiet search finds something iff some line is the first that passes, and its writer is not
stopped with the lines after it unread. -/
theorem Machine.finds_iff {m : Machine} {use : String} {file : Path} {test : Text → Bool}
    {lines : List Text} :
    m.finds use file test lines = true ↔ ∃ front line unread, lines = front ++ line :: unread ∧
      (∀ other ∈ front, test other = false) ∧ test line = true ∧
        m.isStopped use file lines unread = false := by
  unfold finds
  constructor
  · intro h
    split at h
    next => cases h
    next line unread hdrop =>
      have hline := List.head?_dropWhile_not (fun line => !test line) lines
      rw [hdrop] at hline
      refine ⟨lines.takeWhile fun line => !test line, line, unread, ?_, fun other hother => ?_, ?_,
        ?_⟩
      · rw [← hdrop, List.takeWhile_append_dropWhile]
      · simpa using List.mem_takeWhile_imp hother
      · simpa using hline
      · simpa using h
  · rintro ⟨front, line, unread, heq, hfront, hline, hstopped⟩
    have hdrop : lines.dropWhile (fun line => !test line) = line :: unread := by
      rw [heq, List.dropWhile_append_of_pos (fun other hother => by simp [hfront other hother]),
        List.dropWhile_cons_of_neg (by simp [hline])]
    rw [hdrop]
    simp [hstopped]

end ExtensionAudit

namespace ExtensionAudit.Packaging

/-! ## Names of entries -/

/-- The entry is the text, or ends with a slash and the text. -/
def IsNamed (w entry : Text) : Prop := entry = w ∨ ∃ dir, entry = dir ++ '/' :: w

/-- The second text agrees with the first, where any character but zero may stand for a point. -/
def Stands (name w : Text) : Prop :=
  List.Forall₂ (fun a b => a = '.' ∧ b.toNat ≠ 0 ∨ a = b) name w

theorem agrees_iff {name w : Text} : agrees name w = true ↔ Stands name w := by
  fun_induction agrees name w with
  | case1 => simp [Stands]
  | case2 a s b t ih => simp [Stands, ih, Text.isZero]
  | case3 s t hnil hcons =>
      refine iff_of_false Bool.false_ne_true fun h => ?_
      cases h with
      | nil => exact hnil rfl rfl
      | cons _ _ => exact hcons _ _ _ _ rfl rfl

theorem Stands.refl (name : Text) : Stands name name :=
  List.forall₂_same.mpr fun _ _ => .inr rfl

theorem startsName_iff {before : Text} :
    startsName before = true ↔ before = [] ∨ ∃ dir, before = dir ++ ['/'] := by
  rw [startsName, Bool.or_eq_true, List.isEmpty_iff, beq_iff_eq, List.getLast?_eq_some_iff]

/-- The entry passes the test for a name. -/
def PassesFor (name entry : Text) : Prop := ∃ w, IsNamed w entry ∧ Stands name w

/-- The test for a name asks for an ending that agrees with it. -/
theorem endsInName_iff {name line : Text} :
    endsInName agrees name line = true ↔ PassesFor name line := by
  have hnamed (w : Text) : IsNamed w line ↔
      ∃ before, line = before ++ w ∧ startsName before = true := by
    simp only [startsName_iff, IsNamed]
    constructor
    · rintro (rfl | ⟨dir, rfl⟩)
      · exact ⟨[], rfl, .inl rfl⟩
      · exact ⟨dir ++ ['/'], by simp, .inr ⟨dir, rfl⟩⟩
    · rintro ⟨_, rfl, rfl | ⟨dir, rfl⟩⟩
      · exact .inl rfl
      · exact .inr ⟨dir, by simp⟩
  simp only [PassesFor, hnamed, endsInName, lastOf, Bool.and_eq_true, agrees_iff]
  constructor
  · rintro ⟨hstarts, hstands⟩
    exact ⟨_, ⟨_, (List.take_append_drop _ line).symm, hstarts⟩, hstands⟩
  · rintro ⟨w, ⟨before, rfl, hstarts⟩, hstands⟩
    have hlength : (before ++ w).length - name.length = before.length := by
      rw [hstands.length_eq, List.length_append, Nat.add_sub_cancel]
    rw [hlength, List.take_left, List.drop_left]
    exact ⟨hstarts, hstands⟩

/-- An entry that has a name passes the test for it. -/
theorem IsNamed.passesFor {name entry : Text} (h : IsNamed name entry) : PassesFor name entry :=
  ⟨name, h, Stands.refl name⟩

/-- The last part of an entry is its name. -/
theorem isNamed_iff {w entry : Text} (hw : '/' ∉ w) :
    IsNamed w entry ↔ (Text.splitAt '/' entry).getLast? = some w := by
  constructor
  · rintro (rfl | ⟨dir, rfl⟩)
    · rw [Text.splitAt_of_notMem hw]
      rfl
    · rw [Text.splitAt_append, Text.splitAt_of_notMem hw, List.getLast?_concat]
  · intro hlast
    obtain ⟨pieces, hpieces⟩ := List.getLast?_eq_some_iff.mp hlast
    have hentry := Text.join_splitAt '/' entry
    rw [hpieces] at hentry
    cases pieces with
    | nil => exact .inl (by simpa [Text.join] using hentry.symm)
    | cons piece pieces =>
        rw [Text.join_append _ (List.cons_ne_nil _ _) (List.cons_ne_nil _ _)] at hentry
        exact .inr ⟨_, by simpa [Text.join] using hentry.symm⟩

/-! ## Directories -/

/-- The directories on the way to an entry. -/
def directories (entry : Text) : List Text := (Text.splitAt '/' entry).dropLast

/-- A slash follows each directory on the way. -/
theorem infix_of_mem_directories {c entry : Text} (h : c ∈ directories entry) :
    c ++ ['/'] <:+: entry := by
  obtain ⟨front, back, hparts⟩ := List.append_of_mem h
  have hpieces := List.dropLast_append_getLast (Text.splitAt_ne_nil '/' entry)
  rw [← directories, hparts, List.append_assoc, List.cons_append] at hpieces
  have hentry := Text.join_splitAt '/' entry
  rw [← hpieces] at hentry
  generalize (Text.splitAt '/' entry).getLast _ = last at hentry
  have htail : c ++ ['/'] <:+: Text.join ['/'] (c :: (back ++ [last])) := by
    have hjoin := Text.join_append ['/'] (List.cons_ne_nil c [])
      (List.append_ne_nil_of_right_ne_nil back (List.cons_ne_nil last []))
    exact ⟨[], Text.join ['/'] (back ++ [last]), by simpa [Text.join] using hjoin.symm⟩
  rw [← hentry]
  cases front with
  | nil => exact htail
  | cons piece front =>
      rw [Text.join_append _ (List.cons_ne_nil _ _) (List.cons_ne_nil _ _)]
      exact htail.trans ((List.suffix_append ..).trans (List.suffix_append ..)).isInfix

/-- The test for a directory asks for one on the way that ends with the name. -/
theorem infix_directory_iff {d line : Text} (hd : '/' ∉ d) :
    d ++ ['/'] <:+: line ↔ ∃ c ∈ directories line, d <:+ c := by
  constructor
  · rintro ⟨front, back, rfl⟩
    have hline : front ++ (d ++ ['/']) ++ back = (front ++ d) ++ '/' :: back := by simp
    have hparts : directories (front ++ (d ++ ['/']) ++ back) =
        Text.splitAt '/' (front ++ d) ++ (Text.splitAt '/' back).dropLast := by
      rw [hline, directories, Text.splitAt_append,
        List.dropLast_append_of_ne_nil (Text.splitAt_ne_nil '/' back)]
    obtain ⟨w, hlast⟩ := Option.ne_none_iff_exists'.mp
      (mt List.getLast?_eq_none_iff.mp (Text.splitAt_ne_nil '/' (front ++ d)))
    have hmem := List.mem_of_getLast? hlast
    have hw := Text.notMem_of_mem_splitAt hmem
    refine ⟨w, hparts ▸ List.mem_append_left _ hmem, ?_⟩
    rcases (isNamed_iff hw).mpr hlast with heq | ⟨dir, heq⟩
    · exact ⟨front, heq⟩
    · -- the name has no slash, so it starts after the last one
      rcases List.suffix_or_suffix_of_suffix (List.suffix_append front d)
        (heq ▸ List.suffix_append dir ('/' :: w)) with hsuffix | hsuffix
      · rcases List.suffix_cons_iff.mp hsuffix with rfl | hsuffix
        · exact absurd List.mem_cons_self hd
        · exact hsuffix
      · exact absurd (hsuffix.mem List.mem_cons_self) hd
  · rintro ⟨c, hc, front, rfl⟩
    refine .trans ?_ (infix_of_mem_directories hc)
    exact ⟨front, [], by simp⟩

/-! ## Entries of a package -/

/-- An entry has the name. -/
def Holds (es : List Text) (name : Text) : Prop := ∃ entry ∈ es, IsNamed name entry

/-- An entry passes the test for the name. -/
def SeemsToHold (es : List Text) (name : Text) : Prop := ∃ entry ∈ es, PassesFor name entry

/-- A directory of the name is on the way to an entry. -/
def HoldsDirectory (es : List Text) (d : Text) : Prop := ∃ entry ∈ es, d ∈ directories entry

/-- A directory with the name at its end is on the way to an entry. -/
def SeemsToHoldDirectory (es : List Text) (d : Text) : Prop :=
  ∃ entry ∈ es, ∃ c ∈ directories entry, d <:+ c

theorem Holds.seemsToHold {es : List Text} {name : Text} (h : Holds es name) :
    SeemsToHold es name := by
  obtain ⟨entry, hentry, hnamed⟩ := h
  exact ⟨entry, hentry, hnamed.passesFor⟩

theorem HoldsDirectory.seemsToHold {es : List Text} {d : Text} (h : HoldsDirectory es d) :
    SeemsToHoldDirectory es d := by
  obtain ⟨entry, hentry, hdir⟩ := h
  exact ⟨entry, hentry, d, hdir, List.suffix_rfl⟩

/-! ## Required names -/

/-- What is said of a required name that is found. -/
def heldFinding (name : String) : Finding :=
  ⟨.pass, s!"package/has-{name}", s!"{name} found in package"⟩

/-- What is said of a required name that is not found. -/
def missingFinding (name : String) : Finding :=
  ⟨.fail, s!"package/has-{name}", s!"{name} missing from package"⟩

section

variable {m : Machine} {p : Path} {lines : List Text}

theorem requiredFindings_eq :
    requiredFindings m p lines = required.map fun name =>
      if holds m p lines name then heldFinding name else missingFinding name := rfl

/-- A required name has one finding. -/
theorem mem_requiredFindings_iff {name : String} (hname : name ∈ required) {f : Finding}
    (hf : f.check = s!"package/has-{name}") :
    f ∈ requiredFindings m p lines ↔
      f = if holds m p lines name then heldFinding name else missingFinding name := by
  have hchecks : ∀ name ∈ required, ∀ other ∈ required,
      s!"package/has-{name}" = s!"package/has-{other}" → name = other := by decide
  rw [requiredFindings_eq, List.mem_map]
  constructor
  · rintro ⟨other, hother, rfl⟩
    have hcheck : s!"package/has-{name}" = s!"package/has-{other}" := by
      rw [← hf]
      split <;> rfl
    rw [hchecks name hname other hother hcheck]
  · rintro rfl
    exact ⟨name, hname, rfl⟩

theorem heldFinding_mem_iff {name : String} (hname : name ∈ required) :
    heldFinding name ∈ requiredFindings m p lines ↔ holds m p lines name = true := by
  rw [mem_requiredFindings_iff hname rfl]
  split <;> simp [heldFinding, missingFinding, *]

theorem missingFinding_mem_iff {name : String} (hname : name ∈ required) :
    missingFinding name ∈ requiredFindings m p lines ↔ ¬ holds m p lines name = true := by
  rw [mem_requiredFindings_iff hname rfl]
  split <;> simp [heldFinding, missingFinding, *]

/-- A writer that is not stopped has the name found iff an entry passes for it. -/
theorem holds_iff {name : String}
    (h : ∀ unread, m.isStopped s!"package/has-{name}" p lines unread = false) :
    holds m p lines name = true ↔ SeemsToHold lines name.toList := by
  rw [holds, Machine.finds_iff]
  simp only [SeemsToHold, ← endsInName_iff]
  constructor
  · rintro ⟨front, line, unread, rfl, -, hline, -⟩
    exact ⟨line, by simp, hline⟩
  · rintro ⟨line, hmem, hline⟩
    obtain ⟨found, hfound⟩ := Option.isSome_iff_exists.mp
      (List.find?_isSome.mpr ⟨line, hmem, hline⟩)
    obtain ⟨hpass, front, unread, heq, hfront⟩ := List.find?_eq_some_iff_append.mp hfound
    exact ⟨front, found, unread, heq, fun other hother => by simpa using hfront other hother, hpass,
      h unread⟩

end

/-! ## Forbidden names -/

/-- What is said of a forbidden name. -/
def forbiddenFinding (s : String) (n : Nat) : Finding :=
  ⟨.fail, "package/no-forbidden", s!"Found forbidden content: {s} ({n} match(es))"⟩

/-- A forbidden name is reported. -/
def Reports (fs : List Finding) (s : String) : Prop := ∃ n, forbiddenFinding s n ∈ fs

/-- Only an ending has a slash before its last character. -/
theorem slash_of_mem_forbidden : ∀ s ∈ forbidden,
    s.toList.head? = some '.' ∧ s.toList.getLast? ≠ some '/' ∨ '/' ∉ s.toList.dropLast := by
  decide

/-- A blank follows the name. -/
theorem exists_detail_eq (s : String) (n : Nat) : ∃ count, (forbiddenFinding s n).detail.toList =
    "Found forbidden content: ".toList ++ (s.toList ++ ' ' :: count) := by
  refine ⟨'(' :: (toString n).toList ++ " match(es))".toList, ?_⟩
  change ("Found forbidden content: " ++ s ++ " (" ++ toString n ++ " match(es))").toList = _
  simp

theorem eq_of_forbiddenFinding_eq {s s' : String} {n n' : Nat} (hs : ' ' ∉ s.toList)
    (hs' : ' ' ∉ s'.toList) (h : forbiddenFinding s n = forbiddenFinding s' n') : s = s' := by
  obtain ⟨count, hdetail⟩ := exists_detail_eq s n
  obtain ⟨count', hdetail'⟩ := exists_detail_eq s' n'
  rw [h, hdetail'] at hdetail
  have hbreak := Text.breakAt_eq_some_iff.mpr ⟨hs, List.append_cancel_left hdetail⟩
  rw [Text.breakAt_eq_some_iff.mpr ⟨hs', rfl⟩] at hbreak
  exact String.toList_inj.mp (congrArg Prod.fst (Option.some.inj hbreak)).symm

/-- What is said of the forbidden names that forbid a line. -/
def reported (found : (Text → Bool) → List Text) : List Finding :=
  forbidden.filterMap fun s =>
    let n := ((Forbidden.ofString s).hits found).length
    if n == 0 then none else some (forbiddenFinding s n)

section

variable {found : (Text → Bool) → List Text}

theorem mem_reported_iff {f : Finding} :
    f ∈ reported found ↔ ∃ s ∈ forbidden, (Forbidden.ofString s).hits found ≠ [] ∧
      f = forbiddenFinding s ((Forbidden.ofString s).hits found).length := by
  simp only [reported, List.mem_filterMap, beq_iff_eq, List.length_eq_zero_iff,
    Option.ite_none_left_eq_some, Option.some.injEq, @eq_comm _ f, ne_eq]

theorem mem_forbiddenFindings_iff {f : Finding} :
    f ∈ forbiddenFindings found ↔ f ∈ reported found ∨ reported found = [] ∧
      f = ⟨.pass, "package/no-forbidden", "No forbidden files found in package"⟩ := by
  have heq : forbiddenFindings found = if (reported found).isEmpty then
      [⟨.pass, "package/no-forbidden", "No forbidden files found in package"⟩]
    else reported found := rfl
  rw [heq]
  split <;> simp_all

/-- A forbidden name is reported iff it forbids a line. -/
theorem reports_forbiddenFindings_iff {s : String} (hs : s ∈ forbidden) :
    Reports (forbiddenFindings found) s ↔ (Forbidden.ofString s).hits found ≠ [] := by
  constructor
  · rintro ⟨n, hn⟩
    rcases mem_forbiddenFindings_iff.mp hn with hn | ⟨-, hpass⟩
    · obtain ⟨s', hs', hhits, heq⟩ := mem_reported_iff.mp hn
      have hblank : ∀ s ∈ forbidden, ' ' ∉ s.toList := by decide
      rw [eq_of_forbiddenFinding_eq (hblank s hs) (hblank s' hs') heq]
      exact hhits
    · cases congrArg Finding.status hpass
  · intro hhits
    exact ⟨_, mem_forbiddenFindings_iff.mpr (.inl (mem_reported_iff.mpr ⟨s, hs, hhits, rfl⟩))⟩

end

theorem endsIn_slash_iff {t : Text} : Text.endsIn ['/'] t = true ↔ t.getLast? = some '/' := by
  rw [Text.endsIn, List.isSuffixOf_iff_suffix, List.singleton_suffix_iff_getLast?_eq_some]

theorem ofString_plain {s : String} (hfirst : s.toList.head? ≠ some '.')
    (hlast : s.toList.getLast? ≠ some '/') : Forbidden.ofString s = .plain s.toList := by
  rw [Forbidden.ofString, if_neg (mt endsIn_slash_iff.mp hlast), if_neg (by simpa using hfirst)]

theorem ofString_directory {s : String} {d : Text} (hs : s.toList = d ++ ['/']) :
    Forbidden.ofString s = .directory (d ++ ['/']) := by
  rw [Forbidden.ofString, hs, if_pos (endsIn_slash_iff.mpr List.getLast?_concat)]

/-- The entries that are printed, as the machine reads them, of which a search with the given test
shows those that pass. -/
def shownIn (m : Machine) (printed : List UInt8) (test : Text → Bool) : List Text :=
  m.shown test (Machine.handedOn printed) (linesOf m printed)

theorem hits_plain_iff {m : Machine} {printed : List UInt8} {s : String}
    (hfirst : s.toList.head? ≠ some '.') (hlast : s.toList.getLast? ≠ some '/') :
    (Forbidden.ofString s).hits (foundLines m printed) ≠ [] ↔
      SeemsToHold (shownIn m printed (endsInName agrees s.toList)) s.toList := by
  rw [ofString_plain hfirst hlast, Forbidden.hits, foundLines]
  simp only [SeemsToHold, shownIn, ← endsInName_iff, ne_eq, List.filter_eq_nil_iff, not_forall,
    not_not, exists_prop]

theorem hits_directory_iff {m : Machine} {printed : List UInt8} {s : String} {d : Text}
    (hs : s.toList = d ++ ['/']) (hd : '/' ∉ d) :
    (Forbidden.ofString s).hits (foundLines m printed) ≠ [] ↔
      SeemsToHoldDirectory (shownIn m printed (Text.occursIn s.toList)) d := by
  rw [ofString_directory hs, Forbidden.hits, foundLines]
  simp only [SeemsToHoldDirectory, shownIn, hs, ← infix_directory_iff hd, ← Text.occursIn_iff,
    ne_eq, List.filter_eq_nil_iff, not_forall, not_not, exists_prop]

/-! ## Findings -/

/-- The checks on other things than names. -/
def otherChecks : List String :=
  ["package/exists", "package/size", "package/nested-structure", "package/compiled-schemas",
    "package/compiled-schemas-forbidden", "package/compiled-schemas-unnecessary",
    "package/nested-zip"]

theorem check_sizeFinding (m : Machine) (e : Entry) :
    (sizeFinding m e).check ∈ otherChecks := by
  unfold sizeFinding
  split <;> simp [otherChecks]

theorem check_of_mem_nestedFindings {m : Machine} {p : Path} {lines : List Text} {f : Finding}
    (h : f ∈ nestedFindings m p lines) : f.check ∈ otherChecks := by
  unfold nestedFindings at h
  split at h <;> simp_all [otherChecks]

theorem check_of_mem_schemaRemarks {m : Machine} {p : Path} {manifest : List UInt8}
    {lines : List Text} {f : Finding} (h : .finding f ∈ schemaRemarks m p manifest lines) :
    f.check ∈ otherChecks := by
  unfold schemaRemarks at h
  split_ifs at h <;> simp_all [otherChecks]

theorem check_of_mem_innerFindings {found : (Text → Bool) → List Text} {f : Finding}
    (h : f ∈ innerFindings found) : f.check ∈ otherChecks := by
  unfold innerFindings at h
  split at h <;> simp_all [otherChecks]

section

variable {ext : Extension} {p : Path} {e : Entry} {printed : List UInt8}
  (hpackage : package? ext = some (p, e)) (hprinted : printedNames? ext.volume p = some printed)

include hpackage hprinted

/-- Findings on names come from the two tests for them. -/
theorem mem_findings_iff {f : Finding} (hf : f.check ∉ otherChecks) :
    f ∈ findings ext ↔ f ∈ forbiddenFindings (foundLines ext.volume.machine printed) ∨
      f ∈ requiredFindings ext.volume.machine p (linesOf ext.volume.machine printed) := by
  have hexists : f ≠ ⟨.pass, "package/exists", s!"Found package: {p.name}"⟩ := by
    rintro rfl
    exact hf (by simp [otherChecks])
  have hsize : f ≠ sizeFinding ext.volume.machine e := by
    rintro rfl
    exact hf (check_sizeFinding _ e)
  rw [findings, Transcript.mem_findings]
  simp only [transcript, hpackage, hprinted, memberRemarks, List.mem_cons, List.mem_append,
    List.mem_map, Remark.finding.injEq, reduceCtorEq, and_false, exists_false, exists_eq_right,
    hexists, hsize, mt check_of_mem_nestedFindings hf, mt check_of_mem_schemaRemarks hf,
    mt check_of_mem_innerFindings hf, false_or, or_false]

end

theorem check_of_mem_forbiddenFindings {found : (Text → Bool) → List Text} {f : Finding}
    (h : f ∈ forbiddenFindings found) : f.check = "package/no-forbidden" := by
  rcases mem_forbiddenFindings_iff.mp h with h | ⟨-, rfl⟩
  · obtain ⟨s, -, -, rfl⟩ := mem_reported_iff.mp h
    rfl
  · rfl

theorem check_of_mem_requiredFindings {m : Machine} {p : Path} {lines : List Text} {f : Finding}
    (h : f ∈ requiredFindings m p lines) : f.check ≠ "package/no-forbidden" := by
  have hchecks : ∀ name ∈ required, s!"package/has-{name}" ≠ "package/no-forbidden" := by
    decide
  rw [requiredFindings_eq] at h
  obtain ⟨name, hname, rfl⟩ := List.mem_map.mp h
  split <;> exact hchecks name hname

section

variable {ext : Extension} {p : Path} {e : Entry} {printed : List UInt8}
  (hpackage : package? ext = some (p, e)) (hprinted : printedNames? ext.volume p = some printed)

include hpackage hprinted

theorem mem_findings_required_iff {name : String} (hname : name ∈ required) {f : Finding}
    (hf : f.check = s!"package/has-{name}") :
    f ∈ findings ext ↔
      f ∈ requiredFindings ext.volume.machine p (linesOf ext.volume.machine printed) := by
  have hchecks : ∀ name ∈ required, s!"package/has-{name}" ∉ otherChecks ∧
      s!"package/has-{name}" ≠ "package/no-forbidden" := by decide
  obtain ⟨hother, hforbidden⟩ := hchecks name hname
  rw [mem_findings_iff hpackage hprinted (hf ▸ hother)]
  exact or_iff_right fun h => hforbidden (hf.symm.trans (check_of_mem_forbiddenFindings h))

theorem reports_findings_iff {s : String} (hs : s ∈ forbidden) :
    Reports (findings ext) s ↔
      (Forbidden.ofString s).hits (foundLines ext.volume.machine printed) ≠ [] := by
  have hmem (n : Nat) : forbiddenFinding s n ∈ findings ext ↔
      forbiddenFinding s n ∈ forbiddenFindings (foundLines ext.volume.machine printed) := by
    rw [mem_findings_iff hpackage hprinted (by simp [forbiddenFinding, otherChecks])]
    exact or_iff_left fun h => check_of_mem_requiredFindings h rfl
  rw [← reports_forbiddenFindings_iff hs]
  exact exists_congr hmem

end

/-- What is handed on comes from what was printed, without zeros. -/
theorem mem_handedOn {bytes : List UInt8} {b : UInt8} (h : b ∈ Machine.handedOn bytes) :
    b ≠ 0 ∧ (b ∈ bytes ∨ b = 10) := by
  rw [Machine.handedOn, List.mem_append, List.mem_reverse, List.mem_singleton] at h
  rcases h with h | rfl
  · have hkept := List.mem_reverse.mp ((List.dropWhile_suffix _).subset h)
    obtain ⟨hmem, hzero⟩ := List.mem_filter.mp hkept
    exact ⟨by simpa using hzero, .inl hmem⟩
  · exact ⟨by decide, .inr rfl⟩

/-- If the list is text in the locale, all entries are shown that pass. -/
theorem shownIn_eq {m : Machine} {printed : List UInt8}
    (h : m.isBroken (Machine.handedOn printed) = false) (test : Text → Bool) :
    shownIn m printed test = linesOf m printed := by
  have hzero : (Machine.handedOn printed).contains 0 = false := by
    rw [Bool.eq_false_iff, ne_eq, List.contains_iff_mem]
    exact fun hmem => (mem_handedOn hmem).1 rfl
  rw [shownIn, Machine.shown, Machine.isBinary, hzero, h, Bool.or_false,
    if_neg Bool.false_ne_true]

/-! ## Lists in ASCII -/

/-- The characters of bytes that are one each. -/
def asciiText (bytes : List UInt8) : Text := bytes.map fun b => Char.ofNat b.toNat

theorem toNat_ofNat_of_ascii {b : UInt8} (h : b.toNat < 128) :
    (Char.ofNat b.toNat).toNat = b.toNat := by
  rw [Char.toNat_ofNat, if_pos (.inl (by omega))]

theorem readLossy_of_ascii {bytes : List UInt8} (h : ∀ b ∈ bytes, b.toNat < 128) :
    Text.readLossy bytes = asciiText bytes := by
  induction bytes with
  | nil => rfl
  | cons b rest ih =>
      obtain ⟨hb, hrest⟩ := List.forall_mem_cons.mp h
      have hopening : Text.opening b.toNat = .whole (Char.ofNat b.toNat) := by
        rw [Text.opening, if_pos hb]
      have htail := ih hrest
      simp only [Text.readLossy, asciiText] at htail ⊢
      simp only [Text.decodeFrom, hopening, List.map_cons, Option.getD_some, htail]

theorem encode_asciiText {bytes : List UInt8} (h : ∀ b ∈ bytes, b.toNat < 128) :
    Text.encode (asciiText bytes) = bytes := by
  induction bytes with
  | nil => rfl
  | cons b rest ih =>
      obtain ⟨hb, hrest⟩ := List.forall_mem_cons.mp h
      have hchar : String.utf8EncodeChar (Char.ofNat b.toNat) = [b] := by
        have hnat : (Char.ofNat b.toNat).val.toNat = b.toNat := toNat_ofNat_of_ascii hb
        simp only [String.utf8EncodeChar, hnat, if_pos (Nat.lt_succ_iff.mp hb), UInt8.ofNat_toNat]
      have htail := ih hrest
      simp only [Text.encode, asciiText] at htail
      simp only [Text.encode, asciiText, List.map_cons, List.flatMap_cons, hchar, htail,
        List.singleton_append]

theorem eq_newline_iff {b : UInt8} (h : b.toNat < 128) : Char.ofNat b.toNat = '\n' ↔ b = 10 := by
  constructor
  · intro heq
    have hnat := congrArg Char.toNat heq
    rw [toNat_ofNat_of_ascii h] at hnat
    exact UInt8.toNat_inj.mp hnat
  · rintro rfl
    rfl

/-- The rows of the text are those of its bytes. -/
theorem rows_asciiText {bytes : List UInt8} (h : ∀ b ∈ bytes, b.toNat < 128) :
    (asciiText bytes).rows = (Text.byteRows bytes).map asciiText := by
  induction bytes with
  | nil => rfl
  | cons b rest ih =>
      obtain ⟨hb, hrest⟩ := List.forall_mem_cons.mp h
      have htail := ih hrest
      by_cases hnewline : b = 10
      · subst hnewline
        exact congrArg ([] :: ·) htail
      · have hchar : Char.ofNat b.toNat ≠ '\n' := mt (eq_newline_iff hb).mp hnewline
        have hkeep (line : Text) : Text.dropNewline (Char.ofNat b.toNat :: line) =
            Char.ofNat b.toNat :: Text.dropNewline line :=
          List.takeWhile_cons_of_pos (by simpa using hchar)
        change (Text.newlineLines (Char.ofNat b.toNat :: asciiText rest)).map Text.dropNewline = _
        rw [Text.newlineLines, if_neg (by simpa using hchar), Text.byteRows,
          if_neg (by simpa using hnewline)]
        rw [Text.rows] at htail
        cases hlines : Text.newlineLines (asciiText rest) with
        | nil =>
            rw [hlines, List.map_nil, eq_comm, List.map_eq_nil_iff] at htail
            rw [htail]
            exact congrArg (fun row => [row]) (hkeep [])
        | cons line more =>
            rw [hlines, List.map_cons, eq_comm, List.map_eq_cons_iff] at htail
            obtain ⟨row, rows, hrows, hrow, hmore⟩ := htail
            rw [hrows]
            exact congrArg₂ List.cons ((hkeep line).trans (congrArg _ hrow.symm)) hmore.symm

theorem forall_mem_byteRows {bytes : List UInt8} {p : UInt8 → Prop} (h : ∀ b ∈ bytes, p b) :
    ∀ row ∈ Text.byteRows bytes, ∀ b ∈ row, p b := by
  induction bytes with
  | nil => simp [Text.byteRows]
  | cons b rest ih =>
      obtain ⟨hb, hrest⟩ := List.forall_mem_cons.mp h
      have htail := ih hrest
      rw [Text.byteRows]
      split
      · exact List.forall_mem_cons.mpr ⟨by simp, htail⟩
      · split
        next => simpa using hb
        next row more hrows =>
            obtain ⟨hrow, hmore⟩ := List.forall_mem_cons.mp (hrows ▸ htail)
            exact List.forall_mem_cons.mpr ⟨List.forall_mem_cons.mpr ⟨hb, hrow⟩, hmore⟩

/-- The entries of a list in ASCII are its rows. -/
theorem linesOf_of_ascii (m : Machine) {printed : List UInt8}
    (h : ∀ b ∈ Machine.handedOn printed, b.toNat < 128) :
    linesOf m printed = (Text.readLossy (Machine.handedOn printed)).rows := by
  rw [readLossy_of_ascii h, rows_asciiText h, linesOf]
  exact List.map_congr_left fun row hrow => m.read_ascii row (forall_mem_byteRows h row hrow)

/-- A report goes by a test that never fails what it is for.  So it is right iff the test is passed
for nothing else. -/
def GoesBy (report test meant : Prop) : Prop :=
  (report ↔ test) ∧ (meant → report) ∧ ((report ↔ meant) ↔ (test → meant))

theorem GoesBy.of_iff {report test meant : Prop} (hreport : report ↔ test) (htest : meant → test) :
    GoesBy report test meant := by
  refine ⟨hreport, fun h => hreport.mpr (htest h), fun h htest => h.mp (hreport.mpr htest), ?_⟩
  intro h
  exact ⟨fun hr => h (hreport.mp hr), fun hm => hreport.mpr (htest hm)⟩

/-- Reports on the names in a package go by the tests.  A required name is found iff an entry is the
first that passes for it and the writer of the list is not stopped there.  A forbidden name is found
iff an entry that is shown passes for it, and a forbidden directory iff a directory on the way to
such an entry ends with its name; of a list that is text in the locale all entries are shown.  With
these provisos what is there is always found, and the report is right iff nothing else passes
instead of it.  The entries of a list in ASCII are its lines as they are. -/
theorem findings_named {ext : Extension} {p : Path} {e : Entry} {printed : List UInt8}
    (hpackage : package? ext = some (p, e))
    (hprinted : printedNames? ext.volume p = some printed) :
    let m := ext.volume.machine
    let es := linesOf m printed
    let shown := shownIn m printed
    (∀ name ∈ required,
      (heldFinding name ∈ findings ext ↔ ∃ front entry unread, es = front ++ entry :: unread ∧
        (∀ other ∈ front, ¬ PassesFor name.toList other) ∧ PassesFor name.toList entry ∧
          m.isStopped s!"package/has-{name}" p es unread = false) ∧
      (missingFinding name ∈ findings ext ↔ heldFinding name ∉ findings ext) ∧
      ((∀ unread, m.isStopped s!"package/has-{name}" p es unread = false) →
        GoesBy (heldFinding name ∈ findings ext) (SeemsToHold es name.toList)
          (Holds es name.toList))) ∧
    (∀ s ∈ forbidden, s.toList.head? ≠ some '.' → s.toList.getLast? ≠ some '/' →
      GoesBy (Reports (findings ext) s)
        (SeemsToHold (shown (endsInName agrees s.toList)) s.toList)
        (∃ entry ∈ shown (endsInName agrees s.toList),
          (Text.splitAt '/' entry).getLast? = some s.toList)) ∧
    (∀ s ∈ forbidden, ∀ d, s.toList = d ++ ['/'] →
      GoesBy (Reports (findings ext) s)
        (SeemsToHoldDirectory (shown (Text.occursIn s.toList)) d)
        (HoldsDirectory (shown (Text.occursIn s.toList)) d)) ∧
    (m.isBroken (Machine.handedOn printed) = false → ∀ test, shown test = es) ∧
    ((∀ b ∈ printed, b.toNat < 128) →
      es = (Text.readLossy (Machine.handedOn printed)).rows ∧ ∀ test, shown test = es) := by
  intro m es shown
  refine ⟨fun name hname => ?_, fun s hs hfirst hlast => ?_, fun s hs d hd => ?_, shownIn_eq,
    fun hascii => ?_⟩
  · have hheld : heldFinding name ∈ findings ext ↔ holds m p es name = true := by
      rw [mem_findings_required_iff hpackage hprinted hname rfl, heldFinding_mem_iff hname]
    have hmissing : missingFinding name ∈ findings ext ↔ ¬ holds m p es name = true := by
      rw [mem_findings_required_iff hpackage hprinted hname rfl, missingFinding_mem_iff hname]
    refine ⟨?_, hmissing.trans (not_congr hheld).symm, fun hstopped => ?_⟩
    · rw [hheld, holds, Machine.finds_iff]
      simp only [← endsInName_iff, Bool.not_eq_true]
    · exact .of_iff (hheld.trans (holds_iff hstopped)) Holds.seemsToHold
  · have hslash : '/' ∉ s.toList := by
      have hfront := (slash_of_mem_forbidden s hs).resolve_left fun h => hfirst h.1
      rcases List.eq_nil_or_concat s.toList with hnil | ⟨front, c, hconcat⟩
      · simp [hnil]
      · rw [hconcat] at hfront hlast ⊢
        simpa [eq_comm] using And.intro hfront hlast
    have hreport := (reports_findings_iff hpackage hprinted hs).trans (hits_plain_iff hfirst hlast)
    refine .of_iff hreport fun hlasts => Holds.seemsToHold ?_
    simpa only [Holds, isNamed_iff hslash] using hlasts
  · have hslash : '/' ∉ d := by
      have hfront := (slash_of_mem_forbidden s hs).resolve_left fun h =>
        h.2 (hd ▸ List.getLast?_concat)
      rwa [hd, List.dropLast_concat] at hfront
    have hreport := (reports_findings_iff hpackage hprinted hs).trans (hits_directory_iff hd hslash)
    exact .of_iff hreport HoldsDirectory.seemsToHold
  · have hnames : ∀ b ∈ Machine.handedOn printed, b.toNat < 128 := by
      intro b hb
      rcases (mem_handedOn hb).2 with hmem | rfl
      · exact hascii b hmem
      · decide
    refine ⟨linesOf_of_ascii m hnames, shownIn_eq ?_⟩
    rw [← encode_asciiText hnames]
    exact m.isBroken_encode _

/-! ## A package in use -/

/-- The extension that is nothing but a package, on a machine whose lister prints these names. -/
def packed (names : List String) : Extension :=
  ⟨⟨.dir [("a.zip", .file [] false)], { Machine.plain with
    lister? := some fun _ _ => Text.encode (Text.join ['\n'] (names.map String.toList)) }⟩, []⟩

/-- Names of each kind, and texts that only look like names. -/
def lookalikes : List String :=
  ["src/metadata.json", "README.md", "node_modules/b.js", "extensionXjs", "mydist/a.js"]

/-- What is printed of the package with these names. -/
def printedLookalikes : List UInt8 :=
  Text.encode (Text.join ['\n'] (lookalikes.map String.toList))

theorem package?_packed (names : List String) :
    package? (packed names) = some (["a.zip"], .file [] false) := by
  have hfind : (packed names).volume.find [] =
      [([], .dir [("a.zip", .file [] false)]), (["a.zip"], .file [] false)] := rfl
  rw [package?]
  change List.find? _ ((packed names).volume.find []) = _
  rw [hfind]
  rfl

theorem linesOf_lookalikes :
    linesOf (packed lookalikes).volume.machine printedLookalikes =
      lookalikes.map String.toList := by
  decide

theorem shownIn_lookalikes (test : Text → Bool) :
    shownIn (packed lookalikes).volume.machine printedLookalikes test =
      lookalikes.map String.toList :=
  (shownIn_eq rfl test).trans linesOf_lookalikes

/-- Names that are there are found. -/
theorem findings_named_lookalikes :
    (package? (packed lookalikes) = some (["a.zip"], .file [] false) ∧
      printedNames? (packed lookalikes).volume ["a.zip"] = some printedLookalikes) ∧
      heldFinding "metadata.json" ∈ findings (packed lookalikes) ∧
      Reports (findings (packed lookalikes)) "README.md" ∧
      Reports (findings (packed lookalikes)) "node_modules/" := by
  have hpackage := package?_packed lookalikes
  have hprinted : printedNames? (packed lookalikes).volume ["a.zip"] = some printedLookalikes := rfl
  have hlisted : ("metadata.json" ∈ required ∧ "README.md" ∈ forbidden ∧
        "node_modules/" ∈ forbidden) ∧
      ("src/metadata.json".toList ∈ lookalikes.map String.toList ∧
        "src/metadata.json".toList = "src".toList ++ '/' :: "metadata.json".toList) ∧
      (∃ entry ∈ lookalikes.map String.toList,
        (Text.splitAt '/' entry).getLast? = some "README.md".toList) ∧
      ∃ entry ∈ lookalikes.map String.toList, "node_modules".toList ∈ directories entry := by
    decide
  obtain ⟨⟨hname, hplain, hdirectory⟩, ⟨hentry, hcut⟩, hreadme, hmodules⟩ := hlisted
  obtain ⟨hrequired, hplains, hdirectories, -⟩ := findings_named hpackage hprinted
  refine ⟨⟨hpackage, hprinted⟩, ?_, ?_, ?_⟩
  · refine ((hrequired _ hname).2.2 fun _ => rfl).2.1 ⟨_, ?_, .inr ⟨_, hcut⟩⟩
    rw [linesOf_lookalikes]
    exact hentry
  · refine (hplains _ hplain (by decide) (by decide)).2.1 ?_
    rw [shownIn_lookalikes]
    exact hreadme
  · refine (hdirectories _ hdirectory "node_modules".toList (by decide)).2.1 ?_
    rw [shownIn_lookalikes]
    exact hmodules

/-- Names that are not there are found. -/
theorem findings_lookalikes :
    (heldFinding "extension.js" ∈ findings (packed lookalikes) ∧
      ¬ Holds (lookalikes.map String.toList) "extension.js".toList) ∧
    (Reports (findings (packed lookalikes)) "dist/" ∧
      ¬ HoldsDirectory (lookalikes.map String.toList) "dist".toList) := by
  have hpackage := package?_packed lookalikes
  have hprinted : printedNames? (packed lookalikes).volume ["a.zip"] = some printedLookalikes := rfl
  have hheld : holds (packed lookalikes).volume.machine ["a.zip"]
      (linesOf (packed lookalikes).volume.machine printedLookalikes) "extension.js" = true := by
    decide
  have hdist : (Forbidden.ofString "dist/").hits
      (foundLines (packed lookalikes).volume.machine printedLookalikes) ≠ [] := by
    decide
  have hholds : ¬ Holds (lookalikes.map String.toList) "extension.js".toList := by
    simp only [Holds, isNamed_iff (w := "extension.js".toList) (by decide)]
    decide
  have hdirectory : ¬ HoldsDirectory (lookalikes.map String.toList) "dist".toList := by
    unfold HoldsDirectory
    decide
  refine ⟨⟨?_, hholds⟩, ?_, hdirectory⟩
  · rw [mem_findings_required_iff hpackage hprinted (by decide) rfl]
    exact (heldFinding_mem_iff (by decide)).mpr hheld
  · exact (reports_findings_iff hpackage hprinted (by decide)).mpr hdist

end ExtensionAudit.Packaging
