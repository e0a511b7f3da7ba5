import Mathlib
import ExtensionAudit.Proofs.Outcome
import ExtensionAudit.Proofs.Reach
import ExtensionAudit.Proofs.Text
import ExtensionAudit.Proofs.Volume
import ExtensionAudit.Segregation

/-!
# What the preferences reach

The preferences reach names by imports of local files, and the imports may form cycles and leave
the extension.  What is printed for an import depends on its path and on the directory of its file,
and a tree has finitely many of both (`mem_everyLine`).  So the search for the names ends by
itself, whatever the imports are, and gives the least set that holds the preferences and is closed
under imports.

The findings follow from it: one for each row with a library of the shell in the file of one of
these names, the preferences apart.  A name that starts with a hyphen is no name to the search,
which then shows rows of its own.  That all is well is said iff nothing else is.
-/

namespace ExtensionAudit

/-! ## Rows that a search shows -/

theorem Machine.shown_prefix {α : Type} (m : Machine) (test : Text → Bool) (bytes : List UInt8)
    (rows : List α) : m.shown test bytes rows <+: rows := by
  unfold shown
  split
  · exact List.take_prefix _ _
  · exact List.prefix_rfl

namespace Volume

/-- The file at a path is text in the locale, if it can be read at all. -/
def IsText (v : Volume) (p : Path) : Prop :=
  ∀ bytes, v.bytes p = .ok bytes → v.machine.isBinary bytes = false

theorem shownRows_prefix (v : Volume) (test : Text → Bool) (p : Path) :
    v.shownRows test p <+: Text.numbered (v.plainText p).rows := by
  unfold shownRows plainText
  cases v.bytes p with
  | ok bytes => exact v.machine.shown_prefix test bytes _
  | error e => exact List.nil_prefix

/-- Of a text all rows are shown. -/
theorem IsText.shownRows_eq {v : Volume} {p : Path} (h : v.IsText p) (test : Text → Bool) :
    v.shownRows test p = Text.numbered (v.plainText p).rows := by
  unfold shownRows plainText
  cases hbytes : v.bytes p with
  | ok bytes => simp [Machine.shownRows, Machine.shown, h bytes hbytes]
  | error e => rfl

end Volume

namespace Segregation

/-! ## Imports -/

/-- An import is in a file of the volume or in what is read from the input. -/
theorem mem_importPaths_of_mem_everything {v : Volume} {here : Path} {name : String} {path : Text}
    (h : path ∈ importPaths v.machine.isBlank (rowsOf v here name)) :
    ∃ bytes ∈ v.machine.input :: v.everything.map (fun x => x.2.contents),
      path ∈ importPaths v.machine.isBlank
        (v.machine.shownRows (importsLocal v.machine.isBlank) bytes) := by
  unfold rowsOf at h
  dsimp only at h
  split at h
  next => exact ⟨_, List.mem_cons_self, h⟩
  next =>
    unfold Volume.shownRows at h
    split at h
    next bytes hbytes =>
      have hmem := List.mem_map.mpr (Volume.exists_mem_everything_of_bytes hbytes)
      exact ⟨bytes, List.mem_cons_of_mem _ hmem, h⟩
    next => cases h

/-- An import is one of the finitely many that there can be. -/
theorem mem_everyLine {v : Volume} {here : Path} {name line : String}
    (h : line ∈ localImports v here name) : line ∈ everyLine v := by
  unfold localImports at h
  split at h
  · cases h
  split at h
  next dir hdir =>
    obtain ⟨path, hpath, hline⟩ := List.mem_flatMap.mp h
    obtain ⟨bytes, hbytes, hpath⟩ :=
      mem_importPaths_of_mem_everything ((List.takeWhile_sublist _).subset hpath)
    refine List.mem_flatMap.mpr ⟨_, Volume.mem_everything_of_resolve hdir, ?_⟩
    exact List.mem_flatMap.mpr ⟨path, List.mem_flatMap.mpr ⟨bytes, hbytes, hpath⟩, hline⟩
  next => cases h

section

variable (here : Path) (ext : Extension)

/-- The search for the names that the preferences reach ends by itself. -/
theorem leaves_reachedNames :
    Reach.Leaves (localImports ext.volume here) [] [preferencesName ext]
      (reachedNames here ext) := by
  let u : Finset String := (preferencesName ext :: everyLine ext.volume).toFinset
  have hcard : u.card ≤ (everyLine ext.volume).length + 1 := List.toFinset_card_le _
  refine Reach.leaves_reached (u := u) ?_ ?_ hcard
  · intro name _ line hline
    exact List.mem_toFinset.mpr (List.mem_cons_of_mem _ (mem_everyLine hline))
  · exact List.mem_toFinset.mpr List.mem_cons_self

theorem known_reachedNames :
    Reach.Known (localImports ext.volume here) (preferencesName ext) (reachedNames here ext) [] :=
  (leaves_reachedNames here ext).known (Reach.known_start _ _)

theorem nodup_reachedNames : (reachedNames here ext).Nodup := by
  simpa using (known_reachedNames here ext).nodup

/-- The names other than that of the preferences are listed in some order. -/
theorem sharedNames_perm :
    (sharedNames here ext).Perm
      ((reachedNames here ext).filter fun name => name != preferencesName ext) :=
  (ext.volume.machine.shuffle_perm _).filter _

theorem mem_sharedNames {here : Path} {ext : Extension} {name : String} :
    name ∈ sharedNames here ext ↔
      name ∈ reachedNames here ext ∧ name ≠ preferencesName ext := by
  rw [(sharedNames_perm here ext).mem_iff, List.mem_filter, bne_iff_ne]

theorem nodup_sharedNames : (sharedNames here ext).Nodup :=
  (sharedNames_perm here ext).nodup_iff.mpr ((nodup_reachedNames here ext).filter _)

end

/-! ## Rows with a library of the shell -/

/-- A row of a file names a library of the shell. -/
def ShellRow (v : Volume) (file : Path) (n : Nat) (row : Text) : Prop :=
  ∃ i, n = i + 1 ∧ (v.plainText file).rows[i]? = some row ∧
    ∃ library ∈ ["gi://Clutter", "gi://Meta", "gi://St", "gi://Shell"], library.toList <:+: row

/-- The finding on a row that is shown for a name. -/
def sharedFinding (ext : Extension) (name : String) (row : Text) : Finding :=
  ⟨.fail, "imports/shared-module-shell",
    s!"{shownName ext name}: Shell runtime import in module reachable from prefs.js: " ++
      String.ofList row⟩

theorem importsShell_iff (row : Text) :
    importsShell row = true ↔
      ∃ library ∈ ["gi://Clutter", "gi://Meta", "gi://St", "gi://Shell"],
        library.toList <:+: row := by
  simp only [importsShell, holdsAny, List.any_eq_true, Text.occursIn_iff]

/-- In a text, the rows with a library of the shell are found. -/
theorem mem_foundRows {v : Volume} {file : Path} (h : v.IsText file) {n : Nat} {row : Text} :
    (n, row) ∈ v.foundRows file importsShell ↔ ShellRow v file n row := by
  unfold Volume.foundRows ShellRow
  rw [h.shownRows_eq, List.mem_filter, importsShell_iff, List.mem_iff_getElem?]
  simp only [Text.getElem?_numbered, Option.map_eq_some_iff, Prod.mk.injEq]
  constructor
  · rintro ⟨⟨i, _, hrow, rfl, rfl⟩, hlib⟩
    exact ⟨i, rfl, hrow, hlib⟩
  · rintro ⟨i, rfl, hrow, hlib⟩
    exact ⟨⟨i, row, hrow, rfl, rfl⟩, hlib⟩

theorem nodup_foundRows (v : Volume) (file : Path) (test : Text → Bool) :
    (v.foundRows file test).Nodup :=
  ((v.shownRows_prefix test file).sublist.nodup (Text.nodup_numbered _)).filter _

/-! ## Findings -/

/-- The findings are failures of one check. -/
def FailuresOf (check : String) (fs : List Finding) : Prop :=
  ∀ f ∈ fs, f.status = .fail ∧ f.check = check

theorem failuresOf_toolkitFindings (ext : Extension) :
    FailuresOf "imports/no-gtk-in-extension" (toolkitFindings ext) := by
  intro f hf
  obtain ⟨file, -, hf⟩ := List.mem_flatMap.mp hf
  obtain ⟨row, -, rfl⟩ := List.mem_map.mp hf
  exact ⟨rfl, rfl⟩

theorem failuresOf_shellFindings (ext : Extension) :
    FailuresOf "imports/no-shell-in-prefs" (shellFindings ext) := by
  intro f hf
  unfold shellFindings at hf
  split at hf
  next =>
    obtain ⟨row, -, rfl⟩ := List.mem_map.mp hf
    exact ⟨rfl, rfl⟩
  next => cases hf

theorem failuresOf_caseFindings (ext : Extension) (file : Path) (wrong detail : String) :
    FailuresOf "imports/resource-path-case" (caseFindings ext file wrong detail) := by
  intro f hf
  unfold caseFindings at hf
  split at hf
  next =>
    rw [List.mem_singleton.mp hf]
    exact ⟨rfl, rfl⟩
  next => cases hf

/-- The findings on shared modules are failures of one check. -/
theorem failuresOf_sharedViolations (here : Path) (ext : Extension) :
    FailuresOf "imports/shared-module-shell" (sharedViolations here ext) := by
  intro f hf
  unfold sharedViolations at hf
  split at hf
  next =>
    obtain ⟨name, -, hf⟩ := List.mem_flatMap.mp hf
    obtain ⟨row, -, rfl⟩ := List.mem_map.mp hf
    exact ⟨rfl, rfl⟩
  next => cases hf

/-- The finding is on a name that the preferences reach. -/
def isShared (f : Finding) : Bool := f.check == "imports/shared-module-shell"

theorem FailuresOf.filter_isShared {check : String} {fs : List Finding}
    (h : FailuresOf check fs) (hne : check ≠ "imports/shared-module-shell") :
    fs.filter isShared = [] := by
  rw [List.filter_eq_nil_iff]
  intro f hf hshared
  exact hne ((h f hf).2.symm.trans (beq_iff_eq.mp hshared))

theorem filter_ownViolations (ext : Extension) : (ownViolations ext).filter isShared = [] := by
  have htoolkit := (failuresOf_toolkitFindings ext).filter_isShared (by decide)
  have hshell := (failuresOf_shellFindings ext).filter_isShared (by decide)
  have hcase := fun file wrong detail =>
    (failuresOf_caseFindings ext file wrong detail).filter_isShared (by decide)
  simp only [ownViolations, List.filter_append, htoolkit, hshell, hcase, List.append_nil]

theorem status_of_mem_ownViolations {ext : Extension} {f : Finding} (h : f ∈ ownViolations ext) :
    f.status = .fail := by
  simp only [ownViolations, List.mem_append] at h
  rcases h with ((h | h) | h) | h
  · exact (failuresOf_toolkitFindings ext f h).1
  · exact (failuresOf_shellFindings ext f h).1
  · exact (failuresOf_caseFindings _ _ _ _ f h).1
  · exact (failuresOf_caseFindings _ _ _ _ f h).1

/-- The findings on imports, without what is said beside them. -/
theorem findings_eq (here : Path) (ext : Extension) :
    findings here ext = ownViolations ext ++ (sharedViolations here ext ++
      if (ownViolations ext).isEmpty && (sharedViolations here ext).isEmpty then
        [⟨.pass, "imports/segregation", "Import contexts are properly segregated"⟩]
      else []) := by
  simp only [findings, transcript, Transcript.findings, List.filterMap_append, filterMap_finding,
    filterMap_note, List.append_nil]

/-- The findings of this check are on the rows of the names, one after the other. -/
theorem filter_findings {here : Path} {ext : Extension} (hprefs : ext.isFile preferences = true) :
    (findings here ext).filter isShared =
      (sharedNames here ext).flatMap fun name =>
        (shellRows ext.volume here name).map (sharedFinding ext name) := by
  have hshared : (sharedViolations here ext).filter isShared = sharedViolations here ext := by
    rw [List.filter_eq_self]
    exact fun f hf => beq_iff_eq.mpr (failuresOf_sharedViolations here ext f hf).2
  have hwell : (if (ownViolations ext).isEmpty && (sharedViolations here ext).isEmpty then
      [⟨.pass, "imports/segregation", "Import contexts are properly segregated"⟩]
      else []).filter isShared = [] := by
    split <;> rfl
  rw [findings_eq, List.filter_append, List.filter_append, filter_ownViolations, hshared, hwell,
    List.nil_append, List.append_nil, sharedViolations, if_pos hprefs]
  rfl

/-- That all is well is said iff nothing fails. -/
theorem pass_mem_findings_iff (here : Path) (ext : Extension) :
    (∃ f ∈ findings here ext, f.status = .pass ∧ f.check = "imports/segregation") ↔
      ∀ f ∈ findings here ext, f.status ≠ .fail := by
  have hfails : ∀ f ∈ ownViolations ext ++ sharedViolations here ext, f.status = .fail := by
    intro f hf
    rcases List.mem_append.mp hf with hf | hf
    · exact status_of_mem_ownViolations hf
    · exact (failuresOf_sharedViolations here ext f hf).1
  rw [findings_eq, ← List.append_assoc]
  by_cases hnone : ownViolations ext ++ sharedViolations here ext = []
  · obtain ⟨hown, hshared⟩ := List.append_eq_nil_iff.mp hnone
    simp [hown, hshared]
  · have hsome : ¬ ((ownViolations ext).isEmpty && (sharedViolations here ext).isEmpty) = true := by
      simpa using hnone
    obtain ⟨f, hf⟩ := List.exists_mem_of_ne_nil _ hnone
    rw [if_neg hsome, List.append_nil]
    constructor
    · rintro ⟨g, hg, hpass, -⟩
      rw [hfails g hg] at hpass
      cases hpass
    · exact fun hall => absurd (hfails f hf) (hall f hf)

/-- The rows that are shown for a name that looks like no option and leads to a text. -/
theorem shellRows_eq {v : Volume} {here : Path} {name : String}
    (h : name.toList.head? ≠ some '-') :
    shellRows v here name = (v.foundRows (Path.stepsFrom here name) importsShell).map fun row =>
      (toString row.1).toList ++ ':' :: row.2 := by
  rw [shellRows, if_neg (by simpa using h)]
  rfl

/-- The rows with a library of the shell in the files of all names that the preferences reach,
their own apart, each once. -/
theorem exists_sharedRows {here : Path} {ext : Extension}
    (h : ∀ name ∈ sharedNames here ext, name.toList.head? ≠ some '-' ∧
      ext.volume.IsText (Path.stepsFrom here name)) :
    ∃ rows : List (String × Nat × Text), rows.Nodup ∧
      (∀ name n row, (name, n, row) ∈ rows ↔
        name ∈ sharedNames here ext ∧ ShellRow ext.volume (Path.stepsFrom here name) n row) ∧
      ((sharedNames here ext).flatMap fun name =>
        (shellRows ext.volume here name).map (sharedFinding ext name)) =
        rows.map fun x => sharedFinding ext x.1 ((toString x.2.1).toList ++ ':' :: x.2.2) := by
  refine ⟨(sharedNames here ext).flatMap fun name =>
    (ext.volume.foundRows (Path.stepsFrom here name) importsShell).map (name, ·), ?_, ?_, ?_⟩
  · rw [List.nodup_flatMap]
    constructor
    · intro name _
      exact (nodup_foundRows ext.volume _ _).map (Prod.mk_right_injective name)
    · refine (nodup_sharedNames here ext).imp fun hne row hf hg => hne ?_
      obtain ⟨_, -, rfl⟩ := List.mem_map.mp hf
      obtain ⟨_, -, heq⟩ := List.mem_map.mp hg
      exact (Prod.mk.inj heq).1.symm
  · intro name n row
    simp only [List.mem_flatMap, List.mem_map, Prod.mk.injEq]
    constructor
    · rintro ⟨other, hother, found, hfound, rfl, rfl⟩
      exact ⟨hother, (mem_foundRows (h other hother).2).mp hfound⟩
    · rintro ⟨hname, hrow⟩
      exact ⟨name, hname, _, (mem_foundRows (h name hname).2).mpr hrow, rfl, rfl⟩
  · rw [List.map_flatMap]
    apply List.flatMap_congr
    intro name hname
    rw [shellRows_eq (h name hname).1, List.map_map, List.map_map]
    rfl

/-- The search for the names that the preferences reach ends, whatever the imports are.  It takes
each name from its queue once, and the names are the least set that holds the preferences and is
closed under imports.  The findings on them are on the rows that are shown for each name, the
preferences apart, in some order of the names.  If the names look like no options and their files
are texts, these are the rows with a library of the shell, each once.  That all is well is said iff
nothing fails. -/
theorem findings_of_reachedNames (here : Path) (ext : Extension)
    (hprefs : ext.isFile preferences = true) :
    let v := ext.volume
    let start := preferencesName ext
    let names := reachedNames here ext
    let shared := (findings here ext).filter fun f => f.check == "imports/shared-module-shell"
    Reach.Leaves (localImports v here) [] [start] names ∧ names.Nodup ∧
      IsLeast {s | Reach.Closed (localImports v here) start s} {name | name ∈ names} ∧
      (∃ order : List String, order.Perm (names.filter fun name => name != start) ∧
        shared = order.flatMap fun name => (shellRows v here name).map (sharedFinding ext name)) ∧
      ((∀ name ∈ names, name ≠ start →
          name.toList.head? ≠ some '-' ∧ v.IsText (Path.stepsFrom here name)) →
        ∃ rows : List (String × Nat × Text), rows.Nodup ∧
          (∀ name n row, (name, n, row) ∈ rows ↔
            name ∈ names ∧ name ≠ start ∧ ShellRow v (Path.stepsFrom here name) n row) ∧
          shared =
            rows.map fun x => sharedFinding ext x.1 ((toString x.2.1).toList ++ ':' :: x.2.2)) ∧
      ((∃ f ∈ findings here ext, f.status = .pass ∧ f.check = "imports/segregation") ↔
        ∀ f ∈ findings here ext, f.status ≠ .fail) := by
  intro v start names shared
  refine ⟨leaves_reachedNames here ext, nodup_reachedNames here ext,
    (known_reachedNames here ext).isLeast,
    ⟨_, sharedNames_perm here ext, filter_findings hprefs⟩, fun hnames => ?_,
    pass_mem_findings_iff here ext⟩
  obtain ⟨rows, hnodup, hmem, heq⟩ := exists_sharedRows
    (fun name hname => hnames name (mem_sharedNames.mp hname).1 (mem_sharedNames.mp hname).2)
  refine ⟨rows, hnodup, fun name n row => ?_, (filter_findings hprefs).trans heq⟩
  rw [hmem, mem_sharedNames, and_assoc]

/-- Preferences and a module that import each other. -/
def cyclicImports : Extension :=
  ⟨⟨.dir [("ext", .dir
      [("lib", .dir [("a.js", .file
        (Text.encode "import P from '../prefs.js'\nimport St from 'gi://St'".toList)
        false)]),
      ("prefs.js", .file (Text.encode "import A from './lib/a'".toList) false)])], .plain⟩,
    ["ext"]⟩

/-- Two files that import each other are reached, each once. -/
theorem findings_of_reachedNames_cycle :
    cyclicImports.isFile preferences = true ∧
      reachedNames [] cyclicImports = ["/ext/prefs.js", "/ext/lib/a.js"] ∧
      IsLeast {s | Reach.Closed (localImports cyclicImports.volume []) "/ext/prefs.js" s}
        {name | name ∈ reachedNames [] cyclicImports} ∧
      ¬ ∃ f ∈ findings [] cyclicImports, f.status = .pass ∧ f.check = "imports/segregation" := by
  have hprefs : cyclicImports.isFile preferences = true := by decide +kernel
  obtain ⟨-, -, hleast, -, -, hpass⟩ := findings_of_reachedNames [] cyclicImports hprefs
  refine ⟨hprefs, by decide +kernel, hleast, fun hwell => ?_⟩
  exact absurd (hpass.mp hwell) (by decide +kernel)

/-- Preferences that import a file with two lines in its name, of which the second looks like the
option to search all files, on a machine where the search then does so. -/
def optionImport : Extension :=
  ⟨⟨.dir [("ext", .dir
      [("a\n-r", .file [] false),
      ("extension.js", .file (Text.encode "import St from 'gi://St'".toList) false),
      ("l.js", .link "a\n-r"),
      ("prefs.js", .file (Text.encode "import A from './l.js'".toList) false)])],
      { Machine.plain with
        optionRows := fun _ => ["ext/extension.js:1:import St from 'gi://St'".toList] }⟩, ["ext"]⟩

/-- No file that is reached has a library of the shell in it, and still there is a finding. -/
theorem findings_optionImport :
    reachedNames [] optionImport = ["/ext/prefs.js", "/ext/a", "-r"] ∧
      (∀ name ∈ reachedNames [] optionImport,
        (optionImport.volume.plainText (Path.stepsFrom [] name)).rows.any importsShell = false) ∧
      findings [] optionImport = [⟨.fail, "imports/shared-module-shell",
        "-r: Shell runtime import in module reachable from prefs.js: " ++
          "ext/extension.js:1:import St from 'gi://St'"⟩] := by
  decide +kernel

end Segregation

end ExtensionAudit
