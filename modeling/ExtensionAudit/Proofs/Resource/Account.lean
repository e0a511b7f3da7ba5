import Mathlib
import ExtensionAudit.Proofs.Places
import ExtensionAudit.Proofs.Resource.Orphan
import ExtensionAudit.Proofs.Volume.Walk
import ExtensionAudit.Resource.Graph

/-!
# Orphans are accounted for

The orphans in the graph of an extension are resources that its files take: none is made up, none
is listed twice, and they come in the order in which the files are scanned and their lines stand.
Only files that some file owns contribute, and those without a method that cleans up contribute all
that they take.  So the summary never counts more orphans than resources.

Three facts make an entry of the list stand for one resource.

* A walk lists no file twice, and two paths of names have different texts (`Path.shown_inj`).
* A scan numbers the lines of a file, and finds a kind of resource on a line once
  (`nodup_creations`).
* The verdict on a resource looks at no other one (`map_origin_orphansOf`).
-/

namespace ExtensionAudit

/-! ## Scripts and their names -/

namespace Path

variable {p q : Path}

/-- The text of a path of names tells the path. -/
theorem shown_inj (hp : p.Proper) (hq : q.Proper) (h : p.shown = q.shown) : p = q := by
  have hchars : p.chars = q.chars := congrArg (fun s => ("/" ++ s).toList) h
  rw [← pathOf_chars hp, hchars, pathOf_chars hq]

theorem shown_ne_empty (hp : p.Proper) (hne : p ≠ []) : p.shown ≠ "" :=
  fun h => hne (shown_inj hp (by simp [Proper]) h)

end Path

namespace Extension

variable {ext : Extension}

/-- The files of an extension are those of a sound directory, or there is no directory. -/
theorem ownFiles_cases (hsound : ext.volume.root.isSound = true) :
    ext.ownFiles = [] ∨ ∃ (d : Entry) (linkIsDir : Path → Bool), d.isSound = true ∧
      ext.ownFiles = d.filesBelow linkIsDir isForeignDir [] := by
  unfold ownFiles Volume.walk
  cases hbase : ext.volume.resolve ext.base with
  | error fault => exact .inl rfl
  | ok s => exact .inr ⟨s.entry, _, Volume.isSound_of_resolve hsound hbase, rfl⟩

theorem nodup_ownFiles (hsound : ext.volume.root.isSound = true) : ext.ownFiles.Nodup := by
  rcases ownFiles_cases hsound with hnil | ⟨d, linkIsDir, hd, heq⟩
  · rw [hnil]
    exact List.nodup_nil
  · rw [heq]
    exact Entry.nodup_filesBelow hd

theorem proper_of_mem_ownFiles (hsound : ext.volume.root.isSound = true) {p : Path}
    (h : p ∈ ext.ownFiles) : p ≠ [] ∧ p.Proper := by
  rcases ownFiles_cases hsound with hnil | ⟨d, linkIsDir, hd, heq⟩
  · rw [hnil] at h
    cases h
  · rw [heq] at h
    obtain ⟨q, hne, hq, rfl⟩ := Entry.exists_of_mem_filesBelow hd h
    exact ⟨hne, hq⟩

theorem runtimeScripts_sublist (ext : Extension) : ext.runtimeScripts.Sublist ext.ownFiles :=
  List.filter_sublist.trans List.filter_sublist

/-- The texts are read of all files, in order. -/
theorem map_fst_texts {files : List Path} {found : List (Path × Text)}
    (h : ext.texts files = .ok found) : found.map Prod.fst = files := by
  have hall := forall₂_of_texts h
  clear h
  induction hall with
  | nil => rfl
  | cons hp _ ih => rw [List.map_cons, hp.1, ih]

end Extension

namespace Resource

/-! ## The resources of a scan -/

/-- A scan finds a kind of resource on a line once. -/
theorem nodup_creations (base file : Path) (t : Text) :
    ((scan base file t).creations.map fun c => (c.line, c.kind.word)).Nodup := by
  have hwords : (Kind.scanned.map Kind.word).Nodup := by decide
  simp only [scan, List.map_flatMap, List.flatMap_map]
  rw [List.nodup_flatMap]
  constructor
  · rintro ⟨n, line⟩ -
    have hfound := hwords.sublist ((List.filter_sublist (p := fun k =>
      (takers k).any fun pattern => pattern.found (Text.trim line))).map Kind.word)
    have hnumbered := hfound.map (f := fun word => (n, word)) fun a b hab => (Prod.mk.inj hab).2
    rw [List.map_map] at hnumbered
    rw [creationsOf, List.map_map]
    exact hnumbered
  · have hnumbers : ((Text.numbered (Text.lines (Source.code t))).map Prod.fst).Nodup := by
      rw [Text.map_fst_numbered]
      exact List.nodup_range'
    refine (List.pairwise_map.mp hnumbers).imp fun {x y} hne => ?_
    -- What a line takes is recorded under the number of the line.
    intro key hx hy
    obtain ⟨c, hc, rfl⟩ := List.mem_map.mp hx
    obtain ⟨c', hc', heq⟩ := List.mem_map.mp hy
    obtain ⟨k, -, rfl⟩ := List.mem_map.mp hc
    obtain ⟨k', -, rfl⟩ := List.mem_map.mp hc'
    exact hne (Prod.mk.inj heq).1.symm

/-- Each file stands in the scans once and under a name, and so does each kind of resource that it
takes on a line. -/
structure Scans.IsListed (scans : Scans) : Prop where
  /-- Each file stands there once. -/
  files : scans.keys.Nodup
  /-- It has a name. -/
  named : ∀ x ∈ scans, x.1 ≠ ""
  /-- A kind of resource is found on a line once. -/
  lines : ∀ x ∈ scans, (x.2.creations.map fun c => (c.line, c.kind.word)).Nodup

/-- The scans are those of the scripts that run in the shell, each under the text of its path. -/
theorem exists_texts_of_scanAll {ext : Extension} {scans : Scans} (h : scanAll ext = .ok scans) :
    ∃ found, ext.texts ext.runtimeScripts = .ok found ∧ scans = Table.putAll []
      (found.map fun x => (x.1.shown, scan ext.base (ext.base ++ x.1) x.2)) := by
  obtain ⟨found, hfound, h⟩ := Trace.exists_of_bind_eq_ok h
  cases h
  exact ⟨found, hfound, rfl⟩

/-- In a sound file tree the paths are different, and so are their texts. -/
theorem exists_texts_of_isSound {ext : Extension} {scans : Scans}
    (hsound : ext.volume.root.isSound = true) (h : scanAll ext = .ok scans) :
    ∃ found, ext.texts ext.runtimeScripts = .ok found ∧
      scans = (found.map fun x => (x.1.shown, scan ext.base (ext.base ++ x.1) x.2)) ∧
      scans.keys.Nodup := by
  obtain ⟨found, hfound, rfl⟩ := exists_texts_of_scanAll h
  have hfiles : found.map Prod.fst = ext.runtimeScripts := Extension.map_fst_texts hfound
  have hkeys : Table.keys (found.map fun x =>
      (x.1.shown, scan ext.base (ext.base ++ x.1) x.2)) = ext.runtimeScripts.map Path.shown := by
    rw [← hfiles, Table.keys, List.map_map, List.map_map]
    rfl
  have hnodup : (ext.runtimeScripts.map Path.shown).Nodup := by
    have hproper : ∀ p ∈ ext.runtimeScripts, p.Proper := fun p hp =>
      (Extension.proper_of_mem_ownFiles hsound (ext.runtimeScripts_sublist.subset hp)).2
    refine List.Nodup.map_on (fun p hp q hq heq => ?_)
      ((Extension.nodup_ownFiles hsound).sublist ext.runtimeScripts_sublist)
    exact Path.shown_inj (hproper p hp) (hproper q hq) heq
  rw [← hkeys] at hnodup
  have hput := Table.putAll_eq_append (t := []) hnodup
  exact ⟨found, hfound, hput, hput ▸ hnodup⟩

/-- In a sound tree each script is listed once. -/
theorem isListed_of_scanAll {ext : Extension} {scans : Scans}
    (hsound : ext.volume.root.isSound = true) (h : scanAll ext = .ok scans) : scans.IsListed := by
  obtain ⟨found, hfound, hscans, hkeys⟩ := exists_texts_of_isSound hsound h
  have hfiles : found.map Prod.fst = ext.runtimeScripts := Extension.map_fst_texts hfound
  refine ⟨hkeys, ?_, ?_⟩ <;> rw [hscans] <;> rintro x hx <;>
    obtain ⟨y, hy, rfl⟩ := List.mem_map.mp hx
  · have hy : y.1 ∈ ext.runtimeScripts := hfiles ▸ List.mem_map_of_mem hy
    obtain ⟨hne, hproper⟩ :=
      Extension.proper_of_mem_ownFiles hsound (ext.runtimeScripts_sublist.subset hy)
    exact Path.shown_ne_empty hproper hne
  · exact nodup_creations _ _ _

/-! ## Owned files -/

/-- Some object in the table is of a class that the file defines. -/
def isOwned (own : Ownership) (file : String) : Bool :=
  own.any fun x => x.2.any fun y => y.2.source? == some file

variable {scans : Scans} {own : Ownership} {file : String}

theorem isOwned_iff :
    isOwned own file = true ↔ ∃ owner o, (owner, o) ∈ holdings own ∧ o.source? = some file := by
  simp only [isOwned, List.any_eq_true, beq_iff_eq, mem_holdings]
  constructor
  · rintro ⟨⟨owner, owned⟩, hmem, ⟨reference, o⟩, hobject, hsource⟩
    exact ⟨owner, o, ⟨owned, hmem, reference, hobject⟩, hsource⟩
  · rintro ⟨owner, o, ⟨owned, hmem, reference, hobject⟩, hsource⟩
    exact ⟨(owner, owned), hmem, (reference, o), hobject, hsource⟩

/-- A file with a name has a last owner iff it is owned. -/
theorem isSome_parent? (hfile : file ≠ "") : (parent? own file).isSome = isOwned own file := by
  have hgiven : ∀ o : Owned, givenFile? o.source? = some file ↔ o.source? = some file := by
    intro o
    rw [givenFile?, Option.filter_eq_some_iff]
    simp [hfile]
  rw [parent?_eq_getLast?, Bool.eq_iff_iff, List.getLast?_isSome, isOwned_iff]
  constructor
  · intro hne
    obtain ⟨owner, howner⟩ := List.exists_mem_of_ne_nil _ hne
    obtain ⟨o, ho, hsource⟩ := mem_owners.mp howner
    exact ⟨owner, o, ho, (hgiven o).mp hsource⟩
  · rintro ⟨owner, o, ho, hsource⟩
    exact List.ne_nil_of_mem (mem_owners.mpr ⟨o, ho, (hgiven o).mpr hsource⟩)

/-! ## The list of orphans -/

/-- What the graph says of a resource of a file. -/
def Creation.entry (file : String) (c : Creation) : String × Nat × String × Text :=
  (file, c.line, c.kind.word, c.text)

/-- What the graph says of an orphan, less the cause. -/
def Orphan.entry (o : Orphan) : String × Nat × String × Text :=
  o.creation.entry o.file

/-- The entries for a file's orphans are those for its resources with a verdict. -/
theorem map_entry_fileOrphans_sublist (own : Ownership) (scan : Scan) (hfile : file ≠ "") :
    ((fileOrphans own (file, scan)).map Orphan.entry).Sublist
      (if isOwned own file then scan.creations.map (Creation.entry file) else []) := by
  rw [← isSome_parent? hfile, fileOrphans]
  cases parent? own file with
  | none => exact .refl _
  | some parent =>
      have hentries : (orphansOf own file scan parent).map Orphan.entry =
          ((orphansOf own file scan parent).map Orphan.origin).map fun x => x.2.entry x.1 := by
        rw [List.map_map]
        rfl
      rw [hentries, map_origin_orphansOf, List.map_map]
      exact List.filter_sublist.map _

/-- The resources of a list of files. -/
def takenBy (scans : Scans) : List (String × Nat × String × Text) :=
  scans.flatMap fun x => x.2.creations.map (Creation.entry x.1)

/-- The orphans are among what owned files take, in this order. -/
theorem map_entry_orphans_sublist (own : Ownership) (hnamed : ∀ x ∈ scans, x.1 ≠ "") :
    ((orphans scans own).map Orphan.entry).Sublist
      (takenBy (scans.filter fun x => isOwned own x.1)) := by
  rw [orphans_eq_flatMap]
  induction scans with
  | nil => exact .slnil
  | cons x scans ih =>
      obtain ⟨hx, hscans⟩ := List.forall_mem_cons.mp hnamed
      have hfile := map_entry_fileOrphans_sublist own x.2 hx
      rw [List.flatMap_cons, List.map_append, List.filter_cons]
      cases howned : isOwned own x.1 with
      | true =>
          rw [howned] at hfile
          exact hfile.append (ih hscans)
      | false =>
          rw [howned] at hfile
          rw [List.eq_nil_of_sublist_nil hfile]
          exact ih hscans

theorem isOwned_of_mem_orphans (hnamed : ∀ x ∈ scans, x.1 ≠ "") {o : Orphan}
    (ho : o ∈ orphans scans own) : isOwned own o.file = true := by
  obtain ⟨scan, hscan, horphan⟩ := mem_orphans.mp ho
  obtain ⟨-, -, parent, hparent, -⟩ := mem_fileOrphans.mp horphan
  rw [← isSome_parent? (hnamed _ hscan), hparent, Option.isSome_some]

theorem takenBy_sublist {scans' : Scans} (h : scans'.Sublist scans) :
    (takenBy scans').Sublist (takenBy scans) :=
  h.flatMap _

theorem length_takenBy (scans : Scans) :
    (takenBy scans).length = Text.total (scans.map fun x => x.2.creations.length) := by
  induction scans with
  | nil => rfl
  | cons x scans ih =>
      simp only [takenBy, List.flatMap_cons, List.length_append, List.length_map] at ih ⊢
      rw [ih]
      rfl

/-- No two resources of the same kind on a line of a file. -/
theorem nodup_takenBy (h : scans.IsListed) :
    ((takenBy scans).map fun x => (x.1, x.2.1, x.2.2.1)).Nodup := by
  simp only [takenBy, List.map_flatMap, List.map_map, List.nodup_flatMap]
  constructor
  · intro x hx
    have hlines := (h.lines x hx).map (f := fun key => (x.1, key)) fun a b hab =>
      (Prod.mk.inj hab).2
    rwa [List.map_map] at hlines
  · refine (List.pairwise_map.mp h.files).imp fun {x y} hne => ?_
    intro key hx hy
    obtain ⟨c, -, rfl⟩ := List.mem_map.mp hx
    obtain ⟨c', -, heq⟩ := List.mem_map.mp hy
    exact hne (congrArg Prod.fst heq).symm

/-! ## The graph of an extension -/

/-- A field of the summary of the graph, as it is written. -/
def Graph.summary? (g : Graph) (name : String) : Except Fault (Option Json) := do
  match ← g.value.member? "summary" with
  | some summary => summary.member? name
  | none => return none

/-- The orphans of a graph are resources of its files, and are counted as such. -/
structure Graph.Accounted (g : Graph) : Prop where
  /-- They are resources of owned files, in the order of the files and of their lines. -/
  sublist : (g.orphaned.map Orphan.entry).Sublist
    (takenBy (g.scans.filter fun x => isOwned g.own x.1))
  /-- None of them is listed twice. -/
  nodup : (g.orphaned.map fun o => (o.file, o.creation.line, o.creation.kind.word)).Nodup
  /-- All resources of an owned file without a method that cleans up are among them. -/
  complete : ∀ file scan, (file, scan) ∈ g.scans → isOwned g.own file = true →
    scan.hasDestroy = false → scan.hasDisable = false → scan.hasPrivateDestroy = false →
    ∀ c ∈ scan.creations, ∃ o ∈ g.orphaned, o.file = file ∧ o.creation = c
  /-- A file that is not owned has none of them. -/
  unowned : ∀ file ∈ g.scans.keys, isOwned g.own file = false → ∀ o ∈ g.orphaned, o.file ≠ file
  /-- They are written as a list. -/
  written : g.value.member? "orphans" = .ok (some (.arr (g.orphaned.map Orphan.value)))
  /-- The summary gives the length of the list, which is at most the number of resources. -/
  counted : ∃ total : Nat, g.summary? "orphan_count" = .ok (some (.int g.orphaned.length)) ∧
    g.summary? "total_creates" = .ok (some (.int total)) ∧ g.orphaned.length ≤ total

theorem graph_eq_ok_iff {ext : Extension} {g : Graph} :
    graph ext = .ok g ↔ ∃ scans, scanAll ext = .ok scans ∧ g = Graph.ofScans scans := by
  unfold graph
  cases scanAll ext with
  | error fault => simp [bind, Except.bind]
  | ok scans => simp [bind, Except.bind, pure, Except.pure, eq_comm]

/-- The graph of an extension lists as orphans resources of owned files, in their order, none of
them twice, all of a file that has no method that cleans up, and none of a file that nobody
owns. -/
theorem accounted_of_graph (ext : Extension) (hsound : ext.volume.root.isSound = true) (g : Graph)
    (h : graph ext = .ok g) : g.Accounted := by
  obtain ⟨scans, hscans, rfl⟩ := graph_eq_ok_iff.mp h
  have hlisted := isListed_of_scanAll hsound hscans
  have hsublist := map_entry_orphans_sublist (ownership scans) hlisted.named
  have hall := hsublist.trans (takenBy_sublist List.filter_sublist)
  refine ⟨hsublist, ?_, ?_, ?_, rfl, _, rfl, rfl, ?_⟩
  · have hnodup := (nodup_takenBy hlisted).sublist (hall.map _)
    rwa [List.map_map] at hnodup
  · intro file scan hfile howned hdestroy hdisable hprivate c hc
    have hcleanup : scan.hasCleanup = false := by
      simp [Scan.hasCleanup, hdestroy, hdisable, hprivate]
    rw [← isSome_parent? (hlisted.named _ hfile)] at howned
    obtain ⟨parent, hparent⟩ := Option.isSome_iff_exists.mp howned
    refine reported_iff.mpr ⟨scan, hfile, hc, parent, hparent, ?_⟩
    rw [cause?_of_not_hasCleanup hcleanup, Option.isSome_some]
  · rintro file - howned o ho rfl
    exact Bool.false_ne_true (howned.symm.trans (isOwned_of_mem_orphans hlisted.named ho))
  · have hlength := hall.length_le
    rwa [List.length_map, length_takenBy] at hlength

/-- A script that takes a resource and makes an object of a class of another one, which takes two
on a line and has no method that cleans up. -/
def leakyExtension : Extension :=
  let owner : Text := "import \x7bM\x7d from './m.js'\nthis._m = new M()\na.connect()".toList
  let owned : Text := "this._b = new St.Bin().connect()".toList
  ⟨⟨.dir [("ext", .dir [("a.js", .file (Text.encode owner) false),
    ("m.js", .file (Text.encode owned) false)])], .plain⟩, ["ext"]⟩

/-- A module leaks two of three resources. -/
theorem accounted_of_graph_leakyExtension :
    ∃ g, graph leakyExtension = .ok g ∧ g.Accounted ∧ (takenBy g.scans).length = 3 ∧
      (g.orphaned.map fun o => (o.file, o.creation.line, o.creation.kind.word)) =
        [("m.js", 1, "signal"), ("m.js", 1, "widget")] := by
  have hvalues : ((graph leakyExtension).map fun g => ((takenBy g.scans).length,
      g.orphaned.map fun o => (o.file, o.creation.line, o.creation.kind.word))) =
        .ok (3, [("m.js", 1, "signal"), ("m.js", 1, "widget")]) := by decide +kernel
  cases hg : graph leakyExtension with
  | error fault =>
      rw [hg] at hvalues
      cases hvalues
  | ok g =>
      rw [hg] at hvalues
      obtain ⟨htaken, horphans⟩ := Prod.mk.inj (Except.ok.inj hvalues)
      exact ⟨g, rfl, accounted_of_graph leakyExtension (by decide +kernel) g hg, htaken, horphans⟩

end Resource

end ExtensionAudit
