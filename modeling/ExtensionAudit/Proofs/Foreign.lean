import Mathlib
import ExtensionAudit.Proofs.Alike
import ExtensionAudit.Proofs.Volume.Hidden

/-!
# What the checks on scripts pass over

Directories of other people's code are not looked at, wherever they lie in the extension, and some
checks do not look at the preferences either.  `Extension.trimmed` is the extension without them.

A path on which nothing is passed over leads to the same entry in both, and the scripts are such
paths.  So the scripts of an extension without links are those of what is left of it
(`IsPlain.sameScripts`), and without the preferences the scripts that run in the shell are still
the same (`IsPlain.sameRuntime`).
-/

namespace ExtensionAudit

/-! ## Places in an extension -/

namespace Extension

/-- What is passed over in the extension at a path: directories that do not belong to it, and
with `prefs` also the files of its preferences. -/
def passesOver (prefs : Bool) (base p : Path) (e : Entry) : Bool :=
  base.isPrefixOf p.dropLast &&
    if e.isDir then isForeignDir p.name else prefs && p.name == "prefs.js"

variable {prefs : Bool} {base : Path}

theorem passesOver_append (p : Path) (c : String) (e : Entry) :
    passesOver prefs base (base ++ (p ++ [c])) e =
      if e.isDir then isForeignDir c else prefs && c == "prefs.js" := by
  have hprefix : base.isPrefixOf (base ++ p) = true :=
    List.isPrefixOf_iff_prefix.mpr (List.prefix_append base p)
  rw [passesOver, ← List.append_assoc, List.dropLast_concat, hprefix, Path.name,
    List.getLast?_concat]
  rfl

/-- Nothing is passed over on the way to the extension. -/
theorem passesOver_of_prefix {p : Path} (hp : p ≠ []) (h : p <+: base) (e : Entry) :
    passesOver prefs base p e = false := by
  have hlength := h.length_le
  have hpos : 0 < p.length := List.length_pos_of_ne_nil hp
  have hnot : ¬ base <+: p.dropLast := by
    intro hbase
    have := hbase.length_le
    rw [List.length_dropLast] at this
    omega
  rw [passesOver, Bool.eq_false_iff.mpr (mt List.isPrefixOf_iff_prefix.mp hnot), Bool.false_and]

/-- A name of the extension itself that is passed over by none. -/
theorem shows_singleton {c : String} (hforeign : isForeignDir c = false)
    (hprefs : (c == "prefs.js") = false) (e : Entry) :
    Entry.Shows (passesOver prefs base) base e [c] := by
  intro p x hp hpre _
  obtain rfl : p = [c] := by
    cases p with
    | nil => exact absurd rfl hp
    | cons first rest =>
        obtain ⟨rfl, hrest⟩ := List.cons_prefix_cons.mp hpre
        rw [List.prefix_nil.mp hrest]
  rw [← List.nil_append [c], passesOver_append, hforeign, hprefs, Bool.and_false, ite_self]

/-- Nothing is passed over on the way to a file that lies below no foreign directory. -/
theorem shows_of_file {e x : Entry} {q : Path} (hx : e.under q = .ok x) (hfile : x.isDir = false)
    (hq : ∀ c ∈ q.dropLast, isForeignDir c = false)
    (hprefs : prefs = true → q.name ≠ "prefs.js") :
    Entry.Shows (passesOver prefs base) base e q := by
  intro p y hp hpre hy
  obtain ⟨rest, rfl⟩ := hpre
  obtain ⟨before, c, rfl⟩ := (List.eq_nil_or_concat' p).resolve_left hp
  rw [passesOver_append]
  cases rest with
  | nil =>
      rw [List.append_nil] at hx hprefs
      cases hy.symm.trans hx
      rw [hfile, if_neg Bool.false_ne_true]
      cases prefs with
      | false => rfl
      | true =>
          have := hprefs rfl
          rw [Path.name, List.getLast?_concat] at this
          simpa using this
  | cons d rest =>
      rw [Entry.under_append_of_ok hy] at hx
      have hc : isForeignDir c = false := by
        refine hq c ?_
        rw [List.dropLast_append_of_ne_nil (List.cons_ne_nil d rest)]
        simp
      rw [(Entry.under_cons_eq_ok.mp hx).1, if_pos rfl, hc]

end Extension

/-! ## The extension without what is passed over -/

namespace Volume.Stands

variable {v : Volume} {prefs : Bool} {base start q : Path} {e : Entry}

open Extension (passesOver)

/-- What lies on the way to the extension, and the extension itself, still stand at their
paths. -/
theorem without (h : v.Stands start e) (hsound : v.root.isSound = true) (hpre : start <+: base)
    (prefs : Bool) :
    (v.without (passesOver prefs base)).Stands start (e.without (passesOver prefs base) start) where
  plain := h.plain
  under_base := by
    have hshows : Entry.Shows (passesOver prefs base) [] v.root start :=
      fun p x hp hp' _ => Extension.passesOver_of_prefix hp (hp'.trans hpre) x
    rw [Volume.without, Entry.under_without hsound hshows, h.under_base]
    rfl
  unlinked := Entry.isUnlinked_without h.unlinked

/-- A path on which nothing is passed over leads to the same entry as before. -/
theorem resolve_without (h : v.Stands start e) (hsound : v.root.isSound = true)
    (hpre : start <+: base) (hq : q.Plain)
    (hshows : Entry.Shows (passesOver prefs base) start e q) :
    (v.without (passesOver prefs base)).resolve (start ++ q) =
      (v.resolve (start ++ q)).map fun s =>
        ⟨s.path, s.entry.without (passesOver prefs base) s.path⟩ := by
  rw [(h.without hsound hpre prefs).resolve_append hq, h.resolve_append hq,
    Entry.under_without (Entry.isSound_of_under h.under_base hsound) hshows]
  cases e.under q <;> rfl

end Volume.Stands

namespace Volume

variable {v w : Volume} {p : Path} {hides : Path → Entry → Bool}

/-- The bytes of a file are those of its entry, whatever is hidden. -/
theorem bytes_of_resolve
    (h : w.resolve p = (v.resolve p).map fun s => ⟨s.path, s.entry.without hides s.path⟩) :
    w.bytes p = v.bytes p := by
  rw [bytes, bytes, h]
  cases v.resolve p with
  | error fault => rfl
  | ok s =>
      obtain ⟨path, entry⟩ := s
      cases entry <;> rfl

theorem isFile_of_resolve
    (h : w.resolve p = (v.resolve p).map fun s => ⟨s.path, s.entry.without hides s.path⟩) :
    w.isFile p = v.isFile p := by
  rw [isFile, isFile, h]
  cases v.resolve p with
  | error fault => rfl
  | ok s => exact Entry.isFile_without

end Volume

namespace Extension

/-- The extension stands in a sound file tree, with no link on the way to it and none in it. -/
structure IsPlain (ext : Extension) : Prop where
  /-- The file tree is sound. -/
  sound : ext.volume.root.isSound = true
  /-- The extension's tree stands at its path. -/
  stands : ∃ e, ext.volume.Stands ext.base e

/-- The extension without what is passed over. -/
def trimmed (ext : Extension) (prefs : Bool) : Extension :=
  ⟨ext.volume.without (passesOver prefs ext.base), ext.base⟩

variable {ext : Extension} {prefs : Bool} {e : Entry}

theorem sameFile_trimmed (hsound : ext.volume.root.isSound = true)
    (hstands : ext.volume.Stands ext.base e) {q : Path} (hq : q.Plain)
    (hshows : Entry.Shows (passesOver prefs ext.base) ext.base e q) :
    SameFile (ext.trimmed prefs) ext q := by
  have hresolve := hstands.resolve_without hsound List.prefix_rfl hq hshows
  have hbytes := Volume.bytes_of_resolve hresolve
  refine ⟨Volume.isFile_of_resolve hresolve, ?_, ?_⟩
  · rw [text, text, Volume.text, Volume.text, trimmed, hbytes]
  · rw [strictText, strictText, Volume.strictText, Volume.strictText, trimmed, hbytes]

/-- The files that a walk over the extension lists and a test keeps are the same, if the test
keeps none that is passed over. -/
theorem filter_ownFiles_trimmed (hsound : ext.volume.root.isSound = true)
    (hstands : ext.volume.Stands ext.base e) {keep : Path → Bool}
    (hkeep : prefs = true → ∀ p, keep (p ++ ["prefs.js"]) = false) :
    (ext.trimmed prefs).ownFiles.filter keep = ext.ownFiles.filter keep := by
  rw [ownFiles, ownFiles, Volume.walk, Volume.walk, trimmed, hstands.resolve_base,
    (hstands.without hsound List.prefix_rfl prefs).resolve_base]
  have hdirs : ∀ p c x, passesOver prefs ext.base (ext.base ++ (p ++ [c])) x = true →
      x.isDir = true → isForeignDir c = true := by
    intro p c x hover hdir
    rwa [passesOver_append, hdir, if_pos rfl] at hover
  have hfiles : ∀ p c x, passesOver prefs ext.base (ext.base ++ (p ++ [c])) x = true →
      x.isDir = false → keep (p ++ [c]) = false := by
    intro p c x hover hdir
    rw [passesOver_append, hdir, if_neg Bool.false_ne_true, Bool.and_eq_true, beq_iff_eq] at hover
    rw [hover.2]
    exact hkeep hover.1 p
  have hwalk := @Entry.filter_filesBelow_without
    (fun p => ext.volume.isDir (ext.base ++ p))
    (fun p => (ext.trimmed prefs).volume.isDir (ext.base ++ p)) isForeignDir [] e
    (passesOver prefs ext.base) ext.base keep hdirs hfiles hstands.unlinked
  rwa [List.append_nil] at hwalk

theorem mem_scripts_iff {p : Path} :
    p ∈ ext.scripts ↔ p ∈ ext.ownFiles ∧ isScriptName p.name = true :=
  List.mem_filter

/-- A script stands in the extension, below no foreign directory. -/
theorem of_mem_ownFiles (hsound : ext.volume.root.isSound = true)
    (hstands : ext.volume.Stands ext.base e) {p : Path} (hp : p ∈ ext.ownFiles) :
    ∃ x, e.under p = .ok x ∧ x.isDir = false ∧ ∀ c ∈ p.dropLast, isForeignDir c = false := by
  rw [ownFiles, Volume.walk, hstands.resolve_base] at hp
  obtain ⟨q, x, rfl, -, hx, hfile, hq⟩ := Entry.of_mem_filesBelow
    (Entry.isSound_of_under hstands.under_base hsound) hstands.unlinked hp
  exact ⟨x, hx, hfile, hq⟩

theorem text_trimmed_of_mem (hsound : ext.volume.root.isSound = true)
    (hstands : ext.volume.Stands ext.base e) {p : Path} (hp : p ∈ ext.ownFiles)
    (hprefs : prefs = true → p.name ≠ "prefs.js") :
    (ext.trimmed prefs).text p = ext.text p := by
  obtain ⟨x, hx, hfile, hforeign⟩ := of_mem_ownFiles hsound hstands hp
  have hproper := Entry.isProper_of_under (Entry.isSound_of_under hstands.under_base hsound) hx
  have hplain : p.Plain := fun c hc => Path.isName_of_isProper (hproper c hc)
  exact (sameFile_trimmed hsound hstands hplain (shows_of_file hx hfile hforeign hprefs)).text_eq

theorem sameFile_trimmed_singleton (hsound : ext.volume.root.isSound = true)
    (hstands : ext.volume.Stands ext.base e) {c : String} (hname : Path.IsName c)
    (hforeign : isForeignDir c = false) (hprefs : (c == "prefs.js") = false) :
    SameFile (ext.trimmed prefs) ext [c] :=
  sameFile_trimmed hsound hstands (Path.plain_singleton.mpr hname)
    (shows_singleton hforeign hprefs e)

/-- The scripts that run in the shell are the same without what is passed over. -/
theorem IsPlain.sameRuntime (h : ext.IsPlain) (prefs : Bool) :
    SameRuntime (ext.trimmed prefs) ext := by
  obtain ⟨hsound, e, hstands⟩ := h
  refine ⟨rfl, rfl, ?_, ?_, fun p hp => ?_, ?_⟩
  · have htrimmed := (hstands.without hsound List.prefix_rfl prefs).isDir_append Path.plain_nil
    have hbase := hstands.isDir_append Path.plain_nil
    rw [List.append_nil] at htrimmed hbase
    rw [trimmed, htrimmed, hbase]
    exact Entry.isDir_without
  · rw [runtimeScripts, runtimeScripts, scripts, scripts, List.filter_filter, List.filter_filter]
    refine filter_ownFiles_trimmed hsound hstands fun _ p => ?_
    simp [Path.name]
  · obtain ⟨hscript, hname⟩ := List.mem_filter.mp hp
    exact text_trimmed_of_mem hsound hstands (mem_scripts_iff.mp hscript).1
      fun _ => by simpa using hname
  · exact sameFile_trimmed_singleton hsound hstands (by simp [Path.IsName]) rfl rfl

/-- All scripts are the same without foreign directories. -/
theorem IsPlain.sameScripts (h : ext.IsPlain) : SameScripts (ext.trimmed false) ext := by
  refine ⟨h.sameRuntime false, ?_, fun p hp => ?_, ?_, ?_⟩ <;> obtain ⟨hsound, e, hstands⟩ := h
  · exact filter_ownFiles_trimmed hsound hstands nofun
  · exact text_trimmed_of_mem hsound hstands (mem_scripts_iff.mp hp).1 nofun
  · exact sameFile_trimmed_singleton hsound hstands (by simp [Path.IsName]) rfl rfl
  · exact sameFile_trimmed_singleton hsound hstands (by simp [Path.IsName]) rfl rfl

end Extension

end ExtensionAudit
