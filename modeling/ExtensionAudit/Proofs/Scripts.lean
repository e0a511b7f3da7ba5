import Mathlib
import ExtensionAudit.Proofs.Foreign
import ExtensionAudit.Proofs.Volume.Walk

/-!
# The scripts of an extension

All checks on scripts list them by the same walk over the extension, with or without the
preferences.  In a tree without links these are the files with the name of a script that lie below
no foreign directory, however deep, and each is listed once and from the top down
(`scripts_topDown`).  The order in which a directory lists its entries does not matter for this.
-/

namespace ExtensionAudit.Extension

variable {ext : Extension} {s : Spot} {e : Entry}

theorem ownFiles_eq (hbase : ext.volume.resolve ext.base = .ok s) :
    ext.ownFiles =
      s.entry.filesBelow (fun p => ext.volume.isDir (ext.base ++ p)) isForeignDir [] := by
  rw [ownFiles, Volume.walk, hbase]

/-- The scripts are the files of the extension with such a name, below no foreign directory. -/
theorem mem_scripts (hbase : ext.volume.resolve ext.base = .ok s)
    (hsound : s.entry.isSound = true) (hlink : s.entry.isUnlinked = true) {p : Path} :
    p ∈ ext.scripts ↔ p ≠ [] ∧ (∃ x, s.entry.under p = .ok x ∧ x.isFile = true) ∧
      (∀ c ∈ p.dropLast, isForeignDir c = false) ∧ isScriptName p.name = true := by
  rw [mem_scripts_iff, ownFiles_eq hbase, Entry.mem_filesBelow hsound hlink]
  constructor
  · rintro ⟨⟨q, x, rfl, hne, hx, hfile, hforeign⟩, hname⟩
    exact ⟨hne, ⟨x, hx, hfile⟩, hforeign, hname⟩
  · rintro ⟨hne, ⟨x, hx, hfile⟩, hforeign, hname⟩
    exact ⟨⟨p, x, rfl, hne, hx, hfile, hforeign⟩, hname⟩

theorem pairwise_scripts (hbase : ext.volume.resolve ext.base = .ok s)
    (hsound : s.entry.isSound = true) :
    ext.scripts.Pairwise fun p q => s.entry.comesBefore p q = true := by
  rw [scripts, ownFiles_eq hbase]
  have horder := @Entry.pairwise_filesBelow s.entry (fun p => ext.volume.isDir (ext.base ++ p))
    isForeignDir [] hsound
  exact horder.filter _

theorem isForeignDir_eq_false_iff {c : String} :
    isForeignDir c = false ↔ c ∉ ["node_modules", ".git", "__pycache__"] := by
  simp [isForeignDir, and_assoc]

theorem isScriptName_iff {c : String} : isScriptName c = true ↔ ".js".toList <:+ c.toList :=
  List.isSuffixOf_iff_suffix

/-- In a tree without links, the scripts are the files whose names end in `.js` and that lie below
no foreign directory.  Each is listed once and from the top down, and those that run in the shell
are listed in the same way, without the preferences. -/
theorem scripts_topDown (ext : Extension) (s : Spot)
    (hbase : ext.volume.resolve ext.base = .ok s) (hsound : s.entry.isSound = true)
    (hlink : s.entry.isUnlinked = true) :
    (∀ p, p ∈ ext.scripts ↔ ∃ dirs name x, p = dirs ++ [name] ∧ s.entry.under p = .ok x ∧
        x.isFile = true ∧ ".js".toList <:+ name.toList ∧
        ∀ c ∈ dirs, c ∉ ["node_modules", ".git", "__pycache__"]) ∧
      ext.scripts.Nodup ∧
      (ext.scripts.Pairwise fun p q => s.entry.comesBefore p q = true) ∧
      ext.runtimeScripts = ext.scripts.filter fun p => p.getLast? != some "prefs.js" := by
  refine ⟨fun p => ?_, ?_, ?_, ?_⟩
  · rw [mem_scripts hbase hsound hlink]
    constructor
    · rintro ⟨hne, ⟨x, hx, hfile⟩, hforeign, hname⟩
      obtain ⟨dirs, name, rfl⟩ := (List.eq_nil_or_concat' p).resolve_left hne
      rw [Path.name, List.getLast?_concat] at hname
      rw [List.dropLast_concat] at hforeign
      exact ⟨dirs, name, x, rfl, hx, hfile, isScriptName_iff.mp hname,
        fun c hc => isForeignDir_eq_false_iff.mp (hforeign c hc)⟩
    · rintro ⟨dirs, name, x, rfl, hx, hfile, hname, hforeign⟩
      rw [Path.name, List.getLast?_concat, List.dropLast_concat]
      exact ⟨by simp, ⟨x, hx, hfile⟩, fun c hc => isForeignDir_eq_false_iff.mpr (hforeign c hc),
        isScriptName_iff.mpr hname⟩
  · rw [scripts, ownFiles_eq hbase]
    exact (Entry.nodup_filesBelow hsound).filter _
  · exact pairwise_scripts hbase hsound
  · refine List.filter_congr fun p _ => ?_
    rw [Path.name]
    cases p.getLast? <;> rfl

/-- A tree with a foreign directory further down, preferences in two directories, and a directory
that is named like a script. -/
def nestedTree : Entry :=
  .dir
    [("lib", .dir
      [(".git", .dir [("hook.js", .unreadable)]),
        ("prefs.js", .unreadable),
        ("ui.js", .dir [("a.js", .unreadable)])]),
      ("main.js", .unreadable),
      ("prefs.js", .unreadable)]

/-- A directory named like a script is entered after the scripts beside it, and the preferences at
any depth are left out at run time. -/
theorem scripts_topDown_nested :
    let ext : Extension := ⟨⟨.dir [("x", nestedTree)], .plain⟩, ["x"]⟩
    ext.scripts = [["main.js"], ["prefs.js"], ["lib", "prefs.js"], ["lib", "ui.js", "a.js"]] ∧
      ext.scripts.Nodup ∧ (ext.scripts.Pairwise fun p q => nestedTree.comesBefore p q = true) ∧
      ext.runtimeScripts = [["main.js"], ["lib", "ui.js", "a.js"]] := by
  intro ext
  have hscripts :
      ext.scripts = [["main.js"], ["prefs.js"], ["lib", "prefs.js"], ["lib", "ui.js", "a.js"]] := by
    decide
  obtain ⟨-, hnodup, horder, hruntime⟩ := scripts_topDown ext ⟨["x"], nestedTree⟩ rfl rfl rfl
  rw [hscripts] at hruntime
  exact ⟨hscripts, hnodup, horder, hruntime⟩

end ExtensionAudit.Extension
