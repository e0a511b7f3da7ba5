import Mathlib
import ExtensionAudit.Command
import ExtensionAudit.Proofs.Rule.Selection

/-!
# Foreign directories do not interfere

What the commands on scripts report on an extension does not depend on the directories in it that
belong to others.  Two file trees that are the same without these directories cannot be told
apart.  The commands on what runs in the shell cannot tell the preferences apart either.

Each command reads the extension through its scripts, and these are the same in the extension that
is left when what is passed over is taken out.  Two trees leave the same extension.
-/

namespace ExtensionAudit

namespace Extension

variable {α : Type} {a b : Extension}

/-- What the scripts that run in the shell determine is the same for extensions that leave the
same one behind. -/
theorem eq_of_sameRuntime {f : Extension → α} (hf : ∀ x y, SameRuntime x y → f x = f y)
    (ha : a.IsPlain) (hb : b.IsPlain) {prefs : Bool} (h : a.trimmed prefs = b.trimmed prefs) :
    f a = f b := by
  rw [← hf _ _ (ha.sameRuntime prefs), h, hf _ _ (hb.sameRuntime prefs)]

/-- What all scripts determine is the same for extensions that leave the same one behind. -/
theorem eq_of_sameScripts {f : Extension → α} (hf : ∀ x y, SameScripts x y → f x = f y)
    (ha : a.IsPlain) (hb : b.IsPlain) (h : a.trimmed false = b.trimmed false) : f a = f b := by
  rw [← hf _ _ ha.sameScripts, h, hf _ _ hb.sameScripts]

end Extension

namespace Command

open Extension (passesOver SameRuntime SameScripts)

/-- An argument names the extension at a path, in a sound file tree and with no link in it. -/
structure Names (v : Volume) (here : Path) (dir : String) (base : Path) : Prop where
  /-- The argument leads to the path. -/
  realPath_eq : v.realPath here dir = base
  /-- The extension stands at it. -/
  isPlain : Extension.IsPlain ⟨v, base⟩

variable {v w : Volume} {here base : Path} {dir : String}

/-- The commands on the scripts that run in the shell. -/
def runtimeTools : List Tool := [.family .waiting, .family .startup, .graph, .resources]

/-- The commands on all scripts. -/
def scriptTools : List Tool :=
  runtimeTools ++ [.family .registration, .family .lifecycle, .family .quality]

theorem run_family_congr (hv : Names v here dir base) (hw : Names w here dir base)
    (standard : String) {family : Family} (h : family.check ⟨v, base⟩ = family.check ⟨w, base⟩) :
    Tool.run v here standard (.family family) [dir] =
      Tool.run w here standard (.family family) [dir] := by
  rw [Tool.run, Tool.run, runFamily, runFamily, hv.realPath_eq, hw.realPath_eq, h]

/-- The commands on what runs in the shell do not see what is passed over. -/
theorem run_runtimeTools (hv : Names v here dir base) (hw : Names w here dir base)
    (standard : String) {prefs : Bool}
    (h : v.without (passesOver prefs base) = w.without (passesOver prefs base)) :
    ∀ tool ∈ runtimeTools,
      tool.run v here standard [dir] = tool.run w here standard [dir] := by
  have htrimmed : Extension.trimmed ⟨v, base⟩ prefs = Extension.trimmed ⟨w, base⟩ prefs :=
    congrArg (Extension.mk · base) h
  have hdir : v.isDir base = w.isDir base :=
    Extension.eq_of_sameRuntime (f := fun ext => ext.volume.isDir ext.base)
      (fun _ _ h => h.isDir_eq) hv.isPlain hw.isPlain htrimmed
  have hgraph : Resource.printable ⟨v, base⟩ = Resource.printable ⟨w, base⟩ :=
    Extension.eq_of_sameRuntime (fun _ _ => Resource.printable_congr) hv.isPlain hw.isPlain
      htrimmed
  have hcheck : Resource.check ⟨v, base⟩ = Resource.check ⟨w, base⟩ :=
    Extension.eq_of_sameRuntime (fun _ _ => Resource.check_congr) hv.isPlain hw.isPlain htrimmed
  simp only [runtimeTools, List.forall_mem_cons, List.not_mem_nil, false_implies, implies_true,
    and_true]
  refine ⟨?_, ?_, ?_, ?_⟩
  · exact run_family_congr hv hw standard
      (Extension.eq_of_sameRuntime (fun _ _ => Waiting.check_congr) hv.isPlain hw.isPlain htrimmed)
  · exact run_family_congr hv hw standard
      (Extension.eq_of_sameRuntime (fun _ _ => Startup.check_congr) hv.isPlain hw.isPlain htrimmed)
  · rw [Tool.run, Tool.run, runGraph, runGraph, hv.realPath_eq, hw.realPath_eq, hdir, hgraph]
  · rw [Tool.run, Tool.run, runResources, runResources, reportDelivery, reportDelivery,
      hv.realPath_eq, hw.realPath_eq, hdir, hcheck]

/-- The commands on all scripts do not see foreign directories. -/
theorem run_scriptTools (hv : Names v here dir base) (hw : Names w here dir base)
    (standard : String)
    (h : v.without (passesOver false base) = w.without (passesOver false base)) :
    ∀ tool ∈ scriptTools,
      tool.run v here standard [dir] = tool.run w here standard [dir] := by
  have htrimmed : Extension.trimmed ⟨v, base⟩ false = Extension.trimmed ⟨w, base⟩ false :=
    congrArg (Extension.mk · base) h
  refine List.forall_mem_append.mpr ⟨run_runtimeTools hv hw standard h, ?_⟩
  simp only [List.forall_mem_cons, List.not_mem_nil, false_implies, implies_true, and_true]
  refine ⟨?_, ?_, ?_⟩ <;> refine run_family_congr hv hw standard ?_
  · exact Extension.eq_of_sameScripts (fun _ _ => Registration.check_congr) hv.isPlain hw.isPlain
      htrimmed
  · exact Extension.eq_of_sameScripts (fun _ _ => Lifecycle.check_congr) hv.isPlain hw.isPlain
      htrimmed
  · exact Extension.eq_of_sameScripts (fun _ _ => Quality.check_congr) hv.isPlain hw.isPlain
      htrimmed

/-- The rules of the same file, with scopes for one component, report the same. -/
theorem applyRules_congr (hv : Names v here dir base) (hw : Names w here dir base)
    (h : v.without (passesOver false base) = w.without (passesOver false base)) {file : String}
    (hread : readRules v here file = readRules w here file)
    (hscopes : ∀ rules, readRules v here file = .ok (some rules) →
      ∀ r ∈ rules, ∀ scope ∈ r.scopes, '/' ∉ scope)
    (hlinks : Glob.isPattern base.chars = true →
      v.root.isUnlinked = true ∧ w.root.isUnlinked = true) :
    applyRules v here file dir = applyRules w here file dir := by
  have htrimmed : Extension.trimmed ⟨v, base⟩ false = Extension.trimmed ⟨w, base⟩ false :=
    congrArg (Extension.mk · base) h
  rw [applyRules, applyRules, ← hread, hv.realPath_eq, hw.realPath_eq]
  cases hrules : readRules v here file with
  | error e => rfl
  | ok rules? =>
      cases rules? with
      | none => rfl
      | some rules =>
          have hscopes := hscopes rules hrules
          have hleft := Rule.applyAll_trimmed hv.isPlain (fun h => (hlinks h).1) hscopes
          have hright := Rule.applyAll_trimmed hw.isPlain (fun h => (hlinks h).2) hscopes
          exact congrArg Outcome.ofCheck (hleft.symm.trans (htrimmed ▸ hright))

/-- Two file trees that are the same but for foreign directories in the extension cannot be told
apart by the commands on its scripts, and not by rules with scopes for one component.  If the
preferences differ as well, the commands on what runs in the shell cannot tell them apart.

Rules look for the extension by its own path.  With special characters in it, a link elsewhere
could lead into a foreign directory under another name. -/
theorem run_eq_of_without_eq (v w : Volume) (here base : Path) (dir standard : String)
    (hv : Names v here dir base) (hw : Names w here dir base) :
    (v.without (passesOver false base) = w.without (passesOver false base) →
      (∀ tool ∈ scriptTools, tool.run v here standard [dir] = tool.run w here standard [dir]) ∧
        ∀ file, file ≠ "--validate" → readRules v here file = readRules w here file →
          (∀ rules, readRules v here file = .ok (some rules) →
            ∀ r ∈ rules, ∀ scope ∈ r.scopes, '/' ∉ scope) →
          (Glob.isPattern base.chars = true →
            v.root.isUnlinked = true ∧ w.root.isUnlinked = true) →
          Tool.rules.run v here standard [file, dir] =
            Tool.rules.run w here standard [file, dir]) ∧
      (v.without (passesOver true base) = w.without (passesOver true base) →
        ∀ tool ∈ runtimeTools,
          tool.run v here standard [dir] = tool.run w here standard [dir]) := by
  refine ⟨fun h => ⟨run_scriptTools hv hw standard h, ?_⟩, run_runtimeTools hv hw standard⟩
  intro file hfile hread hscopes hlinks
  have hrules := applyRules_congr hv hw h hread hscopes hlinks
  simp only [Tool.run, runRules, beq_eq_false_iff_ne.mpr hfile, Bool.false_eq_true, if_false,
    hrules]

/-- An extension with a foreign directory and preferences, beside a file with a rule. -/
def bundled (foreign prefs : Text) : Volume where
  root := .dir
    [("r", .file (Text.encode "- pattern: a".toList) false),
      ("x", .dir
        [("extension.js", .file (Text.encode "a".toList) false),
          ("node_modules", .dir [("m.js", .file (Text.encode foreign) false)]),
          ("prefs.js", .file (Text.encode prefs) false)])]

theorem names_bundled (foreign prefs : Text) : Names (bundled foreign prefs) [] "/x" ["x"] where
  realPath_eq := rfl
  isPlain := ⟨rfl, _, by simp [Path.Plain, Path.IsName], rfl, rfl⟩

theorem readRules_bundled (foreign prefs : Text) :
    readRules (bundled foreign prefs) [] "/r" =
      .ok (some (Rule.readAll "- pattern: a".toList)) := rfl

/-- Two trees with different foreign files and preferences are not told apart. -/
theorem run_eq_of_without_eq_bundled :
    (bundled ['a'] ['b']).isFile ["x", "node_modules", "m.js"] = true ∧
      (bundled ['a'] ['b']).text ["x", "node_modules", "m.js"] ≠
        (bundled ['c'] ['b']).text ["x", "node_modules", "m.js"] ∧
      (∀ tool ∈ scriptTools, tool.run (bundled ['a'] ['b']) [] "" ["/x"] =
        tool.run (bundled ['c'] ['b']) [] "" ["/x"]) ∧
      Tool.rules.run (bundled ['a'] ['b']) [] "" ["/r", "/x"] =
        Tool.rules.run (bundled ['c'] ['b']) [] "" ["/r", "/x"] ∧
      ∀ tool ∈ runtimeTools, tool.run (bundled ['a'] ['b']) [] "" ["/x"] =
        tool.run (bundled ['c'] ['d']) [] "" ["/x"] := by
  have hscopes : ∀ r ∈ Rule.readAll "- pattern: a".toList, ∀ scope ∈ r.scopes, '/' ∉ scope := by
    decide
  obtain ⟨htools, hrules⟩ := (run_eq_of_without_eq (bundled ['a'] ['b']) (bundled ['c'] ['b'])
    [] ["x"] "/x" "" (names_bundled _ _) (names_bundled _ _)).1 rfl
  refine ⟨rfl, by decide, htools, ?_, ?_⟩
  · refine hrules "/r" (by decide) ?_ (fun rules hread => ?_) fun h => absurd h (by decide)
    · rw [readRules_bundled, readRules_bundled]
    rw [readRules_bundled] at hread
    cases hread
    exact hscopes
  · exact (run_eq_of_without_eq (bundled ['a'] ['b']) (bundled ['c'] ['d'])
      [] ["x"] "/x" "" (names_bundled _ _) (names_bundled _ _)).2 rfl

/-- An extension whose path is also a pattern that the name of a link matches.  The link leads
into its foreign directory. -/
def linkedElsewhere (foreign : Text) : Volume where
  root := .dir
    [("[a]", .dir [("node_modules", .dir [("m.js", .file (Text.encode foreign) false)])]),
      ("a", .link "[a]/node_modules"),
      ("r", .file (Text.encode "- pattern: a".toList) false)]

theorem names_linkedElsewhere (foreign : Text) :
    Names (linkedElsewhere foreign) [] "/[a]" ["[a]"] where
  realPath_eq := rfl
  isPlain := ⟨rfl, _, by simp [Path.Plain, Path.IsName], rfl, rfl⟩

/-- Why links elsewhere count: two trees that are the same but for a foreign directory are told
apart by a rule, since the link shows it a file of this directory. -/
theorem run_rules_linkedElsewhere :
    (∀ foreign, Names (linkedElsewhere foreign) [] "/[a]" ["[a]"]) ∧
      (linkedElsewhere ['a']).without (passesOver false ["[a]"]) =
        (linkedElsewhere []).without (passesOver false ["[a]"]) ∧
      (Tool.rules.run (linkedElsewhere ['a']) [] "" ["/r", "/[a]"]).lines =
        ["WARN|?|../a/m.js:1: ?"] ∧
      (Tool.rules.run (linkedElsewhere []) [] "" ["/r", "/[a]"]).lines =
        ["PASS|?|No matches"] := by
  refine ⟨names_linkedElsewhere, rfl, ?_, ?_⟩ <;> decide +kernel

end Command

end ExtensionAudit
