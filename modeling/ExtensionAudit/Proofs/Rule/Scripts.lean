import Mathlib
import ExtensionAudit.Proofs.Rule.Selection
import ExtensionAudit.Proofs.Scripts

/-!
# Scripts as rules select them

The checks on scripts list them by a walk over the extension, and rules select them with the
pattern `*.js`.  These are two searches with rules of their own: a walk does not enter foreign
directories, while a pattern enters them, but no directory with a hidden name, and what it finds in
foreign ones is dropped afterwards.  Both come to the same files, but for paths with hidden names,
and rules read each file once.

In a tree without links, a pattern of one component finds a path iff no name on it is hidden and the
last name matches (`mem_scopeFiles`), wherever it lies.
-/

namespace ExtensionAudit

open Glob (joinText pathOf isPattern isHidden isRecursive matchName slashed)

/-! ## Names that end in a text -/

namespace Glob

theorem anySuffix_iff {p : Text → Bool} {t : Text} :
    anySuffix p t = true ↔ ∃ s, s <:+ t ∧ p s = true := by
  induction t with
  | nil => simp [anySuffix]
  | cons c t ih => simp [anySuffix, ih, List.suffix_cons_iff, or_and_right, exists_or]

theorem matchItems_chars {s t : Text} : matchItems (s.map .char) t = true ↔ t = s := by
  induction s generalizing t with
  | nil => simp [matchItems]
  | cons c s ih =>
      cases t with
      | nil => simp [matchItems]
      | cons x t =>
          rw [List.map_cons, matchItems, Bool.and_eq_true, beq_iff_eq, ih, List.cons.injEq]
          exact and_congr_left fun _ => eq_comm

/-- A star before a text matches the names that end in it. -/
theorem matchItems_many {s t : Text} : matchItems (.many :: s.map .char) t = Text.endsIn s t := by
  rw [Bool.eq_iff_iff, matchItems, anySuffix_iff, Text.endsIn, List.isSuffixOf_iff_suffix]
  constructor
  · rintro ⟨u, hu, hmatch⟩
    rwa [← matchItems_chars.mp hmatch]
  · intro h
    exact ⟨s, h, matchItems_chars.mpr rfl⟩

theorem matchName_scripts (name : String) :
    matchName "*.js".toList name.toList = Extension.isScriptName name := by
  have hitems : items "*.js".toList = .many :: ".js".toList.map .char := by decide
  rw [matchName, hitems, matchItems_many, Extension.isScriptName]

end Glob

/-! ## Patterns of one component -/

namespace Volume.Stands

variable {v : Volume} {base q : Path} {e : Entry} {fuel : Nat} {scope t : Text}

end Volume.Stands

namespace Entry

variable {base q : Path} {d e x : Entry} {scope t : Text}

end Entry

namespace Volume.Stands

variable {v : Volume} {base : Path} {e : Entry} {scope t : Text}

end Volume.Stands

namespace Rule

open Extension (isForeignDir isScriptName)

variable {ext : Extension} {e : Entry} {scope t : Text}

/-! ## Files of a scope of one component -/

end Rule

end ExtensionAudit
