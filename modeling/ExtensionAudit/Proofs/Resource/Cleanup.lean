import Mathlib
import ExtensionAudit.Proofs.Resource.Cause
import ExtensionAudit.Proofs.Table

/-!
# More cleanup, fewer orphans

Adding cleanup to an extension never adds an orphan.  The order on scans and on tables of objects
says what may be added: lines that give something back, properties that are handed to a parent or
set to null, methods that clean up, and calls that destroy an object.  What is taken, and who owns
whom, stays.

More cleanup can move a file from one case of the verdict to another, from "no method" to "not
called" and from there to the question of each resource.  It never moves back, and in the first two
cases all resources were orphans before (`isSome_cause?_of_cleansMore`).
-/

namespace ExtensionAudit.Resource

/-- The second scan shows all the cleanup of the first, and takes nothing new. -/
structure Scan.CleansMore (s s' : Scan) : Prop where
  /-- It takes no other resources. -/
  creations : s'.creations ⊆ s.creations
  /-- What was given back still is. -/
  releases : s.releases ⊆ s'.releases
  /-- What was handed to a parent widget still is. -/
  childReferences : s.childReferences ⊆ s'.childReferences
  /-- A method `destroy` is still there. -/
  hasDestroy : s.hasDestroy = true → s'.hasDestroy = true
  /-- A method `disable` is still there. -/
  hasDisable : s.hasDisable = true → s'.hasDisable = true
  /-- A private method that destroys is still there. -/
  hasPrivateDestroy : s.hasPrivateDestroy = true → s'.hasPrivateDestroy = true
  /-- What the methods that clean up set to null they still do. -/
  released : releasedReferences s.code ⊆ releasedReferences s'.code

/-- The files of the second list are among those of the first, each with more cleanup. -/
def Scans.CleansMore (scans scans' : Scans) : Prop :=
  ∀ file scan', (file, scan') ∈ scans' → ∃ scan, (file, scan) ∈ scans ∧ scan.CleansMore scan'

/-- The second object is of a class of the same file, and is destroyed if the first one is. -/
structure Owned.CleansMore (o o' : Owned) : Prop where
  /-- The same file defines the class. -/
  source : o'.source? = o.source?
  /-- At most a line that destroys the object is new. -/
  destroyed : o'.destroyedLine? = o.destroyedLine? ∨ o.destroyedLine? = none

/-- The same files store objects in the same properties, and destroy no fewer of them. -/
def Ownership.CleansMore (own own' : Ownership) : Prop :=
  List.Forall₂ (fun x y => x.1 = y.1 ∧
    List.Forall₂ (fun a b => a.1 = b.1 ∧ Owned.CleansMore a.2 b.2) x.2 y.2) own own'

/-! ## Owners -/

section

variable {owned owned' : Table Text Owned} {file : String}

theorem filterMap_source?_eq
    (h : List.Forall₂ (fun a b => a.1 = b.1 ∧ Owned.CleansMore a.2 b.2) owned owned')
    (owner : String) :
    (owned'.filterMap fun b => (givenFile? b.2.source?).map fun source => (owner, source)) =
      owned.filterMap fun a => (givenFile? a.2.source?).map fun source => (owner, source) := by
  induction h with
  | nil => rfl
  | cons ha _ ih => rw [List.filterMap_cons, List.filterMap_cons, ha.2.source, ih]

/-- What some owner destroys is destroyed by one that cleans up more. -/
theorem any_destroyed
    (h : List.Forall₂ (fun a b => a.1 = b.1 ∧ Owned.CleansMore a.2 b.2) owned owned')
    (hany : (owned.any fun a => a.2.source? == some file && a.2.destroyedLine?.isSome) = true) :
    (owned'.any fun b => b.2.source? == some file && b.2.destroyedLine?.isSome) = true := by
  induction h with
  | nil => cases hany
  | cons ha _ ih =>
      rw [List.any_cons, Bool.or_eq_true] at hany ⊢
      refine hany.imp (fun hfirst => ?_) ih
      rw [Bool.and_eq_true] at hfirst ⊢
      rw [ha.2.source]
      refine ⟨hfirst.1, ?_⟩
      rcases ha.2.destroyed with heq | hnone
      · rw [heq]
        exact hfirst.2
      · rw [hnone] at hfirst
        cases hfirst.2

end

namespace Ownership.CleansMore

variable {own own' : Ownership} {file owner : String}

theorem edges_eq (h : CleansMore own own') : edges own' = edges own := by
  induction h with
  | nil => rfl
  | @cons x y _ _ hx _ ih =>
      obtain ⟨owner, owned⟩ := x
      obtain ⟨_, owned'⟩ := y
      obtain ⟨rfl, hobjects⟩ : owner = _ ∧ _ := hx
      exact congrArg₂ (· ++ ·) (filterMap_source?_eq hobjects owner) ih

theorem parent?_eq (h : CleansMore own own') (file : String) :
    parent? own' file = parent? own file := by
  rw [parent?, parent?, h.edges_eq]

/-- An owner with objects still has them. -/
theorem exists_get? (h : CleansMore own own') {owned : Table Text Owned}
    (howned : own.get? owner = some owned) : ∃ owned', own'.get? owner = some owned' ∧
      List.Forall₂ (fun a b => a.1 = b.1 ∧ Owned.CleansMore a.2 b.2) owned owned' := by
  induction h with
  | nil => cases howned
  | @cons x y own own' hx _ ih =>
      rw [Table.get?_cons] at howned ⊢
      rw [← hx.1]
      split at howned
      next hkey =>
        cases howned
        rw [if_pos hkey]
        exact ⟨y.2, rfl, hx.2⟩
      next hkey =>
        rw [if_neg hkey]
        exact ih howned

/-- An owner that destroys a file still does. -/
theorem destroys_of_destroys (h : CleansMore own own') (hd : destroys own owner file = true) :
    destroys own' owner file = true := by
  rw [destroys, Bool.and_eq_true] at hd ⊢
  obtain ⟨hname, hany⟩ := hd
  refine ⟨hname, ?_⟩
  cases howned : own.get? owner with
  | none =>
      rw [howned] at hany
      cases hany
  | some owned =>
      obtain ⟨owned', howned', hobjects⟩ := h.exists_get? howned
      rw [howned] at hany
      rw [howned']
      exact any_destroyed hobjects hany

end Ownership.CleansMore

/-! ## Verdicts -/

namespace Scan.CleansMore

variable {s s' : Scan} {c : Creation}

theorem hasCleanup (h : CleansMore s s') (hs : s.hasCleanup = true) : s'.hasCleanup = true := by
  simp only [Scan.hasCleanup, Bool.or_eq_true] at hs ⊢
  exact hs.imp (Or.imp h.hasDestroy h.hasDisable) h.hasPrivateDestroy

theorem isExempt (h : CleansMore s s') {reference : Text} (hs : c.isExempt s reference = true) :
    c.isExempt s' reference = true := by
  simp only [Creation.isExempt, Bool.or_eq_true, Bool.and_eq_true, List.contains_eq_mem,
    decide_eq_true_eq] at hs ⊢
  exact hs.imp_left (And.imp_right fun hmem => h.childReferences hmem)

/-- A resource that leaks in spite of more cleanup leaked before. -/
theorem isSome_leak?_of_cleansMore (h : CleansMore s s') (hleak : (c.leak? s').isSome = true) :
    (c.leak? s).isSome = true := by
  obtain ⟨reference, hstored, hexempt, hfrees, hreleased⟩ := isSome_leak?.mp hleak
  refine isSome_leak?.mpr ⟨reference, hstored, ?_, ?_, ?_⟩
  · exact Bool.eq_false_iff.mpr fun hs => Bool.eq_false_iff.mp hexempt (h.isExempt hs)
  · exact fun r hr => hfrees r (h.releases hr)
  · exact fun hmem => hreleased (h.released hmem)

/-- So is an orphan in spite of more cleanup one before. -/
theorem isSome_cause?_of_cleansMore (h : CleansMore s s') {called called' : Bool}
    (hcalled : called = true → called' = true) (hcause : (s'.cause? called' c).isSome = true) :
    (s.cause? called c).isSome = true := by
  cases hcleanup : s.hasCleanup with
  | false => rw [cause?_of_not_hasCleanup hcleanup, Option.isSome_some]
  | true =>
      cases called with
      | false => rw [cause?_of_not_called hcleanup, Option.isSome_some]
      | true =>
          rw [hcalled rfl, cause?_of_called (h.hasCleanup hcleanup), Option.isSome_map] at hcause
          rw [cause?_of_called hcleanup, Option.isSome_map]
          exact h.isSome_leak?_of_cleansMore hcause

end Scan.CleansMore

/-! ## Reports -/

/-- A resource that is reported in spite of more cleanup was reported before. -/
theorem reported_of_cleansMore (scans scans' : Scans) (own own' : Ownership)
    (hscans : scans.CleansMore scans') (hown : own.CleansMore own') (file : String) (c : Creation)
    (h : Reported scans' own' file c) : Reported scans own file c := by
  obtain ⟨scan', hfile, hc, parent, hparent, hcause⟩ := reported_iff.mp h
  obtain ⟨scan, hfile, hmore⟩ := hscans file scan' hfile
  rw [hown.parent?_eq] at hparent
  refine reported_iff.mpr ⟨scan, hfile, hmore.creations hc, parent, hparent, ?_⟩
  exact hmore.isSome_cause?_of_cleansMore hown.destroys_of_destroys hcause

/-- A module that takes two resources and does nothing about them. -/
def carelessModule : Scans :=
  [("m.js", { creations :=
    [⟨1, .signal, "this._a = x.connect()".toList, some "this._a".toList⟩,
      ⟨2, .widget, "this._b = new St.Bin()".toList, some "this._b".toList⟩] })]

/-- The same module with a method that gives back one of them. -/
def carefulModule : Scans :=
  carelessModule.map fun x => (x.1, { x.2 with
    releases := [⟨4, .signal, "x.disconnect(this._a)".toList, some "this._a".toList⟩]
    hasDestroy := true })

/-- A file that owns the module and destroys it on the given line. -/
def oneOwner (destroyed : Option Nat) : Ownership :=
  [("a.js", [("this._m".toList, ⟨['M'], some "m.js", 1, destroyed⟩)])]

theorem cleansMore_carefulModule : carelessModule.CleansMore carefulModule := by
  intro file scan' hfile
  cases List.mem_singleton.mp hfile
  refine ⟨_, List.mem_singleton_self _, ?_⟩
  constructor <;> simp

theorem cleansMore_oneOwner (line : Nat) : (oneOwner none).CleansMore (oneOwner (some line)) :=
  .cons ⟨rfl, .cons ⟨rfl, rfl, .inr rfl⟩ .nil⟩ .nil

/-- The widget is still an orphan, hence it was one before; the signal was one too. -/
theorem reported_of_cleansMore_carefulModule :
    ((orphans carefulModule (oneOwner (some 3))).map fun o => (o.file, o.creation.line, o.cause)) =
        [("m.js", 2, .notCleaned "this._b".toList)] ∧
      Reported carelessModule (oneOwner none) "m.js"
        ⟨2, .widget, "this._b = new St.Bin()".toList, some "this._b".toList⟩ ∧
      (orphans carelessModule (oneOwner none)).length = 2 := by
  have hstill : Reported carefulModule (oneOwner (some 3)) "m.js"
      ⟨2, .widget, "this._b = new St.Bin()".toList, some "this._b".toList⟩ := by decide
  refine ⟨by decide, ?_, by decide⟩
  exact reported_of_cleansMore carelessModule carefulModule (oneOwner none) (oneOwner (some 3))
    cleansMore_carefulModule (cleansMore_oneOwner 3) "m.js" _ hstill

end ExtensionAudit.Resource
