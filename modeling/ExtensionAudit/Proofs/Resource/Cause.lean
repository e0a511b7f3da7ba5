import Mathlib
import ExtensionAudit.Resource.Orphan

/-!
# The verdict on a resource

The orphans of a file come from three cases, and each of the first two takes all resources of the
file.  Seen from one resource there is one verdict, `Scan.cause?`: it depends on the scan of the
file and on whether the owner destroys the file, and on no other resource.  So the orphans of a
file are its resources with a verdict, in their order (`map_origin_orphansOf`), and whether a
resource is reported can be asked of each resource by itself (`reported_iff`).
-/

namespace ExtensionAudit.Resource

/-- Why a resource of an owned file is an orphan, if it is one.  `called` tells whether the owner
destroys the file. -/
def Scan.cause? (scan : Scan) (called : Bool) (c : Creation) : Option Cause :=
  if !scan.hasCleanup then some .noMethod
  else if !called then some .notCalled
  else (c.leak? scan).map .notCleaned

/-- The file of an orphan and the resource in it. -/
def Orphan.origin (o : Orphan) : String × Creation := (o.file, o.creation)

/-- The resource of a file is reported as an orphan. -/
def Reported (scans : Scans) (own : Ownership) (file : String) (c : Creation) : Prop :=
  ∃ o ∈ orphans scans own, o.file = file ∧ o.creation = c

instance (scans : Scans) (own : Ownership) (file : String) (c : Creation) :
    Decidable (Reported scans own file c) :=
  inferInstanceAs (Decidable (∃ o ∈ orphans scans own, o.file = file ∧ o.creation = c))

variable {scan : Scan} {scans : Scans} {own : Ownership} {file parent : String} {c : Creation}

/-! ## Verdicts by case -/

theorem cause?_of_not_hasCleanup (h : scan.hasCleanup = false) (called : Bool) (c : Creation) :
    scan.cause? called c = some .noMethod := by
  simp [Scan.cause?, h]

theorem cause?_of_not_called (h : scan.hasCleanup = true) (c : Creation) :
    scan.cause? false c = some .notCalled := by
  simp [Scan.cause?, h]

theorem cause?_of_called (h : scan.hasCleanup = true) (c : Creation) :
    scan.cause? true c = (c.leak? scan).map .notCleaned := by
  simp [Scan.cause?, h]

/-- A resource of a file that is destroyed leaks iff it stays in a property for which the file
does nothing. -/
theorem isSome_leak? :
    (c.leak? scan).isSome = true ↔ ∃ reference, given? c.stored? = some reference ∧
      c.isExempt scan reference = false ∧ (∀ r ∈ scan.releases, r.frees reference = false) ∧
      reference ∉ releasedReferences scan.code := by
  simp only [Creation.leak?, Option.isSome_iff_exists, Option.filter_eq_some_iff, Bool.and_eq_true,
    Bool.not_eq_true', List.any_eq_false, List.contains_eq_mem, decide_eq_false_iff_not,
    Bool.not_eq_true, and_assoc]

/-! ## The orphans of one file -/

/-- The orphans of a file. -/
def fileOrphans (own : Ownership) (x : String × Scan) : List Orphan :=
  match parent? own x.1 with
  | some parent => orphansOf own x.1 x.2 parent
  | none => []

theorem orphans_eq_flatMap (scans : Scans) (own : Ownership) :
    orphans scans own = scans.flatMap (fileOrphans own) := rfl

/-- The three cases give each resource its verdict. -/
theorem orphansOf_eq_filterMap (own : Ownership) (file : String) (scan : Scan) (parent : String) :
    orphansOf own file scan parent = scan.creations.filterMap fun c =>
      (scan.cause? (destroys own parent file) c).map fun cause => ⟨file, c, cause⟩ := by
  cases hcleanup : scan.hasCleanup with
  | false => simp [orphansOf, cause?_of_not_hasCleanup, hcleanup]
  | true =>
      cases hcalled : destroys own parent file with
      | false => simp [orphansOf, cause?_of_not_called, hcleanup, hcalled]
      | true =>
          simp only [orphansOf, cause?_of_called hcleanup, hcleanup, hcalled, Option.map_map]
          rfl

/-- The orphans of a file are its resources with a verdict. -/
theorem map_origin_orphansOf (own : Ownership) (file : String) (scan : Scan) (parent : String) :
    (orphansOf own file scan parent).map Orphan.origin =
      (scan.creations.filter fun c => (scan.cause? (destroys own parent file) c).isSome).map
        fun c => (file, c) := by
  rw [orphansOf_eq_filterMap]
  induction scan.creations with
  | nil => rfl
  | cons c more ih =>
      cases h : scan.cause? (destroys own parent file) c with
      | none => simp [h, ih]
      | some cause => simp [h, ih, Orphan.origin]

/-- An orphan of a file is a creation in it that there is a cause for. -/
theorem mem_fileOrphans {x : String × Scan} {o : Orphan} :
    o ∈ fileOrphans own x ↔ o.file = x.1 ∧ o.creation ∈ x.2.creations ∧
      ∃ parent, parent? own x.1 = some parent ∧
        x.2.cause? (destroys own parent x.1) o.creation = some o.cause := by
  unfold fileOrphans
  cases parent? own x.1 with
  | none => simp
  | some parent =>
      simp only [orphansOf_eq_filterMap, List.mem_filterMap, Option.map_eq_some_iff]
      constructor
      · rintro ⟨c, hc, cause, hcause, rfl⟩
        exact ⟨rfl, hc, parent, rfl, hcause⟩
      · rintro ⟨hfile, hc, _, ⟨⟩, hcause⟩
        exact ⟨o.creation, hc, o.cause, hcause, by rw [← hfile]⟩

/-! ## The orphans of all files -/

/-- The orphans are those of the files. -/
theorem mem_orphans {o : Orphan} :
    o ∈ orphans scans own ↔
      ∃ scan, (o.file, scan) ∈ scans ∧ o ∈ fileOrphans own (o.file, scan) := by
  rw [orphans_eq_flatMap, List.mem_flatMap]
  constructor
  · rintro ⟨⟨file, scan⟩, hx, ho⟩
    obtain rfl : o.file = file := (mem_fileOrphans.mp ho).1
    exact ⟨scan, hx, ho⟩
  · rintro ⟨scan, hx, ho⟩
    exact ⟨_, hx, ho⟩

/-- A resource is reported iff some owner of its file comes last and there is a verdict on it. -/
theorem reported_iff :
    Reported scans own file c ↔ ∃ scan, (file, scan) ∈ scans ∧ c ∈ scan.creations ∧
      ∃ parent, parent? own file = some parent ∧
        (scan.cause? (destroys own parent file) c).isSome = true := by
  simp only [Reported, mem_orphans, mem_fileOrphans, Option.isSome_iff_exists, true_and]
  constructor
  · rintro ⟨o, ⟨scan, hscan, hc, parent, hparent, hcause⟩, rfl, rfl⟩
    exact ⟨scan, hscan, hc, parent, hparent, o.cause, hcause⟩
  · rintro ⟨scan, hscan, hc, parent, hparent, cause, hcause⟩
    exact ⟨⟨file, c, cause⟩, ⟨scan, hscan, hc, parent, hparent, hcause⟩, rfl, rfl⟩

end ExtensionAudit.Resource
