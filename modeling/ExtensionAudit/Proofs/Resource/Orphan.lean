import Mathlib
import ExtensionAudit.Proofs.Resource.Cause
import ExtensionAudit.Proofs.Table

/-!
# Orphans and the order of files

A file may be owned by several others, and some of them may destroy it while others do not.  The
orphans of a file are judged by the last of its owners, so the order of the files decides.  It does
not show iff the owners agree: whenever a file takes resources and has a method that cleans up, all
of its owners destroy it or none does.

Which files own which, and who destroys whom, can be read off the objects with their owners
(`holdings`), and a reordering only permutes these.  What is left is the choice of the last owner.
If the owners agree, any choice gives the same orphans.  If they do not, each of two that differ
can be made the last one (`movedLast`).
-/

namespace ExtensionAudit.Resource

/-- What a report says of an orphan.  The words for the cause follow from the file and the cause. -/
def Orphan.record (o : Orphan) : String × Nat × Kind × Cause :=
  (o.file, o.creation.line, o.creation.kind, o.cause)

/-- The entries in another order, and the objects of each file in another order. -/
def Ownership.Reordered (own own' : Ownership) : Prop :=
  ∃ files, own.Perm files ∧ List.Forall₂ (fun x y => x.1 = y.1 ∧ x.2.Perm y.2) files own'

/-- The files that own a file, in order, with repetitions. -/
def owners (own : Ownership) (file : String) : List String :=
  ((edges own).filter fun x => x.2 == file).map (·.1)

/-- All owners of a file destroy it, or none does. -/
def OwnersAgree (own : Ownership) (file : String) : Prop :=
  ∀ a ∈ owners own file, ∀ b ∈ owners own file, destroys own a file = destroys own b file

instance (own : Ownership) (file : String) : Decidable (OwnersAgree own file) :=
  inferInstanceAs (Decidable (∀ a ∈ owners own file, ∀ b ∈ owners own file,
    destroys own a file = destroys own b file))

/-! ## Owners -/

/-- The objects of all files, each with its owner. -/
def holdings (own : Ownership) : List (String × Owned) :=
  own.flatMap fun x => x.2.map fun y => (x.1, y.2)

variable {own own' : Ownership} {file owner : String}

theorem mem_holdings {o : Owned} :
    (owner, o) ∈ holdings own ↔
      ∃ owned, (owner, owned) ∈ own ∧ ∃ reference, (reference, o) ∈ owned := by
  simp only [holdings, List.mem_flatMap, List.mem_map, Prod.exists, Prod.mk.injEq]
  constructor
  · rintro ⟨_, owned, hmem, reference, _, hobject, rfl, rfl⟩
    exact ⟨owned, hmem, reference, hobject⟩
  · rintro ⟨owned, hmem, reference, hobject⟩
    exact ⟨owner, owned, hmem, reference, o, hobject, rfl, rfl⟩

/-- The owners of a file hold an object from it. -/
theorem mem_owners :
    owner ∈ owners own file ↔
      ∃ o, (owner, o) ∈ holdings own ∧ givenFile? o.source? = some file := by
  have hedges : edges own = (holdings own).filterMap fun x =>
      (givenFile? x.2.source?).map fun source => (x.1, source) := by
    simp only [edges, holdings, List.filterMap_flatMap, List.filterMap_map]
    rfl
  simp only [owners, hedges, List.mem_map, List.mem_filter, List.mem_filterMap,
    Option.map_eq_some_iff, beq_iff_eq]
  constructor
  · rintro ⟨_, ⟨⟨⟨owner, o⟩, hmem, source, hsource, rfl⟩, rfl⟩, rfl⟩
    exact ⟨o, hmem, hsource⟩
  · rintro ⟨o, hmem, hsource⟩
    exact ⟨(owner, file), ⟨⟨(owner, o), hmem, file, hsource, rfl⟩, rfl⟩, rfl⟩

/-- An owner destroys a file if it has a name and destroys one of its objects of that file. -/
theorem destroys_iff (hkeys : own.keys.Nodup) :
    destroys own owner file = true ↔ owner ≠ "" ∧
      ∃ o, (owner, o) ∈ holdings own ∧ o.source? = some file ∧ o.destroyedLine?.isSome := by
  simp only [destroys, Bool.and_eq_true, Bool.not_eq_true', String.isEmpty_eq_false_iff,
    List.any_eq_true, beq_iff_eq, mem_holdings, ← Table.get?_eq_some_iff hkeys]
  refine and_congr_right fun _ => ?_
  cases own.get? owner with
  | none => simp
  | some owned =>
      constructor
      · rintro ⟨⟨reference, o⟩, hmem, hsource, hline⟩
        exact ⟨o, ⟨owned, rfl, reference, hmem⟩, hsource, hline⟩
      · rintro ⟨o, ⟨_, ⟨⟩, reference, hmem⟩, hsource, hline⟩
        exact ⟨(reference, o), hmem, hsource, hline⟩

namespace Ownership.Reordered

/-- Reordered tables have the same holdings. -/
theorem perm_holdings (h : Reordered own own') : (holdings own).Perm (holdings own') := by
  obtain ⟨files, hperm, hforall⟩ := h
  refine (hperm.flatMap_right _).trans ?_
  clear hperm
  induction hforall with
  | nil => exact .refl _
  | cons hx _ ih =>
      obtain ⟨hfile, hobjects⟩ := hx
      rw [List.flatMap_cons, holdings, List.flatMap_cons, hfile]
      exact (hobjects.map _).append ih

theorem nodup_keys (h : Reordered own own') (hkeys : own.keys.Nodup) : own'.keys.Nodup := by
  obtain ⟨files, hperm, hforall⟩ := h
  have heq : Table.keys files = own'.keys := by
    clear hperm
    induction hforall with
    | nil => rfl
    | cons hx _ ih => exact congrArg₂ List.cons hx.1 ih
  exact heq ▸ (hperm.map _).nodup_iff.mp hkeys

theorem mem_owners_iff (h : Reordered own own') :
    owner ∈ owners own' file ↔ owner ∈ owners own file := by
  simp only [mem_owners, h.perm_holdings.mem_iff]

theorem destroys_eq (h : Reordered own own') (hkeys : own.keys.Nodup) (owner file : String) :
    destroys own' owner file = destroys own owner file := by
  rw [Bool.eq_iff_iff, destroys_iff hkeys, destroys_iff (h.nodup_keys hkeys)]
  simp only [h.perm_holdings.mem_iff]

end Ownership.Reordered

/-! ## The orphans of one file -/

/-- The last owner counts. -/
theorem parent?_eq_getLast? (own : Ownership) (file : String) :
    parent? own file = (owners own file).getLast? :=
  List.getLast?_map.symm

/-- All resources of a file that is not destroyed by its last owner are orphans. -/
theorem mem_fileOrphans_of_notCalled {scan : Scan} (hparent : parent? own file = some owner)
    (hcleanup : scan.hasCleanup = true) (hdestroys : destroys own owner file = false)
    {c : Creation} (hc : c ∈ scan.creations) :
    ⟨file, c, .notCalled⟩ ∈ fileOrphans own (file, scan) := by
  refine mem_fileOrphans.mpr ⟨rfl, hc, owner, hparent, ?_⟩
  rw [hdestroys, cause?_of_not_called hcleanup]

/-- A file that is destroyed by its last owner has no orphans for want of a call. -/
theorem cause_ne_notCalled {scan : Scan} (hparent : parent? own file = some owner)
    (hcleanup : scan.hasCleanup = true) (hdestroys : destroys own owner file = true)
    {o : Orphan} (ho : o ∈ fileOrphans own (file, scan)) : o.cause ≠ .notCalled := by
  obtain ⟨-, -, parent, hlast, hcause⟩ := mem_fileOrphans.mp ho
  cases hparent.symm.trans hlast
  rw [hdestroys, cause?_of_called hcleanup] at hcause
  obtain ⟨reference, -, heq⟩ := Option.map_eq_some_iff.mp hcause
  rw [← heq]
  exact nofun

/-- If the owners agree, then it does not matter which of them counts. -/
theorem fileOrphans_reordered (h : own.Reordered own') (hkeys : own.keys.Nodup) {scan : Scan}
    (hagree : scan.creations ≠ [] → scan.hasCleanup = true → OwnersAgree own file) :
    fileOrphans own' (file, scan) = fileOrphans own (file, scan) := by
  simp only [fileOrphans, parent?_eq_getLast?]
  cases hlast : (owners own file).getLast? with
  | none =>
      have hnone : owners own' file = [] := by
        refine List.eq_nil_iff_forall_not_mem.mpr fun owner howner => ?_
        have hmem := h.mem_owners_iff.mp howner
        rw [List.getLast?_eq_none_iff.mp hlast] at hmem
        cases hmem
      rw [hnone]
      rfl
  | some a =>
      have ha : a ∈ owners own file := List.mem_of_getLast? hlast
      cases hlast' : (owners own' file).getLast? with
      | none =>
          have hmem := h.mem_owners_iff.mpr ha
          rw [List.getLast?_eq_none_iff.mp hlast'] at hmem
          cases hmem
      | some b =>
          have hb : b ∈ owners own file := h.mem_owners_iff.mp (List.mem_of_getLast? hlast')
          simp only [orphansOf, h.destroys_eq hkeys]
          cases hcreations : scan.creations with
          | nil => simp
          | cons c more =>
              cases hcleanup : scan.hasCleanup with
              | false => rfl
              | true => rw [hagree (hcreations ▸ List.cons_ne_nil c more) hcleanup a ha b hb]

/-! ## Making an owner the last one -/

/-- The entries of an owner after all others. -/
def movedLast (own : Ownership) (owner : String) : Ownership :=
  own.filter (fun x => !(x.1 == owner)) ++ own.filter fun x => x.1 == owner

theorem reordered_movedLast (own : Ownership) (owner : String) :
    own.Reordered (movedLast own owner) := by
  refine ⟨movedLast own owner, ?_, List.forall₂_same.mpr fun x _ => ⟨rfl, .refl _⟩⟩
  exact (List.perm_append_comm.trans (List.filter_append_perm (fun x => x.1 == owner) own)).symm

theorem owners_append (front back : Ownership) (file : String) :
    owners (front ++ back) file = owners front file ++ owners back file := by
  simp only [owners, edges, List.flatMap_append, List.filter_append, List.map_append]

/-- The owner that is moved to the end becomes the parent. -/
theorem parent?_movedLast (h : owner ∈ owners own file) :
    parent? (movedLast own owner) file = some owner := by
  obtain ⟨o, ho, hsource⟩ := mem_owners.mp h
  obtain ⟨owned, hmem, reference, hobject⟩ := mem_holdings.mp ho
  have hback : owner ∈ owners (own.filter fun x => x.1 == owner) file := by
    refine mem_owners.mpr ⟨o, mem_holdings.mpr ⟨owned, ?_, reference, hobject⟩, hsource⟩
    exact List.mem_filter.mpr ⟨hmem, beq_self_eq_true owner⟩
  obtain ⟨last, hlast⟩ :=
    Option.isSome_iff_exists.mp (List.getLast?_isSome.mpr (List.ne_nil_of_mem hback))
  have heq : last = owner := by
    obtain ⟨o', ho', -⟩ := mem_owners.mp (List.mem_of_getLast? hlast)
    obtain ⟨owned', hmem', -⟩ := mem_holdings.mp ho'
    exact beq_iff_eq.mp (List.mem_filter.mp hmem').2
  rw [parent?_eq_getLast?, movedLast, owners_append, List.getLast?_append, hlast, heq]
  rfl

/-! ## All files -/

/-- If the owners of each file agree, then a reordering permutes the orphans. -/
theorem perm_orphans_reordered {scans scans' : Scans} (hscans : scans.Perm scans')
    (h : own.Reordered own') (hkeys : own.keys.Nodup)
    (hagree : ∀ file scan, (file, scan) ∈ scans → scan.creations ≠ [] → scan.hasCleanup = true →
      OwnersAgree own file) :
    (orphans scans own).Perm (orphans scans' own') := by
  rw [orphans_eq_flatMap, orphans_eq_flatMap]
  refine hscans.flatMap fun x hx => ?_
  rw [fileOrphans_reordered h hkeys (hagree x.1 x.2 hx)]

/-- An owner that destroys a file and one that does not lead to different orphans. -/
theorem destroys_of_records_eq {scans : Scans} (hscans : scans.keys.Nodup)
    (hkeys : own.keys.Nodup)
    (hsame : ∀ own', own.Reordered own' → ∀ r,
      r ∈ (orphans scans own').map Orphan.record ↔ r ∈ (orphans scans own).map Orphan.record)
    {scan : Scan} (hfile : (file, scan) ∈ scans) (hcreations : scan.creations ≠ [])
    (hcleanup : scan.hasCleanup = true) {a b : String} (ha : a ∈ owners own file)
    (hb : b ∈ owners own file) (hdestroys : destroys own a file = true) :
    destroys own b file = true := by
  by_contra hnot
  have hnot : destroys (movedLast own b) b file = false := by
    rw [(reordered_movedLast own b).destroys_eq hkeys]
    exact Bool.eq_false_iff.mpr hnot
  obtain ⟨c, hc⟩ := List.exists_mem_of_ne_nil _ hcreations
  -- With `b` as the last owner the resource is an orphan for want of a call, hence also with `a`.
  have hlast : (⟨file, c, .notCalled⟩ : Orphan) ∈ orphans scans (movedLast own b) :=
    List.mem_flatMap.mpr
      ⟨_, hfile, mem_fileOrphans_of_notCalled (parent?_movedLast hb) hcleanup hnot hc⟩
  have hrecord := (hsame _ (reordered_movedLast own b) _).mp (List.mem_map_of_mem hlast)
  have hrecord := (hsame _ (reordered_movedLast own a) _).mpr hrecord
  obtain ⟨o, ho, heq⟩ := List.mem_map.mp hrecord
  rw [orphans_eq_flatMap] at ho
  obtain ⟨⟨other, scan'⟩, hother, ho⟩ := List.mem_flatMap.mp ho
  have hother_eq : o.file = other := (mem_fileOrphans.mp ho).1
  have hfile_eq : o.file = file := congrArg Prod.fst heq
  obtain rfl : other = file := hother_eq.symm.trans hfile_eq
  have hscan : scan' = scan := by
    have hget := (Table.get?_eq_some_iff hscans).mpr hother
    rw [(Table.get?_eq_some_iff hscans).mpr hfile] at hget
    exact (Option.some.inj hget).symm
  subst hscan
  refine cause_ne_notCalled (parent?_movedLast ha) hcleanup ?_ ho (congrArg (·.2.2.2) heq)
  rw [(reordered_movedLast own a).destroys_eq hkeys, hdestroys]

/-- The orphans are the same in every order of the files, of their owners and of the owners'
objects iff the owners of each file agree, of those files that take resources and have a method
that cleans up. -/
theorem orphans_reordered_iff (scans : Scans) (own : Ownership) (hscans : scans.keys.Nodup)
    (hown : own.keys.Nodup) :
    (∀ scans' own', scans.Perm scans' → own.Reordered own' → ∀ r,
        r ∈ (orphans scans' own').map Orphan.record ↔ r ∈ (orphans scans own).map Orphan.record) ↔
      ∀ file scan, (file, scan) ∈ scans → scan.creations ≠ [] → scan.hasCleanup = true →
        OwnersAgree own file := by
  constructor
  · intro hsame file scan hfile hcreations hcleanup a ha b hb
    have hsame := fun own' => hsame scans own' (.refl _)
    rw [Bool.eq_iff_iff]
    exact ⟨destroys_of_records_eq hscans hown hsame hfile hcreations hcleanup ha hb,
      destroys_of_records_eq hscans hown hsame hfile hcreations hcleanup hb ha⟩
  · intro hagree scans' own' hperm h r
    exact ((perm_orphans_reordered hperm h hown hagree).map _).mem_iff.symm

/-- A module that takes a resource and has a method that cleans up. -/
def oneModule : Scans :=
  [("m.js", { creations := [⟨1, .signal, "a.connect()".toList, none⟩], hasDestroy := true })]

/-- Two files make an object of the module and destroy it on the given lines. -/
def twoOwners (first second : Option Nat) : Ownership :=
  let object (destroyed : Option Nat) : Table Text Owned :=
    [("this._m".toList, ⟨['M'], some "m.js", 1, destroyed⟩)]
  [("a.js", object first), ("b.js", object second)]

/-- The order matters iff one of two owners does not destroy the object. -/
theorem orphans_reordered_iff_twoOwners :
    (∀ scans' own', oneModule.Perm scans' → (twoOwners (some 2) (some 3)).Reordered own' → ∀ r,
        r ∈ (orphans scans' own').map Orphan.record ↔
          r ∈ (orphans oneModule (twoOwners (some 2) (some 3))).map Orphan.record) ∧
      ¬ ∀ scans' own', oneModule.Perm scans' → (twoOwners (some 2) none).Reordered own' → ∀ r,
        r ∈ (orphans scans' own').map Orphan.record ↔
          r ∈ (orphans oneModule (twoOwners (some 2) none)).map Orphan.record := by
  rw [orphans_reordered_iff oneModule (twoOwners (some 2) (some 3)) (by decide) (by decide),
    orphans_reordered_iff oneModule (twoOwners (some 2) none) (by decide) (by decide)]
  constructor
  · intro file scan hfile _ _
    cases List.mem_singleton.mp hfile
    decide
  · intro hagree
    have hnot : ¬ OwnersAgree (twoOwners (some 2) none) "m.js" := by decide
    exact hnot (hagree "m.js" _ List.mem_cons_self (by decide) rfl)

/-- The resource is an orphan if the owner that does not destroy the module comes last, and none if
it comes first. -/
theorem orphans_twoOwners :
    (twoOwners (some 2) none).Reordered (twoOwners (some 2) none).reverse ∧
      (orphans oneModule (twoOwners (some 2) none)).map Orphan.record =
        [("m.js", 1, .signal, .notCalled)] ∧
      (orphans oneModule (twoOwners (some 2) none).reverse).map Orphan.record = [] := by
  refine ⟨⟨_, (List.reverse_perm _).symm, List.forall₂_same.mpr fun x _ => ⟨rfl, .refl _⟩⟩, ?_, ?_⟩
  · decide
  · decide

end ExtensionAudit.Resource
