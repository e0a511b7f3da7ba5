import Mathlib
import ExtensionAudit.Proofs.Table
import ExtensionAudit.Resource.Ownership

/-!
# Where the class of an object is defined

The imports of all files go into one table, file by file, so of two files that import one name
from different modules the later one is heard (`get?_importMap`).  For an object this means that
its class is looked up in the imports of the files after its own first, the last of them before the
others, and only then in those of its own file.  A file that comes later and imports another class
of the same name takes the object over.
-/

namespace ExtensionAudit.Resource

/-- Each file stands in the scans once, and each name in the imports of a file. -/
structure Scans.IsKeyed (scans : Scans) : Prop where
  /-- Each file stands there once. -/
  files : scans.keys.Nodup
  /-- A file imports each name once. -/
  imports : ∀ x ∈ scans, x.2.imports.keys.Nodup

/-- The module from which the last of the files that import a name imports it. -/
def lastImport? (scans : Scans) (name : Text) : Option String :=
  scans.reverse.findSome? fun x => x.2.imports.get? name

/-! ## The names that all files import -/

theorem lastImport?_append (before after : Scans) (name : Text) :
    lastImport? (before ++ after) name = (lastImport? after name).or (lastImport? before name) := by
  rw [lastImport?, List.reverse_append, List.findSome?_append]
  rfl

theorem lastImport?_singleton (x : String × Scan) (name : Text) :
    lastImport? [x] name = x.2.imports.get? name := by
  rw [lastImport?, List.reverse_singleton, List.findSome?_singleton]

/-- The imports of one more file are put over those before. -/
theorem importMap_concat (scans : Scans) (x : String × Scan) :
    importMap (scans ++ [x]) = (importMap scans).putAll x.2.imports := by
  simp only [importMap, Table.putAll, List.flatMap_append, List.flatMap_singleton,
    List.foldl_append]

/-- The last file that imports a name is heard. -/
theorem get?_importMap {scans : Scans} (himports : ∀ x ∈ scans, x.2.imports.keys.Nodup)
    (name : Text) : (importMap scans).get? name = lastImport? scans name := by
  induction scans using List.reverseRecOn with
  | nil => rfl
  | append_singleton scans x ih =>
      obtain ⟨hscans, hx⟩ := List.forall_mem_append.mp himports
      have hreverse : x.2.imports.reverse.lookup name = x.2.imports.get? name :=
        (Table.get?_eq_of_perm (hx x List.mem_cons_self) (List.reverse_perm _).symm name).symm
      rw [importMap_concat, Table.get?_putAll, ih hscans, hreverse, lastImport?_append,
        lastImport?_singleton]

/-- A file that imports a name is heard unless one after it does. -/
theorem lastImport?_of_imports {before after : Scans} {file : String} {scan : Scan} {name : Text}
    {path : String} (h : scan.imports.get? name = some path) :
    lastImport? (before ++ (file, scan) :: after) name =
      some ((lastImport? after name).getD path) := by
  rw [← List.singleton_append, lastImport?_append, lastImport?_append, lastImport?_singleton, h]
  cases lastImport? after name <;> rfl

/-! ## The objects of a file -/

/-- The last object that a file stores in a property is the one that counts. -/
theorem get?_ownedBy {classes : Table Text String} {scan : Scan} {earlier later : List Instance}
    {i : Instance} {reference : Text} (hinstances : scan.instances = earlier ++ i :: later)
    (hstored : i.stored? = some reference) (hne : reference ≠ [])
    (hlast : ∀ j ∈ later, j.stored? ≠ some reference) :
    (ownedBy classes scan).get? reference =
      some ⟨i.className, classes.get? i.className, i.line, i.destroyLine?⟩ := by
  have hgiven : given? i.stored? = some reference := by
    simp [given?, hstored, hne]
  rw [ownedBy, Table.get?_putAll, hinstances, List.filterMap_append, List.filterMap_cons, hgiven]
  simp only [Option.map_some, List.reverse_append, List.reverse_cons, List.append_assoc]
  refine Option.or_eq_some_iff.mpr (.inl (List.lookup_eq_some_iff.mpr ⟨_, _, rfl, ?_⟩))
  intro entry hentry
  obtain ⟨j, hj, hmap⟩ := List.mem_filterMap.mp (List.mem_reverse.mp hentry)
  obtain ⟨other, hother, rfl⟩ := Option.map_eq_some_iff.mp hmap
  have hdiffers : other ≠ reference := by
    rintro rfl
    exact hlast j hj (Option.filter_eq_some_iff.mp hother).1
  simpa using hdiffers.symm

/-! ## The objects of all files -/

/-- A file that owns something stands in the table with it. -/
theorem get?_ownership {scans : Scans} (hkeys : scans.keys.Nodup) {file : String} {scan : Scan}
    (hfile : (file, scan) ∈ scans) (hne : ownedBy (importMap scans) scan ≠ []) :
    (ownership scans).get? file = some (ownedBy (importMap scans) scan) := by
  have hsublist : (ownership scans).keys.Sublist scans.keys := by
    have hmap : Table.keys (scans.map fun x => (x.1, ownedBy (importMap scans) x.2)) =
        scans.keys := by
      simp [Table.keys]
    rw [← hmap]
    exact List.filter_sublist.map _
  refine (Table.get?_eq_some_iff (hkeys.sublist hsublist)).mpr ?_
  refine List.mem_filter.mpr ⟨List.mem_map.mpr ⟨_, hfile, rfl⟩, ?_⟩
  simpa using hne

/-- An object that a file stores, the last one in its property, is recorded with its class, its
lines and the module of the class.  If the file imports the class, then the module is the one from
which the last of the files after it imports a class of this name, and the file's own if there is
no such file. -/
theorem source?_of_last_instance (scans before after : Scans) (file : String) (scan : Scan)
    (hscans : scans = before ++ (file, scan) :: after) (hkeyed : scans.IsKeyed)
    (earlier later : List Instance) (i : Instance)
    (hinstances : scan.instances = earlier ++ i :: later) (reference : Text)
    (hstored : i.stored? = some reference) (hne : reference ≠ [])
    (hlast : ∀ j ∈ later, j.stored? ≠ some reference) (path : String)
    (hbinds : scan.imports.get? i.className = some path) :
    ∃ owned, (ownership scans).get? file = some owned ∧
      owned.get? reference =
        some ⟨i.className, some ((lastImport? after i.className).getD path), i.line,
          i.destroyLine?⟩ := by
  have howned := @get?_ownedBy (importMap scans) scan earlier later i reference hinstances hstored
    hne hlast
  rw [get?_importMap hkeyed.imports] at howned
  have hsource : lastImport? scans i.className =
      some ((lastImport? after i.className).getD path) := by
    rw [hscans]
    exact lastImport?_of_imports hbinds
  rw [hsource] at howned
  refine ⟨_, get?_ownership hkeyed.files (hscans ▸ by simp) ?_, howned⟩
  intro hempty
  rw [hempty] at howned
  cases howned

/-- Two files import classes of one name from different modules, and each makes an object of
its own class.  The second one stored another object in the same property before. -/
def sharedName : Scans :=
  let kept (line : Nat) (className : Text) : Instance :=
    { line, className, stored? := some "this._c".toList, destroyLine? := none }
  [("a.js", { imports := [(['C'], "p.js")], instances := [kept 3 ['C']] }),
    ("b.js", { imports := [(['C'], "q.js"), (['D'], "d.js")]
               instances := [kept 1 ['D'], kept 2 ['C']] })]

theorem isKeyed_sharedName : sharedName.IsKeyed := ⟨by decide, by decide⟩

theorem source?_of_last_instance_sharedName :
    ∃ owned, (ownership sharedName).get? "b.js" = some owned ∧
      owned.get? "this._c".toList = some ⟨['C'], some "q.js", 2, none⟩ :=
  source?_of_last_instance sharedName [sharedName[0]] [] "b.js" sharedName[1].2 rfl
    isKeyed_sharedName [sharedName[1].2.instances[0]] [] _ rfl "this._c".toList rfl (by decide)
    (by simp) "q.js" (by decide)

/-- The first file imports its class from one module, and its object is recorded with the module
from which the second file imports another one. -/
theorem source?_sharedName :
    sharedName.IsKeyed ∧
      (sharedName.get? "a.js").bind (·.imports.get? ['C']) = some "p.js" ∧
      ((ownership sharedName).get? "a.js").bind (·.get? "this._c".toList) =
        some ⟨['C'], some "q.js", 3, none⟩ :=
  ⟨isKeyed_sharedName, by decide, by decide⟩

end ExtensionAudit.Resource
