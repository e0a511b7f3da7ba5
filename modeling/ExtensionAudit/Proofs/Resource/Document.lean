import Mathlib
import ExtensionAudit.Proofs.Json.RoundTrip
import ExtensionAudit.Proofs.Resource.Account

/-!
# The graph as a document

The graph is printed by one command and read by another.  Its value is plain: names stand once in
each object, the depth is bounded by the shape of the graph, and no number is too long to be
printed.

Main statement: `read_printable`, what is printed is read back as the value of the graph.
-/

namespace ExtensionAudit.Resource

section

variable {depth : Nat}

theorem plain_textValue (t : Text) : Json.Plain depth (textValue t) := .str t

theorem plain_ofString (s : String) : Json.Plain depth (Json.ofString s) := .str s.toList

theorem plain_countValue {n : Nat} (h : n < 10 ^ Json.digitBound) :
    Json.Plain depth (countValue n) := .int h

theorem plain_optionValue {α : Type} {f : α → Json} {o : Option α}
    (h : ∀ a ∈ o, Json.Plain depth (f a)) : Json.Plain depth (optionValue f o) := by
  cases o with
  | none => exact .null
  | some a => exact h a rfl

theorem plain_list {α : Type} {f : α → Json} {xs : List α}
    (h : ∀ x ∈ xs, Json.Plain depth (f x)) : Json.Plain (depth + 1) (.arr (xs.map f)) :=
  .arr (List.forall_mem_map.mpr h)

/-- The entry for a line that takes or gives back a resource. -/
theorem plain_line {n : Nat} {kind name : String} {t : Text} {reference? : Option Text}
    (h : n < 10 ^ Json.digitBound) (hname : name ∉ ["line", "type", "pattern"]) :
    Json.Plain (depth + 1) (Json.object [("line", countValue n), ("type", Json.ofString kind),
      ("pattern", textValue t), (name, optionValue textValue reference?)]) := by
  refine Json.plain_object ?_ ?_
  · simpa [eq_comm] using hname
  · simp only [List.forall_mem_cons]
    exact ⟨plain_countValue h, plain_ofString kind, plain_textValue t,
      plain_optionValue fun other _ => plain_textValue other, List.forall_mem_nil _⟩

/-- An instance is a plain value if its line numbers are not too long. -/
theorem plain_instance {i : Instance}
    (h : ∀ n ∈ i.line :: i.destroyLine?.toList, n < 10 ^ Json.digitBound) :
    Json.Plain (depth + 1) i.value := by
  rw [List.forall_mem_cons] at h
  refine Json.plain_object (by simp) ?_
  simp only [List.forall_mem_cons]
  exact ⟨plain_countValue h.1, plain_ofString _, plain_textValue _,
    plain_optionValue fun t _ => plain_textValue t, .bool _,
    plain_optionValue fun n hn => plain_countValue (h.2 n (Option.mem_toList.mpr hn)),
    List.forall_mem_nil _⟩

theorem plain_owned {o : Owned}
    (h : ∀ n ∈ o.createdLine :: o.destroyedLine?.toList, n < 10 ^ Json.digitBound) :
    Json.Plain (depth + 1) o.value := by
  rw [List.forall_mem_cons] at h
  refine Json.plain_object (by simp) ?_
  simp only [List.forall_mem_cons]
  exact ⟨plain_textValue _, plain_optionValue fun s _ => plain_ofString s, plain_countValue h.1,
    plain_optionValue fun n hn => plain_countValue (h.2 n (Option.mem_toList.mpr hn)),
    List.forall_mem_nil _⟩

theorem plain_orphan {o : Orphan} (h : o.creation.line < 10 ^ Json.digitBound) :
    Json.Plain (depth + 1) o.value := by
  refine Json.plain_object (by simp) ?_
  simp only [List.forall_mem_cons]
  exact ⟨plain_ofString _, plain_countValue h, plain_ofString _, plain_textValue _,
    plain_ofString _, List.forall_mem_nil _⟩

theorem plain_scan {s : Scan} (h : ∀ n ∈ s.numbers, n < 10 ^ Json.digitBound) :
    Json.Plain (depth + 3) s.value := by
  simp only [Scan.numbers, List.forall_mem_append, List.forall_mem_map, List.forall_mem_flatMap]
    at h
  refine Json.plain_object (by simp) ?_
  simp only [List.forall_mem_cons]
  exact ⟨plain_list fun c hc => plain_line (h.1.1 c hc) (by decide),
    plain_list fun r hr => plain_line (h.1.2 r hr) (by decide),
    plain_list fun i hi => plain_instance (h.2 i hi), List.forall_mem_nil _⟩

/-- So is the table of owners, if its names differ. -/
theorem plain_ownership {own : Ownership} (hkeys : own.keys.Nodup)
    (howned : ∀ x ∈ own, x.2.keys.Nodup)
    (h : ∀ x ∈ own, ∀ y ∈ x.2, ∀ n ∈ y.2.createdLine :: y.2.destroyedLine?.toList,
      n < 10 ^ Json.digitBound) :
    Json.Plain (depth + 3) (ownershipValue own) := by
  refine Json.plain_map (fun x : String × Table Text Owned => x.1.toList)
    (Json.nodup_toList hkeys) ?_
  intro x hx
  refine Json.plain_map (fun y : Text × Owned => y.1) (howned x hx) ?_
  intro y hy
  exact plain_owned (h x hx y hy)

end

/-- So is the whole graph. -/
theorem plain_graph {g : Graph} (hkeys : g.scans.keys.Nodup) (hown : g.own.keys.Nodup)
    (howned : ∀ x ∈ g.own, x.2.keys.Nodup)
    (h : ∀ n ∈ g.numbers, n < 10 ^ Json.digitBound) : Json.Plain Json.depthBound g.value := by
  simp only [Graph.numbers, List.forall_mem_append, List.forall_mem_map,
    List.forall_mem_flatMap] at h
  obtain ⟨⟨⟨hscans, hlines⟩, horphaned⟩, hsummary⟩ := h
  simp only [List.forall_mem_cons] at hsummary
  refine Json.plain_object (by simp) ?_
  simp only [List.forall_mem_cons]
  refine ⟨?_, plain_ownership hown howned hlines,
    plain_list fun o ho => plain_orphan (horphaned o ho), ?_, List.forall_mem_nil _⟩
  · exact Json.plain_map (fun x => x.1.toList) (Json.nodup_toList hkeys)
      fun x hx => plain_scan (hscans x hx)
  · refine Json.plain_object (by simp) ?_
    simp only [List.forall_mem_cons]
    exact ⟨plain_countValue hsummary.1, plain_countValue hsummary.2.1,
      plain_countValue hsummary.2.2.1, plain_countValue hsummary.2.2.2.1,
      plain_countValue hsummary.2.2.2.2.1, List.forall_mem_nil _⟩

theorem keys_ownership_sublist (scans : Scans) :
    (ownership scans).keys.Sublist scans.keys := by
  have h := (List.filter_sublist (l := scans.map fun x => (x.1, ownedBy (importMap scans) x.2))
    (p := fun x => !x.2.isEmpty)).map (·.1)
  rwa [List.map_map] at h

theorem nodup_keys_owned {scans : Scans} {x : String × Table Text Owned}
    (hx : x ∈ ownership scans) : x.2.keys.Nodup := by
  obtain ⟨y, -, rfl⟩ := List.mem_map.mp (List.mem_filter.mp hx).1
  exact Table.nodup_keys_putAll (t := []) List.nodup_nil _

theorem nodup_keys_scanAll {ext : Extension} {scans : Scans} (h : scanAll ext = .ok scans) :
    scans.keys.Nodup := by
  obtain ⟨found, -, rfl⟩ := exists_texts_of_scanAll h
  exact Table.nodup_keys_putAll (t := []) List.nodup_nil _

/-- The bound on numbers, as printing and reading have it. -/
theorem pow_digitBound : Nat.pow 10 Json.digitBound = 10 ^ Json.digitBound := by
  generalize Json.digitBound = digits
  rfl

/-- A graph that can be printed is the graph, and its numbers are not too long. -/
theorem printable_eq_ok {ext : Extension} {g : Graph} (h : printable ext = .ok g) :
    graph ext = .ok g ∧ ∀ n ∈ g.numbers, n < 10 ^ Json.digitBound := by
  obtain ⟨other, hgraph, h⟩ := Trace.exists_of_bind_eq_ok h
  split at h
  next hnumbers =>
      cases h
      simp only [pow_digitBound, List.all_eq_true, decide_eq_true_eq] at hnumbers
      exact ⟨hgraph, hnumbers⟩
  next => cases h

/-- Reading back what a graph is printed as gives its value. -/
theorem read_printable {ext : Extension} {g : Graph} (h : printable ext = .ok g) :
    Json.read (g.value.indented 0 ++ ['\n']) = .ok g.value := by
  obtain ⟨hgraph, hnumbers⟩ := printable_eq_ok h
  obtain ⟨scans, hscans, rfl⟩ := graph_eq_ok_iff.mp hgraph
  have hkeys := nodup_keys_scanAll hscans
  have hplain := plain_graph (g := Graph.ofScans scans) hkeys
    (hkeys.sublist (keys_ownership_sublist scans)) (fun x hx => nodup_keys_owned hx) hnumbers
  exact Json.read_indented hplain (by simp)

end ExtensionAudit.Resource
