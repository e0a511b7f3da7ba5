import Mathlib
import ExtensionAudit.Proofs.Volume.Literal

/-!
# Paths that do not go up

A path that does not go up stays in the directory where it starts.  `Entry.along` follows its
components down a tree, and dots in place.  Where no link stands, this is what a file tree does from
any directory of it (`Volume.map_descend`): the directories above are never looked at.

So what a path finds in a directory can be told from the directory's tree alone, wherever this
stands.  On plain paths `along` is `under`.
-/

namespace ExtensionAudit

/-- No step of the path goes up. -/
def Path.Descends (q : Path) : Prop := ∀ c ∈ q, c ≠ ".."

namespace Path

theorem descends_append {p q : Path} : Descends (p ++ q) ↔ Descends p ∧ Descends q :=
  List.forall_mem_append

theorem Plain.descends {q : Path} (h : q.Plain) : q.Descends := fun c hc => (h c hc).2.2

end Path

/-! ## Following components that do not go up -/

namespace Entry

variable {d e : Entry} {c : String}

/-- The entry that components lead to, without links and without going up.  A dot stays, but only
in a directory. -/
def along : Entry → Path → Except Fault Entry
  | d, [] => .ok d
  | d, c :: rest =>
      if !d.isDir then .error .notDirectory
      else if c == "." || c == "" then d.along rest
      else
        match d.child? c with
        | none => .error .absent
        | some x => x.along rest

/-- One path is gone along after the other. -/
theorem along_append (d : Entry) (p q : Path) :
    d.along (p ++ q) = d.along p >>= fun e => e.along q := by
  induction p generalizing d with
  | nil => rfl
  | cons c p ih =>
      rw [List.cons_append, along, along]
      split
      next => rfl
      next =>
        split
        next => exact ih d
        next =>
          split
          next => rfl
          next x _ => exact ih x

/-- Along a plain path there are only names. -/
theorem along_of_plain {q : Path} (hq : q.Plain) (d : Entry) : d.along q = d.under q := by
  induction q generalizing d with
  | nil => rfl
  | cons c q ih =>
      obtain ⟨⟨hempty, hdot, -⟩, hq⟩ := List.forall_mem_cons.mp hq
      have hgoes : (c == "." || c == "") = false := by simp [hempty, hdot]
      rw [along, under, hgoes, if_neg Bool.false_ne_true]
      cases d.child? c with
      | none => rfl
      | some x => simp only [ih hq x]

/-- What holds of a tree and of what lies in its directories holds wherever components lead. -/
theorem along_induction {P : Entry → Prop} (hP : ∀ d c e, (c, e) ∈ d.entries → P d → P e)
    {q : Path} (h : d.along q = .ok e) (hd : P d) : P e := by
  induction q generalizing d with
  | nil =>
      cases h
      exact hd
  | cons c q ih =>
      rw [along] at h
      split at h
      next => cases h
      next =>
        split at h
        next => exact ih h hd
        next =>
          split at h
          next => cases h
          next x hx => exact ih h (hP d c x (mem_entries_of_child? hx) hd)

/-- What components lead to, or an entry with nothing in it. -/
def found (d : Entry) (q : Path) : Entry := (d.along q).toOption.getD .unreadable

theorem isSound_found (hd : d.isSound = true) (q : Path) : (d.found q).isSound = true := by
  rw [found]
  cases hx : d.along q with
  | error fault => rfl
  | ok x => exact along_induction (fun _ _ _ hc hs => (isSound_of_mem hs hc).2) hx hd

theorem depth_found_le (d : Entry) (q : Path) : (d.found q).depth ≤ d.depth := by
  rw [found]
  cases hx : d.along q with
  | error fault => exact Nat.zero_le _
  | ok x =>
      exact along_induction (fun _ _ _ hc hs => (depth_lt_of_mem_entries hc).le.trans hs) hx le_rfl

theorem along_of_mem (hd : d.isSound = true) (hc : (c, e) ∈ d.entries) : d.along [c] = .ok e := by
  have hname := Path.isName_of_isProper (isSound_of_mem hd hc).1
  rw [along_of_plain (Path.plain_singleton.mpr hname), under_singleton_of_mem hd hc]

/-- What lies in a directory that components lead to is what one name more leads to. -/
theorem found_append_singleton (hd : d.isSound = true) {q : Path}
    (h : (c, e) ∈ (d.found q).entries) : d.found (q ++ [c]) = e := by
  have hsound := isSound_found hd q
  rw [found] at h hsound
  cases hx : d.along q with
  | error fault =>
      rw [hx] at h
      cases h
  | ok x =>
      rw [hx] at h hsound
      have he : x.along [c] = .ok e := along_of_mem hsound h
      rw [found, along_append, hx]
      exact congrArg (fun r => r.toOption.getD unreadable) he

end Entry

namespace Volume

variable {root : Entry} {above : List (String × Entry)} {q : Path}

/-- Following components that do not go up looks at the directory on top only. -/
theorem map_descend (hlink : (topOf root above).isUnlinked = true) (hq : q.Descends)
    (keepLast : Bool) (jump : Jump) :
    (descend keepLast root jump above q).map (topOf root) = (topOf root above).along q := by
  induction q generalizing above with
  | nil => rfl
  | cons c q ih =>
      obtain ⟨hc, hq⟩ := List.forall_mem_cons.mp hq
      rw [Entry.along]
      by_cases hstay : c = "." ∨ c = ""
      · have hdescend : descend keepLast root jump above (c :: q) =
            if (topOf root above).isDir then descend keepLast root jump above q
            else .error .notDirectory := by
          rcases hstay with rfl | rfl <;> rfl
        rw [hdescend]
        cases (topOf root above).isDir with
        | false => rfl
        | true => simpa [hstay] using ih hlink hq
      · obtain ⟨hdot, hempty⟩ := not_or.mp hstay
        have hname : Path.IsName c := ⟨hempty, hdot, hc⟩
        have hgoes : (c == "." || c == "") = false := by simp [hdot, hempty]
        rw [hgoes, if_neg Bool.false_ne_true]
        cases hdir : (topOf root above).isDir with
        | false =>
            rw [descend_name hname, hdir]
            rfl
        | true =>
            cases hx : (topOf root above).child? c with
            | none =>
                rw [descend_name hname, hdir, hx]
                rfl
            | some x =>
                have hxlink := Entry.isUnlinked_of_mem hlink (Entry.mem_entries_of_child? hx)
                rw [descend_child hname hdir hx (Entry.isLink_of_isUnlinked hxlink)]
                exact ih hxlink hq

namespace Stands

variable {v : Volume} {base : Path} {e : Entry}

/-- A tree stands at the root of the file tree that it is. -/
theorem alone (he : e.isUnlinked = true) : Stands { root := e } [] e := ⟨Path.plain_nil, rfl, he⟩

theorem map_follow (h : v.Stands base e) (hq : q.Descends) (keepLast : Bool) :
    (follow keepLast v.root linkBound [] (base ++ q)).map (topOf v.root) = e.along q := by
  obtain ⟨stack, htop, -, -, hstep⟩ := h.exists_follow Path.plain_nil (x := e) rfl
  have hfollow := hstep keepLast q
  rw [List.append_nil] at hfollow
  rw [hfollow, ← htop]
  exact map_descend (htop ▸ h.unlinked) hq _ _

/-- A path into the tree that does not go up leads where its components lead. -/
theorem map_resolve (h : v.Stands base e) (hq : q.Descends) :
    (v.resolve (base ++ q)).map (·.entry) = e.along q := by
  rw [← h.map_follow hq false, resolve]
  cases follow false v.root linkBound [] (base ++ q) <;> rfl

theorem names_eq_found (h : v.Stands base e) (hq : q.Descends) :
    v.names (base ++ q) = (e.found q).entries.map (·.1) := by
  rw [names, Entry.found, ← h.map_resolve hq]
  cases v.resolve (base ++ q) <;> rfl

theorem isDir_eq_found (h : v.Stands base e) (hq : q.Descends) :
    v.isDir (base ++ q) = (e.found q).isDir := by
  rw [isDir, Entry.found, ← h.map_resolve hq]
  cases v.resolve (base ++ q) <;> rfl

theorem exists?_eq_along (h : v.Stands base e) (hq : q.Descends) :
    v.exists? (base ++ q) = (e.along q).isOk := by
  rw [exists?, resolveKeep, ← h.map_follow hq true]
  cases follow true v.root linkBound [] (base ++ q) <;> rfl

theorem isFile_eq_along (h : v.Stands base e) (hq : q.Descends) :
    v.isFile (base ++ q) = ((e.along q).map Entry.isFile).toOption.getD false := by
  rw [isFile, ← h.map_resolve hq]
  cases v.resolve (base ++ q) <;> rfl

/-- The bytes at a path are those of the entry there, as if it were all that there is. -/
theorem bytes_eq_along (h : v.Stands base e) (hq : q.Descends) :
    v.bytes (base ++ q) = e.along q >>= fun x => Volume.bytes { root := x } [] := by
  rw [bytes, ← h.map_resolve hq]
  cases v.resolve (base ++ q) <;> rfl

end Stands

end Volume

end ExtensionAudit
