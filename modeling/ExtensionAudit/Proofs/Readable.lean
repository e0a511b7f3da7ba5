import Mathlib
import ExtensionAudit.Extension
import ExtensionAudit.Proofs.Volume.Hidden

/-!
# Trees whose files can be read

An extension is readable if each file that a walk lists can be read.  Then the scripts and the
main script can be read too: the scripts are among the files of the walk, and a path from the
directory to a file is one that the walk lists (`mem_walk_of_isFile`), also if a link stands there.
So reading the texts of scripts gives no fault, however many are read.
-/

namespace ExtensionAudit

/-! ## Values that are no faults -/

theorem exists_ok_bind {α β : Type} {x : Except Fault α} {f : α → Except Fault β}
    (hx : ∃ a, x = .ok a) (hf : ∀ a, x = .ok a → ∃ b, f a = .ok b) : ∃ b, x >>= f = .ok b := by
  obtain ⟨a, rfl⟩ := hx
  exact hf a rfl

theorem exists_ok_mapM {γ α : Type} {f : γ → Except Fault α} {xs : List γ}
    (h : ∀ x ∈ xs, ∃ a, f x = .ok a) : ∃ as, xs.mapM f = .ok as := by
  induction xs with
  | nil => exact ⟨[], rfl⟩
  | cons x xs ih =>
      obtain ⟨hx, hxs⟩ := List.forall_mem_cons.mp h
      rw [List.mapM_cons]
      exact exists_ok_bind hx fun a _ => exists_ok_bind (ih hxs) fun as _ => ⟨a :: as, rfl⟩

/-! ## Walks -/

/-- A walk that skips directories lists nothing else. -/
theorem Entry.filesBelow_subset (linkIsDir : Path → Bool) (skip : String → Bool) (here : Path)
    (d : Entry) :
    d.filesBelow linkIsDir skip here ⊆ d.filesBelow linkIsDir (fun _ => false) here := by
  induction d using Entry.inductionOn generalizing here with
  | _ d ih =>
      intro p hp
      rw [Entry.filesBelow_eq_append, List.mem_append] at hp ⊢
      refine hp.imp_right fun hp => ?_
      obtain ⟨x, hx, hp⟩ := List.mem_flatMap.mp hp
      refine List.mem_flatMap.mpr ⟨x, hx, ?_⟩
      split at hp
      next => cases hp
      next => exact ih x.1 x.2 hx _ hp

namespace Volume

theorem walk_subset (v : Volume) (skip : String → Bool) (base : Path) :
    v.walk skip base ⊆ v.walk (fun _ => false) base := by
  unfold walk
  split
  next => exact Entry.filesBelow_subset ..
  next => exact List.nil_subset _

/-! ## The last step of a path -/

section

variable {root : Entry} {name : String} {result : List (String × Entry)}

/-- A step that is no name stays at a directory or leaves it. -/
theorem descend_notName {above : List (String × Entry)} {c : String} (hc : ¬ Path.IsName c)
    (keepLast : Bool) (jump : Jump) (rest : List String) :
    descend keepLast root jump above (c :: rest) =
      if (topOf root above).isDir then
        descend keepLast root jump (if c = ".." then above.tail else above) rest
      else .error .notDirectory := by
  by_cases hup : c = ".."
  · simp [descend, topOf, hup]
  · have hstay : c = "." ∨ c = "" := by
      by_contra hne
      rw [not_or] at hne
      exact hc ⟨hne.2, hne.1, hup⟩
    rcases hstay with rfl | rfl <;> simp [descend, topOf]

/-- The names before the last one lead to a directory with an entry of the last name.  If the
entry is no link, the path ends there. -/
theorem descend_concat {jump : Jump} (hname : Path.IsName name)
    (hjump : ∀ above target rest, jump above target (rest ++ [name]) = .ok result →
      ∃ mid e, jump above target rest = .ok mid ∧ (topOf root mid).child? name = some e ∧
        (e.isLink = false → result = (name, e) :: mid))
    {above : List (String × Entry)} {todo : List String}
    (h : descend false root jump above (todo ++ [name]) = .ok result) :
    ∃ mid e, descend false root jump above todo = .ok mid ∧
      (topOf root mid).child? name = some e ∧ (e.isLink = false → result = (name, e) :: mid) := by
  induction todo generalizing above with
  | nil =>
      rw [List.nil_append, descend_name hname] at h
      split at h
      next => cases h
      next =>
          split at h
          next => cases h
          next target hc => exact ⟨above, .link target, rfl, hc, by simp [Entry.isLink]⟩
          next e _ hc =>
              cases h
              exact ⟨above, e, rfl, hc, fun _ => rfl⟩
  | cons c rest ih =>
      rw [List.cons_append] at h
      by_cases hc : Path.IsName c
      · rw [descend_name hc] at h ⊢
        split at h
        next => cases h
        next hdir =>
            rw [if_neg hdir]
            split at h
            next => cases h
            next => exact hjump _ _ _ h
            next => exact ih h
      · rw [descend_notName hc] at h ⊢
        split at h
        next hdir =>
            rw [if_pos hdir]
            exact ih h
        next => cases h

/-- The last name of a path is looked up in what the rest leads to. -/
theorem follow_concat (hname : Path.IsName name) {links : Nat} {above : List (String × Entry)}
    {todo : List String} (h : follow false root links above (todo ++ [name]) = .ok result) :
    ∃ mid e, follow false root links above todo = .ok mid ∧
      (topOf root mid).child? name = some e ∧ (e.isLink = false → result = (name, e) :: mid) := by
  induction links generalizing above todo with
  | zero =>
      refine descend_concat hname (fun above target rest hj => ?_) h
      cases hj
  | succ links ih =>
      refine descend_concat hname (fun above target rest hj => ?_) h
      split at hj
      next => cases hj
      next htarget =>
          rw [← List.append_assoc] at hj
          rw [if_neg htarget]
          exact ih hj

end

variable {v : Volume} {base : Path} {name : String} {s : Spot}

/-- A path that resolves ends with an entry of the directory before its last name. -/
theorem resolve_concat (hname : Path.IsName name) (h : v.resolve (base ++ [name]) = .ok s) :
    ∃ d e, v.resolve base = .ok d ∧ d.entry.child? name = some e ∧
      (e.isLink = false → s.entry = e) := by
  unfold resolve at h
  cases hf : follow false v.root linkBound [] (base ++ [name]) with
  | error e =>
      rw [hf] at h
      cases h
  | ok result =>
      rw [hf] at h
      cases h
      obtain ⟨mid, e, hmid, hchild, hlast⟩ := follow_concat hname hf
      refine ⟨v.spotOf mid, e, ?_, hchild, fun hlink => ?_⟩
      · rw [resolve, hmid]
        rfl
      · rw [hlast hlink]
        rfl

/-- A walk lists the names in the directory that lead to files, be it through links. -/
theorem mem_walk_of_isFile (hname : Path.IsName name) (h : v.isFile (base ++ [name]) = true)
    (skip : String → Bool) : [name] ∈ v.walk skip base := by
  unfold isFile at h
  split at h
  next s hs =>
      obtain ⟨d, e, hd, hchild, hlast⟩ := resolve_concat hname hs
      have hfile : v.isDir (base ++ [name]) = false := by
        unfold isDir
        rw [hs]
        dsimp only
        cases hentry : s.entry <;> simp_all [Entry.isFile, Entry.isDir]
      have hdir : e.isDir = false := by
        cases e with
        | dir es => simp [hlast rfl, Entry.isFile] at h
        | _ => rfl
      rw [walk, hd]
      dsimp only
      rw [Entry.filesBelow_eq_append, List.mem_append]
      refine .inl (List.mem_map.mpr ⟨(name, e), List.mem_filter.mpr ⟨?_, ?_⟩, rfl⟩)
      · exact Entry.mem_entries_of_child? hchild
      · simp [hdir, hfile]
  next => cases h

end Volume

namespace Extension

/-- Each file of the extension can be read. -/
def IsReadable (ext : Extension) : Prop :=
  ∀ p ∈ ext.volume.walk (fun _ => false) ext.base, ∃ t, ext.text p = .ok t

variable {ext : Extension}

namespace IsReadable

theorem exists_text_of_mem_scripts (h : ext.IsReadable) {p : Path} (hp : p ∈ ext.scripts) :
    ∃ t, ext.text p = .ok t :=
  h p (Volume.walk_subset _ _ _ (List.mem_filter.mp hp).1)

theorem exists_text_of_mem_runtimeScripts (h : ext.IsReadable) {p : Path}
    (hp : p ∈ ext.runtimeScripts) : ∃ t, ext.text p = .ok t :=
  h.exists_text_of_mem_scripts (List.mem_filter.mp hp).1

theorem exists_text_mainScript (h : ext.IsReadable) (hmain : ext.isFile mainScript = true) :
    ∃ t, ext.text mainScript = .ok t :=
  h _ (Volume.mem_walk_of_isFile ⟨by decide, by decide, by decide⟩ hmain _)

end IsReadable

/-! ## Reading several files -/

section

variable {files : List Path} (h : ∀ p ∈ files, ∃ t, ext.text p = .ok t)

include h

theorem exists_texts : ∃ ts, ext.texts files = .ok ts :=
  exists_ok_mapM fun p hp => exists_ok_bind (h p hp) fun t _ => ⟨(p, t), rfl⟩

/-- A search through readable files has an answer. -/
theorem exists_firstText? {α : Type} (f : Path → Text → Option α) :
    ∃ a, ext.firstText? f files = .ok a := by
  induction files with
  | nil => exact ⟨none, rfl⟩
  | cons p files ih =>
      obtain ⟨hp, hfiles⟩ := List.forall_mem_cons.mp h
      refine exists_ok_bind hp fun t _ => ?_
      split
      next a _ => exact ⟨some a, rfl⟩
      next => exact ih hfiles

/-- So has a collection from them. -/
theorem exists_gather {α : Type} (f : Path → Text → List α) (bound : Nat) :
    ∃ as, ext.gather f bound files = .ok as := by
  induction files generalizing bound with
  | nil => exact ⟨[], rfl⟩
  | cons p files ih =>
      obtain ⟨hp, hfiles⟩ := List.forall_mem_cons.mp h
      refine exists_ok_bind hp fun t _ => ?_
      dsimp only
      split
      next => exact ⟨_, rfl⟩
      next => exact exists_ok_bind (ih hfiles _) fun as _ => ⟨_, rfl⟩

end

end Extension

end ExtensionAudit
