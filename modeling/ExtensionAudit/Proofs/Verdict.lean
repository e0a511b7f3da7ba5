import Mathlib
import ExtensionAudit.Proofs.Trace

/-!
# Verdicts

A check passes, or it warns and fails.  Findings are `Consistent` if a check that is reported to
pass is reported only once, and they are `Settled` on a check if they are on this check alone and
either one pass or one or more alarms.

`Trace.Writes` is what the statements on single checks are made with: if the run ends by itself,
what it has written is as told.  There is one lemma for each way to build a run, and the proofs
about a check follow its branches.  Checks with different names do not touch each other's verdicts,
so a run of many checks is consistent if each of them is and no two share a name
(`writes_each_sound`).
-/

namespace ExtensionAudit

namespace Trace

variable {ω α β γ : Type} {P Q R : List ω → Prop}

/-- If the run ends by itself, what it has written is as told. -/
def Writes (x : Trace ω α) (P : List ω → Prop) : Prop :=
  ∀ ws a, x.Ends ws a → P ws

theorem Writes.mono {x : Trace ω α} (hx : x.Writes P) (h : ∀ ws, P ws → Q ws) : x.Writes Q :=
  fun ws a hw => h ws (hx ws a hw)

theorem writes_pure {a : α} (h : P []) : (pure a : Trace ω α).Writes P := by
  intro ws b hw
  obtain ⟨rfl, _⟩ := ends_pure.mp hw
  exact h

theorem writes_write {us : List ω} (h : P us) : (write us).Writes P := by
  intro ws u hw
  rw [ends_write.mp hw]
  exact h

/-- A run that breaks off does not end. -/
theorem writes_fault {e : Fault} : (fault e : Trace ω α).Writes P := by
  intro ws a hw
  cases hw.outcome

/-- Reading a value that may be a fault writes nothing. -/
theorem writes_lift {x : Except Fault α} {f : α → Trace ω β}
    (h : ∀ a, x = .ok a → (f a).Writes P) : (liftM x >>= f : Trace ω β).Writes P := by
  intro ws b hw
  obtain ⟨us, a, vs, ha, hb, rfl⟩ := ends_bind.mp hw
  obtain ⟨rfl, hx⟩ := ends_lift.mp ha
  exact h a hx vs b hb

theorem writes_ite {c : Prop} [Decidable c] {x y : Trace ω α} (hx : x.Writes P)
    (hy : y.Writes P) : (if c then x else y).Writes P := by
  split
  · exact hx
  · exact hy

/-- One run after the other writes the one output and then the other. -/
theorem writes_seq {x : Trace ω Unit} {f : Unit → Trace ω β} (hx : x.Writes P)
    (hf : (f ()).Writes Q) (h : ∀ us vs, P us → Q vs → R (us ++ vs)) : (x >>= f).Writes R := by
  intro ws b hw
  obtain ⟨us, a, vs, ha, hb, rfl⟩ := ends_bind.mp hw
  exact h us vs (hx us a ha) (hf vs b hb)

/-- What follows a run that writes nothing decides what is written. -/
theorem writes_after_silent {x : Trace ω α} {f : α → Trace ω β} (hx : x.Writes (· = []))
    (hf : ∀ a, (f a).Writes P) : (x >>= f).Writes P := by
  intro ws b hw
  obtain ⟨us, a, vs, ha, hb, rfl⟩ := ends_bind.mp hw
  rw [hx us a ha, List.nil_append]
  exact hf a vs b hb

theorem mapM_silent {f : γ → Trace ω α} {xs : List γ} (h : ∀ x, (f x).Writes (· = [])) :
    (xs.mapM f).Writes (· = []) := by
  intro ws as hw
  obtain ⟨runs, hruns, rfl, -⟩ := ends_mapM.mp hw
  clear hw
  induction hruns with
  | nil => rfl
  | @cons x run _ _ hx _ ih =>
      rw [List.flatMap_cons, h x run.1 run.2 hx, ih, List.append_nil]

/-- If what the run for each element writes is as told for a name, the whole is made of such
blocks. -/
theorem writes_each_blocks {ν : Type} {B : ν → List ω → Prop} {f : γ → Trace ω Unit} {xs : List γ}
    {names : List ν} (h : List.Forall₂ (fun x n => (f x).Writes (B n)) xs names) :
    (each xs f).Writes fun ws => ∃ blocks, List.Forall₂ B names blocks ∧ ws = blocks.flatten := by
  induction h with
  | nil => exact writes_pure ⟨[], .nil, rfl⟩
  | cons hx _ ih =>
      rw [each_cons]
      refine writes_seq hx ih ?_
      rintro us _ hu ⟨blocks, hblocks, rfl⟩
      exact ⟨us :: blocks, .cons hu hblocks, rfl⟩

/-- What holds of everything that the runs for single elements write holds of the whole. -/
theorem writes_each {A : ω → Prop} {f : γ → Trace ω Unit} {xs : List γ}
    (h : ∀ x ∈ xs, (f x).Writes fun ws => ∀ w ∈ ws, A w) :
    (each xs f).Writes fun ws => ∀ w ∈ ws, A w := by
  induction xs with
  | nil => exact writes_pure (by simp)
  | cons x xs ih =>
      obtain ⟨hx, hxs⟩ := List.forall_mem_cons.mp h
      rw [each_cons]
      refine writes_seq hx (ih hxs) ?_
      intro us vs hu hv
      exact List.forall_mem_append.mpr ⟨hu, hv⟩

end Trace

namespace Finding

/-- The finding asks for something: it is a warning or a failure. -/
def IsAlarm (f : Finding) : Prop := f.status = .warn ∨ f.status = .fail

/-- The findings on a check. -/
def on (name : String) (fs : List Finding) : List Finding := fs.filter (·.check == name)

/-- A check that is reported to pass is reported only once. -/
def Consistent (fs : List Finding) : Prop :=
  ∀ f ∈ fs, f.status = .pass → on f.check fs = [f]

/-- The findings are on the named checks, and they are consistent. -/
structure Sound (names : List String) (fs : List Finding) : Prop where
  /-- Each is on one of the checks. -/
  named : ∀ f ∈ fs, f.check ∈ names
  /-- They are consistent. -/
  consistent : Consistent fs

/-- All findings are alarms of one check, and `quiet` tells whether there are none. -/
structure Alarms (name : String) (quiet : Bool) (fs : List Finding) : Prop where
  /-- They are alarms of the check. -/
  all : ∀ f ∈ fs, f.check = name ∧ f.IsAlarm
  /-- There are none iff it is quiet. -/
  isEmpty_eq : fs.isEmpty = quiet

/-- There is a verdict on the check: it passes, once, or there are one or more alarms. -/
def Settled (name : String) (fs : List Finding) : Prop :=
  (∃ detail, fs = [⟨.pass, name, detail⟩]) ∨ Alarms name false fs

/-! ## Findings on one check -/

theorem on_append (name : String) (fs gs : List Finding) :
    on name (fs ++ gs) = on name fs ++ on name gs :=
  List.filter_append fs gs

theorem on_eq_nil {name : String} {fs : List Finding} (h : ∀ f ∈ fs, f.check ≠ name) :
    on name fs = [] := by
  rw [on, List.filter_eq_nil_iff]
  intro f hf hname
  exact h f hf (by simpa using hname)

theorem on_eq_self {name : String} {fs : List Finding} (h : ∀ f ∈ fs, f.check = name) :
    on name fs = fs := by
  rw [on, List.filter_eq_self]
  intro f hf
  simpa using h f hf

/-! ## Putting findings together -/

theorem consistent_nil : Consistent [] := by
  intro f hf
  cases hf

theorem consistent_append {fs gs : List Finding} (hf : Consistent fs) (hg : Consistent gs)
    (h : ∀ f ∈ fs, ∀ g ∈ gs, f.check ≠ g.check) : Consistent (fs ++ gs) := by
  intro f hmem hpass
  rw [on_append]
  rcases List.mem_append.mp hmem with hfs | hgs
  · rw [hf f hfs hpass, on_eq_nil fun g hg => (h f hfs g hg).symm, List.append_nil]
  · rw [hg f hgs hpass, on_eq_nil fun g hg => h g hg f hgs, List.nil_append]

theorem sound_nil {names : List String} : Sound names [] where
  named f hf := by cases hf
  consistent := consistent_nil

/-- Checks with other names can follow one another. -/
theorem sound_append {is js : List String} {fs gs : List Finding} (hf : Sound is fs)
    (hg : Sound js gs) (h : is.Disjoint js) : Sound (is ++ js) (fs ++ gs) where
  named f hmem := by
    rcases List.mem_append.mp hmem with hfs | hgs
    · exact List.mem_append_left _ (hf.named f hfs)
    · exact List.mem_append_right _ (hg.named f hgs)
  consistent := by
    apply consistent_append hf.consistent hg.consistent
    intro f hfs g hgs heq
    exact h (hf.named f hfs) (heq ▸ hg.named g hgs)

theorem Sound.mono {is js : List String} {fs : List Finding} (h : Sound is fs) (hsub : is ⊆ js) :
    Sound js fs where
  named f hf := hsub (h.named f hf)
  consistent := h.consistent

theorem sound_of_forall_alarm {name : String} {fs : List Finding}
    (h : ∀ f ∈ fs, f.check = name ∧ f.IsAlarm) : Sound [name] fs where
  named f hf := by simp [(h f hf).1]
  consistent f hf hpass := by
    rcases (h f hf).2 with hs | hs <;> rw [hs] at hpass <;> cases hpass

theorem sound_singleton (s : Status) (name detail : String) : Sound [name] [⟨s, name, detail⟩] where
  named f hf := by simp [List.mem_singleton.mp hf]
  consistent f hf _ := by
    rw [List.mem_singleton.mp hf]
    simp [on]

theorem Settled.sound {name : String} {fs : List Finding} (h : Settled name fs) :
    Sound [name] fs := by
  rcases h with ⟨detail, rfl⟩ | hfs
  · exact sound_singleton .pass name detail
  · exact sound_of_forall_alarm hfs.all

theorem Settled.check_eq {name : String} {fs : List Finding} (h : Settled name fs) :
    ∀ f ∈ fs, f.check = name := by
  intro f hf
  simpa using h.sound.named f hf

theorem alarms_append {name : String} {p q : Bool} {fs gs : List Finding} (hf : Alarms name p fs)
    (hg : Alarms name q gs) : Alarms name (p && q) (fs ++ gs) where
  all f hmem := (List.mem_append.mp hmem).elim (hf.all f) (hg.all f)
  isEmpty_eq := by
    rw [← hf.isEmpty_eq, ← hg.isEmpty_eq]
    cases fs <;> rfl

end Finding

namespace Check

open Finding Trace

variable {γ : Type} {name detail : String} {s : Status} {x : Check Unit} {f : γ → Check Unit}
  {xs : List γ}

/-! ## Single reports -/

theorem sound_report : (report s name detail).Writes (Sound [name]) :=
  writes_write (sound_singleton s name detail)

theorem sound_report_of_mem {names : List String} (h : name ∈ names) :
    (report s name detail).Writes (Sound names) :=
  sound_report.mono fun _ hfs => hfs.mono (by simpa using h)

theorem alarms_report (h : s = .warn ∨ s = .fail) :
    (report s name detail).Writes (Alarms name false) := by
  apply writes_write
  refine ⟨?_, rfl⟩
  intro f hf
  rw [List.mem_singleton.mp hf]
  exact ⟨rfl, h⟩

theorem alarms_warn : (warn name detail).Writes (Alarms name false) := alarms_report (.inl rfl)

theorem alarms_fail : (fail name detail).Writes (Alarms name false) := alarms_report (.inr rfl)

theorem settled_pass : (pass name detail).Writes (Settled name) :=
  writes_write (.inl ⟨detail, rfl⟩)

theorem settled_of_alarms (h : x.Writes (Alarms name false)) : x.Writes (Settled name) :=
  h.mono fun _ hws => .inr hws

theorem settled_warn : (warn name detail).Writes (Settled name) := settled_of_alarms alarms_warn

theorem settled_fail : (fail name detail).Writes (Settled name) := settled_of_alarms alarms_fail

/-! ## Reports in sequence -/

/-- A check on one name, and then checks on others. -/
theorem sound_then {names : List String} {k : Unit → Check Unit} (hx : x.Writes (Sound [name]))
    (hk : (k ()).Writes (Sound names)) (h : name ∉ names) :
    (x >>= k).Writes (Sound (name :: names)) :=
  writes_seq hx hk fun _ _ hu hv => sound_append hu hv (List.singleton_disjoint.mpr h)

/-- A check on one name that may be left out, and then checks on others. -/
theorem sound_if_then {c : Prop} [Decidable c] {names : List String} {k : Unit → Check Unit}
    (hx : x.Writes (Sound [name])) (hk : (k ()).Writes (Sound names)) (h : name ∉ names) :
    (if c then x >>= k else k ()).Writes (Sound (name :: names)) := by
  apply writes_ite
  · exact sound_then hx hk h
  · exact hk.mono fun _ hfs => hfs.mono (List.subset_cons_self name names)

/-- An alarm for each element: there are none iff there is no element. -/
theorem alarms_each (h : ∀ x ∈ xs, (f x).Writes (Alarms name false)) :
    (Trace.each xs f).Writes (Alarms name xs.isEmpty) := by
  induction xs with
  | nil => exact writes_pure ⟨by simp, rfl⟩
  | cons x xs ih =>
      obtain ⟨hx, hxs⟩ := List.forall_mem_cons.mp h
      rw [each_cons]
      exact writes_seq hx (ih hxs) fun _ _ hu hv => alarms_append hu hv

theorem settled_each (h : ∀ x ∈ xs, (f x).Writes (Alarms name false)) (hxs : ¬xs.isEmpty = true) :
    (Trace.each xs f).Writes (Settled name) := by
  have hall := alarms_each h
  rw [Bool.eq_false_of_not_eq_true hxs] at hall
  exact settled_of_alarms hall

theorem sound_each (h : ∀ x ∈ xs, (f x).Writes (Alarms name false)) :
    (Trace.each xs f).Writes (Sound [name]) :=
  (alarms_each h).mono fun _ hws => sound_of_forall_alarm hws.all

/-! ## The usual endings of a check -/

section

variable {c : Prop} [Decidable c] {detail₁ detail₂ : String} {names : List String}

theorem sound_settled (h : x.Writes (Settled name)) : x.Writes (Sound [name]) :=
  h.mono fun _ hfs => hfs.sound

theorem sound_if (hx : x.Writes (Sound names)) :
    (if c then x else pure ()).Writes (Sound names) :=
  writes_ite hx (writes_pure sound_nil)

theorem sound_unless (hx : x.Writes (Sound names)) :
    (if c then pure () else x).Writes (Sound names) :=
  writes_ite (writes_pure sound_nil) hx

/-- A check that has nothing to say unless something is found. -/
theorem sound_found {α : Type} {x : Except Fault (Option α)} {k : Option α → Check Unit}
    (hnone : k none = pure ()) (hsome : ∀ a, (k (some a)).Writes (Sound names)) :
    ((liftM x : Check (Option α)) >>= k).Writes (Sound names) := by
  apply writes_lift
  intro found _
  cases found with
  | none => exact hnone ▸ writes_pure sound_nil
  | some a => exact hsome a

/-- A report of one kind or another, always on the same check. -/
theorem sound_either {s₁ s₂ : Status} :
    (if c then report s₁ name detail₁ else report s₂ name detail₂).Writes (Sound [name]) :=
  writes_ite sound_report sound_report

theorem settled_warn_or_pass :
    (if c then warn name detail₁ else pass name detail₂).Writes (Settled name) :=
  writes_ite settled_warn settled_pass

theorem settled_pass_or_warn :
    (if c then pass name detail₁ else warn name detail₂).Writes (Settled name) :=
  writes_ite settled_pass settled_warn

/-- A check that passes if there is nothing to complain about, and else complains of each. -/
theorem settled_pass_or_each (h : ∀ x ∈ xs, (f x).Writes (Alarms name false)) :
    (if xs.isEmpty then pass name detail else Trace.each xs f).Writes (Settled name) := by
  split
  · exact settled_pass
  · next hxs => exact settled_each h hxs

/-- A check that passes at its end iff it has been quiet. -/
theorem settled_of_quiet {quiet : Bool} {us vs : List Finding} {u : Unit}
    (hus : Alarms name quiet us)
    (hvs : Trace.Ends (if quiet then pass name detail else pure ()) vs u) :
    Settled name (us ++ vs) := by
  cases quiet with
  | true =>
      rw [List.isEmpty_iff.mp hus.isEmpty_eq, List.nil_append]
      exact settled_pass vs u hvs
  | false =>
      obtain ⟨rfl, _⟩ := ends_pure.mp hvs
      rw [List.append_nil]
      exact .inr hus

/-- A check that complains of the elements of two lists, and passes if both are empty. -/
theorem settled_each_each {δ : Type} {g : δ → Check Unit} {ys : List δ}
    (hf : ∀ x ∈ xs, (f x).Writes (Alarms name false))
    (hg : ∀ y ∈ ys, (g y).Writes (Alarms name false)) :
    Trace.Writes (do
      Trace.each xs f
      Trace.each ys g
      if xs.isEmpty && ys.isEmpty then pass name detail) (Settled name) := by
  intro ws u hw
  obtain ⟨us, _, rest, hus, hrest, rfl⟩ := ends_bind.mp hw
  obtain ⟨vs, _, ps, hvs, hps, rfl⟩ := ends_bind.mp hrest
  rw [← List.append_assoc]
  exact settled_of_quiet (alarms_append (alarms_each hf us _ hus) (alarms_each hg vs _ hvs)) hps

end

/-! ## Many checks -/

/-- Checks of which no two share a name. -/
theorem writes_each_sound {names : List (List String)}
    (h : List.Forall₂ (fun x is => (f x).Writes (Sound is)) xs names)
    (hd : names.flatten.Nodup) : (Trace.each xs f).Writes (Sound names.flatten) := by
  induction h with
  | nil => exact writes_pure sound_nil
  | cons hx _ ih =>
      rw [List.flatten_cons] at hd ⊢
      rw [each_cons]
      refine writes_seq hx (ih hd.of_append_right) ?_
      intro us vs hu hv
      exact sound_append hu hv (List.nodup_append'.mp hd).2.2

/-! ## Runs that tell whether they have raised an alarm -/

/-- The run writes alarms of the check, and tells whether there are any. -/
def Tells (name : String) (x : Check Bool) : Prop :=
  ∀ ws found, x.Ends ws found → Alarms name (!found) ws

theorem tells_each (h : ∀ x ∈ xs, (f x).Writes (Alarms name false)) :
    Tells name (Trace.each xs f >>= fun _ => pure (!xs.isEmpty)) := by
  intro ws found hw
  obtain ⟨us, u, vs, hu, hv, rfl⟩ := ends_bind.mp hw
  obtain ⟨rfl, rfl⟩ := ends_pure.mp hv
  rw [Bool.not_not, List.append_nil]
  exact alarms_each h us u hu

theorem tells_lift {α : Type} {e : Except Fault α} {k : α → Check Bool}
    (h : ∀ a, Tells name (k a)) : Tells name (liftM e >>= k) := by
  intro ws found hw
  obtain ⟨us, a, vs, ha, hb, rfl⟩ := ends_bind.mp hw
  obtain ⟨rfl, _⟩ := ends_lift.mp ha
  exact h a vs found hb

/-- Over many elements, an alarm has been raised iff it has been for one of them. -/
theorem alarms_of_mapM {k : γ → Check Bool} (h : ∀ x, Tells name (k x)) {ws : List Finding}
    {found : List Bool} (hw : Ends (xs.mapM k) ws found) : Alarms name (!found.any id) ws := by
  obtain ⟨runs, hruns, rfl, rfl⟩ := ends_mapM.mp hw
  clear hw
  induction hruns with
  | nil => exact ⟨by simp, rfl⟩
  | @cons x run xs runs hx _ ih =>
      have hhead := h x run.1 run.2 hx
      have hall := alarms_append hhead ih
      rwa [← Bool.not_or] at hall

/-- A check that goes through elements, and passes if none has raised an alarm. -/
theorem settled_mapM {k : γ → Check Bool} (h : ∀ x, Tells name (k x)) :
    Trace.Writes (xs.mapM k >>= fun found =>
      if !found.any id then pass name detail else pure ()) (Settled name) := by
  intro ws u hw
  obtain ⟨us, found, vs, hfound, hv, rfl⟩ := ends_bind.mp hw
  exact settled_of_quiet (alarms_of_mapM h hfound) hv

end Check

end ExtensionAudit
