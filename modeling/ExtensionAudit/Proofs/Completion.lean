import Mathlib
import ExtensionAudit.Proofs.Outcome

/-!
# Runs that complete, and what a run writes on the way

`Trace.Completes x` says that the run `x` ends by itself, whatever it gives.  `Trace.Outputs x A`
says that all it writes is as `A` says, and it says so of a run that breaks off as well.  For both
there is one lemma for each way to build a run.
-/

namespace ExtensionAudit.Trace

variable {ω α β γ : Type}

/-! ## Completing -/

/-- The run ends by itself. -/
def Completes (x : Trace ω α) : Prop := ∃ ws a, x.Ends ws a

theorem completes_pure (a : α) : (pure a : Trace ω α).Completes :=
  ⟨[], a, ends_pure.mpr ⟨rfl, rfl⟩⟩

theorem completes_write (ws : List ω) : (write ws).Completes :=
  ⟨ws, (), ends_write.mpr rfl⟩

theorem completes_bind {x : Trace ω α} {f : α → Trace ω β} :
    (x >>= f).Completes ↔ ∃ ws a, x.Ends ws a ∧ (f a).Completes := by
  constructor
  · rintro ⟨ws, b, hw⟩
    obtain ⟨us, a, vs, ha, hb, -⟩ := ends_bind.mp hw
    exact ⟨us, a, ha, vs, b, hb⟩
  · rintro ⟨us, a, ha, vs, b, hb⟩
    exact ⟨us ++ vs, b, ends_bind.mpr ⟨us, a, vs, ha, hb, rfl⟩⟩

/-- If what follows always completes, only the first part counts. -/
theorem completes_bind_left {x : Trace ω α} {f : α → Trace ω β} (hf : ∀ a, (f a).Completes) :
    (x >>= f).Completes ↔ x.Completes := by
  rw [completes_bind]
  constructor
  · rintro ⟨ws, a, ha, -⟩
    exact ⟨ws, a, ha⟩
  · rintro ⟨ws, a, ha⟩
    exact ⟨ws, a, ha, hf a⟩

/-- A value that is read must be no fault, and what follows must complete. -/
theorem completes_lift_bind {x : Except Fault α} {f : α → Trace ω β} :
    (liftM x >>= f : Trace ω β).Completes ↔ ∃ a, x = .ok a ∧ (f a).Completes := by
  rw [completes_bind]
  constructor
  · rintro ⟨ws, a, ha, hf⟩
    obtain ⟨-, hx⟩ := ends_lift.mp ha
    exact ⟨a, hx, hf⟩
  · rintro ⟨a, hx, hf⟩
    exact ⟨[], a, ends_lift.mpr ⟨rfl, hx⟩, hf⟩

theorem completes_lift {x : Except Fault α} {f : α → Trace ω β} (hx : ∃ a, x = .ok a)
    (hf : ∀ a, x = .ok a → (f a).Completes) : (liftM x >>= f : Trace ω β).Completes := by
  obtain ⟨a, ha⟩ := hx
  exact completes_lift_bind.mpr ⟨a, ha, hf a ha⟩

theorem completes_ite {c : Prop} [Decidable c] {x y : Trace ω α} (hx : x.Completes)
    (hy : y.Completes) : (if c then x else y).Completes := by
  split
  · exact hx
  · exact hy

theorem completes_if {c : Prop} [Decidable c] {x : Trace ω Unit} (hx : x.Completes) :
    (if c then x else pure ()).Completes := completes_ite hx (completes_pure ())

theorem completes_unless {c : Prop} [Decidable c] {x : Trace ω Unit} (hx : x.Completes) :
    (if c then pure () else x).Completes := completes_ite (completes_pure ()) hx

theorem completes_seq {x : Trace ω α} {f : α → Trace ω β} (hx : x.Completes)
    (hf : ∀ a, (f a).Completes) : (x >>= f).Completes := (completes_bind_left hf).mpr hx

/-- A run that may be left out, and then another. -/
theorem completes_if_then {c : Prop} [Decidable c] {x : Trace ω Unit} {f : Unit → Trace ω β}
    (hx : x.Completes) (hf : (f ()).Completes) : (if c then x >>= f else f ()).Completes :=
  completes_ite (completes_seq hx fun _ => hf) hf

/-- One run after the other ends iff each of them does. -/
theorem completes_each {f : γ → Trace ω Unit} {xs : List γ} :
    (each xs f).Completes ↔ ∀ x ∈ xs, (f x).Completes := by
  induction xs with
  | nil =>
      rw [each_nil]
      simp [completes_pure]
  | cons x xs ih =>
      rw [each_cons, completes_bind, List.forall_mem_cons, ← ih]
      constructor
      · rintro ⟨ws, u, hx, hxs⟩
        exact ⟨⟨ws, u, hx⟩, hxs⟩
      · rintro ⟨⟨ws, u, hx⟩, hxs⟩
        exact ⟨ws, u, hx, hxs⟩

/-- Runs that each give a value end iff each of them does. -/
theorem completes_mapM {f : γ → Trace ω α} {xs : List γ} :
    (xs.mapM f).Completes ↔ ∀ x ∈ xs, (f x).Completes := by
  induction xs with
  | nil =>
      rw [List.mapM_nil]
      simp [completes_pure]
  | cons x xs ih =>
      rw [List.mapM_cons, completes_bind, List.forall_mem_cons, ← ih]
      constructor
      · rintro ⟨ws, a, hx, hxs⟩
        exact ⟨⟨ws, a, hx⟩, (completes_bind_left fun _ => completes_pure _).mp hxs⟩
      · rintro ⟨⟨ws, a, hx⟩, hxs⟩
        exact ⟨ws, a, hx, (completes_bind_left fun _ => completes_pure _).mpr hxs⟩

theorem completes_collect {f : γ → Trace ω (List α)} {xs : List γ} :
    (collect xs f).Completes ↔ ∀ x ∈ xs, (f x).Completes := by
  rw [collect, completes_bind_left fun _ => completes_pure _, completes_mapM]

/-- Runs that complete one after the other write what each of them writes. -/
theorem each_of_completes {f : γ → Trace ω Unit} {xs : List γ} (h : ∀ x ∈ xs, (f x).Completes) :
    each xs f = ⟨xs.flatMap fun x => (f x).output, .ok ()⟩ := by
  induction xs with
  | nil => rfl
  | cons x xs ih =>
      obtain ⟨⟨ws, u, hx⟩, hxs⟩ := List.forall_mem_cons.mp h
      rw [each_cons, ih hxs]
      change Trace.bind (f x) _ = _
      rw [Trace.bind, hx.outcome]
      rfl

/-- Of runs one after the other, the first that breaks off is the last. -/
theorem each_of_fault {f : γ → Trace ω Unit} {xs ys : List γ} {y : γ} {e : Fault}
    (hxs : ∀ x ∈ xs, (f x).Completes) (hy : (f y).outcome = .error e) :
    each (xs ++ y :: ys) f = ⟨xs.flatMap (fun x => (f x).output) ++ (f y).output, .error e⟩ := by
  induction xs with
  | nil =>
      rw [List.nil_append, each_cons]
      change Trace.bind (f y) _ = _
      rw [Trace.bind, hy]
      rfl
  | cons x xs ih =>
      obtain ⟨⟨ws, u, hx⟩, hxs⟩ := List.forall_mem_cons.mp hxs
      rw [List.cons_append, each_cons, ih hxs]
      change Trace.bind (f x) _ = _
      rw [Trace.bind, hx.outcome]
      simp

/-! ## What is written -/

section

variable {A : ω → Prop}

/-- All that the run writes is as told, also if it breaks off. -/
def Outputs (x : Trace ω α) (A : ω → Prop) : Prop := ∀ w ∈ x.output, A w

theorem outputs_pure (a : α) : (pure a : Trace ω α).Outputs A := by
  intro w hw
  cases hw

theorem outputs_write {ws : List ω} (h : ∀ w ∈ ws, A w) : (write ws).Outputs A := h

theorem outputs_bind {x : Trace ω α} {f : α → Trace ω β} (hx : x.Outputs A)
    (hf : ∀ a, (f a).Outputs A) : (x >>= f).Outputs A := by
  change Outputs (Trace.bind x f) A
  unfold Trace.bind
  cases x.outcome with
  | error e => exact hx
  | ok a => exact List.forall_mem_append.mpr ⟨hx, hf a⟩

/-- Reading a value that may be a fault writes nothing. -/
theorem outputs_lift_bind {x : Except Fault α} {f : α → Trace ω β}
    (hf : ∀ a, x = .ok a → (f a).Outputs A) : (liftM x >>= f : Trace ω β).Outputs A := by
  change Outputs (Trace.bind ⟨[], x⟩ f) A
  unfold Trace.bind
  cases x with
  | error e =>
      intro w hw
      cases hw
  | ok a => exact hf a rfl

theorem outputs_each {f : γ → Trace ω Unit} {xs : List γ} (h : ∀ x ∈ xs, (f x).Outputs A) :
    (each xs f).Outputs A := by
  induction xs with
  | nil => exact outputs_pure ()
  | cons x xs ih =>
      obtain ⟨hx, hxs⟩ := List.forall_mem_cons.mp h
      rw [each_cons]
      exact outputs_bind hx fun _ => ih hxs

theorem outputs_mapM {f : γ → Trace ω α} {xs : List γ} (h : ∀ x ∈ xs, (f x).Outputs A) :
    (xs.mapM f).Outputs A := by
  induction xs with
  | nil => exact outputs_pure []
  | cons x xs ih =>
      obtain ⟨hx, hxs⟩ := List.forall_mem_cons.mp h
      rw [List.mapM_cons]
      exact outputs_bind hx fun _ => outputs_bind (ih hxs) fun _ => outputs_pure _

theorem outputs_collect {f : γ → Trace ω (List α)} {xs : List γ}
    (h : ∀ x ∈ xs, (f x).Outputs A) : (collect xs f).Outputs A :=
  outputs_bind (outputs_mapM h) fun _ => outputs_pure _

end

end ExtensionAudit.Trace

namespace ExtensionAudit.Check

open Trace

theorem completes_report {s : Status} {name detail : String} :
    (report s name detail).Completes := completes_write _

/-- A report of one kind or another. -/
theorem completes_either {c : Prop} [Decidable c] {s₁ s₂ : Status}
    {name₁ name₂ detail₁ detail₂ : String} :
    (if c then report s₁ name₁ detail₁ else report s₂ name₂ detail₂).Completes :=
  completes_ite completes_report completes_report

theorem completes_each_report {γ : Type} {xs : List γ} {s : Status} {name : String}
    {detail : γ → String} : (each xs fun x => report s name (detail x)).Completes :=
  completes_each.mpr fun _ _ => completes_report

/-- A report of a value that is no fault. -/
theorem completes_lift_report {α : Type} {x : Except Fault α} {s : Status} {name : String}
    {detail : α → String} (hx : ∃ a, x = .ok a) :
    (liftM x >>= fun a => report s name (detail a) : Check Unit).Completes :=
  completes_lift hx fun _ _ => completes_report

end ExtensionAudit.Check

namespace ExtensionAudit.Outcome

open Trace

variable {γ : Type} {f : γ → Check Unit} {xs : List γ}

/-- Checks that complete leave the lines of each of them. -/
theorem ofCheck_each (h : ∀ x ∈ xs, (f x).Completes) :
    ofCheck (each xs f) =
      { lines := xs.flatMap fun x => (ofCheck (f x)).lines, status := 0, fault := none } := by
  rw [each_of_completes h, ofCheck, ofTrace, List.flatMap_map, List.flatMap_assoc]
  simp only [lines_ofCheck]
  rfl

/-- A check that breaks off without a line leaves the lines of those before it, and its fault. -/
theorem ofCheck_each_of_fault {y : γ} {ys : List γ} {e : Fault} (hxs : ∀ x ∈ xs, (f x).Completes)
    (hy : f y = ⟨[], .error e⟩) :
    ofCheck (each (xs ++ y :: ys) f) =
      { lines := xs.flatMap fun x => (ofCheck (f x)).lines, status := 1, fault := some e } := by
  rw [each_of_fault hxs (congrArg Trace.outcome hy), hy, List.append_nil, ofCheck, ofTrace,
    List.flatMap_map, List.flatMap_assoc]
  simp only [lines_ofCheck]
  rfl

end ExtensionAudit.Outcome
