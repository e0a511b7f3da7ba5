import Mathlib
import ExtensionAudit.Check

/-!
# Runs that end by themselves

A run can break off at any place, and keeps what it has written.  The statements on what a check
reports are on runs that do not break off.  `Trace.Ends x ws a` says that the run `x` is such a
run: it writes `ws` and gives `a`.

There is one lemma for each way to build a run.  A run in sequence ends iff both of its parts do
(`ends_bind`), and a run over a list ends iff the run for each element does (`ends_each`,
`ends_collect`).  What is written is in each case the parts' output, put together in order.
-/

namespace ExtensionAudit.Trace

variable {ω α β γ : Type}

/-! ## The laws of sequence -/

theorem pure_bind' (a : α) (f : α → Trace ω β) : (pure a >>= f) = f a := by
  change Trace.bind (Trace.pure a) f = f a
  simp [Trace.bind, Trace.pure]

theorem bind_pure' (x : Trace ω α) : (x >>= pure) = x := by
  change Trace.bind x Trace.pure = x
  obtain ⟨ws, o⟩ := x
  cases o <;> simp [Trace.bind, Trace.pure]

theorem bind_assoc' {δ : Type} (x : Trace ω α) (f : α → Trace ω β) (g : β → Trace ω δ) :
    (x >>= f >>= g) = x >>= fun a => f a >>= g := by
  change Trace.bind (Trace.bind x f) g = Trace.bind x fun a => Trace.bind (f a) g
  obtain ⟨ws, o⟩ := x
  cases o with
  | error e => rfl
  | ok a =>
      cases h : (f a).outcome <;> simp [Trace.bind, h]

instance : LawfulMonad (Trace ω) :=
  LawfulMonad.mk' _ (fun x => bind_pure' x) pure_bind' bind_assoc'

/-! ## Ending -/

/-- The run ends by itself: it writes the list and gives the value. -/
structure Ends (x : Trace ω α) (ws : List ω) (a : α) : Prop where
  /-- What it writes. -/
  output : x.output = ws
  /-- What it gives. -/
  outcome : x.outcome = .ok a

/-- A run whose outcome is a value ends with its whole output. -/
theorem ends_of_outcome {x : Trace ω α} {a : α} (h : x.outcome = .ok a) : x.Ends x.output a :=
  ⟨rfl, h⟩

/-! ## Single steps -/

theorem ends_pure {a b : α} {ws : List ω} :
    Ends (pure a : Trace ω α) ws b ↔ ws = [] ∧ b = a := by
  constructor
  · rintro ⟨ho, hv⟩
    exact ⟨ho.symm, (Except.ok.inj hv).symm⟩
  · rintro ⟨rfl, rfl⟩
    exact ⟨rfl, rfl⟩

theorem ends_write {us ws : List ω} {u : Unit} :
    Ends (write us : Trace ω Unit) ws u ↔ ws = us := by
  constructor
  · rintro ⟨ho, _⟩
    exact ho.symm
  · rintro rfl
    exact ⟨rfl, rfl⟩

/-- A value that may be a fault writes nothing. -/
theorem ends_lift {x : Except Fault α} {ws : List ω} {a : α} :
    Ends (liftM x : Trace ω α) ws a ↔ ws = [] ∧ x = .ok a := by
  constructor
  · rintro ⟨ho, hv⟩
    exact ⟨ho.symm, hv⟩
  · rintro ⟨rfl, hx⟩
    exact ⟨rfl, hx⟩

/-- A run in sequence ends iff the first part ends, and the second ends on what it gives. -/
theorem ends_bind {x : Trace ω α} {f : α → Trace ω β} {ws : List ω} {b : β} :
    Ends (x >>= f) ws b ↔ ∃ us a vs, Ends x us a ∧ Ends (f a) vs b ∧ ws = us ++ vs := by
  change Ends (Trace.bind x f) ws b ↔ _
  cases hx : x.outcome with
  | error e =>
      constructor
      · rintro ⟨_, hv⟩
        simp [Trace.bind, hx] at hv
      · rintro ⟨us, a, vs, ha, _, _⟩
        rw [ha.outcome] at hx
        cases hx
  | ok a =>
      constructor
      · rintro ⟨ho, hv⟩
        simp only [Trace.bind, hx] at ho hv
        exact ⟨x.output, a, (f a).output, ⟨rfl, hx⟩, ⟨rfl, hv⟩, ho.symm⟩
      · rintro ⟨us, a', vs, ha, hb, rfl⟩
        rw [ha.outcome] at hx
        cases hx
        exact ⟨by simp [Trace.bind, ha.outcome, ha.output, hb.output],
          by simp [Trace.bind, ha.outcome, hb.outcome]⟩

/-- A run that takes a value first goes on with the value. -/
theorem ends_lift_bind {x : Except Fault α} {a : α} (hx : x = .ok a) {f : α → Trace ω β}
    {ws : List ω} {b : β} (h : Ends (f a) ws b) : Ends (liftM x >>= f) ws b :=
  ends_bind.mpr ⟨[], a, ws, ends_lift.mpr ⟨rfl, hx⟩, h, rfl⟩

theorem ends_if_pos {c : Prop} [Decidable c] (hc : c) {x y : Trace ω α} {ws : List ω} {a : α}
    (h : Ends x ws a) : Ends (if c then x else y) ws a := by
  rwa [if_pos hc]

theorem ends_if_neg {c : Prop} [Decidable c] (hc : ¬c) {x y : Trace ω α} {ws : List ω} {a : α}
    (h : Ends y ws a) : Ends (if c then x else y) ws a := by
  rwa [if_neg hc]

/-- One run if there is nothing to speak of, and else another. -/
theorem ends_isEmpty [DecidableEq γ] {xs : List γ} {x y : Trace ω α} {us vs : List ω} {a : α}
    (hx : Ends x us a) (hy : Ends y vs a) :
    Ends (if xs.isEmpty then x else y) (if xs = [] then us else vs) a := by
  cases xs with
  | nil => exact hx
  | cons z xs => exact hy

/-! ## Runs over lists -/

theorem each_nil (f : γ → Trace ω Unit) : each [] f = pure () := rfl

theorem each_cons (x : γ) (xs : List γ) (f : γ → Trace ω Unit) :
    each (x :: xs) f = f x >>= fun _ => each xs f := rfl

/-- To write one thing for each element is to write all of them. -/
theorem each_write (xs : List γ) (g : γ → ω) :
    each xs (fun x => write [g x]) = write (xs.map g) := by
  induction xs with
  | nil => rfl
  | cons x xs ih =>
      rw [each_cons, ih]
      rfl

theorem ends_each_write (xs : List γ) (g : γ → ω) :
    Ends (each xs fun x => write [g x]) (xs.map g) () := by
  rw [each_write]
  exact ends_write.mpr rfl

/-- Runs over a list are the same if they are the same for each element. -/
theorem mapM_congr {m : Type → Type} [Monad m] [LawfulMonad m] {f g : γ → m α} {xs : List γ}
    (h : ∀ x ∈ xs, f x = g x) : xs.mapM f = xs.mapM g := by
  induction xs with
  | nil => rfl
  | cons x xs ih =>
      obtain ⟨hx, hxs⟩ := List.forall_mem_cons.mp h
      rw [List.mapM_cons, List.mapM_cons, hx, ih hxs]

/-- If nothing fails in a sequence, then nothing fails in either part of it. -/
theorem exists_of_bind_eq_ok {ε : Type} {x : Except ε α} {f : α → Except ε β} {b : β}
    (h : x >>= f = .ok b) : ∃ a, x = .ok a ∧ f a = .ok b := by
  cases x with
  | error e => cases h
  | ok a => exact ⟨a, rfl, h⟩

/-- What is read element by element, if nothing fails, is read of each. -/
theorem forall₂_of_mapM {ε : Type} {f : γ → Except ε α} {xs : List γ} {as : List α}
    (h : xs.mapM f = .ok as) : List.Forall₂ (fun x a => f x = .ok a) xs as := by
  induction xs generalizing as with
  | nil =>
      cases h
      exact .nil
  | cons x xs ih =>
      rw [List.mapM_cons] at h
      obtain ⟨a, hx, h⟩ := exists_of_bind_eq_ok h
      obtain ⟨more, hxs, h⟩ := exists_of_bind_eq_ok h
      cases h
      exact .cons hx (ih hxs)

theorem each_congr {f g : γ → Trace ω Unit} {xs : List γ} (h : ∀ x ∈ xs, f x = g x) :
    each xs f = each xs g := by
  induction xs with
  | nil => rfl
  | cons x xs ih =>
      obtain ⟨hx, hxs⟩ := List.forall_mem_cons.mp h
      rw [each_cons, each_cons, hx, ih hxs]

theorem collect_congr {f g : γ → Trace ω (List α)} {xs : List γ} (h : ∀ x ∈ xs, f x = g x) :
    collect xs f = collect xs g := by
  rw [collect, collect, mapM_congr h]

theorem collect_map {δ : Type} (g : δ → γ) (f : γ → Trace ω (List α)) (xs : List δ) :
    collect (xs.map g) f = collect xs fun x => f (g x) := by
  rw [collect, collect, List.mapM_map]
  rfl

/-- A run for each element ends iff all of them end, each with its own block of output. -/
theorem ends_each {f : γ → Trace ω Unit} {xs : List γ} {ws : List ω} {u : Unit} :
    Ends (each xs f) ws u ↔
      ∃ blocks : List (List ω),
        List.Forall₂ (fun x block => Ends (f x) block ()) xs blocks ∧ ws = blocks.flatten := by
  induction xs generalizing ws with
  | nil =>
      rw [each_nil, ends_pure]
      constructor
      · rintro ⟨rfl, _⟩
        exact ⟨[], .nil, rfl⟩
      · rintro ⟨blocks, hb, rfl⟩
        cases hb
        exact ⟨rfl, rfl⟩
  | cons x xs ih =>
      rw [each_cons, ends_bind]
      constructor
      · rintro ⟨us, _, vs, hx, hxs, rfl⟩
        obtain ⟨blocks, hb, rfl⟩ := ih.mp hxs
        exact ⟨us :: blocks, .cons hx hb, rfl⟩
      · rintro ⟨blocks, hb, rfl⟩
        cases hb with
        | cons hx hb =>
            exact ⟨_, (), _, hx, ih.mpr ⟨_, hb, rfl⟩, rfl⟩

/-- The values of a run for each element, before they are joined. -/
theorem ends_mapM {f : γ → Trace ω α} {xs : List γ} {ws : List ω} {as : List α} :
    Ends (xs.mapM f) ws as ↔
      ∃ runs : List (List ω × α),
        List.Forall₂ (fun x run => Ends (f x) run.1 run.2) xs runs ∧
          ws = runs.flatMap (·.1) ∧ as = runs.map (·.2) := by
  induction xs generalizing ws as with
  | nil =>
      rw [List.mapM_nil, ends_pure]
      constructor
      · rintro ⟨rfl, rfl⟩
        exact ⟨[], .nil, rfl, rfl⟩
      · rintro ⟨runs, hr, rfl, rfl⟩
        cases hr
        exact ⟨rfl, rfl⟩
  | cons x xs ih =>
      rw [List.mapM_cons, ends_bind]
      constructor
      · rintro ⟨us, a, vs, hx, hrest, rfl⟩
        obtain ⟨us', as', vs', hxs, hp, rfl⟩ := ends_bind.mp hrest
        obtain ⟨rfl, rfl⟩ := ends_pure.mp hp
        obtain ⟨runs, hr, rfl, rfl⟩ := ih.mp hxs
        exact ⟨(us, a) :: runs, .cons hx hr, by simp, rfl⟩
      · rintro ⟨runs, hr, rfl, rfl⟩
        cases hr with
        | cons hx hr =>
            have hxs := ih.mpr ⟨_, hr, rfl, rfl⟩
            refine ⟨_, _, _, hx, ends_bind.mpr ⟨_, _, [], hxs, ?_, rfl⟩, ?_⟩
            · exact ends_pure.mpr ⟨rfl, rfl⟩
            · rw [List.flatMap_cons, List.append_nil]

/-- A run that gathers values ends iff the run for each element does.  Output and values are
those of the elements, joined. -/
theorem ends_collect {f : γ → Trace ω (List α)} {xs : List γ} {ws : List ω} {as : List α} :
    Ends (collect xs f) ws as ↔
      ∃ runs : List (List ω × List α),
        List.Forall₂ (fun x run => Ends (f x) run.1 run.2) xs runs ∧
          ws = runs.flatMap (·.1) ∧ as = runs.flatMap (·.2) := by
  unfold collect
  rw [ends_bind]
  constructor
  · rintro ⟨us, vals, vs, hxs, hp, rfl⟩
    obtain ⟨rfl, rfl⟩ := ends_pure.mp hp
    obtain ⟨runs, hr, rfl, rfl⟩ := ends_mapM.mp hxs
    exact ⟨runs, hr, by simp, List.flatMap_def.symm⟩
  · rintro ⟨runs, hr, rfl, rfl⟩
    exact ⟨_, _, [], ends_mapM.mpr ⟨runs, hr, rfl, rfl⟩,
      ends_pure.mpr ⟨rfl, List.flatMap_def⟩, by simp⟩

end ExtensionAudit.Trace
