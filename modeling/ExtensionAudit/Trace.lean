import ExtensionAudit.Fault

/-!
# Traces

A run that writes one thing after the other, and ends with a value or breaks off with a fault.
What has been written before a fault stays written.
-/

namespace ExtensionAudit

/-- A run: what it writes, in order, and how it ends. -/
structure Trace (ω α : Type) where
  /-- What the run writes. -/
  output : List ω
  /-- The value, or the fault that broke the run off. -/
  outcome : Except Fault α

namespace Trace

variable {ω α β : Type}

/-- A run that writes nothing and ends with a value. -/
protected def pure (a : α) : Trace ω α := ⟨[], .ok a⟩

/-- One run after the other. -/
protected def bind (x : Trace ω α) (f : α → Trace ω β) : Trace ω β :=
  match x.outcome with
  | .ok a =>
      let y := f a
      ⟨x.output ++ y.output, y.outcome⟩
  | .error e => ⟨x.output, .error e⟩

instance : Monad (Trace ω) where
  pure := Trace.pure
  bind := Trace.bind

instance : MonadLift (Except Fault) (Trace ω) where
  monadLift x := ⟨[], x⟩

/-- A run that breaks off. -/
def fault (e : Fault) : Trace ω α := ⟨[], .error e⟩

/-- Writes a list. -/
def write (ws : List ω) : Trace ω Unit := ⟨ws, .ok ()⟩

/-- A run for each element in order. -/
def each {γ : Type} (xs : List γ) (f : γ → Trace ω Unit) : Trace ω Unit :=
  xs.forM f

/-- The values of a run for each element, joined. -/
def collect {γ : Type} (xs : List γ) (f : γ → Trace ω (List α)) : Trace ω (List α) := do
  return (← xs.mapM f).flatten

end Trace

end ExtensionAudit
