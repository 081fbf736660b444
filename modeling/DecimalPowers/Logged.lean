import DecimalPowers.Event

/-!
Logged computations. A `Logged ε α` is an outcome together with the events on the way to it; a
computation that fails keeps the events up to the failure and runs nothing after it.
-/

set_option autoImplicit false
set_option relaxedAutoImplicit false

namespace DecimalPowers

/-- An outcome and the events that led to it, in order. -/
structure Logged (ε α : Type) where
  events : List Event
  outcome : Except ε α

namespace Logged

variable {ε α β : Type}

/-- The outcome that is already known, without an event. -/
def ofExcept (outcome : Except ε α) : Logged ε α := ⟨[], outcome⟩

def emit (event : Event) : Logged ε Unit := ⟨[event], .ok ()⟩

def andThen (x : Logged ε α) (f : α → Logged ε β) : Logged ε β :=
  match x.outcome with
  | .ok a => ⟨x.events ++ (f a).events, (f a).outcome⟩
  | .error cause => ⟨x.events, .error cause⟩

instance : Monad (Logged ε) where
  pure a := ⟨[], .ok a⟩
  bind := andThen

def fail (cause : ε) : Logged ε α := ⟨[], .error cause⟩

def mapError {δ : Type} (f : ε → δ) (x : Logged ε α) : Logged δ α :=
  ⟨x.events, x.outcome.mapError f⟩

@[simp] theorem outcome_pure (a : α) : (pure a : Logged ε α).outcome = .ok a := rfl

@[simp] theorem events_pure (a : α) : (pure a : Logged ε α).events = [] := rfl

@[simp] theorem outcome_ofExcept (x : Except ε α) : (ofExcept x).outcome = x := rfl

@[simp] theorem events_ofExcept (x : Except ε α) : (ofExcept x).events = [] := rfl

@[simp] theorem outcome_emit (event : Event) :
    (emit event : Logged ε Unit).outcome = .ok () := rfl

@[simp] theorem events_emit (event : Event) :
    (emit event : Logged ε Unit).events = [event] := rfl

@[simp] theorem outcome_bind (x : Logged ε α) (f : α → Logged ε β) :
    (x >>= f).outcome = x.outcome.bind (fun a => (f a).outcome) := by
  show (x.andThen f).outcome = _
  unfold andThen
  cases x.outcome <;> rfl

@[simp] theorem events_bind_of_ok {x : Logged ε α} {a : α} (h : x.outcome = .ok a)
    (f : α → Logged ε β) : (x >>= f).events = x.events ++ (f a).events := by
  show (x.andThen f).events = _
  unfold andThen
  rw [h]

@[simp] theorem events_bind_of_error {x : Logged ε α} {cause : ε} (h : x.outcome = .error cause)
    (f : α → Logged ε β) : (x >>= f).events = x.events := by
  show (x.andThen f).events = _
  unfold andThen
  rw [h]

end Logged

end DecimalPowers
