/-
# Computations that speak

A `Traced` computation may fail, and what it has said up to then stays said.
-/
import ThreatScan.Failure
import ThreatScan.Log.Event

namespace ThreatScan

/-- A chain of two steps gives a value exactly if both do. -/
theorem Except.bind_eq_ok_iff {ε α β : Type} {x : Except ε α} {f : α → Except ε β} {b : β} :
    x.bind f = .ok b ↔ ∃ a, x = .ok a ∧ f a = .ok b := by
  cases x <;> simp [Except.bind]

theorem Except.map_eq_ok_iff {ε α β : Type} {x : Except ε α} {f : α → β} {b : β} :
    x.map f = .ok b ↔ ∃ a, x = .ok a ∧ f a = b := by
  cases x <;> simp [Except.map]

/-- An outcome, and what was said on the way to it. -/
@[ext]
structure Traced (α : Type) where
  events : List Event
  outcome : Except Failure α

namespace Traced

variable {α β : Type}

/-- A value, with nothing said. -/
def ofValue (a : α) : Traced α := ⟨[], .ok a⟩

/-- A failure, with nothing said. -/
def fail (f : Failure) : Traced α := ⟨[], .error f⟩

/-- An outcome, with nothing said. -/
def ofOutcome (x : Except Failure α) : Traced α := ⟨[], x⟩

/-- Says something. -/
def say (events : List Event) : Traced Unit := ⟨events, .ok ()⟩

/-- One computation after the other. -/
def andThen (x : Traced α) (f : α → Traced β) : Traced β :=
  match x.outcome with
  | .ok a => ⟨x.events ++ (f a).events, (f a).outcome⟩
  | .error e => ⟨x.events, .error e⟩

instance : Monad Traced where
  pure := ofValue
  bind := andThen

/-! ## Laws -/

@[simp] theorem outcome_ofValue (a : α) : (ofValue a).outcome = .ok a := rfl

@[simp] theorem outcome_pure (a : α) : (pure a : Traced α).outcome = .ok a := rfl

@[simp] theorem events_pure (a : α) : (pure a : Traced α).events = [] := rfl

@[simp] theorem outcome_say (events : List Event) : (say events).outcome = .ok () := rfl

theorem outcome_bind (x : Traced α) (f : α → Traced β) :
    (x >>= f).outcome = x.outcome.bind fun a => (f a).outcome := by
  show (andThen x f).outcome = _
  cases h : x.outcome <;> simp [andThen, h, Except.bind]

/-- Two computations in a row give a value exactly if both do. -/
theorem outcome_bind_eq_ok {x : Traced α} {f : α → Traced β} {b : β} :
    (x >>= f).outcome = .ok b ↔ ∃ a, x.outcome = .ok a ∧ (f a).outcome = .ok b := by
  rw [outcome_bind, Except.bind_eq_ok_iff]

instance : LawfulMonad Traced := LawfulMonad.mk' Traced
  (fun x => by
    show andThen x (fun a => ofValue a) = x
    cases x with
    | mk events outcome => cases outcome <;> simp [andThen, ofValue])
  (fun a f => by
    show andThen (ofValue a) f = f a
    simp [andThen, ofValue])
  (fun x f g => by
    show andThen (andThen x f) g = andThen x fun a => andThen (f a) g
    cases x with
    | mk events outcome =>
      cases outcome with
      | error e => rfl
      | ok a => cases h : (f a).outcome <;> simp [andThen, h])

end Traced
end ThreatScan
