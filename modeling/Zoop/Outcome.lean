/-!
# Outcomes of bounded computations

Parsing and running are defined by recursion on a bound.  Such a computation ends with a value, ends
with an error, comes to a case that it takes to be impossible, or reaches the bound before its end.
Keeping the last two cases apart lets it be stated that they do not come up.
-/

namespace Zoop

/-- How a bounded computation ends. -/
inductive Outcome (ε α : Type) where
  | ok (value : α)
  | error (cause : ε)
  /-- At a case that is taken to be impossible, from which nothing goes on. -/
  | fault
  /-- Not within the bound. -/
  | outOfFuel
deriving DecidableEq

namespace Outcome

variable {ε α β : Type}

/-- Go on with the value of a computation that has one. -/
def bind (outcome : Outcome ε α) (next : α → Outcome ε β) : Outcome ε β :=
  match outcome with
  | .ok value => next value
  | .error cause => .error cause
  | .fault => .fault
  | .outOfFuel => .outOfFuel

instance : Monad (Outcome ε) where
  pure := .ok
  bind := bind

@[simp]
theorem pure_eq_ok (value : α) : (pure value : Outcome ε α) = .ok value :=
  rfl

@[simp]
theorem ok_bind (value : α) (next : α → Outcome ε β) : (.ok value >>= next) = next value :=
  rfl

@[simp]
theorem error_bind (cause : ε) (next : α → Outcome ε β) :
    ((.error cause : Outcome ε α) >>= next) = .error cause :=
  rfl

@[simp]
theorem fault_bind (next : α → Outcome ε β) : ((.fault : Outcome ε α) >>= next) = .fault :=
  rfl

@[simp]
theorem outOfFuel_bind (next : α → Outcome ε β) :
    ((.outOfFuel : Outcome ε α) >>= next) = .outOfFuel :=
  rfl

/-- A sequence ends with a value exactly when both of its parts do. -/
theorem bind_eq_ok_iff {outcome : Outcome ε α} {next : α → Outcome ε β} {result : β} :
    (outcome >>= next) = .ok result ↔ ∃ value, outcome = .ok value ∧ next value = .ok result := by
  cases outcome <;> simp

instance : LawfulMonad (Outcome ε) :=
  LawfulMonad.mk' _
    (fun outcome => by cases outcome <;> rfl)
    (fun _ _ => rfl)
    (fun outcome _ _ => by cases outcome <;> rfl)

end Outcome

end Zoop
