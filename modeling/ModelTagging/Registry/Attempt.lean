/-!
# Attempts on a state

What is done to a state may fail and may change it, and it does both
independently: what it changed before it failed stays changed. So a failure alone
says nothing about the state it leaves behind.
-/

namespace ModelTagging

/-- Something to do to a state, with a result or a failure. -/
abbrev Attempt (σ ε α : Type) := ExceptT ε (StateM σ) α

namespace Attempt

variable {σ ε α β : Type}

/-- What an attempt comes to in a state, and the state afterwards. -/
def outcome (attempt : Attempt σ ε α) (state : σ) : Except ε α × σ :=
  attempt.run.run state

/-- The attempt with these outcomes. -/
def ofOutcome (outcome : σ → Except ε α × σ) : Attempt σ ε α :=
  ExceptT.mk outcome

/-- An attempt is determined by its outcomes. -/
@[simp] theorem outcome_ofOutcome (f : σ → Except ε α × σ) (state : σ) :
    (ofOutcome f).outcome state = f state := rfl

/-- Doing nothing. -/
@[simp] theorem outcome_pure (a : α) (state : σ) :
    (pure a : Attempt σ ε α).outcome state = (.ok a, state) := rfl

/-- A failure leaves the state that it finds. -/
@[simp] theorem outcome_throw (error : ε) (state : σ) :
    (throw error : Attempt σ ε α).outcome state = (.error error, state) := rfl

/-- Asking for the state. -/
@[simp] theorem outcome_get (state : σ) :
    (get : Attempt σ ε σ).outcome state = (.ok state, state) := rfl

/-- Changing the state. -/
@[simp] theorem outcome_modify (f : σ → σ) (state : σ) :
    (modify f : Attempt σ ε PUnit).outcome state = (.ok ⟨⟩, f state) := rfl

/-- One attempt after another: a failure of the first is the failure of both, and leaves
what the first has changed. -/
theorem outcome_bind (first : Attempt σ ε α) (next : α → Attempt σ ε β) (state : σ) :
    (first >>= next).outcome state =
      match first.outcome state with
      | (.ok a, after) => (next a).outcome after
      | (.error error, after) => (.error error, after) := by
  show (ExceptT.run (first >>= next)).run state = _
  unfold outcome
  rw [ExceptT.run_bind, StateT.run_bind]
  rcases StateT.run (ExceptT.run first) state with ⟨result, after⟩
  cases result <;> rfl

end Attempt

end ModelTagging
