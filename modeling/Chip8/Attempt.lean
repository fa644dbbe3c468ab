import Chip8.Fault

/-!
# Attempts and effects

An operation that changes a state and may fail leaves two things behind: its
result, and the state, which is there whether or not the operation failed.  How
much of the state a failure has changed is for each operation to say, so the
state is never hidden inside a successful result (`Attempt`).

An `Effect` is such an operation as a function of the state it starts from, and a
`Query` is a look at a state that may fail.  Effects are written one after the
other, with queries and checks between them.  The first that fails ends the
sequence, and the state stays as it is at that point.  What was written before is
not taken back, so that a failed sequence changed nothing is always a fact about
the order of its parts.
-/

namespace Chip8

/-- The result of an operation and the state it leaves. -/
structure Attempt (ε σ α : Type) where
  /-- What came of it. -/
  result : Except ε α
  /-- The state afterwards, also after a failure. -/
  state : σ

namespace Attempt

variable {ε σ τ α β : Type}

/-- A new state on success, the old one on failure. -/
def update (old : σ) : Except ε σ → Attempt ε σ Unit
  | .ok new => ⟨.ok (), new⟩
  | .error e => ⟨.error e, old⟩

@[simp] theorem update_ok (old new : σ) : update old (.ok new : Except ε σ) = ⟨.ok (), new⟩ := rfl

@[simp] theorem update_error (old : σ) (e : ε) :
    update old (.error e : Except ε σ) = ⟨.error e, old⟩ := rfl

/-- An attempt with another answer on success. -/
def map (a : Attempt ε σ α) (f : α → β) : Attempt ε σ β := ⟨a.result.map f, a.state⟩

/-- An attempt that left another state. -/
def mapState (a : Attempt ε σ α) (view : σ → τ) : Attempt ε τ α := ⟨a.result, view a.state⟩

/-- What is done after a success, from the state that it left. -/
def andThen (first : Attempt ε σ α) (next : α → σ → Attempt ε σ β) : Attempt ε σ β :=
  match first.result with
  | .ok a => next a first.state
  | .error e => ⟨.error e, first.state⟩

@[simp] theorem andThen_ok (a : α) (s : σ) (next : α → σ → Attempt ε σ β) :
    (⟨.ok a, s⟩ : Attempt ε σ α).andThen next = next a s := rfl

@[simp] theorem andThen_error (e : ε) (s : σ) (next : α → σ → Attempt ε σ β) :
    (⟨.error e, s⟩ : Attempt ε σ α).andThen next = ⟨.error e, s⟩ := rfl

end Attempt

/-! ## Effects -/

/-- A look at a state.  It may fail, and leaves the state alone. -/
abbrev Query (σ α : Type) := ReaderT σ (Except Fault) α

/-- An operation that may change a state and may fail. -/
def Effect (σ α : Type) := σ → Attempt Fault σ α

namespace Effect

variable {σ α β : Type}

instance : Monad (Effect σ) where
  pure a := fun s => ⟨.ok a, s⟩
  bind first next := fun s => (first s).andThen next

instance : MonadLift (ReaderT σ (Except Fault)) (Effect σ) where
  monadLift query := fun s => ⟨query s, s⟩

/-- A change that cannot fail. -/
def change (f : σ → σ) : Effect σ Unit := fun s => ⟨.ok (), f s⟩

/-- After a success the sequence goes on from the state that it left. -/
theorem bind_of_ok {first : Effect σ α} {next : α → Effect σ β} {s t : σ} {a : α}
    (done : first s = ⟨.ok a, t⟩) : (first >>= next) s = next a t := by
  have sequence : (first >>= next) s = (first s).andThen fun a t => next a t := rfl
  rw [sequence, done]
  rfl

/-- A failure ends the sequence in the state that it left. -/
theorem bind_of_error {first : Effect σ α} {next : α → Effect σ β} {s t : σ} {f : Fault}
    (failed : first s = ⟨.error f, t⟩) : (first >>= next) s = ⟨.error f, t⟩ := by
  have sequence : (first >>= next) s = (first s).andThen fun a t => next a t := rfl
  rw [sequence, failed]
  rfl

-- The write before the failed check is not taken back.
example :
    (do .change (· + 1); liftM (.error .stackOverflow : Except Fault Unit) : Effect Nat Unit) 0 =
      ⟨.error .stackOverflow, 1⟩ := rfl

end Effect

end Chip8
