import Chip8.Proofs.Cpu.Soundness

/-!
# Attempts in a history

A history of a machine is a list of requests.  Steps are attempted in it one by one: a
batch attempts as many as it can, and the first that fails is its last.  `Cpu.attempts`
lists the machines that attempt a step, first to last, as each stands when its step
begins.

`Row` is what such a list comes to for a view of the machine that nothing but a step
changes: every attempt finds the view that the attempt before it left (`row_performAll`).
-/

namespace Chip8.Cpu

variable {δ : Type} [Display δ] {c d e : Cpu δ}

/-! ## The attempts of a history -/

/-- The machines that attempt the steps of a batch. -/
def tries (c : Cpu δ) : Nat → List (Cpu δ)
  | 0 => []
  | n + 1 =>
      c :: match c.step.result with
        | .error _ => []
        | .ok _ => c.step.state.tries n

/-- The machines that attempt a step while a request is carried out. -/
def attemptsOf (c : Cpu δ) : Request → List (Cpu δ)
  | .step => c.tries 1
  | .batch count => c.tries count
  | _ => []

/-- The machines that attempt a step in a history. -/
def attempts (c : Cpu δ) : List Request → List (Cpu δ)
  | [] => []
  | r :: rs => c.attemptsOf r ++ (c.perform r).state.attempts rs

theorem perform_step_state (c : Cpu δ) : (c.perform .step).state = c.step.state := rfl

theorem perform_reset_state (c : Cpu δ) : (c.perform .reset).state = c.reset.state := rfl

theorem tries_succ_of_ok {op : Opcode} (ok : c.step.result = .ok op) (n : Nat) :
    c.tries (n + 1) = c :: c.step.state.tries n := by
  rw [tries, ok]

theorem tries_succ_of_error {stop : Stop} (failed : c.step.result = .error stop) (n : Nat) :
    c.tries (n + 1) = [c] := by
  rw [tries, failed]

theorem tries_one (c : Cpu δ) : c.tries 1 = [c] := by
  rw [tries]
  split
  · rfl
  · rfl

/-- The only requests that attempt a step. -/
def Request.Steps : Request → Prop
  | .step | .batch _ => True
  | _ => False

/-- What a batch is seen to do is what its attempts are seen to do. -/
theorem events_steps (c : Cpu δ) (n : Nat) :
    (c.steps n).events = (c.tries n).flatMap fun m => m.step.events := by
  induction n generalizing c with
  | zero => rfl
  | succ n ih =>
      cases result : c.step.result with
      | error stop =>
          rw [steps_succ_of_error result, tries_succ_of_error result, List.flatMap_singleton]
      | ok op =>
          rw [steps_succ_of_ok result, tries_succ_of_ok result, List.flatMap_cons, ← ih]

/-- A property that every step keeps holds of every machine that attempts one in a batch. -/
theorem tries_induction {P : Cpu δ → Prop} (kept : ∀ c : Cpu δ, P c → P c.step.state) (start : P c)
    (n : Nat) : ∀ m ∈ c.tries n, P m := by
  induction n generalizing c with
  | zero => exact List.forall_mem_nil P
  | succ n ih =>
      intro m membership
      cases result : c.step.result with
      | error stop =>
          rw [tries_succ_of_error result, List.mem_singleton] at membership
          rwa [membership]
      | ok op =>
          rw [tries_succ_of_ok result] at membership
          cases membership with
          | head => exact start
          | tail _ later => exact ih (kept c start) m later

/-- A property that every request keeps holds of every machine that attempts a step. -/
theorem attempts_induction {P : Cpu δ → Prop} (kept : ∀ c r, P c → P (c.perform r).state)
    (start : P c) (requests : List Request) : ∀ m ∈ c.attempts requests, P m := by
  induction requests generalizing c with
  | nil => exact List.forall_mem_nil P
  | cons r requests ih =>
      intro m membership
      rw [attempts, List.mem_append] at membership
      cases membership with
      | inl now =>
          have tried := tries_induction (fun c => kept c .step) start
          cases r with
          | step => exact tried 1 m now
          | batch count => exact tried count m now
          | _ => cases now
      | inr later => exact ih (kept c r start) m later

/-! ## Rows -/

/-- Attempts one after the other, from one machine to another.  Between them a view of the machine
stays the same. -/
inductive Row {α : Type} (view : Cpu δ → α) : Cpu δ → List (Cpu δ) → Cpu δ → Prop where
  | none {c e : Cpu δ} (kept : view e = view c) : Row view c [] e
  | cons {c d e : Cpu δ} {later : List (Cpu δ)} (kept : view d = view c)
      (rest : Row view d.step.state later e) : Row view c (d :: later) e

section
variable {α : Type} {view : Cpu δ → α} {made later : List (Cpu δ)}

theorem Row.of_kept (kept : view d = view c) (row : Row view d made e) : Row view c made e := by
  cases row with
  | none same => exact .none (same.trans kept)
  | cons same rest => exact .cons (same.trans kept) rest

theorem Row.append (first : Row view c made d) (second : Row view d later e) :
    Row view c (made ++ later) e := by
  induction first with
  | none kept => exact second.of_kept kept
  | cons kept _ ih => exact .cons kept (ih second)

/-- The attempts before one of them end at it. -/
theorem Row.before {m : Cpu δ} (row : Row view c (made ++ m :: later) e) :
    Row view c made m := by
  induction made generalizing c with
  | nil =>
      cases row with
      | cons kept _ => exact .none kept
  | cons first made ih =>
      cases row with
      | cons kept rest => exact .cons kept (ih rest)

theorem row_steps (c : Cpu δ) (n : Nat) : Row view c (c.tries n) (c.steps n).state := by
  induction n generalizing c with
  | zero => exact .none rfl
  | succ n ih =>
      cases result : c.step.result with
      | error stop =>
          rw [steps_succ_of_error result, tries_succ_of_error result]
          exact .cons rfl (.none rfl)
      | ok op =>
          rw [steps_succ_of_ok result, tries_succ_of_ok result]
          exact .cons rfl (ih c.step.state)

variable (quiet : ∀ (c : Cpu δ) (r : Request), ¬ r.Steps → view (c.perform r).state = view c)

include quiet in
theorem row_perform (c : Cpu δ) (r : Request) :
    Row view c (c.attemptsOf r) (c.perform r).state := by
  cases r with
  | step =>
      rw [attemptsOf, tries_one]
      exact .cons rfl (.none rfl)
  | batch count => exact row_steps c count
  | _ => exact .none (quiet c _ id)

include quiet in
/-- A history is a row for every view that only steps change. -/
theorem row_performAll (c : Cpu δ) (requests : List Request) :
    Row view c (c.attempts requests) (c.performAll requests) := by
  induction requests generalizing c with
  | nil => exact .none rfl
  | cons r requests ih => exact (row_perform quiet c r).append (ih (c.perform r).state)

end

end Chip8.Cpu
