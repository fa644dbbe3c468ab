import Chip8.Scheduler

/-!
# Driving a session

A session is driven by moving its clock and by polling it, in any order and any
number of times.  `Session.Driven` relates a session to the sessions it can be
driven to, with the answers of the polls on the way.  Once nobody is left and nothing
is scheduled, a session is at rest and stays so (`Driven.rest`).
-/

namespace Chip8

/-- Whether a poll called the subscribers. -/
def Tick.fired : Tick → Bool
  | .ticked | .failed _ | .crashed => true
  | .idle | .pending _ => false

/-- Whether a poll called the subscribers and not all of them were done. -/
def Tick.broke : Tick → Bool
  | .failed _ | .crashed => true
  | .idle | .pending _ | .ticked => false

namespace Session

variable {ω : Type} {s x y : Session ω}

/-! ## Driving -/

/-- The sessions that a session can be driven to, with the answers of the polls. -/
inductive Driven (s : Session ω) : List Tick → Session ω → Prop where
  | start : Driven s [] s
  | advance {ticks : List Tick} {x : Session ω} (driven : Driven s ticks x) (time : Nat) :
      Driven s ticks (x.advance time)
  | poll {ticks : List Tick} {x : Session ω} (driven : Driven s ticks x) :
      Driven s (ticks ++ [x.poll.tick]) x.poll.session

/-- A tick is scheduled for now or earlier. -/
def Due (s : Session ω) : Prop := ∃ deadline, s.scheduler.expected = some deadline ∧ deadline ≤ s.now

/-- Nobody is subscribed and nothing is scheduled. -/
structure AtRest (s : Session ω) : Prop where
  subscribers : s.scheduler.subscribers = []
  expected : s.scheduler.expected = none

/-- Driving a session at rest has no effect but on its clock. -/
theorem Driven.rest {ticks : List Tick} (driven : Driven s ticks x) (rest : s.AtRest) :
    (∀ tick ∈ ticks, tick = .idle) ∧ x.scheduler = s.scheduler ∧ x.world = s.world := by
  induction driven with
  | start => exact ⟨List.forall_mem_nil _, rfl, rfl⟩
  | advance driven time ih => exact ih
  | @poll ticks x driven ih =>
      obtain ⟨idle, scheduler, world⟩ := ih
      have halted : x.scheduler.expected = none := by
        rw [scheduler]
        exact rest.expected
      rw [poll_of_halted halted]
      refine ⟨?_, scheduler, world⟩
      intro tick membership
      rcases List.mem_append.mp membership with old | new
      · exact idle tick old
      · exact List.mem_singleton.mp new

theorem poll_of_not_due (running : s.scheduler.expected.isSome) (early : ¬ s.Due) :
    ∃ wait, s.poll = ⟨.pending wait, s, []⟩ := by
  obtain ⟨deadline, expected⟩ := Option.isSome_iff_exists.mp running
  have before : s.now < deadline := by
    apply Nat.lt_of_not_le
    intro le
    exact early ⟨deadline, expected, le⟩
  exact ⟨_, poll_of_early expected before⟩

end Session

end Chip8
