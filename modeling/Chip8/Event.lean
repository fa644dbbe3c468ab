import Chip8.Attempt
import Chip8.Opcode
import Chip8.Text.Duration

/-!
# Events

What an observer can watch while the machine and its scheduler work, apart from
the answers.  Operations return the events they caused in the order they
happened.  Two observers read them: the trace takes every instruction that was
fetched (`Event.trace?`), and the log takes everything else as lines of text
(`Event.logLine?`).  No event is in both (`logLine?_eq_none_of_trace?`).
-/

namespace Chip8

/-- Something an observer can watch. -/
inductive Event where
  /-- A store was reset to a program of this many bytes. -/
  | storeReset (programBytes : Nat)
  /-- An instruction was fetched from an address. -/
  | fetched (pc : UInt16) (instruction : Instruction)
  /-- A fetched instruction was decoded. -/
  | decoded (pc : UInt16) (opcode : Opcode)
  /-- The first subscriber started the schedule. -/
  | scheduleStarted (interval : Nat)
  /-- A tick was more than one interval late, and the schedule starts again from now. -/
  | scheduleStalled (drift : Nat)
  /-- A tick failed and this many subscribers are about to be told and dropped. -/
  | tickFailed (fault : Fault) (subscribers : Nat)
  /-- The schedule halted after this many successful ticks. -/
  | scheduleStopped (ticks : Nat)
deriving DecidableEq, Repr

namespace Event

/-- What the trace takes. -/
def trace? : Event → Option (UInt16 × Instruction)
  | fetched pc i => some (pc, i)
  | _ => none

/-- The line the log takes, with its level in front. -/
def logLine? : Event → Option String
  | storeReset n => some ("DEBUG state reset with " ++ toString n ++ " program bytes")
  | fetched _ _ => none
  | decoded pc op => some ("TRACE " ++ Numeral.hex 3 pc.toNat ++ ": " ++ op.mnemonic)
  | scheduleStarted d => some ("DEBUG scheduler started, interval " ++ Duration.text d)
  | scheduleStalled d =>
      some ("WARN scheduler stalled for " ++ Duration.text d ++ ", resynchronising")
  | tickFailed f n =>
      some ("ERROR tick failed: " ++ f.message ++ "; dropping " ++ toString n ++ " subscribers")
  | scheduleStopped n => some ("DEBUG scheduler stopped after " ++ toString n ++ " ticks")

theorem logLine?_eq_none_of_trace? {e : Event} {r : UInt16 × Instruction}
    (h : e.trace? = some r) : e.logLine? = none := by
  cases e <;> simp [trace?, logLine?] at h ⊢

end Event

/-- An attempt together with the events it caused. -/
structure Outcome (σ α : Type) extends Attempt Stop σ α where
  /-- The events, first to last. -/
  events : List Event := []

end Chip8
