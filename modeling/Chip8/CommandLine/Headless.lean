import Chip8.CommandLine.Report
import Chip8.Cpu.Build
import Chip8.Opcode.Json
import Chip8.Scheduler

/-!
# Headless runs

A machine that runs without anyone to watch it, for a number of ticks.  It is the
only subscriber of its schedule, and the clock moves from deadline to deadline.
What is left of it is a report: the instructions it ran, if they are wanted, its
display, and its registers.

A run ends early when a tick fails.  The report then tells the fault as well.  When
the machine breaks off there is nothing to show but the instructions.
-/

namespace Chip8.CommandLine

/-- A run and how far it got. -/
structure Headless where
  /-- The machine on its schedule. -/
  session : Session (Cpu FrameBuffer)
  /-- What happened, the latest first. -/
  seen : List Event := []
  /-- How it stopped before its time, if it did. -/
  stop : Option Stop := none

namespace Headless

/-- A batch of the machine. -/
def runMachine (batch : Nat) (c : Cpu FrameBuffer) : TickReaction (Cpu FrameBuffer) :=
  .ofOutcome (c.runBatch batch) id

/-- A machine at the start of its run. -/
def start (c : Cpu FrameBuffer) (interval batch : Nat) : Headless :=
  let schedule : Scheduler (Cpu FrameBuffer) := { interval }
  let (scheduler, events) := schedule.subscribe 0 (runMachine batch) fun _ c => { world := c }
  { session := ⟨scheduler, 0, c⟩, seen := events.reverse }

/-- The run of a program at its start. -/
def ofConfig? (program : List UInt8) (config : Config) (seed : UInt64) : Except Stop Headless := do
  let (cpu, _) ← Cpu.ofConfig? program config seed
  let batch ← config.batchSize?
  return start cpu config.tickInterval batch

/-- The machine. -/
def cpu (h : Headless) : Cpu FrameBuffer := h.session.world

/-- A run for some more ticks. -/
def run (h : Headless) : (ticks : Nat) → Headless
  | 0 => h
  | ticks + 1 =>
      let wait := (h.session.scheduler.nextDeadline h.session.now).getD 0
      let polled := (h.session.advance wait).poll
      let h := { h with session := polled.session, seen := polled.events.reverse ++ h.seen }
      match polled.tick with
      | .ticked => h.run ticks
      | .failed f => { h with stop := some (.fault f) }
      | .crashed => { h with stop := some .crash }
      | .idle | .pending _ => h

/-! ## The report -/

/-- The instructions of a run, a line for each. -/
def traceLines (h : Headless) : List String :=
  (h.seen.reverse.filterMap Event.trace?).map fun (pc, i) => (Instruction.traceJson pc i).compact

/-- The name and the value of a register. -/
def registerText (x : Nat) (value : UInt8) : String :=
  "V" ++ Numeral.hex 1 x ++ "=" ++ Numeral.hex 2 value.toNat

/-- The lines on the counts and the registers. -/
def resultLines (h : Headless) : List String :=
  let r := h.cpu.store.registers
  ["━━━ Result ━━━",
    "Ticks:  " ++ toString h.session.scheduler.ticks,
    "Cycles: " ++ toString h.cpu.cycles,
    "Beeps:  " ++ toString h.cpu.bell.count,
    "PC: " ++ Numeral.hex 3 r.pc.toNat ++ "  I: " ++ Numeral.hex 3 r.i.toNat
      ++ "  DT: " ++ toString r.delay.toNat ++ "  ST: " ++ toString r.sound.toNat
      ++ "  SP: " ++ toString r.stack.depth.val,
    " ".intercalate (r.v.toList.zipIdx.map fun (value, x) => registerText x value)]

/-- The display and the lines below it. -/
def resultText (h : Headless) : String :=
  h.cpu.display.toText '█' '·' ++ unlines ("" :: h.resultLines)

/-- The report of a run. -/
def report (h : Headless) (trace : Bool) : Report :=
  let traced := if trace then unlines h.traceLines else ""
  match h.stop with
  | none => { stdout := traced ++ h.resultText }
  | some (.fault f) =>
      { Report.ofFailure (.stopped h.cpu.store.registers.pc f) with
        stdout := traced ++ h.resultText ++ "\n" }
  | some .crash => { Report.crashed with stdout := traced }

end Headless

end Chip8.CommandLine
