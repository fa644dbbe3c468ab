import Chip8.Cpu
import Chip8.Opcode.Encoding
import Chip8.Store.Effect

/-!
# Running instructions

One step is one cycle of the machine.

1. The instruction at PC is fetched.
2. It is decoded.  An unassigned pattern fails here and changes nothing.
3. An opcode that can fall through needs a place for the instruction after it.
4. The timers tick.
5. The opcode is executed, and PC moves to the next instruction, past it, or to
   the target.

Every part hands on the machine as it left it, whether it failed or not, and a
failure ends the step there.  An execution checks what it needs before it writes.
So a failure in step 5 comes to the machine as it was but for the tick of the
timers, which is for `Chip8.Proofs.Cpu.Execution` to show.  The one exception is a
display that fails in the middle of a sprite, which keeps the pixels already
drawn.

A batch is a number of steps and ends at the first that fails (`Cpu.runBatch`).
-/

namespace Chip8

namespace Cpu

variable {δ : Type}

/-! ## Executing -/

/-- What an effect on the store leaves of the machine. -/
def withStore {α : Type} (c : Cpu δ) (a : Attempt Fault Store α) : Attempt Stop (Cpu δ) α :=
  ⟨Stop.ofFault a.result, { c with store := a.state }⟩

/-- What an effect on the store leaves that goes on to the next instruction. -/
def thenNext (c : Cpu δ) (a : Attempt Fault Store Unit) : Attempt Stop (Cpu δ) Flow :=
  c.withStore (a.map fun () => .next)

/-- What a look at the machine leaves that tells where to go. -/
def going (c : Cpu δ) (flow : Except Fault Flow) : Attempt Stop (Cpu δ) Flow :=
  ⟨Stop.ofFault flow, c⟩

/-- What a look at the machine leaves that skips the next instruction on a condition. -/
def skipping (c : Cpu δ) (condition : Except Fault Bool) : Attempt Stop (Cpu δ) Flow :=
  c.going (condition.map .skipWhen)

/-- The register a shift works on. -/
def shifted (c : Cpu δ) (x y : UInt8) : UInt8 :=
  match c.dialect.shift with
  | .vy => y
  | .vx => x

/-- The dots of a sprite of some rows from I at the position (Vx, Vy).  The bytes are taken from
memory before the plane is looked at, and a plane without pixels has no place for them. -/
def spriteDots [Display δ] (c : Cpu δ) (x y rows : UInt8) : Except Stop (List Display.Dot) :=
  match Stop.ofFault (c.store.getV x), Stop.ofFault (c.store.getV y) with
  | .error e, _ | _, .error e => .error e
  | .ok left, .ok top =>
      match c.store.memory.slice c.store.registers.i.toNat rows.toNat with
      | .error e => .error e
      | .ok bytes =>
          let width := Display.width c.display
          let height := Display.height c.display
          if width = 0 ∨ height = 0 then .error (.fault (.addressOutOfRange 0))
          else .ok (Display.dots width height left.toNat top.toNat bytes)

/-- Draw a sprite, then set VF to whether it collided. -/
def draw [Display δ] (c : Cpu δ) (x y rows : UInt8) : Attempt Stop (Cpu δ) Flow :=
  match c.spriteDots x y rows with
  | .error e => ⟨.error e, c⟩
  | .ok dots =>
      let drawn := Display.blit c.dialect.collision c.display false dots
      let c := { c with display := drawn.state }
      match drawn.result with
      | .error f => ⟨.error (.fault f), c⟩
      | .ok hit => c.thenNext (c.store.setV Registers.flag (Store.flagValue hit))

/-- Take a random byte, and put it under a mask into Vx. -/
def drawRandom (c : Cpu δ) (x mask : UInt8) : Attempt Stop (Cpu δ) Flow :=
  let (byte, random) := c.random.next
  { c with random }.thenNext (c.store.setV x (byte &&& mask).toUInt16)

/-- Execute a decoded instruction, except for moving PC on.  Each arm hands on the store that its
effect left, after a failure as after a success. -/
def execute [Display δ] (c : Cpu δ) (op : Opcode) : Attempt Stop (Cpu δ) Flow :=
  let s := c.store
  match op with
  | .ret => c.withStore s.returnFromCall
  | .jump target => c.going ((CodeAddress.check target.toNat).map .jump)
  | .call target => c.withStore (s.callTo target)
  | .skipIfByte x byte => c.skipping ((s.getV x).map (· == byte))
  | .skipUnlessByte x byte => c.skipping ((s.getV x).map (· != byte))
  | .skipIfSame x y => c.skipping (do return (← s.getV x) == (← s.getV y))
  | .loadByte x byte => c.thenNext (s.setV x byte.toUInt16)
  | .addByte x byte => c.thenNext (s.addV x byte.toUInt16)
  | .move x y => c.thenNext (s.move x y)
  | .conjoin x y => c.thenNext (s.conjoin x y)
  | .add x y => c.thenNext (s.addRegisters x y)
  | .subtract x y => c.thenNext (s.subtract x y)
  | .shiftRight x y => c.thenNext (s.shiftRight (c.shifted x y))
  | .shiftLeft x y => c.thenNext (s.shiftLeft (c.shifted x y))
  | .loadIndex address => c.thenNext ⟨.ok (), s.setI address⟩
  | .addIndex x => c.thenNext (s.addIndex x)
  | .loadGlyph x => c.thenNext (s.loadGlyph x)
  | .random x mask => c.drawRandom x mask
  | .draw x y rows => c.draw x y rows
  | .skipIfKeyUp x => c.skipping (do return !(← c.keypad.isPressed (← s.getV x)))
  | .readDelay x => c.thenNext (s.readDelay x)
  | .setDelay x => c.thenNext (s.startDelay x)
  | .setSound x => c.thenNext (s.startSound x)
  | .storeDigits x => c.thenNext (s.storeDigits c.dialect.digits x)
  | .saveRegisters x => c.thenNext (s.saveRegisters x)
  | .loadRegisters x => c.thenNext (s.loadRegisters x)

/-- Execute a decoded instruction and move PC on. -/
def executeAndMove [Display δ] (c : Cpu δ) (op : Opcode) : Attempt Stop (Cpu δ) Unit :=
  (c.execute op).andThen fun flow c => c.withStore (c.store.follow flow)

/-! ## The timers -/

/-- Count the delay timer down. -/
def tickDelay (c : Cpu δ) : Attempt Stop (Cpu δ) Unit :=
  if c.store.registers.delay = 0 then ⟨.ok (), c⟩
  else c.withStore (c.store.setDelay (c.store.registers.delay - 1))

/-- Ring the bell and count the sound timer down, while it runs. -/
def tickSound (c : Cpu δ) : Attempt Stop (Cpu δ) Unit :=
  if c.store.registers.sound = 0 then ⟨.ok (), c⟩
  else
    let c := { c with bell := c.bell.ring }
    c.withStore (c.store.setSound (c.store.registers.sound - 1))

/-- Count both timers down.  They are set through the bound, which is in the way of no value that
comes of counting down. -/
def tick (c : Cpu δ) : Attempt Stop (Cpu δ) Unit :=
  c.tickDelay.andThen fun () c => c.tickSound

/-! ## Steps -/

/-- The fault of an opcode at an address with no place for the instruction after it, if it needs
one. -/
def checkFallThrough (pc : UInt16) (op : Opcode) : Except Fault Unit :=
  if op.branches then .ok () else (CodeAddress.check (pc.toNat + 2)).map fun _ => ()

/-- Run a decoded instruction: the checks before it, the tick of the timers, and the execution. -/
def runDecoded [Display δ] (c : Cpu δ) (i : Instruction) (op : Opcode) :
    Attempt Stop (Cpu δ) Opcode :=
  match checkFallThrough c.store.registers.pc op with
  | .error f => ⟨.error (.fault f), c⟩
  | .ok () =>
      c.tick.andThen fun () c =>
        (c.executeAndMove op).andThen fun () c =>
          ⟨.ok op, { c with cycles := c.cycles + 1, last := some i }⟩

/-- Run the instruction at PC. -/
def step [Display δ] (c : Cpu δ) : Outcome (Cpu δ) Opcode :=
  let pc := c.store.registers.pc
  match c.store.instruction with
  | .error f => ⟨⟨.error (.fault f), c⟩, []⟩
  | .ok i =>
      match i.decode? with
      | none => ⟨⟨.error (.fault (.unassigned i c.last)), c⟩, [.fetched pc i]⟩
      | some op => ⟨c.runDecoded i op, [.fetched pc i, .decoded pc op]⟩

/-! ## Batches -/

/-- Run some steps, up to the first that fails.  `seen` holds the events before them, last
first. -/
def stepsFrom [Display δ] (c : Cpu δ) (seen : List Event) : Nat → Outcome (Cpu δ) Unit
  | 0 => ⟨⟨.ok (), c⟩, seen.reverse⟩
  | count + 1 =>
      let stepped := c.step
      let seen := stepped.events.reverse ++ seen
      match stepped.result with
      | .error e => ⟨⟨.error e, stepped.state⟩, seen.reverse⟩
      | .ok _ => stepsFrom stepped.state seen count

/-- Run a number of steps, up to the first that fails. -/
def steps [Display δ] (c : Cpu δ) (count : Nat) : Outcome (Cpu δ) Unit := c.stepsFrom [] count

/-- Run a batch of steps.  The answer is how many instructions it ran. -/
def runBatch [Display δ] (c : Cpu δ) (count : Nat) : Outcome (Cpu δ) Nat :=
  let ran := c.steps count
  { ran with result := ran.result.map fun () => ran.state.cycles - c.cycles }

/-! ## Laws of batches -/

theorem stepsFrom_eq [Display δ] (c : Cpu δ) (seen : List Event) (count : Nat) :
    c.stepsFrom seen count =
      { c.steps count with events := seen.reverse ++ (c.steps count).events } := by
  induction count generalizing c seen with
  | zero => simp [steps, stepsFrom]
  | succ n ih =>
    simp only [steps, stepsFrom]
    cases hr : c.step.result with
    | error e => simp
    | ok op =>
      simp only
      rw [ih, ih _ (c.step.events.reverse ++ [])]
      simp

theorem steps_zero [Display δ] (c : Cpu δ) : c.steps 0 = ⟨⟨.ok (), c⟩, []⟩ := rfl

theorem steps_succ_of_ok [Display δ] {c : Cpu δ} {op : Opcode} (h : c.step.result = .ok op)
    (count : Nat) :
    c.steps (count + 1) =
      { c.step.state.steps count with
        events := c.step.events ++ (c.step.state.steps count).events } := by
  rw [steps, stepsFrom]
  simp only [h]
  rw [stepsFrom_eq]
  simp

theorem steps_succ_of_error [Display δ] {c : Cpu δ} {e : Stop} (h : c.step.result = .error e)
    (count : Nat) :
    c.steps (count + 1) = ⟨⟨.error e, c.step.state⟩, c.step.events⟩ := by
  rw [steps, stepsFrom]
  simp only [h]
  simp

end Cpu

end Chip8
