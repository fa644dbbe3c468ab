import Chip8.Cpu.Build
import Chip8.Scheduler

/-!
# The player

A machine that a person plays: it runs or is paused, it can be reset while it
does either, and its keys are pressed by hand.

The machine runs while it is subscribed to the player's scheduler.  Pausing ends
the subscription and starting makes a new one, so a machine never has two.  When
a tick fails the subscription is gone with it, and the player keeps the fault
until it is started again.  Starting again goes on from where the machine
stopped.

A terminal tells of a key going down and hardly ever of one going up.  So a
pressed key is held for a fixed time after its last press, and let up when the
player next looks at the clock.
-/

namespace Chip8

/-- What the player's callbacks work on. -/
structure Player.World where
  /-- The machine. -/
  cpu : Cpu FrameBuffer
  /-- The fault that stopped the machine last. -/
  failure : Option Fault := none

/-- What the player last had to tell. -/
inductive Player.Status where
  /-- It has just been opened. -/
  | welcome
  /-- It was paused. -/
  | paused
  /-- It was started. -/
  | running
  /-- The machine was reset. -/
  | reset
  /-- The machine could not be reset. -/
  | resetFailed (f : Fault)
  /-- A tick failed. -/
  | stopped (f : Fault)
deriving DecidableEq, Repr

/-- A machine that a person plays. -/
structure Player where
  /-- The scheduler with its clock, and the machine. -/
  session : Session Player.World
  /-- The subscription of the running machine. -/
  subscription : Option Nat
  /-- Instructions in a tick. -/
  batch : Nat
  /-- When each held key is let up. -/
  holds : Vector (Option Nat) 16
  /-- The title over the display. -/
  title : String
  /-- Whether the player is about to close. -/
  quitting : Bool
  /-- What it last had to tell. -/
  status : Player.Status

namespace Player

/-- The text of what the player had to tell. -/
def Status.text : Status → String
  | welcome => "Paused. Press space to run, Esc to quit."
  | paused => "Paused."
  | running => "Running."
  | reset => "Reset."
  | resetFailed f => "Reset failed: " ++ f.message
  | stopped f => "Stopped: " ++ f.message

/-- How long a key is held after a press. -/
def holdTime : Nat := 150 * Duration.millisecond

/-- The longest the player waits between two looks at the machine. -/
def frameTime : Nat := 16 * Duration.millisecond

/-- A paused player of a program, and the events of building it. -/
def new? (program : List UInt8) (config : Config) (title : String) (seed : UInt64) :
    Except Stop (Player × List Event) := do
  let (cpu, events) ← Cpu.ofConfig? program config seed
  let batch ← config.batchSize?
  let session : Session World := ⟨{ interval := config.tickInterval }, 0, { cpu }⟩
  return (⟨session, none, batch, .replicate 16 none, title, false, .welcome⟩, events)

/-- What is opened over a built machine, where its batch has a size. -/
theorem new?_eq_ok_iff {program : List UInt8} {config : Config} {title : String} {seed : UInt64}
    {opened : Player × List Event} :
    new? program config title seed = .ok opened ↔
      ∃ cpu events batch, Cpu.ofConfig? program config seed = .ok (cpu, events) ∧
        config.batchSize? = .ok batch ∧
        (⟨⟨{ interval := config.tickInterval }, 0, { cpu }⟩, none, batch, .replicate 16 none, title,
          false, .welcome⟩, events) = opened := by
  simp only [new?, Stop.bind_eq_ok_iff, Prod.exists, exists_and_left, pure, Except.pure,
    Except.ok.injEq]

/-- The machine. -/
def cpu (p : Player) : Cpu FrameBuffer := p.session.world.cpu

/-- The fault that stopped the machine last. -/
def failure (p : Player) : Option Fault := p.session.world.failure

/-- Whether the machine is running. -/
def isRunning (p : Player) : Bool := p.subscription.isSome

/-- The player with its machine replaced. -/
def withCpu (p : Player) (cpu : Cpu FrameBuffer) : Player := { p with session.world.cpu := cpu }

/-! ## Running -/

/-- A batch of the machine. -/
def runMachine (batch : Nat) (w : World) : TickReaction World :=
  .ofOutcome (w.cpu.runBatch batch) fun cpu => { w with cpu }

/-- The fault that stopped the machine is kept. -/
def keepFault (f : Fault) (w : World) : Reaction World := { world := { w with failure := some f } }

/-- Pause a running machine, start a paused one. -/
def toggle (p : Player) : Player × List Event :=
  match p.subscription with
  | some id =>
      let scheduler := p.session.scheduler.unsubscribe id
      ({ p with session.scheduler := scheduler, subscription := none, status := .paused }, [])
  | none =>
      let id := p.session.scheduler.nextId
      let (scheduler, events) :=
        p.session.scheduler.subscribe p.session.now (runMachine p.batch) keepFault
      ({ p with
        session.scheduler := scheduler
        session.world.failure := none
        subscription := some id
        status := .running }, events)

/-- Reset the machine, whether or not it runs. -/
def reset (p : Player) : Player × List Event :=
  let o := p.cpu.reset
  let p := p.withCpu o.state
  match o.result with
  | .error (.fault f) => ({ p with status := .resetFailed f }, o.events)
  | _ => ({ p with status := .reset }, o.events)

/-- Fire a tick if one is due.  The answer is whether the bell rang since the last time. -/
def update (p : Player) : Bool × Player × List Event :=
  let polled := p.session.poll
  let p := { p with session := polled.session }
  let p := match polled.tick with
    | .failed f => { p with subscription := none, status := .stopped f }
    | _ => p
  let (rang, bell) := p.cpu.bell.take
  (rang, p.withCpu { p.cpu with bell }, polled.events)

/-- How long to wait for a key before the next look at the machine. -/
def waitTime (p : Player) : Nat :=
  match p.session.scheduler.nextDeadline p.session.now with
  | none => frameTime
  | some left => min left frameTime

/-! ## Keys -/

/-- Put a key down until it has not been pressed again for the hold time. -/
def press (p : Player) (key : UInt8) (now : Nat) : Player :=
  let pressed := p.cpu.keypad.press key
  let p := p.withCpu { p.cpu with keypad := pressed.state }
  match pressed.result with
  | .error _ => p
  | .ok () => { p with holds := p.holds.setIfInBounds key.toNat (some (now + holdTime)) }

/-- Whether a hold is over. -/
def holdIsOver (now : Nat) : Option Nat → Bool
  | none => false
  | some deadline => deadline ≤ now

/-- Let up every key whose hold is over. -/
def releaseExpired (p : Player) (now : Nat) : Player :=
  let expired := p.holds.map (holdIsOver now)
  let keypad : Keypad :=
    ⟨Vector.zipWith (fun down expired => down && !expired) p.cpu.keypad.down expired⟩
  { p.withCpu { p.cpu with keypad } with
    holds := p.holds.map fun hold => if holdIsOver now hold then none else hold }

/-! ## Histories -/

/-- Something that happens to a player. -/
inductive Input where
  /-- The machine is paused or started. -/
  | toggle
  /-- The machine is reset. -/
  | reset
  /-- A key is pressed. -/
  | press (key : UInt8) (now : Nat)
  /-- Held keys are looked at. -/
  | releaseExpired (now : Nat)
  /-- The scheduler is polled. -/
  | update
  /-- Time passes. -/
  | advance (time : Nat)
deriving DecidableEq, Repr

/-- The player after something happened, and the events of it. -/
def handle (p : Player) : Input → Player × List Event
  | .toggle => p.toggle
  | .reset => p.reset
  | .press key now => (p.press key now, [])
  | .releaseExpired now => (p.releaseExpired now, [])
  | .update => p.update.2
  | .advance time => ({ p with session := p.session.advance time }, [])

/-- The player after a list of inputs. -/
def handleAll (p : Player) (inputs : List Input) : Player :=
  inputs.foldl (fun p input => (p.handle input).1) p

@[simp] theorem handleAll_nil (p : Player) : p.handleAll [] = p := rfl

@[simp] theorem handleAll_cons (p : Player) (input : Input) (inputs : List Input) :
    p.handleAll (input :: inputs) = (p.handle input).1.handleAll inputs := rfl

end Player

end Chip8
