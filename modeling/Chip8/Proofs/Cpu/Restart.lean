import Chip8.Proofs.Cpu.Ringing
import Chip8.Proofs.Cpu.Soundness
import Chip8.Proofs.Store.Reset

/-!
# Restarting a machine

A reset makes a machine over a frame buffer new.  Its store is the one of the program
accepted last, its plane is dark, and nothing has run.  What is outside stays: the
keys, the bell, the dialect and the random source.

`RestartsFrom` says so field by field, and then for everything that may follow: a
machine built over that store with the same dialect, keys and random source
(`rebuilt`) answers every later request alike and comes to the same machines, but for
what the bell had rung before.  `reset_starts_afresh` proves it in every state of
every history.
-/

namespace Chip8.Cpu

variable {δ : Type}

/-! ## The program of a machine -/

variable [Display δ] {c : Cpu δ}

theorem Stepped.program {a : Attempt Stop (Cpu δ) Opcode} (h : Stepped c a) :
    a.state.store.program = c.store.program := by
  cases h with
  | unfetched => rfl
  | unassigned => rfl
  | unplaced => rfl
  | failed _ execution => exact execution.keeps.program
  | ran _ execution _ => exact execution.keeps.program

theorem program_reset (c : Cpu δ) : c.reset.state.store.program = c.store.program := by
  rw [store_reset]
  rfl

theorem program_perform (c : Cpu δ) (r : Request) :
    (c.perform r).state.store.program = c.store.program := by
  cases r with
  | step => exact (stepped c).program
  | batch count =>
      exact steps_induction (P := fun c' => c'.store.program = c.store.program)
        (fun c' kept => (stepped c').program.trans kept) rfl count
  | press key => rfl
  | release key => rfl
  | releaseAll => rfl
  | setDialect dialect => rfl
  | setPixel offset value => rfl
  | reset => exact program_reset c

/-- No request replaces the program, whatever it writes to memory. -/
theorem program_performAll (c : Cpu δ) (requests : List Request) :
    (c.performAll requests).store.program = c.store.program :=
  performAll_induction (P := fun c' => c'.store.program = c.store.program)
    (fun c' r kept => (program_perform c' r).trans kept) rfl requests

/-! ## Building a machine again -/

/-- A machine built over a store and a dark plane of the same size, with the dialect, the keys and
the random source that a machine has. -/
def rebuilt (c : Cpu FrameBuffer) (fresh : Store) (seed : UInt64) : Cpu FrameBuffer :=
  { (Cpu.new fresh (.blank c.display.width c.display.height) seed).setDialect c.dialect with
    keypad := c.keypad
    random := c.random }

/-- What follows a reset of a machine over a frame buffer of some size, and every request after
it. -/
structure RestartsFrom (c : Cpu FrameBuffer) (fresh : Store) (width height : Nat) : Prop where
  result : (c.perform .reset).result = .ok .done
  store : (c.perform .reset).state.store = fresh.setTimerBound c.store.timerBound
  display : (c.perform .reset).state.display = .blank width height
  cycles : (c.perform .reset).state.cycles = 0
  last : (c.perform .reset).state.last = none
  keypad : (c.perform .reset).state.keypad = c.keypad
  dialect : (c.perform .reset).state.dialect = c.dialect
  bell : (c.perform .reset).state.bell = c.bell
  random : (c.perform .reset).state.random = c.random
  /-- Later requests are answered as a new machine answers them. -/
  told : ∀ seed later,
    (c.perform .reset).state.transcript later = (c.rebuilt fresh seed).transcript later
  /-- They leave what they leave of a new machine, both bells having rung as often meanwhile. -/
  left : ∀ seed later, ∃ count,
    (c.perform .reset).state.performAll later =
        ((c.rebuilt fresh seed).performAll later).withBell (c.bell.rung count) ∧
      ((c.rebuilt fresh seed).performAll later).bell = ({} : Bell).rung count

/-- A reset is a new machine with the old bell. -/
theorem state_reset {c : Cpu FrameBuffer} {fresh : Store} (sound : c.Sound)
    (made : Store.ofProgram? c.store.program = .ok fresh) (seed : UInt64) :
    (c.perform .reset).state = (c.rebuilt fresh seed).withBell c.bell := by
  obtain ⟨-, rfl⟩ := Store.ofProgram?_eq_ok_iff.mp made
  have store : c.store.reset =
      ⟨.image c.store.program, .initial, c.store.program, c.dialect.timerBound⟩ := by
    rw [← sound.bound]
    rfl
  change Cpu.mk c.store.reset _ _ _ _ _ _ _ = _
  rw [store]
  rfl

theorem restartsFrom_of_program {c : Cpu FrameBuffer} {fresh : Store} (sound : c.Sound)
    (made : Store.ofProgram? c.store.program = .ok fresh) {width height : Nat}
    (hw : c.display.width = width) (hh : c.display.height = height) :
    c.RestartsFrom fresh width height := by
  constructor
  case store => exact (Store.resetsTo_of_program made).state
  case display => rw [← hw, ← hh]; rfl
  case told =>
    intro seed later
    obtain ⟨count, rings⟩ := rings_performAll (c.rebuilt fresh seed) later
    rw [state_reset sound made seed]
    exact (rings c.bell).1
  case left =>
    intro seed later
    obtain ⟨count, rings⟩ := rings_performAll (c.rebuilt fresh seed) later
    refine ⟨count, ?_, ?_⟩
    · rw [state_reset sound made seed]
      exact (rings c.bell).2
    · -- The new machine is itself with its own bell, which has not rung.
      exact congrArg Cpu.bell (rings {}).2
  all_goals rfl

/-- A reset starts afresh after every history: operations on the store of an accepted program, then
requests to a machine over that store and a frame buffer, whatever came of each.  It goes back to
the program accepted last. -/
theorem reset_starts_afresh {program : List UInt8} {loaded : Store}
    (accepted : Store.ofProgram? program = .ok loaded) (ops : List Store.Operation) :
    ∃ fresh, Store.ofProgram? (Store.lastLoaded program ops) = .ok fresh ∧
      fresh.memory.Fresh (Store.lastLoaded program ops) ∧
      (loaded.performAll ops).ResetsTo fresh ∧
      ∀ (display : FrameBuffer) (seed : UInt64) (requests : List Request),
        ((Cpu.new (loaded.performAll ops) display seed).performAll requests).RestartsFrom fresh
          display.width display.height := by
  have sound := (Store.Sound.ofProgram? accepted).performAll ops
  obtain ⟨fresh, made, memory⟩ := Store.ofProgram?_lastLoaded accepted ops
  have program := Store.program_of_history accepted ops
  refine ⟨fresh, made, memory, ?_, ?_⟩
  · exact Store.resetsTo_of_program (by rwa [program])
  · intro display seed requests
    have size := size_performAll (Cpu.new (loaded.performAll ops) display seed) requests
    refine restartsFrom_of_program ((Sound.new sound display seed).performAll requests) ?_ size.1
      size.2
    rw [program_performAll]
    exact program ▸ made

/-- A reset goes back neither to a program that was too large nor to one that was replaced. -/
theorem reset_after_rejected_load :
    let ops : List Store.Operation :=
      [.load [0x60, 0x07, 0xA2, 0x00], .writeByte 0x201 9, .load (.replicate 3585 0),
        .pushReturn (some 0x300), .popReturn]
    Store.lastLoaded [0x00, 0xEE] ops = [0x60, 0x07, 0xA2, 0x00] ∧
      ∃ fresh, Store.ofProgram? (Store.lastLoaded [0x00, 0xEE] ops) = .ok fresh ∧
        ((Cpu.new (Store.performAll ⟨.image [0x00, 0xEE], .initial, [0x00, 0xEE], .below255⟩ ops)
          (.blank 3 2) 0).performAll
            [.step, .press 4, .setDialect .canonical, .setPixel 5 1, .batch 9]).RestartsFrom
          fresh 3 2 := by
  intro ops
  have rejected : (Store.Operation.load (.replicate 3585 0)).accepted? = none := by
    rw [Store.Operation.accepted?, List.length_replicate]
    rfl
  have last : Store.lastLoaded [0x00, 0xEE] ops = [0x60, 0x07, 0xA2, 0x00] := by
    rw [Store.lastLoaded_cons, Store.lastLoaded_cons, Store.lastLoaded_cons, rejected]
    rfl
  have accepted : Store.ofProgram? [0x00, 0xEE] =
      .ok ⟨.image [0x00, 0xEE], .initial, [0x00, 0xEE], .below255⟩ := rfl
  obtain ⟨fresh, made, -, -, restarts⟩ := reset_starts_afresh accepted ops
  exact ⟨last, fresh, made, restarts (.blank 3 2) 0 _⟩

end Chip8.Cpu
