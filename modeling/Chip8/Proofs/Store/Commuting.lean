import Chip8.Proofs.Store.Effects

/-!
# Effects beside a change

A store can be changed in a part that an effect has nothing to do with, such as the
slots of the return stack or the bound on timer values.  Then the effect comes to the
same with the change as without it, and the stores that it leaves differ by the change
(`Effect.Commutes`).

An effect commutes with a change when its parts do, whatever comes of them.  So there is
one rule for each way to put effects together.  The rules hold however far the effect got
before it failed.

`Store.Apart` are the changes that have nothing to do with PC, and every move of PC
commutes with them.  `Store.Aside` are those that leave alone whatever an instruction
names, the return stack and the timers apart.
-/

namespace Chip8

namespace Effect

variable {σ α β : Type} {f : σ → σ}

/-- The effect comes to the same after the change, and leaves the same but for it. -/
def Commutes (e : Effect σ α) (f : σ → σ) : Prop := ∀ s, e (f s) = (e s).mapState f

namespace Commutes

theorem seq {first : Effect σ α} {next : α → Effect σ β} (before : first.Commutes f)
    (later : ∀ a, (next a).Commutes f) : Commutes (first >>= next) f := by
  intro s
  have changed := before s
  cases done : first s with
  | mk result t =>
      rw [done] at changed
      cases result with
      | error fault =>
          rw [Effect.bind_of_error done, Effect.bind_of_error changed]
          rfl
      | ok a =>
          rw [Effect.bind_of_ok done, Effect.bind_of_ok changed]
          exact later a t

/-- A look that finds the same after the change. -/
theorem reading {query : Query σ α} (same : ∀ s, query (f s) = query s) {next : α → Effect σ β}
    (later : ∀ a, (next a).Commutes f) : Commutes (liftM query >>= next) f :=
  seq (fun s => congrArg (Attempt.mk · (f s)) (same s)) later

/-- A check that does not depend on the state. -/
theorem checking {e : Except Fault α} {next : α → Effect σ β}
    (later : ∀ a, (next a).Commutes f) : Commutes (liftM e >>= next) f :=
  seq (fun _ => rfl) later

theorem forM {body : α → Effect σ Unit} (each : ∀ a, (body a).Commutes f) (items : List α) :
    Commutes (items.forM body) f := by
  induction items with
  | nil => exact fun _ => rfl
  | cons a items ih => exact seq (each a) fun _ => ih

end Commutes

end Effect

namespace Store

variable {f : Store → Store}

/-! ## Moves of PC -/

/-- A change that leaves PC alone and does not look at it. -/
structure Apart (f : Store → Store) : Prop where
  pc : ∀ s, (f s).registers.pc = s.registers.pc
  withPc : ∀ s pc, f (s.withPc pc) = (f s).withPc pc

theorem Apart.jump (apart : Apart f) (target : Int) : (jump target).Commutes f := by
  intro s
  rw [jump_eq, jump_eq]
  cases CodeAddress.check target with
  | error fault => rfl
  | ok pc => exact congrArg (Attempt.mk _) (apart.withPc s pc).symm

theorem Apart.advance (apart : Apart f) (distance : Int) : (advance distance).Commutes f := by
  intro s
  rw [Store.advance, Store.advance, apart.pc]
  exact apart.jump _ s

theorem Apart.follow (apart : Apart f) (flow : Flow) : (follow flow).Commutes f := by
  cases flow with
  | next => exact apart.advance 2
  | skip => exact apart.advance 4
  | jump target => exact apart.jump _

/-! ## What instructions name -/

/-- A change that leaves memory, the V registers, I, PC and the delay timer alone, and commutes
with the writes to the first four. -/
structure Aside (f : Store → Store) : Prop extends Apart f where
  memory : ∀ s, (f s).memory = s.memory
  v : ∀ s, (f s).registers.v = s.registers.v
  i : ∀ s, (f s).registers.i = s.registers.i
  delay : ∀ s, (f s).registers.delay = s.registers.delay
  put : ∀ s x byte, f (s.put x byte) = (f s).put x byte
  putByte : ∀ s a byte, f (s.putByte a byte) = (f s).putByte a byte
  setI : ∀ s word, f (s.setI word) = (f s).setI word

namespace Aside

variable (aside : Aside f) (x y : UInt8)
include aside

theorem getV (s : Store) : (f s).getV x = s.getV x := by
  simp only [Store.getV, Registers.getV, aside.v]

theorem getI (s : Store) : (f s).getI = s.getI := congrArg Except.ok (aside.i s)

theorem getDelay (s : Store) : (f s).getDelay = s.getDelay := congrArg Except.ok (aside.delay s)

theorem readByte (address : Nat) (s : Store) : (f s).readByte address = s.readByte address := by
  rw [Store.readByte, Store.readByte, aside.memory]

theorem writeByte (address : Nat) (byte : UInt8) : (writeByte address byte).Commutes f := by
  intro s
  rw [writeByte_eq_ite, writeByte_eq_ite, ← aside.putByte]
  split
  · rfl
  · rfl

theorem setV (word : UInt16) : (setV x word).Commutes f := by
  intro s
  rw [setV_eq_ite, setV_eq_ite, ← aside.put]
  split
  · rfl
  · rfl

theorem changeI (word : UInt16) : Effect.Commutes (.change (·.setI word)) f :=
  fun s => congrArg (Attempt.mk _) (aside.setI s word).symm

theorem addV (delta : UInt16) : (addV x delta).Commutes f :=
  .reading (aside.getV x) fun _ => aside.setV x _

theorem move : (move x y).Commutes f := .reading (aside.getV y) fun _ => aside.setV x _

theorem conjoin : (conjoin x y).Commutes f :=
  .reading (aside.getV x) fun _ => .reading (aside.getV y) fun _ => aside.setV x _

theorem addRegisters : (addRegisters x y).Commutes f :=
  .reading (aside.getV x) fun _ => .reading (aside.getV y) fun _ =>
    .seq (aside.setV x _) fun _ => aside.setV Registers.flag _

theorem subtract : (subtract x y).Commutes f :=
  .reading (aside.getV x) fun _ => .reading (aside.getV y) fun _ =>
    .seq (aside.setV Registers.flag _) fun _ => aside.setV x _

theorem shiftRight : (shiftRight x).Commutes f :=
  .reading (aside.getV x) fun _ => .seq (aside.setV Registers.flag _) fun _ => aside.setV x _

theorem shiftLeft : (shiftLeft x).Commutes f :=
  .reading (aside.getV x) fun _ => .seq (aside.setV Registers.flag _) fun _ => aside.setV x _

theorem addIndex : (addIndex x).Commutes f :=
  .reading (aside.getV x) fun _ => .reading aside.getI fun _ => aside.changeI _

theorem loadGlyph : (loadGlyph x).Commutes f := .reading (aside.getV x) fun _ => aside.changeI _

theorem readDelay : (readDelay x).Commutes f := .reading aside.getDelay fun _ => aside.setV x _

theorem digitPass (address value : Nat) : (digitPass address value).Commutes f :=
  .seq (aside.writeByte address _) fun _ =>
    .reading (aside.readByte address) fun _ => aside.writeByte address _

theorem digitPasses (address passes value : Nat) :
    (digitPasses address passes value).Commutes f := by
  induction passes generalizing value with
  | zero => exact fun _ => rfl
  | succ passes ih => exact .seq (aside.digitPass address value) fun _ => ih _

theorem storeDigits (layout : DigitLayout) : (storeDigits layout x).Commutes f := by
  refine .reading (aside.getV x) fun value => .reading aside.getI fun i => ?_
  cases layout with
  | literal => exact .checking fun _ => aside.digitPasses _ _ _
  | canonical =>
      exact .checking fun _ => .seq (aside.writeByte _ _) fun _ =>
        .seq (aside.writeByte _ _) fun _ => aside.writeByte _ _

theorem copyOut (base r : Nat) : (copyOut base r).Commutes f :=
  .reading (aside.getV _) fun _ => aside.writeByte _ _

theorem copyIn (base r : Nat) : (copyIn base r).Commutes f :=
  .reading (aside.readByte _) fun _ => aside.setV _ _

theorem saveRegisters : (saveRegisters x).Commutes f :=
  .reading aside.getI fun _ => .checking fun _ => .forM (aside.copyOut _) _

theorem loadRegisters : (loadRegisters x).Commutes f :=
  .reading aside.getI fun _ => .checking fun _ => .forM (aside.copyIn _) _

end Aside

end Store

end Chip8
