import Chip8.Proofs.Cpu.Batch
import Chip8.Proofs.Cpu.Ringing
import Chip8.Proofs.Cpu.Verdict
import Chip8.Proofs.Store.Commuting

/-!
# Dialects

Each point of a dialect is looked at by one kind of instruction.  So two machines that
differ in their dialects alone run alike as long as no instruction is executed that
tells their dialects apart (`Indifferent`), and go on to differ in their dialects alone
(`after_setDialect`).

The collision rule is special: also an instruction that looks at it leaves the same
plane and fails alike (`Display.blit_cases`), so that only VF can tell the rules apart
(`step_otherRule`).

The bound on timer values is looked at when a timer is set, and so also by the tick.  But
it is never in the way of a timer that counts down, and the tick is the same under every
bound (`tick_eq`).
-/

namespace Chip8

/-- The rule of collisions has no part in what a drawing leaves, nor in whether it fails. -/
theorem Display.blit_cases {δ : Type} [Display δ] (d : δ) (dots : List Dot) :
    (∃ f d', ∀ rule hit, blit rule d hit dots = ⟨.error f, d'⟩) ∨
      ∃ d', ∀ rule hit, ∃ collided, blit rule d hit dots = ⟨.ok collided, d'⟩ := by
  induction dots generalizing d with
  | nil => exact .inr ⟨d, fun rule hit => ⟨hit, rfl⟩⟩
  | cons dot rest ih =>
      cases got : get d dot.offset with
      | error f =>
          refine .inl ⟨f, d, fun rule hit => ?_⟩
          simp only [blit, got]
      | ok pixel =>
          cases drawn : set d dot.offset (pixelValue (dot.lit ^^ (pixel != 0))) with
          | mk result d' =>
              cases result with
              | error f =>
                  refine .inl ⟨f, d', fun rule hit => ?_⟩
                  simp only [blit, got, drawn]
              | ok u =>
                  have step (rule : CollisionRule) (hit : Bool) :
                      ∃ now, blit rule d hit (dot :: rest) = blit rule d' now rest := by
                    simp only [blit, got, drawn]
                    exact ⟨_, rfl⟩
                  rcases ih d' with ⟨f, left, fails⟩ | ⟨left, ends⟩
                  · refine .inl ⟨f, left, fun rule hit => ?_⟩
                    obtain ⟨now, later⟩ := step rule hit
                    rw [later, fails]
                  · refine .inr ⟨left, fun rule hit => ?_⟩
                    obtain ⟨now, later⟩ := step rule hit
                    rw [later]
                    exact ends rule now

namespace Store

/-! ## The bound on timer values -/

theorem aside_setTimerBound (bound : TimerBound) : Aside (·.setTimerBound bound) :=
  ⟨⟨fun _ => rfl, fun _ _ => rfl⟩, fun _ => rfl, fun _ => rfl, fun _ => rfl, fun _ => rfl,
    fun _ _ _ => rfl, fun _ _ _ => rfl, fun _ _ => rfl⟩

theorem apart_put (byte : UInt8) (bound : TimerBound) :
    Apart fun s => (s.put Registers.flag byte).setTimerBound bound :=
  ⟨fun _ => rfl, fun _ _ => rfl⟩

theorem returnFromCall_setTimerBound (bound : TimerBound) :
    returnFromCall.Commutes (·.setTimerBound bound) := by
  refine .reading ?_ fun _ => .checking fun _ => .seq (fun _ => rfl) fun _ _ => rfl
  exact fun _ => rfl

theorem callTo_setTimerBound (bound : TimerBound) (target : UInt16) :
    (callTo target).Commutes (·.setTimerBound bound) :=
  .checking fun _ => .seq (fun _ => rfl) fun _ _ => rfl

theorem accepts_eq {a b : TimerBound} {byte : UInt8} (low : a ≠ b → byte ≠ 255) :
    a.accepts byte = b.accepts byte := by
  by_cases same : a = b
  · rw [same]
  · rw [accepts_of_ne a (low same), accepts_of_ne b (low same)]

section
variable {s : Store} {x : UInt8} {bound : TimerBound}

/-- A timer is set alike under a bound that takes the same value. -/
theorem startDelay_setTimerBound (hx : x.toNat < 16)
    (same : bound.accepts (s.value x) = s.timerBound.accepts (s.value x)) :
    (s.setTimerBound bound).startDelay x = (s.startDelay x).mapState (·.setTimerBound bound) := by
  have here : (s.setTimerBound bound).value x = s.value x := rfl
  have there : (s.setTimerBound bound).timerBound = bound := rfl
  rw [startDelay_eq hx, startDelay_eq hx, setDelay_eq, setDelay_eq, here, there, same]
  split
  · rfl
  · rfl

theorem startSound_setTimerBound (hx : x.toNat < 16)
    (same : bound.accepts (s.value x) = s.timerBound.accepts (s.value x)) :
    (s.setTimerBound bound).startSound x = (s.startSound x).mapState (·.setTimerBound bound) := by
  have here : (s.setTimerBound bound).value x = s.value x := rfl
  have there : (s.setTimerBound bound).timerBound = bound := rfl
  rw [startSound_eq hx, startSound_eq hx, setSound_eq, setSound_eq, here, there, same]
  split
  · rfl
  · rfl

end

theorem put_value (s : Store) (x : UInt8) : s.put x (s.value x) = s := by
  have same : s.registers.v.setIfInBounds x.toNat (s.value x) = s.registers.v := by
    ext j hj
    rw [Vector.getElem_setIfInBounds]
    split
    next here => simp [value, here, hj]
    next => rfl
  rw [put, same]

theorem put_put (s : Store) (x a b : UInt8) : (s.put x a).put x b = s.put x b := by
  simp [put]

end Store

namespace Cpu

variable {δ : Type}

section
variable {c c' : Cpu δ} {d : Dialect} {op : Opcode}

/-! ## Two machines -/

/-- Two machines that are the same but for their dialects.  The store of each has the bound on timer
values of its own dialect, as in every machine that an owner can come to (`Reachable.sound`). -/
structure SameButDialect (c c' : Cpu δ) : Prop where
  memory : c'.store.memory = c.store.memory
  registers : c'.store.registers = c.store.registers
  program : c'.store.program = c.store.program
  display : c'.display = c.display
  keypad : c'.keypad = c.keypad
  bell : c'.bell = c.bell
  random : c'.random = c.random
  cycles : c'.cycles = c.cycles
  last : c'.last = c.last
  bound : c.store.timerBound = c.dialect.timerBound
  bound' : c'.store.timerBound = c'.dialect.timerBound

theorem sameButDialect_setDialect (bound : c.store.timerBound = c.dialect.timerBound)
    (d : Dialect) : SameButDialect c (c.setDialect d) :=
  ⟨rfl, rfl, rfl, rfl, rfl, rfl, rfl, rfl, rfl, bound, rfl⟩

theorem SameButDialect.eq_setDialect (same : SameButDialect c c') :
    c' = c.setDialect c'.dialect := by
  obtain ⟨memory, registers, program, display, keypad, bell, random, cycles, last, -, bound⟩ := same
  obtain ⟨⟨m, r, p, b⟩, display', keypad', bell', dialect', random', cycles', last'⟩ := c'
  dsimp only at *
  subst_vars
  rfl

/-- An opcode that does not tell the dialect of a machine apart from another one. -/
def Indifferent (c : Cpu δ) (d : Dialect) : Opcode → Prop
  | .shiftRight x y | .shiftLeft x y => c.dialect.shift ≠ d.shift → x = y
  | .draw _ _ _ => c.dialect.collision = d.collision
  | .storeDigits _ => c.dialect.digits = d.digits
  | .setDelay x | .setSound x => c.dialect.timerBound ≠ d.timerBound → c.store.value x ≠ 255
  | _ => True

/-- Every opcode but a drawing is indifferent to the rule. -/
theorem indifferent_of_rule (rule : d = { c.dialect with collision := d.collision })
    (drawing : ∀ x y rows, op ≠ .draw x y rows) : c.Indifferent d op := by
  cases op with
  | draw x y rows => exact absurd rfl (drawing x y rows)
  | shiftRight x y => exact fun differ => absurd (congrArg Dialect.shift rule).symm differ
  | shiftLeft x y => exact fun differ => absurd (congrArg Dialect.shift rule).symm differ
  | storeDigits x => exact (congrArg Dialect.digits rule).symm
  | setDelay x => exact fun differ => absurd (congrArg Dialect.timerBound rule).symm differ
  | setSound x => exact fun differ => absurd (congrArg Dialect.timerBound rule).symm differ
  | _ => trivial

/-- The machine with another byte in VF. -/
def withFlag (c : Cpu δ) (byte : UInt8) : Cpu δ :=
  { c with store := c.store.put Registers.flag byte }

theorem withFlag_value (c : Cpu δ) : c.withFlag (c.store.value Registers.flag) = c := by
  rw [withFlag, Store.put_value]

end

/-! ## Executing -/

/-- The machine with another dialect and a change made to its store. -/
def revised (c : Cpu δ) (f : Store → Store) (dialect : Dialect) : Cpu δ :=
  { c with store := f c.store, dialect }

section
variable (c : Cpu δ) (d : Dialect)

/-- An effect that comes to the same under the other bound is alike in the other dialect. -/
theorem withStore_setDialect {α : Type} {e : Effect Store α}
    (alike : e (c.setDialect d).store = (e c.store).mapState (·.setTimerBound d.timerBound)) :
    (c.setDialect d).withStore (e (c.setDialect d).store) =
      (c.withStore (e c.store)).mapState (·.setDialect d) := by
  rw [alike]
  rfl

theorem thenNext_setDialect {e : Effect Store Unit}
    (alike : e (c.setDialect d).store = (e c.store).mapState (·.setTimerBound d.timerBound)) :
    (c.setDialect d).thenNext (e (c.setDialect d).store) =
      (c.thenNext (e c.store)).mapState (·.setDialect d) := by
  rw [alike]
  rfl

theorem shifted_self (x : UInt8) : c.shifted x x = x := by
  rw [shifted]
  split
  · rfl
  · rfl

theorem shifted_setDialect {x y : UInt8} (same : c.dialect.shift ≠ d.shift → x = y) :
    (c.setDialect d).shifted x y = c.shifted x y := by
  by_cases agree : c.dialect.shift = d.shift
  · rw [shifted, shifted, agree]
    rfl
  · obtain rfl := same agree
    rw [shifted_self, shifted_self]

variable [Display δ]

theorem draw_setDialect (x y rows : UInt8) (same : c.dialect.collision = d.collision) :
    (c.setDialect d).draw x y rows = (c.draw x y rows).mapState (·.setDialect d) := by
  rw [draw, draw, show (c.setDialect d).spriteDots x y rows = c.spriteDots x y rows from rfl]
  cases c.spriteDots x y rows with
  | error e => rfl
  | ok dots =>
      dsimp only [setDialect]
      rw [same]
      generalize Display.blit d.collision c.display false dots = drawn
      obtain ⟨result, display⟩ := drawn
      cases result with
      | error f => rfl
      | ok hit =>
          dsimp only
          rw [Store.setV_eq _ _ Store.flag_lt, Store.setV_eq _ _ Store.flag_lt]
          rfl

end

variable {c : Cpu δ} {d : Dialect} {op : Opcode}

/-- A timer takes the same values in another dialect, 255 left aside. -/
theorem accepts_dialect (bound : c.store.timerBound = c.dialect.timerBound) {byte : UInt8}
    (low : c.dialect.timerBound ≠ d.timerBound → byte ≠ 255) :
    d.timerBound.accepts byte = c.store.timerBound.accepts byte := by
  rw [bound, Store.accepts_eq low]

theorem Ready.setDialect {i : Instruction} (ready : Ready c i op) (d : Dialect) :
    Ready (c.setDialect d) i op :=
  ⟨ready.fetched, ready.decoded, ready.placed⟩

variable [Display δ]

/-- An indifferent opcode is executed alike in the other dialect. -/
theorem execute_setDialect (bound : c.store.timerBound = c.dialect.timerBound)
    (inRange : op.InRange) (indifferent : c.Indifferent d op) :
    (c.setDialect d).execute op = (c.execute op).mapState (·.setDialect d) := by
  have aside := Store.aside_setTimerBound d.timerBound
  cases op with
  | ret => exact withStore_setDialect c d (Store.returnFromCall_setTimerBound _ _)
  | jump target => rfl
  | call target => exact withStore_setDialect c d (Store.callTo_setTimerBound _ target _)
  | skipIfByte x byte => rfl
  | skipUnlessByte x byte => rfl
  | skipIfSame x y => rfl
  | skipIfKeyUp x => rfl
  | loadByte x byte => exact thenNext_setDialect c d (aside.setV x _ _)
  | addByte x byte => exact thenNext_setDialect c d (aside.addV x _ _)
  | move x y => exact thenNext_setDialect c d (aside.move x y _)
  | conjoin x y => exact thenNext_setDialect c d (aside.conjoin x y _)
  | add x y => exact thenNext_setDialect c d (aside.addRegisters x y _)
  | subtract x y => exact thenNext_setDialect c d (aside.subtract x y _)
  | shiftRight x y =>
      rw [execute, execute, shifted_setDialect c d indifferent]
      exact thenNext_setDialect c d (aside.shiftRight _ _)
  | shiftLeft x y =>
      rw [execute, execute, shifted_setDialect c d indifferent]
      exact thenNext_setDialect c d (aside.shiftLeft _ _)
  | loadIndex address => rfl
  | addIndex x => exact thenNext_setDialect c d (aside.addIndex x _)
  | loadGlyph x => exact thenNext_setDialect c d (aside.loadGlyph x _)
  | random x mask =>
      exact thenNext_setDialect { c with random := c.random.next.2 } d (aside.setV x _ _)
  | draw x y rows => exact draw_setDialect c d x y rows indifferent
  | readDelay x => exact thenNext_setDialect c d (aside.readDelay x _)
  | setDelay x =>
      exact thenNext_setDialect c d
        (Store.startDelay_setTimerBound inRange (accepts_dialect bound indifferent))
  | setSound x =>
      exact thenNext_setDialect c d
        (Store.startSound_setTimerBound inRange (accepts_dialect bound indifferent))
  | storeDigits x =>
      rw [execute, execute, indifferent]
      exact thenNext_setDialect c d (aside.storeDigits x _ _)
  | saveRegisters x => exact thenNext_setDialect c d (aside.saveRegisters x _)
  | loadRegisters x => exact thenNext_setDialect c d (aside.loadRegisters x _)

/-! ## Steps -/

section
variable {f : Store → Store} {i : Instruction}

theorem executeAndMove_revised (apart : Store.Apart f) {c' : Cpu δ}
    (ran : c'.execute op = (c.execute op).mapState (·.revised f d)) :
    c'.executeAndMove op = (c.executeAndMove op).mapState (·.revised f d) := by
  rw [executeAndMove, executeAndMove, ran]
  generalize c.execute op = executed
  obtain ⟨result, done⟩ := executed
  cases result with
  | error e => rfl
  | ok flow =>
      have moved : (f done.store).follow flow = (done.store.follow flow).mapState f :=
        apart.follow flow done.store
      dsimp only [Attempt.andThen, Attempt.mapState, revised]
      rw [moved]
      rfl

/-- What the execution leaves in another dialect, the step leaves too. -/
theorem step_revised (apart : Store.Apart f) (ready : Ready c i op)
    (ran : (c.tickTimers.setDialect d).execute op =
      (c.tickTimers.execute op).mapState (·.revised f d)) :
    (c.setDialect d).step = c.step.mapState (·.revised f d) := by
  have ticked : (c.setDialect d).tickTimers = c.tickTimers.setDialect d := rfl
  have there := ready.setDialect d
  rw [step_eq_of_decoded ready.fetched ready.decoded,
    step_eq_of_decoded there.fetched there.decoded, runDecoded_eq, runDecoded_eq, ticked,
    executeAndMove_revised apart ran]
  simp only [ready.placed, there.placed]
  generalize c.tickTimers.executeAndMove op = moved
  obtain ⟨result, left⟩ := moved
  cases result with
  | error e => rfl
  | ok u => rfl

/-- A step that executes nothing does not look at the dialect. -/
theorem step_unready (unready : ∀ i op, ¬ Ready c i op) (d : Dialect) :
    (c.setDialect d).step = c.step.mapState (·.setDialect d) := by
  have same : (c.setDialect d).store.instruction = c.store.instruction := rfl
  rw [step, step, same]
  cases fetched : c.store.instruction with
  | error f => rfl
  | ok i =>
      cases decoded : i.decode? with
      | none =>
          simp only [decoded]
          rfl
      | some op =>
          cases placed : checkFallThrough c.store.registers.pc op with
          | ok u => exact absurd ⟨fetched, decoded, placed⟩ (unready i op)
          | error f =>
              have there : checkFallThrough (c.setDialect d).store.registers.pc op = .error f :=
                placed
              simp only [decoded, runDecoded, placed, there]
              rfl

end

/-- No step changes the dialect or the bound in the store. -/
theorem step_keeps_dialect (c : Cpu δ) :
    c.step.state.dialect = c.dialect ∧ c.step.state.store.timerBound = c.store.timerBound := by
  have h := stepped c
  change c.step.toAttempt.state.dialect = _ ∧ c.step.toAttempt.state.store.timerBound = _
  generalize c.step.toAttempt = a at h
  cases h with
  | unfetched => exact ⟨rfl, rfl⟩
  | unassigned => exact ⟨rfl, rfl⟩
  | unplaced => exact ⟨rfl, rfl⟩
  | failed _ execution => exact ⟨execution.keeps.dialect, execution.keeps.timerBound⟩
  | ran _ execution _ => exact ⟨execution.keeps.dialect, execution.keeps.timerBound⟩

theorem step_setDialect (bound : c.store.timerBound = c.dialect.timerBound)
    (indifferent : ∀ i op, Ready c i op → c.Indifferent d op) :
    (c.setDialect d).step = c.step.mapState (·.setDialect d) := by
  by_cases ready : ∃ i op, Ready c i op
  · obtain ⟨i, op, ready⟩ := ready
    exact step_revised (Store.aside_setTimerBound d.timerBound).toApart ready
      (execute_setDialect bound ready.inRange (indifferent i op ready))
  · exact step_unready (fun i op here => ready ⟨i, op, here⟩) d

/-- Machines that differ in their dialects alone do so after any number of steps that do not tell
the dialects apart. -/
theorem after_setDialect (bound : c.store.timerBound = c.dialect.timerBound) {n : Nat}
    (indifferent : ∀ k < n, ∀ i op, Ready (c.after k) i op → (c.after k).Indifferent d op) :
    (c.after n).store.timerBound = (c.after n).dialect.timerBound ∧
      (c.after n).dialect = c.dialect ∧ (c.setDialect d).after n = (c.after n).setDialect d := by
  induction n with
  | zero => exact ⟨bound, rfl, rfl⟩
  | succ n ih =>
      obtain ⟨boundHere, dialectHere, here⟩ := ih fun k hk => indifferent k (Nat.lt_succ_of_lt hk)
      obtain ⟨dialect, kept⟩ := step_keeps_dialect (c.after n)
      have stepped := step_setDialect boundHere (indifferent n (Nat.lt_succ_self n))
      rw [after_succ, after_succ, here, stepped]
      exact ⟨by rw [kept, dialect, boundHere], dialect.trans dialectHere, rfl⟩

/-! ## The rule of collisions -/

/-- A sprite drawn in another dialect leaves the same machine but for VF. -/
theorem draw_anyDialect (c : Cpu δ) (d : Dialect) (x y rows : UInt8) :
    ∃ byte, (c.setDialect d).draw x y rows =
      (c.draw x y rows).mapState fun c' => (c'.withFlag byte).setDialect d := by
  rw [draw, draw, show (c.setDialect d).spriteDots x y rows = c.spriteDots x y rows from rfl]
  cases c.spriteDots x y rows with
  | error e =>
      refine ⟨c.store.value Registers.flag, ?_⟩
      simp only [Attempt.mapState, withFlag_value]
  | ok dots =>
      dsimp only [setDialect]
      rcases Display.blit_cases c.display dots with ⟨f, display, fails⟩ | ⟨display, ends⟩
      · refine ⟨c.store.value Registers.flag, ?_⟩
        rw [fails, fails]
        simp only [Attempt.mapState, withFlag, Store.put_value]
      · obtain ⟨hit, drawn⟩ := ends c.dialect.collision false
        obtain ⟨hitThere, drawnThere⟩ := ends d.collision false
        refine ⟨Store.flagByte hitThere, ?_⟩
        rw [drawn, drawnThere]
        dsimp only
        rw [Store.setV_eq _ _ Store.flag_lt, Store.setV_eq _ _ Store.flag_lt,
          Store.toUInt8_flagValue, Store.toUInt8_flagValue]
        simp only [thenNext, withStore, Attempt.map, Attempt.mapState, withFlag, Store.put_put]
        rfl

/-- A step under another rule leaves the same machine but for VF. -/
theorem step_otherRule (bound : c.store.timerBound = c.dialect.timerBound)
    (rule : d = { c.dialect with collision := d.collision }) :
    ∃ byte, (c.setDialect d).step = c.step.mapState fun c' => (c'.withFlag byte).setDialect d := by
  by_cases drawing : ∃ i x y rows, Ready c i (.draw x y rows)
  · obtain ⟨i, x, y, rows, ready⟩ := drawing
    obtain ⟨byte, drawn⟩ := draw_anyDialect c.tickTimers d x y rows
    exact ⟨byte, step_revised (Store.apart_put byte d.timerBound) ready drawn⟩
  · refine ⟨c.step.state.store.value Registers.flag, ?_⟩
    rw [step_setDialect bound]
    · simp only [Outcome.mapState, Attempt.mapState, withFlag_value]
    · intro i op ready
      apply indifferent_of_rule rule
      rintro x y rows rfl
      exact drawing ⟨i, x, y, rows, ready⟩

/-! ## Both machines -/

/-- Two machines that differ in their dialects alone answer every step alike, cause the same events
and go on to differ in their dialects alone, as long as they execute nothing that tells the dialects
apart.  Under two rules of collisions alone, whatever a step executes, it is answered alike and
leaves machines that differ in VF besides, and in nothing else. -/
theorem switches_confined {c c' : Cpu δ} (same : SameButDialect c c') :
    (∀ n, (∀ k < n, ∀ i op, Ready (c.after k) i op → (c.after k).Indifferent c'.dialect op) →
      (∀ k < n, (c'.after k).step.result = (c.after k).step.result ∧
        (c'.after k).step.events = (c.after k).step.events) ∧
      ∀ k ≤ n, SameButDialect (c.after k) (c'.after k) ∧
        (c.after k).dialect = c.dialect ∧ (c'.after k).dialect = c'.dialect) ∧
    (c'.dialect = { c.dialect with collision := c'.dialect.collision } →
      c'.step.result = c.step.result ∧ c'.step.events = c.step.events ∧
      ∃ byte, SameButDialect (c.step.state.withFlag byte) c'.step.state) := by
  have whole := same.eq_setDialect
  generalize c'.dialect = d at whole ⊢
  subst whole
  refine ⟨fun n indifferent => ?_, fun rule => ?_⟩
  · have upTo {k : Nat} (hk : k ≤ n) := after_setDialect same.bound (d := d) (n := k)
      fun j hj => indifferent j (Nat.lt_of_lt_of_le hj hk)
    constructor
    · intro k hk
      obtain ⟨bound, -, here⟩ := upTo (Nat.le_of_lt hk)
      rw [here, step_setDialect bound (indifferent k hk)]
      exact ⟨rfl, rfl⟩
    · intro k hk
      obtain ⟨bound, dialect, here⟩ := upTo hk
      rw [here]
      exact ⟨sameButDialect_setDialect bound d, dialect, rfl⟩
  · obtain ⟨byte, stepped⟩ := step_otherRule same.bound rule
    obtain ⟨dialect, bound⟩ := step_keeps_dialect c
    rw [stepped]
    refine ⟨rfl, rfl, byte, sameButDialect_setDialect ?_ d⟩
    exact bound.trans (same.bound.trans (congrArg Dialect.timerBound dialect.symm))

/-- Shifts V1 in place and returns from no call. -/
def shiftInPlace : Cpu FrameBuffer :=
  .new ⟨.image [0x81, 0x16, 0x00, 0xEE], .initial, [0x81, 0x16, 0x00, 0xEE], .below255⟩
    (.blank 64 32) 0

/-- Draws one row. -/
def oneRow : Cpu FrameBuffer :=
  .new ⟨.image [0xD0, 0x01], .initial, [0xD0, 0x01], .below255⟩ (.blank 64 32) 0

theorem fetched_shiftInPlace : shiftInPlace.store.instruction = .ok ⟨0x81, 0x16⟩ :=
  Store.instruction_of_image (k := 0) rfl rfl rfl rfl (by decide)

theorem after_shiftInPlace :
    shiftInPlace.after 1 = (shiftInPlace.runDecoded ⟨0x81, 0x16⟩ (.shiftRight 1 1)).state :=
  congrArg Attempt.state (step_of_decoded fetched_shiftInPlace rfl)

theorem fetched_after_shiftInPlace :
    (shiftInPlace.after 1).store.instruction = .ok ⟨0x00, 0xEE⟩ := by
  rw [after_shiftInPlace]
  exact Store.instruction_of_image (k := 2) rfl rfl rfl rfl (by decide)

theorem shiftInPlace_fails :
    (shiftInPlace.after 1).step.result = .error (.fault .stackUnderflow) := by
  have step := congrArg Attempt.result (step_of_decoded fetched_after_shiftInPlace rfl)
  rw [step, after_shiftInPlace]
  rfl

theorem indifferent_shiftInPlace (d : Dialect) {k : Nat} (hk : k < 2) {i : Instruction}
    {op : Opcode} (ready : Ready (shiftInPlace.after k) i op) :
    (shiftInPlace.after k).Indifferent d op := by
  obtain rfl | rfl : k = 0 ∨ k = 1 := by omega
  · obtain rfl := Except.ok.inj (fetched_shiftInPlace.symm.trans ready.fetched)
    obtain rfl : Opcode.shiftRight 1 1 = op := Option.some.inj ready.decoded
    exact fun _ => rfl
  · obtain rfl := Except.ok.inj (fetched_after_shiftInPlace.symm.trans ready.fetched)
    obtain rfl : Opcode.ret = op := Option.some.inj ready.decoded
    trivial

theorem oneRow_draws : oneRow.step.result = .ok (.draw 0 0 1) := by
  have fetched : oneRow.store.instruction = .ok ⟨0xD0, 0x01⟩ :=
    Store.instruction_of_image (k := 0) rfl rfl rfl rfl (by decide)
  have sound : oneRow.Sound := .new (.of_initial rfl) _ _
  have safe : ¬ oneRow.DrawsBeyond := fun draws => absurd draws.beyond (by decide)
  have word := Except.ok.inj (sound.store.fetched.symm.trans fetched)
  rw [step_result_of_sound sound oneRow.display.honours safe, verdict, word]
  rfl

/-- Every switch differs and nobody notices.  Then only the rule differs, and a row is drawn. -/
theorem canonical_shift_in_place :
    ((shiftInPlace.setDialect .canonical).after 1).step.result =
        .error (.fault .stackUnderflow) ∧
      SameButDialect (shiftInPlace.after 2) ((shiftInPlace.setDialect .canonical).after 2) ∧
      (oneRow.setDialect { collision := .erased }).step.result = .ok (.draw 0 0 1) ∧
      ∃ byte, SameButDialect (oneRow.step.state.withFlag byte)
        (oneRow.setDialect { collision := .erased }).step.state := by
  have first := sameButDialect_setDialect (c := shiftInPlace) rfl .canonical
  have second := sameButDialect_setDialect (c := oneRow) rfl { collision := .erased }
  obtain ⟨answers, leaves⟩ := (switches_confined first).1 2 fun k hk i op =>
    indifferent_shiftInPlace .canonical hk
  obtain ⟨drawn, -, left⟩ := (switches_confined second).2 rfl
  exact ⟨(answers 1 (by decide)).1.trans shiftInPlace_fails, (leaves 2 (by decide)).1,
    drawn.trans oneRow_draws, left⟩

end Cpu

end Chip8
