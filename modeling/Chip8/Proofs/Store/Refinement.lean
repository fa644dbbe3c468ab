import Chip8.Proofs.Store.Operations
import Chip8.Proofs.Store.Plain
import Chip8.Proofs.Store.Reset

/-!
# Stores refine plain stores

A store represents a plain one when every part of it reads the same (`Represents`).
Unused stack slots have no counterpart and may hold anything.

Each operation does the same to both (`Represents.perform`): either both answer alike,
and the store that is left represents the plain one that is left, or both fail alike,
and the store is the one it was, slots included.  So nothing that a caller can do
tells them apart (`Represents.answers`).
-/

namespace Chip8

/-- Every part of a store reads as in a plain one. -/
structure PlainStore.Represents (m : PlainStore) (s : Store) : Prop where
  memory : ∀ a (inside : a < 4096), s.memory.cells[a] = m.memory ⟨a, inside⟩
  v : ∀ x (inside : x < 16), s.registers.v[x] = m.v ⟨x, inside⟩
  i : s.registers.i = m.i
  pc : s.registers.pc.toNat = m.pc.address
  calls : s.registers.stack.frames.map UInt16.toNat = (m.calls.val.map Place.address).reverse
  delay : s.registers.delay = m.delay
  sound : s.registers.sound = m.sound
  bound : s.timerBound = m.bound
  program : s.program = m.program
  /-- The program is one that was accepted, so that a reset writes it whole. -/
  fits : m.program.length ≤ 3584

/-- What an operation may do to a store, given what it does to a plain one: both answer alike, or
both fail alike and the store is left alone. -/
inductive Agree (s : Store) : Attempt Stop Store Store.Answer → PlainStore.Result → Prop
  | ok {t : Store} {m : PlainStore} {a : Store.Answer} (represents : m.Represents t) :
      Agree s ⟨.ok a, t⟩ (.ok (a.told, m))
  | error {e : Stop} : Agree s ⟨.error e, s⟩ (.error e)

/-! ## Places -/

theorem check_eq_at? (address : Int) :
    CodeAddress.check address =
      match Place.at? address with
      | some place => .ok (.ofNat place.address)
      | none => .error (.badTarget address) := by
  unfold CodeAddress.check Place.at?
  split <;> rfl

theorem Place.address_of_at? {address : Int} {place : Place} (found : at? address = some place) :
    place.address = address := by
  unfold at? at found
  split at found
  next inside =>
    cases found
    exact Int.toNat_of_nonneg inside.1
  next => cases found

theorem Place.toNat_ofNat (place : Place) : (UInt16.ofNat place.address).toNat = place.address :=
  UInt16.toNat_ofNat_of_lt' (Nat.lt_trans place.valid.1 (by decide))

/-! ## Memory -/

theorem toList_eq_ofFn {α : Type} {n : Nat} (cells : Vector α n) {f : Fin n → α}
    (same : ∀ k (inside : k < n), cells[k] = f ⟨k, inside⟩) : cells.toList = List.ofFn f := by
  apply List.ext_getElem
  · simp
  · intro k here there
    simp [same]

theorem getElem_image {program : List UInt8} (fits : program.length ≤ 3584) {a : Nat}
    (inside : a < 4096) :
    (Memory.image program).cells[a] = PlainStore.freshByte program a := by
  apply Option.some.inj
  rw [← Vector.getElem?_eq_getElem inside, Memory.getElem?_image fits inside,
    PlainStore.freshByte]
  by_cases above : 0x200 ≤ a
  · rw [if_neg (show ¬ a < 0x200 by omega)]
    by_cases loaded : a - 0x200 < program.length
    · rw [if_pos ⟨above, loaded⟩]
      simp [loaded]
    · rw [if_neg (by omega), if_neg (by omega)]
      simp [loaded]
  · rw [if_neg (by omega), if_pos (show a < 0x200 by omega)]
    by_cases glyph : a < 0x50
    · have there : a < Memory.font.length := glyph
      rw [if_pos glyph]
      simp [there]
    · have beyond : Memory.font.length ≤ a := Nat.le_of_not_lt glyph
      rw [if_neg glyph]
      simp [beyond]

variable {m : PlainStore} {s : Store}

namespace PlainStore.Represents

/-! ## Making a store -/

theorem fresh {program : List UInt8} (fits : program.length ≤ 3584) (bound : TimerBound) :
    (PlainStore.fresh program bound).Represents ⟨.image program, .initial, program, bound⟩ where
  memory _ inside := getElem_image fits inside
  v x inside := by simp [Registers.initial, PlainStore.fresh]
  i := rfl
  pc := rfl
  calls := by simp [Registers.initial, PlainStore.fresh]
  delay := rfl
  sound := rfl
  bound := rfl
  program := rfl
  fits := fits

/-! ## Reading -/

theorem depth (represents : m.Represents s) :
    s.registers.stack.depth.val = m.calls.val.length := by
  have length := congrArg List.length represents.calls
  simpa [ReturnStack.length_frames] using length

theorem value (represents : m.Represents s) {x : UInt8} (inside : x.toNat < 16) :
    s.value x = m.v ⟨x.toNat, inside⟩ := by
  rw [Store.value, Vector.getElem?_eq_getElem inside, represents.v _ inside]
  rfl

theorem top? (represents : m.Represents s) :
    s.registers.stack.top?.map UInt16.toNat = m.calls.val.head?.map Place.address := by
  rw [← ReturnStack.getLast?_frames, ← List.getLast?_map, represents.calls]
  simp

theorem readings (represents : m.Represents s) : s.registers.readings = m.readings := by
  rw [Registers.readings, PlainStore.readings, represents.calls, represents.i, represents.pc,
    represents.delay, represents.sound]
  congr
  funext x
  exact represents.v x.val x.isLt

/-! ## Changing -/

theorem withPc (represents : m.Represents s) (place : Place) :
    { m with pc := place }.Represents (s.withPc (.ofNat place.address)) :=
  { represents with pc := place.toNat_ofNat }

theorem put (represents : m.Represents s) {x : UInt8} (byte : UInt8) :
    { m with v := fun k => if k.val = x.toNat then byte else m.v k }.Represents (s.put x byte) :=
  { represents with
    v := by
      intro k hk
      simp only [Store.put, Vector.getElem_setIfInBounds, eq_comm (a := k)]
      split
      · rfl
      · exact represents.v k hk }

theorem putByte (represents : m.Represents s) {a : Nat} (byte : UInt8) :
    { m with memory := fun k => if k.val = a then byte else m.memory k }.Represents
      (s.putByte a byte) :=
  { represents with
    memory := by
      intro k hk
      simp only [Store.putByte, Vector.getElem_setIfInBounds, eq_comm (a := k)]
      split
      · rfl
      · exact represents.memory k hk }

/-! ## Operations -/

theorem readByte (represents : m.Represents s) (a : Nat) :
    Agree s (s.perform (.readByte a)).toAttempt (m.answer (.readByte a)) := by
  rw [Store.perform, PlainStore.answer, Store.readByte]
  by_cases inside : a < 4096
  · rw [Memory.read_of_lt _ inside, dif_pos inside, represents.memory a inside]
    exact .ok represents
  · rw [Memory.read_of_le _ (Nat.le_of_not_lt inside), dif_neg inside]
    exact .error

theorem writeByte (represents : m.Represents s) (a : Nat) (byte : UInt8) :
    Agree s (s.perform (.writeByte a byte)).toAttempt (m.answer (.writeByte a byte)) := by
  rw [Store.perform, PlainStore.answer, Store.writeByte_eq_ite]
  split
  · exact .ok (represents.putByte byte)
  · exact .error

/-- The bytes of a span that lies in memory. -/
theorem extract (represents : m.Represents s) {a n : Nat} (inside : a + n ≤ 4096) :
    (s.memory.cells.toArray.extract a (a + n)).toList =
      List.ofFn fun k => m.memory ⟨a + k, PlainStore.inside_of_span inside k⟩ := by
  apply List.ext_getElem
  · simp
    omega
  · intro k here there
    simp [represents.memory]

theorem slice (represents : m.Represents s) (a n : Nat) :
    Agree s (s.perform (.slice a n)).toAttempt (m.answer (.slice a n)) := by
  rw [Store.perform, PlainStore.answer, Memory.slice, PlainStore.slice]
  by_cases empty : n = 0
  · subst empty
    rw [Memory.checkSpan_zero, if_pos rfl]
    by_cases inside : a ≤ 4096
    · simp only [if_pos inside, represents.extract (show a + 0 ≤ 4096 from inside), List.ofFn_zero]
      exact .ok represents
    · simp only [if_neg inside]
      exact .error
  · have last : Memory.lastAddress = 0xFFFFFFFFFFFFFFFF := rfl
    have size : Memory.size = 4096 := rfl
    rw [Memory.checkSpan_of_pos empty, if_neg empty, last, size]
    by_cases inside : a + n ≤ 4096
    · rw [if_pos (by omega), dif_pos inside]
      simp only [if_pos (show a ≤ 4096 by omega), represents.extract inside]
      exact .ok represents
    · rw [if_neg (by omega), dif_neg inside]
      exact .error

theorem goTo (represents : m.Represents s) (target : Int) :
    Agree s (Store.changing (s.jump target)).toAttempt (m.goTo target) := by
  rw [Store.jump_eq, check_eq_at?, PlainStore.goTo]
  cases Place.at? target with
  | none => exact .error
  | some place => exact .ok (represents.withPc place)

theorem instruction (represents : m.Represents s) :
    s.instruction = .ok m.instruction := by
  obtain ⟨inside, even⟩ := m.pc.valid
  rw [← represents.pc] at inside even
  have second : s.registers.pc.toNat + 1 < 4096 := by omega
  rw [Store.instruction, Memory.read_of_lt _ inside, Memory.read_of_lt _ second,
    represents.memory _ inside, represents.memory _ second]
  simp only [represents.pc]
  rfl

/-- The stack takes what is a place while it has room for it. -/
theorem push (represents : m.Represents s) {a : Option UInt16} {address : Nat}
    (same : (a.getD s.registers.pc).toNat = address) :
    Agree s (Store.changing (s.pushReturn a)).toAttempt (m.push address) := by
  have depth := represents.depth
  have checked := check_eq_at? (a.getD s.registers.pc).toNat
  rw [same] at checked
  rw [PlainStore.push]
  by_cases room : m.calls.val.length < 16
  · have free : s.registers.stack.depth.val < 16 := by rwa [depth]
    rw [dif_pos room]
    cases found : Place.at? address with
    | none =>
        have failed : s.registers.stack.push (a.getD s.registers.pc) =
            ⟨.error (.badTarget address), s.registers.stack⟩ := by
          rw [ReturnStack.push, dif_pos free, same, checked, found]
        rw [Store.pushReturn_of_push failed]
        exact .error
    | some place =>
        obtain ⟨stack, pushed⟩ :
            ∃ stack, s.registers.stack.push (a.getD s.registers.pc) = ⟨.ok (), stack⟩ := by
          rw [ReturnStack.push, dif_pos free, same, checked, found]
          exact ⟨_, rfl⟩
        rw [Store.pushReturn_of_push pushed]
        refine .ok { represents with calls := ?_ }
        change stack.frames.map _ = _
        have placed : address = place.address := Int.ofNat_inj.mp (Place.address_of_at? found).symm
        rw [ReturnStack.frames_push pushed, List.map_append, represents.calls]
        simp [same, placed]
  · have full : ¬ s.registers.stack.depth.val < 16 := by rwa [depth]
    have failed : s.registers.stack.push (a.getD s.registers.pc) =
        ⟨.error .stackOverflow, s.registers.stack⟩ := by
      rw [ReturnStack.push, dif_neg full]
    rw [Store.pushReturn_of_push failed, dif_neg room]
    exact .error

theorem top_cons (represents : m.Represents s) {newest : Place} {older : List Place}
    (places : m.calls.val = newest :: older) :
    ∃ a, s.registers.stack.top? = some a ∧ a.toNat = newest.address := by
  have top := represents.top?
  rw [places] at top
  exact Option.map_eq_some_iff.mp top

theorem top_nil (represents : m.Represents s) (none : m.calls.val = []) :
    s.registers.stack.top? = .none := by
  have top := represents.top?
  rw [none] at top
  exact Option.map_eq_none_iff.mp top

theorem pop (represents : m.Represents s) :
    Agree s (s.perform .popReturn).toAttempt m.pop := by
  rw [PlainStore.pop]
  split
  next places =>
    rw [Store.perform, Store.popReturn_eq, represents.top_nil places]
    exact .error
  next newest older places =>
    obtain ⟨a, top, same⟩ := represents.top_cons places
    have calls := represents.calls
    rw [ReturnStack.frames_drop top, places] at calls
    have left : s.registers.stack.drop.frames.map UInt16.toNat =
        (m.calls.val.tail.map Place.address).reverse := by
      simpa [same, places] using calls
    rw [Store.perform, Store.popReturn_eq, top, ← same]
    exact .ok { represents with calls := left }

theorem peek (represents : m.Represents s) :
    Agree s (s.perform .peekReturn).toAttempt m.peek := by
  rw [PlainStore.peek]
  split
  next places =>
    rw [Store.perform, Store.peekReturn, represents.top_nil places]
    exact .error
  next newest older places =>
    obtain ⟨a, top, same⟩ := represents.top_cons places
    rw [Store.perform, Store.peekReturn, top, ← same]
    exact .ok represents

theorem setV (represents : m.Represents s) (x : UInt8) (word : UInt16) {n : Nat}
    (same : word.toNat % 256 = n % 256) :
    Agree s (Store.changing (s.setV x word)).toAttempt (m.setV x n) := by
  rw [PlainStore.setV]
  by_cases inside : x.toNat < 16
  · have byte : word.toUInt8 = .ofNat (n % 256) := by
      rw [← same, ← UInt8.toNat_inj]
      simp
    rw [Store.setV_eq s word inside, if_pos inside, byte]
    exact .ok (represents.put _)
  · rw [Store.setV_eq_ite, if_neg inside, if_neg inside]
    exact .error

theorem getV (represents : m.Represents s) (x : UInt8) :
    Agree s (s.perform (.getV x)).toAttempt (m.answer (.getV x)) := by
  rw [Store.perform, PlainStore.answer]
  by_cases inside : x.toNat < 16
  · rw [Store.getV_eq s inside, dif_pos inside, ← represents.value inside]
    exact .ok represents
  · rw [Store.getV, Registers.getV, dif_neg inside, dif_neg inside]
    exact .error

theorem addV (represents : m.Represents s) (x : UInt8) (delta : UInt16) :
    Agree s (s.perform (.addV x delta)).toAttempt (m.answer (.addV x delta)) := by
  rw [Store.perform, PlainStore.answer]
  by_cases inside : x.toNat < 16
  · rw [Store.addV, Store.query_bind_of_ok (Store.getV_eq s inside), dif_pos inside,
      ← represents.value inside]
    apply represents.setV
    rw [UInt16.toNat_add, UInt8.toNat_toUInt16]
    omega
  · rw [Store.addV_eq_ite, if_neg inside, dif_neg inside]
    exact .error

/-- A timer is set where the bound accepts its value. -/
theorem setTimer (represents : m.Represents s) (value : UInt8) {t : Store} {set : PlainStore}
    (left : set.Represents t) :
    Agree s
      (Store.changing (if s.timerBound.accepts value then ⟨.ok (), t⟩
        else ⟨.error (.timerOutOfRange value), s⟩)).toAttempt
      (m.setTimer value set) := by
  rw [PlainStore.setTimer, represents.bound]
  by_cases top : value = 255
  · subst top
    cases m.bound with
    | below255 => exact .error
    | full => exact .ok left
  · rw [Store.accepts_of_ne _ top, if_pos rfl, if_neg (fun both => top both.2)]
    exact .ok left

theorem reset (represents : m.Represents s) :
    (PlainStore.fresh m.program m.bound).Represents s.reset := by
  rw [← represents.bound, Store.reset, represents.program]
  exact .fresh represents.fits _

theorem load (represents : m.Represents s) (program : List UInt8) :
    Agree s (s.perform (.load program)).toAttempt (m.answer (.load program)) := by
  have space : Memory.programSpace = 3584 := rfl
  rw [Store.perform, PlainStore.answer, Store.load_eq, space]
  by_cases fits : program.length ≤ 3584
  · rw [if_pos fits, if_pos fits, ← represents.bound]
    exact .ok (.fresh fits s.timerBound)
  · rw [if_neg fits, if_neg fits]
    exact .error

theorem describe (represents : m.Represents s) : s.memory.describe = m.description := by
  rw [Memory.describe, Memory.nonZeroCount, toList_eq_ofFn _ represents.memory]
  rfl

theorem stackIsFull (represents : m.Represents s) :
    s.registers.stack.isFull = decide (m.calls.val.length = 16) := by
  rw [← represents.depth, ReturnStack.isFull]
  exact decide_eq_decide.mpr Fin.ext_iff

/-- Every operation does the same to a store and to the plain one it represents. -/
theorem perform (represents : m.Represents s) (op : Store.Operation) :
    Agree s (s.perform op).toAttempt (m.answer op) := by
  cases op with
  | readByte a => exact represents.readByte a
  | writeByte a byte => exact represents.writeByte a byte
  | slice a n => exact represents.slice a n
  | instruction =>
      rw [Store.perform, represents.instruction]
      exact .ok represents
  | pushReturn a =>
      cases a with
      | none => exact represents.push represents.pc
      | some a => exact represents.push rfl
  | popReturn => exact represents.pop
  | peekReturn => exact represents.peek
  | stackIsFull =>
      rw [Store.perform, represents.stackIsFull]
      exact .ok represents
  | getPc =>
      rw [Store.perform, represents.pc]
      exact .ok represents
  | setPc a => exact represents.goTo a.toNat
  | advancePc distance =>
      rw [Store.perform, Store.advance, represents.pc]
      exact represents.goTo _
  | getV x => exact represents.getV x
  | setV x value => exact represents.setV x value rfl
  | addV x delta => exact represents.addV x delta
  | getI =>
      rw [Store.perform, represents.i]
      exact .ok represents
  | setI value => exact .ok { represents with i := rfl }
  | getDelay =>
      rw [Store.perform, represents.delay]
      exact .ok represents
  | setDelay value =>
      rw [Store.perform, Store.setDelay_eq]
      exact represents.setTimer value { represents with delay := rfl }
  | getSound =>
      rw [Store.perform, represents.sound]
      exact .ok represents
  | setSound value =>
      rw [Store.perform, Store.setSound_eq]
      exact represents.setTimer value { represents with sound := rfl }
  | setTimerBound bound => exact .ok { represents with bound := rfl }
  | fontBase => exact .ok represents
  | reset => exact .ok represents.reset
  | load program => exact represents.load program
  | program =>
      rw [Store.perform, represents.program]
      exact .ok represents
  | registers =>
      rw [PlainStore.answer, ← represents.readings]
      exact .ok represents
  | describeMemory =>
      rw [Store.perform, represents.describe]
      exact .ok represents

end PlainStore.Represents

/-! ## Many operations -/

/-- What a caller is told while some operations are carried out. -/
def Store.answers (s : Store) : List Store.Operation → List (Except Stop Told)
  | [] => []
  | op :: ops => (s.perform op).result.map Store.Answer.told :: (s.perform op).state.answers ops

theorem Agree.told {o : Attempt Stop Store Store.Answer} {r : PlainStore.Result}
    (agree : Agree s o r) : o.result.map Store.Answer.told = r.map Prod.fst := by
  cases agree with
  | ok => rfl
  | error => rfl

namespace PlainStore.Represents

theorem after (represents : m.Represents s) (op : Store.Operation) :
    (m.after op).Represents (s.perform op).state := by
  have agree := represents.perform op
  rw [PlainStore.after]
  change PlainStore.Represents _ (s.perform op).toAttempt.state
  generalize (s.perform op).toAttempt = o, m.answer op = r at agree
  cases agree with
  | ok left => exact left
  | error => exact represents

/-- Nothing that a caller does tells a store and the plain one it represents apart. -/
theorem answers (represents : m.Represents s) (ops : List Store.Operation) :
    s.answers ops = m.answers ops := by
  induction ops generalizing m s with
  | nil => rfl
  | cons op ops ih =>
      rw [Store.answers, PlainStore.answers, ih (represents.after op)]
      exact congrArg (· :: _) (represents.perform op).told

end PlainStore.Represents

namespace Store

/-! ## What every store keeps to -/

theorem ofProgram?_eq (program : List UInt8) :
    ofProgram? program =
      if program.length ≤ 3584 then .ok ⟨.image program, .initial, program, .below255⟩
      else .error (.programTooLarge program.length 3584) := by
  rw [ofProgram?, checkProgram, show Memory.programSpace = 3584 from rfl]
  split <;> rfl

/-- What a caller can rely on, whatever is in the store. -/
structure Reliable (s : Store) : Prop where
  /-- A failure leaves the store as it was. -/
  atomic : ∀ op stop, (s.perform op).result = .error stop → (s.perform op).state = s
  /-- A value is written modulo 256. -/
  setV : ∀ x value, x.toNat < 16 →
    ((s.perform (.setV x value)).state.perform (.getV x)).result =
      .ok (.number (value.toNat % 256))
  addV : ∀ x delta, x.toNat < 16 →
    ((s.perform (.addV x delta)).state.perform (.getV x)).result =
      .ok (.number (((s.value x).toNat + delta.toNat) % 256))
  /-- A full stack is reported whatever the address. -/
  full : s.registers.stack.frames.length = 16 →
    ∀ a, (s.perform (.pushReturn a)).result = .error (.fault .stackOverflow)
  /-- A program that does not fit is not loaded. -/
  tooLarge : ∀ program, 3584 < program.length →
    s.perform (.load program) =
      ⟨⟨.error (.fault (.programTooLarge program.length 3584)), s⟩, []⟩

theorem reliable (s : Store) : s.Reliable where
  atomic op stop failed := state_perform_of_error failed
  setV x value inside := by
    have left : (s.perform (.setV x value)).state = s.put x value.toUInt8 := by
      rw [perform, setV_eq s value inside]
      rfl
    rw [left, perform, getV_eq _ inside, value_put _ _ inside, if_pos rfl]
    exact congrArg (Except.ok ∘ Answer.number) value.toNat_toUInt8
  addV x delta inside := by
    have left : (s.perform (.addV x delta)).state = s.put x (s.value x + delta.toUInt8) := by
      rw [perform, addV_eq inside]
      rfl
    rw [left, perform, getV_eq _ inside, value_put _ _ inside, if_pos rfl]
    refine congrArg (Except.ok ∘ Answer.number) ?_
    rw [UInt8.toNat_add, UInt16.toNat_toUInt8]
    omega
  full depth a := by
    rw [ReturnStack.length_frames] at depth
    have refused : s.registers.stack.push (a.getD s.registers.pc) =
        ⟨.error .stackOverflow, s.registers.stack⟩ := by
      rw [ReturnStack.push, dif_neg (by omega)]
    rw [perform, pushReturn_of_push refused]
    rfl
  tooLarge program large := by
    have space : Memory.programSpace = 3584 := rfl
    rw [perform, load_eq, space, if_neg (Nat.not_le.mpr large)]
    rfl

/-- A store that is made of a program answers all operations as a plain store does, or both are
refused for the same reason.  Besides, every store can be relied on. -/
theorem refines_plain (program : List UInt8) (ops : List Operation) :
    (ofProgram? program).map (·.answers ops) =
        (PlainStore.ofProgram? program).map (·.answers ops) ∧
      ∀ s : Store, s.Reliable := by
  refine ⟨?_, reliable⟩
  rw [ofProgram?_eq, PlainStore.ofProgram?]
  split
  next fits => exact congrArg Except.ok ((PlainStore.Represents.fresh fits .below255).answers ops)
  next => rfl

end Store

end Chip8
