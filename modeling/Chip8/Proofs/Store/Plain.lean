import Chip8.Store.Operation

/-!
# Plain stores

What a store is to a caller, whatever way it is kept.  Memory and the V registers are
maps, PC is an even address in memory, and the return addresses are a list of at most
sixteen such addresses, newest first.  There are no slots, so nothing is left of an
address that was taken off.

`PlainStore.answer` says what comes of each operation.  It is a failure or an answer
with the plain store that it leaves, so a failure has no other store to leave.

A caller can ask for the registers of a store, and would see its unused slots there.  A
plain store can tell everything else of them (`Readings`).
-/

namespace Chip8

/-- An even address in memory. -/
structure Place where
  address : Nat
  valid : CodeAddress.Valid address

/-- The place at an address, if there is one. -/
def Place.at? (address : Int) : Option Place :=
  if h : 0 ≤ address ∧ CodeAddress.Valid address.toNat then some ⟨address.toNat, h.2⟩ else none

/-- What a store is to a caller. -/
structure PlainStore where
  memory : Fin 4096 → UInt8
  v : Fin 16 → UInt8
  i : UInt16
  pc : Place
  /-- The return addresses, newest first. -/
  calls : { places : List Place // places.length ≤ 16 }
  delay : UInt8
  sound : UInt8
  bound : TimerBound
  program : List UInt8

/-- What the registers read, unused stack slots left aside. -/
structure Readings where
  v : Fin 16 → UInt8
  i : UInt16
  pc : Nat
  /-- The return addresses, oldest first. -/
  frames : List Nat
  delay : UInt8
  sound : UInt8

def Registers.readings (r : Registers) : Readings :=
  ⟨r.v.get, r.i, r.pc.toNat, r.stack.frames.map UInt16.toNat, r.delay, r.sound⟩

/-- What a caller is told. -/
inductive Told where
  | answer (a : Store.Answer)
  | readings (r : Readings)

/-- An answer with unused stack slots left aside. -/
def Store.Answer.told : Store.Answer → Told
  | .registers r => .readings r.readings
  | a => .answer a

namespace PlainStore

/-- What comes of an operation. -/
abbrev Result := Except Stop (Told × PlainStore)

/-! ## Making a store -/

/-- The font below the program, and zero elsewhere. -/
def freshByte (program : List UInt8) (address : Nat) : UInt8 :=
  if address < 0x200 then Memory.font.getD address 0 else program.getD (address - 0x200) 0

/-- The store that a program starts with. -/
def fresh (program : List UInt8) (bound : TimerBound) : PlainStore where
  memory a := freshByte program a
  v _ := 0
  i := 0
  pc := ⟨0x200, by decide⟩
  calls := ⟨[], Nat.zero_le 16⟩
  delay := 0
  sound := 0
  bound
  program

/-- A program of more than 3584 bytes does not fit. -/
def ofProgram? (program : List UInt8) : Except Fault PlainStore :=
  if program.length ≤ 3584 then .ok (fresh program .below255)
  else .error (.programTooLarge program.length 3584)

/-! ## Operations -/

section
variable (m : PlainStore)

def tell (a : Store.Answer) : Result := .ok (.answer a, m)

def done : Result := m.tell .done

def stop (f : Fault) : Result := .error (.fault f)

theorem inside_of_span {address length : Nat} (inside : address + length ≤ 4096) (k : Fin length) :
    address + k < 4096 :=
  Nat.lt_of_lt_of_le (Nat.add_lt_add_left k.isLt address) inside

/-- The bytes of a span.  The fault names its last byte, or the last address there can be. -/
def slice (address length : Nat) : Result :=
  if length = 0 then
    if address ≤ 4096 then m.tell (.bytes []) else .error .crash
  else if inside : address + length ≤ 4096 then
    m.tell (.bytes (List.ofFn fun k => m.memory ⟨address + k, inside_of_span inside k⟩))
  else stop (.addressOutOfRange (min (address + length - 1) 0xFFFFFFFFFFFFFFFF))

/-- The two bytes at PC.  The second is there as well, since PC is even. -/
def instruction : Instruction :=
  have inside := m.pc.valid
  ⟨m.memory ⟨m.pc.address, inside.1⟩,
    m.memory ⟨m.pc.address + 1, by unfold CodeAddress.Valid at inside; omega⟩⟩

/-- Put a return address on the list.  That there is no room is found first. -/
def push (address : Nat) : Result :=
  if room : m.calls.val.length < 16 then
    match Place.at? address with
    | some place => { m with calls := ⟨place :: m.calls.val, room⟩ }.done
    | none => stop (.badTarget address)
  else stop .stackOverflow

/-- Take the newest return address off the list. -/
def pop : Result :=
  match m.calls.val with
  | [] => stop .stackUnderflow
  | newest :: _ =>
      have room : m.calls.val.tail.length ≤ 16 := by
        have := m.calls.property
        rw [List.length_tail]
        omega
      { m with calls := ⟨m.calls.val.tail, room⟩ }.tell (.number newest.address)

def peek : Result :=
  match m.calls.val with
  | [] => stop .stackUnderflow
  | newest :: _ => m.tell (.number newest.address)

def goTo (address : Int) : Result :=
  match Place.at? address with
  | some pc => { m with pc }.done
  | none => stop (.badTarget address)

/-- Write a number to a V register, modulo 256. -/
def setV (x : UInt8) (n : Nat) : Result :=
  if x.toNat < 16 then
    { m with v := fun k => if k.val = x.toNat then .ofNat (n % 256) else m.v k }.done
  else stop (.noSuchRegister x)

/-- Leave a store with a timer set, if the bound allows its value. -/
def setTimer (value : UInt8) (set : PlainStore) : Result :=
  if m.bound = .below255 ∧ value = 255 then stop (.timerOutOfRange value) else set.done

def readings : Readings :=
  ⟨m.v, m.i, m.pc.address, (m.calls.val.map Place.address).reverse, m.delay, m.sound⟩

/-- How many bytes are not zero, in words. -/
def description : String :=
  Description.record "Memory"
    [("non_zero_bytes", toString ((List.ofFn m.memory).countP (· ≠ 0))),
      ("total_bytes", toString 4096)]

/-- What comes of each operation. -/
def answer : Store.Operation → Result
  | .readByte a =>
      if h : a < 4096 then m.tell (.number (m.memory ⟨a, h⟩).toNat)
      else stop (.addressOutOfRange a)
  | .writeByte a byte =>
      if a < 4096 then { m with memory := fun k => if k.val = a then byte else m.memory k }.done
      else stop (.addressOutOfRange a)
  | .slice a n => m.slice a n
  | .instruction => m.tell (.instruction m.instruction)
  | .pushReturn none => m.push m.pc.address
  | .pushReturn (some a) => m.push a.toNat
  | .popReturn => m.pop
  | .peekReturn => m.peek
  | .stackIsFull => m.tell (.flag (m.calls.val.length = 16))
  | .getPc => m.tell (.number m.pc.address)
  | .setPc a => m.goTo a.toNat
  | .advancePc distance => m.goTo (m.pc.address + distance)
  | .getV x =>
      if h : x.toNat < 16 then m.tell (.number (m.v ⟨x.toNat, h⟩).toNat)
      else stop (.noSuchRegister x)
  | .setV x value => m.setV x value.toNat
  | .addV x delta =>
      if h : x.toNat < 16 then m.setV x ((m.v ⟨x.toNat, h⟩).toNat + delta.toNat)
      else stop (.noSuchRegister x)
  | .getI => m.tell (.number m.i.toNat)
  | .setI value => { m with i := value }.done
  | .getDelay => m.tell (.number m.delay.toNat)
  | .setDelay value => m.setTimer value { m with delay := value }
  | .getSound => m.tell (.number m.sound.toNat)
  | .setSound value => m.setTimer value { m with sound := value }
  | .setTimerBound bound => { m with bound }.done
  | .fontBase => m.tell (.number 0)
  | .reset => (fresh m.program m.bound).done
  | .load program =>
      if program.length ≤ 3584 then (fresh program m.bound).done
      else stop (.programTooLarge program.length 3584)
  | .program => m.tell (.bytes m.program)
  | .registers => .ok (.readings m.readings, m)
  | .describeMemory => m.tell (.text m.description)

/-- The store after an operation. -/
def after (op : Store.Operation) : PlainStore :=
  match m.answer op with
  | .ok (_, left) => left
  | .error _ => m

end

/-- What a caller is told while some operations are carried out. -/
def answers (m : PlainStore) : List Store.Operation → List (Except Stop Told)
  | [] => []
  | op :: ops => (m.answer op).map Prod.fst :: (m.after op).answers ops

example : (fresh [] .below255).answers [.setV 3 0x1FF, .getV 3, .popReturn] =
    [.ok (.answer .done), .ok (.answer (.number 0xFF)), .error (.fault .stackUnderflow)] := rfl

end PlainStore

end Chip8
