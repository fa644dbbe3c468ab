/-!
# Random bytes

A stream of bytes that a 64-bit seed determines.  The seed is stretched to a
256-bit key, the key is run through twelve rounds of ChaCha in counter mode with
a zero nonce, and each 32-bit word of the key stream gives one byte, its lowest.

The stream is a function from positions to bytes (`Random.byteAt`).  A source is
a key and a position, so taking a byte only moves the position on
(`next_fst`, `key_next`).
-/

namespace Chip8

/-- A place in a stream of random bytes. -/
structure Random where
  /-- The key of the stream. -/
  key : Vector UInt32 8
  /-- How many bytes have been taken. -/
  position : Nat
deriving DecidableEq

namespace Random

/-! ## The key of a seed -/

/-- A word rotated to the left. -/
def rotateLeft (w : UInt32) (amount : Nat) : UInt32 :=
  (w <<< (.ofNat amount)) ||| (w >>> (.ofNat (32 - amount)))

/-- A word rotated to the right. -/
def rotateRight (w : UInt32) (amount : Nat) : UInt32 := rotateLeft w (32 - amount)

/-- The state of the generator that stretches a seed, one step on. -/
def advance (state : UInt64) : UInt64 := state * 6364136223846793005 + 11634580027462260723

/-- The word the generator gives in a state: a few high bits, rotated to the right by the
topmost five. -/
def permute (state : UInt64) : UInt32 :=
  rotateRight (((state >>> 18) ^^^ state) >>> 27).toUInt32 (state >>> 59).toNat

/-- The words of the key of a seed. -/
def keyWords : (count : Nat) → (state : UInt64) → List UInt32
  | 0, _ => []
  | count + 1, state => permute (advance state) :: keyWords count (advance state)

theorem length_keyWords (count : Nat) (state : UInt64) :
    (keyWords count state).length = count := by
  induction count generalizing state with
  | zero => rfl
  | succ n ih => simp [keyWords, ih]

/-- The key of a seed. -/
def keyOfSeed (seed : UInt64) : Vector UInt32 8 :=
  ⟨(keyWords 8 seed).toArray, by simp [length_keyWords]⟩

/-! ## The key stream -/

/-- The sixteen words a block is computed on. -/
abbrev Block := Vector UInt32 16

/-- A quarter round on four places of a block. -/
def quarterRound (b : Block) (i j k l : Fin 16) : Block :=
  let a := b[i] + b[j]
  let d := rotateLeft (b[l] ^^^ a) 16
  let c := b[k] + d
  let e := rotateLeft (b[j] ^^^ c) 12
  let a := a + e
  let d := rotateLeft (d ^^^ a) 8
  let c := c + d
  let e := rotateLeft (e ^^^ c) 7
  (((b.set i a).set j e).set k c).set l d

/-- A round on the columns, then one on the diagonals. -/
def doubleRound (b : Block) : Block :=
  let b := quarterRound b 0 4 8 12
  let b := quarterRound b 1 5 9 13
  let b := quarterRound b 2 6 10 14
  let b := quarterRound b 3 7 11 15
  let b := quarterRound b 0 5 10 15
  let b := quarterRound b 1 6 11 12
  let b := quarterRound b 2 7 8 13
  quarterRound b 3 4 9 14

/-- The block the rounds start from: four constant words, the key, the counter and the nonce. -/
def initialBlock (key : Vector UInt32 8) (counter : Nat) : Block :=
  #v[0x61707865, 0x3320646e, 0x79622d32, 0x6b206574,
    key[0], key[1], key[2], key[3], key[4], key[5], key[6], key[7],
    .ofNat counter, .ofNat (counter / UInt32.size), 0, 0]

/-- The block of a counter after twelve rounds, added to the block they started from. -/
def keyStream (key : Vector UInt32 8) (counter : Nat) : Block :=
  let start := initialBlock key counter
  Vector.zipWith (· + ·) (Nat.repeat doubleRound 6 start) start

/-- The byte at a position of the stream. -/
def byteAt (key : Vector UInt32 8) (position : Nat) : UInt8 :=
  (keyStream key (position / 16))[position % 16].toUInt8

/-! ## Sources -/

/-- The source of a seed, at its start. -/
def ofSeed (seed : UInt64) : Random := ⟨keyOfSeed seed, 0⟩

/-- The next byte, and the source after it. -/
def next (r : Random) : UInt8 × Random :=
  (byteAt r.key r.position, { r with position := r.position + 1 })

theorem next_fst (r : Random) : r.next.1 = byteAt r.key r.position := rfl

@[simp] theorem key_next (r : Random) : r.next.2.key = r.key := rfl

@[simp] theorem position_next (r : Random) : r.next.2.position = r.position + 1 := rfl

end Random

end Chip8
