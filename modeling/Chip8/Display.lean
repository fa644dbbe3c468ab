import Chip8.Attempt
import Chip8.Dialect

/-!
# Displays

A display is a plane of pixels, addressed row by row through one offset.  The
machine asks five things of it: its width and height, the value of a pixel, to
set a pixel, and to clear the plane.  Any value but zero is a lit pixel.

A display that has no better way clears itself by setting every offset of the
plane to zero, and stops where a set fails (`Display.clearPlane`).  How many offsets
there are is a product of two words, and where no word holds it the clear breaks off
before the first set (`Display.pixelCount`).

Drawing goes through a list of *dots*, the offset and the bit of each, in the
order they are drawn (`Display.blit`).  Each bit is combined with its pixel by
exclusive or, and the answer tells whether some bit fired the collision rule
against the pixel it met.
-/

namespace Chip8

/-- The offsets of a plane from one on, each set to zero, up to the first that fails. -/
def Display.clearFrom {δ : Type} (set : δ → Nat → UInt8 → Attempt Fault δ Unit) :
    (remaining offset : Nat) → δ → Attempt Fault δ Unit
  | 0, _, d => ⟨.ok (), d⟩
  | remaining + 1, offset, d =>
      let step := set d offset 0
      match step.result with
      | .error f => ⟨.error f, step.state⟩
      | .ok () => clearFrom set remaining (offset + 1) step.state

/-- The number of pixels of a plane.  Taking a product that no word holds breaks off. -/
def Display.pixelCount (width height : Nat) : Except Stop Nat :=
  if width * height < UInt64.size then .ok (width * height) else .error .crash

/-- Every offset of a plane set to zero, up to the first that fails. -/
def Display.clearPlane {δ : Type} (set : δ → Nat → UInt8 → Attempt Fault δ Unit)
    (width height : Nat) (d : δ) : Attempt Stop δ Unit :=
  match Display.pixelCount width height with
  | .error stop => ⟨.error stop, d⟩
  | .ok pixels =>
      let cleared := Display.clearFrom set pixels 0 d
      ⟨Stop.ofFault cleared.result, cleared.state⟩

/-- A plane of pixels. -/
class Display (δ : Type) where
  /-- Pixels in a row. -/
  width : δ → Nat
  /-- Rows. -/
  height : δ → Nat
  /-- The value of the pixel at an offset. -/
  get : δ → Nat → Except Fault UInt8
  /-- The plane with the pixel at an offset set to a value. -/
  set : δ → Nat → UInt8 → Attempt Fault δ Unit
  /-- The plane with every pixel off. -/
  clear : δ → Attempt Stop δ Unit := fun d => Display.clearPlane set (width d) (height d) d

namespace Display

/-- A bit of a sprite and where it goes. -/
structure Dot where
  /-- The offset of its pixel. -/
  offset : Nat
  /-- Whether the bit is one. -/
  lit : Bool
deriving DecidableEq, Repr

/-- A bit as a pixel value. -/
def pixelValue (lit : Bool) : UInt8 := if lit then 1 else 0

/-- The dots of a sprite whose top left corner stands at a position of a plane.  Rows come top
first and bits come left first.  Both coordinates wrap around the plane.  An offset is taken as a
number here, which is what a word makes of it on every plane whose pixels a word can count. -/
def dots (width height x y : Nat) (rows : List UInt8) : List Dot :=
  rows.zipIdx.flatMap fun (bits, row) =>
    (List.range 8).map fun col =>
      ⟨width * ((y + row) % height) + (x + col) % width, bits.toNat.testBit (7 - col)⟩

/-- Dots drawn in order, stopping where the plane fails.  The answer is whether some dot
collided, or `hit` already held. -/
def blit {δ : Type} [Display δ] (rule : CollisionRule) (d : δ) (hit : Bool) :
    List Dot → Attempt Fault δ Bool
  | [] => ⟨.ok hit, d⟩
  | dot :: rest =>
      match get d dot.offset with
      | .error f => ⟨.error f, d⟩
      | .ok pixel =>
          let existing := pixel != 0
          let step := set d dot.offset (pixelValue (dot.lit ^^ existing))
          match step.result with
          | .error f => ⟨.error f, step.state⟩
          | .ok () => blit rule step.state (hit || rule.fires dot.lit existing) rest

end Display

end Chip8
