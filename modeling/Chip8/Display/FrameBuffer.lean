import Chip8.Display
import Chip8.Text.Description

/-!
# Frame buffers

A plane of pixels held in memory, as many as its width times its height.  A
pixel is lit or not, so a value read back is 0 or 1 whatever was written.

The same plane is seen as single pixels (`FrameBuffer.pixel`), as rows
(`FrameBuffer.rows`), as text (`FrameBuffer.toText`) and as the half blocks of a
terminal, two rows to a line (`FrameBuffer.halfBlocks`).  A plane of width zero
has no pixels and so no rows.
-/

namespace Chip8

/-- A plane of pixels held in memory. -/
structure FrameBuffer where
  /-- Pixels in a row. -/
  width : Nat
  /-- Rows. -/
  height : Nat
  /-- The pixels, row by row. -/
  pixels : Vector Bool (width * height)
deriving DecidableEq

namespace FrameBuffer

/-- A plane with every pixel off. -/
def blank (width height : Nat) : FrameBuffer := ⟨width, height, .replicate _ false⟩

/-- The largest number of pixels in a plane. -/
def capacity : Nat := UInt64.size / 2 - 1

/-- A plane with every pixel off, where it is not too large.  Making room for a larger one breaks
off. -/
def blank? (width height : Nat) : Except Stop FrameBuffer :=
  if width * height ≤ capacity then .ok (blank width height) else .error .crash

/-- The value of the pixel at an offset. -/
def get (f : FrameBuffer) (offset : Nat) : Except Fault UInt8 :=
  if h : offset < f.width * f.height then .ok (Display.pixelValue f.pixels[offset])
  else .error (.addressOutOfRange offset)

/-- The plane with the pixel at an offset of it replaced. -/
def put (f : FrameBuffer) (offset : Nat) (value : UInt8) (h : offset < f.width * f.height) :
    FrameBuffer :=
  { f with pixels := f.pixels.set offset (value != 0) h }

/-- The plane with the pixel at an offset set. -/
def set (f : FrameBuffer) (offset : Nat) (value : UInt8) : Except Fault FrameBuffer :=
  if h : offset < f.width * f.height then .ok (f.put offset value h)
  else .error (.addressOutOfRange offset)

/-- The plane with every pixel off. -/
def clear (f : FrameBuffer) : FrameBuffer := blank f.width f.height

instance : Display FrameBuffer where
  width := width
  height := height
  get := get
  set f offset value :=
    if h : offset < f.width * f.height then ⟨.ok (), f.put offset value h⟩
    else ⟨.error (.addressOutOfRange offset), f⟩
  clear f := ⟨.ok (), f.clear⟩

theorem display_set (f : FrameBuffer) (offset : Nat) (value : UInt8) :
    Display.set f offset value = .update f (f.set offset value) := by
  simp only [Display.set, set]
  split <;> rfl

/-! ## Views -/

/-- Whether the pixel at a position is lit.  No pixel outside the plane is. -/
def pixel (f : FrameBuffer) (x y : Nat) : Bool :=
  decide (x < f.width ∧ y < f.height) && f.pixels[f.width * y + x]?.getD false

/-- The pixels of a row, left first. -/
def row (f : FrameBuffer) (y : Nat) : List Bool :=
  (f.pixels.toArray.extract (f.width * y) (f.width * y + f.width)).toList

/-- The rows, top first. -/
def rows (f : FrameBuffer) : List (List Bool) :=
  if f.width = 0 then [] else (List.range f.height).map f.row

/-- The number of lit pixels. -/
def lit (f : FrameBuffer) : Nat := f.pixels.toList.count true

/-- The plane as text, a line for each row. -/
def toText (f : FrameBuffer) (on off : Char) : String :=
  .ofList (f.rows.flatMap fun row => row.map (if · then on else off) ++ ['\n'])

/-- The character that shows a pixel above another. -/
def halfBlock : (upper lower : Bool) → Char
  | true, true => '█'
  | true, false => '▀'
  | false, true => '▄'
  | false, false => ' '

/-- Rows taken in pairs, each pair as a line of half blocks.  A last row without a partner is
shown above an unlit one. -/
def halfBlockLines : List (List Bool) → List (List Char)
  | upper :: lower :: rest => List.zipWith halfBlock upper lower :: halfBlockLines rest
  | [upper] => [upper.map (halfBlock · false)]
  | [] => []

/-- The plane as lines of half blocks. -/
def halfBlocks (f : FrameBuffer) : List (List Char) := halfBlockLines f.rows

/-- A one-line description. -/
def describe (f : FrameBuffer) : String :=
  Description.record "FrameBuffer"
    [("width", toString f.width), ("height", toString f.height), ("lit", toString f.lit)]

/-! ## Reading and setting -/

theorem blank?_eq_ok_iff {w h : Nat} {f : FrameBuffer} :
    blank? w h = .ok f ↔ w * h ≤ capacity ∧ blank w h = f := by
  unfold blank?
  split <;> simp [*]

@[simp] theorem width_blank (w h : Nat) : (blank w h).width = w := rfl

@[simp] theorem height_blank (w h : Nat) : (blank w h).height = h := rfl

theorem get_of_lt (f : FrameBuffer) {o : Nat} (h : o < f.width * f.height) :
    f.get o = .ok (Display.pixelValue f.pixels[o]) := by
  simp [get, h]

theorem get_of_le (f : FrameBuffer) {o : Nat} (h : f.width * f.height ≤ o) :
    f.get o = .error (.addressOutOfRange o) := by
  simp [get, Nat.not_lt.mpr h]

theorem set_of_lt (f : FrameBuffer) {o : Nat} (value : UInt8) (h : o < f.width * f.height) :
    f.set o value = .ok (f.put o value h) := by
  simp [set, h]

theorem set_of_le (f : FrameBuffer) {o : Nat} (value : UInt8) (h : f.width * f.height ≤ o) :
    f.set o value = .error (.addressOutOfRange o) := by
  simp [set, Nat.not_lt.mpr h]

/-- A read after a set sees the set pixel at its offset and the old one elsewhere. -/
theorem get_set {f g : FrameBuffer} {o : Nat} {value : UInt8} (h : f.set o value = .ok g)
    (k : Nat) : g.get k = if k = o then .ok (Display.pixelValue (value != 0)) else f.get k := by
  by_cases ho : o < f.width * f.height
  · rw [set_of_lt f value ho] at h
    obtain rfl := Except.ok.inj h
    by_cases hk : k < f.width * f.height
    · by_cases hko : k = o
      · subst hko
        simp [get, put, hk]
      · simp [get, put, hk, hko, Vector.getElem_set_ne _ _ (Ne.symm hko)]
    · have hko : k ≠ o := by omega
      simp [get, put, hk, hko]
  · rw [set_of_le f value (Nat.not_lt.mp ho)] at h
    cases h

end FrameBuffer

end Chip8
