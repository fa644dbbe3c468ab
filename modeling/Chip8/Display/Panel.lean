import Chip8.Display

/-!
# Panels

A plane whose storage is a size of its own.  The panel gives its width and
height, but it stores some number of cells that may be more or fewer.  A cell
keeps the value written to it, and an access beyond the storage fails.  A panel
clears itself cell by cell over its nominal size, so on a panel that stores too
little a clear turns the stored cells off and then fails.  Where no word holds
the nominal size the clear breaks off at once.
-/

namespace Chip8

/-- A plane of pixels with a storage of its own size. -/
structure Panel where
  /-- Pixels in a row. -/
  width : Nat
  /-- Rows. -/
  height : Nat
  /-- The cells that are stored. -/
  cells : Array UInt8
deriving DecidableEq

namespace Panel

/-- A panel that stores some number of cells, all zero. -/
def blank (width height stored : Nat) : Panel := ⟨width, height, .replicate stored 0⟩

/-- The value of the cell at an offset. -/
def get (p : Panel) (offset : Nat) : Except Fault UInt8 :=
  if h : offset < p.cells.size then .ok p.cells[offset] else .error (.addressOutOfRange offset)

/-- The panel with a stored cell replaced. -/
def put (p : Panel) (offset : Nat) (value : UInt8) (h : offset < p.cells.size) : Panel :=
  { p with cells := p.cells.set offset value h }

/-- The panel with the cell at an offset set. -/
def set (p : Panel) (offset : Nat) (value : UInt8) : Except Fault Panel :=
  if h : offset < p.cells.size then .ok (p.put offset value h)
  else .error (.addressOutOfRange offset)

instance : Display Panel where
  width := width
  height := height
  get := get
  set p offset value :=
    if h : offset < p.cells.size then ⟨.ok (), p.put offset value h⟩
    else ⟨.error (.addressOutOfRange offset), p⟩

theorem display_set (p : Panel) (offset : Nat) (value : UInt8) :
    Display.set p offset value = .update p (p.set offset value) := by
  simp only [Display.set, set]
  split <;> rfl

/-- The stored cells in rows, top first.  The last row may be shorter.  A panel of width zero
shows one cell to a row. -/
def rows (p : Panel) : List (List UInt8) :=
  let width := max p.width 1
  (List.range ((p.cells.size + width - 1) / width)).map fun y =>
    (p.cells.extract (width * y) (width * y + width)).toList

end Panel

end Chip8
