/-!
# Cells of a terminal

A cell is a symbol in a colour.  The symbol of most cells is one character, but it
may be several, and then it may be wider than its cell.
-/

namespace Chip8

/-- The colours of a cell. -/
inductive Colour where
  /-- The terminal's own colour. -/
  | plain
  /-- White. -/
  | white
  /-- Green. -/
  | green
  /-- Dark gray. -/
  | gray
  /-- Yellow. -/
  | yellow
  /-- Cyan. -/
  | cyan
  /-- Red. -/
  | red
deriving DecidableEq, Repr

/-- A symbol in a colour. -/
structure Cell where
  /-- The characters of the symbol. -/
  symbol : List Char
  /-- Its colour. -/
  colour : Colour
deriving DecidableEq, Repr

namespace Cell

/-- A blank in a colour. -/
def blank (colour : Colour) : Cell := ⟨[' '], colour⟩

/-- A text in one colour, a cell for each character. -/
def ofText (colour : Colour) (text : List Char) : List Cell := text.map (⟨[·], colour⟩)

end Cell

end Chip8
