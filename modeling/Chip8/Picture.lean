import Chip8.Picture.Title

/-!
# Pictures of a terminal

A picture is a stack of boxes.  A box is a border of single lines with a title in
its top edge, around lines of cells.  Both the title and the lines are cut to the
width inside the border, and lines beyond its height are left out.

A picture becomes text when the cells of a whole terminal are read off it.  Where
boxes overlap the front one is seen, and a position that no box covers is a blank in
the terminal's own colour.
-/

namespace Chip8

/-- A rectangle of positions. -/
structure Area where
  /-- The column of its left edge. -/
  left : Nat
  /-- The row of its top edge. -/
  top : Nat
  /-- Columns. -/
  width : Nat
  /-- Rows. -/
  height : Nat
deriving DecidableEq, Repr

/-- Whether a position is in an area. -/
def Area.contains (a : Area) (x y : Nat) : Bool :=
  a.left ≤ x && x < a.left + a.width && a.top ≤ y && y < a.top + a.height

namespace Picture

/-- A box around some lines. -/
structure Box where
  /-- Where the box is, its border included. -/
  area : Area
  /-- The cells of the top edge between its corners. -/
  edge : List Cell
  /-- The colour of the border. -/
  border : Colour
  /-- The colour of the space inside that no line covers. -/
  inside : Colour
  /-- The lines inside. -/
  lines : List (List Cell)

/-- The character of a border at a position inside its area, counted from its top left corner, and
none inside the border. -/
def borderChar? (width height x y : Nat) : Option Char :=
  match x == 0, x + 1 == width, y == 0, y + 1 == height with
  | true, _, true, _ => some '┌'
  | _, true, true, _ => some '┐'
  | true, _, _, true => some '└'
  | _, true, _, true => some '┘'
  | true, _, _, _ | _, true, _, _ => some '│'
  | _, _, true, _ | _, _, _, true => some '─'
  | _, _, _, _ => none

/-- A box with a title in the colour of its border. -/
def Box.titled (area : Area) (title : List Char) (border inside : Colour)
    (lines : List (List Cell)) : Box :=
  let edge := Title.write title (List.replicate (area.width - 2) ⟨['─'], border⟩)
  { area, edge, border, inside, lines }

/-- The cell of the top edge of a box at a position inside its area, none at its corners and below
it. -/
def Box.edgeCell? (b : Box) (x y : Nat) : Option Cell :=
  if y = 0 ∧ 0 < x ∧ x + 1 < b.area.width then b.edge[x - 1]? else none

/-- The cell of a box at a position of the terminal, none outside the box. -/
def Box.cell? (b : Box) (x y : Nat) : Option Cell :=
  if b.area.contains x y then
    let x := x - b.area.left
    let y := y - b.area.top
    let edge := (b.edgeCell? x y).or
      ((borderChar? b.area.width b.area.height x y).map fun c => ⟨[c], b.border⟩)
    match edge with
    | some cell => some cell
    | none => some (((b.lines[y - 1]?).bind (·[x - 1]?)).getD (.blank b.inside))
  else none

end Picture

/-- A stack of boxes, the front one first. -/
abbrev Picture := List Picture.Box

namespace Picture

/-- The cell at a position of the terminal. -/
def cellAt (p : Picture) (x y : Nat) : Cell :=
  (p.findSome? fun b => b.cell? x y).getD (.blank .plain)

/-- The cells of a terminal, row by row. -/
def cells (p : Picture) (width height : Nat) : List (List Cell) :=
  (List.range height).map fun y => (List.range width).map fun x => p.cellAt x y

end Picture

end Chip8
