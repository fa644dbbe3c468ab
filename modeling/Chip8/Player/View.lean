import Chip8.Picture
import Chip8.Player

/-!
# The player on a terminal

Four boxes.  The display is at the left, two rows of pixels to a line, over the
status.  The registers are at the right, over a reminder of the keys.  The right
column, the status and the reminder have a fixed size, and the display and the
registers take what is left.
-/

namespace Chip8.Player

/-- Columns of the right column. -/
def sideWidth : Nat := 28

/-- Rows of the status. -/
def statusHeight : Nat := 3

/-- Rows of the reminder. -/
def helpHeight : Nat := 7

/-- The display under the title of the player. -/
def displayBox (p : Player) (width height : Nat) : Picture.Box :=
  .titled ⟨0, 0, width - sideWidth, height - statusHeight⟩ (' ' :: p.title.toList ++ [' '])
    (if p.isRunning then .green else .gray) .white
    (p.cpu.display.halfBlocks.map (Cell.ofText .white))

/-- The status, red after a failure. -/
def statusBox (p : Player) (width height : Nat) : Picture.Box :=
  let colour := if p.failure.isSome then .red else .white
  .titled ⟨0, height - statusHeight, width - sideWidth, statusHeight⟩ " Status ".toList
    colour colour [Cell.ofText colour p.status.text.toList]

/-- A label in the terminal's own colour, then a value in another. -/
def labelled (label : String) (colour : Colour) (value : String) : List Cell :=
  Cell.ofText .plain label.toList ++ Cell.ofText colour value.toList

/-- A V register with its label. -/
def registerCells (r : Registers) (indent : String) (x : Nat) : List Cell :=
  labelled (indent ++ "V" ++ Numeral.hex 1 x ++ ": ") .white
    (Numeral.hex 2 ((r.v[x]?).elim 0 UInt8.toNat))

/-- The lines about the registers. -/
def registerLines (p : Player) : List (List Cell) :=
  let r := p.cpu.store.registers
  (List.range 8).map (fun x => registerCells r "" x ++ registerCells r "   " (x + 8)) ++
    [labelled "PC: " .yellow (Numeral.hex 3 r.pc.toNat) ++
        labelled "   I: " .white (Numeral.hex 3 r.i.toNat),
      Cell.ofText .plain
        ("DT: " ++ Numeral.decimal 3 r.delay.toNat ++ "  ST: " ++ Numeral.decimal 3 r.sound.toNat
          ++ "  SP: " ++ toString r.stack.depth.val).toList,
      labelled "Cycles: " .cyan (toString p.cpu.cycles)]

/-- The registers. -/
def registerBox (p : Player) (width height : Nat) : Picture.Box :=
  .titled ⟨width - sideWidth, 0, sideWidth, height - helpHeight⟩ " Registers ".toList .green .plain
    (registerLines p)

/-- The reminder of the keys. -/
def helpBox (width height : Nat) : Picture.Box :=
  .titled ⟨width - sideWidth, height - helpHeight, sideWidth, helpHeight⟩ " Help ".toList
    .gray .gray
    (["space: Run/Pause", "bksp: Reset  esc: Quit", "0-9 a-f: Keypad", "arrows: 8 4 6 2"].map
      fun line => Cell.ofText .gray line.toList)

/-- The player on a terminal of a size. -/
def view (p : Player) (width height : Nat) : Picture :=
  [p.displayBox width height, p.statusBox width height, p.registerBox width height,
    helpBox width height]

end Chip8.Player
