import Chip8.Picture.Cell
import Chip8.Text.Cluster
import Chip8.Text.Columns

/-!
# Titles

A title is written into a row of cells that is there already.  Its characters need
not be of one column each, so it is written cluster by cluster.

* A cluster goes into the cell of its first column and keeps the colour of the cell.
* The cells of its other columns become blanks in the terminal's own colour.
* A cluster without columns goes into the cell before it, behind what is there.

The lines of a title are written one after the other in the same row.  Each starts
where the columns of those before it end, and a line without columns is left out.  A
line may be written into more cells than it has columns, as the letters of a
ligature are, and then the next line is written upon the last of them.  A line starts
with what its first cell holds, so clusters without columns at its start share the
cell of the one after them.

A title ends before the first cluster that does not fit into its columns, counted in
sixteen bits, or into the row.  At the end a symbol that is two columns wide covers
the cell after it, and what is in that cell is not seen.

`length_write` says that writing a title leaves the length of the row alone.
-/

namespace Chip8

namespace Title

/-! ## Lines -/

/-- A line without the carriage return at its end. -/
def withoutReturn (line : List Char) : List Char :=
  if line.getLast? = some '\r' then line.dropLast else line

/-- The lines of a text after one that was begun, which is given backwards.  A line ends with a line
feed, with a carriage return before it or not. -/
def linesFrom (begun : List Char) : List Char → List (List Char)
  | [] => [begun.reverse]
  | c :: cs =>
      if c = '\n' then withoutReturn begun.reverse :: linesFrom [] cs else linesFrom (c :: begun) cs

/-- The lines of a text. -/
def lines (text : List Char) : List (List Char) := linesFrom [] text

example : lines "a\nb\r\n\rc".toList = [['a'], ['b'], ['\r', 'c']] := by decide

/-! ## Writing -/

/-- A row with a symbol in a cell in place of what is there. -/
def put (x : Nat) (symbol : List Char) (row : List Cell) : List Cell :=
  row.modify x ({ · with symbol })

/-- A row with a symbol behind what is in a cell. -/
def append (x : Nat) (symbol : List Char) (row : List Cell) : List Cell :=
  row.modify x fun cell => { cell with symbol := cell.symbol ++ symbol }

/-- A row with some cells blank. -/
def clear (x : Nat) : (count : Nat) → List Cell → List Cell
  | 0, row => row
  | count + 1, row => clear (x + 1) count (row.set x (.blank .plain))

/-- A row with the clusters of a line from a column on, as far as they fit before a limit. -/
def writeClusters (start limit x : Nat) (row : List Cell) : List (List Char) → List Cell
  | [] => row
  | cluster :: clusters =>
      let width := columns cluster
      if limit < x + width then row
      else
        let row :=
          if x = start then append x cluster row
          else if width = 0 then append (x - 1) cluster row
          else put x cluster row
        writeClusters start limit (x + width) (clear (x + 1) (width - 1) row) clusters

/-- A row with a line from a column on, as far as it fits before a limit. -/
def writeLine (start limit : Nat) (line : List Char) (row : List Cell) : List Cell :=
  match clusters line with
  | [] => row
  | cluster :: rest =>
      if limit < start + columns cluster then row
      else writeClusters start limit start (put start [] row) (cluster :: rest)

/-- A row with lines from a column on, as far as they fit before a limit. -/
def writeLines (start limit : Nat) (row : List Cell) : List (List Char) → List Cell
  | [] => row
  | line :: lines =>
      let width := columns line
      if width = 0 then writeLines start limit row lines
      else if limit ≤ start then row
      else writeLines (start + width) limit (writeLine start limit line row) lines

/-- The cells of a row that are seen, the first one covered or not. -/
def seen (covered : Bool) : List Cell → List Cell
  | [] => []
  | cell :: row =>
      (if covered then .blank .plain else cell) :: seen (2 ≤ columns cell.symbol) row

/-- A row with a title at its start. -/
def write (title : List Char) (row : List Cell) : List Cell :=
  let width := (lines title).foldl (fun n line => n + columns line) 0
  seen false (writeLines 0 (min (width % UInt16.size) row.length) row (lines title))

/-! ## The length of the row -/

@[simp] theorem length_put (x : Nat) (symbol : List Char) (row : List Cell) :
    (put x symbol row).length = row.length := by
  simp [put]

@[simp] theorem length_append (x : Nat) (symbol : List Char) (row : List Cell) :
    (append x symbol row).length = row.length := by
  simp [append]

@[simp] theorem length_clear (x count : Nat) (row : List Cell) :
    (clear x count row).length = row.length := by
  induction count generalizing x row with
  | zero => rfl
  | succ count ih => simp [clear, ih]

@[simp] theorem length_writeClusters (start limit x : Nat) (row : List Cell)
    (clusters : List (List Char)) :
    (writeClusters start limit x row clusters).length = row.length := by
  induction clusters generalizing x row with
  | nil => rfl
  | cons cluster clusters ih =>
      simp only [writeClusters]
      split
      · rfl
      · rw [ih, length_clear]
        split
        · simp
        · split <;> simp

@[simp] theorem length_writeLine (start limit : Nat) (line : List Char) (row : List Cell) :
    (writeLine start limit line row).length = row.length := by
  unfold writeLine
  split
  · rfl
  · split <;> simp

@[simp] theorem length_writeLines (start limit : Nat) (row : List Cell)
    (lines : List (List Char)) : (writeLines start limit row lines).length = row.length := by
  induction lines generalizing start row with
  | nil => rfl
  | cons line lines ih =>
      simp only [writeLines]
      split
      · exact ih ..
      · split
        · rfl
        · rw [ih, length_writeLine]

@[simp] theorem length_seen (covered : Bool) (row : List Cell) :
    (seen covered row).length = row.length := by
  induction row generalizing covered with
  | nil => rfl
  | cons cell row ih => simp [seen, ih]

theorem length_write (title : List Char) (row : List Cell) :
    (write title row).length = row.length := by
  simp [write]

example :
    (write "a\nb".toList (List.replicate 4 ⟨['─'], .green⟩)).map (·.symbol) =
      [['a'], ['b'], ['─'], ['─']] := by
  decide +kernel

example :
    write ['\u30B2'] (List.replicate 3 ⟨['─'], .green⟩) =
      [⟨['\u30B2'], .green⟩, .blank .plain, ⟨['─'], .green⟩] := by
  decide +kernel

end Title

end Chip8
