import Mathlib.Algebra.BigOperators.Group.Finset.Piecewise
import Mathlib.Algebra.BigOperators.Group.Finset.Sigma
import Mathlib.Data.Nat.Count
import Chip8.Player.View
import Chip8.Proofs.Display.Drawing

/-!
# The views of a plane

A frame buffer is one run of pixels, and its views walk it each in its own way: one pixel
at an offset, rows cut out of the run, the text put together row by row, and the half
blocks of a terminal from two rows at a time.  All of them show the picture that
`FrameBuffer.pixel` tells.

The views by lines are compared through one form (`table`), in which the entry of a
column and a row is a function of both.  The rows of a plane are the table of its pixels
(`rows_eq_table`).  A view made from the rows is then a table too, and its entries can be
read off.  The rows are also what the run of pixels falls into when it is cut every width
(`rows_eq_toChunks`), whatever the height.

A line of half blocks shows two rows, so a plane can be read back from the lines and its
size (`ofHalfBlocks_halfBlocks`).  The lines alone do not tell an even height from the odd
one below it.

`views_agree` puts the views together, after any sets, clears and sprites.
-/

namespace Chip8

/-! ## Tables -/

section
variable {α β : Type} {width height : Nat} {entry : Nat → Nat → α}

/-- Lines of entries, each told by its column and its row. -/
def table (width height : Nat) (entry : Nat → Nat → α) : List (List α) :=
  (List.range height).map fun y => (List.range width).map fun x => entry x y

/-- The entry of some lines at a column and a row. -/
def entryAt (lines : List (List α)) (x y : Nat) : Option α := lines[y]?.bind (·[x]?)

/-- Lines that show entries: one for each row, all as long as a row, with every entry at its
column and row. -/
structure Shows (lines : List (List α)) (width height : Nat) (entry : Nat → Nat → α) : Prop where
  count : lines.length = height
  long : ∀ line ∈ lines, line.length = width
  place : ∀ x < width, ∀ y < height, entryAt lines x y = some (entry x y)

theorem shows_table (width height : Nat) (entry : Nat → Nat → α) :
    Shows (table width height entry) width height entry where
  count := by simp [table]
  long line membership := by
    obtain ⟨y, -, rfl⟩ := List.mem_map.mp membership
    simp
  place x hx y hy := by simp [entryAt, table, hx, hy]

theorem map_table (f : α → β) :
    (table width height entry).map (List.map f) = table width height fun x y => f (entry x y) := by
  simp [table, Function.comp_def]

theorem table_congr {other : Nat → Nat → α}
    (same : ∀ x < width, ∀ y < height, entry x y = other x y) :
    table width height entry = table width height other := by
  refine List.map_congr_left fun y inHeight => List.map_congr_left fun x inWidth => ?_
  exact same x (List.mem_range.mp inWidth) y (List.mem_range.mp inHeight)

theorem table_succ (width height : Nat) (entry : Nat → Nat → α) :
    table width (height + 1) entry =
      (List.range width).map (entry · 0) :: table width height fun x y => entry x (y + 1) := by
  simp [table, List.range_succ_eq_map, Function.comp_def]

end

/-! ## Chunks -/

section
variable {α : Type} {length : Nat} {chunk : Array α} {before : Array (List α)}

/-- A chunk takes what it has room for. -/
theorem toChunks_go_append {taken rest : List α} (room : chunk.size + taken.length ≤ length) :
    List.toChunks.go length (taken ++ rest) chunk before =
      List.toChunks.go length rest (chunk ++ taken) before := by
  induction taken generalizing chunk with
  | nil => simp
  | cons a taken ih =>
      rw [List.length_cons] at room
      have short : chunk.size ≠ length := by omega
      have next : (chunk.push a).size + taken.length ≤ length := by
        rw [Array.size_push]
        omega
      rw [List.cons_append, List.toChunks.go, if_neg (by simpa using short), ih next]
      simp

theorem toChunks_go_line {a : α} {tail rest : List α} (whole : (a :: tail).length = length) :
    List.toChunks.go length (tail ++ rest) #[a] before =
      List.toChunks.go length rest (a :: tail).toArray before := by
  have room : #[a].size + tail.length ≤ length := by
    rw [← whole, List.length_cons, Nat.add_comm]
    exact Nat.le_refl _
  rw [toChunks_go_append room]
  simp

/-- After a full chunk each line of the length is a chunk. -/
theorem toChunks_go_flatten {lines : List (List α)} (some : 0 < length)
    (long : ∀ line ∈ lines, line.length = length) (full : chunk.size = length) :
    List.toChunks.go length lines.flatten chunk before =
      before.toList ++ chunk.toList :: lines := by
  induction lines generalizing chunk before with
  | nil => simp [List.toChunks.go]
  | cons line lines ih =>
      obtain ⟨whole, later⟩ := List.forall_mem_cons.mp long
      obtain ⟨a, tail, rfl⟩ := List.exists_cons_of_length_pos (whole ▸ some)
      rw [List.flatten_cons, List.cons_append, List.toChunks.go, if_pos (by simpa using full)]
      refine (toChunks_go_line whole).trans ((ih later whole).trans ?_)
      simp

/-- Lines of a length, written one after the other, are cut there again. -/
theorem toChunks_flatten {lines : List (List α)} (some : 0 < length)
    (long : ∀ line ∈ lines, line.length = length) : lines.flatten.toChunks length = lines := by
  cases lines with
  | nil => simp [List.toChunks]
  | cons line lines =>
      obtain ⟨whole, later⟩ := List.forall_mem_cons.mp long
      obtain ⟨a, tail, rfl⟩ := List.exists_cons_of_length_pos (whole ▸ some)
      rw [List.flatten_cons, List.cons_append, List.toChunks]
      · exact (toChunks_go_line whole).trans (toChunks_go_flatten some later whole)
      · exact Nat.ne_of_gt some

end

namespace FrameBuffer

variable {f : FrameBuffer} {x y : Nat}

/-! ## Rows -/

theorem row_eq_take_drop (f : FrameBuffer) (y : Nat) :
    f.row y = (f.pixels.toList.drop (f.width * y)).take f.width := by
  rw [row, Array.toList_extract, List.extract_eq_take_drop, Nat.add_sub_cancel_left]
  rfl

theorem row_eq (hy : y < f.height) : f.row y = (List.range f.width).map (f.pixel · y) := by
  have room : f.width * y + f.width ≤ f.width * f.height := Nat.mul_le_mul_left f.width hy
  rw [row_eq_take_drop]
  apply List.ext_getElem
  · simp only [List.length_take, List.length_drop, Vector.length_toList, List.length_map,
      List.length_range]
    omega
  · intro x inRow inRange
    have hx : x < f.width := by simpa using inRange
    have inside := Display.offset_lt hx hy
    simp [pixel, hx, hy, inside]

/-- The rows are the pixels by column and row. -/
theorem rows_eq_table (wide : 0 < f.width) : f.rows = table f.width f.height f.pixel := by
  rw [rows, if_neg (Nat.ne_of_gt wide), table]
  exact List.map_congr_left fun y inHeight => row_eq (List.mem_range.mp inHeight)

/-- The first rows hold the first pixels, in the order of the offsets. -/
theorem flatten_map_row (f : FrameBuffer) (n : Nat) :
    ((List.range n).map f.row).flatten = f.pixels.toList.take (f.width * n) := by
  induction n with
  | zero => simp
  | succ n ih =>
      rw [List.range_succ, List.map_append, List.flatten_append, ih, Nat.mul_succ, List.take_add,
        ← row_eq_take_drop]
      simp

theorem flatten_rows (wide : 0 < f.width) : f.rows.flatten = f.pixels.toList := by
  rw [rows, if_neg (Nat.ne_of_gt wide), flatten_map_row]
  exact List.take_of_length_le (Nat.le_of_eq f.pixels.length_toList)

/-- The rows are the run of pixels cut every width.  The height has no part in it. -/
theorem rows_eq_toChunks (f : FrameBuffer) :
    f.rows = f.pixels.toList.toChunks (max f.width 1) := by
  by_cases flat : f.width = 0
  · have none : f.pixels.toList = [] := by
      rw [← List.length_eq_zero_iff, Vector.length_toList, flat, Nat.zero_mul]
    rw [rows, if_pos flat, none]
    simp [List.toChunks]
  · have wide : 0 < f.width := Nat.pos_of_ne_zero flat
    rw [← flatten_rows wide, Nat.max_eq_left wide, toChunks_flatten wide]
    rw [rows_eq_table wide]
    exact (shows_table _ _ _).long

/-! ## Counting -/

theorem count_row (width y : Nat) (lit : Nat → Nat → Bool) :
    ((List.range width).map (lit · y)).count true =
      ((Finset.range width).filter fun x => lit x y = true).card := by
  rw [← Nat.count_eq_card_filter_range, Nat.count, List.count, List.countP_map]
  refine List.countP_congr fun x _ => ?_
  simp

/-- The lit pixels of a table are counted row by row. -/
theorem count_table_eq_sum (width height : Nat) (lit : Nat → Nat → Bool) :
    (table width height lit).flatten.count true =
      ∑ y ∈ Finset.range height, ((Finset.range width).filter fun x => lit x y = true).card := by
  unfold table
  induction height with
  | zero => rfl
  | succ height ih =>
      rw [List.range_succ, List.map_append, List.flatten_append, List.count_append, ih,
        Finset.sum_range_succ, ← count_row width height]
      simp

theorem count_table (width height : Nat) (lit : Nat → Nat → Bool) :
    (table width height lit).flatten.count true =
      ((Finset.range width ×ˢ Finset.range height).filter fun p => lit p.1 p.2 = true).card := by
  rw [count_table_eq_sum, Finset.card_filter, Finset.sum_product_right]
  exact Finset.sum_congr rfl fun y _ => Finset.card_filter _ _

/-- The number of lit pixels is the number of positions at which one is lit. -/
theorem lit_eq_card (wide : 0 < f.width) :
    f.lit = ((Finset.range f.width ×ˢ Finset.range f.height).filter fun p =>
      f.pixel p.1 p.2 = true).card := by
  rw [lit, ← flatten_rows wide, rows_eq_table wide, count_table]

/-! ## Text -/

/-- The lines of the plane as text. -/
def textLines (f : FrameBuffer) (on off : Char) : List (List Char) :=
  f.rows.map (List.map fun lit => if lit then on else off)

theorem toList_toText (f : FrameBuffer) (on off : Char) :
    (f.toText on off).toList = (f.textLines on off).flatMap (· ++ ['\n']) := by
  rw [toText, String.toList_ofList, textLines, List.flatMap_map]

theorem textLines_eq_table (wide : 0 < f.width) (on off : Char) :
    f.textLines on off =
      table f.width f.height fun x y => if f.pixel x y then on else off := by
  rw [textLines, rows_eq_table wide, map_table]

/-- Lines that are each closed by a separator are found again by splitting there. -/
theorem splitOn_flatMap {lines : List (List Char)} {separator : Char}
    (free : ∀ line ∈ lines, separator ∉ line) :
    (lines.flatMap (· ++ [separator])).splitOn separator = lines ++ [[]] := by
  induction lines with
  | nil => rfl
  | cons line rest ih =>
      have clear : ∀ c ∈ line, (c == separator) = false := by
        intro c inLine
        refine beq_eq_false_iff_ne.mpr ?_
        rintro rfl
        exact free line (.head _) inLine
      have later := ih fun other tail => free other (.tail _ tail)
      rw [List.splitOn_eq_splitOnP] at later ⊢
      rw [List.flatMap_cons, List.append_assoc, List.singleton_append,
        List.splitOnP_append_cons_of_forall_mem clear separator (beq_self_eq_true _), later]
      rfl

theorem splitOn_toText (f : FrameBuffer) {on off : Char} (onChar : on ≠ '\n')
    (offChar : off ≠ '\n') :
    (f.toText on off).toList.splitOn '\n' = f.textLines on off ++ [[]] := by
  rw [toList_toText]
  apply splitOn_flatMap
  intro line isLine inLine
  obtain ⟨row, -, rfl⟩ := List.mem_map.mp isLine
  obtain ⟨lit, -, same⟩ := List.mem_map.mp inLine
  cases lit with
  | true => exact onChar same
  | false => exact offChar same

/-! ## Half blocks -/

/-- The pixels that a half block shows, the upper one first. -/
def halves : Char → Bool × Bool
  | '█' => (true, true)
  | '▀' => (true, false)
  | '▄' => (false, true)
  | _ => (false, false)

@[simp] theorem halves_halfBlock (upper lower : Bool) :
    halves (halfBlock upper lower) = (upper, lower) := by
  cases upper <;> cases lower <;> rfl

theorem halfBlock_inj {upper lower upper' lower' : Bool} :
    halfBlock upper lower = halfBlock upper' lower' ↔ upper = upper' ∧ lower = lower' := by
  constructor
  · intro same
    have shown := congrArg halves same
    rw [halves_halfBlock, halves_halfBlock] at shown
    exact Prod.mk.inj shown
  · rintro ⟨rfl, rfl⟩
    rfl

/-- Rows that are a table of pixels give a table of half blocks.  Below the last row no pixel is
lit. -/
theorem halfBlockLines_table (width : Nat) : ∀ (height : Nat) (lit : Nat → Nat → Bool),
    halfBlockLines (table width height lit) = table width ((height + 1) / 2) fun x k =>
      halfBlock (lit x (2 * k)) (decide (2 * k + 1 < height) && lit x (2 * k + 1))
  | 0, _ => rfl
  | 1, lit => by simp [table, halfBlockLines, Function.comp_def]
  | height + 2, lit => by
      -- A line takes two rows, and the rows below it are a table of their own.
      have half : (height + 2 + 1) / 2 = (height + 1) / 2 + 1 := by omega
      rw [table_succ, table_succ, halfBlockLines, halfBlockLines_table width height, half,
        table_succ]
      refine congrArg₂ List.cons ?_ (table_congr fun x _ k _ => ?_)
      · simp [List.zipWith_map]
      · have room : 2 * (k + 1) + 1 < height + 2 ↔ 2 * k + 1 < height := by omega
        simp only [room]
        rfl

theorem halfBlocks_eq_table (wide : 0 < f.width) :
    f.halfBlocks = table f.width ((f.height + 1) / 2) fun x k =>
      halfBlock (f.pixel x (2 * k)) (f.pixel x (2 * k + 1)) := by
  rw [halfBlocks, rows_eq_table wide, halfBlockLines_table]
  refine table_congr fun x hx k hk => ?_
  by_cases inside : 2 * k + 1 < f.height
  · rw [decide_eq_true inside, Bool.true_and]
  · have below : f.pixel x (2 * k + 1) = false := pixel_of_outside f fun here => inside here.2
    rw [decide_eq_false inside, Bool.false_and, below]

/-! ## Reading half blocks back -/

/-- Whether lines of half blocks show a pixel as lit. -/
def litIn (lines : List (List Char)) (x y : Nat) : Bool :=
  match entryAt lines x (y / 2) with
  | some c => if y % 2 = 0 then (halves c).1 else (halves c).2
  | none => false

/-- The plane of a size with given pixels. -/
def ofPixels (width height : Nat) (lit : Nat → Nat → Bool) : FrameBuffer :=
  ⟨width, height, .ofFn fun o => lit (o % width) (o / width)⟩

/-- The plane of a size that lines of half blocks show. -/
def ofHalfBlocks (width height : Nat) (lines : List (List Char)) : FrameBuffer :=
  ofPixels width height (litIn lines)

theorem ofPixels_eq {lit : Nat → Nat → Bool}
    (same : ∀ x < f.width, ∀ y < f.height, lit x y = f.pixel x y) :
    ofPixels f.width f.height lit = f := by
  obtain ⟨width, height, pixels⟩ := f
  refine congrArg (FrameBuffer.mk width height) (Vector.ext fun o inside => ?_)
  have hy : o / width < height := Nat.div_lt_of_lt_mul inside
  have hx : o % width < width := Nat.mod_lt _ (Nat.pos_of_lt_mul_right inside)
  rw [Vector.getElem_ofFn, same _ hx _ hy, pixel]
  simp [hx, hy, Nat.div_add_mod, inside]

theorem ofHalfBlocks_halfBlocks (wide : 0 < f.width) :
    ofHalfBlocks f.width f.height f.halfBlocks = f := by
  refine ofPixels_eq fun x hx y hy => ?_
  have hk : y / 2 < (f.height + 1) / 2 := by omega
  rw [litIn, halfBlocks_eq_table wide, (shows_table _ _ _).place x hx _ hk]
  simp only [halves_halfBlock]
  rcases Nat.mod_two_eq_zero_or_one y with even | odd
  · have upper : 2 * (y / 2) = y := by omega
    rw [if_pos even, upper]
  · have lower : 2 * (y / 2) + 1 = y := by omega
    rw [if_neg (by omega), lower]

-- The size is needed: an unlit last row is not seen in the lines.
example : (blank 1 1).halfBlocks = (blank 1 2).halfBlocks := by decide

/-! ## Every view -/

/-- A change to a plane. -/
inductive Edit where
  /-- A pixel is set, if the plane has one at the offset. -/
  | set (offset : Nat) (value : UInt8)
  /-- Every pixel is turned off. -/
  | clear
  /-- A sprite is drawn with its top left corner at a position. -/
  | sprite (rule : CollisionRule) (x y : Nat) (rows : List UInt8)

/-- The plane after a change, whatever came of it. -/
def edit (f : FrameBuffer) : Edit → FrameBuffer
  | .set offset value => (Display.set f offset value).state
  | .clear => (Display.clear f).state
  | .sprite rule x y rows =>
      (Display.blit rule f false (Display.dots f.width f.height x y rows)).state

/-- The plane after some changes. -/
def editAll (f : FrameBuffer) (edits : List Edit) : FrameBuffer := edits.foldl edit f

theorem sameSize_edit (f : FrameBuffer) (change : Edit) : SameSize f (f.edit change) := by
  cases change with
  | set offset value => exact size_set f offset value
  | clear => exact ⟨rfl, rfl⟩
  | sprite rule x y rows => exact sameSize_blit f rule false _

theorem sameSize_editAll (f : FrameBuffer) (edits : List Edit) : SameSize f (f.editAll edits) := by
  induction edits generalizing f with
  | nil => exact ⟨rfl, rfl⟩
  | cons change rest ih =>
      have first := sameSize_edit f change
      have later := ih (f.edit change)
      exact ⟨later.1.trans first.1, later.2.trans first.2⟩

/-- The text of a plane shows its pixels. -/
structure TextAgrees (f : FrameBuffer) (on off : Char) : Prop where
  /-- The text is its lines, each closed by a line end. -/
  closed : (f.toText on off).toList = (f.textLines on off).flatMap (· ++ ['\n'])
  /-- Where the pixels are not shown by line ends, the lines are what stands between them. -/
  split : on ≠ '\n' → off ≠ '\n' →
    (f.toText on off).toList.splitOn '\n' = f.textLines on off ++ [[]]
  lines : Shows (f.textLines on off) f.width f.height fun x y => if f.pixel x y then on else off
  lit : on ≠ off → ∀ x < f.width, ∀ y < f.height,
    (entryAt (f.textLines on off) x y = some on ↔ f.pixel x y = true)

/-- The half blocks of a plane show its pixels, two to a character. -/
structure HalfBlocksAgree (f : FrameBuffer) : Prop where
  /-- Under a last row without a partner no pixel is lit, so the lower half is off. -/
  lines : Shows f.halfBlocks f.width ((f.height + 1) / 2) fun x k =>
    halfBlock (f.pixel x (2 * k)) (f.pixel x (2 * k + 1))
  /-- A character tells its two pixels and no other. -/
  tells : ∀ g, SameSize f g → ∀ x < f.width, ∀ k < (f.height + 1) / 2,
    (entryAt g.halfBlocks x k = entryAt f.halfBlocks x k ↔
      g.pixel x (2 * k) = f.pixel x (2 * k) ∧ g.pixel x (2 * k + 1) = f.pixel x (2 * k + 1))
  recovered : ofHalfBlocks f.width f.height f.halfBlocks = f
  /-- They are what a player shows whose machine draws on the plane. -/
  shown : ∀ p : Player, p.cpu.display = f → ∀ columns lines,
    (p.displayBox columns lines).lines = f.halfBlocks.map (Cell.ofText .white)

/-- Every view of a plane shows the same picture. -/
structure ViewsAgree (f : FrameBuffer) : Prop where
  off : ∀ x y, ¬ (x < f.width ∧ y < f.height) → f.pixel x y = false
  get : ∀ x < f.width, ∀ y < f.height,
    ∃ value, f.get (f.width * y + x) = .ok value ∧ (value != 0) = f.pixel x y
  rows : Shows f.rows f.width f.height f.pixel
  chunks : f.rows = f.pixels.toList.toChunks (max f.width 1)
  lit : f.lit = ((Finset.range f.width ×ˢ Finset.range f.height).filter fun p =>
    f.pixel p.1 p.2 = true).card
  text : ∀ on off, TextAgrees f on off
  halfBlocks : HalfBlocksAgree f

theorem textAgrees (wide : 0 < f.width) (on off : Char) : TextAgrees f on off where
  closed := toList_toText f on off
  split := splitOn_toText f
  lines := by
    rw [textLines_eq_table wide]
    exact shows_table _ _ _
  lit different x hx y hy := by
    rw [textLines_eq_table wide, (shows_table _ _ _).place x hx y hy, Option.some.injEq]
    cases f.pixel x y with
    | true => simp
    | false => simp [different.symm]

theorem halfBlocksAgree (wide : 0 < f.width) : HalfBlocksAgree f where
  lines := by
    rw [halfBlocks_eq_table wide]
    exact shows_table _ _ _
  tells g same x hx k hk := by
    obtain ⟨sameWidth, sameHeight⟩ := same
    have gWide : 0 < g.width := sameWidth ▸ wide
    rw [halfBlocks_eq_table wide, halfBlocks_eq_table gWide, sameWidth, sameHeight,
      (shows_table _ _ _).place x hx k hk, (shows_table _ _ _).place x hx k hk,
      Option.some.injEq, halfBlock_inj]
  recovered := ofHalfBlocks_halfBlocks wide
  shown p same columns lines := by
    rw [← same]
    rfl

theorem viewsAgree_of_wide (wide : 0 < f.width) : ViewsAgree f where
  off x y outside := pixel_of_outside f outside
  get x hx y hy := by
    have inside := Display.offset_lt hx hy
    have got := get_of_lt f inside
    refine ⟨_, got, ?_⟩
    rw [pixel_eq_lit f hx hy, Display.lit_of_get got]
  rows := by
    rw [rows_eq_table wide]
    exact shows_table _ _ _
  chunks := f.rows_eq_toChunks
  lit := lit_eq_card wide
  text := textAgrees wide
  halfBlocks := halfBlocksAgree wide

/-- Whatever was set, cleared or drawn, the plane keeps its size and its views agree. -/
theorem views_agree (f : FrameBuffer) (wide : 0 < f.width) (edits : List Edit) :
    SameSize f (f.editAll edits) ∧ ViewsAgree (f.editAll edits) := by
  have size := sameSize_editAll f edits
  have stillWide : 0 < (f.editAll edits).width := by
    rw [size.1]
    exact wide
  exact ⟨size, viewsAgree_of_wide stillWide⟩

/-- Two bits of a sprite around the right edge of a plane with an odd last row. -/
theorem views_around_the_edge :
    0 < (blank 3 3).width ∧
      ((blank 3 3).editAll [.set 4 7, .sprite .erased 2 1 [0xC0, 0x80]]).halfBlocks =
        [['▄', '▄', '▄'], [' ', ' ', '▀']] ∧
      SameSize (blank 3 3) ((blank 3 3).editAll [.set 4 7, .sprite .erased 2 1 [0xC0, 0x80]]) ∧
      ViewsAgree ((blank 3 3).editAll [.set 4 7, .sprite .erased 2 1 [0xC0, 0x80]]) :=
  ⟨by decide, by decide, views_agree (blank 3 3) (by decide) _⟩

end FrameBuffer

end Chip8
