import Chip8.Proofs.Cpu.Verdict
import Chip8.Proofs.Display.Drawing
import Chip8.Proofs.Store.Reset

/-!
# Drawing a sprite

A sprite wraps around at the edges of the plane, and on a plane narrower than eight
pixels or lower than the sprite it wraps onto itself.  What becomes of a pixel is told
by how many of the bits that are one land on it (`hits`): the plane is turned over where
that number is odd (`sprite_overlaid`).

A collision is decided bit by bit, while the sprite is drawn.  Each bit is compared with
what the bits before it have left of its pixel, so a sprite that wraps onto itself can
collide with itself, on a plane where nothing was lit (`collision_with_own_bits`).  What
the flag tells is stated in `CollisionTold`; on a plane that the sprite fits it is what
was there before the drawing.
-/

namespace Chip8.Cpu

open Display (places)

variable {δ : Type}

/-! ## Sprites -/

/-- Whether a bit of the sprite at I is one.  The rows stand from I on, top first, and the bits of
a row come left first. -/
def spriteBit (c : Cpu δ) (row col : Nat) : Bool :=
  (c.store.memory.cells[c.store.registers.i.toNat + row]?.getD 0).toNat.testBit (7 - col)

section
variable [Display δ] (c : Cpu δ) (x y : UInt8)

/-- The column and the row of the plane on which a bit lands, drawn at Vx and Vy. -/
def landing (row col : Nat) : Nat × Nat :=
  (((c.store.value x).toNat + col) % Display.width c.display,
    ((c.store.value y).toNat + row) % Display.height c.display)

/-- The offset of a position. -/
def offsetOf (position : Nat × Nat) : Nat := Display.width c.display * position.2 + position.1

/-- How many of some bits are one and land on a position. -/
def hits (bits : List (Nat × Nat)) (position : Nat × Nat) : Nat :=
  bits.countP fun (row, col) => c.spriteBit row col && c.landing x y row col == position

/-- The dot of a bit. -/
def spriteDot (place : Nat × Nat) : Display.Dot :=
  ⟨c.offsetOf (c.landing x y place.1 place.2), c.spriteBit place.1 place.2⟩

end

section
variable [Display δ] {c : Cpu δ} {x y rows : UInt8}

theorem landing_fst_lt (hw : Display.width c.display ≠ 0) (row col : Nat) :
    (c.landing x y row col).1 < Display.width c.display :=
  Nat.mod_lt _ (Nat.pos_of_ne_zero hw)

theorem landing_snd_lt (hh : Display.height c.display ≠ 0) (row col : Nat) :
    (c.landing x y row col).2 < Display.height c.display :=
  Nat.mod_lt _ (Nat.pos_of_ne_zero hh)

/-- Two positions with the same offset are the same. -/
theorem offsetOf_inj {p q : Nat × Nat} (hp : p.1 < Display.width c.display)
    (hq : q.1 < Display.width c.display) : c.offsetOf p = c.offsetOf q ↔ p = q := by
  refine ⟨fun same => ?_, congrArg _⟩
  unfold offsetOf at same
  have column := congrArg (· % Display.width c.display) same
  have row := congrArg (· / Display.width c.display) same
  have positive : 0 < Display.width c.display := Nat.zero_lt_of_lt hp
  simp only [Nat.mul_add_mod, Nat.mod_eq_of_lt hp, Nat.mod_eq_of_lt hq] at column
  simp only [Nat.mul_add_div positive, Nat.div_eq_of_lt hp, Nat.div_eq_of_lt hq,
    Nat.add_zero] at row
  exact Prod.ext column row

theorem turns_spriteDot (hw : Display.width c.display ≠ 0) (bits : List (Nat × Nat))
    {position : Nat × Nat} (inside : position.1 < Display.width c.display) :
    Display.turns (bits.map (c.spriteDot x y)) (c.offsetOf position) =
      c.hits x y bits position := by
  rw [Display.turns, List.countP_map, hits]
  apply List.countP_congr
  intro place _
  simp only [Function.comp_apply, spriteDot, Bool.and_eq_true, beq_iff_eq,
    offsetOf_inj (landing_fst_lt hw _ _) inside]

/-- The dots of a sprite that can be taken from memory are those of its bits. -/
theorem spriteDots_ok (hx : x.toNat < 16) (hy : y.toNat < 16) {dots : List Display.Dot}
    (taken : c.spriteDots x y rows = .ok dots) :
    Display.width c.display ≠ 0 ∧ Display.height c.display ≠ 0 ∧
      dots = (places rows.toNat).map (c.spriteDot x y) := by
  rw [spriteDots_eq c hx hy] at taken
  cases sliced : c.store.memory.slice c.store.registers.i.toNat rows.toNat with
  | error e =>
      rw [sliced] at taken
      cases taken
  | ok bytes =>
      rw [sliced] at taken
      dsimp only at taken
      split at taken
      next => cases taken
      next plane =>
        obtain ⟨hw, hh⟩ := not_or.mp plane
        obtain ⟨-, length, cells⟩ := Memory.slice_ok sliced
        refine ⟨hw, hh, ?_⟩
        rw [← Except.ok.inj taken, Display.dots_eq, length]
        apply List.map_congr_left
        rintro ⟨row, col⟩ place
        have below := (Display.mem_places_iff.mp place).1
        simp only [cells row below]
        rfl

/-- A drawing that was done drew the dots of its bits and told in VF whether one collided. -/
structure Drew (c : Cpu δ) (x y rows : UInt8) (hit : Bool) : Prop where
  width : Display.width c.display ≠ 0
  height : Display.height c.display ≠ 0
  drawn : Display.blit c.dialect.collision c.display false
    ((places rows.toNat).map (c.spriteDot x y)) = ⟨.ok hit, c.step.state.display⟩
  flag : c.step.state.store.value Registers.flag = Store.flagByte hit

theorem draw_ok {flow : Flow} {done : Cpu δ}
    (drawn : c.draw x y rows = ⟨.ok flow, done⟩) :
    ∃ dots hit, c.spriteDots x y rows = .ok dots ∧
      Display.blit c.dialect.collision c.display false dots = ⟨.ok hit, done.display⟩ ∧
      done.store = c.store.put Registers.flag (Store.flagByte hit) := by
  rw [draw] at drawn
  cases taken : c.spriteDots x y rows with
  | error e =>
      rw [taken] at drawn
      cases drawn
  | ok dots =>
      rw [taken] at drawn
      dsimp only at drawn
      cases blitted : Display.blit c.dialect.collision c.display false dots with
      | mk result display =>
          rw [blitted] at drawn
          cases result with
          | error f => cases drawn
          | ok hit =>
              dsimp only at drawn
              rw [Store.setV_eq _ _ Store.flag_lt, Store.toUInt8_flagValue] at drawn
              cases drawn
              exact ⟨dots, hit, rfl, blitted, rfl⟩

theorem exists_drew (ok : c.step.result = .ok (.draw x y rows)) : ∃ hit, c.Drew x y rows hit := by
  obtain ⟨i, flow, done, store, ran⟩ := exists_of_step_ok ok
  obtain ⟨hx, hy, -⟩ := ran.ready.inRange
  obtain ⟨dots, hit, taken, drawn, flagged⟩ := draw_ok (c := c.tickTimers) ran.executed
  obtain ⟨hw, hh, rfl⟩ := spriteDots_ok hx hy taken
  obtain ⟨pc, -, moved⟩ := Store.follow_ok ran.followed
  refine ⟨hit, hw, hh, ?_, ?_⟩
  · rw [ran.state]
    exact drawn
  · rw [ran.state, moved]
    change done.store.value _ = _
    rw [flagged, Store.value_put _ _ Store.flag_lt, if_pos rfl]

theorem Drew.inside {hit : Bool} (drew : c.Drew x y rows hit) {dot : Display.Dot}
    (membership : dot ∈ (places rows.toNat).map (c.spriteDot x y)) :
    dot.offset < Display.width c.display * Display.height c.display := by
  obtain ⟨place, -, rfl⟩ := List.mem_map.mp membership
  exact Display.offset_lt (landing_fst_lt drew.width _ _) (landing_snd_lt drew.height _ _)

end

/-! ## The plane after a sprite -/

section
variable {c : Cpu FrameBuffer} {x y rows : UInt8} {hit : Bool}

/-- A plane with a sprite laid over it, in which every bit that is one turns its pixel over. -/
structure Overlaid (c : Cpu FrameBuffer) (x y rows : UInt8) (plane : FrameBuffer) : Prop where
  width : plane.width = c.display.width
  height : plane.height = c.display.height
  /-- A pixel is turned over when an odd number of bits that are one land on it. -/
  pixel : ∀ px py, plane.pixel px py =
    (c.display.pixel px py ^^ (c.hits x y (places rows.toNat) (px, py) % 2 == 1))
  /-- The pixels of the bits are set one after the other, and all of them are on the plane. -/
  wrote : ∃ writes : List (Nat × UInt8), plane = Display.setAll c.display writes ∧
    writes.map Prod.fst = (places rows.toNat).map (fun (row, col) =>
      c.offsetOf (c.landing x y row col)) ∧
    ∀ write ∈ writes, write.1 < c.display.width * c.display.height

theorem hits_outside (drew : c.Drew x y rows hit) {px py : Nat} (bits : List (Nat × Nat))
    (outside : ¬ (px < c.display.width ∧ py < c.display.height)) :
    c.hits x y bits (px, py) = 0 := by
  rw [hits, List.countP_eq_zero]
  rintro ⟨row, col⟩ - lands
  simp only [Bool.and_eq_true, beq_iff_eq] at lands
  have inside := landing_fst_lt (x := x) (y := y) drew.width row col
  have above := landing_snd_lt (x := x) (y := y) drew.height row col
  rw [lands.2] at inside above
  exact outside ⟨inside, above⟩

theorem size_drawn (drew : c.Drew x y rows hit) :
    FrameBuffer.SameSize c.display c.step.state.display := by
  rw [← show _ = c.step.state.display from congrArg Attempt.state drew.drawn]
  exact FrameBuffer.sameSize_blit c.display c.dialect.collision false _

theorem pixel_drawn (drew : c.Drew x y rows hit) (px py : Nat) :
    c.step.state.display.pixel px py =
      (c.display.pixel px py ^^ (c.hits x y (places rows.toNat) (px, py) % 2 == 1)) := by
  obtain ⟨sameWidth, sameHeight⟩ := size_drawn drew
  by_cases inside : px < c.display.width ∧ py < c.display.height
  · obtain ⟨hx, hy⟩ := inside
    have blitted := Display.lit_blit c.display.faithful (fun dot => drew.inside)
      (congrArg Attempt.result drew.drawn) (c.offsetOf (px, py))
    rw [drew.drawn, turns_spriteDot drew.width _ hx] at blitted
    rw [FrameBuffer.pixel_eq_lit _ (by rwa [sameWidth]) (by rwa [sameHeight]), sameWidth,
      FrameBuffer.pixel_eq_lit _ hx hy]
    exact blitted
  · rw [FrameBuffer.pixel_of_outside _ inside, hits_outside drew _ inside,
      FrameBuffer.pixel_of_outside _ (by rwa [sameWidth, sameHeight])]
    rfl

/-- A sprite that was drawn is laid over the plane by exclusive or, wrapped around at its edges. -/
theorem sprite_overlaid (ok : c.step.result = .ok (.draw x y rows)) :
    c.Overlaid x y rows c.step.state.display := by
  obtain ⟨hit, drew⟩ := exists_drew ok
  obtain ⟨width, height⟩ := size_drawn drew
  obtain ⟨writes, offsets, left⟩ :=
    Display.exists_writes_of_blit (congrArg Attempt.result drew.drawn)
  rw [drew.drawn] at left
  rw [List.map_map] at offsets
  refine ⟨width, height, pixel_drawn drew, writes, left, offsets, ?_⟩
  intro write membership
  have listed : write.1 ∈ writes.map Prod.fst := List.mem_map_of_mem membership
  rw [offsets, ← List.map_map] at listed
  obtain ⟨dot, among, same⟩ := List.mem_map.mp listed
  rw [← same]
  exact drew.inside among

end

/-! ## Collisions -/

/-- A place in a list where a condition has held a number of times before and holds once more. -/
theorem exists_split_of_lt_countP {α : Type} {p : α → Bool} {k : Nat} {l : List α}
    (more : k < l.countP p) :
    ∃ before a after, l = before ++ a :: after ∧ p a = true ∧ before.countP p = k := by
  induction l generalizing k with
  | nil => cases more
  | cons a l ih =>
      rw [List.countP_cons] at more
      by_cases holds : p a = true
      · rw [if_pos holds] at more
        cases k with
        | zero => exact ⟨[], a, l, rfl, holds, rfl⟩
        | succ k =>
            obtain ⟨before, b, after, rfl, found, count⟩ := ih (Nat.lt_of_succ_lt_succ more)
            refine ⟨a :: before, b, after, rfl, found, ?_⟩
            rw [List.countP_cons_of_pos holds, count]
      · rw [if_neg holds] at more
        obtain ⟨before, b, after, rfl, found, count⟩ := ih more
        refine ⟨a :: before, b, after, rfl, found, ?_⟩
        rw [List.countP_cons_of_neg holds, count]

section
variable (c : Cpu FrameBuffer) (x y rows : UInt8)

/-- Whether the pixel that a bit lands on was lit before the drawing. -/
def litUnder (row col : Nat) : Bool :=
  c.display.pixel (c.landing x y row col).1 (c.landing x y row col).2

/-- A bit of a sprite fires the rule against the pixel that it meets, as the bits drawn before it
have left that pixel. -/
def Collides : Prop :=
  ∃ before row col after, places rows.toNat = before ++ (row, col) :: after ∧
    c.dialect.collision.fires (c.spriteBit row col)
      (c.litUnder x y row col ^^ (c.hits x y before (c.landing x y row col) % 2 == 1)) = true

/-- A bit of a sprite fires the rule against the plane from before the drawing. -/
def CollidesAtStart : Prop :=
  ∃ row < rows.toNat, ∃ col < 8,
    c.dialect.collision.fires (c.spriteBit row col) (c.litUnder x y row col) = true

end

section
variable {c : Cpu FrameBuffer} {x y rows : UInt8} {hit : Bool}

theorem litUnder_eq (drew : c.Drew x y rows hit) (row col : Nat) :
    c.litUnder x y row col = Display.lit c.display (c.offsetOf (c.landing x y row col)) :=
  c.display.pixel_eq_lit (landing_fst_lt drew.width _ _) (landing_snd_lt drew.height _ _)

theorem hit_iff (drew : c.Drew x y rows hit) : hit = true ↔ c.Collides x y rows := by
  rw [Display.blit_hit_iff c.display.faithful (fun dot => drew.inside)
    (congrArg Attempt.result drew.drawn), or_iff_right Bool.false_ne_true]
  constructor
  · rintro ⟨before, dot, after, split, fires⟩
    obtain ⟨bits, rest, places, rfl, last⟩ := List.map_eq_append_iff.mp split
    obtain ⟨⟨row, col⟩, later, rfl, rfl, rfl⟩ := List.map_eq_cons_iff.mp last
    refine ⟨bits, row, col, later, places, ?_⟩
    rw [spriteDot, turns_spriteDot drew.width _ (landing_fst_lt drew.width _ _)] at fires
    rw [litUnder_eq drew]
    exact fires
  · rintro ⟨before, row, col, after, split, fires⟩
    refine ⟨before.map (c.spriteDot x y), c.spriteDot x y (row, col),
      after.map (c.spriteDot x y), ?_, ?_⟩
    · rw [split, List.map_append, List.map_cons]
    · rw [spriteDot, turns_spriteDot drew.width _ (landing_fst_lt drew.width _ _)]
      rw [litUnder_eq drew] at fires
      exact fires

/-- Different distances from one place stay different around a circle that is longer. -/
theorem eq_of_add_mod {a i j m : Nat} (hi : i < m) (hj : j < m) (same : (a + i) % m = (a + j) % m) :
    i = j := by
  have forth := Nat.sub_mod_eq_zero_of_mod_eq same
  have back := Nat.sub_mod_eq_zero_of_mod_eq same.symm
  rw [Nat.add_sub_add_left, Nat.mod_eq_of_lt (by omega)] at forth back
  omega

/-- On a plane that the sprite fits, no two of its bits land on one pixel. -/
theorem hits_before {before after : List (Nat × Nat)} {row col : Nat}
    (wide : 8 ≤ c.display.width) (high : rows.toNat ≤ c.display.height)
    (split : places rows.toNat = before ++ (row, col) :: after) :
    c.hits x y before (c.landing x y row col) = 0 := by
  have once := Display.nodup_places rows.toNat
  rw [split] at once
  have fresh : (row, col) ∉ before := fun among =>
    (List.nodup_append.mp once).2.2 _ among _ (.head _) rfl
  have listed : ∀ place ∈ before, place ∈ places rows.toNat := by
    rw [split]
    exact fun _ => List.mem_append_left _
  rw [hits, List.countP_eq_zero]
  rintro ⟨row', col'⟩ among lands
  simp only [Bool.and_eq_true, beq_iff_eq] at lands
  obtain ⟨sameX, sameY⟩ := Prod.mk.inj lands.2
  obtain ⟨hrow, hcol⟩ := Display.lt_of_places_eq split
  obtain ⟨hrow', hcol'⟩ := Display.mem_places_iff.mp (listed _ among)
  have sameCol : col' = col :=
    eq_of_add_mod (Nat.lt_of_lt_of_le hcol' wide) (Nat.lt_of_lt_of_le hcol wide) sameX
  have sameRow : row' = row :=
    eq_of_add_mod (Nat.lt_of_lt_of_le hrow' high) (Nat.lt_of_lt_of_le hrow high) sameY
  rw [sameCol, sameRow] at among
  exact fresh among

theorem collides_iff_of_fits (wide : 8 ≤ c.display.width) (high : rows.toNat ≤ c.display.height) :
    c.Collides x y rows ↔ c.CollidesAtStart x y rows := by
  constructor
  · rintro ⟨before, row, col, after, split, fires⟩
    obtain ⟨hrow, hcol⟩ := Display.lt_of_places_eq split
    rw [hits_before wide high split] at fires
    exact ⟨row, hrow, col, hcol, by simpa using fires⟩
  · rintro ⟨row, hrow, col, hcol, fires⟩
    obtain ⟨before, after, split⟩ :=
      List.append_of_mem (Display.mem_places_iff.mpr ⟨hrow, hcol⟩)
    refine ⟨before, row, col, after, split, ?_⟩
    rw [hits_before wide high split]
    simpa using fires

/-- A bit that is one meets a lit pixel when so many before it have turned the pixel over. -/
theorem exists_meeting {k : Nat} {position : Nat × Nat}
    (more : k < c.hits x y (places rows.toNat) position)
    (lit : (c.display.pixel position.1 position.2 ^^ (k % 2 == 1)) = true) :
    ∃ before row col after, places rows.toNat = before ++ (row, col) :: after ∧
      c.spriteBit row col = true ∧ (c.litUnder x y row col ^^
        (c.hits x y before (c.landing x y row col) % 2 == 1)) = true := by
  obtain ⟨before, ⟨row, col⟩, after, split, lands, count⟩ := exists_split_of_lt_countP more
  obtain ⟨one, same⟩ : c.spriteBit row col = true ∧ c.landing x y row col = position := by
    simpa using lands
  subst same
  refine ⟨before, row, col, after, split, one, ?_⟩
  rw [show c.hits x y before (c.landing x y row col) = k from count]
  exact lit

/-- When only a lit bit on a lit pixel collides, the sprite collides also with itself: a pixel that
was not lit is lit by the first bit that is one, and collides with the second. -/
theorem collides_iff_of_erased (erased : c.dialect.collision = .erased) :
    c.Collides x y rows ↔ c.CollidesAtStart x y rows ∨ ∃ px py,
      c.display.pixel px py = false ∧ 2 ≤ c.hits x y (places rows.toNat) (px, py) := by
  unfold Collides CollidesAtStart
  simp only [erased, CollisionRule.fires, Bool.and_eq_true]
  constructor
  · rintro ⟨before, row, col, after, split, one, meets⟩
    obtain ⟨hrow, hcol⟩ := Display.lt_of_places_eq split
    cases was : c.litUnder x y row col with
    | true => exact .inl ⟨row, hrow, col, hcol, one, was⟩
    | false =>
        refine .inr ⟨_, _, was, ?_⟩
        rw [was, Bool.false_xor, beq_iff_eq] at meets
        have self : c.hits x y ((row, col) :: after) (c.landing x y row col) =
            c.hits x y after (c.landing x y row col) + 1 :=
          List.countP_cons_of_pos (by simp [one])
        have both : c.hits x y (before ++ (row, col) :: after) (c.landing x y row col) =
            c.hits x y before (c.landing x y row col) +
              c.hits x y ((row, col) :: after) (c.landing x y row col) := List.countP_append
        rw [split, Prod.eta, both, self]
        omega
  · rintro (⟨row, hrow, col, hcol, one, was⟩ | ⟨px, py, was, twice⟩)
    · have some : 0 < c.hits x y (places rows.toNat) (c.landing x y row col) :=
        List.countP_pos_iff.mpr
          ⟨(row, col), Display.mem_places_iff.mpr ⟨hrow, hcol⟩, by simp [one]⟩
      exact exists_meeting some (by simpa [litUnder] using was)
    · exact exists_meeting twice (by simp [was])

/-- What VF tells after a drawing. -/
structure CollisionTold (c : Cpu FrameBuffer) (x y rows flag : UInt8) : Prop where
  bit : flag = 0 ∨ flag = 1
  /-- It is one when a bit fires the rule against what the bits before it left under it. -/
  met : flag = 1 ↔ c.Collides x y rows
  blank : rows = 0 → flag = 0
  /-- On a plane that the sprite fits, this is what was there before the drawing. -/
  fits : 8 ≤ c.display.width → rows.toNat ≤ c.display.height →
    (flag = 1 ↔ c.CollidesAtStart x y rows)
  /-- On any plane, erased pixels count also when the sprite itself has lit them. -/
  erased : c.dialect.collision = .erased → (flag = 1 ↔ c.CollidesAtStart x y rows ∨
    ∃ px py, c.display.pixel px py = false ∧ 2 ≤ c.hits x y (places rows.toNat) (px, py))

theorem Drew.flag_iff (drew : c.Drew x y rows hit) :
    c.step.state.store.value Registers.flag = 1 ↔ c.Collides x y rows := by
  rw [drew.flag, ← hit_iff drew]
  cases hit <;> decide

/-- VF tells whether a bit collided with its pixel as it was when the turn of the bit came. -/
theorem collision_told (ok : c.step.result = .ok (.draw x y rows)) :
    c.CollisionTold x y rows (c.step.state.store.value Registers.flag) := by
  obtain ⟨hit, drew⟩ := exists_drew ok
  refine ⟨?_, drew.flag_iff, ?_, ?_, ?_⟩
  · rw [drew.flag]
    cases hit <;> decide
  · rintro rfl
    have none := Except.ok.inj (congrArg Attempt.result drew.drawn)
    rw [drew.flag, ← none]
    rfl
  · intro wide high
    rw [drew.flag_iff, collides_iff_of_fits wide high]
  · intro erased
    rw [drew.flag_iff, collides_iff_of_erased erased]

end

/-! ## A sprite that overlaps itself -/

/-- Draws two rows of the glyph of zero on a plane of one row with three pixels, in a dialect in
which erased pixels collide. -/
def glyphOnStrip : Cpu FrameBuffer :=
  (Cpu.new ⟨.image [0xD0, 0x02], .initial, [0xD0, 0x02], .below255⟩ (.blank 3 1) 0).setDialect
    { collision := .erased }

theorem reachable_glyphOnStrip : glyphOnStrip.Reachable := by
  have accepted : Store.ofProgram? [0xD0, 0x02] =
      .ok ⟨.image [0xD0, 0x02], .initial, [0xD0, 0x02], .below255⟩ := rfl
  exact (Reachable.new accepted [] (FrameBuffer.blank 3 1) 0).perform
    (.setDialect { collision := .erased })

theorem step_glyphOnStrip : glyphOnStrip.step.result = .ok (.draw 0 0 2) := by
  have fetched : glyphOnStrip.store.instruction = .ok ⟨0xD0, 0x02⟩ :=
    Store.instruction_of_image (k := 0) rfl rfl rfl rfl (by decide)
  have sound := reachable_glyphOnStrip.sound
  have safe : ¬ glyphOnStrip.DrawsBeyond := fun draws => absurd draws.beyond (by decide)
  rw [step_result_of_sound sound glyphOnStrip.display.honours safe, verdict,
    Except.ok.inj (sound.store.fetched.symm.trans fetched)]
  rfl

theorem spriteBit_glyphOnStrip {row : Nat} (glyph : row < 0x50) (col : Nat) :
    glyphOnStrip.spriteBit row col = (Memory.font[row]?.getD 0).toNat.testBit (7 - col) := by
  have cell : (Memory.image [0xD0, 0x02]).cells[0 + row]? = Memory.font[row]? := by
    rw [Nat.zero_add]
    exact (Memory.fresh_image (by decide)).glyphs row glyph
  exact congrArg (fun byte : Option UInt8 => (byte.getD 0).toNat.testBit (7 - col)) cell

/-- Both rows land on the only one there is, at their columns modulo three. -/
theorem landing_glyphOnStrip (row col : Nat) : glyphOnStrip.landing 0 0 row col = (col % 3, 0) := by
  refine Prod.ext ?_ (Nat.mod_one _)
  exact congrArg (· % 3) (Nat.zero_add col)

theorem hits_glyphOnStrip (px : Nat) :
    glyphOnStrip.hits 0 0 (places 2) (px, 0) = (places 2).countP fun (row, col) =>
      (Memory.font[row]?.getD 0).toNat.testBit (7 - col) && (col % 3, 0) == (px, 0) := by
  apply List.countP_congr
  rintro ⟨row, col⟩ among
  have glyph : row < 0x50 := Nat.lt_trans (Display.mem_places_iff.mp among).1 (by decide)
  simp only [spriteBit_glyphOnStrip glyph, landing_glyphOnStrip]

theorem pixel_glyphOnStrip (px py : Nat) : glyphOnStrip.display.pixel px py = false :=
  FrameBuffer.pixel_blank 3 1 px py

/-- The first pixel is turned over four times, and is off again.  The others are turned over
once. -/
theorem glyphOnStrip_overlaid :
    [0, 1, 2].map (glyphOnStrip.step.state.display.pixel · 0) = [false, true, true] := by
  simp only [List.map_cons, List.map_nil, (sprite_overlaid step_glyphOnStrip).pixel,
    pixel_glyphOnStrip, Bool.false_xor]
  simp only [show UInt8.toNat 2 = 2 from rfl, hits_glyphOnStrip]
  decide

/-- Nothing was lit before the drawing. -/
theorem not_collidesAtStart_glyphOnStrip : ¬ glyphOnStrip.CollidesAtStart 0 0 2 := by
  rintro ⟨row, -, col, -, fires⟩
  rw [litUnder, pixel_glyphOnStrip] at fires
  exact Bool.false_ne_true ((Bool.and_false _).symm.trans fires)

theorem hits_corner_glyphOnStrip : 2 ≤ glyphOnStrip.hits 0 0 (places 2) (0, 0) := by
  rw [hits_glyphOnStrip]
  decide

theorem glyphOnStrip_told : glyphOnStrip.step.state.store.value Registers.flag = 1 ∧
    ¬ glyphOnStrip.CollidesAtStart 0 0 2 := by
  have told := (collision_told step_glyphOnStrip).erased rfl
  exact ⟨told.mpr (.inr ⟨0, 0, pixel_glyphOnStrip 0 0, hits_corner_glyphOnStrip⟩),
    not_collidesAtStart_glyphOnStrip⟩

/-- The flag does not tell whether a bit fires the rule against the plane from before the
drawing. -/
theorem collision_with_own_bits :
    ¬ ∀ (c : Cpu FrameBuffer) (x y rows : UInt8), c.Reachable → 1 ≤ c.display.width →
        1 ≤ c.display.height → c.step.result = .ok (.draw x y rows) →
        (c.step.state.store.value Registers.flag = 1 ↔ c.CollidesAtStart x y rows) := by
  intro claim
  obtain ⟨hit, drew⟩ := exists_drew step_glyphOnStrip
  have collides : glyphOnStrip.Collides 0 0 2 := (collides_iff_of_erased rfl).mpr
    (.inr ⟨0, 0, pixel_glyphOnStrip 0 0, hits_corner_glyphOnStrip⟩)
  exact not_collidesAtStart_glyphOnStrip
    ((claim glyphOnStrip 0 0 2 reachable_glyphOnStrip (by decide) (by decide)
      step_glyphOnStrip).mp (drew.flag_iff.mpr collides))

end Chip8.Cpu
