import Chip8.Player

/-!
# The limits of settings

Valid settings have a positive interval and a display with pixels.  Two products are taken
of them afterwards, of the rate and the interval for a batch, and of the width and the
height for a plane.  Validation has no bound for either.  The first must stay within 64
bits, and the second within what memory can have room for (`RateFits`, `DisplayFits`).

Valid settings with both products in bounds run as they are set (`RunsAsSet`): a tick has
the instructions of the rate, and the display has the width and the height.
`valid_limits` proves that no other valid settings run, and what breaks off with which
product.

The batch of a product that is out of bounds is no reason to break off, for it would be the
largest there is (`ratedBatch_of_not_fits`).
-/

namespace Chip8

namespace Config

/-- The rate times the interval stays within 64 bits. -/
def RateFits (c : Config) : Prop :=
  c.instructionsPerSecond.toNat * c.tickIntervalMs.toNat < UInt64.size

/-- Memory can have room for the pixels of the display. -/
def DisplayFits (c : Config) : Prop := c.displayWidth.toNat * c.displayHeight.toNat < UInt64.size / 2

/-- The instructions that the rate gives a tick, from one to the largest number of 32 bits. -/
def ratedBatch (c : Config) : Nat :=
  min (max (c.instructionsPerSecond.toNat * c.tickIntervalMs.toNat / 1000) 1) (UInt32.size - 1)

variable {c : Config} {program : List UInt8} {loaded : Store} {seed : UInt64}

/-! ## The product of a batch -/

theorem batchSize_of_fits (fits : c.RateFits) : c.batchSize = c.ratedBatch := by
  have product : (c.instructionsPerSecond.toUInt64 * c.tickIntervalMs).toNat =
      c.instructionsPerSecond.toNat * c.tickIntervalMs.toNat := by
    rw [UInt64.toNat_mul, UInt32.toNat_toUInt64]
    exact Nat.mod_eq_of_lt fits
  have batch : (c.instructionsPerSecond.toUInt64 * c.tickIntervalMs / 1000).toNat =
      c.instructionsPerSecond.toNat * c.tickIntervalMs.toNat / 1000 := by
    rw [UInt64.toNat_div, product]
    rfl
  rw [batchSize, batch]
  rfl

theorem batchSize?_of_fits (fits : c.RateFits) : c.batchSize? = .ok c.ratedBatch :=
  batchSize?_eq_ok_iff.mpr ⟨fits, batchSize_of_fits fits⟩

theorem batchSize?_of_not_fits (large : ¬ c.RateFits) : c.batchSize? = .error .crash :=
  if_neg large

/-- A batch whose product is out of bounds would be the largest. -/
theorem ratedBatch_of_not_fits (large : ¬ c.RateFits) : c.ratedBatch = UInt32.size - 1 := by
  have product : (UInt32.size - 1) * 1000 ≤
      c.instructionsPerSecond.toNat * c.tickIntervalMs.toNat :=
    Nat.le_trans (by decide) (Nat.not_lt.mp large)
  have quotient := (Nat.le_div_iff_mul_le (by decide)).mpr product
  exact Nat.min_eq_right (Nat.le_trans quotient (Nat.le_max_left _ _))

/-! ## The product of a display -/

theorem blank?_of_fits (fits : c.DisplayFits) :
    FrameBuffer.blank? c.displayWidth.toNat c.displayHeight.toNat =
      .ok (.blank c.displayWidth.toNat c.displayHeight.toNat) :=
  if_pos (Nat.le_pred_of_lt fits)

theorem blank?_of_not_fits (large : ¬ c.DisplayFits) :
    FrameBuffer.blank? c.displayWidth.toNat c.displayHeight.toNat = .error .crash :=
  if_neg fun room => large (Nat.lt_of_le_pred (by decide) room)

/-! ## Running as set -/

/-- A machine of a program runs with settings as they are set. -/
structure RunsAsSet (c : Config) (program : List UInt8) : Prop where
  /-- A tick has the instructions of the rate. -/
  batch : c.batchSize? = .ok c.ratedBatch
  /-- The machine has a plane of exactly the width and the height, all of it dark. -/
  machine : ∀ seed, ∃ cpu events, Cpu.ofConfig? program c seed = .ok (cpu, events) ∧
    cpu.display = .blank c.displayWidth.toNat c.displayHeight.toNat

/-- A player that is opened with settings that run has both. -/
theorem RunsAsSet.player (runs : c.RunsAsSet program) (title : String) (seed : UInt64) :
    ∃ p events, Player.new? program c title seed = .ok (p, events) ∧ p.batch = c.ratedBatch ∧
      p.cpu.display = .blank c.displayWidth.toNat c.displayHeight.toNat := by
  obtain ⟨cpu, events, built, display⟩ := runs.machine seed
  exact ⟨_, _, Player.new?_eq_ok_iff.mpr ⟨_, _, _, built, runs.batch, rfl⟩, rfl, display⟩

theorem ofConfig?_of_fits (accepted : Store.ofProgram? program = .ok loaded)
    (fits : c.DisplayFits) (seed : UInt64) :
    ∃ cpu events, Cpu.ofConfig? program c seed = .ok (cpu, events) ∧
      cpu.display = .blank c.displayWidth.toNat c.displayHeight.toNat :=
  ⟨_, _, Cpu.ofConfig?_eq_ok_iff.mpr ⟨loaded, _, accepted, blank?_of_fits fits, rfl⟩, rfl⟩

theorem ofConfig?_of_not_fits (accepted : Store.ofProgram? program = .ok loaded)
    (large : ¬ c.DisplayFits) (seed : UInt64) :
    Cpu.ofConfig? program c seed = .error .crash := by
  rw [Cpu.ofConfig?, accepted, blank?_of_not_fits large]
  rfl

theorem runsAsSet_iff (accepted : Store.ofProgram? program = .ok loaded) :
    c.RunsAsSet program ↔ c.RateFits ∧ c.DisplayFits := by
  constructor
  · intro runs
    obtain ⟨cpu, events, built, -⟩ := runs.machine 0
    obtain ⟨store, plane, -, room, -⟩ := Cpu.ofConfig?_eq_ok_iff.mp built
    exact ⟨(batchSize?_eq_ok_iff.mp runs.batch).1,
      Nat.lt_of_le_pred (by decide) (FrameBuffer.blank?_eq_ok_iff.mp room).1⟩
  · rintro ⟨rate, display⟩
    exact ⟨batchSize?_of_fits rate, ofConfig?_of_fits accepted display⟩

/-- A player breaks off with either product, for it needs both. -/
theorem new?_of_not_fits (accepted : Store.ofProgram? program = .ok loaded)
    (large : ¬ (c.RateFits ∧ c.DisplayFits)) (title : String) (seed : UInt64) :
    Player.new? program c title seed = .error .crash := by
  by_cases display : c.DisplayFits
  · have rate : ¬ c.RateFits := fun rate => large ⟨rate, display⟩
    obtain ⟨cpu, events, built, -⟩ := ofConfig?_of_fits accepted display seed
    rw [Player.new?, built, batchSize?_of_not_fits rate]
    rfl
  · rw [Player.new?, ofConfig?_of_not_fits accepted display]
    rfl

/-- What valid settings come to. -/
structure Limits (c : Config) (program : List UInt8) : Prop where
  /-- Ticks are apart. -/
  interval : 0 < c.tickInterval
  /-- There is something to draw on. -/
  pixels : 0 < c.displayWidth.toNat * c.displayHeight.toNat
  /-- The settings run when both products are in bounds, and only then. -/
  runs : c.RunsAsSet program ↔ c.RateFits ∧ c.DisplayFits
  /-- A rate out of bounds breaks the batch off, and the batch would have been the largest. -/
  rate : ¬ c.RateFits → c.batchSize? = .error .crash ∧ c.ratedBatch = UInt32.size - 1
  /-- A display out of bounds breaks the building of a machine off. -/
  display : ¬ c.DisplayFits → ∀ seed, Cpu.ofConfig? program c seed = .error .crash
  /-- A player is opened or broken off. -/
  player : ∀ title seed,
    (c.RunsAsSet program → ∃ p events, Player.new? program c title seed = .ok (p, events) ∧
      p.batch = c.ratedBatch ∧
      p.cpu.display = .blank c.displayWidth.toNat c.displayHeight.toNat) ∧
    (¬ c.RunsAsSet program → Player.new? program c title seed = .error .crash)

theorem positive_of_valid (valid : c.validate = .ok ()) :
    0 < c.tickInterval ∧ 0 < c.displayWidth.toNat * c.displayHeight.toNat := by
  obtain ⟨interval, width, height⟩ := validate_eq_ok_iff.mp valid
  have positive {n : UInt64} (h : n ≠ 0) : 0 < n.toNat :=
    Nat.pos_of_ne_zero fun zero => h (UInt64.toNat_inj.mp zero)
  exact ⟨Nat.mul_pos (positive interval) (by decide),
    Nat.mul_pos (positive width) (positive height)⟩

/-- Valid settings run as they are set when both products are in bounds.  With a product out of
bounds the building of a machine or its first batch breaks off. -/
theorem valid_limits (valid : c.validate = .ok ())
    (accepted : Store.ofProgram? program = .ok loaded) : c.Limits program where
  interval := (positive_of_valid valid).1
  pixels := (positive_of_valid valid).2
  runs := runsAsSet_iff accepted
  rate large := ⟨batchSize?_of_not_fits large, ratedBatch_of_not_fits large⟩
  display large := ofConfig?_of_not_fits accepted large
  player title seed :=
    ⟨fun runs => runs.player title seed,
      fun stuck => new?_of_not_fits accepted (mt (runsAsSet_iff accepted).mpr stuck) title seed⟩

/-! ## Settings at their limits and beyond -/

theorem return_accepted : Store.ofProgram? [0x00, 0xEE] =
    .ok ⟨.image [0x00, 0xEE], .initial, [0x00, 0xEE], .below255⟩ := rfl

/-- The longest interval, and a display with as many pixels as can be. -/
def atLimits : Config where
  tickIntervalMs := 0xFFFFFFFFFFFFFFFF
  instructionsPerSecond := 1
  displayWidth := 0x7FFFFFFFFFFFFFFF
  displayHeight := 1

/-- Settings at their limits run, with two instructions in a second they do not. -/
theorem atLimits_run :
    atLimits.validate = .ok () ∧ atLimits.RunsAsSet [0x00, 0xEE] ∧
      atLimits.ratedBatch = UInt32.size - 1 ∧
      { atLimits with instructionsPerSecond := 2 }.batchSize? = .error .crash := by
  have valid : atLimits.validate = .ok () := validate_eq_ok_iff.mpr (by decide)
  have fits : atLimits.RateFits ∧ atLimits.DisplayFits := by
    unfold RateFits DisplayFits
    decide
  have large : ¬ { atLimits with instructionsPerSecond := 2 }.RateFits := by
    unfold RateFits
    decide
  have faster : { atLimits with instructionsPerSecond := 2 }.validate = .ok () :=
    validate_eq_ok_iff.mpr (by decide)
  exact ⟨valid, (valid_limits valid return_accepted).runs.mpr fits, by decide,
    ((valid_limits faster return_accepted).rate large).1⟩

/-- Settings whose products are both too large. -/
def beyondLimits : Config where
  tickIntervalMs := 0x8000000000000000
  instructionsPerSecond := 2
  displayWidth := 0x100000000
  displayHeight := 0x100000000

/-- They are accepted, and neither a batch nor a machine comes of them. -/
theorem beyondLimits_accepted :
    beyondLimits.validate = .ok () ∧ beyondLimits.batchSize? = .error .crash ∧
      beyondLimits.ratedBatch = UInt32.size - 1 ∧
      (∀ seed, Cpu.ofConfig? [0x00, 0xEE] beyondLimits seed = .error .crash) ∧
      ¬ beyondLimits.RunsAsSet [0x00, 0xEE] := by
  have rate : ¬ beyondLimits.RateFits := by
    unfold RateFits
    decide
  have display : ¬ beyondLimits.DisplayFits := by
    unfold DisplayFits
    decide
  refine ⟨validate_eq_ok_iff.mpr (by decide), batchSize?_of_not_fits rate,
    ratedBatch_of_not_fits rate, ofConfig?_of_not_fits return_accepted display, ?_⟩
  rw [runsAsSet_iff return_accepted]
  exact fun fits => display fits.2

end Config

end Chip8
