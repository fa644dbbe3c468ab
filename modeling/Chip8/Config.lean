import Chip8.Dialect
import Chip8.Fault
import Chip8.Json.Printer
import Chip8.Json.Reader
import Chip8.Text.Duration

/-!
# Settings

What a machine and its scheduler are built from: the interval between ticks, the
rate of instructions, the size of the display and the dialect.  The rate is
spread over the ticks, and a tick runs at least one instruction.

Settings are written as a JSON record.  Every field may be left out, an unknown
field is passed over, and no field may be given twice.  Reading is strict about
numbers: digits alone, within the width of the setting.  Settings that parse are
then validated, the interval first.
-/

namespace Chip8

/-- Settings of a machine and its scheduler. -/
structure Config where
  /-- Milliseconds between ticks. -/
  tickIntervalMs : UInt64 := 100
  /-- Instructions to run in a second. -/
  instructionsPerSecond : UInt32 := 500
  /-- Pixels in a row of the display. -/
  displayWidth : UInt64 := 64
  /-- Rows of the display. -/
  displayHeight : UInt64 := 32
  /-- The dialect of the machine. -/
  dialect : Dialect := {}
deriving DecidableEq, Repr, Inhabited

/-- Why settings were not accepted. -/
inductive ConfigError where
  /-- The file could not be read, for a reason the system gives. -/
  | unreadable (reason : String)
  /-- The text does not stand for settings. -/
  | malformed
  /-- No tick would ever come due. -/
  | zeroInterval
  /-- The display would have no pixels. -/
  | emptyDisplay (width height : UInt64)
deriving DecidableEq, Repr

/-- What a person is told about refused settings. -/
def ConfigError.message : ConfigError → String
  | unreadable reason => "I/O error: " ++ reason
  | malformed => "parse error: not a settings record"
  | zeroInterval => "invalid config: tick_interval_ms must be positive"
  | emptyDisplay width height =>
      "invalid config: display must be at least 1x1, got " ++ toString width.toNat ++ "x"
        ++ toString height.toNat

namespace Config

/-! ## What settings mean -/

/-- The fault of settings no machine can run with, if there is one. -/
def validate (c : Config) : Except ConfigError Unit :=
  if c.tickIntervalMs = 0 then .error .zeroInterval
  else if c.displayWidth = 0 ∨ c.displayHeight = 0 then
    .error (.emptyDisplay c.displayWidth c.displayHeight)
  else .ok ()

/-- Nanoseconds between ticks. -/
def tickInterval (c : Config) : Nat := c.tickIntervalMs.toNat * Duration.millisecond

/-- The largest number of instructions in a tick. -/
def batchLimit : Nat := UInt32.size - 1

/-- Instructions in a tick: the rate times the interval, at least one.  The product is taken in 64
bits. -/
def batchSize (c : Config) : Nat :=
  let batch := c.instructionsPerSecond.toUInt64 * c.tickIntervalMs / 1000
  min (max batch.toNat 1) batchLimit

/-- Instructions in a tick, where the product of the rate and the interval stays within 64 bits.
Taking a larger one breaks off. -/
def batchSize? (c : Config) : Except Stop Nat :=
  if c.instructionsPerSecond.toNat * c.tickIntervalMs.toNat < UInt64.size then .ok c.batchSize
  else .error .crash

/-! ## Names of choices -/

/-- The shift sources by name. -/
def shiftChoices : List (String × ShiftSource) := [("vy", .vy), ("vx", .vx)]

/-- The collision rules by name. -/
def collisionChoices : List (String × CollisionRule) := [("equal", .equal), ("erased", .erased)]

/-- The digit layouts by name. -/
def digitChoices : List (String × DigitLayout) :=
  [("literal", .literal), ("canonical", .canonical)]

/-- The timer bounds by name. -/
def timerBoundChoices : List (String × TimerBound) := [("below255", .below255), ("full", .full)]

/-- The name of a choice. -/
def nameOf {α : Type} [DecidableEq α] (choices : List (String × α)) (a : α) : String :=
  match choices.find? (·.2 = a) with
  | some (name, _) => name
  | none => ""

/-! ## Writing -/

/-- A dialect as JSON. -/
def dialectJson (d : Dialect) : Json :=
  .ofFields
    [("shift", .text (nameOf shiftChoices d.shift)),
      ("collision", .text (nameOf collisionChoices d.collision)),
      ("bcd", .text (nameOf digitChoices d.digits)),
      ("timer_bound", .text (nameOf timerBoundChoices d.timerBound))]

/-- Settings as JSON. -/
def toJson (c : Config) : Json :=
  .ofFields
    [("tick_interval_ms", .natural c.tickIntervalMs.toNat),
      ("instructions_per_second", .natural c.instructionsPerSecond.toNat),
      ("display_width", .natural c.displayWidth.toNat),
      ("display_height", .natural c.displayHeight.toNat),
      ("quirks", dialectJson c.dialect)]

/-- Settings as a text. -/
def write (c : Config) : String := c.toJson.pretty

/-! ## Reading -/

/-- The dialect a JSON record stands for. -/
def dialectOfJson? (v : Json) : Option Dialect := do
  match ← v.fields? ["shift", "collision", "bcd", "timer_bound"] with
  | [shift, collision, digits, timerBound] =>
      let default : Dialect := {}
      return {
        shift := ← Json.orDefault default.shift (Json.choice? shiftChoices) shift
        collision := ←
          Json.orDefault default.collision (Json.choice? collisionChoices) collision
        digits := ← Json.orDefault default.digits (Json.choice? digitChoices) digits
        timerBound := ←
          Json.orDefault default.timerBound (Json.choice? timerBoundChoices) timerBound }
  | _ => none

/-- A 64-bit number. -/
def word64? (v : Json) : Option UInt64 := (v.natural? UInt64.size).map .ofNat

/-- A 32-bit number. -/
def word32? (v : Json) : Option UInt32 := (v.natural? UInt32.size).map .ofNat

/-- The settings a JSON record stands for. -/
def ofJson? (v : Json) : Option Config := do
  match ← v.fields? ["tick_interval_ms", "instructions_per_second", "display_width",
      "display_height", "quirks"] with
  | [interval, rate, width, height, dialect] =>
      let default : Config := {}
      return {
        tickIntervalMs := ← Json.orDefault default.tickIntervalMs word64? interval
        instructionsPerSecond := ← Json.orDefault default.instructionsPerSecond word32? rate
        displayWidth := ← Json.orDefault default.displayWidth word64? width
        displayHeight := ← Json.orDefault default.displayHeight word64? height
        dialect := ← Json.orDefault default.dialect dialectOfJson? dialect }
  | _ => none

/-- The settings a text stands for, once they are valid. -/
def read (text : String) : Except ConfigError Config :=
  match (Json.read? text).bind ofJson? with
  | none => .error .malformed
  | some c =>
      match c.validate with
      | .error e => .error e
      | .ok () => .ok c

/-! ## The order of checks -/

theorem validate_eq_ok_iff {c : Config} :
    c.validate = .ok () ↔ c.tickIntervalMs ≠ 0 ∧ c.displayWidth ≠ 0 ∧ c.displayHeight ≠ 0 := by
  unfold validate
  split
  · simp [*]
  · split
    · rename_i h
      rcases h with h | h <;> simp [h]
    · rename_i hi h
      simp only [not_or] at h
      simp [hi, h]

/-- A batch has a size where the product does not break off. -/
theorem batchSize?_eq_ok_iff {c : Config} {n : Nat} :
    c.batchSize? = .ok n ↔
      c.instructionsPerSecond.toNat * c.tickIntervalMs.toNat < UInt64.size ∧ c.batchSize = n := by
  unfold batchSize?
  split <;> simp [*]

theorem validate_of_zero_interval {c : Config} (h : c.tickIntervalMs = 0) :
    c.validate = .error .zeroInterval := by
  simp [validate, h]

end Config

end Chip8
