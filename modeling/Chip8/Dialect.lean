/-!
# Dialects

Machines of this kind disagree on a handful of instructions.  A dialect settles
the four points that programs depend on.  Each point has its own type with a
name per choice, and the first choice is the default.

Two dialects have names of their own (`Dialect.preset?`): the *literal* one takes
every default, and the *canonical* one takes every other choice.
-/

namespace Chip8

/-- Which register the shifts read and write. -/
inductive ShiftSource where
  /-- Vy, shifted in place. -/
  | vy
  /-- Vx, shifted in place. -/
  | vx
deriving DecidableEq, Repr, Inhabited

/-- When drawing raises VF. -/
inductive CollisionRule where
  /-- Some sprite bit equals the pixel under it, two unlit ones included. -/
  | equal
  /-- Some lit pixel was turned off. -/
  | erased
deriving DecidableEq, Repr, Inhabited

/-- Where the decimal digits of a register are written. -/
inductive DigitLayout where
  /-- Every digit goes to the byte after I. -/
  | literal
  /-- The three digits go to I and the two bytes after it. -/
  | canonical
deriving DecidableEq, Repr, Inhabited

/-- Which values a timer accepts. -/
inductive TimerBound where
  /-- Everything but 255. -/
  | below255
  /-- Every byte. -/
  | full
deriving DecidableEq, Repr, Inhabited

/-- Whether a bit drawn onto a pixel counts as a collision. -/
def CollisionRule.fires : CollisionRule → (incoming existing : Bool) → Bool
  | equal, incoming, existing => incoming == existing
  | erased, incoming, existing => incoming && existing

/-- Whether a timer takes a value. -/
def TimerBound.accepts : TimerBound → UInt8 → Bool
  | below255, value => value < 255
  | full, _ => true

/-- A choice on each point of disagreement. -/
structure Dialect where
  /-- The register the shifts work on. -/
  shift : ShiftSource := .vy
  /-- The collisions that count. -/
  collision : CollisionRule := .equal
  /-- The place of decimal digits. -/
  digits : DigitLayout := .literal
  /-- The values of the timers. -/
  timerBound : TimerBound := .below255
deriving DecidableEq, Repr, Inhabited

namespace Dialect

/-- Every default. -/
def literal : Dialect := {}

/-- The dialect most descriptions of the machine agree on. -/
def canonical : Dialect := ⟨.vx, .erased, .canonical, .full⟩

/-- The dialect of a name, in any mix of cases. -/
def preset? (name : String) : Option Dialect :=
  let lower := name.toLower
  if lower = "literal" then some literal
  else if lower = "canonical" then some canonical
  else none

end Dialect

end Chip8
