/-!
# The bell

The one sound of the machine.  The bell counts how often it rang and remembers
whether it rang since someone last asked.
-/

namespace Chip8

/-- The bell and its history. -/
structure Bell where
  /-- How often it rang. -/
  count : Nat := 0
  /-- Whether it rang since `Bell.take` was last asked. -/
  pending : Bool := false
deriving DecidableEq, Repr

namespace Bell

/-- The bell after it rang. -/
def ring (b : Bell) : Bell := ⟨b.count + 1, true⟩

/-- Whether the bell rang since the last time, and the bell that has been asked. -/
def take (b : Bell) : Bool × Bell := (b.pending, { b with pending := false })

end Bell

end Chip8
