/-!
# Sets of characters

A set of characters is a list of ranges of code points, each with its first and its
last, in ascending order.  `has_iff` says what is in one.
-/

namespace Chip8

/-- A set of characters: ranges of code points, their ends included. -/
abbrev CharSet := List (Nat × Nat)

namespace CharSet

/-- Whether a character is in a set. -/
def has (s : CharSet) (c : Char) : Bool :=
  s.any fun (first, last) => first ≤ c.toNat && c.toNat ≤ last

theorem has_iff {s : CharSet} {c : Char} :
    s.has c = true ↔ ∃ range ∈ s, range.1 ≤ c.toNat ∧ c.toNat ≤ range.2 := by
  simp [has]

/-- The code points of a set, counted. -/
def size (s : CharSet) : Nat := s.foldl (fun n (first, last) => n + (last + 1 - first)) 0

/-- Whether the ranges of a set ascend from a code point on, apart from each other. -/
def isAscendingFrom (least : Nat) : CharSet → Bool
  | [] => true
  | (first, last) :: rest => least ≤ first && first ≤ last && isAscendingFrom (last + 2) rest

/-- Whether the ranges of a set ascend, apart from each other. -/
def isAscending (s : CharSet) : Bool := isAscendingFrom 0 s

end CharSet

end Chip8
