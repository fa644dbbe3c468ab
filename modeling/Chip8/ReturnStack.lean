import Chip8.Attempt
import Chip8.CodeAddress

/-!
# The return stack

Sixteen slots, of which the first `depth` hold return addresses, oldest first.
Popping lowers the depth and leaves the address in its slot, so two stacks with
the same return addresses may still differ in the slots above them.  Only a
clear zeroes the slots.

`frames_push` and `frames_pop` describe both operations on the list of return
addresses.
-/

namespace Chip8

/-- Return addresses of the calls that have not returned. -/
structure ReturnStack where
  /-- Every slot, used or not. -/
  slots : Vector UInt16 16
  /-- The number of slots in use. -/
  depth : Fin 17
deriving DecidableEq

namespace ReturnStack

/-- The stack with nothing on it and every slot zero. -/
def empty : ReturnStack := ⟨.replicate 16 0, 0⟩

/-- The return addresses, oldest first. -/
def frames (s : ReturnStack) : List UInt16 := s.slots.toList.take s.depth

/-- Whether no further address fits. -/
def isFull (s : ReturnStack) : Bool := s.depth = 16

/-- Put an address on top.  A full stack is reported before a bad address. -/
def push (address : UInt16) : Effect ReturnStack Unit := fun s =>
  if h : s.depth.val < 16 then
    match CodeAddress.check address.toNat with
    | .error f => ⟨.error f, s⟩
    | .ok a => ⟨.ok (), ⟨s.slots.set s.depth.val a h, ⟨s.depth.val + 1, by omega⟩⟩⟩
  else ⟨.error .stackOverflow, s⟩

/-- The address on top. -/
def top? (s : ReturnStack) : Option UInt16 :=
  if h : s.depth.val = 0 then none else some s.slots[s.depth.val - 1]

/-- The stack without the address on top, which stays in its slot. -/
def drop (s : ReturnStack) : ReturnStack := ⟨s.slots, ⟨s.depth.val - 1, by omega⟩⟩

/-- Take the address on top off the stack. -/
def pop : Effect ReturnStack UInt16 := fun s =>
  match s.top? with
  | none => ⟨.error .stackUnderflow, s⟩
  | some a => ⟨.ok a, s.drop⟩

/-! ## Return addresses -/

theorem length_frames (s : ReturnStack) : s.frames.length = s.depth := by
  have := s.depth.isLt
  simp only [frames, List.length_take, Vector.length_toList]
  omega

@[simp] theorem frames_empty : empty.frames = [] := by simp [frames, empty]

theorem frames_push {s t : ReturnStack} {a : UInt16} (h : s.push a = ⟨.ok (), t⟩) :
    t.frames = s.frames ++ [a] := by
  unfold push at h
  split at h
  · rename_i hd
    split at h
    · simp at h
    · rename_i b hb
      obtain ⟨hab, -⟩ := CodeAddress.check_eq_ok_iff.mp hb
      obtain rfl : a = b := by
        rw [← UInt16.toNat_inj]
        omega
      obtain rfl := (congrArg Attempt.state h).symm
      have hlen : s.slots.toList.length = 16 := by simp
      simp only [frames, Vector.toList_set]
      rw [List.take_add_one, List.take_set_of_le (Nat.le_refl _)]
      simp [hd]
  · simp at h

/-- A push that fails leaves the stack as it was. -/
theorem push_cases (s : ReturnStack) (a : UInt16) :
    (∃ t, s.push a = ⟨.ok (), t⟩) ∨
      ∃ f, s.push a = ⟨.error f, s⟩ ∧ (f = .stackOverflow ∨ f = .badTarget a.toNat) := by
  unfold push
  split
  next =>
    cases checked : CodeAddress.check a.toNat with
    | error f => exact .inr ⟨f, rfl, .inr (CodeAddress.check_fault checked)⟩
    | ok target => exact .inl ⟨_, rfl⟩
  next => exact .inr ⟨_, rfl, .inl rfl⟩

theorem frames_pop {s t : ReturnStack} {a : UInt16} (h : s.pop = ⟨.ok a, t⟩) :
    s.frames = t.frames ++ [a] := by
  unfold pop top? at h
  split at h
  · simp at h
  · rename_i b hb
    split at hb
    · simp at hb
    · rename_i hd
      have hlt := s.depth.isLt
      obtain rfl : b = a := Except.ok.inj (congrArg Attempt.result h)
      obtain rfl : s.drop = t := congrArg Attempt.state h
      obtain rfl := Option.some.inj hb
      have hstep : s.depth.val = s.depth.val - 1 + 1 := by omega
      simp only [frames, drop]
      conv => lhs; rw [hstep]
      rw [List.take_add_one]
      simp

end ReturnStack

end Chip8
