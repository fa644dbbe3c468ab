import Chip8.ReturnStack

/-!
# Registers

The sixteen V registers, I, PC, the return stack and the two timers.  A V
register is named by a byte, and a byte above fifteen names none.  A value
written to a V register is cut to its low byte.

`getV_setV` says what a read after a write sees.
-/

namespace Chip8

/-- The registers of the machine. -/
structure Registers where
  /-- V0 to VF. -/
  v : Vector UInt8 16
  /-- The index register. -/
  i : UInt16
  /-- The address of the next instruction. -/
  pc : UInt16
  /-- The return addresses. -/
  stack : ReturnStack
  /-- The delay timer. -/
  delay : UInt8
  /-- The sound timer. -/
  sound : UInt8
deriving DecidableEq

namespace Registers

/-- The flag register, VF. -/
def flag : UInt8 := 0xF

/-- The registers a program starts with. -/
def initial : Registers := ⟨.replicate 16 0, 0, 0x200, .empty, 0, 0⟩

/-- The value of a V register. -/
def getV (r : Registers) (x : UInt8) : Except Fault UInt8 :=
  if h : x.toNat < 16 then .ok r.v[x.toNat] else .error (.noSuchRegister x)

/-- Put a value, cut to a byte, into a V register. -/
def setV (x : UInt8) (value : UInt16) : Effect Registers Unit := fun r =>
  if h : x.toNat < 16 then ⟨.ok (), { r with v := r.v.set x.toNat value.toUInt8 h }⟩
  else ⟨.error (.noSuchRegister x), r⟩

/-- Move PC to an address. -/
def jump (target : Int) : Effect Registers Unit := do
  let pc ← CodeAddress.check target
  .change fun r => { r with pc }

theorem getV_of_lt (r : Registers) {x : UInt8} (h : x.toNat < 16) :
    r.getV x = .ok r.v[x.toNat] := by
  simp [getV, h]

theorem setV_of_lt (r : Registers) {x : UInt8} (value : UInt16) (h : x.toNat < 16) :
    r.setV x value = ⟨.ok (), { r with v := r.v.set x.toNat value.toUInt8 h }⟩ := by
  simp [setV, h]

theorem getV_setV {r s : Registers} {x : UInt8} {value : UInt16} (h : r.setV x value = ⟨.ok (), s⟩)
    (k : UInt8) : s.getV k = if k = x then .ok value.toUInt8 else r.getV k := by
  unfold setV at h
  split at h
  · rename_i hx
    obtain rfl := (congrArg Attempt.state h).symm
    by_cases hk : k.toNat < 16
    · by_cases hkx : k = x
      · subst hkx
        simp [getV, hk]
      · have hne : x.toNat ≠ k.toNat := fun e => hkx (UInt8.toNat_inj.mp e.symm)
        simp [getV, hk, hkx, Vector.getElem_set_ne _ _ hne]
    · have hkx : k ≠ x := fun e => hk (e ▸ hx)
      simp [getV, hk, hkx]
  · simp at h

end Registers

end Chip8
