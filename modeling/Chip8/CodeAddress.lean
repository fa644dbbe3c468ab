import Chip8.Fault

/-!
# Code addresses

An instruction takes two bytes and starts at an even address inside the 4096
bytes of memory.  Everything that moves PC or stores a return address goes
through the check here.  `check_eq_ok_iff` says exactly what it accepts.
-/

namespace Chip8.CodeAddress

/-- Where an instruction can stand. -/
def Valid (address : Nat) : Prop := address < 4096 ∧ address % 2 = 0

instance (address : Nat) : Decidable (Valid address) := inferInstanceAs (Decidable (_ ∧ _))

/-- An address an instruction can stand at, or the fault that it is none. -/
def check (address : Int) : Except Fault UInt16 :=
  if 0 ≤ address ∧ Valid address.toNat then .ok (.ofNat address.toNat)
  else .error (.badTarget address)

theorem check_eq_ok_iff {address : Int} {a : UInt16} :
    check address = .ok a ↔ address = a.toNat ∧ Valid a.toNat := by
  have ha := a.toNat_lt
  unfold check Valid
  constructor
  · intro h
    split at h
    · rename_i hv
      obtain ⟨h0, hlt, heven⟩ := hv
      obtain rfl : UInt16.ofNat address.toNat = a := by simpa using h
      have hto : (UInt16.ofNat address.toNat).toNat = address.toNat := by
        rw [UInt16.toNat_ofNat']
        omega
      rw [hto]
      omega
    · simp at h
  · rintro ⟨rfl, hlt, heven⟩
    have h : (0 : Int) ≤ (a.toNat : Int) ∧ (a.toNat : Int).toNat < 4096 ∧
        (a.toNat : Int).toNat % 2 = 0 := by simp only [Int.toNat_natCast]; omega
    rw [if_pos h]
    simp

theorem check_of_valid {a : UInt16} (h : Valid a.toNat) : check a.toNat = .ok a :=
  check_eq_ok_iff.mpr ⟨rfl, h⟩

/-- The check of an address that is not negative. -/
theorem check_natCast (address : Nat) :
    check address =
      if Valid address then .ok (.ofNat address) else .error (.badTarget address) := by
  simp [check]

theorem check_fault {address : Int} {f : Fault} (failed : check address = .error f) :
    f = .badTarget address := by
  unfold check at failed
  split at failed
  · cases failed
  · cases failed
    rfl

example : check 4094 = .ok 4094 := rfl
example : check 4096 = .error (.badTarget 4096) := rfl

end Chip8.CodeAddress
