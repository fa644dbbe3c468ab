import Chip8.Attempt

/-!
# The keypad

Sixteen keys, each up or down.  A key is named by a byte, and a byte above
fifteen names none.  Asking about such a key, or moving it, is a fault that
leaves every key as it was.
-/

namespace Chip8

/-- Which keys are down. -/
structure Keypad where
  /-- Whether each key is down. -/
  down : Vector Bool 16
deriving DecidableEq

namespace Keypad

/-- Every key up. -/
def released : Keypad := ⟨.replicate 16 false⟩

/-- Move a key. -/
def set (key : UInt8) (down : Bool) : Effect Keypad Unit := fun k =>
  if h : key.toNat < 16 then ⟨.ok (), ⟨k.down.set key.toNat down h⟩⟩
  else ⟨.error (.noSuchRegister key), k⟩

/-- Put a key down. -/
def press (key : UInt8) : Effect Keypad Unit := set key true

/-- Let a key up. -/
def release (key : UInt8) : Effect Keypad Unit := set key false

/-- Whether a key is down. -/
def isPressed (k : Keypad) (key : UInt8) : Except Fault Bool :=
  if h : key.toNat < 16 then .ok k.down[key.toNat] else .error (.noSuchRegister key)

/-- The keys that are down, lowest first. -/
def held (k : Keypad) : List Nat := (List.range 16).filter fun key => k.down[key]?.getD false

/-- The key a typed character stands for: a hexadecimal digit stands for itself. -/
def ofChar? (c : Char) : Option UInt8 :=
  if c.isDigit then some (.ofNat (c.toNat - '0'.toNat))
  else if 'a' ≤ c ∧ c ≤ 'f' then some (.ofNat (c.toNat - 'a'.toNat + 10))
  else if 'A' ≤ c ∧ c ≤ 'F' then some (.ofNat (c.toNat - 'A'.toNat + 10))
  else none

/-- The key a key name stands for: one hexadecimal digit, or an arrow. -/
def ofName? (name : String) : Option UInt8 :=
  if name = "ArrowDown" then some 2
  else if name = "ArrowLeft" then some 4
  else if name = "ArrowRight" then some 6
  else if name = "ArrowUp" then some 8
  else
    match name.toList with
    | [c] => ofChar? c
    | _ => none

theorem set_of_lt (k : Keypad) {key : UInt8} (down : Bool) (h : key.toNat < 16) :
    k.set key down = ⟨.ok (), ⟨k.down.set key.toNat down h⟩⟩ := dif_pos h

/-- A key that is not there keeps the keypad as it was. -/
theorem set_of_le (k : Keypad) {key : UInt8} (down : Bool) (h : 16 ≤ key.toNat) :
    k.set key down = ⟨.error (.noSuchRegister key), k⟩ := dif_neg (Nat.not_lt.mpr h)

theorem isPressed_set {k l : Keypad} {key : UInt8} {down : Bool} (h : k.set key down = ⟨.ok (), l⟩)
    (other : UInt8) :
    l.isPressed other = if other = key then .ok down else k.isPressed other := by
  unfold set at h
  split at h
  · rename_i hk
    obtain rfl := congrArg Attempt.state h
    by_cases ho : other.toNat < 16
    · by_cases hok : other = key
      · subst hok
        simp [isPressed, ho]
      · have hne : key.toNat ≠ other.toNat := fun e => hok (UInt8.toNat_inj.mp e.symm)
        simp [isPressed, ho, hok, Vector.getElem_set_ne _ _ hne]
    · have hok : other ≠ key := fun e => ho (e ▸ hk)
      simp [isPressed, ho, hok]
  · cases h

end Keypad

end Chip8
