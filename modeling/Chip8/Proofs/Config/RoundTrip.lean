import Chip8.Proofs.Config.Overlay

/-!
# Settings written and read back

Any settings can be written, and their text says exactly what they are.  Reading it
gives the settings back when they are valid, and otherwise says what is wrong with them
(`read_write_eq`).
-/

namespace Chip8

open Json (Proper)

theorem Json.proper_ofFields {fields : List (String × Json)} (each : ∀ f ∈ fields, Proper f.2) :
    Proper (.ofFields fields) := by
  refine .object fun m among => ?_
  obtain ⟨f, inside, rfl⟩ := List.mem_map.mp among
  exact each f inside

namespace Config

theorem proper_dialectJson (d : Dialect) : Proper (dialectJson d) := by
  apply Json.proper_ofFields
  simp only [List.forall_mem_cons]
  exact ⟨.string _, .string _, .string _, .string _, List.forall_mem_nil _⟩

theorem proper_toJson (c : Config) : Proper c.toJson := by
  apply Json.proper_ofFields
  simp only [List.forall_mem_cons]
  exact ⟨.natural _, .natural _, .natural _, .natural _, proper_dialectJson _, List.forall_mem_nil _⟩

/-- The names of the choices of a dialect can be read back. -/
theorem dialectOfJson?_dialectJson (d : Dialect) : dialectOfJson? (dialectJson d) = some d := by
  obtain ⟨shift, collision, digits, timerBound⟩ := d
  cases shift <;> cases collision <;> cases digits <;> cases timerBound <;> rfl

theorem ofJson?_toJson (c : Config) : ofJson? c.toJson = some c := by
  have fields : c.toJson.fields? settingNames =
      some [some (.natural c.tickIntervalMs.toNat), some (.natural c.instructionsPerSecond.toNat),
        some (.natural c.displayWidth.toNat), some (.natural c.displayHeight.toNat),
        some (dialectJson c.dialect)] := rfl
  unfold settingNames at fields
  rw [ofJson?, fields]
  simp [Json.orDefault, word64?_natural, word32?_natural, dialectOfJson?_dialectJson]

/-- Settings that were written are read back once they are valid, and refused for what is wrong
with them otherwise, the interval first. -/
theorem read_write_eq (c : Config) :
    read c.write = c.validate.map (fun _ => c) ∧
      (c.tickIntervalMs = 0 → read c.write = .error .zeroInterval) := by
  have whole : read c.write = c.validate.map fun _ => c := by
    have textOf : Json.TextOf c.write c.toJson :=
      Json.textOf_of_written (Json.written_pretty c.proper_toJson 0)
    rw [read_of_textOf textOf, ofJson?_toJson]
  refine ⟨whole, fun zero => ?_⟩
  rw [whole, validate_of_zero_interval zero]
  rfl

end Config

end Chip8
