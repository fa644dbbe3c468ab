import Chip8.Json
import Chip8.Opcode

/-!
# Opcodes and instructions as JSON

An opcode without operands is written as its name, and one with operands as an
object that gives the name a record of the operands.  Reading takes every form a
record or a choice may have.  An operand must fit its width, and the record must
give every operand once.

An instruction is a record of its bytes, its nibbles and its address.
-/

namespace Chip8

/-- The fields of an instruction. -/
def Instruction.toJson (i : Instruction) : Json :=
  .ofFields
    [("byte0", .natural i.high.toNat), ("byte1", .natural i.low.toNat),
      ("nibble0", .natural i.family.toNat), ("nibble1", .natural i.x.toNat),
      ("nibble2", .natural i.y.toNat), ("nibble3", .natural i.n.toNat),
      ("address", .natural i.address.toNat)]

/-- A fetched instruction with the address it came from. -/
def Instruction.traceJson (pc : UInt16) (i : Instruction) : Json :=
  .ofFields [("pc", .natural pc.toNat), ("instruction", i.toJson)]

namespace Opcode

/-! ## Writing -/

/-- A byte operand under its name. -/
def byteField (key : String) (b : UInt8) : String × Json := (key, .natural b.toNat)

/-- The name of an opcode and its operands. -/
def record : Opcode → String × List (String × Json)
  | ret => ("Return", [])
  | jump a => ("Jump", [("addr", .natural a.toNat)])
  | call a => ("Call", [("addr", .natural a.toNat)])
  | skipIfByte x b => ("SkipIfEqual", [byteField "x" x, byteField "kk" b])
  | skipUnlessByte x b => ("SkipIfNotEqual", [byteField "x" x, byteField "kk" b])
  | skipIfSame x y => ("SkipIfRegistersEqual", [byteField "x" x, byteField "y" y])
  | loadByte x b => ("Load", [byteField "x" x, byteField "kk" b])
  | addByte x b => ("AddImmediate", [byteField "x" x, byteField "kk" b])
  | move x y => ("Move", [byteField "x" x, byteField "y" y])
  | conjoin x y => ("And", [byteField "x" x, byteField "y" y])
  | add x y => ("Add", [byteField "x" x, byteField "y" y])
  | subtract x y => ("Sub", [byteField "x" x, byteField "y" y])
  | shiftRight x y => ("ShiftRight", [byteField "x" x, byteField "y" y])
  | shiftLeft x y => ("ShiftLeft", [byteField "x" x, byteField "y" y])
  | loadIndex a => ("LoadIndex", [("addr", .natural a.toNat)])
  | addIndex x => ("AddIndex", [byteField "x" x])
  | loadGlyph x => ("LoadGlyph", [byteField "x" x])
  | random x b => ("Random", [byteField "x" x, byteField "kk" b])
  | draw x y n => ("Draw", [byteField "x" x, byteField "y" y, byteField "n" n])
  | skipIfKeyUp x => ("SkipIfKeyUp", [byteField "x" x])
  | readDelay x => ("ReadDelay", [byteField "x" x])
  | setDelay x => ("SetDelay", [byteField "x" x])
  | setSound x => ("SetSound", [byteField "x" x])
  | storeDigits x => ("StoreBcd", [byteField "x" x])
  | saveRegisters x => ("StoreRegisters", [byteField "x" x])
  | loadRegisters x => ("LoadRegisters", [byteField "x" x])

/-- An opcode as JSON. -/
def toJson (op : Opcode) : Json :=
  match op.record with
  | (name, []) => .text name
  | (name, fields) => .ofFields [(name, .ofFields fields)]

/-! ## Reading -/

/-- The opcodes with one register, by name. -/
def registerForms : List (String × (UInt8 → Opcode)) :=
  [("AddIndex", addIndex), ("LoadGlyph", loadGlyph), ("SkipIfKeyUp", skipIfKeyUp),
    ("ReadDelay", readDelay), ("SetDelay", setDelay), ("SetSound", setSound),
    ("StoreBcd", storeDigits), ("StoreRegisters", saveRegisters),
    ("LoadRegisters", loadRegisters)]

/-- The opcodes with a register and a byte, by name. -/
def byteForms : List (String × (UInt8 → UInt8 → Opcode)) :=
  [("SkipIfEqual", skipIfByte), ("SkipIfNotEqual", skipUnlessByte), ("Load", loadByte),
    ("AddImmediate", addByte), ("Random", random)]

/-- The opcodes with two registers, by name. -/
def pairForms : List (String × (UInt8 → UInt8 → Opcode)) :=
  [("SkipIfRegistersEqual", skipIfSame), ("Move", move), ("And", conjoin), ("Add", add),
    ("Sub", subtract), ("ShiftRight", shiftRight), ("ShiftLeft", shiftLeft)]

/-- The opcodes with an address, by name. -/
def addressForms : List (String × (UInt16 → Opcode)) :=
  [("Jump", jump), ("Call", call), ("LoadIndex", loadIndex)]

/-- The operands of a record, each below its bound, in the order they are named. -/
def operands? (bounds : List (String × Nat)) (body : Json) : Option (List Nat) := do
  let values ← body.fields? (bounds.map (·.1))
  (bounds.zip values).mapM fun (bound, value) => do (← value).natural? bound.2

/-- The opcode of a name and the record of its operands. -/
def ofRecord? (name : String) (body : Json) : Option Opcode :=
  match registerForms.lookup name with
  | some form =>
      match operands? [("x", 256)] body with
      | some [x] => some (form (.ofNat x))
      | _ => none
  | none =>
    match byteForms.lookup name with
    | some form =>
        match operands? [("x", 256), ("kk", 256)] body with
        | some [x, b] => some (form (.ofNat x) (.ofNat b))
        | _ => none
    | none =>
      match pairForms.lookup name with
      | some form =>
          match operands? [("x", 256), ("y", 256)] body with
          | some [x, y] => some (form (.ofNat x) (.ofNat y))
          | _ => none
      | none =>
        match addressForms.lookup name with
        | some form =>
            match operands? [("addr", 65536)] body with
            | some [a] => some (form (.ofNat a))
            | _ => none
        | none =>
            if name = "Draw" then
              match operands? [("x", 256), ("y", 256), ("n", 256)] body with
              | some [x, y, n] => some (.draw (.ofNat x) (.ofNat y) (.ofNat n))
              | _ => none
            else none

/-- The opcode a JSON value stands for. -/
def ofJson? (v : Json) : Option Opcode :=
  match v.choice? [("Return", ret)] with
  | some op => some op
  | none =>
      match v with
      | .object [(some name, body)] => ofRecord? name body
      | _ => none

/-- The opcodes a JSON array stands for. -/
def listOfJson? : Json → Option (List Opcode)
  | .array items => items.mapM ofJson?
  | _ => none

end Opcode

end Chip8
