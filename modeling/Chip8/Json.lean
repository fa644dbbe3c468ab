/-!
# JSON values

A value as it was written.  Members of an object keep their order and may repeat
a key.  A number that is a plain run of digits is a natural number.  Any other
number keeps its text, since nothing here computes with it.

A string may be written with escapes that name half of a surrogate pair.  Such a
string is well formed but stands for no text, so the text of a string is an
option.  A reader that only skips the value need not care.
-/

namespace Chip8

/-- A JSON value. -/
inductive Json where
  /-- The value `null`. -/
  | null
  /-- A truth value. -/
  | bool (b : Bool)
  /-- A number written with digits alone. -/
  | natural (n : Nat)
  /-- Any other number, as it was written. -/
  | number (written : List Char)
  /-- A string, with no text when it cannot be read as one. -/
  | string (text : Option String)
  /-- An array. -/
  | array (items : List Json)
  /-- An object, its keys with no text when they cannot be read as one. -/
  | object (members : List (Option String × Json))
deriving Inhabited

namespace Json

/-- A string that stands for a text. -/
def text (s : String) : Json := .string (some s)

/-- An object with readable keys. -/
def ofFields (fields : List (String × Json)) : Json :=
  .object (fields.map fun (key, value) => (some key, value))

/-! ## Reading parts of a value -/

/-- A natural number below a bound. -/
def natural? (bound : Nat) : Json → Option Nat
  | natural n => if n < bound then some n else none
  | _ => none

/-- One of some named choices, written as its name or as an object that gives the name a null. -/
def choice? {α : Type} (choices : List (String × α)) : Json → Option α
  | string (some name) => choices.lookup name
  | object [(some name, null)] => choices.lookup name
  | _ => none

/-- The value of a key that may be given once: nothing inside when it is not given, and nothing
at all when it is given twice. -/
def member? (members : List (Option String × Json)) (name : String) : Option (Option Json) :=
  match members.filter (·.1 = some name) with
  | [] => some none
  | [(_, value)] => some (some value)
  | _ => none

/-- The values of the fields of a record.  A record is an object, whose keys must all be readable
and whose other keys are passed over, or an array of its fields in order. -/
def fields? (names : List String) : Json → Option (List (Option Json))
  | object members =>
      if members.all (·.1.isSome) then names.mapM (member? members) else none
  | array items =>
      if items.length ≤ names.length then
        some (items.map some ++ List.replicate (names.length - items.length) none)
      else none
  | _ => none

/-- A field that may be left out. -/
def orDefault {α : Type} (default : α) (read : Json → Option α) : Option Json → Option α
  | none => some default
  | some value => read value

end Json

end Chip8
