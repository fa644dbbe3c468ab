import Chip8.Json
import Chip8.Json.Text

/-!
# Reading JSON

A reader that takes one character at a time.  Its state says what may come next
and holds the containers that are still open, the innermost first, so that
nesting of any depth needs no recursion.  Reading a text is a fold of
`Reader.step` over its characters, and reading one text after another is reading
both (`run_append`).

White space is the four characters space, tab, line feed and carriage return.
Nothing but white space may follow the value.
-/

namespace Chip8.Json.Reader

/-- A key as it was read. -/
abbrev Key := Option String

/-- A container that is still open, with what it holds so far, last first. -/
inductive Frame where
  /-- An array. -/
  | array (items : List Json)
  /-- An object waiting for the value of a key. -/
  | object (members : List (Key × Json)) (key : Key)

/-- How much of a number has been read. -/
inductive NumberPart where
  /-- A minus sign. -/
  | sign
  /-- A leading zero, which ends the digits before a point. -/
  | zero
  /-- Digits before a point. -/
  | digits
  /-- The point. -/
  | point
  /-- Digits after the point. -/
  | fraction
  /-- The letter of an exponent. -/
  | exponent
  /-- The sign of an exponent. -/
  | exponentSign
  /-- Digits of an exponent. -/
  | power
deriving DecidableEq, Repr

/-- Where a string has got to. -/
inductive StringPart where
  /-- Between characters. -/
  | plain
  /-- After a backslash. -/
  | escape
  /-- In an escape with this many digits to come, and the value of those read. -/
  | unit (remaining value : Nat)
deriving DecidableEq, Repr

/-- What a string is read for. -/
inductive StringRole where
  /-- It is a value. -/
  | value
  /-- It is a key of an object with these members so far. -/
  | key (members : List (Key × Json))

/-- What may come next. -/
inductive State where
  /-- A value, or the end of the array that has just been opened. -/
  | value (opened : Bool) (stack : List Frame)
  /-- A key, or the end of the object that has just been opened. -/
  | key (opened : Bool) (members : List (Key × Json)) (stack : List Frame)
  /-- The colon after a key. -/
  | colon (members : List (Key × Json)) (key : Key) (stack : List Frame)
  /-- What follows a value. -/
  | after (v : Json) (stack : List Frame)
  /-- The rest of a word that stands for a value. -/
  | word (rest : List Char) (v : Json) (stack : List Frame)
  /-- The rest of a number, its characters so far last first. -/
  | number (part : NumberPart) (read : List Char) (stack : List Frame)
  /-- The rest of a string, its pieces so far last first. -/
  | string (role : StringRole) (part : StringPart) (pieces : List Piece) (stack : List Frame)

/-- Whether a character is white space. -/
def isSpace (c : Char) : Bool := c == ' ' || c == '\t' || c == '\n' || c == '\r'

/-! ## Numbers -/

/-- The part of a number that a further character belongs to. -/
def NumberPart.next? (part : NumberPart) (c : Char) : Option NumberPart :=
  match part with
  | sign => if c = '0' then some zero else if c.isDigit then some digits else none
  | zero => if c = '.' then some point else if c = 'e' ∨ c = 'E' then some exponent else none
  | digits =>
      if c.isDigit then some digits
      else if c = '.' then some point
      else if c = 'e' ∨ c = 'E' then some exponent
      else none
  | point => if c.isDigit then some fraction else none
  | fraction =>
      if c.isDigit then some fraction
      else if c = 'e' ∨ c = 'E' then some exponent
      else none
  | exponent =>
      if c.isDigit then some power
      else if c = '+' ∨ c = '-' then some exponentSign
      else none
  | exponentSign => if c.isDigit then some power else none
  | power => if c.isDigit then some power else none

/-- Whether a number may end after a part. -/
def NumberPart.mayEnd : NumberPart → Bool
  | zero | digits | fraction | power => true
  | sign | point | exponent | exponentSign => false

/-- The value of a number from its characters. -/
def numberValue (written : List Char) : Json :=
  if written.all Char.isDigit then .natural (Nat.ofDigitChars 10 written 0) else .number written

/-! ## Strings -/

/-- The value of a hexadecimal digit. -/
def hexValue? (c : Char) : Option Nat :=
  if c.isDigit then some (c.toNat - '0'.toNat)
  else if 'a' ≤ c ∧ c ≤ 'f' then some (c.toNat - 'a'.toNat + 10)
  else if 'A' ≤ c ∧ c ≤ 'F' then some (c.toNat - 'A'.toNat + 10)
  else none

/-- The character a one-letter escape stands for. -/
def escaped? (c : Char) : Option Char :=
  if c = '"' ∨ c = '\\' ∨ c = '/' then some c
  else if c = 'b' then some '\x08'
  else if c = 'f' then some '\x0c'
  else if c = 'n' then some '\n'
  else if c = 'r' then some '\r'
  else if c = 't' then some '\t'
  else none

/-- The state after the quote that ends a string. -/
def closeString (role : StringRole) (pieces : List Piece) (stack : List Frame) : State :=
  let text := textOfPieces? pieces.reverse
  match role with
  | .value => .after (.string text) stack
  | .key members => .colon members text stack

/-- The state after a character of a string. -/
def stepString (role : StringRole) (part : StringPart) (pieces : List Piece) (stack : List Frame)
    (c : Char) : Option State :=
  match part with
  | .plain =>
      if c = '"' then some (closeString role pieces stack)
      else if c = '\\' then some (.string role .escape pieces stack)
      else if c.toNat < 0x20 then none
      else some (.string role .plain (.char c :: pieces) stack)
  | .escape =>
      if c = 'u' then some (.string role (.unit 4 0) pieces stack)
      else (escaped? c).map fun e => .string role .plain (.char e :: pieces) stack
  | .unit remaining value =>
      (hexValue? c).map fun digit =>
        let value := value * 16 + digit
        if remaining ≤ 1 then .string role .plain (.unit value :: pieces) stack
        else .string role (.unit (remaining - 1) value) pieces stack

/-! ## Values and containers -/

/-- The state after the first character of a value. -/
def stepValue (stack : List Frame) (c : Char) : Option State :=
  if c = '"' then some (.string .value .plain [] stack)
  else if c = '{' then some (.key true [] stack)
  else if c = '[' then some (.value true (.array [] :: stack))
  else if c = 'n' then some (.word "ull".toList .null stack)
  else if c = 't' then some (.word "rue".toList (.bool true) stack)
  else if c = 'f' then some (.word "alse".toList (.bool false) stack)
  else if c = '-' then some (.number .sign [c] stack)
  else if c = '0' then some (.number .zero [c] stack)
  else if c.isDigit then some (.number .digits [c] stack)
  else none

/-- The state after the character that follows a value. -/
def stepAfter (v : Json) (stack : List Frame) (c : Char) : Option State :=
  if isSpace c then some (.after v stack)
  else
    match stack with
    | [] => none
    | .array items :: stack =>
        if c = ',' then some (.value false (.array (v :: items) :: stack))
        else if c = ']' then some (.after (.array (v :: items).reverse) stack)
        else none
    | .object members key :: stack =>
        if c = ',' then some (.key false ((key, v) :: members) stack)
        else if c = '}' then some (.after (.object ((key, v) :: members).reverse) stack)
        else none

/-- The state after a character, nothing when the character cannot stand there. -/
def step : State → Char → Option State
  | .value opened stack, c =>
      if isSpace c then some (.value opened stack)
      else
        match opened, stack with
        | true, .array items :: outer =>
            if c = ']' then some (.after (.array items) outer) else stepValue stack c
        | _, _ => stepValue stack c
  | .key opened members stack, c =>
      if isSpace c then some (.key opened members stack)
      else if c = '"' then some (.string (.key members) .plain [] stack)
      else if c = '}' ∧ opened then some (.after (.object members) stack)
      else none
  | .colon members key stack, c =>
      if isSpace c then some (.colon members key stack)
      else if c = ':' then some (.value false (.object members key :: stack))
      else none
  | .after v stack, c => stepAfter v stack c
  | .word rest v stack, c =>
      match rest with
      | [] => stepAfter v stack c
      | expected :: rest => if c = expected then some (.word rest v stack) else none
  | .number part read stack, c =>
      match part.next? c with
      | some part => some (.number part (c :: read) stack)
      | none => if part.mayEnd then stepAfter (numberValue read.reverse) stack c else none
  | .string role part pieces stack, c => stepString role part pieces stack c

/-- The value that a text ends with, if it may end there. -/
def finish : State → Option Json
  | .after v [] => some v
  | .word [] v [] => some v
  | .number part read [] => if part.mayEnd then some (numberValue read.reverse) else none
  | _ => none

/-- The state after some characters. -/
def run : State → List Char → Option State
  | s, [] => some s
  | s, c :: cs =>
      match step s c with
      | some s => run s cs
      | none => none

theorem run_append (s : State) (cs ds : List Char) :
    run s (cs ++ ds) = (run s cs).bind fun t => run t ds := by
  induction cs generalizing s with
  | nil => rfl
  | cons c cs ih =>
    simp only [List.cons_append, run]
    cases step s c with
    | none => rfl
    | some t => exact ih t

end Chip8.Json.Reader

namespace Chip8.Json

/-- The value a text is written for, nothing when it is not JSON. -/
def read? (text : String) : Option Json :=
  (Reader.run (.value false []) text.toList).bind Reader.finish

end Chip8.Json
