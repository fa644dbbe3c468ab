import Chip8.Json.Reader

/-!
# What a JSON text is

The grammar of JSON, given with the value that each text is written for.  It says
nothing of how a text is read.

* `Numeral` is the grammar of numbers, and `Spelled` that of the inside of a string
  with the pieces that it is made of.
* `Item` and `Member` are a part of an array and a part of an object, with all the
  white space around them.
* `Written v cs` says that the characters are a text of the value, with no white
  space around it, and `TextOf` allows the white space.

White space after the last part of a container may count to the part or to the
container.  So an empty container needs no rule of its own.
-/

namespace Chip8.Json

open Reader (isSpace hexValue? escaped? numberValue)

/-- White space of any length. -/
def Blank (cs : List Char) : Prop := ∀ c ∈ cs, isSpace c = true

theorem Blank.nil : Blank [] := List.forall_mem_nil _

/-! ## Numbers -/

/-- One digit or more. -/
structure Digits (cs : List Char) : Prop where
  nonempty : cs ≠ []
  digits : ∀ c ∈ cs, c.isDigit = true

/-- The digits before the point: a zero alone, or digits of which the first is no zero. -/
def Whole (cs : List Char) : Prop := cs = ['0'] ∨ Digits cs ∧ cs.head? ≠ some '0'

/-- The point and the digits after it, if there is one. -/
def Fraction (cs : List Char) : Prop := cs = [] ∨ ∃ digits, Digits digits ∧ cs = '.' :: digits

/-- The exponent, if there is one. -/
def Exponent (cs : List Char) : Prop :=
  cs = [] ∨ ∃ letter sign digits, (letter = 'e' ∨ letter = 'E') ∧
    (sign = [] ∨ sign = ['+'] ∨ sign = ['-']) ∧ Digits digits ∧ cs = letter :: (sign ++ digits)

/-- A number. -/
inductive Numeral : List Char → Prop where
  | mk {sign digits point power : List Char} (signed : sign = [] ∨ sign = ['-'])
      (whole : Whole digits) (fraction : Fraction point) (exponent : Exponent power) :
      Numeral (sign ++ (digits ++ (point ++ power)))

/-! ## Strings -/

/-- The inside of a string, and the pieces that it is made of. -/
inductive Spelled : List Char → List Piece → Prop where
  | nil : Spelled [] []
  | plain {c : Char} {cs : List Char} {pieces : List Piece} (quote : c ≠ '"')
      (backslash : c ≠ '\\') (control : ¬ c.toNat < 0x20) (rest : Spelled cs pieces) :
      Spelled (c :: cs) (.char c :: pieces)
  | escape {letter c : Char} {cs : List Char} {pieces : List Piece}
      (stands : escaped? letter = some c) (rest : Spelled cs pieces) :
      Spelled ('\\' :: letter :: cs) (.char c :: pieces)
  | unit {a b c d : Char} {m n k l : Nat} {cs : List Char} {pieces : List Piece}
      (first : hexValue? a = some m) (second : hexValue? b = some n)
      (third : hexValue? c = some k) (fourth : hexValue? d = some l) (rest : Spelled cs pieces) :
      Spelled ('\\' :: 'u' :: a :: b :: c :: d :: cs)
        (.unit (((m * 16 + n) * 16 + k) * 16 + l) :: pieces)

/-! ## Values -/

/-- A value in a text, with the white space around it. -/
structure Item where
  /-- The white space before it. -/
  before : List Char
  /-- The value. -/
  value : Json
  /-- Its own characters. -/
  text : List Char
  /-- The white space after it. -/
  after : List Char

/-- The characters of an item. -/
def Item.chars (i : Item) : List Char := i.before ++ (i.text ++ i.after)

/-- What is around an item is white space. -/
structure Item.Spaced (i : Item) : Prop where
  before : Blank i.before
  after : Blank i.after

/-- A member of an object in a text. -/
structure Member where
  /-- The white space before the key. -/
  before : List Char
  /-- What is between the quotes of the key. -/
  name : List Char
  /-- The pieces of the key. -/
  pieces : List Piece
  /-- The white space before the colon. -/
  colon : List Char
  /-- The value. -/
  item : Item

/-- The key of a member. -/
def Member.key (m : Member) : Option String := textOfPieces? m.pieces

/-- A member as a member of an object. -/
def Member.entry (m : Member) : Option String × Json := (m.key, m.item.value)

/-- The characters of a member. -/
def Member.chars (m : Member) : List Char :=
  m.before ++ '"' :: (m.name ++ '"' :: (m.colon ++ ':' :: m.item.chars))

/-- The key of a member is spelled out, and what is between its parts is white space. -/
structure Member.Spaced (m : Member) : Prop where
  before : Blank m.before
  name : Spelled m.name m.pieces
  colon : Blank m.colon
  item : m.item.Spaced

/-- A value, and the characters that it is written in. -/
inductive Written : Json → List Char → Prop where
  | null : Written .null "null".toList
  | bool (b : Bool) : Written (.bool b) (if b then "true".toList else "false".toList)
  | number {cs : List Char} (numeral : Numeral cs) : Written (numberValue cs) cs
  | string {cs : List Char} {pieces : List Piece} (spelled : Spelled cs pieces) :
      Written (.string (textOfPieces? pieces)) ('"' :: (cs ++ ['"']))
  | array {items : List Item} {close : List Char} (spaced : ∀ i ∈ items, i.Spaced)
      (written : ∀ i ∈ items, Written i.value i.text) (blank : Blank close) :
      Written (.array (items.map (·.value)))
        ('[' :: ([','].intercalate (items.map Item.chars) ++ (close ++ [']'])))
  | object {members : List Member} {close : List Char} (spaced : ∀ m ∈ members, m.Spaced)
      (written : ∀ m ∈ members, Written m.item.value m.item.text) (blank : Blank close) :
      Written (.object (members.map Member.entry))
        ('{' :: ([','].intercalate (members.map Member.chars) ++ (close ++ ['}'])))

/-- A text of a value. -/
inductive TextOf : String → Json → Prop where
  | mk {item : Item} (spaced : item.Spaced) (written : Written item.value item.text) :
      TextOf (.ofList item.chars) item.value

end Chip8.Json
