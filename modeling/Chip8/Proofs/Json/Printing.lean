import Chip8.Json.Printer
import Chip8.Proofs.Json.Reading

/-!
# Writing and reading back

Both layouts write a text of the value (`written_compact`, `written_pretty`), so the
reader answers the value itself (`read_compact`, `read_pretty`).

This holds of every value that can be told from its text (`Proper`).  A number that
keeps its characters has to be one, and must not be a plain run of digits, which is
read as a natural number.
-/

namespace Chip8.Json

open Reader (isSpace hexValue? escaped? numberValue)

/-- A value that a text can be written for. -/
inductive Proper : Json → Prop where
  | null : Proper .null
  | bool (b : Bool) : Proper (.bool b)
  | natural (n : Nat) : Proper (.natural n)
  | number {cs : List Char} (numeral : Numeral cs) (other : cs.all Char.isDigit = false) :
      Proper (.number cs)
  | string (text : Option String) : Proper (.string text)
  | array {items : List Json} (each : ∀ v ∈ items, Proper v) : Proper (.array items)
  | object {members : List (Option String × Json)} (each : ∀ m ∈ members, Proper m.2) :
      Proper (.object members)

/-! ## Numbers -/

theorem head?_toDigits {n : Nat} (positive : 0 < n) : (Nat.toDigits 10 n).head? ≠ some '0' := by
  induction n using Nat.strongRecOn with
  | ind n ih =>
      rw [Nat.toDigits_eq_if (by decide)]
      split
      next small =>
        rw [List.head?_singleton, Ne, Option.some.injEq, Nat.digitChar_eq_zero]
        omega
      next large =>
        have first := ih (n / 10) (by omega) (by omega)
        obtain ⟨d, ds, digits⟩ :=
          List.exists_cons_of_ne_nil (Nat.toDigits_ne_nil (n := n / 10) (b := 10))
        rw [digits] at first ⊢
        exact first

theorem numeral_toDigits (n : Nat) : Numeral (Nat.toDigits 10 n) := by
  have whole : Whole (Nat.toDigits 10 n) := by
    cases n with
    | zero => exact .inl rfl
    | succ n =>
        refine .inr ⟨⟨Nat.toDigits_ne_nil, ?_⟩, head?_toDigits (Nat.succ_pos n)⟩
        intro c among
        exact Nat.isDigit_of_mem_toDigits (by decide) (by decide) among
  simpa using Numeral.mk (.inl rfl) whole (.inl rfl) (.inl rfl)

theorem numberValue_toDigits (n : Nat) : numberValue (Nat.toDigits 10 n) = .natural n := by
  have digits : (Nat.toDigits 10 n).all Char.isDigit = true := by
    rw [List.all_eq_true]
    intro c among
    exact Nat.isDigit_of_mem_toDigits (by decide) (by decide) among
  rw [numberValue, if_pos digits, Nat.ofDigitChars_ten_toDigits]

/-! ## Strings -/

/-- How a character is written inside a string. -/
inductive CharCase (c : Char) : Prop where
  | plain (quote : c ≠ '"') (backslash : c ≠ '\\') (control : ¬ c.toNat < 0x20)
      (writes : writeChar c = [c])
  | escape {letter : Char} (stands : escaped? letter = some c)
      (writes : writeChar c = ['\\', letter])
  | unit (control : c.toNat < 0x20) (writes : writeChar c = '\\' :: 'u' :: escapeDigits c.toNat)

theorem charCase (c : Char) : CharCase c := by
  by_cases special : c ∈ ['"', '\\', '\n', '\r', '\t', '\x08', '\x0c']
  · simp only [List.mem_cons, List.not_mem_nil, or_false] at special
    rcases special with rfl | rfl | rfl | rfl | rfl | rfl | rfl
    · exact @CharCase.escape _ '"' rfl rfl
    · exact @CharCase.escape _ '\\' rfl rfl
    · exact @CharCase.escape _ 'n' rfl rfl
    · exact @CharCase.escape _ 'r' rfl rfl
    · exact @CharCase.escape _ 't' rfl rfl
    · exact @CharCase.escape _ 'b' rfl rfl
    · exact @CharCase.escape _ 'f' rfl rfl
  · simp only [List.mem_cons, List.not_mem_nil, or_false, not_or] at special
    obtain ⟨quote, backslash, newline, cr, tab, backspace, feed⟩ := special
    by_cases control : c.toNat < 0x20
    · exact .unit control (by simp [writeChar, *])
    · exact .plain quote backslash control (by simp [writeChar, *])

theorem hexValue?_digitChar {n : Nat} (small : n < 16) : hexValue? n.digitChar = some n := by
  revert n
  decide

/-- Four hexadecimal digits spell out the unit that they are written for. -/
theorem spelled_unit {n : Nat} (small : n < 0x10000) {cs : List Char} {pieces : List Piece}
    (rest : Spelled cs pieces) :
    Spelled ('\\' :: 'u' :: (escapeDigits n ++ cs)) (.unit n :: pieces) := by
  have mod (k : Nat) : hexValue? (k % 16).digitChar = some (k % 16) :=
    hexValue?_digitChar (Nat.mod_lt k (by decide))
  have value : ((n / 4096 % 16 * 16 + n / 256 % 16) * 16 + n / 16 % 16) * 16 + n % 16 = n := by
    omega
  have spelled := Spelled.unit (mod (n / 4096)) (mod (n / 256)) (mod (n / 16)) (mod n) rest
  rwa [value] at spelled

theorem charsOfPieces?_unit {n : Nat} {rest : List Piece} (high : isHighSurrogate n = false)
    (low : isLowSurrogate n = false) :
    charsOfPieces? (.unit n :: rest) = (charsOfPieces? rest).map (.ofNat n :: ·) := by
  rw [charsOfPieces?.eq_def]
  simp [high, low]

/-- What a text is written as can be read back. -/
theorem exists_spelled (cs : List Char) :
    ∃ pieces, Spelled (cs.flatMap writeChar) pieces ∧ charsOfPieces? pieces = some cs := by
  induction cs with
  | nil => exact ⟨[], .nil, rfl⟩
  | cons c cs ih =>
      obtain ⟨pieces, spelled, chars⟩ := ih
      rw [List.flatMap_cons]
      cases charCase c with
      | plain quote backslash control writes =>
          rw [writes]
          refine ⟨_, .plain quote backslash control spelled, ?_⟩
          rw [charsOfPieces?, chars]
          rfl
      | escape stands writes =>
          rw [writes]
          refine ⟨_, .escape stands spelled, ?_⟩
          rw [charsOfPieces?, chars]
          rfl
      | unit control writes =>
          rw [writes]
          refine ⟨_, spelled_unit (Nat.lt_trans control (by decide)) spelled, ?_⟩
          have high : isHighSurrogate c.toNat = false := by
            simp [isHighSurrogate]
            omega
          have low : isLowSurrogate c.toNat = false := by
            simp [isLowSurrogate]
            omega
          rw [charsOfPieces?_unit high low, chars, Option.map_some, Char.ofNat_toNat]

/-- The string of a text, or of no text. -/
theorem exists_spelled_key (key : Option String) :
    ∃ name pieces, Spelled name pieces ∧ textOfPieces? pieces = key ∧
      writeString key = '"' :: (name ++ ['"']) := by
  cases key with
  | none => exact ⟨_, _, spelled_unit (n := 0xD800) (by decide) .nil, rfl, rfl⟩
  | some text =>
      obtain ⟨pieces, spelled, chars⟩ := exists_spelled text.toList
      refine ⟨_, pieces, spelled, ?_, rfl⟩
      rw [textOfPieces?, chars, Option.map_some, String.ofList_toList]

theorem written_string (text : Option String) : Written (.string text) (writeString text) := by
  obtain ⟨name, pieces, spelled, key, writes⟩ := exists_spelled_key text
  rw [writes, ← key]
  exact .string spelled

/-! ## Containers -/

/-- An item at its place in a layout. -/
def placed (lead : List Char) (chars : Json → List Char) (v : Json) : Item :=
  ⟨lead, v, chars v, []⟩

section
variable {lead close : List Char} (before : Blank lead) (blank : Blank close)

include before blank in
/-- An array with white space before each item. -/
theorem written_array {items : List Json} {chars : Json → List Char}
    (written : ∀ v ∈ items, Written v (chars v)) :
    Written (.array items)
      ('[' :: ([','].intercalate (items.map fun v => lead ++ chars v) ++ (close ++ [']']))) := by
  have spaced : ∀ i ∈ items.map (placed lead chars), i.Spaced := by
    intro i among
    obtain ⟨v, -, rfl⟩ := List.mem_map.mp among
    exact ⟨before, .nil⟩
  have each : ∀ i ∈ items.map (placed lead chars), Written i.value i.text := by
    intro i among
    obtain ⟨v, inside, rfl⟩ := List.mem_map.mp among
    exact written v inside
  have whole := Written.array spaced each blank
  simpa [placed, Item.chars, Function.comp_def] using whole

/-- The characters of a member with white space before it and after the colon. -/
def memberChars (lead gap : List Char) (chars : Json → List Char) :
    Option String × Json → List Char
  | (key, v) => lead ++ (writeString key ++ ':' :: (gap ++ chars v))

/-- The members of an object at their places in a layout. -/
structure PlacedMembers (lead gap : List Char) (chars : Json → List Char)
    (members : List (Option String × Json)) (placed : List Member) : Prop where
  entries : placed.map Member.entry = members
  laid : placed.map Member.chars = members.map (memberChars lead gap chars)
  spaced : ∀ m ∈ placed, m.Spaced
  texts : ∀ m ∈ placed, m.item.text = chars m.item.value

include before in
theorem exists_placed_members {gap : List Char} (space : Blank gap) (chars : Json → List Char)
    (members : List (Option String × Json)) :
    ∃ placed, PlacedMembers lead gap chars members placed := by
  induction members with
  | nil => exact ⟨[], rfl, rfl, List.forall_mem_nil _, List.forall_mem_nil _⟩
  | cons member members ih =>
      obtain ⟨placed, ih⟩ := ih
      obtain ⟨key, v⟩ := member
      obtain ⟨name, pieces, spelled, isKey, writes⟩ := exists_spelled_key key
      refine ⟨⟨lead, name, pieces, [], ⟨gap, v, chars v, []⟩⟩ :: placed, ?_, ?_, ?_, ?_⟩
      · rw [List.map_cons, ih.entries, Member.entry, Member.key, isKey]
      · rw [List.map_cons, List.map_cons, ih.laid, memberChars, writes]
        simp [Member.chars, Item.chars]
      · exact List.forall_mem_cons.mpr ⟨⟨before, spelled, .nil, ⟨space, .nil⟩⟩, ih.spaced⟩
      · exact List.forall_mem_cons.mpr ⟨rfl, ih.texts⟩

include before blank in
/-- An object with white space before each member and after each colon. -/
theorem written_object {gap : List Char} (space : Blank gap)
    {members : List (Option String × Json)} {chars : Json → List Char}
    (written : ∀ m ∈ members, Written m.2 (chars m.2)) :
    Written (.object members)
      ('{' :: ([','].intercalate (members.map (memberChars lead gap chars)) ++ (close ++ ['}']))) := by
  obtain ⟨placed, places⟩ := exists_placed_members before space chars members
  have each : ∀ m ∈ placed, Written m.item.value m.item.text := by
    intro m among
    have entry : m.entry ∈ members := by
      rw [← places.entries]
      exact List.mem_map_of_mem among
    rw [places.texts m among]
    exact written m.entry entry
  have whole := Written.object places.spaced each blank
  rwa [places.entries, places.laid] at whole

end

/-! ## The layouts -/

theorem compactItems_eq (items : List Json) :
    compactItems items = [','].intercalate (items.map compactChars) := by
  induction items with
  | nil => rfl
  | cons v items ih =>
      cases items with
      | nil => simp [compactItems]
      | cons w items =>
          rw [compactItems, ih]
          simp [List.intercalate_cons_cons]

theorem compactMembers_eq (members : List (Option String × Json)) :
    compactMembers members = [','].intercalate (members.map (memberChars [] [] compactChars)) := by
  induction members with
  | nil => rfl
  | cons m members ih =>
      obtain ⟨key, v⟩ := m
      cases members with
      | nil => simp [compactMembers, memberChars]
      | cons n members =>
          rw [compactMembers, ih]
          simp [List.intercalate_cons_cons, memberChars]

theorem prettyItems_eq (depth : Nat) (items : List Json) :
    prettyItems depth items =
      [','].intercalate (items.map fun v => newLine depth ++ prettyChars depth v) := by
  induction items with
  | nil => rfl
  | cons v items ih =>
      cases items with
      | nil => simp [prettyItems]
      | cons w items =>
          rw [prettyItems, ih]
          simp [List.intercalate_cons_cons]

theorem prettyMembers_eq (depth : Nat) (members : List (Option String × Json)) :
    prettyMembers depth members =
      [','].intercalate (members.map (memberChars (newLine depth) [' '] (prettyChars depth))) := by
  induction members with
  | nil => rfl
  | cons m members ih =>
      obtain ⟨key, v⟩ := m
      cases members with
      | nil => simp [prettyMembers, memberChars]
      | cons n members =>
          rw [prettyMembers, ih]
          simp [List.intercalate_cons_cons, memberChars]

theorem blank_newLine (depth : Nat) : Blank (newLine depth) := by
  intro c among
  rcases List.mem_cons.mp among with rfl | space
  · rfl
  · rw [List.eq_of_mem_replicate space]
    rfl

theorem written_bool (b : Bool) : Written (.bool b) (writeBool b) := .bool b

theorem written_natural (n : Nat) : Written (.natural n) (Nat.toDigits 10 n) := by
  have written := Written.number (numeral_toDigits n)
  rwa [numberValue_toDigits] at written

theorem written_number {cs : List Char} (numeral : Numeral cs)
    (other : cs.all Char.isDigit = false) : Written (.number cs) cs := by
  have written := Written.number numeral
  rwa [numberValue, other, if_neg Bool.false_ne_true] at written

variable {v : Json}

/-- The compact layout is a text of the value. -/
theorem written_compact (proper : Proper v) : Written v (compactChars v) := by
  induction proper with
  | null => simpa [compactChars] using Written.null
  | bool b => simpa [compactChars] using written_bool b
  | natural n => simpa [compactChars] using written_natural n
  | number numeral other => simpa [compactChars] using written_number numeral other
  | string text => simpa [compactChars] using written_string text
  | @array items each ih =>
      have written := written_array .nil .nil ih
      simpa [compactChars, compactItems_eq] using written
  | @object members each ih =>
      have written := written_object .nil .nil .nil ih
      simpa [compactChars, compactMembers_eq] using written

/-- The indented layout is a text of the value, at any depth. -/
theorem written_pretty (proper : Proper v) (depth : Nat) : Written v (prettyChars depth v) := by
  induction proper generalizing depth with
  | null => simpa [prettyChars] using Written.null
  | bool b => simpa [prettyChars] using written_bool b
  | natural n => simpa [prettyChars] using written_natural n
  | number numeral other => simpa [prettyChars] using written_number numeral other
  | string text => simpa [prettyChars] using written_string text
  | @array items each ih =>
      cases items with
      | nil => simpa [prettyChars] using written_array .nil .nil (ih · · 0)
      | cons v items =>
          have written := written_array (blank_newLine (depth + 1)) (blank_newLine depth)
            (ih · · (depth + 1))
          simpa [prettyChars, prettyItems_eq] using written
  | @object members each ih =>
      cases members with
      | nil => simpa [prettyChars] using written_object .nil .nil .nil (ih · · 0)
      | cons m members =>
          have gap : Blank [' '] := List.forall_mem_singleton.mpr rfl
          have written := written_object (blank_newLine (depth + 1)) (blank_newLine depth) gap
            (ih · · (depth + 1))
          simpa [prettyChars, prettyMembers_eq] using written

theorem textOf_of_written {cs : List Char} (written : Written v cs) : TextOf (.ofList cs) v := by
  have spaced : Item.Spaced ⟨[], v, cs, []⟩ := ⟨.nil, .nil⟩
  have textOf := TextOf.mk spaced written
  simpa [Item.chars] using textOf

/-- The reader answers what the compact layout was written for. -/
theorem read_compact (proper : Proper v) : read? v.compact = some v :=
  read_of_textOf (textOf_of_written (written_compact proper))

/-- The reader answers what the indented layout was written for. -/
theorem read_pretty (proper : Proper v) : read? v.pretty = some v :=
  read_of_textOf (textOf_of_written (written_pretty proper 0))

end Chip8.Json
