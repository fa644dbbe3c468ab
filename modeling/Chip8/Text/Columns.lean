import Chip8.Text.CharSet.Columns
import Chip8.Text.CharSet.Emoji
import Chip8.Text.CharSet.Joining

/-!
# Columns

The columns a text takes on a terminal.  Most characters take one.  The wide
characters of East Asia and the emoji take two, and marks take none.

Some characters take fewer columns together than alone.

* The two characters of a line end take one column.
* An emoji takes two columns, whatever it is made of, and so do several emoji that
  joiners hold together.
* A ligature takes the columns of what is shown for it.

What a character takes depends on what follows it, so a text is counted from its
end.  The state of the count is what the following characters are the end of, and
the form they ask the next character to have.  A character that turns out to belong
with them takes nothing more, and may give back columns that they took.
-/

namespace Chip8

namespace Columns

/-! ## What follows a character -/

/-- A ligature whose end follows. -/
inductive Ligature where
  /-- Alef and lamed, by the lamed. -/
  | lamed
  /-- A vowel and ya, by the ya. -/
  | ya
  /-- A vowel and ya, by the ya and a part of the vowel. -/
  | yaWithVowel
  /-- Two consonants of Tifinagh, by the second. -/
  | tifinagh
  /-- Two consonants of Tifinagh, by the second and the sign that joins them. -/
  | tifinaghJoined
  /-- A pair of tones, by the second. -/
  | lisuTones
  /-- Two letters of Old Turkic, by the second. -/
  | oldTurkic
  /-- The sign coeng and a letter, by the letter. -/
  | coeng
deriving DecidableEq, Repr

/-- What the following characters are the end of. -/
inductive Ending where
  /-- Nothing in particular. -/
  | plain
  /-- The end of a line. -/
  | lineFeed
  /-- A ligature of lam and alef, by the alef. -/
  | alef
  /-- Another ligature, with a joiner in front or not. -/
  | ligature (l : Ligature) (joiner : Bool)
  /-- An emoji with a modifier, by the modifier. -/
  | modifier
  /-- A regional letter. -/
  | regional
  /-- Several regional letters. -/
  | regionals
  /-- An emoji. -/
  | emoji
  /-- A joiner and an emoji. -/
  | joined
  /-- A keycap that is joined to an emoji. -/
  | keycapJoined
  /-- A regional letter that is joined to an emoji. -/
  | regionalJoined
  /-- An even number of regional letters that are joined to an emoji. -/
  | evenRegionalsJoined
  /-- An odd number of regional letters, three or more, that are joined to an emoji. -/
  | oddRegionalsJoined
  /-- Some letters of a tag that is joined to an emoji. -/
  | tagLetters (count : Nat)
  /-- Some digits of a tag that is joined to an emoji. -/
  | tagDigits (count : Nat)
deriving DecidableEq, Repr

namespace Ending

/-- Whether a selector of a form leaves an ending as it is. -/
def isLigature : Ending → Bool
  | alef | ligature _ _ => true
  | _ => false

/-- Whether an emoji in front of an ending is joined to the one in it. -/
def joinsEmoji : Ending → Bool
  | joined | keycapJoined => true
  | _ => false

end Ending

/-- What follows a character. -/
structure Following where
  /-- What the following characters are the end of. -/
  ending : Ending := .plain
  /-- Whether they ask for an emoji. -/
  asksEmoji : Bool := false
  /-- Whether they ask for text. -/
  asksText : Bool := false
deriving DecidableEq, Repr

namespace Following

/-- What follows a character that a selector of emoji is after. -/
def askEmoji (f : Following) : Following :=
  if f.ending.isLigature || (f.ending.joinsEmoji && !f.asksEmoji) then { f with asksEmoji := true }
  else { asksEmoji := true }

/-- What follows a character that a selector of text is after. -/
def askText (f : Following) : Following :=
  if f.ending.isLigature then { f with asksText := true } else { asksText := true }

/-- What follows a character that is no emoji, whatever is asked for. -/
def withoutEmoji (f : Following) : Following :=
  if !f.asksEmoji then f
  else if f.ending.isLigature then { f with asksEmoji := false }
  else {}

end Following

/-- Columns taken, or given back, and what then follows the next character. -/
abbrev Step := Int × Following

/-- A step to an ending. -/
def Step.to (columns : Int) (ending : Ending) : Step := (columns, { ending })

/-! ## Single characters -/

/-- The last character that takes one column whatever it is. -/
def lastPlain : Nat := 0xA0

/-- The sign that asks for an emoji. -/
def emojiSelector : Char := '\uFE0F'

/-- The sign that asks for text. -/
def textSelector : Char := '\uFE0E'

/-- The sign that puts a character on a keycap. -/
def keycapSign : Char := '\u20E3'

/-- The sign that joins characters. -/
def joiner : Char := '\u200D'

/-- The sign that ends a tag. -/
def tagEnd : Char := .ofNat 0xE007F

/-- The flag that a tag is put on. -/
def tagBase : Char := .ofNat 0x1F3F4

/-- Characters whose columns no set tells. -/
def exceptions : List (Char × Nat) :=
  [('\u115F', 2), ('\u17A4', 2), ('\u17D8', 3), ('\u2D7F', 1)]

/-- The columns of a character by the sets it is in. -/
def ofSets (c : Char) : Nat :=
  if CharSet.ignorable.has c || CharSet.vowelJamo.has c || CharSet.finalJamo.has c ||
      CharSet.attached.has c || (CharSet.extending.has c && !CharSet.columnMarks.has c) then 0
  else if CharSet.wide.has c then 2
  else 1

/-- The columns of a character by itself. -/
def ofChar (c : Char) : Nat :=
  if c.toNat ≤ lastPlain then 1 else (List.lookup c exceptions).getD (ofSets c)

/-- Whether a character is an emoji when it is asked for. -/
def hasEmojiForm (c : Char) : Bool :=
  CharSet.textDefault.has c || CharSet.textOnRequest.has c || CharSet.wideInBothForms.has c

/-- Whether a mark lets the letters beside it join. -/
def isTransparent (c : Char) : Bool := ofChar c = 0 && !CharSet.opaqueMarks.has c

/-- What a character is the end of by itself. -/
def endingOf (c : Char) : Ending :=
  if CharSet.modifiers.has c then .modifier
  else if CharSet.regional.has c then .regional
  else if CharSet.emojiDefault.has c then .emoji
  else if CharSet.alefs.has c then .alef
  else if c = '\u05DC' then .ligature .lamed false
  else if c = '\u1A10' then .ligature .ya false
  else if CharSet.tifinagh.has c then .ligature .tifinagh false
  else if CharSet.lisuSecondTones.has c then .ligature .lisuTones false
  else if c = .ofNat 0x10C03 then .ligature .oldTurkic false
  else if CharSet.coengLetters.has c then .ligature .coeng false
  else .plain

/-- The step of a character by itself. -/
def alone (c : Char) : Step :=
  if c = emojiSelector then (0, { asksEmoji := true })
  else if c = textSelector then (0, { asksText := true })
  else .to (ofChar c) (endingOf c)

/-! ## Characters before an ending -/

/-- The step of a character that belongs to a ligature, none if it does not. -/
def ligatureStep? (l : Ligature) (hasJoiner : Bool) (c : Char) : Option Step :=
  if c = joiner then some (.to 0 (.ligature l true))
  else if CharSet.ligatureMarks.has c then some (.to 0 (.ligature l hasJoiner))
  else
    match l with
    | .lamed => if hasJoiner ∧ c = '\u05D0' then some (.to 0 .plain) else none
    | .ya => if hasJoiner ∧ c = '\u1A17' then some (.to 0 (.ligature .yaWithVowel true)) else none
    | .yaWithVowel => if c = '\u1A15' then some (.to 0 .plain) else none
    | .tifinagh =>
        if c = '\u2D7F' then some (.to 1 (.ligature .tifinaghJoined true))
        else if hasJoiner ∧ CharSet.tifinagh.has c then some (.to 0 .plain)
        else none
    | .tifinaghJoined => if CharSet.tifinagh.has c then some (.to (-1) .plain) else none
    | .lisuTones => if CharSet.lisuFirstTones.has c then some (.to 0 .plain) else none
    | .oldTurkic => if hasJoiner ∧ c = .ofNat 0x10C32 then some (.to 0 .plain) else none
    | .coeng => if c = '\u17D2' then some (.to (-1) .plain) else none

/-- The step of a character in front of a joiner and an emoji, none if it is not joined. -/
def joinedStep? (c : Char) : Option Step :=
  if c = keycapSign then some (.to 0 .keycapJoined)
  else if CharSet.regional.has c then some (.to 1 .regionalJoined)
  else if CharSet.modifiers.has c then some (.to 0 .modifier)
  else if c = tagEnd then some (.to 0 (.tagLetters 0))
  else if CharSet.emojiDefault.has c then some (.to 0 .emoji)
  else none

/-- The step of a character in front of some letters of a tag, none if it does not belong to it.  A
tag has at least three letters and at most six, or else ends in three digits. -/
def tagLettersStep? (count : Nat) (c : Char) : Option Step :=
  if CharSet.tagLetters.has c ∧ count < 6 then some (.to 0 (.tagLetters (count + 1)))
  else if CharSet.tagDigits.has c ∧ count < 5 then some (.to 0 (.tagDigits 1))
  else if c = tagBase ∧ 3 ≤ count then some (.to 0 .emoji)
  else none

/-- The step of a character in front of some digits of a tag, none if it does not belong to it. -/
def tagDigitsStep? (count : Nat) (c : Char) : Option Step :=
  if CharSet.tagDigits.has c ∧ count < 3 then some (.to 0 (.tagDigits (count + 1)))
  else if c = tagBase ∧ count = 3 then some (.to 0 .emoji)
  else none

/-- The step of a character that belongs with what follows it, none if it does not.  Regional
letters count in pairs from the left, which is known only when all of them are. -/
def endingStep? (e : Ending) (c : Char) : Option Step :=
  let isRegional := CharSet.regional.has c
  match e with
  | .plain | .lineFeed => none
  | .alef =>
      if CharSet.lams.has c then some (.to 0 .plain)
      else if isTransparent c then some (.to 0 .alef)
      else none
  | .ligature l hasJoiner => ligatureStep? l hasJoiner c
  | .modifier =>
      if CharSet.modifierBases.has c then some (.to 0 .emoji)
      else if c = joiner then some (.to 0 .joined)
      else none
  | .regional => if isRegional then some (.to 1 .regionals) else none
  | .regionals =>
      if isRegional then some (.to 1 .regionals)
      else if c = joiner then some (.to 0 .joined)
      else none
  | .emoji => if c = joiner then some (.to 0 .joined) else none
  | .joined => joinedStep? c
  | .keycapJoined => none
  | .regionalJoined => if isRegional then some (.to (-1) .evenRegionalsJoined) else none
  | .evenRegionalsJoined =>
      if isRegional then some (.to 3 .oddRegionalsJoined)
      else if c = joiner then some (.to 0 .joined)
      else none
  | .oddRegionalsJoined =>
      if isRegional then some (.to (-1) .evenRegionalsJoined)
      else if c = joiner then some (.to 0 .joined)
      else none
  | .tagLetters count => tagLettersStep? count c
  | .tagDigits count => tagDigitsStep? count c

/-- The step of a character in front of a selector that asks for text, or of none. -/
def textStep (f : Following) (c : Char) : Step :=
  if f = {} then alone c
  else if c = emojiSelector then (0, f.askEmoji)
  else if c = textSelector then (0, f.askText)
  else if f.asksText ∧ CharSet.textOnRequest.has c then .to 1 .plain
  else (endingStep? f.ending c).getD (alone c)

/-- The step of a character in front of what follows it. -/
def step (c : Char) (f : Following) : Step :=
  if f.asksEmoji ∧ hasEmojiForm c then .to (if f.ending.joinsEmoji then 0 else 2) .emoji
  else
    let f := f.withoutEmoji
    if c = '\n' then .to 1 .lineFeed
    else if c = '\r' ∧ f = { ending := .lineFeed } then .to 0 .plain
    else if c.toNat ≤ lastPlain then .to 1 .plain
    else textStep f c

end Columns

/-! ## Texts -/

/-- The columns of a text. -/
def columns (text : List Char) : Nat :=
  let count := text.foldr (fun c (n, f) => let (k, f) := Columns.step c f; (n + k, f))
    ((0, {}) : Columns.Step)
  count.1.toNat

example : columns "rom.ch8".toList = 7 := by decide +kernel
example : columns ['e', '\u0301', 'x'] = 2 := by decide +kernel
example : columns ['\u30B2', '\u30FC', '\u30E0'] = 6 := by decide +kernel
example : columns ['1', '\uFE0F', '\u20E3'] = 2 := by decide +kernel
example : columns ['\u0644', '\u0651', '\u0627'] = 1 := by decide +kernel
example : columns [.ofNat 0x1F468, '\u200D', .ofNat 0x1F469, '\u200D', .ofNat 0x1F467] = 2 := by
  decide +kernel
example : columns (List.replicate 3 (.ofNat 0x1F1E6)) = 3 := by decide +kernel

end Chip8
