import Chip8.Text.CharSet.Emoji
import Chip8.Text.CharSet.Joining

/-!
# Clusters

A cluster is what a reader takes for one character: a letter with its marks, a
syllable written in parts, a flag, a family of emoji.  Clusters here are the
extended grapheme clusters of Unicode.

A text is read from left to right, and each character joins the cluster before it
or begins the next one.  What decides is the kind of the last character, the kind
of the next one, and for three kinds of cluster also what is further back.

* A pictograph joins a pictograph, its marks and a joiner.
* A regional letter joins a regional letter that is not the second of a pair.
* A consonant joins a consonant whose marks contain a linker.
-/

namespace Chip8

namespace Cluster

/-- What a character is to the clusters around it. -/
inductive Kind where
  /-- The first character of a line end of two. -/
  | carriageReturn
  /-- The second character of a line end of two. -/
  | lineFeed
  /-- A character that joins nothing. -/
  | control
  /-- A mark without room of its own. -/
  | extending
  /-- A sign that links consonants. -/
  | linker
  /-- A sign that joins pictographs. -/
  | joiner
  /-- A sign that keeps consonants apart. -/
  | nonJoiner
  /-- A mark with room of its own. -/
  | spacing
  /-- A mark on what is after it. -/
  | leading
  /-- A regional letter. -/
  | regional
  /-- A leading jamo. -/
  | leadingJamo
  /-- A vowel jamo, or a vowel that joins as one. -/
  | vowelJamo
  /-- A final jamo. -/
  | finalJamo
  /-- A syllable without a final jamo. -/
  | openSyllable
  /-- A syllable with a final jamo. -/
  | closedSyllable
  /-- A pictograph. -/
  | pictograph
  /-- A consonant that forms conjuncts. -/
  | consonant
  /-- Any other character. -/
  | other
deriving DecidableEq, Repr

/-- The first Hangul syllable. -/
def firstSyllable : Nat := 0xAC00

/-- The last Hangul syllable. -/
def lastSyllable : Nat := 0xD7A3

/-- The syllables from one without a final jamo to the next. -/
def syllablesInRow : Nat := 28

/-- The kind of a character. -/
def Kind.ofChar (c : Char) : Kind :=
  if c = '\r' then carriageReturn
  else if c = '\n' then lineFeed
  else if c = '\u200D' then joiner
  else if c = '\u200C' then nonJoiner
  else if CharSet.controls.has c then control
  else if CharSet.linkers.has c then linker
  else if CharSet.extending.has c || CharSet.modifiers.has c then extending
  else if CharSet.spacing.has c then spacing
  else if CharSet.leading.has c then leading
  else if CharSet.regional.has c then regional
  else if CharSet.leadingJamo.has c then leadingJamo
  else if CharSet.vowelJamo.has c || CharSet.kiratRaiVowels.has c then vowelJamo
  else if CharSet.finalJamo.has c then finalJamo
  else if firstSyllable ≤ c.toNat ∧ c.toNat ≤ lastSyllable then
    if (c.toNat - firstSyllable) % syllablesInRow = 0 then openSyllable else closedSyllable
  else if CharSet.pictographs.has c then pictograph
  else if CharSet.consonants.has c then consonant
  else other

/-- What the end of a cluster holds that bears on the next character. -/
inductive Context where
  /-- Nothing. -/
  | none
  /-- A pictograph with its marks. -/
  | pictograph
  /-- A pictograph with its marks and a joiner. -/
  | joined
  /-- The first regional letter of a pair. -/
  | regional
  /-- A consonant with its marks. -/
  | consonant
  /-- A consonant with its marks, a linker among them. -/
  | linked
deriving DecidableEq, Repr

/-- The context after a character. -/
def Context.next : Context → Kind → Context
  | _, .pictograph => pictograph
  | pictograph, .extending | pictograph, .linker | pictograph, .nonJoiner => pictograph
  | pictograph, .joiner => joined
  | regional, .regional => none
  | _, .regional => regional
  | _, .consonant => consonant
  | consonant, .extending | consonant, .joiner => consonant
  | consonant, .linker => linked
  | linked, .extending | linked, .joiner | linked, .linker => linked
  | _, _ => none

/-- Whether a character joins the cluster before it, by the context, the kind of the last character
and its own. -/
def joins (context : Context) : (last next : Kind) → Bool
  | .carriageReturn, .lineFeed => true
  | .carriageReturn, _ | .lineFeed, _ | .control, _ => false
  | _, .carriageReturn | _, .lineFeed | _, .control => false
  | _, .extending | _, .linker | _, .joiner | _, .nonJoiner | _, .spacing => true
  | .leading, _ => true
  | .leadingJamo, .leadingJamo | .leadingJamo, .vowelJamo => true
  | .leadingJamo, .openSyllable | .leadingJamo, .closedSyllable => true
  | .openSyllable, .vowelJamo | .openSyllable, .finalJamo => true
  | .vowelJamo, .vowelJamo | .vowelJamo, .finalJamo => true
  | .closedSyllable, .finalJamo | .finalJamo, .finalJamo => true
  | _, .pictograph => context = .joined
  | _, .regional => context = .regional
  | _, .consonant => context = .linked
  | _, _ => false

/-- The clusters of a text after one that was begun, which is given backwards with the kind of its
last character. -/
def clustersFrom (begun : List Char) (context : Context) (last : Kind) :
    List Char → List (List Char)
  | [] => [begun.reverse]
  | c :: cs =>
      let kind := Kind.ofChar c
      if joins context last kind then clustersFrom (c :: begun) (context.next kind) kind cs
      else begun.reverse :: clustersFrom [c] (Context.none.next kind) kind cs

end Cluster

/-- The clusters of a text. -/
def clusters : List Char → List (List Char)
  | [] => []
  | c :: cs =>
      let kind := Cluster.Kind.ofChar c
      Cluster.clustersFrom [c] (Cluster.Context.none.next kind) kind cs

example : clusters ['e', '\u0301', 'x'] = [['e', '\u0301'], ['x']] := by decide +kernel
example : clusters ['\r', '\n', '\n'] = [['\r', '\n'], ['\n']] := by decide +kernel
example : (clusters (List.replicate 5 (.ofNat 0x1F1E6))).map List.length = [2, 2, 1] := by
  decide +kernel

end Chip8
