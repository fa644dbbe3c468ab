import Chip8.Config
import Chip8.Proofs.Json.Printing
import Chip8.Proofs.Json.Record

/-!
# Settings over defaults

A text of settings means the default settings with what it gives in their place, at
both levels of the record.  `Dialect.Given` and `Config.Given` are what a text may
give, and `SwitchesOf` and `SettingsOf` say that the members of an object give it.

What a text means does not change when its members change places or unknown ones come
and go, at either level (`Rearranged`), and a name that is given twice is refused.
`settings_overlaid` says this of every text of an object.
-/

namespace Chip8

open Json (Members Readable Gives Repeats)

/-! ## Dialects -/

/-- The choices that a record gives. -/
structure Dialect.Given where
  /-- The source of a shift. -/
  shift : Option ShiftSource := none
  /-- The rule of collisions. -/
  collision : Option CollisionRule := none
  /-- The layout of digits. -/
  digits : Option DigitLayout := none
  /-- The bound of the timers. -/
  timerBound : Option TimerBound := none

/-- A dialect with the given choices in place of its own. -/
def Dialect.Given.overlay (g : Dialect.Given) (d : Dialect) : Dialect where
  shift := g.shift.getD d.shift
  collision := g.collision.getD d.collision
  digits := g.digits.getD d.digits
  timerBound := g.timerBound.getD d.timerBound

namespace Config

variable {members others before after : Members} {name : String} {text : String} {v : Json}

/-- The names of the choices. -/
def switchNames : List String := ["shift", "collision", "bcd", "timer_bound"]

/-- A choice, by its name or by an object that gives its name a null. -/
def IsChoice {α : Type} [DecidableEq α] (choices : List (String × α)) (v : Json) (a : α) : Prop :=
  v = .text (nameOf choices a) ∨ v = .object [(some (nameOf choices a), .null)]

/-- What the members of an object give as a dialect. -/
structure SwitchesOf (members : Members) (g : Dialect.Given) : Prop where
  shift : Gives (IsChoice shiftChoices) members "shift" g.shift
  collision : Gives (IsChoice collisionChoices) members "collision" g.collision
  digits : Gives (IsChoice digitChoices) members "bcd" g.digits
  timerBound : Gives (IsChoice timerBoundChoices) members "timer_bound" g.timerBound

/-- Every choice can be told from its name. -/
def Named {α : Type} [DecidableEq α] (choices : List (String × α)) : Prop :=
  ∀ a, choices.lookup (nameOf choices a) = some a

theorem named_shift : Named shiftChoices := by
  intro a
  cases a <;> rfl

theorem named_collision : Named collisionChoices := by
  intro a
  cases a <;> rfl

theorem named_digits : Named digitChoices := by
  intro a
  cases a <;> rfl

theorem named_timerBound : Named timerBoundChoices := by
  intro a
  cases a <;> rfl

theorem choice?_of_isChoice {α : Type} [DecidableEq α] {choices : List (String × α)}
    (named : Named choices) (v : Json) (a : α) (isChoice : IsChoice choices v a) :
    Json.choice? choices v = some a := by
  rcases isChoice with rfl | rfl
  · exact named a
  · exact named a

/-- A record of choices is the defaults with what it gives in their place. -/
theorem dialectOfJson?_of_given {g : Dialect.Given} (readable : Readable members)
    (gives : SwitchesOf members g) : dialectOfJson? (.object members) = some (g.overlay {}) := by
  obtain ⟨shift, hasShift, isShift⟩ := Json.exists_of_gives (choice?_of_isChoice named_shift)
    gives.shift ({} : Dialect).shift
  obtain ⟨collision, hasCollision, isCollision⟩ := Json.exists_of_gives
    (choice?_of_isChoice named_collision) gives.collision ({} : Dialect).collision
  obtain ⟨digits, hasDigits, isDigits⟩ := Json.exists_of_gives
    (choice?_of_isChoice named_digits) gives.digits ({} : Dialect).digits
  obtain ⟨timerBound, hasTimerBound, isTimerBound⟩ := Json.exists_of_gives
    (choice?_of_isChoice named_timerBound) gives.timerBound ({} : Dialect).timerBound
  have fields : (Json.object members).fields? switchNames =
      some [shift, collision, digits, timerBound] := by
    rw [Json.fields?_of_readable readable]
    simp [switchNames, hasShift, hasCollision, hasDigits, hasTimerBound]
  unfold switchNames at fields
  rw [dialectOfJson?, fields]
  simp only [Option.bind_eq_bind, Option.bind_some, isShift, isCollision, isDigits, isTimerBound]
  rfl

theorem dialectOfJson?_congr {w : Json} (same : v.fields? switchNames = w.fields? switchNames) :
    dialectOfJson? v = dialectOfJson? w := by
  unfold switchNames at same
  rw [dialectOfJson?, dialectOfJson?, same]

theorem dialectOfJson?_of_repeats (among : name ∈ switchNames) (repeats : Repeats members name) :
    dialectOfJson? (.object members) = none := by
  have fields := Json.fields?_of_repeated among repeats
  unfold switchNames at fields
  rw [dialectOfJson?, fields]
  rfl

/-! ## Settings -/

/-- The settings that a record gives. -/
structure Given where
  /-- Milliseconds between ticks. -/
  tickIntervalMs : Option UInt64 := none
  /-- Instructions to run in a second. -/
  instructionsPerSecond : Option UInt32 := none
  /-- Pixels in a row of the display. -/
  displayWidth : Option UInt64 := none
  /-- Rows of the display. -/
  displayHeight : Option UInt64 := none
  /-- The choices of the dialect, if any record of them is given. -/
  dialect : Option Dialect.Given := none

/-- Settings with the given ones in place of their own. -/
def Given.overlay (g : Given) (c : Config) : Config where
  tickIntervalMs := g.tickIntervalMs.getD c.tickIntervalMs
  instructionsPerSecond := g.instructionsPerSecond.getD c.instructionsPerSecond
  displayWidth := g.displayWidth.getD c.displayWidth
  displayHeight := g.displayHeight.getD c.displayHeight
  dialect := (g.dialect.getD {}).overlay c.dialect

/-- The names of the settings. -/
def settingNames : List String :=
  ["tick_interval_ms", "instructions_per_second", "display_width", "display_height", "quirks"]

/-- A number of 64 bits, by its digits. -/
def IsWord64 (v : Json) (w : UInt64) : Prop := v = .natural w.toNat

/-- A number of 32 bits, by its digits. -/
def IsWord32 (v : Json) (w : UInt32) : Prop := v = .natural w.toNat

/-- An object that gives choices of a dialect. -/
def IsDialect (v : Json) (g : Dialect.Given) : Prop :=
  ∃ inner, v = .object inner ∧ Readable inner ∧ SwitchesOf inner g

/-- What the members of an object give as settings. -/
structure SettingsOf (members : Members) (g : Given) : Prop where
  interval : Gives IsWord64 members "tick_interval_ms" g.tickIntervalMs
  rate : Gives IsWord32 members "instructions_per_second" g.instructionsPerSecond
  width : Gives IsWord64 members "display_width" g.displayWidth
  height : Gives IsWord64 members "display_height" g.displayHeight
  dialect : Gives IsDialect members "quirks" g.dialect

theorem word64?_natural (w : UInt64) : word64? (.natural w.toNat) = some w := by
  rw [word64?, Json.natural?, if_pos w.toNat_lt, Option.map_some, UInt64.ofNat_toNat]

theorem word32?_natural (w : UInt32) : word32? (.natural w.toNat) = some w := by
  rw [word32?, Json.natural?, if_pos w.toNat_lt, Option.map_some, UInt32.ofNat_toNat]

/-- A record of settings is the defaults with what it gives in their place. -/
theorem ofJson?_of_given {g : Given} (readable : Readable members) (gives : SettingsOf members g) :
    ofJson? (.object members) = some (g.overlay {}) := by
  have isWord64 (v : Json) (w : UInt64) (isWord : IsWord64 v w) : word64? v = some w := by
    rw [isWord, word64?_natural]
  have isWord32 (v : Json) (w : UInt32) (isWord : IsWord32 v w) : word32? v = some w := by
    rw [isWord, word32?_natural]
  have isDialect (v : Json) (d : Dialect) (given : ∃ g, IsDialect v g ∧ g.overlay {} = d) :
      dialectOfJson? v = some d := by
    obtain ⟨g, ⟨inner, rfl, readable, gives⟩, rfl⟩ := given
    exact dialectOfJson?_of_given readable gives
  let default : Config := {}
  obtain ⟨interval, hasInterval, isInterval⟩ :=
    Json.exists_of_gives isWord64 gives.interval default.tickIntervalMs
  obtain ⟨rate, hasRate, isRate⟩ :=
    Json.exists_of_gives isWord32 gives.rate default.instructionsPerSecond
  obtain ⟨width, hasWidth, isWidth⟩ :=
    Json.exists_of_gives isWord64 gives.width default.displayWidth
  obtain ⟨height, hasHeight, isHeight⟩ :=
    Json.exists_of_gives isWord64 gives.height default.displayHeight
  obtain ⟨dialect, hasDialect, ofDialect⟩ :=
    Json.exists_of_gives isDialect (gives.dialect.map (·.overlay {})) default.dialect
  have fields : (Json.object members).fields? settingNames =
      some [interval, rate, width, height, dialect] := by
    rw [Json.fields?_of_readable readable]
    simp [settingNames, hasInterval, hasRate, hasWidth, hasHeight, hasDialect]
  have whole : (g.dialect.map (·.overlay {})).getD default.dialect = (g.dialect.getD {}).overlay {} := by
    cases g.dialect <;> rfl
  rw [whole] at ofDialect
  unfold settingNames at fields
  rw [ofJson?, fields]
  simp only [Option.bind_eq_bind, Option.bind_some]
  rw [isInterval, isRate, isWidth, isHeight, ofDialect]
  rfl

/-! ## Order and unknown names -/

theorem ofJson?_congr {w : Json} (same : v.fields? settingNames = w.fields? settingNames) :
    ofJson? v = ofJson? w := by
  unfold settingNames at same
  rw [ofJson?, ofJson?, same]

theorem ofJson?_of_no_fields (fields : v.fields? settingNames = none) : ofJson? v = none := by
  unfold settingNames at fields
  rw [ofJson?, fields]
  rfl

theorem ofJson?_of_repeats (among : name ∈ settingNames) (repeats : Repeats members name) :
    ofJson? (.object members) = none :=
  ofJson?_of_no_fields (Json.fields?_of_repeated among repeats)

/-- The settings of a record but for the dialect. -/
def withoutDialect? (members : Members) : Option (Dialect → Config) := do
  let default : Config := {}
  let interval ← (Json.member? members "tick_interval_ms").bind
    (Json.orDefault default.tickIntervalMs word64?)
  let rate ← (Json.member? members "instructions_per_second").bind
    (Json.orDefault default.instructionsPerSecond word32?)
  let width ← (Json.member? members "display_width").bind
    (Json.orDefault default.displayWidth word64?)
  let height ← (Json.member? members "display_height").bind
    (Json.orDefault default.displayHeight word64?)
  return fun dialect => ⟨interval, rate, width, height, dialect⟩

/-- What a record of settings comes to when its record of choices is given once. -/
theorem ofJson?_of_quirks (readable : Readable (before ++ (some "quirks", v) :: after))
    (unique : ∀ m ∈ before ++ after, m.1 ≠ some "quirks") :
    ofJson? (.object (before ++ (some "quirks", v) :: after)) =
      (withoutDialect? (before ++ after)).bind fun settings => (dialectOfJson? v).map settings := by
  have fields : (Json.object (before ++ (some "quirks", v) :: after)).fields? settingNames = _ :=
    Json.fields?_of_readable readable
  have other {name : String} (different : name ≠ "quirks") :
      Json.member? (before ++ (some "quirks", v) :: after) name =
        Json.member? (before ++ after) name := Json.member?_of_other different
  simp only [settingNames, List.mapM_cons, List.mapM_nil, Json.member?_of_once unique,
    other (show "tick_interval_ms" ≠ "quirks" by decide),
    other (show "instructions_per_second" ≠ "quirks" by decide),
    other (show "display_width" ≠ "quirks" by decide),
    other (show "display_height" ≠ "quirks" by decide)] at fields
  rw [ofJson?, fields, withoutDialect?]
  cases Json.member? (before ++ after) "tick_interval_ms" <;>
  cases Json.member? (before ++ after) "instructions_per_second" <;>
  cases Json.member? (before ++ after) "display_width" <;>
  cases Json.member? (before ++ after) "display_height" <;>
  simp only [Json.orDefault, Option.pure_def, Option.bind_eq_bind, Option.bind_some,
    Option.bind_none, Option.bind_fun_none, Option.bind_assoc, Option.map_eq_bind]
  -- What is left is that no other setting is repeated, and then the two sides read the same.
  rfl

/-- A record of choices matters to the settings by what it stands for. -/
theorem ofJson?_quirks_congr {w : Json} (same : dialectOfJson? v = dialectOfJson? w) :
    ofJson? (.object (before ++ (some "quirks", v) :: after)) =
      ofJson? (.object (before ++ (some "quirks", w) :: after)) := by
  have readable_iff (v w : Json) : Readable (before ++ (some "quirks", v) :: after) →
      Readable (before ++ (some "quirks", w) :: after) := by
    simp [Readable, or_imp, forall_and]
  by_cases unique : ∀ m ∈ before ++ after, m.1 ≠ some "quirks"
  · by_cases readable : Readable (before ++ (some "quirks", v) :: after)
    · rw [ofJson?_of_quirks readable unique, same,
        ofJson?_of_quirks (readable_iff v w readable) unique]
    · have unreadable := mt (readable_iff w v) readable
      rw [ofJson?_of_no_fields (Json.fields?_of_unreadable readable),
        ofJson?_of_no_fields (Json.fields?_of_unreadable unreadable)]
  · have spoilt (v : Json) : ofJson? (.object (before ++ (some "quirks", v) :: after)) = none :=
      ofJson?_of_repeats (by decide) (Json.repeats_of_not_unique unique v)
    rw [spoilt v, spoilt w]

/-- A record of choices that stands for no dialect spoils the settings. -/
theorem ofJson?_of_spoilt (among : (some "quirks", v) ∈ members)
    (spoilt : dialectOfJson? v = none) : ofJson? (.object members) = none := by
  obtain ⟨before, after, rfl⟩ := List.append_of_mem among
  by_cases unique : ∀ m ∈ before ++ after, m.1 ≠ some "quirks"
  · by_cases readable : Readable (before ++ (some "quirks", v) :: after)
    · rw [ofJson?_of_quirks readable unique, spoilt]
      cases withoutDialect? (before ++ after) <;> rfl
    · exact ofJson?_of_no_fields (Json.fields?_of_unreadable readable)
  · exact ofJson?_of_repeats (by decide) (Json.repeats_of_not_unique unique v)

/-- The members of two settings that differ, at one level or both, in the order of their members
and in those that have no name of a setting. -/
inductive Rearranged : Members → Members → Prop where
  /-- Among the settings. -/
  | settings {members others : Members} (same : Json.Rearranged settingNames members others) :
      Rearranged members others
  /-- Among the choices. -/
  | switches {before after inner others : Members}
      (same : Json.Rearranged switchNames inner others) :
      Rearranged (before ++ (some "quirks", .object inner) :: after)
        (before ++ (some "quirks", .object others) :: after)
  /-- One after the other. -/
  | trans {first second third : Members} (former : Rearranged first second)
      (latter : Rearranged second third) : Rearranged first third

theorem ofJson?_of_rearranged (rearranged : Rearranged members others) :
    ofJson? (.object members) = ofJson? (.object others) := by
  induction rearranged with
  | settings same => exact ofJson?_congr (Json.fields?_of_rearranged same)
  | switches same =>
      exact ofJson?_quirks_congr (dialectOfJson?_congr (Json.fields?_of_rearranged same))
  | trans former latter ih ih' => exact ih.trans ih'

/-! ## Texts -/

/-- A text means what its value stands for, once that is valid. -/
theorem read_of_textOf (textOf : Json.TextOf text v) :
    read text = match ofJson? v with
      | none => .error .malformed
      | some c => c.validate.map fun _ => c := by
  rw [read, Json.read_of_textOf textOf, Option.bind_some]
  cases ofJson? v with
  | none => rfl
  | some c =>
      dsimp only
      cases c.validate <;> rfl

/-- How the text of an object is read. -/
structure Overlaid (text : String) (members : Members) : Prop where
  /-- A text that gives settings means the defaults with those in their place, once they are
  valid. -/
  overlay : ∀ g, Readable members → SettingsOf members g →
    read text = (g.overlay {}).validate.map fun _ => g.overlay {}
  /-- Neither the order of the members nor unknown ones make a difference. -/
  rearranged : ∀ other others, Json.TextOf other (.object others) →
    Rearranged members others → read other = read text
  /-- No setting may be given twice. -/
  setting : ∀ name ∈ settingNames, Repeats members name → read text = .error .malformed
  /-- No choice may be given twice. -/
  switch : ∀ inner, (some "quirks", .object inner) ∈ members → ∀ name ∈ switchNames,
    Repeats inner name → read text = .error .malformed

/-- Every text of an object is read as an overlay of the defaults. -/
theorem settings_overlaid (textOf : Json.TextOf text (.object members)) :
    Overlaid text members where
  overlay g readable gives := by
    rw [read_of_textOf textOf, ofJson?_of_given readable gives]
  rearranged other others isText rearranged := by
    rw [read_of_textOf textOf, read_of_textOf isText, ofJson?_of_rearranged rearranged]
  setting name among repeats := by
    rw [read_of_textOf textOf, ofJson?_of_repeats among repeats]
  switch inner inside name among repeats := by
    rw [read_of_textOf textOf, ofJson?_of_spoilt inside (dialectOfJson?_of_repeats among repeats)]

/-- Choices among others that nobody knows. -/
def scatteredSwitches : Members := [(some "colour", .null), (some "bcd", .text "canonical")]

/-- Settings in another order than usual, among others that nobody knows. -/
def scattered : Members :=
  [(some "note", .array [.object [(some "deep", .array [.bool true])]]),
    (some "quirks", .object scatteredSwitches), (some "display_width", .natural 128)]

theorem proper_scattered : Json.Proper (.object scattered) := by
  have deep : Json.Proper (.array [.bool true]) := .array (List.forall_mem_singleton.mpr (.bool _))
  have note : Json.Proper (.array [.object [(some "deep", .array [.bool true])]]) :=
    .array (List.forall_mem_singleton.mpr (.object (List.forall_mem_singleton.mpr deep)))
  have switches : Json.Proper (.object scatteredSwitches) := by
    refine .object ?_
    simp only [scatteredSwitches, List.forall_mem_cons]
    exact ⟨.null, .string _, List.forall_mem_nil _⟩
  refine .object ?_
  simp only [scattered, List.forall_mem_cons]
  exact ⟨note, switches, .natural _, List.forall_mem_nil _⟩

theorem switchesOf_scattered :
    SwitchesOf scatteredSwitches { digits := some .canonical } where
  shift := .absent (by simp [scatteredSwitches])
  collision := .absent (by simp [scatteredSwitches])
  digits :=
    .once (show scatteredSwitches = [_] ++ (some "bcd", _) :: [] from rfl) (by simp) (.inl rfl)
  timerBound := .absent (by simp [scatteredSwitches])

theorem settingsOf_scattered :
    SettingsOf scattered
      { displayWidth := some 128, dialect := some { digits := some .canonical } } where
  interval := .absent (by simp [scattered])
  rate := .absent (by simp [scattered])
  width :=
    .once (show scattered = [_, _] ++ (some "display_width", _) :: [] from rfl) (by simp) rfl
  height := .absent (by simp [scattered])
  dialect :=
    .once (show scattered = [_] ++ (some "quirks", _) :: [_] from rfl) (by simp)
      ⟨scatteredSwitches, rfl, by simp [Readable, scatteredSwitches], switchesOf_scattered⟩

theorem scattered_over_defaults :
    Json.TextOf (Json.object scattered).compact (.object scattered) ∧
      read (Json.object scattered).compact =
        .ok { displayWidth := 128, dialect := { digits := .canonical } } := by
  have textOf : Json.TextOf (Json.object scattered).compact (.object scattered) :=
    Json.textOf_of_written (Json.written_compact proper_scattered)
  have readable : Readable scattered := by simp [Readable, scattered]
  refine ⟨textOf, ?_⟩
  rw [(settings_overlaid textOf).overlay _ readable settingsOf_scattered]
  rfl

end Config

end Chip8
