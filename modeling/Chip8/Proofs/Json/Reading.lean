import Chip8.Proofs.Json.Grammar

/-!
# Reading what is written

The reader accepts every text of a value, and answers the value (`read_of_textOf`).

The reader goes through a text once and keeps the open containers on a stack.  Reading
the characters of a value from a state that waits for one brings it to a state that has
read that value, with the stack as it was (`Ends`).  Such a state need not be the one
after the value: a number may still go on, and only what follows shows that it does
not.  All that matters is what it does at white space, at a comma or a bracket, and at
the end of the text.
-/

namespace Chip8.Json.Reader

variable {cs ds : List Char} {c : Char} {s : State} {v : Json} {stack : List Frame}
  {part : NumberPart} {read : List Char}

/-! ## Running -/

theorem run_append_of_run {t : State} (first : run s cs = some t) (ds : List Char) :
    run s (cs ++ ds) = run t ds := by
  rw [run_append, first]
  rfl

theorem run_cons_of_step {t : State} (first : step s c = some t) (cs : List Char) :
    run s (c :: cs) = run t cs := by
  rw [run, first]

/-- A state that white space leaves as it is. -/
theorem run_of_blank (still : ∀ c, isSpace c = true → step s c = some s) (blank : Blank cs) :
    run s cs = some s := by
  induction cs with
  | nil => rfl
  | cons c cs ih =>
      obtain ⟨space, rest⟩ := List.forall_mem_cons.mp blank
      rw [run_cons_of_step (still c space)]
      exact ih rest

/-! ## Having read a value -/

/-- A state in which a value has been read whose containers are on the stack. -/
inductive Ends : State → Json → List Frame → Prop where
  | after (v : Json) (stack : List Frame) : Ends (.after v stack) v stack
  | word (v : Json) (stack : List Frame) : Ends (.word [] v stack) v stack
  | number {part : NumberPart} (read : List Char) (stack : List Frame) (mayEnd : part.mayEnd) :
      Ends (.number part read stack) (numberValue read.reverse) stack

/-- In any state that waits for a value, the characters are read as that value. -/
def Reads (v : Json) (cs : List Char) : Prop :=
  ∀ opened stack, ∃ t, run (.value opened stack) cs = some t ∧ Ends t v stack

/-- A character that may follow a value. -/
def Follows (c : Char) : Prop := isSpace c = true ∨ c = ',' ∨ c = ']' ∨ c = '}'

theorem isSpace_iff : isSpace c = true ↔ c = ' ' ∨ c = '\t' ∨ c = '\n' ∨ c = '\r' := by
  simp [isSpace, or_assoc]

/-- A number does not go on with a character that may follow a value. -/
theorem next?_of_follows (follows : Follows c) : part.next? c = none := by
  have one : c = ' ' ∨ c = '\t' ∨ c = '\n' ∨ c = '\r' ∨ c = ',' ∨ c = ']' ∨ c = '}' := by
    rcases follows with space | other
    · rcases isSpace_iff.mp space with h | h | h | h <;> simp [h]
    · simp [other]
  rcases one with rfl | rfl | rfl | rfl | rfl | rfl | rfl <;> cases part <;> decide

theorem Ends.step (ends : Ends s v stack) (follows : Follows c) :
    step s c = stepAfter v stack c := by
  cases ends with
  | after => rfl
  | word => rfl
  | number read stack mayEnd =>
      rw [Reader.step, next?_of_follows follows]
      dsimp only
      rw [if_pos mayEnd]

theorem Ends.finish (ends : Ends s v []) : finish s = some v := by
  cases ends with
  | after => rfl
  | word => rfl
  | number read stack mayEnd => exact if_pos mayEnd

theorem stepAfter_of_space (space : isSpace c = true) :
    stepAfter v stack c = some (.after v stack) := by
  unfold stepAfter
  rw [if_pos space]

theorem Ends.blank (ends : Ends s v stack) (blank : Blank cs) :
    ∃ t, run s cs = some t ∧ Ends t v stack := by
  cases cs with
  | nil => exact ⟨s, rfl, ends⟩
  | cons c cs =>
      obtain ⟨space, rest⟩ := List.forall_mem_cons.mp blank
      have first : Reader.step s c = some (.after v stack) := by
        rw [ends.step (.inl space), stepAfter_of_space space]
      refine ⟨.after v stack, ?_, .after v stack⟩
      rw [run_cons_of_step first]
      exact run_of_blank (fun c => stepAfter_of_space) rest

/-! ## Numbers -/

/-- A part of a number that goes on for as long as there are digits. -/
def NumberPart.Loops (part : NumberPart) : Prop :=
  ∀ c, c.isDigit = true → part.next? c = some part

theorem NumberPart.loops_digits : NumberPart.digits.Loops := fun _ digit => if_pos digit

theorem NumberPart.loops_fraction : NumberPart.fraction.Loops := fun _ digit => if_pos digit

theorem NumberPart.loops_power : NumberPart.power.Loops := fun _ digit => if_pos digit

theorem run_digits (loops : part.Loops) (digits : ∀ c ∈ cs, c.isDigit = true) (read : List Char) :
    run (.number part read stack) cs = some (.number part (cs.reverse ++ read) stack) := by
  induction cs generalizing read with
  | nil => rfl
  | cons c cs ih =>
      obtain ⟨first, rest⟩ := List.forall_mem_cons.mp digits
      have goes : step (.number part read stack) c = some (.number part (c :: read) stack) := by
        rw [step, loops c first]
      rw [run_cons_of_step goes, ih rest]
      simp

/-- Digits of which the first leads to such a part. -/
theorem run_some_digits (loops : part.Loops)
    (first : ∀ c, c.isDigit = true → step s c = some (.number part (c :: read) stack))
    (digits : Digits cs) : run s cs = some (.number part (cs.reverse ++ read) stack) := by
  obtain ⟨nonempty, all⟩ := digits
  cases cs with
  | nil => exact absurd rfl nonempty
  | cons c cs =>
      obtain ⟨isDigit, rest⟩ := List.forall_mem_cons.mp all
      rw [run_cons_of_step (first c isDigit), run_digits loops rest]
      simp

/-- A number that may go on with a point or an exponent. -/
def NumberPart.IsWhole (part : NumberPart) : Prop := part = .zero ∨ part = .digits

/-- A number that may go on with an exponent. -/
def NumberPart.IsFixed (part : NumberPart) : Prop := part.IsWhole ∨ part = .fraction

theorem digit_ne (digit : c.isDigit = true) {other : Char} (no : other.isDigit = false) :
    c ≠ other := by
  rintro rfl
  rw [digit] at no
  cases no

theorem step_number {next : NumberPart} (goes : part.next? c = some next) :
    step (.number part read stack) c = some (.number next (c :: read) stack) := by
  rw [step, goes]

/-- The digits before the point, from a state that waits for them. -/
theorem run_whole (whole : Whole cs)
    (zero : step s '0' = some (.number .zero ('0' :: read) stack))
    (digit : ∀ c, c.isDigit = true → c ≠ '0' → step s c = some (.number .digits (c :: read) stack)) :
    ∃ part : NumberPart, part.IsWhole ∧
      run s cs = some (.number part (cs.reverse ++ read) stack) := by
  rcases whole with rfl | ⟨⟨nonempty, digits⟩, first⟩
  · exact ⟨.zero, .inl rfl, run_cons_of_step zero []⟩
  · cases cs with
    | nil => exact absurd rfl nonempty
    | cons c cs =>
        obtain ⟨isDigit, rest⟩ := List.forall_mem_cons.mp digits
        have other : c ≠ '0' := by simpa using first
        refine ⟨.digits, .inr rfl, ?_⟩
        rw [run_cons_of_step (digit c isDigit other), run_digits NumberPart.loops_digits rest]
        simp

theorem run_fraction (isWhole : part.IsWhole) (fraction : Fraction cs) (read : List Char)
    (stack : List Frame) :
    ∃ next : NumberPart, next.IsFixed ∧
      run (.number part read stack) cs = some (.number next (cs.reverse ++ read) stack) := by
  rcases fraction with rfl | ⟨digits, isDigits, rfl⟩
  · exact ⟨part, .inl isWhole, rfl⟩
  · have point : part.next? '.' = some .point := by
      rcases isWhole with rfl | rfl <;> rfl
    have rest : run (.number .point ('.' :: read) stack) digits =
        some (.number .fraction (digits.reverse ++ '.' :: read) stack) :=
      run_some_digits NumberPart.loops_fraction (fun c digit => step_number (if_pos digit)) isDigits
    refine ⟨.fraction, .inr rfl, ?_⟩
    rw [run_cons_of_step (step_number point), rest]
    simp

theorem run_exponent (isFixed : part.IsFixed) (exponent : Exponent cs) (read : List Char)
    (stack : List Frame) :
    ∃ next : NumberPart, next.mayEnd ∧
      run (.number part read stack) cs = some (.number next (cs.reverse ++ read) stack) := by
  rcases exponent with rfl | ⟨letter, sign, digits, isLetter, isSign, isDigits, rfl⟩
  · refine ⟨part, ?_, rfl⟩
    rcases isFixed with (rfl | rfl) | rfl <;> rfl
  · have started : part.next? letter = some .exponent := by
      rcases isLetter with rfl | rfl <;> rcases isFixed with (rfl | rfl) | rfl <;> rfl
    have unsigned (read : List Char) : run (.number .exponent read stack) digits =
        some (.number .power (digits.reverse ++ read) stack) :=
      run_some_digits NumberPart.loops_power (fun c digit => step_number (if_pos digit)) isDigits
    have signed (read : List Char) : run (.number .exponentSign read stack) digits =
        some (.number .power (digits.reverse ++ read) stack) :=
      run_some_digits NumberPart.loops_power (fun c digit => step_number (if_pos digit)) isDigits
    have plus : NumberPart.exponent.next? '+' = some .exponentSign := rfl
    have minus : NumberPart.exponent.next? '-' = some .exponentSign := rfl
    refine ⟨.power, rfl, ?_⟩
    rw [run_cons_of_step (step_number started)]
    rcases isSign with rfl | rfl | rfl
    · rw [List.nil_append, unsigned]
      simp
    · rw [List.singleton_append, run_cons_of_step (step_number plus), signed]
      simp
    · rw [List.singleton_append, run_cons_of_step (step_number minus), signed]
      simp

/-! ## The first character of a value -/

theorem step_value {opened : Bool} (space : isSpace c = false) (close : c ≠ ']') :
    step (.value opened stack) c = stepValue stack c := by
  have unspaced : ¬ isSpace c = true := by simp [space]
  cases opened with
  | false => exact if_neg unspaced
  | true =>
      cases stack with
      | nil => exact if_neg unspaced
      | cons frame outer =>
          cases frame with
          | array items => exact (if_neg unspaced).trans (if_neg close)
          | object members key => exact if_neg unspaced

theorem stepValue_digit (digit : c.isDigit = true) (other : c ≠ '0') :
    stepValue stack c = some (.number .digits [c] stack) := by
  have ne {other : Char} (no : other.isDigit = false) : c ≠ other := digit_ne digit no
  rw [stepValue, if_neg (ne rfl), if_neg (ne rfl), if_neg (ne rfl), if_neg (ne rfl),
    if_neg (ne rfl), if_neg (ne rfl), if_neg (ne rfl), if_neg other, if_pos digit]

theorem isSpace_of_digit (digit : c.isDigit = true) : isSpace c = false := by
  rw [← Bool.not_eq_true, isSpace_iff]
  rintro (rfl | rfl | rfl | rfl) <;> cases digit

theorem reads_numeral (numeral : Numeral cs) : Reads (numberValue cs) cs := by
  intro opened stack
  cases numeral with
  | @mk sign digits point power signed whole fraction exponent =>
      have started : ∃ part : NumberPart, part.IsWhole ∧
          run (.value opened stack) (sign ++ digits) =
            some (.number part (sign ++ digits).reverse stack) := by
        rcases signed with rfl | rfl
        · have zero : step (.value opened stack) '0' = some (.number .zero ['0'] stack) :=
            step_value rfl (by decide)
          obtain ⟨part, isWhole, ran⟩ := run_whole whole zero fun c digit other => by
            rw [step_value (isSpace_of_digit digit) (digit_ne digit rfl),
              stepValue_digit digit other]
          exact ⟨part, isWhole, by simpa using ran⟩
        · have minus : step (.value opened stack) '-' = some (.number .sign ['-'] stack) :=
            step_value rfl (by decide)
          have zero : step (.number .sign ['-'] stack) '0' =
              some (.number .zero ['0', '-'] stack) := rfl
          obtain ⟨part, isWhole, ran⟩ := run_whole whole zero fun c digit other =>
            step_number ((if_neg other).trans (if_pos digit))
          refine ⟨part, isWhole, ?_⟩
          rw [List.singleton_append, run_cons_of_step minus, ran]
          simp
      obtain ⟨part, isWhole, first⟩ := started
      obtain ⟨fixed, isFixed, second⟩ := run_fraction isWhole fraction (sign ++ digits).reverse stack
      obtain ⟨last, mayEnd, third⟩ :=
        run_exponent isFixed exponent (point.reverse ++ (sign ++ digits).reverse) stack
      have read : power.reverse ++ (point.reverse ++ (sign ++ digits).reverse) =
          (sign ++ (digits ++ (point ++ power))).reverse := by simp
      rw [read] at third
      have ends := Ends.number (sign ++ (digits ++ (point ++ power))).reverse stack mayEnd
      rw [List.reverse_reverse] at ends
      refine ⟨_, ?_, ends⟩
      calc run (.value opened stack) (sign ++ (digits ++ (point ++ power)))
          = run (.value opened stack) ((sign ++ digits) ++ (point ++ power)) := by
            rw [List.append_assoc]
        _ = run (.number part _ stack) (point ++ power) := run_append_of_run first _
        _ = run (.number fixed _ stack) power := run_append_of_run second _
        _ = _ := third

/-! ## Strings -/

/-- Reading the inside of a string and the quote that ends it. -/
theorem run_spelled {pieces : List Piece} (spelled : Spelled cs pieces) (role : StringRole)
    (read : List Piece) (stack : List Frame) :
    run (.string role .plain read stack) (cs ++ ['"']) =
      some (closeString role (pieces.reverse ++ read) stack) := by
  induction spelled generalizing read with
  | nil => rfl
  | @plain c cs pieces quote backslash control rest ih =>
      have first : step (.string role .plain read stack) c =
          some (.string role .plain (.char c :: read) stack) := by
        rw [step, stepString, if_neg quote, if_neg backslash, if_neg control]
      rw [List.cons_append, run_cons_of_step first, ih]
      simp
  | @escape letter c cs pieces stands rest ih =>
      have slash : step (.string role .plain read stack) '\\' =
          some (.string role .escape read stack) := rfl
      have other : letter ≠ 'u' := by
        rintro rfl
        cases stands
      have second : step (.string role .escape read stack) letter =
          some (.string role .plain (.char c :: read) stack) := by
        rw [step, stepString, if_neg other, stands]
        rfl
      rw [List.cons_append, List.cons_append, run_cons_of_step slash, run_cons_of_step second, ih]
      simp
  | @unit a b c d m n k l cs pieces first second third fourth rest ih =>
      have slash : step (.string role .plain read stack) '\\' =
          some (.string role .escape read stack) := rfl
      have letter : step (.string role .escape read stack) 'u' =
          some (.string role (.unit 4 0) read stack) := rfl
      have digit (remaining value : Nat) {c : Char} {n : Nat} (stands : hexValue? c = some n) :
          step (.string role (.unit (remaining + 2) value) read stack) c =
            some (.string role (.unit (remaining + 1) (value * 16 + n)) read stack) := by
        rw [step, stepString, stands]
        simp
      have last (value : Nat) {c : Char} {n : Nat} (stands : hexValue? c = some n) :
          step (.string role (.unit 1 value) read stack) c =
            some (.string role .plain (.unit (value * 16 + n) :: read) stack) := by
        rw [step, stepString, stands]
        simp
      simp only [List.cons_append]
      rw [run_cons_of_step slash, run_cons_of_step letter, run_cons_of_step (digit 2 0 first),
        run_cons_of_step (digit 1 _ second), run_cons_of_step (digit 0 _ third),
        run_cons_of_step (last _ fourth), ih]
      simp

/-! ## Words -/

theorem run_word (rest : List Char) (v : Json) (stack : List Frame) :
    run (.word rest v stack) rest = some (.word [] v stack) := by
  induction rest with
  | nil => rfl
  | cons c rest ih =>
      have first : step (.word (c :: rest) v stack) c = some (.word rest v stack) := if_pos rfl
      rw [run_cons_of_step first, ih]

/-! ## Values -/

theorem reads_word {rest : List Char} (space : isSpace c = false) (close : c ≠ ']')
    (first : ∀ stack, stepValue stack c = some (.word rest v stack)) : Reads v (c :: rest) := by
  intro opened stack
  refine ⟨.word [] v stack, ?_, .word v stack⟩
  rw [run_cons_of_step ((step_value space close).trans (first stack)), run_word]

theorem reads_string {pieces : List Piece} (spelled : Spelled cs pieces) :
    Reads (.string (textOfPieces? pieces)) ('"' :: (cs ++ ['"'])) := by
  intro opened stack
  have quote : step (.value opened stack) '"' = some (.string .value .plain [] stack) :=
    step_value rfl (by decide)
  refine ⟨.after (.string (textOfPieces? pieces)) stack, ?_, .after _ stack⟩
  rw [run_cons_of_step quote, run_spelled spelled, List.append_nil, closeString,
    List.reverse_reverse]

/-! ## Containers -/

theorem run_value_of_blank (blank : Blank cs) (opened : Bool) (stack : List Frame) :
    run (.value opened stack) cs = some (.value opened stack) :=
  run_of_blank (fun _ space => if_pos space) blank

/-- Reading an item, with the white space around it. -/
theorem reads_item {i : Item} (spaced : i.Spaced) (reads : Reads i.value i.text) :
    Reads i.value i.chars := by
  intro opened stack
  obtain ⟨t, ran, ends⟩ := reads opened stack
  obtain ⟨t', after, ends'⟩ := ends.blank spaced.after
  refine ⟨t', ?_, ends'⟩
  rw [Item.chars, run_append_of_run (run_value_of_blank spaced.before opened stack),
    run_append_of_run ran, after]

/-- The items of an array up to the last, which still waits for its bracket. -/
theorem run_items {i : Item} {items : List Item} (reads : ∀ j ∈ i :: items, Reads j.value j.chars)
    (done : List Json) (opened : Bool) :
    ∃ t last before, run (.value opened (.array done :: stack))
        ([','].intercalate ((i :: items).map Item.chars)) = some t ∧
      Ends t last (.array before :: stack) ∧
      (last :: before).reverse = done.reverse ++ (i :: items).map (·.value) := by
  induction items generalizing i done opened with
  | nil =>
      obtain ⟨t, ran, ends⟩ := reads i (.head _) opened (.array done :: stack)
      refine ⟨t, i.value, done, ?_, ends, by simp⟩
      rw [List.map_singleton, List.intercalate_singleton, ran]
  | cons j items ih =>
      obtain ⟨t, ran, ends⟩ := reads i (.head _) opened (.array done :: stack)
      have comma : step t ',' = some (.value false (.array (i.value :: done) :: stack)) := by
        rw [ends.step (.inr (.inl rfl))]
        rfl
      obtain ⟨t', last, before, rest, ends', values⟩ :=
        ih (fun k among => reads k (.tail _ among)) (i.value :: done) false
      refine ⟨t', last, before, ?_, ends', by simp [values]⟩
      rw [List.map_cons, List.map_cons, List.intercalate_cons_cons, List.append_assoc,
        run_append_of_run ran, List.singleton_append, run_cons_of_step comma]
      exact rest

theorem reads_array {items : List Item} {close : List Char}
    (reads : ∀ i ∈ items, Reads i.value i.chars) (blank : Blank close) :
    Reads (.array (items.map (·.value)))
      ('[' :: ([','].intercalate (items.map Item.chars) ++ (close ++ [']']))) := by
  intro opened stack
  have start : step (.value opened stack) '[' = some (.value true (.array [] :: stack)) :=
    step_value rfl (by decide)
  rw [run_cons_of_step start]
  cases items with
  | nil =>
      refine ⟨.after (.array []) stack, ?_, .after _ _⟩
      rw [List.map_nil, List.intercalate_nil, List.nil_append,
        run_append_of_run (run_value_of_blank blank _ _)]
      rfl
  | cons i items =>
      obtain ⟨t, last, before, ran, ends, values⟩ := run_items reads [] true
      obtain ⟨t', after, ends'⟩ := ends.blank blank
      refine ⟨.after (.array (last :: before).reverse) stack, ?_, ?_⟩
      · rw [run_append_of_run ran, run_append_of_run after, run, ends'.step (.inr (.inr (.inl rfl)))]
        rfl
      · rw [values]
        exact .after _ _

/-- The key of a member and its colon. -/
theorem run_key {m : Member} (spaced : m.Spaced) (opened : Bool) (done : List (Key × Json))
    (stack : List Frame) :
    run (.key opened done stack) m.chars =
      run (.value false (.object done m.key :: stack)) m.item.chars := by
  have blank : run (.key opened done stack) m.before = some (.key opened done stack) :=
    run_of_blank (fun _ space => if_pos space) spaced.before
  have quote : step (.key opened done stack) '"' = some (.string (.key done) .plain [] stack) := rfl
  have name : run (.string (.key done) .plain [] stack) (m.name ++ ['"']) =
      some (.colon done m.key stack) := by
    rw [run_spelled spaced.name, List.append_nil, closeString, List.reverse_reverse, Member.key]
  have between : run (.colon done m.key stack) m.colon = some (.colon done m.key stack) :=
    run_of_blank (fun _ space => if_pos space) spaced.colon
  have colon : step (.colon done m.key stack) ':' =
      some (.value false (.object done m.key :: stack)) := rfl
  rw [Member.chars, run_append_of_run blank, run_cons_of_step quote,
    show m.name ++ '"' :: (m.colon ++ ':' :: m.item.chars) =
      (m.name ++ ['"']) ++ (m.colon ++ ':' :: m.item.chars) by simp,
    run_append_of_run name, run_append_of_run between, run_cons_of_step colon]

/-- The members of an object up to the last, which still waits for its bracket. -/
theorem run_members {m : Member} {members : List Member} (spaced : ∀ n ∈ m :: members, n.Spaced)
    (reads : ∀ n ∈ m :: members, Reads n.item.value n.item.chars) (done : List (Key × Json))
    (opened : Bool) :
    ∃ t last key before, run (.key opened done stack)
        ([','].intercalate ((m :: members).map Member.chars)) = some t ∧
      Ends t last (.object before key :: stack) ∧
      ((key, last) :: before).reverse = done.reverse ++ (m :: members).map Member.entry := by
  induction members generalizing m done opened with
  | nil =>
      obtain ⟨t, ran, ends⟩ := reads m (.head _) false (.object done m.key :: stack)
      refine ⟨t, m.item.value, m.key, done, ?_, ends, by simp [Member.entry]⟩
      rw [List.map_singleton, List.intercalate_singleton, run_key (spaced m (.head _)), ran]
  | cons n members ih =>
      obtain ⟨t, ran, ends⟩ := reads m (.head _) false (.object done m.key :: stack)
      have comma : step t ',' = some (.key false ((m.key, m.item.value) :: done) stack) := by
        rw [ends.step (.inr (.inl rfl))]
        rfl
      obtain ⟨t', last, key, before, rest, ends', entries⟩ :=
        ih (fun k among => spaced k (.tail _ among)) (fun k among => reads k (.tail _ among))
          (m.entry :: done) false
      refine ⟨t', last, key, before, ?_, ends', by simp [entries]⟩
      have first := run_key (spaced m (.head _)) opened done stack
      rw [List.map_cons, List.map_cons, List.intercalate_cons_cons, List.append_assoc,
        run_append_of_run (first.trans ran), List.singleton_append, run_cons_of_step comma]
      exact rest

theorem reads_object {members : List Member} {close : List Char}
    (spaced : ∀ m ∈ members, m.Spaced) (reads : ∀ m ∈ members, Reads m.item.value m.item.chars)
    (blank : Blank close) :
    Reads (.object (members.map Member.entry))
      ('{' :: ([','].intercalate (members.map Member.chars) ++ (close ++ ['}']))) := by
  intro opened stack
  have start : step (.value opened stack) '{' = some (.key true [] stack) :=
    step_value rfl (by decide)
  rw [run_cons_of_step start]
  cases members with
  | nil =>
      have still : run (.key true [] stack) close = some (.key true [] stack) :=
        run_of_blank (fun _ space => if_pos space) blank
      refine ⟨.after (.object []) stack, ?_, .after _ _⟩
      rw [List.map_nil, List.intercalate_nil, List.nil_append, run_append_of_run still]
      rfl
  | cons m members =>
      obtain ⟨t, last, key, before, ran, ends, entries⟩ := run_members spaced reads [] true
      obtain ⟨t', after, ends'⟩ := ends.blank blank
      refine ⟨.after (.object ((key, last) :: before).reverse) stack, ?_, ?_⟩
      · rw [run_append_of_run ran, run_append_of_run after, run,
          ends'.step (.inr (.inr (.inr rfl)))]
        rfl
      · rw [entries]
        exact .after _ _

/-! ## Every text -/

/-- The reader reads the characters of a value. -/
theorem reads_of_written (written : Written v cs) : Reads v cs := by
  induction written with
  | null => exact reads_word rfl (by decide) fun _ => rfl
  | bool b =>
      cases b with
      | true => exact reads_word rfl (by decide) fun _ => rfl
      | false => exact reads_word rfl (by decide) fun _ => rfl
  | number numeral => exact reads_numeral numeral
  | string spelled => exact reads_string spelled
  | array spaced written blank reads =>
      exact reads_array (fun i among => reads_item (spaced i among) (reads i among)) blank
  | object spaced written blank reads =>
      exact reads_object spaced
        (fun m among => reads_item (spaced m among).item (reads m among)) blank

end Chip8.Json.Reader

namespace Chip8.Json

/-- The reader reads every text of a value. -/
theorem read_of_textOf {text : String} {v : Json} (textOf : TextOf text v) :
    read? text = some v := by
  cases textOf with
  | @mk item spaced written =>
      have reads := Reader.reads_item spaced (Reader.reads_of_written written)
      obtain ⟨t, ran, ends⟩ := reads false []
      rw [read?, String.toList_ofList, ran]
      exact ends.finish

end Chip8.Json
