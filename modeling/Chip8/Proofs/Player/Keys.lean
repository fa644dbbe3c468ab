import Chip8.Proofs.Cpu.Confinement
import Chip8.Proofs.Player.Phases
import Chip8.Proofs.Session.Registration

/-!
# Keys held by hand

A player keeps what it knows of the keys twice: the keypad of its machine shows which
are down, and a table says when each of them is let up.  The program only reads the
keypad, so nothing but a press and a look at the clock changes either, and the two go
together (`InStep`).

What becomes of a key is told by the calls that concern it, which are its own presses
and the looks (`Input.holdAfter`).  The times that they are given need not rise.  A key
is down when no look since its last press came with a time past the hold of that press
(`HeldUntil`, `keys_held`).
-/

namespace Chip8

/-! ## What a program does to the keys -/

theorem Cpu.keypad_runBatch {δ : Type} [Display δ] (c : Cpu δ) (n : Nat) :
    (c.runBatch n).state.keypad = c.keypad := by
  have after (k : Nat) : Kept (c.ticks k) c (c.after k) .keypad :=
    kept_after fun _ _ => not_touches_of_fixed (.head _)
  rcases runs_or_failsAfter c n with runs | ⟨s, hs, e, failure⟩
  · rw [(runBatch_of_runs runs).2]
    exact after n
  · rw [(runBatch_of_failsAfter failure hs).2]
    exact after (s + 1)

namespace Player

variable {p q : Player} {key : UInt8} {deadline : Nat}

/-! ## Calls that leave the keys alone -/

/-- No callback of a subscriber moves a key. -/
def SparesKeys (sub : Subscriber World) : Prop :=
  (∀ w, (sub.onTick w).world.cpu.keypad = w.cpu.keypad) ∧
    ∀ f w, (sub.onError f w).world.cpu.keypad = w.cpu.keypad

theorem sparesKeys_subscriber (p : Player) (id : Nat) : SparesKeys (p.subscriber id) :=
  ⟨fun w => w.cpu.keypad_runBatch p.batch, fun _ _ => rfl⟩

/-- Two players with the same keys down, held as long, and nobody new who could move them. -/
structure SameKeys (p q : Player) : Prop where
  keypad : q.cpu.keypad = p.cpu.keypad
  holds : q.holds = p.holds
  spares : (∀ sub ∈ p.session.scheduler.subscribers, SparesKeys sub) →
    ∀ sub ∈ q.session.scheduler.subscribers, SparesKeys sub

theorem sameKeys_toggle (p : Player) : SameKeys p p.toggle.1 where
  keypad := by rw [p.cpu_toggle]
  holds := by
    cases subscription : p.subscription with
    | none => rw [toggle_of_paused subscription]
    | some id => rw [toggle_of_running subscription]
  spares spares sub among := by
    cases subscription : p.subscription with
    | none =>
        rw [toggle_of_paused subscription] at among
        rw [Scheduler.subscribers_subscribe] at among
        rcases List.mem_append.mp among with old | last
        · exact spares sub old
        · rw [List.mem_singleton.mp last]
          exact p.sparesKeys_subscriber _
    | some id =>
        rw [toggle_of_running subscription] at among
        exact spares sub ((Scheduler.sublist_unsubscribe _ id).subset among)

theorem sameKeys_reset (p : Player) : SameKeys p p.reset.1 := ⟨rfl, rfl, id⟩

theorem sameKeys_updated (p : Player)
    (spares : ∀ sub ∈ p.session.scheduler.subscribers, SparesKeys sub) :
    SameKeys p p.updated where
  keypad := by
    rw [p.updated_frame.2.2.1]
    exact @Session.poll_preserves _ p.session (fun w => w.cpu.keypad = p.cpu.keypad)
      (fun sub among w same => ((spares sub among).1 w).trans same)
      (fun sub among f w same => ((spares sub among).2 f w).trans same) rfl
  holds := by
    change p.polled.holds = p.holds
    rw [polled]
    cases p.session.poll.tick <;> rfl
  spares _ sub among := by
    rw [p.updated_frame.1] at among
    exact spares sub (p.session.subscribers_poll_subset among)

/-! ## One key -/

/-- When a key is let up that is held. -/
def hold (p : Player) (key : UInt8) : Option Nat := p.holds[key.toNat]?.join

/-- Whether a call concerns a key: its own presses do, and so does every look at the clock. -/
def Input.concerns (key : UInt8) : Input → Bool
  | .press other _ => other = key
  | .releaseExpired _ => true
  | .toggle | .reset | .update | .advance _ => false

/-- When a key is let up after a call. -/
def Input.holdAfter (key : UInt8) (hold : Option Nat) : Input → Option Nat
  | .press other now => if other = key then some (now + holdTime) else hold
  | .releaseExpired now => if holdIsOver now hold then none else hold
  | .toggle | .reset | .update | .advance _ => hold

theorem Input.holdAfter_of_unconcerned {input : Input} (apart : input.concerns key = false)
    (hold : Option Nat) : input.holdAfter key hold = hold := by
  cases input with
  | press other now => exact if_neg (of_decide_eq_false apart)
  | releaseExpired now => cases apart
  | toggle => rfl
  | reset => rfl
  | update => rfl
  | advance time => rfl

/-- Calls that do not concern a key may be left out. -/
theorem foldl_holdAfter_filter (inputs : List Input) (hold : Option Nat) :
    (inputs.filter (·.concerns key)).foldl (Input.holdAfter key) hold =
      inputs.foldl (Input.holdAfter key) hold := by
  induction inputs generalizing hold with
  | nil => rfl
  | cons input rest ih =>
      cases concerned : input.concerns key with
      | true => rw [List.filter_cons_of_pos concerned, List.foldl_cons, List.foldl_cons, ih]
      | false =>
          rw [List.filter_cons_of_neg (by simp [concerned]), ih, List.foldl_cons,
            Input.holdAfter_of_unconcerned concerned]

/-- A hold until a time outlasts some calls: the key is not pressed in them, and no look comes with
that time or a later one. -/
structure Outlasts (key : UInt8) (deadline : Nat) (inputs : List Input) : Prop where
  unpressed : ∀ now, .press key now ∉ inputs
  early : ∀ now, .releaseExpired now ∈ inputs → now < deadline

/-- The last press of a key in some calls holds it until a time, and outlasts the rest of them. -/
def HeldUntil (key : UInt8) (deadline : Nat) (inputs : List Input) : Prop :=
  ∃ before now after, inputs = before ++ .press key now :: after ∧ deadline = now + holdTime ∧
    Outlasts key deadline after

theorem Input.holdAfter_eq_some_iff {input : Input} {hold : Option Nat} :
    input.holdAfter key hold = some deadline ↔
      (∃ now, input = .press key now ∧ deadline = now + holdTime) ∨
        hold = some deadline ∧ (∀ now, input ≠ .press key now) ∧
          ∀ now, input = .releaseExpired now → now < deadline := by
  cases input with
  | press other now =>
      by_cases same : other = key
      · subst same
        simp [holdAfter, eq_comm]
      · simp [holdAfter, same]
  | releaseExpired now =>
      cases hold with
      | none => simp [holdAfter, holdIsOver]
      | some due =>
          by_cases past : due ≤ now
          · simp [holdAfter, holdIsOver, past]
            omega
          · simp [holdAfter, holdIsOver, past]
            omega
  | toggle => simp [holdAfter]
  | reset => simp [holdAfter]
  | update => simp [holdAfter]
  | advance time => simp [holdAfter]

theorem outlasts_cons_iff {input : Input} {rest : List Input} :
    Outlasts key deadline (input :: rest) ↔ ((∀ now, input ≠ .press key now) ∧
      ∀ now, input = .releaseExpired now → now < deadline) ∧ Outlasts key deadline rest := by
  constructor
  · intro outlasts
    refine ⟨⟨?_, ?_⟩, fun now among => ?_, fun now among => ?_⟩
    · rintro now rfl
      exact outlasts.unpressed now (.head _)
    · rintro now rfl
      exact outlasts.early now (.head _)
    · exact outlasts.unpressed now (.tail _ among)
    · exact outlasts.early now (.tail _ among)
  · rintro ⟨⟨other, early⟩, outlasts⟩
    constructor
    · intro now among
      rcases List.mem_cons.mp among with first | later
      · exact other now first.symm
      · exact outlasts.unpressed now later
    · intro now among
      rcases List.mem_cons.mp among with first | later
      · exact early now first.symm
      · exact outlasts.early now later

theorem heldUntil_cons_iff {input : Input} {rest : List Input} :
    HeldUntil key deadline (input :: rest) ↔
      (∃ now, input = .press key now ∧ deadline = now + holdTime) ∧ Outlasts key deadline rest ∨
        HeldUntil key deadline rest := by
  constructor
  · rintro ⟨before, now, after, split, pressed, outlasts⟩
    cases before with
    | nil =>
        cases split
        exact .inl ⟨⟨now, rfl, pressed⟩, outlasts⟩
    | cons first before =>
        cases split
        exact .inr ⟨before, now, after, rfl, pressed, outlasts⟩
  · rintro (⟨⟨now, rfl, pressed⟩, outlasts⟩ | ⟨before, now, after, rfl, pressed, outlasts⟩)
    · exact ⟨[], now, rest, rfl, pressed, outlasts⟩
    · exact ⟨input :: before, now, after, rfl, pressed, outlasts⟩

/-- After some calls a key is held by its last press in them, or as it was before. -/
theorem foldl_holdAfter_eq_some_iff {inputs : List Input} {hold : Option Nat} :
    inputs.foldl (Input.holdAfter key) hold = some deadline ↔
      HeldUntil key deadline inputs ∨ hold = some deadline ∧ Outlasts key deadline inputs := by
  induction inputs generalizing hold with
  | nil =>
      have never : ¬ HeldUntil key deadline [] := by
        rintro ⟨before, now, after, split, -⟩
        cases before <;> cases split
      have outlasts : Outlasts key deadline [] := ⟨fun _ => nofun, nofun⟩
      simp [never, outlasts]
  | cons input rest ih =>
      rw [List.foldl_cons, ih, Input.holdAfter_eq_some_iff, heldUntil_cons_iff, outlasts_cons_iff,
        or_and_right, and_assoc, or_left_comm, or_assoc]

theorem heldUntil_iff {inputs : List Input} :
    HeldUntil key deadline inputs ↔ inputs.foldl (Input.holdAfter key) none = some deadline := by
  rw [foldl_holdAfter_eq_some_iff]
  simp

instance (inputs : List Input) : Decidable (HeldUntil key deadline inputs) :=
  decidable_of_iff _ heldUntil_iff.symm

/-! ## Keypad and table -/

/-- The keypad and the table are in step. -/
structure InStep (p : Player) : Prop where
  spares : ∀ sub ∈ p.session.scheduler.subscribers, SparesKeys sub
  /-- A key is down as long as it is in the table. -/
  shown : ∀ key : UInt8, key.toNat < 16 → p.cpu.keypad.isPressed key = .ok (p.hold key).isSome

theorem press_of_le (p : Player) (outside : 16 ≤ key.toNat) (now : Nat) : p.press key now = p := by
  rw [press, Keypad.press, p.cpu.keypad.set_of_le true outside]
  rfl

theorem press_of_lt (p : Player) (h : key.toNat < 16) (now : Nat) :
    ∃ keypad, p.cpu.keypad.press key = ⟨.ok (), keypad⟩ ∧ p.press key now =
      { p.withCpu { p.cpu with keypad } with
        holds := p.holds.setIfInBounds key.toNat (some (now + holdTime)) } := by
  have pressed := p.cpu.keypad.set_of_lt true h
  refine ⟨_, pressed, ?_⟩
  rw [press, Keypad.press, pressed]
  rfl

theorem hold_press (p : Player) (h : key.toNat < 16) (now : Nat) (other : UInt8) :
    (p.press key now).hold other = if key = other then some (now + holdTime) else p.hold other := by
  obtain ⟨keypad, -, pressed⟩ := p.press_of_lt h now
  rw [pressed, hold]
  by_cases same : key = other
  · subst same
    simp [h]
  · have apart : key.toNat ≠ other.toNat := fun e => same (UInt8.toNat_inj.mp e)
    simp [same, apart, hold]

theorem hold_releaseExpired (p : Player) (now : Nat) (key : UInt8) :
    (p.releaseExpired now).hold key = if holdIsOver now (p.hold key) then none else p.hold key := by
  unfold hold
  change (p.holds.map fun hold => if holdIsOver now hold then none else hold)[key.toNat]?.join = _
  rw [Vector.getElem?_map]
  cases p.holds[key.toNat]? <;> rfl

theorem InStep.press (inStep : InStep p) (key : UInt8) (now : Nat) : InStep (p.press key now) := by
  by_cases h : key.toNat < 16
  · obtain ⟨keypad, down, pressed⟩ := p.press_of_lt h now
    refine ⟨?_, fun other inside => ?_⟩
    · rw [pressed]
      exact inStep.spares
    · rw [p.hold_press h, pressed]
      change keypad.isPressed other = _
      rw [Keypad.isPressed_set down]
      by_cases same : key = other
      · rw [if_pos same, if_pos same.symm]
        rfl
      · rw [if_neg same, if_neg (Ne.symm same)]
        exact inStep.shown other inside
  · rw [p.press_of_le (Nat.not_lt.mp h)]
    exact inStep

theorem InStep.releaseExpired (inStep : InStep p) (now : Nat) : InStep (p.releaseExpired now) where
  spares := inStep.spares
  shown key h := by
    have shown := inStep.shown key h
    rw [Keypad.isPressed, dif_pos h] at shown
    rw [hold_releaseExpired, Keypad.isPressed, dif_pos h]
    have down : (p.releaseExpired now).cpu.keypad.down[key.toNat] =
        ((p.hold key).isSome && !holdIsOver now p.holds[key.toNat]) := by
      change (Vector.zipWith _ p.cpu.keypad.down (p.holds.map (holdIsOver now)))[key.toNat] = _
      rw [Vector.getElem_zipWith, Except.ok.inj shown, Vector.getElem_map]
    have held : p.hold key = p.holds[key.toNat] := by simp [hold, h]
    rw [down, held]
    cases holdIsOver now p.holds[key.toNat] <;> simp

theorem SameKeys.hold (same : SameKeys p q) (key : UInt8) : q.hold key = p.hold key := by
  rw [Player.hold, same.holds, Player.hold]

theorem InStep.of_sameKeys (inStep : InStep p) (same : SameKeys p q) : InStep q where
  spares := same.spares inStep.spares
  shown key h := by
    rw [same.keypad, same.hold]
    exact inStep.shown key h

/-- Every call keeps the two in step, and changes each key on its own. -/
theorem InStep.handle (inStep : InStep p) (input : Input) :
    InStep (p.handle input).1 ∧ ∀ key : UInt8, key.toNat < 16 →
      (p.handle input).1.hold key = input.holdAfter key (p.hold key) := by
  have kept {q : Player} (same : SameKeys p q) :
      InStep q ∧ ∀ key : UInt8, key.toNat < 16 → q.hold key = p.hold key :=
    ⟨inStep.of_sameKeys same, fun key _ => same.hold key⟩
  cases input with
  | toggle => exact kept p.sameKeys_toggle
  | reset => exact kept p.sameKeys_reset
  | update => exact kept (p.sameKeys_updated inStep.spares)
  | advance time => exact kept ⟨rfl, rfl, id⟩
  | press key now =>
      refine ⟨inStep.press key now, fun other h => ?_⟩
      by_cases within : key.toNat < 16
      · exact p.hold_press within now other
      · have apart : key ≠ other := by
          rintro rfl
          exact within h
        change (p.press key now).hold other = if key = other then _ else _
        rw [if_neg apart, p.press_of_le (Nat.not_lt.mp within)]
  | releaseExpired now =>
      exact ⟨inStep.releaseExpired now, fun key _ => p.hold_releaseExpired now key⟩

theorem InStep.handleAll (inStep : InStep p) (inputs : List Input) :
    InStep (p.handleAll inputs) ∧ ∀ key : UInt8, key.toNat < 16 →
      (p.handleAll inputs).hold key = inputs.foldl (Input.holdAfter key) (p.hold key) := by
  induction inputs generalizing p with
  | nil => exact ⟨inStep, fun _ _ => rfl⟩
  | cons input rest ih =>
      obtain ⟨first, changed⟩ := inStep.handle input
      obtain ⟨last, folded⟩ := ih first
      refine ⟨last, fun key h => ?_⟩
      rw [List.foldl_cons, ← changed key h]
      exact folded key h

/-! ## Opened players -/

theorem inStep_of_new {program : List UInt8} {config : Config} {title : String} {seed : UInt64}
    {events : List Event} (opened : new? program config title seed = .ok (p, events)) :
    InStep p ∧ ∀ key : UInt8, key.toNat < 16 → p.hold key = none := by
  have empty (key : UInt8) (h : key.toNat < 16) :
      (Vector.replicate 16 (none : Option Nat))[key.toNat]?.join = none := by
    simp [h]
  have up (key : UInt8) (h : key.toNat < 16) : Keypad.released.isPressed key = .ok false := by
    simp [Keypad.isPressed, Keypad.released, h]
  obtain ⟨cpu, events, batch, built, -, made⟩ := new?_eq_ok_iff.mp opened
  obtain ⟨store, plane, -, -, machine⟩ := Cpu.ofConfig?_eq_ok_iff.mp built
  cases made
  cases machine
  refine ⟨⟨List.forall_mem_nil _, fun key h => ?_⟩, empty⟩
  rw [hold, empty key h]
  exact up key h

/-- The keys of a player after some calls. -/
structure KeysHeld (p : Player) (inputs : List Input) : Prop where
  /-- A key is down when its last press holds it through the calls after that. -/
  down : ∀ key : UInt8, key.toNat < 16 → ∃ down,
    (p.handleAll inputs).cpu.keypad.isPressed key = .ok down ∧
      (down = true ↔ ∃ deadline, HeldUntil key deadline inputs)
  /-- The table has its hold. -/
  table : ∀ key : UInt8, key.toNat < 16 → ∀ deadline,
    (p.handleAll inputs).hold key = some deadline ↔ HeldUntil key deadline inputs
  /-- The table has a hold for the keys that are down and for no others. -/
  shown : ∀ key : UInt8, key.toNat < 16 →
    (p.handleAll inputs).cpu.keypad.isPressed key = .ok ((p.handleAll inputs).hold key).isSome
  /-- The press of a key that there is not changes nothing. -/
  outside : ∀ key : UInt8, 16 ≤ key.toNat → ∀ now,
    (p.handleAll inputs).press key now = p.handleAll inputs
  /-- Each key is as it would be after any other calls that concern it as these do. -/
  independent : ∀ key : UInt8, key.toNat < 16 → ∀ others : List Input,
    others.filter (·.concerns key) = inputs.filter (·.concerns key) →
      (p.handleAll others).cpu.keypad.isPressed key =
          (p.handleAll inputs).cpu.keypad.isPressed key ∧
        (p.handleAll others).hold key = (p.handleAll inputs).hold key

/-- The keys of an opened player are held for the hold time after their last press, each on its
own, whatever else is done to the player. -/
theorem keys_held {program : List UInt8} {config : Config} {title : String} {seed : UInt64}
    {events : List Event} (opened : new? program config title seed = .ok (p, events))
    (inputs : List Input) : KeysHeld p inputs := by
  obtain ⟨start, empty⟩ := inStep_of_new opened
  have shown (inputs : List Input) := (start.handleAll inputs).1.shown
  have folded (inputs : List Input) {key : UInt8} (h : key.toNat < 16) :
      (p.handleAll inputs).hold key = inputs.foldl (Input.holdAfter key) none := by
    rw [(start.handleAll inputs).2 key h, empty key h]
  have table (key : UInt8) (h : key.toNat < 16) (deadline : Nat) :
      (p.handleAll inputs).hold key = some deadline ↔ HeldUntil key deadline inputs := by
    rw [folded inputs h, heldUntil_iff]
  refine ⟨fun key h => ⟨_, shown inputs key h, ?_⟩, table, shown inputs,
    fun key outside now => press_of_le _ outside now, ?_⟩
  · rw [Option.isSome_iff_exists]
    exact exists_congr (table key h)
  · intro key h others same
    have hold : (p.handleAll others).hold key = (p.handleAll inputs).hold key := by
      rw [folded others h, folded inputs h, ← foldl_holdAfter_filter, same, foldl_holdAfter_filter]
    refine ⟨?_, hold⟩
    rw [shown others key h, shown inputs key h, hold]

/-- Key 5 is pressed twice, a look comes when its first hold is over, and key 6 is let up then. -/
def pressedTwice : List Input :=
  [.press 5 0, .press 6 0, .toggle, .press 5 holdTime, .releaseExpired (2 * holdTime - 1), .reset]

theorem second_press_holds :
    (returning.handleAll pressedTwice).cpu.keypad.isPressed 5 = .ok true ∧
      (returning.handleAll pressedTwice).cpu.keypad.isPressed 6 = .ok false := by
  have opened : new? [0x00, 0xEE] {} "return" 0 = .ok (returning, [.storeReset 2]) := rfl
  have held := keys_held opened pressedTwice
  constructor
  · obtain ⟨down, pressed, iff⟩ := held.down 5 (by decide)
    rw [pressed, iff.mpr ⟨2 * holdTime, by decide⟩]
  · have up : (returning.handleAll pressedTwice).hold 6 = none := by
      rw [Option.eq_none_iff_forall_ne_some]
      intro deadline still
      have gone : pressedTwice.foldl (Input.holdAfter 6) none = none := by decide
      rw [held.table 6 (by decide), heldUntil_iff, gone] at still
      cases still
    rw [held.shown 6 (by decide), up]
    rfl

end Player

end Chip8
