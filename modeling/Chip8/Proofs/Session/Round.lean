import Chip8.Scheduler

/-!
# Rounds of callbacks

`Round.calls` calls all of some subscribers, one after the other, each on the world
that the one before left.  It says nothing of when to stop: `Round.ticks` calls their
tick callbacks and `Round.tells` their error callbacks.

The rounds of a scheduler are such calls.  A round of ticks calls everyone when no
callback stops (`callTicks_of_allDone`), and otherwise everyone up to the first who
does (`callTicks_of_stop`); there is no third case (`allDone_or_stop`).  A round that
does not begin from nothing adds what it brings to what there was and is no different
otherwise (`Follows`).
-/

namespace Chip8

variable {ω : Type}

/-! ## Notes -/

theorem mem_noteEnded {removed : List Nat} {id other : Nat} :
    other ∈ noteEnded removed id ↔ other ∈ removed ∨ other = id := by
  unfold noteEnded
  split
  next noted =>
    constructor
    · exact Or.inl
    · intro either
      rcases either with old | same
      · exact old
      · rw [same]
        exact noted
  next => simp

theorem mem_foldl_noteEnded {ended removed : List Nat} {id : Nat} :
    id ∈ ended.foldl noteEnded removed ↔ id ∈ removed ∨ id ∈ ended := by
  induction ended generalizing removed with
  | nil => simp
  | cons first rest ih =>
      rw [List.foldl_cons, ih, mem_noteEnded, List.mem_cons, or_assoc]

namespace Round

variable {answer : Subscriber ω → ω → Reaction ω}

/-! ## Calling everyone -/

/-- A round in which nobody was called yet. -/
def start (world : ω) : Round ω := { world, removed := [] }

/-- A round after one more call. -/
def call (answer : Subscriber ω → ω → Reaction ω) (r : Round ω) (sub : Subscriber ω) : Round ω :=
  r.after (answer sub r.world)

/-- The round in which all of some subscribers are called. -/
def calls (answer : Subscriber ω → ω → Reaction ω) (world : ω) (subs : List (Subscriber ω)) :
    Round ω :=
  subs.foldl (call answer) (start world)

/-- What a tick callback leaves, whether or not it stops. -/
def answerTick (sub : Subscriber ω) (world : ω) : Reaction ω := (sub.onTick world).toReaction

/-- The round of the tick callbacks of some subscribers. -/
def ticks (world : ω) (subs : List (Subscriber ω)) : Round ω := calls answerTick world subs

/-- The round of the error callbacks of some subscribers. -/
def tells (f : Fault) (world : ω) (subs : List (Subscriber ω)) : Round ω :=
  calls (·.onError f) world subs

/-- The first round and then the second make the third. -/
structure Follows (first second both : Round ω) : Prop where
  world : both.world = second.world
  removed : ∀ id, id ∈ both.removed ↔ id ∈ first.removed ∨ id ∈ second.removed
  elapsed : both.elapsed = first.elapsed + second.elapsed

theorem Follows.refl (r : Round ω) : Follows r (start r.world) r where
  world := rfl
  removed id := by simp [start]
  elapsed := rfl

theorem Follows.after {first second both : Round ω} (follows : Follows first second both)
    (x : Reaction ω) : Follows first (second.after x) (both.after x) where
  world := rfl
  removed id := by
    simp only [Round.after, mem_foldl_noteEnded, follows.removed, or_assoc]
  elapsed := by
    simp only [Round.after, follows.elapsed, Nat.add_assoc]

theorem Follows.foldl {first second both : Round ω} (follows : Follows first second both)
    (subs : List (Subscriber ω)) :
    Follows first (subs.foldl (call answer) second) (subs.foldl (call answer) both) := by
  induction subs generalizing second both with
  | nil => exact follows
  | cons sub rest ih =>
      rw [List.foldl_cons, List.foldl_cons]
      apply ih
      unfold call
      rw [follows.world]
      exact follows.after _

/-- Calls made after a round bring what they bring by themselves. -/
theorem follows_calls (r : Round ω) (subs : List (Subscriber ω)) :
    Follows r (calls answer r.world subs) (subs.foldl (call answer) r) :=
  (Follows.refl r).foldl subs

theorem follows_tells (r : Round ω) (f : Fault) (subs : List (Subscriber ω)) :
    Follows r (tells f r.world subs) (r.callErrors f subs) :=
  follows_calls r subs

/-- When every answer adds an entry to a journal, the journal tells who was called and when. -/
theorem journal_calls {α : Type} {journal : ω → List α} {entry : Subscriber ω → α}
    {subs : List (Subscriber ω)}
    (writes : ∀ sub ∈ subs, ∀ w, journal (answer sub w).world = journal w ++ [entry sub])
    (world : ω) :
    journal (calls answer world subs).world = journal world ++ subs.map entry := by
  suffices each : ∀ r : Round ω,
      journal (subs.foldl (call answer) r).world = journal r.world ++ subs.map entry by
    exact each (start world)
  induction subs with
  | nil => simp
  | cons sub rest ih =>
      intro r
      rw [List.foldl_cons, ih fun sub' later => writes sub' (.tail _ later)]
      change journal (answer sub r.world).world ++ _ = _
      rw [writes sub (.head _), List.append_assoc, List.map_cons]
      rfl

theorem journal_ticks {α : Type} {journal : ω → List α} {entry : Subscriber ω → α}
    {subs : List (Subscriber ω)}
    (writes : ∀ sub ∈ subs, ∀ w, journal (sub.onTick w).world = journal w ++ [entry sub])
    (world : ω) : journal (ticks world subs).world = journal world ++ subs.map entry :=
  journal_calls writes world

theorem journal_tells {α : Type} {journal : ω → List α} {entry : Subscriber ω → α} {f : Fault}
    {subs : List (Subscriber ω)}
    (writes : ∀ sub ∈ subs, ∀ w, journal (sub.onError f w).world = journal w ++ [entry sub])
    (world : ω) : journal (tells f world subs).world = journal world ++ subs.map entry :=
  journal_calls writes world

/-- What every answer preserves is preserved by all of them. -/
theorem calls_preserve {Good : ω → Prop} {subs : List (Subscriber ω)}
    (preserves : ∀ sub ∈ subs, ∀ w, Good w → Good (answer sub w).world) {world : ω}
    (good : Good world) : Good (calls answer world subs).world := by
  suffices each : ∀ r : Round ω, Good r.world → Good (subs.foldl (call answer) r).world by
    exact each (start world) good
  induction subs with
  | nil => exact fun r good => good
  | cons sub rest ih =>
      intro r good
      exact ih (fun other later => preserves other (.tail _ later)) (r.call answer sub)
        (preserves sub (.head _) r.world good)

/-- Calls that take no time take none together. -/
theorem elapsed_calls {subs : List (Subscriber ω)}
    (still : ∀ sub ∈ subs, ∀ world, (answer sub world).elapsed = 0) (world : ω) :
    (calls answer world subs).elapsed = 0 := by
  suffices each : ∀ r : Round ω, (subs.foldl (call answer) r).elapsed = r.elapsed by
    exact each (start world)
  induction subs with
  | nil => exact fun r => rfl
  | cons sub rest ih =>
      intro r
      rw [List.foldl_cons, ih fun other later => still other (.tail _ later)]
      change r.elapsed + (answer sub r.world).elapsed = r.elapsed
      rw [still sub (.head _), Nat.add_zero]

/-! ## Calling up to the first who stops -/

/-- No tick callback of some subscribers stops when all are called. -/
def AllDone (world : ω) : List (Subscriber ω) → Prop
  | [] => True
  | sub :: rest => (sub.onTick world).stop = none ∧ AllDone (sub.onTick world).world rest

theorem world_ticks_cons (world : ω) (sub : Subscriber ω) (rest : List (Subscriber ω)) :
    (ticks world (sub :: rest)).world = (ticks (sub.onTick world).world rest).world :=
  (follows_calls (call _ (start world) sub) rest).world

theorem callTicks_of_allDone {r : Round ω} {subs : List (Subscriber ω)}
    (done : AllDone r.world subs) :
    r.callTicks subs = (subs.foldl (call answerTick) r, none) := by
  induction subs generalizing r with
  | nil => rfl
  | cons sub rest ih =>
      obtain ⟨first, later⟩ := done
      simp only [callTicks, first]
      exact ih later

theorem callTicks_of_stop {r : Round ω} {before rest : List (Subscriber ω)}
    {stopping : Subscriber ω} {stop : Stop} (done : AllDone r.world before)
    (stopped : (stopping.onTick (ticks r.world before).world).stop = some stop) :
    r.callTicks (before ++ stopping :: rest) =
      ((before ++ [stopping]).foldl (call answerTick) r,
        some stop) := by
  induction before generalizing r with
  | nil =>
      change (stopping.onTick r.world).stop = some stop at stopped
      simp only [List.nil_append, callTicks, stopped]
      rfl
  | cons sub before ih =>
      obtain ⟨first, later⟩ := done
      rw [world_ticks_cons] at stopped
      simp only [List.cons_append, callTicks, first]
      exact ih later stopped

/-- Those up to the first who stops are among them all. -/
theorem upTo_subset {subs before rest : List (Subscriber ω)} {stopping : Subscriber ω}
    (split : subs = before ++ stopping :: rest) : before ++ [stopping] ⊆ subs := by
  rw [split, List.append_cons before stopping rest]
  exact List.subset_append_left _ _

/-- Either all callbacks are done, or one of them is the first that stops. -/
theorem allDone_or_stop (world : ω) (subs : List (Subscriber ω)) :
    AllDone world subs ∨ ∃ before stopping rest stop, subs = before ++ stopping :: rest ∧
      AllDone world before ∧
      (stopping.onTick (ticks world before).world).stop = some stop := by
  induction subs generalizing world with
  | nil => exact .inl trivial
  | cons sub subs ih =>
      cases stopped : (sub.onTick world).stop with
      | some stop => exact .inr ⟨[], sub, subs, stop, rfl, trivial, stopped⟩
      | none =>
          rcases ih (sub.onTick world).world with
            done | ⟨before, stopping, rest, stop, split, done, stops⟩
          · exact .inl ⟨stopped, done⟩
          · refine .inr ⟨sub :: before, stopping, rest, stop, ?_, ⟨stopped, done⟩, ?_⟩
            · rw [split, List.cons_append]
            · rw [world_ticks_cons]
              exact stops

end Round

end Chip8
