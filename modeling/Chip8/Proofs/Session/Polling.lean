import Chip8.Proofs.Session.Driving
import Chip8.Proofs.Session.Round

/-!
# Polling

What a poll can come to, said once.  `PollCase` has a case for each answer, with the
condition under which it is given and the session that is left, and every poll is in
one of them (`pollCase`).

A due poll with someone to call runs a round of ticks.

* When no callback stops, those stay who have not unsubscribed, and the next deadline
  is an interval after the one that was met, or an interval after now when that one
  lies more than an interval back (`afterTick`).
* When one fails, those of the tick who have not unsubscribed are told, and the
  session is left with nobody and nothing scheduled (`afterFailure`).
* When one breaks off, nobody is told and the deadline stands (`afterCrash`).

A single subscriber that ends no subscription is the simplest case of these
(`poll_of_done`, `poll_of_fault`, `poll_of_crash`).
-/

namespace Chip8.Session

variable {ω : Type} {x : Session ω} {deadline : Nat} {before rest : List (Subscriber ω)}
  {stopping : Subscriber ω} {f : Fault}

/-! ## The sessions that a poll leaves -/

/-- How late the next deadline has to make up for. -/
def late (x : Session ω) (deadline : Nat) : Nat :=
  if x.scheduler.interval < x.now - deadline then 0 else x.now - deadline

/-- The deadline after one that is due. -/
def following (x : Session ω) (deadline : Nat) : Nat :=
  if x.now ≤ deadline + x.scheduler.interval then deadline + x.scheduler.interval
  else x.now + x.scheduler.interval

/-- Those who stay after a round: no note was there of their subscription, and none came. -/
def kept (x : Session ω) (r : Round ω) : List (Subscriber ω) :=
  x.scheduler.subscribers.filter fun sub => sub.id ∉ x.scheduler.removed ∧ sub.id ∉ r.removed

/-- The session after a tick in which everyone was done. -/
def afterTick (x : Session ω) (deadline : Nat) : Session ω :=
  let r := Round.ticks x.world x.scheduler.subscribers
  x.afterRound r { x.scheduler with
    subscribers := x.kept r
    removed := []
    expected := some (x.following deadline)
    ticks := x.scheduler.ticks + 1 }

/-- The session after a tick that failed once some had been called. -/
def afterFailure (x : Session ω) (called : List (Subscriber ω)) (f : Fault) (removed : List Nat) :
    Session ω :=
  let r := Round.ticks x.world called
  let told := Round.tells f r.world (x.kept r)
  { scheduler := { x.scheduler with subscribers := [], removed, expected := none }
    now := x.now + r.elapsed + told.elapsed
    world := told.world }

/-- The session after a tick that broke off once some had been called. -/
def afterCrash (x : Session ω) (called : List (Subscriber ω)) (removed : List Nat) : Session ω :=
  x.afterRound (Round.ticks x.world called) { x.scheduler with subscribers := [], removed }

/-- The subscriptions that the tick callbacks of a poll end, if it fires. -/
def endedByTicks (x : Session ω) : List Nat :=
  ((Round.start x.world).callTicks x.scheduler.subscribers).1.removed

theorem following_eq (due : deadline ≤ x.now) :
    x.now + (x.scheduler.interval - x.late deadline) = x.following deadline := by
  unfold late following
  split <;> split <;> omega

theorem endedByTicks_of_allDone (done : Round.AllDone x.world x.scheduler.subscribers) :
    x.endedByTicks = (Round.ticks x.world x.scheduler.subscribers).removed := by
  rw [endedByTicks, Round.callTicks_of_allDone done]
  rfl

theorem endedByTicks_of_stop {stop : Stop}
    (split : x.scheduler.subscribers = before ++ stopping :: rest)
    (done : Round.AllDone x.world before)
    (stopped : (stopping.onTick (Round.ticks x.world before).world).stop = some stop) :
    x.endedByTicks = (Round.ticks x.world (before ++ [stopping])).removed := by
  rw [endedByTicks, split, Round.callTicks_of_stop done stopped]
  rfl

/-! ## Firing -/

/-- The round that a tick begins with. -/
def opening (x : Session ω) : Round ω := ⟨x.world, x.scheduler.removed, 0, []⟩

section
variable {r both : Round ω} (follows : x.opening.Follows r both)

include follows in
theorem filter_of_follows :
    x.scheduler.subscribers.filter (·.id ∉ both.removed) = x.kept r := by
  apply List.filter_congr
  intro sub _
  simp only [follows.removed, opening, not_or]

include follows in
theorem afterRound_of_follows (scheduler : Scheduler ω) :
    x.afterRound both scheduler = x.afterRound r scheduler := by
  simp only [afterRound, follows.world, follows.elapsed, opening, Nat.zero_add]

end

theorem fire_of_allDone (late : Nat) (done : Round.AllDone x.world x.scheduler.subscribers) :
    (x.fire late).tick = .ticked ∧
      (x.fire late).session =
        let r := Round.ticks x.world x.scheduler.subscribers
        x.afterRound r { x.scheduler with
          subscribers := x.kept r
          removed := []
          expected := some (x.now + (x.scheduler.interval - late))
          ticks := x.scheduler.ticks + 1 } := by
  have called := Round.callTicks_of_allDone (r := x.opening) done
  have follows : x.opening.Follows (Round.ticks x.world x.scheduler.subscribers) _ :=
    Round.follows_calls x.opening x.scheduler.subscribers
  generalize x.scheduler.subscribers.foldl _ x.opening = both at called follows
  unfold opening at called
  rw [fire, called]
  dsimp only
  rw [filter_of_follows follows, afterRound_of_follows follows]
  exact ⟨rfl, rfl⟩

section
variable (late : Nat) (split : x.scheduler.subscribers = before ++ stopping :: rest)
  (done : Round.AllDone x.world before)

include split done in
theorem fire_of_first_fault
    (stopped : (stopping.onTick (Round.ticks x.world before).world).stop = some (.fault f)) :
    (x.fire late).tick = .failed f ∧
      ∃ removed, (x.fire late).session = x.afterFailure (before ++ [stopping]) f removed := by
  have called : x.opening.callTicks (before ++ stopping :: rest) = _ :=
    Round.callTicks_of_stop done stopped
  have follows : x.opening.Follows (Round.ticks x.world (before ++ [stopping])) _ :=
    Round.follows_calls x.opening (before ++ [stopping])
  generalize (before ++ [stopping]).foldl _ x.opening = both at called follows
  unfold opening at called
  rw [← split] at called
  rw [fire, called]
  dsimp only
  rw [filter_of_follows follows, Scheduler.fst_halt]
  -- The error callbacks begin with the time and the events of the tick, and without its notes.
  generalize opened : Round.mk both.world [] both.elapsed _ = second
  have world : second.world = (Round.ticks x.world (before ++ [stopping])).world := by
    rw [← opened]
    exact follows.world
  have elapsed : second.elapsed = (Round.ticks x.world (before ++ [stopping])).elapsed := by
    rw [← opened]
    exact follows.elapsed.trans (Nat.zero_add _)
  have tells := second.follows_tells f (x.kept (Round.ticks x.world (before ++ [stopping])))
  rw [world] at tells
  refine ⟨rfl, (second.callErrors f
    (x.kept (Round.ticks x.world (before ++ [stopping])))).removed, ?_⟩
  simp only [afterFailure, afterRound, tells.world, tells.elapsed, elapsed, Nat.add_assoc]

include split done in
theorem fire_of_first_crash
    (stopped : (stopping.onTick (Round.ticks x.world before).world).stop = some .crash) :
    (x.fire late).tick = .crashed ∧
      ∃ removed, (∀ id ∈ removed, id ∈ x.scheduler.removed ∨
          id ∈ (Round.ticks x.world (before ++ [stopping])).removed) ∧
        (x.fire late).session = x.afterCrash (before ++ [stopping]) removed := by
  have called : x.opening.callTicks (before ++ stopping :: rest) = _ :=
    Round.callTicks_of_stop done stopped
  have follows : x.opening.Follows (Round.ticks x.world (before ++ [stopping])) _ :=
    Round.follows_calls x.opening (before ++ [stopping])
  generalize (before ++ [stopping]).foldl _ x.opening = both at called follows
  unfold opening at called
  rw [← split] at called
  rw [fire, called]
  dsimp only
  rw [afterRound_of_follows follows]
  exact ⟨rfl, both.removed, fun id => (follows.removed id).mp, rfl⟩

end

/-! ## Polls that are due -/

section
variable (expected : x.scheduler.expected = some deadline) (due : deadline ≤ x.now)

include expected due in
theorem poll_of_someone (someone : x.scheduler.subscribers ≠ []) :
    x.poll.tick = (x.fire (x.late deadline)).tick ∧
      x.poll.session = (x.fire (x.late deadline)).session := by
  have called : x.scheduler.subscribers.isEmpty = false := by
    rw [List.isEmpty_eq_false_iff]
    exact someone
  rw [poll, expected]
  dsimp only
  rw [if_neg (Nat.not_lt.mpr due), called]
  exact ⟨rfl, rfl⟩

include expected due in
theorem poll_of_deserted (nobody : x.scheduler.subscribers = []) :
    x.poll.tick = .idle ∧
      x.poll.session = { x with scheduler := { x.scheduler with expected := none } } := by
  rw [poll, expected]
  dsimp only
  rw [if_neg (Nat.not_lt.mpr due), List.isEmpty_iff.mpr nobody, Scheduler.fst_halt]
  exact ⟨rfl, rfl⟩

include expected due in
theorem poll_of_allDone (someone : x.scheduler.subscribers ≠ [])
    (done : Round.AllDone x.world x.scheduler.subscribers) :
    x.poll.tick = .ticked ∧ x.poll.session = x.afterTick deadline := by
  obtain ⟨tick, session⟩ := poll_of_someone expected due someone
  obtain ⟨ticked, left⟩ := fire_of_allDone (x.late deadline) done
  rw [tick, session, ticked, left, following_eq due]
  exact ⟨rfl, rfl⟩

section
variable (split : x.scheduler.subscribers = before ++ stopping :: rest)
  (done : Round.AllDone x.world before)

include expected due split done in
theorem poll_of_first_fault
    (stopped : (stopping.onTick (Round.ticks x.world before).world).stop = some (.fault f)) :
    x.poll.tick = .failed f ∧
      ∃ removed, x.poll.session = x.afterFailure (before ++ [stopping]) f removed := by
  have someone : x.scheduler.subscribers ≠ [] := by
    rw [split]
    exact List.append_ne_nil_of_right_ne_nil _ (List.cons_ne_nil _ _)
  obtain ⟨tick, session⟩ := poll_of_someone expected due someone
  rw [tick, session]
  exact fire_of_first_fault (x.late deadline) split done stopped

include expected due split done in
theorem poll_of_first_crash
    (stopped : (stopping.onTick (Round.ticks x.world before).world).stop = some .crash) :
    x.poll.tick = .crashed ∧
      ∃ removed, (∀ id ∈ removed, id ∈ x.scheduler.removed ∨
          id ∈ (Round.ticks x.world (before ++ [stopping])).removed) ∧
        x.poll.session = x.afterCrash (before ++ [stopping]) removed := by
  have someone : x.scheduler.subscribers ≠ [] := by
    rw [split]
    exact List.append_ne_nil_of_right_ne_nil _ (List.cons_ne_nil _ _)
  obtain ⟨tick, session⟩ := poll_of_someone expected due someone
  rw [tick, session]
  exact fire_of_first_crash (x.late deadline) split done stopped

end

end

/-! ## Every poll -/

/-- What a poll can come to. -/
inductive PollCase (x : Session ω) : Prop where
  /-- Nothing is scheduled. -/
  | halted (expected : x.scheduler.expected = none) (poll : x.poll = ⟨.idle, x, []⟩)
  /-- The deadline lies ahead. -/
  | early {deadline : Nat} (expected : x.scheduler.expected = some deadline)
      (early : x.now < deadline) (poll : x.poll = ⟨.pending (deadline - x.now), x, []⟩)
  /-- There is nobody to call. -/
  | deserted {deadline : Nat} (expected : x.scheduler.expected = some deadline)
      (due : deadline ≤ x.now) (nobody : x.scheduler.subscribers = [])
      (tick : x.poll.tick = .idle)
      (session : x.poll.session = { x with scheduler := { x.scheduler with expected := none } })
  /-- Everyone is called, and nobody stops. -/
  | ticked {deadline : Nat} (expected : x.scheduler.expected = some deadline)
      (due : deadline ≤ x.now) (someone : x.scheduler.subscribers ≠ [])
      (done : Round.AllDone x.world x.scheduler.subscribers) (tick : x.poll.tick = .ticked)
      (session : x.poll.session = x.afterTick deadline)
  /-- Some are called, and the last of them fails. -/
  | failed {deadline : Nat} {before rest : List (Subscriber ω)} {stopping : Subscriber ω}
      {f : Fault} {removed : List Nat} (expected : x.scheduler.expected = some deadline)
      (due : deadline ≤ x.now) (split : x.scheduler.subscribers = before ++ stopping :: rest)
      (done : Round.AllDone x.world before)
      (stopped : (stopping.onTick (Round.ticks x.world before).world).stop = some (.fault f))
      (tick : x.poll.tick = .failed f)
      (session : x.poll.session = x.afterFailure (before ++ [stopping]) f removed)
  /-- Some are called, and the last of them breaks off. -/
  | crashed {deadline : Nat} {before rest : List (Subscriber ω)} {stopping : Subscriber ω}
      {removed : List Nat} (expected : x.scheduler.expected = some deadline)
      (due : deadline ≤ x.now) (split : x.scheduler.subscribers = before ++ stopping :: rest)
      (done : Round.AllDone x.world before)
      (stopped : (stopping.onTick (Round.ticks x.world before).world).stop = some .crash)
      (noted : ∀ id ∈ removed, id ∈ x.scheduler.removed ∨
        id ∈ (Round.ticks x.world (before ++ [stopping])).removed)
      (tick : x.poll.tick = .crashed)
      (session : x.poll.session = x.afterCrash (before ++ [stopping]) removed)

theorem pollCase (x : Session ω) : x.PollCase := by
  cases expected : x.scheduler.expected with
  | none => exact .halted expected (poll_of_halted expected)
  | some deadline =>
      by_cases early : x.now < deadline
      · exact .early expected early (poll_of_early expected early)
      · have due := Nat.not_lt.mp early
        by_cases nobody : x.scheduler.subscribers = []
        · obtain ⟨tick, session⟩ := poll_of_deserted expected due nobody
          exact .deserted expected due nobody tick session
        · rcases Round.allDone_or_stop x.world x.scheduler.subscribers with
            done | ⟨before, stopping, rest, stop, split, done, stopped⟩
          · obtain ⟨tick, session⟩ := poll_of_allDone expected due nobody done
            exact .ticked expected due nobody done tick session
          · cases stop with
            | fault f =>
                obtain ⟨tick, removed, session⟩ :=
                  poll_of_first_fault expected due split done stopped
                exact .failed expected due split done stopped tick session
            | crash =>
                obtain ⟨tick, removed, noted, session⟩ :=
                  poll_of_first_crash expected due split done stopped
                exact .crashed expected due split done stopped noted tick session

/-- A poll changes neither the interval nor the next identity. -/
theorem poll_frame (x : Session ω) :
    x.poll.session.scheduler.interval = x.scheduler.interval ∧
      x.poll.session.scheduler.nextId = x.scheduler.nextId := by
  cases x.pollCase with
  | halted expected poll => rw [poll]; exact ⟨rfl, rfl⟩
  | early expected early poll => rw [poll]; exact ⟨rfl, rfl⟩
  | deserted expected due nobody tick session => rw [session]; exact ⟨rfl, rfl⟩
  | ticked expected due someone done tick session => rw [session]; exact ⟨rfl, rfl⟩
  | failed expected due split done stopped tick session => rw [session]; exact ⟨rfl, rfl⟩
  | crashed expected due split done stopped noted tick session => rw [session]; exact ⟨rfl, rfl⟩

theorem interval_poll : x.poll.session.scheduler.interval = x.scheduler.interval := x.poll_frame.1

theorem nextId_poll : x.poll.session.scheduler.nextId = x.scheduler.nextId := x.poll_frame.2

/-- A poll calls on nobody but its subscribers, and what all of their callbacks preserve is
preserved. -/
theorem poll_preserves {Good : ω → Prop}
    (ticks : ∀ sub ∈ x.scheduler.subscribers, ∀ w, Good w → Good (sub.onTick w).world)
    (errors : ∀ sub ∈ x.scheduler.subscribers, ∀ f w, Good w → Good (sub.onError f w).world)
    (good : Good x.world) : Good x.poll.session.world := by
  have called {called : List (Subscriber ω)} (among : called ⊆ x.scheduler.subscribers) :
      Good (Round.ticks x.world called).world :=
    Round.calls_preserve (fun sub member => ticks sub (among member)) good
  cases x.pollCase with
  | halted expected poll => rw [poll]; exact good
  | early expected early poll => rw [poll]; exact good
  | deserted expected due nobody tick session => rw [session]; exact good
  | ticked expected due someone done tick session =>
      rw [session]
      exact called (List.Subset.refl _)
  | failed expected due split done stopped tick session =>
      rw [session]
      exact Round.calls_preserve
        (fun sub member => errors sub (List.filter_sublist.subset member) _)
        (called (Round.upTo_subset split))
  | crashed expected due split done stopped noted tick session =>
      rw [session]
      exact called (Round.upTo_subset split)

theorem subscribers_poll_subset (x : Session ω) :
    x.poll.session.scheduler.subscribers ⊆ x.scheduler.subscribers := by
  cases x.pollCase with
  | halted expected poll => rw [poll]; exact List.Subset.refl _
  | early expected early poll => rw [poll]; exact List.Subset.refl _
  | deserted expected due nobody tick session => rw [session]; exact List.Subset.refl _
  | ticked expected due someone done tick session =>
      rw [session]
      exact List.filter_sublist.subset
  | failed expected due split done stopped tick session => rw [session]; exact List.nil_subset _
  | crashed expected due split done stopped noted tick session =>
      rw [session]
      exact List.nil_subset _

/-- A tick that was done was due, had someone to call, and nobody stopped. -/
theorem exists_of_ticked (ticked : x.poll.tick = .ticked) :
    ∃ deadline, x.scheduler.expected = some deadline ∧ deadline ≤ x.now ∧
      x.scheduler.subscribers ≠ [] ∧ Round.AllDone x.world x.scheduler.subscribers ∧
      x.poll.session = x.afterTick deadline := by
  cases x.pollCase with
  | ticked expected due someone done tick session =>
      exact ⟨_, expected, due, someone, done, session⟩
  | halted expected poll => simp [poll] at ticked
  | early expected early poll => simp [poll] at ticked
  | deserted expected due nobody tick session => simp [tick] at ticked
  | failed expected due split done stopped tick session => simp [tick] at ticked
  | crashed expected due split done stopped noted tick session => simp [tick] at ticked

/-- A poll that did not fire left at most the schedule changed. -/
theorem exists_of_unfired (unfired : x.poll.tick.fired = false) :
    ∃ expected, x.poll.session = { x with scheduler := { x.scheduler with expected } } := by
  cases x.pollCase with
  | halted expected poll => exact ⟨x.scheduler.expected, by rw [poll]⟩
  | early expected early poll => exact ⟨x.scheduler.expected, by rw [poll]⟩
  | deserted expected due nobody tick session => exact ⟨none, session⟩
  | ticked expected due someone done tick session => simp [tick, Tick.fired] at unfired
  | failed expected due split done stopped tick session => simp [tick, Tick.fired] at unfired
  | crashed expected due split done stopped noted tick session =>
      simp [tick, Tick.fired] at unfired

/-- A poll of a session with nobody to call leaves all but the schedule alone. -/
theorem poll_of_nobody (nobody : x.scheduler.subscribers = []) :
    x.poll.tick.fired = false ∧ x.poll.session.scheduler.subscribers = [] ∧
      x.poll.session.scheduler.ticks = x.scheduler.ticks ∧ x.poll.session.world = x.world ∧
      (x.scheduler.expected = none → x.poll.session.scheduler.expected = none) := by
  have none_of_split {before rest : List (Subscriber ω)} {stopping : Subscriber ω}
      (split : x.scheduler.subscribers = before ++ stopping :: rest) : False := by
    rw [nobody] at split
    cases before <;> cases split
  cases x.pollCase with
  | halted expected poll =>
      rw [poll]
      exact ⟨rfl, nobody, rfl, rfl, id⟩
  | early expected early poll =>
      rw [poll]
      exact ⟨rfl, nobody, rfl, rfl, id⟩
  | deserted expected due nobody tick session =>
      rw [tick, session]
      exact ⟨rfl, nobody, rfl, rfl, fun _ => rfl⟩
  | ticked expected due someone done tick session => exact absurd nobody someone
  | failed expected due split done stopped tick session => exact (none_of_split split).elim
  | crashed expected due split done stopped noted tick session => exact (none_of_split split).elim

/-! ## A single subscriber -/

/-- The session after a tick in which the only subscriber was done. -/
structure Ticked (s : Session ω) (sub : Subscriber ω) (x : Session ω) : Prop where
  world : x.world = (sub.onTick s.world).world
  subscribers : x.scheduler.subscribers = [sub]
  removed : x.scheduler.removed = []
  running : x.scheduler.expected.isSome
  ticks : x.scheduler.ticks = s.scheduler.ticks + 1

section
variable {sub : Subscriber ω} (due : x.Due) (only : x.scheduler.subscribers = [sub])
  (fresh : sub.id ∉ x.scheduler.removed) (quiet : (sub.onTick x.world).ended = [])

include only fresh quiet in
/-- Who ends no subscription stays. -/
theorem kept_single : x.kept (Round.ticks x.world [sub]) = [sub] := by
  have unnoted : (Round.ticks x.world [sub]).removed = [] := by
    change (sub.onTick x.world).ended.foldl noteEnded [] = []
    rw [quiet]
    rfl
  rw [kept, only, unnoted]
  simp [fresh]

include due only fresh quiet in
theorem poll_of_done (done : (sub.onTick x.world).stop = none) :
    x.poll.tick = .ticked ∧ x.Ticked sub x.poll.session := by
  obtain ⟨deadline, expected, le⟩ := due
  have kept := kept_single only fresh quiet
  have all : x.scheduler.subscribers ≠ [] ∧ Round.AllDone x.world x.scheduler.subscribers := by
    rw [only]
    exact ⟨List.cons_ne_nil _ _, done, trivial⟩
  obtain ⟨tick, session⟩ := poll_of_allDone expected le all.1 all.2
  rw [session, afterTick, only]
  exact ⟨tick, rfl, kept, rfl, rfl, rfl⟩

include due only fresh quiet in
theorem poll_of_fault (failed : (sub.onTick x.world).stop = some (.fault f)) :
    x.poll.tick = .failed f ∧ x.poll.session.AtRest ∧
      x.poll.session.scheduler.ticks = x.scheduler.ticks ∧
      x.poll.session.world = (sub.onError f (sub.onTick x.world).world).world := by
  obtain ⟨deadline, expected, le⟩ := due
  have kept := kept_single only fresh quiet
  have split : x.scheduler.subscribers = [] ++ sub :: [] := only
  obtain ⟨tick, removed, session⟩ := poll_of_first_fault expected le split trivial failed
  rw [session, afterFailure, List.nil_append, kept]
  exact ⟨tick, ⟨rfl, rfl⟩, rfl, rfl⟩

include due only fresh quiet in
/-- No note is left when the one who is told ends no subscription. -/
theorem removed_of_fault (failed : (sub.onTick x.world).stop = some (.fault f))
    (silent : ∀ world, (sub.onError f world).ended = []) :
    x.poll.session.scheduler.removed = [] := by
  obtain ⟨deadline, expected, le⟩ := due
  have someone : x.scheduler.subscribers ≠ [] := by simp [only]
  rw [(poll_of_someone expected le someone).2, fire, only]
  simp [Round.callTicks, failed, quiet, Round.after, fresh, Round.callErrors, silent, afterRound,
    Scheduler.fst_halt]

include due only in
theorem poll_of_crash (crashed : (sub.onTick x.world).stop = some .crash) :
    x.poll.tick = .crashed ∧ x.poll.session.scheduler.subscribers = [] ∧
      x.poll.session.scheduler.ticks = x.scheduler.ticks ∧
      x.poll.session.world = (sub.onTick x.world).world := by
  obtain ⟨deadline, expected, le⟩ := due
  have split : x.scheduler.subscribers = [] ++ sub :: [] := only
  obtain ⟨tick, removed, -, session⟩ := poll_of_first_crash expected le split trivial crashed
  rw [session]
  exact ⟨tick, rfl, rfl, rfl⟩

end

end Chip8.Session
