import Chip8.Event
import Chip8.Text.Description

/-!
# The scheduler

A scheduler calls each of its subscribers once per interval, in the order they
subscribed.  It works on a *world*, whatever its callbacks can read and change.
A callback answers with a *reaction*: the world it leaves, the subscriptions it
ended, and the clock time it took.  A tick callback may also stop, and then the
tick fails.

A *session* is a scheduler with its clock and its world.  Polling it fires a tick
when one is due and otherwise says how long to wait.  The clock is read once, when
the poll begins.

* Every tick aims at its deadline.  A late tick shortens the next wait by as much
  as it was late, and a tick more than one interval late starts the schedule
  again from the time of the poll.
* Subscribers are checked out while a tick runs.  A subscription ended meanwhile
  is noted, and takes effect when the callbacks are through.
* When a callback stops, the callbacks after it are not run.  Every subscriber of
  the tick that has not unsubscribed is told, none is kept, and the schedule
  halts until someone subscribes again.

Times are nanoseconds without a bound.  A clock of a machine has a range, and taking
a deadline that lies beyond it breaks off.  Such deadlines are centuries ahead, and they
are left out here: whatever is said of a schedule is said of one whose deadlines the clock
can show.

An ended subscription that is not among the subscribers may be one that is checked
out, so it is noted also when no tick runs.  The notes are thrown away with the
next tick.  Identities are never used twice, so an old note hits nobody.
-/

namespace Chip8

/-- What a callback leaves. -/
structure Reaction (ω : Type) where
  /-- The world. -/
  world : ω
  /-- The subscriptions it ended, in order. -/
  ended : List Nat := []
  /-- The clock time it took, in nanoseconds. -/
  elapsed : Nat := 0
  /-- The events it caused. -/
  events : List Event := []

/-- What a tick callback leaves. -/
structure TickReaction (ω : Type) extends Reaction ω where
  /-- How it stopped, if it did. -/
  stop : Option Stop := none

/-- The reaction of a callback that carries out an operation on a part of the world.  It stops when
the operation does. -/
def TickReaction.ofOutcome {σ α ω : Type} (o : Outcome σ α) (put : σ → ω) : TickReaction ω where
  world := put o.state
  events := o.events
  stop := match o.result with
    | .ok _ => none
    | .error stop => some stop

/-- Someone to call. -/
structure Subscriber (ω : Type) where
  /-- The identity of the subscription. -/
  id : Nat
  /-- Called once per tick. -/
  onTick : ω → TickReaction ω
  /-- Called when a tick failed. -/
  onError : Fault → ω → Reaction ω

/-- A list of subscribers and the schedule that calls them. -/
structure Scheduler (ω : Type) where
  /-- Nanoseconds between ticks. -/
  interval : Nat
  /-- The subscribers, oldest first. -/
  subscribers : List (Subscriber ω) := []
  /-- The subscriptions ended without being among the subscribers. -/
  removed : List Nat := []
  /-- The identity of the next subscription. -/
  nextId : Nat := 0
  /-- The deadline of the next tick, none while halted.  It is a time that the clock can come to. -/
  expected : Option Nat := none
  /-- The number of successful ticks. -/
  ticks : Nat := 0

/-- A scheduler with its clock and its world. -/
structure Session (ω : Type) where
  /-- The scheduler. -/
  scheduler : Scheduler ω
  /-- The clock, in nanoseconds and without an end to its range. -/
  now : Nat
  /-- What the callbacks work on. -/
  world : ω

/-- What came of a poll. -/
inductive Tick where
  /-- The schedule is halted. -/
  | idle
  /-- The next tick is due after this long. -/
  | pending (wait : Nat)
  /-- A tick ran. -/
  | ticked
  /-- A tick ran and failed, and every subscriber was told and dropped. -/
  | failed (f : Fault)
  /-- A callback broke off. -/
  | crashed
deriving DecidableEq, Repr

/-- The result of a poll, the session after it, and the events it caused. -/
structure Polled (ω : Type) where
  /-- What came of it. -/
  tick : Tick
  /-- The session afterwards. -/
  session : Session ω
  /-- The events, first to last. -/
  events : List Event

variable {ω : Type}

/-! ## Subscribing -/

/-- Notes of ended subscriptions with one more, which is noted once. -/
def noteEnded (removed : List Nat) (id : Nat) : List Nat :=
  if id ∈ removed then removed else removed ++ [id]

namespace Scheduler

/-- Whether a tick is scheduled. -/
def isRunning (s : Scheduler ω) : Bool := s.expected.isSome

/-- Time left until the next tick, none while halted. -/
def nextDeadline (s : Scheduler ω) (now : Nat) : Option Nat := s.expected.map (· - now)

/-- The scheduler with another subscriber, and the events of that.  The first one starts the
schedule. -/
def subscribe (s : Scheduler ω) (now : Nat) (onTick : ω → TickReaction ω)
    (onError : Fault → ω → Reaction ω) : Scheduler ω × List Event :=
  let s := { s with
    subscribers := s.subscribers ++ [Subscriber.mk s.nextId onTick onError]
    nextId := s.nextId + 1 }
  match s.expected with
  | some _ => (s, [])
  | none => ({ s with expected := some (now + s.interval) }, [.scheduleStarted s.interval])

/-- The scheduler after a subscription was ended, between ticks. -/
def unsubscribe (s : Scheduler ω) (id : Nat) : Scheduler ω :=
  let kept := s.subscribers.filter (·.id ≠ id)
  if kept.length = s.subscribers.length then { s with removed := noteEnded s.removed id }
  else { s with subscribers := kept }

/-- The scheduler with no tick scheduled, and the events of that. -/
def halt (s : Scheduler ω) : Scheduler ω × List Event :=
  match s.expected with
  | none => (s, [])
  | some _ => ({ s with expected := none }, [.scheduleStopped s.ticks])

/-- A one-line description. -/
def describe (s : Scheduler ω) : String :=
  Description.record "Scheduler"
    [("interval", Duration.text s.interval), ("subscribers", toString s.subscribers.length),
      ("running", if s.isRunning then "true" else "false"), ("ticks", toString s.ticks)]

section
variable (s : Scheduler ω) (now : Nat) (onTick : ω → TickReaction ω)
  (onError : Fault → ω → Reaction ω)

/-- Subscribing keeps a deadline that is set, and otherwise sets one an interval from now. -/
theorem fst_subscribe :
    (s.subscribe now onTick onError).1 = { s with
      subscribers := s.subscribers ++ [⟨s.nextId, onTick, onError⟩]
      nextId := s.nextId + 1
      expected := some (s.expected.getD (now + s.interval)) } := by
  unfold subscribe
  cases running : s.expected with
  | none => rfl
  | some deadline => simp

@[simp] theorem subscribers_subscribe :
    (s.subscribe now onTick onError).1.subscribers =
      s.subscribers ++ [⟨s.nextId, onTick, onError⟩] := by
  rw [fst_subscribe]

@[simp] theorem removed_subscribe :
    (s.subscribe now onTick onError).1.removed = s.removed := by
  rw [fst_subscribe]

@[simp] theorem ticks_subscribe : (s.subscribe now onTick onError).1.ticks = s.ticks := by
  rw [fst_subscribe]

theorem isRunning_subscribe : (s.subscribe now onTick onError).1.isRunning := by
  rw [fst_subscribe]
  rfl

end

/-- Ending a subscription takes its subscriber out, or else leaves a note. -/
theorem unsubscribe_eq (s : Scheduler ω) (id : Nat) :
    s.unsubscribe id = { s with
      subscribers := s.subscribers.filter (·.id ≠ id)
      removed := if ∀ sub ∈ s.subscribers, sub.id ≠ id then noteEnded s.removed id
        else s.removed } := by
  have nobody : (s.subscribers.filter (·.id ≠ id)).length = s.subscribers.length ↔
      ∀ sub ∈ s.subscribers, sub.id ≠ id := by
    simp
  unfold unsubscribe
  simp only [nobody]
  split
  next other => rw [List.filter_eq_self.mpr (by simpa using other)]
  next own => rfl

@[simp] theorem nextId_unsubscribe (s : Scheduler ω) (id : Nat) :
    (s.unsubscribe id).nextId = s.nextId := by
  rw [unsubscribe_eq]

@[simp] theorem expected_unsubscribe (s : Scheduler ω) (id : Nat) :
    (s.unsubscribe id).expected = s.expected := by
  rw [unsubscribe_eq]

theorem fst_halt (s : Scheduler ω) : s.halt.1 = { s with expected := none } := by
  unfold halt
  split
  next halted => rw [← halted]
  next => rfl

end Scheduler

/-! ## Rounds of callbacks -/

/-- Where a round of callbacks has got to. -/
structure Round (ω : Type) where
  /-- The world. -/
  world : ω
  /-- The ended subscriptions that are noted. -/
  removed : List Nat
  /-- The clock time the callbacks took. -/
  elapsed : Nat := 0
  /-- The events they caused. -/
  events : List Event := []

namespace Round

/-- A round after a callback. -/
def after (r : Round ω) (x : Reaction ω) : Round ω where
  world := x.world
  removed := x.ended.foldl noteEnded r.removed
  elapsed := r.elapsed + x.elapsed
  events := r.events ++ x.events

/-- A round of tick callbacks, up to the first that stops, and how it stopped. -/
def callTicks (r : Round ω) : List (Subscriber ω) → Round ω × Option Stop
  | [] => (r, none)
  | s :: rest =>
      let x := s.onTick r.world
      match x.stop with
      | none => callTicks (r.after x.toReaction) rest
      | some stop => (r.after x.toReaction, some stop)

/-- A round of error callbacks. -/
def callErrors (r : Round ω) (f : Fault) (subscribers : List (Subscriber ω)) : Round ω :=
  subscribers.foldl (fun r s => r.after (s.onError f r.world)) r

end Round

/-! ## Polling -/

namespace Session

/-- The session after a round of callbacks, with what the round leaves of the scheduler. -/
def afterRound (s : Session ω) (r : Round ω) (scheduler : Scheduler ω) : Session ω where
  scheduler
  now := s.now + r.elapsed
  world := r.world

/-- A due tick.  `late` is how late the next deadline has to make up for. -/
def fire (s : Session ω) (late : Nat) : Polled ω :=
  let active := s.scheduler.subscribers
  let called := Round.callTicks ⟨s.world, s.scheduler.removed, 0, []⟩ active
  let round := called.1
  let kept := active.filter (·.id ∉ round.removed)
  match called.2 with
  | none =>
      let scheduler := { s.scheduler with
        subscribers := kept
        removed := []
        ticks := s.scheduler.ticks + 1
        expected := some (s.now + (s.scheduler.interval - late)) }
      ⟨.ticked, s.afterRound round scheduler, round.events⟩
  | some (.fault f) =>
      let told := Round.callErrors { round with
        removed := []
        events := round.events ++ [.tickFailed f kept.length] } f kept
      let halted := { s.scheduler with subscribers := [], removed := told.removed }.halt
      ⟨.failed f, s.afterRound told halted.1, told.events ++ halted.2⟩
  | some .crash =>
      let scheduler := { s.scheduler with subscribers := [], removed := round.removed }
      ⟨.crashed, s.afterRound round scheduler, round.events⟩

/-- Fire a tick if one is due. -/
def poll (s : Session ω) : Polled ω :=
  match s.scheduler.expected with
  | none => ⟨.idle, s, []⟩
  | some expected =>
      if s.now < expected then ⟨.pending (expected - s.now), s, []⟩
      else
        let drift := s.now - expected
        let stalled := s.scheduler.interval < drift
        let events := if stalled then [.scheduleStalled drift] else []
        if s.scheduler.subscribers.isEmpty then
          let halted := s.scheduler.halt
          ⟨.idle, { s with scheduler := halted.1 }, events ++ halted.2⟩
        else
          let fired := s.fire (if stalled then 0 else drift)
          { fired with events := events ++ fired.events }

/-- The session some time later. -/
def advance (s : Session ω) (time : Nat) : Session ω := { s with now := s.now + time }

/-- Poll until the schedule halts, sleeping between deadlines.  Every poll takes one unit of fuel,
and without fuel there is no answer. -/
def run (fuel : Nat) (s : Session ω) (seen : List Event) : Option (Outcome (Session ω) Unit) :=
  match fuel with
  | 0 => none
  | fuel + 1 =>
      let polled := s.poll
      let seen := seen ++ polled.events
      match polled.tick with
      | .idle => some ⟨⟨.ok (), polled.session⟩, seen⟩
      | .pending wait => run fuel (polled.session.advance wait) seen
      | .ticked => run fuel polled.session seen
      | .failed f => some ⟨⟨.error (.fault f), polled.session⟩, seen⟩
      | .crashed => some ⟨⟨.error .crash, polled.session⟩, seen⟩

theorem poll_of_halted {s : Session ω} (h : s.scheduler.expected = none) :
    s.poll = ⟨.idle, s, []⟩ := by
  simp [poll, h]

theorem poll_of_early {s : Session ω} {expected : Nat} (h : s.scheduler.expected = some expected)
    (early : s.now < expected) : s.poll = ⟨.pending (expected - s.now), s, []⟩ := by
  simp [poll, h, early]

end Session

end Chip8
