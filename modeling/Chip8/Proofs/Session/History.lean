import Chip8.Proofs.Session.Polling

/-!
# Histories

A session is used by subscribing, by ending subscriptions, by letting the clock move
on, by changing the world from outside, and by polling, in any order and any number of
times.  `History` relates a session to those it can come to, with a log of what
happened on the way.

A subscription can be ended from anywhere: between polls, by a tick callback and by an
error callback.  Whoever ends one holds its handle, and only subscribing gives out
handles, so an ended subscription was made before.  Nothing else is asked of the
callbacks.

What users can rely on is stated on the log alone: who is registered (`registered`),
when ticks were done (`tickTimes`) and when someone subscribed first
(`firstSubscribed`).
-/

namespace Chip8

variable {ω : Type}

/-! ## Logs -/

/-- Something that happened to a session. -/
inductive Happening (ω : Type) where
  /-- Someone subscribed at a time. -/
  | subscribed (time : Nat) (sub : Subscriber ω)
  /-- A subscription was ended. -/
  | ended (id : Nat)
  /-- A poll that began at a time, with the deadline that was set, came to something. -/
  | polled (time : Nat) (deadline : Option Nat) (tick : Tick)

namespace Happening

/-- Whether it takes a subscription out: its own end, or a tick that broke and dropped everyone. -/
def removes (id : Nat) : Happening ω → Bool
  | .subscribed _ _ => false
  | .ended other => other = id
  | .polled _ _ tick => tick.broke

/-- The time at which someone subscribed. -/
def subscribedAt? : Happening ω → Option Nat
  | .subscribed time _ => some time
  | .ended _ | .polled _ _ _ => none

/-- The time at which the poll of a tick that was done began. -/
def tickedAt? : Happening ω → Option Nat
  | .polled time _ .ticked => some time
  | .subscribed _ _ | .ended _ | .polled _ _ _ => none

end Happening

/-- Those who subscribed and were not taken out since, in the order in which they subscribed. -/
def registered : List (Happening ω) → List (Subscriber ω)
  | [] => []
  | .subscribed _ sub :: later =>
      if later.any (·.removes sub.id) then registered later else sub :: registered later
  | .ended _ :: later | .polled _ _ _ :: later => registered later

/-- When the polls began whose ticks were done. -/
def tickTimes (log : List (Happening ω)) : List Nat := log.filterMap Happening.tickedAt?

/-- When someone subscribed first. -/
def firstSubscribed (log : List (Happening ω)) : Option Nat :=
  log.findSome? Happening.subscribedAt?

theorem registered_append (log news : List (Happening ω)) :
    registered (log ++ news) =
      (registered log).filter (fun sub => !news.any (·.removes sub.id)) ++ registered news := by
  induction log with
  | nil => rfl
  | cons first later ih =>
      cases first with
      | subscribed time sub =>
          simp only [List.cons_append, registered, List.any_append, ih]
          cases later.any (·.removes sub.id) with
          | true => simp
          | false => cases removed : news.any (·.removes sub.id) <;> simp [removed]
      | ended id => exact ih
      | polled time deadline tick => exact ih

theorem registered_concat (log : List (Happening ω)) (time : Nat) (sub : Subscriber ω) :
    registered (log ++ [.subscribed time sub]) = registered log ++ [sub] := by
  rw [registered_append]
  exact congrArg (· ++ [sub]) (List.filter_eq_self.mpr fun _ _ => rfl)

/-- Someone subscribed and was not taken out since. -/
def Stands (log : List (Happening ω)) (sub : Subscriber ω) : Prop :=
  ∃ before time after, log = before ++ .subscribed time sub :: after ∧
    ∀ happening ∈ after, happening.removes sub.id = false

theorem Stands.cons {log : List (Happening ω)} {sub : Subscriber ω} (stands : Stands log sub)
    (first : Happening ω) : Stands (first :: log) sub := by
  obtain ⟨before, time, after, split, kept⟩ := stands
  exact ⟨first :: before, time, after, congrArg (first :: ·) split, kept⟩

theorem mem_registered_iff {log : List (Happening ω)} {sub : Subscriber ω} :
    sub ∈ registered log ↔ Stands log sub := by
  constructor
  · intro membership
    induction log with
    | nil => cases membership
    | cons first later ih =>
        cases first with
        | subscribed time other =>
            rw [registered] at membership
            split at membership
            next => exact (ih membership).cons _
            next removed =>
              rcases List.mem_cons.mp membership with same | found
              · subst same
                exact ⟨[], time, later, rfl, by simpa using removed⟩
              · exact (ih found).cons _
        | ended id => exact (ih membership).cons _
        | polled time deadline tick => exact (ih membership).cons _
  · rintro ⟨before, time, after, rfl, kept⟩
    rw [registered_append, registered, if_neg (by simpa using kept)]
    exact List.mem_append_right _ List.mem_cons_self

theorem registered_of_nobody {log : List (Happening ω)} (nobody : firstSubscribed log = none) :
    registered log = [] := by
  induction log with
  | nil => rfl
  | cons first later ih =>
      cases first with
      | subscribed time sub => cases nobody
      | ended id => exact ih nobody
      | polled time deadline tick => exact ih nobody

theorem firstSubscribed_append (log news : List (Happening ω)) :
    firstSubscribed (log ++ news) = (firstSubscribed log).or (firstSubscribed news) :=
  List.findSome?_append

theorem tickTimes_append (log news : List (Happening ω)) :
    tickTimes (log ++ news) = tickTimes log ++ tickTimes news :=
  List.filterMap_append

/-! ## Using a session -/

namespace Session

variable {x y z : Session ω} {log news : List (Happening ω)}

/-- A session with nobody subscribed yet. -/
def new (interval now : Nat) (world : ω) : Session ω := ⟨{ interval }, now, world⟩

/-- The session with another subscriber. -/
def subscribe (x : Session ω) (onTick : ω → TickReaction ω) (onError : Fault → ω → Reaction ω) :
    Session ω :=
  { x with scheduler := (x.scheduler.subscribe x.now onTick onError).1 }

/-- The session after a subscription was ended between polls. -/
def unsubscribe (x : Session ω) (id : Nat) : Session ω :=
  { x with scheduler := x.scheduler.unsubscribe id }

/-- What happens in a poll.  The notes a failed tick leaves are those of its error callbacks. -/
def happenings (x : Session ω) : List (Happening ω) :=
  let polled := .polled x.now x.scheduler.expected x.poll.tick
  match x.poll.tick with
  | .idle | .pending _ => [polled]
  | .ticked | .crashed => x.endedByTicks.map .ended ++ [polled]
  | .failed _ =>
      x.endedByTicks.map .ended ++ polled :: x.poll.session.scheduler.removed.map .ended

/-- The callbacks of a poll end only subscriptions that were made. -/
def Issued (x : Session ω) : Prop := ∀ id, .ended id ∈ x.happenings → id < x.scheduler.nextId

/-- A single use of a session, with what happens in it. -/
inductive Step (x : Session ω) : List (Happening ω) → Session ω → Prop where
  | subscribe (onTick : ω → TickReaction ω) (onError : Fault → ω → Reaction ω) :
      Step x [.subscribed x.now ⟨x.scheduler.nextId, onTick, onError⟩] (x.subscribe onTick onError)
  | unsubscribe {id : Nat} (issued : id < x.scheduler.nextId) :
      Step x [.ended id] (x.unsubscribe id)
  | advance (time : Nat) : Step x [] (x.advance time)
  | visit (world : ω) : Step x [] { x with world }
  | poll (issued : x.Issued) : Step x x.happenings x.poll.session

/-- The sessions that a session can come to, with what happened on the way. -/
inductive History (x : Session ω) : List (Happening ω) → Session ω → Prop where
  | start : History x [] x
  | step {log news : List (Happening ω)} {y z : Session ω} (history : History x log y)
      (step : Step y news z) : History x (log ++ news) z

/-- The schedule starts with the first to subscribe. -/
theorem expected_subscribe_of_halted (halted : x.scheduler.expected = none)
    (onTick : ω → TickReaction ω) (onError : Fault → ω → Reaction ω) :
    (x.subscribe onTick onError).scheduler.expected = some (x.now + x.scheduler.interval) := by
  rw [Session.subscribe, Scheduler.fst_subscribe, halted]
  rfl

/-! ### What happens in a poll -/

theorem polled_mem_happenings_iff {time : Nat} {deadline : Option Nat} {tick : Tick} :
    .polled time deadline tick ∈ x.happenings ↔
      time = x.now ∧ deadline = x.scheduler.expected ∧ tick = x.poll.tick := by
  unfold happenings
  cases x.poll.tick <;> simp

theorem tickTimes_happenings :
    tickTimes x.happenings = if x.poll.tick = .ticked then [x.now] else [] := by
  unfold happenings tickTimes
  cases x.poll.tick <;> simp [Happening.tickedAt?]

theorem firstSubscribed_happenings : firstSubscribed x.happenings = none := by
  unfold happenings firstSubscribed
  cases x.poll.tick <;> simp [Happening.subscribedAt?]

/-- A poll in which no subscription is ended needs no handle. -/
theorem issued_of_quiet {time : Nat} {deadline : Option Nat} {tick : Tick}
    (quiet : x.happenings = [.polled time deadline tick]) : x.Issued := by
  intro id membership
  rw [quiet] at membership
  cases List.mem_singleton.mp membership

/-! ### What a history keeps -/

theorem Step.interval (step : Step x news y) : y.scheduler.interval = x.scheduler.interval := by
  cases step with
  | subscribe onTick onError => rw [Session.subscribe, Scheduler.fst_subscribe]
  | unsubscribe issued => rw [Session.unsubscribe, Scheduler.unsubscribe_eq]
  | advance time => rfl
  | visit world => rfl
  | poll issued => exact interval_poll

theorem Step.halted (step : Step x news y) (halted : x.scheduler.expected = none)
    (nobody : firstSubscribed news = none) : y.scheduler.expected = none := by
  cases step with
  | subscribe onTick onError => cases nobody
  | unsubscribe issued => exact (Scheduler.expected_unsubscribe _ _).trans halted
  | advance time => exact halted
  | visit world => exact halted
  | poll issued =>
      rw [poll_of_halted halted]
      exact halted

/-- Nothing is scheduled before someone subscribes. -/
theorem History.halted (history : History x log y) (halted : x.scheduler.expected = none)
    (nobody : firstSubscribed log = none) : y.scheduler.expected = none := by
  induction history with
  | start => exact halted
  | step history step ih =>
      rw [firstSubscribed_append, Option.or_eq_none_iff] at nobody
      exact step.halted (ih nobody.1) nobody.2

theorem History.interval (history : History x log y) :
    y.scheduler.interval = x.scheduler.interval := by
  induction history with
  | start => rfl
  | step history step ih => rw [step.interval, ih]

end Session

end Chip8
