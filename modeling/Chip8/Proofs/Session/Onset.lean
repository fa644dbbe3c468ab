import Chip8.Proofs.Session.Running

/-!
# The first wait of a subscriber

Who subscribes while nothing is scheduled is first called an interval later.  To have
nobody subscribed is not enough for that.  A failed tick halts the schedule, and so
does a due poll that finds nobody, but the end of the last subscription does not.  Who
subscribes before the next poll inherits the deadline that stands, however near it is
or how long past.

What stands is told by the log (`scheduled`), and so is when nothing does (`Rests`).
A subscriber never waits longer than an interval, and as long as that exactly when
nothing stands, or what stands is an interval away (`first_wait`).
-/

namespace Chip8

variable {ω : Type}

/-! ## The deadline that a log leaves -/

/-- Whether nothing is scheduled after a poll that came to this. -/
def Tick.halts : Tick → Bool
  | .idle | .failed _ => true
  | .pending _ | .ticked | .crashed => false

namespace Happening

/-- Whether nothing is scheduled after it, whatever was before. -/
def halts : Happening ω → Bool
  | .subscribed _ _ | .ended _ => false
  | .polled _ _ tick => tick.halts

/-- The deadline after it. -/
def reschedule (interval : Nat) (deadline : Option Nat) : Happening ω → Option Nat
  | .subscribed time _ => some (deadline.getD (time + interval))
  | .ended _ => deadline
  | .polled _ _ .idle | .polled _ _ (.failed _) => none
  | .polled _ _ (.pending _) | .polled _ _ .crashed => deadline
  | .polled time _ .ticked => deadline.map fun met =>
      if time ≤ met + interval then met + interval else time + interval

end Happening

/-- The deadline that a log leaves, none when nothing is scheduled. -/
def scheduled (interval : Nat) (log : List (Happening ω)) : Option Nat :=
  log.foldl (Happening.reschedule interval) none

/-- The schedule was halted, and nobody subscribed since. -/
def HaltedLast (log : List (Happening ω)) : Prop :=
  ∃ before happening after, log = before ++ happening :: after ∧ happening.halts = true ∧
    firstSubscribed after = none

/-- Nobody subscribed since the schedule was halted, or ever. -/
def Rests (log : List (Happening ω)) : Prop := firstSubscribed log = none ∨ HaltedLast log

theorem firstSubscribed_cons (first : Happening ω) (later : List (Happening ω)) :
    firstSubscribed (first :: later) = first.subscribedAt?.or (firstSubscribed later) := by
  cases first <;> rfl

theorem not_haltedLast_nil : ¬ HaltedLast ([] : List (Happening ω)) := by
  rintro ⟨before, happening, after, split, -⟩
  cases before <;> cases split

theorem haltedLast_cons {first : Happening ω} {later : List (Happening ω)} :
    HaltedLast (first :: later) ↔
      first.halts = true ∧ firstSubscribed later = none ∨ HaltedLast later := by
  constructor
  · rintro ⟨before, happening, after, split, halts, nobody⟩
    cases before with
    | nil =>
        cases split
        exact .inl ⟨halts, nobody⟩
    | cons first before =>
        cases split
        exact .inr ⟨before, happening, after, rfl, halts, nobody⟩
  · rintro (⟨halts, nobody⟩ | ⟨before, happening, after, rfl, halts, nobody⟩)
    · exact ⟨[], first, later, rfl, halts, nobody⟩
    · exact ⟨first :: before, happening, after, rfl, halts, nobody⟩

theorem foldl_reschedule_eq_none_iff {interval : Nat} {deadline : Option Nat}
    {log : List (Happening ω)} :
    log.foldl (Happening.reschedule interval) deadline = none ↔
      deadline = none ∧ firstSubscribed log = none ∨ HaltedLast log := by
  induction log generalizing deadline with
  | nil => simp [firstSubscribed, not_haltedLast_nil]
  | cons first later ih =>
      rw [List.foldl_cons, ih, haltedLast_cons]
      rw [firstSubscribed_cons]
      cases first with
      | subscribed time sub =>
          simp [Happening.reschedule, Happening.halts, Happening.subscribedAt?]
      | ended id =>
          simp [Happening.reschedule, Happening.halts, Happening.subscribedAt?]
      | polled time met tick =>
          cases tick with
          | idle | failed f =>
              -- What was scheduled before makes no difference any more.
              simp only [Happening.reschedule, Happening.halts, Tick.halts, true_and,
                Happening.subscribedAt?, Option.none_or]
              constructor
              · exact .inr
              · rintro (⟨-, nobody⟩ | either)
                · exact .inl nobody
                · exact either
          | pending wait | crashed | ticked =>
              simp [Happening.reschedule, Happening.halts, Tick.halts, Happening.subscribedAt?]

/-- A log leaves nothing scheduled exactly when the schedule rests. -/
theorem scheduled_eq_none_iff {interval : Nat} {log : List (Happening ω)} :
    scheduled interval log = none ↔ Rests log := by
  rw [scheduled, foldl_reschedule_eq_none_iff, Rests]
  simp

namespace Session

variable {x y z : Session ω} {log news later : List (Happening ω)} {id deadline : Nat}

theorem foldl_reschedule_ended (interval : Nat) (deadline : Option Nat) (ids : List Nat) :
    (ids.map (.ended : Nat → Happening ω)).foldl (Happening.reschedule interval) deadline =
      deadline := by
  induction ids with
  | nil => rfl
  | cons id ids ih => exact ih

/-- A poll changes the schedule by what it comes to. -/
theorem foldl_reschedule_happenings (x : Session ω) (interval : Nat) (deadline : Option Nat) :
    x.happenings.foldl (Happening.reschedule interval) deadline =
      Happening.reschedule interval deadline
        (.polled x.now x.scheduler.expected x.poll.tick : Happening ω) := by
  unfold happenings
  cases x.poll.tick <;> simp [foldl_reschedule_ended]

theorem expected_poll (x : Session ω) :
    x.poll.session.scheduler.expected =
      Happening.reschedule x.scheduler.interval x.scheduler.expected
        (.polled x.now x.scheduler.expected x.poll.tick : Happening ω) := by
  cases x.pollCase with
  | halted expected poll =>
      rw [poll]
      exact expected
  | early expected early poll =>
      rw [poll]
      rfl
  | deserted expected due nobody tick session =>
      rw [session, tick]
      rfl
  | ticked expected due someone done tick session =>
      rw [session, tick, expected]
      rfl
  | failed expected due split done stopped tick session =>
      rw [session, tick]
      rfl
  | crashed expected due split done stopped noted tick session =>
      rw [session, tick]
      rfl

theorem Step.expected (step : Step x news y) :
    y.scheduler.expected =
      news.foldl (Happening.reschedule x.scheduler.interval) x.scheduler.expected := by
  cases step with
  | subscribe onTick onError =>
      rw [Session.subscribe, Scheduler.fst_subscribe]
      rfl
  | unsubscribe issued => exact Scheduler.expected_unsubscribe _ _
  | advance time => rfl
  | visit world => rfl
  | poll issued => rw [expected_poll, foldl_reschedule_happenings]

theorem History.expected (history : x.History log y) :
    y.scheduler.expected =
      log.foldl (Happening.reschedule x.scheduler.interval) x.scheduler.expected := by
  induction history with
  | start => rfl
  | step history step ih => rw [step.expected, List.foldl_append, ← ih, history.interval]

/-! ## No deadline is far -/

/-- The deadline is at most an interval away. -/
def Near (x : Session ω) : Prop :=
  ∀ deadline, x.scheduler.expected = some deadline → deadline ≤ x.now + x.scheduler.interval

theorem Step.near (step : Step x news y) (near : x.Near) : y.Near := by
  have later := step.now_le
  intro deadline expected
  rw [step.interval]
  refine Nat.le_trans ?_ (Nat.add_le_add_right later _)
  cases step.turn with
  | kept same times ticks _ => exact near deadline (same.symm.trans expected)
  | started halted started times ticks =>
      rw [started] at expected
      exact Nat.le_of_eq (Option.some.inj expected).symm
  | halted running due halted polled stopped times ticks _ =>
      rw [halted] at expected
      cases expected
  | @ticked met running due next polled times ticks =>
      rw [next] at expected
      cases expected
      unfold following
      split
      next => exact Nat.add_le_add_right due _
      next => exact Nat.le_refl _

theorem History.near (history : x.History log y) (near : x.Near) : y.Near := by
  induction history with
  | start => exact near
  | step history step ih => exact step.near ih

/-! ## First ticks -/

/-- From a session on, the first tick of a subscription comes at a deadline: no poll before it calls
anyone, and the first poll from then on calls the subscribers, if the subscription stands. -/
structure FirstTickAt (y : Session ω) (id deadline : Nat) : Prop where
  early : ∀ {later : List (Happening ω)} {z : Session ω}, y.History later z → z.now < deadline →
    ∃ wait, z.poll = ⟨.pending wait, z, []⟩
  due : ∀ {later : List (Happening ω)} {z : Session ω}, y.History later z →
    PolledBefore deadline later → deadline ≤ z.now →
    (∃ sub ∈ z.scheduler.subscribers, sub.id = id) → z.poll.tick.fired = true

theorem fired_of_due (expected : x.scheduler.expected = some deadline) (due : deadline ≤ x.now)
    (someone : x.scheduler.subscribers ≠ []) : x.poll.tick.fired = true := by
  cases x.pollCase with
  | halted halted poll =>
      rw [halted] at expected
      cases expected
  | early other early poll =>
      cases expected.symm.trans other
      exact absurd due (Nat.not_le.mpr early)
  | deserted _ _ nobody tick session => exact absurd nobody someone
  | ticked _ _ _ done tick session =>
      rw [tick]
      rfl
  | failed _ _ split done stopped tick session =>
      rw [tick]
      rfl
  | crashed _ _ split done stopped noted tick session =>
      rw [tick]
      rfl

theorem firstTickAt_of_expected (expected : y.scheduler.expected = some deadline) :
    y.FirstTickAt id deadline where
  early history early :=
    ⟨_, poll_of_early (history.waiting expected (history.polledBefore early)).1 early⟩
  due history before due stands := by
    obtain ⟨sub, membership, -⟩ := stands
    exact fired_of_due (history.waiting expected before).1 due (List.ne_nil_of_mem membership)

/-- When the deadline is past, any other past time is as good. -/
theorem firstTickAt_of_past {left : Nat} (expected : y.scheduler.expected = some left)
    (past : left ≤ y.now) (le : deadline ≤ y.now) : y.FirstTickAt id deadline where
  early history early :=
    absurd (Nat.le_trans le history.now_le) (Nat.not_le.mpr early)
  due {later z} history before _ stands := by
    obtain ⟨sub, membership, -⟩ := stands
    have unpolled : PolledBefore left later := by
      intro time met tick polled
      have since := (history.time_between polled).1
      exact absurd (before time met tick polled) (Nat.not_lt.mpr (Nat.le_trans le since))
    exact fired_of_due (history.waiting expected unpolled).1 (Nat.le_trans past history.now_le)
      (List.ne_nil_of_mem membership)

/-- Two deadlines are told apart by the first tick, unless both are past. -/
theorem firstTickAt_iff {left : Nat} (expected : y.scheduler.expected = some left)
    (stands : ∃ sub ∈ y.scheduler.subscribers, sub.id = id) :
    y.FirstTickAt id deadline ↔ max left y.now = max deadline y.now := by
  constructor
  · intro first
    have someone : y.scheduler.subscribers ≠ [] := by
      obtain ⟨sub, membership, -⟩ := stands
      exact List.ne_nil_of_mem membership
    -- It is enough to let the clock move to the earlier of the two and poll there.
    have reach (time : Nat) : y.History [] (y.advance time) := .step .start (.advance time)
    apply Nat.le_antisymm
    · apply Nat.le_of_not_lt
      intro before
      let time := max deadline y.now - y.now
      have now : (y.advance time).now = max deadline y.now :=
        Nat.add_sub_cancel' (Nat.le_max_right _ _)
      have early : (y.advance time).now < left := by omega
      have fired := first.due (reach time) nofun (now ▸ Nat.le_max_left _ _) stands
      rw [poll_of_early (s := y.advance time) expected early] at fired
      cases fired
    · apply Nat.le_of_not_lt
      intro before
      let time := max left y.now - y.now
      have now : (y.advance time).now = max left y.now :=
        Nat.add_sub_cancel' (Nat.le_max_right _ _)
      obtain ⟨wait, pending⟩ := first.early (reach time) (by omega)
      have fired := fired_of_due (x := y.advance time) expected (now ▸ Nat.le_max_left _ _) someone
      rw [pending] at fired
      cases fired
  · intro same
    by_cases equal : left = deadline
    · rw [← equal]
      exact firstTickAt_of_expected expected
    · exact firstTickAt_of_past expected (by omega) (by omega)

/-! ## The first wait -/

/-- How long a new subscriber waits for its first tick. -/
structure FirstWait (interval : Nat) (log : List (Happening ω)) (x : Session ω)
    (onTick : ω → TickReaction ω) (onError : Fault → ω → Reaction ω) : Prop where
  /-- Its first tick comes at the deadline that the log leaves, or else an interval from now. -/
  comes : (x.subscribe onTick onError).FirstTickAt x.scheduler.nextId
    ((scheduled interval log).getD (x.now + interval))
  /-- It never waits longer than an interval. -/
  soon : (scheduled interval log).getD (x.now + interval) ≤ x.now + interval
  /-- It waits for a whole interval exactly when nothing is scheduled, or just that. -/
  whole_iff : (x.subscribe onTick onError).FirstTickAt x.scheduler.nextId (x.now + interval) ↔
    interval = 0 ∨ Rests log ∨ scheduled interval log = some (x.now + interval)

/-- Whoever subscribes waits for a whole interval exactly when no earlier deadline stands, be there
other subscribers or not. -/
theorem first_wait {interval now : Nat} {world : ω}
    (history : (Session.new interval now world).History log x) (onTick : ω → TickReaction ω)
    (onError : Fault → ω → Reaction ω) : FirstWait interval log x onTick onError := by
  have left : x.scheduler.expected = scheduled interval log := history.expected
  have same : x.scheduler.interval = interval := history.interval
  have near := history.near (fun _ expected => nomatch expected)
  have expected : (x.subscribe onTick onError).scheduler.expected =
      some ((scheduled interval log).getD (x.now + interval)) := by
    rw [Session.subscribe, Scheduler.fst_subscribe, left, same]
  have soon : (scheduled interval log).getD (x.now + interval) ≤ x.now + interval := by
    cases stands : scheduled interval log with
    | none => exact Nat.le_refl _
    | some deadline =>
        have bound := near deadline (left.trans stands)
        rw [same] at bound
        exact bound
  refine ⟨firstTickAt_of_expected expected, soon, ?_⟩
  have joined : ∃ sub ∈ (x.subscribe onTick onError).scheduler.subscribers,
      sub.id = x.scheduler.nextId := by
    rw [Session.subscribe, Scheduler.subscribers_subscribe]
    exact ⟨_, List.mem_concat_self, rfl⟩
  rw [firstTickAt_iff expected joined, ← scheduled_eq_none_iff]
  change max _ x.now = max _ x.now ↔ _
  cases stands : scheduled interval log with
  | none => simp
  | some deadline =>
      rw [stands] at soon
      simp only [Option.getD_some, reduceCtorEq, Option.some.injEq, false_or] at soon ⊢
      omega

/-! ## A session that was left without a poll -/

/-- The session with a subscriber that counts. -/
def withCounter (x : Session Nat) : Session Nat :=
  x.subscribe (counting 0) fun _ count => { world := count }

/-- The only subscriber left at once, and 70 of its 100 have gone by. -/
def leftAlone : Session Nat := ((new 100 0 0).withCounter.unsubscribe 0).advance 70

def leftAloneLog : List (Happening Nat) :=
  [.subscribed 0 ⟨0, counting 0, fun _ count => { world := count }⟩, .ended 0]

theorem history_leftAlone : (new 100 0 0).History leftAloneLog leftAlone := by
  refine .step (.step (.step .start (.subscribe _ _)) (.unsubscribe ?_)) (.advance 70)
  decide

/-- To come when nobody is there is not enough to wait for a whole interval. -/
theorem wait_cut_short :
    ¬ ∀ (interval now world : Nat) (log : List (Happening Nat)) (x : Session Nat),
        (new interval now world).History log x → x.scheduler.subscribers = [] →
        ∀ (onTick : Nat → TickReaction Nat) (onError : Fault → Nat → Reaction Nat),
        (x.subscribe onTick onError).FirstTickAt x.scheduler.nextId (x.now + interval) := by
  intro whole
  have first : leftAlone.withCounter.FirstTickAt 1 170 :=
    whole _ _ _ _ _ history_leftAlone rfl _ _
  obtain ⟨wait, pending⟩ := first.early (.step .start (.advance 30)) (by decide)
  have called : (leftAlone.withCounter.advance 30).poll.tick = .ticked := rfl
  rw [pending] at called
  cases called

/-- The next subscriber has 30 to wait, or 100 after a poll that finds nobody. -/
theorem rest_of_the_wait :
    leftAlone.withCounter.FirstTickAt 1 100 ∧ ¬ leftAlone.withCounter.FirstTickAt 1 170 ∧
      (leftAlone.advance 40).poll.session.withCounter.FirstTickAt 1 210 := by
  have inherited := first_wait history_leftAlone (counting 0) fun _ count => { world := count }
  have found := first_wait (.step (.step history_leftAlone (.advance 40))
    (.poll (issued_of_quiet rfl))) (counting 0) fun _ count => { world := count }
  refine ⟨inherited.comes, ?_, found.comes⟩
  intro whole
  rcases inherited.whole_iff.mp whole with zero | rests | same
  · cases zero
  · have unscheduled : scheduled 100 leftAloneLog = none := scheduled_eq_none_iff.mpr rests
    cases unscheduled
  · cases same

end Session

end Chip8
