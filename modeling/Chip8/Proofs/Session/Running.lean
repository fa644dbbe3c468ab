import Chip8.Proofs.Session.Schedule

/-!
# Running and halted

Whether a tick is scheduled and who is subscribed are kept apart, and are changed by
different things: the end of a subscription never touches the schedule, and a poll
that halts it never asks who may come.  Still nobody is stranded (`none_stranded`).
While someone is subscribed a tick is scheduled, and a schedule that goes on with
nobody is wound up by the first poll that meets its deadline.

A deadline stands until a poll meets it, whatever else is done (`History.waiting`).
-/

namespace Chip8.Session

variable {ω : Type} {x y : Session ω} {log news : List (Happening ω)} {deadline : Nat}

/-! ## The clock -/

theorem now_le_poll (x : Session ω) : x.now ≤ x.poll.session.now := by
  cases x.pollCase with
  | halted expected poll => exact Nat.le_of_eq (by rw [poll])
  | early expected early poll => exact Nat.le_of_eq (by rw [poll])
  | deserted expected due nobody tick session => exact Nat.le_of_eq (by rw [session])
  | ticked expected due someone done tick session =>
      rw [session]
      exact Nat.le_add_right _ _
  | failed expected due split done stopped tick session =>
      rw [session]
      exact Nat.le_trans (Nat.le_add_right _ _) (Nat.le_add_right _ _)
  | crashed expected due split done stopped noted tick session =>
      rw [session]
      exact Nat.le_add_right _ _

theorem Step.now_le (step : Step x news y) : x.now ≤ y.now := by
  cases step with
  | subscribe onTick onError => exact Nat.le_refl _
  | unsubscribe issued => exact Nat.le_refl _
  | advance time => exact Nat.le_add_right _ _
  | visit world => exact Nat.le_refl _
  | poll issued => exact x.now_le_poll

theorem History.now_le (history : x.History log y) : x.now ≤ y.now := by
  induction history with
  | start => exact Nat.le_refl _
  | step history step ih => exact Nat.le_trans ih step.now_le

/-- The poll of a step begins when the step does. -/
theorem Step.time_eq (step : Step x news y) {time : Nat} {met : Option Nat} {tick : Tick}
    (polled : .polled time met tick ∈ news) : time = x.now := by
  cases step with
  | subscribe onTick onError => simp at polled
  | unsubscribe issued => simp at polled
  | advance time => cases polled
  | visit world => cases polled
  | poll issued => exact (polled_mem_happenings_iff.mp polled).1

theorem History.time_between (history : x.History log y) {time : Nat} {met : Option Nat}
    {tick : Tick} (polled : .polled time met tick ∈ log) : x.now ≤ time ∧ time ≤ y.now := by
  induction history with
  | start => cases polled
  | step history step ih =>
      rcases List.mem_append.mp polled with old | new
      · obtain ⟨after, before⟩ := ih old
        exact ⟨after, Nat.le_trans before step.now_le⟩
      · rw [step.time_eq new]
        exact ⟨history.now_le, step.now_le⟩

/-! ## A deadline that no poll has met -/

/-- Every poll of a log began before a time. -/
def PolledBefore (deadline : Nat) (log : List (Happening ω)) : Prop :=
  ∀ time met tick, .polled time met tick ∈ log → time < deadline

theorem PolledBefore.of_subset (before : PolledBefore deadline log) (fewer : news ⊆ log) :
    PolledBefore deadline news :=
  fun time met tick polled => before time met tick (fewer polled)

theorem History.polledBefore (history : x.History log y) (early : y.now < deadline) :
    PolledBefore deadline log := by
  intro time met tick polled
  exact Nat.lt_of_le_of_lt (history.time_between polled).2 early

theorem Step.waiting (step : Step x news y) (expected : x.scheduler.expected = some deadline)
    (before : PolledBefore deadline news) :
    y.scheduler.expected = some deadline ∧ y.scheduler.ticks = x.scheduler.ticks := by
  -- A step that ends the wait for a deadline has polled when it was due.
  have unmet {met : Nat} {tick : Tick} (running : x.scheduler.expected = some met)
      (polled : .polled x.now (some met) tick ∈ news) : ¬ met ≤ x.now := by
    obtain rfl : met = deadline := Option.some.inj (running.symm.trans expected)
    exact Nat.not_le.mpr (before _ _ _ polled)
  cases step.turn with
  | kept same times ticks later => exact ⟨same.trans expected, ticks⟩
  | started halted started times ticks =>
      rw [halted] at expected
      cases expected
  | halted running due halted polled stopped times ticks later =>
      exact absurd due (unmet running polled)
  | ticked running due next polled times ticks => exact absurd due (unmet running polled)

/-- A deadline stands until a poll meets it, and there is no tick before. -/
theorem History.waiting (history : x.History log y)
    (expected : x.scheduler.expected = some deadline) (before : PolledBefore deadline log) :
    y.scheduler.expected = some deadline ∧ y.scheduler.ticks = x.scheduler.ticks := by
  induction history with
  | start => exact ⟨expected, rfl⟩
  | @step log news y z history step ih =>
      obtain ⟨still, ticks⟩ := ih (before.of_subset (List.subset_append_left _ _))
      obtain ⟨after, none⟩ :=
        step.waiting still (before.of_subset (List.subset_append_right log news))
      exact ⟨after, none.trans ticks⟩

/-! ## Someone and nobody -/

theorem nobody_unsubscribe {s : Scheduler ω} (nobody : s.subscribers = []) (id : Nat) :
    (s.unsubscribe id).subscribers = [] := by
  rw [Scheduler.unsubscribe_eq, nobody]
  rfl

theorem Step.nobody (step : Step x news y) (nobody : x.scheduler.subscribers = [])
    (unsubscribed : firstSubscribed news = none) : y.scheduler.subscribers = [] := by
  cases step with
  | subscribe onTick onError => cases unsubscribed
  | unsubscribe issued => exact nobody_unsubscribe nobody _
  | advance time => exact nobody
  | visit world => exact nobody
  | poll issued => exact (poll_of_nobody nobody).2.1

theorem History.nobody (history : x.History log y) (nobody : x.scheduler.subscribers = [])
    (unsubscribed : firstSubscribed log = none) : y.scheduler.subscribers = [] := by
  induction history with
  | start => exact nobody
  | step history step ih =>
      rw [firstSubscribed_append, Option.or_eq_none_iff] at unsubscribed
      exact step.nobody (ih unsubscribed.1) unsubscribed.2

/-- When nothing is scheduled, nobody waits for it. -/
def Attended (x : Session ω) : Prop :=
  x.scheduler.expected = none → x.scheduler.subscribers = []

theorem attended_poll (attended : x.Attended) : x.poll.session.Attended := by
  cases x.pollCase with
  | halted expected poll =>
      rw [poll]
      exact attended
  | early expected early poll =>
      rw [poll]
      exact attended
  | deserted expected due nobody tick session =>
      rw [session]
      exact fun _ => nobody
  | ticked expected due someone done tick session =>
      rw [session]
      exact nofun
  | failed expected due split done stopped tick session =>
      rw [session]
      exact fun _ => rfl
  | crashed expected due split done stopped noted tick session =>
      rw [session]
      exact fun _ => rfl

theorem Step.attended (step : Step x news y) (attended : x.Attended) : y.Attended := by
  cases step with
  | subscribe onTick onError =>
      intro halted
      rw [Session.subscribe, Scheduler.fst_subscribe] at halted
      cases halted
  | unsubscribe issued =>
      intro halted
      rw [Session.unsubscribe, Scheduler.expected_unsubscribe] at halted
      exact nobody_unsubscribe (attended halted) _
  | advance time => exact attended
  | visit world => exact attended
  | poll issued => exact attended_poll attended

theorem History.attended (history : x.History log y) (attended : x.Attended) : y.Attended := by
  induction history with
  | start => exact attended
  | step history step ih => exact step.attended ih

/-! ## Nobody is stranded -/

/-- A schedule that goes on with nobody to call, as long as nobody subscribes. -/
structure RunsOut (x : Session ω) (deadline : Nat) : Prop where
  /-- A poll before the deadline changes nothing. -/
  pending : ∀ {later : List (Happening ω)} {y : Session ω}, x.History later y →
    firstSubscribed later = none → y.now < deadline →
    y.poll = ⟨.pending (deadline - y.now), y, []⟩
  /-- The first poll from the deadline on halts the schedule and changes nothing else. -/
  halts : ∀ {later : List (Happening ω)} {y : Session ω}, x.History later y →
    firstSubscribed later = none → PolledBefore deadline later → deadline ≤ y.now →
    y.poll.tick = .idle ∧
      y.poll.session = { y with scheduler := { y.scheduler with expected := none } } ∧
      y.poll.session.scheduler.ticks = x.scheduler.ticks

/-- The schedule of a session is there for its subscribers. -/
structure NoneStranded (x : Session ω) : Prop where
  /-- While someone is subscribed a tick is scheduled. -/
  running : x.scheduler.subscribers ≠ [] → x.scheduler.isRunning ∧
    ∃ deadline, x.scheduler.expected = some deadline ∧
      x.scheduler.nextDeadline x.now = some (deadline - x.now)
  /-- Nothing comes of a poll while nothing is scheduled. -/
  idle : x.scheduler.isRunning = false → x.poll = ⟨.idle, x, []⟩
  /-- A schedule without subscribers ends at its deadline. -/
  deserted : ∀ {deadline : Nat}, x.scheduler.expected = some deadline →
    x.scheduler.subscribers = [] → x.RunsOut deadline

theorem runsOut_of_nobody (expected : x.scheduler.expected = some deadline)
    (nobody : x.scheduler.subscribers = []) : x.RunsOut deadline where
  pending history _ early :=
    poll_of_early (history.waiting expected (history.polledBefore early)).1 early
  halts history unsubscribed before due := by
    obtain ⟨still, ticks⟩ := history.waiting expected before
    obtain ⟨tick, session⟩ := poll_of_deserted still due (history.nobody nobody unsubscribed)
    refine ⟨tick, session, ?_⟩
    rw [session]
    exact ticks

/-- Between any two uses of a session nobody waits for a tick that is not scheduled, and nothing
stays scheduled for nobody. -/
theorem none_stranded {interval now : Nat} {world : ω}
    (history : (Session.new interval now world).History log x) : NoneStranded x where
  running someone := by
    cases expected : x.scheduler.expected with
    | none => exact absurd (history.attended (fun _ => rfl) expected) someone
    | some deadline =>
        refine ⟨by rw [Scheduler.isRunning, expected]; rfl, deadline, rfl, ?_⟩
        rw [Scheduler.nextDeadline, expected]
        rfl
  idle halted := by
    rw [Scheduler.isRunning, Option.isSome_eq_false_iff, Option.isNone_iff_eq_none] at halted
    exact poll_of_halted halted
  deserted := runsOut_of_nobody

/-! ## A session that everyone left -/

/-- A subscriber that leaves in its first tick, at that tick. -/
def parting : Session (List Nat) := ((new 10 0 []).subscribe (writing 0 [0]) ignoring).advance 12

theorem history_parting : ∃ log, (new 10 0 []).History log parting.poll.session := by
  have issued : parting.Issued := by
    have happened : parting.happenings = [.ended 0, .polled 12 (some 10) .ticked] := rfl
    intro id membership
    rw [happened] at membership
    have same : id = 0 := by simpa using membership
    rw [same]
    decide
  exact ⟨_, .step (.step (.step .start (.subscribe _ _)) (.advance 12)) (.poll issued)⟩

theorem parting_runs_out :
    let left := parting.poll.session
    left.scheduler.isRunning ∧ (left.advance 5).poll = ⟨.pending 3, left.advance 5, []⟩ ∧
      (left.advance 9).poll.tick = .idle ∧
      (left.advance 9).poll.session.scheduler.ticks = 1 := by
  obtain ⟨log, history⟩ := history_parting
  have out : parting.poll.session.RunsOut 20 := (none_stranded history).deserted rfl rfl
  obtain ⟨tick, -, ticks⟩ := out.halts (.step .start (.advance 9)) rfl nofun (by decide)
  exact ⟨rfl, out.pending (.step .start (.advance 5)) rfl (by decide), tick, ticks⟩

end Chip8.Session
