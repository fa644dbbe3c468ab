import Chip8.Proofs.Session.Schedule

/-!
# The pace of ticks

Ticks that were missed are not made up for.  Whatever is done to a session, the ticks
until some time are at most as many as there were intervals since the first
subscription, and those of any window at most two more than there are intervals in it
(`no_burst`).

Two may come at one instant.  A tick exactly an interval late meets its deadline when
the next one is due.

The bounds are those of times that are `Paced`: there is always an earliest time for
the next tick, and with each tick it moves on by an interval or more, and at least to
the tick itself.
-/

namespace Chip8

/-! ## Paced times -/

/-- Times that begin no earlier than the first number and leave the next no earlier than the second.
-/
inductive Paced (interval : Nat) : Nat → List Nat → Nat → Prop where
  | rest {earliest next : Nat} (le : earliest ≤ next) : Paced interval earliest [] next
  | tick {earliest time next last : Nat} {times : List Nat} (due : earliest ≤ time)
      (after : time ≤ next) (apart : earliest + interval ≤ next)
      (later : Paced interval next times last) : Paced interval earliest (time :: times) last

namespace Paced

variable {interval earliest start next last : Nat} {times later : List Nat}

theorem of_le (le : earliest ≤ start) (paced : Paced interval start times next) :
    Paced interval earliest times next := by
  cases paced with
  | rest le' => exact .rest (Nat.le_trans le le')
  | tick due after apart later =>
      exact .tick (Nat.le_trans le due) after
        (Nat.le_trans (Nat.add_le_add_right le interval) apart) later

theorem append (first : Paced interval earliest times next)
    (second : Paced interval next later last) : Paced interval earliest (times ++ later) last := by
  induction first with
  | rest le => exact second.of_le le
  | tick due after apart later ih => exact .tick due after apart (ih second)

/-- So many times until `t` take that many intervals but one. -/
theorem le_of_countP_eq (paced : Paced interval earliest times next) {t n : Nat}
    (count : times.countP (· ≤ t) = n + 1) : earliest + n * interval ≤ t := by
  induction paced generalizing n with
  | rest le => cases count
  | @tick earliest time next last times due after apart later ih =>
      by_cases within : time ≤ t
      · rw [List.countP_cons_of_pos (by simpa using within), Nat.add_right_cancel_iff] at count
        cases n with
        | zero =>
            rw [Nat.zero_mul]
            exact Nat.le_trans due within
        | succ n =>
            have bound := ih count
            rw [Nat.succ_mul]
            omega
      · rw [List.countP_cons_of_neg (by simpa using within)] at count
        have bound := ih count
        omega

theorem countP_le (paced : Paced interval (start + interval) times next) (positive : 0 < interval)
    (t : Nat) : times.countP (· ≤ t) ≤ (t - start) / interval := by
  cases count : times.countP (· ≤ t) with
  | zero => exact Nat.zero_le _
  | succ n =>
      have bound := paced.le_of_countP_eq count
      rw [Nat.le_div_iff_mul_le positive, Nat.succ_mul]
      omega

theorem countP_le_of_until (paced : Paced interval earliest times next) (positive : 0 < interval)
    {first length : Nat} (le : first ≤ earliest) :
    times.countP (· ≤ first + length) ≤ length / interval + 1 := by
  cases count : times.countP (· ≤ first + length) with
  | zero => exact Nat.zero_le _
  | succ n =>
      have bound := paced.le_of_countP_eq count
      apply Nat.succ_le_succ
      rw [Nat.le_div_iff_mul_le positive]
      omega

/-- A window has one time that opens it, and the others are paced from there. -/
theorem countP_window_le (paced : Paced interval earliest times next) (positive : 0 < interval)
    (first length : Nat) :
    times.countP (fun time => first ≤ time ∧ time ≤ first + length) ≤ length / interval + 2 := by
  induction paced with
  | rest le => exact Nat.zero_le _
  | @tick earliest time next last times due after apart later ih =>
      by_cases opens : first ≤ time ∧ time ≤ first + length
      · rw [List.countP_cons_of_pos (by simpa using opens)]
        apply Nat.succ_le_succ
        have before : times.countP (fun time => first ≤ time ∧ time ≤ first + length) ≤
            times.countP (· ≤ first + length) := by
          apply List.countP_mono_left
          intro time _ within
          exact decide_eq_true (of_decide_eq_true within).2
        exact Nat.le_trans before
          (later.countP_le_of_until positive (Nat.le_trans opens.1 after))
      · rw [List.countP_cons_of_neg (by simpa using opens)]
        exact ih

theorem count_le_two (paced : Paced interval earliest times next) (positive : 0 < interval)
    (t : Nat) : times.count t ≤ 2 := by
  have window := paced.countP_window_le positive t 0
  rw [Nat.zero_div, Nat.zero_add] at window
  refine Nat.le_trans (List.countP_mono_left ?_) window
  intro time _ same
  rw [eq_of_beq same]
  simp

end Paced

namespace Session

variable {ω : Type} {x y : Session ω} {log news : List (Happening ω)} {start : Nat}

/-! ## The pace of a session -/

/-- Before this no tick is done. -/
def earliest (x : Session ω) : Nat := x.scheduler.expected.getD (x.now + x.scheduler.interval)

theorem now_le_following (deadline : Nat) : x.now ≤ x.following deadline := by
  unfold following
  split
  next punctual => exact punctual
  next => exact Nat.le_add_right _ _

theorem add_interval_le_following {deadline : Nat} (due : deadline ≤ x.now) :
    deadline + x.scheduler.interval ≤ x.following deadline := by
  unfold following
  split
  next => exact Nat.le_refl _
  next => exact Nat.add_le_add_right due _

theorem Step.paced (step : Step x news y) :
    Paced x.scheduler.interval x.earliest (tickTimes news) y.earliest := by
  unfold earliest
  rw [step.interval]
  cases step.turn with
  | kept expected times ticks later =>
      rw [times, expected]
      apply Paced.rest
      cases x.scheduler.expected with
      | none => exact Nat.add_le_add_right later _
      | some deadline => exact Nat.le_refl _
  | started halted expected times ticks =>
      rw [times, halted, expected]
      exact .rest (Nat.le_refl _)
  | halted running due expected polled stopped times ticks later =>
      rw [times, running, expected]
      exact .rest (Nat.le_add_right_of_le (Nat.le_trans due later))
  | @ticked deadline running due expected polled times ticks =>
      rw [times, running, expected]
      exact .tick due (now_le_following deadline) (add_interval_le_following due)
        (.rest (Nat.le_refl _))

theorem History.paced (history : x.History log y) :
    Paced x.scheduler.interval x.earliest (tickTimes log) y.earliest := by
  induction history with
  | start => exact .rest (Nat.le_refl _)
  | @step log news y z history step ih =>
      have last := step.paced
      rw [history.interval] at last
      rw [tickTimes_append]
      exact ih.append last

theorem Step.ticks (step : Step x news y) :
    y.scheduler.ticks = x.scheduler.ticks + (tickTimes news).length := by
  cases step.turn with
  | kept expected times ticks later => rw [times, ticks]; rfl
  | started halted expected times ticks => rw [times, ticks]; rfl
  | halted running due expected polled stopped times ticks later => rw [times, ticks]; rfl
  | ticked running due expected polled times ticks => rw [times, ticks]; rfl

theorem History.ticks (history : x.History log y) :
    y.scheduler.ticks = x.scheduler.ticks + (tickTimes log).length := by
  induction history with
  | start => rfl
  | step history step ih =>
      rw [step.ticks, ih, tickTimes_append, List.length_append, Nat.add_assoc]

/-! ## From the first subscription on -/

theorem Step.tickTimes_of_halted (step : Step x news y) (halted : x.scheduler.expected = none) :
    tickTimes news = [] := by
  cases step.turn with
  | kept expected times ticks later => exact times
  | started halted expected times ticks => exact times
  | halted running due expected polled stopped times ticks later => exact times
  | ticked running due expected polled times ticks =>
      rw [halted] at running
      cases running

theorem Step.earliest_of_subscribed (step : Step x news y) (halted : x.scheduler.expected = none)
    (subscribed : firstSubscribed news = some start) :
    y.earliest = start + x.scheduler.interval := by
  cases step with
  | subscribe onTick onError =>
      cases subscribed
      rw [earliest, expected_subscribe_of_halted halted]
      rfl
  | unsubscribe issued => cases subscribed
  | advance time => cases subscribed
  | visit world => cases subscribed
  | poll issued =>
      rw [firstSubscribed_happenings] at subscribed
      cases subscribed

theorem History.tickTimes_of_halted (history : x.History log y)
    (halted : x.scheduler.expected = none) (nobody : firstSubscribed log = none) :
    tickTimes log = [] := by
  induction history with
  | start => rfl
  | step history step ih =>
      rw [firstSubscribed_append, Option.or_eq_none_iff] at nobody
      rw [tickTimes_append, ih nobody.1,
        step.tickTimes_of_halted (history.halted halted nobody.1)]
      rfl

/-- The ticks are paced from an interval after the first subscription on. -/
theorem History.paced_of_subscribed (history : x.History log y)
    (halted : x.scheduler.expected = none) (subscribed : firstSubscribed log = some start) :
    Paced x.scheduler.interval (start + x.scheduler.interval) (tickTimes log) y.earliest := by
  induction history with
  | start => cases subscribed
  | @step log news y z history step ih =>
      rw [firstSubscribed_append] at subscribed
      rw [tickTimes_append]
      cases before : firstSubscribed log with
      | none =>
          -- This step is the first subscription, and there was no tick before it.
          have rest := history.halted halted before
          rw [before, Option.none_or] at subscribed
          rw [history.tickTimes_of_halted halted before, step.tickTimes_of_halted rest,
            step.earliest_of_subscribed rest subscribed, history.interval]
          exact .rest (Nat.le_refl _)
      | some time =>
          rw [before, Option.some_or] at subscribed
          have last := step.paced
          rw [history.interval] at last
          exact (ih (before.trans subscribed)).append last

/-- The ticks of a session, told by the log. -/
structure NoBurst (interval : Nat) (log : List (Happening ω)) (x : Session ω) : Prop where
  counted : x.scheduler.ticks = (tickTimes log).length
  unstarted : firstSubscribed log = none → tickTimes log = []
  since_start : ∀ {start : Nat}, firstSubscribed log = some start → ∀ t,
    (tickTimes log).countP (· ≤ t) ≤ (t - start) / interval
  window : ∀ first length, (tickTimes log).countP
    (fun time => first ≤ time ∧ time ≤ first + length) ≤ length / interval + 2
  instant : ∀ t, (tickTimes log).count t ≤ 2

/-- Missed ticks are not made up for. -/
theorem no_burst {interval now : Nat} {world : ω} (positive : 0 < interval)
    (history : (Session.new interval now world).History log x) : NoBurst interval log x where
  counted := by
    rw [history.ticks]
    exact Nat.zero_add _
  unstarted := history.tickTimes_of_halted rfl
  since_start subscribed := (history.paced_of_subscribed rfl subscribed).countP_le positive
  window := history.paced.countP_window_le positive
  instant := history.paced.count_le_two positive

/-! ## A session with missed ticks -/

/-- A tick callback that counts and fails the third time. -/
def shaky (count : Nat) : TickReaction Nat :=
  { world := count + 1, stop := if count = 2 then some (.fault .stackUnderflow) else none }

def unmoved (_ : Fault) (count : Nat) : Reaction Nat := { world := count }

/-- Two ticks that are done in a poll each, both a whole interval late or less. -/
def twice : Session Nat :=
  (((new 10 0 0).subscribe shaky unmoved).advance 20).poll.session.poll.session

/-- After a tick that failed someone subscribes anew, and the next poll is far too late. -/
def jerky : Session Nat :=
  ((((twice.advance 10).poll.session.advance 5).subscribe shaky unmoved).advance
    100).poll.session.poll.session

theorem history_jerky : ∃ log, (new 10 0 0).History log jerky ∧
    tickTimes log = [20, 20, 135] := by
  have late : (new 10 0 0).History _ twice :=
    .step (.step (.step (.step .start (.subscribe _ _)) (.advance 20))
      (.poll (issued_of_quiet rfl))) (.poll (issued_of_quiet rfl))
  have again : (new 10 0 0).History _
      (((twice.advance 10).poll.session.advance 5).subscribe shaky unmoved) :=
    .step (.step (.step (.step late (.advance 10)) (.poll (issued_of_quiet rfl))) (.advance 5))
      (.subscribe _ _)
  exact ⟨_, .step (.step (.step again (.advance 100)) (.poll (issued_of_quiet rfl)))
    (.poll (issued_of_quiet rfl)), rfl⟩

theorem two_at_one_instant : ∃ log, (new 10 0 0).History log jerky ∧
    tickTimes log = [20, 20, 135] ∧ jerky.scheduler.ticks = 3 ∧ NoBurst 10 log jerky := by
  obtain ⟨log, history, times⟩ := history_jerky
  have pace := no_burst (by decide) history
  refine ⟨log, history, times, ?_, pace⟩
  rw [pace.counted, times]
  rfl

end Session

end Chip8
