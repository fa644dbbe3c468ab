import Chip8.Proofs.Session.History

/-!
# Who is registered

The subscribers of a session are at all times those that the log says are registered,
in the order in which they subscribed (`History.recorded`).

What makes this true through every interleaving is that identities are given out in
order and never again.  Subscribers have rising identities below the next one, and so
has every note of an ended subscription, which is nobody's any more
(`Scheduler.Sound`).  A note that is thrown away, and one that is kept for long, hit
the same people: nobody.
-/

namespace Chip8

variable {ω : Type}

namespace Scheduler

variable {s t : Scheduler ω} {id : Nat}

/-! ## Spent identities -/

/-- An identity was given out and is nobody's any more. -/
def Spent (s : Scheduler ω) (id : Nat) : Prop :=
  id < s.nextId ∧ ∀ sub ∈ s.subscribers, sub.id ≠ id

theorem Spent.of_sublist (spent : s.Spent id) (fewer : t.subscribers.Sublist s.subscribers)
    (same : t.nextId = s.nextId) : t.Spent id := by
  obtain ⟨issued, nobody⟩ := spent
  refine ⟨?_, fun sub membership => nobody sub (fewer.subset membership)⟩
  rw [same]
  exact issued

theorem Spent.subscribe (spent : s.Spent id) (now : Nat) (onTick : ω → TickReaction ω)
    (onError : Fault → ω → Reaction ω) : (s.subscribe now onTick onError).1.Spent id := by
  obtain ⟨issued, nobody⟩ := spent
  rw [fst_subscribe]
  refine ⟨Nat.lt_succ_of_lt issued, ?_⟩
  intro sub membership
  rcases List.mem_append.mp membership with old | last
  · exact nobody sub old
  · rw [List.mem_singleton.mp last]
    exact Nat.ne_of_gt issued

theorem sublist_unsubscribe (s : Scheduler ω) (id : Nat) :
    (s.unsubscribe id).subscribers.Sublist s.subscribers := by
  rw [unsubscribe_eq]
  exact List.filter_sublist

theorem Spent.unsubscribe (spent : s.Spent id) (other : Nat) : (s.unsubscribe other).Spent id :=
  spent.of_sublist (s.sublist_unsubscribe other) (s.nextId_unsubscribe other)

theorem spent_unsubscribe (issued : id < s.nextId) : (s.unsubscribe id).Spent id := by
  rw [unsubscribe_eq]
  refine ⟨issued, ?_⟩
  intro sub membership
  simpa using (List.mem_filter.mp membership).2

/-! ## Sound schedulers -/

/-- Identities rise and were given out, and noted ones are spent. -/
structure Sound (s : Scheduler ω) : Prop where
  ordered : s.subscribers.Pairwise fun sub later => sub.id < later.id
  issued : ∀ sub ∈ s.subscribers, sub.id < s.nextId
  noted : ∀ id ∈ s.removed, s.Spent id

namespace Sound

theorem of_sublist (sound : s.Sound) (fewer : t.subscribers.Sublist s.subscribers)
    (same : t.nextId = s.nextId) (noted : ∀ id ∈ t.removed, t.Spent id) : t.Sound where
  ordered := sound.ordered.sublist fewer
  issued sub membership := by
    rw [same]
    exact sound.issued sub (fewer.subset membership)
  noted := noted

theorem subscribe (sound : s.Sound) (now : Nat) (onTick : ω → TickReaction ω)
    (onError : Fault → ω → Reaction ω) : (s.subscribe now onTick onError).1.Sound where
  ordered := by
    rw [subscribers_subscribe]
    refine List.pairwise_append.mpr ⟨sound.ordered, List.pairwise_singleton _ _, ?_⟩
    intro sub membership last isLast
    rw [List.mem_singleton.mp isLast]
    exact sound.issued sub membership
  issued := by
    rw [fst_subscribe]
    intro sub membership
    rcases List.mem_append.mp membership with old | last
    · exact Nat.lt_succ_of_lt (sound.issued sub old)
    · rw [List.mem_singleton.mp last]
      exact Nat.lt_succ_self s.nextId
  noted := by
    rw [removed_subscribe]
    intro id membership
    exact (sound.noted id membership).subscribe now onTick onError

theorem unsubscribe (sound : s.Sound) (issued : id < s.nextId) : (s.unsubscribe id).Sound := by
  apply sound.of_sublist (s.sublist_unsubscribe id) (s.nextId_unsubscribe id)
  intro other membership
  rw [unsubscribe_eq] at membership
  dsimp only at membership
  split at membership
  next =>
    rcases mem_noteEnded.mp membership with old | same
    · exact (sound.noted other old).unsubscribe id
    · rw [same]
      exact spent_unsubscribe issued
  next => exact (sound.noted other membership).unsubscribe id

end Sound

end Scheduler

namespace Session

variable {x y : Session ω} {log news : List (Happening ω)}

theorem any_removes_happenings (id : Nat) :
    x.happenings.any (·.removes id) =
      (x.poll.tick.broke || (x.poll.tick.fired && decide (id ∈ x.endedByTicks))) := by
  have among : (x.endedByTicks.any fun other => decide (other = id)) =
      decide (id ∈ x.endedByTicks) := by
    rw [Bool.eq_iff_iff]
    simp
  unfold happenings
  cases x.poll.tick <;>
    simp [Happening.removes, Tick.broke, Tick.fired, Function.comp_def, among]

theorem kept_of_sound (sound : x.scheduler.Sound) (r : Round ω) :
    x.kept r = x.scheduler.subscribers.filter (·.id ∉ r.removed) := by
  apply List.filter_congr
  intro sub membership
  have unnoted : sub.id ∉ x.scheduler.removed := by
    intro noted
    exact (sound.noted sub.id noted).2 sub membership rfl
  simp [unnoted]

/-- A poll keeps those among the subscribers whom nothing in it takes out. -/
theorem subscribers_poll (sound : x.scheduler.Sound) :
    x.poll.session.scheduler.subscribers =
      x.scheduler.subscribers.filter fun sub => !x.happenings.any (·.removes sub.id) := by
  -- A poll that calls nobody takes nobody out.
  have quiet (unfired : x.poll.tick.fired = false) (unbroken : x.poll.tick.broke = false) :
      x.scheduler.subscribers.filter (fun sub => !x.happenings.any (·.removes sub.id)) =
        x.scheduler.subscribers := by
    simp [any_removes_happenings, unfired, unbroken]
  cases x.pollCase with
  | halted expected poll =>
      rw [quiet] <;> rw [poll] <;> rfl
  | early expected early poll =>
      rw [quiet] <;> rw [poll] <;> rfl
  | deserted expected due nobody tick session =>
      rw [quiet]
      · rw [session]
      · rw [tick]
        rfl
      · rw [tick]
        rfl
  | ticked expected due someone done tick session =>
      rw [session]
      refine (kept_of_sound sound _).trans ?_
      simp only [any_removes_happenings, tick, endedByTicks_of_allDone done]
      simp [Tick.broke, Tick.fired]
  | failed expected due split done stopped tick session =>
      simp [any_removes_happenings, tick, session, afterFailure, Tick.broke]
  | crashed expected due split done stopped noted tick session =>
      simp [any_removes_happenings, tick, session, afterCrash, afterRound, Tick.broke]

theorem sublist_poll (sound : x.scheduler.Sound) :
    x.poll.session.scheduler.subscribers.Sublist x.scheduler.subscribers := by
  rw [subscribers_poll sound]
  exact List.filter_sublist

theorem sound_poll (sound : x.scheduler.Sound) (issued : x.Issued) :
    x.poll.session.scheduler.Sound := by
  have fewer := sublist_poll sound
  apply sound.of_sublist fewer nextId_poll
  intro id noted
  -- A note from before is of a spent identity, and so is every note when nobody is left.
  have old (before : id ∈ x.scheduler.removed) : x.poll.session.scheduler.Spent id :=
    (sound.noted id before).of_sublist fewer nextId_poll
  have alone (given : id < x.scheduler.nextId)
      (nobody : x.poll.session.scheduler.subscribers = []) :
      x.poll.session.scheduler.Spent id := by
    refine ⟨by rw [nextId_poll]; exact given, ?_⟩
    rw [nobody]
    exact List.forall_mem_nil _
  cases x.pollCase with
  | halted expected poll =>
      rw [poll] at noted
      exact old noted
  | early expected early poll =>
      rw [poll] at noted
      exact old noted
  | deserted expected due nobody tick session =>
      rw [session] at noted
      exact old noted
  | ticked expected due someone done tick session =>
      rw [session] at noted
      cases noted
  | failed expected due split done stopped tick session =>
      refine alone (issued id ?_) (by rw [session]; rfl)
      rw [happenings, tick]
      simp [noted]
  | crashed expected due split done stopped fromRound tick session =>
      rw [session] at noted
      rcases fromRound id noted with before | ended
      · exact old before
      · refine alone (issued id ?_) (by rw [session]; rfl)
        rw [happenings, tick, endedByTicks_of_stop split done stopped]
        simp [ended]

/-! ## The log and the session -/

/-- A session agrees with the log of how it was come to. -/
structure Recorded (log : List (Happening ω)) (x : Session ω) : Prop where
  sound : x.scheduler.Sound
  subscribers : x.scheduler.subscribers = registered log
  ended : ∀ id, .ended id ∈ log → x.scheduler.Spent id

theorem registered_append_happenings (log : List (Happening ω)) :
    registered (log ++ x.happenings) =
      (registered log).filter fun sub => !x.happenings.any (·.removes sub.id) := by
  rw [registered_append, registered_of_nobody firstSubscribed_happenings, List.append_nil]

/-- A poll spends the identities that are ended in it. -/
theorem spent_poll (sound : x.scheduler.Sound) {id : Nat} (ended : .ended id ∈ x.happenings)
    (issued : id < x.scheduler.nextId) : x.poll.session.scheduler.Spent id := by
  refine ⟨by rw [nextId_poll]; exact issued, ?_⟩
  rw [subscribers_poll sound]
  intro sub membership same
  have unremoved := (List.mem_filter.mp membership).2
  have removed : x.happenings.any (·.removes sub.id) = true :=
    List.any_eq_true.mpr ⟨_, ended, by simp [Happening.removes, same]⟩
  rw [removed] at unremoved
  cases unremoved

theorem Recorded.step (recorded : Recorded log x) (step : Step x news y) :
    Recorded (log ++ news) y := by
  obtain ⟨sound, subscribers, ended⟩ := recorded
  cases step with
  | subscribe onTick onError =>
      refine ⟨sound.subscribe _ _ _, ?_, ?_⟩
      · rw [registered_concat, Session.subscribe, Scheduler.subscribers_subscribe, subscribers]
      · intro id membership
        have old : .ended id ∈ log := by simpa using membership
        exact (ended id old).subscribe _ _ _
  | @unsubscribe id issued =>
      refine ⟨sound.unsubscribe issued, ?_, ?_⟩
      · rw [registered_append, Session.unsubscribe, Scheduler.unsubscribe_eq, subscribers]
        simp [registered, Happening.removes, eq_comm]
      · intro other membership
        rcases List.mem_append.mp membership with old | same
        · exact (ended other old).unsubscribe id
        · cases List.mem_singleton.mp same
          exact Scheduler.spent_unsubscribe issued
  | advance time =>
      rw [List.append_nil]
      exact ⟨sound, subscribers, ended⟩
  | visit world =>
      rw [List.append_nil]
      exact ⟨sound, subscribers, ended⟩
  | poll issued =>
      refine ⟨sound_poll sound issued, ?_, ?_⟩
      · rw [subscribers_poll sound, registered_append_happenings, subscribers]
      · intro id membership
        rcases List.mem_append.mp membership with old | now
        · exact (ended id old).of_sublist (sublist_poll sound) nextId_poll
        · exact spent_poll sound now (issued id now)

/-- A history that begins with nobody agrees with its log. -/
theorem History.recorded (history : History x log y) (sound : x.scheduler.Sound)
    (nobody : x.scheduler.subscribers = []) : Recorded log y := by
  induction history with
  | start => exact ⟨sound, nobody, fun id membership => nomatch membership⟩
  | step history step ih => exact ih.step step

theorem sound_new (interval now : Nat) (world : ω) :
    (Session.new interval now world).scheduler.Sound :=
  ⟨.nil, List.forall_mem_nil _, List.forall_mem_nil _⟩

end Session

end Chip8
