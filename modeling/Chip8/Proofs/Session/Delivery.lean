import Chip8.Proofs.Session.Registration

/-!
# Delivery

A tick that is done reaches each of its subscribers once.  Whom it calls is read off
the log of what happened before: those who subscribed and were not taken out since, in
the order in which they subscribed.  A subscription that is ended in a tick is called
in that tick all the same and in none after it, and nobody leaves through the end of
another's subscription (`delivered_exactly_once`).

That someone was called is told by the world.  Callbacks are arbitrary, so a world that
is as if some of them had been called in a row tells which, how often and in which
order; with callbacks that keep a journal it can be read there.
-/

namespace Chip8.Session

variable {ω : Type} {x y : Session ω} {log : List (Happening ω)}

/-- A poll leaves the world and the clock of a round. -/
def Leaves (x : Session ω) (r : Round ω) : Prop :=
  x.poll.session.world = r.world ∧ x.poll.session.now = x.now + r.elapsed

/-- A due tick is done exactly when there is someone to call and no callback stops. -/
theorem ticked_iff (due : x.Due) :
    x.poll.tick = .ticked ↔
      x.scheduler.subscribers ≠ [] ∧ Round.AllDone x.world x.scheduler.subscribers := by
  constructor
  · intro ticked
    obtain ⟨deadline, expected, le, someone, done, session⟩ := exists_of_ticked ticked
    exact ⟨someone, done⟩
  · rintro ⟨someone, done⟩
    obtain ⟨deadline, expected, le⟩ := due
    exact (poll_of_allDone expected le someone done).1

theorem leaves_of_ticked (ticked : x.poll.tick = .ticked) :
    x.Leaves (Round.ticks x.world x.scheduler.subscribers) := by
  obtain ⟨deadline, expected, le, someone, done, session⟩ := exists_of_ticked ticked
  rw [Leaves, session]
  exact ⟨rfl, rfl⟩

/-- Where every tick callback adds its identity to a journal, a tick lists everyone in order. -/
theorem journal_of_ticked (ticked : x.poll.tick = .ticked) {journal : ω → List Nat}
    (writes : ∀ sub ∈ x.scheduler.subscribers, ∀ w,
      journal (sub.onTick w).world = journal w ++ [sub.id]) :
    journal x.poll.session.world = journal x.world ++ x.scheduler.subscribers.map (·.id) := by
  rw [(leaves_of_ticked ticked).1]
  exact Round.journal_ticks writes x.world

theorem subscribers_of_ticked (sound : x.scheduler.Sound) (ticked : x.poll.tick = .ticked) :
    x.poll.session.scheduler.subscribers = x.scheduler.subscribers.filter
      (·.id ∉ (Round.ticks x.world x.scheduler.subscribers).removed) := by
  obtain ⟨deadline, expected, le, someone, done, session⟩ := exists_of_ticked ticked
  rw [session]
  exact kept_of_sound sound _

/-- A poll that is no tick calls nobody. -/
theorem leaves_of_unfired (unfired : x.poll.tick.fired = false) : x.Leaves (.start x.world) := by
  obtain ⟨expected, session⟩ := exists_of_unfired unfired
  rw [Leaves, session]
  exact ⟨rfl, rfl⟩

/-- The subscribers of a session and its next poll, told by the log. -/
structure Delivers (log : List (Happening ω)) (x : Session ω) : Prop where
  /-- The subscribers are those registered. -/
  subscribers : x.scheduler.subscribers = registered log
  /-- Identities are their own, and rise in the order of subscribing. -/
  ordered : (registered log).Pairwise fun sub later => sub.id < later.id
  /-- Whoever subscribed stays but for the end of the own subscription and for a tick that broke. -/
  stands_iff : ∀ sub, sub ∈ x.scheduler.subscribers ↔ Stands log sub
  /-- An ended subscription is nobody's any more. -/
  ended : ∀ id, .ended id ∈ log → ∀ sub ∈ x.scheduler.subscribers, sub.id ≠ id
  /-- A due poll is a tick that is done when someone is registered and no callback stops. -/
  ticked_iff : x.Due →
    (x.poll.tick = .ticked ↔ registered log ≠ [] ∧ Round.AllDone x.world (registered log))
  /-- A tick that is done calls everyone registered, in order, and nobody else. -/
  called : x.poll.tick = .ticked → x.Leaves (Round.ticks x.world (registered log))
  /-- A journal that the callbacks keep tells the same. -/
  journal : x.poll.tick = .ticked → ∀ journal : ω → List Nat,
    (∀ sub ∈ registered log, ∀ w, journal (sub.onTick w).world = journal w ++ [sub.id]) →
    journal x.poll.session.world = journal x.world ++ (registered log).map (·.id)
  /-- Ending a subscription in a tick takes effect when the tick is done. -/
  after : x.poll.tick = .ticked → x.poll.session.scheduler.subscribers =
    (registered log).filter (·.id ∉ (Round.ticks x.world (registered log)).removed)
  /-- A poll that is no tick calls nobody. -/
  uncalled : x.poll.tick.fired = false → x.Leaves (.start x.world)

/-- Every tick that is done calls everyone who is registered when it begins once and in order, and
the end of a subscription takes out its own subscriber for good and nobody else. -/
theorem delivered_exactly_once {interval now : Nat} {world : ω}
    (history : (Session.new interval now world).History log x) : Delivers log x := by
  obtain ⟨sound, subscribers, ended⟩ := history.recorded (sound_new interval now world) rfl
  exact {
    subscribers
    ordered := by
      rw [← subscribers]
      exact sound.ordered
    stands_iff sub := by
      rw [subscribers]
      exact mem_registered_iff
    ended id membership := (ended id membership).2
    ticked_iff due := by
      rw [← subscribers]
      exact ticked_iff due
    called ticked := by
      rw [← subscribers]
      exact leaves_of_ticked ticked
    journal ticked journal writes := by
      rw [← subscribers] at writes ⊢
      exact journal_of_ticked ticked writes
    after ticked := by
      rw [← subscribers]
      exact subscribers_of_ticked sound ticked
    uncalled := leaves_of_unfired }

/-! ## A session with a journal -/

/-- A tick callback that adds an identity to a journal and ends subscriptions. -/
def writing (id : Nat) (ended : List Nat) (journal : List Nat) : TickReaction (List Nat) :=
  { world := journal ++ [id], ended }

/-- An error callback that does nothing. -/
def ignoring (_ : Fault) (journal : List Nat) : Reaction (List Nat) := { world := journal }

/-- Two subscribers at their first tick.  The first ends its own subscription, and so does the
second. -/
def leaving : Session (List Nat) :=
  (((new 10 0 []).subscribe (writing 0 [0, 0]) ignoring).subscribe (writing 1 [0]) ignoring).advance
    10

/-- The second of them at the next tick, with a third one.  The first was unsubscribed once more. -/
def joined : Session (List Nat) :=
  ((leaving.poll.session.unsubscribe 0).subscribe (writing 2 [0]) ignoring).advance 13

theorem history_joined : ∃ log, (new 10 0 []).History log joined ∧
    registered log = [⟨1, writing 1 [0], ignoring⟩, ⟨2, writing 2 [0], ignoring⟩] := by
  have issued : leaving.Issued := by
    have happened : leaving.happenings = [.ended 0, .polled 10 (some 10) .ticked] := rfl
    intro id membership
    rw [happened] at membership
    have same : id = 0 := by simpa using membership
    rw [same]
    decide
  have before : (new 10 0 []).History _ leaving :=
    .step (.step (.step .start (.subscribe _ _)) (.subscribe _ _)) (.advance 10)
  refine ⟨_, .step (.step (.step (.step before (.poll issued)) (.unsubscribe ?_))
    (.subscribe _ _)) (.advance 13), rfl⟩
  decide

theorem leaver_delivered : joined.poll.tick = .ticked ∧
    joined.poll.session.world = joined.world ++ [1, 2] ∧
    joined.poll.session.scheduler.subscribers.map (·.id) = [1, 2] := by
  obtain ⟨log, history, listed⟩ := history_joined
  have delivers := delivered_exactly_once history
  have due : joined.Due := ⟨20, rfl, by decide⟩
  have ticked : joined.poll.tick = .ticked := by
    rw [delivers.ticked_iff due, listed]
    exact ⟨List.cons_ne_nil _ _, rfl, rfl, trivial⟩
  have journal := delivers.journal ticked id
  have after := delivers.after ticked
  rw [listed] at journal after
  refine ⟨ticked, journal ?_, ?_⟩
  · intro sub membership
    simp only [List.mem_cons, List.not_mem_nil, or_false] at membership
    rcases membership with rfl | rfl <;> exact fun w => rfl
  · rw [after]
    rfl

end Chip8.Session
