import Chip8.Proofs.Session.Registration

/-!
# Failed ticks

A tick whose callbacks are done up to one that fails goes through two rounds.  In the
first the callbacks up to the failing one are called and none after it.  In the second
everyone of the tick whom none of those callbacks unsubscribed is told of the failure,
those included whose turn never came.  Then nobody is left and nothing is scheduled,
until someone subscribes and starts the schedule anew.

Error callbacks may end subscriptions too.  It is too late to change who is told, and
what they leave behind are notes of spent identities, which hit nobody who subscribes
later (`failed_tick_protocol`).
-/

namespace Chip8.Session

variable {ω : Type} {x y : Session ω} {log later : List (Happening ω)} {f : Fault}
  {before called told rest : List (Subscriber ω)} {failing : Subscriber ω}

/-- A tick that failed, with whom it called and whom it told. -/
structure FailedTick (x : Session ω) (called told : List (Subscriber ω)) (f : Fault) : Prop where
  tick : x.poll.tick = .failed f
  /-- What is left is what those called leave, and after them those told. -/
  world : x.poll.session.world =
    (Round.tells f (Round.ticks x.world called).world told).world
  now : x.poll.session.now = x.now + (Round.ticks x.world called).elapsed +
    (Round.tells f (Round.ticks x.world called).world told).elapsed
  /-- A journal that the callbacks keep tells the same. -/
  journal : ∀ journal : ω → List (Nat × Option Fault),
    (∀ sub ∈ x.scheduler.subscribers, ∀ w,
      journal (sub.onTick w).world = journal w ++ [(sub.id, none)] ∧
      journal (sub.onError f w).world = journal w ++ [(sub.id, some f)]) →
    journal x.poll.session.world = journal x.world ++ called.map (fun sub => (sub.id, none)) ++
      told.map (fun sub => (sub.id, some f))
  /-- Everyone is told once, in the order in which they subscribed. -/
  ordered : told.Pairwise fun sub later => sub.id < later.id
  dropped : x.poll.session.scheduler.subscribers = []
  halted : x.poll.session.scheduler.expected = none
  ticks : x.poll.session.scheduler.ticks = x.scheduler.ticks
  /-- Nothing comes of a poll before someone subscribes. -/
  idle : ∀ {later : List (Happening ω)} {y : Session ω}, x.poll.session.History later y →
    firstSubscribed later = none → y.poll = ⟨.idle, y, []⟩
  /-- Whoever subscribes next is called an interval later. -/
  restart : ∀ {later : List (Happening ω)} {y : Session ω}, x.poll.session.History later y →
    firstSubscribed later = none → ∀ onTick onError,
    (y.subscribe onTick onError).scheduler.expected = some (y.now + x.scheduler.interval)
  /-- Whoever subscribes later is registered as if nothing had been there before. -/
  successors : ∀ {later : List (Happening ω)} {y : Session ω}, x.poll.session.History later y →
    y.scheduler.subscribers = registered later

/-- When a callback of a due tick is the first to fail, those before it and itself were called, and
everyone is told whom none of these unsubscribed. -/
theorem failed_tick_protocol {interval now : Nat} {world : ω}
    (history : (Session.new interval now world).History log x) (due : x.Due) (issued : x.Issued)
    (split : registered log = before ++ failing :: rest) (done : Round.AllDone x.world before)
    (failed : (failing.onTick (Round.ticks x.world before).world).stop = some (.fault f)) :
    x.FailedTick (before ++ [failing])
      ((registered log).filter
        (·.id ∉ (Round.ticks x.world (before ++ [failing])).removed)) f := by
  obtain ⟨sound, subscribers, -⟩ := history.recorded (sound_new interval now world) rfl
  obtain ⟨deadline, expected, le⟩ := due
  rw [← subscribers] at split ⊢
  rw [← kept_of_sound sound]
  obtain ⟨tick, removed, session⟩ := poll_of_first_fault expected le split done failed
  have halted : x.poll.session.scheduler.expected = none := by
    rw [session]
    rfl
  exact {
    tick
    world := by
      rw [session]
      rfl
    now := by
      rw [session]
      rfl
    journal journal writes := by
      have among : ∀ sub ∈ before ++ [failing], sub ∈ x.scheduler.subscribers := by
        intro sub membership
        rw [split, List.append_cons]
        exact List.mem_append_left _ membership
      have called : journal (Round.ticks x.world (before ++ [failing])).world =
          journal x.world ++ (before ++ [failing]).map fun sub => (sub.id, none) :=
        Round.journal_ticks (fun sub membership w => (writes sub (among sub membership) w).1) _
      rw [session, ← called]
      exact Round.journal_tells
        (fun sub membership w => (writes sub (List.mem_filter.mp membership).1 w).2) _
    ordered := sound.ordered.sublist List.filter_sublist
    dropped := by
      rw [session]
      rfl
    halted
    ticks := by
      rw [session]
      rfl
    idle history nobody := poll_of_halted (history.halted halted nobody)
    restart history nobody onTick onError := by
      rw [expected_subscribe_of_halted (history.halted halted nobody), history.interval, session]
      rfl
    successors history := by
      refine (history.recorded (sound_poll sound issued) ?_).subscribers
      rw [session]
      rfl }

/-! ## A session with a journal of ticks and errors -/

/-- A tick callback that adds an entry to a journal, ends subscriptions and may stop. -/
def noting (id : Nat) (ended : List Nat) (stop : Option Stop)
    (journal : List (Nat × Option Fault)) : TickReaction (List (Nat × Option Fault)) :=
  { world := journal ++ [(id, none)], ended, stop }

/-- An error callback that adds an entry to a journal and ends subscriptions. -/
def notingError (id : Nat) (ended : List Nat) (f : Fault)
    (journal : List (Nat × Option Fault)) : Reaction (List (Nat × Option Fault)) :=
  { world := journal ++ [(id, some f)], ended }

def bystander : Subscriber (List (Nat × Option Fault)) := ⟨0, noting 0 [] none, notingError 0 []⟩

/-- Unsubscribes the bystander and fails. -/
def culprit : Subscriber (List (Nat × Option Fault)) :=
  ⟨1, noting 1 [0] (some (.fault .stackUnderflow)), notingError 1 [1]⟩

def skipped : Subscriber (List (Nat × Option Fault)) := ⟨2, noting 2 [] none, notingError 2 [0, 2]⟩

/-- The three at their first tick. -/
def failingSession : Session (List (Nat × Option Fault)) :=
  ((((new 10 0 []).subscribe bystander.onTick bystander.onError).subscribe
    culprit.onTick culprit.onError).subscribe skipped.onTick skipped.onError).advance 12

theorem history_failingSession : ∃ log, (new 10 0 []).History log failingSession ∧
    registered log = [bystander] ++ culprit :: [skipped] :=
  ⟨_, .step (.step (.step (.step .start (.subscribe _ _)) (.subscribe _ _)) (.subscribe _ _))
    (.advance 12), rfl⟩

theorem issued_failingSession : failingSession.Issued := by
  have happened : failingSession.happenings =
      [.ended 0, .polled 12 (some 10) (.failed .stackUnderflow), .ended 1, .ended 0, .ended 2] :=
    rfl
  intro id membership
  rw [happened] at membership
  have listed : id = 0 ∨ id = 1 ∨ id = 0 ∨ id = 2 := by simpa using membership
  change id < 3
  omega

theorem failure_told : failingSession.poll.tick = .failed .stackUnderflow ∧
    failingSession.poll.session.world =
      [(0, none), (1, none), (1, some .stackUnderflow), (2, some .stackUnderflow)] ∧
    failingSession.poll.session.scheduler.subscribers = [] ∧
    ∀ onTick onError, ((failingSession.poll.session.advance 5).subscribe onTick
      onError).scheduler.expected = some 27 := by
  obtain ⟨log, history, listed⟩ := history_failingSession
  have protocol := failed_tick_protocol history ⟨10, rfl, by decide⟩ issued_failingSession listed
    ⟨rfl, trivial⟩ rfl
  rw [listed] at protocol
  refine ⟨protocol.tick, protocol.journal id ?_, protocol.dropped, ?_⟩
  · intro sub membership w
    have one : sub = bystander ∨ sub = culprit ∨ sub = skipped := by
      change sub ∈ [bystander, culprit, skipped] at membership
      simpa using membership
    rcases one with rfl | rfl | rfl <;> exact ⟨rfl, rfl⟩
  · intro onTick onError
    exact protocol.restart (.step .start (.advance 5)) rfl onTick onError

end Chip8.Session
