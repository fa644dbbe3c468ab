import Chip8.Player
import Chip8.Proofs.Cpu.Failure
import Chip8.Proofs.Cpu.Batch
import Chip8.Proofs.Session.Polling

/-!
# Running and pausing

A player keeps its state in four places: its own mark of a subscription, the
subscribers of the scheduler, the deadline there, and the fault in the world.  Between
two calls they agree (`Player.Phase`).

* A *paused* player has nobody subscribed.  A deadline may still stand, and the first
  poll that meets it takes it away.
* A *running* player has its one subscriber, a deadline, and no fault.

Every call keeps this.  What remains to say is what a call does on the way from one
phase to the other, which `Consistent` collects and `player_consistent` proves of
every player that has been opened.  An update in which the machine breaks off does not
come back, so nothing is said of the calls after it.
-/

namespace Chip8.Player

/-! ## Phases -/

/-- The subscriber of a running player. -/
def subscriber (p : Player) (id : Nat) : Subscriber World := ⟨id, runMachine p.batch, keepFault⟩

/-- Nobody is subscribed. -/
structure Paused (p : Player) : Prop where
  subscription : p.subscription = none
  subscribers : p.session.scheduler.subscribers = []
  removed : p.session.scheduler.removed = []

/-- The machine is subscribed once, and the schedule runs. -/
structure Running (p : Player) (id : Nat) : Prop where
  subscription : p.subscription = some id
  subscribers : p.session.scheduler.subscribers = [p.subscriber id]
  removed : p.session.scheduler.removed = []
  expected : p.session.scheduler.expected.isSome
  failure : p.failure = none

/-- What a player is between two calls. -/
inductive Phase (p : Player) : Prop where
  | paused (paused : Paused p)
  | running {id : Nat} (running : Running p id)

variable {p q r : Player} {id : Nat} {f : Fault}

/-! ### Calls that leave the phase alone -/

/-- Two players that differ at most in the machine, the keys, the clock and the status. -/
structure SameRun (p q : Player) : Prop where
  subscription : q.subscription = p.subscription
  scheduler : q.session.scheduler = p.session.scheduler
  failure : q.failure = p.failure
  batch : q.batch = p.batch

theorem Paused.of_sameRun (paused : Paused p) (same : SameRun p q) : Paused q where
  subscription := same.subscription.trans paused.subscription
  subscribers := by
    rw [same.scheduler]
    exact paused.subscribers
  removed := by
    rw [same.scheduler]
    exact paused.removed

theorem Running.of_sameRun (running : Running p id) (same : SameRun p q) : Running q id where
  subscription := same.subscription.trans running.subscription
  subscribers := by
    rw [same.scheduler, subscriber, same.batch]
    exact running.subscribers
  removed := by
    rw [same.scheduler]
    exact running.removed
  expected := by
    rw [same.scheduler]
    exact running.expected
  failure := same.failure.trans running.failure

theorem sameRun_reset (p : Player) : SameRun p p.reset.1 := by
  unfold reset
  dsimp only
  split
  · exact ⟨rfl, rfl, rfl, rfl⟩
  · exact ⟨rfl, rfl, rfl, rfl⟩

theorem sameRun_press (p : Player) (key : UInt8) (now : Nat) : SameRun p (p.press key now) := by
  rw [press]
  dsimp only
  split
  · exact ⟨rfl, rfl, rfl, rfl⟩
  · exact ⟨rfl, rfl, rfl, rfl⟩

/-- Only toggling and updating touch what a phase is about. -/
theorem sameRun_handle (p : Player) {input : Input} (toggles : input ≠ .toggle)
    (updates : input ≠ .update) : SameRun p (p.handle input).1 := by
  cases input with
  | toggle => exact absurd rfl toggles
  | update => exact absurd rfl updates
  | reset => exact sameRun_reset p
  | press key now => exact sameRun_press p key now
  | releaseExpired now => exact ⟨rfl, rfl, rfl, rfl⟩
  | advance time => exact ⟨rfl, rfl, rfl, rfl⟩

/-! ### Toggling -/

theorem toggle_of_running (subscription : p.subscription = some id) :
    p.toggle.1 = { p with
      session.scheduler := p.session.scheduler.unsubscribe id
      subscription := none
      status := .paused } := by
  rw [toggle, subscription]

theorem toggle_of_paused (subscription : p.subscription = none) :
    p.toggle.1 = { p with
      session.scheduler := (p.session.scheduler.subscribe p.session.now (runMachine p.batch)
        keepFault).1
      session.world.failure := none
      subscription := some p.session.scheduler.nextId
      status := .running } := by
  rw [toggle, subscription]

/-- Toggling leaves the machine alone. -/
theorem cpu_toggle (p : Player) : p.toggle.1.cpu = p.cpu := by
  cases subscription : p.subscription with
  | none => rw [toggle_of_paused subscription]; rfl
  | some id => rw [toggle_of_running subscription]; rfl

theorem batch_toggle (p : Player) : p.toggle.1.batch = p.batch := by
  cases subscription : p.subscription with
  | none => rw [toggle_of_paused subscription]
  | some id => rw [toggle_of_running subscription]

theorem Running.toggle (running : Running p id) : Paused p.toggle.1 := by
  rw [toggle_of_running running.subscription]
  have unsubscribed := Scheduler.unsubscribe_eq p.session.scheduler id
  rw [running.subscribers] at unsubscribed
  refine ⟨rfl, ?_, ?_⟩
  · rw [unsubscribed]
    simp [subscriber]
  · rw [unsubscribed]
    simp [subscriber, running.removed]

theorem Paused.toggle (paused : Paused p) :
    Running p.toggle.1 p.session.scheduler.nextId := by
  rw [toggle_of_paused paused.subscription]
  refine ⟨rfl, ?_, ?_, ?_, rfl⟩
  · rw [Scheduler.subscribers_subscribe, paused.subscribers]
    rfl
  · rw [Scheduler.removed_subscribe]
    exact paused.removed
  · exact Scheduler.isRunning_subscribe _ _ _ _

/-! ### Updating -/

/-- The machine whose bell has been asked. -/
def asked (c : Cpu FrameBuffer) : Cpu FrameBuffer := { c with bell := c.bell.take.2 }

/-- The player after an update. -/
def updated (p : Player) : Player := (p.handle .update).1

/-- What the player makes of its poll, before it asks the bell. -/
def polled (p : Player) : Player :=
  match p.session.poll.tick with
  | .failed f =>
      { p with session := p.session.poll.session, subscription := none, status := .stopped f }
  | _ => { p with session := p.session.poll.session }

theorem updated_eq (p : Player) : p.updated = p.polled.withCpu (asked p.polled.cpu) := rfl

theorem polled_frame (p : Player) :
    p.polled.session = p.session.poll.session ∧ p.polled.batch = p.batch := by
  rw [polled]
  cases p.session.poll.tick <;> exact ⟨rfl, rfl⟩

/-- An update leaves what its poll left, with the bell asked. -/
theorem updated_frame (p : Player) :
    p.updated.session.scheduler = p.session.poll.session.scheduler ∧
      p.updated.failure = p.session.poll.session.world.failure ∧
      p.updated.cpu = asked p.session.poll.session.world.cpu ∧ p.updated.batch = p.batch := by
  obtain ⟨session, batch⟩ := p.polled_frame
  rw [updated_eq, ← session]
  exact ⟨rfl, rfl, rfl, batch⟩

theorem subscription_of_failed (failed : p.session.poll.tick = .failed f) :
    p.updated.subscription = none := by
  change p.polled.subscription = none
  rw [polled, failed]

theorem subscription_of_unfailed (unfailed : ∀ f, p.session.poll.tick ≠ .failed f) :
    p.updated.subscription = p.subscription := by
  change p.polled.subscription = p.subscription
  rw [polled]
  cases tick : p.session.poll.tick with
  | failed f => exact absurd tick (unfailed f)
  | _ => rfl

/-- What an update does. -/
inductive UpdateCase (p : Player) : Prop where
  /-- The player is paused, and nothing runs. -/
  | idle (was : Paused p) (unfired : p.session.poll.tick.fired = false) (is : Paused p.updated)
      (cpu : p.updated.cpu = asked p.cpu) (failure : p.updated.failure = p.failure)
  /-- No tick is due yet. -/
  | early {id : Nat} (was : Running p id) (early : ¬ p.session.Due)
      (unfired : p.session.poll.tick.fired = false) (is : Running p.updated id)
      (cpu : p.updated.cpu = asked p.cpu)
  /-- A batch ran. -/
  | ran {id : Nat} (was : Running p id) (due : p.session.Due)
      (tick : p.session.poll.tick = .ticked)
      (done : ∃ count, (p.cpu.runBatch p.batch).result = .ok count) (is : Running p.updated id)
      (cpu : p.updated.cpu = asked (p.cpu.runBatch p.batch).state)
  /-- A batch failed. -/
  | failed {id : Nat} {f : Fault} (was : Running p id) (due : p.session.Due)
      (tick : p.session.poll.tick = .failed f)
      (fails : (p.cpu.runBatch p.batch).result = .error (.fault f)) (is : Paused p.updated)
      (cpu : p.updated.cpu = asked (p.cpu.runBatch p.batch).state)
      (failure : p.updated.failure = some f)
  /-- A batch broke off. -/
  | crashed {id : Nat} (was : Running p id) (due : p.session.Due)
      (tick : p.session.poll.tick = .crashed)
      (breaks : (p.cpu.runBatch p.batch).result = .error .crash)
      (cpu : p.updated.cpu = asked (p.cpu.runBatch p.batch).state)

theorem Paused.update (paused : Paused p) : UpdateCase p := by
  obtain ⟨unfired, nobody, -, world, -⟩ := Session.poll_of_nobody paused.subscribers
  obtain ⟨scheduler, failure, cpu, -⟩ := p.updated_frame
  have removed : p.updated.session.scheduler.removed = [] := by
    obtain ⟨expected, session⟩ := Session.exists_of_unfired unfired
    rw [scheduler, session]
    exact paused.removed
  have unfailed (f : Fault) : p.session.poll.tick ≠ .failed f := by
    intro failed
    rw [failed] at unfired
    cases unfired
  have subscription := (subscription_of_unfailed unfailed).trans paused.subscription
  rw [← scheduler] at nobody
  rw [world] at failure cpu
  exact .idle paused unfired ⟨subscription, nobody, removed⟩ cpu failure

/-- A tick of a running player is a batch of its machine. -/
theorem onTick_subscriber (p : Player) (id : Nat) :
    (p.subscriber id).onTick p.session.world =
      .ofOutcome (p.cpu.runBatch p.batch) fun cpu => { p.session.world with cpu } := rfl

theorem Running.update (running : Running p id) : UpdateCase p := by
  obtain ⟨scheduler, failure, cpu, batch⟩ := p.updated_frame
  have fresh : (p.subscriber id).id ∉ p.session.scheduler.removed := by
    rw [running.removed]
    exact List.not_mem_nil
  have quiet : ((p.subscriber id).onTick p.session.world).ended = [] := rfl
  have again : p.updated.subscriber id = p.subscriber id := by rw [subscriber, batch]; rfl
  by_cases due : p.session.Due
  · cases result : (p.cpu.runBatch p.batch).result with
    | ok count =>
        have done : ((p.subscriber id).onTick p.session.world).stop = none := by
          rw [onTick_subscriber, TickReaction.ofOutcome, result]
        obtain ⟨tick, ticked⟩ := Session.poll_of_done due running.subscribers fresh quiet done
        rw [ticked.world] at failure cpu
        have subscription := subscription_of_unfailed (p := p) (by simp [tick])
        refine .ran running due tick ⟨count, result⟩ ⟨?_, ?_, ?_, ?_, ?_⟩ cpu
        · rw [subscription, running.subscription]
        · rw [scheduler, again, ticked.subscribers]
        · rw [scheduler, ticked.removed]
        · rw [scheduler]
          exact ticked.running
        · exact failure.trans running.failure
    | error e =>
        cases e with
        | fault f =>
            have failed : ((p.subscriber id).onTick p.session.world).stop = some (.fault f) := by
              rw [onTick_subscriber, TickReaction.ofOutcome, result]
            obtain ⟨tick, rest, -, world⟩ :=
              Session.poll_of_fault due running.subscribers fresh quiet failed
            have removed := Session.removed_of_fault due running.subscribers fresh quiet failed
              fun _ => rfl
            rw [world] at failure cpu
            refine .failed running due tick result ⟨subscription_of_failed tick, ?_, ?_⟩ cpu failure
            · rw [scheduler, rest.subscribers]
            · rw [scheduler, removed]
        | crash =>
            have crashed : ((p.subscriber id).onTick p.session.world).stop = some .crash := by
              rw [onTick_subscriber, TickReaction.ofOutcome, result]
            obtain ⟨tick, -, -, world⟩ := Session.poll_of_crash due running.subscribers crashed
            rw [world] at cpu
            exact .crashed running due tick result cpu
  · obtain ⟨wait, pending⟩ := Session.poll_of_not_due running.expected due
    have subscription := subscription_of_unfailed (p := p) (by simp [pending])
    rw [pending] at scheduler failure cpu
    have same : SameRun p p.updated := ⟨subscription, scheduler, failure, batch⟩
    exact .early running due (by rw [pending]; rfl) (running.of_sameRun same) cpu

/-- Every update of a player in a phase is one of these. -/
theorem Phase.update (phase : Phase p) : UpdateCase p := by
  cases phase with
  | paused paused => exact paused.update
  | running running => exact running.update

/-! ## Calls -/

/-- Whether a call comes back. -/
def Returns (p : Player) : Input → Prop
  | .update => p.session.poll.tick ≠ .crashed
  | _ => True

theorem returns_of_ne {input : Input} (other : input ≠ .update) : p.Returns input := by
  cases input with
  | update => exact absurd rfl other
  | _ => trivial

/-- The players that a player becomes through calls that come back. -/
inductive Plays (p : Player) : List Input → Player → Prop where
  /-- No call. -/
  | start : Plays p [] p
  /-- One more. -/
  | call {inputs : List Input} {q : Player} {input : Input} (plays : Plays p inputs q)
      (returns : q.Returns input) : Plays p (inputs ++ [input]) (q.handle input).1

theorem Plays.eq_handleAll {inputs : List Input} (plays : Plays p inputs q) :
    q = p.handleAll inputs := by
  induction plays with
  | start => rfl
  | call plays returns ih =>
      rw [handleAll, List.foldl_append]
      change _ = ((p.handleAll _).handle _).1
      rw [← ih]

/-- A call that comes back keeps the player in a phase. -/
theorem Phase.handle (phase : Phase q) {input : Input} (returns : q.Returns input) :
    Phase (q.handle input).1 := by
  by_cases toggles : input = .toggle
  · subst toggles
    cases phase with
    | paused paused => exact .running paused.toggle
    | running running => exact .paused running.toggle
  · by_cases updates : input = .update
    · subst updates
      cases phase.update with
      | idle was unfired is cpu failure => exact .paused is
      | early was early unfired is cpu => exact .running is
      | ran was due tick done is cpu => exact .running is
      | failed was due tick fails is cpu failure => exact .paused is
      | crashed was due tick breaks cpu => exact absurd tick returns
    · have same := q.sameRun_handle toggles updates
      cases phase with
      | paused paused => exact .paused (paused.of_sameRun same)
      | running running => exact .running (running.of_sameRun same)

theorem Phase.plays (phase : Phase p) {inputs : List Input} (plays : Plays p inputs q) :
    Phase q := by
  induction plays with
  | start => exact phase
  | call plays returns ih => exact ih.handle returns

/-- No call changes the size of a batch. -/
theorem batch_handle (p : Player) (input : Input) : (p.handle input).1.batch = p.batch := by
  by_cases toggles : input = .toggle
  · subst toggles
    exact p.batch_toggle
  · by_cases updates : input = .update
    · subst updates
      exact p.updated_frame.2.2.2
    · exact (p.sameRun_handle toggles updates).batch

theorem Plays.batch {inputs : List Input} (plays : Plays p inputs q) : q.batch = p.batch := by
  induction plays with
  | start => rfl
  | call plays returns ih => exact (batch_handle _ _).trans ih

/-! ### After a failure -/

/-- A fault that stopped a player stays until the player is toggled. -/
theorem stopped_handle (paused : Paused q) (failure : q.failure = some f) {input : Input}
    (toggles : input ≠ .toggle) :
    Paused (q.handle input).1 ∧ (q.handle input).1.failure = some f := by
  have unsubscribed {id : Nat} : ¬ Running q id := by
    intro running
    cases paused.subscription.symm.trans running.subscription
  by_cases updates : input = .update
  · subst updates
    cases paused.update with
    | idle was unfired is cpu same => exact ⟨is, same.trans failure⟩
    | early was => exact absurd was unsubscribed
    | ran was => exact absurd was unsubscribed
    | failed was => exact absurd was unsubscribed
    | crashed was => exact absurd was unsubscribed
  · have same := q.sameRun_handle toggles updates
    exact ⟨paused.of_sameRun same, same.failure.trans failure⟩

theorem stopped_plays (paused : Paused q) (failure : q.failure = some f) {inputs : List Input}
    (plays : Plays q inputs r) (untoggled : .toggle ∉ inputs) :
    Paused r ∧ r.failure = some f := by
  induction plays with
  | start => exact ⟨paused, failure⟩
  | @call inputs r input plays returns ih =>
      rw [List.mem_append, not_or, List.mem_singleton] at untoggled
      obtain ⟨paused, failure⟩ := ih untoggled.1
      exact stopped_handle paused failure (Ne.symm untoggled.2)

/-! ## Consistency -/

/-- What holds of a player between two calls, and of the calls that may follow. -/
structure Consistent (q : Player) : Prop where
  /-- The scheduler has one subscriber while the player runs, and none otherwise. -/
  single : q.session.scheduler.subscribers.length = if q.isRunning then 1 else 0
  /-- A running player has a schedule and no fault. -/
  running : q.isRunning → q.session.scheduler.isRunning ∧ q.failure = none
  /-- A due update of a running player runs one batch of the machine. -/
  oneBatch : q.isRunning → q.session.Due →
    q.updated.cpu = asked (q.cpu.runBatch q.batch).state
  /-- Any other update runs nothing. -/
  noBatch : ¬ (q.isRunning ∧ q.session.Due) → q.updated.cpu = asked q.cpu
  /-- A batch that fails fails the tick. -/
  fails : q.isRunning → q.session.Due → ∀ f,
    (q.cpu.runBatch q.batch).result = .error (.fault f) → q.session.poll.tick = .failed f
  /-- An update comes back unless a batch breaks off in it. -/
  breaks : ¬ q.Returns .update → q.isRunning ∧ (q.cpu.runBatch q.batch).result = .error .crash
  /-- The update whose tick fails stops the player, which keeps the fault until it is toggled.
  Then it runs again, without the fault, and goes on from the machine that it had. -/
  stops : ∀ f, q.session.poll.tick = .failed f → ∀ inputs r, .toggle ∉ inputs →
    Plays q.updated inputs r →
      r.isRunning = false ∧ r.failure = some f ∧
        r.toggle.1.isRunning = true ∧ r.toggle.1.failure = none ∧ r.toggle.1.cpu = r.cpu
  /-- Toggling starts a paused player and pauses a running one. -/
  toggles : q.toggle.1.isRunning = !q.isRunning
  /-- Starting clears the fault. -/
  clears : q.isRunning = false → q.toggle.1.failure = none
  /-- Toggling leaves the machine alone. -/
  continues : q.toggle.1.cpu = q.cpu

theorem Paused.isRunning (paused : Paused p) : p.isRunning = false := by
  rw [Player.isRunning, paused.subscription]
  rfl

theorem Running.isRunning (running : Running p id) : p.isRunning = true := by
  rw [Player.isRunning, running.subscription]
  rfl

theorem Phase.stops (phase : Phase q) (failed : q.session.poll.tick = .failed f)
    {inputs : List Input} (untoggled : .toggle ∉ inputs) (plays : Plays q.updated inputs r) :
    r.isRunning = false ∧ r.failure = some f ∧
      r.toggle.1.isRunning = true ∧ r.toggle.1.failure = none ∧ r.toggle.1.cpu = r.cpu := by
  cases phase.update with
  | failed was due tick fails is cpu failure =>
      cases failed.symm.trans tick
      obtain ⟨paused, failure⟩ := stopped_plays is failure plays untoggled
      have again := paused.toggle
      exact ⟨paused.isRunning, failure, again.isRunning, again.failure, r.cpu_toggle⟩
  | idle was unfired => simp [failed, Tick.fired] at unfired
  | early was early unfired => simp [failed, Tick.fired] at unfired
  | ran was due tick => cases failed.symm.trans tick
  | crashed was due tick => cases failed.symm.trans tick

theorem Phase.oneBatch (phase : Phase q) (runs : q.isRunning) (due : q.session.Due) :
    q.updated.cpu = asked (q.cpu.runBatch q.batch).state := by
  cases phase.update with
  | idle was => simp [was.isRunning] at runs
  | early was early => exact absurd due early
  | ran was due tick done is cpu => exact cpu
  | failed was due tick fails is cpu => exact cpu
  | crashed was due tick breaks cpu => exact cpu

theorem Phase.noBatch (phase : Phase q) (undue : ¬ (q.isRunning ∧ q.session.Due)) :
    q.updated.cpu = asked q.cpu := by
  cases phase.update with
  | idle was unfired is cpu => exact cpu
  | early was early unfired is cpu => exact cpu
  | ran was due => exact absurd ⟨was.isRunning, due⟩ undue
  | failed was due => exact absurd ⟨was.isRunning, due⟩ undue
  | crashed was due => exact absurd ⟨was.isRunning, due⟩ undue

theorem Phase.fails (phase : Phase q) (runs : q.isRunning) (due : q.session.Due)
    (result : (q.cpu.runBatch q.batch).result = .error (.fault f)) :
    q.session.poll.tick = .failed f := by
  cases phase.update with
  | idle was => simp [was.isRunning] at runs
  | early was early => exact absurd due early
  | ran was due tick done =>
      obtain ⟨count, ok⟩ := done
      cases result.symm.trans ok
  | failed was due tick fails =>
      cases result.symm.trans fails
      exact tick
  | crashed was due tick breaks => cases result.symm.trans breaks

theorem Phase.breaks (phase : Phase q) (lost : ¬ q.Returns .update) :
    q.isRunning ∧ (q.cpu.runBatch q.batch).result = .error .crash := by
  have crashed : q.session.poll.tick = .crashed := Decidable.not_not.mp lost
  cases phase.update with
  | idle was unfired => simp [crashed, Tick.fired] at unfired
  | early was early unfired => simp [crashed, Tick.fired] at unfired
  | ran was due tick => cases crashed.symm.trans tick
  | failed was due tick => cases crashed.symm.trans tick
  | crashed was due tick breaks => exact ⟨was.isRunning, breaks⟩

/-- A player in a phase is consistent. -/
theorem Phase.consistent (phase : Phase q) : Consistent q where
  single := by
    cases phase with
    | paused paused => rw [paused.subscribers, paused.isRunning]; rfl
    | running running => rw [running.subscribers, running.isRunning]; rfl
  running := by
    cases phase with
    | paused paused => simp [paused.isRunning]
    | running running => exact fun _ => ⟨running.expected, running.failure⟩
  oneBatch := phase.oneBatch
  noBatch := phase.noBatch
  fails runs due f := phase.fails runs due
  breaks := phase.breaks
  stops f failed inputs r untoggled plays := phase.stops failed untoggled plays
  toggles := by
    cases phase with
    | paused paused => rw [paused.toggle.isRunning, paused.isRunning]; rfl
    | running running => rw [running.toggle.isRunning, running.isRunning]; rfl
  clears stopped := by
    cases phase with
    | paused paused => exact paused.toggle.failure
    | running running => simp [running.isRunning] at stopped
  continues := q.cpu_toggle

/-! ## Opened players -/

/-- A player is opened paused. -/
theorem paused_of_new {program : List UInt8} {config : Config} {title : String} {seed : UInt64}
    {events : List Event} (opened : new? program config title seed = .ok (p, events)) :
    Paused p ∧ p.batch = config.batchSize := by
  obtain ⟨cpu, events, batch, -, sized, made⟩ := new?_eq_ok_iff.mp opened
  cases made
  exact ⟨⟨rfl, rfl, rfl⟩, (Config.batchSize?_eq_ok_iff.mp sized).2.symm⟩

/-- Through any calls that come back, an opened player stays consistent. -/
theorem player_consistent {program : List UInt8} {config : Config} {title : String} {seed : UInt64}
    {events : List Event} (opened : new? program config title seed = .ok (p, events))
    {inputs : List Input} (plays : Plays p inputs q) :
    q = p.handleAll inputs ∧ q.batch = config.batchSize ∧ Consistent q := by
  obtain ⟨paused, batch⟩ := paused_of_new opened
  have phase : Phase q := (Phase.paused paused).plays plays
  exact ⟨plays.eq_handleAll, plays.batch.trans batch, phase.consistent⟩

/-- A player of the program that returns at once. -/
def returning : Player where
  session := ⟨{ interval := ({} : Config).tickInterval }, 0, { cpu := .returning }⟩
  subscription := none
  batch := ({} : Config).batchSize
  holds := .replicate 16 none
  title := "return"
  quitting := false
  status := .welcome

theorem player_stops_and_starts_again :
    ∃ events q r, new? [0x00, 0xEE] {} "return" 0 = .ok (returning, events) ∧
      Plays returning [.toggle, .advance ({} : Config).tickInterval] q ∧
      q.session.poll.tick = .failed .stackUnderflow ∧
      Plays q.updated [.reset, .press 5 0] r ∧ r.isRunning = false ∧
      r.failure = some .stackUnderflow ∧ r.toggle.1.isRunning = true ∧
      r.toggle.1.failure = none ∧ r.toggle.1.cpu = r.cpu := by
  have opened : new? [0x00, 0xEE] {} "return" 0 = .ok (returning, [.storeReset 2]) := rfl
  -- Two calls that come back, whatever the player.
  have both (p : Player) (first second : Input) (one : first ≠ .update) (two : second ≠ .update) :
      Plays p [first, second] (p.handleAll [first, second]) :=
    .call (.call .start (returns_of_ne one)) (returns_of_ne two)
  let inputs := [Input.toggle, .advance ({} : Config).tickInterval]
  have plays : Plays returning inputs (returning.handleAll inputs) :=
    both returning _ _ nofun nofun
  obtain ⟨-, batch, consistent⟩ := player_consistent opened plays
  have due : (returning.handleAll inputs).session.Due := ⟨_, rfl, Nat.le_refl _⟩
  have cpu : (returning.handleAll inputs).cpu = .returning := rfl
  have failure : Cpu.returning.FailsAfter 0 (.fault .stackUnderflow) :=
    Cpu.failsAfter_zero Cpu.step_returning
  have fails := (Cpu.runBatch_of_failsAfter (n := ({} : Config).batchSize) failure (by decide)).1
  rw [← cpu, ← batch] at fails
  have failed := consistent.fails rfl due .stackUnderflow fails
  have later := both (returning.handleAll inputs).updated .reset (.press 5 0) nofun nofun
  exact ⟨_, _, _, opened, plays, failed, later,
    consistent.stops _ failed _ _ (by decide) later⟩

end Chip8.Player
