import Chip8.Host
import Chip8.Proofs.Cpu.Batch
import Chip8.Proofs.Session.Polling

/-!
# Attached machines

A machine attached to a host that calls nobody else is driven by polls, each of
which runs a batch.  Driving it comes to the same as stepping it.

The invariant of every driving is `Attachment.Phase`.  Either all ticks so far were
done, and the machine has taken a batch of steps for each of them, or the first
failing step was reached, and the machine is as that step left it.  One poll takes a
phase to a phase (`Live.poll_due`, `Ended.poll`), and no movement of the clock
leaves one.  `driven_as_stepped` collects what follows.
-/

namespace Chip8

variable {ω : Type}

/-- Nobody is subscribed, and only subscriptions that were made are noted as ended. -/
structure Scheduler.Vacant (s : Scheduler ω) : Prop where
  subscribers : s.subscribers = []
  issued : ∀ id ∈ s.removed, id < s.nextId

theorem Scheduler.Vacant.fresh {s : Scheduler ω} (vacant : s.Vacant) : s.nextId ∉ s.removed :=
  fun noted => Nat.lt_irrefl _ (vacant.issued _ noted)

theorem Host.vacant_new {δ : Type} (interval : Nat) (machines : List (Cpu δ)) :
    (Host.new interval machines).scheduler.Vacant :=
  ⟨rfl, List.forall_mem_nil _⟩

/-- A machine about to be attached to a host that calls nobody else.  The callback for errors may
do anything but touch the machine. -/
structure Attachment (δ : Type) [Display δ] where
  host : Host δ
  vacant : host.scheduler.Vacant
  index : Nat
  machine : Cpu δ
  present : host.world.machines[index]? = some machine
  batch : Nat
  positive : 0 < batch
  name : String
  onError : Fault → World δ → Reaction (World δ)
  untouched : ∀ f w, (onError f w).world.machines[index]? = w.machines[index]?

namespace Attachment

variable {δ : Type} [Display δ] {a : Attachment δ} {x : Host δ} {k s : Nat} {e : Stop}
  {ticks : List Tick}

/-- The host with the machine attached. -/
def attached (a : Attachment δ) : Host δ := (a.host.attach a.index a.name a.batch a.onError).1

/-- The subscriber that runs the machine. -/
def subscriber (a : Attachment δ) : Subscriber (World δ) :=
  ⟨a.host.scheduler.nextId, World.runMachine a.index a.batch, a.onError⟩

/-- The world with another machine in place of the attached one. -/
def worldWith (a : Attachment δ) (c : Cpu δ) : World δ :=
  { a.attached.world with machines := a.host.world.machines.set a.index c }

theorem machine_worldWith (a : Attachment δ) (c : Cpu δ) :
    (a.worldWith c).machines[a.index]? = some c := by
  obtain ⟨inside, -⟩ := List.getElem?_eq_some_iff.mp a.present
  exact List.getElem?_set_self inside

/-- A tick runs a batch of the machine and puts it back. -/
theorem onTick_worldWith (a : Attachment δ) (c : Cpu δ) :
    a.subscriber.onTick (a.worldWith c) = .ofOutcome (c.runBatch a.batch) a.worldWith := by
  change World.runMachine a.index a.batch (a.worldWith c) = _
  rw [World.runMachine, a.machine_worldWith c]
  have put (c' : Cpu δ) : { a.worldWith c with
      machines := (a.worldWith c).machines.set a.index c' } = a.worldWith c' := by
    simp only [worldWith, List.set_set]
  simp only [put]

/-! ## While the machine runs -/

/-- So many ticks are done, each a batch of the machine. -/
structure Live (a : Attachment δ) (k : Nat) (x : Host δ) : Prop where
  subscribers : x.scheduler.subscribers = [a.subscriber]
  fresh : a.subscriber.id ∉ x.scheduler.removed
  running : x.scheduler.expected.isSome
  ticks : x.scheduler.ticks = a.host.scheduler.ticks + k
  world : x.world = a.worldWith (a.machine.after (k * a.batch))
  runs : a.machine.Runs (k * a.batch)

theorem live_attached (a : Attachment δ) : a.Live 0 a.attached := by
  obtain ⟨inside, found⟩ := List.getElem?_eq_some_iff.mp a.present
  have world : a.attached.world = a.worldWith a.machine := by
    rw [worldWith, ← found, List.set_getElem_self]
    rfl
  have runs : a.machine.Runs (0 * a.batch) := by
    rw [Nat.zero_mul]
    exact Cpu.runs_zero a.machine
  refine ⟨?_, ?_, Scheduler.isRunning_subscribe _ _ _ _, Scheduler.ticks_subscribe _ _ _ _, ?_, runs⟩
  · change (Scheduler.subscribe _ _ _ _).1.subscribers = _
    rw [Scheduler.subscribers_subscribe, a.vacant.subscribers]
    rfl
  · change _ ∉ (Scheduler.subscribe _ _ _ _).1.removed
    rw [Scheduler.removed_subscribe]
    exact a.vacant.fresh
  · rw [world, Nat.zero_mul]
    rfl

/-! ## After the machine failed -/

/-- The first failing step was reached, nobody is subscribed any more, and the machine is as that
step left it. -/
structure Ended (a : Attachment δ) (s : Nat) (e : Stop) (x : Host δ) : Prop where
  failure : a.machine.FailsAfter s e
  subscribers : x.scheduler.subscribers = []
  halted : e ≠ .crash → x.scheduler.expected = none
  ticks : x.scheduler.ticks = a.host.scheduler.ticks + s / a.batch
  machine : x.world.machines[a.index]? = some (a.machine.after (s + 1))

/-- A tick that was done takes the machine a batch further. -/
theorem Live.next {y : Host δ} (live : a.Live k x)
    (runs : (a.machine.after (k * a.batch)).Runs a.batch) (ticked : x.Ticked a.subscriber y) :
    a.Live (k + 1) y where
  subscribers := ticked.subscribers
  fresh := by
    rw [ticked.removed]
    exact List.not_mem_nil
  running := ticked.running
  ticks := by rw [ticked.ticks, live.ticks, Nat.add_assoc]
  world := by
    rw [ticked.world, live.world, onTick_worldWith]
    change a.worldWith ((a.machine.after (k * a.batch)).runBatch a.batch).state = _
    rw [(Cpu.runBatch_of_runs runs).2, ← Cpu.after_add, Nat.succ_mul]
  runs := by
    rw [Nat.succ_mul]
    exact Cpu.runs_add_iff.mpr ⟨live.runs, runs⟩

theorem Live.reaction (live : a.Live k x) :
    a.subscriber.onTick x.world =
      .ofOutcome ((a.machine.after (k * a.batch)).runBatch a.batch) a.worldWith := by
  rw [live.world, onTick_worldWith]

/-- A batch with a failing step stops there, and leaves the machine as that step did. -/
theorem Live.reaction_of_failsAfter {r : Nat} (live : a.Live k x)
    (failure : (a.machine.after (k * a.batch)).FailsAfter r e) (inside : r < a.batch) :
    (a.subscriber.onTick x.world).stop = some e ∧
      (a.subscriber.onTick x.world).world =
        a.worldWith (a.machine.after (k * a.batch + r + 1)) := by
  obtain ⟨failed, state⟩ := Cpu.runBatch_of_failsAfter failure inside
  rw [live.reaction, TickReaction.ofOutcome]
  refine ⟨?_, ?_⟩
  · simp only [failed]
  · rw [Nat.add_assoc, Cpu.after_add, ← state]

/-- The tick in which the first failing step lies is told by its number. -/
theorem Live.ended {r : Nat} {y : Host δ} (live : a.Live k x)
    (failure : (a.machine.after (k * a.batch)).FailsAfter r e) (inside : r < a.batch)
    (nobody : y.scheduler.subscribers = []) (halted : e ≠ .crash → y.scheduler.expected = none)
    (kept : y.scheduler.ticks = x.scheduler.ticks)
    (machine : y.world.machines[a.index]? = some (a.machine.after (k * a.batch + r + 1))) :
    (k * a.batch + r) / a.batch = k ∧ a.Ended (k * a.batch + r) e y := by
  have tickOf : (k * a.batch + r) / a.batch = k := by
    rw [Nat.mul_comm, Nat.mul_add_div a.positive, Nat.div_eq_of_lt inside, Nat.add_zero]
  refine ⟨tickOf, failure.of_after live.runs, nobody, halted, ?_, machine⟩
  rw [kept, live.ticks, tickOf]

/-- A due poll runs the next batch, or comes to the first failing step in it. -/
theorem Live.poll_due (live : a.Live k x) (due : x.Due) :
    x.poll.tick = .ticked ∧ a.Live (k + 1) x.poll.session ∨
      ∃ s e, (s / a.batch = k ∧ a.Ended s e x.poll.session) ∧
        ((∃ f, e = .fault f ∧ x.poll.tick = .failed f ∧
          x.poll.session.world = (a.onError f (a.worldWith (a.machine.after (s + 1)))).world) ∨
        e = .crash ∧ x.poll.tick = .crashed) := by
  have quiet : (a.subscriber.onTick x.world).ended = [] := by
    rw [live.reaction]
    rfl
  rcases Cpu.runs_or_failsAfter (a.machine.after (k * a.batch)) a.batch with
    runs | ⟨r, inside, e, failure⟩
  · have done : (a.subscriber.onTick x.world).stop = none := by
      rw [live.reaction, TickReaction.ofOutcome]
      simp only [(Cpu.runBatch_of_runs runs).1]
    obtain ⟨fired, ticked⟩ := Session.poll_of_done due live.subscribers live.fresh quiet done
    exact .inl ⟨fired, live.next runs ticked⟩
  · obtain ⟨stop, world⟩ := live.reaction_of_failsAfter failure inside
    refine .inr ⟨k * a.batch + r, e, ?_⟩
    cases e with
    | fault f =>
        obtain ⟨fired, rest, kept, told⟩ :=
          Session.poll_of_fault due live.subscribers live.fresh quiet stop
        rw [world] at told
        refine ⟨live.ended failure inside rest.subscribers (fun _ => rest.expected) kept ?_,
          .inl ⟨f, rfl, fired, told⟩⟩
        rw [told]
        exact (a.untouched _ _).trans (a.machine_worldWith _)
    | crash =>
        obtain ⟨fired, nobody, kept, left⟩ := Session.poll_of_crash due live.subscribers stop
        rw [world] at left
        refine ⟨live.ended failure inside nobody (fun h => absurd rfl h) kept ?_, .inr ⟨rfl, fired⟩⟩
        rw [left, machine_worldWith]

theorem Ended.poll (ended : a.Ended s e x) :
    x.poll.tick.fired = false ∧ a.Ended s e x.poll.session := by
  obtain ⟨unfired, subscribers, kept, world, halted⟩ := Session.poll_of_nobody ended.subscribers
  refine ⟨unfired, ended.failure, subscribers, fun fault => halted (ended.halted fault), ?_, ?_⟩
  · rw [kept, ended.ticks]
  · rw [world, ended.machine]

/-! ## Every driving -/

/-- Where a driving has got to. -/
inductive Phase (a : Attachment δ) (ticks : List Tick) (x : Host δ) : Prop where
  /-- All ticks so far were done. -/
  | live (live : a.Live (ticks.countP Tick.fired) x) (done : ∀ tick ∈ ticks, tick.broke = false)
  /-- One was not. -/
  | ended {s : Nat} {e : Stop} (ended : a.Ended s e x) (broke : ∃ tick ∈ ticks, tick.broke = true)
      (fired : ticks.countP Tick.fired = s / a.batch + 1)

theorem countP_fired_append (ticks : List Tick) (tick : Tick) :
    (ticks ++ [tick]).countP Tick.fired =
      ticks.countP Tick.fired + if tick.fired then 1 else 0 := by
  rw [List.countP_append, List.countP_singleton]

theorem done_append {tick : Tick} (done : ∀ tick ∈ ticks, tick.broke = false)
    (last : tick.broke = false) : ∀ tick' ∈ ticks ++ [tick], tick'.broke = false := by
  intro tick' membership
  rcases List.mem_append.mp membership with old | new
  · exact done tick' old
  · rw [List.mem_singleton.mp new]
    exact last

theorem Phase.poll_live (live : a.Live (ticks.countP Tick.fired) x)
    (done : ∀ tick ∈ ticks, tick.broke = false) :
    a.Phase (ticks ++ [x.poll.tick]) x.poll.session := by
  by_cases due : x.Due
  · rcases live.poll_due due with ⟨ticked, next⟩ | ⟨s, e, ⟨tickOf, ended⟩, broke⟩
    · refine .live ?_ (done_append done (by rw [ticked]; rfl))
      rw [countP_fired_append, ticked]
      exact next
    · have last : x.poll.tick.broke = true ∧ x.poll.tick.fired = true := by
        rcases broke with ⟨f, -, failed, -⟩ | ⟨-, crashed⟩
        · rw [failed]
          exact ⟨rfl, rfl⟩
        · rw [crashed]
          exact ⟨rfl, rfl⟩
      refine .ended ended ⟨_, List.mem_append_right _ (List.mem_singleton_self _), last.1⟩ ?_
      rw [countP_fired_append, last.2, tickOf]
      rfl
  · obtain ⟨wait, pending⟩ := Session.poll_of_not_due live.running due
    rw [pending]
    refine .live ?_ (done_append done rfl)
    rw [countP_fired_append]
    exact live

/-- Every driving of an attached machine is in a phase. -/
theorem phase_of_driven (driven : a.attached.Driven ticks x) : a.Phase ticks x := by
  induction driven with
  | start => exact .live a.live_attached (List.forall_mem_nil _)
  | advance driven time ih =>
      -- A phase does not speak of the clock.
      cases ih with
      | live live done =>
          exact .live ⟨live.subscribers, live.fresh, live.running, live.ticks, live.world,
            live.runs⟩ done
      | ended ended broke fired =>
          exact .ended ⟨ended.failure, ended.subscribers, ended.halted, ended.ticks,
            ended.machine⟩ broke fired
  | poll driven ih =>
      cases ih with
      | live live done => exact .poll_live live done
      | ended ended broke fired =>
          -- Nobody is left to call, so the count of fired polls stays.
          obtain ⟨unfired, still⟩ := ended.poll
          obtain ⟨tick, membership, broken⟩ := broke
          refine .ended still ⟨tick, List.mem_append_left _ membership, broken⟩ ?_
          rw [countP_fired_append, unfired, fired]
          rfl

end Attachment

end Chip8
