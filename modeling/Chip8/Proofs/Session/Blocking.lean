import Chip8.Proofs.Session.Delivery

/-!
# Runs that block

`Session.run` polls until the schedule halts and sleeps until the deadline in between.
It counts nothing, so whether and when it comes to an end is up to the callbacks.  They
see the world and not the clock.  Who is there after so many ticks can therefore be
told without it (`Company.after`), and so can whether everyone leaves (`Company.Leaves`)
or someone fails (`Company.Fails`).

A run is told by the answers of its polls (`Runs`, which `run_iff` ties to the fuel of
`Session.run`).  Between two ticks it sleeps at most once, as a sleep ends at the
deadline.  When everyone leaves in a tick there is one more deadline, at which a poll
finds nobody, and when someone fails there is none (`run_ends_on_time`).
-/

namespace Chip8

variable {ω : Type}

/-! ## Ticks without a clock -/

/-- A world and those who are called on it. -/
structure Company (ω : Type) where
  /-- The world. -/
  world : ω
  /-- Those who are called, oldest first. -/
  subscribers : List (Subscriber ω)

namespace Company

variable {c : Company ω} {n : Nat} {f : Fault}

/-- What a tick leaves in which no callback stops. -/
def next (c : Company ω) : Company ω :=
  let r := Round.ticks c.world c.subscribers
  ⟨r.world, c.subscribers.filter (·.id ∉ r.removed)⟩

/-- What so many ticks leave. -/
def after (c : Company ω) : Nat → Company ω
  | 0 => c
  | n + 1 => (c.after n).next

/-- For each of so many ticks there is someone to call, and no callback stops in them. -/
structure Lasts (c : Company ω) (n : Nat) : Prop where
  someone : ∀ k < n, (c.after k).subscribers ≠ []
  done : ∀ k < n, Round.AllDone (c.after k).world (c.after k).subscribers

/-- The last who remain leave during the tick of this number. -/
structure Leaves (c : Company ω) (n : Nat) : Prop where
  lasts : c.Lasts n
  nobody : (c.after n).subscribers = []

/-- In the next tick a callback fails, and is the first to stop. -/
def FailsNext (c : Company ω) (f : Fault) : Prop :=
  ∃ before failing rest, c.subscribers = before ++ failing :: rest ∧
    Round.AllDone c.world before ∧
    (failing.onTick (Round.ticks c.world before).world).stop = some (.fault f)

/-- So many ticks are done, and the next one fails. -/
structure Fails (c : Company ω) (n : Nat) (f : Fault) : Prop where
  lasts : c.Lasts n
  next : (c.after n).FailsNext f

/-- No callback takes any time. -/
def Still (c : Company ω) : Prop :=
  ∀ sub ∈ c.subscribers, (∀ world, (sub.onTick world).elapsed = 0) ∧
    ∀ f world, (sub.onError f world).elapsed = 0

theorem Lasts.of_succ (lasts : c.Lasts (n + 1)) : c.Lasts n where
  someone k below := lasts.someone k (Nat.lt_succ_of_lt below)
  done k below := lasts.done k (Nat.lt_succ_of_lt below)

theorem subset_after (c : Company ω) (n : Nat) : (c.after n).subscribers ⊆ c.subscribers := by
  induction n with
  | zero => exact List.Subset.refl _
  | succ n ih => exact List.Subset.trans List.filter_sublist.subset ih

theorem Still.after (still : c.Still) (n : Nat) : (c.after n).Still :=
  fun sub among => still sub (c.subset_after n among)

theorem Still.elapsed_ticks (still : c.Still) {called : List (Subscriber ω)}
    (among : called ⊆ c.subscribers) (world : ω) : (Round.ticks world called).elapsed = 0 :=
  Round.elapsed_calls (fun sub member => (still sub (among member)).1) world

theorem Still.elapsed_tells (still : c.Still) {told : List (Subscriber ω)}
    (among : told ⊆ c.subscribers) (f : Fault) (world : ω) :
    (Round.tells f world told).elapsed = 0 :=
  Round.elapsed_calls (fun sub member => (still sub (among member)).2 f) world

end Company

/-! ## The polls of a run -/

namespace Tick

/-- What a run comes to with a poll, none when it goes on. -/
def result? : Tick → Option (Except Stop Unit)
  | .idle => some (.ok ())
  | .failed f => some (.error (.fault f))
  | .crashed => some (.error .crash)
  | .pending _ | .ticked => none

/-- Whether a run sleeps after a poll. -/
def sleeps : Tick → Bool
  | .pending _ => true
  | .idle | .ticked | .failed _ | .crashed => false

end Tick

namespace Tick

variable {t : Tick} {result : Except Stop Unit}

theorem count_ticked_of_result (ends : t.result? = some result) : [t].count .ticked = 0 := by
  cases t <;> first | rfl | cases ends

theorem countP_sleeps_of_result (ends : t.result? = some result) : [t].countP sleeps = 0 := by
  cases t <;> first | rfl | cases ends

end Tick

namespace Session

variable {s x y : Session ω} {polls : List Tick} {result : Except Stop Unit} {deadline : Nat}

/-- The session that the next poll of a run meets. -/
def resumed (x : Session ω) : Session ω :=
  match x.poll.tick with
  | .pending wait => x.poll.session.advance wait
  | .idle | .ticked | .failed _ | .crashed => x.poll.session

/-- A run goes on through polls that came to these answers. -/
inductive GoesOn (s : Session ω) : List Tick → Session ω → Prop where
  | start : GoesOn s [] s
  | poll {polls : List Tick} {x : Session ω} (on : GoesOn s polls x)
      (goes : x.poll.tick.result? = none) : GoesOn s (polls ++ [x.poll.tick]) x.resumed

/-- A run polls so often and returns with a result. -/
inductive Runs (s : Session ω) : List Tick → Except Stop Unit → Session ω → Prop where
  | stop {polls : List Tick} {x : Session ω} {result : Except Stop Unit} (on : s.GoesOn polls x)
      (stops : x.poll.tick.result? = some result) :
      Runs s (polls ++ [x.poll.tick]) result x.poll.session

theorem run_succ (fuel : Nat) (x : Session ω) (seen : List Event) :
    run (fuel + 1) x seen =
      match x.poll.tick.result? with
      | some result => some ⟨⟨result, x.poll.session⟩, seen ++ x.poll.events⟩
      | none => run fuel x.resumed (seen ++ x.poll.events) := by
  rw [run, resumed]
  cases x.poll.tick <;> rfl

theorem GoesOn.run_eq (on : s.GoesOn polls x) (fuel : Nat) (seen : List Event) :
    ∃ events, run (polls.length + fuel) s seen = run fuel x events := by
  induction on generalizing fuel with
  | start => exact ⟨seen, by rw [List.length_nil, Nat.zero_add]⟩
  | @poll polls x on goes ih =>
      obtain ⟨events, ran⟩ := ih (fuel + 1)
      refine ⟨events ++ x.poll.events, ?_⟩
      rw [List.length_append, List.length_singleton, Nat.add_assoc, Nat.add_comm 1, ran, run_succ,
        goes]

theorem Runs.run_eq (runs : s.Runs polls result y) {fuel : Nat} (enough : polls.length ≤ fuel)
    (seen : List Event) : ∃ events, run fuel s seen = some ⟨⟨result, y⟩, events⟩ := by
  cases runs with
  | @stop polls x result on stops =>
      rw [List.length_append, List.length_singleton] at enough
      obtain ⟨spare, rfl⟩ := Nat.exists_eq_add_of_le enough
      obtain ⟨events, ran⟩ := on.run_eq (spare + 1) seen
      refine ⟨events ++ x.poll.events, ?_⟩
      rw [Nat.add_assoc, Nat.add_comm 1, ran, run_succ, stops]

theorem GoesOn.exists_runs (on : s.GoesOn polls x) {fuel : Nat} {seen : List Event}
    {out : Outcome (Session ω) Unit} (ran : run fuel x seen = some out) :
    ∃ all, all.length ≤ polls.length + fuel ∧ s.Runs all out.result out.state := by
  induction fuel generalizing polls x seen with
  | zero => cases ran
  | succ fuel ih =>
      have longer : (polls ++ [x.poll.tick]).length = polls.length + 1 := List.length_append
      rw [run_succ] at ran
      cases came : x.poll.tick.result? with
      | some result =>
          rw [came] at ran
          cases ran
          refine ⟨_, ?_, .stop on came⟩
          omega
      | none =>
          rw [came] at ran
          obtain ⟨all, bound, runs⟩ := ih (.poll on came) ran
          refine ⟨all, ?_, runs⟩
          omega

/-- A run with fuel returns when it returns with that many polls or fewer. -/
theorem run_iff {fuel : Nat} {seen : List Event} :
    (∃ events, run fuel s seen = some ⟨⟨result, y⟩, events⟩) ↔
      ∃ polls, polls.length ≤ fuel ∧ s.Runs polls result y := by
  constructor
  · rintro ⟨events, ran⟩
    obtain ⟨polls, bound, runs⟩ := GoesOn.start.exists_runs ran
    exact ⟨polls, by simpa using bound, runs⟩
  · rintro ⟨polls, enough, runs⟩
    exact runs.run_eq enough seen

/-! ## From tick to tick -/

/-- The company of a session. -/
def company (x : Session ω) : Company ω := ⟨x.world, x.scheduler.subscribers⟩

/-- The session when a deadline is due that may lie ahead. -/
def awoken (x : Session ω) (deadline : Nat) : Session ω := x.advance (deadline - x.now)

theorem le_now_awoken (x : Session ω) (deadline : Nat) : deadline ≤ (x.awoken deadline).now := by
  change deadline ≤ x.now + (deadline - x.now)
  omega

/-- A run sleeps until its deadline at once, and not at all when that is due. -/
theorem GoesOn.wait (on : s.GoesOn polls x) (expected : x.scheduler.expected = some deadline) :
    ∃ waits, s.GoesOn (polls ++ waits) (x.awoken deadline) ∧ waits.count .ticked = 0 ∧
      waits.countP Tick.sleeps ≤ 1 := by
  by_cases early : x.now < deadline
  · have poll := poll_of_early expected early
    have later := on.poll (by rw [poll]; rfl)
    rw [resumed, poll] at later
    exact ⟨_, later, rfl, Nat.le_refl _⟩
  · rw [awoken, Nat.sub_eq_zero_of_le (Nat.not_lt.mp early)]
    refine ⟨[], ?_, rfl, Nat.zero_le _⟩
    rw [List.append_nil]
    exact on

theorem GoesOn.tick (on : s.GoesOn polls x) (expected : x.scheduler.expected = some deadline)
    (due : deadline ≤ x.now) (someone : x.scheduler.subscribers ≠ [])
    (done : Round.AllDone x.world x.scheduler.subscribers) :
    s.GoesOn (polls ++ [.ticked]) (x.afterTick deadline) := by
  obtain ⟨tick, session⟩ := poll_of_allDone expected due someone done
  have later := on.poll (by rw [tick]; rfl)
  rw [resumed, tick, session] at later
  exact later

theorem company_afterTick (unnoted : x.scheduler.removed = []) :
    (x.afterTick deadline).company = x.company.next := by
  have stay (r : Round ω) : x.kept r = x.scheduler.subscribers.filter (·.id ∉ r.removed) := by
    simp [kept, unnoted]
  exact congrArg (Company.mk _) (stay _)

/-- A tick that fails takes no time when callbacks take none. -/
theorem now_afterFailure {before rest : List (Subscriber ω)} {failing : Subscriber ω}
    (still : x.company.Still) (split : x.scheduler.subscribers = before ++ failing :: rest)
    (f : Fault) (removed : List Nat) :
    (x.afterFailure (before ++ [failing]) f removed).now = x.now := by
  have called : before ++ [failing] ⊆ x.company.subscribers := Round.upTo_subset split
  have told (r : Round ω) : x.kept r ⊆ x.company.subscribers := List.filter_sublist.subset
  rw [afterFailure]
  dsimp only
  rw [still.elapsed_ticks called, still.elapsed_tells (told _)]
  rfl

/-- A session before its first tick, which is due at a time. -/
structure Poised (s : Session ω) (interval first : Nat) : Prop where
  every : s.scheduler.interval = interval
  unnoted : s.scheduler.removed = []
  expected : s.scheduler.expected = some first
  early : s.now ≤ first
  ticks : s.scheduler.ticks = 0

/-- A run between two ticks, after so many of them. -/
structure Between (s : Session ω) (interval first n : Nat) (polls : List Tick) (x : Session ω)
    (deadline : Nat) : Prop where
  on : s.GoesOn polls x
  company : x.company = s.company.after n
  unnoted : x.scheduler.removed = []
  expected : x.scheduler.expected = some deadline
  every : x.scheduler.interval = interval
  ticks : x.scheduler.ticks = n
  ticked : polls.count .ticked = n
  sleeps : polls.countP Tick.sleeps ≤ n
  /-- When callbacks take no time no tick is late. -/
  punctual : s.company.Still → x.now ≤ deadline ∧ deadline = first + n * interval

section
variable {interval first n : Nat} (between : s.Between interval first n polls x deadline)

include between in
theorem Between.still (still : s.company.Still) : x.company.Still := by
  rw [between.company]
  exact still.after n

include between in
theorem Between.now_awoken (still : s.company.Still) :
    (x.awoken deadline).now = first + n * interval := by
  obtain ⟨before, grid⟩ := between.punctual still
  change x.now + (deadline - x.now) = _
  omega

include between in
theorem Between.wake : ∃ all, s.GoesOn all (x.awoken deadline) ∧ all.count .ticked = n ∧
    all.countP Tick.sleeps ≤ n + 1 := by
  obtain ⟨waits, on, none, once⟩ := between.on.wait between.expected
  refine ⟨_, on, ?_, ?_⟩
  · rw [List.count_append, between.ticked, none, Nat.add_zero]
  · rw [List.countP_append]
    exact Nat.add_le_add between.sleeps once

include between in
theorem Between.next (someone : (s.company.after n).subscribers ≠ [])
    (done : Round.AllDone (s.company.after n).world (s.company.after n).subscribers) :
    ∃ polls x deadline, s.Between interval first (n + 1) polls x deadline := by
  obtain ⟨all, on, ticked, sleeps⟩ := between.wake
  rw [← between.company] at someone done
  refine ⟨_, _, _, {
    on := on.tick between.expected (x.le_now_awoken deadline) someone done
    company := ?company
    unnoted := rfl
    expected := rfl
    every := between.every
    ticks := congrArg (· + 1) between.ticks
    ticked := ?ticked
    sleeps := ?sleeps
    punctual := ?punctual }⟩
  case company =>
    rw [Company.after, ← between.company]
    exact company_afterTick between.unnoted
  case ticked =>
    rw [List.count_append, ticked]
    rfl
  case sleeps =>
    rw [List.countP_append]
    exact sleeps
  case punctual =>
    intro still
    obtain ⟨before, grid⟩ := between.punctual still
    have same : (x.awoken deadline).scheduler.interval = interval := between.every
    have onTime : (x.awoken deadline).now ≤ deadline + (x.awoken deadline).scheduler.interval := by
      rw [between.now_awoken still, grid]
      exact Nat.le_add_right _ _
    have quick : (Round.ticks x.world x.scheduler.subscribers).elapsed = 0 :=
      (between.still still).elapsed_ticks (List.Subset.refl _) _
    change (x.awoken deadline).now + (Round.ticks x.world x.scheduler.subscribers).elapsed ≤
      (x.awoken deadline).following deadline ∧ (x.awoken deadline).following deadline = _
    rw [quick, following, if_pos onTime]
    refine ⟨onTime, ?_⟩
    rw [same, grid, Nat.add_assoc, Nat.succ_mul]

/-- As long as the company lasts a run gets to the ticks, one after the other. -/
theorem exists_between (poised : s.Poised interval first) (lasts : s.company.Lasts n) :
    ∃ polls x deadline, s.Between interval first n polls x deadline := by
  induction n with
  | zero =>
      refine ⟨[], s, first, .start, rfl, poised.unnoted, poised.expected, poised.every,
        poised.ticks, rfl, Nat.le_refl _, ?_⟩
      intro still
      exact ⟨poised.early, by rw [Nat.zero_mul, Nat.add_zero]⟩
  | succ n ih =>
      obtain ⟨polls, x, deadline, between⟩ := ih lasts.of_succ
      exact between.next (lasts.someone n (Nat.lt_succ_self n)) (lasts.done n (Nat.lt_succ_self n))

end

/-! ## The end of a run -/

/-- A run that returns after so many ticks, with nobody left and nothing scheduled. -/
structure Returns (s : Session ω) (n last : Nat) (result : Except Stop Unit) (polls : List Tick)
    (y : Session ω) : Prop where
  runs : s.Runs polls result y
  /-- Fuel for these polls is enough, and more makes no difference. -/
  ran : ∀ fuel seen, polls.length ≤ fuel → ∃ events, run fuel s seen = some ⟨⟨result, y⟩, events⟩
  halted : y.AtRest
  ticks : y.scheduler.ticks = n
  ticked : polls.count .ticked = n
  /-- There is at most one sleep for each tick, and one more. -/
  sleeps : polls.countP Tick.sleeps ≤ n + 1
  /-- When callbacks take no time the run returns at this time. -/
  now : s.company.Still → y.now = last

section
variable {interval first n : Nat} {f : Fault}

/-- The poll with which a run ends, at a deadline, leaves the clock to the callbacks. -/
theorem Between.returns {tick : Tick} (between : s.Between interval first n polls x deadline)
    (polled : (x.awoken deadline).poll.tick = tick) (ends : tick.result? = some result)
    (left : (x.awoken deadline).poll.session = y) (halted : y.AtRest)
    (ticks : y.scheduler.ticks = x.scheduler.ticks)
    (now : x.company.Still → y.now = (x.awoken deadline).now) :
    ∃ polls, s.Returns n (first + n * interval) result polls y := by
  obtain ⟨all, on, ticked, sleeps⟩ := between.wake
  subst polled left
  refine ⟨_, .stop on ends, fun fuel seen enough => Runs.run_eq (.stop on ends) enough seen, halted,
    ticks.trans between.ticks, ?_, ?_, ?_⟩
  · rw [List.count_append, ticked, Tick.count_ticked_of_result ends, Nat.add_zero]
  · rw [List.countP_append, Tick.countP_sleeps_of_result ends, Nat.add_zero]
    exact sleeps
  · intro still
    rw [now (between.still still), between.now_awoken still]

theorem exists_returns_of_leaves (poised : s.Poised interval first) (leaves : s.company.Leaves n) :
    ∃ polls y, s.Returns n (first + n * interval) (.ok ()) polls y := by
  obtain ⟨polls, x, deadline, between⟩ := exists_between poised leaves.lasts
  have nobody : x.company.subscribers = [] := by
    rw [between.company]
    exact leaves.nobody
  obtain ⟨tick, session⟩ := poll_of_deserted (x := x.awoken deadline) between.expected
    (x.le_now_awoken deadline) nobody
  obtain ⟨all, returns⟩ := between.returns tick rfl session ⟨nobody, rfl⟩ rfl fun _ => rfl
  exact ⟨all, _, returns⟩

theorem exists_returns_of_fails (poised : s.Poised interval first) (fails : s.company.Fails n f) :
    ∃ polls y, s.Returns n (first + n * interval) (.error (.fault f)) polls y := by
  obtain ⟨polls, x, deadline, between⟩ := exists_between poised fails.lasts
  obtain ⟨before, failing, rest, split, done, stopped⟩ := fails.next
  rw [← between.company] at split done stopped
  obtain ⟨tick, removed, session⟩ := poll_of_first_fault (x := x.awoken deadline)
    between.expected (x.le_now_awoken deadline) split done stopped
  have now (still : x.company.Still) :=
    now_afterFailure (x := x.awoken deadline) still split f removed
  obtain ⟨all, returns⟩ := between.returns tick rfl session ⟨rfl, rfl⟩ rfl now
  exact ⟨all, _, returns⟩

end

/-! ## Runs of a new session -/

/-- What a subscriber does in a tick, and what on an error. -/
abbrev Callbacks (ω : Type) := (ω → TickReaction ω) × (Fault → ω → Reaction ω)

/-- A new session with some subscribers. -/
def newWith (interval now : Nat) (world : ω) (callbacks : List (Callbacks ω)) : Session ω :=
  callbacks.foldl (fun x callback => x.subscribe callback.1 callback.2) (new interval now world)

theorem Poised.subscribe {interval first : Nat} (poised : s.Poised interval first)
    (onTick : ω → TickReaction ω) (onError : Fault → ω → Reaction ω) :
    (s.subscribe onTick onError).Poised interval first := by
  rw [Session.subscribe, Scheduler.fst_subscribe, poised.expected]
  exact { poised with expected := rfl }

/-- The first to subscribe sets the deadline, and the others join. -/
theorem poised_newWith (interval now : Nat) (world : ω) {callbacks : List (Callbacks ω)}
    (someone : callbacks ≠ []) :
    (newWith interval now world callbacks).Poised interval (now + interval) := by
  have more {s : Session ω} (poised : s.Poised interval (now + interval)) :
      (callbacks.tail.foldl (fun x callback => x.subscribe callback.1 callback.2) s).Poised interval
        (now + interval) := by
    induction callbacks.tail generalizing s with
    | nil => exact poised
    | cons callback rest ih => exact ih (poised.subscribe _ _)
  cases callbacks with
  | nil => exact absurd rfl someone
  | cons callback rest => exact more ⟨rfl, rfl, rfl, Nat.le_add_right _ _, rfl⟩

/-- Runs of a session whose subscribers came at one time. -/
structure EndsOnTime (s : Session ω) (interval start : Nat) : Prop where
  /-- When the last who remain leave in a tick, the run goes on to the deadline after it. -/
  left : ∀ n, s.company.Leaves n →
    ∃ polls y, s.Returns n (start + (n + 1) * interval) (.ok ()) polls y
  /-- When a tick fails, the run goes on to no other. -/
  failed : ∀ n f, s.company.Fails n f →
    ∃ polls y, s.Returns n (start + (n + 1) * interval) (.error (.fault f)) polls y

/-- A run returns when everyone leaves and when a callback fails, and callbacks that take no time
let it return on time. -/
theorem run_ends_on_time (interval now : Nat) (world : ω) {callbacks : List (Callbacks ω)}
    (someone : callbacks ≠ []) :
    (newWith interval now world callbacks).EndsOnTime interval now := by
  have poised := poised_newWith interval now world someone
  have last (n : Nat) : now + (n + 1) * interval = now + interval + n * interval := by
    rw [Nat.succ_mul, Nat.add_comm (n * interval), Nat.add_assoc]
  constructor
  case left =>
    intro n leaves
    rw [last]
    exact exists_returns_of_leaves poised leaves
  case failed =>
    intro n f fails
    rw [last]
    exact exists_returns_of_fails poised fails

/-! ## Two runs -/

/-- A tick callback that writes to a journal, and acts otherwise once that has a length. -/
def writingUntil (id length : Nat) (last : List Nat → TickReaction (List Nat))
    (journal : List Nat) : TickReaction (List Nat) :=
  if journal.length < length then writing id [] journal else last journal

/-- The first leaves in the first tick, and the second in the second. -/
def leavingInTurn : Session (List Nat) :=
  newWith 10 100 [] [(writing 0 [0], ignoring), (writingUntil 1 2 (writing 1 [1]), ignoring)]

/-- The second fails in the second tick. -/
def failingLater : Session (List Nat) :=
  newWith 10 100 [] [(writing 0 [], ignoring),
    (writingUntil 1 3 fun journal => { world := journal, stop := some (.fault .stackUnderflow) },
      ignoring)]

theorem elapsed_writingUntil {id length : Nat} {last : List Nat → TickReaction (List Nat)}
    (still : ∀ journal, (last journal).elapsed = 0) (journal : List Nat) :
    (writingUntil id length last journal).elapsed = 0 := by
  unfold writingUntil
  split
  · rfl
  · exact still journal

theorem leaves_leavingInTurn : leavingInTurn.company.Leaves 2 where
  lasts := {
    someone := fun
      | 0, _ => List.cons_ne_nil _ _
      | 1, _ => List.cons_ne_nil _ _
    done := fun
      | 0, _ => ⟨rfl, rfl, trivial⟩
      | 1, _ => ⟨rfl, trivial⟩ }
  nobody := rfl

theorem still_leavingInTurn : leavingInTurn.company.Still
  | _, .head _ => ⟨fun _ => rfl, fun _ _ => rfl⟩
  | _, .tail _ (.head _) => ⟨elapsed_writingUntil fun _ => rfl, fun _ _ => rfl⟩

theorem fails_failingLater : failingLater.company.Fails 1 .stackUnderflow where
  lasts := {
    someone := fun
      | 0, _ => List.cons_ne_nil _ _
    done := fun
      | 0, _ => ⟨rfl, rfl, trivial⟩ }
  next := ⟨[_], _, [], rfl, ⟨rfl, trivial⟩, rfl⟩

theorem still_failingLater : failingLater.company.Still
  | _, .head _ => ⟨fun _ => rfl, fun _ _ => rfl⟩
  | _, .tail _ (.head _) => ⟨elapsed_writingUntil fun _ => rfl, fun _ _ => rfl⟩

theorem two_runs_end :
    (∃ polls y, leavingInTurn.Runs polls (.ok ()) y ∧ y.scheduler.ticks = 2 ∧ y.now = 130) ∧
      ∃ polls y, failingLater.Runs polls (.error (.fault .stackUnderflow)) y ∧
        y.scheduler.ticks = 1 ∧ y.now = 120 := by
  have someone (callbacks : Callbacks (List Nat)) (rest : List (Callbacks (List Nat))) :
      callbacks :: rest ≠ [] := List.cons_ne_nil _ _
  obtain ⟨polls, y, left⟩ :=
    (run_ends_on_time 10 100 [] (someone _ _)).left 2 leaves_leavingInTurn
  obtain ⟨others, z, failed⟩ :=
    (run_ends_on_time 10 100 [] (someone _ _)).failed 1 .stackUnderflow fails_failingLater
  exact ⟨⟨polls, y, left.runs, left.ticks, left.now still_leavingInTurn⟩,
    others, z, failed.runs, failed.ticks, failed.now still_failingLater⟩

end Session

end Chip8
