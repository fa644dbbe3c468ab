import Chip8.Cpu.Build
import Chip8.Cpu.Request
import Chip8.Scheduler

/-!
# Hosts

A host drives any number of machines from one scheduler.  It gives every
subscription a name, and a name always means the latest subscription made under
it.

Two kinds of subscribers work on a host's world.  An *attached machine* runs a
batch of instructions in every tick.  A *script* lists what a subscriber does in
each of its calls: end subscriptions, let the clock move on, or fail.  Every call
of a script and every error that reaches a subscriber leaves a notice.
-/

namespace Chip8

/-- Something a subscriber was told. -/
inductive Notice where
  /-- It was called, for the time of this number counted from zero. -/
  | called (name : String) (call : Nat)
  /-- It was told why a tick failed. -/
  | failed (name message : String)
deriving DecidableEq, Repr

/-- What the callbacks of a host work on.  Its machines have displays of one kind. -/
structure World (δ : Type := FrameBuffer) where
  /-- The machines. -/
  machines : List (Cpu δ) := []
  /-- The subscription each name stands for, the latest first. -/
  handles : List (String × Nat) := []
  /-- The subscription of every call of a script, the latest first. -/
  calls : List Nat := []
  /-- The notices, oldest first. -/
  notices : List Notice := []

/-- Something a script does in a call. -/
inductive Action where
  /-- End the subscription of a name, if it stands for one. -/
  | unsubscribe (name : String)
  /-- Let the clock move on. -/
  | advance (time : Nat)
  /-- Fail.  Nothing after it is done in this call. -/
  | fail (f : Fault)
deriving DecidableEq, Repr

/-- What a subscriber does. -/
structure Script where
  /-- The actions of each call.  It does nothing in the calls after them. -/
  onTick : List (List Action) := []
  /-- The subscriptions it ends when it is told of an error. -/
  onError : List String := []
deriving DecidableEq, Repr

variable {δ : Type}

namespace World

/-- The subscription a name stands for. -/
def handle? (w : World δ) (name : String) : Option Nat := List.lookup name w.handles

/-- The world with another notice. -/
def notice (w : World δ) (n : Notice) : World δ := { w with notices := w.notices ++ [n] }

/-- The reaction of some actions. -/
def act (w : World δ) : List Action → TickReaction (World δ)
  | [] => { world := w }
  | .unsubscribe name :: rest =>
      let x := w.act rest
      { x with ended := (w.handle? name).toList ++ x.ended }
  | .advance time :: rest =>
      let x := w.act rest
      { x with elapsed := time + x.elapsed }
  | .fail f :: _ => { world := w, stop := some (.fault f) }

/-- A call of a script in a tick. -/
def callScript (script : Script) (name : String) (id : Nat) (w : World δ) :
    TickReaction (World δ) :=
  let call := w.calls.count id
  let w := { w with calls := id :: w.calls }.notice (.called name call)
  w.act (script.onTick.getD call [])

/-- What a named subscriber does when it is told of an error. -/
def tellError (ended : List String) (name : String) (f : Fault) (w : World δ) :
    Reaction (World δ) where
  world := w.notice (.failed name f.message)
  ended := ended.filterMap w.handle?

/-- A batch of the machine at an index. -/
def runMachine [Display δ] (index batch : Nat) (w : World δ) : TickReaction (World δ) :=
  match w.machines[index]? with
  | none => { world := w }
  | some c => .ofOutcome (c.runBatch batch) fun c => { w with machines := w.machines.set index c }

end World

/-- A session whose subscriptions have names. -/
abbrev Host (δ : Type := FrameBuffer) := Session (World δ)

namespace Host

/-- A host at time zero. -/
def new (interval : Nat) (machines : List (Cpu δ)) : Host δ :=
  ⟨{ interval }, 0, { machines }⟩

/-- The host with another subscription under a name. -/
def subscribe (h : Host δ) (name : String) (onTick : Nat → World δ → TickReaction (World δ))
    (onError : Fault → World δ → Reaction (World δ)) : Host δ × List Event :=
  let id := h.scheduler.nextId
  let (scheduler, events) := h.scheduler.subscribe h.now (onTick id) onError
  ({ h with scheduler, world.handles := (name, id) :: h.world.handles }, events)

/-- The host with a script as a subscriber. -/
def subscribeScript (h : Host δ) (name : String) (script : Script) : Host δ × List Event :=
  h.subscribe name (World.callScript script name) (World.tellError script.onError name)

/-- The host with a machine as a subscriber.  Unless someone else listens to its errors, they leave
notices. -/
def attach [Display δ] (h : Host δ) (index : Nat) (name : String) (batch : Nat)
    (onError : Fault → World δ → Reaction (World δ) := World.tellError [] name) :
    Host δ × List Event :=
  h.subscribe name (fun _ => World.runMachine index batch) onError

/-- The host after the subscription of a name was ended, and whether the name stands for one. -/
def unsubscribe (h : Host δ) (name : String) : Host δ × Bool :=
  match h.world.handle? name with
  | none => (h, false)
  | some id => ({ h with scheduler := h.scheduler.unsubscribe id }, true)

/-- The machine at an index carries out a request, if there is one. -/
def perform [Display δ] (h : Host δ) (index : Nat) (r : Cpu.Request) :
    Option (Outcome (Host δ) Cpu.Reply) :=
  h.world.machines[index]?.map fun c =>
    let o := c.perform r
    ⟨⟨o.result, { h with world.machines := h.world.machines.set index o.state }⟩, o.events⟩

/-- The host with its notices taken away, and the notices. -/
def takeNotices (h : Host δ) : Host δ × List Notice :=
  ({ h with world.notices := [] }, h.world.notices)

end Host

end Chip8
