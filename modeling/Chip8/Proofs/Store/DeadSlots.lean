import Chip8.Proofs.Store.Commuting
import Chip8.Proofs.Store.Operations

/-!
# Dead slots

A return leaves its address in the slot it stood in.  The slot is dead from then on:
nothing reads it again before a call writes to it.

Two stacks are alike when they have the same depth and the same addresses below it
(`ReturnStack.Alike`).  Two stores have the same live part when they differ in such
stacks alone.  Every operation is answered alike on both, and leaves them with the same
live part (`Store.SameLive.perform`), and so does every list of operations.  The one
exception is the raw dump of the registers, which tells every slot.

Most effects have nothing to do with the stack (`Store.Unstacked`): to change the stack is
to change a store beside what they name (`Store.aside_withStack`).
-/

namespace Chip8

/-! ## Stacks -/

namespace ReturnStack

/-- Two stacks of the same depth with the same slots below it. -/
structure Alike (s t : ReturnStack) : Prop where
  depth : t.depth = s.depth
  live : ∀ k < s.depth.val, t.slots[k]? = s.slots[k]?

variable {s t : ReturnStack}

theorem Alike.refl (s : ReturnStack) : s.Alike s := ⟨rfl, fun _ _ => rfl⟩

theorem Alike.isFull (alike : s.Alike t) : t.isFull = s.isFull := by
  rw [ReturnStack.isFull, ReturnStack.isFull, alike.depth]

theorem Alike.top? (alike : s.Alike t) : t.top? = s.top? := by
  have depth := congrArg Fin.val alike.depth
  rw [ReturnStack.top?, ReturnStack.top?]
  by_cases empty : s.depth.val = 0
  · rw [dif_pos (depth.trans empty), dif_pos empty]
  · rw [dif_neg (by rwa [depth]), dif_neg empty]
    have top := alike.live (s.depth.val - 1) (by omega)
    rw [Vector.getElem?_eq_getElem (by omega), Vector.getElem?_eq_getElem (by omega)] at top
    simpa only [depth] using top

theorem Alike.drop (alike : s.Alike t) : s.drop.Alike t.drop where
  depth := by
    rw [Fin.ext_iff]
    exact congrArg (fun depth : Fin 17 => depth.val - 1) alike.depth
  live k below := alike.live k (Nat.lt_of_lt_of_le below (Nat.sub_le _ _))

/-- A push is refused on both, or writes the same address to the first dead slot of both. -/
theorem Alike.push (alike : s.Alike t) (a : UInt16) :
    (∃ f, s.push a = ⟨.error f, s⟩ ∧ t.push a = ⟨.error f, t⟩) ∨
      ∃ s' t', s.push a = ⟨.ok (), s'⟩ ∧ t.push a = ⟨.ok (), t'⟩ ∧ s'.Alike t' := by
  have depth := congrArg Fin.val alike.depth
  rw [ReturnStack.push, ReturnStack.push]
  by_cases room : s.depth.val < 16
  · rw [dif_pos room, dif_pos (by rwa [depth])]
    cases CodeAddress.check a.toNat with
    | error f => exact .inl ⟨f, rfl, rfl⟩
    | ok address =>
        refine .inr ⟨_, _, rfl, rfl, ?_, ?_⟩
        · rw [Fin.ext_iff]
          exact congrArg (· + 1) depth
        · -- The slot at the depth was dead in both.  It is written in both and comes to life.
          intro k below
          have below : k < s.depth.val + 1 := below
          rw [Vector.getElem?_set, Vector.getElem?_set, depth]
          by_cases written : s.depth.val = k
          · rw [if_pos written, if_pos written]
          · rw [if_neg written, if_neg written]
            exact alike.live k (by omega)
  · rw [dif_neg room, dif_neg (by rwa [depth])]
    exact .inl ⟨_, rfl, rfl⟩

end ReturnStack

/-! ## Two runs -/

/-- Two attempts that came to the same and left related states. -/
structure Attempt.Paired {ε σ α : Type} (R : σ → σ → Prop) (a b : Attempt ε σ α) : Prop where
  result : b.result = a.result
  state : R a.state b.state

/-- Two outcomes that came to the same, caused the same events and left related states. -/
structure Outcome.Paired {σ α : Type} (R : σ → σ → Prop) (o p : Outcome σ α) : Prop extends
    Attempt.Paired R o.toAttempt p.toAttempt where
  events : p.events = o.events

/-! ## Stores -/

namespace Store

/-- The store with another return stack. -/
def withStack (s : Store) (stack : ReturnStack) : Store := { s with registers.stack := stack }

/-- Two stores that differ in dead slots alone. -/
structure SameLive (s t : Store) : Prop where
  rest : t = s.withStack t.registers.stack
  stack : s.registers.stack.Alike t.registers.stack

/-! ### Effects that have nothing to do with the stack -/

/-- An effect that is the same with another return stack. -/
def Unstacked {α : Type} (e : Effect Store α) : Prop := ∀ stack, e.Commutes (·.withStack stack)

/-- Such an effect keeps the stack that it finds, whatever comes of it. -/
theorem Unstacked.stack {α : Type} {e : Effect Store α} (unstacked : Unstacked e) (s : Store) :
    (e s).state.registers.stack = s.registers.stack := by
  have same : e s = (e s).mapState (·.withStack s.registers.stack) := unstacked _ s
  exact congrArg (·.state.registers.stack) same

theorem aside_withStack (stack : ReturnStack) : Aside (·.withStack stack) :=
  ⟨⟨fun _ => rfl, fun _ _ => rfl⟩, fun _ => rfl, fun _ => rfl, fun _ => rfl, fun _ => rfl,
    fun _ _ _ => rfl, fun _ _ _ => rfl, fun _ _ => rfl⟩

/-- What commutes with every change beside it has nothing to do with the stack. -/
theorem Unstacked.of_aside {α : Type} {e : Effect Store α}
    (commutes : ∀ {f : Store → Store}, Aside f → e.Commutes f) : Unstacked e :=
  fun stack => commutes (aside_withStack stack)

theorem unstacked_setDelay (value : UInt8) : Unstacked (setDelay value) := by
  intro stack
  refine .reading ?_ fun _ _ => rfl
  exact fun _ => rfl

theorem unstacked_setSound (value : UInt8) : Unstacked (setSound value) := by
  intro stack
  refine .reading ?_ fun _ _ => rfl
  exact fun _ => rfl

theorem unstacked_startDelay (x : UInt8) : Unstacked (startDelay x) := fun stack =>
  .reading ((aside_withStack stack).getV x) fun value => unstacked_setDelay value stack

theorem unstacked_startSound (x : UInt8) : Unstacked (startSound x) := fun stack =>
  .reading ((aside_withStack stack).getV x) fun value => unstacked_setSound value stack

/-! ### Operations -/

variable {s t : Store}

theorem sameLive_withStack {stack : ReturnStack} (alike : s.registers.stack.Alike stack) :
    s.SameLive (s.withStack stack) := ⟨rfl, alike⟩

theorem sameLive_self (s : Store) : s.SameLive s := sameLive_withStack (.refl _)

theorem SameLive.exists_withStack (same : s.SameLive t) :
    ∃ stack, s.registers.stack.Alike stack ∧ t = s.withStack stack :=
  ⟨_, same.stack, same.rest⟩

theorem SameLive.answering (same : s.SameLive t) {e e' : Except Stop Answer} (told : e' = e) :
    (s.answering e).Paired SameLive (t.answering e') :=
  ⟨⟨told, same⟩, rfl⟩

theorem SameLive.changing (same : s.SameLive t) {e : Effect Store Unit} (unstacked : Unstacked e) :
    (changing (e s)).Paired SameLive (changing (e t)) := by
  obtain ⟨stack, alike, rfl⟩ := same.exists_withStack
  rw [unstacked stack s]
  rw [← unstacked.stack s] at alike
  exact ⟨⟨rfl, sameLive_withStack alike⟩, rfl⟩

theorem SameLive.pushReturn (same : s.SameLive t) (address : Option UInt16) :
    (s.perform (.pushReturn address)).Paired SameLive (t.perform (.pushReturn address)) := by
  obtain ⟨stack, alike, rfl⟩ := same.exists_withStack
  rw [perform, perform]
  rcases same.stack.push (address.getD s.registers.pc) with
    ⟨f, refused, refused'⟩ | ⟨pushed, pushed', made, made', alike⟩
  · have other : (s.withStack stack).pushReturn address = _ := pushReturn_of_push refused'
    rw [pushReturn_of_push refused, other]
    exact ⟨⟨rfl, same⟩, rfl⟩
  · have other : (s.withStack stack).pushReturn address = _ := pushReturn_of_push made'
    rw [pushReturn_of_push made, other]
    exact ⟨⟨rfl, rfl, alike⟩, rfl⟩

theorem SameLive.popReturn (same : s.SameLive t) :
    (s.perform .popReturn).Paired SameLive (t.perform .popReturn) := by
  rw [perform, perform, popReturn_eq, popReturn_eq, same.stack.top?]
  obtain ⟨stack, alike, rfl⟩ := same.exists_withStack
  cases s.registers.stack.top? with
  | none => exact ⟨⟨rfl, same⟩, rfl⟩
  | some a => exact ⟨⟨rfl, rfl, alike.drop⟩, rfl⟩

theorem SameLive.load (same : s.SameLive t) (program : List UInt8) :
    (s.perform (.load program)).Paired SameLive (t.perform (.load program)) := by
  obtain ⟨stack, alike, rfl⟩ := same.exists_withStack
  rw [perform, perform, load_eq, load_eq]
  by_cases fits : program.length ≤ Memory.programSpace
  · rw [if_pos fits, if_pos fits]
    exact ⟨⟨rfl, sameLive_self _⟩, rfl⟩
  · rw [if_neg fits, if_neg fits]
    exact ⟨⟨rfl, same⟩, rfl⟩

/-- Every operation but the dump of the registers is answered alike, and leaves stores that differ
in dead slots alone. -/
theorem SameLive.perform (same : s.SameLive t) {op : Operation} (apart : op ≠ .registers) :
    (s.perform op).Paired SameLive (t.perform op) := by
  obtain ⟨stack, alike, rfl⟩ := same.exists_withStack
  cases op with
  | registers => exact absurd rfl apart
  | pushReturn address => exact same.pushReturn address
  | popReturn => exact same.popReturn
  | peekReturn =>
      refine same.answering ?_
      rw [peekReturn, peekReturn, same.stack.top?]
  | stackIsFull =>
      refine same.answering ?_
      rw [same.stack.isFull]
  | writeByte address byte => exact same.changing (.of_aside fun aside => aside.writeByte address byte)
  | setPc address => exact same.changing (.of_aside fun aside => aside.jump _)
  | advancePc distance => exact same.changing (.of_aside fun aside => aside.advance distance)
  | setV x value => exact same.changing (.of_aside fun aside => aside.setV x value)
  | addV x delta => exact same.changing (.of_aside fun aside => aside.addV x delta)
  | setI value => exact same.changing (e := .change (·.setI value)) fun _ _ => rfl
  | setDelay value => exact same.changing (unstacked_setDelay value)
  | setSound value => exact same.changing (unstacked_setSound value)
  | setTimerBound bound =>
      exact same.changing (e := .change (·.setTimerBound bound)) fun _ _ => rfl
  | reset => exact ⟨⟨rfl, sameLive_self _⟩, rfl⟩
  | load program => exact same.load program
  | _ => exact same.answering rfl

/-- What a caller and an observer are told while some operations are carried out. -/
def transcript (s : Store) : List Operation → List (Except Stop Answer × List Event)
  | [] => []
  | op :: ops =>
      ((s.perform op).result, (s.perform op).events) :: (s.perform op).state.transcript ops

theorem SameLive.performAll (same : s.SameLive t) {ops : List Operation}
    (apart : .registers ∉ ops) :
    t.transcript ops = s.transcript ops ∧ (s.performAll ops).SameLive (t.performAll ops) := by
  induction ops generalizing s t with
  | nil => exact ⟨rfl, same⟩
  | cons op ops ih =>
      rw [List.mem_cons, not_or] at apart
      obtain ⟨⟨result, state⟩, events⟩ := same.perform (Ne.symm apart.1)
      obtain ⟨told, left⟩ := ih state apart.2
      rw [transcript, transcript, result, events, told]
      exact ⟨rfl, left⟩

end Store

end Chip8
