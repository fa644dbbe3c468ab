import Chip8.Proofs.Cpu.Batch
import Chip8.Proofs.Store.Soundness

/-!
# Calls and returns

A step moves the return addresses in one of three ways (`FrameMove`): a call puts its
own address on top, a return takes the top off and goes on behind it, and every other
step leaves them alone.  So whatever stands at the bottom of the stack stays there
while the depth does not fall below it (`Course.holds`).

`returns_to_caller` follows.  The step that first takes the depth back to what it was
before a call is a return, and it goes on behind that call, with the return addresses
from before it.  Nothing is asked of the steps between.

A *course* is a row of successful steps.  Between two of them the owner of the machine
may do anything that leaves the registers alone, such as moving keys.
-/

namespace Chip8.Cpu

variable {δ : Type}

/-- The return addresses, oldest first. -/
def frames (c : Cpu δ) : List UInt16 := c.store.registers.stack.frames

/-! ## One step -/

/-- How a step of an opcode moves the return addresses. -/
inductive FrameMove (c c' : Cpu δ) : Opcode → Prop where
  | call {target : UInt16} (pushed : c'.frames = c.frames ++ [c.store.registers.pc]) :
      FrameMove c c' (.call target)
  | ret {a : UInt16} (popped : c.frames = c'.frames ++ [a])
      (behind : c'.store.registers.pc.toNat = a.toNat + 2) : FrameMove c c' .ret
  | other {op : Opcode} (apart : op ≠ .ret ∧ ∀ target, op ≠ .call target)
      (same : c'.frames = c.frames) : FrameMove c c' op

/-- Return addresses that are not taken off stay at the bottom. -/
theorem FrameMove.holds {c c' : Cpu δ} {op : Opcode} {base : List UInt16}
    (move : FrameMove c c' op) (held : base <+: c.frames)
    (above : base.length ≤ c'.frames.length) : base <+: c'.frames := by
  cases move with
  | call pushed =>
      rw [pushed]
      exact held.trans (List.prefix_append _ _)
  | ret popped behind =>
      rw [popped] at held
      exact List.prefix_of_prefix_length_le held (List.prefix_append _ _) above
  | other apart same => rwa [same]

theorem ne_branch_of_falls {op : Opcode} (falls : op.branches = false) :
    op ≠ .ret ∧ ∀ target, op ≠ .call target := by
  constructor
  · rintro rfl
    cases falls
  · rintro target rfl
    cases falls

theorem frames_of_follow {s t : Store} {flow : Flow} (followed : s.follow flow = ⟨.ok (), t⟩) :
    t.registers.stack.frames = s.registers.stack.frames := by
  obtain ⟨pc, -, rfl⟩ := Store.follow_ok followed
  rfl

variable [Display δ] {c : Cpu δ} {op : Opcode}

theorem frameMove_of_ran {i : Instruction} {flow : Flow} {done : Cpu δ} {store : Store}
    (ran : Ran c i op flow done store) : FrameMove c c.step.state op := by
  have kept := frames_of_follow ran.followed
  have execution := ran.execution
  have followed := ran.followed
  rw [ran.state]
  cases execution with
  | next falls keeps stack =>
      exact .other (ne_branch_of_falls falls) (kept.trans (congrArg ReturnStack.frames stack))
  | skip falls => exact .other (ne_branch_of_falls falls) kept
  | jump jumps =>
      subst jumps
      exact .other ⟨nofun, nofun⟩ kept
  | call calls valid pushed =>
      subst calls
      exact .call (kept.trans (ReturnStack.frames_push pushed))
  | @ret a target returns top after =>
      subst returns
      obtain ⟨pc, same, -, rfl⟩ := Store.jump_ok followed
      refine .ret (ReturnStack.frames_drop top) ?_
      change pc.toNat = a.toNat + 2
      omega

theorem frameMove_of_ok (ok : c.step.result = .ok op) : FrameMove c c.step.state op := by
  obtain ⟨i, flow, done, store, ran⟩ := exists_of_step_ok ok
  exact frameMove_of_ran ran

/-! ## Many steps -/

/-- Successful steps one after the other.  The registers that a step leaves are those that the
next one finds. -/
structure Course (m : Nat → Cpu δ) (n : Nat) : Prop where
  runs : ∀ k < n, ∃ op, (m k).step.result = .ok op
  joined : ∀ k < n, (m (k + 1)).store.registers = (m k).step.state.store.registers

/-- The single steps of a machine that is left alone are a course. -/
theorem course_after {n : Nat} (runs : c.Runs n) : Course c.after n where
  runs := runs
  joined := by
    intro k hk
    rw [after_succ]

theorem Course.frameMove {m : Nat → Cpu δ} {n k : Nat} (course : Course m n) (hk : k < n)
    (ok : (m k).step.result = .ok op) : FrameMove (m k) (m (k + 1)) op := by
  have registers := course.joined k hk
  have same : (m (k + 1)).frames = (m k).step.state.frames := by rw [frames, frames, registers]
  cases frameMove_of_ok ok with
  | call pushed => exact .call (same.trans pushed)
  | ret popped behind => exact .ret (by rwa [same]) (by rwa [registers])
  | other apart kept => exact .other apart (same.trans kept)

/-- Return addresses stay at the bottom of the stack while the depth does not fall below them. -/
theorem Course.holds {m : Nat → Cpu δ} {n first k : Nat} (course : Course m n)
    {base : List UInt16} (held : base <+: (m first).frames) (hk : first + k ≤ n)
    (above : ∀ j ≤ k, base.length ≤ (m (first + j)).frames.length) :
    base <+: (m (first + k)).frames := by
  induction k with
  | zero => exact held
  | succ k ih =>
      have before := ih (by omega) fun j hj => above j (Nat.le_succ_of_le hj)
      obtain ⟨op, ok⟩ := course.runs (first + k) hk
      exact (course.frameMove hk ok).holds before (above (k + 1) (Nat.le_refl _))

/-- The step that first takes the depth back to what it was before a call is a return to that
call. -/
theorem returns_to_caller {m : Nat → Cpu δ} {n : Nat} (course : Course m (n + 1))
    {target : UInt16} (called : (m 0).step.result = .ok (.call target))
    (above : ∀ k, 0 < k → k ≤ n → (m 0).frames.length < (m k).frames.length)
    (back : (m (n + 1)).frames.length = (m 0).frames.length) :
    (m n).step.result = .ok .ret ∧
      (m (n + 1)).store.registers.pc.toNat = (m 0).store.registers.pc.toNat + 2 ∧
      (m (n + 1)).frames = (m 0).frames := by
  have first := course.frameMove (Nat.succ_pos n) called
  cases first with
  | other apart => exact absurd rfl (apart.2 target)
  | call pushed =>
      have pushed : (m 1).frames = (m 0).frames ++ [(m 0).store.registers.pc] := pushed
      have length : (m 1).frames.length = (m 0).frames.length + 1 := by simp [pushed]
      obtain _ | last := n
      · exact absurd (length.symm.trans back) (Nat.succ_ne_self _)
      -- The address that the call pushed is still there before the last step.
      have held : (m 0).frames ++ [(m 0).store.registers.pc] <+: (m (1 + last)).frames := by
        apply course.holds ⟨[], by rw [List.append_nil, pushed]⟩ (by omega)
        intro j hj
        have := above (1 + j) (by omega) (by omega)
        simp
        omega
      rw [Nat.add_comm 1 last] at held
      have depth := above (last + 1) (by omega) (by omega)
      obtain ⟨op, ok⟩ := course.runs (last + 1) (by omega)
      have move := course.frameMove (by omega) ok
      cases move with
      | call grown => simp [grown] at back; omega
      | other _ same => simp [same] at back; omega
      | ret popped behind =>
          rw [popped] at held
          have whole := held.eq_of_length (by simp [back])
          obtain ⟨frames, address⟩ := List.append_inj whole back.symm
          obtain rfl := List.singleton_inj.mp address
          exact ⟨ok, behind, frames.symm⟩

/-! ## A call in a call -/

/-- Calls a subroutine that calls another one.  Both return at once. -/
def nestedCalls : List UInt8 := [0x22, 0x04, 0x00, 0x00, 0x22, 0x08, 0x00, 0xEE, 0x00, 0xEE]

/-- The stack with the address of the outer call, and the one with the addresses of both. -/
def outerCall : ReturnStack := ⟨ReturnStack.empty.slots.set 0 0x200 (by decide), ⟨1, by decide⟩⟩
def bothCalls : ReturnStack := ⟨outerCall.slots.set 1 0x204 (by decide), ⟨2, by decide⟩⟩

/-- The places that the steps of that program start from with the stacks there, and where the last
step leads. -/
def nestedPlaces : Nat → UInt16 × ReturnStack
  | 0 => (0x200, .empty)
  | 1 => (0x204, outerCall)
  | 2 => (0x208, bothCalls)
  | 3 => (0x206, bothCalls.drop)
  | _ => (0x202, bothCalls.drop.drop)

def nestedCourse (n : Nat) : Cpu FrameBuffer :=
  .new ⟨.image nestedCalls,
    { Registers.initial with pc := (nestedPlaces n).1, stack := (nestedPlaces n).2 },
    nestedCalls, .below255⟩ (.blank 64 32) 0

/-- A step of that program leads from one place to the next. -/
structure NestedStep (n : Nat) (op : Opcode) : Prop where
  result : (nestedCourse n).step.result = .ok op
  joined : (nestedCourse (n + 1)).store.registers = (nestedCourse n).step.state.store.registers

theorem nestedStep_of_place {n k : Nat} {high low : UInt8} {op : Opcode}
    (place : (nestedPlaces n).1.toNat = Memory.entryPoint + k)
    (first : nestedCalls[k]? = some high) (second : nestedCalls[k + 1]? = some low)
    (decoded : (⟨high, low⟩ : Instruction).decode? = some op)
    (ran : ((nestedCourse n).runDecoded ⟨high, low⟩ op).result = .ok op)
    (left : ((nestedCourse n).runDecoded ⟨high, low⟩ op).state.store.registers =
      (nestedCourse (n + 1)).store.registers) : NestedStep n op := by
  have step : (nestedCourse n).step.toAttempt = (nestedCourse n).runDecoded ⟨high, low⟩ op :=
    step_of_decoded (Store.instruction_of_image rfl place first second (by decide)) decoded
  rw [← step] at ran left
  exact ⟨ran, left.symm⟩

theorem nestedStep_call : NestedStep 0 (.call 0x204) :=
  nestedStep_of_place (k := 0) rfl rfl rfl rfl rfl rfl

theorem exists_nestedStep : ∀ n < 4, ∃ op, NestedStep n op
  | 0, _ => ⟨_, nestedStep_call⟩
  | 1, _ => ⟨.call 0x208, nestedStep_of_place (k := 4) rfl rfl rfl rfl rfl rfl⟩
  | 2, _ => ⟨.ret, nestedStep_of_place (k := 8) rfl rfl rfl rfl rfl rfl⟩
  | 3, _ => ⟨.ret, nestedStep_of_place (k := 6) rfl rfl rfl rfl rfl rfl⟩

/-- The outer call is returned to once the inner one has been, and not before. -/
theorem nested_call_returns :
    (nestedCourse 3).step.result = .ok .ret ∧
      (nestedCourse 4).store.registers.pc.toNat = 0x202 ∧ (nestedCourse 4).frames = [] := by
  have course : Course nestedCourse (3 + 1) := by
    constructor
    · intro n hn
      obtain ⟨op, step⟩ := exists_nestedStep n hn
      exact ⟨op, step.result⟩
    · intro n hn
      obtain ⟨op, step⟩ := exists_nestedStep n hn
      exact step.joined
  have above : ∀ n, 0 < n → n ≤ 3 →
      (nestedPlaces 0).2.frames.length < (nestedPlaces n).2.frames.length
    | 1, _, _ => by decide
    | 2, _, _ => by decide
    | 3, _, _ => by decide
  exact returns_to_caller course nestedStep_call.result above rfl

end Chip8.Cpu
