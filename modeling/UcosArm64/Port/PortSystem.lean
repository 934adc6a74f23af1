import Mathlib.Data.Fintype.Basic
import UcosArm64.Foundations.Transition
import UcosArm64.Port.ContextFrame

set_option relaxedAutoImplicit false
set_option autoImplicit false

/-!
# Tasks on the port

The machine of all runs of tasks that are created, started, switched and interrupted through the
code of the port.

## Main definitions

* `Port.Layout` — where the stacks, the TCBs and the variables are.
* `Port.Context`, `Port.Record` — what a task had when it lost the processor.
* `Port.PortState`, `Port.PortAction`, `Port.portStep` — the machine.

## Main results

* `Port.portRule_of_portStep` — what a step can do.

## Design

The code of tasks and the C code of the kernel and of the interrupt handlers is arbitrary: it
writes any register and any byte, at any point, except the pointer `OSTCBCur`, the field
`OSTCBStkPtr` of a TCB, and the frame of a task that is switched out, which none of that code
touches once multitasking has started. A task keeps its stack pointer inside its stack with room
for a frame. `OSTCBHighRdy` is a variable like any other; a switch is to the task whose TCB it
points to. IRQs come from the first task on, which starts the timer; `OSCtxSw` runs with IRQs
masked, so that it is one step. The records and the task in a `Mode` tell who runs; the code does
not read them.
-/

namespace Port

/-! ## Memory layout -/

/-- What has a place of its own in memory: the stack of a task, the field `OSTCBStkPtr` of its TCB,
the first one, and the variables of the kernel. -/
inductive Area (τ : Type)
  | stack (q : τ)
  | stkPtr (q : τ)
  | var (s : Symbol)
  deriving DecidableEq

/-- The size of a variable in bytes: `INT8U` or `BOOLEAN`, or a pointer. -/
def Symbol.size : Symbol → ℕ
  | .osRunning => 1
  | .osPrioCur => 1
  | .osPrioHighRdy => 1
  | .osIntNesting => 1
  | .osTcbCur => 8
  | .osTcbHighRdy => 8
  | .exceptStkBase => 8

/-- The places in memory, and what `OSTaskCreate` is given for each task. The stacks are disjoint
and have room for a frame below an aligned top. -/
structure Layout (τ : Type) where
  region : Area τ → Region
  disjoint : ∀ a b, a ≠ b → (region a).Disjoint (region b)
  stack_ge : ∀ q, 288 ≤ (region (.stack q)).size
  stack_lt : ∀ q, (region (.stack q)).size < 2 ^ 64
  stkPtr_size : ∀ q, (region (.stkPtr q)).size = 8
  var_size : ∀ s, (region (.var s)).size = s.size
  task : τ → BitVec 64
  pArg : τ → BitVec 64
  osTaskReturn : BitVec 64

namespace Layout

variable {τ : Type} (L : Layout τ)

/-- The address of a variable. -/
def sym (s : Symbol) : BitVec 64 := (L.region (.var s)).base

/-- The address of a TCB. -/
def tcb (q : τ) : BitVec 64 := (L.region (.stkPtr q)).base

/-- The stack of a task. -/
def stack (q : τ) : Region := L.region (.stack q)

/-- `ptos`: the last word of the stack. -/
def ptos (q : τ) : BitVec 64 := (L.stack q).base + BitVec.ofNat 64 (L.stack q).size - 8

/-- The distance of a stack pointer from the lower end of the stack. -/
def height (q : τ) (sp : BitVec 64) : ℕ := (sp - (L.stack q).base).toNat

/-- A stack pointer inside the stack, with room for a frame. -/
def HasRoom (q : τ) (sp : BitVec 64) : Prop :=
  ctxSize ≤ L.height q sp ∧ L.height q sp ≤ (L.stack q).size

instance (q : τ) (sp : BitVec 64) : Decidable (L.HasRoom q sp) := by
  unfold HasRoom
  infer_instance

/-- `OSTCBStkPtr` of a task. -/
def stkPtr (m : ByteMemory) (q : τ) : BitVec 64 := m.read64 (L.tcb q)

end Layout

/-! ## The machine -/

/-- What a task had when it lost the processor; of `PSTATE` only if an IRQ took the processor. -/
structure Context where
  x : Fin 31 → BitVec 64
  v : Fin 32 → BitVec 128
  sp : BitVec 64
  pc : BitVec 64
  pstate : Option (BitVec 64)

/-- A task has not been created, or has not run yet, or lost the processor last in a context. -/
inductive Record
  | absent
  | fresh
  | lost (ctx : Context)

/-- The task has been created. -/
def Record.created : Record → Bool
  | .absent => false
  | _ => true

/-- Who runs: the code before multitasking, a task, or the interrupt handler with `OSTCBCur`
pointing to the TCB of a task. -/
inductive Mode (τ : Type)
  | boot
  | task (p : τ)
  | irq (p : τ)
  deriving DecidableEq

/-- The state: the processor, who runs, the records of the tasks, and the task that the last step
has resumed, if it has resumed one. -/
structure PortState (τ : Type) where
  cpu : Cpu
  mode : Mode τ
  record : τ → Record
  resumed : Option τ

/-- Steps of code outside the port, and the functions of the port. -/
inductive PortAction (τ : Type)
  | setX (d : Fin 31) (v : BitVec 64)
  | setV (v : Fin 32 → BitVec 128)
  | setSp (v : BitVec 64)
  | setPc (v : BitVec 64)
  | setPstate (v : BitVec 64)
  | store (a : BitVec 64) (v : BitVec 8)
  | create (q : τ)
  | start (q : τ)
  | ctxSw (q : τ)
  | irqEnter
  | intCtxSw (q : τ)
  | irqExit

section

variable {τ : Type} [DecidableEq τ] (L : Layout τ)

/-- Before any task is created. -/
def portInit (c : Cpu) : PortState τ := ⟨c, .boot, fun _ => .absent, none⟩

/-- The task is created and does not run. -/
def PortState.switchedOut (s : PortState τ) (q : τ) : Prop :=
  (s.record q).created = true ∧ s.mode ≠ .task q

instance (s : PortState τ) (q : τ) : Decidable (s.switchedOut q) := by
  unfold PortState.switchedOut
  infer_instance

/-- The bytes that the code outside the port leaves alone. -/
def PortState.reserved (s : PortState τ) (a : BitVec 64) : Prop :=
  (s.mode ≠ .boot ∧ (L.region (.var .osTcbCur)).Mem a) ∨
    (∃ q, (s.record q).created = true ∧ (L.region (.stkPtr q)).Mem a) ∨
    ∃ q, s.switchedOut q ∧ (frame (L.stkPtr s.cpu.mem q)).Mem a

instance [Fintype τ] (s : PortState τ) (a : BitVec 64) : Decidable (s.reserved L a) := by
  unfold PortState.reserved
  infer_instance

/-- A step of code outside the port. -/
def PortState.code (s : PortState τ) (c : Cpu) : PortState τ := { s with cpu := c, resumed := none }

/-- `OSTCBHighRdy` points to the TCB of a task that has been created. -/
def PortState.highRdy (s : PortState τ) (q : τ) : Prop :=
  (s.record q).created = true ∧ s.cpu.mem.read64 (L.sym .osTcbHighRdy) = L.tcb q

instance (s : PortState τ) (q : τ) : Decidable (s.highRdy L q) := by
  unfold PortState.highRdy
  infer_instance

/-- `OSTaskCreate`: `OSTaskStkInit`, and `OSTCBStkPtr` in `OS_TCBInit`. -/
def taskCreate (q : τ) (m : ByteMemory) : ByteMemory :=
  let r := osTaskStkInit L.osTaskReturn (L.task q) (L.pArg q) (L.ptos q) m
  r.1.write64 (L.tcb q) r.2

/-- A function of the port that the current task or `OSStart` calls, or an IRQ and its handler. -/
def switchStep (s : PortState τ) : PortAction τ → Option (PortState τ)
  | .start q =>
    if s.mode = .boot ∧ s.highRdy L q then
      some ⟨execCode L.sym s.cpu osStartHighRdy, .task q, s.record, some q⟩
    else none
  | .ctxSw q =>
    match s.mode with
    | .task p =>
      if s.highRdy L q then
        let ctx := ⟨s.cpu.x, s.cpu.v, s.cpu.sp, s.cpu.x 30, none⟩
        some ⟨execCode L.sym s.cpu osCtxSw, .task q, Function.update s.record p (.lost ctx), some q⟩
      else none
    | _ => none
  | .irqEnter =>
    match s.mode with
    | .task p =>
      if irqMasked s.cpu.pstate = false ∧ s.cpu.mem (L.sym .osIntNesting) = 0 then
        let ctx := ⟨s.cpu.x, s.cpu.v, s.cpu.sp, s.cpu.pc, some s.cpu.pstate⟩
        some ⟨exceptIrqHndlr L.sym (takeIrq s.cpu), .irq p,
          Function.update s.record p (.lost ctx), none⟩
      else none
    | _ => none
  | .intCtxSw q =>
    match s.mode with
    | .irq _ =>
      if s.highRdy L q then
        some ⟨execCode L.sym s.cpu osIntCtxSw, .irq q, s.record, none⟩
      else none
    | _ => none
  | .irqExit =>
    match s.mode with
    | .irq p => some ⟨execCode L.sym s.cpu exceptIrqReturn, .task p, s.record, some p⟩
    | _ => none
  | _ => none

/-- **One step of the machine.** -/
def portStep [Fintype τ] (s : PortState τ) (a : PortAction τ) : Option (PortState τ) :=
  match a with
  | .setX d v => some (s.code (s.cpu.setX d v))
  | .setV v => some (s.code { s.cpu with v := v })
  | .setPc v => some (s.code { s.cpu with pc := v })
  | .setPstate v => some (s.code { s.cpu with pstate := v })
  | .setSp v =>
    match s.mode with
    | .task p => if L.HasRoom p v then some (s.code { s.cpu with sp := v }) else none
    | _ => some (s.code { s.cpu with sp := v })
  | .store a v =>
    if s.reserved L a then none else some (s.code { s.cpu with mem := s.cpu.mem.write8 a v })
  | .create q =>
    if (s.record q).created = false then
      some { s.code { s.cpu with mem := taskCreate L q s.cpu.mem } with
        record := Function.update s.record q .fresh }
    else none
  | a => switchStep L s a

/-- What a step can do: code outside the port changes registers but not the memory, it changes the
vector registers, it stores a byte; a task is created; or a function of the port runs. -/
inductive PortRule (s : PortState τ) : PortAction τ → PortState τ → Prop
  | code {a : PortAction τ} (c : Cpu) (hmem : c.mem = s.cpu.mem) (hv : c.v = s.cpu.v)
      (hsp : c.sp = s.cpu.sp ∨ ∀ p, s.mode = .task p → L.HasRoom p c.sp) : PortRule s a (s.code c)
  | setV (v : Fin 32 → BitVec 128) : PortRule s (.setV v) (s.code { s.cpu with v := v })
  | store (a : BitVec 64) (v : BitVec 8) (ha : ¬ s.reserved L a) :
      PortRule s (.store a v) (s.code { s.cpu with mem := s.cpu.mem.write8 a v })
  | create (q : τ) (hq : (s.record q).created = false) :
      PortRule s (.create q) { s.code { s.cpu with mem := taskCreate L q s.cpu.mem } with
        record := Function.update s.record q .fresh }
  | start (q : τ) (hmode : s.mode = .boot) (hq : s.highRdy L q) :
      PortRule s (.start q) ⟨execCode L.sym s.cpu osStartHighRdy, .task q, s.record, some q⟩
  | ctxSw (p q : τ) (hmode : s.mode = .task p) (hq : s.highRdy L q) :
      PortRule s (.ctxSw q) ⟨execCode L.sym s.cpu osCtxSw, .task q, Function.update s.record p
        (.lost ⟨s.cpu.x, s.cpu.v, s.cpu.sp, s.cpu.x 30, none⟩), some q⟩
  | irqEnter (p : τ) (hmode : s.mode = .task p) (hfirst : s.cpu.mem (L.sym .osIntNesting) = 0) :
      PortRule s .irqEnter ⟨exceptIrqHndlr L.sym (takeIrq s.cpu), .irq p,
        Function.update s.record p
          (.lost ⟨s.cpu.x, s.cpu.v, s.cpu.sp, s.cpu.pc, some s.cpu.pstate⟩), none⟩
  | intCtxSw (p q : τ) (hmode : s.mode = .irq p) (hq : s.highRdy L q) :
      PortRule s (.intCtxSw q) ⟨execCode L.sym s.cpu osIntCtxSw, .irq q, s.record, none⟩
  | irqExit (p : τ) (hmode : s.mode = .irq p) :
      PortRule s .irqExit ⟨execCode L.sym s.cpu exceptIrqReturn, .task p, s.record, some p⟩

variable {L} {s t : PortState τ}

omit [DecidableEq τ] in
/-- What only a task does. -/
lemma task_of_match {β : Type} {o : τ → Option β} {b : β}
    (h : (match s.mode with
      | .task p => o p
      | _ => none) = some b) : ∃ p, s.mode = .task p ∧ o p = some b := by
  cases hmode : s.mode with
  | boot => simp [hmode] at h
  | irq p => simp [hmode] at h
  | task p =>
    rw [hmode] at h
    exact ⟨p, rfl, h⟩

omit [DecidableEq τ] in
/-- What only the interrupt handler does. -/
lemma irq_of_match {β : Type} {o : τ → Option β} {b : β}
    (h : (match s.mode with
      | .irq p => o p
      | _ => none) = some b) : ∃ p, s.mode = .irq p ∧ o p = some b := by
  cases hmode : s.mode with
  | boot => simp [hmode] at h
  | task p => simp [hmode] at h
  | irq p =>
    rw [hmode] at h
    exact ⟨p, rfl, h⟩

/-- A function of the port, or an IRQ.

**Proof sketch.** One case per action, by the definition of the step. -/
lemma portRule_of_switchStep {a : PortAction τ} (h : switchStep L s a = some t) :
    PortRule L s a t := by
  cases a with
  | start q =>
    simp only [switchStep] at h
    split at h
    case isTrue hg =>
      obtain rfl := Option.some_inj.mp h
      exact .start q hg.1 hg.2
    case isFalse _ => cases h
  | ctxSw q =>
    obtain ⟨p, hmode, h⟩ := task_of_match h
    split at h
    case isTrue hq =>
      obtain rfl := Option.some_inj.mp h
      exact .ctxSw p q hmode hq
    case isFalse _ => cases h
  | irqEnter =>
    obtain ⟨p, hmode, h⟩ := task_of_match h
    split at h
    case isTrue hg =>
      obtain rfl := Option.some_inj.mp h
      exact .irqEnter p hmode hg.2
    case isFalse _ => cases h
  | intCtxSw q =>
    obtain ⟨p, hmode, h⟩ := irq_of_match h
    split at h
    case isTrue hq =>
      obtain rfl := Option.some_inj.mp h
      exact .intCtxSw p q hmode hq
    case isFalse _ => cases h
  | irqExit =>
    obtain ⟨p, hmode, h⟩ := irq_of_match h
    obtain rfl := Option.some_inj.mp h
    exact .irqExit p hmode
  | setX d v => cases h
  | setV v => cases h
  | setSp v => cases h
  | setPc v => cases h
  | setPstate v => cases h
  | store a v => cases h
  | create q => cases h

/-- **What a step can do.**

**Proof sketch.** One case per action, by the definition of the step. -/
lemma portRule_of_portStep [Fintype τ] {a : PortAction τ} (h : portStep L s a = some t) :
    PortRule L s a t := by
  cases a with
  | setX d v =>
    obtain rfl := Option.some_inj.mp h
    exact .code _ rfl rfl (Or.inl rfl)
  | setV v =>
    obtain rfl := Option.some_inj.mp h
    exact .setV v
  | setPc v =>
    obtain rfl := Option.some_inj.mp h
    exact .code _ rfl rfl (Or.inl rfl)
  | setPstate v =>
    obtain rfl := Option.some_inj.mp h
    exact .code _ rfl rfl (Or.inl rfl)
  | setSp v =>
    simp only [portStep] at h
    split at h
    · rename_i p hmode
      split at h
      case isTrue hroom =>
        obtain rfl := Option.some_inj.mp h
        refine .code _ rfl rfl (Or.inr fun q hq => ?_)
        obtain rfl : p = q := Mode.task.inj (hmode.symm.trans hq)
        exact hroom
      case isFalse _ => cases h
    · rename_i hmode
      obtain rfl := Option.some_inj.mp h
      exact .code _ rfl rfl (Or.inr fun q hq => absurd hq (hmode q))
  | store a v =>
    simp only [portStep] at h
    split at h
    case isTrue _ => cases h
    case isFalse ha =>
      obtain rfl := Option.some_inj.mp h
      exact .store a v ha
  | create q =>
    simp only [portStep] at h
    split at h
    case isTrue hq =>
      obtain rfl := Option.some_inj.mp h
      exact .create q hq
    case isFalse _ => cases h
  | start q => exact portRule_of_switchStep h
  | ctxSw q => exact portRule_of_switchStep h
  | irqEnter => exact portRule_of_switchStep h
  | intCtxSw q => exact portRule_of_switchStep h
  | irqExit => exact portRule_of_switchStep h

end

end Port
