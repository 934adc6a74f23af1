import UcosArm64.Foundations.Transition
import UcosArm64.Kernel.OsMem
import UcosArm64.Kernel.SemSystem

set_option relaxedAutoImplicit false
set_option autoImplicit false

/-!
# Tasks and interrupts on the tables of the kernel

The machine of all interleavings of the kernel's services: the current task calls any of them and
runs through the call, interrupts come at any point outside a critical section, post, suspend,
resume and tick, and every call of the scheduler may make another task the current one.
`OSTaskCreate` has four critical sections, between which other tasks run and create tasks
themselves, and `OSSemCreate` fills its event control block after its critical section.

## Main definitions

* `Kernel.CallPc` — where a task stands in a call.
* `Kernel.TaskState`, `Kernel.TaskAction`, `Kernel.osStep` — the machine.
* `Kernel.BootCall`, `Kernel.osBoot`, `Kernel.taskInit` — from `OSInit` to `OSStart`.
* `Kernel.Entering` — the window of `OSTaskCreate` in which a task is not yet in the TCB list.
* `Kernel.Orderly` — a step that neither suspends a task in this window nor pends with the
  scheduler locked.

## Design

One step is a critical section together with the code up to the next one. A task that is switched
out keeps its place in its call. `OSTimeTick` walks along the TCB list one TCB at a step;
interrupts nest. `OSSemPend` does not look at `OSLockNesting`: called with the scheduler locked, it
goes through `OS_Sched`, which does nothing, to its end. The idle task makes no calls, and an
interrupt names the task that it suspends.
-/

namespace Kernel

/-- Where a task stands: in a call of a semaphore service or of `OSSchedUnlock`, or outside the
kernel; in `OSTaskCreate`, after its first critical section, with a TCB taken, with the TCB entered
in `OSTCBPrioTbl`, or without a TCB; in `OSSemCreate`, with an event control block taken; in
another service, before its call of `OS_Sched`. -/
inductive CallPc
  | sem (pc : TaskPc ℕ)
  | createReserved (prio : ℕ)
  | createTaken (prio ptcb : ℕ)
  | createEntered (prio ptcb : ℕ)
  | createFailed (prio : ℕ)
  | semCreating (pevent : ℕ) (cnt : UInt16)
  | sched
  deriving DecidableEq

/-- The state of the machine: the kernel's data, the place of every task, and the pointer `ptcb` of
every `OSTimeTick` in progress, the innermost interrupt first. -/
structure TaskState where
  mem : OsMem
  pc : ℕ → CallPc
  walk : List ℕ

/-- The calls of the current task, its next step, and the steps of interrupts. -/
inductive TaskAction
  | create (prio : ℕ)
  | suspend (prio : ℕ)
  | resume (prio : ℕ)
  | dly (ticks : UInt32)
  | dlyHmsm (hours minutes seconds : UInt8) (ms : UInt16)
  | timeSet (ticks : UInt32)
  | lock
  | unlock
  | semCreate (cnt : UInt16)
  | pend (pevent : Option ℕ) (timeout : UInt32)
  | post (pevent : Option ℕ)
  | accept (pevent : Option ℕ)
  | task
  | intEnter
  | isrPost (pevent : Option ℕ)
  | isrSuspend (prio : ℕ)
  | isrResume (prio : ℕ)
  | tick
  | tickNext
  | intExit
  deriving DecidableEq

/-! ## From `OSInit` to `OSStart` -/

/-- The services that the program calls before `OSStart`. -/
inductive BootCall
  | create (prio : ℕ)
  | semCreate (cnt : UInt16)

/-- A call before `OSStart`. -/
def bootStep (cfg : OsCfg) (k : OsMem) : BootCall → OsMem
  | .create prio => (k.osTaskCreateAll cfg prio).1
  | .semCreate cnt => (k.osSemCreate cnt).1

/-- `OSInit`, some calls, and `OSStart`. -/
def osBoot (cfg : OsCfg) (k : OsMem) (calls : List BootCall) : OsMem :=
  (Transition.run (bootStep cfg) (k.osInit cfg) calls).osStart

/-- The state when multitasking starts. -/
def taskInit (cfg : OsCfg) (k : OsMem) (calls : List BootCall) : TaskState where
  mem := osBoot cfg k calls
  pc := fun _ => .sem .user
  walk := []

/-! ## The machine -/

namespace TaskState

/-- The current task moves to another place. -/
def setPc (s : TaskState) (pc : CallPc) : TaskState :=
  { s with pc := Function.update s.pc s.mem.prioCur pc }

/-- The kernel's data after a call, and the place of the caller if it goes on to call `OS_Sched`. -/
def afterCall (s : TaskState) (k : OsMem) (sched : Bool) : TaskState :=
  if sched then { s.setPc .sched with mem := k } else { s with mem := k }

/-- The places of the tasks after the current one has moved. -/
@[simp] lemma setPc_pc (s : TaskState) (pc : CallPc) :
    (s.setPc pc).pc = Function.update s.pc s.mem.prioCur pc := rfl

/-- Moving on leaves the memory alone. -/
@[simp] lemma setPc_mem (s : TaskState) (pc : CallPc) : (s.setPc pc).mem = s.mem := rfl

/-- Moving on leaves the walk of a tick alone. -/
@[simp] lemma setPc_walk (s : TaskState) (pc : CallPc) : (s.setPc pc).walk = s.walk := rfl

/-- The place of a caller that is outside the kernel. -/
lemma setPc_self {s : TaskState} {pc : CallPc} (h : s.pc s.mem.prioCur = pc) : s.setPc pc = s := by
  subst h
  simp only [setPc, Function.update_eq_self]

/-- The state after a call, as one update. -/
lemma afterCall_eq {s : TaskState} (h : s.pc s.mem.prioCur = .sem .user) (k : OsMem)
    (sched : Bool) :
    s.afterCall k sched = { s.setPc (if sched then .sched else .sem .user) with mem := k } := by
  cases sched with
  | true => rfl
  | false =>
    have hpc := congrArg TaskState.pc (setPc_self h)
    simp only [afterCall, Bool.false_eq_true, if_false, hpc, setPc_walk]

end TaskState

/-- A call of the current task, up to the end of its first critical section. -/
def serviceStep (cfg : OsCfg) (s : TaskState) : TaskAction → Option TaskState
  | .create prio =>
    match s.mem.osTaskCreate cfg prio with
    | (k, some _) => some { s with mem := k }
    | (k, none) => some { s.setPc (.createReserved prio) with mem := k }
  | .suspend prio =>
    let r := s.mem.osTaskSuspend cfg prio
    some (s.afterCall r.1 r.2.2)
  | .resume prio =>
    let r := s.mem.osTaskResume cfg prio
    some (s.afterCall r.1 r.2.2)
  | .dly ticks =>
    let r := s.mem.osTimeDly ticks
    some (s.afterCall r.1 r.2)
  | .dlyHmsm hours minutes seconds ms =>
    let r := s.mem.osTimeDlyHmsm hours minutes seconds ms
    some (s.afterCall r.1 r.2.2)
  | .timeSet ticks => some { s with mem := s.mem.osTimeSet ticks }
  | .lock => some { s with mem := s.mem.osSchedLock }
  | .unlock =>
    let r := s.mem.osSchedUnlock
    if r.2 then some { s.setPc (.sem .unlockSched) with mem := r.1 } else some { s with mem := r.1 }
  | .semCreate cnt =>
    match s.mem.osSemCreateTake with
    | (k, some pevent) => some { s.setPc (.semCreating pevent cnt) with mem := k }
    | (k, none) => some { s with mem := k }
  | .pend pevent timeout =>
    match pevent, s.mem.osSemPend pevent timeout with
    | some e, (k, none) => some { s.setPc (.sem (.pendSched e)) with mem := k }
    | _, (k, _) => some { s with mem := k }
  | .post pevent =>
    match pevent, s.mem.osSemPost pevent with
    | some e, (k, .readied _) => some { s.setPc (.sem (.postSched e)) with mem := k }
    | _, (k, _) => some { s with mem := k }
  | .accept pevent => some { s with mem := (s.mem.osSemAccept pevent).1 }
  | .task | .intEnter | .isrPost _ | .isrSuspend _ | .isrResume _ | .tick | .tickNext | .intExit =>
    none

/-- The next step of the current task in its call. -/
def nextStep (s : TaskState) : Option TaskState :=
  match s.pc s.mem.prioCur with
  | .sem .user => none
  | .createReserved prio =>
    match s.mem.osTcbInit prio with
    | (k, some ptcb) => some { s.setPc (.createTaken prio ptcb) with mem := k }
    | (k, none) => some { s.setPc (.createFailed prio) with mem := k }
  | .createTaken prio ptcb =>
    some { s.setPc (.createEntered prio ptcb) with mem := s.mem.osTcbInitPrio prio ptcb }
  | .createEntered _ ptcb => some { s.setPc .sched with mem := s.mem.osTcbInitLink ptcb }
  | .createFailed prio => some { s.setPc (.sem .user) with mem := s.mem.osTaskCreateFail prio }
  | .semCreating pevent cnt =>
    some { s.setPc (.sem .user) with mem := s.mem.osSemCreateInit pevent cnt }
  | .sched => some { s.setPc (.sem .user) with mem := s.mem.osSched }
  | .sem (.pendSched e) => some { s.setPc (.sem (.pendResume e)) with mem := s.mem.osSched }
  | .sem (.pendResume e) =>
    some { s.setPc (.sem .user) with mem := (s.mem.osSemPendResume e).1 }
  | .sem (.postSched e) => some { s.setPc (.sem (.postReturn e)) with mem := s.mem.osSched }
  | .sem (.postReturn _) => some (s.setPc (.sem .user))
  | .sem .unlockSched => some { s.setPc (.sem .user) with mem := s.mem.osSched }

/-- A step of an interrupt. A service that calls `OS_Sched` makes the call, which returns at
once. -/
def isrStep (cfg : OsCfg) (s : TaskState) : TaskAction → Option TaskState
  | .isrPost pevent =>
    match s.mem.osSemPost pevent with
    | (k, .readied _) => some { s with mem := k.osSched }
    | (k, _) => some { s with mem := k }
  | .isrSuspend prio =>
    if prio = osPrioSelf then none
    else
      let r := s.mem.osTaskSuspend cfg prio
      some { s with mem := if r.2.2 then r.1.osSched else r.1 }
  | .isrResume prio =>
    let r := s.mem.osTaskResume cfg prio
    some { s with mem := if r.2.2 then r.1.osSched else r.1 }
  | .tick => some { s with mem := s.mem.osTimeTick, walk := s.mem.tcbList.toList ++ s.walk }
  | .tickNext =>
    match s.walk with
    | [] => none
    | ptcb :: rest =>
      if (s.mem.tcbTbl ptcb).prio ≠ cfg.taskIdlePrio then
        some { s with
          mem := s.mem.osTimeTickTcb ptcb
          walk := (s.mem.tcbTbl ptcb).next.toList ++ rest }
      else some { s with walk := rest }
  | .intExit =>
    if s.mem.intNesting = 1 ∧ s.walk ≠ [] then none
    else some { s with mem := s.mem.osIntExit }
  | _ => none

/-- **What a step of an interrupt does**: a service, with `OS_Sched` after it where the service
asks for it; a part of a tick; or the end of the interrupt.

**Proof sketch.** One case per action, by the definition of the step. -/
lemma isrStep_cases {cfg : OsCfg} {s t : TaskState} {a : TaskAction}
    (hstep : isrStep cfg s a = some t) :
    (∃ k, ((∃ pevent, a = .isrPost pevent ∧ k = (s.mem.osSemPost pevent).1) ∨
        (∃ prio, a = .isrSuspend prio ∧ k = (s.mem.osTaskSuspend cfg prio).1) ∨
        ∃ prio, a = .isrResume prio ∧ k = (s.mem.osTaskResume cfg prio).1) ∧
      (t = { s with mem := k } ∨ t = { s with mem := k.osSched })) ∨
    (a = .tick ∧ t = { s with mem := s.mem.osTimeTick, walk := s.mem.tcbList.toList ++ s.walk }) ∨
    (∃ i rest, a = .tickNext ∧ s.walk = i :: rest ∧
      ((s.mem.tcbTbl i).prio ≠ cfg.taskIdlePrio ∧
          t = { s with
            mem := s.mem.osTimeTickTcb i, walk := (s.mem.tcbTbl i).next.toList ++ rest } ∨
        (s.mem.tcbTbl i).prio = cfg.taskIdlePrio ∧ t = { s with walk := rest })) ∨
    a = .intExit ∧ t = { s with mem := s.mem.osIntExit } := by
  cases a with
  | isrPost pevent =>
    refine Or.inl ⟨_, Or.inl ⟨pevent, rfl, rfl⟩, ?_⟩
    simp only [isrStep] at hstep
    split at hstep
    · rename_i hk
      rw [hk]
      exact Or.inr (Option.some.inj hstep).symm
    · rename_i hk
      rw [hk]
      exact Or.inl (Option.some.inj hstep).symm
  | isrSuspend prio =>
    refine Or.inl ⟨_, Or.inr (Or.inl ⟨prio, rfl, rfl⟩), ?_⟩
    simp only [isrStep] at hstep
    split_ifs at hstep
    · exact Or.inr (Option.some.inj hstep).symm
    · exact Or.inl (Option.some.inj hstep).symm
  | isrResume prio =>
    refine Or.inl ⟨_, Or.inr (Or.inr ⟨prio, rfl, rfl⟩), ?_⟩
    simp only [isrStep] at hstep
    split_ifs at hstep
    · exact Or.inr (Option.some.inj hstep).symm
    · exact Or.inl (Option.some.inj hstep).symm
  | tick => exact Or.inr (Or.inl ⟨rfl, (Option.some.inj hstep).symm⟩)
  | tickNext =>
    simp only [isrStep] at hstep
    split at hstep
    · cases hstep
    · rename_i i rest hwalk
      refine Or.inr (Or.inr (Or.inl ⟨i, rest, rfl, hwalk, ?_⟩))
      split_ifs at hstep with hidle
      · exact Or.inl ⟨hidle, (Option.some.inj hstep).symm⟩
      · exact Or.inr ⟨not_not.mp hidle, (Option.some.inj hstep).symm⟩
  | intExit =>
    simp only [isrStep] at hstep
    split_ifs at hstep
    exact Or.inr (Or.inr (Or.inr ⟨rfl, (Option.some.inj hstep).symm⟩))
  | _ => simp [isrStep] at hstep

/-- **One step of the machine.** -/
def osStep (cfg : OsCfg) (s : TaskState) (a : TaskAction) : Option TaskState :=
  match a with
  | .intEnter =>
    if s.mem.intNesting < 255 then some { s with mem := s.mem.osIntEnter } else none
  | .isrPost _ | .isrSuspend _ | .isrResume _ | .tick | .tickNext | .intExit =>
    if s.mem.intNesting > 0 then isrStep cfg s a else none
  | .task => if s.mem.intNesting = 0 then nextStep s else none
  | _ =>
    if s.mem.intNesting = 0 ∧ s.mem.prioCur ≠ cfg.taskIdlePrio ∧
        s.pc s.mem.prioCur = .sem .user then serviceStep cfg s a else none

/-! ## The places in `OSTaskCreate` -/

/-- The TCB that the task has taken and not yet put into the TCB list. -/
def CallPc.held : CallPc → Option ℕ
  | .createTaken _ ptcb => some ptcb
  | .createEntered _ ptcb => some ptcb
  | _ => none

/-- The priority that the task has reserved. -/
def CallPc.reserves : CallPc → Option ℕ
  | .createReserved prio => some prio
  | .createTaken prio _ => some prio
  | .createFailed prio => some prio
  | _ => none

/-- The place is in `OSSemPend`. -/
def CallPc.InPend (pc : CallPc) : Prop :=
  (∃ e, pc = .sem (.pendSched e)) ∨ ∃ e, pc = .sem (.pendResume e)

/-- The place is just before a call of `OS_Sched`. -/
def CallPc.CallsSched (pc : CallPc) : Prop :=
  pc = .sched ∨ pc = .sem .unlockSched ∨ (∃ e, pc = .sem (.pendSched e)) ∨ ∃ e,
    pc = .sem (.postSched e)

/-- The priority whose TCB the task has entered in `OSTCBPrioTbl` and not yet put into the list. -/
def CallPc.entering : CallPc → Option ℕ
  | .createEntered prio _ => some prio
  | _ => none

/-- **The window of `OSTaskCreate`**: the TCB of `prio` is in `OSTCBPrioTbl`, but not yet in the TCB
list. -/
def Entering (s : TaskState) (prio : ℕ) : Prop := ∃ q ≤ 63, (s.pc q).entering = some prio

instance (s : TaskState) (prio : ℕ) : Decidable (Entering s prio) :=
  inferInstanceAs (Decidable (∃ q ≤ 63, (s.pc q).entering = some prio))

/-- The action does not suspend a task in that window. -/
def SuspendsListed (s : TaskState) : TaskAction → Prop
  | .suspend prio => ¬ Entering s prio
  | .isrSuspend prio => ¬ Entering s prio
  | _ => True

instance (s : TaskState) : (a : TaskAction) → Decidable (SuspendsListed s a)
  | .suspend prio => inferInstanceAs (Decidable (¬ Entering s prio))
  | .isrSuspend prio => inferInstanceAs (Decidable (¬ Entering s prio))
  | .create _ | .resume _ | .dly _ | .dlyHmsm _ _ _ _ | .timeSet _ | .lock | .unlock | .semCreate _
  | .pend _ _ | .post _ | .accept _ | .task | .intEnter | .isrPost _ | .isrResume _ | .tick
  | .tickNext | .intExit => isTrue trivial

/-- The action does not pend while the scheduler is locked. -/
def PendsUnlocked (s : TaskState) : TaskAction → Prop
  | .pend _ _ => s.mem.lockNesting = 0
  | _ => True

instance (s : TaskState) : (a : TaskAction) → Decidable (PendsUnlocked s a)
  | .pend _ _ => inferInstanceAs (Decidable (s.mem.lockNesting = 0))
  | .create _ | .suspend _ | .resume _ | .dly _ | .dlyHmsm _ _ _ _ | .timeSet _ | .lock | .unlock
  | .semCreate _ | .post _ | .accept _ | .task | .intEnter | .isrPost _ | .isrSuspend _
  | .isrResume _ | .tick | .tickNext | .intExit => isTrue trivial

/-- **An orderly step**: it neither suspends a task in the window of `OSTaskCreate` nor pends while
the scheduler is locked. After either of these the ready list and the wait lists no longer agree
with the TCBs. -/
def Orderly (s : TaskState) (a : TaskAction) : Prop := SuspendsListed s a ∧ PendsUnlocked s a

instance (s : TaskState) (a : TaskAction) : Decidable (Orderly s a) :=
  inferInstanceAs (Decidable (SuspendsListed s a ∧ PendsUnlocked s a))

end Kernel
