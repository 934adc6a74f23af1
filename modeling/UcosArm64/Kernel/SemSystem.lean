import UcosArm64.Foundations.Transition
import UcosArm64.Kernel.OsSem

set_option relaxedAutoImplicit false
set_option autoImplicit false

/-!
# Tasks and interrupts on semaphores

The machine of all interleavings of semaphore calls: the current task makes calls and runs through
them, interrupts come at any point outside a critical section, post and tick, and every call of the
scheduler may make another task the current one.

## Main definitions

* `Kernel.OsConfig` — the tasks and the priority of the idle task.
* `Kernel.TaskPc` — where a task stands in a call.
* `Kernel.SemState`, `Kernel.SemAction`, `Kernel.semStep` — the machine.
* `Kernel.Ledger` — what the calls on a semaphore have returned so far.

## Design

One step is a critical section together with the code up to the next one. A task that is switched
out keeps its place in its call. `OSTimeTick` goes through the TCB list one task at a step, as the
code does; interrupts nest. A task may lock the scheduler, but does not pend while it is locked; the
idle task makes no calls. The ledger and the flags `handed` record what happened and influence
nothing.
-/

namespace Kernel

/-- The tasks, in the order of the TCB list, and the priority of the idle task
(`OS_TASK_IDLE_PRIO`, the lowest priority). -/
structure OsConfig where
  idlePrio : ℕ
  tasks : List ℕ
  lt_idlePrio : ∀ p ∈ tasks, p < idlePrio
  idlePrio_le : idlePrio ≤ 63

/-- Where a task stands: outside the kernel; in `OSSemPend`, before its call of `OS_Sched` or after
it; in `OSSemPost`, before its call of `OS_Sched` or after it; in `OSSchedUnlock` before its call of
`OS_Sched`. -/
inductive TaskPc (ι : Type)
  | user
  | pendSched (i : ι)
  | pendResume (i : ι)
  | postSched (i : ι)
  | postReturn (i : ι)
  | unlockSched
  deriving DecidableEq

/-- How many calls on a semaphore have returned so far: `OSSemPost` with `OS_ERR_NONE`, `OSSemPend`
with `OS_ERR_NONE`, and `OSSemAccept` with a count that is not zero. -/
structure Ledger where
  postOk : ℕ
  pendOk : ℕ
  acceptOk : ℕ

/-- The state of the machine: the kernel's data, the place of every task, the rest of the TCB list
that the ticks have still to go through, the ledgers, and which tasks a post has readied that have
not yet returned from `OSSemPend`. -/
structure SemState (ι : Type) where
  kernel : OsState ι
  pc : ℕ → TaskPc ι
  tick : List ℕ
  ledger : ι → Ledger
  handed : ℕ → Bool

/-- The calls of the current task, its next step, and the steps of interrupts. -/
inductive SemAction (ι : Type)
  | pend (i : ι) (timeout : UInt32)
  | post (i : ι)
  | accept (i : ι)
  | lock
  | unlock
  | task
  | intEnter
  | isrPost (i : ι)
  | tick
  | tickNext
  | intExit

section

variable {ι : Type} [DecidableEq ι]

/-- The state when multitasking starts: all tasks are ready, and the semaphores have been created
with the given counts. -/
def semInit (cfg : OsConfig) (cnt : ι → UInt16) : SemState ι where
  kernel :=
    let rdy := cfg.tasks.foldl PrioBitmap.insert (PrioBitmap.empty.insert cfg.idlePrio)
    { rdy := rdy
      prioCur := rdy.first osUnMap
      intNesting := 0
      lockNesting := 0
      tcb := fun _ => ⟨osStatRdy, osStatPendOk, 0⟩
      event := fun i => osSemCreate (cnt i)
      time := 0 }
  pc := fun _ => .user
  tick := []
  ledger := fun _ => ⟨0, 0, 0⟩
  handed := fun _ => false

/-- The current task moves to another place. -/
def SemState.setPc (s : SemState ι) (p : ℕ) (pc : TaskPc ι) : SemState ι :=
  { s with pc := Function.update s.pc p pc }

/-- Record in the ledger of a semaphore. -/
def SemState.record (s : SemState ι) (i : ι) (f : Ledger → Ledger) : SemState ι :=
  { s with ledger := Function.update s.ledger i (f (s.ledger i)) }

/-- The ledgers after an entry in one of them. -/
@[simp] lemma record_ledger (s : SemState ι) (i j : ι) (f : Ledger → Ledger) :
    (s.record i f).ledger j = if j = i then f (s.ledger i) else s.ledger j := by
  by_cases h : j = i
  · subst h
    simp [SemState.record]
  · simp [SemState.record, h]

/-- Record that a task was readied by a post, or has returned. -/
def SemState.setHanded (s : SemState ι) (p : ℕ) (b : Bool) : SemState ι :=
  { s with handed := Function.update s.handed p b }

/-- One more successful post. -/
def Ledger.addPost (l : Ledger) : Ledger := { l with postOk := l.postOk + 1 }

/-- One more successful pend. -/
def Ledger.addPend (l : Ledger) : Ledger := { l with pendOk := l.pendOk + 1 }

/-- One more successful accept. -/
def Ledger.addAccept (l : Ledger) : Ledger := { l with acceptOk := l.acceptOk + 1 }

/-- A call of the current task, up to the end of its first critical section. -/
def callStep (s : SemState ι) : SemAction ι → Option (SemState ι)
  | .pend i timeout =>
    if s.kernel.lockNesting = 0 then
      match osSemPend s.kernel i timeout with
      | (k, some .none) => some (({ s with kernel := k }).record i Ledger.addPend)
      | (k, some _) => some { s with kernel := k }
      | (k, none) => some (({ s with kernel := k }).setPc s.kernel.prioCur (.pendSched i))
    else none
  | .post i =>
    match osSemPost s.kernel i with
    | (k, .readied p) =>
      some ((({ s with kernel := k }).setPc s.kernel.prioCur (.postSched i)).setHanded p true)
    | (k, .counted) => some (({ s with kernel := k }).record i Ledger.addPost)
    | (k, .overflow) => some { s with kernel := k }
  | .accept i =>
    let r := osSemAccept s.kernel i
    if r.2 ≠ 0 then some (({ s with kernel := r.1 }).record i Ledger.addAccept)
    else some { s with kernel := r.1 }
  | .lock => some { s with kernel := osSchedLock s.kernel }
  | .unlock =>
    let r := osSchedUnlock s.kernel
    if r.2 then some (({ s with kernel := r.1 }).setPc s.kernel.prioCur .unlockSched)
    else some { s with kernel := r.1 }
  | _ => none

/-- The next step of the current task in its call. -/
def taskStep (s : SemState ι) : Option (SemState ι) :=
  let cur := s.kernel.prioCur
  match s.pc cur with
  | .user => none
  | .pendSched i => some (({ s with kernel := osSched s.kernel }).setPc cur (.pendResume i))
  | .pendResume i =>
    let r := osSemPendResume s.kernel i
    let t := (({ s with kernel := r.1 }).setPc cur .user).setHanded cur false
    if r.2 = .none then some (t.record i Ledger.addPend) else some t
  | .postSched i => some (({ s with kernel := osSched s.kernel }).setPc cur (.postReturn i))
  | .postReturn i => some ((s.setPc cur .user).record i Ledger.addPost)
  | .unlockSched => some (({ s with kernel := osSched s.kernel }).setPc cur .user)

/-- A step of an interrupt. `OS_Sched` returns at once in an interrupt, and so does `OSSemPost`. -/
def interruptStep (cfg : OsConfig) (s : SemState ι) : SemAction ι → Option (SemState ι)
  | .isrPost i =>
    match osSemPost s.kernel i with
    | (k, .readied p) =>
      some ((({ s with kernel := osSched k }).setHanded p true).record i Ledger.addPost)
    | (k, .counted) => some (({ s with kernel := k }).record i Ledger.addPost)
    | (k, .overflow) => some { s with kernel := k }
  | .tick =>
    -- a tick in a nested interrupt goes through the list before the one below goes on
    some { s with
      kernel := { s.kernel with time := s.kernel.time + 1 }
      tick := cfg.tasks ++ s.tick }
  | .tickNext =>
    match s.tick with
    | [] => none
    | p :: rest => some { s with kernel := osTimeTickTcb s.kernel p, tick := rest }
  | .intExit =>
    if s.kernel.intNesting = 1 ∧ s.tick ≠ [] then none
    else some { s with kernel := osIntExit s.kernel }
  | _ => none

/-- **One step of the machine.** -/
def semStep (cfg : OsConfig) (s : SemState ι) (a : SemAction ι) : Option (SemState ι) :=
  match a with
  | .intEnter =>
    if s.kernel.intNesting < 255 then some { s with kernel := osIntEnter s.kernel } else none
  | .isrPost _ | .tick | .tickNext | .intExit =>
    if s.kernel.intNesting > 0 then interruptStep cfg s a else none
  | .task => if s.kernel.intNesting = 0 then taskStep s else none
  | _ =>
    if s.kernel.intNesting = 0 ∧ s.kernel.prioCur ≠ cfg.idlePrio ∧
        s.pc s.kernel.prioCur = .user then callStep s a else none

end

end Kernel
