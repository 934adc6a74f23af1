import UcosArm64.Kernel.OsSem

set_option relaxedAutoImplicit false
set_option autoImplicit false

/-!
# The tables of the kernel

The kernel as `os_core.c`, `os_task.c`, `os_time.c` and `os_sem.c` keep it: the table of TCBs with
the list of the tasks and the list of the free TCBs threaded through it, the table of TCBs by
priority, the table of event control blocks with its free list, and the functions on them as the
code computes them for the configuration in `os_cfg.h`.

## Main definitions

* `Kernel.OsCfg`, `Kernel.osCfg` — the constants of `os_cfg.h`.
* `Kernel.TcbPtr`, `Kernel.TcbBlock`, `Kernel.EventBlock`, `Kernel.OsMem` — the data.
* `Kernel.OsMem.osInit`, `Kernel.OsMem.osStart` — the initialization.
* `Kernel.OsMem.osTaskCreate`, `Kernel.OsMem.osTaskSuspend`, `Kernel.OsMem.osTaskResume`,
  `Kernel.OsMem.osTimeDly`, `Kernel.OsMem.osTimeDlyHmsm` — the services for tasks.
* `Kernel.OsMem.osSemCreate`, `Kernel.OsMem.osSemPend`, … — those for semaphores.

## Design

A TCB is named by its index in `OSTCBTbl`, an event control block by its index in `OSEventTbl`. A
write through a pointer that points to no TCB is not done, and a read through it gives a cleared
TCB; the invariants of the following modules show that there are no such accesses. `OSTCBX`,
`OSTCBY` and their bits are those of `OSTCBPrio`. A function that calls `OS_Sched` is cut at the
call, and says whether it goes on to make it. `OSTaskCreate` is cut at each of its critical
sections.
-/

namespace Kernel

/-! ## Constants -/

/-- The constants of `os_cfg.h` on which the tables depend: `OS_LOWEST_PRIO`, `OS_MAX_TASKS` and
`OS_MAX_EVENTS`. -/
structure OsCfg where
  lowestPrio : ℕ
  maxTasks : ℕ
  maxEvents : ℕ
  lowestPrio_le : lowestPrio ≤ 63
  maxTasks_lt : maxTasks < 255
  maxEvents_gt : 1 < maxEvents

/-- `OS_LOWEST_PRIO` -/
def osLowestPrio : ℕ := 10

/-- The configuration in `os_cfg.h`. -/
def osCfg : OsCfg where
  lowestPrio := osLowestPrio
  maxTasks := 8
  maxEvents := 8
  lowestPrio_le := by decide
  maxTasks_lt := by decide
  maxEvents_gt := by decide

/-- `OS_TASK_IDLE_PRIO` -/
def OsCfg.taskIdlePrio (cfg : OsCfg) : ℕ := cfg.lowestPrio

/-- `OS_N_SYS_TASKS` -/
def osNSysTasks : ℕ := 1

/-- The size of `OSTCBTbl`. -/
def OsCfg.nTcb (cfg : OsCfg) : ℕ := cfg.maxTasks + osNSysTasks

/-- `OS_PRIO_SELF` -/
def osPrioSelf : ℕ := 0xFF

/-- `OS_TICKS_PER_SEC` -/
def osTicksPerSec : UInt64 := 1000

/-- The types of an event control block, `OS_EVENT_TYPE_UNUSED` and `OS_EVENT_TYPE_SEM`. -/
inductive EventType
  | unused
  | sem
  deriving DecidableEq

/-- The error codes of the services. -/
inductive ErrCode
  | none
  | eventType
  | pendIsr
  | peventNull
  | timeout
  | pendAbort
  | prioExist
  | prioInvalid
  | schedLocked
  | semOvf
  | taskCreateIsr
  | taskNoMoreTcb
  | taskNotExist
  | taskNotSuspended
  | taskResumePrio
  | taskSuspendIdle
  | taskSuspendPrio
  | timeInvalidMinutes
  | timeInvalidSeconds
  | timeInvalidMs
  | timeZeroDly
  | timeDlyIsr
  deriving DecidableEq

/-! ## Data -/

/-- A pointer to a TCB: null, `OS_TCB_RESERVED`, or to an entry of `OSTCBTbl`. -/
inductive TcbPtr
  | null
  | reserved
  | tcb (i : ℕ)
  deriving DecidableEq

/-- `OS_TCB`: besides the fields of `OsTcb`, `OSTCBPrio`, `OSTCBNext` and `OSTCBPrev`. -/
structure TcbBlock extends OsTcb where
  prio : ℕ
  next : Option ℕ
  prev : Option ℕ
  deriving DecidableEq

/-- A TCB that `OS_MemClr` has cleared. -/
def TcbBlock.cleared : TcbBlock := ⟨⟨0, 0, 0⟩, 0, none, none⟩

/-- `OS_EVENT`: besides the fields of `OsEvent`, `OSEventType`, and `OSEventPtr`, which links the
free ones. -/
structure EventBlock extends OsEvent where
  type : EventType
  ptr : Option ℕ

/-- An event control block that `OS_MemClr` has cleared. -/
def EventBlock.cleared : EventBlock := ⟨⟨0, PrioBitmap.empty⟩, .unused, none⟩

/-- The global data: the ready list `OSRdyGrp` and `OSRdyTbl`, `OSPrioCur`, `OSTCBCur`,
`OSIntNesting`, `OSLockNesting`, `OSRunning`, `OSTCBTbl`, `OSTCBPrioTbl`, `OSTCBFreeList`,
`OSTCBList`, `OSTaskCtr`, `OSEventTbl`, `OSEventFreeList` and `OSTime`. -/
structure OsMem where
  rdy : PrioBitmap
  prioCur : ℕ
  tcbCur : TcbPtr
  intNesting : ℕ
  lockNesting : ℕ
  running : Bool
  tcbTbl : ℕ → TcbBlock
  tcbPrioTbl : ℕ → TcbPtr
  tcbFreeList : Option ℕ
  tcbList : Option ℕ
  taskCtr : UInt8
  eventTbl : ℕ → EventBlock
  eventFreeList : Option ℕ
  time : UInt32

namespace OsMem

/-- The data at reset, all of it cleared. -/
def cleared : OsMem where
  rdy := PrioBitmap.empty
  prioCur := 0
  tcbCur := .null
  intNesting := 0
  lockNesting := 0
  running := false
  tcbTbl := fun _ => TcbBlock.cleared
  tcbPrioTbl := fun _ => .null
  tcbFreeList := none
  tcbList := none
  taskCtr := 0
  eventTbl := fun _ => EventBlock.cleared
  eventFreeList := none
  time := 0

/-- The TCB that a pointer points to. -/
def block (k : OsMem) : TcbPtr → TcbBlock
  | .tcb i => k.tcbTbl i
  | _ => TcbBlock.cleared

/-- Write a TCB through a pointer. -/
def setBlock (k : OsMem) (ptcb : TcbPtr) (b : TcbBlock) : OsMem :=
  match ptcb with
  | .tcb i => { k with tcbTbl := Function.update k.tcbTbl i b }
  | _ => k

/-- Write the status and the delay of a TCB through a pointer. -/
def setTcb (k : OsMem) (ptcb : TcbPtr) (t : OsTcb) : OsMem :=
  k.setBlock ptcb { k.block ptcb with toOsTcb := t }

/-- Write an event control block. -/
def setEvent (k : OsMem) (e : ℕ) (ev : EventBlock) : OsMem :=
  { k with eventTbl := Function.update k.eventTbl e ev }

/-- Write the wait list of an event. -/
def setWait (k : OsMem) (e : ℕ) (wait : PrioBitmap) : OsMem :=
  k.setEvent e { k.eventTbl e with wait := wait }

/-- Write the count of an event. -/
def setCnt (k : OsMem) (e : ℕ) (cnt : UInt16) : OsMem :=
  k.setEvent e { k.eventTbl e with cnt := cnt }

/-! ## The scheduler -/

/-- `OS_SchedNew`: the value of `OSPrioHighRdy`. -/
def osSchedNew (k : OsMem) : ℕ := k.rdy.first osUnMap

/-- A context switch to the highest ready task, `OSTCBHighRdy`, unless it is the current one. -/
def switch (k : OsMem) : OsMem :=
  if k.osSchedNew ≠ k.prioCur then
    { k with prioCur := k.osSchedNew, tcbCur := k.tcbPrioTbl k.osSchedNew }
  else k

/-- `OS_Sched` -/
def osSched (k : OsMem) : OsMem :=
  if k.intNesting = 0 then
    if k.lockNesting = 0 then k.switch else k
  else k

/-- `OSIntEnter` -/
def osIntEnter (k : OsMem) : OsMem :=
  if k.running then
    if k.intNesting < 255 then { k with intNesting := k.intNesting + 1 } else k
  else k

/-- `OSIntExit` -/
def osIntExit (k : OsMem) : OsMem :=
  if k.running then
    let k := if k.intNesting > 0 then { k with intNesting := k.intNesting - 1 } else k
    if k.intNesting = 0 then
      if k.lockNesting = 0 then k.switch else k
    else k
  else k

/-- `OSSchedLock` -/
def osSchedLock (k : OsMem) : OsMem :=
  if k.running then
    if k.intNesting = 0 then
      if k.lockNesting < 255 then { k with lockNesting := k.lockNesting + 1 } else k
    else k
  else k

/-- `OSSchedUnlock`, and whether it goes on to call `OS_Sched`. -/
def osSchedUnlock (k : OsMem) : OsMem × Bool :=
  if k.running then
    if k.intNesting = 0 then
      if k.lockNesting > 0 then
        ({ k with lockNesting := k.lockNesting - 1 }, k.lockNesting - 1 = 0)
      else (k, false)
    else (k, false)
  else (k, false)

/-! ## Tasks -/

/-- `OSTaskCreate` up to the end of its first critical section: the error code if it returns, `none`
if it goes on. -/
def osTaskCreate (cfg : OsCfg) (k : OsMem) (prio : ℕ) : OsMem × Option ErrCode :=
  if prio > cfg.lowestPrio then (k, some .prioInvalid)
  else if k.intNesting > 0 then (k, some .taskCreateIsr)
  else if k.tcbPrioTbl prio = .null then
    ({ k with tcbPrioTbl := Function.update k.tcbPrioTbl prio .reserved }, none)
  else (k, some .prioExist)

/-- `OS_TCBInit` up to its second critical section, and the TCB that it has taken and filled. -/
def osTcbInit (k : OsMem) (prio : ℕ) : OsMem × Option ℕ :=
  match k.tcbFreeList with
  | some ptcb =>
    let k := { k with tcbFreeList := (k.tcbTbl ptcb).next }
    let b := k.tcbTbl ptcb
    let b := { b with prio := prio, stat := osStatRdy, statPend := osStatPendOk, dly := 0 }
    (k.setBlock (.tcb ptcb) b, some ptcb)
  | none => (k, none)

/-- The second critical section of `OS_TCBInit`. -/
def osTcbInitPrio (k : OsMem) (prio ptcb : ℕ) : OsMem :=
  { k with tcbPrioTbl := Function.update k.tcbPrioTbl prio (.tcb ptcb) }

/-- The third critical section of `OS_TCBInit`. -/
def osTcbInitLink (k : OsMem) (ptcb : ℕ) : OsMem :=
  let k := k.setBlock (.tcb ptcb) { k.tcbTbl ptcb with next := k.tcbList, prev := none }
  let k :=
    match k.tcbList with
    | some head => k.setBlock (.tcb head) { k.tcbTbl head with prev := some ptcb }
    | none => k
  { k with
    tcbList := some ptcb
    rdy := k.rdy.insert (k.tcbTbl ptcb).prio
    taskCtr := k.taskCtr + 1 }

/-- The critical section of `OSTaskCreate` after `OS_TCBInit` has found no TCB. -/
def osTaskCreateFail (k : OsMem) (prio : ℕ) : OsMem :=
  { k with tcbPrioTbl := Function.update k.tcbPrioTbl prio .null }

/-- `OSTaskCreate` from its beginning to its end, before the start of multitasking. -/
def osTaskCreateAll (cfg : OsCfg) (k : OsMem) (prio : ℕ) : OsMem × ErrCode :=
  match k.osTaskCreate cfg prio with
  | (k, some err) => (k, err)
  | (k, none) =>
    match k.osTcbInit prio with
    | (k, some ptcb) => ((k.osTcbInitPrio prio ptcb).osTcbInitLink ptcb, .none)
    | (k, none) => (k.osTaskCreateFail prio, .taskNoMoreTcb)

/-- `OSTaskSuspend` up to its call of `OS_Sched`, and whether it makes the call. -/
def osTaskSuspend (cfg : OsCfg) (k : OsMem) (prio : ℕ) : OsMem × ErrCode × Bool :=
  if prio = cfg.taskIdlePrio then (k, .taskSuspendIdle, false)
  else if prio ≥ cfg.lowestPrio ∧ prio ≠ osPrioSelf then (k, .prioInvalid, false)
  else
    let cur := (k.block k.tcbCur).prio
    let self : Bool := prio = osPrioSelf ∨ prio = cur
    let prio := if prio = osPrioSelf then cur else prio
    let ptcb := k.tcbPrioTbl prio
    if ptcb = .null then (k, .taskSuspendPrio, false)
    else if ptcb = .reserved then (k, .taskNotExist, false)
    else
      let t := (k.block ptcb).toOsTcb
      let k := { k with rdy := k.rdy.remove (k.block ptcb).prio }
      (k.setTcb ptcb { t with stat := t.stat ||| osStatSuspend }, .none, self)

/-- `OSTaskResume` up to its call of `OS_Sched`, and whether it makes the call. -/
def osTaskResume (cfg : OsCfg) (k : OsMem) (prio : ℕ) : OsMem × ErrCode × Bool :=
  if prio ≥ cfg.lowestPrio then (k, .prioInvalid, false)
  else
    let ptcb := k.tcbPrioTbl prio
    if ptcb = .null then (k, .taskResumePrio, false)
    else if ptcb = .reserved then (k, .taskNotExist, false)
    else
      let t := (k.block ptcb).toOsTcb
      if t.stat &&& osStatSuspend ≠ osStatRdy then
        let stat := t.stat &&& ~~~osStatSuspend
        let k := k.setTcb ptcb { t with stat := stat }
        if stat &&& osStatPendAny = osStatRdy ∧ t.dly = 0 then
          ({ k with rdy := k.rdy.insert (k.block ptcb).prio }, .none, k.running)
        else (k, .none, false)
      else (k, .taskNotSuspended, false)

/-! ## Time -/

/-- `OSTimeDly` up to its call of `OS_Sched`, and whether it makes the call. -/
def osTimeDly (k : OsMem) (ticks : UInt32) : OsMem × Bool :=
  if k.intNesting > 0 then (k, false)
  else if k.lockNesting > 0 then (k, false)
  else if ticks > 0 then
    let t := (k.block k.tcbCur).toOsTcb
    let k := { k with rdy := k.rdy.remove (k.block k.tcbCur).prio }
    (k.setTcb k.tcbCur { t with dly := ticks }, true)
  else (k, false)

/-- The number of ticks that `OSTimeDlyHMSM` computes, in `unsigned long`, and keeps in 32 bits. -/
def hmsmTicks (hours minutes seconds : UInt8) (ms : UInt16) : UInt32 :=
  ((hours.toUInt64 * 3600 + minutes.toUInt64 * 60 + seconds.toUInt64) * osTicksPerSec +
    osTicksPerSec * (ms.toUInt64 + 500 / osTicksPerSec) / 1000).toUInt32

/-- `OSTimeDlyHMSM` up to the call of `OS_Sched` in `OSTimeDly`, and whether that call is made. -/
def osTimeDlyHmsm (k : OsMem) (hours minutes seconds : UInt8) (ms : UInt16) :
    OsMem × ErrCode × Bool :=
  if k.intNesting > 0 then (k, .timeDlyIsr, false)
  else if k.lockNesting > 0 then (k, .schedLocked, false)
  else if hours = 0 ∧ minutes = 0 ∧ seconds = 0 ∧ ms = 0 then (k, .timeZeroDly, false)
  else if minutes > 59 then (k, .timeInvalidMinutes, false)
  else if seconds > 59 then (k, .timeInvalidSeconds, false)
  else if ms > 999 then (k, .timeInvalidMs, false)
  else
    let r := k.osTimeDly (hmsmTicks hours minutes seconds ms)
    (r.1, .none, r.2)

/-- `OSTimeSet` -/
def osTimeSet (k : OsMem) (ticks : UInt32) : OsMem := { k with time := ticks }

/-- `OSTimeTick` up to its loop. -/
def osTimeTick (k : OsMem) : OsMem := { k with time := k.time + 1 }

/-- The body of the loop of `OSTimeTick`, for the TCB `i`. -/
def osTimeTickTcb (k : OsMem) (i : ℕ) : OsMem :=
  let t := (k.tcbTbl i).toOsTcb
  if t.dly ≠ 0 then
    let t := { t with dly := t.dly - 1 }
    if t.dly = 0 then
      let t :=
        if t.stat &&& osStatPendAny ≠ osStatRdy then
          { t with stat := t.stat &&& ~~~osStatPendAny, statPend := osStatPendTo }
        else { t with statPend := osStatPendOk }
      let k := k.setTcb (.tcb i) t
      if t.stat &&& osStatSuspend = osStatRdy then
        { k with rdy := k.rdy.insert (k.tcbTbl i).prio }
      else k
    else k.setTcb (.tcb i) t
  else k

/-! ## Wait lists -/

/-- `OS_EventTaskRemove` -/
def osEventTaskRemove (k : OsMem) (ptcb : TcbPtr) (e : ℕ) : OsMem :=
  k.setWait e ((k.eventTbl e).wait.remove (k.block ptcb).prio)

/-- `OS_EventTaskRdy`, and the priority it returns. -/
def osEventTaskRdy (k : OsMem) (e : ℕ) (msk pendStat : UInt8) : OsMem × ℕ :=
  let prio := (k.eventTbl e).wait.first osUnMap
  let ptcb := k.tcbPrioTbl prio
  let t : OsTcb := ⟨(k.block ptcb).stat &&& ~~~msk, pendStat, 0⟩
  let k := k.setTcb ptcb t
  let k :=
    if t.stat &&& osStatSuspend = osStatRdy then
      { k with rdy := k.rdy.insert (k.block ptcb).prio }
    else k
  (k.osEventTaskRemove ptcb e, prio)

/-- `OS_EventTaskWait` -/
def osEventTaskWait (k : OsMem) (e : ℕ) : OsMem :=
  let prio := (k.block k.tcbCur).prio
  let k := k.setWait e ((k.eventTbl e).wait.insert prio)
  { k with rdy := k.rdy.remove prio }

/-! ## Semaphores -/

/-- `OSSemCreate`, and the event it returns. -/
def osSemCreate (k : OsMem) (cnt : UInt16) : OsMem × Option ℕ :=
  if k.intNesting > 0 then (k, none)
  else
    match k.eventFreeList with
    | none => (k, none)
    | some pevent =>
      let k := { k with eventFreeList := (k.eventTbl pevent).ptr }
      (k.setEvent pevent ⟨⟨cnt, PrioBitmap.empty⟩, .sem, none⟩, some pevent)

/-- `OSSemCreate` up to the end of its critical section, and the block that it takes. -/
def osSemCreateTake (k : OsMem) : OsMem × Option ℕ :=
  if k.intNesting > 0 then (k, none)
  else
    match k.eventFreeList with
    | none => (k, none)
    | some pevent => ({ k with eventFreeList := (k.eventTbl pevent).ptr }, some pevent)

/-- `OSSemCreate` after its critical section: the block that it has taken becomes a semaphore. -/
def osSemCreateInit (k : OsMem) (pevent : ℕ) (cnt : UInt16) : OsMem :=
  k.setEvent pevent ⟨⟨cnt, PrioBitmap.empty⟩, .sem, none⟩

/-- `OSSemCreate` is its critical section and what follows it. -/
lemma osSemCreate_eq (k : OsMem) (cnt : UInt16) : k.osSemCreate cnt =
    match k.osSemCreateTake with
    | (k, none) => (k, none)
    | (k, some pevent) => (k.osSemCreateInit pevent cnt, some pevent) := by
  unfold osSemCreate osSemCreateTake
  split_ifs
  · rfl
  · cases k.eventFreeList <;> rfl

/-- `OSSemAccept` -/
def osSemAccept (k : OsMem) (pevent : Option ℕ) : OsMem × UInt16 :=
  match pevent with
  | none => (k, 0)
  | some e =>
    if (k.eventTbl e).type ≠ .sem then (k, 0)
    else
      let cnt := (k.eventTbl e).cnt
      if cnt > 0 then (k.setCnt e (cnt - 1), cnt) else (k, cnt)

/-- `OSSemPend` up to its call of `OS_Sched`: the error code if it returns before, `none` if it
makes the call. -/
def osSemPend (k : OsMem) (pevent : Option ℕ) (timeout : UInt32) : OsMem × Option ErrCode :=
  match pevent with
  | none => (k, some .peventNull)
  | some e =>
    if (k.eventTbl e).type ≠ .sem then (k, some .eventType)
    else if k.intNesting > 0 then (k, some .pendIsr)
    else if (k.eventTbl e).cnt > 0 then (k.setCnt e ((k.eventTbl e).cnt - 1), some .none)
    else
      let t := (k.block k.tcbCur).toOsTcb
      let k := k.setTcb k.tcbCur ⟨t.stat ||| osStatSem, osStatPendOk, timeout⟩
      (k.osEventTaskWait e, none)

/-- `OSSemPend` after its call of `OS_Sched`. -/
def osSemPendResume (k : OsMem) (e : ℕ) : OsMem × ErrCode :=
  let t := (k.block k.tcbCur).toOsTcb
  let stat := t.stat &&& ~~~(osStatSem ||| osStatPendAny)
  if t.statPend = osStatPendOk then
    (k.setTcb k.tcbCur { t with stat := stat, statPend := osStatPendOk }, .none)
  else
    let k := k.osEventTaskRemove k.tcbCur e
    if t.statPend = osStatPendTo then
      (k.setTcb k.tcbCur { t with stat := stat, statPend := osStatPendOk }, .timeout)
    else (k.setTcb k.tcbCur { t with stat := stat, statPend := osStatPendOk }, .pendAbort)

/-- What `OSSemPost` does before it calls `OS_Sched` or returns: it readies a task and goes on to
the call, or counts, or returns an error code. -/
inductive PostResult
  | readied (prio : ℕ)
  | returned (err : ErrCode)
  deriving DecidableEq

/-- `OSSemPost` up to its call of `OS_Sched`; what follows the call is the return of
`OS_ERR_NONE`. -/
def osSemPost (k : OsMem) (pevent : Option ℕ) : OsMem × PostResult :=
  match pevent with
  | none => (k, .returned .peventNull)
  | some e =>
    if (k.eventTbl e).type ≠ .sem then (k, .returned .eventType)
    else if (k.eventTbl e).wait.grp ≠ 0 then
      let r := k.osEventTaskRdy e osStatSem osStatPendOk
      (r.1, .readied r.2)
    else if (k.eventTbl e).cnt < 0xFFFF then
      (k.setCnt e ((k.eventTbl e).cnt + 1), .returned .none)
    else (k, .returned .semOvf)

/-! ## Initialization -/

/-- `OS_InitMisc` -/
def osInitMisc (k : OsMem) : OsMem :=
  { k with time := 0, intNesting := 0, lockNesting := 0, taskCtr := 0, running := false }

/-- `OS_InitRdyList` -/
def osInitRdyList (k : OsMem) : OsMem :=
  { k with rdy := PrioBitmap.empty, prioCur := 0, tcbCur := .null }

/-- `OS_InitTCBList` -/
def osInitTcbList (cfg : OsCfg) (k : OsMem) : OsMem :=
  let tbl : ℕ → TcbBlock := fun _ => TcbBlock.cleared
  let tbl := (List.range (cfg.nTcb - 1)).foldl
    (fun tbl ix => Function.update tbl ix { tbl ix with next := some (ix + 1) }) tbl
  let tbl := Function.update tbl (cfg.nTcb - 1) { tbl (cfg.nTcb - 1) with next := none }
  { k with
    tcbTbl := tbl
    tcbPrioTbl := fun _ => .null
    tcbList := none
    tcbFreeList := some 0 }

/-- `OS_InitEventList` -/
def osInitEventList (cfg : OsCfg) (k : OsMem) : OsMem :=
  let tbl : ℕ → EventBlock := fun _ => EventBlock.cleared
  let tbl := (List.range (cfg.maxEvents - 1)).foldl
    (fun tbl ix => Function.update tbl ix { tbl ix with type := .unused, ptr := some (ix + 1) }) tbl
  let tbl := Function.update tbl (cfg.maxEvents - 1)
    { tbl (cfg.maxEvents - 1) with type := .unused, ptr := none }
  { k with eventTbl := tbl, eventFreeList := some 0 }

/-- `OS_InitTaskIdle` -/
def osInitTaskIdle (cfg : OsCfg) (k : OsMem) : OsMem := (k.osTaskCreateAll cfg cfg.taskIdlePrio).1

/-- `OSInit` -/
def osInit (cfg : OsCfg) (k : OsMem) : OsMem :=
  ((((k.osInitMisc).osInitRdyList).osInitTcbList cfg).osInitEventList cfg).osInitTaskIdle cfg

/-- `OSStart`, with `OSStartHighRdy` up to the first instruction of the task. -/
def osStart (k : OsMem) : OsMem :=
  if k.running then k
  else
    { k with
      prioCur := k.osSchedNew
      tcbCur := k.tcbPrioTbl k.osSchedNew
      running := true }

end OsMem

end Kernel
