import Mathlib.Data.UInt
import UcosArm64.Foundations.PrioBitmap

set_option relaxedAutoImplicit false
set_option autoImplicit false

/-!
# Semaphores of the kernel

The parts of `os_core.c` and `os_sem.c` that a semaphore rests on: the ready list, the wait lists
of events, the scheduler, the tick, and `OSSemPend`, `OSSemPost` and `OSSemAccept`, as the code
computes them for at most 64 priorities.

## Main definitions

* `Kernel.OsTcb`, `Kernel.OsEvent`, `Kernel.OsState` — the data.
* `Kernel.osEventTaskRdy`, `Kernel.osEventTaskWait`, `Kernel.osEventTaskRemove` — the wait lists.
* `Kernel.osSched`, `Kernel.osIntExit`, `Kernel.osTimeTickTcb` — the scheduler and the tick.
* `Kernel.osSemPend`, `Kernel.osSemPendResume`, `Kernel.osSemPost`, `Kernel.osSemAccept`.

## Design

A task is named by its priority, and a pointer to its TCB is that priority. `OSTCBX`, `OSTCBY` and
the bits of the two are those of the priority, so a group byte and its table form a `PrioBitmap`. A
function that calls `OS_Sched` is cut at the call: what comes before the call and what comes after
it are two definitions. The fields and counters that none of these functions reads
(`OSTCBEventPtr`, `OSCtxSwCtr`, the trace hooks) are left out. `OSRunning` is true, and the event
is a semaphore, so the tests of these never fail.
-/

namespace Kernel

/-! ## Constants -/

/-- `OSUnMapTbl` -/
def osUnMapTbl : List ℕ := [
  0, 0, 1, 0, 2, 0, 1, 0, 3, 0, 1, 0, 2, 0, 1, 0,
  4, 0, 1, 0, 2, 0, 1, 0, 3, 0, 1, 0, 2, 0, 1, 0,
  5, 0, 1, 0, 2, 0, 1, 0, 3, 0, 1, 0, 2, 0, 1, 0,
  4, 0, 1, 0, 2, 0, 1, 0, 3, 0, 1, 0, 2, 0, 1, 0,
  6, 0, 1, 0, 2, 0, 1, 0, 3, 0, 1, 0, 2, 0, 1, 0,
  4, 0, 1, 0, 2, 0, 1, 0, 3, 0, 1, 0, 2, 0, 1, 0,
  5, 0, 1, 0, 2, 0, 1, 0, 3, 0, 1, 0, 2, 0, 1, 0,
  4, 0, 1, 0, 2, 0, 1, 0, 3, 0, 1, 0, 2, 0, 1, 0,
  7, 0, 1, 0, 2, 0, 1, 0, 3, 0, 1, 0, 2, 0, 1, 0,
  4, 0, 1, 0, 2, 0, 1, 0, 3, 0, 1, 0, 2, 0, 1, 0,
  5, 0, 1, 0, 2, 0, 1, 0, 3, 0, 1, 0, 2, 0, 1, 0,
  4, 0, 1, 0, 2, 0, 1, 0, 3, 0, 1, 0, 2, 0, 1, 0,
  6, 0, 1, 0, 2, 0, 1, 0, 3, 0, 1, 0, 2, 0, 1, 0,
  4, 0, 1, 0, 2, 0, 1, 0, 3, 0, 1, 0, 2, 0, 1, 0,
  5, 0, 1, 0, 2, 0, 1, 0, 3, 0, 1, 0, 2, 0, 1, 0,
  4, 0, 1, 0, 2, 0, 1, 0, 3, 0, 1, 0, 2, 0, 1, 0]

/-- An access to `OSUnMapTbl`. -/
def osUnMap (b : BitVec 8) : ℕ := osUnMapTbl.getD b.toNat 0

/-- `OS_STAT_RDY` -/
def osStatRdy : UInt8 := 0x00

/-- `OS_STAT_SEM` -/
def osStatSem : UInt8 := 0x01

/-- `OS_STAT_SUSPEND` -/
def osStatSuspend : UInt8 := 0x08

/-- `OS_STAT_PEND_ANY`: `OS_STAT_SEM`, `OS_STAT_MBOX`, `OS_STAT_Q`, `OS_STAT_MUTEX` and
`OS_STAT_FLAG`. -/
def osStatPendAny : UInt8 := 0x01 ||| 0x02 ||| 0x04 ||| 0x10 ||| 0x20

/-- `OS_STAT_PEND_OK` -/
def osStatPendOk : UInt8 := 0

/-- `OS_STAT_PEND_TO` -/
def osStatPendTo : UInt8 := 1

/-- The error codes of the semaphore functions. -/
inductive OsErr
  | none
  | timeout
  | pendIsr
  | pendAbort
  | semOvf
  deriving DecidableEq

/-! ## Data -/

/-- `OS_TCB`: `OSTCBStat`, `OSTCBStatPend` and `OSTCBDly`. -/
structure OsTcb where
  stat : UInt8
  statPend : UInt8
  dly : UInt32
  deriving DecidableEq

/-- `OS_EVENT` of a semaphore: `OSEventCnt`, and the wait list `OSEventGrp` and `OSEventTbl`. -/
structure OsEvent where
  cnt : UInt16
  wait : PrioBitmap

/-- The global data: the ready list `OSRdyGrp` and `OSRdyTbl`, `OSPrioCur`, `OSIntNesting`,
`OSLockNesting`, the TCBs by priority (`OSTCBPrioTbl`), the semaphores, and `OSTime`. -/
structure OsState (ι : Type) where
  rdy : PrioBitmap
  prioCur : ℕ
  intNesting : ℕ
  lockNesting : ℕ
  tcb : ℕ → OsTcb
  event : ι → OsEvent
  time : UInt32

section

variable {ι : Type}

/-- Write a TCB. -/
def OsState.setTcb (k : OsState ι) (p : ℕ) (t : OsTcb) : OsState ι :=
  { k with tcb := Function.update k.tcb p t }

section

variable [DecidableEq ι]

/-- Write the wait list of a semaphore. -/
def OsState.setWait (k : OsState ι) (i : ι) (wait : PrioBitmap) : OsState ι :=
  { k with event := Function.update k.event i { k.event i with wait := wait } }

/-- Write the count of a semaphore. -/
def OsState.setCnt (k : OsState ι) (i : ι) (cnt : UInt16) : OsState ι :=
  { k with event := Function.update k.event i { k.event i with cnt := cnt } }

/-- The wait lists after one of them has been set. -/
@[simp] lemma setWait_wait (k : OsState ι) (i j : ι) (wait : PrioBitmap) :
    ((k.setWait i wait).event j).wait = if j = i then wait else (k.event j).wait := by
  by_cases h : j = i
  · subst h
    simp [OsState.setWait]
  · simp [OsState.setWait, h]

/-- Setting a wait list leaves the counts alone. -/
@[simp] lemma setWait_cnt (k : OsState ι) (i j : ι) (wait : PrioBitmap) :
    ((k.setWait i wait).event j).cnt = (k.event j).cnt := by
  by_cases h : j = i
  · subst h
    simp [OsState.setWait]
  · simp [OsState.setWait, h]

/-- Setting a count leaves the wait lists alone. -/
@[simp] lemma setCnt_wait (k : OsState ι) (i j : ι) (cnt : UInt16) :
    ((k.setCnt i cnt).event j).wait = (k.event j).wait := by
  by_cases h : j = i
  · subst h
    simp [OsState.setCnt]
  · simp [OsState.setCnt, h]

/-- The counts after one of them has been set. -/
@[simp] lemma setCnt_cnt (k : OsState ι) (i j : ι) (cnt : UInt16) :
    ((k.setCnt i cnt).event j).cnt = if j = i then cnt else (k.event j).cnt := by
  by_cases h : j = i
  · subst h
    simp [OsState.setCnt]
  · simp [OsState.setCnt, h]

end

/-! ## The scheduler -/

/-- `OS_SchedNew`: the value of `OSPrioHighRdy`. -/
def osSchedNew (k : OsState ι) : ℕ := k.rdy.first osUnMap

/-- `OS_Sched`. After a context switch another task is the current one. -/
def osSched (k : OsState ι) : OsState ι :=
  if k.intNesting = 0 then
    if k.lockNesting = 0 then
      if osSchedNew k ≠ k.prioCur then { k with prioCur := osSchedNew k } else k
    else k
  else k

/-- `OSIntEnter` -/
def osIntEnter (k : OsState ι) : OsState ι :=
  if k.intNesting < 255 then { k with intNesting := k.intNesting + 1 } else k

/-- `OSIntExit` -/
def osIntExit (k : OsState ι) : OsState ι :=
  let k := if k.intNesting > 0 then { k with intNesting := k.intNesting - 1 } else k
  if k.intNesting = 0 then
    if k.lockNesting = 0 then
      if osSchedNew k ≠ k.prioCur then { k with prioCur := osSchedNew k } else k
    else k
  else k

/-- `OSSchedLock` -/
def osSchedLock (k : OsState ι) : OsState ι :=
  if k.intNesting = 0 then
    if k.lockNesting < 255 then { k with lockNesting := k.lockNesting + 1 } else k
  else k

/-- `OSSchedUnlock`, and whether it goes on to call `OS_Sched`. -/
def osSchedUnlock (k : OsState ι) : OsState ι × Bool :=
  if k.intNesting = 0 then
    if k.lockNesting > 0 then
      ({ k with lockNesting := k.lockNesting - 1 }, k.lockNesting - 1 = 0)
    else (k, false)
  else (k, false)

/-- `OS_Sched` leaves the events alone. -/
@[simp] lemma osSched_event (k : OsState ι) : (osSched k).event = k.event := by
  simp only [osSched]
  split_ifs <;> rfl

/-- `OSIntExit` leaves the events alone. -/
@[simp] lemma osIntExit_event (k : OsState ι) : (osIntExit k).event = k.event := by
  simp only [osIntExit]
  split_ifs <;> rfl

/-- `OSSchedLock` leaves the events alone. -/
@[simp] lemma osSchedLock_event (k : OsState ι) : (osSchedLock k).event = k.event := by
  simp only [osSchedLock]
  split_ifs <;> rfl

/-- `OSSchedUnlock` leaves the events alone. -/
@[simp] lemma osSchedUnlock_event (k : OsState ι) : (osSchedUnlock k).1.event = k.event := by
  simp only [osSchedUnlock]
  split_ifs <;> rfl

/-- `OS_Sched` leaves the ready list alone. -/
@[simp] lemma osSched_rdy (k : OsState ι) : (osSched k).rdy = k.rdy := by
  simp only [osSched]
  split_ifs <;> rfl

/-- Where it may switch, `OS_Sched` makes the highest ready task the current one. -/
lemma osSched_prioCur {k : OsState ι} (hint : k.intNesting = 0) (hlock : k.lockNesting = 0) :
    (osSched k).prioCur = osSchedNew k := by
  simp only [osSched]
  rw [if_pos hint, if_pos hlock]
  split_ifs with hne
  · rfl
  · exact (not_not.mp hne).symm

/-- `OSSchedUnlock` leaves the ready list alone. -/
@[simp] lemma osSchedUnlock_rdy (k : OsState ι) : (osSchedUnlock k).1.rdy = k.rdy := by
  simp only [osSchedUnlock]
  split_ifs <;> rfl

/-! ## The tick -/

/-- The body of the loop of `OSTimeTick`, for the task of priority `p`. -/
def osTimeTickTcb (k : OsState ι) (p : ℕ) : OsState ι :=
  let t := k.tcb p
  if t.dly ≠ 0 then
    let t := { t with dly := t.dly - 1 }
    if t.dly = 0 then
      let t :=
        if t.stat &&& osStatPendAny ≠ osStatRdy then
          { t with stat := t.stat &&& ~~~osStatPendAny, statPend := osStatPendTo }
        else { t with statPend := osStatPendOk }
      let k := k.setTcb p t
      if t.stat &&& osStatSuspend = osStatRdy then { k with rdy := k.rdy.insert p } else k
    else k.setTcb p t
  else k

/-- A tick leaves the events alone. -/
@[simp] lemma osTimeTickTcb_event (k : OsState ι) (p : ℕ) :
    (osTimeTickTcb k p).event = k.event := by
  simp only [osTimeTickTcb]
  split_ifs <;> rfl

/-! ## Wait lists -/

section

variable [DecidableEq ι]

/-- `OS_EventTaskRdy`, and the priority it returns. -/
def osEventTaskRdy (k : OsState ι) (i : ι) (msk pendStat : UInt8) : OsState ι × ℕ :=
  let prio := (k.event i).wait.first osUnMap
  let t : OsTcb := ⟨(k.tcb prio).stat &&& ~~~msk, pendStat, 0⟩
  let k := k.setTcb prio t
  let k :=
    if t.stat &&& osStatSuspend = osStatRdy then { k with rdy := k.rdy.insert prio } else k
  (k.setWait i ((k.event i).wait.remove prio), prio)

/-- `OS_EventTaskRdy` for a task that is not suspended. -/
lemma osEventTaskRdy_eq (k : OsState ι) (i : ι) (msk pendStat : UInt8) {p : ℕ}
    (hp : (osEventTaskRdy k i msk pendStat).2 = p)
    (hs : ((k.tcb p).stat &&& ~~~msk) &&& osStatSuspend = osStatRdy) :
    (osEventTaskRdy k i msk pendStat).1 =
      ({ k.setTcb p ⟨(k.tcb p).stat &&& ~~~msk, pendStat, 0⟩ with
        rdy := k.rdy.insert p } : OsState ι).setWait i ((k.event i).wait.remove p) := by
  subst hp
  have hs' : ((k.tcb ((k.event i).wait.first osUnMap)).stat &&& ~~~msk) &&& osStatSuspend =
      osStatRdy := hs
  simp only [osEventTaskRdy]
  rw [if_pos hs']
  rfl

/-- `OS_EventTaskRdy` makes no switch. -/
@[simp] lemma osEventTaskRdy_prioCur (k : OsState ι) (i : ι) (msk pendStat : UInt8) :
    (osEventTaskRdy k i msk pendStat).1.prioCur = k.prioCur := by
  simp only [osEventTaskRdy]
  split_ifs <;> rfl

/-- `OS_EventTaskRdy` leaves the counts alone. -/
@[simp] lemma osEventTaskRdy_cnt (k : OsState ι) (i j : ι) (msk pendStat : UInt8) :
    ((osEventTaskRdy k i msk pendStat).1.event j).cnt = (k.event j).cnt := by
  simp only [osEventTaskRdy]
  split_ifs <;> exact setWait_cnt _ i j _

/-- `OS_EventTaskRdy` adds no task to a wait list. -/
lemma mem_of_osEventTaskRdy (k : OsState ι) (i j : ι) (msk pendStat : UInt8) (q : ℕ)
    (h : ((osEventTaskRdy k i msk pendStat).1.event j).wait.Mem q) : (k.event j).wait.Mem q := by
  have hwait : ((osEventTaskRdy k i msk pendStat).1.event j).wait =
      if j = i then (k.event i).wait.remove ((k.event i).wait.first osUnMap)
      else (k.event j).wait := by
    simp only [osEventTaskRdy]
    split_ifs <;> simp_all [OsState.setTcb]
  rw [hwait] at h
  split_ifs at h with hj
  · rw [hj]
    rw [PrioBitmap.mem_remove] at h
    exact h.2
  · exact h

/-- `OS_EventTaskWait` -/
def osEventTaskWait (k : OsState ι) (i : ι) : OsState ι :=
  let k := k.setWait i ((k.event i).wait.insert k.prioCur)
  { k with rdy := k.rdy.remove k.prioCur }

/-- `OS_EventTaskRemove` -/
def osEventTaskRemove (k : OsState ι) (p : ℕ) (i : ι) : OsState ι :=
  k.setWait i ((k.event i).wait.remove p)

/-! ## Semaphores -/

/-- `OSSemCreate`: the event control block it fills. -/
def osSemCreate (cnt : UInt16) : OsEvent := ⟨cnt, PrioBitmap.empty⟩

/-- `OSSemAccept` -/
def osSemAccept (k : OsState ι) (i : ι) : OsState ι × UInt16 :=
  let cnt := (k.event i).cnt
  if cnt > 0 then (k.setCnt i (cnt - 1), cnt) else (k, cnt)

/-- `OSSemPend` up to its call of `OS_Sched`: the error code if it returns before, `none` if it
makes the call. -/
def osSemPend (k : OsState ι) (i : ι) (timeout : UInt32) : OsState ι × Option OsErr :=
  if k.intNesting > 0 then (k, some .pendIsr)
  else if (k.event i).cnt > 0 then (k.setCnt i ((k.event i).cnt - 1), some .none)
  else
    let t := k.tcb k.prioCur
    let k := k.setTcb k.prioCur ⟨t.stat ||| osStatSem, osStatPendOk, timeout⟩
    (osEventTaskWait k i, none)

/-- `OSSemPend` after its call of `OS_Sched`. -/
def osSemPendResume (k : OsState ι) (i : ι) : OsState ι × OsErr :=
  let t := k.tcb k.prioCur
  let stat := t.stat &&& ~~~(osStatSem ||| osStatPendAny)
  if t.statPend = osStatPendOk then
    (k.setTcb k.prioCur { t with stat := stat, statPend := osStatPendOk }, .none)
  else
    let k := osEventTaskRemove k k.prioCur i
    if t.statPend = osStatPendTo then
      (k.setTcb k.prioCur { t with stat := stat, statPend := osStatPendOk }, .timeout)
    else (k.setTcb k.prioCur { t with stat := stat, statPend := osStatPendOk }, .pendAbort)

/-- The end of `OSSemPend` adds no task to a wait list. -/
lemma mem_of_osSemPendResume (k : OsState ι) (i j : ι) (q : ℕ)
    (h : ((osSemPendResume k i).1.event j).wait.Mem q) : (k.event j).wait.Mem q := by
  simp only [osSemPendResume] at h
  split_ifs at h
  · exact h
  all_goals
    have hwait := setWait_wait k i j ((k.event i).wait.remove k.prioCur)
    have hmem : ((osEventTaskRemove k k.prioCur i).event j).wait.Mem q := h
    rw [osEventTaskRemove, hwait] at hmem
    split_ifs at hmem with hji
    · rw [hji]
      exact ((PrioBitmap.mem_remove _ _ _).mp hmem).2
    · exact hmem

/-- What `OSSemPost` does in its critical section: it readies a task and goes on to call `OS_Sched`,
or counts, or finds the count at its limit. -/
inductive PostOutcome
  | readied (prio : ℕ)
  | counted
  | overflow
  deriving DecidableEq

/-- `OSSemPost` up to its call of `OS_Sched`; what follows the call is the return of
`OS_ERR_NONE`. -/
def osSemPost (k : OsState ι) (i : ι) : OsState ι × PostOutcome :=
  if (k.event i).wait.grp ≠ 0 then
    let r := osEventTaskRdy k i osStatSem osStatPendOk
    (r.1, .readied r.2)
  else if (k.event i).cnt < 0xFFFF then (k.setCnt i ((k.event i).cnt + 1), .counted)
  else (k, .overflow)

/-! ## The outcomes of the calls -/

/-- `OSSemPend` in a task either takes a token or joins the wait list. -/
lemma osSemPend_cases (k : OsState ι) (i : ι) (timeout : UInt32) (h : k.intNesting = 0) :
    ((k.event i).cnt ≠ 0 ∧
        osSemPend k i timeout = (k.setCnt i ((k.event i).cnt - 1), some .none)) ∨
      ((k.event i).cnt = 0 ∧ osSemPend k i timeout = (osEventTaskWait (k.setTcb k.prioCur
        ⟨(k.tcb k.prioCur).stat ||| osStatSem, osStatPendOk, timeout⟩) i, none)) := by
  have hint : ¬ k.intNesting > 0 := by omega
  by_cases hc : (k.event i).cnt = 0
  · refine Or.inr ⟨hc, ?_⟩
    simp only [osSemPend]
    rw [if_neg hint, if_neg (by rw [hc]; decide)]
  · refine Or.inl ⟨hc, ?_⟩
    simp only [osSemPend]
    rw [if_neg hint, if_pos (UInt16.pos_iff_ne_zero.mpr hc)]

/-- `OSSemAccept` takes a token if there is one. -/
lemma osSemAccept_cases (k : OsState ι) (i : ι) :
    ((k.event i).cnt ≠ 0 ∧
        osSemAccept k i = (k.setCnt i ((k.event i).cnt - 1), (k.event i).cnt)) ∨
      ((k.event i).cnt = 0 ∧ osSemAccept k i = (k, 0)) := by
  by_cases hc : (k.event i).cnt = 0
  · refine Or.inr ⟨hc, ?_⟩
    simp only [osSemAccept]
    rw [if_neg (by rw [hc]; decide), hc]
  · refine Or.inl ⟨hc, ?_⟩
    simp only [osSemAccept]
    rw [if_pos (UInt16.pos_iff_ne_zero.mpr hc)]

/-- `OSSemPost` readies a task, or counts, or finds the count at its limit. -/
lemma osSemPost_cases (k : OsState ι) (i : ι) :
    ((k.event i).wait.grp ≠ 0 ∧ osSemPost k i =
        ((osEventTaskRdy k i osStatSem osStatPendOk).1,
          .readied (osEventTaskRdy k i osStatSem osStatPendOk).2)) ∨
      ((k.event i).wait.grp = 0 ∧ (k.event i).cnt < 0xFFFF ∧
        osSemPost k i = (k.setCnt i ((k.event i).cnt + 1), .counted)) ∨
      osSemPost k i = (k, .overflow) := by
  simp only [osSemPost]
  by_cases hgrp : (k.event i).wait.grp ≠ 0
  · rw [if_pos hgrp]
    exact Or.inl ⟨hgrp, rfl⟩
  · rw [if_neg hgrp]
    by_cases hcnt : (k.event i).cnt < 0xFFFF
    · rw [if_pos hcnt]
      exact Or.inr (Or.inl ⟨not_not.mp hgrp, hcnt, rfl⟩)
    · rw [if_neg hcnt]
      exact Or.inr (Or.inr rfl)

end

end

/-! ## The table -/

/-- `OSUnMapTbl` gives the lowest set bit of every byte that is not zero. -/
lemma isLowest_osUnMap : PrioBitmap.IsLowest osUnMap := by
  unfold PrioBitmap.IsLowest
  decide +kernel

end Kernel
