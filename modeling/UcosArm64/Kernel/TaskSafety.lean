import UcosArm64.Kernel.Boot

set_option relaxedAutoImplicit false
set_option autoImplicit false

/-!
# What holds in every run of the kernel

The invariants of the preceding modules, read as statements about every state that the kernel
reaches from `OSInit`, and an order of steps that breaks the agreement of the ready list with the
TCBs: a task that is suspended in the window of `OSTaskCreate`.

## Main results

* `Kernel.sysInv_of_reachable` — the invariant of the system holds in every reachable state.
* `Kernel.tcbs_partitioned` — every TCB has exactly one owner.
* `Kernel.highestReady_of_reachable` — the highest ready task runs.
* `Kernel.ready_iff_of_stepsMeet` — a task is ready exactly if its TCB says so.
* `Kernel.suspended_ready_of_entering` — a task suspended in the window becomes ready all the same.
-/

namespace Kernel

open Transition

section

variable {cfg : OsCfg} {k : OsMem} {calls : List BootCall} {s : TaskState}

/-! ## The invariants -/

/-- The invariant of the system holds in every reachable state. -/
lemma sysInv_of_reachable (h : Reachable (osStep cfg) (taskInit cfg k calls) s) :
    ∃ f l, SysInv cfg s f l := by
  refine h.invariant (I := fun s => ∃ f l, SysInv cfg s f l) ?_ ?_
  · rintro s a t ⟨f, l, hs⟩ hstep
    obtain ⟨f', l', ht, -⟩ := hs.step hstep
    exact ⟨f', l', ht⟩
  · obtain ⟨f, l, hs, -⟩ := sysInv_taskInit cfg k calls
    exact ⟨f, l, hs⟩

/-- The tasks that are ready, wait or run are on the TCB list after every run that suspends no task
in the window of `OSTaskCreate`. -/
lemma listed_of_stepsMeet {as : List TaskAction}
    (hmeet : StepsMeet (osStep cfg) SuspendsListed (taskInit cfg k calls) as)
    (hexec : exec (osStep cfg) (taskInit cfg k calls) as = some s) :
    ∃ f l, SysInv cfg s f l ∧ Listed s l := by
  refine exec_invariant_of_stepsMeet (I := fun s => ∃ f l, SysInv cfg s f l ∧
    Listed s l) ?_ ?_ hmeet
    hexec
  · rintro s a t ⟨f, l, hs, hc⟩ hlisted hstep
    obtain ⟨f', l', ht, hkeep, -⟩ := hs.step hstep
    exact ⟨f', l', ht, hkeep hc hlisted⟩
  · obtain ⟨f, l, hs, hc⟩ := sysInv_taskInit cfg k calls
    exact ⟨f, l, hs, hc.toListed⟩

/-- The lists agree with the TCBs after every run of orderly steps. -/
lemma consistent_of_stepsMeet {as : List TaskAction}
    (hmeet : StepsMeet (osStep cfg) Orderly (taskInit cfg k calls) as)
    (hexec : exec (osStep cfg) (taskInit cfg k calls) as = some s) :
    ∃ f l, SysInv cfg s f l ∧ Consistent s l := by
  refine exec_invariant_of_stepsMeet (I := fun s => ∃ f l, SysInv cfg s f l ∧ Consistent s l) ?_
    (sysInv_taskInit cfg k calls) hmeet hexec
  rintro s a t ⟨f, l, hs, hc⟩ horderly hstep
  obtain ⟨f', l', ht, -, hkeep, -⟩ := hs.step hstep
  exact ⟨f', l', ht, hkeep hc horderly⟩

/-! ## The ticks in progress -/

/-- `OSIntNesting` and `OSLockNesting`. -/
def OsMem.nesting (k : OsMem) : ℕ × ℕ := (k.intNesting, k.lockNesting)

/-- Writing a TCB leaves the nesting alone. -/
lemma nesting_setTcb (k : OsMem) (ptcb : TcbPtr) (t : OsTcb) :
    (k.setTcb ptcb t).nesting = k.nesting := by
  cases ptcb <;> rfl

/-- `OS_EventTaskRdy` leaves the nesting alone. -/
lemma nesting_osEventTaskRdy (k : OsMem) (e : ℕ) (msk pendStat : UInt8) :
    (k.osEventTaskRdy e msk pendStat).1.nesting = k.nesting := by
  simp only [OsMem.osEventTaskRdy, OsMem.osEventTaskRemove, OsMem.setWait, OsMem.setEvent]
  split_ifs
  · exact nesting_setTcb _ _ _
  · exact nesting_setTcb _ _ _

/-- `OS_Sched` leaves the nesting alone. -/
lemma nesting_osSched (k : OsMem) : k.osSched.nesting = k.nesting := by
  unfold OsMem.osSched OsMem.switch
  split_ifs <;> rfl

/-- What touches a task only leaves the nesting alone. -/
lemma Touches.nesting {k k' : OsMem} {p : ℕ} (h : Touches k k' p) : k'.nesting = k.nesting :=
  Prod.ext h.intNesting h.lockNesting

/-- `OSSemPost` leaves the nesting alone. -/
lemma nesting_osSemPost (k : OsMem) (pevent : Option ℕ) :
    (k.osSemPost pevent).1.nesting = k.nesting := by
  unfold OsMem.osSemPost
  split
  · rfl
  · split_ifs
    · rfl
    · exact nesting_osEventTaskRdy _ _ _ _
    · rfl
    · rfl

/-- `OSTaskSuspend` leaves the nesting alone. -/
lemma nesting_osTaskSuspend (cfg : OsCfg) (k : OsMem) (prio : ℕ) :
    (k.osTaskSuspend cfg prio).1.nesting = k.nesting := by
  rcases osTaskSuspend_cases cfg k prio with ⟨hk, -⟩ | ⟨p, i, -, -, -, hk⟩
  · rw [hk]
  · rw [hk]
    exact nesting_setTcb _ _ _

/-- `OSTaskResume` leaves the nesting alone. -/
lemma nesting_osTaskResume (cfg : OsCfg) (k : OsMem) (prio : ℕ) :
    (k.osTaskResume cfg prio).1.nesting = k.nesting := by
  rcases osTaskResume_cases cfg k prio with ⟨hk, -⟩ | ⟨i, -, -, -, k', hk', hk⟩
  · rw [hk]
  · split_ifs at hk
    · rw [hk, hk']
      exact nesting_setTcb _ _ _
    · rw [hk, hk']
      exact nesting_setTcb _ _ _

/-- Only `OSIntExit` ends an interrupt, and no interrupt locks the scheduler. -/
lemma isrStep_nesting {a : TaskAction} {t : TaskState} (hstep : isrStep cfg s a = some t)
    (ha : a ≠ .intExit) : t.mem.nesting = s.mem.nesting := by
  rcases isrStep_cases hstep with
    ⟨k, hk, ht⟩ | ⟨-, rfl⟩ | ⟨i, rest, -, -, ⟨-, rfl⟩ | ⟨-, rfl⟩⟩ | ⟨hexit, -⟩
  · have hsame : k.nesting = s.mem.nesting := by
      rcases hk with ⟨pevent, -, rfl⟩ | ⟨prio, -, rfl⟩ | ⟨prio, -, rfl⟩
      · exact nesting_osSemPost s.mem pevent
      · exact nesting_osTaskSuspend cfg s.mem prio
      · exact nesting_osTaskResume cfg s.mem prio
    rcases ht with rfl | rfl
    · exact hsame
    · exact (nesting_osSched k).trans hsame
  · rfl
  · exact (touches_osTimeTickTcb s.mem _).nesting
  · rfl
  · exact absurd hexit ha

/-- Outside interrupts no tick is in progress. -/
lemma walk_nil_step {a : TaskAction} {t : TaskState} (h : s.mem.intNesting = 0 → s.walk = [])
    (hstep : osStep cfg s a = some t) : t.mem.intNesting = 0 → t.walk = [] := by
  intro hzero
  by_cases hint : s.mem.intNesting = 0
  · -- no step of an interrupt is possible
    rcases osStep_walk hstep with ⟨-, -, hw⟩ | ⟨rfl, -⟩ | ⟨rfl, -⟩
    · rw [hw]
      exact h hint
    · simp [osStep, hint] at hstep
    · simp [osStep, hint] at hstep
  · have hpos : s.mem.intNesting > 0 := Nat.pos_of_ne_zero hint
    cases a with
    | isrPost _ | isrSuspend _ | isrResume _ | tick | tickNext =>
      simp only [osStep, if_pos hpos] at hstep
      have hsame : t.mem.intNesting = s.mem.intNesting :=
        congrArg Prod.fst (isrStep_nesting hstep (by simp))
      exact absurd (hsame ▸ hzero) hint
    | intExit =>
      simp only [osStep, if_pos hpos, isrStep] at hstep
      split_ifs at hstep with hlast
      obtain rfl := Option.some.inj hstep
      by_contra hw
      refine hlast ⟨?_, hw⟩
      have hexit : s.mem.osIntExit.intNesting = 0 := hzero
      unfold OsMem.osIntExit OsMem.switch at hexit
      grind
    | intEnter =>
      simp only [osStep] at hstep
      split_ifs at hstep
      obtain rfl := Option.some.inj hstep
      have henter : s.mem.osIntEnter.intNesting = 0 := hzero
      unfold OsMem.osIntEnter at henter
      grind
    | _ => simp [osStep, hint] at hstep

/-- Outside interrupts no tick is in progress. -/
lemma walk_nil_of_reachable (h : Reachable (osStep cfg) (taskInit cfg k calls) s) :
    s.mem.intNesting = 0 → s.walk = [] :=
  h.invariant (I := fun s => s.mem.intNesting = 0 → s.walk = []) (fun _ _ _ => walk_nil_step)
    fun _ => rfl

/-! ## The TCBs -/

/-- **No TCB is lost, and none has two owners.** In every reachable state, whatever calls of
`OSTaskCreate` are in progress: the free list and the list of the tasks are null-terminated lists
linked both ways, the second ends in the idle task and `OSTaskCtr` counts it, `OSTCBPrioTbl` agrees
with them, and every entry of `OSTCBTbl` is on exactly one of the two or in the hands of exactly
one task in `OSTaskCreate`. -/
theorem tcbs_partitioned (h : Reachable (osStep cfg) (taskInit cfg k calls) s) :
    ∃ f l, Pool cfg s.mem s.pc f l ∧ EndsInIdle cfg s.mem l ∧ f.Nodup ∧ l.Nodup ∧
      ∀ i < cfg.nTcb,
        (i ∈ f ∧ i ∉ l ∧ ∀ q, (s.pc q).held ≠ some i) ∨
        (i ∉ f ∧ i ∈ l ∧ ∀ q, (s.pc q).held ≠ some i) ∨
        (i ∉ f ∧ i ∉ l ∧ ∃ q, (s.pc q).held = some i ∧ ∀ r, (s.pc r).held = some i → r = q) := by
  obtain ⟨f, l, hs⟩ := sysInv_of_reachable h
  have hp := hs.pool
  refine ⟨f, l, hp, hs.ends, hp.free.nodup, hp.list.nodup, fun i hi => ?_⟩
  rcases (hp.inTbl i).mp hi with hf | hl | ⟨q, hq⟩
  · exact Or.inl ⟨hf, fun hl => hp.apart i hl hf, fun q hq => (hp.heldApart q i hq).1 hf⟩
  · exact Or.inr (Or.inl ⟨fun hf => hp.apart i hl hf, hl, fun q hq => (hp.heldApart q i hq).2 hl⟩)
  · obtain ⟨hf, hl⟩ := hp.heldApart q i hq
    exact Or.inr (Or.inr ⟨hf, hl, q, hq, fun r hr => hp.heldBy r q i hr hq⟩)

/-- Two tasks and a semaphore. -/
def twoTaskCalls : List BootCall := [.create 3, .create 5, .semCreate 0]

/-- A task creates another one and is interrupted in the midst of it; it waits for the semaphore
with a timeout, the new task sleeps, and an interrupt resumes the third one and posts. -/
def createRun : List TaskAction :=
  [.create 4, .task, .task, .intEnter, .isrSuspend 5, .tick, .tickNext, .tickNext,
    .tickNext, .intExit,
    .task, .task, .pend (some 0) 2, .task, .dly 1, .task, .intEnter, .isrResume 5,
    .isrPost (some 0),
    .intExit]

/-- The TCBs after the run. -/
theorem tcbs_partitioned_createRun :
    ∃ s, exec (osStep osCfg) (taskInit osCfg OsMem.cleared twoTaskCalls) createRun = some s ∧
      ∃ f l, Pool osCfg s.mem s.pc f l ∧ EndsInIdle osCfg s.mem l := by
  have hsome : (exec (osStep osCfg) (taskInit osCfg OsMem.cleared twoTaskCalls)
    createRun).isSome = true := by decide +kernel
  obtain ⟨s, hs⟩ := Option.isSome_iff_exists.mp hsome
  obtain ⟨f, l, hp, he, -⟩ := tcbs_partitioned ⟨createRun, hs⟩
  exact ⟨s, hs, f, l, hp, he⟩

/-! ## The scheduler -/

/-- **The highest ready task runs.** In every reachable state the current task has a TCB, to which
`OSTCBCur` points, and the idle task is ready; and unless an interrupt is served, the scheduler is
locked or the current task is about to call it, the current task is the highest one that is
ready. -/
theorem highestReady_of_reachable (h : Reachable (osStep cfg) (taskInit cfg k calls) s) :
    (∃ i, s.mem.tcbPrioTbl s.mem.prioCur = .tcb i ∧ s.mem.tcbCur = .tcb i ∧
      (s.mem.tcbTbl i).prio = s.mem.prioCur) ∧
      s.mem.rdy.Mem cfg.taskIdlePrio ∧
      (s.mem.intNesting = 0 → s.mem.lockNesting = 0 → ¬ (s.pc s.mem.prioCur).CallsSched →
        HighestReady s.mem) := by
  obtain ⟨f, l, hs⟩ := sysInv_of_reachable h
  obtain ⟨i, hcur, htbl, hprio⟩ := hs.cur
  exact ⟨⟨i, htbl, hcur, hprio⟩, hs.sched.idleRdy, hs.sched.highest⟩

/-- After the run the task that the interrupt has readied is the current one. -/
theorem highestReady_createRun :
    ∃ s, exec (osStep osCfg) (taskInit osCfg OsMem.cleared twoTaskCalls) createRun = some s ∧
      s.mem.prioCur = 3 ∧ HighestReady s.mem := by
  have hobs : (exec (osStep osCfg) (taskInit osCfg OsMem.cleared twoTaskCalls) createRun).map
      (fun s => (s.mem.prioCur, s.mem.intNesting, s.mem.lockNesting, s.pc s.mem.prioCur)) =
        some (3, 0, 0, .sem (.pendResume 0)) := by decide +kernel
  obtain ⟨s, hs, hval⟩ := Option.map_eq_some_iff.mp hobs
  simp only [Prod.mk.injEq] at hval
  obtain ⟨hcur, hint, hlock, hpc⟩ := hval
  obtain ⟨-, -, hhigh⟩ := highestReady_of_reachable ⟨createRun, hs⟩
  exact ⟨s, hs, hcur, hhigh hint hlock (by rw [hpc]; simp [CallPc.CallsSched])⟩

/-! ## The ready list -/

/-- **A task is ready exactly if its TCB says so.** After every run that suspends no task in the
window of `OSTaskCreate` and does not call `OSSemPend` with the scheduler locked, the ready list
holds the priorities of the tasks on the TCB list that are neither waiting nor suspended nor
delayed. -/
theorem ready_iff_of_stepsMeet {as : List TaskAction}
    (hmeet : StepsMeet (osStep cfg) Orderly (taskInit cfg k calls) as)
    (hexec : exec (osStep cfg) (taskInit cfg k calls) as = some s) :
    ∃ l, Linked (fun i => (s.mem.tcbTbl i).next) s.mem.tcbList l ∧
      ∀ p, s.mem.rdy.Mem p ↔ ∃ i ∈ l, (s.mem.tcbTbl i).prio = p ∧
        (s.mem.tcbTbl i).stat = osStatRdy ∧ (s.mem.tcbTbl i).dly = 0 := by
  obtain ⟨f, l, hs, hc⟩ := consistent_of_stepsMeet hmeet hexec
  refine ⟨l, hs.pool.list, fun p => ⟨fun hp => ?_, ?_⟩⟩
  · obtain ⟨i, hi, rfl⟩ := hc.rdyListed p hp
    exact ⟨i, hi, rfl, (hc.agrees i hi).rdy.mp hp⟩
  · rintro ⟨i, hi, rfl, hstat⟩
    exact (hc.agrees i hi).rdy.mpr hstat

/-- The ready list after the run. -/
theorem ready_iff_createRun :
    ∃ s l, exec (osStep osCfg) (taskInit osCfg OsMem.cleared twoTaskCalls) createRun = some s ∧
      Linked (fun i => (s.mem.tcbTbl i).next) s.mem.tcbList l ∧
      ∀ p, s.mem.rdy.Mem p ↔ ∃ i ∈ l, (s.mem.tcbTbl i).prio = p ∧
        (s.mem.tcbTbl i).stat = osStatRdy ∧ (s.mem.tcbTbl i).dly = 0 := by
  have hsome : (exec (osStep osCfg) (taskInit osCfg OsMem.cleared twoTaskCalls)
    createRun).isSome = true := by decide +kernel
  have hmeets : meets (osStep osCfg) Orderly (taskInit osCfg OsMem.cleared twoTaskCalls)
    createRun = true := by decide +kernel
  obtain ⟨s, hs⟩ := Option.isSome_iff_exists.mp hsome
  obtain ⟨l, hl, hrdy⟩ := ready_iff_of_stepsMeet (stepsMeet_of_meets hmeets) hs
  exact ⟨s, l, hs, hl, hrdy⟩

-- a pend with the scheduler locked takes the current task off the ready list and goes on
example : (exec (osStep osCfg) (taskInit osCfg OsMem.cleared twoTaskCalls)
      [.lock, .pend (some 0) 0, .task, .task]).map
    (fun s => (s.mem.prioCur, s.pc 3, decide (s.mem.rdy.Mem 3), (s.mem.block s.mem.tcbCur).stat)) =
      some (3, .sem .user, false, osStatRdy) := by decide +kernel

/-! ## The window of `OSTaskCreate` -/

/-- The data after `OSTaskSuspend` of the task `p` with the TCB `i`. -/
def OsMem.suspended (m : OsMem) (p i : ℕ) : OsMem :=
  ({ m with rdy := m.rdy.remove p } : OsMem).setTcb (.tcb i)
    { (m.tcbTbl i).toOsTcb with stat := (m.tcbTbl i).stat ||| osStatSuspend }

/-- `OSTaskSuspend` of a task that is not the current one. -/
lemma osTaskSuspend_other {m : OsMem} {p i : ℕ} (hidle : p < cfg.taskIdlePrio)
    (htbl : m.tcbPrioTbl p = .tcb i) (hprio : (m.tcbTbl i).prio = p)
    (hcur : p ≠ (m.block m.tcbCur).prio) :
    m.osTaskSuspend cfg p = (m.suspended p i, .none, false) := by
  have hle := cfg.lowestPrio_le
  have hlt : p < cfg.lowestPrio := hidle
  have hself : p ≠ osPrioSelf := by
    simp only [osPrioSelf]
    omega
  simp only [OsMem.osTaskSuspend, if_neg (Nat.ne_of_lt hidle),
    if_neg (fun hc : p ≥ cfg.lowestPrio ∧ p ≠ osPrioSelf => absurd hc.1 (not_le.mpr hlt)),
    if_neg hself, htbl, reduceCtorEq, if_false]
  rw [decide_eq_false (by tauto)]
  simp only [OsMem.block, hprio]
  rfl

/-- The end of the last interrupt, when the current task is the highest ready one. -/
lemma osIntExit_of_same {m : OsMem} (hrun : m.running = true) (hint : m.intNesting = 1)
    (hsame : m.lockNesting = 0 → m.osSchedNew = m.prioCur) :
    m.osIntExit = { m with intNesting := 0 } := by
  unfold OsMem.osIntExit
  rw [if_pos hrun]
  simp only [hint, gt_iff_lt, zero_lt_one, if_true, Nat.sub_self]
  split_ifs with hlock
  · exact if_neg (not_not.mpr (hsame hlock))
  · rfl

/-- **An interrupt that suspends a task that is not the current one** makes no switch.

**Proof sketch.** `OSIntEnter`, `OSTaskSuspend` and `OSIntExit`, one after the other. The current
task is the highest ready one before and after, since the suspended one is another. -/
lemma SysInv.isrSuspend_other {f l : List ℕ} {p i : ℕ} (hs : SysInv cfg s f l)
    (hint : s.mem.intNesting = 0) (hwalk : s.walk = []) (hpc : ¬ (s.pc s.mem.prioCur).CallsSched)
    (htbl : s.mem.tcbPrioTbl p = .tcb i) (hcur : p ≠ s.mem.prioCur) (hidle : p < cfg.taskIdlePrio) :
    (s.mem.osIntEnter.osTaskSuspend cfg p).2.1 = .none ∧
      exec (osStep cfg) s [.intEnter, .isrSuspend p, .intExit] =
        some { s with mem := s.mem.suspended p i } := by
  have hrun := hs.sched.running
  have hprio := (hs.pool.valid p i htbl).1
  have henter : s.mem.osIntEnter = { s.mem with intNesting := 1 } := by
    unfold OsMem.osIntEnter
    rw [if_pos hrun, hint]
    rfl
  have hsuspend : ({ s.mem with intNesting := 1 } : OsMem).osTaskSuspend cfg p =
      (({ s.mem with intNesting := 1 } : OsMem).suspended p i, .none, false) :=
    osTaskSuspend_other hidle htbl hprio (by
      show p ≠ (s.mem.block s.mem.tcbCur).prio
      rw [hs.curPrio]
      exact hcur)
  have hself : p ≠ osPrioSelf := by
    have hle := cfg.lowestPrio_le
    simp only [OsCfg.taskIdlePrio, osPrioSelf] at hidle ⊢
    omega
  -- the current task is still the highest ready one
  have hsame : s.mem.lockNesting = 0 →
      (({ s.mem with intNesting := 1 } : OsMem).suspended p i).osSchedNew = s.mem.prioCur := by
    intro hlock
    obtain ⟨hmem, hmin⟩ := hs.sched.highest hint hlock hpc
    have hmem' : (s.mem.rdy.remove p).Mem s.mem.prioCur :=
      (PrioBitmap.mem_remove _ _ _).mpr ⟨Ne.symm hcur, hmem⟩
    obtain ⟨hnew, hle⟩ :=
        osSchedNew_spec (k := ({ s.mem with intNesting := 1 } : OsMem).suspended p i)
      (hs.sched.rdyValid.remove p) (fun q hq => by
        obtain ⟨j, hj⟩ := hs.sched.rdyLive q ((PrioBitmap.mem_remove _ _ _).mp hq).2
        exact hs.lt_of_tbl hj) hmem'
    exact le_antisymm (hle _ hmem') (hmin _ ((PrioBitmap.mem_remove _ _ _).mp hnew).2)
  have h₁ : osStep cfg s .intEnter = some { s with mem := { s.mem with intNesting := 1 } } := by
    simp only [osStep, hint, show (0 : ℕ) < 255 by omega, if_true, henter]
  have h₂ : osStep cfg { s with mem := { s.mem with intNesting := 1 } } (.isrSuspend p) =
      some { s with mem := ({ s.mem with intNesting := 1 } : OsMem).suspended p i } := by
    simp only [osStep, gt_iff_lt, zero_lt_one, if_true, isrStep, if_neg hself, hsuspend,
      Bool.false_eq_true, if_false]
  have h₃ : osStep cfg { s with mem := ({ s.mem with intNesting := 1 } : OsMem).suspended p i }
      .intExit = some { s with mem := s.mem.suspended p i } := by
    have hexit := osIntExit_of_same (m := ({ s.mem with intNesting := 1 } : OsMem).suspended p i)
      hrun rfl hsame
    have hpos : (({ s.mem with intNesting := 1 } : OsMem).suspended p i).intNesting > 0 :=
      Nat.zero_lt_one
    simp only [osStep, if_pos hpos, isrStep, hwalk, ne_eq, not_true_eq_false, and_false, if_false,
      hexit]
    simp only [OsMem.suspended, OsMem.setTcb, OsMem.setBlock, OsMem.block, ← hint]
  refine ⟨by rw [henter, hsuspend], ?_⟩
  simp only [exec_cons, h₁, h₂, h₃, Option.bind_some, exec_nil]

/-- A task whose TCB has been entered and not linked is neither the current task nor the idle
task. -/
lemma entering_ne {f l : List ℕ} {p i q : ℕ} (hs : SysInv cfg s f l) (hc : Listed s l)
    (hheld : (s.pc q).held = some i) (htbl : s.mem.tcbPrioTbl p = .tcb i) :
    p ≠ s.mem.prioCur ∧ p < cfg.taskIdlePrio := by
  have hnotl := (hs.pool.heldApart q i hheld).2
  refine ⟨?_, lt_of_le_of_ne (hs.pool.inRange p (by rw [htbl]; simp)) ?_⟩
  · rintro rfl
    obtain ⟨j, hj, hprio⟩ := hc.curListed
    exact hnotl (hs.pool.prio_inj hj htbl hprio ▸ hj)
  · rintro rfl
    obtain ⟨l', j, rfl, hprio⟩ := hs.ends
    have hj : j ∈ l' ++ [j] := by simp
    exact hnotl (hs.pool.prio_inj hj htbl hprio ▸ hj)

/-- The last critical section of `OS_TCBInit` links the TCB. -/
lemma nextStep_link {p i : ℕ} (h : s.pc s.mem.prioCur = .createEntered p i) :
    nextStep s = some { s.setPc .sched with mem := s.mem.osTcbInitLink i } := by
  simp only [nextStep, h]

/-- A task about to call `OS_Sched` calls it. -/
lemma nextStep_sched (h : s.pc s.mem.prioCur = .sched) :
    nextStep s = some { s.setPc (.sem .user) with mem := s.mem.osSched } := by
  simp only [nextStep, h]

/-- **A task suspended in the window becomes ready all the same.** Let the current task have
entered the TCB of a new task in `OSTCBPrioTbl`, and let an interrupt suspend the new task before
its TCB is in the list. `OSTaskSuspend` returns `OS_ERR_NONE`; but the last critical section of
`OS_TCBInit` puts the task on the ready list, and if it is the highest one it runs, although its
TCB says that it is suspended.

**Proof sketch.** The interrupt makes no switch, so that the current task goes on; the rest is what
`osTcbInitLink` and `osSched` compute. -/
theorem suspended_ready_of_entering {as : List TaskAction} {p i : ℕ}
    (hmeet : StepsMeet (osStep cfg) SuspendsListed (taskInit cfg k calls) as)
    (hexec : exec (osStep cfg) (taskInit cfg k calls) as = some s)
    (hpc : s.pc s.mem.prioCur = .createEntered p i) (hint : s.mem.intNesting = 0) :
    (s.mem.osIntEnter.osTaskSuspend cfg p).2.1 = .none ∧
      ∃ t, exec (osStep cfg) s [.intEnter, .isrSuspend p, .intExit, .task, .task] = some t ∧
        t.mem.tcbPrioTbl p = .tcb i ∧ (t.mem.tcbTbl i).stat = osStatSuspend ∧ t.mem.rdy.Mem p ∧
        (s.mem.lockNesting = 0 → p < s.mem.prioCur → t.mem.prioCur = p) := by
  obtain ⟨f, l, hs, hc⟩ := listed_of_stepsMeet hmeet hexec
  have hwalk : s.walk = [] := walk_nil_of_reachable ⟨as, hexec⟩ hint
  have hheld : (s.pc s.mem.prioCur).held = some i := by
    rw [hpc]
    rfl
  have htbl : s.mem.tcbPrioTbl p = .tcb i := hs.pool.entered _ p i hheld (by rw [hpc]; rfl)
  have hprio := (hs.pool.valid p i htbl).1
  obtain ⟨hcur, hidle⟩ := entering_ne hs hc hheld htbl
  have hnot : ¬ (s.pc s.mem.prioCur).CallsSched := by
    rw [hpc]
    simp [CallPc.CallsSched]
  obtain ⟨herr, hsuspend⟩ := hs.isrSuspend_other hint hwalk hnot htbl hcur hidle
  set k₁ := s.mem.suspended p i with hk₁
  have hstat₁ : (k₁.tcbTbl i).stat = osStatSuspend := by
    have hstat : (s.mem.tcbTbl i).stat = osStatRdy := (hc.fresh _ i hheld).1
    have h₁ : (k₁.tcbTbl i).stat = (s.mem.tcbTbl i).stat ||| osStatSuspend :=
      congrArg OsTcb.stat (setTcb_self _ i _)
    rw [h₁, hstat]
    rfl
  have hprio₁ : (k₁.tcbTbl i).prio = p := (prio_setTcb _ i _ i).trans hprio
  -- the current task goes on
  have hlink := nextStep_link (s := { s with mem := k₁ }) hpc
  obtain ⟨htcb, -, -, -⟩ := osTcbInitLink_links (k := k₁) (i := i) (by
    rintro head hl rfl
    have hl' : s.mem.tcbList = some head := hl
    rw [hs.pool.list.head_eq] at hl'
    exact (hs.pool.heldApart _ head hheld).2 (List.mem_of_mem_head? hl'))
  obtain ⟨tcbTbl, hrest⟩ := osTcbInitLink_rest k₁ i
  set k₂ := k₁.osTcbInitLink i with hk₂
  obtain ⟨hrdy₂, htbl₂, hint₂, hcur₂, hlock₂⟩ : k₂.rdy = (s.mem.rdy.remove p).insert p ∧
      k₂.tcbPrioTbl = s.mem.tcbPrioTbl ∧ k₂.intNesting = 0 ∧ k₂.prioCur = s.mem.prioCur ∧
      k₂.lockNesting = s.mem.lockNesting := by
    rw [hrest, hprio₁]
    exact ⟨rfl, rfl, hint, rfl, rfl⟩
  have hsched := nextStep_sched (s := { s.setPc .sched with mem := k₂ }) (by
    show Function.update s.pc s.mem.prioCur .sched k₂.prioCur = .sched
    rw [hcur₂, Function.update_self])
  have hsched₂ : k₂.osSched = if s.mem.lockNesting = 0 then k₂.switch else k₂ := by
    rw [OsMem.osSched, if_pos hint₂, hlock₂]
  have hkeep : k₂.osSched.tcbPrioTbl = k₂.tcbPrioTbl ∧ k₂.osSched.tcbTbl = k₂.tcbTbl ∧
      k₂.osSched.rdy = k₂.rdy := by
    unfold OsMem.osSched OsMem.switch
    split_ifs <;> exact ⟨rfl, rfl, rfl⟩
  have hmem₂ : k₂.rdy.Mem p := by
    rw [hrdy₂]
    exact (PrioBitmap.mem_insert _ _ _).mpr (Or.inl rfl)
  have hrun : exec (osStep cfg) s ([.intEnter, .isrSuspend p, .intExit] ++ [.task, .task]) =
      some { ({ s.setPc .sched with mem := k₂ } : TaskState).setPc (.sem .user) with
        mem := k₂.osSched } := by
    have h₄ : osStep cfg { s with mem := k₁ } .task = some { s.setPc .sched with mem := k₂ } :=
      (if_pos hint).trans hlink
    have h₅ : osStep cfg { s.setPc .sched with mem := k₂ } .task =
        some { ({ s.setPc .sched with mem := k₂ } : TaskState).setPc (.sem .user) with
          mem := k₂.osSched } := (if_pos hint₂).trans hsched
    rw [exec_append, hsuspend, Option.bind_some, exec_cons, h₄, Option.bind_some, exec_cons, h₅,
      Option.bind_some, exec_nil]
  refine ⟨herr, _, hrun, ?_, ?_, ?_, ?_⟩
  · show k₂.osSched.tcbPrioTbl p = _
    rw [hkeep.1, htbl₂, htbl]
  · show (k₂.osSched.tcbTbl i).toOsTcb.stat = _
    rw [hkeep.2.1, htcb, hstat₁]
  · show k₂.osSched.rdy.Mem p
    rw [hkeep.2.2]
    exact hmem₂
  · intro hlock hlt
    obtain ⟨-, hmin⟩ := hs.sched.highest hint hlock hnot
    have hlive : ∀ q, k₂.rdy.Mem q → q = p ∨ s.mem.rdy.Mem q := by
      intro q hq
      rw [hrdy₂, PrioBitmap.mem_insert, PrioBitmap.mem_remove] at hq
      tauto
    obtain ⟨hnew, hle⟩ := osSchedNew_spec (k := k₂)
      (by rw [hrdy₂]; exact (hs.sched.rdyValid.remove p).insert p) (fun q hq => by
        rcases hlive q hq with rfl | hq
        · exact hs.lt_of_tbl htbl
        · obtain ⟨j, hj⟩ := hs.sched.rdyLive q hq
          exact hs.lt_of_tbl hj) hmem₂
    have hsel : k₂.osSchedNew = p := by
      refine (hlive _ hnew).resolve_right fun hq => ?_
      have h₁ := hmin _ hq
      have h₂ := hle p hmem₂
      omega
    show k₂.osSched.prioCur = p
    rw [hsched₂, if_pos hlock, OsMem.switch, if_pos (by rw [hsel, hcur₂]; omega)]
    exact hsel

/-- A task creates a task of higher priority, up to the window. -/
def windowRun : List TaskAction := [.create 2, .task, .task]

/-- The new task runs, and is suspended. -/
theorem suspended_ready_windowRun :
    ∃ s t, exec (osStep osCfg) (taskInit osCfg OsMem.cleared twoTaskCalls) windowRun = some s ∧
      exec (osStep osCfg) s [.intEnter, .isrSuspend 2, .intExit, .task, .task] = some t ∧
      t.mem.prioCur = 2 ∧ t.mem.tcbPrioTbl 2 = .tcb 3 ∧ (t.mem.tcbTbl 3).stat = osStatSuspend := by
  have hobs : (exec (osStep osCfg) (taskInit osCfg OsMem.cleared twoTaskCalls) windowRun).map
      (fun s => (s.mem.prioCur, s.mem.intNesting, s.mem.lockNesting, s.pc s.mem.prioCur)) =
        some (3, 0, 0, .createEntered 2 3) := by decide +kernel
  have hmeets : meets (osStep osCfg) SuspendsListed (taskInit osCfg OsMem.cleared twoTaskCalls)
    windowRun = true := by decide +kernel
  obtain ⟨s, hs, hval⟩ := Option.map_eq_some_iff.mp hobs
  simp only [Prod.mk.injEq] at hval
  obtain ⟨hcur, hint, hlock, hpc⟩ := hval
  obtain ⟨-, t, ht, htbl, hstat, -, hruns⟩ :=
    suspended_ready_of_entering (stepsMeet_of_meets hmeets) hs hpc hint
  exact ⟨s, t, hs, ht, hruns hlock (by rw [hcur]; decide), htbl, hstat⟩

end

end Kernel
