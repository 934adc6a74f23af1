import UcosArm64.Kernel.TaskMoves

set_option relaxedAutoImplicit false
set_option autoImplicit false

/-!
# What holds of the tasks after every step

The tables, the ready list and the current task of the machine in every reachable state, whatever
the order of calls, switches and interrupts was: no TCB is lost or has two owners, the highest
ready task runs whenever it may, and a task is ready exactly if its TCB says that it is neither
waiting nor suspended nor delayed.

## Main definitions

* `Kernel.HighestReady` — the current task is ready, and no ready task has a higher priority.
* `Kernel.Scheduled`, `Kernel.SysInv` — the invariants of the scheduler and of the whole system.
* `Kernel.Unlocked` — a task in `OSSemPend` has not locked the scheduler.
* `Kernel.Listed` — the tasks that are ready, wait or run are on the TCB list.
* `Kernel.Consistent` — the ready list and the wait lists agree with the TCBs of the tasks.
* `Kernel.Effect` — what a step can do.

## Main results

* `Kernel.SysInv.effect` — the inversion of a step.
-/

namespace Kernel

/-- The current task is ready, and no ready task has a higher priority. -/
def HighestReady (k : OsMem) : Prop := k.rdy.Mem k.prioCur ∧ ∀ q, k.rdy.Mem q → k.prioCur ≤ q

/-- **The invariant of the scheduler.** Only tasks with a TCB are ready or wait; the idle task is
always ready; and unless the scheduler is locked, an interrupt is served, or the current task is
about to call the scheduler, the highest ready task is the current one. -/
structure Scheduled (cfg : OsCfg) (s : TaskState) : Prop where
  running : s.mem.running = true
  rdyValid : s.mem.rdy.Valid
  rdyLive : ∀ p, s.mem.rdy.Mem p → ∃ i, s.mem.tcbPrioTbl p = .tcb i
  idleRdy : s.mem.rdy.Mem cfg.taskIdlePrio
  curLive : ∃ i, s.mem.tcbPrioTbl s.mem.prioCur = .tcb i ∧ s.mem.tcbCur = .tcb i
  idlePc : s.pc cfg.taskIdlePrio = .sem .user
  highest : s.mem.intNesting = 0 → s.mem.lockNesting = 0 →
    ¬ (s.pc s.mem.prioCur).CallsSched → HighestReady s.mem
  waitValid : ∀ e, (s.mem.eventTbl e).wait.Valid
  waitLive : ∀ e p, (s.mem.eventTbl e).wait.Mem p →
    p ≠ cfg.taskIdlePrio ∧ ∃ i, s.mem.tcbPrioTbl p = .tcb i

/-- **The invariant of the system**, for the free list `f` and the list `l` of the tasks. -/
structure SysInv (cfg : OsCfg) (s : TaskState) (f l : List ℕ) : Prop where
  pool : Pool cfg s.mem s.pc f l
  ends : EndsInIdle cfg s.mem l
  sched : Scheduled cfg s
  walk : ∀ i ∈ s.walk, i ∈ l

/-- The current task does not go through `OSSemPend` with the scheduler locked. -/
def Unlocked (s : TaskState) : Prop := (s.pc s.mem.prioCur).InPend → s.mem.lockNesting = 0

/-- **Who is ready, waits or runs is a task of the list** `l`, and a TCB that a task has taken is as
`OS_TCBInit` has filled it. -/
structure Listed (s : TaskState) (l : List ℕ) : Prop where
  rdyListed : ∀ p, s.mem.rdy.Mem p → ∃ i ∈ l, (s.mem.tcbTbl i).prio = p
  waitListed : ∀ e p, (s.mem.eventTbl e).wait.Mem p → ∃ i ∈ l, (s.mem.tcbTbl i).prio = p
  curListed : ∃ i ∈ l, (s.mem.tcbTbl i).prio = s.mem.prioCur
  fresh : ∀ q i, (s.pc q).held = some i →
    (s.mem.tcbTbl i).stat = osStatRdy ∧ (s.mem.tcbTbl i).dly = 0

/-- **The lists agree with the TCBs** of the tasks on the list `l`, and the current task does not go
through `OSSemPend` with the scheduler locked. -/
structure Consistent (s : TaskState) (l : List ℕ) : Prop extends Listed s l where
  agrees : ∀ i ∈ l, Agrees s.mem i
  unlocked : Unlocked s

/-! ## What a step can do -/

/-- The step touches the task `p`, which has the TCB `i`. Its delay is written when a tick visits
it, when it calls a service itself, and when it is taken off a wait list; the result of a wait also
when the task comes back from it. -/
structure TouchEffect (cfg : OsCfg) (s : TaskState) (a : TaskAction) (t : TaskState) (l : List ℕ)
    (p i : ℕ) : Prop where
  touches : Touches s.mem t.mem p
  tbl : s.mem.tcbPrioTbl p = .tcb i
  notIdle : p ≠ cfg.taskIdlePrio
  agrees : Unlocked s → Agrees s.mem i → Agrees t.mem i
  listed : Listed s l → SuspendsListed s a → i ∈ l
  making : ∀ q, SameMaking (s.pc q) (t.pc q)
  dly : (t.mem.tcbTbl i).dly = (s.mem.tcbTbl i).dly ∨ (a = .tickNext ∧ s.walk.head? = some i) ∨
    (p = s.mem.prioCur ∧ s.pc p = .sem .user) ∨
    ∃ e, (s.mem.eventTbl e).wait.Mem p ∧ ¬ (t.mem.eventTbl e).wait.Mem p
  statPend : (t.mem.tcbTbl i).statPend = (s.mem.tcbTbl i).statPend ∨
    (a = .tickNext ∧ s.walk.head? = some i) ∨
    (p = s.mem.prioCur ∧ (s.pc p = .sem .user ∨ t.pc p = .sem .user)) ∨
    ∃ e, (s.mem.eventTbl e).wait.Mem p ∧ ¬ (t.mem.eventTbl e).wait.Mem p

/-- The step touches no task. -/
structure ControlEffect (s t : TaskState) : Prop where
  links : SameLinks s.mem t.mem
  running : t.mem.running = s.mem.running
  rdy : t.mem.rdy = s.mem.rdy
  tcbTbl : t.mem.tcbTbl = s.mem.tcbTbl
  waitValid : (∀ e, (s.mem.eventTbl e).wait.Valid) → ∀ e, (t.mem.eventTbl e).wait.Valid
  wait : ∀ e q, (t.mem.eventTbl e).wait.Mem q → (s.mem.eventTbl e).wait.Mem q
  making : ∀ q, SameMaking (s.pc q) (t.pc q)
  cur : t.mem.prioCur = s.mem.prioCur ∨
    s.mem.lockNesting = 0 ∧ t.mem.lockNesting = 0 ∧ s.mem.rdy.Mem t.mem.prioCur
  lock : t.mem.lockNesting = s.mem.lockNesting ∨ ¬ (t.pc t.mem.prioCur).InPend

/-- **What a step can do**: touch one task, touch none, or be a critical section of
`OSTaskCreate`. -/
inductive Effect (cfg : OsCfg) (s : TaskState) (a : TaskAction) (t : TaskState) (l : List ℕ) : Prop
  | touch (p i : ℕ) (h : TouchEffect cfg s a t l p i)
  | control (h : ControlEffect s t)
  | reserve (p : ℕ) (hp : p ≤ cfg.lowestPrio) (hnull : s.mem.tcbPrioTbl p = .null)
      (hpc : (s.pc s.mem.prioCur).NotMaking)
      (ht : t = { s.setPc (.createReserved p) with
        mem := { s.mem with tcbPrioTbl := Function.update s.mem.tcbPrioTbl p .reserved } })
  | take (p i : ℕ) (k : OsMem) (hpc : s.pc s.mem.prioCur = .createReserved p)
      (hk : s.mem.osTcbInit p = (k, some i)) (ht : t = { s.setPc (.createTaken p i) with mem := k })
  | takeNone (p : ℕ) (hpc : s.pc s.mem.prioCur = .createReserved p)
      (ht : t = s.setPc (.createFailed p))
  | enter (p i : ℕ) (hpc : s.pc s.mem.prioCur = .createTaken p i)
      (ht : t = { s.setPc (.createEntered p i) with mem := s.mem.osTcbInitPrio p i })
  | link (p i : ℕ) (hpc : s.pc s.mem.prioCur = .createEntered p i)
      (ht : t = { s.setPc .sched with mem := s.mem.osTcbInitLink i })
  | fail (p : ℕ) (hpc : s.pc s.mem.prioCur = .createFailed p)
      (ht : t = { s.setPc (.sem .user) with mem := s.mem.osTaskCreateFail p })

section

variable {cfg : OsCfg} {s t : TaskState} {a : TaskAction} {f l : List ℕ} {p i : ℕ}

/-! ## The current task -/

/-- The current task and its TCB. -/
lemma SysInv.cur (h : SysInv cfg s f l) : ∃ c, s.mem.tcbCur = .tcb c ∧
    s.mem.tcbPrioTbl s.mem.prioCur = .tcb c ∧ (s.mem.tcbTbl c).prio = s.mem.prioCur := by
  obtain ⟨c, htbl, hcur⟩ := h.sched.curLive
  exact ⟨c, hcur, htbl, (h.pool.valid _ c htbl).1⟩

/-- The current TCB has the current priority. -/
lemma SysInv.curPrio (h : SysInv cfg s f l) : (s.mem.block s.mem.tcbCur).prio = s.mem.prioCur := by
  obtain ⟨c, hcur, -, hprio⟩ := h.cur
  rw [hcur]
  exact hprio

/-- A priority with a TCB is in the range of the bitmaps. -/
lemma SysInv.lt_of_tbl (h : SysInv cfg s f l) (hp : s.mem.tcbPrioTbl p = .tcb i) : p < 64 := by
  have hle := h.pool.inRange p (by rw [hp]; simp)
  have := cfg.lowestPrio_le
  omega

/-- The task that `OS_SchedNew` finds is ready, and no ready task has a higher priority. -/
lemma osSchedNew_spec {k : OsMem} (hv : k.rdy.Valid) (hlt : ∀ q, k.rdy.Mem q → q < 64)
    (hp : k.rdy.Mem p) : k.rdy.Mem k.osSchedNew ∧ ∀ q, k.rdy.Mem q → k.osSchedNew ≤ q := by
  have hne : k.rdy.grp ≠ 0 := hv.grp_ne_zero_iff.mpr ⟨p, hlt p hp, hp⟩
  exact ⟨(hv.first_mem isLowest_osUnMap hne).2, fun q hq => hv.first_le isLowest_osUnMap
    (hlt q hq) hq⟩

/-- It has a TCB. -/
lemma SysInv.osSchedNew (h : SysInv cfg s f l) :
    s.mem.rdy.Mem s.mem.osSchedNew ∧ (∀ q, s.mem.rdy.Mem q → s.mem.osSchedNew ≤ q) ∧
      ∃ i, s.mem.tcbPrioTbl s.mem.osSchedNew = .tcb i := by
  have hlt : ∀ q, s.mem.rdy.Mem q → q < 64 := fun q hq => by
    obtain ⟨i, hi⟩ := h.sched.rdyLive q hq
    exact h.lt_of_tbl hi
  obtain ⟨hmem, hle⟩ := osSchedNew_spec h.sched.rdyValid hlt h.sched.idleRdy
  exact ⟨hmem, hle, h.sched.rdyLive _ hmem⟩

/-! ## The scheduler -/

/-- The scheduler after a step that touches one task. -/
lemma SysInv.scheduled_touch (h : SysInv cfg s f l) (ht : TouchEffect cfg s a t l p i)
    (hidlePc : t.pc cfg.taskIdlePrio = .sem .user)
    (hhigh : t.mem.intNesting = 0 → t.mem.lockNesting = 0 →
      ¬ (t.pc t.mem.prioCur).CallsSched → HighestReady t.mem) : Scheduled cfg t := by
  have hlive : ∀ q, q = p ∨ (∃ j, s.mem.tcbPrioTbl q = .tcb j) → ∃ j,
      t.mem.tcbPrioTbl q = .tcb j := by
    rintro q (rfl | hq)
    · exact ⟨i, by rw [ht.touches.prioTbl]; exact ht.tbl⟩
    · rwa [ht.touches.prioTbl]
  constructor
  · rw [ht.touches.running]
    exact h.sched.running
  · exact ht.touches.rdyValid h.sched.rdyValid
  · intro q hq
    by_cases hqp : q = p
    · exact hlive q (Or.inl hqp)
    · exact hlive q (Or.inr (h.sched.rdyLive q ((ht.touches.rdy q hqp).mp hq)))
  · exact (ht.touches.rdy _ (Ne.symm ht.notIdle)).mpr h.sched.idleRdy
  · rw [ht.touches.prioTbl, ht.touches.prioCur, ht.touches.tcbCur]
    exact h.sched.curLive
  · exact hidlePc
  · exact hhigh
  · exact ht.touches.waitValid h.sched.waitValid
  · intro e q hq
    by_cases hqp : q = p
    · exact ⟨hqp ▸ ht.notIdle, hlive q (Or.inl hqp)⟩
    · obtain ⟨hne, hj⟩ := h.sched.waitLive e q (ht.touches.wait e q hqp hq)
      exact ⟨hne, hlive q (Or.inr hj)⟩

/-- The scheduler after a step that touches no task. -/
lemma SysInv.scheduled_control (h : SysInv cfg s f l) (ht : ControlEffect s t)
    (hidlePc : t.pc cfg.taskIdlePrio = .sem .user)
    (hcur : ∃ i, s.mem.tcbPrioTbl t.mem.prioCur = .tcb i ∧ t.mem.tcbCur = .tcb i)
    (hhigh : t.mem.intNesting = 0 → t.mem.lockNesting = 0 →
      ¬ (t.pc t.mem.prioCur).CallsSched → HighestReady t.mem) : Scheduled cfg t := by
  constructor
  · rw [ht.running]
    exact h.sched.running
  · rw [ht.rdy]
    exact h.sched.rdyValid
  · rw [ht.rdy, ht.links.prioTbl]
    exact h.sched.rdyLive
  · rw [ht.rdy]
    exact h.sched.idleRdy
  · rw [ht.links.prioTbl]
    exact hcur
  · exact hidlePc
  · exact hhigh
  · exact ht.waitValid h.sched.waitValid
  · intro e q hq
    rw [ht.links.prioTbl]
    exact h.sched.waitLive e q (ht.wait e q hq)

/-! ## The services and the tasks they touch -/

/-- Under the agreement of the lists, the TCB of a listed priority is on the list. -/
lemma SysInv.mem_of_prio (h : SysInv cfg s f l) (htbl : s.mem.tcbPrioTbl p = .tcb i)
    (hp : ∃ j ∈ l, (s.mem.tcbTbl j).prio = p) : i ∈ l := by
  obtain ⟨j, hj, rfl⟩ := hp
  have hji := h.pool.listed j hj
  rw [htbl] at hji
  obtain rfl := TcbPtr.tcb.inj hji
  exact hj

/-- A task that has its TCB in the table is on the list, unless it is in the window of
`OSTaskCreate`. -/
lemma SysInv.mem_of_not_entering (h : SysInv cfg s f l) (htbl : s.mem.tcbPrioTbl p = .tcb i)
    (hnot : ¬ Entering s p) : i ∈ l := by
  rcases (h.pool.valid p i htbl).2 with hi | ⟨q, -, hq⟩
  · exact hi
  · exact absurd ⟨q, h.pool.owner q p hq, hq⟩ hnot

/-- What a suspension does to a task. -/
lemma touchEffect_suspend (h : SysInv cfg s f l) {prio : ℕ}
    (hp : p = prio ∨ prio = osPrioSelf ∧ p = (s.mem.block s.mem.tcbCur).prio)
    (hidle : p ≠ cfg.taskIdlePrio) (htbl : s.mem.tcbPrioTbl p = .tcb i)
    (ha : SuspendsListed s a → ¬ Entering s prio)
    (hmem : t.mem = ({ s.mem with rdy := s.mem.rdy.remove (s.mem.tcbTbl i).prio } : OsMem).setTcb
      (.tcb i) { (s.mem.tcbTbl i).toOsTcb with stat := (s.mem.tcbTbl i).stat ||| osStatSuspend })
    (hpc : ∀ q, SameMaking (s.pc q) (t.pc q)) : TouchEffect cfg s a t l p i where
  touches := by
    rw [hmem]
    exact touches_suspend (h.pool.valid p i htbl).1 _
  tbl := htbl
  notIdle := hidle
  agrees _ hi := by
    rw [hmem]
    exact agrees_suspend hi
  listed hc hs := by
    rcases hp with rfl | ⟨-, rfl⟩
    · exact h.mem_of_not_entering htbl (ha hs)
    · rw [h.curPrio] at htbl
      exact h.mem_of_prio htbl hc.curListed
  making := hpc
  dly := by
    rw [hmem]
    exact Or.inl ((congrArg OsTcb.dly (setTcb_self _ i _)).trans rfl)
  statPend := by
    rw [hmem]
    exact Or.inl ((congrArg OsTcb.statPend (setTcb_self _ i _)).trans rfl)

/-- What a resumption does to a task.

**Proof sketch.** The task becomes ready if it neither waits nor is delayed, and its TCB says so;
the rest is untouched. -/
lemma touchEffect_resume (h : SysInv cfg s f l) (hidle : p ≠ cfg.taskIdlePrio)
    (htbl : s.mem.tcbPrioTbl p = .tcb i)
    (hsus : (s.mem.tcbTbl i).stat &&& osStatSuspend ≠ osStatRdy) {k' : OsMem}
    (hk : k' = s.mem.setTcb (.tcb i)
      { (s.mem.tcbTbl i).toOsTcb with stat := (s.mem.tcbTbl i).stat &&& ~~~osStatSuspend })
    (hmem : t.mem = if (s.mem.tcbTbl i).stat &&& ~~~osStatSuspend &&& osStatPendAny = osStatRdy ∧
        (s.mem.tcbTbl i).dly = 0 then { k' with rdy := s.mem.rdy.insert (s.mem.tcbTbl i).prio }
      else k')
    (hpc : ∀ q, SameMaking (s.pc q) (t.pc q)) : TouchEffect cfg s a t l p i where
  touches := by
    obtain ⟨h₁, h₂⟩ := touches_resume (k := s.mem) (h.pool.valid p i htbl).1
      { (s.mem.tcbTbl i).toOsTcb with stat := (s.mem.tcbTbl i).stat &&& ~~~osStatSuspend }
    rw [hmem, hk]
    split_ifs
    · exact h₂
    · exact h₁
  tbl := htbl
  notIdle := hidle
  agrees _ hi := by
    have := agrees_resume hi hsus hk
    rw [hmem]
    split_ifs at this ⊢
    · exact this
    · exact this
  listed hc _ := by
    rcases (h.pool.valid p i htbl).2 with hi | ⟨q, hq, -⟩
    · exact hi
    · rw [(hc.fresh q i hq).1] at hsus
      exact absurd (by decide) hsus
  making := hpc
  dly := by
    have hk' : (k'.tcbTbl i).dly = (s.mem.tcbTbl i).dly := by
      rw [hk]
      exact (congrArg OsTcb.dly (setTcb_self _ i _)).trans rfl
    rw [hmem]
    split_ifs <;> exact Or.inl hk'
  statPend := by
    have hk' : (k'.tcbTbl i).statPend = (s.mem.tcbTbl i).statPend := by
      rw [hk]
      exact (congrArg OsTcb.statPend (setTcb_self _ i _)).trans rfl
    rw [hmem]
    split_ifs <;> exact Or.inl hk'

/-- A step that touches the current task. -/
lemma touchEffect_cur (h : SysInv cfg s f l) (hidle : s.mem.prioCur ≠ cfg.taskIdlePrio)
    (htouch : Touches s.mem t.mem s.mem.prioCur)
    (hagrees : ∀ i, s.mem.tcbCur = .tcb i → (s.mem.tcbTbl i).prio = s.mem.prioCur →
      Unlocked s → Agrees s.mem i → Agrees t.mem i)
    (hpc : ∀ q, SameMaking (s.pc q) (t.pc q))
    (hdly : s.pc s.mem.prioCur = .sem .user ∨ t.pc s.mem.prioCur = .sem .user ∧
      ∀ i, s.mem.tcbCur = .tcb i → (t.mem.tcbTbl i).dly = (s.mem.tcbTbl i).dly) :
    ∃ i, TouchEffect cfg s a t l s.mem.prioCur i := by
  obtain ⟨c, hcur, htbl, hprio⟩ := h.cur
  refine ⟨c, htouch, htbl, hidle, hagrees c hcur hprio,
    fun hc _ => h.mem_of_prio htbl hc.curListed, hpc, ?_, ?_⟩
  · rcases hdly with huser | ⟨-, hdly⟩
    · exact Or.inr (Or.inr (Or.inl ⟨rfl, huser⟩))
    · exact Or.inl (hdly c hcur)
  · exact Or.inr (Or.inr (Or.inl ⟨rfl, hdly.imp id fun hdly => hdly.1⟩))

/-- The first task on a wait list, if there is one. -/
lemma SysInv.first_waiting (h : SysInv cfg s f l) {e : ℕ} (hgrp : (s.mem.eventTbl e).wait.grp ≠ 0) :
    ∃ p i, (s.mem.eventTbl e).wait.first osUnMap = p ∧ (s.mem.eventTbl e).wait.Mem p ∧
      p ≠ cfg.taskIdlePrio ∧ s.mem.tcbPrioTbl p = .tcb i ∧ (s.mem.tcbTbl i).prio = p := by
  obtain ⟨-, hmem⟩ := (h.sched.waitValid e).first_mem isLowest_osUnMap hgrp
  obtain ⟨hne, i, hi⟩ := h.sched.waitLive e _ hmem
  exact ⟨_, i, rfl, hmem, hne, hi, (h.pool.valid _ i hi).1⟩

/-- `OSSemPost` touches the first task that waits. -/
lemma touchEffect_post (h : SysInv cfg s f l) {e : ℕ} (hgrp : (s.mem.eventTbl e).wait.grp ≠ 0)
    (hmem : t.mem = (s.mem.osEventTaskRdy e osStatSem osStatPendOk).1)
    (hpc : ∀ q, SameMaking (s.pc q) (t.pc q)) : ∃ p i, TouchEffect cfg s a t l p i := by
  obtain ⟨p, i, hfirst, hwait, hne, htbl, hprio⟩ := h.first_waiting hgrp
  have hoff : ∃ e, (s.mem.eventTbl e).wait.Mem p ∧ ¬ (t.mem.eventTbl e).wait.Mem p := by
    refine ⟨e, hwait, ?_⟩
    rw [hmem, osEventTaskRdy_wait hfirst htbl hprio, if_pos rfl, PrioBitmap.mem_remove]
    exact fun hr => hr.1 rfl
  refine ⟨p, i, ?_, htbl, hne, fun _ hi => ?_, fun hc _ => ?_, hpc, Or.inr (Or.inr (Or.inr hoff)),
    Or.inr (Or.inr (Or.inr hoff))⟩
  · rw [hmem]
    exact (osEventTaskRdy_touches hfirst htbl hprio _ _).1
  · rw [hmem]
    exact agrees_osEventTaskRdy hi hfirst htbl hprio _
  · exact h.mem_of_prio htbl (hc.waitListed e p hwait)

/-- A tick touches the task whose TCB it visits. -/
lemma touchEffect_tick (h : SysInv cfg s f l) (hi : i ∈ l)
    (hidle : (s.mem.tcbTbl i).prio ≠ cfg.taskIdlePrio) (hmem : t.mem = s.mem.osTimeTickTcb i)
    (hpc : t.pc = s.pc) (hvisit : a = .tickNext ∧ s.walk.head? = some i) :
    TouchEffect cfg s a t l (s.mem.tcbTbl i).prio i where
  touches := by
    rw [hmem]
    exact touches_osTimeTickTcb s.mem i
  tbl := h.pool.listed i hi
  notIdle := hidle
  agrees _ ha := by
    rw [hmem]
    exact agrees_osTimeTickTcb ha
  listed _ _ := hi
  making q := by
    rw [hpc]
    exact SameMaking.refl _
  dly := Or.inr (Or.inl hvisit)
  statPend := Or.inr (Or.inl hvisit)

/-! ## Steps that touch no task -/

/-- Nothing has changed. -/
lemma ControlEffect.refl (s : TaskState) : ControlEffect s s :=
  ⟨SameLinks.refl _, rfl, rfl, rfl, fun h => h, fun _ _ h => h, fun _ => SameMaking.refl _,
    Or.inl rfl,
    Or.inl rfl⟩

/-- The current task, the nesting, the lock and the time are written. -/
lemma controlEffect_of (hmem : ∃ prioCur tcbCur intNesting lockNesting time, t.mem = { s.mem with
      prioCur := prioCur, tcbCur := tcbCur, intNesting := intNesting, lockNesting := lockNesting,
      time := time })
    (hpc : ∀ q, SameMaking (s.pc q) (t.pc q))
    (hcur : t.mem.prioCur = s.mem.prioCur ∨
      s.mem.lockNesting = 0 ∧ t.mem.lockNesting = 0 ∧ s.mem.rdy.Mem t.mem.prioCur)
    (hlock : t.mem.lockNesting = s.mem.lockNesting ∨ ¬ (t.pc t.mem.prioCur).InPend) :
    ControlEffect s t := by
  obtain ⟨prioCur, tcbCur, intNesting, lockNesting, time, hmem⟩ := hmem
  refine ⟨?_, ?_, ?_, ?_, ?_, ?_, hpc, hcur, hlock⟩
  · rw [hmem]
    exact ⟨rfl, rfl, rfl, rfl, fun _ => rfl, fun _ => rfl, fun _ => rfl⟩
  · rw [hmem]
  · rw [hmem]
  · rw [hmem]
  · rw [hmem]
    exact fun h => h
  · rw [hmem]
    exact fun _ _ h => h

/-- A semaphore service that touches no task. -/
lemma controlEffect_sem {k : OsMem} (hk : ∀ p, Touches s.mem k p ∧ k.rdy = s.mem.rdy ∧
    k.tcbTbl = s.mem.tcbTbl) (hmem : t.mem = k) (hpc : ∀ q, SameMaking (s.pc q) (t.pc q)) :
    ControlEffect s t := by
  subst hmem
  exact ⟨(hk 0).1.toSameLinks, (hk 0).1.running, (hk 0).2.1, (hk 0).2.2, (hk 0).1.waitValid,
    fun e q hq => (hk (q + 1)).1.wait e q (by omega) hq, hpc, Or.inl (hk 0).1.prioCur,
    Or.inl (hk 0).1.lockNesting⟩

/-- The highest ready task becomes the current one. -/
lemma SysInv.switch (h : SysInv cfg s f l) :
    s.mem.switch = { s.mem with
      prioCur := s.mem.osSchedNew, tcbCur := s.mem.tcbPrioTbl s.mem.osSchedNew } := by
  unfold OsMem.switch
  split_ifs with hne
  · rfl
  · obtain ⟨c, hcur, htbl, -⟩ := h.cur
    rw [not_not.mp hne, htbl, ← hcur]

/-- After a switch the highest ready task runs. -/
lemma SysInv.highest_switch (h : SysInv cfg s f l) : HighestReady s.mem.switch := by
  obtain ⟨hmem, hle, -⟩ := h.osSchedNew
  rw [h.switch]
  exact ⟨hmem, hle⟩

/-- After a switch the current task has a TCB. -/
lemma SysInv.live_switch (h : SysInv cfg s f l) :
    ∃ i, s.mem.tcbPrioTbl s.mem.switch.prioCur = .tcb i ∧ s.mem.switch.tcbCur = .tcb i := by
  obtain ⟨-, -, i, hi⟩ := h.osSchedNew
  rw [h.switch]
  exact ⟨i, hi, hi⟩

/-- The idle task is outside the kernel, whatever the current task does. -/
lemma SysInv.idlePc_setPc (h : SysInv cfg s f l) (hidle : s.mem.prioCur ≠ cfg.taskIdlePrio)
    (c : CallPc) : (s.setPc c).pc cfg.taskIdlePrio = .sem .user := by
  rw [TaskState.setPc_pc, Function.update_of_ne (Ne.symm hidle)]
  exact h.sched.idlePc

/-- A call of `OS_Sched` by the current task. -/
lemma SysInv.schedStep (h : SysInv cfg s f l) (hint : s.mem.intNesting = 0)
    (hnot : (s.pc s.mem.prioCur).NotMaking) (huser : s.pc s.mem.prioCur ≠ .sem .user) {c : CallPc}
    (hc : c.NotMaking) :
    Scheduled cfg { s.setPc c with mem := s.mem.osSched } ∧
      ControlEffect s { s.setPc c with mem := s.mem.osSched } := by
  have hmaking := sameMaking_update hnot hc
  have hidle : s.mem.prioCur ≠ cfg.taskIdlePrio := fun he => huser (he ▸ h.sched.idlePc)
  have hidlePc : (s.setPc c).pc cfg.taskIdlePrio = .sem .user := h.idlePc_setPc hidle c
  by_cases hlock : s.mem.lockNesting = 0
  · have hk : s.mem.osSched = s.mem.switch := by
      simp only [OsMem.osSched, if_pos hint, if_pos hlock]
    have heff : ControlEffect s { s.setPc c with mem := s.mem.osSched } :=
      controlEffect_of ⟨_, _, _, _, _, hk.trans h.switch⟩ hmaking (Or.inr (by
        rw [hk, h.switch]
        exact ⟨hlock, hlock, h.osSchedNew.1⟩)) (Or.inl (by rw [hk, h.switch]))
    refine ⟨h.scheduled_control heff hidlePc ?_ fun _ _ _ => ?_, heff⟩
    · show ∃ i, s.mem.tcbPrioTbl s.mem.osSched.prioCur = .tcb i ∧ s.mem.osSched.tcbCur = .tcb i
      rw [hk]
      exact h.live_switch
    · show HighestReady s.mem.osSched
      rw [hk]
      exact h.highest_switch
  · have hk : s.mem.osSched = s.mem := by
      simp only [OsMem.osSched, if_pos hint, if_neg hlock]
    rw [hk]
    have heff : ControlEffect s { s.setPc c with mem := s.mem } :=
      { ControlEffect.refl s with making := hmaking, lock := Or.inl rfl }
    exact ⟨h.scheduled_control heff hidlePc h.sched.curLive fun _ hl _ => absurd hl hlock, heff⟩

/-! ## The calls of the current task -/

/-- A call that touches a task, in the current task. -/
lemma SysInv.scheduled_afterCall (h : SysInv cfg s f l)
    (hidle : s.mem.prioCur ≠ cfg.taskIdlePrio) (huser : s.pc s.mem.prioCur = .sem .user)
    {k : OsMem} {c : CallPc}
    (ht : TouchEffect cfg s a { s.setPc c with mem := k } l p i)
    (hc : c.CallsSched ∨ c = .sem .user ∧ (HighestReady s.mem → HighestReady k)) :
    Scheduled cfg { s.setPc c with mem := k } := by
  have hcur : k.prioCur = s.mem.prioCur := ht.touches.prioCur
  have hself : (s.setPc c).pc k.prioCur = c := by
    rw [hcur]
    exact Function.update_self _ _ _
  refine h.scheduled_touch ht ?_ fun hi hl hn => ?_
  · exact h.idlePc_setPc hidle c
  · have hn' : ¬ c.CallsSched := hself ▸ hn
    obtain ⟨rfl, hhigh⟩ := hc.resolve_left hn'
    have hi' : s.mem.intNesting = 0 := ht.touches.intNesting ▸ hi
    have hl' : s.mem.lockNesting = 0 := ht.touches.lockNesting ▸ hl
    exact hhigh (h.sched.highest hi' hl' (by rw [huser]; exact hn'))

/-- A step that changes neither the current task nor what it may do. -/
lemma SysInv.scheduled_same (h : SysInv cfg s f l) (ht : ControlEffect s t) (hpc : t.pc = s.pc)
    (hprio : t.mem.prioCur = s.mem.prioCur) (hcur : t.mem.tcbCur = s.mem.tcbCur)
    (hint : t.mem.intNesting = s.mem.intNesting) (hlock : t.mem.lockNesting = s.mem.lockNesting) :
    Scheduled cfg t := by
  refine h.scheduled_control ht ?_ ?_ fun hi hl hn => ?_
  · rw [hpc]
    exact h.sched.idlePc
  · rw [hprio, hcur]
    exact h.sched.curLive
  · rw [hpc, hprio] at hn
    have hhigh := h.sched.highest (hint ▸ hi) (hlock ▸ hl) hn
    unfold HighestReady at hhigh ⊢
    rwa [ht.rdy, hprio]

/-- A semaphore service that returns at once leaves the scheduler alone. -/
lemma SysInv.semReturn (h : SysInv cfg s f l) {k : OsMem}
    (hk : ∀ p, Touches s.mem k p ∧ k.rdy = s.mem.rdy ∧ k.tcbTbl = s.mem.tcbTbl) :
    Scheduled cfg { s with mem := k } ∧ Effect cfg s a { s with mem := k } l := by
  have heff : ControlEffect s { s with mem := k } :=
    controlEffect_sem hk rfl fun _ => SameMaking.refl _
  obtain ⟨ht, -, -⟩ := hk 0
  exact ⟨h.scheduled_same heff rfl ht.prioCur ht.tcbCur ht.intNesting ht.lockNesting, .control heff⟩

/-- A step of `OSSemCreate` touches no task and leaves the scheduler alone. -/
lemma SysInv.semMove (h : SysInv cfg s f l) (hidle : s.mem.prioCur ≠ cfg.taskIdlePrio)
    (hold : ¬ (s.pc s.mem.prioCur).CallsSched) (hnot : (s.pc s.mem.prioCur).NotMaking)
    {k : OsMem} {c : CallPc} (hc : c.NotMaking)
    (hk : ∀ p, Touches s.mem k p ∧ k.rdy = s.mem.rdy ∧ k.tcbTbl = s.mem.tcbTbl) :
    Scheduled cfg { s.setPc c with mem := k } ∧ Effect cfg s a { s.setPc c with mem := k } l := by
  have heff : ControlEffect s { s.setPc c with mem := k } :=
    controlEffect_sem hk rfl (sameMaking_update hnot hc)
  obtain ⟨ht, hrdy, -⟩ := hk 0
  refine ⟨h.scheduled_control heff (h.idlePc_setPc hidle c) ?_ fun hi hl _ => ?_, .control heff⟩
  · show ∃ i, s.mem.tcbPrioTbl k.prioCur = .tcb i ∧ k.tcbCur = .tcb i
    rw [ht.prioCur, ht.tcbCur]
    exact h.sched.curLive
  · have hhigh := h.sched.highest (ht.intNesting.symm.trans hi) (ht.lockNesting.symm.trans hl) hold
    unfold HighestReady at hhigh ⊢
    show k.rdy.Mem k.prioCur ∧ ∀ q, k.rdy.Mem q → k.prioCur ≤ q
    rwa [hrdy, ht.prioCur]

/-- A step of `OSTaskCreate` that changes neither the ready list nor the current task. -/
lemma SysInv.scheduled_making (h : SysInv cfg s f l) (hidle : s.mem.prioCur ≠ cfg.taskIdlePrio)
    (hold : ¬ (s.pc s.mem.prioCur).CallsSched) {k : OsMem} {c : CallPc}
    (hk : ∃ tcbTbl tcbPrioTbl tcbFreeList, k = { s.mem with
      tcbTbl := tcbTbl, tcbPrioTbl := tcbPrioTbl, tcbFreeList := tcbFreeList })
    (htbl : ∀ p i, s.mem.tcbPrioTbl p = .tcb i → k.tcbPrioTbl p = .tcb i) :
    Scheduled cfg { s.setPc c with mem := k } := by
  obtain ⟨tcbTbl, tcbPrioTbl, tcbFreeList, rfl⟩ := hk
  constructor
  · exact h.sched.running
  · exact h.sched.rdyValid
  · intro p hp
    obtain ⟨i, hi⟩ := h.sched.rdyLive p hp
    exact ⟨i, htbl p i hi⟩
  · exact h.sched.idleRdy
  · obtain ⟨i, hi, hcur⟩ := h.sched.curLive
    exact ⟨i, htbl _ i hi, hcur⟩
  · exact h.idlePc_setPc hidle c
  · intro hi hl _
    exact h.sched.highest hi hl hold
  · exact h.sched.waitValid
  · intro e p hp
    obtain ⟨hne, i, hi⟩ := h.sched.waitLive e p hp
    exact ⟨hne, i, htbl p i hi⟩

/-- What `OSTaskCreate` does in its first critical section. -/
lemma osTaskCreate_cases (cfg : OsCfg) (k : OsMem) (prio : ℕ) :
    (∃ err, k.osTaskCreate cfg prio = (k, some err)) ∨
      prio ≤ cfg.lowestPrio ∧ k.tcbPrioTbl prio = .null ∧ k.osTaskCreate cfg prio =
        ({ k with tcbPrioTbl := Function.update k.tcbPrioTbl prio .reserved }, none) := by
  unfold OsMem.osTaskCreate
  split_ifs with h₁ h₂ h₃
  · exact Or.inl ⟨_, rfl⟩
  · exact Or.inl ⟨_, rfl⟩
  · exact Or.inr ⟨not_lt.mp h₁, h₃, rfl⟩
  · exact Or.inl ⟨_, rfl⟩

/-- A call of `OSTimeDly` by the current task. -/
lemma SysInv.dlyStep (h : SysInv cfg s f l) (hidle : s.mem.prioCur ≠ cfg.taskIdlePrio)
    (huser : s.pc s.mem.prioCur = .sem .user) (ticks : UInt32) :
    Scheduled cfg (s.afterCall (s.mem.osTimeDly ticks).1 (s.mem.osTimeDly ticks).2) ∧
      Effect cfg s a (s.afterCall (s.mem.osTimeDly ticks).1 (s.mem.osTimeDly ticks).2) l := by
  obtain ⟨c, hcur, htbl, hprio⟩ := h.cur
  rcases osTimeDly_touches hcur hprio ticks with hk | ⟨-, k', hk, htouch, hagree, -⟩
  · rw [hk]
    exact ⟨h.sched, .control (ControlEffect.refl s)⟩
  · rw [hk]
    obtain ⟨i, heff⟩ := touchEffect_cur (a := a) (t := { s.setPc .sched with mem := k' }) h hidle
      htouch (fun j hj _ _ => by rwa [← TcbPtr.tcb.inj (hcur.symm.trans hj)])
      (sameMaking_update (huser ▸ notMaking_sem _) notMaking_sched) (Or.inl huser)
    exact ⟨h.scheduled_afterCall hidle huser heff (Or.inl (Or.inl rfl)), .touch _ i heff⟩

/-- A call of `OSTaskSuspend` by the current task. -/
lemma SysInv.suspendStep (h : SysInv cfg s f l) (hidle : s.mem.prioCur ≠ cfg.taskIdlePrio)
    (huser : s.pc s.mem.prioCur = .sem .user) {prio : ℕ} {r : OsMem × ErrCode × Bool}
    (hr : s.mem.osTaskSuspend cfg prio = r) (ha : SuspendsListed s a → ¬ Entering s prio) :
    Scheduled cfg (s.afterCall r.1 r.2.2) ∧ Effect cfg s a (s.afterCall r.1 r.2.2) l := by
  rcases osTaskSuspend_cases cfg s.mem prio with ⟨hmem, hsched⟩ | ⟨p, i, hp, hne, htbl, hk⟩
  · rw [hr] at hmem hsched
    rw [hmem, hsched]
    exact ⟨h.sched, .control (ControlEffect.refl s)⟩
  · rw [hr] at hk
    have hpidle : p ≠ cfg.taskIdlePrio := by
      rcases hp with rfl | ⟨-, rfl⟩
      · exact hne
      · rw [h.curPrio]
        exact hidle
    rw [h.curPrio] at hk
    rw [TaskState.afterCall_eq huser]
    have heff : TouchEffect cfg s a
        { s.setPc (if r.2.2 = true then .sched else .sem .user) with mem := r.1 } l p i := by
      refine touchEffect_suspend h hp hpidle htbl ha (by rw [hk]) ?_
      refine sameMaking_update (huser ▸ notMaking_sem _) ?_
      split_ifs
      · exact notMaking_sched
      · exact notMaking_sem _
    refine ⟨h.scheduled_afterCall hidle huser heff ?_, .touch p i heff⟩
    rw [hk]
    by_cases hcur : p = s.mem.prioCur
    · rw [decide_eq_true hcur, if_pos rfl]
      exact Or.inl (Or.inl rfl)
    · rw [decide_eq_false hcur, if_neg Bool.false_ne_true]
      refine Or.inr ⟨rfl, fun hhigh => ?_⟩
      have hprio := (h.pool.valid p i htbl).1
      rw [hprio]
      refine ⟨(PrioBitmap.mem_remove _ _ _).mpr ⟨Ne.symm hcur, hhigh.1⟩, fun q hq => ?_⟩
      exact hhigh.2 q ((PrioBitmap.mem_remove _ _ _).mp hq).2

/-- A call of `OSTaskResume` by the current task. -/
lemma SysInv.resumeStep (h : SysInv cfg s f l) (hidle : s.mem.prioCur ≠ cfg.taskIdlePrio)
    (huser : s.pc s.mem.prioCur = .sem .user) {prio : ℕ} {r : OsMem × ErrCode × Bool}
    (hr : s.mem.osTaskResume cfg prio = r) :
    Scheduled cfg (s.afterCall r.1 r.2.2) ∧ Effect cfg s a (s.afterCall r.1 r.2.2) l := by
  rcases osTaskResume_cases cfg s.mem prio with
    ⟨hmem, hsched⟩ | ⟨i, hlt, htbl, hsus, k', hk', hk⟩
  · rw [hr] at hmem hsched
    rw [hmem, hsched]
    exact ⟨h.sched, .control (ControlEffect.refl s)⟩
  · rw [hr] at hk
    rw [TaskState.afterCall_eq huser]
    have heff : TouchEffect cfg s a
        { s.setPc (if r.2.2 = true then .sched else .sem .user) with mem := r.1 } l prio i := by
      refine touchEffect_resume h (Nat.ne_of_lt hlt) htbl hsus hk' ?_ ?_
      · show r.1 = _
        split_ifs at hk ⊢
        · rw [hk]
        · rw [hk]
      · refine sameMaking_update (huser ▸ notMaking_sem _) ?_
        split_ifs
        · exact notMaking_sched
        · exact notMaking_sem _
    refine ⟨h.scheduled_afterCall hidle huser heff ?_, .touch prio i heff⟩
    split_ifs at hk with hrdy
    · rw [hk, h.sched.running]
      exact Or.inl (Or.inl rfl)
    · rw [hk, hk']
      exact Or.inr ⟨rfl, fun hhigh => hhigh⟩

/-- `OSTimeDlyHMSM` refuses the call and does nothing, or it is a call of `OSTimeDly`. -/
lemma osTimeDlyHmsm_cases (k : OsMem) (hours minutes seconds : UInt8) (ms : UInt16) :
    (∃ err, k.osTimeDlyHmsm hours minutes seconds ms = (k, err, false)) ∨
      k.osTimeDlyHmsm hours minutes seconds ms =
        ((k.osTimeDly (OsMem.hmsmTicks hours minutes seconds ms)).1, .none,
          (k.osTimeDly (OsMem.hmsmTicks hours minutes seconds ms)).2) := by
  unfold OsMem.osTimeDlyHmsm
  split_ifs
  all_goals first | exact Or.inl ⟨_, rfl⟩ | exact Or.inr rfl

/-- `OSSchedLock` does nothing, or it counts one level more. -/
lemma osSchedLock_cases (k : OsMem) :
    k.osSchedLock = k ∨ k.osSchedLock = { k with lockNesting := k.lockNesting + 1 } := by
  unfold OsMem.osSchedLock
  split_ifs
  · exact Or.inr rfl
  all_goals exact Or.inl rfl

/-- `OSSchedUnlock` does nothing, or it counts one level less, and calls `OS_Sched` at the last one.
-/
lemma osSchedUnlock_cases (k : OsMem) : k.osSchedUnlock = (k, false) ∨
    k.lockNesting > 0 ∧ k.osSchedUnlock =
      ({ k with lockNesting := k.lockNesting - 1 }, decide (k.lockNesting - 1 = 0)) := by
  unfold OsMem.osSchedUnlock
  split_ifs with h₁ h₂ h₃
  · exact Or.inr ⟨h₃, rfl⟩
  all_goals exact Or.inl rfl

/-- A call of `OSSchedLock` or `OSSchedUnlock` by the current task. -/
lemma SysInv.lockStep (h : SysInv cfg s f l) (hidle : s.mem.prioCur ≠ cfg.taskIdlePrio)
    {c : CallPc} (hnot : (s.pc s.mem.prioCur).NotMaking) (hc : c.NotMaking) (n : ℕ)
    (hn : n = 0 → c.CallsSched) (hpend : ¬ c.InPend) :
    Scheduled cfg { s.setPc c with mem := { s.mem with lockNesting := n } } ∧
      Effect cfg s a { s.setPc c with mem := { s.mem with lockNesting := n } } l := by
  have hself : (s.setPc c).pc s.mem.prioCur = c := Function.update_self _ _ _
  have heff : ControlEffect s { s.setPc c with mem := { s.mem with lockNesting := n } } :=
    controlEffect_of ⟨_, _, _, _, _, rfl⟩ (sameMaking_update hnot hc) (Or.inl rfl)
      (Or.inr (hself.symm ▸ hpend))
  refine ⟨h.scheduled_control heff (h.idlePc_setPc hidle c) h.sched.curLive fun _ hl hsched => ?_,
    .control heff⟩
  exact absurd (hn hl) (hself ▸ hsched)

/-- A call of `OSSemCreate` returns, or the current task holds a block. No task is touched. -/
lemma serviceStep_semCreate {cnt : UInt16}
    (hstep : serviceStep cfg s (.semCreate cnt) = some t) :
    ∃ k, (∀ p, Touches s.mem k p ∧ k.rdy = s.mem.rdy ∧ k.tcbTbl = s.mem.tcbTbl) ∧
      (t = { s with mem := k } ∨ ∃ e, t = { s.setPc (.semCreating e cnt) with mem := k }) := by
  have htake := osSemCreateTake_touches s.mem
  simp only [serviceStep] at hstep
  generalize s.mem.osSemCreateTake = r at hstep htake
  obtain ⟨k, _ | e⟩ := r
  · exact ⟨k, htake, Or.inl (Option.some.inj hstep).symm⟩
  · exact ⟨k, htake, Or.inr ⟨e, (Option.some.inj hstep).symm⟩⟩

/-- A call of `OSSemPend` returns and touches no task, or the current task joins the wait list and
goes on to `OS_Sched`. -/
lemma serviceStep_pend {pevent : Option ℕ} {timeout : UInt32}
    (hstep : serviceStep cfg s (.pend pevent timeout) = some t) :
    (∃ k, (∀ p, Touches s.mem k p ∧ k.rdy = s.mem.rdy ∧ k.tcbTbl = s.mem.tcbTbl) ∧
        t = { s with mem := k }) ∨
      ∃ e, pevent = some e ∧ t = { s.setPc (.sem (.pendSched e)) with
        mem := (s.mem.setTcb s.mem.tcbCur ⟨(s.mem.block s.mem.tcbCur).stat ||| osStatSem,
          osStatPendOk, timeout⟩).osEventTaskWait e } := by
  simp only [serviceStep] at hstep
  rcases osSemPend_outcomes s.mem pevent timeout with ⟨err, herr, hk⟩ | ⟨e, rfl, -, hk⟩
  · generalize s.mem.osSemPend pevent timeout = r at hstep herr hk
    obtain ⟨k, o⟩ := r
    obtain rfl : o = some err := herr
    refine Or.inl ⟨k, hk, ?_⟩
    cases pevent with
    | none => exact (Option.some.inj hstep).symm
    | some e => exact (Option.some.inj hstep).symm
  · rw [hk] at hstep
    exact Or.inr ⟨e, rfl, (Option.some.inj hstep).symm⟩

/-- A call of `OSSemPost` returns and touches no task, or it readies the first task that waits and
goes on to `OS_Sched`. -/
lemma serviceStep_post {pevent : Option ℕ} (hstep : serviceStep cfg s (.post pevent) = some t) :
    (∃ k, (∀ p, Touches s.mem k p ∧ k.rdy = s.mem.rdy ∧ k.tcbTbl = s.mem.tcbTbl) ∧
        t = { s with mem := k }) ∨
      ∃ e, pevent = some e ∧ (s.mem.eventTbl e).wait.grp ≠ 0 ∧
        t = { s.setPc (.sem (.postSched e)) with
          mem := (s.mem.osEventTaskRdy e osStatSem osStatPendOk).1 } := by
  simp only [serviceStep] at hstep
  rcases osSemPost_outcomes s.mem pevent with ⟨err, herr, hk⟩ | ⟨e, rfl, hgrp, hk⟩
  · generalize s.mem.osSemPost pevent = r at hstep herr hk
    obtain ⟨k, o⟩ := r
    obtain rfl : o = .returned err := herr
    refine Or.inl ⟨k, hk, ?_⟩
    cases pevent with
    | none => exact (Option.some.inj hstep).symm
    | some e => exact (Option.some.inj hstep).symm
  · rw [hk] at hstep
    exact Or.inr ⟨e, rfl, hgrp, (Option.some.inj hstep).symm⟩

/-- **A call of the current task.**

**Proof sketch.** One case per service. The cases lemma of the service says what it does; this
touches one task, moves the current task in `OSTaskCreate`, or changes the lock, the time or a
place only, and there is an effect for each. -/
lemma SysInv.serviceEffect (h : SysInv cfg s f l)
    (hidle : s.mem.prioCur ≠ cfg.taskIdlePrio) (huser : s.pc s.mem.prioCur = .sem .user)
    (hstep : serviceStep cfg s a = some t) : Scheduled cfg t ∧ Effect cfg s a t l := by
  have hnot : (s.pc s.mem.prioCur).NotMaking := huser ▸ notMaking_sem _
  have hsame : Scheduled cfg s ∧ Effect cfg s a s l := ⟨h.sched, .control (ControlEffect.refl s)⟩
  cases a with
  | create prio =>
    rcases osTaskCreate_cases cfg s.mem prio with ⟨err, hk⟩ | ⟨hle, hnull, hk⟩
    · simp only [serviceStep, hk] at hstep
      obtain rfl := Option.some.inj hstep
      exact hsame
    · simp only [serviceStep, hk] at hstep
      obtain rfl := Option.some.inj hstep
      refine ⟨h.scheduled_making hidle ?_ ⟨_, _, _, rfl⟩ fun p i hp => ?_,
        .reserve prio hle hnull hnot rfl⟩
      · rw [huser]
        simp [CallPc.CallsSched]
      · show Function.update s.mem.tcbPrioTbl prio .reserved p = .tcb i
        rw [Function.update_of_ne, hp]
        rintro rfl
        rw [hnull] at hp
        cases hp
  | suspend prio =>
    obtain rfl := Option.some.inj hstep
    exact h.suspendStep hidle huser rfl fun hs => hs
  | resume prio =>
    obtain rfl := Option.some.inj hstep
    exact h.resumeStep hidle huser rfl
  | dly ticks =>
    obtain rfl := Option.some.inj hstep
    exact h.dlyStep hidle huser ticks
  | dlyHmsm hours minutes seconds ms =>
    obtain rfl := Option.some.inj hstep
    rcases osTimeDlyHmsm_cases s.mem hours minutes seconds ms with ⟨err, hk⟩ | hk
    · rw [hk]
      exact hsame
    · rw [hk]
      exact h.dlyStep hidle huser _
  | timeSet ticks =>
    obtain rfl := Option.some.inj hstep
    have heff : ControlEffect s { s with mem := s.mem.osTimeSet ticks } :=
      controlEffect_of ⟨_, _, _, _, _, rfl⟩ (fun _ => SameMaking.refl _) (Or.inl rfl) (Or.inl rfl)
    exact ⟨h.scheduled_same heff rfl rfl rfl rfl rfl, .control heff⟩
  | lock =>
    obtain rfl := Option.some.inj hstep
    rcases osSchedLock_cases s.mem with hk | hk
    · rw [hk]
      exact hsame
    · rw [hk]
      have hstep := h.lockStep (a := .lock) hidle hnot (notMaking_sem .user) (s.mem.lockNesting + 1)
        (by omega) (by simp [CallPc.InPend])
      rwa [TaskState.setPc_self huser] at hstep
  | unlock =>
    rcases osSchedUnlock_cases s.mem with hk | ⟨hpos, hk⟩
    · simp only [serviceStep, hk, Bool.false_eq_true, if_false] at hstep
      obtain rfl := Option.some.inj hstep
      exact hsame
    · simp only [serviceStep, hk, decide_eq_true_eq] at hstep
      split_ifs at hstep with hzero
      · obtain rfl := Option.some.inj hstep
        exact h.lockStep hidle hnot (notMaking_sem _) _ (fun _ => Or.inr (Or.inl rfl))
          (by simp [CallPc.InPend])
      · obtain rfl := Option.some.inj hstep
        have hstep := h.lockStep (a := .unlock) hidle hnot (notMaking_sem .user)
          (s.mem.lockNesting - 1) (fun hz => absurd hz hzero) (by simp [CallPc.InPend])
        rwa [TaskState.setPc_self huser] at hstep
  | semCreate cnt =>
    obtain ⟨k, htake, rfl | ⟨e, rfl⟩⟩ := serviceStep_semCreate hstep
    · exact h.semReturn htake
    · exact h.semMove hidle (by rw [huser]; simp [CallPc.CallsSched]) hnot
        (notMaking_semCreating e cnt) htake
  | pend pevent timeout =>
    obtain ⟨k, hk, rfl⟩ | ⟨e, rfl, rfl⟩ := serviceStep_pend hstep
    · exact h.semReturn hk
    · obtain ⟨c, hcur, -, hprio⟩ := h.cur
      obtain ⟨htouch, -, -⟩ := osEventTaskWait_touches (e := e) hcur hprio
        ⟨(s.mem.block s.mem.tcbCur).stat ||| osStatSem, osStatPendOk, timeout⟩
      obtain ⟨i, heff⟩ := touchEffect_cur (a := .pend (some e) timeout)
        (t := { s.setPc (.sem (.pendSched e)) with
          mem := (s.mem.setTcb s.mem.tcbCur
            ⟨(s.mem.block s.mem.tcbCur).stat ||| osStatSem, osStatPendOk,
              timeout⟩).osEventTaskWait e })
        h hidle htouch (fun j hj hj' _ hagree => agrees_osEventTaskWait hagree hj hj' timeout)
        (sameMaking_update hnot (notMaking_sem _)) (Or.inl huser)
      exact ⟨h.scheduled_afterCall hidle huser heff (Or.inl (Or.inr (Or.inr (Or.inl ⟨e, rfl⟩)))),
        .touch _ i heff⟩
  | post pevent =>
    obtain ⟨k, hk, rfl⟩ | ⟨e, rfl, hgrp, rfl⟩ := serviceStep_post hstep
    · exact h.semReturn hk
    · obtain ⟨p, i, heff⟩ := touchEffect_post (a := .post (some e))
        (t := { s.setPc (.sem (.postSched e)) with
          mem := (s.mem.osEventTaskRdy e osStatSem osStatPendOk).1 }) h hgrp rfl
        (sameMaking_update hnot (notMaking_sem _))
      exact ⟨h.scheduled_afterCall hidle huser heff (Or.inl (Or.inr (Or.inr (Or.inr ⟨e, rfl⟩)))),
        .touch p i heff⟩
  | accept pevent =>
    obtain rfl := Option.some.inj hstep
    exact h.semReturn fun p => osSemAccept_touches s.mem pevent p
  | _ => simp [serviceStep] at hstep

/-! ## The steps of the current task in its call -/

/-- The last critical section of `OS_TCBInit` makes the new task ready. -/
lemma SysInv.scheduled_link (h : SysInv cfg s f l) (hidle : s.mem.prioCur ≠ cfg.taskIdlePrio)
    (hpc : s.pc s.mem.prioCur = .createEntered p i) :
    Scheduled cfg { s.setPc .sched with mem := s.mem.osTcbInitLink i } := by
  have htbl : s.mem.tcbPrioTbl p = .tcb i :=
    h.pool.entered _ p i (by rw [hpc]; rfl) (by rw [hpc]; rfl)
  have hprio := (h.pool.valid p i htbl).1
  obtain ⟨tcbTbl, hk⟩ := osTcbInitLink_rest s.mem i
  have hself : (s.setPc .sched).pc s.mem.prioCur = .sched := Function.update_self _ _ _
  rw [hk, hprio]
  constructor
  · exact h.sched.running
  · exact h.sched.rdyValid.insert p
  · intro q hq
    rcases (PrioBitmap.mem_insert _ _ _).mp hq with rfl | hq
    · exact ⟨i, htbl⟩
    · exact h.sched.rdyLive q hq
  · exact (PrioBitmap.mem_insert _ _ _).mpr (Or.inr h.sched.idleRdy)
  · exact h.sched.curLive
  · exact h.idlePc_setPc hidle _
  · exact fun _ _ hn => absurd (Or.inl hself) hn
  · exact h.sched.waitValid
  · exact h.sched.waitLive

/-- **The next step of the current task in its call.**

**Proof sketch.** One case per place of the current task. In `OSTaskCreate` the places are the
critical sections, each with its effect; the others are `OS_Sched` and the two halves of the
semaphore services. -/
lemma SysInv.nextEffect (h : SysInv cfg s f l) (hint : s.mem.intNesting = 0)
    (hstep : nextStep s = some t) : Scheduled cfg t ∧ Effect cfg s a t l := by
  have hidle : s.pc s.mem.prioCur ≠ .sem .user → s.mem.prioCur ≠ cfg.taskIdlePrio :=
    fun hpc he => hpc (he ▸ h.sched.idlePc)
  unfold nextStep at hstep
  split at hstep
  · cases hstep
  · rename_i p hpc
    have hres : s.mem.tcbPrioTbl p = .reserved := (h.pool.reserved p).mpr ⟨_, by rw [hpc]; rfl⟩
    have hcalls : ¬ (s.pc s.mem.prioCur).CallsSched := by
      rw [hpc]
      simp [CallPc.CallsSched]
    split at hstep
    · rename_i k i hk
      obtain rfl := Option.some.inj hstep
      refine ⟨h.scheduled_making (hidle (by rw [hpc]; simp)) hcalls
        ⟨_, _, _, (osTcbInit_eq_some hk).2⟩ fun q j hq => ?_, .take p i k hpc hk rfl⟩
      rw [(osTcbInit_eq_some hk).2]
      exact hq
    · rename_i k hk
      obtain rfl := Option.some.inj hstep
      obtain ⟨-, rfl⟩ := osTcbInit_eq_none hk
      exact ⟨h.scheduled_making (hidle (by rw [hpc]; simp)) hcalls ⟨_, _, _, rfl⟩
        fun _ _ hq => hq, .takeNone p hpc rfl⟩
  · rename_i p i hpc
    obtain rfl := Option.some.inj hstep
    have hres : s.mem.tcbPrioTbl p = .reserved := (h.pool.reserved p).mpr ⟨_, by rw [hpc]; rfl⟩
    refine ⟨h.scheduled_making (hidle (by rw [hpc]; simp)) (by rw [hpc]; simp [CallPc.CallsSched])
      ⟨_, _, _, rfl⟩ fun q j hq => ?_, .enter p i hpc rfl⟩
    show Function.update s.mem.tcbPrioTbl p (.tcb i) q = .tcb j
    rw [Function.update_of_ne, hq]
    rintro rfl
    rw [hres] at hq
    cases hq
  · rename_i p i hpc
    obtain rfl := Option.some.inj hstep
    exact ⟨h.scheduled_link (hidle (by rw [hpc]; simp)) hpc, .link p i hpc rfl⟩
  · rename_i p hpc
    obtain rfl := Option.some.inj hstep
    have hres : s.mem.tcbPrioTbl p = .reserved := (h.pool.reserved p).mpr ⟨_, by rw [hpc]; rfl⟩
    refine ⟨h.scheduled_making (hidle (by rw [hpc]; simp)) (by rw [hpc]; simp [CallPc.CallsSched])
      ⟨_, _, _, rfl⟩ fun q j hq => ?_, .fail p hpc rfl⟩
    show Function.update s.mem.tcbPrioTbl p .null q = .tcb j
    rw [Function.update_of_ne, hq]
    rintro rfl
    rw [hres] at hq
    cases hq
  · rename_i e cnt hpc
    obtain rfl := Option.some.inj hstep
    exact h.semMove (hidle (by rw [hpc]; simp)) (by rw [hpc]; simp [CallPc.CallsSched])
      (hpc ▸ notMaking_semCreating e cnt) (notMaking_sem _) (osSemCreateInit_touches s.mem e cnt)
  · rename_i hpc
    obtain rfl := Option.some.inj hstep
    obtain ⟨hs, he⟩ := h.schedStep hint (hpc ▸ notMaking_sched) (by rw [hpc]; simp)
      (notMaking_sem .user)
    exact ⟨hs, .control he⟩
  · rename_i e hpc
    obtain rfl := Option.some.inj hstep
    obtain ⟨hs, he⟩ := h.schedStep hint (hpc ▸ notMaking_sem _) (by rw [hpc]; simp)
      (notMaking_sem (.pendResume e))
    exact ⟨hs, .control he⟩
  · rename_i e hpc
    obtain rfl := Option.some.inj hstep
    obtain ⟨c, hcur, -, hprio⟩ := h.cur
    obtain ⟨htouch, hrdy, -, hdly⟩ := osSemPendResume_touches hcur hprio e
    -- with the scheduler unlocked the task that comes back from the wait is ready
    have hhigh : s.mem.lockNesting = 0 → HighestReady s.mem := fun hlock =>
      h.sched.highest hint hlock (by rw [hpc]; simp [CallPc.CallsSched])
    obtain ⟨i, heff⟩ := touchEffect_cur (a := a) (l := l)
      (t := { s.setPc (.sem .user) with mem := (s.mem.osSemPendResume e).1 }) h
      (hidle (by rw [hpc]; simp)) htouch
      (fun j hj hj' hun hagree =>
        agrees_osSemPendResume hagree hj hj' (hhigh (hun (Or.inr ⟨e, hpc⟩))).1 e)
      (sameMaking_update (hpc ▸ notMaking_sem _) (notMaking_sem _))
      (Or.inr ⟨Function.update_self _ _ _, fun j hj => by
        rwa [← TcbPtr.tcb.inj (hcur.symm.trans hj)]⟩)
    refine ⟨h.scheduled_touch heff (h.idlePc_setPc (hidle (by rw [hpc]; simp)) _) fun _ hl _ => ?_,
      .touch _ i heff⟩
    unfold HighestReady at hhigh ⊢
    show (s.mem.osSemPendResume e).1.rdy.Mem (s.mem.osSemPendResume e).1.prioCur ∧ _
    rw [hrdy, htouch.prioCur]
    exact hhigh (htouch.lockNesting.symm.trans hl)
  · rename_i e hpc
    obtain rfl := Option.some.inj hstep
    obtain ⟨hs, he⟩ := h.schedStep hint (hpc ▸ notMaking_sem _) (by rw [hpc]; simp)
      (notMaking_sem (.postReturn e))
    exact ⟨hs, .control he⟩
  · rename_i e hpc
    obtain rfl := Option.some.inj hstep
    have heff : ControlEffect s (s.setPc (.sem .user)) := { ControlEffect.refl s with
      making := sameMaking_update (hpc ▸ notMaking_sem _) (notMaking_sem _)
      lock := Or.inl rfl }
    have hs := h.scheduled_making (k := s.mem) (c := .sem .user) (hidle (by rw [hpc]; simp))
      (by rw [hpc]; simp [CallPc.CallsSched]) ⟨_, _, _, rfl⟩ fun _ _ hq => hq
    exact ⟨hs, .control heff⟩
  · rename_i hpc
    obtain rfl := Option.some.inj hstep
    obtain ⟨hs, he⟩ := h.schedStep hint (hpc ▸ notMaking_sem _) (by rw [hpc]; simp)
      (notMaking_sem .user)
    exact ⟨hs, .control he⟩

/-! ## The steps of interrupts -/

/-- In an interrupt `OS_Sched` returns at once. -/
lemma osSched_of_int {k : OsMem} (h : k.intNesting > 0) : k.osSched = k := by
  simp only [OsMem.osSched, if_neg (Nat.ne_of_gt h)]

/-- `OSSemPost` in an interrupt returns and touches no task, or it readies the first task that
waits. `OS_Sched` then returns at once. -/
lemma SysInv.isrStep_post {pevent : Option ℕ} (h : SysInv cfg s f l)
    (hint : s.mem.intNesting > 0) (hstep : isrStep cfg s (.isrPost pevent) = some t) :
    (∃ k, (∀ p, Touches s.mem k p ∧ k.rdy = s.mem.rdy ∧ k.tcbTbl = s.mem.tcbTbl) ∧
        t = { s with mem := k }) ∨
      ∃ e, pevent = some e ∧ (s.mem.eventTbl e).wait.grp ≠ 0 ∧
        t = { s with mem := (s.mem.osEventTaskRdy e osStatSem osStatPendOk).1 } := by
  simp only [isrStep] at hstep
  rcases osSemPost_outcomes s.mem pevent with ⟨err, herr, hk⟩ | ⟨e, rfl, hgrp, hk⟩
  · generalize s.mem.osSemPost pevent = r at hstep herr hk
    obtain ⟨k, o⟩ := r
    obtain rfl : o = .returned err := herr
    exact Or.inl ⟨k, hk, (Option.some.inj hstep).symm⟩
  · rw [hk] at hstep
    obtain ⟨p, i, hfirst, -, -, htbl, hprio⟩ := h.first_waiting hgrp
    obtain ⟨htouch, -, -, -⟩ := osEventTaskRdy_touches hfirst htbl hprio osStatSem osStatPendOk
    have hsched := osSched_of_int (htouch.intNesting.symm ▸ hint)
    exact Or.inr ⟨e, rfl, hgrp, (Option.some.inj hstep).symm.trans
      (congrArg (fun k => { s with mem := k }) hsched)⟩

/-- A service in an interrupt that touches a task. -/
lemma SysInv.isrTouch (h : SysInv cfg s f l) (hint : s.mem.intNesting > 0)
    (ht : TouchEffect cfg s a t l p i) (hpc : t.pc = s.pc) :
    Scheduled cfg t ∧ Effect cfg s a t l := by
  refine ⟨h.scheduled_touch ht ?_ fun hi _ _ => ?_, .touch p i ht⟩
  · rw [hpc]
    exact h.sched.idlePc
  · rw [ht.touches.intNesting] at hi
    omega

/-- `OSIntExit` makes the highest ready task the current one, unless an interrupt is still served or
the scheduler is locked.

**Proof sketch.** At the last level, with the scheduler unlocked, the highest ready task becomes
the current one; otherwise the nesting is counted down and nothing else changes. -/
lemma SysInv.intExitStep (h : SysInv cfg s f l) (hint : s.mem.intNesting > 0) :
    Scheduled cfg { s with mem := s.mem.osIntExit } ∧
      ControlEffect s { s with mem := s.mem.osIntExit } := by
  set k : OsMem := { s.mem with intNesting := s.mem.intNesting - 1 } with hk
  have hexit : s.mem.osIntExit =
      if s.mem.intNesting - 1 = 0 then if s.mem.lockNesting = 0 then k.switch else k else k := by
    unfold OsMem.osIntExit
    rw [if_pos h.sched.running]
    simp only [if_pos hint]
    rfl
  have hswitch : k.switch = { s.mem with
      intNesting := s.mem.intNesting - 1, prioCur := s.mem.osSchedNew
      tcbCur := s.mem.tcbPrioTbl s.mem.osSchedNew } := by
    have hs := h.switch
    simp only [OsMem.switch] at hs ⊢
    split_ifs at hs ⊢ with hne hne' hne'
    · rfl
    · exact absurd hne hne'
    · exact absurd hne' hne
    · obtain ⟨c, hcur, htbl, -⟩ := h.cur
      have he : s.mem.osSchedNew = s.mem.prioCur := not_not.mp hne
      rw [he, htbl, ← hcur]
  rw [hexit]
  split_ifs with hzero hlock
  · have heff : ControlEffect s { s with mem := k.switch } :=
      controlEffect_of ⟨_, _, _, _, _, hswitch⟩ (fun _ => SameMaking.refl _) (Or.inr (by
        rw [hswitch]
        exact ⟨hlock, hlock, h.osSchedNew.1⟩)) (Or.inl (by rw [hswitch]))
    obtain ⟨hmem, hle, i, hi⟩ := h.osSchedNew
    refine ⟨h.scheduled_control heff h.sched.idlePc ?_ fun _ _ _ => ?_, heff⟩
    · show ∃ i, s.mem.tcbPrioTbl k.switch.prioCur = .tcb i ∧ k.switch.tcbCur = .tcb i
      rw [hswitch]
      exact ⟨i, hi, hi⟩
    · show HighestReady k.switch
      rw [hswitch]
      exact ⟨hmem, hle⟩
  · have heff : ControlEffect s { s with mem := k } :=
      controlEffect_of ⟨_, _, _, _, _, rfl⟩ (fun _ => SameMaking.refl _) (Or.inl rfl) (Or.inl rfl)
    exact ⟨h.scheduled_control heff h.sched.idlePc h.sched.curLive fun _ hl _ => absurd hl hlock,
      heff⟩
  · have heff : ControlEffect s { s with mem := k } :=
      controlEffect_of ⟨_, _, _, _, _, rfl⟩ (fun _ => SameMaking.refl _) (Or.inl rfl) (Or.inl rfl)
    exact ⟨h.scheduled_control heff h.sched.idlePc h.sched.curLive fun hz _ _ => absurd hz hzero,
      heff⟩

/-- **A step of an interrupt.**

**Proof sketch.** One case per action. A service that readies or suspends a task touches it only; a
tick visits one TCB; `OSIntExit` makes a switch or none. -/
lemma SysInv.isrEffect (h : SysInv cfg s f l) (hint : s.mem.intNesting > 0)
    (hstep : isrStep cfg s a = some t) : Scheduled cfg t ∧ Effect cfg s a t l := by
  have hsame : Scheduled cfg s ∧ Effect cfg s a s l := ⟨h.sched, .control (ControlEffect.refl s)⟩
  have hmaking : ∀ q, SameMaking (s.pc q) (s.pc q) := fun _ => SameMaking.refl _
  cases a with
  | isrPost pevent =>
    obtain ⟨k, hk, rfl⟩ | ⟨e, rfl, hgrp, rfl⟩ := h.isrStep_post hint hstep
    · exact h.semReturn hk
    · obtain ⟨p, i, heff⟩ := touchEffect_post (a := .isrPost (some e))
        (t := { s with mem := (s.mem.osEventTaskRdy e osStatSem osStatPendOk).1 }) h
          hgrp rfl hmaking
      exact h.isrTouch hint heff rfl
  | isrSuspend prio =>
    simp only [isrStep] at hstep
    have hself : prio ≠ osPrioSelf := fun hs => by simp [if_pos hs] at hstep
    rw [if_neg hself] at hstep
    rcases osTaskSuspend_cases cfg s.mem prio with ⟨hmem, hcall⟩ | ⟨p, i, hp, hne, htbl, hk⟩
    · rw [hmem, hcall, if_neg Bool.false_ne_true] at hstep
      obtain rfl := Option.some.inj hstep
      exact hsame
    · have hp' : p = prio := hp.resolve_right fun hs => hself hs.1
      have heff : TouchEffect cfg s (.isrSuspend prio)
          { s with mem := (s.mem.osTaskSuspend cfg prio).1 } l p i :=
        touchEffect_suspend h hp (hp' ▸ hne) htbl (fun hs => hs) (by rw [hk]) hmaking
      rw [osSched_of_int (by rw [heff.touches.intNesting]; exact hint), ite_self] at hstep
      obtain rfl := Option.some.inj hstep
      exact h.isrTouch hint heff rfl
  | isrResume prio =>
    simp only [isrStep] at hstep
    rcases osTaskResume_cases cfg s.mem prio with ⟨hmem, hcall⟩ | ⟨i, hlt, htbl, hsus, k', hk', hk⟩
    · rw [hmem, hcall, if_neg Bool.false_ne_true] at hstep
      obtain rfl := Option.some.inj hstep
      exact hsame
    · have heff : TouchEffect cfg s (.isrResume prio)
          { s with mem := (s.mem.osTaskResume cfg prio).1 } l prio i := by
        refine touchEffect_resume h (Nat.ne_of_lt hlt) htbl hsus hk' ?_ hmaking
        split_ifs at hk ⊢
        · rw [hk]
        · rw [hk]
      have hsched : (s.mem.osTaskResume cfg prio).1.osSched = (s.mem.osTaskResume cfg prio).1 :=
        osSched_of_int (by rw [heff.touches.intNesting]; exact hint)
      rw [hsched, ite_self] at hstep
      obtain rfl := Option.some.inj hstep
      exact h.isrTouch hint heff rfl
  | tick =>
    obtain rfl := Option.some.inj hstep
    have heff : ControlEffect s
        { s with mem := s.mem.osTimeTick, walk := s.mem.tcbList.toList ++ s.walk } :=
      controlEffect_of ⟨_, _, _, _, _, rfl⟩ hmaking (Or.inl rfl) (Or.inl rfl)
    exact ⟨h.scheduled_same heff rfl rfl rfl rfl rfl, .control heff⟩
  | tickNext =>
    simp only [isrStep] at hstep
    split at hstep
    · cases hstep
    · rename_i ptcb rest hwalk
      split_ifs at hstep with hidle
      · obtain rfl := Option.some.inj hstep
        have hmem : ptcb ∈ l := h.walk ptcb (hwalk ▸ List.mem_cons_self)
        exact h.isrTouch hint (touchEffect_tick h hmem hidle rfl rfl ⟨rfl, by rw [hwalk]; rfl⟩) rfl
      · obtain rfl := Option.some.inj hstep
        have heff : ControlEffect s { s with walk := rest } :=
          controlEffect_of ⟨_, _, _, _, _, rfl⟩ hmaking (Or.inl rfl) (Or.inl rfl)
        exact ⟨h.scheduled_same heff rfl rfl rfl rfl rfl, .control heff⟩
  | intExit =>
    simp only [isrStep] at hstep
    split_ifs at hstep
    obtain rfl := Option.some.inj hstep
    obtain ⟨hs, he⟩ := h.intExitStep hint
    exact ⟨hs, .control he⟩
  | _ => simp [isrStep] at hstep

/-- `OSIntEnter` -/
lemma SysInv.intEnterStep (h : SysInv cfg s f l) :
    Scheduled cfg { s with mem := s.mem.osIntEnter } ∧
      ControlEffect s { s with mem := s.mem.osIntEnter } := by
  have hk : s.mem.osIntEnter = s.mem ∨
      s.mem.osIntEnter = { s.mem with intNesting := s.mem.intNesting + 1 } := by
    unfold OsMem.osIntEnter
    split_ifs
    · exact Or.inr rfl
    all_goals exact Or.inl rfl
  rcases hk with hk | hk
  · rw [hk]
    exact ⟨h.sched, ControlEffect.refl s⟩
  · rw [hk]
    have heff : ControlEffect s
        { s with mem := { s.mem with intNesting := s.mem.intNesting + 1 } } :=
      controlEffect_of ⟨_, _, _, _, _, rfl⟩ (fun _ => SameMaking.refl _) (Or.inl rfl) (Or.inl rfl)
    exact ⟨h.scheduled_control heff h.sched.idlePc h.sched.curLive
      fun hi _ _ => absurd hi (Nat.succ_ne_zero _), heff⟩

/-- **The inversion of a step.** -/
theorem SysInv.effect (h : SysInv cfg s f l) (hstep : osStep cfg s a = some t) :
    Scheduled cfg t ∧ Effect cfg s a t l := by
  unfold osStep at hstep
  split at hstep
  · split_ifs at hstep
    obtain rfl := Option.some.inj hstep
    obtain ⟨hs, he⟩ := h.intEnterStep
    exact ⟨hs, .control he⟩
  all_goals split_ifs at hstep
  all_goals first
    | exact h.isrEffect ‹_› hstep
    | exact h.nextEffect ‹_› hstep
    | exact h.serviceEffect (by tauto) (by tauto) hstep

end

end Kernel
