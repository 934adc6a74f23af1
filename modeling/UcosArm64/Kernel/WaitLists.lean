import UcosArm64.Kernel.TaskSafety

set_option relaxedAutoImplicit false
set_option autoImplicit false

/-!
# Who is on a wait list

A task is on the wait list of a semaphore only while it is in `OSSemPend` on that semaphore, and so
on one wait list at most. A task whose timeout has run out stays on the wait list, marked by
`OS_STAT_PEND_TO`, until it runs again and takes itself off.

## Main definitions

* `Kernel.OsTcb.Waits` — the TCB of a task on a wait list.
* `Kernel.WaitsInPend` — the tasks on the wait lists are in `OSSemPend`.

## Main results

* `Kernel.WaitsInPend.step` — a step keeps this.
* `Kernel.waitLists_of_stepsMeet` — it holds in every run.
-/

namespace Kernel

open Transition

/-- The task is in `OSSemPend` on the semaphore `e`. -/
def CallPc.Pends (c : CallPc) (e : ℕ) : Prop := c = .sem (.pendSched e) ∨ c = .sem (.pendResume e)

/-- **The TCB of a task on a wait list**: the task waits, or its timeout has run out. -/
def OsTcb.Waits (t : OsTcb) : Prop :=
  t.statPend = osStatPendOk ∧ t.stat &&& osStatSem ≠ osStatRdy ∨
    t.statPend = osStatPendTo ∧ t.stat &&& osStatSem = osStatRdy ∧ t.dly = 0

/-- **The tasks on the wait lists** are in `OSSemPend` on the semaphore, and their TCBs say so. -/
structure WaitsInPend (s : TaskState) : Prop where
  pc : ∀ e p, (s.mem.eventTbl e).wait.Mem p → (s.pc p).Pends e
  tcb : ∀ e p i, (s.mem.eventTbl e).wait.Mem p → s.mem.tcbPrioTbl p = .tcb i →
    (s.mem.tcbTbl i).toOsTcb.Waits

/-! ## TCBs -/

section

variable {t : OsTcb}

/-- The bits that a mask keeps are not touched by a mask around it. -/
lemma and_and_of_and_eq {x m n : UInt8} (h : m &&& n = n) : x &&& m &&& n = x &&& n := by
  rw [UInt8.and_assoc, h]

/-- What matters of the status is the bit of the semaphores. -/
lemma OsTcb.Waits.of_stat (h : t.Waits) {stat : UInt8}
    (hstat : stat &&& osStatSem = t.stat &&& osStatSem) :
    { t with stat := stat : OsTcb }.Waits := by
  unfold OsTcb.Waits at h ⊢
  rwa [hstat]

/-- A suspended task waits as before. -/
lemma OsTcb.Waits.suspend (h : t.Waits) :
    { t with stat := t.stat ||| osStatSuspend : OsTcb }.Waits := by
  refine h.of_stat ?_
  apply UInt8.toBitVec_inj.mp
  simp only [UInt8.toBitVec_and, UInt8.toBitVec_or]
  rw [BitVec.and_or_distrib_right, show osStatSuspend.toBitVec &&& osStatSem.toBitVec =
    0#8 by decide, BitVec.or_zero]

/-- A resumed task waits as before. -/
lemma OsTcb.Waits.resume (h : t.Waits) :
    { t with stat := t.stat &&& ~~~osStatSuspend : OsTcb }.Waits :=
  h.of_stat (and_and_of_and_eq (by decide))

/-- A task whose delay has not run out still waits. -/
lemma OsTcb.Waits.waiting (h : t.Waits) (hdly : t.dly ≠ 0) :
    t.statPend = osStatPendOk ∧ t.stat &&& osStatSem ≠ osStatRdy :=
  h.resolve_right fun h => hdly h.2.2

/-- A task waits on while its delay is counted down. -/
lemma OsTcb.Waits.count (h : t.Waits) (hdly : t.dly ≠ 0) (dly : UInt32) :
    { t with dly := dly : OsTcb }.Waits :=
  Or.inl (h.waiting hdly)

/-- The status of a task whose timeout runs out shows that it waited. -/
lemma OsTcb.Waits.pendAny (h : t.Waits) (hdly : t.dly ≠ 0) :
    t.stat &&& osStatPendAny ≠ osStatRdy := by
  obtain ⟨-, hsem⟩ := h.waiting hdly
  intro hany
  refine hsem ?_
  rw [← and_and_of_and_eq (m := osStatPendAny) (by decide), hany]
  decide

end

section

variable {k : OsMem} {p i e : ℕ}

/-- `OSTaskSuspend`, `OSTaskResume` and the ticks leave the wait lists alone, and a TCB of a task
on one stays such a TCB. -/
lemma waits_osTaskSuspend (cfg : OsCfg) (k : OsMem) (prio : ℕ) :
    (k.osTaskSuspend cfg prio).1.eventTbl = k.eventTbl ∧
      (k.osTaskSuspend cfg prio).1.tcbPrioTbl = k.tcbPrioTbl ∧
      ∀ i, (k.tcbTbl i).toOsTcb.Waits →
        ((k.osTaskSuspend cfg prio).1.tcbTbl i).toOsTcb.Waits := by
  rcases osTaskSuspend_cases cfg k prio with ⟨hk, -⟩ | ⟨p, j, -, -, -, hk⟩
  · rw [hk]
    exact ⟨rfl, rfl, fun _ h => h⟩
  · rw [hk]
    refine ⟨rfl, rfl, fun i hi => ?_⟩
    by_cases hij : i = j
    · subst hij
      rw [setTcb_self]
      exact hi.suspend
    · rw [setTcb_of_ne _ _ hij]
      exact hi

/-- `OSTaskResume` ends no wait. -/
lemma waits_osTaskResume (cfg : OsCfg) (k : OsMem) (prio : ℕ) :
    (k.osTaskResume cfg prio).1.eventTbl = k.eventTbl ∧
      (k.osTaskResume cfg prio).1.tcbPrioTbl = k.tcbPrioTbl ∧
      ∀ i, (k.tcbTbl i).toOsTcb.Waits → ((k.osTaskResume cfg prio).1.tcbTbl i).toOsTcb.Waits := by
  rcases osTaskResume_cases cfg k prio with ⟨hk, -⟩ | ⟨j, -, -, -, k', hk', hk⟩
  · rw [hk]
    exact ⟨rfl, rfl, fun _ h => h⟩
  · have hwaits : ∀ i, (k.tcbTbl i).toOsTcb.Waits → (k'.tcbTbl i).toOsTcb.Waits := by
      intro i hi
      rw [hk']
      by_cases hij : i = j
      · subst hij
        rw [setTcb_self]
        exact hi.resume
      · rw [setTcb_of_ne _ _ hij]
        exact hi
    split_ifs at hk
    · rw [hk, hk'] at *
      exact ⟨rfl, rfl, hwaits⟩
    · rw [hk, hk'] at *
      exact ⟨rfl, rfl, hwaits⟩

/-- A tick that visits a waiting task lets it wait on, or times it out. -/
lemma waits_osTimeTickTcb (k : OsMem) (j : ℕ) :
    (k.osTimeTickTcb j).eventTbl = k.eventTbl ∧ (k.osTimeTickTcb j).tcbPrioTbl = k.tcbPrioTbl ∧
      ∀ i, (k.tcbTbl i).toOsTcb.Waits → ((k.osTimeTickTcb j).tcbTbl i).toOsTcb.Waits := by
  rcases osTimeTickTcb_cases k j with ⟨-, hk⟩ | ⟨hdly, -, hk⟩ | ⟨hdly, -, t, htdly,
    htstat, htpend, hk⟩
  · rw [hk]
    exact ⟨rfl, rfl, fun _ h => h⟩
  · rw [hk]
    refine ⟨rfl, rfl, fun i hi => ?_⟩
    by_cases hij : i = j
    · subst hij
      rw [setTcb_self]
      exact hi.count hdly _
    · rw [setTcb_of_ne _ _ hij]
      exact hi
  · have hwaits : ∀ i, (k.tcbTbl i).toOsTcb.Waits →
        ((k.setTcb (.tcb j) t).tcbTbl i).toOsTcb.Waits := by
      intro i hi
      by_cases hij : i = j
      · subst hij
        rw [setTcb_self]
        rw [if_pos (hi.pendAny hdly)] at htpend
        refine Or.inr ⟨htpend, ?_, htdly⟩
        rw [htstat, UInt8.and_assoc, show ~~~osStatPendAny &&& osStatSem = 0 by decide]
        exact UInt8.and_zero
      · rw [setTcb_of_ne _ _ hij]
        exact hi
    rw [hk]
    split_ifs
    · exact ⟨rfl, rfl, hwaits⟩
    · exact ⟨rfl, rfl, hwaits⟩

end

/-! ## One step -/

section

variable {cfg : OsCfg} {s t : TaskState} {a : TaskAction} {f l : List ℕ} {p i e : ℕ}

/-- A step that puts no task on a wait list. -/
lemma WaitsInPend.frame (hw : WaitsInPend s) (h : SysInv cfg s f l)
    (hsub : ∀ e p, (t.mem.eventTbl e).wait.Mem p → (s.mem.eventTbl e).wait.Mem p)
    (hkeep : ∀ e p i, (t.mem.eventTbl e).wait.Mem p → s.mem.tcbPrioTbl p = .tcb i →
      (s.pc p).Pends e → (s.mem.tcbTbl i).toOsTcb.Waits →
      (t.pc p).Pends e ∧ t.mem.tcbPrioTbl p = .tcb i ∧ (t.mem.tcbTbl i).toOsTcb.Waits) :
    WaitsInPend t := by
  have hall : ∀ e p, (t.mem.eventTbl e).wait.Mem p → ∃ i, (t.pc p).Pends e ∧
      t.mem.tcbPrioTbl p = .tcb i ∧ (t.mem.tcbTbl i).toOsTcb.Waits := by
    intro e p hp
    have hp' := hsub e p hp
    obtain ⟨-, i, hi⟩ := h.sched.waitLive e p hp'
    exact ⟨i, hkeep e p i hp hi (hw.pc e p hp') (hw.tcb e p i hp' hi)⟩
  constructor
  · intro e p hp
    obtain ⟨i, hpc, -⟩ := hall e p hp
    exact hpc
  · intro e p j hp hj
    obtain ⟨i, -, htbl, hwaits⟩ := hall e p hp
    rw [hj] at htbl
    obtain rfl := TcbPtr.tcb.inj htbl
    exact hwaits

/-- A step that touches no wait list, and takes no task out of `OSSemPend`. -/
lemma WaitsInPend.mono (hw : WaitsInPend s) (h : SysInv cfg s f l) {k : OsMem}
    (hk : k.eventTbl = s.mem.eventTbl ∧ k.tcbPrioTbl = s.mem.tcbPrioTbl ∧
      ∀ i, (s.mem.tcbTbl i).toOsTcb.Waits → (k.tcbTbl i).toOsTcb.Waits)
    (hmem : t.mem = k) (hpc : ∀ p e, (s.pc p).Pends e → (t.pc p).Pends e) : WaitsInPend t := by
  obtain ⟨hevent, htbl, hwaits⟩ := hk
  subst hmem
  refine hw.frame h (fun e p hp => hevent ▸ hp) fun e p i _ hi hp ht => ?_
  exact ⟨hpc p e hp, by rw [htbl, hi], hwaits i ht⟩

/-- The current task, outside `OSSemPend`, is on no wait list. -/
lemma WaitsInPend.not_cur (hw : WaitsInPend s) (hnot : ∀ e, ¬ (s.pc p).Pends e) (e : ℕ) :
    ¬ (s.mem.eventTbl e).wait.Mem p :=
  fun hp => hnot e (hw.pc e p hp)

/-- A task that is in `OSSemPend` is so on one semaphore. -/
lemma CallPc.Pends.unique {c : CallPc} {e' : ℕ} (h : c.Pends e) (h' : c.Pends e') : e' = e := by
  rcases h with rfl | rfl
  · simpa [CallPc.Pends, eq_comm] using h'
  · simpa [CallPc.Pends, eq_comm] using h'

/-- A task outside the services is not in `OSSemPend`. -/
@[simp] lemma not_pends_user (e : ℕ) : ¬ (CallPc.sem .user).Pends e := by
  simp [CallPc.Pends]

/-- The places of the other tasks, when the current one, outside `OSSemPend`, goes to another
place. -/
lemma pends_update (hnot : ∀ e, ¬ (s.pc s.mem.prioCur).Pends e) (c : CallPc) (p e : ℕ)
    (h : (s.pc p).Pends e) : (Function.update s.pc s.mem.prioCur c p).Pends e := by
  have hp : p ≠ s.mem.prioCur := by
    rintro rfl
    exact hnot e h
  rwa [Function.update_of_ne hp]

/-- A task is readied by a post. -/
lemma WaitsInPend.post (hw : WaitsInPend s) (h : SysInv cfg s f l)
    (hgrp : (s.mem.eventTbl e).wait.grp ≠ 0)
    (hmem : t.mem = (s.mem.osEventTaskRdy e osStatSem osStatPendOk).1)
    (hpc : ∀ p e, (s.pc p).Pends e → (t.pc p).Pends e) : WaitsInPend t := by
  obtain ⟨p, i, hfirst, hwait, -, htbl, hprio⟩ := h.first_waiting hgrp
  obtain ⟨htouch, -, -, -⟩ := osEventTaskRdy_touches hfirst htbl hprio osStatSem osStatPendOk
  have hwaits := osEventTaskRdy_wait hfirst htbl hprio osStatSem osStatPendOk
  rw [← hmem] at htouch hwaits
  have hne : ∀ e' q, (t.mem.eventTbl e').wait.Mem q → q ≠ p := by
    rintro e' q hq rfl
    rw [hwaits] at hq
    split_ifs at hq with he
    · exact ((PrioBitmap.mem_remove _ _ _).mp hq).1 rfl
    · exact he ((hw.pc e q hwait).unique (hw.pc e' q hq))
  refine hw.frame h (fun e' q hq => htouch.wait e' q (hne e' q hq) hq) fun e' q j hq hj hp ht => ?_
  refine ⟨hpc q e' hp, by rw [htouch.prioTbl, hj], ?_⟩
  rw [htouch.tcb j (by rw [(h.pool.valid q j hj).1]; exact hne e' q hq)]
  exact ht

/-- The current task joins a wait list.

**Proof sketch.** The current task was on no wait list, since it was not in `OSSemPend`. So the new
wait list has it at its place, and the others are as before. -/
lemma WaitsInPend.pend (hw : WaitsInPend s) (h : SysInv cfg s f l)
    (hnot : ∀ e, ¬ (s.pc s.mem.prioCur).Pends e) (timeout : UInt32)
    (ht : t = { s.setPc (.sem (.pendSched e)) with mem := (s.mem.setTcb s.mem.tcbCur
      ⟨(s.mem.block s.mem.tcbCur).stat ||| osStatSem, osStatPendOk, timeout⟩).osEventTaskWait e }) :
    WaitsInPend t := by
  obtain ⟨c, hcur, htbl, hprio⟩ := h.cur
  set b : OsTcb := ⟨(s.mem.block s.mem.tcbCur).stat ||| osStatSem, osStatPendOk, timeout⟩ with hb
  obtain ⟨htouch, htcb, -⟩ := osEventTaskWait_touches (e := e) hcur hprio b
  have hwait : ∀ e', (((s.mem.setTcb s.mem.tcbCur b).osEventTaskWait e).eventTbl e').wait =
      if e' = e then (s.mem.eventTbl e).wait.insert s.mem.prioCur else
        (s.mem.eventTbl e').wait := by
    intro e'
    have hcur' : (s.mem.setTcb (.tcb c) b).tcbCur = .tcb c := hcur
    simp only [hcur, OsMem.osEventTaskWait, hcur', OsMem.block, prio_setTcb, hprio, OsMem.setWait]
    by_cases he : e' = e
    · subst he
      rw [setEvent_self, if_pos rfl]
      rfl
    · rw [setEvent_of_ne _ _ he, if_neg he]
      rfl
  have hcase : ∀ e' q, (((s.mem.setTcb s.mem.tcbCur b).osEventTaskWait e).eventTbl e').wait.Mem q →
      q = s.mem.prioCur ∧ e' = e ∨ q ≠ s.mem.prioCur ∧ (s.mem.eventTbl e').wait.Mem q := by
    intro e' q hq
    by_cases hqc : q = s.mem.prioCur
    · refine Or.inl ⟨hqc, ?_⟩
      rw [hwait] at hq
      split_ifs at hq with he
      · exact he
      · exact absurd (hqc ▸ hq) (hw.not_cur hnot e')
    · exact Or.inr ⟨hqc, htouch.wait e' q hqc hq⟩
  subst ht
  constructor
  · intro e' q hq
    rcases hcase e' q hq with ⟨rfl, rfl⟩ | ⟨hqc, hq'⟩
    · exact Or.inl (Function.update_self _ _ _)
    · exact pends_update hnot _ q e' (hw.pc e' q hq')
  · intro e' q j hq hj
    have hj' : s.mem.tcbPrioTbl q = .tcb j := by
      rw [← htouch.prioTbl]
      exact hj
    rcases hcase e' q hq with ⟨rfl, rfl⟩ | ⟨hqc, hq'⟩
    · rw [htbl] at hj'
      obtain rfl := TcbPtr.tcb.inj hj'
      show (((s.mem.setTcb s.mem.tcbCur b).osEventTaskWait e').tcbTbl c).toOsTcb.Waits
      rw [htcb]
      refine Or.inl ⟨rfl, ?_⟩
      show ((s.mem.block s.mem.tcbCur).stat ||| osStatSem) &&& osStatSem ≠ osStatRdy
      have hand : ((s.mem.block s.mem.tcbCur).stat ||| osStatSem) &&& osStatSem = osStatSem := by
        apply UInt8.toBitVec_inj.mp
        apply BitVec.eq_of_getLsbD_eq
        intro x _
        rw [UInt8.toBitVec_and, UInt8.toBitVec_or, BitVec.getLsbD_and, BitVec.getLsbD_or]
        cases osStatSem.toBitVec.getLsbD x <;> simp
      rw [hand]
      decide
    · show (((s.mem.setTcb s.mem.tcbCur b).osEventTaskWait e).tcbTbl j).toOsTcb.Waits
      rw [htouch.tcb j (by rw [(h.pool.valid q j hj').1]; exact hqc)]
      exact hw.tcb e' q j hq' hj'

/-- The current task takes itself off the wait list, if a post has not done so.

**Proof sketch.** The task is ready and on the TCB list, so its status is `OS_STAT_RDY`: it has
been posted to and is on no wait list, or it has timed out, and is taken off. -/
lemma WaitsInPend.resume (hw : WaitsInPend s) (h : SysInv cfg s f l) (hc : Consistent s l)
    (hrdy : s.mem.rdy.Mem s.mem.prioCur) (hpc : s.pc s.mem.prioCur = .sem (.pendResume e))
    (ht : t = { s.setPc (.sem .user) with mem := (s.mem.osSemPendResume e).1 }) :
    WaitsInPend t := by
  obtain ⟨c, hcur, htbl, hprio⟩ := h.cur
  obtain ⟨htouch, -, -, -⟩ := osSemPendResume_touches hcur hprio e
  have hwait : ∀ e', ((s.mem.osSemPendResume e).1.eventTbl e').wait =
      if (s.mem.tcbTbl c).statPend = osStatPendOk then (s.mem.eventTbl e').wait
      else if e' = e then (s.mem.eventTbl e).wait.remove s.mem.prioCur
      else (s.mem.eventTbl e').wait := by
    intro e'
    have hcur' : (s.mem.osEventTaskRemove (.tcb c) e).tcbCur = .tcb c := hcur
    have hremove : ((s.mem.osEventTaskRemove (.tcb c) e).eventTbl e').wait =
        if e' = e then (s.mem.eventTbl e).wait.remove s.mem.prioCur else
          (s.mem.eventTbl e').wait := by
      simp only [OsMem.osEventTaskRemove, OsMem.setWait, OsMem.block, hprio]
      by_cases he : e' = e
      · subst he
        rw [setEvent_self, if_pos rfl]
      · rw [setEvent_of_ne _ _ he, if_neg he]
    simp only [OsMem.osSemPendResume, hcur, hcur', OsMem.block]
    split_ifs at hremove ⊢ <;> first | rfl | exact hremove
  have hpend : (s.pc s.mem.prioCur).Pends e := Or.inr hpc
  have hne : ∀ e' q, ((s.mem.osSemPendResume e).1.eventTbl e').wait.Mem q → q ≠ s.mem.prioCur := by
    rintro e' q hq rfl
    have hready : (s.mem.tcbTbl c).stat = osStatRdy := by
      obtain ⟨i, hi, hip⟩ := hc.curListed
      obtain rfl := h.pool.prio_inj hi htbl hip
      exact ((hc.agrees i hi).rdy.mp (by rw [hip]; exact hrdy)).1
    rw [hwait] at hq
    split_ifs at hq with hok he
    · -- a task that is ready and on the list has timed out
      rcases hw.tcb e' _ c hq htbl with ⟨-, hsem⟩ | ⟨hto, -, -⟩
      · exact hsem (by rw [hready]; decide)
      · exact absurd (hok.symm.trans hto) (by decide)
    · exact ((PrioBitmap.mem_remove _ _ _).mp hq).1 rfl
    · exact he (hpend.unique (hw.pc e' _ hq))
  subst ht
  refine hw.frame h (fun e' q hq => htouch.wait e' q (hne e' q hq) hq) fun e' q j hq hj hp hwaits =>
    ?_
  have hqc := hne e' q hq
  refine ⟨?_, ?_, ?_⟩
  · show (Function.update s.pc s.mem.prioCur (.sem .user) q).Pends e'
    rwa [Function.update_of_ne hqc]
  · show (s.mem.osSemPendResume e).1.tcbPrioTbl q = _
    rw [htouch.prioTbl, hj]
  · show ((s.mem.osSemPendResume e).1.tcbTbl j).toOsTcb.Waits
    rw [htouch.tcb j (by rw [(h.pool.valid q j hj).1]; exact hqc)]
    exact hwaits

/-- A semaphore service that touches no task. -/
lemma WaitsInPend.quiet (hw : WaitsInPend s) (h : SysInv cfg s f l) {k : OsMem}
    (hk : ∀ p, Touches s.mem k p ∧ k.rdy = s.mem.rdy ∧ k.tcbTbl = s.mem.tcbTbl)
    (hmem : t.mem = k) (hpc : ∀ p e, (s.pc p).Pends e → (t.pc p).Pends e) : WaitsInPend t := by
  subst hmem
  refine hw.frame h (fun e p hp => (hk (p + 1)).1.wait e p (by omega) hp) fun e p i _ hi hp ht => ?_
  refine ⟨hpc p e hp, ?_, ?_⟩
  · rw [(hk 0).1.prioTbl, hi]
  · rw [(hk 0).2.2]
    exact ht

/-- A step of `OSTaskCreate` changes neither the wait lists nor a TCB that is in `OSTCBPrioTbl`. -/
lemma WaitsInPend.making (hw : WaitsInPend s) (h : SysInv cfg s f l) {k : OsMem} {c : CallPc}
    (hnot : ∀ e, ¬ (s.pc s.mem.prioCur).Pends e) (hevent : k.eventTbl = s.mem.eventTbl)
    (hkeep : ∀ p i, s.mem.tcbPrioTbl p = .tcb i →
      k.tcbPrioTbl p = .tcb i ∧ (k.tcbTbl i).toOsTcb = (s.mem.tcbTbl i).toOsTcb) :
    WaitsInPend { s.setPc c with mem := k } := by
  refine hw.frame h (fun e p hp => hevent ▸ hp) fun e p i _ hi hp ht => ?_
  obtain ⟨htbl, htcb⟩ := hkeep p i hi
  exact ⟨pends_update hnot c p e hp, htbl, by
    show (k.tcbTbl i).toOsTcb.Waits
    rw [htcb]
    exact ht⟩

/-- `OS_Sched` ends no wait. -/
lemma waits_osSched (k : OsMem) : k.osSched.eventTbl = k.eventTbl ∧
    k.osSched.tcbPrioTbl = k.tcbPrioTbl ∧
      ∀ i, (k.tcbTbl i).toOsTcb.Waits → (k.osSched.tcbTbl i).toOsTcb.Waits := by
  unfold OsMem.osSched OsMem.switch
  split_ifs <;> exact ⟨rfl, rfl, fun _ h => h⟩

/-- A call of `OSTimeDly` by the current task, which is on no wait list. -/
lemma WaitsInPend.dly (hw : WaitsInPend s) (h : SysInv cfg s f l)
    (huser : s.pc s.mem.prioCur = .sem .user) (ticks : UInt32) :
    WaitsInPend (s.afterCall (s.mem.osTimeDly ticks).1 (s.mem.osTimeDly ticks).2) := by
  obtain ⟨c, hcur, -, hprio⟩ := h.cur
  have hnot : ∀ e, ¬ (s.pc s.mem.prioCur).Pends e := fun e => huser ▸ not_pends_user e
  rcases osTimeDly_cases hcur ticks with hk | ⟨-, -, -, hk⟩
  · rw [hk]
    exact hw
  · rw [hk]
    refine hw.frame h (fun e p hp => hp) fun e p i _ hi hp ht => ?_
    have hne : p ≠ s.mem.prioCur := by
      rintro rfl
      exact hnot e hp
    refine ⟨pends_update hnot _ p e hp, hi, ?_⟩
    have hic : i ≠ c := by
      rintro rfl
      exact hne ((h.pool.valid p i hi).1.symm.trans hprio)
    exact (congrArg (fun b : TcbBlock => b.toOsTcb.Waits) (setTcb_of_ne _ _ hic)).mpr ht

/-- A call of the current task.

**Proof sketch.** A call that changes neither the wait lists nor the table of the priorities keeps
the invariant, if the tasks that wait do so after it. This leaves `OSTaskCreate`, `OSSemPend` and
`OSSemPost`. -/
lemma WaitsInPend.service (hw : WaitsInPend s) (h : SysInv cfg s f l)
    (huser : s.pc s.mem.prioCur = .sem .user) (hstep : serviceStep cfg s a = some t) :
    WaitsInPend t := by
  have hnot : ∀ e, ¬ (s.pc s.mem.prioCur).Pends e := fun e => huser ▸ not_pends_user e
  have hcall : ∀ {k : OsMem} {b : Bool}, (k.eventTbl = s.mem.eventTbl ∧
      k.tcbPrioTbl = s.mem.tcbPrioTbl ∧
      ∀ i, (s.mem.tcbTbl i).toOsTcb.Waits → (k.tcbTbl i).toOsTcb.Waits) →
      WaitsInPend (s.afterCall k b) := by
    intro k b hk
    rw [TaskState.afterCall_eq huser]
    exact hw.mono h hk rfl fun p e hp => pends_update hnot _ p e hp
  cases a with
  | create prio =>
    rcases osTaskCreate_cases cfg s.mem prio with ⟨err, hk⟩ | ⟨-, hnull, hk⟩
    · simp only [serviceStep, hk] at hstep
      obtain rfl := Option.some.inj hstep
      exact hw
    · simp only [serviceStep, hk] at hstep
      obtain rfl := Option.some.inj hstep
      refine hw.making h hnot rfl fun p i hp => ⟨?_, rfl⟩
      show Function.update s.mem.tcbPrioTbl prio .reserved p = .tcb i
      rw [Function.update_of_ne, hp]
      rintro rfl
      rw [hnull] at hp
      cases hp
  | suspend prio =>
    obtain rfl := Option.some.inj hstep
    exact hcall (waits_osTaskSuspend cfg s.mem prio)
  | resume prio =>
    obtain rfl := Option.some.inj hstep
    exact hcall (waits_osTaskResume cfg s.mem prio)
  | dly ticks =>
    obtain rfl := Option.some.inj hstep
    exact hw.dly h huser ticks
  | dlyHmsm hours minutes seconds ms =>
    obtain rfl := Option.some.inj hstep
    rcases osTimeDlyHmsm_cases s.mem hours minutes seconds ms with ⟨err, hk⟩ | hk
    · rw [hk]
      exact hw
    · rw [hk]
      exact hw.dly h huser _
  | timeSet ticks =>
    obtain rfl := Option.some.inj hstep
    exact hw.mono h (k := s.mem.osTimeSet ticks) ⟨rfl, rfl, fun _ h => h⟩ rfl fun _ _ hp => hp
  | lock =>
    obtain rfl := Option.some.inj hstep
    refine hw.mono h (k := s.mem.osSchedLock) ?_ rfl fun _ _ hp => hp
    rcases osSchedLock_cases s.mem with hk | hk
    · rw [hk]
      exact ⟨rfl, rfl, fun _ h => h⟩
    · rw [hk]
      exact ⟨rfl, rfl, fun _ h => h⟩
  | unlock =>
    have hk : s.mem.osSchedUnlock.1.eventTbl = s.mem.eventTbl ∧
        s.mem.osSchedUnlock.1.tcbPrioTbl = s.mem.tcbPrioTbl ∧
        ∀ i, (s.mem.tcbTbl i).toOsTcb.Waits → (s.mem.osSchedUnlock.1.tcbTbl i).toOsTcb.Waits := by
      rcases osSchedUnlock_cases s.mem with hk | ⟨-, hk⟩
      · rw [hk]
        exact ⟨rfl, rfl, fun _ h => h⟩
      · rw [hk]
        exact ⟨rfl, rfl, fun _ h => h⟩
    simp only [serviceStep] at hstep
    split_ifs at hstep
    · obtain rfl := Option.some.inj hstep
      exact hw.mono h hk rfl fun p e hp => pends_update hnot _ p e hp
    · obtain rfl := Option.some.inj hstep
      exact hw.mono h hk rfl fun _ _ hp => hp
  | semCreate cnt =>
    obtain ⟨k, htake, rfl | ⟨e, rfl⟩⟩ := serviceStep_semCreate hstep
    · exact hw.quiet h htake rfl fun _ _ hp => hp
    · exact hw.quiet h htake rfl fun p e' hp => pends_update hnot _ p e' hp
  | accept pevent =>
    obtain rfl := Option.some.inj hstep
    exact hw.quiet h (fun p => osSemAccept_touches s.mem pevent p) rfl fun _ _ hp => hp
  | pend pevent timeout =>
    obtain ⟨k, hk, rfl⟩ | ⟨e, rfl, ht⟩ := serviceStep_pend hstep
    · exact hw.quiet h hk rfl fun _ _ hp => hp
    · exact hw.pend h hnot timeout ht
  | post pevent =>
    obtain ⟨k, hk, rfl⟩ | ⟨e, rfl, hgrp, rfl⟩ := serviceStep_post hstep
    · exact hw.quiet h hk rfl fun _ _ hp => hp
    · exact hw.post h hgrp rfl fun p e hp => pends_update hnot _ p e hp
  | _ => simp [serviceStep] at hstep

/-- The next step of the current task in its call.

**Proof sketch.** A TCB that is being made belongs to no task on a wait list, since it is in
nobody's hands before. The task that comes back from `OSSemPend` is ready, so it is on the wait
list only if it has timed out, and leaves it. -/
lemma WaitsInPend.nextTask (hw : WaitsInPend s) (h : SysInv cfg s f l) (hc : Consistent s l)
    (hint : s.mem.intNesting = 0) (hstep : nextStep s = some t) : WaitsInPend t := by
  unfold nextStep at hstep
  split at hstep
  · cases hstep
  · rename_i p hpc
    have hnot : ∀ e, ¬ (s.pc s.mem.prioCur).Pends e := by simp [hpc, CallPc.Pends]
    split at hstep
    · rename_i k i hk
      obtain rfl := Option.some.inj hstep
      obtain ⟨hfree, rfl⟩ := osTcbInit_eq_some hk
      refine hw.making h hnot rfl fun q j hj => ⟨hj, ?_⟩
      have hji : j ≠ i := by
        rintro rfl
        have hif : j ∈ f := by
          have hf := h.pool.free.head_eq
          rw [hfree] at hf
          exact List.mem_of_mem_head? hf.symm
        rcases (h.pool.valid q j hj).2 with hjl | ⟨r, hr, -⟩
        · exact h.pool.apart j hjl hif
        · exact (h.pool.heldApart r j hr).1 hif
      exact congrArg TcbBlock.toOsTcb (Function.update_of_ne hji _ _)
    · rename_i k hk
      obtain rfl := Option.some.inj hstep
      obtain ⟨-, rfl⟩ := osTcbInit_eq_none hk
      exact hw.making h hnot rfl fun q j hj => ⟨hj, rfl⟩
  · rename_i p i hpc
    obtain rfl := Option.some.inj hstep
    have hres : s.mem.tcbPrioTbl p = .reserved := (h.pool.reserved p).mpr ⟨_, by rw [hpc]; rfl⟩
    refine hw.making h (by simp [hpc, CallPc.Pends]) rfl fun q j hj => ⟨?_, rfl⟩
    show Function.update s.mem.tcbPrioTbl p (.tcb i) q = .tcb j
    rw [Function.update_of_ne, hj]
    rintro rfl
    rw [hres] at hj
    cases hj
  · rename_i p i hpc
    obtain rfl := Option.some.inj hstep
    obtain ⟨tcbTbl, hrest⟩ := osTcbInitLink_rest s.mem i
    obtain ⟨htcb, -, -, -⟩ := osTcbInitLink_links (k := s.mem) (i := i) (by
      rintro head hl rfl
      rw [h.pool.list.head_eq] at hl
      exact (h.pool.heldApart _ head (by rw [hpc]; rfl)).2 (List.mem_of_mem_head? hl))
    refine hw.making h (by simp [hpc, CallPc.Pends]) (by rw [hrest]) fun q j hj => ⟨?_, htcb j⟩
    rw [hrest]
    exact hj
  · rename_i p hpc
    obtain rfl := Option.some.inj hstep
    have hres : s.mem.tcbPrioTbl p = .reserved := (h.pool.reserved p).mpr ⟨_, by rw [hpc]; rfl⟩
    refine hw.making h (by simp [hpc, CallPc.Pends]) rfl fun q j hj => ⟨?_, rfl⟩
    show Function.update s.mem.tcbPrioTbl p .null q = .tcb j
    rw [Function.update_of_ne, hj]
    rintro rfl
    rw [hres] at hj
    cases hj
  · rename_i e cnt hpc
    obtain rfl := Option.some.inj hstep
    exact hw.quiet h (osSemCreateInit_touches s.mem e cnt) rfl fun p e' hp =>
      pends_update (by simp [hpc, CallPc.Pends]) _ p e' hp
  · rename_i hpc
    obtain rfl := Option.some.inj hstep
    exact hw.mono h (waits_osSched s.mem) rfl fun p e hp =>
      pends_update (by simp [hpc, CallPc.Pends]) _ p e hp
  · rename_i e hpc
    obtain rfl := Option.some.inj hstep
    refine hw.mono h (waits_osSched s.mem) rfl fun p e' hp => ?_
    show (Function.update s.pc s.mem.prioCur (.sem (.pendResume e)) p).Pends e'
    by_cases hpcur : p = s.mem.prioCur
    · subst hpcur
      have hpend : (s.pc s.mem.prioCur).Pends e := Or.inl hpc
      rw [Function.update_self, hpend.unique hp]
      exact Or.inr rfl
    · rwa [Function.update_of_ne hpcur]
  · rename_i e hpc
    have hhigh : HighestReady s.mem := h.sched.highest hint (hc.unlocked (Or.inr ⟨e, hpc⟩))
      (by rw [hpc]; simp [CallPc.CallsSched])
    exact hw.resume h hc hhigh.1 hpc (Option.some.inj hstep).symm
  · rename_i e hpc
    obtain rfl := Option.some.inj hstep
    exact hw.mono h (waits_osSched s.mem) rfl fun p e' hp =>
      pends_update (by simp [hpc, CallPc.Pends]) _ p e' hp
  · rename_i e hpc
    obtain rfl := Option.some.inj hstep
    exact hw.mono h (k := s.mem) ⟨rfl, rfl, fun _ h => h⟩ rfl fun p e' hp =>
      pends_update (by simp [hpc, CallPc.Pends]) _ p e' hp
  · rename_i hpc
    obtain rfl := Option.some.inj hstep
    exact hw.mono h (waits_osSched s.mem) rfl fun p e' hp =>
      pends_update (by simp [hpc, CallPc.Pends]) _ p e' hp

/-- A step of an interrupt.

**Proof sketch.** A post takes the first task off the wait list; the other actions change neither
the wait lists nor who waits. -/
lemma WaitsInPend.isr (hw : WaitsInPend s) (h : SysInv cfg s f l) (hint : s.mem.intNesting > 0)
    (hstep : isrStep cfg s a = some t) : WaitsInPend t := by
  have hsched : ∀ {k : OsMem}, (k.eventTbl = s.mem.eventTbl ∧ k.tcbPrioTbl = s.mem.tcbPrioTbl ∧
      ∀ i, (s.mem.tcbTbl i).toOsTcb.Waits → (k.tcbTbl i).toOsTcb.Waits) →
      k.osSched.eventTbl = s.mem.eventTbl ∧ k.osSched.tcbPrioTbl = s.mem.tcbPrioTbl ∧
        ∀ i, (s.mem.tcbTbl i).toOsTcb.Waits → (k.osSched.tcbTbl i).toOsTcb.Waits := by
    intro k hk
    obtain ⟨hevent, htbl, hwaits⟩ := waits_osSched k
    exact ⟨hevent.trans hk.1, htbl.trans hk.2.1, fun i hi => hwaits i (hk.2.2 i hi)⟩
  by_cases hpost : ∃ pevent, a = .isrPost pevent
  · obtain ⟨pevent, rfl⟩ := hpost
    obtain ⟨k, hk, rfl⟩ | ⟨e, rfl, hgrp, rfl⟩ := h.isrStep_post hint hstep
    · exact hw.quiet h hk rfl fun _ _ hp => hp
    · exact hw.post h hgrp rfl fun _ _ hp => hp
  · -- nothing else takes a task off a wait list
    rcases isrStep_cases hstep with
      ⟨k, hk, ht⟩ | ⟨-, rfl⟩ | ⟨i, rest, -, -, ⟨-, rfl⟩ | ⟨-, rfl⟩⟩ | ⟨-, rfl⟩
    · have hwaits : k.eventTbl = s.mem.eventTbl ∧ k.tcbPrioTbl = s.mem.tcbPrioTbl ∧
          ∀ i, (s.mem.tcbTbl i).toOsTcb.Waits → (k.tcbTbl i).toOsTcb.Waits := by
        rcases hk with ⟨pevent, rfl, -⟩ | ⟨prio, -, rfl⟩ | ⟨prio, -, rfl⟩
        · exact absurd ⟨pevent, rfl⟩ hpost
        · exact waits_osTaskSuspend cfg s.mem prio
        · exact waits_osTaskResume cfg s.mem prio
      rcases ht with rfl | rfl
      · exact hw.mono h hwaits rfl fun _ _ hp => hp
      · exact hw.mono h (hsched hwaits) rfl fun _ _ hp => hp
    · exact hw.mono h (k := s.mem.osTimeTick) ⟨rfl, rfl, fun _ h => h⟩ rfl fun _ _ hp => hp
    · exact hw.mono h (waits_osTimeTickTcb s.mem _) rfl fun _ _ hp => hp
    · exact hw.mono h (k := s.mem) ⟨rfl, rfl, fun _ h => h⟩ rfl fun _ _ hp => hp
    · refine hw.mono h (k := s.mem.osIntExit) ?_ rfl fun _ _ hp => hp
      simp only [OsMem.osIntExit, OsMem.switch]
      split_ifs <;> exact ⟨rfl, rfl, fun _ h => h⟩

/-- **A step keeps the wait lists.** -/
theorem WaitsInPend.step (hw : WaitsInPend s) (h : SysInv cfg s f l) (hc : Consistent s l)
    (hstep : osStep cfg s a = some t) : WaitsInPend t := by
  unfold osStep at hstep
  split at hstep
  · split_ifs at hstep
    obtain rfl := Option.some.inj hstep
    refine hw.mono h (k := s.mem.osIntEnter) ?_ rfl fun _ _ hp => hp
    unfold OsMem.osIntEnter
    split_ifs <;> exact ⟨rfl, rfl, fun _ h => h⟩
  all_goals split_ifs at hstep
  all_goals first
    | exact hw.isr h ‹_› hstep
    | exact hw.nextTask h hc ‹_› hstep
    | exact hw.service h (by tauto) hstep

/-! ## Whole runs -/

/-- When multitasking starts no task waits. -/
lemma waiting_taskInit (cfg : OsCfg) (k : OsMem) (calls : List BootCall) :
    WaitsInPend (taskInit cfg k calls) := by
  obtain ⟨f, l, hboot, -⟩ := bootInv_run cfg k calls
  have hno : ∀ e p, ¬ ((osBoot cfg k calls).eventTbl e).wait.Mem p := by
    intro e p
    have hevent : (osBoot cfg k calls).eventTbl =
        (run (bootStep cfg) (k.osInit cfg) calls).eventTbl := by
      unfold osBoot OsMem.osStart
      split_ifs <;> rfl
    rw [hevent, hboot.wait]
    exact PrioBitmap.not_mem_empty p
  exact ⟨fun e p hp => absurd hp (hno e p), fun e p _ hp => absurd hp (hno e p)⟩

/-- What holds after every run of orderly steps. -/
lemma waiting_of_stepsMeet {k : OsMem} {calls : List BootCall} {as : List TaskAction}
    (hmeet : StepsMeet (osStep cfg) Orderly (taskInit cfg k calls) as)
    (hexec : exec (osStep cfg) (taskInit cfg k calls) as = some s) :
    ∃ f l, SysInv cfg s f l ∧ Consistent s l ∧ WaitsInPend s := by
  refine exec_invariant_of_stepsMeet
    (I := fun s => ∃ f l, SysInv cfg s f l ∧ Consistent s l ∧ WaitsInPend s) ?_ ?_ hmeet hexec
  · rintro s a t ⟨f, l, hs, hc, hw⟩ horderly hstep
    obtain ⟨f', l', ht, -, hkeep, -⟩ := hs.step hstep
    exact ⟨f', l', ht, hkeep hc horderly, hw.step hs hc hstep⟩
  · obtain ⟨f, l, hs, hc⟩ := sysInv_taskInit cfg k calls
    exact ⟨f, l, hs, hc, waiting_taskInit cfg k calls⟩

/-- **A task is on a wait list only while it waits there.** After every run that suspends no task
in the window of `OSTaskCreate` and does not call `OSSemPend` with the scheduler locked: the tasks
on the wait list of a semaphore have a TCB and are in `OSSemPend` on that semaphore, none of them
is on another wait list, and none of them is ready unless its timeout has run out. The idle task is
on no wait list.

**Proof sketch.** `WaitsInPend.step` along the run; a task that is ready has the status
`OS_STAT_RDY`. -/
theorem waitLists_of_stepsMeet {k : OsMem} {calls : List BootCall} {as : List TaskAction}
    (hmeet : StepsMeet (osStep cfg) Orderly (taskInit cfg k calls) as)
    (hexec : exec (osStep cfg) (taskInit cfg k calls) as = some s) (e p : ℕ)
    (hwait : (s.mem.eventTbl e).wait.Mem p) :
    (s.pc p).Pends e ∧ p ≠ cfg.taskIdlePrio ∧
      (∀ e', (s.mem.eventTbl e').wait.Mem p → e' = e) ∧
      ∃ i, s.mem.tcbPrioTbl p = .tcb i ∧
        (s.mem.rdy.Mem p → (s.mem.tcbTbl i).statPend = osStatPendTo) := by
  obtain ⟨f, l, hs, hc, hw⟩ := waiting_of_stepsMeet hmeet hexec
  obtain ⟨hidle, i, hi⟩ := hs.sched.waitLive e p hwait
  refine ⟨hw.pc e p hwait, hidle, fun e' he' => (hw.pc e p hwait).unique (hw.pc e' p he'), i, hi,
    fun hrdy => ?_⟩
  rcases hw.tcb e p i hwait hi with ⟨-, hsem⟩ | ⟨hto, -⟩
  · obtain ⟨j, hj, hprio⟩ := hc.rdyListed p hrdy
    obtain rfl := hs.pool.prio_inj hj hi hprio
    rw [((hc.agrees j hj).rdy.mp (by rw [hprio]; exact hrdy)).1] at hsem
    exact absurd (by decide) hsem
  · exact hto

/-- A task waits on the semaphore, and an interrupt comes. -/
def waitRun : List TaskAction := [.pend (some 0) 0, .task, .intEnter, .tick, .tickNext]

/-- The task is in `OSSemPend`. -/
theorem waitLists_waitRun :
    ∃ s, exec (osStep osCfg) (taskInit osCfg OsMem.cleared twoTaskCalls) waitRun = some s ∧
      (s.pc 3).Pends 0 ∧ ∀ e', (s.mem.eventTbl e').wait.Mem 3 → e' = 0 := by
  have hobs : (exec (osStep osCfg) (taskInit osCfg OsMem.cleared twoTaskCalls) waitRun).map
      (fun s => decide ((s.mem.eventTbl 0).wait.Mem 3)) = some true := by decide +kernel
  have hmeets : meets (osStep osCfg) Orderly (taskInit osCfg OsMem.cleared twoTaskCalls)
    waitRun = true := by decide +kernel
  obtain ⟨s, hs, hwait⟩ := Option.map_eq_some_iff.mp hobs
  obtain ⟨hpends, -, hone, -⟩ :=
    waitLists_of_stepsMeet (stepsMeet_of_meets hmeets) hs 0 3 (of_decide_eq_true hwait)
  exact ⟨s, hs, hpends, hone⟩

end

end Kernel
