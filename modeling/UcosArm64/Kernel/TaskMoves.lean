import UcosArm64.Kernel.TcbPool

set_option relaxedAutoImplicit false
set_option autoImplicit false

/-!
# What a service does to a task

Every service touches one task: its ready bit, the status and the delay in its TCB, and its bits in
the wait lists. All other tasks, the links of the lists and the current task stay as they were. For
the task that is touched, the service keeps its ready bit in agreement with its TCB.

## Main definitions

* `Kernel.Touches` — only the task `p` is touched.
* `Kernel.Agrees` — the ready bit of a task agrees with its TCB.

## Main results

* `Kernel.touches_osTaskSuspend`, `Kernel.touches_osTaskResume`, … — each service touches one task.
* `Kernel.agrees_osTaskSuspend`, `Kernel.agrees_osTaskResume`, … — and keeps the agreement.
-/

namespace Kernel

/-- From `k` to `k'` only the task of priority `p` is touched. -/
structure Touches (k k' : OsMem) (p : ℕ) : Prop extends SameLinks k k' where
  running : k'.running = k.running
  prioCur : k'.prioCur = k.prioCur
  tcbCur : k'.tcbCur = k.tcbCur
  intNesting : k'.intNesting = k.intNesting
  lockNesting : k'.lockNesting = k.lockNesting
  rdyValid : k.rdy.Valid → k'.rdy.Valid
  rdy : ∀ q, q ≠ p → (k'.rdy.Mem q ↔ k.rdy.Mem q)
  waitValid : (∀ e, (k.eventTbl e).wait.Valid) → ∀ e, (k'.eventTbl e).wait.Valid
  wait : ∀ e q, q ≠ p → (k'.eventTbl e).wait.Mem q → (k.eventTbl e).wait.Mem q
  tcb : ∀ i, (k.tcbTbl i).prio ≠ p → (k'.tcbTbl i).toOsTcb = (k.tcbTbl i).toOsTcb

/-- The status of a task that waits for nothing but semaphores. -/
def IsTaskStat (stat : UInt8) : Prop :=
  stat = osStatRdy ∨ stat = osStatSem ∨ stat = osStatSuspend ∨ stat = osStatSem ||| osStatSuspend

/-- **The ready bit of the task with the TCB `i` agrees with the TCB**: it is set exactly if the
task is neither waiting nor suspended nor delayed. -/
structure Agrees (k : OsMem) (i : ℕ) : Prop where
  rdy : k.rdy.Mem (k.tcbTbl i).prio ↔ (k.tcbTbl i).stat = osStatRdy ∧ (k.tcbTbl i).dly = 0
  stat : IsTaskStat (k.tcbTbl i).stat

/-! ## Status bytes -/

/-- Bits that are not set are cleared. -/
lemma and_not_of_and_eq_zero {x m : UInt8} (h : x &&& m = 0) : x &&& ~~~m = x := by
  have hx : x &&& (m ||| ~~~m) = (x &&& m) ||| (x &&& ~~~m) :=
    UInt8.toBitVec_inj.mp BitVec.and_or_distrib_left
  rw [UInt8.or_not_self, UInt8.and_neg_one, h, UInt8.zero_or] at hx
  exact hx.symm

section

variable {stat : UInt8}

/-- Setting the bit of a suspension gives a status, and not `OS_STAT_RDY`. -/
lemma IsTaskStat.suspend (h : IsTaskStat stat) :
    IsTaskStat (stat ||| osStatSuspend) ∧ stat ||| osStatSuspend ≠ osStatRdy := by
  unfold IsTaskStat at h ⊢
  rcases h with rfl | rfl | rfl | rfl <;> decide

/-- Clearing the bit of a suspension gives a status. -/
lemma IsTaskStat.resume (h : IsTaskStat stat) :
    IsTaskStat (stat &&& ~~~osStatSuspend) ∧
      (stat &&& ~~~osStatSuspend &&& osStatPendAny = osStatRdy ↔
        stat &&& ~~~osStatSuspend = osStatRdy) := by
  unfold IsTaskStat at h ⊢
  rcases h with rfl | rfl | rfl | rfl <;> decide

/-- Setting the bit of a semaphore gives a status, and not `OS_STAT_RDY`. -/
lemma IsTaskStat.pend (h : IsTaskStat stat) :
    IsTaskStat (stat ||| osStatSem) ∧ stat ||| osStatSem ≠ osStatRdy := by
  unfold IsTaskStat at h ⊢
  rcases h with rfl | rfl | rfl | rfl <;> decide

/-- Clearing the bits of the events gives a status. -/
lemma IsTaskStat.timeout (h : IsTaskStat stat) :
    IsTaskStat (stat &&& ~~~osStatPendAny) ∧
      (stat &&& ~~~osStatPendAny &&& osStatSuspend = osStatRdy ↔
        stat &&& ~~~osStatPendAny = osStatRdy) := by
  unfold IsTaskStat at h ⊢
  rcases h with rfl | rfl | rfl | rfl <;> decide

/-- Clearing the bit of a semaphore gives a status. -/
lemma IsTaskStat.post (h : IsTaskStat stat) :
    IsTaskStat (stat &&& ~~~osStatSem) ∧
      (stat &&& ~~~osStatSem &&& osStatSuspend = osStatRdy ↔ stat &&& ~~~osStatSem =
        osStatRdy) := by
  unfold IsTaskStat at h ⊢
  rcases h with rfl | rfl | rfl | rfl <;> decide

end

section

variable {k k' k₁ k₂ : OsMem} {p i e : ℕ}

/-! ## One task -/

/-- Nothing has been touched. -/
lemma Touches.refl (k : OsMem) (p : ℕ) : Touches k k p where
  toSameLinks := SameLinks.refl k
  running := rfl
  prioCur := rfl
  tcbCur := rfl
  intNesting := rfl
  lockNesting := rfl
  rdyValid h := h
  rdy _ _ := Iff.rfl
  waitValid h := h
  wait _ _ _ h := h
  tcb _ _ := rfl

/-- Two steps that touch the same task. -/
lemma Touches.trans (h : Touches k k₁ p) (h' : Touches k₁ k₂ p) : Touches k k₂ p where
  toSameLinks := h.toSameLinks.trans h'.toSameLinks
  running := h'.running.trans h.running
  prioCur := h'.prioCur.trans h.prioCur
  tcbCur := h'.tcbCur.trans h.tcbCur
  intNesting := h'.intNesting.trans h.intNesting
  lockNesting := h'.lockNesting.trans h.lockNesting
  rdyValid hv := h'.rdyValid (h.rdyValid hv)
  rdy q hq := (h'.rdy q hq).trans (h.rdy q hq)
  waitValid hv := h'.waitValid (h.waitValid hv)
  wait e q hq hm := h.wait e q hq (h'.wait e q hq hm)
  tcb i hi := by
    rw [h'.tcb i (by rwa [h.prio i]), h.tcb i hi]

/-- The TCB that is written. -/
lemma setTcb_self (k : OsMem) (i : ℕ) (t : OsTcb) :
    ((k.setTcb (.tcb i) t).tcbTbl i).toOsTcb = t := by
  simp [OsMem.setTcb, OsMem.setBlock]

/-- The other TCBs. -/
lemma setTcb_of_ne (k : OsMem) {i j : ℕ} (t : OsTcb) (h : j ≠ i) :
    (k.setTcb (.tcb i) t).tcbTbl j = k.tcbTbl j := by
  simp [OsMem.setTcb, OsMem.setBlock, h]

/-- A TCB is written. -/
lemma touches_setTcb (k : OsMem) (i : ℕ) (t : OsTcb) :
    Touches k (k.setTcb (.tcb i) t) (k.tcbTbl i).prio where
  toSameLinks := sameLinks_setTcb k _ t
  running := rfl
  prioCur := rfl
  tcbCur := rfl
  intNesting := rfl
  lockNesting := rfl
  rdyValid h := h
  rdy _ _ := Iff.rfl
  waitValid h := h
  wait _ _ _ h := h
  tcb j hj := by
    rw [setTcb_of_ne]
    rintro rfl
    exact hj rfl

/-- The ready list is written. -/
lemma touches_rdy (k : OsMem) {rdy : PrioBitmap} (hv : k.rdy.Valid → rdy.Valid)
    (hm : ∀ q, q ≠ p → (rdy.Mem q ↔ k.rdy.Mem q)) : Touches k { k with rdy := rdy } p :=
  { Touches.refl k p with
    toSameLinks := ⟨rfl, rfl, rfl, rfl, fun _ => rfl, fun _ => rfl, fun _ => rfl⟩
    rdyValid := hv
    rdy := hm }

/-- Making a task ready touches it. -/
lemma touches_insert (k : OsMem) (p : ℕ) : Touches k { k with rdy := k.rdy.insert p } p :=
  touches_rdy k (fun h => h.insert p) fun q hq => by
    rw [PrioBitmap.mem_insert]
    exact or_iff_right hq

/-- Making a task not ready touches it. -/
lemma touches_remove (k : OsMem) (p : ℕ) : Touches k { k with rdy := k.rdy.remove p } p :=
  touches_rdy k (fun h => h.remove p) fun q hq => by
    rw [PrioBitmap.mem_remove]
    exact and_iff_right hq

/-- The event control block that is written. -/
@[simp] lemma setEvent_self (k : OsMem) (e : ℕ) (ev : EventBlock) :
    (k.setEvent e ev).eventTbl e = ev := by
  simp [OsMem.setEvent]

/-- The other event control blocks. -/
lemma setEvent_of_ne (k : OsMem) {e e' : ℕ} (ev : EventBlock) (h : e' ≠ e) :
    (k.setEvent e ev).eventTbl e' = k.eventTbl e' := by
  simp [OsMem.setEvent, h]

/-- An event control block is written. -/
lemma touches_setEvent (k : OsMem) (e : ℕ) {ev : EventBlock}
    (hv : (k.eventTbl e).wait.Valid → ev.wait.Valid)
    (hm : ∀ q, q ≠ p → ev.wait.Mem q → (k.eventTbl e).wait.Mem q) : Touches k (k.setEvent e ev) p :=
  { Touches.refl k p with
    toSameLinks := ⟨rfl, rfl, rfl, rfl, fun _ => rfl, fun _ => rfl, fun _ => rfl⟩
    waitValid := fun h e' => by
      by_cases he : e' = e
      · subst he
        rw [setEvent_self]
        exact hv (h e')
      · rw [setEvent_of_ne k ev he]
        exact h e'
    wait := fun e' q hq h => by
      by_cases he : e' = e
      · subst he
        rw [setEvent_self] at h
        exact hm q hq h
      · rw [setEvent_of_ne k ev he] at h
        exact h }

/-- A new count touches no task. -/
lemma touches_setCnt (k : OsMem) (e : ℕ) (cnt : UInt16) (p : ℕ) : Touches k (k.setCnt e cnt) p :=
  touches_setEvent k e (fun h => h) fun _ _ h => h

/-- Putting a task on a wait list touches no other. -/
lemma touches_waitInsert (k : OsMem) (e p : ℕ) :
    Touches k (k.setWait e ((k.eventTbl e).wait.insert p)) p :=
  touches_setEvent k e (fun h => h.insert p) fun q hq h => by
    have h' : ((k.eventTbl e).wait.insert p).Mem q := h
    rw [PrioBitmap.mem_insert] at h'
    exact h'.resolve_left hq

/-- Taking a task off a wait list touches no other. -/
lemma touches_waitRemove (k : OsMem) (e q p : ℕ) :
    Touches k (k.setWait e ((k.eventTbl e).wait.remove q)) p :=
  touches_setEvent k e (fun h => h.remove q) fun r _ h => by
    have h' : ((k.eventTbl e).wait.remove q).Mem r := h
    rw [PrioBitmap.mem_remove] at h'
    exact h'.2

/-- The agreement of a task that is not touched. -/
lemma Agrees.of_touches (h : Agrees k i) (ht : Touches k k' p) (hi : (k.tcbTbl i).prio ≠ p) :
    Agrees k' i := by
  have htcb := ht.tcb i hi
  constructor
  · rw [ht.prio i, ht.rdy _ hi, htcb]
    exact h.rdy
  · rw [htcb]
    exact h.stat

/-- The agreement depends on the ready bit and the TCB. -/
lemma Agrees.congr (h : Agrees k i) (hrdy : k'.rdy = k.rdy) (hblock : k'.tcbTbl i = k.tcbTbl i) :
    Agrees k' i := by
  constructor
  · rw [hrdy, hblock]
    exact h.rdy
  · rw [hblock]
    exact h.stat

/-- The agreement after the ready bit and the TCB of the task have been written. -/
lemma agrees_of {t : OsTcb} (ht : (k'.tcbTbl i).toOsTcb = t) (hstat : IsTaskStat t.stat)
    (hrdy : k'.rdy.Mem (k'.tcbTbl i).prio ↔ t.stat = osStatRdy ∧ t.dly = 0) : Agrees k' i := by
  constructor
  · rw [ht]
    exact hrdy
  · rw [ht]
    exact hstat

/-- Writing the data of a TCB leaves the priorities alone. -/
lemma prio_setTcb (k : OsMem) (i : ℕ) (t : OsTcb) (j : ℕ) :
    ((k.setTcb (.tcb i) t).tcbTbl j).prio = (k.tcbTbl j).prio :=
  (sameLinks_setTcb k (.tcb i) t).prio j

/-! ## Suspending and resuming -/

/-- What `OSTaskSuspend` does: nothing, or it takes a task off the ready list and marks it. -/
lemma osTaskSuspend_cases (cfg : OsCfg) (k : OsMem) (prio : ℕ) :
    ((k.osTaskSuspend cfg prio).1 = k ∧ (k.osTaskSuspend cfg prio).2.2 = false) ∨
      ∃ p i, (p = prio ∨ prio = osPrioSelf ∧ p = (k.block k.tcbCur).prio) ∧
        prio ≠ cfg.taskIdlePrio ∧ k.tcbPrioTbl p = .tcb i ∧
        k.osTaskSuspend cfg prio =
          (({ k with rdy := k.rdy.remove (k.tcbTbl i).prio } : OsMem).setTcb
          (.tcb i) { (k.tcbTbl i).toOsTcb with stat := (k.tcbTbl i).stat ||| osStatSuspend },
          .none, decide (p = (k.block k.tcbCur).prio)) := by
  by_cases hidle : prio = cfg.taskIdlePrio
  · left
    simp only [OsMem.osTaskSuspend, if_pos hidle, and_self]
  by_cases hinv : prio ≥ cfg.lowestPrio ∧ prio ≠ osPrioSelf
  · left
    simp only [OsMem.osTaskSuspend, if_neg hidle, if_pos hinv, and_self]
  obtain ⟨p, hp, hself⟩ : ∃ p, p = (if prio = osPrioSelf then (k.block k.tcbCur).prio else prio) ∧
      decide (prio = osPrioSelf ∨ prio = (k.block k.tcbCur).prio) =
        decide (p = (k.block k.tcbCur).prio) := by
    refine ⟨_, rfl, ?_⟩
    split_ifs with h
    · simp [h]
    · simp [h]
  cases htbl : k.tcbPrioTbl p with
  | null =>
    left
    simp only [OsMem.osTaskSuspend, if_neg hidle, if_neg hinv, ← hp, htbl, if_true, and_self]
  | reserved =>
    left
    simp only [OsMem.osTaskSuspend, if_neg hidle, if_neg hinv, ← hp, htbl, if_true, reduceCtorEq,
      if_false, and_self]
  | tcb i =>
    right
    refine ⟨p, i, ?_, hidle, htbl, ?_⟩
    · rw [hp]
      split_ifs with h
      · exact Or.inr ⟨h, rfl⟩
      · exact Or.inl rfl
    · simp only [OsMem.osTaskSuspend, if_neg hidle, if_neg hinv, ← hp, htbl, reduceCtorEq, if_false,
        hself]
      rfl

/-- What `OSTaskResume` does: nothing, or it clears the mark of a suspended task, which becomes
ready if it waits for nothing else. -/
lemma osTaskResume_cases (cfg : OsCfg) (k : OsMem) (prio : ℕ) :
    ((k.osTaskResume cfg prio).1 = k ∧ (k.osTaskResume cfg prio).2.2 = false) ∨
      ∃ i, prio < cfg.lowestPrio ∧ k.tcbPrioTbl prio = .tcb i ∧
        (k.tcbTbl i).stat &&& osStatSuspend ≠ osStatRdy ∧ ∃ k', k' = k.setTcb (.tcb i)
          { (k.tcbTbl i).toOsTcb with stat := (k.tcbTbl i).stat &&& ~~~osStatSuspend } ∧
          if (k.tcbTbl i).stat &&& ~~~osStatSuspend &&& osStatPendAny = osStatRdy ∧
              (k.tcbTbl i).dly = 0 then
            k.osTaskResume cfg prio =
              ({ k' with rdy := k.rdy.insert (k.tcbTbl i).prio }, .none, k.running)
          else k.osTaskResume cfg prio = (k', .none, false) := by
  by_cases hinv : prio ≥ cfg.lowestPrio
  · left
    simp only [OsMem.osTaskResume, if_pos hinv, and_self]
  cases htbl : k.tcbPrioTbl prio with
  | null =>
    left
    simp only [OsMem.osTaskResume, if_neg hinv, htbl, if_true, and_self]
  | reserved =>
    left
    simp only [OsMem.osTaskResume, if_neg hinv, htbl, if_true, reduceCtorEq, if_false, and_self]
  | tcb i =>
    by_cases hsus : (k.tcbTbl i).stat &&& osStatSuspend ≠ osStatRdy
    · refine Or.inr ⟨i, not_le.mp hinv, rfl, hsus, _, rfl, ?_⟩
      split_ifs with hrdy
      · simp only [OsMem.osTaskResume, if_neg hinv, htbl, reduceCtorEq, if_false, OsMem.block,
          if_pos hsus, if_pos hrdy]
        simp only [prio_setTcb]
        rfl
      · simp only [OsMem.osTaskResume, if_neg hinv, htbl, reduceCtorEq, if_false, OsMem.block,
          if_pos hsus, if_neg hrdy]
    · left
      simp only [OsMem.osTaskResume, if_neg hinv, htbl, reduceCtorEq, if_false, OsMem.block,
        if_neg hsus, and_self]

/-- A ready bit and a TCB of the task of priority `p` are written. -/
lemma touches_rdy_setTcb {rdy : PrioBitmap} (hi : (k.tcbTbl i).prio = p) (t : OsTcb)
    (hr : Touches k { k with rdy := rdy } p) :
    Touches k (({ k with rdy := rdy } : OsMem).setTcb (.tcb i) t) p := by
  have ht := touches_setTcb { k with rdy := rdy } i t
  rw [show (({ k with rdy := rdy } : OsMem).tcbTbl i).prio = p from hi] at ht
  exact hr.trans ht

/-- `OSTaskSuspend` touches the task that it suspends. -/
lemma touches_suspend (hi : (k.tcbTbl i).prio = p) (t : OsTcb) :
    Touches k (({ k with rdy := k.rdy.remove (k.tcbTbl i).prio } : OsMem).setTcb (.tcb i) t) p := by
  rw [hi]
  exact touches_rdy_setTcb hi t (touches_remove k p)

/-- A suspended task is not ready. -/
lemma agrees_suspend (h : Agrees k i) :
    Agrees (({ k with rdy := k.rdy.remove (k.tcbTbl i).prio } : OsMem).setTcb (.tcb i)
      { (k.tcbTbl i).toOsTcb with stat := (k.tcbTbl i).stat ||| osStatSuspend }) i := by
  obtain ⟨hstat, hne⟩ := h.stat.suspend
  refine agrees_of (setTcb_self _ i _) hstat ?_
  rw [prio_setTcb]
  show (k.rdy.remove (k.tcbTbl i).prio).Mem (k.tcbTbl i).prio ↔ _
  rw [PrioBitmap.mem_remove]
  exact iff_of_false (fun hr => hr.1 rfl) fun hr => hne hr.1

/-- `OSTaskResume` touches the task that it resumes. -/
lemma touches_resume (hi : (k.tcbTbl i).prio = p) (t : OsTcb) :
    Touches k (k.setTcb (.tcb i) t) p ∧
      Touches k { k.setTcb (.tcb i) t with rdy := k.rdy.insert (k.tcbTbl i).prio } p := by
  have ht := touches_setTcb k i t
  rw [hi] at ht ⊢
  exact ⟨ht, ht.trans (touches_insert (k.setTcb (.tcb i) t) p)⟩

/-- A resumed task is ready if it waits for nothing else. -/
lemma agrees_resume (h : Agrees k i) (hsus : (k.tcbTbl i).stat &&& osStatSuspend ≠ osStatRdy)
    {k' : OsMem} (hk : k' = k.setTcb (.tcb i)
      { (k.tcbTbl i).toOsTcb with stat := (k.tcbTbl i).stat &&& ~~~osStatSuspend }) :
    if (k.tcbTbl i).stat &&& ~~~osStatSuspend &&& osStatPendAny = osStatRdy ∧
        (k.tcbTbl i).dly = 0 then
      Agrees { k' with rdy := k.rdy.insert (k.tcbTbl i).prio } i
    else Agrees k' i := by
  subst hk
  obtain ⟨hstat, hiff⟩ := h.stat.resume
  have hno : ¬ k.rdy.Mem (k.tcbTbl i).prio := fun hr => by
    rw [(h.rdy.mp hr).1] at hsus
    exact hsus (by decide)
  split_ifs with hrdy
  · refine agrees_of (setTcb_self _ i _) hstat ?_
    show (k.rdy.insert (k.tcbTbl i).prio).Mem ((k.setTcb (.tcb i) _).tcbTbl i).prio ↔ _
    rw [prio_setTcb, PrioBitmap.mem_insert]
    exact iff_of_true (Or.inl rfl) ⟨hiff.mp hrdy.1, hrdy.2⟩
  · refine agrees_of (setTcb_self _ i _) hstat ?_
    rw [prio_setTcb]
    exact iff_of_false hno fun hr => hrdy ⟨hiff.mpr hr.1, hr.2⟩

/-! ## Delays and ticks -/

/-- What `OSTimeDly` does: nothing, or it takes the current task off the ready list. -/
lemma osTimeDly_cases (hcur : k.tcbCur = .tcb i) (ticks : UInt32) :
    k.osTimeDly ticks = (k, false) ∨
      k.intNesting = 0 ∧ k.lockNesting = 0 ∧ ticks ≠ 0 ∧ k.osTimeDly ticks =
        (({ k with rdy := k.rdy.remove (k.tcbTbl i).prio } : OsMem).setTcb (.tcb i)
          { (k.tcbTbl i).toOsTcb with dly := ticks }, true) := by
  by_cases hint : k.intNesting > 0
  · left
    simp only [OsMem.osTimeDly, if_pos hint]
  by_cases hlock : k.lockNesting > 0
  · left
    simp only [OsMem.osTimeDly, if_neg hint, if_pos hlock]
  by_cases hticks : ticks > 0
  · refine Or.inr ⟨by omega, by omega, UInt32.pos_iff_ne_zero.mp hticks, ?_⟩
    simp only [OsMem.osTimeDly, if_neg hint, if_neg hlock, if_pos hticks, hcur, OsMem.block]
  · left
    simp only [OsMem.osTimeDly, if_neg hint, if_neg hlock, if_neg hticks]

/-- A delayed task is not ready. -/
lemma agrees_delay (h : Agrees k i) {ticks : UInt32} (hticks : ticks ≠ 0) :
    Agrees (({ k with rdy := k.rdy.remove (k.tcbTbl i).prio } : OsMem).setTcb (.tcb i)
      { (k.tcbTbl i).toOsTcb with dly := ticks }) i := by
  refine agrees_of (setTcb_self _ i _) h.stat ?_
  rw [prio_setTcb]
  show (k.rdy.remove (k.tcbTbl i).prio).Mem (k.tcbTbl i).prio ↔ _
  rw [PrioBitmap.mem_remove]
  exact iff_of_false (fun hr => hr.1 rfl) fun hr => hticks hr.2

/-- `OSTimeDly` returns at once, or touches the current task, which is delayed. -/
lemma osTimeDly_touches (hcur : k.tcbCur = .tcb i) (hi : (k.tcbTbl i).prio = p) (ticks : UInt32) :
    k.osTimeDly ticks = (k, false) ∨ ticks ≠ 0 ∧ ∃ k', k.osTimeDly ticks = (k', true) ∧
      Touches k k' p ∧ (Agrees k i → Agrees k' i) ∧
        (k'.tcbTbl i).toOsTcb = { (k.tcbTbl i).toOsTcb with dly := ticks } := by
  rcases osTimeDly_cases hcur ticks with hk | ⟨-, -, hticks, hk⟩
  · exact Or.inl hk
  · exact Or.inr ⟨hticks, _, hk, touches_suspend hi _, fun h => agrees_delay h hticks,
      setTcb_self _ i _⟩

/-- What a tick does to a TCB: nothing; it counts the delay down; or the delay runs out, and the
task becomes ready unless it is suspended. -/
lemma osTimeTickTcb_cases (k : OsMem) (i : ℕ) :
    (k.tcbTbl i).dly = 0 ∧ k.osTimeTickTcb i = k ∨
      (k.tcbTbl i).dly ≠ 0 ∧ (k.tcbTbl i).dly - 1 ≠ 0 ∧ k.osTimeTickTcb i = k.setTcb (.tcb i)
        { (k.tcbTbl i).toOsTcb with dly := (k.tcbTbl i).dly - 1 } ∨
      (k.tcbTbl i).dly ≠ 0 ∧ (k.tcbTbl i).dly - 1 = 0 ∧ ∃ t : OsTcb, t.dly = 0 ∧
        t.stat = (k.tcbTbl i).stat &&& ~~~osStatPendAny ∧
        t.statPend = (if (k.tcbTbl i).stat &&& osStatPendAny ≠ osStatRdy then osStatPendTo
          else osStatPendOk) ∧
        k.osTimeTickTcb i = if t.stat &&& osStatSuspend = osStatRdy then
          { k.setTcb (.tcb i) t with rdy := k.rdy.insert (k.tcbTbl i).prio }
        else k.setTcb (.tcb i) t := by
  by_cases hdly : (k.tcbTbl i).dly = 0
  · left
    refine ⟨hdly, ?_⟩
    simp only [OsMem.osTimeTickTcb, hdly, ne_eq, not_true_eq_false, if_false]
  right
  by_cases hlast : (k.tcbTbl i).dly - 1 = 0
  · right
    refine ⟨hdly, hlast, ?_⟩
    by_cases hpend : (k.tcbTbl i).stat &&& osStatPendAny ≠ osStatRdy
    · refine ⟨⟨(k.tcbTbl i).stat &&& ~~~osStatPendAny, osStatPendTo, 0⟩, rfl, rfl, ?_, ?_⟩
      · rw [if_pos hpend]
      · simp only [OsMem.osTimeTickTcb, hdly, ne_eq, not_false_eq_true, if_true, hlast, hpend,
          prio_setTcb]
        rfl
    · refine ⟨⟨(k.tcbTbl i).stat &&& ~~~osStatPendAny, osStatPendOk, 0⟩, rfl, rfl, ?_, ?_⟩
      · rw [if_neg hpend]
      · have hstat : (k.tcbTbl i).stat &&& ~~~osStatPendAny = (k.tcbTbl i).stat :=
          and_not_of_and_eq_zero (not_not.mp hpend)
        simp only [OsMem.osTimeTickTcb, hdly, ne_eq, not_false_eq_true, if_true, hlast, hpend,
          prio_setTcb, hstat]
        rfl
  · left
    refine ⟨hdly, hlast, ?_⟩
    simp only [OsMem.osTimeTickTcb, hdly, ne_eq, not_false_eq_true, if_true, hlast, if_false]

/-- A tick touches the task whose TCB it visits. -/
lemma touches_osTimeTickTcb (k : OsMem) (i : ℕ) :
    Touches k (k.osTimeTickTcb i) (k.tcbTbl i).prio := by
  rcases osTimeTickTcb_cases k i with ⟨-, hk⟩ | ⟨-, -, hk⟩ | ⟨-, -, t, -, -, -, hk⟩
  · rw [hk]
    exact Touches.refl k _
  · rw [hk]
    exact touches_setTcb k i _
  · rw [hk]
    obtain ⟨h₁, h₂⟩ := touches_resume (k := k) (i := i) rfl t
    split_ifs
    · exact h₂
    · exact h₁

/-- After a tick the ready list agrees with the TCB that it has visited. -/
lemma agrees_osTimeTickTcb (h : Agrees k i) : Agrees (k.osTimeTickTcb i) i := by
  rcases osTimeTickTcb_cases k i with ⟨-, hk⟩ | ⟨hdly, hdly', hk⟩ | ⟨hdly, -, t, htdly,
    htstat, -, hk⟩
  · rw [hk]
    exact h
  · rw [hk]
    refine agrees_of (setTcb_self _ i _) h.stat ?_
    rw [prio_setTcb]
    exact iff_of_false (fun hr => hdly (h.rdy.mp hr).2) fun hr => hdly' hr.2
  · obtain ⟨hstat, hiff⟩ := h.stat.timeout
    rw [← htstat] at hstat hiff
    rw [hk]
    split_ifs with hsus
    · refine agrees_of (setTcb_self _ i _) hstat ?_
      show (k.rdy.insert (k.tcbTbl i).prio).Mem ((k.setTcb (.tcb i) _).tcbTbl i).prio ↔ _
      rw [prio_setTcb, PrioBitmap.mem_insert]
      exact iff_of_true (Or.inl rfl) ⟨hiff.mp hsus, htdly⟩
    · refine agrees_of (setTcb_self _ i _) hstat ?_
      rw [prio_setTcb]
      exact iff_of_false (fun hr => hdly (h.rdy.mp hr).2) fun hr => hsus (hiff.mpr hr.1)

/-! ## Semaphores -/

/-- What `OS_EventTaskRdy` does to the task that it readies. -/
lemma osEventTaskRdy_touches (hp : (k.eventTbl e).wait.first osUnMap = p)
    (htbl : k.tcbPrioTbl p = .tcb i) (hi : (k.tcbTbl i).prio = p) (msk pendStat : UInt8) :
    Touches k (k.osEventTaskRdy e msk pendStat).1 p ∧ (k.osEventTaskRdy e msk pendStat).2 = p ∧
      ((k.osEventTaskRdy e msk pendStat).1.tcbTbl i).toOsTcb =
        ⟨(k.tcbTbl i).stat &&& ~~~msk, pendStat, 0⟩ ∧
      (k.osEventTaskRdy e msk pendStat).1.rdy =
        if (k.tcbTbl i).stat &&& ~~~msk &&& osStatSuspend = osStatRdy then k.rdy.insert p
        else k.rdy := by
  set t : OsTcb := ⟨(k.tcbTbl i).stat &&& ~~~msk, pendStat, 0⟩ with ht
  have hk : k.osEventTaskRdy e msk pendStat =
      ((if t.stat &&& osStatSuspend = osStatRdy then
          ({ k.setTcb (.tcb i) t with rdy := k.rdy.insert p } : OsMem)
        else k.setTcb (.tcb i) t).setWait e ((k.eventTbl e).wait.remove p), p) := by
    simp only [OsMem.osEventTaskRdy, hp, htbl, OsMem.osEventTaskRemove, OsMem.block]
    split_ifs
    · simp only [prio_setTcb, hi]
      rfl
    · simp only [prio_setTcb, hi]
      rfl
  obtain ⟨h₁, h₂⟩ := touches_resume (k := k) hi t
  rw [hi] at h₂
  rw [hk]
  split_ifs with hsus
  · exact ⟨h₂.trans (touches_waitRemove _ e p p), rfl, setTcb_self k i t, rfl⟩
  · exact ⟨h₁.trans (touches_waitRemove _ e p p), rfl, setTcb_self k i t, rfl⟩

/-- `OS_EventTaskRdy` takes the task off the one wait list. -/
lemma osEventTaskRdy_wait (hfirst : (k.eventTbl e).wait.first osUnMap = p)
    (htbl : k.tcbPrioTbl p = .tcb i) (hprio : (k.tcbTbl i).prio = p)
    (msk pendStat : UInt8) (e' : ℕ) :
    ((k.osEventTaskRdy e msk pendStat).1.eventTbl e').wait =
      if e' = e then (k.eventTbl e).wait.remove p else (k.eventTbl e').wait := by
  simp only [OsMem.osEventTaskRdy, hfirst, htbl, OsMem.osEventTaskRemove, OsMem.setWait]
  by_cases he : e' = e
  · subst he
    rw [setEvent_self, if_pos rfl]
    split_ifs
    · simp only [OsMem.block, prio_setTcb, hprio]
      rfl
    · simp only [OsMem.block, prio_setTcb, hprio]
      rfl
  · rw [setEvent_of_ne _ _ he, if_neg he]
    split_ifs <;> rfl

/-- After `OS_EventTaskRdy` the ready list agrees with the TCB of the task that it has taken. -/
lemma agrees_osEventTaskRdy (h : Agrees k i) (hp : (k.eventTbl e).wait.first osUnMap = p)
    (htbl : k.tcbPrioTbl p = .tcb i) (hi : (k.tcbTbl i).prio = p) (pendStat : UInt8) :
    Agrees (k.osEventTaskRdy e osStatSem pendStat).1 i := by
  obtain ⟨htouch, -, ht, hrdy⟩ := osEventTaskRdy_touches hp htbl hi osStatSem pendStat
  obtain ⟨hstat, hiff⟩ := h.stat.post
  refine agrees_of ht hstat ?_
  rw [htouch.prio, hi, hrdy]
  split_ifs with hsus
  · rw [PrioBitmap.mem_insert]
    exact iff_of_true (Or.inl rfl) ⟨hiff.mp hsus, rfl⟩
  · refine iff_of_false (fun hr => ?_) fun hr => hsus (hiff.mpr hr.1)
    rw [← hi] at hr
    refine hsus ?_
    rw [(h.rdy.mp hr).1]
    decide

/-- What `OSSemPend` does up to its call of `OS_Sched`: it returns, or the current task waits. -/
lemma osSemPend_outcomes (k : OsMem) (pevent : Option ℕ) (timeout : UInt32) :
    (∃ err, (k.osSemPend pevent timeout).2 = some err ∧
        ∀ p, Touches k (k.osSemPend pevent timeout).1 p ∧
          (k.osSemPend pevent timeout).1.rdy = k.rdy ∧
          (k.osSemPend pevent timeout).1.tcbTbl = k.tcbTbl) ∨
      ∃ e, pevent = some e ∧ k.intNesting = 0 ∧ k.osSemPend pevent timeout =
        ((k.setTcb k.tcbCur ⟨(k.block k.tcbCur).stat ||| osStatSem, osStatPendOk,
          timeout⟩).osEventTaskWait e, none) := by
  cases pevent with
  | none => exact Or.inl ⟨_, rfl, fun p => ⟨Touches.refl k p, rfl, rfl⟩⟩
  | some e =>
    by_cases htype : (k.eventTbl e).type ≠ .sem
    · have hk : k.osSemPend (some e) timeout = (k, some .eventType) := by
        simp only [OsMem.osSemPend, if_pos htype]
      rw [hk]
      exact Or.inl ⟨_, rfl, fun p => ⟨Touches.refl k p, rfl, rfl⟩⟩
    by_cases hint : k.intNesting > 0
    · have hk : k.osSemPend (some e) timeout = (k, some .pendIsr) := by
        simp only [OsMem.osSemPend, if_neg htype, if_pos hint]
      rw [hk]
      exact Or.inl ⟨_, rfl, fun p => ⟨Touches.refl k p, rfl, rfl⟩⟩
    by_cases hcnt : (k.eventTbl e).cnt > 0
    · have hk : k.osSemPend (some e) timeout =
          (k.setCnt e ((k.eventTbl e).cnt - 1), some .none) := by
        simp only [OsMem.osSemPend, if_neg htype, if_neg hint, if_pos hcnt]
      rw [hk]
      exact Or.inl ⟨_, rfl, fun p => ⟨touches_setCnt k e _ p, rfl, rfl⟩⟩
    · right
      refine ⟨e, rfl, by omega, ?_⟩
      simp only [OsMem.osSemPend, if_neg htype, if_neg hint, if_neg hcnt]

/-- The current task joins a wait list. -/
lemma osEventTaskWait_touches (hcur : k.tcbCur = .tcb i) (hi : (k.tcbTbl i).prio = p) (t : OsTcb) :
    Touches k ((k.setTcb k.tcbCur t).osEventTaskWait e) p ∧
      (((k.setTcb k.tcbCur t).osEventTaskWait e).tcbTbl i).toOsTcb = t ∧
      ((k.setTcb k.tcbCur t).osEventTaskWait e).rdy = k.rdy.remove p := by
  have hcur' : (k.setTcb (.tcb i) t).tcbCur = .tcb i := hcur
  have h₁ := touches_setTcb k i t
  rw [hi] at h₁
  simp only [hcur, OsMem.osEventTaskWait, hcur', OsMem.block, prio_setTcb, hi]
  exact ⟨(h₁.trans (touches_waitInsert _ e p)).trans (touches_remove _ p), setTcb_self k i t, rfl⟩

/-- After `OS_EventTaskWait` the ready list agrees with the TCB of the current task. -/
lemma agrees_osEventTaskWait (h : Agrees k i) (hcur : k.tcbCur = .tcb i)
    (hi : (k.tcbTbl i).prio = p) (timeout : UInt32) :
    Agrees ((k.setTcb k.tcbCur ⟨(k.block k.tcbCur).stat ||| osStatSem, osStatPendOk,
      timeout⟩).osEventTaskWait e) i := by
  obtain ⟨htouch, ht, hrdy⟩ := osEventTaskWait_touches (e := e) hcur hi
    ⟨(k.block k.tcbCur).stat ||| osStatSem, osStatPendOk, timeout⟩
  rw [hcur] at ht ⊢
  obtain ⟨hstat, hne⟩ := h.stat.pend
  rw [hcur] at htouch hrdy
  refine agrees_of ht hstat ?_
  rw [hrdy, htouch.prio, hi, PrioBitmap.mem_remove]
  exact iff_of_false (fun hr => hr.1 rfl) fun hr => hne hr.1

/-- The end of `OSSemPend` writes the TCB of the current task, and may take it off the wait list. -/
lemma osSemPendResume_touches (hcur : k.tcbCur = .tcb i) (hi : (k.tcbTbl i).prio = p) (e : ℕ) :
    Touches k (k.osSemPendResume e).1 p ∧ (k.osSemPendResume e).1.rdy = k.rdy ∧
      ((k.osSemPendResume e).1.tcbTbl i).stat =
        (k.tcbTbl i).stat &&& ~~~(osStatSem ||| osStatPendAny) ∧
      ((k.osSemPendResume e).1.tcbTbl i).dly = (k.tcbTbl i).dly := by
  have h₁ : ∀ t, Touches k (k.setTcb (.tcb i) t) p := by
    intro t
    rw [← hi]
    exact touches_setTcb k i t
  have h₂ : ∀ t, Touches k ((k.osEventTaskRemove (.tcb i) e).setTcb (.tcb i) t) p := by
    intro t
    have hr := touches_waitRemove k e (k.tcbTbl i).prio p
    have ht := touches_setTcb (k.osEventTaskRemove (.tcb i) e) i t
    rw [show ((k.osEventTaskRemove (.tcb i) e).tcbTbl i).prio = p from hi] at ht
    exact hr.trans ht
  have hcur' : (k.osEventTaskRemove (.tcb i) e).tcbCur = .tcb i := hcur
  simp only [OsMem.osSemPendResume, hcur, hcur', OsMem.block]
  split_ifs
  · exact ⟨h₁ _, rfl, by rw [setTcb_self], by rw [setTcb_self]⟩
  · exact ⟨h₂ _, rfl, by rw [setTcb_self], by rw [setTcb_self]⟩
  · exact ⟨h₂ _, rfl, by rw [setTcb_self], by rw [setTcb_self]⟩

/-- The current task is ready at the end of `OSSemPend`, and so its status is cleared already. -/
lemma agrees_osSemPendResume (h : Agrees k i) (hcur : k.tcbCur = .tcb i)
    (hi : (k.tcbTbl i).prio = p) (hrdy : k.rdy.Mem p) (e : ℕ) :
    Agrees (k.osSemPendResume e).1 i := by
  obtain ⟨htouch, hrdy', hstat, hdly⟩ := osSemPendResume_touches hcur hi e
  have hs : (k.tcbTbl i).stat = osStatRdy := by
    rw [← hi] at hrdy
    exact (h.rdy.mp hrdy).1
  have hstat' : ((k.osSemPendResume e).1.tcbTbl i).stat = (k.tcbTbl i).stat := by
    rw [hstat, hs]
    decide
  constructor
  · rw [htouch.prio, hrdy', hstat', hdly]
    exact h.rdy
  · rw [hstat']
    exact h.stat

/-- What `OSSemPost` does up to its call of `OS_Sched`: it readies the first task that waits, or it
returns. -/
lemma osSemPost_outcomes (k : OsMem) (pevent : Option ℕ) :
    (∃ err, (k.osSemPost pevent).2 = .returned err ∧
        ∀ p, Touches k (k.osSemPost pevent).1 p ∧ (k.osSemPost pevent).1.rdy = k.rdy ∧
          (k.osSemPost pevent).1.tcbTbl = k.tcbTbl) ∨
      ∃ e, pevent = some e ∧ (k.eventTbl e).wait.grp ≠ 0 ∧ k.osSemPost pevent =
        ((k.osEventTaskRdy e osStatSem osStatPendOk).1,
          .readied (k.osEventTaskRdy e osStatSem osStatPendOk).2) := by
  cases pevent with
  | none => exact Or.inl ⟨_, rfl, fun p => ⟨Touches.refl k p, rfl, rfl⟩⟩
  | some e =>
    by_cases htype : (k.eventTbl e).type ≠ .sem
    · have hk : k.osSemPost (some e) = (k, .returned .eventType) := by
        simp only [OsMem.osSemPost, if_pos htype]
      rw [hk]
      exact Or.inl ⟨_, rfl, fun p => ⟨Touches.refl k p, rfl, rfl⟩⟩
    by_cases hgrp : (k.eventTbl e).wait.grp ≠ 0
    · right
      refine ⟨e, rfl, hgrp, ?_⟩
      simp only [OsMem.osSemPost, if_neg htype, if_pos hgrp]
    by_cases hcnt : (k.eventTbl e).cnt < 0xFFFF
    · have hk : k.osSemPost (some e) =
          (k.setCnt e ((k.eventTbl e).cnt + 1), .returned .none) := by
        simp only [OsMem.osSemPost, if_neg htype, if_neg hgrp, if_pos hcnt]
      rw [hk]
      exact Or.inl ⟨_, rfl, fun p => ⟨touches_setCnt k e _ p, rfl, rfl⟩⟩
    · have hk : k.osSemPost (some e) = (k, .returned .semOvf) := by
        simp only [OsMem.osSemPost, if_neg htype, if_neg hgrp, if_neg hcnt]
      rw [hk]
      exact Or.inl ⟨_, rfl, fun p => ⟨Touches.refl k p, rfl, rfl⟩⟩

/-- `OSSemAccept` touches no task. -/
lemma osSemAccept_touches (k : OsMem) (pevent : Option ℕ) (p : ℕ) :
    Touches k (k.osSemAccept pevent).1 p ∧ (k.osSemAccept pevent).1.rdy = k.rdy ∧
      (k.osSemAccept pevent).1.tcbTbl = k.tcbTbl := by
  cases pevent with
  | none => exact ⟨Touches.refl k p, rfl, rfl⟩
  | some e =>
    simp only [OsMem.osSemAccept]
    split_ifs with htype hcnt
    · exact ⟨Touches.refl k p, rfl, rfl⟩
    · exact ⟨touches_setCnt k e _ p, rfl, rfl⟩
    · exact ⟨Touches.refl k p, rfl, rfl⟩

/-- What `OSSemCreate` does in its critical section: it returns at once, or takes the first block
off the list of the free ones. -/
lemma osSemCreateTake_cases (k : OsMem) :
    (k.intNesting > 0 ∨ k.eventFreeList = none) ∧ k.osSemCreateTake = (k, none) ∨
      ∃ e, k.eventFreeList = some e ∧
        k.osSemCreateTake = ({ k with eventFreeList := (k.eventTbl e).ptr }, some e) := by
  unfold OsMem.osSemCreateTake
  split_ifs with hint
  · exact Or.inl ⟨Or.inl hint, rfl⟩
  · cases hfree : k.eventFreeList with
    | none => exact Or.inl ⟨Or.inr rfl, rfl⟩
    | some e => exact Or.inr ⟨e, rfl, rfl⟩

/-- The critical section of `OSSemCreate` touches no task. -/
lemma osSemCreateTake_touches (k : OsMem) (p : ℕ) :
    Touches k k.osSemCreateTake.1 p ∧ k.osSemCreateTake.1.rdy = k.rdy ∧
      k.osSemCreateTake.1.tcbTbl = k.tcbTbl := by
  rcases osSemCreateTake_cases k with ⟨-, hk⟩ | ⟨e, -, hk⟩
  · rw [hk]
    exact ⟨Touches.refl k p, rfl, rfl⟩
  · rw [hk]
    exact ⟨{ Touches.refl k p with
      toSameLinks := ⟨rfl, rfl, rfl, rfl, fun _ => rfl, fun _ => rfl, fun _ => rfl⟩ }, rfl, rfl⟩

/-- The end of `OSSemCreate` touches no task: nobody waits for a new semaphore. -/
lemma osSemCreateInit_touches (k : OsMem) (e : ℕ) (cnt : UInt16) (p : ℕ) :
    Touches k (k.osSemCreateInit e cnt) p ∧ (k.osSemCreateInit e cnt).rdy = k.rdy ∧
      (k.osSemCreateInit e cnt).tcbTbl = k.tcbTbl := by
  refine ⟨touches_setEvent k e ?_ ?_, rfl, rfl⟩
  · exact fun _ => PrioBitmap.valid_empty
  · exact fun q _ hq => absurd hq (PrioBitmap.not_mem_empty q)

/-- `OSSemCreate` touches no task. -/
lemma osSemCreate_touches (k : OsMem) (cnt : UInt16) (p : ℕ) :
    Touches k (k.osSemCreate cnt).1 p ∧ (k.osSemCreate cnt).1.rdy = k.rdy ∧
      (k.osSemCreate cnt).1.tcbTbl = k.tcbTbl := by
  obtain ⟨htake, hrdy, htbl⟩ := osSemCreateTake_touches k p
  rw [OsMem.osSemCreate_eq]
  generalize k.osSemCreateTake = r at htake hrdy htbl
  obtain ⟨k', _ | e⟩ := r
  · exact ⟨htake, hrdy, htbl⟩
  · obtain ⟨hinit, hrdy', htbl'⟩ := osSemCreateInit_touches k' e cnt p
    exact ⟨htake.trans hinit, hrdy'.trans hrdy, htbl'.trans htbl⟩

end

end Kernel
