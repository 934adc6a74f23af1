import UcosArm64.Kernel.WaitLists

set_option relaxedAutoImplicit false
set_option autoImplicit false

/-!
# How long a delay lasts

`OSTimeDly` counts in the TCB of the caller, and every `OSTimeTick` on its way along the TCB list
counts it down by one. Other tasks and nested interrupts run in between, create tasks, which are
put before the others in the list, and interrupt the ticks themselves; a delay lasts for the ticks
it asks for nevertheless.

## Main definitions

* `Kernel.TickVisits`, `Kernel.visits` — the visits of ticks to a TCB.
* `Kernel.Delayed` — a task in the delay of `OSTimeDly`.
* `Kernel.ahead` — the ticks in progress that will still visit a TCB.

## Main results

* `Kernel.Delayed.step` — a delayed task stays delayed, up to its last visit.
* `Kernel.ahead_step` — every tick visits every TCB once.
* `Kernel.timeDly_exact`, `Kernel.timeDlyHmsm_exact` — a delay is neither shorter nor longer than
  it should be.
-/

namespace Kernel

open Transition

/-- A tick counts at the TCB `i`. -/
def TickVisits (i : ℕ) (s : TaskState) (a : TaskAction) : Prop :=
  a = .tickNext ∧ s.walk.head? = some i

instance (i : ℕ) (s : TaskState) (a : TaskAction) : Decidable (TickVisits i s a) :=
  inferInstanceAs (Decidable (_ ∧ _))

/-- The number of visits of ticks to the TCB `i` on a run. -/
def visits (cfg : OsCfg) (i : ℕ) (s : TaskState) (as : List TaskAction) : ℕ :=
  countSteps (osStep cfg) (TickVisits i) s as

/-- **The task `p`, with the TCB `i`, is delayed** for `n` visits more: it is about to call
`OS_Sched` in `OSTimeDly`, or has been switched out before or in this call. -/
structure Delayed (s : TaskState) (i p n : ℕ) : Prop where
  pos : 0 < n
  prio : (s.mem.tcbTbl i).prio = p
  dly : (s.mem.tcbTbl i).dly.toNat = n
  pc : s.pc p = .sched ∨ s.pc p = .sem .user
  cur : s.mem.prioCur = p → s.pc p = .sched ∧ s.mem.lockNesting = 0

/-- The number of ticks in progress that stand before the TCB `i` in the list `l`, or at it. -/
def ahead (l : List ℕ) (i : ℕ) (walk : List ℕ) : ℕ := walk.countP fun w => l.idxOf w ≤ l.idxOf i

section

variable {cfg : OsCfg} {s t : TaskState} {a : TaskAction} {f l : List ℕ} {i p n : ℕ}

/-! ## The places of the tasks -/

/-- An interrupt leaves every task at its place, and the lock of the scheduler as it is. -/
lemma isrStep_frame (hstep : isrStep cfg s a = some t) :
    t.pc = s.pc ∧ t.mem.lockNesting = s.mem.lockNesting := by
  refine ⟨isrStep_pc hstep, ?_⟩
  by_cases ha : a = .intExit
  · subst ha
    simp only [isrStep] at hstep
    split_ifs at hstep
    obtain rfl := Option.some.inj hstep
    show s.mem.osIntExit.lockNesting = _
    simp only [OsMem.osIntExit, OsMem.switch]
    split_ifs <;> rfl
  · exact congrArg Prod.snd (isrStep_nesting hstep ha)

/-- A call of the current task leaves the other tasks at their places. -/
lemma serviceStep_pc (hstep : serviceStep cfg s a = some t) (hp : p ≠ s.mem.prioCur) :
    t.pc p = s.pc p := by
  rcases (serviceStep_place hstep).2 with hpc | ⟨c, hpc, -⟩
  · rw [hpc]
  · rw [hpc, Function.update_of_ne hp]

/-- The next step of the current task leaves the other tasks at their places. -/
lemma nextStep_pc (hstep : nextStep s = some t) (hp : p ≠ s.mem.prioCur) : t.pc p = s.pc p := by
  obtain ⟨-, c, hpc, -⟩ := nextStep_place hstep
  rw [hpc, Function.update_of_ne hp]

/-- A step that is not one of the current task, or one at a place where the task calls no service,
moves no task and keeps the lock; the others leave all tasks but the current one at their
places. -/
lemma osStep_frame (hstep : osStep cfg s a = some t) :
    (t.pc = s.pc ∧ t.mem.lockNesting = s.mem.lockNesting) ∨
      s.mem.intNesting = 0 ∧ (∀ p, p ≠ s.mem.prioCur → t.pc p = s.pc p) ∧
        (nextStep s = some t ∨ s.pc s.mem.prioCur = .sem .user) := by
  unfold osStep at hstep
  split at hstep
  · split_ifs at hstep
    obtain rfl := Option.some.inj hstep
    refine Or.inl ⟨rfl, ?_⟩
    show s.mem.osIntEnter.lockNesting = _
    unfold OsMem.osIntEnter
    split_ifs <;> rfl
  all_goals split_ifs at hstep with hcond
  all_goals first
    | exact Or.inl (isrStep_frame hstep)
    | exact Or.inr ⟨hcond, fun _ hp => nextStep_pc hstep hp, Or.inl hstep⟩
    | exact Or.inr ⟨hcond.1, fun _ hp => serviceStep_pc hstep hp, Or.inr hcond.2.2⟩

/-! ## The delayed task -/

/-- A step leaves the status and the delay of a task alone, or touches this task. -/
lemma SysInv.listed_step (h : SysInv cfg s f l) (hstep : osStep cfg s a = some t) (hi : i ∈ l) :
    (t.mem.tcbTbl i).prio = (s.mem.tcbTbl i).prio ∧
      ((t.mem.tcbTbl i).toOsTcb = (s.mem.tcbTbl i).toOsTcb ∨ ∃ q, TouchEffect cfg s a t l q i) := by
  obtain ⟨-, heffect⟩ := h.effect hstep
  cases heffect with
  | touch q j ht =>
    refine ⟨ht.touches.prio i, ?_⟩
    by_cases hq : (s.mem.tcbTbl i).prio = q
    · obtain rfl := h.pool.prio_inj hi ht.tbl hq
      exact Or.inr ⟨q, ht⟩
    · exact Or.inl (ht.touches.tcb i hq)
  | control ht =>
    rw [ht.tcbTbl]
    exact ⟨rfl, Or.inl rfl⟩
  | reserve q hq hnull hpc ht | takeNone q hpc ht | enter q j hpc ht | fail q hpc ht =>
    subst ht
    exact ⟨rfl, Or.inl rfl⟩
  | take q j k hpc hk ht =>
    obtain ⟨hfree, hk'⟩ := osTcbInit_eq_some hk
    have hij : i ≠ j := by
      rintro rfl
      have hhead := h.pool.free.head_eq
      rw [hfree] at hhead
      exact h.pool.apart i hi (List.mem_of_mem_head? hhead.symm)
    have hsame : t.mem.tcbTbl i = s.mem.tcbTbl i := by
      rw [ht, hk']
      exact Function.update_of_ne hij _ _
    rw [hsame]
    exact ⟨rfl, Or.inl rfl⟩
  | link q j hpc ht =>
    subst ht
    obtain ⟨htcb, hprio, -, -⟩ := osTcbInitLink_links (k := s.mem) (i := j) (by
      rintro head hl rfl
      rw [h.pool.list.head_eq] at hl
      exact (h.pool.heldApart _ head (by rw [hpc]; rfl)).2 (List.mem_of_mem_head? hl))
    exact ⟨hprio i, Or.inl (htcb i)⟩

/-- What a tick does at the TCB that it visits. -/
lemma TickVisits.step (hvisit : TickVisits i s a) (hidle : (s.mem.tcbTbl i).prio ≠ cfg.taskIdlePrio)
    (hstep : osStep cfg s a = some t) : t.mem = s.mem.osTimeTickTcb i := by
  obtain ⟨rfl, hwalk⟩ := hvisit
  simp only [osStep] at hstep
  split_ifs at hstep
  simp only [isrStep] at hstep
  split at hstep
  · cases hstep
  · rename_i j rest hj
    obtain rfl : j = i := by simpa [hj] using hwalk
    rw [if_pos hidle] at hstep
    obtain rfl := Option.some.inj hstep
    rfl

/-- A count that is not zero is counted down by one. -/
lemma toNat_pred {x : UInt32} (hx : x ≠ 0) : (x - 1).toNat = x.toNat - 1 := by
  have hle : 1 ≤ x := by
    rw [UInt32.le_iff_toNat_le]
    exact Nat.pos_of_ne_zero fun he => hx (UInt32.toNat_inj.mp he)
  rw [UInt32.toNat_sub_of_le _ _ hle]
  rfl

/-- A delayed task is on no wait list. -/
lemma Delayed.not_wait (hd : Delayed s i p n) (hw : WaitsInPend s) (e : ℕ) :
    ¬ (s.mem.eventTbl e).wait.Mem p := by
  refine hw.not_cur (fun e' => ?_) e
  rcases hd.pc with hpc | hpc
  · simp [hpc, CallPc.Pends]
  · simp [hpc]

/-- A delayed task is not ready. -/
lemma Delayed.not_ready (hd : Delayed s i p n) (hc : Consistent s l) (hi : i ∈ l) :
    ¬ s.mem.rdy.Mem p := by
  intro hrdy
  rw [← hd.prio] at hrdy
  have hzero := ((hc.agrees i hi).rdy.mp hrdy).2
  have hpos := hd.pos
  rw [← hd.dly, hzero] at hpos
  exact absurd hpos (by decide)

/-- A step is no call of a delayed task. -/
lemma Delayed.not_user (hd : Delayed s i p n) (hcur : p = s.mem.prioCur) : s.pc p ≠ .sem .user := by
  rw [(hd.cur hcur.symm).1]
  simp

/-- A step that is no visit does not change the delay. -/
lemma Delayed.dly_step (hd : Delayed s i p n) (h : SysInv cfg s f l)
    (hw : WaitsInPend s) (hi : i ∈ l)
    (hstep : osStep cfg s a = some t) (hvisit : ¬ TickVisits i s a) :
    (t.mem.tcbTbl i).dly = (s.mem.tcbTbl i).dly := by
  obtain ⟨-, hsame | ⟨q, ht⟩⟩ := h.listed_step hstep hi
  · rw [hsame]
  · obtain rfl : q = p := by rw [← hd.prio, (h.pool.valid q i ht.tbl).1]
    rcases ht.dly with hdly | hv | ⟨hcur, huser⟩ | ⟨e, hwait, -⟩
    · exact hdly
    · exact absurd hv hvisit
    · exact absurd huser (hd.not_user hcur)
    · exact absurd hwait (hd.not_wait hw e)

/-- A step makes a ready task the current one, or leaves the current one. -/
lemma SysInv.cur_step (h : SysInv cfg s f l) (hstep : osStep cfg s a = some t) :
    t.mem.prioCur = s.mem.prioCur ∨ s.mem.rdy.Mem t.mem.prioCur := by
  obtain ⟨-, heffect⟩ := h.effect hstep
  cases heffect with
  | touch q j ht => exact Or.inl ht.touches.prioCur
  | control ht => exact ht.cur.imp id fun hcur => hcur.2.2
  | reserve q hq hnull hpc ht | takeNone q hpc ht | enter q j hpc ht | fail q hpc ht =>
    subst ht
    exact Or.inl rfl
  | take q j k hpc hk ht =>
    rw [ht, (osTcbInit_eq_some hk).2]
    exact Or.inl rfl
  | link q j hpc ht =>
    obtain ⟨tcbTbl, hrest⟩ := osTcbInitLink_rest s.mem j
    rw [ht, hrest]
    exact Or.inl rfl

/-- A task that is delayed after a step as it was before is at its place, or has been switched
out. -/
lemma Delayed.keep {m : ℕ} (hd : Delayed s i p n) (h : SysInv cfg s f l) (hc : Consistent s l)
    (hi : i ∈ l) (hstep : osStep cfg s a = some t) (hm : 0 < m)
    (hdly : (t.mem.tcbTbl i).dly.toNat = m) : Delayed t i p m := by
  have hprio : (t.mem.tcbTbl i).prio = p := (h.listed_step hstep hi).1.trans hd.prio
  have hcur : t.mem.prioCur = p → s.mem.prioCur = p := fun he => by
    rcases h.cur_step hstep with hsame | hrdy
    · exact hsame ▸ he
    · exact absurd (he ▸ hrdy) (hd.not_ready hc hi)
  rcases osStep_frame hstep with ⟨hpc, hlock⟩ | ⟨hint, hother, hmove⟩
  · refine ⟨hm, hprio, hdly, hpc ▸ hd.pc, fun he => ?_⟩
    rw [hpc, hlock]
    exact hd.cur (hcur he)
  · by_cases hp : s.mem.prioCur = p
    · -- the task calls `OS_Sched`, which finds another one
      obtain ⟨hpc, hlock⟩ := hd.cur hp
      rw [← hp] at hpc
      have hnext := hmove.resolve_right (by rw [hpc]; simp)
      simp only [nextStep, hpc] at hnext
      obtain rfl := Option.some.inj hnext
      refine ⟨hm, hprio, hdly, Or.inr ?_, fun he => absurd ?_ (hd.not_ready hc hi)⟩
      · show Function.update s.pc s.mem.prioCur (.sem .user) p = _
        rw [hp, Function.update_self]
      · have hsched : s.mem.osSched = s.mem.switch := by
          simp only [OsMem.osSched, if_pos hint, if_pos hlock]
        have he' : s.mem.osSched.prioCur = p := he
        rw [hsched, h.switch] at he'
        exact he' ▸ h.osSchedNew.1
    · refine ⟨hm, hprio, hdly, ?_, fun he => absurd (hcur he) hp⟩
      rw [hother p (Ne.symm hp)]
      exact hd.pc

/-- **A step in a delay.** A step that is no visit leaves the task delayed as it was; a visit
counts, and the last one ends the delay: the task becomes ready unless it is suspended.

**Proof sketch.** The delay is written by visits only: the task calls nothing and is on no wait
list. -/
theorem Delayed.step (hd : Delayed s i p n) (h : SysInv cfg s f l) (hc : Consistent s l)
    (hw : WaitsInPend s) (hi : i ∈ l) (hidle : p ≠ cfg.taskIdlePrio)
    (hstep : osStep cfg s a = some t) :
    (¬ TickVisits i s a → Delayed t i p n) ∧
      (TickVisits i s a → 1 < n → Delayed t i p (n - 1)) ∧
      (TickVisits i s a → n = 1 → (t.mem.tcbTbl i).dly = 0 ∧
        (t.mem.rdy.Mem p ↔ (t.mem.tcbTbl i).stat &&& osStatSuspend = osStatRdy)) := by
  have hdly := hd.dly
  have hpos := hd.pos
  have hne : (s.mem.tcbTbl i).dly ≠ 0 := fun hz => by
    rw [hz] at hdly
    exact absurd hdly (Nat.ne_of_lt hpos)
  have hsub : ((s.mem.tcbTbl i).dly - 1).toNat = n - 1 := by rw [toNat_pred hne, hdly]
  refine ⟨fun hvisit => ?_, fun hvisit hn => ?_, fun hvisit hn => ?_⟩
  · exact hd.keep h hc hi hstep hpos ((congrArg _ (hd.dly_step h hw hi hstep hvisit)).trans hdly)
  · refine hd.keep h hc hi hstep (by omega) ?_
    rw [hvisit.step (hd.prio.symm ▸ hidle) hstep]
    rcases osTimeTickTcb_cases s.mem i with ⟨hz, -⟩ | ⟨-, -, hk⟩ | ⟨-, hlast, -⟩
    · exact absurd hz hne
    · rw [hk, setTcb_self]
      exact hsub
    · rw [hlast] at hsub
      exact absurd hsub (by simp; omega)
  · rw [hvisit.step (hd.prio.symm ▸ hidle) hstep]
    rcases osTimeTickTcb_cases s.mem i with ⟨hz, -⟩ | ⟨-, hlast, -⟩ | ⟨-, -, b, hb, -, -, hk⟩
    · exact absurd hz hne
    · exact absurd (UInt32.toNat_inj.mp (by rw [hsub, hn]; rfl)) hlast
    · rw [hk]
      split_ifs with hsus
      · refine ⟨(congrArg OsTcb.dly (setTcb_self _ i b)).trans hb, iff_of_true ?_ ?_⟩
        · exact (PrioBitmap.mem_insert _ _ _).mpr (Or.inl hd.prio.symm)
        · exact (congrArg (fun b : OsTcb => b.stat &&& osStatSuspend) (setTcb_self _ i b)).trans
            hsus
      · rw [setTcb_self]
        exact ⟨hb, iff_of_false (hd.not_ready hc hi) hsus⟩

/-! ## Ticks and visits -/

/-- A new task is put before the others, and before no tick in progress. -/
lemma ahead_cons {j : ℕ} {walk : List ℕ} (hj : j ∉ l) (hi : i ∈ l) (hwalk : ∀ w ∈ walk, w ∈ l) :
    ahead (j :: l) i walk = ahead l i walk := by
  unfold ahead
  refine List.countP_congr fun w hw => ?_
  have hne : ∀ {x}, x ∈ l → j ≠ x := fun hx he => hj (he ▸ hx)
  rw [List.idxOf_cons_ne _ (hne hi), List.idxOf_cons_ne _ (hne (hwalk w hw))]
  simp only [decide_eq_true_eq, Nat.succ_le_succ_iff]

/-- The places of two neighbours in a list. -/
lemma idxOf_next {pre post : List ℕ} {j m : ℕ} (hl : (pre ++ j :: m :: post).Nodup) :
    (pre ++ j :: m :: post).idxOf j = pre.length ∧ (pre ++ j :: m :: post).idxOf m =
      pre.length + 1 := by
  rw [List.nodup_append] at hl
  obtain ⟨-, htail, hpre⟩ := hl
  have hj : j ∉ pre := fun hj => hpre j hj j List.mem_cons_self rfl
  have hm : m ∉ pre := fun hm => hpre m hm m (by simp) rfl
  have hjm : j ≠ m := fun he => (List.nodup_cons.mp htail).1 (he ▸ List.mem_cons_self)
  rw [List.idxOf_append_of_notMem hj, List.idxOf_append_of_notMem hm, List.idxOf_cons_self,
    List.idxOf_cons_ne _ hjm, List.idxOf_cons_self]
  exact ⟨rfl, rfl⟩

/-- **A tick visits every TCB once.** A step that starts a tick adds one to the ticks that will
visit the TCB, a visit takes one away, and no other step changes their number.

**Proof sketch.** A tick goes from a TCB to the next one in the list, and so passes by no TCB. -/
lemma ahead_step (h : SysInv cfg s f l) (hi : i ∈ l)
    (hidle : (s.mem.tcbTbl i).prio ≠ cfg.taskIdlePrio)
    (hstep : osStep cfg s a = some t) :
    ahead l i t.walk + (if TickVisits i s a then 1 else 0) =
      ahead l i s.walk + if a = .tick then 1 else 0 := by
  have hnodup := h.pool.list.nodup
  rcases osStep_walk hstep with ⟨htick, hnext, hw⟩ | ⟨rfl, hw⟩ | ⟨rfl, j, rest, hs, hw⟩
  · rw [if_neg htick, if_neg fun hv => hnext hv.1, hw]
  · rw [if_neg (by simp [TickVisits]), if_pos rfl, hw, h.pool.list.head_eq]
    cases l with
    | nil => cases hi
    | cons head l => simp [ahead]
  · have hvisit : TickVisits i s .tickNext ↔ j = i := by simp [TickVisits, hs]
    have hj : j ∈ l := h.walk j (hs ▸ List.mem_cons_self)
    have hinj : l.idxOf j = l.idxOf i ↔ j = i := List.idxOf_inj hj
    rw [if_neg (show TaskAction.tickNext ≠ .tick by simp), hs]
    simp only [hvisit, ← hinj, ahead, List.countP_cons, decide_eq_true_eq]
    rcases hw with ⟨hne, hw⟩ | ⟨hjidle, hw⟩
    · obtain ⟨m, pre, post, hnext, rfl⟩ := h.next_mem hj hne
      obtain ⟨hidx, hidx'⟩ := idxOf_next hnodup
      rw [hw, hnext]
      simp only [Option.toList_some, List.cons_append, List.nil_append, List.countP_cons,
        decide_eq_true_eq, hidx, hidx']
      split_ifs <;> omega
    · -- the idle task is the last one of the list
      obtain ⟨l', q, rfl, hq⟩ := h.ends
      obtain rfl : j = q := h.pool.prio_inj hj (h.pool.listed q (by simp)) (hjidle.trans hq.symm)
      have hji : j ≠ i := fun he => hidle (he ▸ hjidle)
      have hlast : (l' ++ [j]).idxOf j = l'.length := by
        have hj' : j ∉ l' := fun hj' => (List.nodup_append.mp hnodup).2.2 j hj' j (by simp) rfl
        rw [List.idxOf_append_of_notMem hj', List.idxOf_cons_self]
        rfl
      have hlt : (l' ++ [j]).idxOf i < l'.length + 1 := by
        simpa using List.idxOf_lt_length_of_mem hi
      rw [hlast] at hinj ⊢
      have hne : l'.length ≠ (l' ++ [j]).idxOf i := fun he => hji (hinj.mp he)
      rw [hw, if_neg hne, if_neg (by omega)]

/-! ## Whole runs -/

/-- **The account of the ticks** for the task `p` with the TCB `i`, on a run of `as` from `s₀` to
`s`: every tick has visited the TCB, or is on its way there. -/
structure TickRun (cfg : OsCfg) (i p : ℕ) (s₀ : TaskState) (as : List TaskAction) (s : TaskState)
    (f l : List ℕ) : Prop where
  sys : SysInv cfg s f l
  consistent : Consistent s l
  waiting : WaitsInPend s
  listed : i ∈ l
  prio : (s.mem.tcbTbl i).prio = p
  balance : ahead l i s.walk + visits cfg i s₀ as = as.count .tick

/-- One more step, which visits the TCB or does not. -/
lemma visits_concat {s₀ : TaskState} {as : List TaskAction}
    (h : exec (osStep cfg) s₀ as = some s) (a : TaskAction) :
    visits cfg i s₀ (as ++ [a]) = visits cfg i s₀ as + if TickVisits i s a then 1 else 0 :=
  countSteps_concat h a

/-- A step keeps the account. -/
lemma TickRun.step {s₀ : TaskState} {as : List TaskAction} (hr : TickRun cfg i p s₀ as s f l)
    (hidle : p ≠ cfg.taskIdlePrio) (hexec : exec (osStep cfg) s₀ as = some s)
    (horderly : Orderly s a) (hstep : osStep cfg s a = some t) :
    ∃ f' l', TickRun cfg i p s₀ (as ++ [a]) t f' l' := by
  obtain ⟨f', l', ht, -, hkeep, hl⟩ := hr.sys.step hstep
  have hsub : ∀ j ∈ l, j ∈ l' := by
    rcases hl with rfl | ⟨q, j, -, rfl, -⟩
    · exact fun _ hj => hj
    · exact fun _ hj => List.mem_cons_of_mem j hj
  have hahead : ahead l' i t.walk = ahead l i t.walk := by
    rcases hl with rfl | ⟨q, j, hpc, rfl, -⟩
    · rfl
    · exact ahead_cons (List.nodup_cons.mp ht.pool.list.nodup).1 hr.listed
        (hr.sys.walkStep hstep)
  refine ⟨f', l', ht, hkeep hr.consistent horderly, hr.waiting.step hr.sys hr.consistent hstep,
    hsub i hr.listed, (hr.sys.listed_step hstep hr.listed).1.trans hr.prio, ?_⟩
  have hbalance := hr.balance
  have hone := ahead_step hr.sys hr.listed (hr.prio.symm ▸ hidle) hstep
  rw [hahead, visits_concat hexec, List.count_append, List.count_singleton]
  simp only [beq_iff_eq]
  omega

/-- The account starts with a call of the current task. -/
lemma tickRun_start (h : SysInv cfg s f l) (hc : Consistent s l) (hw : WaitsInPend s)
    (hcur : s.mem.tcbCur = .tcb i) (horderly : Orderly s a) (hstep : osStep cfg s a = some t)
    (hwalk : t.walk = []) : ∃ f' l', TickRun cfg i s.mem.prioCur t [] t f' l' := by
  obtain ⟨f', l', ht, -, hkeep, hl⟩ := h.step hstep
  obtain ⟨c, hc', htbl, hprio⟩ := h.cur
  obtain rfl : i = c := TcbPtr.tcb.inj (hcur.symm.trans hc')
  have hi : i ∈ l := h.mem_of_prio htbl hc.curListed
  refine ⟨f', l', ht, hkeep hc horderly, hw.step h hc hstep, ?_,
    (h.listed_step hstep hi).1.trans hprio, ?_⟩
  · rcases hl with rfl | ⟨q, j, -, rfl, -⟩
    · exact hi
    · exact List.mem_cons_of_mem j hi
  · rw [hwalk]
    rfl

/-- When no tick is in progress, every tick has visited the TCB. -/
lemma TickRun.visits_eq {s₀ : TaskState} {as : List TaskAction} (hr : TickRun cfg i p s₀ as s f l)
    (hwalk : s.walk = []) : visits cfg i s₀ as = as.count .tick := by
  have hbalance := hr.balance
  rw [hwalk] at hbalance
  simpa [ahead] using hbalance

/-- A call of a service, in a task. -/
lemma osStep_service (hstep : osStep cfg s a = some t) (ht : serviceStep cfg s a ≠ none) :
    s.mem.intNesting = 0 ∧ s.mem.prioCur ≠ cfg.taskIdlePrio ∧ s.pc s.mem.prioCur = .sem .user ∧
      serviceStep cfg s a = some t := by
  unfold osStep at hstep
  split at hstep
  all_goals first
    | exact absurd rfl ht
    | skip
  split_ifs at hstep with hcond
  exact ⟨hcond.1, hcond.2.1, hcond.2.2, hstep⟩

/-- The remaining delay along a run. -/
lemma Delayed.run {s₀ : TaskState} {as : List TaskAction}
    (hd : visits cfg i s₀ as < n → Delayed s i p (n - visits cfg i s₀ as))
    (hr : TickRun cfg i p s₀ as s f l) (hidle : p ≠ cfg.taskIdlePrio)
    (hexec : exec (osStep cfg) s₀ as = some s) (hstep : osStep cfg s a = some t)
    (hlt : visits cfg i s₀ (as ++ [a]) < n) :
    Delayed t i p (n - visits cfg i s₀ (as ++ [a])) := by
  rw [visits_concat hexec] at hlt ⊢
  obtain ⟨hstay, hcount, -⟩ :=
    (hd (by omega)).step hr.sys hr.consistent hr.waiting hr.listed hidle hstep
  by_cases hvisit : TickVisits i s a
  · rw [if_pos hvisit] at hlt ⊢
    rw [Nat.sub_add_eq]
    exact hcount hvisit (by omega)
  · rw [if_neg hvisit] at hlt ⊢
    exact hstay hvisit

/-- What `OSTimeDly` does when it delays. -/
lemma osTimeDly_eq {k : OsMem} {ticks : UInt32} (hcur : k.tcbCur = .tcb i) (hint : k.intNesting = 0)
    (hlock : k.lockNesting = 0) (hticks : ticks ≠ 0) :
    k.osTimeDly ticks = (({ k with rdy := k.rdy.remove (k.tcbTbl i).prio } :
      OsMem).setTcb (.tcb i) { (k.tcbTbl i).toOsTcb with dly := ticks }, true) := by
  simp only [OsMem.osTimeDly, hint, hlock, UInt32.pos_iff_ne_zero.mpr hticks, hcur, OsMem.block]
  simp

/-- A call of `OSTimeDly`, or of `OSTimeDlyHMSM`, delays the current task. -/
lemma delayed_osTimeDly {ticks : UInt32} (h : SysInv cfg s f l) (hcur : s.mem.tcbCur = .tcb i)
    (hint : s.mem.intNesting = 0) (hlock : s.mem.lockNesting = 0) (hticks : ticks ≠ 0)
    (ht : t = s.afterCall (s.mem.osTimeDly ticks).1 (s.mem.osTimeDly ticks).2) :
    t.walk = s.walk ∧ Delayed t i s.mem.prioCur ticks.toNat := by
  subst ht
  obtain ⟨c, hc, -, hprio⟩ := h.cur
  obtain rfl : i = c := TcbPtr.tcb.inj (hcur.symm.trans hc)
  have hpos : 0 < ticks.toNat :=
    Nat.pos_of_ne_zero fun hz => hticks (UInt32.toNat_inj.mp hz)
  rw [osTimeDly_eq hcur hint hlock hticks]
  have hpc : (s.setPc .sched).pc s.mem.prioCur = .sched := Function.update_self _ _ _
  refine ⟨rfl, hpos, (prio_setTcb _ i _ i).trans hprio, ?_, Or.inl hpc, fun _ => ⟨hpc, hlock⟩⟩
  exact congrArg (fun b : OsTcb => b.dly.toNat) (setTcb_self _ i _)

/-- **What is left of a delay**, in the state `u` that a run of `bs` leads to from `t`: the task
waits for the visits to come, the last one makes it ready unless it is suspended, and outside
interrupts the visits are as many as the ticks. -/
def DelayAccount (cfg : OsCfg) (i p n : ℕ) (t : TaskState) (bs : List TaskAction) (u : TaskState) :
    Prop :=
  (visits cfg i t bs < n → ¬ u.mem.rdy.Mem p ∧ (u.mem.tcbTbl i).dly.toNat = n - visits cfg i t bs) ∧
    (visits cfg i t bs + 1 = n → ∀ b v, TickVisits i u b → osStep cfg u b = some v →
      (v.mem.tcbTbl i).dly = 0 ∧
        (v.mem.rdy.Mem p ↔ (v.mem.tcbTbl i).stat &&& osStatSuspend = osStatRdy)) ∧
    (u.mem.intNesting = 0 → visits cfg i t bs = bs.count .tick)

/-- The account of a delay that the action `a` of the current task has started.

**Proof sketch.** `TickRun` and `Delayed` are kept along the run, and no tick is in progress outside
interrupts. -/
theorem Delayed.account {k : OsMem} {calls : List BootCall} {as bs : List TaskAction}
    {u : TaskState}
    (hmeet : StepsMeet (osStep cfg) Orderly (taskInit cfg k calls) (as ++ a :: bs))
    (hs : exec (osStep cfg) (taskInit cfg k calls) as = some s) (hcur : s.mem.tcbCur = .tcb i)
    (hint : s.mem.intNesting = 0) (hidle : s.mem.prioCur ≠ cfg.taskIdlePrio)
    (hstep : osStep cfg s a = some t) (hwalk : t.walk = s.walk)
    (hdelayed : Delayed t i s.mem.prioCur n)
    (hu : exec (osStep cfg) t bs = some u) : DelayAccount cfg i s.mem.prioCur n t bs u := by
  obtain ⟨hmeet₁, hmeet₂⟩ := hmeet.append hs
  obtain ⟨f, l, hsys, hcons, hwait⟩ := waiting_of_stepsMeet hmeet₁ hs
  have hstep' : exec (osStep cfg) s [a] = some t := by
    rw [exec_cons, hstep]
    rfl
  have hmeet₃ : StepsMeet (osStep cfg) Orderly s ([a] ++ bs) := hmeet₂
  obtain ⟨hfirst, hrest⟩ := hmeet₃.append hstep'
  have hwalk₀ : t.walk = [] := hwalk.trans (walk_nil_of_reachable ⟨as, hs⟩ hint)
  obtain ⟨f₁, l₁, hr, hd⟩ : ∃ f l, TickRun cfg i s.mem.prioCur t bs u f l ∧
      (visits cfg i t bs < n → Delayed u i s.mem.prioCur (n - visits cfg i t bs)) := by
    refine exec_history (R := fun bs u => ∃ f l, TickRun cfg i s.mem.prioCur t bs u f l ∧
      (visits cfg i t bs < n →
        Delayed u i s.mem.prioCur (n - visits cfg i t bs))) ?_ ?_ hrest hu
    · obtain ⟨f', l', hr⟩ :=
        tickRun_start hsys hcons hwait hcur (hfirst [] _ s (by simp) rfl) hstep hwalk₀
      exact ⟨f', l', hr, fun _ => hdelayed⟩
    · rintro cs b v w hexec ⟨f, l, hr, hd⟩ horderly hstep
      obtain ⟨f', l', hr'⟩ := hr.step hidle hexec horderly hstep
      exact ⟨f', l', hr', Delayed.run hd hr hidle hexec hstep⟩
  refine ⟨fun hlt => ?_, fun hlast b v hvisit hstep => ?_, fun hzero => ?_⟩
  · exact ⟨(hd hlt).not_ready hr.consistent hr.listed, (hd hlt).dly⟩
  · obtain ⟨-, -, hend⟩ :=
      (hd (by omega)).step hr.sys hr.consistent hr.waiting hr.listed hidle hstep
    exact hend hvisit (by omega)
  · have hrun : exec (osStep cfg) (taskInit cfg k calls) (as ++ a :: bs) = some u := by
      rw [exec_append, hs, Option.bind_some, exec_cons, hstep, Option.bind_some, hu]
    exact hr.visits_eq (walk_nil_of_reachable ⟨_, hrun⟩ hzero)

/-- **A delay lasts for its ticks.** Let the current task, with the TCB `i`, call `OSTimeDly`,
while the scheduler is not locked, and let any run follow; in the whole run from `OSStart` on no
task is suspended in the window of `OSTaskCreate` and none calls `OSSemPend` with the scheduler
locked. As long as fewer ticks have visited the TCB than asked for, the task is not ready, and its
TCB counts those to come; the last visit makes it ready, unless it is suspended; and outside
interrupts the visits are as many as the ticks since the call. -/
theorem timeDly_exact {k : OsMem} {calls : List BootCall} {as bs : List TaskAction} {ticks : UInt32}
    {u : TaskState}
    (hmeet : StepsMeet (osStep cfg) Orderly (taskInit cfg k calls) (as ++ .dly ticks :: bs))
    (hs : exec (osStep cfg) (taskInit cfg k calls) as = some s) (hcur : s.mem.tcbCur = .tcb i)
    (hlock : s.mem.lockNesting = 0) (hticks : ticks ≠ 0)
    (hdly : osStep cfg s (.dly ticks) = some t) (hu : exec (osStep cfg) t bs = some u) :
    DelayAccount cfg i s.mem.prioCur ticks.toNat t bs u := by
  obtain ⟨hmeet₁, -⟩ := hmeet.append hs
  obtain ⟨f, l, hsys, -, -⟩ := waiting_of_stepsMeet hmeet₁ hs
  obtain ⟨hint, hidle, -, hcall⟩ := osStep_service hdly (by simp [serviceStep])
  obtain ⟨hwalk, hdelayed⟩ :=
    delayed_osTimeDly hsys hcur hint hlock hticks (Option.some.inj hcall).symm
  exact hdelayed.account hmeet hs hcur hint hidle hdly hwalk hu

/-- The other task creates a task meanwhile, which a tick interrupts; the second tick is on its
way. -/
def delayRun : List TaskAction :=
  [.task, .create 4, .task, .task, .intEnter, .tick, .tickNext, .tickNext, .tickNext, .intExit,
    .task, .task, .intEnter, .tick, .tickNext, .tickNext]

/-- A delay of two ticks after the first one of them. -/
theorem timeDly_delayRun :
    ∃ t u, osStep osCfg (taskInit osCfg OsMem.cleared twoTaskCalls) (.dly 2) = some t ∧
      exec (osStep osCfg) t delayRun = some u ∧ ¬ u.mem.rdy.Mem 3 ∧
      ∀ v, osStep osCfg u .tickNext = some v →
        (v.mem.rdy.Mem 3 ↔ (v.mem.tcbTbl 1).stat &&& osStatSuspend = osStatRdy) := by
  have hstart : (taskInit osCfg OsMem.cleared twoTaskCalls).mem.prioCur = 3 ∧
      (taskInit osCfg OsMem.cleared twoTaskCalls).mem.tcbCur = .tcb 1 ∧
      (taskInit osCfg OsMem.cleared twoTaskCalls).mem.lockNesting = 0 := by decide +kernel
  have hobs : ((osStep osCfg (taskInit osCfg OsMem.cleared twoTaskCalls) (.dly 2)).bind fun t =>
      (exec (osStep osCfg) t delayRun).map fun u => (visits osCfg 1 t delayRun, u.walk.head?)) =
        some (1, some 1) := by decide +kernel
  have hmeets : meets (osStep osCfg) Orderly (taskInit osCfg OsMem.cleared twoTaskCalls)
    ([] ++ .dly 2 :: delayRun) = true := by decide +kernel
  obtain ⟨t, ht, hobs⟩ := Option.bind_eq_some_iff.mp hobs
  obtain ⟨u, hu, hval⟩ := Option.map_eq_some_iff.mp hobs
  obtain ⟨hvisits, hwalk⟩ := Prod.mk.inj hval
  obtain ⟨hcur, htcb, hlock⟩ := hstart
  obtain ⟨hwait, hend, -⟩ := timeDly_exact (stepsMeet_of_meets hmeets) rfl htcb hlock
    (show (2 : UInt32) ≠ 0 by decide) ht hu
  rw [hvisits, hcur] at hwait
  refine ⟨t, u, ht, hu, (hwait (by decide)).1, fun v hv => ?_⟩
  obtain ⟨-, hready⟩ := hend (by rw [hvisits]; rfl) .tickNext v ⟨rfl, hwalk⟩ hv
  rwa [hcur] at hready

/-! ## Delays by the clock -/

/-- The arguments that `OSTimeDlyHMSM` takes. -/
def HmsmValid (hours minutes seconds : UInt8) (ms : UInt16) : Prop :=
  minutes ≤ 59 ∧ seconds ≤ 59 ∧ ms ≤ 999 ∧ ¬ (hours = 0 ∧ minutes = 0 ∧ seconds = 0 ∧ ms = 0)

/-- The milliseconds of a time. -/
def milliseconds (hours minutes seconds : UInt8) (ms : UInt16) : ℕ :=
  (hours.toNat * 3600 + minutes.toNat * 60 + seconds.toNat) * 1000 + ms.toNat

/-- The ticks of `OSTimeDlyHMSM` are the milliseconds of its arguments: nothing is lost in the
computation. -/
lemma toNat_hmsmTicks (hours minutes seconds : UInt8) (ms : UInt16) :
    (OsMem.hmsmTicks hours minutes seconds ms).toNat = milliseconds hours minutes seconds ms := by
  have hh := hours.toNat_lt
  have hm := minutes.toNat_lt
  have hs := seconds.toNat_lt
  have hms := ms.toNat_lt
  have hdiv : (500 : UInt64) / osTicksPerSec = 0 := by decide
  have hclock : osTicksPerSec.toNat = 1000 := rfl
  unfold OsMem.hmsmTicks milliseconds
  rw [hdiv, UInt64.toNat_toUInt32, UInt64.toNat_add, UInt64.toNat_mul, UInt64.toNat_add,
    UInt64.toNat_add, UInt64.toNat_mul, UInt64.toNat_mul, UInt64.toNat_div, UInt64.toNat_mul,
    UInt64.toNat_add, hclock,
    UInt8.toNat_toUInt64, UInt8.toNat_toUInt64, UInt8.toNat_toUInt64, UInt16.toNat_toUInt64]
  simp only [UInt64.toNat_ofNat, Nat.reducePow, Nat.reduceMod, Nat.add_zero]
  simp (disch := omega) only [Nat.mod_eq_of_lt]
  omega

/-- A time that is taken is a delay. -/
lemma HmsmValid.ticks_ne_zero {hours minutes seconds : UInt8} {ms : UInt16}
    (h : HmsmValid hours minutes seconds ms) : OsMem.hmsmTicks hours minutes seconds ms ≠ 0 := by
  intro hz
  have hzero := toNat_hmsmTicks hours minutes seconds ms
  rw [hz] at hzero
  unfold milliseconds at hzero
  simp only [UInt32.toNat_zero] at hzero
  refine h.2.2.2 ⟨?_, ?_, ?_, ?_⟩
  · exact UInt8.toNat_inj.mp (by rw [UInt8.toNat_zero]; omega)
  · exact UInt8.toNat_inj.mp (by rw [UInt8.toNat_zero]; omega)
  · exact UInt8.toNat_inj.mp (by rw [UInt8.toNat_zero]; omega)
  · exact UInt16.toNat_inj.mp (by rw [UInt16.toNat_zero]; omega)

/-- What `OSTimeDlyHMSM` does in a task, while the scheduler is not locked. -/
lemma osTimeDlyHmsm_iff {k : OsMem} (hint : k.intNesting = 0) (hlock : k.lockNesting = 0)
    (hours minutes seconds : UInt8) (ms : UInt16) :
    (HmsmValid hours minutes seconds ms → k.osTimeDlyHmsm hours minutes seconds ms =
      ((k.osTimeDly (OsMem.hmsmTicks hours minutes seconds ms)).1, .none,
        (k.osTimeDly (OsMem.hmsmTicks hours minutes seconds ms)).2)) ∧
      (¬ HmsmValid hours minutes seconds ms → ∃ err, err ≠ .none ∧
        k.osTimeDlyHmsm hours minutes seconds ms = (k, err, false)) := by
  unfold OsMem.osTimeDlyHmsm HmsmValid
  rw [if_neg (by simp [hint]), if_neg (by simp [hlock])]
  split_ifs with hzero hminutes hseconds hms
  · exact ⟨fun h => absurd hzero h.2.2.2, fun _ => ⟨_, by decide, rfl⟩⟩
  · exact ⟨fun h => absurd h.1 (UInt8.not_le.mpr hminutes), fun _ => ⟨_, by decide, rfl⟩⟩
  · exact ⟨fun h => absurd h.2.1 (UInt8.not_le.mpr hseconds), fun _ => ⟨_, by decide, rfl⟩⟩
  · exact ⟨fun h => absurd h.2.2.1 (UInt16.not_le.mpr hms), fun _ => ⟨_, by decide, rfl⟩⟩
  · exact ⟨fun _ => rfl, fun h => absurd ⟨UInt8.not_lt.mp hminutes, UInt8.not_lt.mp hseconds,
      UInt16.not_lt.mp hms, hzero⟩ h⟩

/-- **A delay by the clock lasts for its milliseconds.** Let the current task call `OSTimeDlyHMSM`,
while the scheduler is not locked. A time of zero, or one with a field out of its range, is refused
with an error and does nothing; any other time is accepted, and delays the task for as many ticks
as it has milliseconds, whatever run follows, if in the whole run from `OSStart` on no task is
suspended in the window of `OSTaskCreate` and none calls `OSSemPend` with the scheduler locked. -/
theorem timeDlyHmsm_exact {k : OsMem} {calls : List BootCall} {as bs : List TaskAction}
    {hours minutes seconds : UInt8} {ms : UInt16} {u : TaskState}
    (hmeet : StepsMeet (osStep cfg) Orderly (taskInit cfg k calls)
      (as ++ .dlyHmsm hours minutes seconds ms :: bs))
    (hs : exec (osStep cfg) (taskInit cfg k calls) as = some s) (hcur : s.mem.tcbCur = .tcb i)
    (hlock : s.mem.lockNesting = 0)
    (hdly : osStep cfg s (.dlyHmsm hours minutes seconds ms) = some t)
    (hu : exec (osStep cfg) t bs = some u) :
    ((s.mem.osTimeDlyHmsm hours minutes seconds ms).2.1 = .none ↔
      HmsmValid hours minutes seconds ms) ∧
      (HmsmValid hours minutes seconds ms →
        DelayAccount cfg i s.mem.prioCur (milliseconds hours minutes seconds ms) t bs u) ∧
      (¬ HmsmValid hours minutes seconds ms → t = s) := by
  obtain ⟨hmeet₁, -⟩ := hmeet.append hs
  obtain ⟨f, l, hsys, -, -⟩ := waiting_of_stepsMeet hmeet₁ hs
  obtain ⟨hint, hidle, -, hcall⟩ := osStep_service hdly (by simp [serviceStep])
  obtain ⟨hvalid, hinvalid⟩ := osTimeDlyHmsm_iff hint hlock hours minutes seconds ms
  have ht : t = s.afterCall (s.mem.osTimeDlyHmsm hours minutes seconds ms).1
      (s.mem.osTimeDlyHmsm hours minutes seconds ms).2.2 := (Option.some.inj hcall).symm
  refine ⟨⟨fun hnone => ?_, fun h => by rw [hvalid h]⟩, fun h => ?_, fun h => ?_⟩
  · by_contra h
    obtain ⟨err, herr, hk⟩ := hinvalid h
    rw [hk] at hnone
    exact herr hnone
  · rw [hvalid h] at ht
    obtain ⟨hwalk, hdelayed⟩ := delayed_osTimeDly hsys hcur hint hlock h.ticks_ne_zero ht
    rw [toNat_hmsmTicks] at hdelayed
    exact hdelayed.account hmeet hs hcur hint hidle hdly hwalk hu
  · obtain ⟨err, -, hk⟩ := hinvalid h
    rw [hk] at ht
    exact ht

/-- Two milliseconds, on the same run. -/
theorem timeDlyHmsm_delayRun :
    ∃ t u, osStep osCfg (taskInit osCfg OsMem.cleared twoTaskCalls) (.dlyHmsm 0 0 0 2) = some t ∧
      exec (osStep osCfg) t delayRun = some u ∧ DelayAccount osCfg 1 3 2 t delayRun u := by
  have hstart : (taskInit osCfg OsMem.cleared twoTaskCalls).mem.prioCur = 3 ∧
      (taskInit osCfg OsMem.cleared twoTaskCalls).mem.tcbCur = .tcb 1 ∧
      (taskInit osCfg OsMem.cleared twoTaskCalls).mem.lockNesting = 0 := by decide +kernel
  have hsome :
    ((osStep osCfg (taskInit osCfg OsMem.cleared twoTaskCalls) (.dlyHmsm 0 0 0 2)).bind fun t =>
      exec (osStep osCfg) t delayRun).isSome = true := by decide +kernel
  have hmeets : meets (osStep osCfg) Orderly (taskInit osCfg OsMem.cleared twoTaskCalls)
    ([] ++ .dlyHmsm 0 0 0 2 :: delayRun) = true := by decide +kernel
  obtain ⟨u, hval⟩ := Option.isSome_iff_exists.mp hsome
  obtain ⟨t, ht, hu⟩ := Option.bind_eq_some_iff.mp hval
  obtain ⟨hcur, htcb, hlock⟩ := hstart
  obtain ⟨-, hdelay, -⟩ := timeDlyHmsm_exact (stepsMeet_of_meets hmeets) rfl htcb hlock ht hu
  rw [hcur] at hdelay
  exact ⟨t, u, ht, hu, hdelay (by unfold HmsmValid; decide)⟩

end

end Kernel
