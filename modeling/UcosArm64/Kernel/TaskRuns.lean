import UcosArm64.Kernel.TaskInvariant

set_option relaxedAutoImplicit false
set_option autoImplicit false

/-!
# The tasks over whole runs

From the effect of one step to every run of the kernel, from `OSInit` on.

## Main results

* `Kernel.SysInv.step` — a step keeps the invariants.
-/

namespace Kernel

section

variable {cfg : OsCfg} {s t : TaskState} {a : TaskAction} {f l : List ℕ} {p i : ℕ}

/-! ## The places of the tasks -/

/-- **What a call does to the places**: the current task stays where it is or goes to another
place, into `OSSemPend` or `OSSemCreate` only by a call of these; the ticks in progress stay where
they are.

**Proof sketch.** One case per call; the cases lemma of the service says where it leads. -/
lemma serviceStep_place (hstep : serviceStep cfg s a = some t) :
    t.walk = s.walk ∧ (t.pc = s.pc ∨ ∃ c, t.pc = Function.update s.pc s.mem.prioCur c ∧
      (c.InPend → ∃ pevent timeout, a = .pend pevent timeout) ∧
      ∀ e n, c = .semCreating e n → ∃ cnt, a = .semCreate cnt) := by
  have hsched : ¬ CallPc.InPend .sched := by simp [CallPc.InPend]
  cases a with
  | suspend prio | resume prio | dly ticks | dlyHmsm hours minutes seconds ms =>
    obtain rfl := Option.some.inj hstep
    unfold TaskState.afterCall
    split_ifs
    · exact ⟨rfl, Or.inr ⟨.sched, rfl, fun hin => absurd hin hsched, fun e n he => by cases he⟩⟩
    · exact ⟨rfl, Or.inl rfl⟩
  | create prio =>
    simp only [serviceStep] at hstep
    split at hstep
    · obtain rfl := Option.some.inj hstep
      exact ⟨rfl, Or.inl rfl⟩
    · obtain rfl := Option.some.inj hstep
      exact ⟨rfl, Or.inr ⟨.createReserved prio, rfl, by simp [CallPc.InPend],
        fun e n he => by cases he⟩⟩
  | unlock =>
    simp only [serviceStep] at hstep
    split_ifs at hstep
    · obtain rfl := Option.some.inj hstep
      exact ⟨rfl, Or.inr ⟨.sem .unlockSched, rfl, by simp [CallPc.InPend],
        fun e n he => by cases he⟩⟩
    · obtain rfl := Option.some.inj hstep
      exact ⟨rfl, Or.inl rfl⟩
  | semCreate cnt =>
    simp only [serviceStep] at hstep
    split at hstep
    · obtain rfl := Option.some.inj hstep
      exact ⟨rfl, Or.inr ⟨_, rfl, by simp [CallPc.InPend], fun _ _ _ => ⟨cnt, rfl⟩⟩⟩
    · obtain rfl := Option.some.inj hstep
      exact ⟨rfl, Or.inl rfl⟩
  | pend pevent timeout =>
    simp only [serviceStep] at hstep
    split at hstep
    · obtain rfl := Option.some.inj hstep
      exact ⟨rfl, Or.inr ⟨_, rfl, fun _ => ⟨_, timeout, rfl⟩, fun e n he => by cases he⟩⟩
    · obtain rfl := Option.some.inj hstep
      exact ⟨rfl, Or.inl rfl⟩
  | post pevent =>
    simp only [serviceStep] at hstep
    split at hstep
    · obtain rfl := Option.some.inj hstep
      exact ⟨rfl, Or.inr ⟨_, rfl, by simp [CallPc.InPend], fun e n he => by cases he⟩⟩
    · obtain rfl := Option.some.inj hstep
      exact ⟨rfl, Or.inl rfl⟩
  | timeSet ticks | lock | accept pevent =>
    obtain rfl := Option.some.inj hstep
    exact ⟨rfl, Or.inl rfl⟩
  | _ => simp [serviceStep] at hstep

/-- What the next step of the current task does to its place: it does not enter `OSSemPend` or
`OSSemCreate`. -/
lemma nextStep_place (hstep : nextStep s = some t) :
    t.walk = s.walk ∧ ∃ c, t.pc = Function.update s.pc s.mem.prioCur c ∧
      (c.InPend → (s.pc s.mem.prioCur).InPend) ∧ ∀ e n, c ≠ .semCreating e n := by
  unfold nextStep at hstep
  split at hstep
  · cases hstep
  · split at hstep
    all_goals
      obtain rfl := Option.some.inj hstep
      exact ⟨rfl, _, rfl, by simp [CallPc.InPend], by simp⟩
  all_goals
    obtain rfl := Option.some.inj hstep
    first
      | exact ⟨rfl, _, rfl, fun _ => Or.inl ⟨_, ‹_›⟩, by simp⟩
      | exact ⟨rfl, _, rfl, by simp [CallPc.InPend], by simp⟩

/-- The steps of interrupts leave the places of the tasks alone. -/
lemma isrStep_pc (hstep : isrStep cfg s a = some t) : t.pc = s.pc := by
  rcases isrStep_cases hstep with
    ⟨k, -, rfl | rfl⟩ | ⟨-, rfl⟩ | ⟨i, rest, -, -, ⟨-, rfl⟩ | ⟨-, rfl⟩⟩ | ⟨-, rfl⟩ <;> rfl

/-! ## The ticks in progress -/

/-- The TCB after one of the list is on the list, unless it is the last. -/
lemma SysInv.next_mem (h : SysInv cfg s f l) (hi : i ∈ l)
    (hidle : (s.mem.tcbTbl i).prio ≠ cfg.taskIdlePrio) :
    ∃ j pre post, (s.mem.tcbTbl i).next = some j ∧ l = pre ++ i :: j :: post := by
  obtain ⟨pre, post, rfl⟩ := List.append_of_mem hi
  have hpost : post ≠ [] := by
    rintro rfl
    obtain ⟨l', j, hl, hj⟩ := h.ends
    obtain ⟨-, hij⟩ := List.append_inj' hl rfl
    obtain rfl : i = j := by simpa using hij
    exact hidle hj
  obtain ⟨j, post', hnext, rfl⟩ := h.pool.list.walk_step hpost
  exact ⟨j, pre, post', hnext, rfl⟩

/-- What the steps of interrupts do to the ticks in progress: a tick starts at the first TCB of the
list, goes on to the next TCB, or ends at that of the idle task. -/
lemma isrStep_walk (hstep : isrStep cfg s a = some t) :
    (a ≠ .tick ∧ a ≠ .tickNext ∧ t.walk = s.walk) ∨
    (a = .tick ∧ t.walk = s.mem.tcbList.toList ++ s.walk) ∨
      a = .tickNext ∧ ∃ i rest, s.walk = i :: rest ∧
        ((s.mem.tcbTbl i).prio ≠ cfg.taskIdlePrio ∧
          t.walk = (s.mem.tcbTbl i).next.toList ++ rest ∨
        (s.mem.tcbTbl i).prio = cfg.taskIdlePrio ∧ t.walk = rest) := by
  rcases isrStep_cases hstep with ⟨k, hk, ht⟩ | ⟨rfl, rfl⟩ | ⟨i, rest, rfl, hwalk, ht⟩ | ⟨rfl, rfl⟩
  · have hne : a ≠ .tick ∧ a ≠ .tickNext := by
      rcases hk with ⟨pevent, rfl, -⟩ | ⟨prio, rfl, -⟩ | ⟨prio, rfl, -⟩ <;> simp
    rcases ht with rfl | rfl
    · exact Or.inl ⟨hne.1, hne.2, rfl⟩
    · exact Or.inl ⟨hne.1, hne.2, rfl⟩
  · exact Or.inr (Or.inl ⟨rfl, rfl⟩)
  · refine Or.inr (Or.inr ⟨rfl, i, rest, hwalk, ?_⟩)
    rcases ht with ⟨hidle, rfl⟩ | ⟨hidle, rfl⟩
    · exact Or.inl ⟨hidle, rfl⟩
    · exact Or.inr ⟨hidle, rfl⟩
  · exact Or.inl ⟨by simp, by simp, rfl⟩

/-- The same for every step. -/
lemma osStep_walk (hstep : osStep cfg s a = some t) :
    (a ≠ .tick ∧ a ≠ .tickNext ∧ t.walk = s.walk) ∨
    (a = .tick ∧ t.walk = s.mem.tcbList.toList ++ s.walk) ∨
      a = .tickNext ∧ ∃ i rest, s.walk = i :: rest ∧
        ((s.mem.tcbTbl i).prio ≠ cfg.taskIdlePrio ∧
          t.walk = (s.mem.tcbTbl i).next.toList ++ rest ∨
        (s.mem.tcbTbl i).prio = cfg.taskIdlePrio ∧ t.walk = rest) := by
  unfold osStep at hstep
  split at hstep
  · split_ifs at hstep
    obtain rfl := Option.some.inj hstep
    exact Or.inl ⟨by simp, by simp, rfl⟩
  all_goals split_ifs at hstep
  all_goals first
    | exact isrStep_walk hstep
    | exact Or.inl ⟨by simp, by simp, (nextStep_place hstep).1⟩
    | exact Or.inl ⟨by rintro rfl; simp [serviceStep] at hstep,
        by rintro rfl; simp [serviceStep] at hstep, (serviceStep_place hstep).1⟩

/-- Every tick in progress stands at a TCB of the list. -/
lemma SysInv.walkStep (h : SysInv cfg s f l) (hstep : osStep cfg s a = some t) :
    ∀ i ∈ t.walk, i ∈ l := by
  intro i hi
  rcases osStep_walk hstep with ⟨-, -, hw⟩ | ⟨-, hw⟩ | ⟨-, j, rest, hs, hw⟩
  · exact h.walk i (hw ▸ hi)
  · rw [hw, h.pool.list.head_eq] at hi
    rcases List.mem_append.mp hi with hi | hi
    · exact List.mem_of_mem_head? (Option.mem_toList.mp hi)
    · exact h.walk i hi
  · have hj : j ∈ l := h.walk j (hs ▸ List.mem_cons_self)
    have hrest : ∀ m ∈ rest, m ∈ l := fun m hm => h.walk m (hs ▸ List.mem_cons_of_mem j hm)
    rcases hw with ⟨hidle, hw⟩ | ⟨-, hw⟩
    · obtain ⟨m, pre, post, hnext, rfl⟩ := h.next_mem hj hidle
      rw [hw, hnext] at hi
      rcases List.mem_append.mp hi with hi | hi
      · obtain rfl : i = m := by simpa using hi
        simp
      · exact hrest i hi
    · exact hrest i (hw ▸ hi)

/-! ## Pends with the scheduler locked -/

/-- **Only `OSSemPend` puts a task into `OSSemPend`**, and only the current one. -/
lemma osStep_inPend (hstep : osStep cfg s a = some t) {q : ℕ} (hq : (t.pc q).InPend) :
    (s.pc q).InPend ∨ q = s.mem.prioCur ∧ ∃ pevent timeout, a = .pend pevent timeout := by
  have hplace : t.pc = s.pc ∨ ∃ c, t.pc = Function.update s.pc s.mem.prioCur c ∧
      (c.InPend → (s.pc s.mem.prioCur).InPend ∨ ∃ pevent timeout, a = .pend pevent timeout) := by
    unfold osStep at hstep
    split at hstep
    · split_ifs at hstep
      obtain rfl := Option.some.inj hstep
      exact Or.inl rfl
    all_goals split_ifs at hstep
    all_goals first
      | exact Or.inl (isrStep_pc hstep)
      | exact Or.inr ((nextStep_place hstep).2.imp fun _ hc =>
        ⟨hc.1, fun hin => Or.inl (hc.2.1 hin)⟩)
      | exact (serviceStep_place hstep).2.imp id fun hc => hc.imp fun _ hc =>
          ⟨hc.1, fun hin => Or.inr (hc.2.1 hin)⟩
  rcases hplace with hpc | ⟨c, hpc, hc⟩
  · exact Or.inl (hpc ▸ hq)
  · rw [hpc] at hq
    by_cases hcur : q = s.mem.prioCur
    · subst hcur
      rw [Function.update_self] at hq
      exact (hc hq).imp id fun hpend => ⟨rfl, hpend⟩
    · rw [Function.update_of_ne hcur] at hq
      exact Or.inl hq

/-- **A step that does not pend with the scheduler locked** leaves the current task outside
`OSSemPend` while it is.

**Proof sketch.** The current task changes only while the scheduler is unlocked, the nesting of
locks only where the current task is outside `OSSemPend`; else the task was in `OSSemPend` before
or has just called it. -/
lemma Unlocked.step (hun : Unlocked s) (hpend : PendsUnlocked s a)
    (heffect : Effect cfg s a t l) (hstep : osStep cfg s a = some t) : Unlocked t := by
  intro hin
  -- the current task and the lock are as before
  have hsame : t.mem.prioCur = s.mem.prioCur → t.mem.lockNesting = s.mem.lockNesting →
      t.mem.lockNesting = 0 := by
    intro hcur hlock
    rw [hcur] at hin
    rw [hlock]
    rcases osStep_inPend hstep hin with hin | ⟨-, pevent, timeout, rfl⟩
    · exact hun hin
    · exact hpend
  cases heffect with
  | touch p i ht => exact hsame ht.touches.prioCur ht.touches.lockNesting
  | control ht =>
    rcases ht.cur with hcur | ⟨-, hzero, -⟩
    · exact hsame hcur (ht.lock.resolve_right fun hnot => hnot hin)
    · exact hzero
  | reserve p hp hnull hpc ht | enter p i hpc ht | fail p hpc ht | takeNone p hpc ht =>
    subst ht
    exact hsame rfl rfl
  | take p i k hpc hk ht =>
    obtain ⟨-, rfl⟩ := osTcbInit_eq_some hk
    subst ht
    exact hsame rfl rfl
  | link p i hpc ht =>
    obtain ⟨tcbTbl, hk⟩ := osTcbInitLink_rest s.mem i
    exact hsame (by rw [ht, hk]) (by rw [ht, hk])

/-! ## The agreement of the lists and the TCBs -/

/-- A task that has taken a TCB is about to enter it for the priority that it has reserved, or has
done so. -/
lemma CallPc.reserves_or_entering {c : CallPc} (h : c.held = some i) :
    (∃ p, c.reserves = some p) ∨ ∃ p, c.entering = some p := by
  cases c with
  | createTaken prio ptcb => exact Or.inl ⟨prio, rfl⟩
  | createEntered prio ptcb => exact Or.inr ⟨prio, rfl⟩
  | _ => cases h

/-- A TCB that is not on the list has not the priority of one that is. -/
lemma Pool.prio_ne {k : OsMem} {pc : ℕ → CallPc} (h : Pool cfg k pc f l) {q j : ℕ}
    (hheld : (pc q).held = some j) (hi : i ∈ l) (htbl : k.tcbPrioTbl p = .tcb i) :
    (k.tcbTbl j).prio ≠ p := by
  rintro rfl
  rcases CallPc.reserves_or_entering hheld with ⟨p, hres⟩ | ⟨p, hent⟩
  · have hp := (h.reserved p).mpr ⟨q, hres⟩
    rw [h.filled q p j hheld hres, hp] at htbl
    cases htbl
  · have hp := h.entered q p j hheld hent
    rw [(h.valid p j hp).1, hp] at htbl
    obtain rfl := TcbPtr.tcb.inj htbl
    exact (h.heldApart q j hheld).2 hi

/-- Two TCBs of the list with one priority are one TCB. -/
lemma Pool.prio_inj {k : OsMem} {pc : ℕ → CallPc} (h : Pool cfg k pc f l) {j : ℕ} (hj : j ∈ l)
    (htbl : k.tcbPrioTbl p = .tcb i) (hp : (k.tcbTbl j).prio = p) : j = i := by
  have := h.listed j hj
  rw [hp, htbl] at this
  exact (TcbPtr.tcb.inj this).symm

/-- A step touches one task. -/
lemma Listed.touch (hc : Listed s l) (h : SysInv cfg s f l) (hs : SuspendsListed s a)
    (ht : TouchEffect cfg s a t l p i) : Listed t l := by
  have hi : i ∈ l := ht.listed hc hs
  have hprio : ∀ j, (t.mem.tcbTbl j).prio = (s.mem.tcbTbl j).prio := ht.touches.prio
  have hp : ∃ j ∈ l, (t.mem.tcbTbl j).prio = p :=
    ⟨i, hi, (hprio i).trans (h.pool.valid p i ht.tbl).1⟩
  constructor
  · intro q hq
    by_cases hqp : q = p
    · exact hqp ▸ hp
    · simp only [hprio]
      exact hc.rdyListed q ((ht.touches.rdy q hqp).mp hq)
  · intro e q hq
    by_cases hqp : q = p
    · exact hqp ▸ hp
    · simp only [hprio]
      exact hc.waitListed e q (ht.touches.wait e q hqp hq)
  · simp only [hprio, ht.touches.prioCur]
    exact hc.curListed
  · intro q j hj
    rw [(ht.making q).held] at hj
    rw [ht.touches.tcb j (h.pool.prio_ne hj hi ht.tbl)]
    exact hc.fresh q j hj

/-- The task that is touched agrees with its TCB after the step, and so do the others. -/
lemma Consistent.touch (hc : Consistent s l) (h : SysInv cfg s f l) (hs : SuspendsListed s a)
    (ht : TouchEffect cfg s a t l p i) (hun : Unlocked t) : Consistent t l := by
  refine ⟨hc.toListed.touch h hs ht, fun j hj => ?_, hun⟩
  by_cases hjp : (s.mem.tcbTbl j).prio = p
  · obtain rfl := h.pool.prio_inj hj ht.tbl hjp
    exact ht.agrees hc.unlocked (hc.agrees j hj)
  · exact (hc.agrees j hj).of_touches ht.touches hjp

/-- A step touches no task. -/
lemma Listed.control (hc : Listed s l) (ht : ControlEffect s t) : Listed t l := by
  have htbl : t.mem.tcbTbl = s.mem.tcbTbl := ht.tcbTbl
  constructor
  · rw [ht.rdy, htbl]
    exact hc.rdyListed
  · intro e q hq
    rw [htbl]
    exact hc.waitListed e q (ht.wait e q hq)
  · rw [htbl]
    rcases ht.cur with hcur | ⟨-, -, hcur⟩
    · rw [hcur]
      exact hc.curListed
    · exact hc.rdyListed _ hcur
  · intro q j hj
    rw [(ht.making q).held] at hj
    rw [htbl]
    exact hc.fresh q j hj

/-- A step that touches no task leaves the agreement as it is. -/
lemma Consistent.control (hc : Consistent s l) (ht : ControlEffect s t) (hun : Unlocked t) :
    Consistent t l :=
  ⟨hc.toListed.control ht, fun j hj => (hc.agrees j hj).congr ht.rdy (by rw [ht.tcbTbl]), hun⟩

/-- A step of `OSTaskCreate` writes at most a TCB that is not on the list, and then as `OS_TCBInit`
fills it. -/
lemma Listed.making (hc : Listed s l) {k : OsMem} {c : CallPc}
    (hk : ∃ tcbTbl tcbPrioTbl tcbFreeList, k = { s.mem with
      tcbTbl := tcbTbl, tcbPrioTbl := tcbPrioTbl, tcbFreeList := tcbFreeList })
    (hl : ∀ j ∈ l, k.tcbTbl j = s.mem.tcbTbl j)
    (hheld : ∀ q j, (Function.update s.pc s.mem.prioCur c q).held = some j →
      (k.tcbTbl j).stat = osStatRdy ∧ (k.tcbTbl j).dly = 0) :
    Listed { s.setPc c with mem := k } l := by
  obtain ⟨tcbTbl, tcbPrioTbl, tcbFreeList, rfl⟩ := hk
  have hprio : ∀ p, (∃ j ∈ l, (s.mem.tcbTbl j).prio = p) → ∃ j ∈ l, (tcbTbl j).prio = p := by
    rintro p ⟨j, hj, hp⟩
    exact ⟨j, hj, (congrArg TcbBlock.prio (hl j hj)).trans hp⟩
  constructor
  · exact fun p hp => hprio p (hc.rdyListed p hp)
  · exact fun e p hp => hprio p (hc.waitListed e p hp)
  · exact hprio _ hc.curListed
  · exact hheld

/-- A step of `OSTaskCreate` that writes no TCB, and after which the task holds no TCB that it has
not held before. -/
lemma Listed.leave (hc : Listed s l) {k : OsMem} {c : CallPc}
    (hk : ∃ tcbPrioTbl, k = { s.mem with tcbPrioTbl := tcbPrioTbl })
    (hheld : ∀ i, c.held = some i → (s.pc s.mem.prioCur).held = some i) :
    Listed { s.setPc c with mem := k } l := by
  obtain ⟨tcbPrioTbl, rfl⟩ := hk
  refine hc.making ⟨_, _, _, rfl⟩ (fun _ _ => rfl) fun q j hq => hc.fresh q j ?_
  rw [held_update] at hq
  split_ifs at hq with hqc
  · rw [hqc]
    exact hheld j hq
  · exact hq

/-- A step of `OSTaskCreate` before the last one leaves the agreement as it is. -/
lemma Consistent.making (hc : Consistent s l) (hlisted : Listed t l)
    (hrdy : t.mem.rdy = s.mem.rdy) (hl : ∀ j ∈ l, t.mem.tcbTbl j = s.mem.tcbTbl j)
    (hun : Unlocked t) : Consistent t l :=
  ⟨hlisted, fun j hj => (hc.agrees j hj).congr hrdy (hl j hj), hun⟩

section Link

variable (h : SysInv cfg s f l) (hpc : s.pc s.mem.prioCur = .createEntered p i)

include h hpc

/-- What the last critical section of `OS_TCBInit` leaves alone, and the task that it makes
ready. -/
lemma SysInv.link_mem :
    (∀ j, ((s.mem.osTcbInitLink i).tcbTbl j).toOsTcb = (s.mem.tcbTbl j).toOsTcb) ∧
      (∀ j, ((s.mem.osTcbInitLink i).tcbTbl j).prio = (s.mem.tcbTbl j).prio) ∧
      (s.mem.tcbTbl i).prio = p ∧ i ∉ l ∧
      (s.mem.osTcbInitLink i).rdy = s.mem.rdy.insert p ∧
      (s.mem.osTcbInitLink i).prioCur = s.mem.prioCur ∧
      (s.mem.osTcbInitLink i).eventTbl = s.mem.eventTbl := by
  have hheld : (s.pc s.mem.prioCur).held = some i := by
    rw [hpc]
    rfl
  have htbl : s.mem.tcbPrioTbl p = .tcb i := h.pool.entered _ p i hheld (by rw [hpc]; rfl)
  have hp : (s.mem.tcbTbl i).prio = p := (h.pool.valid p i htbl).1
  have hnotl := (h.pool.heldApart _ i hheld).2
  obtain ⟨htcb, hprio, -, -⟩ := osTcbInitLink_links (k := s.mem) (i := i) (by
    rintro head hl rfl
    rw [h.pool.list.head_eq] at hl
    exact hnotl (List.mem_of_mem_head? hl))
  obtain ⟨tcbTbl, hk⟩ := osTcbInitLink_rest s.mem i
  refine ⟨htcb, hprio, hp, hnotl, ?_, ?_, ?_⟩
  · rw [hk, hp]
  · rw [hk]
  · rw [hk]

/-- The new task is put into the list. -/
lemma Listed.link (hc : Listed s l) :
    Listed { s.setPc .sched with mem := s.mem.osTcbInitLink i } (i :: l) := by
  obtain ⟨htcb, hprio, hp, -, hrdy, hcur, hevent⟩ := h.link_mem hpc
  have hlisted : ∀ q, (∃ j ∈ l, (s.mem.tcbTbl j).prio = q) →
      ∃ j ∈ i :: l, ((s.mem.osTcbInitLink i).tcbTbl j).prio = q := by
    rintro q ⟨j, hj, hq⟩
    exact ⟨j, List.mem_cons_of_mem i hj, (hprio j).trans hq⟩
  constructor
  · intro q hq
    have hq' : (s.mem.osTcbInitLink i).rdy.Mem q := hq
    rw [hrdy, PrioBitmap.mem_insert] at hq'
    rcases hq' with rfl | hq'
    · exact ⟨i, List.mem_cons_self, (hprio i).trans hp⟩
    · exact hlisted q (hc.rdyListed q hq')
  · intro e q hq
    have hq' : ((s.mem.osTcbInitLink i).eventTbl e).wait.Mem q := hq
    rw [hevent] at hq'
    exact hlisted q (hc.waitListed e q hq')
  · show ∃ j ∈ i :: l, _ = (s.mem.osTcbInitLink i).prioCur
    rw [hcur]
    exact hlisted _ hc.curListed
  · intro q j hj
    rw [TaskState.setPc_pc, held_update] at hj
    show ((s.mem.osTcbInitLink i).tcbTbl j).toOsTcb.stat = _ ∧
      ((s.mem.osTcbInitLink i).tcbTbl j).toOsTcb.dly = 0
    rw [htcb]
    split_ifs at hj with hq
    · cases hj
    · exact hc.fresh q j hj

/-- The new task is put into the list, ready to run, as its TCB says. -/
lemma Consistent.link (hc : Consistent s l)
    (hun : Unlocked { s.setPc .sched with mem := s.mem.osTcbInitLink i }) :
    Consistent { s.setPc .sched with mem := s.mem.osTcbInitLink i } (i :: l) := by
  have hheld : (s.pc s.mem.prioCur).held = some i := by
    rw [hpc]
    rfl
  have htbl : s.mem.tcbPrioTbl p = .tcb i := h.pool.entered _ p i hheld (by rw [hpc]; rfl)
  have hfresh := hc.fresh _ i hheld
  obtain ⟨htcb, hprio, hp, hnotl, hrdy, -, -⟩ := h.link_mem hpc
  refine ⟨hc.toListed.link h hpc, fun j hj => ?_, hun⟩
  rcases List.mem_cons.mp hj with rfl | hj
  · refine agrees_of (htcb j) (Or.inl hfresh.1) ?_
    rw [hprio, hp, hrdy, PrioBitmap.mem_insert]
    exact iff_of_true (Or.inl rfl) hfresh
  · have hne : (s.mem.tcbTbl j).prio ≠ p := fun hjp =>
      hnotl (h.pool.prio_inj hj htbl hjp ▸ hj)
    refine agrees_of (htcb j) (hc.agrees j hj).stat ?_
    rw [hprio, hrdy, PrioBitmap.mem_insert, or_iff_right hne]
    exact (hc.agrees j hj).rdy

end Link

/-! ## One step -/

/-- **A step keeps the invariants.** The list of the tasks grows at its front only. That the tasks
that are ready, wait or run are on the list is kept by every step but the suspending of a task that
is not in the list yet; that the lists agree with the TCBs, by every orderly step.

**Proof sketch.** By cases on the effect of the step: each is a move of the TCBs or leaves them
alone, and touches at most one task of the list. -/
theorem SysInv.step (h : SysInv cfg s f l) (hstep : osStep cfg s a = some t) :
    ∃ f' l', SysInv cfg t f' l' ∧
      (Listed s l → SuspendsListed s a → Listed t l') ∧
      (Consistent s l → Orderly s a → Consistent t l') ∧
      (l' = l ∨ ∃ p i, s.pc s.mem.prioCur = .createEntered p i ∧ l' = i :: l ∧
        t.mem = s.mem.osTcbInitLink i) := by
  obtain ⟨hsched, heffect⟩ := h.effect hstep
  have hun : Consistent s l → Orderly s a → Unlocked t := fun hc ho =>
    hc.unlocked.step ho.2 heffect hstep
  have hwalk := h.walkStep hstep
  have hle : s.mem.prioCur ≤ 63 := by
    obtain ⟨c, -, htbl, -⟩ := h.cur
    have := h.lt_of_tbl htbl
    omega
  cases heffect with
  | touch p i ht =>
    exact ⟨f, l, ⟨h.pool.congr ht.touches.toSameLinks ht.making,
      h.ends.congr ht.touches.toSameLinks, hsched, hwalk⟩, fun hc hs => hc.touch h hs ht,
      fun hc ho => hc.touch h ho.1 ht (hun hc ho), Or.inl rfl⟩
  | control ht =>
    exact ⟨f, l, ⟨h.pool.congr ht.links ht.making, h.ends.congr ht.links, hsched, hwalk⟩,
      fun hc _ => hc.control ht, fun hc ho => hc.control ht (hun hc ho), Or.inl rfl⟩
  | reserve p hp hnull hpc ht =>
    have hl : Listed s l → Listed t l := fun hc => by
      rw [ht]
      exact hc.leave ⟨_, rfl⟩ (by simp [CallPc.held])
    subst ht
    exact ⟨f, l, ⟨h.pool.reserve hpc hp hnull, h.ends, hsched, hwalk⟩, fun hc _ => hl hc,
      fun hc ho => hc.making (hl hc.toListed) rfl (fun _ _ => rfl) (hun hc ho), Or.inl rfl⟩
  | take p i k hpc hk ht =>
    subst ht
    obtain ⟨f', hf', hpool⟩ := h.pool.take hpc hk
    obtain ⟨-, hk'⟩ := osTcbInit_eq_some hk
    have hne : ∀ j, j ≠ i → k.tcbTbl j = s.mem.tcbTbl j := fun j hj => by
      rw [hk']
      exact Function.update_of_ne hj _ _
    have hsame : ∀ j ∈ l, k.tcbTbl j = s.mem.tcbTbl j := fun j hj => hne j fun hji =>
      h.pool.apart j hj (hf' ▸ hji ▸ List.mem_cons_self)
    have hl : Listed s l → Listed { s.setPc (.createTaken p i) with mem := k } l := by
      refine fun hc => hc.making ⟨_, _, _, hk'⟩ hsame fun q j hq => ?_
      rw [held_update] at hq
      split_ifs at hq with hqc
      · obtain rfl := Option.some.inj hq
        rw [hk']
        simp
      · have hj : j ≠ i := fun hji =>
          (h.pool.heldApart q j hq).1 (hf' ▸ hji ▸ List.mem_cons_self)
        rw [hne j hj]
        exact hc.fresh q j hq
    refine ⟨f', l, ⟨hpool, ?_, hsched, hwalk⟩, fun hc _ => hl hc,
      fun hc ho => hc.making (hl hc.toListed) (by rw [hk']) hsame (hun hc ho), Or.inl rfl⟩
    obtain ⟨l', j, rfl, hj⟩ := h.ends
    exact ⟨l', j, rfl, (congrArg TcbBlock.prio (hsame j (by simp))).trans hj⟩
  | takeNone p hpc ht =>
    have hl : Listed s l → Listed t l := fun hc => by
      rw [ht]
      exact hc.leave (k := s.mem) ⟨_, rfl⟩ (by simp [CallPc.held])
    subst ht
    exact ⟨f, l, ⟨h.pool.takeNone hpc, h.ends, hsched, hwalk⟩, fun hc _ => hl hc,
      fun hc ho => hc.making (hl hc.toListed) rfl (fun _ _ => rfl) (hun hc ho), Or.inl rfl⟩
  | enter p i hpc ht =>
    have hl : Listed s l → Listed t l := fun hc => by
      rw [ht]
      exact hc.leave ⟨_, rfl⟩ fun j hj => by rwa [hpc]
    subst ht
    exact ⟨f, l, ⟨h.pool.enter hpc hle, h.ends, hsched, hwalk⟩, fun hc _ => hl hc,
      fun hc ho => hc.making (hl hc.toListed) rfl (fun _ _ => rfl) (hun hc ho), Or.inl rfl⟩
  | link p i hpc ht =>
    subst ht
    obtain ⟨-, hprio, -⟩ := h.link_mem hpc
    refine ⟨f, i :: l, ⟨h.pool.link hpc notMaking_sched, ?_, hsched,
      fun j hj => List.mem_cons_of_mem i (hwalk j hj)⟩, fun hc _ => hc.link h hpc,
      fun hc ho => hc.link h hpc (hun hc ho), Or.inr ⟨p, i, hpc, rfl, rfl⟩⟩
    obtain ⟨l', j, rfl, hj⟩ := h.ends
    exact ⟨i :: l', j, rfl, (hprio j).trans hj⟩
  | fail p hpc ht =>
    have hl : Listed s l → Listed t l := fun hc => by
      rw [ht]
      exact hc.leave ⟨_, rfl⟩ (by simp [CallPc.held])
    subst ht
    exact ⟨f, l, ⟨h.pool.fail hpc (notMaking_sem _), h.ends, hsched, hwalk⟩, fun hc _ => hl hc,
      fun hc ho => hc.making (hl hc.toListed) rfl (fun _ _ => rfl) (hun hc ho), Or.inl rfl⟩

end

end Kernel
