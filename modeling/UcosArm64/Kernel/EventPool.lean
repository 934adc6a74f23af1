import UcosArm64.Kernel.WaitLists

set_option relaxedAutoImplicit false
set_option autoImplicit false

/-!
# The event control blocks

`OSSemCreate` takes its event control block from `OSEventFreeList`, a list through the field
`OSEventPtr` of the blocks, and fills it after its critical section. No other service touches this
list, and no block is ever given back. Only a block that is a semaphore has tasks on its wait list,
and a post readies the highest of them.

## Main definitions

* `Kernel.EventPool` — the free list holds the unused blocks that no task has taken.
* `Kernel.SameEvents` — the list and the types of the blocks are as before.
* `Kernel.EventEffect` — what a step does to the blocks.

## Main results

* `Kernel.osStep_events` — the inversion of a step, as to the blocks.
* `Kernel.semCreate_pool` — what `OSSemCreate` hands out, in every run.
* `Kernel.semPost_highest` — whom `OSSemPost` readies, in every run.
-/

namespace Kernel

open Transition

/-- **The event control blocks**, for the places of the tasks and the free list `fe`: an unused
block is on the list, or one task has taken it in `OSSemCreate`; and only semaphores have tasks on
their wait lists. -/
structure EventPool (cfg : OsCfg) (k : OsMem) (pc : ℕ → CallPc) (fe : List ℕ) : Prop where
  free : Linked (fun e => (k.eventTbl e).ptr) k.eventFreeList fe
  mem_free : ∀ e, e ∈ fe ↔ e < cfg.maxEvents ∧ (k.eventTbl e).type = .unused ∧
    ∀ q n, pc q ≠ .semCreating e n
  taken : ∀ q e n, pc q = .semCreating e n → e < cfg.maxEvents ∧ (k.eventTbl e).type = .unused
  takenBy : ∀ q r e n m, pc q = .semCreating e n → pc r = .semCreating e m → q = r
  used : ∀ e, (k.eventTbl e).type = .sem → e < cfg.maxEvents
  wait : ∀ e p, (k.eventTbl e).wait.Mem p → (k.eventTbl e).type = .sem

/-- The free list and the types of the blocks are as before, and tasks have joined the wait lists of
semaphores only. -/
structure SameEvents (k k' : OsMem) : Prop where
  freeList : k'.eventFreeList = k.eventFreeList
  type : ∀ e, (k'.eventTbl e).type = (k.eventTbl e).type
  ptr : ∀ e, (k'.eventTbl e).ptr = (k.eventTbl e).ptr
  wait : ∀ e p, (k'.eventTbl e).wait.Mem p →
    (k.eventTbl e).wait.Mem p ∨ (k.eventTbl e).type = .sem

section

variable {cfg : OsCfg} {k k₁ k₂ : OsMem} {pc pc' : ℕ → CallPc} {fe : List ℕ} {e : ℕ}

/-! ## Services that leave the list alone -/

/-- The tables are the same. -/
lemma sameEvents_of_eq (htbl : k₁.eventTbl = k.eventTbl)
    (hfree : k₁.eventFreeList = k.eventFreeList) :
    SameEvents k k₁ := by
  refine ⟨hfree, ?_, ?_, ?_⟩
  · simp [htbl]
  · simp [htbl]
  · simp +contextual [htbl]

/-- Nothing has changed. -/
lemma SameEvents.refl (k : OsMem) : SameEvents k k := sameEvents_of_eq rfl rfl

/-- Two steps that leave the pool alone. -/
lemma SameEvents.trans (h : SameEvents k k₁) (h' : SameEvents k₁ k₂) : SameEvents k k₂ := by
  refine ⟨h'.freeList.trans h.freeList, fun e => (h'.type e).trans (h.type e),
    fun e => (h'.ptr e).trans (h.ptr e), fun e p hp => ?_⟩
  rcases h'.wait e p hp with hp | htype
  · exact h.wait e p hp
  · exact Or.inr ((h.type e).symm.trans htype)

/-- The count and the wait list of a block are written. -/
lemma sameEvents_setEvent (k : OsMem) (e : ℕ) (b : OsEvent)
    (hb : ∀ p, b.wait.Mem p → (k.eventTbl e).wait.Mem p ∨ (k.eventTbl e).type = .sem) :
    SameEvents k (k.setEvent e { k.eventTbl e with toOsEvent := b }) := by
  refine ⟨rfl, fun e' => ?_, fun e' => ?_, fun e' p hp => ?_⟩
  all_goals by_cases he : e' = e
  · subst he
    rw [setEvent_self]
  · rw [setEvent_of_ne _ _ he]
  · subst he
    rw [setEvent_self]
  · rw [setEvent_of_ne _ _ he]
  · subst he
    rw [setEvent_self] at hp
    exact hb p hp
  · rw [setEvent_of_ne _ _ he] at hp
    exact Or.inl hp

/-- Writing a TCB leaves the pool alone. -/
lemma sameEvents_setTcb (k : OsMem) (ptcb : TcbPtr) (t : OsTcb) :
    SameEvents k (k.setTcb ptcb t) := by
  cases ptcb <;> exact sameEvents_of_eq rfl rfl

/-- Taking a task off a wait list leaves the pool alone. -/
lemma sameEvents_remove (k : OsMem) (ptcb : TcbPtr) (e : ℕ) :
    SameEvents k (k.osEventTaskRemove ptcb e) :=
  sameEvents_setEvent k e _ fun _ hp => Or.inl ((PrioBitmap.mem_remove _ _ _).mp hp).2

/-- A new count leaves the pool alone. -/
lemma sameEvents_setCnt (k : OsMem) (e : ℕ) (cnt : UInt16) : SameEvents k (k.setCnt e cnt) :=
  sameEvents_setEvent k e _ fun _ hp => Or.inl hp

/-- `OS_Sched` leaves the pool alone. -/
lemma sameEvents_osSched (k : OsMem) : SameEvents k k.osSched := by
  unfold OsMem.osSched OsMem.switch
  split_ifs <;> exact sameEvents_of_eq rfl rfl

/-- `OSTaskSuspend` leaves the pool alone. -/
lemma sameEvents_osTaskSuspend (cfg : OsCfg) (k : OsMem) (prio : ℕ) :
    SameEvents k (k.osTaskSuspend cfg prio).1 := by
  rcases osTaskSuspend_cases cfg k prio with ⟨hk, -⟩ | ⟨p, i, -, -, -, hk⟩
  · rw [hk]
    exact SameEvents.refl k
  · rw [hk]
    exact sameEvents_of_eq rfl rfl

/-- `OSTaskResume` leaves the pool alone. -/
lemma sameEvents_osTaskResume (cfg : OsCfg) (k : OsMem) (prio : ℕ) :
    SameEvents k (k.osTaskResume cfg prio).1 := by
  rcases osTaskResume_cases cfg k prio with ⟨hk, -⟩ | ⟨i, -, -, -, k', hk', hk⟩
  · rw [hk]
    exact SameEvents.refl k
  · split_ifs at hk
    · rw [hk, hk']
      exact sameEvents_of_eq rfl rfl
    · rw [hk, hk']
      exact sameEvents_of_eq rfl rfl

/-- `OSTimeDly` leaves the pool alone. -/
lemma sameEvents_osTimeDly (k : OsMem) (ticks : UInt32) : SameEvents k (k.osTimeDly ticks).1 := by
  simp only [OsMem.osTimeDly]
  split_ifs
  · exact SameEvents.refl k
  · exact SameEvents.refl k
  · have hset := sameEvents_setTcb ({ k with rdy := k.rdy.remove (k.block k.tcbCur).prio } : OsMem)
      k.tcbCur { (k.block k.tcbCur).toOsTcb with dly := ticks }
    exact ⟨hset.freeList, hset.type, hset.ptr, hset.wait⟩
  · exact SameEvents.refl k

/-- A tick leaves the pool alone. -/
lemma sameEvents_osTimeTickTcb (k : OsMem) (i : ℕ) : SameEvents k (k.osTimeTickTcb i) := by
  rcases osTimeTickTcb_cases k i with ⟨-, hk⟩ | ⟨-, -, hk⟩ | ⟨-, -, t, -, -, -, hk⟩
  · rw [hk]
    exact SameEvents.refl k
  · rw [hk]
    exact sameEvents_of_eq rfl rfl
  · rw [hk]
    split_ifs <;> exact sameEvents_of_eq rfl rfl

/-- `OS_EventTaskRdy` leaves the pool alone. -/
lemma sameEvents_osEventTaskRdy (k : OsMem) (e : ℕ) (msk pendStat : UInt8) :
    SameEvents k (k.osEventTaskRdy e msk pendStat).1 := by
  simp only [OsMem.osEventTaskRdy]
  refine SameEvents.trans ?_ (sameEvents_remove _ _ e)
  split_ifs
  · exact (sameEvents_setTcb k _ _).trans (sameEvents_of_eq rfl rfl)
  · exact sameEvents_setTcb k _ _

/-- `OSSemPost` leaves the pool alone. -/
lemma sameEvents_osSemPost (k : OsMem) (pevent : Option ℕ) :
    SameEvents k (k.osSemPost pevent).1 := by
  unfold OsMem.osSemPost
  split
  · exact SameEvents.refl k
  · split_ifs
    · exact SameEvents.refl k
    · exact sameEvents_osEventTaskRdy k _ _ _
    · exact sameEvents_setCnt k _ _
    · exact SameEvents.refl k

/-- `OSSemAccept` leaves the pool alone. -/
lemma sameEvents_osSemAccept (k : OsMem) (pevent : Option ℕ) :
    SameEvents k (k.osSemAccept pevent).1 := by
  simp only [OsMem.osSemAccept]
  split
  · exact SameEvents.refl k
  · split_ifs
    · exact SameEvents.refl k
    · exact sameEvents_setCnt k _ _
    · exact SameEvents.refl k

/-- A task waits on a semaphore. -/
lemma sameEvents_osSemPend (k : OsMem) (pevent : Option ℕ) (timeout : UInt32) :
    SameEvents k (k.osSemPend pevent timeout).1 := by
  simp only [OsMem.osSemPend]
  split
  · exact SameEvents.refl k
  · rename_i e
    split_ifs with htype
    · exact SameEvents.refl k
    · exact SameEvents.refl k
    · exact sameEvents_setCnt k _ _
    · have hset :=
        sameEvents_setTcb k k.tcbCur ⟨(k.block k.tcbCur).stat ||| osStatSem, osStatPendOk,
        timeout⟩
      refine hset.trans (SameEvents.trans (sameEvents_setEvent _ e _ fun p _ => Or.inr ?_)
        (sameEvents_of_eq rfl rfl))
      rw [hset.type]
      exact not_not.mp htype

/-- The end of `OSSemPend` leaves the pool alone. -/
lemma sameEvents_osSemPendResume (k : OsMem) (e : ℕ) : SameEvents k (k.osSemPendResume e).1 := by
  simp only [OsMem.osSemPendResume]
  split_ifs
  · exact sameEvents_setTcb k _ _
  all_goals exact (sameEvents_remove k _ e).trans (sameEvents_setTcb _ _ _)

/-! ## One step -/

variable {s t u : TaskState} {a : TaskAction}

/-- A call of the current task other than `OSSemCreate`.

**Proof sketch.** One case per service, each with its own `SameEvents` lemma. -/
lemma serviceStep_events (ha : ∀ cnt, a ≠ .semCreate cnt) (hstep : serviceStep cfg s a = some t) :
    SameEvents s.mem t.mem := by
  have hcall : ∀ k b, (s.afterCall k b).mem = k := by
    intro k b
    unfold TaskState.afterCall
    split_ifs <;> rfl
  cases a with
  | create prio =>
    rcases osTaskCreate_cases cfg s.mem prio with ⟨err, hk⟩ | ⟨-, -, hk⟩
    all_goals
      simp only [serviceStep, hk] at hstep
      obtain rfl := Option.some.inj hstep
      exact sameEvents_of_eq rfl rfl
  | suspend prio =>
    obtain rfl := Option.some.inj hstep
    rw [hcall]
    exact sameEvents_osTaskSuspend cfg s.mem prio
  | resume prio =>
    obtain rfl := Option.some.inj hstep
    rw [hcall]
    exact sameEvents_osTaskResume cfg s.mem prio
  | dly ticks =>
    obtain rfl := Option.some.inj hstep
    rw [hcall]
    exact sameEvents_osTimeDly s.mem ticks
  | dlyHmsm hours minutes seconds ms =>
    obtain rfl := Option.some.inj hstep
    rw [hcall]
    rcases osTimeDlyHmsm_cases s.mem hours minutes seconds ms with ⟨err, hk⟩ | hk
    · rw [hk]
      exact SameEvents.refl _
    · rw [hk]
      exact sameEvents_osTimeDly s.mem _
  | timeSet ticks =>
    obtain rfl := Option.some.inj hstep
    exact sameEvents_of_eq rfl rfl
  | lock =>
    obtain rfl := Option.some.inj hstep
    rcases osSchedLock_cases s.mem with hk | hk
    all_goals
      rw [hk]
      exact sameEvents_of_eq rfl rfl
  | unlock =>
    have hk : SameEvents s.mem s.mem.osSchedUnlock.1 := by
      rcases osSchedUnlock_cases s.mem with hk | ⟨-, hk⟩
      all_goals
        rw [hk]
        exact sameEvents_of_eq rfl rfl
    simp only [serviceStep] at hstep
    split_ifs at hstep <;> (obtain rfl := Option.some.inj hstep; exact hk)
  | semCreate cnt => exact absurd rfl (ha cnt)
  | pend pevent timeout =>
    have hpend := sameEvents_osSemPend s.mem pevent timeout
    simp only [serviceStep] at hstep
    split at hstep
    all_goals
      rename_i hk
      rw [hk] at hpend
      obtain rfl := Option.some.inj hstep
      exact hpend
  | post pevent =>
    have hpost := sameEvents_osSemPost s.mem pevent
    simp only [serviceStep] at hstep
    split at hstep
    all_goals
      rename_i hk
      rw [hk] at hpost
      obtain rfl := Option.some.inj hstep
      exact hpost
  | accept pevent =>
    obtain rfl := Option.some.inj hstep
    exact sameEvents_osSemAccept s.mem pevent
  | _ => simp [serviceStep] at hstep

/-- The next step of the current task in its call, outside `OSSemCreate`. -/
lemma nextStep_events (hnot : ∀ e n, s.pc s.mem.prioCur ≠ .semCreating e n)
    (hstep : nextStep s = some t) : SameEvents s.mem t.mem := by
  unfold nextStep at hstep
  split at hstep
  · cases hstep
  · split at hstep
    · rename_i k i hk
      obtain rfl := Option.some.inj hstep
      rw [(osTcbInit_eq_some hk).2]
      exact sameEvents_of_eq rfl rfl
    · rename_i k hk
      obtain rfl := Option.some.inj hstep
      rw [(osTcbInit_eq_none hk).2]
      exact SameEvents.refl _
  · obtain rfl := Option.some.inj hstep
    exact sameEvents_of_eq rfl rfl
  · rename_i ptcb _
    obtain rfl := Option.some.inj hstep
    obtain ⟨tcbTbl, hk⟩ := osTcbInitLink_rest s.mem ptcb
    rw [hk]
    exact sameEvents_of_eq rfl rfl
  · obtain rfl := Option.some.inj hstep
    exact sameEvents_of_eq rfl rfl
  · rename_i hpc
    exact absurd hpc (hnot _ _)
  · obtain rfl := Option.some.inj hstep
    exact sameEvents_osSched s.mem
  · obtain rfl := Option.some.inj hstep
    exact sameEvents_osSched s.mem
  · obtain rfl := Option.some.inj hstep
    exact sameEvents_osSemPendResume s.mem _
  · obtain rfl := Option.some.inj hstep
    exact sameEvents_osSched s.mem
  · obtain rfl := Option.some.inj hstep
    exact SameEvents.refl _
  · obtain rfl := Option.some.inj hstep
    exact sameEvents_osSched s.mem

/-- A step of an interrupt. -/
lemma isrStep_events (hstep : isrStep cfg s a = some t) : SameEvents s.mem t.mem := by
  rcases isrStep_cases hstep with ⟨k, hk, ht⟩ | ⟨-, rfl⟩ | ⟨i, rest, -, -,
    ⟨-, rfl⟩ | ⟨-, rfl⟩⟩ | ⟨-, rfl⟩
  · have hsame : SameEvents s.mem k := by
      rcases hk with ⟨pevent, -, rfl⟩ | ⟨prio, -, rfl⟩ | ⟨prio, -, rfl⟩
      · exact sameEvents_osSemPost s.mem pevent
      · exact sameEvents_osTaskSuspend cfg s.mem prio
      · exact sameEvents_osTaskResume cfg s.mem prio
    rcases ht with rfl | rfl
    · exact hsame
    · exact hsame.trans (sameEvents_osSched _)
  · exact sameEvents_of_eq rfl rfl
  · exact sameEvents_osTimeTickTcb s.mem _
  · exact SameEvents.refl _
  · show SameEvents s.mem s.mem.osIntExit
    simp only [OsMem.osIntExit, OsMem.switch]
    split_ifs <;> exact sameEvents_of_eq rfl rfl

/-- **What a step does to the blocks**: it touches counts and wait lists only; or `OSSemCreate`
takes the first block off the list; or it makes the block that it has taken a semaphore. -/
inductive EventEffect (s : TaskState) (a : TaskAction) (t : TaskState) : Prop
  | same (hsame : SameEvents s.mem t.mem)
      (hpc : ∀ q e n, t.pc q = .semCreating e n ↔ s.pc q = .semCreating e n)
  | take (n : UInt16) (e : ℕ) (ha : a = .semCreate n) (huser : s.pc s.mem.prioCur = .sem .user)
      (hfree : s.mem.eventFreeList = some e)
      (ht : t = { s.setPc (.semCreating e n) with
        mem := { s.mem with eventFreeList := (s.mem.eventTbl e).ptr } })
  | init (e : ℕ) (n : UInt16) (hpc : s.pc s.mem.prioCur = .semCreating e n)
      (ht : t = { s.setPc (.sem .user) with mem := s.mem.osSemCreateInit e n })

/-- The tasks in `OSSemCreate`, when the current task goes from a place outside it to another
one. -/
lemma creating_update {q₀ : ℕ} {c : CallPc} (hold : ∀ e n, pc q₀ ≠ .semCreating e n)
    (hc : ∀ e n, c ≠ .semCreating e n) (q e : ℕ) (n : UInt16) :
    Function.update pc q₀ c q = .semCreating e n ↔ pc q = .semCreating e n := by
  by_cases hq : q = q₀
  · subst hq
    rw [Function.update_self]
    exact iff_of_false (hc e n) (hold e n)
  · rw [Function.update_of_ne hq]

/-- A call of the current task, as to the blocks. -/
lemma serviceStep_effect (huser : s.pc s.mem.prioCur = .sem .user)
    (hstep : serviceStep cfg s a = some t) : EventEffect s a t := by
  by_cases ha : ∀ n, a ≠ .semCreate n
  · refine .same (serviceStep_events ha hstep) fun q e n => ?_
    rcases (serviceStep_place hstep).2 with hpc | ⟨c, hpc, -, hc⟩
    · rw [hpc]
    · rw [hpc]
      refine creating_update (by simp [huser]) (fun e n he => ?_) q e n
      obtain ⟨m, hm⟩ := hc e n he
      exact ha m hm
  · obtain ⟨n, rfl⟩ : ∃ n, a = .semCreate n := by simpa using ha
    simp only [serviceStep] at hstep
    rcases osSemCreateTake_cases s.mem with ⟨-, hk⟩ | ⟨e, hfree, hk⟩
    · rw [hk] at hstep
      obtain rfl := Option.some.inj hstep
      exact .same (SameEvents.refl _) fun _ _ _ => Iff.rfl
    · rw [hk] at hstep
      exact .take n e rfl huser hfree (Option.some.inj hstep).symm

/-- The next step of the current task in its call, as to the blocks. -/
lemma nextStep_effect (hstep : nextStep s = some t) : EventEffect s a t := by
  by_cases hnot : ∀ e n, s.pc s.mem.prioCur ≠ .semCreating e n
  · obtain ⟨-, c, hpc, -, hc⟩ := nextStep_place hstep
    refine .same (nextStep_events hnot hstep) fun q e n => ?_
    rw [hpc]
    exact creating_update hnot hc q e n
  · simp only [not_forall, not_not] at hnot
    obtain ⟨e, n, hpc⟩ := hnot
    simp only [nextStep, hpc] at hstep
    exact .init e n hpc (Option.some.inj hstep).symm

/-- **The inversion of a step, as to the blocks.** -/
theorem osStep_events (hstep : osStep cfg s a = some t) : EventEffect s a t := by
  unfold osStep at hstep
  split at hstep
  · split_ifs at hstep
    obtain rfl := Option.some.inj hstep
    refine .same ?_ fun _ _ _ => Iff.rfl
    show SameEvents s.mem s.mem.osIntEnter
    unfold OsMem.osIntEnter
    split_ifs <;> exact sameEvents_of_eq rfl rfl
  all_goals split_ifs at hstep
  all_goals first
    | exact .same (isrStep_events hstep) fun _ _ _ => by rw [isrStep_pc hstep]
    | exact nextStep_effect hstep
    | exact serviceStep_effect (by tauto) hstep

/-! ## `OSSemCreate` -/

/-- The blocks after a step that touches counts and wait lists only. -/
lemma EventPool.congr (h : EventPool cfg k pc fe) (he : SameEvents k k₁)
    (hpc : ∀ q e n, pc' q = .semCreating e n ↔ pc q = .semCreating e n) :
    EventPool cfg k₁ pc' fe := by
  refine ⟨?_, fun e => ?_, fun q e n hq => ?_, fun q r e n m hq hr => ?_, fun e htype => ?_,
    fun e p hp => ?_⟩
  · rw [he.freeList]
    exact h.free.congr fun e _ => he.ptr e
  · simp only [he.type, ne_eq, hpc]
    exact h.mem_free e
  · rw [he.type]
    exact h.taken q e n ((hpc q e n).mp hq)
  · exact h.takenBy q r e n m ((hpc q e n).mp hq) ((hpc r e m).mp hr)
  · exact h.used e ((he.type e).symm.trans htype)
  · rw [he.type]
    rcases he.wait e p hp with hp | htype
    · exact h.wait e p hp
    · exact htype

/-- The first block is taken off the list.

**Proof sketch.** The head of the free list comes into the hands of the current task; it was unused
and in no hands, and is the only block to leave the list. -/
lemma EventPool.take (h : EventPool cfg k pc fe) {q : ℕ} (hq : ∀ e n, pc q ≠ .semCreating e n)
    (hfree : k.eventFreeList = some e) (n : UInt16) :
    ∃ fe', fe = e :: fe' ∧ EventPool cfg { k with eventFreeList := (k.eventTbl e).ptr }
      (Function.update pc q (.semCreating e n)) fe' := by
  have hpcs : ∀ r e' m, Function.update pc q (.semCreating e n) r = .semCreating e' m ↔
      r = q ∧ e' = e ∧ m = n ∨ pc r = .semCreating e' m := by
    intro r e' m
    by_cases hr : r = q
    · subst hr
      rw [Function.update_self, CallPc.semCreating.injEq]
      have := hq e' m
      tauto
    · rw [Function.update_of_ne hr]
      tauto
  obtain ⟨fe', rfl⟩ : ∃ fe', fe = e :: fe' := by
    have hhead := h.free.head_eq
    rw [hfree] at hhead
    cases fe with
    | nil => cases hhead
    | cons e' fe' =>
      obtain rfl := Option.some.inj hhead
      exact ⟨fe', rfl⟩
  obtain ⟨hlt, hunused, hnot⟩ := (h.mem_free e).mp List.mem_cons_self
  have hnodup := List.nodup_cons.mp h.free.nodup
  refine ⟨fe', rfl, h.free.2, fun e' => ?_, fun r e' m hr => ?_, fun r r' e' m m' hr hr' => ?_,
    h.used,
    h.wait⟩
  · by_cases he : e' = e
    · subst he
      refine iff_of_false hnodup.1 fun hmem => hmem.2.2 q n ?_
      exact Function.update_self _ _ _
    · have hmem := h.mem_free e'
      rw [List.mem_cons, or_iff_right he] at hmem
      simp only [hmem, ne_eq, hpcs, he, false_and, and_false, false_or]
  · rcases (hpcs r e' m).mp hr with ⟨-, rfl, -⟩ | hr
    · exact ⟨hlt, hunused⟩
    · exact h.taken r e' m hr
  · rcases (hpcs r e' m).mp hr with ⟨rfl, rfl, -⟩ | hpc
    · exact (((hpcs r' e' m').mp hr').resolve_right (hnot r' m')).1.symm
    · rcases (hpcs r' e' m').mp hr' with ⟨-, rfl, -⟩ | hpc'
      · exact absurd hpc (hnot r m)
      · exact h.takenBy r r' e' m m' hpc hpc'

/-- The block that a task has taken becomes a semaphore.

**Proof sketch.** The block is in the hands of the current task only, so that nobody else's
changes; it is a semaphore now, and not free. -/
lemma EventPool.init (h : EventPool cfg k pc fe) {q : ℕ} {n : UInt16}
    (hq : pc q = .semCreating e n) :
    EventPool cfg (k.osSemCreateInit e n) (Function.update pc q (.sem .user)) fe := by
  obtain ⟨hlt, hunused⟩ := h.taken q e n hq
  have hnot : e ∉ fe := fun he => ((h.mem_free e).mp he).2.2 q n hq
  have hother : ∀ e', e' ≠ e → (k.osSemCreateInit e n).eventTbl e' = k.eventTbl e' := fun e' he =>
    setEvent_of_ne k _ he
  have hself : (k.osSemCreateInit e n).eventTbl e = ⟨⟨n, PrioBitmap.empty⟩, .sem, none⟩ :=
    setEvent_self k e _
  have hpcs : ∀ r e' m, Function.update pc q (.sem .user) r = .semCreating e' m ↔
      r ≠ q ∧ pc r = .semCreating e' m := by
    intro r e' m
    by_cases hr : r = q
    · rw [hr, Function.update_self]
      simp
    · rw [Function.update_of_ne hr]
      tauto
  -- the other blocks that are taken
  have hne : ∀ r e' m, r ≠ q → pc r = .semCreating e' m → e' ≠ e := by
    rintro r e' m hr hpc rfl
    exact hr (h.takenBy r q e' m n hpc hq)
  refine ⟨h.free.congr fun e' he' => ?_, fun e' => ?_, fun r e' m hr => ?_,
    fun r r' e' m m' hr hr' => ?_, fun e' htype => ?_, fun e' p hp => ?_⟩
  · rw [hother e' (ne_of_mem_of_not_mem he' hnot)]
  · by_cases he : e' = e
    · subst he
      rw [hself]
      exact iff_of_false hnot (by simp)
    · rw [hother e' he, h.mem_free e']
      refine and_congr_right fun _ => and_congr_right fun _ => forall_congr' fun r =>
        forall_congr' fun m => not_congr ?_
      rw [hpcs]
      refine (and_iff_right_of_imp fun hpc hr => he ?_).symm
      subst hr
      rw [hq] at hpc
      exact (CallPc.semCreating.inj hpc).1.symm
  · obtain ⟨hr, hpc⟩ := (hpcs r e' m).mp hr
    rw [hother e' (hne r e' m hr hpc)]
    exact h.taken r e' m hpc
  · exact h.takenBy r r' e' m m' ((hpcs r e' m).mp hr).2 ((hpcs r' e' m').mp hr').2
  · by_cases he : e' = e
    · exact he ▸ hlt
    · rw [hother e' he] at htype
      exact h.used e' htype
  · by_cases he : e' = e
    · subst he
      rw [hself] at hp
      exact absurd hp (PrioBitmap.not_mem_empty p)
    · rw [hother e' he] at hp ⊢
      exact h.wait e' p hp

/-- What a whole call of `OSSemCreate` leaves, before `OSStart`. -/
lemma EventPool.osSemCreate (h : EventPool cfg k pc fe) {q : ℕ} (hq : pc q = .sem .user)
    (n : UInt16) : ∃ fe', EventPool cfg (k.osSemCreate n).1 pc fe' := by
  rw [OsMem.osSemCreate_eq]
  rcases osSemCreateTake_cases k with ⟨-, hk⟩ | ⟨e, hfree, hk⟩
  · rw [hk]
    exact ⟨fe, h⟩
  · rw [hk]
    obtain ⟨fe', -, hpool⟩ := h.take (q := q) (by simp [hq]) hfree n
    have hinit := hpool.init (q := q) (Function.update_self _ _ _)
    rw [Function.update_idem, ← hq, Function.update_eq_self] at hinit
    exact ⟨fe', hinit⟩

/-! ## From `OSInit` on -/

/-- The list that `OSInit` makes: all blocks are free. -/
lemma eventPool_osInitEventList (cfg : OsCfg) (k : OsMem) :
    EventPool cfg (k.osInitEventList cfg) (fun _ => .sem .user) (List.range cfg.maxEvents) := by
  have hpos := cfg.maxEvents_gt
  have hentry : ∀ e, (k.osInitEventList cfg).eventTbl e = { EventBlock.cleared with
      ptr := if e < cfg.maxEvents - 1 then some (e + 1) else none } := by
    intro e
    simp only [OsMem.osInitEventList, Function.update_apply]
    rw [foldl_update_range fun ix (b : EventBlock) =>
        { b with type := .unused, ptr := some (ix + 1) },
      foldl_update_range fun ix (b : EventBlock) =>
        { b with type := .unused, ptr := some (ix + 1) }]
    split_ifs
    all_goals first | omega | rfl
  refine ⟨?_, fun e => ?_, by simp, by simp, fun e htype => ?_, fun e p hp => ?_⟩
  · rw [show cfg.maxEvents = cfg.maxEvents - 1 + 1 by omega]
    refine linked_range (fun e he => ?_) ?_
    · rw [hentry]
      exact if_pos he
    · rw [hentry]
      exact if_neg (lt_irrefl _)
  · rw [List.mem_range, hentry]
    exact (and_iff_left ⟨rfl, by simp⟩).symm
  · rw [hentry] at htype
    cases htype
  · rw [hentry] at hp
    exact absurd hp (PrioBitmap.not_mem_empty p)

/-- `OSTaskCreate` leaves the pool alone. -/
lemma sameEvents_osTaskCreateAll (cfg : OsCfg) (k : OsMem) (prio : ℕ) :
    SameEvents k (k.osTaskCreateAll cfg prio).1 := by
  rcases osTaskCreate_cases cfg k prio with ⟨err, hk⟩ | ⟨-, -, hk⟩
  · simp only [OsMem.osTaskCreateAll, hk]
    exact SameEvents.refl k
  · simp only [OsMem.osTaskCreateAll, hk]
    set k₁ : OsMem := { k with tcbPrioTbl := Function.update k.tcbPrioTbl prio .reserved } with hk₁
    split
    · rename_i k₂ i hk₂
      obtain ⟨tcbTbl, hk₃⟩ := osTcbInitLink_rest (k₂.osTcbInitPrio prio i) i
      rw [hk₃, (osTcbInit_eq_some hk₂).2]
      exact sameEvents_of_eq rfl rfl
    · rename_i k₂ hk₂
      rw [(osTcbInit_eq_none hk₂).2]
      exact sameEvents_of_eq rfl rfl

/-- The blocks when multitasking starts. -/
lemma eventPool_taskInit (cfg : OsCfg) (k : OsMem) (calls : List BootCall) :
    ∃ fe, EventPool cfg (taskInit cfg k calls).mem (taskInit cfg k calls).pc fe := by
  have hinit : EventPool cfg (k.osInit cfg) (fun _ => .sem .user) (List.range cfg.maxEvents) :=
    (eventPool_osInitEventList cfg _).congr (sameEvents_osTaskCreateAll cfg _ _) fun _ _ _ =>
      Iff.rfl
  obtain ⟨fe, hrun⟩ : ∃ fe, EventPool cfg (run (bootStep cfg) (k.osInit cfg) calls)
      (fun _ => .sem .user) fe := by
    refine run_invariant (I := fun k => ∃ fe, EventPool cfg k (fun _ => .sem .user) fe) ?_
      ⟨_, hinit⟩
      calls
    rintro k call ⟨fe, h⟩
    cases call with
    | create prio =>
      exact ⟨fe, h.congr (sameEvents_osTaskCreateAll cfg k prio) fun _ _ _ => Iff.rfl⟩
    | semCreate cnt => exact h.osSemCreate (q := 0) rfl cnt
  refine ⟨fe, hrun.congr ?_ fun _ _ _ => Iff.rfl⟩
  show SameEvents _ (OsMem.osStart _)
  unfold OsMem.osStart
  split_ifs <;> exact sameEvents_of_eq rfl rfl

/-- The blocks after a step. -/
lemma EventPool.step (h : EventPool cfg s.mem s.pc fe) (hstep : osStep cfg s a = some t) :
    ∃ fe', EventPool cfg t.mem t.pc fe' := by
  cases osStep_events hstep with
  | same hsame hpc => exact ⟨fe, h.congr hsame hpc⟩
  | take n e ha huser hfree ht =>
    subst ht
    obtain ⟨fe', -, hpool⟩ := h.take (q := s.mem.prioCur) (by simp [huser]) hfree n
    exact ⟨fe', hpool⟩
  | init e n hpc ht =>
    subst ht
    exact ⟨fe, h.init hpc⟩

/-- The blocks in every reachable state. -/
lemma eventPool_of_reachable {calls : List BootCall}
    (h : Reachable (osStep cfg) (taskInit cfg k calls) s) : ∃ fe, EventPool cfg s.mem s.pc fe := by
  refine h.invariant (I := fun s => ∃ fe, EventPool cfg s.mem s.pc fe) ?_
    (eventPool_taskInit cfg k calls)
  rintro s a t ⟨fe, hs⟩ hstep
  exact hs.step hstep

/-- **The block `e` is the task `p`'s**, who makes it a semaphore with the count `n`, or it is a
semaphore already. -/
def Granted (s : TaskState) (p e : ℕ) (n : UInt16) : Prop :=
  s.pc p = .semCreating e n ∨ (s.mem.eventTbl e).type = .sem

/-- A block that has been handed out stays so. -/
lemma Granted.step {p : ℕ} {n : UInt16} (hg : Granted s p e n) (hstep : osStep cfg s a = some t) :
    Granted t p e n := by
  cases osStep_events hstep with
  | same hsame hpc =>
    exact hg.imp (fun hp => (hpc p e n).mpr hp) fun htype => (hsame.type e).trans htype
  | take m e' ha huser hfree ht =>
    subst ht
    refine hg.imp (fun hp => ?_) fun htype => htype
    have hne : p ≠ s.mem.prioCur := by
      rintro rfl
      rw [huser] at hp
      cases hp
    exact (Function.update_of_ne hne _ _).trans hp
  | init e' m hpc ht =>
    subst ht
    by_cases he : e = e'
    · subst he
      exact Or.inr (congrArg EventBlock.type (setEvent_self s.mem e _))
    · refine hg.imp (fun hp => ?_) fun htype => ?_
      · have hne : p ≠ s.mem.prioCur := by
          rintro rfl
          rw [hpc] at hp
          exact he (CallPc.semCreating.inj hp).1.symm
        exact (Function.update_of_ne hne _ _).trans hp
      · exact (congrArg EventBlock.type (setEvent_of_ne s.mem _ he)).trans htype

/-- `OS_EventTaskRdy` leaves the counts alone. -/
lemma cnt_osEventTaskRdy (k : OsMem) (e : ℕ) (msk pendStat : UInt8) (e' : ℕ) :
    ((k.osEventTaskRdy e msk pendStat).1.eventTbl e').cnt = (k.eventTbl e').cnt := by
  have hset : ∀ ptcb t, (k.setTcb ptcb t).eventTbl = k.eventTbl := by
    intro ptcb t
    cases ptcb <;> rfl
  simp only [OsMem.osEventTaskRdy, OsMem.osEventTaskRemove, OsMem.setWait]
  by_cases he : e' = e
  · subst he
    rw [setEvent_self]
    split_ifs
    · exact congrArg (fun tbl => (tbl e').cnt) (hset _ _)
    · exact congrArg (fun tbl => (tbl e').cnt) (hset _ _)
  · rw [setEvent_of_ne _ _ he]
    split_ifs
    · exact congrArg (fun tbl => (tbl e').cnt) (hset _ _)
    · exact congrArg (fun tbl => (tbl e').cnt) (hset _ _)

/-- **A post goes to the highest task that waits.** In every reachable state, a post to a semaphore
with tasks on its wait list takes the highest of them off this list, and no other off any list;
this task has its semaphore, and becomes ready unless it is suspended; no other task becomes ready
or has its TCB touched, and no count changes.

**Proof sketch.** Only a semaphore has tasks on its wait list, and the bitmap of the list yields
the lowest of its priorities. -/
theorem semPost_highest {calls : List BootCall} {p₀ : ℕ}
    (h : Reachable (osStep cfg) (taskInit cfg k calls) s) (hwait : (s.mem.eventTbl e).wait.Mem p₀) :
    ∃ p i k', (s.mem.eventTbl e).wait.Mem p ∧ (∀ q, (s.mem.eventTbl e).wait.Mem q → p ≤ q) ∧
      s.mem.tcbPrioTbl p = .tcb i ∧ s.mem.osSemPost (some e) = (k', .readied p) ∧
      (∀ e' q, (k'.eventTbl e').wait.Mem q ↔
        (s.mem.eventTbl e').wait.Mem q ∧ ¬ (e' = e ∧ q = p)) ∧
      (k'.tcbTbl i).toOsTcb = ⟨(s.mem.tcbTbl i).stat &&& ~~~osStatSem, osStatPendOk, 0⟩ ∧
      (∀ q, k'.rdy.Mem q ↔ s.mem.rdy.Mem q ∨
        q = p ∧ (k'.tcbTbl i).stat &&& osStatSuspend = osStatRdy) ∧
      (∀ j, (s.mem.tcbTbl j).prio ≠ p → (k'.tcbTbl j).toOsTcb = (s.mem.tcbTbl j).toOsTcb) ∧
      ∀ e', (k'.eventTbl e').cnt = (s.mem.eventTbl e').cnt := by
  obtain ⟨f, l, hs⟩ := sysInv_of_reachable h
  obtain ⟨fe, hpool⟩ := eventPool_of_reachable h
  have hlt : ∀ q, (s.mem.eventTbl e).wait.Mem q → q < 64 := by
    intro q hq
    obtain ⟨-, i, hi⟩ := hs.sched.waitLive e q hq
    exact hs.lt_of_tbl hi
  have hgrp : (s.mem.eventTbl e).wait.grp ≠ 0 :=
    (hs.sched.waitValid e).grp_ne_zero_iff.mpr ⟨p₀, hlt p₀ hwait, hwait⟩
  obtain ⟨p, i, hfirst, hmem, -, htbl, hprio⟩ := hs.first_waiting hgrp
  have hle : ∀ q, (s.mem.eventTbl e).wait.Mem q → p ≤ q := fun q hq =>
    hfirst ▸ (hs.sched.waitValid e).first_le isLowest_osUnMap (hlt q hq) hq
  obtain ⟨htouch, hret, htcb, hrdy⟩ :=
    osEventTaskRdy_touches hfirst htbl hprio osStatSem osStatPendOk
  have hpost : s.mem.osSemPost (some e) =
      ((s.mem.osEventTaskRdy e osStatSem osStatPendOk).1, .readied p) := by
    simp only [OsMem.osSemPost, hpool.wait e p₀ hwait, hgrp, hret, ne_eq, not_true_eq_false,
      not_false_eq_true, if_false, if_true]
  refine ⟨p, i, _, hmem, hle, htbl, hpost, fun e' q => ?_, htcb, fun q => ?_, htouch.tcb,
    cnt_osEventTaskRdy s.mem e _ _⟩
  · rw [osEventTaskRdy_wait hfirst htbl hprio]
    split_ifs with he
    · subst he
      rw [PrioBitmap.mem_remove]
      tauto
    · tauto
  · rw [hrdy, htcb]
    split_ifs with hsus
    · rw [PrioBitmap.mem_insert]
      tauto
    · tauto

/-- Both tasks wait for the semaphore, the lower one first. -/
def postRun : List TaskAction :=
  [.dly 1, .task, .pend (some 0) 0, .task, .intEnter, .tick, .tickNext, .tickNext,
    .tickNext, .intExit,
    .pend (some 0) 0, .task, .intEnter]

/-- The post goes to the task 3. -/
theorem semPost_postRun :
    ∃ s k', exec (osStep osCfg) (taskInit osCfg OsMem.cleared twoTaskCalls) postRun = some s ∧
      s.mem.osSemPost (some 0) = (k', .readied 3) ∧
      ∀ q, (k'.eventTbl 0).wait.Mem q ↔ (s.mem.eventTbl 0).wait.Mem q ∧ q ≠ 3 := by
  have hobs : (exec (osStep osCfg) (taskInit osCfg OsMem.cleared twoTaskCalls) postRun).map
      (fun s => (decide ((s.mem.eventTbl 0).wait.Mem 3), decide ((s.mem.eventTbl 0).wait.Mem 5),
        (s.mem.osSemPost (some 0)).2)) = some (true, true, .readied 3) := by decide +kernel
  obtain ⟨s, hs, hval⟩ := Option.map_eq_some_iff.mp hobs
  simp only [Prod.mk.injEq, decide_eq_true_eq] at hval
  obtain ⟨hwait, -, hret⟩ := hval
  obtain ⟨p, i, k', -, -, -, hpost, hlists, -⟩ := semPost_highest ⟨postRun, hs⟩ hwait
  rw [hpost] at hret
  obtain rfl := OsMem.PostResult.readied.inj hret
  exact ⟨s, k', hs, hpost, fun q => by simpa using hlists 0 q⟩

end

end Kernel
