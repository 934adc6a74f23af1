import UcosArm64.Foundations.Tally
import UcosArm64.Kernel.SemInvariant

set_option relaxedAutoImplicit false
set_option autoImplicit false

/-!
# Conservation of the tokens of a semaphore

A semaphore starts with some tokens, a post brings one, and a pend or an accept that succeeds takes
one. A token that a post hands to a waiting task is not counted in `OSEventCnt`; it is on its way
until that task returns from `OSSemPend`. The post itself returns later than that if the task it
readied preempts it, so between the two the token has been brought by a call that has not yet
returned.

## Main definitions

* `Kernel.SemState.giving`, `Kernel.SemState.taking` — the calls between the two ends of a
  hand-over.
* `Kernel.Conserved` — the invariant.

## Main results

* `Kernel.Conserved.step` — every step keeps the invariant.
* `Kernel.sem_conservation` — conservation of the tokens, and to whom a post goes.
-/

namespace Kernel

open Transition

variable {ι : Type} [DecidableEq ι]

/-! ## Accounts -/

/-- The semaphore whose token has been handed to a task that has not yet returned from
`OSSemPend`. -/
def SemState.taker (s : SemState ι) (p : ℕ) : Option ι :=
  if s.handed p then (s.pc p).pending else none

/-- The number of calls of `OSSemPost` that have handed their token to a task and have not yet
returned. -/
def SemState.giving (cfg : OsConfig) (s : SemState ι) (i : ι) : ℕ :=
  tally cfg.tasks.toFinset (fun p => (s.pc p).posting) i

/-- The number of tasks that a post has readied and that have not yet returned from `OSSemPend`. -/
def SemState.taking (cfg : OsConfig) (s : SemState ι) (i : ι) : ℕ :=
  tally cfg.tasks.toFinset s.taker i

variable {cfg : OsConfig} {cnt : ι → UInt16} {s t : SemState ι}

/-- The posts under way depend on the places of the tasks only. -/
lemma SemState.giving_congr (h : ∀ p, (t.pc p).posting = (s.pc p).posting) (i : ι) :
    t.giving cfg i = s.giving cfg i :=
  tally_congr (fun p _ => h p) i

/-- The semaphores under way to their tasks depend on the tasks only. -/
lemma SemState.taking_congr (h : ∀ p, t.taker p = s.taker p) (i : ι) :
    t.taking cfg i = s.taking cfg i :=
  tally_congr (fun p _ => h p) i

/-- A task is about to return from `OSSemPost`. -/
lemma SemState.giving_enter {q : ℕ} (hq : q ∈ cfg.tasks)
    (h : ∀ p, p ≠ q → (t.pc p).posting = (s.pc p).posting) {i : ι}
    (hs : (s.pc q).posting = none) (ht : (t.pc q).posting = some i) (j : ι) :
    t.giving cfg j = s.giving cfg j + if i = j then 1 else 0 :=
  tally_enter (List.mem_toFinset.mpr hq) h hs ht j

/-- A task that ends its post is one fewer that gives. -/
lemma SemState.giving_leave {q : ℕ} (hq : q ∈ cfg.tasks)
    (h : ∀ p, p ≠ q → (t.pc p).posting = (s.pc p).posting) {i : ι}
    (hs : (s.pc q).posting = some i) (ht : (t.pc q).posting = none) (j : ι) :
    t.giving cfg j + (if i = j then 1 else 0) = s.giving cfg j :=
  tally_leave (List.mem_toFinset.mpr hq) h hs ht j

/-- A post has readied a task. -/
lemma SemState.taking_enter {q : ℕ} (hq : q ∈ cfg.tasks)
    (h : ∀ p, p ≠ q → t.taker p = s.taker p) {i : ι} (hs : s.taker q = none)
    (ht : t.taker q = some i) (j : ι) :
    t.taking cfg j = s.taking cfg j + if i = j then 1 else 0 :=
  tally_enter (List.mem_toFinset.mpr hq) h hs ht j

/-- A task that has got its semaphore is one fewer that takes. -/
lemma SemState.taking_leave {q : ℕ} (hq : q ∈ cfg.tasks)
    (h : ∀ p, p ≠ q → t.taker p = s.taker p) {i : ι} (hs : s.taker q = some i)
    (ht : t.taker q = none) (j : ι) :
    t.taking cfg j + (if i = j then 1 else 0) = s.taking cfg j :=
  tally_leave (List.mem_toFinset.mpr hq) h hs ht j

/-! ## The invariant -/

/-- **The invariant.** A semaphore with tokens has no waiters, and the tokens brought to a semaphore
are those it has and those that were taken. -/
structure Conserved (cfg : OsConfig) (cnt : ι → UInt16) (s : SemState ι) : Prop
    extends Sound cfg s where
  empty : ∀ i, (s.kernel.event i).cnt ≠ 0 → ∀ p, ¬ (s.kernel.event i).wait.Mem p
  balance : ∀ i, (cnt i).toNat + (s.ledger i).postOk + s.giving cfg i =
    (s.kernel.event i).cnt.toNat + (s.ledger i).pendOk + (s.ledger i).acceptOk + s.taking cfg i

/-- A step that moves no token. -/
lemma Conserved.of_same (h : Conserved cfg cnt s) (ht : Sound cfg t)
    (hcnt : ∀ i, (t.kernel.event i).cnt = (s.kernel.event i).cnt)
    (hwait : ∀ i p, (s.kernel.event i).cnt ≠ 0 → (t.kernel.event i).wait.Mem p →
      (s.kernel.event i).wait.Mem p)
    (hledger : t.ledger = s.ledger) (hgive : ∀ p, (t.pc p).posting = (s.pc p).posting)
    (htake : ∀ p, t.taker p = s.taker p) : Conserved cfg cnt t := by
  refine ⟨ht, fun i hi p hp => ?_, fun i => ?_⟩
  · rw [hcnt] at hi
    exact h.empty i hi p (hwait i p hi hp)
  · rw [hcnt, hledger, SemState.giving_congr hgive, SemState.taking_congr htake]
    exact h.balance i

/-- A change of the kernel's data that keeps the semaphores. -/
lemma Conserved.of_kernel (h : Conserved cfg cnt s) {k : OsState ι}
    (hk : Sound cfg { s with kernel := k }) (hevent : k.event = s.kernel.event) :
    Conserved cfg cnt { s with kernel := k } := by
  refine h.of_same hk (fun i => ?_) (fun i p _ hp => ?_) rfl (fun _ => rfl) fun _ => rfl
  · simp only [hevent]
  · simp only [hevent] at hp
    exact hp

/-- A task goes to another place from which it neither takes nor brings another token. -/
lemma Conserved.setPc (h : Conserved cfg cnt s) {p : ℕ} (hp : p ∈ cfg.tasks) {pc : TaskPc ι}
    (hpend : pc.pending = (s.pc p).pending) (hpost : pc.posting = (s.pc p).posting)
    (hsched : ∀ i, pc ≠ .pendSched i) (hrdy : p = s.kernel.prioCur → s.kernel.rdy.Mem p) :
    Conserved cfg cnt (s.setPc p pc) := by
  refine h.of_same (h.toSound.setPc hp hpend hsched hrdy) (fun _ => rfl) (fun _ _ _ hq => hq) rfl
    (fun q => ?_) fun q => ?_
  · by_cases hq : q = p
    · subst hq
      simp [SemState.setPc, hpost]
    · simp [SemState.setPc, hq]
  · by_cases hq : q = p
    · subst hq
      simp [SemState.taker, SemState.setPc, hpend]
    · simp [SemState.taker, SemState.setPc, hq]

/-- A step that counts on the semaphore `i` and records a call that has returned. -/
lemma Conserved.recount (h : Conserved cfg cnt s) {i : ι} {c : UInt16} {f : Ledger → Ledger}
    (hempty : c ≠ 0 → ∀ p, ¬ (s.kernel.event i).wait.Mem p)
    (hbalance : (f (s.ledger i)).postOk + (s.kernel.event i).cnt.toNat + (s.ledger i).pendOk +
      (s.ledger i).acceptOk = (s.ledger i).postOk + c.toNat + (f (s.ledger i)).pendOk +
        (f (s.ledger i)).acceptOk) :
    Conserved cfg cnt (({ s with kernel := s.kernel.setCnt i c } : SemState ι).record i f) := by
  set t := ({ s with kernel := s.kernel.setCnt i c } : SemState ι).record i f with ht
  have hcnt : ∀ j, (t.kernel.event j).cnt = if j = i then c else (s.kernel.event j).cnt :=
    fun j => setCnt_cnt s.kernel i j c
  have hwait : ∀ j, (t.kernel.event j).wait = (s.kernel.event j).wait :=
    fun j => setCnt_wait s.kernel i j c
  have hledger : ∀ j, t.ledger j = if j = i then f (s.ledger i) else s.ledger j :=
    fun j => record_ledger _ i j f
  refine ⟨(h.toSound.setCnt i c).record i f, fun j hj p hp => ?_, fun j => ?_⟩
  · rw [hcnt] at hj
    rw [hwait] at hp
    split_ifs at hj with hji
    · rw [hji] at hp
      exact hempty hj p hp
    · exact h.empty j hj p hp
  · have hgive : t.giving cfg j = s.giving cfg j := SemState.giving_congr (fun _ => rfl) j
    have htake : t.taking cfg j = s.taking cfg j := SemState.taking_congr (fun _ => rfl) j
    have hb := h.balance j
    rw [hcnt, hledger, hgive, htake]
    split_ifs with hji
    · subst hji
      omega
    · exact hb

/-- `OSSemPend` or `OSSemAccept` takes a token that the semaphore has. -/
lemma Conserved.take (h : Conserved cfg cnt s) {i : ι} (hc : (s.kernel.event i).cnt ≠ 0)
    {f : Ledger → Ledger} (hpost : ∀ l, (f l).postOk = l.postOk)
    (htaken : ∀ l, (f l).pendOk + (f l).acceptOk = l.pendOk + l.acceptOk + 1) :
    Conserved cfg cnt (({ s with kernel := s.kernel.setCnt i ((s.kernel.event i).cnt - 1) } :
      SemState ι).record i f) := by
  have hpos : 0 < (s.kernel.event i).cnt.toNat := UInt16.pos_iff_ne_zero.mpr hc
  have hsub : ((s.kernel.event i).cnt - 1).toNat = (s.kernel.event i).cnt.toNat - 1 :=
    UInt16.toNat_sub_of_le _ _ hpos
  apply h.recount
  · intro _
    exact h.empty i hc
  · have h₁ := hpost (s.ledger i)
    have h₂ := htaken (s.ledger i)
    omega

/-- `OSSemPost` counts when no task waits. -/
lemma Conserved.count (h : Conserved cfg cnt s) {i : ι} (hgrp : (s.kernel.event i).wait.grp = 0)
    (hlt : (s.kernel.event i).cnt < 0xFFFF) :
    Conserved cfg cnt (({ s with kernel := s.kernel.setCnt i ((s.kernel.event i).cnt + 1) } :
      SemState ι).record i Ledger.addPost) := by
  have hadd : ((s.kernel.event i).cnt + 1).toNat = (s.kernel.event i).cnt.toNat + 1 := by
    have hlt' : (s.kernel.event i).cnt.toNat < 0xFFFF := hlt
    rw [UInt16.toNat_add]
    show ((s.kernel.event i).cnt.toNat + 1) % 65536 = _
    omega
  apply h.recount
  · intro _ p hp
    refine (h.waitValid i).grp_ne_zero_iff.mpr ⟨p, ?_, hp⟩ hgrp
    exact cfg.lt_of_mem (h.waitTask i p hp)
  · simp only [Ledger.addPost]
    omega

omit [DecidableEq ι] in
/-- A task in no call, or in a call that does not wait, has no token on its way. -/
lemma taker_eq_none {p : ℕ} (h : (s.pc p).pending = none) : s.taker p = none := by
  simp [SemState.taker, h]

/-- The current task joins a wait list. -/
lemma Conserved.block (h : Conserved cfg cnt s) (hcur : s.kernel.prioCur ∈ cfg.tasks)
    (hpc : s.pc s.kernel.prioCur = .user) (hlock : s.kernel.lockNesting = 0) {i : ι}
    (hc : (s.kernel.event i).cnt = 0) (timeout : UInt32) :
    Conserved cfg cnt (({ s with kernel := osEventTaskWait (s.kernel.setTcb s.kernel.prioCur
      ⟨(s.kernel.tcb s.kernel.prioCur).stat ||| osStatSem, osStatPendOk, timeout⟩) i } :
        SemState ι).setPc s.kernel.prioCur (.pendSched i)) := by
  refine h.of_same (h.toSound.block hcur hpc hlock i timeout) (fun j => setWait_cnt _ i j _)
    (fun j p hj hp => ?_) rfl (fun p => ?_) fun p => ?_
  · have hji : j ≠ i := by
      rintro rfl
      exact hj hc
    have hwait := setWait_wait (s.kernel.setTcb s.kernel.prioCur
      ⟨(s.kernel.tcb s.kernel.prioCur).stat ||| osStatSem, osStatPendOk, timeout⟩) i j
      ((s.kernel.event i).wait.insert s.kernel.prioCur)
    rw [if_neg hji] at hwait
    exact hwait ▸ hp
  · by_cases hp : p = s.kernel.prioCur
    · subst hp
      simp [SemState.setPc, hpc, TaskPc.posting]
    · simp [SemState.setPc, hp]
  · by_cases hp : p = s.kernel.prioCur
    · subst hp
      have hrest := (h.taskOk _ hcur).atRest (by rw [hpc]; rfl)
      simp [SemState.taker, SemState.setPc, hrest.handed]
    · simp [SemState.taker, SemState.setPc, hp]

/-- A hand-over puts a token on its way. -/
lemma Sound.taking_handOver (h : Sound cfg s) {i : ι} (hgrp : (s.kernel.event i).wait.grp ≠ 0)
    (j : ι) :
    (({ s with kernel := (osEventTaskRdy s.kernel i osStatSem osStatPendOk).1 } :
      SemState ι).setHanded (osEventTaskRdy s.kernel i osStatSem osStatPendOk).2 true).taking cfg
        j =
        s.taking cfg j + if i = j then 1 else 0 := by
  obtain ⟨hmem, -⟩ := h.osEventTaskRdy_prio hgrp osStatSem osStatPendOk
  set p := (osEventTaskRdy s.kernel i osStatSem osStatPendOk).2 with hp
  obtain ⟨hpend, hstand⟩ := h.waiter hmem
  have hbefore : s.taker p = none := by
    rcases hstand with hw | hto
    · simp [SemState.taker, hw.handed]
    · simp [SemState.taker, hto.handed]
  set t := ({ s with kernel := (osEventTaskRdy s.kernel i osStatSem osStatPendOk).1 } :
    SemState ι).setHanded p true with ht
  have hafter : t.taker p = some i := by
    simp [ht, SemState.taker, SemState.setHanded, hpend]
  have hother : ∀ q, q ≠ p → t.taker q = s.taker q := by
    intro q hq
    simp [ht, SemState.taker, SemState.setHanded, hq]
  exact SemState.taking_enter (h.waitTask i p hmem) hother hbefore hafter j

/-- **A post with waiters.** The token is on its way to a task, and the call that brought it has
returned or is returning. -/
lemma Conserved.handOver (h : Conserved cfg cnt s) {i : ι}
    (hgrp : (s.kernel.event i).wait.grp ≠ 0) (ht : Sound cfg t)
    (hevent : t.kernel.event = (osEventTaskRdy s.kernel i osStatSem osStatPendOk).1.event)
    (htaker : ∀ q, t.taker q = (({ s with
      kernel := (osEventTaskRdy s.kernel i osStatSem osStatPendOk).1 } : SemState ι).setHanded
        (osEventTaskRdy s.kernel i osStatSem osStatPendOk).2 true).taker q)
    (hpost : ∀ j, (t.ledger j).postOk + t.giving cfg j =
      (s.ledger j).postOk + s.giving cfg j + if i = j then 1 else 0)
    (htaken : ∀ j, (t.ledger j).pendOk = (s.ledger j).pendOk ∧
      (t.ledger j).acceptOk = (s.ledger j).acceptOk) : Conserved cfg cnt t := by
  refine ⟨ht, fun j hj p hp => ?_, fun j => ?_⟩
  · rw [hevent, osEventTaskRdy_cnt] at hj
    rw [hevent] at hp
    exact h.empty j hj p (mem_of_osEventTaskRdy s.kernel i j _ _ p hp)
  · have htake := (SemState.taking_congr htaker j).trans (h.toSound.taking_handOver hgrp j)
    have hb := h.balance j
    have h₁ := hpost j
    obtain ⟨h₂, h₃⟩ := htaken j
    rw [hevent, osEventTaskRdy_cnt, htake, h₂, h₃]
    omega

/-! ## The steps -/

/-- A post of the current task. -/
lemma Conserved.post (h : Conserved cfg cnt s) (hcur : s.kernel.prioCur ∈ cfg.tasks)
    (hpc : s.pc s.kernel.prioCur = .user) {i : ι} (hgrp : (s.kernel.event i).wait.grp ≠ 0) :
    Conserved cfg cnt ((({ s with kernel := (osEventTaskRdy s.kernel i osStatSem osStatPendOk).1 } :
      SemState ι).setPc s.kernel.prioCur (.postSched i)).setHanded
        (osEventTaskRdy s.kernel i osStatSem osStatPendOk).2 true) := by
  have hu := h.toSound.handOver hgrp
  set p := (osEventTaskRdy s.kernel i osStatSem osStatPendOk).2 with hp
  set u := ({ s with kernel := (osEventTaskRdy s.kernel i osStatSem osStatPendOk).1 } :
    SemState ι).setHanded p true with hudef
  set t := (({ s with kernel := (osEventTaskRdy s.kernel i osStatSem osStatPendOk).1 } :
    SemState ι).setPc s.kernel.prioCur (.postSched i)).setHanded p true with ht
  have htu : t = u.setPc s.kernel.prioCur (.postSched i) := rfl
  have hcur' : u.kernel.prioCur = s.kernel.prioCur := osEventTaskRdy_prioCur _ _ _ _
  have hpc' : u.pc s.kernel.prioCur = .user := hpc
  have hsound : Sound cfg t := by
    rw [htu]
    refine hu.setPc hcur (by rw [hpc']; rfl) (by simp) fun he => ?_
    rw [he]
    apply hu.curRdy
    intro j
    rw [← he, hpc']
    simp
  refine h.handOver hgrp hsound rfl (fun q => ?_) (fun j => ?_) fun _ => ⟨rfl, rfl⟩
  · by_cases hq : q = s.kernel.prioCur
    · rw [hq, taker_eq_none (s := t) (by simp [htu, SemState.setPc, TaskPc.pending])]
      exact (taker_eq_none (s := u) (by rw [hpc']; rfl)).symm
    · have hq' : t.pc q = u.pc q := Function.update_of_ne hq _ _
      show (if t.handed q then (t.pc q).pending else none) = _
      rw [hq']
      rfl
  · have hbefore : (s.pc s.kernel.prioCur).posting = none := by
      rw [hpc]
      rfl
    have hafter : (t.pc s.kernel.prioCur).posting = some i := by
      simp [ht, SemState.setPc, SemState.setHanded, TaskPc.posting]
    have hmove := SemState.giving_enter (s := s) (t := t) hcur (fun q hq => by
      simp [ht, SemState.setPc, SemState.setHanded, hq]) hbefore hafter j
    show (s.ledger j).postOk + t.giving cfg j = _
    omega

/-- A post of an interrupt, in which `OS_Sched` does nothing. -/
lemma Conserved.isrPost (h : Conserved cfg cnt s) {i : ι}
    (hgrp : (s.kernel.event i).wait.grp ≠ 0) :
    Conserved cfg cnt ((({ s with
      kernel := osSched (osEventTaskRdy s.kernel i osStatSem osStatPendOk).1 } :
      SemState ι).setHanded (osEventTaskRdy s.kernel i osStatSem osStatPendOk).2 true).record i
        Ledger.addPost) := by
  have hu := h.toSound.handOver hgrp
  set t := (({ s with kernel := osSched (osEventTaskRdy s.kernel i osStatSem osStatPendOk).1 } :
    SemState ι).setHanded (osEventTaskRdy s.kernel i osStatSem osStatPendOk).2 true).record i
      Ledger.addPost with ht
  have hledger : ∀ j, t.ledger j = if j = i then (s.ledger i).addPost else s.ledger j :=
    fun j => record_ledger _ i j Ledger.addPost
  refine h.handOver hgrp (hu.osSched.record i Ledger.addPost) (osSched_event _) (fun _ => rfl)
    (fun j => ?_) fun j => ?_
  · have hgive : t.giving cfg j = s.giving cfg j := SemState.giving_congr (fun _ => rfl) j
    rw [hledger, hgive]
    by_cases hji : j = i
    · subst hji
      simp only [if_true, Ledger.addPost]
      omega
    · rw [if_neg hji, if_neg (Ne.symm hji)]
      rfl
  · rw [hledger]
    split_ifs with hji
    · subst hji
      exact ⟨rfl, rfl⟩
    · exact ⟨rfl, rfl⟩

/-- A call of the current task.

**Proof sketch.** One case per service, with the lemma for each of its outcomes: the call takes a
token, waits, hands one to a waiting task, adds one to the count, or changes none. -/
lemma Conserved.callStep (h : Conserved cfg cnt s) (hint : s.kernel.intNesting = 0)
    (hidle : s.kernel.prioCur ≠ cfg.idlePrio) (hpc : s.pc s.kernel.prioCur = .user)
    {a : SemAction ι} (hstep : callStep s a = some t) : Conserved cfg cnt t := by
  have hcur : s.kernel.prioCur ∈ cfg.tasks := h.curTask.resolve_left hidle
  have hrdy : s.kernel.rdy.Mem s.kernel.prioCur := h.curRdy fun j => by rw [hpc]; simp
  cases a with
  | pend i timeout =>
    simp only [Kernel.callStep] at hstep
    split at hstep
    case isFalse => exact absurd hstep (by simp)
    case isTrue hlock =>
      rcases osSemPend_cases s.kernel i timeout hint with ⟨hc, heq⟩ | ⟨hc, heq⟩
      · rw [heq] at hstep
        obtain rfl := Option.some_inj.mp hstep
        exact h.take hc (fun _ => rfl) fun l => by simp only [Ledger.addPend]; omega
      · rw [heq] at hstep
        obtain rfl := Option.some_inj.mp hstep
        exact h.block hcur hpc hlock hc timeout
  | post i =>
    simp only [Kernel.callStep] at hstep
    rcases osSemPost_cases s.kernel i with ⟨hgrp, heq⟩ | ⟨hgrp, hlt, heq⟩ | heq
    · rw [heq] at hstep
      obtain rfl := Option.some_inj.mp hstep
      exact h.post hcur hpc hgrp
    · rw [heq] at hstep
      obtain rfl := Option.some_inj.mp hstep
      exact h.count hgrp hlt
    · rw [heq] at hstep
      obtain rfl := Option.some_inj.mp hstep
      exact h
  | accept i =>
    simp only [Kernel.callStep] at hstep
    rcases osSemAccept_cases s.kernel i with ⟨hc, heq⟩ | ⟨hc, heq⟩
    · rw [heq, if_pos hc] at hstep
      obtain rfl := Option.some_inj.mp hstep
      exact h.take hc (fun _ => rfl) fun l => by simp only [Ledger.addAccept]; omega
    · rw [heq, if_neg (by simp)] at hstep
      obtain rfl := Option.some_inj.mp hstep
      exact h
  | lock =>
    obtain rfl := Option.some_inj.mp hstep
    have hsound : Sound cfg { s with kernel := osSchedLock s.kernel } := by
      unfold osSchedLock
      split_ifs
      · exact h.toSound.setLockNesting hpc (s.kernel.lockNesting + 1)
      · exact h.toSound
    exact h.of_kernel hsound (osSchedLock_event s.kernel)
  | unlock =>
    simp only [Kernel.callStep] at hstep
    have hsound : Sound cfg { s with kernel := (osSchedUnlock s.kernel).1 } := by
      unfold osSchedUnlock
      split_ifs
      · exact h.toSound.setLockNesting hpc (s.kernel.lockNesting - 1)
      · exact h.toSound
    have hu := h.of_kernel hsound (osSchedUnlock_event s.kernel)
    split at hstep
    · obtain rfl := Option.some_inj.mp hstep
      exact hu.setPc hcur (by rw [hpc]; rfl) (by rw [hpc]; rfl) (by simp) fun _ => by
        rw [osSchedUnlock_rdy]
        exact hrdy
    · obtain rfl := Option.some_inj.mp hstep
      exact hu
  | task => exact absurd hstep (by simp [Kernel.callStep])
  | intEnter => exact absurd hstep (by simp [Kernel.callStep])
  | isrPost i => exact absurd hstep (by simp [Kernel.callStep])
  | tick => exact absurd hstep (by simp [Kernel.callStep])
  | tickNext => exact absurd hstep (by simp [Kernel.callStep])
  | intExit => exact absurd hstep (by simp [Kernel.callStep])

/-- The return of a post that has handed its token to a task. -/
lemma Conserved.postReturn (h : Conserved cfg cnt s) {i : ι}
    (hpc : s.pc s.kernel.prioCur = .postReturn i) :
    Conserved cfg cnt ((s.setPc s.kernel.prioCur .user).record i Ledger.addPost) := by
  have hcur : s.kernel.prioCur ∈ cfg.tasks := h.cur_mem (by rw [hpc]; simp)
  have hrdy : s.kernel.rdy.Mem s.kernel.prioCur := h.curRdy fun j => by rw [hpc]; simp
  have hpend : TaskPc.user.pending = (s.pc s.kernel.prioCur).pending := by
    rw [hpc]
    rfl
  set t := (s.setPc s.kernel.prioCur .user).record i Ledger.addPost with ht
  refine ⟨(h.toSound.setPc hcur hpend (by simp) fun _ => hrdy).record i Ledger.addPost, h.empty,
    fun j => ?_⟩
  have htake : t.taking cfg j = s.taking cfg j := by
    apply SemState.taking_congr
    intro q
    by_cases hq : q = s.kernel.prioCur
    · rw [hq, taker_eq_none (s := s) (by rw [← hpend]; rfl)]
      apply taker_eq_none
      simp [ht, SemState.record, SemState.setPc, TaskPc.pending]
    · simp [ht, SemState.taker, SemState.record, SemState.setPc, hq]
  have hbefore : (s.pc s.kernel.prioCur).posting = some i := by
    rw [hpc]
    rfl
  have hafter : (t.pc s.kernel.prioCur).posting = none := by
    simp [ht, SemState.record, SemState.setPc, TaskPc.posting]
  have hmove := SemState.giving_leave (s := s) (t := t) hcur (fun q hq => by
    simp [ht, SemState.record, SemState.setPc, hq]) hbefore hafter j
  have hledger : t.ledger j = if j = i then (s.ledger i).addPost else s.ledger j :=
    record_ledger _ i j _
  have hb := h.balance j
  rw [hledger, htake]
  show _ = (s.kernel.event j).cnt.toNat + _ + _ + _
  by_cases hji : j = i
  · subst hji
    simp only [if_true, Ledger.addPost] at hmove ⊢
    omega
  · simp only [if_neg hji, if_neg (Ne.symm hji)] at hmove ⊢
    omega

/-- **The return of `OSSemPend`.** The token on its way to the task has arrived; a task that timed
out has none.

**Proof sketch.** By `Sound.resume` the task has been handed a token, which it takes now, or has
timed out, and then it held none. -/
lemma Conserved.resume (h : Conserved cfg cnt s) {i : ι}
    (hpc : s.pc s.kernel.prioCur = .pendResume i) (hstep : taskStep s = some t) :
    Conserved cfg cnt t := by
  obtain ⟨hsound, hresult, hcnt⟩ := h.toSound.resume hpc
  have hcur : s.kernel.prioCur ∈ cfg.tasks := h.cur_mem (by rw [hpc]; simp)
  have hwait := mem_of_osSemPendResume s.kernel i
  simp only [Kernel.taskStep, hpc] at hstep
  set u := (({ s with kernel := (osSemPendResume s.kernel i).1 } : SemState ι).setPc
    s.kernel.prioCur .user).setHanded s.kernel.prioCur false with hu
  have hpost : ∀ q, (u.pc q).posting = (s.pc q).posting := by
    intro q
    by_cases hq : q = s.kernel.prioCur
    · subst hq
      simp [hu, SemState.setHanded, SemState.setPc, hpc, TaskPc.posting]
    · simp [hu, SemState.setHanded, SemState.setPc, hq]
  have hother : ∀ q, q ≠ s.kernel.prioCur → u.taker q = s.taker q := by
    intro q hq
    simp [hu, SemState.taker, SemState.setHanded, SemState.setPc, hq]
  have hself : u.taker s.kernel.prioCur = none := by
    simp [hu, SemState.taker, SemState.setHanded]
  rcases hresult with ⟨hr, hd⟩ | ⟨hr, hto⟩
  · rw [if_pos hr] at hstep
    obtain rfl := Option.some_inj.mp hstep
    have hbefore : s.taker s.kernel.prioCur = some i := by
      simp [SemState.taker, hd.handed, hpc, TaskPc.pending]
    refine ⟨hsound.record i Ledger.addPend, fun j hj p hp => ?_, fun j => ?_⟩
    · exact h.empty j (fun hzero => hj ((hcnt j).trans hzero)) p (hwait j p hp)
    · have hmove := SemState.taking_leave hcur hother hbefore hself j
      have hgive : (u.record i Ledger.addPend).giving cfg j = s.giving cfg j :=
        SemState.giving_congr hpost j
      have hb := h.balance j
      have hc : ((u.record i Ledger.addPend).kernel.event j).cnt = (s.kernel.event j).cnt := hcnt j
      have hledger : (u.record i Ledger.addPend).ledger j =
          if j = i then (s.ledger i).addPend else s.ledger j := record_ledger u i j _
      rw [hledger, hgive, hc]
      show _ = _ + _ + _ + u.taking cfg j
      by_cases hji : j = i
      · subst hji
        simp only [if_true, Ledger.addPend] at hmove ⊢
        omega
      · simp only [if_neg hji, if_neg (Ne.symm hji)] at hmove ⊢
        omega
  · rw [if_neg (by rw [hr]; simp)] at hstep
    obtain rfl := Option.some_inj.mp hstep
    refine h.of_same hsound hcnt (fun j p _ hp => hwait j p hp) rfl hpost fun q => ?_
    by_cases hq : q = s.kernel.prioCur
    · rw [hq, hself]
      simp [SemState.taker, hto.handed]
    · exact hother q hq

/-- A call of `OS_Sched`, after which the task is at another place. -/
lemma Conserved.sched (h : Conserved cfg cnt s) (hint : s.kernel.intNesting = 0)
    (hcur : s.kernel.prioCur ∈ cfg.tasks) {pc : TaskPc ι}
    (hpend : pc.pending = (s.pc s.kernel.prioCur).pending)
    (hpost : pc.posting = (s.pc s.kernel.prioCur).posting) (hsched : ∀ i, pc ≠ .pendSched i) :
    Conserved cfg cnt (({ s with kernel := osSched s.kernel } : SemState ι).setPc s.kernel.prioCur
      pc) := by
  have hk := h.of_kernel h.toSound.osSched (osSched_event _)
  refine hk.setPc hcur hpend hpost hsched fun he => ?_
  rw [osSched_rdy]
  by_cases hp : ∀ i, s.pc s.kernel.prioCur ≠ .pendSched i
  · exact h.curRdy hp
  · -- the task gives up the processor, and the switch is to a task that is ready
    push Not at hp
    obtain ⟨i, hi⟩ := hp
    rw [he, osSched_prioCur hint (h.unlocked i hi)]
    exact h.toSound.osSchedNew.2

/-- A step of the current task in its call. -/
lemma Conserved.taskStep (h : Conserved cfg cnt s) (hint : s.kernel.intNesting = 0)
    (hstep : taskStep s = some t) : Conserved cfg cnt t := by
  cases hpc : s.pc s.kernel.prioCur with
  | user =>
    simp only [Kernel.taskStep, hpc] at hstep
    cases hstep
  | pendSched i =>
    simp only [Kernel.taskStep, hpc] at hstep
    obtain rfl := Option.some_inj.mp hstep
    exact h.sched hint (h.cur_mem (by rw [hpc]; simp)) (by rw [hpc]; rfl) (by rw [hpc]; rfl)
      (by simp)
  | pendResume i => exact h.resume hpc hstep
  | postSched i =>
    simp only [Kernel.taskStep, hpc] at hstep
    obtain rfl := Option.some_inj.mp hstep
    exact h.sched hint (h.cur_mem (by rw [hpc]; simp)) (by rw [hpc]; rfl) (by rw [hpc]; rfl)
      (by simp)
  | postReturn i =>
    simp only [Kernel.taskStep, hpc] at hstep
    obtain rfl := Option.some_inj.mp hstep
    exact h.postReturn hpc
  | unlockSched =>
    simp only [Kernel.taskStep, hpc] at hstep
    obtain rfl := Option.some_inj.mp hstep
    exact h.sched hint (h.cur_mem (by rw [hpc]; simp)) (by rw [hpc]; rfl) (by rw [hpc]; rfl)
      (by simp)

/-- A step of an interrupt.

**Proof sketch.** A post of an interrupt is one without a return. The other actions move no token,
and no task comes into a standing that holds one. -/
lemma Conserved.interruptStep (h : Conserved cfg cnt s) {a : SemAction ι}
    (hstep : interruptStep cfg s a = some t) : Conserved cfg cnt t := by
  cases a with
  | isrPost i =>
    simp only [Kernel.interruptStep] at hstep
    rcases osSemPost_cases s.kernel i with ⟨hgrp, heq⟩ | ⟨hgrp, hlt, heq⟩ | heq
    · rw [heq] at hstep
      obtain rfl := Option.some_inj.mp hstep
      exact h.isrPost hgrp
    · rw [heq] at hstep
      obtain rfl := Option.some_inj.mp hstep
      exact h.count hgrp hlt
    · rw [heq] at hstep
      obtain rfl := Option.some_inj.mp hstep
      exact h
  | tick =>
    obtain rfl := Option.some_inj.mp hstep
    have htime : Sound cfg { s with kernel := { s.kernel with time := s.kernel.time + 1 } } :=
      h.toSound.setCur (s.kernel.time + 1) h.curTask h.curRdy h.unlocked
    have htick : ∀ p ∈ cfg.tasks ++ s.tick, p ∈ cfg.tasks := by
      intro p hp
      rcases List.mem_append.mp hp with hp | hp
      · exact hp
      · exact h.tickTask p hp
    exact h.of_same (htime.setTick htick) (fun _ => rfl) (fun _ _ _ hp => hp) rfl (fun _ => rfl)
      fun _ => rfl
  | tickNext =>
    simp only [Kernel.interruptStep] at hstep
    split at hstep
    · cases hstep
    · rename_i p rest htick
      obtain rfl := Option.some_inj.mp hstep
      have htask : ∀ q ∈ p :: rest, q ∈ cfg.tasks := by
        rw [← htick]
        exact h.tickTask
      have hrest := (h.toSound.tickTcb (htask p (List.mem_cons_self ..))).setTick fun q hq =>
        htask q (List.mem_cons_of_mem p hq)
      refine h.of_same hrest (fun i => ?_) (fun i q _ hq => ?_) rfl (fun _ => rfl) fun _ => rfl
      · show ((osTimeTickTcb s.kernel p).event i).cnt = _
        rw [osTimeTickTcb_event]
      · have hq' : ((osTimeTickTcb s.kernel p).event i).wait.Mem q := hq
        rw [osTimeTickTcb_event] at hq'
        exact hq'
  | intExit =>
    simp only [Kernel.interruptStep] at hstep
    split at hstep
    case isTrue _ => cases hstep
    case isFalse _ =>
      obtain rfl := Option.some_inj.mp hstep
      exact h.of_kernel h.toSound.osIntExit (osIntExit_event _)
  | pend i timeout => cases hstep
  | post i => cases hstep
  | accept i => cases hstep
  | lock => cases hstep
  | unlock => cases hstep
  | task => cases hstep
  | intEnter => cases hstep

/-- **Every step keeps the invariant.** -/
lemma Conserved.step (h : Conserved cfg cnt s) {a : SemAction ι}
    (hstep : semStep cfg s a = some t) :
    Conserved cfg cnt t := by
  have hcall : ∀ {a : SemAction ι}, (if s.kernel.intNesting = 0 ∧ s.kernel.prioCur ≠ cfg.idlePrio ∧
      s.pc s.kernel.prioCur = .user then Kernel.callStep s a else none) = some t →
        Conserved cfg cnt t := by
    intro a hstep
    split at hstep
    case isTrue hg => exact h.callStep hg.1 hg.2.1 hg.2.2 hstep
    case isFalse _ => cases hstep
  have hinterrupt : ∀ {a : SemAction ι}, (if s.kernel.intNesting > 0 then
      Kernel.interruptStep cfg s a else none) = some t → Conserved cfg cnt t := by
    intro a hstep
    split at hstep
    case isTrue _ => exact h.interruptStep hstep
    case isFalse _ => cases hstep
  cases a with
  | intEnter =>
    simp only [semStep] at hstep
    split at hstep
    case isTrue hlt =>
      obtain rfl := Option.some_inj.mp hstep
      have hk : osIntEnter s.kernel = { s.kernel with intNesting := s.kernel.intNesting + 1 } :=
        if_pos hlt
      rw [hk]
      exact h.of_kernel (h.toSound.setIntNesting _) rfl
    case isFalse _ => cases hstep
  | task =>
    simp only [semStep] at hstep
    split at hstep
    case isTrue hint => exact h.taskStep hint hstep
    case isFalse _ => cases hstep
  | isrPost i => exact hinterrupt hstep
  | tick => exact hinterrupt hstep
  | tickNext => exact hinterrupt hstep
  | intExit => exact hinterrupt hstep
  | pend i timeout => exact hcall hstep
  | post i => exact hcall hstep
  | accept i => exact hcall hstep
  | lock => exact hcall hstep
  | unlock => exact hcall hstep

/-! ## Conservation -/

/-- At the start every semaphore has the tokens it was created with, and no task waits. -/
lemma conserved_semInit (cfg : OsConfig) (cnt : ι → UInt16) :
    Conserved cfg cnt (semInit cfg cnt) := by
  have hmem : ∀ p, (semInit cfg cnt).kernel.rdy.Mem p ↔ p ∈ cfg.tasks ∨ p = cfg.idlePrio := by
    intro p
    have hfold := PrioBitmap.mem_foldl_insert (PrioBitmap.empty.insert cfg.idlePrio) cfg.tasks p
    rw [PrioBitmap.mem_insert, or_iff_left (PrioBitmap.not_mem_empty p)] at hfold
    exact hfold
  have hvalid : (semInit cfg cnt).kernel.rdy.Valid :=
    (PrioBitmap.valid_empty.insert cfg.idlePrio).foldl_insert cfg.tasks
  have hidle : (semInit cfg cnt).kernel.rdy.Mem cfg.idlePrio := (hmem _).mpr (Or.inr rfl)
  have hwait : ∀ i p, ¬ ((semInit cfg cnt).kernel.event i).wait.Mem p :=
    fun _ p => PrioBitmap.not_mem_empty p
  have hlt : cfg.idlePrio < 64 := by
    have := cfg.idlePrio_le
    omega
  have hfirst : (semInit cfg cnt).kernel.rdy.Mem (semInit cfg cnt).kernel.prioCur :=
    (hvalid.first_mem isLowest_osUnMap (hvalid.grp_ne_zero_iff.mpr ⟨_, hlt, hidle⟩)).2
  have hsound : Sound cfg (semInit cfg cnt) := by
    constructor
    · exact hvalid
    · exact fun _ => PrioBitmap.valid_empty
    · exact fun p hp => ((hmem p).mp hp).symm
    · exact fun i p hp => absurd hp (hwait i p)
    · exact hidle
    · rfl
    · intro p hp
      refine taskOk_of_atRest rfl ?_
      constructor
      · exact iff_of_true ((hmem p).mpr (Or.inl hp)) rfl
      · rfl
      · rfl
      · exact fun _ => rfl
      · rfl
      · exact fun j => iff_of_false (hwait j p) (by simp)
    · exact ((hmem _).mp hfirst).symm
    · exact fun _ => hfirst
    · exact fun _ _ => rfl
    · exact fun p hp => absurd hp (by simp [semInit])
  refine ⟨hsound, fun i _ p => hwait i p, fun i => ?_⟩
  simp [SemState.giving, SemState.taking, tally, SemState.taker, semInit,
    TaskPc.posting, osSemCreate]

/-- **Conservation of the tokens of a semaphore.** In every reachable state:

* the initial count, the posts that have returned `OS_ERR_NONE` and the posts that have handed
  their token to a task and have not yet returned make up `OSEventCnt`, the pends that have
  returned `OS_ERR_NONE`, the accepts that have returned a count that is not zero, and the tasks
  that a post has readied and that have not yet returned from `OSSemPend`;
* a semaphore with tokens has an empty wait list;
* a post to a semaphore with waiters readies the waiter of the highest priority and takes it off the
  wait list;
* a task that resumes in `OSSemPend` gets `OS_ERR_TIMEOUT` if no post was handed to it, and
  `OS_ERR_NONE` if one was.

**Proof sketch.** Every step keeps the invariant `Conserved`, which includes the standing of every
task. The standings say which task a post finds and what `OSSemPend` returns. -/
theorem sem_conservation (cfg : OsConfig) (cnt : ι → UInt16) {s : SemState ι}
    (h : Reachable (semStep cfg) (semInit cfg cnt) s) (i : ι) :
    (cnt i).toNat + (s.ledger i).postOk + s.giving cfg i =
        (s.kernel.event i).cnt.toNat + (s.ledger i).pendOk + (s.ledger i).acceptOk +
          s.taking cfg i ∧
      ((s.kernel.event i).cnt ≠ 0 →
        (s.kernel.event i).wait.grp = 0 ∧ ∀ p, ¬ (s.kernel.event i).wait.Mem p) ∧
      ((∃ p, (s.kernel.event i).wait.Mem p) → ∃ k p, osSemPost s.kernel i = (k, .readied p) ∧
        (s.kernel.event i).wait.Mem p ∧ (∀ q, (s.kernel.event i).wait.Mem q → p ≤ q) ∧
        k.rdy.Mem p ∧ ¬ (k.event i).wait.Mem p) ∧
      (s.pc s.kernel.prioCur = .pendResume i →
        ((osSemPendResume s.kernel i).2 = .none ∧ s.handed s.kernel.prioCur = true) ∨
          ((osSemPendResume s.kernel i).2 = .timeout ∧ s.handed s.kernel.prioCur = false)) := by
  have hinv : Conserved cfg cnt s :=
    h.invariant (fun _ _ _ hs hstep => hs.step hstep) (conserved_semInit cfg cnt)
  have hgrp := (hinv.waitValid i).grp_ne_zero_iff
  refine ⟨hinv.balance i, fun hc => ⟨?_, hinv.empty i hc⟩, ?_, fun hpc => ?_⟩
  · by_contra hne
    obtain ⟨p, -, hp⟩ := hgrp.mp hne
    exact hinv.empty i hc p hp
  · rintro ⟨q, hq⟩
    have hne := hgrp.mpr ⟨q, cfg.lt_of_mem (hinv.waitTask i q hq), hq⟩
    obtain ⟨hmem, hle⟩ := hinv.osEventTaskRdy_prio hne osStatSem osStatPendOk
    have hd := hinv.toSound.handed_of_handOver hne
    refine ⟨_, _, ?_, hmem, hle, hd.rdy.mpr rfl, fun hp => ?_⟩
    · exact if_pos hne
    · exact absurd ((hd.wait i).mp hp) (by simp)
  · rcases (hinv.toSound.resume hpc).2.1 with ⟨hr, hd⟩ | ⟨hr, hto⟩
    · exact Or.inl ⟨hr, hd.handed⟩
    · exact Or.inr ⟨hr, hto.handed⟩

/-- Two tasks. -/
def twoTasks : OsConfig := ⟨10, [1, 2], by decide, by decide⟩

/-- A task pends, a task of lower priority posts and is preempted by the first, which returns. -/
def preemptedPostRun : List (SemAction Unit) := [.pend () 0, .task, .post (), .task, .task]

/-- The tokens after the run. -/
theorem sem_conservation_preemptedPost :
    ∃ s, exec (semStep twoTasks) (semInit twoTasks fun _ => 0) preemptedPostRun = some s ∧
      (s.ledger ()).postOk + s.giving twoTasks () =
        (s.kernel.event ()).cnt.toNat + (s.ledger ()).pendOk + (s.ledger ()).acceptOk +
          s.taking twoTasks () := by
  have hsome : (exec (semStep twoTasks) (semInit twoTasks fun _ => 0)
    preemptedPostRun).isSome = true := by decide
  obtain ⟨s, hs⟩ := Option.isSome_iff_exists.mp hsome
  have hcons := (sem_conservation twoTasks (fun _ => 0) ⟨preemptedPostRun, hs⟩ ()).1
  rw [show (0 : UInt16).toNat = 0 from rfl, Nat.zero_add] at hcons
  exact ⟨s, hs, hcons⟩

/-- After the run the pend has returned `OS_ERR_NONE`, and the post has not yet returned. -/
theorem preemptedPost_not_returned :
    ∃ s, exec (semStep twoTasks) (semInit twoTasks fun _ => 0) preemptedPostRun = some s ∧
      ¬ (0 : UInt16).toNat + (s.ledger ()).postOk =
        (s.kernel.event ()).cnt.toNat + (s.ledger ()).pendOk + (s.ledger ()).acceptOk +
          s.taking twoTasks () := by
  have hobs : (exec (semStep twoTasks) (semInit twoTasks fun _ => 0) preemptedPostRun).map
      (fun s => ((s.ledger ()).postOk, (s.kernel.event ()).cnt, (s.ledger ()).pendOk)) =
        some (0, 0, 1) := by decide
  obtain ⟨s, hs, hval⟩ := Option.map_eq_some_iff.mp hobs
  simp only [Prod.mk.injEq] at hval
  obtain ⟨hpost, hcnt, hpend⟩ := hval
  refine ⟨s, hs, fun heq => ?_⟩
  rw [hpost, hcnt, hpend] at heq
  simp only [UInt16.toNat_zero] at heq
  omega

end Kernel
