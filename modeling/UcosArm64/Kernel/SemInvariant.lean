import UcosArm64.Kernel.SemSystem

set_option relaxedAutoImplicit false
set_option autoImplicit false

/-!
# The standing of a task in a semaphore call

A task outside `OSSemPend` is ready and in no wait list. A task in `OSSemPend` waits; or a post has
readied it and taken it off the wait list; or its timeout has readied it, and it is still on the
wait list, where a post may yet find it. Which of these it is can be read off the ready list, the
wait lists and its TCB, whatever the order of ticks, posts and switches was.

## Main definitions

* `Kernel.Standing`, `Kernel.TaskOk` — what the lists and the TCB of a task say.
* `Kernel.Sound` — the invariant of the lists, the TCBs and the current task.

## Main results

* `Kernel.Sound.setPc`, `Kernel.Sound.osSched`, `Kernel.Sound.block`, `Kernel.Sound.handOver`,
  `Kernel.Sound.resume`, `Kernel.Sound.tickTcb`, … — the moves of which the steps are made keep
  the invariant.
-/

namespace Kernel

section

variable {ι : Type}

/-! ## Standings -/

/-- The semaphore on which a task is in `OSSemPend`. -/
def TaskPc.pending : TaskPc ι → Option ι
  | .pendSched i => some i
  | .pendResume i => some i
  | _ => none

/-- The semaphore on which a task is in `OSSemPost`, past its critical section. -/
def TaskPc.posting : TaskPc ι → Option ι
  | .postSched i => some i
  | .postReturn i => some i
  | _ => none

/-- What the ready list, the wait lists, the TCB and the record say about the task `p`: whether it
is ready, the two status bytes, whether a post has readied it, and the wait list it is on. A task
that is ready has no delay running. -/
structure Standing (s : SemState ι) (p : ℕ) (isRdy : Bool) (status pendStatus : UInt8)
    (isHanded : Bool) (on : Option ι) : Prop where
  rdy : s.kernel.rdy.Mem p ↔ isRdy = true
  stat : (s.kernel.tcb p).stat = status
  statPend : (s.kernel.tcb p).statPend = pendStatus
  dly : isRdy = true → (s.kernel.tcb p).dly = 0
  handed : s.handed p = isHanded
  wait : ∀ j, (s.kernel.event j).wait.Mem p ↔ on = some j

/-- The task is not in a call that waits. -/
def AtRest (s : SemState ι) (p : ℕ) : Prop :=
  Standing s p true osStatRdy osStatPendOk false none

/-- The task waits on the semaphore `i`. -/
def Waiting (s : SemState ι) (i : ι) (p : ℕ) : Prop :=
  Standing s p false osStatSem osStatPendOk false (some i)

/-- A post has readied the task. -/
def Handed (s : SemState ι) (p : ℕ) : Prop :=
  Standing s p true osStatRdy osStatPendOk true none

/-- The timeout has readied the task, which is still on the wait list of `i`. -/
def TimedOut (s : SemState ι) (i : ι) (p : ℕ) : Prop :=
  Standing s p true osStatRdy osStatPendTo false (some i)

/-- The standing of a task agrees with its place. -/
def TaskOk (s : SemState ι) (p : ℕ) : Prop :=
  match (s.pc p).pending with
  | none => AtRest s p
  | some i => Waiting s i p ∨ Handed s p ∨ TimedOut s i p

/-- Two states agree on what a task's standing is read off. -/
structure SameRecord (s t : SemState ι) (p : ℕ) : Prop where
  tcb : t.kernel.tcb p = s.kernel.tcb p
  rdy : t.kernel.rdy.Mem p ↔ s.kernel.rdy.Mem p
  wait : ∀ i, (t.kernel.event i).wait.Mem p ↔ (s.kernel.event i).wait.Mem p
  handed : t.handed p = s.handed p

/-- Two states agree on a task. -/
structure SameTask (s t : SemState ι) (p : ℕ) : Prop extends SameRecord s t p where
  pc : t.pc p = s.pc p

/-- The standing of a task depends on its record only. -/
lemma Standing.congr {s t : SemState ι} {p : ℕ} {isRdy isHanded : Bool} {status pendStatus : UInt8}
    {on : Option ι} (h : Standing s p isRdy status pendStatus isHanded on)
    (hst : SameRecord s t p) :
    Standing t p isRdy status pendStatus isHanded on := by
  constructor
  · exact hst.rdy.trans h.rdy
  · rw [hst.tcb]
    exact h.stat
  · rw [hst.tcb]
    exact h.statPend
  · rw [hst.tcb]
    exact h.dly
  · exact hst.handed.trans h.handed
  · intro j
    exact (hst.wait j).trans (h.wait j)

/-- The standings of a task in `OSSemPend`. -/
lemma pending_congr {s t : SemState ι} {i : ι} {p : ℕ}
    (h : Waiting s i p ∨ Handed s p ∨ TimedOut s i p) (hst : SameRecord s t p) :
    Waiting t i p ∨ Handed t p ∨ TimedOut t i p := by
  rcases h with h | h | h
  · exact Or.inl (Standing.congr h hst)
  · exact Or.inr (Or.inl (Standing.congr h hst))
  · exact Or.inr (Or.inr (Standing.congr h hst))

/-- The invariant of a task depends on the task only. -/
lemma TaskOk.congr {s t : SemState ι} {p : ℕ} (h : TaskOk s p) (hst : SameTask s t p) :
    TaskOk t p := by
  unfold TaskOk at h ⊢
  rw [hst.pc]
  cases hp : (s.pc p).pending with
  | none =>
    rw [hp] at h
    exact Standing.congr h hst.toSameRecord
  | some i =>
    rw [hp] at h
    exact pending_congr h hst.toSameRecord

/-- The standing of a task that is not in `OSSemPend`. -/
lemma TaskOk.atRest {s : SemState ι} {p : ℕ} (h : TaskOk s p) (hp : (s.pc p).pending = none) :
    AtRest s p := by
  unfold TaskOk at h
  rw [hp] at h
  exact h

/-- The standings of a task that is in `OSSemPend`. -/
lemma TaskOk.pending {s : SemState ι} {p : ℕ} {i : ι} (h : TaskOk s p)
    (hp : (s.pc p).pending = some i) : Waiting s i p ∨ Handed s p ∨ TimedOut s i p := by
  unfold TaskOk at h
  rw [hp] at h
  exact h

/-- A task that waits for nothing and is at rest. -/
lemma taskOk_of_atRest {s : SemState ι} {p : ℕ} (hp : (s.pc p).pending = none) (h : AtRest s p) :
    TaskOk s p := by
  unfold TaskOk
  rw [hp]
  exact h

/-- A task in `OSSemPend`, in one of its three standings. -/
lemma taskOk_of_pending {s : SemState ι} {p : ℕ} {i : ι} (hp : (s.pc p).pending = some i)
    (h : Waiting s i p ∨ Handed s p ∨ TimedOut s i p) : TaskOk s p := by
  unfold TaskOk
  rw [hp]
  exact h

/-! ## The invariant -/

/-- **The invariant** of the lists, the TCBs and the current task. The current task is ready, unless
it is about to give up the processor in `OSSemPend`, and then the scheduler is not locked. -/
structure Sound (cfg : OsConfig) (s : SemState ι) : Prop where
  rdyValid : s.kernel.rdy.Valid
  waitValid : ∀ i, (s.kernel.event i).wait.Valid
  rdyTask : ∀ p, s.kernel.rdy.Mem p → p = cfg.idlePrio ∨ p ∈ cfg.tasks
  waitTask : ∀ i p, (s.kernel.event i).wait.Mem p → p ∈ cfg.tasks
  idleRdy : s.kernel.rdy.Mem cfg.idlePrio
  idlePc : s.pc cfg.idlePrio = .user
  taskOk : ∀ p ∈ cfg.tasks, TaskOk s p
  curTask : s.kernel.prioCur = cfg.idlePrio ∨ s.kernel.prioCur ∈ cfg.tasks
  curRdy : (∀ i, s.pc s.kernel.prioCur ≠ .pendSched i) → s.kernel.rdy.Mem s.kernel.prioCur
  unlocked : ∀ i, s.pc s.kernel.prioCur = .pendSched i → s.kernel.lockNesting = 0
  tickTask : ∀ p ∈ s.tick, p ∈ cfg.tasks

variable {cfg : OsConfig} {s t : SemState ι}

/-- A task is not the idle task. -/
lemma OsConfig.ne_idlePrio (cfg : OsConfig) {p : ℕ} (hp : p ∈ cfg.tasks) : p ≠ cfg.idlePrio :=
  Nat.ne_of_lt (cfg.lt_idlePrio p hp)

/-- The priority of a task is below 64. -/
lemma OsConfig.lt_of_mem (cfg : OsConfig) {p : ℕ} (hp : p ∈ cfg.tasks) : p < 64 := by
  have h₁ := cfg.lt_idlePrio p hp
  have h₂ := cfg.idlePrio_le
  omega

/-- The current task is not the idle task when it is in a call. -/
lemma Sound.cur_mem (h : Sound cfg s) (hpc : s.pc s.kernel.prioCur ≠ .user) :
    s.kernel.prioCur ∈ cfg.tasks := by
  apply h.curTask.resolve_left
  intro he
  rw [he] at hpc
  exact hpc h.idlePc

/-- A step that affects one task and keeps the current one. -/
lemma Sound.of_task (h : Sound cfg s) {q : ℕ} (hq : q ∈ cfg.tasks)
    (hsame : ∀ p, p ≠ q → SameTask s t p) (hrdy : t.kernel.rdy.Valid)
    (hwait : ∀ i, (t.kernel.event i).wait.Valid) (hok : TaskOk t q)
    (hcur : t.kernel.prioCur = s.kernel.prioCur)
    (hcurRdy : (∀ i, t.pc t.kernel.prioCur ≠ .pendSched i) → t.kernel.rdy.Mem t.kernel.prioCur)
    (hunlocked : ∀ i, t.pc t.kernel.prioCur = .pendSched i → t.kernel.lockNesting = 0)
    (htick : ∀ p ∈ t.tick, p ∈ cfg.tasks) : Sound cfg t := by
  have hidle := hsame cfg.idlePrio fun he => cfg.ne_idlePrio hq he.symm
  constructor
  · exact hrdy
  · exact hwait
  · intro p hp
    by_cases hpq : p = q
    · exact Or.inr (hpq ▸ hq)
    · exact h.rdyTask p ((hsame p hpq).rdy.mp hp)
  · intro i p hp
    by_cases hpq : p = q
    · exact hpq ▸ hq
    · exact h.waitTask i p (((hsame p hpq).wait i).mp hp)
  · exact hidle.rdy.mpr h.idleRdy
  · rw [hidle.pc]
    exact h.idlePc
  · intro p hp
    by_cases hpq : p = q
    · exact hpq ▸ hok
    · exact (h.taskOk p hp).congr (hsame p hpq)
  · rw [hcur]
    exact h.curTask
  · exact hcurRdy
  · exact hunlocked
  · exact htick

/-- A step that affects no task. -/
lemma Sound.of_same (h : Sound cfg s) (hsame : ∀ p, SameTask s t p)
    (hrdy : t.kernel.rdy = s.kernel.rdy)
    (hwait : ∀ i, (t.kernel.event i).wait = (s.kernel.event i).wait)
    (hcur : t.kernel.prioCur = cfg.idlePrio ∨ t.kernel.prioCur ∈ cfg.tasks)
    (hcurRdy : (∀ i, t.pc t.kernel.prioCur ≠ .pendSched i) → t.kernel.rdy.Mem t.kernel.prioCur)
    (hunlocked : ∀ i, t.pc t.kernel.prioCur = .pendSched i → t.kernel.lockNesting = 0)
    (htick : ∀ p ∈ t.tick, p ∈ cfg.tasks) : Sound cfg t := by
  constructor
  · rw [hrdy]
    exact h.rdyValid
  · intro i
    rw [hwait]
    exact h.waitValid i
  · intro p hp
    exact h.rdyTask p ((hsame p).rdy.mp hp)
  · intro i p hp
    exact h.waitTask i p (((hsame p).wait i).mp hp)
  · exact (hsame _).rdy.mpr h.idleRdy
  · rw [(hsame _).pc]
    exact h.idlePc
  · intro p hp
    exact (h.taskOk p hp).congr (hsame p)
  · exact hcur
  · exact hcurRdy
  · exact hunlocked
  · exact htick

/-- A task on the wait list of a semaphore is in `OSSemPend` on it, and waits or has timed out. -/
lemma Sound.waiter (h : Sound cfg s) {i : ι} {p : ℕ} (hp : (s.kernel.event i).wait.Mem p) :
    (s.pc p).pending = some i ∧ (Waiting s i p ∨ TimedOut s i p) := by
  have hok := h.taskOk p (h.waitTask i p hp)
  cases hpend : (s.pc p).pending with
  | none => exact absurd (((hok.atRest hpend).wait i).mp hp) (by simp)
  | some j =>
    rcases hok.pending hpend with hw | hd | hto
    · have hij := Option.some_inj.mp ((hw.wait i).mp hp)
      subst hij
      exact ⟨rfl, Or.inl hw⟩
    · exact absurd ((hd.wait i).mp hp) (by simp)
    · have hij := Option.some_inj.mp ((hto.wait i).mp hp)
      subst hij
      exact ⟨rfl, Or.inr hto⟩

/-- A task that waits on one semaphore is on the wait list of no other. -/
lemma Sound.not_mem_wait (h : Sound cfg s) {i j : ι} {p : ℕ} (hp : (s.kernel.event i).wait.Mem p)
    (hj : j ≠ i) : ¬ (s.kernel.event j).wait.Mem p := by
  intro hmem
  have hpend := (h.waiter hmem).1
  rw [(h.waiter hp).1, Option.some_inj] at hpend
  exact hj hpend.symm

/-- A task that resumes in `OSSemPend` is ready: a post has readied it, or its timeout. -/
lemma Sound.resuming (h : Sound cfg s) {i : ι} (hpc : s.pc s.kernel.prioCur = .pendResume i) :
    s.kernel.prioCur ∈ cfg.tasks ∧
      (Handed s s.kernel.prioCur ∨ TimedOut s i s.kernel.prioCur) := by
  have hmem : s.kernel.prioCur ∈ cfg.tasks := h.cur_mem (by rw [hpc]; simp)
  have hrdy : s.kernel.rdy.Mem s.kernel.prioCur := h.curRdy fun j => by rw [hpc]; simp
  refine ⟨hmem, ?_⟩
  rcases (h.taskOk _ hmem).pending (show (s.pc s.kernel.prioCur).pending = some i by rw [hpc]; rfl)
    with hw | hd
  · exact absurd (hw.rdy.mp hrdy) (by simp)
  · exact hd

/-! ## Moves of the scheduler -/

/-- A task goes to another place in its call, or ends it. -/
lemma Sound.setPc (h : Sound cfg s) {p : ℕ} (hp : p ∈ cfg.tasks) {pc : TaskPc ι}
    (hpend : pc.pending = (s.pc p).pending) (hsched : ∀ i, pc ≠ .pendSched i)
    (hrdy : p = s.kernel.prioCur → s.kernel.rdy.Mem p) : Sound cfg (s.setPc p pc) := by
  have hpc : ∀ q, q ≠ p → (s.setPc p pc).pc q = s.pc q := fun q hq => Function.update_of_ne hq _ _
  have hself : (s.setPc p pc).pc p = pc := Function.update_self _ _ _
  have hrec : ∀ q, SameRecord s (s.setPc p pc) q := fun q =>
    ⟨rfl, Iff.rfl, fun _ => Iff.rfl, rfl⟩
  refine h.of_task hp (fun q hq => ⟨hrec q, hpc q hq⟩) h.rdyValid h.waitValid ?_ rfl ?_ ?_
    h.tickTask
  · have hok := h.taskOk p hp
    cases hq : (s.pc p).pending with
    | none =>
      apply taskOk_of_atRest
      · rw [hself, hpend, hq]
      · exact Standing.congr (hok.atRest hq) (hrec p)
    | some i =>
      apply taskOk_of_pending
      · rw [hself, hpend, hq]
      · exact pending_congr (hok.pending hq) (hrec p)
  · intro hne
    by_cases hc : s.kernel.prioCur = p
    · show s.kernel.rdy.Mem s.kernel.prioCur
      rw [hc]
      exact hrdy hc.symm
    · apply h.curRdy
      intro i hi
      exact hne i ((hpc _ hc).trans hi)
  · intro i hi
    by_cases hc : s.kernel.prioCur = p
    · have hpcp : (s.setPc p pc).pc s.kernel.prioCur = pc := by
        rw [hc]
        exact hself
      exact absurd (hpcp.symm.trans hi) (hsched i)
    · exact h.unlocked i ((hpc _ hc).symm.trans hi)

/-- The highest ready task: it is a task, and it is ready. -/
lemma Sound.osSchedNew (h : Sound cfg s) :
    (osSchedNew s.kernel = cfg.idlePrio ∨ osSchedNew s.kernel ∈ cfg.tasks) ∧
      s.kernel.rdy.Mem (osSchedNew s.kernel) := by
  have hlt : cfg.idlePrio < 64 := by
    have := cfg.idlePrio_le
    omega
  have hne : s.kernel.rdy.grp ≠ 0 := h.rdyValid.grp_ne_zero_iff.mpr ⟨_, hlt, h.idleRdy⟩
  obtain ⟨-, hmem⟩ := h.rdyValid.first_mem isLowest_osUnMap hne
  exact ⟨h.rdyTask _ hmem, hmem⟩

/-- A change of the current task, the nesting of interrupts and the lock, which no standing depends
on. -/
lemma Sound.setCur (h : Sound cfg s) {cur intNesting lockNesting : ℕ} (time : UInt32)
    (hcur : cur = cfg.idlePrio ∨ cur ∈ cfg.tasks)
    (hrdy : (∀ i, s.pc cur ≠ .pendSched i) → s.kernel.rdy.Mem cur)
    (hunlocked : ∀ i, s.pc cur = .pendSched i → lockNesting = 0) :
    Sound cfg { s with kernel := { s.kernel with
      prioCur := cur, intNesting := intNesting, lockNesting := lockNesting, time := time } } :=
  h.of_same (fun _ => ⟨⟨rfl, Iff.rfl, fun _ => Iff.rfl, rfl⟩, rfl⟩) rfl (fun _ => rfl) hcur hrdy
    hunlocked h.tickTask

/-- The highest ready task becomes the current one, while the scheduler is not locked. -/
lemma Sound.switch (h : Sound cfg s) (hlock : s.kernel.lockNesting = 0) (n : ℕ) :
    Sound cfg { s with
      kernel := { s.kernel with prioCur := Kernel.osSchedNew s.kernel, intNesting := n } } :=
  h.setCur s.kernel.time h.osSchedNew.1 (fun _ => h.osSchedNew.2) fun _ _ => hlock

/-- The nesting of interrupts changes. -/
lemma Sound.setIntNesting (h : Sound cfg s) (n : ℕ) :
    Sound cfg { s with kernel := { s.kernel with intNesting := n } } :=
  h.setCur s.kernel.time h.curTask h.curRdy h.unlocked

/-- The lock of the scheduler changes. The current task is not in `OSSemPend`. -/
lemma Sound.setLockNesting (h : Sound cfg s) (hpc : s.pc s.kernel.prioCur = .user) (n : ℕ) :
    Sound cfg { s with kernel := { s.kernel with lockNesting := n } } :=
  h.setCur s.kernel.time h.curTask h.curRdy fun i hi => by rw [hpc] at hi; cases hi

/-- `OS_Sched` -/
lemma Sound.osSched (h : Sound cfg s) : Sound cfg { s with kernel := osSched s.kernel } := by
  unfold Kernel.osSched
  split_ifs with h₁ h₂ h₃
  · exact h.switch h₂ s.kernel.intNesting
  · exact h
  · exact h
  · exact h

/-- `OSIntExit` -/
lemma Sound.osIntExit (h : Sound cfg s) : Sound cfg { s with kernel := osIntExit s.kernel } := by
  unfold Kernel.osIntExit
  by_cases hn : s.kernel.intNesting > 0
  · simp only [if_pos hn]
    split_ifs with h₁ h₂ h₃
    · exact h.switch h₂ (s.kernel.intNesting - 1)
    · exact h.setIntNesting (s.kernel.intNesting - 1)
    · exact h.setIntNesting (s.kernel.intNesting - 1)
    · exact h.setIntNesting (s.kernel.intNesting - 1)
  · simp only [if_neg hn]
    split_ifs with h₁ h₂ h₃
    · exact h.switch h₂ s.kernel.intNesting
    · exact h
    · exact h
    · exact h

/-- The task leaves `OSSemPend`: it is at rest, whatever readied it.

**Proof sketch.** The ready task is at rest after the return. For every other task the record and
the lists are the same, up to the wait list that the task has left. -/
lemma Sound.leave (h : Sound cfg s) {i : ι} (hpc : s.pc s.kernel.prioCur = .pendResume i)
    {k : OsState ι} (hrdy : k.rdy = s.kernel.rdy) (hcur : k.prioCur = s.kernel.prioCur)
    (htcb : k.tcb = Function.update s.kernel.tcb s.kernel.prioCur ⟨osStatRdy, osStatPendOk, 0⟩)
    (hwait : ∀ j, (k.event j).wait = (s.kernel.event j).wait ∨
      (k.event j).wait = (s.kernel.event j).wait.remove s.kernel.prioCur)
    (hgone : ∀ j, ¬ (k.event j).wait.Mem s.kernel.prioCur) :
    Sound cfg ((({ s with kernel := k } : SemState ι).setPc s.kernel.prioCur .user).setHanded
      s.kernel.prioCur false) := by
  set p := s.kernel.prioCur with hp
  obtain ⟨hmem, hstand⟩ := h.resuming hpc
  have hrest : s.kernel.rdy.Mem p := by
    rcases hstand with hd | hto
    · exact hd.rdy.mpr rfl
    · exact hto.rdy.mpr rfl
  set t := (({ s with kernel := k } : SemState ι).setPc p .user).setHanded p false with ht
  have hself : t.pc p = .user := Function.update_self _ _ _
  have hcur' : t.kernel.prioCur = p := hcur
  refine h.of_task hmem (fun q hq => ⟨⟨?_, ?_, fun j => ?_, ?_⟩, ?_⟩) ?_ (fun j => ?_) ?_ hcur ?_ ?_
    h.tickTask
  · show k.tcb q = s.kernel.tcb q
    rw [htcb]
    exact Function.update_of_ne hq _ _
  · show k.rdy.Mem q ↔ s.kernel.rdy.Mem q
    rw [hrdy]
  · show (k.event j).wait.Mem q ↔ (s.kernel.event j).wait.Mem q
    rcases hwait j with hw | hw
    · rw [hw]
    · rw [hw, PrioBitmap.mem_remove]
      exact and_iff_right hq
  · exact Function.update_of_ne hq _ _
  · exact Function.update_of_ne hq _ _
  · show k.rdy.Valid
    rw [hrdy]
    exact h.rdyValid
  · show (k.event j).wait.Valid
    rcases hwait j with hw | hw
    · rw [hw]
      exact h.waitValid j
    · rw [hw]
      exact (h.waitValid j).remove p
  · apply taskOk_of_atRest
    · rw [hself]
      rfl
    · have htcb' : t.kernel.tcb p = ⟨osStatRdy, osStatPendOk, 0⟩ := by
        show k.tcb p = _
        rw [htcb]
        exact Function.update_self _ _ _
      constructor
      · show k.rdy.Mem p ↔ _
        rw [hrdy]
        exact iff_of_true hrest rfl
      · rw [htcb']
      · rw [htcb']
      · rw [htcb']
        simp
      · exact Function.update_self _ _ _
      · intro j
        exact iff_of_false (hgone j) (by simp)
  · intro _
    rw [hcur']
    show k.rdy.Mem p
    rw [hrdy]
    exact hrest
  · intro j hj
    rw [hcur', hself] at hj
    cases hj

/-! ## Moves of the tick -/

/-- The tick goes on to another task. -/
lemma Sound.setTick (h : Sound cfg s) {rest : List ℕ} (hrest : ∀ p ∈ rest, p ∈ cfg.tasks) :
    Sound cfg { s with tick := rest } :=
  h.of_same (fun _ => ⟨⟨rfl, Iff.rfl, fun _ => Iff.rfl, rfl⟩, rfl⟩) rfl (fun _ => rfl) h.curTask
    h.curRdy h.unlocked hrest

/-- The delay of a task that waits goes down. -/
lemma Sound.countDown (h : Sound cfg s) {p : ℕ} (hp : p ∈ cfg.tasks) {i : ι}
    (hpend : (s.pc p).pending = some i) (hw : Waiting s i p) (dly : UInt32) :
    Sound cfg { s with kernel := s.kernel.setTcb p { s.kernel.tcb p with dly := dly } } := by
  have hself : (s.kernel.setTcb p { s.kernel.tcb p with dly := dly }).tcb p =
      { s.kernel.tcb p with dly := dly } := Function.update_self _ _ _
  refine h.of_task hp (fun q hq => ⟨⟨Function.update_of_ne hq _ _, Iff.rfl, fun _ => Iff.rfl, rfl⟩,
    rfl⟩) h.rdyValid h.waitValid ?_ rfl h.curRdy h.unlocked h.tickTask
  refine taskOk_of_pending hpend (Or.inl ?_)
  constructor
  · exact hw.rdy
  · simp only [hself]
    exact hw.stat
  · simp only [hself]
    exact hw.statPend
  · simp
  · exact hw.handed
  · exact hw.wait

/-- The delay of a task that waits runs out: the task is ready, and stays on the wait list. -/
lemma Sound.expire (h : Sound cfg s) {p : ℕ} (hp : p ∈ cfg.tasks) {i : ι}
    (hpend : (s.pc p).pending = some i) (hw : Waiting s i p) :
    Sound cfg { s with kernel :=
      { s.kernel.setTcb p ⟨osStatRdy, osStatPendTo, 0⟩ with rdy := s.kernel.rdy.insert p } } := by
  have hself : (s.kernel.setTcb p ⟨osStatRdy, osStatPendTo, 0⟩).tcb p =
      ⟨osStatRdy, osStatPendTo, 0⟩ := Function.update_self _ _ _
  refine h.of_task hp (fun q hq => ⟨⟨Function.update_of_ne hq _ _, ?_, fun _ => Iff.rfl, rfl⟩,
    rfl⟩) (h.rdyValid.insert p) h.waitValid ?_ rfl ?_ h.unlocked h.tickTask
  · exact (PrioBitmap.mem_insert _ _ _).trans (or_iff_right hq)
  · refine taskOk_of_pending hpend (Or.inr (Or.inr ?_))
    constructor
    · exact iff_of_true ((PrioBitmap.mem_insert _ _ _).mpr (Or.inl rfl)) rfl
    · simp only [hself]
    · simp only [hself]
    · intro _
      simp only [hself]
    · exact hw.handed
    · exact hw.wait
  · intro hne
    exact (PrioBitmap.mem_insert _ _ _).mpr (Or.inr (h.curRdy hne))

/-- The tick on a task whose delay has not run out. -/
lemma osTimeTickTcb_countDown {k : OsState ι} {p : ℕ} (hdly : (k.tcb p).dly ≠ 0)
    (hlast : (k.tcb p).dly - 1 ≠ 0) :
    osTimeTickTcb k p = k.setTcb p { k.tcb p with dly := (k.tcb p).dly - 1 } := by
  simp only [osTimeTickTcb]
  rw [if_pos hdly, if_neg hlast]

/-- The tick on a task that waits on a semaphore and whose delay runs out. -/
lemma osTimeTickTcb_expire {k : OsState ι} {p : ℕ} (hdly : (k.tcb p).dly ≠ 0)
    (hlast : (k.tcb p).dly - 1 = 0) (hstat : (k.tcb p).stat = osStatSem) :
    osTimeTickTcb k p =
      { k.setTcb p ⟨osStatRdy, osStatPendTo, 0⟩ with rdy := k.rdy.insert p } := by
  have hany : osStatSem &&& osStatPendAny ≠ osStatRdy := by decide
  have hclear : osStatSem &&& ~~~osStatPendAny = osStatRdy := by decide
  have hsuspend : osStatRdy &&& osStatSuspend = osStatRdy := by decide
  simp only [osTimeTickTcb]
  rw [if_pos hdly, if_pos hlast]
  simp only [hstat, if_pos hany, hclear, hlast, if_pos hsuspend]
  rfl

/-- **The tick on one task.** It readies the task when the timeout of its wait has run out, and
leaves it on the wait list. -/
lemma Sound.tickTcb (h : Sound cfg s) {p : ℕ} (hp : p ∈ cfg.tasks) :
    Sound cfg { s with kernel := osTimeTickTcb s.kernel p } := by
  have hok := h.taskOk p hp
  by_cases hdly : (s.kernel.tcb p).dly ≠ 0
  · -- only a task that waits has a delay running
    obtain ⟨i, hpend, hw⟩ : ∃ i, (s.pc p).pending = some i ∧ Waiting s i p := by
      cases hq : (s.pc p).pending with
      | none => exact absurd ((hok.atRest hq).dly rfl) hdly
      | some i =>
        rcases hok.pending hq with hw | hd | hto
        · exact ⟨i, rfl, hw⟩
        · exact absurd (hd.dly rfl) hdly
        · exact absurd (hto.dly rfl) hdly
    by_cases hlast : (s.kernel.tcb p).dly - 1 = 0
    · rw [osTimeTickTcb_expire hdly hlast hw.stat]
      exact h.expire hp hpend hw
    · rw [osTimeTickTcb_countDown hdly hlast]
      exact h.countDown hp hpend hw ((s.kernel.tcb p).dly - 1)
  · have hk : osTimeTickTcb s.kernel p = s.kernel := by
      simp only [osTimeTickTcb]
      rw [if_neg hdly]
    rw [hk]
    exact h

end

/-! ## Moves on semaphores -/

section

variable {ι : Type} [DecidableEq ι] {cfg : OsConfig} {s : SemState ι}

/-- The count of a semaphore changes. -/
lemma Sound.setCnt (h : Sound cfg s) (i : ι) (cnt : UInt16) :
    Sound cfg { s with kernel := s.kernel.setCnt i cnt } :=
  h.of_same (fun _ => ⟨⟨rfl, Iff.rfl, fun j => by simp, rfl⟩, rfl⟩) rfl (fun j => by simp) h.curTask
    h.curRdy h.unlocked h.tickTask

/-- The ledger is no part of the invariant. -/
lemma Sound.record (h : Sound cfg s) (i : ι) (f : Ledger → Ledger) : Sound cfg (s.record i f) :=
  h.of_same (fun _ => ⟨⟨rfl, Iff.rfl, fun _ => Iff.rfl, rfl⟩, rfl⟩) rfl (fun _ => rfl) h.curTask
    h.curRdy h.unlocked h.tickTask

/-- The current task joins a wait list and gives up being ready.

**Proof sketch.** The task leaves the ready list and joins the wait list of the semaphore, and its
TCB says so; the other tasks keep their records. -/
lemma Sound.block (h : Sound cfg s) (hcur : s.kernel.prioCur ∈ cfg.tasks)
    (hpc : s.pc s.kernel.prioCur = .user) (hlock : s.kernel.lockNesting = 0) (i : ι)
    (timeout : UInt32) :
    Sound cfg (({ s with kernel := osEventTaskWait (s.kernel.setTcb s.kernel.prioCur
      ⟨(s.kernel.tcb s.kernel.prioCur).stat ||| osStatSem, osStatPendOk, timeout⟩) i } :
        SemState ι).setPc s.kernel.prioCur (.pendSched i)) := by
  set p := s.kernel.prioCur with hp
  set t := ({ s with kernel := osEventTaskWait (s.kernel.setTcb p
    ⟨(s.kernel.tcb p).stat ||| osStatSem, osStatPendOk, timeout⟩) i } : SemState ι).setPc p
      (.pendSched i) with ht
  have hrest : AtRest s p := (h.taskOk p hcur).atRest (by rw [hpc]; rfl)
  have hrdy : t.kernel.rdy = s.kernel.rdy.remove p := rfl
  have hwait : ∀ j, (t.kernel.event j).wait =
      if j = i then (s.kernel.event i).wait.insert p else (s.kernel.event j).wait :=
    fun j => setWait_wait _ i j _
  have hself : t.pc p = .pendSched i := Function.update_self _ _ _
  refine h.of_task hcur (fun q hq => ⟨⟨?_, ?_, fun j => ?_, rfl⟩, ?_⟩) ?_ (fun j => ?_) ?_ rfl
    (fun hne => absurd hself (hne i)) (fun _ _ => hlock) h.tickTask
  · exact Function.update_of_ne hq _ _
  · rw [hrdy, PrioBitmap.mem_remove]
    exact and_iff_right hq
  · rw [hwait]
    split_ifs with hj
    · rw [hj, PrioBitmap.mem_insert]
      exact or_iff_right hq
    · rfl
  · exact Function.update_of_ne hq _ _
  · exact h.rdyValid.remove p
  · rw [hwait]
    split_ifs
    · exact (h.waitValid i).insert p
    · exact h.waitValid j
  · refine taskOk_of_pending (i := i) (by rw [hself]; rfl) (Or.inl ?_)
    have htcb : t.kernel.tcb p =
        ⟨(s.kernel.tcb p).stat ||| osStatSem, osStatPendOk, timeout⟩ := Function.update_self _ _ _
    constructor
    · rw [hrdy, PrioBitmap.mem_remove]
      simp
    · rw [htcb, hrest.stat]
      rfl
    · rw [htcb]
    · simp
    · exact hrest.handed
    · intro j
      rw [hwait]
      split_ifs with hj
      · rw [hj, PrioBitmap.mem_insert]
        simp
      · rw [hrest.wait j, Option.some_inj]
        simp [Ne.symm hj]

/-- The task to which a post goes: the one with the highest priority on the wait list. -/
lemma Sound.osEventTaskRdy_prio (h : Sound cfg s) {i : ι} (hgrp : (s.kernel.event i).wait.grp ≠ 0)
    (msk pendStat : UInt8) :
    (s.kernel.event i).wait.Mem (osEventTaskRdy s.kernel i msk pendStat).2 ∧
      ∀ q, (s.kernel.event i).wait.Mem q → (osEventTaskRdy s.kernel i msk pendStat).2 ≤ q :=
  ⟨((h.waitValid i).first_mem isLowest_osUnMap hgrp).2, fun q hq =>
    (h.waitValid i).first_le isLowest_osUnMap (cfg.lt_of_mem (h.waitTask i q hq)) hq⟩

/-- `OS_EventTaskRdy` in a post: the task is ready, with a cleared TCB, and off the wait list. -/
lemma Sound.handOver_kernel (h : Sound cfg s) {i : ι} (hgrp : (s.kernel.event i).wait.grp ≠ 0) :
    (osEventTaskRdy s.kernel i osStatSem osStatPendOk).1 =
      ({ s.kernel.setTcb (osEventTaskRdy s.kernel i osStatSem osStatPendOk).2
          ⟨osStatRdy, osStatPendOk, 0⟩ with
        rdy := s.kernel.rdy.insert (osEventTaskRdy s.kernel i osStatSem osStatPendOk).2 } :
          OsState ι).setWait i
        ((s.kernel.event i).wait.remove (osEventTaskRdy s.kernel i osStatSem osStatPendOk).2) := by
  obtain ⟨hmem, -⟩ := h.osEventTaskRdy_prio hgrp osStatSem osStatPendOk
  set p := (osEventTaskRdy s.kernel i osStatSem osStatPendOk).2 with hp
  have hstat : (s.kernel.tcb p).stat &&& ~~~osStatSem = osStatRdy := by
    rcases (h.waiter hmem).2 with hw | hto
    · rw [hw.stat]
      rfl
    · rw [hto.stat]
      rfl
  have hcase : ((s.kernel.tcb p).stat &&& ~~~osStatSem) &&& osStatSuspend = osStatRdy := by
    rw [hstat]
    rfl
  have hk := osEventTaskRdy_eq s.kernel i osStatSem osStatPendOk hp.symm hcase
  rw [hstat] at hk
  exact hk

/-- A post hands its token to a task: it is ready, off the wait list, and on record. -/
lemma Sound.handOver (h : Sound cfg s) {i : ι} (hgrp : (s.kernel.event i).wait.grp ≠ 0) :
    Sound cfg (({ s with kernel := (osEventTaskRdy s.kernel i osStatSem osStatPendOk).1 } :
      SemState ι).setHanded (osEventTaskRdy s.kernel i osStatSem osStatPendOk).2 true) := by
  obtain ⟨hmem, -⟩ := h.osEventTaskRdy_prio hgrp osStatSem osStatPendOk
  rw [h.handOver_kernel hgrp]
  set p := (osEventTaskRdy s.kernel i osStatSem osStatPendOk).2 with hp
  set k := ({ s.kernel.setTcb p ⟨osStatRdy, osStatPendOk, 0⟩ with rdy := s.kernel.rdy.insert p } :
    OsState ι).setWait i ((s.kernel.event i).wait.remove p) with hk
  have hrdy : ∀ q, k.rdy.Mem q ↔ q = p ∨ s.kernel.rdy.Mem q := PrioBitmap.mem_insert _ _
  have hwait : ∀ j, (k.event j).wait =
      if j = i then (s.kernel.event i).wait.remove p else (s.kernel.event j).wait :=
    fun j => setWait_wait _ i j _
  have htcb : k.tcb p = ⟨osStatRdy, osStatPendOk, 0⟩ := Function.update_self _ _ _
  refine h.of_task (h.waitTask i p hmem) (fun q hq => ⟨⟨Function.update_of_ne hq _ _,
    (hrdy q).trans (or_iff_right hq), fun j => ?_, Function.update_of_ne hq _ _⟩, rfl⟩)
    (h.rdyValid.insert p) (fun j => ?_) ?_ rfl (fun hne => (hrdy _).mpr (Or.inr (h.curRdy hne)))
    h.unlocked h.tickTask
  · show (k.event j).wait.Mem q ↔ (s.kernel.event j).wait.Mem q
    rw [hwait]
    split_ifs with hj
    · rw [hj, PrioBitmap.mem_remove]
      exact and_iff_right hq
    · rfl
  · show (k.event j).wait.Valid
    rw [hwait]
    split_ifs
    · exact (h.waitValid i).remove p
    · exact h.waitValid j
  · refine taskOk_of_pending (i := i) (h.waiter hmem).1 (Or.inr (Or.inl ?_))
    constructor
    · exact iff_of_true ((hrdy p).mpr (Or.inl rfl)) rfl
    · exact congrArg OsTcb.stat htcb
    · exact congrArg OsTcb.statPend htcb
    · exact fun _ => congrArg OsTcb.dly htcb
    · exact Function.update_self _ _ _
    · intro j
      show (k.event j).wait.Mem p ↔ _
      rw [hwait]
      split_ifs with hj
      · simp
      · simp [h.not_mem_wait hmem hj]

/-- The task that a post has readied. -/
lemma Sound.handed_of_handOver (h : Sound cfg s) {i : ι} (hgrp : (s.kernel.event i).wait.grp ≠ 0) :
    Handed (({ s with kernel := (osEventTaskRdy s.kernel i osStatSem osStatPendOk).1 } :
      SemState ι).setHanded (osEventTaskRdy s.kernel i osStatSem osStatPendOk).2 true)
        (osEventTaskRdy s.kernel i osStatSem osStatPendOk).2 := by
  obtain ⟨hmem, -⟩ := h.osEventTaskRdy_prio hgrp osStatSem osStatPendOk
  have hu := h.handOver hgrp
  set p := (osEventTaskRdy s.kernel i osStatSem osStatPendOk).2 with hp
  set u := ({ s with kernel := (osEventTaskRdy s.kernel i osStatSem osStatPendOk).1 } :
    SemState ι).setHanded p true with hudef
  have hhanded : u.handed p = true := Function.update_self _ _ _
  have hpend : (u.pc p).pending = some i := (h.waiter hmem).1
  rcases (hu.taskOk p (h.waitTask i p hmem)).pending hpend with hw | hd | hto
  · exact absurd (hhanded.symm.trans hw.handed) (by simp)
  · exact hd
  · exact absurd (hhanded.symm.trans hto.handed) (by simp)

/-- **The end of `OSSemPend`.** It returns `OS_ERR_NONE` to a task that a post has readied, and
`OS_ERR_TIMEOUT` to one that its timeout has readied.

**Proof sketch.** A task that is back in `OSSemPend` is ready, so it has been handed a token or has
timed out. In both cases what it writes is a task at rest, and `Sound.leave` applies. -/
lemma Sound.resume (h : Sound cfg s) {i : ι} (hpc : s.pc s.kernel.prioCur = .pendResume i) :
    Sound cfg ((({ s with kernel := (osSemPendResume s.kernel i).1 } : SemState ι).setPc
        s.kernel.prioCur .user).setHanded s.kernel.prioCur false) ∧
      (((osSemPendResume s.kernel i).2 = .none ∧ Handed s s.kernel.prioCur) ∨
        ((osSemPendResume s.kernel i).2 = .timeout ∧ TimedOut s i s.kernel.prioCur)) ∧
      ∀ j, ((osSemPendResume s.kernel i).1.event j).cnt = (s.kernel.event j).cnt := by
  obtain ⟨hmem, hstand⟩ := h.resuming hpc
  have htcb : (s.kernel.tcb s.kernel.prioCur).stat = osStatRdy ∧
      (s.kernel.tcb s.kernel.prioCur).dly = 0 := by
    rcases hstand with hd | hto
    · exact ⟨hd.stat, hd.dly rfl⟩
    · exact ⟨hto.stat, hto.dly rfl⟩
  have hnew : ({ s.kernel.tcb s.kernel.prioCur with
      stat := (s.kernel.tcb s.kernel.prioCur).stat &&& ~~~(osStatSem ||| osStatPendAny)
      statPend := osStatPendOk } : OsTcb) = ⟨osStatRdy, osStatPendOk, 0⟩ := by
    simp only [htcb.1, htcb.2]
    rfl
  rcases hstand with hd | hto
  · have hr : osSemPendResume s.kernel i = (s.kernel.setTcb s.kernel.prioCur
        ⟨osStatRdy, osStatPendOk, 0⟩, .none) := by
      simp only [osSemPendResume]
      rw [if_pos hd.statPend, hnew]
    rw [hr]
    refine ⟨h.leave hpc rfl rfl rfl (fun j => Or.inl rfl) fun j hj => ?_, Or.inl ⟨rfl, hd⟩,
      fun _ => rfl⟩
    exact absurd ((hd.wait j).mp hj) (by simp)
  · have hr : osSemPendResume s.kernel i = ((osEventTaskRemove s.kernel s.kernel.prioCur i).setTcb
        s.kernel.prioCur ⟨osStatRdy, osStatPendOk, 0⟩, .timeout) := by
      simp only [osSemPendResume]
      rw [if_neg (by rw [hto.statPend]; decide), if_pos hto.statPend]
      exact congrArg (fun t => ((osEventTaskRemove s.kernel s.kernel.prioCur i).setTcb
        s.kernel.prioCur t, OsErr.timeout)) hnew
    have hwait : ∀ j, (((osEventTaskRemove s.kernel s.kernel.prioCur i).setTcb s.kernel.prioCur
        ⟨osStatRdy, osStatPendOk, 0⟩).event j).wait = if j = i then
          (s.kernel.event i).wait.remove s.kernel.prioCur else (s.kernel.event j).wait :=
      fun j => setWait_wait _ i j _
    rw [hr]
    refine ⟨h.leave hpc rfl rfl rfl (fun j => ?_) fun j hj => ?_, Or.inr ⟨rfl, hto⟩,
      fun j => setWait_cnt _ i j _⟩
    · rw [hwait]
      split_ifs with hj
      · rw [hj]
        exact Or.inr rfl
      · exact Or.inl rfl
    · have hj' := (hwait j) ▸ hj
      split_ifs at hj' with hji
      · simp at hj'
      · exact hji (Option.some_inj.mp ((hto.wait j).mp hj')).symm

end

end Kernel
