import UcosArm64.Kernel.SemConservation

set_option relaxedAutoImplicit false
set_option autoImplicit false

/-!
# The only task that pends on a semaphore

What the steps of other tasks and of interrupts do to a semaphore and to the only task that pends
on it. They take no token of the semaphore and leave the task where it is; a post either hands the
token to the task or leaves it at the semaphore; and a task that pends without a timeout does not
time out.

## Main definitions

* `Kernel.OsState.Patient` — no timeout of the task is running or has run out.
* `Kernel.SemState.Signalled` — a token is at the semaphore, or has been handed to the task.
* `Kernel.Keeps` — what steps that are not the task's own do.
* `Kernel.Elsewhere` — an action that is not the task's own and takes no token.

## Main results

* `Kernel.Keeps.step` — such a step keeps a signal.
* `Kernel.Conserved.signalled_of_isrPost` — a post makes a signal.
-/

namespace Kernel

section

variable {ι : Type}

/-- No delay of the task is running, and none has run out. -/
def OsState.Patient (k : OsState ι) (p : ℕ) : Prop :=
  (k.tcb p).dly = 0 ∧ (k.tcb p).statPend = osStatPendOk

/-- A token is at the semaphore, or a post has handed one to the task. -/
def SemState.Signalled (s : SemState ι) (i : ι) (p : ℕ) : Prop :=
  (s.kernel.event i).cnt ≠ 0 ∨ s.handed p = true

/-- The task stays where it is, no task begins to pend on the semaphore, a signal stays, and the
task does not time out. -/
structure Keeps (i : ι) (p : ℕ) (s t : SemState ι) : Prop where
  pc : t.pc p = s.pc p
  pending : ∀ q, (t.pc q).pending = some i → (s.pc q).pending = some i
  signalled : s.Signalled i p → t.Signalled i p
  patient : s.kernel.Patient p → t.kernel.Patient p

variable {i : ι} {p : ℕ} {s t u : SemState ι}

/-- Two steps that keep the waiter. -/
lemma Keeps.trans (h : Keeps i p s t) (h' : Keeps i p t u) : Keeps i p s u where
  pc := h'.pc.trans h.pc
  pending := fun q hq => h.pending q (h'.pending q hq)
  signalled := fun hs => h'.signalled (h.signalled hs)
  patient := fun hp => h'.patient (h.patient hp)

/-- A change of the kernel's data. -/
lemma Keeps.kernel (s : SemState ι) {k : OsState ι}
    (hcnt : (s.kernel.event i).cnt ≠ 0 → (k.event i).cnt ≠ 0)
    (hpatient : s.kernel.Patient p → k.Patient p) : Keeps i p s { s with kernel := k } where
  pc := rfl
  pending := fun _ hq => hq
  signalled := Or.imp_left hcnt
  patient := hpatient

/-- A change of the kernel's data that keeps the semaphores and the TCBs. -/
lemma Keeps.kernel_of_eq (s : SemState ι) {k : OsState ι} (hevent : k.event = s.kernel.event)
    (htcb : k.tcb = s.kernel.tcb) : Keeps i p s { s with kernel := k } := by
  apply Keeps.kernel
  · rw [hevent]
    exact id
  · simp only [OsState.Patient, htcb]
    exact id

/-- Another task moves to a place where it does not pend on the semaphore, or did before. -/
lemma Keeps.setPc (s : SemState ι) {q : ℕ} (hq : q ≠ p) {pc : TaskPc ι}
    (hpc : pc.pending = some i → (s.pc q).pending = some i) : Keeps i p s (s.setPc q pc) where
  pc := Function.update_of_ne (Ne.symm hq) _ _
  pending := by
    intro r hr
    by_cases hrq : r = q
    · subst hrq
      simp only [SemState.setPc, Function.update_self] at hr
      exact hpc hr
    · simpa only [SemState.setPc, Function.update_of_ne hrq] using hr
  signalled := id
  patient := id

/-- A post readies a task, or another task has returned. -/
lemma Keeps.setHanded (s : SemState ι) {q : ℕ} {b : Bool} (hb : b = true ∨ q ≠ p) :
    Keeps i p s (s.setHanded q b) where
  pc := rfl
  pending := fun _ hq => hq
  signalled := by
    apply Or.imp_right
    intro hp
    simp only [SemState.setHanded]
    by_cases hq : p = q
    · rw [hq, Function.update_self]
      exact hb.resolve_right (not_not.mpr hq.symm)
    · rw [Function.update_of_ne hq]
      exact hp
  patient := id

/-- The TCB of another task. -/
lemma OsState.Patient.setTcb {k : OsState ι} (h : k.Patient p) {q : ℕ} (hq : q ≠ p) (tcb : OsTcb) :
    (k.setTcb q tcb).Patient p := by
  unfold OsState.Patient OsState.setTcb
  simp only [Function.update_of_ne (Ne.symm hq)]
  exact h

/-- A TCB without a delay. -/
lemma OsState.Patient.setTcb_of {k : OsState ι} (h : k.Patient p) (q : ℕ) {tcb : OsTcb}
    (hdly : tcb.dly = 0) (hstat : tcb.statPend = osStatPendOk) : (k.setTcb q tcb).Patient p := by
  by_cases hq : q = p
  · subst hq
    unfold OsState.Patient OsState.setTcb
    simp only [Function.update_self]
    exact ⟨hdly, hstat⟩
  · exact h.setTcb hq tcb

/-- The tick counts down no delay of the task. -/
lemma OsState.Patient.osTimeTickTcb {k : OsState ι} (h : k.Patient p) (q : ℕ) :
    (osTimeTickTcb k q).Patient p := by
  by_cases hq : q = p
  · subst hq
    unfold Kernel.osTimeTickTcb
    simp only
    rw [if_neg (not_not.mpr h.1)]
    exact h
  · unfold Kernel.osTimeTickTcb
    simp only
    split_ifs
    · exact h.setTcb hq _
    · exact h.setTcb hq _
    · exact h.setTcb hq _
    · exact h.setTcb hq _
    · exact h.setTcb hq _
    · exact h

/-- `OS_Sched` leaves the TCBs alone. -/
@[simp] lemma osSched_tcb (k : OsState ι) : (osSched k).tcb = k.tcb := by
  simp only [osSched]
  split_ifs <;> rfl

/-- `OSIntEnter` leaves the TCBs alone. -/
@[simp] lemma osIntEnter_tcb (k : OsState ι) : (osIntEnter k).tcb = k.tcb := by
  simp only [osIntEnter]
  split_ifs <;> rfl

/-- `OSIntEnter` leaves the events alone. -/
@[simp] lemma osIntEnter_event (k : OsState ι) : (osIntEnter k).event = k.event := by
  simp only [osIntEnter]
  split_ifs <;> rfl

/-- `OSIntExit` leaves the TCBs alone. -/
@[simp] lemma osIntExit_tcb (k : OsState ι) : (osIntExit k).tcb = k.tcb := by
  simp only [osIntExit]
  split_ifs <;> rfl

/-- `OSSchedLock` leaves the TCBs alone. -/
@[simp] lemma osSchedLock_tcb (k : OsState ι) : (osSchedLock k).tcb = k.tcb := by
  simp only [osSchedLock]
  split_ifs <;> rfl

/-- `OSSchedUnlock` leaves the TCBs alone. -/
@[simp] lemma osSchedUnlock_tcb (k : OsState ι) : (osSchedUnlock k).1.tcb = k.tcb := by
  simp only [osSchedUnlock]
  split_ifs <;> rfl

end

section

variable {ι : Type} [DecidableEq ι] {i : ι} {p : ℕ} {s t : SemState ι}

/-- An entry in a ledger keeps the waiter. -/
lemma Keeps.record (s : SemState ι) (j : ι) (f : Ledger → Ledger) : Keeps i p s (s.record j f) where
  pc := rfl
  pending := fun _ hq => hq
  signalled := id
  patient := id

/-- The count of another semaphore. -/
lemma setCnt_cnt_ne_zero {k : OsState ι} {j : ι} (hj : j ≠ i) (cnt : UInt16)
    (h : (k.event i).cnt ≠ 0) : ((k.setCnt j cnt).event i).cnt ≠ 0 := by
  rw [setCnt_cnt, if_neg (Ne.symm hj)]
  exact h

/-- A count that has gone up is not zero. -/
lemma add_one_ne_zero {cnt : UInt16} (h : cnt < 0xFFFF) : cnt + 1 ≠ 0 := by
  have hlt : cnt.toNat < 65535 := h
  intro hz
  have hnat : (cnt + 1).toNat = 0 := congrArg UInt16.toNat hz
  rw [UInt16.toNat_add] at hnat
  have hone : (1 : UInt16).toNat = 1 := rfl
  omega

/-- A post keeps the counts that are not zero. -/
lemma osSemPost_cnt_ne_zero {k : OsState ι} (j : ι) (h : (k.event i).cnt ≠ 0) :
    ((osSemPost k j).1.event i).cnt ≠ 0 := by
  rcases osSemPost_cases k j with ⟨-, heq⟩ | ⟨-, hlt, heq⟩ | heq
  · rw [heq]
    simp only [osEventTaskRdy_cnt]
    exact h
  · rw [heq]
    simp only [setCnt_cnt]
    split_ifs with hij
    · exact add_one_ne_zero hlt
    · exact h
  · rw [heq]
    exact h

/-- A post starts no delay. -/
lemma OsState.Patient.osSemPost {k : OsState ι} (h : k.Patient p) (j : ι) :
    (osSemPost k j).1.Patient p := by
  rcases osSemPost_cases k j with ⟨-, heq⟩ | ⟨-, -, heq⟩ | heq
  · rw [heq]
    simp only [osEventTaskRdy]
    split_ifs
    · exact h.setTcb_of _ rfl rfl
    · exact h.setTcb_of _ rfl rfl
  · rw [heq]
    exact h
  · rw [heq]
    exact h

/-- The end of another task's `OSSemPend`. -/
lemma OsState.Patient.osSemPendResume {k : OsState ι} (h : k.Patient p)
    (hp : k.prioCur ≠ p) (j : ι) :
    (osSemPendResume k j).1.Patient p := by
  simp only [Kernel.osSemPendResume]
  split_ifs
  · exact h.setTcb hp _
  · exact h.setTcb hp _
  · exact h.setTcb hp _

/-- `OSSemPend` of a task that has not timed out returns `OS_ERR_NONE`. -/
lemma OsState.Patient.osSemPendResume_self {k : OsState ι} (h : k.Patient k.prioCur) (j : ι) :
    (Kernel.osSemPendResume k j).2 = .none ∧
      (Kernel.osSemPendResume k j).1.Patient k.prioCur := by
  simp only [Kernel.osSemPendResume]
  rw [if_pos h.2]
  exact ⟨rfl, h.setTcb_of _ h.1 rfl⟩

/-- The end of `OSSemPend` leaves the counts alone. -/
lemma osSemPendResume_cnt (k : OsState ι) (j : ι) :
    ((osSemPendResume k j).1.event i).cnt = (k.event i).cnt := by
  simp only [Kernel.osSemPendResume]
  split_ifs
  · rfl
  · exact setWait_cnt _ _ _ _
  · exact setWait_cnt _ _ _ _

/-- The action is not a step of the task, and takes no token of the semaphore. -/
def Elsewhere (i : ι) (p : ℕ) (s : SemState ι) : SemAction ι → Prop
  | .pend j _ | .accept j => s.kernel.prioCur ≠ p ∧ j ≠ i
  | .post _ | .lock | .unlock | .task => s.kernel.prioCur ≠ p
  | .intEnter | .isrPost _ | .tick | .tickNext | .intExit => True

/-- A post of another task, or of an interrupt. -/
lemma Keeps.post (s : SemState ι) (j : ι) :
    Keeps i p s { s with kernel := (osSemPost s.kernel j).1 } :=
  Keeps.kernel s (osSemPost_cnt_ne_zero j) fun h => h.osSemPost j

/-- A call of another task.

**Proof sketch.** One case per call. The task is another one than the waiter, and a post hands its
token to the first task of the wait list, which is the waiter or leaves it there. -/
lemma Keeps.callStep {a : SemAction ι} (ha : Elsewhere i p s a) (hstep : callStep s a = some t) :
    Keeps i p s t := by
  cases a with
  | pend j timeout =>
    obtain ⟨hcur, hj⟩ := ha
    have hint : ∀ cnt, Keeps i p s { s with kernel := s.kernel.setCnt j cnt } := fun cnt =>
      Keeps.kernel s (setCnt_cnt_ne_zero hj cnt) id
    simp only [Kernel.callStep] at hstep
    split_ifs at hstep
    simp only [osSemPend] at hstep
    split_ifs at hstep
    · cases hstep
      exact Keeps.kernel_of_eq s rfl rfl
    · cases hstep
      exact (hint _).trans (Keeps.record _ _ _)
    · cases hstep
      refine Keeps.trans (Keeps.kernel s (fun h => ?_) fun h => ?_)
        (Keeps.setPc _ hcur fun hp => ?_)
      · simp only [osEventTaskWait, setWait_cnt]
        exact h
      · exact OsState.Patient.setTcb h hcur _
      · exact absurd (Option.some_inj.mp hp) hj
  | post j =>
    have hpost := Keeps.post (i := i) (p := p) s j
    simp only [Kernel.callStep] at hstep
    generalize osSemPost s.kernel j = r at hstep hpost
    obtain ⟨k, outcome⟩ := r
    cases outcome with
    | readied q =>
      cases hstep
      exact (hpost.trans (Keeps.setPc _ ha fun h => by cases h)).trans
        (Keeps.setHanded _ (.inl rfl))
    | counted =>
      cases hstep
      exact hpost.trans (Keeps.record _ _ _)
    | overflow =>
      cases hstep
      exact hpost
  | accept j =>
    obtain ⟨hcur, hj⟩ := ha
    simp only [Kernel.callStep] at hstep
    rcases osSemAccept_cases s.kernel j with ⟨hcnt, heq⟩ | ⟨hcnt, heq⟩
    · rw [heq] at hstep
      simp only [if_pos hcnt] at hstep
      cases hstep
      exact (Keeps.kernel s (setCnt_cnt_ne_zero hj _) id).trans (Keeps.record _ _ _)
    · rw [heq] at hstep
      cases hstep
      exact Keeps.kernel_of_eq s rfl rfl
  | lock =>
    cases hstep
    exact Keeps.kernel_of_eq s (osSchedLock_event _) (osSchedLock_tcb _)
  | unlock =>
    have hk : Keeps i p s { s with kernel := (osSchedUnlock s.kernel).1 } :=
      Keeps.kernel_of_eq s (osSchedUnlock_event _) (osSchedUnlock_tcb _)
    simp only [Kernel.callStep] at hstep
    split_ifs at hstep
    · cases hstep
      exact hk.trans (Keeps.setPc _ ha fun h => by cases h)
    · cases hstep
      exact hk
  | _ => cases hstep

/-- A step of another task in its call. -/
lemma Keeps.taskStep (hcur : s.kernel.prioCur ≠ p) (hstep : taskStep s = some t) :
    Keeps i p s t := by
  have hsched : Keeps i p s { s with kernel := osSched s.kernel } :=
    Keeps.kernel_of_eq s (osSched_event _) (osSched_tcb _)
  cases hpc : s.pc s.kernel.prioCur with
  | user =>
    simp only [Kernel.taskStep, hpc] at hstep
    cases hstep
  | pendSched j =>
    simp only [Kernel.taskStep, hpc] at hstep
    cases hstep
    exact hsched.trans (Keeps.setPc _ hcur fun h => by simp only [hpc]; exact h)
  | pendResume j =>
    have hk : Keeps i p s { s with kernel := (osSemPendResume s.kernel j).1 } :=
      Keeps.kernel s (fun h => by rw [osSemPendResume_cnt]; exact h)
        fun h => h.osSemPendResume hcur j
    have huser := hk.trans (Keeps.setPc { s with kernel := (osSemPendResume s.kernel j).1 } hcur
      (show TaskPc.user.pending = some i → _ from fun h => by cases h))
    have hreturn := huser.trans (Keeps.setHanded _ (b := false) (.inr hcur))
    simp only [Kernel.taskStep, hpc] at hstep
    split_ifs at hstep
    · cases hstep
      exact hreturn.trans (Keeps.record _ _ _)
    · cases hstep
      exact hreturn
  | postSched j =>
    simp only [Kernel.taskStep, hpc] at hstep
    cases hstep
    exact hsched.trans (Keeps.setPc _ hcur fun h => by cases h)
  | postReturn j =>
    simp only [Kernel.taskStep, hpc] at hstep
    cases hstep
    exact (Keeps.setPc s hcur fun h => by cases h).trans (Keeps.record _ _ _)
  | unlockSched =>
    simp only [Kernel.taskStep, hpc] at hstep
    cases hstep
    exact hsched.trans (Keeps.setPc _ hcur fun h => by cases h)

/-- A step of an interrupt. -/
lemma Keeps.interruptStep {cfg : OsConfig} {a : SemAction ι}
    (hstep : interruptStep cfg s a = some t) : Keeps i p s t := by
  cases a with
  | isrPost j =>
    have hpost := Keeps.post (i := i) (p := p) s j
    simp only [Kernel.interruptStep] at hstep
    generalize osSemPost s.kernel j = r at hstep hpost
    obtain ⟨k, outcome⟩ := r
    cases outcome with
    | readied q =>
      cases hstep
      have hsched : Keeps i p { s with kernel := k } { s with kernel := osSched k } :=
        Keeps.kernel_of_eq _ (osSched_event _) (osSched_tcb _)
      exact ((hpost.trans hsched).trans (Keeps.setHanded _ (.inl rfl))).trans (Keeps.record _ _ _)
    | counted =>
      cases hstep
      exact hpost.trans (Keeps.record _ _ _)
    | overflow =>
      cases hstep
      exact hpost
  | tick =>
    cases hstep
    exact ⟨rfl, fun _ hq => hq, id, id⟩
  | tickNext =>
    simp only [Kernel.interruptStep] at hstep
    split at hstep
    · cases hstep
    · rename_i q rest htick
      cases hstep
      have hk : Keeps i p s { s with kernel := osTimeTickTcb s.kernel q } :=
        Keeps.kernel s (fun h => by rw [osTimeTickTcb_event]; exact h) fun h => h.osTimeTickTcb q
      exact ⟨hk.pc, hk.pending, hk.signalled, hk.patient⟩
  | intExit =>
    simp only [Kernel.interruptStep] at hstep
    split_ifs at hstep
    cases hstep
    exact Keeps.kernel_of_eq s (osIntExit_event _) (osIntExit_tcb _)
  | _ => cases hstep

/-- **Steps that are not the task's own** keep a signal. -/
theorem Keeps.step {cfg : OsConfig} {a : SemAction ι} (ha : Elsewhere i p s a)
    (hstep : semStep cfg s a = some t) : Keeps i p s t := by
  cases a with
  | intEnter =>
    simp only [semStep] at hstep
    split_ifs at hstep
    cases hstep
    exact Keeps.kernel_of_eq s (osIntEnter_event _) (osIntEnter_tcb _)
  | task =>
    simp only [semStep] at hstep
    split_ifs at hstep
    exact Keeps.taskStep ha hstep
  | isrPost j | tick | tickNext | intExit =>
    simp only [semStep] at hstep
    split_ifs at hstep
    exact Keeps.interruptStep hstep
  | pend j timeout | post j | accept j | lock | unlock =>
    simp only [semStep] at hstep
    split_ifs at hstep
    exact Keeps.callStep ha hstep

/-- **A post is a signal**, when no other task pends on the semaphore. -/
theorem Conserved.signalled_of_isrPost {cfg : OsConfig} {cnt : ι → UInt16} (h : Conserved cfg cnt s)
    (honly : ∀ q, (s.pc q).pending = some i → q = p)
    (hstep : semStep cfg s (.isrPost i) = some t) : t.Signalled i p := by
  simp only [semStep] at hstep
  split_ifs at hstep
  simp only [Kernel.interruptStep] at hstep
  unfold osSemPost at hstep
  by_cases hgrp : (s.kernel.event i).wait.grp ≠ 0
  · -- the first of the wait list is the task
    rw [if_pos hgrp] at hstep
    cases hstep
    have hmem := (h.toSound.osEventTaskRdy_prio hgrp osStatSem osStatPendOk).1
    have hp := honly _ (h.toSound.waiter hmem).1
    exact .inr (by simp [SemState.setHanded, SemState.record, hp])
  · rw [if_neg hgrp] at hstep
    split_ifs at hstep with hcnt
    · cases hstep
      refine .inl ?_
      show ((s.kernel.setCnt i _).event i).cnt ≠ 0
      rw [setCnt_cnt, if_pos rfl]
      exact add_one_ne_zero hcnt
    · cases hstep
      refine .inl fun hz => hcnt ?_
      simp only at hz
      rw [hz]
      decide

end

end Kernel
