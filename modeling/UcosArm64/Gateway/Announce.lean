import Mathlib.Data.Fintype.Basic
import UcosArm64.Gateway.NetTasks

set_option relaxedAutoImplicit false
set_option autoImplicit false

/-!
# Notification of transmitted frames

A receive task flushes before it blocks, so that the frames it has sent are announced when the
system is idle, whatever the interrupts and the task switches were. Task B does not flush. Its
frames are announced only if a receive task happens to be running that has yet to test the batch
count.

## Main definitions

* `Gateway.Covered` — a receive task will announce what is queued.
* `Gateway.FreshCovered` — the condition on Task B.
* `Gateway.RxEffect` — what a step of a receive task does to one device.
* `Gateway.AnnounceInv` — the invariant.

## Main results

* `Gateway.announced_of_stepsMeet` — when the frames of Task B are covered as it goes to sleep,
  nothing is left unannounced while the system is idle.
* `Gateway.arpRun_not_announced` — a run in which an ARP request is left unannounced.
-/

namespace Gateway

open Transition

instance : Fintype IfId := ⟨{.lan, .wan}, fun i => by cases i <;> decide⟩

/-! ## Who will announce -/

/-- The call has made its frame available and has not yet counted it. -/
def TxCallPc.placing : TxCallPc → Bool
  | .load | .store _ => true
  | _ => false

/-- The task is about to count a frame of the device. -/
def RxLoopPc.placing (d : IfId) : RxLoopPc → Bool
  | .send dev call _ => dev = d && call.placing
  | _ => false

/-- The task is about to write QueueNotify of the device. -/
def RxLoopPc.notifying (d : IfId) : RxLoopPc → Bool
  | .send dev call _ => dev = d && call = .notify
  | .txNotify dev => dev = d
  | _ => false

/-- The task is about to clear the count of the device. -/
def RxLoopPc.clearing (d : IfId) : RxLoopPc → Bool
  | .send dev call _ => dev = d && call = .clear
  | .txClear dev => dev = d
  | _ => false

/-- The task has yet to test the count of the device in this round of its loop. -/
def RxLoopPc.before (d : IfId) : RxLoopPc → Bool
  | .txTest dev => dev = .lan || d = .wan
  | .txNotify dev | .txClear dev => dev = .lan && d = .wan
  | .wait | .pending => false
  | _ => true

/-- The receive task will test the count of the device before it blocks: in this round, or in the
next one, which a token of its semaphore lets it begin. -/
def NetTasksState.Comes (s : NetTasksState) (i d : IfId) : Prop :=
  s.rx i ≠ .pending ∧ ((s.rx i).before d ∨ 0 < s.rxSem i)

/-- The task goes before the other one. -/
def IfId.Above (j i : IfId) : Prop := j = .lan ∧ i = .wan

/-- What is queued for the device will be announced: a receive task is about to count a frame or to
write QueueNotify; or the count is not zero, a receive task will test it, and neither this task nor
one that goes before it is about to clear it. -/
def Covered (s : NetTasksState) (d : IfId) : Prop :=
  (∃ i, (s.rx i).placing d ∨ (s.rx i).notifying d) ∨
    0 < s.batch d ∧ ∃ i, s.Comes i d ∧ (s.rx i).clearing d = false ∧
      ∀ j, j.Above i → (s.rx j).clearing d = false

instance (j i : IfId) : Decidable (j.Above i) := inferInstanceAs (Decidable (_ ∧ _))

instance (s : NetTasksState) (i d : IfId) : Decidable (s.Comes i d) :=
  inferInstanceAs (Decidable (_ ∧ _))

instance (s : NetTasksState) (d : IfId) : Decidable (Covered s d) :=
  inferInstanceAs (Decidable (_ ∨ _))

/-- When Task B goes to sleep, the frames that it has sent since it woke up, and that have not been
announced, are covered. -/
def FreshCovered (s : NetTasksState) : NetTasksAction → Prop
  | .taskB _ => s.loopB = .sleep → ∀ d, 0 < s.fresh d → Covered s d
  | _ => True

instance (s : NetTasksState) : (a : NetTasksAction) → Decidable (FreshCovered s a)
  | .taskB _ => inferInstanceAs (Decidable (_ → _))
  | .tick | .interrupt _ _ | .rxTask _ _ _ _ => isTrue trivial

/-! ## Steps of the receive tasks -/

/-- What a step of the receive task leaves alone. -/
structure RxFrame (i : IfId) (s t : NetTasksState) : Prop where
  rx : ∀ j, j ≠ i → t.rx j = s.rx j
  rxSem : ∀ j, j ≠ i → t.rxSem j = s.rxSem j
  loopB : t.loopB = s.loopB
  fresh : ∀ d, t.fresh d ≤ s.fresh d

/-- What a step of the receive task `i` does to the device `d`. -/
inductive RxEffect (i d : IfId) (s t : NetTasksState) : Prop
  | quiet (hbatch : t.batch d = s.batch d) (hun : t.unannounced d = s.unannounced d)
      (hplacing : (t.rx i).placing d = (s.rx i).placing d)
      (hnotifying : (t.rx i).notifying d = (s.rx i).notifying d)
      (hclearing : (t.rx i).clearing d = (s.rx i).clearing d)
      (hcomes : 0 < s.batch d → s.Comes i d → t.Comes i d)
  | enqueue (hplacing : (t.rx i).placing d)
  | store (hbatch : 0 < t.batch d) (hcomes : t.Comes i d) (hclearing : (t.rx i).clearing d = false)
  | start (hnotifying : (t.rx i).notifying d)
  | notify (hun : t.unannounced d = 0) (hclearing : (t.rx i).clearing d)
  | clear (hclearing : (s.rx i).clearing d) (hbatch : t.batch d = 0)
      (hun : t.unannounced d = s.unannounced d)

section Effect

variable {present : IfId → Bool} {s t : NetTasksState} {i d : IfId}

/-- The task is at its new place. -/
@[simp] lemma goto_rx (s : NetTasksState) (i : IfId) (pc : RxLoopPc) : (s.goto i pc).rx i = pc :=
  Function.update_self ..

/-- The other task stays where it is. -/
@[simp] lemma goto_rx_of_ne (s : NetTasksState) {i j : IfId} (h : j ≠ i) (pc : RxLoopPc) :
    (s.goto i pc).rx j = s.rx j :=
  Function.update_of_ne h _ _

/-- Going on changes no count. -/
@[simp] lemma goto_batch (s : NetTasksState) (i : IfId) (pc : RxLoopPc) :
    (s.goto i pc).batch = s.batch := rfl

/-- Going on does not change what is unannounced. -/
@[simp] lemma goto_unannounced (s : NetTasksState) (i : IfId) (pc : RxLoopPc) :
    (s.goto i pc).unannounced = s.unannounced := rfl

/-- Going on does not change the semaphores. -/
@[simp] lemma goto_rxSem (s : NetTasksState) (i : IfId) (pc : RxLoopPc) :
    (s.goto i pc).rxSem = s.rxSem := rfl

/-- In a call to send, the task is about to count a frame of the device of the call, if the call
is. -/
@[simp] lemma send_placing (dev : IfId) (call : TxCallPc) (rest : List IfId) :
    (RxLoopPc.send dev call rest).placing d = (decide (dev = d) && call.placing) := rfl

/-- In a call to send, the task is about to write QueueNotify of the device of the call, if the
call is. -/
@[simp] lemma send_notifying (dev : IfId) (call : TxCallPc) (rest : List IfId) :
    (RxLoopPc.send dev call rest).notifying d = (decide (dev = d) && decide (call = .notify)) := rfl

/-- In a call to send, the task is about to clear the count of the device of the call, if the call
is. -/
@[simp] lemma send_clearing (dev : IfId) (call : TxCallPc) (rest : List IfId) :
    (RxLoopPc.send dev call rest).clearing d = (decide (dev = d) && decide (call = .clear)) := rfl

/-- A task that sends has yet to test the counts. -/
@[simp] lemma send_before (dev : IfId) (call : TxCallPc) (rest : List IfId) :
    (RxLoopPc.send dev call rest).before d = true := rfl

/-- Before its next frame the task is about to count none. -/
@[simp] lemma next_placing (frames : List IfId) : (RxLoopPc.next frames).placing d = false := by
  cases frames <;> simp [RxLoopPc.next, RxLoopPc.placing, TxCallPc.placing]

/-- Before its next frame the task is not about to write QueueNotify. -/
@[simp] lemma next_notifying (frames : List IfId) : (RxLoopPc.next frames).notifying d = false := by
  cases frames <;> simp [RxLoopPc.next, RxLoopPc.notifying]

/-- Before its next frame the task is not about to clear a count. -/
@[simp] lemma next_clearing (frames : List IfId) : (RxLoopPc.next frames).clearing d = false := by
  cases frames <;> simp [RxLoopPc.next, RxLoopPc.clearing]

/-- Before its next frame the task has yet to test the counts. -/
@[simp] lemma next_before (frames : List IfId) : (RxLoopPc.next frames).before d = true := by
  cases frames <;> simp [RxLoopPc.next, RxLoopPc.before]

/-- A task that has yet to test the count in this round will test it. -/
lemma comes_of_before (h : (s.rx i).before d = true) : s.Comes i d := by
  refine ⟨fun hp => ?_, .inl h⟩
  rw [hp] at h
  cases h

/-- A task that will test the count goes on. -/
lemma NetTasksState.Comes.of_before (h : s.Comes i d) (hrx : t.rx i ≠ .pending)
    (hsem : t.rxSem i = s.rxSem i) (hbefore : (s.rx i).before d → (t.rx i).before d) :
    t.Comes i d := by
  refine ⟨hrx, h.2.imp hbefore fun hpos => ?_⟩
  rw [hsem]
  exact hpos

/-- A task that announces the frames of another device has yet to test the count of `d`, as
before. -/
lemma before_txNotify {dev : IfId} (hdev : dev ≠ d) (h : (RxLoopPc.txTest dev).before d) :
    (RxLoopPc.txNotify dev).before d := by
  revert hdev h
  cases dev <;> cases d <;> decide

/-- A task that is done with another device has yet to test the count of `d`, as before. -/
lemma before_flushed {dev : IfId} (hdev : dev ≠ d) (h : (RxLoopPc.txTest dev).before d) :
    (RxLoopPc.flushed dev).before d := by
  revert hdev h
  cases dev <;> cases d <;> decide

/-- What a task that clears a count has yet to test, it had yet to test before. -/
lemma before_of_txClear {dev : IfId} (h : (RxLoopPc.txClear dev).before d) :
    (RxLoopPc.txTest dev).before d := by
  revert h
  cases dev <;> cases d <;> decide

/-- After `virtio_net_tx_flush_dev` the task is about to count no frame. -/
@[simp] lemma flushed_placing (dev : IfId) : (RxLoopPc.flushed dev).placing d = false := by
  cases dev <;> rfl

/-- After `virtio_net_tx_flush_dev` the task is not about to write QueueNotify. -/
@[simp] lemma flushed_notifying (dev : IfId) : (RxLoopPc.flushed dev).notifying d = false := by
  cases dev <;> rfl

/-- After `virtio_net_tx_flush_dev` the task is not about to clear a count. -/
@[simp] lemma flushed_clearing (dev : IfId) : (RxLoopPc.flushed dev).clearing d = false := by
  cases dev <;> rfl

/-- After `virtio_net_tx_flush_dev` the task is not blocked. -/
@[simp] lemma flushed_ne_pending (dev : IfId) : RxLoopPc.flushed dev ≠ .pending := by
  cases dev <;> simp [RxLoopPc.flushed]

/-- A step within the round that touches neither the count nor the records, between two places that
are not told apart. -/
lemma RxEffect.of_flags {pc pc' : RxLoopPc} (hpc : s.rx i = pc) (hpc' : t.rx i = pc')
    (hbatch : t.batch d = s.batch d) (hun : t.unannounced d = s.unannounced d)
    (hflags : (pc'.placing d, pc'.notifying d, pc'.clearing d) =
      (pc.placing d, pc.notifying d, pc.clearing d)) (hbefore :
      pc'.before d) : RxEffect i d s t := by
  subst hpc hpc'
  simp only [Prod.mk.injEq] at hflags
  exact .quiet hbatch hun hflags.1 hflags.2.1 hflags.2.2 fun _ _ => comes_of_before hbefore

/-- A call does nothing to other devices. -/
lemma txCall_of_ne (present : IfId → Bool) (s : NetTasksState) {dev : IfId} (hd : d ≠ dev) (own : ℕ)
    (accept : Bool) (call : TxCallPc) :
    (txCall present s dev own accept call).1.batch d = s.batch d ∧
      (txCall present s dev own accept call).1.unannounced d = s.unannounced d ∧
      (txCall present s dev own accept call).1.fresh d = s.fresh d := by
  cases call with
  | enqueue =>
    simp only [txCall]
    split_ifs <;> simp [hd]
  | compare => exact ⟨rfl, rfl, rfl⟩
  | _ => simp [txCall, NetTasksState.setBatch, NetTasksState.announce, hd]

/-- A call does not move the receive tasks. -/
lemma txCall_rx (present : IfId → Bool) (s : NetTasksState) (dev : IfId) (own : ℕ) (accept : Bool)
    (call : TxCallPc) :
    (txCall present s dev own accept call).1.rx = s.rx ∧
      (txCall present s dev own accept call).1.rxSem = s.rxSem := by
  cases call with
  | enqueue =>
    simp only [txCall]
    split_ifs <;> exact ⟨rfl, rfl⟩
  | _ => exact ⟨rfl, rfl⟩

/-- A step of a call of `virtio_net_send_frame_dev`. -/
lemma rxEffect_of_txCall {dev : IfId} {call : TxCallPc} {rest : List IfId} {accept : Bool}
    (hpc : s.rx i = .send dev call rest) :
    RxEffect i d s ((txCall present s dev 0 accept call).1.goto i
      (match (txCall present s dev 0 accept call).2 with
        | some call => .send dev call rest
        | none => .next rest)) := by
  by_cases hd : dev = d
  · subst hd
    cases call with
    | enqueue =>
      simp only [txCall]
      split_ifs
      · exact .enqueue (by simp [TxCallPc.placing])
      · exact .of_flags hpc (goto_rx ..) rfl rfl (by simp [TxCallPc.placing]) (by simp)
    | load => exact .enqueue (by simp [txCall, TxCallPc.placing])
    | store count =>
      refine .store (by simp [txCall, NetTasksState.setBatch]) (comes_of_before ?_) ?_
      · simp [txCall]
      · simp [txCall]
    | compare =>
      simp only [txCall]
      split_ifs
      · exact .start (by simp)
      · exact .of_flags hpc (goto_rx ..) rfl rfl (by simp [TxCallPc.placing]) (by simp)
    | notify =>
      exact .notify (by simp [txCall, NetTasksState.announce]) (by simp [txCall])
    | clear =>
      exact .clear (by simp [hpc]) (by simp [txCall, NetTasksState.setBatch])
        (by simp [txCall, NetTasksState.setBatch])
  · obtain ⟨hbatch, hun, -⟩ := txCall_of_ne present s (Ne.symm hd) 0 accept call
    refine .of_flags hpc (goto_rx ..) hbatch hun ?_ ?_
    · cases (txCall present s dev 0 accept call).2 <;> simp [hd]
    · cases (txCall present s dev 0 accept call).2 <;> simp

/-- The test of `virtio_net_tx_flush_dev`. -/
lemma rxEffect_of_txTest {dev : IfId} (hd : present d) (hpc : s.rx i = .txTest dev) :
    RxEffect i d s (s.goto i
      (if present dev ∧ 0 < s.batch dev then .txNotify dev else .flushed dev)) := by
  by_cases hdev : dev = d
  · subst hdev
    split_ifs with hbatch
    · exact .start (by simp [RxLoopPc.notifying])
    · -- the count is zero
      exact .quiet rfl rfl (by rw [goto_rx, flushed_placing, hpc]; rfl)
        (by rw [goto_rx, flushed_notifying, hpc]; rfl) (by rw [goto_rx, flushed_clearing, hpc]; rfl)
        fun hpos _ => absurd ⟨hd, hpos⟩ hbatch
  · split_ifs
    · refine .quiet rfl rfl (by simp [hpc, RxLoopPc.placing])
        (by simp [hpc, RxLoopPc.notifying, hdev]) (by simp [hpc, RxLoopPc.clearing])
        fun _ hcomes => hcomes.of_before (by simp) rfl ?_
      rw [hpc, goto_rx]
      exact before_txNotify hdev
    · refine .quiet rfl rfl (by rw [goto_rx, flushed_placing, hpc]; rfl)
        (by rw [goto_rx, flushed_notifying, hpc]; rfl) (by rw [goto_rx, flushed_clearing, hpc]; rfl)
        fun _ hcomes => hcomes.of_before (by simp) rfl ?_
      rw [hpc, goto_rx]
      exact before_flushed hdev

/-- The QueueNotify of `virtio_net_tx_flush_dev`. -/
lemma rxEffect_of_txNotify {dev : IfId} (hpc : s.rx i = .txNotify dev) :
    RxEffect i d s ((s.announce dev).goto i (.txClear dev)) := by
  by_cases hdev : dev = d
  · subst hdev
    exact .notify (by simp [NetTasksState.announce]) (by simp [RxLoopPc.clearing])
  · refine .quiet rfl (by simp [NetTasksState.announce, Ne.symm hdev])
      (by simp [hpc, RxLoopPc.placing]) (by simp [hpc, RxLoopPc.notifying, hdev])
      (by simp [hpc, RxLoopPc.clearing, hdev]) fun _ hcomes => hcomes.of_before (by simp) rfl ?_
    rw [hpc, goto_rx]
    exact id

/-- The end of `virtio_net_tx_flush_dev`. -/
lemma rxEffect_of_txClear {dev : IfId} (hpc : s.rx i = .txClear dev) :
    RxEffect i d s ((s.setBatch dev 0).goto i (.flushed dev)) := by
  by_cases hdev : dev = d
  · subst hdev
    exact .clear (by simp [hpc, RxLoopPc.clearing]) (by simp [NetTasksState.setBatch]) rfl
  · refine .quiet (by simp [NetTasksState.setBatch, Ne.symm hdev]) rfl
      (by rw [goto_rx, flushed_placing, hpc]; rfl) (by rw [goto_rx, flushed_notifying, hpc]; rfl)
      (by rw [goto_rx, flushed_clearing, hpc]; simp [RxLoopPc.clearing, hdev])
      fun _ hcomes => hcomes.of_before (by simp) rfl ?_
    rw [hpc, goto_rx]
    exact fun hb => before_flushed hdev (before_of_txClear hb)

/-- **What a step of a receive task does** to an initialised device.

**Proof sketch.** One case per place of the task in its loop. -/
theorem rxEffect_of_rxLoopStep {accept learn : Bool} {frames : List IfId} (hd : present d)
    (hstep : rxLoopStep present s i accept frames learn = some t) : RxEffect i d s t := by
  cases hpc : s.rx i with
  | test =>
    simp only [rxLoopStep, hpc, Option.some.injEq] at hstep
    subst hstep
    split_ifs
    · exact .of_flags hpc (goto_rx ..) rfl rfl rfl rfl
    · exact .of_flags hpc (goto_rx ..) rfl rfl rfl rfl
  | peek =>
    simp only [rxLoopStep, hpc, Option.some.injEq] at hstep
    subst hstep
    split_ifs
    · exact .of_flags hpc (goto_rx ..) rfl rfl rfl rfl
    · exact .of_flags hpc (goto_rx ..) rfl rfl rfl rfl
  | process =>
    simp only [rxLoopStep, hpc, Option.some.injEq] at hstep
    subst hstep
    exact .of_flags hpc (goto_rx ..) rfl rfl (by simp; exact ⟨rfl, rfl, rfl⟩) (by simp)
  | send dev call rest =>
    simp only [rxLoopStep, hpc, Option.some.injEq] at hstep
    subst hstep
    exact rxEffect_of_txCall hpc
  | release =>
    simp only [rxLoopStep, hpc, Option.some.injEq] at hstep
    subst hstep
    exact .of_flags hpc (goto_rx ..) rfl rfl rfl rfl
  | rxFlush =>
    simp only [rxLoopStep, hpc, Option.some.injEq] at hstep
    subst hstep
    exact .of_flags hpc (goto_rx ..) rfl rfl rfl (by simp [RxLoopPc.before])
  | txTest dev =>
    simp only [rxLoopStep, hpc, Option.some.injEq] at hstep
    subst hstep
    exact rxEffect_of_txTest hd hpc
  | txNotify dev =>
    simp only [rxLoopStep, hpc, Option.some.injEq] at hstep
    subst hstep
    exact rxEffect_of_txNotify hpc
  | txClear dev =>
    simp only [rxLoopStep, hpc, Option.some.injEq] at hstep
    subst hstep
    exact rxEffect_of_txClear hpc
  | wait =>
    simp only [rxLoopStep, hpc] at hstep
    split_ifs at hstep with htoken
    · cases hstep
      exact .of_flags hpc (goto_rx ..) rfl rfl rfl rfl
    · cases hstep
      -- the task blocks: it would not have come to the test
      refine .quiet rfl rfl (by simp [hpc, RxLoopPc.placing]) (by simp [hpc, RxLoopPc.notifying])
        (by simp [hpc, RxLoopPc.clearing]) fun _ hcomes => ?_
      rcases hcomes.2 with hbefore | hsem
      · rw [hpc] at hbefore
        cases hbefore
      · exact absurd hsem htoken
  | pending =>
    simp only [rxLoopStep, hpc] at hstep
    cases hstep

/-- **What a step of a receive task leaves alone.** -/
theorem rxFrame_of_rxLoopStep {accept learn : Bool} {frames : List IfId}
    (hstep : rxLoopStep present s i accept frames learn = some t) : RxFrame i s t := by
  have hgoto : ∀ (u : NetTasksState) pc, u.rx = s.rx → (∀ j, j ≠ i → u.rxSem j = s.rxSem j) →
      u.loopB = s.loopB → (∀ d, u.fresh d ≤ s.fresh d) → RxFrame i s (u.goto i pc) := by
    intro u pc hrx hsem hloop hfresh
    exact ⟨fun j hj => by rw [goto_rx_of_ne u hj, hrx], hsem, hloop, hfresh⟩
  have hannounce : ∀ dev d, (s.announce dev).fresh d ≤ s.fresh d := by
    intro dev d
    by_cases h : d = dev
    · subst h
      simp [NetTasksState.announce]
    · simp [NetTasksState.announce, h]
  cases hpc : s.rx i with
  | send dev call rest =>
    simp only [rxLoopStep, hpc, Option.some.injEq] at hstep
    subst hstep
    cases call with
    | enqueue =>
      simp only [txCall]
      split_ifs
      · exact hgoto _ _ rfl (fun _ _ => rfl) rfl fun d => by simp
      · exact hgoto _ _ rfl (fun _ _ => rfl) rfl fun _ => le_rfl
    | notify => exact hgoto _ _ rfl (fun _ _ => rfl) rfl (hannounce dev)
    | _ => exact hgoto _ _ rfl (fun _ _ => rfl) rfl fun _ => le_rfl
  | txNotify dev =>
    simp only [rxLoopStep, hpc, Option.some.injEq] at hstep
    subst hstep
    exact hgoto _ _ rfl (fun _ _ => rfl) rfl (hannounce dev)
  | wait =>
    simp only [rxLoopStep, hpc] at hstep
    split_ifs at hstep
    · cases hstep
      exact hgoto _ _ rfl (fun j hj => Function.update_of_ne hj _ _) rfl fun _ => le_rfl
    · cases hstep
      exact hgoto _ _ rfl (fun _ _ => rfl) rfl fun _ => le_rfl
  | pending =>
    simp only [rxLoopStep, hpc] at hstep
    cases hstep
  | _ =>
    simp only [rxLoopStep, hpc, Option.some.injEq] at hstep
    subst hstep
    exact hgoto _ _ rfl (fun _ _ => rfl) rfl fun _ => le_rfl

end Effect

/-! ## The invariant -/

/-- Task B is in a call for the device, and has made its frame available. -/
def LoopBPc.counting (d : IfId) : LoopBPc → Bool
  | .send dev .load _ | .send dev (.store _) _ | .send dev .compare _ | .send dev .notify _ =>
    dev = d
  | _ => false

/-- Task B is about to count a frame of the device. -/
def LoopBPc.placing (d : IfId) : LoopBPc → Bool
  | .send dev call _ => dev = d && call.placing
  | _ => false

/-- Task B is about to clear the count of the device. -/
def LoopBPc.clearing (d : IfId) : LoopBPc → Bool
  | .send dev call _ => dev = d && call = .clear
  | _ => false

/-- A receive task will come to clear the count of the device. -/
def NetTasksState.Clears (s : NetTasksState) (d : IfId) : Prop :=
  ∃ i, s.Comes i d ∨ (s.rx i).notifying d ∨ (s.rx i).clearing d

/-- **The invariant**, for one device. What is unannounced is covered, unless Task B has sent some
of it since it woke up; and a count that is not zero will be cleared, unless Task B has counted
last or is about to clear it. -/
structure AnnounceInv (present : IfId → Bool) (d : IfId) (s : NetTasksState) : Prop where
  covered : present d → 0 < s.unannounced d → 0 < s.fresh d ∨ Covered s d
  clears : present d → 0 < s.batch d → 0 < s.fresh d ∨ s.loopB.clearing d ∨ s.Clears d
  fresh : 0 < s.fresh d → s.loopB.asleep = false ∧ (0 < s.batch d ∨ s.loopB.placing d)
  counting : s.loopB.counting d → 0 < s.fresh d
  cleared : s.loopB.clearing d → s.unannounced d = 0 ∧ s.fresh d = 0

section Invariant

variable {present : IfId → Bool} {s t : NetTasksState} {i d : IfId}

/-- The task that runs finds the tasks that go before it blocked. -/
lemma Running.above (h : Running s i) {j : IfId} (hj : j.Above i) : s.rx j = .pending := by
  obtain ⟨rfl, rfl⟩ := hj
  exact h.2.1

/-- While a receive task runs, Task B is in `OSTimeDly`. -/
lemma Running.asleep (h : Running s i) : s.loopB.asleep = true := by
  cases i
  · exact h.1
  · exact h.1

/-- The other task goes before the one that runs, or after it. -/
lemma above_or_above {j : IfId} (h : j ≠ i) : j.Above i ∨ i.Above j := by
  revert h
  cases i <;> cases j <;> decide

/-- While a task is about to count, to notify or to clear, it will come to clear the count. -/
lemma comes_of_placing (h : (s.rx i).placing d) : s.Comes i d := by
  apply comes_of_before
  revert h
  cases s.rx i <;> simp [RxLoopPc.placing, RxLoopPc.before]

/-- A task is at one place only. -/
lemma not_of_clearing {pc : RxLoopPc} (h : pc.clearing d) :
    pc.placing d = false ∧ pc.notifying d = false := by
  revert h
  cases pc with
  | send dev call rest =>
    cases call <;> simp [RxLoopPc.placing, RxLoopPc.notifying, RxLoopPc.clearing, TxCallPc.placing]
  | _ => simp [RxLoopPc.placing, RxLoopPc.notifying, RxLoopPc.clearing]

/-- What another task does does not change whether a task comes to the test. -/
lemma RxFrame.comes_iff (h : RxFrame i s t) {j : IfId} (hj : j ≠ i) :
    t.Comes j d ↔ s.Comes j d := by
  rw [NetTasksState.Comes, h.rx j hj, h.rxSem j hj, NetTasksState.Comes]

/-- A step of a receive task keeps what is queued covered.

**Proof sketch.** One case per effect of the step on the device. A step that queues or counts a
frame covers it; when the task clears the count, what is queued is covered by another task, and
still is. -/
lemma Covered.step (hrun : Running s i) (hf : RxFrame i s t) (he : RxEffect i d s t)
    (hs : 0 < s.unannounced d → Covered s d) (ht : 0 < t.unannounced d) : Covered t d := by
  have hpending : ∀ j, j.Above i → (t.rx j).clearing d = false := by
    intro j hj
    have hne : j ≠ i := by
      rintro rfl
      exact absurd (hj.1.symm.trans hj.2) (by decide)
    rw [hf.rx j hne, hrun.above hj]
    rfl
  cases he with
  | quiet hbatch hun hplacing hnotifying hclearing hcomes =>
    rw [hun] at ht
    have hclear : ∀ j, (t.rx j).clearing d = (s.rx j).clearing d := by
      intro j
      by_cases hj : j = i
      · rw [hj, hclearing]
      · rw [hf.rx j hj]
    rcases hs ht with ⟨j, hj⟩ | ⟨hpos, j, hj, hjc, habove⟩
    · refine .inl ⟨j, ?_⟩
      by_cases hji : j = i
      · subst hji
        rw [hplacing, hnotifying]
        exact hj
      · rw [hf.rx j hji]
        exact hj
    · refine .inr ⟨by rw [hbatch]; exact hpos, j, ?_, by rw [hclear]; exact hjc,
        fun k hk => by rw [hclear]; exact habove k hk⟩
      by_cases hji : j = i
      · subst hji
        exact hcomes hpos hj
      · exact (hf.comes_iff hji).mpr hj
  | enqueue hplacing => exact .inl ⟨i, .inl hplacing⟩
  | store hbatch hcomes hclearing => exact .inr ⟨hbatch, i, hcomes, hclearing, hpending⟩
  | start hnotifying => exact .inl ⟨i, .inr hnotifying⟩
  | notify hun hclearing => omega
  | clear hclearing hbatch hun =>
    -- only another task can cover what is queued, and only by what it is about to do
    rw [hun] at ht
    obtain ⟨hnp, hnn⟩ := not_of_clearing hclearing
    rcases hs ht with ⟨j, hj⟩ | ⟨hpos, j, hj, hjc, habove⟩
    · have hji : j ≠ i := by
        rintro rfl
        simp [hnp, hnn] at hj
      exact .inl ⟨j, by rw [hf.rx j hji]; exact hj⟩
    · by_cases hji : j = i
      · subst hji
        rw [hclearing] at hjc
        cases hjc
      · rcases above_or_above hji with hab | hab
        · exact absurd (hrun.above hab) hj.1
        · have hfalse := habove i hab
          rw [hclearing] at hfalse
          cases hfalse

/-- A step of a receive task keeps the promise to clear the count. -/
lemma clears_step (hf : RxFrame i s t) (he : RxEffect i d s t)
    (hs : 0 < s.batch d → s.Clears d) (ht : 0 < t.batch d) : t.Clears d := by
  cases he with
  | quiet hbatch hun hplacing hnotifying hclearing hcomes =>
    rw [hbatch] at ht
    obtain ⟨j, hj⟩ := hs ht
    refine ⟨j, ?_⟩
    by_cases hji : j = i
    · subst hji
      rw [hnotifying, hclearing]
      exact hj.imp_left (hcomes ht)
    · rw [hf.comes_iff hji, hf.rx j hji]
      exact hj
  | enqueue hplacing => exact ⟨i, .inl (comes_of_placing hplacing)⟩
  | store hbatch hcomes hclearing => exact ⟨i, .inl hcomes⟩
  | start hnotifying => exact ⟨i, .inr (.inl hnotifying)⟩
  | notify hun hclearing => exact ⟨i, .inr (.inr hclearing)⟩
  | clear hclearing hbatch hun => omega

/-- While Task B sleeps, none of its frames is fresh. -/
lemma AnnounceInv.fresh_eq_zero (h : AnnounceInv present d s) (hs : s.loopB.asleep = true) :
    s.fresh d = 0 := by
  by_contra hne
  have hawake := (h.fresh (Nat.pos_of_ne_zero hne)).1
  rw [hs] at hawake
  cases hawake

/-- A sleeping task is in no call. -/
lemma not_of_asleep {pc : LoopBPc} (h : pc.asleep = true) :
    pc.clearing d = false ∧ pc.counting d = false ∧ pc.placing d = false := by
  revert h
  cases pc <;> simp [LoopBPc.asleep, LoopBPc.clearing, LoopBPc.counting, LoopBPc.placing]

/-- A step of a receive task. -/
lemma AnnounceInv.rxTask (h : AnnounceInv present d s) (hrun : Running s i) {accept learn : Bool}
    {frames : List IfId} (hstep : rxLoopStep present s i accept frames learn = some t) :
    AnnounceInv present d t := by
  have hf := rxFrame_of_rxLoopStep hstep
  have hzero := h.fresh_eq_zero hrun.asleep
  have hzero' : t.fresh d = 0 := by
    have hle := hf.fresh d
    omega
  obtain ⟨hclearing, hcounting, -⟩ := not_of_asleep (d := d) hrun.asleep
  constructor
  · intro hd ht
    refine .inr (Covered.step hrun hf (rxEffect_of_rxLoopStep hd hstep) (fun hpos => ?_) ht)
    exact (h.covered hd hpos).resolve_left (by omega)
  · intro hd ht
    refine .inr (.inr (clears_step hf (rxEffect_of_rxLoopStep hd hstep) (fun hpos => ?_) ht))
    refine ((h.clears hd hpos).resolve_left (by omega)).resolve_left ?_
    simp [hclearing]
  · intro hpos
    omega
  · intro hc
    rw [hf.loopB, hcounting] at hc
    cases hc
  · intro hc
    rw [hf.loopB, hclearing] at hc
    cases hc

/-! ### Steps of Task B -/

/-- Before its next frame Task B is about to count none. -/
@[simp] lemma nextB_placing (frames : List IfId) : (LoopBPc.next frames).placing d = false := by
  cases frames <;> simp [LoopBPc.next, LoopBPc.placing, TxCallPc.placing]

/-- Before its next frame Task B has made none available. -/
@[simp] lemma nextB_counting (frames : List IfId) : (LoopBPc.next frames).counting d = false := by
  cases frames <;> simp [LoopBPc.next, LoopBPc.counting]

/-- Before its next frame Task B is not about to clear a count. -/
@[simp] lemma nextB_clearing (frames : List IfId) : (LoopBPc.next frames).clearing d = false := by
  cases frames <;> simp [LoopBPc.next, LoopBPc.clearing]

/-- Before its next frame Task B is not in `OSTimeDly`. -/
@[simp] lemma nextB_asleep (frames : List IfId) : (LoopBPc.next frames).asleep = false := by
  cases frames <;> rfl

/-- What is covered will be announced as long as the receive tasks stay where they are. -/
lemma Covered.of_eq (h : Covered s d) (hrx : t.rx = s.rx) (hsem : t.rxSem = s.rxSem)
    (hbatch : 0 < s.batch d → 0 < t.batch d) : Covered t d := by
  unfold Covered NetTasksState.Comes at *
  rw [hrx, hsem]
  exact h.imp_right fun h' => ⟨hbatch h'.1, h'.2⟩

/-- The property depends on the receive tasks and their semaphores only. -/
lemma NetTasksState.Clears.of_eq (h : s.Clears d) (hrx : t.rx = s.rx) (hsem : t.rxSem = s.rxSem) :
    t.Clears d := by
  unfold NetTasksState.Clears NetTasksState.Comes at *
  rw [hrx, hsem]
  exact h

/-- The task that announces what is queued also clears the count. -/
lemma Covered.clears (h : Covered s d) : s.Clears d := by
  rcases h with ⟨j, hplacing | hnotifying⟩ | ⟨-, j, hcomes, -⟩
  · exact ⟨j, .inl (comes_of_placing hplacing)⟩
  · exact ⟨j, .inr (.inl hnotifying)⟩
  · exact ⟨j, .inl hcomes⟩

/-- A step of Task B that does nothing to the device. -/
lemma AnnounceInv.of_quiet (h : AnnounceInv present d s) (hrx : t.rx = s.rx)
    (hsem : t.rxSem = s.rxSem) (hbatch : t.batch d = s.batch d)
    (hun : t.unannounced d = s.unannounced d) (hfresh : t.fresh d = s.fresh d)
    (hasleep : t.loopB.asleep = false) (hplacing : t.loopB.placing d = s.loopB.placing d)
    (hcounting : t.loopB.counting d → s.loopB.counting d)
    (hclearing : t.loopB.clearing d = s.loopB.clearing d) : AnnounceInv present d t := by
  constructor
  · rw [hun, hfresh]
    intro hd hpos
    exact (h.covered hd hpos).imp_right fun hc => hc.of_eq hrx hsem (by rw [hbatch]; exact id)
  · rw [hbatch, hfresh, hclearing]
    intro hd hpos
    exact (h.clears hd hpos).imp_right fun hc => hc.imp_right fun hc => hc.of_eq hrx hsem
  · rw [hfresh, hbatch, hplacing]
    exact fun hpos => ⟨hasleep, (h.fresh hpos).2⟩
  · rw [hfresh]
    exact fun hc => h.counting (hcounting hc)
  · rw [hclearing, hun, hfresh]
    exact h.cleared

/-- In a call to send, Task B is about to count a frame of the device of the call, if the call
is. -/
@[simp] lemma sendB_placing (dev : IfId) (call : TxCallPc) (rest : List IfId) :
    (LoopBPc.send dev call rest).placing d = (decide (dev = d) && call.placing) := rfl

/-- In a call to send, Task B is about to clear the count of the device of the call, if the call
is. -/
@[simp] lemma sendB_clearing (dev : IfId) (call : TxCallPc) (rest : List IfId) :
    (LoopBPc.send dev call rest).clearing d = (decide (dev = d) && decide (call = .clear)) := rfl

/-- A step of a call of Task B for another device. -/
lemma AnnounceInv.sendB_of_ne (h : AnnounceInv present d s) {dev : IfId} {call : TxCallPc}
    {rest : List IfId} {accept : Bool} (hpc : s.loopB = .send dev call rest) (hd : d ≠ dev) :
    AnnounceInv present d { (txCall present s dev 1 accept call).1 with
      loopB := match (txCall present s dev 1 accept call).2 with
        | some call => .send dev call rest
        | none => .next rest } := by
  obtain ⟨hrx, hsem⟩ := txCall_rx present s dev 1 accept call
  obtain ⟨hbatch, hun, hfresh⟩ := txCall_of_ne present s hd 1 accept call
  have hcounting : ∀ call', (LoopBPc.send dev call' rest).counting d = false := by
    intro call'
    cases call' <;> simp [LoopBPc.counting, Ne.symm hd]
  refine h.of_quiet hrx hsem hbatch hun hfresh ?_ ?_ ?_ ?_
  · cases (txCall present s dev 1 accept call).2
    · exact nextB_asleep rest
    · rfl
  · cases (txCall present s dev 1 accept call).2 <;> simp [hpc, Ne.symm hd]
  · cases (txCall present s dev 1 accept call).2 <;> simp [hcounting]
  · cases (txCall present s dev 1 accept call).2 <;> simp [hpc, Ne.symm hd]

/-- A state in which Task B has counted last, or is about to count. -/
lemma AnnounceInv.of_fresh (hfresh : 0 < s.fresh d) (hasleep : s.loopB.asleep = false)
    (hbatch : 0 < s.batch d ∨ s.loopB.placing d) (hclearing : s.loopB.clearing d = false) :
    AnnounceInv present d s where
  covered := fun _ _ => .inl hfresh
  clears := fun _ _ => .inl hfresh
  fresh := fun _ => ⟨hasleep, hbatch⟩
  counting := fun _ => hfresh
  cleared := fun hc => by simp [hclearing] at hc

/-- A state in which all frames have been announced. -/
lemma AnnounceInv.of_announced (hun : s.unannounced d = 0) (hfresh : s.fresh d = 0)
    (hcounting : s.loopB.counting d = false) (hclear : s.batch d = 0 ∨ s.loopB.clearing d) :
    AnnounceInv present d s where
  covered := fun _ hpos => by omega
  clears := fun _ hpos => .inr (.inl (hclear.resolve_left (by omega)))
  fresh := fun hpos => by omega
  counting := fun hc => by simp [hcounting] at hc
  cleared := fun _ => ⟨hun, hfresh⟩

/-- A step of a call of Task B for the device. -/
lemma AnnounceInv.sendB (h : AnnounceInv present d s) {call : TxCallPc} {rest : List IfId}
    {accept : Bool} (hpc : s.loopB = .send d call rest) :
    AnnounceInv present d { (txCall present s d 1 accept call).1 with
      loopB := match (txCall present s d 1 accept call).2 with
        | some call => .send d call rest
        | none => .next rest } := by
  have hcounting := h.counting
  rw [hpc] at hcounting
  cases call with
  | enqueue =>
    simp only [txCall]
    split_ifs
    · exact .of_fresh (by simp) rfl (.inr (by simp [TxCallPc.placing])) (by simp)
    · refine h.of_quiet rfl rfl rfl rfl rfl ?_ ?_ ?_ ?_ <;> simp [hpc, TxCallPc.placing]
  | load =>
    exact .of_fresh (hcounting (by simp [LoopBPc.counting])) rfl
      (.inr (by simp [txCall, TxCallPc.placing])) (by simp [txCall])
  | store count =>
    exact .of_fresh (hcounting (by simp [LoopBPc.counting])) rfl
      (.inl (by simp [txCall, NetTasksState.setBatch])) (by simp [txCall])
  | compare =>
    have hfresh := hcounting (by simp [LoopBPc.counting])
    have hpos : 0 < s.batch d := by simpa [hpc, TxCallPc.placing] using (h.fresh hfresh).2
    simp only [txCall]
    split_ifs
    · exact .of_fresh hfresh rfl (.inl hpos) (by simp)
    · exact .of_fresh hfresh (by simp) (.inl hpos) (by simp)
  | notify =>
    exact .of_announced (by simp [txCall, NetTasksState.announce])
      (by simp [txCall, NetTasksState.announce]) rfl (.inr (by simp [txCall]))
  | clear =>
    obtain ⟨hun, hfresh⟩ := h.cleared (by simp [hpc])
    exact .of_announced hun hfresh (by simp [txCall])
      (.inl (by simp [txCall, NetTasksState.setBatch]))

/-- A step of Task B. -/
lemma AnnounceInv.taskB (h : AnnounceInv present d s) {accept : Bool}
    (hc : FreshCovered s (.taskB accept)) (hstep : taskBStep present s accept = some t) :
    AnnounceInv present d t := by
  cases hpc : s.loopB with
  | iterate =>
    simp only [taskBStep, hpc, Option.some.injEq] at hstep
    subst hstep
    refine h.of_quiet rfl rfl rfl rfl rfl (nextB_asleep _) ?_ ?_ ?_
    · exact (nextB_placing _).trans (by rw [hpc]; rfl)
    · exact fun hc => by simp [loopBIterate] at hc
    · exact (nextB_clearing _).trans (by rw [hpc]; rfl)
  | send dev call rest =>
    simp only [taskBStep, hpc, Option.some.injEq] at hstep
    subst hstep
    by_cases hd : d = dev
    · subst hd
      exact h.sendB hpc
    · exact h.sendB_of_ne hpc hd
  | sleep =>
    simp only [taskBStep, hpc, Option.some.injEq] at hstep
    subst hstep
    constructor
    · intro hd hpos
      refine .inr (Covered.of_eq ?_ rfl rfl id)
      exact (h.covered hd hpos).elim (hc hpc d) id
    · intro hd hpos
      refine .inr (.inr (NetTasksState.Clears.of_eq ?_ rfl rfl))
      rcases h.clears hd hpos with hfresh | hclearing | hclears
      · exact (hc hpc d hfresh).clears
      · rw [hpc] at hclearing
        cases hclearing
      · exact hclears
    · intro hpos
      simp at hpos
    · nofun
    · nofun
  | delayed ticks =>
    simp only [taskBStep, hpc] at hstep
    cases hstep

/-! ### Ticks and interrupts -/

/-- A tick. -/
lemma AnnounceInv.tick (h : AnnounceInv present d s) :
    AnnounceInv present d { s with time := s.time + 1, loopB := s.loopB.tick } := by
  cases hpc : s.loopB with
  | delayed ticks =>
    have hzero := h.fresh_eq_zero (by rw [hpc]; rfl)
    have htick : (LoopBPc.delayed ticks).tick.counting d = false ∧
        (LoopBPc.delayed ticks).tick.clearing d = false := by
      rcases ticks with - | - | k <;> exact ⟨rfl, rfl⟩
    constructor
    · intro hd hpos
      exact (h.covered hd hpos).imp_right fun hc => hc.of_eq rfl rfl id
    · intro hd hpos
      refine (h.clears hd hpos).imp_right fun hc => .inr ?_
      refine (hc.resolve_left ?_).of_eq rfl rfl
      rw [hpc]
      nofun
    · intro hpos
      exact absurd hzero (Nat.ne_of_gt hpos)
    · intro hc
      rw [htick.1] at hc
      cases hc
    · intro hc
      rw [htick.2] at hc
      cases hc
  | _ =>
    refine h.of_quiet rfl rfl rfl rfl rfl ?_ ?_ ?_ ?_ <;> simp [hpc, LoopBPc.tick, LoopBPc.asleep]

/-- What an interrupt does to the tasks: it may ready one that is blocked, or post its semaphore. -/
structure Readied (s t : NetTasksState) : Prop where
  rx : ∀ j, t.rx j = s.rx j ∨ s.rx j = .pending ∧ t.rx j = .test
  rxSem : ∀ j, 0 < s.rxSem j → 0 < t.rxSem j
  batch : t.batch = s.batch
  unannounced : t.unannounced = s.unannounced
  fresh : t.fresh = s.fresh
  loopB : t.loopB = s.loopB

/-- A receive interrupt readies tasks, and does nothing else to them. -/
lemma rxInterruptStep_readied (s : NetTasksState) (dev : IfId) (lens : List ℕ) :
    Readied s (rxInterruptStep s dev lens) := by
  simp only [rxInterruptStep]
  split_ifs with hlens hpending
  · exact ⟨fun j => .inl rfl, fun j => id, rfl, rfl, rfl, rfl⟩
  · refine ⟨fun j => ?_, fun j => id, rfl, rfl, rfl, rfl⟩
    by_cases hj : j = dev
    · subst hj
      exact .inr ⟨hpending, by simp⟩
    · exact .inl (by rw [goto_rx_of_ne _ hj])
  · refine ⟨fun j => .inl rfl, fun j hpos => ?_, rfl, rfl, rfl, rfl⟩
    by_cases hj : j = dev
    · subst hj
      simp only [Function.update_self]
      omega
    · simpa only [Function.update_of_ne hj] using hpos

/-- An interrupt does not change what a task is about to count. -/
lemma Readied.placing (h : Readied s t) (j : IfId) : (t.rx j).placing d = (s.rx j).placing d := by
  rcases h.rx j with hj | ⟨hj, hj'⟩
  · rw [hj]
  · rw [hj, hj']
    rfl

/-- An interrupt does not change which QueueNotify a task is about to write. -/
lemma Readied.notifying (h : Readied s t) (j : IfId) :
    (t.rx j).notifying d = (s.rx j).notifying d := by
  rcases h.rx j with hj | ⟨hj, hj'⟩
  · rw [hj]
  · rw [hj, hj']
    rfl

/-- An interrupt does not change which count a task is about to clear. -/
lemma Readied.clearing (h : Readied s t) (j : IfId) :
    (t.rx j).clearing d = (s.rx j).clearing d := by
  rcases h.rx j with hj | ⟨hj, hj'⟩
  · rw [hj]
  · rw [hj, hj']
    rfl

/-- A receive task that will test a count still does after an interrupt. -/
lemma Readied.comes (h : Readied s t) {j : IfId} (hc : s.Comes j d) : t.Comes j d := by
  obtain ⟨hne, hcomes⟩ := hc
  have hj := (h.rx j).resolve_right fun hj => hne hj.1
  refine ⟨by rw [hj]; exact hne, ?_⟩
  rw [hj]
  exact hcomes.imp_right (h.rxSem j)

/-- A receive interrupt. -/
lemma AnnounceInv.interrupt (h : AnnounceInv present d s) (hr : Readied s t) :
    AnnounceInv present d t := by
  constructor
  · rw [hr.unannounced, hr.fresh]
    intro hd hpos
    refine (h.covered hd hpos).imp_right fun hc => ?_
    unfold Covered
    simp only [hr.placing, hr.notifying, hr.clearing, hr.batch]
    refine hc.imp_right fun hc => ⟨hc.1, ?_⟩
    obtain ⟨j, hcomes, hrest⟩ := hc.2
    exact ⟨j, hr.comes hcomes, hrest⟩
  · rw [hr.batch, hr.fresh, hr.loopB]
    intro hd hpos
    refine (h.clears hd hpos).imp_right fun hc => hc.imp_right fun ⟨j, hj⟩ => ⟨j, ?_⟩
    rw [hr.notifying, hr.clearing]
    exact hj.imp_left hr.comes
  · rw [hr.fresh, hr.batch, hr.loopB]
    exact h.fresh
  · rw [hr.fresh, hr.loopB]
    exact h.counting
  · rw [hr.unannounced, hr.fresh, hr.loopB]
    exact h.cleared

end Invariant

/-! ## Runs -/

section Runs

variable {present : IfId → Bool} {s t : NetTasksState}

/-- **One step keeps the invariant** if what Task B leaves behind as it goes to sleep is covered. -/
theorem AnnounceInv.step {d : IfId} {a : NetTasksAction} (h : AnnounceInv present d s)
    (hc : FreshCovered s a) (hstep : netTasksStep present s a = some t) :
    AnnounceInv present d t := by
  cases a with
  | tick =>
    simp only [netTasksStep, Option.some.injEq] at hstep
    subst hstep
    exact h.tick
  | interrupt dev lens =>
    simp only [netTasksStep, Option.ite_none_right_eq_some, Option.some.injEq] at hstep
    obtain ⟨-, rfl⟩ := hstep
    exact h.interrupt (rxInterruptStep_readied s dev lens)
  | taskB accept => exact h.taskB hc hstep
  | rxTask i accept frames learn =>
    simp only [netTasksStep, Option.ite_none_right_eq_some] at hstep
    exact h.rxTask hstep.1 hstep.2

/-- The invariant holds when the loops start. -/
lemma announceInv_netTasksInit (sent : IfId → Bool) (time : UInt32) (d : IfId) :
    AnnounceInv present d (netTasksInit present sent time) := by
  constructor
  · exact fun _ hpos => .inl hpos
  · exact fun _ hpos => .inl hpos
  · exact fun hpos => ⟨rfl, .inl hpos⟩
  · nofun
  · nofun

/-- When all tasks are blocked, what is covered is nothing. -/
lemma AnnounceInv.announced (h : ∀ d, AnnounceInv present d s) (hidle : Idle s) :
    Announced present s := by
  obtain ⟨hasleep, hlan, hwan⟩ := hidle
  have hpending : ∀ i, s.rx i = .pending := by
    intro i
    cases i
    · exact hlan
    · exact hwan
  have hclears : ∀ d, ¬ s.Clears d := by
    rintro d ⟨i, hcomes | hnotifying | hclearing⟩
    · exact hcomes.1 (hpending i)
    · rw [hpending i] at hnotifying
      cases hnotifying
    · rw [hpending i] at hclearing
      cases hclearing
  intro d hd
  have hzero := (h d).fresh_eq_zero hasleep
  constructor
  · by_contra hne
    rcases (h d).clears hd (Nat.pos_of_ne_zero hne) with hfresh | hclearing | hclear
    · omega
    · rw [(not_of_asleep hasleep).1] at hclearing
      cases hclearing
    · exact hclears d hclear
  · by_contra hne
    rcases (h d).covered hd (Nat.pos_of_ne_zero hne) with hfresh | hcovered
    · omega
    · exact hclears d hcovered.clears

/-- **Nothing is left unannounced.** In every run in which the frames of Task B are covered
whenever it goes to sleep, all accepted frames have been announced, and `tx_batch_count` is zero,
in every state in which all tasks are blocked. -/
theorem announced_of_stepsMeet (present sent : IfId → Bool) (time : UInt32)
    {as : List NetTasksAction}
    (hmeets : StepsMeet (netTasksStep present) FreshCovered (netTasksInit present sent time) as)
    (h : exec (netTasksStep present) (netTasksInit present sent time) as = some s)
    (hidle : Idle s) :
    Announced present s := by
  refine AnnounceInv.announced (fun d => ?_) hidle
  exact exec_invariant_of_stepsMeet (I := AnnounceInv present d)
    (fun _ _ _ hs hc hstep => hs.step hc hstep) (announceInv_netTasksInit sent time d) hmeets h

end Runs

/-! ## An ARP request that is not announced -/

/-- Both devices are there. -/
def bothPresent : IfId → Bool := fun _ => true

/-- The start: Task B goes to sleep, and the receive tasks flush the first ARP requests and
block. -/
def startRun : List NetTasksAction :=
  List.replicate 2 (.taskB true) ++ List.replicate 9 (.rxTask .lan true [] false) ++
    List.replicate 5 (.rxTask .wan true [] false)

/-- The receive tasks are there to announce the first ARP requests. -/
theorem announced_startRun :
    ∃ s, exec (netTasksStep bothPresent) (netTasksInit bothPresent bothPresent 0) startRun =
      some s ∧
      Announced bothPresent s := by
  have hidle : (exec (netTasksStep bothPresent) (netTasksInit bothPresent bothPresent 0)
      startRun).map (fun s => decide (Idle s)) = some true := by decide
  obtain ⟨s, hs, hval⟩ := Option.map_eq_some_iff.mp hidle
  exact ⟨s, hs, announced_of_stepsMeet bothPresent bothPresent 0 (stepsMeet_of_meets (by decide)) hs
    (of_decide_eq_true hval)⟩

/-- Task B sleeps, and finds nothing to do. -/
def quietRound : List NetTasksAction := List.replicate 10 .tick ++ List.replicate 2 (.taskB true)

/-- A second passes without a frame, and Task B sends its next ARP requests. -/
def arpRun : List NetTasksAction :=
  startRun ++ (List.replicate 99 quietRound).flatten ++ List.replicate 10 .tick ++
    List.replicate 10 (.taskB true)

/-- **An ARP request is left unannounced.** All tasks are blocked, and the frame is still
counted. -/
theorem arpRun_not_announced :
    ∃ s, exec (netTasksStep bothPresent) (netTasksInit bothPresent bothPresent 0) arpRun = some s ∧
      Idle s ∧ ¬ Announced bothPresent s := by
  have hval : (exec (netTasksStep bothPresent) (netTasksInit bothPresent bothPresent 0)
      arpRun).map (fun s => (decide (Idle s), s.batch .lan)) = some (true, 1) := by
    decide +kernel
  obtain ⟨s, hs, hval⟩ := Option.map_eq_some_iff.mp hval
  obtain ⟨hidle, hbatch⟩ := Prod.mk.inj hval
  refine ⟨s, hs, of_decide_eq_true hidle, fun hann => ?_⟩
  have hzero := (hann .lan rfl).1
  omega

end Gateway
