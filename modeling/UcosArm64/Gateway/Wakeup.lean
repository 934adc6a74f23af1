import UcosArm64.Gateway.RxTask
import UcosArm64.Kernel.SemWaiter

set_option relaxedAutoImplicit false
set_option autoImplicit false

/-!
# No lost wakeup

The handler posts `rx_sem` once for all the completions that it has queued, and `net_rx_task`
empties the completion queue before it pends. So a token is at the semaphore, or on its way to the
task, whenever the queue fills after the task has found it empty, and the task does not wait while
there is something to do.

## Main definitions

* `Gateway.LongQueue` — every completion is longer than the header and names a descriptor.
* `Gateway.WakeInv` — the invariant.
* `Gateway.Blocked` — the task waits in `OSSemPend`.

## Main results

* `Gateway.WakeInv.step` — every step keeps the invariant.
* `Gateway.no_lost_wakeup` — while the task waits, the completion queue is empty.
-/

namespace Gateway

open Kernel Transition

/-! ## The completion queue -/

/-- The completions in the queue are longer than the header and name descriptors, and so do the used
elements that the driver has not seen, with the one that the device is about to publish. -/
structure LongQueue (n : ℕ) (rx : Driver.RxState) : Prop where
  head : rx.head % n = rx.head
  tail : rx.tail = (rx.head + rx.count) % n
  count : rx.count ≤ n
  entries : ∀ e ∈ Ring.window n rx.completions rx.head rx.count,
    e.descId.toNat < n ∧ Driver.virtioNetHdrSize < e.totalLen.toNat
  used : ∀ k < Ring.span rx.rxLastUsed rx.usedIdx, Driver.virtioNetHdrSize <
    (rx.usedRing ((rx.rxLastUsed + UInt16.ofNat k).toNat % n)).len.toNat
  written : ∀ id, rx.device = .written id →
    Driver.virtioNetHdrSize < (rx.usedRing (rx.usedIdx.toNat % n)).len.toNat

section Queue

variable {n : ℕ} {rx : Driver.RxState}

/-- The used elements after the next one. -/
lemma LongQueue.used_succ (h : LongQueue n rx) (hne : rx.rxLastUsed ≠ rx.usedIdx) :
    ∀ k < Ring.span (rx.rxLastUsed + 1) rx.usedIdx, Driver.virtioNetHdrSize <
      (rx.usedRing ((rx.rxLastUsed + 1 + UInt16.ofNat k).toNat % n)).len.toNat := by
  intro k hk
  rw [Ring.span_succ_left hne] at hk
  have hnext := h.used (k + 1) (by omega)
  rwa [Ring.ofNat_succ, add_comm (UInt16.ofNat k), ← add_assoc] at hnext

/-- One iteration of the loop of the handler. It queues a completion exactly when it sets the
flag. -/
lemma LongQueue.element (h : LongQueue n rx) (hne : rx.rxLastUsed ≠ rx.usedIdx)
    (flags : Driver.ScanFlags) :
    LongQueue n { rx with toRxQueue := (Driver.handleRxElement n rx.toRxQueue flags).1 } ∧
      rx.count ≤ (Driver.handleRxElement n rx.toRxQueue flags).1.count ∧
      ((Driver.handleRxElement n rx.toRxQueue flags).2.enqueued = false →
        flags.enqueued = false ∧ (Driver.handleRxElement n rx.toRxQueue flags).1.count =
          rx.count) := by
  have hused := h.used_succ hne
  have hspan : Ring.span rx.rxLastUsed rx.usedIdx ≠ 0 := fun hz =>
    hne ((Ring.span_eq_zero_iff _ _).mp hz)
  have hlong := h.used 0 (Nat.pos_of_ne_zero hspan)
  rw [show rx.rxLastUsed + UInt16.ofNat 0 = rx.rxLastUsed by simp] at hlong
  unfold Driver.handleRxElement
  simp only
  split_ifs with hid hfull
  · exact ⟨⟨h.head, h.tail, h.count, h.entries, hused, h.written⟩, le_rfl, fun hf => ⟨hf, rfl⟩⟩
  · exact ⟨⟨h.head, h.tail, h.count, h.entries, hused, h.written⟩, le_rfl, fun hf => ⟨hf, rfl⟩⟩
  · refine ⟨⟨h.head, ?_, by simp only; omega, ?_, hused, h.written⟩, Nat.le_succ _,
      fun hf => by cases hf⟩
    · simp only
      rw [h.tail, Nat.mod_add_mod, Nat.add_assoc]
    · intro e he
      simp only [h.tail] at he
      rw [Ring.window_push _ (by omega)] at he
      rcases List.mem_append.mp he with he | he
      · exact h.entries e he
      · rw [List.mem_singleton.mp he]
        exact ⟨not_le.mp hid, hlong⟩

/-- The loop of the handler. -/
lemma LongQueue.scan (k : ℕ) (h : LongQueue n rx) (hk : Ring.span rx.rxLastUsed rx.usedIdx = k)
    (flags : Driver.ScanFlags) :
    LongQueue n { rx with toRxQueue := (Driver.scanUsed n k rx.toRxQueue flags).1 } ∧
      rx.count ≤ (Driver.scanUsed n k rx.toRxQueue flags).1.count ∧
      ((Driver.scanUsed n k rx.toRxQueue flags).2.enqueued = false →
        flags.enqueued = false ∧ (Driver.scanUsed n k rx.toRxQueue flags).1.count = rx.count) := by
  induction k generalizing rx flags with
  | zero => exact ⟨h, le_rfl, fun hf => ⟨hf, rfl⟩⟩
  | succ k ih =>
    have hne : rx.rxLastUsed ≠ rx.usedIdx := fun heq => by
      rw [(Ring.span_eq_zero_iff _ _).mpr heq] at hk
      omega
    obtain ⟨hlong, hle, hflag⟩ := h.element hne flags
    obtain ⟨hlast, hused⟩ := Driver.rxLastUsed_handleRxElement n rx.toRxQueue flags
    obtain ⟨hlong', hle', hflag'⟩ := ih hlong (by
      simp only
      rw [hlast, hused, Ring.span_succ_left hne, hk, Nat.add_sub_cancel])
      (Driver.handleRxElement n rx.toRxQueue flags).2
    refine ⟨hlong', hle.trans hle', fun hf => ?_⟩
    obtain ⟨hf', hcount'⟩ := hflag' hf
    obtain ⟨hf'', hcount⟩ := hflag hf'
    exact ⟨hf'', hcount'.trans hcount⟩

/-- The handler: it posts if the queue has grown. -/
lemma LongQueue.interrupt (h : LongQueue n rx) :
    LongQueue n (Driver.rxInterrupt n rx).1 ∧ rx.count ≤ (Driver.rxInterrupt n rx).1.count ∧
      ((Driver.rxInterrupt n rx).2 = false → (Driver.rxInterrupt n rx).1.count = rx.count) := by
  unfold Driver.rxInterrupt
  simp only
  split_ifs with hbit
  · obtain ⟨hlong, hle, hflag⟩ := h.scan _ rfl ⟨false, false⟩
    exact ⟨⟨hlong.head, hlong.tail, hlong.count, hlong.entries, hlong.used, hlong.written⟩, hle,
      fun hf => (hflag hf).2⟩
  · exact ⟨⟨h.head, h.tail, h.count, h.entries, h.used, h.written⟩, le_rfl, fun _ => rfl⟩

/-- The task removes the head entry. -/
lemma LongQueue.dequeue (h : LongQueue n rx) (hcount : rx.count ≠ 0) (task : Driver.TaskPc) :
    LongQueue n { rx with toRxQueue := Driver.dequeue n rx.toRxQueue, task := task } := by
  have hpop := Ring.window_pop (n := n) rx.completions rx.head hcount
  have hle := h.count
  refine ⟨Nat.mod_mod _ _, ?_, ?_, ?_, h.used, h.written⟩
  · simp only [Driver.dequeue]
    rw [h.tail, Nat.mod_add_mod, show rx.head + 1 + (rx.count - 1) = rx.head + rx.count by omega]
  · simp only [Driver.dequeue]
    omega
  · intro e he
    simp only [Driver.dequeue] at he
    rw [Ring.window_congr_start _ (Nat.mod_mod _ _)] at he
    apply h.entries
    rw [hpop]
    exact List.mem_cons_of_mem _ he

/-- **The peek finds a frame** whenever the queue is not empty. -/
lemma LongQueue.peek (h : LongQueue n rx) (hcount : rx.count ≠ 0) :
    ∃ id len, Driver.peekRxBuffer n rx.toRxQueue = some (id, len) ∧ len > 0 := by
  have hhead := h.entries (rx.completions rx.head) (by
    rw [Ring.window_pop _ _ hcount, h.head]
    exact List.mem_cons_self ..)
  have hmax : Driver.virtioNetMaxFrameSize = 1518 := rfl
  refine ⟨(rx.completions rx.head).descId, Driver.rxPayloadLen (rx.completions rx.head).totalLen,
    ?_, ?_⟩
  · simp only [Driver.peekRxBuffer, Driver.peekRx, if_neg hcount]
    rw [if_neg (not_le.mpr hhead.1)]
  · rw [Driver.rxPayloadLen, if_pos hhead.2]
    omega

/-- A step of the device. -/
lemma LongQueue.device (h : LongQueue n rx) {a : Driver.RxAction} {rx' : Driver.RxState}
    (ha : longCompletion a = true) (hstep : Driver.deviceStep n rx a = some rx') :
    LongQueue n rx' ∧ rx'.count = rx.count := by
  have hrule := Driver.rxRule_of_deviceStep hstep
  cases a with
  | take =>
    cases hrule with
    | take hne => exact ⟨⟨h.head, h.tail, h.count, h.entries, h.used, h.written⟩, rfl⟩
    | stay => exact ⟨h, rfl⟩
  | write id len =>
    have hlen : Driver.virtioNetHdrSize < len.toNat := of_decide_eq_true ha
    cases hrule with
    | write _ _ hdev hid =>
      refine ⟨⟨h.head, h.tail, h.count, h.entries, fun k hk => ?_, fun _ _ => ?_⟩, rfl⟩
      · simp only [Function.update_apply]
        split_ifs
        · exact hlen
        · exact h.used k hk
      · simp only [Function.update_self]
        exact hlen
    | stay => exact ⟨h, rfl⟩
  | publish =>
    cases hrule with
    | publish id hdev =>
      refine ⟨⟨h.head, h.tail, h.count, h.entries, fun k hk => ?_, fun _ h' => by cases h'⟩, rfl⟩
      rcases Ring.lt_span_or_eq hk with hlt | heq
      · exact h.used k hlt
      · simp only [heq]
        exact h.written id hdev
    | stay => exact ⟨h, rfl⟩
  | raise =>
    cases hrule with
    | raise hdev =>
      exact ⟨⟨h.head, h.tail, h.count, h.entries, h.used, fun _ h' => by cases h'⟩, rfl⟩
    | stay => exact ⟨h, rfl⟩
  | other bits =>
    cases hrule with
    | other => exact ⟨⟨h.head, h.tail, h.count, h.entries, h.used, h.written⟩, rfl⟩
    | stay => exact ⟨h, rfl⟩
  -- the other actions are not the device's
  | _ => cases hstep

end Queue

/-! ## The invariant -/

/-- The task has found the queue empty, and has not come back to the test. -/
def RxTaskPc.past : RxTaskPc → Bool
  | .rxFlush _ | .txFlush _ | .wait | .waiting => true
  | _ => false

/-- The task is at the test or in the processing of a frame, and knows nothing of the queue. -/
def RxTaskPc.busy : RxTaskPc → Bool
  | .test | .process _ | .release _ | .repost => true
  | _ => false

section

variable {ι : Type} [DecidableEq ι]

/-- **The invariant.** The receive task is the only one that pends on its semaphore, and never
times out. It peeks when the queue is not empty; and when it has found the queue empty and the
queue is no longer empty, a token is at the semaphore or has been handed to the task. -/
structure WakeInv (c : RxTaskConfig ι) (cnt : ι → UInt16) (s : RxTaskState ι) : Prop where
  conserved : Conserved c.os cnt s.os
  only : ∀ q, (s.os.pc q).pending = some c.rxSem → q = c.prio
  patient : s.os.kernel.Patient c.prio
  inside : s.pc = .waiting → (s.os.pc c.prio).pending = some c.rxSem
  outside : s.pc ≠ .waiting → s.os.pc c.prio = .user
  queue : LongQueue c.n s.rx
  peek : s.pc = .peek → s.rx.count ≠ 0
  past : s.pc.past → s.rx.count ≠ 0 → s.os.Signalled c.rxSem c.prio
  punctual : s.pc ≠ .delay

variable {c : RxTaskConfig ι} {cnt : ι → UInt16} {s t : RxTaskState ι}

/-- A step that leaves the task where it is, and keeps its signal or makes one. -/
lemma WakeInv.of_keeps (h : WakeInv c cnt s) {rx : Driver.RxState} {os : SemState ι}
    (hos : Conserved c.os cnt os) (hk : Keeps c.rxSem c.prio s.os os) (hrx : LongQueue c.n rx)
    (hle : s.rx.count ≤ rx.count)
    (hsignal : rx.count = s.rx.count ∨ os.Signalled c.rxSem c.prio) :
    WakeInv c cnt { s with rx := rx, os := os } where
  conserved := hos
  only := fun q hq => h.only q (hk.pending q hq)
  patient := hk.patient h.patient
  inside := fun hpc => by
    simp only [hk.pc]
    exact h.inside hpc
  outside := fun hpc => by
    simp only [hk.pc]
    exact h.outside hpc
  queue := hrx
  peek := fun hpc => by
    have hcount := h.peek hpc
    simp only
    omega
  past := fun hpc hcount => by
    rcases hsignal with heq | hs
    · simp only [heq] at hcount
      exact hk.signalled (h.past hpc hcount)
    · exact hs
  punctual := h.punctual

/-- The posts of the handler. -/
lemma WakeInv.postRx (h : WakeInv c cnt s) {os : SemState ι} (hpost : postRx c s.os = some os) :
    Conserved c.os cnt os ∧ Keeps c.rxSem c.prio s.os os ∧ os.Signalled c.rxSem c.prio := by
  obtain ⟨u, hu, hrest⟩ := Option.bind_eq_some_iff.mp hpost
  have hcons := h.conserved.step hu
  have hkeeps : Keeps c.rxSem c.prio s.os u := Keeps.step (a := .isrPost c.rxSem) trivial hu
  have hsignal := h.conserved.signalled_of_isrPost h.only hu
  cases hglobal : c.globalSem with
  | none =>
    rw [hglobal] at hrest
    cases hrest
    exact ⟨hcons, hkeeps, hsignal⟩
  | some i =>
    rw [hglobal] at hrest
    have hnext : Keeps c.rxSem c.prio u os := Keeps.step (a := .isrPost i) trivial hrest
    exact ⟨hcons.step hrest, hkeeps.trans hnext, hnext.signalled hsignal⟩

/-- The interrupt handler. -/
lemma WakeInv.interrupt (h : WakeInv c cnt s) (hstep : interruptHandler c s = some t) :
    WakeInv c cnt t := by
  obtain ⟨hlong, hle, hsame⟩ := h.queue.interrupt
  unfold interruptHandler at hstep
  simp only at hstep
  split_ifs at hstep with hint hposts
  · obtain ⟨os, hos, rfl⟩ := Option.map_eq_some_iff.mp hstep
    obtain ⟨hcons, hkeeps, hsignal⟩ := h.postRx hos
    exact h.of_keeps hcons hkeeps hlong hle (.inr hsignal)
  · cases hstep
    exact h.of_keeps h.conserved ⟨rfl, fun _ hq => hq, id, id⟩ hlong hle
      (.inl (hsame (Bool.eq_false_iff.mpr hposts)))

/-- A step of the kernel machine that is not the task's own. -/
lemma WakeInv.elsewhere (h : WakeInv c cnt s) {a : SemAction ι} {os : SemState ι}
    (ha : Elsewhere c.rxSem c.prio s.os a) (hstep : semStep c.os s.os a = some os) :
    WakeInv c cnt { s with os := os } :=
  h.of_keeps (h.conserved.step hstep) (Keeps.step ha hstep) h.queue le_rfl (.inl rfl)

/-- The task's own step of the kernel machine: it is in `OSSemPend`.

**Proof sketch.** The task is in `OSSemPend`. It is about to call `OS_Sched`, which changes none of
its data, or it returns with a token, and tests the queue again. -/
lemma WakeInv.ownStep (h : WakeInv c cnt s) (hcur : s.os.kernel.prioCur = c.prio) {os : SemState ι}
    (hstep : semStep c.os s.os .task = some os) :
    WakeInv c cnt { s with os := os, pc := pcAfterKernel c s .task } := by
  have hcons := h.conserved.step hstep
  simp only [semStep] at hstep
  split_ifs at hstep with hint
  have hwaiting : s.pc = .waiting := by
    by_contra hne
    simp only [Kernel.taskStep, hcur, h.outside hne] at hstep
    cases hstep
  have hpend := h.inside hwaiting
  have hother : ∀ (u : SemState ι) (pc : Kernel.TaskPc ι), u.pc = s.os.pc → ∀ q, q ≠ c.prio →
      ((u.setPc c.prio pc).pc q).pending = some c.rxSem → q = c.prio := by
    intro u pc hu q hq hqp
    simp only [SemState.setPc, Function.update_of_ne hq, hu] at hqp
    exact h.only q hqp
  cases hpc : s.os.pc c.prio with
  | pendSched i =>
    obtain rfl : i = c.rxSem := by simpa [hpc, TaskPc.pending] using hpend
    have hafter : pcAfterKernel c s .task = s.pc := by
      simp only [pcAfterKernel, hcur, hpc]
    simp only [Kernel.taskStep, hcur, hpc] at hstep
    cases hstep
    rw [hafter]
    refine { h with
      conserved := hcons, only := ?_, patient := ?_, inside := ?_, outside := ?_, past := ?_ }
    · intro q hq
      by_contra hne
      exact hne (hother _ _ rfl q hne hq)
    · simp only [SemState.setPc, OsState.Patient, osSched_tcb]
      exact h.patient
    · intro _
      simp [SemState.setPc, TaskPc.pending]
    · exact fun hne => absurd hwaiting hne
    · intro hpast hcount
      simp only [SemState.setPc, SemState.Signalled, osSched_event]
      exact h.past hpast hcount
  | pendResume i =>
    obtain rfl : i = c.rxSem := by simpa [hpc, TaskPc.pending] using hpend
    have hpatient : s.os.kernel.Patient s.os.kernel.prioCur := hcur ▸ h.patient
    obtain ⟨hnone, hpatient'⟩ := hpatient.osSemPendResume_self c.rxSem
    have hafter : pcAfterKernel c s .task = .test := by
      simp only [pcAfterKernel, hcur, hpc, if_true, hnone, afterWait]
    simp only [Kernel.taskStep, hcur, hpc, hnone, if_true] at hstep
    cases hstep
    rw [hafter]
    refine ⟨hcons, ?_, ?_, by simp, ?_, h.queue, by simp, by simp [RxTaskPc.past], by simp⟩
    · intro q hq
      by_contra hne
      exact hne (hother _ _ rfl q hne hq)
    · rw [hcur] at hpatient'
      exact hpatient'
    · intro _
      simp [SemState.setPc, SemState.setHanded, SemState.record]
  | _ =>
    rw [hpc] at hpend
    cases hpend

/-- A step of the task that makes no call of the kernel. -/
lemma WakeInv.goOn (h : WakeInv c cnt s) (hcur : s.os.pc c.prio = .user) {rx : Driver.RxState}
    (hrx : LongQueue c.n rx) {pc : RxTaskPc} (hwaiting : pc ≠ .waiting)
    (hpeek : pc = .peek → rx.count ≠ 0) (hpast : pc.past → rx.count ≠ 0 →
      s.os.Signalled c.rxSem c.prio) (hdelay : pc ≠ .delay) :
    WakeInv c cnt { s with rx := rx, pc := pc } :=
  ⟨h.conserved, h.only, h.patient, fun hne => absurd hne hwaiting, fun _ => hcur, hrx, hpeek, hpast,
    hdelay⟩

/-- A step of the task to a place where nothing is asserted of the queue. -/
lemma WakeInv.goOn_busy (h : WakeInv c cnt s) (hcur : s.os.pc c.prio = .user) {rx : Driver.RxState}
    (hrx : LongQueue c.n rx) {pc : RxTaskPc} (hbusy : pc.busy = true) :
    WakeInv c cnt { s with rx := rx, pc := pc } := by
  refine h.goOn hcur hrx ?_ ?_ ?_ ?_
  · rintro rfl
    cases hbusy
  · rintro rfl
    cases hbusy
  · intro hpast
    cases pc with
    | test => cases hpast
    | process => cases hpast
    | release => cases hpast
    | repost => cases hpast
    | _ => cases hbusy
  · rintro rfl
    cases hbusy

/-- `OSSemPend` of the task: it takes a token, or the queue is empty and the task waits. -/
lemma WakeInv.wait (h : WakeInv c cnt s) (hpc : s.pc = .wait) (hcur : s.os.kernel.prioCur = c.prio)
    {os : SemState ι} (hstep : semStep c.os s.os (.pend c.rxSem 0) = some os) :
    WakeInv c cnt { s with
      os := os
      pc := match (osSemPend s.os.kernel c.rxSem 0).2 with
        | some err => afterWait err
        | none => .waiting } := by
  have hcons := h.conserved.step hstep
  have huser : s.os.pc c.prio = .user := h.outside (by rw [hpc]; simp)
  simp only [semStep] at hstep
  split_ifs at hstep with hint
  simp only [Kernel.callStep] at hstep
  split_ifs at hstep with hlock
  rcases osSemPend_cases s.os.kernel c.rxSem 0 hint.1 with ⟨hcnt, heq⟩ | ⟨hcnt, heq⟩
  · rw [heq] at hstep ⊢
    cases hstep
    refine ⟨hcons, h.only, h.patient, ?_, fun _ => huser, h.queue, ?_, ?_, ?_⟩
    all_goals simp [afterWait, RxTaskPc.past]
  · rw [heq] at hstep ⊢
    cases hstep
    refine ⟨hcons, ?_, ?_, ?_, fun hne => absurd rfl hne, h.queue, by simp, ?_, by simp⟩
    · intro q hq
      by_contra hne
      simp only [SemState.setPc, hcur, Function.update_of_ne hne] at hq
      exact hne (h.only q hq)
    · exact h.patient.setTcb_of _ rfl rfl
    · intro _
      simp [SemState.setPc, hcur, TaskPc.pending]
    · -- without a token and outside the kernel, nothing is signalled, so the queue is empty
      intro _ hcount
      have hrest := (h.conserved.taskOk _ c.prio_mem).atRest (by rw [huser]; rfl)
      rcases h.past (by rw [hpc]; rfl) hcount with hne | hhanded
      · exact absurd hcnt hne
      · rw [hrest.handed] at hhanded
        cases hhanded

/-- A step of the task.

**Proof sketch.** One case per place of the task in its loop. It goes to wait only when it has
found the queue empty, and until then nothing but the handler fills it. -/
lemma WakeInv.task (h : WakeInv c cnt s) (hcur : s.os.kernel.prioCur = c.prio)
    (huser : s.os.pc c.prio = .user) (hstep : netRxTaskStep c s = some t) : WakeInv c cnt t := by
  cases hpc : s.pc with
  | test =>
    simp only [netRxTaskStep, hpc, Option.some.injEq] at hstep
    subst hstep
    split_ifs with hcount
    · exact h.goOn huser h.queue (by simp) (fun _ => by omega) (by simp [RxTaskPc.past]) (by simp)
    · exact h.goOn huser h.queue (by simp) (by simp)
        (fun _ hne => absurd (Nat.pos_of_ne_zero hne) hcount) (by simp)
  | peek =>
    obtain ⟨id, len, hpeek, hlen⟩ := h.queue.peek (h.peek hpc)
    simp only [netRxTaskStep, hpc, hpeek, if_pos hlen, Option.some.injEq] at hstep
    subst hstep
    exact h.goOn_busy huser h.queue rfl
  | process id =>
    simp only [netRxTaskStep, hpc, Option.some.injEq] at hstep
    subst hstep
    exact h.goOn_busy huser h.queue rfl
  | release id =>
    simp only [netRxTaskStep, hpc] at hstep
    obtain ⟨rx, hrx, rfl⟩ := Option.map_eq_some_iff.mp hstep
    have hqueue : LongQueue c.n rx := by
      simp only [Driver.callStep] at hrx
      split_ifs at hrx with hcount hid
      · cases hrx
        exact h.queue
      · cases hrx
        exact h.queue
      · cases hrx
        exact h.queue.dequeue hcount _
    split_ifs
    · exact h.goOn_busy huser hqueue rfl
    · exact h.goOn_busy huser hqueue rfl
  | repost =>
    simp only [netRxTaskStep, hpc] at hstep
    obtain ⟨rx, hrx, rfl⟩ := Option.map_eq_some_iff.mp hstep
    have hqueue : LongQueue c.n rx := by
      have hq := h.queue
      unfold Driver.taskStep at hrx
      split at hrx <;> cases hrx <;>
        exact ⟨hq.head, hq.tail, hq.count, hq.entries, hq.used, hq.written⟩
    split_ifs
    · exact h.goOn_busy huser hqueue rfl
    · exact h.goOn_busy huser hqueue rfl
  | rxFlush dev | txFlush dev =>
    have hpast := h.past (by rw [hpc]; rfl)
    simp only [netRxTaskStep, hpc, Option.some.injEq] at hstep
    subst hstep
    split_ifs
    · exact h.goOn huser h.queue (by simp) (by simp) (fun _ => hpast) (by simp)
    · exact h.goOn huser h.queue (by simp) (by simp) (fun _ => hpast) (by simp)
  | wait =>
    simp only [netRxTaskStep, hpc] at hstep
    obtain ⟨os, hos, rfl⟩ := Option.map_eq_some_iff.mp hstep
    exact h.wait hpc hcur hos
  | waiting =>
    simp only [netRxTaskStep, hpc] at hstep
    cases hstep
  | delay => exact absurd hpc h.punctual

/-- **Step lemma.** -/
theorem WakeInv.step {a : RxTaskAction ι} (h : WakeInv c cnt s)
    (hstep : rxTaskStep c s a = some t) :
    WakeInv c cnt t := by
  cases a with
  | device a =>
    simp only [rxTaskStep] at hstep
    split_ifs at hstep with hlong
    obtain ⟨rx, hrx, rfl⟩ := Option.map_eq_some_iff.mp hstep
    obtain ⟨hqueue, hcount⟩ := h.queue.device hlong hrx
    exact h.of_keeps h.conserved ⟨rfl, fun _ hq => hq, id, id⟩ hqueue hcount.ge (.inl hcount)
  | interrupt => exact h.interrupt hstep
  | kernel a =>
    simp only [rxTaskStep] at hstep
    split_ifs at hstep with hallowed
    obtain ⟨os, hos, rfl⟩ := Option.map_eq_some_iff.mp hstep
    by_cases hown : a = .task ∧ s.os.kernel.prioCur = c.prio
    · obtain ⟨rfl, hcur⟩ := hown
      exact h.ownStep hcur hos
    · have hpc : pcAfterKernel c s a = s.pc := by
        unfold pcAfterKernel
        split
        · rw [if_neg fun hcur => hown ⟨rfl, hcur⟩]
        · rfl
      rw [hpc]
      refine h.elsewhere ?_ hos
      cases a with
      | pend i timeout | accept i => simpa [kernelAllowed, Elsewhere] using hallowed
      | post i | lock | unlock => simpa [kernelAllowed, Elsewhere] using hallowed
      | task => exact fun hcur => hown ⟨rfl, hcur⟩
      | _ => trivial
  | task =>
    simp only [rxTaskStep] at hstep
    split_ifs at hstep with hcur
    exact h.task hcur.2.1 hcur.2.2 hstep

/-- The invariant at the start. -/
lemma wakeInv_rxTaskInit (c : RxTaskConfig ι) (cnt : ι → UInt16) :
    WakeInv c cnt (rxTaskInit c cnt) := by
  refine ⟨conserved_semInit c.os cnt, nofun, ⟨rfl, rfl⟩, nofun, fun _ => rfl, ?_,
    nofun, nofun, nofun⟩
  refine ⟨Nat.zero_mod _, (Nat.zero_mod _).symm, Nat.zero_le _, nofun, ?_, nofun⟩
  intro k hk
  rw [show Ring.span (rxTaskInit c cnt).rx.rxLastUsed (rxTaskInit c cnt).rx.usedIdx = 0 from
    Ring.span_self 0] at hk
  omega

/-! ## The main result -/

/-- The task waits in `OSSemPend` for the semaphore of its device. -/
def Blocked (c : RxTaskConfig ι) (s : RxTaskState ι) : Prop :=
  (s.os.pc c.prio).pending = some c.rxSem ∧ ¬ s.os.kernel.rdy.Mem c.prio

instance (c : RxTaskConfig ι) (s : RxTaskState ι) : Decidable (Blocked c s) :=
  inferInstanceAs (Decidable (_ ∧ _))

/-- **No lost wakeup.** In every reachable state in which the receive task is blocked in
`OSSemPend` on the semaphore of its device, the completion queue of the device is empty.

**Proof sketch.** A task that is not ready has not been handed a token, and is on the wait list, so
the semaphore has no token (`Conserved`). Then, by the invariant, the queue is as empty as the task
found it. -/
theorem no_lost_wakeup (c : RxTaskConfig ι) (cnt : ι → UInt16) {s : RxTaskState ι}
    (h : Reachable (rxTaskStep c) (rxTaskInit c cnt) s) (hblocked : Blocked c s) :
    s.rx.count = 0 := by
  have hinv : WakeInv c cnt s :=
    h.invariant (fun _ _ _ hs hstep => hs.step hstep) (wakeInv_rxTaskInit c cnt)
  obtain ⟨hpend, hrdy⟩ := hblocked
  have hwaiting : s.pc = .waiting := by
    by_contra hne
    rw [hinv.outside hne] at hpend
    cases hpend
  have hw : Waiting s.os c.rxSem c.prio := by
    rcases (hinv.conserved.taskOk _ c.prio_mem).pending hpend with hw | hd | hto
    · exact hw
    · exact absurd (hd.rdy.mpr rfl) hrdy
    · exact absurd (hto.rdy.mpr rfl) hrdy
  by_contra hcount
  rcases hinv.past (by rw [hwaiting]; rfl) hcount with hcnt | hhanded
  · exact hinv.conserved.empty c.rxSem hcnt c.prio ((hw.wait c.rxSem).mpr rfl)
  · rw [hw.handed] at hhanded
    cases hhanded

end

/-- One receive task, with a queue of 8 entries; `false` is its semaphore, `true` the global one. -/
def oneRxTask : RxTaskConfig Bool :=
  ⟨⟨63, [1], by decide, by decide⟩, 1, by decide, 8, false, some true, by decide⟩

/-- A frame arrives and the handler queues it; the task processes it, finds the queue empty, takes
the token of the post, finds the queue empty again, and waits. -/
def oneFrameThenWait : List (RxTaskAction Bool) :=
  (Driver.receive 0).map .device ++ [.kernel .intEnter, .interrupt, .kernel .intExit] ++
    List.replicate 20 .task ++ [.kernel .task]

/-- The task is blocked after the run, and the queue is empty. -/
theorem no_lost_wakeup_oneFrame :
    ∃ s, exec (rxTaskStep oneRxTask) (rxTaskInit oneRxTask fun _ => 0) oneFrameThenWait = some s ∧
      Blocked oneRxTask s ∧ s.rx.count = 0 := by
  have hobs : (exec (rxTaskStep oneRxTask) (rxTaskInit oneRxTask fun _ => 0) oneFrameThenWait).map
      (fun s => decide (Blocked oneRxTask s)) = some true := by decide
  obtain ⟨s, hs, hval⟩ := Option.map_eq_some_iff.mp hobs
  have hblocked := of_decide_eq_true hval
  exact ⟨s, hs, hblocked, no_lost_wakeup oneRxTask (fun _ => 0) ⟨oneFrameThenWait, hs⟩ hblocked⟩

end Gateway
