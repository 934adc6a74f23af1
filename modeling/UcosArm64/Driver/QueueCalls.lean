import UcosArm64.Driver.RxSystem
import UcosArm64.Driver.TxSystem

set_option relaxedAutoImplicit false
set_option autoImplicit false

/-!
# Calls of the driver as single steps

The functions of `bsp/virtio_net.c` that work on the queues of one device, each as a whole, where
`Driver.rxStep` and `Driver.txStep` take them access by access.

## Main definitions

* `Driver.virtioNetHandleRxUsed`, `Driver.rxInterrupt` — the interrupt handler.
* `Driver.peekRxBuffer`, `Driver.repostRx` — the two halves of taking a frame.
* `Driver.pollRoom`, `Driver.enqueueFrame` — the two halves of `virtio_net_send_frame_dev`.

## Main results

* `Driver.exec_interrupt` — the handler does what it does step by step in `Driver.rxStep`.
* `Driver.exec_repostRx`, `Driver.exec_enqueueFrame` — the same for a task that gives a descriptor
  back, and for a call that has found room.
-/

namespace Driver

/-! ## The receive queue -/

/-- `payload_len` of `virtio_net_peek_rx_buffer_dev`. -/
def rxPayloadLen (totalLen : UInt32) : ℕ :=
  if totalLen.toNat > virtioNetHdrSize then
    min (totalLen.toNat - virtioNetHdrSize) virtioNetMaxFrameSize
  else 0

/-- `virtio_net_peek_rx_buffer_dev`, past its argument checks: the descriptor and the length of the
frame, `none` for `NULL`. -/
def peekRxBuffer (n : ℕ) (q : RxQueue) : Option (UInt16 × ℕ) :=
  match peekRx q with
  | none => none
  | some e => if e.descId.toNat ≥ n then none else some (e.descId, rxPayloadLen e.totalLen)

/-- The end of `virtio_net_poll_frame_dev` and of `virtio_net_release_rx_buffer_dev`: the
descriptor goes back to the device. -/
def repostRx (n : ℕ) (q : RxQueue) (id : UInt16) : RxQueue :=
  { q with
    availRing := Function.update q.availRing (q.availIdx.toNat % n) id
    availIdx := q.availIdx + 1 }

/-- The loop of `virtio_net_handle_rx_used`, for `k` elements. -/
def scanUsed (n : ℕ) : ℕ → RxQueue → ScanFlags → RxQueue × ScanFlags
  | 0, q, flags => (q, flags)
  | k + 1, q, flags =>
    let r := handleRxElement n q flags
    scanUsed n k r.1 r.2

/-- `virtio_net_handle_rx_used`: every iteration advances `rx_last_used` by one, so that the loop
has as many iterations as there are elements up to `used->idx`. -/
def virtioNetHandleRxUsed (n : ℕ) (q : RxQueue) : RxQueue × ScanFlags :=
  scanUsed n (Ring.span q.rxLastUsed q.usedIdx) q ⟨false, false⟩

/-- `virtio_net_interrupt_handler` on the queue and the registers, and whether it posts. -/
def rxInterrupt (n : ℕ) (rx : RxState) : RxState × Bool :=
  let status := rx.interruptStatus
  let rx := { rx with interruptStatus := rx.interruptStatus &&& ~~~status }
  if status &&& 1 ≠ 0 then
    let r := virtioNetHandleRxUsed n rx.toRxQueue
    ({ rx with
      toRxQueue := r.1
      queueNotify := rx.queueNotify + r.2.notifyDevice.toNat
      rxSemPosts := rx.rxSemPosts + r.2.enqueued.toNat }, r.2.enqueued)
  else (rx, false)

/-- The loop advances `rx_last_used` to the used index. -/
lemma rxLastUsed_handleRxElement (n : ℕ) (q : RxQueue) (flags : ScanFlags) :
    (handleRxElement n q flags).1.rxLastUsed = q.rxLastUsed + 1 ∧
      (handleRxElement n q flags).1.usedIdx = q.usedIdx := by
  unfold handleRxElement
  simp only
  split_ifs <;> exact ⟨rfl, rfl⟩

/-- The loop of the handler, step by step. -/
lemma exec_scan (n : ℕ) (status : UInt32) (k : ℕ) (rx : RxState) (flags : ScanFlags)
    (hk : Ring.span rx.rxLastUsed rx.usedIdx = k) :
    Transition.exec (rxStep n) { rx with handler := .scan status flags }
        (List.replicate (2 * k) .handler) =
      some { rx with
        toRxQueue := (scanUsed n k rx.toRxQueue flags).1
        handler := .scan status (scanUsed n k rx.toRxQueue flags).2 } ∧
    (scanUsed n k rx.toRxQueue flags).1.rxLastUsed = rx.usedIdx ∧
    (scanUsed n k rx.toRxQueue flags).1.usedIdx = rx.usedIdx := by
  induction k generalizing rx flags with
  | zero => exact ⟨rfl, (Ring.span_eq_zero_iff _ _).mp hk, rfl⟩
  | succ k ih =>
    have hne : rx.rxLastUsed ≠ rx.usedIdx := fun heq => by
      rw [(Ring.span_eq_zero_iff _ _).mpr heq] at hk
      omega
    obtain ⟨hlast, hused⟩ := rxLastUsed_handleRxElement n rx.toRxQueue flags
    have hspan : Ring.span (handleRxElement n rx.toRxQueue flags).1.rxLastUsed
        (handleRxElement n rx.toRxQueue flags).1.usedIdx = k := by
      rw [hlast, hused, Ring.span_succ_left hne, hk, Nat.add_sub_cancel]
    have hrest := ih { rx with toRxQueue := (handleRxElement n rx.toRxQueue flags).1 }
      (handleRxElement n rx.toRxQueue flags).2 hspan
    rw [hused] at hrest
    refine ⟨?_, hrest.2⟩
    rw [show 2 * (k + 1) = 2 * k + 1 + 1 by omega, List.replicate_succ, List.replicate_succ,
      Transition.exec_cons]
    simp only [rxStep, handlerStep, if_neg hne, Option.bind_some, Transition.exec_cons]
    exact hrest.1

/-- **The handler as one step** is a run of the handler's steps. -/
theorem exec_interrupt (n : ℕ) {rx : RxState} (hidle : rx.handler = .idle) :
    ∃ as, Transition.exec (rxStep n) rx as = some (rxInterrupt n rx).1 := by
  by_cases hbit : rx.interruptStatus &&& 1 ≠ 0
  · obtain ⟨hscan, hlast, hused⟩ := exec_scan n rx.interruptStatus _ rx ⟨false, false⟩ rfl
    refine ⟨.irq :: .handler :: (List.replicate (2 * Ring.span rx.rxLastUsed rx.usedIdx) .handler ++
      [.handler, .handler]), ?_⟩
    rw [Transition.exec_cons]
    simp only [rxStep, if_pos hidle, Option.bind_some, Transition.exec_cons,
      handlerStep, if_pos hbit, Transition.exec_append]
    rw [hscan]
    simp only [rxInterrupt, if_pos hbit, virtioNetHandleRxUsed]
    generalize scanUsed n _ _ _ = r at hlast hused ⊢
    have hdone : r.1.rxLastUsed = r.1.usedIdx := hlast.trans hused.symm
    simp only [Option.bind_some, if_pos hdone, ← hidle, Transition.exec_nil]
  · refine ⟨[.irq, .handler, .handler], ?_⟩
    simp only [rxStep, if_pos hidle, Option.bind_some, Transition.exec_cons,
      handlerStep, if_neg hbit, Transition.exec_nil, rxInterrupt]
    rw [← hidle]

/-- **Giving a descriptor back as one step** is a run of the task's steps. -/
theorem exec_repostRx (n : ℕ) {rx : RxState} {id : UInt16} (hh : rx.handler = .idle) :
    Transition.exec (rxStep n) { rx with task := .dequeued id } (List.replicate 4 .task) =
      some { rx with toRxQueue := repostRx n rx.toRxQueue id, task := .idle } := by
  simp only [List.replicate, Transition.exec_cons, rxStep, if_pos hh, taskStep, Option.bind_some,
    Transition.exec_nil]
  rfl

/-! ## The transmit queue -/

/-- The polling loop of `virtio_net_send_frame_dev` with some of its 100 retries left, where `used`
is what the driver reads of the used index at each sample: the last sample, and the number of
samples. -/
def pollRoom (n : ℕ) (availIdx : UInt16) (used : ℕ → UInt16) : ℕ → UInt16 → ℕ → UInt16 × ℕ
  | 0, txLastUsed, samples => (txLastUsed, samples)
  | left + 1, txLastUsed, samples =>
    if availableSlots n availIdx txLastUsed < 4 then
      if availableSlots n availIdx (used samples) ≥ 4 then (used samples, samples + 1)
      else if (100 - left) % 10 = 0 then
        pollRoom n availIdx used left (used (samples + 1)) (samples + 2)
      else pollRoom n availIdx used left (used samples) (samples + 1)
    else (txLastUsed, samples)

/-- The part of `virtio_net_send_frame_dev` that makes a frame available. -/
def enqueueFrame (n : ℕ) (q : TxQueue) (frame : List UInt8) : TxQueue :=
  let idx := q.availIdx.toNat % n
  let header := fun k => if k < virtioNetHdrSize then 0 else q.buffers idx k
  let buffer := fun k => if virtioNetHdrSize ≤ k ∧ k < virtioNetHdrSize + frame.length then
    frame.getD (k - virtioNetHdrSize) 0 else header k
  { q with
    buffers := Function.update q.buffers idx buffer
    desc := Function.update q.desc idx
      ⟨some idx, UInt32.ofNat (frame.length + virtioNetHdrSize), 0, 0⟩
    availRing := Function.update q.availRing idx (UInt16.ofNat idx)
    availIdx := q.availIdx + 1 }

/-- **Making a frame available as one step** is a run of the steps of the call. -/
theorem exec_enqueueFrame (n : ℕ) (s : TxState) (frame : List UInt8) :
    Transition.exec (txStep n) { s with pc := .slot frame } (List.replicate 6 .call) =
      some { s with
        toTxQueue := enqueueFrame n s.toTxQueue frame
        accepted := s.accepted ++ [frame]
        pc := .batch frame } := by
  simp only [List.replicate, Transition.exec_cons, txStep, sendStep, Option.bind_some,
    Transition.exec_nil, enqueueFrame, Function.update_self, Function.update_idem]

end Driver
