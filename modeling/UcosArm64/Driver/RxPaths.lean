import UcosArm64.Driver.DriverCalls
import UcosArm64.Driver.RxConservation

set_option relaxedAutoImplicit false
set_option autoImplicit false

/-!
# The two receive paths agree

A frame can be taken from a device in two ways. `virtio_net_poll_frame_dev` removes the head
completion, copies the frame out and gives the descriptor back. `virtio_net_peek_rx_buffer_dev`
leaves the completion where it is and hands out a pointer to the frame;
`virtio_net_release_rx_buffer_dev` removes it later. On an initialised device whose completions
name descriptors of the queue, the two ways give the same frame and leave the same state.

## Main definitions

* `Driver.virtioNetPollFrameOut` — `virtio_net_poll_frame_dev` with what it stores through its
  pointers.
* `Driver.RxQueueOk` — the part of the conservation of descriptors that the receive paths rely on.
* `Driver.DriverState.RxConserved` — the RX queue of a slot is one of `Driver.RxInv`.
* `Driver.RxOp`, `Driver.pollStep`, `Driver.pairStep` — runs that take frames in one of the two
  ways, between any other calls of the driver.

## Main results

* `Driver.receives_run` — every call of the driver keeps the queues in order.
* `Driver.rxPaths_agree` — the two ways agree, for one frame and for whole runs.
-/

namespace Driver

open Ring

/-! ## Poll with its outputs -/

/-- The bytes at `dev->rx_buffers[desc_id] + sizeof(struct virtio_net_hdr)`. -/
def rxFrame (rxBuffers : ℕ → UInt16 → ℕ → UInt8) (i : ℕ) (descId : UInt16) (length : ℕ) :
    List UInt8 :=
  (List.range length).map fun k => rxBuffers i descId (virtioNetHdrSize + k)

/-- What `virtio_net_poll_frame_dev` does: its return value, what it stores to `*out_length` and to
`out_frame`, if it stores anything, and the state. -/
structure PolledFrame where
  result : ℤ
  outLength : Option ℕ
  outFrame : Option (List UInt8)
  state : DriverState

/-- `virtio_net_poll_frame_dev` with pointers that are not `NULL`. -/
def virtioNetPollFrameOut (s : DriverState) (rxBuffers : ℕ → UInt16 → ℕ → UInt8)
    (dev : Option ℕ) : PolledFrame :=
  match dev with
  | none => ⟨-1, none, none, s⟩
  | some i =>
    if !(s.devices i).driverOk then ⟨-1, none, none, s⟩
    else
      match findIndex s i with
      | none => ⟨-1, none, none, s⟩
      | some devIdx =>
        let n := (s.devices i).rxQueueSize.toNat
        let q := (s.devices devIdx).rx
        if q.count = 0 then ⟨0, none, none, s⟩
        else
          let entry := q.completions q.head
          let s := s.modifyDevice devIdx fun d => { d with rx := dequeue n d.rx }
          if entry.descId.toNat ≥ n then ⟨-1, none, none, s⟩
          else
            let payloadLen := rxPayloadLen entry.totalLen
            { result := if payloadLen > 0 then 1 else 0
              outLength := some (if entry.totalLen.toNat > virtioNetHdrSize then payloadLen else 0)
              outFrame := if entry.totalLen.toNat > virtioNetHdrSize then
                some (rxFrame rxBuffers i entry.descId payloadLen) else none
              state := s.modifyDevice i fun d => { d with rx := repostRx n d.rx entry.descId } }

/-- The return value and the state are those of `Driver.virtioNetPollFrameDev`. -/
lemma virtioNetPollFrameOut_eq (s : DriverState) (rxBuffers : ℕ → UInt16 → ℕ → UInt8)
    (dev : Option ℕ) :
    ((virtioNetPollFrameOut s rxBuffers dev).result,
    (virtioNetPollFrameOut s rxBuffers dev).state) =
      virtioNetPollFrameDev s dev := by
  unfold virtioNetPollFrameOut virtioNetPollFrameDev
  cases dev with
  | none => rfl
  | some i =>
    simp only
    split_ifs with hok
    · rfl
    · cases findIndex s i with
      | none => rfl
      | some devIdx =>
        simp only
        split_ifs <;> rfl

/-- The frame that a poll delivers: `*out_length` bytes of `out_frame`. -/
def PolledFrame.frame (p : PolledFrame) : Option (List UInt8) :=
  p.outLength.map fun length => (p.outFrame.getD []).take length

/-- The frame that a peek delivers. -/
def peekedFrame (rxBuffers : ℕ → UInt16 → ℕ → UInt8) (i : ℕ) (peek : Option (UInt16 × ℕ)) :
    Option (List UInt8) :=
  peek.map fun p => rxFrame rxBuffers i p.1 p.2

/-! ## The completion queue -/

/-- The entries of the completion queue, the head first. -/
def RxQueue.pending (n : ℕ) (q : RxQueue) : List RxCompletionEntry :=
  window n q.completions q.head q.count

/-- The completion queue is a ring of at most `n` entries that name descriptors of the queue. -/
structure RxQueueOk (n : ℕ) (q : RxQueue) : Prop where
  head : q.head < n
  tail : q.tail = (q.head + q.count) % n
  count : q.count ≤ n
  ids : ∀ e ∈ q.pending n, e.descId.toNat < n

section Queue

variable {n : ℕ} {q : RxQueue}

/-- The head entry is the first. -/
lemma RxQueue.pending_pop (hhead : q.head % n = q.head) (hcount : q.count ≠ 0) :
    q.pending n = q.completions q.head :: (dequeue n q).pending n := by
  unfold RxQueue.pending
  rw [window_pop _ _ hcount, hhead]
  congr 1
  exact window_congr_start _ (Nat.mod_mod _ _).symm _

/-- Giving a descriptor back does not touch the completion queue. -/
@[simp] lemma RxQueue.pending_repostRx (id : UInt16) : (repostRx n q id).pending n = q.pending n :=
  rfl

/-- The head of the completion queue needs no reduction. -/
lemma RxQueueOk.head_mod (h : RxQueueOk n q) : q.head % n = q.head := Nat.mod_eq_of_lt h.head

/-- The head entry names a descriptor of the queue. -/
lemma RxQueueOk.head_lt (h : RxQueueOk n q) (hcount : q.count ≠ 0) :
    (q.completions q.head).descId.toNat < n := by
  apply h.ids
  rw [RxQueue.pending_pop h.head_mod hcount]
  exact List.mem_cons_self

/-- Removing the head entry keeps the queue in order. -/
lemma RxQueueOk.dequeue (h : RxQueueOk n q) (hcount : q.count ≠ 0) :
    RxQueueOk n (Driver.dequeue n q) := by
  have hn : 0 < n := Nat.zero_lt_of_lt h.head
  refine ⟨Nat.mod_lt _ hn, ?_, (Nat.sub_le _ _).trans h.count, fun e he => ?_⟩
  · show q.tail = ((q.head + 1) % n + (q.count - 1)) % n
    rw [h.tail, Nat.mod_add_mod, show q.head + 1 + (q.count - 1) = q.head + q.count by omega]
  · apply h.ids
    rw [RxQueue.pending_pop h.head_mod hcount]
    exact List.mem_cons_of_mem _ he

/-- Giving a descriptor back keeps it in order. -/
lemma RxQueueOk.repostRx (h : RxQueueOk n q) (m : ℕ) (id : UInt16) :
    RxQueueOk n (Driver.repostRx m q id) :=
  ⟨h.head, h.tail, h.count, h.ids⟩

/-- An iteration of the handler's loop keeps the queue in order, whatever the used ring holds. -/
lemma RxQueueOk.handleRxElement (h : RxQueueOk n q) (flags : ScanFlags) :
    RxQueueOk n (Driver.handleRxElement n q flags).1 := by
  unfold Driver.handleRxElement
  simp only
  split_ifs with hid hfull
  · exact ⟨h.head, h.tail, h.count, h.ids⟩
  · exact ⟨h.head, h.tail, h.count, h.ids⟩
  · rw [not_le] at hid hfull
    refine ⟨h.head, ?_, hfull, fun e he => ?_⟩
    · show (q.tail + 1) % n = (q.head + (q.count + 1)) % n
      rw [h.tail, Nat.mod_add_mod, Nat.add_assoc]
    · simp only [RxQueue.pending] at he
      rw [h.tail, window_push _ hfull, List.mem_append, List.mem_singleton] at he
      rcases he with he | rfl
      · exact h.ids e he
      · exact hid

/-- Scanning the used ring keeps the queue in order. -/
lemma RxQueueOk.scanUsed (k : ℕ) (h : RxQueueOk n q) (flags : ScanFlags) :
    RxQueueOk n (Driver.scanUsed n k q flags).1 := by
  induction k generalizing q flags with
  | zero => exact h
  | succ k ih => exact ih (h.handleRxElement flags) _

end Queue

/-- Conservation of the descriptors puts the completion queue in order. -/
lemma RxInv.queueOk {n : ℕ} {s : RxState} (h : RxInv n s) : RxQueueOk n s.toRxQueue where
  head := h.head
  tail := h.tail
  count := (Nat.le_add_right _ _).trans h.count_le
  ids := by
    intro e he
    apply h.lt
    have hmem : e.descId ∈ s.completed n := by
      rw [RxState.completed, ← map_window RxCompletionEntry.descId]
      exact List.mem_map_of_mem he
    simp [RxState.descriptors, hmem]

/-! ## What the calls do to the receive side -/

/-- The receive side of the driver: `g_device_count`, and for each slot `driver_ok` and the RX
queue with its size. -/
def DriverState.rxView (s : DriverState) : ℕ × (ℕ → Bool × UInt16 × RxQueue) :=
  (s.deviceCount, fun i => ((s.devices i).driverOk, (s.devices i).rxQueueSize, (s.devices i).rx))

/-- The slot is initialised and its completion queue is in order. -/
structure Receives (s : DriverState) (i : ℕ) : Prop where
  initialised : s.Initialised i
  queue : RxQueueOk (s.devices i).rxQueueSize.toNat (s.devices i).rx

/-- The RX queue of the slot is part of a state in which the descriptors are conserved. -/
def DriverState.RxConserved (s : DriverState) (i : ℕ) : Prop :=
  ∃ rx : RxState, rx.toRxQueue = (s.devices i).rx ∧ RxInv (s.devices i).rxQueueSize.toNat rx

/-- A device that conserves its descriptors receives in order. -/
lemma DriverState.RxConserved.receives {s : DriverState} {i : ℕ} (h : s.RxConserved i)
    (hi : s.Initialised i) : Receives s i := by
  obtain ⟨rx, hrx, hinv⟩ := h
  exact ⟨hi, hrx ▸ hinv.queueOk⟩

section View

variable (hw : Hardware) {s t : DriverState} (i : ℕ)

/-- A register write does not touch the receive queues. -/
@[simp] lemma rxView_regWrite (s : DriverState) (offset value : UInt32) :
    (s.regWrite i offset value).rxView = s.rxView := rfl

/-- Time that passes does not touch the receive queues. -/
@[simp] lemma rxView_elapse (s : DriverState) : s.elapse.rxView = s.rxView := rfl

/-- An update of the other fields of a slot. -/
lemma rxView_modifyDevice (s : DriverState) {f : VirtioNetDevice → VirtioNetDevice}
    (h : ∀ d, ((f d).driverOk, (f d).rxQueueSize, (f d).rx) = (d.driverOk, d.rxQueueSize, d.rx)) :
    (s.modifyDevice i f).rxView = s.rxView := by
  refine Prod.ext rfl ?_
  funext j
  by_cases hj : j = i
  · subst hj
    simp only [DriverState.rxView, modifyDevice_self]
    exact h _
  · simp only [DriverState.rxView, modifyDevice_of_ne i s f hj]

/-- Sending a frame leaves the receive side alone. -/
lemma rxView_virtioNetSendFrameDev (s : DriverState) (dev : Option ℕ)
    (frame : Option (List UInt8)) :
    (virtioNetSendFrameDev hw s dev frame).2.rxView = s.rxView := by
  unfold virtioNetSendFrameDev
  cases dev with
  | none => rfl
  | some i =>
    cases frame with
    | none =>
      simp only
      split_ifs <;> rfl
    | some bytes =>
      simp only
      split_ifs
      · rfl
      · rfl
      · unfold transmitFrame
        extract_lets n room s₁ tx count s₂ s₃
        have h₁ : s₁.rxView = s.rxView := (rxView_modifyDevice i _ fun _ => by rfl).trans rfl
        have h₂ : s₂.rxView = s.rxView := (rxView_modifyDevice i _ fun _ => by rfl).trans h₁
        split_ifs
        · exact h₁
        · have h₃ : s₃.rxView = s.rxView := (rxView_regWrite i _ _ _).trans h₂
          exact (rxView_modifyDevice i _ fun _ => by rfl).trans h₃
        · exact h₂

/-- The receive queue of a device is part of the view. -/
lemma rx_of_rxView (h : t.rxView = s.rxView) (j : ℕ) : (t.devices j).rx = (s.devices j).rx :=
  congrArg (fun v => (v.2 j).2.2) h

/-- The size of the receive queue is part of the view. -/
lemma rxQueueSize_of_rxView (h : t.rxView = s.rxView) (j : ℕ) :
    (t.devices j).rxQueueSize = (s.devices j).rxQueueSize :=
  congrArg (fun v => (v.2 j).2.1) h

/-- Whether a slot is initialised is part of the view. -/
lemma initialised_of_rxView (h : t.rxView = s.rxView) (j : ℕ) :
    t.Initialised j ↔ s.Initialised j := by
  have hcount : t.deviceCount = s.deviceCount := congrArg Prod.fst h
  have hok : (t.devices j).driverOk = (s.devices j).driverOk := congrArg (fun v => (v.2 j).1) h
  unfold DriverState.Initialised
  rw [hcount, hok]

variable {i}

/-- A step that leaves the receive side alone keeps the queues in order. -/
lemma Receives.of_rxView (hs : Receives s i) (h : t.rxView = s.rxView) : Receives t i := by
  refine ⟨(initialised_of_rxView h i).mpr hs.initialised, ?_⟩
  rw [rxQueueSize_of_rxView h, rx_of_rxView h]
  exact hs.queue

/-- An update of a slot that keeps its RX queue in order. -/
lemma Receives.modifyDevice (hs : Receives s i) (j : ℕ) {f : VirtioNetDevice → VirtioNetDevice}
    (hok : ∀ d, (f d).driverOk = d.driverOk) (hsize : ∀ d, (f d).rxQueueSize = d.rxQueueSize)
    (hrx : j = i → RxQueueOk (s.devices i).rxQueueSize.toNat (f (s.devices i)).rx) :
    Receives (s.modifyDevice j f) i := by
  by_cases hj : i = j
  · subst hj
    refine ⟨⟨hs.initialised.1, ?_⟩, ?_⟩
    · rw [modifyDevice_self, hok]
      exact hs.initialised.2
    · rw [modifyDevice_self, hsize]
      exact hrx rfl
  · refine ⟨⟨hs.initialised.1, ?_⟩, ?_⟩
    · rw [modifyDevice_of_ne _ _ _ hj]
      exact hs.initialised.2
    · rw [modifyDevice_of_ne _ _ _ hj]
      exact hs.queue

end View

/-! ## The calls on an initialised slot -/

section Calls

variable {s : DriverState} {i : ℕ}

/-- The loop "Find device index" finds a slot below `g_device_count`. -/
lemma findIndex_of_lt (h : i < s.deviceCount) : findIndex s i = some i := by
  unfold findIndex
  rw [List.find?_range_eq_some]
  refine ⟨by simp, List.mem_range.mpr h, fun j hj => ?_⟩
  simp only [Bool.not_eq_true', decide_eq_false_iff_not]
  omega

/-- The loop finds the slot itself or nothing. -/
lemma eq_of_findIndex {devIdx : ℕ} (h : findIndex s i = some devIdx) : devIdx = i := by
  simpa using List.find?_some h

/-- The head completion is removed and its descriptor given back to the device. -/
def DriverState.returnHead (s : DriverState) (i : ℕ) : DriverState :=
  let n := (s.devices i).rxQueueSize.toNat
  let entry := (s.devices i).rx.completions (s.devices i).rx.head
  (s.modifyDevice i fun d => { d with rx := dequeue n d.rx }).modifyDevice i fun d =>
    { d with rx := repostRx n d.rx entry.descId }

/-- The RX queue after that. -/
lemma returnHead_rx (s : DriverState) (i : ℕ) : ((s.returnHead i).devices i).rx =
    repostRx (s.devices i).rxQueueSize.toNat
      (dequeue (s.devices i).rxQueueSize.toNat (s.devices i).rx)
      ((s.devices i).rx.completions (s.devices i).rx.head).descId := by
  simp only [DriverState.returnHead, modifyDevice_self]

/-- The size of the queue stays. -/
lemma returnHead_rxQueueSize (s : DriverState) (i : ℕ) :
    ((s.returnHead i).devices i).rxQueueSize = (s.devices i).rxQueueSize := by
  simp only [DriverState.returnHead, modifyDevice_self]

/-- The slot stays initialised. -/
lemma initialised_returnHead (h : s.Initialised i) : (s.returnHead i).Initialised i := by
  refine ⟨h.1, ?_⟩
  simp only [DriverState.returnHead, modifyDevice_self]
  exact h.2

/-- `virtio_net_has_pending_rx_dev` on an initialised slot. -/
lemma virtioNetHasPendingRxDev_eq (h : s.Initialised i) :
    virtioNetHasPendingRxDev s (some i) = decide ((s.devices i).rx.count > 0) := by
  simp only [virtioNetHasPendingRxDev, findIndex_of_lt h.1]

/-- `virtio_net_peek_rx_buffer_dev` on an initialised slot. -/
lemma virtioNetPeekRxBufferDev_eq (h : s.Initialised i) :
    virtioNetPeekRxBufferDev s (some i) true =
      peekRxBuffer (s.devices i).rxQueueSize.toNat (s.devices i).rx := by
  simp [virtioNetPeekRxBufferDev, findIndex_of_lt h.1, h.2]

/-- `virtio_net_release_rx_buffer_dev` on an initialised slot, for the descriptor of the head
entry. -/
lemma virtioNetReleaseRxBufferDev_eq (h : s.Initialised i) (hcount : (s.devices i).rx.count ≠ 0) :
    virtioNetReleaseRxBufferDev s (some i)
      ((s.devices i).rx.completions (s.devices i).rx.head).descId = s.returnHead i := by
  simp [virtioNetReleaseRxBufferDev, findIndex_of_lt h.1, h.2, hcount, DriverState.returnHead]

/-- On an empty queue a release changes nothing. -/
lemma virtioNetReleaseRxBufferDev_of_empty (h : s.Initialised i)
    (hcount : (s.devices i).rx.count = 0) (descId : UInt16) :
    virtioNetReleaseRxBufferDev s (some i) descId = s := by
  simp [virtioNetReleaseRxBufferDev, findIndex_of_lt h.1, hcount]

/-- A peek on an empty queue. -/
lemma peekRxBuffer_of_empty (n : ℕ) {q : RxQueue} (hcount : q.count = 0) :
    peekRxBuffer n q = none := by
  simp [peekRxBuffer, peekRx, hcount]

/-- A peek at an entry that names a descriptor of the queue. -/
lemma peekRxBuffer_of_lt {n : ℕ} {q : RxQueue} (hcount : q.count ≠ 0)
    (hid : (q.completions q.head).descId.toNat < n) :
    peekRxBuffer n q =
      some ((q.completions q.head).descId, rxPayloadLen (q.completions q.head).totalLen) := by
  simp [peekRxBuffer, peekRx, hcount, hid]

/-- A poll on an empty queue. -/
lemma virtioNetPollFrameOut_of_empty (h : s.Initialised i) (hcount : (s.devices i).rx.count = 0)
    (rxBuffers : ℕ → UInt16 → ℕ → UInt8) :
    virtioNetPollFrameOut s rxBuffers (some i) = ⟨0, none, none, s⟩ := by
  simp [virtioNetPollFrameOut, findIndex_of_lt h.1, h.2, hcount]

/-- The length that a poll delivers. -/
lemma virtioNetPollFrameOut_outLength (h : s.Initialised i) (hcount : (s.devices i).rx.count ≠ 0)
    (hid : ((s.devices i).rx.completions (s.devices i).rx.head).descId.toNat <
      (s.devices i).rxQueueSize.toNat) (rxBuffers : ℕ → UInt16 → ℕ → UInt8) :
    (virtioNetPollFrameOut s rxBuffers (some i)).outLength =
      some (rxPayloadLen ((s.devices i).rx.completions (s.devices i).rx.head).totalLen) := by
  simp only [virtioNetPollFrameOut, findIndex_of_lt h.1, h.2, hcount, Bool.not_true,
    Bool.false_eq_true, if_false]
  rw [if_neg (not_le.mpr hid)]
  by_cases hlong : ((s.devices i).rx.completions (s.devices i).rx.head).totalLen.toNat >
      virtioNetHdrSize
  · simp only [if_pos hlong]
  · simp only [if_neg hlong, rxPayloadLen]

/-- A poll on a queue whose head entry names a descriptor of the queue. -/
lemma virtioNetPollFrameOut_of_lt (h : s.Initialised i) (hcount : (s.devices i).rx.count ≠ 0)
    (hid : ((s.devices i).rx.completions (s.devices i).rx.head).descId.toNat <
      (s.devices i).rxQueueSize.toNat) (rxBuffers : ℕ → UInt16 → ℕ → UInt8) :
    let entry := (s.devices i).rx.completions (s.devices i).rx.head
    (virtioNetPollFrameOut s rxBuffers (some i)).frame =
        some (rxFrame rxBuffers i entry.descId (rxPayloadLen entry.totalLen)) ∧
      (virtioNetPollFrameOut s rxBuffers (some i)).state = s.returnHead i := by
  intro entry
  have hid' : ¬entry.descId.toNat ≥ (s.devices i).rxQueueSize.toNat := not_le.mpr hid
  simp only [virtioNetPollFrameOut, findIndex_of_lt h.1, h.2, hcount, Bool.not_true,
    Bool.false_eq_true, if_false]
  rw [if_neg hid']
  refine ⟨?_, rfl⟩
  by_cases hlong : entry.totalLen.toNat > virtioNetHdrSize
  · have hlen : (rxFrame rxBuffers i entry.descId (rxPayloadLen entry.totalLen)).length =
        rxPayloadLen entry.totalLen := by simp [rxFrame]
    simp only [PolledFrame.frame, entry, if_pos hlong, Option.map_some, Option.getD_some]
    rw [List.take_of_length_le (le_of_eq hlen)]
  · have hlen : rxPayloadLen entry.totalLen = 0 := if_neg hlong
    simp only [PolledFrame.frame, entry, if_neg hlong, Option.map_some, List.take_zero]
    rw [hlen]
    rfl

end Calls

/-! ## Every call keeps the queues in order -/

section Preserved

variable (hw : Hardware) {s : DriverState} {i : ℕ}

/-- Removing the head completion of any slot. -/
lemma Receives.dequeue (h : Receives s i) {j : ℕ} (hcount : (s.devices j).rx.count ≠ 0) :
    Receives (s.modifyDevice j fun d =>
      { d with rx := Driver.dequeue (s.devices j).rxQueueSize.toNat d.rx }) i := by
  refine h.modifyDevice j (fun _ => rfl) (fun _ => rfl) fun hj => ?_
  subst hj
  exact h.queue.dequeue hcount

/-- Giving a descriptor back to any slot. -/
lemma Receives.repostRx (h : Receives s i) (j m : ℕ) (id : UInt16) :
    Receives (s.modifyDevice j fun d => { d with rx := Driver.repostRx m d.rx id }) i :=
  h.modifyDevice j (fun _ => rfl) (fun _ => rfl) fun _ => h.queue.repostRx m id

/-- A poll of any device keeps the queue of the device `i` in order. -/
lemma Receives.virtioNetPollFrameDev (h : Receives s i) (dev : Option ℕ) :
    Receives (Driver.virtioNetPollFrameDev s dev).2 i := by
  unfold Driver.virtioNetPollFrameDev
  cases dev with
  | none => exact h
  | some j =>
    simp only
    split_ifs with hok
    · exact h
    · cases hfind : findIndex s j with
      | none => exact h
      | some devIdx =>
        obtain rfl := eq_of_findIndex hfind
        simp only
        split_ifs with hcount hid
        · exact h
        · exact h.dequeue hcount
        all_goals exact (h.dequeue hcount).repostRx _ _ _

/-- A release on any device keeps the queue of the device `i` in order. -/
lemma Receives.virtioNetReleaseRxBufferDev (h : Receives s i) (dev : Option ℕ) (descId : UInt16) :
    Receives (Driver.virtioNetReleaseRxBufferDev s dev descId) i := by
  unfold Driver.virtioNetReleaseRxBufferDev
  cases dev with
  | none => exact h
  | some j =>
    simp only
    split_ifs with hok
    · exact h
    · cases hfind : findIndex s j with
      | none => exact h
      | some devIdx =>
        obtain rfl := eq_of_findIndex hfind
        simp only
        split_ifs with hcount hid
        · exact h
        · exact h
        · exact (h.dequeue hcount).repostRx _ _ _

/-- A scan of any device keeps the queue of the device `i` in order. -/
lemma Receives.handleRxUsedDev (h : Receives s i) (j : ℕ) :
    Receives (Driver.handleRxUsedDev hw s j) i := by
  unfold Driver.handleRxUsedDev
  extract_lets d rx q r s₁
  have h₁ : Receives s₁ i := by
    refine (h.of_rxView (rxView_elapse s)).modifyDevice j (fun _ => rfl) (fun _ => rfl) fun hj => ?_
    subst hj
    have hq : RxQueueOk (s.devices j).rxQueueSize.toNat q :=
      ⟨h.queue.head, h.queue.tail, h.queue.count, h.queue.ids⟩
    exact hq.scanUsed _ _
  split_ifs
  · exact h₁.of_rxView (rxView_regWrite j s₁ _ _)
  · exact h₁

/-- The interrupt handler keeps the queue of the device `i` in order. -/
lemma Receives.virtioNetInterruptHandler (h : Receives s i) (intId : UInt32) :
    Receives (Driver.virtioNetInterruptHandler hw s intId) i := by
  unfold Driver.virtioNetInterruptHandler
  split
  next => exact h
  next j _ =>
    split_ifs with hok
    · exact h
    · extract_lets status s₁ used s₂
      have h₁ : Receives s₁ i := h.of_rxView rfl
      have h₂ : Receives s₂ i := by
        simp only [s₂]
        split_ifs
        · refine Receives.handleRxUsedDev hw ?_ j
          exact h₁.of_rxView ((rxView_modifyDevice j _ fun _ => by rfl).trans (rxView_elapse s₁))
        · exact h₁
      exact h₂.of_rxView (rxView_regWrite j s₂ _ _)

/-- **Every call of the driver keeps the queues in order**, whatever the device has written into
the used ring. -/
theorem receives_run (h : Receives s i) (c : DriverCall) : Receives (c.run hw s).2 i := by
  cases c with
  | sendFrameDev dev frame => exact h.of_rxView (rxView_virtioNetSendFrameDev hw s dev frame)
  | sendFrame frame => exact h.of_rxView (rxView_virtioNetSendFrameDev hw s s.dev frame)
  | pollFrameDev dev => exact h.virtioNetPollFrameDev dev
  | pollFrame => exact h.virtioNetPollFrameDev s.dev
  | releaseRxBufferDev dev descId => exact h.virtioNetReleaseRxBufferDev dev descId
  | interruptHandler intId => exact h.virtioNetInterruptHandler hw intId
  | txFlushDev devIdx =>
    simp only [DriverCall.run, virtioNetTxFlushDev]
    split_ifs
    · exact h
    · exact h.of_rxView ((rxView_modifyDevice devIdx _ fun _ => by rfl).trans rfl)
    · exact h
  | rxFlushDev devIdx =>
    simp only [DriverCall.run, virtioNetRxFlushDev]
    split_ifs
    · exact h
    · exact h.of_rxView rfl
  | selfTestRegisters =>
    refine h.of_rxView ?_
    simp only [DriverCall.run, virtioNetSelfTestRegisters]
    split
    · rfl
    · split_ifs <;> rfl
  | debugDumpStatus =>
    refine h.of_rxView ?_
    simp only [DriverCall.run, virtioNetDebugDumpStatus]
    split <;> rfl
  | _ => exact h

end Preserved

/-! ## Agreement -/

/-- A poll agrees with a peek and a release of the descriptor that it returns. -/
structure RxPathsAgree (s : DriverState) (i : ℕ) (rxBuffers : ℕ → UInt16 → ℕ → UInt8) : Prop where
  /-- The same length. -/
  length : (virtioNetPollFrameOut s rxBuffers (some i)).outLength =
    (virtioNetPeekRxBufferDev s (some i) true).map Prod.snd
  /-- The same bytes. -/
  frame : (virtioNetPollFrameOut s rxBuffers (some i)).frame =
    peekedFrame rxBuffers i (virtioNetPeekRxBufferDev s (some i) true)
  /-- The same state. -/
  state : ∀ descId length, virtioNetPeekRxBufferDev s (some i) true = some (descId, length) →
    (virtioNetPollFrameOut s rxBuffers (some i)).state =
      virtioNetReleaseRxBufferDev s (some i) descId
  /-- Both find the head completion. -/
  nonempty : (s.devices i).rx.count ≠ 0 → virtioNetPeekRxBufferDev s (some i) true ≠ none
  /-- On an empty queue neither changes anything. -/
  empty : (s.devices i).rx.count = 0 →
    virtioNetPollFrameOut s rxBuffers (some i) = ⟨0, none, none, s⟩ ∧
      virtioNetPeekRxBufferDev s (some i) true = none ∧
      ∀ descId, virtioNetReleaseRxBufferDev s (some i) descId = s

/-- A step of a run: a frame is taken from the slot, when its buffers hold what is given; or any
other call of the driver. -/
inductive RxOp
  | take (rxBuffers : ℕ → UInt16 → ℕ → UInt8)
  | call (hw : Hardware) (c : DriverCall)

/-- A step in which frames are taken by `virtio_net_poll_frame_dev`: the state, and what the steps
taking frames have delivered. -/
def pollStep (i : ℕ) (r : DriverState × List (Option (List UInt8))) :
    RxOp → DriverState × List (Option (List UInt8))
  | .take rxBuffers =>
    let polled := virtioNetPollFrameOut r.1 rxBuffers (some i)
    (polled.state, r.2 ++ [polled.frame])
  | .call hw c => ((c.run hw r.1).2, r.2)

/-- A step in which frames are taken by `virtio_net_peek_rx_buffer_dev` and
`virtio_net_release_rx_buffer_dev`. -/
def pairStep (i : ℕ) (r : DriverState × List (Option (List UInt8))) :
    RxOp → DriverState × List (Option (List UInt8))
  | .take rxBuffers =>
    let peek := virtioNetPeekRxBufferDev r.1 (some i) true
    let released := match peek with
      | none => r.1
      | some (descId, _) => virtioNetReleaseRxBufferDev r.1 (some i) descId
    (released, r.2 ++ [peekedFrame rxBuffers i peek])
  | .call hw c => ((c.run hw r.1).2, r.2)

section Agreement

variable {s : DriverState} {i : ℕ}

/-- **One frame.** -/
lemma Receives.rxPathsAgree (h : Receives s i) (rxBuffers : ℕ → UInt16 → ℕ → UInt8) :
    RxPathsAgree s i rxBuffers := by
  have hinit := h.initialised
  by_cases hcount : (s.devices i).rx.count = 0
  · have hpeek : virtioNetPeekRxBufferDev s (some i) true = none := by
      rw [virtioNetPeekRxBufferDev_eq hinit, peekRxBuffer_of_empty _ hcount]
    have hpoll := virtioNetPollFrameOut_of_empty hinit hcount rxBuffers
    refine ⟨by rw [hpoll, hpeek]; rfl, by rw [hpoll, hpeek]; rfl, fun descId length hsome => ?_,
      fun hne => absurd hcount hne,
      fun _ => ⟨hpoll, hpeek, virtioNetReleaseRxBufferDev_of_empty hinit hcount⟩⟩
    rw [hpeek] at hsome
    cases hsome
  · have hlt := h.queue.head_lt hcount
    have hpeek := (virtioNetPeekRxBufferDev_eq hinit).trans (peekRxBuffer_of_lt hcount hlt)
    obtain ⟨hframe, hstate⟩ := virtioNetPollFrameOut_of_lt hinit hcount hlt rxBuffers
    refine ⟨?_, by rw [hframe, hpeek]; rfl, fun descId length hsome => ?_, fun _ => ?_,
      fun hzero => absurd hzero hcount⟩
    · rw [hpeek]
      exact virtioNetPollFrameOut_outLength hinit hcount hlt rxBuffers
    · rw [hpeek] at hsome
      cases hsome
      rw [hstate, virtioNetReleaseRxBufferDev_eq hinit hcount]
    · rw [hpeek]
      exact Option.some_ne_none _

/-- A step in either way is the same where the queue is in order. -/
lemma Receives.pollStep_eq {r : DriverState × List (Option (List UInt8))} (h : Receives r.1 i)
    (op : RxOp) : pollStep i r op = pairStep i r op := by
  cases op with
  | call hw c => rfl
  | take rxBuffers =>
    have hagree := h.rxPathsAgree rxBuffers
    simp only [pollStep, pairStep, hagree.frame]
    cases hpeek : virtioNetPeekRxBufferDev r.1 (some i) true with
    | none =>
      have hcount : (r.1.devices i).rx.count = 0 := by
        by_contra hne
        exact hagree.nonempty hne hpeek
      rw [(hagree.empty hcount).1]
    | some p => rw [hagree.state p.1 p.2 hpeek]

/-- A step keeps the queue in order. -/
lemma Receives.pollStep {r : DriverState × List (Option (List UInt8))} (h : Receives r.1 i)
    (op : RxOp) : Receives (pollStep i r op).1 i := by
  cases op with
  | call hw c => exact receives_run hw h c
  | take rxBuffers =>
    have hstate : (Driver.pollStep i r (.take rxBuffers)).1 =
        (Driver.virtioNetPollFrameDev r.1 (some i)).2 :=
      congrArg Prod.snd (virtioNetPollFrameOut_eq r.1 rxBuffers (some i))
    rw [hstate]
    exact h.virtioNetPollFrameDev (some i)

/-- **The copying and the zero-copy receive agree.** For an initialised slot in which the
descriptors are conserved, a poll delivers the length and the bytes that a peek hands out and
leaves the state that a release of the peeked descriptor leaves; on an empty queue neither changes
anything. So runs that take frames in the one way and in the other, between any other calls of the
driver, deliver the same frames and end in the same state.

**Proof sketch.** The two ways agree whenever the completion queue is in order (`RxQueueOk`), which
follows from conservation and which every call of the driver keeps. -/
theorem rxPaths_agree (hi : s.Initialised i) (hs : s.RxConserved i) :
    (∀ rxBuffers, RxPathsAgree s i rxBuffers) ∧ ∀ frames ops,
      Transition.run (Driver.pollStep i) (s, frames) ops =
        Transition.run (pairStep i) (s, frames) ops := by
  have h := hs.receives hi
  refine ⟨h.rxPathsAgree, fun frames ops => ?_⟩
  exact Transition.run_congr (fun _ op hr => hr.pollStep op) (fun _ op hr => hr.pollStep_eq op)
    (I := fun r => Receives r.1 i) h ops

end Agreement

/-- A driver with one device of 8 descriptors, whose RX queue is the given one. -/
def oneDevice (q : RxQueue) : DriverState :=
  { driverBoot with
    devices := Function.update driverBoot.devices 0
      { emptyDevice with driverOk := true, rxQueueSize := 8, rx := q }
    deviceCount := 1 }

/-- Two frames have arrived on a queue of 8 descriptors and wait in the completion queue. -/
theorem rxPaths_agree_twoFrames :
    ∃ rx, Transition.exec (rxStep 8) (rxInit 8) (receive 0 ++ receive 1 ++
        [.irq, .handler, .handler, .handler, .handler, .handler, .handler]) = some rx ∧
      rx.count = 2 ∧ ∀ ops, Transition.run (Driver.pollStep 0) (oneDevice rx.toRxQueue, []) ops =
        Transition.run (pairStep 0) (oneDevice rx.toRxQueue, []) ops := by
  have hsome : ((Transition.exec (rxStep 8) (rxInit 8) (receive 0 ++ receive 1 ++
      [.irq, .handler, .handler, .handler, .handler, .handler, .handler])).map
        fun rx => rx.count) = some 2 := by decide
  obtain ⟨rx, hrx, hcount⟩ := Option.map_eq_some_iff.mp hsome
  have hinv : RxInv 8 rx := rxInv_reachable (k := 3) rfl (by decide) ⟨_, hrx⟩
  exact ⟨rx, hrx, hcount, fun ops => (rxPaths_agree (s := oneDevice rx.toRxQueue) (i := 0)
    ⟨Nat.zero_lt_one, rfl⟩ ⟨rx, rfl, hinv⟩).2 [] ops⟩

end Driver
