import UcosArm64.Foundations.Ring
import UcosArm64.Foundations.Transition

set_option relaxedAutoImplicit false
set_option autoImplicit false

/-!
# The transmit side of `bsp/virtio_net.c`

The TX virtqueue of one device, and the three parties that work on it: a task that calls
`virtio_net_send_frame_dev`, the device, and `virtio_net_interrupt_handler`, which may interrupt a
call anywhere. One step of the system is one access of one party.

## Main definitions

* `Driver.TxQueue` — what the driver writes: descriptors, avail ring, buffers and batch count.
* `Driver.availableSlots`, `Driver.pollLoop` — how a call decides whether there is room.
* `Driver.TxState`, `Driver.TxAction`, `Driver.txStep` — the system and its steps.
* `Driver.InOrder`, `Driver.inOrderStep` — the system with a device that keeps the order.

## Design

A C array of which the first `n = tx_queue_size` elements are used is a function of the index, and
an address of a TX buffer is the number of the buffer. The device takes the avail entries in order,
in its own time reads the descriptor and the buffer of an entry that it took, and returns an entry
that it read; it numbers the entries in the order of taking them. The used ring itself is left out:
the driver only reads its index. So are cache maintenance and the console output, and the first
argument check: the device is an initialised one.

The state also records what the calls returned, what the device read, and which frames were made
available. No step depends on these records.
-/

namespace Driver

/-! ## Data -/

/-- `VIRTIO_NET_MAX_FRAME_SIZE` -/
def virtioNetMaxFrameSize : ℕ := 1518

/-- `VIRTIO_NET_TX_BATCH_SIZE` -/
def virtioNetTxBatchSize : UInt16 := 16

/-- `sizeof(struct virtio_net_hdr)` -/
def virtioNetHdrSize : ℕ := 12

/-- `struct vring_desc`; an address is the number of a TX buffer, and `none` is the null address. -/
structure VringDesc where
  addr : Option ℕ
  len : UInt32
  flags : UInt16
  next : UInt16

/-- The TX queue of a device, as far as the driver writes it: the descriptors, the avail ring, the
buffers, and the number of frames that the host has not been notified of. -/
structure TxQueue where
  desc : ℕ → VringDesc
  availRing : ℕ → UInt16
  availIdx : UInt16
  buffers : ℕ → ℕ → UInt8
  txBatchCount : UInt16

/-- `virtio_net_prepare_tx`, after `virtio_net_configure_queue` has cleared the rings. -/
def virtioNetPrepareTx : TxQueue where
  desc := fun _ => ⟨none, 0, 0, 0⟩
  availRing := fun _ => 0
  availIdx := 0
  buffers := fun _ _ => 0
  txBatchCount := 0

/-- The bytes that a descriptor stands for. -/
def TxQueue.readBuffer (q : TxQueue) (id : UInt16) : List UInt8 :=
  match (q.desc id.toNat).addr with
  | none => []
  | some buffer => (List.range (q.desc id.toNat).len.toNat).map (q.buffers buffer)

/-! ## Room in the queue -/

/-- `tx_queue_size - in_flight`, in 16-bit arithmetic. -/
def availableSlots (n : ℕ) (availIdx txLastUsed : UInt16) : UInt16 :=
  UInt16.ofNat n - (availIdx - txLastUsed)

/-- Where a call of `virtio_net_send_frame_dev` stands: before it stores the used index, or before
it counts the free slots; the same in the polling loop, and at its extra sample; then before it
computes the slot, clears the header, copies the frame, writes the descriptor, stores into the
avail ring, increments the avail index, or counts the frame. -/
inductive SendPc
  | idle
  | sample (frame : List UInt8)
  | size (frame : List UInt8)
  | pollSample (frame : List UInt8) (retries : ℕ)
  | pollSize (frame : List UInt8) (retries : ℕ)
  | againSample (frame : List UInt8) (retries : ℕ)
  | againSize (frame : List UInt8) (retries : ℕ)
  | slot (frame : List UInt8)
  | header (frame : List UInt8) (idx : ℕ)
  | payload (frame : List UInt8) (idx : ℕ)
  | describe (frame : List UInt8) (idx : ℕ)
  | enqueue (frame : List UInt8) (idx : ℕ)
  | bump (frame : List UInt8)
  | batch (frame : List UInt8)

/-- The test of the polling loop, and the test after it: `none` is "TX queue full". -/
def pollLoop (frame : List UInt8) (retries : ℕ) (available : UInt16) : Option SendPc :=
  if available < 4 ∧ retries < 100 then some (.pollSample frame retries)
  else if available < 2 then none
  else some (.slot frame)

/-! ## The system -/

/-- An avail entry that the device has taken: which one it is in the order of taking, and the
descriptor that it names. -/
structure Taken where
  number : ℕ
  id : UInt16
  deriving DecidableEq

/-- The state of the system. The device's part is the used index, its position in the avail ring,
the entries that it took and the ones that it has read and not returned, how many it took and
returned, and what it read. The driver's part is `tx_last_used`, the call in progress with the
queue as it was when the call started, the calls that returned with their arguments and values, the
frames made available, and how often QueueNotify was written. -/
structure TxState extends TxQueue where
  usedIdx : UInt16
  deviceAvail : UInt16
  taken : List Taken
  fetched : List Taken
  takes : ℕ
  completed : ℕ
  reads : List (List UInt8)
  txLastUsed : UInt16
  pc : SendPc
  before : TxQueue
  calls : List (Option (List UInt8) × ℤ)
  accepted : List (List UInt8)
  queueNotify : ℕ

/-- The state after `virtio_net_prepare_tx`. -/
def txInit : TxState where
  toTxQueue := virtioNetPrepareTx
  usedIdx := 0
  deviceAvail := 0
  taken := []
  fetched := []
  takes := 0
  completed := 0
  reads := []
  txLastUsed := 0
  pc := .idle
  before := virtioNetPrepareTx
  calls := []
  accepted := []
  queueNotify := 0

/-- The steps: a call with the bytes that it is given (`none` for `NULL`), the next step of the
call, three of the device, and the interrupt handler. -/
inductive TxAction
  | send (frame : Option (List UInt8))
  | call
  | take
  | read (e : Taken)
  | complete (e : Taken)
  | irq
  deriving DecidableEq

/-- The call ends. -/
def TxState.return (s : TxState) (frame : Option (List UInt8)) (value : ℤ) : TxState :=
  { s with pc := .idle, calls := s.calls ++ [(frame, value)] }

/-- The call goes on, or gives up. -/
def TxState.proceed (s : TxState) (frame : List UInt8) : Option SendPc → TxState
  | none => s.return frame (-1)
  | some pc => { s with pc := pc }

/-- The entry of `virtio_net_send_frame_dev`, with the check of its arguments. -/
def sendEntry (s : TxState) (frame : Option (List UInt8)) : TxState :=
  let s := { s with before := s.toTxQueue }
  match frame with
  | none => s.return none (-1)
  | some bytes =>
    if bytes.length = 0 ∨ bytes.length > virtioNetMaxFrameSize then s.return bytes (-1)
    else { s with pc := .sample bytes }

/-- The next step of `virtio_net_send_frame_dev`. -/
def sendStep (n : ℕ) (s : TxState) : Option TxState :=
  let available := availableSlots n s.availIdx s.txLastUsed
  match s.pc with
  | .idle => none
  | .sample frame => some { s with txLastUsed := s.usedIdx, pc := .size frame }
  | .size frame =>
    some (s.proceed frame
      (if available < 4 then pollLoop frame 0 available else some (.slot frame)))
  | .pollSample frame retries =>
    some { s with txLastUsed := s.usedIdx, pc := .pollSize frame retries }
  | .pollSize frame retries =>
    if available ≥ 4 then some { s with pc := .slot frame }
    else if (retries + 1) % 10 = 0 then some { s with pc := .againSample frame (retries + 1) }
    else some (s.proceed frame (pollLoop frame (retries + 1) available))
  | .againSample frame retries =>
    some { s with txLastUsed := s.usedIdx, pc := .againSize frame retries }
  | .againSize frame retries => some (s.proceed frame (pollLoop frame retries available))
  | .slot frame => some { s with pc := .header frame (s.availIdx.toNat % n) }
  | .header frame idx =>
    some { s with
      buffers := Function.update s.buffers idx
        fun k => if k < virtioNetHdrSize then 0 else s.buffers idx k
      pc := .payload frame idx }
  | .payload frame idx =>
    some { s with
      buffers := Function.update s.buffers idx
        fun k => if virtioNetHdrSize ≤ k ∧ k < virtioNetHdrSize + frame.length then
          frame.getD (k - virtioNetHdrSize) 0 else s.buffers idx k
      pc := .describe frame idx }
  | .describe frame idx =>
    some { s with
      desc := Function.update s.desc idx
        ⟨some idx, UInt32.ofNat (frame.length + virtioNetHdrSize), 0, 0⟩
      pc := .enqueue frame idx }
  | .enqueue frame idx =>
    some { s with
      availRing := Function.update s.availRing idx (UInt16.ofNat idx), pc := .bump frame }
  | .bump frame =>
    some { s with
      availIdx := s.availIdx + 1, accepted := s.accepted ++ [frame], pc := .batch frame }
  | .batch frame =>
    let count := s.txBatchCount + 1
    if count ≥ virtioNetTxBatchSize then
      some (TxState.return { s with txBatchCount := 0, queueNotify := s.queueNotify + 1 } frame 0)
    else some (TxState.return { s with txBatchCount := count } frame 0)

/-- A step of the device, or of `virtio_net_interrupt_handler` as far as it concerns the TX
queue. -/
def outsideStep (n : ℕ) (s : TxState) : TxAction → Option TxState
  | .take =>
    if s.deviceAvail = s.availIdx then none
    else some { s with
      taken := s.taken ++ [⟨s.takes, s.availRing (s.deviceAvail.toNat % n)⟩]
      deviceAvail := s.deviceAvail + 1
      takes := s.takes + 1 }
  | .read e =>
    if e ∈ s.taken then
      some { s with
        taken := s.taken.erase e
        fetched := s.fetched ++ [e]
        reads := s.reads ++ [s.readBuffer e.id] }
    else none
  | .complete e =>
    if e ∈ s.fetched then
      some { s with
        fetched := s.fetched.erase e
        usedIdx := s.usedIdx + 1
        completed := s.completed + 1 }
    else none
  | .irq => some { s with txLastUsed := s.usedIdx }
  | _ => none

/-- **One step of the system.** -/
def txStep (n : ℕ) (s : TxState) (a : TxAction) : Option TxState :=
  match a with
  | .send frame =>
    match s.pc with
    | .idle => some (sendEntry s frame)
    | _ => none
  | .call => sendStep n s
  | _ => outsideStep n s a

/-- The device reads and returns its entries in the order in which it took them. -/
def InOrder (s : TxState) : TxAction → Prop
  | .read e => s.taken.head? = some e
  | .complete e => s.fetched.head? = some e
  | _ => True

instance (s : TxState) : (a : TxAction) → Decidable (InOrder s a)
  | .read e => inferInstanceAs (Decidable (s.taken.head? = some e))
  | .complete e => inferInstanceAs (Decidable (s.fetched.head? = some e))
  | .send _ | .call | .take | .irq => isTrue trivial

/-- One step of the system with a device that keeps the order. -/
def inOrderStep (n : ℕ) (s : TxState) (a : TxAction) : Option TxState :=
  if InOrder s a then txStep n s a else none

/-! ## The steps as rules -/

/-- The frame of a call that has not yet found room. -/
def SendPc.choosing : SendPc → Option (List UInt8)
  | .sample frame | .size frame | .pollSample frame _ | .pollSize frame _ | .againSample frame _
  | .againSize frame _ => some frame
  | _ => none

/-- What a step of the system can do. A call that looks for room samples the used index, looks
again, finds room, or gives up. -/
inductive TxRule (n : ℕ) (s : TxState) : TxAction → TxState → Prop
  | refuse (frame : Option (List UInt8)) (hpc : s.pc = .idle) :
      TxRule n s (.send frame)
        { s with before := s.toTxQueue, calls := s.calls ++ [(frame, -1)] }
  | enter (frame : List UInt8) (hpc : s.pc = .idle) (hpos : frame.length ≠ 0)
      (hmax : frame.length ≤ virtioNetMaxFrameSize) :
      TxRule n s (.send (some frame)) { s with before := s.toTxQueue, pc := .sample frame }
  | sample (frame : List UInt8) (pc : SendPc) (hpc : s.pc.choosing = some frame)
      (hpc' : pc.choosing = some frame) :
      TxRule n s .call { s with txLastUsed := s.usedIdx, pc := pc }
  | again (frame : List UInt8) (pc : SendPc) (hpc : s.pc.choosing = some frame)
      (hpc' : pc.choosing = some frame) : TxRule n s .call { s with pc := pc }
  | room (frame : List UInt8) (hpc : s.pc.choosing = some frame)
      (hroom : 2 ≤ availableSlots n s.availIdx s.txLastUsed) :
      TxRule n s .call { s with pc := .slot frame }
  | full (frame : List UInt8) (hpc : s.pc.choosing = some frame) :
      TxRule n s .call { s with pc := .idle, calls := s.calls ++ [(some frame, -1)] }
  | slot (frame : List UInt8) (hpc : s.pc = .slot frame) :
      TxRule n s .call { s with pc := .header frame (s.availIdx.toNat % n) }
  | header (frame : List UInt8) (idx : ℕ) (hpc : s.pc = .header frame idx) :
      TxRule n s .call
        { s with
          buffers := Function.update s.buffers idx
            fun k => if k < virtioNetHdrSize then 0 else s.buffers idx k
          pc := .payload frame idx }
  | payload (frame : List UInt8) (idx : ℕ) (hpc : s.pc = .payload frame idx) :
      TxRule n s .call
        { s with
          buffers := Function.update s.buffers idx
            fun k => if virtioNetHdrSize ≤ k ∧ k < virtioNetHdrSize + frame.length then
              frame.getD (k - virtioNetHdrSize) 0 else s.buffers idx k
          pc := .describe frame idx }
  | describe (frame : List UInt8) (idx : ℕ) (hpc : s.pc = .describe frame idx) :
      TxRule n s .call
        { s with
          desc := Function.update s.desc idx
            ⟨some idx, UInt32.ofNat (frame.length + virtioNetHdrSize), 0, 0⟩
          pc := .enqueue frame idx }
  | enqueue (frame : List UInt8) (idx : ℕ) (hpc : s.pc = .enqueue frame idx) :
      TxRule n s .call
        { s with
          availRing := Function.update s.availRing idx (UInt16.ofNat idx)
          pc := .bump frame }
  | bump (frame : List UInt8) (hpc : s.pc = .bump frame) :
      TxRule n s .call
        { s with
          availIdx := s.availIdx + 1
          accepted := s.accepted ++ [frame]
          pc := .batch frame }
  | batch (frame : List UInt8) (count : UInt16) (notify : ℕ) (hpc : s.pc = .batch frame) :
      TxRule n s .call
        { s with
          txBatchCount := count
          queueNotify := notify
          pc := .idle
          calls := s.calls ++ [(some frame, 0)] }
  | take (hne : s.deviceAvail ≠ s.availIdx) :
      TxRule n s .take
        { s with
          taken := s.taken ++ [⟨s.takes, s.availRing (s.deviceAvail.toNat % n)⟩]
          deviceAvail := s.deviceAvail + 1
          takes := s.takes + 1 }
  | read (e : Taken) (he : e ∈ s.taken) :
      TxRule n s (.read e)
        { s with
          taken := s.taken.erase e
          fetched := s.fetched ++ [e]
          reads := s.reads ++ [s.readBuffer e.id] }
  | complete (e : Taken) (he : e ∈ s.fetched) :
      TxRule n s (.complete e)
        { s with
          fetched := s.fetched.erase e
          usedIdx := s.usedIdx + 1
          completed := s.completed + 1 }
  | irq : TxRule n s .irq { s with txLastUsed := s.usedIdx }

/-- The entry of a call follows the rules. -/
lemma txRule_of_sendEntry {n : ℕ} {s : TxState} (frame : Option (List UInt8)) (hpc : s.pc = .idle) :
    TxRule n s (.send frame) (sendEntry s frame) := by
  have hrefuse : TxRule n s (.send frame)
      (TxState.return { s with before := s.toTxQueue } frame (-1)) := by
    rw [TxState.return, ← hpc]
    exact .refuse frame hpc
  cases frame with
  | none => exact hrefuse
  | some bytes =>
    unfold sendEntry
    simp only
    split_ifs with hlen
    · exact hrefuse
    · obtain ⟨hpos, hmax⟩ := not_or.mp hlen
      exact .enter bytes hpc hpos (not_lt.mp hmax)

/-- The loop goes on, finds room, or gives up. -/
lemma txRule_of_pollLoop {n : ℕ} {s : TxState} {frame : List UInt8}
    (hpc : s.pc.choosing = some frame) (retries : ℕ) :
    TxRule n s .call (s.proceed frame
      (pollLoop frame retries (availableSlots n s.availIdx s.txLastUsed))) := by
  unfold pollLoop
  split_ifs with hloop hfull
  · exact .again frame _ hpc rfl
  · exact .full frame hpc
  · exact .room frame hpc (UInt16.not_lt.mp hfull)

/-- The steps of a call follow the rules.

**Proof sketch.** One case per place of the call, each with its rule. -/
lemma txRule_of_sendStep {n : ℕ} {s t : TxState} (h : sendStep n s = some t) :
    TxRule n s .call t := by
  have hfour : availableSlots n s.availIdx s.txLastUsed ≥ 4 →
      2 ≤ availableSlots n s.availIdx s.txLastUsed :=
        UInt16.le_trans (show (2 : UInt16) ≤ 4 by decide)
  unfold sendStep at h
  cases hpc : s.pc with
  | idle => simp [hpc] at h
  | sample frame =>
    simp only [hpc, Option.some.injEq] at h
    subst h
    exact .sample frame _ (by rw [hpc]; rfl) rfl
  | size frame =>
    have hc : s.pc.choosing = some frame := by rw [hpc]; rfl
    simp only [hpc, Option.some.injEq] at h
    subst h
    split_ifs with hlt
    · exact txRule_of_pollLoop hc 0
    · exact .room frame hc (hfour (UInt16.not_lt.mp hlt))
  | pollSample frame retries =>
    simp only [hpc, Option.some.injEq] at h
    subst h
    exact .sample frame _ (by rw [hpc]; rfl) rfl
  | pollSize frame retries =>
    have hc : s.pc.choosing = some frame := by rw [hpc]; rfl
    simp only [hpc] at h
    split_ifs at h with hge hten
    · cases h
      exact .room frame hc (hfour hge)
    · cases h
      exact .again frame _ hc rfl
    · cases h
      exact txRule_of_pollLoop hc (retries + 1)
  | againSample frame retries =>
    simp only [hpc, Option.some.injEq] at h
    subst h
    exact .sample frame _ (by rw [hpc]; rfl) rfl
  | againSize frame retries =>
    simp only [hpc, Option.some.injEq] at h
    subst h
    exact txRule_of_pollLoop (by rw [hpc]; rfl) retries
  | slot frame =>
    simp only [hpc, Option.some.injEq] at h
    subst h
    exact .slot frame hpc
  | header frame idx =>
    simp only [hpc, Option.some.injEq] at h
    subst h
    exact .header frame idx hpc
  | payload frame idx =>
    simp only [hpc, Option.some.injEq] at h
    subst h
    exact .payload frame idx hpc
  | describe frame idx =>
    simp only [hpc, Option.some.injEq] at h
    subst h
    exact .describe frame idx hpc
  | enqueue frame idx =>
    simp only [hpc, Option.some.injEq] at h
    subst h
    exact .enqueue frame idx hpc
  | bump frame =>
    simp only [hpc, Option.some.injEq] at h
    subst h
    exact .bump frame hpc
  | batch frame =>
    simp only [hpc] at h
    split_ifs at h
    · cases h
      exact .batch frame 0 (s.queueNotify + 1) hpc
    · cases h
      exact .batch frame (s.txBatchCount + 1) s.queueNotify hpc

/-- **Every step follows the rules.** The invariants of the system are proved rule by rule. -/
theorem txRule_of_txStep {n : ℕ} {s t : TxState} {a : TxAction} (h : txStep n s a = some t) :
    TxRule n s a t := by
  cases a with
  | send frame =>
    cases hpc : s.pc with
    | idle =>
      simp only [txStep, hpc, Option.some.injEq] at h
      subst h
      exact txRule_of_sendEntry frame hpc
    | _ => simp [txStep, hpc] at h
  | call => exact txRule_of_sendStep h
  | take =>
    simp only [txStep, outsideStep] at h
    split_ifs at h with hne
    cases h
    exact .take hne
  | read e =>
    simp only [txStep, outsideStep] at h
    split_ifs at h with he
    cases h
    exact .read e he
  | complete e =>
    simp only [txStep, outsideStep] at h
    split_ifs at h with he
    cases h
    exact .complete e he
  | irq =>
    simp only [txStep, outsideStep, Option.some.injEq] at h
    subst h
    exact .irq

/-- A step with a device that keeps the order. -/
lemma inOrderStep_eq_some {n : ℕ} {s t : TxState} {a : TxAction} (h : inOrderStep n s a = some t) :
    InOrder s a ∧ txStep n s a = some t := by
  unfold inOrderStep at h
  split_ifs at h with ho
  exact ⟨ho, h⟩

end Driver
