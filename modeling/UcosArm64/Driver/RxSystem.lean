import UcosArm64.Foundations.Ring
import UcosArm64.Foundations.Transition

set_option relaxedAutoImplicit false
set_option autoImplicit false

/-!
# The receive side of `bsp/virtio_net.c`

The RX virtqueue of one device, the completion queue between the interrupt handler and the RX task,
and the three parties that work on them: the device, `virtio_net_interrupt_handler` and a task that
calls `virtio_net_peek_rx_buffer_dev`, `virtio_net_release_rx_buffer_dev` and
`virtio_net_poll_frame_dev`. One step of the system is one access of one party.

## Main definitions

* `Driver.RxQueue` — the rings, the completion queue and their indices.
* `Driver.virtioNetPrepareRx`, `Driver.handleRxElement`, `Driver.dequeue` — what the driver does to
  them.
* `Driver.RxState`, `Driver.RxAction`, `Driver.rxStep` — the system and its steps.

## Design

A C array of which the first `n = rx_queue_size` elements are used is a function of the index. The
16-bit indices of the rings are `UInt16`; the indices of the completion queue are below `n` and are
naturals. Each party has a program counter, and a step of the handler or the task is between two
accesses to shared data; a critical section is one step, and the task takes no step while the
handler runs. The device is any device that consumes the avail ring in order and returns what it
consumed in any order: it writes a used element, advances the used index, and then sets bit 0 of
InterruptStatus. It may set bits of InterruptStatus for other reasons at any time (bit 0 for a
transmitted frame, bit 1 for a change of its configuration).

The contents of the buffers, cache maintenance, the TX queue and the console output are left out,
and so are the argument checks of the functions: the device is an initialised one.
-/

namespace Driver

open Ring

/-! ## Data -/

/-- `struct vring_used_elem` -/
structure VringUsedElem where
  id : UInt32
  len : UInt32

/-- `struct rx_completion_entry` -/
structure RxCompletionEntry where
  descId : UInt16
  totalLen : UInt32

/-- The RX queue of a device: `avail`, `used`, `rx_last_used`, and the completion queue
`g_rx_completions` with its head, tail and count. -/
structure RxQueue where
  availRing : ℕ → UInt16
  availIdx : UInt16
  usedRing : ℕ → VringUsedElem
  usedIdx : UInt16
  rxLastUsed : UInt16
  completions : ℕ → RxCompletionEntry
  head : ℕ
  tail : ℕ
  count : ℕ

/-- `virtio_net_prepare_rx`: every descriptor is in the avail ring. -/
def virtioNetPrepareRx (n : ℕ) : RxQueue where
  availRing := fun i => if i < n then UInt16.ofNat i else 0
  availIdx := UInt16.ofNat n
  usedRing := fun _ => ⟨0, 0⟩
  usedIdx := 0
  rxLastUsed := 0
  completions := fun _ => ⟨0, 0⟩
  head := 0
  tail := 0
  count := 0

/-! ## What the driver does to the queue -/

/-- The locals `notify_device` and `enqueued` of `virtio_net_handle_rx_used`. -/
structure ScanFlags where
  notifyDevice : Bool
  enqueued : Bool
  deriving DecidableEq

/-- One iteration of the loop of `virtio_net_handle_rx_used`, past its first test. -/
def handleRxElement (n : ℕ) (q : RxQueue) (flags : ScanFlags) : RxQueue × ScanFlags :=
  let usedIndex := q.rxLastUsed.toNat % n
  let elem := q.usedRing usedIndex
  let descId := elem.id.toUInt16
  if descId.toNat ≥ n then ({ q with rxLastUsed := q.rxLastUsed + 1 }, flags)
  else if q.count ≥ n then
    -- "RX completion queue full": the descriptor goes back to the device
    let slot := q.availIdx.toNat % n
    ({ q with
      availRing := Function.update q.availRing slot descId
      availIdx := q.availIdx + 1
      rxLastUsed := q.rxLastUsed + 1 }, { flags with notifyDevice := true })
  else
    ({ q with
      completions := Function.update q.completions q.tail ⟨descId, elem.len⟩
      tail := (q.tail + 1) % n
      count := q.count + 1
      rxLastUsed := q.rxLastUsed + 1 }, { flags with enqueued := true })

/-- The critical sections of `virtio_net_poll_frame_dev` and `virtio_net_release_rx_buffer_dev`
remove the head entry. -/
def dequeue (n : ℕ) (q : RxQueue) : RxQueue :=
  { q with head := (q.head + 1) % n, count := q.count - 1 }

/-- What `virtio_net_peek_rx_buffer_dev` reads in its critical section. -/
def peekRx (q : RxQueue) : Option RxCompletionEntry :=
  if q.count = 0 then none else some (q.completions q.head)

/-! ## The system -/

/-- Where the device stands: it has written a used element, or has advanced the used index and not
yet set the interrupt bit. -/
inductive DevicePc
  | idle
  | written (id : UInt16)
  | published
  deriving DecidableEq

/-- Where `virtio_net_interrupt_handler` stands: before it reads InterruptStatus, before the test of
its loop, before the loop's body, or before it writes InterruptAck. -/
inductive HandlerPc
  | idle
  | entered
  | scan (status : UInt32) (flags : ScanFlags)
  | element (status : UInt32) (flags : ScanFlags)
  | acknowledge (status : UInt32)
  deriving DecidableEq

/-- Where the task stands in the second half of `virtio_net_poll_frame_dev` or
`virtio_net_release_rx_buffer_dev`: before it reads the avail index for the slot, before it stores
into the slot, before it loads the avail index to increment it, or before it stores that. -/
inductive TaskPc
  | idle
  | dequeued (id : UInt16)
  | slot (id : UInt16) (slot : ℕ)
  | stored (id : UInt16)
  | loaded (id : UInt16) (idx : UInt16)
  deriving DecidableEq

/-- The state of the system: the queue, InterruptStatus, the device's position in the avail ring and
the descriptors it holds, the three program counters, and how often the handler wrote QueueNotify
and posted the RX semaphore. -/
structure RxState extends RxQueue where
  interruptStatus : UInt32
  deviceAvail : UInt16
  held : List UInt16
  device : DevicePc
  handler : HandlerPc
  task : TaskPc
  queueNotify : ℕ
  rxSemPosts : ℕ

/-- The state after `virtio_net_prepare_rx`. -/
def rxInit (n : ℕ) : RxState where
  toRxQueue := virtioNetPrepareRx n
  interruptStatus := 0
  deviceAvail := 0
  held := []
  device := .idle
  handler := .idle
  task := .idle
  queueNotify := 0
  rxSemPosts := 0

/-- The steps: five of the device, the entry of the handler, its next step, the calls of the task,
and the next step of a call. -/
inductive RxAction
  | take
  | write (id : UInt16) (len : UInt32)
  | publish
  | raise
  | other (bits : UInt32)
  | irq
  | handler
  | peek
  | poll
  | release (id : UInt16)
  | task
  deriving DecidableEq

/-- A step of the device. -/
def deviceStep (n : ℕ) (s : RxState) : RxAction → Option RxState
  | .take =>
    if s.deviceAvail = s.availIdx then none
    else some { s with
      held := s.availRing (s.deviceAvail.toNat % n) :: s.held
      deviceAvail := s.deviceAvail + 1 }
  | .write id len =>
    if s.device = .idle ∧ id ∈ s.held then
      some { s with
        usedRing := Function.update s.usedRing (s.usedIdx.toNat % n) ⟨id.toUInt32, len⟩
        held := s.held.erase id
        device := .written id }
    else none
  | .publish =>
    match s.device with
    | .written _ => some { s with usedIdx := s.usedIdx + 1, device := .published }
    | _ => none
  | .raise =>
    match s.device with
    | .published => some { s with interruptStatus := s.interruptStatus ||| 1, device := .idle }
    | _ => none
  | .other bits => some { s with interruptStatus := s.interruptStatus ||| bits }
  | _ => none

/-- The next step of `virtio_net_interrupt_handler`. Writing InterruptAck clears the bits
written. -/
def handlerStep (n : ℕ) (s : RxState) : Option RxState :=
  match s.handler with
  | .idle => none
  | .entered =>
    if s.interruptStatus &&& 1 ≠ 0 then
      some { s with handler := .scan s.interruptStatus ⟨false, false⟩ }
    else some { s with handler := .acknowledge s.interruptStatus }
  | .scan status flags =>
    if s.rxLastUsed = s.usedIdx then
      some { s with
        handler := .acknowledge status
        queueNotify := s.queueNotify + flags.notifyDevice.toNat
        rxSemPosts := s.rxSemPosts + flags.enqueued.toNat }
    else some { s with handler := .element status flags }
  | .element status flags =>
    let r := handleRxElement n s.toRxQueue flags
    some { s with toRxQueue := r.1, handler := .scan status r.2 }
  | .acknowledge status =>
    some { s with interruptStatus := s.interruptStatus &&& ~~~status, handler := .idle }

/-- The critical section of a call of the task. -/
def callStep (n : ℕ) (s : RxState) : RxAction → Option RxState
  | .peek => some s
  | .poll =>
    if s.count = 0 then some s
    else
      let descId := (s.completions s.head).descId
      -- a descriptor out of range is dropped
      some { s with
        toRxQueue := dequeue n s.toRxQueue
        task := if descId.toNat ≥ n then .idle else .dequeued descId }
  | .release id =>
    if s.count = 0 then some s
    else if (s.completions s.head).descId ≠ id then some s
    else some { s with toRxQueue := dequeue n s.toRxQueue, task := .dequeued id }
  | _ => none

/-- The next step of a call of the task. -/
def taskStep (n : ℕ) (s : RxState) : Option RxState :=
  match s.task with
  | .idle => none
  | .dequeued id => some { s with task := .slot id (s.availIdx.toNat % n) }
  | .slot id slot =>
    some { s with availRing := Function.update s.availRing slot id, task := .stored id }
  | .stored id => some { s with task := .loaded id s.availIdx }
  | .loaded _ idx => some { s with availIdx := idx + 1, task := .idle }

/-- **One step of the system.** -/
def rxStep (n : ℕ) (s : RxState) (a : RxAction) : Option RxState :=
  match a with
  | .irq => if s.handler = .idle then some { s with handler := .entered } else none
  | .handler => handlerStep n s
  | .task => if s.handler = .idle then taskStep n s else none
  | .peek | .poll | .release _ =>
    if s.handler = .idle ∧ s.task = .idle then callStep n s a else none
  | _ => deviceStep n s a

/-- The device receives a frame: it takes a descriptor, writes a used element for it, advances the
used index and sets the interrupt bit. -/
def receive (id : UInt16) : List RxAction := [.take, .write id 72, .publish, .raise]

/-- The handler is entered, reads InterruptStatus, and takes one element off the used ring, up to
its last comparison. -/
def scanOne : List RxAction := [.irq, .handler, .handler, .handler, .handler]

/-! ## The steps as rules -/

/-- What a step of the system can do. -/
inductive RxRule (n : ℕ) (s : RxState) : RxAction → RxState → Prop
  | take (h : s.deviceAvail ≠ s.availIdx) : RxRule n s .take
      { s with
        held := s.availRing (s.deviceAvail.toNat % n) :: s.held
        deviceAvail := s.deviceAvail + 1 }
  | write (id : UInt16) (len : UInt32) (hdev : s.device = .idle) (hid : id ∈ s.held) :
      RxRule n s (.write id len)
        { s with
          usedRing := Function.update s.usedRing (s.usedIdx.toNat % n) ⟨id.toUInt32, len⟩
          held := s.held.erase id
          device := .written id }
  | publish (id : UInt16) (hdev : s.device = .written id) :
      RxRule n s .publish { s with usedIdx := s.usedIdx + 1, device := .published }
  | raise (hdev : s.device = .published) :
      RxRule n s .raise { s with interruptStatus := s.interruptStatus ||| 1, device := .idle }
  | other (bits : UInt32) :
      RxRule n s (.other bits) { s with interruptStatus := s.interruptStatus ||| bits }
  | irq (hh : s.handler = .idle) : RxRule n s .irq { s with handler := .entered }
  | readUsed (hh : s.handler = .entered) (hbit : s.interruptStatus &&& 1 ≠ 0) :
      RxRule n s .handler { s with handler := .scan s.interruptStatus ⟨false, false⟩ }
  | readOther (hh : s.handler = .entered) (hbit : s.interruptStatus &&& 1 = 0) :
      RxRule n s .handler { s with handler := .acknowledge s.interruptStatus }
  | leave (status : UInt32) (flags : ScanFlags) (hh : s.handler = .scan status flags)
      (hempty : s.rxLastUsed = s.usedIdx) :
      RxRule n s .handler
        { s with
          handler := .acknowledge status
          queueNotify := s.queueNotify + flags.notifyDevice.toNat
          rxSemPosts := s.rxSemPosts + flags.enqueued.toNat }
  | loop (status : UInt32) (flags : ScanFlags) (hh : s.handler = .scan status flags)
      (hmore : s.rxLastUsed ≠ s.usedIdx) :
      RxRule n s .handler { s with handler := .element status flags }
  | element (status : UInt32) (flags : ScanFlags) (hh : s.handler = .element status flags) :
      RxRule n s .handler
        { s with
          toRxQueue := (handleRxElement n s.toRxQueue flags).1
          handler := .scan status (handleRxElement n s.toRxQueue flags).2 }
  | acknowledge (status : UInt32) (hh : s.handler = .acknowledge status) :
      RxRule n s .handler
        { s with interruptStatus := s.interruptStatus &&& ~~~status, handler := .idle }
  | stay (a : RxAction) (hh : s.handler = .idle) (ht : s.task = .idle) : RxRule n s a s
  | drop (hh : s.handler = .idle) (ht : s.task = .idle) (hcount : s.count ≠ 0)
      (hid : (s.completions s.head).descId.toNat ≥ n) :
      RxRule n s .poll { s with toRxQueue := dequeue n s.toRxQueue, task := .idle }
  | poll (hh : s.handler = .idle) (ht : s.task = .idle) (hcount : s.count ≠ 0) :
      RxRule n s .poll
        { s with
          toRxQueue := dequeue n s.toRxQueue
          task := .dequeued (s.completions s.head).descId }
  | release (id : UInt16) (hh : s.handler = .idle) (ht : s.task = .idle) (hcount : s.count ≠ 0)
      (hid : (s.completions s.head).descId = id) :
      RxRule n s (.release id)
        { s with toRxQueue := dequeue n s.toRxQueue, task := .dequeued id }
  | slot (id : UInt16) (hh : s.handler = .idle) (ht : s.task = .dequeued id) :
      RxRule n s .task { s with task := .slot id (s.availIdx.toNat % n) }
  | store (id : UInt16) (slot : ℕ) (hh : s.handler = .idle) (ht : s.task = .slot id slot) :
      RxRule n s .task
        { s with availRing := Function.update s.availRing slot id, task := .stored id }
  | load (id : UInt16) (hh : s.handler = .idle) (ht : s.task = .stored id) :
      RxRule n s .task { s with task := .loaded id s.availIdx }
  | bump (id : UInt16) (idx : UInt16) (hh : s.handler = .idle) (ht : s.task = .loaded id idx) :
      RxRule n s .task { s with availIdx := idx + 1, task := .idle }

/-- The steps of the device follow the rules. -/
lemma rxRule_of_deviceStep {n : ℕ} {s t : RxState} {a : RxAction} (h : deviceStep n s a = some t) :
    RxRule n s a t := by
  unfold deviceStep at h
  cases a with
  | take =>
    simp only at h
    split_ifs at h with hne
    cases h
    exact .take hne
  | write id len =>
    simp only at h
    split_ifs at h with hc
    cases h
    exact .write id len hc.1 hc.2
  | publish =>
    cases hd : s.device with
    | written id =>
      simp only [hd, Option.some.injEq] at h
      subst h
      exact .publish id hd
    | idle => simp [hd] at h
    | published => simp [hd] at h
  | raise =>
    cases hd : s.device with
    | published =>
      simp only [hd, Option.some.injEq] at h
      subst h
      exact .raise hd
    | idle => simp [hd] at h
    | written id => simp [hd] at h
  | other bits =>
    simp only [Option.some.injEq] at h
    subst h
    exact .other bits
  | _ => simp at h

/-- The steps of the handler follow the rules. -/
lemma rxRule_of_handlerStep {n : ℕ} {s t : RxState} (h : handlerStep n s = some t) :
    RxRule n s .handler t := by
  cases hh : s.handler with
  | idle => simp [handlerStep, hh] at h
  | entered =>
    simp only [handlerStep, hh] at h
    split_ifs at h with hbit
    · cases h
      exact .readUsed hh hbit
    · cases h
      exact .readOther hh (not_not.mp hbit)
  | scan status flags =>
    simp only [handlerStep, hh] at h
    split_ifs at h with hempty
    · cases h
      exact .leave status flags hh hempty
    · cases h
      exact .loop status flags hh hempty
  | element status flags =>
    simp only [handlerStep, hh, Option.some.injEq] at h
    subst h
    exact .element status flags hh
  | acknowledge status =>
    simp only [handlerStep, hh, Option.some.injEq] at h
    subst h
    exact .acknowledge status hh

/-- The calls of the task follow the rules. -/
lemma rxRule_of_callStep {n : ℕ} {s t : RxState} {a : RxAction} (hh : s.handler = .idle)
    (ht : s.task = .idle) (h : callStep n s a = some t) : RxRule n s a t := by
  cases a with
  | peek =>
    simp only [callStep, Option.some.injEq] at h
    subst h
    exact .stay .peek hh ht
  | poll =>
    simp only [callStep] at h
    split_ifs at h with hcount hid
    · cases h
      exact .stay .poll hh ht
    · cases h
      exact .drop hh ht hcount hid
    · cases h
      exact .poll hh ht hcount
  | release id =>
    simp only [callStep] at h
    split_ifs at h with hcount hid
    · cases h
      exact .stay (.release id) hh ht
    · cases h
      exact .stay (.release id) hh ht
    · cases h
      exact .release id hh ht hcount (not_not.mp hid)
  | _ => simp [callStep] at h

/-- The second halves of the calls follow the rules. -/
lemma rxRule_of_taskStep {n : ℕ} {s t : RxState} (hh : s.handler = .idle)
    (h : taskStep n s = some t) : RxRule n s .task t := by
  cases ht : s.task with
  | idle => simp [taskStep, ht] at h
  | dequeued id =>
    simp only [taskStep, ht, Option.some.injEq] at h
    subst h
    exact .slot id hh ht
  | slot id slot =>
    simp only [taskStep, ht, Option.some.injEq] at h
    subst h
    exact .store id slot hh ht
  | stored id =>
    simp only [taskStep, ht, Option.some.injEq] at h
    subst h
    exact .load id hh ht
  | loaded id idx =>
    simp only [taskStep, ht, Option.some.injEq] at h
    subst h
    exact .bump id idx hh ht

/-- **Every step follows the rules.** The invariants of the system are proved rule by rule. -/
theorem rxRule_of_rxStep {n : ℕ} {s t : RxState} {a : RxAction} (h : rxStep n s a = some t) :
    RxRule n s a t := by
  cases a with
  | irq =>
    simp only [rxStep] at h
    split_ifs at h with hh
    cases h
    exact .irq hh
  | handler => exact rxRule_of_handlerStep h
  | task =>
    simp only [rxStep] at h
    split_ifs at h with hh
    exact rxRule_of_taskStep hh h
  | peek =>
    simp only [rxStep] at h
    split_ifs at h with hc
    exact rxRule_of_callStep hc.1 hc.2 h
  | poll =>
    simp only [rxStep] at h
    split_ifs at h with hc
    exact rxRule_of_callStep hc.1 hc.2 h
  | release id =>
    simp only [rxStep] at h
    split_ifs at h with hc
    exact rxRule_of_callStep hc.1 hc.2 h
  | take => exact rxRule_of_deviceStep h
  | write id len => exact rxRule_of_deviceStep h
  | publish => exact rxRule_of_deviceStep h
  | raise => exact rxRule_of_deviceStep h
  | other bits => exact rxRule_of_deviceStep h

end Driver
