import Mathlib.Data.List.TakeWhile
import UcosArm64.Driver.RxPaths
import UcosArm64.Gateway.DeviceGuards

set_option relaxedAutoImplicit false
set_option autoImplicit false

/-!
# Draining the completion queue

The inner loop of `net_rx_task`: while completions are pending it peeks at the head, processes the
frame and releases the descriptor. A head completion that is no longer than the virtio header makes
the loop end: its descriptor is not released, and everything behind it stays in the queue.

## Main definitions

* `Gateway.RxLoopState`, `Gateway.netRxBody`, `Gateway.netRxLoop` — the inner loop.
* `Gateway.Drains` — the loop terminates with the queue empty and all frames processed.

## Main results

* `Gateway.netRxLoop_isSome` — the loop terminates on every queue.
* `Gateway.netRxLoop_spec` — what it has done then.
* `Gateway.drains_iff` — it drains the queue exactly when every completion is longer than the
  header.
* `Gateway.not_drains_shortHead` — a completion of 12 bytes blocks the frame behind it.

## Design

The loop is that of a task whose interface has an initialised device, and no interrupt comes while
it runs. The frames that the processing sends go to the driver. The buffers are those of the
device, from the end of the virtio header on; the processing rewrites them in place.
-/

namespace Gateway

open Driver (DriverState Hardware RxQueue RxCompletionEntry virtioNetHasPendingRxDev
  virtioNetPeekRxBufferDev virtioNetReleaseRxBufferDev virtioNetSendFrameDev
    virtioNetHdrSize rxPayloadLen
  repostRx dequeue)

/-! ## The loop -/

/-- What the loop depends on and does not change: the hardware, the interface of the task, the
devices of the interfaces, and what the `k`-th processing of a frame reads from its
surroundings. -/
structure RxLoopConfig where
  hw : Hardware
  iface : IfId
  ifDev : IfId → Option ℕ
  env : ℕ → Env

/-- The driver, the static data of frame processing, the frames in the buffers of the device, and
the calls of `net_demo_process_frame` so far, each with the descriptor and the length of its
frame. -/
structure RxLoopState where
  driver : DriverState
  net : NetState
  rxBuffers : UInt16 → Frame
  calls : List (UInt16 × ℕ)

/-- A frame that the processing hands to a device. -/
def sendEvent (x : RxLoopConfig) (driver : DriverState) : NetEvent → DriverState
  | .tx egress f length =>
    (virtioNetSendFrameDev x.hw driver (x.ifDev egress) (some ((List.range length).map f))).2
  | .assigned .. => driver

/-- The body of the loop for a frame that is not empty. -/
def netRxBody (x : RxLoopConfig) (s : RxLoopState) (descId : UInt16) (len : ℕ) : RxLoopState :=
  let r := netDemoProcessFrame (x.env s.calls.length) s.net x.iface (s.rxBuffers descId) len
  let driver := r.1.log.foldl (sendEvent x) s.driver
  { driver := virtioNetReleaseRxBufferDev driver (x.ifDev x.iface) descId
    net := r.1.net
    rxBuffers := Function.update s.rxBuffers descId r.1.frame
    calls := s.calls ++ [(descId, len)] }

/-- The inner loop of `net_rx_task`, if it ends within the given number of tests. -/
def netRxLoop (x : RxLoopConfig) : ℕ → RxLoopState → Option RxLoopState
  | 0, _ => none
  | fuel + 1, s =>
    if virtioNetHasPendingRxDev s.driver (x.ifDev x.iface) then
      match virtioNetPeekRxBufferDev s.driver (x.ifDev x.iface) true with
      | some (descId, len) =>
        if len > 0 then netRxLoop x fuel (netRxBody x s descId len) else some s
      | none => some s
    else some s

/-! ## What it is for -/

/-- A call of `net_demo_process_frame` for an entry. -/
def rxCall (e : RxCompletionEntry) : UInt16 × ℕ := (e.descId, rxPayloadLen e.totalLen)

/-- The entry has a payload. -/
def hasPayload (e : RxCompletionEntry) : Bool := rxPayloadLen e.totalLen > 0

/-- The descriptors of the entries are given back one after the other. -/
def repostAll (n : ℕ) (q : RxQueue) (es : List RxCompletionEntry) : RxQueue :=
  es.foldl (fun q e => repostRx n q e.descId) q

/-- From `s` to `t` the queue of the slot `i` has been emptied: each frame with a payload has been
processed once, in order, and each descriptor has been stored once into the avail ring. If the
slots of the ring follow each other through the wrap of the index, the descriptors stand there in
order. -/
structure Drained (i : ℕ) (s t : RxLoopState) : Prop where
  count : (t.driver.devices i).rx.count = 0
  calls : t.calls = s.calls ++
    (((s.driver.devices i).rx.pending (s.driver.devices i).rxQueueSize.toNat).filter
      hasPayload).map rxCall
  avail : let n := (s.driver.devices i).rxQueueSize.toNat
    let q := repostAll n (s.driver.devices i).rx ((s.driver.devices i).rx.pending n)
    (t.driver.devices i).rx.availRing = q.availRing ∧ (t.driver.devices i).rx.availIdx = q.availIdx
  returned : let n := (s.driver.devices i).rxQueueSize.toNat
    n ∣ 65536 → Ring.between n (t.driver.devices i).rx.availRing (s.driver.devices i).rx.availIdx
      (t.driver.devices i).rx.availIdx =
        ((s.driver.devices i).rx.pending n).map RxCompletionEntry.descId

/-- The loop of the task whose interface has the slot `i` terminates with its queue drained. -/
def Drains (x : RxLoopConfig) (i : ℕ) (s : RxLoopState) : Prop :=
  ∃ fuel t, netRxLoop x fuel s = some t ∧ Drained i s t

/-- The loop can process the entry: it names a descriptor of the queue, and is longer than the
virtio header. -/
def Processable (n : ℕ) (e : RxCompletionEntry) : Prop :=
  e.descId.toNat < n ∧ virtioNetHdrSize < e.totalLen.toNat

instance (n : ℕ) (e : RxCompletionEntry) : Decidable (Processable n e) :=
  inferInstanceAs (Decidable (_ ∧ _))

/-- The payload is what follows the header. -/
lemma rxPayloadLen_pos_iff (totalLen : UInt32) :
    rxPayloadLen totalLen > 0 ↔ virtioNetHdrSize < totalLen.toNat := by
  unfold rxPayloadLen
  split_ifs with h
  · simp only [Driver.virtioNetMaxFrameSize, gt_iff_lt, h, iff_true, lt_min_iff]
    omega
  · simp [h]

/-- The interface of the task has the initialised slot `i`, and the completion queue is a ring of
at most as many entries as the RX queue has. -/
structure RxLoopOk (x : RxLoopConfig) (i : ℕ) (s : RxLoopState) : Prop where
  dev : x.ifDev x.iface = some i
  initialised : s.driver.Initialised i
  head : (s.driver.devices i).rx.head < (s.driver.devices i).rxQueueSize.toNat
  count : (s.driver.devices i).rx.count ≤ (s.driver.devices i).rxQueueSize.toNat

/-! ## Giving descriptors back -/

section Repost

variable {n : ℕ} {q q' : RxQueue}

/-- The first descriptor goes back, and then the others. -/
lemma repostAll_cons (n : ℕ) (q : RxQueue) (e : RxCompletionEntry) (es : List RxCompletionEntry) :
    repostAll n q (e :: es) = repostAll n (repostRx n q e.descId) es := rfl

/-- The avail ring after that depends on the avail ring before. -/
lemma repostAll_congr (hring : q.availRing = q'.availRing) (hidx : q.availIdx = q'.availIdx)
    (es : List RxCompletionEntry) :
    (repostAll n q es).availRing = (repostAll n q' es).availRing ∧
      (repostAll n q es).availIdx = (repostAll n q' es).availIdx := by
  induction es generalizing q q' with
  | nil => exact ⟨hring, hidx⟩
  | cons e es ih =>
    refine ih ?_ ?_
    · simp only [repostRx, hring, hidx]
    · simp only [repostRx, hidx]

/-- Descriptors given back, at most as many as the ring has slots, stand in the ring in order.

**Proof sketch.** Induction on the list from its end: the last descriptor is stored behind the
others. -/
lemma between_repostAll (hn : n ∣ 65536) (hn' : n < 65536) (es : List RxCompletionEntry)
    (hlen : es.length ≤ n) :
    Ring.between n (repostAll n q es).availRing q.availIdx (repostAll n q es).availIdx =
      es.map RxCompletionEntry.descId := by
  induction es using List.reverseRecOn with
  | nil => exact Ring.between_self n _ _
  | append_singleton es e ih =>
    rw [List.length_append, List.length_singleton] at hlen
    have hes := ih (by omega)
    have hspan : Ring.span q.availIdx (repostAll n q es).availIdx = es.length := by
      rw [← Ring.length_between n (repostAll n q es).availRing, hes, List.length_map]
    have hlast : repostAll n q (es ++ [e]) = repostRx n (repostAll n q es) e.descId := by
      simp only [repostAll, List.foldl_append, List.foldl_cons, List.foldl_nil]
    rw [hlast, List.map_append, ← hes]
    simp only [repostRx]
    rw [Ring.between_push _ hn (by omega), Ring.between_store _ hn (by omega), Function.update_self]
    rfl

end Repost

/-! ## One round -/

section Round

variable {x : RxLoopConfig} {i : ℕ} {s : RxLoopState}

/-- Sending leaves the receive side alone. -/
lemma rxView_sendEvents (x : RxLoopConfig) (log : List NetEvent) (driver : DriverState) :
    (log.foldl (sendEvent x) driver).rxView = driver.rxView := by
  induction log generalizing driver with
  | nil => rfl
  | cons e log ih =>
    rw [List.foldl_cons, ih]
    cases e with
    | tx egress f length => exact Driver.rxView_virtioNetSendFrameDev x.hw driver _ _
    | assigned => rfl

/-- The driver after the body of the loop: the head completion is removed and its descriptor is
given back. -/
lemma netRxBody_driver (hs : RxLoopOk x i s) (hcount : (s.driver.devices i).rx.count ≠ 0)
    (len : ℕ) :
    let n := (s.driver.devices i).rxQueueSize.toNat
    let q := (s.driver.devices i).rx
    let t := netRxBody x s (q.completions q.head).descId len
    t.driver.Initialised i ∧ (t.driver.devices i).rxQueueSize = (s.driver.devices i).rxQueueSize ∧
      (t.driver.devices i).rx = repostRx n (dequeue n q) (q.completions q.head).descId := by
  intro n q t
  let sent := ((netDemoProcessFrame (x.env s.calls.length) s.net x.iface
    (s.rxBuffers (q.completions q.head).descId) len).1.log.foldl (sendEvent x) s.driver)
  have hview : sent.rxView = s.driver.rxView := rxView_sendEvents x _ _
  have hinit : sent.Initialised i := (Driver.initialised_of_rxView hview i).mpr hs.initialised
  have hrx : (sent.devices i).rx = q := Driver.rx_of_rxView hview i
  have hsize := Driver.rxQueueSize_of_rxView hview i
  have hdriver : t.driver = sent.returnHead i := by
    show virtioNetReleaseRxBufferDev sent (x.ifDev x.iface) _ = _
    rw [hs.dev, ← hrx]
    exact Driver.virtioNetReleaseRxBufferDev_eq hinit (by rw [hrx]; exact hcount)
  rw [hdriver, Driver.returnHead_rxQueueSize, Driver.returnHead_rx, hsize, hrx]
  exact ⟨Driver.initialised_returnHead hinit, rfl, rfl⟩

/-- The body of the loop keeps the queue a ring. -/
lemma RxLoopOk.body (hs : RxLoopOk x i s) (hcount : (s.driver.devices i).rx.count ≠ 0) (len : ℕ) :
    RxLoopOk x i (netRxBody x s ((s.driver.devices i).rx.completions
      (s.driver.devices i).rx.head).descId len) := by
  obtain ⟨hinit, hsize, hrx⟩ := netRxBody_driver hs hcount len
  refine ⟨hs.dev, hinit, ?_, ?_⟩
  · rw [hrx, hsize]
    exact Nat.mod_lt _ (Nat.zero_lt_of_lt hs.head)
  · rw [hrx, hsize]
    exact (Nat.sub_le _ _).trans hs.count

/-- **One test of the loop.** It ends on an empty queue and at a head entry that it cannot process,
and otherwise goes on behind the body. -/
lemma netRxLoop_succ (hs : RxLoopOk x i s) (fuel : ℕ) :
    let q := (s.driver.devices i).rx
    let e := q.completions q.head
    netRxLoop x (fuel + 1) s =
      if q.count = 0 then some s
      else if Processable (s.driver.devices i).rxQueueSize.toNat e then
        netRxLoop x fuel (netRxBody x s e.descId (rxPayloadLen e.totalLen))
      else some s := by
  intro q e
  rw [netRxLoop, hs.dev, Driver.virtioNetHasPendingRxDev_eq hs.initialised,
    Driver.virtioNetPeekRxBufferDev_eq hs.initialised]
  by_cases hcount : q.count = 0
  · rw [if_pos hcount, if_neg (by simp [q, hcount])]
  · rw [if_neg hcount, if_pos (by simpa using Nat.pos_of_ne_zero hcount)]
    by_cases hid : e.descId.toNat < (s.driver.devices i).rxQueueSize.toNat
    · rw [Driver.peekRxBuffer_of_lt hcount hid]
      by_cases hlen : rxPayloadLen e.totalLen > 0
      · rw [if_pos ⟨hid, (rxPayloadLen_pos_iff _).mp hlen⟩]
        exact if_pos hlen
      · rw [if_neg fun h => hlen ((rxPayloadLen_pos_iff _).mpr h.2)]
        exact if_neg hlen
    · have hpeek : Driver.peekRxBuffer (s.driver.devices i).rxQueueSize.toNat q = none := by
        simp only [Driver.peekRxBuffer, Driver.peekRx, if_neg hcount]
        rw [if_pos (not_lt.mp hid)]
      rw [hpeek, if_neg fun h => hid h.1]

end Round

/-! ## The whole loop -/

/-- From `s` to `t` the loop has processed the entries `es`, from the head of the queue on. -/
structure Takes (i : ℕ) (s t : RxLoopState) (es : List RxCompletionEntry) : Prop where
  pending : (s.driver.devices i).rx.pending (s.driver.devices i).rxQueueSize.toNat =
    es ++ (t.driver.devices i).rx.pending (s.driver.devices i).rxQueueSize.toNat
  calls : t.calls = s.calls ++ es.map rxCall
  avail : let q := repostAll (s.driver.devices i).rxQueueSize.toNat (s.driver.devices i).rx es
    (t.driver.devices i).rx.availRing = q.availRing ∧ (t.driver.devices i).rx.availIdx = q.availIdx

section Loop

variable {x : RxLoopConfig} {i : ℕ} {s t : RxLoopState}

/-- Nothing is taken. -/
lemma Takes.refl (i : ℕ) (s : RxLoopState) : Takes i s s [] :=
  ⟨rfl, (List.append_nil _).symm, rfl, rfl⟩

/-- The head entry is taken, and then others. -/
lemma Takes.cons (hs : RxLoopOk x i s) (hcount : (s.driver.devices i).rx.count ≠ 0)
    {es : List RxCompletionEntry} {e : RxCompletionEntry}
    (he : (s.driver.devices i).rx.completions (s.driver.devices i).rx.head = e)
    (h : Takes i (netRxBody x s e.descId (rxPayloadLen e.totalLen)) t es) :
    Takes i s t (e :: es) := by
  subst he
  obtain ⟨-, hsize, hrx⟩ := netRxBody_driver hs hcount (rxPayloadLen
    ((s.driver.devices i).rx.completions (s.driver.devices i).rx.head).totalLen)
  have hpending := h.pending
  have havail := h.avail
  rw [hsize, hrx] at hpending havail
  refine ⟨?_, ?_, ?_⟩
  · rw [RxQueue.pending_pop (Nat.mod_eq_of_lt hs.head) hcount, List.cons_append]
    exact congrArg _ hpending
  · rw [h.calls]
    simp [netRxBody, rxCall]
  · rw [repostAll_cons]
    refine ⟨havail.1.trans ?_, havail.2.trans ?_⟩
    · exact (repostAll_congr (by rfl) (by rfl) es).1
    · exact (repostAll_congr (by rfl) (by rfl) es).2

/-- **The loop terminates** after at most as many rounds as there are entries. -/
theorem netRxLoop_isSome (hs : RxLoopOk x i s) {fuel : ℕ}
    (hfuel : (s.driver.devices i).rx.count < fuel) : (netRxLoop x fuel s).isSome := by
  induction fuel generalizing s with
  | zero => omega
  | succ fuel ih =>
    rw [netRxLoop_succ hs]
    split_ifs with hcount hproc
    · rfl
    · refine ih (hs.body hcount _) ?_
      rw [(netRxBody_driver hs hcount _).2.2]
      show (s.driver.devices i).rx.count - 1 < fuel
      omega
    · rfl

/-- **What the loop does**: it takes entries up to the first that it cannot process.

**Proof sketch.** Induction on the number of tests; one test is `netRxLoop_succ`. -/
theorem netRxLoop_spec (hs : RxLoopOk x i s) {fuel : ℕ} (h : netRxLoop x fuel s = some t) :
    Takes i s t (((s.driver.devices i).rx.pending (s.driver.devices i).rxQueueSize.toNat).takeWhile
      fun e => Processable (s.driver.devices i).rxQueueSize.toNat e) := by
  induction fuel generalizing s with
  | zero => cases h
  | succ fuel ih =>
    rw [netRxLoop_succ hs] at h
    by_cases hcount : (s.driver.devices i).rx.count = 0
    · rw [if_pos hcount] at h
      obtain rfl := Option.some.inj h
      have hnil : (s.driver.devices i).rx.pending (s.driver.devices i).rxQueueSize.toNat = [] := by
        rw [RxQueue.pending, hcount, Ring.window_zero]
      rw [hnil]
      exact .refl i s
    · rw [if_neg hcount] at h
      rw [RxQueue.pending_pop (Nat.mod_eq_of_lt hs.head) hcount, List.takeWhile_cons]
      by_cases hproc : Processable (s.driver.devices i).rxQueueSize.toNat
          ((s.driver.devices i).rx.completions (s.driver.devices i).rx.head)
      · rw [if_pos hproc] at h
        rw [if_pos (decide_eq_true hproc)]
        have hrest := ih (hs.body hcount _) h
        rw [(netRxBody_driver hs hcount _).2.1, (netRxBody_driver hs hcount _).2.2] at hrest
        exact Takes.cons hs hcount rfl hrest
      · rw [if_neg hproc] at h
        obtain rfl := Option.some.inj h
        rw [if_neg (by simpa using hproc)]
        exact .refl i s

/-- **When the loop drains its queue.** It terminates with the queue empty, every frame processed
in order and every descriptor given back, exactly when each entry names a descriptor of the queue
and is longer than the virtio header. -/
theorem drains_iff (hs : RxLoopOk x i s) :
    Drains x i s ↔
      ∀ e ∈ (s.driver.devices i).rx.pending (s.driver.devices i).rxQueueSize.toNat,
        Processable (s.driver.devices i).rxQueueSize.toNat e := by
  constructor
  · rintro ⟨fuel, t, h, hdrained⟩
    have hpending := (netRxLoop_spec hs h).pending
    have hnil : (t.driver.devices i).rx.pending (s.driver.devices i).rxQueueSize.toNat = [] := by
      rw [RxQueue.pending, hdrained.count, Ring.window_zero]
    rw [hnil, List.append_nil] at hpending
    intro e he
    rw [hpending] at he
    simpa using List.mem_takeWhile_imp he
  · intro hall
    obtain ⟨t, h⟩ := Option.isSome_iff_exists.mp (netRxLoop_isSome hs (Nat.lt_succ_self _))
    have htakes := netRxLoop_spec hs h
    rw [List.takeWhile_eq_self_iff.mpr (by simpa using hall)] at htakes
    have hcount : (t.driver.devices i).rx.count = 0 := by
      have hlen := congrArg List.length htakes.pending
      rw [List.length_append] at hlen
      simpa [RxQueue.pending] using hlen
    have hfilter : ((s.driver.devices i).rx.pending
        (s.driver.devices i).rxQueueSize.toNat).filter hasPayload =
        (s.driver.devices i).rx.pending (s.driver.devices i).rxQueueSize.toNat := by
      refine List.filter_eq_self.mpr fun e he => ?_
      exact decide_eq_true ((rxPayloadLen_pos_iff _).mpr (hall e he).2)
    refine ⟨_, t, h, hcount, ?_, htakes.avail, fun hn => ?_⟩
    · rw [hfilter]
      exact htakes.calls
    · rw [htakes.avail.1, htakes.avail.2]
      refine between_repostAll hn (UInt16.toNat_lt _) _ ?_
      rw [RxQueue.pending, Ring.length_window]
      exact hs.count

end Loop

/-! ## Two completions -/

/-- Two completions in a queue of 8 descriptors. -/
def twoCompletions (len₀ len₁ : UInt32) : RxQueue :=
  { Driver.virtioNetPrepareRx 8 with
    usedIdx := 2
    rxLastUsed := 2
    completions := fun k => if k = 0 then ⟨0, len₀⟩ else ⟨1, len₁⟩
    tail := 2
    count := 2 }

/-- The LAN task of a machine with one device. -/
def lanTask : RxLoopConfig where
  hw := singleNic
  iface := .lan
  ifDev := fun i => if i = .lan then some 0 else none
  env := fun _ => ⟨fun _ => 0, fun _ => 0⟩

/-- The task wakes up with the given queue. -/
def wokenWith (q : RxQueue) : RxLoopState where
  driver := Driver.oneDevice q
  net := netInit (some ⟨⟨2, 0, 0, 0, 0, 1⟩⟩) none
  rxBuffers := fun _ _ => 0
  calls := []

/-- The task has been woken, and its loop begins. -/
lemma rxLoopOk_wokenWith (len₀ len₁ : UInt32) :
    RxLoopOk lanTask 0 (wokenWith (twoCompletions len₀ len₁)) :=
  ⟨rfl, ⟨Nat.zero_lt_one, rfl⟩, Nat.succ_pos 7, Nat.le_add_right 2 6⟩

/-- Two frames of 60 bytes are drained. -/
theorem drains_twoFrames : Drains lanTask 0 (wokenWith (twoCompletions 72 72)) :=
  (drains_iff (rxLoopOk_wokenWith 72 72)).mpr (by decide)

/-- **A completion without payload blocks the frame behind it**: at each wakeup the loop ends at
once, with both completions in the queue. -/
theorem not_drains_shortHead :
    RxLoopOk lanTask 0 (wokenWith (twoCompletions 12 100)) ∧
      ¬Drains lanTask 0 (wokenWith (twoCompletions 12 100)) ∧
      netRxLoop lanTask 1 (wokenWith (twoCompletions 12 100)) =
        some (wokenWith (twoCompletions 12 100)) := by
  have hok := rxLoopOk_wokenWith 12 100
  refine ⟨hok, fun hdrains => ?_, ?_⟩
  · have hall := (drains_iff hok).mp hdrains
    exact absurd hall (by decide)
  · rw [netRxLoop_succ hok, if_neg (by decide), if_neg (by decide)]

end Gateway
