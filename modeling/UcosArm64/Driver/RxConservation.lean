import Mathlib.Data.Multiset.Range
import Mathlib.Data.Multiset.AddSub
import Mathlib.Algebra.Order.Group.Multiset
import Mathlib.Tactic.Abel
import UcosArm64.Driver.RxSystem

set_option relaxedAutoImplicit false
set_option autoImplicit false

/-!
# Conservation of the receive descriptors

At every point of every run, each descriptor is in exactly one place: in the avail ring, with the
device, in the used ring, in the completion queue, or in the hands of the task.

## Main definitions

* `Driver.RxState.availPending`, `Driver.RxState.withDevice`, `Driver.RxState.usedPending`,
  `Driver.RxState.completed`, `Driver.RxState.inHand` — the five places.
* `Driver.RxInv` — the invariant.

## Main results

* `Driver.RxInv.step` — every step keeps the invariant.
* `Driver.rx_conservation` — the partition, and what follows from it.

## Design

The places are lists, read off the rings; their sum as multisets is the multiset of the numbers
below `n`. Every step moves at most one descriptor from one place to the next, and the total bounds
the filling of every ring, so that no ring is overrun.
-/

namespace Driver

open Ring Transition

/-! ## The places of a descriptor -/

/-- The entries of the avail ring that the device has not consumed. -/
def RxState.availPending (n : ℕ) (s : RxState) : List UInt16 :=
  between n s.availRing s.deviceAvail s.availIdx

/-- The descriptor of a used element that is written and not yet announced. -/
def DevicePc.inFlight : DevicePc → List UInt16
  | .written id => [id]
  | _ => []

/-- The descriptors that the device holds. -/
def RxState.withDevice (s : RxState) : List UInt16 := s.held ++ s.device.inFlight

/-- The descriptor that a used element names. -/
def VringUsedElem.descId (e : VringUsedElem) : UInt16 := e.id.toUInt16

/-- The entries of the used ring that the handler has not consumed. -/
def RxState.usedPending (n : ℕ) (s : RxState) : List UInt16 :=
  between n (fun i => (s.usedRing i).descId) s.rxLastUsed s.usedIdx

/-- The entries of the completion queue. -/
def RxState.completed (n : ℕ) (s : RxState) : List UInt16 :=
  window n (fun i => (s.completions i).descId) s.head s.count

/-- The descriptor between its removal from the completion queue and the increment of the avail
index. -/
def TaskPc.inHand : TaskPc → List UInt16
  | .idle => []
  | .dequeued id => [id]
  | .slot id _ => [id]
  | .stored id => [id]
  | .loaded id _ => [id]

/-- The descriptors in all places. -/
def RxState.descriptors (n : ℕ) (s : RxState) : Multiset UInt16 :=
  ↑(s.availPending n) + ↑s.withDevice + ↑(s.usedPending n) + ↑(s.completed n) + ↑s.task.inHand

/-- What the task has already done to the avail ring. -/
def TaskPc.Agrees (n : ℕ) (q : RxQueue) : TaskPc → Prop
  | .slot _ k => k = q.availIdx.toNat % n
  | .stored id => q.availRing (q.availIdx.toNat % n) = id
  | .loaded id idx => q.availRing (q.availIdx.toNat % n) = id ∧ idx = q.availIdx
  | _ => True

/-- What the device has already done to the used ring. -/
def DevicePc.Agrees (n : ℕ) (q : RxQueue) : DevicePc → Prop
  | .written id => (q.usedRing (q.usedIdx.toNat % n)).descId = id
  | _ => True

/-- **The invariant.** -/
structure RxInv (n : ℕ) (s : RxState) : Prop where
  descriptors : (s.descriptors n).map UInt16.toNat = Multiset.range n
  head : s.head < n
  tail : s.tail = (s.head + s.count) % n
  task : s.task.Agrees n s.toRxQueue
  device : s.device.Agrees n s.toRxQueue
  handler : ∀ status flags, s.handler = .element status flags → s.rxLastUsed ≠ s.usedIdx

/-! ## What the total bounds -/

section Bounds

variable {n : ℕ} {s : RxState}

/-- There are as many descriptors as the queue has. -/
lemma RxInv.card (h : RxInv n s) : (s.availPending n).length + s.withDevice.length +
    (s.usedPending n).length + (s.completed n).length + s.task.inHand.length = n := by
  have hcard := congrArg Multiset.card h.descriptors
  simpa [RxState.descriptors, add_assoc] using hcard

/-- Every descriptor is one of the queue. -/
lemma RxInv.lt (h : RxInv n s) {id : UInt16} (hid : id ∈ s.descriptors n) : id.toNat < n := by
  rw [← Multiset.mem_range, ← h.descriptors]
  exact Multiset.mem_map_of_mem _ hid

/-- A ring that does not hold all descriptors has a free slot. -/
lemma RxInv.availPending_lt (h : RxInv n s)
    (hout : 0 < s.withDevice.length + s.task.inHand.length) :
    span s.deviceAvail s.availIdx < n := by
  have hcard := h.card
  rw [RxState.availPending, length_between] at hcard
  omega

/-- While the device has a buffer, fewer than `n` used entries are unread. -/
lemma RxInv.usedPending_lt (h : RxInv n s) (hout : 0 < s.withDevice.length) :
    span s.rxLastUsed s.usedIdx < n := by
  have hcard := h.card
  rw [RxState.usedPending, length_between] at hcard
  omega

/-- The completions and the unread used entries are at most `n`. -/
lemma RxInv.count_le (h : RxInv n s) : s.count + span s.rxLastUsed s.usedIdx ≤ n := by
  have hcard := h.card
  rw [RxState.completed, length_window, RxState.usedPending, length_between] at hcard
  omega

end Bounds

/-! ## What the parties have already done -/

section Agreement

variable {n : ℕ} {s : RxState} {id : UInt16}

/-- A used element that is written names the descriptor. -/
lemma RxInv.written_eq (h : RxInv n s) (hdev : s.device = .written id) :
    (s.usedRing (s.usedIdx.toNat % n)).descId = id := by
  have hagree := h.device
  rw [hdev] at hagree
  exact hagree

/-- The slot that the task has computed is that of the avail index. -/
lemma RxInv.slot_eq (h : RxInv n s) {slot : ℕ} (ht : s.task = .slot id slot) :
    slot = s.availIdx.toNat % n := by
  have hagree := h.task
  rw [ht] at hagree
  exact hagree

/-- The task has stored its descriptor at the avail index. -/
lemma RxInv.stored_eq (h : RxInv n s) (ht : s.task = .stored id) :
    s.availRing (s.availIdx.toNat % n) = id := by
  have hagree := h.task
  rw [ht] at hagree
  exact hagree

/-- The task has loaded the avail index, at which it has stored its descriptor. -/
lemma RxInv.loaded_eq (h : RxInv n s) {idx : UInt16} (ht : s.task = .loaded id idx) :
    s.availRing (s.availIdx.toNat % n) = id ∧ idx = s.availIdx := by
  have hagree := h.task
  rw [ht] at hagree
  exact hagree

end Agreement

/-! ## Moving a descriptor -/

section Moves

variable {n : ℕ} {s t : RxState}

/-- A step that keeps the descriptors and the completion queue. -/
lemma RxInv.of_eq (hs : RxInv n s) (hids : t.descriptors n = s.descriptors n)
    (hhead : t.head = s.head) (htail : t.tail = s.tail) (hcount : t.count = s.count)
    (htask : t.task.Agrees n t.toRxQueue) (hdev : t.device.Agrees n t.toRxQueue)
    (hh : ∀ status flags, t.handler = .element status flags → t.rxLastUsed ≠ t.usedIdx) :
    RxInv n t := by
  refine ⟨by rw [hids]; exact hs.descriptors, ?_, ?_, htask, hdev, hh⟩
  · rw [hhead]
    exact hs.head
  · rw [htail, hhead, hcount]
    exact hs.tail

/-- The descriptors of a used ring with one element rewritten. -/
lemma descId_update (ring : ℕ → VringUsedElem) (k : ℕ) (e : VringUsedElem) :
    (fun i => (Function.update ring k e i).descId) =
      Function.update (fun i => (ring i).descId) k e.descId := by
  ext1 i
  by_cases h : i = k
  · subst h
    simp
  · simp [h]

/-- The descriptors of a completion queue with one entry rewritten. -/
lemma completion_update (entries : ℕ → RxCompletionEntry) (k : ℕ) (e : RxCompletionEntry) :
    (fun i => (Function.update entries k e i).descId) =
      Function.update (fun i => (entries i).descId) k e.descId := by
  ext1 i
  by_cases h : i = k
  · subst h
    simp
  · simp [h]

/-- The element that the device writes names the descriptor it returns. -/
lemma descId_mk (id : UInt16) (len : UInt32) : (VringUsedElem.mk id.toUInt32 len).descId = id := by
  simp [VringUsedElem.descId]

/-- The head completion is one of the descriptors. -/
lemma completed_pop (hcount : s.count ≠ 0) : s.completed n =
    (s.completions (s.head % n)).descId ::
      window n (fun i => (s.completions i).descId) (s.head + 1) (s.count - 1) :=
  window_pop _ _ hcount

/-- The queue after the head completion is removed. -/
lemma completed_dequeue (pc : TaskPc) :
    RxState.completed n { s with toRxQueue := dequeue n s.toRxQueue, task := pc } =
      window n (fun i => (s.completions i).descId) (s.head + 1) (s.count - 1) :=
  window_congr_start _ (Nat.mod_mod _ _) _

/-- Removing the head completion keeps the invariant, if the task takes it in hand. -/
lemma RxInv.dequeue (hs : RxInv n s) (ht : s.task = .idle) (hh : s.handler = .idle)
    (hcount : s.count ≠ 0) {id : UInt16} (hid : (s.completions s.head).descId = id) :
    RxInv n { s with toRxQueue := Driver.dequeue n s.toRxQueue, task := .dequeued id } := by
  refine ⟨?_, Nat.mod_lt _ (Nat.zero_lt_of_lt hs.head), ?_, trivial, hs.device, ?_⟩
  · rw [← hs.descriptors]
    congr 1
    simp only [RxState.descriptors]
    rw [completed_dequeue, completed_pop hcount, Nat.mod_eq_of_lt hs.head, hid, ht]
    simp only [TaskPc.inHand, ← Multiset.cons_coe, ← Multiset.singleton_add, Multiset.coe_nil]
    show (s.availPending n : Multiset UInt16) + s.withDevice + s.usedPending n + _ + _ = _
    abel
  · show s.tail = ((s.head + 1) % n + (s.count - 1)) % n
    rw [hs.tail, Nat.mod_add_mod, show s.head + 1 + (s.count - 1) = s.head + s.count by omega]
  · intro status flags h
    rw [hh] at h
    cases h

/-- The oldest unconsumed element is one of the descriptors. -/
lemma usedPending_pop (hn : n ∣ 65536) (hmore : s.rxLastUsed ≠ s.usedIdx) :
    s.usedPending n = (s.usedRing (s.rxLastUsed.toNat % n)).descId ::
      between n (fun i => (s.usedRing i).descId) (s.rxLastUsed + 1) s.usedIdx :=
  between_pop _ hn hmore

/-- While an element is unconsumed, the scan finds a descriptor in range and room in the completion
queue. -/
lemma RxInv.room (hn : n ∣ 65536) (hs : RxInv n s) (hmore : s.rxLastUsed ≠ s.usedIdx) :
    (s.usedRing (s.rxLastUsed.toNat % n)).descId.toNat < n ∧ s.count < n := by
  constructor
  · apply hs.lt
    simp [RxState.descriptors, usedPending_pop hn hmore]
  · have hspan : span s.rxLastUsed s.usedIdx ≠ 0 := fun hz => hmore ((span_eq_zero_iff _ _).mp hz)
    have hle := hs.count_le
    omega

/-- An iteration of the scan appends the element to the completion queue. -/
lemma handleRxElement_eq (hs : RxInv n s) (hn : n ∣ 65536) (hmore : s.rxLastUsed ≠ s.usedIdx)
    (flags : ScanFlags) : handleRxElement n s.toRxQueue flags =
      ({ s.toRxQueue with
        completions := Function.update s.completions s.tail
          ⟨(s.usedRing (s.rxLastUsed.toNat % n)).descId, (s.usedRing (s.rxLastUsed.toNat % n)).len⟩
        tail := (s.tail + 1) % n
        count := s.count + 1
        rxLastUsed := s.rxLastUsed + 1 }, { flags with enqueued := true }) := by
  obtain ⟨hid, hcount⟩ := hs.room hn hmore
  have hid' : ¬ (s.usedRing (s.rxLastUsed.toNat % n)).id.toUInt16.toNat ≥ n := not_le.mpr hid
  have hcount' : ¬ s.count ≥ n := not_le.mpr hcount
  simp only [handleRxElement]
  rw [if_neg hid', if_neg hcount']
  rfl

/-- The device consumes an avail entry. -/
lemma RxInv.take (hn : n ∣ 65536) (hs : RxInv n s) (hne : s.deviceAvail ≠ s.availIdx) :
    RxInv n { s with
      held := s.availRing (s.deviceAvail.toNat % n) :: s.held
      deviceAvail := s.deviceAvail + 1 } := by
  refine hs.of_eq ?_ rfl rfl rfl hs.task hs.device hs.handler
  simp only [RxState.descriptors, RxState.availPending, RxState.withDevice, RxState.usedPending,
    RxState.completed]
  rw [between_pop s.availRing hn hne]
  simp only [List.cons_append, ← Multiset.cons_coe, ← Multiset.singleton_add]
  abel

/-- The device writes a used element. -/
lemma RxInv.write (hn : n ∣ 65536) (hs : RxInv n s) (id : UInt16) (len : UInt32)
    (hdev : s.device = .idle) (hid : id ∈ s.held) :
    RxInv n { s with
      usedRing := Function.update s.usedRing (s.usedIdx.toNat % n) ⟨id.toUInt32, len⟩
      held := s.held.erase id
      device := .written id } := by
  have hlen : 0 < s.withDevice.length := by
    have := List.length_pos_of_mem hid
    simp only [RxState.withDevice, List.length_append]
    omega
  refine hs.of_eq ?_ rfl rfl rfl hs.task ?_ hs.handler
  · simp only [RxState.descriptors, RxState.availPending, RxState.withDevice,
      RxState.usedPending, RxState.completed, hdev, DevicePc.inFlight, descId_update]
    rw [between_store _ hn (hs.usedPending_lt hlen)]
    have hperm : ((s.held.erase id ++ [id] : List UInt16) : Multiset UInt16) =
        (s.held ++ [] : List UInt16) := by
      rw [List.append_nil]
      exact Multiset.coe_eq_coe.mpr
        ((List.perm_append_singleton _ _).trans (List.perm_cons_erase hid).symm)
    rw [hperm]
  · show (Function.update s.usedRing (s.usedIdx.toNat % n) ⟨id.toUInt32, len⟩
      (s.usedIdx.toNat % n)).descId = id
    rw [Function.update_self, descId_mk]

/-- The device advances the used index. -/
lemma RxInv.publish (hn : n ∣ 65536) (hn' : n ≤ 256) (hs : RxInv n s) {id : UInt16}
    (hdev : s.device = .written id) :
    RxInv n { s with usedIdx := s.usedIdx + 1, device := .published } := by
  have hspan : span s.rxLastUsed s.usedIdx < 65535 := by
    have hlt := hs.usedPending_lt (by simp [RxState.withDevice, hdev, DevicePc.inFlight])
    omega
  refine hs.of_eq ?_ rfl rfl rfl hs.task trivial fun _ _ _ heq => ?_
  · simp only [RxState.descriptors, RxState.availPending, RxState.withDevice,
      RxState.usedPending, RxState.completed, hdev, DevicePc.inFlight]
    rw [between_push _ hn hspan, hs.written_eq hdev, List.append_nil]
    simp only [← Multiset.coe_add]
    abel
  · have hzero := (span_eq_zero_iff _ _).mpr heq
    simp only at hzero
    rw [span_succ_right hspan] at hzero
    omega

/-- The handler moves a used element to the completion queue. -/
lemma RxInv.element (hn : n ∣ 65536) (hs : RxInv n s) {status : UInt32} {flags : ScanFlags}
    (hh : s.handler = .element status flags) :
    RxInv n { s with
      toRxQueue := (handleRxElement n s.toRxQueue flags).1
      handler := .scan status (handleRxElement n s.toRxQueue flags).2 } := by
  have hmore := hs.handler status flags hh
  obtain ⟨-, hcount⟩ := hs.room hn hmore
  rw [handleRxElement_eq hs hn hmore]
  refine ⟨?_, hs.head, ?_, hs.task, hs.device, by simp⟩
  · rw [← hs.descriptors]
    congr 1
    simp only [RxState.descriptors, RxState.availPending, RxState.withDevice,
      RxState.usedPending, RxState.completed, completion_update]
    rw [hs.tail, window_push _ hcount, between_pop _ hn hmore]
    simp only [← Multiset.coe_add, ← Multiset.cons_coe, ← Multiset.singleton_add,
      Multiset.coe_nil]
    abel
  · show (s.tail + 1) % n = (s.head + (s.count + 1)) % n
    rw [hs.tail, Nat.mod_add_mod, Nat.add_assoc]

/-- The task stores its descriptor into the avail ring. -/
lemma RxInv.store (hn : n ∣ 65536) (hs : RxInv n s) {id : UInt16} {slot : ℕ}
    (ht : s.task = .slot id slot) :
    RxInv n { s with availRing := Function.update s.availRing slot id, task := .stored id } := by
  obtain rfl := hs.slot_eq ht
  refine hs.of_eq ?_ rfl rfl rfl ?_ hs.device hs.handler
  · simp only [RxState.descriptors, RxState.availPending, RxState.withDevice,
      RxState.usedPending, RxState.completed, ht, TaskPc.inHand]
    rw [between_store _ hn (hs.availPending_lt (by simp [ht, TaskPc.inHand]))]
  · exact Function.update_self _ _ _

/-- The task increments the avail index. -/
lemma RxInv.bump (hn : n ∣ 65536) (hn' : n ≤ 256) (hs : RxInv n s) {id idx : UInt16}
    (ht : s.task = .loaded id idx) : RxInv n { s with availIdx := idx + 1, task := .idle } := by
  obtain ⟨hstored, rfl⟩ := hs.loaded_eq ht
  have hspan : span s.deviceAvail s.availIdx < 65535 := by
    have hlt := hs.availPending_lt (by simp [ht, TaskPc.inHand])
    omega
  refine hs.of_eq ?_ rfl rfl rfl trivial hs.device hs.handler
  simp only [RxState.descriptors, RxState.availPending, RxState.withDevice, RxState.usedPending,
    RxState.completed, ht, TaskPc.inHand]
  rw [between_push _ hn hspan, hstored]
  simp only [← Multiset.coe_add, Multiset.coe_nil]
  abel

/-- **Step lemma.** -/
theorem RxInv.step (hn : n ∣ 65536) (hn' : n ≤ 256) {a : RxAction} (hs : RxInv n s)
    (h : rxStep n s a = some t) : RxInv n t := by
  cases rxRule_of_rxStep h with
  | take hne => exact hs.take hn hne
  | write id len hdev hid => exact hs.write hn id len hdev hid
  | publish id hdev => exact hs.publish hn hn' hdev
  | raise hdev =>
    refine hs.of_eq ?_ rfl rfl rfl hs.task trivial hs.handler
    simp only [RxState.descriptors, RxState.availPending, RxState.withDevice, RxState.usedPending,
      RxState.completed, hdev, DevicePc.inFlight]
  | other bits => exact hs.of_eq rfl rfl rfl rfl hs.task hs.device hs.handler
  | irq hh => exact hs.of_eq rfl rfl rfl rfl hs.task hs.device (by simp)
  | readUsed hh hbit => exact hs.of_eq rfl rfl rfl rfl hs.task hs.device (by simp)
  | readOther hh hbit => exact hs.of_eq rfl rfl rfl rfl hs.task hs.device (by simp)
  | leave status flags hh hempty =>
    exact hs.of_eq rfl rfl rfl rfl hs.task hs.device (by simp)
  | loop status flags hh hmore =>
    exact hs.of_eq rfl rfl rfl rfl hs.task hs.device fun _ _ _ => hmore
  | element status flags hh => exact hs.element hn hh
  | acknowledge status hh => exact hs.of_eq rfl rfl rfl rfl hs.task hs.device (by simp)
  | stay a hh ht => exact hs
  | drop hh ht hcount hid =>
    have hmem : (s.completions s.head).descId ∈ s.descriptors n := by
      have hc := completed_pop (n := n) hcount
      rw [Nat.mod_eq_of_lt hs.head] at hc
      simp [RxState.descriptors, hc]
    exact absurd (hs.lt hmem) (not_lt.mpr hid)
  | poll hh ht hcount => exact hs.dequeue ht hh hcount rfl
  | release id hh ht hcount hid => exact hs.dequeue ht hh hcount hid
  | slot id hh ht =>
    refine hs.of_eq ?_ rfl rfl rfl rfl hs.device hs.handler
    simp only [RxState.descriptors, RxState.availPending, RxState.withDevice, RxState.usedPending,
      RxState.completed, ht, TaskPc.inHand]
  | store id slot hh ht => exact hs.store hn ht
  | load id hh ht =>
    refine hs.of_eq ?_ rfl rfl rfl ⟨hs.stored_eq ht, rfl⟩ hs.device hs.handler
    simp only [RxState.descriptors, RxState.availPending, RxState.withDevice, RxState.usedPending,
      RxState.completed, ht, TaskPc.inHand]
  | bump id idx hh ht => exact hs.bump hn hn' ht

end Moves

/-! ## The partition -/

/-- At the start every descriptor is in the avail ring. -/
lemma rxInv_rxInit {n : ℕ} (hpos : 0 < n) (hn : n ≤ 256) : RxInv n (rxInit n) := by
  refine ⟨?_, hpos, ?_, trivial, trivial, by simp [rxInit]⟩
  · have hspan : span 0 (UInt16.ofNat n) = n := by
      rw [span_eq, UInt16.toNat_ofNat']
      show (65536 - 0 + n % 65536) % 65536 = n
      omega
    have hids : (rxInit n).descriptors n = ↑((List.range n).map UInt16.ofNat) := by
      have havail : (rxInit n).availPending n = (List.range n).map UInt16.ofNat := by
        show window n _ _ (span 0 (UInt16.ofNat n)) = _
        rw [hspan]
        unfold window
        apply List.map_congr_left
        intro k hk
        have hlt := List.mem_range.mp hk
        show (if (0 + k) % n < n then UInt16.ofNat ((0 + k) % n) else 0) = _
        rw [Nat.zero_add, Nat.mod_eq_of_lt hlt, if_pos hlt]
      have hused : (rxInit n).usedPending n = [] := between_self n _ _
      simp only [RxState.descriptors, havail, hused]
      simp [RxState.withDevice, RxState.completed, rxInit, virtioNetPrepareRx, DevicePc.inFlight,
        TaskPc.inHand]
    rw [hids, Multiset.map_coe, List.map_map]
    show ↑((List.range n).map fun k => (UInt16.ofNat k).toNat) = (↑(List.range n) : Multiset ℕ)
    congr 1
    rw [List.map_congr_left (g := id), List.map_id]
    intro k hk
    have hlt := List.mem_range.mp hk
    rw [UInt16.toNat_ofNat', id]
    omega
  · show 0 = (0 + 0) % n
    rw [Nat.zero_mod]

/-- The invariant holds in every reachable state. -/
theorem rxInv_reachable {n k : ℕ} (hpow : n = 2 ^ k) (hn : n ≤ 256) {s : RxState}
    (h : Reachable (rxStep n) (rxInit n) s) : RxInv n s := by
  have hpos : 0 < n := by
    rw [hpow]
    exact Nat.two_pow_pos k
  exact h.invariant (fun _ _ _ hs hstep => hs.step (dvd_of_pow_two hpow hn) hn hstep)
    (rxInv_rxInit hpos hn)

/-- **Conservation of the receive descriptors.** Let the queue size `n` be a power of two, at most
256. In every reachable state the descriptors `0 .. n - 1` are, each exactly once, in the avail
entries not yet consumed, with the device, in the used entries not yet handled, in the completion
queue, or in the hands of the task. The head, the tail and the count of the completion queue agree
modulo `n`; an iteration of the scan finds a descriptor in range and the completion queue not full;
and when the task is about to store into the avail ring, the slot is not one of those that the
device has not consumed.

**Proof sketch.** The invariant `RxInv` holds in every reachable state. Its total bounds the filling
of each ring. -/
theorem rx_conservation (n k : ℕ) (hpow : n = 2 ^ k) (hn : n ≤ 256) {s : RxState}
    (h : Reachable (rxStep n) (rxInit n) s) :
    (s.descriptors n).map UInt16.toNat = Multiset.range n ∧ (s.descriptors n).Nodup ∧
      s.head < n ∧ s.tail = (s.head + s.count) % n ∧ s.count ≤ n ∧
      (∀ status flags, s.handler = .element status flags →
        (s.usedRing (s.rxLastUsed.toNat % n)).descId.toNat < n ∧ s.count < n) ∧
      ∀ id slot, s.task = .slot id slot → ∀ j < span s.deviceAvail s.availIdx,
        (s.deviceAvail.toNat + j) % n ≠ slot := by
  have hinv := rxInv_reachable hpow hn h
  have hdvd := dvd_of_pow_two hpow hn
  have hcount := hinv.count_le
  have hnodup : (s.descriptors n).Nodup := by
    apply Multiset.Nodup.of_map UInt16.toNat
    rw [hinv.descriptors]
    exact Multiset.nodup_range n
  refine ⟨hinv.descriptors, hnodup, hinv.head, hinv.tail, by omega, fun status flags hh => ?_,
    fun id slot ht j hj => ?_⟩
  · exact hinv.room hdvd (hinv.handler status flags hh)
  · rw [hinv.slot_eq ht, ← add_span_mod hdvd s.deviceAvail s.availIdx]
    exact slot_ne (hinv.availPending_lt (by simp [ht, TaskPc.inHand])) _ hj

/-- A frame arrives, the handler queues it, and the task polls it and posts its descriptor again. -/
def oneFrameRun : List RxAction :=
  receive 0 ++ scanOne ++ [.handler, .poll, .task, .task, .task, .task]

/-- The descriptors after one frame. -/
theorem rx_conservation_oneFrame :
    ∃ s, exec (rxStep 256) (rxInit 256) oneFrameRun = some s ∧
      (s.descriptors 256).map UInt16.toNat = Multiset.range 256 := by
  have hsome : (exec (rxStep 256) (rxInit 256) oneFrameRun).isSome = true := by decide
  obtain ⟨s, hs⟩ := Option.isSome_iff_exists.mp hsome
  exact ⟨s, hs, (rx_conservation 256 8 rfl (by decide) ⟨oneFrameRun, hs⟩).1⟩

end Driver
