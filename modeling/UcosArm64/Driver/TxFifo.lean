import Mathlib.Data.List.GetD
import UcosArm64.Driver.TxIndices

set_option relaxedAutoImplicit false
set_option autoImplicit false

/-!
# The transmit queue is a FIFO

With a device that reads and returns its entries in the order of the avail ring, what the device
reads is what the calls of `virtio_net_send_frame_dev` accepted, each frame once and in order,
behind a header of zeros. A call that gives up leaves the queue as it was.

## Main definitions

* `Driver.wireFrame` — a frame as the device reads it.
* `Driver.Holds` — a slot stands for a frame.
* `Driver.TxCalls`, `Driver.TxOrder`, `Driver.TxFifo` — the invariants.

## Main results

* `Driver.tx_fifo` — the device reads the accepted frames.

## Design

The frames are counted by their position in the order of acceptance; the frame at the position `p`
is in the slot `p % n`. The call in progress writes the slot of the next position, which is not the
slot of a position that the device has not returned (`Ring.mod_ne`).
-/

namespace Driver

open Ring Transition

/-! ## What the calls return -/

/-- The frames of the calls that returned `0`. -/
def sentFrames (calls : List (Option (List UInt8) × ℤ)) : List (List UInt8) :=
  calls.filterMap fun c => if c.2 = 0 then c.1 else none

/-- The frame of a call that has made it available and has not returned. -/
def SendPc.queued : SendPc → List (List UInt8)
  | .batch frame => [frame]
  | _ => []

/-- The frame of a call. -/
def SendPc.frame : SendPc → Option (List UInt8)
  | .batch frame => some frame
  | pc => pc.choosing <|> pc.placing

/-- **The invariant of the calls**: what was accepted is what the calls returned `0` for; a call
that has not found room, and one that returned `-1`, has left the queue alone; and the lengths are
in range. -/
structure TxCalls (s : TxState) : Prop where
  accepted : s.accepted = sentFrames s.calls ++ s.pc.queued
  choosing : s.pc.choosing.isSome → s.toTxQueue = s.before
  failed : s.pc = .idle → ∀ frame, s.calls.getLast? = some (frame, -1) → s.toTxQueue = s.before
  length : ∀ frame ∈ s.accepted, frame.length ≤ virtioNetMaxFrameSize
  current : ∀ frame, s.pc.frame = some frame → frame.length ≤ virtioNetMaxFrameSize

/-- One more call adds its frame if it was accepted. -/
lemma sentFrames_concat (calls : List (Option (List UInt8) × ℤ)) (c : Option (List UInt8) × ℤ) :
    sentFrames (calls ++ [c]) = sentFrames calls ++ (if c.2 = 0 then c.1 else none).toList := by
  rw [sentFrames, List.filterMap_append, sentFrames]
  congr 1

section Calls

variable {n : ℕ} {s t : TxState} {frame : List UInt8}

/-- What the invariant says of a call that looks for room. -/
lemma SendPc.of_choosing {pc : SendPc} (h : pc.choosing = some frame) :
    pc.queued = [] ∧ pc.frame = some frame ∧ pc ≠ .idle := by
  cases pc <;> simp_all [SendPc.choosing, SendPc.queued, SendPc.frame]

/-- What the invariant says of a call that places its frame. -/
lemma SendPc.of_placing {pc : SendPc} (h : pc.placing = some frame) :
    pc.queued = [] ∧ pc.frame = some frame ∧ pc.choosing = none ∧ pc ≠ .idle := by
  cases pc <;> simp_all [SendPc.choosing, SendPc.placing, SendPc.queued, SendPc.frame]

/-- A call that looks for room. -/
lemma TxCalls.choose (hs : TxCalls s) (hqueue : t.toTxQueue = s.toTxQueue)
    (hbefore : t.before = s.before) (hcalls : t.calls = s.calls) (hacc : t.accepted = s.accepted)
    (hpc : s.pc.choosing = some frame) (hpc' : t.pc.choosing = some frame) : TxCalls t := by
  obtain ⟨hq, hf, -⟩ := SendPc.of_choosing hpc
  obtain ⟨hq', hf', hidle⟩ := SendPc.of_choosing hpc'
  refine ⟨?_, fun _ => ?_, fun h => absurd h hidle, ?_, ?_⟩
  · rw [hacc, hcalls, hq', hs.accepted, hq]
  · rw [hqueue, hbefore]
    exact hs.choosing (by rw [hpc]; rfl)
  · rw [hacc]
    exact hs.length
  · rw [hf', ← hf]
    exact hs.current

/-- A call that places its frame. -/
lemma TxCalls.place (hs : TxCalls s) (hcalls : t.calls = s.calls) (hacc : t.accepted = s.accepted)
    (hq : s.pc.queued = []) (hf : s.pc.frame = some frame) (hpc : t.pc.placing = some frame) :
    TxCalls t := by
  obtain ⟨hq', hf', hnone, hidle⟩ := SendPc.of_placing hpc
  refine ⟨?_, fun h => ?_, fun h => absurd h hidle, ?_, ?_⟩
  · rw [hacc, hcalls, hq', hs.accepted, hq]
  · rw [hnone] at h
    cases h
  · rw [hacc]
    exact hs.length
  · rw [hf', ← hf]
    exact hs.current

/-- A call that fails. -/
lemma TxCalls.fail (hs : TxCalls s) (hqueue : t.toTxQueue = t.before)
    (arg : Option (List UInt8)) (hcalls : t.calls = s.calls ++ [(arg, -1)])
    (hacc : t.accepted = s.accepted) (hq : s.pc.queued = []) (hpc : t.pc = .idle) : TxCalls t := by
  refine ⟨?_, fun _ => hqueue, fun _ _ _ => hqueue, ?_, ?_⟩
  · rw [hacc, hcalls, hpc, sentFrames_concat, hs.accepted, hq]
    simp [SendPc.queued]
  · rw [hacc]
    exact hs.length
  · intro f hf
    rw [hpc] at hf
    simp [SendPc.frame, SendPc.choosing, SendPc.placing] at hf

/-- **Step lemma.**

**Proof sketch.** One case per rule. A frame is accepted with the index and counted as sent when
its call returns; until then the place of the call has it. -/
theorem TxCalls.step {a : TxAction} (hs : TxCalls s) (h : txStep n s a = some t) : TxCalls t := by
  cases txRule_of_txStep h with
  | refuse frame hpc => exact hs.fail rfl frame rfl rfl (by rw [hpc]; rfl) hpc
  | enter frame hpc hpos hmax =>
    refine ⟨?_, fun _ => rfl, fun h => by simp at h, hs.length, ?_⟩
    · have hacc := hs.accepted
      rw [hpc] at hacc
      exact hacc
    · intro f hf
      cases hf
      exact hmax
  | sample frame pc hpc hpc' => exact hs.choose rfl rfl rfl rfl hpc hpc'
  | again frame pc hpc hpc' => exact hs.choose rfl rfl rfl rfl hpc hpc'
  | room frame hpc hroom =>
    obtain ⟨hq, hf, -⟩ := SendPc.of_choosing hpc
    exact hs.place rfl rfl hq hf rfl
  | full frame hpc =>
    exact hs.fail (hs.choosing (by rw [hpc]; rfl)) (some frame) rfl rfl
      (SendPc.of_choosing hpc).1 rfl
  | slot frame hpc => exact hs.place rfl rfl (by rw [hpc]; rfl) (by rw [hpc]; rfl) rfl
  | header frame idx hpc => exact hs.place rfl rfl (by rw [hpc]; rfl) (by rw [hpc]; rfl) rfl
  | payload frame idx hpc => exact hs.place rfl rfl (by rw [hpc]; rfl) (by rw [hpc]; rfl) rfl
  | describe frame idx hpc => exact hs.place rfl rfl (by rw [hpc]; rfl) (by rw [hpc]; rfl) rfl
  | enqueue frame idx hpc => exact hs.place rfl rfl (by rw [hpc]; rfl) (by rw [hpc]; rfl) rfl
  | bump frame hpc =>
    have hlen := hs.current frame (by rw [hpc]; rfl)
    refine ⟨?_, ?_, ?_, ?_, ?_⟩
    · have hacc := hs.accepted
      rw [hpc] at hacc
      simpa [SendPc.queued] using hacc
    · intro h
      simp [SendPc.choosing] at h
    · intro h
      simp at h
    · intro f hf
      rcases List.mem_append.mp hf with hf | hf
      · exact hs.length f hf
      · rw [List.mem_singleton.mp hf]
        exact hlen
    · intro f hf
      cases hf
      exact hlen
  | batch frame count notify hpc =>
    refine ⟨?_, ?_, ?_, hs.length, ?_⟩
    · have hacc := hs.accepted
      rw [hpc] at hacc
      simpa [sentFrames_concat, SendPc.queued] using hacc
    · intro h
      simp [SendPc.choosing] at h
    · intro _ f hf
      simp at hf
    · intro f hf
      simp [SendPc.frame, SendPc.choosing, SendPc.placing] at hf
  | take hne => exact ⟨hs.accepted, hs.choosing, hs.failed, hs.length, hs.current⟩
  | read e he => exact ⟨hs.accepted, hs.choosing, hs.failed, hs.length, hs.current⟩
  | complete e he => exact ⟨hs.accepted, hs.choosing, hs.failed, hs.length, hs.current⟩
  | irq => exact ⟨hs.accepted, hs.choosing, hs.failed, hs.length, hs.current⟩

/-- No call has returned at the start. -/
lemma txCalls_txInit : TxCalls txInit := by
  constructor <;> simp [txInit, sentFrames, SendPc.queued, SendPc.frame, SendPc.choosing,
    SendPc.placing]

end Calls

/-! ## What the slots hold -/

/-- A frame as the device reads it: behind a header of zeros. -/
def wireFrame (frame : List UInt8) : List UInt8 := List.replicate virtioNetHdrSize 0 ++ frame

/-- The header on the wire is zero. -/
lemma getD_wireFrame_of_lt {frame : List UInt8} {k : ℕ} (hk : k < virtioNetHdrSize) :
    (wireFrame frame).getD k 0 = 0 := by
  rw [wireFrame, List.getD_append _ _ _ _ (by simpa using hk), List.getD_replicate _ hk]

/-- Behind the header comes the frame. -/
lemma getD_wireFrame_of_le {frame : List UInt8} {k : ℕ} (hk : virtioNetHdrSize ≤ k) :
    (wireFrame frame).getD k 0 = frame.getD (k - virtioNetHdrSize) 0 := by
  rw [wireFrame, List.getD_append_right _ _ _ _ (by simpa using hk), List.length_replicate]

/-- The slot stands for the frame. -/
structure Holds (q : TxQueue) (idx : ℕ) (frame : List UInt8) : Prop where
  desc : q.desc idx = ⟨some idx, UInt32.ofNat (frame.length + virtioNetHdrSize), 0, 0⟩
  buffer : ∀ k < virtioNetHdrSize + frame.length, q.buffers idx k = (wireFrame frame).getD k 0

/-- What the call in progress has already written. -/
def SendPc.Written (q : TxQueue) (next : ℕ) : SendPc → Prop
  | .payload _ idx => ∀ k < virtioNetHdrSize, q.buffers idx k = 0
  | .describe frame idx =>
    ∀ k < virtioNetHdrSize + frame.length, q.buffers idx k = (wireFrame frame).getD k 0
  | .enqueue frame idx => Holds q idx frame
  | .bump frame => Holds q next frame
  | _ => True

/-- The device reads the frame that the slot stands for. -/
lemma Holds.readBuffer {q : TxQueue} {idx : ℕ} {frame : List UInt8} (h : Holds q idx frame)
    (hlen : frame.length ≤ virtioNetMaxFrameSize) {id : UInt16} (hid : id.toNat = idx) :
    q.readBuffer id = wireFrame frame := by
  have hmax : virtioNetMaxFrameSize = 1518 := rfl
  have hhdr : virtioNetHdrSize = 12 := rfl
  have hl : (UInt32.ofNat (frame.length + virtioNetHdrSize)).toNat =
      virtioNetHdrSize + frame.length := by
    rw [UInt32.toNat_ofNat']
    omega
  unfold TxQueue.readBuffer
  rw [hid, h.desc]
  simp only
  rw [hl]
  apply List.ext_getElem
  · simp [wireFrame]
  · intro k hk₁ hk₂
    have hk : k < virtioNetHdrSize + frame.length := by simpa using hk₁
    rw [List.getElem_map, List.getElem_range, h.buffer k hk, List.getD_eq_getElem _ _ hk₂]

/-- A slot that is not written stands for the same frame. -/
lemma Holds.congr {q r : TxQueue} {idx : ℕ} {frame : List UInt8} (h : Holds q idx frame)
    (hdesc : r.desc idx = q.desc idx) (hbuf : r.buffers idx = q.buffers idx) : Holds r idx frame :=
  ⟨by rw [hdesc]; exact h.desc, by rw [hbuf]; exact h.buffer⟩

/-! ## The order -/

/-- **The invariant of the order**: the entries at the device are numbered from the first one that
it has not returned, what it read are the frames up to the first one that it has not read, and the
slot of a frame that it has not returned stands for that frame. -/
structure TxOrder (n : ℕ) (s : TxState) : Prop where
  numbers : s.held.map Taken.number = List.range' s.completed s.held.length
  reads : s.reads = (s.accepted.take (s.completed + s.fetched.length)).map wireFrame
  slots : ∀ p frame, s.completed ≤ p → s.accepted[p]? = some frame →
    Holds s.toTxQueue (p % n) frame
  written : s.pc.Written s.toTxQueue (s.accepted.length % n)

section Order

variable {n l : ℕ} {s t : TxState} {frame : List UInt8}

/-- A call that looks for room has written nothing. -/
lemma SendPc.written_of_choosing {pc : SendPc} (h : pc.choosing = some frame) (q : TxQueue)
    (next : ℕ) : pc.Written q next := by
  cases pc <;> simp_all [SendPc.choosing, SendPc.Written]

/-- A call that writes no slot. -/
lemma TxOrder.setPc (hs : TxOrder n s) (pc : SendPc)
    (hpc : pc.Written s.toTxQueue (s.accepted.length % n)) : TxOrder n { s with pc := pc } :=
  { hs with written := hpc }

/-- The slot that the call in progress writes is not the slot of a frame that the device has not
returned. -/
lemma TxCount.slot_ne (hc : TxCount n s l) (hpc : s.pc.placing.isSome) {p : ℕ}
    (hp : s.completed ≤ p) (hlt : p < s.accepted.length) : p % n ≠ s.accepted.length % n := by
  have hroom := hc.placing hpc
  have hle := hc.sampled
  exact mod_ne hlt (by omega)

/-- The call in progress writes its slot. -/
lemma TxOrder.write (hs : TxOrder n s) (hc : TxCount n s l) (hpc : s.pc.placing.isSome)
    (hfetched : t.fetched = s.fetched) (htaken : t.taken = s.taken)
    (hcompleted : t.completed = s.completed) (hreads : t.reads = s.reads)
    (hacc : t.accepted = s.accepted)
    (hdesc : ∀ i, i ≠ s.accepted.length % n → t.desc i = s.desc i)
    (hbuf : ∀ i, i ≠ s.accepted.length % n → t.buffers i = s.buffers i)
    (hw : t.pc.Written t.toTxQueue (s.accepted.length % n)) : TxOrder n t := by
  constructor
  · rw [TxState.held, hfetched, htaken, hcompleted]
    exact hs.numbers
  · rw [hreads, hacc, hcompleted, hfetched]
    exact hs.reads
  · intro p f hp hf
    rw [hcompleted] at hp
    rw [hacc] at hf
    obtain ⟨hlt, -⟩ := List.getElem?_eq_some_iff.mp hf
    have hne := hc.slot_ne hpc hp hlt
    exact (hs.slots p f hp hf).congr (hdesc _ hne) (hbuf _ hne)
  · rw [hacc]
    exact hw

/-- The call makes its frame available. -/
lemma TxOrder.bump (hs : TxOrder n s) (hc : TxCount n s l) (hpc : s.pc = .bump frame) :
    TxOrder n { s with
      availIdx := s.availIdx + 1
      accepted := s.accepted ++ [frame]
      pc := .batch frame } := by
  have hbalance := hc.balance
  have htakes := hc.takes
  have hw := hs.written
  rw [hpc] at hw
  refine { hs with reads := ?_, slots := ?_, written := trivial }
  · simp only [TxState.held, List.length_append] at hbalance
    simp only
    rw [List.take_append_of_le_length (by omega)]
    exact hs.reads
  · intro p f hp hf
    simp only at hf
    rcases Nat.lt_trichotomy p s.accepted.length with hlt | rfl | hgt
    · rw [List.getElem?_append_left hlt] at hf
      exact (hs.slots p f hp hf).congr rfl rfl
    · obtain rfl : frame = f := by simpa using hf
      exact hw.congr rfl rfl
    · rw [List.getElem?_eq_none (by simp; omega)] at hf
      cases hf

/-- The number of an entry at the device. -/
lemma TxOrder.number (hs : TxOrder n s) {i : ℕ} {e : Taken} (he : s.held[i]? = some e) :
    e.number = s.completed + i := by
  have hmap : (s.held.map Taken.number)[i]? = some e.number := by
    rw [List.getElem?_map, he, Option.map_some]
  obtain ⟨hlt, -⟩ := List.getElem?_eq_some_iff.mp he
  rw [hs.numbers, List.getElem?_range' hlt, Nat.one_mul] at hmap
  exact (Option.some.inj hmap).symm

/-- What the device reads from the slot of a frame that it has not returned. -/
lemma TxOrder.readBuffer (hs : TxOrder n s) (hcalls : TxCalls s) {p : ℕ} (hp : s.completed ≤ p)
    (hlt : p < s.accepted.length) {id : UInt16} (hid : id.toNat = p % n) :
    s.readBuffer id = wireFrame s.accepted[p] := by
  have hholds := hs.slots p _ hp (List.getElem?_eq_getElem hlt)
  exact hholds.readBuffer (hcalls.length _ (List.getElem_mem hlt)) hid

/-- What the device reads from an entry that it has taken. -/
lemma TxOrder.readTaken (hs : TxOrder n s) (hc : TxCount n s l) (hcalls : TxCalls s) {i : ℕ}
    {e : Taken} (he : s.taken[i]? = some e) :
    ∃ h : s.completed + s.fetched.length + i < s.accepted.length,
      s.readBuffer e.id = wireFrame s.accepted[s.completed + s.fetched.length + i] := by
  have hheld : s.held[s.fetched.length + i]? = some e := by
    rw [TxState.held, List.getElem?_append_right (by omega), Nat.add_sub_cancel_left, he]
  have hnumber := hs.number hheld
  have hentry := hc.entries e (List.mem_of_getElem? hheld)
  have htakes := hc.takes
  rw [hnumber, ← Nat.add_assoc] at hentry
  have hlt : s.completed + s.fetched.length + i < s.accepted.length := by omega
  exact ⟨hlt, hs.readBuffer hcalls (by omega) hlt hentry.2⟩

/-- The device takes an entry. -/
lemma TxOrder.take (hs : TxOrder n s) (hc : TxCount n s l) (id : UInt16) (next : UInt16) :
    TxOrder n { s with
      taken := s.taken ++ [⟨s.takes, id⟩]
      deviceAvail := next
      takes := s.takes + 1 } := by
  refine { hs with numbers := ?_ }
  have hnumbers := hs.numbers
  have hbalance := hc.balance
  simp only [TxState.held] at hnumbers hbalance ⊢
  have hlen : (s.fetched ++ s.taken ++ [(⟨s.takes, id⟩ : Taken)]).length =
      (s.fetched ++ s.taken).length + 1 := List.length_append
  rw [← List.append_assoc, hlen, List.map_append, hnumbers, List.range'_1_concat, ← hbalance]
  rfl

/-- The device reads the entry that it took first. -/
lemma TxOrder.read (hs : TxOrder n s) (hc : TxCount n s l) (hcalls : TxCalls s) {e : Taken}
    (he : s.taken.head? = some e) :
    TxOrder n { s with
      taken := s.taken.erase e
      fetched := s.fetched ++ [e]
      reads := s.reads ++ [s.readBuffer e.id] } := by
  obtain ⟨rest, htaken⟩ := List.head?_eq_some_iff.mp he
  obtain ⟨hlt, hread⟩ : ∃ h : s.completed + s.fetched.length < s.accepted.length,
      s.readBuffer e.id = wireFrame s.accepted[s.completed + s.fetched.length] :=
    hs.readTaken hc hcalls (i := 0) (by rw [htaken]; rfl)
  have hheld : s.fetched ++ [e] ++ s.taken.erase e = s.held := by
    rw [TxState.held, htaken, List.erase_cons_head, List.append_assoc, List.singleton_append]
  refine { hs with numbers := ?_, reads := ?_ }
  · have hnumbers := hs.numbers
    rw [← hheld] at hnumbers
    exact hnumbers
  · simp only [List.length_append, List.length_singleton]
    rw [hread, hs.reads, ← Nat.add_assoc, List.take_add_one, List.map_append,
      List.getElem?_eq_getElem hlt]
    rfl

/-- The device returns the entry that it took first. -/
lemma TxOrder.complete (hs : TxOrder n s) {e : Taken} (he : s.fetched.head? = some e) :
    TxOrder n { s with
      fetched := s.fetched.erase e
      usedIdx := s.usedIdx + 1
      completed := s.completed + 1 } := by
  obtain ⟨rest, hfetched⟩ := List.head?_eq_some_iff.mp he
  have herase : s.fetched.erase e = rest := by rw [hfetched, List.erase_cons_head]
  refine { hs with numbers := ?_, reads := ?_, slots := ?_ }
  · have hnumbers := hs.numbers
    simp only [TxState.held, hfetched, List.cons_append, List.map_cons, List.length_cons,
      List.range'_succ] at hnumbers
    simp only [TxState.held, herase]
    exact (List.cons.inj hnumbers).2
  · have hreads := hs.reads
    rw [hfetched, List.length_cons] at hreads
    simp only [herase]
    rw [hreads, Nat.add_right_comm, Nat.add_assoc]
  · intro p f hp hf
    exact hs.slots p f (by simp only at hp; omega) hf

/-- **Step lemma.**

**Proof sketch.** One case per rule. The two copies write the slot of the call, and no entry that
is still to be read has this slot, by `TxCount`. -/
theorem TxOrder.step {a : TxAction} (hs : TxOrder n s) (hc : TxCount n s l) (hcalls : TxCalls s)
    (h : inOrderStep n s a = some t) : TxOrder n t := by
  obtain ⟨horder, h⟩ := inOrderStep_eq_some h
  have hwritten := hs.written
  cases txRule_of_txStep h with
  | refuse frame hpc => exact { hs with }
  | enter frame hpc => exact { hs.setPc (.sample frame) trivial with }
  | sample frame pc hpc hpc' =>
    exact { hs.setPc pc (SendPc.written_of_choosing hpc' _ _) with }
  | again frame pc hpc hpc' => exact hs.setPc pc (SendPc.written_of_choosing hpc' _ _)
  | room frame hpc hroom => exact hs.setPc (.slot frame) trivial
  | full frame hpc => exact { hs.setPc .idle trivial with }
  | slot frame hpc =>
    exact hs.write hc (by rw [hpc]; rfl) rfl rfl rfl rfl rfl (fun _ _ => rfl) (fun _ _ => rfl)
      trivial
  | header frame idx hpc =>
    obtain rfl := hc.index idx (by rw [hpc]; rfl)
    refine hs.write hc (by rw [hpc]; rfl) rfl rfl rfl rfl rfl (fun _ _ => rfl)
      (fun i hi => Function.update_of_ne hi _ _) fun k hk => ?_
    simp only [Function.update_self, if_pos hk]
  | payload frame idx hpc =>
    obtain rfl := hc.index idx (by rw [hpc]; rfl)
    rw [hpc] at hwritten
    refine hs.write hc (by rw [hpc]; rfl) rfl rfl rfl rfl rfl (fun _ _ => rfl)
      (fun i hi => Function.update_of_ne hi _ _) fun k hk => ?_
    simp only [Function.update_self]
    rcases Nat.lt_or_ge k virtioNetHdrSize with hlt | hge
    · rw [if_neg (by omega), hwritten k hlt, getD_wireFrame_of_lt hlt]
    · rw [if_pos ⟨hge, hk⟩, getD_wireFrame_of_le hge]
  | describe frame idx hpc =>
    obtain rfl := hc.index idx (by rw [hpc]; rfl)
    rw [hpc] at hwritten
    refine hs.write hc (by rw [hpc]; rfl) rfl rfl rfl rfl rfl
      (fun i hi => Function.update_of_ne hi _ _) (fun _ _ => rfl) ⟨?_, hwritten⟩
    simp only [Function.update_self]
  | enqueue frame idx hpc =>
    obtain rfl := hc.index idx (by rw [hpc]; rfl)
    rw [hpc] at hwritten
    exact hs.write hc (by rw [hpc]; rfl) rfl rfl rfl rfl rfl (fun _ _ => rfl) (fun _ _ => rfl)
      (hwritten.congr rfl rfl)
  | bump frame hpc => exact hs.bump hc hpc
  | batch frame count notify hpc =>
    exact ⟨hs.numbers, hs.reads, fun p f hp hf => (hs.slots p f hp hf).congr rfl rfl, trivial⟩
  | take hne => exact hs.take hc _ _
  | read e he => exact hs.read hc hcalls horder
  | complete e he => exact hs.complete horder
  | irq => exact { hs with }

/-- The order at the start. -/
lemma txOrder_txInit (n : ℕ) : TxOrder n txInit := by
  constructor <;> simp [txInit, TxState.held, SendPc.Written]

/-- What the device will read from the entries that it has taken. -/
lemma TxOrder.map_taken (hs : TxOrder n s) (hc : TxCount n s l) (hcalls : TxCalls s) :
    s.taken.map (fun e => s.readBuffer e.id) =
      ((s.accepted.drop (s.completed + s.fetched.length)).take s.taken.length).map wireFrame := by
  have hbalance := hc.balance
  have htakes := hc.takes
  rw [TxState.held, List.length_append] at hbalance
  apply List.ext_getElem
  · simp only [List.length_map, List.length_take, List.length_drop]
    omega
  · intro i hi hi'
    have hlt : i < s.taken.length := by simpa using hi
    obtain ⟨hlt', hread⟩ := hs.readTaken hc hcalls (List.getElem?_eq_getElem hlt)
    rw [List.getElem_map, hread, List.getElem_map, List.getElem_take, List.getElem_drop]

/-- What the device will read from the entries that it has not taken. -/
lemma TxOrder.map_avail (hs : TxOrder n s) (hc : TxCount n s l) (hcalls : TxCalls s)
    (hn : n ∣ 65536) (hn' : n ≤ 256) :
    (between n s.availRing s.deviceAvail s.availIdx).map s.readBuffer =
      (s.accepted.drop s.takes).map wireFrame := by
  have hbalance := hc.balance
  have htakes := hc.takes
  have hroom := hc.room
  have hsampled := hc.sampled
  rw [hc.between_eq hn hn']
  apply List.ext_getElem
  · simp
  · intro i hi hi'
    have hlt : i < s.accepted.length - s.takes := by simpa using hi
    have hid := hc.ring (s.takes + i) (by omega) (by omega)
    rw [List.getElem_map, List.getElem_map, List.getElem_drop, getElem_window]
    exact hs.readBuffer hcalls (by omega) (by omega) hid

end Order

/-! ## The main result -/

/-- The invariants together. -/
def TxFifo (n : ℕ) (s : TxState) : Prop := (∃ l, TxCount n s l) ∧ TxCalls s ∧ TxOrder n s

/-- The invariants hold in every reachable state. -/
theorem txFifo_reachable {n k : ℕ} (hpow : n = 2 ^ k) (hn : n ≤ 256) {s : TxState}
    (h : Reachable (inOrderStep n) txInit s) : TxFifo n s := by
  refine h.invariant (fun s a t hs hstep => ?_)
    ⟨⟨0, txCount_txInit n⟩, txCalls_txInit, txOrder_txInit n⟩
  obtain ⟨⟨l, hc⟩, hcalls, horder⟩ := hs
  have htx := (inOrderStep_eq_some hstep).2
  exact ⟨hc.step (dvd_of_pow_two hpow hn) hn htx, hcalls.step htx, horder.step hc hcalls hstep⟩

/-- **The transmit queue is a FIFO.** Let the queue size `n` be a power of two, at most 256, and let
the device read and return its entries in order. In every reachable state, what the device has read,
followed by what it will read from the entries that it has taken and from those that it has not, is
what was accepted, each frame once and in order, behind a header of zeros. Accepted are the frames
of the calls that returned `0`, and the frame of a call that is about to return. At most `n` frames
are outstanding. A call that returned `-1`, or is still looking for room, left the queue as it was.

**Proof sketch.** The indices count positions (`TxCount`), so the slot that a call writes is not the
slot of a frame that the device has not returned, and `TxOrder` is kept. -/
theorem tx_fifo (n k : ℕ) (hpow : n = 2 ^ k) (hn : n ≤ 256) {s : TxState}
    (h : Reachable (inOrderStep n) txInit s) :
    s.reads ++ (s.taken.map Taken.id ++ between n s.availRing s.deviceAvail s.availIdx).map
        s.readBuffer = s.accepted.map wireFrame ∧
      s.accepted = sentFrames s.calls ++ s.pc.queued ∧
      s.accepted.length ≤ s.completed + n ∧ span s.usedIdx s.availIdx ≤ n ∧
      (s.pc.choosing.isSome → s.toTxQueue = s.before) ∧
      (s.pc = .idle → ∀ frame, s.calls.getLast? = some (frame, -1) → s.toTxQueue = s.before) := by
  obtain ⟨⟨l, hc⟩, hcalls, horder⟩ := txFifo_reachable hpow hn h
  have hbalance := hc.balance
  have htakes := hc.takes
  have hroom := hc.room
  have hsampled := hc.sampled
  have hspan : span s.usedIdx s.availIdx = s.accepted.length - s.completed := by
    rw [hc.usedIdx, hc.availIdx]
    exact span_ofNat (by omega) (by omega)
  refine ⟨?_, hcalls.accepted, by omega, by omega, hcalls.choosing, hcalls.failed⟩
  have hsplit : s.takes = s.completed + s.fetched.length + s.taken.length := by
    rw [hbalance, TxState.held, List.length_append, Nat.add_assoc]
  calc s.reads ++ (s.taken.map Taken.id ++
        between n s.availRing s.deviceAvail s.availIdx).map s.readBuffer
      = s.reads ++ (s.taken.map (fun e => s.readBuffer e.id) ++
        (between n s.availRing s.deviceAvail s.availIdx).map s.readBuffer) := by
        rw [List.map_append, List.map_map]
        rfl
    _ = (s.accepted.take s.takes).map wireFrame ++ (s.accepted.drop s.takes).map wireFrame := by
        rw [horder.map_taken hc hcalls, horder.map_avail hc hcalls (dvd_of_pow_two hpow hn) hn,
          horder.reads, ← List.append_assoc, ← List.map_append, ← List.take_add, hsplit]
    _ = s.accepted.map wireFrame := by rw [← List.map_append, List.take_append_drop]

/-- A frame of two bytes is sent, taken, read and returned. -/
def twoByteRun : List TxAction :=
  .send (some [7, 9]) :: List.replicate 9 .call ++
    [.take, .read ⟨0, 0⟩, .complete ⟨0, 0⟩, .irq]

/-- The device reads the two bytes behind the header. -/
theorem tx_fifo_twoBytes :
    ∃ s, exec (inOrderStep 8) txInit twoByteRun = some s ∧
      s.reads ++ (s.taken.map Taken.id ++ between 8 s.availRing s.deviceAvail s.availIdx).map
        s.readBuffer = [[0, 0, 0, 0, 0, 0, 0, 0, 0, 0, 0, 0, 7, 9]] := by
  have hsome : (exec (inOrderStep 8) txInit twoByteRun).isSome = true := by decide
  obtain ⟨s, hs⟩ := Option.isSome_iff_exists.mp hsome
  have hacc : (exec (inOrderStep 8) txInit twoByteRun).map TxState.accepted = some [[7, 9]] := by
    decide
  rw [hs, Option.map_some, Option.some.injEq] at hacc
  refine ⟨s, hs, ?_⟩
  rw [(tx_fifo 8 3 rfl (by decide) ⟨twoByteRun, hs⟩).1, hacc]
  rfl

end Driver
