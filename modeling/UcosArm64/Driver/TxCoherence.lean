import UcosArm64.Driver.RxCoherence

set_option relaxedAutoImplicit false
set_option autoImplicit false

/-!
# What the device reads of a transmitted frame

`virtio_net_send_frame_dev` writes a frame, its descriptor and its entry of the avail ring through
the data cache, and the device reads them in memory. The call cleans the lines of the frame and of
the descriptor before it advances the avail index, so that the device, which looks at the index
first, finds both in memory, even if the cache writes the line of the index back on its own. The
entry of the ring it cleans only after it has advanced the index, unlike the functions that give
receive buffers back; so the device may see the new index together with an old entry. As a slot
always has the same entry, this can happen only in the first call for it.

## Main definitions

* `Driver.TxStorage` — the buffers, the descriptors and the avail ring, in memory.
* `Driver.txWrites`, `Driver.txCleans` — what a call does before and after it advances the index.
* `Driver.TxDma`, `Driver.txDmaStep` — the cache and the driver.
* `Driver.TxStorage.Holds` — a memory holds a frame and its descriptor.

## Main results

* `Driver.TxOwned.step` — what the memory holds.
* `Driver.txFrame_coherent` — the device reads the frames as they were sent.
* `Driver.txRing_stale` — the device can see an index before the entry of the ring.
* `Driver.txRing_kept` — but only in the first call for a slot.

## Design

The device only reads, and so is no party of the system: what it could read is the memory. An
access of more than a byte that takes effect at once is the store to the index; the others are
broken up into bytes, which can only add states. What other code does is arbitrary, as long as it
stores nothing in the queue, and lets no device write to a line of it or invalidates one; this
covers what the call itself does to the used ring.
-/

namespace Driver

open Bsp DataCache Transition

/-- `g_tx_buffer_storage`, `g_tx_desc` and `g_tx_avail` of a device; `tx_queue_size` of each are in
use. A `struct vring_avail` has 518 bytes, so that of the second device does not start on a line of
its own; what both have is that the index and the entries of the ring do not cross the end of a
line. -/
structure TxStorage where
  buffers : ℕ
  descs : ℕ
  avail : ℕ
  count : ℕ
  pos : 0 < count
  count_le : count ≤ 256
  avail_even : avail % 2 = 0
  buffers_fits : buffers + count * virtioNetBufferSize ≤ 2 ^ 64 - 64
  descs_fits : descs + count * 16 ≤ 2 ^ 64 - 64
  avail_fits : avail + 4 + count * 2 ≤ 2 ^ 64 - 64
  buffers_descs : buffers + count * virtioNetBufferSize ≤ descs ∨ descs + count * 16 ≤ buffers
  buffers_avail : buffers + count * virtioNetBufferSize ≤ avail ∨ avail + 4 + count * 2 ≤ buffers
  descs_avail : descs + count * 16 ≤ avail ∨ avail + 4 + count * 2 ≤ descs

namespace TxStorage

variable (L : TxStorage)

/-- `tx_buffers[k]` -/
def buffer (k : ℕ) : ℕ := L.buffers + k * virtioNetBufferSize

/-- `&desc[k]` -/
def desc (k : ℕ) : ℕ := L.descs + k * 16

/-- `&avail->idx` -/
def idx : ℕ := L.avail + 2

/-- `&avail->ring[k]` -/
def ring (k : ℕ) : ℕ := L.avail + 4 + k * 2

/-- An address of the queue. -/
def Ours (x : ℕ) : Prop :=
  L.buffers ≤ x ∧ x < L.buffers + L.count * virtioNetBufferSize ∨
    L.descs ≤ x ∧ x < L.descs + L.count * 16 ∨ L.avail ≤ x ∧ x < L.avail + 4 + L.count * 2

instance (x : ℕ) : Decidable (L.Ours x) := inferInstanceAs (Decidable (_ ∨ _ ∨ _))

/-- The line `l` meets the addresses from `lo` to `hi`. -/
def Meets (lo hi l : ℕ) : Prop := lo < 64 * l + 64 ∧ 64 * l < hi

/-- A line of the queue. -/
def OursLine (l : ℕ) : Prop :=
  Meets L.buffers (L.buffers + L.count * virtioNetBufferSize) l ∨
    Meets L.descs (L.descs + L.count * 16) l ∨ Meets L.avail (L.avail + 4 + L.count * 2) l

instance (l : ℕ) : Decidable (L.OursLine l) :=
  inferInstanceAs (Decidable ((_ ∧ _) ∨ (_ ∧ _) ∨ _ ∧ _))

end TxStorage

/-! ## The accesses of a call -/

/-- The bytes of an `uint16_t`. -/
def bytes16 (v : UInt16) : List UInt8 := [v.toUInt8, (v >>> 8).toUInt8]

/-- The bytes of an `uint32_t`. -/
def bytes32 (v : UInt32) : List UInt8 := bytes16 v.toUInt16 ++ bytes16 (v >>> 16).toUInt16

/-- The bytes of an `uint64_t`. -/
def bytes64 (v : UInt64) : List UInt8 := bytes32 v.toUInt32 ++ bytes32 (v >>> 32).toUInt32

/-- The `uint16_t` at an address. -/
def read16 (m : ℕ → UInt8) (a : ℕ) : UInt16 := UInt16.ofNat ((m a).toNat + 256 * (m (a + 1)).toNat)

/-- Stores of bytes, one after the other. -/
def storeBytes (a : ℕ) : List UInt8 → List (CacheOp ℕ ℕ UInt8)
  | [] => []
  | b :: bs => .store a b :: storeBytes (a + 1) bs

/-- The buffer of a frame: a header of zeros, and the frame. -/
def bufferBytes (frame : List UInt8) : List UInt8 := List.replicate virtioNetHdrSize 0 ++ frame

/-- The descriptor of a frame: the address of the buffer, its length, and zeros for `flags` and
`next`. -/
def descBytes (buffer length : ℕ) : List UInt8 :=
  bytes64 (UInt64.ofNat buffer) ++ bytes32 (UInt32.ofNat (length + virtioNetHdrSize)) ++
    bytes16 0 ++
    bytes16 0

/-- The accesses of `virtio_net_send_frame_dev` for the slot `k`, up to `avail->ring[idx] = idx`. -/
def txWrites (L : TxStorage) (k : ℕ) (frame : List UInt8) : Option (List (CacheOp ℕ ℕ UInt8)) :=
  (cacheCleanRange (UInt64.ofNat (L.buffer k))
    (UInt64.ofNat (frame.length + virtioNetHdrSize))).bind
    fun cleanBuffer =>
      (cacheCleanRange (UInt64.ofNat (L.desc k)) 16).map fun cleanDesc =>
        storeBytes (L.buffer k) (bufferBytes frame) ++ cleanBuffer ++
          (storeBytes (L.desc k) (descBytes (L.buffer k) frame.length) ++ cleanDesc ++
            storeBytes (L.ring k) (bytes16 (UInt16.ofNat k)))

/-- Its accesses after `avail->idx++`. -/
def txCleans (L : TxStorage) (k : ℕ) : Option (List (CacheOp ℕ ℕ UInt8)) :=
  (cacheCleanRange (UInt64.ofNat (L.ring k)) 2).bind fun cleanRing =>
    (cacheCleanRange (UInt64.ofNat L.idx) 2).map fun cleanIdx => cleanRing ++ cleanIdx

/-- Where the driver is: in no call; in one for the slot `k`, with accesses to do before it
advances the index; or with lines to clean after that. -/
inductive TxPlace
  | idle
  | writing (k : ℕ) (frame : List UInt8) (ops : List (CacheOp ℕ ℕ UInt8))
  | cleaning (k : ℕ) (ops : List (CacheOp ℕ ℕ UInt8))

/-- The memory with the cache, the memory without it, the place of the driver, and the frames that
it has made available and not begun to replace, by slot. -/
structure TxDma where
  cache : Cached ℕ ℕ UInt8
  flat : ℕ → UInt8
  place : TxPlace
  sent : ℕ → Option (List UInt8)

/-- After `virtio_net_prepare_tx`. -/
def txDmaStart (c : Cached ℕ ℕ UInt8) : TxDma := ⟨c, c.view cacheLine, .idle, fun _ => none⟩

/-- An access to the memory. -/
def TxDma.act (s : TxDma) (op : CacheOp ℕ ℕ UInt8) : TxDma :=
  { s with cache := op.apply cacheLine s.cache, flat := op.flat s.flat }

/-- `avail->idx`, as the driver reads it. -/
def TxDma.availIdx (L : TxStorage) (s : TxDma) : UInt16 := read16 (s.cache.view cacheLine) L.idx

/-- The actions: an operation of the cache or of other code; a call, which has found room; and the
next access of the driver. -/
inductive TxDmaAction
  | other (op : CacheOp ℕ ℕ UInt8)
  | send (frame : List UInt8)
  | driver

/-- What other code and the cache may do. -/
def TxStorage.Other (L : TxStorage) : CacheOp ℕ ℕ UInt8 → Prop
  | .fill _ | .evict _ | .clean _ | .cleanInvalidate _ => True
  | .invalidate l => ¬ L.OursLine l
  | .store x _ => ¬ L.Ours x
  | .device x _ => ¬ L.OursLine (cacheLine x)

instance (L : TxStorage) (op : CacheOp ℕ ℕ UInt8) : Decidable (L.Other op) := by
  cases op <;> unfold TxStorage.Other <;> infer_instance

/-- The next access of the driver. -/
def txDriverStep (L : TxStorage) (s : TxDma) : Option TxDma :=
  match s.place with
  | .idle => none
  | .writing k frame (op :: ops) => some { s.act op with place := .writing k frame ops }
  | .writing k frame [] =>
    -- the two bytes of the index change at once
    let idx := s.availIdx L + 1
    (txCleans L k).map fun ops =>
      { (s.act (.store L.idx idx.toUInt8)).act (.store (L.idx + 1) (idx >>> 8).toUInt8) with
        place := .cleaning k ops
        sent := Function.update s.sent k (some frame) }
  | .cleaning k (op :: ops) => some { s.act op with place := .cleaning k ops }
  | .cleaning _ [] => some { s with place := .idle }

/-- The steps. -/
def txDmaStep (L : TxStorage) (s : TxDma) : TxDmaAction → Option TxDma
  | .other op => if L.Other op then some (s.act op) else none
  | .send frame =>
    match s.place with
    | .idle =>
      if frame.length ≤ virtioNetMaxFrameSize then
        let k := (s.availIdx L).toNat % L.count
        (txWrites L k frame).map fun ops =>
          { s with place := .writing k frame ops, sent := Function.update s.sent k none }
      else none
    | _ => none
  | .driver => txDriverStep L s

/-- The bytes at an address. -/
def HoldsAt (m : ℕ → UInt8) (a : ℕ) (bs : List UInt8) : Prop := ∀ o (h : o < bs.length),
    m (a + o) = bs[o]

/-- **The memory holds a frame**, with its header and its descriptor, in the slot `k`. -/
def TxStorage.Holds (L : TxStorage) (m : ℕ → UInt8) (k : ℕ) (frame : List UInt8) : Prop :=
  HoldsAt m (L.buffer k) (bufferBytes frame) ∧ HoldsAt m (L.desc k)
    (descBytes (L.buffer k) frame.length)

section

variable {L : TxStorage} {k j x a n : ℕ} {frame : List UInt8} {bs : List UInt8} {m : ℕ → UInt8}
  {ops : List (CacheOp ℕ ℕ UInt8)}

/-! ## Bytes -/

/-- The value that two bytes in memory stand for. -/
lemma read16_of_holdsAt {v : UInt16} (h : HoldsAt m a (bytes16 v)) : read16 m a = v := by
  have h₀ : m a = v.toUInt8 := h 0 Nat.two_pos
  have h₁ : m (a + 1) = (v >>> 8).toUInt8 := h 1 Nat.one_lt_two
  have hlow : v.toUInt8.toNat = v.toNat % 256 := UInt16.toNat_toUInt8 v
  have hhigh : (v >>> 8).toUInt8.toNat = v.toNat / 256 % 256 := by
    rw [UInt16.toNat_toUInt8, UInt16.toNat_shiftRight]
    exact congrArg (· % 256) (Nat.shiftRight_eq_div_pow _ _)
  have hv := v.toNat_lt
  apply UInt16.toNat_inj.mp
  unfold read16
  rw [h₀, h₁, hlow, hhigh, UInt16.toNat_ofNat']
  omega

/-- The memory after several accesses, without a cache. -/
def flatAll (ops : List (CacheOp ℕ ℕ UInt8)) (m : ℕ → UInt8) : ℕ → UInt8 :=
  ops.foldl (fun m op => op.flat m) m

/-- Accesses one after the other, without a cache. -/
lemma flatAll_append (ops ops' : List (CacheOp ℕ ℕ UInt8)) :
    flatAll (ops ++ ops') m = flatAll ops' (flatAll ops m) := List.foldl_append

/-- An access that does not store to the address `x`. -/
def Spares (x : ℕ) (op : CacheOp ℕ ℕ UInt8) : Prop := (∃ y b, op = .store y b ∧ y ≠ x) ∨
    ∃ l, op = .clean l

/-- An address that no access stores to. -/
lemma flatAll_of_spares (hops : ∀ op ∈ ops, Spares x op) : flatAll ops m x = m x := by
  induction ops generalizing m with
  | nil => rfl
  | cons op ops ih =>
    refine (ih fun op' h => hops op' (List.mem_cons_of_mem _ h)).trans ?_
    rcases hops op List.mem_cons_self with ⟨y, b, rfl, hy⟩ | ⟨l, rfl⟩
    · exact Function.update_of_ne (Ne.symm hy) _ _
    · rfl

/-- The stores of bytes go to their places. -/
lemma mem_storeBytes {op : CacheOp ℕ ℕ UInt8} (h : op ∈ storeBytes a bs) :
    ∃ o, ∃ ho : o < bs.length, op = .store (a + o) bs[o] := by
  induction bs generalizing a with
  | nil => cases h
  | cons b bs ih =>
    rcases List.mem_cons.mp h with rfl | h
    · exact ⟨0, by simp, rfl⟩
    · obtain ⟨o, ho, rfl⟩ := ih h
      exact ⟨o + 1, by simpa using ho, by rw [Nat.add_right_comm, Nat.add_assoc]; rfl⟩

/-- **Bytes that have been stored.** -/
lemma holdsAt_storeBytes (a : ℕ) (bs : List UInt8) (m : ℕ → UInt8) :
    HoldsAt (flatAll (storeBytes a bs) m) a bs := by
  induction bs generalizing a m with
  | nil => exact fun o h => absurd h (Nat.not_lt_zero o)
  | cons b bs ih =>
    intro o ho
    cases o with
    | zero =>
      show flatAll (storeBytes (a + 1) bs) (Function.update m a b) a = b
      refine (flatAll_of_spares fun op hop => ?_).trans (Function.update_self a b m)
      obtain ⟨o, -, rfl⟩ := mem_storeBytes hop
      exact Or.inl ⟨_, _, rfl, by omega⟩
    | succ o =>
      have hrest := ih (a + 1) (Function.update m a b) o (by simpa using ho)
      rw [Nat.add_right_comm, Nat.add_assoc] at hrest
      exact hrest

/-- What the memory holds depends on those bytes only. -/
lemma HoldsAt.congr {m' : ℕ → UInt8} (h : HoldsAt m a bs)
    (heq : ∀ x, a ≤ x → x < a + bs.length → m' x = m x) : HoldsAt m' a bs := fun o ho =>
  (heq (a + o) (by omega) (by omega)).trans (h o ho)

/-- A frame lies in its buffer behind the header. -/
lemma length_bufferBytes (frame : List UInt8) :
    (bufferBytes frame).length = frame.length + virtioNetHdrSize := by
  rw [bufferBytes, List.length_append, List.length_replicate, Nat.add_comm]

/-- A descriptor has 16 bytes. -/
lemma length_descBytes (buffer length : ℕ) : (descBytes buffer length).length = 16 := rfl

/-- A frame fits into its buffer. -/
lemma frame_fits (hlen : frame.length ≤ virtioNetMaxFrameSize) :
    frame.length + virtioNetHdrSize ≤ virtioNetBufferSize := by
  unfold virtioNetMaxFrameSize at hlen
  unfold virtioNetHdrSize virtioNetBufferSize
  omega

/-! ## Places -/

/-- The bytes of a frame and of its descriptor. -/
def TxStorage.InFrame (L : TxStorage) (k : ℕ) (frame : List UInt8) (x : ℕ) : Prop :=
  L.buffer k ≤ x ∧ x < L.buffer k + (frame.length + virtioNetHdrSize) ∨ L.desc k ≤ x ∧
    x < L.desc k + 16

/-- The bytes of an entry of the ring. -/
def TxStorage.InRing (L : TxStorage) (k x : ℕ) : Prop := L.ring k ≤ x ∧ x < L.ring k + 2

/-- The bytes of the index. -/
def TxStorage.InIdx (L : TxStorage) (x : ℕ) : Prop := L.idx ≤ x ∧ x < L.idx + 2

/-- The places of a slot lie in the queue. -/
lemma TxStorage.slot_bounds (hk : k < L.count) :
    L.buffers ≤ L.buffer k ∧ L.buffer k + virtioNetBufferSize ≤ L.buffers +
      L.count * virtioNetBufferSize ∧
      L.descs ≤ L.desc k ∧ L.desc k + 16 ≤ L.descs + L.count * 16 ∧
      L.avail + 4 ≤ L.ring k ∧ L.ring k + 2 ≤ L.avail + 4 + L.count * 2 := by
  unfold TxStorage.buffer TxStorage.desc TxStorage.ring virtioNetBufferSize
  omega

/-- **The places of two slots** have nothing in common, and neither has the index. -/
lemma TxStorage.InFrame.ne (hk : k < L.count) (hlen : frame.length ≤ virtioNetMaxFrameSize)
    (h : L.InFrame k frame x) : ¬ L.InIdx x ∧ (∀ j < L.count, ¬ L.InRing j x) ∧
      ∀ j < L.count, j ≠ k → ∀ frame', frame'.length ≤ virtioNetMaxFrameSize →
      ¬ L.InFrame j frame' x := by
  have hfit := frame_fits hlen
  obtain ⟨hb, hb', hd, hd', -, -⟩ := L.slot_bounds hk
  have h₁ := L.buffers_descs
  have h₂ := L.buffers_avail
  have h₃ := L.descs_avail
  refine ⟨fun hx => ?_, fun j hj hx => ?_, fun j hj hjk frame' hlen' hx => ?_⟩
  · unfold TxStorage.InFrame at h
    unfold TxStorage.InIdx TxStorage.idx at hx
    have hpos := L.pos
    omega
  · obtain ⟨-, -, -, -, hr, hr'⟩ := L.slot_bounds hj
    unfold TxStorage.InFrame at h
    unfold TxStorage.InRing at hx
    omega
  · obtain ⟨hb₂, hb₂', hd₂, hd₂', -, -⟩ := L.slot_bounds hj
    have hfit' := frame_fits hlen'
    unfold TxStorage.InFrame at h hx
    have hbuf : L.buffer k + virtioNetBufferSize ≤ L.buffer j ∨
        L.buffer j + virtioNetBufferSize ≤ L.buffer k := by
      unfold TxStorage.buffer
      rcases Nat.lt_or_gt_of_ne hjk with hlt | hlt
      · have := Nat.mul_le_mul_right virtioNetBufferSize (Nat.succ_le_of_lt hlt)
        rw [Nat.succ_mul] at this
        omega
      · have := Nat.mul_le_mul_right virtioNetBufferSize (Nat.succ_le_of_lt hlt)
        rw [Nat.succ_mul] at this
        omega
    have hdesc : L.desc k + 16 ≤ L.desc j ∨ L.desc j + 16 ≤ L.desc k := by
      unfold TxStorage.desc
      omega
    omega

/-- A byte of a ring entry is none of the index, and none of another entry. -/
lemma TxStorage.InRing.ne (hx : L.InRing k x) : ¬ L.InIdx x ∧ ∀ j, j ≠ k → ¬ L.InRing j x := by
  unfold TxStorage.InIdx TxStorage.InRing TxStorage.idx TxStorage.ring at *
  exact ⟨by omega, fun j hj => by omega⟩

/-- The bytes of a ring entry. -/
lemma inRing_add {o : ℕ} {v : UInt16} (ho : o < (bytes16 v).length) : L.InRing k (L.ring k + o) :=
  ⟨Nat.le_add_right _ _, Nat.add_lt_add_left ho _⟩

/-- All of them are addresses of the queue. -/
lemma TxStorage.InFrame.ours (hk : k < L.count) (hlen : frame.length ≤ virtioNetMaxFrameSize)
    (h : L.InFrame k frame x) : L.Ours x := by
  have hfit := frame_fits hlen
  obtain ⟨hb, hb', hd, hd', -, -⟩ := L.slot_bounds hk
  unfold TxStorage.InFrame at h
  unfold TxStorage.Ours
  omega

/-- A ring entry is part of the queue. -/
lemma TxStorage.InRing.ours (hk : k < L.count) (h : L.InRing k x) : L.Ours x := by
  obtain ⟨-, -, -, -, hr, hr'⟩ := L.slot_bounds hk
  unfold TxStorage.InRing at h
  unfold TxStorage.Ours
  omega

/-- The index is part of the queue. -/
lemma TxStorage.InIdx.ours (h : L.InIdx x) : L.Ours x := by
  have hpos := L.pos
  unfold TxStorage.InIdx TxStorage.idx at h
  unfold TxStorage.Ours
  omega

/-- The lines of addresses of the queue are lines of the queue. -/
lemma TxStorage.Ours.line (h : L.Ours x) : L.OursLine (cacheLine x) := by
  unfold TxStorage.Ours at h
  unfold TxStorage.OursLine TxStorage.Meets cacheLine
  omega

/-! ## The accesses of a call -/

/-- A call of `cache_clean_range` for a range of the queue. -/
lemma cacheCleanRange_ofNat (h : a + n ≤ 2 ^ 64 - 64) :
    cacheCleanRange (UInt64.ofNat a) (UInt64.ofNat n) = some ((linesOf a n).map .clean) := by
  have ha : (UInt64.ofNat a).toNat = a := by
    rw [UInt64.toNat_ofNat']
    exact Nat.mod_eq_of_lt (by omega)
  have hn : (UInt64.ofNat n).toNat = n := by
    rw [UInt64.toNat_ofNat']
    exact Nat.mod_eq_of_lt (by omega)
  have hrange := cacheRange_linesOf .clean (UInt64.ofNat a) (UInt64.ofNat n)
    (by rw [ha, hn]; exact h)
  rw [ha, hn] at hrange
  exact hrange

/-- An access of a call before the index: a store to the frame or its descriptor, one to the entry
of the ring, or the cleaning of a line. -/
def TxStorage.Writes (L : TxStorage) (k : ℕ) (frame : List UInt8) (op : CacheOp ℕ ℕ UInt8) : Prop :=
  (∃ y b, op = .store y b ∧ L.InFrame k frame y) ∨
    (∃ o, ∃ ho : o < (bytes16 (UInt16.ofNat k)).length,
      op = .store (L.ring k + o) (bytes16 (UInt16.ofNat k))[o]) ∨
    ∃ l, op = .clean l

/-- **What is left of a call** before it advances the index, if the memory without a cache is `m`
and `p` says where the memory holds the same: in the end the slot holds the frame and the entry of
the ring, and the memory holds the frame too. -/
structure TxStorage.Left (L : TxStorage) (k : ℕ) (frame : List UInt8) (p : ℕ → Prop) (m : ℕ → UInt8)
    (ops : List (CacheOp ℕ ℕ UInt8)) : Prop where
  writes : ∀ op ∈ ops, L.Writes k frame op
  holds : L.Holds (flatAll ops m) k frame
  ring : HoldsAt (flatAll ops m) (L.ring k) (bytes16 (UInt16.ofNat k))
  settles : ∀ x, L.InFrame k frame x → Settles cacheLine x (p x) ops

/-- Stores of bytes spare the bytes beside them. -/
lemma spares_of_storeBytes {op : CacheOp ℕ ℕ UInt8} (hop : op ∈ storeBytes a bs)
    (hx : x < a ∨ a + bs.length ≤ x) : Spares x op := by
  obtain ⟨o, ho, rfl⟩ := mem_storeBytes hop
  exact Or.inl ⟨_, _, rfl, by omega⟩

/-- Cleaning stores nothing. -/
lemma spares_of_clean {op : CacheOp ℕ ℕ UInt8} {ls : List ℕ} (hop : op ∈ ls.map .clean) :
    Spares x op := by
  obtain ⟨l, -, rfl⟩ := List.mem_map.mp hop
  exact Or.inr ⟨l, rfl⟩

/-- A store that spares a byte goes elsewhere. -/
lemma Spares.ne {y : ℕ} {b : UInt8} (h : Spares x (.store y b)) : y ≠ x := by
  rcases h with ⟨y', b', he, hy'⟩ | ⟨l, he⟩
  · exact (CacheOp.store.inj he).1 ▸ hy'
  · cases he

/-- Bytes are stored, and their lines are cleaned. -/
def storeClean (a : ℕ) (bs : List UInt8) : List (CacheOp ℕ ℕ UInt8) :=
  storeBytes a bs ++ (linesOf a bs.length).map .clean

/-- What is in a store with its cleaning: stores of the bytes, and cleanings. -/
lemma mem_storeClean {op : CacheOp ℕ ℕ UInt8} (h : op ∈ storeClean a bs) :
    (∃ o, ∃ ho : o < bs.length, op = .store (a + o) bs[o]) ∨ ∃ l, op = .clean l := by
  rcases List.mem_append.mp h with h | h
  · exact Or.inl (mem_storeBytes h)
  · obtain ⟨l, -, rfl⟩ := List.mem_map.mp h
    exact Or.inr ⟨l, rfl⟩

/-- A store with its cleaning spares the bytes beside it. -/
lemma spares_of_storeClean {op : CacheOp ℕ ℕ UInt8} (hop : op ∈ storeClean a bs)
    (hx : x < a ∨ a + bs.length ≤ x) : Spares x op :=
  (List.mem_append.mp hop).elim (spares_of_storeBytes · hx) spares_of_clean

/-- **Bytes that are stored and whose lines are cleaned** are in the memory, if nothing else is
stored there after that. -/
lemma storeClean_spec (pre : List (CacheOp ℕ ℕ UInt8)) (a : ℕ) (bs : List UInt8)
    {post : List (CacheOp ℕ ℕ UInt8)}
    (hpost : ∀ x, a ≤ x → x < a + bs.length → ∀ op ∈ post, Spares x op) (m : ℕ → UInt8) :
    HoldsAt (flatAll (pre ++ (storeClean a bs ++ post)) m) a bs ∧ ∀ x, a ≤ x → x < a + bs.length →
      ∀ p, Settles cacheLine x p (pre ++ (storeClean a bs ++ post)) := by
  have hafter : ∀ x, a ≤ x → x < a + bs.length →
      ∀ op ∈ (linesOf a bs.length).map CacheOp.clean ++ post, Spares x op := fun x hle hlt op hop =>
    (List.mem_append.mp hop).elim spares_of_clean (hpost x hle hlt op)
  unfold storeClean
  rw [List.append_assoc]
  refine ⟨?_, fun x hle hlt p => ?_⟩
  · rw [flatAll_append, flatAll_append]
    refine (holdsAt_storeBytes a bs (flatAll pre m)).congr fun x hle hlt => ?_
    exact flatAll_of_spares (hafter x hle hlt)
  · rw [settles_append, settles_append]
    refine settles_of_clean (List.mem_append_left _ ?_) fun y b hy => (hafter x hle hlt _ hy).ne
    refine List.mem_map.mpr ⟨_, mem_linesOf.mpr ⟨x - a, by omega, ?_⟩, rfl⟩
    rw [Nat.add_sub_cancel' hle]

/-- The accesses of a call to the frame and to its descriptor. -/
def frameOps (L : TxStorage) (k : ℕ) (frame : List UInt8) : List (CacheOp ℕ ℕ UInt8) :=
  storeClean (L.buffer k) (bufferBytes frame) ++
    storeClean (L.desc k) (descBytes (L.buffer k) frame.length)

/-- Those before the index. -/
def slotOps (L : TxStorage) (k : ℕ) (frame : List UInt8) : List (CacheOp ℕ ℕ UInt8) :=
  frameOps L k frame ++ storeBytes (L.ring k) (bytes16 (UInt16.ofNat k))

/-- The loops of the cleanings end, and a call makes its accesses before it advances the index. -/
lemma txWrites_eq (hk : k < L.count) (hlen : frame.length ≤ virtioNetMaxFrameSize) :
    txWrites L k frame = some (slotOps L k frame) := by
  have hfit := frame_fits hlen
  obtain ⟨hb, hb', hd, hd', -, -⟩ := L.slot_bounds hk
  have hfits := L.buffers_fits
  have hfits' := L.descs_fits
  rw [txWrites, cacheCleanRange_ofNat (by omega), Option.bind_some,
    show (16 : UInt64) = UInt64.ofNat 16 from rfl, cacheCleanRange_ofNat (by omega),
    Option.map_some,
    slotOps, frameOps, storeClean, length_bufferBytes, storeClean, length_descBytes]
  simp only [List.append_assoc]

/-- **What a call does before it advances the index.**

**Proof sketch.** The stores to the three places of the slot do not overlap, and the lines of the
first two are cleaned after the stores to them. -/
lemma slotOps_left (hk : k < L.count) (hlen : frame.length ≤ virtioNetMaxFrameSize) (p : ℕ → Prop)
    (m : ℕ → UInt8) : L.Left k frame p m (slotOps L k frame) := by
  have hfit := frame_fits hlen
  obtain ⟨hb, hb', hd, hd', hr, hr'⟩ := L.slot_bounds hk
  have h₁ := L.buffers_descs
  have h₂ := L.buffers_avail
  have h₃ := L.descs_avail
  have hbuf := length_bufferBytes frame
  have hdesc := length_descBytes (L.buffer k) frame.length
  have hring : (bytes16 (UInt16.ofNat k)).length = 2 := rfl
  have hafter : ∀ x, L.desc k ≤ x → x < L.desc k + 16 →
      ∀ op ∈ storeBytes (L.ring k) (bytes16 (UInt16.ofNat k)), Spares x op :=
        fun x hle hlt op hop =>
    spares_of_storeBytes hop (by omega)
  have hafter' : ∀ x, L.buffer k ≤ x → x < L.buffer k + (bufferBytes frame).length →
      ∀ op ∈ storeClean (L.desc k) (descBytes (L.buffer k) frame.length) ++
        storeBytes (L.ring k) (bytes16 (UInt16.ofNat k)), Spares x op := fun x hle hlt op hop =>
    (List.mem_append.mp hop).elim (spares_of_storeClean · (by omega))
      (spares_of_storeBytes · (by omega))
  obtain ⟨hframe, hframe'⟩ := storeClean_spec [] (L.buffer k) (bufferBytes frame) hafter' m
  obtain ⟨hdescs, hdescs'⟩ :=
    storeClean_spec (storeClean (L.buffer k) (bufferBytes frame)) (L.desc k)
    (descBytes (L.buffer k) frame.length) hafter m
  rw [slotOps, frameOps, List.append_assoc]
  refine ⟨fun op hop => ?_, ⟨hframe, hdescs⟩, ?_, fun x hx => ?_⟩
  · simp only [List.mem_append] at hop
    rcases hop with hop | hop | hop
    · rcases mem_storeClean hop with ⟨o, ho, rfl⟩ | hclean
      · exact Or.inl ⟨_, _, rfl, Or.inl ⟨by omega, by omega⟩⟩
      · exact Or.inr (Or.inr hclean)
    · rcases mem_storeClean hop with ⟨o, ho, rfl⟩ | hclean
      · exact Or.inl ⟨_, _, rfl, Or.inr ⟨by omega, by omega⟩⟩
      · exact Or.inr (Or.inr hclean)
    · exact Or.inr (Or.inl (mem_storeBytes hop))
  · rw [← List.append_assoc, flatAll_append]
    exact holdsAt_storeBytes (L.ring k) _ _
  · rcases hx with ⟨hle, hlt⟩ | ⟨hle, hlt⟩
    · exact hframe' x hle (hbuf.symm ▸ hlt) _
    · exact hdescs' x hle hlt _

/-- **What a call does after it has advanced the index**: it cleans the entry of the ring and the
index. -/
lemma txCleans_spec (hk : k < L.count) : ∃ ops, txCleans L k = some ops ∧
    (∀ op ∈ ops, ∃ l, op = .clean l) ∧
    ∀ x, L.InRing k x ∨ L.InIdx x → CacheOp.clean (cacheLine x) ∈ ops := by
  obtain ⟨-, -, -, -, hr, hr'⟩ := L.slot_bounds hk
  have hfits := L.avail_fits
  refine ⟨(linesOf (L.ring k) 2).map .clean ++ (linesOf L.idx 2).map .clean, ?_,
    fun op hop => ?_, ?_⟩
  · have hidx : L.idx + 2 ≤ 2 ^ 64 - 64 := by
      unfold TxStorage.idx
      omega
    rw [txCleans, show (2 : UInt64) = UInt64.ofNat 2 from rfl, cacheCleanRange_ofNat (by omega),
      Option.bind_some, cacheCleanRange_ofNat hidx, Option.map_some]
  · rw [← List.map_append] at hop
    obtain ⟨l, -, rfl⟩ := List.mem_map.mp hop
    exact ⟨l, rfl⟩
  · rintro x (⟨hle, hlt⟩ | ⟨hle, hlt⟩)
    · refine List.mem_append_left _
        (List.mem_map.mpr ⟨_, mem_linesOf.mpr ⟨x - L.ring k, ?_, ?_⟩, rfl⟩)
      · omega
      · rw [Nat.add_sub_cancel' hle]
    · refine List.mem_append_right _
        (List.mem_map.mpr ⟨_, mem_linesOf.mpr ⟨x - L.idx, ?_, ?_⟩, rfl⟩)
      · omega
      · rw [Nat.add_sub_cancel' hle]

/-! ## The invariant -/

/-- The slot of the call that the driver is in. -/
def TxPlace.slot : TxPlace → Option ℕ
  | .idle => none
  | .writing k _ _ | .cleaning k _ => some k

/-- The lines of the queue belong to the processor. -/
def TxStorage.owner (L : TxStorage) (l : ℕ) : Owner := if L.OursLine l then .cpu else .anyone

/-- The memory holds what the processor reads at `x`. -/
def TxDma.Current (s : TxDma) (x : ℕ) : Prop := s.cache.mem x = s.flat x

/-- **A frame that has been sent** in the slot `j`: the memory `mem` holds it, as does the memory
without a cache. -/
structure TxStorage.Kept (L : TxStorage) (mem flat : ℕ → UInt8) (j : ℕ) (frame : List UInt8) :
    Prop where
  len : frame.length ≤ virtioNetMaxFrameSize
  holds : L.Holds flat j frame
  ring : HoldsAt flat (L.ring j) (bytes16 (UInt16.ofNat j))
  current : ∀ x, L.InFrame j frame x → mem x = flat x

/-- The index in the memory is the one of the processor, or the one before it. -/
def TxDma.IdxBehind (L : TxStorage) (s : TxDma) : Prop :=
  (∀ x, L.InIdx x → s.Current x) ∨ read16 s.cache.mem L.idx + 1 = read16 s.flat L.idx

/-- What holds in each place of the driver: as long as it has not advanced the index, the memory
has the index; after that it may have the old one. -/
def TxDma.AtPlace (L : TxStorage) (s : TxDma) : TxPlace → Prop
  | .idle => ∀ x, L.InIdx x → s.Current x
  | .writing k frame ops => k < L.count ∧ frame.length ≤ virtioNetMaxFrameSize ∧ s.sent k = none ∧
      L.Left k frame s.Current s.flat ops ∧ ∀ x, L.InIdx x → s.Current x
  | .cleaning k ops => k < L.count ∧ (∀ op ∈ ops, ∃ l, op = .clean l) ∧
      (∀ x, L.InRing k x ∨ L.InIdx x → Settles cacheLine x (s.Current x) ops) ∧ s.IdxBehind L

/-- **The invariant of the queue.** -/
structure TxOwned (L : TxStorage) (s : TxDma) : Prop where
  coherent : Coherent cacheLine s.cache s.flat L.owner
  kept : ∀ j < L.count, ∀ frame, s.sent j = some frame → L.Kept s.cache.mem s.flat j frame
  rings : ∀ j < L.count, s.place.slot ≠ some j → ∀ x, L.InRing j x → s.Current x
  place : s.AtPlace L s.place

/-! ## One access -/

/-- An access that lets no device write to a line of the queue, and invalidates none. -/
def TxStorage.Benign (L : TxStorage) : CacheOp ℕ ℕ UInt8 → Prop
  | .invalidate l => ¬ L.OursLine l
  | .device x _ => ¬ L.OursLine (cacheLine x)
  | .store _ _ | .fill _ | .evict _ | .clean _ | .cleanInvalidate _ => True

/-- A benign access that stores neither to the index, nor to a slot whose frame has been sent, nor
to an entry of the ring but that of the call. -/
def TxStorage.Harmless (L : TxStorage) (s : TxDma) (op : CacheOp ℕ ℕ UInt8) : Prop :=
  L.Benign op ∧ ∀ x b, op = .store x b → ¬ L.InIdx x ∧
    (∀ j < L.count, ∀ frame, s.sent j = some frame → ¬ L.InFrame j frame x ∧ ¬ L.InRing j x) ∧
    ∀ j < L.count, s.place.slot ≠ some j → ¬ L.InRing j x

variable {s t : TxDma} {op : CacheOp ℕ ℕ UInt8} {action : TxDmaAction}

/-- The line of an address of the queue. -/
lemma line_of_ours (h : Coherent cacheLine s.cache s.flat L.owner) (hx : L.Ours x) :
    LineCoherent cacheLine s.cache s.flat .cpu (cacheLine x) := by
  have hown : L.owner (cacheLine x) = .cpu := if_pos hx.line
  have hline := h (cacheLine x) (by rw [hown]; simp)
  rwa [hown] at hline

/-- Both bytes of the index are on one line. -/
lemma line_idx (hx : L.InIdx x) : cacheLine x = cacheLine L.idx := by
  have heven := L.avail_even
  unfold TxStorage.InIdx TxStorage.idx at *
  unfold cacheLine
  omega

/-- Both bytes of an entry of the ring are on one line. -/
lemma line_ring (hx : L.InRing k x) : cacheLine x = cacheLine (L.ring k) := by
  have heven := L.avail_even
  unfold TxStorage.InRing TxStorage.ring at *
  unfold cacheLine
  omega

/-- The entries that are on another line than the index: those from `30` on, if the ring starts on
a line of its own, and those from `27` on, if it starts 518 bytes after that. -/
lemma ring_line_ne : cacheLine (L.ring k) ≠ cacheLine L.idx ↔ 62 ≤ L.idx % 64 + 2 * k := by
  have heven := L.avail_even
  unfold TxStorage.ring TxStorage.idx cacheLine
  omega

/-- Both bytes of the index. -/
lemma inIdx_idx : L.InIdx L.idx ∧ L.InIdx (L.idx + 1) := by
  unfold TxStorage.InIdx
  omega

/-- A store of the processor is benign. -/
lemma benign_store (L : TxStorage) (x : ℕ) (b : UInt8) : L.Benign (.store x b) := trivial

/-- A write-back of the cache is benign. -/
lemma benign_evict (L : TxStorage) (l : ℕ) : L.Benign (.evict l) := trivial

/-- The byte that is stored is the one that was meant. -/
lemma inIdx_of_store {y : ℕ} {b b' : UInt8} (hy : L.InIdx y)
    (he : CacheOp.store (ι := ℕ) y b = .store x b') : L.InIdx x :=
  (CacheOp.store.inj he).1 ▸ hy

/-- **One access**, to whatever line. -/
lemma benign_act (hop : L.Benign op) (h : Coherent cacheLine s.cache s.flat L.owner) :
    Coherent cacheLine (s.act op).cache (s.act op).flat L.owner ∧
      (∀ x, L.Ours x → op.Settled cacheLine x (s.Current x) → (s.act op).Current x) ∧
      ((∀ x, L.InIdx x → (s.act op).cache.mem x = s.cache.mem x) ∨
        ∀ x, L.InIdx x → (s.act op).cache.mem x = s.flat x) := by
  have hallow : ∀ l, l = op.line cacheLine → L.OursLine l → op.Allowed s.cache .cpu := by
    rintro l rfl hl
    cases op with
    | invalidate l => exact absurd hl hop
    | device y b => exact absurd hl hop
    | store y b => rfl
    | _ => trivial
  have hours : L.Ours L.idx := TxStorage.InIdx.ours inIdx_idx.1
  refine ⟨h.apply fun hl => ?_, fun x hx hs => (line_of_ours h hx).settled (fun hl => ?_) hs, ?_⟩
  · unfold TxStorage.owner at hl ⊢
    split_ifs at hl ⊢ with hin
    · exact hallow _ rfl hin
    · exact absurd rfl hl
  · exact hallow _ hl.symm hx.line
  · have hback := (line_of_ours h hours).written_back op fun y b he hl => by
      subst he
      exact hop (hl ▸ hours.line)
    exact hback.imp (fun hb x hx => hb x (line_idx hx)) fun hb x hx => hb x (line_idx hx)

/-- What is written back stays so if the access does not store there. -/
lemma settled_of_ne {p : Prop} (hp : p) (hx : ∀ b, op ≠ .store x b) : op.Settled cacheLine x p := by
  cases op with
  | fill l | invalidate l | device y b => exact hp
  | evict l | clean l | cleanInvalidate l => exact Or.inr hp
  | store y b =>
    refine ⟨?_, hp⟩
    rintro rfl
    exact hx b rfl

/-- What is current stays so, if nothing is stored there. -/
lemma current_act (hop : L.Benign op) (hco : Coherent cacheLine s.cache s.flat L.owner)
    (hx : L.Ours x)
    (hcur : s.Current x) (hne : ∀ b, op ≠ .store x b) : (s.act op).Current x :=
  (benign_act hop hco).2.1 x hx (settled_of_ne hcur hne)

/-- A benign access that does not store to a byte leaves it alone in the memory without a cache. -/
lemma flat_of_ne (hx : ∀ b, op ≠ .store x b) (hours : L.Ours x) (hop : L.Benign op) :
    op.flat m x = m x := by
  cases op with
  | store y b =>
    refine Function.update_of_ne ?_ _ _
    rintro rfl
    exact hx b rfl
  | device y b =>
    refine Function.update_of_ne ?_ _ _
    rintro rfl
    exact hop hours.line
  | _ => rfl

/-- An access that stores to no byte of a frame keeps it. -/
lemma TxStorage.Kept.act (h : L.Kept s.cache.mem s.flat j frame) (hj : j < L.count)
    (hco : Coherent cacheLine s.cache s.flat L.owner) (hop : L.Benign op)
    (hne : ∀ x b, op = .store x b → ¬ L.InFrame j frame x ∧ ¬ L.InRing j x) :
    L.Kept (s.act op).cache.mem (s.act op).flat j frame := by
  have hframe : ∀ x, L.InFrame j frame x → ∀ b, op ≠ .store x b := fun x hx b he =>
    (hne x b he).1 hx
  have hflat : ∀ x, L.InFrame j frame x → (s.act op).flat x = s.flat x := fun x hx =>
    flat_of_ne (hframe x hx) (hx.ours hj h.len) hop
  refine ⟨h.len, ⟨?_, ?_⟩, ?_, fun x hx => ?_⟩
  · refine h.holds.1.congr fun x hle hlt => hflat x (Or.inl ⟨hle, ?_⟩)
    rwa [length_bufferBytes] at hlt
  · exact h.holds.2.congr fun x hle hlt => hflat x (Or.inr ⟨hle, hlt⟩)
  · refine h.ring.congr fun x hle hlt => ?_
    have hx : L.InRing j x := ⟨hle, hlt⟩
    exact flat_of_ne (fun b he => (hne x b he).2 hx) (hx.ours hj) hop
  · exact current_act hop hco (hx.ours hj h.len) (h.current x hx) (hframe x hx)

/-- An access of the driver or of other code, if it is harmless. -/
lemma TxOwned.act (h : TxOwned L s) (hop : L.Harmless s op) {p : TxPlace}
    (hslot : p.slot = s.place.slot)
    (hp : (s.act op).AtPlace L p) : TxOwned L { s.act op with place := p } := by
  obtain ⟨hbenign, hstores⟩ := hop
  refine ⟨(benign_act hbenign h.coherent).1, fun j hj frame hs => ?_, fun j hj hne x hx => ?_, hp⟩
  · exact (h.kept j hj frame hs).act hj h.coherent hbenign fun x b he =>
      (hstores x b he).2.1 j hj frame hs
  · have hne' : s.place.slot ≠ some j := hslot ▸ hne
    refine current_act hbenign h.coherent (hx.ours hj) (h.rings j hj hne' x hx) fun b he => ?_
    exact (hstores x b he).2.2 j hj hne' hx

/-- The index after a harmless access. -/
lemma current_idx_act (h : TxOwned L s) (hop : L.Harmless s op)
    (hidx : ∀ x, L.InIdx x → s.Current x) :
    ∀ x, L.InIdx x → (s.act op).Current x := fun x hx =>
  current_act hop.1 h.coherent hx.ours (hidx x hx) fun b he => (hop.2 x b he).1 hx

/-- A value of two bytes depends on these only. -/
lemma read16_congr {m' : ℕ → UInt8} (h₀ : m' a = m a) (h₁ : m' (a + 1) = m (a + 1)) :
    read16 m' a = read16 m a := by
  unfold read16
  rw [h₀, h₁]

/-- **The index is written back as a whole**: the memory keeps the old one or gets the new one. -/
lemma idxBehind_act (h : TxOwned L s) (hop : L.Harmless s op) (hidx : s.IdxBehind L) :
    (s.act op).IdxBehind L := by
  have hflat : ∀ x, L.InIdx x → (s.act op).flat x = s.flat x := fun x hx =>
    flat_of_ne (fun b he => (hop.2 x b he).1 hx) hx.ours hop.1
  obtain ⟨h₀, h₁⟩ := inIdx_idx (L := L)
  rcases hidx with hidx | hidx
  · exact Or.inl (current_idx_act h hop hidx)
  · rcases (benign_act hop.1 h.coherent).2.2 with hmem | hmem
    · refine Or.inr ?_
      rw [read16_congr (hmem _ h₀) (hmem _ h₁), hidx, read16_congr (hflat _ h₀) (hflat _ h₁)]
    · exact Or.inl fun x hx => (hmem x hx).trans (hflat x hx).symm

/-! ## Steps -/

/-- The memory at an address does not depend on the one at others before. -/
lemma flatAll_congr {m' : ℕ → UInt8} (h : m' x = m x) : flatAll ops m' x = flatAll ops m x := by
  induction ops generalizing m m' with
  | nil => exact h
  | cons op ops ih =>
    refine ih ?_
    cases op with
    | store y b | device y b =>
      show Function.update m' y b x = Function.update m y b x
      rw [Function.update_apply, Function.update_apply, h]
    | _ => exact h

/-- What is left of a call depends on the bytes of its slot only. -/
lemma TxStorage.Left.congr {p p' : ℕ → Prop} {m' : ℕ → UInt8} (h : L.Left k frame p m ops)
    (hp : ∀ x, L.InFrame k frame x → p x → p' x)
    (hm : ∀ x, L.InFrame k frame x ∨ L.InRing k x → m' x = m x) : L.Left k frame p' m' ops := by
  refine ⟨h.writes, ⟨?_, ?_⟩, ?_, fun x hx => (h.settles x hx).mono (hp x hx)⟩
  · refine h.holds.1.congr fun x hle hlt => flatAll_congr (hm x (Or.inl (Or.inl ⟨hle, ?_⟩)))
    rwa [length_bufferBytes] at hlt
  · exact h.holds.2.congr fun x hle hlt => flatAll_congr (hm x (Or.inl (Or.inr ⟨hle, hlt⟩)))
  · exact h.ring.congr fun x hle hlt => flatAll_congr (hm x (Or.inr ⟨hle, hlt⟩))

/-- What other code and the cache do is harmless. -/
lemma harmless_of_other (h : TxOwned L s) (hop : L.Other op) : L.Harmless s op := by
  refine ⟨?_, ?_⟩
  · cases op with
    | invalidate l | device x b => exact hop
    | _ => trivial
  · rintro x b rfl
    have hout : ¬ L.Ours x := hop
    refine ⟨fun hx => hout hx.ours, fun j hj frame hs =>
      ⟨fun hx => hout ?_, fun hx => hout (hx.ours hj)⟩,
      fun j hj _ hx => hout (hx.ours hj)⟩
    exact hx.ours hj (h.kept j hj frame hs).len

/-- So is what the driver does before it advances the index. -/
lemma harmless_of_writes (h : TxOwned L s) (hk : k < L.count)
    (hlen : frame.length ≤ virtioNetMaxFrameSize)
    (hnone : s.sent k = none) (hslot : s.place.slot = some k) (hop : L.Writes k frame op) :
    L.Harmless s op := by
  have hsent : ∀ j frame', s.sent j = some frame' → j ≠ k := by
    rintro j frame' hs rfl
    rw [hnone] at hs
    cases hs
  rcases hop with ⟨y, b, rfl, hy⟩ | ⟨o, ho, rfl⟩ | ⟨l, rfl⟩
  · refine ⟨trivial, fun x b' he => ?_⟩
    obtain ⟨rfl, -⟩ := CacheOp.store.inj he
    obtain ⟨hidx, hrings, hframes⟩ := hy.ne hk hlen
    refine ⟨hidx, fun j hj frame' hs => ⟨?_, hrings j hj⟩, fun j hj _ => hrings j hj⟩
    exact hframes j hj (hsent j frame' hs) frame' (h.kept j hj frame' hs).len
  · refine ⟨trivial, fun x b' he => ?_⟩
    obtain ⟨rfl, -⟩ := CacheOp.store.inj he
    have hy : L.InRing k (L.ring k + o) := inRing_add ho
    obtain ⟨hidx, hrings⟩ := hy.ne
    refine ⟨hidx, fun j hj frame' hs => ⟨fun hx => ?_, hrings j (hsent j frame' hs)⟩,
      fun j _ hj => hrings j ?_⟩
    · exact (hx.ne hj (h.kept j hj frame' hs).len).2.1 k hk hy
    · rintro rfl
      exact hj hslot
  · exact ⟨trivial, fun x b he => by cases he⟩

/-- Cleaning is harmless. -/
lemma harmless_of_clean (hop : ∃ l, op = .clean l) : L.Harmless s op := by
  obtain ⟨l, rfl⟩ := hop
  exact ⟨trivial, fun x b he => by cases he⟩

/-- **Other code**, and the cache. -/
lemma TxOwned.other (h : TxOwned L s) (hop : L.Other op) : TxOwned L (s.act op) := by
  have hharm := harmless_of_other h hop
  have hne : ∀ x, L.Ours x → ∀ b, op ≠ .store x b := by
    rintro x hx b rfl
    exact hop hx
  have hcur : ∀ x, L.Ours x → s.Current x → (s.act op).Current x := fun x hx hc =>
    current_act hharm.1 h.coherent hx hc (hne x hx)
  have hplace := h.place
  refine h.act hharm rfl ?_
  cases hs : s.place with
  | idle =>
    rw [hs] at hplace
    exact current_idx_act h hharm hplace
  | writing k frame ops =>
    rw [hs] at hplace
    obtain ⟨hk, hlen, hnone, hleft, hidx⟩ := hplace
    refine ⟨hk, hlen, hnone, hleft.congr (fun x hx => hcur x (hx.ours hk hlen)) fun x hx => ?_,
      current_idx_act h hharm hidx⟩
    have hours : L.Ours x := hx.elim (fun hx => hx.ours hk hlen) fun hx => hx.ours hk
    exact flat_of_ne (hne x hours) hours hharm.1
  | cleaning k ops =>
    rw [hs] at hplace
    obtain ⟨hk, hclean, hset, hidx⟩ := hplace
    refine ⟨hk, hclean, fun x hx => (hset x hx).mono (hcur x ?_), idxBehind_act h hharm hidx⟩
    exact hx.elim (fun hx => hx.ours hk) fun hx => hx.ours

/-- The index that the driver reads. -/
lemma TxOwned.availIdx (h : TxOwned L s) : s.availIdx L = read16 s.flat L.idx := by
  have hview : ∀ x, L.InIdx x → s.cache.view cacheLine x = s.flat x := fun x hx =>
    (line_of_ours h.coherent hx.ours).view (Or.inl rfl)
  exact read16_congr (hview _ inIdx_idx.1) (hview _ inIdx_idx.2)

/-- **A call begins.** -/
lemma TxOwned.send (h : TxOwned L s) (hidle : s.place = .idle)
    (hlen : frame.length ≤ virtioNetMaxFrameSize) (hk : k < L.count)
    (hops : txWrites L k frame = some ops) :
    TxOwned L { s with place := .writing k frame ops, sent := Function.update s.sent k none } := by
  obtain rfl : slotOps L k frame = ops := Option.some.inj ((txWrites_eq hk hlen).symm.trans hops)
  have hplace := h.place
  rw [hidle] at hplace
  refine ⟨h.coherent, fun j hj frame' hs => h.kept j hj frame' ?_, fun j hj _ => h.rings j hj ?_,
    hk, hlen, Function.update_self _ _ _, slotOps_left hk hlen _ _, hplace⟩
  · have hs' : Function.update s.sent k none j = some frame' := hs
    rw [Function.update_apply] at hs'
    split_ifs at hs'
    exact hs'
  · rw [hidle]
    simp [TxPlace.slot]

/-- **The index advances.** From now on the device may see the slot.

**Proof sketch.** No access of the call is left, so that the memory holds the frame and its
descriptor. The stores to the index leave the memory alone. -/
lemma TxOwned.advance (h : TxOwned L s) (hwriting : s.place = .writing k frame [])
    (hops : txCleans L k = some ops) {v : UInt16} (hv : v = s.availIdx L + 1) :
    TxOwned L { (s.act (.store L.idx v.toUInt8)).act (.store (L.idx + 1) (v >>> 8).toUInt8) with
      place := .cleaning k ops
      sent := Function.update s.sent k (some frame) } := by
  have hplace := h.place
  rw [hwriting] at hplace
  obtain ⟨hk, hlen, -, hleft, hidx⟩ := hplace
  obtain ⟨h₀, h₁⟩ := inIdx_idx (L := L)
  set s₁ := s.act (.store L.idx v.toUInt8) with hs₁
  set s₂ := s₁.act (.store (L.idx + 1) (v >>> 8).toUInt8) with hs₂
  have hco₁ : Coherent cacheLine s₁.cache s₁.flat L.owner :=
    (benign_act (benign_store L L.idx v.toUInt8) h.coherent).1
  have hkept : ∀ j < L.count, ∀ frame', Function.update s.sent k (some frame) j = some frame' →
      L.Kept s.cache.mem s.flat j frame' := by
    intro j hj frame' hs
    rw [Function.update_apply] at hs
    split_ifs at hs with hjk
    · obtain rfl := Option.some.inj hs
      rw [hjk]
      exact ⟨hlen, hleft.holds, hleft.ring, hleft.settles⟩
    · exact h.kept j hj frame' hs
  refine ⟨(benign_act (benign_store L (L.idx + 1) (v >>> 8).toUInt8) hco₁).1,
    fun j hj frame' hs => ?_,
    fun j hj hne x hx => ?_, ?_⟩
  · have hout : ∀ x, L.InIdx x → ¬ L.InFrame j frame' x ∧ ¬ L.InRing j x := fun x hx =>
      ⟨fun hf => (hf.ne hj (hkept j hj frame' hs).len).1 hx, fun hr => hr.ne.1 hx⟩
    have hact := (hkept j hj frame' hs).act hj h.coherent (benign_store L L.idx v.toUInt8)
      fun x b he => hout x (inIdx_of_store h₀ he)
    exact hact.act hj hco₁ (benign_store L (L.idx + 1) (v >>> 8).toUInt8)
      fun x b he => hout x (inIdx_of_store h₁ he)
  · have hjk : j ≠ k := by
      rintro rfl
      exact hne rfl
    have hslot : s.place.slot ≠ some j := by
      rw [hwriting]
      exact fun he => hjk (Option.some.inj he).symm
    have hcur := h.rings j hj hslot x hx
    have hcur₁ : s₁.Current x := current_act (benign_store L L.idx v.toUInt8) h.coherent
      (hx.ours hj) hcur
      fun b he => hx.ne.1 (inIdx_of_store h₀ he)
    exact current_act (benign_store L (L.idx + 1) (v >>> 8).toUInt8) hco₁ (hx.ours hj) hcur₁
      fun b he => hx.ne.1 (inIdx_of_store h₁ he)
  · obtain ⟨ops', hops', hclean, hmem⟩ := txCleans_spec (L := L) hk
    obtain rfl : ops' = ops := Option.some.inj (hops'.symm.trans hops)
    refine ⟨hk, hclean, fun x hx => settles_of_clean (hmem x hx) fun y b hy => ?_, Or.inr ?_⟩
    · obtain ⟨l, he⟩ := hclean _ hy
      cases he
    · have hflat : HoldsAt s₂.flat L.idx (bytes16 v) := holdsAt_storeBytes L.idx (bytes16 v) s.flat
      have hmem₂ : s₂.cache.mem = s.cache.mem :=
        (Cached.store_mem (c := s₁.cache) _).trans (Cached.store_mem (c := s.cache) _)
      show read16 s₂.cache.mem L.idx + 1 = read16 s₂.flat L.idx
      rw [read16_of_holdsAt hflat, hmem₂, hv, h.availIdx, read16_congr (hidx _ h₀) (hidx _ h₁)]

/-- An access before the index advances. -/
lemma TxOwned.write (h : TxOwned L s) (hwriting : s.place = .writing k frame (op :: ops)) :
    TxOwned L { s.act op with place := .writing k frame ops } := by
  have hplace := h.place
  rw [hwriting] at hplace
  obtain ⟨hk, hlen, hnone, hleft, hidx⟩ := hplace
  have hslot : s.place.slot = some k := by
    rw [hwriting]
    rfl
  have hharm := harmless_of_writes h hk hlen hnone hslot (hleft.writes op List.mem_cons_self)
  refine h.act hharm hslot.symm ⟨hk, hlen, hnone, ?_, current_idx_act h hharm hidx⟩
  refine ⟨fun op' hop' => hleft.writes op' (List.mem_cons_of_mem _ hop'), hleft.holds, hleft.ring,
    fun x hx => ?_⟩
  have hset : Settles cacheLine x (op.Settled cacheLine x (s.Current x)) ops := hleft.settles x hx
  exact hset.mono ((benign_act hharm.1 h.coherent).2.1 x (hx.ours hk hlen))

/-- A line is cleaned after the index has advanced. -/
lemma TxOwned.clean (h : TxOwned L s) (hcleaning : s.place = .cleaning k (op :: ops)) :
    TxOwned L { s.act op with place := .cleaning k ops } := by
  have hplace := h.place
  rw [hcleaning] at hplace
  obtain ⟨hk, hclean, hset, hidx⟩ := hplace
  have hslot : s.place.slot = some k := by
    rw [hcleaning]
    rfl
  have hharm : L.Harmless s op := harmless_of_clean (hclean op List.mem_cons_self)
  refine h.act hharm hslot.symm ⟨hk, fun op' hop' => hclean op' (List.mem_cons_of_mem _ hop'),
    fun x hx => ?_, idxBehind_act h hharm hidx⟩
  have hset' : Settles cacheLine x (op.Settled cacheLine x (s.Current x)) ops := hset x hx
  refine hset'.mono ((benign_act hharm.1 h.coherent).2.1 x ?_)
  exact hx.elim (fun hx => hx.ours hk) fun hx => hx.ours

/-- **A call is over**: the memory holds the entry of the ring and the index. -/
lemma TxOwned.leave (h : TxOwned L s) (hcleaning : s.place = .cleaning k []) :
    TxOwned L { s with place := .idle } := by
  have hplace := h.place
  rw [hcleaning] at hplace
  obtain ⟨hk, -, hset, -⟩ := hplace
  refine ⟨h.coherent, h.kept, fun j hj _ x hx => ?_, fun x hx => hset x (Or.inr hx)⟩
  by_cases hjk : j = k
  · exact hset x (Or.inl (hjk ▸ hx))
  · refine h.rings j hj ?_ x hx
    rw [hcleaning]
    exact fun he => hjk (Option.some.inj he).symm

/-- **What a step can be.**

**Proof sketch.** By the action and, for the driver, by its place. -/
lemma txDmaStep_cases (hstep : txDmaStep L s action = some t) :
    (∃ op, L.Other op ∧ t = s.act op) ∨
    (∃ k frame ops, s.place = .idle ∧ k < L.count ∧ frame.length ≤ virtioNetMaxFrameSize ∧
      txWrites L k frame = some ops ∧
      t = { s with place := .writing k frame ops, sent := Function.update s.sent k none }) ∨
    (∃ k frame op ops, s.place = .writing k frame (op :: ops) ∧
      t = { s.act op with place := .writing k frame ops }) ∨
    (∃ k frame ops v, s.place = .writing k frame [] ∧ txCleans L k = some ops ∧
      v = s.availIdx L + 1 ∧
      t = { (s.act (.store L.idx v.toUInt8)).act (.store (L.idx + 1) (v >>> 8).toUInt8) with
        place := .cleaning k ops
        sent := Function.update s.sent k (some frame) }) ∨
    (∃ k op ops, s.place = .cleaning k (op :: ops) ∧
      t = { s.act op with place := .cleaning k ops }) ∨
    ∃ k, s.place = .cleaning k [] ∧ t = { s with place := .idle } := by
  cases action with
  | other op =>
    obtain ⟨hop, hact⟩ := Option.ite_none_right_eq_some.mp hstep
    exact Or.inl ⟨op, hop, (Option.some.inj hact).symm⟩
  | send frame =>
    unfold txDmaStep at hstep
    cases hs : s.place with
    | idle =>
      simp only [hs] at hstep
      obtain ⟨hlen, hmap⟩ := Option.ite_none_right_eq_some.mp hstep
      obtain ⟨ops, hops, rfl⟩ := Option.map_eq_some_iff.mp hmap
      exact Or.inr (Or.inl ⟨_, frame, ops, rfl, Nat.mod_lt _ L.pos, hlen, hops, rfl⟩)
    | writing k frame' ops | cleaning k ops =>
      simp only [hs] at hstep
      cases hstep
  | driver =>
    replace hstep : txDriverStep L s = some t := hstep
    unfold txDriverStep at hstep
    cases hs : s.place with
    | idle =>
      rw [hs] at hstep
      cases hstep
    | writing k frame ops =>
      rw [hs] at hstep
      cases ops with
      | nil =>
        obtain ⟨ops, hops, rfl⟩ := Option.map_eq_some_iff.mp hstep
        exact Or.inr (Or.inr (Or.inr (Or.inl ⟨k, frame, ops, _, rfl, hops, rfl, rfl⟩)))
      | cons op ops =>
        exact Or.inr (Or.inr (Or.inl ⟨k, frame, op, ops, rfl, (Option.some.inj hstep).symm⟩))
    | cleaning k ops =>
      rw [hs] at hstep
      cases ops with
      | nil =>
        exact Or.inr (Or.inr (Or.inr (Or.inr (Or.inr ⟨k, rfl, (Option.some.inj hstep).symm⟩))))
      | cons op ops =>
        exact Or.inr
          (Or.inr (Or.inr (Or.inr (Or.inl ⟨k, op, ops, rfl, (Option.some.inj hstep).symm⟩))))

/-- **Every step keeps the invariant.** -/
theorem TxOwned.step (h : TxOwned L s) (hstep : txDmaStep L s action = some t) : TxOwned L t := by
  rcases txDmaStep_cases hstep with ⟨op, hop, rfl⟩ | ⟨k, frame, ops, hs, hk, hlen, hops, rfl⟩ |
    ⟨k, frame, op, ops, hs, rfl⟩ | ⟨k, frame, ops, v, hs, hops, hv, rfl⟩ | ⟨k, op, ops, hs, rfl⟩ |
    ⟨k, hs, rfl⟩
  · exact h.other hop
  · exact h.send hs hlen hk hops
  · exact h.write hs
  · exact h.advance hs hops hv
  · exact h.clean hs
  · exact h.leave hs

/-- Every run keeps it. -/
lemma TxOwned.exec {as : List TxDmaAction} (h : TxOwned L s)
    (hexec : Transition.exec (txDmaStep L) s as = some t) : TxOwned L t :=
  exec_invariant (fun _ _ _ h hstep => h.step hstep) h hexec

/-! ## Whole runs -/

variable {c : Cached ℕ ℕ UInt8} {as : List TxDmaAction}

/-- The lines of the avail ring have been cleaned, as by `virtio_net_prepare_tx`. -/
def TxStorage.AvailClean (L : TxStorage) (c : Cached ℕ ℕ UInt8) : Prop :=
  ∀ x, L.avail ≤ x → x < L.avail + 4 + L.count * 2 → c.tag (cacheLine x) ≠ .dirty

/-- **What the memory holds** for the device to read: the frames that have been sent; their entries
of the ring, but for that of the call that the driver is in; and the index, or the one before it if
the driver has just advanced it. -/
structure TxVisible (L : TxStorage) (s : TxDma) : Prop where
  frames : ∀ j < L.count, ∀ frame, s.sent j = some frame → L.Holds s.cache.mem j frame
  rings : ∀ j < L.count, s.sent j ≠ none → s.place.slot ≠ some j →
    HoldsAt s.cache.mem (L.ring j) (bytes16 (UInt16.ofNat j))
  idx : read16 s.cache.mem L.idx = s.availIdx L ∨
    (∃ k ops, s.place = .cleaning k ops) ∧ read16 s.cache.mem L.idx + 1 = s.availIdx L

/-- The invariant holds before the first call. -/
lemma txOwned_start (hc : Settled c) (havail : L.AvailClean c) : TxOwned L (txDmaStart c) := by
  have hcur : ∀ x, L.avail ≤ x → x < L.avail + 4 + L.count * 2 → (txDmaStart c).Current x :=
    fun x hle hlt => (hc.line (cacheLine x)).mem (havail x hle hlt) x rfl
  refine ⟨fun l hl => ?_, fun j _ frame hs => (by cases hs), fun j hj _ x hx => ?_, fun x hx => ?_⟩
  · have hcpu : L.owner l = .cpu := by
      unfold TxStorage.owner at hl ⊢
      split_ifs at hl ⊢
      · rfl
      · exact absurd rfl hl
    rw [hcpu]
    exact hc.line l
  · obtain ⟨-, -, -, -, hr, hr'⟩ := L.slot_bounds hj
    obtain ⟨hle, hlt⟩ := hx
    exact hcur x (by omega) (by omega)
  · have hpos := L.pos
    unfold TxStorage.InIdx TxStorage.idx at hx
    exact hcur x (by omega) (by omega)

/-- The invariant says what the memory holds. -/
lemma TxOwned.visible (h : TxOwned L s) : TxVisible L s := by
  obtain ⟨h₀, h₁⟩ := inIdx_idx (L := L)
  refine ⟨fun j hj frame hs => ?_, fun j hj hs hne => ?_, ?_⟩
  · obtain ⟨-, ⟨hbuf, hdesc⟩, -, hcur⟩ := h.kept j hj frame hs
    refine ⟨hbuf.congr fun x hle hlt => hcur x (Or.inl ⟨hle, ?_⟩), hdesc.congr fun x hle hlt => ?_⟩
    · rwa [length_bufferBytes] at hlt
    · exact hcur x (Or.inr ⟨hle, hlt⟩)
  · obtain ⟨frame, hs'⟩ := Option.ne_none_iff_exists'.mp hs
    refine (h.kept j hj frame hs').ring.congr fun x hle hlt => h.rings j hj hne x ⟨hle, hlt⟩
  · rw [h.availIdx]
    have hplace := h.place
    cases hs : s.place with
    | idle =>
      rw [hs] at hplace
      exact Or.inl (read16_congr (hplace _ h₀) (hplace _ h₁))
    | writing k frame ops =>
      rw [hs] at hplace
      obtain ⟨-, -, -, -, hidx⟩ := hplace
      exact Or.inl (read16_congr (hidx _ h₀) (hidx _ h₁))
    | cleaning k ops =>
      rw [hs] at hplace
      obtain ⟨-, -, -, hidx | hidx⟩ := hplace
      · exact Or.inl (read16_congr (hidx _ h₀) (hidx _ h₁))
      · exact Or.inr ⟨⟨k, ops, rfl⟩, hidx⟩

/-! ## A call -/

/-- The cache after several accesses. -/
def applyAll (ops : List (CacheOp ℕ ℕ UInt8)) (c : Cached ℕ ℕ UInt8) : Cached ℕ ℕ UInt8 :=
  ops.foldl (fun c op => op.apply cacheLine c) c

/-- What has been written back, and is not stored to, stays in the memory. -/
lemma applyAll_mem (hco : Coherent cacheLine c m L.owner) (hops : ∀ op ∈ ops, Spares x op)
    (hx : L.Ours x)
    (hcur : c.mem x = m x) : (applyAll ops c).mem x = c.mem x := by
  induction ops generalizing c m with
  | nil => rfl
  | cons op ops ih =>
    have hspare := hops op List.mem_cons_self
    have hne : ∀ b, op ≠ .store x b := by
      rintro b rfl
      exact hspare.ne rfl
    have hbenign : L.Benign op := by
      rcases hspare with ⟨y, b, rfl, -⟩ | ⟨l, rfl⟩ <;> trivial
    set s : TxDma := ⟨c, m, .idle, fun _ => none⟩ with hs
    have hcurrent : (s.act op).Current x := current_act hbenign hco hx hcur hne
    have hrest := ih (benign_act (s := s) hbenign hco).1
      (fun op' hop' => hops op' (List.mem_cons_of_mem _ hop')) hcurrent
    exact hrest.trans (hcurrent.trans ((flat_of_ne hne hx hbenign).trans hcur.symm))

/-- Stores stay in the cache. -/
lemma applyAll_storeBytes : (applyAll (storeBytes a bs) c).mem = c.mem := by
  induction bs generalizing a c with
  | nil => rfl
  | cons b bs ih => exact ih.trans (Cached.store_mem b)

/-- The stores to the frame and its descriptor spare the ring. -/
lemma spares_ring (hk : k < L.count) (hlen : frame.length ≤ virtioNetMaxFrameSize)
    (hx : L.InRing k x) :
    ∀ op ∈ frameOps L k frame, Spares x op := by
  have hfit := frame_fits hlen
  obtain ⟨hb, hb', hd, hd', hr, hr'⟩ := L.slot_bounds hk
  have h₁ := L.buffers_avail
  have h₂ := L.descs_avail
  obtain ⟨hle, hlt⟩ := hx
  intro op hop
  rcases List.mem_append.mp hop with hop | hop
  · refine spares_of_storeClean hop ?_
    rw [length_bufferBytes]
    omega
  · refine spares_of_storeClean hop ?_
    rw [length_descBytes]
    omega

/-- **The driver does the accesses that it has to do**, where `p` is its place with what is left of
them. -/
lemma exec_accesses (p : List (CacheOp ℕ ℕ UInt8) → TxPlace)
    (hp : ∀ s op ops, s.place = p (op :: ops) → txDriverStep L s =
      some { s.act op with place := p ops })
    (hplace : s.place = p ops) :
    exec (txDmaStep L) s (List.replicate ops.length .driver) =
      some { s with cache := applyAll ops s.cache, flat := flatAll ops s.flat, place := p [] } := by
  induction ops generalizing s with
  | nil =>
    obtain ⟨c, m, q, sent⟩ := s
    obtain rfl : q = _ := hplace
    rfl
  | cons op ops ih =>
    have hstep : txDmaStep L s .driver = some { s.act op with place := p ops } := hp s op ops hplace
    rw [List.length_cons, List.replicate_succ, exec_cons, hstep, Option.bind_some]
    exact ih rfl

/-- **A call up to the access that advances the index.** The entry of the ring is not in the memory
yet.

**Proof sketch.** The stores and cleanings before the index run one after the other, by
`exec_accesses`; none of them is a cleaning of the entry of the ring, and a store stays in the
cache. -/
lemma exec_send (h : TxOwned L s) (hidle : s.place = .idle)
    (hlen : frame.length ≤ virtioNetMaxFrameSize)
    (hk : (s.availIdx L).toNat % L.count = k) :
    ∃ n t, exec (txDmaStep L) s (.send frame :: List.replicate n .driver) = some t ∧
      (∃ ops, t.place = .cleaning k ops) ∧ t.sent k = some frame ∧ t.availIdx L = s.availIdx L + 1 ∧
      ∀ x, L.InRing k x → t.cache.mem x = s.cache.mem x := by
  have hlt : k < L.count := hk ▸ Nat.mod_lt _ L.pos
  set s₁ : TxDma := { s with
    place := .writing k frame (slotOps L k frame), sent := Function.update s.sent k none } with hs₁
  have hsend : txDmaStep L s (.send frame) = some s₁ := by
    simp only [txDmaStep, hidle]
    rw [if_pos hlen, hk, txWrites_eq hlt hlen, Option.map_some]
  set s₂ : TxDma := { s₁ with
    cache := applyAll (slotOps L k frame) s.cache
    flat := flatAll (slotOps L k frame) s.flat
    place := .writing k frame [] } with hs₂
  have hwrite : exec (txDmaStep L) s₁ (List.replicate (slotOps L k frame).length .driver) =
      some s₂ := by
    refine exec_accesses (.writing k frame) (fun s op ops hs => ?_) rfl
    unfold txDriverStep
    rw [hs]
  obtain ⟨ops, hops, -⟩ := txCleans_spec (L := L) hlt
  set v := s₂.availIdx L + 1 with hv
  set t : TxDma :=
    { (s₂.act (.store L.idx v.toUInt8)).act (.store (L.idx + 1) (v >>> 8).toUInt8) with
    place := .cleaning k ops
    sent := Function.update s₂.sent k (some frame) } with ht
  have hadvance : txDmaStep L s₂ .driver = some t := by
    show (txCleans L k).map _ = _
    rw [hops]
    rfl
  have h₂ : TxOwned L s₂ := (h.step hsend).exec hwrite
  have h₃ : TxOwned L t := h₂.step hadvance
  refine ⟨(slotOps L k frame).length + 1, t, ?_, ⟨ops, rfl⟩, Function.update_self _ _ _, ?_,
    fun x hx => ?_⟩
  · rw [exec_cons, hsend, Option.bind_some, List.replicate_succ']
    exact (exec_concat_eq_some (txDmaStep L)).mpr ⟨s₂, hwrite, hadvance⟩
  · have hflat : HoldsAt t.flat L.idx (bytes16 v) := holdsAt_storeBytes L.idx (bytes16 v) s₂.flat
    have hspare : ∀ x, L.InIdx x → s₂.flat x = s.flat x := fun x hx =>
      flatAll_of_spares fun op hop => by
        rcases (slotOps_left hlt hlen (fun _ => True) s.flat).writes op hop with
          ⟨y, b, rfl, hy⟩ | ⟨o, ho, rfl⟩ | hclean
        · refine Or.inl ⟨y, b, rfl, ?_⟩
          rintro rfl
          exact (hy.ne hlt hlen).1 hx
        · refine Or.inl ⟨_, _, rfl, ?_⟩
          rintro rfl
          exact (inRing_add ho).ne.1 hx
        · exact Or.inr hclean
    rw [h₃.availIdx, read16_of_holdsAt hflat, hv, h₂.availIdx, h.availIdx,
      read16_congr (hspare _ inIdx_idx.1) (hspare _ inIdx_idx.2)]
  · have hslot : s.place.slot ≠ some k := by
      rw [hidle]
      simp [TxPlace.slot]
    have hmem : t.cache.mem = s₂.cache.mem :=
      (Cached.store_mem (c := (s₂.act (.store L.idx v.toUInt8)).cache) _).trans
        (Cached.store_mem (c := s₂.cache) _)
    have hwrites : s₂.cache.mem = (applyAll (frameOps L k frame) s.cache).mem := by
      show (applyAll (slotOps L k frame) s.cache).mem = _
      rw [slotOps, applyAll, List.foldl_append]
      exact applyAll_storeBytes
    rw [hmem, hwrites]
    exact applyAll_mem h.coherent (spares_ring hlt hlen hx) (hx.ours hlt) (h.rings k hlt hslot x hx)

/-- **The device reads the frames as they were sent.** Let the cache fetch lines and write them
back at any time, and other code do whatever it does elsewhere. On every run, the memory holds
every frame that has been sent, with its header and its descriptor, from the access on that
advances the index, until the driver uses the slot again; and it never holds an index that the
driver has not reached.

**Proof sketch.** `TxOwned.step` along the run: the frame and the descriptor have been cleaned
before the index changes, and their lines are not stored to after that. -/
theorem txFrame_coherent (hc : Settled c) (havail : L.AvailClean c)
    (hexec : exec (txDmaStep L) (txDmaStart c) as = some s) : TxVisible L s :=
  ((txOwned_start hc havail).exec hexec).visible

/-- A queue of 32 slots from the address `0` on, with the descriptors after the buffers. -/
def queue32 : TxStorage :=
  ⟨0, 65536, 66048, 32, by decide, by decide, rfl, by decide, by decide, by decide, Or.inl le_rfl,
    Or.inl (by decide), Or.inl le_rfl⟩

/-- A frame of one byte is sent. -/
theorem txFrame_coherent_queue32 : ∃ as t, exec (txDmaStep queue32) (txDmaStart emptyCache) as =
    some t ∧
    t.sent 0 = some [7] ∧ queue32.Holds t.cache.mem 0 [7] := by
  have havail : queue32.AvailClean emptyCache := fun _ _ _ h => by cases h
  have hlen : [(7 : UInt8)].length ≤ virtioNetMaxFrameSize := by decide
  have hk : ((txDmaStart emptyCache).availIdx queue32).toNat % queue32.count = 0 := by decide
  obtain ⟨n, t, ht, -, hsent, -, -⟩ :=
    exec_send (txOwned_start settled_emptyCache havail) rfl hlen hk
  exact ⟨_, t, ht, hsent, (txFrame_coherent settled_emptyCache havail ht).frames 0
    (by decide) [7] hsent⟩

/-! ## The entry of the ring -/

/-- **The device can see an index before the entry of the ring.** Let the driver send a frame, in
whatever state, in a slot whose entry is not on the line of the index. If the cache writes the line
of the index back just after the access that advances the index, then the memory holds the new
index together with the old entry, because the call cleans the entry only after that.

**Proof sketch.** The line of the entry is dirty since the store to it, and nothing has written it
back. -/
theorem txRing_stale (hc : Settled c) (havail : L.AvailClean c)
    (hexec : exec (txDmaStep L) (txDmaStart c) as = some s) (hidle : s.place = .idle)
    (hlen : frame.length ≤ virtioNetMaxFrameSize) (hk : (s.availIdx L).toNat % L.count = k)
    (hline : cacheLine (L.ring k) ≠ cacheLine L.idx) :
    ∃ n t, exec (txDmaStep L) s
        (.send frame :: List.replicate n .driver ++ [.other (.evict (cacheLine L.idx))]) = some t ∧
      t.sent k = some frame ∧ read16 t.cache.mem L.idx = s.availIdx L + 1 ∧
      read16 t.cache.mem (L.ring k) = read16 s.cache.mem (L.ring k) := by
  have h := (txOwned_start hc havail).exec hexec
  obtain ⟨n, u, hu, -, hsent, hidx, hring⟩ := exec_send h hidle hlen hk
  have hu' := h.exec hu
  have hstep : txDmaStep L u (.other (.evict (cacheLine L.idx))) =
      some (u.act (.evict (cacheLine L.idx))) := by
    have hop : L.Other (.evict (cacheLine L.idx)) := trivial
    rw [txDmaStep, if_pos hop]
  have ht := hu'.step hstep
  have hcur : ∀ x, L.InIdx x → (u.act (.evict (cacheLine L.idx))).Current x := fun x hx =>
    (benign_act (benign_evict L (cacheLine L.idx)) hu'.coherent).2.1 x hx.ours
      (Or.inl (line_idx hx))
  refine ⟨n, u.act (.evict (cacheLine L.idx)), (exec_concat_eq_some _).mpr ⟨u, hu, hstep⟩,
    hsent, ?_, ?_⟩
  · rw [read16_congr (hcur _ inIdx_idx.1) (hcur _ inIdx_idx.2), ← hidx, hu'.availIdx]
    rfl
  · have hne : ∀ x, L.InRing k x → (u.act (.evict (cacheLine L.idx))).cache.mem x =
        s.cache.mem x := by
      intro x hx
      refine Eq.trans ?_ (hring x hx)
      refine ((CacheOp.apply_frame (m := u.flat) (.evict (cacheLine L.idx)) ?_).2 x rfl).1
      show cacheLine x ≠ cacheLine L.idx
      rw [line_ring hx]
      exact hline
    have hr : L.InRing k (L.ring k) ∧ L.InRing k (L.ring k + 1) := by
      unfold TxStorage.InRing
      omega
    exact read16_congr (hne _ hr.1) (hne _ hr.2)

/-- The same, with the avail ring of the second device, 518 bytes after that of the first one. -/
def queue32Wan : TxStorage :=
  ⟨0, 65536, 66566, 32, by decide, by decide, rfl, by decide, by decide, by decide, Or.inl le_rfl,
    Or.inl (by decide), Or.inl (by decide)⟩

/-- The state after `27` frames, with a ring of zeros. -/
def framesSent : Cached ℕ ℕ UInt8 :=
  ⟨fun x => if x = queue32Wan.idx then 27 else 0, fun _ => 0, fun _ => .invalid⟩

/-- The device can see that a frame is in the slot `27`, while the entry says `0`. -/
theorem txRing_stale_framesSent : ∃ as t,
    exec (txDmaStep queue32Wan) (txDmaStart framesSent) as = some t ∧ t.sent 27 = some [7] ∧
    read16 t.cache.mem queue32Wan.idx = 28 ∧ read16 t.cache.mem (queue32Wan.ring 27) = 0 := by
  have hc : Settled framesSent := fun _ h => by cases h
  have havail : queue32Wan.AvailClean framesSent := fun _ _ _ h => by cases h
  have hnil : exec (txDmaStep queue32Wan) (txDmaStart framesSent) [] =
      some (txDmaStart framesSent) :=
    rfl
  have hlen : [(7 : UInt8)].length ≤ virtioNetMaxFrameSize := by decide
  have hk : ((txDmaStart framesSent).availIdx queue32Wan).toNat % queue32Wan.count = 27 := by decide
  obtain ⟨n, t, ht, hsent, hidx, hring⟩ :=
    txRing_stale hc havail hnil rfl hlen hk (ring_line_ne.mpr (by decide))
  exact ⟨_, t, ht, hsent, hidx.trans (by decide), hring.trans (by decide)⟩

/-- The entry of the slot `j` is in the memory, with and without the cache. -/
def TxDma.Entered (L : TxStorage) (s : TxDma) (j : ℕ) : Prop :=
  HoldsAt s.cache.mem (L.ring j) (bytes16 (UInt16.ofNat j)) ∧
    HoldsAt s.flat (L.ring j) (bytes16 (UInt16.ofNat j))

/-- An access that stores nothing else there. -/
lemma entered_act (hco : Coherent cacheLine s.cache s.flat L.owner) (hj : j < L.count)
    (hent : s.Entered L j)
    (hop : L.Benign op) (hsame : ∀ o (ho : o < (bytes16 (UInt16.ofNat j)).length) b,
      op = .store (L.ring j + o) b → b = (bytes16 (UInt16.ofNat j))[o]) :
    (s.act op).Entered L j := by
  obtain ⟨hmem, hflat⟩ := hent
  have hbyte : ∀ o (ho : o < (bytes16 (UInt16.ofNat j)).length),
      (s.act op).cache.mem (L.ring j + o) = (bytes16 (UInt16.ofNat j))[o] ∧
        (s.act op).flat (L.ring j + o) = (bytes16 (UInt16.ofNat j))[o] := by
    intro o ho
    by_cases hstore : ∃ b, op = .store (L.ring j + o) b
    · obtain ⟨b, rfl⟩ := hstore
      obtain rfl := hsame o ho b rfl
      exact ⟨(congrFun (Cached.store_mem _) _).trans (hmem o ho), Function.update_self _ _ _⟩
    · have hne : ∀ b, op ≠ .store (L.ring j + o) b := fun b he => hstore ⟨b, he⟩
      have hours : L.Ours (L.ring j + o) := (inRing_add ho).ours hj
      have hflat' := (flat_of_ne hne hours hop).trans (hflat o ho)
      have hcur : s.Current (L.ring j + o) := (hmem o ho).trans (hflat o ho).symm
      exact ⟨(current_act hop hco hours hcur hne).trans hflat', hflat'⟩
  exact ⟨fun o ho => (hbyte o ho).1, fun o ho => (hbyte o ho).2⟩

/-- The stores of a call for whatever slot. -/
lemma entry_of_writes (hj : j < L.count) (hk : k < L.count)
    (hlen : frame.length ≤ virtioNetMaxFrameSize)
    (hop : L.Writes k frame op) {o : ℕ} {b : UInt8} (ho : o < (bytes16 (UInt16.ofNat j)).length)
    (he : op = .store (L.ring j + o) b) : b = (bytes16 (UInt16.ofNat j))[o] := by
  rcases hop with ⟨y, b', rfl, hy⟩ | ⟨o', ho', rfl⟩ | ⟨l, rfl⟩
  · obtain ⟨rfl, -⟩ := CacheOp.store.inj he
    exact absurd (inRing_add ho) ((hy.ne hk hlen).2.1 j hj)
  · obtain ⟨haddr, rfl⟩ := CacheOp.store.inj he
    have hjk : j = k := by
      by_contra hjk
      exact (inRing_add ho').ne.2 j hjk (haddr ▸ inRing_add ho)
    subst hjk
    obtain rfl : o' = o := Nat.add_left_cancel haddr
    rfl
  · cases he

/-- **An entry stays in the memory**, because the driver only stores the same one again. -/
lemma entered_step (h : TxOwned L s) (hj : j < L.count) (hent : s.Entered L j)
    (hstep : txDmaStep L s action = some t) : t.Entered L j := by
  have hplace := h.place
  rcases txDmaStep_cases hstep with ⟨op, hop, rfl⟩ | ⟨k, frame, ops, hs, hk, hlen, hops, rfl⟩ |
    ⟨k, frame, op, ops, hs, rfl⟩ | ⟨k, frame, ops, v, hs, hops, hv, rfl⟩ | ⟨k, op, ops, hs, rfl⟩ |
    ⟨k, hs, rfl⟩
  · refine entered_act h.coherent hj hent (harmless_of_other h hop).1 fun o ho b he => ?_
    subst he
    exact absurd ((inRing_add ho).ours hj) hop
  · exact hent
  · rw [hs] at hplace
    obtain ⟨hk, hlen, hnone, hleft, -⟩ := hplace
    have hwrites := hleft.writes op List.mem_cons_self
    have hslot : s.place.slot = some k := by
      rw [hs]
      rfl
    exact entered_act h.coherent hj hent (harmless_of_writes h hk hlen hnone hslot hwrites).1
      fun o ho b => entry_of_writes hj hk hlen hwrites ho
  · have hstore := benign_store L L.idx v.toUInt8
    have hent₁ := entered_act h.coherent hj hent hstore fun o ho b he =>
      absurd (inIdx_of_store inIdx_idx.1 he) (inRing_add ho).ne.1
    exact entered_act (benign_act hstore h.coherent).1 hj hent₁ (benign_store L _ _)
      fun o ho b he =>
      absurd (inIdx_of_store inIdx_idx.2 he) (inRing_add ho).ne.1
  · rw [hs] at hplace
    obtain ⟨l, rfl⟩ := hplace.2.1 op List.mem_cons_self
    exact entered_act h.coherent hj hent trivial fun o ho b he => by cases he
  · exact hent

/-- **This happens to a slot only once.** After a call for a slot is over, the memory holds the
entry of the slot for ever, also while the slot is used again.

**Proof sketch.** Later calls for the slot store the same entry. -/
theorem txRing_kept {bs : List TxDmaAction} (hc : Settled c) (havail : L.AvailClean c)
    (hexec : exec (txDmaStep L) (txDmaStart c) as = some s) (hj : j < L.count)
    (hsent : s.sent j ≠ none)
    (hslot : s.place.slot ≠ some j) (hexec' : exec (txDmaStep L) s bs = some t) :
    HoldsAt t.cache.mem (L.ring j) (bytes16 (UInt16.ofNat j)) := by
  have h := (txOwned_start hc havail).exec hexec
  obtain ⟨frame, hs⟩ := Option.ne_none_iff_exists'.mp hsent
  have hent : s.Entered L j := ⟨h.visible.rings j hj hsent hslot, (h.kept j hj frame hs).ring⟩
  have hrun := exec_invariant (I := fun t => TxOwned L t ∧ t.Entered L j)
    (fun _ _ _ hI hstep => ⟨hI.1.step hstep, entered_step hI.1 hj hI.2 hstep⟩) ⟨h, hent⟩ hexec'
  exact hrun.2.1

/-- A queue of one slot. -/
def queue1 : TxStorage :=
  ⟨0, 2048, 2112, 1, by decide, by decide, rfl, by decide, by decide, by decide, Or.inl le_rfl,
    Or.inl (by decide), Or.inl (by decide)⟩

/-- The entry is in the memory during a second call for the slot. -/
theorem txRing_kept_queue1 : ∃ as bs t u, exec (txDmaStep queue1) (txDmaStart emptyCache) as =
    some t ∧
    t.sent 0 = some [7] ∧ exec (txDmaStep queue1) t bs = some u ∧ u.sent 0 = some [8] ∧
    HoldsAt u.cache.mem (queue1.ring 0) (bytes16 0) := by
  have havail : queue1.AvailClean emptyCache := fun _ _ _ h => by cases h
  have hstart := txOwned_start settled_emptyCache havail
  have hlen : ∀ b : UInt8, [b].length ≤ virtioNetMaxFrameSize :=
    fun _ => show 1 ≤ virtioNetMaxFrameSize by decide
  obtain ⟨n, s, hs, ⟨ops, hplace⟩, hsent, -⟩ := exec_send hstart rfl (hlen 7) (Nat.mod_one _)
  have hclean := exec_accesses (L := queue1) (.cleaning 0) (fun s op ops hs => by
    unfold txDriverStep
    rw [hs]) hplace
  set s' : TxDma := { s with
    cache := applyAll ops s.cache, flat := flatAll ops s.flat, place := .cleaning 0 [] } with hs'
  set t : TxDma := { s' with place := .idle } with ht
  have hcall : exec (txDmaStep queue1) (txDmaStart emptyCache)
    (.send [7] :: List.replicate n .driver ++
      (List.replicate ops.length .driver ++ [.driver])) = some t := by
    rw [exec_append, hs, Option.bind_some, exec_append, hclean]
    rfl
  obtain ⟨n', u, hu, -, hsent', -⟩ := exec_send (hstart.exec hcall) rfl (hlen 8) (Nat.mod_one _)
  have hne : t.sent 0 ≠ none := fun h => by
    rw [show t.sent 0 = some [7] from hsent] at h
    cases h
  have hslot : t.place.slot ≠ some 0 := fun h => by cases h
  exact ⟨_, _, t, u, hcall, hsent, hu, hsent',
    txRing_kept settled_emptyCache havail hcall Nat.one_pos hne hslot hu⟩

end

end Driver
