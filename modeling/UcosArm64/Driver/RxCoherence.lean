import UcosArm64.Bsp.Cache
import UcosArm64.Driver.QueueCalls

set_option relaxedAutoImplicit false
set_option autoImplicit false

/-!
# What the processor reads in a receive buffer

The device writes the receive buffers in memory, past the data cache of the processor, which may
fetch their lines and write them back at any time. `bsp/virtio_net.c` cleans a buffer before the
device gets it for the first time, and invalidates the received bytes before it reads them. It does
nothing about the lines when a buffer goes back to the device. So what the processor reads is what
the device wrote, as long as no line of a buffer is dirty when it goes back; but
`net_demo_process_frame` rewrites frames in place, in the buffer itself, and a rewritten line that
is written back later destroys the next frame.

## Main definitions

* `Driver.RxStorage` — the buffers of a device, in memory.
* `Driver.RxPlace`, `Driver.RxDma`, `Driver.rxDmaStep` — the cache, the device and the driver.
* `Driver.ReleasesClean` — a buffer goes back without a dirty line.

## Main results

* `Driver.RxOwned.step` — what every line of the buffers looks like.
* `Driver.rxFrame_coherent`, `Driver.rxFrame_readOnly` — the processor reads what the device wrote.
* `Driver.rxFrame_overwritten` — a rewritten byte can replace one of the next frame.

## Design

The state holds, beside the memory with its cache, a memory without one, on which all accesses act
at once. A buffer goes to the device as soon as it is prepared, which is earlier than in the code.
A device returns a buffer once, with a length that fits. What other code does to lines outside the
buffers is arbitrary.
-/

namespace Driver

open Bsp DataCache Transition

/-- `VIRTIO_NET_BUFFER_SIZE` -/
def virtioNetBufferSize : ℕ := 2048

/-- The buffers of a device in `g_rx_buffer_storage`, of which `rx_queue_size` are in use. -/
structure RxStorage where
  base : UInt64
  count : ℕ
  aligned : base.toNat % 64 = 0
  fits : base.toNat + count * virtioNetBufferSize ≤ 2 ^ 64 - 64

/-- `rx_buffers[i]` -/
def RxStorage.buffer (L : RxStorage) (i : ℕ) : UInt64 :=
  L.base + UInt64.ofNat (i * virtioNetBufferSize)

/-- A line of the buffer at the address `addr`. -/
def InBuffer (addr l : ℕ) : Prop := addr ≤ 64 * l ∧ 64 * l < addr + virtioNetBufferSize

instance (addr l : ℕ) : Decidable (InBuffer addr l) := inferInstanceAs (Decidable (_ ∧ _))

/-- A line outside the buffers. -/
def RxStorage.Outside (L : RxStorage) (l : ℕ) : Prop :=
  64 * l < L.base.toNat ∨ L.base.toNat + L.count * virtioNetBufferSize ≤ 64 * l

instance (L : RxStorage) (l : ℕ) : Decidable (L.Outside l) := inferInstanceAs (Decidable (_ ∨ _))

/-- Where a buffer is: `virtio_net_prepare_rx` zeroes it and cleans its lines; the device has it,
and has returned it with a length; `virtio_net_peek_rx_buffer_dev` invalidates its lines; the task
has the frame. -/
inductive RxPlace
  | zeroing (o : ℕ)
  | cleaning (ops : List (CacheOp ℕ ℕ UInt8))
  | posted
  | used (len : UInt32)
  | invalidating (len : UInt32) (ops : List (CacheOp ℕ ℕ UInt8))
  | held (len : UInt32)

/-- The memory with the cache, the memory without it, and the places of the buffers. -/
structure RxDma where
  cache : Cached ℕ ℕ UInt8
  flat : ℕ → UInt8
  place : ℕ → RxPlace

/-- Before `virtio_net_prepare_rx`. -/
def rxDmaStart (c : Cached ℕ ℕ UInt8) : RxDma := ⟨c, c.view cacheLine, fun _ => .zeroing 0⟩

/-- An access to the memory. -/
def RxDma.act (s : RxDma) (op : CacheOp ℕ ℕ UInt8) : RxDma :=
  { s with cache := op.apply cacheLine s.cache, flat := op.flat s.flat }

/-- The buffer `i` goes to the place `p`. -/
def RxDma.move (s : RxDma) (i : ℕ) (p : RxPlace) : RxDma :=
  { s with place := Function.update s.place i p }

/-- The buffer is at its new place. -/
@[simp] lemma RxDma.place_move (s : RxDma) (i : ℕ) (p : RxPlace) : (s.move i p).place i = p :=
  Function.update_self _ _ _

/-- The actions: the cache fetches a line or writes one back; other code, or the device, accesses
another line; the driver goes on with the buffer `i`; the task peeks at it, rewrites the byte `k`
of the frame, gives it back; the interrupt handler gives it back unseen; the device writes the byte
`o`, or returns it. -/
inductive RxDmaAction
  | fill (l : ℕ)
  | evict (l : ℕ)
  | elsewhere (op : CacheOp ℕ ℕ UInt8)
  | driver (i : ℕ)
  | peek (i : ℕ)
  | rewrite (i k : ℕ) (b : UInt8)
  | release (i : ℕ)
  | repost (i : ℕ)
  | device (i o : ℕ) (b : UInt8)
  | complete (i : ℕ) (len : UInt32)

/-- The next access of the driver for the buffer `i`, in `virtio_net_prepare_rx` or in
`virtio_net_peek_rx_buffer_dev`. -/
def rxDriverStep (L : RxStorage) (s : RxDma) (i : ℕ) : Option RxDma :=
  match s.place i with
  | .zeroing o =>
    if o < virtioNetBufferSize then
      some ((s.act (.store ((L.buffer i).toNat + o) 0)).move i (.zeroing (o + 1)))
    else
      (cacheCleanRange (L.buffer i) (UInt64.ofNat virtioNetBufferSize)).map fun ops =>
        s.move i (.cleaning ops)
  | .cleaning [] => some (s.move i .posted)
  | .cleaning (op :: ops) => some ((s.act op).move i (.cleaning ops))
  | .invalidating len [] => some (s.move i (.held len))
  | .invalidating len (op :: ops) => some ((s.act op).move i (.invalidating len ops))
  | .posted | .used _ | .held _ => none

/-- `virtio_net_peek_rx_buffer_dev` up to its call of `cache_invalidate_range`. -/
def rxPeek (L : RxStorage) (s : RxDma) (i : ℕ) (len : UInt32) : Option RxDma :=
  if len.toNat > virtioNetHdrSize then
    (cacheInvalidateRange (L.buffer i) len.toUInt64).map fun ops => s.move i (.invalidating len ops)
  else some (s.move i (.held len))

/-- The address of the byte `k` of the frame in the buffer `i`. -/
def RxStorage.frame (L : RxStorage) (i k : ℕ) : ℕ := (L.buffer i).toNat + virtioNetHdrSize + k

/-- The steps. -/
def rxDmaStep (L : RxStorage) (s : RxDma) : RxDmaAction → Option RxDma
  | .fill l => some (s.act (.fill l))
  | .evict l => some (s.act (.evict l))
  | .elsewhere op => if L.Outside (op.line cacheLine) then some (s.act op) else none
  | .driver i => if i < L.count then rxDriverStep L s i else none
  | .peek i =>
    match s.place i with
    | .used len => if i < L.count then rxPeek L s i len else none
    | _ => none
  | .rewrite i k b =>
    match s.place i with
    | .held len =>
      if i < L.count ∧ k < rxPayloadLen len then some (s.act (.store (L.frame i k) b)) else none
    | _ => none
  | .release i =>
    match s.place i with
    | .held _ => if i < L.count then some (s.move i .posted) else none
    | _ => none
  | .repost i =>
    match s.place i with
    | .used _ => if i < L.count then some (s.move i .posted) else none
    | _ => none
  | .device i o b =>
    match s.place i with
    | .posted =>
      if i < L.count ∧ o < virtioNetBufferSize then
        some (s.act (.device ((L.buffer i).toNat + o) b))
      else none
    | _ => none
  | .complete i len =>
    match s.place i with
    | .posted =>
      if i < L.count ∧ len.toNat ≤ virtioNetBufferSize then some (s.move i (.used len)) else none
    | _ => none

/-- **A buffer goes back without a dirty line.** -/
def ReleasesClean (L : RxStorage) (s : RxDma) : RxDmaAction → Prop
  | .release i => ∀ l ∈ linesOf (L.buffer i).toNat virtioNetBufferSize, s.cache.tag l ≠ .dirty
  | _ => True

/-! ## The lines of the buffers -/

section

variable {L : RxStorage} {i j k l o : ℕ} {addr len : ℕ}

/-- The addresses of the buffers do not wrap. -/
lemma RxStorage.toNat_buffer (hi : i < L.count) :
    (L.buffer i).toNat = L.base.toNat + i * virtioNetBufferSize := by
  have hfits := L.fits
  have hle : (i + 1) * virtioNetBufferSize ≤ L.count * virtioNetBufferSize :=
    Nat.mul_le_mul_right _ hi
  rw [Nat.add_mul] at hle
  unfold RxStorage.buffer
  rw [UInt64.toNat_add, UInt64.toNat_ofNat', Nat.mod_eq_of_lt (show i * virtioNetBufferSize <
    2 ^ 64 by omega), Nat.mod_eq_of_lt (by unfold virtioNetBufferSize at *; omega)]

/-- The buffers are aligned, and lie before the end of the storage. -/
lemma RxStorage.buffer_bounds (hi : i < L.count) : (L.buffer i).toNat % 64 = 0 ∧
    (L.buffer i).toNat + virtioNetBufferSize ≤ L.base.toNat + L.count * virtioNetBufferSize ∧
    (L.buffer i).toNat + virtioNetBufferSize ≤ 2 ^ 64 - 64 := by
  have halign := L.aligned
  have hfits := L.fits
  have hle : (i + 1) * virtioNetBufferSize ≤ L.count * virtioNetBufferSize :=
    Nat.mul_le_mul_right _ hi
  rw [L.toNat_buffer hi]
  unfold virtioNetBufferSize at *
  omega

/-- A byte of a buffer lies in one of its lines. -/
lemma inBuffer_cacheLine (haddr : addr % 64 = 0) (ho : o < virtioNetBufferSize) :
    InBuffer addr (cacheLine (addr + o)) := by
  unfold InBuffer cacheLine virtioNetBufferSize at *
  omega

/-- The lines of the first bytes of a buffer are lines of the buffer. -/
lemma InBuffer.of_mem (haddr : addr % 64 = 0) (hlen : len ≤ virtioNetBufferSize)
    (hl : l ∈ linesOf addr len) : InBuffer addr l := by
  obtain ⟨o, ho, rfl⟩ := mem_linesOf.mp hl
  exact inBuffer_cacheLine haddr (by omega)

/-- The lines of a buffer are those of its bytes. -/
lemma InBuffer.mem (h : InBuffer addr l) : l ∈ linesOf addr virtioNetBufferSize := by
  unfold InBuffer at h
  refine mem_linesOf.mpr ⟨64 * l - addr, by omega, ?_⟩
  unfold cacheLine
  omega

/-- The buffers have no line in common. -/
lemma InBuffer.ne (hi : i < L.count) (hj : j < L.count) (hij : i ≠ j)
    (h : InBuffer (L.buffer i).toNat l) : ¬ InBuffer (L.buffer j).toNat l := by
  unfold InBuffer at *
  rw [L.toNat_buffer hi] at h
  rw [L.toNat_buffer hj]
  unfold virtioNetBufferSize at *
  omega

/-- A line of a buffer is not outside the buffers. -/
lemma InBuffer.not_outside (hi : i < L.count) (h : InBuffer (L.buffer i).toNat l) :
    ¬ L.Outside l := by
  have hbounds := (L.buffer_bounds hi).2.1
  have hbase := L.toNat_buffer hi
  unfold InBuffer at h
  unfold RxStorage.Outside
  omega

/-- The bytes of a frame. -/
lemma frame_bounds {len : UInt32} (hk : k < rxPayloadLen len) :
    virtioNetHdrSize < len.toNat ∧ virtioNetHdrSize + k < len.toNat := by
  unfold rxPayloadLen at hk
  split_ifs at hk with h
  · omega
  · exact absurd hk (Nat.not_lt_zero _)

/-! ## The owners of the lines -/

/-- **Who owns the lines of the buffer** at `addr`, in each place: the driver until it is posted,
the device until its bytes are invalidated, and then `o`, as far as the frame goes. -/
def RxPlace.Owns (c : Cached ℕ ℕ UInt8) (own : ℕ → Owner) (o : Owner) (addr : ℕ) : RxPlace → Prop
  | .zeroing _ => ∀ l, InBuffer addr l → own l = .cpu
  | .cleaning ops => ∃ ls : List ℕ, ops = ls.map .clean ∧
      ∀ l, InBuffer addr l → own l = .cpu ∧ (c.tag l = .dirty → l ∈ ls)
  | .posted => ∀ l, InBuffer addr l → own l = .device
  | .used len => len.toNat ≤ virtioNetBufferSize ∧ ∀ l, InBuffer addr l → own l = .device
  | .invalidating len ops => len.toNat ≤ virtioNetBufferSize ∧ ∃ ls : List ℕ,
      ops = ls.map .invalidate ∧
      ls.Nodup ∧ (∀ l ∈ ls, InBuffer addr l ∧ own l = .device) ∧
      ∀ l, InBuffer addr l → own l = o ∨ own l = .device ∧ (l ∈ linesOf addr len.toNat → l ∈ ls)
  | .held len => len.toNat ≤ virtioNetBufferSize ∧ ∀ l, InBuffer addr l →
      own l = o ∨ own l = .device ∧ (virtioNetHdrSize < len.toNat → l ∉ linesOf addr len.toNat)

/-- **The invariant of the buffers**, when `o` owns the frames that the driver has. -/
structure RxOwned (L : RxStorage) (o : Owner) (s : RxDma) (own : ℕ → Owner) : Prop where
  coherent : Coherent cacheLine s.cache s.flat own
  owns : ∀ i < L.count, (s.place i).Owns s.cache own o (L.buffer i).toNat
  outside : ∀ l, L.Outside l → own l = .anyone

/-- What the owners are depends on the lines of the buffer only, of which none may become dirty. -/
lemma RxPlace.Owns.congr {c c' : Cached ℕ ℕ UInt8} {own own' : ℕ → Owner} {o : Owner} {p : RxPlace}
    (h : p.Owns c own o addr) (hown : ∀ l, InBuffer addr l → own' l = own l)
    (hdirty : ∀ l, InBuffer addr l → c'.tag l = .dirty → c.tag l = .dirty) :
    p.Owns c' own' o addr := by
  cases p with
  | zeroing o => exact fun l hl => (hown l hl).trans (h l hl)
  | cleaning ops =>
    obtain ⟨ls, hops, hls⟩ := h
    exact ⟨ls, hops, fun l hl => ⟨(hown l hl).trans (hls l hl).1, fun hd => (hls l hl).2
      (hdirty l hl hd)⟩⟩
  | posted => exact fun l hl => (hown l hl).trans (h l hl)
  | used len => exact ⟨h.1, fun l hl => (hown l hl).trans (h.2 l hl)⟩
  | invalidating len ops =>
    obtain ⟨hlen, ls, hops, hnodup, hls, hrest⟩ := h
    refine ⟨hlen, ls, hops, hnodup, fun l hl => ?_, fun l hl => ?_⟩
    · obtain ⟨hin, hdev⟩ := hls l hl
      exact ⟨hin, (hown l hin).trans hdev⟩
    · rw [hown l hl]
      exact hrest l hl
  | held len =>
    refine ⟨h.1, fun l hl => ?_⟩
    rw [hown l hl]
    exact h.2 l hl

variable {s t : RxDma} {own : ℕ → Owner} {ow : Owner} {a : RxDmaAction} {p : RxPlace}

/-- An access that its owner carries out, and that stores to no buffer but the one at `addr`, if
any. -/
lemma RxOwned.act (h : RxOwned L ow s own) (op : CacheOp ℕ ℕ UInt8)
    (hop : own (op.line cacheLine) ≠ .anyone → op.Allowed s.cache (own (op.line cacheLine))) :
    Coherent cacheLine (s.act op).cache (s.act op).flat own ∧
      ∀ j < L.count, (∀ x b, op = .store x b → ¬ InBuffer (L.buffer j).toNat (cacheLine x)) →
        (s.place j).Owns (s.act op).cache own ow (L.buffer j).toNat := by
  refine ⟨h.coherent.apply hop, fun j hj hstore => (h.owns j hj).congr (fun _ _ => rfl)
    fun l hl => ?_⟩
  exact op.dirty_of_apply cacheLine (fun x b he hx => hstore x b he (hx ▸ hl))

/-- A buffer goes to another place, and its lines may go to other owners. -/
lemma RxOwned.move {own' : ℕ → Owner} (hco : Coherent cacheLine s.cache s.flat own')
    (hother : ∀ j < L.count, j ≠ i → (s.place j).Owns s.cache own' ow (L.buffer j).toNat)
    (hself : i < L.count → p.Owns s.cache own' ow (L.buffer i).toNat)
    (hout : ∀ l, L.Outside l → own' l = .anyone) : RxOwned L ow (s.move i p) own' := by
  refine ⟨hco, fun j hj => ?_, hout⟩
  show (Function.update s.place i p j).Owns _ _ _ _
  by_cases hji : j = i
  · subst hji
    rw [Function.update_self]
    exact hself hj
  · rw [Function.update_of_ne hji]
    exact hother j hj hji

/-- The owners after the lines of a buffer have gone to `o`. -/
def giveLines (own : ℕ → Owner) (addr : ℕ) (o : Owner) (l : ℕ) : Owner :=
  if InBuffer addr l then o else own l

/-- **A buffer goes to the device** with no dirty line. -/
lemma RxOwned.post (h : RxOwned L ow s own) (hi : i < L.count)
    (hline : ∀ l, InBuffer (L.buffer i).toNat l → s.cache.tag l ≠ .dirty ∧ own l ≠ .anyone) :
    RxOwned L ow (s.move i .posted) (giveLines own (L.buffer i).toNat .device) := by
  refine RxOwned.move (h.coherent.transfer fun l => ?_) (fun j hj hji => ?_)
    (fun _ l hl => if_pos hl)
    fun l hl => ?_
  · unfold giveLines
    split_ifs with hl
    · exact Or.inr (Or.inr ⟨(hline l hl).2, (hline l hl).1, Or.inl rfl⟩)
    · exact Or.inl rfl
  · exact (h.owns j hj).congr (fun l hl => if_neg (hl.ne hj hi hji)) fun _ _ hd => hd
  · rw [giveLines, if_neg fun hin => hin.not_outside hi hl]
    exact h.outside l hl

/-- A buffer stays with its owners. -/
lemma RxOwned.stay (h : RxOwned L ow s own)
    (hself : i < L.count → p.Owns s.cache own ow (L.buffer i).toNat) :
    RxOwned L ow (s.move i p) own :=
  RxOwned.move h.coherent (fun j hj _ => h.owns j hj) hself h.outside

/-! ## The steps -/

/-- A step of the driver in `virtio_net_prepare_rx` or in `cache_invalidate_range`.

**Proof sketch.** One case per place of the buffer. Zeroing stores to lines that the driver owns;
cleaning leaves fewer of them dirty, and none in the end, so that they can go to the device;
invalidating takes each line over from the device. -/
lemma RxOwned.driverStep (h : RxOwned L ow s own) (hi : i < L.count)
    (hstep : rxDriverStep L s i = some t) :
    ∃ own', RxOwned L ow t own' := by
  obtain ⟨halign, -, hend⟩ := L.buffer_bounds hi
  have howns := h.owns i hi
  have hne : ∀ {l j}, InBuffer (L.buffer i).toNat l → j < L.count → j ≠ i →
      ¬ InBuffer (L.buffer j).toNat l := fun hl hj hji => hl.ne hi hj (Ne.symm hji)
  unfold rxDriverStep at hstep
  split at hstep
  next o hplace =>
    rw [hplace] at howns
    split_ifs at hstep with ho
    · obtain rfl := Option.some.inj hstep
      have hin := inBuffer_cacheLine halign ho
      obtain ⟨hco, hother⟩ := h.act (.store ((L.buffer i).toNat + o) 0) fun _ => howns _ hin
      refine ⟨own, RxOwned.move hco (fun j hj hji => hother j hj ?_) (fun _ => howns) h.outside⟩
      rintro x b he
      obtain ⟨rfl, -⟩ := CacheOp.store.inj he
      exact hne hin hj hji
    · have hops := cacheRange_linesOf .clean (L.buffer i) (UInt64.ofNat virtioNetBufferSize) hend
      rw [show cacheCleanRange (L.buffer i) (UInt64.ofNat virtioNetBufferSize) =
        _ from hops] at hstep
      obtain rfl := Option.some.inj hstep
      exact ⟨own, h.stay fun _ => ⟨_, rfl, fun l hl => ⟨howns l hl, fun _ => hl.mem⟩⟩⟩
  next hplace =>
    rw [hplace] at howns
    obtain ⟨ls, hops, hls⟩ := howns
    obtain rfl : ls = [] := List.map_eq_nil_iff.mp hops.symm
    obtain rfl := Option.some.inj hstep
    refine ⟨_, h.post hi fun l hl => ⟨fun hd => ?_, ?_⟩⟩
    · exact absurd ((hls l hl).2 hd) List.not_mem_nil
    · rw [(hls l hl).1]
      simp
  next op ops hplace =>
    rw [hplace] at howns
    obtain ⟨ls, hops, hls⟩ := howns
    obtain ⟨l, ls, rfl, rfl, rfl⟩ := List.map_eq_cons_iff.mp hops.symm
    obtain rfl := Option.some.inj hstep
    obtain ⟨hco, hother⟩ := h.act (.clean l) fun _ => trivial
    refine ⟨own, RxOwned.move hco (fun j hj _ => hother j hj (by simp))
      (fun _ => ⟨ls, rfl, ?_⟩) h.outside⟩
    refine fun l' hl' => ⟨(hls l' hl').1, fun hd => ?_⟩
    have hd' := CacheOp.dirty_of_apply cacheLine (.clean l) (by simp) hd
    refine (List.mem_cons.mp ((hls l' hl').2 hd')).resolve_left ?_
    rintro rfl
    exact Cached.clean_not_dirty hd
  next len hplace =>
    rw [hplace] at howns
    obtain ⟨hlen, ls, hops, -, -, hrest⟩ := howns
    obtain rfl : ls = [] := List.map_eq_nil_iff.mp hops.symm
    obtain rfl := Option.some.inj hstep
    refine ⟨own, h.stay fun _ => ⟨hlen, fun l hl => ?_⟩⟩
    exact (hrest l hl).imp_right fun ⟨hdev, hmem⟩ =>
      ⟨hdev, fun _ hl' => absurd (hmem hl') List.not_mem_nil⟩
  next len op ops hplace =>
    rw [hplace] at howns
    obtain ⟨hlen, ls, hops, hnodup, hls, hrest⟩ := howns
    obtain ⟨l, ls, rfl, rfl, rfl⟩ := List.map_eq_cons_iff.mp hops.symm
    obtain rfl := Option.some.inj hstep
    obtain ⟨hl, hdev⟩ := hls l List.mem_cons_self
    obtain ⟨hnot, hnodup⟩ := List.nodup_cons.mp hnodup
    have hup : ∀ {l'}, l' ≠ l → Function.update own l ow l' = own l' := fun he =>
      Function.update_of_ne he _ _
    refine ⟨Function.update own l ow, RxOwned.move (h.coherent.acquire hdev ow) (fun j hj hji => ?_)
      (fun _ => ⟨hlen, ls, rfl, hnodup, fun l' hl' => ?_, fun l' hl' => ?_⟩) fun l' hl' => ?_⟩
    · refine (h.owns j hj).congr (fun l' hl' => hup ?_) fun l' hl' hd => ?_
      · rintro rfl
        exact hne hl hj hji hl'
      · exact CacheOp.dirty_of_apply cacheLine (.invalidate l) (by simp) hd
    · rw [hup fun he => hnot (he ▸ hl')]
      exact hls l' (List.mem_cons_of_mem _ hl')
    · by_cases he : l' = l
      · subst he
        exact Or.inl (Function.update_self _ _ _)
      · rw [hup he]
        exact (hrest l' hl').imp_right fun ⟨hdev', hmem⟩ =>
          ⟨hdev', fun hin => (List.mem_cons.mp (hmem hin)).resolve_left he⟩
    · rw [hup fun he => (he ▸ hl).not_outside hi hl']
      exact h.outside l' hl'
  all_goals cases hstep

/-- The peek at a buffer that the device has returned. -/
lemma RxOwned.peekStep {len : UInt32} (h : RxOwned L ow s own) (hi : i < L.count)
    (hplace : s.place i = .used len)
    (hstep : rxPeek L s i len = some t) : RxOwned L ow t own := by
  obtain ⟨halign, -, hend⟩ := L.buffer_bounds hi
  have howns := h.owns i hi
  rw [hplace] at howns
  obtain ⟨hlen, hdev⟩ := howns
  unfold rxPeek at hstep
  split_ifs at hstep with hhdr
  · have hops := cacheRange_linesOf .invalidate (L.buffer i) len.toUInt64
      (by rw [UInt32.toNat_toUInt64]; omega)
    rw [show cacheInvalidateRange (L.buffer i) len.toUInt64 = _ from hops,
      UInt32.toNat_toUInt64] at hstep
    obtain rfl := Option.some.inj hstep
    refine h.stay fun _ => ⟨hlen, _, rfl, nodup_linesOf _ _, fun l hl => ?_, fun l hl => ?_⟩
    · have hin := InBuffer.of_mem halign hlen hl
      exact ⟨hin, hdev l hin⟩
    · exact Or.inr ⟨hdev l hl, fun hmem => hmem⟩
  · obtain rfl := Option.some.inj hstep
    exact h.stay fun _ => ⟨hlen, fun l hl => Or.inr ⟨hdev l hl, fun hlt => absurd hlt hhdr⟩⟩

/-- The owner of a byte of the frame that the task has. -/
lemma RxOwned.frame_owner {len : UInt32} (h : RxOwned L ow s own) (hi : i < L.count)
    (hplace : s.place i = .held len) (hk : k < rxPayloadLen len) :
    InBuffer (L.buffer i).toNat (cacheLine (L.frame i k)) ∧ own (cacheLine (L.frame i k)) = ow := by
  obtain ⟨halign, -, -⟩ := L.buffer_bounds hi
  obtain ⟨hhdr, hlt⟩ := frame_bounds hk
  have howns := h.owns i hi
  rw [hplace] at howns
  obtain ⟨hlen, hrest⟩ := howns
  have hmem : cacheLine (L.frame i k) ∈ linesOf (L.buffer i).toNat len.toNat :=
    mem_linesOf.mpr ⟨virtioNetHdrSize + k, hlt, by rw [RxStorage.frame, Nat.add_assoc]⟩
  have hin := InBuffer.of_mem halign hlen hmem
  exact ⟨hin, (hrest _ hin).resolve_right fun ⟨_, hnot⟩ => hnot hhdr hmem⟩

/-- The task rewrites a byte of a frame that it owns. -/
lemma RxOwned.rewriteStep {len : UInt32} (h : RxOwned L .cpu s own) (hi : i < L.count)
    (hplace : s.place i = .held len) (hk : k < rxPayloadLen len) (b : UInt8) :
    RxOwned L .cpu (s.act (.store (L.frame i k) b)) own := by
  obtain ⟨hin, hown⟩ := h.frame_owner hi hplace hk
  obtain ⟨hco, hother⟩ := h.act (.store (L.frame i k) b) fun _ => hown
  refine ⟨hco, fun j hj => ?_, h.outside⟩
  by_cases hji : j = i
  · subst hji
    show (s.place j).Owns _ _ _ _
    have howns := h.owns j hj
    rw [hplace] at howns ⊢
    exact howns
  · refine hother j hj ?_
    rintro x b' he
    obtain ⟨rfl, -⟩ := CacheOp.store.inj he
    exact hin.ne hi hj (Ne.symm hji)

/-- No line of a frame that is only read is dirty. -/
lemma RxOwned.not_dirty {len : UInt32} (h : RxOwned L .shared s own) (hi : i < L.count)
    (hplace : s.place i = .held len) (hl : InBuffer (L.buffer i).toNat l) :
    s.cache.tag l ≠ .dirty := by
  intro hd
  have howns := h.owns i hi
  rw [hplace] at howns
  obtain he | he : own l = .shared ∨ own l = .device := (howns.2 l hl).imp_right And.left
  all_goals
    have hcpu := (h.coherent l (by rw [he]; simp)).dirty hd
    rw [he] at hcpu
    cases hcpu

/-- The task gives a buffer back, no line of which is dirty. -/
lemma RxOwned.releaseStep {len : UInt32} (h : RxOwned L ow s own) (how : ow.CpuReads)
    (hi : i < L.count)
    (hplace : s.place i = .held len)
    (hclean : ow = .cpu → ∀ l, InBuffer (L.buffer i).toNat l → s.cache.tag l ≠ .dirty) :
    ∃ own', RxOwned L ow (s.move i .posted) own' := by
  have howns := h.owns i hi
  rw [hplace] at howns
  refine ⟨_, h.post hi fun l hl => ?_⟩
  have hown : own l ≠ .anyone := by
    rcases howns.2 l hl with he | ⟨he, -⟩
    · rw [he]
      rcases how with rfl | rfl <;> simp
    · rw [he]
      simp
  refine ⟨fun hd => ?_, hown⟩
  rcases how with rfl | rfl
  · exact hclean rfl l hl hd
  · exact h.not_dirty hi hplace hl hd

/-- **A step keeps the invariant**: one that gives a buffer back needs that no line of it is dirty,
which the owners say when the frames are only read.

**Proof sketch.** An access is one of the owner of its line; a buffer that changes its place takes
its lines along. -/
theorem RxOwned.step (h : RxOwned L ow s own) (how : ow.CpuReads)
    (hclean : ow = .cpu → ReleasesClean L s a) (hread : ow = .shared → ∀ i k b, a ≠ .rewrite i k b)
    (hstep : rxDmaStep L s a = some t) : ∃ own', RxOwned L ow t own' := by
  have hact : ∀ {op : CacheOp ℕ ℕ UInt8},
      (own (op.line cacheLine) ≠ .anyone → op.Allowed s.cache (own (op.line cacheLine))) →
      (∀ x b, op = .store x b → L.Outside (cacheLine x)) → RxOwned L ow (s.act op) own :=
    fun hop hstore => ⟨(h.act _ hop).1, fun j hj => (h.act _ hop).2 j hj fun x b he hin =>
      hin.not_outside hj (hstore x b he), h.outside⟩
  cases a with
  | fill l | evict l =>
    obtain rfl := Option.some.inj hstep
    exact ⟨own, hact (fun _ => trivial) (by simp)⟩
  | elsewhere op =>
    simp only [rxDmaStep] at hstep
    split_ifs at hstep with hout
    obtain rfl := Option.some.inj hstep
    refine ⟨own, hact (fun ha => absurd (h.outside _ hout) ha) ?_⟩
    rintro x b rfl
    exact hout
  | driver i =>
    simp only [rxDmaStep] at hstep
    split_ifs at hstep with hi
    exact h.driverStep hi hstep
  | peek i =>
    simp only [rxDmaStep] at hstep
    split at hstep
    next len hplace =>
      split_ifs at hstep with hi
      exact ⟨own, h.peekStep hi hplace hstep⟩
    next => cases hstep
  | rewrite i k b =>
    simp only [rxDmaStep] at hstep
    split at hstep
    next len hplace =>
      split_ifs at hstep with hcond
      obtain rfl := Option.some.inj hstep
      obtain rfl : ow = .cpu := how.resolve_right fun hs => hread hs i k b rfl
      exact ⟨own, h.rewriteStep hcond.1 hplace hcond.2 b⟩
    next => cases hstep
  | release i =>
    simp only [rxDmaStep] at hstep
    split at hstep
    next len hplace =>
      split_ifs at hstep with hi
      obtain rfl := Option.some.inj hstep
      exact h.releaseStep how hi hplace fun hcpu l hl hd => hclean hcpu l hl.mem hd
    next => cases hstep
  | repost i =>
    simp only [rxDmaStep] at hstep
    split at hstep
    next len hplace =>
      split_ifs at hstep with hi
      obtain rfl := Option.some.inj hstep
      have howns := h.owns i hi
      rw [hplace] at howns
      exact ⟨own, h.stay fun _ => howns.2⟩
    next => cases hstep
  | device i o b =>
    simp only [rxDmaStep] at hstep
    split at hstep
    next hplace =>
      split_ifs at hstep with hcond
      obtain rfl := Option.some.inj hstep
      have howns := h.owns i hcond.1
      rw [hplace] at howns
      exact ⟨own, hact (fun _ => howns _ (inBuffer_cacheLine (L.buffer_bounds hcond.1).1 hcond.2))
        (by simp)⟩
    next => cases hstep
  | complete i len =>
    simp only [rxDmaStep] at hstep
    split at hstep
    next hplace =>
      split_ifs at hstep with hcond
      obtain rfl := Option.some.inj hstep
      have howns := h.owns i hcond.1
      rw [hplace] at howns
      exact ⟨own, h.stay fun _ => ⟨hcond.2, howns⟩⟩
    next => cases hstep

/-! ## The driver on its own -/

/-- The rest of `util_memset`. -/
lemma exec_zeroing (hi : i < L.count) (n : ℕ) (hplace : s.place i = .zeroing o)
    (hn : o + n = virtioNetBufferSize) :
    ∃ t, exec (rxDmaStep L) s (List.replicate n (.driver i)) = some t ∧
      t.place i = .zeroing virtioNetBufferSize := by
  induction n generalizing s o with
  | zero => exact ⟨s, rfl, by rw [hplace, ← hn, Nat.add_zero]⟩
  | succ n ih =>
    have hstep : rxDriverStep L s i =
        some ((s.act (.store ((L.buffer i).toNat + o) 0)).move i (.zeroing (o + 1))) := by
      unfold rxDriverStep
      rw [hplace]
      exact if_pos (by omega)
    obtain ⟨t, ht, hdone⟩ :=
      ih (s := (s.act (.store ((L.buffer i).toNat + o) 0)).move i (.zeroing (o + 1)))
        (RxDma.place_move _ i _) (by omega)
    refine ⟨t, ?_, hdone⟩
    rw [List.replicate_succ, exec_cons, rxDmaStep, if_pos hi, hstep]
    exact ht

/-- The rest of `cache_clean_range`. -/
lemma exec_cleaning (hi : i < L.count) (ops : List (CacheOp ℕ ℕ UInt8))
    (hplace : s.place i = .cleaning ops) :
    ∃ t, exec (rxDmaStep L) s (List.replicate (ops.length + 1) (.driver i)) = some t ∧
      t.place i = .posted := by
  induction ops generalizing s with
  | nil =>
    refine ⟨s.move i .posted, ?_, s.place_move i _⟩
    have hstep : rxDriverStep L s i = some (s.move i .posted) := by
      unfold rxDriverStep
      rw [hplace]
    rw [List.length_nil, Nat.zero_add, List.replicate_one, exec_cons, rxDmaStep, if_pos hi, hstep]
    rfl
  | cons op ops ih =>
    have hstep : rxDriverStep L s i = some ((s.act op).move i (.cleaning ops)) := by
      unfold rxDriverStep
      rw [hplace]
    obtain ⟨t, ht, hdone⟩ :=
      ih (s := (s.act op).move i (.cleaning ops)) ((s.act op).place_move i _)
    refine ⟨t, ?_, hdone⟩
    rw [List.length_cons, List.replicate_succ, exec_cons, rxDmaStep, if_pos hi, hstep]
    exact ht

/-- **`virtio_net_prepare_rx` ends**, and posts the buffer. -/
lemma exec_prepareRx (hi : i < L.count) (hplace : s.place i = .zeroing 0) :
    ∃ n t, exec (rxDmaStep L) s (List.replicate n (.driver i)) = some t ∧ t.place i = .posted := by
  obtain ⟨u, hu, hzero⟩ := exec_zeroing hi virtioNetBufferSize hplace (Nat.zero_add _)
  have hops := cacheRange_linesOf .clean (L.buffer i) (UInt64.ofNat virtioNetBufferSize)
    (L.buffer_bounds hi).2.2
  set ops := (linesOf (L.buffer i).toNat (UInt64.ofNat virtioNetBufferSize).toNat).map
    (CacheOp.clean : ℕ → CacheOp ℕ ℕ UInt8) with hdef
  have hstep : rxDmaStep L u (.driver i) = some (u.move i (.cleaning ops)) := by
    rw [rxDmaStep, if_pos hi, rxDriverStep, hzero]
    simp only [lt_irrefl, if_false]
    rw [show cacheCleanRange (L.buffer i) (UInt64.ofNat virtioNetBufferSize) = _ from hops]
    rfl
  obtain ⟨t, ht, hposted⟩ :=
    exec_cleaning (s := u.move i (.cleaning ops)) hi ops (u.place_move i _)
  refine ⟨virtioNetBufferSize + (1 + (ops.length + 1)), t, ?_, hposted⟩
  rw [← List.replicate_append_replicate, ← List.replicate_append_replicate, exec_append, hu,
    Option.bind_some, List.replicate_one, List.singleton_append, exec_cons, hstep]
  exact ht

/-- The rest of `cache_invalidate_range`. -/
lemma exec_invalidating {len : UInt32} (hi : i < L.count) (ls : List ℕ)
    (hplace : s.place i = .invalidating len (ls.map .invalidate)) :
    ∃ t, exec (rxDmaStep L) s (List.replicate (ls.length + 1) (.driver i)) = some t ∧
      t.place i = .held len ∧ t.cache.mem = s.cache.mem ∧ t.flat = s.flat ∧
      ∀ l, s.cache.tag l = .invalid → t.cache.tag l = .invalid := by
  induction ls generalizing s with
  | nil =>
    refine ⟨s.move i (.held len), ?_, s.place_move i _, rfl, rfl, fun _ hl => hl⟩
    have hstep : rxDriverStep L s i = some (s.move i (.held len)) := by
      unfold rxDriverStep
      rw [hplace]
      rfl
    rw [List.length_nil, Nat.zero_add, List.replicate_one, exec_cons, rxDmaStep, if_pos hi, hstep]
    rfl
  | cons l ls ih =>
    have hstep : rxDriverStep L s i =
        some ((s.act (.invalidate l)).move i (.invalidating len (ls.map .invalidate))) := by
      unfold rxDriverStep
      rw [hplace]
      rfl
    obtain ⟨t, ht, hheld, hmem, hflat, htag⟩ :=
      ih (s := (s.act (.invalidate l)).move i (.invalidating len (ls.map .invalidate)))
        (RxDma.place_move _ i _)
    refine ⟨t, ?_, hheld, hmem, hflat, fun l' hl' => htag l' ?_⟩
    · rw [List.length_cons, List.replicate_succ, exec_cons, rxDmaStep, if_pos hi, hstep]
      exact ht
    · show Function.update s.cache.tag l .invalid l' = _
      by_cases he : l' = l
      · rw [he, Function.update_self]
      · rw [Function.update_of_ne he, hl']

/-- **A frame is returned**: the device completes the buffer, and the task peeks at it. The memory
does not change, and no line comes into the cache. -/
lemma exec_return {len : UInt32} (hi : i < L.count) (hposted : s.place i = .posted)
    (hhdr : virtioNetHdrSize < len.toNat) (hlen : len.toNat ≤ virtioNetBufferSize) :
    ∃ n t, exec (rxDmaStep L) s (.complete i len :: .peek i :: List.replicate n (.driver i)) =
        some t ∧
      t.place i = .held len ∧ t.cache.mem = s.cache.mem ∧ t.flat = s.flat ∧
      ∀ l, s.cache.tag l = .invalid → t.cache.tag l = .invalid := by
  obtain ⟨-, -, hend⟩ := L.buffer_bounds hi
  set u := s.move i (.used len) with hu
  set ls := linesOf (L.buffer i).toNat len.toNat with hls
  have hused : u.place i = .used len := s.place_move i _
  have hcomplete : rxDmaStep L s (.complete i len) = some u := by
    simp only [rxDmaStep, hposted]
    exact if_pos ⟨hi, hlen⟩
  have hpeek : rxDmaStep L u (.peek i) =
      some (u.move i (.invalidating len (ls.map .invalidate))) := by
    have hops := cacheRange_linesOf .invalidate (L.buffer i) len.toUInt64
      (by rw [UInt32.toNat_toUInt64]; omega)
    simp only [rxDmaStep, hused, rxPeek]
    rw [if_pos hi, if_pos hhdr, show cacheInvalidateRange (L.buffer i) len.toUInt64 = _ from hops,
      UInt32.toNat_toUInt64]
    rfl
  obtain ⟨t, ht, hheld, hmem, hflat, htag⟩ := exec_invalidating hi ls (u.place_move i _)
  refine ⟨ls.length + 1, t, ?_, hheld, hmem, hflat, htag⟩
  rw [exec_cons, hcomplete, Option.bind_some, exec_cons, hpeek]
  exact ht

/-- One buffer at the address `0`. -/
def oneBuffer : RxStorage := ⟨0, 1, rfl, by decide⟩

/-- No line of the cache is stale: what it holds clean, the memory holds. -/
def Settled (c : Cached ℕ ℕ UInt8) : Prop := ∀ x, c.tag (cacheLine x) = .clean → c.data x = c.mem x

/-- A memory of zeros, and nothing in the cache. -/
def emptyCache : Cached ℕ ℕ UInt8 := ⟨fun _ => 0, fun _ => 0, fun _ => .invalid⟩

/-- An empty cache has no stale line. -/
lemma settled_emptyCache : Settled emptyCache := fun _ h => by cases h

/-- The device writes a frame of the one byte `b` into the buffer `i` and returns it, and the task
peeks at it, with `n` accesses of the driver. -/
def oneFrame (i n : ℕ) (b : UInt8) : List RxDmaAction :=
  .device i virtioNetHdrSize b :: .complete i 13 :: .peek i :: List.replicate n (.driver i)

/-- It rewrites no frame and gives no buffer back. -/
lemma of_mem_oneFrame {n : ℕ} {b : UInt8} (ha : a ∈ oneFrame i n b) :
    (∀ j m d, a ≠ .rewrite j m d) ∧ ∀ j, a ≠ .release j := by
  simp only [oneFrame, List.mem_cons, List.mem_replicate] at ha
  rcases ha with rfl | rfl | rfl | ⟨-, rfl⟩ <;> simp

/-- **The frame arrives**, in a buffer that the device has. -/
lemma exec_oneFrame (hi : i < L.count) (hposted : s.place i = .posted) (b : UInt8) :
    ∃ n t, exec (rxDmaStep L) s (oneFrame i n b) = some t ∧ t.place i = .held 13 ∧
      t.flat (L.frame i 0) = b := by
  set u := s.act (.device ((L.buffer i).toNat + virtioNetHdrSize) b) with hu
  have hdevice : rxDmaStep L s (.device i virtioNetHdrSize b) = some u := by
    simp only [rxDmaStep, hposted]
    exact if_pos ⟨hi, by decide⟩
  have hposted' : u.place i = .posted := hposted
  have hhdr : virtioNetHdrSize < (13 : UInt32).toNat := by decide
  obtain ⟨n, t, ht, hheld, -, hflat, -⟩ := exec_return hi hposted' hhdr (by decide)
  refine ⟨n, t, ?_, hheld, ?_⟩
  · rw [oneFrame, exec_cons, hdevice]
    exact ht
  · rw [hflat]
    exact Function.update_self _ _ _

/-- The buffer goes back after that, and the next frame arrives in it. -/
lemma exec_nextFrame {len : UInt32} (hi : i < L.count) (hheld : s.place i = .held len) (b : UInt8) :
    ∃ n t, exec (rxDmaStep L) s (.release i :: oneFrame i n b) = some t ∧ t.place i = .held 13 ∧
      t.flat (L.frame i 0) = b := by
  obtain ⟨n, t, ht, hplace, hflat⟩ := exec_oneFrame hi (s.place_move i .posted) b
  have hrelease : rxDmaStep L s (.release i) = some (s.move i .posted) := by
    simp only [rxDmaStep, hheld]
    exact if_pos hi
  refine ⟨n, t, ?_, hplace, hflat⟩
  rw [exec_cons, hrelease]
  exact ht

/-- The first frame, of the byte `7`, after `virtio_net_prepare_rx`. -/
lemma exec_firstFrame : ∃ m n s, exec (rxDmaStep oneBuffer) (rxDmaStart emptyCache)
    (List.replicate m (.driver 0) ++ oneFrame 0 n 7) = some s ∧ s.place 0 = .held 13 := by
  obtain ⟨m, u, hu, hposted⟩ :=
      exec_prepareRx (L := oneBuffer) (s := rxDmaStart emptyCache) (i := 0)
    (by decide) rfl
  obtain ⟨n, s, hs, hheld, -⟩ := exec_oneFrame (L := oneBuffer) (by decide) hposted 7
  refine ⟨m, n, s, ?_, hheld⟩
  rw [exec_append, hu]
  exact hs

/-- It rewrites no frame and gives no buffer back. -/
lemma of_mem_firstFrame {m n : ℕ} (ha : a ∈ List.replicate m (.driver 0) ++ oneFrame 0 n 7) :
    (∀ i k b, a ≠ .rewrite i k b) ∧ ∀ i, a ≠ .release i := by
  rcases List.mem_append.mp ha with ha | ha
  · rw [List.eq_of_mem_replicate ha]
    simp
  · exact of_mem_oneFrame ha

/-! ## Whole runs -/

/-- **What the two sides see of the buffers** is what they would see without a cache: the task
reads its frames so, and the memory holds the buffers that the device has. -/
structure RxCoherent (L : RxStorage) (s : RxDma) : Prop where
  frame : ∀ i len k, i < L.count → s.place i = .held len → k < rxPayloadLen len →
    s.cache.view cacheLine (L.frame i k) = s.flat (L.frame i k)
  memory : ∀ i o, i < L.count → s.place i = .posted ∨ (∃ len, s.place i = .used len) →
    o < virtioNetBufferSize →
    s.cache.mem ((L.buffer i).toNat + o) = s.flat ((L.buffer i).toNat + o)

/-- A line before anything has been done. -/
lemma Settled.line {c : Cached ℕ ℕ UInt8} (hc : Settled c) (l : ℕ) :
    LineCoherent cacheLine c (c.view cacheLine) .cpu l := by
  refine ⟨fun hd x hx => ?_, fun _ hinv x hx => ?_, fun _ => rfl⟩
  · show c.mem x = c.view cacheLine x
    unfold Cached.view
    split_ifs with hinv
    · rfl
    · refine (hc x ?_).symm
      have hd' : c.tag (cacheLine x) ≠ .dirty := hx ▸ hd
      cases htag : c.tag (cacheLine x) with
      | invalid => exact absurd htag hinv
      | clean => rfl
      | dirty => exact absurd htag hd'
  · exact (if_neg (hx ▸ hinv : c.tag (cacheLine x) ≠ .invalid)).symm

/-- The buffers before `virtio_net_prepare_rx`. -/
lemma rxOwned_start (L : RxStorage) (ow : Owner) {c : Cached ℕ ℕ UInt8} (hc : Settled c) :
    RxOwned L ow (rxDmaStart c) fun l => if L.Outside l then .anyone else .cpu := by
  refine ⟨fun l hl => ?_, fun i hi l hl => if_neg (hl.not_outside hi), fun l hl => if_pos hl⟩
  have hcpu : (if L.Outside l then Owner.anyone else .cpu) = .cpu := by
    split_ifs at hl ⊢
    · exact absurd rfl hl
    · rfl
  show LineCoherent _ _ _ (if L.Outside l then Owner.anyone else .cpu) _
  rw [hcpu]
  exact hc.line l

/-- The invariant says what the two sides see. -/
lemma RxOwned.rxCoherent (h : RxOwned L ow s own) (how : ow.CpuReads) : RxCoherent L s := by
  refine ⟨fun i len k hi hplace hk => ?_, fun i o hi hplace ho => ?_⟩
  · obtain ⟨-, hown⟩ := h.frame_owner hi hplace hk
    have hne : own (cacheLine (L.frame i k)) ≠ .anyone := by
      rw [hown]
      rcases how with rfl | rfl <;> simp
    exact (h.coherent _ hne).view (hown.symm ▸ how)
  · have hin := inBuffer_cacheLine (L.buffer_bounds hi).1 ho
    have hdev : own (cacheLine ((L.buffer i).toNat + o)) = .device := by
      have howns := h.owns i hi
      rcases hplace with hplace | ⟨len, hplace⟩
      · rw [hplace] at howns
        exact howns _ hin
      · rw [hplace] at howns
        exact howns.2 _ hin
    exact (h.coherent _ (by rw [hdev]; simp)).device_reads (by rw [hdev]; simp)

/-- **The invariant of frames that are only read** holds after every run that rewrites none.

**Proof sketch.** `RxOwned.step` along the run, with frames that belong to both. -/
lemma rxOwned_of_readOnly {c : Cached ℕ ℕ UInt8} {as : List RxDmaAction} (hc : Settled c)
    (hread : ∀ i k b, RxDmaAction.rewrite i k b ∉ as)
    (hexec : exec (rxDmaStep L) (rxDmaStart c) as = some s) : ∃ own, RxOwned L .shared s own := by
  have hmeet : StepsMeet (rxDmaStep L) (fun _ a => ∀ i k b, a ≠ .rewrite i k b) (rxDmaStart c) as :=
    stepsMeet_of_forall fun a ha _ i k b he => hread i k b (he ▸ ha)
  refine exec_invariant_of_stepsMeet (I := fun s => ∃ own, RxOwned L .shared s own) ?_
    ⟨_, rxOwned_start L .shared hc⟩ hmeet hexec
  rintro s a t ⟨own, h⟩ hclean hstep
  exact h.step (Or.inr rfl) (by simp) (fun _ => hclean) hstep

/-- An action that gives no buffer back. -/
lemma releasesClean_of_ne (ha : ∀ i, a ≠ .release i) : ReleasesClean L s a := by
  cases a with
  | release i => exact absurd rfl (ha i)
  | _ => trivial

/-- **The processor reads what the device wrote.** Let the cache fetch lines and write them back at
any time, and other code do whatever it does outside the buffers. On every run on which no buffer
goes back to the device with a dirty line, the task reads its frames as if there were no cache, and
nothing but the device changes the memory of a buffer that the device has.

**Proof sketch.** `RxOwned.step` along the run, with the processor as the owner of the frames. -/
theorem rxFrame_coherent {c : Cached ℕ ℕ UInt8} {as : List RxDmaAction} (hc : Settled c)
    (hmeet : StepsMeet (rxDmaStep L) (ReleasesClean L) (rxDmaStart c) as)
    (hexec : exec (rxDmaStep L) (rxDmaStart c) as = some s) : RxCoherent L s := by
  obtain ⟨own, h⟩ : ∃ own, RxOwned L .cpu s own := by
    refine exec_invariant_of_stepsMeet (I := fun s => ∃ own, RxOwned L .cpu s own) ?_
      ⟨_, rxOwned_start L .cpu hc⟩ hmeet hexec
    rintro s a t ⟨own, h⟩ hclean hstep
    exact h.step (Or.inl rfl) (fun _ => hclean) (by simp) hstep
  exact h.rxCoherent (Or.inl rfl)

/-- A line that is written back after it was rewritten is clean, as are the lines that are only
read. -/
lemma RxOwned.not_dirty_rewritten {len : UInt32} (h : RxOwned L .shared s own) (hi : i < L.count)
    (hplace : s.place i = .held len) (hl : InBuffer (L.buffer i).toNat l) (x : ℕ) (b : UInt8) :
    ((s.act (.store x b)).act (.evict (cacheLine x))).cache.tag l ≠ .dirty := by
  intro hd
  by_cases hlx : l = cacheLine x
  · subst hlx
    have hgone : ((s.act (.store x b)).act (.evict (cacheLine x))).cache.tag (cacheLine x) =
        .invalid :=
      Function.update_self _ _ _
    rw [hgone] at hd
    cases hd
  · have hstored := CacheOp.dirty_of_apply cacheLine (.evict (cacheLine x)) (by simp) hd
    refine h.not_dirty hi hplace hl (CacheOp.dirty_of_apply cacheLine (.store x b) ?_ hstored)
    rintro x' b' he rfl
    obtain ⟨rfl, -⟩ := CacheOp.store.inj he
    exact hlx rfl

/-- The task rewrites the first frame, and its line is written back before the buffer goes back; so
the task reads the second frame as the device wrote it. -/
theorem rxFrame_coherent_twoFrames : ∃ m n n' s,
    exec (rxDmaStep oneBuffer) (rxDmaStart emptyCache) (List.replicate m (.driver 0) ++
      oneFrame 0 n 7 ++
      .rewrite 0 0 8 :: .evict (cacheLine (oneBuffer.frame 0 0)) :: .release 0 :: oneFrame 0 n' 9) =
        some s ∧
      RxCoherent oneBuffer s ∧ s.place 0 = .held 13 ∧
      s.cache.view cacheLine (oneBuffer.frame 0 0) = 9 := by
  obtain ⟨m, n, s, hs, hheld⟩ := exec_firstFrame
  obtain ⟨own, h⟩ := rxOwned_of_readOnly settled_emptyCache
    (fun i k b hmem => (of_mem_firstFrame hmem).1 i k b rfl) hs
  set x := oneBuffer.frame 0 0 with hx
  set t := (s.act (.store x 8)).act (.evict (cacheLine x)) with ht
  have hrewrite : rxDmaStep oneBuffer s (.rewrite 0 0 8) = some (s.act (.store x 8)) := by
    simp only [rxDmaStep, hheld]
    exact if_pos (by decide)
  have hevict : rxDmaStep oneBuffer (s.act (.store x 8)) (.evict (cacheLine x)) = some t := rfl
  obtain ⟨n', u, hu, hheld', hflat⟩ :=
    exec_nextFrame (s := t) (L := oneBuffer) (i := 0) (by decide) hheld 9
  have hrun : exec (rxDmaStep oneBuffer) (rxDmaStart emptyCache) (List.replicate m (.driver 0) ++
      oneFrame 0 n 7 ++ .rewrite 0 0 8 :: .evict (cacheLine x) :: .release 0 :: oneFrame 0 n' 9) =
        some u := by
    rw [exec_append, hs, Option.bind_some, exec_cons, hrewrite, Option.bind_some, exec_cons, hevict]
    exact hu
  have hmeet : StepsMeet (rxDmaStep oneBuffer) (ReleasesClean oneBuffer) (rxDmaStart emptyCache)
      (List.replicate m (.driver 0) ++ oneFrame 0 n 7 ++
        .rewrite 0 0 8 :: .evict (cacheLine x) :: .release 0 :: oneFrame 0 n' 9) := by
    refine StepsMeet.trans (stepsMeet_of_forall fun a ha s => ?_) hs
      (stepsMeet_cons_of trivial fun s' hs' => stepsMeet_cons_of trivial fun t' ht' =>
        stepsMeet_cons_of ?_ fun _ _ => stepsMeet_of_forall fun a ha s => ?_)
    · exact releasesClean_of_ne (of_mem_firstFrame ha).2
    · obtain rfl := Option.some.inj (hrewrite.symm.trans hs')
      obtain rfl := Option.some.inj (hevict.symm.trans ht')
      have halign := (oneBuffer.buffer_bounds (i := 0) (by decide)).1
      exact fun l hl => h.not_dirty_rewritten (by decide) hheld
        (InBuffer.of_mem halign le_rfl hl) x 8
    · exact releasesClean_of_ne (of_mem_oneFrame ha).2
  have hco : RxCoherent oneBuffer u := rxFrame_coherent settled_emptyCache hmeet hrun
  exact ⟨m, n, n', u, hrun, hco, hheld',
    (hco.frame 0 13 0 (by decide) hheld' (by decide)).trans hflat⟩

/-- **Frames that are only read** need no condition: on every run on which the task rewrites no
frame, as with `virtio_net_poll_frame_dev`, which copies it, no line of a buffer is ever dirty
after `virtio_net_prepare_rx`, and the same holds.

**Proof sketch.** `rxOwned_of_readOnly` says what the lines look like. -/
theorem rxFrame_readOnly {c : Cached ℕ ℕ UInt8} {as : List RxDmaAction} (hc : Settled c)
    (hread : ∀ i k b, RxDmaAction.rewrite i k b ∉ as)
    (hexec : exec (rxDmaStep L) (rxDmaStart c) as = some s) : RxCoherent L s := by
  obtain ⟨own, h⟩ := rxOwned_of_readOnly hc hread hexec
  exact h.rxCoherent (Or.inr rfl)

/-- Two frames arrive in the buffer, one after the other. -/
theorem rxFrame_readOnly_twoFrames : ∃ m n n' s,
    exec (rxDmaStep oneBuffer) (rxDmaStart emptyCache) (List.replicate m (.driver 0) ++
      oneFrame 0 n 7 ++
      .release 0 :: oneFrame 0 n' 9) = some s ∧ RxCoherent oneBuffer s ∧ s.place 0 = .held 13 ∧
      s.cache.view cacheLine (oneBuffer.frame 0 0) = 9 := by
  obtain ⟨m, n, s, hs, hheld⟩ := exec_firstFrame
  obtain ⟨n', t, ht, hheld', hflat⟩ := exec_nextFrame (L := oneBuffer) (i := 0) (by decide) hheld 9
  have hrun : exec (rxDmaStep oneBuffer) (rxDmaStart emptyCache) (List.replicate m (.driver 0) ++
      oneFrame 0 n 7 ++ .release 0 :: oneFrame 0 n' 9) = some t := by
    rw [exec_append, hs]
    exact ht
  have hread : ∀ i k b, RxDmaAction.rewrite i k b ∉ List.replicate m (.driver 0) ++
    oneFrame 0 n 7 ++
      .release 0 :: oneFrame 0 n' 9 := by
    intro i k b hmem
    rcases List.mem_append.mp hmem with hmem | hmem
    · exact (of_mem_firstFrame hmem).1 i k b rfl
    · rcases List.mem_cons.mp hmem with hmem | hmem
      · cases hmem
      · exact (of_mem_oneFrame hmem).1 i k b rfl
  have hco : RxCoherent oneBuffer t := rxFrame_readOnly settled_emptyCache hread hrun
  exact ⟨m, n, n', t, hrun, hco, hheld', (hco.frame 0 13 0 (by decide) hheld' (by decide)).trans
    hflat⟩

/-! ## Rewritten frames -/

/-- **A rewritten byte can replace one of the next frame.** Let the task have a frame, in whatever
state, and rewrite one of its bytes in place. If it gives the buffer back, the device writes the
next frame into it, and the cache writes the rewritten line back after that, then the task reads
the byte that it wrote before instead of the one of the device, although it invalidates the frame
first.

**Proof sketch.** The line that is written back holds the rewritten byte, and invalidating it
brings back what the memory holds. -/
theorem rxFrame_overwritten {len len' : UInt32} (hi : i < L.count) (hplace : s.place i = .held len)
    (hk : k < rxPayloadLen len) (hk' : k < rxPayloadLen len')
    (hlen : len'.toNat ≤ virtioNetBufferSize)
    (b d : UInt8) :
    ∃ n t, exec (rxDmaStep L) s ([.rewrite i k b, .release i, .device i (virtioNetHdrSize + k) d,
        .evict (cacheLine (L.frame i k)), .complete i len', .peek i] ++
          List.replicate n (.driver i)) = some t ∧
      t.place i = .held len' ∧ t.flat (L.frame i k) = d ∧
      t.cache.view cacheLine (L.frame i k) = b := by
  obtain ⟨hhdr, hlt⟩ := frame_bounds hk'
  have hframe : (L.buffer i).toNat + (virtioNetHdrSize + k) = L.frame i k :=
    (Nat.add_assoc _ _ _).symm
  set x := L.frame i k with hx
  set s₁ := (s.act (.store x b)).move i .posted with hs₁
  set s₂ := (s₁.act (.device x d)).act (.evict (cacheLine x)) with hs₂
  have hposted : s₁.place i = .posted := RxDma.place_move _ i _
  have hposted' : s₂.place i = .posted := hposted
  obtain ⟨n, t, ht, hheld, hmem, hflat, htag⟩ := exec_return hi hposted' hhdr hlen
  -- the line is dirty when the device writes, and is written back after that
  have hdirty : (s₁.act (.device x d)).cache.tag (cacheLine x) = .dirty :=
    Function.update_self _ _ _
  have hback : s₂.cache.mem x = b := by
    show (((s₁.act (.device x d)).cache.clean cacheLine (cacheLine x)).invalidate (cacheLine x)).mem
      x = b
    unfold Cached.clean
    rw [if_pos hdirty]
    exact (onLine_self rfl).trans (Function.update_self _ _ _)
  have hgone : s₂.cache.tag (cacheLine x) = .invalid := Function.update_self _ _ _
  refine ⟨n, t, ?_, hheld, ?_, ?_⟩
  · have h₁ : rxDmaStep L s (.rewrite i k b) = some (s.act (.store x b)) := by
      simp only [rxDmaStep, hplace]
      rw [if_pos ⟨hi, hk⟩]
    have h₂ : rxDmaStep L (s.act (.store x b)) (.release i) = some s₁ := by
      have hplace' : (s.act (.store x b)).place i = .held len := hplace
      simp only [rxDmaStep, hplace']
      rw [if_pos hi]
    have h₃ : rxDmaStep L s₁ (.device i (virtioNetHdrSize + k) d) =
        some (s₁.act (.device x d)) := by
      have hlt' : virtioNetHdrSize + k < virtioNetBufferSize := by omega
      simp only [rxDmaStep, hposted]
      rw [if_pos ⟨hi, hlt'⟩, hframe]
    have h₄ : rxDmaStep L (s₁.act (.device x d)) (.evict (cacheLine x)) = some s₂ := rfl
    rw [List.cons_append, exec_cons, h₁, Option.bind_some, List.cons_append, exec_cons, h₂,
      Option.bind_some, List.cons_append, exec_cons, h₃, Option.bind_some, List.cons_append,
      exec_cons, h₄]
    exact ht
  · rw [hflat]
    show Function.update s₁.flat x d x = d
    exact Function.update_self _ _ _
  · unfold Cached.view
    rw [if_pos (htag _ hgone), hmem]
    exact hback

/-- The task rewrites the frame, and reads its own byte instead of that of the next frame. -/
theorem rxFrame_overwritten_oneFrame : ∃ as t,
    exec (rxDmaStep oneBuffer) (rxDmaStart emptyCache) as = some t ∧ t.place 0 = .held 13 ∧
      t.flat (oneBuffer.frame 0 0) = 2 ∧ t.cache.view cacheLine (oneBuffer.frame 0 0) = 1 := by
  obtain ⟨m, n, s, hs, hheld⟩ := exec_firstFrame
  have hk : 0 < rxPayloadLen 13 := by decide
  obtain ⟨n', t, ht, hrest⟩ := rxFrame_overwritten (L := oneBuffer) (by decide) hheld hk hk
    (by decide) 1 2
  have hrun : exec (rxDmaStep oneBuffer) (rxDmaStart emptyCache) (List.replicate m (.driver 0) ++
      oneFrame 0 n 7 ++ ([.rewrite 0 0 1, .release 0, .device 0 (virtioNetHdrSize + 0) 2,
        .evict (cacheLine (oneBuffer.frame 0 0)), .complete 0 13, .peek 0] ++
          List.replicate n' (.driver 0))) = some t := by
    rw [exec_append, hs, Option.bind_some]
    exact ht
  exact ⟨_, t, hrun, hrest⟩

end

end Driver
