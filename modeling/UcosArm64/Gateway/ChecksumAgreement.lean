import Mathlib.Tactic.IntervalCases
import UcosArm64.Gateway.RoundTrip

set_option relaxedAutoImplicit false
set_option autoImplicit false

/-!
# The two checksum routines agree

`checksum16` sums pairs of bytes as big-endian words, and its result is swapped before it is
stored. `tcp_udp_checksum` sums 16-bit loads, which are little-endian, with the two words of the
pseudo-header that it has as numbers swapped, and its result is stored as it is. Both store the
same bytes.

## Main definitions

* `Gateway.addExact`, `Gateway.sumBytesExact`, `Gateway.sumPseudoExact`, `Gateway.sumWordsExact` —
  the summation loops on an accumulator that must not overflow.
* `Gateway.FoldsTo` — the folding loop, with no bound on its passes.
* `Gateway.Checksum16Returns`, `Gateway.TcpUdpChecksumReturns` — the two routines in these terms.
* `Gateway.pseudoHeader`, `Gateway.HoldsSegment` — the pseudo-header, and a packet in memory.

## Main results

* `Gateway.checksum16Returns`, `Gateway.tcpUdpChecksumReturns` — the routines return what the model
  computes, without an overflow.
* `Gateway.checksums_agree` — the two routines store the same bytes, for every packet.
-/

namespace Gateway

open OnesComplement

/-! ## Additions that do not overflow -/

/-- `sum += value` in an accumulator of 32 bits that has room for the sum. -/
def addExact (sum value : UInt32) : Option UInt32 :=
  if sum.toNat + value.toNat < 4294967296 then some (sum + value) else none

/-- An addition that does not overflow. -/
lemma addExact_of_lt {sum value : UInt32} (h : sum.toNat + value.toNat < 4294967296) :
    addExact sum value = some (sum + value) := if_pos h

/-- The `while (length > 1u)` loop of `checksum16` and the odd byte after it. -/
def sumBytesExact (f : Frame) : ℕ → ℕ → UInt32 → Option UInt32
  | _, 0, sum => some sum
  | o, 1, sum => addExact sum ((f o).toUInt32 <<< 8)
  | o, length + 2, sum =>
    (addExact sum (((f o).toUInt32 <<< 8) ||| (f (o + 1)).toUInt32)).bind
      (sumBytesExact f (o + 2) length)

/-- The words of the pseudo-header, in the order in which `tcp_udp_checksum` adds them. -/
def pseudoWords (f : Frame) (transportLen : ℕ) : List UInt16 := [
  rd16 f 26,
  rd16 f 28,
  rd16 f 30,
  rd16 f 32,
  utilHtons (ipProtocol f).toUInt16,
  utilHtons (UInt16.ofNat transportLen)]

/-- The pseudo-header part of `tcp_udp_checksum`. -/
def sumPseudoExact (f : Frame) (transportLen : ℕ) : Option UInt32 :=
  (pseudoWords f transportLen).foldlM (fun sum word => addExact sum word.toUInt32) 0

/-- The loop over the transport header and data in `tcp_udp_checksum`. -/
def sumWordsExact (f : Frame) : ℕ → ℕ → UInt32 → Option UInt32
  | _, 0, sum => some sum
  | o, 1, sum => addExact sum (utilHtons ((f o).toUInt16 <<< 8)).toUInt32
  | o, length + 2, sum =>
    (addExact sum (rd16 f o).toUInt32).bind (sumWordsExact f (o + 2) length)

/-- `while (sum >> 16) sum = (sum & 0xFFFF) + (sum >> 16);` ends with `result`. -/
inductive FoldsTo : UInt32 → UInt32 → Prop
  | done {sum : UInt32} (h : sum >>> 16 = 0) : FoldsTo sum sum
  | pass {sum next result : UInt32} (h : sum >>> 16 ≠ 0)
      (hadd : addExact (sum &&& 0xFFFF) (sum >>> 16) = some next) (hrest : FoldsTo next result) :
      FoldsTo sum result

/-- `checksum16` of the `length` bytes at `o` ends and returns `result`, and no addition
overflows. -/
def Checksum16Returns (f : Frame) (o length : ℕ) (result : UInt16) : Prop :=
  ∃ sum folded, sumBytesExact f o length 0 = some sum ∧ FoldsTo sum folded ∧
    result = (~~~folded).toUInt16

/-- The same for `tcp_udp_checksum`. -/
def TcpUdpChecksumReturns (f : Frame) (o transportLen : ℕ) (result : UInt16) : Prop :=
  ∃ sum folded, (sumPseudoExact f transportLen).bind (sumWordsExact f o transportLen) = some sum ∧
    FoldsTo sum folded ∧ result = (~~~folded).toUInt16

/-! ### The loops -/

/-- The loop of `checksum16`, if its accumulator has room for the sum. -/
lemma sumBytesExact_eq (f : Frame) (o n : ℕ) (sum : UInt32)
    (h : sum.toNat + sumBE (byteVal f) o n < 4294967296) :
    sumBytesExact f o n sum = some (sumBytes f o n sum) := by
  induction o, n, sum using sumBytes.induct f with
  | case1 o sum => rfl
  | case2 o sum =>
    rw [sumBE] at h
    exact addExact_of_lt (by rw [toNat_high_byte]; exact h)
  | case3 o n sum ih =>
    rw [sumBE] at h
    have hword := toNat_byte_pair f o
    have hstep : (sum + (((f o).toUInt32 <<< 8) ||| (f (o + 1)).toUInt32)).toNat =
        sum.toNat + (256 * byteVal f o + byteVal f (o + 1)) := by
      rw [UInt32.toNat_add, hword]
      omega
    rw [sumBytesExact, addExact_of_lt (by rw [hword]; omega), Option.bind_some,
      ih (by rw [hstep]; omega), sumBytes]

/-- The loop of `tcp_udp_checksum`, if its accumulator has room for the sum. -/
lemma sumWordsExact_eq (f : Frame) (o n : ℕ) (sum : UInt32)
    (h : sum.toNat + sumLE (byteVal f) o n < 4294967296) :
    sumWordsExact f o n sum = some (sumWords f o n sum) := by
  induction o, n, sum using sumWords.induct f with
  | case1 o sum => rfl
  | case2 o sum =>
    rw [sumLE] at h
    exact addExact_of_lt (by rw [toNat_odd_byte]; exact h)
  | case3 o n sum ih =>
    rw [sumLE_eq_rd16] at h
    have hroom : sum.toNat + (rd16 f o).toUInt32.toNat < 4294967296 := by
      rw [UInt16.toNat_toUInt32]
      omega
    have hstep : (sum + (rd16 f o).toUInt32).toNat = sum.toNat + (rd16 f o).toNat := by
      rw [UInt32.toNat_add, UInt16.toNat_toUInt32]
      omega
    rw [sumWordsExact, addExact_of_lt hroom, Option.bind_some, ih (by rw [hstep]; omega), sumWords]

/-- Adding words to an accumulator that has room for that many. -/
lemma foldlM_addExact (l : List UInt16) (sum : UInt32)
    (h : sum.toNat + 65535 * l.length < 4294967296) :
    l.foldlM (fun sum word => addExact sum word.toUInt32) sum =
        some (l.foldl (fun sum word => sum + word.toUInt32) sum) ∧
      (l.foldl (fun sum word => sum + word.toUInt32) sum).toNat ≤ sum.toNat + 65535 * l.length := by
  induction l generalizing sum with
  | nil => exact ⟨rfl, by simp⟩
  | cons word l ih =>
    rw [List.length_cons] at h ⊢
    have hword : word.toNat < 65536 := UInt16.toNat_lt _
    have hroom : sum.toNat + word.toUInt32.toNat < 4294967296 := by
      rw [UInt16.toNat_toUInt32]
      omega
    have hstep : (sum + word.toUInt32).toNat = sum.toNat + word.toNat := by
      rw [UInt32.toNat_add, UInt16.toNat_toUInt32]
      omega
    obtain ⟨hsome, hle⟩ := ih (sum + word.toUInt32) (by rw [hstep]; omega)
    rw [hstep] at hle
    refine ⟨?_, by rw [List.foldl_cons]; omega⟩
    rw [List.foldlM_cons, addExact_of_lt hroom]
    exact hsome

/-- The pseudo-header has six words. -/
lemma sumPseudoExact_eq (f : Frame) (n : ℕ) :
    sumPseudoExact f n = some (sumPseudo f n) ∧ (sumPseudo f n).toNat ≤ 393210 := by
  have hsum : (pseudoWords f n).foldl (fun sum word => sum + word.toUInt32) 0 = sumPseudo f n := by
    simp [pseudoWords, sumPseudo]
  have hlength : (pseudoWords f n).length = 6 := rfl
  obtain ⟨hexact, hle⟩ := foldlM_addExact (pseudoWords f n) 0 (by rw [hlength]; decide)
  rw [hsum] at hexact hle
  rw [hlength, UInt32.toNat_zero] at hle
  exact ⟨hexact, hle⟩

/-- The bounded loop is a run of the loop, once its bound is large enough for the sum. -/
lemma foldsTo_foldLoop (k : ℕ) (sum : UInt32) (h : foldLoop k sum >>> 16 = 0) :
    FoldsTo sum (foldLoop k sum) := by
  induction k generalizing sum with
  | zero => exact .done h
  | succ k ih =>
    rw [foldLoop] at h ⊢
    by_cases hpass : sum >>> 16 ≠ 0
    · rw [if_pos hpass] at h ⊢
      refine .pass hpass (addExact_of_lt ?_) (ih _ h)
      -- both halves of the accumulator are 16-bit numbers
      have hlow : (sum &&& 0xFFFF).toNat ≤ 65535 := by
        rw [UInt32.toNat_and]
        exact Nat.and_le_right
      have hhigh : (sum >>> 16).toNat ≤ 65535 := by
        have hsum : sum.toNat < 4294967296 := UInt32.toNat_lt _
        rw [UInt32.toNat_shiftRight]
        show sum.toNat >>> 16 ≤ 65535
        rw [Nat.shiftRight_eq_div_pow]
        omega
      omega
    · rw [if_neg hpass] at h ⊢
      exact .done h

/-- **`checksum16` returns what the model computes**, on at most 131072 bytes. -/
theorem checksum16Returns (f : Frame) (o n : ℕ) (hn : n ≤ 131072) :
    Checksum16Returns f o n (checksum16 f o n) := by
  have hle := sumBE_le (byteVal_le f) o n
  refine ⟨_, _, sumBytesExact_eq f o n 0 ?_, foldsTo_foldLoop 2 _ (foldLoop_two_shift _), rfl⟩
  rw [UInt32.toNat_zero]
  omega

/-- **`tcp_udp_checksum` returns what the model computes**, on at most 131000 bytes. -/
theorem tcpUdpChecksumReturns (f : Frame) (o n : ℕ) (hn : n ≤ 131000) :
    TcpUdpChecksumReturns f o n (tcpUdpChecksum f o n) := by
  have hle := sumLE_le (byteVal_le f) o n
  obtain ⟨hpseudo, hsmall⟩ := sumPseudoExact_eq f n
  refine ⟨_, _, ?_, foldsTo_foldLoop 2 _ (foldLoop_two_shift _), rfl⟩
  rw [hpseudo, Option.bind_some, sumWordsExact_eq f o n _ (by omega)]

/-! ## A packet in memory -/

/-- The pseudo-header: the addresses, a zero byte, the protocol and the length of the segment. -/
def pseudoHeader (src dst : Ip4) (protocol : UInt8) (length : ℕ) : List UInt8 :=
  [src.a, src.b, src.c, src.d, dst.a, dst.b, dst.c, dst.d, 0, protocol, UInt8.ofNat (length / 256),
    UInt8.ofNat length]

/-- The IPv4 header of the frame has the two addresses and the protocol, and the segment lies at the
offset `o`. -/
structure HoldsSegment (f : Frame) (o : ℕ) (src dst : Ip4) (protocol : UInt8)
    (segment : List UInt8) :
    Prop where
  src : ipSrc f = src
  dst : ipDst f = dst
  protocol : ipProtocol f = protocol
  segment : ∀ k (h : k < segment.length), f (o + k) = segment[k]

section Agreement

variable {f : Frame} {o : ℕ} {src dst : Ip4} {protocol : UInt8} {segment : List UInt8}

/-- **The sum of the byte string** of pseudo-header and segment, in terms of the packet in
memory. -/
lemma HoldsSegment.sumBE_frameOf (h : HoldsSegment f o src dst protocol segment)
    (hlen : segment.length ≤ 65535) :
    sumBE (byteVal (frameOf (pseudoHeader src dst protocol segment.length ++ segment))) 0
        (12 + segment.length) =
      sumBE (byteVal f) 26 8 + (ipProtocol f).toNat + segment.length +
        sumBE (byteVal f) o segment.length := by
  obtain ⟨rfl, rfl, rfl, hsegment⟩ := h
  set n := segment.length with hn
  set g := frameOf (pseudoHeader (ipSrc f) (ipDst f) (ipProtocol f) n ++ segment) with hg
  have haddr : sumBE (byteVal g) 0 8 = sumBE (byteVal f) 26 8 := by
    apply sumBE_shift
    intro k hk
    interval_cases k <;> rfl
  have hrest : sumBE (byteVal g) 12 n = sumBE (byteVal f) o n := by
    apply sumBE_shift
    intro k hk
    have hbyte : g (12 + k) = segment[k] := by
      have hin : k < segment.length := hk
      rw [hg, frameOf, List.getD_eq_getElem?_getD, List.getElem?_append_right
        (by simp [pseudoHeader])]
      simp [pseudoHeader, hin]
    rw [byteVal, byteVal, hbyte, hsegment k hk]
  have hlength : 256 * byteVal g 10 + byteVal g 11 = n := by
    have h₁₀ : byteVal g 10 = n / 256 % 256 := UInt8.toNat_ofNat'
    have h₁₁ : byteVal g 11 = n % 256 := UInt8.toNat_ofNat'
    omega
  have hprotocol : 256 * byteVal g 8 + byteVal g 9 = (ipProtocol f).toNat := by
    have h₈ : byteVal g 8 = 0 := rfl
    have h₉ : byteVal g 9 = (ipProtocol f).toNat := rfl
    omega
  have hsplit : sumBE (byteVal g) 0 (12 + n) =
      sumBE (byteVal g) 0 8 + sumBE (byteVal g) 8 (n + 2 + 2) := by
    rw [show 12 + n = 2 * 4 + (n + 2 + 2) by omega]
    exact sumBE_append (byteVal g) 0 4 (n + 2 + 2)
  have htail : sumBE (byteVal g) 8 (n + 2 + 2) = 256 * byteVal g 8 + byteVal g 9 +
      (256 * byteVal g 10 + byteVal g 11 + sumBE (byteVal g) 12 n) := rfl
  rw [hsplit, htail, haddr, hrest, hprotocol, hlength]
  omega

/-- The values of the two routines. -/
lemma HoldsSegment.tcpUdpChecksum_eq (h : HoldsSegment f o src dst protocol segment)
    (hlen : segment.length ≤ 65535) :
    tcpUdpChecksum f o segment.length =
      utilHtons (checksum16 (frameOf (pseudoHeader src dst protocol segment.length ++ segment)) 0
        (12 + segment.length)) := by
  have hsum := h.sumBE_frameOf hlen
  set g := frameOf (pseudoHeader src dst protocol segment.length ++ segment) with hg
  have hle := sumBE_le (byteVal_le g) 0 (12 + segment.length)
  obtain ⟨hmod, hzero⟩ := sumTransport_swap f o segment.length
  rw [← hsum] at hmod hzero
  apply UInt16.toNat_inj.mp
  calc (tcpUdpChecksum f o segment.length).toNat
      = 65535 - fold (sumTransport f o segment.length) :=
        toNat_tcpUdpChecksum f o segment.length (by omega)
    _ = 65535 - swap (fold (sumBE (byteVal g) 0 (12 + segment.length))) := by
        rw [fold_swap hmod hzero]
    _ = swap (65535 - fold (sumBE (byteVal g) 0 (12 + segment.length))) :=
        (swap_complement (fold_le _)).symm
    _ = swap (checksum16 g 0 (12 + segment.length)).toNat := by
        rw [toNat_checksum16_of_lt g 0 _ (by omega)]
    _ = (utilHtons (checksum16 g 0 (12 + segment.length))).toNat := (toNat_utilHtons _).symm

end Agreement

/-- **The two checksum routines agree.** For all addresses, every protocol and every segment of up
to 65535 bytes: `tcp_udp_checksum` returns the byte swap of what `checksum16` returns for the
pseudo-header followed by the segment. Both routines end, and no addition in either overflows.

**Proof sketch.** The little-endian sum is 256 times the big-endian one modulo 65535, and one is
zero exactly when the other is; so the folded sums are byte swaps of each other, and so are their
complements. At most 32774 words are added, and a folding pass adds two 16-bit numbers. -/
theorem checksums_agree (src dst : Ip4) (protocol : UInt8) (segment : List UInt8)
    (hlen : segment.length ≤ 65535) (f : Frame) (o : ℕ)
    (hf : HoldsSegment f o src dst protocol segment) :
    let bytes := pseudoHeader src dst protocol segment.length ++ segment
    tcpUdpChecksum f o segment.length = utilHtons (checksum16 (frameOf bytes) 0 bytes.length) ∧
      TcpUdpChecksumReturns f o segment.length (tcpUdpChecksum f o segment.length) ∧
      Checksum16Returns (frameOf bytes) 0 bytes.length
        (checksum16 (frameOf bytes) 0 bytes.length) := by
  intro bytes
  have hbytes : bytes.length = 12 + segment.length := List.length_append
  rw [hbytes]
  exact ⟨hf.tcpUdpChecksum_eq hlen, tcpUdpChecksumReturns f o _ (by omega),
    checksum16Returns _ 0 _ (by omega)⟩

/-- A UDP segment of nine bytes, from port 1000 to port 53. -/
def oddSegment : List UInt8 := [3, 232, 0, 53, 0, 9, 0, 0, 65]

/-- The packet with this segment from 192.168.1.10 to 8.8.8.8. -/
def oddPacket : Frame := frameOf ([
  0x52, 0x54, 0, 0, 0, 1, 2, 0, 0, 0, 0, 16, 8, 0,
  0x45, 0, 0, 29, 0, 0, 0, 0, 64, 17, 0, 0, 192, 168, 1, 10, 8, 8, 8, 8] ++ oddSegment)

/-- The two routines on this packet, which has an odd byte. -/
theorem checksums_agree_odd :
    tcpUdpChecksum oddPacket 34 9 = utilHtons (checksum16
      (frameOf (pseudoHeader ⟨192, 168, 1, 10⟩ ⟨8, 8, 8, 8⟩ 17 9 ++ oddSegment)) 0 21) :=
  (checksums_agree ⟨192, 168, 1, 10⟩ ⟨8, 8, 8, 8⟩ 17 oddSegment (by decide) oddPacket 34
    ⟨by decide, by decide, by decide, by decide⟩).1

end Gateway
