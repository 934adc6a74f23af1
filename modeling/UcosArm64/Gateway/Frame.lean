import Mathlib.Data.UInt
import UcosArm64.Foundations.OnesComplement
import UcosArm64.Gateway.NatTable

set_option relaxedAutoImplicit false
set_option autoImplicit false

/-!
# Frames, header fields and checksums

The memory that a frame pointer points to, and the packed header structures of `src/net_demo.c`
laid over it: an Ethernet header, an IPv4 header of `4 * ihl` bytes and a transport header. A frame
is a function from byte offsets, so that a read beyond the received length returns what the
buffer holds there, as it does in C.

## Main definitions

* `Gateway.rd16`, `Gateway.wr16` — little-endian accesses, as the processor makes them.
* `Gateway.ethType`, `Gateway.ipSrc`, `Gateway.l4`, … — the header fields.
* `Gateway.checksum16`, `Gateway.tcpUdpChecksum` — the two checksum functions.
* `Gateway.IpChecksumOk`, `Gateway.IcmpChecksumOk`, `Gateway.TransportChecksumOk` — the tests that
  a receiver makes.

## Main results

* `Gateway.toNat_checksum16`, `Gateway.toNat_tcpUdpChecksum` — both functions return the
  complement of the folded sum, and their loops end.
-/

namespace Gateway

open OnesComplement

/-! ## Memory -/

/-- The bytes from a frame pointer on. -/
abbrev Frame := ℕ → UInt8

/-- A 16-bit load. -/
def rd16 (f : Frame) (o : ℕ) : UInt16 := ((f (o + 1)).toUInt16 <<< 8) ||| (f o).toUInt16

/-- A byte store. -/
def wr8 (f : Frame) (o : ℕ) (v : UInt8) : Frame := Function.update f o v

/-- A 16-bit store. -/
def wr16 (f : Frame) (o : ℕ) (v : UInt16) : Frame :=
  wr8 (wr8 f o v.toUInt8) (o + 1) (v >>> 8).toUInt8

/-- `uint8_t[4]` at an offset. -/
def rdIp (f : Frame) (o : ℕ) : Ip4 := ⟨f o, f (o + 1), f (o + 2), f (o + 3)⟩

/-- `util_memcpy` of an IPv4 address into the frame. -/
def wrIp (f : Frame) (o : ℕ) (ip : Ip4) : Frame :=
  wr8 (wr8 (wr8 (wr8 f o ip.a) (o + 1) ip.b) (o + 2) ip.c) (o + 3) ip.d

/-- `uint8_t[6]` at an offset. -/
def rdMac (f : Frame) (o : ℕ) : Mac := ⟨f o, f (o + 1), f (o + 2), f (o + 3), f (o + 4), f (o + 5)⟩

/-- `util_memcpy` of an Ethernet address into the frame. -/
def wrMac (f : Frame) (o : ℕ) (mac : Mac) : Frame :=
  wr8 (wr8 (wr8 (wr8 (wr8 (wr8 f o mac.b0) (o + 1) mac.b1) (o + 2) mac.b2) (o + 3) mac.b3) (o + 4)
    mac.b4) (o + 5) mac.b5

/-- `util_htons` -/
def utilHtons (value : UInt16) : UInt16 := (value <<< 8) ||| (value >>> 8)

/-- `util_ntohs` -/
def utilNtohs (value : UInt16) : UInt16 := utilHtons value

/-! ### Loads and stores -/

/-- The byte that is written. -/
@[simp] lemma wr8_self (f : Frame) (o : ℕ) (v : UInt8) : wr8 f o v o = v :=
  Function.update_self _ _ _

/-- The other bytes. -/
lemma wr8_of_ne (f : Frame) {o k : ℕ} (v : UInt8) (h : k ≠ o) : wr8 f o v k = f k :=
  Function.update_of_ne h _ _

/-- The bytes beside a written word. -/
lemma wr16_of_ne (f : Frame) {o k : ℕ} (v : UInt16) (h : k ≠ o) (h' : k ≠ o + 1) :
    wr16 f o v k = f k := by
  rw [wr16, wr8_of_ne _ _ h', wr8_of_ne _ _ h]

/-- The first byte of a written word. -/
@[simp] lemma wr16_self (f : Frame) (o : ℕ) (v : UInt16) : wr16 f o v o = v.toUInt8 := by
  rw [wr16, wr8_of_ne _ _ (by omega), wr8_self]

/-- The second byte of a written word. -/
@[simp] lemma wr16_succ (f : Frame) (o : ℕ) (v : UInt16) :
    wr16 f o v (o + 1) = (v >>> 8).toUInt8 := wr8_self _ _ _

/-- The bytes beside a written address. -/
lemma wrIp_of_ne (f : Frame) {o k : ℕ} (ip : Ip4) (h : k < o ∨ o + 4 ≤ k) :
    wrIp f o ip k = f k := by
  rw [wrIp, wr8_of_ne _ _ (by omega), wr8_of_ne _ _ (by omega), wr8_of_ne _ _ (by omega),
    wr8_of_ne _ _ (by omega)]

/-- An address that has been written is read back. -/
@[simp] lemma rdIp_wrIp (f : Frame) (o : ℕ) (ip : Ip4) : rdIp (wrIp f o ip) o = ip := by
  cases ip
  simp [rdIp, wrIp, wr8]

/-- The bytes beside a written MAC address. -/
lemma wrMac_of_ne (f : Frame) {o k : ℕ} (mac : Mac) (h : k < o ∨ o + 6 ≤ k) :
    wrMac f o mac k = f k := by
  rw [wrMac, wr8_of_ne _ _ (by omega), wr8_of_ne _ _ (by omega), wr8_of_ne _ _ (by omega),
    wr8_of_ne _ _ (by omega), wr8_of_ne _ _ (by omega), wr8_of_ne _ _ (by omega)]

/-- A MAC address that has been written is read back. -/
@[simp] lemma rdMac_wrMac (f : Frame) (o : ℕ) (mac : Mac) : rdMac (wrMac f o mac) o = mac := by
  cases mac
  simp [rdMac, wrMac, wr8]

/-- Loads depend on the bytes they read. -/
lemma rd16_congr {f g : Frame} {o : ℕ} (h : f o = g o) (h' : f (o + 1) = g (o + 1)) :
    rd16 f o = rd16 g o := by
  rw [rd16, rd16, h, h']

/-- An address depends on its bytes only. -/
lemma rdIp_congr {f g : Frame} {o : ℕ} (h : ∀ k, o ≤ k → k < o + 4 → f k = g k) :
    rdIp f o = rdIp g o := by
  rw [rdIp, rdIp, h o le_rfl (by omega), h (o + 1) (by omega) (by omega),
    h (o + 2) (by omega) (by omega), h (o + 3) (by omega) (by omega)]

/-- A MAC address depends on its bytes only. -/
lemma rdMac_congr {f g : Frame} {o : ℕ} (h : ∀ k, o ≤ k → k < o + 6 → f k = g k) :
    rdMac f o = rdMac g o := by
  rw [rdMac, rdMac, h o le_rfl (by omega), h (o + 1) (by omega) (by omega),
    h (o + 2) (by omega) (by omega), h (o + 3) (by omega) (by omega),
    h (o + 4) (by omega) (by omega), h (o + 5) (by omega) (by omega)]

/-- A load as a number. -/
lemma toNat_rd16 (f : Frame) (o : ℕ) :
    (rd16 f o).toNat = (f o).toNat + 256 * (f (o + 1)).toNat := by
  have hlo : (f o).toNat < 256 := UInt8.toNat_lt _
  have hhi : (f (o + 1)).toNat < 256 := UInt8.toNat_lt _
  have hor : (f (o + 1)).toNat * 256 ||| (f o).toNat = (f (o + 1)).toNat * 256 + (f o).toNat := by
    have := Nat.two_pow_add_eq_or_of_lt (i := 8) hlo (f (o + 1)).toNat
    rw [show 2 ^ 8 * (f (o + 1)).toNat = (f (o + 1)).toNat * 256 by omega] at this
    exact this.symm
  rw [rd16, UInt16.toNat_or, UInt16.toNat_shiftLeft, UInt8.toNat_toUInt16, UInt8.toNat_toUInt16]
  have hshift : (f (o + 1)).toNat <<< ((8 : UInt16).toNat % 16) % 2 ^ 16 =
      (f (o + 1)).toNat * 256 := by
    show (f (o + 1)).toNat <<< 8 % 65536 = _
    rw [Nat.shiftLeft_eq]
    omega
  rw [hshift, hor]
  omega

/-- A byte swap as a number. -/
lemma toNat_utilHtons (v : UInt16) :
    (utilHtons v).toNat = v.toNat % 256 * 256 + v.toNat / 256 := by
  have hv : v.toNat < 65536 := UInt16.toNat_lt _
  have hlt : v.toNat / 256 < 256 := by omega
  have hor : v.toNat % 256 * 256 ||| v.toNat / 256 = v.toNat % 256 * 256 + v.toNat / 256 := by
    have := Nat.two_pow_add_eq_or_of_lt (i := 8) hlt (v.toNat % 256)
    rw [show 2 ^ 8 * (v.toNat % 256) = v.toNat % 256 * 256 by omega] at this
    exact this.symm
  rw [utilHtons, UInt16.toNat_or, UInt16.toNat_shiftLeft, UInt16.toNat_shiftRight]
  have hleft : v.toNat <<< ((8 : UInt16).toNat % 16) % 2 ^ 16 = v.toNat % 256 * 256 := by
    show v.toNat <<< 8 % 65536 = _
    rw [Nat.shiftLeft_eq]
    omega
  have hright : v.toNat >>> ((8 : UInt16).toNat % 16) = v.toNat / 256 := by
    show v.toNat >>> 8 = _
    rw [Nat.shiftRight_eq_div_pow]
  rw [hleft, hright, hor]

/-- Swapping twice. -/
@[simp] lemma utilHtons_utilHtons (v : UInt16) : utilHtons (utilHtons v) = v := by
  apply UInt16.toNat_inj.mp
  have hv : v.toNat < 65536 := UInt16.toNat_lt _
  rw [toNat_utilHtons, toNat_utilHtons]
  omega

/-- `util_ntohs` undoes `util_htons`. -/
@[simp] lemma utilNtohs_utilHtons (v : UInt16) : utilNtohs (utilHtons v) = v :=
  utilHtons_utilHtons v

/-- The two bytes of a word. -/
lemma toNat_lo (v : UInt16) : v.toUInt8.toNat = v.toNat % 256 := UInt16.toNat_toUInt8 v

/-- The high byte of a word, as a number. -/
lemma toNat_hi (v : UInt16) : (v >>> 8).toUInt8.toNat = v.toNat / 256 := by
  have hv : v.toNat < 65536 := UInt16.toNat_lt _
  rw [UInt16.toNat_toUInt8, UInt16.toNat_shiftRight]
  show v.toNat >>> 8 % 256 = _
  rw [Nat.shiftRight_eq_div_pow]
  omega

/-- What was stored is loaded. -/
@[simp] lemma rd16_wr16 (f : Frame) (o : ℕ) (v : UInt16) : rd16 (wr16 f o v) o = v := by
  apply UInt16.toNat_inj.mp
  have hv : v.toNat < 65536 := UInt16.toNat_lt _
  rw [toNat_rd16, wr16_self, wr16_succ, toNat_lo, toNat_hi]
  omega

/-! ## Header fields -/

/-- `util_ntohs(eth->type)` -/
def ethType (f : Frame) : UInt16 := utilNtohs (rd16 f 12)

/-- `eth->src` -/
def ethSrc (f : Frame) : Mac := rdMac f 6

/-- `eth->dest` -/
def ethDest (f : Frame) : Mac := rdMac f 0

/-- `ip->version_ihl >> 4u` -/
def ipVersion (f : Frame) : UInt8 := f 14 >>> 4

/-- `ip->version_ihl & 0x0Fu` -/
def ipIhl (f : Frame) : UInt8 := f 14 &&& 0x0F

/-- `(ip->version_ihl & 0x0Fu) * 4u` -/
def ipHeaderLen (f : Frame) : ℕ := (ipIhl f).toNat * 4

/-- `util_ntohs(ip->total_length)` -/
def ipTotalLength (f : Frame) : ℕ := (utilNtohs (rd16 f 16)).toNat

/-- `ip->ttl` -/
def ipTtl (f : Frame) : UInt8 := f 22

/-- `ip->protocol` -/
def ipProtocol (f : Frame) : UInt8 := f 23

/-- `ip->src` -/
def ipSrc (f : Frame) : Ip4 := rdIp f 26

/-- `ip->dst` -/
def ipDst (f : Frame) : Ip4 := rdIp f 30

/-- The offset of the transport header, `(uint8_t *)ip + ip_header_len`. -/
def l4 (f : Frame) : ℕ := 14 + ipHeaderLen f

/-- `icmp->type` -/
def icmpType (f : Frame) : UInt8 := f (l4 f)

/-- `util_ntohs(icmp->identifier)` -/
def icmpIdentifier (f : Frame) : UInt16 := utilNtohs (rd16 f (l4 f + 4))

/-- `util_ntohs(tcp->src_port)`, and the same for UDP: both headers start with the ports. -/
def srcPort (f : Frame) : UInt16 := utilNtohs (rd16 f (l4 f))

/-- `util_ntohs(tcp->dst_port)`, and the same for UDP. -/
def dstPort (f : Frame) : UInt16 := utilNtohs (rd16 f (l4 f + 2))

/-- A packet whose IHL passes the check has a header of at least 20 bytes. -/
lemma ipHeaderLen_ge {f : Frame} (h : 5 ≤ ipIhl f) : 20 ≤ ipHeaderLen f := by
  have h5 : 5 ≤ (ipIhl f).toNat := UInt8.le_iff_toNat_le.mp h
  unfold ipHeaderLen
  omega

/-- The header fits in front of the transport header. -/
lemma ipHeaderLen_le (f : Frame) : ipHeaderLen f ≤ 60 := by
  have h : (f 14 &&& 0x0F).toNat ≤ 15 := by
    rw [UInt8.toNat_and]
    exact Nat.and_le_right
  unfold ipHeaderLen ipIhl
  omega

/-- Lengths of packets are 16-bit numbers. -/
lemma ipTotalLength_lt (f : Frame) : ipTotalLength f < 65536 := UInt16.toNat_lt _

/-! ## Checksums -/

/-- The `while (length > 1u)` loop of `checksum16` and the odd byte after it, from the offset
`o`. -/
def sumBytes (f : Frame) : ℕ → ℕ → UInt32 → UInt32
  | _, 0, sum => sum
  | o, 1, sum => sum + ((f o).toUInt32 <<< 8)
  | o, length + 2, sum =>
    sumBytes f (o + 2) length (sum + (((f o).toUInt32 <<< 8) ||| (f (o + 1)).toUInt32))

/-- The body of the folding loops, `(sum & 0xFFFF) + (sum >> 16)`. -/
def foldPass (sum : UInt32) : UInt32 := (sum &&& (0xFFFF : UInt32)) + (sum >>> 16)

/-- The folding loops, `while (sum >> 16)`, for at most `k` passes. Two are enough
(`Gateway.foldLoop_two_shift`). -/
def foldLoop : ℕ → UInt32 → UInt32
  | 0, sum => sum
  | k + 1, sum => if sum >>> 16 ≠ 0 then foldLoop k (foldPass sum) else sum

/-- `checksum16` of the `length` bytes at the offset `o`. -/
def checksum16 (f : Frame) (o length : ℕ) : UInt16 :=
  (~~~ foldLoop 2 (sumBytes f o length 0)).toUInt16

/-- The loop over the transport header and data in `tcp_udp_checksum`, from the offset `o`. -/
def sumWords (f : Frame) : ℕ → ℕ → UInt32 → UInt32
  | _, 0, sum => sum
  | o, 1, sum => sum + (utilHtons ((f o).toUInt16 <<< 8)).toUInt32
  | o, length + 2, sum => sumWords f (o + 2) length (sum + (rd16 f o).toUInt32)

/-- The pseudo-header part of `tcp_udp_checksum`. -/
def sumPseudo (f : Frame) (transportLen : ℕ) : UInt32 :=
  (rd16 f 26).toUInt32 + (rd16 f 28).toUInt32 + (rd16 f 30).toUInt32 + (rd16 f 32).toUInt32 +
    (utilHtons (ipProtocol f).toUInt16).toUInt32 + (utilHtons (UInt16.ofNat transportLen)).toUInt32

/-- `tcp_udp_checksum` of the IPv4 header of the frame and the `transportLen` bytes at the offset
`o`. -/
def tcpUdpChecksum (f : Frame) (o transportLen : ℕ) : UInt16 :=
  (~~~ foldLoop 2 (sumWords f o transportLen (sumPseudo f transportLen))).toUInt16

/-- The bytes as numbers. -/
def byteVal (f : Frame) (k : ℕ) : ℕ := (f k).toNat

/-- A byte is at most 255. -/
lemma byteVal_le (f : Frame) (k : ℕ) : byteVal f k ≤ 255 := by
  have : (f k).toNat < 256 := UInt8.toNat_lt _
  unfold byteVal
  omega

/-- Folding one pass does not overflow. -/
lemma toNat_foldPass (sum : UInt32) : (foldPass sum).toNat = carry sum.toNat := by
  have hs : sum.toNat < 4294967296 := UInt32.toNat_lt _
  have hand : sum.toNat &&& 65535 = sum.toNat % 65536 := Nat.and_two_pow_sub_one_eq_mod _ 16
  rw [foldPass, UInt32.toNat_add, UInt32.toNat_and, UInt32.toNat_shiftRight]
  show ((sum.toNat &&& 65535) + sum.toNat >>> 16) % 4294967296 = carry sum.toNat
  rw [hand, Nat.shiftRight_eq_div_pow]
  unfold carry
  omega

/-- The loop test. -/
lemma shift_eq_zero_iff (sum : UInt32) : sum >>> 16 = 0 ↔ sum.toNat < 65536 := by
  rw [← UInt32.toNat_inj, UInt32.toNat_shiftRight]
  show sum.toNat >>> 16 = 0 ↔ _
  rw [Nat.shiftRight_eq_div_pow]
  omega

/-- The folding loops compute the folded sum. -/
lemma toNat_foldLoop_two (sum : UInt32) : (foldLoop 2 sum).toNat = fold sum.toNat := by
  rw [← carry_carry_eq_fold (UInt32.toNat_lt sum), foldLoop]
  by_cases h : sum >>> 16 ≠ 0
  · rw [if_pos h, foldLoop]
    by_cases h' : foldPass sum >>> 16 ≠ 0
    · rw [if_pos h', foldLoop, toNat_foldPass, toNat_foldPass]
    · rw [if_neg h', toNat_foldPass]
      rw [not_not, shift_eq_zero_iff, toNat_foldPass] at h'
      exact (carry_of_lt h').symm
  · rw [if_neg h]
    rw [not_not, shift_eq_zero_iff] at h
    rw [carry_of_lt h, carry_of_lt h]

/-- The folding loops end after at most two passes. -/
lemma foldLoop_two_shift (sum : UInt32) : foldLoop 2 sum >>> 16 = 0 := by
  rw [shift_eq_zero_iff, toNat_foldLoop_two]
  have := fold_le sum.toNat
  omega

/-- The complement of a folded sum, truncated to 16 bits. -/
lemma toNat_complement (sum : UInt32) :
    (~~~ foldLoop 2 sum).toUInt16.toNat = 65535 - fold sum.toNat := by
  have hle := fold_le sum.toNat
  rw [UInt32.toNat_toUInt16, UInt32.toNat_not, toNat_foldLoop_two]
  show (4294967296 - 1 - fold sum.toNat) % 65536 = _
  omega

/-- The last byte of an odd number of bytes, as `checksum16` adds it. -/
lemma toNat_high_byte (f : Frame) (k : ℕ) : ((f k).toUInt32 <<< 8).toNat = 256 * byteVal f k := by
  have hk := byteVal_le f k
  rw [UInt32.toNat_shiftLeft, UInt8.toNat_toUInt32]
  show byteVal f k <<< 8 % 4294967296 = _
  rw [Nat.shiftLeft_eq]
  omega

/-- A pair of bytes, as `checksum16` adds it. -/
lemma toNat_byte_pair (f : Frame) (o : ℕ) :
    (((f o).toUInt32 <<< 8) ||| (f (o + 1)).toUInt32).toNat =
      256 * byteVal f o + byteVal f (o + 1) := by
  rw [UInt32.toNat_or, UInt8.toNat_toUInt32, toNat_high_byte]
  exact (Nat.two_pow_add_eq_or_of_lt (i := 8) (UInt8.toNat_lt _) _).symm

/-- The summation loop of `checksum16`, if its accumulator does not overflow. -/
lemma toNat_sumBytes (f : Frame) (o n : ℕ) (sum : UInt32)
    (h : sum.toNat + sumBE (byteVal f) o n < 4294967296) :
    (sumBytes f o n sum).toNat = sum.toNat + sumBE (byteVal f) o n := by
  induction o, n, sum using sumBytes.induct f with
  | case1 o sum => simp [sumBytes, sumBE]
  | case2 o sum =>
    rw [sumBE] at h ⊢
    rw [sumBytes, UInt32.toNat_add, toNat_high_byte]
    omega
  | case3 o n sum ih =>
    rw [sumBE] at h ⊢
    have hstep : (sum + (((f o).toUInt32 <<< 8) ||| (f (o + 1)).toUInt32)).toNat =
        sum.toNat + (256 * byteVal f o + byteVal f (o + 1)) := by
      rw [UInt32.toNat_add, toNat_byte_pair]
      omega
    rw [sumBytes, ih (by rw [hstep]; omega), hstep]
    omega

/-- `checksum16` of bytes whose sum fits into the accumulator. -/
lemma toNat_checksum16_of_lt (f : Frame) (o n : ℕ) (h : sumBE (byteVal f) o n < 4294967296) :
    (checksum16 f o n).toNat = 65535 - fold (sumBE (byteVal f) o n) := by
  have hsum := toNat_sumBytes f o n 0 (by rw [UInt32.toNat_zero]; omega)
  rw [UInt32.toNat_zero, Nat.zero_add] at hsum
  rw [checksum16, toNat_complement, hsum]

/-- **`checksum16`** returns the complement of the folded sum of the big-endian words. -/
theorem toNat_checksum16 (f : Frame) (o n : ℕ) (hn : n ≤ 65536) :
    (checksum16 f o n).toNat = 65535 - fold (sumBE (byteVal f) o n) := by
  have hle := sumBE_le (byteVal_le f) o n
  exact toNat_checksum16_of_lt f o n (by omega)

/-- The last byte of an odd number of bytes, as `tcp_udp_checksum` adds it. -/
lemma toNat_odd_byte (f : Frame) (o : ℕ) :
    (utilHtons ((f o).toUInt16 <<< 8)).toUInt32.toNat = byteVal f o := by
  have hk := byteVal_le f o
  rw [UInt16.toNat_toUInt32, toNat_utilHtons, UInt16.toNat_shiftLeft, UInt8.toNat_toUInt16]
  show byteVal f o <<< 8 % 65536 % 256 * 256 + byteVal f o <<< 8 % 65536 / 256 = _
  rw [Nat.shiftLeft_eq]
  omega

/-- The summation loop of `tcp_udp_checksum`, if its accumulator does not overflow. -/
lemma toNat_sumWords (f : Frame) (o n : ℕ) (sum : UInt32)
    (h : sum.toNat + sumLE (byteVal f) o n < 4294967296) :
    (sumWords f o n sum).toNat = sum.toNat + sumLE (byteVal f) o n := by
  induction o, n, sum using sumWords.induct f with
  | case1 o sum => simp [sumWords, sumLE]
  | case2 o sum =>
    rw [sumLE] at h ⊢
    rw [sumWords, UInt32.toNat_add, toNat_odd_byte]
    omega
  | case3 o n sum ih =>
    have hstep : (sum + (rd16 f o).toUInt32).toNat =
        sum.toNat + (byteVal f o + 256 * byteVal f (o + 1)) := by
      rw [sumLE] at h
      rw [UInt32.toNat_add, UInt16.toNat_toUInt32, toNat_rd16]
      show (sum.toNat + (byteVal f o + 256 * byteVal f (o + 1))) % 4294967296 = _
      omega
    rw [sumLE] at h ⊢
    rw [sumWords, ih (by rw [hstep]; omega), hstep]
    omega

/-- A little-endian sum, by loads. -/
lemma sumLE_eq_rd16 (f : Frame) (o n : ℕ) :
    sumLE (byteVal f) o (n + 2) = (rd16 f o).toNat + sumLE (byteVal f) (o + 2) n := by
  rw [sumLE, toNat_rd16]
  rfl

/-- Adding a word to a 32-bit accumulator that has room for it. -/
lemma toNat_add_word (sum : UInt32) (v : UInt16) (h : sum.toNat < 4294901760) :
    (sum + v.toUInt32).toNat = sum.toNat + v.toNat := by
  have hv : v.toNat < 65536 := UInt16.toNat_lt _
  rw [UInt32.toNat_add, UInt16.toNat_toUInt32]
  omega

/-- The little-endian sum that `tcp_udp_checksum` folds. -/
def sumTransport (f : Frame) (o n : ℕ) : ℕ :=
  sumLE (byteVal f) 26 8 + (ipProtocol f).toNat * 256 + (n % 256 * 256 + n / 256) +
    sumLE (byteVal f) o n

/-- **`tcp_udp_checksum`** returns the complement of the folded sum of the little-endian words. -/
theorem toNat_tcpUdpChecksum (f : Frame) (o n : ℕ) (hn : n < 65536) :
    (tcpUdpChecksum f o n).toNat = 65535 - fold (sumTransport f o n) := by
  have hproto : (utilHtons (ipProtocol f).toUInt16).toNat = (ipProtocol f).toNat * 256 := by
    have hp : (ipProtocol f).toNat < 256 := UInt8.toNat_lt _
    rw [toNat_utilHtons, UInt8.toNat_toUInt16]
    omega
  have hlen : (utilHtons (UInt16.ofNat n)).toNat = n % 256 * 256 + n / 256 := by
    rw [toNat_utilHtons, UInt16.toNat_ofNat']
    omega
  have haddr : sumLE (byteVal f) 26 8 =
      (rd16 f 26).toNat + (rd16 f 28).toNat + (rd16 f 30).toNat + (rd16 f 32).toNat := by
    rw [sumLE_eq_rd16 f 26 6, sumLE_eq_rd16 f 28 4, sumLE_eq_rd16 f 30 2, sumLE_eq_rd16 f 32 0,
      sumLE]
    omega
  have hlt : ∀ v : UInt16, v.toNat < 65536 := fun v => UInt16.toNat_lt v
  have h₁ := hlt (rd16 f 26)
  have h₂ := hlt (rd16 f 28)
  have h₃ := hlt (rd16 f 30)
  have h₄ := hlt (rd16 f 32)
  have h₅ := hlt (utilHtons (ipProtocol f).toUInt16)
  have h₆ := hlt (utilHtons (UInt16.ofNat n))
  have hpseudo : (sumPseudo f n).toNat = (rd16 f 26).toNat + (rd16 f 28).toNat +
      (rd16 f 30).toNat + (rd16 f 32).toNat + (utilHtons (ipProtocol f).toUInt16).toNat +
      (utilHtons (UInt16.ofNat n)).toNat := by
    have hs₁ : (rd16 f 26).toUInt32.toNat = (rd16 f 26).toNat := UInt16.toNat_toUInt32 _
    have hs₂ := toNat_add_word (rd16 f 26).toUInt32 (rd16 f 28) (by omega)
    have hs₃ := toNat_add_word _ (rd16 f 30) (show UInt32.toNat _ < _ by rw [hs₂]; omega)
    have hs₄ := toNat_add_word _ (rd16 f 32) (show UInt32.toNat _ < _ by rw [hs₃]; omega)
    have hs₅ := toNat_add_word _ (utilHtons (ipProtocol f).toUInt16)
      (show UInt32.toNat _ < _ by rw [hs₄]; omega)
    have hs₆ := toNat_add_word _ (utilHtons (UInt16.ofNat n))
      (show UInt32.toNat _ < _ by rw [hs₅]; omega)
    unfold sumPseudo
    rw [hs₆, hs₅, hs₄, hs₃, hs₂, hs₁]
  have hle := sumLE_le (byteVal_le f) o n
  have hsum := toNat_sumWords f o n (sumPseudo f n) (by rw [hpseudo]; omega)
  rw [tcpUdpChecksum, toNat_complement, hsum, hpseudo, sumTransport, haddr, hproto, hlen]

/-! ### The receiver's tests -/

/-- The words of the IPv4 header sum to all ones. -/
def IpChecksumOk (f : Frame) : Prop := AllOnes (sumBE (byteVal f) 14 (ipHeaderLen f))

/-- The words of the ICMP message sum to all ones. -/
def IcmpChecksumOk (f : Frame) : Prop :=
  AllOnes (sumBE (byteVal f) (l4 f) (ipTotalLength f - ipHeaderLen f))

/-- The words of the pseudo-header (addresses, protocol, length) and of the TCP or UDP segment sum
to all ones. -/
def TransportChecksumOk (f : Frame) : Prop :=
  let n := ipTotalLength f - ipHeaderLen f
  AllOnes (sumBE (byteVal f) 26 8 + (ipProtocol f).toNat + n + sumBE (byteVal f) (l4 f) n)

/-- The sum of the code is the sum of the big-endian words, up to a swap of the bytes of all
words. -/
lemma sumTransport_swap (f : Frame) (o n : ℕ) :
    let sum := sumBE (byteVal f) 26 8 + (ipProtocol f).toNat + n + sumBE (byteVal f) o n
    sumTransport f o n ≡ 256 * sum [MOD 65535] ∧ (sumTransport f o n = 0 ↔ sum = 0) := by
  intro sum
  have h₁ := sumLE_modEq (byteVal f) 26 8
  have h₂ := sumLE_modEq (byteVal f) o n
  have z₁ := sumLE_eq_zero_iff (byteVal f) 26 8
  have z₂ := sumLE_eq_zero_iff (byteVal f) o n
  unfold Nat.ModEq at h₁ h₂
  constructor
  · unfold sumTransport Nat.ModEq
    omega
  · unfold sumTransport
    omega

/-- The test of the segment in the byte order of the code. -/
lemma transportChecksumOk_iff (f : Frame) : TransportChecksumOk f ↔
    AllOnes (sumTransport f (l4 f) (ipTotalLength f - ipHeaderLen f)) := by
  obtain ⟨hmod, hzero⟩ := sumTransport_swap f (l4 f) (ipTotalLength f - ipHeaderLen f)
  exact (allOnes_swap_iff hmod hzero).symm

/-- Clearing the two bytes of a stored word is storing zero. -/
lemma byteVal_clear (f : Frame) (o : ℕ) (v : UInt16) :
    Function.update (Function.update (byteVal (wr16 f o v)) o 0) (o + 1) 0 =
      byteVal (wr16 f o 0) := by
  funext j
  by_cases h₁ : j = o + 1
  · subst h₁
    rw [Function.update_self, byteVal, wr16_succ]
    rfl
  · rw [Function.update_of_ne h₁]
    by_cases h₂ : j = o
    · subst h₂
      rw [Function.update_self, byteVal, wr16_self]
      rfl
    · rw [Function.update_of_ne h₂, byteVal, byteVal, wr16_of_ne _ _ h₂ h₁, wr16_of_ne _ _ h₂ h₁]

/-- The share of a stored word in a big-endian sum. -/
lemma sumBE_wr16 (f : Frame) {o n k : ℕ} (hk : 2 * k + 2 ≤ n) (v : UInt16) :
    sumBE (byteVal (wr16 f (o + 2 * k) v)) o n =
      sumBE (byteVal (wr16 f (o + 2 * k) 0)) o n + (utilHtons v).toNat := by
  rw [sumBE_word hk, byteVal_clear, byteVal, byteVal, wr16_self, wr16_succ, toNat_lo, toNat_hi,
    toNat_utilHtons]
  omega

/-- The share of a stored word in a little-endian sum. -/
lemma sumLE_wr16 (f : Frame) {o n k : ℕ} (hk : 2 * k + 2 ≤ n) (v : UInt16) :
    sumLE (byteVal (wr16 f (o + 2 * k) v)) o n =
      sumLE (byteVal (wr16 f (o + 2 * k) 0)) o n + v.toNat := by
  have hv : v.toNat < 65536 := UInt16.toNat_lt _
  rw [sumLE_word hk, byteVal_clear, byteVal, byteVal, wr16_self, wr16_succ, toNat_lo, toNat_hi]
  omega

end Gateway
