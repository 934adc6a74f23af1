import UcosArm64.Gateway.NetDemo

set_option relaxedAutoImplicit false
set_option autoImplicit false

/-!
# What a translation does to a packet

A translated packet is the packet received, but for an address, a port, the time to live and the
two checksums, and both checksums are right again.

## Main definitions

* `Gateway.Rewrites` — the effect of a translation on a frame.

## Main results

* `Gateway.rewrites_icmp`, `Gateway.rewrites_transport` — the effect of the two rewriting blocks.
-/

namespace Gateway

open OnesComplement

/-! ## Storing a checksum -/

/-- The second of two stores to one place wins. -/
lemma wr16_wr16 (f : Frame) (o : ℕ) (u v : UInt16) : wr16 (wr16 f o u) o v = wr16 f o v := by
  funext k
  by_cases h : k = o
  · subst h
    rw [wr16_self, wr16_self]
  · by_cases h' : k = o + 1
    · subst h'
      rw [wr16_succ, wr16_succ]
    · rw [wr16_of_ne _ _ h h', wr16_of_ne _ _ h h', wr16_of_ne _ _ h h']

/-- Storing `checksum16` of the cleared words makes the words sum to all ones. -/
lemma allOnes_store_checksum16 (f : Frame) {o n k : ℕ} (hk : 2 * k + 2 ≤ n) (hn : n ≤ 65536) :
    AllOnes (sumBE (byteVal (wr16 (wr16 f (o + 2 * k) 0) (o + 2 * k)
      (utilHtons (checksum16 (wr16 f (o + 2 * k) 0) o n)))) o n) := by
  rw [sumBE_wr16 _ hk, wr16_wr16, utilHtons_utilHtons, toNat_checksum16 _ _ _ hn]
  exact allOnes_add_complement _

/-- Storing `tcp_udp_checksum` of the cleared segment makes pseudo-header and segment sum to all
ones. -/
lemma allOnes_store_tcpUdpChecksum (f : Frame) {o n k : ℕ} (hk : 2 * k + 2 ≤ n) (hn : n < 65536)
    (ho : 34 ≤ o) :
    AllOnes (sumTransport (wr16 (wr16 f (o + 2 * k) 0) (o + 2 * k)
      (tcpUdpChecksum (wr16 f (o + 2 * k) 0) o n)) o n) := by
  have hsum : ∀ v, sumTransport (wr16 (wr16 f (o + 2 * k) 0) (o + 2 * k) v) o n =
      sumTransport (wr16 f (o + 2 * k) 0) o n + v.toNat := by
    intro v
    have haddr : sumLE (byteVal (wr16 (wr16 f (o + 2 * k) 0) (o + 2 * k) v)) 26 8 =
        sumLE (byteVal (wr16 f (o + 2 * k) 0)) 26 8 := by
      refine sumLE_congr fun j _ hj => ?_
      rw [byteVal, byteVal, wr16_of_ne _ _ (by omega) (by omega)]
    have hproto : ipProtocol (wr16 (wr16 f (o + 2 * k) 0) (o + 2 * k) v) =
        ipProtocol (wr16 f (o + 2 * k) 0) := wr16_of_ne _ _ (by omega) (by omega)
    unfold sumTransport
    rw [haddr, hproto, sumLE_wr16 _ hk, wr16_wr16]
    omega
  rw [hsum, toNat_tcpUdpChecksum _ _ _ hn]
  exact allOnes_add_complement _

/-! ## Fields that a store does not touch -/

/-- Two frames have the same header geometry: version, header length, total length, protocol. -/
structure SameShape (f g : Frame) : Prop where
  ihl : g 14 = f 14
  lengthLo : g 16 = f 16
  lengthHi : g 17 = f 17
  protocol : g 23 = f 23

/-- Frames of one shape have one IHL. -/
lemma SameShape.ipIhl {f g : Frame} (h : SameShape f g) : ipIhl g = ipIhl f := by
  rw [Gateway.ipIhl, Gateway.ipIhl, h.ihl]

/-- Frames of one shape have one length of the IP header. -/
lemma SameShape.ipHeaderLen {f g : Frame} (h : SameShape f g) : ipHeaderLen g = ipHeaderLen f := by
  rw [Gateway.ipHeaderLen, Gateway.ipHeaderLen, h.ipIhl]

/-- Frames of one shape have their transport header at one offset. -/
lemma SameShape.l4 {f g : Frame} (h : SameShape f g) : l4 g = l4 f := by
  rw [Gateway.l4, Gateway.l4, h.ipHeaderLen]

/-- Frames of one shape have one total length. -/
lemma SameShape.ipTotalLength {f g : Frame} (h : SameShape f g) :
    ipTotalLength g = ipTotalLength f := by
  rw [Gateway.ipTotalLength, Gateway.ipTotalLength, rd16_congr h.lengthLo h.lengthHi]

/-- Frames of one shape have one protocol. -/
lemma SameShape.ipProtocol {f g : Frame} (h : SameShape f g) : ipProtocol g = ipProtocol f :=
  h.protocol

/-- Having the same shape is transitive. -/
lemma SameShape.trans {f g h : Frame} (hfg : SameShape f g) (hgh : SameShape g h) :
    SameShape f h :=
  ⟨hgh.ihl.trans hfg.ihl, hgh.lengthLo.trans hfg.lengthLo, hgh.lengthHi.trans hfg.lengthHi,
    hgh.protocol.trans hfg.protocol⟩

/-- A frame that agrees on the header bytes in question has the same shape. -/
lemma SameShape.of_eq {f g : Frame} (h : ∀ k, k = 14 ∨ k = 16 ∨ k = 17 ∨ k = 23 → g k = f k) :
    SameShape f g :=
  ⟨h 14 (by omega), h 16 (by omega), h 17 (by omega), h 23 (by omega)⟩

/-! ## The IP header -/

/-- What `updateIpHeader` leaves alone. -/
lemma updateIpHeader_of_ne (f : Frame) {addr k : ℕ} (ip : Ip4) (h₁ : k ≠ 22) (h₂ : k ≠ 24)
    (h₃ : k ≠ 25) (h₄ : k < addr ∨ addr + 4 ≤ k) : updateIpHeader f addr ip k = f k := by
  unfold updateIpHeader
  rw [wr16_of_ne _ _ h₂ h₃, wr16_of_ne _ _ h₂ h₃, wr8_of_ne _ _ h₁, wrIp_of_ne _ _ h₄]

/-- The shape of the packet stays. -/
lemma sameShape_updateIpHeader (f : Frame) {addr : ℕ} (ip : Ip4) (ha : 26 ≤ addr) :
    SameShape f (updateIpHeader f addr ip) :=
  SameShape.of_eq fun k hk =>
    updateIpHeader_of_ne f ip (by omega) (by omega) (by omega) (by omega)

/-- The time to live is one less. -/
lemma updateIpHeader_ttl (f : Frame) {addr : ℕ} (ip : Ip4) (ha : 26 ≤ addr) :
    updateIpHeader f addr ip 22 = f 22 - 1 := by
  unfold updateIpHeader
  rw [wr16_of_ne _ _ (by omega) (by omega), wr16_of_ne _ _ (by omega) (by omega), wr8_self,
    wrIp_of_ne _ _ (by omega)]

/-- The address is the new one. -/
lemma rdIp_updateIpHeader (f : Frame) {addr : ℕ} (ip : Ip4) (ha : 26 ≤ addr) :
    rdIp (updateIpHeader f addr ip) addr = ip := by
  have h : rdIp (updateIpHeader f addr ip) addr = rdIp (wrIp f addr ip) addr := by
    refine rdIp_congr fun k hk _ => ?_
    unfold updateIpHeader
    rw [wr16_of_ne _ _ (by omega) (by omega), wr16_of_ne _ _ (by omega) (by omega),
      wr8_of_ne _ _ (by omega)]
  rw [h, rdIp_wrIp]

/-- The header length survives the stores before the checksum. -/
lemma ipHeaderLen_cleared (f : Frame) {addr : ℕ} (ip : Ip4) (t : UInt8) (ha : 26 ≤ addr) :
    ipHeaderLen (wr16 (wr8 (wrIp f addr ip) 22 t) 24 0) = ipHeaderLen f := by
  rw [ipHeaderLen, ipHeaderLen, ipIhl, ipIhl, wr16_of_ne _ _ (by omega) (by omega),
    wr8_of_ne _ _ (by omega), wrIp_of_ne _ _ (by omega)]

/-- The header checksum is right. -/
lemma ipChecksumOk_updateIpHeader (f : Frame) {addr : ℕ} (ip : Ip4) (ha : 26 ≤ addr)
    (hl : 20 ≤ ipHeaderLen f) : IpChecksumOk (updateIpHeader f addr ip) := by
  have hle := ipHeaderLen_le f
  unfold IpChecksumOk
  rw [(sameShape_updateIpHeader f ip ha).ipHeaderLen]
  unfold updateIpHeader
  simp only [ipHeaderLen_cleared f ip _ ha]
  exact allOnes_store_checksum16 (wr8 (wrIp f addr ip) 22 (wrIp f addr ip 22 - 1)) (o := 14)
    (k := 5) (by omega) (by omega)

/-- The test of the header checksum depends on the header. -/
lemma IpChecksumOk.congr {f g : Frame} (hf : IpChecksumOk f) (hs : SameShape f g)
    (h : ∀ k, 14 ≤ k → k < l4 f → g k = f k) : IpChecksumOk g := by
  unfold IpChecksumOk at hf ⊢
  rw [hs.ipHeaderLen, sumBE_congr (g := byteVal f)]
  · exact hf
  · intro k hk hk'
    rw [byteVal, byteVal, h k hk hk']

/-! ## The transport header -/

/-- **The effect of a translation.** The packet `g` is the packet `f` with the address at `addr`,
the port at `portOffset` of the transport header (or the ICMP identifier), the time to live and the
checksums rewritten. -/
structure Rewrites (f g : Frame) (addr : ℕ) (ip : Ip4) (portOffset : ℕ) (port : UInt16)
    (checksum : ℕ) : Prop where
  same : ∀ k, k ≠ 22 → k ≠ 24 → k ≠ 25 → (k < addr ∨ addr + 4 ≤ k) →
    k ≠ l4 f + portOffset → k ≠ l4 f + portOffset + 1 →
    k ≠ l4 f + checksum → k ≠ l4 f + checksum + 1 → g k = f k
  ttl : ipTtl g = ipTtl f - 1
  addr : rdIp g addr = ip
  port : utilNtohs (rd16 g (l4 f + portOffset)) = port
  ipChecksum : IpChecksumOk g

/-- The packet with its new port, and the checksum field cleared. -/
def cleared (f : Frame) (p c : ℕ) (port : UInt16) : Frame := wr16 (wr16 f p (utilHtons port)) c 0

/-- What the stores to the transport header leave alone. -/
lemma stored_of_ne (f : Frame) {p c k : ℕ} (port v : UInt16) (h₁ : k ≠ p) (h₂ : k ≠ p + 1)
    (h₃ : k ≠ c) (h₄ : k ≠ c + 1) : wr16 (cleared f p c port) c v k = f k := by
  rw [cleared, wr16_of_ne _ _ h₃ h₄, wr16_of_ne _ _ h₃ h₄, wr16_of_ne _ _ h₁ h₂]

/-- The shape of the packet stays. -/
lemma sameShape_stored (f : Frame) {p c : ℕ} (port v : UInt16) (hp : 34 ≤ p) (hc : 34 ≤ c) :
    SameShape f (wr16 (cleared f p c port) c v) :=
  SameShape.of_eq fun k hk => stored_of_ne f port v (by omega) (by omega) (by omega) (by omega)

/-- The shape of the packet stays while the checksum field is cleared. -/
lemma sameShape_cleared (f : Frame) {p c : ℕ} (port : UInt16) (hp : 34 ≤ p) (hc : 34 ≤ c) :
    SameShape f (cleared f p c port) := by
  have h := sameShape_stored f port 0 hp hc
  rw [cleared, wr16_wr16] at h
  exact h

/-- The steps of `updateIcmp`. -/
lemma updateIcmp_eq (f : Frame) (identifier : UInt16) (hl : 20 ≤ ipHeaderLen f) :
    updateIcmp f identifier =
      wr16 (cleared f (l4 f + 4) (l4 f + 2) identifier) (l4 f + 2)
        (utilHtons (checksum16 (cleared f (l4 f + 4) (l4 f + 2) identifier) (l4 f)
          (ipTotalLength f - ipHeaderLen f))) := by
  have h34 : 34 ≤ l4 f := by unfold l4; omega
  have hport : SameShape f (wr16 f (l4 f + 4) (utilHtons identifier)) :=
    SameShape.of_eq fun k hk => wr16_of_ne _ _ (by omega) (by omega)
  have hclear := sameShape_cleared f identifier (show 34 ≤ l4 f + 4 by omega)
    (show 34 ≤ l4 f + 2 by omega)
  unfold updateIcmp
  simp only [hport.l4]
  rw [show wr16 (wr16 f (l4 f + 4) (utilHtons identifier)) (l4 f + 2) 0 =
    cleared f (l4 f + 4) (l4 f + 2) identifier from rfl, hclear.l4, hclear.ipTotalLength,
    hclear.ipHeaderLen]

/-- The steps of `updateTransport`. -/
lemma updateTransport_eq (f : Frame) {portOffset : ℕ} (port : UInt16) (hl : 20 ≤ ipHeaderLen f) :
    updateTransport f portOffset port =
      wr16 (cleared f (l4 f + portOffset) (l4 f + checksumOffset (ipProtocol f)) port)
        (l4 f + checksumOffset (ipProtocol f))
        (tcpUdpChecksum (cleared f (l4 f + portOffset) (l4 f + checksumOffset (ipProtocol f)) port)
          (l4 f) (ipTotalLength f - ipHeaderLen f)) := by
  have h34 : 34 ≤ l4 f := by unfold l4; omega
  have hport : SameShape f (wr16 f (l4 f + portOffset) (utilHtons port)) :=
    SameShape.of_eq fun k hk => wr16_of_ne _ _ (by omega) (by omega)
  have hclear := sameShape_cleared f port (show 34 ≤ l4 f + portOffset by omega)
    (show 34 ≤ l4 f + checksumOffset (ipProtocol f) by omega)
  unfold updateTransport
  simp only [hport.l4]
  rw [show wr16 (wr16 f (l4 f + portOffset) (utilHtons port))
    (l4 f + checksumOffset (ipProtocol f)) 0 = cleared f (l4 f + portOffset)
      (l4 f + checksumOffset (ipProtocol f)) port from rfl, hclear.l4, hclear.ipTotalLength,
    hclear.ipHeaderLen]

/-- The stores to both headers together. -/
lemma rewrites_stored (f : Frame) {addr portOffset checksum : ℕ} (ip : Ip4) (port v : UInt16)
    (ha : 26 ≤ addr) (ha' : addr + 4 ≤ 34) (hl : 20 ≤ ipHeaderLen f)
    (hd : portOffset + 2 ≤ checksum ∨ checksum + 2 ≤ portOffset) :
    Rewrites f (wr16 (cleared (updateIpHeader f addr ip) (l4 f + portOffset) (l4 f + checksum) port)
      (l4 f + checksum) v) addr ip portOffset port checksum := by
  have h34 : 34 ≤ l4 f := by unfold l4; omega
  have hshape := sameShape_updateIpHeader f ip ha
  constructor
  · intro k h₁ h₂ h₃ h₄ h₅ h₆ h₇ h₈
    rw [stored_of_ne _ _ _ h₅ h₆ h₇ h₈, updateIpHeader_of_ne _ _ h₁ h₂ h₃ h₄]
  · rw [ipTtl, stored_of_ne _ _ _ (by omega) (by omega) (by omega) (by omega),
      updateIpHeader_ttl f ip ha]
    rfl
  · rw [rdIp_congr (g := updateIpHeader f addr ip), rdIp_updateIpHeader f ip ha]
    intro k hk hk'
    exact stored_of_ne _ _ _ (by omega) (by omega) (by omega) (by omega)
  · rw [rd16_congr (g := wr16 (updateIpHeader f addr ip) (l4 f + portOffset) (utilHtons port)),
      rd16_wr16, utilNtohs_utilHtons]
    · rw [cleared, wr16_of_ne _ _ (by omega) (by omega), wr16_of_ne _ _ (by omega) (by omega)]
    · rw [cleared, wr16_of_ne _ _ (by omega) (by omega), wr16_of_ne _ _ (by omega) (by omega)]
  · refine (ipChecksumOk_updateIpHeader f ip ha hl).congr
      (sameShape_stored _ _ _ (by omega) (by omega)) fun k _ hk => ?_
    rw [hshape.l4] at hk
    exact stored_of_ne _ _ _ (by omega) (by omega) (by omega) (by omega)

/-- **Translating an ICMP message.** -/
theorem rewrites_icmp (f : Frame) (addr : ℕ) (ip : Ip4) (identifier : UInt16) (ha : 26 ≤ addr)
    (ha' : addr + 4 ≤ 34) (hl : 20 ≤ ipHeaderLen f) (ht : ipHeaderLen f + 8 ≤ ipTotalLength f) :
    Rewrites f (updateIcmp (updateIpHeader f addr ip) identifier) addr ip 4 identifier 2 ∧
      IcmpChecksumOk (updateIcmp (updateIpHeader f addr ip) identifier) := by
  have hshape := sameShape_updateIpHeader f ip ha
  have h34 : 34 ≤ l4 f := by unfold l4; omega
  rw [updateIcmp_eq _ identifier (by rw [hshape.ipHeaderLen]; exact hl), hshape.l4]
  refine ⟨rewrites_stored f ip identifier _ ha ha' hl (by omega), ?_⟩
  have hfinal := hshape.trans (sameShape_stored (updateIpHeader f addr ip) identifier
    (utilHtons (checksum16 (cleared (updateIpHeader f addr ip) (l4 f + 4) (l4 f + 2) identifier)
      (l4 f) (ipTotalLength (updateIpHeader f addr ip) - ipHeaderLen (updateIpHeader f addr ip))))
    (show 34 ≤ l4 f + 4 by omega) (show 34 ≤ l4 f + 2 by omega))
  unfold IcmpChecksumOk
  rw [hfinal.l4, hfinal.ipTotalLength, hfinal.ipHeaderLen, hshape.ipTotalLength,
    hshape.ipHeaderLen]
  have hlt := ipTotalLength_lt f
  exact allOnes_store_checksum16 _ (k := 1) (by omega) (by omega)

/-- **Translating a TCP or UDP packet.** -/
theorem rewrites_transport (f : Frame) (addr portOffset : ℕ) (ip : Ip4) (port : UInt16)
    (ha : 26 ≤ addr) (ha' : addr + 4 ≤ 34) (hl : 20 ≤ ipHeaderLen f) (hp : portOffset ≤ 2)
    (ht : ipHeaderLen f + minTransportLen (ipProtocol f) ≤ ipTotalLength f) :
    Rewrites f (updateTransport (updateIpHeader f addr ip) portOffset port) addr ip portOffset port
        (checksumOffset (ipProtocol f)) ∧
      TransportChecksumOk (updateTransport (updateIpHeader f addr ip) portOffset port) := by
  have hshape := sameShape_updateIpHeader f ip ha
  have h34 : 34 ≤ l4 f := by unfold l4; omega
  have hlt := ipTotalLength_lt f
  obtain ⟨k, hk, hroom⟩ : ∃ k, checksumOffset (ipProtocol f) = 2 * k ∧
      2 * k + 2 ≤ ipTotalLength f - ipHeaderLen f ∧ 3 ≤ k := by
    unfold checksumOffset
    unfold minTransportLen at ht
    by_cases h6 : ipProtocol f = 6
    · rw [if_pos h6] at ht ⊢
      exact ⟨8, rfl, by omega, by omega⟩
    · rw [if_neg h6] at ht ⊢
      exact ⟨3, rfl, by omega, by omega⟩
  rw [updateTransport_eq _ port (by rw [hshape.ipHeaderLen]; exact hl), hshape.l4,
    hshape.ipProtocol, hk]
  refine ⟨rewrites_stored f ip port _ ha ha' hl (by omega), ?_⟩
  have hfinal := hshape.trans (sameShape_stored (updateIpHeader f addr ip) port
    (tcpUdpChecksum (cleared (updateIpHeader f addr ip) (l4 f + portOffset) (l4 f + 2 * k) port)
      (l4 f) (ipTotalLength (updateIpHeader f addr ip) - ipHeaderLen (updateIpHeader f addr ip)))
    (show 34 ≤ l4 f + portOffset by omega) (show 34 ≤ l4 f + 2 * k by omega))
  rw [transportChecksumOk_iff, hfinal.l4, hfinal.ipTotalLength, hfinal.ipHeaderLen,
    hshape.ipTotalLength, hshape.ipHeaderLen]
  exact allOnes_store_tcpUdpChecksum _ (by omega) (by omega) h34

end Gateway
