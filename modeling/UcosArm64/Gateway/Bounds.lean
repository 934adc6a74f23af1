import UcosArm64.Gateway.Checked
import UcosArm64.Gateway.Transmitted

set_option relaxedAutoImplicit false
set_option autoImplicit false

/-!
# Which packets make the gateway leave its buffers

Header accesses always stay inside the RX buffer and the local reply frame: the headers end below
96 bytes. The checksum loops run over the claimed total length, which nothing compares with the
size of the object. So the run with checked accesses fails exactly when a checksum is computed over
a packet that is longer than its object.

## Main definitions

* `Gateway.ForwardsInbound`, `Gateway.ForwardsOutbound` — a translation block gets as far as
  rewriting the packet.
* `Gateway.Overruns` — the condition.
* `Gateway.InBounds` — every access is inside its object.

## Main results

* `Gateway.failsIff_netDemoProcessFrame` — the checked run is the unchecked one, or it leaves an
  object under the condition.
* `Gateway.inBounds_iff` — the same for every state that a run reaches.
-/

namespace Gateway

open Transition

/-! ## Headers -/

/-- The IP header ends at 74 at the latest. -/
lemma l4_le (f : Frame) : l4 f ≤ 74 := by
  have := ipHeaderLen_le f
  unfold l4
  omega

/-- Both objects have room for the headers. -/
lemma rxFrameSize_ge : 96 ≤ rxFrameSize := by decide

namespace Checked

variable {size : ℕ}

/-- An access inside the frame succeeds. -/
lemma access_of_le {α : Type} {o len : ℕ} {x : α} (h : o + len ≤ size) :
    access size o len x = some x := if_pos h

/-- An access inside the object, in sequence. -/
lemma bind_access {α β : Type} {o len : ℕ} {x : α} {k : α → Option β} (h : o + len ≤ size) :
    (access size o len x >>= k) = k x := by
  rw [access_of_le h]
  rfl

/-- A computation that has a result, in sequence. -/
lemma bind_of_eq {α β : Type} {r : Option α} {x : α} {k : α → Option β} (h : r = some x) :
    (r >>= k) = k x := by
  rw [h]
  rfl

/-- The EtherType lies inside the frame. -/
lemma ethType_eq (h : 96 ≤ size) (f : Frame) : ethType size f = some (Gateway.ethType f) := by
  unfold ethType rd16
  rw [access_of_le (by omega)]
  rfl

/-- The source MAC address lies inside the frame. -/
lemma ethSrc_eq (h : 96 ≤ size) (f : Frame) : ethSrc size f = some (Gateway.ethSrc f) :=
  access_of_le (by omega)

/-- The version lies inside the frame. -/
lemma ipVersion_eq (h : 96 ≤ size) (f : Frame) : ipVersion size f = some (Gateway.ipVersion f) := by
  unfold ipVersion rd8
  rw [access_of_le (by omega)]
  rfl

/-- The IHL lies inside the frame. -/
lemma ipIhl_eq (h : 96 ≤ size) (f : Frame) : ipIhl size f = some (Gateway.ipIhl f) := by
  unfold ipIhl rd8
  rw [access_of_le (by omega)]
  rfl

/-- The length of the IP header lies inside the frame. -/
lemma ipHeaderLen_eq (h : 96 ≤ size) (f : Frame) :
    ipHeaderLen size f = some (Gateway.ipHeaderLen f) := by
  unfold ipHeaderLen
  rw [ipIhl_eq h]
  rfl

/-- The total length lies inside the frame. -/
lemma ipTotalLength_eq (h : 96 ≤ size) (f : Frame) :
    ipTotalLength size f = some (Gateway.ipTotalLength f) := by
  unfold ipTotalLength rd16
  rw [access_of_le (by omega)]
  rfl

/-- The TTL lies inside the frame. -/
lemma ipTtl_eq (h : 96 ≤ size) (f : Frame) : ipTtl size f = some (Gateway.ipTtl f) :=
  access_of_le (by omega)

/-- The protocol lies inside the frame. -/
lemma ipProtocol_eq (h : 96 ≤ size) (f : Frame) :
    ipProtocol size f = some (Gateway.ipProtocol f) := access_of_le (by omega)

/-- The source address lies inside the frame. -/
lemma ipSrc_eq (h : 96 ≤ size) (f : Frame) : ipSrc size f = some (Gateway.ipSrc f) :=
  access_of_le (by omega)

/-- The destination address lies inside the frame. -/
lemma ipDst_eq (h : 96 ≤ size) (f : Frame) : ipDst size f = some (Gateway.ipDst f) :=
  access_of_le (by omega)

/-- The offset of the transport header lies inside the frame. -/
lemma l4_eq (h : 96 ≤ size) (f : Frame) : l4 size f = some (Gateway.l4 f) := by
  unfold l4
  rw [ipHeaderLen_eq h]
  rfl

/-- The ICMP type lies inside the frame, whatever the IHL. -/
lemma icmpType_eq (h : 96 ≤ size) (f : Frame) : icmpType size f = some (Gateway.icmpType f) := by
  have := l4_le f
  unfold icmpType
  rw [l4_eq h]
  exact access_of_le (by omega)

/-- A 16-bit load from the transport header. -/
lemma rd16_l4 (h : 96 ≤ size) (f : Frame) {k : ℕ} (hk : k ≤ 20) :
    rd16 size f (Gateway.l4 f + k) = some (Gateway.rd16 f (Gateway.l4 f + k)) := by
  have := l4_le f
  exact access_of_le (by omega)

/-- A 16-bit store to the transport header. -/
lemma wr16_l4 (h : 96 ≤ size) (f g : Frame) {k : ℕ} (hk : k ≤ 20) (v : UInt16) :
    wr16 size g (Gateway.l4 f + k) v = some (Gateway.wr16 g (Gateway.l4 f + k) v) := by
  have := l4_le f
  exact access_of_le (by omega)

/-- The ICMP identifier lies inside the frame, whatever the IHL. -/
lemma icmpIdentifier_eq (h : 96 ≤ size) (f : Frame) :
    icmpIdentifier size f = some (Gateway.icmpIdentifier f) := by
  unfold icmpIdentifier
  rw [l4_eq h]
  show (do return utilNtohs (← rd16 size f (Gateway.l4 f + 4))) = _
  rw [rd16_l4 h f (by omega)]
  rfl

/-- The source port lies inside the frame, whatever the IHL. -/
lemma srcPort_eq (h : 96 ≤ size) (f : Frame) : srcPort size f = some (Gateway.srcPort f) := by
  unfold srcPort
  rw [l4_eq h]
  show (do return utilNtohs (← rd16 size f (Gateway.l4 f + 0))) = _
  rw [rd16_l4 h f (by omega)]
  rfl

/-- The destination port lies inside the frame, whatever the IHL. -/
lemma dstPort_eq (h : 96 ≤ size) (f : Frame) : dstPort size f = some (Gateway.dstPort f) := by
  unfold dstPort
  rw [l4_eq h]
  show (do return utilNtohs (← rd16 size f (Gateway.l4 f + 2))) = _
  rw [rd16_l4 h f (by omega)]
  rfl

/-! ## Checksums -/

/-- The loop of `checksum16` stays inside if the bytes that it sums are there. -/
lemma sumBytes_eq (f : Frame) (o n : ℕ) (sum : UInt32) :
    sumBytes size f o n sum =
      if n = 0 ∨ o + n ≤ size then some (Gateway.sumBytes f o n sum) else none := by
  induction o, n, sum using Gateway.sumBytes.induct f with
  | case1 o sum => simp [sumBytes, Gateway.sumBytes]
  | case2 o sum =>
    by_cases h : o + 1 ≤ size <;> simp [sumBytes, Gateway.sumBytes, rd8, access, h]
  | case3 o n sum ih =>
    by_cases h₁ : o + 1 + 1 ≤ size
    · have h₀ : o + 1 ≤ size := by omega
      simp only [sumBytes, Gateway.sumBytes, rd8, access_of_le h₀, access_of_le h₁,
        Option.bind_eq_bind, Option.bind_some, ih]
      exact if_congr (by omega) rfl rfl
    · rw [if_neg (by omega)]
      simp [sumBytes, rd8, access, h₁]

/-- `checksum16` stays inside exactly if its range does. -/
lemma checksum16_eq (f : Frame) (o n : ℕ) :
    checksum16 size f o n =
      if n = 0 ∨ o + n ≤ size then some (Gateway.checksum16 f o n) else none := by
  unfold checksum16
  rw [sumBytes_eq]
  split_ifs <;> rfl

/-- The loop of `tcp_udp_checksum` stays inside if the bytes that it sums are there. -/
lemma sumWords_eq (f : Frame) (o n : ℕ) (sum : UInt32) :
    sumWords size f o n sum =
      if n = 0 ∨ o + n ≤ size then some (Gateway.sumWords f o n sum) else none := by
  induction o, n, sum using Gateway.sumWords.induct f with
  | case1 o sum => simp [sumWords, Gateway.sumWords]
  | case2 o sum =>
    by_cases h : o + 1 ≤ size <;> simp [sumWords, Gateway.sumWords, rd8, access, h]
  | case3 o n sum ih =>
    by_cases h : o + 2 ≤ size
    · simp only [sumWords, Gateway.sumWords, rd16, access_of_le h, Option.bind_eq_bind,
        Option.bind_some, ih]
      exact if_congr (by omega) rfl rfl
    · rw [if_neg (by omega)]
      simp [sumWords, rd16, access, h]

/-- The pseudo-header lies inside the frame. -/
lemma sumPseudo_eq (h : 96 ≤ size) (f : Frame) (n : ℕ) :
    sumPseudo size f n = some (Gateway.sumPseudo f n) := by
  unfold sumPseudo rd16
  rw [access_of_le (by omega), access_of_le (by omega), access_of_le (by omega),
    access_of_le (by omega), ipProtocol_eq h]
  rfl

/-- `tcp_udp_checksum` stays inside exactly if its range does. -/
lemma tcpUdpChecksum_eq (h : 96 ≤ size) (f : Frame) (o n : ℕ) :
    tcpUdpChecksum size f o n =
      if n = 0 ∨ o + n ≤ size then some (Gateway.tcpUdpChecksum f o n) else none := by
  unfold tcpUdpChecksum
  rw [sumPseudo_eq h]
  show (do return (~~~ foldLoop 2 (← sumWords size f o n (Gateway.sumPseudo f n))).toUInt16) = _
  rw [sumWords_eq]
  split_ifs <;> rfl

/-! ## Rewriting a frame -/

/-- The IP header is rewritten inside the object. -/
lemma updateIpHeader_eq (h : 96 ≤ size) (f : Frame) {addr : ℕ} (ha : addr + 4 ≤ 34) (ip : Ip4) :
    updateIpHeader size f addr ip = some (Gateway.updateIpHeader f addr ip) := by
  simp (disch := omega) only [updateIpHeader, wrIp, wr8, wr16, access_of_le, ipTtl_eq h,
    ipHeaderLen_eq h, checksum16_eq, Option.bind_eq_bind, Option.bind_some]
  set g := Gateway.wr16 (Gateway.wr8 (Gateway.wrIp f addr ip) 22
    (Gateway.ipTtl (Gateway.wrIp f addr ip) - 1)) 24 0 with hg
  have hle := ipHeaderLen_le g
  rw [if_pos (Or.inr (by omega))]
  rfl

/-- What follows the IP header is empty or inside the object exactly if the packet fits in it. -/
lemma message_fits_iff {f : Frame} (ht : Gateway.ipHeaderLen f + 8 ≤ Gateway.ipTotalLength f) :
    (Gateway.ipTotalLength f - Gateway.ipHeaderLen f = 0 ∨ Gateway.l4 f +
      (Gateway.ipTotalLength f - Gateway.ipHeaderLen f) ≤ size) ↔
      14 + Gateway.ipTotalLength f ≤ size := by
  unfold Gateway.l4
  omega

/-- The ICMP checksum is computed inside the object if the packet fits in it. -/
lemma updateIcmp_eq (h : 96 ≤ size) {f : Frame} (identifier : UInt16)
    (hl : 20 ≤ Gateway.ipHeaderLen f) (ht : Gateway.ipHeaderLen f + 8 ≤ Gateway.ipTotalLength f) :
    updateIcmp size f identifier =
      if 14 + Gateway.ipTotalLength f ≤ size then some (Gateway.updateIcmp f identifier)
      else none := by
  have h34 : 34 ≤ Gateway.l4 f := by unfold Gateway.l4; omega
  have hport : SameShape f (Gateway.wr16 f (Gateway.l4 f + 4) (utilHtons identifier)) :=
    SameShape.of_eq fun k hk => wr16_of_ne _ _ (by omega) (by omega)
  have hclear := sameShape_cleared f identifier (show 34 ≤ Gateway.l4 f + 4 by omega)
    (show 34 ≤ Gateway.l4 f + 2 by omega)
  simp (disch := omega) only [updateIcmp, l4_eq h, wr16_l4 h, ipTotalLength_eq h, ipHeaderLen_eq h,
    checksum16_eq, Option.bind_eq_bind, Option.bind_some, hport.l4]
  rw [show Gateway.wr16 (Gateway.wr16 f (Gateway.l4 f + 4) (utilHtons identifier))
    (Gateway.l4 f + 2) 0 = cleared f (Gateway.l4 f + 4) (Gateway.l4 f + 2) identifier from rfl,
    hclear.l4, hclear.ipTotalLength, hclear.ipHeaderLen, Gateway.updateIcmp_eq f identifier hl]
  simp only [message_fits_iff ht]
  split_ifs
  · rfl
  · rfl

/-- The TCP or UDP checksum is computed inside the object if the packet fits in it. -/
lemma updateTransport_eq (h : 96 ≤ size) {f : Frame} {portOffset : ℕ} (port : UInt16)
    (hp : portOffset ≤ 2) (hl : 20 ≤ Gateway.ipHeaderLen f)
    (ht : Gateway.ipHeaderLen f + 8 ≤ Gateway.ipTotalLength f) :
    updateTransport size f portOffset port =
      if 14 + Gateway.ipTotalLength f ≤ size then some (Gateway.updateTransport f portOffset port)
      else none := by
  have h34 : 34 ≤ Gateway.l4 f := by unfold Gateway.l4; omega
  have hcsum : checksumOffset (Gateway.ipProtocol f) ≤ 16 := by
    unfold checksumOffset
    split_ifs <;> omega
  have hport : SameShape f (Gateway.wr16 f (Gateway.l4 f + portOffset) (utilHtons port)) :=
    SameShape.of_eq fun k hk => wr16_of_ne _ _ (by omega) (by omega)
  have hclear := sameShape_cleared f port (show 34 ≤ Gateway.l4 f + portOffset by omega)
    (show 34 ≤ Gateway.l4 f + checksumOffset (Gateway.ipProtocol f) by omega)
  simp (disch := omega) only [updateTransport, l4_eq h, wr16_l4 h, ipTotalLength_eq h,
    ipHeaderLen_eq h, ipProtocol_eq h, tcpUdpChecksum_eq h, Option.bind_eq_bind, Option.bind_some,
    hport.l4]
  rw [show Gateway.wr16 (Gateway.wr16 f (Gateway.l4 f + portOffset) (utilHtons port))
    (Gateway.l4 f + checksumOffset (Gateway.ipProtocol f)) 0 = cleared f (Gateway.l4 f + portOffset)
      (Gateway.l4 f + checksumOffset (Gateway.ipProtocol f)) port from rfl,
    hclear.l4, hclear.ipTotalLength, hclear.ipHeaderLen, Gateway.updateTransport_eq f port hl]
  simp only [message_fits_iff ht]
  split_ifs
  · rfl
  · rfl

end Checked

/-! ## The translation blocks -/

/-- The inbound block finds a session, and forwards the packet to its host. -/
def ForwardsInbound (c : Proc) (length : ℕ) (protocol : UInt8) (wanPort srcPort : UInt16) : Prop :=
  ∃ i, natFindReverseEntry c.net.nat protocol wanPort (ipSrc c.frame) srcPort = some i ∧
    length ≤ virtioNetMaxFrameSize ∧ c.net.lanIf.dev.isSome ∧
    (arpCacheLookup c.net.nat (c.net.nat.natTable i).lanIp).isSome

/-- The outbound block finds a session or room for one, and forwards the packet. -/
def ForwardsOutbound (c : Proc) (length : ℕ) (protocol : UInt8) (lanPort dstPort : UInt16) : Prop :=
  ((natFindEntry c.net.nat protocol (ipSrc c.frame) lanPort (ipDst c.frame) dstPort).isSome ∨
      (natAllocEntry c.net.nat).isSome) ∧
    length ≤ virtioNetMaxFrameSize ∧ (arpCacheLookup c.net.nat (ipDst c.frame)).isSome

/-- The packet ends behind the RX buffer. -/
def TooLong (f : Frame) : Prop := rxFrameSize < 14 + ipTotalLength f

/-- The checked code leaves an object exactly if `bad`, and otherwise has the result `x`. -/
structure FailsIff {α : Type} (bad : Prop) (r : Option α) (x : α) : Prop where
  fails : bad → r = none
  agrees : ¬bad → r = some x

/-- A result that is there, where nothing is bad. -/
lemma FailsIff.of_eq {α : Type} {bad : Prop} {r : Option α} {x : α} (hbad : ¬bad) (h : r = some x) :
    FailsIff bad r x := ⟨fun hb => absurd hb hbad, fun _ => h⟩

/-- The same condition in other words. -/
lemma FailsIff.congr {α : Type} {bad bad' : Prop} {r : Option α} {x : α} (h : FailsIff bad r x)
    (hb : bad ↔ bad') : FailsIff bad' r x :=
  ⟨fun h' => h.fails (hb.mpr h'), fun h' => h.agrees fun h'' => h' (hb.mp h'')⟩

/-- The result is there exactly if nothing is bad. -/
lemma FailsIff.ne_none_iff {α : Type} {bad : Prop} {r : Option α} {x : α} (h : FailsIff bad r x) :
    r ≠ none ↔ ¬bad := by
  constructor
  · exact fun hr hb => hr (h.fails hb)
  · intro hb
    rw [h.agrees hb]
    simp

/-- A function of the result fails when the result does. -/
lemma FailsIff.map {α β : Type} {bad : Prop} {r : Option α} {x : α} (h : FailsIff bad r x)
    (g : α → β) : FailsIff bad (do return g (← r)) (g x) := by
  constructor
  · intro hb
    rw [h.fails hb]
    rfl
  · intro hb
    rw [h.agrees hb]
    rfl

/-- Two blocks in sequence. -/
lemma FailsIff.next {bad : Prop} {r : Option Flow} {x : Flow} {k : Proc → Option Flow}
    {l : Proc → Flow} (h : FailsIff bad r x) (later : Prop)
    (hk : x.2 = none → FailsIff later (k x.1) (l x.1)) :
    FailsIff (bad ∨ x.2 = none ∧ later) (Checked.next r k) (x.next l) := by
  have hrun : ¬bad → Checked.next r k = if x.2 = none then k x.1 else some x := by
    intro hb
    rw [h.agrees hb]
    rcases x with ⟨c, _ | v⟩ <;> rfl
  constructor
  · rintro (hb | ⟨hx, hl⟩)
    · rw [h.fails hb]
      rfl
    · by_cases hb : bad
      · rw [h.fails hb]
        rfl
      · rw [hrun hb, if_pos hx]
        exact (hk hx).fails hl
  · intro hno
    obtain ⟨hb, hl⟩ := not_or.mp hno
    rw [hrun hb]
    rcases x with ⟨c, _ | v⟩
    · exact (hk rfl).agrees fun hc => hl ⟨rfl, hc⟩
    · rfl

/-- A block that runs under a test. -/
lemma FailsIff.ite {p bad : Prop} [Decidable p] {r : Option Flow} {x : Flow} {c : Proc}
    {v : Option ℕ}
    (h : p → FailsIff bad r x) :
    FailsIff (p ∧ bad) (if p then r else some (c, v)) (if p then x else (c, v)) := by
  by_cases hp : p
  · rw [if_pos hp, if_pos hp]
    exact (h hp).congr ⟨fun hb => ⟨hp, hb⟩, And.right⟩
  · rw [if_neg hp, if_neg hp]
    exact .of_eq (fun hb => hp hb.1) rfl

/-- The Ethernet part of a block leaves the buffer only in the rewriting step. -/
lemma failsIff_forward (c : Proc) (out : IfId) (nextHop : Ip4) {miss : Proc → Proc}
    {cmiss : Proc → Option Proc} {rewrite : Frame → Frame} {crewrite : Frame → Option Frame}
    (hmiss : ∀ d, cmiss d = some (miss d))
    (hrw : ∀ m₁ m₂, FailsIff (TooLong c.frame) (crewrite (wrMac (wrMac c.frame 6 m₁) 0 m₂))
      (rewrite (wrMac (wrMac c.frame 6 m₁) 0 m₂))) :
    FailsIff ((arpCacheLookup c.net.nat nextHop).isSome ∧ TooLong c.frame)
      (Checked.forward c out nextHop cmiss crewrite) (forward c out nextHop miss rewrite) := by
  have hstore : ∀ f o mac, o ≤ 6 → Checked.wrMac rxFrameSize f o mac = some (wrMac f o mac) :=
    fun f o mac ho => Checked.access_of_le (by unfold rxFrameSize; omega)
  unfold Checked.forward forward
  rw [Checked.ipTotalLength_eq rxFrameSize_ge]
  simp only [Option.bind_eq_bind, Option.bind_some, hstore _ _ _ (le_refl 6)]
  cases h : arpCacheLookup c.net.nat nextHop with
  | none =>
    refine .of_eq (by simp) ?_
    simp [hmiss]
  | some mac =>
    simp only [hstore _ _ _ (Nat.zero_le 6), Option.bind_some]
    exact ((hrw _ mac).map _).congr (by simp)

/-- An inbound block leaves the buffer if it forwards a packet that is too long. -/
lemma failsIff_natInbound (c : Proc) (now : UInt32) (length : ℕ) (protocol : UInt8)
    (wanPort srcPort : UInt16) {rewrite : Ip4 → UInt16 → Frame → Frame}
    {crewrite : Ip4 → UInt16 → Frame → Option Frame}
    (hrw : ∀ ip port m₁ m₂, FailsIff (TooLong c.frame)
      (crewrite ip port (wrMac (wrMac c.frame 6 m₁) 0 m₂))
      (rewrite ip port (wrMac (wrMac c.frame 6 m₁) 0 m₂))) :
    FailsIff (ForwardsInbound c length protocol wanPort srcPort ∧ TooLong c.frame)
      (Checked.natInbound c now length protocol wanPort srcPort crewrite)
      (natInbound c now length protocol wanPort srcPort rewrite) := by
  have hcases := natTranslateInbound_cases c.net.nat now protocol wanPort (ipSrc c.frame) srcPort
  unfold Checked.natInbound natInbound ForwardsInbound
  rw [Checked.ipSrc_eq rxFrameSize_ge]
  simp only [Option.bind_eq_bind, Option.bind_some] at hcases ⊢
  generalize natTranslateInbound c.net.nat now protocol wanPort (ipSrc c.frame) srcPort = r
    at hcases ⊢
  obtain ⟨nat', ret⟩ := r
  rcases hcases with ⟨hnone, -, -, rfl⟩ | ⟨i, hi, -, href, -, rfl⟩
  · exact .of_eq (by simp [hnone]) rfl
  · set e := c.net.nat.natTable i with he
    have hfwd : FailsIff ((arpCacheLookup nat' e.lanIp).isSome ∧ TooLong c.frame)
        (Checked.forward ⟨{ c.net with nat := nat' }, c.frame, c.log⟩ .lan e.lanIp some
          (crewrite e.lanIp e.lanPort))
        (forward ⟨{ c.net with nat := nat' }, c.frame, c.log⟩ .lan e.lanIp (fun c => c)
          (rewrite e.lanIp e.lanPort)) :=
      failsIff_forward ⟨{ c.net with nat := nat' }, c.frame, c.log⟩ .lan e.lanIp (fun _ => rfl)
        (hrw e.lanIp e.lanPort)
    refine FailsIff.congr (FailsIff.ite fun _ => hfwd) ?_
    simp only [hi, Option.some.injEq, exists_eq_left', ← he, arpCacheLookup_congr href.arp]
    tauto

/-- An outbound block leaves the buffer if it forwards a packet that is too long.

**Proof sketch.** By the result of `nat_translate_outbound`, which is a port exactly if there is an
entry or room for one; with a port the block goes on as `failsIff_forward` says. -/
lemma failsIff_natOutbound (c : Proc) (now : UInt32) (length : ℕ) (protocol : UInt8)
    (lanPort dstPort : UInt16) {miss : Proc → Proc} {cmiss : Proc → Option Proc}
    {rewrite : UInt16 → Frame → Frame} {crewrite : UInt16 → Frame → Option Frame}
    (hmiss : ∀ d, cmiss d = some (miss d))
    (hrw : ∀ port m₁ m₂, FailsIff (TooLong c.frame)
      (crewrite port (wrMac (wrMac c.frame 6 m₁) 0 m₂))
      (rewrite port (wrMac (wrMac c.frame 6 m₁) 0 m₂))) :
    FailsIff (ForwardsOutbound c length protocol lanPort dstPort ∧ TooLong c.frame)
      (Checked.natOutbound c now length protocol lanPort dstPort cmiss crewrite)
      (natOutbound c now length protocol lanPort dstPort miss rewrite) := by
  have hcases := natTranslateOutbound_cases c.net.nat now protocol (ipSrc c.frame) lanPort
    (ipDst c.frame) dstPort
  have harp := natTranslateOutbound_arp c.net.nat now protocol (ipSrc c.frame) lanPort
    (ipDst c.frame) dstPort
  unfold Checked.natOutbound natOutbound ForwardsOutbound
  rw [Checked.ipSrc_eq rxFrameSize_ge, Checked.ipDst_eq rxFrameSize_ge]
  simp only [Option.bind_eq_bind, Option.bind_some] at hcases harp ⊢
  generalize natTranslateOutbound c.net.nat now protocol (ipSrc c.frame) lanPort (ipDst c.frame)
    dstPort = r at hcases harp ⊢
  obtain ⟨nat', ret⟩ := r
  have hsome : ∀ p, ret = some p →
      (natFindEntry c.net.nat protocol (ipSrc c.frame) lanPort (ipDst c.frame) dstPort).isSome ∨
        (natAllocEntry c.net.nat).isSome := by
    rintro p rfl
    rcases hcases with ⟨i, hi, -⟩ | ⟨-, -, -, -, h⟩ | ⟨-, i, hi, -⟩
    · simp [hi]
    · cases h
    · simp [hi]
  cases ret with
  | none =>
    refine .of_eq ?_ rfl
    rcases hcases with ⟨i, -, -, -, -, h⟩ | ⟨hnone, hfull, -⟩ | ⟨-, i, -, -, h⟩
    · cases h
    · simp [hnone, hfull]
    · cases h
  | some p =>
    have hp := hsome p rfl
    set d : Proc := ⟨{ c.net with nat := nat' }, c.frame, c.log ++ [.assigned protocol
      (ipSrc c.frame) lanPort (ipDst c.frame) dstPort p]⟩ with hd
    have hfwd : FailsIff ((arpCacheLookup nat' (ipDst c.frame)).isSome ∧ TooLong c.frame)
        (Checked.forward d .wan (ipDst c.frame) cmiss (crewrite p))
        (forward d .wan (ipDst c.frame) miss (rewrite p)) :=
      failsIff_forward d .wan (ipDst c.frame) hmiss (hrw p)
    refine FailsIff.congr (FailsIff.ite fun _ => hfwd) ?_
    rw [arpCacheLookup_congr harp]
    constructor
    · rintro ⟨h₁, h₂, h₃⟩
      exact ⟨⟨hp, h₁, h₂⟩, h₃⟩
    · rintro ⟨⟨_, h₁, h₂⟩, h₃⟩
      exact ⟨h₁, h₂, h₃⟩

/-! ## The blocks of the packet's protocol -/

/-- A rewriting step that starts with the IP header, on a frame with other Ethernet addresses. -/
lemma failsIff_rewrite {f : Frame} {addr : ℕ} (ha : 26 ≤ addr) (ha' : addr + 4 ≤ 34) (ip : Ip4)
    (rewrite : Frame → Frame) {crewrite : Frame → Option Frame}
    (hrw : ∀ g, SameShape f g →
      crewrite g = if 14 + ipTotalLength g ≤ rxFrameSize then some (rewrite g) else none)
    (m₁ m₂ : Mac) :
    FailsIff (TooLong f)
      ((Checked.updateIpHeader rxFrameSize (wrMac (wrMac f 6 m₁) 0 m₂) addr ip).bind crewrite)
      (rewrite (updateIpHeader (wrMac (wrMac f 6 m₁) 0 m₂) addr ip)) := by
  have hmac : SameShape f (wrMac (wrMac f 6 m₁) 0 m₂) := sameShape_of_agree fun k hk => by
    rw [wrMac_of_ne _ _ (by omega), wrMac_of_ne _ _ (by omega)]
  have hshape := hmac.trans (sameShape_updateIpHeader _ ip ha)
  rw [Checked.updateIpHeader_eq rxFrameSize_ge _ ha' ip, Option.bind_some, hrw _ hshape,
    hshape.ipTotalLength]
  unfold TooLong
  exact ⟨fun h => if_neg (by omega), fun h => if_pos (by omega)⟩

/-- An ICMP message that is too long. -/
lemma failsIff_icmp {f : Frame} {addr : ℕ} (ha : 26 ≤ addr) (ha' : addr + 4 ≤ 34)
    (hl : 20 ≤ ipHeaderLen f) (ht : ipHeaderLen f + 8 ≤ ipTotalLength f) (ip : Ip4)
    (identifier : UInt16) (m₁ m₂ : Mac) :
    FailsIff (TooLong f)
      ((Checked.updateIpHeader rxFrameSize (wrMac (wrMac f 6 m₁) 0 m₂) addr ip).bind fun g =>
        Checked.updateIcmp rxFrameSize g identifier)
      (updateIcmp (updateIpHeader (wrMac (wrMac f 6 m₁) 0 m₂) addr ip) identifier) := by
  refine failsIff_rewrite ha ha' ip (fun g => updateIcmp g identifier) ?_ m₁ m₂
  intro g hg
  refine Checked.updateIcmp_eq rxFrameSize_ge identifier ?_ ?_
  · rw [hg.ipHeaderLen]
    exact hl
  · rw [hg.ipHeaderLen, hg.ipTotalLength]
    exact ht

/-- A TCP or UDP packet that is too long. -/
lemma failsIff_transport {f : Frame} {addr portOffset : ℕ} (ha : 26 ≤ addr) (ha' : addr + 4 ≤ 34)
    (hp : portOffset ≤ 2) (hl : 20 ≤ ipHeaderLen f) (ht : ipHeaderLen f + 8 ≤ ipTotalLength f)
    (ip : Ip4) (port : UInt16) (m₁ m₂ : Mac) :
    FailsIff (TooLong f)
      ((Checked.updateIpHeader rxFrameSize (wrMac (wrMac f 6 m₁) 0 m₂) addr ip).bind fun g =>
        Checked.updateTransport rxFrameSize g portOffset port)
      (updateTransport (updateIpHeader (wrMac (wrMac f 6 m₁) 0 m₂) addr ip) portOffset port) := by
  refine failsIff_rewrite ha ha' ip (fun g => updateTransport g portOffset port) ?_ m₁ m₂
  intro g hg
  refine Checked.updateTransport_eq rxFrameSize_ge port hp ?_ ?_
  · rw [hg.ipHeaderLen]
    exact hl
  · rw [hg.ipHeaderLen, hg.ipTotalLength]
    exact ht

/-- The inbound block for ICMP. -/
lemma failsIff_natInboundIcmp (env : Env) (k : ℕ) {c : Proc} (length : ℕ)
    (hl : 20 ≤ ipHeaderLen c.frame) (ht : ipHeaderLen c.frame + 8 ≤ ipTotalLength c.frame) :
    FailsIff (ForwardsInbound c length natProtoIcmp (icmpIdentifier c.frame) 0 ∧ TooLong c.frame)
      (Checked.natInboundIcmp env k c length) (natInboundIcmp env k c length) := by
  unfold Checked.natInboundIcmp
  rw [Checked.icmpIdentifier_eq rxFrameSize_ge]
  exact failsIff_natInbound c (env.tick k) length natProtoIcmp (icmpIdentifier c.frame) 0
    fun ip port m₁ m₂ => failsIff_icmp (by omega) (by omega) hl ht ip port m₁ m₂

/-- The inbound block for TCP and UDP. -/
lemma failsIff_natInboundTransport (env : Env) (k : ℕ) {c : Proc} (length : ℕ)
    (hp : ipProtocol c.frame = 6 ∨ ipProtocol c.frame = 17)
    (hl : 20 ≤ ipHeaderLen c.frame) (ht : ipHeaderLen c.frame + 8 ≤ ipTotalLength c.frame) :
    FailsIff (ForwardsInbound c length (ipProtocol c.frame) (dstPort c.frame) (srcPort c.frame) ∧
        TooLong c.frame)
      (Checked.natInboundTransport env k c length) (natInboundTransport env k c length) := by
  unfold Checked.natInboundTransport natInboundTransport
  rw [Checked.dstPort_eq rxFrameSize_ge, Checked.srcPort_eq rxFrameSize_ge,
    Checked.ipProtocol_eq rxFrameSize_ge]
  simp only [Option.bind_eq_bind, Option.bind_some]
  rw [natProto_eq hp]
  exact failsIff_natInbound c (env.tick k) length (ipProtocol c.frame) (dstPort c.frame)
    (srcPort c.frame) fun ip port m₁ m₂ =>
      failsIff_transport (by omega) (by omega) (by omega) hl ht ip port m₁ m₂

/-- The outbound block for ICMP. -/
lemma failsIff_natOutboundIcmp (env : Env) {c : Proc} (length : ℕ)
    (hl : 20 ≤ ipHeaderLen c.frame) (ht : ipHeaderLen c.frame + 8 ≤ ipTotalLength c.frame) :
    FailsIff (ForwardsOutbound c length natProtoIcmp (icmpIdentifier c.frame) 0 ∧ TooLong c.frame)
      (Checked.natOutboundIcmp env c length) (natOutboundIcmp env c length) := by
  unfold Checked.natOutboundIcmp
  rw [Checked.icmpIdentifier_eq rxFrameSize_ge]
  exact failsIff_natOutbound c (env.tick 1) length natProtoIcmp (icmpIdentifier c.frame) 0
    (fun _ => rfl) fun port m₁ m₂ =>
      failsIff_icmp (by omega) (by omega) hl ht c.net.wanIf.localIp port m₁ m₂

/-- The outbound block for TCP and UDP. -/
lemma failsIff_natOutboundTransport (env : Env) {c : Proc} (length : ℕ)
    (hp : ipProtocol c.frame = 6 ∨ ipProtocol c.frame = 17)
    (hl : 20 ≤ ipHeaderLen c.frame) (ht : ipHeaderLen c.frame + 8 ≤ ipTotalLength c.frame) :
    FailsIff (ForwardsOutbound c length (ipProtocol c.frame) (srcPort c.frame) (dstPort c.frame) ∧
        TooLong c.frame)
      (Checked.natOutboundTransport env c length) (natOutboundTransport env c length) := by
  have hmiss : ∀ d : Proc, Checked.sendArpRequestForIp d .wan =
      some (sendArpRequestForIp d .wan (ipDst d.frame)) := by
    intro d
    unfold Checked.sendArpRequestForIp
    rw [Checked.ipDst_eq rxFrameSize_ge]
    rfl
  unfold Checked.natOutboundTransport natOutboundTransport
  rw [Checked.dstPort_eq rxFrameSize_ge, Checked.srcPort_eq rxFrameSize_ge,
    Checked.ipProtocol_eq rxFrameSize_ge]
  simp only [Option.bind_eq_bind, Option.bind_some]
  rw [natProto_eq hp]
  exact failsIff_natOutbound c (env.tick 1) length (ipProtocol c.frame) (srcPort c.frame)
    (dstPort c.frame) hmiss fun port m₁ m₂ =>
      failsIff_transport (by omega) (by omega) (by omega) hl ht c.net.wanIf.localIp port m₁ m₂

/-! ## Echo replies -/

/-- The reply to the echo request in the local frame, before its ICMP checksum is computed. -/
def echoCleared (f : Frame) (mac : Mac) : Frame :=
  let headerLen := ipHeaderLen f
  let src := ipSrc f
  let dst := ipDst f
  let f := wrMac (wrMac f 0 (ethSrc f)) 6 mac
  let f := wrIp (wrIp f 26 dst) 30 src
  let f := wr16 (wr8 f 22 64) 24 0
  let f := wr16 f 24 (utilHtons (checksum16 f 14 headerLen))
  let f := wr8 (wr8 f (14 + headerLen) 0) (14 + headerLen + 1) 0
  wr16 f (14 + headerLen + 2) 0

/-- The bytes that `send_icmp_echo_reply` copies. -/
def echoCopy (env : Env) (f : Frame) (length : ℕ) : Frame :=
  fun k => if k < min length virtioNetMaxFrameSize then f k else env.stack k

/-- Everything before the ICMP checksum stays inside the objects. -/
lemma checked_sendIcmpEchoReply (env : Env) (c : Proc) (id : IfId) (length : ℕ) :
    let f := echoCopy env c.frame length
    Checked.sendIcmpEchoReply env c id length =
      if ipTotalLength f < ipHeaderLen f + 8 then some c
      else
        let g := echoCleared f (c.net.iface id).mac
        (Checked.checksum16 virtioNetMaxFrameSize g (14 + ipHeaderLen f)
          (ipTotalLength f - ipHeaderLen f)).bind fun sum =>
            some (sendFrame c id (wr16 g (14 + ipHeaderLen f + 2) (utilHtons sum))
              (14 + ipTotalLength f)) := by
  intro f
  have hrx : rxFrameSize = 2036 := rfl
  have hmax : virtioNetMaxFrameSize = 1518 := rfl
  have h96 : 96 ≤ virtioNetMaxFrameSize := by decide
  have hle := ipHeaderLen_le f
  unfold Checked.sendIcmpEchoReply
  show (Checked.access rxFrameSize 0 (min length virtioNetMaxFrameSize) c.frame >>= _) = _
  rw [Checked.bind_access (by omega), Checked.bind_access (by omega),
    show (fun k => if k < min length virtioNetMaxFrameSize then c.frame k else env.stack k) = f
      from rfl, Checked.bind_of_eq (Checked.ipHeaderLen_eq h96 f),
    Checked.bind_of_eq (Checked.ipTotalLength_eq h96 f)]
  split_ifs
  · rfl
  · show (Checked.ipSrc virtioNetMaxFrameSize f >>= _) = _
    unfold Checked.wrMac Checked.wrIp Checked.wr8 Checked.wr16
    rw [Checked.bind_of_eq (Checked.ipSrc_eq h96 f), Checked.bind_of_eq (Checked.ipDst_eq h96 f),
      Checked.bind_of_eq (Checked.ethSrc_eq h96 f), Checked.bind_access (by omega),
      Checked.bind_access (by omega), Checked.bind_access (by omega),
      Checked.bind_access (by omega), Checked.bind_access (by omega),
      Checked.bind_access (by omega), Checked.checksum16_eq, if_pos (by omega),
      Checked.bind_of_eq rfl, Checked.bind_access (by omega), Checked.bind_access (by omega),
      Checked.bind_access (by omega), Checked.bind_access (by omega)]
    refine congrArg (Option.bind _) (funext fun sum => ?_)
    exact Checked.bind_access (by omega)

/-- The reply leaves the local frame if the packet does not fit in it. -/
lemma failsIff_sendIcmpEchoReply (env : Env) {c : Proc} (id : IfId)
    (ht : ipHeaderLen c.frame + 8 ≤ ipTotalLength c.frame) :
    FailsIff (virtioNetMaxFrameSize < 14 + ipTotalLength c.frame)
      (Checked.sendIcmpEchoReply env c id (14 + ipTotalLength c.frame))
      (sendIcmpEchoReply env c id (14 + ipTotalLength c.frame)) := by
  have hmax : virtioNetMaxFrameSize = 1518 := rfl
  have hhl : ipHeaderLen (echoCopy env c.frame (14 + ipTotalLength c.frame)) =
      ipHeaderLen c.frame := by
    unfold ipHeaderLen ipIhl echoCopy
    rw [if_pos (by omega)]
  have htl : ipTotalLength (echoCopy env c.frame (14 + ipTotalLength c.frame)) =
      ipTotalLength c.frame := ipTotalLength_copy c.frame env.stack (by omega)
  have hun : sendIcmpEchoReply env c id (14 + ipTotalLength c.frame) =
      let f := echoCopy env c.frame (14 + ipTotalLength c.frame)
      if ipTotalLength f < ipHeaderLen f + 8 then c
      else
        let g := echoCleared f (c.net.iface id).mac
        sendFrame c id (wr16 g (14 + ipHeaderLen f + 2) (utilHtons (checksum16 g
          (14 + ipHeaderLen f) (ipTotalLength f - ipHeaderLen f)))) (14 + ipTotalLength f) := rfl
  rw [checked_sendIcmpEchoReply, hun]
  simp only
  rw [hhl, htl, if_neg (by omega), if_neg (by omega), Checked.checksum16_eq]
  constructor
  · intro hlong
    rw [if_neg (by omega)]
    rfl
  · intro hfits
    rw [if_pos (by omega)]
    rfl

/-! ## The sections -/

/-- The first section leaves an object in an inbound block or in an echo reply. -/
lemma failsIff_wanIcmpSection (env : Env) {c : Proc} (id : IfId) (length : ℕ)
    (hl : 20 ≤ ipHeaderLen c.frame) :
    FailsIff ((natIsWanIp c.net.nat.natCfg (ipDst c.frame) = true ∧ id = .wan ∧
        ipProtocol c.frame = 1) ∧ ipTotalLength c.frame ≥ ipHeaderLen c.frame + 8 ∧
        (icmpType c.frame = 0 ∧ ForwardsInbound c length natProtoIcmp (icmpIdentifier c.frame) 0 ∧
            TooLong c.frame ∨
          icmpType c.frame = 8 ∧ virtioNetMaxFrameSize < 14 + ipTotalLength c.frame))
      (Checked.wanIcmpSection env c id length) (wanIcmpSection env c id length) := by
  unfold Checked.wanIcmpSection wanIcmpSection
  rw [Checked.bind_of_eq (Checked.ipDst_eq rxFrameSize_ge _),
    Checked.bind_of_eq (Checked.ipProtocol_eq rxFrameSize_ge _)]
  refine FailsIff.ite fun _ => ?_
  rw [Checked.bind_of_eq (Checked.ipTotalLength_eq rxFrameSize_ge _),
    Checked.bind_of_eq (Checked.ipHeaderLen_eq rxFrameSize_ge _)]
  refine FailsIff.ite fun ht => ?_
  rw [Checked.bind_of_eq (Checked.icmpType_eq rxFrameSize_ge _)]
  by_cases h0 : icmpType c.frame = 0
  · rw [if_pos h0, if_pos h0]
    refine (failsIff_natInboundIcmp env 1 length hl ht).congr ?_
    simp [h0]
  · rw [if_neg h0, if_neg h0]
    refine FailsIff.congr (FailsIff.ite fun _ =>
      (failsIff_sendIcmpEchoReply env id ht).map fun d => (d, some 1)) ?_
    simp [h0]

/-- The second section leaves the buffer in an inbound block. -/
lemma failsIff_wanTransportSection (env : Env) {c : Proc} (id : IfId) (length : ℕ)
    (hl : 20 ≤ ipHeaderLen c.frame) :
    FailsIff ((natIsWanIp c.net.nat.natCfg (ipDst c.frame) = true ∧ id = .wan ∧
        (ipProtocol c.frame = 6 ∨ ipProtocol c.frame = 17)) ∧
        ipTotalLength c.frame ≥ ipHeaderLen c.frame + minTransportLen (ipProtocol c.frame) ∧
        ForwardsInbound c length (ipProtocol c.frame) (dstPort c.frame) (srcPort c.frame) ∧
        TooLong c.frame)
      (Checked.wanTransportSection env c id length) (wanTransportSection env c id length) := by
  unfold Checked.wanTransportSection wanTransportSection
  rw [Checked.bind_of_eq (Checked.ipDst_eq rxFrameSize_ge _),
    Checked.bind_of_eq (Checked.ipProtocol_eq rxFrameSize_ge _)]
  refine FailsIff.ite fun hp => ?_
  rw [Checked.bind_of_eq (Checked.ipTotalLength_eq rxFrameSize_ge _),
    Checked.bind_of_eq (Checked.ipHeaderLen_eq rxFrameSize_ge _)]
  refine FailsIff.ite fun ht => failsIff_natInboundTransport env 1 length hp.2.2 hl ?_
  have hmin := minTransportLen_ge (ipProtocol c.frame)
  omega

/-- The section for packets to the gateway leaves the local frame in an echo reply. -/
lemma failsIff_localSection (env : Env) (c : Proc) (id : IfId) :
    FailsIff (¬ipTotalLength c.frame < ipHeaderLen c.frame + 8 ∧ ipProtocol c.frame = 1 ∧
        icmpType c.frame = 8 ∧ virtioNetMaxFrameSize < 14 + ipTotalLength c.frame)
      (Checked.localSection env c id) (localSection env c id) := by
  unfold Checked.localSection localSection
  rw [Checked.bind_of_eq (Checked.ipTotalLength_eq rxFrameSize_ge _),
    Checked.bind_of_eq (Checked.ipHeaderLen_eq rxFrameSize_ge _)]
  simp only
  by_cases hlt : ipTotalLength c.frame < ipHeaderLen c.frame + 8
  · rw [if_pos hlt, if_pos hlt]
    exact .of_eq (fun h => h.1 hlt) rfl
  · rw [if_neg hlt, if_neg hlt, Checked.bind_of_eq (Checked.ipProtocol_eq rxFrameSize_ge _)]
    refine (show FailsIff (ipProtocol c.frame = 1 ∧
      (ipTotalLength c.frame - ipHeaderLen c.frame ≥ 8 ∧ icmpType c.frame = 8) ∧
      virtioNetMaxFrameSize < 14 + ipTotalLength c.frame) _ _ from FailsIff.ite fun _ => ?_).congr
        ?_
    · rw [Checked.bind_of_eq (Checked.icmpType_eq rxFrameSize_ge _)]
      exact FailsIff.ite fun _ =>
        (failsIff_sendIcmpEchoReply env id (by omega)).map fun d => (d, some 1)
    · have hroom : ipTotalLength c.frame - ipHeaderLen c.frame ≥ 8 := by omega
      simp [hlt, hroom]

/-- The section for packets from the LAN leaves the buffer in an outbound block. -/
lemma failsIff_lanSection (env : Env) {c : Proc} (id : IfId) (length : ℕ)
    (hl : 20 ≤ ipHeaderLen c.frame) :
    FailsIff ((natIsLanIp c.net.nat.natCfg (ipSrc c.frame) = true ∧ id = .lan) ∧
        c.net.wanIf.dev.isSome = true ∧ HasTransport c.frame ∧
        (ipProtocol c.frame = 1 → icmpType c.frame = 8) ∧
        ForwardsOutbound c length (ipProtocol c.frame) (outPort c.frame) (outDstPort c.frame) ∧
        TooLong c.frame)
      (Checked.lanSection env c id length) (lanSection env c id length) := by
  unfold Checked.lanSection lanSection
  rw [Checked.bind_of_eq (Checked.ipSrc_eq rxFrameSize_ge _),
    Checked.bind_of_eq (Checked.ipProtocol_eq rxFrameSize_ge _)]
  refine FailsIff.ite fun _ => ?_
  by_cases h1 : ipProtocol c.frame = 1
  · by_cases hdev : c.net.wanIf.dev.isSome = true
    · rw [if_pos ⟨h1, hdev⟩, if_pos ⟨h1, hdev⟩,
        Checked.bind_of_eq (Checked.ipTotalLength_eq rxFrameSize_ge _),
        Checked.bind_of_eq (Checked.ipHeaderLen_eq rxFrameSize_ge _)]
      refine (show FailsIff (ipTotalLength c.frame ≥ ipHeaderLen c.frame + 8 ∧
        icmpType c.frame = 8 ∧
          ForwardsOutbound c length natProtoIcmp (icmpIdentifier c.frame) 0 ∧ TooLong c.frame) _ _
        from FailsIff.ite fun ht => ?_).congr ?_
      · rw [Checked.bind_of_eq (Checked.icmpType_eq rxFrameSize_ge _)]
        exact FailsIff.ite fun _ => failsIff_natOutboundIcmp env length hl ht
      · simp [HasTransport, outPort, outDstPort, h1, hdev, minTransportLen, natProtoIcmp]
    · rw [if_neg fun h => hdev h.2, if_neg fun h => hdev h.2, if_neg fun h => hdev h.2,
        if_neg fun h => hdev h.2]
      exact .of_eq (fun h => hdev h.1) rfl
  · have hno : ¬(ipProtocol c.frame = 1 ∧ c.net.wanIf.dev.isSome = true) := fun h => h1 h.1
    rw [if_neg hno, if_neg hno]
    refine (show FailsIff (((ipProtocol c.frame = 6 ∨ ipProtocol c.frame = 17) ∧
      c.net.wanIf.dev.isSome = true) ∧
      ipTotalLength c.frame ≥ ipHeaderLen c.frame + minTransportLen (ipProtocol c.frame) ∧
      ForwardsOutbound c length (ipProtocol c.frame) (srcPort c.frame) (dstPort c.frame) ∧
        TooLong c.frame) _ _ from FailsIff.ite fun hp => ?_).congr ?_
    · rw [Checked.bind_of_eq (Checked.ipTotalLength_eq rxFrameSize_ge _),
        Checked.bind_of_eq (Checked.ipHeaderLen_eq rxFrameSize_ge _)]
      refine FailsIff.ite fun ht => failsIff_natOutboundTransport env length hp.1 hl ?_
      have hmin := minTransportLen_ge (ipProtocol c.frame)
      omega
    · simp only [HasTransport, outPort, outDstPort, h1, if_false, false_or, false_implies, true_and]
      tauto

/-- The last section stays inside for a packet that is not for the WAN address. -/
lemma checked_wanLateSection (env : Env) {c : Proc} (id : IfId) (length : ℕ)
    (h : ¬(natIsWanIp c.net.nat.natCfg (ipDst c.frame) = true ∧ id = .wan)) :
    Checked.wanLateSection env c id length = some (wanLateSection env c id length) := by
  unfold Checked.wanLateSection wanLateSection
  rw [Checked.bind_of_eq (Checked.ipDst_eq rxFrameSize_ge _),
    Checked.bind_of_eq (Checked.ipProtocol_eq rxFrameSize_ge _), if_neg fun h' => h ⟨h'.1, h'.2.1⟩,
    if_neg fun h' => h ⟨h'.1, h'.2.1⟩]
  rfl

/-! ## The whole function -/

/-- The accesses of the code that runs for a verdict leave their object. -/
def Verdict.Overruns (c : Proc) (length : ℕ) : Verdict → Prop
  | .drop => False
  | .echo => virtioNetMaxFrameSize < 14 + ipTotalLength c.frame
  | .inbound => TooLong c.frame ∧
      ForwardsInbound c length (ipProtocol c.frame) (inPort c.frame) (inSrcPort c.frame)
  | .outbound => TooLong c.frame ∧ c.net.wanIf.dev.isSome = true ∧
      ForwardsOutbound c length (ipProtocol c.frame) (outPort c.frame) (outDstPort c.frame)

/-- The condition under which an access leaves its object: the packet is an echo request that is
answered and does not fit in the local frame, or it is forwarded and does not fit in the RX
buffer. -/
def Overruns (env : Env) (s : NetState) (id : IfId) (f : Frame) (length : ℕ) : Prop :=
  IsIpv4 f length ∧ (verdict id f).Overruns (learnt env s f) length

/-- The ARP branch stays inside the buffer. -/
lemma checked_processArp (env : Env) (c : Proc) (id : IfId) (length : ℕ) :
    Checked.processArp env c id length = some (processArp env c id length) := by
  unfold Checked.processArp processArp
  by_cases hlen : length < 42
  · rw [if_pos hlen, if_pos hlen]
  · rw [if_neg hlen, if_neg hlen]
    unfold Checked.rd16 Checked.rdMac Checked.rdIp
    rw [Checked.bind_access (by decide), Checked.bind_access (by decide),
      Checked.bind_access (by decide), Checked.bind_access (by decide)]
    unfold Checked.sendArpReply Checked.rdMac Checked.rdIp
    rw [Checked.ethSrc_eq rxFrameSize_ge, Checked.access_of_le (by decide),
      Checked.access_of_le (by decide)]
    simp only
    split_ifs
    · rfl
    · cases id <;> rfl
    · rfl

/-- What follows the first two sections stays inside, for a packet from the WAN that is not an echo
request for the gateway. -/
lemma failsIff_wanRest (env : Env) {c : Proc} (length : ℕ) (hc : Configured c.net)
    (hl : 20 ≤ ipHeaderLen c.frame)
    (h : ipDst c.frame = natCfgInit.wanIp → ipProtocol c.frame = 1 → HasTransport c.frame →
      icmpType c.frame ≠ 8) :
    FailsIff False
      (do if (← Checked.isForUs c .wan) then Checked.localSection env c .wan
          else Checked.next (Checked.lanSection env c .wan length) fun c =>
            Checked.wanLateSection env c .wan length)
      (if isForUs c .wan then localSection env c .wan
        else (lanSection env c .wan length).next fun c => wanLateSection env c .wan length) := by
  have hus : Checked.isForUs c .wan = some (isForUs c .wan) := by
    unfold Checked.isForUs
    rw [Checked.ipDst_eq rxFrameSize_ge]
    rfl
  rw [Checked.bind_of_eq hus]
  cases hfor : isForUs c .wan with
  | true =>
    refine (failsIff_localSection env c .wan).congr ?_
    rw [iff_false]
    rintro ⟨hlen, h1, h8, -⟩
    exact h ((isForUs_wan hc).mp hfor) h1 ((hasTransport_icmp_iff h1).mp (by omega)) h8
  | false =>
    rw [if_neg (by simp), if_neg (by simp)]
    refine FailsIff.congr ((failsIff_lanSection env .wan length hl).next False
      fun _ => ?_) (by simp)
    rw [lanSection_wan]
    refine .of_eq not_false (checked_wanLateSection env .wan length ?_)
    rintro ⟨hwan, -⟩
    rw [natIsWanIp, ipEqual_iff, hc.cfg] at hwan
    rw [(isForUs_wan hc).mpr hwan] at hfor
    cases hfor

/-- What follows the first section leaves the buffer in an inbound block. -/
lemma failsIff_wanAfterIcmp (env : Env) {c : Proc} (length : ℕ) (hc : Configured c.net)
    (hl : 20 ≤ ipHeaderLen c.frame)
    (h : ipDst c.frame = natCfgInit.wanIp → ipProtocol c.frame = 1 → HasTransport c.frame →
      icmpType c.frame ≠ 8) :
    FailsIff (ipDst c.frame = natCfgInit.wanIp ∧ ipProtocol c.frame ≠ 1 ∧ HasTransport c.frame ∧
        TooLong c.frame ∧
        ForwardsInbound c length (ipProtocol c.frame) (inPort c.frame) (inSrcPort c.frame))
      (Checked.next (Checked.wanTransportSection env c .wan length) fun c => do
        if (← Checked.isForUs c .wan) then Checked.localSection env c .wan
        else Checked.next (Checked.lanSection env c .wan length) fun c =>
          Checked.wanLateSection env c .wan length)
      ((wanTransportSection env c .wan length).next fun c =>
        if isForUs c .wan then localSection env c .wan
        else (lanSection env c .wan length).next fun c => wanLateSection env c .wan length) := by
  have hrest : (wanTransportSection env c .wan length).2 = none →
      (wanTransportSection env c .wan length).1.frame = c.frame := by
    intro hnone
    rw [wanTransportSection_eq env length hc] at hnone ⊢
    split_ifs at hnone ⊢
    · exact natInbound_frame hnone
    · rfl
  refine ((failsIff_wanTransportSection env .wan length hl).next False ?_).congr ?_
  · intro hnone
    have hframe := hrest hnone
    refine failsIff_wanRest env length
      (hc.of_sameConfig (effect_wanTransportSection env c length hl).config) ?_ ?_
    · rw [hframe]
      exact hl
    · rw [hframe]
      exact h
  · rw [natIsWanIp, ipEqual_iff, hc.cfg]
    unfold HasTransport inPort inSrcPort
    by_cases h1 : ipProtocol c.frame = 1
    · simp [h1]
    · simp only [h1, if_false, ne_eq, not_false_eq_true, true_and, false_or, and_false, or_false,
        ge_iff_le]
      tauto

/-- **The IPv4 branch for a packet from the WAN** leaves its objects exactly if its verdict does.

**Proof sketch.** The sections one after the other: a packet that the first two let through has the
frame it was received with, and the verdict says which section ends the run. -/
lemma failsIff_wanSections (env : Env) {d : Proc} (length : ℕ) (hc : Configured d.net)
    (hl : 20 ≤ ipHeaderLen d.frame) :
    FailsIff ((verdict .wan d.frame).Overruns d length)
      (Checked.next (Checked.wanIcmpSection env d .wan length) fun c =>
        Checked.next (Checked.wanTransportSection env c .wan length) fun c => do
          if (← Checked.isForUs c .wan) then Checked.localSection env c .wan
          else Checked.next (Checked.lanSection env c .wan length) fun c =>
            Checked.wanLateSection env c .wan length)
      ((wanIcmpSection env d .wan length).next fun c =>
        (wanTransportSection env c .wan length).next fun c =>
          if isForUs c .wan then localSection env c .wan
          else (lanSection env c .wan length).next fun c => wanLateSection env c .wan length) := by
  have hecho : (wanIcmpSection env d .wan length).2 = none → ipDst d.frame = natCfgInit.wanIp →
      ipProtocol d.frame = 1 → HasTransport d.frame → icmpType d.frame ≠ 8 := by
    intro hnone hdst h1 ht h8
    rw [wanIcmpSection_eq env length hc, if_pos ⟨hdst, h1, ht⟩, if_neg (by rw [h8]; decide),
      if_pos h8] at hnone
    cases hnone
  have hframe : (wanIcmpSection env d .wan length).2 = none →
      (wanIcmpSection env d .wan length).1.frame = d.frame := wanIcmpSection_frame
  refine ((failsIff_wanIcmpSection env .wan length hl).next (ipDst d.frame = natCfgInit.wanIp ∧
    ipProtocol d.frame ≠ 1 ∧ HasTransport d.frame ∧ TooLong d.frame ∧
    ForwardsInbound d length (ipProtocol d.frame) (inPort d.frame) (inSrcPort d.frame)) ?_).congr ?_
  · intro hnone
    refine (failsIff_wanAfterIcmp env length
      (hc.of_sameConfig (effect_wanIcmpSection env d length hl).config) ?_ ?_).congr ?_
    · rw [hframe hnone]
      exact hl
    · rw [hframe hnone]
      exact hecho hnone
    · rw [hframe hnone]
      by_cases h1 : ipProtocol d.frame = 1
      · simp [h1]
      · rw [wanIcmpSection_eq env length hc, if_neg fun h => h1 h.2.1]
  · rw [natIsWanIp, ipEqual_iff, hc.cfg]
    have hrun : ipProtocol d.frame ≠ 1 → (wanIcmpSection env d .wan length).2 = none := by
      intro h1
      rw [wanIcmpSection_eq env length hc, if_neg fun h => h1 h.2.1]
    unfold verdict wanVerdict
    by_cases hdst : ipDst d.frame = natCfgInit.wanIp
    · by_cases h1 : ipProtocol d.frame = 1
      · rw [ge_iff_le, hasTransport_icmp_iff h1]
        by_cases ht : HasTransport d.frame
        · by_cases h0 : icmpType d.frame = 0
          · simp [hdst, h1, ht, h0, Verdict.Overruns, natProtoIcmp, inPort, inSrcPort, and_comm]
          · by_cases h8 : icmpType d.frame = 8
            · simp [hdst, h1, ht, h8, Verdict.Overruns]
            · simp [hdst, h1, ht, h0, h8, Verdict.Overruns]
        · simp [ht, Verdict.Overruns]
      · by_cases ht : HasTransport d.frame
        · simp [hdst, h1, ht, hrun h1, Verdict.Overruns]
        · simp [h1, ht, Verdict.Overruns]
    · by_cases ht : HasTransport d.frame
      · simp [hdst, ht, Verdict.Overruns]
      · simp [hdst, ht, Verdict.Overruns]

/-- What follows the first two sections, for a packet from the LAN. -/
lemma failsIff_lanRest (env : Env) {d : Proc} (length : ℕ) (hc : Configured d.net)
    (hl : 20 ≤ ipHeaderLen d.frame) :
    FailsIff ((verdict .lan d.frame).Overruns d length)
      (if isForUs d .lan then Checked.localSection env d .lan
        else Checked.next (Checked.lanSection env d .lan length) fun c =>
          Checked.wanLateSection env c .lan length)
      (if isForUs d .lan then localSection env d .lan
        else (lanSection env d .lan length).next fun c => wanLateSection env c .lan length) := by
  have hus := isForUs_lan hc
  unfold verdict lanVerdict
  by_cases hfor : isForUs d .lan = true
  · have hdst := hus.mp hfor
    rw [if_pos hfor, if_pos hfor]
    refine (failsIff_localSection env d .lan).congr ?_
    by_cases hecho : ipProtocol d.frame = 1 ∧ icmpType d.frame = 8
    · rw [not_lt, hasTransport_icmp_iff hecho.1]
      by_cases ht : HasTransport d.frame <;> simp [hdst, hecho, ht, Verdict.Overruns]
    · by_cases ht : HasTransport d.frame
      · simp only [if_pos ht, if_pos hdst, if_neg hecho, Verdict.Overruns, iff_false]
        exact fun h => hecho ⟨h.2.1, h.2.2.1⟩
      · simp only [if_neg ht, Verdict.Overruns, iff_false]
        exact fun h => hecho ⟨h.2.1, h.2.2.1⟩
  · rw [if_neg hfor, if_neg hfor]
    refine ((failsIff_lanSection env .lan length hl).next False ?_).congr ?_
    · exact fun _ => .of_eq not_false (checked_wanLateSection env .lan length fun h => by cases h.2)
    · rw [hc.cfg, if_neg (hus.not.mp hfor)]
      by_cases ht : HasTransport d.frame
      · by_cases hlan : natIsLanIp natCfgInit (ipSrc d.frame) = true
        · by_cases hdrop : ipProtocol d.frame = 1 ∧ icmpType d.frame ≠ 8
          · simp [ht, hlan, hdrop, Verdict.Overruns]
          · have h8 : ipProtocol d.frame = 1 → icmpType d.frame = 8 := fun h =>
              not_not.mp fun h8 => hdrop ⟨h, h8⟩
            simp only [if_pos ht, if_pos hlan, if_neg hdrop, Verdict.Overruns]
            tauto
        · simp [ht, hlan, Verdict.Overruns]
      · simp [ht, Verdict.Overruns]

/-- **The IPv4 branch for a packet from the LAN** leaves its objects exactly if its verdict does. -/
lemma failsIff_lanSections (env : Env) {d : Proc} (length : ℕ) (hc : Configured d.net)
    (hl : 20 ≤ ipHeaderLen d.frame) :
    FailsIff ((verdict .lan d.frame).Overruns d length)
      (Checked.next (Checked.wanIcmpSection env d .lan length) fun c =>
        Checked.next (Checked.wanTransportSection env c .lan length) fun c => do
          if (← Checked.isForUs c .lan) then Checked.localSection env c .lan
          else Checked.next (Checked.lanSection env c .lan length) fun c =>
            Checked.wanLateSection env c .lan length)
      ((wanIcmpSection env d .lan length).next fun c =>
        (wanTransportSection env c .lan length).next fun c =>
          if isForUs c .lan then localSection env c .lan
          else (lanSection env c .lan length).next fun c => wanLateSection env c .lan length) := by
  have hus : Checked.isForUs d .lan = some (isForUs d .lan) := by
    unfold Checked.isForUs
    rw [Checked.ipDst_eq rxFrameSize_ge]
    rfl
  refine ((failsIff_wanIcmpSection env .lan length hl).next
    ((verdict .lan d.frame).Overruns d length) ?_).congr ?_
  · rw [wanIcmpSection_lan]
    intro _
    refine ((failsIff_wanTransportSection env .lan length hl).next
      ((verdict .lan d.frame).Overruns d length) ?_).congr ?_
    · rw [wanTransportSection_lan]
      intro _
      simp only
      rw [Checked.bind_of_eq hus]
      exact failsIff_lanRest env length hc hl
    · simp [wanTransportSection_lan]
  · simp [wanIcmpSection_lan]

/-- The IPv4 branch leaves its objects under the condition `Overruns`. -/
lemma failsIff_processIpv4 (env : Env) {s : NetState} (hs : Configured s) (id : IfId) (f : Frame)
    (length : ℕ) (htype : ethType f = 0x0800) :
    FailsIff (Overruns env s id f length) (Checked.processIpv4 env ⟨s, f, []⟩ id length)
      (processIpv4 env ⟨s, f, []⟩ id length) := by
  unfold Checked.processIpv4 processIpv4
  by_cases hlen : length < 34
  · rw [if_pos hlen, if_pos hlen]
    refine .of_eq (fun h => ?_) rfl
    have hroom := h.1.room
    omega
  · rw [if_neg hlen, if_neg hlen, Checked.bind_of_eq (Checked.ipVersion_eq rxFrameSize_ge _),
      Checked.bind_of_eq (Checked.ipIhl_eq rxFrameSize_ge _)]
    simp only
    by_cases hver : ipVersion f ≠ 4 ∨ ipIhl f < 5
    · rw [if_pos hver, if_pos hver]
      refine .of_eq (fun h => ?_) rfl
      rcases hver with hv | hi
      · exact hv h.1.version
      · exact absurd h.1.ihl (UInt8.not_le.mpr hi)
    · obtain ⟨hv, hi⟩ := not_or.mp hver
      have h4 : IsIpv4 f length := ⟨by omega, htype, not_not.mp hv, UInt8.not_lt.mp hi⟩
      have hc : Configured (learnt env s f).net := hs.of_sameConfig (sameConfig_nat rfl)
      rw [if_neg hver, if_neg hver, Checked.bind_of_eq (Checked.ipSrc_eq rxFrameSize_ge _),
        Checked.bind_of_eq (Checked.ethSrc_eq rxFrameSize_ge _)]
      cases id with
      | wan =>
        refine (failsIff_wanSections env (d := learnt env s f) length hc h4.headerLen).congr ?_
        exact ⟨fun h => ⟨h4, h⟩, And.right⟩
      | lan =>
        refine (failsIff_lanSections env (d := learnt env s f) length hc h4.headerLen).congr ?_
        exact ⟨fun h => ⟨h4, h⟩, And.right⟩

/-- **The checked run** is the unchecked one, or it leaves an object under the condition
`Overruns`. -/
theorem failsIff_netDemoProcessFrame (env : Env) {s : NetState} (hs : Configured s) (id : IfId)
    (f : Frame) (length : ℕ) :
    FailsIff (Overruns env s id f length) (Checked.netDemoProcessFrame env s id f length)
      (netDemoProcessFrame env s id f length) := by
  unfold Checked.netDemoProcessFrame netDemoProcessFrame
  simp only
  refine FailsIff.map ?_ fun r : Flow => (r.1, r.2.getD 0)
  by_cases hlen : length < 14
  · rw [if_pos hlen, if_pos hlen]
    refine .of_eq (fun h => ?_) rfl
    have hroom := h.1.room
    omega
  · rw [if_neg hlen, if_neg hlen, Checked.bind_of_eq (Checked.ethType_eq rxFrameSize_ge _)]
    by_cases harp : ethType f = 0x0806
    · rw [if_pos harp, if_pos harp]
      refine .of_eq (fun h => ?_) (checked_processArp env _ id length)
      rw [h.1.type] at harp
      exact absurd harp (by decide)
    · rw [if_neg harp, if_neg harp]
      by_cases hip : ethType f = 0x0800
      · rw [if_pos hip, if_pos hip]
        exact failsIff_processIpv4 env hs id f length hip
      · rw [if_neg hip, if_neg hip]
        exact .of_eq (fun h => hip h.1.type) rfl

/-! ## Every frame, in every state -/

/-- Every access that the processing of a frame makes is inside its object. -/
def InBounds (env : Env) (s : NetState) (id : IfId) (f : Frame) (length : ℕ) : Prop :=
  Checked.netDemoProcessFrame env s id f length ≠ none

/-- **The exact condition for accesses inside the objects**, for every frame in every state that a
run reaches: the packet is neither answered with a reply longer than the local frame, nor forwarded
with a claimed length beyond the RX buffer. -/
theorem inBounds_iff (lanDev wanDev : Option VirtioNetDev) (ops : List NetOp) (env : Env)
    (id : IfId) (f : Frame) (length : ℕ) :
    InBounds env (run netStep (netInit lanDev wanDev) ops) id f length ↔
      ¬Overruns env (run netStep (netInit lanDev wanDev) ops) id f length :=
  (failsIff_netDemoProcessFrame env (devices_run lanDev wanDev ops).1 id f length).ne_none_iff

/-- An echo request to the WAN address whose length field claims 1505 bytes. -/
def oversizePing : Frame := frameOf [
  0x52, 0x54, 0, 0, 0, 2, 2, 0, 0, 0, 0, 8, 8, 0,
  0x45, 0, 5, 225, 0, 0, 0, 0, 64, 1, 0, 0, 8, 8, 8, 8, 10, 3, 5, 99, 8, 0, 0, 0, 0, 1, 0, 1]

/-- **The checksum of the reply to `oversizePing` reads behind the local frame.** -/
theorem oversizePing_not_inBounds : ¬ ∀ (lanDev wanDev : Option VirtioNetDev) (ops : List NetOp)
    (env : Env) (id : IfId) (f : Frame) (length : ℕ), length ≤ virtioNetMaxFrameSize →
    InBounds env (run netStep (netInit lanDev wanDev) ops) id f length := by
  intro hall
  have h4 : IsIpv4 oversizePing 42 := ⟨by decide, by decide, by decide, by decide⟩
  have hover : Overruns quietEnv demoInit .wan oversizePing 42 := by
    refine ⟨h4, ?_⟩
    rw [show verdict .wan oversizePing = .echo by decide]
    show virtioNetMaxFrameSize < 14 + ipTotalLength oversizePing
    decide
  have hfails := (failsIff_netDemoProcessFrame quietEnv
    (configured_netInit (some demoLanDev) (some demoWanDev)) .wan oversizePing 42).fails hover
  exact hall (some demoLanDev) (some demoWanDev) [] quietEnv .wan oversizePing 42 (by decide) hfails

end Gateway
