import UcosArm64.Gateway.NatIndex
import UcosArm64.Gateway.NetSteps

set_option relaxedAutoImplicit false
set_option autoImplicit false

/-!
# The round trip of a packet through the gateway

A packet from the LAN opens a session and is forwarded to the outside; the reply to the forwarded
packet comes back to the host that sent the first one, with its own port or identifier, and is
otherwise the packet that arrived.

## Main definitions

* `Gateway.CompletePacket`, `Gateway.Outgoing` — a frame carries a whole ICMP, TCP or UDP packet,
  and a request from the LAN to the outside.
* `Gateway.ReplyTo` — a packet answers a forwarded packet.
* `Gateway.Restored` — a packet delivered to the LAN is the reply, readdressed.
* `Gateway.Ready` — the state between the two packets.
* `Gateway.Exchange` — a packet that is forwarded, and its reply.

## Main results

* `Gateway.ready_of_forwarded` — forwarding a packet with a new session makes the state ready.
* `Gateway.restored_of_ready` — a ready state delivers the reply.
* `Gateway.roundTrip` — the two together, in every reachable state.
-/

namespace Gateway

open BucketIndex Transition

/-! ## Packets -/

/-- The frame of `length` bytes carries a whole IPv4 packet with an ICMP, TCP or UDP header. -/
structure CompletePacket (f : Frame) (length : ℕ) : Prop where
  ipv4 : ethType f = 0x0800
  version : ipVersion f = 4
  ihl : 5 ≤ ipIhl f
  fits : 14 + ipTotalLength f ≤ length
  frame : length ≤ virtioNetMaxFrameSize
  kind : ipProtocol f = 1 ∨ ipProtocol f = 6 ∨ ipProtocol f = 17
  header : ipHeaderLen f + minTransportLen (ipProtocol f) ≤ ipTotalLength f

/-- The packet `r` answers the packet `g`: the addresses are swapped, and the ports are swapped or
`r` is the echo reply with the identifier of `g`. -/
structure ReplyTo (g r : Frame) : Prop where
  protocol : ipProtocol r = ipProtocol g
  src : ipSrc r = ipDst g
  dst : ipDst r = ipSrc g
  srcPort : inSrcPort r = outDstPort g
  dstPort : inPort r = outPort g
  echo : ipProtocol r = 1 → icmpType r = 0

/-- The offset, in the transport header, of the port (or identifier) that a translation from the
LAN rewrites. -/
def outPortOffset (protocol : UInt8) : ℕ := if protocol = 1 then 4 else 0

/-- The offset of the port (or identifier) that a translation from the WAN rewrites. -/
def inPortOffset (protocol : UInt8) : ℕ := if protocol = 1 then 4 else 2

/-- The offset of the checksum in the ICMP, TCP or UDP header. -/
def l4ChecksumOffset (protocol : UInt8) : ℕ := if protocol = 1 then 2 else checksumOffset protocol

/-- The packet `g` is the reply `r` with the Ethernet addresses of the LAN, the address and port (or
identifier) of the sender of the first packet `f`, the time to live one less and right
checksums. -/
structure Restored (f r g : Frame) (lanMac : Mac) : Prop where
  ethDest : ethDest g = ethSrc f
  ethSrc : ethSrc g = lanMac
  dstIp : ipDst g = ipSrc f
  dstPort : inPort g = outPort f
  ttl : ipTtl g = ipTtl r - 1
  ipChecksum : IpChecksumOk g
  icmpChecksum : ipProtocol r = 1 → IcmpChecksumOk g
  transportChecksum : ipProtocol r ≠ 1 → TransportChecksumOk g
  same : ∀ k, 12 ≤ k → k ≠ 22 → k ≠ 24 → k ≠ 25 → (k < 30 ∨ 34 ≤ k) →
    k ≠ l4 r + inPortOffset (ipProtocol r) → k ≠ l4 r + inPortOffset (ipProtocol r) + 1 →
    k ≠ l4 r + l4ChecksumOffset (ipProtocol r) →
    k ≠ l4 r + l4ChecksumOffset (ipProtocol r) + 1 → g k = r k

/-- The state between the two packets: a session is found for the replies, and both hosts are in
the ARP cache. -/
structure Ready (s : NetState) (protocol : UInt8) (dstIp : Ip4) (dstPort wanPort : UInt16)
    (lanIp : Ip4) (lanPort : UInt16) (lanMac : Mac) : Prop where
  session : ∃ i, natFindReverseEntry s.nat protocol wanPort dstIp dstPort = some i ∧
    (s.nat.natTable i).lanIp = lanIp ∧ (s.nat.natTable i).lanPort = lanPort
  lanHost : arpCacheLookup s.nat lanIp = some lanMac
  dstHost : arpCacheLookup s.nat dstIp ≠ none

/-- The IP header of a complete packet has its least length. -/
lemma CompletePacket.headerLen {f : Frame} {n : ℕ} (h : CompletePacket f n) : 20 ≤ ipHeaderLen f :=
  ipHeaderLen_ge h.ihl

/-- Every transport header has at least 8 bytes. -/
lemma minTransportLen_ge (protocol : UInt8) : 8 ≤ minTransportLen protocol := by
  unfold minTransportLen
  split_ifs <;> omega

/-- A complete packet holds an ICMP header. -/
lemma CompletePacket.icmp {f : Frame} {n : ℕ} (h : CompletePacket f n) :
    ipHeaderLen f + 8 ≤ ipTotalLength f := by
  have h₁ := h.header
  have h₂ := minTransportLen_ge (ipProtocol f)
  omega

/-- The rewriting of a complete ICMP packet, in a buffer that holds it from its type field on. -/
lemma CompletePacket.rewrites_icmp {f g : Frame} {n : ℕ} (h : CompletePacket f n)
    (hg : ∀ k, 12 ≤ k → g k = f k) {addr : ℕ} (ip : Ip4) (identifier : UInt16) (ha : 26 ≤ addr)
    (ha' : addr + 4 ≤ 34) :
    Rewrites g (updateIcmp (updateIpHeader g addr ip) identifier) addr ip 4 identifier 2 ∧
      IcmpChecksumOk (updateIcmp (updateIpHeader g addr ip) identifier) := by
  have hshape := sameShape_of_agree hg
  apply Gateway.rewrites_icmp g addr ip identifier ha ha'
  · rw [hshape.ipHeaderLen]
    exact h.headerLen
  · rw [hshape.ipHeaderLen, hshape.ipTotalLength]
    exact h.icmp

/-- The rewriting of a complete TCP or UDP packet, in a buffer that holds it from its type field
on. -/
lemma CompletePacket.rewrites_transport {f g : Frame} {n : ℕ} (h : CompletePacket f n)
    (hg : ∀ k, 12 ≤ k → g k = f k) {addr portOffset : ℕ} (ip : Ip4) (port : UInt16)
    (ha : 26 ≤ addr) (ha' : addr + 4 ≤ 34) (hp : portOffset ≤ 2) :
    Rewrites g (updateTransport (updateIpHeader g addr ip) portOffset port) addr ip portOffset port
        (checksumOffset (ipProtocol f)) ∧
      TransportChecksumOk (updateTransport (updateIpHeader g addr ip) portOffset port) := by
  have hshape := sameShape_of_agree hg
  rw [← hshape.ipProtocol]
  apply Gateway.rewrites_transport g addr portOffset ip port ha ha'
  · rw [hshape.ipHeaderLen]
    exact h.headerLen
  · exact hp
  · rw [hshape.ipHeaderLen, hshape.ipTotalLength, hshape.ipProtocol]
    exact h.header

/-- The number that the blocks for TCP and UDP pass on is the protocol of the packet. -/
lemma natProto_eq {f : Frame} (h : ipProtocol f = 6 ∨ ipProtocol f = 17) :
    (if ipProtocol f = 6 then natProtoTcp else natProtoUdp) = ipProtocol f := by
  rcases h with h | h
  · rw [if_pos h, h]
    rfl
  · rw [if_neg (by rw [h]; decide), h]
    rfl

/-- A complete packet passes the checks at the head of `net_demo_process_frame`. -/
lemma CompletePacket.processFrame {f : Frame} {n : ℕ} (h : CompletePacket f n) (env : Env)
    (s : NetState) (id : IfId) : (netDemoProcessFrame env s id f n).1 =
      (processIpv4 env ⟨s, f, []⟩ id n).1 := by
  have h₁ := h.fits
  have h₂ := h.icmp
  have h₃ := h.headerLen
  unfold netDemoProcessFrame
  simp only
  rw [if_neg (by omega), if_neg (by rw [h.ipv4]; decide), if_pos h.ipv4]

/-- The state in which the sections of the IPv4 branch run: the source address is learnt. -/
def learnt (env : Env) (s : NetState) (f : Frame) : Proc :=
  ⟨{ s with nat := arpCacheAdd s.nat (env.tick 0) (ipSrc f) (ethSrc f) }, f, []⟩

/-- Learning an address leaves the frame alone. -/
@[simp] lemma learnt_frame (env : Env) (s : NetState) (f : Frame) : (learnt env s f).frame = f :=
  rfl

/-- A complete packet runs through the sections. -/
lemma CompletePacket.processIpv4 {f : Frame} {n : ℕ} (h : CompletePacket f n) (env : Env)
    (s : NetState) (id : IfId) : processIpv4 env ⟨s, f, []⟩ id n =
      (wanIcmpSection env (learnt env s f) id n).next fun c =>
        (wanTransportSection env c id n).next fun c =>
          if isForUs c id then localSection env c id
          else (lanSection env c id n).next fun c => wanLateSection env c id n := by
  have h₁ := h.fits
  have h₂ := h.icmp
  have h₃ := h.headerLen
  unfold Gateway.processIpv4
  rw [if_neg (by omega), if_neg]
  · rfl
  · rw [not_or]
    refine ⟨fun hv => hv h.version, ?_⟩
    rw [UInt8.not_lt]
    exact h.ihl

/-! ## From the LAN to the outside -/

/-- The two ways out of an outbound block that got a port. -/
lemma natOutbound_some {c : Proc} {now : UInt32} {length : ℕ} {protocol : UInt8}
    {lanPort dstPort p : UInt16} (miss : Proc → Proc) (rewrite : UInt16 → Frame → Frame)
    (ht : (natTranslateOutbound c.net.nat now protocol (ipSrc c.frame) lanPort (ipDst c.frame)
      dstPort).2 = some p) (hl : length ≤ virtioNetMaxFrameSize) :
    natOutbound c now length protocol lanPort dstPort miss rewrite =
      forward ⟨{ c.net with nat := (natTranslateOutbound c.net.nat now protocol (ipSrc c.frame)
        lanPort (ipDst c.frame) dstPort).1 }, c.frame, c.log ++ [.assigned protocol (ipSrc c.frame)
        lanPort (ipDst c.frame) dstPort p]⟩ .wan (ipDst c.frame) miss (rewrite p) := by
  unfold natOutbound
  simp only
  rw [ht]
  simp only
  rw [if_pos hl]

/-- An outbound block that got no port. -/
lemma natOutbound_none {c : Proc} {now : UInt32} {protocol : UInt8} {lanPort dstPort : UInt16}
    (length : ℕ) (miss : Proc → Proc) (rewrite : UInt16 → Frame → Frame)
    (ht : (natTranslateOutbound c.net.nat now protocol (ipSrc c.frame) lanPort (ipDst c.frame)
      dstPort).2 = none) :
    (natOutbound c now length protocol lanPort dstPort miss rewrite).1.log = c.log := by
  unfold natOutbound
  simp only
  rw [ht]

/-- An ARP frame is not an IPv4 packet. -/
lemma ethType_arpFrame (dest src : Mac) (oper : UInt16) (sha : Mac) (spa : Ip4) (tha : Mac)
    (tpa : Ip4) : ethType (arpFrame dest src oper sha spa tha tpa) = 0x0806 := by
  unfold ethType arpFrame
  simp only
  rw [rd16_congr (g := wr16 (wrMac (wrMac (fun _ => 0) 0 dest) 6 src) 12 (utilHtons 0x0806)),
    rd16_wr16, utilNtohs_utilHtons]
  all_goals
    rw [wrIp_of_ne _ _ (by omega), wrMac_of_ne _ _ (by omega), wrIp_of_ne _ _ (by omega),
      wrMac_of_ne _ _ (by omega), wr16_of_ne _ _ (by omega) (by omega), wr8_of_ne _ _ (by omega),
      wr8_of_ne _ _ (by omega), wr16_of_ne _ _ (by omega) (by omega),
      wr16_of_ne _ _ (by omega) (by omega)]

/-- An ARP request is the only thing that is sent for an unknown host. -/
lemma mem_sendArpRequestForIp_log {c : Proc} {id dev : IfId} {targetIp : Ip4} {g : Frame} {m : ℕ}
    (h : NetEvent.tx dev g m ∈ (sendArpRequestForIp c id targetIp).log) :
    NetEvent.tx dev g m ∈ c.log ∨ ethType g = 0x0806 := by
  rcases mem_sendFrame_log h with h | ⟨h, -⟩
  · exact Or.inl h
  · cases h
    exact Or.inr (ethType_arpFrame _ _ _ _ _ _ _)

/-- The lookups of a session just opened: its bucket names it. -/
lemma Opens.natFindReverseEntry {s s' : NatState} {i : Fin natTableSize} {e : NatEntry}
    (h : Opens s s' i e) :
    natFindReverseEntry s' e.protocol e.wanPort e.dstIp e.dstPort = some i := by
  have hbucket : slotOf (s'.natHashTable (natHash e.wanPort)) = some i := by
    rw [h.hash, Function.update_self, slotOf_toInt8]
  have hhit : (s'.natTable i).matchesIn e.protocol e.wanPort e.dstIp e.dstPort = true := by
    rw [h.table_self, NatEntry.matchesIn_iff]
    exact ⟨h.active, rfl, rfl, rfl, rfl⟩
  rw [natFindReverseEntry_eq, if_neg (not_lt.mpr (nonneg_of_slotOf hbucket)), hbucket]
  unfold hintedFind
  simp only
  rw [if_pos hhit]

/-- What an outbound block for a packet of the frame `f` rewrites, and what it does without an
ARP entry. -/
structure OutboundBlock (f : Frame) (wanIp : Ip4) (miss : Proc → Proc)
    (rewrite : UInt16 → Frame → Frame) : Prop where
  missNet : ∀ c, (miss c).net = c.net
  missKeeps : ∀ c, ∀ e ∈ c.log, e ∈ (miss c).log
  missLog : ∀ c g m, NetEvent.tx .wan g m ∈ (miss c).log →
    NetEvent.tx .wan g m ∈ c.log ∨ ethType g = 0x0806
  rewrites : ∀ p g, (∀ k, 12 ≤ k → g k = f k) →
    Rewrites g (rewrite p g) 26 wanIp (outPortOffset (ipProtocol f)) p
      (l4ChecksumOffset (ipProtocol f))

/-- The section for packets from the LAN runs the outbound block of the packet's protocol. -/
lemma lanSection_eq (env : Env) {d : Proc} {n : ℕ} (hc : CompletePacket d.frame n)
    (hreq : IsRequest d.frame) (hlan : natIsLanIp d.net.nat.natCfg (ipSrc d.frame) = true)
    (hdev : d.net.wanIf.dev.isSome = true) :
    ∃ miss rewrite, OutboundBlock d.frame d.net.wanIf.localIp miss rewrite ∧
      lanSection env d .lan n = natOutbound d (env.tick 1) n (ipProtocol d.frame) (outPort d.frame)
        (outDstPort d.frame) miss rewrite := by
  have h8 := hc.icmp
  have hmin := hc.header
  by_cases h1 : ipProtocol d.frame = 1
  · refine ⟨fun c => c, fun wanPort f => updateIcmp (updateIpHeader f 26 d.net.wanIf.localIp)
      wanPort, ⟨fun _ => rfl, fun _ _ h => h, fun _ _ _ h => Or.inl h, fun p g hg => ?_⟩, ?_⟩
    · rw [h1]
      exact (hc.rewrites_icmp hg _ p (by omega) (by omega)).1
    · have htype : icmpType d.frame = 8 := by
        rcases hreq.kind with ⟨-, h⟩ | h | h
        · exact h
        · rw [h1] at h; exact absurd h (by decide)
        · rw [h1] at h; exact absurd h (by decide)
      unfold lanSection
      rw [if_pos ⟨hlan, rfl⟩, if_pos ⟨h1, hdev⟩, if_pos (by omega), if_pos htype, natOutboundIcmp,
        outPort, if_pos h1, outDstPort, if_pos h1, h1]
      rfl
  · have hkind : ipProtocol d.frame = 6 ∨ ipProtocol d.frame = 17 := hc.kind.resolve_left h1
    refine ⟨fun c => sendArpRequestForIp c .wan (ipDst c.frame), fun wanPort f =>
      updateTransport (updateIpHeader f 26 d.net.wanIf.localIp) 0 wanPort,
      ⟨fun _ => sendFrame_net _ _ _ _, fun _ _ h => mem_log_sendFrame _ _ _ h, fun c g m h => ?_,
      fun p g hg => ?_⟩, ?_⟩
    · exact mem_sendArpRequestForIp_log h
    · rw [outPortOffset, if_neg h1, l4ChecksumOffset, if_neg h1]
      exact (hc.rewrites_transport hg d.net.wanIf.localIp p (by omega) (by omega) (by omega)).1
    · unfold lanSection
      rw [if_pos ⟨hlan, rfl⟩, if_neg (fun h => h1 h.1), if_pos ⟨hkind, hdev⟩, if_pos (by omega),
        natOutboundTransport, outPort, if_neg h1, outDstPort, if_neg h1]
      simp only [natProto_eq hkind]

/-- The fields of a packet that was translated towards the outside.

**Proof sketch.** The block rewrites one address, one port and the checksums; the other fields lie
beside them. -/
lemma Rewrites.outbound {f g₀ g : Frame} {wanIp : Ip4} {p : UInt16} (hl : 20 ≤ ipHeaderLen f)
    (hg₀ : ∀ k, 12 ≤ k → g₀ k = f k)
    (h : Rewrites g₀ g 26 wanIp (outPortOffset (ipProtocol f)) p
      (l4ChecksumOffset (ipProtocol f))) :
    ipProtocol g = ipProtocol f ∧ ipSrc g = wanIp ∧ ipDst g = ipDst f ∧ outPort g = p ∧
      outDstPort g = outDstPort f := by
  have hshape₀ := sameShape_of_agree hg₀
  have hshape := h.sameShape (by omega) (by rw [hshape₀.ipHeaderLen]; exact hl)
  have hproto : ipProtocol g = ipProtocol f := hshape.ipProtocol.trans hshape₀.ipProtocol
  have hl4 : l4 g = l4 f := hshape.l4.trans hshape₀.l4
  have h34 : 34 ≤ l4 f := by unfold l4; omega
  have hport := h.port
  have hsame := h.same
  rw [hshape₀.l4] at hport hsame
  refine ⟨hproto, h.addr, ?_, ?_, ?_⟩
  · refine rdIp_congr fun k hk hk' => ?_
    rw [hsame k (by omega) (by omega) (by omega) (by omega) (by omega) (by omega) (by omega)
      (by omega), hg₀ k (by omega)]
  · unfold outPort
    rw [hproto]
    unfold outPortOffset at hport
    by_cases h1 : ipProtocol f = 1
    · rw [if_pos h1] at hport ⊢
      rw [icmpIdentifier, hl4]
      exact hport
    · rw [if_neg h1] at hport ⊢
      rw [srcPort, hl4]
      exact hport
  · unfold outDstPort
    rw [hproto]
    by_cases h1 : ipProtocol f = 1
    · rw [if_pos h1, if_pos h1]
    · rw [if_neg h1, if_neg h1, dstPort, dstPort, hl4]
      have hbyte : ∀ k, k = l4 f + 2 ∨ k = l4 f + 3 → g k = f k := by
        intro k hk
        have hc : l4ChecksumOffset (ipProtocol f) = 16 ∨ l4ChecksumOffset (ipProtocol f) = 6 := by
          unfold l4ChecksumOffset checksumOffset
          rw [if_neg h1]
          split_ifs
          · exact Or.inl rfl
          · exact Or.inr rfl
        have hp : outPortOffset (ipProtocol f) = 0 := by rw [outPortOffset, if_neg h1]
        rw [hp] at hsame
        rw [hsame k (by omega) (by omega) (by omega) (by omega) (by omega) (by omega) (by omega)
          (by omega), hg₀ k (by omega)]
      rw [rd16_congr (hbyte _ (Or.inl rfl)) (hbyte _ (Or.inr rfl))]

/-- A complete request from a host of the LAN to a host outside it, which is not the gateway. -/
structure Outgoing (f : Frame) (n : ℕ) : Prop where
  request : IsRequest f
  complete : CompletePacket f n
  fromLan : natIsLanIp natCfgInit (ipSrc f) = true
  toOutside : natIsLanIp natCfgInit (ipDst f) = false
  notGateway : ipDst f ≠ natCfgInit.wanIp

/-- The two hosts are different, since one is inside and the other outside. -/
lemma Outgoing.ipDst_ne_ipSrc {f : Frame} {n : ℕ} (h : Outgoing f n) : ipDst f ≠ ipSrc f := by
  intro he
  have hout := h.toOutside
  rw [he, h.fromLan] at hout
  exact absurd hout (by simp)

/-- An outgoing request is not for the gateway. -/
lemma Outgoing.isForUs {c : Proc} {n : ℕ} (h : Outgoing c.frame n) (hcfg : Configured c.net) :
    isForUs c .lan = false := by
  unfold Gateway.isForUs
  rw [decide_eq_false_iff_not, not_or]
  constructor
  · intro he
    have hout := h.toOutside
    rw [show ipDst c.frame = natCfgInit.lanIp from he.trans hcfg.lanIp] at hout
    exact absurd hout (by decide)
  · rintro ⟨-, he⟩
    rw [natIsWanIp, ipEqual_iff, hcfg.cfg] at he
    exact h.notGateway he

/-- An outgoing request is processed by the outbound block of its protocol. -/
lemma Outgoing.processFrame {s : NetState} {f : Frame} {n : ℕ} (h : Outgoing f n) (env : Env)
    (hcfg : Configured s) (hdev : s.wanIf.dev.isSome = true) :
    ∃ miss rewrite, OutboundBlock f natCfgInit.wanIp miss rewrite ∧
      (netDemoProcessFrame env s .lan f n).1 = (natOutbound (learnt env s f) (env.tick 1) n
        (ipProtocol f) (outPort f) (outDstPort f) miss rewrite).1 := by
  have hcfg' : Configured (learnt env s f).net := hcfg.of_sameConfig (sameConfig_nat rfl)
  obtain ⟨miss, rewrite, hblock, hsec⟩ := lanSection_eq env (d := learnt env s f) h.complete
    h.request (by rw [hcfg'.cfg]; exact h.fromLan) hdev
  rw [hcfg'.wanIp] at hblock
  refine ⟨miss, rewrite, hblock, ?_⟩
  rw [h.complete.processFrame, h.complete.processIpv4, processIpv4_lan_sections,
    Outgoing.isForUs (c := learnt env s f) h hcfg']
  exact congrArg Prod.fst hsec

/-- There is no session for the packet `f` from the LAN. -/
def Fresh (s : NetState) (f : Frame) : Prop :=
  natScanEntry s.nat (ipProtocol f) (ipSrc f) (outPort f) (ipDst f) (outDstPort f) = none

/-- The outbound translation of a packet without a session opens one, or fails. -/
lemma Fresh.translate {s : NetState} {f : Frame} (h : Fresh s f) (env : Env) :
    let t := natTranslateOutbound (learnt env s f).net.nat (env.tick 1) (ipProtocol f) (ipSrc f)
      (outPort f) (ipDst f) (outDstPort f)
    (natAllocEntry s.nat = none ∧ t.2 = none) ∨
      ∃ i, Opens (learnt env s f).net.nat t.1 i ⟨true, ipProtocol f, ipSrc f, outPort f,
          s.nat.nextPort, ipDst f, outDstPort f, env.tick 1, natTimeout (ipProtocol f)⟩ ∧
        t.2 = some s.nat.nextPort := by
  intro t
  rcases natTranslateOutbound_cases (learnt env s f).net.nat (env.tick 1) (ipProtocol f) (ipSrc f)
    (outPort f) (ipDst f) (outDstPort f) with ⟨i, -, hm, -⟩ | ⟨-, hfull, -, -, hret⟩ |
      ⟨-, i, -, hopen, hret⟩
  · have hno := Fin.find?_eq_none_iff.mp h i
    have hm' : (s.nat.natTable i).matchesOut (ipProtocol f) (ipSrc f) (outPort f) (ipDst f)
        (outDstPort f) = true := hm
    rw [hno] at hm'
    exact absurd hm' (by simp)
  · exact Or.inl ⟨hfull, hret⟩
  · exact Or.inr ⟨i, hopen, hret⟩

/-- What is left of an outbound block once a port is assigned: the packet is sent if the destination
is in the cache. -/
lemma OutboundBlock.forward {f : Frame} {miss : Proc → Proc} {rewrite : UInt16 → Frame → Frame}
    {wanIp : Ip4} (hb : OutboundBlock f wanIp miss rewrite) (hl : 20 ≤ ipHeaderLen f)
    {c : Proc} (hf : c.frame = f) (p : UInt16) :
    (arpCacheLookup c.net.nat (ipDst f) = none ∧
      forward c .wan (ipDst f) miss (rewrite p) =
        (miss { c with frame := wrMac f 6 (c.net.iface .wan).mac }, some 1)) ∨
    ∃ g, arpCacheLookup c.net.nat (ipDst f) ≠ none ∧ forward c .wan (ipDst f) miss (rewrite p) =
        (sendFrame { c with frame := g } .wan g (14 + ipTotalLength f), some 1) ∧
      ipProtocol g = ipProtocol f ∧ ipSrc g = wanIp ∧ ipDst g = ipDst f ∧ outPort g = p ∧
      outDstPort g = outDstPort f ∧ ethType g = ethType f := by
  subst hf
  rcases forward_cases c .wan (ipDst c.frame) miss (rewrite p) with h | ⟨mac, g, hmac, rfl, hfwd⟩
  · exact Or.inl h
  · have hagree : ∀ k, 12 ≤ k → wrMac (wrMac c.frame 6 (c.net.iface .wan).mac) 0 mac k =
        c.frame k :=
      fun k hk => by rw [wrMac_of_ne _ _ (by omega), wrMac_of_ne _ _ (by omega)]
    have hrw := hb.rewrites p _ hagree
    have h34 : 34 ≤ l4 c.frame := by unfold l4; omega
    obtain ⟨h₁, h₂, h₃, h₄, h₅⟩ := hrw.outbound hl hagree
    refine Or.inr ⟨_, by rw [hmac]; simp, hfwd, h₁, h₂, h₃, h₄, h₅, ?_⟩
    have hsame := hrw.same
    rw [(sameShape_of_agree hagree).l4] at hsame
    have hbyte : ∀ k, k = 12 ∨ k = 13 →
        rewrite p (wrMac (wrMac c.frame 6 (c.net.iface .wan).mac) 0 mac) k = c.frame k :=
          fun k hk => by
      rw [hsame k (by omega) (by omega) (by omega) (by omega) (by omega) (by omega) (by omega)
        (by omega), hagree k (by omega)]
    rw [ethType, ethType, rd16_congr (hbyte 12 (Or.inl rfl)) (hbyte 13 (Or.inr rfl))]

/-- The state in which an outbound block forwards the packet `f`: the source address is learnt, and
the port `p` is assigned. -/
def assigned (env : Env) (s : NetState) (f : Frame) (p : UInt16) : Proc :=
  let t := natTranslateOutbound (learnt env s f).net.nat (env.tick 1) (ipProtocol f) (ipSrc f)
    (outPort f) (ipDst f) (outDstPort f)
  ⟨{ s with nat := t.1 }, f,
    [.assigned (ipProtocol f) (ipSrc f) (outPort f) (ipDst f) (outDstPort f) p]⟩

/-- **The outcomes of an outgoing request without a session.** A session is opened for it, and it is
sent; or a session is opened, and the destination is not in the cache; or the table is full. In the
last two cases no IPv4 packet is sent.

**Proof sketch.** The run is the outbound block of the protocol. `nat_translate_outbound` finds no
room, or it opens a session; then the block finds the Ethernet address and sends the packet, or
does what it does without one. -/
lemma Outgoing.cases {s : NetState} {f : Frame} {n : ℕ} (h : Outgoing f n) (hfresh : Fresh s f)
    (env : Env) (hcfg : Configured s) (hdev : s.wanIf.dev.isSome = true) :
    let s' := netStep s (.frame env .lan f n)
    let log := netLog s (.frame env .lan f n)
    (natAllocEntry s.nat = none ∧ log = []) ∨
      ∃ i, Opens (learnt env s f).net.nat s'.nat i ⟨true, ipProtocol f, ipSrc f, outPort f,
          s.nat.nextPort, ipDst f, outDstPort f, env.tick 1, natTimeout (ipProtocol f)⟩ ∧
        ((arpCacheLookup s'.nat (ipDst f) = none ∧
            ∀ g m, NetEvent.tx .wan g m ∈ log → ethType g = 0x0806) ∨
          ∃ g, arpCacheLookup s'.nat (ipDst f) ≠ none ∧
            log = (sendFrame { assigned env s f s.nat.nextPort with frame := g } .wan g
              (14 + ipTotalLength f)).log ∧
            ipProtocol g = ipProtocol f ∧ ipSrc g = natCfgInit.wanIp ∧ ipDst g = ipDst f ∧
            outPort g = s.nat.nextPort ∧ outDstPort g = outDstPort f ∧
            ethType g = ethType f) := by
  intro s' log
  obtain ⟨miss, rewrite, hblock, hproc⟩ := h.processFrame env hcfg hdev
  have hnet := (natOutbound_effect (learnt env s f) (env.tick 1) n (ipProtocol f) (outPort f)
    (outDstPort f) miss rewrite fun c => ⟨hblock.missNet c, hblock.missKeeps c⟩).1
  have hstep : s'.nat = (natTranslateOutbound (learnt env s f).net.nat (env.tick 1) (ipProtocol f)
      (ipSrc f) (outPort f) (ipDst f) (outDstPort f)).1 := by
    simp only [s', netStep]
    rw [hproc, hnet]
    rfl
  have hlog : log = (natOutbound (learnt env s f) (env.tick 1) n (ipProtocol f) (outPort f)
      (outDstPort f) miss rewrite).1.log := by
    simp only [log, netLog]
    rw [hproc]
  rcases hfresh.translate env with ⟨hfull, hret⟩ | ⟨i, hopen, hret⟩
  · refine Or.inl ⟨hfull, ?_⟩
    rw [hlog, natOutbound_none (c := learnt env s f) n miss rewrite hret]
    rfl
  · rw [← hstep] at hopen
    refine Or.inr ⟨i, hopen, ?_⟩
    have hfwd : log = (Gateway.forward (assigned env s f s.nat.nextPort) .wan (ipDst f) miss
        (rewrite s.nat.nextPort)).1.log := by
      rw [hlog, natOutbound_some (c := learnt env s f) miss rewrite hret h.complete.frame]
      rfl
    have hnat : (assigned env s f s.nat.nextPort).net.nat = s'.nat := hstep.symm
    rcases hblock.forward h.complete.headerLen (c := assigned env s f s.nat.nextPort) rfl
      s.nat.nextPort with ⟨hmiss, hf⟩ | ⟨g, hhit, hf, hfields⟩
    · rw [hnat] at hmiss
      refine Or.inl ⟨hmiss, fun g m hg => ?_⟩
      rw [hfwd, hf] at hg
      rcases hblock.missLog _ g m hg with hg | hg
      · exact absurd hg (by simp [assigned])
      · exact hg
    · rw [hnat] at hhit
      refine Or.inr ⟨g, hhit, ?_, hfields⟩
      rw [hfwd, hf]

/-- **Forwarding makes the state ready.** If a request from the LAN has no session and the gateway
forwards it to the outside as the packet `g`, then afterwards a session is found for the replies
to `g`, and both hosts are in the ARP cache.

**Proof sketch.** A packet is sent, so `nat_translate_outbound` opened a session, and the bucket of
its port names it. The source was learnt at the start, and the destination was found in the
cache. -/
theorem ready_of_forwarded {s : NetState} {env : Env} {f g : Frame} {n m : ℕ} (hcfg : Configured s)
    (hdev : s.wanIf.dev.isSome = true) (hout : Outgoing f n) (hfresh : Fresh s f)
    (hg : NetEvent.tx .wan g m ∈ netLog s (.frame env .lan f n)) (hg4 : ethType g = 0x0800) :
    Ready (netStep s (.frame env .lan f n)) (ipProtocol f) (ipDst f) (outDstPort f) (outPort g)
        (ipSrc f) (outPort f) (ethSrc f) ∧
      ipProtocol g = ipProtocol f ∧ ipSrc g = natCfgInit.wanIp ∧ ipDst g = ipDst f ∧
      outDstPort g = outDstPort f := by
  rcases hout.cases hfresh env hcfg hdev with ⟨-, hlog⟩ | ⟨i, hopen, ⟨-, hmiss⟩ |
    ⟨g', hcached, hlog, h₁, h₂, h₃, h₄, h₅, -⟩⟩
  · rw [hlog] at hg
    exact absurd hg List.not_mem_nil
  · have harp := hmiss g m hg
    rw [hg4] at harp
    exact absurd harp (by decide)
  · have hlan : arpCacheLookup (netStep s (.frame env .lan f n)).nat (ipSrc f) =
        some (ethSrc f) := by
      rw [arpCacheLookup_congr hopen.arp]
      exact arpCacheLookup_add_self s.nat (env.tick 0) (ipSrc f) (ethSrc f)
    rw [hlog] at hg
    rcases mem_sendFrame_log hg with hg | ⟨hg, -⟩
    · exact absurd hg (by simp [assigned])
    · cases hg
      refine ⟨⟨⟨i, ?_, ?_, ?_⟩, hlan, hcached⟩, h₁, h₂, h₃, h₅⟩
      · rw [h₄]
        exact hopen.natFindReverseEntry
      · rw [hopen.table_self]
      · rw [hopen.table_self]

/-- A request to a known host is forwarded: with no session, a free slot, and the destination in the
cache, the packet goes out from the port at which the counter stands. -/
theorem forwarded_of_cached {s : NetState} {f : Frame} {n : ℕ} (env : Env) (hcfg : Configured s)
    (hdev : s.wanIf.dev.isSome = true) (hout : Outgoing f n) (hfresh : Fresh s f)
    (hfree : natAllocEntry s.nat ≠ none)
    (hcached : arpCacheLookup (learnt env s f).net.nat (ipDst f) ≠ none) :
    ∃ g m, NetEvent.tx .wan g m ∈ netLog s (.frame env .lan f n) ∧ ethType g = 0x0800 ∧
      ipProtocol g = ipProtocol f ∧ ipSrc g = natCfgInit.wanIp ∧ ipDst g = ipDst f ∧
      outPort g = s.nat.nextPort ∧ outDstPort g = outDstPort f := by
  rcases hout.cases hfresh env hcfg hdev with ⟨hfull, -⟩ | ⟨i, hopen, ⟨hmiss, -⟩ |
    ⟨g, -, hlog, h₁, h₂, h₃, h₄, h₅, h₆⟩⟩
  · exact absurd hfull hfree
  · rw [arpCacheLookup_congr hopen.arp] at hmiss
    exact absurd hmiss hcached
  · have hfits := hout.complete.fits
    have hframe := hout.complete.frame
    rw [sendFrame_eq g (by exact hdev) (by omega) (by omega)] at hlog
    refine ⟨g, 14 + ipTotalLength f, ?_, h₆.trans hout.complete.ipv4, h₁, h₂, h₃, h₄, h₅⟩
    rw [hlog]
    exact List.mem_append_right _ (List.mem_singleton_self _)

/-! ## From the outside to the LAN -/

/-- What an inbound block for a packet of the frame `r` rewrites. -/
structure InboundBlock (r : Frame) (rewrite : Ip4 → UInt16 → Frame → Frame) : Prop where
  rewrites : ∀ ip p g, (∀ k, 12 ≤ k → g k = r k) →
    Rewrites g (rewrite ip p g) 30 ip (inPortOffset (ipProtocol r)) p
      (l4ChecksumOffset (ipProtocol r))
  icmp : ipProtocol r = 1 → ∀ ip p g, (∀ k, 12 ≤ k → g k = r k) → IcmpChecksumOk (rewrite ip p g)
  transport : ipProtocol r ≠ 1 → ∀ ip p g, (∀ k, 12 ≤ k → g k = r k) →
    TransportChecksumOk (rewrite ip p g)

/-- An inbound block that finds the session and the host sends the rewritten packet. -/
lemma natInbound_hit {c : Proc} (now : UInt32) {n : ℕ} {protocol : UInt8} {wanPort srcPort : UInt16}
    (rewrite : Ip4 → UInt16 → Frame → Frame) {i : Fin natTableSize} {dev : VirtioNetDev} {mac : Mac}
    (hfind : natFindReverseEntry c.net.nat protocol wanPort (ipSrc c.frame) srcPort = some i)
    (harp : arpCacheLookup c.net.nat (c.net.nat.natTable i).lanIp = some mac)
    (hdev : c.net.lanIf.dev = some dev) (hn : n ≤ virtioNetMaxFrameSize)
    (ht : 14 + ipTotalLength c.frame ≤ virtioNetMaxFrameSize) :
    let g := rewrite (c.net.nat.natTable i).lanIp (c.net.nat.natTable i).lanPort
      (wrMac (wrMac c.frame 6 dev.mac) 0 mac)
    (natInbound c now n protocol wanPort srcPort rewrite).2 = some 1 ∧
      (natInbound c now n protocol wanPort srcPort rewrite).1.log =
        c.log ++ [.tx .lan g (14 + ipTotalLength c.frame)] := by
  intro g
  have hsome : c.net.lanIf.dev.isSome = true := by
    rw [hdev]
    rfl
  have hmac : c.net.lanIf.mac = dev.mac := by rw [NetInterface.mac, hdev]
  obtain ⟨-, -, ⟨hlacks, -⟩ | ⟨j, mac', g', hj, -, -, -, hmac', hg', hr⟩⟩ :=
    natInbound_cases c now n protocol wanPort srcPort rewrite
  · exact absurd harp (hlacks i mac hfind hn hsome)
  · obtain rfl : i = j := Option.some.inj (hfind.symm.trans hj)
    obtain rfl : mac = mac' := Option.some.inj (harp.symm.trans hmac')
    rw [hmac] at hg'
    rw [hr, sendFrame_eq g' (by exact hsome) (by omega) ht, hg']
    exact ⟨rfl, rfl⟩

/-- The sections for packets from the WAN run the inbound block of the packet's protocol, and if it
returns nothing else is run.

**Proof sketch.** By the protocol: ICMP is for the first of the two sections, TCP and UDP for the
second. -/
lemma wanSections_eq (env : Env) {d : Proc} {n : ℕ} (hc : CompletePacket d.frame n)
    (hwan : natIsWanIp d.net.nat.natCfg (ipDst d.frame) = true)
    (hecho : ipProtocol d.frame = 1 → icmpType d.frame = 0) (k : Proc → Flow) :
    ∃ rewrite, InboundBlock d.frame rewrite ∧
      ((natInbound d (env.tick 1) n (ipProtocol d.frame) (inPort d.frame) (inSrcPort d.frame)
        rewrite).2 = some 1 →
      ((wanIcmpSection env d .wan n).next fun c => (wanTransportSection env c .wan n).next k) =
        natInbound d (env.tick 1) n (ipProtocol d.frame) (inPort d.frame) (inSrcPort d.frame)
          rewrite) := by
  have h8 := hc.icmp
  have hmin := hc.header
  by_cases h1 : ipProtocol d.frame = 1
  · refine ⟨fun lanIp lanPort f => updateIcmp (updateIpHeader f 30 lanIp) lanPort,
      ⟨fun ip p g hg => ?_, fun _ ip p g hg => ?_, fun h => absurd h1 h⟩, fun hret => ?_⟩
    · rw [h1]
      exact (hc.rewrites_icmp hg ip p (by omega) (by omega)).1
    · exact (hc.rewrites_icmp hg ip p (by omega) (by omega)).2
    · have hsec : wanIcmpSection env d .wan n = natInbound d (env.tick 1) n (ipProtocol d.frame)
          (inPort d.frame) (inSrcPort d.frame)
          fun lanIp lanPort f => updateIcmp (updateIpHeader f 30 lanIp) lanPort := by
        unfold wanIcmpSection
        rw [if_pos ⟨hwan, rfl, h1⟩, if_pos (by omega), if_pos (hecho h1), natInboundIcmp, inPort,
          if_pos h1, inSrcPort, if_pos h1, h1]
        rfl
      rw [hsec]
      unfold Flow.next
      rw [hret]
  · have hkind : ipProtocol d.frame = 6 ∨ ipProtocol d.frame = 17 := hc.kind.resolve_left h1
    refine ⟨fun lanIp lanPort f => updateTransport (updateIpHeader f 30 lanIp) 2 lanPort,
      ⟨fun ip p g hg => ?_, fun h => absurd h h1, fun _ ip p g hg => ?_⟩, fun hret => ?_⟩
    · rw [inPortOffset, if_neg h1, l4ChecksumOffset, if_neg h1]
      exact (hc.rewrites_transport hg ip p (by omega) (by omega) (by omega)).1
    · exact (hc.rewrites_transport hg ip p (by omega) (by omega) (by omega)).2
    · have hfirst : wanIcmpSection env d .wan n = (d, none) := by
        unfold wanIcmpSection
        rw [if_neg fun h => h1 h.2.2]
      have hsec : wanTransportSection env d .wan n = natInbound d (env.tick 1) n
          (ipProtocol d.frame) (inPort d.frame) (inSrcPort d.frame)
          fun lanIp lanPort f => updateTransport (updateIpHeader f 30 lanIp) 2 lanPort := by
        unfold wanTransportSection
        rw [if_pos ⟨hwan, rfl, hkind⟩, if_pos (by omega), natInboundTransport, inPort, if_neg h1,
          inSrcPort, if_neg h1]
        simp only [natProto_eq hkind]
      rw [hfirst]
      show (wanTransportSection env d .wan n).next k = _
      rw [hsec]
      unfold Flow.next
      rw [hret]

/-- The packet that an inbound block sends is the reply, readdressed. -/
lemma InboundBlock.restored {f r : Frame} {rewrite : Ip4 → UInt16 → Frame → Frame}
    (hb : InboundBlock r rewrite) (hl : 20 ≤ ipHeaderLen r) (lanMac : Mac) :
    Restored f r (rewrite (ipSrc f) (outPort f) (wrMac (wrMac r 6 lanMac) 0 (ethSrc f)))
    lanMac := by
  set g₀ := wrMac (wrMac r 6 lanMac) 0 (ethSrc f) with hg₀
  have hagree : ∀ k, 12 ≤ k → g₀ k = r k := fun k hk => by
    rw [hg₀, wrMac_of_ne _ _ (by omega), wrMac_of_ne _ _ (by omega)]
  have hshape₀ := sameShape_of_agree hagree
  have hrw := hb.rewrites (ipSrc f) (outPort f) g₀ hagree
  have hshape := hrw.sameShape (by omega) (by rw [hshape₀.ipHeaderLen]; exact hl)
  have h34 : 34 ≤ l4 r := by unfold l4; omega
  have hport := hrw.port
  have hsame := hrw.same
  rw [hshape₀.l4] at hport hsame
  have heth : ∀ k, k < 12 → rewrite (ipSrc f) (outPort f) g₀ k = g₀ k := fun k hk =>
    hsame k (by omega) (by omega) (by omega) (by omega) (by omega) (by omega) (by omega) (by omega)
  refine ⟨?_, ?_, hrw.addr, ?_, ?_, hrw.ipChecksum, fun h => hb.icmp h _ _ _ hagree,
    fun h => hb.transport h _ _ _ hagree, fun k hk h₁ h₂ h₃ h₄ h₅ h₆ h₇ h₈ => ?_⟩
  · rw [Gateway.ethDest, rdMac_congr fun k _ hk => heth k (by omega), hg₀, rdMac_wrMac]
  · rw [Gateway.ethSrc, rdMac_congr fun k _ hk => heth k (by omega), hg₀,
      rdMac_congr (g := wrMac r 6 lanMac) fun k hk _ => wrMac_of_ne _ _ (by omega), rdMac_wrMac]
  · unfold inPort
    rw [hshape.ipProtocol, hshape₀.ipProtocol]
    unfold inPortOffset at hport
    by_cases h1 : ipProtocol r = 1
    · rw [if_pos h1] at hport ⊢
      rw [icmpIdentifier, hshape.l4, hshape₀.l4]
      exact hport
    · rw [if_neg h1] at hport ⊢
      rw [Gateway.dstPort, hshape.l4, hshape₀.l4]
      exact hport
  · rw [hrw.ttl, ipTtl, ipTtl, hagree 22 (by omega)]
  · rw [hsame k h₁ h₂ h₃ h₄ h₅ h₆ h₇ h₈, hagree k hk]

/-- **A ready state delivers the reply.** -/
theorem restored_of_ready {s : NetState} {env : Env} {f r : Frame} {n : ℕ} {lanDev : VirtioNetDev}
    (hcfg : Configured s) (hdev : s.lanIf.dev = some lanDev) (hc : CompletePacket r n)
    (hready : Ready s (ipProtocol r) (ipSrc r) (inSrcPort r) (inPort r) (ipSrc f) (outPort f)
      (ethSrc f)) (hne : ipSrc r ≠ ipSrc f) (hdst : ipDst r = natCfgInit.wanIp)
    (hecho : ipProtocol r = 1 → icmpType r = 0) :
    ∃ g, netLog s (.frame env .wan r n) = [.tx .lan g (14 + ipTotalLength r)] ∧
      Restored f r g lanDev.mac := by
  set d := learnt env s r with hd
  obtain ⟨i, hfind, hip, hport⟩ := hready.session
  have hwan : natIsWanIp d.net.nat.natCfg (ipDst r) = true := by
    rw [natIsWanIp, ipEqual_iff]
    exact hdst.trans (congrArg NatConfig.wanIp hcfg.cfg.symm)
  obtain ⟨rewrite, hblock, hsec⟩ := wanSections_eq env (d := d) hc hwan hecho fun c =>
    if isForUs c .wan then localSection env c .wan
    else (lanSection env c .wan n).next fun c => wanLateSection env c .wan n
  -- learning the source of the reply, which is cached, does not disturb the LAN host
  have harp : arpCacheLookup d.net.nat (d.net.nat.natTable i).lanIp = some (ethSrc f) := by
    rw [show (d.net.nat.natTable i).lanIp = ipSrc f from hip]
    exact (arpCacheLookup_add_of_cached (env.tick 0) (ethSrc r) hready.dstHost hne).trans
      hready.lanHost
  obtain ⟨hret, hlog⟩ :=
    natInbound_hit (c := d) (i := i) (env.tick 1) rewrite hfind harp hdev hc.frame
      (hc.fits.trans hc.frame)
  rw [show (d.net.nat.natTable i).lanIp = ipSrc f from hip,
    show (d.net.nat.natTable i).lanPort = outPort f from hport] at hlog
  refine ⟨_, ?_, hblock.restored hc.headerLen lanDev.mac⟩
  rw [netLog, hc.processFrame, hc.processIpv4, ← hd, hsec hret]
  exact hlog

/-- The devices of a reachable state are those of the start, and it is configured. -/
lemma devices_run (lanDev wanDev : Option VirtioNetDev) (ops : List NetOp) :
    let s := run netStep (netInit lanDev wanDev) ops
    Configured s ∧ s.lanIf.dev = lanDev ∧ s.wanIf.dev = wanDev := by
  refine run_invariant (I := fun s => Configured s ∧ s.lanIf.dev = lanDev ∧
    s.wanIf.dev = wanDev) ?_ ?_ ops
  · rintro s op ⟨hcfg, hlan, hwan⟩
    obtain ⟨hlan', hwan'⟩ := devices_netStep op hcfg
    exact ⟨configured_netStep op hcfg, hlan'.trans hlan, hwan'.trans hwan⟩
  · exact ⟨configured_netInit lanDev wanDev, rfl, rfl⟩

/-! ## Both ways -/

/-- A packet `f` from the LAN to the outside opens a session in the state `s` and is forwarded as
`g`; the packet `r` answers `g`. -/
structure Exchange (s : NetState) (env : Env) (f : Frame) (n : ℕ) (g r : Frame) (n' : ℕ) :
    Prop where
  outgoing : Outgoing f n
  fresh : Fresh s f
  sent : ∃ m, NetEvent.tx .wan g m ∈ netLog s (.frame env .lan f n)
  packet : ethType g = 0x0800
  reply : CompletePacket r n'
  answers : ReplyTo g r

/-- The reply of an exchange is delivered, in any state with the configuration of the code. -/
theorem Exchange.delivered {s : NetState} {env : Env} {f g r : Frame} {n n' : ℕ}
    {lanDev wanDev : VirtioNetDev} (h : Exchange s env f n g r n') (hcfg : Configured s)
    (hlan : s.lanIf.dev = some lanDev) (hwan : s.wanIf.dev = some wanDev) (env' : Env) :
    ∃ g', netLog (netStep s (.frame env .lan f n)) (.frame env' .wan r n') =
        [.tx .lan g' (14 + ipTotalLength r)] ∧ Restored f r g' lanDev.mac := by
  obtain ⟨m, hsent⟩ := h.sent
  obtain ⟨hready, hproto, hsrc, hdst, hport⟩ := ready_of_forwarded hcfg (by rw [hwan]; rfl)
    h.outgoing h.fresh hsent h.packet
  have hsrc' : ipSrc r = ipDst f := h.answers.src.trans hdst
  have hne : ipSrc r ≠ ipSrc f := by
    rw [hsrc']
    exact h.outgoing.ipDst_ne_ipSrc
  refine restored_of_ready (configured_netStep _ hcfg)
    ((devices_netStep (.frame env .lan f n) hcfg).1.trans hlan) h.reply ?_ hne
    (h.answers.dst.trans hsrc) h.answers.echo
  rw [h.answers.protocol.trans hproto, hsrc', h.answers.srcPort.trans hport, h.answers.dstPort]
  exact hready

/-- **The round trip.** In every reachable state, if a packet from the LAN to the outside opens a
session and is forwarded, then the reply to the forwarded packet, processed next, is sent to the
LAN: to the Ethernet and IP address and the port (or identifier) of the sender of the first packet,
with the time to live one less, right checksums, and no other change. -/
theorem roundTrip (lanDev wanDev : VirtioNetDev) (ops : List NetOp) (env env' : Env)
    (f g r : Frame) (n n' : ℕ)
    (h : Exchange (run netStep (netInit (some lanDev) (some wanDev)) ops) env f n g r n') :
    ∃ g', netLog (run netStep (netInit (some lanDev) (some wanDev)) (ops ++ [.frame env .lan f n]))
        (.frame env' .wan r n') = [.tx .lan g' (14 + ipTotalLength r)] ∧
      Restored f r g' lanDev.mac := by
  obtain ⟨hcfg, hlan, hwan⟩ := devices_run (some lanDev) (some wanDev) ops
  rw [run_append, run_cons, run_nil]
  exact h.delivered hcfg hlan hwan env'

/-! ## A DNS query -/

/-- The frame that holds the given bytes. -/
def frameOf (bytes : List UInt8) : Frame := fun k => bytes.getD k 0

/-- The surroundings in which all ticks are zero. -/
def quietEnv : Env := ⟨fun _ => 0, fun _ => 0⟩

/-- The device of the LAN interface. -/
def demoLanDev : VirtioNetDev := ⟨⟨0x52, 0x54, 0, 0, 0, 1⟩⟩

/-- The device of the WAN interface. -/
def demoWanDev : VirtioNetDev := ⟨⟨0x52, 0x54, 0, 0, 0, 2⟩⟩

/-- The ARP reply of 8.8.8.8, from the WAN. -/
def arpAnswer : Frame := frameOf [
  0x52, 0x54, 0, 0, 0, 2, 2, 0, 0, 0, 0, 8, 8, 6,
  0, 1, 8, 0, 6, 4, 0, 2, 2, 0, 0, 0, 0, 8, 8, 8, 8, 8, 0x52, 0x54, 0, 0, 0, 2, 10, 3, 5, 99]

/-- An empty UDP packet from 192.168.1.10, port 1000, to 8.8.8.8, port 53. -/
def dnsQuery : Frame := frameOf [
  0x52, 0x54, 0, 0, 0, 1, 2, 0, 0, 0, 0, 16, 8, 0,
  0x45, 0, 0, 28, 0, 0, 0, 0, 64, 17, 0, 0, 192, 168, 1, 10, 8, 8, 8, 8, 3, 232, 0, 53, 0, 8, 0, 0]

/-- An empty UDP packet from 8.8.8.8, port 53, to 10.3.5.99, port 20000. -/
def dnsAnswer : Frame := frameOf [
  0x52, 0x54, 0, 0, 0, 2, 2, 0, 0, 0, 0, 8, 8, 0,
  0x45, 0, 0, 28, 0, 0, 0, 0, 64, 17, 0, 0, 8, 8, 8, 8, 10, 3, 5, 99, 0, 53, 0x4e, 0x20, 0, 8, 0, 0]

/-- The state at the start, with both devices. -/
def demoInit : NetState := netInit (some demoLanDev) (some demoWanDev)

/-- The demo starts configured. -/
lemma configured_demoInit : Configured demoInit :=
  configured_netInit (some demoLanDev) (some demoWanDev)

/-- The operation that learns the Ethernet address of 8.8.8.8. -/
def learnOp : NetOp := .frame quietEnv .wan arpAnswer 42

/-- The configuration after the ARP reply. -/
lemma configured_learnOp : Configured (netStep demoInit learnOp) :=
  configured_netStep learnOp configured_demoInit

/-- The DNS query is a packet for the outside. -/
lemma outgoing_dnsQuery : Outgoing dnsQuery 42 :=
  ⟨⟨by decide, by decide⟩, ⟨by decide, by decide, by decide, by decide, by decide, by decide,
    by decide⟩, by decide, by decide, by decide⟩

/-- The DNS answer is a complete packet. -/
lemma complete_dnsAnswer : CompletePacket dnsAnswer 42 :=
  ⟨by decide, by decide, by decide, by decide, by decide, by decide, by decide⟩

/-- The ARP reply is learnt. -/
lemma netStep_learnOp_nat : (netStep demoInit learnOp).nat =
    arpCacheAdd (natInit natCfgInit) 0 ⟨8, 8, 8, 8⟩ ⟨2, 0, 0, 0, 0, 8⟩ := by
  have hproc : (netDemoProcessFrame quietEnv demoInit .wan arpAnswer 42).1.net.nat =
      arpCacheAdd (natInit natCfgInit) 0 (rdIp arpAnswer 28) (rdMac arpAnswer 22) := by
    unfold netDemoProcessFrame processArp
    simp only
    rw [if_neg (by decide), if_pos (by decide), if_neg (by decide), if_neg (by decide),
      if_pos (by decide)]
    rfl
  simp only [netStep, learnOp]
  exact hproc

/-- No session is open after the ARP reply. -/
lemma fresh_learnOp (f : Frame) : Fresh (netStep demoInit learnOp) f := by
  unfold Fresh natScanEntry
  rw [netStep_learnOp_nat, Fin.find?_eq_none_iff]
  intro i
  rfl

/-- A request from the LAN to 8.8.8.8, whose Ethernet address is known, is forwarded from the first
port of the range. -/
lemma forwarded_learnt {f : Frame} {n : ℕ} (hout : Outgoing f n)
    (hdst : ipDst f = ⟨8, 8, 8, 8⟩) :
    ∃ g m, NetEvent.tx .wan g m ∈ netLog (netStep demoInit learnOp) (.frame quietEnv .lan f n) ∧
      ethType g = 0x0800 ∧ ipProtocol g = ipProtocol f ∧ ipSrc g = natCfgInit.wanIp ∧
      ipDst g = ipDst f ∧ outPort g = 20000 ∧ outDstPort g = outDstPort f := by
  have hnat := netStep_learnOp_nat
  have hdev : (netStep demoInit learnOp).wanIf.dev = some demoWanDev :=
    (devices_netStep learnOp configured_demoInit).2
  have hfree : natAllocEntry (netStep demoInit learnOp).nat ≠ none := by
    rw [hnat, Ne, natAllocEntry_eq_none_iff]
    intro hall
    exact absurd (hall ⟨0, by decide⟩) (by decide)
  have hcached : arpCacheLookup (learnt quietEnv (netStep demoInit learnOp) f).net.nat
      (ipDst f) ≠ none := by
    have hne : ipSrc f ≠ ⟨8, 8, 8, 8⟩ := by
      rw [← hdst]
      exact hout.ipDst_ne_ipSrc.symm
    have h := arpCacheLookup_second natCfgInit 0 (quietEnv.tick 0) ⟨2, 0, 0, 0, 0, 8⟩
      (ethSrc f) hne
    rw [← hnat] at h
    rw [hdst, learnt, h]
    simp
  have h := forwarded_of_cached quietEnv configured_learnOp (by rw [hdev]; rfl) hout
    (fresh_learnOp f) hfree hcached
  rw [hnat] at h
  exact h

/-- The query is forwarded, and the answer answers it. -/
lemma exchange_dns : ∃ g, Exchange (netStep demoInit learnOp) quietEnv dnsQuery 42 g
    dnsAnswer 42 := by
  obtain ⟨g, m, hsent, hpacket, hproto, hsrc, hdst, hport, hdport⟩ :=
    forwarded_learnt outgoing_dnsQuery (by decide)
  exact ⟨g, outgoing_dnsQuery, fresh_learnOp dnsQuery, ⟨m, hsent⟩, hpacket, complete_dnsAnswer,
    by rw [hproto]; decide, by rw [hdst]; decide, by rw [hsrc]; decide, by rw [hdport]; decide,
    by rw [hport]; decide, by decide⟩

/-- The answer to the query reaches the host that asked. -/
theorem roundTrip_dns : ∃ g', netLog (run netStep demoInit ([learnOp] ++
      [.frame quietEnv .lan dnsQuery 42])) (.frame quietEnv .wan dnsAnswer 42) = [.tx .lan g' 42] ∧
    Restored dnsQuery dnsAnswer g' demoLanDev.mac := by
  obtain ⟨g, h⟩ := exchange_dns
  exact roundTrip demoLanDev demoWanDev [learnOp] quietEnv quietEnv dnsQuery g dnsAnswer 42 42 h

end Gateway
