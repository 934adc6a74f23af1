import UcosArm64.Gateway.RoundTrip

set_option relaxedAutoImplicit false
set_option autoImplicit false

/-!
# What happens to an IPv4 packet

The six copies of the translation code and the two tests for echo requests come down to four
outcomes, and which of them a packet meets can be read off its headers. The theorem of this module
says so once; what is sent and what is read is then proved for the four outcomes.

## Main definitions

* `Gateway.Verdict`, `Gateway.verdict` — the four outcomes, and the one that a packet meets.
* `Gateway.translated` — a packet with its address, port, time to live and checksums rewritten.
* `Gateway.Verdict.run` — the code that runs for an outcome.

## Main results

* `Gateway.processFrame_ipv4` — an IPv4 packet is processed according to its verdict.
* `Gateway.processFrame_of_not_ipv4` — any other frame is left to the ARP branch.
-/

namespace Gateway

/-! ## The outcomes -/

/-- What becomes of an IPv4 packet: nothing, an echo reply, or a translation from the WAN or from
the LAN. -/
inductive Verdict
  | drop
  | echo
  | inbound
  | outbound
  deriving DecidableEq

/-- The packet has a protocol that is translated, and a length that covers its header. -/
def HasTransport (f : Frame) : Prop :=
  (ipProtocol f = 1 ∨ ipProtocol f = 6 ∨ ipProtocol f = 17) ∧
    ipHeaderLen f + minTransportLen (ipProtocol f) ≤ ipTotalLength f

instance (f : Frame) : Decidable (HasTransport f) := inferInstanceAs (Decidable (_ ∧ _))

/-- The verdict on a packet with a transport header that comes from the WAN. -/
def wanVerdict (f : Frame) : Verdict :=
  if ipDst f = natCfgInit.wanIp then
    if ipProtocol f = 1 then
      if icmpType f = 0 then .inbound else if icmpType f = 8 then .echo else .drop
    else .inbound
  else .drop

/-- The verdict on a packet with a transport header that comes from the LAN. -/
def lanVerdict (f : Frame) : Verdict :=
  if ipDst f = natCfgInit.lanIp ∨ ipDst f = natCfgInit.wanIp then
    if ipProtocol f = 1 ∧ icmpType f = 8 then .echo else .drop
  else if natIsLanIp natCfgInit (ipSrc f) then
    if ipProtocol f = 1 ∧ icmpType f ≠ 8 then .drop else .outbound
  else .drop

/-- The verdict on a packet. -/
def verdict (id : IfId) (f : Frame) : Verdict :=
  if HasTransport f then
    match id with
    | .wan => wanVerdict f
    | .lan => lanVerdict f
  else .drop

/-- Without a transport header nothing happens. -/
lemma verdict_of_not {f : Frame} (h : ¬HasTransport f) (id : IfId) : verdict id f = .drop := by
  unfold verdict
  rw [if_neg h]

/-- The verdict on a packet from the WAN. -/
lemma verdict_wan {f : Frame} (h : HasTransport f) : verdict .wan f = wanVerdict f := if_pos h

/-- The verdict on a packet from the LAN. -/
lemma verdict_lan {f : Frame} (h : HasTransport f) : verdict .lan f = lanVerdict f := if_pos h

/-- A packet that is not dropped has a transport header. -/
lemma hasTransport_of_verdict {id : IfId} {f : Frame} (h : verdict id f ≠ .drop) :
    HasTransport f := by
  by_contra ht
  exact h (verdict_of_not ht id)

/-- Only ICMP packets are answered. -/
lemma protocol_of_echo {id : IfId} {f : Frame} (h : verdict id f = .echo) : ipProtocol f = 1 := by
  have ht := hasTransport_of_verdict (h.trans_ne (by decide))
  cases id with
  | wan =>
    rw [verdict_wan ht] at h
    unfold wanVerdict at h
    split_ifs at h with h₁ h₂
    exact h₂
  | lan =>
    rw [verdict_lan ht] at h
    unfold lanVerdict at h
    split_ifs at h with h₁ h₂
    exact h₂.1

/-- Packets from the LAN are not translated inbound. -/
lemma verdict_lan_ne_inbound (f : Frame) : verdict .lan f ≠ .inbound := by
  unfold verdict lanVerdict
  split_ifs <;> simp

/-- Packets from the WAN are not translated outbound. -/
lemma verdict_wan_ne_outbound (f : Frame) : verdict .wan f ≠ .outbound := by
  unfold verdict wanVerdict
  split_ifs <;> simp

/-- The frame of `length` bytes starts with the headers of an IPv4 packet. -/
structure IsIpv4 (f : Frame) (length : ℕ) : Prop where
  room : 34 ≤ length
  type : ethType f = 0x0800
  version : ipVersion f = 4
  ihl : 5 ≤ ipIhl f

/-- The IP header of a valid packet has its least length. -/
lemma IsIpv4.headerLen {f : Frame} {n : ℕ} (h : IsIpv4 f n) : 20 ≤ ipHeaderLen f :=
  ipHeaderLen_ge h.ihl

/-- The least transport header has 8 bytes. -/
lemma HasTransport.icmp {f : Frame} (h : HasTransport f) : ipHeaderLen f + 8 ≤ ipTotalLength f := by
  have h₁ := h.2
  have h₂ := minTransportLen_ge (ipProtocol f)
  omega

/-- An ICMP packet needs room for the least header. -/
lemma hasTransport_icmp_iff {f : Frame} (h : ipProtocol f = 1) :
    ipHeaderLen f + 8 ≤ ipTotalLength f ↔ HasTransport f := by
  refine ⟨fun hroom => ⟨Or.inl h, ?_⟩, HasTransport.icmp⟩
  rw [h, minTransportLen, if_neg (by decide)]
  exact hroom

/-- Packets of one shape have the same kind of header. -/
lemma SameShape.hasTransport {f g : Frame} (h : SameShape f g) : HasTransport g ↔
    HasTransport f := by
  unfold HasTransport
  rw [h.ipProtocol, h.ipHeaderLen, h.ipTotalLength]

/-! ## Translation -/

/-- The interface that a translated packet leaves by. -/
def IfId.other : IfId → IfId
  | .lan => .wan
  | .wan => .lan

/-- The offset of the address that is rewritten: the source of a packet from the LAN, the
destination of one from the WAN. -/
def addrOffset : IfId → ℕ
  | .lan => 26
  | .wan => 30

/-- The address lies in the fixed part of the IP header. -/
lemma addrOffset_bounds (id : IfId) : 26 ≤ addrOffset id ∧ addrOffset id + 4 ≤ 34 := by
  cases id <;> simp [addrOffset]

/-- The offset of the port (or identifier) that is rewritten. -/
def portOffset : IfId → UInt8 → ℕ
  | .lan => outPortOffset
  | .wan => inPortOffset

/-- A packet from the interface `id`, rewritten to the address `ip` and the port or identifier
`port`. -/
def translated (id : IfId) (protocol : UInt8) (ip : Ip4) (port : UInt16) (f : Frame) : Frame :=
  let f := updateIpHeader f (addrOffset id) ip
  if protocol = 1 then updateIcmp f port else updateTransport f (portOffset id protocol) port

/-- What an outbound block does without an Ethernet address for the destination. -/
def outMiss (protocol : UInt8) (c : Proc) : Proc :=
  if protocol = 1 then c else sendArpRequestForIp c .wan (ipDst c.frame)

/-- What an outbound block does without an Ethernet address keeps the state and the events. -/
lemma outMiss_keeps (protocol : UInt8) (d : Proc) :
    (outMiss protocol d).net = d.net ∧ ∀ e ∈ d.log, e ∈ (outMiss protocol d).log := by
  unfold outMiss sendArpRequestForIp
  split_ifs
  · exact ⟨rfl, fun _ he => he⟩
  · exact ⟨sendFrame_net _ _ _ _, fun _ he => mem_log_sendFrame _ _ _ he⟩

/-- It sends nothing but ARP requests. -/
lemma mem_outMiss_log {protocol : UInt8} {d : Proc} {g : Frame} {m : ℕ}
    (h : NetEvent.tx .wan g m ∈ (outMiss protocol d).log) :
    NetEvent.tx .wan g m ∈ d.log ∨ ethType g = 0x0806 := by
  unfold outMiss at h
  split_ifs at h
  · exact Or.inl h
  · exact mem_sendArpRequestForIp_log h

/-- The inbound block of the packet's protocol. -/
def runInbound (env : Env) (c : Proc) (length : ℕ) : Flow :=
  natInbound c (env.tick 1) length (ipProtocol c.frame) (inPort c.frame) (inSrcPort c.frame)
    (translated .wan (ipProtocol c.frame))

/-- The outbound block of the packet's protocol. -/
def runOutbound (env : Env) (c : Proc) (length : ℕ) : Flow :=
  natOutbound c (env.tick 1) length (ipProtocol c.frame) (outPort c.frame) (outDstPort c.frame)
    (outMiss (ipProtocol c.frame)) (translated .lan (ipProtocol c.frame) natCfgInit.wanIp)

/-- The code that runs for a verdict. -/
def Verdict.run (env : Env) (c : Proc) (id : IfId) (length : ℕ) : Verdict → Proc
  | .drop => c
  | .echo => sendIcmpEchoReply env c id (14 + ipTotalLength c.frame)
  | .inbound => (runInbound env c length).1
  | .outbound => if c.net.wanIf.dev.isSome then (runOutbound env c length).1 else c

/-- The effect of a translation, for both directions and all protocols. -/
theorem rewrites_translated (id : IfId) {f : Frame} (ip : Ip4) (port : UInt16)
    (hl : 20 ≤ ipHeaderLen f) (ht : HasTransport f) :
    Rewrites f (translated id (ipProtocol f) ip port f) (addrOffset id) ip
        (portOffset id (ipProtocol f)) port (l4ChecksumOffset (ipProtocol f)) ∧
      (ipProtocol f = 1 → IcmpChecksumOk (translated id (ipProtocol f) ip port f)) ∧
      (ipProtocol f ≠ 1 → TransportChecksumOk (translated id (ipProtocol f) ip port f)) := by
  have ha := addrOffset_bounds id
  unfold translated
  simp only
  by_cases h1 : ipProtocol f = 1
  · have hport : portOffset id (ipProtocol f) = 4 := by
      cases id <;> simp [portOffset, outPortOffset, inPortOffset, h1]
    obtain ⟨hrw, hsum⟩ := rewrites_icmp f (addrOffset id) ip port ha.1 ha.2 hl ht.icmp
    rw [if_pos h1, hport, l4ChecksumOffset, if_pos h1]
    exact ⟨hrw, fun _ => hsum, fun h => absurd h1 h⟩
  · have hport : portOffset id (ipProtocol f) ≤ 2 := by
      cases id <;> simp [portOffset, outPortOffset, inPortOffset, h1]
    obtain ⟨hrw, hsum⟩ :=
      rewrites_transport f (addrOffset id) (portOffset id (ipProtocol f)) ip port
      ha.1 ha.2 hl hport ht.2
    rw [if_neg h1, l4ChecksumOffset, if_neg h1]
    exact ⟨hrw, fun h => absurd h h1, fun _ => hsum⟩

/-! ## Packets from the WAN -/

/-- The inbound block for ICMP, under its verdict. -/
lemma natInboundIcmp_eq (env : Env) {c : Proc} (length : ℕ) (h1 : ipProtocol c.frame = 1) :
    natInboundIcmp env 1 c length = runInbound env c length := by
  unfold natInboundIcmp runInbound
  rw [inPort, if_pos h1, inSrcPort, if_pos h1, h1]
  rfl

/-- The inbound block for TCP and UDP, under its verdict. -/
lemma natInboundTransport_eq (env : Env) {c : Proc} (length : ℕ)
    (h : ipProtocol c.frame = 6 ∨ ipProtocol c.frame = 17) :
    natInboundTransport env 1 c length = runInbound env c length := by
  have h1 : ipProtocol c.frame ≠ 1 := by
    rcases h with h | h
    · rw [h]; decide
    · rw [h]; decide
  unfold natInboundTransport runInbound
  simp only
  rw [natProto_eq h, inPort, if_neg h1, inSrcPort, if_neg h1]
  congr 1
  funext ip port f
  rw [translated, if_neg h1, portOffset, inPortOffset, if_neg h1]
  rfl

/-- A flow that lets control run on. -/
lemma Flow.next_none (c : Proc) (k : Proc → Flow) : Flow.next (c, none) k = k c := rfl

/-- The section for packets to the gateway does nothing but answer echo requests. -/
lemma localSection_of_not_echo (env : Env) {c : Proc} (id : IfId)
    (h : ipProtocol c.frame = 1 → HasTransport c.frame → icmpType c.frame ≠ 8) :
    (localSection env c id).1 = c := by
  unfold localSection
  simp only
  split_ifs with h₁ h₂ h₃
  · rfl
  · exact absurd h₃.2 (h h₂ ((hasTransport_icmp_iff h₂).mp (by omega)))
  · rfl
  · rfl

/-- The section for packets to the gateway answers an echo request. -/
lemma localSection_of_echo (env : Env) {c : Proc} (id : IfId) (h1 : ipProtocol c.frame = 1)
    (ht : HasTransport c.frame) (h8 : icmpType c.frame = 8) :
    (localSection env c id).1 = sendIcmpEchoReply env c id (14 + ipTotalLength c.frame) := by
  have hroom := ht.icmp
  unfold localSection
  simp only
  rw [if_neg (by omega), if_pos h1, if_pos ⟨by omega, h8⟩]

/-- A packet from the WAN is for the gateway if it is for the WAN address. -/
lemma isForUs_wan {c : Proc} (hc : Configured c.net) :
    isForUs c .wan = true ↔ ipDst c.frame = natCfgInit.wanIp := by
  unfold isForUs
  rw [decide_eq_true_iff]
  show ipDst c.frame = c.net.wanIf.localIp ∨ _ ↔ _
  rw [hc.wanIp]
  simp

/-- A packet from the LAN is for the gateway if it is for one of its two addresses. -/
lemma isForUs_lan {c : Proc} (hc : Configured c.net) : isForUs c .lan = true ↔
    ipDst c.frame = natCfgInit.lanIp ∨ ipDst c.frame = natCfgInit.wanIp := by
  unfold isForUs
  rw [decide_eq_true_iff, natIsWanIp, ipEqual_iff, hc.cfg]
  show ipDst c.frame = c.net.lanIf.localIp ∨ _ ↔ _
  rw [hc.lanIp]
  simp

/-- The rest of the function after the first two sections, for a packet from the WAN that is not an
echo request for the gateway: nothing. -/
lemma wanRest_eq (env : Env) {c : Proc} (length : ℕ) (hc : Configured c.net)
    (h : ipDst c.frame = natCfgInit.wanIp → ipProtocol c.frame = 1 → HasTransport c.frame →
      icmpType c.frame ≠ 8) :
    (if isForUs c .wan then localSection env c .wan
      else (lanSection env c .wan length).next fun c => wanLateSection env c .wan length).1 =
        c := by
  cases hus : isForUs c .wan with
  | true =>
    rw [if_pos rfl]
    exact localSection_of_not_echo env .wan (h ((isForUs_wan hc).mp hus))
  | false =>
    rw [if_neg (by simp), lanSection_wan]
    show (wanLateSection env c .wan length).1 = c
    rw [wanLateSection_wan hc hus]

/-- An inbound block that lets control run on is followed by nothing. -/
lemma next_runInbound (env : Env) {c : Proc} (length : ℕ) (hc : Configured c.net)
    (k : Proc → Flow)
    (hk : ∀ d : Proc, Configured d.net → d.frame = c.frame → (k d).1 = d) :
    ((runInbound env c length).next k).1 = (runInbound env c length).1 := by
  rcases Flow.next_cases (runInbound env c length) k with h | ⟨hn, h⟩
  · rw [h]
  · rw [h]
    have heff := effect_natInbound c (env.tick 1) length (ipProtocol c.frame) (inPort c.frame)
      (inSrcPort c.frame) (translated .wan (ipProtocol c.frame))
    exact hk _ (hc.of_sameConfig heff.config) (natInbound_frame hn)

/-- The WAN address is the configured one. -/
lemma natIsWanIp_iff {c : Proc} (hc : Configured c.net) :
    natIsWanIp c.net.nat.natCfg (ipDst c.frame) = true ↔ ipDst c.frame = natCfgInit.wanIp := by
  rw [natIsWanIp, ipEqual_iff, hc.cfg]

/-- The first section runs for ICMP messages to the WAN address. -/
lemma wanIcmpSection_eq (env : Env) {c : Proc} (length : ℕ) (hc : Configured c.net) :
    wanIcmpSection env c .wan length =
      if ipDst c.frame = natCfgInit.wanIp ∧ ipProtocol c.frame = 1 ∧ HasTransport c.frame then
        if icmpType c.frame = 0 then runInbound env c length
        else if icmpType c.frame = 8 then
          (sendIcmpEchoReply env c .wan (14 + ipTotalLength c.frame), some 1)
        else (c, none)
      else (c, none) := by
  have hwan := natIsWanIp_iff hc
  unfold wanIcmpSection
  by_cases h : ipDst c.frame = natCfgInit.wanIp ∧ ipProtocol c.frame = 1
  · rw [if_pos ⟨hwan.mpr h.1, rfl, h.2⟩, natInboundIcmp_eq env length h.2]
    simp only [ge_iff_le, hasTransport_icmp_iff h.2, h, true_and]
  · rw [if_neg fun h' => h ⟨hwan.mp h'.1, h'.2.2⟩, if_neg fun h' => h ⟨h'.1, h'.2.1⟩]

/-- The second section runs for TCP and UDP packets to the WAN address. -/
lemma wanTransportSection_eq (env : Env) {c : Proc} (length : ℕ) (hc : Configured c.net) :
    wanTransportSection env c .wan length =
      if ipDst c.frame = natCfgInit.wanIp ∧ ipProtocol c.frame ≠ 1 ∧ HasTransport c.frame then
        runInbound env c length
      else (c, none) := by
  have hwan := natIsWanIp_iff hc
  unfold wanTransportSection
  by_cases h : ipDst c.frame = natCfgInit.wanIp ∧
      (ipProtocol c.frame = 6 ∨ ipProtocol c.frame = 17)
  · have h1 : ipProtocol c.frame ≠ 1 := by
      rcases h.2 with h | h
      · rw [h]; decide
      · rw [h]; decide
    rw [if_pos ⟨hwan.mpr h.1, rfl, h.2⟩, natInboundTransport_eq env length h.2]
    simp only [HasTransport, h, h1, ne_eq, not_false_eq_true, true_and, or_true]
  · rw [if_neg fun h' => h ⟨hwan.mp h'.1, h'.2.2⟩,
      if_neg fun h' => h ⟨h'.1, h'.2.2.1.resolve_left h'.2.1⟩]

/-- The IPv4 branch for a packet from the WAN runs its verdict.

**Proof sketch.** At most one of the first two sections runs a block. A block that lets control run
on is followed by nothing, since the packet is not an echo request and the last section is never
reached for the WAN address. -/
lemma wanSections_run (env : Env) {d : Proc} (length : ℕ) (hc : Configured d.net) :
    ((wanIcmpSection env d .wan length).next fun c =>
      (wanTransportSection env c .wan length).next fun c =>
        if isForUs c .wan then localSection env c .wan
        else (lanSection env c .wan length).next fun c => wanLateSection env c .wan length).1 =
      (verdict .wan d.frame).run env d .wan length := by
  by_cases hrun : ipDst d.frame = natCfgInit.wanIp ∧ HasTransport d.frame
  · obtain ⟨hdst, ht⟩ := hrun
    rw [verdict, if_pos ht]
    show _ = (wanVerdict d.frame).run env d .wan length
    rw [wanVerdict, if_pos hdst]
    by_cases h1 : ipProtocol d.frame = 1
    · have hskip : ∀ c : Proc, Configured c.net → c.frame = d.frame →
          wanTransportSection env c .wan length = (c, none) := by
        intro c hcfg hf
        rw [wanTransportSection_eq env length hcfg, if_neg]
        rw [hf]
        exact fun h => h.2.1 h1
      rw [wanIcmpSection_eq env length hc, if_pos ⟨hdst, h1, ht⟩, if_pos h1]
      split_ifs with h0 h8
      · refine next_runInbound env length hc _ fun c hcfg hf => ?_
        rw [hskip c hcfg hf, Flow.next_none]
        refine wanRest_eq env length hcfg fun _ _ _ => ?_
        rw [hf, h0]
        decide
      · rfl
      · rw [Flow.next_none, hskip d hc rfl, Flow.next_none]
        exact wanRest_eq env length hc fun _ _ _ => h8
    · rw [wanIcmpSection_eq env length hc, if_neg fun h => h1 h.2.1, Flow.next_none,
        wanTransportSection_eq env length hc, if_pos ⟨hdst, h1, ht⟩, if_neg h1]
      refine next_runInbound env length hc _ fun c hcfg hf => ?_
      refine wanRest_eq env length hcfg fun _ h _ => ?_
      rw [hf] at h
      exact absurd h h1
  · have hv : verdict .wan d.frame = .drop := by
      by_cases ht : HasTransport d.frame
      · rw [verdict_wan ht, wanVerdict, if_neg fun hd => hrun ⟨hd, ht⟩]
      · exact verdict_of_not ht .wan
    rw [hv, wanIcmpSection_eq env length hc, if_neg fun h => hrun ⟨h.1, h.2.2⟩, Flow.next_none,
      wanTransportSection_eq env length hc, if_neg fun h => hrun ⟨h.1, h.2.2⟩, Flow.next_none]
    exact wanRest_eq env length hc fun hd _ ht => absurd ⟨hd, ht⟩ hrun

/-! ## Packets from the LAN -/

/-- The outbound block for ICMP, under its verdict. -/
lemma natOutboundIcmp_eq (env : Env) {c : Proc} (length : ℕ) (hc : Configured c.net)
    (h1 : ipProtocol c.frame = 1) : natOutboundIcmp env c length = runOutbound env c length := by
  unfold natOutboundIcmp runOutbound
  rw [outPort, if_pos h1, outDstPort, if_pos h1, h1, hc.wanIp]
  rfl

/-- The outbound block for TCP and UDP, under its verdict. -/
lemma natOutboundTransport_eq (env : Env) {c : Proc} (length : ℕ) (hc : Configured c.net)
    (h : ipProtocol c.frame = 6 ∨ ipProtocol c.frame = 17) :
    natOutboundTransport env c length = runOutbound env c length := by
  have h1 : ipProtocol c.frame ≠ 1 := by
    rcases h with h | h
    · rw [h]; decide
    · rw [h]; decide
  unfold natOutboundTransport runOutbound
  simp only
  rw [natProto_eq h, outPort, if_neg h1, outDstPort, if_neg h1, hc.wanIp]
  congr 1
  · funext d
    rw [outMiss, if_neg h1]
  · funext port f
    rw [translated, if_neg h1, portOffset, outPortOffset, if_neg h1]
    rfl

/-- The section for packets from the LAN to the outside. -/
lemma lanSection_run (env : Env) {c : Proc} (length : ℕ) (hc : Configured c.net) :
    (lanSection env c .lan length).1 =
      if natIsLanIp natCfgInit (ipSrc c.frame) = true ∧ HasTransport c.frame ∧
          (ipProtocol c.frame = 1 → icmpType c.frame = 8) ∧ c.net.wanIf.dev.isSome = true then
        (runOutbound env c length).1
      else c := by
  unfold lanSection
  rw [hc.cfg]
  by_cases hlan : natIsLanIp natCfgInit (ipSrc c.frame) = true ∧ c.net.wanIf.dev.isSome = true
  · obtain ⟨hlan, hdev⟩ := hlan
    rw [if_pos ⟨hlan, rfl⟩]
    by_cases h1 : ipProtocol c.frame = 1
    · rw [if_pos ⟨h1, hdev⟩, natOutboundIcmp_eq env length hc h1]
      simp only [ge_iff_le, hasTransport_icmp_iff h1, hlan, hdev, h1, true_and, and_true,
        forall_true_left]
      by_cases ht : HasTransport c.frame <;> by_cases h8 : icmpType c.frame = 8 <;>
        simp [ht, h8]
    · rw [if_neg fun h => h1 h.1]
      by_cases hkind : ipProtocol c.frame = 6 ∨ ipProtocol c.frame = 17
      · rw [if_pos ⟨hkind, hdev⟩, natOutboundTransport_eq env length hc hkind]
        have hroom : ipTotalLength c.frame ≥
            ipHeaderLen c.frame + minTransportLen (ipProtocol c.frame) ↔ HasTransport c.frame :=
          ⟨fun hr => ⟨Or.inr hkind, hr⟩, fun ht => ht.2⟩
        simp only [hroom, hlan, hdev, h1, true_and, and_true, false_implies]
        by_cases ht : HasTransport c.frame <;> simp [ht]
      · rw [if_neg fun h => hkind h.1, if_neg fun h => hkind (h.2.1.1.resolve_left h1)]
  · have hno : ¬(natIsLanIp natCfgInit (ipSrc c.frame) = true ∧ HasTransport c.frame ∧
        (ipProtocol c.frame = 1 → icmpType c.frame = 8) ∧ c.net.wanIf.dev.isSome = true) :=
      fun h => hlan ⟨h.1, h.2.2.2⟩
    rw [if_neg hno]
    by_cases hl : natIsLanIp natCfgInit (ipSrc c.frame) = true
    · have hdev : ¬ c.net.wanIf.dev.isSome = true := fun h => hlan ⟨hl, h⟩
      rw [if_pos ⟨hl, rfl⟩, if_neg fun h => hdev h.2, if_neg fun h => hdev h.2]
    · rw [if_neg fun h => hl h.1]

/-- The IPv4 branch for a packet from the LAN runs its verdict. -/
lemma lanSections_run (env : Env) {d : Proc} (length : ℕ) (hc : Configured d.net) :
    (if isForUs d .lan then localSection env d .lan else lanSection env d .lan length).1 =
      (verdict .lan d.frame).run env d .lan length := by
  have hus := isForUs_lan hc
  by_cases ht : HasTransport d.frame
  · rw [verdict, if_pos ht]
    show _ = (lanVerdict d.frame).run env d .lan length
    by_cases hfor : isForUs d .lan = true
    · rw [if_pos hfor, lanVerdict, if_pos (hus.mp hfor)]
      by_cases hecho : ipProtocol d.frame = 1 ∧ icmpType d.frame = 8
      · rw [if_pos hecho]
        exact localSection_of_echo env .lan hecho.1 ht hecho.2
      · rw [if_neg hecho]
        exact localSection_of_not_echo env .lan fun h _ h8 => hecho ⟨h, h8⟩
    · rw [if_neg hfor, lanVerdict, if_neg (hus.not.mp hfor), lanSection_run env length hc]
      by_cases hlan : natIsLanIp natCfgInit (ipSrc d.frame) = true
      · rw [if_pos hlan]
        by_cases hdrop : ipProtocol d.frame = 1 ∧ icmpType d.frame ≠ 8
        · rw [if_pos hdrop, if_neg fun h => hdrop.2 (h.2.2.1 hdrop.1)]
          rfl
        · have h8 : ipProtocol d.frame = 1 → icmpType d.frame = 8 := fun h =>
            not_not.mp fun h8 => hdrop ⟨h, h8⟩
          rw [if_neg hdrop, Verdict.run]
          by_cases hdev : d.net.wanIf.dev.isSome = true
          · rw [if_pos ⟨hlan, ht, h8, hdev⟩, if_pos hdev]
          · rw [if_neg fun h => hdev h.2.2.2, if_neg hdev]
      · rw [if_neg hlan, if_neg fun h => hlan h.1]
        rfl
  · rw [verdict_of_not ht]
    split_ifs with hfor
    · exact localSection_of_not_echo env .lan fun _ h _ => absurd h ht
    · rw [lanSection_run env length hc, if_neg fun h => ht h.2.1]
      rfl

/-! ## The whole function -/

/-- **An IPv4 packet is processed according to its verdict**, in the state in which its source
address has been learnt. -/
theorem processFrame_ipv4 (env : Env) {s : NetState} (hs : Configured s) (id : IfId) {f : Frame}
    {n : ℕ} (h : IsIpv4 f n) : (netDemoProcessFrame env s id f n).1 =
      (verdict id f).run env (learnt env s f) id n := by
  have hroom := h.room
  have hs' : Configured (learnt env s f).net := hs.of_sameConfig (sameConfig_nat rfl)
  have hproc : (netDemoProcessFrame env s id f n).1 = (processIpv4 env ⟨s, f, []⟩ id n).1 := by
    unfold netDemoProcessFrame
    simp only
    rw [if_neg (by omega), if_neg (by rw [h.type]; decide), if_pos h.type]
  rw [hproc]
  unfold processIpv4
  rw [if_neg (by omega), if_neg]
  · cases id with
    | wan => exact wanSections_run env n hs'
    | lan =>
      show (((wanIcmpSection env (learnt env s f) .lan n).next _).1) = _
      rw [processIpv4_lan_sections]
      exact lanSections_run env n hs'
  · rw [not_or]
    exact ⟨fun hv => hv h.version, UInt8.not_lt.mpr h.ihl⟩

/-- **Any other frame** is left to the ARP branch, or dropped. -/
theorem processFrame_of_not_ipv4 (env : Env) (s : NetState) (id : IfId) {f : Frame} {n : ℕ}
    (h : ¬IsIpv4 f n) : (netDemoProcessFrame env s id f n).1 =
      if ethType f = 0x0806 then (processArp env ⟨s, f, []⟩ id n).1 else ⟨s, f, []⟩ := by
  unfold netDemoProcessFrame
  simp only
  by_cases h14 : n < 14
  · -- the ARP branch drops a short frame as well
    have harp : processArp env ⟨s, f, []⟩ id n = (⟨s, f, []⟩, some 0) := by
      unfold processArp
      rw [if_pos (by omega)]
    rw [if_pos h14, harp, ite_self]
  rw [if_neg h14]
  by_cases h6 : ethType f = 0x0806
  · rw [if_pos h6, if_pos h6]
  rw [if_neg h6, if_neg h6]
  by_cases h4 : ethType f = 0x0800
  · rw [if_pos h4]
    unfold processIpv4
    split_ifs with h34 hhdr
    · rfl
    · rfl
    · rw [not_or, not_not, UInt8.not_lt] at hhdr
      exact absurd ⟨by omega, h4, hhdr.1, hhdr.2⟩ h
  · rw [if_neg h4]

end Gateway
