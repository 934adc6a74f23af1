import UcosArm64.Gateway.Verdict

set_option relaxedAutoImplicit false
set_option autoImplicit false

/-!
# Forwarded packets

What leaves the gateway by the other interface is, ARP requests apart, a translated packet. In
every reachable state, for both directions and all six copies of the rewriting code, it passes the
checks of its receiver, and only the listed bytes are changed.

## Main definitions

* `Gateway.Addressed` — the address and port that a translation puts in place.
* `Gateway.HeaderRewritten`, `Gateway.TransportRewritten` — the bytes that a translation changes.
* `Gateway.PayloadTransparent` — for a later fragment, no byte after the IP header changes.

## Main results

* `Gateway.exists_block` — only a translation block sends out of the other interface.
* `Gateway.exists_translated` — what is sent out of the other interface is the translated packet.
* `Gateway.forwarded_checksums` — a forwarded packet has right checksums and the translated address
  and port.
* `Gateway.forwarded_rewritten` — a forwarded packet has the length of the IP packet, and differs
  from the received one in the listed bytes only.
* `Gateway.not_payloadTransparent` — the fragment offset is never looked at: bytes of a later
  fragment are rewritten as if it started with a transport header.
-/

namespace Gateway

open Transition

/-! ## Frames that leave by the other interface -/

/-- The other interface is another one. -/
lemma IfId.other_ne (id : IfId) : id.other ≠ id := by
  cases id <;> decide

/-- The address `ip` and the port `port` are those of the translation of the packet `f`: the LAN
endpoint of an active session to which it belongs, or the WAN address with the port assigned. -/
def Addressed (s : NatState) (log : List NetEvent) (f : Frame) (ip : Ip4) (port : UInt16) :
    IfId → Prop
  | .wan => ∃ i, (s.natTable i).matchesIn (ipProtocol f) (inPort f) (ipSrc f) (inSrcPort f) = true ∧
      ip = (s.natTable i).lanIp ∧ port = (s.natTable i).lanPort
  | .lan => ip = natCfgInit.wanIp ∧
      NetEvent.assigned (ipProtocol f) (ipSrc f) (outPort f) (ipDst f) (outDstPort f) port ∈ log

/-- A frame that is not an IPv4 packet is answered on its own interface, if at all. -/
lemma sendsTo_of_not_ipv4 {env : Env} {s : NetState} {id : IfId} {f : Frame} {n : ℕ}
    (h : ¬IsIpv4 f n) {e : NetEvent} (he : e ∈ (netDemoProcessFrame env s id f n).1.log) :
    SendsTo id e := by
  rw [processFrame_of_not_ipv4 env s id h] at he
  split_ifs at he
  · rcases (effect_processArp env ⟨s, f, []⟩ id n).events e he with he | he
    · exact absurd he List.not_mem_nil
    · exact he
  · exact absurd he List.not_mem_nil

/-- What an inbound block sends: the translated packet of a session that it has found, to the host
of the session. -/
lemma mem_runInbound_log {env : Env} {c : Proc} {n : ℕ} {e : NetEvent}
    (h : e ∈ (runInbound env c n).1.log) : e ∈ c.log ∨ ∃ i mac,
      natFindReverseEntry c.net.nat (ipProtocol c.frame) (inPort c.frame) (ipSrc c.frame)
        (inSrcPort c.frame) = some i ∧
      (c.net.nat.natTable i).matchesIn (ipProtocol c.frame) (inPort c.frame) (ipSrc c.frame)
        (inSrcPort c.frame) = true ∧
      n ≤ virtioNetMaxFrameSize ∧ c.net.lanIf.dev.isSome = true ∧
      arpCacheLookup c.net.nat (c.net.nat.natTable i).lanIp = some mac ∧
      14 + ipTotalLength c.frame ≤ virtioNetMaxFrameSize ∧
      e = .tx .lan (translated .wan (ipProtocol c.frame) (c.net.nat.natTable i).lanIp
        (c.net.nat.natTable i).lanPort (wrMac (wrMac c.frame 6 c.net.lanIf.mac) 0 mac))
        (14 + ipTotalLength c.frame) := by
  unfold runInbound at h
  obtain ⟨-, -, ⟨-, hlog, -⟩ | ⟨i, mac, g, hfind, hmatch, hn, hdev, hmac, rfl, hr⟩⟩ :=
    natInbound_cases c (env.tick 1) n (ipProtocol c.frame) (inPort c.frame) (inSrcPort c.frame)
      (translated .wan (ipProtocol c.frame))
  · rw [hlog] at h
    exact Or.inl h
  · rw [hr] at h
    rcases mem_sendFrame_log h with h | ⟨h, hmax⟩
    · exact Or.inl h
    · exact Or.inr ⟨i, mac, hfind, hmatch, hn, hdev, hmac, hmax, h⟩

/-- What an outbound block sends, if it is an IPv4 packet: the translated packet of a session that
it has found or opened, to the destination. -/
lemma mem_runOutbound_log {env : Env} {c : Proc} {n m : ℕ} {g : Frame}
    (h : NetEvent.tx .wan g m ∈ (runOutbound env c n).1.log) (h4 : ethType g = 0x0800) :
    NetEvent.tx .wan g m ∈ c.log ∨ ∃ p mac,
      (natTranslateOutbound c.net.nat (env.tick 1) (ipProtocol c.frame) (ipSrc c.frame)
        (outPort c.frame) (ipDst c.frame) (outDstPort c.frame)).2 = some p ∧
      NetEvent.assigned (ipProtocol c.frame) (ipSrc c.frame) (outPort c.frame) (ipDst c.frame)
        (outDstPort c.frame) p ∈ (runOutbound env c n).1.log ∧
      n ≤ virtioNetMaxFrameSize ∧ arpCacheLookup c.net.nat (ipDst c.frame) = some mac ∧
      m ≤ virtioNetMaxFrameSize ∧
      g = translated .lan (ipProtocol c.frame) natCfgInit.wanIp p
        (wrMac (wrMac c.frame 6 c.net.wanIf.mac) 0 mac) ∧ m = 14 + ipTotalLength c.frame := by
  have hassigned := (natOutbound_effect c (env.tick 1) n (ipProtocol c.frame) (outPort c.frame)
    (outDstPort c.frame) _ (translated .lan (ipProtocol c.frame) natCfgInit.wanIp)
    (outMiss_keeps (ipProtocol c.frame))).2
  unfold runOutbound at h ⊢
  rcases natOutbound_cases c (env.tick 1) n (ipProtocol c.frame) (outPort c.frame)
    (outDstPort c.frame) (outMiss (ipProtocol c.frame))
    (translated .lan (ipProtocol c.frame) natCfgInit.wanIp) with ⟨-, hr⟩ | ⟨p, d, hp, hd, hr⟩
  · rw [hr] at h
    exact Or.inl h
  have hold : NetEvent.tx .wan g m ∈ d.log → NetEvent.tx .wan g m ∈ c.log := by
    intro hmem
    simpa [hd] using hmem
  rcases hr with ⟨-, hr⟩ | ⟨-, -, hr⟩ | ⟨hn, mac, g', hmac, hg, hr⟩
  · rw [hr] at h
    exact Or.inl (hold h)
  · -- without the address of the host only an ARP request is sent
    rw [hr] at h
    rcases mem_outMiss_log h with h | h
    · exact Or.inl (hold h)
    · rw [h4] at h
      exact absurd h (by decide)
  · have hmem := h
    rw [hr] at hmem
    rcases mem_sendFrame_log hmem with hmem | ⟨hmem, hmax⟩
    · exact Or.inl (hold hmem)
    · cases hmem
      exact Or.inr ⟨p, mac, hp, hassigned p hp, hn, hmac, hmax, hg, rfl⟩

/-- **What crosses the gateway.** A frame for which something leaves by the other interface is an
IPv4 packet that a translation block takes up, and the block sends it. -/
lemma exists_block {s : NetState} (hs : Configured s) {env : Env} {id : IfId}
    {f g : Frame} {n m : ℕ}
    (hg : NetEvent.tx id.other g m ∈ netLog s (.frame env id f n)) :
    IsIpv4 f n ∧ HasTransport f ∧
      (id = .wan ∧ verdict .wan f = .inbound ∧
        netLog s (.frame env .wan f n) = (runInbound env (learnt env s f) n).1.log ∨
      id = .lan ∧ verdict .lan f = .outbound ∧ s.wanIf.dev.isSome = true ∧
        netLog s (.frame env .lan f n) = (runOutbound env (learnt env s f) n).1.log) := by
  by_cases h4 : IsIpv4 f n
  swap
  · obtain ⟨_, _, he⟩ := sendsTo_of_not_ipv4 h4 hg
    exact absurd (NetEvent.tx.inj he).1 id.other_ne
  have hlog : netLog s (.frame env id f n) =
      ((verdict id f).run env (learnt env s f) id n).log := by
    rw [netLog, processFrame_ipv4 env hs id h4]
  have hnil : NetEvent.tx id.other g m ∉ (learnt env s f).log := List.not_mem_nil
  rw [hlog] at hg
  cases hv : verdict id f with
  | drop =>
    rw [hv] at hg
    exact absurd hg hnil
  | echo =>
    -- an echo reply leaves by the interface of the request
    rw [hv] at hg
    rcases (effect_sendIcmpEchoReply env (learnt env s f) id _).events _ hg with h | ⟨_, _, h⟩
    · exact absurd h hnil
    · exact absurd (NetEvent.tx.inj h).1 id.other_ne
  | inbound =>
    cases id with
    | lan => exact absurd hv (verdict_lan_ne_inbound f)
    | wan =>
      refine ⟨h4, hasTransport_of_verdict (by rw [hv]; decide), Or.inl ⟨rfl, hv, ?_⟩⟩
      rw [hlog, hv, Verdict.run]
  | outbound =>
    cases id with
    | wan => exact absurd hv (verdict_wan_ne_outbound f)
    | lan =>
      have hdev : (learnt env s f).net.wanIf.dev.isSome = true := by
        by_contra hdev
        rw [hv, Verdict.run, if_neg hdev] at hg
        exact hnil hg
      refine ⟨h4, hasTransport_of_verdict (by rw [hv]; decide), Or.inr ⟨rfl, hv, hdev, ?_⟩⟩
      rw [hlog, hv, Verdict.run, if_pos hdev]

/-- **What is sent out of the other interface.** An IPv4 packet that leaves by the other interface
is the received packet, readdressed and translated, in the length of the IP packet. -/
theorem exists_translated {s : NetState} (hs : Configured s) {env : Env} {id : IfId} {f g : Frame}
    {n m : ℕ} (hg : NetEvent.tx id.other g m ∈ netLog s (.frame env id f n))
    (hg4 : ethType g = 0x0800) :
    IsIpv4 f n ∧ HasTransport f ∧ m = 14 + ipTotalLength f ∧ ∃ ip port m₁ m₂,
      Addressed s.nat (netLog s (.frame env id f n)) f ip port id ∧
      g = translated id (ipProtocol f) ip port (wrMac (wrMac f 6 m₁) 0 m₂) := by
  obtain ⟨h4, ht, hblock⟩ := exists_block hs hg
  refine ⟨h4, ht, ?_⟩
  rcases hblock with ⟨rfl, -, hlog⟩ | ⟨rfl, -, -, hlog⟩
  · rw [hlog] at hg
    rcases mem_runInbound_log hg with h | ⟨i, mac, -, hmatch, -, -, -, -, h⟩
    · exact absurd h List.not_mem_nil
    · obtain ⟨-, rfl, rfl⟩ := NetEvent.tx.inj h
      exact ⟨rfl, _, _, _, mac, ⟨i, hmatch, rfl, rfl⟩, rfl⟩
  · rw [hlog] at hg ⊢
    rcases mem_runOutbound_log hg hg4 with h | ⟨p, mac, -, hassigned, -, -, -, h, hm⟩
    · exact absurd h List.not_mem_nil
    · exact ⟨hm, _, p, _, mac, ⟨rfl, hassigned⟩, h⟩

/-! ## The receiver's checks -/

/-- The packet `g` passes the checks of its receiver. -/
structure ChecksumsOk (g : Frame) : Prop where
  ip : IpChecksumOk g
  icmp : ipProtocol g = 1 → IcmpChecksumOk g
  transport : ipProtocol g ≠ 1 → TransportChecksumOk g

/-- The address that a translation rewrote in a packet from the interface `id`. -/
def newAddr (g : Frame) : IfId → Ip4
  | .lan => ipSrc g
  | .wan => ipDst g

/-- The port or identifier that a translation rewrote. -/
def newPort (g : Frame) : IfId → UInt16
  | .lan => outPort g
  | .wan => inPort g

/-- The fields of a translated packet. -/
lemma Rewrites.newAddr_newPort {id : IfId} {f g : Frame} {ip : Ip4} {port : UInt16} {c : ℕ}
    (h : Rewrites f g (addrOffset id) ip (portOffset id (ipProtocol f)) port c)
    (hl : 20 ≤ ipHeaderLen f) : newAddr g id = ip ∧ newPort g id = port := by
  have hshape := h.sameShape (addrOffset_bounds id).1 hl
  cases id with
  | lan =>
    refine ⟨h.addr, ?_⟩
    have hport : utilNtohs (rd16 g (l4 f + outPortOffset (ipProtocol f))) = port := h.port
    unfold outPortOffset at hport
    show outPort g = port
    unfold outPort icmpIdentifier srcPort
    rw [hshape.ipProtocol, hshape.l4]
    split_ifs at hport ⊢
    · exact hport
    · exact hport
  | wan =>
    refine ⟨h.addr, ?_⟩
    have hport : utilNtohs (rd16 g (l4 f + inPortOffset (ipProtocol f))) = port := h.port
    unfold inPortOffset at hport
    show inPort g = port
    unfold inPort icmpIdentifier dstPort
    rw [hshape.ipProtocol, hshape.l4]
    split_ifs at hport ⊢
    · exact hport
    · exact hport

/-- **Forwarded packets pass the receiver's checks.** In every reachable state, an IPv4 packet that
leaves by the other interface has right checksums, and the address and port of its session.

**Proof sketch.** The packet is the received one, translated. The header checksum is computed after
the address and the time to live are stored, and the transport checksum after the port; each sum
is the complement of the others, in its own byte order. -/
theorem forwarded_checksums (lanDev wanDev : Option VirtioNetDev) (ops : List NetOp) (env : Env)
    (id : IfId) (f g : Frame) (n m : ℕ)
    (hg : NetEvent.tx id.other g m ∈
      netLog (run netStep (netInit lanDev wanDev) ops) (.frame env id f n))
    (hg4 : ethType g = 0x0800) :
    ChecksumsOk g ∧ ipProtocol g = ipProtocol f ∧
      Addressed (run netStep (netInit lanDev wanDev) ops).nat
        (netLog (run netStep (netInit lanDev wanDev) ops) (.frame env id f n)) f (newAddr g id)
        (newPort g id) id := by
  obtain ⟨hcfg, -, -⟩ := devices_run lanDev wanDev ops
  obtain ⟨h4, ht, -, ip, port, m₁, m₂, haddr, rfl⟩ := exists_translated hcfg hg hg4
  set f₀ := wrMac (wrMac f 6 m₁) 0 m₂ with hf₀
  have hshape : SameShape f f₀ := sameShape_of_agree fun k hk => by
    rw [hf₀, wrMac_of_ne _ _ (by omega), wrMac_of_ne _ _ (by omega)]
  have hl : 20 ≤ ipHeaderLen f₀ := by
    rw [hshape.ipHeaderLen]
    exact h4.headerLen
  have ht₀ : HasTransport f₀ := hshape.hasTransport.mpr ht
  obtain ⟨hrw, hicmp, htrans⟩ := rewrites_translated id ip port hl ht₀
  rw [hshape.ipProtocol] at hrw hicmp htrans
  have ha := (addrOffset_bounds id).1
  have hproto : ipProtocol (translated id (ipProtocol f) ip port f₀) = ipProtocol f :=
    (hrw.sameShape ha hl).ipProtocol.trans hshape.ipProtocol
  rw [← hshape.ipProtocol] at hrw
  obtain ⟨hip, hport⟩ := hrw.newAddr_newPort hl
  rw [hshape.ipProtocol] at hip hport hrw
  refine ⟨⟨hrw.ipChecksum, fun h => hicmp (by rw [← hproto]; exact h),
    fun h => htrans (by rw [← hproto]; exact h)⟩, hproto, ?_⟩
  rw [hip, hport]
  exact haddr

/-- The forwarded DNS query passes the receiver's checks. -/
theorem forwarded_checksums_dns : ∃ g m, NetEvent.tx .wan g m ∈
      netLog (run netStep demoInit [learnOp]) (.frame quietEnv .lan dnsQuery 42) ∧
    ChecksumsOk g ∧ newAddr g .lan = natCfgInit.wanIp := by
  obtain ⟨g, m, hsent, hg4, -⟩ := forwarded_learnt outgoing_dnsQuery (by decide)
  obtain ⟨hsum, -, haddr⟩ := forwarded_checksums (some demoLanDev) (some demoWanDev) [learnOp]
    quietEnv .lan dnsQuery g 42 m hsent hg4
  exact ⟨g, m, hsent, hsum, haddr.1⟩

/-! ## The bytes that change -/

/-- The bytes of the Ethernet and IP headers that a translation changes: the Ethernet addresses, the
time to live, the header checksum and one IP address. -/
def HeaderRewritten (id : IfId) (k : ℕ) : Prop :=
  k < 12 ∨ k = 22 ∨ k = 24 ∨ k = 25 ∨ addrOffset id ≤ k ∧ k < addrOffset id + 4

/-- The bytes after the IP header that a translation changes: one port or the ICMP identifier, and
the checksum of the transport header. -/
def TransportRewritten (id : IfId) (f : Frame) (k : ℕ) : Prop :=
  k = l4 f + portOffset id (ipProtocol f) ∨ k = l4 f + portOffset id (ipProtocol f) + 1 ∨
    k = l4 f + l4ChecksumOffset (ipProtocol f) ∨ k = l4 f + l4ChecksumOffset (ipProtocol f) + 1

/-- `util_ntohs(ip->flags_fragment) & 0x1FFF` -/
def fragmentOffset (f : Frame) : ℕ := (utilNtohs (rd16 f 20)).toNat % 8192

/-- The packet `g` of `m` bytes is the packet `f`, but for the listed bytes; if `f` is a later
fragment, which has no transport header, no byte after the IP header has changed. -/
structure PayloadTransparent (id : IfId) (f g : Frame) (m : ℕ) : Prop where
  length : m = 14 + ipTotalLength f
  first : fragmentOffset f = 0 →
    ∀ k < m, ¬HeaderRewritten id k → ¬TransportRewritten id f k → g k = f k
  later : fragmentOffset f ≠ 0 → ∀ k < m, ¬HeaderRewritten id k → g k = f k

/-- **The bytes that a forwarded packet shares with the received one**: all but the listed ones,
whatever its fragment offset. -/
theorem forwarded_rewritten (lanDev wanDev : Option VirtioNetDev) (ops : List NetOp) (env : Env)
    (id : IfId) (f g : Frame) (n m : ℕ)
    (hg : NetEvent.tx id.other g m ∈
      netLog (run netStep (netInit lanDev wanDev) ops) (.frame env id f n))
    (hg4 : ethType g = 0x0800) :
    m = 14 + ipTotalLength f ∧
      ∀ k < m, ¬HeaderRewritten id k → ¬TransportRewritten id f k → g k = f k := by
  obtain ⟨hcfg, -, -⟩ := devices_run lanDev wanDev ops
  obtain ⟨h4, ht, hm, ip, port, m₁, m₂, -, rfl⟩ := exists_translated hcfg hg hg4
  set f₀ := wrMac (wrMac f 6 m₁) 0 m₂ with hf₀
  have hagree : ∀ k, 12 ≤ k → f₀ k = f k := fun k hk => by
    rw [hf₀, wrMac_of_ne _ _ (by omega), wrMac_of_ne _ _ (by omega)]
  have hshape := sameShape_of_agree hagree
  have ht₀ : HasTransport f₀ := hshape.hasTransport.mpr ht
  obtain ⟨hrw, -⟩ := rewrites_translated id ip port
    (by rw [hshape.ipHeaderLen]; exact h4.headerLen) ht₀
  rw [hshape.ipProtocol] at hrw
  refine ⟨hm, fun k _ hk hk' => ?_⟩
  unfold HeaderRewritten at hk
  unfold TransportRewritten at hk'
  rw [← hshape.l4] at hk'
  rw [hrw.same k (by omega) (by omega) (by omega) (by omega) (by omega) (by omega) (by omega)
    (by omega), hagree k (by omega)]

/-- The forwarded DNS query differs from the received one in the listed bytes only. -/
theorem forwarded_rewritten_dns : ∃ g, NetEvent.tx .wan g 42 ∈
      netLog (run netStep demoInit [learnOp]) (.frame quietEnv .lan dnsQuery 42) ∧
    ∀ k < 42, ¬HeaderRewritten .lan k → ¬TransportRewritten .lan dnsQuery k → g k = dnsQuery k := by
  obtain ⟨g, m, hsent, hg4, -⟩ := forwarded_learnt outgoing_dnsQuery (by decide)
  obtain ⟨hm, hsame⟩ := forwarded_rewritten (some demoLanDev) (some demoWanDev) [learnOp] quietEnv
    .lan dnsQuery g 42 m hsent hg4
  obtain rfl : m = 42 := hm.trans (by decide)
  exact ⟨g, hsent, hsame⟩

/-- A later fragment, at the offset of 8 bytes: the eight bytes after the IP header are data. -/
def laterFragment : Frame := frameOf [
  0x52, 0x54, 0, 0, 0, 1, 2, 0, 0, 0, 0, 16, 8, 0,
  0x45, 0, 0, 28, 0, 0, 0, 1, 64, 17, 0, 0, 192, 168, 1, 10, 8, 8, 8, 8, 3, 232, 0, 53, 0, 8, 0, 0]

/-- The later fragment is a packet for the outside. -/
lemma outgoing_laterFragment : Outgoing laterFragment 42 :=
  ⟨⟨by decide, by decide⟩, ⟨by decide, by decide, by decide, by decide, by decide, by decide,
    by decide⟩, by decide, by decide, by decide⟩

/-- **Data of a later fragment is rewritten.** The first two bytes after the IP header of the
fragment are replaced by a WAN port. -/
theorem not_payloadTransparent : ¬ ∀ (lanDev wanDev : Option VirtioNetDev) (ops : List NetOp)
    (env : Env) (id : IfId) (f g : Frame) (n m : ℕ), 14 + ipTotalLength f ≤ n →
    NetEvent.tx id.other g m ∈
      netLog (run netStep (netInit lanDev wanDev) ops) (.frame env id f n) →
    ethType g = 0x0800 → PayloadTransparent id f g m := by
  intro hall
  obtain ⟨g, m, hsent, hg4, hproto, -, -, hport, -⟩ :=
    forwarded_learnt outgoing_laterFragment (by decide)
  have htransp := hall (some demoLanDev) (some demoWanDev) [learnOp] quietEnv .lan
    laterFragment g 42
    m (by decide) hsent hg4
  have hsame := htransp.later (by decide)
  obtain rfl : m = 42 := htransp.length.trans (by decide)
  have hhead : ∀ k, k = 14 ∨ 34 ≤ k → ¬HeaderRewritten .lan k := by
    intro k hk h
    have ha : addrOffset .lan = 26 := rfl
    unfold HeaderRewritten at h
    omega
  have hbyte : ∀ k, 34 ≤ k → k < 42 → g k = laterFragment k := fun k hk hk' =>
    hsame k hk' (hhead k (Or.inr hk))
  -- the length of the header is kept, so the source port lies at the same place
  have hl4 : l4 g = 34 := by
    have h14 : g 14 = laterFragment 14 := hsame 14 (by omega) (hhead 14 (Or.inl rfl))
    rw [l4, ipHeaderLen, ipIhl, h14]
    decide
  have hudp : ipProtocol g ≠ 1 := by
    rw [hproto]
    decide
  rw [outPort, if_neg hudp, srcPort, hl4,
    rd16_congr (hbyte 34 (by omega) (by omega)) (hbyte 35 (by omega) (by omega))] at hport
  exact absurd hport (by decide)

end Gateway
