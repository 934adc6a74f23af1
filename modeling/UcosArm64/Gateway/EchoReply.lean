import UcosArm64.Gateway.Verdict

set_option relaxedAutoImplicit false
set_option autoImplicit false

/-!
# Replies to echo requests

Echo requests to the gateway are answered in two places: those to the WAN address that come from
the WAN before the gateway looks whether a packet is for itself, and all others after it. Both hand
the request to `send_icmp_echo_reply`, which turns a copy of it into the reply. The copy is
rewritten in two parts, the headers up to the ICMP message and the first word and the checksum of
the message.

## Main definitions

* `Gateway.IsEchoRequest` — a complete echo request to the gateway.
* `Gateway.echoHeader`, `Gateway.echoMessage` — the two parts of the rewriting.
* `Gateway.IsEchoReply` — what an echo reply must be.

## Main results

* `Gateway.isEchoReply_echoMessage` — the rewritten copy is an echo reply.
* `Gateway.echoRequest_answered` — every echo request to the gateway is answered, by one frame.
-/

namespace Gateway

open Transition

/-! ## Requests and replies -/

/-- The frame of `n` bytes that arrives on the interface `id` is a complete echo request to the
address of the interface or, on the LAN, to the WAN address. -/
structure IsEchoRequest (s : NetState) (id : IfId) (f : Frame) (n : ℕ) : Prop where
  ipv4 : ethType f = 0x0800
  version : ipVersion f = 4
  ihl : 5 ≤ ipIhl f
  fits : 14 + ipTotalLength f ≤ n
  frame : n ≤ virtioNetMaxFrameSize
  protocol : ipProtocol f = 1
  header : ipHeaderLen f + 8 ≤ ipTotalLength f
  type : icmpType f = 8
  dst : ipDst f = (s.iface id).localIp ∨ id = .lan ∧ ipDst f = s.nat.natCfg.wanIp

/-- The frame `g` is the echo reply of the gateway with the Ethernet address `mac` to the request
`f`. -/
structure IsEchoReply (f g : Frame) (mac : Mac) : Prop where
  ethDest : ethDest g = ethSrc f
  ethSrc : ethSrc g = mac
  src : ipSrc g = ipDst f
  dst : ipDst g = ipSrc f
  ttl : ipTtl g = 64
  type : icmpType g = 0
  code : g (l4 g + 1) = 0
  same : ∀ k, 12 ≤ k → k < 14 + ipTotalLength f → k ≠ 22 → k ≠ 24 → k ≠ 25 → (k < 26 ∨ 34 ≤ k) →
    (k < l4 f ∨ l4 f + 4 ≤ k) → g k = f k
  ipChecksum : IpChecksumOk g
  icmpChecksum : IcmpChecksumOk g

section Request

variable {s : NetState} {id : IfId} {f : Frame} {n : ℕ}

/-- The IP header of an echo request has its least length. -/
lemma IsEchoRequest.headerLen (h : IsEchoRequest s id f n) : 20 ≤ ipHeaderLen f :=
  ipHeaderLen_ge h.ihl

/-- A request starts with the headers of an IPv4 packet. -/
lemma IsEchoRequest.isIpv4 (h : IsEchoRequest s id f n) : IsIpv4 f n := by
  have hl := h.headerLen
  have hfits := h.fits
  have hroom := h.header
  exact ⟨by omega, h.ipv4, h.version, h.ihl⟩

/-- **Both dispatch paths answer a request.** -/
lemma IsEchoRequest.verdict (hs : Configured s) (h : IsEchoRequest s id f n) :
    verdict id f = .echo := by
  have ht := (hasTransport_icmp_iff h.protocol).mp h.header
  have h8 := h.type
  have hdst := h.dst
  cases id with
  | wan =>
    have hwan : ipDst f = natCfgInit.wanIp := by
      rcases hdst with hdst | ⟨hid, -⟩
      · exact hdst.trans hs.wanIp
      · cases hid
    rw [verdict_wan ht, wanVerdict, if_pos hwan, if_pos h.protocol, h8, if_neg (by decide),
      if_pos rfl]
  | lan =>
    have hus : ipDst f = natCfgInit.lanIp ∨ ipDst f = natCfgInit.wanIp := by
      rcases hdst with hdst | ⟨-, hdst⟩
      · exact Or.inl (hdst.trans hs.lanIp)
      · rw [hs.cfg] at hdst
        exact Or.inr hdst
    rw [verdict_lan ht, lanVerdict, if_pos hus, if_pos ⟨h.protocol, h8⟩]

end Request

/-! ## The headers -/

/-- The first part of the rewriting: the Ethernet and IP addresses swapped, with the Ethernet
address of the interface as the source, the time to live 64 and the header checksum. -/
def echoHeader (f : Frame) (mac : Mac) : Frame :=
  let g := wrMac (wrMac f 0 (ethSrc f)) 6 mac
  let g := wrIp (wrIp g 26 (ipDst f)) 30 (ipSrc f)
  let g := wr8 g 22 64
  let g := wr16 g 24 0
  wr16 g 24 (utilHtons (checksum16 g 14 (ipHeaderLen f)))

section Header

variable (f : Frame) (mac : Mac)

/-- What the first part leaves alone. -/
lemma echoHeader_of_ne {k : ℕ} (h₀ : 12 ≤ k) (h₁ : k ≠ 22) (h₂ : k ≠ 24) (h₃ : k ≠ 25)
    (h₄ : k < 26 ∨ 34 ≤ k) : echoHeader f mac k = f k := by
  unfold echoHeader
  rw [wr16_of_ne _ _ h₂ h₃, wr16_of_ne _ _ h₂ h₃, wr8_of_ne _ _ h₁, wrIp_of_ne _ _ (by omega),
    wrIp_of_ne _ _ (by omega), wrMac_of_ne _ _ (by omega), wrMac_of_ne _ _ (by omega)]

/-- The shape of the packet stays. -/
lemma sameShape_echoHeader : SameShape f (echoHeader f mac) :=
  SameShape.of_eq fun _ hk =>
    echoHeader_of_ne f mac (by omega) (by omega) (by omega) (by omega) (by omega)

/-- The reply goes to the sender of the request. -/
lemma ethDest_echoHeader : ethDest (echoHeader f mac) = ethSrc f := by
  have h : ethDest (echoHeader f mac) = rdMac (wrMac f 0 (ethSrc f)) 0 := by
    refine rdMac_congr fun k _ hk => ?_
    unfold echoHeader
    rw [wr16_of_ne _ _ (by omega) (by omega), wr16_of_ne _ _ (by omega) (by omega),
      wr8_of_ne _ _ (by omega), wrIp_of_ne _ _ (by omega), wrIp_of_ne _ _ (by omega),
      wrMac_of_ne _ _ (by omega)]
  rw [h, rdMac_wrMac]

/-- The reply comes from the interface. -/
lemma ethSrc_echoHeader : ethSrc (echoHeader f mac) = mac := by
  have h : ethSrc (echoHeader f mac) = rdMac (wrMac (wrMac f 0 (ethSrc f)) 6 mac) 6 := by
    refine rdMac_congr fun k _ hk => ?_
    unfold echoHeader
    rw [wr16_of_ne _ _ (by omega) (by omega), wr16_of_ne _ _ (by omega) (by omega),
      wr8_of_ne _ _ (by omega), wrIp_of_ne _ _ (by omega), wrIp_of_ne _ _ (by omega)]
  rw [h, rdMac_wrMac]

/-- The source of the reply is the address that was asked for. -/
lemma ipSrc_echoHeader : ipSrc (echoHeader f mac) = ipDst f := by
  have h : ipSrc (echoHeader f mac) =
      rdIp (wrIp (wrMac (wrMac f 0 (ethSrc f)) 6 mac) 26 (ipDst f)) 26 := by
    refine rdIp_congr fun k hk hk' => ?_
    unfold echoHeader
    rw [wr16_of_ne _ _ (by omega) (by omega), wr16_of_ne _ _ (by omega) (by omega),
      wr8_of_ne _ _ (by omega), wrIp_of_ne _ _ (by omega)]
  rw [h, rdIp_wrIp]

/-- The destination of the reply is the host that asked. -/
lemma ipDst_echoHeader : ipDst (echoHeader f mac) = ipSrc f := by
  have h : ipDst (echoHeader f mac) =
      rdIp (wrIp (wrIp (wrMac (wrMac f 0 (ethSrc f)) 6 mac) 26 (ipDst f)) 30 (ipSrc f)) 30 := by
    refine rdIp_congr fun k hk _ => ?_
    unfold echoHeader
    rw [wr16_of_ne _ _ (by omega) (by omega), wr16_of_ne _ _ (by omega) (by omega),
      wr8_of_ne _ _ (by omega)]
  rw [h, rdIp_wrIp]

/-- The reply starts with a time to live of 64. -/
lemma ipTtl_echoHeader : ipTtl (echoHeader f mac) = 64 := by
  unfold ipTtl echoHeader
  rw [wr16_of_ne _ _ (by omega) (by omega), wr16_of_ne _ _ (by omega) (by omega), wr8_self]

variable {f}

/-- The header checksum is right. -/
lemma ipChecksumOk_echoHeader (hl : 20 ≤ ipHeaderLen f) : IpChecksumOk (echoHeader f mac) := by
  have hle := ipHeaderLen_le f
  unfold IpChecksumOk
  rw [(sameShape_echoHeader f mac).ipHeaderLen]
  exact allOnes_store_checksum16 (o := 14) (k := 5) _ (by omega) (by omega)

end Header

/-! ## The message -/

/-- The second part of the rewriting: type and code 0, and the checksum of the message. -/
def echoMessage (f : Frame) : Frame :=
  let g := wr8 (wr8 f (l4 f) 0) (l4 f + 1) 0
  let g := wr16 g (l4 f + 2) 0
  wr16 g (l4 f + 2) (utilHtons (checksum16 g (l4 f) (ipTotalLength f - ipHeaderLen f)))

section Message

variable {f : Frame}

/-- What the second part leaves alone. -/
lemma echoMessage_of_ne {k : ℕ} (h : k < l4 f ∨ l4 f + 4 ≤ k) : echoMessage f k = f k := by
  unfold echoMessage
  rw [wr16_of_ne _ _ (by omega) (by omega), wr16_of_ne _ _ (by omega) (by omega),
    wr8_of_ne _ _ (by omega), wr8_of_ne _ _ (by omega)]

/-- The shape of the packet stays. -/
lemma sameShape_echoMessage (hl : 20 ≤ ipHeaderLen f) : SameShape f (echoMessage f) :=
  SameShape.of_eq fun k hk => echoMessage_of_ne (by unfold l4; omega)

/-- The type and the code of the reply are 0. -/
lemma echoMessage_type_code : echoMessage f (l4 f) = 0 ∧ echoMessage f (l4 f + 1) = 0 := by
  unfold echoMessage
  constructor
  · rw [wr16_of_ne _ _ (by omega) (by omega), wr16_of_ne _ _ (by omega) (by omega),
      wr8_of_ne _ _ (by omega), wr8_self]
  · rw [wr16_of_ne _ _ (by omega) (by omega), wr16_of_ne _ _ (by omega) (by omega), wr8_self]

/-- The checksum of the message is right, whether its length is even or odd. -/
lemma icmpChecksumOk_echoMessage (hl : 20 ≤ ipHeaderLen f)
    (hroom : ipHeaderLen f + 8 ≤ ipTotalLength f) : IcmpChecksumOk (echoMessage f) := by
  have hlt := ipTotalLength_lt f
  have hshape := sameShape_echoMessage hl
  unfold IcmpChecksumOk
  rw [hshape.l4, hshape.ipTotalLength, hshape.ipHeaderLen]
  exact allOnes_store_checksum16 (o := l4 f) (k := 1) _ (by omega) (by omega)

/-- **The rewritten copy is an echo reply**, if the copy holds the request up to its total
length. -/
theorem isEchoReply_echoMessage {f₀ : Frame} (mac : Mac) (hl : 20 ≤ ipHeaderLen f)
    (hroom : ipHeaderLen f + 8 ≤ ipTotalLength f)
    (hcopy : ∀ k, k < 14 + ipTotalLength f → f₀ k = f k) :
    IsEchoReply f (echoMessage (echoHeader f₀ mac)) mac := by
  have hshape₀ : SameShape f f₀ := SameShape.of_eq fun k hk => hcopy k (by omega)
  have hshape := hshape₀.trans (sameShape_echoHeader f₀ mac)
  have hl' : 20 ≤ ipHeaderLen (echoHeader f₀ mac) := by rw [hshape.ipHeaderLen]; exact hl
  have hroom' : ipHeaderLen (echoHeader f₀ mac) + 8 ≤ ipTotalLength (echoHeader f₀ mac) := by
    rw [hshape.ipHeaderLen, hshape.ipTotalLength]
    exact hroom
  have hmessage := sameShape_echoMessage hl'
  have h34 : 34 ≤ l4 (echoHeader f₀ mac) := by unfold l4; omega
  have hkeep : ∀ k < 34, echoMessage (echoHeader f₀ mac) k = echoHeader f₀ mac k := fun k hk =>
    echoMessage_of_ne (by omega)
  obtain ⟨htype, hcode⟩ := echoMessage_type_code (f := echoHeader f₀ mac)
  refine ⟨?_, ?_, ?_, ?_, ?_, ?_, ?_, fun k h₀ hk h₁ h₂ h₃ h₄ h₅ => ?_, ?_, ?_⟩
  · calc ethDest (echoMessage (echoHeader f₀ mac))
        = ethDest (echoHeader f₀ mac) := rdMac_congr fun k _ hk => hkeep k (by omega)
      _ = ethSrc f₀ := ethDest_echoHeader f₀ mac
      _ = ethSrc f := rdMac_congr fun k _ hk => hcopy k (by omega)
  · calc ethSrc (echoMessage (echoHeader f₀ mac))
        = ethSrc (echoHeader f₀ mac) := rdMac_congr fun k _ hk => hkeep k (by omega)
      _ = mac := ethSrc_echoHeader f₀ mac
  · calc ipSrc (echoMessage (echoHeader f₀ mac))
        = ipSrc (echoHeader f₀ mac) := rdIp_congr fun k _ hk => hkeep k (by omega)
      _ = ipDst f₀ := ipSrc_echoHeader f₀ mac
      _ = ipDst f := rdIp_congr fun k _ hk => hcopy k (by omega)
  · calc ipDst (echoMessage (echoHeader f₀ mac))
        = ipDst (echoHeader f₀ mac) := rdIp_congr fun k _ hk => hkeep k (by omega)
      _ = ipSrc f₀ := ipDst_echoHeader f₀ mac
      _ = ipSrc f := rdIp_congr fun k _ hk => hcopy k (by omega)
  · exact (hkeep 22 (by omega)).trans (ipTtl_echoHeader f₀ mac)
  · rw [icmpType, hmessage.l4]
    exact htype
  · rw [hmessage.l4]
    exact hcode
  · rw [echoMessage_of_ne (by rw [hshape.l4]; exact h₅), echoHeader_of_ne f₀ mac h₀ h₁ h₂ h₃ h₄,
      hcopy k hk]
  · have hchecksum := ipChecksumOk_echoHeader mac (f := f₀) (by rw [hshape₀.ipHeaderLen]; exact hl)
    exact hchecksum.congr hmessage fun k _ hk => echoMessage_of_ne (Or.inl hk)
  · exact icmpChecksumOk_echoMessage hl' hroom'

end Message

/-! ## The answer -/

/-- `send_icmp_echo_reply` sends the rewritten copy. -/
lemma sendIcmpEchoReply_eq (env : Env) (c : Proc) (id : IfId) (hl : 20 ≤ ipHeaderLen c.frame)
    (hroom : ipHeaderLen c.frame + 8 ≤ ipTotalLength c.frame)
    (hmax : 14 + ipTotalLength c.frame ≤ virtioNetMaxFrameSize) :
    ∃ f₀, (∀ k, k < 14 + ipTotalLength c.frame → f₀ k = c.frame k) ∧
      sendIcmpEchoReply env c id (14 + ipTotalLength c.frame) =
        sendFrame c id (echoMessage (echoHeader f₀ (c.net.iface id).mac))
          (14 + ipTotalLength c.frame) := by
  set f₀ : Frame := fun k => if k < min (14 + ipTotalLength c.frame) virtioNetMaxFrameSize then
    c.frame k else env.stack k with hf₀
  have hcopy : ∀ k < 14 + ipTotalLength c.frame, f₀ k = c.frame k := fun k hk => by
    rw [hf₀]
    exact if_pos (by omega)
  have hshape₀ : SameShape c.frame f₀ := SameShape.of_eq fun k hk => hcopy k (by omega)
  have hshape := sameShape_echoHeader f₀ (c.net.iface id).mac
  refine ⟨f₀, hcopy, ?_⟩
  unfold sendIcmpEchoReply
  simp only
  rw [← hf₀, if_neg (by rw [hshape₀.ipTotalLength, hshape₀.ipHeaderLen]; omega),
    hshape₀.ipTotalLength]
  unfold echoMessage
  rw [hshape.l4, hshape.ipTotalLength, hshape.ipHeaderLen, hshape₀.ipTotalLength]
  rfl

/-- **Echo requests are answered.** In every reachable state, a complete echo request to the
gateway that arrives on an interface with a device makes it send one frame, on the same interface
and of the length of the request: the echo reply. -/
theorem echoRequest_answered (lanDev wanDev : Option VirtioNetDev) (ops : List NetOp) (env : Env)
    (id : IfId) (dev : VirtioNetDev) (f : Frame) (n : ℕ)
    (hdev : ((netInit lanDev wanDev).iface id).dev = some dev)
    (h : IsEchoRequest (run netStep (netInit lanDev wanDev) ops) id f n) :
    ∃ g, netLog (run netStep (netInit lanDev wanDev) ops) (.frame env id f n) =
        [.tx id g (14 + ipTotalLength f)] ∧ IsEchoReply f g dev.mac := by
  obtain ⟨hcfg, hlan, hwan⟩ := devices_run lanDev wanDev ops
  set s := run netStep (netInit lanDev wanDev) ops with hs
  have hdev' : ((learnt env s f).net.iface id).dev = some dev := by
    cases id with
    | lan => exact hlan.trans hdev
    | wan => exact hwan.trans hdev
  have hmac : ((learnt env s f).net.iface id).mac = dev.mac := by
    unfold NetInterface.mac
    rw [hdev']
  have hmax : 14 + ipTotalLength f ≤ virtioNetMaxFrameSize := h.fits.trans h.frame
  obtain ⟨f₀, hcopy, hsend⟩ :=
    sendIcmpEchoReply_eq env (learnt env s f) id h.headerLen h.header hmax
  refine ⟨echoMessage (echoHeader f₀ dev.mac), ?_,
    isEchoReply_echoMessage dev.mac h.headerLen h.header hcopy⟩
  rw [netLog, processFrame_ipv4 env hcfg id h.isIpv4, h.verdict hcfg, Verdict.run,
    learnt_frame, ← hmac]
  rw [learnt_frame] at hsend
  rw [hsend, sendFrame_eq _ (by rw [hdev']; rfl) (by omega) hmax]
  rfl

/-! ### A ping from the LAN -/

/-- An echo request with 3 bytes of data from 192.168.1.10 to the WAN address, with 4 bytes of IP
options. -/
def pingWithOptions : Frame := frameOf [
  0x52, 0x54, 0, 0, 0, 1, 2, 0, 0, 0, 0, 16, 8, 0,
  0x46, 0, 0, 35, 0, 0, 0, 0, 64, 1, 0, 0, 192, 168, 1, 10, 10, 3, 5, 99, 1, 1, 1, 1,
  8, 0, 0, 0, 0, 7, 0, 1, 97, 98, 99]

/-- The ping is answered. -/
theorem echoRequest_answered_ping : ∃ g, netLog (run netStep demoInit []) (.frame quietEnv .lan
    pingWithOptions 49) = [.tx .lan g 49] ∧ IsEchoReply pingWithOptions g demoLanDev.mac :=
  echoRequest_answered (some demoLanDev) (some demoWanDev) [] quietEnv .lan demoLanDev
    pingWithOptions
    49 rfl ⟨by decide, by decide, by decide, by decide, by decide, by decide, by decide, by decide,
      by decide⟩

end Gateway
