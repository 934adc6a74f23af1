import UcosArm64.Gateway.Forwarding

set_option relaxedAutoImplicit false
set_option autoImplicit false

/-!
# What is sent, and the bytes it depends on

Two runs of the frame processing on buffers that agree on some bytes. Each store, checksum and
translation block depends on the bytes that it reads only, so the runs send the same frames where
these bytes agree.

## Main definitions

* `Gateway.transmitted` — the frames handed to the devices, as lists of bytes.
* `Gateway.AgreeBelow` — two buffers agree on their first bytes.

## Main results

* `Gateway.translated_congr` — a translation depends on the IP packet only, and not on the old
  transport checksum.
* `Gateway.transmitted_natInbound_congr`, `Gateway.transmitted_natOutbound_congr`,
  `Gateway.transmitted_sendIcmpEchoReply_congr` — the blocks that send.
* `Gateway.transmitted_of_not_ipv4` — the other frames.
-/

namespace Gateway

/-- The frames handed to the devices, as lists of bytes. -/
def transmitted (log : List NetEvent) : List (IfId × List UInt8) :=
  log.filterMap fun
    | .tx dev f n => some (dev, (List.range n).map f)
    | .assigned .. => none

/-- Two buffers agree on their first `n` bytes. -/
def AgreeBelow (n : ℕ) (f g : Frame) : Prop := ∀ k < n, f k = g k

/-- Agreement is symmetric. -/
lemma AgreeBelow.symm {n : ℕ} {f g : Frame} (h : AgreeBelow n f g) : AgreeBelow n g f :=
  fun k hk => (h k hk).symm

/-- Agreement is transitive. -/
lemma AgreeBelow.trans {n : ℕ} {f g h : Frame} (hfg : AgreeBelow n f g) (hgh : AgreeBelow n g h) :
    AgreeBelow n f h := fun k hk => (hfg k hk).trans (hgh k hk)

/-- Frames that agree below a bound agree below a smaller one. -/
lemma AgreeBelow.mono {m n : ℕ} {f g : Frame} (h : AgreeBelow n f g) (hmn : m ≤ n) :
    AgreeBelow m f g := fun k hk => h k (by omega)

/-- Nothing has been transmitted. -/
@[simp] lemma transmitted_nil : transmitted [] = [] := rfl

/-- What two logs transmit, one after the other. -/
@[simp] lemma transmitted_append (log log' : List NetEvent) :
    transmitted (log ++ log') = transmitted log ++ transmitted log' := by
  simp [transmitted]

/-- A frame that is transmitted, with its bytes. -/
@[simp] lemma transmitted_tx (dev : IfId) (f : Frame) (n : ℕ) :
    transmitted [.tx dev f n] = [(dev, (List.range n).map f)] := rfl

/-- The assignment of a port transmits nothing. -/
@[simp] lemma transmitted_assigned (p : UInt8) (ip : Ip4) (port : UInt16) (ip' : Ip4)
    (port' port'' : UInt16) : transmitted [.assigned p ip port ip' port' port''] = [] := rfl

/-- The same bytes are sent of two buffers that agree. -/
lemma map_range_congr {n : ℕ} {f g : Frame} (h : AgreeBelow n f g) :
    (List.range n).map f = (List.range n).map g := by
  refine List.map_congr_left fun k hk => h k ?_
  simpa using hk

/-! ## Stores -/

/-- Writing a byte to two frames that agree on another one. -/
lemma wr8_congr {f g : Frame} {k : ℕ} (o : ℕ) (v : UInt8) (h : k ≠ o → f k = g k) :
    wr8 f o v k = wr8 g o v k := by
  by_cases hk : k = o
  · rw [hk, wr8_self, wr8_self]
  · rw [wr8_of_ne _ _ hk, wr8_of_ne _ _ hk, h hk]

/-- Writing a word to two frames that agree on a byte outside it. -/
lemma wr16_congr {f g : Frame} {k : ℕ} (o : ℕ) (v : UInt16)
    (h : k ≠ o → k ≠ o + 1 → f k = g k) : wr16 f o v k = wr16 g o v k :=
  wr8_congr _ _ fun h₂ => wr8_congr _ _ fun h₁ => h h₁ h₂

/-- Writing an address to two frames that agree on a byte outside it. -/
lemma wrIp_congr {f g : Frame} {k : ℕ} (o : ℕ) (ip : Ip4)
    (h : k < o ∨ o + 4 ≤ k → f k = g k) : wrIp f o ip k = wrIp g o ip k :=
  wr8_congr _ _ fun h₄ => wr8_congr _ _ fun h₃ => wr8_congr _ _ fun h₂ => wr8_congr _ _ fun h₁ =>
    h (by omega)

/-- Writing a MAC address to two frames that agree on a byte outside it. -/
lemma wrMac_congr {f g : Frame} {k : ℕ} (o : ℕ) (mac : Mac)
    (h : k < o ∨ o + 6 ≤ k → f k = g k) : wrMac f o mac k = wrMac g o mac k :=
  wr8_congr _ _ fun h₆ => wr8_congr _ _ fun h₅ => wr8_congr _ _ fun h₄ => wr8_congr _ _ fun h₃ =>
    wr8_congr _ _ fun h₂ => wr8_congr _ _ fun h₁ => h (by omega)

/-! ## Checksums -/

/-- The summation loop of `checksum16` depends on the bytes that it reads. -/
lemma sumBytes_congr {f g : Frame} (o n : ℕ) (sum : UInt32)
    (h : ∀ k, o ≤ k → k < o + n → f k = g k) : sumBytes f o n sum = sumBytes g o n sum := by
  induction o, n, sum using sumBytes.induct f with
  | case1 o sum => rfl
  | case2 o sum => rw [sumBytes, sumBytes, h o le_rfl (by omega)]
  | case3 o n sum ih =>
    rw [h o le_rfl (by omega), h (o + 1) (by omega) (by omega)] at ih
    rw [sumBytes, sumBytes, h o le_rfl (by omega), h (o + 1) (by omega) (by omega)]
    exact ih fun k hk hk' => h k (by omega) (by omega)

/-- The summation loop of `tcp_udp_checksum` depends on the bytes that it reads. -/
lemma sumWords_congr {f g : Frame} (o n : ℕ) (sum : UInt32)
    (h : ∀ k, o ≤ k → k < o + n → f k = g k) : sumWords f o n sum = sumWords g o n sum := by
  induction o, n, sum using sumWords.induct f with
  | case1 o sum => rfl
  | case2 o sum => rw [sumWords, sumWords, h o le_rfl (by omega)]
  | case3 o n sum ih =>
    have hword : rd16 f o = rd16 g o :=
      rd16_congr (h o le_rfl (by omega)) (h (o + 1) (by omega) (by omega))
    rw [hword] at ih
    rw [sumWords, sumWords, hword]
    exact ih fun k hk hk' => h k (by omega) (by omega)

/-- `checksum16` depends on the bytes of its range only. -/
lemma checksum16_congr {f g : Frame} (o n : ℕ) (h : ∀ k, o ≤ k → k < o + n → f k = g k) :
    checksum16 f o n = checksum16 g o n := by
  rw [checksum16, checksum16, sumBytes_congr o n 0 h]

/-- `tcp_udp_checksum` depends on the addresses, the protocol and the bytes of its range only. -/
lemma tcpUdpChecksum_congr {f g : Frame} (o n : ℕ) (hip : ∀ k, 23 ≤ k → k < 34 → f k = g k)
    (h : ∀ k, o ≤ k → k < o + n → f k = g k) : tcpUdpChecksum f o n = tcpUdpChecksum g o n := by
  have hword : ∀ a, 26 ≤ a → a ≤ 32 → rd16 f a = rd16 g a := fun a ha ha' =>
    rd16_congr (hip a (by omega) (by omega)) (hip (a + 1) (by omega) (by omega))
  have hpseudo : sumPseudo f n = sumPseudo g n := by
    unfold sumPseudo ipProtocol
    rw [hword 26 (by omega) (by omega), hword 28 (by omega) (by omega),
      hword 30 (by omega) (by omega), hword 32 (by omega) (by omega),
      hip 23 (by omega) (by omega)]
  rw [tcpUdpChecksum, tcpUdpChecksum, hpseudo, sumWords_congr o n _ h]

/-! ## Translations -/

/-- The new IP header depends on the old one. -/
lemma updateIpHeader_congr {f g : Frame} {k : ℕ} {addr : ℕ} (ip : Ip4) (ha : 26 ≤ addr)
    (hl : 20 ≤ ipHeaderLen f) (h : ∀ j, 14 ≤ j → j < l4 f → f j = g j) (hk : f k = g k) :
    updateIpHeader f addr ip k = updateIpHeader g addr ip k := by
  have h34 : 34 ≤ l4 f := by unfold l4; omega
  have hl4 : l4 f = 14 + ipHeaderLen f := rfl
  have hlen : ipHeaderLen g = ipHeaderLen f := by
    rw [ipHeaderLen, ipHeaderLen, ipIhl, ipIhl, h 14 le_rfl (by omega)]
  have htt : wrIp f addr ip 22 = wrIp g addr ip 22 :=
    wrIp_congr _ _ fun _ => h 22 (by omega) (by omega)
  unfold updateIpHeader
  rw [ipHeaderLen_cleared f ip _ ha, ipHeaderLen_cleared g ip _ ha, hlen, htt,
    checksum16_congr (g := wr16 (wr8 (wrIp g addr ip) 22 (wrIp g addr ip 22 - 1)) 24 0)]
  · exact wr16_congr _ _ fun _ _ => wr16_congr _ _ fun _ _ => wr8_congr _ _ fun _ =>
      wrIp_congr _ _ fun _ => hk
  · intro j hj hj'
    exact wr16_congr _ _ fun _ _ => wr8_congr _ _ fun _ => wrIp_congr _ _ fun _ =>
      h j hj (by omega)

/-- **A translation depends on the IP packet only**, and not on the checksum in its transport
header.

**Proof sketch.** The frames have one shape, and the port is stored and the checksum cleared in
both alike; so the checksums of the two are the same, by `checksum16_congr` and
`tcpUdpChecksum_congr`. -/
lemma translated_congr (id : IfId) {f g : Frame} (ip : Ip4) (port : UInt16)
    (hl : 20 ≤ ipHeaderLen f) (ht : HasTransport f)
    (h : ∀ k, 12 ≤ k → k < 14 + ipTotalLength f → k ≠ l4 f + l4ChecksumOffset (ipProtocol f) →
      k ≠ l4 f + l4ChecksumOffset (ipProtocol f) + 1 → f k = g k) {k : ℕ}
    (hk : k ≠ l4 f + l4ChecksumOffset (ipProtocol f) →
      k ≠ l4 f + l4ChecksumOffset (ipProtocol f) + 1 → f k = g k) :
    translated id (ipProtocol f) ip port f k = translated id (ipProtocol f) ip port g k := by
  have hroom := ht.icmp
  have h34 : 34 ≤ l4 f := by unfold l4; omega
  have hl4 : l4 f = 14 + ipHeaderLen f := rfl
  set c := l4 f + l4ChecksumOffset (ipProtocol f) with hc
  have hhead : ∀ j, 12 ≤ j → j < l4 f → f j = g j := fun j hj hj' =>
    h j hj (by omega) (by omega) (by omega)
  have hshape : SameShape f g :=
    SameShape.of_eq fun j hj => (hhead j (by omega) (by omega)).symm
  have hupd : ∀ {j}, f j = g j →
      updateIpHeader f (addrOffset id) ip j = updateIpHeader g (addrOffset id) ip j := fun hj =>
    updateIpHeader_congr ip (addrOffset_bounds id).1 hl (fun j hj => hhead j (by omega)) hj
  have hsf := sameShape_updateIpHeader f ip (addrOffset_bounds id).1
  have hsg := sameShape_updateIpHeader g ip (addrOffset_bounds id).1
  -- both kinds of headers: the port is stored, the checksum cleared and computed anew
  have hclear : ∀ p {j}, (j ≠ c → j ≠ c + 1 → f j = g j) →
      cleared (updateIpHeader f (addrOffset id) ip) p c port j =
        cleared (updateIpHeader g (addrOffset id) ip) p c port j := fun p j hj =>
    wr16_congr _ _ fun h₁ h₂ => wr16_congr _ _ fun _ _ => hupd (hj h₁ h₂)
  have hbody : ∀ p j, 12 ≤ j → j < 14 + ipTotalLength f →
      cleared (updateIpHeader f (addrOffset id) ip) p c port j =
        cleared (updateIpHeader g (addrOffset id) ip) p c port j := fun p j hj hj' =>
    hclear p (h j hj hj')
  unfold translated
  by_cases h1 : ipProtocol f = 1
  · have hcoff : c = l4 f + 2 := by rw [hc, l4ChecksumOffset, if_pos h1]
    rw [if_pos h1, if_pos h1, updateIcmp_eq _ port (by rw [hsf.ipHeaderLen]; exact hl),
      updateIcmp_eq _ port (by rw [hsg.ipHeaderLen, hshape.ipHeaderLen]; exact hl), hsf.l4, hsg.l4,
      hshape.l4, ← hcoff, hsf.ipTotalLength, hsg.ipTotalLength, hshape.ipTotalLength,
      hsf.ipHeaderLen, hsg.ipHeaderLen, hshape.ipHeaderLen,
      checksum16_congr (l4 f) (ipTotalLength f - ipHeaderLen f) fun j hj hj' =>
        hbody (l4 f + 4) j (by omega) (by omega)]
    exact wr16_congr _ _ fun h₁ h₂ => hclear _ fun _ _ => hk h₁ h₂
  · have hcoff : l4 f + checksumOffset (ipProtocol f) = c := by
      rw [hc, l4ChecksumOffset, if_neg h1]
    rw [if_neg h1, if_neg h1, updateTransport_eq _ port (by rw [hsf.ipHeaderLen]; exact hl),
      updateTransport_eq _ port (by rw [hsg.ipHeaderLen, hshape.ipHeaderLen]; exact hl), hsf.l4,
      hsg.l4, hshape.l4, hsf.ipProtocol, hsg.ipProtocol, hshape.ipProtocol, hcoff,
      hsf.ipTotalLength, hsg.ipTotalLength, hshape.ipTotalLength, hsf.ipHeaderLen,
      hsg.ipHeaderLen, hshape.ipHeaderLen,
      tcpUdpChecksum_congr (l4 f) (ipTotalLength f - ipHeaderLen f)
        (fun j hj hj' => hbody _ j (by omega) (by omega))
        fun j hj hj' => hbody _ j (by omega) (by omega)]
    exact wr16_congr _ _ fun h₁ h₂ => hclear _ fun _ _ => hk h₁ h₂

/-! ## Sending -/

/-- Sending depends on the bytes that are sent. -/
lemma transmitted_sendFrame_congr {c d : Proc} (id : IfId) {f g : Frame} {n : ℕ}
    (hnet : c.net = d.net) (hlog : transmitted c.log = transmitted d.log)
    (h : n ≤ virtioNetMaxFrameSize → AgreeBelow n f g) :
    transmitted (sendFrame c id f n).log = transmitted (sendFrame d id g n).log := by
  unfold sendFrame
  rw [hnet]
  split_ifs with h₁ h₂
  · exact hlog
  · exact hlog
  · simp [hlog, map_range_congr (h (by omega))]

/-- Forwarding depends on the rewritten packet. -/
lemma transmitted_forward_congr {net : NetState} {log : List NetEvent} {f g : Frame} (out : IfId)
    (nextHop : Ip4) (miss : Proc → Proc) (rewrite : Frame → Frame)
    (hT : ipTotalLength g = ipTotalLength f)
    (hmiss : ∀ m, transmitted (miss ⟨net, wrMac f 6 m, log⟩).log =
      transmitted (miss ⟨net, wrMac g 6 m, log⟩).log)
    (hrw : 14 + ipTotalLength f ≤ virtioNetMaxFrameSize → ∀ m m', AgreeBelow (14 + ipTotalLength f)
      (rewrite (wrMac (wrMac f 6 m) 0 m')) (rewrite (wrMac (wrMac g 6 m) 0 m'))) :
    transmitted (forward ⟨net, f, log⟩ out nextHop miss rewrite).1.log =
      transmitted (forward ⟨net, g, log⟩ out nextHop miss rewrite).1.log := by
  unfold forward
  simp only
  cases arpCacheLookup net.nat nextHop with
  | none => exact hmiss _
  | some mac =>
    simp only
    rw [hT]
    exact transmitted_sendFrame_congr out rfl rfl fun hle => hrw hle _ _

/-! ## The blocks -/

/-- An inbound block depends on the rewritten packet. -/
lemma transmitted_natInbound_congr {net : NetState} {log : List NetEvent} {f g : Frame}
    (now : UInt32) (n : ℕ) (protocol : UInt8) (wanPort srcPort : UInt16)
    (rewrite : Ip4 → UInt16 → Frame → Frame) (hsrc : ipSrc g = ipSrc f)
    (hT : ipTotalLength g = ipTotalLength f)
    (hrw : 14 + ipTotalLength f ≤ virtioNetMaxFrameSize → ∀ ip p m m',
      AgreeBelow (14 + ipTotalLength f) (rewrite ip p (wrMac (wrMac f 6 m) 0 m'))
        (rewrite ip p (wrMac (wrMac g 6 m) 0 m'))) :
    transmitted (natInbound ⟨net, f, log⟩ now n protocol wanPort srcPort rewrite).1.log =
      transmitted (natInbound ⟨net, g, log⟩ now n protocol wanPort srcPort rewrite).1.log := by
  unfold natInbound
  simp only
  rw [hsrc]
  cases (natTranslateInbound net.nat now protocol wanPort (ipSrc f) srcPort).2 with
  | none => rfl
  | some r =>
    simp only
    split_ifs
    · exact transmitted_forward_congr .lan _ _ _ hT (fun _ => rfl) fun hle => hrw hle r.1 r.2
    · rfl

/-- An inbound block sends nothing of a packet that is too long. -/
lemma log_natInbound_long (c : Proc) (now : UInt32) (n : ℕ) (protocol : UInt8)
    (wanPort srcPort : UInt16) (rewrite : Ip4 → UInt16 → Frame → Frame)
    (h : virtioNetMaxFrameSize < 14 + ipTotalLength c.frame) :
    (natInbound c now n protocol wanPort srcPort rewrite).1.log = c.log := by
  obtain ⟨-, -, ⟨-, hlog, -⟩ | ⟨i, mac, g, -, -, -, -, -, -, hr⟩⟩ :=
    natInbound_cases c now n protocol wanPort srcPort rewrite
  · exact hlog
  · rw [hr, sendFrame_long _ _ _ h]

/-- An outbound block depends on the addresses and on the rewritten packet. -/
lemma transmitted_natOutbound_congr {net : NetState} {log : List NetEvent} {f g : Frame}
    (now : UInt32) (n : ℕ) (protocol : UInt8) (lanPort dstPort : UInt16) (miss : Proc → Proc)
    (rewrite : UInt16 → Frame → Frame) (hsrc : ipSrc g = ipSrc f) (hdst : ipDst g = ipDst f)
    (hT : ipTotalLength g = ipTotalLength f)
    (hmiss : ∀ net log m, transmitted (miss ⟨net, wrMac f 6 m, log⟩).log =
      transmitted (miss ⟨net, wrMac g 6 m, log⟩).log)
    (hrw : 14 + ipTotalLength f ≤ virtioNetMaxFrameSize → ∀ p m m',
      AgreeBelow (14 + ipTotalLength f) (rewrite p (wrMac (wrMac f 6 m) 0 m'))
        (rewrite p (wrMac (wrMac g 6 m) 0 m'))) :
    transmitted (natOutbound ⟨net, f, log⟩ now n protocol lanPort dstPort miss rewrite).1.log =
      transmitted (natOutbound ⟨net, g, log⟩ now n protocol lanPort dstPort miss
        rewrite).1.log := by
  unfold natOutbound
  simp only
  rw [hsrc, hdst]
  cases (natTranslateOutbound net.nat now protocol (ipSrc f) lanPort (ipDst f) dstPort).2 with
  | none => rfl
  | some p =>
    simp only
    split_ifs
    · exact transmitted_forward_congr .wan _ _ _ hT (hmiss _ _) fun hle => hrw hle p
    · rfl

/-- An outbound block sends nothing of a packet that is too long, if the destination is cached or a
miss sends nothing. -/
lemma transmitted_natOutbound_long (c : Proc) (now : UInt32) (n : ℕ) (protocol : UInt8)
    (lanPort dstPort : UInt16) (miss : Proc → Proc) (rewrite : UInt16 → Frame → Frame)
    (h : virtioNetMaxFrameSize < 14 + ipTotalLength c.frame)
    (hmiss : arpCacheLookup c.net.nat (ipDst c.frame) = none → ∀ d, (miss d).log = d.log) :
    transmitted (natOutbound c now n protocol lanPort dstPort miss rewrite).1.log =
      transmitted c.log := by
  rcases natOutbound_cases c now n protocol lanPort dstPort miss rewrite with
    ⟨-, hr⟩ | ⟨p, d, -, rfl, ⟨-, hr⟩ | ⟨-, hnone, hr⟩ | ⟨-, mac, g, -, -, hr⟩⟩
  · rw [hr]
  · rw [hr]
    simp
  · rw [hr, hmiss hnone]
    simp
  · rw [hr, sendFrame_long _ _ _ h]
    simp

/-- What an outbound block does without an Ethernet address depends on the destination. -/
lemma transmitted_outMiss_congr (protocol : UInt8) (net : NetState) (log : List NetEvent)
    {f g : Frame} (hdst : ipDst g = ipDst f) :
    transmitted (outMiss protocol ⟨net, f, log⟩).log =
      transmitted (outMiss protocol ⟨net, g, log⟩).log := by
  unfold outMiss
  split_ifs
  · rfl
  · unfold sendArpRequestForIp
    simp only
    rw [hdst]
    exact transmitted_sendFrame_congr .wan rfl rfl fun _ _ _ => rfl

/-- An echo reply depends on the bytes that are copied. -/
lemma transmitted_sendIcmpEchoReply_congr (env : Env) {net : NetState} {log : List NetEvent}
    {f g : Frame} (id : IfId) {n : ℕ} (h : AgreeBelow n f g) :
    transmitted (sendIcmpEchoReply env ⟨net, f, log⟩ id n).log =
      transmitted (sendIcmpEchoReply env ⟨net, g, log⟩ id n).log := by
  have hcopy : (fun k => if k < min n virtioNetMaxFrameSize then f k else env.stack k) =
      fun k => if k < min n virtioNetMaxFrameSize then g k else env.stack k := by
    funext k
    split_ifs with hk
    · exact h k (by omega)
    · rfl
  unfold sendIcmpEchoReply
  simp only [hcopy]
  split_ifs
  · rfl
  · exact transmitted_sendFrame_congr id rfl rfl fun _ _ _ => rfl

/-- The length field lies in the bytes that are copied. -/
lemma ipTotalLength_copy (f g : Frame) {n : ℕ} (h : 18 ≤ n) :
    ipTotalLength (fun k => if k < n then f k else g k) = ipTotalLength f := by
  unfold ipTotalLength
  rw [rd16_congr (g := f)]
  · rw [if_pos (by omega)]
  · rw [if_pos (by omega)]

/-- An echo request that is too long is not answered. -/
lemma log_sendIcmpEchoReply_long (env : Env) {c : Proc} (id : IfId)
    (h : virtioNetMaxFrameSize < 14 + ipTotalLength c.frame) :
    (sendIcmpEchoReply env c id (14 + ipTotalLength c.frame)).log = c.log := by
  have hmax : virtioNetMaxFrameSize = 1518 := rfl
  have hlen := ipTotalLength_copy c.frame env.stack
    (show 18 ≤ min (14 + ipTotalLength c.frame) virtioNetMaxFrameSize by omega)
  unfold sendIcmpEchoReply
  simp only
  split_ifs
  · rfl
  · rw [hlen, sendFrame_long _ _ _ h]

/-! ## Frames that are not IPv4 packets -/

/-- The first bytes tell whether a frame is an IPv4 packet. -/
lemma IsIpv4.congr {f g : Frame} {n : ℕ} (h : AgreeBelow n f g) (hf : IsIpv4 f n) : IsIpv4 g n := by
  have hroom := hf.room
  refine ⟨hroom, ?_, ?_, ?_⟩
  · rw [← hf.type, ethType, ethType, rd16_congr (h 12 (by omega)) (h 13 (by omega))]
  · rw [← hf.version, ipVersion, ipVersion, h 14 (by omega)]
  · have hi := hf.ihl
    unfold ipIhl at hi ⊢
    rw [← h 14 (by omega)]
    exact hi

/-- A frame that is not an IPv4 packet is answered from the bytes received. -/
lemma transmitted_of_not_ipv4 {env : Env} {s : NetState} {id : IfId} {f g : Frame} {n : ℕ}
    (h : AgreeBelow n f g) (hf : ¬IsIpv4 f n) :
    transmitted (netDemoProcessFrame env s id f n).1.log =
      transmitted (netDemoProcessFrame env s id g n).1.log := by
  have hg : ¬IsIpv4 g n := fun hg => hf (hg.congr h.symm)
  rw [processFrame_of_not_ipv4 env s id hf, processFrame_of_not_ipv4 env s id hg]
  by_cases h42 : n < 42
  · -- a short frame is dropped
    have hdrop : ∀ f : Frame, processArp env ⟨s, f, []⟩ id n = (⟨s, f, []⟩, some 0) := by
      intro f
      unfold processArp
      rw [if_pos h42]
    rw [hdrop, hdrop, ite_self, ite_self]
  have htype : ethType g = ethType f := by
    rw [ethType, ethType, rd16_congr (h 12 (by omega)) (h 13 (by omega))]
  rw [htype]
  split_ifs with harp
  · have hop : rd16 g 20 = rd16 f 20 := (rd16_congr (h 20 (by omega)) (h 21 (by omega))).symm
    have hsha : rdMac g 22 = rdMac f 22 := rdMac_congr fun k _ hk => (h k (by omega)).symm
    have hspa : rdIp g 28 = rdIp f 28 := rdIp_congr fun k _ hk => (h k (by omega)).symm
    have htpa : rdIp g 38 = rdIp f 38 := rdIp_congr fun k _ hk => (h k (by omega)).symm
    have hsrc : ethSrc g = ethSrc f := rdMac_congr fun k _ hk => (h k (by omega)).symm
    unfold processArp
    rw [if_neg h42, if_neg h42]
    simp only [hop, hsha, hspa, htpa, sendArpReply, hsrc]
    split_ifs
    · exact transmitted_sendFrame_congr id rfl rfl fun _ _ _ => rfl
    · cases id <;> rfl
    · rfl
  · rfl

end Gateway
