import UcosArm64.Gateway.EchoReply
import UcosArm64.Gateway.Transmitted

set_option relaxedAutoImplicit false
set_option autoImplicit false

/-!
# Bytes beyond the received frame

The sections for IPv4 compare the total length of the packet with its header length, but not with
the number of bytes received. A packet that claims more bytes than were received is forwarded, or
answered, with whatever the receive buffer holds behind them.

## Main definitions

* `Gateway.Undisclosed` — what is sent does not depend on the bytes behind the received ones.
* `Gateway.MayReach` — a packet that is answered or translated, as far as the received bytes tell.
* `Gateway.Discloses` — the received bytes for which bytes behind them are sent, in some state.

## Main results

* `Gateway.transmitted_congr` — without disclosure, two buffers that agree on the received bytes
  make the gateway send the same frames.
* `Gateway.undisclosed_iff` — the exact condition.
* `Gateway.disclosed_ping` — an echo reply that carries a byte that was not received.
-/

namespace Gateway

open Transition

/-- **No disclosure**: for every interface, state and surroundings, two buffers that hold the `n`
received bytes of `f` make the gateway send the same frames. -/
def Undisclosed (f : Frame) (n : ℕ) : Prop :=
  ∀ s, Configured s → ∀ env id g g', AgreeBelow n f g → AgreeBelow n f g' →
    transmitted (netLog s (.frame env id g n)) = transmitted (netLog s (.frame env id g' n))

/-! ## The condition -/

/-- The packet is answered or translated, as far as the `n` received bytes tell: if they do not
reach the type of an ICMP message, it may have any type. -/
def MayReach (f : Frame) (n : ℕ) : Prop :=
  HasTransport f ∧
    (ipDst f = natCfgInit.wanIp ∧
        (ipProtocol f = 1 → n ≤ l4 f ∨ icmpType f = 0 ∨ icmpType f = 8) ∨
      ipDst f = natCfgInit.lanIp ∧ ipProtocol f = 1 ∧ (n ≤ l4 f ∨ icmpType f = 8) ∨
      ipDst f ≠ natCfgInit.wanIp ∧ ipDst f ≠ natCfgInit.lanIp ∧
        natIsLanIp natCfgInit (ipSrc f) = true ∧
        (ipProtocol f = 1 → n ≤ l4 f ∨ icmpType f = 8))

/-- **Disclosure.** The packet claims more bytes than the `n` received, and may be answered or
translated; and
* it is not too long to be sent, and it is not a UDP packet without data of which only bytes of the
  checksum are missing; or
* it is too long to be sent, its ports are missing in part, and they decide whether the gateway asks
  for the destination. -/
def Discloses (f : Frame) (n : ℕ) : Prop :=
  IsIpv4 f n ∧ n < 14 + ipTotalLength f ∧ MayReach f n ∧
    (14 + ipTotalLength f ≤ virtioNetMaxFrameSize ∧
        ¬(ipProtocol f = 17 ∧ ipTotalLength f = ipHeaderLen f + 8 ∧ l4 f + 6 ≤ n) ∨
      virtioNetMaxFrameSize < 14 + ipTotalLength f ∧ ipProtocol f ≠ 1 ∧
        ipDst f ≠ natCfgInit.wanIp ∧ ipSrc f ≠ ipDst f ∧ n < l4 f + 4)

/-! ## Fields in agreement -/

/-- Two buffers have the same header fields, and hence the same addresses. -/
structure SameHeader (f g : Frame) : Prop where
  shape : SameShape f g
  src : ipSrc g = ipSrc f
  dst : ipDst g = ipDst f
  mac : ethSrc g = ethSrc f

/-- Two buffers have the same header fields, ports and ICMP type. -/
structure SameFields (f g : Frame) : Prop extends SameHeader f g where
  type : ipProtocol f = 1 → icmpType g = icmpType f
  inPort : inPort g = inPort f
  inSrcPort : inSrcPort g = inSrcPort f
  outPort : outPort g = outPort f
  outDstPort : outDstPort g = outDstPort f

/-- Buffers that agree on the fixed headers have the same header fields. -/
lemma AgreeBelow.sameHeader {n : ℕ} {f g : Frame} (h : AgreeBelow n f g) (hn : 34 ≤ n) :
    SameHeader f g where
  shape := SameShape.of_eq fun k hk => (h k (by omega)).symm
  src := rdIp_congr fun k _ hk => (h k (by omega)).symm
  dst := rdIp_congr fun k _ hk => (h k (by omega)).symm
  mac := rdMac_congr fun k _ hk => (h k (by omega)).symm

/-- Buffers that agree on the headers and on the ports, or the ICMP identifier, have the same
fields. -/
lemma sameFields_of_agree {f g : Frame} (hl : 20 ≤ ipHeaderLen f) (h : AgreeBelow (l4 f + 4) f g)
    (hid : ipProtocol f = 1 → AgreeBelow (l4 f + 6) f g) : SameFields f g := by
  have h34 : 34 ≤ l4 f := by unfold l4; omega
  have hhead := h.sameHeader (by omega)
  have hsrc : srcPort g = srcPort f := by
    rw [srcPort, srcPort, hhead.shape.l4, rd16_congr (h (l4 f) (by omega)) (h _ (by omega))]
  have hdst : dstPort g = dstPort f := by
    rw [dstPort, dstPort, hhead.shape.l4,
      rd16_congr (h (l4 f + 2) (by omega)) (h (l4 f + 2 + 1) (by omega))]
  have hident : ipProtocol f = 1 → icmpIdentifier g = icmpIdentifier f := fun h1 => by
    rw [icmpIdentifier, icmpIdentifier, hhead.shape.l4,
      rd16_congr (hid h1 (l4 f + 4) (by omega)) (hid h1 (l4 f + 4 + 1) (by omega))]
  refine ⟨hhead, fun _ => ?_, ?_, ?_, ?_, ?_⟩
  · rw [icmpType, icmpType, hhead.shape.l4, h (l4 f) (by omega)]
  · unfold Gateway.inPort
    rw [hhead.shape.ipProtocol, hdst]
    split_ifs with h1
    · exact hident h1
    · rfl
  · unfold Gateway.inSrcPort
    rw [hhead.shape.ipProtocol, hsrc]
  · unfold Gateway.outPort
    rw [hhead.shape.ipProtocol, hsrc]
    split_ifs with h1
    · exact hident h1
    · rfl
  · unfold Gateway.outDstPort
    rw [hhead.shape.ipProtocol, hdst]

/-- The verdict depends on the headers and, for ICMP, on the type. -/
lemma SameHeader.verdict {f g : Frame} (h : SameHeader f g)
    (htype : ipProtocol f = 1 → HasTransport f → icmpType g = icmpType f) (id : IfId) :
    verdict id g = verdict id f := by
  by_cases ht : HasTransport f
  · have htg := h.shape.hasTransport.mpr ht
    unfold Gateway.verdict wanVerdict lanVerdict
    rw [if_pos ht, if_pos htg, h.dst, h.src, h.shape.ipProtocol]
    by_cases h1 : ipProtocol f = 1
    · rw [htype h1 ht]
    · cases id <;> simp [h1]
  · rw [verdict_of_not ht, verdict_of_not (h.shape.hasTransport.not.mpr ht)]

/-- Learning depends on the headers. -/
lemma SameHeader.learnt {f g : Frame} (h : SameHeader f g) (env : Env) (s : NetState) :
    Gateway.learnt env s g = ⟨(Gateway.learnt env s f).net, g, []⟩ := by
  unfold Gateway.learnt
  rw [h.src, h.mac]

/-! ## Without disclosure -/

/-- A translation is the same up to the claimed length if the packets agree up to it, but for the
checksum. -/
lemma agreeBelow_translated (id : IfId) {f g : Frame} (ip : Ip4) (port : UInt16) (m m' : Mac)
    (hl : 20 ≤ ipHeaderLen f) (ht : HasTransport f)
    (h : ∀ k, 12 ≤ k → k < 14 + ipTotalLength f → k ≠ l4 f + l4ChecksumOffset (ipProtocol f) →
      k ≠ l4 f + l4ChecksumOffset (ipProtocol f) + 1 → f k = g k) :
    AgreeBelow (14 + ipTotalLength f)
      (translated id (ipProtocol f) ip port (wrMac (wrMac f 6 m) 0 m'))
      (translated id (ipProtocol f) ip port (wrMac (wrMac g 6 m) 0 m')) := by
  have hshape : SameShape f (wrMac (wrMac f 6 m) 0 m') := sameShape_of_agree fun k hk => by
    rw [wrMac_of_ne _ _ (by omega), wrMac_of_ne _ _ (by omega)]
  have heth : ∀ {k}, (12 ≤ k → f k = g k) →
      wrMac (wrMac f 6 m) 0 m' k = wrMac (wrMac g 6 m) 0 m' k := fun hk =>
    wrMac_congr _ _ fun h₁ => wrMac_congr _ _ fun h₂ => hk (by omega)
  intro k hk
  have hcongr := translated_congr id (f := wrMac (wrMac f 6 m) 0 m')
    (g := wrMac (wrMac g 6 m) 0 m') (k := k) ip port (by rw [hshape.ipHeaderLen]; exact hl)
    (hshape.hasTransport.mpr ht)
  rw [hshape.ipProtocol, hshape.ipTotalLength, hshape.l4] at hcongr
  exact hcongr (fun j hj hj' h₁ h₂ => heth fun _ => h j hj hj' h₁ h₂)
    fun h₁ h₂ => heth fun h12 => h k h12 hk h₁ h₂

/-- Running a verdict depends on the fields and on the IP packet. -/
lemma transmitted_run_congr (env : Env) (net : NetState) (id : IfId) {f g : Frame} {n : ℕ}
    (v : Verdict) (hl : 20 ≤ ipHeaderLen f) (ht : HasTransport f) (h : SameFields f g)
    (hbody : 14 + ipTotalLength f ≤ virtioNetMaxFrameSize → ∀ k, 12 ≤ k →
      k < 14 + ipTotalLength f → k ≠ l4 f + l4ChecksumOffset (ipProtocol f) →
      k ≠ l4 f + l4ChecksumOffset (ipProtocol f) + 1 → f k = g k)
    (hecho : v = .echo → AgreeBelow (14 + ipTotalLength f) f g) :
    transmitted (v.run env ⟨net, f, []⟩ id n).log =
      transmitted (v.run env ⟨net, g, []⟩ id n).log := by
  have hT := h.shape.ipTotalLength
  cases v with
  | drop => rfl
  | echo =>
    simp only [Verdict.run, hT]
    exact transmitted_sendIcmpEchoReply_congr env id (hecho rfl)
  | inbound =>
    simp only [Verdict.run, runInbound, h.shape.ipProtocol, h.inPort, h.inSrcPort]
    exact transmitted_natInbound_congr _ _ _ _ _ _ h.src hT fun hle ip p m m' =>
      agreeBelow_translated .wan ip p m m' hl ht (hbody hle)
  | outbound =>
    simp only [Verdict.run, runOutbound, h.shape.ipProtocol, h.outPort, h.outDstPort]
    split_ifs
    · refine transmitted_natOutbound_congr _ _ _ _ _ _ _ h.src h.dst hT (fun net log m => ?_)
        fun hle p m m' => agreeBelow_translated .lan natCfgInit.wanIp p m m' hl ht (hbody hle)
      refine transmitted_outMiss_congr _ net log ?_
      unfold ipDst
      rw [rdIp_congr fun k hk _ => wrMac_of_ne g m (by omega),
        rdIp_congr fun k hk _ => wrMac_of_ne f m (by omega)]
      exact h.dst
    · rfl

/-- Of a packet that is too long nothing is sent, unless a TCP or UDP packet makes the gateway ask
for its destination. -/
lemma transmitted_run_long (env : Env) {c : Proc} (id : IfId) (n : ℕ) (v : Verdict)
    (h : virtioNetMaxFrameSize < 14 + ipTotalLength c.frame)
    (hmiss : v = .outbound → arpCacheLookup c.net.nat (ipDst c.frame) = none →
      ipProtocol c.frame = 1) : transmitted (v.run env c id n).log = transmitted c.log := by
  cases v with
  | drop => rfl
  | echo => rw [Verdict.run, log_sendIcmpEchoReply_long env id h]
  | inbound => rw [Verdict.run, runInbound, log_natInbound_long c _ _ _ _ _ _ h]
  | outbound =>
    rw [Verdict.run]
    split_ifs
    · refine transmitted_natOutbound_long c _ _ _ _ _ _ _ h fun hnone d => ?_
      rw [outMiss, if_pos (hmiss rfl hnone)]
    · rfl

/-- A packet that is answered or translated may reach that far. -/
lemma mayReach_of_verdict {id : IfId} {f : Frame} (n : ℕ) (h : verdict id f ≠ .drop) :
    MayReach f n := by
  have ht := hasTransport_of_verdict h
  refine ⟨ht, ?_⟩
  cases id with
  | wan =>
    rw [verdict_wan ht] at h
    unfold wanVerdict at h
    split_ifs at h with h₁ h₂ h₃ h₄
    · exact Or.inl ⟨h₁, fun _ => Or.inr (Or.inl h₃)⟩
    · exact Or.inl ⟨h₁, fun _ => Or.inr (Or.inr h₄)⟩
    · exact absurd rfl h
    · exact Or.inl ⟨h₁, fun h1 => absurd h1 h₂⟩
    · exact absurd rfl h
  | lan =>
    rw [verdict_lan ht] at h
    unfold lanVerdict at h
    split_ifs at h with h₁ h₂ h₃ h₄
    · rcases h₁ with h₁ | h₁
      · exact Or.inr (Or.inl ⟨h₁, h₂.1, Or.inr h₂.2⟩)
      · exact Or.inl ⟨h₁, fun _ => Or.inr (Or.inr h₂.2)⟩
    · exact absurd rfl h
    · exact absurd rfl h
    · rw [not_or] at h₁
      refine Or.inr (Or.inr ⟨h₁.2, h₁.1, h₃, fun h1 => Or.inr ?_⟩)
      exact not_not.mp fun h8 => h₄ ⟨h1, h8⟩
    · exact absurd rfl h

/-- A packet that is translated outwards comes from the LAN and is not for the gateway. -/
lemma outbound_addr {id : IfId} {f : Frame} (h : verdict id f = .outbound) :
    natIsLanIp natCfgInit (ipSrc f) = true ∧ ipDst f ≠ natCfgInit.lanIp ∧
      ipDst f ≠ natCfgInit.wanIp := by
  cases id with
  | wan => exact absurd h (verdict_wan_ne_outbound f)
  | lan =>
    rw [verdict_lan (hasTransport_of_verdict (h.trans_ne (by decide)))] at h
    unfold lanVerdict at h
    split_ifs at h with h₁ h₂ h₃ h₄
    exact ⟨h₃, not_or.mp h₁⟩

/-- An ICMP message that claims more bytes than were received and cannot disclose them sends
nothing. -/
lemma transmitted_icmp_silent {env : Env} {net : NetState} {id : IfId} {f : Frame} {n : ℕ}
    (h4 : IsIpv4 f n) (hlong : n < 14 + ipTotalLength f) (h1 : ipProtocol f = 1)
    (hd : ¬Discloses f n) : transmitted ((verdict id f).run env ⟨net, f, []⟩ id n).log = [] := by
  by_cases hv : verdict id f = .drop
  · rw [hv]
    rfl
  · have hmax : virtioNetMaxFrameSize < 14 + ipTotalLength f := by
      by_contra hle
      refine hd ⟨h4, hlong, mayReach_of_verdict n hv, Or.inl ⟨by omega, fun h => ?_⟩⟩
      rw [h1] at h
      exact absurd h.1 (by decide)
    exact transmitted_run_long env id n (verdict id f) (c := ⟨net, f, []⟩) hmax fun _ _ => h1

/-- Whether a packet may reach that far depends on the received bytes. -/
lemma MayReach.congr {f g : Frame} {n : ℕ} (h : AgreeBelow n f g) (hn : 34 ≤ n)
    (hr : MayReach f n) : MayReach g n := by
  obtain ⟨ht, hreach⟩ := hr
  have hhead := h.sameHeader hn
  unfold MayReach
  rw [hhead.shape.hasTransport, hhead.shape.ipProtocol, hhead.shape.l4, hhead.dst, hhead.src]
  refine ⟨ht, ?_⟩
  rcases Nat.lt_or_ge (l4 f) n with hlt | hge
  · have htype : icmpType g = icmpType f := by
      rw [icmpType, icmpType, hhead.shape.l4, h (l4 f) hlt]
    rw [htype]
    exact hreach
  · simp only [hge, true_or, implies_true, and_true] at hreach ⊢
    exact hreach

/-- The condition depends on the received bytes. -/
lemma Discloses.congr {f g : Frame} {n : ℕ} (h : AgreeBelow n f g) (hd : Discloses f n) :
    Discloses g n := by
  obtain ⟨h4, hlong, hreach, hrest⟩ := hd
  have hhead := h.sameHeader h4.room
  unfold Discloses
  rw [hhead.shape.ipTotalLength, hhead.shape.ipProtocol, hhead.shape.ipHeaderLen, hhead.shape.l4,
    hhead.dst, hhead.src]
  exact ⟨h4.congr h, hlong, hreach.congr h h4.room, hrest⟩

/-- A packet to its own sender finds the address that was just learnt. -/
lemma arpCacheLookup_learnt_self (env : Env) (s : NetState) {f : Frame} (h : ipSrc f = ipDst f) :
    arpCacheLookup (learnt env s f).net.nat (ipDst f) ≠ none := by
  rw [← h]
  show arpCacheLookup (arpCacheAdd s.nat (env.tick 0) (ipSrc f) (ethSrc f)) _ ≠ none
  rw [arpCacheLookup_add_self]
  exact Option.some_ne_none _

/-- An outbound packet that is too long for a frame and whose ports were not received goes to its
own sender, if it discloses nothing, and the address of the sender was just learnt. -/
lemma arpCacheLookup_learnt_overlong (env : Env) (s : NetState) (id : IfId) {f : Frame} {n : ℕ}
    (h4 : IsIpv4 f n) (hd : ¬Discloses f n) (hreach : MayReach f n) (h1 : ipProtocol f ≠ 1)
    (hn : n < 14 + ipTotalLength f) (hmax : virtioNetMaxFrameSize < 14 + ipTotalLength f)
    (hports : n < l4 f + 4) :
    verdict id f = .outbound → arpCacheLookup (learnt env s f).net.nat (ipDst f) ≠ none := by
  intro hv
  refine arpCacheLookup_learnt_self env s ?_
  by_contra hne
  exact hd ⟨h4, hn, hreach, Or.inr ⟨hmax, h1, (outbound_addr hv).2.2, hne, by omega⟩⟩

/-- What is sent for a TCP or UDP packet that claims more bytes than were received. -/
lemma transmitted_truncated_congr (env : Env) (s : NetState) (id : IfId) {f g : Frame} {n : ℕ}
    (h : AgreeBelow n f g) (h4 : IsIpv4 f n) (hd : ¬Discloses f n) (ht : HasTransport f)
    (hn : n < 14 + ipTotalLength f) (h1 : ipProtocol f ≠ 1) :
    transmitted ((verdict id f).run env ⟨(learnt env s f).net, f, []⟩ id n).log =
      transmitted ((verdict id f).run env ⟨(learnt env s f).net, g, []⟩ id n).log := by
  have hl := h4.headerLen
  have hl4 : l4 f = 14 + ipHeaderLen f := rfl
  have hhead := h.sameHeader h4.room
  have hecho : verdict id f ≠ .echo := fun he => h1 (protocol_of_echo he)
  by_cases hv : verdict id f = .drop
  · rw [hv]
    rfl
  have hreach := mayReach_of_verdict n hv
  by_cases hmax : 14 + ipTotalLength f ≤ virtioNetMaxFrameSize
  · -- only bytes of the UDP checksum are missing
    have hudp : ipProtocol f = 17 ∧ ipTotalLength f = ipHeaderLen f + 8 ∧ l4 f + 6 ≤ n := by
      by_contra hno
      exact hd ⟨h4, hn, hreach, Or.inl ⟨hmax, hno⟩⟩
    have hoff : l4ChecksumOffset (ipProtocol f) = 6 := by
      rw [hudp.1]
      rfl
    refine transmitted_run_congr env _ id _ hl ht
      (sameFields_of_agree hl (h.mono (by omega)) fun h => absurd h h1)
      (fun _ k _ hk hk₁ hk₂ => h k (by omega)) fun he => absurd he hecho
  · by_cases hports : l4 f + 4 ≤ n
    · exact transmitted_run_congr env _ id _ hl ht
        (sameFields_of_agree hl (h.mono hports) fun h => absurd h h1)
        (fun hle => absurd hle hmax) fun he => absurd he hecho
    · have hlong : virtioNetMaxFrameSize < 14 + ipTotalLength f := not_le.mp hmax
      have hlong' : virtioNetMaxFrameSize < 14 + ipTotalLength g := by
        rw [hhead.shape.ipTotalLength]
        exact hlong
      have hcached := arpCacheLookup_learnt_overlong env s id h4 hd hreach h1 hn hlong
        (not_le.mp hports)
      have hcached' : verdict id f = .outbound →
          arpCacheLookup (learnt env s f).net.nat (ipDst g) ≠ none := by
        rw [hhead.dst]
        exact hcached
      rw [transmitted_run_long env id n (verdict id f)
          (c := ⟨(learnt env s f).net, f, []⟩) hlong fun hvd hnone => absurd hnone (hcached hvd),
        transmitted_run_long env id n (verdict id f)
          (c := ⟨(learnt env s f).net, g, []⟩) hlong' fun hvd hnone => absurd hnone (hcached' hvd)]

/-- **Without disclosure, the received bytes decide what is sent.**

**Proof sketch.** If the claimed length was received, everything that is read was received.
Otherwise an ICMP message sends nothing, since it meets no verdict or is too long. A TCP or UDP
packet meets the same verdict in both buffers; it is too long, and then only the ports matter, or
only bytes of its UDP checksum are missing, which is computed anew. -/
theorem transmitted_congr {s : NetState} (hs : Configured s) (env : Env) (id : IfId) {f g : Frame}
    {n : ℕ} (h : AgreeBelow n f g) (hd : ¬Discloses f n) :
    transmitted (netLog s (.frame env id f n)) = transmitted (netLog s (.frame env id g n)) := by
  simp only [netLog]
  by_cases h4 : IsIpv4 f n
  swap
  · exact transmitted_of_not_ipv4 h h4
  have hl := h4.headerLen
  have hl4 : l4 f = 14 + ipHeaderLen f := rfl
  have hhead := h.sameHeader h4.room
  rw [processFrame_ipv4 env hs id h4, processFrame_ipv4 env hs id (h4.congr h), hhead.learnt]
  show transmitted ((verdict id f).run env ⟨(learnt env s f).net, f, []⟩ id n).log = _
  by_cases ht : HasTransport f
  swap
  · rw [verdict_of_not ht, verdict_of_not (hhead.shape.hasTransport.not.mpr ht)]
    rfl
  have hroom := ht.icmp
  by_cases hfit : 14 + ipTotalLength f ≤ n
  · have hfields : SameFields f g :=
      sameFields_of_agree hl (h.mono (by omega)) fun _ => h.mono (by omega)
    rw [hhead.verdict fun h1 _ => hfields.type h1]
    exact transmitted_run_congr env _ id _ hl ht hfields
      (fun _ k _ hk _ _ => h k (by omega)) fun _ => h.mono hfit
  by_cases h1 : ipProtocol f = 1
  · rw [transmitted_icmp_silent h4 (by omega) h1 hd,
      transmitted_icmp_silent (h4.congr h) (by rw [hhead.shape.ipTotalLength]; omega)
        (hhead.shape.ipProtocol.trans h1) fun hg => hd (hg.congr h.symm)]
  · rw [hhead.verdict fun h _ => absurd h h1]
    exact transmitted_truncated_congr env s id h h4 hd ht (not_le.mp hfit) h1

/-! ## With disclosure -/

/-- If a byte behind the received ones is sent, whatever its value, it is disclosed. -/
lemma not_undisclosed {f g : Frame} {n q m : ℕ} {s : NetState} (hs : Configured s) (env : Env)
    (id : IfId) (hg : AgreeBelow n f g) (hq : n ≤ q) (hqm : q < m)
    (hsent : ∀ v, ∃ dev h, transmitted (netLog s (.frame env id (wr8 g q v) n)) =
      [(dev, (List.range m).map h)] ∧ h q = v) : ¬Undisclosed f n := by
  intro hno
  have hagree : ∀ v, AgreeBelow n f (wr8 g q v) := fun v k hk => by
    rw [wr8_of_ne _ _ (by omega), hg k hk]
  obtain ⟨dev, h, hlog, hh⟩ := hsent 0
  obtain ⟨dev', h', hlog', hh'⟩ := hsent 1
  have heq := hno s hs env id _ _ (hagree 0) (hagree 1)
  rw [hlog, hlog'] at heq
  have hmap : (List.range m).map h = (List.range m).map h' := by
    simpa using congrArg (fun l => l.map Prod.snd) heq
  have hbyte := List.map_inj_left.mp hmap q (by simpa using hqm)
  rw [hh, hh'] at hbyte
  exact absurd hbyte (by decide)

/-- What is handed to the device as the reply to an echo request: from the identifier on it is the
request. -/
lemma exists_echoReply (env : Env) {c : Proc} (id : IfId) (hl : 20 ≤ ipHeaderLen c.frame)
    (ht : HasTransport c.frame) (hmax : 14 + ipTotalLength c.frame ≤ virtioNetMaxFrameSize) :
    ∃ h, sendIcmpEchoReply env c id (14 + ipTotalLength c.frame) =
        sendFrame c id h (14 + ipTotalLength c.frame) ∧
      ∀ k, l4 c.frame + 4 ≤ k → k < 14 + ipTotalLength c.frame → h k = c.frame k := by
  have h34 : 34 ≤ l4 c.frame := by unfold l4; omega
  obtain ⟨f₀, hcopy, hsend⟩ := sendIcmpEchoReply_eq env c id hl ht.icmp hmax
  have hreply := isEchoReply_echoMessage (c.net.iface id).mac hl ht.icmp hcopy
  refine ⟨_, hsend, fun k hk hk' => ?_⟩
  exact hreply.same k (by omega) hk' (by omega) (by omega) (by omega) (by omega) (Or.inr hk)

/-- An echo reply carries the data of the request. -/
lemma sent_echo {s : NetState} (hs : Configured s) (env : Env) {id : IfId} {g : Frame} {n q : ℕ}
    (hdev : (s.iface id).dev.isSome = true) (h4 : IsIpv4 g n) (ht : HasTransport g)
    (hv : verdict id g = .echo) (hmax : 14 + ipTotalLength g ≤ virtioNetMaxFrameSize)
    (hq : l4 g + 4 ≤ q) (hq' : q < 14 + ipTotalLength g) :
    ∃ dev h, transmitted (netLog s (.frame env id g n)) =
      [(dev, (List.range (14 + ipTotalLength g)).map h)] ∧ h q = g q := by
  obtain ⟨h, hsend, hh⟩ := exists_echoReply env (c := learnt env s g) id h4.headerLen ht hmax
  have hdev' : ((learnt env s g).net.iface id).dev.isSome = true := by
    cases id <;> exact hdev
  refine ⟨id, h, ?_, hh q hq hq'⟩
  simp only [netLog]
  rw [processFrame_ipv4 env hs id h4, hv, Verdict.run, hsend,
    learnt_frame, sendFrame_eq h hdev' (by omega) hmax]
  rfl

/-- A translated packet carries the bytes that a translation leaves alone. -/
lemma translated_carries (id : IfId) {g : Frame} {n q : ℕ} (ip : Ip4) (port : UInt16) (m m' : Mac)
    (h4 : IsIpv4 g n) (ht : HasTransport g) (hq : l4 g ≤ q) (hne : ¬TransportRewritten id g q) :
    translated id (ipProtocol g) ip port (wrMac (wrMac g 6 m) 0 m') q = g q := by
  have hl := h4.headerLen
  have h34 : 34 ≤ l4 g := by
    unfold l4
    omega
  have hagree : ∀ k, 12 ≤ k → wrMac (wrMac g 6 m) 0 m' k = g k := fun k hk => by
    rw [wrMac_of_ne _ _ (by omega), wrMac_of_ne _ _ (by omega)]
  have hshape := sameShape_of_agree hagree
  obtain ⟨hrw, -⟩ := rewrites_translated id ip port
    (by rw [hshape.ipHeaderLen]; exact hl) (hshape.hasTransport.mpr ht)
  have ha := addrOffset_bounds id
  rw [hshape.ipProtocol] at hrw
  unfold TransportRewritten at hne
  rw [← hshape.l4] at hne
  rw [hrw.same q (by omega) (by omega) (by omega) (by omega) (by omega) (by omega) (by omega)
    (by omega), hagree q (by omega)]

/-- An inbound packet of a session is forwarded, if its LAN host is its own sender. -/
lemma sent_inbound {s : NetState} (hs : Configured s) (env : Env) {g : Frame} {n q : ℕ}
    {i : Fin natTableSize} {dev : VirtioNetDev}
    (hfind : natFindReverseEntry s.nat (ipProtocol g) (inPort g) (ipSrc g) (inSrcPort g) = some i)
    (hlan : (s.nat.natTable i).lanIp = ipSrc g) (hdev : s.lanIf.dev = some dev)
    (h4 : IsIpv4 g n) (ht : HasTransport g) (hv : verdict .wan g = .inbound)
    (hn : n ≤ virtioNetMaxFrameSize) (hmax : 14 + ipTotalLength g ≤ virtioNetMaxFrameSize)
    (hq : l4 g ≤ q) (hne : ¬TransportRewritten .wan g q) :
    ∃ dev h, transmitted (netLog s (.frame env .wan g n)) =
      [(dev, (List.range (14 + ipTotalLength g)).map h)] ∧ h q = g q := by
  have harp : arpCacheLookup (learnt env s g).net.nat
      ((learnt env s g).net.nat.natTable i).lanIp = some (ethSrc g) := by
    show arpCacheLookup (arpCacheAdd s.nat (env.tick 0) (ipSrc g) (ethSrc g))
      (s.nat.natTable i).lanIp = _
    rw [hlan]
    exact arpCacheLookup_add_self _ _ _ _
  simp only [netLog]
  rw [processFrame_ipv4 env hs .wan h4, hv, Verdict.run, runInbound, learnt_frame,
    (natInbound_hit (c := learnt env s g) (env.tick 1) (translated .wan (ipProtocol g)) hfind harp
      hdev hn hmax).2]
  exact ⟨.lan, _, rfl, translated_carries .wan (s.nat.natTable i).lanIp (s.nat.natTable i).lanPort
    dev.mac (ethSrc g) h4 ht hq hne⟩

/-- What is sent for an outbound packet that got a port. -/
lemma netLog_outbound {s : NetState} (hs : Configured s) (env : Env) {g : Frame}
    {n : ℕ} {p : UInt16}
    (hdev : s.wanIf.dev.isSome = true) (h4 : IsIpv4 g n) (hv : verdict .lan g = .outbound)
    (hn : n ≤ virtioNetMaxFrameSize)
    (hp : (natTranslateOutbound (learnt env s g).net.nat (env.tick 1) (ipProtocol g) (ipSrc g)
      (outPort g) (ipDst g) (outDstPort g)).2 = some p) :
    netLog s (.frame env .lan g n) = (forward (assigned env s g p) .wan (ipDst g)
      (outMiss (ipProtocol g)) (translated .lan (ipProtocol g) natCfgInit.wanIp p)).1.log := by
  have hdev' : (learnt env s g).net.wanIf.dev.isSome = true := hdev
  simp only [netLog]
  rw [processFrame_ipv4 env hs .lan h4, hv, Verdict.run, if_pos hdev', runOutbound, learnt_frame,
    natOutbound_some (c := learnt env s g) _ _ hp hn]
  rfl

/-- Learning and translating leave the other addresses in the cache. -/
lemma arpCacheLookup_assigned (env : Env) (s : NetState) (g : Frame) (p : UInt16) (ip : Ip4) :
    arpCacheLookup (assigned env s g p).net.nat ip = arpCacheLookup (learnt env s g).net.nat ip :=
  arpCacheLookup_congr (natTranslateOutbound_arp _ _ _ _ _ _ _) ip

/-- An outbound packet is forwarded, with a free slot in the table and a known destination. -/
lemma sent_outbound {s : NetState} (hs : Configured s) (env : Env) {g : Frame} {n q : ℕ}
    (hfree : natAllocEntry s.nat ≠ none) (hdev : s.wanIf.dev.isSome = true)
    (hcached : arpCacheLookup (learnt env s g).net.nat (ipDst g) ≠ none)
    (h4 : IsIpv4 g n) (ht : HasTransport g) (hv : verdict .lan g = .outbound)
    (hn : n ≤ virtioNetMaxFrameSize) (hmax : 14 + ipTotalLength g ≤ virtioNetMaxFrameSize)
    (hq : l4 g ≤ q) (hne : ¬TransportRewritten .lan g q) :
    ∃ dev h, transmitted (netLog s (.frame env .lan g n)) =
      [(dev, (List.range (14 + ipTotalLength g)).map h)] ∧ h q = g q := by
  obtain ⟨p, hp⟩ : ∃ p, (natTranslateOutbound (learnt env s g).net.nat (env.tick 1) (ipProtocol g)
      (ipSrc g) (outPort g) (ipDst g) (outDstPort g)).2 = some p := by
    rcases natTranslateOutbound_cases (learnt env s g).net.nat (env.tick 1) (ipProtocol g) (ipSrc g)
      (outPort g) (ipDst g) (outDstPort g) with ⟨i, -, -, -, -, h⟩ | ⟨-, h, -⟩ | ⟨-, i, -, -, h⟩
    · exact ⟨_, h⟩
    · exact absurd h hfree
    · exact ⟨_, h⟩
  rw [netLog_outbound hs env hdev h4 hv hn hp]
  rcases forward_cases (assigned env s g p) .wan (ipDst g) (outMiss (ipProtocol g))
    (translated .lan (ipProtocol g) natCfgInit.wanIp p) with ⟨hmiss, -⟩ | ⟨mac, h, -, rfl, hf⟩
  · rw [arpCacheLookup_assigned] at hmiss
    exact absurd hmiss hcached
  · have hdev' : ((assigned env s g p).net.iface .wan).dev.isSome = true := hdev
    rw [hf, sendFrame_eq]
    · exact ⟨.wan, _, rfl, translated_carries .lan natCfgInit.wanIp p
        ((assigned env s g p).net.iface .wan).mac mac h4 ht hq hne⟩
    · exact hdev'
    · omega
    · exact hmax

/-! ### States in which a packet is sent -/

/-- The first slot of the NAT table. -/
def firstSlot : Fin natTableSize := ⟨0, by decide⟩

/-- A state in which a session is open for an inbound packet: the hash buckets name the first slot,
and every slot holds the session. -/
def inboundState (protocol : UInt8) (port : UInt16) (ip : Ip4) (srcPort : UInt16) : NetState :=
  { demoInit with
    nat := { natInit natCfgInit with
      natTable := fun _ => ⟨true, protocol, ip, 0, port, ip, srcPort, 0, 0⟩
      natHashTable := fun _ => toInt8 firstSlot } }

/-- A state in which the destination of an outbound packet is known, and the table is empty. -/
def outboundState (dst : Ip4) : NetState :=
  { demoInit with nat := arpCacheAdd (natInit natCfgInit) 0 dst ⟨2, 0, 0, 0, 0, 1⟩ }

/-- The state in which a packet with the verdict `v` is sent. -/
def sentState (f : Frame) : Verdict → NetState
  | .inbound => inboundState (ipProtocol f) (inPort f) (ipSrc f) (inSrcPort f)
  | .outbound => outboundState (ipDst f)
  | _ => demoInit

/-- The state that sends the frame is configured. -/
lemma configured_sentState (f : Frame) (v : Verdict) : Configured (sentState f v) := by
  cases v <;> exact ⟨rfl, rfl, rfl⟩

/-- The state depends on the fields that are read only. -/
lemma SameFields.sentState {f g : Frame} (h : SameFields f g) (v : Verdict) :
    sentState g v = sentState f v := by
  cases v with
  | drop => rfl
  | echo => rfl
  | inbound =>
    simp only [Gateway.sentState]
    rw [h.shape.ipProtocol, h.inPort, h.src, h.inSrcPort]
  | outbound =>
    simp only [Gateway.sentState]
    rw [h.dst]

/-- The session of `inboundState` is found. -/
lemma natFindReverseEntry_inboundState (protocol : UInt8) (port : UInt16) (ip : Ip4)
    (srcPort : UInt16) :
    natFindReverseEntry (inboundState protocol port ip srcPort).nat protocol port ip srcPort =
      some firstSlot := by
  have hbucket : slotOf ((inboundState protocol port ip srcPort).nat.natHashTable (natHash port)) =
      some firstSlot := by
    simp only [inboundState, slotOf_toInt8]
  have hhit : ((inboundState protocol port ip srcPort).nat.natTable firstSlot).matchesIn protocol
      port ip srcPort = true := by
    rw [NatEntry.matchesIn_iff]
    exact ⟨rfl, rfl, rfl, rfl, rfl⟩
  rw [natFindReverseEntry_eq, if_neg (not_lt.mpr (nonneg_of_slotOf hbucket)), hbucket]
  unfold BucketIndex.hintedFind
  simp only
  rw [if_pos hhit]

/-- The destination of `outboundState` is known, also after the source has been learnt. -/
lemma arpCacheLookup_outboundState (env : Env) (g : Frame) :
    arpCacheLookup (learnt env (outboundState (ipDst g)) g).net.nat (ipDst g) ≠ none := by
  by_cases hne : ipSrc g = ipDst g
  · show arpCacheLookup (arpCacheAdd (outboundState (ipDst g)).nat _ (ipSrc g) _) (ipDst g) ≠ none
    rw [← hne, arpCacheLookup_add_self]
    exact Option.some_ne_none _
  · have h := arpCacheLookup_second natCfgInit 0 (env.tick 0) ⟨2, 0, 0, 0, 0, 1⟩ (ethSrc g) hne
    show arpCacheLookup (arpCacheAdd (arpCacheAdd (natInit natCfgInit) 0 (ipDst g) _) _ _ _) _ ≠
      none
    rw [h]
    exact Option.some_ne_none _

/-- **A packet with a verdict is sent in some state**, with every byte that a translation leaves
alone. -/
lemma sent_sentState (env : Env) {id : IfId} {g : Frame} {n q : ℕ} (h4 : IsIpv4 g n)
    (ht : HasTransport g) (hv : verdict id g ≠ .drop) (hn : n ≤ virtioNetMaxFrameSize)
    (hmax : 14 + ipTotalLength g ≤ virtioNetMaxFrameSize) (hq : l4 g + 4 ≤ q)
    (hq' : q < 14 + ipTotalLength g) (hne : ¬TransportRewritten id g q) :
    ∃ dev h, transmitted (netLog (sentState g (verdict id g)) (.frame env id g n)) =
      [(dev, (List.range (14 + ipTotalLength g)).map h)] ∧ h q = g q := by
  have hcfg := configured_sentState g (verdict id g)
  cases hvd : verdict id g with
  | drop => exact absurd hvd hv
  | echo =>
    rw [hvd] at hcfg
    refine sent_echo hcfg env ?_ h4 ht hvd hmax hq hq'
    cases id <;> rfl
  | inbound =>
    rw [hvd] at hcfg
    obtain rfl : id = .wan := by
      cases id with
      | wan => rfl
      | lan => exact absurd hvd (verdict_lan_ne_inbound g)
    exact sent_inbound hcfg env
      (natFindReverseEntry_inboundState (ipProtocol g) (inPort g) (ipSrc g) (inSrcPort g)) rfl rfl
        h4
      ht hvd hn hmax (by omega) hne
  | outbound =>
    rw [hvd] at hcfg
    obtain rfl : id = .lan := by
      cases id with
      | lan => rfl
      | wan => exact absurd hvd (verdict_wan_ne_outbound g)
    have hfree : natAllocEntry (sentState g .outbound).nat ≠ none := by
      rw [Ne, natAllocEntry_eq_none_iff]
      intro hall
      exact absurd (hall firstSlot)
        (by simp [sentState, outboundState, arpCacheAdd, natInit, NatEntry.zero])
    exact sent_outbound hcfg env hfree rfl (arpCacheLookup_outboundState env g) h4 ht hvd hn hmax
      (by omega) hne

/-! ### The exact condition -/

/-- A byte behind the received ones that is sent as it is, and in which no field lies that decides
anything. -/
lemma exists_byte (id : IfId) {g : Frame} {n : ℕ} (ht : HasTransport g)
    (hlong : n < 14 + ipTotalLength g)
    (hno : ¬(ipProtocol g = 17 ∧ ipTotalLength g = ipHeaderLen g + 8 ∧ l4 g + 6 ≤ n)) :
    ∃ q, n ≤ q ∧ q < 14 + ipTotalLength g ∧ l4 g + 4 ≤ q ∧ (ipProtocol g = 1 → l4 g + 6 ≤ q) ∧
      ¬TransportRewritten id g q := by
  have hroom := ht.icmp
  have hl4 : l4 g = 14 + ipHeaderLen g := rfl
  unfold TransportRewritten
  by_cases h1 : ipProtocol g = 1
  · have hp : portOffset id (ipProtocol g) = 4 := by
      cases id <;> simp [portOffset, outPortOffset, inPortOffset, h1]
    have hc : l4ChecksumOffset (ipProtocol g) = 2 := by rw [l4ChecksumOffset, if_pos h1]
    rw [hp, hc]
    exact ⟨13 + ipTotalLength g, by omega, by omega, by omega, by omega, by omega⟩
  · have hp : portOffset id (ipProtocol g) ≤ 2 := by
      cases id <;> simp [portOffset, outPortOffset, inPortOffset, h1]
    have hmin := ht.2
    by_cases hn : n ≤ l4 g + 5
    · have hc : 6 ≤ l4ChecksumOffset (ipProtocol g) := by
        unfold l4ChecksumOffset checksumOffset
        rw [if_neg h1]
        split_ifs <;> omega
      exact ⟨l4 g + 5, hn, by omega, by omega, fun h => absurd h h1, by omega⟩
    · -- the last byte of the packet lies behind the checksum
      have hc : l4 g + l4ChecksumOffset (ipProtocol g) + 1 < 13 + ipTotalLength g := by
        rcases ht.1 with h | h | h
        · exact absurd h h1
        · rw [h, minTransportLen, if_pos rfl] at hmin
          have : l4ChecksumOffset (ipProtocol g) = 16 := by rw [h]; rfl
          omega
        · have : l4ChecksumOffset (ipProtocol g) = 6 := by rw [h]; rfl
          have hlen : ipTotalLength g ≠ ipHeaderLen g + 8 := fun he => hno ⟨h, he, by omega⟩
          omega
      exact ⟨13 + ipTotalLength g, by omega, by omega, by omega, fun h => absurd h h1, by omega⟩

/-- The bytes behind the received ones can be such that the packet has a verdict. -/
lemma exists_verdict {f : Frame} {n : ℕ} (h4 : IsIpv4 f n) (hr : MayReach f n) :
    ∃ id g, AgreeBelow n f g ∧ verdict id g ≠ .drop := by
  -- a missing ICMP type is taken to be that of an echo request
  obtain ⟨g, hg, htype⟩ : ∃ g, AgreeBelow n f g ∧ (n ≤ l4 g → icmpType g = 8) := by
    by_cases hn : n ≤ l4 f
    · have hagree : AgreeBelow n f (wr8 f (l4 f) 8) := fun k hk => (wr8_of_ne _ _ (by omega)).symm
      refine ⟨_, hagree, fun _ => ?_⟩
      rw [icmpType, (hagree.sameHeader h4.room).shape.l4, wr8_self]
    · exact ⟨f, fun _ _ => rfl, fun h => absurd h hn⟩
  obtain ⟨ht, hreach⟩ := hr.congr hg h4.room
  have h8 : n ≤ l4 g ∨ icmpType g = 8 ↔ icmpType g = 8 :=
    ⟨fun h => h.elim htype fun h => h, Or.inr⟩
  rcases hreach with ⟨hdst, h⟩ | ⟨hdst, h1, h⟩ | ⟨hnw, hnl, hlan, h⟩
  · refine ⟨.wan, g, hg, ?_⟩
    rw [verdict_wan ht, wanVerdict, if_pos hdst]
    by_cases h1 : ipProtocol g = 1
    · rw [if_pos h1]
      rcases h h1 with h | h | h
      · simp [htype h]
      · simp [h]
      · simp [h]
    · simp [h1]
  · refine ⟨.lan, g, hg, ?_⟩
    rw [verdict_lan ht, lanVerdict, if_pos (Or.inl hdst), if_pos ⟨h1, h8.mp h⟩]
    simp
  · refine ⟨.lan, g, hg, ?_⟩
    rw [verdict_lan ht, lanVerdict, if_neg (not_or.mpr ⟨hnl, hnw⟩), if_pos hlan,
      if_neg fun hd => hd.2 (h8.mp (h hd.1))]
    simp

/-- A state in which the table is full of one session, and no address is known. -/
def fullState (protocol : UInt8) (ip : Ip4) (port : UInt16) (dst : Ip4) (dstPort : UInt16) :
    NetState :=
  { demoInit with
    nat := { natInit natCfgInit with
      natTable := fun _ => ⟨true, protocol, ip, port, 0, dst, dstPort, 0, 0⟩ } }

/-- The state with the full table is configured. -/
lemma configured_fullState (protocol : UInt8) (ip : Ip4) (port : UInt16) (dst : Ip4)
    (dstPort : UInt16) : Configured (fullState protocol ip port dst dstPort) := ⟨rfl, rfl, rfl⟩

/-- In `fullState` no address is known. -/
lemma arpCacheLookup_fullState (protocol : UInt8) (ip : Ip4) (port : UInt16) (dst : Ip4)
    (dstPort : UInt16) (ip' : Ip4) :
    arpCacheLookup (fullState protocol ip port dst dstPort).nat ip' = none :=
  (arpCacheLookup_congr rfl ip').trans (arpCacheLookup_natInit natCfgInit ip')

/-- In `fullState` a packet gets a port if it belongs to the session, and only then. -/
lemma natTranslateOutbound_fullState (env : Env) (g : Frame) (port dstPort : UInt16) :
    let s := fullState (ipProtocol g) (ipSrc g) port (ipDst g) dstPort
    (natTranslateOutbound (learnt env s g).net.nat (env.tick 1) (ipProtocol g) (ipSrc g)
      (outPort g) (ipDst g) (outDstPort g)).2 ≠ none ↔ port = outPort g ∧ dstPort =
        outDstPort g := by
  intro s
  have hmatch : ∀ i, ((learnt env s g).net.nat.natTable i).matchesOut (ipProtocol g) (ipSrc g)
      (outPort g) (ipDst g) (outDstPort g) = true ↔ port = outPort g ∧ dstPort = outDstPort g := by
    intro i
    rw [NatEntry.matchesOut_iff]
    simp [learnt, arpCacheAdd, s, fullState]
  rcases natTranslateOutbound_cases (learnt env s g).net.nat (env.tick 1) (ipProtocol g) (ipSrc g)
    (outPort g) (ipDst g) (outDstPort g) with ⟨i, -, hm, -, -, hret⟩ | ⟨hf, -, -, -, hret⟩ |
      ⟨-, i, ha, -⟩
  · rw [hret, ← hmatch i]
    simp [hm]
  · rw [hret, ← hmatch firstSlot]
    rw [natFindEntry_eq_none_iff] at hf
    simp [hf firstSlot]
  · have hfree := Fin.eq_true_of_find?_eq_some ha
    exact absurd hfree (by simp [learnt, arpCacheAdd, s, fullState])

/-- In `fullState` the gateway asks for the destination of a packet of the session. -/
lemma transmitted_fullState_ne_nil (env : Env) {g : Frame} {n : ℕ} (h4 : IsIpv4 g n)
    (hv : verdict .lan g = .outbound) (h1 : ipProtocol g ≠ 1) (hself : ipSrc g ≠ ipDst g)
    (hn : n ≤ virtioNetMaxFrameSize) :
    transmitted (netLog (fullState (ipProtocol g) (ipSrc g) (outPort g) (ipDst g) (outDstPort g))
      (.frame env .lan g n)) ≠ [] := by
  set s := fullState (ipProtocol g) (ipSrc g) (outPort g) (ipDst g) (outDstPort g) with hs
  obtain ⟨p, hp⟩ := Option.ne_none_iff_exists'.mp
    ((natTranslateOutbound_fullState env g (outPort g) (outDstPort g)).mpr ⟨rfl, rfl⟩)
  have hmiss : arpCacheLookup (learnt env s g).net.nat (ipDst g) = none := by
    have hempty := arpCacheLookup_fullState (ipProtocol g) (ipSrc g) (outPort g) (ipDst g)
      (outDstPort g)
    exact (arpCacheLookup_add_of_free (i := ⟨0, by decide⟩) _ _ (hempty _) rfl hself).trans
      (hempty _)
  rw [netLog_outbound (configured_fullState _ _ _ _ _) env (by rfl) h4 hv hn hp]
  rcases forward_cases (assigned env s g p) .wan (ipDst g) (outMiss (ipProtocol g))
    (translated .lan (ipProtocol g) natCfgInit.wanIp p) with ⟨-, hf⟩ | ⟨mac, h, hhit, -⟩
  · rw [hf, outMiss, if_neg h1, sendArpRequestForIp, sendFrame_eq _ (by rfl) (by omega) (by decide)]
    simp
  · rw [arpCacheLookup_assigned, hmiss] at hhit
    cases hhit

/-- In `fullState` nothing is done for a packet with another destination port. -/
lemma transmitted_fullState_eq_nil (env : Env) {g : Frame} {n : ℕ} (h4 : IsIpv4 g n)
    (hv : verdict .lan g = .outbound) (port : UInt16) {dstPort : UInt16}
    (hne : dstPort ≠ outDstPort g) :
    transmitted (netLog (fullState (ipProtocol g) (ipSrc g) port (ipDst g) dstPort)
      (.frame env .lan g n)) = [] := by
  set s := fullState (ipProtocol g) (ipSrc g) port (ipDst g) dstPort with hs
  have hnone := not_not.mp fun h =>
    hne ((natTranslateOutbound_fullState env g port dstPort).mp h).2
  have hdev : (learnt env s g).net.wanIf.dev.isSome = true := rfl
  simp only [netLog]
  rw [processFrame_ipv4 env (configured_fullState _ _ _ _ _) .lan h4, hv, Verdict.run, if_pos hdev,
    runOutbound, learnt_frame, natOutbound_none (c := learnt env s g) n _ _ hnone]
  rfl

/-- A packet with a verdict discloses a byte behind the received ones that a translation leaves
alone. -/
lemma not_undisclosed_of_byte {f g : Frame} {n q : ℕ} {id : IfId} (hg : AgreeBelow n f g)
    (h4 : IsIpv4 g n) (ht : HasTransport g) (hv : verdict id g ≠ .drop)
    (hmax : 14 + ipTotalLength g ≤ virtioNetMaxFrameSize) (hn : n ≤ q)
    (hq' : q < 14 + ipTotalLength g) (hq : l4 g + 4 ≤ q)
    (hid : ipProtocol g = 1 → l4 g + 6 ≤ q) (hne : ¬TransportRewritten id g q) :
    ¬Undisclosed f n := by
  have hfields : ∀ v, SameFields g (wr8 g q v) := fun v =>
    sameFields_of_agree h4.headerLen (fun k hk => (wr8_of_ne _ _ (by omega)).symm)
      fun h1 k hk => (wr8_of_ne _ _ (by have := hid h1; omega)).symm
  have hverdict : ∀ v, verdict id (wr8 g q v) = verdict id g := fun v =>
    (hfields v).toSameHeader.verdict (fun h1 _ => (hfields v).type h1) id
  refine not_undisclosed (configured_sentState g (verdict id g)) quietEnv id hg hn hq' fun v => ?_
  have hshape := (hfields v).shape
  have hrewritten : ¬TransportRewritten id (wr8 g q v) q := by
    unfold TransportRewritten at hne ⊢
    rw [hshape.l4, hshape.ipProtocol]
    exact hne
  have hsent := sent_sentState (q := q) quietEnv
    (h4.congr fun k hk => (wr8_of_ne g v (show k ≠ q by omega)).symm) (hshape.hasTransport.mpr ht)
    (by rw [hverdict v]; exact hv) (by omega) (by rw [hshape.ipTotalLength]; exact hmax)
    (by rw [hshape.l4]; exact hq) (by rw [hshape.ipTotalLength]; exact hq') hrewritten
  rw [hverdict v, (hfields v).sentState, hshape.ipTotalLength, wr8_self] at hsent
  exact hsent

/-- The high byte in memory of two words that are equal. -/
lemma eq_of_rd16_eq {f g : Frame} {o : ℕ} (h : rd16 f o = rd16 g o) : f (o + 1) = g (o + 1) := by
  have hf : (f o).toNat < 256 := UInt8.toNat_lt _
  have hg : (g o).toNat < 256 := UInt8.toNat_lt _
  have hnat := congrArg UInt16.toNat h
  rw [toNat_rd16, toNat_rd16] at hnat
  exact UInt8.toNat_inj.mp (by omega)

/-- A TCP or UDP packet that is too long makes the gateway ask for its destination, or not, by a
byte of the port behind the received ones. -/
lemma not_undisclosed_of_ports {f g : Frame} {n : ℕ} {id : IfId} (hg : AgreeBelow n f g)
    (h4 : IsIpv4 g n) (hv : verdict id g ≠ .drop) (h1 : ipProtocol g ≠ 1)
    (hnw : ipDst g ≠ natCfgInit.wanIp) (hself : ipSrc g ≠ ipDst g) (hn : n < l4 g + 4) :
    ¬Undisclosed f n := by
  have hle := ipHeaderLen_le g
  have hl := h4.headerLen
  have hl4 : l4 g = 14 + ipHeaderLen g := rfl
  have hmax : virtioNetMaxFrameSize = 1518 := rfl
  have hout : verdict .lan g = .outbound := by
    obtain ⟨-, ⟨h, -⟩ | ⟨-, h, -⟩ | ⟨-, hnl, hlan, -⟩⟩ := mayReach_of_verdict n hv
    · exact absurd h hnw
    · exact absurd h h1
    · rw [verdict_lan (hasTransport_of_verdict hv), lanVerdict, if_neg (not_or.mpr ⟨hnl, hnw⟩),
        if_pos hlan, if_neg fun h => h1 h.1]
  -- the buffers differ in the second byte of the destination port
  set g' := wr8 g (l4 g + 3) (g (l4 g + 3) + 1) with hg'
  have hagree : AgreeBelow (l4 g + 3) g g' := fun k hk => (wr8_of_ne _ _ (by omega)).symm
  have hhead := hagree.sameHeader (by omega)
  have hport : outDstPort g ≠ outDstPort g' := by
    intro he
    unfold outDstPort dstPort at he
    rw [hhead.shape.ipProtocol, if_neg h1, if_neg h1, hhead.shape.l4] at he
    have hword : rd16 g (l4 g + 2) = rd16 g' (l4 g + 2) := by
      rw [← utilHtons_utilHtons (rd16 g _), ← utilHtons_utilHtons (rd16 g' _)]
      exact congrArg utilHtons he
    have hbyte : g (l4 g + 3) = g (l4 g + 3) + 1 := by
      have h := eq_of_rd16_eq hword
      rw [hg'] at h
      exact h.trans (wr8_self _ _ _)
    simp at hbyte
  have hout' : verdict .lan g' = .outbound := by
    rw [hhead.verdict (fun h => absurd h h1), hout]
  intro hno
  have heq := hno (fullState (ipProtocol g) (ipSrc g) (outPort g) (ipDst g) (outDstPort g))
    (configured_fullState _ _ _ _ _) quietEnv .lan g g' hg
    (hg.trans (hagree.mono (by omega)))
  have hnil := transmitted_fullState_eq_nil quietEnv (n := n)
    (h4.congr (hagree.mono (by omega))) hout' (outPort g) hport
  rw [hhead.shape.ipProtocol, hhead.src, hhead.dst] at hnil
  rw [hnil] at heq
  exact transmitted_fullState_ne_nil quietEnv h4 hout h1 hself (by omega) heq

/-- **The exact condition for the absence of disclosure.** What is sent never depends on bytes
behind the received ones, whatever the interface and the state, exactly for the received frames for
which `Discloses` fails: those whose claimed length was received, those that the gateway neither
answers nor translates, and those that are too long to be sent.

**Proof sketch.** Without the condition some buffer behind the received bytes gives the packet a
verdict; in a state with a session, or with the destination known, it is then sent with the bytes
behind it. -/
theorem undisclosed_iff (f : Frame) (n : ℕ) : Undisclosed f n ↔ ¬Discloses f n := by
  constructor
  · intro hno hd
    obtain ⟨h4, -, hreach, -⟩ := id hd
    obtain ⟨id, g, hg, hv⟩ := exists_verdict h4 hreach
    obtain ⟨h4, hlong, hreach, ⟨hmax, hudp⟩ | ⟨-, h1, hnw, hself, hports⟩⟩ := hd.congr hg
    · obtain ⟨q, hn, hq', hq, hident, hne⟩ := exists_byte id hreach.1 hlong hudp
      exact not_undisclosed_of_byte hg h4 hreach.1 hv hmax hn hq' hq hident hne hno
    · exact not_undisclosed_of_ports hg h4 hv h1 hnw hself hports hno
  · intro hd s hs env id g g' hg hg'
    exact transmitted_congr hs env id (hg.symm.trans hg') fun h => hd (h.congr hg.symm)

/-- An echo request to the WAN address of which 42 bytes are received, and whose length field claims
one byte more. -/
def longPing : Frame := frameOf [
  0x52, 0x54, 0, 0, 0, 2, 2, 0, 0, 0, 0, 8, 8, 0,
  0x45, 0, 0, 29, 0, 0, 0, 0, 64, 1, 0, 0, 8, 8, 8, 8, 10, 3, 5, 99, 8, 0, 0, 0, 0, 1, 0, 1]

/-- **The reply to `longPing` carries a byte that was not received.** -/
theorem disclosed_ping : ¬ ∀ f n, Undisclosed f n := by
  have h4 : IsIpv4 longPing 42 := ⟨by decide, by decide, by decide, by decide⟩
  have hv : verdict .wan longPing ≠ .drop := by decide
  have hne : ¬TransportRewritten .wan longPing 42 := by
    unfold TransportRewritten
    decide
  exact fun hall => not_undisclosed_of_byte (q := 42) (fun _ _ => rfl) h4 (by decide) hv (by decide)
    (by decide) (by decide) (by decide) (by decide) hne (hall longPing 42)

end Gateway
