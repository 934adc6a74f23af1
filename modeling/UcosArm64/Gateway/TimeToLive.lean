import UcosArm64.Gateway.Bounds
import UcosArm64.Gateway.Disclosure

set_option relaxedAutoImplicit false
set_option autoImplicit false

/-!
# The time to live of forwarded packets

Which packets are forwarded can be read off the packet and the state before. All six places that
forward decrement the time to live as an 8-bit value and test it nowhere: a packet received with 1
leaves with 0, and one received with 0 leaves with 255.

## Main definitions

* `Gateway.Forwarded` — what is sent for a frame is a forwarded packet.
* `Gateway.Forwards` — the packet is one that the gateway forwards.
* `Gateway.TtlKept` — a forwarded packet has a time to live that is at least 1 and smaller than
  before.

## Main results

* `Gateway.forwarded_iff` — a packet is forwarded exactly if it is one that the gateway forwards.
* `Gateway.ttlKept_iff` — the time to live is right exactly if it was at least 2 or the packet is
  not one that the gateway forwards.
* `Gateway.not_ttlKept_zero` — a packet that arrives with 0 leaves with 255.
-/

namespace Gateway

open Transition

/-! ## Which packets are forwarded -/

/-- For the frame `f` the packet `g` of `m` bytes leaves by the other interface, as an IPv4
packet. -/
def Forwarded (env : Env) (s : NetState) (id : IfId) (f : Frame) (n : ℕ) (g : Frame) (m : ℕ) :
    Prop :=
  NetEvent.tx id.other g m ∈ netLog s (.frame env id f n) ∧ ethType g = 0x0800

/-- The frame is an IPv4 packet that fits, a translation block takes it up, and the block gets as
far as rewriting it. -/
def Forwards (env : Env) (s : NetState) (id : IfId) (f : Frame) (n : ℕ) : Prop :=
  IsIpv4 f n ∧ 14 + ipTotalLength f ≤ virtioNetMaxFrameSize ∧
    match id with
    | .wan => verdict .wan f = .inbound ∧
        ForwardsInbound (learnt env s f) n (ipProtocol f) (inPort f) (inSrcPort f)
    | .lan => verdict .lan f = .outbound ∧ s.wanIf.dev.isSome = true ∧
        ForwardsOutbound (learnt env s f) n (ipProtocol f) (outPort f) (outDstPort f)

/-- A send that meets the argument check hands the frame to the device. -/
lemma mem_sendFrame_self {c : Proc} {id : IfId} {n : ℕ} (f : Frame)
    (hd : (c.net.iface id).dev.isSome = true) (hn : 0 < n) (hn' : n ≤ virtioNetMaxFrameSize) :
    NetEvent.tx id f n ∈ (sendFrame c id f n).log := by
  rw [sendFrame_eq f hd hn hn']
  exact List.mem_append_right _ (List.mem_singleton_self _)

/-- An inbound block that sends has found a session and its host. -/
lemma forwardsInbound_of_mem {env : Env} {c : Proc} {n : ℕ} {e : NetEvent}
    (he : e ∈ (runInbound env c n).1.log) (hnot : e ∉ c.log) :
    ForwardsInbound c n (ipProtocol c.frame) (inPort c.frame) (inSrcPort c.frame) ∧
      14 + ipTotalLength c.frame ≤ virtioNetMaxFrameSize := by
  rcases mem_runInbound_log he with h | ⟨i, mac, hfind, -, hn, hdev, hmac, hmax, -⟩
  · exact absurd h hnot
  · exact ⟨⟨i, hfind, hn, hdev, by rw [hmac]; rfl⟩, hmax⟩

/-- An outbound block that sends an IPv4 packet has found or opened a session, and knows the
host. -/
lemma forwardsOutbound_of_mem {env : Env} {c : Proc} {n m : ℕ} {g : Frame}
    (hg : NetEvent.tx .wan g m ∈ (runOutbound env c n).1.log) (hg4 : ethType g = 0x0800)
    (hnot : NetEvent.tx .wan g m ∉ c.log) :
    ForwardsOutbound c n (ipProtocol c.frame) (outPort c.frame) (outDstPort c.frame) ∧
      14 + ipTotalLength c.frame ≤ virtioNetMaxFrameSize := by
  rcases mem_runOutbound_log hg hg4 with h | ⟨p, mac, hp, -, hn, hmac, hmax, -, rfl⟩
  · exact absurd h hnot
  · have hsome := Option.ne_none_iff_exists'.mpr ⟨p, hp⟩
    exact ⟨⟨natTranslateOutbound_ne_none_iff.mp hsome, hn, by rw [hmac]; rfl⟩, hmax⟩

section Forwarding

variable {env : Env} {s : NetState} {f g : Frame} {n m : ℕ}

/-- A packet that leaves by the other interface is one that the gateway forwards. -/
lemma forwards_of_forwarded (hs : Configured s) {id : IfId} (h : Forwarded env s id f n g m) :
    Forwards env s id f n := by
  obtain ⟨hg, hg4⟩ := h
  obtain ⟨h4, -, ⟨rfl, hv, hlog⟩ | ⟨rfl, hv, hdev, hlog⟩⟩ := exists_block hs hg
  · rw [hlog] at hg
    obtain ⟨hfwd, hmax⟩ := forwardsInbound_of_mem hg List.not_mem_nil
    exact ⟨h4, hmax, hv, hfwd⟩
  · rw [hlog] at hg
    obtain ⟨hfwd, hmax⟩ := forwardsOutbound_of_mem hg hg4 List.not_mem_nil
    exact ⟨h4, hmax, hv, hdev, hfwd⟩

/-- A translated packet is an IPv4 packet whose time to live has been decremented. -/
lemma translated_ethType_ttl (id : IfId) (h4 : IsIpv4 f n) (ht : HasTransport f) (ip : Ip4)
    (port : UInt16) (m₁ m₂ : Mac) :
    let g := translated id (ipProtocol f) ip port (wrMac (wrMac f 6 m₁) 0 m₂)
    ethType g = 0x0800 ∧ ipTtl g = ipTtl f - 1 := by
  intro g
  set f₀ := wrMac (wrMac f 6 m₁) 0 m₂ with hf₀
  have hagree : ∀ k, 12 ≤ k → f₀ k = f k := fun k hk => by
    rw [hf₀, wrMac_of_ne _ _ (by omega), wrMac_of_ne _ _ (by omega)]
  have hshape : SameShape f f₀ := sameShape_of_agree hagree
  have hl : 20 ≤ ipHeaderLen f₀ := by
    rw [hshape.ipHeaderLen]
    exact h4.headerLen
  obtain ⟨hrw, -⟩ := rewrites_translated id ip port hl (hshape.hasTransport.mpr ht)
  rw [hshape.ipProtocol] at hrw
  have ha := addrOffset_bounds id
  have h34 : 34 ≤ l4 f₀ := by unfold l4; omega
  have hsame : ∀ k, 12 ≤ k → k < 14 → g k = f k := fun k hk hk' => by
    show translated id (ipProtocol f) ip port f₀ k = f k
    rw [hrw.same k (by omega) (by omega) (by omega) (by omega) (by omega) (by omega) (by omega)
      (by omega), hagree k hk]
  constructor
  · rw [← h4.type]
    unfold ethType
    rw [rd16_congr (hsame 12 (by omega) (by omega)) (hsame 13 (by omega) (by omega))]
  · exact hrw.ttl.trans (congrArg (· - 1) (hagree 22 (by omega)))

/-- A packet of a session that is found is forwarded to its host. -/
lemma exists_forwarded_wan (hs : Configured s) (h : Forwards env s .wan f n) :
    ∃ g m, Forwarded env s .wan f n g m := by
  obtain ⟨h4, hmax, hv, i, hfind, hn, hdev, hmac⟩ := h
  obtain ⟨dev, hdev⟩ := Option.isSome_iff_exists.mp hdev
  obtain ⟨mac, hmac⟩ := Option.isSome_iff_exists.mp hmac
  have hlog := (natInbound_hit (c := learnt env s f) (env.tick 1) (translated .wan (ipProtocol f))
    hfind hmac hdev hn hmax).2
  refine ⟨_, 14 + ipTotalLength f, ?_, (translated_ethType_ttl .wan h4
    (hasTransport_of_verdict (by rw [hv]; decide)) (s.nat.natTable i).lanIp
    (s.nat.natTable i).lanPort dev.mac mac).1⟩
  simp only [netLog]
  rw [processFrame_ipv4 env hs .wan h4, hv, Verdict.run, runInbound, learnt_frame, hlog]
  exact List.mem_append_right _ (List.mem_singleton_self _)

/-- A packet for which there is a session, or room for one, is forwarded to a host that is known. -/
lemma exists_forwarded_lan (hs : Configured s) (h : Forwards env s .lan f n) :
    ∃ g m, Forwarded env s .lan f n g m := by
  obtain ⟨h4, hmax, hv, hdev, hsession, hn, hmac⟩ := h
  obtain ⟨p, hp⟩ : ∃ p, (natTranslateOutbound (learnt env s f).net.nat (env.tick 1) (ipProtocol f)
      (ipSrc f) (outPort f) (ipDst f) (outDstPort f)).2 = some p :=
    Option.ne_none_iff_exists'.mp (natTranslateOutbound_ne_none_iff.mpr hsession)
  obtain ⟨mac, hmac⟩ := Option.isSome_iff_exists.mp hmac
  have hlog := netLog_outbound hs env hdev h4 hv hn hp
  rcases forward_cases (assigned env s f p) .wan (ipDst f) (outMiss (ipProtocol f))
    (translated .lan (ipProtocol f) natCfgInit.wanIp p) with ⟨hmiss, -⟩ | ⟨mac', h, -, rfl, hf⟩
  · rw [arpCacheLookup_assigned, show arpCacheLookup (learnt env s f).net.nat (ipDst f) = some mac
      from hmac] at hmiss
    cases hmiss
  · refine ⟨_, 14 + ipTotalLength f, ?_, (translated_ethType_ttl .lan h4
      (hasTransport_of_verdict (by rw [hv]; decide)) natCfgInit.wanIp p
      ((assigned env s f p).net.iface .wan).mac mac').1⟩
    rw [hlog, hf]
    exact mem_sendFrame_self _ hdev (by omega) hmax

/-- **Which packets are forwarded.** -/
theorem forwarded_iff (hs : Configured s) (id : IfId) :
    (∃ g m, Forwarded env s id f n g m) ↔ Forwards env s id f n := by
  constructor
  · rintro ⟨g, m, h⟩
    exact forwards_of_forwarded hs h
  · intro h
    cases id with
    | wan => exact exists_forwarded_wan hs h
    | lan => exact exists_forwarded_lan hs h

/-! ## The time to live -/

/-- What is forwarded for the frame has a time to live of at least 1 that is smaller than the
received one; a frame received with a time to live of 0 or 1 is not forwarded. -/
structure TtlKept (env : Env) (s : NetState) (id : IfId) (f : Frame) (n : ℕ) : Prop where
  decreases : ∀ g m, Forwarded env s id f n g m → 1 ≤ ipTtl g ∧ ipTtl g < ipTtl f
  expires : ipTtl f ≤ 1 → ∀ g m, ¬Forwarded env s id f n g m

/-- A forwarded packet has the received time to live minus one, modulo 256. -/
lemma ttl_of_forwarded (hs : Configured s) {id : IfId} (h : Forwarded env s id f n g m) :
    ipTtl g = ipTtl f - 1 := by
  obtain ⟨h4, ht, -, ip, port, m₁, m₂, -, rfl⟩ := exists_translated hs h.1 h.2
  exact (translated_ethType_ttl id h4 ht ip port m₁ m₂).2

/-- **When forwarding keeps the time to live right**: in every state with the configured addresses,
exactly for the frames received with a time to live of at least 2 and those that are not
forwarded. -/
theorem ttlKept_iff (hs : Configured s) (id : IfId) :
    TtlKept env s id f n ↔ 2 ≤ ipTtl f ∨ ¬Forwards env s id f n := by
  constructor
  · intro h
    by_contra hno
    obtain ⟨hsmall, hfwd⟩ := not_or.mp hno
    obtain ⟨g, m, hg⟩ := (forwarded_iff hs id).mpr (not_not.mp hfwd)
    refine h.expires ?_ g m hg
    rw [UInt8.le_iff_toNat_le] at hsmall ⊢
    simp only [UInt8.reduceToNat] at hsmall ⊢
    omega
  · rintro (hbig | hno)
    · have hbig' : 2 ≤ (ipTtl f).toNat := UInt8.le_iff_toNat_le.mp hbig
      refine ⟨fun g m hg => ?_, fun hsmall => ?_⟩
      · have httl : (ipTtl g).toNat = (ipTtl f).toNat - 1 := by
          rw [ttl_of_forwarded hs hg, UInt8.toNat_sub_of_le _ _ (UInt8.le_iff_toNat_le.mpr (by
            simp only [UInt8.reduceToNat]; omega))]
          rfl
        constructor
        · rw [UInt8.le_iff_toNat_le, httl]
          simp only [UInt8.reduceToNat]
          omega
        · rw [UInt8.lt_iff_toNat_lt, httl]
          omega
      · have hsmall' : (ipTtl f).toNat ≤ 1 := UInt8.le_iff_toNat_le.mp hsmall
        omega
    · have hnone : ∀ g m, ¬Forwarded env s id f n g m := fun g m hg =>
        hno ((forwarded_iff hs id).mp ⟨g, m, hg⟩)
      exact ⟨fun g m hg => absurd hg (hnone g m), fun _ => hnone⟩

end Forwarding

/-! ## A packet that has expired -/

/-- The DNS query, with a time to live of 0. -/
def expiredQuery : Frame := frameOf [
  0x52, 0x54, 0, 0, 0, 1, 2, 0, 0, 0, 0, 16, 8, 0,
  0x45, 0, 0, 28, 0, 0, 0, 0, 0, 17, 0, 0, 192, 168, 1, 10, 8, 8, 8, 8, 3, 232, 0, 53, 0, 8, 0, 0]

/-- The query with an expired TTL is a packet for the outside. -/
lemma outgoing_expiredQuery : Outgoing expiredQuery 42 :=
  ⟨⟨by decide, by decide⟩, ⟨by decide, by decide, by decide, by decide, by decide, by decide,
    by decide⟩, by decide, by decide, by decide⟩

/-- The query that has expired is forwarded. -/
lemma exists_forwarded_expired :
    ∃ g m, Forwarded quietEnv (netStep demoInit learnOp) .lan expiredQuery 42 g m := by
  obtain ⟨g, m, hsent, htype, -⟩ := forwarded_learnt outgoing_expiredQuery (by decide)
  exact ⟨g, m, hsent, htype⟩

/-- `ttlKept_iff` for the query that has expired. -/
theorem ttlKept_iff_expired :
    Configured (netStep demoInit learnOp) ∧
      (TtlKept quietEnv (netStep demoInit learnOp) .lan expiredQuery 42 ↔
        2 ≤ ipTtl expiredQuery ∨ ¬Forwards quietEnv (netStep demoInit learnOp) .lan
          expiredQuery 42) :=
  ⟨configured_learnOp, ttlKept_iff configured_learnOp .lan⟩

/-- A query that arrives with a time to live of 0 leaves with 255. -/
theorem not_ttlKept_zero :
    (∃ g m, Forwarded quietEnv (netStep demoInit learnOp) .lan expiredQuery 42 g m ∧
      ipTtl expiredQuery = 0 ∧ ipTtl g = 255) ∧
    ¬∀ lanDev wanDev ops env id f n,
      TtlKept env (run netStep (netInit lanDev wanDev) ops) id f n := by
  obtain ⟨g, m, h⟩ := exists_forwarded_expired
  have h0 : ipTtl expiredQuery = 0 := by decide
  refine ⟨⟨g, m, h, h0, ?_⟩, fun hall => ?_⟩
  · rw [ttl_of_forwarded configured_learnOp h, h0]
    decide
  · have hkept := hall (some demoLanDev) (some demoWanDev) [learnOp] quietEnv .lan expiredQuery 42
    exact hkept.expires (by rw [h0]; decide) g m h

end Gateway
