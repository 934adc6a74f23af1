import UcosArm64.Gateway.NatSteps
import UcosArm64.Gateway.Rewrite

set_option relaxedAutoImplicit false
set_option autoImplicit false

/-!
# What the processing of one frame does

A frame from the WAN opens no session, and makes the gateway send to the LAN only the packet of an
active session to which it belongs. A frame from the LAN opens at most one session, its own.

## Main definitions

* `Gateway.Configured` — the addresses of the interfaces and of the NAT configuration agree.
* `Gateway.KeepsSessions` — the sessions stay, up to their time stamps.
* `Gateway.inPort`, `Gateway.outPort`, … — the fields by which a packet belongs to a session.
* `Gateway.Delivers` — an event hands the packet of an active session to the LAN.
* `Gateway.OpensFor` — a frame opens a session.

## Main results

* `Gateway.natInbound_cases`, `Gateway.natOutbound_cases` — all that a translation block can do.
* `Gateway.processFrame_wan`, `Gateway.processFrame_lan` — the effects of the two kinds of frames.
* `Gateway.configured_netStep` — the configuration never changes.
-/

namespace Gateway

/-! ## Configuration -/

/-- The addresses of the interfaces and of the NAT configuration are those of the initialisers. -/
structure Configured (s : NetState) : Prop where
  cfg : s.nat.natCfg = natCfgInit
  lanIp : s.lanIf.localIp = natCfgInit.lanIp
  wanIp : s.wanIf.localIp = natCfgInit.wanIp

/-- Two states have the same configuration and the same devices. -/
structure SameConfig (s s' : NetState) : Prop where
  cfg : s'.nat.natCfg = s.nat.natCfg
  lanIp : s'.lanIf.localIp = s.lanIf.localIp
  wanIp : s'.wanIf.localIp = s.wanIf.localIp
  lanDev : s'.lanIf.dev = s.lanIf.dev
  wanDev : s'.wanIf.dev = s.wanIf.dev

/-- A state is configured as it is. -/
lemma SameConfig.refl (s : NetState) : SameConfig s s := ⟨rfl, rfl, rfl, rfl, rfl⟩

/-- The configuration stays along two steps. -/
lemma SameConfig.trans {s t u : NetState} (h : SameConfig s t) (h' : SameConfig t u) :
    SameConfig s u :=
  ⟨h'.cfg.trans h.cfg, h'.lanIp.trans h.lanIp, h'.wanIp.trans h.wanIp, h'.lanDev.trans h.lanDev,
    h'.wanDev.trans h.wanDev⟩

/-- What is configured in the same way is configured too. -/
lemma Configured.of_sameConfig {s s' : NetState} (hs : Configured s) (h : SameConfig s s') :
    Configured s' :=
  ⟨h.cfg.trans hs.cfg, h.lanIp.trans hs.lanIp, h.wanIp.trans hs.wanIp⟩

/-- A state that differs only in the NAT data, with the same NAT configuration. -/
lemma sameConfig_nat {s : NetState} {nat : NatState} (h : nat.natCfg = s.nat.natCfg) :
    SameConfig s { s with nat := nat } := ⟨h, rfl, rfl, rfl, rfl⟩

/-! ## Sessions -/

/-- The sessions stay, up to their time stamps. -/
def KeepsSessions (s s' : NatState) : Prop :=
  ∀ j, ∃ now, s'.natTable j = (s.natTable j).touch now

/-- A state keeps its own sessions. -/
lemma KeepsSessions.refl (s : NatState) : KeepsSessions s s :=
  fun j => ⟨(s.natTable j).lastActivity, rfl⟩

/-- Sessions are kept along two steps. -/
lemma KeepsSessions.trans {s t u : NatState} (h : KeepsSessions s t) (h' : KeepsSessions t u) :
    KeepsSessions s u := by
  intro j
  obtain ⟨n, hn⟩ := h j
  obtain ⟨m, hm⟩ := h' j
  exact ⟨m, by rw [hm, hn]; rfl⟩

/-- The port by which a packet from the WAN is addressed: the destination port, or the ICMP
identifier. -/
def inPort (f : Frame) : UInt16 := if ipProtocol f = 1 then icmpIdentifier f else dstPort f

/-- The source port of a packet from the WAN, `0` for ICMP. -/
def inSrcPort (f : Frame) : UInt16 := if ipProtocol f = 1 then 0 else srcPort f

/-- The port from which a packet from the LAN comes: the source port, or the ICMP identifier. -/
def outPort (f : Frame) : UInt16 := if ipProtocol f = 1 then icmpIdentifier f else srcPort f

/-- The destination port of a packet from the LAN, `0` for ICMP. -/
def outDstPort (f : Frame) : UInt16 := if ipProtocol f = 1 then 0 else dstPort f

/-- An IPv4 packet that is an ICMP echo request, or a TCP or UDP packet. -/
structure IsRequest (f : Frame) : Prop where
  ipv4 : ethType f = 0x0800
  kind : (ipProtocol f = 1 ∧ icmpType f = 8) ∨ ipProtocol f = 6 ∨ ipProtocol f = 17

/-- The event hands a packet to the LAN device that is addressed to the LAN endpoint of an active
session, to which the frame `f` from the WAN belongs. -/
def Delivers (s : NatState) (f : Frame) (e : NetEvent) : Prop :=
  ∃ i g n, e = .tx .lan g n ∧
    (s.natTable i).matchesIn (ipProtocol f) (inPort f) (ipSrc f) (inSrcPort f) = true ∧
    ipDst g = (s.natTable i).lanIp ∧ inPort g = (s.natTable i).lanPort

/-- The frame `f` from the LAN opens a session for itself in a free slot, and has its WAN port
assigned. -/
def OpensFor (s s' : NatState) (f : Frame) (log : List NetEvent) : Prop :=
  IsRequest f ∧ ∃ i e, ¬ (s.natTable i).active = true ∧
    s'.natTable = Function.update s.natTable i e ∧ e.active = true ∧
    e.protocol = ipProtocol f ∧ e.lanIp = ipSrc f ∧ e.lanPort = outPort f ∧ e.dstIp = ipDst f ∧
    e.dstPort = outDstPort f ∧
    NetEvent.assigned e.protocol e.lanIp e.lanPort e.dstIp e.dstPort e.wanPort ∈ log

/-! ## Sending -/

/-- Sending changes no static data. -/
@[simp] lemma sendFrame_net (c : Proc) (id : IfId) (f : Frame) (n : ℕ) :
    (sendFrame c id f n).net = c.net := by
  unfold sendFrame
  split_ifs <;> rfl

/-- A frame that is sent is handed to the named device, or to none, and it is not too long. -/
lemma mem_sendFrame_log {c : Proc} {id : IfId} {f : Frame} {n : ℕ} {e : NetEvent}
    (h : e ∈ (sendFrame c id f n).log) :
    e ∈ c.log ∨ e = .tx id f n ∧ n ≤ virtioNetMaxFrameSize := by
  unfold sendFrame at h
  split_ifs at h with hdev hlen
  · exact Or.inl h
  · exact Or.inl h
  · rcases List.mem_append.mp h with h | h
    · exact Or.inl h
    · exact Or.inr ⟨List.mem_singleton.mp h, not_lt.mp (not_or.mp hlen).2⟩

/-- Sending takes no event back. -/
lemma mem_log_sendFrame {c : Proc} {e : NetEvent} (id : IfId) (f : Frame) (n : ℕ) (h : e ∈ c.log) :
    e ∈ (sendFrame c id f n).log := by
  unfold sendFrame
  split_ifs
  · exact h
  · exact h
  · exact List.mem_append_left _ h

/-- A send that meets the argument check. -/
lemma sendFrame_eq {c : Proc} {id : IfId} {n : ℕ} (f : Frame)
    (hd : (c.net.iface id).dev.isSome = true) (hn : 0 < n) (hn' : n ≤ virtioNetMaxFrameSize) :
    sendFrame c id f n = { c with log := c.log ++ [.tx id f n] } := by
  have hnone : ¬ (c.net.iface id).dev.isNone = true := by
    rw [Option.isNone_iff_eq_none]
    intro h
    rw [h] at hd
    exact absurd hd (by simp)
  unfold sendFrame
  rw [if_neg hnone, if_neg (by omega)]

/-- A frame that is too long is not sent. -/
lemma sendFrame_long (c : Proc) (id : IfId) (f : Frame) {n : ℕ} (h : virtioNetMaxFrameSize < n) :
    sendFrame c id f n = c := by
  unfold sendFrame
  split_ifs <;> first | rfl | omega

/-- **The two outcomes of forwarding.** -/
lemma forward_cases (c : Proc) (out : IfId) (nextHop : Ip4) (miss : Proc → Proc)
    (rewrite : Frame → Frame) :
    (arpCacheLookup c.net.nat nextHop = none ∧ forward c out nextHop miss rewrite =
      (miss { c with frame := wrMac c.frame 6 (c.net.iface out).mac }, some 1)) ∨
    ∃ mac f, arpCacheLookup c.net.nat nextHop = some mac ∧
      f = rewrite (wrMac (wrMac c.frame 6 (c.net.iface out).mac) 0 mac) ∧
      forward c out nextHop miss rewrite =
        (sendFrame { c with frame := f } out f (14 + ipTotalLength c.frame), some 1) := by
  unfold forward
  cases arpCacheLookup c.net.nat nextHop with
  | none => exact Or.inl ⟨rfl, rfl⟩
  | some mac => exact Or.inr ⟨mac, _, rfl, rfl, rfl⟩

/-! ## Effects of blocks -/

/-- A block keeps the sessions and the configuration, and all its events satisfy `P`. -/
structure Effect (P : NetEvent → Prop) (c c' : Proc) : Prop where
  sessions : KeepsSessions c.net.nat c'.net.nat
  config : SameConfig c.net c'.net
  events : ∀ e ∈ c'.log, e ∈ c.log ∨ P e

/-- No effect at all. -/
lemma Effect.refl (P : NetEvent → Prop) (c : Proc) : Effect P c c :=
  ⟨KeepsSessions.refl _, SameConfig.refl _, fun _ he => Or.inl he⟩

/-- Effects, one after the other. -/
lemma Effect.trans {P : NetEvent → Prop} {c d e : Proc} (h : Effect P c d) (h' : Effect P d e) :
    Effect P c e := by
  refine ⟨h.sessions.trans h'.sessions, h.config.trans h'.config, fun x hx => ?_⟩
  rcases h'.events x hx with hx | hx
  · exact h.events x hx
  · exact Or.inr hx

/-- A weaker condition on the events. -/
lemma Effect.mono {P Q : NetEvent → Prop} {c c' : Proc} (h : Effect P c c')
    (hPQ : ∀ e, P e → Q e) : Effect Q c c' :=
  ⟨h.sessions, h.config, fun e he => (h.events e he).imp_right (hPQ e)⟩

/-- Events that hand a frame to the device `id`. -/
def SendsTo (id : IfId) (e : NetEvent) : Prop := ∃ f n, e = .tx id f n

/-- Sending a frame. -/
lemma effect_sendFrame (c : Proc) (id : IfId) (f : Frame) (n : ℕ) :
    Effect (SendsTo id) c (sendFrame c id f n) := by
  refine ⟨?_, ?_, fun e he => ?_⟩
  · rw [sendFrame_net]
    exact KeepsSessions.refl _
  · rw [sendFrame_net]
    exact SameConfig.refl _
  · exact (mem_sendFrame_log he).imp_right fun h => ⟨f, n, h.1⟩

/-- Answering an echo request leaves the static data alone. -/
lemma sendIcmpEchoReply_net (env : Env) (c : Proc) (id : IfId) (n : ℕ) :
    (sendIcmpEchoReply env c id n).net = c.net := by
  unfold sendIcmpEchoReply
  simp only
  split_ifs
  · rfl
  · exact sendFrame_net _ _ _ _

/-- Answering an echo request. -/
lemma effect_sendIcmpEchoReply (env : Env) (c : Proc) (id : IfId) (n : ℕ) :
    Effect (SendsTo id) c (sendIcmpEchoReply env c id n) := by
  unfold sendIcmpEchoReply
  simp only
  split_ifs
  · exact Effect.refl _ c
  · exact effect_sendFrame c id _ _

/-- Learning the peer's Ethernet address changes neither the address nor the device. -/
lemma learnPeer_localIp (i : NetInterface) (tpa spa : Ip4) (sha : Mac) :
    (learnPeer i tpa spa sha).localIp = i.localIp := by
  unfold learnPeer
  split_ifs <;> rfl

/-- Learning a peer does not change the device of an interface. -/
lemma learnPeer_dev (i : NetInterface) (tpa spa : Ip4) (sha : Mac) :
    (learnPeer i tpa spa sha).dev = i.dev := by
  unfold learnPeer
  split_ifs <;> rfl

/-- The ARP branch sends to the interface the frame came from. -/
lemma effect_processArp (env : Env) (c : Proc) (id : IfId) (length : ℕ) :
    Effect (SendsTo id) c (processArp env c id length).1 := by
  unfold processArp
  simp only
  split_ifs
  · exact Effect.refl _ c
  · exact effect_sendFrame c id _ _
  · -- an ARP reply is learnt
    cases id with
    | lan => exact ⟨KeepsSessions.refl _, ⟨rfl, learnPeer_localIp _ _ _ _, rfl,
        learnPeer_dev _ _ _ _, rfl⟩, fun e he => Or.inl he⟩
    | wan => exact ⟨KeepsSessions.refl _, ⟨rfl, rfl, learnPeer_localIp _ _ _ _, rfl,
        learnPeer_dev _ _ _ _⟩, fun e he => Or.inl he⟩
  · exact Effect.refl _ c

/-- **What an inbound block does.** It changes the static data like `nat_translate_inbound`. It
finds a session, room in the frame, a LAN device and the Ethernet address of the host, and sends
the translated packet; or it lacks one of these and sends nothing.

**Proof sketch.** By the result of `nat_translate_inbound`, and then by `forward_cases`. -/
theorem natInbound_cases (c : Proc) (now : UInt32) (length : ℕ) (protocol : UInt8)
    (wanPort srcPort : UInt16) (rewrite : Ip4 → UInt16 → Frame → Frame) :
    let nat := (natTranslateInbound c.net.nat now protocol wanPort (ipSrc c.frame) srcPort).1
    let r := natInbound c now length protocol wanPort srcPort rewrite
    Refreshes c.net.nat nat ∧ r.1.net = { c.net with nat := nat } ∧
      ((∀ i mac, natFindReverseEntry c.net.nat protocol wanPort (ipSrc c.frame) srcPort = some i →
          length ≤ virtioNetMaxFrameSize → c.net.lanIf.dev.isSome = true →
          arpCacheLookup c.net.nat (c.net.nat.natTable i).lanIp ≠ some mac) ∧
          r.1.log = c.log ∧ (r.2 = none → r.1.frame = c.frame) ∨
        ∃ i mac g, natFindReverseEntry c.net.nat protocol wanPort (ipSrc c.frame) srcPort = some i ∧
          (c.net.nat.natTable i).matchesIn protocol wanPort (ipSrc c.frame) srcPort = true ∧
          length ≤ virtioNetMaxFrameSize ∧ c.net.lanIf.dev.isSome = true ∧
          arpCacheLookup c.net.nat (c.net.nat.natTable i).lanIp = some mac ∧
          g = rewrite (c.net.nat.natTable i).lanIp (c.net.nat.natTable i).lanPort
            (wrMac (wrMac c.frame 6 c.net.lanIf.mac) 0 mac) ∧
          r = (sendFrame ⟨{ c.net with nat := nat }, g, c.log⟩ .lan g
            (14 + ipTotalLength c.frame), some 1)) := by
  intro nat r
  have hr : r = natInbound c now length protocol wanPort srcPort rewrite := rfl
  unfold natInbound at hr
  simp only at hr
  rcases natTranslateInbound_cases c.net.nat now protocol wanPort (ipSrc c.frame) srcPort with
    ⟨hnone, href, -, hret⟩ | ⟨i, hfind, hmatch, href, -, hret⟩
  · rw [hret] at hr
    rw [hr]
    refine ⟨href, rfl, Or.inl ⟨fun i mac hfind => ?_, rfl, fun _ => rfl⟩⟩
    rw [hnone] at hfind
    cases hfind
  · rw [hret] at hr
    simp only at hr
    split_ifs at hr with hguard
    · rcases forward_cases ⟨{ c.net with nat := nat }, c.frame, c.log⟩ .lan
        (c.net.nat.natTable i).lanIp (fun c => c)
        (rewrite (c.net.nat.natTable i).lanIp (c.net.nat.natTable i).lanPort) with
        ⟨hmiss, hf⟩ | ⟨mac, g, hmac, hg, hf⟩
      · rw [arpCacheLookup_congr href.arp] at hmiss
        rw [hr, hf]
        refine ⟨href, rfl, Or.inl ⟨fun j mac hj _ _ hmac => ?_, rfl, fun h => ?_⟩⟩
        · obtain rfl : i = j := Option.some.inj (hfind.symm.trans hj)
          rw [hmiss] at hmac
          cases hmac
        · cases h
      · rw [arpCacheLookup_congr href.arp] at hmac
        rw [hr, hf]
        exact ⟨href, sendFrame_net _ _ _ _, Or.inr ⟨i, mac, g, hfind, hmatch, hguard.1,
          hguard.2, hmac,
          hg, rfl⟩⟩
    · rw [hr]
      exact ⟨href, rfl, Or.inl ⟨fun _ _ _ hlen hdev _ => hguard ⟨hlen, hdev⟩, rfl, fun _ => rfl⟩⟩

/-- **The effect of an inbound block.** The sessions stay, and a packet sent to the LAN is the
translated packet of an active session that matches. -/
lemma effect_natInbound (c : Proc) (now : UInt32) (length : ℕ) (protocol : UInt8)
    (wanPort srcPort : UInt16) (rewrite : Ip4 → UInt16 → Frame → Frame) :
    Effect (fun e => ∃ i f n, e = .tx .lan (rewrite (c.net.nat.natTable i).lanIp
        (c.net.nat.natTable i).lanPort f) n ∧ (∀ k, 12 ≤ k → f k = c.frame k) ∧
        (c.net.nat.natTable i).matchesIn protocol wanPort (ipSrc c.frame) srcPort = true) c
      (natInbound c now length protocol wanPort srcPort rewrite).1 := by
  obtain ⟨href, hnet, hsent⟩ := natInbound_cases c now length protocol wanPort srcPort rewrite
  refine ⟨?_, ?_, fun e he => ?_⟩
  · rw [hnet]
    exact href.table
  · rw [hnet]
    exact sameConfig_nat href.cfg
  · rcases hsent with ⟨-, hlog, -⟩ | ⟨i, mac, g, -, hmatch, -, -, -, rfl, hr⟩
    · rw [hlog] at he
      exact Or.inl he
    · rw [hr] at he
      rcases mem_sendFrame_log he with he | ⟨rfl, -⟩
      · exact Or.inl he
      · refine Or.inr ⟨i, _, _, rfl, fun k hk => ?_, hmatch⟩
        rw [wrMac_of_ne _ _ (by omega), wrMac_of_ne _ _ (by omega)]

/-- If an inbound block lets control run on, it has not touched the frame. -/
lemma natInbound_frame {c : Proc} {now : UInt32} {length : ℕ} {protocol : UInt8}
    {wanPort srcPort : UInt16} {rewrite : Ip4 → UInt16 → Frame → Frame}
    (h : (natInbound c now length protocol wanPort srcPort rewrite).2 = none) :
    (natInbound c now length protocol wanPort srcPort rewrite).1.frame = c.frame := by
  obtain ⟨-, -, ⟨-, -, hframe⟩ | ⟨i, mac, g, -, -, -, -, -, -, hr⟩⟩ :=
    natInbound_cases c now length protocol wanPort srcPort rewrite
  · exact hframe h
  · rw [hr] at h
    cases h

/-- **What an outbound block does.** It changes the static data like `nat_translate_outbound`.
Without a port it ends there. With a port, which it puts on record, it ends at a frame that is too
long, does what it does without the Ethernet address of the destination, or sends the translated
packet. -/
theorem natOutbound_cases (c : Proc) (now : UInt32) (length : ℕ) (protocol : UInt8)
    (lanPort dstPort : UInt16) (miss : Proc → Proc) (rewrite : UInt16 → Frame → Frame) :
    let t := natTranslateOutbound c.net.nat now protocol (ipSrc c.frame) lanPort (ipDst c.frame)
      dstPort
    let r := natOutbound c now length protocol lanPort dstPort miss rewrite
    (t.2 = none ∧ r = (⟨{ c.net with nat := t.1 }, c.frame, c.log⟩, none)) ∨
      ∃ p d, t.2 = some p ∧ d = (⟨{ c.net with nat := t.1 }, c.frame, c.log ++
          [.assigned protocol (ipSrc c.frame) lanPort (ipDst c.frame) dstPort p]⟩ : Proc) ∧
        (virtioNetMaxFrameSize < length ∧ r = (d, none) ∨
          length ≤ virtioNetMaxFrameSize ∧ arpCacheLookup c.net.nat (ipDst c.frame) = none ∧
            r = (miss { d with frame := wrMac c.frame 6 c.net.wanIf.mac }, some 1) ∨
          length ≤ virtioNetMaxFrameSize ∧ ∃ mac g,
            arpCacheLookup c.net.nat (ipDst c.frame) = some mac ∧
            g = rewrite p (wrMac (wrMac c.frame 6 c.net.wanIf.mac) 0 mac) ∧
            r = (sendFrame { d with frame := g } .wan g (14 + ipTotalLength c.frame), some 1)) := by
  intro t r
  have harp : t.1.arpTable = c.net.nat.arpTable := natTranslateOutbound_arp _ _ _ _ _ _ _
  have hr : r = natOutbound c now length protocol lanPort dstPort miss rewrite := rfl
  unfold natOutbound at hr
  simp only at hr
  cases ht : t.2 with
  | none =>
    rw [ht] at hr
    exact Or.inl ⟨rfl, hr⟩
  | some p =>
    rw [ht] at hr
    simp only at hr
    refine Or.inr ⟨p, _, rfl, rfl, ?_⟩
    split_ifs at hr with hlen
    · rcases forward_cases ⟨{ c.net with nat := t.1 }, c.frame, c.log ++
        [.assigned protocol (ipSrc c.frame) lanPort (ipDst c.frame) dstPort p]⟩ .wan (ipDst c.frame)
        miss (rewrite p) with ⟨hmac, hf⟩ | ⟨mac, g, hmac, hg, hf⟩
      · rw [arpCacheLookup_congr harp] at hmac
        exact Or.inr (Or.inl ⟨hlen, hmac, hr.trans hf⟩)
      · rw [arpCacheLookup_congr harp] at hmac
        exact Or.inr (Or.inr ⟨hlen, mac, g, hmac, hg, hr.trans hf⟩)
    · exact Or.inl ⟨not_le.mp hlen, hr⟩

/-- **The effect of an outbound block** on the static data is that of `nat_translate_outbound`, and
an assigned port is on record. -/
lemma natOutbound_effect (c : Proc) (now : UInt32) (length : ℕ) (protocol : UInt8)
    (lanPort dstPort : UInt16) (miss : Proc → Proc) (rewrite : UInt16 → Frame → Frame)
    (hmiss : ∀ d, (miss d).net = d.net ∧ ∀ e ∈ d.log, e ∈ (miss d).log) :
    let t := natTranslateOutbound c.net.nat now protocol (ipSrc c.frame) lanPort (ipDst c.frame)
      dstPort
    let r := (natOutbound c now length protocol lanPort dstPort miss rewrite).1
    r.net = { c.net with nat := t.1 } ∧ ∀ p, t.2 = some p →
      NetEvent.assigned protocol (ipSrc c.frame) lanPort (ipDst c.frame) dstPort p ∈ r.log := by
  intro t r
  rcases natOutbound_cases c now length protocol lanPort dstPort miss rewrite with
    ⟨ht, hr⟩ | ⟨p, d, ht, hd, hr⟩
  · refine ⟨congrArg (fun r : Flow => r.1.net) hr, fun p hp => ?_⟩
    rw [ht] at hp
    cases hp
  · have hlog : NetEvent.assigned protocol (ipSrc c.frame) lanPort (ipDst c.frame) dstPort p ∈
        d.log := by
      rw [hd]
      exact List.mem_append_right _ (List.mem_singleton_self _)
    have hnet : d.net = { c.net with nat := t.1 } := by rw [hd]
    suffices h : r.net = d.net ∧ ∀ e ∈ d.log, e ∈ r.log by
      refine ⟨h.1.trans hnet, fun q hq => ?_⟩
      obtain rfl : p = q := Option.some.inj (ht.symm.trans hq)
      exact h.2 _ hlog
    rcases hr with ⟨-, hr⟩ | ⟨-, -, hr⟩ | ⟨-, mac, g, -, -, hr⟩
    · have hr' : r = d := congrArg Prod.fst hr
      rw [hr']
      exact ⟨rfl, fun _ he => he⟩
    · have hr' : r = _ := congrArg Prod.fst hr
      rw [hr']
      exact hmiss { d with frame := wrMac c.frame 6 c.net.wanIf.mac }
    · have hr' : r = _ := congrArg Prod.fst hr
      rw [hr']
      exact ⟨sendFrame_net _ _ _ _, fun e he => mem_log_sendFrame _ _ _ he⟩

/-! ## The sections for a frame from the WAN -/

/-- The shape of a packet is not changed by a translation. -/
lemma Rewrites.sameShape {f g : Frame} {addr portOffset checksum : ℕ} {ip : Ip4} {port : UInt16}
    (h : Rewrites f g addr ip portOffset port checksum) (ha : 26 ≤ addr) (hl : 20 ≤ ipHeaderLen f) :
    SameShape f g := by
  have h34 : 34 ≤ l4 f := by unfold l4; omega
  exact SameShape.of_eq fun k hk => h.same k (by omega) (by omega) (by omega) (by omega) (by omega)
    (by omega) (by omega) (by omega)

/-- The shape of a frame is not changed by the Ethernet addresses. -/
lemma sameShape_of_agree {f g : Frame} (h : ∀ k, 12 ≤ k → g k = f k) : SameShape f g :=
  SameShape.of_eq fun k hk => h k (by omega)

/-- Sessions that stay deliver the same packets. -/
lemma Delivers.of_keeps {s s' : NatState} {f : Frame} {e : NetEvent} (h : KeepsSessions s s')
    (hd : Delivers s' f e) : Delivers s f e := by
  obtain ⟨i, g, n, he, hm, hip, hport⟩ := hd
  obtain ⟨now, hi⟩ := h i
  rw [hi] at hm hip hport
  exact ⟨i, g, n, he, hm, hip, hport⟩

/-- What the gateway does with a frame from the WAN. -/
def WanEvent (s : NatState) (f : Frame) (e : NetEvent) : Prop := SendsTo .wan e ∨ Delivers s f e

/-- The first section. -/
lemma effect_wanIcmpSection (env : Env) (c : Proc) (length : ℕ) (hl : 20 ≤ ipHeaderLen c.frame) :
    Effect (WanEvent c.net.nat c.frame) c (wanIcmpSection env c .wan length).1 := by
  unfold wanIcmpSection
  split_ifs with h₁ h₂ h₃ h₄
  · refine (effect_natInbound c (env.tick 1) length _ _ _ _).mono ?_
    rintro e ⟨i, f, n, rfl, hf, hm⟩
    have hshape := sameShape_of_agree hf
    obtain ⟨hrw, -⟩ := rewrites_icmp f 30 (c.net.nat.natTable i).lanIp
      (c.net.nat.natTable i).lanPort (by omega) (by omega) (by rw [hshape.ipHeaderLen]; exact hl)
      (by rw [hshape.ipHeaderLen, hshape.ipTotalLength]; exact h₂)
    have hg := hrw.sameShape (by omega) (by rw [hshape.ipHeaderLen]; exact hl)
    refine Or.inr ⟨i, _, n, rfl, ?_, hrw.addr, ?_⟩
    · rw [h₁.2.2, inPort, inSrcPort, if_pos h₁.2.2, if_pos h₁.2.2]
      exact hm
    · rw [inPort, hg.ipProtocol, hshape.ipProtocol, if_pos h₁.2.2, icmpIdentifier, hg.l4]
      exact hrw.port
  · exact (effect_sendIcmpEchoReply env c .wan _).mono fun e he => Or.inl he
  · exact Effect.refl _ c
  · exact Effect.refl _ c
  · exact Effect.refl _ c

/-- The second section. -/
lemma effect_wanTransportSection (env : Env) (c : Proc) (length : ℕ)
    (hl : 20 ≤ ipHeaderLen c.frame) :
    Effect (WanEvent c.net.nat c.frame) c (wanTransportSection env c .wan length).1 := by
  unfold wanTransportSection
  split_ifs with h₁ h₂
  · refine (effect_natInbound c (env.tick 1) length _ _ _ _).mono ?_
    rintro e ⟨i, f, n, rfl, hf, hm⟩
    have hshape := sameShape_of_agree hf
    have hproto : (if ipProtocol c.frame = 6 then natProtoTcp else natProtoUdp) =
        ipProtocol c.frame := by
      rcases h₁.2.2 with h | h
      · rw [if_pos h, h]; rfl
      · rw [if_neg (by rw [h]; decide), h]; rfl
    have hne : ipProtocol c.frame ≠ 1 := by
      rcases h₁.2.2 with h | h
      · rw [h]; decide
      · rw [h]; decide
    obtain ⟨hrw, -⟩ := rewrites_transport f 30 2 (c.net.nat.natTable i).lanIp
      (c.net.nat.natTable i).lanPort (by omega) (by omega) (by rw [hshape.ipHeaderLen]; exact hl)
      (by omega) (by rw [hshape.ipHeaderLen, hshape.ipTotalLength, hshape.ipProtocol]; exact h₂)
    have hg := hrw.sameShape (by omega) (by rw [hshape.ipHeaderLen]; exact hl)
    refine Or.inr ⟨i, _, n, rfl, ?_, hrw.addr, ?_⟩
    · rw [inPort, inSrcPort, if_neg hne, if_neg hne, ← hproto]
      exact hm
    · rw [inPort, hg.ipProtocol, hshape.ipProtocol, if_neg hne, dstPort, hg.l4]
      exact hrw.port
  · exact Effect.refl _ c
  · exact Effect.refl _ c

/-- If the first section lets control run on, it has not touched the frame. -/
lemma wanIcmpSection_frame {env : Env} {c : Proc} {length : ℕ}
    (h : (wanIcmpSection env c .wan length).2 = none) :
    (wanIcmpSection env c .wan length).1.frame = c.frame := by
  unfold wanIcmpSection at h ⊢
  split_ifs at h ⊢
  · exact natInbound_frame h
  all_goals rfl

/-- The section for packets to the gateway. -/
lemma effect_localSection (env : Env) (c : Proc) (id : IfId) :
    Effect (SendsTo id) c (localSection env c id).1 := by
  unfold localSection
  simp only
  split_ifs
  · exact Effect.refl _ c
  · exact effect_sendIcmpEchoReply env c id _
  · exact Effect.refl _ c
  · exact Effect.refl _ c

/-- The section for packets from the LAN does nothing with a frame from the WAN. -/
lemma lanSection_wan (env : Env) (c : Proc) (length : ℕ) :
    lanSection env c .wan length = (c, none) := by
  unfold lanSection
  rw [if_neg (by simp)]

/-- The last section does nothing: a packet to the WAN address of the configuration is for the WAN
interface itself. -/
lemma wanLateSection_wan {env : Env} {c : Proc} {length : ℕ} (hc : Configured c.net)
    (h : isForUs c .wan = false) : wanLateSection env c .wan length = (c, none) := by
  unfold wanLateSection
  rw [if_neg]
  rintro ⟨hwan, -, -⟩
  rw [natIsWanIp, ipEqual_iff] at hwan
  have : isForUs c .wan = true := by
    unfold isForUs
    rw [decide_eq_true_iff]
    left
    show ipDst c.frame = c.net.wanIf.localIp
    rw [hwan, hc.cfg, hc.wanIp]
  rw [this] at h
  exact absurd h (by simp)

/-- A flow either stops at its first block or runs on. -/
lemma Flow.next_cases (r : Flow) (k : Proc → Flow) :
    (r.next k = r) ∨ (r.2 = none ∧ r.next k = k r.1) := by
  unfold Flow.next
  cases h : r.2 with
  | none => exact Or.inr ⟨rfl, rfl⟩
  | some n => exact Or.inl rfl

/-- The IPv4 branch for a frame from the WAN.

**Proof sketch.** The sections are followed one after the other; the frame that a later section sees
is still the frame received, and the sessions are still those before the call. -/
lemma effect_processIpv4_wan (env : Env) (c : Proc) (length : ℕ) (hc : Configured c.net) :
    Effect (WanEvent c.net.nat c.frame) c (processIpv4 env c .wan length).1 := by
  unfold processIpv4
  split_ifs with h₁ h₂
  · exact Effect.refl _ c
  · exact Effect.refl _ c
  · have hl : 20 ≤ ipHeaderLen c.frame := ipHeaderLen_ge (UInt8.not_lt.mp (not_or.mp h₂).2)
    simp only
    set d : Proc := { c with
      net.nat := arpCacheAdd c.net.nat (env.tick 0) (ipSrc c.frame) (ethSrc c.frame) } with hd
    have h₀ : Effect (WanEvent c.net.nat c.frame) c d :=
      ⟨KeepsSessions.refl _, sameConfig_nat rfl, fun e he => Or.inl he⟩
    have e₁ := effect_wanIcmpSection env d length hl
    rcases Flow.next_cases (wanIcmpSection env d .wan length) _ with hr | ⟨hn₁, hr⟩
    · rw [hr]
      exact h₀.trans e₁
    rw [hr]
    have hf₁ := wanIcmpSection_frame hn₁
    set d₁ := (wanIcmpSection env d .wan length).1 with hd₁
    have e₂ := effect_wanTransportSection env d₁ length (by rw [hf₁]; exact hl)
    have e₂' : Effect (WanEvent c.net.nat c.frame) d₁
        (wanTransportSection env d₁ .wan length).1 := by
      refine e₂.mono fun e he => he.imp_right fun hdel => ?_
      rw [hf₁] at hdel
      exact hdel.of_keeps e₁.sessions
    rcases Flow.next_cases (wanTransportSection env d₁ .wan length) _ with hr | ⟨hn₂, hr⟩
    · rw [hr]
      exact h₀.trans (e₁.trans e₂')
    rw [hr]
    set d₂ := (wanTransportSection env d₁ .wan length).1 with hd₂
    have e₀₂ : Effect (WanEvent c.net.nat c.frame) c d₂ := h₀.trans (e₁.trans e₂')
    have hc₂ : Configured d₂.net := hc.of_sameConfig e₀₂.config
    cases hus : isForUs d₂ .wan with
    | true =>
      rw [if_pos rfl]
      exact e₀₂.trans ((effect_localSection env d₂ .wan).mono fun e he => Or.inl he)
    | false =>
      rw [if_neg (by simp), lanSection_wan]
      show Effect _ c (wanLateSection env d₂ .wan length).1
      rw [wanLateSection_wan hc₂ hus]
      exact e₀₂

/-- **The effect of a frame from the WAN.** The sessions stay, and whatever is sent to the LAN is
the packet of an active session to which the frame belongs. -/
theorem processFrame_wan (env : Env) {s : NetState} (hs : Configured s) (f : Frame) (length : ℕ) :
    Effect (WanEvent s.nat f) ⟨s, f, []⟩ (netDemoProcessFrame env s .wan f length).1 := by
  unfold netDemoProcessFrame
  simp only
  split_ifs
  · exact Effect.refl _ _
  · exact (effect_processArp env _ .wan length).mono fun e he => Or.inl he
  · exact effect_processIpv4_wan env ⟨s, f, []⟩ length hs
  · exact Effect.refl _ _

/-! ## The sections for a frame from the LAN -/

/-- The section for ICMP from the WAN does nothing on the LAN. -/
lemma wanIcmpSection_lan (env : Env) (c : Proc) (length : ℕ) :
    wanIcmpSection env c .lan length = (c, none) := by
  unfold wanIcmpSection
  rw [if_neg (by simp)]

/-- The section for TCP and UDP from the WAN does nothing on the LAN. -/
lemma wanTransportSection_lan (env : Env) (c : Proc) (length : ℕ) :
    wanTransportSection env c .lan length = (c, none) := by
  unfold wanTransportSection
  rw [if_neg (by simp)]

/-- The late section for the WAN does nothing on the LAN. -/
lemma wanLateSection_lan (env : Env) (c : Proc) (length : ℕ) :
    wanLateSection env c .lan length = (c, none) := by
  unfold wanLateSection
  rw [if_neg (by simp)]

/-- What a frame from the LAN does: the configuration stays, and the sessions stay or one is
opened. -/
def LanEffect (c c' : Proc) : Prop :=
  SameConfig c.net c'.net ∧
    (KeepsSessions c.net.nat c'.net.nat ∨ OpensFor c.net.nat c'.net.nat c.frame c'.log)

/-- An effect without a condition on the events. -/
lemma Effect.lanEffect {P : NetEvent → Prop} {c c' : Proc} (h : Effect P c c') : LanEffect c c' :=
  ⟨h.config, Or.inl h.sessions⟩

/-- An outbound block opens at most the session of its packet. -/
lemma lanEffect_natOutbound (c : Proc) (now : UInt32) (length : ℕ) {protocol : UInt8}
    {lanPort dstPort : UInt16} {miss : Proc → Proc} (rewrite : UInt16 → Frame → Frame)
    (hmiss : ∀ d, (miss d).net = d.net ∧ ∀ e ∈ d.log, e ∈ (miss d).log)
    (hreq : IsRequest c.frame) (hproto : protocol = ipProtocol c.frame)
    (hport : lanPort = outPort c.frame) (hdst : dstPort = outDstPort c.frame) :
    LanEffect c (natOutbound c now length protocol lanPort dstPort miss rewrite).1 := by
  obtain ⟨hnet, hlog⟩ := natOutbound_effect c now length protocol lanPort dstPort miss rewrite hmiss
  unfold LanEffect
  rw [hnet]
  rcases natTranslateOutbound_cases c.net.nat now protocol (ipSrc c.frame) lanPort (ipDst c.frame)
    dstPort with ⟨i, -, -, h, -, -⟩ | ⟨-, -, h, -, -⟩ | ⟨-, i, -, h, hret⟩
  · exact ⟨sameConfig_nat h.cfg, Or.inl h.table⟩
  · exact ⟨sameConfig_nat h.cfg, Or.inl h.table⟩
  · refine ⟨sameConfig_nat h.cfg, Or.inr ⟨hreq, i, _, ?_, h.table, rfl, hproto, rfl, hport, rfl,
      hdst, hlog _ hret⟩⟩
    rw [h.free]
    simp

/-- The section for packets from the LAN. -/
lemma lanEffect_lanSection (env : Env) (c : Proc) (length : ℕ) (h4 : ethType c.frame = 0x0800) :
    LanEffect c (lanSection env c .lan length).1 := by
  unfold lanSection
  split_ifs with h₁ h₂ h₃ h₄ h₅ h₆
  · refine lanEffect_natOutbound c _ length _ (fun d => ⟨rfl, fun e he => he⟩)
      ⟨h4, Or.inl ⟨h₂.1, h₄⟩⟩ h₂.1.symm ?_ ?_
    · rw [outPort, if_pos h₂.1]
    · rw [outDstPort, if_pos h₂.1]
  · exact (Effect.refl (fun _ => False) c).lanEffect
  · exact (Effect.refl (fun _ => False) c).lanEffect
  · have hne : ipProtocol c.frame ≠ 1 := by
      rcases h₅.1 with h | h
      · rw [h]; decide
      · rw [h]; decide
    refine lanEffect_natOutbound c _ length _ (fun d => ⟨sendFrame_net _ _ _ _, fun e he =>
      mem_log_sendFrame _ _ _ he⟩) ⟨h4, Or.inr h₅.1⟩ ?_ ?_ ?_
    · rcases h₅.1 with h | h
      · rw [if_pos h, h]; rfl
      · rw [if_neg (by rw [h]; decide), h]; rfl
    · rw [outPort, if_neg hne]
    · rw [outDstPort, if_neg hne]
  · exact (Effect.refl (fun _ => False) c).lanEffect
  · exact (Effect.refl (fun _ => False) c).lanEffect
  · exact (Effect.refl (fun _ => False) c).lanEffect

/-- The IPv4 branch for a frame from the LAN, once the source address is learnt: only the last two
sections do anything. -/
lemma processIpv4_lan_sections (env : Env) (d : Proc) (length : ℕ) :
    ((wanIcmpSection env d .lan length).next fun c =>
      (wanTransportSection env c .lan length).next fun c =>
        if isForUs c .lan then localSection env c .lan
        else (lanSection env c .lan length).next fun c => wanLateSection env c .lan length) =
      if isForUs d .lan then localSection env d .lan else lanSection env d .lan length := by
  rw [wanIcmpSection_lan]
  show ((wanTransportSection env d .lan length).next fun c =>
    if isForUs c .lan then localSection env c .lan
    else (lanSection env c .lan length).next fun c => wanLateSection env c .lan length) = _
  rw [wanTransportSection_lan]
  show (if isForUs d .lan then localSection env d .lan
    else (lanSection env d .lan length).next fun c => wanLateSection env c .lan length) = _
  have hnext : ((lanSection env d .lan length).next fun c => wanLateSection env c .lan length) =
      lanSection env d .lan length := by
    rcases Flow.next_cases (lanSection env d .lan length)
      (fun c => wanLateSection env c .lan length) with h | ⟨hn, h⟩
    · exact h
    · rw [h, wanLateSection_lan, ← hn]
  rw [hnext]

/-- **The effect of a frame from the LAN.** The sessions stay, up to time stamps, or the frame opens
one session, for itself. -/
theorem processFrame_lan (env : Env) (s : NetState) (f : Frame) (length : ℕ) :
    LanEffect ⟨s, f, []⟩ (netDemoProcessFrame env s .lan f length).1 := by
  unfold netDemoProcessFrame
  simp only
  split_ifs with h₁ h₂ h₃
  · exact (Effect.refl (fun _ => False) _).lanEffect
  · exact (effect_processArp env _ .lan length).lanEffect
  · unfold processIpv4
    split_ifs
    · exact (Effect.refl (fun _ => False) _).lanEffect
    · exact (Effect.refl (fun _ => False) _).lanEffect
    · simp only
      rw [processIpv4_lan_sections]
      -- learning the source address changes neither sessions nor configuration
      set d : Proc := ⟨{ s with
        nat := arpCacheAdd s.nat (env.tick 0) (ipSrc f) (ethSrc f) }, f, []⟩ with hd
      have hsec : LanEffect d
          (if isForUs d .lan then localSection env d .lan else lanSection env d .lan length).1 := by
        split_ifs
        · exact (effect_localSection env d .lan).lanEffect
        · exact lanEffect_lanSection env d length h₃
      exact ⟨(sameConfig_nat rfl : SameConfig s d.net).trans hsec.1, hsec.2⟩
  · exact (Effect.refl (fun _ => False) _).lanEffect

/-! ## The operations -/

/-- The configuration never changes. -/
theorem configured_netStep {s : NetState} (op : NetOp) (hs : Configured s) :
    Configured (netStep s op) := by
  cases op with
  | frame env id f length =>
    cases id with
    | lan => exact hs.of_sameConfig (processFrame_lan env s f length).1
    | wan => exact hs.of_sameConfig (processFrame_wan env hs f length).config
  | cleanup t =>
    exact hs.of_sameConfig (sameConfig_nat (natCleanupExpired_sweeps s.nat t).cfg)

/-- The devices never change. -/
theorem devices_netStep {s : NetState} (op : NetOp) (hs : Configured s) :
    (netStep s op).lanIf.dev = s.lanIf.dev ∧ (netStep s op).wanIf.dev = s.wanIf.dev := by
  cases op with
  | frame env id f length =>
    cases id with
    | lan =>
      have h := (processFrame_lan env s f length).1
      exact ⟨h.lanDev, h.wanDev⟩
    | wan =>
      have h := (processFrame_wan env hs f length).config
      exact ⟨h.lanDev, h.wanDev⟩
  | cleanup t => exact ⟨rfl, rfl⟩

/-- The configuration after `nat_init` agrees. -/
lemma configured_netInit (lanDev wanDev : Option VirtioNetDev) :
    Configured (netInit lanDev wanDev) := ⟨rfl, rfl, rfl⟩

end Gateway
