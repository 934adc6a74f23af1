import UcosArm64.Gateway.Forwarding
import UcosArm64.Gateway.NatContract

set_option relaxedAutoImplicit false
set_option autoImplicit false

/-!
# Traffic that stays in the LAN

A frame from the LAN whose destination is in the LAN as well is not for the outside. The gateway
decides to translate a packet because it is not for itself and comes from the LAN; it never tests
whether the destination is outside. So it takes up a packet from one LAN host to another, or to the
broadcast address, like any other.

## Main definitions

* `Gateway.StaysLocal` — nothing is sent to the WAN, and no session is opened or refreshed.
* `Gateway.LeaksOut` — the packets that are taken up, in terms of their headers and the state.

## Main results

* `Gateway.staysLocal_iff_not_leaksOut` — a frame to the LAN subnet stays local exactly if it is
  none of these.
* `Gateway.not_staysLocal_neighbour` — a packet from one LAN host to another opens a session.
-/

namespace Gateway

open Transition

/-! ## The property and the condition -/

/-- A frame from the LAN has nothing sent to the WAN, and opens or refreshes no session. -/
structure StaysLocal (env : Env) (s : NetState) (f : Frame) (n : ℕ) : Prop where
  silent : ∀ g m, NetEvent.tx .wan g m ∉ netLog s (.frame env .lan f n)
  unassigned : ∀ protocol lanIp lanPort dstIp dstPort wanPort,
    NetEvent.assigned protocol lanIp lanPort dstIp dstPort wanPort ∉ netLog s (.frame env .lan f n)
  table : (netStep s (.frame env .lan f n)).nat.natTable = s.nat.natTable

/-- An echo request, or a TCP or UDP packet, from a LAN host to another address than the gateway's,
while there is a WAN device, and a session for it or a free entry. -/
structure LeaksOut (s : NetState) (f : Frame) (n : ℕ) : Prop where
  ipv4 : IsIpv4 f n
  transport : HasTransport f
  request : ipProtocol f = 1 → icmpType f = 8
  fromLan : natIsLanIp natCfgInit (ipSrc f) = true
  notUs : ipDst f ≠ natCfgInit.lanIp
  device : s.wanIf.dev.isSome = true
  room : (∃ j, (s.nat.natTable j).matchesOut (ipProtocol f) (ipSrc f) (outPort f) (ipDst f)
    (outDstPort f) = true) ∨ ∃ j, (s.nat.natTable j).active = false

/-! ## Packets that are taken up -/

section Taken

variable {env : Env} {s : NetState} {f : Frame} {n : ℕ}

/-- A packet to the LAN subnet is not for the WAN address. -/
lemma ipDst_ne_wanIp (h : natIsLanIp natCfgInit (ipDst f) = true) : ipDst f ≠ natCfgInit.wanIp := by
  intro hd
  rw [hd] at h
  exact absurd h (by decide)

/-- The packets to the LAN subnet that are to be translated. -/
lemma verdict_lan_eq_outbound_iff (hd : natIsLanIp natCfgInit (ipDst f) = true) :
    verdict .lan f = .outbound ↔ HasTransport f ∧ (ipProtocol f = 1 → icmpType f = 8) ∧
      natIsLanIp natCfgInit (ipSrc f) = true ∧ ipDst f ≠ natCfgInit.lanIp := by
  have hwan := ipDst_ne_wanIp hd
  by_cases ht : HasTransport f
  · rw [verdict_lan ht]
    simp only [lanVerdict, hwan, or_false, ht, true_and]
    split_ifs with h₁ h₂ h₃ h₄
    · simp [h₁]
    · simp [h₁]
    · simp [h₄]
    · have h8 : ipProtocol f = 1 → icmpType f = 8 := fun h => not_not.mp fun h8 => h₄ ⟨h, h8⟩
      exact ⟨fun _ => ⟨h8, h₃, h₁⟩, fun _ => rfl⟩
    · simp [h₃]
  · rw [verdict_of_not ht]
    simp [ht]

/-- **A packet that is taken up gets a WAN port**, whatever becomes of it then. -/
lemma LeaksOut.assigned (hs : Configured s) (env : Env) (h : LeaksOut s f n)
    (hd : natIsLanIp natCfgInit (ipDst f) = true) :
    ∃ p, NetEvent.assigned (ipProtocol f) (ipSrc f) (outPort f) (ipDst f) (outDstPort f) p ∈
      netLog s (.frame env .lan f n) := by
  have hv := (verdict_lan_eq_outbound_iff hd).mpr ⟨h.transport, h.request, h.fromLan, h.notUs⟩
  have hdev : (learnt env s f).net.wanIf.dev.isSome = true := h.device
  obtain ⟨p, hp⟩ : ∃ p, (natTranslateOutbound (learnt env s f).net.nat (env.tick 1) (ipProtocol f)
      (ipSrc f) (outPort f) (ipDst f) (outDstPort f)).2 = some p :=
    Option.ne_none_iff_exists'.mp (natTranslateOutbound_ne_none_iff_exists.mpr h.room)
  refine ⟨p, ?_⟩
  rw [netLog, processFrame_ipv4 env hs .lan h.ipv4, hv, Verdict.run, if_pos hdev]
  exact (natOutbound_effect (learnt env s f) (env.tick 1) n (ipProtocol f) (outPort f)
    (outDstPort f)
    (outMiss (ipProtocol f)) (translated .lan (ipProtocol f) natCfgInit.wanIp)
    (outMiss_keeps _)).2 p hp

/-! ## Packets that stay -/

/-- A frame that is no IPv4 packet leaves the sessions as they are. -/
lemma natTable_of_not_ipv4 (env : Env) (s : NetState) (id : IfId) (h4 : ¬IsIpv4 f n) :
    (netStep s (.frame env id f n)).nat.natTable = s.nat.natTable := by
  rw [netStep, processFrame_of_not_ipv4 env s id h4]
  unfold processArp
  simp only
  split_ifs
  · rfl
  · rw [sendArpReply, sendFrame_net]
  · cases id <;> rfl
  · rfl
  · rfl

/-- An outbound packet for which there is neither a session nor a free entry is dropped. -/
lemma natOutbound_dropped {c : Proc} {now : UInt32} {protocol : UInt8} {lanPort dstPort : UInt16}
    (length : ℕ) (miss : Proc → Proc) (rewrite : UInt16 → Frame → Frame)
    (h : (natTranslateOutbound c.net.nat now protocol (ipSrc c.frame) lanPort (ipDst c.frame)
      dstPort).2 = none) :
    (natOutbound c now length protocol lanPort dstPort miss rewrite).1.log = c.log ∧
      (natOutbound c now length protocol lanPort dstPort miss rewrite).1.net.nat.natTable =
        c.net.nat.natTable := by
  rcases natOutbound_cases c now length protocol lanPort dstPort miss rewrite with
    ⟨-, hr⟩ | ⟨p, d, hp, -⟩
  · obtain ⟨hfind, halloc⟩ := natTranslateOutbound_eq_none_iff.mp h
    rw [hr, natTranslateOutbound_of_full now hfind halloc]
    exact ⟨rfl, rfl⟩
  · rw [hp] at h
    cases h

/-- The events of a frame from the LAN and its sessions, if it meets another verdict than
translation or is dropped there: at most an answer to the LAN. -/
lemma run_lan_of_not_assigned (env : Env) (c : Proc) (n : ℕ) {v : Verdict} (hv : v ≠ .inbound)
    (h : v = .outbound → c.net.wanIf.dev.isSome = true →
      (natTranslateOutbound c.net.nat (env.tick 1)
      (ipProtocol c.frame) (ipSrc c.frame) (outPort c.frame) (ipDst c.frame)
      (outDstPort c.frame)).2 = none) :
    (∀ e ∈ (v.run env c .lan n).log, e ∈ c.log ∨ SendsTo .lan e) ∧
      (v.run env c .lan n).net.nat.natTable = c.net.nat.natTable := by
  cases v with
  | drop => exact ⟨fun _ he => Or.inl he, rfl⟩
  | echo =>
    refine ⟨(effect_sendIcmpEchoReply env c .lan _).events, ?_⟩
    rw [Verdict.run, sendIcmpEchoReply_net]
  | inbound => exact absurd rfl hv
  | outbound =>
    rw [Verdict.run]
    split_ifs with hdev
    · obtain ⟨hlog, htable⟩ := natOutbound_dropped n (outMiss (ipProtocol c.frame))
        (translated .lan (ipProtocol c.frame) natCfgInit.wanIp) (h rfl hdev)
      refine ⟨fun e he => Or.inl ?_, htable⟩
      rw [runOutbound, hlog] at he
      exact he
    · exact ⟨fun _ he => Or.inl he, rfl⟩

/-- **A frame to the LAN subnet that is not taken up stays local.** -/
lemma staysLocal_of_not_leaksOut (hs : Configured s) (env : Env)
    (hd : natIsLanIp natCfgInit (ipDst f) = true) (h : ¬LeaksOut s f n) : StaysLocal env s f n := by
  have hlocal : (∀ e ∈ netLog s (.frame env .lan f n), SendsTo .lan e) ∧
      (netStep s (.frame env .lan f n)).nat.natTable = s.nat.natTable := by
    by_cases h4 : IsIpv4 f n
    swap
    · exact ⟨fun e he => sendsTo_of_not_ipv4 h4 he, natTable_of_not_ipv4 env s .lan h4⟩
    have hv := verdict_lan_ne_inbound f
    obtain ⟨hlog, htable⟩ := run_lan_of_not_assigned env (learnt env s f) n hv fun hout hdev => by
        by_contra hsome
        obtain ⟨ht, h8, hsrc, hus⟩ := (verdict_lan_eq_outbound_iff hd).mp hout
        have hroom := natTranslateOutbound_ne_none_iff_exists.mp hsome
        exact h ⟨h4, ht, h8, hsrc, hus, hdev, hroom⟩
    rw [netLog, netStep, processFrame_ipv4 env hs .lan h4]
    refine ⟨fun e he => (hlog e he).resolve_left List.not_mem_nil, htable⟩
  refine ⟨fun g m hg => ?_, fun protocol lanIp lanPort dstIp dstPort wanPort hg => ?_, hlocal.2⟩
  · obtain ⟨g', m', he⟩ := hlocal.1 _ hg
    cases he
  · obtain ⟨g', m', he⟩ := hlocal.1 _ hg
    cases he

end Taken

/-- **When traffic to the LAN stays there.** In every reachable state, for every frame received on
the LAN interface whose destination is in the LAN subnet: nothing is sent to the WAN and no session
is opened or refreshed, exactly if the frame is not one that the gateway takes up. -/
theorem staysLocal_iff_not_leaksOut (lanDev wanDev : Option VirtioNetDev)
    (ops : List NetOp) (env : Env)
    (f : Frame) (n : ℕ) (hd : natIsLanIp natCfgInit (ipDst f) = true) :
    StaysLocal env (run netStep (netInit lanDev wanDev) ops) f n ↔
      ¬LeaksOut (run netStep (netInit lanDev wanDev) ops) f n := by
  obtain ⟨hs, -, -⟩ := devices_run lanDev wanDev ops
  constructor
  · intro h hleak
    obtain ⟨p, hp⟩ := hleak.assigned hs env hd
    exact h.unassigned _ _ _ _ _ _ hp
  · exact staysLocal_of_not_leaksOut hs env hd

/-! ### A packet to a neighbour -/

/-- An empty UDP packet from 192.168.1.10, port 1000, to 192.168.1.103, port 53. -/
def neighbourPacket : Frame := frameOf [
  0x52, 0x54, 0, 0, 0, 1, 2, 0, 0, 0, 0, 16, 8, 0,
  0x45, 0, 0, 28, 0, 0, 0, 0, 64, 17, 0, 0, 192, 168, 1, 10, 192, 168, 1, 103,
  3, 232, 0, 53, 0, 8, 0, 0]

/-- The packet to the neighbour, in the first state. -/
theorem staysLocal_iff_not_leaksOut_neighbour :
    StaysLocal quietEnv (run netStep demoInit []) neighbourPacket 42 ↔
      ¬LeaksOut (run netStep demoInit []) neighbourPacket 42 :=
  staysLocal_iff_not_leaksOut (some demoLanDev) (some demoWanDev) [] quietEnv neighbourPacket 42
    (by decide)

/-- **A packet from one LAN host to another opens a session.** -/
theorem not_staysLocal_neighbour :
    ¬∀ lanDev wanDev ops env f n, natIsLanIp natCfgInit (ipDst f) = true →
      StaysLocal env (run netStep (netInit lanDev wanDev) ops) f n := by
  intro hall
  have hd : natIsLanIp natCfgInit (ipDst neighbourPacket) = true := by decide
  have hleak : LeaksOut demoInit neighbourPacket 42 := by
    refine ⟨⟨by decide, by decide, by decide, by decide⟩, by decide, fun h => absurd h (by decide),
      by decide, by decide, rfl, Or.inr ⟨⟨0, by decide⟩, rfl⟩⟩
  obtain ⟨p, hp⟩ := hleak.assigned configured_demoInit quietEnv hd
  have hlocal := hall (some demoLanDev) (some demoWanDev) [] quietEnv neighbourPacket 42 hd
  exact hlocal.unassigned _ _ _ _ _ _ hp

end Gateway
