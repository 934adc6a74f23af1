import UcosArm64.Gateway.LocalTraffic

set_option relaxedAutoImplicit false
set_option autoImplicit false

/-!
# Asking for the next hop

A packet that leaves by the WAN needs the Ethernet address of its destination. If the ARP cache
does not have it, the packet is lost, and what can save a retransmission is an ARP request. The
block for TCP and UDP sends one; the block for ICMP, a copy of the same code, does not.

## Main definitions

* `Gateway.AcceptedOut` — the packet is taken up by an outbound block and gets a WAN port.
* `Gateway.Unresolved` — the ARP cache has no Ethernet address for its destination.
* `Gateway.AsksNextHop` — the gateway asks for that address, once.

## Main results

* `Gateway.asksNextHop_run_iff` — the gateway asks exactly for TCP and UDP packets that fit into a
  frame.
* `Gateway.not_asksNextHop_ping` — it does not ask for the destination of an echo request.
-/

namespace Gateway

open Transition

/-! ## The property -/

/-- An IPv4 packet from the LAN that is taken up by an outbound block, and whose translation
succeeds. -/
structure AcceptedOut (env : Env) (s : NetState) (f : Frame) (n : ℕ) : Prop where
  ipv4 : IsIpv4 f n
  outbound : verdict .lan f = .outbound
  device : s.wanIf.dev.isSome = true
  translated : (natTranslateOutbound (learnt env s f).net.nat (env.tick 1) (ipProtocol f) (ipSrc f)
    (outPort f) (ipDst f) (outDstPort f)).2 ≠ none

/-- `arp_cache_lookup` has no Ethernet address for the destination. -/
def Unresolved (env : Env) (s : NetState) (f : Frame) : Prop :=
  arpCacheLookup (learnt env s f).net.nat (ipDst f) = none

instance (env : Env) (s : NetState) (f : Frame) : Decidable (Unresolved env s f) :=
  inferInstanceAs (Decidable (_ = none))

/-- The event is an ARP request on the WAN for the address `ip`. -/
def NetEvent.asksFor (ip : Ip4) : NetEvent → Bool
  | .tx .wan g _ => ethType g = 0x0806 ∧ utilNtohs (rd16 g 20) = 1 ∧ rdIp g 38 = ip
  | _ => false

/-- The ARP request of an interface for the address `ip`. -/
def arpRequest (i : NetInterface) (ip : Ip4) : Frame :=
  arpFrame ⟨0xFF, 0xFF, 0xFF, 0xFF, 0xFF, 0xFF⟩ i.mac 1 i.mac i.localIp ⟨0, 0, 0, 0, 0, 0⟩ ip

/-- For the frame from the LAN, exactly one ARP request for its destination is sent to the WAN, and
it is the one of the WAN interface. -/
structure AsksNextHop (env : Env) (s : NetState) (f : Frame) (n : ℕ) : Prop where
  once : (netLog s (.frame env .lan f n)).countP (NetEvent.asksFor (ipDst f)) = 1
  request : NetEvent.tx .wan (arpRequest s.wanIf (ipDst f)) 42 ∈ netLog s (.frame env .lan f n)

/-! ## ARP requests -/

/-- The operation of an ARP frame. -/
lemma oper_arpFrame (dest src : Mac) (oper : UInt16) (sha : Mac) (spa : Ip4)
    (tha : Mac) (tpa : Ip4) :
    utilNtohs (rd16 (arpFrame dest src oper sha spa tha tpa) 20) = oper := by
  unfold arpFrame
  simp only
  rw [rd16_congr (g := wr16 (fun _ => 0) 20 (utilHtons oper)), rd16_wr16, utilNtohs_utilHtons]
  all_goals
    rw [wrIp_of_ne _ _ (by omega), wrMac_of_ne _ _ (by omega), wrIp_of_ne _ _ (by omega),
      wrMac_of_ne _ _ (by omega)]
    simp

/-- The request of an interface asks for its address. -/
lemma asksFor_arpRequest (i : NetInterface) (ip : Ip4) (n : ℕ) :
    (NetEvent.tx .wan (arpRequest i ip) n).asksFor ip = true := by
  have hip : rdIp (arpRequest i ip) 38 = ip := rdIp_wrIp _ 38 ip
  have htype : ethType (arpRequest i ip) = 0x0806 := ethType_arpFrame _ _ _ _ _ _ _
  have hoper : utilNtohs (rd16 (arpRequest i ip) 20) = 1 := oper_arpFrame _ _ _ _ _ _ _
  exact decide_eq_true ⟨htype, hoper, hip⟩

/-- `send_arp_request_for_ip` sends one request. -/
lemma sendArpRequestForIp_log {c : Proc} (ip : Ip4) (hdev : c.net.wanIf.dev.isSome = true) :
    (sendArpRequestForIp c .wan ip).log = c.log ++ [.tx .wan (arpRequest c.net.wanIf ip) 42] := by
  have hdev' : (c.net.iface .wan).dev.isSome = true := hdev
  rw [sendArpRequestForIp, sendFrame_eq _ hdev' (by decide) (by decide)]
  rfl

/-! ## What is sent for a packet without a next hop -/

section Unresolved

variable {env : Env} {s : NetState} {f : Frame} {n : ℕ}

/-- The events of an accepted packet without a next hop: the assignment of its port, and the
request if the packet fits into a frame and is no echo request. -/
lemma netLog_unresolved (hs : Configured s) (ha : AcceptedOut env s f n) (hu : Unresolved env s f) :
    ∃ p, netLog s (.frame env .lan f n) =
      .assigned (ipProtocol f) (ipSrc f) (outPort f) (ipDst f) (outDstPort f) p ::
        if ipProtocol f ≠ 1 ∧ n ≤ virtioNetMaxFrameSize then
          [.tx .wan (arpRequest s.wanIf (ipDst f)) 42]
        else [] := by
  have hdev : (learnt env s f).net.wanIf.dev.isSome = true := ha.device
  have hlog : netLog s (.frame env .lan f n) = (runOutbound env (learnt env s f) n).1.log := by
    rw [netLog, processFrame_ipv4 env hs .lan ha.ipv4, ha.outbound, Verdict.run, if_pos hdev]
  rw [hlog, runOutbound, learnt_frame]
  rcases natOutbound_cases (learnt env s f) (env.tick 1) n (ipProtocol f) (outPort f) (outDstPort f)
    (outMiss (ipProtocol f)) (translated .lan (ipProtocol f) natCfgInit.wanIp) with
    ⟨hnone, -⟩ | ⟨p, d, -, hd, hr⟩
  · exact absurd hnone ha.translated
  refine ⟨p, ?_⟩
  rcases hr with ⟨hlong, hr⟩ | ⟨hn, -, hr⟩ | ⟨-, mac, g, hmac, -⟩
  · -- a frame that is too long passes the length test of neither block
    rw [hr, if_neg (fun h => absurd h.2 (not_le.mpr hlong)), hd]
    rfl
  · rw [hr, outMiss]
    by_cases h1 : ipProtocol f = 1
    · rw [if_pos h1, if_neg (fun h => h.1 h1), hd]
      rfl
    · have hdev' : d.net.wanIf.dev.isSome = true := by
        rw [hd]
        exact hdev
      -- the Ethernet source is rewritten already, the destination of the packet is not
      have hdst : ipDst (wrMac f 6 s.wanIf.mac) = ipDst f :=
        rdIp_congr fun k hk _ => wrMac_of_ne _ _ (by omega)
      show (if _ then _ else sendArpRequestForIp ⟨d.net, wrMac f 6 s.wanIf.mac, d.log⟩ .wan
        (ipDst (wrMac f 6 s.wanIf.mac))).log = _
      rw [if_neg h1, if_pos ⟨h1, hn⟩, hdst,
        sendArpRequestForIp_log (c := ⟨d.net, wrMac f 6 s.wanIf.mac, d.log⟩) _ hdev', hd]
      rfl
  · rw [learnt_frame] at hmac
    rw [Unresolved, hmac] at hu
    cases hu

/-- **When the gateway asks for the next hop.** -/
lemma asksNextHop_iff (hs : Configured s) (ha : AcceptedOut env s f n) (hu : Unresolved env s f) :
    AsksNextHop env s f n ↔ ipProtocol f ≠ 1 ∧ n ≤ virtioNetMaxFrameSize := by
  obtain ⟨p, hlog⟩ := netLog_unresolved hs ha hu
  have hassigned : (NetEvent.assigned (ipProtocol f) (ipSrc f) (outPort f) (ipDst f) (outDstPort f)
      p).asksFor (ipDst f) = false := rfl
  constructor
  · intro h
    by_contra hno
    have hreq := h.request
    rw [hlog, if_neg hno] at hreq
    simp at hreq
  · intro h
    rw [if_pos h] at hlog
    constructor
    · rw [hlog]
      simp [hassigned, asksFor_arpRequest]
    · rw [hlog]
      simp

end Unresolved

/-- **The gateway asks for the next hop of TCP and UDP packets, and of no others.** In every
reachable state, for every packet from the LAN that gets a WAN port while the ARP cache has no
Ethernet address for its destination: exactly one ARP request for the destination is sent to the
WAN, if and only if the packet is no ICMP packet and its frame has at most
`VIRTIO_NET_MAX_FRAME_SIZE` bytes.

**Proof sketch.** Both blocks test the length of the frame before anything is sent; the one for TCP
and UDP then sends the request, and the one for ICMP returns. -/
theorem asksNextHop_run_iff (lanDev wanDev : Option VirtioNetDev) (ops : List NetOp) (env : Env)
    (f : Frame) (n : ℕ) (ha : AcceptedOut env (run netStep (netInit lanDev wanDev) ops) f n)
    (hu : Unresolved env (run netStep (netInit lanDev wanDev) ops) f) :
    AsksNextHop env (run netStep (netInit lanDev wanDev) ops) f n ↔
      ipProtocol f ≠ 1 ∧ n ≤ virtioNetMaxFrameSize := by
  obtain ⟨hs, -, -⟩ := devices_run lanDev wanDev ops
  exact asksNextHop_iff hs ha hu

/-! ### Two packets to an unknown host -/

/-- A packet to the outside is accepted in the first state, which knows no host. -/
lemma acceptedOut_demoInit {f : Frame} {n : ℕ} (h4 : IsIpv4 f n) (hv : verdict .lan f = .outbound) :
    AcceptedOut quietEnv demoInit f n := by
  refine ⟨h4, hv, rfl, ?_⟩
  rw [natTranslateOutbound_ne_none_iff_exists]
  exact Or.inr ⟨⟨0, by decide⟩, rfl⟩

/-- The DNS query is accepted for the outside. -/
lemma acceptedOut_dnsQuery : AcceptedOut quietEnv (run netStep demoInit []) dnsQuery 42 :=
  acceptedOut_demoInit ⟨by decide, by decide, by decide, by decide⟩ (by decide)

/-- The DNS query in the first state: the gateway asks for 8.8.8.8. -/
theorem asksNextHop_run_iff_dns :
    AsksNextHop quietEnv (run netStep demoInit []) dnsQuery 42 ↔
      ipProtocol dnsQuery ≠ 1 ∧ 42 ≤ virtioNetMaxFrameSize :=
  asksNextHop_run_iff (some demoLanDev) (some demoWanDev) [] quietEnv dnsQuery 42
    acceptedOut_dnsQuery
    (by decide)

/-- An echo request from 192.168.1.10 to 8.8.8.8. -/
def outsidePing : Frame := frameOf [
  0x52, 0x54, 0, 0, 0, 1, 2, 0, 0, 0, 0, 16, 8, 0,
  0x45, 0, 0, 28, 0, 0, 0, 0, 64, 1, 0, 0, 192, 168, 1, 10, 8, 8, 8, 8, 8, 0, 0, 0, 0, 7, 0, 1]

/-- **An echo request is lost without a request for its next hop.** -/
theorem not_asksNextHop_ping :
    ¬∀ lanDev wanDev ops env f n, AcceptedOut env (run netStep (netInit lanDev wanDev) ops) f n →
      Unresolved env (run netStep (netInit lanDev wanDev) ops) f →
      AsksNextHop env (run netStep (netInit lanDev wanDev) ops) f n := by
  intro hall
  have ha : AcceptedOut quietEnv demoInit outsidePing 42 :=
    acceptedOut_demoInit ⟨by decide, by decide, by decide, by decide⟩ (by decide)
  have hu : Unresolved quietEnv demoInit outsidePing := by decide
  have hask := hall (some demoLanDev) (some demoWanDev) [] quietEnv outsidePing 42 ha hu
  exact ((asksNextHop_iff configured_demoInit ha hu).mp hask).1 (by decide)

end Gateway
