import UcosArm64.Gateway.RoundTrip

set_option relaxedAutoImplicit false
set_option autoImplicit false

/-!
# No unsolicited packet reaches the LAN

Runs of frames from both sides and of cleanups, from `nat_init`. Every active session goes back to
a frame from the LAN that was assigned its WAN port, and it has been in its slot since. Hence
whatever a frame from the WAN makes the gateway send to the LAN answers such a frame.

A packet is what its header fields say, and a header field is what the buffer holds at its place.

## Main definitions

* `Gateway.HoldsSession` — a slot holds an active session with given fields.
* `Gateway.Origin` — the frame to which a session goes back.

## Main results

* `Gateway.origin_run` — every active session of a reachable state has an origin.
* `Gateway.lan_delivery_origin` — every packet delivered to the LAN answers an earlier request.
-/

namespace Gateway

open Transition

/-- The slot `i` holds an active session with the fields of `e`, up to the time stamp. -/
def HoldsSession (s : NatState) (i : Fin natTableSize) (e : NatEntry) : Prop :=
  (s.natTable i).active = true ∧ ∃ now, s.natTable i = e.touch now

/-- The frame `f` is the request of the session `e`: an ICMP echo request, or a TCP or UDP packet,
with the protocol and the two endpoints of the session. -/
structure RequestOf (f : Frame) (e : NatEntry) : Prop where
  request : IsRequest f
  protocol : ipProtocol f = e.protocol
  lanIp : ipSrc f = e.lanIp
  lanPort : outPort f = e.lanPort
  dstIp : ipDst f = e.dstIp
  dstPort : outDstPort f = e.dstPort

/-- The record that `nat_translate_outbound` assigned the WAN port of the session. -/
def NatEntry.assignment (e : NatEntry) : NetEvent :=
  .assigned e.protocol e.lanIp e.lanPort e.dstIp e.dstPort e.wanPort

/-- **Origins.** One of the operations was the frame from the LAN that is the request of the session
`e`; its processing was assigned the WAN port of the session; and the slot `i` has held the session
after every operation since. -/
def Origin (s₀ : NetState) (ops : List NetOp) (i : Fin natTableSize) (e : NatEntry) : Prop :=
  ∃ pre env f length post, ops = pre ++ .frame env .lan f length :: post ∧ RequestOf f e ∧
    e.assignment ∈ netLog (run netStep s₀ pre) (.frame env .lan f length) ∧
    ∀ mid, mid <+: post →
      HoldsSession (run netStep s₀ (pre ++ .frame env .lan f length :: mid)).nat i e

/-- The sessions after a cleanup. -/
lemma netStep_cleanup_nat (s : NetState) (t : UInt32) :
    (netStep s (.cleanup t)).nat = (natCleanupExpired s.nat t).1 := by
  simp only [netStep]

/-- A session that is active after an operation was active before, or the operation is the frame
that opened it. -/
lemma netStep_session {s : NetState} (hs : Configured s) (op : NetOp) {i : Fin natTableSize}
    (hi : Live (netStep s op).nat i) :
    (Live s.nat i ∧ ∃ now, (netStep s op).nat.natTable i = (s.nat.natTable i).touch now) ∨
      ∃ env f length, op = .frame env .lan f length ∧
        RequestOf f ((netStep s op).nat.natTable i) ∧
        ((netStep s op).nat.natTable i).assignment ∈ netLog s op := by
  have hkeep : KeepsSessions s.nat (netStep s op).nat →
      Live s.nat i ∧ ∃ now, (netStep s op).nat.natTable i = (s.nat.natTable i).touch now := by
    intro h
    obtain ⟨now, hnow⟩ := h i
    refine ⟨?_, now, hnow⟩
    unfold Live at hi ⊢
    rw [hnow] at hi
    exact hi
  cases op with
  | frame env id f length =>
    cases id with
    | wan => exact Or.inl (hkeep (processFrame_wan env hs f length).sessions)
    | lan =>
      rcases (processFrame_lan env s f length).2 with h | ⟨hreq, j, e, hfree, htable, -, hp, hip,
        hport, hdip, hdport, hlog⟩
      · exact Or.inl (hkeep h)
      · have htable' : (netStep s (.frame env .lan f length)).nat.natTable =
            Function.update s.nat.natTable j e := htable
        by_cases hij : i = j
        · refine Or.inr ⟨env, f, length, rfl, ?_⟩
          rw [htable', hij, Function.update_self]
          exact ⟨⟨hreq, hp.symm, hip.symm, hport.symm, hdip.symm, hdport.symm⟩, hlog⟩
        · unfold Live at hi ⊢
          rw [htable', Function.update_of_ne hij] at hi ⊢
          exact Or.inl ⟨hi, (s.nat.natTable i).lastActivity, rfl⟩
  | cleanup t =>
    have h := natCleanupExpired_sweeps s.nat t
    rw [netStep_cleanup_nat] at hi ⊢
    obtain ⟨hlive, hdies⟩ := (h.live_iff i).mp hi
    refine Or.inl ⟨hlive, (s.nat.natTable i).lastActivity, ?_⟩
    rw [h.entry, NatEntry.sweep, if_neg hdies]
    rfl

/-- An origin stays one while the session stays. -/
lemma Origin.extend {s₀ : NetState} {ops : List NetOp} {i : Fin natTableSize} {e : NatEntry}
    (h : Origin s₀ ops i e) {op : NetOp}
    (hold : HoldsSession (run netStep s₀ (ops ++ [op])).nat i e) :
    Origin s₀ (ops ++ [op]) i e := by
  obtain ⟨pre, env, f, length, post, rfl, hreq, hlog, hsince⟩ := h
  refine ⟨pre, env, f, length, post ++ [op], by simp, hreq, hlog, fun mid hmid => ?_⟩
  rcases List.prefix_concat_iff.mp hmid with rfl | hmid
  · simpa using hold
  · exact hsince mid hmid

/-- The fields of a session do not depend on its time stamp. -/
lemma Origin.touch {s₀ : NetState} {ops : List NetOp} {i : Fin natTableSize} {e : NatEntry}
    (h : Origin s₀ ops i e) (now : UInt32) : Origin s₀ ops i (e.touch now) := by
  obtain ⟨pre, env, f, length, post, hops, hreq, hlog, hsince⟩ := h
  refine ⟨pre, env, f, length, post, hops, ⟨hreq.request, hreq.protocol, hreq.lanIp, hreq.lanPort,
    hreq.dstIp, hreq.dstPort⟩, hlog, fun mid hmid => ?_⟩
  obtain ⟨hactive, t, ht⟩ := hsince mid hmid
  exact ⟨hactive, t, ht⟩

/-- **Every active session has an origin.**

**Proof sketch.** By induction on the run. The last operation opened the session, and is its
origin; or the session was active before it, and its origin is still one (`Origin.extend`). -/
theorem origin_run (lanDev wanDev : Option VirtioNetDev) (ops : List NetOp) :
    Configured (run netStep (netInit lanDev wanDev) ops) ∧
      ∀ i, Live (run netStep (netInit lanDev wanDev) ops).nat i →
        Origin (netInit lanDev wanDev) ops i
          ((run netStep (netInit lanDev wanDev) ops).nat.natTable i) := by
  refine run_history (R := fun ops s => Configured s ∧ ∀ i, Live s.nat i →
    Origin (netInit lanDev wanDev) ops i (s.nat.natTable i)) ?_ ?_ ops
  · refine ⟨configured_netInit lanDev wanDev, fun i hi => ?_⟩
    simp [Live, netInit, natInit, NatEntry.zero] at hi
  · rintro as op ⟨hcfg, horigin⟩
    set s := run netStep (netInit lanDev wanDev) as with hs
    refine ⟨configured_netStep op hcfg, fun i hi => ?_⟩
    have hrun : run netStep (netInit lanDev wanDev) (as ++ [op]) = netStep s op := by
      rw [run_append, ← hs, run_cons, run_nil]
    rcases netStep_session hcfg op hi with ⟨hlive, now, hnow⟩ | ⟨env, f, length, rfl, hreq, hlog⟩
    · rw [hnow]
      refine (horigin i hlive |>.touch now).extend ?_
      rw [hrun]
      exact ⟨hi, now, hnow⟩
    · refine ⟨as, env, f, length, [], by simp, hreq, hlog, fun mid hmid => ?_⟩
      obtain rfl : mid = [] := by simpa using hmid
      rw [hrun]
      exact ⟨hi, _, rfl⟩

/-- **No unsolicited packet reaches the LAN.** Let a run of frames and cleanups from `nat_init` be
followed by a frame `f` from the WAN whose processing hands a packet `g` to the LAN device. Then an
earlier operation of the run was a frame `r` from the LAN: an ICMP echo request, or a TCP or UDP
packet, of the protocol of `f`, from the LAN address and port (or identifier) to which `g` is
addressed, to the source address and port of `f`; its processing was assigned by
`nat_translate_outbound` the WAN port (or identifier) to which `f` is addressed; and the session
has been in the table after every operation since.

**Proof sketch.** What is sent to the LAN belongs to an active session (`processFrame_wan`), and
that has an origin (`origin_run`). -/
theorem lan_delivery_origin (lanDev wanDev : Option VirtioNetDev) (ops : List NetOp) (env : Env)
    (f : Frame) (length : ℕ) (g : Frame) (n : ℕ)
    (h : NetEvent.tx .lan g n ∈
      netLog (run netStep (netInit lanDev wanDev) ops) (.frame env .wan f length)) :
    ∃ pre env' r length' post, ops = pre ++ .frame env' .lan r length' :: post ∧
      ethType r = 0x0800 ∧
      ((ipProtocol r = 1 ∧ icmpType r = 8) ∨ ipProtocol r = 6 ∨ ipProtocol r = 17) ∧
      ipProtocol r = ipProtocol f ∧
      ipSrc r = ipDst g ∧ outPort r = inPort g ∧ ipDst r = ipSrc f ∧ outDstPort r = inSrcPort f ∧
      NetEvent.assigned (ipProtocol f) (ipDst g) (inPort g) (ipSrc f) (inSrcPort f) (inPort f) ∈
        netLog (run netStep (netInit lanDev wanDev) pre) (.frame env' .lan r length') ∧
      ∃ i, ∀ mid, mid <+: post →
        let e := (run netStep (netInit lanDev wanDev)
          (pre ++ .frame env' .lan r length' :: mid)).nat.natTable i
        e.active = true ∧ e.protocol = ipProtocol f ∧ e.lanIp = ipDst g ∧ e.lanPort = inPort g ∧
          e.dstIp = ipSrc f ∧ e.dstPort = inSrcPort f ∧ e.wanPort = inPort f := by
  obtain ⟨hcfg, horigin⟩ := origin_run lanDev wanDev ops
  set s := run netStep (netInit lanDev wanDev) ops with hs
  have hevent := (processFrame_wan env hcfg f length).events _ h
  obtain ⟨i, hmatch, hip, hport⟩ : ∃ i, (s.nat.natTable i).matchesIn (ipProtocol f) (inPort f)
      (ipSrc f) (inSrcPort f) = true ∧ ipDst g = (s.nat.natTable i).lanIp ∧
      inPort g = (s.nat.natTable i).lanPort := by
    rcases hevent with hnil | ⟨_, _, hwan⟩ | ⟨i, g', n', heq, hmatch, hip, hport⟩
    · exact absurd hnil List.not_mem_nil
    · cases hwan
    · cases heq
      exact ⟨i, hmatch, hip, hport⟩
  obtain ⟨hactive, hproto, hwan, hsrc, hsport⟩ := (NatEntry.matchesIn_iff _ _ _ _ _).mp hmatch
  obtain ⟨pre, env', r, length', post, hops, hreq, hlog, hsince⟩ := horigin i hactive
  refine ⟨pre, env', r, length', post, hops, hreq.request.ipv4, hreq.request.kind,
    hreq.protocol.trans hproto, hreq.lanIp.trans hip.symm, hreq.lanPort.trans hport.symm,
    hreq.dstIp.trans hsrc, hreq.dstPort.trans hsport, ?_, i, fun mid hmid => ?_⟩
  · rw [NatEntry.assignment, hproto, ← hip, ← hport, hsrc, hsport, hwan] at hlog
    exact hlog
  · obtain ⟨ha, now, hnow⟩ := hsince mid hmid
    simp only
    rw [hnow] at ha ⊢
    exact ⟨ha, hproto, hip.symm, hport.symm, hsrc, hsport, hwan⟩

/-- The answer to a DNS query goes back to the query. -/
theorem lan_delivery_origin_dns : ∃ g, NetEvent.tx .lan g 42 ∈
      netLog (run netStep demoInit [learnOp, .frame quietEnv .lan dnsQuery 42])
        (.frame quietEnv .wan dnsAnswer 42) ∧
    ∃ pre env r length post, [learnOp, .frame quietEnv .lan dnsQuery 42] =
      pre ++ .frame env .lan r length :: post ∧ ipSrc r = ipDst g ∧ outPort r = inPort g := by
  obtain ⟨g, h⟩ := exchange_dns
  obtain ⟨hlan, hwan⟩ := devices_netStep learnOp configured_demoInit
  obtain ⟨g', hlog, -⟩ := h.delivered configured_learnOp hlan hwan quietEnv
  have hsent : NetEvent.tx .lan g' 42 ∈ netLog (run netStep demoInit
      [learnOp, .frame quietEnv .lan dnsQuery 42]) (.frame quietEnv .wan dnsAnswer 42) := by
    rw [run_cons, run_cons, run_nil, hlog]
    exact List.mem_singleton_self _
  obtain ⟨pre, env, r, length, post, hops, -, -, -, hip, hport, -⟩ := lan_delivery_origin
    (some demoLanDev) (some demoWanDev) [learnOp, .frame quietEnv .lan dnsQuery 42] quietEnv
    dnsAnswer 42 g' 42 hsent
  exact ⟨g', hsent, pre, env, r, length, post, hops, hip, hport⟩

end Gateway
