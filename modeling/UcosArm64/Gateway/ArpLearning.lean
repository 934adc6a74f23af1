import UcosArm64.Gateway.ArpMap
import UcosArm64.Gateway.Provenance
import UcosArm64.Gateway.Transmitted

set_option relaxedAutoImplicit false
set_option autoImplicit false

/-!
# What frames from the WAN teach

The gateway has one ARP cache for both sides. It learns the sender of every ARP reply and of every
IPv4 packet, whatever the interface the frame arrives on and whatever the address. So a frame from
the WAN can bind the address of a LAN host to another Ethernet address, and when all entries are in
use it can push a LAN host out. Nothing else that a frame does touches the cache.

## Main definitions

* `Gateway.Teaches` — the binding that a frame teaches.
* `Gateway.wanStep` — the gateway as a machine that receives frames from the WAN.
* `Gateway.Disturbs` — a frame from the WAN changes what is cached for an address.

## Main results

* `Gateway.arpTable_frame` — all that a frame does to the cache is to teach its binding.
* `Gateway.wanLookup_throughout_iff` — while frames arrive from the WAN, what is cached for an
  address stays the same exactly if none of them disturbs it.
* `Gateway.wanLookup_rebound` — a frame from the WAN rebinds a LAN host.
-/

namespace Gateway

open Transition

/-! ## Teaching -/

/-- The frame of `n` bytes is an ARP reply. -/
structure IsArpReply (f : Frame) (n : ℕ) : Prop where
  type : ethType f = 0x0806
  room : 42 ≤ n
  oper : utilNtohs (rd16 f 20) = 2

/-- The frame teaches that the address `ip` belongs to `mac`: it is an ARP reply with this sender,
or an IPv4 packet with these source addresses. -/
def Teaches (f : Frame) (n : ℕ) (ip : Ip4) (mac : Mac) : Prop :=
  IsArpReply f n ∧ ip = rdIp f 28 ∧ mac = rdMac f 22 ∨
    IsIpv4 f n ∧ ip = ipSrc f ∧ mac = ethSrc f

/-- A frame teaches one binding at most. -/
lemma Teaches.eq {f : Frame} {n : ℕ} {ip ip' : Ip4} {mac mac' : Mac} (h : Teaches f n ip mac)
    (h' : Teaches f n ip' mac') : ip = ip' ∧ mac = mac' := by
  rcases h with ⟨harp, rfl, rfl⟩ | ⟨h4, rfl, rfl⟩ <;>
    rcases h' with ⟨harp', rfl, rfl⟩ | ⟨h4', rfl, rfl⟩
  · exact ⟨rfl, rfl⟩
  · exact absurd (harp.type.symm.trans h4'.type) (by decide)
  · exact absurd (harp'.type.symm.trans h4.type) (by decide)
  · exact ⟨rfl, rfl⟩

/-- An inbound block leaves the cache alone. -/
lemma natInbound_arpTable (c : Proc) (now : UInt32) (n : ℕ) (protocol : UInt8)
    (wanPort srcPort : UInt16) (rewrite : Ip4 → UInt16 → Frame → Frame) :
    (natInbound c now n protocol wanPort srcPort rewrite).1.net.nat.arpTable =
      c.net.nat.arpTable := by
  obtain ⟨href, hnet, -⟩ := natInbound_cases c now n protocol wanPort srcPort rewrite
  rw [hnet]
  exact href.arp

/-- What is done for a verdict leaves the cache alone. -/
lemma run_arpTable (env : Env) (c : Proc) (id : IfId) (n : ℕ) (v : Verdict) :
    (v.run env c id n).net.nat.arpTable = c.net.nat.arpTable := by
  cases v with
  | drop => rfl
  | echo =>
    rw [Verdict.run, sendIcmpEchoReply_net]
  | inbound => exact natInbound_arpTable _ _ _ _ _ _ _
  | outbound =>
    rw [Verdict.run]
    split_ifs
    · rw [runOutbound, (natOutbound_effect c (env.tick 1) n (ipProtocol c.frame) (outPort c.frame)
        (outDstPort c.frame) _ _ (outMiss_keeps _)).1]
      exact natTranslateOutbound_arp _ _ _ _ _ _ _
    · rfl

/-- **All that a frame does to the cache** is to teach its binding, if it teaches one. -/
theorem arpTable_frame {s : NetState} (hs : Configured s) (env : Env) (id : IfId)
    (f : Frame) (n : ℕ) :
    ((∀ ip mac, ¬Teaches f n ip mac) ∧
        (netStep s (.frame env id f n)).nat.arpTable = s.nat.arpTable) ∨
      ∃ ip mac, Teaches f n ip mac ∧ (netStep s (.frame env id f n)).nat.arpTable =
        (arpCacheAdd s.nat (env.tick 0) ip mac).arpTable := by
  by_cases h4 : IsIpv4 f n
  · refine Or.inr ⟨ipSrc f, ethSrc f, Or.inr ⟨h4, rfl, rfl⟩, ?_⟩
    rw [netStep, processFrame_ipv4 env hs id h4, run_arpTable]
    rfl
  by_cases harp : IsArpReply f n
  · refine Or.inr ⟨rdIp f 28, rdMac f 22, Or.inl ⟨harp, rfl, rfl⟩, ?_⟩
    have hroom := harp.room
    rw [netStep, processFrame_of_not_ipv4 env s id h4, if_pos harp.type]
    unfold processArp
    simp only
    rw [if_neg (by omega), if_neg, if_pos harp.oper]
    · cases id <;> rfl
    · rw [harp.oper]
      exact fun h => absurd h.1 (by decide)
  · refine Or.inl ⟨?_, ?_⟩
    · rintro ip mac (⟨h, -⟩ | ⟨h, -⟩)
      · exact harp h
      · exact h4 h
    · rw [netStep, processFrame_of_not_ipv4 env s id h4]
      unfold processArp
      simp only
      split_ifs with htype hroom hrequest hreply
      · rfl
      · rw [sendArpReply, sendFrame_net]
      · exact absurd ⟨htype, not_lt.mp hroom, hreply⟩ harp
      · rfl
      · rfl

/-- **Distinct addresses in every reachable state.** -/
lemma arpDistinct_netStep {s : NetState} (hs : Configured s) (h : ArpDistinct s.nat) (op : NetOp) :
    ArpDistinct (netStep s op).nat := by
  have hcongr : ∀ {t t' : NatState}, t'.arpTable = t.arpTable → ArpDistinct t → ArpDistinct t' := by
    intro t t' htable ht i j
    rw [htable]
    exact ht i j
  cases op with
  | frame env id f n =>
    rcases arpTable_frame hs env id f n with ⟨-, htable⟩ | ⟨ip, mac, -, htable⟩
    · exact hcongr htable h
    · exact hcongr htable (h.add (env.tick 0) ip mac)
  | cleanup t =>
    rw [netStep_cleanup_nat]
    exact hcongr (natCleanupExpired_sweeps s.nat t).arp h

/-- The states of the gateway are configured and cache an address at most once. -/
lemma configured_arpDistinct_run (lanDev wanDev : Option VirtioNetDev) (ops : List NetOp) :
    Configured (run netStep (netInit lanDev wanDev) ops) ∧
      ArpDistinct (run netStep (netInit lanDev wanDev) ops).nat := by
  refine run_invariant (I := fun s : NetState => Configured s ∧ ArpDistinct s.nat) ?_ ?_ ops
  · rintro s op ⟨hcfg, hdistinct⟩
    exact ⟨configured_netStep op hcfg, arpDistinct_netStep hcfg hdistinct op⟩
  · exact ⟨configured_netInit lanDev wanDev, ArpEmpty.distinct fun _ => rfl⟩

/-! ## Frames from the WAN -/

/-- A frame that is received on the WAN interface. -/
structure WanFrame where
  env : Env
  frame : Frame
  length : ℕ

/-- The gateway receives a frame on the WAN interface. -/
def wanStep (s : NetState) (r : WanFrame) : NetState :=
  netStep s (.frame r.env .wan r.frame r.length)

/-- The frame teaches another Ethernet address for `ip`; or it teaches an address that is not
cached while all entries are in use, and the entry of `ip` is the one that is replaced. -/
def Disturbs (s : NatState) (r : WanFrame) (ip : Ip4) : Prop :=
  ∃ src mac, Teaches r.frame r.length src mac ∧
    (src = ip ∧ arpCacheLookup s ip ≠ some mac ∨
      src ≠ ip ∧ arpCacheLookup s src = none ∧ ArpFull s ∧
        (s.arpTable (arpSlot s (r.env.tick 0) src)).ip = ip)

/-- **What adding an entry changes for an address**: its own binding, or its place in a full
cache. -/
lemma ArpDistinct.lookup_add_eq_iff {s : NatState} (hs : ArpDistinct s) (t : UInt32) (src ip : Ip4)
    (mac : Mac) : arpCacheLookup (arpCacheAdd s t src mac) ip = arpCacheLookup s ip ↔
      ¬(src = ip ∧ arpCacheLookup s ip ≠ some mac ∨
        src ≠ ip ∧ arpCacheLookup s src = none ∧ ArpFull s ∧
        (s.arpTable (arpSlot s t src)).ip = ip) := by
  by_cases hsrc : src = ip
  · subst hsrc
    rw [arpCacheLookup_add_self]
    simp only [true_and, not_true_eq_false, ne_eq, false_and, or_false, not_not]
    exact eq_comm
  simp only [hsrc, false_and, ne_eq, not_false_eq_true, true_and, false_or]
  by_cases hroom : arpCacheLookup s src = none ∧ ArpFull s
  swap
  · have hkeep := arpCacheLookup_add_of_room t mac hroom hsrc
    exact ⟨fun _ h => hroom ⟨h.1, h.2.1⟩, fun _ => hkeep⟩
  obtain ⟨hnew, hfull⟩ := hroom
  by_cases hslot : (s.arpTable (arpSlot s t src)).ip = ip
  · have hfor : (s.arpTable (arpSlot s t src)).isFor ip = true := isFor_iff.mpr ⟨hfull _, hslot⟩
    rw [hs.lookup_add_victim mac hfor (Ne.symm hsrc), hs.lookup_of_isFor hfor]
    exact ⟨fun h => absurd h.symm (Option.some_ne_none _), fun h => absurd ⟨hnew, hfull, hslot⟩ h⟩
  · have hkeep := arpCacheLookup_add_of_ne_victim (t := t) mac hsrc hslot
    exact ⟨fun _ h => hslot h.2.2, fun _ => hkeep⟩

/-- One frame leaves what is cached for an address exactly if it does not disturb it. -/
lemma wanStep_lookup_iff {s : NetState} (hs : Configured s) (hd : ArpDistinct s.nat) (r : WanFrame)
    (ip : Ip4) : arpCacheLookup (wanStep s r).nat ip = arpCacheLookup s.nat ip ↔
      ¬Disturbs s.nat r ip := by
  rcases arpTable_frame hs r.env .wan r.frame r.length with ⟨hno, htable⟩ | ⟨src, mac, ht, htable⟩
  · rw [wanStep, arpCacheLookup_congr htable]
    exact ⟨fun _ ⟨_, _, h, _⟩ => hno _ _ h, fun _ => rfl⟩
  · rw [wanStep, arpCacheLookup_congr htable, hd.lookup_add_eq_iff]
    refine not_congr ⟨fun h => ⟨src, mac, ht, h⟩, ?_⟩
    rintro ⟨src', mac', ht', h⟩
    obtain ⟨rfl, rfl⟩ := ht'.eq ht
    exact h

/-- **When the WAN leaves the cache alone.** From every reachable state, while frames arrive on the
WAN interface only, the lookup of an address gives the same result all the time exactly if none of
the frames disturbs the address in the state in which it arrives. -/
theorem wanLookup_throughout_iff (lanDev wanDev : Option VirtioNetDev) (ops : List NetOp)
    (frames : List WanFrame) (ip : Ip4) :
    let s := run netStep (netInit lanDev wanDev) ops
    Throughout wanStep (fun t => arpCacheLookup t.nat ip = arpCacheLookup s.nat ip) s frames ↔
      EveryStep wanStep (fun t r => ¬Disturbs t.nat r ip) s frames := by
  intro s
  refine throughout_iff_everyStep (J := fun t => Configured t ∧ ArpDistinct t.nat)
    (I := fun t => arpCacheLookup t.nat ip = arpCacheLookup s.nat ip)
    (C := fun t r => ¬Disturbs t.nat r ip) ?_ ?_ (configured_arpDistinct_run lanDev wanDev ops) rfl
    frames
  · rintro t r ⟨hcfg, hd⟩
    exact ⟨configured_netStep _ hcfg, arpDistinct_netStep hcfg hd _⟩
  · rintro t r ⟨hcfg, hd⟩ hsame
    rw [← hsame]
    exact wanStep_lookup_iff hcfg hd r ip

/-! ### A spoofed source -/

/-- An IPv4 packet from 192.168.1.10, with another Ethernet address. -/
def spoofedPacket : Frame := frameOf [
  0x52, 0x54, 0, 0, 0, 2, 2, 0, 0, 0, 0, 99, 8, 0,
  0x45, 0, 0, 20, 0, 0, 0, 0, 64, 0, 0, 0, 192, 168, 1, 10, 10, 3, 5, 99]

/-- An IPv4 packet binds its source address, on either side. -/
lemma lookup_ipSrc {s : NetState} (hs : Configured s) (env : Env) (id : IfId) {f : Frame} {n : ℕ}
    (h4 : IsIpv4 f n) :
    arpCacheLookup (netStep s (.frame env id f n)).nat (ipSrc f) = some (ethSrc f) := by
  rw [netStep, processFrame_ipv4 env hs id h4,
    arpCacheLookup_congr (run_arpTable env (learnt env s f) id n (verdict id f))]
  exact arpCacheLookup_add_self _ _ _ _

/-- **A LAN host is rebound from the WAN.** 192.168.1.10 has sent a packet, and is in the cache. A
packet from the WAN with this source address binds it to another Ethernet address. -/
theorem wanLookup_rebound :
    ¬∀ lanDev wanDev ops frames ip, natIsLanIp natCfgInit ip = true →
      arpCacheLookup (run wanStep (run netStep (netInit lanDev wanDev) ops) frames).nat ip =
        arpCacheLookup (run netStep (netInit lanDev wanDev) ops).nat ip := by
  intro hall
  have hs : Configured (netStep demoInit (.frame quietEnv .lan dnsQuery 42)) :=
    configured_netStep _ configured_demoInit
  have hbefore := lookup_ipSrc configured_demoInit quietEnv .lan (f := dnsQuery) (n := 42)
    ⟨by decide, by decide, by decide, by decide⟩
  have hafter := lookup_ipSrc hs quietEnv .wan (f := spoofedPacket) (n := 34)
    ⟨by decide, by decide, by decide, by decide⟩
  have hsame := hall (some demoLanDev) (some demoWanDev) [.frame quietEnv .lan dnsQuery 42]
    [⟨quietEnv, spoofedPacket, 34⟩] (ipSrc dnsQuery) (by decide)
  have hip : ipSrc spoofedPacket = ipSrc dnsQuery := by decide
  rw [hip] at hafter
  rw [run_cons, run_nil, run_cons, run_nil, wanStep, ← demoInit, hafter, hbefore] at hsame
  exact absurd hsame (by decide)

end Gateway
