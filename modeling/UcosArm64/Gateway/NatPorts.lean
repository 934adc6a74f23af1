import UcosArm64.Gateway.NatIndex

set_option relaxedAutoImplicit false
set_option autoImplicit false

/-!
# The WAN ports of the NAT sessions

`nat_alloc_port` hands out the ports of the configured range in turn and does not look at the
table. The ports of the active sessions stay in the range; they stay distinct, for the sessions
of one protocol to one destination, exactly as long as no session is opened at a port that such a
session still holds. The counter comes back to a port after 10001 sessions, and traffic can
keep the session that holds it alive for as long.

## Main definitions

* `Gateway.PortsOk` — the WAN ports are in the range and tell the sessions apart.
* `Gateway.OpensFreshPort` — a call does not open a session at a port in use.
* `Gateway.keepAliveRun` — a run that drives the counter while it keeps one session alive.

## Main results

* `Gateway.portsOk_throughout_iff` — the ports are fine in every state of a run exactly when no
  call opens a session at a port in use.
* `Gateway.keepAliveRun_lonely` — the state after any number of rounds of `keepAliveRun`.
* `Gateway.wrapRun_not_portsOk` — two LAN hosts whose sessions have the same WAN port.
-/

namespace Gateway

open BucketIndex Transition

/-! ## Ports in range, ports in use -/

/-- A port of the range `20000..30000`. -/
def InPortRange (p : UInt16) : Prop := 20000 ≤ p ∧ p ≤ 30000

/-- Two entries have the same four fields that an inbound lookup compares. -/
structure NatEntry.SameReturn (e e' : NatEntry) : Prop where
  protocol : e.protocol = e'.protocol
  wanPort : e.wanPort = e'.wanPort
  dstIp : e.dstIp = e'.dstIp
  dstPort : e.dstPort = e'.dstPort

/-- The WAN port of every active session is in the range, and two active sessions differ in
protocol, WAN port, destination address or destination port. -/
structure PortsOk (s : NatState) : Prop where
  inRange : ∀ i, Live s i → InPortRange (s.natTable i).wanPort
  distinct : ∀ i j, Live s i → Live s j → (s.natTable i).SameReturn (s.natTable j) → i = j

/-- If the call opens a session (no active entry has its five fields, and an entry is free), then
no active session with the same protocol and destination holds the port that the counter stands
at. -/
def OpensFreshPort (s : NatState) (op : NatOp) : Prop :=
  ∀ now protocol lanIp lanPort dstIp dstPort,
    op = .outbound now protocol lanIp lanPort dstIp dstPort →
    (∀ j, (s.natTable j).matchesOut protocol lanIp lanPort dstIp dstPort = false) →
    (∃ i, (s.natTable i).active = false) →
    ∀ j, Live s j → ¬ ((s.natTable j).protocol = protocol ∧ (s.natTable j).wanPort = s.nextPort ∧
      (s.natTable j).dstIp = dstIp ∧ (s.natTable j).dstPort = dstPort)

/-! ## The counter -/

/-- The counter and the ports handed out are in the range. -/
structure PortInv (s : NatState) : Prop where
  cfg : s.natCfg = natCfgInit
  counter : InPortRange s.nextPort
  inRange : ∀ i, Live s i → InPortRange (s.natTable i).wanPort

/-- The next port, as a number: the counter does not overflow. -/
lemma toNat_add_one {p : UInt16} (hp : InPortRange p) : (p + 1).toNat = p.toNat + 1 := by
  have hle : p.toNat ≤ 30000 := UInt16.le_iff_toNat_le.mp hp.2
  rw [UInt16.toNat_add]
  show (p.toNat + 1) % 65536 = p.toNat + 1
  omega

/-- The counter after an allocation: one further, and back at the start after the end. -/
lemma natAllocPort_nextPort {s : NatState} (hc : s.natCfg = natCfgInit)
    (hp : InPortRange s.nextPort) :
    (natAllocPort s).2.nextPort = if s.nextPort = 30000 then 20000 else s.nextPort + 1 := by
  have hval : (natAllocPort s).2.nextPort =
      if s.nextPort + 1 > 30000 then 20000 else s.nextPort + 1 := by
    simp [natAllocPort, hc, natCfgInit]
  have hiff : s.nextPort + 1 > 30000 ↔ s.nextPort = 30000 := by
    have hle : s.nextPort.toNat ≤ 30000 := UInt16.le_iff_toNat_le.mp hp.2
    rw [gt_iff_lt, UInt16.lt_iff_toNat_lt, toNat_add_one hp, ← UInt16.toNat_inj]
    show 30000 < s.nextPort.toNat + 1 ↔ s.nextPort.toNat = 30000
    omega
  rw [hval]
  exact if_congr hiff rfl rfl

/-- An allocation keeps the counter in the range. -/
lemma inPortRange_natAllocPort {s : NatState} (hc : s.natCfg = natCfgInit)
    (hp : InPortRange s.nextPort) : InPortRange (natAllocPort s).2.nextPort := by
  rw [natAllocPort_nextPort hc hp]
  by_cases hend : s.nextPort = 30000
  · rw [if_pos hend]
    exact ⟨by decide, by decide⟩
  · have hlo : 20000 ≤ s.nextPort.toNat := UInt16.le_iff_toNat_le.mp hp.1
    have hhi : s.nextPort.toNat ≤ 30000 := UInt16.le_iff_toNat_le.mp hp.2
    have hne : s.nextPort.toNat ≠ 30000 := fun h => hend (UInt16.toNat_inj.mp h)
    rw [if_neg hend]
    constructor
    · rw [UInt16.le_iff_toNat_le, toNat_add_one hp]
      show 20000 ≤ s.nextPort.toNat + 1
      omega
    · rw [UInt16.le_iff_toNat_le, toNat_add_one hp]
      show s.nextPort.toNat + 1 ≤ 30000
      omega

/-- The ports are in the range after `nat_init`. -/
lemma portInv_init : PortInv (natInit natCfgInit) where
  cfg := rfl
  counter := ⟨by decide, by decide⟩
  inRange i hi := absurd hi (by simp [Live, natInit, NatEntry.zero])

/-- Every call keeps the ports in the range. -/
lemma PortInv.step {s : NatState} (op : NatOp) (hs : PortInv s) : PortInv (natStep s op) := by
  rcases natStep_cases s op with h | ⟨_, _, _, _, _, _, i, -, h⟩ | ⟨t, -, h⟩
  · refine ⟨h.cfg.trans hs.cfg, h.port ▸ hs.counter, fun j hj => ?_⟩
    have hport := h.entry NatEntry.wanPort (fun _ _ => rfl) j
    rw [hport]
    exact hs.inRange j ((h.live_iff j).mp hj)
  · refine ⟨h.cfg.trans hs.cfg, h.port ▸ inPortRange_natAllocPort hs.cfg hs.counter, ?_⟩
    intro j hj
    by_cases hji : j = i
    · rw [hji, h.table_self]
      exact hs.counter
    · rw [h.table_of_ne hji]
      exact hs.inRange j (((h.live_iff j).mp hj).resolve_left hji)
  · refine ⟨h.cfg.trans hs.cfg, h.port ▸ hs.counter, fun j hj => ?_⟩
    rw [h.entry, NatEntry.sweep_eq]
    exact hs.inRange j ((h.live_iff j).mp hj).1

/-! ## When the ports tell the sessions apart -/

/-- A refresh does not change whether the ports are fine. -/
lemma PortsOk.refreshes {s s' : NatState} (hs : PortsOk s) (h : Refreshes s s') : PortsOk s' := by
  refine ⟨fun j hj => ?_, fun i j hi hj hij => ?_⟩
  · rw [h.entry NatEntry.wanPort (fun _ _ => rfl) j]
    exact hs.inRange j ((h.live_iff j).mp hj)
  · obtain ⟨n, hn⟩ := h.table i
    obtain ⟨m, hm⟩ := h.table j
    rw [hn, hm] at hij
    exact hs.distinct i j ((h.live_iff i).mp hi) ((h.live_iff j).mp hj)
      ⟨hij.protocol, hij.wanPort, hij.dstIp, hij.dstPort⟩

/-- The cleanup loop does not change whether the ports are fine. -/
lemma PortsOk.sweeps {t : UInt32} {s s' : NatState} (hs : PortsOk s) (h : Sweeps t s s') :
    PortsOk s' := by
  refine ⟨fun j hj => ?_, fun i j hi hj hij => ?_⟩
  · rw [h.entry, NatEntry.sweep_eq]
    exact hs.inRange j ((h.live_iff j).mp hj).1
  · rw [h.entry, h.entry, NatEntry.sweep_eq, NatEntry.sweep_eq] at hij
    exact hs.distinct i j ((h.live_iff i).mp hi).1 ((h.live_iff j).mp hj).1
      ⟨hij.protocol, hij.wanPort, hij.dstIp, hij.dstPort⟩

/-- After a session was opened the ports are fine exactly when no active session has its protocol,
destination and port. -/
lemma PortsOk.opens_iff {s s' : NatState} {i : Fin natTableSize} {e : NatEntry} (hs : PortsOk s)
    (he : InPortRange e.wanPort) (h : Opens s s' i e) :
    PortsOk s' ↔ ∀ j, Live s j → ¬ (s.natTable j).SameReturn e := by
  have hfree : ∀ j, Live s j → j ≠ i := fun j hj hji => h.not_live (hji ▸ hj)
  constructor
  · intro hs' j hj hsame
    refine hfree j hj (hs'.distinct j i ((h.live_iff j).mpr (Or.inr hj))
      ((h.live_iff i).mpr (Or.inl rfl)) ?_)
    rw [h.table_self, h.table_of_ne (hfree j hj)]
    exact hsame
  · intro hne
    refine ⟨fun j hj => ?_, fun j k hj hk hjk => ?_⟩
    · by_cases hji : j = i
      · rw [hji, h.table_self]
        exact he
      · rw [h.table_of_ne hji]
        exact hs.inRange j (((h.live_iff j).mp hj).resolve_left hji)
    · by_cases hji : j = i
      · by_cases hki : k = i
        · rw [hji, hki]
        · rw [hji, h.table_self, h.table_of_ne hki] at hjk
          exact absurd ⟨hjk.protocol.symm, hjk.wanPort.symm, hjk.dstIp.symm, hjk.dstPort.symm⟩
            (hne k (((h.live_iff k).mp hk).resolve_left hki))
      · have hjs : Live s j := ((h.live_iff j).mp hj).resolve_left hji
        by_cases hki : k = i
        · rw [hki, h.table_self, h.table_of_ne hji] at hjk
          exact absurd hjk (hne j hjs)
        · rw [h.table_of_ne hji, h.table_of_ne hki] at hjk
          exact hs.distinct j k hjs (((h.live_iff k).mp hk).resolve_left hki) hjk

/-- One call keeps the ports fine exactly when it does not open a session at a port in use. -/
lemma PortsOk.step_iff {s : NatState} (op : NatOp) (hI : PortInv s) (hs : PortsOk s) :
    PortsOk (natStep s op) ↔ OpensFreshPort s op := by
  cases op with
  | outbound now protocol lanIp lanPort dstIp dstPort =>
    rcases natTranslateOutbound_cases s now protocol lanIp lanPort dstIp dstPort with
      ⟨i, -, hm, h, -, -⟩ | ⟨-, hfull, h, -, -⟩ | ⟨-, i, -, h, -⟩
    · -- a session with these fields is active already
      refine iff_of_true (hs.refreshes h) ?_
      rintro _ _ _ _ _ _ ⟨⟩ hfresh
      exact absurd hm (by rw [hfresh i]; simp)
    · -- all entries are in use
      refine iff_of_true (hs.refreshes h) ?_
      rintro _ _ _ _ _ _ ⟨⟩ - ⟨i, hi⟩
      have := Fin.find?_eq_none_iff.mp hfull i
      simp [hi] at this
    · rw [natStep, hs.opens_iff hI.counter h]
      constructor
      · rintro hne _ _ _ _ _ _ ⟨⟩ - - j hj ⟨h₁, h₂, h₃, h₄⟩
        exact hne j hj ⟨h₁, h₂, h₃, h₄⟩
      · intro hC j hj hsame
        exact hC now protocol lanIp lanPort dstIp dstPort rfl h.fresh ⟨i, h.free⟩ j hj
          ⟨hsame.protocol, hsame.wanPort, hsame.dstIp, hsame.dstPort⟩
  | inbound now protocol wanPort srcIp srcPort =>
    refine iff_of_true ?_ (fun _ _ _ _ _ _ h => by cases h)
    rcases natTranslateInbound_cases s now protocol wanPort srcIp srcPort with
      ⟨-, h, -⟩ | ⟨-, -, -, h, -⟩
    · exact hs.refreshes h
    · exact hs.refreshes h
  | cleanup t =>
    exact iff_of_true (hs.sweeps (natCleanupExpired_sweeps s t)) (fun _ _ _ _ _ _ h => by cases h)

/-- **When the WAN ports tell the sessions apart.** In a run from `nat_init`, every state has all
WAN ports in `20000..30000` and no two active sessions with the same protocol, WAN port and
destination, exactly when no call of the run opens a session at a port that an active session
with the same protocol and destination holds.

**Proof sketch.** The counter and the ports never leave the range (`PortInv`), and one call keeps
the sessions apart exactly under the condition (`PortsOk.step_iff`). -/
theorem portsOk_throughout_iff (ops : List NatOp) :
    Throughout natStep PortsOk (natInit natCfgInit) ops ↔
      EveryStep natStep OpensFreshPort (natInit natCfgInit) ops := by
  refine throughout_iff_everyStep (fun s op hs => hs.step op)
    (fun s op hI hs => hs.step_iff op hI) portInv_init ?_ ops
  exact ⟨portInv_init.inRange, fun i j hi => absurd hi (by simp [Live, natInit, NatEntry.zero])⟩

/-! ## A session kept alive while the counter moves

Once a minute the host behind the kept session sends a datagram, another session is opened, and the
expired ones are removed. The kept session is a UDP session (two minutes), the other one an ICMP
session (one minute), so each round moves the counter by one and leaves the table as it was. -/

/-- The host that keeps its session alive. -/
def keptHost : Ip4 := ⟨192, 168, 1, 10⟩

/-- Another host of the LAN. -/
def otherHost : Ip4 := ⟨192, 168, 1, 11⟩

/-- A host outside. -/
def outsideHost : Ip4 := ⟨8, 8, 8, 8⟩

/-- The tick after `n` minutes, at a thousand ticks per second. -/
def minutes (n : ℕ) : UInt32 := UInt32.ofNat (60000 * n)

/-- A datagram of the kept session: UDP, from port 5000 to port 53 of the host outside. -/
def keptOp (host : Ip4) (n : ℕ) : NatOp :=
  .outbound (minutes n) natProtoUdp host 5000 outsideHost 53

/-- An echo request with identifier 1 to the host outside. -/
def pingOp (n : ℕ) : NatOp := .outbound (minutes n) natProtoIcmp keptHost 1 outsideHost 0

/-- Minute `n`, up to its end. -/
def keepAliveRound (n : ℕ) : List NatOp :=
  [keptOp keptHost n, pingOp n, .cleanup (minutes (n + 1))]

/-- The kept session is opened, and kept alive for `n` minutes. -/
def keepAliveRun (n : ℕ) : List NatOp :=
  keptOp keptHost 0 :: (List.range n).flatMap keepAliveRound

/-- The kept session, last active at minute `n`. -/
def keptEntry (n : ℕ) : NatEntry :=
  ⟨true, natProtoUdp, keptHost, 5000, 20000, outsideHost, 53, minutes n, natTimeoutUdp⟩

/-- The kept session is in slot `k`, and it is the only active one. -/
structure Lonely (k : Fin natTableSize) (n : ℕ) (s : NatState) : Prop where
  kept : s.natTable k = keptEntry n
  rest : ∀ j, j ≠ k → ¬ Live s j

/-- The ticks of this run do not wrap, so a session is as old as it looks. -/
lemma expired_minutes (e : NatEntry) (n a : ℕ) (h : n + a ≤ 70000)
    (he : e.lastActivity = minutes n) :
    e.expired (minutes (n + a)) = decide (e.timeoutSec.toNat ≤ 60 * a) := by
  have hsec : ∀ m, m ≤ 70000 → (minutes m / 1000).toNat = 60 * m := by
    intro m hm
    rw [UInt32.toNat_div, minutes, UInt32.toNat_ofNat']
    show 60000 * m % 4294967296 / 1000 = 60 * m
    omega
  have hage : (minutes (n + a) / 1000 - minutes n / 1000).toNat = 60 * a := by
    have hle : minutes n / 1000 ≤ minutes (n + a) / 1000 := by
      rw [UInt32.le_iff_toNat_le, hsec n (by omega), hsec (n + a) h]
      omega
    rw [UInt32.toNat_sub_of_le _ _ hle, hsec n (by omega), hsec (n + a) h]
    omega
  unfold NatEntry.expired
  rw [he]
  refine decide_eq_decide.mpr ?_
  rw [ge_iff_le, UInt32.le_iff_toNat_le, hage, UInt16.toNat_toUInt32]

/-- A datagram of the kept session refreshes it and changes nothing else. -/
lemma Lonely.refresh {k : Fin natTableSize} {m : ℕ} {s : NatState} (hl : Lonely k m s) (n : ℕ) :
    Lonely k n (natStep s (keptOp keptHost n)) ∧
      (natStep s (keptOp keptHost n)).nextPort = s.nextPort := by
  have hk : (s.natTable k).matchesOut natProtoUdp keptHost 5000 outsideHost 53 = true := by
    rw [hl.kept]
    simp [NatEntry.matchesOut, keptEntry]
  have hfind : natFindEntry s natProtoUdp keptHost 5000 outsideHost 53 ≠ none := by
    intro hf
    rw [natFindEntry_eq_none_iff] at hf
    exact absurd hk (by rw [hf k]; simp)
  rcases natTranslateOutbound_cases s (minutes n) natProtoUdp keptHost 5000 outsideHost 53 with
    ⟨i, -, hm, h, htable, -⟩ | ⟨hf, -⟩ | ⟨hf, -⟩
  · have hik : i = k := by
      by_contra hne
      exact hl.rest i hne ((NatEntry.matchesOut_iff _ _ _ _ _ _).mp hm).1
    subst hik
    refine ⟨⟨?_, fun j hj hlive => hl.rest j hj ((h.live_iff j).mp hlive)⟩, h.port⟩
    show (natTranslateOutbound s (minutes n) natProtoUdp keptHost 5000 outsideHost 53).1.natTable i
      = keptEntry n
    rw [htable, Function.update_self, hl.kept]
    rfl
  · exact absurd hf hfind
  · exact absurd hf hfind

/-- A call for a flow other than the kept one opens a session in a free slot. -/
lemma Lonely.opens {k : Fin natTableSize} {m : ℕ} {s : NatState} (hl : Lonely k m s)
    (now : UInt32) (protocol : UInt8) (lanIp : Ip4) (lanPort : UInt16) (dstIp : Ip4)
    (dstPort : UInt16) (hne : ¬ (protocol = natProtoUdp ∧ lanIp = keptHost)) :
    ∃ i, i ≠ k ∧ Opens s (natStep s (.outbound now protocol lanIp lanPort dstIp dstPort)) i
      ⟨true, protocol, lanIp, lanPort, s.nextPort, dstIp, dstPort, now, natTimeout protocol⟩ := by
  have hlive : Live s k := by rw [Live, hl.kept]; rfl
  rcases natTranslateOutbound_cases s now protocol lanIp lanPort dstIp dstPort with
    ⟨i, -, hm, -⟩ | ⟨-, hfull, -⟩ | ⟨-, i, -, h, -⟩
  · obtain ⟨hi, h₁, h₂, -⟩ := (NatEntry.matchesOut_iff _ _ _ _ _ _).mp hm
    have hik : i = k := by
      by_contra hik
      exact hl.rest i hik hi
    rw [hik, hl.kept] at h₁ h₂
    exact absurd ⟨h₁.symm, h₂.symm⟩ hne
  · -- one of the first two slots is free
    obtain ⟨j, hj⟩ : ∃ j, j ≠ k := by
      by_cases h0 : k = ⟨0, by decide⟩
      · exact ⟨⟨1, by decide⟩, by rw [h0]; decide⟩
      · exact ⟨⟨0, by decide⟩, Ne.symm h0⟩
    have hactive := Fin.find?_eq_none_iff.mp hfull j
    exact absurd (show Live s j by simpa [Live] using hactive) (hl.rest j hj)
  · exact ⟨i, fun hik => h.not_live (hik ▸ hlive), h⟩

/-- One round keeps the kept session, removes the other one and moves the counter by one.

**Proof sketch.** The datagram refreshes the kept session; the echo request opens a session; a
minute later the kept session is one minute old and stays, the echo session is one minute old and
goes. -/
lemma Lonely.round {k : Fin natTableSize} {m : ℕ} {s : NatState} (hI : PortInv s)
    (hl : Lonely k m s) {n : ℕ} (hn : n < 70000) :
    Lonely k n (run natStep s (keepAliveRound n)) ∧
      (run natStep s (keepAliveRound n)).nextPort =
        if s.nextPort = 30000 then 20000 else s.nextPort + 1 := by
  obtain ⟨hl₁, hp₁⟩ := hl.refresh n
  have hI₁ := hI.step (keptOp keptHost n)
  set s₁ := natStep s (keptOp keptHost n) with hs₁
  obtain ⟨i, hik, hopen⟩ := hl₁.opens (minutes n) natProtoIcmp keptHost 1 outsideHost 0 (by decide)
  rw [show NatOp.outbound (minutes n) natProtoIcmp keptHost 1 outsideHost 0 = pingOp n from rfl]
    at hopen
  set s₂ := natStep s₁ (pingOp n) with hs₂
  have hsweep := natCleanupExpired_sweeps s₂ (minutes (n + 1))
  have hrun : run natStep s (keepAliveRound n) = (natCleanupExpired s₂ (minutes (n + 1))).1 := rfl
  rw [hrun]
  have hkept : (s₂.natTable k) = keptEntry n := (hopen.table_of_ne (Ne.symm hik)).trans hl₁.kept
  refine ⟨⟨?_, fun j hj hlive => ?_⟩, ?_⟩
  · have hstay : (keptEntry n).dies (minutes (n + 1)) = false := by
      rw [NatEntry.dies, expired_minutes _ n 1 (by omega) rfl]
      rfl
    rw [hsweep.entry, hkept, NatEntry.sweep, hstay]
    rfl
  · obtain ⟨hlive₂, hdies⟩ := (hsweep.live_iff j).mp hlive
    have hji : j = i := by
      by_contra hji
      exact hl₁.rest j hj (((hopen.live_iff j).mp hlive₂).resolve_left hji)
    refine hdies ?_
    rw [hji, hopen.table_self, NatEntry.dies, expired_minutes _ n 1 (by omega) rfl]
    rfl
  · rw [hsweep.port, hopen.port, natAllocPort_nextPort hI₁.cfg hI₁.counter, hp₁]

/-- **The counter reaches every port while one session stays.** After the kept session was opened
and `n` rounds, it is still the only active session, and the counter stands at
`20000 + (n + 1) mod 10001`. -/
theorem keepAliveRun_lonely (n : ℕ) (hn : n ≤ 70000) :
    ∃ k, Lonely k (n - 1) (run natStep (natInit natCfgInit) (keepAliveRun n)) ∧
      (run natStep (natInit natCfgInit) (keepAliveRun n)).nextPort.toNat =
        20000 + (n + 1) % 10001 := by
  induction n with
  | zero =>
    rcases natTranslateOutbound_cases (natInit natCfgInit) (minutes 0) natProtoUdp keptHost 5000
      outsideHost 53 with ⟨i, -, hm, -⟩ | ⟨-, hfull, -⟩ | ⟨-, i, -, h, -⟩
    · simp [NatEntry.matchesOut, natInit, NatEntry.zero] at hm
    · have := Fin.find?_eq_none_iff.mp hfull ⟨0, by decide⟩
      simp [natInit, NatEntry.zero] at this
    · refine ⟨i, ⟨h.table_self, fun j hj hlive => ?_⟩, ?_⟩
      · have := ((h.live_iff j).mp hlive).resolve_left hj
        simp [Live, natInit, NatEntry.zero] at this
      · show (natTranslateOutbound (natInit natCfgInit) (minutes 0) natProtoUdp keptHost 5000
          outsideHost 53).1.nextPort.toNat = _
        rw [h.port]
        rfl
  | succ n ih =>
    obtain ⟨k, hl, hp⟩ := ih (by omega)
    have hI : PortInv (run natStep (natInit natCfgInit) (keepAliveRun n)) :=
      run_invariant (fun s op hs => hs.step op) portInv_init _
    have hrun : run natStep (natInit natCfgInit) (keepAliveRun (n + 1)) =
        run natStep (run natStep (natInit natCfgInit) (keepAliveRun n)) (keepAliveRound n) := by
      rw [← run_append, keepAliveRun, keepAliveRun, List.range_succ, List.flatMap_append,
        List.cons_append, List.flatMap_singleton]
    obtain ⟨hl', hp'⟩ := hl.round hI (n := n) (by omega)
    rw [hrun]
    refine ⟨k, hl', ?_⟩
    rw [hp']
    by_cases hend : (run natStep (natInit natCfgInit) (keepAliveRun n)).nextPort = 30000
    · rw [if_pos hend]
      rw [hend] at hp
      change 30000 = 20000 + (n + 1) % 10001 at hp
      show 20000 = 20000 + (n + 1 + 1) % 10001
      omega
    · rw [if_neg hend, toNat_add_one hI.counter, hp]
      have hne : 20000 + (n + 1) % 10001 ≠ 30000 := fun h =>
        hend (UInt16.toNat_inj.mp (hp.trans h))
      omega

/-- The kept session lives for 10000 minutes; then another LAN host opens a UDP session to the same
port of the host outside. -/
def wrapRun : List NatOp := keepAliveRun 10000 ++ [keptOp otherHost 10000]

/-- **Two LAN hosts with one WAN port.** After `wrapRun` two active sessions have the same protocol,
WAN port and destination. -/
theorem wrapRun_not_portsOk :
    ¬ ∀ ops, PortsOk (run natStep (natInit natCfgInit) ops) := by
  intro hall
  obtain ⟨k, hl, hp⟩ := keepAliveRun_lonely 10000 (by omega)
  have hbad := hall wrapRun
  rw [wrapRun, run_append, run_cons, run_nil] at hbad
  set s := run natStep (natInit natCfgInit) (keepAliveRun 10000) with hs
  obtain ⟨i, hik, h⟩ := hl.opens (minutes 10000) natProtoUdp otherHost 5000 outsideHost 53
    (by decide)
  have hport : s.nextPort = 20000 := UInt16.toNat_inj.mp hp
  have hlive : Live s k := by rw [Live, hl.kept]; rfl
  refine hik (hbad.distinct i k ((h.live_iff i).mpr (Or.inl rfl))
    ((h.live_iff k).mpr (Or.inr hlive)) ?_)
  show ((natStep s (keptOp otherHost 10000)).natTable i).SameReturn _
  rw [keptOp, h.table_self, h.table_of_ne (Ne.symm hik), hl.kept, hport]
  exact ⟨rfl, rfl, rfl, rfl⟩

end Gateway
