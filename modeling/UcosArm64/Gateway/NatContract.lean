import UcosArm64.Gateway.ArpMap
import UcosArm64.Gateway.NatPorts

set_option relaxedAutoImplicit false
set_option autoImplicit false

/-!
# The contract of the two translations

What a caller of `nat_translate_outbound` and `nat_translate_inbound` may rely on, in every state
that calls of `bsp/nat.c` lead to. A translation that fails has changed one counter of the
statistics. One that succeeds has changed a single entry of the table.

## Main definitions

* `Gateway.natCall` — the calls that change the data of `bsp/nat.c`.
* `Gateway.OutboundContract`, `Gateway.InboundContract` — what the two translations do.

## Main results

* `Gateway.natInv_portInv_natCall` — the NAT invariants hold whatever happens to the ARP cache.
* `Gateway.translation_contract` — both contracts hold in every reachable state, for all arguments.
-/

namespace Gateway

open BucketIndex Transition

/-! ## The calls -/

/-- The calls that change the data of `bsp/nat.c`: those of the NAT table and those of the ARP
cache. -/
def natCall (s : NatState) : NatOp ⊕ ArpOp → NatState
  | .inl op => natStep s op
  | .inr op => arpStep s op

/-- The loop of `arp_cache_cleanup` changes the cache only. -/
lemma foldl_arpCleanupEntry_eq (t : UInt32) (l : List (Fin arpTableSize)) (r : NatState × ℕ) :
    ∃ a, (l.foldl (arpCleanupEntry t) r).1 = { r.1 with arpTable := a } := by
  induction l generalizing r with
  | nil => exact ⟨r.1.arpTable, rfl⟩
  | cons i l ih =>
    obtain ⟨a, ha⟩ := ih (arpCleanupEntry t r i)
    refine ⟨a, ha.trans ?_⟩
    unfold arpCleanupEntry
    simp only
    split_ifs <;> rfl

/-- A call of the ARP cache changes the cache only. -/
lemma arpStep_eq (s : NatState) (op : ArpOp) : ∃ a, arpStep s op = { s with arpTable := a } := by
  cases op with
  | add t ip mac => exact ⟨_, rfl⟩
  | cleanup t => exact foldl_arpCleanupEntry_eq t _ (s, 0)

/-- **The invariants of the NAT table in every reachable state.** -/
theorem natInv_portInv_natCall (calls : List (NatOp ⊕ ArpOp)) :
    NatInv (run natCall (natInit natCfgInit) calls) ∧
      PortInv (run natCall (natInit natCfgInit) calls) := by
  have hstep : ∀ s call, NatInv s ∧ PortInv s → NatInv (natCall s call) ∧
      PortInv (natCall s call) := by
    rintro s (op | op) ⟨hI, hP⟩
    · exact ⟨hI.step op, hP.step op⟩
    · obtain ⟨a, ha⟩ := arpStep_eq s op
      show NatInv (arpStep s op) ∧ PortInv (arpStep s op)
      rw [ha]
      exact ⟨⟨hI.wan, hI.lan, hI.unique⟩, ⟨hP.cfg, hP.counter, hP.inRange⟩⟩
  exact run_invariant (I := fun s => NatInv s ∧ PortInv s) hstep ⟨natInv_init _, portInv_init⟩ calls

/-! ## The contracts -/

section Contracts

variable (s : NatState) (now : UInt32) (protocol : UInt8)

/-- What `nat_translate_outbound` with these arguments does, which returns `r` and leads from `s` to
`s'`. -/
structure OutboundContract (lanIp : Ip4) (lanPort : UInt16) (dstIp : Ip4) (dstPort : UInt16)
    (s' : NatState) (r : Option UInt16) : Prop where
  /-- It fails exactly if no active entry has the five fields and all entries are active. -/
  fails_iff : r = none ↔
    (∀ j, (s.natTable j).matchesOut protocol lanIp lanPort dstIp dstPort = false) ∧
      ∀ j, (s.natTable j).active = true
  /-- Then only `table_full` has grown. -/
  failed : r = none →
    s' = { s with natStatistics.tableFull := s.natStatistics.tableFull + 1 }
  /-- Otherwise exactly one active entry has the five fields. It has the port that is returned and
  is stamped with the current tick, and the other entries are as they were. -/
  served : ∀ p, r = some p → ∃ i,
    (∀ j, (s'.natTable j).matchesOut protocol lanIp lanPort dstIp dstPort = true ↔ j = i) ∧
      (s'.natTable i).wanPort = p ∧ (s'.natTable i).lastActivity = now ∧
      ∀ j, j ≠ i → s'.natTable j = s.natTable j
  /-- `next_port` advances exactly if the entry is new. -/
  advances_iff : s'.nextPort ≠ s.nextPort ↔
    r ≠ none ∧ ∀ j, (s.natTable j).matchesOut protocol lanIp lanPort dstIp dstPort = false
  /-- It advances by one, and from the end of the range to its start. -/
  advanced : s'.nextPort ≠ s.nextPort →
    s'.nextPort = if s.nextPort = 30000 then 20000 else s.nextPort + 1

/-- What `nat_translate_inbound` with these arguments does, which returns `r` and leads from `s` to
`s'`. -/
structure InboundContract (wanPort : UInt16) (srcIp : Ip4) (srcPort : UInt16) (s' : NatState)
    (r : Option (Ip4 × UInt16)) : Prop where
  /-- If it fails, only `no_match` has grown. -/
  failed : r = none → s' = { s with natStatistics.noMatch := s.natStatistics.noMatch + 1 }
  /-- Otherwise only the time stamp of one matching entry and `translations_in` have changed. -/
  served : ∀ lan, r = some lan → ∃ i,
    (s.natTable i).matchesIn protocol wanPort srcIp srcPort = true ∧
      lan = ((s.natTable i).lanIp, (s.natTable i).lanPort) ∧
      s' = { s with
        natTable := Function.update s.natTable i { s.natTable i with lastActivity := now }
        natStatistics.translationsIn := s.natStatistics.translationsIn + 1 }

end Contracts

/-! ## Outbound -/

section Outbound

variable {s : NatState} (now : UInt32) (protocol : UInt8) (lanIp : Ip4) (lanPort : UInt16)
  (dstIp : Ip4) (dstPort : UInt16)

/-- At most one active entry has given five fields. -/
lemma NatInv.eq_of_matchesOut (hI : NatInv s) {protocol : UInt8} {lanIp dstIp : Ip4}
    {lanPort dstPort : UInt16} {i j : Fin natTableSize}
    (hi : (s.natTable i).matchesOut protocol lanIp lanPort dstIp dstPort = true)
    (hj : (s.natTable j).matchesOut protocol lanIp lanPort dstIp dstPort = true) : i = j := by
  obtain ⟨hi, hi₁, hi₂, hi₃, hi₄, hi₅⟩ := (NatEntry.matchesOut_iff _ _ _ _ _ _).mp hi
  obtain ⟨hj, hj₁, hj₂, hj₃, hj₄, hj₅⟩ := (NatEntry.matchesOut_iff _ _ _ _ _ _).mp hj
  exact hI.unique i j hi hj ⟨hi₁.trans hj₁.symm, hi₂.trans hj₂.symm, hi₃.trans hj₃.symm,
    hi₄.trans hj₄.symm, hi₅.trans hj₅.symm⟩

/-- The counter moves when it allocates a port. -/
lemma natAllocPort_nextPort_ne (hP : PortInv s) : (natAllocPort s).2.nextPort ≠ s.nextPort := by
  intro h
  rw [natAllocPort_nextPort hP.cfg hP.counter] at h
  have hsucc := toNat_add_one hP.counter
  split_ifs at h with hend
  · rw [hend] at h
    exact absurd h (by decide)
  · rw [h] at hsucc
    omega

/-- **The contract of `nat_translate_outbound`** follows from the invariants, by the three outcomes
of the call: it finds an entry, all entries are in use, or it opens one.

**Proof sketch.** The outcomes are those of `natTranslateOutbound_cases`. A found entry keeps its
key when it is touched; an opened one has the key of the call, which no other had. -/
theorem NatInv.outboundContract (hI : NatInv s) (hP : PortInv s) :
    OutboundContract s now protocol lanIp lanPort dstIp dstPort
      (natTranslateOutbound s now protocol lanIp lanPort dstIp dstPort).1
      (natTranslateOutbound s now protocol lanIp lanPort dstIp dstPort).2 := by
  have hfails : (natTranslateOutbound s now protocol lanIp lanPort dstIp dstPort).2 = none ↔
      (∀ j, (s.natTable j).matchesOut protocol lanIp lanPort dstIp dstPort = false) ∧
        ∀ j, (s.natTable j).active = true := natTranslateOutbound_eq_none_iff_forall
  rcases natTranslateOutbound_cases s now protocol lanIp lanPort dstIp dstPort with
    ⟨i, -, hi, href, htable, hret⟩ | ⟨hfind, halloc, -, -, hret⟩ | ⟨hfind, i, -, hopens, hret⟩
  · -- the entry is found
    have hmatch : ∀ j, (Function.update s.natTable i ((s.natTable i).touch now) j).matchesOut
        protocol lanIp lanPort dstIp dstPort =
          (s.natTable j).matchesOut protocol lanIp lanPort dstIp dstPort := by
      intro j
      by_cases hj : j = i
      · rw [hj, Function.update_self]
        rfl
      · rw [Function.update_of_ne hj]
    have hsome : (natTranslateOutbound s now protocol lanIp lanPort dstIp dstPort).2 ≠ none := by
      rw [hret]
      exact Option.some_ne_none _
    have hnot : ¬∀ j, (s.natTable j).matchesOut protocol lanIp lanPort dstIp dstPort = false := by
      intro hall
      rw [hall i] at hi
      exact absurd hi (by decide)
    refine ⟨hfails, fun h => absurd h hsome, fun p hp => ⟨i, fun j => ?_, ?_, ?_, fun j hj => ?_⟩,
      ⟨fun h => absurd href.port h, fun h => absurd h.2 hnot⟩, fun h => absurd href.port h⟩
    · rw [htable, hmatch]
      refine ⟨fun hj => hI.eq_of_matchesOut hj hi, fun hj => ?_⟩
      rw [hj]
      exact hi
    · rw [htable, Function.update_self]
      exact Option.some.inj (hret.symm.trans hp)
    · rw [htable, Function.update_self]
      rfl
    · rw [htable, Function.update_of_ne hj]
  · -- all entries are in use
    rw [natTranslateOutbound_of_full now hfind halloc] at hfails ⊢
    refine ⟨hfails, fun _ => rfl, fun p hp => ?_, ⟨fun h => absurd rfl h, fun h => absurd rfl h.1⟩,
      fun h => absurd rfl h⟩
    cases hp
  · -- a free entry is opened
    have hnone := natFindEntry_eq_none_iff.mp hfind
    have hsome : (natTranslateOutbound s now protocol lanIp lanPort dstIp dstPort).2 ≠ none := by
      rw [hret]
      exact Option.some_ne_none _
    have hadvanced := natAllocPort_nextPort_ne hP
    refine ⟨hfails, fun h => absurd h hsome,
      fun p hp => ⟨i, fun j => ?_, ?_, ?_, fun j hj => hopens.table_of_ne hj⟩,
      ⟨fun _ => ⟨hsome, hnone⟩, fun _ => ?_⟩, fun _ => ?_⟩
    · constructor
      · intro hj
        by_contra hji
        rw [hopens.table_of_ne hji, hnone j] at hj
        exact absurd hj (by decide)
      · intro hj
        rw [hj, hopens.table_self, NatEntry.matchesOut_iff]
        exact ⟨rfl, rfl, rfl, rfl, rfl, rfl⟩
    · rw [hopens.table_self]
      exact Option.some.inj (hret.symm.trans hp)
    · rw [hopens.table_self]
    · rw [hopens.port]
      exact hadvanced
    · rw [hopens.port, natAllocPort_nextPort hP.cfg hP.counter]

end Outbound

/-! ## Inbound -/

/-- **The contract of `nat_translate_inbound`** holds in every state. -/
theorem inboundContract (s : NatState) (now : UInt32) (protocol : UInt8) (wanPort : UInt16)
    (srcIp : Ip4) (srcPort : UInt16) :
    InboundContract s now protocol wanPort srcIp srcPort
      (natTranslateInbound s now protocol wanPort srcIp srcPort).1
      (natTranslateInbound s now protocol wanPort srcIp srcPort).2 := by
  unfold natTranslateInbound
  cases hfind : natFindReverseEntry s protocol wanPort srcIp srcPort with
  | none =>
    refine ⟨fun _ => rfl, fun lan h => ?_⟩
    cases h
  | some i =>
    refine ⟨fun h => ?_, fun lan h => ⟨i, matchesIn_of_natFindReverseEntry hfind, ?_, rfl⟩⟩
    · cases h
    · rw [← Option.some.inj h]
      simp [NatState.setEntry]

/-- **The contract of the translations.** In every state that calls of `bsp/nat.c` lead to, and for
all arguments, both translations keep their contracts. -/
theorem translation_contract (calls : List (NatOp ⊕ ArpOp)) :
    let s := run natCall (natInit natCfgInit) calls
    (∀ now protocol lanIp lanPort dstIp dstPort,
      OutboundContract s now protocol lanIp lanPort dstIp dstPort
        (natTranslateOutbound s now protocol lanIp lanPort dstIp dstPort).1
        (natTranslateOutbound s now protocol lanIp lanPort dstIp dstPort).2) ∧
    ∀ now protocol wanPort srcIp srcPort,
      InboundContract s now protocol wanPort srcIp srcPort
        (natTranslateInbound s now protocol wanPort srcIp srcPort).1
        (natTranslateInbound s now protocol wanPort srcIp srcPort).2 := by
  intro s
  obtain ⟨hI, hP⟩ := natInv_portInv_natCall calls
  exact ⟨fun now protocol lanIp lanPort dstIp dstPort =>
    hI.outboundContract now protocol lanIp lanPort dstIp dstPort hP, inboundContract s⟩

end Gateway
