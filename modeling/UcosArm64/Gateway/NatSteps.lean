import Mathlib.Data.List.Nodup
import UcosArm64.Foundations.BucketIndex
import UcosArm64.Gateway.NatTable

set_option relaxedAutoImplicit false
set_option autoImplicit false

/-!
# What one call does to the NAT state

The inversion lemma of the NAT machine (`Gateway.natStep_cases`): a call either changes nothing
but time stamps and statistics, or opens one session in a free slot, or sweeps the expired sessions
out. Every invariant of the NAT state is proved from these three cases.

## Main definitions

* `Gateway.Refreshes`, `Gateway.Opens`, `Gateway.Sweeps` — the three effects.
* `Gateway.NatEntry.dies` — the test of the cleanup loop.

## Main results

* `Gateway.natTranslateOutbound_cases`, `Gateway.natTranslateInbound_cases`,
  `Gateway.natCleanupExpired_sweeps` — the effects of the three calls, with their return values.
* `Gateway.natStep_cases` — the effect of a call.
-/

namespace Gateway

open BucketIndex

/-! ## The entry tests -/

/-- An entry matches an outbound query exactly when it is active and has its five fields. -/
lemma NatEntry.matchesOut_iff (e : NatEntry) (protocol : UInt8) (lanIp : Ip4) (lanPort : UInt16)
    (dstIp : Ip4) (dstPort : UInt16) :
    e.matchesOut protocol lanIp lanPort dstIp dstPort = true ↔
      e.active = true ∧ e.protocol = protocol ∧ e.lanIp = lanIp ∧ e.lanPort = lanPort ∧
        e.dstIp = dstIp ∧ e.dstPort = dstPort := by
  simp [NatEntry.matchesOut, and_assoc]

/-- An entry matches an inbound query exactly when it is active and has its four fields. -/
lemma NatEntry.matchesIn_iff (e : NatEntry) (protocol : UInt8) (wanPort : UInt16) (srcIp : Ip4)
    (srcPort : UInt16) :
    e.matchesIn protocol wanPort srcIp srcPort = true ↔
      e.active = true ∧ e.protocol = protocol ∧ e.wanPort = wanPort ∧ e.dstIp = srcIp ∧
        e.dstPort = srcPort := by
  simp [NatEntry.matchesIn, and_assoc]

/-- `nat_find_entry` is a search of the table with the hash bucket as a hint. -/
lemma natFindEntry_eq (s : NatState) (protocol : UInt8) (lanIp : Ip4) (lanPort : UInt16)
    (dstIp : Ip4) (dstPort : UInt16) :
    natFindEntry s protocol lanIp lanPort dstIp dstPort =
      hintedFind (slotOf (s.natOutboundHashTable (natOutboundHash protocol lanPort)))
        fun i => (s.natTable i).matchesOut protocol lanIp lanPort dstIp dstPort := by
  unfold natFindEntry hintedFind
  cases slotOf (s.natOutboundHashTable (natOutboundHash protocol lanPort)) <;> rfl

/-- The lookup fails exactly if no active entry has the five fields. -/
lemma natFindEntry_eq_none_iff {s : NatState} {protocol : UInt8} {lanIp : Ip4} {lanPort : UInt16}
    {dstIp : Ip4} {dstPort : UInt16} : natFindEntry s protocol lanIp lanPort dstIp dstPort = none ↔
    ∀ j, (s.natTable j).matchesOut protocol lanIp lanPort dstIp dstPort = false := by
  rw [natFindEntry_eq, hintedFind_eq_none_iff]

/-- No entry is free exactly if all are active. -/
lemma natAllocEntry_eq_none_iff {s : NatState} :
    natAllocEntry s = none ↔ ∀ j, (s.natTable j).active = true := by
  unfold natAllocEntry
  simp only [Fin.find?_eq_none_iff, Bool.not_eq_false']

/-- `nat_find_reverse_entry` is a search with the hash bucket as a hint, unless the bucket is
empty. -/
lemma natFindReverseEntry_eq (s : NatState) (protocol : UInt8) (wanPort : UInt16) (srcIp : Ip4)
    (srcPort : UInt16) :
    natFindReverseEntry s protocol wanPort srcIp srcPort =
      if s.natHashTable (natHash wanPort) < 0 then none
      else hintedFind (slotOf (s.natHashTable (natHash wanPort)))
        fun i => (s.natTable i).matchesIn protocol wanPort srcIp srcPort := by
  unfold natFindReverseEntry hintedFind
  dsimp only
  cases slotOf (s.natHashTable (natHash wanPort)) <;> rfl

/-- What `nat_find_reverse_entry` returns matches the query. -/
lemma matchesIn_of_natFindReverseEntry {s : NatState} {protocol : UInt8} {wanPort : UInt16}
    {srcIp : Ip4} {srcPort : UInt16} {i : Fin natTableSize}
    (h : natFindReverseEntry s protocol wanPort srcIp srcPort = some i) :
    (s.natTable i).matchesIn protocol wanPort srcIp srcPort = true := by
  rw [natFindReverseEntry_eq] at h
  split_ifs at h
  exact hit_of_hintedFind h

/-! ## The three effects -/

/-- The entry with another time stamp. -/
def NatEntry.touch (e : NatEntry) (now : UInt32) : NatEntry := { e with lastActivity := now }

/-- Nothing changes but the time stamps of some entries and the statistics. -/
structure Refreshes (s s' : NatState) : Prop where
  table : ∀ j, ∃ now, s'.natTable j = (s.natTable j).touch now
  hash : s'.natHashTable = s.natHashTable
  outHash : s'.natOutboundHashTable = s.natOutboundHashTable
  arp : s'.arpTable = s.arpTable
  cfg : s'.natCfg = s.natCfg
  port : s'.nextPort = s.nextPort

/-- The free slot `i` receives the new session `e`, at the port the counter stands at. No active
session has the five fields of `e`. -/
structure Opens (s s' : NatState) (i : Fin natTableSize) (e : NatEntry) : Prop where
  free : (s.natTable i).active = false
  fresh : ∀ j, (s.natTable j).matchesOut e.protocol e.lanIp e.lanPort e.dstIp e.dstPort = false
  active : e.active = true
  wanPort : e.wanPort = s.nextPort
  table : s'.natTable = Function.update s.natTable i e
  hash : s'.natHashTable = Function.update s.natHashTable (natHash e.wanPort) (toInt8 i)
  outHash : s'.natOutboundHashTable =
    Function.update s.natOutboundHashTable (natOutboundHash e.protocol e.lanPort) (toInt8 i)
  arp : s'.arpTable = s.arpTable
  cfg : s'.natCfg = s.natCfg
  port : s'.nextPort = (natAllocPort s).2.nextPort

/-- The entry is active and has expired: the cleanup loop removes it. -/
def NatEntry.dies (e : NatEntry) (currentTicks : UInt32) : Bool :=
  e.active && e.expired currentTicks

/-- The entry after the cleanup loop has visited it. -/
def NatEntry.sweep (e : NatEntry) (currentTicks : UInt32) : NatEntry :=
  if e.dies currentTicks then { e with active := false } else e

/-- The buckets after the cleanup loop has visited the slots in `l`: those of the sessions that die
are blank. -/
def blanked (l : List (Fin natTableSize)) (dies : Fin natTableSize → Bool)
    (h : Fin natTableSize → Fin natHashSize) (bucket : Fin natHashSize → ℤ)
    (b : Fin natHashSize) : ℤ :=
  if l.any fun i => dies i && h i == b then -1 else bucket b

/-- The cleanup loop has visited the slots in `l`. -/
structure SweepsOn (l : List (Fin natTableSize)) (currentTicks : UInt32) (s s' : NatState) :
    Prop where
  table : ∀ j, s'.natTable j = if j ∈ l then (s.natTable j).sweep currentTicks else s.natTable j
  hash : s'.natHashTable = blanked l (fun i => (s.natTable i).dies currentTicks)
    (fun i => natHash (s.natTable i).wanPort) s.natHashTable
  outHash : s'.natOutboundHashTable = blanked l (fun i => (s.natTable i).dies currentTicks)
    (fun i => natOutboundHash (s.natTable i).protocol (s.natTable i).lanPort)
    s.natOutboundHashTable
  arp : s'.arpTable = s.arpTable
  cfg : s'.natCfg = s.natCfg
  port : s'.nextPort = s.nextPort

/-- The cleanup loop has visited all slots. -/
def Sweeps (currentTicks : UInt32) (s s' : NatState) : Prop :=
  SweepsOn (List.finRange natTableSize) currentTicks s s'

/-! ## The calls -/

/-- Refreshing one entry. -/
lemma refreshes_setEntry (s : NatState) (i : Fin natTableSize) (now : UInt32) (st : NatStats) :
    Refreshes s { s.setEntry i ((s.natTable i).touch now) with natStatistics := st } where
  table j := by
    by_cases hj : j = i
    · subst hj
      exact ⟨now, by simp [NatState.setEntry]⟩
    · exact ⟨(s.natTable j).lastActivity, by simp [NatState.setEntry, hj, NatEntry.touch]⟩
  hash := rfl
  outHash := rfl
  arp := rfl
  cfg := rfl
  port := rfl

/-- A change of the statistics only. -/
lemma refreshes_natStatistics (s : NatState) (st : NatStats) :
    Refreshes s { s with natStatistics := st } where
  table j := ⟨(s.natTable j).lastActivity, rfl⟩
  hash := rfl
  outHash := rfl
  arp := rfl
  cfg := rfl
  port := rfl

/-- Without a session and a free entry the call fails, and only `table_full` grows. -/
lemma natTranslateOutbound_of_full {s : NatState} {protocol : UInt8} {lanIp : Ip4}
    {lanPort : UInt16}
    {dstIp : Ip4} {dstPort : UInt16} (now : UInt32)
    (hfind : natFindEntry s protocol lanIp lanPort dstIp dstPort = none)
    (halloc : natAllocEntry s = none) :
    natTranslateOutbound s now protocol lanIp lanPort dstIp dstPort =
      ({ s with natStatistics.tableFull := s.natStatistics.tableFull + 1 }, none) := by
  simp [natTranslateOutbound, hfind, halloc]

/-- **The effect of `nat_translate_outbound`.** Either a session with the five fields is active and
its port is returned; or none is, all entries are active and the call fails; or none is and a new
session is opened, whose port is returned. -/
theorem natTranslateOutbound_cases (s : NatState) (now : UInt32) (protocol : UInt8) (lanIp : Ip4)
    (lanPort : UInt16) (dstIp : Ip4) (dstPort : UInt16) :
    let r := natTranslateOutbound s now protocol lanIp lanPort dstIp dstPort
    (∃ i, natFindEntry s protocol lanIp lanPort dstIp dstPort = some i ∧
      (s.natTable i).matchesOut protocol lanIp lanPort dstIp dstPort = true ∧
      Refreshes s r.1 ∧ r.1.natTable = Function.update s.natTable i ((s.natTable i).touch now) ∧
      r.2 = some (s.natTable i).wanPort) ∨
    (natFindEntry s protocol lanIp lanPort dstIp dstPort = none ∧ natAllocEntry s = none ∧
      Refreshes s r.1 ∧ r.1.natTable = s.natTable ∧ r.2 = none) ∨
    (natFindEntry s protocol lanIp lanPort dstIp dstPort = none ∧
      ∃ i, natAllocEntry s = some i ∧
        Opens s r.1 i ⟨true, protocol, lanIp, lanPort, s.nextPort, dstIp, dstPort, now,
          natTimeout protocol⟩ ∧
        r.2 = some s.nextPort) := by
  intro r
  cases hf : natFindEntry s protocol lanIp lanPort dstIp dstPort with
  | some i =>
    have hr : r = ({ s.setEntry i ((s.natTable i).touch now) with
        natStatistics.translationsOut := s.natStatistics.translationsOut + 1 },
        some (s.natTable i).wanPort) := by
      simp [r, natTranslateOutbound, hf, NatEntry.touch, NatState.setEntry]
    refine Or.inl ⟨i, rfl, ?_, ?_, ?_, ?_⟩
    · rw [natFindEntry_eq] at hf
      exact hit_of_hintedFind hf
    · rw [hr]; exact refreshes_setEntry s i now _
    · rw [hr]; rfl
    · rw [hr]
  | none =>
    cases ha : natAllocEntry s with
    | none =>
      have hr := natTranslateOutbound_of_full now hf ha
      change r = _ at hr
      refine Or.inr (Or.inl ⟨rfl, rfl, ?_, ?_, ?_⟩)
      · rw [hr]; exact refreshes_natStatistics s _
      · rw [hr]
      · rw [hr]
    | some i =>
      refine Or.inr (Or.inr ⟨rfl, i, rfl, ?_, by simp [r, natTranslateOutbound, hf, ha,
        natAllocPort]⟩)
      have hfree := Fin.eq_true_of_find?_eq_some ha
      rw [natFindEntry_eq, hintedFind_eq_none_iff] at hf
      refine ⟨by simpa using hfree, hf, rfl, rfl, ?_, ?_, ?_, ?_, ?_, ?_⟩ <;>
        simp [r, natTranslateOutbound, natFindEntry_eq, hintedFind_eq_none_iff.mpr hf, ha,
          natAllocPort, natHashAdd, natOutboundHashAdd, NatState.setEntry]

/-- A translation leaves the ARP cache alone. -/
lemma natTranslateOutbound_arp (s : NatState) (now : UInt32) (protocol : UInt8) (lanIp : Ip4)
    (lanPort : UInt16) (dstIp : Ip4) (dstPort : UInt16) :
    (natTranslateOutbound s now protocol lanIp lanPort dstIp dstPort).1.arpTable = s.arpTable := by
  rcases natTranslateOutbound_cases s now protocol lanIp lanPort dstIp dstPort with
    ⟨i, -, -, h, -, -⟩ | ⟨-, -, h, -, -⟩ | ⟨-, i, -, h, -⟩
  · exact h.arp
  · exact h.arp
  · exact h.arp

/-- The call fails exactly if no active session has the five fields and all entries are active. -/
lemma natTranslateOutbound_eq_none_iff {s : NatState} {now : UInt32}
    {protocol : UInt8} {lanIp : Ip4}
    {lanPort : UInt16} {dstIp : Ip4} {dstPort : UInt16} :
    (natTranslateOutbound s now protocol lanIp lanPort dstIp dstPort).2 = none ↔
      natFindEntry s protocol lanIp lanPort dstIp dstPort = none ∧ natAllocEntry s = none := by
  rcases natTranslateOutbound_cases s now protocol lanIp lanPort dstIp dstPort with
    ⟨i, hfind, -, -, -, hret⟩ | ⟨hfind, halloc, -, -, hret⟩ | ⟨-, i, halloc, -, hret⟩
  · rw [hret, hfind]
    simp
  · exact iff_of_true hret ⟨hfind, halloc⟩
  · rw [hret, halloc]
    simp

/-- The call succeeds exactly if a search finds a session or a free entry. -/
lemma natTranslateOutbound_ne_none_iff {s : NatState} {now : UInt32}
    {protocol : UInt8} {lanIp : Ip4}
    {lanPort : UInt16} {dstIp : Ip4} {dstPort : UInt16} :
    (natTranslateOutbound s now protocol lanIp lanPort dstIp dstPort).2 ≠ none ↔
      (natFindEntry s protocol lanIp lanPort dstIp dstPort).isSome = true ∨
        (natAllocEntry s).isSome = true := by
  rw [Ne, natTranslateOutbound_eq_none_iff, not_and_or, Option.isSome_iff_ne_none,
    Option.isSome_iff_ne_none]

/-- The failure of the call, by the entries of the table. -/
lemma natTranslateOutbound_eq_none_iff_forall {s : NatState} {now : UInt32} {protocol : UInt8}
    {lanIp : Ip4} {lanPort : UInt16} {dstIp : Ip4} {dstPort : UInt16} :
    (natTranslateOutbound s now protocol lanIp lanPort dstIp dstPort).2 = none ↔
      (∀ j, (s.natTable j).matchesOut protocol lanIp lanPort dstIp dstPort = false) ∧
        ∀ j, (s.natTable j).active = true := by
  rw [natTranslateOutbound_eq_none_iff, natFindEntry_eq_none_iff, natAllocEntry_eq_none_iff]

/-- The success of the call, by the entries of the table. -/
lemma natTranslateOutbound_ne_none_iff_exists {s : NatState} {now : UInt32} {protocol : UInt8}
    {lanIp : Ip4} {lanPort : UInt16} {dstIp : Ip4} {dstPort : UInt16} :
    (natTranslateOutbound s now protocol lanIp lanPort dstIp dstPort).2 ≠ none ↔
      (∃ j, (s.natTable j).matchesOut protocol lanIp lanPort dstIp dstPort = true) ∨
        ∃ j, (s.natTable j).active = false := by
  rw [Ne, natTranslateOutbound_eq_none_iff_forall, not_and_or, not_forall, not_forall]
  simp only [Bool.not_eq_false, Bool.not_eq_true]

/-- **The effect of `nat_translate_inbound`.** Either the lookup fails, and so does the call, or
the entry found is refreshed and its LAN endpoint is returned. -/
theorem natTranslateInbound_cases (s : NatState) (now : UInt32) (protocol : UInt8)
    (wanPort : UInt16) (srcIp : Ip4) (srcPort : UInt16) :
    let r := natTranslateInbound s now protocol wanPort srcIp srcPort
    (natFindReverseEntry s protocol wanPort srcIp srcPort = none ∧ Refreshes s r.1 ∧
      r.1.natTable = s.natTable ∧ r.2 = none) ∨
    (∃ i, natFindReverseEntry s protocol wanPort srcIp srcPort = some i ∧
      (s.natTable i).matchesIn protocol wanPort srcIp srcPort = true ∧ Refreshes s r.1 ∧
      r.1.natTable = Function.update s.natTable i ((s.natTable i).touch now) ∧
      r.2 = some ((s.natTable i).lanIp, (s.natTable i).lanPort)) := by
  intro r
  cases hf : natFindReverseEntry s protocol wanPort srcIp srcPort with
  | none =>
    have hr : r = ({ s with natStatistics.noMatch := s.natStatistics.noMatch + 1 }, none) := by
      simp [r, natTranslateInbound, hf]
    refine Or.inl ⟨rfl, ?_, ?_, ?_⟩
    · rw [hr]; exact refreshes_natStatistics s _
    · rw [hr]
    · rw [hr]
  | some i =>
    have hr : r = ({ s.setEntry i ((s.natTable i).touch now) with
        natStatistics.translationsIn := s.natStatistics.translationsIn + 1 },
        some ((s.natTable i).lanIp, (s.natTable i).lanPort)) := by
      simp [r, natTranslateInbound, hf, NatEntry.touch, NatState.setEntry]
    refine Or.inr ⟨i, rfl, matchesIn_of_natFindReverseEntry hf, ?_, ?_, ?_⟩
    · rw [hr]; exact refreshes_setEntry s i now _
    · rw [hr]; rfl
    · rw [hr]

/-- Visiting no slot blanks no bucket. -/
@[simp] lemma blanked_nil (dies : Fin natTableSize → Bool)
    (h : Fin natTableSize → Fin natHashSize) (bucket : Fin natHashSize → ℤ) :
    blanked [] dies h bucket = bucket := by
  funext b; simp [blanked]

/-- Visiting one slot that dies blanks its bucket. -/
lemma blanked_singleton_of_dies {dies : Fin natTableSize → Bool} {i : Fin natTableSize}
    (hi : dies i = true) (h : Fin natTableSize → Fin natHashSize) (bucket : Fin natHashSize → ℤ) :
    blanked [i] dies h bucket = Function.update bucket (h i) (-1) := by
  funext b
  by_cases hb : h i = b
  · rw [← hb, Function.update_self]
    simp [blanked, hi]
  · rw [Function.update_of_ne (Ne.symm hb)]
    simp [blanked, hb]

/-- Visiting one slot that stays blanks no bucket. -/
lemma blanked_singleton_of_not_dies {dies : Fin natTableSize → Bool} {i : Fin natTableSize}
    (hi : dies i = false) (h : Fin natTableSize → Fin natHashSize)
    (bucket : Fin natHashSize → ℤ) : blanked [i] dies h bucket = bucket := by
  funext b; simp [blanked, hi]

/-- Blanking for the first slot and then for the others is blanking for all of them. -/
lemma blanked_blanked {dies dies' : Fin natTableSize → Bool}
    {h h' : Fin natTableSize → Fin natHashSize} {i : Fin natTableSize}
    {l : List (Fin natTableSize)} (hd : ∀ j ∈ l, dies' j = dies j) (hh : ∀ j ∈ l, h' j = h j)
    (bucket : Fin natHashSize → ℤ) :
    blanked l dies' h' (blanked [i] dies h bucket) = blanked (i :: l) dies h bucket := by
  funext b
  have hany : (l.any fun j => dies' j && h' j == b) = l.any fun j => dies j && h j == b := by
    rw [Bool.eq_iff_iff, List.any_eq_true, List.any_eq_true]
    exact exists_congr fun j => and_congr_right fun hj => by rw [hd j hj, hh j hj]
  unfold blanked
  rw [hany, List.any_cons, List.any_cons, List.any_nil, Bool.or_false]
  cases dies i && h i == b <;> simp

/-- One iteration of the cleanup loop sweeps the slot it visits. -/
lemma natCleanupEntry_sweepsOn (currentTicks : UInt32) (r : NatState × ℕ)
    (i : Fin natTableSize) :
    SweepsOn [i] currentTicks r.1 (natCleanupEntry currentTicks r i).1 := by
  obtain ⟨s, n⟩ := r
  by_cases hd : (s.natTable i).dies currentTicks = true
  · obtain ⟨ha, he⟩ : (s.natTable i).active = true ∧
        (s.natTable i).expired currentTicks = true := by
      simpa [NatEntry.dies] using hd
    have hr : (natCleanupEntry currentTicks (s, n) i).1 =
        { (natOutboundHashRemove (natHashRemove s (s.natTable i).wanPort)
            (s.natTable i).protocol (s.natTable i).lanPort).setEntry i
            { s.natTable i with active := false } with
          natStatistics.timeouts := s.natStatistics.timeouts + 1 } := by
      simp [natCleanupEntry, ha, he, natHashRemove, natOutboundHashRemove, NatState.setEntry]
    rw [hr]
    refine ⟨fun j => ?_, ?_, ?_, rfl, rfl, rfl⟩
    · by_cases hj : j = i
      · subst hj; simp [NatState.setEntry, NatEntry.sweep, hd]
      · simp [NatState.setEntry, natHashRemove, natOutboundHashRemove, hj]
    · rw [blanked_singleton_of_dies (by exact hd)]; rfl
    · rw [blanked_singleton_of_dies (by exact hd)]; rfl
  · have hr : (natCleanupEntry currentTicks (s, n) i).1 = s := by
      simp only [NatEntry.dies, Bool.and_eq_true, not_and, Bool.not_eq_true] at hd
      by_cases ha : (s.natTable i).active = true
      · simp [natCleanupEntry, ha, hd ha]
      · simp [natCleanupEntry, ha]
    rw [hr]
    rw [Bool.not_eq_true] at hd
    refine ⟨fun j => ?_, ?_, ?_, rfl, rfl, rfl⟩
    · by_cases hj : j = i
      · subst hj; simp [NatEntry.sweep, hd]
      · simp [hj]
    · exact (blanked_singleton_of_not_dies hd _ _).symm
    · exact (blanked_singleton_of_not_dies hd _ _).symm

/-- Visiting the slot `i` and then the slots in `l` is visiting `i :: l`, if `i` is not visited
twice. -/
lemma SweepsOn.cons {currentTicks : UInt32} {i : Fin natTableSize} {l : List (Fin natTableSize)}
    {s t u : NatState} (hi : i ∉ l) (h₁ : SweepsOn [i] currentTicks s t)
    (h₂ : SweepsOn l currentTicks t u) : SweepsOn (i :: l) currentTicks s u := by
  -- the slots in `l` are untouched by the visit of `i`
  have hl : ∀ j ∈ l, t.natTable j = s.natTable j := by
    intro j hj
    have hji : j ≠ i := fun e => hi (e ▸ hj)
    rw [h₁.table, if_neg (by simpa using hji)]
  refine ⟨fun j => ?_, ?_, ?_, h₂.arp.trans h₁.arp, h₂.cfg.trans h₁.cfg, h₂.port.trans h₁.port⟩
  · rw [h₂.table]
    by_cases hj : j ∈ l
    · simp [hj, hl j hj]
    · simp only [hj, if_false, h₁.table, List.mem_cons, List.not_mem_nil, or_false]
  · rw [h₂.hash, h₁.hash]
    exact blanked_blanked (fun j hj => by rw [hl j hj]) (fun j hj => by rw [hl j hj]) _
  · rw [h₂.outHash, h₁.outHash]
    exact blanked_blanked (fun j hj => by rw [hl j hj]) (fun j hj => by rw [hl j hj]) _

/-- The cleanup loop over a list of distinct slots sweeps them all.

**Proof sketch.** Induction on the list; the first iteration does not touch the slots of the
others (`SweepsOn.cons`). -/
lemma foldl_natCleanupEntry_sweepsOn (currentTicks : UInt32) (l : List (Fin natTableSize))
    (hl : l.Nodup) (r : NatState × ℕ) :
    SweepsOn l currentTicks r.1 (l.foldl (natCleanupEntry currentTicks) r).1 := by
  induction l generalizing r with
  | nil => exact ⟨by simp, by simp, by simp, rfl, rfl, rfl⟩
  | cons i l ih =>
    obtain ⟨hi, hl⟩ := List.nodup_cons.mp hl
    exact (natCleanupEntry_sweepsOn currentTicks r i).cons hi (ih hl _)

/-- **The effect of `nat_cleanup_expired`.** -/
theorem natCleanupExpired_sweeps (s : NatState) (currentTicks : UInt32) :
    Sweeps currentTicks s (natCleanupExpired s currentTicks).1 :=
  foldl_natCleanupEntry_sweepsOn currentTicks _ (List.nodup_finRange _) (s, 0)

/-- **The effect of a call.** -/
theorem natStep_cases (s : NatState) (op : NatOp) :
    Refreshes s (natStep s op) ∨
      (∃ now protocol lanIp lanPort dstIp dstPort i,
        op = .outbound now protocol lanIp lanPort dstIp dstPort ∧
        Opens s (natStep s op) i ⟨true, protocol, lanIp, lanPort, s.nextPort, dstIp, dstPort, now,
          natTimeout protocol⟩) ∨
      ∃ currentTicks, op = .cleanup currentTicks ∧ Sweeps currentTicks s (natStep s op) := by
  cases op with
  | outbound now protocol lanIp lanPort dstIp dstPort =>
    obtain ⟨-, -, -, h, -⟩ | ⟨-, -, h, -⟩ | ⟨-, i, -, h, -⟩ :=
      natTranslateOutbound_cases s now protocol lanIp lanPort dstIp dstPort
    · exact Or.inl h
    · exact Or.inl h
    · exact Or.inr (Or.inl ⟨now, protocol, lanIp, lanPort, dstIp, dstPort, i, rfl, h⟩)
  | inbound now protocol wanPort srcIp srcPort =>
    obtain ⟨-, h, -⟩ | ⟨-, -, -, h, -⟩ :=
      natTranslateInbound_cases s now protocol wanPort srcIp srcPort
    · exact Or.inl h
    · exact Or.inl h
  | cleanup currentTicks =>
    exact Or.inr (Or.inr ⟨currentTicks, rfl, natCleanupExpired_sweeps s currentTicks⟩)

end Gateway
