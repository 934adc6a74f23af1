import UcosArm64.Gateway.NatSteps

set_option relaxedAutoImplicit false
set_option autoImplicit false

/-!
# The hash indices of the NAT table

The two hash tables of `bsp/nat.c` are indices of the session table in the sense of
`UcosArm64.Foundations.BucketIndex`: every bucket that is not empty names an active session that
hashes to it. No two active sessions have the same five fields, so the outbound lookup, which takes
the bucket for a hint, returns what a scan of the table returns.

## Main definitions

* `Gateway.Indexes` — a hash table is an index of a session table.
* `Gateway.NatInv` — the invariant of the NAT state.
* `Gateway.natScanEntry`, `Gateway.natScanReverseEntry` — the plain linear scans.

## Main results

* `Gateway.natInv_run` — the invariant holds in every reachable state.
* `Gateway.natIndex_reachable` — the buckets, the sessions and the outbound lookup of every
  reachable state.
-/

namespace Gateway

open BucketIndex Transition

/-! ## Bucket values and slots -/

/-- A hash table is an index of the live slots: no bucket value is out of range, and every bucket
that is not empty names a live slot that hashes to it. -/
structure Indexes (live : Fin natTableSize → Prop) (h : Fin natTableSize → Fin natHashSize)
    (bucket : Fin natHashSize → ℤ) : Prop where
  inRange : ∀ b, 0 ≤ bucket b → slotOf (bucket b) ≠ none
  sound : Sound live h fun b => slotOf (bucket b)

/-- Storing the index of a slot in a bucket. -/
lemma slotOf_update_toInt8 (bucket : Fin natHashSize → ℤ) (c : Fin natHashSize)
    (i : Fin natTableSize) :
    (fun b => slotOf (Function.update bucket c (toInt8 i) b)) =
      Function.update (fun b => slotOf (bucket b)) c (some i) := by
  funext b
  by_cases hb : b = c
  · subst hb; simp
  · rw [Function.update_of_ne hb, Function.update_of_ne hb]

/-- The cleanup loop blanks the buckets of the sessions that die. -/
lemma slotOf_blanked (dies : Fin natTableSize → Bool) (h : Fin natTableSize → Fin natHashSize)
    (bucket : Fin natHashSize → ℤ) :
    (fun b => slotOf (blanked (List.finRange natTableSize) dies h bucket b)) =
      blank (fun i => dies i = true) h fun b => slotOf (bucket b) := by
  funext b
  have hany : ((List.finRange natTableSize).any fun i => dies i && h i == b) = true ↔
      ∃ i, dies i = true ∧ h i = b := by simp [List.any_eq_true]
  unfold blanked blank
  by_cases hb : ∃ i, dies i = true ∧ h i = b
  · rw [if_pos hb, if_pos (hany.mpr hb), slotOf_neg_one]
  · rw [if_neg hb, if_neg (mt hany.mp hb)]

variable {live live' : Fin natTableSize → Prop} {h h' : Fin natTableSize → Fin natHashSize}
  {bucket : Fin natHashSize → ℤ}

/-- A bucket that is not empty holds the index of a live slot that hashes to it. -/
lemma Indexes.slot (hx : Indexes live h bucket) {b : Fin natHashSize} (hb : 0 ≤ bucket b) :
    ∃ i : Fin natTableSize, bucket b = (i : ℕ) ∧ live i ∧ h i = b := by
  obtain ⟨i, hi⟩ := Option.ne_none_iff_exists'.mp (hx.inRange b hb)
  refine ⟨i, ?_, hx.sound b i hi⟩
  unfold slotOf at hi
  split_ifs at hi with hc
  rw [← Option.some.inj hi]
  exact (Int.toNat_of_nonneg hb).symm

/-- The bucket is empty exactly when it names no slot. -/
lemma Indexes.neg_iff (hx : Indexes live h bucket) (b : Fin natHashSize) :
    bucket b < 0 ↔ slotOf (bucket b) = none := by
  constructor
  · intro hb
    by_contra hne
    obtain ⟨i, hi⟩ := Option.ne_none_iff_exists'.mp hne
    exact absurd (nonneg_of_slotOf hi) (not_le.mpr hb)
  · intro hn
    by_contra hb
    exact hx.inRange b (not_lt.mp hb) hn

/-- Being an index depends only on the live slots and their hashes. -/
lemma Indexes.congr (hx : Indexes live h bucket) (hl : ∀ i, live i → live' i)
    (hh : ∀ i, live i → h' i = h i) : Indexes live' h' bucket :=
  ⟨hx.inRange, hx.sound.congr hl hh⟩

/-- Opening a session in the free slot `i`. -/
lemma Indexes.insert (hx : Indexes live h bucket) {i : Fin natTableSize} (b : Fin natHashSize)
    (hi : ¬ live i) :
    Indexes (fun j => j = i ∨ live j) (Function.update h i b)
      (Function.update bucket b (toInt8 i)) := by
  refine ⟨fun c hc => ?_, ?_⟩
  · by_cases hcb : c = b
    · subst hcb; simp
    · rw [Function.update_of_ne hcb] at hc ⊢
      exact hx.inRange c hc
  · rw [slotOf_update_toInt8]
    exact hx.sound.insert b hi

/-- Removing the sessions that die. -/
lemma Indexes.blanked (hx : Indexes live h bucket) (dies : Fin natTableSize → Bool) :
    Indexes (fun i => live i ∧ ¬ dies i = true) h
      (blanked (List.finRange natTableSize) dies h bucket) := by
  refine ⟨fun b hb => ?_, ?_⟩
  · unfold Gateway.blanked at hb ⊢
    split_ifs at hb ⊢
    · omega
    · exact hx.inRange b hb
  · rw [slotOf_blanked]
    exact hx.sound.blank _

/-! ## The invariant -/

/-- The slot holds an active session. -/
def Live (s : NatState) (i : Fin natTableSize) : Prop := (s.natTable i).active = true

/-- The bucket of a slot in `nat_hash_table`. -/
def wanBucket (s : NatState) (i : Fin natTableSize) : Fin natHashSize :=
  natHash (s.natTable i).wanPort

/-- The bucket of a slot in `nat_outbound_hash_table`. -/
def lanBucket (s : NatState) (i : Fin natTableSize) : Fin natHashSize :=
  natOutboundHash (s.natTable i).protocol (s.natTable i).lanPort

/-- Two entries have the same five fields that an outbound lookup compares. -/
structure NatEntry.SameFlow (e e' : NatEntry) : Prop where
  protocol : e.protocol = e'.protocol
  lanIp : e.lanIp = e'.lanIp
  lanPort : e.lanPort = e'.lanPort
  dstIp : e.dstIp = e'.dstIp
  dstPort : e.dstPort = e'.dstPort

/-- **The invariant of the NAT state.** Both hash tables are indices of the active sessions, and
two active sessions differ in one of the five fields. -/
structure NatInv (s : NatState) : Prop where
  wan : Indexes (Live s) (wanBucket s) s.natHashTable
  lan : Indexes (Live s) (lanBucket s) s.natOutboundHashTable
  unique : ∀ i j, Live s i → Live s j → (s.natTable i).SameFlow (s.natTable j) → i = j

/-! ### How the three effects change the live slots and their buckets -/

/-- A refresh keeps an entry up to its time stamp, whatever property one looks at. -/
lemma Refreshes.entry {s s' : NatState} (h : Refreshes s s') {β : Type*} (f : NatEntry → β)
    (hf : ∀ e now, f (NatEntry.touch e now) = f e) (j : Fin natTableSize) :
    f (s'.natTable j) = f (s.natTable j) := by
  obtain ⟨now, hj⟩ := h.table j
  rw [hj, hf]

/-- A refresh changes no live slot. -/
lemma Refreshes.live_iff {s s' : NatState} (h : Refreshes s s') (j : Fin natTableSize) :
    Live s' j ↔ Live s j := by
  unfold Live
  rw [h.entry NatEntry.active (fun _ _ => rfl)]

/-- The live slots after a session was opened. -/
lemma Opens.live_iff {s s' : NatState} {i : Fin natTableSize} {e : NatEntry} (h : Opens s s' i e)
    (j : Fin natTableSize) : Live s' j ↔ j = i ∨ Live s j := by
  unfold Live
  rw [h.table]
  by_cases hj : j = i
  · subst hj; simp [h.active]
  · simp [hj]

/-- The new slot was free. -/
lemma Opens.not_live {s s' : NatState} {i : Fin natTableSize} {e : NatEntry}
    (h : Opens s s' i e) : ¬ Live s i := by
  unfold Live
  rw [h.free]
  simp

/-- The slots other than the new one keep their entries. -/
lemma Opens.table_of_ne {s s' : NatState} {i j : Fin natTableSize} {e : NatEntry}
    (h : Opens s s' i e) (hj : j ≠ i) : s'.natTable j = s.natTable j := by
  rw [h.table, Function.update_of_ne hj]

/-- The new slot holds the new session. -/
lemma Opens.table_self {s s' : NatState} {i : Fin natTableSize} {e : NatEntry}
    (h : Opens s s' i e) : s'.natTable i = e := by
  rw [h.table, Function.update_self]

/-- The entries after the cleanup loop. -/
lemma Sweeps.entry {t : UInt32} {s s' : NatState} (h : Sweeps t s s') (j : Fin natTableSize) :
    s'.natTable j = (s.natTable j).sweep t := by
  rw [h.table, if_pos (List.mem_finRange j)]

/-- The cleanup loop changes no field but `active`. -/
lemma NatEntry.sweep_eq (e : NatEntry) (t : UInt32) :
    e.sweep t = { e with active := e.active && !e.dies t } := by
  unfold NatEntry.sweep
  cases hd : e.dies t with
  | true => simp
  | false => simp

/-- The live slots after the cleanup loop. -/
lemma Sweeps.live_iff {t : UInt32} {s s' : NatState} (h : Sweeps t s s') (j : Fin natTableSize) :
    Live s' j ↔ Live s j ∧ ¬ (s.natTable j).dies t = true := by
  unfold Live
  rw [h.entry, NatEntry.sweep_eq]
  simp

/-- The cleanup loop changes the bucket of no slot. -/
lemma Sweeps.wanBucket_eq {t : UInt32} {s s' : NatState} (h : Sweeps t s s')
    (j : Fin natTableSize) : wanBucket s' j = wanBucket s j := by
  unfold wanBucket
  rw [h.entry, NatEntry.sweep_eq]

/-- The cleanup loop changes the outbound bucket of no slot. -/
lemma Sweeps.lanBucket_eq {t : UInt32} {s s' : NatState} (h : Sweeps t s s')
    (j : Fin natTableSize) : lanBucket s' j = lanBucket s j := by
  unfold lanBucket
  rw [h.entry, NatEntry.sweep_eq]

/-! ### Preservation -/

/-- The invariant holds after `nat_init`. -/
lemma natInv_init (cfg : NatConfig) : NatInv (natInit cfg) where
  wan := ⟨fun b hb => absurd hb (show ¬ (0 : ℤ) ≤ -1 by decide),
    fun b i hi => by simp [natInit] at hi⟩
  lan := ⟨fun b hb => absurd hb (show ¬ (0 : ℤ) ≤ -1 by decide),
    fun b i hi => by simp [natInit] at hi⟩
  unique i j hi := absurd hi (by simp [Live, natInit, NatEntry.zero])

/-- A refresh keeps the invariant. -/
lemma NatInv.refreshes {s s' : NatState} (hs : NatInv s) (h : Refreshes s s') : NatInv s' := by
  refine ⟨?_, ?_, fun i j hi hj hij => ?_⟩
  · rw [h.hash]
    refine hs.wan.congr (fun i => (h.live_iff i).mpr) fun i _ => ?_
    exact h.entry (fun e => natHash e.wanPort) (fun _ _ => rfl) i
  · rw [h.outHash]
    refine hs.lan.congr (fun i => (h.live_iff i).mpr) fun i _ => ?_
    exact h.entry (fun e => natOutboundHash e.protocol e.lanPort) (fun _ _ => rfl) i
  · obtain ⟨n, hn⟩ := h.table i
    obtain ⟨m, hm⟩ := h.table j
    rw [hn, hm] at hij
    exact hs.unique i j ((h.live_iff i).mp hi) ((h.live_iff j).mp hj)
      ⟨hij.protocol, hij.lanIp, hij.lanPort, hij.dstIp, hij.dstPort⟩

/-- An active session is not a match for the five fields of a new one. -/
lemma Opens.not_sameFlow {s s' : NatState} {i j : Fin natTableSize} {e : NatEntry}
    (h : Opens s s' i e) (hj : Live s j) : ¬ (s.natTable j).SameFlow e := by
  intro hsame
  have hmatch := h.fresh j
  rw [← Bool.not_eq_true, NatEntry.matchesOut_iff] at hmatch
  exact hmatch ⟨hj, hsame.protocol, hsame.lanIp, hsame.lanPort, hsame.dstIp, hsame.dstPort⟩

/-- Opening a session keeps the invariant. -/
lemma NatInv.opens {s s' : NatState} {i : Fin natTableSize} {e : NatEntry} (hs : NatInv s)
    (h : Opens s s' i e) : NatInv s' := by
  refine ⟨?_, ?_, fun j k hj hk hjk => ?_⟩
  · rw [h.hash]
    refine (hs.wan.insert (natHash e.wanPort) h.not_live).congr (fun j => (h.live_iff j).mpr) ?_
    intro j _
    by_cases hj : j = i
    · subst hj
      rw [Function.update_self, wanBucket, h.table_self]
    · rw [Function.update_of_ne hj, wanBucket, wanBucket, h.table_of_ne hj]
  · rw [h.outHash]
    refine (hs.lan.insert (natOutboundHash e.protocol e.lanPort) h.not_live).congr
      (fun j => (h.live_iff j).mpr) ?_
    intro j _
    by_cases hj : j = i
    · subst hj
      rw [Function.update_self, lanBucket, h.table_self]
    · rw [Function.update_of_ne hj, lanBucket, lanBucket, h.table_of_ne hj]
  · -- the new session has no match among the old ones, and the old ones are pairwise different
    by_cases hji : j = i
    · by_cases hki : k = i
      · rw [hji, hki]
      · rw [hji, h.table_self, h.table_of_ne hki] at hjk
        exact absurd ⟨hjk.protocol.symm, hjk.lanIp.symm, hjk.lanPort.symm, hjk.dstIp.symm,
          hjk.dstPort.symm⟩ (h.not_sameFlow (((h.live_iff k).mp hk).resolve_left hki))
    · have hjs : Live s j := ((h.live_iff j).mp hj).resolve_left hji
      by_cases hki : k = i
      · rw [hki, h.table_self, h.table_of_ne hji] at hjk
        exact absurd hjk (h.not_sameFlow hjs)
      · rw [h.table_of_ne hji, h.table_of_ne hki] at hjk
        exact hs.unique j k hjs (((h.live_iff k).mp hk).resolve_left hki) hjk

/-- The removal of the expired sessions keeps the invariant. -/
lemma NatInv.sweeps {t : UInt32} {s s' : NatState} (hs : NatInv s) (h : Sweeps t s s') :
    NatInv s' := by
  refine ⟨?_, ?_, fun i j hi hj hij => ?_⟩
  · rw [h.hash]
    exact (hs.wan.blanked _).congr (fun i => (h.live_iff i).mpr) fun i _ => h.wanBucket_eq i
  · rw [h.outHash]
    exact (hs.lan.blanked _).congr (fun i => (h.live_iff i).mpr) fun i _ => h.lanBucket_eq i
  · rw [h.entry, h.entry, NatEntry.sweep_eq, NatEntry.sweep_eq] at hij
    exact hs.unique i j ((h.live_iff i).mp hi).1 ((h.live_iff j).mp hj).1
      ⟨hij.protocol, hij.lanIp, hij.lanPort, hij.dstIp, hij.dstPort⟩

/-- Every call keeps the invariant. -/
theorem NatInv.step {s : NatState} (op : NatOp) (hs : NatInv s) : NatInv (natStep s op) := by
  rcases natStep_cases s op with h | ⟨_, _, _, _, _, _, _, -, h⟩ | ⟨_, -, h⟩
  · exact hs.refreshes h
  · exact hs.opens h
  · exact hs.sweeps h

/-- **The invariant holds in every reachable state.** -/
theorem natInv_run (cfg : NatConfig) (ops : List NatOp) :
    NatInv (run natStep (natInit cfg) ops) :=
  run_invariant (fun _ op hs => hs.step op) (natInv_init cfg) ops

/-! ## Lookups and scans -/

/-- The plain linear scan for an outbound query: the first active entry with the five fields. -/
def natScanEntry (s : NatState) (protocol : UInt8) (lanIp : Ip4) (lanPort : UInt16) (dstIp : Ip4)
    (dstPort : UInt16) : Option (Fin natTableSize) :=
  Fin.find? fun i => (s.natTable i).matchesOut protocol lanIp lanPort dstIp dstPort

/-- The plain linear scan for an inbound query. -/
def natScanReverseEntry (s : NatState) (protocol : UInt8) (wanPort : UInt16) (srcIp : Ip4)
    (srcPort : UInt16) : Option (Fin natTableSize) :=
  Fin.find? fun i => (s.natTable i).matchesIn protocol wanPort srcIp srcPort

/-- The outbound lookup returns what the scan returns: at most one entry matches. -/
theorem NatInv.natFindEntry_eq_scan {s : NatState} (hs : NatInv s) (protocol : UInt8)
    (lanIp : Ip4) (lanPort : UInt16) (dstIp : Ip4) (dstPort : UInt16) :
    natFindEntry s protocol lanIp lanPort dstIp dstPort =
      natScanEntry s protocol lanIp lanPort dstIp dstPort := by
  rw [natFindEntry_eq]
  refine hintedFind_eq_find? fun i j hi hj => ?_
  obtain ⟨hi, hi₁, hi₂, hi₃, hi₄, hi₅⟩ := (NatEntry.matchesOut_iff _ _ _ _ _ _).mp hi
  obtain ⟨hj, hj₁, hj₂, hj₃, hj₄, hj₅⟩ := (NatEntry.matchesOut_iff _ _ _ _ _ _).mp hj
  exact hs.unique i j hi hj ⟨hi₁.trans hj₁.symm, hi₂.trans hj₂.symm, hi₃.trans hj₃.symm,
    hi₄.trans hj₄.symm, hi₅.trans hj₅.symm⟩

/-- **The hash indices of the NAT table.** In every state reached from `nat_init`, every
non-negative bucket of either hash table is the index of an active entry that hashes to it, no two
active entries have the same protocol, LAN endpoint and destination endpoint, and
`nat_find_entry` returns for every query the entry that a linear scan returns.

**Proof sketch.** The three parts are read off `NatInv`, which every call keeps. -/
theorem natIndex_reachable (cfg : NatConfig) (ops : List NatOp) :
    let s := run natStep (natInit cfg) ops
    (∀ b, 0 ≤ s.natHashTable b → ∃ i : Fin natTableSize, s.natHashTable b = (i : ℕ) ∧
      (s.natTable i).active = true ∧ natHash (s.natTable i).wanPort = b) ∧
    (∀ b, 0 ≤ s.natOutboundHashTable b → ∃ i : Fin natTableSize,
      s.natOutboundHashTable b = (i : ℕ) ∧ (s.natTable i).active = true ∧
      natOutboundHash (s.natTable i).protocol (s.natTable i).lanPort = b) ∧
    (∀ i j, (s.natTable i).active = true → (s.natTable j).active = true →
      (s.natTable i).protocol = (s.natTable j).protocol →
      (s.natTable i).lanIp = (s.natTable j).lanIp →
      (s.natTable i).lanPort = (s.natTable j).lanPort →
      (s.natTable i).dstIp = (s.natTable j).dstIp →
      (s.natTable i).dstPort = (s.natTable j).dstPort → i = j) ∧
    ∀ protocol lanIp lanPort dstIp dstPort,
      natFindEntry s protocol lanIp lanPort dstIp dstPort =
        natScanEntry s protocol lanIp lanPort dstIp dstPort := by
  intro s
  have hs : NatInv s := natInv_run cfg ops
  refine ⟨fun b hb => hs.wan.slot hb, fun b hb => hs.lan.slot hb, ?_, hs.natFindEntry_eq_scan⟩
  intro i j hi hj h₁ h₂ h₃ h₄ h₅
  exact hs.unique i j hi hj ⟨h₁, h₂, h₃, h₄, h₅⟩

end Gateway
