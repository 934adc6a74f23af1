import UcosArm64.Gateway.NatPorts

set_option relaxedAutoImplicit false
set_option autoImplicit false

/-!
# The reverse lookup and the removal of sessions

`nat_find_reverse_entry` gives up when the hash bucket of the WAN port is empty and scans the table
otherwise, so it agrees with the plain scan exactly when the bucket of every active session is
filled. `nat_hash_remove` blanks the bucket of a removed session whatever session the bucket
names, and another active session of that bucket is lost to the lookup.

## Main definitions

* `Gateway.ReverseAgrees` — the lookup finds an entry for the same queries as the scan.
* `Gateway.SparesBuckets` — a call removes no session that shares its bucket with a survivor.

## Main results

* `Gateway.reverseAgrees_iff_complete` — agreement is completeness of the index.
* `Gateway.reverseAgrees_throughout_iff` — the lookup agrees with the scan in every state of a run
  exactly when every call of the run spares the buckets of the survivors.
* `Gateway.collideRun_not_reverseAgrees` — an active session that the lookup does not find.
-/

namespace Gateway

open BucketIndex Transition

/-- `nat_find_reverse_entry` finds an entry exactly for the queries for which the plain linear scan
finds an active one. -/
def ReverseAgrees (s : NatState) : Prop :=
  ∀ protocol wanPort srcIp srcPort,
    (natFindReverseEntry s protocol wanPort srcIp srcPort).isSome =
      (natScanReverseEntry s protocol wanPort srcIp srcPort).isSome

/-- If the call is `nat_cleanup_expired`, no session that it removes has the hash bucket of an
active session that it does not remove. -/
def SparesBuckets (s : NatState) (op : NatOp) : Prop :=
  ∀ t, op = .cleanup t → ∀ i j, (s.natTable i).dies t = true → Live s j →
    ¬ (s.natTable j).dies t = true →
    natHash (s.natTable i).wanPort ≠ natHash (s.natTable j).wanPort

/-- The WAN buckets as an index of the slots. -/
def wanIndex (s : NatState) (b : Fin natHashSize) : Option (Fin natTableSize) :=
  slotOf (s.natHashTable b)

/-- **Agreement is completeness.** The reverse lookup agrees with the scan exactly when the bucket
of every active session is filled.

**Proof sketch.** If the bucket of an active session is empty, the query for that session fails
but the scan finds it. Conversely an empty bucket means that no active session has the port,
and a filled bucket is a hint (`isSome_hintedFind`). -/
theorem reverseAgrees_iff_complete {s : NatState} (hs : NatInv s) :
    ReverseAgrees s ↔ Complete (Live s) (wanBucket s) (wanIndex s) := by
  constructor
  · intro hagree i hi hempty
    have hmatch : (s.natTable i).matchesIn (s.natTable i).protocol (s.natTable i).wanPort
        (s.natTable i).dstIp (s.natTable i).dstPort = true :=
      (NatEntry.matchesIn_iff _ _ _ _ _).mpr ⟨hi, rfl, rfl, rfl, rfl⟩
    have hneg : s.natHashTable (natHash (s.natTable i).wanPort) < 0 :=
      (hs.wan.neg_iff _).mpr hempty
    have hlookup : natFindReverseEntry s (s.natTable i).protocol (s.natTable i).wanPort
        (s.natTable i).dstIp (s.natTable i).dstPort = none := by
      rw [natFindReverseEntry_eq, if_pos hneg]
    have hscan := hagree (s.natTable i).protocol (s.natTable i).wanPort (s.natTable i).dstIp
      (s.natTable i).dstPort
    rw [hlookup, Option.isSome_none, eq_comm, Option.isSome_eq_false_iff,
      Option.isNone_iff_eq_none] at hscan
    have hno := Fin.find?_eq_none_iff.mp hscan i
    exact absurd hmatch (by rw [hno]; simp)
  · intro hcomplete protocol wanPort srcIp srcPort
    rw [natFindReverseEntry_eq]
    by_cases hneg : s.natHashTable (natHash wanPort) < 0
    · -- the bucket is empty: no active session has this port
      rw [if_pos hneg]
      have hnone : natScanReverseEntry s protocol wanPort srcIp srcPort = none := by
        refine Fin.find?_eq_none_iff.mpr fun i => ?_
        rw [← Bool.not_eq_true]
        intro hmatch
        obtain ⟨hi, -, hport, -⟩ := (NatEntry.matchesIn_iff _ _ _ _ _).mp hmatch
        refine hcomplete i hi ?_
        rw [wanBucket, hport]
        exact (hs.wan.neg_iff _).mp hneg
      rw [hnone]
    · rw [if_neg hneg]
      exact isSome_hintedFind _ _

/-- A refresh keeps a complete index complete. -/
lemma complete_refreshes {s s' : NatState} (hc : Complete (Live s) (wanBucket s) (wanIndex s))
    (h : Refreshes s s') : Complete (Live s') (wanBucket s') (wanIndex s') := by
  have hindex : wanIndex s' = wanIndex s := by
    funext b
    rw [wanIndex, wanIndex, h.hash]
  rw [hindex]
  refine hc.congr (fun i => (h.live_iff i).mp) fun i _ => ?_
  exact h.entry (fun e => natHash e.wanPort) (fun _ _ => rfl) i

/-- Opening a session keeps a complete index complete. -/
lemma complete_opens {s s' : NatState} {i : Fin natTableSize} {e : NatEntry}
    (hc : Complete (Live s) (wanBucket s) (wanIndex s)) (h : Opens s s' i e) :
    Complete (Live s') (wanBucket s') (wanIndex s') := by
  have hindex : wanIndex s' = Function.update (wanIndex s) (natHash e.wanPort) (some i) := by
    rw [show wanIndex s' = fun b => slotOf (s'.natHashTable b) from rfl, h.hash,
      slotOf_update_toInt8]
    rfl
  rw [hindex]
  refine (hc.insert i (natHash e.wanPort)).congr (fun j => (h.live_iff j).mp) fun j _ => ?_
  by_cases hj : j = i
  · rw [hj, Function.update_self, wanBucket, h.table_self]
  · rw [Function.update_of_ne hj, wanBucket, wanBucket, h.table_of_ne hj]

/-- The cleanup loop keeps a complete index complete exactly when it spares the buckets of the
survivors. -/
lemma complete_sweeps_iff {t : UInt32} {s s' : NatState}
    (hc : Complete (Live s) (wanBucket s) (wanIndex s)) (h : Sweeps t s s') :
    Complete (Live s') (wanBucket s') (wanIndex s') ↔ SparesBuckets s (.cleanup t) := by
  have hindex : wanIndex s' =
      blank (fun i => (s.natTable i).dies t = true) (wanBucket s) (wanIndex s) := by
    rw [show wanIndex s' = fun b => slotOf (s'.natHashTable b) from rfl, h.hash]
    exact slotOf_blanked _ _ _
  have hlive : Live s' = fun i => Live s i ∧ ¬ (s.natTable i).dies t = true := by
    funext i
    exact propext (h.live_iff i)
  have hbucket : wanBucket s' = wanBucket s := funext h.wanBucket_eq
  rw [hindex, hlive, hbucket, hc.blank_iff]
  constructor
  · rintro hne _ ⟨⟩ i j hi hj hdj
    exact hne i j hi hj hdj
  · intro hC i j hi hj hdj
    exact hC t rfl i j hi hj hdj

/-- One call keeps the lookup in agreement with the scan exactly when it spares the buckets of the
survivors. -/
lemma ReverseAgrees.step_iff {s : NatState} (op : NatOp) (hI : NatInv s) (hs : ReverseAgrees s) :
    ReverseAgrees (natStep s op) ↔ SparesBuckets s op := by
  rw [reverseAgrees_iff_complete hI] at hs
  rw [reverseAgrees_iff_complete (hI.step op)]
  cases op with
  | outbound now protocol lanIp lanPort dstIp dstPort =>
    refine iff_of_true ?_ (fun _ h => by cases h)
    rcases natTranslateOutbound_cases s now protocol lanIp lanPort dstIp dstPort with
      ⟨i, -, -, h, -⟩ | ⟨-, -, h, -⟩ | ⟨-, i, -, h, -⟩
    · exact complete_refreshes hs h
    · exact complete_refreshes hs h
    · exact complete_opens hs h
  | inbound now protocol wanPort srcIp srcPort =>
    refine iff_of_true ?_ (fun _ h => by cases h)
    rcases natTranslateInbound_cases s now protocol wanPort srcIp srcPort with
      ⟨-, h, -⟩ | ⟨-, -, -, h, -⟩
    · exact complete_refreshes hs h
    · exact complete_refreshes hs h
  | cleanup t => exact complete_sweeps_iff hs (natCleanupExpired_sweeps s t)

/-- **When the reverse lookup agrees with the scan.** In a run from `nat_init`,
`nat_find_reverse_entry` finds an entry exactly when a plain scan finds one, for every query and
in every state of the run, exactly when no `nat_cleanup_expired` call of the run removes a session
whose WAN port has the hash bucket of an active session that the call does not remove.

**Proof sketch.** The indices are sound throughout (`NatInv`), and one call keeps the agreement
exactly under the condition (`ReverseAgrees.step_iff`). -/
theorem reverseAgrees_throughout_iff (cfg : NatConfig) (ops : List NatOp) :
    Throughout natStep ReverseAgrees (natInit cfg) ops ↔
      EveryStep natStep SparesBuckets (natInit cfg) ops := by
  refine throughout_iff_everyStep (fun s op hs => hs.step op)
    (fun s op hI hs => hs.step_iff op hI) (natInv_init cfg) ?_ ops
  rw [reverseAgrees_iff_complete (natInv_init cfg)]
  exact fun i hi => absurd hi (by simp [Live, natInit, NatEntry.zero])

/-- The kept session holds port 20000 for 127 minutes; then another LAN host opens a session, at
port 20128, and a minute later the kept session expires. -/
def collideRun : List NatOp :=
  keepAliveRun 127 ++ [keptOp otherHost 127, .cleanup (minutes 128)]

/-- **An active session that the lookup does not find.** Ports 20000 and 20128 have the same bucket.
After `collideRun` the session at port 20128 is active, and its bucket is empty. -/
theorem collideRun_not_reverseAgrees :
    ¬ ∀ ops, ReverseAgrees (run natStep (natInit natCfgInit) ops) := by
  intro hall
  obtain ⟨k, hl, hp⟩ := keepAliveRun_lonely 127 (by omega)
  have hbefore : keepAliveRun 127 ++ [keptOp otherHost 127, .cleanup (minutes 128)] =
      (keepAliveRun 127 ++ [keptOp otherHost 127]) ++ [.cleanup (minutes 128)] := by simp
  have hagree := hall (keepAliveRun 127 ++ [keptOp otherHost 127])
  have hbad := hall collideRun
  have hI := natInv_run natCfgInit (keepAliveRun 127 ++ [keptOp otherHost 127])
  rw [collideRun, hbefore, run_append, run_cons, run_nil, hagree.step_iff _ hI] at hbad
  rw [run_append, run_cons, run_nil] at hbad
  set s := run natStep (natInit natCfgInit) (keepAliveRun 127) with hs
  obtain ⟨i, hik, h⟩ := hl.opens (minutes 127) natProtoUdp otherHost 5000 outsideHost 53
    (by decide)
  rw [show NatOp.outbound (minutes 127) natProtoUdp otherHost 5000 outsideHost 53 =
    keptOp otherHost 127 from rfl] at h
  have hport : s.nextPort = 20128 := UInt16.toNat_inj.mp hp
  have hk : (natStep s (keptOp otherHost 127)).natTable k = keptEntry 126 := by
    rw [h.table_of_ne (Ne.symm hik), hl.kept]
  have hi : (natStep s (keptOp otherHost 127)).natTable i = ⟨true, natProtoUdp, otherHost, 5000,
      s.nextPort, outsideHost, 53, minutes 127, natTimeout natProtoUdp⟩ := h.table_self
  -- the kept session is two minutes old, the other one is one minute old
  have hdies : (keptEntry 126).dies (minutes 128) = true := by
    rw [NatEntry.dies, expired_minutes (keptEntry 126) 126 2 (by omega) rfl]
    rfl
  have hstays : ∀ p, ¬ (⟨true, natProtoUdp, otherHost, 5000, p, outsideHost, 53, minutes 127,
      natTimeout natProtoUdp⟩ : NatEntry).dies (minutes 128) = true := by
    intro p
    rw [NatEntry.dies, expired_minutes _ 127 1 (by omega) rfl]
    show ¬ (true && decide (natTimeoutUdp.toNat ≤ 60 * 1)) = true
    decide
  refine hbad (minutes 128) rfl k i (by rw [hk]; exact hdies) ((h.live_iff i).mpr (Or.inl rfl))
    (by rw [hi]; exact hstays _) ?_
  rw [hk, hi, hport]
  decide

end Gateway
