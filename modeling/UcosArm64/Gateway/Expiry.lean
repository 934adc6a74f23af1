import UcosArm64.Foundations.Tally
import UcosArm64.Foundations.WrapClock
import UcosArm64.Gateway.ArpMap
import UcosArm64.Gateway.NatSteps

set_option relaxedAutoImplicit false
set_option autoImplicit false

/-!
# Expiry across the wrap of the tick counter

`nat_cleanup_expired` and `arp_cache_cleanup` divide the current tick and the stamp of an entry by
1000 and subtract the quotients modulo `2 ^ 32`. The quotients stay below `2 ^ 32 / 1000`, so the
subtraction is not the one of a counter of seconds: after `OSTime` has wrapped, an entry stamped
before the wrap has an age of more than four billion seconds, or of zero when both ticks lie in the
same second.

## Main definitions

* `Gateway.Expires` — what a sweep over a table is meant to do.
* `Gateway.Timely` — the stamp and the current tick for which the test of the sweep is right.

## Main results

* `Gateway.expires_iff_timely` — both sweeps do what they are meant to exactly when all active
  entries are timely.
* `Gateway.not_expires_wrapped` — a session that is one tick old is removed.
-/

namespace Gateway

open WrapClock

/-- The sweep at the tick `now` takes the table `t` to `t'` and reports `removed`: it removes the
active entries that are at least as old as their timeout, none that is younger by a second or
more, leaves the others as they are and counts those it removes. An entry is described by its
`active` flag, its stamp and its timeout in seconds. -/
structure Expires {n : ℕ} {E : Type} (active : E → Bool) (stamp timeout : E → UInt32)
    (now : UInt32) (t t' : Fin n → E) (removed : ℕ) : Prop where
  removes : ∀ i, active (t i) = true →
    (timeout (t i)).toNat * 1000 ≤ (now - stamp (t i)).toNat → active (t' i) = false
  keeps : ∀ i, active (t i) = true →
    ((now - stamp (t i)).toNat : ℤ) ≤ ((timeout (t i)).toNat - 1 : ℤ) * 1000 → active (t' i) = true
  unchanged : ∀ i, ¬(active (t i) = true ∧ active (t' i) = false) → t' i = t i
  count : removed = (List.finRange n).countP fun i => active (t i) && !active (t' i)

/-- The stamp `last` is no later than the current tick; or the timeout is zero; or the tick counter
has wrapped since, into another second, and more than `timeout - 1` seconds have passed. -/
def Timely (timeout last now : UInt32) : Prop :=
  last ≤ now ∨ timeout = 0 ∨
    (now / 1000 ≠ last / 1000 ∧ timeout.toNat * 1000 < (now - last).toNat + 1000)

/-- `nat_cleanup_expired` does what it is meant to in the state `s` at the tick `now`. -/
def NatExpires (s : NatState) (now : UInt32) : Prop :=
  Expires NatEntry.active NatEntry.lastActivity (fun e => e.timeoutSec.toUInt32) now s.natTable
    (natCleanupExpired s now).1.natTable (natCleanupExpired s now).2

/-- `arp_cache_cleanup` does what it is meant to in the state `s` at the tick `now`. -/
def ArpExpires (s : NatState) (now : UInt32) : Prop :=
  Expires ArpEntry.active ArpEntry.lastUpdate (fun _ => arpTimeout) now s.arpTable
    (arpCacheCleanup s now).1.arpTable (arpCacheCleanup s now).2

/-! ## The test of the sweeps -/

/-- The test of the sweeps is right for an entry, up to one second, exactly when it is timely. -/
lemma timely_iff_test {timeout last now : UInt32} (hT : timeout.toNat ≤ 65535) :
    ((timeout.toNat * 1000 ≤ (now - last).toNat → timeout ≤ now / 1000 - last / 1000) ∧
        (((now - last).toNat : ℤ) ≤ (timeout.toNat - 1 : ℤ) * 1000 →
          ¬timeout ≤ now / 1000 - last / 1000)) ↔
      Timely timeout last now := by
  have hage : timeout ≤ now / 1000 - last / 1000 ↔
      timeout.toNat ≤ unitAge (2 ^ 32) 1000 last.toNat now.toNat := by
    rw [UInt32.le_iff_toNat_le, toNat_div_sub_eq_unitAge]
    rfl
  have hearly : ((now - last).toNat : ℤ) ≤ (timeout.toNat - 1 : ℤ) * 1000 ↔
      elapsed (2 ^ 32) last.toNat now.toNat + 1000 ≤ timeout.toNat * 1000 := by
    rw [toNat_sub_eq_elapsed]
    omega
  have hsec : now / 1000 ≠ last / 1000 ↔ now.toNat / 1000 ≠ last.toNat / 1000 := by
    rw [Ne, ← UInt32.toNat_inj, UInt32.toNat_div, UInt32.toNat_div]
    rfl
  have hzero : timeout = 0 ↔ timeout.toNat = 0 := by rw [← UInt32.toNat_inj]; rfl
  rw [hage, hearly, Nat.not_le, Timely, hsec, hzero, UInt32.le_iff_toNat_le, toNat_sub_eq_elapsed]
  exact timely_iff (by decide) (by omega) last.toNat_lt now.toNat_lt

section Sweep

variable {n : ℕ} {E : Type} {active : E → Bool} {stamp timeout : E → UInt32} {now : UInt32}
  {t t' : Fin n → E} {removed : ℕ}

/-- **A sweep that clears the active entries its test selects** does what it is meant to exactly
when all active entries are timely.

**Proof sketch.** That the others stay and that the count is right holds by construction. The two
remaining clauses are the two halves of the test, entry by entry. -/
lemma expires_iff_of_clears (clear : E → E) (hT : ∀ e, (timeout e).toNat ≤ 65535)
    (hclear : ∀ e, active (clear e) = false)
    (ht : ∀ i, t' i = if active (t i) && decide (timeout (t i) ≤ now / 1000 - stamp (t i) / 1000)
      then clear (t i) else t i)
    (hcount : removed = (List.finRange n).countP fun i =>
      active (t i) && decide (timeout (t i) ≤ now / 1000 - stamp (t i) / 1000)) :
    Expires active stamp timeout now t t' removed ↔
      ∀ i, active (t i) = true → Timely (timeout (t i)) (stamp (t i)) now := by
  -- an active entry is removed when the test succeeds
  have hgone : ∀ i, active (t i) = true →
      (active (t' i) = false ↔ timeout (t i) ≤ now / 1000 - stamp (t i) / 1000) := by
    intro i hi
    rw [ht i, hi, Bool.true_and]
    by_cases hold : timeout (t i) ≤ now / 1000 - stamp (t i) / 1000
    · simp [hold, hclear]
    · simp [hold, hi]
  have hstays : ∀ i, active (t i) = true →
      (active (t' i) = true ↔ ¬timeout (t i) ≤ now / 1000 - stamp (t i) / 1000) := by
    intro i hi
    rw [← hgone i hi, Bool.not_eq_false]
  constructor
  · intro h i hi
    refine (timely_iff_test (hT _)).mp ⟨fun hlate => ?_, fun hearly => ?_⟩
    · exact (hgone i hi).mp (h.removes i hi hlate)
    · exact (hstays i hi).mp (h.keeps i hi hearly)
  · intro h
    refine ⟨fun i hi hlate => ?_, fun i hi hearly => ?_, fun i hi => ?_, ?_⟩
    · exact (hgone i hi).mpr (((timely_iff_test (hT _)).mpr (h i hi)).1 hlate)
    · exact (hstays i hi).mpr (((timely_iff_test (hT _)).mpr (h i hi)).2 hearly)
    · by_cases hact : active (t i) = true
      · have hold : ¬timeout (t i) ≤ now / 1000 - stamp (t i) / 1000 :=
          fun hold => hi ⟨hact, (hgone i hact).mpr hold⟩
        rw [ht i, hact, Bool.true_and, decide_eq_false hold, if_neg (by simp)]
      · rw [Bool.not_eq_true] at hact
        rw [ht i, hact, Bool.false_and, if_neg (by simp)]
    · rw [hcount]
      refine List.countP_congr fun i _ => ?_
      by_cases hact : active (t i) = true
      · rw [hact, Bool.true_and, Bool.true_and, decide_eq_true_iff, Bool.not_eq_true', hgone i hact]
      · rw [Bool.not_eq_true] at hact
        rw [hact, Bool.false_and, Bool.false_and]

end Sweep

/-! ## The two sweeps -/

/-- One iteration of the loop of `nat_cleanup_expired` counts the entry it removes. -/
lemma natCleanupEntry_count (now : UInt32) (r : NatState × ℕ) (i : Fin natTableSize) :
    (natCleanupEntry now r i).2 = r.2 + if (r.1.natTable i).dies now then 1 else 0 := by
  obtain ⟨s, m⟩ := r
  by_cases ha : (s.natTable i).active = true
  · by_cases he : (s.natTable i).expired now = true
    · simp [natCleanupEntry, NatEntry.dies, ha, he]
    · simp [natCleanupEntry, NatEntry.dies, ha, he]
  · simp [natCleanupEntry, NatEntry.dies, ha]

/-- The count of `nat_cleanup_expired`. -/
lemma natCleanupExpired_count (s : NatState) (now : UInt32) :
    (natCleanupExpired s now).2 =
      (List.finRange natTableSize).countP fun i => (s.natTable i).dies now := by
  have hother : ∀ r i j, j ≠ i →
      ((natCleanupEntry now r i).1.natTable j).dies now = (r.1.natTable j).dies now := by
    intro r i j hj
    rw [(natCleanupEntry_sweepsOn now r i).table j, if_neg (by simpa using hj)]
  rw [natCleanupExpired, foldl_count _ (fun s i => (s.natTable i).dies now)
    (natCleanupEntry_count now) hother _ (List.nodup_finRange _)]
  exact Nat.zero_add _

/-- One iteration of the loop of `arp_cache_cleanup` counts the entry it removes. -/
lemma arpCleanupEntry_count (now : UInt32) (r : NatState × ℕ) (i : Fin arpTableSize) :
    (arpCleanupEntry now r i).2 =
      r.2 + if (r.1.arpTable i).active && (r.1.arpTable i).expired now then 1 else 0 := by
  obtain ⟨s, m⟩ := r
  by_cases ha : (s.arpTable i).active = true
  · by_cases he : (s.arpTable i).expired now = true
    · simp [arpCleanupEntry, ha, he]
    · simp [arpCleanupEntry, ha, he]
  · simp [arpCleanupEntry, ha]

/-- The count of `arp_cache_cleanup`. -/
lemma arpCacheCleanup_count (s : NatState) (now : UInt32) :
    (arpCacheCleanup s now).2 = (List.finRange arpTableSize).countP fun i =>
      (s.arpTable i).active && (s.arpTable i).expired now := by
  have hother : ∀ (r : NatState × ℕ) i j, j ≠ i →
      (((arpCleanupEntry now r i).1.arpTable j).active &&
          ((arpCleanupEntry now r i).1.arpTable j).expired now) =
        ((r.1.arpTable j).active && (r.1.arpTable j).expired now) := by
    intro r i j hj
    rw [arpCleanupEntry_arpTable, Function.update_of_ne hj]
  rw [arpCacheCleanup, foldl_count _
    (fun s i => (s.arpTable i).active && (s.arpTable i).expired now) (arpCleanupEntry_count now)
    hother _ (List.nodup_finRange _)]
  exact Nat.zero_add _

/-- `nat_cleanup_expired` does what it is meant to exactly when all active sessions are timely. -/
lemma natExpires_iff (s : NatState) (now : UInt32) :
    NatExpires s now ↔ ∀ i, (s.natTable i).active = true →
      Timely (s.natTable i).timeoutSec.toUInt32 (s.natTable i).lastActivity now := by
  refine expires_iff_of_clears (fun e => { e with active := false }) (fun e => ?_)
    (fun _ => rfl) (fun i => ?_) ?_
  · rw [UInt16.toNat_toUInt32]
    exact Nat.le_of_lt_succ e.timeoutSec.toNat_lt
  · rw [(natCleanupExpired_sweeps s now).table i, if_pos (List.mem_finRange i)]
    rfl
  · exact natCleanupExpired_count s now

/-- `arp_cache_cleanup` does what it is meant to exactly when all active entries are timely. -/
lemma arpExpires_iff (s : NatState) (now : UInt32) :
    ArpExpires s now ↔ ∀ i, (s.arpTable i).active = true →
      Timely arpTimeout (s.arpTable i).lastUpdate now := by
  refine expires_iff_of_clears (fun e => { e with active := false }) (fun _ => by decide)
    (fun _ => rfl) (fun i => ?_) ?_
  · rw [arpCacheCleanup_arpTable]
    rfl
  · exact arpCacheCleanup_count s now

/-- **Expiry on a wrapping tick counter.** In every state and at every tick, each of the two sweeps
does what it is meant to exactly when all active entries of its table are timely. -/
theorem expires_iff_timely (s : NatState) (now : UInt32) :
    (NatExpires s now ↔ ∀ i, (s.natTable i).active = true →
      Timely (s.natTable i).timeoutSec.toUInt32 (s.natTable i).lastActivity now) ∧
    (ArpExpires s now ↔ ∀ i, (s.arpTable i).active = true →
      Timely arpTimeout (s.arpTable i).lastUpdate now) :=
  ⟨natExpires_iff s now, arpExpires_iff s now⟩

/-- **A session that is one tick old is removed.** It is opened in the last tick before the counter
wraps and swept out in the first tick after, 59 seconds before its timeout is over. -/
theorem not_expires_wrapped :
    ¬∀ s now, NatExpires s now ∧ ArpExpires s now := by
  intro h
  let s := natStep (natInit natCfgInit)
    (.outbound 4294967295 natProtoIcmp ⟨192, 168, 1, 103⟩ 1 ⟨10, 3, 5, 103⟩ 0)
  have hentry : s.natTable ⟨0, by decide⟩ = ⟨true, natProtoIcmp, ⟨192, 168, 1, 103⟩, 1, 20000,
      ⟨10, 3, 5, 103⟩, 0, 4294967295, 60⟩ := by rfl
  have htimely := (natExpires_iff s 0).mp (h s 0).1 ⟨0, by decide⟩
  rw [hentry] at htimely
  rcases htimely rfl with hle | hzero | ⟨-, hage⟩
  · exact absurd hle (by decide)
  · exact absurd hzero (by decide)
  · exact absurd hage (by decide)

end Gateway
