import UcosArm64.Gateway.ArpCache

set_option relaxedAutoImplicit false
set_option autoImplicit false

/-!
# The ARP cache is a bounded map

`arp_cache_lookup` returns the first active slot with the address. Update, insertion, eviction and
expiry keep the active slots at pairwise distinct addresses, so the first match is the only one,
and the 32 slots are a partial map from addresses to Ethernet addresses.

## Main definitions

* `Gateway.arpCacheCleanup` — `arp_cache_cleanup`.
* `Gateway.ArpDistinct` — active entries have pairwise distinct addresses.
* `Gateway.ArpBoundedMap` — what the cache does as a map.

## Main results

* `Gateway.ArpDistinct.add`, `Gateway.ArpDistinct.cleanup` — the invariant.
* `Gateway.ArpDistinct.lookup_add_victim`, `Gateway.arpCacheLookup_add_of_ne_victim` — what is
  forgotten when an entry is overwritten.
* `Gateway.arpBoundedMap_run` — after every sequence of calls the cache is a bounded map.
-/

namespace Gateway

open Transition

/-! ## Expiry -/

/-- `ARP_TIMEOUT`, in seconds. -/
def arpTimeout : UInt32 := 300

/-- The test of the loop of `arp_cache_cleanup` on an active entry: both ticks are rounded down to
seconds and subtracted modulo `2 ^ 32`. -/
def ArpEntry.expired (e : ArpEntry) (currentTicks : UInt32) : Bool :=
  let currentSec := currentTicks / 1000
  let entrySec := e.lastUpdate / 1000
  let ageSec := currentSec - entrySec
  ageSec ≥ arpTimeout

/-- One iteration of the loop of `arp_cache_cleanup`, on the state and the count `removed`. -/
def arpCleanupEntry (currentTicks : UInt32) (r : NatState × ℕ) (i : Fin arpTableSize) :
    NatState × ℕ :=
  let (s, removed) := r
  if !(s.arpTable i).active then (s, removed)
  else if (s.arpTable i).expired currentTicks then
    ({ s with arpTable := Function.update s.arpTable i { s.arpTable i with active := false } },
      removed + 1)
  else (s, removed)

/-- `arp_cache_cleanup`, at the tick `currentTicks`: the state and the number of entries
removed. -/
def arpCacheCleanup (s : NatState) (currentTicks : UInt32) : NatState × ℕ :=
  (List.finRange arpTableSize).foldl (arpCleanupEntry currentTicks) (s, 0)

/-- An entry after the loop has visited it. -/
def ArpEntry.swept (e : ArpEntry) (currentTicks : UInt32) : ArpEntry :=
  if e.active && e.expired currentTicks then { e with active := false } else e

/-- An entry that the loop leaves active is as it was. -/
lemma ArpEntry.eq_of_swept_active {e : ArpEntry} {t : UInt32} (h : (e.swept t).active = true) :
    e.swept t = e := by
  unfold ArpEntry.swept at h ⊢
  by_cases hc : (e.active && e.expired t) = true
  · rw [if_pos hc] at h
    exact absurd h (by simp)
  · rw [if_neg hc]

/-- A second visit changes nothing. -/
lemma ArpEntry.swept_swept (e : ArpEntry) (t : UInt32) : (e.swept t).swept t = e.swept t := by
  by_cases h : (e.swept t).active = true
  · rw [ArpEntry.eq_of_swept_active h, ArpEntry.eq_of_swept_active h]
  · rw [Bool.not_eq_true] at h
    rw [ArpEntry.swept, h, Bool.false_and, if_neg (by simp)]

/-- One iteration sweeps the slot it visits. -/
lemma arpCleanupEntry_arpTable (t : UInt32) (r : NatState × ℕ) (i : Fin arpTableSize) :
    (arpCleanupEntry t r i).1.arpTable =
      Function.update r.1.arpTable i ((r.1.arpTable i).swept t) := by
  obtain ⟨s, n⟩ := r
  by_cases ha : (s.arpTable i).active = true
  · by_cases he : (s.arpTable i).expired t = true
    · simp [arpCleanupEntry, ArpEntry.swept, ha, he]
    · simp [arpCleanupEntry, ArpEntry.swept, ha, he]
  · simp [arpCleanupEntry, ArpEntry.swept, ha]

/-- The entries after the loop has visited the slots in `l`. -/
lemma foldl_arpCleanupEntry_arpTable (t : UInt32) (l : List (Fin arpTableSize))
    (r : NatState × ℕ) (j : Fin arpTableSize) :
    (l.foldl (arpCleanupEntry t) r).1.arpTable j =
      if j ∈ l then (r.1.arpTable j).swept t else r.1.arpTable j := by
  induction l generalizing r with
  | nil => simp
  | cons i l ih =>
    rw [List.foldl_cons, ih, arpCleanupEntry_arpTable]
    by_cases hj : j = i
    · rw [hj, Function.update_self, ArpEntry.swept_swept, ite_self, if_pos List.mem_cons_self]
    · simp only [Function.update_of_ne hj, List.mem_cons, hj, false_or]

/-- **The effect of `arp_cache_cleanup`** on the entries. -/
lemma arpCacheCleanup_arpTable (s : NatState) (t : UInt32) (j : Fin arpTableSize) :
    (arpCacheCleanup s t).1.arpTable j = (s.arpTable j).swept t := by
  rw [arpCacheCleanup, foldl_arpCleanupEntry_arpTable, if_pos (List.mem_finRange j)]

/-! ## At most one slot for an address -/

/-- Active entries have pairwise distinct addresses. -/
def ArpDistinct (s : NatState) : Prop :=
  ∀ i j, (s.arpTable i).active = true → (s.arpTable j).active = true →
    (s.arpTable i).ip = (s.arpTable j).ip → i = j

/-- All slots are in use. -/
def ArpFull (s : NatState) : Prop := ∀ i, (s.arpTable i).active = true

/-- No slot is in use. -/
def ArpEmpty (s : NatState) : Prop := ∀ i, (s.arpTable i).active = false

/-- An address is not cached exactly when no slot is for it. -/
lemma arpCacheLookup_eq_none_iff {s : NatState} {ip : Ip4} :
    arpCacheLookup s ip = none ↔ ∀ i, (s.arpTable i).isFor ip = false := by
  rw [arpCacheLookup, Option.map_eq_none_iff, Fin.find?_eq_none_iff]

/-- An active slot does not hold an address that is not cached. -/
lemma ip_ne_of_lookup_eq_none {s : NatState} {ip : Ip4} (h : arpCacheLookup s ip = none)
    {i : Fin arpTableSize} (hi : (s.arpTable i).active = true) : (s.arpTable i).ip ≠ ip :=
  isFor_eq_false_iff.mp (arpCacheLookup_eq_none_iff.mp h i) hi

/-- An address that is found is in some active slot. -/
lemma exists_isFor_of_lookup {s : NatState} {ip : Ip4} {mac : Mac}
    (h : arpCacheLookup s ip = some mac) :
    ∃ i, (s.arpTable i).isFor ip = true ∧ (s.arpTable i).mac = mac := by
  obtain ⟨i, hi, hmac⟩ := Option.map_eq_some_iff.mp h
  exact ⟨i, Fin.eq_true_of_find?_eq_some hi, hmac⟩

/-- With distinct addresses the first slot for an address is the only one. -/
lemma ArpDistinct.lookup_of_isFor {s : NatState} (hs : ArpDistinct s) {ip : Ip4}
    {i : Fin arpTableSize} (hi : (s.arpTable i).isFor ip = true) :
    arpCacheLookup s ip = some (s.arpTable i).mac := by
  have hfind : Fin.find? (fun j => (s.arpTable j).isFor ip) = some i := by
    refine Fin.find?_eq_some_iff.mpr ⟨hi, fun j hj => isFor_eq_false_iff.mpr fun hact hip => ?_⟩
    rw [isFor_iff] at hi
    exact absurd (hs j i hact hi.1 (hip.trans hi.2.symm)) (ne_of_lt hj)
  rw [arpCacheLookup, hfind, Option.map_some]

/-- An empty cache has no two slots for an address. -/
lemma ArpEmpty.distinct {s : NatState} (hs : ArpEmpty s) : ArpDistinct s := by
  intro i j hi
  rw [hs i] at hi
  exact absurd hi (by simp)

/-- The slot that is written is for the address, or no slot is. -/
lemma arpSlot_isFor_or (s : NatState) (t : UInt32) (ip : Ip4) :
    (s.arpTable (arpSlot s t ip)).isFor ip = true ∨ arpCacheLookup s ip = none := by
  cases hf : Fin.find? (fun i => (s.arpTable i).isFor ip) with
  | none => exact Or.inr (by rw [arpCacheLookup, hf, Option.map_none])
  | some i =>
    left
    have hslot : arpSlot s t ip = i := by
      unfold arpSlot
      simp only [hf]
    rw [hslot]
    exact Fin.eq_true_of_find?_eq_some hf

/-- With distinct addresses no slot but the one that is written is for the address. -/
lemma ArpDistinct.isFor_of_ne_arpSlot {s : NatState} (hs : ArpDistinct s) {t : UInt32} {ip : Ip4}
    {j : Fin arpTableSize} (hj : j ≠ arpSlot s t ip) : (s.arpTable j).isFor ip = false := by
  rcases arpSlot_isFor_or s t ip with h | h
  · rw [isFor_iff] at h
    exact isFor_eq_false_iff.mpr fun hact hip => hj (hs _ _ hact h.1 (hip.trans h.2.symm))
  · exact arpCacheLookup_eq_none_iff.mp h j

/-- **`arp_cache_add` never makes a second slot for an address.** -/
theorem ArpDistinct.add {s : NatState} (hs : ArpDistinct s) (t : UInt32) (ip : Ip4) (mac : Mac) :
    ArpDistinct (arpCacheAdd s t ip mac) := by
  -- a slot other than the written one does not hold the address
  have hother : ∀ j, j ≠ arpSlot s t ip → (s.arpTable j).active = true →
      (s.arpTable j).ip ≠ ip := fun j hj =>
    isFor_eq_false_iff.mp (hs.isFor_of_ne_arpSlot hj)
  intro i j hi hj hij
  by_cases hin : i = arpSlot s t ip <;> by_cases hjn : j = arpSlot s t ip
  · rw [hin, hjn]
  · subst hin
    rw [arpCacheAdd_arpTable_of_ne mac hjn] at hj hij
    rw [arpCacheAdd_arpTable_self] at hij
    exact absurd hij.symm (hother j hjn hj)
  · subst hjn
    rw [arpCacheAdd_arpTable_of_ne mac hin] at hi hij
    rw [arpCacheAdd_arpTable_self] at hij
    exact absurd hij (hother i hin hi)
  · rw [arpCacheAdd_arpTable_of_ne mac hin] at hi hij
    rw [arpCacheAdd_arpTable_of_ne mac hjn] at hj hij
    exact hs i j hi hj hij

/-- **`arp_cache_cleanup` only clears slots**, so it keeps the addresses distinct. -/
theorem ArpDistinct.cleanup {s : NatState} (hs : ArpDistinct s) (t : UInt32) :
    ArpDistinct (arpCacheCleanup s t).1 := by
  intro i j hi hj hij
  rw [arpCacheCleanup_arpTable] at hi hj
  simp only [arpCacheCleanup_arpTable, ArpEntry.eq_of_swept_active hi,
    ArpEntry.eq_of_swept_active hj] at hij
  have hi' := ArpEntry.eq_of_swept_active hi ▸ hi
  have hj' := ArpEntry.eq_of_swept_active hj ▸ hj
  exact hs i j hi' hj' hij

/-! ## Lookups after a call -/

/-- While an address is cached or a slot is free, learning it disturbs no other address. -/
lemma arpCacheLookup_add_of_room {s : NatState} {ip ip' : Ip4} (t : UInt32) (mac : Mac)
    (h : ¬(arpCacheLookup s ip = none ∧ ArpFull s)) (hne : ip ≠ ip') :
    arpCacheLookup (arpCacheAdd s t ip mac) ip' = arpCacheLookup s ip' := by
  by_cases hc : arpCacheLookup s ip = none
  · have hfree : ¬ArpFull s := fun hf => h ⟨hc, hf⟩
    unfold ArpFull at hfree
    push Not at hfree
    obtain ⟨i, hi⟩ := hfree
    exact arpCacheLookup_add_of_free t mac hc (Bool.eq_false_of_not_eq_true hi) hne
  · exact arpCacheLookup_add_of_cached t mac hc hne

/-- Overwriting an active slot forgets its address, unless it is the one that is learnt. -/
lemma ArpDistinct.lookup_add_victim {s : NatState} (hs : ArpDistinct s) {t : UInt32}
    {ip victim : Ip4}
    (mac : Mac) (hslot : (s.arpTable (arpSlot s t ip)).isFor victim = true) (hne : victim ≠ ip) :
    arpCacheLookup (arpCacheAdd s t ip mac) victim = none := by
  refine arpCacheLookup_eq_none_iff.mpr fun j => ?_
  by_cases hj : j = arpSlot s t ip
  · rw [hj, arpCacheAdd_arpTable_self, isFor_mk]
    simpa using hne.symm
  · -- a second slot for the address would break distinctness
    rw [arpCacheAdd_arpTable_of_ne mac hj, isFor_eq_false_iff]
    rw [isFor_iff] at hslot
    exact fun hact hip => hj (hs _ _ hact hslot.1 (hip.trans hslot.2.symm))

/-- Learning an address forgets no other than that of the slot that is overwritten. -/
lemma arpCacheLookup_add_of_ne_victim {s : NatState} {t : UInt32} {ip ip' : Ip4} (mac : Mac)
    (hne : ip ≠ ip') (hvictim : (s.arpTable (arpSlot s t ip)).ip ≠ ip') :
    arpCacheLookup (arpCacheAdd s t ip mac) ip' = arpCacheLookup s ip' :=
  arpCacheLookup_add_of_ne mac (isFor_eq_false_iff.mpr fun _ => hvictim) hne

/-- Learning a new address in a full cache forgets the address of the slot that is overwritten,
and no other. -/
lemma ArpDistinct.lookup_add_of_full {s : NatState} (hs : ArpDistinct s) {ip : Ip4} (t : UInt32)
    (mac : Mac) (hc : arpCacheLookup s ip = none) (hfull : ArpFull s) :
    ∃ victim, victim ≠ ip ∧ arpCacheLookup s victim ≠ none ∧
      arpCacheLookup (arpCacheAdd s t ip mac) victim = none ∧
      ∀ ip', ip' ≠ ip → ip' ≠ victim →
        arpCacheLookup (arpCacheAdd s t ip mac) ip' = arpCacheLookup s ip' := by
  have hslot : (s.arpTable (arpSlot s t ip)).isFor (s.arpTable (arpSlot s t ip)).ip = true :=
    isFor_iff.mpr ⟨hfull _, rfl⟩
  have hvic : (s.arpTable (arpSlot s t ip)).ip ≠ ip := ip_ne_of_lookup_eq_none hc (hfull _)
  refine ⟨(s.arpTable (arpSlot s t ip)).ip, hvic, ?_, hs.lookup_add_victim mac hslot hvic,
    fun ip' hne hnv => arpCacheLookup_add_of_ne_victim mac hne.symm hnv.symm⟩
  rw [hs.lookup_of_isFor hslot]
  exact Option.some_ne_none _

/-- `arp_cache_cleanup` forgets an address or leaves it as it is. -/
lemma ArpDistinct.lookup_cleanup {s : NatState} (hs : ArpDistinct s) (t : UInt32) (ip : Ip4) :
    arpCacheLookup (arpCacheCleanup s t).1 ip = none ∨
      arpCacheLookup (arpCacheCleanup s t).1 ip = arpCacheLookup s ip := by
  cases h : arpCacheLookup (arpCacheCleanup s t).1 ip with
  | none => exact Or.inl rfl
  | some mac =>
    right
    obtain ⟨i, hi, hmac⟩ := exists_isFor_of_lookup h
    rw [arpCacheCleanup_arpTable] at hi hmac
    have hsame := ArpEntry.eq_of_swept_active (isFor_iff.mp hi).1
    rw [hsame] at hi hmac
    rw [hs.lookup_of_isFor hi, hmac]

/-! ## Runs -/

/-- The calls that change the cache, with their arguments and the value of `OSTime`. -/
inductive ArpOp
  | add (currentTime : UInt32) (ip : Ip4) (mac : Mac)
  | cleanup (currentTicks : UInt32)

/-- The state after one call. -/
def arpStep (s : NatState) : ArpOp → NatState
  | .add currentTime ip mac => arpCacheAdd s currentTime ip mac
  | .cleanup currentTicks => (arpCacheCleanup s currentTicks).1

/-- What the cache does as a map. -/
structure ArpBoundedMap (s : NatState) : Prop where
  /-- At most one active slot for an address. -/
  distinct : ArpDistinct s
  /-- At most 32 addresses are cached. -/
  bounded : ∃ l : List Ip4, l.length ≤ arpTableSize ∧ ∀ ip, arpCacheLookup s ip ≠ none → ip ∈ l
  /-- An address just learnt is found. -/
  add_self : ∀ t ip mac, arpCacheLookup (arpCacheAdd s t ip mac) ip = some mac
  /-- Learning a cached address, or a new one while a slot is free, disturbs no other. -/
  add_other : ∀ t ip mac, ¬(arpCacheLookup s ip = none ∧ ArpFull s) → ∀ ip', ip' ≠ ip →
    arpCacheLookup (arpCacheAdd s t ip mac) ip' = arpCacheLookup s ip'
  /-- Learning a new address in a full cache forgets exactly one other. -/
  add_evicts : ∀ t ip mac, arpCacheLookup s ip = none → ArpFull s →
    ∃ victim, victim ≠ ip ∧ arpCacheLookup s victim ≠ none ∧
      arpCacheLookup (arpCacheAdd s t ip mac) victim = none ∧
      ∀ ip', ip' ≠ ip → ip' ≠ victim →
        arpCacheLookup (arpCacheAdd s t ip mac) ip' = arpCacheLookup s ip'
  /-- Expiry only forgets. -/
  cleanup : ∀ t ip, arpCacheLookup (arpCacheCleanup s t).1 ip = none ∨
    arpCacheLookup (arpCacheCleanup s t).1 ip = arpCacheLookup s ip

/-- Distinct addresses make the cache a bounded map. -/
lemma ArpDistinct.boundedMap {s : NatState} (hs : ArpDistinct s) : ArpBoundedMap s where
  distinct := hs
  bounded := by
    refine ⟨(List.finRange arpTableSize).map fun i => (s.arpTable i).ip, by simp, fun ip h => ?_⟩
    obtain ⟨mac, hmac⟩ := Option.ne_none_iff_exists'.mp h
    obtain ⟨i, hi, -⟩ := exists_isFor_of_lookup hmac
    exact List.mem_map.mpr ⟨i, List.mem_finRange i, (isFor_iff.mp hi).2⟩
  add_self := arpCacheLookup_add_self s
  add_other := fun t _ mac h _ hne => arpCacheLookup_add_of_room t mac h hne.symm
  add_evicts := fun t _ mac hc hfull => hs.lookup_add_of_full t mac hc hfull
  cleanup := hs.lookup_cleanup

/-- **Every sequence of calls leaves the cache a bounded map.** The induction is on the calls and
carries `ArpDistinct`; everything else follows from it in each state. -/
theorem arpBoundedMap_run {s : NatState} (hs : ArpEmpty s) (ops : List ArpOp) :
    ArpBoundedMap (run arpStep s ops) := by
  have hstep : ∀ s op, ArpDistinct s → ArpDistinct (arpStep s op) := by
    intro s op hs
    cases op with
    | add t ip mac => exact hs.add t ip mac
    | cleanup t => exact hs.cleanup t
  exact (run_invariant hstep hs.distinct ops).boundedMap

/-- The cache that `nat_init` leaves, after one address has been learnt and expired. -/
theorem arpBoundedMap_natInit :
    ArpBoundedMap (run arpStep (natInit natCfgInit)
      [.add 0 ⟨10, 3, 5, 103⟩ ⟨2, 0, 0, 0, 0, 1⟩, .cleanup 300000]) :=
  arpBoundedMap_run (fun _ => rfl) _

end Gateway
