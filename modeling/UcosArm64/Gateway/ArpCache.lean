import UcosArm64.Gateway.NatTable

set_option relaxedAutoImplicit false
set_option autoImplicit false

/-!
# The ARP cache of `bsp/nat.c`

## Main definitions

* `Gateway.arpCacheAdd`, `Gateway.arpCacheLookup` — the two functions of the cache that frame
  processing uses.

## Main results

* `Gateway.arpCacheLookup_add_self` — an address just learnt is found, also if it evicted another.
* `Gateway.arpCacheLookup_add_of_cached`, `Gateway.arpCacheLookup_add_of_free` — learning a cached
  address again, or a new one while a slot is free, disturbs no other.
-/

namespace Gateway

/-- The test of the loops of the cache on one entry. -/
def ArpEntry.isFor (e : ArpEntry) (ip : Ip4) : Bool := e.active && ipEqual e.ip ip

/-- One iteration of the loop that looks for the oldest entry, on `oldest_time` and `oldest_idx`. -/
def arpOlder (s : NatState) (r : UInt32 × Fin arpTableSize) (i : Fin arpTableSize) :
    UInt32 × Fin arpTableSize :=
  if (s.arpTable i).lastUpdate < r.1 then ((s.arpTable i).lastUpdate, i) else r

/-- The slot that `arp_cache_add` writes: the first active one with the address, else the first
free one, else the oldest. -/
def arpSlot (s : NatState) (currentTime : UInt32) (ip : Ip4) : Fin arpTableSize :=
  match Fin.find? fun i => (s.arpTable i).isFor ip with
  | some i => i
  | none =>
    match Fin.find? fun i => !(s.arpTable i).active with
    | some i => i
    | none =>
      ((List.finRange arpTableSize).foldl (arpOlder s) (currentTime, ⟨0, by decide⟩)).2

/-- `arp_cache_add`, at the tick `currentTime`. -/
def arpCacheAdd (s : NatState) (currentTime : UInt32) (ip : Ip4) (mac : Mac) : NatState :=
  { s with
    arpTable := Function.update s.arpTable (arpSlot s currentTime ip) ⟨true, ip, mac, currentTime⟩ }

/-- `arp_cache_lookup`: `some mac` is the return value `true`. -/
def arpCacheLookup (s : NatState) (ip : Ip4) : Option Mac :=
  (Fin.find? fun i => (s.arpTable i).isFor ip).map fun i => (s.arpTable i).mac

/-- The slot that is written. -/
@[simp] lemma arpCacheAdd_arpTable_self (s : NatState) (t : UInt32) (ip : Ip4) (mac : Mac) :
    (arpCacheAdd s t ip mac).arpTable (arpSlot s t ip) = ⟨true, ip, mac, t⟩ :=
  Function.update_self _ _ _

/-- The other slots. -/
lemma arpCacheAdd_arpTable_of_ne {s : NatState} {t : UInt32} {ip : Ip4} (mac : Mac)
    {j : Fin arpTableSize} (hj : j ≠ arpSlot s t ip) :
    (arpCacheAdd s t ip mac).arpTable j = s.arpTable j :=
  Function.update_of_ne hj _ _

/-- An entry is for the address it was written for, and for no other. -/
lemma isFor_mk (ip ip' : Ip4) (mac : Mac) (t : UInt32) :
    (ArpEntry.mk true ip mac t).isFor ip' = decide (ip = ip') := by
  rw [Bool.eq_iff_iff]
  simp [ArpEntry.isFor]

/-- The test of the loops of the cache. -/
lemma isFor_iff {e : ArpEntry} {ip : Ip4} : e.isFor ip = true ↔ e.active = true ∧ e.ip = ip := by
  simp [ArpEntry.isFor]

/-- The test fails on a free slot and on one with another address. -/
lemma isFor_eq_false_iff {e : ArpEntry} {ip : Ip4} :
    e.isFor ip = false ↔ (e.active = true → e.ip ≠ ip) := by
  rw [← Bool.not_eq_true, isFor_iff, not_and]

/-- No slot before the one that is written is for the address. -/
lemma isFor_of_lt_arpSlot {s : NatState} {t : UInt32} {ip : Ip4} {j : Fin arpTableSize}
    (hj : j < arpSlot s t ip) : (s.arpTable j).isFor ip = false := by
  unfold arpSlot at hj
  cases hf : Fin.find? (fun i => (s.arpTable i).isFor ip) with
  | none => exact Fin.find?_eq_none_iff.mp hf j
  | some i =>
    rw [hf] at hj
    exact (Fin.find?_eq_some_iff.mp hf).2 j hj

/-- A lookup depends on the cache only. -/
lemma arpCacheLookup_congr {s s' : NatState} (h : s'.arpTable = s.arpTable) (ip : Ip4) :
    arpCacheLookup s' ip = arpCacheLookup s ip := by
  unfold arpCacheLookup
  rw [h]

/-- **An address just learnt is found.** -/
theorem arpCacheLookup_add_self (s : NatState) (t : UInt32) (ip : Ip4) (mac : Mac) :
    arpCacheLookup (arpCacheAdd s t ip mac) ip = some mac := by
  have hfind : Fin.find? (fun i => ((arpCacheAdd s t ip mac).arpTable i).isFor ip) =
      some (arpSlot s t ip) := by
    refine Fin.find?_eq_some_iff.mpr ⟨?_, fun j hj => ?_⟩
    · rw [arpCacheAdd_arpTable_self, isFor_mk]
      simp
    · rw [arpCacheAdd_arpTable_of_ne mac (ne_of_lt hj)]
      exact isFor_of_lt_arpSlot hj
  rw [arpCacheLookup, hfind, Option.map_some, arpCacheAdd_arpTable_self]

/-- Writing a slot that is not for an address does not disturb that address. -/
lemma arpCacheLookup_add_of_ne {s : NatState} {t : UInt32} {ip ip' : Ip4} (mac : Mac)
    (hold : (s.arpTable (arpSlot s t ip)).isFor ip' = false) (hne : ip ≠ ip') :
    arpCacheLookup (arpCacheAdd s t ip mac) ip' = arpCacheLookup s ip' := by
  -- the slot is not for the other address, before or after
  have hsame : (fun j => ((arpCacheAdd s t ip mac).arpTable j).isFor ip') =
      fun j => (s.arpTable j).isFor ip' := by
    funext j
    by_cases hj : j = arpSlot s t ip
    · rw [hj, arpCacheAdd_arpTable_self, isFor_mk, hold]
      simp [hne]
    · rw [arpCacheAdd_arpTable_of_ne mac hj]
  unfold arpCacheLookup
  rw [hsame]
  cases hg : Fin.find? (fun j => (s.arpTable j).isFor ip') with
  | none => rw [Option.map_none, Option.map_none]
  | some k =>
    have hk : k ≠ arpSlot s t ip := by
      rintro rfl
      have hit := Fin.eq_true_of_find?_eq_some hg
      rw [hold] at hit
      exact absurd hit (by simp)
    rw [Option.map_some, Option.map_some, arpCacheAdd_arpTable_of_ne mac hk]

/-- **Learning a cached address again** rewrites its own entry and disturbs no other address. -/
theorem arpCacheLookup_add_of_cached {s : NatState} {ip ip' : Ip4} (t : UInt32) (mac : Mac)
    (hc : arpCacheLookup s ip ≠ none) (hne : ip ≠ ip') :
    arpCacheLookup (arpCacheAdd s t ip mac) ip' = arpCacheLookup s ip' := by
  cases hf : Fin.find? (fun i => (s.arpTable i).isFor ip) with
  | none =>
    unfold arpCacheLookup at hc
    rw [hf, Option.map_none] at hc
    exact (hc rfl).elim
  | some i =>
    have hslot : arpSlot s t ip = i := by
      unfold arpSlot
      simp only [hf]
    have hi : (s.arpTable i).ip = ip := (isFor_iff.mp (Fin.eq_true_of_find?_eq_some hf)).2
    refine arpCacheLookup_add_of_ne mac ?_ hne
    rw [hslot, isFor_eq_false_iff, hi]
    exact fun _ => hne

/-- Learning a new address disturbs no other one while a slot is free. -/
theorem arpCacheLookup_add_of_free {s : NatState} {ip ip' : Ip4} {i : Fin arpTableSize} (t : UInt32)
    (mac : Mac) (hc : arpCacheLookup s ip = none) (hi : (s.arpTable i).active = false)
    (hne : ip ≠ ip') : arpCacheLookup (arpCacheAdd s t ip mac) ip' = arpCacheLookup s ip' := by
  have hf : Fin.find? (fun i => (s.arpTable i).isFor ip) = none := by
    unfold arpCacheLookup at hc
    exact Option.map_eq_none_iff.mp hc
  refine arpCacheLookup_add_of_ne mac ?_ hne
  cases hg : Fin.find? (fun i => !(s.arpTable i).active) with
  | none =>
    have hall := Fin.find?_eq_none_iff.mp hg i
    rw [hi] at hall
    exact absurd hall (by simp)
  | some j =>
    have hslot : arpSlot s t ip = j := by
      unfold arpSlot
      simp only [hf, hg]
    have hfree := Fin.eq_true_of_find?_eq_some hg
    rw [Bool.not_eq_true'] at hfree
    rw [hslot, ArpEntry.isFor, hfree, Bool.false_and]

/-- After `nat_init` nothing is cached. -/
lemma arpCacheLookup_natInit (cfg : NatConfig) (ip : Ip4) :
    arpCacheLookup (natInit cfg) ip = none := by
  have hf : Fin.find? (fun i => ((natInit cfg).arpTable i).isFor ip) = none :=
    Fin.find?_eq_none_iff.mpr fun _ => rfl
  rw [arpCacheLookup, hf, Option.map_none]

/-- The first two addresses learnt after `nat_init` are both found. -/
lemma arpCacheLookup_second (cfg : NatConfig) (t t' : UInt32) {ip ip' : Ip4} (mac mac' : Mac)
    (hne : ip' ≠ ip) :
    arpCacheLookup (arpCacheAdd (arpCacheAdd (natInit cfg) t ip mac) t' ip' mac') ip =
      some mac := by
  have hfree : ∃ i, ((arpCacheAdd (natInit cfg) t ip mac).arpTable i).active = false := by
    by_cases h : (⟨0, by decide⟩ : Fin arpTableSize) = arpSlot (natInit cfg) t ip
    · have h' : (⟨1, by decide⟩ : Fin arpTableSize) ≠ arpSlot (natInit cfg) t ip := by
        rw [← h]
        decide
      exact ⟨_, by rw [arpCacheAdd_arpTable_of_ne mac h']; rfl⟩
    · exact ⟨_, by rw [arpCacheAdd_arpTable_of_ne mac h]; rfl⟩
  obtain ⟨i, hi⟩ := hfree
  have hnew : arpCacheLookup (arpCacheAdd (natInit cfg) t ip mac) ip' = none := by
    rw [arpCacheLookup_add_of_free (i := ⟨0, by decide⟩) t mac (arpCacheLookup_natInit cfg ip) rfl
      hne.symm, arpCacheLookup_natInit]
  rw [arpCacheLookup_add_of_free t' mac' hnew hi hne, arpCacheLookup_add_self]

end Gateway
