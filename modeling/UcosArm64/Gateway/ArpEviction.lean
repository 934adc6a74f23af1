import UcosArm64.Foundations.WrapClock
import UcosArm64.Gateway.ArpMap

set_option relaxedAutoImplicit false
set_option autoImplicit false

/-!
# Which ARP entry is replaced

When all 32 slots are in use, `arp_cache_add` looks for the slot with the least stamp below the
current tick and takes slot 0 if there is none. The stamps are ticks modulo `2 ^ 32`, and they are
compared as numbers: after the counter has wrapped, the entries stamped before the wrap look
younger than all others.

## Main definitions

* `Gateway.TimedCache`, `Gateway.timedAdd` — the cache together with the times, as natural numbers,
  at which the slots were written.
* `Gateway.ReplacesOldest` — a call replaces an entry whose last update is oldest.
* `Gateway.StampsInOrder` — the stamps and the tick for which the search is right.

## Main results

* `Gateway.exec_timedAdd_nat` — the cache of a timed run is the cache of the code.
* `Gateway.replacesOldest_iff_stampsInOrder` — in every reachable state a call replaces an oldest
  entry exactly if the stamps are in order.
* `Gateway.not_replacesOldest_wrapped` — after the wrap an entry that is not the oldest is
  replaced.

## Design

The times of the calls are natural numbers that never decrease, and `OSTime` shows them modulo `2 ^
32`. The times at which slots were written are on record; no call reads them. A call is possible
while no active entry is older than the counter can tell.
-/

namespace Gateway

open Transition WrapClock

/-! ## Runs with times -/

/-- A call of `arp_cache_add` at a time. -/
structure ArpCall where
  time : ℕ
  ip : Ip4
  mac : Mac

/-- The value of `OSTime`. -/
def ArpCall.tick (call : ArpCall) : UInt32 := UInt32.ofNat call.time

/-- The cache, the times at which its slots were last written, and the time of the last call. -/
structure TimedCache where
  nat : NatState
  updated : Fin arpTableSize → ℕ
  clock : ℕ

/-- After `nat_init`, at time 0. -/
def timedInit (cfg : NatConfig) : TimedCache := ⟨natInit cfg, fun _ => 0, 0⟩

/-- The slot that a call writes. -/
def TimedCache.slot (c : TimedCache) (call : ArpCall) : Fin arpTableSize :=
  arpSlot c.nat call.tick call.ip

/-- One call. The clock does not go back, and no active entry is `2 ^ 32` ticks old. -/
def timedAdd (c : TimedCache) (call : ArpCall) : Option TimedCache :=
  if c.clock ≤ call.time ∧
      ∀ i, (c.nat.arpTable i).active = true → call.time - c.updated i < 4294967296 then
    some ⟨arpCacheAdd c.nat call.tick call.ip call.mac,
      Function.update c.updated (c.slot call) call.time, call.time⟩
  else none

/-- **The record does not change the cache**: a timed run goes through the states of the code. -/
theorem exec_timedAdd_nat {c c' : TimedCache} {calls : List ArpCall}
    (h : exec timedAdd c calls = some c') :
    c'.nat = run arpStep c.nat (calls.map fun call => .add call.tick call.ip call.mac) := by
  induction calls generalizing c with
  | nil =>
    obtain rfl : c = c' := by simpa using h
    rfl
  | cons call calls ih =>
    rw [exec_cons] at h
    obtain ⟨d, hd, h⟩ := Option.bind_eq_some_iff.mp h
    unfold timedAdd at hd
    split_ifs at hd
    rw [ih h, ← Option.some.inj hd]
    rfl

/-! ## The stamps -/

/-- The stamps of the active entries show the times of their last updates. -/
def Stamped (c : TimedCache) : Prop :=
  ∀ i, (c.nat.arpTable i).active = true →
    (c.nat.arpTable i).lastUpdate.toNat = c.updated i % 4294967296 ∧ c.updated i ≤ c.clock

/-- An empty cache has no stamps. -/
lemma stamped_timedInit (cfg : NatConfig) : Stamped (timedInit cfg) :=
  fun _ h => absurd h (by simp [timedInit, natInit, ArpEntry.zero])

/-- A call stamps the entry that it writes. -/
lemma Stamped.step {c c' : TimedCache} {call : ArpCall} (hc : Stamped c)
    (h : timedAdd c call = some c') : Stamped c' := by
  unfold timedAdd at h
  split_ifs at h with hguard
  obtain rfl := Option.some.inj h
  intro i hi
  show ((arpCacheAdd c.nat call.tick call.ip call.mac).arpTable i).lastUpdate.toNat =
    Function.update c.updated (c.slot call) call.time i % 4294967296 ∧
      Function.update c.updated (c.slot call) call.time i ≤ call.time
  by_cases hslot : i = c.slot call
  · rw [hslot, Function.update_self, TimedCache.slot, arpCacheAdd_arpTable_self]
    exact ⟨UInt32.toNat_ofNat', le_rfl⟩
  · have hkeep := arpCacheAdd_arpTable_of_ne (t := call.tick) call.mac hslot
    rw [Function.update_of_ne hslot, hkeep]
    obtain ⟨hstamp, hle⟩ := hc i (hkeep ▸ hi)
    exact ⟨hstamp, hle.trans hguard.1⟩

/-- The stamps are right in every reachable state. -/
lemma stamped_exec {cfg : NatConfig} {c : TimedCache} {calls : List ArpCall}
    (h : exec timedAdd (timedInit cfg) calls = some c) : Stamped c :=
  exec_invariant (fun _ _ _ hs hstep => hs.step hstep) (stamped_timedInit cfg) h

/-! ## The replaced entry -/

/-- If the call adds a new address to a cache whose slots are all in use, an entry that it replaces
is one whose last update is oldest. -/
def ReplacesOldest (c : TimedCache) (call : ArpCall) : Prop :=
  arpCacheLookup c.nat call.ip = none → ArpFull c.nat →
    ∀ i, (arpCacheAdd c.nat call.tick call.ip call.mac).arpTable i ≠ c.nat.arpTable i →
      ∀ j, c.updated i ≤ c.updated j

/-- The cache has a slot 0. -/
lemma arpTableSize_pos : 0 < arpTableSize := by decide

/-- If the call adds a new address to a cache whose slots are all in use, no stamp is above the
current tick; or none is below it, and slot 0 holds the least of those above. -/
def StampsInOrder (c : TimedCache) (call : ArpCall) : Prop :=
  arpCacheLookup c.nat call.ip = none → ArpFull c.nat →
    (∀ i, (c.nat.arpTable i).lastUpdate ≤ call.tick) ∨
      ((∀ i, call.tick ≤ (c.nat.arpTable i).lastUpdate) ∧
        call.tick < (c.nat.arpTable ⟨0, arpTableSize_pos⟩).lastUpdate ∧
        ∀ i, call.tick < (c.nat.arpTable i).lastUpdate →
          (c.nat.arpTable ⟨0, arpTableSize_pos⟩).lastUpdate ≤ (c.nat.arpTable i).lastUpdate)

/-- **What the search for the oldest entry finds**: slot 0 if no stamp is below the current tick,
else a slot with the least stamp. -/
lemma arpSlot_of_full {s : NatState} {t : UInt32} {ip : Ip4} (hnew : arpCacheLookup s ip = none)
    (hfull : ArpFull s) :
    (arpSlot s t ip = ⟨0, arpTableSize_pos⟩ ∧ ∀ j, t.toNat ≤ (s.arpTable j).lastUpdate.toNat) ∨
      ((s.arpTable (arpSlot s t ip)).lastUpdate.toNat < t.toNat ∧ ∀ j,
        (s.arpTable (arpSlot s t ip)).lastUpdate.toNat ≤ (s.arpTable j).lastUpdate.toNat) := by
  have hfind : Fin.find? (fun i => (s.arpTable i).isFor ip) = none :=
    Fin.find?_eq_none_iff.mpr (arpCacheLookup_eq_none_iff.mp hnew)
  have hfree : Fin.find? (fun i => !(s.arpTable i).active) = none := by
    refine Fin.find?_eq_none_iff.mpr fun i => ?_
    rw [hfull i]
    rfl
  have hslot : arpSlot s t ip =
      ((List.finRange arpTableSize).foldl (arpOlder s) (t, ⟨0, arpTableSize_pos⟩)).2 := by
    unfold arpSlot
    rw [hfind]
    simp only
    rw [hfree]
  have hstep : ∀ r i, arpOlder s r i = if (s.arpTable i).lastUpdate.toNat < r.1.toNat then
      ((s.arpTable i).lastUpdate, i) else r := fun r i =>
    if_congr UInt32.lt_iff_toNat_lt rfl rfl
  rcases foldl_least UInt32.toNat (fun i => (s.arpTable i).lastUpdate) hstep
    (List.finRange arpTableSize) (t, ⟨0, arpTableSize_pos⟩) with ⟨heq, hall⟩ | ⟨heq, hless, hall⟩
  · refine Or.inl ⟨?_, fun j => hall j (List.mem_finRange j)⟩
    rw [hslot, heq]
  · rw [← hslot] at heq
    rw [heq] at hless hall
    exact Or.inr ⟨hless, fun j => hall j (List.mem_finRange j)⟩

/-- A call changes the slot that it writes, if the address is new, and no other. -/
lemma arpCacheAdd_arpTable_ne_iff {s : NatState} (t : UInt32) {ip : Ip4} (mac : Mac)
    (hnew : arpCacheLookup s ip = none) (hfull : ArpFull s) (i : Fin arpTableSize) :
    (arpCacheAdd s t ip mac).arpTable i ≠ s.arpTable i ↔ i = arpSlot s t ip := by
  constructor
  · intro h
    by_contra hne
    exact h (arpCacheAdd_arpTable_of_ne mac hne)
  · rintro rfl h
    rw [arpCacheAdd_arpTable_self] at h
    exact ip_ne_of_lookup_eq_none hnew (hfull _) (by rw [← h])

/-- With right stamps a call replaces an oldest entry exactly if the stamps are in order.

**Proof sketch.** The stamps and the tick are readings of the counter, so the ticks elapsed between
them are the true ages (`elapsed_mod`). The search returns the least reading below the current one,
and `smallest_oldest_iff` says when that is the one with the greatest age. -/
lemma Stamped.replacesOldest_iff {c c' : TimedCache} {call : ArpCall} (hstamped : Stamped c)
    (h' : timedAdd c call = some c') : ReplacesOldest c call ↔ StampsInOrder c call := by
  unfold timedAdd at h'
  split_ifs at h' with hguard
  refine forall_congr' fun hnew => forall_congr' fun hfull => ?_
  -- the true ages are those that the counter tells
  have hage : ∀ i, elapsed 4294967296 (c.nat.arpTable i).lastUpdate.toNat call.tick.toNat =
      call.time - c.updated i := by
    intro i
    obtain ⟨hstamp, hle⟩ := hstamped i (hfull i)
    have htick : call.tick.toNat = call.time % 4294967296 := UInt32.toNat_ofNat'
    rw [hstamp, htick]
    exact elapsed_mod (hle.trans hguard.1) (hguard.2 i (hfull i))
  have holder : ∀ i j, c.updated i ≤ c.updated j ↔
      elapsed 4294967296 (c.nat.arpTable j).lastUpdate.toNat call.tick.toNat ≤
        elapsed 4294967296 (c.nat.arpTable i).lastUpdate.toNat call.tick.toNat := by
    intro i j
    have hi := (hstamped i (hfull i)).2.trans hguard.1
    have hj := (hstamped j (hfull j)).2.trans hguard.1
    rw [hage, hage]
    omega
  have hsearch := smallest_oldest_iff (M := 4294967296)
    (fun i => (c.nat.arpTable i).lastUpdate.toNat_lt) call.tick.toNat_lt
    (arpSlot_of_full (t := call.tick) hnew hfull)
  simp only [arpCacheAdd_arpTable_ne_iff call.tick call.mac hnew hfull, forall_eq, holder,
    UInt32.le_iff_toNat_le, UInt32.lt_iff_toNat_lt]
  exact hsearch

/-- **When the oldest entry is replaced.** In every state that a run of calls leads to, a call
replaces an entry whose last update is oldest exactly if the stamps are in order. -/
theorem replacesOldest_iff_stampsInOrder (cfg : NatConfig) (calls : List ArpCall) (call : ArpCall)
    (c c' : TimedCache) (h : exec timedAdd (timedInit cfg) calls = some c)
    (h' : timedAdd c call = some c') : ReplacesOldest c call ↔ StampsInOrder c call :=
  (stamped_exec h).replacesOldest_iff h'

/-! ## A cache that fills up around the wrap -/

/-- The cache after the first `n` of the calls, which add `n` different addresses. -/
def filled (cfg : NatConfig) (call : ℕ → ArpCall) (n : ℕ) : TimedCache where
  nat := { natInit cfg with
    arpTable := fun i => if (i : ℕ) < n then ⟨true, (call i).ip, (call i).mac, (call i).tick⟩
      else ArpEntry.zero }
  updated := fun i => if (i : ℕ) < n then (call i).time else 0
  clock := if n = 0 then 0 else (call (n - 1)).time

section Filled

variable {cfg : NatConfig} {call : ℕ → ArpCall} {n : ℕ}

/-- The slots are taken in their order. -/
lemma slot_filled (hn : n < arpTableSize) (hip : ∀ k < n, (call k).ip ≠ (call n).ip) :
    (filled cfg call n).slot (call n) = ⟨n, hn⟩ := by
  have hnew : Fin.find? (fun i => ((filled cfg call n).nat.arpTable i).isFor (call n).ip) =
      none := by
    refine Fin.find?_eq_none_iff.mpr fun i => isFor_eq_false_iff.mpr fun hact => ?_
    simp only [filled] at hact ⊢
    split_ifs at hact ⊢ with hi
    · exact hip i hi
    · exact absurd hact (by decide)
  have hfree : Fin.find? (fun i => !((filled cfg call n).nat.arpTable i).active) =
      some ⟨n, hn⟩ := by
    refine Fin.find?_eq_some_iff.mpr ⟨?_, fun j hj => ?_⟩
    · simp [filled, ArpEntry.zero]
    · have hlt : (j : ℕ) < n := hj
      simp [filled, hlt]
  unfold TimedCache.slot arpSlot
  rw [hnew]
  simp only
  rw [hfree]

/-- Writing the slot after those that are filled. -/
lemma update_filled {α : Type} (g : ℕ → α) (z : α) (hn : n < arpTableSize) :
    Function.update (fun i : Fin arpTableSize => if (i : ℕ) < n then g i else z) ⟨n, hn⟩ (g n) =
      fun i : Fin arpTableSize => if (i : ℕ) < n + 1 then g i else z := by
  funext i
  by_cases hi : i = ⟨n, hn⟩
  · rw [hi, Function.update_self, if_pos (Nat.lt_succ_self n)]
  · have hne : (i : ℕ) ≠ n := fun h => hi (Fin.ext h)
    rw [Function.update_of_ne hi]
    exact if_congr (by omega) rfl rfl

/-- One more call. -/
lemma timedAdd_filled (hn : n < arpTableSize) (hip : ∀ k < n, (call k).ip ≠ (call n).ip)
    (htime : ∀ k < n, (call k).time ≤ (call n).time)
    (hage : ∀ k < n, (call n).time < (call k).time + 4294967296) :
    timedAdd (filled cfg call n) (call n) = some (filled cfg call (n + 1)) := by
  have hclock : (filled cfg call n).clock ≤ (call n).time := by
    simp only [filled]
    split_ifs with h0
    · exact Nat.zero_le _
    · exact htime (n - 1) (by omega)
  have hguard : ∀ i, ((filled cfg call n).nat.arpTable i).active = true →
      (call n).time - (filled cfg call n).updated i < 4294967296 := by
    intro i hi
    simp only [filled] at hi ⊢
    split_ifs at hi ⊢ with hlt
    · have := hage i hlt
      omega
    · exact absurd hi (by decide)
  unfold timedAdd
  rw [if_pos ⟨hclock, hguard⟩, slot_filled hn hip, arpCacheAdd]
  congr 1
  have hslot : arpSlot (filled cfg call n).nat (call n).tick (call n).ip = ⟨n, hn⟩ :=
    slot_filled hn hip
  rw [hslot]
  simp only [filled, Nat.succ_ne_zero, if_false, Nat.add_sub_cancel, TimedCache.mk.injEq,
    NatState.mk.injEq, true_and, and_true]
  exact ⟨update_filled (fun k => ⟨true, (call k).ip, (call k).mac, (call k).tick⟩) ArpEntry.zero hn,
    update_filled (fun k => (call k).time) 0 hn⟩

/-- Calls that add different addresses fill the cache. -/
lemma exec_filled (hip : ∀ n < arpTableSize, ∀ k < n, (call k).ip ≠ (call n).ip)
    (htime : ∀ n < arpTableSize, ∀ k < n, (call k).time ≤ (call n).time)
    (hage : ∀ n < arpTableSize, ∀ k < n, (call n).time < (call k).time + 4294967296)
    (hn : n ≤ arpTableSize) :
    exec timedAdd (timedInit cfg) ((List.range n).map call) = some (filled cfg call n) := by
  induction n with
  | zero => rfl
  | succ n ih =>
    rw [List.range_succ, List.map_append, List.map_singleton, exec_concat_eq_some]
    exact ⟨_, ih (by omega), timedAdd_filled hn (hip n hn) (htime n hn) (hage n hn)⟩

/-- The cache is full after 32 calls. -/
lemma arpFull_filled : ArpFull (filled cfg call arpTableSize).nat := by
  intro i
  simp [filled]

end Filled

/-- 192.168.2.0 is learnt two ticks before the counter wraps, and the addresses after it when the
counter stands at 5. -/
def wrapCall (k : ℕ) : ArpCall :=
  ⟨if k = 0 then 4294967294 else 4294967301, ⟨192, 168, 2, UInt8.ofNat k⟩, ⟨2, 0, 0, 0, 0, 1⟩⟩

/-- A new address, when the counter stands at 10. -/
def lateCall : ArpCall := ⟨4294967306, ⟨192, 168, 3, 1⟩, ⟨2, 0, 0, 0, 0, 2⟩⟩

/-- The calls fill the table, slot by slot. -/
lemma exec_wrapCall :
    exec timedAdd (timedInit natCfgInit) ((List.range arpTableSize).map wrapCall) =
    some (filled natCfgInit wrapCall arpTableSize) := by
  refine exec_filled (fun n hn k hk h => ?_) (fun n _ k hk => ?_) (fun n _ k _ => ?_) le_rfl
  · have hn' : n < 32 := hn
    have hnat := congrArg (fun ip : Ip4 => ip.d.toNat) h
    simp only [wrapCall, UInt8.toNat_ofNat'] at hnat
    omega
  · simp only [wrapCall]
    split_ifs <;> omega
  · simp only [wrapCall]
    split_ifs <;> omega

/-- The late call is one in time. -/
lemma timedAdd_lateCall : ∃ c, timedAdd (filled natCfgInit wrapCall arpTableSize) lateCall =
    some c := by
  unfold timedAdd
  rw [if_pos]
  · exact ⟨_, rfl⟩
  · refine ⟨by decide, fun i _ => ?_⟩
    have hlt : (i : ℕ) < arpTableSize := i.isLt
    simp only [filled, hlt, if_true, wrapCall, lateCall]
    split_ifs <;> omega

/-- The call after the wrap, in a run that fills the cache. -/
theorem replacesOldest_iff_lateCall :
    ReplacesOldest (filled natCfgInit wrapCall arpTableSize) lateCall ↔
      StampsInOrder (filled natCfgInit wrapCall arpTableSize) lateCall := by
  obtain ⟨c, hc⟩ := timedAdd_lateCall
  exact replacesOldest_iff_stampsInOrder natCfgInit _ lateCall _ c exec_wrapCall hc

/-- **After the wrap the oldest entry stays.** Slot 0 was written twelve ticks ago, before the
counter wrapped, and the other slots five ticks ago; a new address replaces one of these. -/
theorem not_replacesOldest_wrapped :
    ¬∀ cfg calls call c c', exec timedAdd (timedInit cfg) calls = some c →
      timedAdd c call = some c' → ReplacesOldest c call := by
  intro hall
  obtain ⟨c, hc⟩ := timedAdd_lateCall
  have hreplaces := hall _ _ _ _ _ exec_wrapCall hc
  have horder := ((stamped_exec exec_wrapCall).replacesOldest_iff hc).mp hreplaces
  have hnew : arpCacheLookup (filled natCfgInit wrapCall arpTableSize).nat lateCall.ip = none := by
    refine arpCacheLookup_eq_none_iff.mpr fun i => ?_
    simp [filled, ArpEntry.isFor, ipEqual, wrapCall, lateCall]
  rcases horder hnew arpFull_filled with h | ⟨h, -⟩
  · exact absurd (h ⟨0, by decide⟩) (by decide)
  · exact absurd (h ⟨1, by decide⟩) (by decide)

end Gateway
