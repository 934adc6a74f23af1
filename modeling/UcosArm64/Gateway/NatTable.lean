import Mathlib.Data.Fin.Tuple.Basic
import Mathlib.Data.List.FinRange
import Mathlib.Data.Int.Order.Basic
import UcosArm64.Foundations.Transition

set_option relaxedAutoImplicit false
set_option autoImplicit false

/-!
# The NAT table of `bsp/nat.c`

The static data of `bsp/nat.c` and its translation functions, as the code computes them: a table
of 64 sessions, a hash index from WAN ports and one from `(protocol, LAN port)` to table indices,
a round-robin port counter and statistics. The ARP cache, which lives in the same file and is
cleared by the same `nat_init`, is a field of the state; its functions are in
`UcosArm64.Gateway.ArpCache`.

## Main definitions

* `Gateway.NatState` — the static variables of `bsp/nat.c`.
* `Gateway.natFindEntry`, `Gateway.natFindReverseEntry` — the two lookups through the hash indices.
* `Gateway.natTranslateOutbound`, `Gateway.natTranslateInbound`, `Gateway.natCleanupExpired`.
* `Gateway.NatOp`, `Gateway.natStep` — the three calls as operations of one machine.

## Design

A fixed-size C array is a function from `Fin n`, a pointer into `nat_table` is the index of the
entry. The hash buckets hold `int8_t` values, modelled as integers: `-1` is the empty bucket. An
index outside `0..63` would be an access out of bounds in C; `Gateway.slotOf` maps it to `none`,
and the invariant of `UcosArm64.Gateway.NatIndex` shows that it does not occur. `get_tick_count`
reads the kernel's `OSTime`, which is an argument here. The console output is left out.
-/

namespace Gateway

/-! ## Configuration constants (`bsp/nat.h`) -/

/-- `NAT_TABLE_SIZE` -/
def natTableSize : ℕ := 64

/-- `NAT_HASH_SIZE` -/
def natHashSize : ℕ := 128

/-- `ARP_TABLE_SIZE` -/
def arpTableSize : ℕ := 32

/-- `NAT_TIMEOUT_ICMP`, in seconds. -/
def natTimeoutIcmp : UInt16 := 60

/-- `NAT_TIMEOUT_UDP`, in seconds. -/
def natTimeoutUdp : UInt16 := 120

/-- `NAT_TIMEOUT_TCP_INIT`, in seconds. -/
def natTimeoutTcpInit : UInt16 := 60

/-- `NAT_PROTO_ICMP` -/
def natProtoIcmp : UInt8 := 1

/-- `NAT_PROTO_TCP` -/
def natProtoTcp : UInt8 := 6

/-- `NAT_PROTO_UDP` -/
def natProtoUdp : UInt8 := 17

/-! ## Data -/

/-- An IPv4 address, `uint8_t[4]`. -/
structure Ip4 where
  a : UInt8
  b : UInt8
  c : UInt8
  d : UInt8
  deriving DecidableEq, Repr

/-- An Ethernet address, `uint8_t[6]`. -/
structure Mac where
  b0 : UInt8
  b1 : UInt8
  b2 : UInt8
  b3 : UInt8
  b4 : UInt8
  b5 : UInt8
  deriving DecidableEq, Repr

/-- `struct nat_entry`: one session. -/
structure NatEntry where
  active : Bool
  protocol : UInt8
  lanIp : Ip4
  lanPort : UInt16
  wanPort : UInt16
  dstIp : Ip4
  dstPort : UInt16
  lastActivity : UInt32
  timeoutSec : UInt16

/-- `struct nat_stats` -/
structure NatStats where
  translationsOut : UInt32
  translationsIn : UInt32
  tableFull : UInt32
  noMatch : UInt32
  timeouts : UInt32

/-- `struct arp_entry` -/
structure ArpEntry where
  active : Bool
  ip : Ip4
  mac : Mac
  lastUpdate : UInt32

/-- `struct nat_config` -/
structure NatConfig where
  lanIp : Ip4
  wanIp : Ip4
  portRangeStart : UInt16
  portRangeEnd : UInt16

/-- The static variables of `bsp/nat.c`. -/
structure NatState where
  natTable : Fin natTableSize → NatEntry
  natHashTable : Fin natHashSize → ℤ
  natOutboundHashTable : Fin natHashSize → ℤ
  natStatistics : NatStats
  arpTable : Fin arpTableSize → ArpEntry
  natCfg : NatConfig
  nextPort : UInt16

/-- The initialiser of `nat_cfg`. -/
def natCfgInit : NatConfig where
  lanIp := ⟨192, 168, 1, 2⟩
  wanIp := ⟨10, 3, 5, 99⟩
  portRangeStart := 20000
  portRangeEnd := 30000

/-- An entry of `nat_table` after `util_memset(nat_table, 0, …)`. -/
def NatEntry.zero : NatEntry := ⟨false, 0, ⟨0, 0, 0, 0⟩, 0, 0, ⟨0, 0, 0, 0⟩, 0, 0, 0⟩

/-- An entry of `arp_table` after `util_memset(arp_table, 0, …)`. -/
def ArpEntry.zero : ArpEntry := ⟨false, ⟨0, 0, 0, 0⟩, ⟨0, 0, 0, 0, 0, 0⟩, 0⟩

/-- `nat_init`: clear everything but the configuration. Filling an `int8_t` array with the byte
`-1` stores `-1` in every bucket. -/
def natInit (cfg : NatConfig) : NatState where
  natTable := fun _ => NatEntry.zero
  natHashTable := fun _ => -1
  natOutboundHashTable := fun _ => -1
  natStatistics := ⟨0, 0, 0, 0, 0⟩
  arpTable := fun _ => ArpEntry.zero
  natCfg := cfg
  nextPort := cfg.portRangeStart

/-! ## Helpers -/

/-- `ip_equal` -/
def ipEqual (ip1 ip2 : Ip4) : Bool :=
  ip1.a == ip2.a && ip1.b == ip2.b && ip1.c == ip2.c && ip1.d == ip2.d

/-- `ip_equal` compares the addresses. -/
@[simp] lemma ipEqual_iff (ip1 ip2 : Ip4) : ipEqual ip1 ip2 = true ↔ ip1 = ip2 := by
  cases ip1; cases ip2
  simp [ipEqual, and_assoc]

/-- `nat_is_lan_ip`: the first three bytes are those of the gateway's LAN address. -/
def natIsLanIp (cfg : NatConfig) (ip : Ip4) : Bool :=
  ip.a == cfg.lanIp.a && ip.b == cfg.lanIp.b && ip.c == cfg.lanIp.c

/-- `nat_is_wan_ip` -/
def natIsWanIp (cfg : NatConfig) (ip : Ip4) : Bool := ipEqual ip cfg.wanIp

/-- The conversion `(int8_t)i` of a table index. -/
def toInt8 (i : ℕ) : ℤ := Int.bmod i 256

/-- The table index that a non-negative bucket value names. -/
def slotOf (idx : ℤ) : Option (Fin natTableSize) :=
  if h : 0 ≤ idx ∧ idx.toNat < natTableSize then some ⟨idx.toNat, h.2⟩ else none

/-- Table indices fit into the buckets. -/
@[simp] lemma slotOf_toInt8 (i : Fin natTableSize) : slotOf (toInt8 i) = some i := by
  have hi : (i : ℕ) < 64 := i.isLt
  have h : toInt8 i = (i : ℕ) := by
    unfold toInt8
    rw [Int.bmod_eq_of_le] <;> omega
  rw [h]
  unfold slotOf
  rw [dif_pos ⟨by omega, by rw [Int.toNat_natCast]; exact i.isLt⟩]
  simp only [Int.toNat_natCast, Fin.eta]

/-- The bucket value `-1` names no slot. -/
@[simp] lemma slotOf_neg_one : slotOf (-1) = none := by simp [slotOf]

/-- A bucket that names a slot is not empty. -/
lemma nonneg_of_slotOf {idx : ℤ} {i : Fin natTableSize} (h : slotOf idx = some i) : 0 ≤ idx := by
  unfold slotOf at h
  split_ifs at h with hc
  exact hc.1

/-- `nat_hash` -/
def natHash (wanPort : UInt16) : Fin natHashSize :=
  ⟨(wanPort &&& 127).toNat, by
    have : (wanPort &&& 127).toNat ≤ 127 := by
      rw [UInt16.toNat_and]; exact Nat.and_le_right
    simp only [natHashSize]; omega⟩

/-- `nat_outbound_hash` -/
def natOutboundHash (protocol : UInt8) (lanPort : UInt16) : Fin natHashSize :=
  let key : UInt16 := (protocol.toUInt16 <<< 8) ^^^ lanPort
  ⟨(key &&& 127).toNat, by
    have : (key &&& 127).toNat ≤ 127 := by
      rw [UInt16.toNat_and]; exact Nat.and_le_right
    simp only [natHashSize]; omega⟩

/-- `nat_hash_add` -/
def natHashAdd (s : NatState) (wanPort : UInt16) (tableIndex : ℕ) : NatState :=
  { s with natHashTable := Function.update s.natHashTable (natHash wanPort) (toInt8 tableIndex) }

/-- `nat_hash_remove`: the bucket is blanked, whatever it holds. -/
def natHashRemove (s : NatState) (wanPort : UInt16) : NatState :=
  { s with natHashTable := Function.update s.natHashTable (natHash wanPort) (-1) }

/-- `nat_outbound_hash_add` -/
def natOutboundHashAdd (s : NatState) (protocol : UInt8) (lanPort : UInt16) (tableIndex : ℕ) :
    NatState :=
  let hashIdx := natOutboundHash protocol lanPort
  { s with
    natOutboundHashTable := Function.update s.natOutboundHashTable hashIdx (toInt8 tableIndex) }

/-- `nat_outbound_hash_remove` -/
def natOutboundHashRemove (s : NatState) (protocol : UInt8) (lanPort : UInt16) : NatState :=
  let hashIdx := natOutboundHash protocol lanPort
  { s with natOutboundHashTable := Function.update s.natOutboundHashTable hashIdx (-1) }

/-! ## Lookups and allocation -/

/-- The test of `nat_find_entry` on one entry. -/
def NatEntry.matchesOut (e : NatEntry) (protocol : UInt8) (lanIp : Ip4) (lanPort : UInt16)
    (dstIp : Ip4) (dstPort : UInt16) : Bool :=
  e.active && e.protocol == protocol && ipEqual e.lanIp lanIp && e.lanPort == lanPort &&
    ipEqual e.dstIp dstIp && e.dstPort == dstPort

/-- The test of `nat_find_reverse_entry` on one entry. -/
def NatEntry.matchesIn (e : NatEntry) (protocol : UInt8) (wanPort : UInt16) (srcIp : Ip4)
    (srcPort : UInt16) : Bool :=
  e.active && e.protocol == protocol && e.wanPort == wanPort && ipEqual e.dstIp srcIp &&
    e.dstPort == srcPort

/-- `nat_find_entry`: the entry of the hash bucket if it matches, else a linear search. -/
def natFindEntry (s : NatState) (protocol : UInt8) (lanIp : Ip4) (lanPort : UInt16)
    (dstIp : Ip4) (dstPort : UInt16) : Option (Fin natTableSize) :=
  let hit i := (s.natTable i).matchesOut protocol lanIp lanPort dstIp dstPort
  match slotOf (s.natOutboundHashTable (natOutboundHash protocol lanPort)) with
  | some i => if hit i then some i else Fin.find? hit
  | none => Fin.find? hit

/-- `nat_find_reverse_entry`: nothing if the hash bucket is empty; otherwise the entry of the
bucket if it matches, else a linear search. -/
def natFindReverseEntry (s : NatState) (protocol : UInt8) (wanPort : UInt16) (srcIp : Ip4)
    (srcPort : UInt16) : Option (Fin natTableSize) :=
  let hit i := (s.natTable i).matchesIn protocol wanPort srcIp srcPort
  let tableIdx := s.natHashTable (natHash wanPort)
  if tableIdx < 0 then none
  else
    match slotOf tableIdx with
    | some i => if hit i then some i else Fin.find? hit
    | none => Fin.find? hit

/-- `nat_alloc_entry`: the first entry that is not in use. -/
def natAllocEntry (s : NatState) : Option (Fin natTableSize) :=
  Fin.find? fun i => !(s.natTable i).active

/-- `nat_alloc_port`: the port the counter stands at, and the counter one further, back at the
start of the range when it leaves it. -/
def natAllocPort (s : NatState) : UInt16 × NatState :=
  let port := s.nextPort
  let next := s.nextPort + 1
  let next := if next > s.natCfg.portRangeEnd then s.natCfg.portRangeStart else next
  (port, { s with nextPort := next })

/-- The `switch` over the protocol in `nat_translate_outbound`. -/
def natTimeout (protocol : UInt8) : UInt16 :=
  if protocol = natProtoIcmp then natTimeoutIcmp
  else if protocol = natProtoUdp then natTimeoutUdp
  else if protocol = natProtoTcp then natTimeoutTcpInit
  else natTimeoutUdp

/-! ## Translation -/

/-- Write an entry of `nat_table`. -/
def NatState.setEntry (s : NatState) (i : Fin natTableSize) (e : NatEntry) : NatState :=
  { s with natTable := Function.update s.natTable i e }

/-- `nat_translate_outbound`, at the tick `now`: `some p` is the return value `0` with
`*wan_port = p`, and `none` is the return value `-1`. -/
def natTranslateOutbound (s : NatState) (now : UInt32) (protocol : UInt8) (lanIp : Ip4)
    (lanPort : UInt16) (dstIp : Ip4) (dstPort : UInt16) : NatState × Option UInt16 :=
  match natFindEntry s protocol lanIp lanPort dstIp dstPort with
  | some i =>
    let s := s.setEntry i { s.natTable i with lastActivity := now }
    ({ s with natStatistics.translationsOut := s.natStatistics.translationsOut + 1 },
      some (s.natTable i).wanPort)
  | none =>
    match natAllocEntry s with
    | none => ({ s with natStatistics.tableFull := s.natStatistics.tableFull + 1 }, none)
    | some i =>
      let timeout := natTimeout protocol
      let (allocatedPort, s) := natAllocPort s
      let s := s.setEntry i
        { active := true, protocol, lanIp, lanPort, wanPort := allocatedPort, dstIp, dstPort,
          lastActivity := now, timeoutSec := timeout }
      let s := natHashAdd s allocatedPort i
      let s := natOutboundHashAdd s protocol lanPort i
      ({ s with natStatistics.translationsOut := s.natStatistics.translationsOut + 1 },
        some allocatedPort)

/-- `nat_translate_inbound`, at the tick `now`: `some (ip, p)` is the return value `0` with
`lan_ip = ip` and `*lan_port = p`, and `none` is the return value `-1`. -/
def natTranslateInbound (s : NatState) (now : UInt32) (protocol : UInt8) (wanPort : UInt16)
    (srcIp : Ip4) (srcPort : UInt16) : NatState × Option (Ip4 × UInt16) :=
  match natFindReverseEntry s protocol wanPort srcIp srcPort with
  | none => ({ s with natStatistics.noMatch := s.natStatistics.noMatch + 1 }, none)
  | some i =>
    let s := s.setEntry i { s.natTable i with lastActivity := now }
    ({ s with natStatistics.translationsIn := s.natStatistics.translationsIn + 1 },
      some ((s.natTable i).lanIp, (s.natTable i).lanPort))

/-! ## Expiry -/

/-- The test of the loop of `nat_cleanup_expired` on an active entry: both ticks are rounded down
to seconds and subtracted modulo `2 ^ 32`. -/
def NatEntry.expired (e : NatEntry) (currentTicks : UInt32) : Bool :=
  let currentSec := currentTicks / 1000
  let entrySec := e.lastActivity / 1000
  let ageSec := currentSec - entrySec
  ageSec ≥ e.timeoutSec.toUInt32

/-- One iteration of the loop of `nat_cleanup_expired`, on the state and the count `removed`. -/
def natCleanupEntry (currentTicks : UInt32) (r : NatState × ℕ) (i : Fin natTableSize) :
    NatState × ℕ :=
  let (s, removed) := r
  if !(s.natTable i).active then (s, removed)
  else if (s.natTable i).expired currentTicks then
    let s := natHashRemove s (s.natTable i).wanPort
    let s := natOutboundHashRemove s (s.natTable i).protocol (s.natTable i).lanPort
    let s := s.setEntry i { s.natTable i with active := false }
    ({ s with natStatistics.timeouts := s.natStatistics.timeouts + 1 }, removed + 1)
  else (s, removed)

/-- `nat_cleanup_expired`, at the tick `currentTicks`: the state and the number of entries
removed. -/
def natCleanupExpired (s : NatState) (currentTicks : UInt32) : NatState × ℕ :=
  (List.finRange natTableSize).foldl (natCleanupEntry currentTicks) (s, 0)

/-! ## Runs -/

/-- The calls that change the NAT state, with their arguments and the value of `OSTime`. -/
inductive NatOp
  | outbound (now : UInt32) (protocol : UInt8) (lanIp : Ip4) (lanPort : UInt16) (dstIp : Ip4)
      (dstPort : UInt16)
  | inbound (now : UInt32) (protocol : UInt8) (wanPort : UInt16) (srcIp : Ip4) (srcPort : UInt16)
  | cleanup (currentTicks : UInt32)

/-- The state after one call. -/
def natStep (s : NatState) : NatOp → NatState
  | .outbound now protocol lanIp lanPort dstIp dstPort =>
    (natTranslateOutbound s now protocol lanIp lanPort dstIp dstPort).1
  | .inbound now protocol wanPort srcIp srcPort =>
    (natTranslateInbound s now protocol wanPort srcIp srcPort).1
  | .cleanup currentTicks => (natCleanupExpired s currentTicks).1

end Gateway
