import Mathlib.Data.UInt
import Mathlib.Tactic.Ring
import UcosArm64.Foundations.DataCache

set_option relaxedAutoImplicit false
set_option autoImplicit false

/-!
# Cache maintenance by address ranges

The functions of `bsp/cache.c`. Each of them aligns the two ends of a range to cache lines and
carries out one operation on every line between them.

## Main definitions

* `Bsp.alignDown`, `Bsp.alignUp`, `Bsp.cacheOpRange` — the parts of the functions.
* `Bsp.cacheCleanRange`, `Bsp.cacheInvalidateRange`, `Bsp.cacheCleanInvalidateRange` — the
  operations that a call carries out, in their order.
* `Bsp.linesOf` — the lines that meet a range.

## Main results

* `Bsp.cacheRanges_spec` — which lines a call maintains.

## Design

The operations of a call are a list, so that the cache and the devices can act between any two of
them. The barriers after the loop order them with what follows, and the order of the list says so.
-/

namespace Bsp

open DataCache

/-- `CACHE_LINE_SIZE` -/
def cacheLineSize : UInt64 := 64

/-- The number of the line of an address. -/
def cacheLine (a : ℕ) : ℕ := a / 64

/-- `align_down` -/
def alignDown (addr : UInt64) : UInt64 := addr &&& ~~~(cacheLineSize - 1)

/-- `align_up` -/
def alignUp (addr : UInt64) : UInt64 := (addr + (cacheLineSize - 1)) &&& ~~~(cacheLineSize - 1)

/-- The addresses at which `cache_op_range` carries out its operation, if its loop ends after fewer
than `n` turns. -/
def cacheOpRange : ℕ → UInt64 → UInt64 → Option (List UInt64)
  | 0, _, _ => none
  | n + 1, addr, stop =>
    if addr < stop then (cacheOpRange n (addr + cacheLineSize) stop).map (addr :: ·) else some []

/-- `dc_cvac` -/
def dcCvac (addr : UInt64) : CacheOp ℕ ℕ UInt8 := .clean (cacheLine addr.toNat)

/-- `dc_ivac` -/
def dcIvac (addr : UInt64) : CacheOp ℕ ℕ UInt8 := .invalidate (cacheLine addr.toNat)

/-- `dc_civac` -/
def dcCivac (addr : UInt64) : CacheOp ℕ ℕ UInt8 := .cleanInvalidate (cacheLine addr.toNat)

/-- What the three functions have in common. -/
def cacheRange (op : UInt64 → CacheOp ℕ ℕ UInt8) (addr size : UInt64) :
    Option (List (CacheOp ℕ ℕ UInt8)) :=
  if size = 0 then some []
  else (cacheOpRange (size.toNat / 64 + 3) (alignDown addr) (alignUp (addr + size))).map
    (List.map op)

/-- `cache_clean_range` -/
def cacheCleanRange : UInt64 → UInt64 → Option (List (CacheOp ℕ ℕ UInt8)) := cacheRange dcCvac

/-- `cache_invalidate_range` -/
def cacheInvalidateRange : UInt64 → UInt64 → Option (List (CacheOp ℕ ℕ UInt8)) := cacheRange dcIvac

/-- `cache_clean_invalidate_range` -/
def cacheCleanInvalidateRange : UInt64 → UInt64 → Option (List (CacheOp ℕ ℕ UInt8)) :=
  cacheRange dcCivac

/-- The lines that the `size` bytes from the address `addr` on lie in. -/
def linesOf (addr size : ℕ) : List ℕ :=
  if size = 0 then [] else List.range' (addr / 64) ((addr + size + 63) / 64 - addr / 64)

/-- **The lines of a range** are those of its bytes. -/
lemma mem_linesOf {addr size l : ℕ} : l ∈ linesOf addr size ↔ ∃ o < size,
    cacheLine (addr + o) = l := by
  unfold linesOf cacheLine
  split_ifs with h
  · simp [h]
  · rw [List.mem_range'_1]
    constructor
    · rintro ⟨hle, hlt⟩
      refine ⟨64 * l - addr, by omega, by omega⟩
    · rintro ⟨o, ho, rfl⟩
      omega

/-- The lines of a range are listed once each. -/
lemma nodup_linesOf (addr size : ℕ) : (linesOf addr size).Nodup := by
  unfold linesOf
  split_ifs
  · exact List.nodup_nil
  · exact List.nodup_range'

/-! ## The ends of a range -/

/-- The mask of the code clears the place in the line. -/
lemma toNat_and_line (x : UInt64) : (x &&& ~~~(cacheLineSize - 1)).toNat = x.toNat / 64 * 64 := by
  have hshift : x.toBitVec &&& ~~~(63#64) = (x.toBitVec >>> 6) <<< 6 := by
    refine BitVec.eq_of_getLsbD_eq fun i hi => ?_
    have hmask : (63#64).getLsbD i = decide (i < 6) := by
      rw [BitVec.getLsbD_ofNat, show 63 = 2 ^ 6 - 1 from rfl, Nat.testBit_two_pow_sub_one]
      simp [hi]
    rw [BitVec.getLsbD_and, BitVec.getLsbD_not, hmask, BitVec.getLsbD_shiftLeft,
      BitVec.getLsbD_ushiftRight]
    by_cases h : i < 6
    · simp [h]
    · simp [h, hi, Nat.add_sub_cancel' (Nat.le_of_not_lt h)]
  have hlt := x.toNat_lt
  calc (x &&& ~~~(cacheLineSize - 1)).toNat = (x.toBitVec &&& ~~~(63#64)).toNat := rfl
    _ = (x.toNat / 64 * 64) % 2 ^ 64 := by
      rw [hshift, BitVec.toNat_shiftLeft, BitVec.toNat_ushiftRight, Nat.shiftRight_eq_div_pow,
        Nat.shiftLeft_eq]
      rfl
    _ = x.toNat / 64 * 64 := Nat.mod_eq_of_lt (by omega)

/-- `align_down` goes down to the start of the line. -/
lemma toNat_alignDown (x : UInt64) : (alignDown x).toNat = x.toNat / 64 * 64 := toNat_and_line x

/-- `align_up` goes up to the start of the next line, and wraps to `0` in the last one. -/
lemma toNat_alignUp (x : UInt64) : (alignUp x).toNat = (x.toNat + 63) % 2 ^ 64 / 64 * 64 := by
  rw [alignUp, toNat_and_line, UInt64.toNat_add]
  rfl

/-! ## The loop -/

/-- **The loop of `cache_op_range`** from the line `a` to the line `b` ends, and goes through the
lines between them.

**Proof sketch.** Induction on the number of turns; the address cannot wrap around before it is at
the end, which is the beginning of a line. -/
lemma cacheOpRange_eq {a b : ℕ} (n : ℕ) {addr stop : UInt64} (ha : addr.toNat = a * 64)
    (hb : stop.toNat = b * 64) (hn : b - a < n) : ∃ as, cacheOpRange n addr stop = some as ∧
      as.map (fun x => cacheLine x.toNat) = List.range' a (b - a) := by
  induction n generalizing a addr with
  | zero => exact absurd hn (Nat.not_lt_zero _)
  | succ n ih =>
    unfold cacheOpRange
    by_cases hlt : addr < stop
    · have hab : a < b := by
        rw [UInt64.lt_iff_toNat_lt, ha, hb] at hlt
        omega
      have hstop := stop.toNat_lt
      have hnext : (addr + cacheLineSize).toNat = (a + 1) * 64 := by
        rw [UInt64.toNat_add, ha, show cacheLineSize.toNat = 64 from rfl,
          Nat.mod_eq_of_lt (by omega)]
        ring
      obtain ⟨as, has, hlines⟩ := ih hnext (by omega)
      refine ⟨addr :: as, by rw [if_pos hlt, has]; rfl, ?_⟩
      rw [List.map_cons, hlines, show b - a = (b - (a + 1)) + 1 by omega, List.range'_succ, ha]
      simp [cacheLine]
    · have hba : b - a = 0 := by
        rw [UInt64.lt_iff_toNat_lt, ha, hb] at hlt
        omega
      exact ⟨[], if_neg hlt, by rw [hba]; rfl⟩

/-- The lines from the one that a range begins in to the one that begins at the aligned end of the
range, as the code computes it. -/
def sweptLines (addr size : UInt64) : List ℕ :=
  List.range' (addr.toNat / 64) (((addr + size).toNat + 63) % 2 ^ 64 / 64 - addr.toNat / 64)

/-- A call ends, and carries out its operation on these lines. -/
lemma cacheRange_eq (op : ℕ → CacheOp ℕ ℕ UInt8) {addr size : UInt64} (hsize : size ≠ 0) :
    cacheRange (fun x => op (cacheLine x.toNat)) addr size =
      some ((sweptLines addr size).map op) := by
  have hn : ((addr + size).toNat + 63) % 2 ^ 64 / 64 - addr.toNat / 64 < size.toNat / 64 + 3 := by
    rw [UInt64.toNat_add]
    have hle : ((addr.toNat + size.toNat) % 2 ^ 64 + 63) % 2 ^ 64 ≤ addr.toNat + size.toNat + 63 :=
      (Nat.mod_le _ _).trans (Nat.add_le_add_right (Nat.mod_le _ _) _)
    omega
  obtain ⟨as, has, hlines⟩ :=
    cacheOpRange_eq (size.toNat / 64 + 3) (toNat_alignDown addr) (toNat_alignUp (addr + size)) hn
  rw [cacheRange, if_neg hsize, has, sweptLines, ← hlines, Option.map_some, List.map_map]
  rfl

/-- The lines of a range that ends before the last line of the address space. -/
lemma sweptLines_eq {addr size : UInt64} (hsize : size ≠ 0)
    (h : addr.toNat + size.toNat ≤ 2 ^ 64 - 64) :
    sweptLines addr size = linesOf addr.toNat size.toNat := by
  have hne : size.toNat ≠ 0 := fun hz => hsize (UInt64.toNat_inj.mp hz)
  rw [sweptLines, linesOf, if_neg hne, UInt64.toNat_add,
    Nat.mod_eq_of_lt (show addr.toNat + size.toNat < 2 ^ 64 by omega),
    Nat.mod_eq_of_lt (show addr.toNat + size.toNat + 63 < 2 ^ 64 by omega)]

/-- The end of a range that reaches into the last line of the address space is aligned to `0`. -/
lemma sweptLines_last {addr size : UInt64} (hlow : 2 ^ 64 - 64 < addr.toNat + size.toNat)
    (hhigh : addr.toNat + size.toNat ≤ 2 ^ 64) : sweptLines addr size = [] := by
  have haddr := addr.toNat_lt
  have hend : ((addr + size).toNat + 63) % 2 ^ 64 / 64 = 0 := by
    rw [UInt64.toNat_add]
    omega
  rw [sweptLines, hend, Nat.zero_sub]
  rfl

/-- A call for a range that ends before the last line of the address space. -/
lemma cacheRange_linesOf (op : ℕ → CacheOp ℕ ℕ UInt8) (addr size : UInt64)
    (h : addr.toNat + size.toNat ≤ 2 ^ 64 - 64) :
    cacheRange (fun x => op (cacheLine x.toNat)) addr size =
      some ((linesOf addr.toNat size.toNat).map op) := by
  by_cases hsize : size = 0
  · subst hsize
    rfl
  · rw [cacheRange_eq op hsize, sweptLines_eq hsize h]

/-- **Which lines a call maintains.** The loops of the three functions always end. A call for a
range that ends before the last line of the address space carries out its operation on every line
that a byte of the range lies in, once, in ascending order, and on no other; a call for a range
that reaches into the last line carries out nothing. -/
theorem cacheRanges_spec (addr size : UInt64) :
    ∃ lines : List ℕ, cacheCleanRange addr size = some (lines.map .clean) ∧
      cacheInvalidateRange addr size = some (lines.map .invalidate) ∧
      cacheCleanInvalidateRange addr size = some (lines.map .cleanInvalidate) ∧
      (addr.toNat + size.toNat ≤ 2 ^ 64 - 64 → lines.Pairwise (· < ·) ∧
        ∀ l, l ∈ lines ↔ ∃ o < size.toNat, cacheLine (addr.toNat + o) = l) ∧
      (2 ^ 64 - 64 < addr.toNat + size.toNat → addr.toNat + size.toNat ≤ 2 ^ 64 → lines = []) := by
  by_cases hsize : size = 0
  · subst hsize
    exact ⟨[], rfl, rfl, rfl, fun _ => ⟨List.Pairwise.nil, by simp⟩, fun _ _ => rfl⟩
  · refine ⟨sweptLines addr size, cacheRange_eq .clean hsize, cacheRange_eq .invalidate hsize,
      cacheRange_eq .cleanInvalidate hsize, fun h => ⟨List.pairwise_lt_range', fun l => ?_⟩,
      sweptLines_last⟩
    rw [sweptLines_eq hsize h]
    exact mem_linesOf

end Bsp
