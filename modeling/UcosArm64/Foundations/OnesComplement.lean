import Mathlib.Data.Nat.ModEq
import Mathlib.Logic.Function.Basic
import Mathlib.Tactic.Common
import Mathlib.Tactic.Ring

set_option relaxedAutoImplicit false
set_option autoImplicit false

/-!
# One's complement checksums

The arithmetic of 16-bit one's complement checksums: sums of 16-bit words in a wider accumulator,
folded with end-around carry, complemented and stored in the checksum field. Sums are natural
numbers; folding is reduction modulo `65535` to the range `1..65535`, with `0` only for the
sum `0`.

## Main definitions

* `OnesComplement.carry` — one pass of the end-around carry.
* `OnesComplement.fold` — what the passes end with.
* `OnesComplement.sumBE`, `OnesComplement.sumLE` — the sum of the 16-bit words of a stretch of
  bytes, read in either byte order, a last odd byte padded with zero.
* `OnesComplement.wordSum` — the form that the two have in common.
* `OnesComplement.AllOnes` — the test that a receiver makes.
* `OnesComplement.swap` — the bytes of a word swapped.

## Main results

* `OnesComplement.carry_carry_eq_fold` — two passes suffice for 32-bit sums.
* `OnesComplement.allOnes_add_complement` — a sum and its complement pass the receiver's test.
* `OnesComplement.allOnes_swap_iff` — the test does not depend on the byte order.
* `OnesComplement.sumBE_word`, `OnesComplement.sumLE_word` — the share of one word in a sum.
* `OnesComplement.fold_swap` — folding commutes with the change of the byte order.
-/

namespace OnesComplement

/-! ## Folding -/

/-- One pass of the end-around carry. -/
def carry (s : ℕ) : ℕ := s % 65536 + s / 65536

/-- The folded sum: `0` for `0`, and the representative in `1..65535` otherwise. -/
def fold (s : ℕ) : ℕ := if s = 0 then 0 else (s - 1) % 65535 + 1

/-- A pass of the carry keeps the sum modulo `65535`. -/
lemma carry_modEq (s : ℕ) : carry s ≡ s [MOD 65535] := by
  unfold carry Nat.ModEq
  omega

/-- A pass of the carry keeps a sum positive. -/
lemma carry_eq_zero_iff (s : ℕ) : carry s = 0 ↔ s = 0 := by
  unfold carry
  omega

/-- A 32-bit sum has no carry left after two passes. -/
lemma carry_carry_lt {s : ℕ} (hs : s < 4294967296) : carry (carry s) < 65536 := by
  unfold carry
  omega

/-- A sum without a carry is folded. -/
lemma fold_of_lt {s : ℕ} (hs : s < 65536) : fold s = s := by
  unfold fold
  split_ifs with h
  · exact h.symm
  · omega

/-- The folded sum fits into 16 bits. -/
lemma fold_le (s : ℕ) : fold s ≤ 65535 := by
  unfold fold
  split_ifs <;> omega

/-- Only the sum `0` folds to `0`. -/
lemma fold_eq_zero_iff (s : ℕ) : fold s = 0 ↔ s = 0 := by
  unfold fold
  split_ifs with h
  · simp [h]
  · simp [h]

/-- The folded sum depends on the sum modulo `65535`, and on its being `0`. -/
lemma fold_congr {s t : ℕ} (h : s ≡ t [MOD 65535]) (h₀ : s = 0 ↔ t = 0) : fold s = fold t := by
  unfold fold
  unfold Nat.ModEq at h
  by_cases hs : s = 0
  · rw [if_pos hs, if_pos (h₀.mp hs)]
  · have ht : t ≠ 0 := mt h₀.mpr hs
    rw [if_neg hs, if_neg ht]
    omega

/-- **Two passes fold a 32-bit sum.** -/
theorem carry_carry_eq_fold {s : ℕ} (hs : s < 4294967296) : carry (carry s) = fold s := by
  rw [← fold_of_lt (carry_carry_lt hs)]
  refine fold_congr ((carry_modEq _).trans (carry_modEq s)) ?_
  rw [carry_eq_zero_iff, carry_eq_zero_iff]

/-- A sum without a carry is not changed by a further pass. -/
lemma carry_of_lt {s : ℕ} (hs : s < 65536) : carry s = s := by
  unfold carry
  omega

/-! ## The receiver's test -/

/-- The folded sum of a stretch of words that contains its checksum has all bits set. -/
def AllOnes (s : ℕ) : Prop := fold s = 65535

/-- The test is divisibility by `65535`, for a positive sum. -/
lemma allOnes_iff (s : ℕ) : AllOnes s ↔ 0 < s ∧ s % 65535 = 0 := by
  unfold AllOnes fold
  by_cases h : s = 0
  · simp [h]
  · rw [if_neg h]
    omega

/-- **A sum and its complement.** A sum passes the test when the complement of its folded value is
added. -/
theorem allOnes_add_complement (s : ℕ) : AllOnes (s + (65535 - fold s)) := by
  rw [allOnes_iff]
  unfold fold
  split_ifs with h <;> omega

/-! ## Sums of words -/

/-- The sum of the big-endian 16-bit words of the `n` bytes from `o`. -/
def sumBE (f : ℕ → ℕ) : ℕ → ℕ → ℕ
  | _, 0 => 0
  | o, 1 => 256 * f o
  | o, n + 2 => 256 * f o + f (o + 1) + sumBE f (o + 2) n

/-- The sum of the little-endian 16-bit words of the `n` bytes from `o`. -/
def sumLE (f : ℕ → ℕ) : ℕ → ℕ → ℕ
  | _, 0 => 0
  | o, 1 => f o
  | o, n + 2 => f o + 256 * f (o + 1) + sumLE f (o + 2) n

variable {f g : ℕ → ℕ}

/-- The sum of the values that `w` gives to the pairs of bytes, for the `n` bytes from `o`; a last
odd byte is paired with zero. Both byte orders are of this form. -/
def wordSum (w : ℕ → ℕ → ℕ) (f : ℕ → ℕ) : ℕ → ℕ → ℕ
  | _, 0 => 0
  | o, 1 => w (f o) 0
  | o, n + 2 => w (f o) (f (o + 1)) + wordSum w f (o + 2) n

/-- The big-endian sum is one of words. -/
lemma sumBE_eq_wordSum (f : ℕ → ℕ) (o n : ℕ) :
    sumBE f o n = wordSum (fun x y => 256 * x + y) f o n := by
  induction o, n using sumBE.induct with
  | case1 o => rfl
  | case2 o => rfl
  | case3 o n ih => rw [sumBE, wordSum, ih]

/-- The little-endian sum is one of words. -/
lemma sumLE_eq_wordSum (f : ℕ → ℕ) (o n : ℕ) :
    sumLE f o n = wordSum (fun x y => x + 256 * y) f o n := by
  induction o, n using sumLE.induct with
  | case1 o => rfl
  | case2 o => rfl
  | case3 o n ih => rw [sumLE, wordSum, ih]

/-- A sum depends only on the bytes it is over. -/
lemma wordSum_congr {w : ℕ → ℕ → ℕ} {o n : ℕ} (h : ∀ k, o ≤ k → k < o + n → f k = g k) :
    wordSum w f o n = wordSum w g o n := by
  induction o, n using sumBE.induct with
  | case1 o => rfl
  | case2 o => rw [wordSum, wordSum, h o le_rfl (by omega)]
  | case3 o n ih =>
    rw [wordSum, wordSum, h o le_rfl (by omega), h (o + 1) (by omega) (by omega),
      ih fun k hk hk' => h k (by omega) (by omega)]

/-- A sum depends only on the bytes it is over, wherever they lie. -/
lemma wordSum_shift {w : ℕ → ℕ → ℕ} {o o' n : ℕ} (h : ∀ k < n, f (o + k) = g (o' + k)) :
    wordSum w f o n = wordSum w g o' n := by
  induction o, n using sumBE.induct generalizing o' with
  | case1 o => rfl
  | case2 o =>
    have h₀ : f o = g o' := h 0 (by omega)
    rw [wordSum, wordSum, h₀]
  | case3 o n ih =>
    have h₀ : f o = g o' := h 0 (by omega)
    rw [wordSum, wordSum, h₀, h 1 (by omega), @ih (o' + 2) fun k hk => ?_]
    rw [Nat.add_assoc, Nat.add_assoc]
    exact h (2 + k) (by omega)

/-- The sum of an even number of bytes and those after them. -/
lemma wordSum_append (w : ℕ → ℕ → ℕ) (f : ℕ → ℕ) (o k n : ℕ) :
    wordSum w f o (2 * k + n) = wordSum w f o (2 * k) + wordSum w f (o + 2 * k) n := by
  induction k generalizing o with
  | zero => simp [wordSum]
  | succ k ih =>
    have hsplit : 2 * (k + 1) + n = 2 * k + n + 2 := by ring
    have hnext : o + 2 * (k + 1) = o + 2 + 2 * k := by ring
    rw [hsplit, hnext, Nat.mul_succ, wordSum, wordSum, ih (o + 2), ← Nat.add_assoc]

/-- A sum of `n` bytes has at most `(n + 1) / 2` words. -/
lemma wordSum_le {w : ℕ → ℕ → ℕ} (hw : ∀ x y, x ≤ 255 → y ≤ 255 → w x y ≤ 65535)
    (hf : ∀ k, f k ≤ 255) (o n : ℕ) : wordSum w f o n ≤ 65535 * ((n + 1) / 2) := by
  induction o, n using sumBE.induct with
  | case1 o => simp [wordSum]
  | case2 o => simpa [wordSum] using hw (f o) 0 (hf o) (Nat.zero_le _)
  | case3 o n ih =>
    have hword := hw (f o) (f (o + 1)) (hf o) (hf (o + 1))
    rw [wordSum]
    omega

/-- **The share of one word.** Clearing the word at an even distance from the start takes its value
from the sum. -/
theorem wordSum_word {w : ℕ → ℕ → ℕ} (hw : w 0 0 = 0) {o n k : ℕ} (hk : 2 * k + 2 ≤ n) :
    wordSum w f o n =
      wordSum w (Function.update (Function.update f (o + 2 * k) 0) (o + 2 * k + 1) 0) o n +
        w (f (o + 2 * k)) (f (o + 2 * k + 1)) := by
  induction o, n using sumBE.induct generalizing k with
  | case1 o => omega
  | case2 o => omega
  | case3 o n ih =>
    rw [wordSum, wordSum]
    cases k with
    | zero =>
      -- the first word is the cleared one, and the rest does not see it
      have hrest : wordSum w (Function.update (Function.update f (o + 2 * 0) 0) (o + 2 * 0 + 1) 0)
          (o + 2) n = wordSum w f (o + 2) n := by
        refine wordSum_congr fun j hj _ => ?_
        rw [Function.update_of_ne (by omega), Function.update_of_ne (by omega)]
      rw [hrest]
      simp [hw, Nat.add_comm]
    | succ k =>
      have hword := ih (k := k) (by omega)
      rw [show o + 2 + 2 * k = o + 2 * (k + 1) by ring] at hword
      rw [hword, Function.update_of_ne (by omega), Function.update_of_ne (by omega),
        Function.update_of_ne (by omega), Function.update_of_ne (by omega)]
      omega

/-! ## The two byte orders -/

/-- The big-endian sum depends on the bytes of its range only. -/
lemma sumBE_congr {o n : ℕ} (h : ∀ k, o ≤ k → k < o + n → f k = g k) :
    sumBE f o n = sumBE g o n := by
  rw [sumBE_eq_wordSum, sumBE_eq_wordSum, wordSum_congr h]

/-- The little-endian sum depends on the bytes of its range only. -/
lemma sumLE_congr {o n : ℕ} (h : ∀ k, o ≤ k → k < o + n → f k = g k) :
    sumLE f o n = sumLE g o n := by
  rw [sumLE_eq_wordSum, sumLE_eq_wordSum, wordSum_congr h]

/-- The big-endian sum of the same bytes at another offset. -/
lemma sumBE_shift {o o' n : ℕ} (h : ∀ k < n, f (o + k) = g (o' + k)) :
    sumBE f o n = sumBE g o' n := by
  rw [sumBE_eq_wordSum, sumBE_eq_wordSum, wordSum_shift h]

/-- The big-endian sum of an even number of bytes and of those after them. -/
lemma sumBE_append (f : ℕ → ℕ) (o k n : ℕ) :
    sumBE f o (2 * k + n) = sumBE f o (2 * k) + sumBE f (o + 2 * k) n := by
  rw [sumBE_eq_wordSum, sumBE_eq_wordSum, sumBE_eq_wordSum, wordSum_append]

/-- The bound of the big-endian sum. -/
lemma sumBE_le (hf : ∀ k, f k ≤ 255) (o n : ℕ) : sumBE f o n ≤ 65535 * ((n + 1) / 2) := by
  rw [sumBE_eq_wordSum]
  exact wordSum_le (fun x y _ _ => by omega) hf o n

/-- The bound of the little-endian sum. -/
lemma sumLE_le (hf : ∀ k, f k ≤ 255) (o n : ℕ) : sumLE f o n ≤ 65535 * ((n + 1) / 2) := by
  rw [sumLE_eq_wordSum]
  exact wordSum_le (fun x y _ _ => by omega) hf o n

/-- The share of one word in a sum of big-endian words. -/
theorem sumBE_word {o n k : ℕ} (hk : 2 * k + 2 ≤ n) :
    sumBE f o n = sumBE (Function.update (Function.update f (o + 2 * k) 0) (o + 2 * k + 1) 0) o n +
      (256 * f (o + 2 * k) + f (o + 2 * k + 1)) := by
  rw [sumBE_eq_wordSum, sumBE_eq_wordSum]
  exact wordSum_word rfl hk

/-- The same for little-endian words. -/
theorem sumLE_word {o n k : ℕ} (hk : 2 * k + 2 ≤ n) :
    sumLE f o n = sumLE (Function.update (Function.update f (o + 2 * k) 0) (o + 2 * k + 1) 0) o n +
      (f (o + 2 * k) + 256 * f (o + 2 * k + 1)) := by
  rw [sumLE_eq_wordSum, sumLE_eq_wordSum]
  exact wordSum_word rfl hk

/-! ## Byte order -/

/-- Swapping the bytes of a word is multiplication by `256` modulo `65535`. -/
lemma sumLE_modEq (f : ℕ → ℕ) (o n : ℕ) : sumLE f o n ≡ 256 * sumBE f o n [MOD 65535] := by
  unfold Nat.ModEq
  induction o, n using sumBE.induct with
  | case1 o => rfl
  | case2 o => rw [sumLE, sumBE]; omega
  | case3 o n ih => rw [sumLE, sumBE]; omega

/-- A sum is `0` in one byte order exactly when it is in the other. -/
lemma sumLE_eq_zero_iff (f : ℕ → ℕ) (o n : ℕ) : sumLE f o n = 0 ↔ sumBE f o n = 0 := by
  induction o, n using sumBE.induct with
  | case1 o => simp [sumLE, sumBE]
  | case2 o => simp [sumLE, sumBE]
  | case3 o n ih => rw [sumLE, sumBE]; omega

/-- **Byte order does not matter.** If two sums agree up to a swap of the bytes of all words, one
passes the test exactly when the other does. -/
theorem allOnes_swap_iff {s t : ℕ} (h : s ≡ 256 * t [MOD 65535]) (h₀ : s = 0 ↔ t = 0) :
    AllOnes s ↔ AllOnes t := by
  unfold Nat.ModEq at h
  rw [allOnes_iff, allOnes_iff]
  -- `256` is its own inverse modulo `65535`
  omega

/-- A 16-bit word with its bytes swapped. -/
def swap (v : ℕ) : ℕ := v % 256 * 256 + v / 256

/-- Only zero has the swapped value zero. -/
lemma swap_eq_zero_iff (v : ℕ) : swap v = 0 ↔ v = 0 := by
  unfold swap
  omega

/-- The swap of a complement is the complement of the swap. -/
lemma swap_complement {v : ℕ} (hv : v ≤ 65535) : swap (65535 - v) = 65535 - swap v := by
  unfold swap
  omega

/-- **Folding and swapping.** If two sums agree up to a swap of the bytes of all words, so do the
folded sums. -/
theorem fold_swap {s t : ℕ} (h : s ≡ 256 * t [MOD 65535]) (h₀ : s = 0 ↔ t = 0) :
    fold s = swap (fold t) := by
  have hfold : swap (fold t) ≡ s [MOD 65535] := by
    have hle := fold_le t
    have hmod : fold t ≡ t [MOD 65535] := by
      unfold fold Nat.ModEq
      split_ifs <;> omega
    have hswap : swap (fold t) ≡ 256 * fold t [MOD 65535] := by
      unfold swap Nat.ModEq
      omega
    exact hswap.trans ((hmod.mul_left 256).trans h.symm)
  have hzero : swap (fold t) = 0 ↔ s = 0 := by
    rw [swap_eq_zero_iff, fold_eq_zero_iff, h₀]
  have hlt : swap (fold t) < 65536 := by
    have hle := fold_le t
    unfold swap
    omega
  rw [← fold_of_lt hlt]
  exact fold_congr hfold.symm hzero.symm

end OnesComplement
