import Mathlib.Logic.Function.Basic
import Mathlib.Tactic.Common

set_option relaxedAutoImplicit false
set_option autoImplicit false

/-!
# Banks of device registers

A device that serves many sources has a field for each of them in a bank of registers: one bit, of
which a register holds as many as it is wide, or a register of its own that is written in two
halves.

## Main definitions

* `RegisterBank.Bank`, `RegisterBank.bit` — the registers, and the bit of a source.
* `RegisterBank.setBits` — a write to a register whose ones set bits and whose zeros do nothing.
* `RegisterBank.writeLow`, `RegisterBank.writeHigh` — the two halves of a wide register.

## Main results

* `RegisterBank.bit_setBits` — setting the bit of one source leaves the bits of all others alone.
* `RegisterBank.writeHigh_writeLow` — two half writes are one write.
-/

namespace RegisterBank

variable {w : ℕ}

/-- Registers of `w` bits, by number. -/
abbrev Bank (w : ℕ) := ℕ → BitVec w

/-- The bit of the source `i`; `w` sources share a register. -/
def bit (b : Bank w) (i : ℕ) : Bool := (b (i / w)).getLsbD (i % w)

/-- The ones of `v` set bits in the register `n`. -/
def setBits (b : Bank w) (n : ℕ) (v : BitVec w) : Bank w := Function.update b n (b n ||| v)

/-- **Setting one bit.** -/
lemma bit_setBits (hw : 0 < w) (b : Bank w) (i j : ℕ) :
    bit (setBits b (i / w) (BitVec.twoPow w (i % w))) j = if j = i then true else bit b j := by
  have hi : i % w < w := Nat.mod_lt i hw
  unfold bit setBits
  by_cases hreg : j / w = i / w
  · rw [hreg, Function.update_self, BitVec.getLsbD_or, BitVec.getLsbD_twoPow]
    by_cases hbit : j % w = i % w
    · have hji : j = i := by rw [← Nat.div_add_mod j w, ← Nat.div_add_mod i w, hreg, hbit]
      rw [if_pos hji, hbit]
      simp [hi]
    · have hji : j ≠ i := fun h => hbit (by rw [h])
      rw [if_neg hji]
      simp [Ne.symm hbit]
  · have hji : j ≠ i := fun h => hreg (by rw [h])
    rw [Function.update_of_ne hreg, if_neg hji]

/-- The lower half of a register is written. -/
def writeLow (r : BitVec (w + w)) (v : BitVec w) : BitVec (w + w) := r.extractLsb' w w ++ v

/-- The upper half of a register is written. -/
def writeHigh (r : BitVec (w + w)) (v : BitVec w) : BitVec (w + w) := v ++ r.extractLsb' 0 w

/-- **Two half writes.** What the register held before does not matter. -/
lemma writeHigh_writeLow (r : BitVec (w + w)) (lo hi : BitVec w) :
    writeHigh (writeLow r lo) hi = hi ++ lo := by
  have hlow : (writeLow r lo).extractLsb' 0 w = lo := by
    apply BitVec.eq_of_getLsbD_eq
    intro i hi
    rw [BitVec.getLsbD_extractLsb', writeLow, BitVec.getLsbD_append]
    simp [hi]
  rw [writeHigh, hlow]

end RegisterBank
