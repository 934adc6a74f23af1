import Mathlib.Data.BitVec
import Mathlib.Logic.Function.Basic

set_option relaxedAutoImplicit false
set_option autoImplicit false

/-!
# Two-level bitmaps of priorities

A set of priorities below 64 as a table of eight bytes and a group byte that tells which bytes are
not zero. The smallest priority is found with two lookups in a table of lowest set bits.

## Main definitions

* `PrioBitmap` — the two levels; `PrioBitmap.Mem`, `PrioBitmap.insert`, `PrioBitmap.remove`.
* `PrioBitmap.Valid` — the group byte agrees with the table.
* `PrioBitmap.first` — the smallest priority, by a table of lowest set bits.

## Main results

* `PrioBitmap.mem_insert`, `PrioBitmap.mem_remove` — the operations are those of sets.
* `PrioBitmap.Valid.first_mem`, `PrioBitmap.Valid.first_le` — the lookups find the smallest
  priority.
-/

/-- The group byte and the table. -/
structure PrioBitmap where
  grp : BitVec 8
  tbl : ℕ → BitVec 8

namespace PrioBitmap

/-- The byte in which only the bit `k` is set. -/
def bit (k : ℕ) : BitVec 8 := 1#8 <<< k

/-- The priority `p` is in the set. -/
def Mem (m : PrioBitmap) (p : ℕ) : Prop := (m.tbl (p / 8)).getLsbD (p % 8) = true

instance (m : PrioBitmap) (p : ℕ) : Decidable (m.Mem p) :=
  inferInstanceAs (Decidable ((m.tbl (p / 8)).getLsbD (p % 8) = true))

/-- The empty set. -/
def empty : PrioBitmap := ⟨0, fun _ => 0⟩

/-- Add the priority `p`. -/
def insert (m : PrioBitmap) (p : ℕ) : PrioBitmap where
  grp := m.grp ||| bit (p / 8)
  tbl := Function.update m.tbl (p / 8) (m.tbl (p / 8) ||| bit (p % 8))

/-- Remove the priority `p`. The bit of the group is cleared with the last bit of its byte. -/
def remove (m : PrioBitmap) (p : ℕ) : PrioBitmap where
  grp := if m.tbl (p / 8) &&& ~~~bit (p % 8) = 0 then m.grp &&& ~~~bit (p / 8) else m.grp
  tbl := Function.update m.tbl (p / 8) (m.tbl (p / 8) &&& ~~~bit (p % 8))

/-- The group byte tells which bytes of the table are not zero. -/
def Valid (m : PrioBitmap) : Prop := ∀ y < 8, (m.grp.getLsbD y = true ↔ m.tbl y ≠ 0)

/-- The priority found by two lookups in a table of lowest set bits. -/
def first (lowest : BitVec 8 → ℕ) (m : PrioBitmap) : ℕ :=
  let y := lowest m.grp
  y * 8 + lowest (m.tbl y)

/-- `lowest b` is the position of the lowest set bit of every `b` that is not zero. -/
def IsLowest (lowest : BitVec 8 → ℕ) : Prop :=
  ∀ b, b ≠ 0 → lowest b < 8 ∧ b.getLsbD (lowest b) = true ∧
    ∀ i < lowest b, b.getLsbD i = false

/-! ## Bits -/

/-- The bits of a single bit. -/
@[simp] lemma getLsbD_bit (k j : ℕ) : (bit k).getLsbD j = decide (j < 8 ∧ j = k) := by
  rw [Bool.eq_iff_iff]
  simp only [bit, BitVec.getLsbD_shiftLeft, BitVec.getLsbD_one, Bool.and_eq_true,
    Bool.not_eq_true', decide_eq_true_eq, decide_eq_false_iff_not]
  omega

/-- A byte is not zero when one of its bits is set. -/
lemma ne_zero_iff (b : BitVec 8) : b ≠ 0 ↔ ∃ i < 8, b.getLsbD i = true := by
  constructor
  · intro h
    by_contra hno
    push Not at hno
    apply h
    apply BitVec.eq_of_getLsbD_eq
    intro i hi
    have hbit := hno i hi
    rw [ne_eq, Bool.not_eq_true] at hbit
    rw [hbit]
    simp
  · rintro ⟨i, -, hi⟩ rfl
    simp at hi

/-! ## The operations -/

/-- The empty bitmap has no members. -/
@[simp] lemma not_mem_empty (p : ℕ) : ¬ empty.Mem p := by
  simp [Mem, empty]

/-- The empty bitmap is valid. -/
lemma valid_empty : empty.Valid := by
  intro y _
  simp [empty]

/-- The members after an addition. -/
@[simp] lemma mem_insert (m : PrioBitmap) (p q : ℕ) : (m.insert p).Mem q ↔ q = p ∨ m.Mem q := by
  unfold Mem insert
  by_cases hy : q / 8 = p / 8
  · simp only [hy, Function.update_self, BitVec.getLsbD_or, getLsbD_bit, Bool.or_eq_true,
      decide_eq_true_eq]
    have hx : (q % 8 < 8 ∧ q % 8 = p % 8) ↔ q = p := by omega
    rw [hx]
    exact or_comm
  · have hne : q ≠ p := by
      rintro rfl
      exact hy rfl
    simp [Function.update_of_ne hy, hne]

/-- The members after a removal. -/
@[simp] lemma mem_remove (m : PrioBitmap) (p q : ℕ) : (m.remove p).Mem q ↔ q ≠ p ∧ m.Mem q := by
  unfold Mem remove
  by_cases hy : q / 8 = p / 8
  · simp only [hy, Function.update_self, BitVec.getLsbD_and, BitVec.getLsbD_not, getLsbD_bit,
      Bool.and_eq_true, decide_eq_true_eq, Bool.not_eq_true', decide_eq_false_iff_not]
    have hx : ¬ (q % 8 < 8 ∧ q % 8 = p % 8) ↔ q ≠ p := by omega
    rw [hx]
    have hlt : q % 8 < 8 := Nat.mod_lt _ (by decide)
    simp only [hlt, true_and]
    exact and_comm
  · have hne : q ≠ p := by
      rintro rfl
      exact hy rfl
    simp [Function.update_of_ne hy, hne]

/-- Adding a priority keeps the group byte right. -/
lemma Valid.insert {m : PrioBitmap} (h : m.Valid) (p : ℕ) : (m.insert p).Valid := by
  intro y hy
  simp only [PrioBitmap.insert, BitVec.getLsbD_or, getLsbD_bit, Bool.or_eq_true, decide_eq_true_eq]
  by_cases hyp : y = p / 8
  · subst hyp
    rw [Function.update_self]
    refine ⟨fun _ => ?_, fun _ => Or.inr ⟨hy, rfl⟩⟩
    rw [ne_zero_iff]
    exact ⟨p % 8, Nat.mod_lt _ (by decide), by simp [Nat.mod_lt]⟩
  · rw [Function.update_of_ne hyp, ← h y hy]
    exact ⟨fun hor => hor.resolve_right fun hc => hyp hc.2, Or.inl⟩

/-- Removing a priority keeps the group byte right. -/
lemma Valid.remove {m : PrioBitmap} (h : m.Valid) (p : ℕ) : (m.remove p).Valid := by
  intro y hy
  simp only [PrioBitmap.remove]
  by_cases hyp : y = p / 8
  · subst hyp
    rw [Function.update_self]
    split_ifs with hz
    · simp [hz]
    · refine ⟨fun _ => hz, fun _ => (h _ hy).mpr fun hzero => hz ?_⟩
      rw [hzero]
      simp
  · rw [Function.update_of_ne hyp, ← h y hy]
    split_ifs with hz
    · rw [BitVec.getLsbD_and, BitVec.getLsbD_not, getLsbD_bit]
      simp [hy, hyp]
    · rfl

/-- The members after several additions. -/
lemma mem_foldl_insert (m : PrioBitmap) (l : List ℕ) (q : ℕ) :
    (l.foldl PrioBitmap.insert m).Mem q ↔ q ∈ l ∨ m.Mem q := by
  induction l generalizing m with
  | nil => simp
  | cons p l ih =>
    rw [List.foldl_cons, ih, mem_insert, List.mem_cons]
    tauto

/-- Inserting a list of priorities keeps the bitmap valid. -/
lemma Valid.foldl_insert {m : PrioBitmap} (h : m.Valid) (l : List ℕ) :
    (l.foldl PrioBitmap.insert m).Valid := by
  induction l generalizing m with
  | nil => exact h
  | cons p l ih => exact ih (h.insert p)

/-- The group byte is zero exactly for the empty set. -/
lemma Valid.grp_ne_zero_iff {m : PrioBitmap} (h : m.Valid) : m.grp ≠ 0 ↔ ∃ p < 64, m.Mem p := by
  constructor
  · intro hgrp
    obtain ⟨y, hy, hbit⟩ := (ne_zero_iff _).mp hgrp
    obtain ⟨x, hx, hmem⟩ := (ne_zero_iff _).mp ((h y hy).mp hbit)
    refine ⟨y * 8 + x, by omega, ?_⟩
    unfold Mem
    rw [show (y * 8 + x) / 8 = y by omega, show (y * 8 + x) % 8 = x by omega]
    exact hmem
  · rintro ⟨p, hp, hmem⟩
    rw [ne_zero_iff]
    refine ⟨p / 8, by omega, (h _ (by omega)).mpr ?_⟩
    rw [ne_zero_iff]
    exact ⟨p % 8, Nat.mod_lt _ (by decide), hmem⟩

/-- The members determine the bitmap. -/
lemma Valid.ext {m m' : PrioBitmap} (h : m.Valid) (h' : m'.Valid) (hmem : ∀ p, m.Mem p ↔ m'.Mem p) :
    m = m' := by
  have htbl : m.tbl = m'.tbl := by
    funext y
    apply BitVec.eq_of_getLsbD_eq
    intro x hx
    have hyx := hmem (y * 8 + x)
    unfold Mem at hyx
    rw [show (y * 8 + x) / 8 = y by omega, show (y * 8 + x) % 8 = x by omega] at hyx
    exact Bool.eq_iff_iff.mpr hyx
  have hgrp : m.grp = m'.grp := by
    apply BitVec.eq_of_getLsbD_eq
    intro y hy
    rw [Bool.eq_iff_iff, h y hy, h' y hy, htbl]
  cases m
  cases m'
  simp only at htbl hgrp
  rw [htbl, hgrp]

/-! ## The smallest priority -/

section First

variable {lowest : BitVec 8 → ℕ} {m : PrioBitmap}

/-- The two lookups find a member. -/
lemma Valid.first_mem (hl : IsLowest lowest) (h : m.Valid) (hne : m.grp ≠ 0) :
    m.first lowest < 64 ∧ m.Mem (m.first lowest) := by
  obtain ⟨hy, hbit, -⟩ := hl m.grp hne
  obtain ⟨hx, hmem, -⟩ := hl _ ((h _ hy).mp hbit)
  have hdiv : m.first lowest / 8 = lowest m.grp := by
    simp only [first]
    omega
  have hmod : m.first lowest % 8 = lowest (m.tbl (lowest m.grp)) := by
    simp only [first]
    omega
  refine ⟨by omega, ?_⟩
  unfold Mem
  rw [hdiv, hmod]
  exact hmem

/-- **The two lookups find the smallest member.** -/
lemma Valid.first_le (hl : IsLowest lowest) (h : m.Valid) {p : ℕ} (hp : p < 64) (hmem : m.Mem p) :
    m.first lowest ≤ p := by
  have hne : m.grp ≠ 0 := h.grp_ne_zero_iff.mpr ⟨p, hp, hmem⟩
  obtain ⟨hy, hbit, hbelow⟩ := hl m.grp hne
  obtain ⟨hx, -, hbelow'⟩ := hl _ ((h _ hy).mp hbit)
  have hgrp : m.grp.getLsbD (p / 8) = true := by
    rw [h _ (by omega), ne_zero_iff]
    exact ⟨p % 8, Nat.mod_lt _ (by decide), hmem⟩
  have hle : lowest m.grp ≤ p / 8 := by
    by_contra hlt
    rw [hbelow _ (by omega)] at hgrp
    exact absurd hgrp (by simp)
  simp only [first]
  rcases Nat.lt_or_ge (lowest m.grp) (p / 8) with hlt | hge
  · omega
  · have heq : p / 8 = lowest m.grp := by omega
    unfold Mem at hmem
    rw [heq] at hmem
    have hle' : lowest (m.tbl (lowest m.grp)) ≤ p % 8 := by
      by_contra hlt
      rw [hbelow' _ (by omega)] at hmem
      exact absurd hmem (by simp)
    omega

end First

end PrioBitmap
