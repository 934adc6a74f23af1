import Mathlib.Algebra.Group.Nat.Defs
import Mathlib.Data.List.Nodup
import Mathlib.Tactic.Common
import Mathlib.Tactic.SplitIfs

set_option relaxedAutoImplicit false
set_option autoImplicit false

/-!
# Byte-addressed memory

A memory with 64-bit addresses that wrap around, accesses to its little-endian double words, and
regions of it. Two accesses are independent when the regions they touch are disjoint; nothing
needs to be aligned.

## Main definitions

* `ByteMemory`, `ByteMemory.read64`, `ByteMemory.write64`, `ByteMemory.writeWords` — the memory.
* `Region`, `Region.Mem`, `Region.Disjoint` — intervals of addresses.
* `ByteMemory.AgreeOn` — two memories with the same bytes in a region.

## Main results

* `ByteMemory.read64_write64_self`, `ByteMemory.read64_of_agreeOn` — what a double word is after a
  write.
* `ByteMemory.agreeOn_write64`, `ByteMemory.agreeOn_writeWords` — what a write leaves alone.
* `ByteMemory.read64_writeWords` — every word of a block that has been written.
-/

/-- The bytes by address. -/
abbrev ByteMemory := BitVec 64 → BitVec 8

/-- The interval of `size` bytes from `base`; it may wrap around. -/
structure Region where
  base : BitVec 64
  size : ℕ

namespace Region

/-- The address is in the region. -/
def Mem (r : Region) (a : BitVec 64) : Prop := (a - r.base).toNat < r.size

instance (r : Region) (a : BitVec 64) : Decidable (r.Mem a) := by
  unfold Mem
  infer_instance

/-- No address is in both regions. -/
def Disjoint (r r' : Region) : Prop := ∀ a, r.Mem a → ¬ r'.Mem a

/-- Every address of `r` is in `r'`. -/
def Sub (r r' : Region) : Prop := ∀ a, r.Mem a → r'.Mem a

/-- Disjointness is symmetric. -/
lemma Disjoint.symm {r r' : Region} (h : r.Disjoint r') : r'.Disjoint r := fun a h₁ h₂ => h a h₂ h₁

/-- Parts of disjoint regions are disjoint. -/
lemma Disjoint.mono {r r' q q' : Region} (h : r.Disjoint r') (hq : q.Sub r) (hq' : q'.Sub r') :
    q.Disjoint q' := fun a h₁ h₂ => h a (hq a h₁) (hq' a h₂)

/-- A region is part of itself. -/
lemma sub_refl (r : Region) : r.Sub r := fun _ h => h

/-- The interval of `n` bytes from the offset `d` of a region. -/
lemma sub_of_offset {r : Region} {a : BitVec 64} {n : ℕ} (hsize : r.size < 2 ^ 64)
    (h : (a - r.base).toNat + n ≤ r.size) : Sub ⟨a, n⟩ r := by
  intro b hb
  have hb' : (b - a).toNat < n := hb
  show (b - r.base).toNat < r.size
  have heq : b - r.base = (b - a) + (a - r.base) := by
    apply BitVec.eq_of_toNat_eq
    bv_omega
  rw [heq, BitVec.toNat_add, Nat.mod_eq_of_lt (by omega)]
  omega

/-- Two intervals of addresses that do not wrap around are disjoint when one ends where the other
has not begun. -/
lemma disjoint_of_le {a b n k : ℕ} (hab : a + n ≤ b) (hb : b + k ≤ 2 ^ 64) :
    Disjoint ⟨BitVec.ofNat 64 a, n⟩ ⟨BitVec.ofNat 64 b, k⟩ := by
  intro c h₁ h₂
  simp only [Mem, BitVec.toNat_sub, BitVec.toNat_ofNat] at h₁ h₂
  have hc := c.isLt
  omega

end Region

namespace ByteMemory

/-! ## Accesses -/

/-- The double word at an address, the lowest byte first. -/
def read64 (m : ByteMemory) (a : BitVec 64) : BitVec 64 :=
  m (a + 7#64) ++ m (a + 6#64) ++ m (a + 5#64) ++ m (a + 4#64) ++ m (a + 3#64) ++ m (a + 2#64) ++
    m (a + 1#64) ++ m a

/-- Write a double word. -/
def write64 (m : ByteMemory) (a v : BitVec 64) : ByteMemory := fun b =>
  if (b - a).toNat < 8 then v.extractLsb' (8 * (b - a).toNat) 8 else m b

/-- Write a byte. -/
def write8 (m : ByteMemory) (a : BitVec 64) (v : BitVec 8) : ByteMemory := fun b =>
  if b = a then v else m b

/-- Write double words at the given places of a block. -/
def writeWords (m : ByteMemory) (base : BitVec 64) (l : List (ℕ × BitVec 64)) : ByteMemory :=
  l.foldl (fun m e => m.write64 (base + BitVec.ofNat 64 (8 * e.1)) e.2) m

/-- The bytes of a region are the same. -/
def AgreeOn (r : Region) (m m' : ByteMemory) : Prop := ∀ a, r.Mem a → m' a = m a

variable {m m' m'' : ByteMemory} {r : Region}

/-- A memory agrees with itself. -/
lemma AgreeOn.refl (r : Region) (m : ByteMemory) : AgreeOn r m m := fun _ _ => rfl

/-- Agreement is transitive. -/
lemma AgreeOn.trans (h : AgreeOn r m m') (h' : AgreeOn r m' m'') : AgreeOn r m m'' :=
  fun a ha => (h' a ha).trans (h a ha)

/-- Memories that agree on a region agree on its parts. -/
lemma AgreeOn.mono {r' : Region} (h : AgreeOn r' m m') (hr : r.Sub r') : AgreeOn r m m' :=
  fun a ha => h a (hr a ha)

/-! ## Double words -/

/-- A double word is read off its eight bytes. -/
lemma read64_of_agreeOn {a : BitVec 64} (h : AgreeOn ⟨a, 8⟩ m m') : m'.read64 a = m.read64 a := by
  have hbyte : ∀ k < 8, m' (a + BitVec.ofNat 64 k) = m (a + BitVec.ofNat 64 k) := by
    intro k hk
    apply h
    show (a + BitVec.ofNat 64 k - a).toNat < 8
    bv_omega
  have hzero : m' a = m a := h a (by show (a - a).toNat < 8; simp)
  unfold read64
  rw [hbyte 7 (by decide), hbyte 6 (by decide), hbyte 5 (by decide), hbyte 4 (by decide),
    hbyte 3 (by decide), hbyte 2 (by decide), hbyte 1 (by decide), hzero]

/-- The double word just written. -/
@[simp] lemma read64_write64_self (m : ByteMemory) (a v : BitVec 64) :
    (m.write64 a v).read64 a = v := by
  have hbyte : ∀ k < 8, (m.write64 a v) (a + BitVec.ofNat 64 k) = v.extractLsb' (8 * k) 8 := by
    intro k hk
    have hoff : (a + BitVec.ofNat 64 k - a).toNat = k := by bv_omega
    simp only [write64, hoff, if_pos hk]
  have hzero : (m.write64 a v) a = v.extractLsb' 0 8 := by
    simp [write64]
  unfold read64
  rw [hbyte 7 (by decide), hbyte 6 (by decide), hbyte 5 (by decide), hbyte 4 (by decide),
    hbyte 3 (by decide), hbyte 2 (by decide), hbyte 1 (by decide), hzero]
  apply BitVec.eq_of_getLsbD_eq
  intro i hi
  simp only [BitVec.getLsbD_append, BitVec.getLsbD_extractLsb']
  split_ifs <;> grind

/-- A write of a double word leaves the bytes of a disjoint region alone. -/
lemma agreeOn_write64 {a v : BitVec 64} (h : Region.Disjoint ⟨a, 8⟩ r) :
    AgreeOn r m (m.write64 a v) := by
  intro b hb
  exact if_neg fun hmem => h b hmem hb

/-- A write of a byte leaves the bytes of a disjoint region alone. -/
lemma agreeOn_write8 {a : BitVec 64} {v : BitVec 8} (h : ¬ r.Mem a) :
    AgreeOn r m (m.write8 a v) := by
  intro b hb
  apply if_neg
  rintro rfl
  exact h hb

/-- A write of a block leaves the bytes of a disjoint region alone. -/
lemma agreeOn_writeWords {base : BitVec 64} {l : List (ℕ × BitVec 64)} {n : ℕ}
    (hl : ∀ e ∈ l, e.1 < n) (hn : 8 * n < 2 ^ 64) (h : Region.Disjoint ⟨base, 8 * n⟩ r) :
    AgreeOn r m (m.writeWords base l) := by
  induction l generalizing m with
  | nil => exact AgreeOn.refl r m
  | cons e l ih =>
    have he := hl e List.mem_cons_self
    refine AgreeOn.trans (agreeOn_write64 (h.mono ?_ (Region.sub_refl r)))
      (ih fun e he => hl e (List.mem_cons_of_mem _ he))
    apply Region.sub_of_offset hn
    show (base + BitVec.ofNat 64 (8 * e.1) - base).toNat + 8 ≤ 8 * n
    bv_omega

/-- A write of a block leaves its other words alone. -/
lemma agreeOn_writeWords_off {base : BitVec 64} {l : List (ℕ × BitVec 64)} {n k : ℕ}
    (hl : ∀ e ∈ l, e.1 < n) (hn : 8 * n < 2 ^ 64) (hk : k < n) (hne : ∀ e ∈ l, e.1 ≠ k) :
    AgreeOn ⟨base + BitVec.ofNat 64 (8 * k), 8⟩ m (m.writeWords base l) := by
  induction l generalizing m with
  | nil => exact AgreeOn.refl _ m
  | cons e l ih =>
    have he := hl e List.mem_cons_self
    have hek := hne e List.mem_cons_self
    refine AgreeOn.trans (agreeOn_write64 fun b h₁ h₂ => ?_)
      (ih (fun e he => hl e (List.mem_cons_of_mem _ he)) fun e he =>
        hne e (List.mem_cons_of_mem _ he))
    simp only [Region.Mem] at h₁ h₂
    bv_omega

/-- The words of a block that has been written. -/
lemma read64_writeWords {base : BitVec 64} {l : List (ℕ × BitVec 64)} {n : ℕ}
    (hl : ∀ e ∈ l, e.1 < n) (hn : 8 * n < 2 ^ 64) (hnodup : (l.map Prod.fst).Nodup)
    {e : ℕ × BitVec 64} (he : e ∈ l) :
    (m.writeWords base l).read64 (base + BitVec.ofNat 64 (8 * e.1)) = e.2 := by
  induction l generalizing m with
  | nil => simp at he
  | cons d l ih =>
    rw [List.map_cons, List.nodup_cons] at hnodup
    rcases List.mem_cons.mp he with rfl | he
    · -- the words written later are other words of the block
      refine (read64_of_agreeOn ?_).trans (read64_write64_self m _ e.2)
      apply agreeOn_writeWords_off (fun e he => hl e (List.mem_cons_of_mem _ he)) hn
        (hl e List.mem_cons_self)
      intro d hd hde
      exact hnodup.1 (hde ▸ List.mem_map_of_mem hd)
    · exact ih (fun e he => hl e (List.mem_cons_of_mem _ he)) hnodup.2 he

end ByteMemory
