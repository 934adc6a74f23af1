import Mathlib.Data.List.Basic
import Mathlib.Data.Nat.ModEq
import Mathlib.Data.UInt
import Mathlib.Logic.Function.Basic

set_option relaxedAutoImplicit false
set_option autoImplicit false

/-!
# Ring buffers

The contents of a ring of `n` slots, from a starting index on. A ring is described by the index of
its oldest element and the number of its elements, or by two free-running 16-bit indices.

## Main definitions

* `Ring.window` — the elements of a ring, from a starting index and a length.
* `Ring.span` — the distance between two free-running 16-bit indices.
* `Ring.between` — the elements of a ring between two free-running 16-bit indices.

## Main results

* `Ring.window_push`, `Ring.window_pop` — appending to and removing from a ring.
* `Ring.between_push`, `Ring.between_pop` — the same for free-running indices, also when they
  wrap around.

## Design

A free-running index names the slot `index % n`. The indices wrap at `2 ^ 16`, so the slots follow
each other through the wrap only if `n` divides `2 ^ 16`; this is a hypothesis of the lemmas.
-/

namespace Ring

variable {α : Type*}

/-! ## A starting index and a length -/

/-- The `len` elements of a ring of `n` slots, from the index `start` on. -/
def window (n : ℕ) (ring : ℕ → α) (start len : ℕ) : List α :=
  (List.range len).map fun k => ring ((start + k) % n)

/-- A window has its length. -/
@[simp] lemma length_window (n : ℕ) (ring : ℕ → α) (start len : ℕ) :
    (window n ring start len).length = len := by
  simp [window]

/-- The empty window. -/
@[simp] lemma window_zero (n : ℕ) (ring : ℕ → α) (start : ℕ) : window n ring start 0 = [] := rfl

/-- The elements of a window. -/
@[simp] lemma getElem_window (n : ℕ) (ring : ℕ → α) (start len : ℕ) {k : ℕ}
    (hk : k < (window n ring start len).length) :
    (window n ring start len)[k] = ring ((start + k) % n) := by
  simp [window]

/-- The images of the elements. -/
lemma map_window {β : Type*} (f : α → β) (n : ℕ) (ring : ℕ → α) (start len : ℕ) :
    (window n ring start len).map f = window n (fun k => f (ring k)) start len := by
  simp [window]

/-- The oldest element comes first. -/
lemma window_succ (n : ℕ) (ring : ℕ → α) (start len : ℕ) :
    window n ring start (len + 1) = ring (start % n) :: window n ring (start + 1) len := by
  unfold window
  rw [List.range_succ_eq_map, List.map_cons, List.map_map, Nat.add_zero]
  congr 1
  apply List.map_congr_left
  intro k _
  simp only [Function.comp_apply, Nat.succ_eq_add_one]
  rw [show start + (k + 1) = start + 1 + k by omega]

/-- The newest element comes last. -/
lemma window_concat (n : ℕ) (ring : ℕ → α) (start len : ℕ) :
    window n ring start (len + 1) = window n ring start len ++ [ring ((start + len) % n)] := by
  simp [window, List.range_succ]

/-- Only the slot of the starting index matters. -/
lemma window_congr_start (ring : ℕ → α) {n start start' : ℕ} (h : start % n = start' % n)
    (len : ℕ) : window n ring start len = window n ring start' len := by
  unfold window
  apply List.map_congr_left
  intro k _
  rw [Nat.add_mod, h, ← Nat.add_mod]

/-- A slot outside the window does not matter. -/
lemma window_update_of_ne (ring : ℕ → α) {n start len slot : ℕ}
    (h : ∀ k < len, (start + k) % n ≠ slot) (x : α) :
    window n (Function.update ring slot x) start len = window n ring start len := by
  unfold window
  apply List.map_congr_left
  intro k hk
  rw [Function.update_of_ne (h k (List.mem_range.mp hk))]

/-- While the ring is not full, the slot after the newest element is free. -/
lemma slot_ne {n len : ℕ} (hlen : len < n) (start : ℕ) {k : ℕ} (hk : k < len) :
    (start + k) % n ≠ (start + len) % n := by
  intro h
  have hmod : k ≡ len [MOD n] := Nat.ModEq.add_left_cancel' start h
  have heq := Nat.ModEq.eq_of_lt_of_lt hmod (by omega) hlen
  omega

/-- **Appending.** While the ring is not full, storing into the slot after the newest element makes
the stored element the newest one. -/
lemma window_push (ring : ℕ → α) {n len : ℕ} (hlen : len < n) (start : ℕ) (x : α) :
    window n (Function.update ring ((start + len) % n) x) start (len + 1) =
      window n ring start len ++ [x] := by
  rw [window_concat, Function.update_self, window_update_of_ne ring fun k hk =>
    slot_ne hlen start hk]

/-- **Removing.** The elements after the oldest one. -/
lemma window_pop (ring : ℕ → α) {n : ℕ} (start : ℕ) {len : ℕ} (hlen : len ≠ 0) :
    window n ring start len = ring (start % n) :: window n ring (start + 1) (len - 1) := by
  obtain ⟨m, rfl⟩ := Nat.exists_eq_succ_of_ne_zero hlen
  exact window_succ n ring start m

/-! ## Free-running 16-bit indices -/

/-- The number of steps from one free-running index to another. -/
def span (a b : UInt16) : ℕ := (b - a).toNat

/-- The elements of a ring of `n` slots between two free-running indices. -/
def between (n : ℕ) (ring : ℕ → α) (a b : UInt16) : List α := window n ring a.toNat (span a b)

/-- The number of steps from one index to another, without words. -/
lemma span_eq (a b : UInt16) : span a b = (65536 - a.toNat + b.toNat) % 65536 := by
  rw [span, UInt16.toNat_sub]

/-- No step leads from an index to itself. -/
lemma span_self (a : UInt16) : span a a = 0 := by
  rw [span, sub_self]
  rfl

/-- Only the same index is no step away. -/
lemma span_eq_zero_iff (a b : UInt16) : span a b = 0 ↔ a = b := by
  constructor
  · intro h
    have ha := UInt16.toNat_lt a
    have hb := UInt16.toNat_lt b
    rw [span_eq] at h
    exact UInt16.toNat_inj.mp (by omega)
  · rintro rfl
    exact span_self a

/-- The newer index moves on. -/
lemma span_succ_right {a b : UInt16} (h : span a b < 65535) : span a (b + 1) = span a b + 1 := by
  have ha := UInt16.toNat_lt a
  have hb := UInt16.toNat_lt b
  rw [span_eq] at h
  rw [span_eq, span_eq, UInt16.toNat_add]
  show (65536 - a.toNat + (b.toNat + 1) % 65536) % 65536 = _
  omega

/-- An offset up to the newer index, when this has moved on. -/
lemma lt_span_or_eq {a b : UInt16} {k : ℕ} (hk : k < span a (b + 1)) :
    k < span a b ∨ a + UInt16.ofNat k = b := by
  have ha := UInt16.toNat_lt a
  have hb := UInt16.toNat_lt b
  by_cases hmax : span a b < 65535
  · rw [span_succ_right hmax] at hk
    rcases Nat.lt_succ_iff_lt_or_eq.mp hk with hlt | rfl
    · exact .inl hlt
    · refine .inr ?_
      rw [span, UInt16.ofNat_toNat, add_sub_cancel]
  · -- the newer index has caught up with the older one
    have hnext : (b + 1).toNat = (b.toNat + 1) % 65536 := UInt16.toNat_add b 1
    rw [span_eq] at hk hmax
    rw [hnext] at hk
    omega

/-- The older index moves on. -/
lemma span_succ_left {a b : UInt16} (h : a ≠ b) : span (a + 1) b = span a b - 1 := by
  have ha := UInt16.toNat_lt a
  have hb := UInt16.toNat_lt b
  have hne : a.toNat ≠ b.toNat := fun he => h (UInt16.toNat_inj.mp he)
  rw [span_eq, span_eq, UInt16.toNat_add]
  show (65536 - (a.toNat + 1) % 65536 + b.toNat) % 65536 = _
  omega

/-- The slot of the newer index, if the number of slots divides `2 ^ 16`. -/
lemma add_span_mod {n : ℕ} (hn : n ∣ 65536) (a b : UInt16) :
    (a.toNat + span a b) % n = b.toNat % n := by
  have ha := UInt16.toNat_lt a
  have hb := UInt16.toNat_lt b
  have hmod : a.toNat + span a b ≡ b.toNat [MOD 65536] := by
    unfold Nat.ModEq
    rw [span_eq]
    omega
  exact hmod.of_dvd hn

/-- As many entries lie between two indices as there are steps. -/
@[simp] lemma length_between (n : ℕ) (ring : ℕ → α) (a b : UInt16) :
    (between n ring a b).length = span a b :=
  length_window n ring _ _

/-- No entry lies between an index and itself. -/
lemma between_self (n : ℕ) (ring : ℕ → α) (a : UInt16) : between n ring a a = [] := by
  rw [between, span_self, window_zero]

/-- While the ring is not full, storing into the slot of the newer index changes no element. -/
lemma between_store (ring : ℕ → α) {n : ℕ} (hn : n ∣ 65536) {a b : UInt16} (h : span a b < n)
    (x : α) : between n (Function.update ring (b.toNat % n) x) a b = between n ring a b := by
  apply window_update_of_ne
  intro k hk
  rw [← add_span_mod hn a b]
  exact slot_ne h _ hk

/-- **Appending** moves the newer index on. -/
lemma between_push (ring : ℕ → α) {n : ℕ} (hn : n ∣ 65536) {a b : UInt16} (h : span a b < 65535) :
    between n ring a (b + 1) = between n ring a b ++ [ring (b.toNat % n)] := by
  rw [between, span_succ_right h, window_concat, add_span_mod hn, between]

/-- **Removing** moves the older index on. -/
lemma between_pop (ring : ℕ → α) {n : ℕ} (hn : n ∣ 65536) {a b : UInt16} (h : a ≠ b) :
    between n ring a b = ring (a.toNat % n) :: between n ring (a + 1) b := by
  have hspan : span a b ≠ 0 := fun hz => h ((span_eq_zero_iff a b).mp hz)
  have hnext : (a + 1).toNat % n = (a.toNat + 1) % n := by
    have hadd : (a + 1).toNat = (a.toNat + 1) % 65536 := UInt16.toNat_add a 1
    rw [hadd, Nat.mod_mod_of_dvd _ hn]
  rw [between, window_pop ring _ hspan, between, span_succ_left h,
    window_congr_start ring hnext]

/-- A power of two that is at most 256 divides `2 ^ 16`. -/
lemma dvd_of_pow_two {n k : ℕ} (hpow : n = 2 ^ k) (hn : n ≤ 256) : n ∣ 65536 := by
  have hk : k ≤ 16 := by
    by_contra hlt
    have hle : 2 ^ 17 ≤ 2 ^ k := Nat.pow_le_pow_right (by decide) (by omega)
    omega
  rw [hpow, show 65536 = 2 ^ 16 by decide]
  exact Nat.pow_dvd_pow 2 hk

/-! ## Positions

A position counts all the elements that ever went through a ring; the free-running index is the
position modulo `2 ^ 16`. -/

/-- The index of the next position. -/
lemma ofNat_succ (p : ℕ) : UInt16.ofNat (p + 1) = UInt16.ofNat p + 1 := by
  simp [UInt16.ofNat_add]

/-- The slot of a position. -/
lemma toNat_ofNat_mod {n : ℕ} (hn : n ∣ 65536) (p : ℕ) : (UInt16.ofNat p).toNat % n = p % n := by
  rw [UInt16.toNat_ofNat']
  exact Nat.mod_mod_of_dvd p hn

/-- The distance between two positions that are not too far apart. -/
lemma span_ofNat {p q : ℕ} (hle : p ≤ q) (hlt : q < p + 65536) :
    span (UInt16.ofNat p) (UInt16.ofNat q) = q - p := by
  rw [span_eq, UInt16.toNat_ofNat', UInt16.toNat_ofNat']
  omega

/-- Two positions that are not too far apart have different slots. -/
lemma mod_ne {n p q : ℕ} (hlt : p < q) (hn : q < p + n) : p % n ≠ q % n := by
  have h := slot_ne (show q - p < n by omega) p (k := 0) (by omega)
  rwa [Nat.add_zero, show p + (q - p) = q by omega] at h

end Ring
