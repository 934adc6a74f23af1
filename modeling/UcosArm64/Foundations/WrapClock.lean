import Mathlib.Algebra.Order.Ring.Nat
import Mathlib.Tactic.Linarith

set_option relaxedAutoImplicit false
set_option autoImplicit false

/-!
# Clocks that wrap

A free-running counter of ticks shows the time modulo `M`. The ticks that have passed between two
readings are their difference modulo `M`. A program that wants the age in a coarser unit of `u`
ticks may divide the readings first and subtract then; the counter of units obtained in this way
does not run through all residues modulo `M`, so its difference is an age only while the counter of
ticks has not wrapped in between.

## Main definitions

* `WrapClock.elapsed` — the ticks between two readings.
* `WrapClock.unitAge` — the difference of the readings in units of `u` ticks.

## Main results

* `WrapClock.timely_iff` — when the test `T ≤ unitAge` is right up to one unit.
* `WrapClock.smallest_oldest_iff` — when the smallest of several readings is the oldest.
-/

namespace WrapClock

/-- The ticks from the reading `last` to the reading `now` of a counter modulo `M`. -/
def elapsed (M last now : ℕ) : ℕ := (M - last + now) % M

/-- The difference modulo `M` of the two readings, each rounded down to units of `u` ticks. -/
def unitAge (M u last now : ℕ) : ℕ := (M - last / u + now / u) % M

variable {M u T last now : ℕ}

/-- Without a wrap the elapsed ticks are a difference. -/
lemma elapsed_of_le (hn : now < M) (h : last ≤ now) : elapsed M last now = now - last := by
  unfold elapsed
  have hsum : M - last + now = now - last + M := by omega
  rw [hsum, Nat.add_mod_right, Nat.mod_eq_of_lt (by omega)]

/-- After a wrap the elapsed ticks are those before it and those after it. -/
lemma elapsed_of_lt (hl : last < M) (h : now < last) : elapsed M last now = M - last + now :=
  Nat.mod_eq_of_lt (by omega)

/-- Without a wrap the age is the number of units entered since. -/
lemma unitAge_of_le (hn : now < M) (h : last ≤ now) :
    unitAge M u last now = now / u - last / u := by
  have hq : last / u ≤ now / u := Nat.div_le_div_right h
  exact elapsed_of_le (lt_of_le_of_lt (Nat.div_le_self now u) hn) hq

/-- Without a wrap the test succeeds once the time has passed. -/
lemma le_unitAge_of_le (hu : 0 < u) (hn : now < M) (h : last ≤ now)
    (ht : T * u ≤ elapsed M last now) : T ≤ unitAge M u last now := by
  rw [elapsed_of_le hn h] at ht
  rw [unitAge_of_le hn h]
  have hstep : last / u + T ≤ now / u := by
    rw [Nat.le_div_iff_mul_le hu, Nat.add_mul]
    have := Nat.div_mul_le_self last u
    omega
  omega

/-- Without a wrap the test fails up to one unit before. -/
lemma unitAge_lt_of_le (hu : 0 < u) (hn : now < M) (h : last ≤ now)
    (ht : elapsed M last now + u ≤ T * u) : unitAge M u last now < T := by
  rw [elapsed_of_le hn h] at ht
  rw [unitAge_of_le hn h]
  have hpos : 0 < T := Nat.pos_of_ne_zero fun h0 => by simp only [h0, Nat.zero_mul] at ht; omega
  have hstep : now / u < last / u + T := by
    rw [Nat.div_lt_iff_lt_mul hu, Nat.add_mul]
    have hlast := Nat.lt_div_mul_add hu (a := last)
    omega
  omega

/-- Two readings in the same unit, the second after a wrap, have age zero. -/
lemma unitAge_of_same (h : now / u = last / u) (hq : last / u ≤ M) :
    unitAge M u last now = 0 := by
  unfold unitAge
  rw [h, Nat.sub_add_cancel hq]
  exact Nat.mod_self M

/-- A reading in an earlier unit, after a wrap, has an age of more than half the counter's range,
whatever the time that has passed. -/
lemma le_unitAge_of_lt (hu : 2 ≤ u) (hl : last < M) (h : now / u < last / u)
    (hT : T * u ≤ M) : T ≤ unitAge M u last now := by
  have hlast : last / u ≤ last / 2 := Nat.div_le_div_left hu (by omega)
  have htwo : T * 2 ≤ T * u := Nat.mul_le_mul_left T hu
  unfold unitAge
  rw [Nat.mod_eq_of_lt (by omega)]
  exact le_add_right (by omega)

/-- **When the test in units is right.** The test `T ≤ unitAge` succeeds once `T` units have passed
and fails up to one unit before, exactly when the counter has not wrapped since the first reading,
or the timeout is zero, or the readings after the wrap are in different units and more than
`T - 1` units have passed.

**Proof sketch.** Without a wrap both halves hold. After a wrap the age is zero when the readings
are in the same unit, although nearly the whole range has passed, and is larger than every timeout
when they are not, although perhaps only one tick has passed. -/
theorem timely_iff (hu : 2 ≤ u) (hM : T * u + u ≤ M) (hl : last < M) (hn : now < M) :
    ((T * u ≤ elapsed M last now → T ≤ unitAge M u last now) ∧
        (elapsed M last now + u ≤ T * u → unitAge M u last now < T)) ↔
      last ≤ now ∨ T = 0 ∨ (now / u ≠ last / u ∧ T * u < elapsed M last now + u) := by
  rcases Nat.lt_or_ge now last with hlt | hle
  · have hdiv : now / u ≤ last / u := Nat.div_le_div_right hlt.le
    rcases hdiv.lt_or_eq with hq | hq
    · -- different units: the test succeeds
      have hage : T ≤ unitAge M u last now := le_unitAge_of_lt hu hl hq (by omega)
      constructor
      · rintro ⟨-, hkeep⟩
        rcases Nat.eq_zero_or_pos T with h0 | -
        · exact Or.inr (Or.inl h0)
        · refine Or.inr (Or.inr ⟨hq.ne, ?_⟩)
          by_contra hle
          have := hkeep (by omega)
          omega
      · intro h
        refine ⟨fun _ => hage, fun hsmall => ?_⟩
        rcases h with h | h | h
        · omega
        · rw [h, Nat.zero_mul] at hsmall
          omega
        · omega
    · -- the same unit: the test fails unless the timeout is zero
      have hage : unitAge M u last now = 0 :=
        unitAge_of_same hq ((Nat.div_le_self last u).trans hl.le)
      have hfar : T * u ≤ elapsed M last now := by
        rw [elapsed_of_lt hl hlt]
        have hnow := Nat.div_mul_le_self now u
        have hlast := Nat.lt_div_mul_add (show 0 < u by omega) (a := last)
        rw [hq] at hnow
        omega
      constructor
      · rintro ⟨hrem, -⟩
        have := hrem hfar
        exact Or.inr (Or.inl (by omega))
      · rintro (h | h | h)
        · omega
        · refine ⟨fun _ => by omega, fun hsmall => ?_⟩
          rw [h, Nat.zero_mul] at hsmall
          omega
        · exact absurd hq h.1
  · exact iff_of_true ⟨le_unitAge_of_le (by omega) hn hle, unitAge_lt_of_le (by omega) hn hle⟩
      (Or.inl hle)

/-! ## Readings of 32 bits -/

/-- The difference of two 32-bit readings. -/
lemma toNat_sub_eq_elapsed (now last : UInt32) :
    (now - last).toNat = elapsed (2 ^ 32) last.toNat now.toNat :=
  UInt32.toNat_sub now last

/-- The difference of two 32-bit readings that are divided first. -/
lemma toNat_div_sub_eq_unitAge (now last u : UInt32) :
    (now / u - last / u).toNat = unitAge (2 ^ 32) u.toNat last.toNat now.toNat := by
  rw [UInt32.toNat_sub, UInt32.toNat_div, UInt32.toNat_div]
  rfl

/-! ## The oldest of several readings -/

/-- The readings of two times tell the ticks between them, if these are fewer than `M`. -/
lemma elapsed_mod {t t' : ℕ} (h : t ≤ t') (h' : t' - t < M) :
    elapsed M (t % M) (t' % M) = t' - t := by
  have hM : 0 < M := Nat.zero_lt_of_lt h'
  have hlt : t % M < M := Nat.mod_lt t hM
  have hdiv := Nat.div_add_mod t M
  have hadd : M - t % M + t' = t' - t + M * (t / M + 1) := by
    rw [Nat.mul_add, Nat.mul_one]
    omega
  have hsum : (M - t % M + t' % M) % M = (t' - t) % M := by
    rw [Nat.add_mod_mod, hadd, Nat.add_mul_mod_self_left]
  unfold elapsed
  rw [hsum, Nat.mod_eq_of_lt h']

/-- A loop that keeps the least value so far, and its place, from a start value. Either no value is
below the start value and the loop returns it, or the loop returns a least value. -/
lemma foldl_least {β ι : Type*} (val : β → ℕ) (f : ι → β) {step : β × ι → ι → β × ι}
    (hstep : ∀ r i, step r i = if val (f i) < val r.1 then (f i, i) else r) (l : List ι)
    (r : β × ι) :
    (l.foldl step r = r ∧ ∀ j ∈ l, val r.1 ≤ val (f j)) ∨
      ((l.foldl step r).1 = f (l.foldl step r).2 ∧ val (l.foldl step r).1 < val r.1 ∧
        ∀ j ∈ l, val (l.foldl step r).1 ≤ val (f j)) := by
  induction l generalizing r with
  | nil => exact Or.inl ⟨rfl, fun j hj => absurd hj List.not_mem_nil⟩
  | cons i l ih =>
    simp only [List.foldl_cons, List.forall_mem_cons]
    have hi := hstep r i
    by_cases hlt : val (f i) < val r.1
    · rw [if_pos hlt] at hi
      rw [hi]
      rcases ih (f i, i) with ⟨heq, hall⟩ | ⟨heq, hless, hall⟩
      · rw [heq]
        exact Or.inr ⟨rfl, hlt, le_rfl, hall⟩
      · exact Or.inr ⟨heq, hless.trans hlt, hless.le, hall⟩
    · rw [if_neg hlt] at hi
      rw [hi]
      rcases ih r with ⟨heq, hall⟩ | ⟨heq, hless, hall⟩
      · exact Or.inl ⟨heq, not_lt.mp hlt, hall⟩
      · exact Or.inr ⟨heq, hless, hless.le.trans (not_lt.mp hlt), hall⟩

/-- **When the smallest reading is the oldest.** A search that starts from the current reading
returns the place `i₀` if no reading is below the current one, and else a place `k` with the
smallest reading. That is the place with the most elapsed ticks exactly if no reading is above the
current one, or none is below it and `i₀` holds the smallest of those above.

**Proof sketch.** A reading above the current one was taken before the wrap, so it is older than
all others. -/
theorem smallest_oldest_iff {ι : Type*} {s : ι → ℕ} {i₀ k : ι} (hs : ∀ i, s i < M) (hn : now < M)
    (hk : (k = i₀ ∧ ∀ j, now ≤ s j) ∨ (s k < now ∧ ∀ j, s k ≤ s j)) :
    (∀ j, elapsed M (s j) now ≤ elapsed M (s k) now) ↔
      (∀ j, s j ≤ now) ∨ ((∀ j, now ≤ s j) ∧ now < s i₀ ∧ ∀ j, now < s j → s i₀ ≤ s j) := by
  have habove : ∀ j, now < s j → elapsed M (s j) now = M - s j + now := fun j hj =>
    elapsed_of_lt (hs j) hj
  have hbelow : ∀ j, s j ≤ now → elapsed M (s j) now = now - s j := fun j hj => elapsed_of_le hn hj
  rcases hk with ⟨rfl, hall⟩ | ⟨hlt, hmin⟩
  · -- no reading is below the current one
    constructor
    · intro h
      rcases (hall k).lt_or_eq with hk | hk
      · refine Or.inr ⟨hall, hk, fun j hj => ?_⟩
        have hage := h j
        have hsj := hs j
        rw [habove j hj, habove k hk] at hage
        omega
      · refine Or.inl fun j => ?_
        by_contra hj
        have hage := h j
        have hsj := hs j
        rw [habove j (by omega), hbelow k hk.ge] at hage
        omega
    · rintro (h | ⟨-, hk, h⟩) j
      · rw [hbelow j (h j), hbelow k (h k)]
        have := hall j
        omega
      · rw [habove k hk]
        rcases (hall j).lt_or_eq with hj | hj
        · have := h j hj
          rw [habove j hj]
          omega
        · rw [hbelow j hj.ge]
          omega
  · -- the reading that is found was taken after the wrap
    constructor
    · intro h
      refine Or.inl fun j => ?_
      by_contra hj
      have hage := h j
      have hsj := hs j
      rw [habove j (by omega), hbelow k hlt.le] at hage
      omega
    · rintro (h | ⟨h, -⟩) j
      · rw [hbelow j (h j), hbelow k hlt.le]
        have := hmin j
        omega
      · have := h k
        omega

end WrapClock
