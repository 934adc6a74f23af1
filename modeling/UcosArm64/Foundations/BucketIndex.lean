import Mathlib.Data.Fin.Tuple.Basic
import Mathlib.Logic.Function.Basic
import Mathlib.Tactic.Common

set_option relaxedAutoImplicit false
set_option autoImplicit false

/-!
# Hash indices over a table of slots

A table of slots, some of them live, can carry an index: an array of buckets, each of which names
at most one slot. A new slot overwrites the bucket it hashes to, and the bucket of a removed slot is
blanked. Such an index is a hint and not a map: several live slots may share a bucket, and the
bucket names only one of them.

## Main definitions

* `BucketIndex.Sound` — every slot named by a bucket is live and hashes to that bucket.
* `BucketIndex.Complete` — the bucket of every live slot names some slot.
* `BucketIndex.blank` — the buckets after the removal of a set of slots.
* `BucketIndex.hintedFind` — try the hinted slot, else search the table from its first slot.

## Main results

* `BucketIndex.Sound.insert`, `BucketIndex.Sound.blank` — soundness survives both operations.
* `BucketIndex.Complete.insert`, `BucketIndex.Complete.blank_iff` — completeness survives an
  insertion always, and a removal exactly when no removed slot shares its bucket with a slot that
  stays.
* `BucketIndex.hintedFind_eq_find?` — if at most one slot matches, a hint does not change the
  result of a search.
-/

namespace BucketIndex

variable {ι β : Type*}

/-- Every slot named by a bucket is live and hashes to that bucket. -/
def Sound (live : ι → Prop) (h : ι → β) (bucket : β → Option ι) : Prop :=
  ∀ b i, bucket b = some i → live i ∧ h i = b

/-- The bucket of every live slot names some slot. -/
def Complete (live : ι → Prop) (h : ι → β) (bucket : β → Option ι) : Prop :=
  ∀ i, live i → bucket (h i) ≠ none

variable {live live' : ι → Prop} {h h' : ι → β} {bucket : β → Option ι}

/-- Soundness depends only on the live slots and their hashes. -/
lemma Sound.congr (hs : Sound live h bucket) (hl : ∀ i, live i → live' i)
    (hh : ∀ i, live i → h' i = h i) : Sound live' h' bucket := by
  intro b i hb
  obtain ⟨hi, rfl⟩ := hs b i hb
  exact ⟨hl i hi, hh i hi⟩

/-- Completeness depends only on the live slots and their hashes. -/
lemma Complete.congr (hc : Complete live h bucket) (hl : ∀ i, live' i → live i)
    (hh : ∀ i, live' i → h' i = h i) : Complete live' h' bucket := by
  intro i hi
  rw [hh i hi]
  exact hc i (hl i hi)

/-! ## Insertion -/

section Insert

variable [DecidableEq ι] [DecidableEq β]

/-- A free slot `i` becomes live with hash `b`, and its bucket is overwritten: the index stays
sound. A bucket that named another slot keeps naming a live slot, since `i` was free. -/
lemma Sound.insert (hs : Sound live h bucket) {i : ι} (b : β) (hi : ¬ live i) :
    Sound (fun j => j = i ∨ live j) (Function.update h i b)
      (Function.update bucket b (some i)) := by
  intro c j hc
  by_cases hcb : c = b
  · subst hcb
    obtain rfl : i = j := by simpa using hc
    exact ⟨Or.inl rfl, by simp⟩
  · rw [Function.update_of_ne hcb] at hc
    obtain ⟨hj, rfl⟩ := hs c j hc
    have hji : j ≠ i := fun e => hi (e ▸ hj)
    exact ⟨Or.inr hj, Function.update_of_ne hji b h⟩

/-- An insertion keeps the index complete: no bucket becomes empty. -/
lemma Complete.insert (hc : Complete live h bucket) (i : ι) (b : β) :
    Complete (fun j => j = i ∨ live j) (Function.update h i b)
      (Function.update bucket b (some i)) := by
  intro j hj
  by_cases hji : j = i
  · subst hji; simp
  · rw [Function.update_of_ne hji]
    have hlive : live j := hj.resolve_left hji
    by_cases hb : h j = b
    · rw [hb]; simp
    · rw [Function.update_of_ne hb]
      exact hc j hlive

end Insert

/-! ## Removal -/

section Blank

open Classical in
/-- The buckets after the removal of the slots `dead`: the bucket of each of them is blanked. -/
noncomputable def blank (dead : ι → Prop) (h : ι → β) (bucket : β → Option ι) : β → Option ι :=
  fun b => if ∃ i, dead i ∧ h i = b then none else bucket b

/-- The removal of the live slots `dead` keeps the index sound: a bucket that named one of them
is the bucket of its hash, hence blanked. -/
lemma Sound.blank (hs : Sound live h bucket) (dead : ι → Prop) :
    Sound (fun i => live i ∧ ¬ dead i) h (blank dead h bucket) := by
  intro b i hb
  unfold BucketIndex.blank at hb
  split_ifs at hb with hd
  obtain ⟨hi, rfl⟩ := hs b i hb
  exact ⟨⟨hi, fun hdi => hd ⟨i, hdi, rfl⟩⟩, rfl⟩

/-- **Removal and completeness.** The removal of the slots `dead` keeps a complete index complete
exactly when no removed slot shares its bucket with a live slot that stays. -/
theorem Complete.blank_iff (hc : Complete live h bucket) (dead : ι → Prop) :
    Complete (fun i => live i ∧ ¬ dead i) h (BucketIndex.blank dead h bucket) ↔
      ∀ i j, dead i → live j → ¬ dead j → h i ≠ h j := by
  constructor
  · intro hc' i j hi hj hdj hij
    refine hc' j ⟨hj, hdj⟩ ?_
    unfold BucketIndex.blank
    exact if_pos ⟨i, hi, hij⟩
  · rintro hne j ⟨hj, hdj⟩
    unfold BucketIndex.blank
    rw [if_neg]
    · exact hc j hj
    · rintro ⟨i, hi, hij⟩
      exact hne i j hi hj hdj hij

end Blank

/-! ## Searching with a hint -/

section Search

variable {n : ℕ}

/-- Try the hinted slot; if there is none or it does not match, return the first slot that
matches. -/
def hintedFind (hint : Option (Fin n)) (hit : Fin n → Bool) : Option (Fin n) :=
  match hint with
  | some i => if hit i then some i else Fin.find? hit
  | none => Fin.find? hit

/-- A search with a hint returns a matching slot. -/
lemma hit_of_hintedFind {hint : Option (Fin n)} {hit : Fin n → Bool} {i : Fin n}
    (h : hintedFind hint hit = some i) : hit i = true := by
  unfold hintedFind at h
  split at h
  · split_ifs at h with hj
    · obtain rfl := Option.some.inj h
      exact hj
    · exact Fin.eq_true_of_find?_eq_some h
  · exact Fin.eq_true_of_find?_eq_some h

/-- A search with a hint fails exactly when nothing matches. -/
lemma hintedFind_eq_none_iff {hint : Option (Fin n)} {hit : Fin n → Bool} :
    hintedFind hint hit = none ↔ ∀ i, hit i = false := by
  unfold hintedFind
  split
  · rename_i j
    split_ifs with hj
    · exact ⟨fun h => by simp at h, fun h => by rw [h j] at hj; simp at hj⟩
    · exact Fin.find?_eq_none_iff
  · exact Fin.find?_eq_none_iff

/-- A hint does not change whether a search succeeds. -/
lemma isSome_hintedFind (hint : Option (Fin n)) (hit : Fin n → Bool) :
    (hintedFind hint hit).isSome = (Fin.find? hit).isSome := by
  rw [Bool.eq_iff_iff, ← not_iff_not, Bool.not_eq_true, Bool.not_eq_true,
    Option.isSome_eq_false_iff, Option.isSome_eq_false_iff, Option.isNone_iff_eq_none,
    Option.isNone_iff_eq_none, hintedFind_eq_none_iff, Fin.find?_eq_none_iff]

/-- If a matching slot is the only one, it is what a search with a hint returns. -/
lemma hintedFind_eq_some {hint : Option (Fin n)} {hit : Fin n → Bool} {i : Fin n}
    (hi : hit i = true) (hu : ∀ j, hit j = true → j = i) : hintedFind hint hit = some i := by
  cases hf : hintedFind hint hit with
  | none => rw [hintedFind_eq_none_iff.mp hf i] at hi; simp at hi
  | some j => rw [hu j (hit_of_hintedFind hf)]

/-- **Hints are harmless for keys.** If at most one slot matches, a search with a hint returns
what a search from the first slot returns. -/
theorem hintedFind_eq_find? {hint : Option (Fin n)} {hit : Fin n → Bool}
    (hu : ∀ i j, hit i = true → hit j = true → i = j) :
    hintedFind hint hit = Fin.find? hit := by
  cases hf : Fin.find? hit with
  | none => exact hintedFind_eq_none_iff.mpr (Fin.find?_eq_none_iff.mp hf)
  | some i =>
    have hi := Fin.eq_true_of_find?_eq_some hf
    exact hintedFind_eq_some hi fun j hj => hu j i hj hi

end Search

end BucketIndex
