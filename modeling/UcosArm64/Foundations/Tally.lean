import Mathlib.Data.Finset.Card
import Mathlib.Data.List.Nodup

set_option relaxedAutoImplicit false
set_option autoImplicit false

/-!
# Tallies

How many members of a finite set a partial assignment sends to a given value, and how this number
changes when the assignment changes at one member. The count of a loop that visits each slot of a
table once.

## Main definitions

* `tally` — the number of members that are assigned a value.

## Main results

* `tally_enter`, `tally_leave` — the change of a tally when one member gets or loses a value.
* `foldl_count` — a loop that counts the slots it acts on.
-/

variable {α β : Type*} [DecidableEq α] [DecidableEq β]

/-- The number of members of `S` to which `f` assigns `b`. -/
def tally (S : Finset α) (f : α → Option β) (b : β) : ℕ := (S.filter fun a => f a = some b).card

/-- One member is counted apart from the others. -/
lemma tally_erase {S : Finset α} {q : α} (hq : q ∈ S) (f : α → Option β) (b : β) :
    tally S f b = tally (S.erase q) f b + if f q = some b then 1 else 0 := by
  unfold tally
  conv_lhs => rw [← Finset.insert_erase hq, Finset.filter_insert]
  split_ifs with h
  · rw [Finset.card_insert_of_notMem (by simp)]
  · rfl

omit [DecidableEq α] in
/-- A tally depends on the members only. -/
lemma tally_congr {S : Finset α} {f g : α → Option β} (h : ∀ a ∈ S, g a = f a) (b : β) :
    tally S g b = tally S f b := by
  unfold tally
  congr 1
  apply Finset.filter_congr
  intro a ha
  rw [h a ha]

/-- **The tally after a member has been assigned a value**, where it had none. -/
lemma tally_enter {S : Finset α} {f g : α → Option β} {q : α} (hq : q ∈ S)
    (h : ∀ a, a ≠ q → g a = f a) {c : β} (hf : f q = none) (hg : g q = some c) (b : β) :
    tally S g b = tally S f b + if c = b then 1 else 0 := by
  have hrest : tally (S.erase q) g b = tally (S.erase q) f b :=
    tally_congr (fun a ha => h a (Finset.ne_of_mem_erase ha)) b
  rw [tally_erase hq g, tally_erase hq f, hrest, hf, hg]
  simp

/-- **The tally after a member has lost its value.** -/
lemma tally_leave {S : Finset α} {f g : α → Option β} {q : α} (hq : q ∈ S)
    (h : ∀ a, a ≠ q → g a = f a) {c : β} (hf : f q = some c) (hg : g q = none) (b : β) :
    tally S g b + (if c = b then 1 else 0) = tally S f b :=
  (tally_enter hq (fun a ha => (h a ha).symm) hg hf b).symm

/-- **The count of a loop over distinct slots.** Each visit adds one when its slot passes the test,
and no visit changes the test of another slot; so the loop counts the slots that pass at its
start. -/
lemma foldl_count {σ ι : Type*} (step : σ × ℕ → ι → σ × ℕ) (test : σ → ι → Bool)
    (hcount : ∀ r i, (step r i).2 = r.2 + if test r.1 i then 1 else 0)
    (hother : ∀ r i j, j ≠ i → test (step r i).1 j = test r.1 j) (l : List ι) (hl : l.Nodup)
    (r : σ × ℕ) : (l.foldl step r).2 = r.2 + l.countP (test r.1) := by
  induction l generalizing r with
  | nil => simp
  | cons i l ih =>
    obtain ⟨hi, hl⟩ := List.nodup_cons.mp hl
    have hrest : l.countP (test (step r i).1) = l.countP (test r.1) := by
      refine List.countP_congr fun j hj => ?_
      rw [hother r i j (fun e => hi (e ▸ hj))]
    rw [List.foldl_cons, ih hl, hcount, hrest, List.countP_cons]
    omega
