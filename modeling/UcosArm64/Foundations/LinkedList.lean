import Mathlib.Data.List.Nodup
import Mathlib.Tactic.Common

set_option relaxedAutoImplicit false
set_option autoImplicit false

/-!
# Linked lists in a table

Nodes with a pointer to the next node, and perhaps one to the node before, as two functions on the
nodes. A list that ends in the null pointer is determined by its head, and no node is on it twice.

## Main definitions

* `Linked` — the nodes that the pointers lead through from the head to the null pointer.
* `BackLinked` — the pointers back agree with the order of the nodes.

## Main results

* `Linked.unique`, `Linked.nodup` — the nodes are determined and distinct.
* `Linked.push`, `BackLinked.push` — a node is put in front.
* `Linked.walk_step` — where a walk along the list stands, and what it has still to visit.
* `linked_range` — the nodes of a table, each linked to the one after it.
-/

section

variable {ν : Type*} {next next' prev prev' : ν → Option ν}

/-- The pointers `next` lead from `head` through the nodes `l` to the null pointer. -/
def Linked (next : ν → Option ν) : Option ν → List ν → Prop
  | head, [] => head = none
  | head, a :: l => head = some a ∧ Linked next (next a) l

/-- The pointers `prev` lead from each node of `l` to the one before it, and from the first one
to `before`. -/
def BackLinked (prev : ν → Option ν) : Option ν → List ν → Prop
  | _, [] => True
  | before, a :: l => prev a = before ∧ BackLinked prev (some a) l

/-! ## Linked lists -/

/-- The head is the first element, if any. -/
lemma Linked.head_eq {head : Option ν} {l : List ν} (h : Linked next head l) : head = l.head? := by
  cases l with
  | nil => exact h
  | cons a l => exact h.1

/-- The head determines the nodes. -/
lemma Linked.unique {head : Option ν} {l l' : List ν} (h : Linked next head l)
    (h' : Linked next head l') : l = l' := by
  induction l generalizing head l' with
  | nil =>
    cases l' with
    | nil => rfl
    | cons b l' =>
      rw [h] at h'
      exact absurd h'.1 (by simp)
  | cons a l ih =>
    cases l' with
    | nil =>
      rw [h'] at h
      exact absurd h.1 (by simp)
    | cons b l' =>
      obtain rfl : a = b := Option.some.inj (h.1.symm.trans h'.1)
      rw [ih h.2 h'.2]

/-- A list depends on the pointers of its nodes only. -/
lemma Linked.congr {head : Option ν} {l : List ν} (h : Linked next head l)
    (hnext : ∀ a ∈ l, next' a = next a) : Linked next' head l := by
  induction l generalizing head with
  | nil => exact h
  | cons a l ih =>
    refine ⟨h.1, ?_⟩
    rw [hnext a List.mem_cons_self]
    exact ih h.2 fun b hb => hnext b (List.mem_cons_of_mem a hb)

/-- The rest of a list, from one of its nodes on. -/
lemma Linked.suffix {head : Option ν} {pre post : List ν} {a : ν}
    (h : Linked next head (pre ++ a :: post)) : Linked next (some a) (a :: post) := by
  induction pre generalizing head with
  | nil => exact ⟨rfl, h.2⟩
  | cons b pre ih => exact ih h.2

/-- **No node is on a list twice.**

**Proof sketch.** Were the first node on the rest of the list again, then the list from there on
and the whole list would have the same head, and so would be equal. They differ in length. -/
theorem Linked.nodup {head : Option ν} {l : List ν} (h : Linked next head l) : l.Nodup := by
  induction l generalizing head with
  | nil => exact List.nodup_nil
  | cons a l ih =>
    refine List.nodup_cons.mpr ⟨fun hmem => ?_, ih h.2⟩
    obtain ⟨pre, post, rfl⟩ := List.append_of_mem hmem
    have hsuffix : Linked next (some a) (a :: post) := h.2.suffix
    have hwhole : Linked next (some a) (a :: (pre ++ a :: post)) := ⟨rfl, h.2⟩
    have hlen := congrArg List.length (hsuffix.unique hwhole)
    simp only [List.length_cons, List.length_append] at hlen
    omega

/-- The first node is taken off. -/
lemma Linked.pop {a : ν} {l : List ν} (h : Linked next (some a) l) :
    ∃ l', l = a :: l' ∧ Linked next (next a) l' := by
  cases l with
  | nil => exact absurd h (by simp [Linked])
  | cons b l' =>
    obtain rfl : a = b := Option.some.inj h.1
    exact ⟨l', rfl, h.2⟩

/-- The pointer of a node that is not the last one leads to a node. -/
lemma Linked.walk_step {head : Option ν} {pre post : List ν} {a : ν}
    (h : Linked next head (pre ++ a :: post)) (hpost : post ≠ []) :
    ∃ b post', next a = some b ∧ post = b :: post' := by
  obtain ⟨b, post', rfl⟩ := List.exists_cons_of_ne_nil hpost
  exact ⟨b, post', h.suffix.2.1, rfl⟩

/-- The backward links depend on the links of the elements only. -/
lemma BackLinked.congr {before : Option ν} {l : List ν} (h : BackLinked prev before l)
    (hprev : ∀ a ∈ l, prev' a = prev a) : BackLinked prev' before l := by
  induction l generalizing before with
  | nil => exact h
  | cons a l ih =>
    refine ⟨(hprev a List.mem_cons_self).trans h.1, ?_⟩
    exact ih h.2 fun b hb => hprev b (List.mem_cons_of_mem a hb)

/-- The pointer back of the old first node is set to the new one. -/
lemma BackLinked.push {l : List ν} (h : BackLinked prev none l) {a : ν}
    (hl : l.Nodup) (hnew : prev' a = none) (hhead : ∀ b, l.head? = some b → prev' b = some a)
    (hother : ∀ b ∈ l, l.head? ≠ some b → prev' b = prev b) : BackLinked prev' none (a :: l) := by
  refine ⟨hnew, ?_⟩
  cases l with
  | nil => trivial
  | cons b l =>
    refine ⟨hhead b rfl, h.2.congr fun c hc => hother c (List.mem_cons_of_mem b hc) ?_⟩
    rintro hbc
    obtain rfl : b = c := Option.some.inj hbc
    exact (List.nodup_cons.mp hl).1 hc

/-- A node is put in front. -/
lemma Linked.push {head : Option ν} {l : List ν} (h : Linked next head l) {a : ν}
    (hnew : next' a = head) (hother : ∀ b ∈ l, next' b = next b) :
    Linked next' (some a) (a :: l) := by
  refine ⟨rfl, ?_⟩
  rw [hnew]
  exact h.congr hother

end

/-! ## Tables -/

/-- The nodes from `m` on, each linked to the one after it. -/
lemma linked_range' {next : ℕ → Option ℕ} (m k : ℕ)
    (hnext : ∀ i, m ≤ i → i < m + k → next i = some (i + 1)) (hlast : next (m + k) = none) :
    Linked next (some m) (List.range' m (k + 1)) := by
  induction k generalizing m with
  | zero => exact ⟨rfl, hlast⟩
  | succ k ih =>
    rw [List.range'_succ]
    refine ⟨rfl, ?_⟩
    rw [hnext m (Nat.le_refl m) (by omega)]
    apply ih
    · intro i hi hlt
      exact hnext i (by omega) (by omega)
    · rw [← hlast]
      congr 1
      omega

/-- The nodes of a table of `k + 1`. -/
lemma linked_range {next : ℕ → Option ℕ} {k : ℕ} (hnext : ∀ i < k, next i = some (i + 1))
    (hlast : next k = none) : Linked next (some 0) (List.range (k + 1)) := by
  rw [List.range_eq_range']
  apply linked_range'
  · intro i _ hi
    exact hnext i (by omega)
  · rw [Nat.zero_add]
    exact hlast

/-- A loop over the entries of a table that writes each of them once. -/
lemma foldl_update_range {β : Type*} (g : ℕ → β → β) (tbl : ℕ → β) (n j : ℕ) :
    (List.range n).foldl (fun tbl ix => Function.update tbl ix (g ix (tbl ix))) tbl j =
      if j < n then g j (tbl j) else tbl j := by
  induction n with
  | zero => simp
  | succ n ih =>
    rw [List.range_succ, List.foldl_append, List.foldl_cons, List.foldl_nil, Function.update_apply]
    by_cases hj : j = n
    · subst hj
      rw [ih, if_pos rfl, if_neg (Nat.lt_irrefl j), if_pos (Nat.lt_succ_self j)]
    · rw [if_neg hj, ih]
      simp only [show j < n + 1 ↔ j < n by omega]
