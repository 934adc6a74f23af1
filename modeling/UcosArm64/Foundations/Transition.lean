import Mathlib.Data.List.Basic
import Mathlib.Data.List.Infix
import Mathlib.Tactic.Common

set_option relaxedAutoImplicit false
set_option autoImplicit false

/-!
# Runs of transition systems

Two kinds of deterministic transition system, and the induction rules for their runs. A *total*
machine is a function `f : σ → α → σ`: in state `s` the operation `a` leads to `f s a`. A *partial*
machine is a function `step : σ → α → Option σ`, where `none` says that the action `a` is not
enabled; the nondeterminism of a concurrent system (which party moves, what a device chooses)
is in the action. Both are executable, so that a concrete run can be evaluated.

## Main definitions

* `Transition.run` — the state after a list of operations of a total machine.
* `Transition.Throughout`, `Transition.EveryStep` — a property of every state on a run, and of
  every step of a run.
* `Transition.exec` — the state after a list of actions of a partial machine, if all are enabled.
* `Transition.countSteps` — the number of steps of a run that meet a condition.

## Main results

* `Transition.run_invariant`, `Transition.exec_invariant` — what one step preserves, a run
  preserves.
* `Transition.run_history` — the same for relations between the actions so far and the state.
* `Transition.run_overwrites` — what a run overwrites, if each step overwrites what it names.
* `Transition.throughout_iff_everyStep` — if a step keeps `I` exactly when a condition on the
  step holds, then `I` holds throughout a run exactly when every step meets the condition.
* `Transition.exec_invariant_of_stepsMeet` — an invariant kept by the steps that meet a
  condition holds after every run all of whose steps meet it.
* `Transition.exec_history` — a relation between the actions so far and the state, for such runs.
* `Transition.exec_simulation` — a machine each of whose steps is a step of another machine, or
  none, has no other runs than that one.
-/

namespace Transition

variable {σ α : Type*}

/-! ## Total machines -/

section Total

variable (f : σ → α → σ)

/-- The state after the operations `as`, from `s`. -/
def run (s : σ) (as : List α) : σ := as.foldl f s

/-- The empty run. -/
@[simp] lemma run_nil (s : σ) : run f s [] = s := rfl

/-- The first action of a run, and the rest. -/
@[simp] lemma run_cons (s : σ) (a : α) (as : List α) : run f s (a :: as) = run f (f s a) as := rfl

/-- One run after the other. -/
@[simp] lemma run_append (s : σ) (as bs : List α) :
    run f s (as ++ bs) = run f (run f s as) bs := by simp [run]

/-- `P` holds in every state on the run of `as` from `s`, both ends included. -/
def Throughout (P : σ → Prop) (s : σ) (as : List α) : Prop :=
  ∀ pre, pre <+: as → P (run f s pre)

/-- `C` holds of every step of the run of `as` from `s`: of the state before it and its
operation. -/
def EveryStep (C : σ → α → Prop) (s : σ) (as : List α) : Prop :=
  ∀ pre a, pre ++ [a] <+: as → C (run f s pre) a

variable {f}

/-- An invariant of every step is an invariant of every run. -/
lemma run_invariant {I : σ → Prop} (hstep : ∀ s a, I s → I (f s a)) {s : σ} (hs : I s)
    (as : List α) : I (run f s as) := by
  induction as generalizing s with
  | nil => exact hs
  | cons a as ih => exact ih (hstep s a hs)

/-- Two machines that agree where an invariant holds have the same runs from there. -/
lemma run_congr {g : σ → α → σ} {I : σ → Prop} (hstep : ∀ s a, I s → I (f s a))
    (hfg : ∀ s a, I s → f s a = g s a) {s : σ} (hs : I s) (as : List α) :
    run f s as = run g s as := by
  induction as generalizing s with
  | nil => rfl
  | cons a as ih => rw [run_cons, run_cons, ih (hstep s a hs), hfg s a hs]

/-- A relation between the operations so far and the state reached, kept by every step, holds
after every run. -/
lemma run_history {R : List α → σ → Prop} {s : σ} (hs : R [] s)
    (hstep : ∀ as a, R as (run f s as) → R (as ++ [a]) (f (run f s as) a)) (as : List α) :
    R as (run f s as) := by
  induction as using List.reverseRecOn with
  | nil => exact hs
  | append_singleton as a ih => simpa using hstep as a ih

/-- **What a run overwrites.** If an operation puts the value `c` into the components of the view
`V` that it names and keeps the others, then so does a run, with the components that one of its
operations names. -/
lemma run_overwrites {κ β : Type*} {P : α → Prop} {V : σ → κ → β} {N : α → κ → Prop}
    [∀ a k, Decidable (N a k)] {c : β}
    (hstep : ∀ s a k, P a → V (f s a) k = if N a k then c else V s k) {as : List α}
    (has : ∀ a ∈ as, P a) (s : σ) (k : κ) :
    V (run f s as) k = if ∃ a ∈ as, N a k then c else V s k := by
  induction as generalizing s with
  | nil => simp
  | cons a as ih =>
    rw [run_cons, ih (fun b hb => has b (List.mem_cons_of_mem a hb)),
      hstep s a k (has a List.mem_cons_self)]
    simp only [List.exists_mem_cons_iff]
    by_cases hlater : ∃ b ∈ as, N b k
    · rw [if_pos hlater, if_pos (Or.inr hlater)]
    · rw [if_neg hlater]
      simp only [hlater, or_false]

/-- The first state of a run is one of its states. -/
lemma Throughout.start {P : σ → Prop} {s : σ} {as : List α} (h : Throughout f P s as) : P s :=
  h [] (List.nil_prefix)

/-- The conditions on the steps of a run, peeled off at its first step. -/
lemma everyStep_cons {C : σ → α → Prop} {s : σ} {a : α} {as : List α} :
    EveryStep f C s (a :: as) ↔ C s a ∧ EveryStep f C (f s a) as := by
  constructor
  · intro h
    refine ⟨h [] a (by simp), fun pre b hb => ?_⟩
    exact h (a :: pre) b (by simpa using hb)
  · rintro ⟨h₀, h⟩ pre b hb
    cases pre with
    | nil =>
      obtain ⟨rfl, -⟩ : b = a ∧ True := by simpa using hb
      exact h₀
    | cons c pre =>
      obtain ⟨rfl, hb'⟩ : c = a ∧ pre ++ [b] <+: as := by simpa [List.cons_prefix_cons] using hb
      exact h pre b hb'

/-- The states of a run, peeled off at its first step. -/
lemma throughout_cons {P : σ → Prop} {s : σ} {a : α} {as : List α} :
    Throughout f P s (a :: as) ↔ P s ∧ Throughout f P (f s a) as := by
  constructor
  · intro h
    exact ⟨h.start, fun pre hp => h (a :: pre) (by simpa using hp)⟩
  · rintro ⟨h₀, h⟩ pre hp
    cases pre with
    | nil => exact h₀
    | cons c pre =>
      obtain ⟨rfl, hp'⟩ : c = a ∧ pre <+: as := by simpa [List.cons_prefix_cons] using hp
      exact h pre hp'

/-- **Exact conditions for runs.** Let `J` be an invariant. If, wherever `J` and `I` hold, a step
keeps `I` exactly when `C` holds of it, then `I` holds in every state of a run exactly when `C`
holds of every step of it.

**Proof sketch.** Induction on the run. Both sides peel off the first step, and the equivalence
for one step turns one first conjunct into the other. -/
theorem throughout_iff_everyStep {J I : σ → Prop} {C : σ → α → Prop}
    (hJ : ∀ s a, J s → J (f s a)) (hstep : ∀ s a, J s → I s → (I (f s a) ↔ C s a))
    {s : σ} (hs : J s) (hi : I s) (as : List α) :
    Throughout f I s as ↔ EveryStep f C s as := by
  induction as generalizing s with
  | nil =>
    refine ⟨fun _ pre a h => ?_, fun _ pre h => ?_⟩
    · simp at h
    · obtain rfl : pre = [] := by simpa using h
      exact hi
  | cons a as ih =>
    rw [throughout_cons, everyStep_cons]
    constructor
    · rintro ⟨-, h⟩
      exact ⟨(hstep s a hs hi).mp h.start, (ih (hJ s a hs) h.start).mp h⟩
    · rintro ⟨hc, h⟩
      have hi' := (hstep s a hs hi).mpr hc
      exact ⟨hi, (ih (hJ s a hs) hi').mpr h⟩

end Total

/-! ## Partial machines -/

section Partial

variable (step : σ → α → Option σ)

/-- The state after the actions `as`, from `s`; `none` if one of them is not enabled. -/
def exec (s : σ) : List α → Option σ
  | [] => some s
  | a :: as => (step s a).bind fun t => exec t as

/-- The empty run of a partial step. -/
@[simp] lemma exec_nil (s : σ) : exec step s [] = some s := rfl

/-- A run starts with an enabled action. -/
lemma exec_cons (s : σ) (a : α) (as : List α) :
    exec step s (a :: as) = (step s a).bind fun t => exec step t as := rfl

/-- A run of `as ++ bs` is a run of `as` followed by a run of `bs`. -/
lemma exec_append (s : σ) (as bs : List α) :
    exec step s (as ++ bs) = (exec step s as).bind fun t => exec step t bs := by
  induction as generalizing s with
  | nil => rfl
  | cons a as ih =>
    simp only [List.cons_append, exec_cons]
    cases step s a with
    | none => rfl
    | some t => simpa using ih t

/-- The last step of a run. -/
lemma exec_concat_eq_some {s u : σ} {as : List α} {a : α} :
    exec step s (as ++ [a]) = some u ↔ ∃ t, exec step s as = some t ∧ step t a = some u := by
  rw [exec_append, Option.bind_eq_some_iff]
  simp [exec_cons]

/-- The states that runs from `s` reach. -/
def Reachable (s t : σ) : Prop := ∃ as, exec step s as = some t

/-- The number of steps of the run of `as` from `s` that meet `N`. -/
def countSteps (N : σ → α → Prop) [∀ s a, Decidable (N s a)] (s : σ) : List α → ℕ
  | [] => 0
  | a :: as => (if N s a then 1 else 0) +
    match step s a with
    | none => 0
    | some t => countSteps N t as

variable {step}

/-- The count after one step more. -/
lemma countSteps_concat {N : σ → α → Prop} [∀ s a, Decidable (N s a)] {s t : σ} {as : List α}
    (h : exec step s as = some t) (a : α) :
    countSteps step N s (as ++ [a]) = countSteps step N s as + if N t a then 1 else 0 := by
  induction as generalizing s with
  | nil =>
    obtain rfl : s = t := by simpa using h
    rw [List.nil_append, countSteps, countSteps]
    cases step s a <;> simp [countSteps]
  | cons b as ih =>
    rw [exec_cons] at h
    obtain ⟨u, hu, h⟩ := Option.bind_eq_some_iff.mp h
    simp only [List.cons_append, countSteps, hu, ih h, Nat.add_assoc]

/-- `C` holds of every step of the run of `as` from `s`. -/
def StepsMeet (step : σ → α → Option σ) (C : σ → α → Prop) (s : σ) (as : List α) : Prop :=
  ∀ pre a t, pre ++ [a] <+: as → exec step s pre = some t → C t a

/-- A condition on the actions alone. -/
lemma stepsMeet_of_forall {C : σ → α → Prop} {s : σ} {as : List α} (h : ∀ a ∈ as, ∀ t, C t a) :
    StepsMeet step C s as := fun _ a t hpre _ =>
  h a (hpre.subset (List.mem_append_right _ List.mem_cons_self)) t

/-- The first step of a run whose steps all meet `C`. -/
lemma stepsMeet_cons_of {C : σ → α → Prop} {s : σ} {a : α} {as : List α} (ha : C s a)
    (has : ∀ t, step s a = some t → StepsMeet step C t as) : StepsMeet step C s (a :: as) := by
  intro pre b t hpre hexec
  cases pre with
  | nil =>
    obtain rfl : s = t := by simpa using hexec
    obtain rfl : b = a := by simpa using hpre
    exact ha
  | cons c pre =>
    obtain ⟨rfl, hpre'⟩ := List.cons_prefix_cons.mp (by simpa using hpre)
    rw [exec_cons] at hexec
    obtain ⟨u, hu, hexec⟩ := Option.bind_eq_some_iff.mp hexec
    exact has u hu pre b t hpre' hexec

/-- The two parts of a run whose steps all meet `C`. -/
lemma StepsMeet.append {C : σ → α → Prop} {s t : σ} {as bs : List α}
    (h : StepsMeet step C s (as ++ bs)) (hexec : exec step s as = some t) :
    StepsMeet step C s as ∧ StepsMeet step C t bs := by
  refine ⟨fun pre a u hpre => h pre a u (hpre.trans (List.prefix_append as bs)),
    fun pre a u hpre hu => h (as ++ pre) a u ?_ ?_⟩
  · rw [List.append_assoc]
    exact (List.prefix_append_right_inj as).mpr hpre
  · rw [exec_append, hexec]
    exact hu

/-- The first step of a run whose steps all meet `C`, and the rest of the run. -/
lemma StepsMeet.cons {C : σ → α → Prop} {s t : σ} {a : α} {as : List α}
    (h : StepsMeet step C s (a :: as)) (hstep : step s a = some t) :
    C s a ∧ StepsMeet step C t as := by
  have hsplit : StepsMeet step C s ([a] ++ as) := h
  refine ⟨h [] a s (by simp) rfl, (hsplit.append ?_).2⟩
  rw [exec_cons, hstep]
  rfl

/-- A run whose steps all meet `C`, and one after it. -/
lemma StepsMeet.trans {C : σ → α → Prop} {s t : σ} {as bs : List α} (has : StepsMeet step C s as)
    (hexec : exec step s as = some t) (hbs : StepsMeet step C t bs) :
    StepsMeet step C s (as ++ bs) := by
  induction as generalizing s with
  | nil =>
    obtain rfl : s = t := by simpa using hexec
    exact hbs
  | cons a as ih =>
    refine stepsMeet_cons_of (has [] a s (by simp) rfl) fun u hu => ih (has.cons hu).2 ?_
    rw [exec_cons, hu] at hexec
    exact hexec

/-- The test that all steps of a run meet `C`. -/
def meets (step : σ → α → Option σ) (C : σ → α → Prop) [∀ s a, Decidable (C s a)] (s : σ) :
    List α → Bool
  | [] => true
  | a :: as => decide (C s a) &&
    match step s a with
    | none => true
    | some t => meets step C t as

/-- A run that passes the test. -/
lemma stepsMeet_of_meets {C : σ → α → Prop} [∀ s a, Decidable (C s a)] {s : σ} {as : List α}
    (h : meets step C s as = true) : StepsMeet step C s as := by
  induction as generalizing s with
  | nil =>
    intro pre a t hpre
    simp at hpre
  | cons a as ih =>
    rw [meets, Bool.and_eq_true, decide_eq_true_eq] at h
    refine stepsMeet_cons_of h.1 fun t ht => ih ?_
    have hrest := h.2
    rw [ht] at hrest
    exact hrest

/-- **Conditional invariants.** An invariant kept by every enabled step that meets `C` holds after
every run all of whose steps meet `C`. -/
theorem exec_invariant_of_stepsMeet {I : σ → Prop} {C : σ → α → Prop}
    (hstep : ∀ s a t, I s → C s a → step s a = some t → I t)
    {s t : σ} {as : List α} (hs : I s) (hC : StepsMeet step C s as)
    (h : exec step s as = some t) : I t := by
  induction as using List.reverseRecOn generalizing t with
  | nil =>
    obtain rfl : s = t := by simpa using h
    exact hs
  | append_singleton as a ih =>
    obtain ⟨u, hu, ha⟩ := (exec_concat_eq_some step).mp h
    have hpre : StepsMeet step C s as := fun pre b v hb =>
      hC pre b v (hb.trans (List.prefix_append as [a]))
    exact hstep u a t (ih hpre hu) (hC as a u (List.prefix_refl _) hu) ha

/-- A relation between the actions so far and the state reached, kept by every enabled step that
meets `C`, holds after every run all of whose steps meet `C`. -/
lemma exec_history {R : List α → σ → Prop} {C : σ → α → Prop} {s t : σ} {as : List α} (hs : R [] s)
    (hstep : ∀ as a t u, exec step s as = some t → R as t → C t a → step t a = some u →
      R (as ++ [a]) u)
    (hC : StepsMeet step C s as) (h : exec step s as = some t) : R as t := by
  induction as using List.reverseRecOn generalizing t with
  | nil =>
    obtain rfl : s = t := by simpa using h
    exact hs
  | append_singleton as a ih =>
    obtain ⟨u, hu, ha⟩ := (exec_concat_eq_some step).mp h
    have hpre : StepsMeet step C s as := fun pre b v hb =>
      hC pre b v (hb.trans (List.prefix_append as [a]))
    exact hstep as a u t hu (ih hpre hu) (hC as a u (List.prefix_refl _) hu) ha

/-- An invariant of every enabled step is an invariant of every run. -/
lemma exec_invariant {I : σ → Prop} (hstep : ∀ s a t, I s → step s a = some t → I t)
    {s t : σ} {as : List α} (hs : I s) (h : exec step s as = some t) : I t :=
  exec_invariant_of_stepsMeet (C := fun _ _ => True) (fun s a t hI _ => hstep s a t hI) hs
    (fun _ _ _ _ _ => trivial) h

/-- An invariant of every enabled step holds in every reachable state. -/
lemma Reachable.invariant {I : σ → Prop} (hstep : ∀ s a t, I s → step s a = some t → I t)
    {s t : σ} (hs : I s) (h : Reachable step s t) : I t := by
  obtain ⟨as, h⟩ := h
  exact exec_invariant hstep hs h

end Partial

end Transition
