import UcosArm64.Port.ContextSwitch

set_option relaxedAutoImplicit false
set_option autoImplicit false

/-!
# The SIMD and FP registers

FP and SIMD are enabled at EL1 and compiled code may use `v0 .. v31`, but a frame holds the
general-purpose registers only. A task that resumes after an IRQ finds in `v0 .. v31`, and after
`OSCtxSw` in the low halves of `v8 .. v15`, what the code that ran in between has left there.

## Main definitions

* `Port.Record.Agree` — which vector registers a task that lost the processor relies on.
* `Port.VecRestored` — a task that resumes finds the vector registers it relies on.
* `Port.VecKept` — a stretch of code leaves the vector registers of the tasks that are switched out.

## Main results

* `Port.execCode_v` — the code of the port neither saves nor restores a vector register.
* `Port.vecRestored_of_stepsMeet` — the registers survive in runs in which all code leaves them.
* `Port.clobberRun_not_vecRestored` — a register that the interrupt handler has changed.
-/

namespace Port

open Transition

/-! ## The port and the vector registers -/

/-- The registers that a task relies on agree: `v0 .. v31` if an IRQ took the processor, the low
halves of `v8 .. v15` if it called `OSCtxSw`. -/
def Context.Agree (ctx : Context) (v v' : Fin 32 → BitVec 128) : Prop :=
  if ctx.pstate.isSome then v' = v
  else ∀ k : Fin 32, 8 ≤ k → k ≤ 15 → (v' k).setWidth 64 = (v k).setWidth 64

instance (ctx : Context) (v v' : Fin 32 → BitVec 128) : Decidable (ctx.Agree v v') := by
  unfold Context.Agree
  infer_instance

/-- The registers agree with themselves. -/
lemma Context.Agree.refl (ctx : Context) (v : Fin 32 → BitVec 128) : ctx.Agree v v := by
  unfold Context.Agree
  split_ifs
  · rfl
  · exact fun _ _ _ => rfl

/-- Agreement is transitive. -/
lemma Context.Agree.trans {ctx : Context} {v v' v'' : Fin 32 → BitVec 128} (h : ctx.Agree v v')
    (h' : ctx.Agree v' v'') : ctx.Agree v v'' := by
  unfold Context.Agree at *
  split_ifs at *
  · exact h'.trans h
  · exact fun k h₁ h₂ => (h' k h₁ h₂).trans (h k h₁ h₂)

/-- The registers that a task relies on agree, if it has lost the processor. -/
def Record.Agree (r : Record) (v v' : Fin 32 → BitVec 128) : Prop :=
  ∀ ctx, r = .lost ctx → ctx.Agree v v'

instance (r : Record) (v v' : Fin 32 → BitVec 128) : Decidable (r.Agree v v') :=
  match r with
  | .absent => isTrue fun _ h => nomatch h
  | .fresh => isTrue fun _ h => nomatch h
  | .lost ctx => decidable_of_iff (ctx.Agree v v')
    ⟨fun h _ he => Record.lost.inj he ▸ h, fun h => h ctx rfl⟩

/-- No instruction of the port touches a vector register. -/
lemma Instr.exec_v (sym : Symbol → BitVec 64) (c : Cpu) (i : Instr) : (i.exec sym c).v = c.v := by
  cases i <;> rfl

/-- **The code of the port leaves the vector registers alone.** -/
lemma execCode_v (sym : Symbol → BitVec 64) (c : Cpu) (code : List Instr) :
    (execCode sym c code).v = c.v := by
  induction code generalizing c with
  | nil => rfl
  | cons i code ih => exact (ih _).trans (Instr.exec_v sym c i)

/-- The handler leaves the vector registers alone. -/
lemma exceptIrqHndlr_v (sym : Symbol → BitVec 64) (c : Cpu) : (exceptIrqHndlr sym c).v = c.v := by
  simp only [exceptIrqHndlr]
  split_ifs
  · exact (execCode_v sym _ _).trans (execCode_v sym c _)
  · exact execCode_v sym c _

/-! ## Runs that keep the vector registers -/

section

variable {τ : Type} {s t : PortState τ}

/-- A task that has just resumed finds the vector registers it relies on. -/
def VecRestored (s : PortState τ) : Prop :=
  ∀ q ctx, s.resumed = some q → s.record q = .lost ctx → ctx.Agree ctx.v s.cpu.v

/-- A stretch of code leaves the vector registers on which the tasks that are switched out rely as
it found them. -/
def VecKept (s : PortState τ) : PortAction τ → Prop
  | .setV v => ∀ q, s.mode ≠ .task q → (s.record q).Agree s.cpu.v v
  | _ => True

/-- The invariant of the runs in which all code keeps the vector registers. -/
structure VecInv (s : PortState τ) : Prop where
  switchedOut : ∀ q ctx, s.mode ≠ .task q → s.record q = .lost ctx → ctx.Agree ctx.v s.cpu.v
  restored : VecRestored s

/-- A step of code outside the port. -/
lemma VecInv.code (h : VecInv s) {c : Cpu}
    (hv : ∀ q, s.mode ≠ .task q → (s.record q).Agree s.cpu.v c.v) : VecInv (s.code c) := by
  constructor
  · intro q ctx hq hctx
    exact (h.switchedOut q ctx hq hctx).trans (hv q hq ctx hctx)
  · intro q ctx hq
    cases hq

/-- A step after which all the vector registers on which any task relies are there. -/
lemma vecInv_of_all (h : ∀ q ctx, t.record q = .lost ctx → ctx.Agree ctx.v t.cpu.v) : VecInv t :=
  ⟨fun q ctx _ hctx => h q ctx hctx, fun q ctx _ hctx => h q ctx hctx⟩

/-- The task that runs loses the processor. -/
lemma VecInv.lose [DecidableEq τ] (h : VecInv s) {p : τ} (hmode : s.mode = .task p) {c : Cpu}
    {mode : Mode τ} {resumed : Option τ} {ctx : Context} (hv : c.v = s.cpu.v)
    (hctx : ctx.v = s.cpu.v) :
    VecInv ⟨c, mode, Function.update s.record p (.lost ctx), resumed⟩ := by
  apply vecInv_of_all
  intro q ctx' hq
  have hq' : Function.update s.record p (.lost ctx) q = .lost ctx' := hq
  show ctx'.Agree ctx'.v c.v
  rw [hv]
  by_cases hqp : q = p
  · subst hqp
    rw [Function.update_self] at hq'
    obtain rfl := Record.lost.inj hq'
    rw [hctx]
    exact Context.Agree.refl ctx s.cpu.v
  · rw [Function.update_of_ne hqp] at hq'
    apply h.switchedOut q ctx' _ hq'
    rw [hmode]
    intro he
    exact hqp (Mode.task.inj he).symm

/-- A switch while no task runs. -/
lemma VecInv.resume (h : VecInv s) (hmode : ∀ q, s.mode ≠ .task q) {c : Cpu} {mode : Mode τ}
    {resumed : Option τ} (hv : c.v = s.cpu.v) : VecInv ⟨c, mode, s.record, resumed⟩ := by
  apply vecInv_of_all
  intro q ctx hq
  show ctx.Agree ctx.v c.v
  rw [hv]
  exact h.switchedOut q ctx (hmode q) hq

end

section

variable {τ : Type} [Fintype τ] [DecidableEq τ] {L : Layout τ} {s t : PortState τ}

/-- Every step that keeps the vector registers keeps the invariant. -/
lemma VecInv.step (h : VecInv s) {a : PortAction τ} (hkept : VecKept s a)
    (hstep : portStep L s a = some t) : VecInv t := by
  have hsame : ∀ q, s.mode ≠ .task q → (s.record q).Agree s.cpu.v s.cpu.v :=
    fun _ _ ctx _ => Context.Agree.refl ctx s.cpu.v
  cases portRule_of_portStep hstep with
  | code c hmem hv hsp =>
    apply h.code
    rw [hv]
    exact hsame
  | setV v => exact h.code hkept
  | store a v ha => exact h.code hsame
  | create q hq =>
    have hu := h.code hsame (c := { s.cpu with mem := taskCreate L q s.cpu.mem })
    constructor
    · intro p ctx hp hctx
      apply hu.switchedOut p ctx hp
      by_cases hpq : p = q
      · subst hpq
        have hctx' : Function.update s.record p .fresh p = .lost ctx := hctx
        rw [Function.update_self] at hctx'
        cases hctx'
      · exact (Function.update_of_ne hpq _ _).symm.trans hctx
    · intro p ctx hp
      cases hp
  | start q hmode hq => exact h.resume (by rw [hmode]; simp) (execCode_v _ _ _)
  | ctxSw p q hmode hq => exact h.lose hmode (execCode_v _ _ _) rfl
  | irqEnter p hmode hfirst => exact h.lose hmode (exceptIrqHndlr_v _ _) rfl
  | intCtxSw p q hmode hq => exact h.resume (by rw [hmode]; simp) (execCode_v _ _ _)
  | irqExit p hmode => exact h.resume (by rw [hmode]; simp) (execCode_v _ _ _)

/-- **The vector registers survive** in every run in which each stretch of code that runs while a
task is switched out leaves the registers that this task relies on as it found them: `v0 .. v31`
for a task that an IRQ has switched out, and the low halves of `v8 .. v15` for one that `OSCtxSw`
has.

**Proof sketch.** The code of the port does not touch a vector register (`execCode_v`), so these
steps keep the invariant whatever they switch, and the other steps keep it by the condition. -/
theorem vecRestored_of_stepsMeet (L : Layout τ) (c : Cpu) (as : List (PortAction τ))
    (hC : StepsMeet (portStep L) VecKept (portInit c) as)
    (h : exec (portStep L) (portInit c) as = some s) : VecRestored s := by
  have hinit : VecInv (portInit c : PortState τ) := by
    apply vecInv_of_all
    intro q ctx hq
    cases hq
  have hinv : VecInv s := exec_invariant_of_stepsMeet (I := VecInv) (C := VecKept)
    (fun _ _ _ hs hC hstep => VecInv.step hs hC hstep) hinit hC h
  exact hinv.restored

instance (s : PortState τ) (a : PortAction τ) : Decidable (VecKept s a) := by
  unfold VecKept
  cases a <;> infer_instance

end

/-! ## A clobbered register -/

/-- An IRQ takes the processor from a task with ones in its vector registers. -/
def vectorsInUse : List (PortAction (Fin 2)) := startRun ++ [.setV fun _ => 1, .irqEnter]

/-- The handler leaves the vector registers alone. -/
def keepRun : List (PortAction (Fin 2)) := vectorsInUse ++ [.irqExit]

/-- The handler uses `v0`, which a callee need not preserve. -/
def clobberRun : List (PortAction (Fin 2)) :=
  vectorsInUse ++ [.setV (Function.update (fun _ => 1) 0 0), .irqExit]

/-- The task finds its vector registers. -/
theorem keepRun_vecRestored :
    ∃ s, exec (portStep twoStacks) (portInit bootCpu) keepRun = some s ∧ VecRestored s := by
  have hsome : (exec (portStep twoStacks) (portInit bootCpu) keepRun).isSome = true := by
    decide +kernel
  obtain ⟨s, hs⟩ := Option.isSome_iff_exists.mp hsome
  refine ⟨s, hs, vecRestored_of_stepsMeet twoStacks bootCpu keepRun ?_ hs⟩
  exact stepsMeet_of_meets (by decide +kernel)

/-- What the property speaks about, in the state after a run: who has resumed, `v0`, and what the
task `q` had in `v0` when an IRQ took the processor. -/
def observeV0 (q : Fin 2) (s : PortState (Fin 2)) :
    Option (Fin 2) × BitVec 128 × Option (BitVec 128) :=
  (s.resumed, s.cpu.v 0, match s.record q with
    | .lost ctx => if ctx.pstate.isSome then some (ctx.v 0) else none
    | _ => none)

/-- **The task resumes with zero in `v0`**, where it had one. -/
theorem clobberRun_not_vecRestored :
    ∃ s, exec (portStep twoStacks) (portInit bootCpu) clobberRun = some s ∧ ¬ VecRestored s := by
  have hobs : (exec (portStep twoStacks) (portInit bootCpu) clobberRun).map (observeV0 0) =
      some (some 0, 0, some 1) := by decide +kernel
  obtain ⟨s, hs, hval⟩ := Option.map_eq_some_iff.mp hobs
  simp only [observeV0, Prod.mk.injEq] at hval
  obtain ⟨hresumed, hv, hlost⟩ := hval
  refine ⟨s, hs, fun hrestored => ?_⟩
  cases hrec : s.record 0 with
  | absent => simp [hrec] at hlost
  | fresh => simp [hrec] at hlost
  | lost ctx =>
    simp only [hrec] at hlost
    split_ifs at hlost with hirq
    have hagree := hrestored 0 ctx hresumed hrec
    unfold Context.Agree at hagree
    rw [if_pos hirq] at hagree
    rw [hagree, Option.some_inj.mp hlost] at hv
    exact absurd hv (by decide)

end Port
