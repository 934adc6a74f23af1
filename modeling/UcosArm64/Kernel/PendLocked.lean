import UcosArm64.Kernel.SemConservation

set_option relaxedAutoImplicit false
set_option autoImplicit false

/-!
# Pending where no switch is possible

`OSSemPend` in an interrupt, or in a task that has locked the scheduler. `OS_Sched` does nothing
then, so the call comes back to its caller at once. The code refuses the first case. In the second
it puts the caller into the wait list, finds `OSTCBStatPend` as it has set it, and reports that it
has a token.

## Main definitions

* `Kernel.osSemPendCall` — the whole of `OSSemPend` where `OS_Sched` does not switch.
* `Kernel.PendRefused` — the call reports its error and changes nothing.

## Main results

* `Kernel.pendRefused_iff` — on a semaphore without tokens this is so exactly in an interrupt.
* `Kernel.osSemPendCall_locked` — what the call does while the scheduler is locked.
-/

namespace Kernel

/-! ## Error codes (`ucos_ii.h`) -/

/-- `OS_ERR_PEND_ISR` -/
def osErrPendIsr : UInt8 := 2

/-- `OS_ERR_PEND_LOCKED` -/
def osErrPendLocked : UInt8 := 13

/-- The value that is stored to `*perr`. -/
def OsErr.code : OsErr → UInt8
  | .none => 0
  | .timeout => 10
  | .pendIsr => osErrPendIsr
  | .pendAbort => 14
  | .semOvf => 51

section

variable {ι : Type} [DecidableEq ι]

/-! ## The whole call -/

/-- `OSSemPend`, where its call of `OS_Sched` comes back to the same task at once. -/
def osSemPendCall (k : OsState ι) (i : ι) (timeout : UInt32) : OsState ι × OsErr :=
  match osSemPend k i timeout with
  | (k, some err) => (k, err)
  | (k, none) => osSemPendResume (osSched k) i

/-- The call reports that its caller cannot wait, and leaves the semaphore, its wait list, the
ready list and every TCB as they are. -/
structure PendRefused (k : OsState ι) (i : ι) (timeout : UInt32) : Prop where
  code : (osSemPendCall k i timeout).2.code =
    if k.intNesting > 0 then osErrPendIsr else osErrPendLocked
  state : (osSemPendCall k i timeout).1 = k

variable {k : OsState ι} {i : ι} {timeout : UInt32}

omit [DecidableEq ι] in
/-- `OS_Sched` does nothing while the scheduler is locked. -/
lemma osSched_of_locked (hlock : k.lockNesting > 0) : osSched k = k := by
  have hne : ¬k.lockNesting = 0 := by omega
  simp only [osSched]
  rw [if_neg hne, ite_self]

/-- `OSSemPend` is refused in an interrupt. -/
lemma osSemPendCall_isr (hint : k.intNesting > 0) (i : ι) (timeout : UInt32) :
    osSemPendCall k i timeout = (k, .pendIsr) := by
  simp only [osSemPendCall, osSemPend]
  rw [if_pos hint]

/-- **`OSSemPend` while the scheduler is locked**, on a semaphore without tokens: the caller, which
is still the current task, is entered in the wait list and is no longer ready, and the call reports
`OS_ERR_NONE`.

**Proof sketch.** The first critical section sets `OSTCBStatPend` to `OS_STAT_PEND_OK`. As
`OS_Sched` does nothing, the second one reads it unchanged. -/
theorem osSemPendCall_locked (hint : k.intNesting = 0) (hlock : k.lockNesting > 0)
    (hcnt : (k.event i).cnt = 0) :
    (osSemPendCall k i timeout).2 = .none ∧
      (osSemPendCall k i timeout).1.prioCur = k.prioCur ∧
      ((osSemPendCall k i timeout).1.event i).wait.Mem k.prioCur ∧
      ¬(osSemPendCall k i timeout).1.rdy.Mem k.prioCur := by
  obtain ⟨hne, -⟩ | ⟨-, hpend⟩ := osSemPend_cases k i timeout hint
  · exact absurd hcnt hne
  · -- the state in which `OS_Sched` is called
    generalize hwait : osEventTaskWait (k.setTcb k.prioCur
      ⟨(k.tcb k.prioCur).stat ||| osStatSem, osStatPendOk, timeout⟩) i = w at hpend
    have hcur : w.prioCur = k.prioCur := by rw [← hwait]; rfl
    have hstat : (w.tcb w.prioCur).statPend = osStatPendOk := by
      rw [hcur, ← hwait]
      simp only [osEventTaskWait, OsState.setWait, OsState.setTcb, Function.update_self]
    have hmem : (w.event i).wait.Mem k.prioCur := by
      rw [← hwait]
      simp only [osEventTaskWait, setWait_wait, if_true]
      exact (PrioBitmap.mem_insert _ _ _).mpr (Or.inl rfl)
    have hrdy : ¬w.rdy.Mem k.prioCur := by
      rw [← hwait]
      simp only [osEventTaskWait, PrioBitmap.mem_remove, not_and]
      exact fun hne => absurd rfl hne
    have hcall : osSemPendCall k i timeout = osSemPendResume w i := by
      have hlock' : w.lockNesting > 0 := by rw [← hwait]; exact hlock
      simp only [osSemPendCall, hpend]
      rw [osSched_of_locked hlock']
    have hresume : osSemPendResume w i = (w.setTcb w.prioCur
        { w.tcb w.prioCur with
          stat := (w.tcb w.prioCur).stat &&& ~~~(osStatSem ||| osStatPendAny)
          statPend := osStatPendOk }, .none) := by
      simp only [osSemPendResume]
      rw [if_pos hstat]
    rw [hcall, hresume]
    exact ⟨rfl, hcur, hmem, hrdy⟩

/-- **When a pend that cannot wait is refused.** In a state in which the caller cannot be switched
out, on a semaphore without tokens, `OSSemPend` reports its error and changes nothing exactly when
it is called from an interrupt. -/
theorem pendRefused_iff (hnest : k.intNesting > 0 ∨ k.lockNesting > 0)
    (hcnt : (k.event i).cnt = 0) : PendRefused k i timeout ↔ k.intNesting > 0 := by
  constructor
  · intro h
    by_contra hint
    have hlock := hnest.resolve_left hint
    have herr : (osSemPendCall k i timeout).2 = .none :=
      (osSemPendCall_locked (by omega) hlock hcnt).1
    have hcode := h.code
    rw [herr, if_neg hint] at hcode
    exact absurd hcode (by decide)
  · intro hint
    have hcall := osSemPendCall_isr hint i timeout
    exact ⟨by rw [hcall, if_pos hint]; rfl, by rw [hcall]⟩

end

/-- A pend in an interrupt is refused. -/
theorem pendRefused_interrupt :
    ∃ s, Transition.exec (semStep twoTasks) (semInit twoTasks fun _ => 0) [.intEnter] = some s ∧
      PendRefused s.kernel () 0 := by
  obtain ⟨s, hs, hval⟩ := Option.map_eq_some_iff.mp (show (Transition.exec (semStep twoTasks)
    (semInit twoTasks fun _ => 0) [.intEnter]).map
      (fun s => (s.kernel.intNesting, (s.kernel.event ()).cnt)) = some (1, 0) by decide)
  simp only [Prod.mk.injEq] at hval
  have hint : s.kernel.intNesting > 0 := by omega
  exact ⟨s, hs, (pendRefused_iff (Or.inl hint) hval.2).mpr hint⟩

/-- **A pend with the scheduler locked pretends.** A task locks the scheduler and pends on a
semaphore without tokens. -/
theorem not_pendRefused_locked :
    ∃ s, Transition.exec (semStep twoTasks) (semInit twoTasks fun _ => 0) [.lock] = some s ∧
      (osSemPendCall s.kernel () 0).2 = .none ∧ ¬PendRefused s.kernel () 0 := by
  obtain ⟨s, hs, hval⟩ := Option.map_eq_some_iff.mp (show (Transition.exec (semStep twoTasks)
    (semInit twoTasks fun _ => 0) [.lock]).map
      (fun s => (s.kernel.intNesting, s.kernel.lockNesting, (s.kernel.event ()).cnt)) =
        some (0, 1, 0) by decide)
  simp only [Prod.mk.injEq] at hval
  have hlock : s.kernel.lockNesting > 0 := by omega
  refine ⟨s, hs, (osSemPendCall_locked hval.1 hlock hval.2.2).1, fun h => ?_⟩
  have hint := (pendRefused_iff (Or.inr hlock) hval.2.2).mp h
  omega

end Kernel
