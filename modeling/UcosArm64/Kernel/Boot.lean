import UcosArm64.Kernel.TaskRuns

set_option relaxedAutoImplicit false
set_option autoImplicit false

/-!
# From `OSInit` to `OSStart`

What the tables are after `OSInit` and the calls that the program makes before `OSStart`, whatever
was in them before. A call of `OSTaskCreate` then runs through without a switch, and the tasks that
there are, and the error code it returns, can be read off the calls.

## Main definitions

* `Kernel.BootInv` — the tables before `OSStart`.
* `Kernel.bootTasks` — the priorities of the tasks, from the calls alone.
* `Kernel.createResult` — the error code of `OSTaskCreate`, from the tasks that there are.

## Main results

* `Kernel.bootInv_osInit`, `Kernel.BootInv.bootStep` — `OSInit` and the calls keep `BootInv`.
* `Kernel.BootInv.osStart`, `Kernel.sysInv_taskInit` — the invariants hold when multitasking
  starts.
* `Kernel.osBoot_spec` — what the calls before `OSStart` do.
-/

namespace Kernel

/-- **The tables before `OSStart`**, for the free list `f` and the list `l` of the tasks. -/
structure BootInv (cfg : OsCfg) (k : OsMem) (f l : List ℕ) : Prop where
  pool : Pool cfg k (fun _ => .sem .user) f l
  tcb : ∀ i ∈ l, (k.tcbTbl i).toOsTcb = ⟨osStatRdy, osStatPendOk, 0⟩
  rdyValid : k.rdy.Valid
  rdy : ∀ p, k.rdy.Mem p ↔ ∃ i ∈ l, (k.tcbTbl i).prio = p
  wait : ∀ e, (k.eventTbl e).wait = PrioBitmap.empty
  stopped : k.running = false
  intNesting : k.intNesting = 0
  lockNesting : k.lockNesting = 0
  time : k.time = 0

/-- The priorities of the tasks after one more call. -/
def createStep (cfg : OsCfg) (ps : List ℕ) : BootCall → List ℕ
  | .create prio =>
    if prio ≤ cfg.lowestPrio ∧ prio ∉ ps ∧ ps.length < cfg.nTcb then prio :: ps else ps
  | .semCreate _ => ps

/-- **The priorities of the tasks** after `OSInit` and some calls, the newest first. -/
def bootTasks (cfg : OsCfg) (calls : List BootCall) : List ℕ :=
  Transition.run (createStep cfg) [cfg.taskIdlePrio] calls

/-- The error code of `OSTaskCreate` where there are tasks of the priorities `ps`. -/
def createResult (cfg : OsCfg) (ps : List ℕ) (prio : ℕ) : ErrCode :=
  if prio > cfg.lowestPrio then .prioInvalid
  else if prio ∈ ps then .prioExist
  else if ps.length < cfg.nTcb then .none
  else .taskNoMoreTcb

section

variable {cfg : OsCfg} {k : OsMem} {f l : List ℕ} {p i : ℕ}

/-! ## `OSInit` -/

/-- The lists that `OSInit` makes: all TCBs are free, and there are no tasks.

**Proof sketch.** The loops of `OSInit` make each entry the successor of the one before; nothing
else has been written. -/
lemma bootInv_initLists (cfg : OsCfg) (k : OsMem) :
    BootInv cfg (((k.osInitMisc.osInitRdyList).osInitTcbList cfg).osInitEventList cfg)
      (List.range cfg.nTcb) [] := by
  have hnot : ∀ q : ℕ, (CallPc.sem (TaskPc.user : TaskPc ℕ)).held ≠ some q := by simp [CallPc.held]
  refine ⟨?_, by simp, PrioBitmap.valid_empty, fun p => ?_, fun e => ?_, rfl, rfl, rfl, rfl⟩
  · constructor
    · refine linked_range (fun i hi => ?_) ?_
      · simp only [OsMem.osInitEventList, OsMem.osInitTcbList, OsCfg.nTcb, osNSysTasks,
          Nat.add_sub_cancel]
        rw [Function.update_of_ne (Nat.ne_of_lt hi),
          foldl_update_range fun ix (b : TcbBlock) => { b with next := some (ix + 1) }, if_pos hi]
      · simp only [OsMem.osInitEventList, OsMem.osInitTcbList, OsCfg.nTcb, osNSysTasks,
          Nat.add_sub_cancel, Function.update_self]
    · rfl
    · trivial
    · intro i
      simp [CallPc.held]
    · simp
    · intro q i hq
      exact absurd hq (hnot i)
    · intro q r i hq
      exact absurd hq (hnot i)
    · simp
    · intro q p i hq
      exact absurd hq (hnot i)
    · intro p i hp
      cases hp
    · intro q p i hq
      exact absurd hq (hnot i)
    · intro p
      refine iff_of_false (by simp [OsMem.osInitEventList, OsMem.osInitTcbList]) ?_
      rintro ⟨q, hq⟩
      cases hq
    · intro q r p hq
      cases hq
    · intro p hp
      exact absurd rfl hp
    · intro q p hq
      cases hq
    · rfl
  · simp [OsMem.osInitEventList, OsMem.osInitTcbList, OsMem.osInitRdyList]
  · simp only [OsMem.osInitEventList, Function.update_apply]
    rw [foldl_update_range fun ix (b : EventBlock) =>
        { b with type := .unused, ptr := some (ix + 1) },
      foldl_update_range fun ix (b : EventBlock) =>
        { b with type := .unused, ptr := some (ix + 1) }]
    split_ifs <;> rfl

/-! ## The calls -/

/-- Before `OSStart` a TCB is free or on the list. -/
lemma BootInv.length (h : BootInv cfg k f l) : f.length + l.length = cfg.nTcb := by
  have hnodup : (f ++ l).Nodup := by
    refine List.nodup_append'.mpr ⟨h.pool.free.nodup, h.pool.list.nodup, ?_⟩
    exact fun i hf hl => h.pool.apart i hl hf
  have hperm : (f ++ l).Perm (List.range cfg.nTcb) := by
    refine (List.perm_ext_iff_of_nodup hnodup List.nodup_range).mpr fun i => ?_
    rw [List.mem_range, h.pool.inTbl i, List.mem_append]
    simp [CallPc.held]
  rw [← List.length_append, hperm.length_eq, List.length_range]

/-- The table has an entry exactly for the priorities of the tasks. -/
lemma BootInv.tbl_eq_null_iff (h : BootInv cfg k f l) (p : ℕ) :
    k.tcbPrioTbl p = .null ↔ p ∉ l.map fun i => (k.tcbTbl i).prio := by
  constructor
  · intro hp hmem
    obtain ⟨i, hi, rfl⟩ := List.mem_map.mp hmem
    rw [h.pool.listed i hi] at hp
    cases hp
  · intro hmem
    cases hp : k.tcbPrioTbl p with
    | null => rfl
    | reserved =>
      obtain ⟨q, hq⟩ := (h.pool.reserved p).mp hp
      cases hq
    | tcb i =>
      obtain ⟨hprio, hi | ⟨q, hq, -⟩⟩ := h.pool.valid p i hp
      · exact absurd (List.mem_map.mpr ⟨i, hi, hprio⟩) hmem
      · cases hq

/-- `OSTaskCreate` of a free priority, where there is a free TCB.

**Proof sketch.** The four critical sections, one after the other, by `Pool.reserve`, `Pool.take`,
`Pool.enter` and `Pool.link`; the new task is the only one that becomes ready. -/
lemma BootInv.create (h : BootInv cfg k f l) (hp : p ≤ cfg.lowestPrio)
    (hnull : k.tcbPrioTbl p = .null) (hfree : k.tcbFreeList = some i) :
    ∃ k' f', k.osTaskCreateAll cfg p = (k', .none) ∧ BootInv cfg k' f' (i :: l) ∧
      (i :: l).map (fun j => (k'.tcbTbl j).prio) = p :: l.map fun j => (k.tcbTbl j).prio := by
  set k₁ : OsMem := { k with tcbPrioTbl := Function.update k.tcbPrioTbl p .reserved } with hk₁
  set pc₁ : ℕ → CallPc := Function.update (fun _ => .sem .user) 0 (.createReserved p) with hpc₁
  have hpool₁ : Pool cfg k₁ pc₁ f l := h.pool.reserve (notMaking_sem _) hp hnull
  obtain ⟨k₂, hk₂⟩ : ∃ k₂, k₁.osTcbInit p = (k₂, some i) := osTcbInit_of_some hfree
  obtain ⟨f', hf', hpool₂⟩ := hpool₁.take (Function.update_self _ _ _) hk₂
  have hpool₃ := hpool₂.enter (Function.update_self _ _ _) (Nat.zero_le 63)
  have hpool₄ := hpool₃.link (Function.update_self _ _ _) (notMaking_sem .user)
  set k₃ := k₂.osTcbInitPrio p i with hk₃
  obtain ⟨-, hk₂'⟩ := osTcbInit_eq_some hk₂
  have hnotl : i ∉ l := fun hi => h.pool.apart i hi (hf' ▸ List.mem_cons_self)
  have hself : k₃.tcbTbl i = { k.tcbTbl i with
      prio := p, stat := osStatRdy, statPend := osStatPendOk, dly := 0 } := by
    rw [hk₃, hk₂']
    exact Function.update_self _ _ _
  obtain ⟨hrdy₃, hevent₃, hrun₃, hint₃, hlock₃, htime₃⟩ : k₃.rdy = k.rdy ∧
      k₃.eventTbl = k.eventTbl ∧ k₃.running = k.running ∧ k₃.intNesting = k.intNesting ∧
      k₃.lockNesting = k.lockNesting ∧ k₃.time = k.time := by
    rw [hk₃, hk₂']
    exact ⟨rfl, rfl, rfl, rfl, rfl, rfl⟩
  have hne : ∀ j ∈ l, k₃.tcbTbl j = k.tcbTbl j := by
    intro j hj
    rw [hk₃, hk₂']
    exact Function.update_of_ne (ne_of_mem_of_not_mem hj hnotl) _ _
  obtain ⟨htcb, hprio, -, -⟩ := osTcbInitLink_links (k := k₃) (i := i) (by
    rintro head hl rfl
    rw [hpool₃.list.head_eq] at hl
    exact hnotl (List.mem_of_mem_head? hl))
  obtain ⟨tcbTbl, hk₄⟩ := osTcbInitLink_rest k₃ i
  have hmap : (i :: l).map (fun j => ((k₃.osTcbInitLink i).tcbTbl j).prio) =
      p :: l.map fun j => (k.tcbTbl j).prio := by
    rw [List.map_cons, hprio, hself]
    congr 1
    refine List.map_congr_left fun j hj => ?_
    rw [hprio, hne j hj]
  have hall : k.osTaskCreateAll cfg p = (k₃.osTcbInitLink i, .none) := by
    have hreserve : k.osTaskCreate cfg p = (k₁, none) := by
      simp only [OsMem.osTaskCreate, if_neg (not_lt.mpr hp), h.intNesting, gt_iff_lt, lt_irrefl,
        if_false, hnull, if_true, hk₁]
    simp only [OsMem.osTaskCreateAll, hreserve, hk₂, hk₃]
  refine ⟨_, f', hall, ⟨?_, ?_, ?_, ?_, ?_, ?_, ?_, ?_, ?_⟩, hmap⟩
  · refine hpool₄.congr (SameLinks.refl _) fun q => ?_
    by_cases hq : q = 0
    · subst hq
      rw [Function.update_self]
      exact SameMaking.refl _
    · simp only [hpc₁, Function.update_of_ne hq]
      exact SameMaking.refl _
  · intro j hj
    rw [htcb]
    rcases List.mem_cons.mp hj with rfl | hj
    · rw [hself]
    · rw [hne j hj]
      exact h.tcb j hj
  · rw [hk₄]
    exact (hrdy₃ ▸ h.rdyValid).insert _
  · intro q
    have hmem : (∃ j ∈ i :: l, ((k₃.osTcbInitLink i).tcbTbl j).prio = q) ↔
        q = p ∨ ∃ j ∈ l, (k.tcbTbl j).prio = q := by
      rw [← List.mem_map, hmap, List.mem_cons, List.mem_map]
    have hrdy : (k₃.osTcbInitLink i).rdy = k.rdy.insert p := by
      rw [hk₄, ← hrdy₃, hself]
    rw [hmem, hrdy, PrioBitmap.mem_insert, h.rdy q]
  · rw [hk₄]
    exact hevent₃ ▸ h.wait
  · rw [hk₄]
    exact hrun₃.trans h.stopped
  · rw [hk₄]
    exact hint₃.trans h.intNesting
  · rw [hk₄]
    exact hlock₃.trans h.lockNesting
  · rw [hk₄]
    exact htime₃.trans h.time

/-- **`OSTaskCreate` before `OSStart`**: which tasks there are after it, and which error code it
returns.

**Proof sketch.** The checks of `OSTaskCreate`, in their order. A priority in the table is one of a
task, and a TCB is free exactly if there are fewer tasks than TCBs. -/
lemma BootInv.osTaskCreateAll (h : BootInv cfg k f l) {ps : List ℕ}
    (hps : l.map (fun i => (k.tcbTbl i).prio) = ps) (p : ℕ) :
    ∃ f' l', BootInv cfg (k.osTaskCreateAll cfg p).1 f' l' ∧
      l'.map (fun i => ((k.osTaskCreateAll cfg p).1.tcbTbl i).prio) =
        createStep cfg ps (.create p) ∧
      (k.osTaskCreateAll cfg p).2 = createResult cfg ps p := by
  have hlen : l.length = ps.length := by rw [← hps, List.length_map]
  have hint : ¬ k.intNesting > 0 := by
    rw [h.intNesting]
    exact lt_irrefl 0
  by_cases hp : p > cfg.lowestPrio
  · have hk : k.osTaskCreateAll cfg p = (k, .prioInvalid) := by
      simp only [OsMem.osTaskCreateAll, OsMem.osTaskCreate, if_pos hp]
    rw [hk, createResult, if_pos hp, createStep, if_neg fun hc => not_le.mpr hp hc.1]
    exact ⟨f, l, h, hps, rfl⟩
  by_cases hmem : p ∈ ps
  · have hnull : k.tcbPrioTbl p ≠ .null := fun hn =>
      (h.tbl_eq_null_iff p).mp hn (hps ▸ hmem)
    have hk : k.osTaskCreateAll cfg p = (k, .prioExist) := by
      simp only [OsMem.osTaskCreateAll, OsMem.osTaskCreate, if_neg hp, if_neg hint, if_neg hnull]
    rw [hk, createResult, if_neg hp, if_pos hmem, createStep, if_neg fun hc => hc.2.1 hmem]
    exact ⟨f, l, h, hps, rfl⟩
  have hnull : k.tcbPrioTbl p = .null := (h.tbl_eq_null_iff p).mpr (hps ▸ hmem)
  rw [createResult, if_neg hp, if_neg hmem, createStep]
  cases hfree : k.tcbFreeList with
  | some i =>
    obtain ⟨k', f', hk, hboot, hmap⟩ := h.create (not_lt.mp hp) hnull hfree
    have hlt : ps.length < cfg.nTcb := by
      have hb := hboot.length
      rw [List.length_cons] at hb
      omega
    rw [hk, if_pos ⟨not_lt.mp hp, hmem, hlt⟩, if_pos hlt]
    exact ⟨f', i :: l, hboot, hps ▸ hmap, rfl⟩
  | none =>
    have hfull : ¬ ps.length < cfg.nTcb := by
      have hf := h.pool.free.head_eq
      rw [hfree, eq_comm, List.head?_eq_none_iff] at hf
      have hb := h.length
      rw [hf, List.length_nil] at hb
      omega
    have hk : k.osTaskCreateAll cfg p = (k, .taskNoMoreTcb) := by
      have hreserve : k.osTaskCreate cfg p =
          ({ k with tcbPrioTbl := Function.update k.tcbPrioTbl p .reserved }, none) := by
        simp only [OsMem.osTaskCreate, if_neg hp, if_neg hint, if_pos hnull]
      simp only [OsMem.osTaskCreateAll, hreserve, OsMem.osTcbInit, hfree, OsMem.osTaskCreateFail,
        Function.update_idem]
      rw [← hnull, Function.update_eq_self, ← hfree]
    rw [hk, if_neg fun hc => hfull hc.2.2, if_neg hfull]
    exact ⟨f, l, h, hps, rfl⟩

/-- `OSSemCreate` leaves the tasks alone. -/
lemma BootInv.osSemCreate (h : BootInv cfg k f l) (cnt : UInt16) :
    BootInv cfg (k.osSemCreate cnt).1 f l ∧ (k.osSemCreate cnt).1.tcbTbl = k.tcbTbl := by
  obtain ⟨ht, hrdy, htbl⟩ := osSemCreate_touches k cnt 0
  refine ⟨⟨h.pool.congr ht.toSameLinks fun _ => SameMaking.refl _, ?_, ?_, ?_, ?_, ?_, ?_, ?_, ?_⟩,
    htbl⟩
  · rw [htbl]
    exact h.tcb
  · rw [hrdy]
    exact h.rdyValid
  · rw [hrdy, htbl]
    exact h.rdy
  · intro e
    unfold OsMem.osSemCreate
    split_ifs
    · exact h.wait e
    · split
      · exact h.wait e
      · rename_i pevent _
        by_cases he : e = pevent
        · subst he
          rw [setEvent_self]
        · rw [setEvent_of_ne _ _ he]
          exact h.wait e
  · exact ht.running.trans h.stopped
  · exact ht.intNesting.trans h.intNesting
  · exact ht.lockNesting.trans h.lockNesting
  · refine Eq.trans ?_ h.time
    unfold OsMem.osSemCreate
    split_ifs
    · rfl
    · split <;> rfl

/-- **A call before `OSStart` keeps the tables.** -/
theorem BootInv.bootStep (h : BootInv cfg k f l) {ps : List ℕ}
    (hps : l.map (fun i => (k.tcbTbl i).prio) = ps) (call : BootCall) :
    ∃ f' l', BootInv cfg (Kernel.bootStep cfg k call) f' l' ∧
      l'.map (fun i => ((Kernel.bootStep cfg k call).tcbTbl i).prio) = createStep cfg ps call := by
  cases call with
  | create prio =>
    obtain ⟨f', l', hboot, hmap, -⟩ := h.osTaskCreateAll hps prio
    exact ⟨f', l', hboot, hmap⟩
  | semCreate cnt =>
    obtain ⟨hboot, htbl⟩ := h.osSemCreate cnt
    refine ⟨f, l, hboot, ?_⟩
    show l.map (fun i => ((k.osSemCreate cnt).1.tcbTbl i).prio) = ps
    rw [htbl]
    exact hps

/-- **After `OSInit`** there is the idle task. -/
theorem bootInv_osInit (cfg : OsCfg) (k : OsMem) : ∃ f l, BootInv cfg (k.osInit cfg) f l ∧
    l.map (fun i => ((k.osInit cfg).tcbTbl i).prio) = [cfg.taskIdlePrio] := by
  obtain ⟨f, l, hboot, hmap, -⟩ := (bootInv_initLists cfg k).osTaskCreateAll rfl cfg.taskIdlePrio
  refine ⟨f, l, hboot, ?_⟩
  refine hmap.trans ?_
  rw [createStep, List.map_nil, if_pos]
  exact ⟨Nat.le_refl _, List.not_mem_nil, Nat.succ_pos _⟩

/-- The tables after `OSInit` and some calls. -/
lemma bootInv_run (cfg : OsCfg) (k : OsMem) (calls : List BootCall) :
    ∃ f l, BootInv cfg (Transition.run (bootStep cfg) (k.osInit cfg) calls) f l ∧
      l.map (fun i => ((Transition.run (bootStep cfg) (k.osInit cfg) calls).tcbTbl i).prio) =
        bootTasks cfg calls := by
  refine Transition.run_history (f := bootStep cfg) (R := fun calls k' => ∃ f l,
    BootInv cfg k' f l ∧
    l.map (fun i => (k'.tcbTbl i).prio) = bootTasks cfg calls) (bootInv_osInit cfg k) ?_ calls
  rintro calls call ⟨f, l, hboot, hmap⟩
  obtain ⟨f', l', hboot', hmap'⟩ := hboot.bootStep hmap call
  refine ⟨f', l', hboot', hmap'.trans ?_⟩
  rw [bootTasks, bootTasks, Transition.run_append]
  rfl

/-- The idle task was the first one. -/
lemma bootTasks_idle (cfg : OsCfg) (calls : List BootCall) :
    ∃ ps, bootTasks cfg calls = ps ++ [cfg.taskIdlePrio] := by
  refine Transition.run_invariant (I := fun ps => ∃ ps', ps = ps' ++ [cfg.taskIdlePrio]) ?_
    ⟨[], rfl⟩ calls
  rintro _ call ⟨ps, rfl⟩
  cases call with
  | create prio =>
    rw [createStep]
    split_ifs
    · exact ⟨prio :: ps, rfl⟩
    · exact ⟨ps, rfl⟩
  | semCreate cnt => exact ⟨ps, rfl⟩

/-- The highest task is the first one to run. -/
lemma BootInv.osSchedNew (h : BootInv cfg k f l) (hi : i ∈ l) :
    k.rdy.Mem k.osSchedNew ∧ ∀ q, k.rdy.Mem q → k.osSchedNew ≤ q := by
  refine osSchedNew_spec h.rdyValid (fun q hq => ?_) ((h.rdy _).mpr ⟨i, hi, rfl⟩)
  obtain ⟨j, hj, rfl⟩ := (h.rdy q).mp hq
  have hle := h.pool.inRange _ (by rw [h.pool.listed j hj]; simp)
  have := cfg.lowestPrio_le
  omega

/-- **The invariants hold when multitasking starts.**

**Proof sketch.** The ready list has exactly the tasks, so its first member is one, with its TCB in
the table; all places are outside of the services. -/
theorem BootInv.osStart (h : BootInv cfg k f l) (hends : EndsInIdle cfg k l) {s : TaskState}
    (hs : s = ⟨k.osStart, fun _ => .sem .user, []⟩) : SysInv cfg s f l ∧ Consistent s l := by
  obtain ⟨l', j, hl, hj⟩ := hends
  have hjl : j ∈ l := by
    rw [hl]
    simp
  have hk : k.osStart = { k with
      prioCur := k.osSchedNew, tcbCur := k.tcbPrioTbl k.osSchedNew, running := true } := by
    simp only [OsMem.osStart, h.stopped, Bool.false_eq_true, if_false]
  obtain ⟨hmem, hle⟩ := h.osSchedNew hjl
  have hlive : ∀ p, k.rdy.Mem p → ∃ i, k.tcbPrioTbl p = .tcb i := by
    intro p hp
    obtain ⟨i, hi, rfl⟩ := (h.rdy p).mp hp
    exact ⟨i, h.pool.listed i hi⟩
  have hwait : ∀ e p, ¬ (k.eventTbl e).wait.Mem p := by
    intro e p
    rw [h.wait e]
    exact PrioBitmap.not_mem_empty p
  rw [hs, hk]
  constructor
  · refine ⟨h.pool.congr ⟨rfl, rfl, rfl, rfl, fun _ => rfl, fun _ => rfl, fun _ => rfl⟩ fun _ =>
      SameMaking.refl _, ⟨l', j, hl, hj⟩, ?_, by simp⟩
    constructor
    · rfl
    · exact h.rdyValid
    · exact hlive
    · exact (h.rdy _).mpr ⟨j, hjl, hj⟩
    · obtain ⟨i, hi⟩ := hlive _ hmem
      exact ⟨i, hi, hi⟩
    · rfl
    · exact fun _ _ _ => ⟨hmem, hle⟩
    · intro e
      show (k.eventTbl e).wait.Valid
      rw [h.wait e]
      exact PrioBitmap.valid_empty
    · intro e p hp
      exact absurd hp (hwait e p)
  · refine ⟨⟨?_, ?_, ?_, ?_⟩, ?_, ?_⟩
    · exact fun p hp => (h.rdy p).mp hp
    · exact fun e p hp => absurd hp (hwait e p)
    · exact (h.rdy _).mp hmem
    · intro q i hq
      cases hq
    · intro i hi
      refine agrees_of (h.tcb i hi) (Or.inl rfl) ?_
      exact iff_of_true ((h.rdy _).mpr ⟨i, hi, rfl⟩) ⟨rfl, rfl⟩
    · exact fun _ => h.lockNesting

/-- The invariants hold in the first state of the machine. -/
lemma sysInv_taskInit (cfg : OsCfg) (k : OsMem) (calls : List BootCall) :
    ∃ f l, SysInv cfg (taskInit cfg k calls) f l ∧ Consistent (taskInit cfg k calls) l := by
  obtain ⟨f, l, hboot, hmap⟩ := bootInv_run cfg k calls
  obtain ⟨ps, hps⟩ := bootTasks_idle cfg calls
  rw [hps] at hmap
  obtain ⟨l', l'', rfl, -, hidle⟩ := List.map_eq_append_iff.mp hmap
  obtain ⟨j, rfl, hj⟩ := List.map_eq_singleton_iff.mp hidle
  exact ⟨f, _, hboot.osStart ⟨l', j, rfl, hj⟩ rfl⟩

/-- **The calls before `OSStart`.** Whatever the tables held before `OSInit`, and whatever calls
are made after it: `OSTaskCreate` returns what the tasks created so far say; `OSTCBList` leads
through their TCBs, the newest first, and `OSTaskCtr` counts them; they are ready, and no others;
and `OSStart` starts the highest of them.

**Proof sketch.** `bootInv_run` gives the tables after the calls; each part is read off them. -/
theorem osBoot_spec (cfg : OsCfg) (k : OsMem) (calls : List BootCall) (prio : ℕ) :
    let k' := Transition.run (bootStep cfg) (k.osInit cfg) calls
    let ps := bootTasks cfg calls
    (k'.osTaskCreateAll cfg prio).2 = createResult cfg ps prio ∧
      (∃ l, Linked (fun i => (k'.tcbTbl i).next) k'.tcbList l ∧
        BackLinked (fun i => (k'.tcbTbl i).prev) none l ∧
        l.map (fun i => (k'.tcbTbl i).prio) = ps ∧
        (∀ i ∈ l, k'.tcbPrioTbl (k'.tcbTbl i).prio = .tcb i)) ∧
      k'.taskCtr.toNat = ps.length ∧ (∀ p, k'.rdy.Mem p ↔ p ∈ ps) ∧
      (osBoot cfg k calls).prioCur ∈ ps ∧ (∀ p ∈ ps, (osBoot cfg k calls).prioCur ≤ p) ∧
      (osBoot cfg k calls).tcbCur = k'.tcbPrioTbl (osBoot cfg k calls).prioCur := by
  intro k' ps
  obtain ⟨f, l, hboot, hmap⟩ := bootInv_run cfg k calls
  obtain ⟨-, -, -, -, hresult⟩ := hboot.osTaskCreateAll hmap prio
  have hrdy : ∀ p, k'.rdy.Mem p ↔ p ∈ ps := by
    intro p
    rw [hboot.rdy p, show ps = _ from hmap.symm, List.mem_map]
  obtain ⟨ps', hps⟩ := bootTasks_idle cfg calls
  obtain ⟨i, hi, -⟩ := (hboot.rdy cfg.taskIdlePrio).mp ((hrdy _).mpr (by
    rw [show ps = _ from hps]
    simp))
  obtain ⟨hmem, hle⟩ := hboot.osSchedNew hi
  have hstart : osBoot cfg k calls = { k' with
      prioCur := k'.osSchedNew, tcbCur := k'.tcbPrioTbl k'.osSchedNew, running := true } := by
    show k'.osStart = _
    rw [OsMem.osStart, if_neg (by rw [hboot.stopped]; exact Bool.false_ne_true)]
  refine ⟨hresult, ⟨l, hboot.pool.list, hboot.pool.back, hmap, hboot.pool.listed⟩, ?_,
    hrdy, ?_, ?_, ?_⟩
  · rw [show ps = _ from hmap.symm, List.length_map]
    exact hboot.pool.ctr
  · rw [hstart]
    exact (hrdy _).mp hmem
  · intro p hp
    rw [hstart]
    exact hle p ((hrdy p).mpr hp)
  · rw [hstart]

end

end Kernel
