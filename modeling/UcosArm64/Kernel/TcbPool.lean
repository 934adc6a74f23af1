import UcosArm64.Foundations.LinkedList
import UcosArm64.Kernel.TaskSystem

set_option relaxedAutoImplicit false
set_option autoImplicit false

/-!
# The TCBs and who has them

Every TCB is on the free list, or on the list of the tasks, or a task in `OSTaskCreate` has taken it
and not yet put it into the list; never two of these. `OSTCBPrioTbl` agrees: an entry points to the
TCB of that priority, or is reserved by the one task that is creating it. The critical sections of
`OSTaskCreate` keep this, whatever the others do between them.

## Main definitions

* `Kernel.Pool` — the invariant, for the free list `f` and the list `l` of the tasks.
* `Kernel.SameLinks` — two states agree on the links, the priorities and the table.
* `Kernel.EndsInIdle` — the last TCB of the list is that of the idle task.

## Main results

* `Kernel.Pool.congr` — the invariant depends on these only.
* `Kernel.Pool.reserve`, `Kernel.Pool.take`, `Kernel.Pool.enter`, `Kernel.Pool.link`,
  `Kernel.Pool.fail` — the critical sections of `OSTaskCreate`.
-/

namespace Kernel

/-- **The invariant of the TCBs**, for the free list `f` and the list `l` of the tasks. -/
structure Pool (cfg : OsCfg) (k : OsMem) (pc : ℕ → CallPc) (f l : List ℕ) : Prop where
  free : Linked (fun i => (k.tcbTbl i).next) k.tcbFreeList f
  list : Linked (fun i => (k.tcbTbl i).next) k.tcbList l
  back : BackLinked (fun i => (k.tcbTbl i).prev) none l
  inTbl : ∀ i, i < cfg.nTcb ↔ i ∈ f ∨ i ∈ l ∨ ∃ q, (pc q).held = some i
  apart : ∀ i ∈ l, i ∉ f
  heldApart : ∀ q i, (pc q).held = some i → i ∉ f ∧ i ∉ l
  heldBy : ∀ q r i, (pc q).held = some i → (pc r).held = some i → q = r
  listed : ∀ i ∈ l, k.tcbPrioTbl (k.tcbTbl i).prio = .tcb i
  entered : ∀ q p i, (pc q).held = some i → (pc q).entering = some p → k.tcbPrioTbl p = .tcb i
  valid : ∀ p i, k.tcbPrioTbl p = .tcb i → (k.tcbTbl i).prio = p ∧
    (i ∈ l ∨ ∃ q, (pc q).held = some i ∧ (pc q).entering = some p)
  filled : ∀ q p i, (pc q).held = some i → (pc q).reserves = some p → (k.tcbTbl i).prio = p
  reserved : ∀ p, k.tcbPrioTbl p = .reserved ↔ ∃ q, (pc q).reserves = some p
  reservedBy : ∀ q r p, (pc q).reserves = some p → (pc r).reserves = some p → q = r
  inRange : ∀ p, k.tcbPrioTbl p ≠ .null → p ≤ cfg.lowestPrio
  owner : ∀ q p, (pc q).entering = some p → q ≤ 63
  ctr : k.taskCtr.toNat = l.length

/-- The last TCB of the list is that of the idle task. -/
def EndsInIdle (cfg : OsCfg) (k : OsMem) (l : List ℕ) : Prop :=
  ∃ l' j, l = l' ++ [j] ∧ (k.tcbTbl j).prio = cfg.taskIdlePrio

/-- Two states agree on the links of the lists, the priorities and the table. -/
structure SameLinks (k k' : OsMem) : Prop where
  freeList : k'.tcbFreeList = k.tcbFreeList
  list : k'.tcbList = k.tcbList
  prioTbl : k'.tcbPrioTbl = k.tcbPrioTbl
  ctr : k'.taskCtr = k.taskCtr
  prio : ∀ i, (k'.tcbTbl i).prio = (k.tcbTbl i).prio
  next : ∀ i, (k'.tcbTbl i).next = (k.tcbTbl i).next
  prev : ∀ i, (k'.tcbTbl i).prev = (k.tcbTbl i).prev

/-- Two places agree on what the task has of a task that it is creating. -/
structure SameMaking (c c' : CallPc) : Prop where
  held : c'.held = c.held
  reserves : c'.reserves = c.reserves
  entering : c'.entering = c.entering

/-- The task is not creating a task. -/
def CallPc.NotMaking (c : CallPc) : Prop := c.held = none ∧ c.reserves = none ∧ c.entering = none

/-- Two places outside `OSTaskCreate` make the same, namely nothing. -/
lemma CallPc.NotMaking.same {c c' : CallPc} (h : c.NotMaking) (h' : c'.NotMaking) :
    SameMaking c c' :=
  ⟨h'.1.trans h.1.symm, h'.2.1.trans h.2.1.symm, h'.2.2.trans h.2.2.symm⟩

/-- A task in a semaphore service makes no task. -/
@[simp] lemma notMaking_sem (pc : TaskPc ℕ) : (CallPc.sem pc).NotMaking := ⟨rfl, rfl, rfl⟩

/-- A task about to call `OS_Sched` makes no task. -/
@[simp] lemma notMaking_sched : CallPc.sched.NotMaking := ⟨rfl, rfl, rfl⟩

/-- A task in `OSSemCreate` makes no task. -/
@[simp] lemma notMaking_semCreating (e : ℕ) (cnt : UInt16) : (CallPc.semCreating e cnt).NotMaking :=
  ⟨rfl, rfl, rfl⟩

/-- A place makes what it makes. -/
lemma SameMaking.refl (c : CallPc) : SameMaking c c := ⟨rfl, rfl, rfl⟩

/-! ## The links -/

/-- The links are the same. -/
lemma SameLinks.refl (k : OsMem) : SameLinks k k :=
  ⟨rfl, rfl, rfl, rfl, fun _ => rfl, fun _ => rfl, fun _ => rfl⟩

/-- The links stay along two steps. -/
lemma SameLinks.trans {k₁ k₂ k₃ : OsMem} (h : SameLinks k₁ k₂) (h' : SameLinks k₂ k₃) :
    SameLinks k₁ k₃ where
  freeList := h'.freeList.trans h.freeList
  list := h'.list.trans h.list
  prioTbl := h'.prioTbl.trans h.prioTbl
  ctr := h'.ctr.trans h.ctr
  prio i := (h'.prio i).trans (h.prio i)
  next i := (h'.next i).trans (h.next i)
  prev i := (h'.prev i).trans (h.prev i)

/-- The status and the delay of a TCB are no links. -/
lemma sameLinks_setTcb (k : OsMem) (ptcb : TcbPtr) (t : OsTcb) : SameLinks k (k.setTcb ptcb t) := by
  cases ptcb with
  | tcb j =>
    refine ⟨rfl, rfl, rfl, rfl, ?_, ?_, ?_⟩
    all_goals
      intro i
      by_cases h : i = j
      · subst h
        simp [OsMem.setTcb, OsMem.setBlock, OsMem.block]
      · simp [OsMem.setTcb, OsMem.setBlock, h]
  | null => exact SameLinks.refl k
  | reserved => exact SameLinks.refl k

/-- The invariant depends on the links and on who is creating what. -/
lemma Pool.congr {cfg : OsCfg} {k k' : OsMem} {pc pc' : ℕ → CallPc} {f l : List ℕ}
    (h : Pool cfg k pc f l) (hk : SameLinks k k') (hpc : ∀ q, SameMaking (pc q) (pc' q)) :
    Pool cfg k' pc' f l := by
  have hheld : ∀ q, (pc' q).held = (pc q).held := fun q => (hpc q).held
  have hres : ∀ q, (pc' q).reserves = (pc q).reserves := fun q => (hpc q).reserves
  have hent : ∀ q, (pc' q).entering = (pc q).entering := fun q => (hpc q).entering
  constructor
  · simpa only [hk.freeList, hk.next] using h.free
  · simpa only [hk.list, hk.next] using h.list
  · simpa only [hk.prev] using h.back
  · simpa only [hheld] using h.inTbl
  · exact h.apart
  · simpa only [hheld] using h.heldApart
  · simpa only [hheld] using h.heldBy
  · simpa only [hk.prioTbl, hk.prio] using h.listed
  · simpa only [hheld, hent, hk.prioTbl] using h.entered
  · simpa only [hheld, hent, hk.prioTbl, hk.prio] using h.valid
  · simpa only [hheld, hres, hk.prio] using h.filled
  · simpa only [hres, hk.prioTbl] using h.reserved
  · simpa only [hres] using h.reservedBy
  · simpa only [hk.prioTbl] using h.inRange
  · simpa only [hent] using h.owner
  · rw [hk.ctr]
    exact h.ctr

/-- A task that is not creating a task goes to another such place. -/
lemma sameMaking_update {pc : ℕ → CallPc} {q : ℕ} {c : CallPc} (hq : (pc q).NotMaking)
    (hc : c.NotMaking) (r : ℕ) : SameMaking (pc r) (Function.update pc q c r) := by
  by_cases hr : r = q
  · subst hr
    rw [Function.update_self]
    exact hq.same hc
  · rw [Function.update_of_ne hr]
    exact SameMaking.refl _

/-- Whether the list ends in the idle task depends on the links only. -/
lemma EndsInIdle.congr {cfg : OsCfg} {k k' : OsMem} {l : List ℕ} (h : EndsInIdle cfg k l)
    (hk : SameLinks k k') : EndsInIdle cfg k' l := by
  obtain ⟨l', j, hl, hj⟩ := h
  exact ⟨l', j, hl, (hk.prio j).trans hj⟩

/-! ## The critical sections of `OSTaskCreate` -/

section

variable {cfg : OsCfg} {k : OsMem} {pc : ℕ → CallPc} {f l : List ℕ} {q p i : ℕ}

/-- There are not more distinct entries than a table has. -/
lemma length_le_of_mem_lt {l : List ℕ} {n : ℕ} (hnodup : l.Nodup) (hlt : ∀ j ∈ l, j < n) :
    l.length ≤ n := by
  have hsub : l ⊆ List.range n := fun j hj => List.mem_range.mpr (hlt j hj)
  have hle := (hnodup.subperm hsub).length_le
  rwa [List.length_range] at hle

/-- What a task has, after a task has moved to another place. -/
lemma held_update (c : CallPc) (r : ℕ) :
    (Function.update pc q c r).held = if r = q then c.held else (pc r).held := by
  rw [Function.update_apply]
  split_ifs <;> rfl

/-- The reserved priorities after a task has moved. -/
lemma reserves_update (c : CallPc) (r : ℕ) :
    (Function.update pc q c r).reserves = if r = q then c.reserves else (pc r).reserves := by
  rw [Function.update_apply]
  split_ifs <;> rfl

/-- The tasks being entered after a task has moved. -/
lemma entering_update (c : CallPc) (r : ℕ) :
    (Function.update pc q c r).entering = if r = q then c.entering else (pc r).entering := by
  rw [Function.update_apply]
  split_ifs <;> rfl

/-- A free priority is reserved.

**Proof sketch.** The free priority is in no TCB, and reserving it changes no list. -/
lemma Pool.reserve (h : Pool cfg k pc f l) (hq : (pc q).NotMaking) (hp : p ≤ cfg.lowestPrio)
    (hnull : k.tcbPrioTbl p = .null) :
    Pool cfg { k with tcbPrioTbl := Function.update k.tcbPrioTbl p .reserved }
      (Function.update pc q (.createReserved p)) f l := by
  obtain ⟨hheld, hres, hent⟩ := hq
  have hno : ∀ r, (pc r).reserves ≠ some p := fun r hr => by
    have := (h.reserved p).mpr ⟨r, hr⟩
    rw [hnull] at this
    cases this
  have h₁ : ∀ r, (Function.update pc q (.createReserved p) r).held = (pc r).held := by
    intro r
    rw [held_update]
    split_ifs with hr
    · rw [hr, hheld]
      rfl
    · rfl
  have h₂ : ∀ r, (Function.update pc q (.createReserved p) r).entering = (pc r).entering := by
    intro r
    rw [entering_update]
    split_ifs with hr
    · rw [hr, hent]
      rfl
    · rfl
  have h₃ : ∀ p' i, Function.update k.tcbPrioTbl p .reserved p' = .tcb i ↔
      k.tcbPrioTbl p' = .tcb i := by
    intro p' i
    rw [Function.update_apply]
    split_ifs with hp'
    · simp [hp', hnull]
    · rfl
  constructor
  · exact h.free
  · exact h.list
  · exact h.back
  · simpa only [h₁] using h.inTbl
  · exact h.apart
  · simpa only [h₁] using h.heldApart
  · simpa only [h₁] using h.heldBy
  · simpa only [h₃] using h.listed
  · simpa only [h₁, h₂, h₃] using h.entered
  · simpa only [h₁, h₂, h₃] using h.valid
  · intro r p' i hr
    rw [h₁] at hr
    grind [h.filled, reserves_update]
  · intro p'
    have := h.reserved p'
    grind [reserves_update, CallPc.reserves, Function.update_apply]
  · have := h.reservedBy
    grind [reserves_update, CallPc.reserves]
  · have := h.inRange
    grind [Function.update_apply]
  · simpa only [h₂] using h.owner
  · exact h.ctr

/-- What `OS_TCBInit` does to the TCBs when there is a free one. -/
lemma osTcbInit_eq_some {k' : OsMem} (hk : k.osTcbInit p = (k', some i)) :
    k.tcbFreeList = some i ∧ k' = { k with
      tcbFreeList := (k.tcbTbl i).next
      tcbTbl := Function.update k.tcbTbl i { k.tcbTbl i with
        prio := p, stat := osStatRdy, statPend := osStatPendOk, dly := 0 } } := by
  unfold OsMem.osTcbInit at hk
  split at hk
  · obtain ⟨rfl, hi⟩ := Prod.mk.inj hk
    obtain rfl := Option.some.inj hi
    exact ⟨‹_›, rfl⟩
  · exact absurd (Prod.mk.inj hk).2 (by simp)

/-- `OS_TCBInit` fails only if no TCB is free, and does nothing then. -/
lemma osTcbInit_eq_none {k' : OsMem} (hk : k.osTcbInit p = (k', none)) :
    k.tcbFreeList = none ∧ k' = k := by
  unfold OsMem.osTcbInit at hk
  split at hk
  · exact absurd (Prod.mk.inj hk).2 (by simp)
  · exact ⟨‹_›, (Prod.mk.inj hk).1.symm⟩

/-- `OS_TCBInit` takes the first free TCB. -/
lemma osTcbInit_of_some (hfree : k.tcbFreeList = some i) : ∃ k', k.osTcbInit p = (k', some i) := by
  unfold OsMem.osTcbInit
  rw [hfree]
  exact ⟨_, rfl⟩

/-- `OS_TCBInit` takes a TCB off the free list and fills it.

**Proof sketch.** The first free TCB comes into the hands of the task; it was in no other list, and
so the links of the others stay. -/
lemma Pool.take (h : Pool cfg k pc f l) (hq : pc q = .createReserved p) {k' : OsMem}
    (hk : k.osTcbInit p = (k', some i)) :
    ∃ f', f = i :: f' ∧ Pool cfg k' (Function.update pc q (.createTaken p i)) f' l := by
  obtain ⟨hfree, rfl⟩ := osTcbInit_eq_some hk
  have hf := h.free
  rw [hfree] at hf
  obtain ⟨f', rfl, hf'⟩ := hf.pop
  have hheld : (pc q).held = none := by
    rw [hq]
    rfl
  have hres : (pc q).reserves = some p := by
    rw [hq]
    rfl
  have hnot : i ∉ f' := (List.nodup_cons.mp h.free.nodup).1
  have hnotl : i ∉ l := fun hi => h.apart i hi List.mem_cons_self
  have hne : ∀ j, j ≠ i → Function.update k.tcbTbl i { k.tcbTbl i with
      prio := p, stat := osStatRdy, statPend := osStatPendOk, dly := 0 } j = k.tcbTbl j :=
    fun j hj => Function.update_of_ne hj _ _
  have h₂ : ∀ r, (Function.update pc q (.createTaken p i) r).entering = (pc r).entering := by
    intro r
    rw [entering_update]
    split_ifs with hr
    · rw [hr, hq]
      rfl
    · rfl
  have h₃ : ∀ r, (Function.update pc q (.createTaken p i) r).reserves = (pc r).reserves := by
    intro r
    rw [reserves_update]
    split_ifs with hr
    · rw [hr, hq]
      rfl
    · rfl
  have h₄ : ∀ p', k.tcbPrioTbl p' ≠ .tcb i := by
    intro p' hp'
    have := h.valid p' i hp'
    have := h.heldApart
    grind
  refine ⟨f', rfl, ?_⟩
  constructor
  · exact hf'.congr fun j hj => by simp only [hne j (ne_of_mem_of_not_mem hj hnot)]
  · exact h.list.congr fun j hj => by simp only [hne j (ne_of_mem_of_not_mem hj hnotl)]
  · exact h.back.congr fun j hj => by simp only [hne j (ne_of_mem_of_not_mem hj hnotl)]
  · intro j
    have := h.inTbl j
    grind [held_update, CallPc.held]
  · intro j hj hjf
    exact h.apart j hj (List.mem_cons_of_mem i hjf)
  · have := h.heldApart
    grind [held_update, CallPc.held]
  · have := h.heldBy
    have := h.heldApart
    grind [held_update, CallPc.held]
  · intro j hj
    simp only [hne j (ne_of_mem_of_not_mem hj hnotl)]
    exact h.listed j hj
  · have := h.entered
    grind [held_update, entering_update, CallPc.held, CallPc.entering]
  · intro p' j hp'
    have hj : j ≠ i := fun hji => h₄ p' (hji ▸ hp')
    obtain ⟨hprio, hwhere⟩ := h.valid p' j hp'
    refine ⟨?_, ?_⟩
    · simp only [hne j hj]
      exact hprio
    · grind [held_update, entering_update]
  · intro r p' j hr hp'
    rw [h₃] at hp'
    rw [held_update] at hr
    split_ifs at hr with hrq
    · obtain rfl : j = i := (Option.some.inj hr).symm
      rw [hrq, hres] at hp'
      simp only [Function.update_self]
      exact Option.some.inj hp'
    · have hj : j ≠ i := fun hji => (h.heldApart r j hr).1 (hji ▸ List.mem_cons_self)
      simp only [hne j hj]
      exact h.filled r p' j hr hp'
  · simpa only [h₃] using h.reserved
  · simpa only [h₃] using h.reservedBy
  · exact h.inRange
  · simpa only [h₂] using h.owner
  · exact h.ctr

/-- There is no TCB to take. -/
lemma Pool.takeNone (h : Pool cfg k pc f l) (hq : pc q = .createReserved p) :
    Pool cfg k (Function.update pc q (.createFailed p)) f l := by
  have h₁ : ∀ r, (Function.update pc q (.createFailed p) r).held = (pc r).held := by
    intro r
    rw [held_update]
    split_ifs with hr
    · rw [hr, hq]
      rfl
    · rfl
  have h₂ : ∀ r, (Function.update pc q (.createFailed p) r).entering = (pc r).entering := by
    intro r
    rw [entering_update]
    split_ifs with hr
    · rw [hr, hq]
      rfl
    · rfl
  have h₃ : ∀ r, (Function.update pc q (.createFailed p) r).reserves = (pc r).reserves := by
    intro r
    rw [reserves_update]
    split_ifs with hr
    · rw [hr, hq]
      rfl
    · rfl
  exact h.congr (SameLinks.refl k) fun r => ⟨h₁ r, h₃ r, h₂ r⟩

/-- The priority is given up when there is no TCB.

**Proof sketch.** The priority was reserved by this task and leads to no TCB, so nothing else
depends on it. -/
lemma Pool.fail (h : Pool cfg k pc f l) (hq : pc q = .createFailed p) {c : CallPc}
    (hc : c.NotMaking) : Pool cfg (k.osTaskCreateFail p) (Function.update pc q c) f l := by
  have h₁ : ∀ r, (Function.update pc q c r).held = (pc r).held := by
    intro r
    rw [held_update]
    split_ifs with hr
    · rw [hr, hq, hc.1]
      rfl
    · rfl
  have h₂ : ∀ r, (Function.update pc q c r).entering = (pc r).entering := by
    intro r
    rw [entering_update]
    split_ifs with hr
    · rw [hr, hq, hc.2.2]
      rfl
    · rfl
  have hp : k.tcbPrioTbl p = .reserved := (h.reserved p).mpr ⟨q, by rw [hq]; rfl⟩
  have h₃ : ∀ p' i, (k.osTaskCreateFail p).tcbPrioTbl p' = .tcb i ↔ k.tcbPrioTbl p' = .tcb i := by
    intro p' i
    simp only [OsMem.osTaskCreateFail, Function.update_apply]
    split_ifs with hp'
    · simp [hp', hp]
    · rfl
  have hres : (pc q).reserves = some p := by
    rw [hq]
    rfl
  constructor
  · exact h.free
  · exact h.list
  · exact h.back
  · simpa only [h₁] using h.inTbl
  · exact h.apart
  · simpa only [h₁] using h.heldApart
  · simpa only [h₁] using h.heldBy
  · intro i hi
    rw [h₃]
    exact h.listed i hi
  · simpa only [h₁, h₂, h₃] using h.entered
  · intro p' i hp'
    rw [h₃] at hp'
    simp only [h₁, h₂]
    exact h.valid p' i hp'
  · intro r p' i hr hp'
    rw [h₁] at hr
    rw [reserves_update, hc.2.1] at hp'
    split_ifs at hp' with hrq
    exact h.filled r p' i hr hp'
  · intro p'
    have := h.reserved p'
    have := h.reservedBy
    simp only [OsMem.osTaskCreateFail]
    grind [reserves_update, CallPc.NotMaking, Function.update_apply]
  · have := h.reservedBy
    grind [reserves_update, CallPc.NotMaking]
  · have := h.inRange
    simp only [OsMem.osTaskCreateFail]
    grind [Function.update_apply]
  · simpa only [h₂] using h.owner
  · exact h.ctr

/-- The TCB is entered in the table.

**Proof sketch.** The reserved priority leads to the TCB from now on; the lists do not change. -/
lemma Pool.enter (h : Pool cfg k pc f l) (hq : pc q = .createTaken p i) (hle : q ≤ 63) :
    Pool cfg (k.osTcbInitPrio p i) (Function.update pc q (.createEntered p i)) f l := by
  have h₁ : ∀ r, (Function.update pc q (.createEntered p i) r).held = (pc r).held := by
    intro r
    rw [held_update]
    split_ifs with hr
    · rw [hr, hq]
      rfl
    · rfl
  have hheld : (pc q).held = some i := by
    rw [hq]
    rfl
  have hres : (pc q).reserves = some p := by
    rw [hq]
    rfl
  have hent : (pc q).entering = none := by
    rw [hq]
    rfl
  have hp : k.tcbPrioTbl p = .reserved := (h.reserved p).mpr ⟨q, hres⟩
  have hprio := h.filled q p i hheld hres
  constructor
  · exact h.free
  · exact h.list
  · exact h.back
  · simpa only [h₁] using h.inTbl
  · exact h.apart
  · simpa only [h₁] using h.heldApart
  · simpa only [h₁] using h.heldBy
  · have := h.listed
    simp only [OsMem.osTcbInitPrio]
    grind [Function.update_apply]
  · have := h.entered
    simp only [OsMem.osTcbInitPrio]
    grind [entering_update, CallPc.entering, Function.update_apply]
  · have := h.valid
    simp only [OsMem.osTcbInitPrio]
    grind [entering_update, CallPc.entering, Function.update_apply]
  · have := h.filled
    simp only [OsMem.osTcbInitPrio]
    grind [reserves_update, CallPc.reserves]
  · intro p'
    have := h.reserved p'
    have := h.reservedBy
    simp only [OsMem.osTcbInitPrio]
    grind [reserves_update, CallPc.reserves, Function.update_apply]
  · have := h.reservedBy
    grind [reserves_update, CallPc.reserves]
  · have := h.inRange
    simp only [OsMem.osTcbInitPrio]
    grind [Function.update_apply]
  · have := h.owner
    grind [entering_update, CallPc.entering]
  · exact h.ctr

/-- The links after a TCB has been put in front of the list. -/
lemma osTcbInitLink_links (hi : ∀ head, k.tcbList = some head → head ≠ i) :
    (∀ j, ((k.osTcbInitLink i).tcbTbl j).toOsTcb = (k.tcbTbl j).toOsTcb) ∧
      (∀ j, ((k.osTcbInitLink i).tcbTbl j).prio = (k.tcbTbl j).prio) ∧
      (∀ j, ((k.osTcbInitLink i).tcbTbl j).next = if j = i then k.tcbList else (k.tcbTbl j).next) ∧
      ∀ j, ((k.osTcbInitLink i).tcbTbl j).prev =
        if j = i then none else if k.tcbList = some j then some i else (k.tcbTbl j).prev := by
  cases hl : k.tcbList with
  | none =>
    refine ⟨?_, ?_, ?_, ?_⟩
    all_goals
      intro j
      by_cases hj : j = i
      · subst hj
        simp [OsMem.osTcbInitLink, OsMem.setBlock, hl]
      · simp [OsMem.osTcbInitLink, OsMem.setBlock, hl, hj]
  | some head =>
    have hne := hi head hl
    refine ⟨?_, ?_, ?_, ?_⟩
    all_goals
      intro j
      by_cases hj : j = head
      · subst hj
        simp [OsMem.osTcbInitLink, OsMem.setBlock, hl, hne]
      · by_cases hji : j = i
        · subst hji
          simp [OsMem.osTcbInitLink, OsMem.setBlock, hl, hj]
        · simp [OsMem.osTcbInitLink, OsMem.setBlock, hl, hj, hji, Ne.symm hj]

/-- What else putting a TCB into the list does. -/
lemma osTcbInitLink_rest (k : OsMem) (i : ℕ) : ∃ tcbTbl, k.osTcbInitLink i = { k with
    tcbTbl := tcbTbl, tcbList := some i, rdy := k.rdy.insert (k.tcbTbl i).prio,
    taskCtr := k.taskCtr + 1 } := by
  refine ⟨(k.osTcbInitLink i).tcbTbl, ?_⟩
  cases hl : k.tcbList with
  | none => simp [OsMem.osTcbInitLink, OsMem.setBlock, hl]
  | some head =>
    by_cases hi : i = head
    · subst hi
      simp [OsMem.osTcbInitLink, OsMem.setBlock, hl]
    · simp [OsMem.osTcbInitLink, OsMem.setBlock, hl, hi]

/-- The TCB is put in front of the list.

**Proof sketch.** The TCB is in the hands of the task, and so on neither list. It becomes the head
of the one and is the only block whose links change, with the old head; the number of the tasks is
the length of the list. -/
lemma Pool.link (h : Pool cfg k pc f l) (hq : pc q = .createEntered p i) {c : CallPc}
    (hc : c.NotMaking) : Pool cfg (k.osTcbInitLink i) (Function.update pc q c) f (i :: l) := by
  have hheld : (pc q).held = some i := by
    rw [hq]
    rfl
  have hent : (pc q).entering = some p := by
    rw [hq]
    rfl
  have hres : (pc q).reserves = none := by
    rw [hq]
    rfl
  obtain ⟨hnotf, hnotl⟩ := h.heldApart q i hheld
  have hhead : ∀ head, k.tcbList = some head → head ≠ i := by
    rintro head hl rfl
    rw [h.list.head_eq] at hl
    exact hnotl (List.mem_of_mem_head? hl)
  obtain ⟨-, hprio, hnext, hprev⟩ := osTcbInitLink_links hhead
  obtain ⟨hfree, hlist, htbl, hctr⟩ : (k.osTcbInitLink i).tcbFreeList = k.tcbFreeList ∧
      (k.osTcbInitLink i).tcbList = some i ∧ (k.osTcbInitLink i).tcbPrioTbl = k.tcbPrioTbl ∧
      (k.osTcbInitLink i).taskCtr = k.taskCtr + 1 := by
    obtain ⟨tcbTbl, hk⟩ := osTcbInitLink_rest k i
    rw [hk]
    exact ⟨rfl, rfl, rfl, rfl⟩
  have h₃ : ∀ r, (Function.update pc q c r).reserves = (pc r).reserves := by
    intro r
    rw [reserves_update]
    split_ifs with hr
    · rw [hr, hres, hc.2.1]
    · rfl
  have hp : k.tcbPrioTbl p = .tcb i := h.entered q p i hheld hent
  have hlen : (i :: l).length ≤ cfg.nTcb := by
    refine length_le_of_mem_lt (List.nodup_cons.mpr ⟨hnotl, h.list.nodup⟩) fun j hj => ?_
    rcases List.mem_cons.mp hj with rfl | hj
    · exact (h.inTbl j).mpr (Or.inr (Or.inr ⟨q, hheld⟩))
    · exact (h.inTbl j).mpr (Or.inr (Or.inl hj))
  constructor
  · rw [hfree]
    refine h.free.congr fun j hj => ?_
    simp only [hnext, if_neg (ne_of_mem_of_not_mem hj hnotf)]
  · rw [hlist]
    refine h.list.push ?_ fun j hj => ?_
    · simp only [hnext, if_pos]
    · simp only [hnext, if_neg (ne_of_mem_of_not_mem hj hnotl)]
  · refine h.back.push h.list.nodup ?_ ?_ ?_
    · simp only [hprev, if_pos]
    · intro j hj
      have hjl : k.tcbList = some j := by
        rw [h.list.head_eq]
        exact hj
      simp only [hprev, if_neg (hhead j hjl), if_pos hjl]
    · intro j hj hne
      rw [← h.list.head_eq] at hne
      simp only [hprev, if_neg (ne_of_mem_of_not_mem hj hnotl), if_neg hne]
  · intro j
    have := h.inTbl j
    have := h.heldBy
    grind [held_update, CallPc.NotMaking]
  · have := h.apart
    grind
  · have := h.heldApart
    have := h.heldBy
    grind [held_update, CallPc.NotMaking]
  · have := h.heldBy
    grind [held_update, CallPc.NotMaking]
  · intro j hj
    rw [hprio, htbl]
    rcases List.mem_cons.mp hj with rfl | hj
    · rw [(h.valid p j hp).1]
      exact hp
    · exact h.listed j hj
  · have := h.entered
    rw [htbl]
    grind [held_update, entering_update, CallPc.NotMaking]
  · intro p' j hp'
    rw [htbl] at hp'
    rw [hprio]
    have := h.valid p' j hp'
    grind [held_update, entering_update]
  · intro r p' j hr hp'
    rw [h₃] at hp'
    rw [hprio]
    rw [held_update] at hr
    split_ifs at hr with hrq
    · rw [hc.1] at hr
      cases hr
    · exact h.filled r p' j hr hp'
  · simpa only [h₃, htbl] using h.reserved
  · simpa only [h₃] using h.reservedBy
  · rw [htbl]
    exact h.inRange
  · have := h.owner
    grind [entering_update, CallPc.NotMaking]
  · have hlt := cfg.maxTasks_lt
    simp only [OsCfg.nTcb, osNSysTasks, List.length_cons] at hlen
    rw [hctr, UInt8.toNat_add, h.ctr, List.length_cons]
    exact Nat.mod_eq_of_lt (by simp; omega)

end

end Kernel
