import UcosArm64.Kernel.OsSem
import UcosArm64.Port.ContextSwitch

set_option relaxedAutoImplicit false
set_option autoImplicit false

/-!
# Nested interrupts

A handler that unmasks IRQs can be interrupted itself. `OS_CPU_ARM_ExceptIrqHndlr` then writes its
frame on the stack of the code that it interrupts, as always, and skips what it does for a
first-level interrupt only. The two exits are one: it loads the frame to which
`OSTCBCur->OSTCBStkPtr` points.

## Main definitions

* `Port.osIntExit`, `Port.exceptIrqExit` — the end of the handler.
* `Port.Dispatch`, `Port.Invocation` — an invocation of the handler, with all that interrupts it.
* `Port.ReturnsToInterrupted` — what a nested invocation is for.

## Main results

* `Port.osIntExit_kernel` — the counter is that of `OSIntExit` in the model of the kernel.
* `Port.Dispatch.balanced` — what runs between the entry and the exit of an invocation.
* `Port.returnsToInterrupted_iff` — the nested invocations that return to the code they
  interrupted.
* `Port.nested_resumes_task` — a nested invocation that interrupts a handler resumes the task
  instead.

## Design

What `irq_dispatch` calls is arbitrary code: it changes any register and writes any byte but the
variables of the kernel that the handler uses, `OSTCBStkPtr` of the current task, and the frames of
the invocations that have not finished; and it is interrupted by further invocations. `OSIntExit`
and what follows it in the handler are one step, with IRQs masked. `schedule` is what `OSIntExit`
does on the last level; no nested invocation comes to it.
-/

namespace Port

open Transition ByteMemory

/-! ## The exit -/

/-- `OSIntExit` -/
def osIntExit (sym : Symbol → BitVec 64) (schedule : ByteMemory → ByteMemory) (m : ByteMemory) :
    ByteMemory :=
  if m (sym .osRunning) = 1 then
    let m := if 0 < m (sym .osIntNesting) then
      m.write8 (sym .osIntNesting) (m (sym .osIntNesting) - 1) else m
    if m (sym .osIntNesting) = 0 then schedule m else m
  else m

/-- `OS_CPU_ARM_ExceptIrqHndlr` from its call of `OSIntExit` on. -/
def exceptIrqExit (sym : Symbol → BitVec 64) (schedule : ByteMemory → ByteMemory) (c : Cpu) : Cpu :=
  execCode sym { c with mem := osIntExit sym schedule c.mem } exceptIrqReturn

/-- The exit of an interrupt, once the memory after `OSIntExit` is known. -/
lemma exceptIrqExit_eq (sym : Symbol → BitVec 64) (schedule : ByteMemory → ByteMemory) (c : Cpu)
    {m : ByteMemory} (hm : m = osIntExit sym schedule c.mem) :
    exceptIrqExit sym schedule c =
      { c with mem := m }.loadFrame (m.read64 (m.read64 (sym .osTcbCur))) := by
  rw [exceptIrqExit, exec_exceptIrqReturn, ← hm]

/-- The memory after the exit. -/
lemma exceptIrqExit_mem (sym : Symbol → BitVec 64) (schedule : ByteMemory → ByteMemory) (c : Cpu) :
    (exceptIrqExit sym schedule c).mem = osIntExit sym schedule c.mem := by
  rw [exceptIrqExit_eq sym schedule c rfl]
  rfl

/-- `OSIntExit` before multitasking. -/
lemma osIntExit_of_not_running {sym : Symbol → BitVec 64} (schedule : ByteMemory → ByteMemory)
    {m : ByteMemory} (h : m (sym .osRunning) ≠ 1) : osIntExit sym schedule m = m := if_neg h

/-- `OSIntExit` on a level that is not the last one. -/
lemma osIntExit_nested {sym : Symbol → BitVec 64} (schedule : ByteMemory → ByteMemory)
    {m : ByteMemory} (h : m (sym .osRunning) = 1) (hn : 2 ≤ (m (sym .osIntNesting)).toNat) :
    osIntExit sym schedule m = m.write8 (sym .osIntNesting) (m (sym .osIntNesting) - 1) := by
  have hpos : 0 < m (sym .osIntNesting) := by
    bv_omega
  have hne : (m.write8 (sym .osIntNesting) (m (sym .osIntNesting) - 1)) (sym .osIntNesting) ≠
      0 := by
    simp only [write8, if_true]
    bv_omega
  simp only [osIntExit, if_pos h, if_pos hpos, if_neg hne]

/-- On such a level the counter is that of `OSIntExit` in the model of the kernel, which switches
no task then. -/
lemma osIntExit_kernel {ι : Type} {sym : Symbol → BitVec 64} (schedule : ByteMemory → ByteMemory)
    {m : ByteMemory} {k : Kernel.OsState ι} (h : m (sym .osRunning) = 1)
    (hk : (m (sym .osIntNesting)).toNat = k.intNesting) (hn : 2 ≤ k.intNesting) :
    (osIntExit sym schedule m (sym .osIntNesting)).toNat = (Kernel.osIntExit k).intNesting ∧
      (Kernel.osIntExit k).prioCur = k.prioCur := by
  have hkernel : Kernel.osIntExit k = { k with intNesting := k.intNesting - 1 } := by
    have hpos : k.intNesting > 0 := by omega
    have hne : k.intNesting - 1 ≠ 0 := by omega
    simp only [Kernel.osIntExit, if_pos hpos, if_neg hne]
  rw [hkernel, osIntExit_nested schedule h (by omega)]
  refine ⟨?_, rfl⟩
  show (if sym .osIntNesting = sym .osIntNesting then m (sym .osIntNesting) - 1 else _).toNat = _
  rw [if_pos rfl, ← hk]
  bv_omega

/-! ## Invocations -/

section

variable {τ : Type}

/-- The areas of the kernel that no code under the handler writes, but for the counter at the
exit. -/
def handlerAreas (p : τ) : List (Area τ) :=
  [.var .osRunning, .var .osIntNesting, .var .osTcbCur, .stkPtr p]

/-- Where the handler writes its frame when it interrupts the processor. -/
def Cpu.irqFrame (c : Cpu) : BitVec 64 := c.sp - BitVec.ofNat 64 ctxSize

/-- **An IRQ can come.** IRQs are unmasked, the counter does not wrap around, and the stack has
room: the new frame is apart from the areas of the kernel and from the frames in use. -/
structure CanEnter (L : Layout τ) (p : τ) (frames : List (BitVec 64)) (c : Cpu) : Prop where
  unmasked : irqMasked c.pstate = false
  depth : c.mem (L.sym .osIntNesting) ≠ 255
  areas : ∀ A ∈ handlerAreas p, (frame c.irqFrame).Disjoint (L.region A)
  apart : ∀ g ∈ frames, (frame c.irqFrame).Disjoint (frame g)
  counter : ∀ g ∈ frames, (frame g).Disjoint (L.region (.var .osIntNesting))

/-- **What runs between the entry of the handler and its exit**, with the given frames in use: code
that changes registers, code that stores a byte, and nested invocations of the handler from their
entry to their exit. -/
inductive Dispatch (L : Layout τ) (p : τ) (schedule : ByteMemory → ByteMemory) :
    List (BitVec 64) → Cpu → Cpu → Prop
  | done (frames : List (BitVec 64)) (c : Cpu) : Dispatch L p schedule frames c c
  | regs {frames : List (BitVec 64)} {c c' d : Cpu} (hmem : c'.mem = c.mem)
      (hrest : Dispatch L p schedule frames c' d) : Dispatch L p schedule frames c d
  | store {frames : List (BitVec 64)} {c d : Cpu} (a : BitVec 64) (v : BitVec 8)
      (hareas : ∀ A ∈ handlerAreas p, ¬ (L.region A).Mem a)
      (hframes : ∀ g ∈ frames, ¬ (frame g).Mem a)
      (hrest : Dispatch L p schedule frames { c with mem := c.mem.write8 a v } d) :
      Dispatch L p schedule frames c d
  | nested {frames : List (BitVec 64)} {c e d : Cpu} (henter : CanEnter L p frames c)
      (hbody : Dispatch L p schedule (c.irqFrame :: frames) (exceptIrqHndlr L.sym (takeIrq c)) e)
      (hrest : Dispatch L p schedule frames (exceptIrqExit L.sym schedule e) d) :
      Dispatch L p schedule frames c d

/-- **An invocation of the handler**, from the code that it interrupts to its end. -/
def Invocation (L : Layout τ) (p : τ) (schedule : ByteMemory → ByteMemory)
    (frames : List (BitVec 64)) (c r : Cpu) : Prop :=
  CanEnter L p frames c ∧
    ∃ d, Dispatch L p schedule (c.irqFrame :: frames) (exceptIrqHndlr L.sym (takeIrq c)) d ∧
      r = exceptIrqExit L.sym schedule d

variable {L : Layout τ} {p : τ} {schedule : ByteMemory → ByteMemory} {frames : List (BitVec 64)}
  {c d r : Cpu} {m m' m'' : ByteMemory}

/-! ## What an invocation leaves alone -/

/-- The areas of the kernel are the same, apart from the counter, and so are the frames in use. -/
structure Untouched (L : Layout τ) (p : τ) (frames : List (BitVec 64)) (m m' : ByteMemory) :
    Prop where
  areas : ∀ A ∈ handlerAreas p, A ≠ .var .osIntNesting → AgreeOn (L.region A) m m'
  frames : ∀ g ∈ frames, AgreeOn (frame g) m m'

namespace Untouched

/-- Nothing has been touched. -/
lemma refl (L : Layout τ) (p : τ) (frames : List (BitVec 64)) (m : ByteMemory) :
    Untouched L p frames m m := ⟨fun _ _ _ => AgreeOn.refl _ m, fun _ _ => AgreeOn.refl _ m⟩

/-- What neither of two stretches touches is untouched. -/
lemma trans (h : Untouched L p frames m m') (h' : Untouched L p frames m' m'') :
    Untouched L p frames m m'' :=
  ⟨fun A hA hne => (h.areas A hA hne).trans (h'.areas A hA hne),
    fun g hg => (h.frames g hg).trans (h'.frames g hg)⟩

/-- One frame fewer that has to be untouched. -/
lemma tail {f : BitVec 64} (h : Untouched L p (f :: frames) m m') : Untouched L p frames m m' :=
  ⟨h.areas, fun g hg => h.frames g (List.mem_cons_of_mem f hg)⟩

/-- `OSRunning` is untouched. -/
lemma osRunning (h : Untouched L p frames m m') :
    m' (L.sym .osRunning) = m (L.sym .osRunning) :=
  h.areas (.var .osRunning) (by simp [handlerAreas]) (by simp) _ (L.mem_region_var rfl)

/-- The frame that the exit loads. -/
lemma current (h : Untouched L p frames m m') (hcur : m.read64 (L.sym .osTcbCur) = L.tcb p) :
    m'.read64 (L.sym .osTcbCur) = L.tcb p ∧ L.stkPtr m' p = L.stkPtr m p := by
  have htcb := h.areas (.var .osTcbCur) (by simp [handlerAreas]) (by simp)
  have hptr := h.areas (.stkPtr p) (by simp [handlerAreas]) (by simp)
  rw [L.region_var] at htcb
  rw [L.region_stkPtr] at hptr
  exact ⟨(read64_of_agreeOn htcb).trans hcur, read64_of_agreeOn hptr⟩

end Untouched

/-- A new value of the counter. -/
lemma untouched_write8_counter (m : ByteMemory) (v : BitVec 8)
    (hframes : ∀ g ∈ frames, (frame g).Disjoint (L.region (.var .osIntNesting))) :
    Untouched L p frames m (m.write8 (L.sym .osIntNesting) v) := by
  constructor
  · intro A _ hne
    exact L.only_write8_var rfl m v A hne
  · intro g hg
    exact agreeOn_write8 ((hframes g hg).symm _ (L.mem_region_var rfl))

/-- The words of a frame are the registers of the code that has been interrupted. -/
structure SavedAt (m : ByteMemory) (f : BitVec 64) (c : Cpu) : Prop where
  x : ∀ k, word m f (slot k) = c.x k
  pstate : word m f 0 = c.pstate
  pc : word m f 1 = c.pc

/-- A saved context depends on its frame only. -/
lemma SavedAt.of_agreeOn {f : BitVec 64} (h : SavedAt m f c) (hm : AgreeOn (frame f) m m') :
    SavedAt m' f c := by
  constructor
  · intro k
    rw [word_of_agreeOn hm (slot_lt k)]
    exact h.x k
  · rw [word_of_agreeOn hm (by decide)]
    exact h.pstate
  · rw [word_of_agreeOn hm (by decide)]
    exact h.pc

/-- The frames in use are apart from the counter, the new one too. -/
lemma CanEnter.counter_cons (h : CanEnter L p frames c) :
    ∀ g ∈ c.irqFrame :: frames, (frame g).Disjoint (L.region (.var .osIntNesting)) := by
  intro g hg
  rcases List.mem_cons.mp hg with rfl | hg
  · exact h.areas _ (by simp [handlerAreas])
  · exact h.counter g hg

/-- **The entry of a nested invocation** writes its frame and increments the counter. -/
lemma CanEnter.entry (h : CanEnter L p frames c) (hn : c.mem (L.sym .osIntNesting) ≠ 0) :
    Untouched L p frames c.mem (exceptIrqHndlr L.sym (takeIrq c)).mem ∧
      (exceptIrqHndlr L.sym (takeIrq c)).mem (L.sym .osIntNesting) =
        c.mem (L.sym .osIntNesting) + 1 ∧
      SavedAt (exceptIrqHndlr L.sym (takeIrq c)).mem c.irqFrame c := by
  set m := c.mem.writeWords c.irqFrame (frameWords (takeIrq c) c.pstate c.pc) with hm
  have hareas : ∀ A ∈ handlerAreas p, AgreeOn (L.region A) c.mem m := fun A hA =>
    agreeOn_frameWords (h.areas A hA)
  have hcounter : m (L.sym .osIntNesting) = c.mem (L.sym .osIntNesting) :=
    hareas (.var .osIntNesting) (by simp [handlerAreas]) _ (L.mem_region_var rfl)
  obtain ⟨hmem, -⟩ := exceptIrqHndlr_nested L.sym (takeIrq c) (f := c.irqFrame) rfl hm
    (by rw [hcounter]; exact hn)
  rw [hcounter] at hmem
  have hwrite : Untouched L p (c.irqFrame :: frames) m
      (m.write8 (L.sym .osIntNesting) (c.mem (L.sym .osIntNesting) + 1)) :=
    untouched_write8_counter m _ h.counter_cons
  obtain ⟨hx, h0, h1⟩ := word_frameWords c.mem c.irqFrame (takeIrq c) c.pstate c.pc
  have hsaved : SavedAt m c.irqFrame c := ⟨hx, h0, h1⟩
  rw [hmem]
  refine ⟨?_, ?_, hsaved.of_agreeOn (hwrite.frames _ List.mem_cons_self)⟩
  · refine Untouched.trans ⟨fun A hA _ => hareas A hA, fun g hg => ?_⟩ hwrite.tail
    exact agreeOn_frameWords (h.apart g hg)
  · simp [write8]

/-- **The memory under the handler.** It is untouched, and the counter is back, unless `OSIntExit`
does not decrement it: then it is not below. -/
structure Balanced (L : Layout τ) (p : τ) (frames : List (BitVec 64)) (m m' : ByteMemory) : Prop
    extends Untouched L p frames m m' where
  counter_le : (m (L.sym .osIntNesting)).toNat ≤ (m' (L.sym .osIntNesting)).toNat
  counter : m (L.sym .osRunning) = 1 → m' (L.sym .osIntNesting) = m (L.sym .osIntNesting)

/-- Two balanced stretches, one after the other. -/
lemma Balanced.trans (h : Balanced L p frames m m') (h' : Balanced L p frames m' m'') :
    Balanced L p frames m m'' := by
  refine ⟨h.toUntouched.trans h'.toUntouched, h.counter_le.trans h'.counter_le, fun hrun => ?_⟩
  rw [h'.counter (by rw [h.osRunning]; exact hrun)]
  exact h.counter hrun

/-- `OSIntExit` of a nested invocation. -/
lemma untouched_osIntExit (L : Layout τ) (p : τ) (schedule : ByteMemory → ByteMemory)
    {frames : List (BitVec 64)} {m : ByteMemory} (hn : 2 ≤ (m (L.sym .osIntNesting)).toNat)
    (hframes : ∀ g ∈ frames, (frame g).Disjoint (L.region (.var .osIntNesting))) :
    Untouched L p frames m (osIntExit L.sym schedule m) ∧
      osIntExit L.sym schedule m (L.sym .osIntNesting) =
        if m (L.sym .osRunning) = 1 then m (L.sym .osIntNesting) - 1
        else m (L.sym .osIntNesting) := by
  by_cases hrun : m (L.sym .osRunning) = 1
  · rw [osIntExit_nested schedule hrun hn, if_pos hrun]
    exact ⟨untouched_write8_counter m _ hframes, by simp [write8]⟩
  · rw [osIntExit_of_not_running schedule hrun, if_neg hrun]
    exact ⟨Untouched.refl L p frames m, rfl⟩

/-- The counter when a nested invocation comes to its exit. -/
lemma CanEnter.two_le_counter (h : CanEnter L p frames c) (hn : c.mem (L.sym .osIntNesting) ≠ 0)
    (hbody : Balanced L p (c.irqFrame :: frames) (exceptIrqHndlr L.sym (takeIrq c)).mem d.mem) :
    (c.mem (L.sym .osIntNesting)).toNat + 1 ≤ (d.mem (L.sym .osIntNesting)).toNat ∧
      2 ≤ (d.mem (L.sym .osIntNesting)).toNat := by
  obtain ⟨-, hentry, -⟩ := h.entry hn
  have hle := hbody.counter_le
  have hdepth := h.depth
  rw [hentry] at hle
  bv_omega

/-- The counter at the end of a nested invocation. -/
lemma CanEnter.counter_exit (h : CanEnter L p frames c)
    (schedule : ByteMemory → ByteMemory) (hn : c.mem (L.sym .osIntNesting) ≠ 0)
    (hbody : Balanced L p (c.irqFrame :: frames) (exceptIrqHndlr L.sym (takeIrq c)).mem d.mem) :
    (c.mem (L.sym .osRunning) = 1 →
        (exceptIrqExit L.sym schedule d).mem (L.sym .osIntNesting) =
          c.mem (L.sym .osIntNesting)) ∧
      (c.mem (L.sym .osRunning) ≠ 1 →
        (c.mem (L.sym .osIntNesting)).toNat + 1 ≤
          ((exceptIrqExit L.sym schedule d).mem (L.sym .osIntNesting)).toNat) := by
  obtain ⟨huntouched, hentry, -⟩ := h.entry hn
  obtain ⟨hlt, htwo⟩ := h.two_le_counter hn hbody
  obtain ⟨-, hexit⟩ := untouched_osIntExit L p schedule htwo h.counter
  have hrun : d.mem (L.sym .osRunning) = c.mem (L.sym .osRunning) :=
    hbody.osRunning.trans huntouched.osRunning
  rw [exceptIrqExit_mem, hexit, hrun]
  constructor
  · intro h1
    rw [if_pos h1, hbody.counter (by rw [huntouched.osRunning]; exact h1), hentry]
    exact BitVec.add_sub_cancel _ _
  · intro h1
    rw [if_neg h1]
    exact hlt

/-- **A nested invocation** leaves the memory balanced if the code in it does. -/
lemma CanEnter.balanced (h : CanEnter L p frames c)
    (schedule : ByteMemory → ByteMemory) (hn : c.mem (L.sym .osIntNesting) ≠ 0)
    (hbody : Balanced L p (c.irqFrame :: frames) (exceptIrqHndlr L.sym (takeIrq c)).mem d.mem) :
    Balanced L p frames c.mem (exceptIrqExit L.sym schedule d).mem := by
  obtain ⟨huntouched, -, -⟩ := h.entry hn
  obtain ⟨hrunning, hstopped⟩ := h.counter_exit schedule hn hbody
  obtain ⟨hexit, -⟩ := untouched_osIntExit L p schedule
    (h.two_le_counter hn hbody).2 h.counter
  rw [← exceptIrqExit_mem] at hexit
  refine ⟨(huntouched.trans hbody.tail).trans hexit, ?_, hrunning⟩
  by_cases hrun : c.mem (L.sym .osRunning) = 1
  · rw [hrunning hrun]
  · exact (Nat.le_succ _).trans (hstopped hrun)

/-- Code that runs at the entry of an invocation finds the counter above 0. -/
lemma CanEnter.entry_ne_zero (h : CanEnter L p frames c) (hn : c.mem (L.sym .osIntNesting) ≠ 0) :
    (exceptIrqHndlr L.sym (takeIrq c)).mem (L.sym .osIntNesting) ≠ 0 := by
  rw [(h.entry hn).2.1]
  have hdepth := h.depth
  bv_omega

/-- **What runs under the handler leaves the memory balanced.** The induction is on what runs; a
nested invocation is one level deeper, with its own frame in use. -/
lemma Dispatch.balanced (h : Dispatch L p schedule frames c d)
    (hn : c.mem (L.sym .osIntNesting) ≠ 0) : Balanced L p frames c.mem d.mem := by
  induction h with
  | done frames c => exact ⟨Untouched.refl L p frames c.mem, le_refl _, fun _ => rfl⟩
  | regs hmem _ ih =>
    rw [← hmem] at hn ⊢
    exact ih hn
  | @store frames c d a v hareas hframes _ ih =>
    have hstore : Untouched L p frames c.mem (c.mem.write8 a v) :=
      ⟨fun A hA _ => agreeOn_write8 (hareas A hA), fun g hg => agreeOn_write8 (hframes g hg)⟩
    have hcounter : c.mem.write8 a v (L.sym .osIntNesting) = c.mem (L.sym .osIntNesting) :=
      agreeOn_write8 (hareas (.var .osIntNesting) (by simp [handlerAreas])) _
        (L.mem_region_var rfl)
    refine Balanced.trans ⟨hstore, ?_, fun _ => hcounter⟩ (ih ?_)
    · rw [hcounter]
    · show c.mem.write8 a v (L.sym .osIntNesting) ≠ 0
      rw [hcounter]
      exact hn
  | @nested frames c e d henter _ _ ihbody ihrest =>
    have hinvocation := henter.balanced schedule hn
      (ihbody (henter.entry_ne_zero hn))
    refine hinvocation.trans (ihrest ?_)
    have hle := hinvocation.counter_le
    bv_omega

/-- **The end of a nested invocation.** Its frame and those in use are intact, and the exit has
loaded the frame to which `OSTCBCur->OSTCBStkPtr` points. -/
lemma Invocation.exit (h : Invocation L p schedule frames c r)
    (hn : c.mem (L.sym .osIntNesting) ≠ 0)
    (hcur : c.mem.read64 (L.sym .osTcbCur) = L.tcb p) :
    Untouched L p frames c.mem r.mem ∧ SavedAt r.mem c.irqFrame c ∧
      ∃ d : Cpu, d.mem = r.mem ∧ r = d.loadFrame (L.stkPtr c.mem p) := by
  obtain ⟨henter, d, hdispatch, rfl⟩ := h
  obtain ⟨huntouched, -, hsaved⟩ := henter.entry hn
  have hbody := hdispatch.balanced (henter.entry_ne_zero hn)
  obtain ⟨hexit, -⟩ := untouched_osIntExit L p schedule
    (henter.two_le_counter hn hbody).2 henter.counter_cons
  have hafter := hbody.toUntouched.trans hexit
  have hall := huntouched.trans hafter.tail
  obtain ⟨hcur', hptr⟩ := hall.current hcur
  rw [exceptIrqExit_mem]
  refine ⟨hall, hsaved.of_agreeOn (hafter.frames _ List.mem_cons_self),
    { d with mem := osIntExit L.sym schedule d.mem }, rfl, ?_⟩
  rw [exceptIrqExit_eq L.sym schedule d rfl, hcur', ← hptr]
  rfl

/-! ## The code that has been interrupted -/

/-- **A nested invocation returns to the code that it interrupted.** It brings the registers back,
the counter is again one less than in it, and it restores the saved context of the task only if
that is what it interrupted. -/
structure ReturnsToInterrupted (L : Layout τ) (p : τ) (n : ℕ) (c r : Cpu) : Prop where
  x : r.x = c.x
  pc : r.pc = c.pc
  pstate : r.pstate = c.pstate
  sp : r.sp = c.sp
  counter : (r.mem (L.sym .osIntNesting)).toNat = n - 1
  task : ∀ ctx, Saved L c.mem p ctx → Matches ctx r → Matches ctx c

/-- The registers are those of the code that has been interrupted. -/
lemma returnsToInterrupted_of_savedAt {n : ℕ} (hsaved : SavedAt r.mem c.irqFrame c)
    (hmem : d.mem = r.mem) (hr : r = d.loadFrame c.irqFrame)
    (hcounter : (r.mem (L.sym .osIntNesting)).toNat = n - 1) :
    ReturnsToInterrupted L p n c r := by
  rw [← hmem] at hsaved
  have hx : r.x = c.x := by
    rw [hr]
    exact funext hsaved.x
  have hpc : r.pc = c.pc := by
    rw [hr]
    exact hsaved.pc
  have hpstate : r.pstate = c.pstate := by
    rw [hr]
    exact hsaved.pstate
  have hsp : r.sp = c.sp := by
    rw [hr]
    exact BitVec.sub_add_cancel _ _
  refine ⟨hx, hpc, hpstate, hsp, hcounter, fun ctx _ hmatch => ⟨?_, ?_, ?_, fun q hq => ?_⟩⟩
  · exact hx.symm.trans hmatch.x
  · exact hsp.symm.trans hmatch.sp
  · exact hpc.symm.trans hmatch.pc
  · exact hpstate.symm.trans (hmatch.pstate q hq)

/-- **The nested invocations that return to the code they interrupted** are those of a running
kernel whose frame is the one to which `OSTCBCur->OSTCBStkPtr` points.

**Proof sketch.** What runs under the handler, nested invocations included, leaves the frame,
`OSTCBCur` and `OSTCBStkPtr` alone and the counter balanced (`Dispatch.balanced`). So the exit
loads the frame to which `OSTCBStkPtr` pointed at the entry, and its stack pointer is the one of
the interrupted code only if this is the frame of the invocation. If the kernel does not run, the
counter is not decremented. -/
theorem returnsToInterrupted_iff (L : Layout τ) (p : τ) (schedule : ByteMemory → ByteMemory)
    (frames : List (BitVec 64)) {n : ℕ} {c r : Cpu} (hn : 2 ≤ n)
    (hdepth : (c.mem (L.sym .osIntNesting)).toNat + 1 = n)
    (hcur : c.mem.read64 (L.sym .osTcbCur) = L.tcb p)
    (h : Invocation L p schedule frames c r) :
    ReturnsToInterrupted L p n c r ↔
      c.mem (L.sym .osRunning) = 1 ∧
        L.stkPtr c.mem p = c.sp - BitVec.ofNat 64 ctxSize := by
  have hne : c.mem (L.sym .osIntNesting) ≠ 0 := by
    bv_omega
  obtain ⟨-, hsaved, d, hmem, hr⟩ := h.exit hne hcur
  obtain ⟨henter, e, hdispatch, he⟩ := h
  obtain ⟨hrunning, hstopped⟩ := henter.counter_exit schedule hne
    (hdispatch.balanced (henter.entry_ne_zero hne))
  rw [← he] at hrunning hstopped
  constructor
  · intro hret
    refine ⟨?_, ?_⟩
    · by_contra hrun
      have hlt := hstopped hrun
      have hback := hret.counter
      omega
    · have hsp : L.stkPtr c.mem p + BitVec.ofNat 64 ctxSize = c.sp := by
        rw [← hret.sp, hr]
        rfl
      exact BitVec.eq_sub_iff_add_eq.mpr hsp
  · rintro ⟨hrun, hptr⟩
    rw [hptr] at hr
    refine returnsToInterrupted_of_savedAt hsaved hmem hr ?_
    rw [hrunning hrun]
    omega

end

/-! ## The preempted task -/

section

variable {τ : Type} [Fintype τ] [DecidableEq τ] {L : Layout τ} {p : τ}
  {schedule : ByteMemory → ByteMemory} {s : PortState τ} {r : Cpu}

/-- **In every run, a nested invocation that interrupts the handler of an IRQ resumes the task that
this IRQ preempted**, on the stack of the task, if it leaves the frame of the task alone. -/
lemma nested_resumes_task (L : Layout τ) (c : Cpu) (hs : Reachable (portStep L) (portInit c) s)
    (hmode : s.mode = .irq p) (hn : s.cpu.mem (L.sym .osIntNesting) ≠ 0)
    (h : Invocation L p schedule [L.stkPtr s.cpu.mem p] s.cpu r) :
    Restored L p r (s.record p) ∧ L.HasRoom p r.sp := by
  have hinv : PortInv L s :=
    hs.invariant (fun _ _ _ hs hstep => hs.step hstep) (portInv_portInit L c)
  obtain ⟨hcreated, hcur⟩ := hinv.current p (Or.inr hmode)
  obtain ⟨ctx, hctx⟩ := Record.context_of_created (L := L) hcreated p
  have hsaved := hinv.saved p ctx hctx (by rw [hmode]; simp)
  obtain ⟨huntouched, -, d, hmem, hr⟩ := h.exit hn hcur
  have hptr := (huntouched.current hcur).2
  have hframe : AgreeOn (frame ctx.frame) s.cpu.mem r.mem := by
    rw [← hsaved.stkPtr]
    exact huntouched.frames _ List.mem_cons_self
  have hsaved' : Saved L d.mem p ctx := by
    rw [hmem]
    exact ⟨hsaved.toFrameOk.of_agreeOn hframe, hptr.trans hsaved.stkPtr⟩
  have hmatch := hsaved'.matches
  rw [hmem, hptr, ← hr] at hmatch
  refine ⟨restored_of_matches hctx hmatch, ?_⟩
  rw [hmatch.sp]
  exact hsaved.room

end

/-! ## Two tasks -/

/-- An invocation in which the GIC reports a spurious interrupt, so that `irq_dispatch` just
returns. -/
def spuriousIrq (c : Cpu) : Cpu :=
  exceptIrqExit twoStacks.sym id (exceptIrqHndlr twoStacks.sym (takeIrq c))

/-- A frame that is apart from the pages of the variables and of the TCBs. -/
lemma invocation_spuriousIrq {c : Cpu} {a : ℕ} (hframe : c.irqFrame = BitVec.ofNat 64 a)
    (ha : a + 272 ≤ 0x40001000 ∨ (0x4000B000 ≤ a ∧ a + 272 ≤ 2 ^ 64))
    (hunmasked : irqMasked c.pstate = false)
    (hdepth : c.mem (twoStacks.sym .osIntNesting) ≠ 255) :
    Invocation twoStacks 0 id [] c (spuriousIrq c) := by
  refine ⟨⟨hunmasked, hdepth, fun A hA => ?_, by simp, by simp⟩, _, .done _ _, rfl⟩
  have hpage : 1 ≤ A.page ∧ A.page ≤ 10 := by
    have hall : ∀ B ∈ handlerAreas (0 : Fin 2), 1 ≤ B.page ∧ B.page ≤ 10 := by decide
    exact hall A hA
  have hsize := A.size_le
  rw [hframe]
  rcases ha with ha | ha
  · exact Region.disjoint_of_le (by omega) (by omega)
  · exact (Region.disjoint_of_le (by omega) (by omega)).symm

/-- An IRQ takes the processor from the first task, and its handler, which is on the stack for
exceptions, unmasks IRQs. -/
def handlerRun : List (PortAction (Fin 2)) :=
  startRun ++ [.store (twoStacks.sym .exceptStkBase + 3) 0x50, .irqEnter, .setPstate 0x345]

/-- An IRQ interrupts the handler: the task resumes. -/
theorem not_returnsToInterrupted_handler :
    ∃ s r, exec (portStep twoStacks) (portInit bootCpu) handlerRun = some s ∧
      (s.cpu.mem (twoStacks.sym .osIntNesting)).toNat + 1 = 2 ∧
      s.cpu.mem.read64 (twoStacks.sym .osTcbCur) = twoStacks.tcb 0 ∧
      Invocation twoStacks 0 id [] s.cpu r ∧ ¬ ReturnsToInterrupted twoStacks 0 2 s.cpu r := by
  have hobs : (exec (portStep twoStacks) (portInit bootCpu) handlerRun).map (fun s =>
      (s.cpu.mem (twoStacks.sym .osIntNesting), s.cpu.mem.read64 (twoStacks.sym .osTcbCur),
        irqMasked s.cpu.pstate, s.cpu.sp, (spuriousIrq s.cpu).sp)) =
      some (1, twoStacks.tcb 0, false, 0x50000000, 0x40001000) := by decide +kernel
  obtain ⟨s, hs, hfacts⟩ := Option.map_eq_some_iff.mp hobs
  simp only [Prod.mk.injEq] at hfacts
  obtain ⟨hnesting, hcur, hunmasked, hsp, hsp'⟩ := hfacts
  refine ⟨s, spuriousIrq s.cpu, hs, by rw [hnesting]; rfl, hcur, ?_, fun hret => ?_⟩
  · refine invocation_spuriousIrq (a := 0x50000000 - 272) ?_ (by decide) hunmasked ?_
    · rw [Cpu.irqFrame, hsp]
      rfl
    · rw [hnesting]
      decide
  · have hback := hret.sp
    rw [hsp, hsp'] at hback
    exact absurd hback (by decide)

/-- The next IRQ interrupts the task where the first one did, with the counter still at 1: the
frame is the one to which `OSTCBStkPtr` points. -/
theorem returnsToInterrupted_iff_resumed :
    ∃ s r, exec (portStep twoStacks) (portInit bootCpu) handlerRun = some s ∧
      Invocation twoStacks 0 id [] (spuriousIrq s.cpu) r ∧
      ReturnsToInterrupted twoStacks 0 2 (spuriousIrq s.cpu) r := by
  have hobs : (exec (portStep twoStacks) (portInit bootCpu) handlerRun).map (fun s =>
      ((spuriousIrq s.cpu).mem (twoStacks.sym .osIntNesting),
        (spuriousIrq s.cpu).mem.read64 (twoStacks.sym .osTcbCur),
        (spuriousIrq s.cpu).mem (twoStacks.sym .osRunning), irqMasked (spuriousIrq s.cpu).pstate,
        (spuriousIrq s.cpu).sp, twoStacks.stkPtr (spuriousIrq s.cpu).mem 0)) =
      some (1, twoStacks.tcb 0, 1, false, 0x40001000, 0x40000EF0) := by decide +kernel
  obtain ⟨s, hs, hfacts⟩ := Option.map_eq_some_iff.mp hobs
  simp only [Prod.mk.injEq] at hfacts
  obtain ⟨hnesting, hcur, hrunning, hunmasked, hsp, hptr⟩ := hfacts
  have hinvocation : Invocation twoStacks 0 id [] (spuriousIrq s.cpu)
      (spuriousIrq (spuriousIrq s.cpu)) := by
    refine invocation_spuriousIrq (a := 0x40001000 - 272) ?_ (by decide) hunmasked ?_
    · rw [Cpu.irqFrame, hsp]
      rfl
    · rw [hnesting]
      decide
  have hdepth : ((spuriousIrq s.cpu).mem (twoStacks.sym .osIntNesting)).toNat + 1 = 2 := by
    rw [hnesting]
    rfl
  refine ⟨s, _, hs, hinvocation,
    (returnsToInterrupted_iff twoStacks 0 id [] (le_refl 2) hdepth hcur hinvocation).mpr
      ⟨hrunning, ?_⟩⟩
  rw [hptr, hsp]
  rfl

end Port
