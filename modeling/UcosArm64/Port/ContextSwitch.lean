import UcosArm64.Port.PortSystem

set_option relaxedAutoImplicit false
set_option autoImplicit false

/-!
# Context preservation

A task that is switched out has its context in a frame on its own stack, and `OSTCBStkPtr` of its
TCB points to that frame. `OSTaskStkInit` and the two ways to lose the processor establish this,
and nothing that runs in between disturbs it.

## Main definitions

* `Port.Saved` — the frame of a task that is switched out.
* `Port.PortInv` — the invariant.
* `Port.Restored` — what a task finds when it resumes.

## Main results

* `Port.Saved.only` — a change elsewhere keeps a frame.
* `Port.PortInv.step` — every step keeps the invariant.
* `Port.context_preservation` — every task that resumes finds its context.
-/

namespace Port

open Transition ByteMemory

section

variable {τ : Type} {L : Layout τ}

/-! ## Changes in one area -/

/-- Nothing changes outside an area. -/
def Layout.Only (L : Layout τ) (A : Area τ) (m m' : ByteMemory) : Prop :=
  ∀ B, B ≠ A → AgreeOn (L.region B) m m'

/-- A change of a part of an area is one of the area only. -/
lemma Layout.only_of_sub {A : Area τ} {r : Region} {m m' : ByteMemory} (hr : r.Sub (L.region A))
    (h : ∀ r', r.Disjoint r' → AgreeOn r' m m') : L.Only A m m' := by
  intro B hB
  apply h
  exact (L.disjoint A B hB.symm).mono hr (Region.sub_refl _)

/-- The region of a variable. -/
lemma Layout.region_var (L : Layout τ) (s : Symbol) : L.region (.var s) = ⟨L.sym s, s.size⟩ := by
  rw [← L.var_size s]
  rfl

/-- The region of the stack pointer of a TCB. -/
lemma Layout.region_stkPtr (L : Layout τ) (q : τ) : L.region (.stkPtr q) = ⟨L.tcb q, 8⟩ := by
  rw [← L.stkPtr_size q]
  rfl

/-- The address of a variable of one byte is in its region. -/
lemma Layout.mem_region_var (L : Layout τ) {s : Symbol} (hs : s.size = 1) :
    (L.region (.var s)).Mem (L.sym s) := by
  rw [L.region_var, hs]
  simp [Region.Mem]

/-- A write to a pointer variable. -/
lemma Layout.only_write64_var (L : Layout τ) {s : Symbol} (hs : s.size = 8) (m : ByteMemory)
    (v : BitVec 64) : L.Only (.var s) m (m.write64 (L.sym s) v) := by
  refine Layout.only_of_sub (r := ⟨L.sym s, 8⟩) ?_ fun r' hr' => agreeOn_write64 hr'
  rw [L.region_var, hs]
  exact Region.sub_refl _

/-- A write to a variable of one byte. -/
lemma Layout.only_write8_var (L : Layout τ) {s : Symbol} (hs : s.size = 1) (m : ByteMemory)
    (v : BitVec 8) : L.Only (.var s) m (m.write8 (L.sym s) v) := by
  intro B hB
  exact agreeOn_write8 (L.disjoint _ B hB.symm _ (L.mem_region_var hs))

/-- A write to `OSTCBStkPtr`. -/
lemma Layout.only_write64_stkPtr (L : Layout τ) (q : τ) (m : ByteMemory) (v : BitVec 64) :
    L.Only (.stkPtr q) m (m.write64 (L.tcb q) v) := by
  refine Layout.only_of_sub (r := ⟨L.tcb q, 8⟩) ?_ fun r' hr' => agreeOn_write64 hr'
  rw [L.region_stkPtr]
  exact Region.sub_refl _

/-- A pointer variable elsewhere. -/
lemma Layout.Only.read64_var {A : Area τ} {m m' : ByteMemory} (h : L.Only A m m') {s : Symbol}
    (hs : s.size = 8) (hA : .var s ≠ A) : m'.read64 (L.sym s) = m.read64 (L.sym s) := by
  have hagree := h _ hA
  rw [L.region_var, hs] at hagree
  exact read64_of_agreeOn hagree

/-- A variable of one byte elsewhere. -/
lemma Layout.Only.byte_var {A : Area τ} {m m' : ByteMemory} (h : L.Only A m m') {s : Symbol}
    (hs : s.size = 1) (hA : .var s ≠ A) : m' (L.sym s) = m (L.sym s) :=
  h _ hA _ (L.mem_region_var hs)

/-- `OSTCBStkPtr` elsewhere. -/
lemma Layout.Only.stkPtr {A : Area τ} {m m' : ByteMemory} (h : L.Only A m m') {q : τ}
    (hA : .stkPtr q ≠ A) : L.stkPtr m' q = L.stkPtr m q := by
  have hagree := h _ hA
  rw [L.region_stkPtr] at hagree
  exact read64_of_agreeOn hagree

/-! ## Frames -/

/-- Where the frame of a context is. -/
def Context.frame (ctx : Context) : BitVec 64 := ctx.sp - BitVec.ofNat 64 ctxSize

/-- A frame lies in the stack of its task. -/
lemma frame_sub_stack {q : τ} {sp : BitVec 64} (h : L.HasRoom q sp) :
    (frame (sp - BitVec.ofNat 64 ctxSize)).Sub (L.stack q) := by
  obtain ⟨h₁, h₂⟩ := h
  have hlt := L.stack_lt q
  apply Region.sub_of_offset hlt
  have hoff : (sp - BitVec.ofNat 64 ctxSize - (L.stack q).base).toNat =
      L.height q sp - ctxSize := by
    unfold Layout.height ctxSize at *
    bv_omega
  show (sp - BitVec.ofNat 64 ctxSize - (L.stack q).base).toNat + 8 * 34 ≤ (L.stack q).size
  rw [hoff]
  unfold ctxSize at *
  omega

/-- The words of the frame of a context. -/
structure FrameOk (L : Layout τ) (m : ByteMemory) (q : τ) (ctx : Context) : Prop where
  x : ∀ r, word m ctx.frame (slot r) = ctx.x r
  pc : word m ctx.frame 1 = ctx.pc
  pstate : ∀ p, ctx.pstate = some p → word m ctx.frame 0 = p
  room : L.HasRoom q ctx.sp

/-- **The context of a task that is switched out is in its frame**, and `OSTCBStkPtr` points to the
frame. -/
structure Saved (L : Layout τ) (m : ByteMemory) (q : τ) (ctx : Context) : Prop
    extends FrameOk L m q ctx where
  stkPtr : L.stkPtr m q = ctx.frame

/-- A saved frame depends on its bytes only. -/
lemma FrameOk.of_agreeOn {m m' : ByteMemory} {q : τ} {ctx : Context} (h : FrameOk L m q ctx)
    (hm : AgreeOn (Port.frame ctx.frame) m m') : FrameOk L m' q ctx := by
  constructor
  · intro r
    rw [word_of_agreeOn hm (slot_lt r)]
    exact h.x r
  · rw [word_of_agreeOn hm (by decide)]
    exact h.pc
  · intro p hp
    rw [word_of_agreeOn hm (by decide)]
    exact h.pstate p hp
  · exact h.room

/-- A change elsewhere keeps the words of a frame. -/
lemma FrameOk.only {m m' : ByteMemory} {q : τ} {ctx : Context} (h : FrameOk L m q ctx)
    {A : Area τ} (hm : L.Only A m m') (hA : .stack q ≠ A) : FrameOk L m' q ctx :=
  h.of_agreeOn ((hm _ hA).mono (frame_sub_stack h.room))

/-- A change elsewhere keeps a frame. -/
lemma Saved.only {m m' : ByteMemory} {q : τ} {ctx : Context} (h : Saved L m q ctx) {A : Area τ}
    (hm : L.Only A m m') (hstack : .stack q ≠ A) (hptr : .stkPtr q ≠ A) : Saved L m' q ctx :=
  ⟨h.toFrameOk.only hm hstack, (hm.stkPtr hptr).trans h.stkPtr⟩

/-- The registers are those of a context. -/
structure Matches (ctx : Context) (c : Cpu) : Prop where
  x : c.x = ctx.x
  sp : c.sp = ctx.sp
  pc : c.pc = ctx.pc
  pstate : ∀ p, ctx.pstate = some p → c.pstate = p

/-- Loading the frame brings the context back. -/
lemma Saved.matches {c : Cpu} {q : τ} {ctx : Context} (h : Saved L c.mem q ctx) :
    Matches ctx (c.loadFrame (L.stkPtr c.mem q)) := by
  rw [h.stkPtr]
  constructor
  · funext r
    exact h.x r
  · show ctx.sp - BitVec.ofNat 64 ctxSize + BitVec.ofNat 64 ctxSize = ctx.sp
    exact BitVec.sub_add_cancel _ _
  · exact h.pc
  · exact h.pstate

/-! ## Moves -/

/-- `SAVE_CONTEXT` of the current task writes its frame. -/
lemma frameOk_frameWords {q : τ} {c : Cpu} (h : L.HasRoom q c.sp) (m : ByteMemory)
    (spsr elr : BitVec 64) (ctx : Context) (hx : ctx.x = c.x) (hsp : ctx.sp = c.sp)
    (hpc : ctx.pc = elr) (hp : ∀ p, ctx.pstate = some p → p = spsr) :
    FrameOk L (m.writeWords ctx.frame (frameWords c spsr elr)) q ctx ∧
      L.Only (.stack q) m (m.writeWords ctx.frame (frameWords c spsr elr)) := by
  obtain ⟨hwx, hw0, hw1⟩ := word_frameWords m ctx.frame c spsr elr
  have hroom : L.HasRoom q ctx.sp := by
    rw [hsp]
    exact h
  refine ⟨⟨fun r => ?_, ?_, fun p hpp => ?_, hroom⟩, ?_⟩
  · rw [hwx, hx]
  · rw [hw1, hpc]
  · rw [hw0, hp p hpp]
  · exact Layout.only_of_sub (frame_sub_stack hroom) fun r' hr' => agreeOn_frameWords hr'

/-- `OSTCBCur->OSTCBStkPtr` is set to the frame of the current task. -/
lemma saved_stkPtrMem {q : τ} {m : ByteMemory} {ctx : Context} (h : FrameOk L m q ctx)
    (hcur : m.read64 (L.sym .osTcbCur) = L.tcb q) :
    Saved L (stkPtrMem L.sym m ctx.frame) q ctx ∧
      L.Only (.stkPtr q) m (stkPtrMem L.sym m ctx.frame) := by
  have honly : L.Only (.stkPtr q) m (stkPtrMem L.sym m ctx.frame) := by
    rw [stkPtrMem, hcur]
    exact L.only_write64_stkPtr q m ctx.frame
  refine ⟨⟨h.only honly (by simp), ?_⟩, honly⟩
  rw [stkPtrMem, hcur]
  exact read64_write64_self m _ _

/-- `OSPrioCur = OSPrioHighRdy` and `OSTCBCur = OSTCBHighRdy` keep every frame. -/
lemma Saved.highRdyMem {q : τ} {m : ByteMemory} {ctx : Context} (h : Saved L m q ctx) :
    Saved L (highRdyMem L.sym m) q ctx := by
  have h₁ := h.only (L.only_write8_var (s := .osPrioCur) rfl m (m (L.sym .osPrioHighRdy))) (by simp)
    (by simp)
  exact h₁.only (L.only_write64_var rfl _ _) (by simp) (by simp)

/-- `OSTCBCur` points to the TCB to which `OSTCBHighRdy` pointed. -/
lemma read64_highRdyMem (L : Layout τ) (m : ByteMemory) :
    (Port.highRdyMem L.sym m).read64 (L.sym .osTcbCur) = m.read64 (L.sym .osTcbHighRdy) := by
  unfold Port.highRdyMem
  rw [read64_write64_self]
  exact (L.only_write8_var rfl m _).read64_var rfl (by simp)

/-- The context with which a task starts. -/
def firstContext (L : Layout τ) (q : τ) : Context :=
  ⟨firstX L.osTaskReturn (L.pArg q), fun _ => 0, pAligned (L.ptos q), L.task q, some 5⟩

/-- The aligned top of a stack is inside it, at most 15 bytes below its end. -/
lemma height_pAligned (L : Layout τ) (q : τ) :
    L.height q (pAligned (L.ptos q)) ≤ (L.stack q).size ∧
      (L.stack q).size ≤ L.height q (pAligned (L.ptos q)) + 15 ∧
        (pAligned (L.ptos q)).toNat % 16 = 0 := by
  have hge := L.stack_ge q
  have hlt := L.stack_lt q
  have htop : L.ptos q + 8 = (L.stack q).base + BitVec.ofNat 64 (L.stack q).size :=
    BitVec.sub_add_cancel _ _
  have halign : (pAligned (L.ptos q)).toNat = _ := toNat_align (L.ptos q + 8)
  have hge' : 288 ≤ (L.stack q).size := hge
  have hlt' : (L.stack q).size < 18446744073709551616 := hlt
  have hb := (L.stack q).base.isLt
  rw [htop, BitVec.toNat_add, BitVec.toNat_ofNat] at halign
  simp only [Layout.height, BitVec.toNat_sub, halign]
  omega

/-- The stack of a new task has room for its frame. -/
lemma hasRoom_firstContext (L : Layout τ) (q : τ) : L.HasRoom q (firstContext L q).sp := by
  obtain ⟨h₁, h₂, -⟩ := height_pAligned L q
  have hge : 288 ≤ (L.stack q).size := L.stack_ge q
  refine ⟨?_, h₁⟩
  show ctxSize ≤ L.height q (pAligned (L.ptos q))
  unfold ctxSize
  omega

/-- The creation of a task: its first frame is there, and the frames of the others are kept. -/
lemma saved_taskCreate (L : Layout τ) (q : τ) (m : ByteMemory) :
    Saved L (taskCreate L q m) q (firstContext L q) ∧
      (∀ p ctx, p ≠ q → Saved L m p ctx → Saved L (taskCreate L q m) p ctx) ∧
      ∀ s : Symbol, s.size = 8 → (taskCreate L q m).read64 (L.sym s) = m.read64 (L.sym s) := by
  set f := (firstContext L q).frame with hf
  set m₁ := m.writeWords f (stkInitWords L.osTaskReturn (L.task q) (L.pArg q)) with hm₁
  have hm : taskCreate L q m = m₁.write64 (L.tcb q) f := rfl
  have h₁ : L.Only (.stack q) m m₁ :=
    Layout.only_of_sub (frame_sub_stack (hasRoom_firstContext L q)) fun r' hr' =>
      agreeOn_stkInitWords hr'
  have h₂ : L.Only (.stkPtr q) m₁ (m₁.write64 (L.tcb q) f) := L.only_write64_stkPtr q m₁ f
  obtain ⟨hwx, hw0, hw1⟩ := word_stkInitWords m f L.osTaskReturn (L.task q) (L.pArg q)
  rw [hm]
  refine ⟨⟨FrameOk.only ?_ h₂ (by simp), read64_write64_self m₁ _ _⟩, fun p ctx hp hs => ?_,
    fun s hs => ?_⟩
  · refine ⟨hwx, hw1, fun p hp => ?_, hasRoom_firstContext L q⟩
    have hp' : p = 5 := (Option.some_inj.mp hp).symm
    rw [hp']
    exact hw0
  · exact (hs.only h₁ (by simp [hp]) (by simp)).only h₂ (by simp) (by simp [hp])
  · exact (h₂.read64_var hs (by simp)).trans (h₁.read64_var hs (by simp))

/-! ## The invariant -/

/-- The context in which a task is to resume. -/
def Record.context (L : Layout τ) (q : τ) : Record → Option Context
  | .absent => none
  | .fresh => some (firstContext L q)
  | .lost ctx => some ctx

/-- **The invariant.** Every task that is switched out has its context in its frame; `OSTCBCur`
points to the TCB of the task that runs or that the handler will resume; a task that runs has room
on its stack; and a task that has just resumed has its context. -/
structure PortInv (L : Layout τ) (s : PortState τ) : Prop where
  saved : ∀ q ctx, (s.record q).context L q = some ctx → s.mode ≠ .task q →
    Saved L s.cpu.mem q ctx
  current : ∀ p, s.mode = .task p ∨ s.mode = .irq p →
    (s.record p).created = true ∧ s.cpu.mem.read64 (L.sym .osTcbCur) = L.tcb p
  room : ∀ p, s.mode = .task p → L.HasRoom p s.cpu.sp
  resumed : ∀ q, s.resumed = some q →
    s.mode = .task q ∧ ∃ ctx, (s.record q).context L q = some ctx ∧ Matches ctx s.cpu

variable {s : PortState τ}

/-- A created task has a context. -/
lemma Record.context_of_created {r : Record} (h : r.created = true) (q : τ) :
    ∃ ctx, r.context L q = some ctx := by
  cases r with
  | absent => simp [Record.created] at h
  | fresh => exact ⟨_, rfl⟩
  | lost ctx => exact ⟨_, rfl⟩

/-- A task with a context has been created. -/
lemma Record.created_of_context {r : Record} {q : τ} {ctx : Context}
    (h : r.context L q = some ctx) : r.created = true := by
  cases r with
  | absent => simp [Record.context] at h
  | fresh => rfl
  | lost ctx => rfl

/-- A step of code outside the port that keeps the memory. -/
lemma PortInv.code (h : PortInv L s) {c : Cpu} (hmem : c.mem = s.cpu.mem)
    (hsp : ∀ p, s.mode = .task p → L.HasRoom p c.sp) : PortInv L (s.code c) := by
  constructor
  · intro q ctx hq hne
    show Saved L c.mem q ctx
    rw [hmem]
    exact h.saved q ctx hq hne
  · intro p hp
    refine ⟨(h.current p hp).1, ?_⟩
    show c.mem.read64 _ = _
    rw [hmem]
    exact (h.current p hp).2
  · exact hsp
  · intro q hq
    cases hq

/-- **A task resumes.** The frames are in memory, and `OSTCBCur` points to the TCB of the task that
is to resume. -/
lemma portInv_resume {c : Cpu} {record : τ → Record} {q : τ}
    (hsaved : ∀ p ctx, (record p).context L p = some ctx → Saved L c.mem p ctx)
    (hcreated : (record q).created = true) (hcur : c.mem.read64 (L.sym .osTcbCur) = L.tcb q) :
    PortInv L ⟨c.loadFrame (c.mem.read64 (c.mem.read64 (L.sym .osTcbCur))), .task q, record,
      some q⟩ := by
  obtain ⟨ctx, hctx⟩ := Record.context_of_created (L := L) hcreated q
  have hq := hsaved q ctx hctx
  have hmatch := hq.matches
  rw [hcur]
  constructor
  · intro p ctx' hp _
    exact hsaved p ctx' hp
  · intro p hp
    obtain rfl : q = p := by
      rcases hp with hp | hp
      · exact Mode.task.inj hp
      · cases hp
    exact ⟨hcreated, hcur⟩
  · intro p hp
    obtain rfl : q = p := Mode.task.inj hp
    show L.HasRoom q (c.loadFrame (L.stkPtr c.mem q)).sp
    rw [hmatch.sp]
    exact hq.room
  · intro p hp
    obtain rfl : q = p := Option.some_inj.mp hp
    exact ⟨rfl, ctx, hctx, hmatch⟩

/-! ## The steps -/

/-- `OSStartHighRdy` -/
lemma PortInv.start (h : PortInv L s) {q : τ} (hmode : s.mode = .boot) (hq : s.highRdy L q) :
    PortInv L ⟨execCode L.sym s.cpu osStartHighRdy, .task q, s.record, some q⟩ := by
  have honly : L.Only (.var .osRunning) s.cpu.mem (s.cpu.mem.write8 (L.sym .osRunning) 1) :=
    L.only_write8_var rfl _ _
  rw [exec_osStartHighRdy L.sym s.cpu rfl]
  apply portInv_resume
  · intro p ctx hp
    have hs := h.saved p ctx hp (by rw [hmode]; simp)
    exact (hs.only honly (by simp) (by simp)).highRdyMem
  · exact hq.1
  · show (highRdyMem L.sym _).read64 _ = _
    rw [read64_highRdyMem, honly.read64_var rfl (by simp)]
    exact hq.2

/-- The frames of the other tasks are there while a task runs. -/
lemma PortInv.others (h : PortInv L s) {p : τ} (hmode : s.mode = .task p) {q : τ} (hq : q ≠ p)
    {ctx : Context} (hctx : (s.record q).context L q = some ctx) : Saved L s.cpu.mem q ctx := by
  apply h.saved q ctx hctx
  rw [hmode]
  intro he
  exact hq (Mode.task.inj he).symm

/-- `OSIntCtxSw` -/
lemma PortInv.intCtxSw (h : PortInv L s) {p q : τ} (hmode : s.mode = .irq p)
    (hq : s.highRdy L q) : PortInv L ⟨execCode L.sym s.cpu osIntCtxSw, .irq q, s.record, none⟩ := by
  obtain ⟨hmem, -⟩ := exec_osIntCtxSw L.sym s.cpu
  constructor
  · intro r ctx hr _
    show Saved L (execCode L.sym s.cpu osIntCtxSw).mem r ctx
    rw [hmem]
    exact (h.saved r ctx hr (by rw [hmode]; simp)).highRdyMem
  · intro r hr
    obtain rfl : q = r := by
      rcases hr with hr | hr
      · cases hr
      · exact Mode.irq.inj hr
    refine ⟨hq.1, ?_⟩
    show (execCode L.sym s.cpu osIntCtxSw).mem.read64 _ = _
    rw [hmem, read64_highRdyMem]
    exact hq.2
  · intro r hr
    cases hr
  · intro r hr
    cases hr

/-- **The handler resumes the task to whose TCB `OSTCBCur` points.** -/
lemma PortInv.irqExit (h : PortInv L s) {p : τ} (hmode : s.mode = .irq p) :
    PortInv L ⟨execCode L.sym s.cpu exceptIrqReturn, .task p, s.record, some p⟩ := by
  obtain ⟨hcreated, hcur⟩ := h.current p (Or.inr hmode)
  rw [exec_exceptIrqReturn]
  exact portInv_resume (fun r ctx hr => h.saved r ctx hr (by rw [hmode]; simp)) hcreated hcur

/-- A write of a byte outside the frame and `OSTCBStkPtr`. -/
lemma Saved.write8 {m : ByteMemory} {q : τ} {ctx : Context} (h : Saved L m q ctx) {a : BitVec 64}
    (hframe : ¬ (Port.frame (L.stkPtr m q)).Mem a) (hptr : ¬ (L.region (.stkPtr q)).Mem a)
    (v : BitVec 8) : Saved L (m.write8 a v) q ctx := by
  rw [h.stkPtr] at hframe
  have hagree : AgreeOn (L.region (.stkPtr q)) m (m.write8 a v) := agreeOn_write8 hptr
  rw [L.region_stkPtr] at hagree
  exact ⟨h.toFrameOk.of_agreeOn (agreeOn_write8 hframe), (read64_of_agreeOn hagree).trans h.stkPtr⟩

/-- A store of code outside the port. -/
lemma PortInv.store (h : PortInv L s) {a : BitVec 64} (ha : ¬ s.reserved L a) (v : BitVec 8) :
    PortInv L (s.code { s.cpu with mem := s.cpu.mem.write8 a v }) := by
  have hcur : s.mode ≠ .boot → ¬ (L.region (.var .osTcbCur)).Mem a :=
    fun hmode hmem => ha (Or.inl ⟨hmode, hmem⟩)
  constructor
  · intro q ctx hq hne
    have hcreated := Record.created_of_context hq
    apply (h.saved q ctx hq hne).write8
    · exact fun hmem => ha (Or.inr (Or.inr ⟨q, ⟨hcreated, hne⟩, hmem⟩))
    · exact fun hmem => ha (Or.inr (Or.inl ⟨q, hcreated, hmem⟩))
  · intro p hp
    refine ⟨(h.current p hp).1, ?_⟩
    have hmode : s.mode ≠ .boot := by
      intro hb
      have hp' : s.mode = .task p ∨ s.mode = .irq p := hp
      rw [hb] at hp'
      simp at hp'
    have hagree : AgreeOn (L.region (.var .osTcbCur)) s.cpu.mem (s.cpu.mem.write8 a v) :=
      agreeOn_write8 (hcur hmode)
    rw [L.region_var] at hagree
    exact (read64_of_agreeOn hagree).trans (h.current p hp).2
  · exact h.room
  · intro q hq
    cases hq

end

section

variable {τ : Type} [DecidableEq τ] {L : Layout τ} {s t : PortState τ}

/-- The task that runs loses the processor in a context, and the frames of the others are there. -/
lemma PortInv.lost_cases (h : PortInv L s) {p : τ} (hmode : s.mode = .task p) {ctx ctx' : Context}
    {r : τ} (hr : (Function.update s.record p (.lost ctx) r).context L r = some ctx') :
    (r = p ∧ ctx = ctx') ∨ (r ≠ p ∧ Saved L s.cpu.mem r ctx') := by
  by_cases hrp : r = p
  · subst hrp
    rw [Function.update_self] at hr
    exact Or.inl ⟨rfl, Option.some_inj.mp hr⟩
  · rw [Function.update_of_ne hrp] at hr
    exact Or.inr ⟨hrp, h.others hmode hrp hr⟩

/-- **A voluntary switch.** -/
lemma PortInv.ctxSw (h : PortInv L s) {p q : τ} (hmode : s.mode = .task p) (hq : s.highRdy L q) :
    PortInv L ⟨execCode L.sym s.cpu osCtxSw, .task q, Function.update s.record p
      (.lost ⟨s.cpu.x, s.cpu.v, s.cpu.sp, s.cpu.x 30, none⟩), some q⟩ := by
  set ctx : Context := ⟨s.cpu.x, s.cpu.v, s.cpu.sp, s.cpu.x 30, none⟩ with hctx
  obtain ⟨hframe, honly₁⟩ := frameOk_frameWords (h.room p hmode) s.cpu.mem 0x00000205 (s.cpu.x 30)
    ctx rfl rfl rfl (by simp [hctx])
  set m₁ := s.cpu.mem.writeWords ctx.frame (frameWords s.cpu 0x00000205 (s.cpu.x 30)) with hm₁
  have hcur₁ : m₁.read64 (L.sym .osTcbCur) = L.tcb p :=
    (honly₁.read64_var rfl (by simp)).trans (h.current p (Or.inl hmode)).2
  obtain ⟨hsaved, honly₂⟩ := saved_stkPtrMem hframe hcur₁
  rw [exec_osCtxSw L.sym s.cpu rfl rfl]
  apply portInv_resume
  · intro r ctx' hr
    rcases h.lost_cases hmode hr with ⟨rfl, rfl⟩ | ⟨hrp, hs⟩
    · exact hsaved.highRdyMem
    · exact ((hs.only honly₁ (by simp [hrp]) (by simp)).only honly₂ (by simp)
        (by simp [hrp])).highRdyMem
  · by_cases hqp : q = p
    · subst hqp
      rw [Function.update_self]
      rfl
    · rw [Function.update_of_ne hqp]
      exact hq.1
  · show (highRdyMem L.sym _).read64 _ = _
    rw [read64_highRdyMem]
    exact (honly₂.read64_var rfl (by simp)).trans ((honly₁.read64_var rfl (by simp)).trans hq.2)

/-- **An IRQ takes the processor from a task.** -/
lemma PortInv.irqEnter (h : PortInv L s) {p : τ} (hmode : s.mode = .task p)
    (hfirst : s.cpu.mem (L.sym .osIntNesting) = 0) :
    PortInv L ⟨exceptIrqHndlr L.sym (takeIrq s.cpu), .irq p, Function.update s.record p
      (.lost ⟨s.cpu.x, s.cpu.v, s.cpu.sp, s.cpu.pc, some s.cpu.pstate⟩), none⟩ := by
  set ctx : Context := ⟨s.cpu.x, s.cpu.v, s.cpu.sp, s.cpu.pc, some s.cpu.pstate⟩ with hctx
  obtain ⟨hframe, honly₁⟩ := frameOk_frameWords (c := takeIrq s.cpu) (h.room p hmode) s.cpu.mem
    s.cpu.pstate s.cpu.pc ctx rfl rfl rfl (by simp [hctx])
  set m₁ := s.cpu.mem.writeWords ctx.frame
    (frameWords (takeIrq s.cpu) s.cpu.pstate s.cpu.pc) with hm₁
  have hfirst₁ : m₁ (L.sym .osIntNesting) = 0 := (honly₁.byte_var rfl (by simp)).trans hfirst
  have honly₂ : L.Only (.var .osIntNesting) m₁ (m₁.write8 (L.sym .osIntNesting) 1) :=
    L.only_write8_var rfl m₁ 1
  set m₂ := m₁.write8 (L.sym .osIntNesting) 1 with hm₂
  have hcur₂ : m₂.read64 (L.sym .osTcbCur) = L.tcb p :=
    (honly₂.read64_var rfl (by simp)).trans
      ((honly₁.read64_var rfl (by simp)).trans (h.current p (Or.inl hmode)).2)
  obtain ⟨hsaved, honly₃⟩ := saved_stkPtrMem (hframe.only honly₂ (by simp)) hcur₂
  have hmem : (exceptIrqHndlr L.sym (takeIrq s.cpu)).mem = stkPtrMem L.sym m₂ ctx.frame :=
    (exceptIrqHndlr_eq L.sym (takeIrq s.cpu) rfl rfl hfirst₁).1
  constructor
  · intro r ctx' hr _
    show Saved L (exceptIrqHndlr L.sym (takeIrq s.cpu)).mem r ctx'
    rw [hmem]
    rcases h.lost_cases hmode hr with ⟨rfl, rfl⟩ | ⟨hrp, hs⟩
    · exact hsaved
    · exact ((hs.only honly₁ (by simp [hrp]) (by simp)).only honly₂ (by simp) (by simp)).only honly₃
        (by simp) (by simp [hrp])
  · intro r hr
    obtain rfl : p = r := by
      rcases hr with hr | hr
      · cases hr
      · exact Mode.irq.inj hr
    refine ⟨?_, ?_⟩
    · show (Function.update s.record p (.lost ctx) p).created = true
      rw [Function.update_self]
      rfl
    · show (exceptIrqHndlr L.sym (takeIrq s.cpu)).mem.read64 _ = _
      rw [hmem]
      exact (honly₃.read64_var rfl (by simp)).trans hcur₂
  · intro r hr
    cases hr
  · intro r hr
    cases hr

/-- The creation of a task. -/
lemma PortInv.create (h : PortInv L s) {q : τ} (hq : (s.record q).created = false) :
    PortInv L { s.code { s.cpu with mem := taskCreate L q s.cpu.mem } with
      record := Function.update s.record q .fresh } := by
  obtain ⟨hfirst, hothers, hvar⟩ := saved_taskCreate L q s.cpu.mem
  constructor
  · intro p ctx hp hne
    have hp' : (Function.update s.record q .fresh p).context L p = some ctx := hp
    by_cases hpq : p = q
    · subst hpq
      rw [Function.update_self] at hp'
      obtain rfl := Option.some_inj.mp hp'
      exact hfirst
    · rw [Function.update_of_ne hpq] at hp'
      exact hothers p ctx hpq (h.saved p ctx hp' hne)
  · intro p hp
    obtain ⟨hcreated, hcur⟩ := h.current p hp
    have hpq : p ≠ q := by
      rintro rfl
      rw [hq] at hcreated
      cases hcreated
    refine ⟨?_, (hvar .osTcbCur rfl).trans hcur⟩
    show (Function.update s.record q .fresh p).created = true
    rw [Function.update_of_ne hpq]
    exact hcreated
  · exact h.room
  · intro p hp
    cases hp

end

section

variable {τ : Type} [Fintype τ] [DecidableEq τ] {L : Layout τ} {s t : PortState τ}

/-- **Every step keeps the invariant.** -/
lemma PortInv.step (h : PortInv L s) {a : PortAction τ} (hstep : portStep L s a = some t) :
    PortInv L t := by
  cases portRule_of_portStep hstep with
  | code c hmem hv hsp =>
    refine h.code hmem fun p hp => ?_
    rcases hsp with hsp | hsp
    · rw [hsp]
      exact h.room p hp
    · exact hsp p hp
  | setV v => exact h.code rfl h.room
  | store a v ha => exact h.store ha v
  | create q hq => exact h.create hq
  | start q hmode hq => exact h.start hmode hq
  | ctxSw p q hmode hq => exact h.ctxSw hmode hq
  | irqEnter p hmode hfirst => exact h.irqEnter hmode hfirst
  | intCtxSw p q hmode hq => exact h.intCtxSw hmode hq
  | irqExit p hmode => exact h.irqExit hmode

/-! ## Context preservation -/

omit [Fintype τ] [DecidableEq τ] in
/-- Before any task is created. -/
lemma portInv_portInit (L : Layout τ) (c : Cpu) : PortInv L (portInit c) := by
  constructor
  · intro q ctx hq
    cases hq
  · intro p hp
    rcases hp with hp | hp <;> cases hp
  · intro p hp
    cases hp
  · intro q hq
    cases hq

/-- What a task finds when it resumes. The first time: `p_arg` in `x0`, `OS_TaskReturn` in `x30`,
the task function in the program counter, IRQs unmasked, and an aligned stack pointer inside its
stack. Afterwards: its registers, and its `PSTATE` if an IRQ took the processor. -/
def Restored (L : Layout τ) (q : τ) (c : Cpu) : Record → Prop
  | .absent => False
  | .fresh =>
    c.x 0 = L.pArg q ∧ c.x 30 = L.osTaskReturn ∧ c.pc = L.task q ∧ irqMasked c.pstate = false ∧
      c.sp.toNat % 16 = 0 ∧ L.height q c.sp ≤ (L.stack q).size ∧
        (L.stack q).size ≤ L.height q c.sp + 15
  | .lost ctx =>
    c.x = ctx.x ∧ c.sp = ctx.sp ∧ c.pc = ctx.pc ∧ ∀ p, ctx.pstate = some p → c.pstate = p

omit [Fintype τ] [DecidableEq τ] in
/-- A processor that matches the context of a task has it restored. -/
lemma restored_of_matches {q : τ} {r : Record} {ctx : Context} {c : Cpu}
    (hctx : r.context L q = some ctx) (h : Matches ctx c) : Restored L q c r := by
  cases r with
  | absent => cases hctx
  | fresh =>
    obtain rfl := Option.some_inj.mp hctx
    obtain ⟨h₁, h₂, h₃⟩ := height_pAligned L q
    refine ⟨?_, ?_, h.pc, ?_, ?_, ?_, ?_⟩
    · rw [h.x]
      rfl
    · rw [h.x]
      rfl
    · rw [h.pstate 5 rfl]
      decide
    · rw [h.sp]
      exact h₃
    · rw [h.sp]
      exact h₁
    · rw [h.sp]
      exact h₂
  | lost ctx' =>
    obtain rfl := Option.some_inj.mp hctx
    exact ⟨h.x, h.sp, h.pc, h.pstate⟩

/-- **Context preservation.** Whenever a step of any run has resumed a task, by `OSStartHighRdy`, by
`OSCtxSw` or by the return of the interrupt handler, that task runs, `OSTCBCur` points to its TCB,
and it finds what it had when it lost the processor, or what it was created with.

**Proof sketch.** The invariant `PortInv` holds in every reachable state. A frame is written where
the task that loses the processor has room for it, in its own stack, so every other frame stays;
and the three ways to resume load the frame to which `OSTCBCur->OSTCBStkPtr` points. -/
theorem context_preservation (L : Layout τ) (c : Cpu)
    (h : Reachable (portStep L) (portInit c) s) {q : τ} (hq : s.resumed = some q) :
    s.mode = .task q ∧ s.cpu.mem.read64 (L.sym .osTcbCur) = L.tcb q ∧
      Restored L q s.cpu (s.record q) := by
  have hinv : PortInv L s :=
    h.invariant (fun _ _ _ hs hstep => hs.step hstep) (portInv_portInit L c)
  obtain ⟨hmode, ctx, hctx, hmatch⟩ := hinv.resumed q hq
  exact ⟨hmode, (hinv.current q (Or.inl hmode)).2, restored_of_matches hctx hmatch⟩

end

/-! ## Two tasks -/

/-- Where the areas of two tasks are, in pages. -/
def Area.page : Area (Fin 2) → ℕ
  | .stack q => q
  | .stkPtr q => 2 + q
  | .var .osRunning => 4
  | .var .osPrioCur => 5
  | .var .osPrioHighRdy => 6
  | .var .osTcbCur => 7
  | .var .osTcbHighRdy => 8
  | .var .osIntNesting => 9
  | .var .exceptStkBase => 10

/-- The sizes of the areas of two tasks, with stacks of 512 words. -/
def Area.size : Area (Fin 2) → ℕ
  | .stack _ => 4096
  | .stkPtr _ => 8
  | .var s => s.size

/-- Every area fits in a page. -/
lemma Area.size_le (a : Area (Fin 2)) : a.size ≤ 4096 := by
  cases a with
  | stack q => exact le_refl 4096
  | stkPtr q => exact (by decide : 8 ≤ 4096)
  | var s => cases s <;> decide

/-- There are at most eleven pages. -/
lemma Area.page_le (a : Area (Fin 2)) : a.page ≤ 10 := by
  cases a with
  | stack q =>
    simp only [Area.page]
    omega
  | stkPtr q =>
    simp only [Area.page]
    omega
  | var s => cases s <;> decide

/-- The pages of the variables come after those of the tasks. -/
lemma Area.page_var (s : Symbol) : 4 ≤ (Area.var s : Area (Fin 2)).page := by
  cases s <;> decide

/-- No two areas are in one page. -/
lemma Area.page_injective {a b : Area (Fin 2)} (h : a.page = b.page) : a = b := by
  cases a with
  | stack p =>
    cases b with
    | stack q => exact congrArg Area.stack (Fin.ext h)
    | stkPtr q =>
      simp only [Area.page] at h
      omega
    | var s =>
      have hs := Area.page_var s
      rw [← h] at hs
      simp only [Area.page] at hs
      omega
  | stkPtr p =>
    cases b with
    | stack q =>
      simp only [Area.page] at h
      omega
    | stkPtr q =>
      simp only [Area.page] at h
      exact congrArg Area.stkPtr (Fin.ext (by omega))
    | var s =>
      have hs := Area.page_var s
      rw [← h] at hs
      simp only [Area.page] at hs
      omega
  | var s =>
    have hs := Area.page_var s
    cases b with
    | stack q =>
      rw [h] at hs
      simp only [Area.page] at hs
      omega
    | stkPtr q =>
      rw [h] at hs
      simp only [Area.page] at hs
      omega
    | var s' => cases s <;> cases s' <;> first | rfl | (simp [Area.page] at h)

/-- Two tasks with stacks of 512 words. -/
def twoStacks : Layout (Fin 2) where
  region a := ⟨BitVec.ofNat 64 (0x40000000 + 4096 * a.page), a.size⟩
  disjoint a b hab := by
    have ha := a.size_le
    have hb := b.size_le
    have ha' := a.page_le
    have hb' := b.page_le
    rcases Nat.lt_trichotomy a.page b.page with h | h | h
    · exact Region.disjoint_of_le (by omega) (by omega)
    · exact absurd (Area.page_injective h) hab
    · exact (Region.disjoint_of_le (by omega) (by omega)).symm
  stack_ge _ := (by decide : 288 ≤ 4096)
  stack_lt _ := (by decide : 4096 < 2 ^ 64)
  stkPtr_size _ := rfl
  var_size _ := rfl
  task q := BitVec.ofNat 64 (0x40100000 + 256 * q)
  pArg _ := 0
  osTaskReturn := 0x40200000

/-- The processor before multitasking, when `OSTCBHighRdy` points to the TCB of the first task. -/
def bootCpu : Cpu :=
  ⟨fun _ => 0, fun _ => 0, 0, 0, 0, 0, 0,
    write64 (fun _ => 0) (twoStacks.sym .osTcbHighRdy) (twoStacks.tcb 0)⟩

/-- A store after which `OSTCBHighRdy` points to the TCB of a task. -/
def setHighRdy (q : Fin 2) : PortAction (Fin 2) :=
  .store (twoStacks.sym .osTcbHighRdy + 1) (BitVec.ofNat 8 (0x20 + 0x10 * q))

/-- Both tasks are created and the first one is started. -/
def startRun : List (PortAction (Fin 2)) := [.create 0, .create 1, .start 0]

/-- An IRQ takes the processor from the first task and gives it to the second one, which gives it
back by a voluntary switch. -/
def preemptRun : List (PortAction (Fin 2)) :=
  startRun ++ [.setX 19 7, .irqEnter, setHighRdy 1, .intCtxSw 1, .irqExit, .setX 19 0, setHighRdy 0,
    .ctxSw 0]

/-- The first task after the run. -/
theorem context_preservation_preempt :
    ∃ s, exec (portStep twoStacks) (portInit bootCpu) preemptRun = some s ∧
      Restored twoStacks 0 s.cpu (s.record 0) := by
  have hobs : (exec (portStep twoStacks) (portInit bootCpu) preemptRun).map PortState.resumed =
      some (some 0) := by decide +kernel
  obtain ⟨s, hs, hq⟩ := Option.map_eq_some_iff.mp hobs
  exact ⟨s, hs, (context_preservation twoStacks bootCpu ⟨preemptRun, hs⟩ hq).2.2⟩

end Port
