import Mathlib.Data.Fintype.Basic
import Mathlib.Data.List.FinRange
import Mathlib.Tactic.FinCases
import UcosArm64.Port.OsCpu

set_option relaxedAutoImplicit false
set_option autoImplicit false

/-!
# The frame of a task that is switched out

What the macros and functions of the port do to the registers and the memory. A frame has 34 words:
SPSR, ELR, the registers `x30` down to `x0`, and a word of padding.

## Main definitions

* `Port.slot`, `Port.word` — the layout of a frame.
* `Port.Cpu.loadFrame` — the processor after `RESTORE_AND_ERET`.

## Main results

* `Port.exec_saveContext`, `Port.exec_restoreAndEret` — the macros.
* `Port.exec_osCtxSw`, `Port.exec_osStartHighRdy`, `Port.exec_osIntCtxSw`,
  `Port.exceptIrqHndlr_eq`, `Port.exec_exceptIrqReturn` — the functions.
* `Port.word_frameWords`, `Port.word_stkInitWords` — the words of the frames that the assembly and
  `OSTaskStkInit` write.
-/

namespace Port

/-! ## The frame -/

/-- The place of a general-purpose register in a frame. -/
def slot (r : Fin 31) : ℕ := 32 - r

/-- The word at a place of a frame. -/
def word (m : ByteMemory) (f : BitVec 64) (k : ℕ) : BitVec 64 :=
  m.read64 (f + BitVec.ofNat 64 (8 * k))

/-- The words that `SAVE_CONTEXT` writes. -/
def gprWords (x : Fin 31 → BitVec 64) : List (ℕ × BitVec 64) :=
  (List.finRange 31).map fun i => (slot i.rev, x i.rev)

/-- The processor after `RESTORE_AND_ERET` from the frame `f`. -/
def Cpu.loadFrame (c : Cpu) (f : BitVec 64) : Cpu :=
  { c with
    x := fun r => word c.mem f (slot r)
    sp := f + BitVec.ofNat 64 ctxSize
    pc := word c.mem f 1
    pstate := word c.mem f 0
    spsr := word c.mem f 0
    elr := word c.mem f 1 }

/-- The memory after `OSPrioCur = OSPrioHighRdy` and `OSTCBCur = OSTCBHighRdy`. -/
def highRdyMem (sym : Symbol → BitVec 64) (m : ByteMemory) : ByteMemory :=
  let m := m.write8 (sym .osPrioCur) (m (sym .osPrioHighRdy))
  m.write64 (sym .osTcbCur) (m.read64 (sym .osTcbHighRdy))

/-- The memory after `OSTCBCur->OSTCBStkPtr = f`. -/
def stkPtrMem (sym : Symbol → BitVec 64) (m : ByteMemory) (f : BitVec 64) : ByteMemory :=
  m.write64 (m.read64 (sym .osTcbCur)) f

variable (sym : Symbol → BitVec 64)

/-- One piece of code after the other. -/
lemma execCode_append (c : Cpu) (l l' : List Instr) :
    execCode sym c (l ++ l') = execCode sym (execCode sym c l) l' := List.foldl_append ..

/-- The words of the general registers, written out. -/
lemma gprWords_eq (x : Fin 31 → BitVec 64) :
    gprWords x = [(2, x 30), (3, x 29), (4, x 28), (5, x 27), (6, x 26), (7, x 25), (8, x 24),
      (9, x 23), (10, x 22), (11, x 21), (12, x 20), (13, x 19), (14, x 18), (15, x 17), (16, x 16),
      (17, x 15), (18, x 14), (19, x 13), (20, x 12), (21, x 11), (22, x 10), (23, x 9), (24, x 8),
      (25, x 7), (26, x 6), (27, x 5), (28, x 4), (29, x 3), (30, x 2), (31, x 1), (32, x 0)] := rfl

/-- `SAVE_CONTEXT` writes a frame below the stack pointer. -/
lemma exec_saveContext (c : Cpu) :
    execCode sym c saveContext =
      { c with
        sp := c.sp - BitVec.ofNat 64 ctxSize
        mem := c.mem.writeWords (c.sp - BitVec.ofNat 64 ctxSize) (gprWords c.x) } := by
  simp only [execCode, saveContext, List.foldl_cons, List.foldl_nil, Instr.exec,
    Cpu.spOff, gprWords_eq, ByteMemory.writeWords, ctxX30, Nat.reduceAdd, Nat.reduceMul]

/-- `RESTORE_AND_ERET` loads the frame at the stack pointer. -/
lemma exec_restoreAndEret (c : Cpu) : execCode sym c restoreAndEret = c.loadFrame c.sp := by
  have hx : (execCode sym c restoreAndEret).x = fun r => word c.mem c.sp (slot r) := by
    funext r
    fin_cases r <;> rfl
  rw [Cpu.loadFrame, ← hx]
  rfl

/-! ## The functions -/

/-- `OSTCBCur->OSTCBStkPtr = sp` -/
lemma exec_saveStkPtr (c : Cpu) :
    (execCode sym c saveStkPtr).mem = stkPtrMem sym c.mem c.sp ∧
      (execCode sym c saveStkPtr).v = c.v ∧ (execCode sym c saveStkPtr).sp = c.sp :=
  ⟨rfl, rfl, rfl⟩

/-- `x2` points to the TCB that has become the current one. -/
lemma exec_highRdyToCur (c : Cpu) :
    (execCode sym c highRdyToCur).mem = highRdyMem sym c.mem ∧
    (execCode sym c highRdyToCur).v = c.v ∧
      (execCode sym c highRdyToCur).x 2 = (highRdyMem sym c.mem).read64 (sym .osTcbCur) := by
  have hbyte : ((c.mem (sym .osPrioHighRdy)).setWidth 64).setWidth 8 = c.mem (sym .osPrioHighRdy) :=
    by rw [BitVec.setWidth_setWidth_of_le _ (by decide), BitVec.setWidth_eq]
  simp [execCode, highRdyToCur, Instr.exec, highRdyMem, hbyte]

/-- `sp` becomes the stack pointer in the TCB that `x2` points to. -/
lemma exec_loadStkPtr (c : Cpu) :
    (execCode sym c loadStkPtr).mem = c.mem ∧ (execCode sym c loadStkPtr).v = c.v ∧
      (execCode sym c loadStkPtr).sp = c.mem.read64 (c.x 2) := by
  simp [execCode, loadStkPtr, Instr.exec]

/-- `RESTORE_AND_ERET` replaces all but the vector registers and the memory. -/
lemma loadFrame_congr {c d : Cpu} (hv : c.v = d.v) (hmem : c.mem = d.mem) (f : BitVec 64) :
    c.loadFrame f = d.loadFrame f := by
  simp only [Cpu.loadFrame, hv, hmem]

/-- The end of `OSStartHighRdy` and `OSCtxSw`. -/
lemma exec_resumeHighRdy (c : Cpu) :
    execCode sym c (highRdyToCur ++ loadStkPtr ++ restoreAndEret) =
      { c with mem := highRdyMem sym c.mem }.loadFrame ((highRdyMem sym c.mem).read64
        ((highRdyMem sym c.mem).read64 (sym .osTcbCur))) := by
  obtain ⟨hmem, hv, hx⟩ := exec_highRdyToCur sym c
  obtain ⟨hmem', hv', hsp⟩ := exec_loadStkPtr sym (execCode sym c highRdyToCur)
  rw [execCode_append, execCode_append, exec_restoreAndEret, hsp, hmem, hx]
  apply loadFrame_congr
  · exact hv'.trans hv
  · exact hmem'.trans hmem

/-- `OSStartHighRdy` -/
lemma exec_osStartHighRdy (c : Cpu) {m : ByteMemory}
    (hm : m = highRdyMem sym (c.mem.write8 (sym .osRunning) 1)) :
    execCode sym c osStartHighRdy =
      { c with mem := m }.loadFrame (m.read64 (m.read64 (sym .osTcbCur))) := by
  have hsplit : osStartHighRdy = [.ldrSymbol 0 .osRunning, .movImm 1 1, .strb 1 0] ++
      (highRdyToCur ++ loadStkPtr ++ restoreAndEret) := rfl
  subst hm
  rw [hsplit, execCode_append, exec_resumeHighRdy]
  have hmem : (execCode sym c [.ldrSymbol 0 .osRunning, .movImm 1 1, .strb 1 0]).mem =
      c.mem.write8 (sym .osRunning) 1 := by
    simp [execCode, Instr.exec]
  rw [hmem]
  exact loadFrame_congr rfl rfl _

/-- The words of the frame of a task that was switched out. -/
def frameWords (c : Cpu) (spsr elr : BitVec 64) : List (ℕ × BitVec 64) :=
  gprWords c.x ++ [(0, spsr), (1, elr)]

/-- `SAVE_CONTEXT` and `SAVE_SPSR_FOR_TASK_SW` -/
lemma exec_saveForTaskSw (c : Cpu) :
    (execCode sym c (saveContext ++ saveSpsrForTaskSw)).mem =
        c.mem.writeWords (c.sp - BitVec.ofNat 64 ctxSize) (frameWords c 0x00000205 (c.x 30)) ∧
      (execCode sym c (saveContext ++ saveSpsrForTaskSw)).v = c.v ∧
      (execCode sym c (saveContext ++ saveSpsrForTaskSw)).sp = c.sp - BitVec.ofNat 64 ctxSize := by
  rw [execCode_append, exec_saveContext]
  simp [execCode, saveSpsrForTaskSw, Instr.exec, frameWords, ByteMemory.writeWords,
    Cpu.spOff, ctxSpsr, ctxElr]

/-- `SAVE_CONTEXT` and `SAVE_SPSR_FROM_IRQ` -/
lemma exec_saveFromIrq (c : Cpu) :
    (execCode sym c (saveContext ++ saveSpsrFromIrq)).mem =
        c.mem.writeWords (c.sp - BitVec.ofNat 64 ctxSize) (frameWords c c.spsr c.elr) ∧
      (execCode sym c (saveContext ++ saveSpsrFromIrq)).v = c.v ∧
      (execCode sym c (saveContext ++ saveSpsrFromIrq)).sp = c.sp - BitVec.ofNat 64 ctxSize := by
  rw [execCode_append, exec_saveContext]
  simp [execCode, saveSpsrFromIrq, Instr.exec, frameWords, ByteMemory.writeWords,
    Cpu.spOff, ctxSpsr, ctxElr]

/-- `OSCtxSw` -/
lemma exec_osCtxSw (c : Cpu) {f : BitVec 64} {m : ByteMemory}
    (hf : f = c.sp - BitVec.ofNat 64 ctxSize)
    (hm : m = highRdyMem sym (stkPtrMem sym
      (c.mem.writeWords f (frameWords c 0x00000205 (c.x 30))) f)) :
    execCode sym c osCtxSw =
      { c with mem := m }.loadFrame (m.read64 (m.read64 (sym .osTcbCur))) := by
  have hsplit : osCtxSw = (saveContext ++ saveSpsrForTaskSw) ++ (saveStkPtr ++
      (highRdyToCur ++ loadStkPtr ++ restoreAndEret)) := by
    simp [osCtxSw]
  obtain ⟨hmem, hv, hsp⟩ := exec_saveForTaskSw sym c
  rw [hsplit, execCode_append, execCode_append, exec_resumeHighRdy]
  generalize execCode sym c (saveContext ++ saveSpsrForTaskSw) = d at *
  obtain ⟨hmem', hv', -⟩ := exec_saveStkPtr sym d
  generalize execCode sym d saveStkPtr = e at *
  rw [hmem, hsp, ← hf] at hmem'
  rw [hmem', ← hm]
  apply loadFrame_congr
  · exact hv'.trans hv
  · rfl

/-- `OSIntCtxSw` -/
lemma exec_osIntCtxSw (c : Cpu) :
    (execCode sym c osIntCtxSw).mem = highRdyMem sym c.mem ∧
    (execCode sym c osIntCtxSw).v = c.v := by
  have h := exec_highRdyToCur sym c
  rw [osIntCtxSw, execCode_append]
  exact ⟨h.1, h.2.1⟩

/-- The flag Z after a comparison. -/
lemma getLsbD_nzcv (p : BitVec 64) (a b : BitVec 32) :
    (p &&& 0xFFFFFFFF0FFFFFFF ||| nzcv a b <<< 28).getLsbD 30 = decide (a = b) := by
  have hz : (nzcv a b).getLsbD 2 = decide (a = b) := by
    unfold nzcv
    split_ifs <;> simp_all
  rw [BitVec.getLsbD_or, BitVec.getLsbD_and, BitVec.getLsbD_shiftLeft, hz]
  simp

/-- The handler up to its branch: the frame is written, and the nesting counter is incremented. The
branch compares the incremented counter before it is truncated to a byte. -/
lemma exec_exceptIrqEntry (c : Cpu) {f : BitVec 64} {m : ByteMemory}
    (hf : f = c.sp - BitVec.ofNat 64 ctxSize)
    (hm : m = c.mem.writeWords f (frameWords c c.spsr c.elr)) :
    (execCode sym c exceptIrqEntry).mem =
        m.write8 (sym .osIntNesting) (m (sym .osIntNesting) + 1) ∧
      (execCode sym c exceptIrqEntry).v = c.v ∧ (execCode sym c exceptIrqEntry).sp = f ∧
      ((execCode sym c exceptIrqEntry).isEq = true ↔ m (sym .osIntNesting) = 0) := by
  obtain ⟨hmem, hv, hsp⟩ := exec_saveFromIrq sym c
  rw [← hf] at hmem hsp
  rw [← hm] at hmem
  set d := execCode sym c (saveContext ++ saveSpsrFromIrq) with hd
  have hde : execCode sym c exceptIrqEntry = execCode sym d [.ldrSymbol 0 .osIntNesting, .ldrb 1 0,
      .addW 1 1 1, .strb 1 0, .cmpW 1 1] := by
    rw [hd, exceptIrqEntry, execCode_append]
  have hbyte : ∀ n : BitVec 8, (n.setWidth 32 + 1#32).setWidth 8 = n + 1#8 := fun n => by
    rw [BitVec.setWidth_add _ _ (by decide), BitVec.setWidth_setWidth_of_le _ (by decide),
      BitVec.setWidth_eq]
    rfl
  have hzero : ∀ n : BitVec 8, n.setWidth 32 = 0#32 ↔ n = 0#8 := fun n => by
    rw [← BitVec.toNat_inj, ← BitVec.toNat_inj, BitVec.toNat_setWidth_of_le (by decide)]
    rfl
  rw [hde]
  refine ⟨?_, ?_, ?_, ?_⟩
  · simp [execCode, Instr.exec, hmem, hbyte]
  · simpa [execCode, Instr.exec] using hv
  · simpa [execCode, Instr.exec] using hsp
  · simp only [execCode, List.foldl_cons, List.foldl_nil, Instr.exec, Cpu.isEq, getLsbD_nzcv]
    simp [hmem, hzero]

/-- **The handler, on a first-level interrupt.** -/
lemma exceptIrqHndlr_eq (c : Cpu) {f : BitVec 64} {m : ByteMemory}
    (hf : f = c.sp - BitVec.ofNat 64 ctxSize)
    (hm : m = c.mem.writeWords f (frameWords c c.spsr c.elr)) (h : m (sym .osIntNesting) = 0) :
    (exceptIrqHndlr sym c).mem = stkPtrMem sym (m.write8 (sym .osIntNesting) 1) f ∧
      (exceptIrqHndlr sym c).v = c.v := by
  obtain ⟨hmem, hv, hsp, heq⟩ := exec_exceptIrqEntry sym c hf hm
  have hfirst : exceptIrqHndlr sym c =
      execCode sym (execCode sym c exceptIrqEntry) exceptIrqFirstLevel := if_pos (heq.mpr h)
  rw [hfirst, exceptIrqFirstLevel, execCode_append]
  obtain ⟨hmem', hv', -⟩ := exec_saveStkPtr sym (execCode sym c exceptIrqEntry)
  rw [hmem, hsp, h] at hmem'
  constructor
  · simpa [execCode, Instr.exec] using hmem'
  · simpa [execCode, Instr.exec] using hv'.trans hv

/-- **The handler, on a nested interrupt**: the frame stays on the stack of the interrupted
handler. -/
lemma exceptIrqHndlr_nested (c : Cpu) {f : BitVec 64} {m : ByteMemory}
    (hf : f = c.sp - BitVec.ofNat 64 ctxSize)
    (hm : m = c.mem.writeWords f (frameWords c c.spsr c.elr)) (h : m (sym .osIntNesting) ≠ 0) :
    (exceptIrqHndlr sym c).mem = m.write8 (sym .osIntNesting) (m (sym .osIntNesting) + 1) ∧
      (exceptIrqHndlr sym c).sp = f := by
  obtain ⟨hmem, -, hsp, heq⟩ := exec_exceptIrqEntry sym c hf hm
  have hnested : exceptIrqHndlr sym c = execCode sym c exceptIrqEntry := if_neg (mt heq.mp h)
  rw [hnested]
  exact ⟨hmem, hsp⟩

/-- The end of the handler. -/
lemma exec_exceptIrqReturn (c : Cpu) :
    execCode sym c exceptIrqReturn = c.loadFrame (c.mem.read64 (c.mem.read64 (sym .osTcbCur))) := by
  rw [exceptIrqReturn, execCode_append, exec_restoreAndEret]
  rfl

/-! ## The words of a frame -/

/-- The 34 words of a frame. -/
def frame (f : BitVec 64) : Region := ⟨f, 8 * 34⟩

/-- The slot of a register lies in the frame. -/
lemma slot_lt (r : Fin 31) : slot r < 34 := by
  unfold slot
  omega

/-- A word of a frame depends on the frame only. -/
lemma word_of_agreeOn {m m' : ByteMemory} {f : BitVec 64} (h : ByteMemory.AgreeOn (frame f) m m')
    {k : ℕ} (hk : k < 34) : word m' f k = word m f k := by
  apply ByteMemory.read64_of_agreeOn
  apply h.mono
  apply Region.sub_of_offset (r := frame f) (by show 8 * 34 < 2 ^ 64; decide)
  show (f + BitVec.ofNat 64 (8 * k) - f).toNat + 8 ≤ 8 * 34
  bv_omega

/-- **The frame that the assembly writes.** -/
lemma word_frameWords (m : ByteMemory) (f : BitVec 64) (c : Cpu) (spsr elr : BitVec 64) :
    (∀ r, word (m.writeWords f (frameWords c spsr elr)) f (slot r) = c.x r) ∧
      word (m.writeWords f (frameWords c spsr elr)) f 0 = spsr ∧
      word (m.writeWords f (frameWords c spsr elr)) f 1 = elr := by
  have hkeys : (frameWords c spsr elr).map Prod.fst = List.range' 2 31 ++ [0, 1] := rfl
  have hlt : ∀ e ∈ frameWords c spsr elr, e.1 < 34 := by
    intro e he
    have hmem : e.1 ∈ List.range' 2 31 ++ [0, 1] := hkeys ▸ List.mem_map_of_mem he
    have hall : ∀ k ∈ List.range' 2 31 ++ [0, 1], k < 34 := by decide
    exact hall _ hmem
  have hread : ∀ e ∈ frameWords c spsr elr,
      word (m.writeWords f (frameWords c spsr elr)) f e.1 = e.2 := fun e he =>
    ByteMemory.read64_writeWords hlt (by decide) (by rw [hkeys]; decide) he
  refine ⟨fun r => hread (slot r, c.x r) ?_, hread (0, spsr) ?_, hread (1, elr) ?_⟩
  · apply List.mem_append_left
    exact List.mem_map.mpr ⟨r.rev, List.mem_finRange _, by rw [Fin.rev_rev]⟩
  · simp [frameWords]
  · simp [frameWords]

/-- A frame lies where it is written. -/
lemma agreeOn_frameWords {m : ByteMemory} {f : BitVec 64} {c : Cpu} {spsr elr : BitVec 64}
    {r : Region} (h : (frame f).Disjoint r) :
    ByteMemory.AgreeOn r m (m.writeWords f (frameWords c spsr elr)) := by
  refine ByteMemory.agreeOn_writeWords (n := 34) (fun e he => ?_) (by decide) h
  have hmem : e.1 ∈ List.range' 2 31 ++ [0, 1] := List.mem_map_of_mem (f := Prod.fst) he
  have hall : ∀ k ∈ List.range' 2 31 ++ [0, 1], k < 34 := by decide
  exact hall _ hmem

/-- The registers that `OSTaskStkInit` gives a task. -/
def firstX (osTaskReturn pArg : BitVec 64) (r : Fin 31) : BitVec 64 :=
  if r = 0 then pArg else if r = 30 then osTaskReturn else 0

/-- **The frame that `OSTaskStkInit` builds.** -/
lemma word_stkInitWords (m : ByteMemory) (f osTaskReturn task pArg : BitVec 64) :
    (∀ r, word (m.writeWords f (stkInitWords osTaskReturn task pArg)) f (slot r) =
        firstX osTaskReturn pArg r) ∧
      word (m.writeWords f (stkInitWords osTaskReturn task pArg)) f 0 = 5 ∧
      word (m.writeWords f (stkInitWords osTaskReturn task pArg)) f 1 = task := by
  have hkeys : (stkInitWords osTaskReturn task pArg).map Prod.fst = List.range 34 := rfl
  have hlt : ∀ e ∈ stkInitWords osTaskReturn task pArg, e.1 < 34 := by
    intro e he
    have hmem : e.1 ∈ List.range 34 := hkeys ▸ List.mem_map_of_mem he
    exact List.mem_range.mp hmem
  have hread : ∀ e ∈ stkInitWords osTaskReturn task pArg,
      word (m.writeWords f (stkInitWords osTaskReturn task pArg)) f e.1 = e.2 := fun e he =>
    ByteMemory.read64_writeWords hlt (by decide) (by rw [hkeys]; exact List.nodup_range) he
  refine ⟨fun r => hread (slot r, firstX osTaskReturn pArg r) ?_, hread (0, 5) ?_,
    hread (1, task) ?_⟩
  · fin_cases r <;> simp [stkInitWords, slot, firstX]
  · simp [stkInitWords]
  · simp [stkInitWords]

/-- `OSTaskStkInit` writes to the frame only. -/
lemma agreeOn_stkInitWords {m : ByteMemory} {f osTaskReturn task pArg : BitVec 64} {r : Region}
    (h : (frame f).Disjoint r) :
    ByteMemory.AgreeOn r m (m.writeWords f (stkInitWords osTaskReturn task pArg)) := by
  refine ByteMemory.agreeOn_writeWords (n := 34) (fun e he => ?_) (by decide) h
  have hmem : e.1 ∈ List.range 34 := List.mem_map_of_mem (f := Prod.fst) he
  exact List.mem_range.mp hmem

/-- Aligning down to 16 bytes. -/
lemma toNat_align (a : BitVec 64) :
    (a &&& ~~~(0x0F : BitVec 64)).toNat = a.toNat - a.toNat % 16 := by
  have hmask : ~~~(0x0F : BitVec 64) = BitVec.allOnes 64 <<< 4 := by decide
  have hshift : a &&& BitVec.allOnes 64 <<< 4 = a >>> 4 <<< 4 := by
    apply BitVec.eq_of_getLsbD_eq
    intro i hi
    simp only [BitVec.getLsbD_and, BitVec.getLsbD_shiftLeft, BitVec.getLsbD_allOnes,
      BitVec.getLsbD_ushiftRight]
    by_cases h : i < 4
    · simp [h]
    · have hlt : i - 4 < 64 := by omega
      have hsub : 4 + (i - 4) = i := by omega
      simp [h, hi, hsub, hlt]
  rw [hmask, hshift, BitVec.toNat_shiftLeft, BitVec.toNat_ushiftRight, Nat.shiftLeft_eq,
    Nat.shiftRight_eq_div_pow]
  have ha := a.isLt
  omega

end Port
