import Mathlib.Algebra.GroupWithZero.Nat
import Mathlib.Logic.Function.Basic
import UcosArm64.Foundations.ByteMemory

set_option relaxedAutoImplicit false
set_option autoImplicit false

/-!
# The code of the port

The instructions that `os_cpu_a.S` uses, its macros and functions as lists of these, and
`OSTaskStkInit` of `os_cpu_c.c`, which builds the first frame of a task.

## Main definitions

* `Port.Cpu`, `Port.Instr`, `Port.Instr.exec`, `Port.execCode` — the processor.
* `Port.saveContext`, `Port.restoreAndEret`, `Port.osStartHighRdy`, `Port.osCtxSw`,
  `Port.osIntCtxSw`, `Port.exceptIrqHndlr`, `Port.exceptIrqReturn` — the code.
* `Port.osTaskStkInit` — the first frame of a task.

## Design

The program counter inside the port's own code is not tracked: `pc` is that of the interrupted or
calling code, and what `ret` and `eret` make of it. The calls of `irq_dispatch` and `OSIntExit` in
the handler are where its code is cut; the C code that runs there is not part of the port.
-/

namespace Port

/-! ## The processor -/

/-- The variables that the code names. -/
inductive Symbol
  | osRunning
  | osPrioCur
  | osPrioHighRdy
  | osTcbCur
  | osTcbHighRdy
  | osIntNesting
  | exceptStkBase
  deriving DecidableEq

/-- The numerals of the general-purpose registers. -/
instance neZeroGpr : NeZero 31 := ⟨by decide⟩

/-- The general-purpose registers `x0 .. x30`, the SIMD and FP registers `v0 .. v31`, `sp`, `pc`,
`PSTATE` in the layout of `SPSR_EL1`, `SPSR_EL1`, `ELR_EL1`, and the memory. -/
structure Cpu where
  x : Fin 31 → BitVec 64
  v : Fin 32 → BitVec 128
  sp : BitVec 64
  pc : BitVec 64
  pstate : BitVec 64
  spsr : BitVec 64
  elr : BitVec 64
  mem : ByteMemory

/-- The instructions. The ones on `w` registers are those that end in `W`, `ldrb` and `strb`. -/
inductive Instr
  /-- `sub sp, sp, #imm` -/
  | subSp (imm : ℕ)
  /-- `add sp, sp, #imm` -/
  | addSp (imm : ℕ)
  /-- `stp xt, xt2, [sp, #imm]` -/
  | stp (t t2 : Fin 31) (imm : ℕ)
  /-- `ldp xt, xt2, [sp, #imm]` -/
  | ldp (t t2 : Fin 31) (imm : ℕ)
  /-- `str xt, [sp, #imm]` -/
  | strSp (t : Fin 31) (imm : ℕ)
  /-- `ldr xt, [sp, #imm]` -/
  | ldrSp (t : Fin 31) (imm : ℕ)
  /-- `mrs xt, spsr_el1` -/
  | mrsSpsr (t : Fin 31)
  /-- `mrs xt, elr_el1` -/
  | mrsElr (t : Fin 31)
  /-- `msr spsr_el1, xt` -/
  | msrSpsr (t : Fin 31)
  /-- `msr elr_el1, xt` -/
  | msrElr (t : Fin 31)
  /-- `mov xd, #imm`, and `mov wd, #imm` -/
  | movImm (d : Fin 31) (imm : BitVec 64)
  /-- `mov xd, xn` -/
  | mov (d n : Fin 31)
  /-- `mov xd, sp` -/
  | movFromSp (d : Fin 31)
  /-- `mov sp, xn` -/
  | movToSp (n : Fin 31)
  /-- `ldr xt, =symbol` -/
  | ldrSymbol (t : Fin 31) (s : Symbol)
  /-- `ldr xt, [xn]` -/
  | ldr (t n : Fin 31)
  /-- `str xt, [xn]` -/
  | str (t n : Fin 31)
  /-- `ldrb wt, [xn]` -/
  | ldrb (t n : Fin 31)
  /-- `strb wt, [xn]` -/
  | strb (t n : Fin 31)
  /-- `add wd, wn, #imm` -/
  | addW (d n : Fin 31) (imm : BitVec 32)
  /-- `cmp wn, #imm` -/
  | cmpW (n : Fin 31) (imm : BitVec 32)
  /-- `ret` -/
  | ret
  /-- `eret` -/
  | eret

/-- Write a general-purpose register. -/
def Cpu.setX (c : Cpu) (d : Fin 31) (v : BitVec 64) : Cpu :=
  { c with x := Function.update c.x d v }

/-- The general registers after a write to one of them. -/
@[simp] lemma setX_x (c : Cpu) (d r : Fin 31) (v : BitVec 64) :
    (c.setX d v).x r = if r = d then v else c.x r := Function.update_apply ..

/-- A write to a general register leaves the vector registers alone. -/
@[simp] lemma setX_v (c : Cpu) (d : Fin 31) (v : BitVec 64) : (c.setX d v).v = c.v := rfl

/-- A write to a general register leaves the stack pointer alone. -/
@[simp] lemma setX_sp (c : Cpu) (d : Fin 31) (v : BitVec 64) : (c.setX d v).sp = c.sp := rfl

/-- A write to a general register leaves the program counter alone. -/
@[simp] lemma setX_pc (c : Cpu) (d : Fin 31) (v : BitVec 64) : (c.setX d v).pc = c.pc := rfl

/-- A write to a general register leaves the state of the processor alone. -/
@[simp] lemma setX_pstate (c : Cpu) (d : Fin 31) (v : BitVec 64) :
    (c.setX d v).pstate = c.pstate := rfl

/-- A write to a general register leaves the saved state alone. -/
@[simp] lemma setX_spsr (c : Cpu) (d : Fin 31) (v : BitVec 64) : (c.setX d v).spsr = c.spsr := rfl

/-- A write to a general register leaves the return address alone. -/
@[simp] lemma setX_elr (c : Cpu) (d : Fin 31) (v : BitVec 64) : (c.setX d v).elr = c.elr := rfl

/-- A write to a general register leaves the memory alone. -/
@[simp] lemma setX_mem (c : Cpu) (d : Fin 31) (v : BitVec 64) : (c.setX d v).mem = c.mem := rfl

/-- `[sp, #imm]` -/
def Cpu.spOff (c : Cpu) (imm : ℕ) : BitVec 64 := c.sp + BitVec.ofNat 64 imm

/-- The condition flags N, Z, C and V of a comparison. -/
def nzcv (a b : BitVec 32) : BitVec 64 :=
  (if (a - b).msb then 8 else 0) ||| (if a = b then 4 else 0) ||| (if b ≤ a then 2 else 0) |||
    if BitVec.ssubOverflow a b then 1 else 0

/-- The condition `eq`: the flag Z. -/
def Cpu.isEq (c : Cpu) : Bool := c.pstate.getLsbD 30

/-- IRQs are masked: the bit I of `PSTATE`. -/
def irqMasked (pstate : BitVec 64) : Bool := pstate.getLsbD 7

/-- One instruction, given the addresses of the symbols. -/
def Instr.exec (sym : Symbol → BitVec 64) (c : Cpu) : Instr → Cpu
  | .subSp imm => { c with sp := c.sp - BitVec.ofNat 64 imm }
  | .addSp imm => { c with sp := c.sp + BitVec.ofNat 64 imm }
  | .stp t t2 imm =>
    { c with mem := (c.mem.write64 (c.spOff imm) (c.x t)).write64 (c.spOff (imm + 8)) (c.x t2) }
  | .ldp t t2 imm =>
    (c.setX t (c.mem.read64 (c.spOff imm))).setX t2 (c.mem.read64 (c.spOff (imm + 8)))
  | .strSp t imm => { c with mem := c.mem.write64 (c.spOff imm) (c.x t) }
  | .ldrSp t imm => c.setX t (c.mem.read64 (c.spOff imm))
  | .mrsSpsr t => c.setX t c.spsr
  | .mrsElr t => c.setX t c.elr
  | .msrSpsr t => { c with spsr := c.x t }
  | .msrElr t => { c with elr := c.x t }
  | .movImm d imm => c.setX d imm
  | .mov d n => c.setX d (c.x n)
  | .movFromSp d => c.setX d c.sp
  | .movToSp n => { c with sp := c.x n }
  | .ldrSymbol t s => c.setX t (sym s)
  | .ldr t n => c.setX t (c.mem.read64 (c.x n))
  | .str t n => { c with mem := c.mem.write64 (c.x n) (c.x t) }
  | .ldrb t n => c.setX t ((c.mem (c.x n)).setWidth 64)
  | .strb t n => { c with mem := c.mem.write8 (c.x n) ((c.x t).setWidth 8) }
  | .addW d n imm => c.setX d (((c.x n).setWidth 32 + imm).setWidth 64)
  | .cmpW n imm =>
    { c with pstate := c.pstate &&& 0xFFFFFFFF0FFFFFFF ||| nzcv ((c.x n).setWidth 32) imm <<< 28 }
  | .ret => { c with pc := c.x 30 }
  | .eret => { c with pc := c.elr, pstate := c.spsr }

/-- Straight-line code. -/
def execCode (sym : Symbol → BitVec 64) (c : Cpu) (code : List Instr) : Cpu :=
  code.foldl (Instr.exec sym) c

/-! ## The code -/

/-- `CTX_SIZE` -/
def ctxSize : ℕ := 34 * 8

/-- `CTX_SPSR` -/
def ctxSpsr : ℕ := 0

/-- `CTX_ELR` -/
def ctxElr : ℕ := 8

/-- `CTX_X30` -/
def ctxX30 : ℕ := 16

/-- `SAVE_CONTEXT` -/
def saveContext : List Instr := [
  .subSp ctxSize,
  .stp 30 29 ctxX30,
  .stp 28 27 (ctxX30 + 16),
  .stp 26 25 (ctxX30 + 32),
  .stp 24 23 (ctxX30 + 48),
  .stp 22 21 (ctxX30 + 64),
  .stp 20 19 (ctxX30 + 80),
  .stp 18 17 (ctxX30 + 96),
  .stp 16 15 (ctxX30 + 112),
  .stp 14 13 (ctxX30 + 128),
  .stp 12 11 (ctxX30 + 144),
  .stp 10 9 (ctxX30 + 160),
  .stp 8 7 (ctxX30 + 176),
  .stp 6 5 (ctxX30 + 192),
  .stp 4 3 (ctxX30 + 208),
  .stp 2 1 (ctxX30 + 224),
  .strSp 0 (ctxX30 + 240)]

/-- `SAVE_SPSR_FROM_IRQ` -/
def saveSpsrFromIrq : List Instr := [
  .mrsSpsr 0,
  .strSp 0 ctxSpsr,
  .mrsElr 0,
  .strSp 0 ctxElr]

/-- `SAVE_SPSR_FOR_TASK_SW` -/
def saveSpsrForTaskSw : List Instr := [
  .movImm 0 0x00000205,
  .strSp 0 ctxSpsr,
  .mov 0 30,
  .strSp 0 ctxElr]

/-- `RESTORE_AND_ERET` -/
def restoreAndEret : List Instr := [
  .ldrSp 9 ctxSpsr,
  .msrSpsr 9,
  .ldrSp 9 ctxElr,
  .msrElr 9,
  .ldp 30 29 ctxX30,
  .ldp 28 27 (ctxX30 + 16),
  .ldp 26 25 (ctxX30 + 32),
  .ldp 24 23 (ctxX30 + 48),
  .ldp 22 21 (ctxX30 + 64),
  .ldp 20 19 (ctxX30 + 80),
  .ldp 18 17 (ctxX30 + 96),
  .ldp 16 15 (ctxX30 + 112),
  .ldp 14 13 (ctxX30 + 128),
  .ldp 12 11 (ctxX30 + 144),
  .ldp 10 9 (ctxX30 + 160),
  .ldp 8 7 (ctxX30 + 176),
  .ldp 6 5 (ctxX30 + 192),
  .ldp 4 3 (ctxX30 + 208),
  .ldp 2 1 (ctxX30 + 224),
  .ldrSp 0 (ctxX30 + 240),
  .addSp ctxSize,
  .eret]

/-- `OSTCBCur->OSTCBStkPtr = sp`, in `OSCtxSw` and the handler. -/
def saveStkPtr : List Instr := [
  .ldrSymbol 0 .osTcbCur,
  .ldr 1 0,
  .movFromSp 2,
  .str 2 1]

/-- `OSPrioCur = OSPrioHighRdy` and `OSTCBCur = OSTCBHighRdy`, in `OSStartHighRdy`, `OSCtxSw` and
`OSIntCtxSw`. -/
def highRdyToCur : List Instr := [
  .ldrSymbol 0 .osPrioCur,
  .ldrSymbol 1 .osPrioHighRdy,
  .ldrb 2 1,
  .strb 2 0,
  .ldrSymbol 0 .osTcbCur,
  .ldrSymbol 1 .osTcbHighRdy,
  .ldr 2 1,
  .str 2 0]

/-- `sp` is that of the task whose TCB is in `x2`, in `OSStartHighRdy` and `OSCtxSw`. -/
def loadStkPtr : List Instr := [
  .ldr 3 2,
  .movToSp 3]

/-- `OSStartHighRdy` -/
def osStartHighRdy : List Instr :=
  [.ldrSymbol 0 .osRunning,
    .movImm 1 1,
    .strb 1 0] ++ highRdyToCur ++ loadStkPtr ++ restoreAndEret

/-- `OSCtxSw` -/
def osCtxSw : List Instr :=
  saveContext ++ saveSpsrForTaskSw ++ saveStkPtr ++ highRdyToCur ++ loadStkPtr ++ restoreAndEret

/-- `OSIntCtxSw` -/
def osIntCtxSw : List Instr := highRdyToCur ++ [.ret]

/-- `OS_CPU_ARM_ExceptIrqHndlr` up to its branch. -/
def exceptIrqEntry : List Instr :=
  saveContext ++ saveSpsrFromIrq ++ [
    .ldrSymbol 0 .osIntNesting,
    .ldrb 1 0,
    .addW 1 1 1,
    .strb 1 0,
    .cmpW 1 1]

/-- What `OS_CPU_ARM_ExceptIrqHndlr` does for a first-level interrupt only. -/
def exceptIrqFirstLevel : List Instr :=
  saveStkPtr ++ [
    .ldrSymbol 0 .exceptStkBase,
    .ldr 1 0,
    .movToSp 1]

/-- `OS_CPU_ARM_ExceptIrqHndlr` up to its call of `irq_dispatch`. -/
def exceptIrqHndlr (sym : Symbol → BitVec 64) (c : Cpu) : Cpu :=
  let c := execCode sym c exceptIrqEntry
  if c.isEq then execCode sym c exceptIrqFirstLevel else c

/-- `OS_CPU_ARM_ExceptIrqHndlr` after its call of `OSIntExit`. -/
def exceptIrqReturn : List Instr :=
  [.ldrSymbol 0 .osTcbCur,
    .ldr 1 0,
    .ldr 2 1,
    .movToSp 2] ++ restoreAndEret

/-- What the processor does on an IRQ before it branches to the handler: it saves `PSTATE` and the
address of the interrupted instruction, and masks D, A, I and F. -/
def takeIrq (c : Cpu) : Cpu :=
  { c with spsr := c.pstate, elr := c.pc, pstate := c.pstate ||| 0x3C0 }

/-- What `OSTaskStkInit` stores into `p_stk[0] .. p_stk[33]`: SPSR, ELR, X30 down to X0, and the
padding. -/
def stkInitWords (osTaskReturn task pArg : BitVec 64) : List (ℕ × BitVec 64) := [
  (0, 0x0000000000000005), (1, task), (2, osTaskReturn), (3, 0), (4, 0), (5, 0), (6, 0), (7, 0),
  (8, 0), (9, 0), (10, 0), (11, 0), (12, 0), (13, 0), (14, 0), (15, 0), (16, 0), (17, 0), (18, 0),
  (19, 0), (20, 0), (21, 0), (22, 0), (23, 0), (24, 0), (25, 0), (26, 0), (27, 0), (28, 0), (29, 0),
  (30, 0), (31, 0), (32, pArg), (33, 0)]

/-- `p_aligned` of `OSTaskStkInit` -/
def pAligned (ptos : BitVec 64) : BitVec 64 := (ptos + 8) &&& ~~~(0x0F : BitVec 64)

/-- `OSTaskStkInit`: the memory with the frame, and the stack pointer it returns. -/
def osTaskStkInit (osTaskReturn task pArg ptos : BitVec 64) (m : ByteMemory) :
    ByteMemory × BitVec 64 :=
  let pStk := pAligned ptos - BitVec.ofNat 64 (34 * 8)
  (m.writeWords pStk (stkInitWords osTaskReturn task pArg), pStk)

end Port
