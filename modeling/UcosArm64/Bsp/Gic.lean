import Mathlib.Data.UInt
import UcosArm64.Foundations.RegisterBank
import UcosArm64.Foundations.Transition

set_option relaxedAutoImplicit false
set_option autoImplicit false

/-!
# Enabling interrupts in the GIC

`BSP_IntSrcEn` of `bsp/bsp_int.c` and `gic_enable_spi_interrupt` of `bsp/gic.c`, over the registers
of the distributor of a GICv3 that they access. Three of the four banks are indexed by the
interrupt; the fourth, `GICD_IROUTER`, is indexed by the code as if it began with interrupt 32,
which is not where it begins.

## Main definitions

* `Bsp.Gicd` — the registers of the distributor.
* `Bsp.gicdWord`, `Bsp.gicdByte` — the register map.
* `Bsp.gicEnableSpiInterrupt`, `Bsp.bspIntSrcEn` — the code.
* `Bsp.SourcesEnabled` — the named interrupts are enabled, and the others are as before.
* `Bsp.RoutesAgree` — the routes that make up for the wrong index.

## Main results

* `Bsp.bspIntSrcEn_eq` — what a call writes.
* `Bsp.run_enabled`, `Bsp.run_group`, `Bsp.run_priority`, `Bsp.run_route` — what a sequence of
  calls writes.
* `Bsp.sourcesEnabled_iff` — when a sequence of calls does what it should.
* `Bsp.not_sourcesEnabled_79` — enabling interrupt 79 clears the route of interrupt 47.

## Design

An access has an effect if it is one that the register map has for its width: words in the group,
enable and route banks, bytes in the priority bank. The words below `GICD_IROUTER32` are reserved,
and writes to them are ignored. Console output is left out.
-/

namespace Bsp

open RegisterBank Transition

/-! ## The distributor -/

/-- `GICD_BASE` -/
def gicdBase : UInt32 := 0x08000000

/-- The number of interrupts that a distributor can have. -/
def gicMaxInterrupts : ℕ := 1020

/-- The registers of the distributor: `GICD_IGROUPR`, `GICD_ISENABLER`, `GICD_IPRIORITYR` by bytes,
and `GICD_IROUTER`. -/
structure Gicd where
  igroupr : Bank 32
  isenabler : Bank 32
  ipriorityr : Bank 8
  irouter : Bank 64

/-- A register that is accessed by words. -/
inductive GicdReg
  | igroupr (n : ℕ)
  | isenabler (n : ℕ)
  | irouterLow (id : ℕ)
  | irouterHigh (id : ℕ)
  deriving DecidableEq

/-- The register map for words. `GICD_IROUTER<id>` exists for the interrupts from 32 on. -/
def gicdWord (addr : UInt32) : Option GicdReg :=
  let offset := (addr - gicdBase).toNat
  if offset % 4 ≠ 0 then none
  else if 0x80 ≤ offset ∧ offset < 0x100 then some (.igroupr ((offset - 0x80) / 4))
  else if 0x100 ≤ offset ∧ offset < 0x180 then some (.isenabler ((offset - 0x100) / 4))
  else if 0x6000 + 8 * 32 ≤ offset ∧ offset < 0x6000 + 8 * gicMaxInterrupts then
    if offset % 8 = 0 then some (.irouterLow ((offset - 0x6000) / 8))
    else some (.irouterHigh ((offset - 0x6000) / 8))
  else none

/-- The register map for bytes: `GICD_IPRIORITYR`. -/
def gicdByte (addr : UInt32) : Option ℕ :=
  let offset := (addr - gicdBase).toNat
  if 0x400 ≤ offset ∧ offset < 0x400 + gicMaxInterrupts then some (offset - 0x400) else none

/-- `mmio_write32` on the distributor. A one written to `GICD_ISENABLER` enables an interrupt. -/
def Gicd.mmioWrite32 (g : Gicd) (addr value : UInt32) : Gicd :=
  match gicdWord addr with
  | some (.igroupr n) => { g with igroupr := Function.update g.igroupr n value.toBitVec }
  | some (.isenabler n) => { g with isenabler := setBits g.isenabler n value.toBitVec }
  | some (.irouterLow id) =>
    { g with irouter := Function.update g.irouter id (writeLow (g.irouter id) value.toBitVec) }
  | some (.irouterHigh id) =>
    { g with irouter := Function.update g.irouter id (writeHigh (g.irouter id) value.toBitVec) }
  | none => g

/-- `mmio_write8` on the distributor. -/
def Gicd.mmioWrite8 (g : Gicd) (addr : UInt32) (value : UInt8) : Gicd :=
  match gicdByte addr with
  | some id => { g with ipriorityr := Function.update g.ipriorityr id value.toBitVec }
  | none => g

/-- `mmio_read32` on the distributor. -/
def Gicd.mmioRead32 (g : Gicd) (addr : UInt32) : UInt32 :=
  match gicdWord addr with
  | some (.igroupr n) => ⟨g.igroupr n⟩
  | some (.isenabler n) => ⟨g.isenabler n⟩
  | some (.irouterLow id) => ⟨(g.irouter id).extractLsb' 0 32⟩
  | some (.irouterHigh id) => ⟨(g.irouter id).extractLsb' 32 32⟩
  | none => 0

/-! ## The code -/

/-- `gic_enable_spi_interrupt` -/
def gicEnableSpiInterrupt (g : Gicd) (intId : UInt32) : Gicd :=
  if intId < 32 then g
  else
    let regOffset := intId / 32 * 4
    let bitOffset := intId % 32
    let regAddr := gicdBase + 0x100 + regOffset
    let g := g.mmioWrite32 regAddr (1 <<< bitOffset)
    let prioRegOffset := intId * 1
    let prioRegAddr := gicdBase + 0x400 + prioRegOffset
    let g := g.mmioWrite8 prioRegAddr 0x80
    let g :=
      if intId ≥ 32 then
        let routerOffset := (intId - 32) * 8
        let routerAddrLow := gicdBase + 0x6000 + routerOffset
        let routerAddrHigh := routerAddrLow + 4
        (g.mmioWrite32 routerAddrLow 0).mmioWrite32 routerAddrHigh 0
      else g
    let groupRegOffset := intId / 32 * 4
    let groupBitOffset := intId % 32
    let groupRegAddr := gicdBase + 0x80 + groupRegOffset
    let groupVal := g.mmioRead32 groupRegAddr
    g.mmioWrite32 groupRegAddr (groupVal ||| (1 <<< groupBitOffset))

/-- `BSP_IntSrcEn` -/
def bspIntSrcEn (g : Gicd) (intId : UInt32) : Gicd :=
  if intId ≥ 32 then gicEnableSpiInterrupt g intId else g

/-! ## What a call writes -/

/-- The offset of an address in a bank. -/
lemma toNat_offset {bank r : UInt32} {b o : ℕ} (hb : bank.toNat = b) (hr : r.toNat = o)
    (h : b + o < 4294967296) : (gicdBase + bank + r - gicdBase).toNat = b + o := by
  rw [UInt32.add_assoc, UInt32.add_comm gicdBase, UInt32.add_sub_cancel, UInt32.toNat_add, hb, hr]
  exact Nat.mod_eq_of_lt h

/-- The interrupts that the distributor has besides those of a single processor. -/
def IsSpi (intId : UInt32) : Prop := 32 ≤ intId ∧ intId ≤ 1019

instance (intId : UInt32) : Decidable (IsSpi intId) := inferInstanceAs (Decidable (_ ∧ _))

section Call

variable {i : UInt32}

/-- The range of the shared peripheral interrupts, in natural numbers. -/
lemma IsSpi.toNat (h : IsSpi i) : 32 ≤ i.toNat ∧ i.toNat ≤ 1019 :=
  ⟨UInt32.le_iff_toNat_le.mp h.1, UInt32.le_iff_toNat_le.mp h.2⟩

/-- The offset of a register with one bit for each interrupt. -/
lemma IsSpi.toNat_bitReg (h : IsSpi i) : (i / 32 * 4).toNat = i.toNat / 32 * 4 := by
  obtain ⟨-, hi⟩ := h.toNat
  rw [UInt32.toNat_mul, UInt32.toNat_div]
  show i.toNat / 32 * 4 % 4294967296 = _
  omega

/-- The register of `GICD_ISENABLER` is that of the interrupt. -/
lemma IsSpi.gicdWord_isenabler (h : IsSpi i) :
    gicdWord (gicdBase + 0x100 + i / 32 * 4) = some (.isenabler (i.toNat / 32)) := by
  obtain ⟨-, hi⟩ := h.toNat
  have hoff : (gicdBase + 0x100 + i / 32 * 4 - gicdBase).toNat = 0x100 + i.toNat / 32 * 4 :=
    toNat_offset rfl h.toNat_bitReg (by omega)
  have hnum : (0x100 + i.toNat / 32 * 4 - 0x100) / 4 = i.toNat / 32 := by omega
  unfold gicdWord
  simp only [hoff]
  rw [if_neg (by omega), if_neg (by omega), if_pos (by omega), hnum]

/-- The register of `GICD_IGROUPR` is that of the interrupt. -/
lemma IsSpi.gicdWord_igroupr (h : IsSpi i) :
    gicdWord (gicdBase + 0x80 + i / 32 * 4) = some (.igroupr (i.toNat / 32)) := by
  obtain ⟨-, hi⟩ := h.toNat
  have hoff : (gicdBase + 0x80 + i / 32 * 4 - gicdBase).toNat = 0x80 + i.toNat / 32 * 4 :=
    toNat_offset rfl h.toNat_bitReg (by omega)
  have hnum : (0x80 + i.toNat / 32 * 4 - 0x80) / 4 = i.toNat / 32 := by omega
  unfold gicdWord
  simp only [hoff]
  rw [if_neg (by omega), if_pos (by omega), hnum]

/-- The byte of `GICD_IPRIORITYR` is that of the interrupt. -/
lemma IsSpi.gicdByte_ipriorityr (h : IsSpi i) :
    gicdByte (gicdBase + 0x400 + i * 1) = some i.toNat := by
  obtain ⟨-, hi⟩ := h.toNat
  have hoff : (gicdBase + 0x400 + i * 1 - gicdBase).toNat = 0x400 + i.toNat :=
    toNat_offset rfl (by rw [UInt32.mul_one]) (by omega)
  have hnum : 0x400 + i.toNat - 0x400 = i.toNat := by omega
  unfold gicdByte gicMaxInterrupts
  simp only [hoff]
  rw [if_pos (by omega), hnum]

/-- The offsets in `GICD_IROUTER` that the code computes. -/
lemma IsSpi.toNat_router (h : IsSpi i) :
    (gicdBase + 0x6000 + (i - 32) * 8 - gicdBase).toNat = 0x6000 + (i.toNat - 32) * 8 ∧
      (gicdBase + 0x6000 + (i - 32) * 8 + 4 - gicdBase).toNat =
        0x6000 + ((i.toNat - 32) * 8 + 4) := by
  obtain ⟨-, hi⟩ := h.toNat
  have hreg : ((i - 32) * 8).toNat = (i.toNat - 32) * 8 := by
    rw [UInt32.toNat_mul, UInt32.toNat_sub_of_le _ _ h.1]
    show (i.toNat - 32) * 8 % 4294967296 = _
    omega
  have hreg' : ((i - 32) * 8 + 4).toNat = (i.toNat - 32) * 8 + 4 := by
    rw [UInt32.toNat_add, hreg]
    show ((i.toNat - 32) * 8 + 4) % 4294967296 = _
    omega
  refine ⟨toNat_offset rfl hreg (by omega), ?_⟩
  rw [UInt32.add_assoc (gicdBase + 0x6000)]
  exact toNat_offset rfl hreg' (by omega)

/-- The registers that the code takes for those of the interrupt are those of the interrupt whose
number is 32 less, and reserved if there is none. -/
lemma IsSpi.gicdWord_irouter (h : IsSpi i) :
    (64 ≤ i.toNat →
      gicdWord (gicdBase + 0x6000 + (i - 32) * 8) = some (.irouterLow (i.toNat - 32)) ∧
        gicdWord (gicdBase + 0x6000 + (i - 32) * 8 + 4) = some (.irouterHigh (i.toNat - 32))) ∧
      (i.toNat < 64 → gicdWord (gicdBase + 0x6000 + (i - 32) * 8) = none ∧
        gicdWord (gicdBase + 0x6000 + (i - 32) * 8 + 4) = none) := by
  obtain ⟨hi₀, hi⟩ := h.toNat
  obtain ⟨hlow, hhigh⟩ := h.toNat_router
  have hnum : (0x6000 + (i.toNat - 32) * 8 - 0x6000) / 8 = i.toNat - 32 := by
    rw [Nat.add_sub_cancel_left, Nat.mul_div_cancel _ (by decide)]
  have hnum' : (0x6000 + ((i.toNat - 32) * 8 + 4) - 0x6000) / 8 = i.toNat - 32 := by
    rw [Nat.add_sub_cancel_left]
    omega
  unfold gicdWord gicMaxInterrupts
  simp only [hlow, hhigh]
  constructor
  · intro h64
    constructor
    · rw [if_neg (by omega), if_neg (by omega), if_neg (by omega), if_pos (by omega),
        if_pos (by omega), hnum]
    · rw [if_neg (by omega), if_neg (by omega), if_neg (by omega), if_pos (by omega),
        if_neg (by omega), hnum']
  · intro h64
    constructor
    · rw [if_neg (by omega), if_neg (by omega), if_neg (by omega), if_neg (by omega)]
    · rw [if_neg (by omega), if_neg (by omega), if_neg (by omega), if_neg (by omega)]

/-- The mask of one bit. -/
lemma toBitVec_mask (i : UInt32) :
    ((1 : UInt32) <<< (i % 32)).toBitVec = BitVec.twoPow 32 (i.toNat % 32) := by
  apply BitVec.eq_of_toNat_eq
  show ((1 : UInt32) <<< (i % 32)).toNat = _
  rw [UInt32.toNat_shiftLeft, UInt32.toNat_mod, BitVec.toNat_twoPow]
  show 1 <<< (i.toNat % 32 % 32) % 2 ^ 32 = _
  rw [Nat.mod_mod, Nat.shiftLeft_eq, Nat.one_mul]

/-- The two writes to `GICD_IROUTER` clear the route of the interrupt whose number is 32 less, if
there is one. -/
lemma IsSpi.writeRouter (h : IsSpi i) (g : Gicd) :
    (g.mmioWrite32 (gicdBase + 0x6000 + (i - 32) * 8) 0).mmioWrite32
        (gicdBase + 0x6000 + (i - 32) * 8 + 4) 0 =
      { g with irouter :=
          if 64 ≤ i.toNat then Function.update g.irouter (i.toNat - 32) 0 else g.irouter } := by
  obtain ⟨hreg, hreserved⟩ := h.gicdWord_irouter
  by_cases h64 : 64 ≤ i.toNat
  · obtain ⟨hlow, hhigh⟩ := hreg h64
    have hzero : writeHigh (writeLow (g.irouter (i.toNat - 32)) (0 : UInt32).toBitVec)
        (0 : UInt32).toBitVec = 0 := writeHigh_writeLow _ _ _
    rw [if_pos h64]
    unfold Gicd.mmioWrite32
    rw [hlow, hhigh]
    simp only [Function.update_self, Function.update_idem, hzero]
  · obtain ⟨hlow, hhigh⟩ := hreserved (not_le.mp h64)
    rw [if_neg h64]
    unfold Gicd.mmioWrite32
    rw [hlow, hhigh]

/-- **What a call of `BSP_IntSrcEn` writes.** -/
theorem bspIntSrcEn_eq (h : IsSpi i) (g : Gicd) : bspIntSrcEn g i =
    { igroupr := setBits g.igroupr (i.toNat / 32) (BitVec.twoPow 32 (i.toNat % 32))
      isenabler := setBits g.isenabler (i.toNat / 32) (BitVec.twoPow 32 (i.toNat % 32))
      ipriorityr := Function.update g.ipriorityr i.toNat 0x80
      irouter :=
        if 64 ≤ i.toNat then Function.update g.irouter (i.toNat - 32) 0 else g.irouter } := by
  have hlt : ¬i < 32 := UInt32.not_lt.mpr h.1
  unfold bspIntSrcEn gicEnableSpiInterrupt
  rw [if_pos h.1, if_neg hlt]
  simp only
  rw [if_pos h.1, h.writeRouter]
  unfold Gicd.mmioRead32 Gicd.mmioWrite8 Gicd.mmioWrite32
  simp only [h.gicdWord_isenabler, h.gicdByte_ipriorityr, h.gicdWord_igroupr, UInt32.toBitVec_or,
    toBitVec_mask]
  rfl

end Call

/-! ## What a sequence of calls writes -/

/-- The interrupt is enabled. -/
def Gicd.enabled (g : Gicd) (id : ℕ) : Bool := bit g.isenabler id

/-- The interrupt is in Group 1. -/
def Gicd.group1 (g : Gicd) (id : ℕ) : Bool := bit g.igroupr id

/-- The interrupt is named in the sequence. -/
def Named (ids : List UInt32) (id : ℕ) : Prop := ∃ i ∈ ids, i.toNat = id

instance (ids : List UInt32) (id : ℕ) : Decidable (Named ids id) :=
  inferInstanceAs (Decidable (∃ i ∈ ids, i.toNat = id))

section Run

variable {ids : List UInt32} (hids : ∀ i ∈ ids, IsSpi i) (g : Gicd) (id : ℕ)

include hids

/-- The enable bits. -/
theorem run_enabled :
    (run bspIntSrcEn g ids).enabled id = if Named ids id then true else g.enabled id := by
  refine run_overwrites (P := IsSpi) (fun g i k h => ?_) hids g id
  rw [bspIntSrcEn_eq h]
  unfold Gicd.enabled
  rw [bit_setBits (by decide)]
  simp only [eq_comm]

/-- The group bits. -/
theorem run_group :
    (run bspIntSrcEn g ids).group1 id = if Named ids id then true else g.group1 id := by
  refine run_overwrites (P := IsSpi) (fun g i k h => ?_) hids g id
  rw [bspIntSrcEn_eq h]
  unfold Gicd.group1
  rw [bit_setBits (by decide)]
  simp only [eq_comm]

/-- The priorities. -/
theorem run_priority :
    (run bspIntSrcEn g ids).ipriorityr id = if Named ids id then 0x80 else g.ipriorityr id := by
  refine run_overwrites (P := IsSpi) (fun g i k h => ?_) hids g id
  rw [bspIntSrcEn_eq h]
  simp only [Function.update_apply, eq_comm]

/-- **The routes.** A sequence of calls clears the route of an interrupt if it names the one 32
further. -/
theorem run_route : (run bspIntSrcEn g ids).irouter id =
    if 32 ≤ id ∧ Named ids (id + 32) then 0 else g.irouter id := by
  have hrun := run_overwrites (f := bspIntSrcEn) (P := IsSpi) (V := fun g k => g.irouter k)
    (N := fun i k => 32 ≤ k ∧ i.toNat = k + 32) (c := 0) (fun g i k h => ?_) hids g id
  · have hiff : (∃ i ∈ ids, 32 ≤ id ∧ i.toNat = id + 32) ↔ 32 ≤ id ∧ Named ids (id + 32) :=
      ⟨fun ⟨i, hi, h32, h⟩ => ⟨h32, i, hi, h⟩, fun ⟨h32, i, hi, h⟩ => ⟨i, hi, h32, h⟩⟩
    simp only [hiff] at hrun
    exact hrun
  · rw [bspIntSrcEn_eq h]
    simp only
    by_cases h64 : 64 ≤ i.toNat
    · rw [if_pos h64, Function.update_apply]
      have hiff : k = i.toNat - 32 ↔ 32 ≤ k ∧ i.toNat = k + 32 := by omega
      simp only [hiff]
    · rw [if_neg h64, if_neg (by omega)]

end Run

/-! ## The property -/

/-- The interrupt is enabled, in Group 1, of priority 0x80, and routed to the processor with
affinity 0. -/
structure Gicd.Delivers (g : Gicd) (id : ℕ) : Prop where
  enabled : g.enabled id = true
  group : g.group1 id = true
  priority : g.ipriorityr id = 0x80
  route : g.irouter id = 0

/-- An interrupt is configured alike in two states. -/
structure Gicd.SameFor (g g' : Gicd) (id : ℕ) : Prop where
  enabled : g'.enabled id = g.enabled id
  group : g'.group1 id = g.group1 id
  priority : g'.ipriorityr id = g.ipriorityr id
  route : g'.irouter id = g.irouter id

/-- After the calls, the named interrupts are delivered to the processor with affinity 0, and all
others are configured as before. -/
structure SourcesEnabled (g : Gicd) (ids : List UInt32) : Prop where
  named : ∀ i ∈ ids, (run bspIntSrcEn g ids).Delivers i.toNat
  others : ∀ id, id < gicMaxInterrupts → ¬Named ids id → g.SameFor (run bspIntSrcEn g ids) id

/-- An interrupt is routed to affinity 0 already if it is named while the one 32 further is not, or
the other way round. -/
def RoutesAgree (g : Gicd) (ids : List UInt32) : Prop :=
  ∀ id, 32 ≤ id → id < gicMaxInterrupts → (Named ids id ↔ ¬Named ids (id + 32)) → g.irouter id = 0

/-- All but the route of a named interrupt are as they should be. -/
lemma delivers_iff {ids : List UInt32} (hids : ∀ i ∈ ids, IsSpi i) (g : Gicd) {i : UInt32}
    (hi : i ∈ ids) :
    (run bspIntSrcEn g ids).Delivers i.toNat ↔ (run bspIntSrcEn g ids).irouter i.toNat = 0 := by
  have hnamed : Named ids i.toNat := ⟨i, hi, rfl⟩
  refine ⟨fun h => h.route, fun h => ⟨?_, ?_, ?_, h⟩⟩
  · rw [run_enabled hids, if_pos hnamed]
  · rw [run_group hids, if_pos hnamed]
  · rw [run_priority hids, if_pos hnamed]

/-- All but the route of an interrupt that is not named are as before. -/
lemma sameFor_iff {ids : List UInt32} (hids : ∀ i ∈ ids, IsSpi i) (g : Gicd) {id : ℕ}
    (hid : ¬Named ids id) : g.SameFor (run bspIntSrcEn g ids) id ↔
      (run bspIntSrcEn g ids).irouter id = g.irouter id := by
  refine ⟨fun h => h.route, fun h => ⟨?_, ?_, ?_, h⟩⟩
  · rw [run_enabled hids, if_neg hid]
  · rw [run_group hids, if_neg hid]
  · rw [run_priority hids, if_neg hid]

/-- **When the interrupts are enabled and the others are left alone**: for every sequence of calls
with interrupts from 32 to 1019 and every state of the distributor before it, exactly if the routes
agree.

**Proof sketch.** A call writes the bit and the byte of its interrupt, and clears the route of the
interrupt 32 below. So a sequence clears exactly the routes of the interrupts 32 below a named
one. -/
theorem sourcesEnabled_iff (g : Gicd) (ids : List UInt32) (hids : ∀ i ∈ ids, IsSpi i) :
    SourcesEnabled g ids ↔ RoutesAgree g ids := by
  constructor
  · intro h id h32 hmax hxor
    by_cases hid : Named ids id
    · -- a named interrupt whose route is not cleared
      obtain ⟨i, hi, rfl⟩ := hid
      have hroute := (h.named i hi).route
      rw [run_route hids, if_neg (fun hc => hxor.mp ⟨i, hi, rfl⟩ hc.2)] at hroute
      exact hroute
    · -- an interrupt that is not named and whose route is cleared
      have hnext : Named ids (id + 32) := not_not.mp fun hn => hid (hxor.mpr hn)
      have hroute := (h.others id hmax hid).route
      rw [run_route hids, if_pos ⟨h32, hnext⟩] at hroute
      exact hroute.symm
  · intro h
    constructor
    · intro i hi
      obtain ⟨h32, hmax⟩ := (hids i hi).toNat
      rw [delivers_iff hids g hi, run_route hids]
      split_ifs with hnext
      · rfl
      · refine h i.toNat h32 (by unfold gicMaxInterrupts; omega)
          ⟨fun _ hn => hnext ⟨h32, hn⟩, fun _ => ?_⟩
        exact ⟨i, hi, rfl⟩
    · intro id hmax hid
      rw [sameFor_iff hids g hid, run_route hids]
      split_ifs with hnext
      · exact (h id hnext.1 hmax ⟨fun hn => absurd hn hid, fun hn => absurd hnext.2 hn⟩).symm
      · rfl

/-! ### One interrupt -/

/-- A distributor in which only one interrupt has a route other than to affinity 0. -/
def routedGicd (id : ℕ) (route : BitVec 64) : Gicd :=
  ⟨fun _ => 0, fun _ => 0, fun _ => 0, Function.update (fun _ => 0) id route⟩

/-- Interrupt 79, while interrupt 47 is routed to affinity 1. -/
theorem sourcesEnabled_iff_79 :
    SourcesEnabled (routedGicd 47 1) [79] ↔ RoutesAgree (routedGicd 47 1) [79] :=
  sourcesEnabled_iff (routedGicd 47 1) [79] (List.forall_mem_singleton.mpr (by decide))

/-- **Enabling interrupt 79 clears the route of interrupt 47**, and leaves its own as it was. -/
theorem not_sourcesEnabled_79 :
    (¬(run bspIntSrcEn (routedGicd 79 1) [79]).Delivers 79) ∧
      (¬(routedGicd 47 1).SameFor (run bspIntSrcEn (routedGicd 47 1) [79]) 47) ∧
      ¬∀ g ids, (∀ i ∈ ids, IsSpi i) → SourcesEnabled g ids := by
  have hids : ∀ i ∈ ([79] : List UInt32), IsSpi i := List.forall_mem_singleton.mpr (by decide)
  have hkept : ¬(run bspIntSrcEn (routedGicd 79 1) [79]).Delivers 79 := by
    intro h
    have hroute := h.route
    rw [run_route hids, if_neg (by decide)] at hroute
    exact absurd hroute (by decide)
  refine ⟨hkept, fun h => ?_, fun hall =>
    hkept ((hall (routedGicd 79 1) [79] hids).named 79 (by decide))⟩
  have hroute := h.route
  rw [run_route hids, if_pos (by decide)] at hroute
  exact absurd hroute (by decide)

end Bsp
