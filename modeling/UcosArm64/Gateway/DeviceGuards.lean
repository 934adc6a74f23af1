import UcosArm64.Driver.DriverCalls
import UcosArm64.Foundations.Transition
import UcosArm64.Gateway.NetDemo

set_option relaxedAutoImplicit false
set_option autoImplicit false

/-!
# Which devices are written to

After `virtio_net_init_all` the driver is called in any order by any task and by the interrupts,
and the two receive tasks go through their loops. Every function of the driver tests in its own way
whether the device that it is given is there. All these tests are enough, except that of
`virtio_net_rx_flush_dev`, which a receive task calls for both devices in every round of its loop.

## Main definitions

* `Gateway.NetDriverState`, `Gateway.NetDriverAction`, `Gateway.netDriverStep` — the driver and the
  receive tasks.
* `Gateway.Contained` — a step writes to initialised devices only, and a call that names an absent
  device writes nothing.
* `Gateway.FlushesAbsent` — a step flushes the RX queue of a slot that has no initialised device.

## Main results

* `Gateway.contained_iff` — the steps of a run are contained exactly when none of them flushes an
  absent device.
* `Gateway.singleNic_not_contained` — the receive task of a machine with one device writes to
  address `0x50`.

## Design

One step is one call of the driver. A receive task is between two calls; what it sends while it
processes a frame is any frames, each through one of the two interfaces. An interface without a
device has `NULL`, and its task delays itself.
-/

namespace Gateway

open Transition Driver

/-- Where `net_rx_task` stands: before `virtio_net_has_pending_rx_dev`, before the peek, in the
processing of a frame, before the release; before a call of `virtio_net_rx_flush_dev` or of
`virtio_net_tx_flush_dev`; before `virtio_net_wait_rx_dev`. -/
inductive RxCallPc
  | hasPending
  | peek
  | process (descId : UInt16)
  | release (descId : UInt16)
  | rxFlush (devIdx : ℕ)
  | txFlush (devIdx : ℕ)
  | wait
  deriving DecidableEq

/-- The driver, the devices of the interfaces (`g_lan_if.dev` and `g_wan_if.dev`), and the places of
their tasks. -/
structure NetDriverState where
  driver : DriverState
  ifDev : IfId → Option ℕ
  rx : IfId → RxCallPc

/-- The steps: a call of the driver by any task or interrupt, and the next call of a receive task.
A task that processes a frame sends one through an interface, or is done with it. -/
inductive NetDriverAction
  | call (c : DriverCall)
  | rxTask (i : IfId) (sends : Option (IfId × List UInt8))
  deriving DecidableEq

section System

variable (hw : Hardware)

/-- After `virtio_net_init_all`: `net_demo_run` gives the devices to the interfaces. The record of
the writes begins anew. -/
def netDriverStart : NetDriverState :=
  let driver := (virtioNetInitAll hw driverBoot).2
  let count := virtioNetGetDeviceCount driver
  { driver := { driver with writes := [] }
    ifDev := fun i => match i with
      | .lan => if count ≥ 1 then virtioNetGetDevice driver 0 else none
      | .wan => if count ≥ 2 then virtioNetGetDevice driver 1 else none
    rx := fun _ => .hasPending }

/-- The next call of a receive task, and where it stands then. -/
def rxTaskCall (s : NetDriverState) (dev : ℕ) (sends : Option (IfId × List UInt8)) :
    RxCallPc → Option DriverCall × RxCallPc
  | .hasPending =>
    (some (.hasPendingRxDev dev),
      if virtioNetHasPendingRxDev s.driver dev then .peek else .rxFlush 0)
  | .peek =>
    (some (.peekRxBufferDev dev true),
      match virtioNetPeekRxBufferDev s.driver dev true with
      | some (descId, len) => if len > 0 then .process descId else .rxFlush 0
      | none => .rxFlush 0)
  | .process descId =>
    match sends with
    | some (egress, frame) => (some (.sendFrameDev (s.ifDev egress) (some frame)), .process descId)
    | none => (none, .release descId)
  | .release descId => (some (.releaseRxBufferDev dev descId), .hasPending)
  | .rxFlush devIdx => (some (.rxFlushDev devIdx), if devIdx = 0 then .rxFlush 1 else .txFlush 0)
  | .txFlush devIdx => (some (.txFlushDev devIdx), if devIdx = 0 then .txFlush 1 else .wait)
  | .wait => (some (.waitRxDev dev), .hasPending)

/-- The call that a step makes. -/
def NetDriverAction.driverCall (s : NetDriverState) : NetDriverAction → Option DriverCall
  | .call c => some c
  | .rxTask i sends => (s.ifDev i).bind fun dev => (rxTaskCall s dev sends (s.rx i)).1

/-- Where the receive tasks stand after a step. -/
def NetDriverAction.places (s : NetDriverState) : NetDriverAction → IfId → RxCallPc
  | .call _ => s.rx
  | .rxTask i sends =>
    match s.ifDev i with
    | none => s.rx
    | some dev => Function.update s.rx i (rxTaskCall s dev sends (s.rx i)).2

/-- **One step of the system.** The record keeps the writes of the step. -/
def netDriverStep (s : NetDriverState) (a : NetDriverAction) : NetDriverState :=
  let driver := { s.driver with writes := [] }
  { driver := match a.driverCall s with
      | none => driver
      | some c => (c.run hw driver).2
    ifDev := s.ifDev
    rx := a.places s }

/-- The step writes only to initialised devices, and a call that names an absent or failed device
writes nothing. -/
def Contained (s : NetDriverState) (a : NetDriverAction) : Prop :=
  (∀ w ∈ (netDriverStep hw s a).driver.writes, s.driver.Allows w) ∧
    ∀ c, a.driverCall s = some c →
      (∀ i, c.target s.driver = some i → ¬ s.driver.Initialised i) →
      (netDriverStep hw s a).driver.writes = []

/-- The step calls `virtio_net_rx_flush_dev` for a slot from `g_device_count` on. -/
def FlushesAbsent (s : NetDriverState) (a : NetDriverAction) : Prop :=
  ∃ devIdx, a.driverCall s = some (.rxFlushDev devIdx) ∧ s.driver.deviceCount ≤ devIdx ∧
    devIdx < virtioNetMaxDevices

/-! ## One step -/

variable {hw} {s : NetDriverState}

/-- The outcome of the initialisation does not change. -/
lemma initialisedBelow_step (hs : InitialisedBelow s.driver) (a : NetDriverAction) :
    InitialisedBelow (netDriverStep hw s a).driver := by
  have hs' : InitialisedBelow { s.driver with writes := [] } := ⟨hs.count_le, hs.driverOk, hs.dev⟩
  simp only [netDriverStep]
  split
  · exact hs'
  · exact hs'.congr (guards_run hw hs' _)

/-- **One step** is contained exactly when it does not flush an absent device. -/
theorem contained_iff_not_flushesAbsent (hs : InitialisedBelow s.driver) (a : NetDriverAction) :
    Contained hw s a ↔ ¬ FlushesAbsent s a := by
  have hs' : InitialisedBelow { s.driver with writes := [] } := ⟨hs.count_le, hs.driverOk, hs.dev⟩
  constructor
  · rintro ⟨hall, -⟩ ⟨devIdx, hcall, hcount, hmax⟩
    have hwrites := writes_virtioNetRxFlushDev (s := { s.driver with writes := [] }) hmax
    have hmem : (⟨devIdx, (s.driver.devices devIdx).base + virtioMmioQueueNotify.toUInt64,
        virtioNetRxQueue⟩ : RegWrite) ∈ (netDriverStep hw s a).driver.writes := by
      simp only [netDriverStep, hcall, DriverCall.run, hwrites]
      simp
    have hlt : devIdx < s.driver.deviceCount := (hall _ hmem).1.1
    omega
  · intro hflush
    cases hcall : a.driverCall s with
    | none =>
      have hnil : (netDriverStep hw s a).driver.writes = [] := by simp only [netDriverStep, hcall]
      exact ⟨by simp [hnil], fun _ _ _ => hnil⟩
    | some c =>
      have hc : Confined (c.target s.driver) { s.driver with writes := [] }
          (netDriverStep hw s a).driver := by
        simp only [netDriverStep, hcall]
        refine confined_run hw hs' c fun devIdx hflushDev => ?_
        by_contra hnot
        rw [not_or, not_lt, not_le] at hnot
        exact hflush ⟨devIdx, by rw [hcall, hflushDev], hnot.1, hnot.2⟩
      obtain ⟨ws, hws, hall⟩ := hc.writes
      rw [List.nil_append] at hws
      refine ⟨fun w hw => ?_, fun c' hc' habsent => ?_⟩
      · rw [hws] at hw
        exact (hall w hw).2
      · -- a write would go to the device that the call names
        obtain rfl : c = c' := Option.some.inj (hcall.symm.trans hc')
        rw [hws, List.eq_nil_iff_forall_not_mem]
        intro w hw
        exact habsent w.dev (hall w hw).1 (hall w hw).2.1

end System

/-! ## Runs -/

/-- **Every write goes to an initialised device**, and a call that names an absent or failed device
writes nothing, in exactly the runs in which no step flushes the RX queue of an absent device. -/
theorem contained_iff (hw : Hardware) (as : List NetDriverAction) :
    EveryStep (netDriverStep hw) (Contained hw) (netDriverStart hw) as ↔
      EveryStep (netDriverStep hw) (fun s a => ¬ FlushesAbsent s a) (netDriverStart hw) as := by
  have hinit : InitialisedBelow (netDriverStart hw).driver := by
    obtain ⟨hcount, hok, hdev⟩ := initialisedBelow_virtioNetInitAll hw
    exact ⟨hcount, hok, hdev⟩
  have hreach : ∀ pre, InitialisedBelow (run (netDriverStep hw) (netDriverStart hw) pre).driver :=
    fun pre => run_invariant (I := fun s : NetDriverState => InitialisedBelow s.driver)
      (fun _ a hs => initialisedBelow_step hs a) hinit pre
  constructor
  · intro h pre a ha
    exact (contained_iff_not_flushesAbsent (hreach pre) a).mp (h pre a ha)
  · intro h pre a ha
    exact (contained_iff_not_flushesAbsent (hreach pre) a).mpr (h pre a ha)

/-! ## A machine with one device -/

/-- A machine with one network device, at the first address. -/
def singleNic : Hardware where
  register := fun _ addr =>
    if addr = 0x0A000000 then 0x74726976
    else if addr = 0x0A000008 then 1
    else if addr = 0x0A000034 then 256
    else 0
  rxUsedRing := fun _ _ _ => ⟨0, 0⟩
  rxUsedIdx := fun _ _ => 0
  txUsedIdx := fun _ _ => 0
  semCreate := fun _ => true
  ringAddr := fun _ _ => (0x40000000, 0x40001000, 0x40002000)

/-- The LAN task finds no frame, and flushes both devices. -/
def flushRun : List NetDriverAction := List.replicate 3 (.rxTask .lan none)

/-- **A write to an absent device.** The third step of the LAN task writes to QueueNotify through
the base of the slot 1, which is zero. -/
theorem singleNic_not_contained :
    (netDriverStart singleNic).driver.deviceCount = 1 ∧
    (run (netDriverStep singleNic) (netDriverStart singleNic) flushRun).driver.writes =
      [⟨1, 0x50, 0⟩] ∧
    ¬ EveryStep (netDriverStep singleNic) (Contained singleNic) (netDriverStart singleNic)
      flushRun := by
  have hcount : (netDriverStart singleNic).driver.deviceCount = 1 := by decide +kernel
  have hwrites : (run (netDriverStep singleNic) (netDriverStart singleNic) flushRun).driver.writes =
      [⟨1, 0x50, 0⟩] := by
    decide +kernel
  refine ⟨hcount, hwrites, fun h => ?_⟩
  have hlast := h (flushRun.take 2) (.rxTask .lan none) (List.prefix_refl flushRun)
  have hstep : netDriverStep singleNic (run (netDriverStep singleNic) (netDriverStart singleNic)
      (flushRun.take 2)) (.rxTask .lan none) =
      run (netDriverStep singleNic) (netDriverStart singleNic) flushRun := rfl
  have hmem := hlast.1 ⟨1, 0x50, 0⟩ (by rw [hstep, hwrites]; simp)
  have hfalse : ¬ (run (netDriverStep singleNic) (netDriverStart singleNic)
      (flushRun.take 2)).driver.Initialised 1 := by
    decide +kernel
  exact hfalse hmem.1

end Gateway
