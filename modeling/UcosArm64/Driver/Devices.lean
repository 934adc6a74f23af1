import UcosArm64.Driver.QueueCalls

set_option relaxedAutoImplicit false
set_option autoImplicit false

/-!
# The devices and their initialisation

The device table of `bsp/virtio_net.c`, its accesses to the registers of the devices, and
`virtio_net_init_all`.

## Main definitions

* `Driver.Hardware` — everything that the driver reads and does not determine.
* `Driver.VirtioNetDevice`, `Driver.DriverState` — the data of the driver.
* `Driver.virtioNetScan`, `Driver.virtioNetInitDevice`, `Driver.virtioNetInitAll` — initialisation.
* `Driver.DriverState.guards` — what the functions of the driver test before they touch a device.
* `Driver.InitialisedBelow` — the outcome of the initialisation.

## Main results

* `Driver.initialisedBelow_virtioNetInitAll` — whatever the hardware does, exactly the devices
  below `g_device_count` are initialised, and `g_dev` is the first of them.

## Design

A pointer into the table `g_devices` is the index of the slot, and `NULL` is `none`. The hardware
answers every read as it likes: an answer depends on the number of accesses before it. The
registers of a device are not distinguished from other memory at the same address. The driver's
writes are recorded, each with the slot whose `base` it was made through. The interrupt controller
and the console output are left out, and a semaphore is the information whether `OSSemCreate` gave
one.
-/

namespace Driver

/-! ## Registers -/

/-- `VIRTIO_NET_MAX_DEVICES` -/
def virtioNetMaxDevices : ℕ := 2

/-- `VIRTIO_MMIO_MAGIC_VALUE` -/
def virtioMmioMagicValue : UInt32 := 0x000
/-- `VIRTIO_MMIO_VERSION` -/
def virtioMmioVersion : UInt32 := 0x004
/-- `VIRTIO_MMIO_DEVICE_ID` -/
def virtioMmioDeviceId : UInt32 := 0x008
/-- `VIRTIO_MMIO_VENDOR_ID` -/
def virtioMmioVendorId : UInt32 := 0x00C
/-- `VIRTIO_MMIO_DEVICE_FEATURES` -/
def virtioMmioDeviceFeatures : UInt32 := 0x010
/-- `VIRTIO_MMIO_DEVICE_FEATURES_SEL` -/
def virtioMmioDeviceFeaturesSel : UInt32 := 0x014
/-- `VIRTIO_MMIO_DRIVER_FEATURES` -/
def virtioMmioDriverFeatures : UInt32 := 0x020
/-- `VIRTIO_MMIO_DRIVER_FEATURES_SEL` -/
def virtioMmioDriverFeaturesSel : UInt32 := 0x024
/-- `VIRTIO_MMIO_GUEST_PAGE_SIZE` -/
def virtioMmioGuestPageSize : UInt32 := 0x028
/-- `VIRTIO_MMIO_QUEUE_SEL` -/
def virtioMmioQueueSel : UInt32 := 0x030
/-- `VIRTIO_MMIO_QUEUE_NUM_MAX` -/
def virtioMmioQueueNumMax : UInt32 := 0x034
/-- `VIRTIO_MMIO_QUEUE_NUM` -/
def virtioMmioQueueNum : UInt32 := 0x038
/-- `VIRTIO_MMIO_QUEUE_READY` -/
def virtioMmioQueueReady : UInt32 := 0x044
/-- `VIRTIO_MMIO_QUEUE_NOTIFY` -/
def virtioMmioQueueNotify : UInt32 := 0x050
/-- `VIRTIO_MMIO_INTERRUPT_STATUS` -/
def virtioMmioInterruptStatus : UInt32 := 0x060
/-- `VIRTIO_MMIO_INTERRUPT_ACK` -/
def virtioMmioInterruptAck : UInt32 := 0x064
/-- `VIRTIO_MMIO_STATUS` -/
def virtioMmioStatus : UInt32 := 0x070
/-- `VIRTIO_MMIO_QUEUE_DESC_LOW`, `..._HIGH` -/
def virtioMmioQueueDesc : UInt32 × UInt32 := (0x080, 0x084)
/-- `VIRTIO_MMIO_QUEUE_AVAIL_LOW`, `..._HIGH` -/
def virtioMmioQueueAvail : UInt32 × UInt32 := (0x090, 0x094)
/-- `VIRTIO_MMIO_QUEUE_USED_LOW`, `..._HIGH` -/
def virtioMmioQueueUsed : UInt32 × UInt32 := (0x0A0, 0x0A4)
/-- `VIRTIO_MMIO_CONFIG` -/
def virtioMmioConfig : UInt32 := 0x100

/-- `VIRTIO_NET_RX_QUEUE` -/
def virtioNetRxQueue : UInt32 := 0
/-- `VIRTIO_NET_TX_QUEUE` -/
def virtioNetTxQueue : UInt32 := 1

/-! ## Data -/

/-- The hardware, as the driver sees it: the value of a register at an access, what a device has
written into the used rings of a slot, whether `OSSemCreate` finds a free event, and where the
rings of a queue of a slot are. -/
structure Hardware where
  register : ℕ → UInt64 → UInt32
  rxUsedRing : ℕ → ℕ → ℕ → VringUsedElem
  rxUsedIdx : ℕ → ℕ → UInt16
  txUsedIdx : ℕ → ℕ → UInt16
  semCreate : ℕ → Bool
  ringAddr : ℕ → UInt32 → UInt64 × UInt64 × UInt64

/-- `struct virtio_net_device`, with the queues and the completion queue of its slot. -/
structure VirtioNetDevice where
  base : UInt64
  irq : UInt32
  rxQueueSize : UInt16
  txQueueSize : UInt16
  txLastUsed : UInt16
  mac : List UInt8
  driverOk : Bool
  rxSem : Bool
  rx : RxQueue
  tx : TxQueue

/-- A write to a register: the slot whose base it was made through, the address, and the value. -/
structure RegWrite where
  dev : ℕ
  addr : UInt64
  value : UInt32
  deriving DecidableEq

/-- The variables of the driver: `g_devices`, `g_device_count`, `g_dev` and `g_rx_global_sem`; the
number of accesses to the hardware, and the writes. -/
structure DriverState where
  devices : ℕ → VirtioNetDevice
  deviceCount : ℕ
  dev : Option ℕ
  rxGlobalSem : Bool
  time : ℕ
  writes : List RegWrite

/-- A slot of `g_devices` at the start. -/
def emptyDevice : VirtioNetDevice where
  base := 0
  irq := 0
  rxQueueSize := 0
  txQueueSize := 0
  txLastUsed := 0
  mac := []
  driverOk := false
  rxSem := false
  rx := virtioNetPrepareRx 0
  tx := virtioNetPrepareTx

/-- The driver's variables at the start. -/
def driverBoot : DriverState where
  devices := fun _ => emptyDevice
  deviceCount := 0
  dev := none
  rxGlobalSem := false
  time := 0
  writes := []

namespace DriverState

/-- Update a slot. -/
def modifyDevice (s : DriverState) (i : ℕ) (f : VirtioNetDevice → VirtioNetDevice) : DriverState :=
  { s with devices := Function.update s.devices i (f (s.devices i)) }

/-- An access to the hardware. -/
def elapse (s : DriverState) : DriverState := { s with time := s.time + 1 }

/-- `virtio_reg_write` -/
def regWrite (s : DriverState) (i : ℕ) (offset value : UInt32) : DriverState :=
  let w : RegWrite := ⟨i, (s.devices i).base + offset.toUInt64, value⟩
  { s with writes := s.writes ++ [w], time := s.time + 1 }

/-- Several writes to registers of one device. -/
def regWrites (s : DriverState) (i : ℕ) (ws : List (UInt32 × UInt32)) : DriverState :=
  ws.foldl (fun s w => s.regWrite i w.1 w.2) s

/-- `virtio_mmio_read32` -/
def mmioRead (s : DriverState) (hw : Hardware) (base : UInt64) (offset : UInt32) :
    UInt32 × DriverState :=
  (hw.register s.time (base + offset.toUInt64), s.elapse)

/-- `virtio_reg_read` -/
def regRead (s : DriverState) (hw : Hardware) (i : ℕ) (offset : UInt32) : UInt32 × DriverState :=
  s.mmioRead hw (s.devices i).base offset

end DriverState

/-! ## Initialisation -/

/-- `candidates` and `irqs` of `virtio_net_scan` -/
def candidates : List (UInt64 × UInt32) :=
  (List.range 16).map fun i => (0x0A000000 + 0x200 * UInt64.ofNat i, 48 + UInt32.ofNat i)

/-- The loop of `virtio_net_scan`. -/
def scanLoop (hw : Hardware) (startIndex : ℕ) :
    List (UInt64 × UInt32) → ℕ → DriverState → Option (UInt64 × UInt32) × DriverState
  | [], _, s => (none, s)
  | (base, irq) :: rest, foundCount, s =>
    let magic := s.mmioRead hw base virtioMmioMagicValue
    if magic.1 = 0x74726976 then
      let deviceId := magic.2.mmioRead hw base virtioMmioDeviceId
      if deviceId.1 = 1 ∨ deviceId.1 = 0 then
        if foundCount = startIndex then (some (base, irq), deviceId.2)
        else scanLoop hw startIndex rest (foundCount + 1) deviceId.2
      else scanLoop hw startIndex rest foundCount deviceId.2
    else scanLoop hw startIndex rest foundCount magic.2

/-- `virtio_net_scan` -/
def virtioNetScan (hw : Hardware) (s : DriverState) (startIndex : ℕ) :
    Option (UInt64 × UInt32) × DriverState :=
  scanLoop hw startIndex candidates 0 s

/-- The two halves of an address. -/
def addrWrites (regs : UInt32 × UInt32) (addr : UInt64) : List (UInt32 × UInt32) :=
  [(regs.1, addr.toUInt32), (regs.2, (addr >>> 32).toUInt32)]

/-- `virtio_net_configure_queue`: the size of the queue, or `none` for a failure. That the rings are
cleared is part of `virtioNetPrepareRx` and `virtioNetPrepareTx`. -/
def virtioNetConfigureQueue (hw : Hardware) (s : DriverState) (i : ℕ) (queueIndex : UInt32) :
    Option UInt16 × DriverState :=
  let s := s.regWrite i virtioMmioQueueSel queueIndex
  let queueMax := s.regRead hw i virtioMmioQueueNumMax
  let s := queueMax.2
  if queueMax.1 = 0 then (none, s)
  else
    let queueSize := if queueMax.1.toUInt16 > 256 then 256 else queueMax.1.toUInt16
    let addr := hw.ringAddr i queueIndex
    let s := s.regWrites i ([(virtioMmioQueueNum, queueSize.toUInt32)] ++
      addrWrites virtioMmioQueueDesc addr.1 ++ addrWrites virtioMmioQueueAvail addr.2.1 ++
      addrWrites virtioMmioQueueUsed addr.2.2 ++ [(virtioMmioQueueReady, 1)])
    (some queueSize, s)

/-- The start of `virtio_net_init_device`: the slot is cleared, and gets its base, its interrupt
and its semaphore. The rings and the completion queue are outside of the slot. -/
def clearDevice (hw : Hardware) (s : DriverState) (i : ℕ) (base : UInt64) (irq : UInt32) :
    DriverState :=
  (s.modifyDevice i fun d => { emptyDevice with
    base := base
    irq := irq
    rxSem := hw.semCreate s.time
    rx := { d.rx with rxLastUsed := 0 }
    tx := { d.tx with txBatchCount := 0 } }).elapse

/-- The checks of `virtio_net_init_device`. -/
def identifyDevice (hw : Hardware) (s : DriverState) (i : ℕ) : Bool × DriverState :=
  let magic := s.regRead hw i virtioMmioMagicValue
  let s := magic.2
  if magic.1 ≠ 0x74726976 then (false, s)
  else
    let version := s.regRead hw i virtioMmioVersion
    let s := version.2
    let s := if version.1 ≤ 1 then s.regWrite i virtioMmioGuestPageSize 4096 else s
    let deviceId := s.regRead hw i virtioMmioDeviceId
    let s := (deviceId.2.regRead hw i virtioMmioVendorId).2
    (deviceId.1 = 1 ∨ deviceId.1 = 0, s)

/-- The bytes of `config->mac`. -/
def readMac (hw : Hardware) (i : ℕ) : ℕ → DriverState → List UInt8 × DriverState
  | 0, s => ([], s)
  | k + 1, s =>
    let rest := readMac hw i k s
    let byte := rest.2.regRead hw i (virtioMmioConfig + UInt32.ofNat k)
    (rest.1 ++ [byte.1.toUInt8], byte.2)

/-- The negotiation of `virtio_net_init_device`: ACKNOWLEDGE, DRIVER, the features MAC and
VERSION_1, FEATURES_OK, and the address of the device. -/
def negotiate (hw : Hardware) (s : DriverState) (i : ℕ) : DriverState :=
  let s := s.regWrites i [(virtioMmioStatus, 0), (virtioMmioStatus, 1)]
  let s := (s.regRead hw i virtioMmioStatus).2
  let s := s.regWrite i virtioMmioStatus 3
  let s := (s.regRead hw i virtioMmioStatus).2
  let s := s.regWrite i virtioMmioDeviceFeaturesSel 0
  let featuresLo := s.regRead hw i virtioMmioDeviceFeatures
  let s := featuresLo.2.regWrite i virtioMmioDeviceFeaturesSel 1
  let featuresHi := s.regRead hw i virtioMmioDeviceFeatures
  let s := featuresHi.2.regWrites i [
    (virtioMmioDriverFeaturesSel, 0), (virtioMmioDriverFeatures, featuresLo.1 &&& 32),
    (virtioMmioDriverFeaturesSel, 1), (virtioMmioDriverFeatures, featuresHi.1 &&& 1),
    (virtioMmioStatus, 0x0B)]
  let s := (s.regRead hw i virtioMmioStatus).2
  let mac := readMac hw i 6 s
  mac.2.modifyDevice i fun d => { d with mac := mac.1 }

/-- The queues of `virtio_net_init_device`. -/
def setupQueues (hw : Hardware) (s : DriverState) (i : ℕ) : Bool × DriverState :=
  let rxQueue := virtioNetConfigureQueue hw s i virtioNetRxQueue
  match rxQueue.1 with
  | none => (false, rxQueue.2)
  | some rxSize =>
    let s := rxQueue.2.modifyDevice i fun d => { d with
      rxQueueSize := rxSize
      rx := { virtioNetPrepareRx rxSize.toNat with completions := d.rx.completions } }
    let s := s.regWrite i virtioMmioQueueNotify virtioNetRxQueue
    let txQueue := virtioNetConfigureQueue hw s i virtioNetTxQueue
    match txQueue.1 with
    | none => (false, txQueue.2)
    | some txSize =>
      (true, txQueue.2.modifyDevice i fun d => { d with
        txQueueSize := txSize
        txLastUsed := 0
        tx := virtioNetPrepareTx })

/-- The end of `virtio_net_init_device`: DRIVER_OK. -/
def finishDevice (hw : Hardware) (s : DriverState) (i : ℕ) : DriverState :=
  let s := s.regWrite i virtioMmioStatus 0x0F
  let s := (s.regRead hw i virtioMmioStatus).2
  let s := s.regWrite i virtioMmioQueueSel virtioNetRxQueue
  let s := (s.regRead hw i virtioMmioQueueNumMax).2
  let s := s.regWrite i virtioMmioQueueSel virtioNetTxQueue
  let s := (s.regRead hw i virtioMmioQueueNumMax).2
  s.modifyDevice i fun d => { d with driverOk := true }

/-- `virtio_net_init_device` -/
def virtioNetInitDevice (hw : Hardware) (s : DriverState) (i : ℕ) (base : UInt64) (irq : UInt32) :
    ℤ × DriverState :=
  let identified := identifyDevice hw (clearDevice hw s i base irq) i
  if identified.1 then
    let queues := setupQueues hw (negotiate hw identified.2 i) i
    if queues.1 then (0, finishDevice hw queues.2 i) else (-1, queues.2)
  else (-1, identified.2)

/-- The loop of `virtio_net_init_all`. -/
def initLoop (hw : Hardware) : List ℕ → DriverState → DriverState
  | [], s => s
  | i :: rest, s =>
    let scan := virtioNetScan hw s i
    match scan.1 with
    | none => scan.2
    | some (base, irq) =>
      let init := virtioNetInitDevice hw scan.2 i base irq
      if init.1 = 0 then initLoop hw rest { init.2 with deviceCount := init.2.deviceCount + 1 }
      else init.2

/-- `virtio_net_init_all` -/
def virtioNetInitAll (hw : Hardware) (s : DriverState) : ℤ × DriverState :=
  let s := if s.rxGlobalSem then s else { s with rxGlobalSem := hw.semCreate s.time }.elapse
  let s := initLoop hw (List.range virtioNetMaxDevices) { s with deviceCount := 0 }
  if s.deviceCount > 0 then (0, { s with dev := some 0 }) else (-1, s)

/-! ## What the driver tests -/

/-- What the functions of the driver test before they touch a device: `g_device_count`, `g_dev`,
and for each slot its base, its interrupt and `driver_ok`. -/
def DriverState.guards (s : DriverState) : ℕ × Option ℕ × (ℕ → UInt64 × UInt32 × Bool) :=
  (s.deviceCount, s.dev, fun i => ((s.devices i).base, (s.devices i).irq, (s.devices i).driverOk))

section Guards

variable {s t : DriverState} (hw : Hardware) (i : ℕ)

/-- `g_device_count` is one of the guards. -/
lemma deviceCount_of_guards (h : t.guards = s.guards) : t.deviceCount = s.deviceCount :=
  congrArg Prod.fst h

/-- The default device is one of the guards. -/
lemma dev_of_guards (h : t.guards = s.guards) : t.dev = s.dev :=
  congrArg (fun g => g.2.1) h

/-- The base address of a device is one of the guards. -/
lemma base_of_guards (h : t.guards = s.guards) (j : ℕ) : (t.devices j).base = (s.devices j).base :=
  congrArg (fun g => (g.2.2 j).1) h

/-- `driver_ok` of a device is one of the guards. -/
lemma driverOk_of_guards (h : t.guards = s.guards) (j : ℕ) :
    (t.devices j).driverOk = (s.devices j).driverOk :=
  congrArg (fun g => (g.2.2 j).2.2) h

/-- Time that passes leaves the devices alone. -/
@[simp] lemma elapse_devices (s : DriverState) : s.elapse.devices = s.devices := rfl

/-- A register write leaves the guards alone. -/
@[simp] lemma guards_regWrite (s : DriverState) (offset value : UInt32) :
    (s.regWrite i offset value).guards = s.guards := rfl

/-- A series of register writes leaves the guards alone. -/
@[simp] lemma guards_regWrites (s : DriverState) (ws : List (UInt32 × UInt32)) :
    (s.regWrites i ws).guards = s.guards := by
  induction ws generalizing s with
  | nil => rfl
  | cons w ws ih => exact ih _

/-- A read at an address leaves the guards alone. -/
@[simp] lemma guards_mmioRead (s : DriverState) (base : UInt64) (offset : UInt32) :
    (s.mmioRead hw base offset).2.guards = s.guards := rfl

/-- A register read leaves the guards alone. -/
@[simp] lemma guards_regRead (s : DriverState) (offset : UInt32) :
    (s.regRead hw i offset).2.guards = s.guards := rfl

/-- The device that is modified. -/
@[simp] lemma modifyDevice_self (s : DriverState) (f : VirtioNetDevice → VirtioNetDevice) :
    (s.modifyDevice i f).devices i = f (s.devices i) :=
  Function.update_self ..

/-- The other devices. -/
lemma modifyDevice_of_ne (s : DriverState) (f : VirtioNetDevice → VirtioNetDevice) {j : ℕ}
    (h : j ≠ i) : (s.modifyDevice i f).devices j = s.devices j :=
  Function.update_of_ne h _ _

/-- An update of the other fields of a slot. -/
lemma guards_modifyDevice (s : DriverState) {f : VirtioNetDevice → VirtioNetDevice}
    (h : ∀ d, ((f d).base, (f d).irq, (f d).driverOk) = (d.base, d.irq, d.driverOk)) :
    (s.modifyDevice i f).guards = s.guards := by
  refine Prod.ext rfl (Prod.ext rfl ?_)
  funext j
  by_cases hj : j = i
  · subst hj
    simp only [DriverState.guards, modifyDevice_self]
    exact h _
  · simp only [DriverState.guards, modifyDevice_of_ne i s f hj]

end Guards

/-! ## The outcome of the initialisation -/

section Outcome

variable (hw : Hardware) (i : ℕ)

/-- The loop over the slots leaves the guards alone. -/
lemma guards_scanLoop (startIndex : ℕ) (cs : List (UInt64 × UInt32)) (found : ℕ) (s : DriverState) :
    (scanLoop hw startIndex cs found s).2.guards = s.guards := by
  induction cs generalizing found s with
  | nil => rfl
  | cons c cs ih =>
    obtain ⟨base, irq⟩ := c
    simp only [scanLoop]
    split_ifs
    · rfl
    · exact ih _ _
    · exact ih _ _
    · exact ih _ _

/-- `virtio_net_scan` leaves the guards alone. -/
lemma guards_virtioNetScan (s : DriverState) (startIndex : ℕ) :
    (virtioNetScan hw s startIndex).2.guards = s.guards :=
  guards_scanLoop hw startIndex candidates 0 s

/-- `virtio_net_configure_queue` leaves the guards alone. -/
lemma guards_configureQueue (s : DriverState) (queueIndex : UInt32) :
    (virtioNetConfigureQueue hw s i queueIndex).2.guards = s.guards := by
  simp only [virtioNetConfigureQueue]
  split
  · rfl
  · rw [guards_regWrites]
    rfl

/-- The checks of the identification registers leave the guards alone. -/
lemma guards_identifyDevice (s : DriverState) : (identifyDevice hw s i).2.guards = s.guards := by
  simp only [identifyDevice]
  split_ifs <;> rfl

/-- Reading the MAC address leaves the guards alone. -/
lemma guards_readMac (k : ℕ) (s : DriverState) : (readMac hw i k s).2.guards = s.guards := by
  induction k with
  | zero => rfl
  | succ k ih => exact ih

/-- The negotiation of features leaves the guards alone: it reads and writes registers, and stores
the MAC address. -/
lemma guards_negotiate (s : DriverState) : (negotiate hw s i).guards = s.guards := by
  refine (guards_modifyDevice i _ fun _ => by rfl).trans ((guards_readMac hw i 6 _).trans ?_)
  rw [guards_regRead, guards_regWrites, guards_regRead, guards_regWrite, guards_regRead,
    guards_regWrite, guards_regRead, guards_regWrite, guards_regRead, guards_regWrites]

/-- The set-up of the two queues leaves the guards alone. -/
lemma guards_setupQueues (s : DriverState) : (setupQueues hw s i).2.guards = s.guards := by
  have hrx := guards_configureQueue hw i s virtioNetRxQueue
  simp only [setupQueues]
  split
  · exact hrx
  · split
    · rw [guards_configureQueue, guards_regWrite, guards_modifyDevice i _ fun _ => by rfl, hrx]
    · rw [guards_modifyDevice i _ fun _ => by rfl, guards_configureQueue, guards_regWrite,
        guards_modifyDevice i _ fun _ => by rfl, hrx]

/-- Clearing a slot does not touch the others. -/
lemma driverOk_clearDevice (s : DriverState) (base : UInt64) (irq : UInt32) (j : ℕ) :
    ((clearDevice hw s i base irq).devices j).driverOk =
      if j = i then false else (s.devices j).driverOk := by
  unfold clearDevice
  rw [elapse_devices]
  by_cases hj : j = i
  · subst hj
    rw [modifyDevice_self, if_pos rfl]
    rfl
  · rw [modifyDevice_of_ne _ _ _ hj, if_neg hj]

/-- After the initialisation the device is ready, and the others are as before. -/
lemma driverOk_finishDevice (s : DriverState) (j : ℕ) :
    ((finishDevice hw s i).devices j).driverOk =
      if j = i then true else (s.devices j).driverOk := by
  simp only [finishDevice]
  by_cases hj : j = i
  · subst hj
    rw [modifyDevice_self, if_pos rfl]
  · rw [modifyDevice_of_ne _ _ _ hj, if_neg hj]
    rfl

/-- The end of the initialisation does not count the device. -/
lemma deviceCount_finishDevice (s : DriverState) :
    (finishDevice hw s i).deviceCount = s.deviceCount := rfl

/-- The end of the initialisation does not change the default device. -/
lemma dev_finishDevice (s : DriverState) : (finishDevice hw s i).dev = s.dev := rfl

/-- **The initialisation of a device** sets `driver_ok` of its slot exactly if it succeeds. -/
lemma virtioNetInitDevice_spec (s : DriverState) (base : UInt64) (irq : UInt32) :
    (virtioNetInitDevice hw s i base irq).2.deviceCount = s.deviceCount ∧
    (virtioNetInitDevice hw s i base irq).2.dev = s.dev ∧
    ∀ j, ((virtioNetInitDevice hw s i base irq).2.devices j).driverOk =
      if j = i then decide ((virtioNetInitDevice hw s i base irq).1 = 0)
      else (s.devices j).driverOk := by
  have hclear := driverOk_clearDevice hw i s base irq
  have hid := guards_identifyDevice hw i (clearDevice hw s i base irq)
  have hq := guards_setupQueues hw i
    (negotiate hw (identifyDevice hw (clearDevice hw s i base irq) i).2 i)
  rw [guards_negotiate, hid] at hq
  have hcount : (clearDevice hw s i base irq).deviceCount = s.deviceCount := rfl
  have hdev : (clearDevice hw s i base irq).dev = s.dev := rfl
  simp only [virtioNetInitDevice]
  split_ifs
  · refine ⟨?_, ?_, fun j => ?_⟩
    · rw [deviceCount_finishDevice, deviceCount_of_guards hq, hcount]
    · rw [dev_finishDevice, dev_of_guards hq, hdev]
    · rw [driverOk_finishDevice, driverOk_of_guards hq j, hclear j]
      split_ifs <;> rfl
  · refine ⟨(deviceCount_of_guards hq).trans hcount, (dev_of_guards hq).trans hdev, fun j => ?_⟩
    exact (driverOk_of_guards hq j).trans (hclear j)
  · refine ⟨(deviceCount_of_guards hid).trans hcount, (dev_of_guards hid).trans hdev, fun j => ?_⟩
    exact (driverOk_of_guards hid j).trans (hclear j)

/-- The devices below `n` are initialised, and no others. -/
def DriverOkBelow (n : ℕ) (s : DriverState) : Prop :=
  s.deviceCount = n ∧ ∀ i, (s.devices i).driverOk ↔ i < n

/-- The loop of `virtio_net_init_all` from the slot `k` on. -/
lemma initLoop_spec (m k : ℕ) {s : DriverState} (hs : DriverOkBelow k s) :
    (initLoop hw (List.range' k m) s).dev = s.dev ∧
      ∃ n ≤ k + m, DriverOkBelow n (initLoop hw (List.range' k m) s) := by
  induction m generalizing k s with
  | zero => exact ⟨rfl, k, le_rfl, hs⟩
  | succ m ih =>
    obtain ⟨hcount, hok⟩ := hs
    have hscan := guards_virtioNetScan hw s k
    rw [List.range'_succ]
    simp only [initLoop]
    split
    next heq =>
      refine ⟨dev_of_guards hscan, k, by omega, (deviceCount_of_guards hscan).trans hcount, ?_⟩
      intro i
      rw [driverOk_of_guards hscan, hok]
    next base irq heq =>
      obtain ⟨hcount', hdev, hok'⟩ :=
        virtioNetInitDevice_spec hw k (virtioNetScan hw s k).2 base irq
      rw [deviceCount_of_guards hscan, hcount] at hcount'
      rw [dev_of_guards hscan] at hdev
      generalize virtioNetInitDevice hw _ k base irq = r at hcount' hdev hok' ⊢
      have hslot : ∀ i, (r.2.devices i).driverOk ↔ if i = k then r.1 = 0 else i < k := by
        intro i
        rw [hok' i, driverOk_of_guards hscan]
        split_ifs
        · simp
        · exact hok i
      by_cases hzero : r.1 = 0
      · simp only [if_pos hzero]
        have hnext : DriverOkBelow (k + 1) { r.2 with deviceCount := r.2.deviceCount + 1 } := by
          refine ⟨congrArg (· + 1) hcount', fun i => (hslot i).trans ?_⟩
          split_ifs with hi
          · simp [hi, hzero]
          · omega
        obtain ⟨hdev', n, hn, hbelow⟩ := ih (k + 1) hnext
        exact ⟨hdev'.trans hdev, n, by omega, hbelow⟩
      · simp only [if_neg hzero]
        refine ⟨hdev, k, by omega, hcount', fun i => (hslot i).trans ?_⟩
        simp [hzero]
        omega

/-- After the initialisation: there are at most two devices, they are the initialised ones, and
`g_dev` is the first of them. -/
structure InitialisedBelow (s : DriverState) : Prop where
  count_le : s.deviceCount ≤ virtioNetMaxDevices
  driverOk : ∀ i, (s.devices i).driverOk ↔ i < s.deviceCount
  dev : s.dev = if 0 < s.deviceCount then some 0 else none

/-- The property depends on the guards only. -/
lemma InitialisedBelow.congr {s t : DriverState} (hs : InitialisedBelow s)
    (h : t.guards = s.guards) :
    InitialisedBelow t := by
  have hcount := deviceCount_of_guards h
  refine ⟨by rw [hcount]; exact hs.count_le, fun i => ?_, ?_⟩
  · rw [driverOk_of_guards h, hcount]
    exact hs.driverOk i
  · rw [dev_of_guards h, hcount]
    exact hs.dev

/-- **Whatever the hardware does**, exactly the devices below `g_device_count` are initialised. -/
theorem initialisedBelow_virtioNetInitAll :
    InitialisedBelow (virtioNetInitAll hw driverBoot).2 := by
  let s₀ : DriverState := { driverBoot with rxGlobalSem := hw.semCreate 0, time := 1 }
  have hboot : DriverOkBelow 0 s₀ := ⟨rfl, fun i => by simp [s₀, driverBoot, emptyDevice]⟩
  obtain ⟨hdev, n, hn, hcount, hok⟩ := initLoop_spec hw virtioNetMaxDevices 0 hboot
  have hrange : List.range virtioNetMaxDevices = List.range' 0 virtioNetMaxDevices :=
    List.range_eq_range'
  have hrun : virtioNetInitAll hw driverBoot =
      if (initLoop hw (List.range' 0 virtioNetMaxDevices) s₀).deviceCount > 0 then
        (0, { initLoop hw (List.range' 0 virtioNetMaxDevices) s₀ with dev := some 0 })
      else (-1, initLoop hw (List.range' 0 virtioNetMaxDevices) s₀) := by
    rw [← hrange]
    rfl
  rw [hrun]
  split_ifs with hpos
  · refine ⟨?_, fun i => ?_, ?_⟩
    · simp only [hcount]
      omega
    · simp only [hcount]
      exact hok i
    · exact (if_pos hpos).symm
  · refine ⟨?_, fun i => ?_, ?_⟩
    · simp only [hcount]
      omega
    · simp only [hcount]
      exact hok i
    · rw [if_neg hpos]
      exact hdev

end Outcome

end Driver
