import UcosArm64.Driver.Devices

set_option relaxedAutoImplicit false
set_option autoImplicit false

/-!
# The calls of the driver

The functions that `bsp/virtio_net.h` offers after the initialisation, with the device guards of
each.

## Main definitions

* `Driver.virtioNetSendFrameDev` and so on — the functions of the driver.
* `Driver.DriverCall` — a call, and `Driver.DriverCall.target`, the device that it names.
* `Driver.Confined` — what a call may do that names a device.

## Main results

* `Driver.confined_run` — every call but `virtio_net_rx_flush_dev` is confined to the device that
  it names, and does nothing if that is not initialised.
* `Driver.confined_virtioNetRxFlushDev` — the same for a flush of a device below `g_device_count`.
* `Driver.writes_virtioNetRxFlushDev` — the other flushes.

## Design

A call is one step. A handle is any slot or `NULL`; the library gives out no others. What the
caller gets of a received frame is its length. The posts of the interrupt handler and the waiting
of the tasks are the kernel's; here a call that waits says what it waits for.
-/

namespace Driver

/-! ## The functions -/

section Functions

variable (hw : Hardware) (s : DriverState)

/-- `virtio_net_get_device` -/
def virtioNetGetDevice (index : ℕ) : Option ℕ :=
  if index ≥ s.deviceCount then none else some index

/-- `virtio_net_get_device_count` -/
def virtioNetGetDeviceCount : ℕ := s.deviceCount

/-- The loop "Find device index". -/
def findIndex (i : ℕ) : Option ℕ := (List.range s.deviceCount).find? fun devIdx => devIdx = i

/-- The samples of the used index in `virtio_net_send_frame_dev`: the last one, and how many. -/
def findRoom (i : ℕ) : UInt16 × ℕ :=
  let d := s.devices i
  let n := d.txQueueSize.toNat
  let first := hw.txUsedIdx s.time i
  if availableSlots n d.tx.availIdx first < 4 then
    pollRoom n d.tx.availIdx (fun k => hw.txUsedIdx (s.time + k) i) 100 first 1
  else (first, 1)

/-- `virtio_net_send_frame_dev` once its arguments are checked. -/
def transmitFrame (i : ℕ) (frame : List UInt8) : ℤ × DriverState :=
  let n := (s.devices i).txQueueSize.toNat
  let room := findRoom hw s i
  let s := { s with time := s.time + room.2 }.modifyDevice i fun d =>
    { d with txLastUsed := room.1 }
  if availableSlots n (s.devices i).tx.availIdx room.1 < 2 then (-1, s)
  else
    let tx := enqueueFrame n (s.devices i).tx frame
    let count := tx.txBatchCount + 1
    let s := s.modifyDevice i fun d => { d with tx := { tx with txBatchCount := count } }
    if count ≥ virtioNetTxBatchSize then
      let s := s.regWrite i virtioMmioQueueNotify virtioNetTxQueue
      (0, s.modifyDevice i fun d => { d with tx := { d.tx with txBatchCount := 0 } })
    else (0, s)

/-- `virtio_net_send_frame_dev` -/
def virtioNetSendFrameDev (dev : Option ℕ) (frame : Option (List UInt8)) : ℤ × DriverState :=
  match dev with
  | none => (-1, s)
  | some i =>
    if !(s.devices i).driverOk then (-1, s)
    else
      match frame with
      | none => (-1, s)
      | some bytes =>
        if bytes.length = 0 ∨ bytes.length > virtioNetMaxFrameSize then (-1, s)
        else transmitFrame hw s i bytes

/-- `virtio_net_tx_flush_dev` -/
def virtioNetTxFlushDev (devIdx : ℕ) : DriverState :=
  if devIdx ≥ s.deviceCount then s
  else if (s.devices devIdx).tx.txBatchCount > 0 then
    (s.regWrite devIdx virtioMmioQueueNotify virtioNetTxQueue).modifyDevice devIdx fun d =>
      { d with tx := { d.tx with txBatchCount := 0 } }
  else s

/-- `virtio_net_rx_flush_dev` -/
def virtioNetRxFlushDev (devIdx : ℕ) : DriverState :=
  if devIdx ≥ virtioNetMaxDevices then s
  else s.regWrite devIdx virtioMmioQueueNotify virtioNetRxQueue

/-- `virtio_net_poll_frame_dev`. It takes the index that it finds for the completion queue. -/
def virtioNetPollFrameDev (dev : Option ℕ) : ℤ × DriverState :=
  match dev with
  | none => (-1, s)
  | some i =>
    if !(s.devices i).driverOk then (-1, s)
    else
      match findIndex s i with
      | none => (-1, s)
      | some devIdx =>
        let n := (s.devices i).rxQueueSize.toNat
        let q := (s.devices devIdx).rx
        if q.count = 0 then (0, s)
        else
          let entry := q.completions q.head
          let s := s.modifyDevice devIdx fun d => { d with rx := dequeue n d.rx }
          if entry.descId.toNat ≥ n then (-1, s)
          else (if rxPayloadLen entry.totalLen > 0 then 1 else 0,
            s.modifyDevice i fun d => { d with rx := repostRx n d.rx entry.descId })

/-- `virtio_net_peek_rx_buffer_dev`, where `out` says that the two pointers are not `NULL`. -/
def virtioNetPeekRxBufferDev (dev : Option ℕ) (out : Bool) : Option (UInt16 × ℕ) :=
  match dev with
  | none => none
  | some i =>
    if !(s.devices i).driverOk || !out then none
    else
      match findIndex s i with
      | none => none
      | some devIdx => peekRxBuffer (s.devices i).rxQueueSize.toNat (s.devices devIdx).rx

/-- `virtio_net_release_rx_buffer_dev` -/
def virtioNetReleaseRxBufferDev (dev : Option ℕ) (descId : UInt16) : DriverState :=
  match dev with
  | none => s
  | some i =>
    if !(s.devices i).driverOk then s
    else
      match findIndex s i with
      | none => s
      | some devIdx =>
        let n := (s.devices i).rxQueueSize.toNat
        let q := (s.devices devIdx).rx
        if q.count = 0 then s
        else if (q.completions q.head).descId ≠ descId then s
        else
          (s.modifyDevice devIdx fun d => { d with rx := dequeue n d.rx }).modifyDevice i fun d =>
            { d with rx := repostRx n d.rx descId }

/-- `virtio_net_get_mac_dev` -/
def virtioNetGetMacDev (dev : Option ℕ) : Option (List UInt8) := dev.map fun i => (s.devices i).mac

/-- `virtio_net_has_pending_rx_dev` -/
def virtioNetHasPendingRxDev (dev : Option ℕ) : Bool :=
  match dev with
  | none => false
  | some i =>
    match findIndex s i with
    | none => false
    | some devIdx => (s.devices devIdx).rx.count > 0

/-- `virtio_net_has_pending_rx` -/
def virtioNetHasPendingRx : Bool :=
  (List.range s.deviceCount).any fun i => (s.devices i).rx.count > 0

/-- What a call that waits for frames does: it returns `OS_ERR_PEVENT_NULL`, it looks once a tick,
or it pends on a semaphore. -/
inductive RxWait
  | pEventNull
  | poll
  | pend

/-- `virtio_net_wait_rx_dev` -/
def virtioNetWaitRxDev (dev : Option ℕ) : RxWait :=
  match dev with
  | none => .pEventNull
  | some i => if (s.devices i).rxSem then .pend else .poll

/-- `virtio_net_wait_rx_any` -/
def virtioNetWaitRxAny : RxWait := if s.rxGlobalSem then .pend else .poll

/-- `virtio_net_self_test_registers` -/
def virtioNetSelfTestRegisters : ℤ × DriverState :=
  match s.dev with
  | none => (-1, s)
  | some i =>
    if !(s.devices i).driverOk then (-1, s)
    else
      let s := s.regWrite i virtioMmioQueueSel virtioNetRxQueue
      let rxMax := s.regRead hw i virtioMmioQueueNumMax
      let s := rxMax.2.regWrite i virtioMmioQueueSel virtioNetTxQueue
      let txMax := s.regRead hw i virtioMmioQueueNumMax
      (if rxMax.1 = 0 ∨ txMax.1 = 0 then -1 else 0, txMax.2)

/-- `virtio_net_debug_dump_status` -/
def virtioNetDebugDumpStatus : DriverState :=
  match s.dev with
  | none => s
  | some i =>
    let s := (s.regRead hw i virtioMmioStatus).2
    (s.regRead hw i virtioMmioInterruptStatus).2

/-- `virtio_net_handle_rx_used`, with what the device has written into the used ring. -/
def handleRxUsedDev (i : ℕ) : DriverState :=
  let d := s.devices i
  let q := { d.rx with usedRing := hw.rxUsedRing s.time i, usedIdx := hw.rxUsedIdx s.time i }
  let r := virtioNetHandleRxUsed d.rxQueueSize.toNat q
  let s := s.elapse.modifyDevice i fun d => { d with rx := r.1 }
  if r.2.notifyDevice then s.regWrite i virtioMmioQueueNotify virtioNetRxQueue else s

/-- The loop of `virtio_net_interrupt_handler`: all slots, not only those below `g_device_count`. -/
def findIrq (intId : UInt32) : Option ℕ :=
  (List.range virtioNetMaxDevices).find? fun i => (s.devices i).irq = intId

/-- `virtio_net_interrupt_handler` -/
def virtioNetInterruptHandler (intId : UInt32) : DriverState :=
  match findIrq s intId with
  | none => s
  | some i =>
    if !(s.devices i).driverOk then s
    else
      let status := s.regRead hw i virtioMmioInterruptStatus
      let s := status.2
      let s := if status.1 &&& 1 ≠ 0 then
        let used := hw.txUsedIdx s.time i
        handleRxUsedDev hw (s.elapse.modifyDevice i fun d => { d with txLastUsed := used }) i
        else s
      s.regWrite i virtioMmioInterruptAck status.1

end Functions

/-! ## Calls -/

/-- A call of a function of `virtio_net.h` other than the two that initialise. -/
inductive DriverCall
  | getDevice (index : ℕ)
  | getDeviceCount
  | sendFrameDev (dev : Option ℕ) (frame : Option (List UInt8))
  | pollFrameDev (dev : Option ℕ)
  | getMacDev (dev : Option ℕ)
  | enableInterruptsDev (dev : Option ℕ)
  | hasPendingRxDev (dev : Option ℕ)
  | waitRxDev (dev : Option ℕ)
  | waitRxAny
  | txFlushDev (devIdx : ℕ)
  | rxFlushDev (devIdx : ℕ)
  | peekRxBufferDev (dev : Option ℕ) (out : Bool)
  | releaseRxBufferDev (dev : Option ℕ) (descId : UInt16)
  | selfTestRegisters
  | sendFrame (frame : Option (List UInt8))
  | pollFrame
  | getMac
  | debugDumpStatus
  | interruptHandler (intId : UInt32)
  | hasPendingRx
  | enableInterrupts
  deriving DecidableEq

/-- What a call returns. -/
inductive DriverValue
  | unit
  | handle (dev : Option ℕ)
  | count (n : ℕ)
  | int (value : ℤ)
  | flag (value : Bool)
  | mac (bytes : Option (List UInt8))
  | frame (value : Option (UInt16 × ℕ))
  | wait (value : RxWait)

/-- The value of a call, and the state after it. The legacy functions call those of `g_dev`, if it
is not `NULL`. -/
def DriverCall.run (hw : Hardware) (s : DriverState) : DriverCall → DriverValue × DriverState
  | .getDevice index => (.handle (virtioNetGetDevice s index), s)
  | .getDeviceCount => (.count (virtioNetGetDeviceCount s), s)
  | .sendFrameDev dev frame => (virtioNetSendFrameDev hw s dev frame).map .int id
  | .pollFrameDev dev => (virtioNetPollFrameDev s dev).map .int id
  | .getMacDev dev => (.mac (virtioNetGetMacDev s dev), s)
  | .enableInterruptsDev _ => (.unit, s)
  | .hasPendingRxDev dev => (.flag (virtioNetHasPendingRxDev s dev), s)
  | .waitRxDev dev => (.wait (virtioNetWaitRxDev s dev), s)
  | .waitRxAny => (.wait (virtioNetWaitRxAny s), s)
  | .txFlushDev devIdx => (.unit, virtioNetTxFlushDev s devIdx)
  | .rxFlushDev devIdx => (.unit, virtioNetRxFlushDev s devIdx)
  | .peekRxBufferDev dev out => (.frame (virtioNetPeekRxBufferDev s dev out), s)
  | .releaseRxBufferDev dev descId => (.unit, virtioNetReleaseRxBufferDev s dev descId)
  | .selfTestRegisters => (virtioNetSelfTestRegisters hw s).map .int id
  | .sendFrame frame => (virtioNetSendFrameDev hw s s.dev frame).map .int id
  | .pollFrame => (virtioNetPollFrameDev s s.dev).map .int id
  | .getMac => (.mac (virtioNetGetMacDev s s.dev), s)
  | .debugDumpStatus => (.unit, virtioNetDebugDumpStatus hw s)
  | .interruptHandler intId => (.unit, virtioNetInterruptHandler hw s intId)
  | .hasPendingRx => (.flag (virtioNetHasPendingRx s), s)
  | .enableInterrupts => (.unit, s)

/-- The device that a call names, `none` for `NULL` or for a call that names no device. -/
def DriverCall.target (s : DriverState) : DriverCall → Option ℕ
  | .sendFrameDev dev _ | .pollFrameDev dev | .getMacDev dev | .enableInterruptsDev dev
  | .hasPendingRxDev dev | .waitRxDev dev | .peekRxBufferDev dev _ | .releaseRxBufferDev dev _ =>
    dev
  | .getDevice devIdx | .txFlushDev devIdx | .rxFlushDev devIdx => some devIdx
  | .selfTestRegisters | .sendFrame _ | .pollFrame | .getMac | .debugDumpStatus
  | .enableInterrupts => s.dev
  | .interruptHandler intId => findIrq s intId
  | .getDeviceCount | .waitRxAny | .hasPendingRx => none

/-! ## What the calls do to the hardware -/

/-- The initialisation of the device has completed. -/
def DriverState.Initialised (s : DriverState) (i : ℕ) : Prop :=
  i < s.deviceCount ∧ (s.devices i).driverOk

instance (s : DriverState) (i : ℕ) : Decidable (s.Initialised i) :=
  inferInstanceAs (Decidable (_ ∧ _))

/-- The write goes to a register of an initialised device. -/
def DriverState.Allows (s : DriverState) (w : RegWrite) : Prop :=
  s.Initialised w.dev ∧
    ∃ offset < virtioMmioConfig, w.addr = (s.devices w.dev).base + offset.toUInt64

/-- What a call may do: it leaves the guards as they are, and writes only to registers of the device
that it names, which is initialised. -/
structure Confined (target : Option ℕ) (s t : DriverState) : Prop where
  guards : t.guards = s.guards
  writes : ∃ ws, t.writes = s.writes ++ ws ∧ ∀ w ∈ ws, target = some w.dev ∧ s.Allows w

/-- `driver_ok` is set only below `g_device_count`. -/
lemma InitialisedBelow.initialised {s : DriverState} (hs : InitialisedBelow s) {i : ℕ}
    (h : (s.devices i).driverOk) : s.Initialised i :=
  ⟨(hs.driverOk i).mp h, h⟩

section Confined

variable {s t u : DriverState} {target : Option ℕ} {i : ℕ}

/-- Whether a slot is initialised depends on the guards only. -/
lemma initialised_congr (h : t.guards = s.guards) : t.Initialised i ↔ s.Initialised i := by
  unfold DriverState.Initialised
  rw [deviceCount_of_guards h, driverOk_of_guards h]

/-- Whether a register write is allowed depends on the guards only. -/
lemma allows_congr (h : t.guards = s.guards) (w : RegWrite) : t.Allows w ↔ s.Allows w := by
  unfold DriverState.Allows
  rw [initialised_congr h, base_of_guards h]

/-- Doing nothing is confined to any slot. -/
lemma Confined.refl (target : Option ℕ) (s : DriverState) : Confined target s s :=
  ⟨rfl, [], by simp, by simp⟩

/-- Confined steps, one after the other. -/
lemma Confined.trans (h₁ : Confined target s t) (h₂ : Confined target t u) :
    Confined target s u := by
  obtain ⟨ws₁, hw₁, hall₁⟩ := h₁.writes
  obtain ⟨ws₂, hw₂, hall₂⟩ := h₂.writes
  refine ⟨h₂.guards.trans h₁.guards, ws₁ ++ ws₂, by rw [hw₂, hw₁, List.append_assoc], ?_⟩
  intro w hw
  rcases List.mem_append.mp hw with hw | hw
  · exact hall₁ w hw
  · exact ⟨(hall₂ w hw).1, (allows_congr h₁.guards w).mp (hall₂ w hw).2⟩

/-- A step that writes no register. -/
lemma Confined.of_writes_eq (hg : t.guards = s.guards) (hw : t.writes = s.writes) :
    Confined target s t :=
  ⟨hg, [], by rw [hw, List.append_nil], by simp⟩

/-- A change of a device outside the guards is confined to any slot. -/
lemma Confined.modifyDevice (s : DriverState) {f : VirtioNetDevice → VirtioNetDevice}
    (h : ∀ d, ((f d).base, (f d).irq, (f d).driverOk) = (d.base, d.irq, d.driverOk)) :
    Confined target s (s.modifyDevice i f) :=
  .of_writes_eq (guards_modifyDevice i s h) rfl

/-- A write to a register of the device that the call names. -/
lemma Confined.regWrite (h : s.Initialised i) {offset : UInt32} (hoff : offset < virtioMmioConfig)
    (value : UInt32) : Confined (some i) s (s.regWrite i offset value) := by
  refine ⟨rfl, [⟨i, (s.devices i).base + offset.toUInt64, value⟩], rfl, fun w hw => ?_⟩
  obtain rfl := List.mem_singleton.mp hw
  exact ⟨rfl, h, offset, hoff, rfl⟩

/-- A confined step leaves the initialised slots initialised. -/
lemma Confined.initialised (h : Confined target s t) (hi : s.Initialised i) : t.Initialised i :=
  (initialised_congr h.guards).mpr hi

end Confined

section Calls

variable (hw : Hardware) {s : DriverState} {i : ℕ}

/-- Sending a frame on an initialised slot writes to that slot only. -/
lemma confined_transmitFrame (h : s.Initialised i) (frame : List UInt8) :
    Confined (some i) s (transmitFrame hw s i frame).2 := by
  unfold transmitFrame
  generalize findRoom hw s i = room
  extract_lets n room s₁ tx count s₂ s₃
  have h₁ : Confined (some i) s s₁ :=
    .of_writes_eq ((guards_modifyDevice i _ fun _ => by rfl).trans rfl) rfl
  have h₂ : Confined (some i) s s₂ := h₁.trans (.modifyDevice s₁ fun _ => by rfl)
  split_ifs
  · exact h₁
  · have h₃ : Confined (some i) s s₃ := h₂.trans (.regWrite (h₂.initialised h) (by decide) _)
    dsimp only
    exact h₃.trans (.modifyDevice s₃ fun _ => rfl)
  · exact h₂

/-- `virtio_net_send_frame_dev` tests `driver_ok`. -/
lemma confined_virtioNetSendFrameDev (hs : InitialisedBelow s) (dev : Option ℕ)
    (frame : Option (List UInt8)) : Confined dev s (virtioNetSendFrameDev hw s dev frame).2 := by
  unfold virtioNetSendFrameDev
  cases dev with
  | none => exact .refl none s
  | some i =>
    cases frame with
    | none =>
      simp only
      split_ifs <;> exact .refl _ s
    | some bytes =>
      simp only
      split_ifs with hok hlen
      · exact .refl _ s
      · exact .refl _ s
      · exact confined_transmitFrame hw (hs.initialised (by simpa using hok)) bytes

/-- `virtio_net_tx_flush_dev` tests `g_device_count`. -/
lemma confined_virtioNetTxFlushDev (hs : InitialisedBelow s) (devIdx : ℕ) :
    Confined (some devIdx) s (virtioNetTxFlushDev s devIdx) := by
  unfold virtioNetTxFlushDev
  split_ifs with hidx hbatch
  · exact .refl _ s
  · have hi : s.Initialised devIdx := ⟨by omega, (hs.driverOk devIdx).mpr (by omega)⟩
    exact (Confined.regWrite hi (by decide) _).trans (.modifyDevice _ fun _ => by rfl)
  · exact .refl _ s

/-- `virtio_net_rx_flush_dev` tests neither: it is confined if the device is there. -/
lemma confined_virtioNetRxFlushDev (hs : InitialisedBelow s) {devIdx : ℕ}
    (h : devIdx < s.deviceCount ∨ virtioNetMaxDevices ≤ devIdx) :
    Confined (some devIdx) s (virtioNetRxFlushDev s devIdx) := by
  unfold virtioNetRxFlushDev
  split_ifs with hmax
  · exact .refl _ s
  · have hlt : devIdx < s.deviceCount := h.resolve_right hmax
    exact .regWrite ⟨hlt, (hs.driverOk devIdx).mpr hlt⟩ (by decide) _

/-- `virtio_net_poll_frame_dev` writes to the slot of its argument only. -/
lemma confined_virtioNetPollFrameDev (dev : Option ℕ) :
    Confined dev s (virtioNetPollFrameDev s dev).2 := by
  unfold virtioNetPollFrameDev
  cases dev with
  | none => exact .refl none s
  | some i =>
    simp only
    split_ifs
    · exact .refl _ s
    · split
      · exact .refl _ s
      · split_ifs
        · exact .refl _ s
        · dsimp only
          exact .modifyDevice s fun _ => rfl
        all_goals
          dsimp only
          exact (Confined.modifyDevice s fun _ => by rfl).trans (.modifyDevice _ fun _ => rfl)

/-- `virtio_net_release_rx_buffer_dev` writes to the slot of its argument only. -/
lemma confined_virtioNetReleaseRxBufferDev (dev : Option ℕ) (descId : UInt16) :
    Confined dev s (virtioNetReleaseRxBufferDev s dev descId) := by
  unfold virtioNetReleaseRxBufferDev
  cases dev with
  | none => exact .refl none s
  | some i =>
    simp only
    split_ifs
    · exact .refl _ s
    · split
      · exact .refl _ s
      · split_ifs
        · exact .refl _ s
        · exact .refl _ s
        · exact (Confined.modifyDevice s fun _ => by rfl).trans (.modifyDevice _ fun _ => rfl)

/-- A read of a register. -/
lemma Confined.regRead (s : DriverState) (target : Option ℕ) (i : ℕ) (offset : UInt32) :
    Confined target s (s.regRead hw i offset).2 :=
  .of_writes_eq rfl rfl

/-- `virtio_net_self_test_registers` tests `driver_ok`. -/
lemma confined_virtioNetSelfTestRegisters (hs : InitialisedBelow s) :
    Confined s.dev s (virtioNetSelfTestRegisters hw s).2 := by
  unfold virtioNetSelfTestRegisters
  split
  next hdev =>
    exact .refl _ s
  next i hdev =>
    rw [hdev]
    split_ifs with hok
    · exact .refl _ s
    · have hi : s.Initialised i := hs.initialised (by simpa using hok)
      have h₁ : Confined (some i) s (s.regWrite i virtioMmioQueueSel virtioNetRxQueue) :=
        Confined.regWrite hi (by decide) virtioNetRxQueue
      have h₂ := h₁.trans (.regRead hw _ _ i virtioMmioQueueNumMax)
      have hsel : virtioMmioQueueSel < virtioMmioConfig := by decide
      have h₃ := h₂.trans (.regWrite (h₂.initialised hi) hsel virtioNetTxQueue)
      exact h₃.trans (.regRead hw _ _ i virtioMmioQueueNumMax)

/-- `virtio_net_debug_dump_status` writes to the default slot only. -/
lemma confined_virtioNetDebugDumpStatus :
    Confined s.dev s (virtioNetDebugDumpStatus hw s) := by
  unfold virtioNetDebugDumpStatus
  split
  · exact .refl _ s
  · exact (Confined.regRead hw s _ _ virtioMmioStatus).trans
      (.regRead hw _ _ _ virtioMmioInterruptStatus)

/-- Scanning the used ring of an initialised slot writes to that slot only. -/
lemma confined_handleRxUsedDev (h : s.Initialised i) :
    Confined (some i) s (handleRxUsedDev hw s i) := by
  unfold handleRxUsedDev
  extract_lets d rx q r s₁
  have h₁ : Confined (some i) s s₁ :=
    .of_writes_eq ((guards_modifyDevice i _ fun _ => by rfl).trans rfl) rfl
  split_ifs
  · exact h₁.trans (.regWrite (h₁.initialised h) (by decide) _)
  · exact h₁

/-- `virtio_net_interrupt_handler` tests `driver_ok`. -/
lemma confined_virtioNetInterruptHandler (hs : InitialisedBelow s) (intId : UInt32) :
    Confined (findIrq s intId) s (virtioNetInterruptHandler hw s intId) := by
  unfold virtioNetInterruptHandler
  split
  next hirq => exact .refl _ s
  next i hirq =>
    rw [hirq]
    split_ifs with hok
    · exact .refl _ s
    · have hi : s.Initialised i := hs.initialised (by simpa using hok)
      extract_lets status s₁ used s₂
      have h₁ : Confined (some i) s s₁ := .regRead hw s _ i virtioMmioInterruptStatus
      have h₂ : Confined (some i) s s₂ := by
        simp only [s₂]
        split_ifs
        · refine h₁.trans (Confined.trans ?_ (confined_handleRxUsedDev hw ?_))
          · exact .of_writes_eq ((guards_modifyDevice i _ fun _ => by rfl).trans rfl) rfl
          · exact (initialised_congr ((guards_modifyDevice i _ fun _ => by rfl).trans rfl)).mpr hi
        · exact h₁
      exact h₂.trans (.regWrite (h₂.initialised hi) (by decide) _)

/-- **Every call is confined** to the device that it names, except `virtio_net_rx_flush_dev` when it
names a slot from `g_device_count` on. -/
theorem confined_run (hs : InitialisedBelow s) (c : DriverCall)
    (hc : ∀ devIdx, c = .rxFlushDev devIdx →
      devIdx < s.deviceCount ∨ virtioNetMaxDevices ≤ devIdx) :
    Confined (c.target s) s (c.run hw s).2 := by
  cases c with
  | sendFrameDev dev frame => exact confined_virtioNetSendFrameDev hw hs dev frame
  | pollFrameDev dev => exact confined_virtioNetPollFrameDev dev
  | txFlushDev devIdx => exact confined_virtioNetTxFlushDev hs devIdx
  | rxFlushDev devIdx => exact confined_virtioNetRxFlushDev hs (hc devIdx rfl)
  | releaseRxBufferDev dev descId => exact confined_virtioNetReleaseRxBufferDev dev descId
  | selfTestRegisters => exact confined_virtioNetSelfTestRegisters hw hs
  | sendFrame frame => exact confined_virtioNetSendFrameDev hw hs s.dev frame
  | pollFrame => exact confined_virtioNetPollFrameDev s.dev
  | debugDumpStatus => exact confined_virtioNetDebugDumpStatus hw
  | interruptHandler intId => exact confined_virtioNetInterruptHandler hw hs intId
  | _ => exact .refl _ s

/-- The other flushes write QueueNotify through the base of a slot that is not initialised. -/
lemma writes_virtioNetRxFlushDev {devIdx : ℕ} (h : devIdx < virtioNetMaxDevices) :
    (virtioNetRxFlushDev s devIdx).writes = s.writes ++
      [⟨devIdx, (s.devices devIdx).base + virtioMmioQueueNotify.toUInt64, virtioNetRxQueue⟩] := by
  unfold virtioNetRxFlushDev
  rw [if_neg (by omega)]
  rfl

/-- No call changes what the driver tests. -/
lemma guards_run (hs : InitialisedBelow s) (c : DriverCall) : (c.run hw s).2.guards = s.guards := by
  by_cases hc : ∃ devIdx, c = .rxFlushDev devIdx
  · obtain ⟨devIdx, rfl⟩ := hc
    show (virtioNetRxFlushDev s devIdx).guards = s.guards
    unfold virtioNetRxFlushDev
    split_ifs <;> rfl
  · exact (confined_run hw hs c fun devIdx h => absurd ⟨devIdx, h⟩ hc).guards

end Calls

end Driver
