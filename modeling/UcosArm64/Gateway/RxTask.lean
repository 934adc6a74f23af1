import UcosArm64.Driver.QueueCalls
import UcosArm64.Kernel.SemSystem

set_option relaxedAutoImplicit false
set_option autoImplicit false

/-!
# The receive task

`net_rx_task` of `src/net_demo.c`, together with what it waits for: the RX queue of its device,
which `virtio_net_interrupt_handler` empties into the completion queue, and the semaphore `rx_sem`,
on which `virtio_net_wait_rx_dev` pends and which the handler posts. One step of the system is a
step of the task, of another task, of an interrupt, or of the device.

## Main definitions

* `Gateway.RxTaskPc`, `Gateway.netRxTaskStep` — the loop of the task.
* `Gateway.interruptHandler` — the interrupt handler.
* `Gateway.RxTaskState`, `Gateway.RxTaskAction`, `Gateway.rxTaskStep` — the system and its steps.

## Design

The kernel is the machine of all interleavings (`Kernel.semStep`), the device and the queues are
those of `Driver.RxState`. The task takes a step when it is the current task and in no call of the
kernel; its only call is `OSSemPend`. The handler runs with interrupts masked, so that it is one
step for the tasks; what the device publishes while it runs counts as published before or after.
Other tasks make any calls, but do not take from `rx_sem`, which belongs to this task; other
interrupts come at any time. The device is any device whose completions are longer than the header.

The processing of a frame (`net_demo_process_frame`) and the flushes access neither the completion
queue nor the kernel; they are a step each. The device is an initialised one, and its semaphore was
created.
-/

namespace Gateway

open Kernel (OsConfig OsErr SemState SemAction semStep semInit osSemPend osSemPendResume)

/-! ## The system -/

/-- The tasks, the priority of the receive task, the size of the RX queue, the semaphore of the
device, and the semaphore of all devices (`g_rx_global_sem`), if it was created. -/
structure RxTaskConfig (ι : Type) where
  os : OsConfig
  prio : ℕ
  prio_mem : prio ∈ os.tasks
  n : ℕ
  rxSem : ι
  globalSem : Option ι
  globalSem_ne : globalSem ≠ some rxSem

/-- Where `net_rx_task` stands: before `virtio_net_has_pending_rx_dev`; before the peek; in the
processing of a frame; before the release of its descriptor, or in the second half of the release;
before the flushes; before `virtio_net_wait_rx_dev`, or in its `OSSemPend`; before `OSTimeDly`. -/
inductive RxTaskPc
  | test
  | peek
  | process (id : UInt16)
  | release (id : UInt16)
  | repost
  | rxFlush (dev : ℕ)
  | txFlush (dev : ℕ)
  | wait
  | waiting
  | delay
  deriving DecidableEq

/-- The state of the system: the queues and the device, the kernel, and the place of the task. -/
structure RxTaskState (ι : Type) where
  rx : Driver.RxState
  os : SemState ι
  pc : RxTaskPc

/-- The steps: of the device, of the handler, of the kernel machine, and of the task. -/
inductive RxTaskAction (ι : Type)
  | device (a : Driver.RxAction)
  | interrupt
  | kernel (a : SemAction ι)
  | task

/-- After `virtio_net_wait_rx_dev`: an error makes the task delay itself. -/
def afterWait (err : OsErr) : RxTaskPc := if err = .none then .test else .delay

section

variable {ι : Type} [DecidableEq ι]

/-- The start: the queues are prepared, and multitasking starts. -/
def rxTaskInit (c : RxTaskConfig ι) (cnt : ι → UInt16) : RxTaskState ι where
  rx := Driver.rxInit c.n
  os := semInit c.os cnt
  pc := .test

/-- The next step of `net_rx_task`. -/
def netRxTaskStep (c : RxTaskConfig ι) (s : RxTaskState ι) : Option (RxTaskState ι) :=
  match s.pc with
  | .test => some { s with pc := if s.rx.count > 0 then .peek else .rxFlush 0 }
  | .peek =>
    match Driver.peekRxBuffer c.n s.rx.toRxQueue with
    | some (id, len) => some { s with pc := if len > 0 then .process id else .rxFlush 0 }
    | none => some { s with pc := .rxFlush 0 }
  | .process id => some { s with pc := .release id }
  | .release id =>
    (Driver.callStep c.n s.rx (.release id)).map fun rx =>
      { s with rx := rx, pc := if rx.task = .idle then .test else .repost }
  | .repost =>
    (Driver.taskStep c.n s.rx).map fun rx =>
      { s with rx := rx, pc := if rx.task = .idle then .test else .repost }
  | .rxFlush dev => some { s with pc := if dev = 0 then .rxFlush 1 else .txFlush 0 }
  | .txFlush dev => some { s with pc := if dev = 0 then .txFlush 1 else .wait }
  | .wait =>
    (semStep c.os s.os (.pend c.rxSem 0)).map fun os =>
      { s with
        os := os
        pc := match (osSemPend s.os.kernel c.rxSem 0).2 with
          | some err => afterWait err
          | none => .waiting }
  | .waiting => none
  | .delay => some { s with pc := .test }

/-- The posts of `virtio_net_handle_rx_used`. -/
def postRx (c : RxTaskConfig ι) (os : SemState ι) : Option (SemState ι) :=
  (semStep c.os os (.isrPost c.rxSem)).bind fun os =>
    match c.globalSem with
    | none => some os
    | some i => semStep c.os os (.isrPost i)

/-- `virtio_net_interrupt_handler`, in an interrupt. -/
def interruptHandler (c : RxTaskConfig ι) (s : RxTaskState ι) : Option (RxTaskState ι) :=
  let r := Driver.rxInterrupt c.n s.rx
  if s.os.kernel.intNesting > 0 then
    if r.2 then (postRx c s.os).map fun os => { s with rx := r.1, os := os }
    else some { s with rx := r.1 }
  else none

/-- The device's completions are longer than the header. -/
def longCompletion : Driver.RxAction → Bool
  | .write _ len => Driver.virtioNetHdrSize < len.toNat
  | _ => true

/-- What the kernel machine may do by itself: other tasks do not take from the semaphore, and the
receive task makes its calls in its own steps. -/
def kernelAllowed (c : RxTaskConfig ι) (s : RxTaskState ι) : SemAction ι → Bool
  | .pend i _ | .accept i => s.os.kernel.prioCur ≠ c.prio ∧ i ≠ c.rxSem
  | .post _ | .lock | .unlock => s.os.kernel.prioCur ≠ c.prio
  | _ => true

/-- Where the task stands after a step of the kernel machine: the end of its `OSSemPend` is the end
of `virtio_net_wait_rx_dev`. -/
def pcAfterKernel (c : RxTaskConfig ι) (s : RxTaskState ι) (a : SemAction ι) : RxTaskPc :=
  match a, s.os.pc s.os.kernel.prioCur with
  | .task, .pendResume i =>
    if s.os.kernel.prioCur = c.prio then afterWait (osSemPendResume s.os.kernel i).2 else s.pc
  | _, _ => s.pc

/-- **One step of the system.** -/
def rxTaskStep (c : RxTaskConfig ι) (s : RxTaskState ι) : RxTaskAction ι → Option (RxTaskState ι)
  | .device a =>
    if longCompletion a then (Driver.deviceStep c.n s.rx a).map fun rx => { s with rx := rx }
    else none
  | .interrupt => interruptHandler c s
  | .kernel a =>
    if kernelAllowed c s a then
      (semStep c.os s.os a).map fun os => { s with os := os, pc := pcAfterKernel c s a }
    else none
  | .task =>
    if s.os.kernel.intNesting = 0 ∧ s.os.kernel.prioCur = c.prio ∧ s.os.pc c.prio = .user then
      netRxTaskStep c s
    else none

end

end Gateway
