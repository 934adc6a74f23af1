import UcosArm64.Driver.TxSystem
import UcosArm64.Foundations.Transition
import UcosArm64.Gateway.NetDemo

set_option relaxedAutoImplicit false
set_option autoImplicit false

/-!
# The tasks that transmit

The loop of `net_demo_run` in Task B, the loop of `net_rx_task` for each of the two interfaces, and
the receive interrupts, as far as the notification of the host about transmitted frames depends on
them. A frame that `virtio_net_send_frame_dev` accepts is counted in `tx_batch_count`, and the host
is notified when the count reaches 16, or when a receive task flushes.

## Main definitions

* `Gateway.TxCallPc`, `Gateway.RxLoopPc`, `Gateway.LoopBPc` — where the tasks stand.
* `Gateway.txCall` — the end of `virtio_net_send_frame_dev`.
* `Gateway.NetTasksState`, `Gateway.NetTasksAction`, `Gateway.netTasksStep` — the system and its
  steps.

## Design

One step is one access of one task to shared data. A task runs while no task of higher priority is
ready: Task B has priority 4, the receive tasks have 5 (LAN) and 6 (WAN). Interrupts come between
any two steps. A device is named by its interface: device 0 is that of the LAN, device 1 that of
the WAN, and `present` tells which of them were initialised.

What `net_demo_process_frame` sends is not computed here: it sends any frames to any devices. Nor
is the room in a TX queue: a call may refuse its frame at any time. A completion is the length of
its frame, and zero if it holds none. `tx_batch_count` is a natural number; it stays near its limit
of 16. The two RX flushes touch none of this data and are one step. `OSSemPend` without a timeout
returns `OS_ERR_NONE`, so the receive tasks never delay themselves.

The state also records how many frames each device has accepted since the last QueueNotify, and how
many of these Task B has sent since it last woke up. No step depends on these records.
-/

namespace Gateway

/-! ## Where the tasks stand -/

/-- Where a call of `virtio_net_send_frame_dev` stands: before it makes the frame available, before
the load and the store of `tx_batch_count++`, before the test of the count, before it writes
QueueNotify, or before it clears the count. -/
inductive TxCallPc
  | enqueue
  | load
  | store (count : ℕ)
  | compare
  | notify
  | clear
  deriving DecidableEq

/-- Where `net_rx_task` stands: before `virtio_net_has_pending_rx_dev`, before the peek, in the
processing of a frame, in a call that sends a frame with the frames still to be sent, before the
release; before the RX flushes, in `virtio_net_tx_flush_dev` before its test, before QueueNotify or
before it clears the count; before `virtio_net_wait_rx_dev`, or blocked in it. -/
inductive RxLoopPc
  | test
  | peek
  | process
  | send (dev : IfId) (call : TxCallPc) (rest : List IfId)
  | release
  | rxFlush
  | txTest (dev : IfId)
  | txNotify (dev : IfId)
  | txClear (dev : IfId)
  | wait
  | pending
  deriving DecidableEq

/-- Where the loop of `net_demo_run` stands: at its head, in a call that sends a frame, before
`OSTimeDly`, or in it with some ticks to go. -/
inductive LoopBPc
  | iterate
  | send (dev : IfId) (call : TxCallPc) (rest : List IfId)
  | sleep
  | delayed (ticks : ℕ)
  deriving DecidableEq

/-- Task B is in `OSTimeDly`. -/
def LoopBPc.asleep : LoopBPc → Bool
  | .delayed _ => true
  | _ => false

/-- The next frame of Task B. -/
def LoopBPc.next : List IfId → LoopBPc
  | [] => .sleep
  | dev :: rest => .send dev .enqueue rest

/-- The next frame of a receive task. -/
def RxLoopPc.next : List IfId → RxLoopPc
  | [] => .release
  | dev :: rest => .send dev .enqueue rest

/-- What follows `virtio_net_tx_flush_dev`. -/
def RxLoopPc.flushed : IfId → RxLoopPc
  | .lan => .txTest .wan
  | .wan => .wait

/-! ## The system -/

/-- The state of the system: the time, the ticks and the peers that Task B's loop looks at; the
completions and `rx_sem` of each device; `tx_batch_count`; the places of the tasks; and the two
records. -/
structure NetTasksState where
  time : UInt32
  lastArpTick : UInt32
  lastPingTick : IfId → UInt32
  peerMacValid : IfId → Bool
  queue : IfId → List ℕ
  rxSem : IfId → ℕ
  batch : IfId → ℕ
  rx : IfId → RxLoopPc
  loopB : LoopBPc
  unannounced : IfId → ℕ
  fresh : IfId → ℕ

/-- The start of the loops, after `net_demo_run` has sent an ARP request to each device, where
`sent` tells which of them were accepted. -/
def netTasksInit (present sent : IfId → Bool) (time : UInt32) : NetTasksState where
  time := time
  lastArpTick := time
  lastPingTick := fun _ => time
  peerMacValid := fun _ => false
  queue := fun _ => []
  rxSem := fun _ => 0
  batch := fun i => if present i && sent i then 1 else 0
  rx := fun i => if present i then .test else .pending
  loopB := .iterate
  unannounced := fun i => if present i && sent i then 1 else 0
  fresh := fun i => if present i && sent i then 1 else 0

/-- The steps: a tick; a receive interrupt of a device that has completed frames of some lengths;
the next step of Task B, whose call finds room or does not; the next step of a receive task, which
may process a frame by sending some frames and by learning its peer's address. -/
inductive NetTasksAction
  | tick
  | interrupt (dev : IfId) (lens : List ℕ)
  | taskB (accept : Bool)
  | rxTask (i : IfId) (accept : Bool) (frames : List IfId) (learn : Bool)

/-- A write of QueueNotify: all accepted frames are announced. -/
def NetTasksState.announce (s : NetTasksState) (dev : IfId) : NetTasksState :=
  { s with
    unannounced := Function.update s.unannounced dev 0
    fresh := Function.update s.fresh dev 0 }

/-- Store into `tx_batch_count`. -/
def NetTasksState.setBatch (s : NetTasksState) (dev : IfId) (count : ℕ) : NetTasksState :=
  { s with batch := Function.update s.batch dev count }

/-- A receive task moves to another place. -/
def NetTasksState.goto (s : NetTasksState) (i : IfId) (pc : RxLoopPc) : NetTasksState :=
  { s with rx := Function.update s.rx i pc }

/-- The next step of a call of `virtio_net_send_frame_dev`, and where the call stands then, `none`
when it returns; `own` is 1 for a call of Task B and 0 for a call of a receive task. -/
def txCall (present : IfId → Bool) (s : NetTasksState) (dev : IfId) (own : ℕ) (accept : Bool) :
    TxCallPc → NetTasksState × Option TxCallPc
  | .enqueue =>
    if present dev && accept then
      ({ s with
        unannounced := Function.update s.unannounced dev (s.unannounced dev + 1)
        fresh := Function.update s.fresh dev (s.fresh dev + own) }, some .load)
    else (s, none)
  | .load => (s, some (.store (s.batch dev)))
  | .store count => (s.setBatch dev (count + 1), some .compare)
  | .compare =>
    (s, if s.batch dev ≥ Driver.virtioNetTxBatchSize.toNat then some .notify else none)
  | .notify => (s.announce dev, some .clear)
  | .clear => (s.setBatch dev 0, none)

/-- An iteration of the loop of `net_demo_run`: an ARP request to every device each 1000 ticks, and
a ping to every known peer each 500 ticks. -/
def loopBIterate (present : IfId → Bool) (s : NetTasksState) : NetTasksState :=
  let arp := decide (s.time - s.lastArpTick ≥ 1000)
  let ping := fun i => present i && s.peerMacValid i && decide (s.time - s.lastPingTick i ≥ 500)
  { s with
    lastArpTick := if arp then s.time else s.lastArpTick
    lastPingTick := fun i => if ping i then s.time else s.lastPingTick i
    loopB := .next ([.lan, .wan].filter (fun i => arp && present i) ++ [.lan, .wan].filter ping) }

/-- The next step of Task B. -/
def taskBStep (present : IfId → Bool) (s : NetTasksState) (accept : Bool) : Option NetTasksState :=
  match s.loopB with
  | .iterate => some (loopBIterate present s)
  | .send dev call rest =>
    let r := txCall present s dev 1 accept call
    some { r.1 with
      loopB := match r.2 with
        | some call => .send dev call rest
        | none => .next rest }
  | .sleep => some { s with loopB := .delayed 10, fresh := fun _ => 0 }
  | .delayed _ => none

/-- The next step of the receive task of the interface `i`. -/
def rxLoopStep (present : IfId → Bool) (s : NetTasksState) (i : IfId) (accept : Bool)
    (frames : List IfId) (learn : Bool) : Option NetTasksState :=
  match s.rx i with
  | .test => some (s.goto i (if s.queue i = [] then .rxFlush else .peek))
  | .peek => some (s.goto i (if 0 < (s.queue i).headD 0 then .process else .rxFlush))
  | .process =>
    some (({ s with
      peerMacValid := Function.update s.peerMacValid i (s.peerMacValid i || learn) }).goto i
        (.next frames))
  | .send dev call rest =>
    let r := txCall present s dev 0 accept call
    some (r.1.goto i (match r.2 with
      | some call => .send dev call rest
      | none => .next rest))
  | .release =>
    some (({ s with queue := Function.update s.queue i (s.queue i).tail }).goto i .test)
  | .rxFlush => some (s.goto i (.txTest .lan))
  | .txTest dev =>
    some (s.goto i (if present dev ∧ 0 < s.batch dev then .txNotify dev else .flushed dev))
  | .txNotify dev => some ((s.announce dev).goto i (.txClear dev))
  | .txClear dev => some ((s.setBatch dev 0).goto i (.flushed dev))
  | .wait =>
    if 0 < s.rxSem i then
      some (({ s with rxSem := Function.update s.rxSem i (s.rxSem i - 1) }).goto i .test)
    else some (s.goto i .pending)
  | .pending => none

/-- The receive task that runs: Task B is in `OSTimeDly`, and the LAN task goes before the WAN
task. -/
def Running (s : NetTasksState) : IfId → Prop
  | .lan => s.loopB.asleep ∧ s.rx .lan ≠ .pending
  | .wan => s.loopB.asleep ∧ s.rx .lan = .pending ∧ s.rx .wan ≠ .pending

instance (s : NetTasksState) : (i : IfId) → Decidable (Running s i)
  | .lan => inferInstanceAs (Decidable (_ ∧ _))
  | .wan => inferInstanceAs (Decidable (_ ∧ _))

/-- The tick counts down the delay of Task B. -/
def LoopBPc.tick : LoopBPc → LoopBPc
  | .delayed (k + 2) => .delayed (k + 1)
  | .delayed _ => .iterate
  | pc => pc

/-- `virtio_net_handle_rx_used` queues the completions and posts `rx_sem`: a blocked task is
readied, and otherwise the count goes up to its limit. -/
def rxInterruptStep (s : NetTasksState) (dev : IfId) (lens : List ℕ) : NetTasksState :=
  let s := { s with queue := Function.update s.queue dev (s.queue dev ++ lens) }
  if lens = [] then s
  else if s.rx dev = .pending then s.goto dev .test
  else { s with rxSem := Function.update s.rxSem dev (min (s.rxSem dev + 1) 65535) }

/-- **One step of the system.** -/
def netTasksStep (present : IfId → Bool) (s : NetTasksState) :
    NetTasksAction → Option NetTasksState
  | .tick => some { s with time := s.time + 1, loopB := s.loopB.tick }
  | .interrupt dev lens => if present dev then some (rxInterruptStep s dev lens) else none
  | .taskB accept => taskBStep present s accept
  | .rxTask i accept frames learn =>
    if Running s i then rxLoopStep present s i accept frames learn else none

/-- All the tasks are blocked. -/
def Idle (s : NetTasksState) : Prop :=
  s.loopB.asleep ∧ s.rx .lan = .pending ∧ s.rx .wan = .pending

instance (s : NetTasksState) : Decidable (Idle s) := inferInstanceAs (Decidable (_ ∧ _))

/-- Every accepted frame has been announced, and `tx_batch_count` is zero. -/
def Announced (present : IfId → Bool) (s : NetTasksState) : Prop :=
  ∀ i, present i → s.batch i = 0 ∧ s.unannounced i = 0

end Gateway
