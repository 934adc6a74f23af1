import UcosArm64.Gateway.ArpCache
import UcosArm64.Gateway.Frame

set_option relaxedAutoImplicit false
set_option autoImplicit false

/-!
# Frame processing of `src/net_demo.c`

`net_demo_process_frame` and what it calls, as the code computes them. The in-place blocks of the
function that the source repeats (two inbound blocks occur twice, and the Ethernet part of all
blocks is the same) are definitions with parameters.

## Main definitions

* `Gateway.NetState` — the static data of `bsp/nat.c` and `src/net_demo.c`.
* `Gateway.Proc` — what the processing of one frame has done so far.
* `Gateway.natInboundIcmp`, `Gateway.natInboundTransport`, `Gateway.natOutboundIcmp`,
  `Gateway.natOutboundTransport` — the translation blocks.
* `Gateway.netDemoProcessFrame` — the whole function.
* `Gateway.NetOp`, `Gateway.netStep`, `Gateway.netLog` — frames and cleanups as operations.

## Design

A block returns `some r` when the C function returns `r` in it, and `none` when control runs out
of it; `Gateway.Flow.next` continues in the second case. The ticks that `get_tick_count` reads in
one call may differ, so the environment gives one for each place where it is read; it also gives
the contents of the uninitialised buffer in `send_icmp_echo_reply`. A device pointer is `none` for
`NULL`, and otherwise a device that is initialised, since `virtio_net_get_device` hands out no
other. `virtio_net_send_frame_dev` is modelled up to its argument check; the TX queue behind it
is not part of this module. Console output is left out.
-/

namespace Gateway

/-! ## State -/

/-- `VIRTIO_NET_MAX_FRAME_SIZE` -/
def virtioNetMaxFrameSize : ℕ := 1518

/-- `virtio_net_dev_t`, as far as frame processing reads it. -/
structure VirtioNetDev where
  mac : Mac

/-- `struct net_interface` -/
structure NetInterface where
  dev : Option VirtioNetDev
  localIp : Ip4
  peerIp : Ip4
  peerMac : Mac
  peerMacValid : Bool

/-- The two interfaces, `&g_lan_if` and `&g_wan_if`. -/
inductive IfId
  | lan
  | wan
  deriving DecidableEq

/-- The static data of `bsp/nat.c` and `src/net_demo.c`. -/
structure NetState where
  nat : NatState
  lanIf : NetInterface
  wanIf : NetInterface

/-- The interface that a pointer points to. -/
def NetState.iface (s : NetState) : IfId → NetInterface
  | .lan => s.lanIf
  | .wan => s.wanIf

/-- The state when the frame tasks start: the initialisers of `g_lan_if` and `g_wan_if` with the
devices assigned by `net_demo_run`, after `nat_init`. -/
def netInit (lanDev wanDev : Option VirtioNetDev) : NetState where
  nat := natInit natCfgInit
  lanIf := ⟨lanDev, ⟨192, 168, 1, 2⟩, ⟨192, 168, 1, 103⟩, ⟨0, 0, 0, 0, 0, 0⟩, false⟩
  wanIf := ⟨wanDev, ⟨10, 3, 5, 99⟩, ⟨10, 3, 5, 103⟩, ⟨0, 0, 0, 0, 0, 0⟩, false⟩

/-- What the processing of a frame does besides changing the state: it hands frames to a device,
and it gets WAN ports assigned by `nat_translate_outbound`. -/
inductive NetEvent
  | tx (dev : IfId) (frame : Frame) (length : ℕ)
  | assigned (protocol : UInt8) (lanIp : Ip4) (lanPort : UInt16) (dstIp : Ip4) (dstPort : UInt16)
      (wanPort : UInt16)

/-- What one call reads from its surroundings: the tick at its `k`-th place of reading, and what
the stack holds under an uninitialised buffer. -/
structure Env where
  tick : ℕ → UInt32
  stack : Frame

/-- What the processing of a frame has done so far: the static data, the buffer of the frame, and
the events. -/
structure Proc where
  net : NetState
  frame : Frame
  log : List NetEvent

/-- The result of a block: `some r` when the function returns `r` in it. -/
abbrev Flow := Proc × Option ℕ

/-- Continue with the next block, unless the function has returned. -/
def Flow.next (r : Flow) (k : Proc → Flow) : Flow :=
  match r.2 with
  | some _ => r
  | none => k r.1

/-! ## Devices -/

/-- `virtio_net_get_mac_dev` of the interface's device. -/
def NetInterface.mac (i : NetInterface) : Mac :=
  match i.dev with
  | some d => d.mac
  | none => ⟨0, 0, 0, 0, 0, 0⟩

/-- `virtio_net_send_frame_dev`: the frame is handed to the device if there is one and the length is
in range. -/
def sendFrame (c : Proc) (id : IfId) (f : Frame) (length : ℕ) : Proc :=
  if (c.net.iface id).dev.isNone then c
  else if length = 0 ∨ length > virtioNetMaxFrameSize then c
  else { c with log := c.log ++ [.tx id f length] }

/-! ## ARP -/

/-- An Ethernet header and an ARP packet for IPv4 over Ethernet. -/
def arpFrame (dest src : Mac) (oper : UInt16) (sha : Mac) (spa : Ip4) (tha : Mac) (tpa : Ip4) :
    Frame :=
  let f : Frame := fun _ => 0
  let f := wrMac (wrMac f 0 dest) 6 src
  let f := wr16 f 12 (utilHtons 0x0806)
  let f := wr16 (wr16 f 14 (utilHtons 1)) 16 (utilHtons 0x0800)
  let f := wr8 (wr8 f 18 6) 19 4
  let f := wr16 f 20 (utilHtons oper)
  wrIp (wrMac (wrIp (wrMac f 22 sha) 28 spa) 32 tha) 38 tpa

/-- `send_arp_request_for_ip` -/
def sendArpRequestForIp (c : Proc) (id : IfId) (targetIp : Ip4) : Proc :=
  let iface := c.net.iface id
  let broadcast : Mac := ⟨0xFF, 0xFF, 0xFF, 0xFF, 0xFF, 0xFF⟩
  sendFrame c id
    (arpFrame broadcast iface.mac 1 iface.mac iface.localIp ⟨0, 0, 0, 0, 0, 0⟩ targetIp) 42

/-- `send_arp_reply`, to the ARP request in the frame. -/
def sendArpReply (c : Proc) (id : IfId) : Proc :=
  let iface := c.net.iface id
  sendFrame c id
    (arpFrame (ethSrc c.frame) iface.mac 2 iface.mac iface.localIp (rdMac c.frame 22)
      (rdIp c.frame 28)) 42

/-- An ARP reply to the interface from its peer tells the peer's Ethernet address. -/
def learnPeer (i : NetInterface) (tpa spa : Ip4) (sha : Mac) : NetInterface :=
  if tpa = i.localIp ∧ spa = i.peerIp then { i with peerMac := sha, peerMacValid := true } else i

/-- The ARP branch of `net_demo_process_frame`. -/
def processArp (env : Env) (c : Proc) (id : IfId) (length : ℕ) : Flow :=
  if length < 42 then (c, some 0)
  else
    let oper := utilNtohs (rd16 c.frame 20)
    let sha := rdMac c.frame 22
    let spa := rdIp c.frame 28
    let tpa := rdIp c.frame 38
    if oper = 1 ∧ tpa = (c.net.iface id).localIp then (sendArpReply c id, some 1)
    else if oper = 2 then
      let c := { c with net.nat := arpCacheAdd c.net.nat (env.tick 0) spa sha }
      match id with
      | .lan => ({ c with net.lanIf := learnPeer c.net.lanIf tpa spa sha }, some 1)
      | .wan => ({ c with net.wanIf := learnPeer c.net.wanIf tpa spa sha }, some 1)
    else (c, some 0)

/-! ## Rewriting a frame -/

/-- "Update IP header": the address at the offset `addr` (26 is the source, 30 the destination), the
time to live and the header checksum. -/
def updateIpHeader (f : Frame) (addr : ℕ) (ip : Ip4) : Frame :=
  let f := wrIp f addr ip
  let f := wr8 f 22 (f 22 - 1)
  let f := wr16 f 24 0
  wr16 f 24 (utilHtons (checksum16 f 14 (ipHeaderLen f)))

/-- "Update ICMP identifier": the identifier and the ICMP checksum. -/
def updateIcmp (f : Frame) (identifier : UInt16) : Frame :=
  let f := wr16 f (l4 f + 4) (utilHtons identifier)
  let f := wr16 f (l4 f + 2) 0
  let icmpLen := ipTotalLength f - ipHeaderLen f
  wr16 f (l4 f + 2) (utilHtons (checksum16 f (l4 f) icmpLen))

/-- The offset of the checksum in a TCP or UDP header. -/
def checksumOffset (protocol : UInt8) : ℕ := if protocol = 6 then 16 else 6

/-- "Update transport port and checksum": the port at the offset `portOffset` of the transport
header (0 is the source, 2 the destination) and the TCP or UDP checksum. -/
def updateTransport (f : Frame) (portOffset : ℕ) (port : UInt16) : Frame :=
  let csum := checksumOffset (ipProtocol f)
  let f := wr16 f (l4 f + portOffset) (utilHtons port)
  let f := wr16 f (l4 f + csum) 0
  let len := ipTotalLength f - ipHeaderLen f
  wr16 f (l4 f + csum) (tcpUdpChecksum f (l4 f) len)

/-- The Ethernet part of a translation block: the source address is that of the outgoing device, and
the destination address is the cached one of `nextHop`; the frame is then rewritten and sent.
Without a cached address the block ends with `miss`. -/
def forward (c : Proc) (out : IfId) (nextHop : Ip4) (miss : Proc → Proc)
    (rewrite : Frame → Frame) : Flow :=
  let total := ipTotalLength c.frame
  let f := wrMac c.frame 6 (c.net.iface out).mac
  match arpCacheLookup c.net.nat nextHop with
  | none => (miss { c with frame := f }, some 1)
  | some mac =>
    let f := rewrite (wrMac f 0 mac)
    (sendFrame { c with frame := f } out f (14 + total), some 1)

/-! ## The translation blocks -/

/-- The common part of the inbound blocks: look the session up, and forward the packet to the LAN
host of the session. -/
def natInbound (c : Proc) (now : UInt32) (length : ℕ) (protocol : UInt8) (wanPort srcPort : UInt16)
    (rewrite : Ip4 → UInt16 → Frame → Frame) : Flow :=
  let r := natTranslateInbound c.net.nat now protocol wanPort (ipSrc c.frame) srcPort
  let c := { c with net.nat := r.1 }
  match r.2 with
  | none => (c, none)
  | some (lanIp, lanPort) =>
    if length ≤ virtioNetMaxFrameSize ∧ c.net.lanIf.dev.isSome then
      forward c .lan lanIp (fun c => c) (rewrite lanIp lanPort)
    else (c, none)

/-- The block for an ICMP echo reply from the WAN, at the `k`-th reading of the tick. -/
def natInboundIcmp (env : Env) (k : ℕ) (c : Proc) (length : ℕ) : Flow :=
  natInbound c (env.tick k) length natProtoIcmp (icmpIdentifier c.frame) 0
    fun lanIp lanPort f => updateIcmp (updateIpHeader f 30 lanIp) lanPort

/-- The block for a TCP or UDP packet from the WAN, at the `k`-th reading of the tick. -/
def natInboundTransport (env : Env) (k : ℕ) (c : Proc) (length : ℕ) : Flow :=
  let proto := if ipProtocol c.frame = 6 then natProtoTcp else natProtoUdp
  natInbound c (env.tick k) length proto (dstPort c.frame) (srcPort c.frame)
    fun lanIp lanPort f => updateTransport (updateIpHeader f 30 lanIp) 2 lanPort

/-- The common part of the outbound blocks: translate, with the assignment on record, and forward
the packet to the outside. -/
def natOutbound (c : Proc) (now : UInt32) (length : ℕ) (protocol : UInt8) (lanPort dstPort : UInt16)
    (miss : Proc → Proc) (rewrite : UInt16 → Frame → Frame) : Flow :=
  let lanIp := ipSrc c.frame
  let dstIp := ipDst c.frame
  let r := natTranslateOutbound c.net.nat now protocol lanIp lanPort dstIp dstPort
  let c := { c with net.nat := r.1 }
  match r.2 with
  | none => (c, none)
  | some wanPort =>
    let c := { c with log := c.log ++ [.assigned protocol lanIp lanPort dstIp dstPort wanPort] }
    if length ≤ virtioNetMaxFrameSize then forward c .wan dstIp miss (rewrite wanPort)
    else (c, none)

/-- The block for an ICMP echo request from the LAN. -/
def natOutboundIcmp (env : Env) (c : Proc) (length : ℕ) : Flow :=
  natOutbound c (env.tick 1) length natProtoIcmp (icmpIdentifier c.frame) 0 (fun c => c)
    fun wanPort f => updateIcmp (updateIpHeader f 26 c.net.wanIf.localIp) wanPort

/-- The block for a TCP or UDP packet from the LAN. If the destination is not in the ARP cache the
gateway asks for it and drops the packet. -/
def natOutboundTransport (env : Env) (c : Proc) (length : ℕ) : Flow :=
  let proto := if ipProtocol c.frame = 6 then natProtoTcp else natProtoUdp
  natOutbound c (env.tick 1) length proto (srcPort c.frame) (dstPort c.frame)
    (fun c => sendArpRequestForIp c .wan (ipDst c.frame))
    fun wanPort f => updateTransport (updateIpHeader f 26 c.net.wanIf.localIp) 0 wanPort

/-! ## The branches of the IPv4 case -/

/-- `send_icmp_echo_reply`, to the `length` bytes of the frame. -/
def sendIcmpEchoReply (env : Env) (c : Proc) (id : IfId) (length : ℕ) : Proc :=
  let length := min length virtioNetMaxFrameSize
  let f : Frame := fun k => if k < length then c.frame k else env.stack k
  let headerLen := ipHeaderLen f
  let payloadLen := ipTotalLength f
  if payloadLen < headerLen + 8 then c
  else
    let icmpLen := payloadLen - headerLen
    let src := ipSrc f
    let dst := ipDst f
    let f := wrMac (wrMac f 0 (ethSrc f)) 6 (c.net.iface id).mac
    let f := wrIp (wrIp f 26 dst) 30 src
    let f := wr8 f 22 64
    let f := wr16 f 24 0
    let f := wr16 f 24 (utilHtons (checksum16 f 14 headerLen))
    let f := wr8 (wr8 f (14 + headerLen) 0) (14 + headerLen + 1) 0
    let f := wr16 f (14 + headerLen + 2) 0
    let f := wr16 f (14 + headerLen + 2) (utilHtons (checksum16 f (14 + headerLen) icmpLen))
    sendFrame c id f (14 + payloadLen)

/-- `sizeof(struct tcp_header)` or `sizeof(struct udp_header)` -/
def minTransportLen (protocol : UInt8) : ℕ := if protocol = 6 then 20 else 8

/-- The first section: ICMP from the WAN to the WAN address. -/
def wanIcmpSection (env : Env) (c : Proc) (id : IfId) (length : ℕ) : Flow :=
  if natIsWanIp c.net.nat.natCfg (ipDst c.frame) ∧ id = .wan ∧ ipProtocol c.frame = 1 then
    if ipTotalLength c.frame ≥ ipHeaderLen c.frame + 8 then
      if icmpType c.frame = 0 then natInboundIcmp env 1 c length
      else if icmpType c.frame = 8 then
        (sendIcmpEchoReply env c id (14 + ipTotalLength c.frame), some 1)
      else (c, none)
    else (c, none)
  else (c, none)

/-- The second section: TCP and UDP from the WAN to the WAN address. -/
def wanTransportSection (env : Env) (c : Proc) (id : IfId) (length : ℕ) : Flow :=
  if natIsWanIp c.net.nat.natCfg (ipDst c.frame) ∧ id = .wan ∧
      (ipProtocol c.frame = 6 ∨ ipProtocol c.frame = 17) then
    if ipTotalLength c.frame ≥ ipHeaderLen c.frame + minTransportLen (ipProtocol c.frame) then
      natInboundTransport env 1 c length
    else (c, none)
  else (c, none)

/-- `is_for_us` -/
def isForUs (c : Proc) (id : IfId) : Bool :=
  ipDst c.frame = (c.net.iface id).localIp ∨
    (id = .lan ∧ natIsWanIp c.net.nat.natCfg (ipDst c.frame))

/-- A packet for the gateway itself: echo requests are answered. -/
def localSection (env : Env) (c : Proc) (id : IfId) : Flow :=
  let totalLength := ipTotalLength c.frame
  if totalLength < ipHeaderLen c.frame + 8 then (c, some 0)
  else if ipProtocol c.frame = 1 then
    if totalLength - ipHeaderLen c.frame ≥ 8 ∧ icmpType c.frame = 8 then
      (sendIcmpEchoReply env c id (14 + totalLength), some 1)
    else (c, none)
  else (c, none)

/-- A packet from the LAN to the outside. -/
def lanSection (env : Env) (c : Proc) (id : IfId) (length : ℕ) : Flow :=
  if natIsLanIp c.net.nat.natCfg (ipSrc c.frame) ∧ id = .lan then
    if ipProtocol c.frame = 1 ∧ c.net.wanIf.dev.isSome then
      if ipTotalLength c.frame ≥ ipHeaderLen c.frame + 8 then
        if icmpType c.frame = 8 then natOutboundIcmp env c length
        else (c, none)
      else (c, none)
    else if (ipProtocol c.frame = 6 ∨ ipProtocol c.frame = 17) ∧ c.net.wanIf.dev.isSome then
      if ipTotalLength c.frame ≥ ipHeaderLen c.frame + minTransportLen (ipProtocol c.frame) then
        natOutboundTransport env c length
      else (c, none)
    else (c, none)
  else (c, none)

/-- The last section: return traffic again, for a WAN address that is not the interface's own. The
type of an ICMP message is tested for TCP and UDP as well, and the TCP and UDP block is the
alternative of a length test that it implies. -/
def wanLateSection (env : Env) (c : Proc) (id : IfId) (length : ℕ) : Flow :=
  if natIsWanIp c.net.nat.natCfg (ipDst c.frame) ∧ id = .wan ∧
      (ipProtocol c.frame = 1 ∨ ipProtocol c.frame = 6 ∨ ipProtocol c.frame = 17) then
    if ipTotalLength c.frame ≥ ipHeaderLen c.frame + 8 then
      if icmpType c.frame = 0 then natInboundIcmp env 2 c length
      else (c, none)
    else if ipProtocol c.frame = 6 ∨ ipProtocol c.frame = 17 then
      if ipTotalLength c.frame ≥ ipHeaderLen c.frame + minTransportLen (ipProtocol c.frame) then
        natInboundTransport env 2 c length
      else (c, none)
    else (c, none)
  else (c, none)

/-- The IPv4 branch of `net_demo_process_frame`. -/
def processIpv4 (env : Env) (c : Proc) (id : IfId) (length : ℕ) : Flow :=
  if length < 34 then (c, some 0)
  else if ipVersion c.frame ≠ 4 ∨ ipIhl c.frame < 5 then (c, some 0)
  else
    let c :=
      { c with net.nat := arpCacheAdd c.net.nat (env.tick 0) (ipSrc c.frame) (ethSrc c.frame) }
    (wanIcmpSection env c id length).next fun c =>
      (wanTransportSection env c id length).next fun c =>
        if isForUs c id then localSection env c id
        else (lanSection env c id length).next fun c => wanLateSection env c id length

/-- `net_demo_process_frame` -/
def netDemoProcessFrame (env : Env) (s : NetState) (id : IfId) (frame : Frame) (length : ℕ) :
    Proc × ℕ :=
  let c : Proc := ⟨s, frame, []⟩
  let r : Flow :=
    if length < 14 then (c, some 0)
    else if ethType frame = 0x0806 then processArp env c id length
    else if ethType frame = 0x0800 then processIpv4 env c id length
    else (c, none)
  (r.1, r.2.getD 0)

/-! ## Runs -/

/-- A frame received on an interface, and a call of `nat_cleanup_expired` by the main loop. -/
inductive NetOp
  | frame (env : Env) (id : IfId) (frame : Frame) (length : ℕ)
  | cleanup (currentTicks : UInt32)

/-- The state after an operation. -/
def netStep (s : NetState) : NetOp → NetState
  | .frame env id frame length => (netDemoProcessFrame env s id frame length).1.net
  | .cleanup currentTicks => { s with nat := (natCleanupExpired s.nat currentTicks).1 }

/-- The events of an operation. -/
def netLog (s : NetState) : NetOp → List NetEvent
  | .frame env id frame length => (netDemoProcessFrame env s id frame length).1.log
  | .cleanup _ => []

end Gateway
