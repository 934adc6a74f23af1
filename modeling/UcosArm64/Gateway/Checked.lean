import UcosArm64.Gateway.NetDemo

set_option relaxedAutoImplicit false
set_option autoImplicit false

/-!
# Frame processing with checked accesses

The code of `net_demo_process_frame` once more, with every load from and every store to the RX
buffer and the local reply frame guarded by the size of the object. An access that leaves its object
ends the run with `none`; otherwise the run computes what the unchecked code computes.

## Main definitions

* `Gateway.rxFrameSize` — the part of the RX buffer behind the virtio header.
* `Gateway.Checked.access` — an access with its bounds check.
* `Gateway.Checked.netDemoProcessFrame` — the whole function, with checked accesses.

## Design

The checked functions repeat the definitions of `UcosArm64.Gateway.NetDemo` line by line. Where the
C code skips a load (the right side of `&&`), the checked code makes it: the loads in question are
from the fixed headers. `virtio_net_send_frame_dev` copies at most 1518 bytes and is not repeated.
-/

namespace Gateway

/-- `VIRTIO_NET_BUFFER_SIZE - sizeof(struct virtio_net_hdr)` -/
def rxFrameSize : ℕ := 2048 - 12

/-! ## Loads and stores -/

/-- An access to the `len` bytes at the offset `o` of an object of `size` bytes, with the result
`x`; `none` is the out-of-bounds branch. -/
def Checked.access {α : Type} (size o len : ℕ) (x : α) : Option α :=
  if o + len ≤ size then some x else none

/-- A byte load. -/
def Checked.rd8 (size : ℕ) (f : Frame) (o : ℕ) : Option UInt8 := access size o 1 (f o)

/-- A 16-bit load. -/
def Checked.rd16 (size : ℕ) (f : Frame) (o : ℕ) : Option UInt16 :=
  access size o 2 (Gateway.rd16 f o)

/-- The load of an IPv4 address. -/
def Checked.rdIp (size : ℕ) (f : Frame) (o : ℕ) : Option Ip4 := access size o 4 (Gateway.rdIp f o)

/-- The load of an Ethernet address. -/
def Checked.rdMac (size : ℕ) (f : Frame) (o : ℕ) : Option Mac :=
  access size o 6 (Gateway.rdMac f o)

/-- A byte store. -/
def Checked.wr8 (size : ℕ) (f : Frame) (o : ℕ) (v : UInt8) : Option Frame :=
  access size o 1 (Gateway.wr8 f o v)

/-- A 16-bit store. -/
def Checked.wr16 (size : ℕ) (f : Frame) (o : ℕ) (v : UInt16) : Option Frame :=
  access size o 2 (Gateway.wr16 f o v)

/-- The store of an IPv4 address. -/
def Checked.wrIp (size : ℕ) (f : Frame) (o : ℕ) (ip : Ip4) : Option Frame :=
  access size o 4 (Gateway.wrIp f o ip)

/-- The store of an Ethernet address. -/
def Checked.wrMac (size : ℕ) (f : Frame) (o : ℕ) (mac : Mac) : Option Frame :=
  access size o 6 (Gateway.wrMac f o mac)

/-! ## Header fields -/

section Fields

variable (size : ℕ) (f : Frame)

/-- `util_ntohs(eth->type)` -/
def Checked.ethType : Option UInt16 := do return utilNtohs (← rd16 size f 12)

/-- `eth->src` -/
def Checked.ethSrc : Option Mac := rdMac size f 6

/-- `ip->version_ihl >> 4u` -/
def Checked.ipVersion : Option UInt8 := do return (← rd8 size f 14) >>> 4

/-- `ip->version_ihl & 0x0Fu` -/
def Checked.ipIhl : Option UInt8 := do return (← rd8 size f 14) &&& 0x0F

/-- `(ip->version_ihl & 0x0Fu) * 4u` -/
def Checked.ipHeaderLen : Option ℕ := do return (← ipIhl size f).toNat * 4

/-- `util_ntohs(ip->total_length)` -/
def Checked.ipTotalLength : Option ℕ := do return (utilNtohs (← rd16 size f 16)).toNat

/-- `ip->ttl` -/
def Checked.ipTtl : Option UInt8 := rd8 size f 22

/-- `ip->protocol` -/
def Checked.ipProtocol : Option UInt8 := rd8 size f 23

/-- `ip->src` -/
def Checked.ipSrc : Option Ip4 := rdIp size f 26

/-- `ip->dst` -/
def Checked.ipDst : Option Ip4 := rdIp size f 30

/-- The offset of the transport header. -/
def Checked.l4 : Option ℕ := do return 14 + (← ipHeaderLen size f)

/-- `icmp->type` -/
def Checked.icmpType : Option UInt8 := do rd8 size f (← l4 size f)

/-- `util_ntohs(icmp->identifier)` -/
def Checked.icmpIdentifier : Option UInt16 :=
  do return utilNtohs (← rd16 size f ((← l4 size f) + 4))

/-- `util_ntohs(tcp->src_port)` -/
def Checked.srcPort : Option UInt16 := do return utilNtohs (← rd16 size f (← l4 size f))

/-- `util_ntohs(tcp->dst_port)` -/
def Checked.dstPort : Option UInt16 := do return utilNtohs (← rd16 size f ((← l4 size f) + 2))

end Fields

/-! ## Checksums -/

/-- The `while (length > 1u)` loop of `checksum16` and the odd byte after it. -/
def Checked.sumBytes (size : ℕ) (f : Frame) : ℕ → ℕ → UInt32 → Option UInt32
  | _, 0, sum => some sum
  | o, 1, sum => do return sum + ((← rd8 size f o).toUInt32 <<< 8)
  | o, length + 2, sum => do
    let b₀ ← rd8 size f o
    let b₁ ← rd8 size f (o + 1)
    sumBytes size f (o + 2) length (sum + ((b₀.toUInt32 <<< 8) ||| b₁.toUInt32))

/-- `checksum16` -/
def Checked.checksum16 (size : ℕ) (f : Frame) (o length : ℕ) : Option UInt16 := do
  return (~~~ foldLoop 2 (← sumBytes size f o length 0)).toUInt16

/-- The loop over the transport header and data in `tcp_udp_checksum`. -/
def Checked.sumWords (size : ℕ) (f : Frame) : ℕ → ℕ → UInt32 → Option UInt32
  | _, 0, sum => some sum
  | o, 1, sum => do return sum + (utilHtons ((← rd8 size f o).toUInt16 <<< 8)).toUInt32
  | o, length + 2, sum => do
    let word ← rd16 size f o
    sumWords size f (o + 2) length (sum + word.toUInt32)

/-- The pseudo-header part of `tcp_udp_checksum`. -/
def Checked.sumPseudo (size : ℕ) (f : Frame) (transportLen : ℕ) : Option UInt32 := do
  let src₀ ← rd16 size f 26
  let src₁ ← rd16 size f 28
  let dst₀ ← rd16 size f 30
  let dst₁ ← rd16 size f 32
  let protocol ← ipProtocol size f
  return src₀.toUInt32 + src₁.toUInt32 + dst₀.toUInt32 + dst₁.toUInt32 +
    (utilHtons protocol.toUInt16).toUInt32 + (utilHtons (UInt16.ofNat transportLen)).toUInt32

/-- `tcp_udp_checksum` -/
def Checked.tcpUdpChecksum (size : ℕ) (f : Frame) (o transportLen : ℕ) : Option UInt16 := do
  let sum ← sumPseudo size f transportLen
  return (~~~ foldLoop 2 (← sumWords size f o transportLen sum)).toUInt16

/-! ## ARP -/

/-- `send_arp_request_for_ip`, for the destination of the packet in the frame. -/
def Checked.sendArpRequestForIp (c : Proc) (id : IfId) : Option Proc := do
  return Gateway.sendArpRequestForIp c id (← ipDst rxFrameSize c.frame)

/-- `send_arp_reply` -/
def Checked.sendArpReply (c : Proc) (id : IfId) : Option Proc := do
  let iface := c.net.iface id
  let dest ← ethSrc rxFrameSize c.frame
  let sha ← rdMac rxFrameSize c.frame 22
  let spa ← rdIp rxFrameSize c.frame 28
  return sendFrame c id (arpFrame dest iface.mac 2 iface.mac iface.localIp sha spa) 42

/-- The ARP branch of `net_demo_process_frame`. -/
def Checked.processArp (env : Env) (c : Proc) (id : IfId) (length : ℕ) : Option Flow :=
  if length < 42 then some (c, some 0)
  else do
    let oper := utilNtohs (← rd16 rxFrameSize c.frame 20)
    let sha ← rdMac rxFrameSize c.frame 22
    let spa ← rdIp rxFrameSize c.frame 28
    let tpa ← rdIp rxFrameSize c.frame 38
    if oper = 1 ∧ tpa = (c.net.iface id).localIp then return (← sendArpReply c id, some 1)
    else if oper = 2 then
      let c := { c with net.nat := arpCacheAdd c.net.nat (env.tick 0) spa sha }
      match id with
      | .lan => return ({ c with net.lanIf := learnPeer c.net.lanIf tpa spa sha }, some 1)
      | .wan => return ({ c with net.wanIf := learnPeer c.net.wanIf tpa spa sha }, some 1)
    else return (c, some 0)

/-! ## Rewriting a frame -/

/-- "Update IP header" -/
def Checked.updateIpHeader (size : ℕ) (f : Frame) (addr : ℕ) (ip : Ip4) : Option Frame := do
  let f ← wrIp size f addr ip
  let f ← wr8 size f 22 ((← ipTtl size f) - 1)
  let f ← wr16 size f 24 0
  wr16 size f 24 (utilHtons (← checksum16 size f 14 (← ipHeaderLen size f)))

/-- "Update ICMP identifier" -/
def Checked.updateIcmp (size : ℕ) (f : Frame) (identifier : UInt16) : Option Frame := do
  let f ← wr16 size f ((← l4 size f) + 4) (utilHtons identifier)
  let f ← wr16 size f ((← l4 size f) + 2) 0
  let icmpLen := (← ipTotalLength size f) - (← ipHeaderLen size f)
  let icmp ← l4 size f
  wr16 size f (icmp + 2) (utilHtons (← checksum16 size f icmp icmpLen))

/-- "Update transport port and checksum" -/
def Checked.updateTransport (size : ℕ) (f : Frame) (portOffset : ℕ) (port : UInt16) :
    Option Frame := do
  let csum := checksumOffset (← ipProtocol size f)
  let f ← wr16 size f ((← l4 size f) + portOffset) (utilHtons port)
  let f ← wr16 size f ((← l4 size f) + csum) 0
  let len := (← ipTotalLength size f) - (← ipHeaderLen size f)
  let transport ← l4 size f
  wr16 size f (transport + csum) (← tcpUdpChecksum size f transport len)

/-- The Ethernet part of a translation block. -/
def Checked.forward (c : Proc) (out : IfId) (nextHop : Ip4) (miss : Proc → Option Proc)
    (rewrite : Frame → Option Frame) : Option Flow := do
  let total ← ipTotalLength rxFrameSize c.frame
  let f ← wrMac rxFrameSize c.frame 6 (c.net.iface out).mac
  match arpCacheLookup c.net.nat nextHop with
  | none => return (← miss { c with frame := f }, some 1)
  | some mac =>
    let f ← rewrite (← wrMac rxFrameSize f 0 mac)
    return (sendFrame { c with frame := f } out f (14 + total), some 1)

/-! ## The translation blocks -/

/-- The common part of the inbound blocks. -/
def Checked.natInbound (c : Proc) (now : UInt32) (length : ℕ) (protocol : UInt8)
    (wanPort srcPort : UInt16) (rewrite : Ip4 → UInt16 → Frame → Option Frame) : Option Flow := do
  let r := natTranslateInbound c.net.nat now protocol wanPort (← ipSrc rxFrameSize c.frame) srcPort
  let c := { c with net.nat := r.1 }
  match r.2 with
  | none => return (c, none)
  | some (lanIp, lanPort) =>
    if length ≤ virtioNetMaxFrameSize ∧ c.net.lanIf.dev.isSome then
      forward c .lan lanIp some (rewrite lanIp lanPort)
    else return (c, none)

/-- The block for an ICMP echo reply from the WAN. -/
def Checked.natInboundIcmp (env : Env) (k : ℕ) (c : Proc) (length : ℕ) : Option Flow := do
  let wanPort ← icmpIdentifier rxFrameSize c.frame
  natInbound c (env.tick k) length natProtoIcmp wanPort 0 fun lanIp lanPort f => do
    updateIcmp rxFrameSize (← updateIpHeader rxFrameSize f 30 lanIp) lanPort

/-- The block for a TCP or UDP packet from the WAN. -/
def Checked.natInboundTransport (env : Env) (k : ℕ) (c : Proc) (length : ℕ) : Option Flow := do
  let wanPort ← dstPort rxFrameSize c.frame
  let srcPort ← srcPort rxFrameSize c.frame
  let proto := if (← ipProtocol rxFrameSize c.frame) = 6 then natProtoTcp else natProtoUdp
  natInbound c (env.tick k) length proto wanPort srcPort fun lanIp lanPort f => do
    updateTransport rxFrameSize (← updateIpHeader rxFrameSize f 30 lanIp) 2 lanPort

/-- The common part of the outbound blocks. -/
def Checked.natOutbound (c : Proc) (now : UInt32) (length : ℕ) (protocol : UInt8)
    (lanPort dstPort : UInt16) (miss : Proc → Option Proc)
    (rewrite : UInt16 → Frame → Option Frame) : Option Flow := do
  let lanIp ← ipSrc rxFrameSize c.frame
  let dstIp ← ipDst rxFrameSize c.frame
  let r := natTranslateOutbound c.net.nat now protocol lanIp lanPort dstIp dstPort
  let c := { c with net.nat := r.1 }
  match r.2 with
  | none => return (c, none)
  | some wanPort =>
    let c := { c with log := c.log ++ [.assigned protocol lanIp lanPort dstIp dstPort wanPort] }
    if length ≤ virtioNetMaxFrameSize then forward c .wan dstIp miss (rewrite wanPort)
    else return (c, none)

/-- The block for an ICMP echo request from the LAN. -/
def Checked.natOutboundIcmp (env : Env) (c : Proc) (length : ℕ) : Option Flow := do
  let icmpId ← icmpIdentifier rxFrameSize c.frame
  natOutbound c (env.tick 1) length natProtoIcmp icmpId 0 some fun wanPort f => do
    updateIcmp rxFrameSize (← updateIpHeader rxFrameSize f 26 c.net.wanIf.localIp) wanPort

/-- The block for a TCP or UDP packet from the LAN. -/
def Checked.natOutboundTransport (env : Env) (c : Proc) (length : ℕ) : Option Flow := do
  let srcPort ← srcPort rxFrameSize c.frame
  let dstPort ← dstPort rxFrameSize c.frame
  let proto := if (← ipProtocol rxFrameSize c.frame) = 6 then natProtoTcp else natProtoUdp
  natOutbound c (env.tick 1) length proto srcPort dstPort (fun c => sendArpRequestForIp c .wan)
    fun wanPort f => do
      updateTransport rxFrameSize (← updateIpHeader rxFrameSize f 26 c.net.wanIf.localIp) 0 wanPort

/-! ## The branches of the IPv4 case -/

/-- `send_icmp_echo_reply`, with the local frame of `VIRTIO_NET_MAX_FRAME_SIZE` bytes. -/
def Checked.sendIcmpEchoReply (env : Env) (c : Proc) (id : IfId) (length : ℕ) : Option Proc := do
  let length := min length virtioNetMaxFrameSize
  let rx ← access rxFrameSize 0 length c.frame
  let f ← access virtioNetMaxFrameSize 0 length fun k => if k < length then rx k else env.stack k
  let headerLen ← ipHeaderLen virtioNetMaxFrameSize f
  let payloadLen ← ipTotalLength virtioNetMaxFrameSize f
  if payloadLen < headerLen + 8 then return c
  else
    let icmpLen := payloadLen - headerLen
    let src ← ipSrc virtioNetMaxFrameSize f
    let dst ← ipDst virtioNetMaxFrameSize f
    let f ← wrMac virtioNetMaxFrameSize f 0 (← ethSrc virtioNetMaxFrameSize f)
    let f ← wrMac virtioNetMaxFrameSize f 6 (c.net.iface id).mac
    let f ← wrIp virtioNetMaxFrameSize f 26 dst
    let f ← wrIp virtioNetMaxFrameSize f 30 src
    let f ← wr8 virtioNetMaxFrameSize f 22 64
    let f ← wr16 virtioNetMaxFrameSize f 24 0
    let ipChecksum ← checksum16 virtioNetMaxFrameSize f 14 headerLen
    let f ← wr16 virtioNetMaxFrameSize f 24 (utilHtons ipChecksum)
    let f ← wr8 virtioNetMaxFrameSize f (14 + headerLen) 0
    let f ← wr8 virtioNetMaxFrameSize f (14 + headerLen + 1) 0
    let f ← wr16 virtioNetMaxFrameSize f (14 + headerLen + 2) 0
    let icmpChecksum ← checksum16 virtioNetMaxFrameSize f (14 + headerLen) icmpLen
    let f ← wr16 virtioNetMaxFrameSize f (14 + headerLen + 2) (utilHtons icmpChecksum)
    return sendFrame c id f (14 + payloadLen)

/-- The first section: ICMP from the WAN to the WAN address. -/
def Checked.wanIcmpSection (env : Env) (c : Proc) (id : IfId) (length : ℕ) : Option Flow := do
  let dst ← ipDst rxFrameSize c.frame
  let protocol ← ipProtocol rxFrameSize c.frame
  if natIsWanIp c.net.nat.natCfg dst ∧ id = .wan ∧ protocol = 1 then
    let totalLength ← ipTotalLength rxFrameSize c.frame
    if totalLength ≥ (← ipHeaderLen rxFrameSize c.frame) + 8 then
      let type ← icmpType rxFrameSize c.frame
      if type = 0 then natInboundIcmp env 1 c length
      else if type = 8 then return (← sendIcmpEchoReply env c id (14 + totalLength), some 1)
      else return (c, none)
    else return (c, none)
  else return (c, none)

/-- The second section: TCP and UDP from the WAN to the WAN address. -/
def Checked.wanTransportSection (env : Env) (c : Proc) (id : IfId) (length : ℕ) : Option Flow := do
  let dst ← ipDst rxFrameSize c.frame
  let protocol ← ipProtocol rxFrameSize c.frame
  if natIsWanIp c.net.nat.natCfg dst ∧ id = .wan ∧ (protocol = 6 ∨ protocol = 17) then
    let totalLength ← ipTotalLength rxFrameSize c.frame
    if totalLength ≥ (← ipHeaderLen rxFrameSize c.frame) + minTransportLen protocol then
      natInboundTransport env 1 c length
    else return (c, none)
  else return (c, none)

/-- `is_for_us` -/
def Checked.isForUs (c : Proc) (id : IfId) : Option Bool := do
  let dst ← ipDst rxFrameSize c.frame
  return dst = (c.net.iface id).localIp ∨ (id = .lan ∧ natIsWanIp c.net.nat.natCfg dst)

/-- A packet for the gateway itself. -/
def Checked.localSection (env : Env) (c : Proc) (id : IfId) : Option Flow := do
  let totalLength ← ipTotalLength rxFrameSize c.frame
  let headerLen ← ipHeaderLen rxFrameSize c.frame
  if totalLength < headerLen + 8 then return (c, some 0)
  else if (← ipProtocol rxFrameSize c.frame) = 1 then
    if totalLength - headerLen ≥ 8 ∧ (← icmpType rxFrameSize c.frame) = 8 then
      return (← sendIcmpEchoReply env c id (14 + totalLength), some 1)
    else return (c, none)
  else return (c, none)

/-- A packet from the LAN to the outside. -/
def Checked.lanSection (env : Env) (c : Proc) (id : IfId) (length : ℕ) : Option Flow := do
  let src ← ipSrc rxFrameSize c.frame
  let protocol ← ipProtocol rxFrameSize c.frame
  if natIsLanIp c.net.nat.natCfg src ∧ id = .lan then
    if protocol = 1 ∧ c.net.wanIf.dev.isSome then
      let totalLength ← ipTotalLength rxFrameSize c.frame
      if totalLength ≥ (← ipHeaderLen rxFrameSize c.frame) + 8 then
        if (← icmpType rxFrameSize c.frame) = 8 then natOutboundIcmp env c length
        else return (c, none)
      else return (c, none)
    else if (protocol = 6 ∨ protocol = 17) ∧ c.net.wanIf.dev.isSome then
      let totalLength ← ipTotalLength rxFrameSize c.frame
      if totalLength ≥ (← ipHeaderLen rxFrameSize c.frame) + minTransportLen protocol then
        natOutboundTransport env c length
      else return (c, none)
    else return (c, none)
  else return (c, none)

/-- The last section: return traffic again. -/
def Checked.wanLateSection (env : Env) (c : Proc) (id : IfId) (length : ℕ) : Option Flow := do
  let dst ← ipDst rxFrameSize c.frame
  let protocol ← ipProtocol rxFrameSize c.frame
  if natIsWanIp c.net.nat.natCfg dst ∧ id = .wan ∧
      (protocol = 1 ∨ protocol = 6 ∨ protocol = 17) then
    let totalLength ← ipTotalLength rxFrameSize c.frame
    let headerLen ← ipHeaderLen rxFrameSize c.frame
    if totalLength ≥ headerLen + 8 then
      if (← icmpType rxFrameSize c.frame) = 0 then natInboundIcmp env 2 c length
      else return (c, none)
    else if protocol = 6 ∨ protocol = 17 then
      if totalLength ≥ headerLen + minTransportLen protocol then natInboundTransport env 2 c length
      else return (c, none)
    else return (c, none)
  else return (c, none)

/-- Continue with the next block, unless the function has returned. -/
def Checked.next (r : Option Flow) (k : Proc → Option Flow) : Option Flow := do
  let r ← r
  match r.2 with
  | some _ => return r
  | none => k r.1

/-- The IPv4 branch of `net_demo_process_frame`. -/
def Checked.processIpv4 (env : Env) (c : Proc) (id : IfId) (length : ℕ) : Option Flow :=
  if length < 34 then some (c, some 0)
  else do
    let version ← ipVersion rxFrameSize c.frame
    let ihl ← ipIhl rxFrameSize c.frame
    if version ≠ 4 ∨ ihl < 5 then return (c, some 0)
    else
      let src ← ipSrc rxFrameSize c.frame
      let mac ← ethSrc rxFrameSize c.frame
      let c := { c with net.nat := arpCacheAdd c.net.nat (env.tick 0) src mac }
      next (wanIcmpSection env c id length) fun c =>
        next (wanTransportSection env c id length) fun c => do
          if (← isForUs c id) then localSection env c id
          else next (lanSection env c id length) fun c => wanLateSection env c id length

/-- `net_demo_process_frame`, with checked accesses. -/
def Checked.netDemoProcessFrame (env : Env) (s : NetState) (id : IfId) (frame : Frame)
    (length : ℕ) : Option (Proc × ℕ) :=
  let c : Proc := ⟨s, frame, []⟩
  let r : Option Flow :=
    if length < 14 then some (c, some 0)
    else do
      let type ← ethType rxFrameSize frame
      if type = 0x0806 then processArp env c id length
      else if type = 0x0800 then processIpv4 env c id length
      else return (c, none)
  r.bind fun r => some (r.1, r.2.getD 0)

end Gateway
