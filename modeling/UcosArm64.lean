import UcosArm64.Bsp.Gic
import UcosArm64.Bsp.TmrTick
import UcosArm64.Driver.Devices
import UcosArm64.Driver.DriverCalls
import UcosArm64.Driver.RxConservation
import UcosArm64.Driver.RxInterrupt
import UcosArm64.Driver.RxPaths
import UcosArm64.Driver.TxCoherence
import UcosArm64.Driver.TxFifo
import UcosArm64.Driver.TxOwnership
import UcosArm64.Gateway.Announce
import UcosArm64.Gateway.ArpEviction
import UcosArm64.Gateway.ArpLearning
import UcosArm64.Gateway.ArpMap
import UcosArm64.Gateway.Bounds
import UcosArm64.Gateway.ChecksumAgreement
import UcosArm64.Gateway.DeviceGuards
import UcosArm64.Gateway.Disclosure
import UcosArm64.Gateway.Drain
import UcosArm64.Gateway.EchoReply
import UcosArm64.Gateway.Expiry
import UcosArm64.Gateway.Forwarding
import UcosArm64.Gateway.LocalTraffic
import UcosArm64.Gateway.NatContract
import UcosArm64.Gateway.NatReverse
import UcosArm64.Gateway.NextHop
import UcosArm64.Gateway.Provenance
import UcosArm64.Gateway.RoundTrip
import UcosArm64.Gateway.TimeToLive
import UcosArm64.Gateway.Wakeup
import UcosArm64.Kernel.EventPool
import UcosArm64.Kernel.PendLocked
import UcosArm64.Kernel.PendTimeout
import UcosArm64.Kernel.SemConservation
import UcosArm64.Kernel.SemView
import UcosArm64.Port.ContextSwitch
import UcosArm64.Port.NestedIrq
import UcosArm64.Port.VectorRegs
