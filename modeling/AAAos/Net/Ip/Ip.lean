import AAAos.Net.Checksum

/-!
# The IP layer

`net/ip/ip.c`: the configuration of the interface, and which addresses it takes for its own.
-/

namespace AAAos

/-- `IP_ADDR_BROADCAST`. -/
def ipAddrBroadcast : UInt32 := 0xFFFFFFFF

/-- `IP_PROTO_UDP`. -/
def ipProtoUdp : UInt8 := 17

/-- `ip_checksum`. -/
def ipChecksum (header : List UInt8) : UInt16 := complementSum (sumWords 0 header)

/-- The address, the mask and the gateway of the IP layer. -/
structure IpConfig where
  addr : UInt32 := 0
  netmask : UInt32 := 0
  gateway : UInt32 := 0
deriving DecidableEq

namespace IpConfig

variable (c : IpConfig)

/-- `ip_is_broadcast`: the address of all, or of the own network. -/
def ipIsBroadcast (ip : UInt32) : Bool :=
  ip = ipAddrBroadcast || ip = (c.addr &&& c.netmask) ||| ~~~ c.netmask

end IpConfig

end AAAos
