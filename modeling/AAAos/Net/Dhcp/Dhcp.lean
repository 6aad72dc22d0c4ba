import Mathlib.Data.Fintype.Pi
import AAAos.Lib.Memory
import AAAos.Net.Ip.Ip

/-!
# The DHCP client

`net/dhcp/dhcp.c`.  The client, the configuration of the interface that it sets, and the packets that
`udp_send` has taken from it.

A received packet is memory and a length: `dhcp_input` passes four bytes more to `dhcp_parse_options`
than it received, so what lies behind a packet can matter.  Addresses are in the order of the network,
except in the interface.  What a call takes from outside is in `DhcpEnv`: the clock, which stands still
during a call, and the outcomes of `udp_send` and `udp_bind`.  The printing is left out.
-/

namespace AAAos

/-! ## Constants -/

/-- `DHCP_PACKET_MIN_SIZE`. -/
def dhcpPacketMinSize : Nat := 236

/-- `DHCP_OPTIONS_MAX_SIZE`. -/
def dhcpOptionsMaxSize : Nat := 340

/-- `DHCP_OP_REQUEST`. -/
def dhcpOpRequest : UInt8 := 1

/-- `DHCP_OP_REPLY`. -/
def dhcpOpReply : UInt8 := 2

/-- `DHCP_HTYPE_ETHERNET`. -/
def dhcpHtypeEthernet : UInt8 := 1

/-- `DHCP_HLEN_ETHERNET`. -/
def dhcpHlenEthernet : UInt8 := 6

/-- `DHCP_FLAG_BROADCAST`. -/
def dhcpFlagBroadcast : UInt16 := 0x8000

def dhcpMsgDiscover : UInt8 := 1
def dhcpMsgOffer : UInt8 := 2
def dhcpMsgRequest : UInt8 := 3
def dhcpMsgAck : UInt8 := 5
def dhcpMsgNak : UInt8 := 6
def dhcpMsgRelease : UInt8 := 7

def dhcpOptPad : UInt8 := 0
def dhcpOptSubnetMask : UInt8 := 1
def dhcpOptRouter : UInt8 := 3
def dhcpOptDnsServer : UInt8 := 6
def dhcpOptDomainName : UInt8 := 15
def dhcpOptBroadcast : UInt8 := 28
def dhcpOptRequestedIp : UInt8 := 50
def dhcpOptLeaseTime : UInt8 := 51
def dhcpOptMsgType : UInt8 := 53
def dhcpOptServerId : UInt8 := 54
def dhcpOptParamRequest : UInt8 := 55
def dhcpOptRenewalTime : UInt8 := 58
def dhcpOptRebindingTime : UInt8 := 59
def dhcpOptClientId : UInt8 := 61
def dhcpOptEnd : UInt8 := 255

def dhcpOk : Int := 0
def dhcpErrInvalid : Int := -2
def dhcpErrTimeout : Int := -3
def dhcpErrNak : Int := -4
def dhcpErrNetwork : Int := -5
def dhcpErrNoLease : Int := -6
def dhcpErrNotInit : Int := -7

/-- `DHCP_DISCOVER_TIMEOUT` and `DHCP_REQUEST_TIMEOUT`, in ticks. -/
def dhcpTimeout : UInt64 := 4 * 1000

/-- `DHCP_MAX_RETRIES`. -/
def dhcpMaxRetries : UInt8 := 4

/-- `DHCP_DEFAULT_LEASE`. -/
def dhcpDefaultLease : UInt32 := 86400

/-! ## State -/

/-- `dhcp_state_t`. -/
inductive DhcpState
  | init | selecting | requesting | bound | renewing | rebinding | rebooting | initReboot
deriving DecidableEq, Repr

/-- `dhcp_lease_t`. -/
@[ext] structure DhcpLease where
  ipAddr : UInt32 := 0
  subnetMask : UInt32 := 0
  gateway : UInt32 := 0
  dnsServer : UInt32 := 0
  dnsServer2 : UInt32 := 0
  broadcast : UInt32 := 0
  serverIp : UInt32 := 0
  leaseTime : UInt32 := 0
  renewalTime : UInt32 := 0
  rebindTime : UInt32 := 0
  obtainedTime : UInt64 := 0
  valid : Bool := false
deriving DecidableEq

/-- `dhcp_client_t`. -/
structure DhcpClient where
  state : DhcpState := .init
  lease : DhcpLease := {}
  xid : UInt32 := 0
  mac : Fin 6 → UInt8 := fun _ => 0
  retries : UInt8 := 0
  timeoutTime : UInt64 := 0
  initialized : Bool := false
deriving DecidableEq

/-- `dhcp_packet_t`, without the two text fields, which stay zero; the options as far as they go. -/
structure DhcpPacket where
  op : UInt8
  htype : UInt8
  hlen : UInt8
  hops : UInt8 := 0
  xid : UInt32
  secs : UInt16 := 0
  flags : UInt16
  ciaddr : UInt32 := 0
  yiaddr : UInt32 := 0
  siaddr : UInt32 := 0
  giaddr : UInt32 := 0
  chaddr : Fin 6 → UInt8
  options : List UInt8 := []
deriving DecidableEq

/-- The client, the IP layer, the seed of `dhcp_rand`, and the packets sent with their
destinations. -/
structure Dhcp where
  client : DhcpClient := {}
  ip : IpConfig := {}
  randSeed : UInt32 := 0x12345678
  sent : List (DhcpPacket × UInt32) := []

/-- What a call takes from outside. -/
structure DhcpEnv where
  now : UInt64
  sends : Bool := true
  binds : Bool := true
  mac : Fin 6 → UInt8 := fun _ => 0

/-! ## Packets to send -/

/-- `dhcp_add_option`: what it appends. -/
def dhcpOption (code : UInt8) (data : List UInt8) : List UInt8 :=
  code :: UInt8.ofNat data.length :: data

/-- The magic cookie. -/
def dhcpCookie : List UInt8 := [0x63, 0x82, 0x53, 0x63]

/-- The parameter request list. -/
def dhcpParams : List UInt8 :=
  [dhcpOptSubnetMask, dhcpOptRouter, dhcpOptDnsServer, dhcpOptDomainName, dhcpOptBroadcast,
    dhcpOptLeaseTime, dhcpOptRenewalTime, dhcpOptRebindingTime]

namespace DhcpClient

/-- `dhcp_build_header`. -/
def dhcpBuildHeader (c : DhcpClient) : DhcpPacket :=
  { op := dhcpOpRequest
    htype := dhcpHtypeEthernet
    hlen := dhcpHlenEthernet
    xid := htonl c.xid
    flags := htons dhcpFlagBroadcast
    chaddr := c.mac }

/-- The client identifier. -/
def clientId (c : DhcpClient) : List UInt8 :=
  dhcpOption dhcpOptClientId (dhcpHtypeEthernet :: List.ofFn c.mac)

/-- `dhcp_build_discover`. -/
def dhcpBuildDiscover (c : DhcpClient) : DhcpPacket :=
  { c.dhcpBuildHeader with
    options := dhcpCookie ++ dhcpOption dhcpOptMsgType [dhcpMsgDiscover] ++ c.clientId ++
      dhcpOption dhcpOptParamRequest dhcpParams ++ [dhcpOptEnd] }

/-- The address asked for, in the states that name one. -/
def requestedIpOption (c : DhcpClient) (offeredIp : UInt32) : List UInt8 :=
  if c.state = .selecting ∨ c.state = .initReboot ∨ c.state = .rebooting then
    dhcpOption dhcpOptRequestedIp (wordBytes offeredIp)
  else []

/-- The server identifier, in SELECTING. -/
def serverIdOption (c : DhcpClient) (serverIp : UInt32) : List UInt8 :=
  if c.state = .selecting then dhcpOption dhcpOptServerId (wordBytes serverIp) else []

/-- `dhcp_build_request`. -/
def dhcpBuildRequest (c : DhcpClient) (offeredIp serverIp : UInt32) : DhcpPacket :=
  let header :=
    if c.state = .renewing ∨ c.state = .rebinding then
      { c.dhcpBuildHeader with ciaddr := c.lease.ipAddr, flags := 0 }
    else c.dhcpBuildHeader
  { header with
    options := dhcpCookie ++ dhcpOption dhcpOptMsgType [dhcpMsgRequest] ++ c.clientId ++
      c.requestedIpOption offeredIp ++ c.serverIdOption serverIp ++
      dhcpOption dhcpOptParamRequest dhcpParams ++ [dhcpOptEnd] }

/-- `dhcp_build_release`. -/
def dhcpBuildRelease (c : DhcpClient) : DhcpPacket :=
  { c.dhcpBuildHeader with
    ciaddr := c.lease.ipAddr
    flags := 0
    options := dhcpCookie ++ dhcpOption dhcpOptMsgType [dhcpMsgRelease] ++
      dhcpOption dhcpOptServerId (wordBytes c.lease.serverIp) ++ c.clientId ++ [dhcpOptEnd] }

end DhcpClient

/-! ## Packets received -/

/-- A word of a packet, as it lies in memory. -/
def load32 (m : Mem) (a : Nat) : UInt32 := UInt32.ofNat (readLE m a 4)

/-- What an option of `len` bytes at `ptr` puts into a lease. -/
def DhcpLease.setOption (lease : DhcpLease) (options : Mem) (code : UInt8) (len ptr : Nat) :
    DhcpLease :=
  if len < 4 then lease
  else if code = dhcpOptSubnetMask then { lease with subnetMask := load32 options ptr }
  else if code = dhcpOptRouter then { lease with gateway := load32 options ptr }
  else if code = dhcpOptDnsServer then
    if 8 ≤ len then
      { lease with dnsServer := load32 options ptr, dnsServer2 := load32 options (ptr + 4) }
    else { lease with dnsServer := load32 options ptr }
  else if code = dhcpOptBroadcast then { lease with broadcast := load32 options ptr }
  else if code = dhcpOptLeaseTime then { lease with leaseTime := htonl (load32 options ptr) }
  else if code = dhcpOptServerId then { lease with serverIp := load32 options ptr }
  else if code = dhcpOptRenewalTime then { lease with renewalTime := htonl (load32 options ptr) }
  else if code = dhcpOptRebindingTime then { lease with rebindTime := htonl (load32 options ptr) }
  else lease

/-- The loop of `dhcp_parse_options` from `ptr` on: the lease and the message type.  Each round reads
at least one byte, so as many rounds as bytes are enough. -/
def parseOptions (options : Mem) (len : Nat) :
    Nat → Nat → DhcpLease → UInt8 → DhcpLease × UInt8
  | 0, _, lease, msgType => (lease, msgType)
  | rounds + 1, ptr, lease, msgType =>
    if len ≤ ptr then (lease, msgType)
    else if options ptr = dhcpOptPad then parseOptions options len rounds (ptr + 1) lease msgType
    else if options ptr = dhcpOptEnd then (lease, msgType)
    else if len ≤ ptr + 1 then (lease, msgType)
    else
      let optLen := (options (ptr + 1)).toNat
      if len < ptr + 2 + optLen then (lease, msgType)
      else
        parseOptions options len rounds (ptr + 2 + optLen)
          (lease.setOption options (options ptr) optLen (ptr + 2))
          (if options ptr = dhcpOptMsgType ∧ 1 ≤ optLen then options (ptr + 2) else msgType)

/-- `dhcp_parse_options`; `none` is a wrong magic cookie. -/
def dhcpParseOptions (options : Mem) (len : Nat) : Option (DhcpLease × UInt8) :=
  if len < 4 ∨ (List.range 4).map options ≠ dhcpCookie then none
  else some (parseOptions options len len 4 {} 0)

/-- What `dhcp_input` takes from a packet. -/
structure DhcpReply where
  msgType : UInt8
  yiaddr : UInt32
  lease : DhcpLease

/-- The checks of `dhcp_input`, which all give the same error, and what it takes from a packet that
passes them. -/
def DhcpClient.reply (c : DhcpClient) (packet : Mem) (len : Nat) : Option DhcpReply :=
  if len < dhcpPacketMinSize then none
  else if packet 0 ≠ dhcpOpReply then none
  else if htonl (load32 packet 4) ≠ c.xid then none
  else if (fun j : Fin 6 => packet (28 + j)) ≠ c.mac then none
  else
    let optLen := min (len - dhcpPacketMinSize) dhcpOptionsMaxSize
    match dhcpParseOptions (fun j => packet (dhcpPacketMinSize + j)) (optLen + 4) with
    | none => none
    | some (lease, msgType) => some ⟨msgType, load32 packet 16, lease⟩

/-- The lease of an ACK: the address, the time, and the times that the server did not give. -/
def DhcpReply.acked (r : DhcpReply) (now : UInt64) : DhcpLease :=
  let leaseTime := if r.lease.leaseTime = 0 then dhcpDefaultLease else r.lease.leaseTime
  { r.lease with
    ipAddr := r.yiaddr
    obtainedTime := now
    valid := true
    leaseTime := leaseTime
    renewalTime := if r.lease.renewalTime = 0 then leaseTime / 2 else r.lease.renewalTime
    rebindTime := if r.lease.rebindTime = 0 then leaseTime * 7 / 8 else r.lease.rebindTime }

/-! ## Calls -/

namespace Dhcp

variable (s : Dhcp) (env : DhcpEnv)

def setState (state : DhcpState) : Dhcp := { s with client := { s.client with state := state } }

/-- The seed after `dhcp_generate_xid`. -/
def nextSeed (now : UInt64) : UInt32 := (s.randSeed ^^^ now.toUInt32) * 1103515245 + 12345

/-- `dhcp_generate_xid`, whose answer becomes the transaction of the client. -/
def newXid (now : UInt64) : Dhcp :=
  { s with
    client := { s.client with xid := (s.nextSeed now >>> 16) &&& 0x7FFFFFFF }
    randSeed := s.nextSeed now }

/-- `dhcp_init`. -/
def dhcpInit : Int × Dhcp :=
  if env.binds then (dhcpOk, { s with client := { mac := env.mac, initialized := true } })
  else (dhcpErrNetwork, { s with client := { mac := env.mac } })

/-- `dhcp_send_packet`. -/
def dhcpSendPacket (packet : DhcpPacket) (destIp : UInt32) : Int × Dhcp :=
  if env.sends then (dhcpOk, { s with sent := s.sent ++ [(packet, destIp)] })
  else (dhcpErrNetwork, s)

/-- `dhcp_discover`. -/
def dhcpDiscover : Int × Dhcp :=
  if s.client.initialized = false then (dhcpErrNotInit, s)
  else
    let s := s.newXid env.now
    let (ret, s) := s.dhcpSendPacket env s.client.dhcpBuildDiscover ipAddrBroadcast
    if ret < 0 then (ret, s)
    else
      (dhcpOk, { s with client := { s.client with
        state := .selecting, retries := 0, timeoutTime := env.now + dhcpTimeout } })

/-- `dhcp_request`. -/
def dhcpRequest (offeredIp serverIp : UInt32) : Int × Dhcp :=
  if s.client.initialized = false then (dhcpErrNotInit, s)
  else
    let destIp := if s.client.state = .renewing then htonl serverIp else ipAddrBroadcast
    let (ret, s) := s.dhcpSendPacket env (s.client.dhcpBuildRequest offeredIp serverIp) destIp
    if ret < 0 then (ret, s)
    else
      let state := if s.client.state = .selecting then .requesting else s.client.state
      (dhcpOk, { s with client := { s.client with
        state := state, timeoutTime := env.now + dhcpTimeout } })

/-- The lease is cleared, the state is INIT, and the interface has no address. -/
def dropLease : Dhcp := { s with client := { s.client with lease := {}, state := .init }, ip := {} }

/-- `dhcp_release`.  Whether the packet is sent does not matter. -/
def dhcpRelease : Int × Dhcp :=
  if s.client.initialized = false then (dhcpErrNotInit, s)
  else if s.client.lease.valid = false then (dhcpErrNoLease, s)
  else
    let (_, s) := s.dhcpSendPacket env s.client.dhcpBuildRelease (htonl s.client.lease.serverIp)
    (dhcpOk, s.dropLease)

/-- `dhcp_renew`. -/
def dhcpRenew : Int × Dhcp :=
  if s.client.initialized = false then (dhcpErrNotInit, s)
  else if s.client.lease.valid = false then (dhcpErrNoLease, s)
  else
    let s := { s with client := { s.client with state := .renewing, retries := 0 } }
    s.dhcpRequest env s.client.lease.ipAddr s.client.lease.serverIp

/-- `dhcp_apply_lease` of the stored lease, which is valid. -/
def dhcpApplyLease : Dhcp :=
  let lease := s.client.lease
  { s with ip := ⟨htonl lease.ipAddr, htonl lease.subnetMask, htonl lease.gateway⟩ }

/-- The states in which `dhcp_input` takes an ACK. -/
def acceptsAck : Bool :=
  s.client.state = .requesting ∨ s.client.state = .renewing ∨ s.client.state = .rebinding ∨
    s.client.state = .rebooting

/-- `dhcp_input`. -/
def dhcpInput (packet : Mem) (len : Nat) : Int × Dhcp :=
  if s.client.initialized = false then (dhcpErrNotInit, s)
  else
    match s.client.reply packet len with
    | none => (dhcpErrInvalid, s)
    | some r =>
      if r.msgType = dhcpMsgOffer then
        if s.client.state = .selecting then
          let (ret, s) := s.dhcpRequest env r.yiaddr r.lease.serverIp
          if ret < 0 then (ret, s) else (dhcpOk, s)
        else (dhcpOk, s)
      else if r.msgType = dhcpMsgAck then
        if s.acceptsAck then
          let s := { s with client := { s.client with lease := r.acked env.now, state := .bound } }
          (dhcpOk, s.dhcpApplyLease)
        else (dhcpOk, s)
      else if r.msgType = dhcpMsgNak then (dhcpErrNak, s.dropLease)
      else (dhcpOk, s)

/-- The timeout of `dhcp_timer_tick`. -/
def dhcpRetry : Dhcp :=
  let s := { s with client := { s.client with retries := s.client.retries + 1 } }
  if dhcpMaxRetries ≤ s.client.retries then
    s.setState (if s.client.lease.valid then .rebinding else .init)
  else if s.client.state = .selecting then (s.dhcpDiscover env).2
  else (s.dhcpRequest env s.client.lease.ipAddr s.client.lease.serverIp).2

/-- The seconds since the lease was obtained. -/
def leaseElapsed (now : UInt64) : UInt64 := (now - s.client.lease.obtainedTime) / 1000

/-- The BOUND case of `dhcp_timer_tick`. -/
def dhcpBoundTick : Dhcp :=
  if s.client.lease.valid = false then s
  else if s.client.lease.leaseTime.toUInt64 ≤ s.leaseElapsed env.now then s.dropLease
  else if s.client.lease.rebindTime.toUInt64 ≤ s.leaseElapsed env.now then
    let s := { s with client := { s.client with state := .rebinding, retries := 0 } }
    (s.dhcpRequest env s.client.lease.ipAddr s.client.lease.serverIp).2
  else if s.client.lease.renewalTime.toUInt64 ≤ s.leaseElapsed env.now then (s.dhcpRenew env).2
  else s

/-- `dhcp_timer_tick`. -/
def dhcpTimerTick : Dhcp :=
  if s.client.initialized = false then s
  else
    match s.client.state with
    | .selecting | .requesting | .renewing | .rebinding =>
      if s.client.timeoutTime ≤ env.now then s.dhcpRetry env else s
    | .bound => s.dhcpBoundTick env
    | _ => s

/-- The packet that `udp_recvfrom` gives to `dhcp_configure`, if any. -/
def configureInput : Option (Mem × Nat) → Dhcp
  | some (packet, len) => if 0 < len then (s.dhcpInput env packet len).2 else s
  | none => s

/-- One round of the loop of `dhcp_configure`: the packet that was waiting, and a timer tick; the
result if the loop ends here. -/
def configureRound (packet : Option (Mem × Nat)) : Option Int × Dhcp :=
  let s := s.configureInput env packet
  if s.client.state = .bound then (some dhcpOk, s)
  else
    let s := s.dhcpTimerTick env
    if s.client.state = .init then
      let (ret, s) := s.dhcpDiscover env
      (if ret < 0 then some ret else none, s)
    else (none, s)

/-- The loop of `dhcp_configure` over the rounds it has time for. -/
def configureLoop (deadline : UInt64) : List (DhcpEnv × Option (Mem × Nat)) → Dhcp → Int × Dhcp
  | [], s => (dhcpErrTimeout, s)
  | (env, packet) :: rounds, s =>
    if deadline ≤ env.now then (dhcpErrTimeout, s)
    else
      match s.configureRound env packet with
      | (some ret, s) => (ret, s)
      | (none, s) => configureLoop deadline rounds s

/-- `dhcp_configure`. -/
def dhcpConfigure (timeoutMs : UInt32) (rounds : List (DhcpEnv × Option (Mem × Nat))) : Int × Dhcp :=
  let (ret, s) := if s.client.initialized then (dhcpOk, s) else s.dhcpInit env
  if ret < 0 then (ret, s)
  else
    let (ret, s) := s.dhcpDiscover env
    if ret < 0 then (ret, s)
    else configureLoop (env.now + timeoutMs.toUInt64) rounds s

end Dhcp

end AAAos
