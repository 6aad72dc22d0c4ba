import Mathlib.Logic.Function.Basic
import AAAos.Net.Ip.Ip

/-!
# UDP

`net/udp/udp.c`: the sockets of a machine with their queues, `udp_send` up to what it gives to
`ip_send`, `udp_input` and `udp_recvfrom`.

A socket is found by its address, and the list of sockets is a list of addresses.  A queue is the list
of its datagrams, the head first, and a datagram is its bytes with where it came from.  A packet is the
list of its bytes.  What a call takes from outside is in `UdpEnv`: the addresses of the interface, the
heap, and the outcome of `ip_send`.  Calls with a null pointer, the statistics, which nothing but their
own printing reads, and the printing are left out.
-/

namespace AAAos

/-! ## Constants -/

/-- `UDP_PROTOCOL`. -/
def udpProtocol : UInt8 := 17

/-- `UDP_HEADER_LEN`. -/
def udpHeaderLen : Nat := 8

/-- `UDP_MAX_PAYLOAD`. -/
def udpMaxPayload : Nat := 65535 - udpHeaderLen

/-- `UDP_RECV_QUEUE_SIZE`. -/
def udpRecvQueueSize : Nat := 16

/-- `sizeof(udp_datagram_t)`. -/
def udpDatagramSize : Nat := 32

def udpOk : Int := 0
def udpErrNomem : Int := -1
def udpErrInvalid : Int := -2
def udpErrNotbound : Int := -4
def udpErrToolarge : Int := -6
def udpErrNobufs : Int := -7

/-! ## State -/

/-- `udp_datagram_t`. -/
structure UdpDatagram where
  data : List UInt8
  srcIp : UInt32
  srcPort : UInt16
deriving DecidableEq

/-- `udp_socket_t`. -/
structure UdpSocket where
  localPort : UInt16 := 0
  bound : Bool := false
  queue : List UdpDatagram := []
deriving DecidableEq

structure Udp where
  initialized : Bool := false
  socketList : List Nat := []
  sock : Nat → UdpSocket := fun _ => {}

/-- What a call takes from outside; `heap` says for which sizes there is a block. -/
structure UdpEnv where
  ip : IpConfig
  heap : Nat → Bool := fun _ => true
  ipSend : Int := 0

/-- Whether `kmalloc` gives a block.  It gives none of size 0. -/
def UdpEnv.kmalloc (env : UdpEnv) (size : Nat) : Bool := size ≠ 0 && env.heap size

/-! ## Packets -/

/-- `udp_pseudo_header_t`, in memory. -/
def udpPseudoHeader (srcIp dstIp : UInt32) (udpLen : UInt16) : List UInt8 :=
  wordBytes (htonl srcIp) ++ (wordBytes (htonl dstIp) ++ (0 :: udpProtocol :: halfBytes (htons udpLen)))

/-- `udp_checksum`. -/
def udpChecksum (srcIp dstIp : UInt32) (udpData : List UInt8) : UInt16 :=
  complementSum (sumWords
    (sumWords 0 (udpPseudoHeader srcIp dstIp (UInt16.ofNat udpData.length))) udpData)

/-- The packet that `udp_send` builds: the header and the payload.  The checksum is stored as it is. -/
def udpPacket (srcPort dstPort checksum : UInt16) (payload : List UInt8) : List UInt8 :=
  halfBytes (htons srcPort) ++ (halfBytes (htons dstPort) ++
    (halfBytes (htons (UInt16.ofNat (udpHeaderLen + payload.length))) ++ (halfBytes checksum ++ payload)))

/-- What `udp_send` gives to `ip_send`. -/
structure IpRequest where
  destIp : UInt32
  protocol : UInt8
  packet : List UInt8
deriving DecidableEq

/-- What `udp_recvfrom` returns, what it stores in the buffer, and the source that it names. -/
structure UdpReceived where
  result : Int
  stored : List UInt8 := []
  src : Option (UInt32 × UInt16) := none
deriving DecidableEq

/-! ## Calls -/

namespace Udp

variable (s : Udp) (env : UdpEnv)

/-- `udp_find_socket`. -/
def udpFindSocket (port : UInt16) : Option Nat :=
  s.socketList.find? fun p => (s.sock p).bound && (s.sock p).localPort == port

def setQueue (p : Nat) (queue : List UdpDatagram) : Udp :=
  { s with sock := Function.update s.sock p { s.sock p with queue := queue } }

/-- `queue_datagram`. -/
def queueDatagram (p : Nat) (d : UdpDatagram) : Int × Udp :=
  if udpRecvQueueSize ≤ (s.sock p).queue.length then (udpErrNobufs, s)
  else if env.kmalloc udpDatagramSize = false then (udpErrNomem, s)
  else if env.kmalloc d.data.length = false then (udpErrNomem, s)
  else (udpOk, s.setQueue p ((s.sock p).queue ++ [d]))

/-- `dequeue_datagram`. -/
def dequeueDatagram (p : Nat) : Option UdpDatagram × Udp :=
  match (s.sock p).queue with
  | [] => (none, s)
  | d :: rest => (some d, s.setQueue p rest)

/-- The checksum that `udp_send` puts into a packet: 0 would mean that there is none. -/
def sentChecksum (ownIp destIp : UInt32) (destPort srcPort : UInt16) (data : List UInt8) : UInt16 :=
  let checksum := udpChecksum ownIp destIp (udpPacket srcPort destPort 0 data)
  if checksum = 0 then 0xFFFF else checksum

/-- `udp_send`. -/
def udpSend (destIp : UInt32) (destPort srcPort : UInt16) (data : List UInt8) :
    Int × Option IpRequest :=
  if s.initialized = false then (udpErrInvalid, none)
  else if udpMaxPayload < data.length then (udpErrToolarge, none)
  else if env.kmalloc (udpHeaderLen + data.length) = false then (udpErrNomem, none)
  else
    let checksum := sentChecksum env.ip.addr destIp destPort srcPort data
    (if env.ipSend < 0 then env.ipSend else data.length,
      some ⟨destIp, ipProtoUdp, udpPacket srcPort destPort checksum data⟩)

/-- The check of the checksum in `udp_input`. -/
def badChecksum (srcIp : UInt32) (packet : List UInt8) : Bool :=
  let checksum := udpChecksum srcIp env.ip.addr packet
  load16 packet 6 ≠ 0 && checksum ≠ 0 && checksum ≠ 0xFFFF

/-- `udp_input`. -/
def udpInput (srcIp : UInt32) (packet : List UInt8) : Int × Udp :=
  if s.initialized = false then (udpErrInvalid, s)
  else if packet.length < udpHeaderLen then (udpErrInvalid, s)
  else
    let udpLen := (htons (load16 packet 4)).toNat
    if udpLen < udpHeaderLen ∨ packet.length < udpLen then (udpErrInvalid, s)
    else if badChecksum env srcIp (packet.take udpLen) then (udpErrInvalid, s)
    else
      match s.udpFindSocket (htons (load16 packet 2)) with
      | none => (udpErrNotbound, s)
      | some p =>
        s.queueDatagram env p
          ⟨(packet.drop udpHeaderLen).take (udpLen - udpHeaderLen), srcIp, htons (load16 packet 0)⟩

/-- `udp_recvfrom`.  What it returns is the length of the datagram. -/
def udpRecvfrom (p maxLen : Nat) : UdpReceived × Udp :=
  if (s.sock p).bound = false then ({ result := udpErrNotbound }, s)
  else if maxLen = 0 then ({ result := udpErrInvalid }, s)
  else
    match s.dequeueDatagram p with
    | (none, s) => ({ result := 0 }, s)
    | (some d, s) =>
      let copyLen := if d.data.length < maxLen then d.data.length else maxLen
      (⟨d.data.length, d.data.take copyLen, some (d.srcIp, d.srcPort)⟩, s)

/-- `udp_recv`. -/
def udpRecv (port : UInt16) (maxLen : Nat) : UdpReceived × Udp :=
  if s.initialized = false then ({ result := udpErrInvalid }, s)
  else
    match s.udpFindSocket port with
    | none => ({ result := udpErrNotbound }, s)
    | some p => s.udpRecvfrom p maxLen

end Udp

end AAAos
