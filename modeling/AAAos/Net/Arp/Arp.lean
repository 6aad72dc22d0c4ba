import AAAos.Lib.SlotTable
import AAAos.Net.Ip.Ip

/-!
# The ARP cache

`net/arp/arp.c`: the cache, the packets that go out and the packets that come in, and the timer.

The cache is a table of 64 slots; a slot that is FREE keeps what it had.  Time is counted in ticks of
`arp_timer_tick`, in 32 bits.  A packet that comes in is a list of bytes.  What a call takes from
outside is in `ArpEnv`: the addresses of the interface and the outcome of `eth_send`.  Packets that are
null pointers and the printing are left out.
-/

namespace AAAos

/-! ## Constants -/

/-- `ARP_CACHE_SIZE`. -/
def arpCacheSize : Nat := 64

/-- `ARP_CACHE_TIMEOUT`. -/
def arpCacheTimeout : UInt32 := 300

/-- `ARP_REQUEST_RETRIES`. -/
def arpRequestRetries : UInt8 := 3

/-- `ARP_REQUEST_TIMEOUT`. -/
def arpRequestTimeout : UInt32 := 1

def arpHrdEthernet : UInt16 := 1
def arpProIpv4 : UInt16 := 0x0800
def arpHlen : UInt8 := 6
def arpPlen : UInt8 := 4
def arpOpRequest : UInt16 := 1
def arpOpReply : UInt16 := 2

/-- `sizeof(arp_packet_t)`. -/
def arpPacketSize : Nat := 28

/-! ## State -/

/-- An Ethernet address. -/
abbrev Mac := Fin 6 → UInt8

def broadcastMac : Mac := fun _ => 0xFF
def zeroMac : Mac := fun _ => 0

/-- `arp_state_t`. -/
inductive ArpState
  | free | pending | resolved | stale
deriving DecidableEq, Repr

/-- `arp_entry_t`. -/
structure ArpEntry where
  ip : UInt32 := 0
  mac : Mac := zeroMac
  state : ArpState := .free
  timestamp : UInt32 := 0
  retries : UInt8 := 0
deriving DecidableEq

/-- `arp_packet_t`, its words in the order of the network. -/
structure ArpPacket where
  hrd : UInt16 := htons arpHrdEthernet
  pro : UInt16 := htons arpProIpv4
  hln : UInt8 := arpHlen
  pln : UInt8 := arpPlen
  op : UInt16
  sha : Mac
  spa : UInt32
  tha : Mac
  tpa : UInt32
deriving DecidableEq

/-- The packet that bytes hold. -/
def arpPacket (bytes : List UInt8) : ArpPacket :=
  { hrd := load16 bytes 0
    pro := load16 bytes 2
    hln := bytes.getD 4 0
    pln := bytes.getD 5 0
    op := load16 bytes 6
    sha := fun i => bytes.getD (8 + i) 0
    spa := loadWord bytes 14
    tha := fun i => bytes.getD (18 + i) 0
    tpa := loadWord bytes 24 }

/-- The cache, `arp_time`, and the packets sent with their destinations. -/
structure Arp where
  cache : Fin arpCacheSize → ArpEntry := fun _ => {}
  time : UInt32 := 0
  initialized : Bool := false
  sent : List (Mac × ArpPacket) := []

/-- What a call takes from outside. -/
structure ArpEnv where
  ip : IpConfig
  mac : Mac
  ethSend : Int := 0

namespace ArpEntry

/-- The entry is not FREE. -/
def used (e : ArpEntry) : Bool := e.state ≠ .free

/-- What `arp_timer_tick` does with an entry, at the new time. -/
def tick (e : ArpEntry) (time : UInt32) : ArpEntry :=
  match e.state with
  | .pending =>
    if arpRequestTimeout ≤ time - e.timestamp then
      if 0 < e.retries then { e with retries := e.retries - 1, timestamp := time }
      else { e with state := .free }
    else e
  | .resolved => if arpCacheTimeout ≤ time - e.timestamp then { e with state := .stale } else e
  | .stale => if arpCacheTimeout * 2 ≤ time - e.timestamp then { e with state := .free } else e
  | .free => e

/-- `arp_timer_tick` sends a request for the entry again. -/
def asksAgain (e : ArpEntry) (time : UInt32) : Bool :=
  e.state = .pending ∧ arpRequestTimeout ≤ time - e.timestamp ∧ 0 < e.retries

end ArpEntry

namespace Arp

variable (s : Arp) (env : ArpEnv)

def setEntry (i : Fin arpCacheSize) (e : ArpEntry) : Arp :=
  { s with cache := Function.update s.cache i e }

/-- `arp_init`. -/
def arpInit : Arp := { s with cache := fun _ => {}, time := 0, initialized := true }

/-- `arp_cache_find`. -/
def arpCacheFind (ip : UInt32) : Option (Fin arpCacheSize) :=
  SlotTable.find s.cache fun e => e.used && e.ip = ip

/-- The loops of `arp_cache_alloc` that look for the entry with the least time. -/
def oldest (p : ArpEntry → Bool) : Option (Fin arpCacheSize) :=
  ((List.finRange arpCacheSize).foldl
    (fun best i =>
      if p (s.cache i) && (s.cache i).timestamp < best.2 then (some i, (s.cache i).timestamp)
      else best)
    (none, 0xFFFFFFFF)).1

/-- `arp_cache_alloc`. -/
def arpCacheAlloc : Option (Fin arpCacheSize) :=
  match SlotTable.find s.cache fun e => !e.used with
  | some i => some i
  | none =>
    match s.oldest fun e => e.state = .stale with
    | some i => some i
    | none => s.oldest fun _ => true

/-- The packet of `arp_request`. -/
def requestPacket (ip : UInt32) : ArpPacket :=
  { op := htons arpOpRequest, sha := env.mac, spa := htonl env.ip.addr, tha := zeroMac,
    tpa := htonl ip }

/-- `arp_request`. -/
def arpRequest (ip : UInt32) : Int × Arp :=
  if s.initialized = false then (-1, s)
  else (env.ethSend, { s with sent := s.sent ++ [(broadcastMac, requestPacket env ip)] })

/-- `arp_reply`. -/
def arpReply (destIp : UInt32) (destMac : Mac) : Int × Arp :=
  if s.initialized = false then (-1, s)
  else
    (env.ethSend, { s with sent := s.sent ++ [(destMac,
      { op := htons arpOpReply, sha := env.mac, spa := htonl env.ip.addr, tha := destMac,
        tpa := htonl destIp })] })

/-- The new entry of `arp_lookup`, if there is a slot for it. -/
def addPending (ip : UInt32) : Arp :=
  match s.arpCacheAlloc with
  | none => s
  | some i =>
    s.setEntry i { s.cache i with
      ip := ip, state := .pending, timestamp := s.time, retries := arpRequestRetries }

/-- `arp_lookup`: the address, where it returns 0. -/
def arpLookup (ip : UInt32) : Option Mac × Arp :=
  if s.initialized = false then (none, s)
  else
    match s.arpCacheFind ip with
    | none => (none, ((s.addPending ip).arpRequest env ip).2)
    | some i =>
      match (s.cache i).state with
      | .resolved => (some (s.cache i).mac, s)
      | .pending => (none, s)
      | _ => (none, (s.arpRequest env ip).2)

/-- The slot that `arp_cache_add` writes. -/
def slotFor (ip : UInt32) : Option (Fin arpCacheSize) :=
  match s.arpCacheFind ip with
  | some i => some i
  | none => s.arpCacheAlloc

/-- `arp_cache_add`. -/
def arpCacheAdd (ip : UInt32) (mac : Mac) : Int × Arp :=
  if s.initialized = false then (-1, s)
  else if mac = zeroMac ∨ mac = broadcastMac then (-1, s)
  else
    match s.slotFor ip with
    | none => (-1, s)
    | some i => (0, s.setEntry i ⟨ip, mac, .resolved, s.time, 0⟩)

/-- `arp_cache_remove`. -/
def arpCacheRemove (ip : UInt32) : Arp :=
  match s.arpCacheFind ip with
  | none => s
  | some i => s.setEntry i { s.cache i with state := .free }

/-- The packet is one of ARP for IPv4 over Ethernet. -/
def validPacket (bytes : List UInt8) : Bool :=
  arpPacketSize ≤ bytes.length && htons (arpPacket bytes).hrd = arpHrdEthernet &&
    htons (arpPacket bytes).pro = arpProIpv4 && (arpPacket bytes).hln = arpHlen &&
    (arpPacket bytes).pln = arpPlen

/-- `arp_receive` writes the sender of the packet into the cache. -/
def learns (bytes : List UInt8) : Bool :=
  (s.arpCacheFind (htonl (arpPacket bytes).spa)).isSome || htonl (arpPacket bytes).tpa = env.ip.addr

/-- `arp_receive`. -/
def arpReceive (bytes : List UInt8) : Int × Arp :=
  if s.initialized = false then (-1, s)
  else if validPacket bytes = false then (-1, s)
  else
    let pkt := arpPacket bytes
    let s := if s.learns env bytes then (s.arpCacheAdd (htonl pkt.spa) pkt.sha).2 else s
    if htons pkt.op = arpOpRequest then
      if htonl pkt.tpa = env.ip.addr then s.arpReply env (htonl pkt.spa) pkt.sha else (0, s)
    else if htons pkt.op = arpOpReply then (0, s)
    else (-1, s)

/-- `arp_timer_tick`. -/
def arpTimerTick : Arp :=
  let time := s.time + 1
  let again := (List.finRange arpCacheSize).filter fun i => (s.cache i).asksAgain time
  { s with
    time := time
    cache := fun i => (s.cache i).tick time
    sent := if s.initialized = false then s.sent
      else s.sent ++ again.map fun i => (broadcastMac, requestPacket env (s.cache i).ip) }

end Arp

end AAAos
