import AAAos.Net.Arp.Arp
import AAAos.Net.Core.Netbuf
import AAAos.Net.InternetChecksum

/-!
# IP packets

`ip_send`, `ip_send_buf` and `ip_receive` of `net/ip/ip.c`, with `eth_send` and `eth_send_buf` of
`net/ethernet/ethernet.c` below them.

A result says beside its code which packet was built, where it was to go, and which frame the driver was given.  What
ARP knows and what the driver answers is in `IpEnv`.  Null pointers are left out.

**What goes wrong.**  `ip_send_buf` puts its header into the buffer before it knows that the packet can go out.  Where
there is no gateway or no address yet, or where Ethernet or the driver fails, the header stays in the buffer, and a retry
sends it as part of the payload (`header_left_behind`).

**What is proved.**  A receiver for which the packet is accepts it and finds what was sent, whatever padding follows
(`ipAccept_packet`), and both senders build the same packet for the same next hop.  A failure leaves the buffer as it was
exactly if it comes before the header, or does not come at all (`ip_paths_iff`).
-/

namespace AAAos

/-! ## Constants -/

def ipVersion4 : UInt8 := 4
def ipHeaderMin : Nat := 20
def ipMtuDefault : Nat := 1500
def ipTtlDefault : UInt8 := 64
def ipProtoIcmp : UInt8 := 1
def ipFlagDf : UInt16 := 0x4000
def ethHlen : Nat := 14
def ethDataMax : Nat := 1500
def ethFrameMin : Nat := 64
def ethTypeIpv4 : UInt16 := 0x0800

/-! ## Headers -/

/-- `ip_make_version_ihl`. -/
def ipMakeVersionIhl (version ihl : UInt8) : UInt8 := (version &&& 0x0F) <<< 4 ||| (ihl / 4) &&& 0x0F

/-- `ip_version`. -/
def ipVersion (versionIhl : UInt8) : UInt8 := (versionIhl >>> 4) &&& 0x0F

/-- `ip_header_len`. -/
def ipHeaderLen (versionIhl : UInt8) : UInt8 := (versionIhl &&& 0x0F) * 4

/-- `ip_is_multicast`. -/
def ipIsMulticast (ip : UInt32) : Bool := (ip &&& 0xF0000000) == 0xE0000000

/-- The part of `ip_header_t` before the checksum. -/
def ipHeaderStart (id totalLength : UInt16) (protocol : UInt8) : List UInt8 :=
  [ipMakeVersionIhl ipVersion4 20, 0] ++ (halfBytes (htons totalLength) ++ (halfBytes (htons id) ++
    (halfBytes (htons ipFlagDf) ++ [ipTtlDefault, protocol])))

/-- The part of `ip_header_t` behind the checksum. -/
def ipHeaderAddrs (srcIp dstIp : UInt32) : List UInt8 := wordBytes (htonl srcIp) ++ wordBytes (htonl dstIp)

/-- `ip_header_t`, in memory. -/
def ipHeader (c : IpConfig) (id totalLength : UInt16) (destIp : UInt32) (protocol : UInt8) (checksum : UInt16) :
    List UInt8 :=
  ipHeaderStart id totalLength protocol ++ (halfBytes checksum ++ ipHeaderAddrs c.addr destIp)

/-- The header with its checksum, which is computed with zero in its place. -/
def ipFilledHeader (c : IpConfig) (id totalLength : UInt16) (destIp : UInt32) (protocol : UInt8) : List UInt8 :=
  ipHeader c id totalLength destIp protocol (ipChecksum (ipHeader c id totalLength destIp protocol 0))

/-- `eth_header_t`, in memory. -/
def ethHeader (destMac srcMac : Mac) (ethertype : UInt16) : List UInt8 :=
  List.ofFn destMac ++ (List.ofFn srcMac ++ halfBytes (htons ethertype))

/-! ## State -/

/-- What the IP and the Ethernet layer of a machine hold. -/
structure IpHost where
  ipInitialized : Bool := false
  ip : IpConfig := {}
  ipIdCounter : UInt16 := 1
  ethInitialized : Bool := false
  localMac : Mac := zeroMac

/-- What ARP knows, and what the driver answers. -/
structure IpEnv where
  arp : UInt32 → Option Mac
  hwSend : Int

/-- Where a packet goes. -/
inductive IpRoute
  | broadcast
  | via (nextHop : UInt32)
  | noGateway
deriving DecidableEq

namespace IpConfig

/-- `ip_is_local`. -/
def ipIsLocal (c : IpConfig) (ip : UInt32) : Bool := (ip &&& c.netmask) == (c.addr &&& c.netmask)

/-- How both senders determine the next hop. -/
def route (c : IpConfig) (destIp : UInt32) : IpRoute :=
  if c.ipIsBroadcast destIp then .broadcast
  else if c.ipIsLocal destIp then .via destIp
  else if c.gateway = 0 then .noGateway
  else .via c.gateway

end IpConfig

/-- The address a packet is sent to, where it is known. -/
def IpEnv.resolve (env : IpEnv) : IpRoute → Option Mac
  | .broadcast => some broadcastMac
  | .via nextHop => env.arp nextHop
  | .noGateway => none

/-- What a sender gives: its result, the packet it built, where that was to go, and the frame the driver was given. -/
structure IpSent where
  code : Int
  packet : Option (List UInt8) := none
  route : Option IpRoute := none
  frame : Option (List UInt8) := none

namespace Netbuf

/-- Some bytes are written where the data starts. -/
def store (b : Netbuf) (bytes : List UInt8) : Netbuf :=
  b.write b.data.toNat bytes.length fun i => bytes.getD i 0

end Netbuf

namespace IpHost

/-! ## Sending -/

/-- `eth_send`, with padding up to the smallest frame. -/
def ethSend (h : IpHost) (env : IpEnv) (destMac : Mac) (ethertype : UInt16) (data : List UInt8) :
    Int × Option (List UInt8) :=
  if h.ethInitialized = false then (-1, none)
  else if ethDataMax < data.length then (-1, none)
  else
    let frame := ethHeader destMac h.localMac ethertype ++ data
    (env.hwSend, some (frame ++ List.replicate (ethFrameMin - frame.length) 0))

/-- `eth_send_buf`. -/
def ethSendBuf (h : IpHost) (env : IpEnv) (b : Netbuf) (destMac : Mac) (ethertype : UInt16) :
    Int × Option (List UInt8) × Netbuf :=
  if h.ethInitialized = false then (-1, none, b)
  else if ethDataMax < b.len.toNat then (-1, none, b)
  else match b.netbufPush 14 with
    | (none, b) => (-1, none, b)
    | (some _, b) =>
      let b := b.store (ethHeader destMac h.localMac ethertype)
      let b := { b with info := { b.info with
        srcMac := List.ofFn h.localMac, dstMac := List.ofFn destMac, protocol := ethertype } }
      (env.hwSend, some b.bytes, b)

/-- `ip_send`. -/
def ipSend (h : IpHost) (env : IpEnv) (destIp : UInt32) (protocol : UInt8) (data : List UInt8) : IpSent × IpHost :=
  if h.ipInitialized = false then (⟨-1, none, none, none⟩, h)
  else if ipMtuDefault - ipHeaderMin < data.length then (⟨-1, none, none, none⟩, h)
  else
    let packet := ipFilledHeader h.ip h.ipIdCounter (UInt16.ofNat (ipHeaderMin + data.length)) destIp protocol ++ data
    let route := h.ip.route destIp
    let h' := { h with ipIdCounter := h.ipIdCounter + 1 }
    match env.resolve route with
    | none => (⟨-1, some packet, some route, none⟩, h')
    | some mac =>
      let r := h.ethSend env mac ethTypeIpv4 packet
      (⟨r.1, some packet, some route, r.2⟩, h')

/-- `ip_send_buf`. -/
def ipSendBuf (h : IpHost) (env : IpEnv) (b : Netbuf) (destIp : UInt32) (protocol : UInt8) :
    IpSent × IpHost × Netbuf :=
  if h.ipInitialized = false then (⟨-1, none, none, none⟩, h, b)
  else match b.netbufPush 20 with
    | (none, b) => (⟨-1, none, none, none⟩, h, b)
    | (some _, b) =>
      let b := b.store (ipFilledHeader h.ip h.ipIdCounter (UInt16.ofNat b.len.toNat) destIp protocol)
      let b := { b with info := { b.info with
        srcIp := h.ip.addr, dstIp := destIp, protocol := protocol.toUInt16 } }
      let route := h.ip.route destIp
      let h' := { h with ipIdCounter := h.ipIdCounter + 1 }
      match env.resolve route with
      | none => (⟨-1, some b.bytes, some route, none⟩, h', b)
      | some mac =>
        let r := h.ethSendBuf env b mac ethTypeIpv4
        (⟨r.1, some b.bytes, some route, r.2.1⟩, h', r.2.2)

/-! ## Receiving -/

/-- What `ip_receive` finds in a packet that it accepts. -/
structure Delivered where
  srcIp : UInt32
  dstIp : UInt32
  protocol : UInt8
  payload : List UInt8
deriving DecidableEq

/-- The destinations that `ip_receive` takes for its own. -/
def isForUs (h : IpHost) (dstIp : UInt32) : Bool :=
  dstIp = h.ip.addr || h.ip.ipIsBroadcast dstIp || ipIsMulticast dstIp

/-- The checks of `ip_receive`: what the packet carries, or what is returned. -/
def ipAccept (h : IpHost) (packet : List UInt8) : Except Int Delivered :=
  if h.ipInitialized = false then .error (-1)
  else if packet.length < ipHeaderMin then .error (-1)
  else if ipVersion (packet.getD 0 0) ≠ ipVersion4 then .error (-1)
  else
    let headerLen := (ipHeaderLen (packet.getD 0 0)).toNat
    let totalLen := (htons (load16 packet 2)).toNat
    if headerLen < ipHeaderMin ∨ packet.length < headerLen then .error (-1)
    else if totalLen < headerLen ∨ packet.length < totalLen then .error (-1)
    else if ipChecksum (packet.take headerLen) ≠ 0 then .error (-1)
    else
      let dstIp := htonl (loadWord packet 16)
      if h.isForUs dstIp = false then .error 0
      else if packet.getD 8 0 = 0 then .error (-1)
      else .ok ⟨htonl (loadWord packet 12), dstIp, packet.getD 9 0,
        (packet.drop headerLen).take (totalLen - headerLen)⟩

/-- `ip_receive`.  Only ICMP has a receiver. -/
def ipReceive (h : IpHost) (icmpReceive : UInt32 → List UInt8 → Int) (packet : List UInt8) : Int :=
  match h.ipAccept packet with
  | .error code => code
  | .ok d => if d.protocol = ipProtoIcmp then icmpReceive d.srcIp d.payload else -1

end IpHost

/-! ## Headers in a buffer -/

namespace Netbuf

variable {b : Netbuf} {len : UInt64}

lemma length_bytes (b : Netbuf) : b.bytes.length = b.len.toNat := by
  rw [bytes, List.length_map, List.length_range]

lemma netbufPush_of_le (h : len ≤ b.headroom) :
    b.netbufPush len = (some (b.data - len), { b with data := b.data - len, len := b.len + len }) := by
  rw [netbufPush, if_neg (UInt64.not_lt.mpr h)]

/-- **A header in front of the data.** -/
lemma bytes_store_push (hb : b.InBounds) (h : len ≤ b.headroom) {header : List UInt8}
    (hheader : header.length = len.toNat) :
    (({ b with data := b.data - len, len := b.len + len } : Netbuf).store header).bytes = header ++ b.bytes := by
  have hle : len.toNat ≤ b.data.toNat := UInt64.le_iff_toNat_le.mp h
  have hdata : (b.data - len).toNat = b.data.toNat - len.toNat := UInt64.toNat_sub_of_le _ _ h
  unfold InBounds at hb
  have hlen : (b.len + len).toNat = b.len.toNat + len.toNat := toNat_add_of_le (c := b.capacity) (by omega)
  refine List.ext_getElem ?_ fun i hi hi' => ?_
  · rw [length_bytes, List.length_append, length_bytes, hheader]
    change (b.len + len).toNat = _
    omega
  · rw [List.getElem_append]
    simp only [bytes, store, write, List.getElem_map, List.getElem_range, hdata]
    by_cases hfirst : i < header.length
    · rw [dif_pos hfirst, if_pos (by omega), Nat.add_sub_cancel_left]
      exact List.getD_eq_getElem _ _ hfirst
    · rw [dif_neg hfirst, if_neg (by omega)]
      congr 1
      omega

end Netbuf

/-! ## What a receiver reads -/

section Received

variable {c : IpConfig} {id totalLength : UInt16} {destIp : UInt32} {protocol : UInt8} {rest : List UInt8}

@[simp] lemma length_ipHeader {checksum : UInt16} :
    (ipHeader c id totalLength destIp protocol checksum).length = ipHeaderMin := rfl

@[simp] lemma length_ipFilledHeader : (ipFilledHeader c id totalLength destIp protocol).length = ipHeaderMin := rfl

lemma ipChecksum_ipFilledHeader : ipChecksum (ipFilledHeader c id totalLength destIp protocol) = 0 :=
  @ChecksumKind.checksum_stored .ip (ipHeader c id totalLength destIp protocol 0)
    (by rw [length_ipHeader]; decide) (ipHeaderStart id totalLength protocol) (ipHeaderAddrs c.addr destIp)
    (Dvd.intro 5 rfl) rfl

lemma getD_versionIhl :
    (ipFilledHeader c id totalLength destIp protocol ++ rest).getD 0 0 = ipMakeVersionIhl ipVersion4 20 := rfl

lemma getD_ttl : (ipFilledHeader c id totalLength destIp protocol ++ rest).getD 8 0 = ipTtlDefault := rfl

lemma getD_protocol : (ipFilledHeader c id totalLength destIp protocol ++ rest).getD 9 0 = protocol := rfl

lemma load16_totalLength : load16 (ipFilledHeader c id totalLength destIp protocol ++ rest) 2 = htons totalLength :=
  (load16_drop _ 2 0).symm.trans (load16_halfBytes (htons totalLength) _)

lemma loadWord_srcAddr : loadWord (ipFilledHeader c id totalLength destIp protocol ++ rest) 12 = htonl c.addr :=
  (loadWord_drop _ 12 0).symm.trans (loadWord_wordBytes (htonl c.addr) _)

lemma loadWord_dstAddr : loadWord (ipFilledHeader c id totalLength destIp protocol ++ rest) 16 = htonl destIp :=
  (loadWord_drop _ 16 0).symm.trans (loadWord_wordBytes (htonl destIp) _)

/-- **Encoding and decoding.**  A machine for which the packet is finds in it what was sent. -/
theorem ipAccept_packet {peer : IpHost} {payload : List UInt8} (hinit : peer.ipInitialized = true)
    (hdest : peer.isForUs destIp = true) (hlen : payload.length ≤ ipMtuDefault - ipHeaderMin) (pad : List UInt8) :
    peer.ipAccept (ipFilledHeader c id (UInt16.ofNat (ipHeaderMin + payload.length)) destIp protocol ++ payload ++ pad) =
      .ok ⟨c.addr, destIp, protocol, payload⟩ := by
  have htotal : (UInt16.ofNat (ipHeaderMin + payload.length)).toNat = ipHeaderMin + payload.length := by
    unfold ipMtuDefault ipHeaderMin at hlen
    unfold ipHeaderMin
    rw [UInt16.toNat_ofNat', Nat.mod_eq_of_lt (by omega)]
  have hheader : (ipHeaderLen (ipMakeVersionIhl ipVersion4 20)).toNat = ipHeaderMin := by decide
  have hversion : ipVersion (ipMakeVersionIhl ipVersion4 20) = ipVersion4 := by decide
  have hwhole : (ipFilledHeader c id (UInt16.ofNat (ipHeaderMin + payload.length)) destIp protocol ++
      (payload ++ pad)).length = ipHeaderMin + (payload.length + pad.length) := by
    rw [List.length_append, List.length_append, length_ipFilledHeader]
  rw [List.append_assoc, IpHost.ipAccept]
  simp only [getD_versionIhl, getD_ttl, getD_protocol, load16_totalLength, loadWord_srcAddr, loadWord_dstAddr,
    htons_htons, htonl_htonl, htotal, hheader, hversion, hwhole, hinit, hdest]
  rw [if_neg (by decide), if_neg (by omega), if_neg (by simp), if_neg (by omega), if_neg (by omega),
    List.take_left' length_ipFilledHeader, ipChecksum_ipFilledHeader, if_neg (by simp), if_neg (by decide),
    if_neg (by decide), List.drop_left' length_ipFilledHeader, Nat.add_sub_cancel_left, List.take_left]

end Received

/-! ## The two senders -/

namespace IpHost

variable {h peer : IpHost} {env : IpEnv} {destIp : UInt32} {protocol : UInt8} {b : Netbuf}

/-- The packet that both senders build. -/
def packetFor (h : IpHost) (destIp : UInt32) (protocol : UInt8) (payload : List UInt8) : List UInt8 :=
  ipFilledHeader h.ip h.ipIdCounter (UInt16.ofNat (ipHeaderMin + payload.length)) destIp protocol ++ payload

/-- The buffer with the header that `ip_send_buf` has put into it. -/
def headed (h : IpHost) (b : Netbuf) (destIp : UInt32) (protocol : UInt8) : Netbuf :=
  let pushed : Netbuf := { b with data := b.data - 20, len := b.len + 20 }
  let stored := pushed.store
    (ipFilledHeader h.ip h.ipIdCounter (UInt16.ofNat pushed.len.toNat) destIp protocol)
  { stored with info := { stored.info with srcIp := h.ip.addr, dstIp := destIp, protocol := protocol.toUInt16 } }

/-- The machine has used one identification. -/
def nextId (h : IpHost) : IpHost := { h with ipIdCounter := h.ipIdCounter + 1 }

lemma ipSend_of_le (hinit : h.ipInitialized = true) {payload : List UInt8}
    (hlen : payload.length ≤ ipMtuDefault - ipHeaderMin) :
    h.ipSend env destIp protocol payload = match env.resolve (h.ip.route destIp) with
      | none => (⟨-1, some (h.packetFor destIp protocol payload), some (h.ip.route destIp), none⟩, h.nextId)
      | some mac =>
        let r := h.ethSend env mac ethTypeIpv4 (h.packetFor destIp protocol payload)
        (⟨r.1, some (h.packetFor destIp protocol payload), some (h.ip.route destIp), r.2⟩, h.nextId) := by
  rw [ipSend, if_neg (by simp [hinit]), if_neg (by omega)]
  rfl

lemma ipSendBuf_early (hearly : h.ipInitialized = false ∨ b.headroom < 20) :
    h.ipSendBuf env b destIp protocol = (⟨-1, none, none, none⟩, h, b) := by
  by_cases hinit : h.ipInitialized = false
  · rw [ipSendBuf, if_pos hinit]
  · have hroom : b.headroom < 20 := hearly.resolve_left hinit
    rw [ipSendBuf, if_neg hinit, Netbuf.netbufPush, if_pos hroom]

lemma bytes_headed (hb : b.InBounds) (hroom : 20 ≤ b.headroom) :
    (h.headed b destIp protocol).bytes = h.packetFor destIp protocol b.bytes := by
  have hlen : (b.len + 20).toNat = ipHeaderMin + b.bytes.length := by
    have hle : 20 ≤ b.data.toNat := UInt64.le_iff_toNat_le.mp hroom
    have htwenty : (20 : UInt64).toNat = 20 := rfl
    unfold Netbuf.InBounds at hb
    rw [Netbuf.toNat_add_of_le (c := b.capacity) (by omega), Netbuf.length_bytes, htwenty, ipHeaderMin, Nat.add_comm]
  unfold packetFor
  rw [← hlen]
  exact Netbuf.bytes_store_push hb hroom rfl

lemma ipSendBuf_headed (hinit : h.ipInitialized = true) (hb : b.InBounds) (hroom : 20 ≤ b.headroom) :
    h.ipSendBuf env b destIp protocol = match env.resolve (h.ip.route destIp) with
      | none => (⟨-1, some (h.packetFor destIp protocol b.bytes), some (h.ip.route destIp), none⟩, h.nextId,
          h.headed b destIp protocol)
      | some mac =>
        let r := h.ethSendBuf env (h.headed b destIp protocol) mac ethTypeIpv4
        (⟨r.1, some (h.packetFor destIp protocol b.bytes), some (h.ip.route destIp), r.2.1⟩, h.nextId, r.2.2) := by
  rw [ipSendBuf, if_neg (by simp [hinit]), Netbuf.netbufPush_of_le hroom, ← bytes_headed hb hroom]
  rfl

lemma toNat_headroom_headed (hroom : 20 ≤ b.headroom) : (h.headed b destIp protocol).data.toNat = b.data.toNat - 20 :=
  UInt64.toNat_sub_of_le _ _ hroom

lemma inBounds_headed (h : IpHost) (destIp : UInt32) (protocol : UInt8) (hb : b.InBounds)
    (hroom : 20 ≤ b.headroom) : (h.headed b destIp protocol).InBounds := by
  have hpush := Netbuf.inBounds_push hb 20
  rw [Netbuf.netbufPush_of_le hroom] at hpush
  exact hpush

lemma ethSendBuf_cases (h : IpHost) (env : IpEnv) (hb : b.InBounds) (mac : Mac) (ethertype : UInt16) :
    (h.ethInitialized = true ∧ b.bytes.length ≤ ethDataMax ∧ 14 ≤ b.headroom ∧
        (h.ethSendBuf env b mac ethertype).1 = env.hwSend ∧
        (h.ethSendBuf env b mac ethertype).2.1 = some (ethHeader mac h.localMac ethertype ++ b.bytes) ∧
        (h.ethSendBuf env b mac ethertype).2.2.data.toNat = b.data.toNat - 14) ∨
      (¬(h.ethInitialized = true ∧ b.bytes.length ≤ ethDataMax ∧ 14 ≤ b.headroom) ∧
        h.ethSendBuf env b mac ethertype = (-1, none, b)) := by
  by_cases hinit : h.ethInitialized = false
  · refine Or.inr ⟨by simp [hinit], ?_⟩
    rw [ethSendBuf, if_pos hinit]
  by_cases hlen : ethDataMax < b.len.toNat
  · refine Or.inr ⟨fun hall => ?_, ?_⟩
    · rw [Netbuf.length_bytes] at hall
      omega
    · rw [ethSendBuf, if_neg hinit, if_pos hlen]
  by_cases hroom : b.headroom < 14
  · refine Or.inr ⟨fun hall => UInt64.not_le.mpr hroom hall.2.2, ?_⟩
    rw [ethSendBuf, if_neg hinit, if_neg hlen, Netbuf.netbufPush, if_pos hroom]
  · have hle : 14 ≤ b.headroom := UInt64.not_lt.mp hroom
    have heq : h.ethSendBuf env b mac ethertype = (env.hwSend,
        some (({ b with data := b.data - 14, len := b.len + 14 } : Netbuf).store
          (ethHeader mac h.localMac ethertype)).bytes, (h.ethSendBuf env b mac ethertype).2.2) := by
      rw [ethSendBuf, if_neg hinit, if_neg hlen, Netbuf.netbufPush_of_le hle]
      rfl
    have hdata : (h.ethSendBuf env b mac ethertype).2.2.data = b.data - 14 := by
      rw [ethSendBuf, if_neg hinit, if_neg hlen, Netbuf.netbufPush_of_le hle]
      rfl
    refine Or.inl ⟨by simpa using hinit, by rw [Netbuf.length_bytes]; omega, hle, ?_, ?_, ?_⟩
    · rw [heq]
    · rw [heq, Netbuf.bytes_store_push hb hle (by simp [ethHeader, halfBytes])]
    · rw [hdata]
      exact UInt64.toNat_sub_of_le _ _ hle

/-! ## The paths -/

/-- What is sent is accepted where it is for, and read as it was sent. -/
def ReceivedAsSent (h peer : IpHost) (env : IpEnv) (destIp : UInt32) (protocol : UInt8) (payload : List UInt8) :
    Prop :=
  h.ipInitialized = true → ∃ packet, (h.ipSend env destIp protocol payload).1.packet = some packet ∧
    ∀ pad, peer.ipAccept (packet ++ pad) = .ok ⟨h.ip.addr, destIp, protocol, payload⟩

/-- Both senders build the same packet, choose the same next hop and use the same identification, and where both reach
the driver, the frame of `ip_send` is that of `ip_send_buf` with padding. -/
def SendersAgree (h : IpHost) (env : IpEnv) (destIp : UInt32) (protocol : UInt8) (b : Netbuf) : Prop :=
  h.ipInitialized = true → 20 ≤ b.headroom → let sent := h.ipSend env destIp protocol b.bytes
    let sentBuf := h.ipSendBuf env b destIp protocol
    sentBuf.1.packet = sent.1.packet ∧ sentBuf.1.route = sent.1.route ∧ sentBuf.2.1 = sent.2 ∧
      ∀ frame frame', sent.1.frame = some frame → sentBuf.1.frame = some frame' →
        ∃ n, frame = frame' ++ List.replicate n 0

/-- A failure of `ip_send_buf` leaves the buffer as it was. -/
def FailureKeeps (h : IpHost) (env : IpEnv) (destIp : UInt32) (protocol : UInt8) (b : Netbuf) : Prop :=
  (h.ipSendBuf env b destIp protocol).1.code < 0 → (h.ipSendBuf env b destIp protocol).2.2.data = b.data ∧
      (h.ipSendBuf env b destIp protocol).2.2.len = b.len ∧
      (h.ipSendBuf env b destIp protocol).2.2.bytes = b.bytes

/-- A failure before the header is in the buffer. -/
def FailsEarly (h : IpHost) (b : Netbuf) : Prop := h.ipInitialized = false ∨ b.headroom < 20

/-- Nothing fails: the next hop is known, Ethernet is up, there is room for both headers, and the driver takes the
frame. -/
def GoesOut (h : IpHost) (env : IpEnv) (destIp : UInt32) (b : Netbuf) : Prop :=
  (env.resolve (h.ip.route destIp)).isSome = true ∧ h.ethInitialized = true ∧ 34 ≤ b.headroom ∧ 0 ≤ env.hwSend

lemma receivedAsSent (hpeer : peer.ipInitialized = true) (hdest : peer.isForUs destIp = true) {payload : List UInt8}
    (hlen : payload.length ≤ ipMtuDefault - ipHeaderMin) :
    ReceivedAsSent h peer env destIp protocol payload := by
  intro hinit
  refine ⟨h.packetFor destIp protocol payload, ?_, fun pad => ipAccept_packet hpeer hdest hlen pad⟩
  rw [ipSend_of_le hinit hlen]
  cases env.resolve (h.ip.route destIp) <;> rfl

lemma sendersAgree (hb : b.InBounds) (hlen : b.bytes.length ≤ ipMtuDefault - ipHeaderMin) :
    SendersAgree h env destIp protocol b := by
  intro hinit hroom
  dsimp only
  rw [ipSend_of_le hinit hlen, ipSendBuf_headed hinit hb hroom]
  cases env.resolve (h.ip.route destIp) with
  | none => exact ⟨rfl, rfl, rfl, by simp⟩
  | some mac =>
    refine ⟨rfl, rfl, rfl, fun frame frame' hframe hframe' => ?_⟩
    dsimp only at hframe hframe'
    rcases ethSendBuf_cases h env (inBounds_headed h destIp protocol hb hroom) mac ethTypeIpv4 with ⟨-, -, -, -, hbuf, -⟩ | ⟨-, hnone⟩
    · rw [hbuf, bytes_headed hb hroom] at hframe'
      obtain rfl := Option.some.inj hframe'
      unfold ethSend at hframe
      split_ifs at hframe
      exact ⟨_, (Option.some.inj hframe).symm⟩
    · rw [hnone] at hframe'
      simp at hframe'

/-- **Failures.** -/
lemma failureKeeps_iff (hb : b.InBounds) (hlen : b.bytes.length ≤ ipMtuDefault - ipHeaderMin) :
    FailureKeeps h env destIp protocol b ↔ FailsEarly h b ∨ GoesOut h env destIp b := by
  by_cases hearly : FailsEarly h b
  · refine iff_of_true (fun _ => ?_) (Or.inl hearly)
    rw [ipSendBuf_early hearly]
    exact ⟨rfl, rfl, rfl⟩
  rw [or_iff_right hearly]
  unfold FailsEarly at hearly
  rw [not_or, Bool.not_eq_false, UInt64.not_lt] at hearly
  obtain ⟨hinit, hroom⟩ := hearly
  have hnat : 20 ≤ b.data.toNat := UInt64.le_iff_toNat_le.mp hroom
  unfold FailureKeeps GoesOut
  rw [ipSendBuf_headed hinit hb hroom]
  cases env.resolve (h.ip.route destIp) with
  | none =>
    -- the header is in the buffer
    refine iff_of_false (fun hkeeps => ?_) (by simp)
    have hdata := congrArg UInt64.toNat (hkeeps (show (-1 : Int) < 0 by decide)).1
    rw [toNat_headroom_headed hroom] at hdata
    omega
  | some mac =>
    have hheaded : (h.headed b destIp protocol).bytes.length ≤ ethDataMax := by
      rw [bytes_headed hb hroom, packetFor, List.length_append, length_ipFilledHeader]
      unfold ipMtuDefault ipHeaderMin at hlen
      unfold ipHeaderMin ethDataMax
      omega
    have hrooms : 14 ≤ (h.headed b destIp protocol).headroom ↔ 34 ≤ b.headroom := by
      rw [UInt64.le_iff_toNat_le, UInt64.le_iff_toNat_le, Netbuf.headroom, toNat_headroom_headed hroom]
      change 14 ≤ b.data.toNat - 20 ↔ 34 ≤ b.data.toNat
      omega
    dsimp only
    rcases ethSendBuf_cases h env (inBounds_headed h destIp protocol hb hroom) mac ethTypeIpv4 with ⟨heth, -, hmore, hcode, -, hdata⟩ | ⟨hnot, hnone⟩
    · rw [hcode]
      constructor
      · intro hkeeps
        refine ⟨rfl, heth, hrooms.mp hmore, ?_⟩
        by_contra hneg
        have hsame := congrArg UInt64.toNat (hkeeps (by omega)).1
        rw [hdata, toNat_headroom_headed hroom] at hsame
        omega
      · rintro ⟨-, -, -, hhw⟩ hneg
        omega
    · refine iff_of_false (fun hkeeps => ?_) ?_
      · rw [hnone] at hkeeps
        have hsame := congrArg UInt64.toNat (hkeeps (show (-1 : Int) < 0 by decide)).1
        rw [toNat_headroom_headed hroom] at hsame
        omega
      · rintro ⟨-, heth, hmore, -⟩
        exact hnot ⟨heth, hheaded, hrooms.mpr hmore⟩

end IpHost

/-- **The paths of a packet.**  For every payload up to 1480 bytes, encoding and decoding agree, both senders agree, and
a failure of `ip_send_buf` leaves the buffer as it was, exactly if it fails early or goes out. -/
theorem ip_paths_iff (h peer : IpHost) (env : IpEnv) (destIp : UInt32) (protocol : UInt8) (b : Netbuf)
    (hb : b.InBounds) (hlen : b.bytes.length ≤ ipMtuDefault - ipHeaderMin) (hpeer : peer.ipInitialized = true)
    (hdest : peer.isForUs destIp = true) :
    (h.ReceivedAsSent peer env destIp protocol b.bytes ∧ h.SendersAgree env destIp protocol b ∧
        h.FailureKeeps env destIp protocol b) ↔
      h.FailsEarly b ∨ h.GoesOut env destIp b := by
  rw [← IpHost.failureKeeps_iff hb hlen]
  constructor
  · exact fun hall => hall.2.2
  · exact fun hkeeps => ⟨IpHost.receivedAsSent hpeer hdest hlen, IpHost.sendersAgree hb hlen, hkeeps⟩

/-- A machine at 10.0.0.2 without a gateway, and a buffer with room for the headers. -/
def loneHost : IpHost :=
  { ipInitialized := true, ip := { addr := 0x0A000002, netmask := 0xFFFFFF00 }, ethInitialized := true }

def roomyNetbuf : Netbuf := { mem := fun _ => 7, data := 64, len := 3, capacity := 128, info := {} }

/-- A neighbour that ARP knows. -/
theorem ip_paths_neighbour :
    loneHost.ReceivedAsSent { loneHost with ip := { addr := 0x0A000003 } } ⟨fun _ => some zeroMac, 0⟩ 0x0A000003 17
      roomyNetbuf.bytes :=
  ((ip_paths_iff loneHost { loneHost with ip := { addr := 0x0A000003 } } ⟨fun _ => some zeroMac, 0⟩ 0x0A000003 17
    roomyNetbuf (by decide) (by decide) rfl (by decide)).mpr
      (Or.inr ⟨by decide, rfl, by decide, by decide⟩)).1

/-- **The header that stays.**  Without a gateway the call fails, and the buffer has 23 bytes of data where it had 3. -/
theorem header_left_behind : (loneHost.ipSendBuf ⟨fun _ => none, 0⟩ roomyNetbuf 0x08080808 17).1.code = -1 ∧
      (loneHost.ipSendBuf ⟨fun _ => none, 0⟩ roomyNetbuf 0x08080808 17).2.2.len = 23 ∧
      ¬ loneHost.FailureKeeps ⟨fun _ => none, 0⟩ 0x08080808 17 roomyNetbuf := by
  have hcode : (loneHost.ipSendBuf ⟨fun _ => none, 0⟩ roomyNetbuf 0x08080808 17).1.code = -1 := by decide
  have hlen : (loneHost.ipSendBuf ⟨fun _ => none, 0⟩ roomyNetbuf 0x08080808 17).2.2.len = 23 := by decide
  refine ⟨hcode, hlen, fun hkeeps => ?_⟩
  have hsame := (hkeeps (by rw [hcode]; decide)).2.1
  rw [hlen] at hsame
  exact absurd hsame (by decide)

end AAAos
