import AAAos.Lib.Trace
import AAAos.Net.Udp.Udp

/-!
# Datagrams from end to end

What one machine gives to `ip_send` reaches `udp_input` of another if the address is its own or a
broadcast address, and `udp_recvfrom` takes it out of the queue.

**What goes wrong.**  `udp_input` computes the checksum over the address of the machine, where the
sender computed it over the address it sent to: a broadcast has a bad checksum (`broadcast_refused`).
`kmalloc` gives no block of size 0, so that an empty datagram is not queued.  And `udp_recvfrom` returns
the length of the datagram where the buffer was shorter.

**What is proved.**  Sender and receiver agree on the checksum exactly if the two addresses are the same
modulo 65535 (`badChecksum_iff`), whatever the payload, also where 0 was sent as 0xFFFF.  In every run
of arrivals and reads in which the addresses agree so, no datagram is empty, there is memory, and the
buffers are long enough, what is sent is read, in that order (`delivered_of_steps`); each other arrival
at a queue with space, and each read into a short buffer, breaks this (`delivered_iff`).
-/

namespace AAAos

/-! ## The fields of a packet -/

@[simp] lemma length_halfBytes (x : UInt16) : (halfBytes x).length = 2 := rfl

@[simp] lemma length_udpPacket (srcPort dstPort checksum : UInt16) (payload : List UInt8) :
    (udpPacket srcPort dstPort checksum payload).length = udpHeaderLen + payload.length := by
  simp only [udpPacket, List.length_append, length_halfBytes, udpHeaderLen]
  omega

@[simp] lemma load16_halfBytes (x : UInt16) (l : List UInt8) : load16 (halfBytes x ++ l) 0 = x := by
  have hx := x.toNat_lt
  refine UInt16.toNat_inj.mp ?_
  simp only [load16, halfBytes, List.cons_append, List.nil_append, List.getD_cons_zero,
    List.getD_cons_succ, UInt16.toNat_add, UInt16.toNat_shiftLeft, UInt8.toNat_toUInt16,
    UInt16.toNat_toUInt8, UInt16.toNat_shiftRight, Nat.shiftRight_eq_div_pow, Nat.shiftLeft_eq,
    show (8 : UInt16).toNat % 16 = 8 from rfl]
  omega

@[simp] lemma load16_skip (x : UInt16) (l : List UInt8) (i : Nat) :
    load16 (halfBytes x ++ l) (i + 2) = load16 l i := rfl

@[simp] lemma drop_udpPacket (srcPort dstPort checksum : UInt16) (payload : List UInt8) :
    (udpPacket srcPort dstPort checksum payload).drop udpHeaderLen = payload := rfl

lemma toNat_udpLen {payload : List UInt8} (h : payload.length ≤ udpMaxPayload) :
    (UInt16.ofNat (udpHeaderLen + payload.length)).toNat = udpHeaderLen + payload.length := by
  unfold udpMaxPayload udpHeaderLen at h
  unfold udpHeaderLen
  rw [UInt16.toNat_ofNat', Nat.mod_eq_of_lt (by omega)]

/-! ## The two checksums -/

/-- The sum that `udp_checksum` folds. -/
def udpSum (srcIp dstIp : UInt32) (udpData : List UInt8) : UInt32 :=
  sumWords (sumWords 0 (udpPseudoHeader srcIp dstIp (UInt16.ofNat udpData.length))) udpData

lemma udpChecksum_eq (srcIp dstIp : UInt32) (udpData : List UInt8) :
    udpChecksum srcIp dstIp udpData = complementSum (udpSum srcIp dstIp udpData) := rfl

lemma wordSum_pseudoHeader (srcIp dstIp : UInt32) (udpLen : UInt16) : wordSum (udpPseudoHeader srcIp dstIp udpLen) ≡
      256 * srcIp.toNat + (256 * dstIp.toNat + (17 * 256 + (htons udpLen).toNat)) [MOD 65535] := by
  have htail : wordSum (0 :: udpProtocol :: halfBytes (htons udpLen)) = 17 * 256 + (htons udpLen).toNat := by
    have hlen := wordSum_halfBytes (htons udpLen) []
    rw [List.append_nil] at hlen
    simp only [wordSum, hlen, udpProtocol]
    rfl
  rw [← htail]
  exact (wordSum_wordBytes_htonl srcIp _).trans ((wordSum_wordBytes_htonl dstIp _).add_left _)

lemma wordSum_pseudoHeader_pos (srcIp dstIp : UInt32) (udpLen : UInt16) :
    0 < wordSum (udpPseudoHeader srcIp dstIp udpLen) := by
  have hprotocol : udpProtocol.toNat = 17 := rfl
  simp only [udpPseudoHeader, wordBytes, halfBytes, List.cons_append, List.nil_append, wordSum, hprotocol]
  omega

lemma toNat_udpSum {srcIp dstIp : UInt32} {udpData : List UInt8} (h : udpData.length ≤ 65535) :
    (udpSum srcIp dstIp udpData).toNat =
      wordSum (udpPseudoHeader srcIp dstIp (UInt16.ofNat udpData.length)) + wordSum udpData := by
  have hpseudo := wordSum_le (udpPseudoHeader srcIp dstIp (UInt16.ofNat udpData.length))
  have hdata := wordSum_le udpData
  rw [show (udpPseudoHeader srcIp dstIp (UInt16.ofNat udpData.length)).length = 12 from rfl]
    at hpseudo
  have hfirst : (sumWords 0 (udpPseudoHeader srcIp dstIp (UInt16.ofNat udpData.length))).toNat =
      wordSum (udpPseudoHeader srcIp dstIp (UInt16.ofNat udpData.length)) := by
    rw [toNat_sumWords (by rw [UInt32.toNat_zero]; omega), UInt32.toNat_zero, Nat.zero_add]
  rw [udpSum, toNat_sumWords (by rw [hfirst]; omega), hfirst]

lemma udpSum_pos (srcIp dstIp : UInt32) {udpData : List UInt8} (h : udpData.length ≤ 65535) :
    0 < (udpSum srcIp dstIp udpData).toNat := by
  rw [toNat_udpSum h]
  exact Nat.add_pos_left (wordSum_pseudoHeader_pos _ _ _) _

lemma wordSum_udpPacket (srcPort dstPort checksum : UInt16) (payload : List UInt8) :
    wordSum (udpPacket srcPort dstPort checksum payload) =
      checksum.toNat + wordSum (udpPacket srcPort dstPort 0 payload) := by
  simp only [udpPacket, wordSum_halfBytes, UInt16.toNat_zero]
  omega

namespace Udp

variable {s s' : Udp} {env sender : UdpEnv} {srcIp ownIp destIp : UInt32}
variable {srcPort destPort : UInt16} {payload : List UInt8}

lemma sentChecksum_ne_zero : sentChecksum ownIp destIp destPort srcPort payload ≠ 0 := by
  unfold sentChecksum
  dsimp only
  split_ifs with hzero
  · decide
  · exact hzero

/-- With its checksum a packet adds up to a multiple of 65535, for the addresses of the sender. -/
lemma sentChecksum_modEq : (sentChecksum ownIp destIp destPort srcPort payload).toNat +
        (udpSum ownIp destIp (udpPacket srcPort destPort 0 payload)).toNat ≡ 0 [MOD 65535] := by
  have hfold := foldSum_modEq (udpSum ownIp destIp (udpPacket srcPort destPort 0 payload))
  have hsum := toNat_complementSum (udpSum ownIp destIp (udpPacket srcPort destPort 0 payload))
  have hsent : (sentChecksum ownIp destIp destPort srcPort payload).toNat ≡
      (complementSum (udpSum ownIp destIp (udpPacket srcPort destPort 0 payload))).toNat
        [MOD 65535] := by
    unfold sentChecksum
    rw [udpChecksum_eq]
    dsimp only
    split_ifs with hzero
    · rw [hzero]
      rfl
    · rfl
  calc _ ≡ (complementSum (udpSum ownIp destIp (udpPacket srcPort destPort 0 payload))).toNat +
        (foldSum (udpSum ownIp destIp (udpPacket srcPort destPort 0 payload))).toNat [MOD 65535] :=
        hsent.add hfold.symm
    _ = 65535 := hsum
    _ ≡ 0 [MOD 65535] := rfl

variable (env srcIp destIp srcPort destPort) in
/-- **When the receiver finds the checksum good**: it counts its own address where the sender counted the
address it sent to. -/
theorem badChecksum_iff (h : payload.length ≤ udpMaxPayload) : badChecksum env srcIp (udpPacket srcPort destPort
        (sentChecksum srcIp destIp destPort srcPort payload) payload) = false ↔
      destIp.toNat ≡ env.ip.addr.toNat [MOD 65535] := by
  have hsmall : ∀ c, (udpPacket srcPort destPort c payload).length ≤ 65535 := by
    intro c
    rw [length_udpPacket]
    unfold udpMaxPayload udpHeaderLen at h
    unfold udpHeaderLen
    omega
  generalize hc : sentChecksum srcIp destIp destPort srcPort payload = c
  have hne : c ≠ 0 := hc ▸ sentChecksum_ne_zero
  have hpos := udpSum_pos srcIp env.ip.addr (hsmall c)
  have hload : load16 (udpPacket srcPort destPort c payload) 6 = c := by
    simp [udpPacket]
  have hbad : badChecksum env srcIp (udpPacket srcPort destPort c payload) = false ↔
      65535 ∣ (udpSum srcIp env.ip.addr (udpPacket srcPort destPort c payload)).toNat := by
    rw [← complementSum_eq_zero_iff hpos]
    have hones := complementSum_ne_ones hpos
    unfold badChecksum
    rw [udpChecksum_eq, hload]
    generalize complementSum _ = answer at hones ⊢
    simp [hne, hones]
  have hsent : (sentChecksum srcIp destIp destPort srcPort payload).toNat +
      (udpSum srcIp destIp (udpPacket srcPort destPort 0 payload)).toNat ≡ 0 [MOD 65535] :=
    sentChecksum_modEq
  rw [hc, toNat_udpSum (hsmall 0)] at hsent
  rw [hbad, toNat_udpSum (hsmall c), wordSum_udpPacket srcPort destPort c]
  rw [length_udpPacket] at hsent ⊢
  have hown := wordSum_pseudoHeader srcIp env.ip.addr (UInt16.ofNat (udpHeaderLen + payload.length))
  have hdest := wordSum_pseudoHeader srcIp destIp (UInt16.ofNat (udpHeaderLen + payload.length))
  unfold Nat.ModEq at hsent hown hdest ⊢
  omega

/-! ## An arrival -/

/-- What `udp_input` does with a packet of `udp_send`, apart from the checksum. -/
lemma udpInput_udpPacket (hinit : s.initialized = true) (h : payload.length ≤ udpMaxPayload) (checksum : UInt16) :
    s.udpInput env srcIp (udpPacket srcPort destPort checksum payload) =
      if badChecksum env srcIp (udpPacket srcPort destPort checksum payload) then
        (udpErrInvalid, s)
      else
        match s.udpFindSocket destPort with
        | none => (udpErrNotbound, s)
        | some p => s.queueDatagram env p ⟨payload, srcIp, srcPort⟩ := by
  have hsrc : load16 (udpPacket srcPort destPort checksum payload) 0 = htons srcPort := by
    simp [udpPacket]
  have hdest : load16 (udpPacket srcPort destPort checksum payload) 2 = htons destPort := by
    simp [udpPacket]
  have hlen : load16 (udpPacket srcPort destPort checksum payload) 4 =
      htons (UInt16.ofNat (udpHeaderLen + payload.length)) := by
    simp only [udpPacket, load16_skip, load16_halfBytes]
  have htake : (udpPacket srcPort destPort checksum payload).take (udpHeaderLen + payload.length) =
      udpPacket srcPort destPort checksum payload :=
    List.take_of_length_le (by rw [length_udpPacket])
  unfold udpInput
  rw [if_neg (by rw [hinit]; decide), if_neg (by rw [length_udpPacket]; omega)]
  dsimp only
  rw [hlen, htons_htons, toNat_udpLen h, if_neg (by rw [length_udpPacket]; omega), htake, hdest,
    hsrc, htons_htons, htons_htons, drop_udpPacket, Nat.add_sub_cancel_left, List.take_length]
  all_goals rfl

/-- The socket of a port, if its queue has space. -/
def room (s : Udp) (port : UInt16) : Option Nat :=
  (s.udpFindSocket port).filter fun p => (s.sock p).queue.length < udpRecvQueueSize

lemma room_eq_some {p : Nat} (h : s.room destPort = some p) :
    s.udpFindSocket destPort = some p ∧ (s.sock p).queue.length < udpRecvQueueSize := by
  obtain ⟨hfind, hspace⟩ := Option.filter_eq_some_iff.mp h
  exact ⟨hfind, by simpa using hspace⟩

/-- What an arrival needs to be queued: bytes, memory for them, and addresses that agree. -/
structure Reaches (env : UdpEnv) (destIp : UInt32) (payload : List UInt8) : Prop where
  nonempty : payload ≠ []
  record : env.heap udpDatagramSize = true
  block : env.heap payload.length = true
  address : destIp.toNat ≡ env.ip.addr.toNat [MOD 65535]

variable (env srcIp destIp srcPort) in
/-- **What an arrival at a queue with space does.** -/
lemma udpInput_cases {p : Nat} (hinit : s.initialized = true)
    (h : payload.length ≤ udpMaxPayload) (hroom : s.room destPort = some p) :
    (Reaches env destIp payload ∧ s.udpInput env srcIp (udpPacket srcPort destPort
            (sentChecksum srcIp destIp destPort srcPort payload) payload) =
          (udpOk, s.setQueue p ((s.sock p).queue ++ [⟨payload, srcIp, srcPort⟩]))) ∨
      ¬ Reaches env destIp payload ∧ (s.udpInput env srcIp (udpPacket srcPort destPort
            (sentChecksum srcIp destIp destPort srcPort payload) payload)).1 ≠ udpOk := by
  obtain ⟨hfind, hspace⟩ := room_eq_some hroom
  have hbad := badChecksum_iff env srcIp destIp srcPort destPort h
  rw [udpInput_udpPacket hinit h, hfind]
  by_cases hsum : badChecksum env srcIp (udpPacket srcPort destPort
      (sentChecksum srcIp destIp destPort srcPort payload) payload) = true
  · rw [if_pos hsum]
    refine .inr ⟨fun hreaches => ?_, show udpErrInvalid ≠ udpOk by decide⟩
    exact absurd (hsum.symm.trans (hbad.mpr hreaches.address)) (by decide)
  rw [if_neg hsum]
  have haddress := hbad.mp (by simpa using hsum)
  dsimp only
  unfold queueDatagram
  rw [if_neg (by omega)]
  by_cases hrecord : env.heap udpDatagramSize = true
  · rw [if_neg (by simp [UdpEnv.kmalloc, udpDatagramSize] at hrecord ⊢; exact hrecord)]
    by_cases hblock : env.kmalloc payload.length = true
    · rw [if_neg (by rw [hblock]; decide)]
      have hsplit : payload.length ≠ 0 ∧ env.heap payload.length = true := by
        simpa [UdpEnv.kmalloc] using hblock
      exact .inl ⟨⟨fun hnil => hsplit.1 (by rw [hnil]; rfl), hrecord, hsplit.2, haddress⟩, rfl⟩
    · rw [if_pos (by simpa using hblock)]
      refine .inr ⟨fun hreaches => hblock ?_, show udpErrNomem ≠ udpOk by decide⟩
      have hlength : payload.length ≠ 0 := fun hzero =>
        hreaches.nonempty (List.eq_nil_of_length_eq_zero hzero)
      simpa [UdpEnv.kmalloc, hlength] using hreaches.block
  · rw [if_pos (by simp [UdpEnv.kmalloc] at hrecord ⊢; exact fun _ => hrecord)]
    exact .inr ⟨fun hreaches => hrecord hreaches.record, show udpErrNomem ≠ udpOk by decide⟩

lemma udpInput_without_room (hinit : s.initialized = true) (h : payload.length ≤ udpMaxPayload)
    (hroom : s.room destPort = none) (checksum : UInt16) :
    (s.udpInput env srcIp (udpPacket srcPort destPort checksum payload)).2 = s := by
  rw [udpInput_udpPacket hinit h]
  split_ifs
  · rfl
  cases hfind : s.udpFindSocket destPort with
  | none => rfl
  | some p =>
    have hfull : udpRecvQueueSize ≤ (s.sock p).queue.length := by
      rw [room, hfind] at hroom
      simpa using hroom
    dsimp only
    unfold queueDatagram
    rw [if_pos hfull]

lemma initialized_udpInput (s : Udp) (env : UdpEnv) (srcIp : UInt32) (packet : List UInt8) :
    (s.udpInput env srcIp packet).2.initialized = s.initialized := by
  unfold udpInput
  split_ifs
  · rfl
  · rfl
  dsimp only
  split_ifs
  · rfl
  · rfl
  cases s.udpFindSocket (htons (load16 packet 2)) with
  | none => rfl
  | some p =>
    dsimp only
    unfold queueDatagram
    split_ifs
    all_goals rfl

/-! ## A read -/

@[simp] lemma sock_setQueue_self (s : Udp) (p : Nat) (queue : List UdpDatagram) :
    ((s.setQueue p queue).sock p).queue = queue := by
  simp [setQueue]

lemma sock_setQueue_of_ne {p q : Nat} (h : q ≠ p) (queue : List UdpDatagram) :
    (s.setQueue p queue).sock q = s.sock q := by
  simp [setQueue, h]

lemma udpRecvfrom_cons {p maxLen : Nat} {d : UdpDatagram} {rest : List UdpDatagram}
    (hbound : (s.sock p).bound = true) (hlen : maxLen ≠ 0) (hqueue : (s.sock p).queue = d :: rest) :
    s.udpRecvfrom p maxLen = (⟨d.data.length, d.data.take maxLen, some (d.srcIp, d.srcPort)⟩, s.setQueue p rest) := by
  unfold udpRecvfrom dequeueDatagram
  rw [if_neg (by rw [hbound]; decide), if_neg hlen, hqueue]
  dsimp only
  split_ifs with hshort
  · rw [List.take_length, List.take_of_length_le (Nat.le_of_lt hshort)]
  · rfl

lemma udpRecvfrom_other {p maxLen : Nat} (h : ¬ ((s.sock p).bound = true ∧ maxLen ≠ 0 ∧ (s.sock p).queue ≠ [])) :
    (s.udpRecvfrom p maxLen).2 = s := by
  unfold udpRecvfrom dequeueDatagram
  by_cases hbound : (s.sock p).bound = false
  · rw [if_pos hbound]
  rw [if_neg hbound]
  by_cases hlen : maxLen = 0
  · rw [if_pos hlen]
  rw [if_neg hlen]
  cases hqueue : (s.sock p).queue with
  | nil => rfl
  | cons d rest => exact absurd ⟨by simpa using hbound, hlen, by rw [hqueue]; simp⟩ h

lemma initialized_udpRecvfrom (s : Udp) (p maxLen : Nat) :
    (s.udpRecvfrom p maxLen).2.initialized = s.initialized := by
  unfold udpRecvfrom dequeueDatagram
  split_ifs
  · rfl
  · rfl
  cases (s.sock p).queue with
  | nil => rfl
  | cons d rest => rfl

end Udp

/-! ## Runs -/

lemma forall₂_concat_iff {α β : Type} {R : α → β → Prop} {l : List α} {l' : List β} {a : α} {b : β}
    (h : List.Forall₂ R l l') : List.Forall₂ R (l ++ [a]) (l' ++ [b]) ↔ R a b := by
  induction h with
  | nil => simp
  | cons hhead _ ih => simp [hhead, ih]

/-- A call of `udp_send` on some machine. -/
structure UdpSending where
  sender : Udp
  env : UdpEnv
  destIp : UInt32
  destPort : UInt16
  srcPort : UInt16
  payload : List UInt8

namespace UdpSending

variable (d : UdpSending)

/-- What `ip_send` is given. -/
def request : Option IpRequest :=
  (d.sender.udpSend d.env d.destIp d.destPort d.srcPort d.payload).2

/-- What the other side is to get. -/
def datagram : UdpDatagram := ⟨d.payload, d.env.ip.addr, d.srcPort⟩

/-- The sender has been initialized and has memory for the packet. -/
def Sends : Prop :=
  d.sender.initialized = true ∧ d.env.kmalloc (udpHeaderLen + d.payload.length) = true

instance : Decidable d.Sends := inferInstanceAs (Decidable (_ ∧ _))

lemma request_eq (h : d.payload.length ≤ udpMaxPayload) : d.request = if d.Sends then
      some ⟨d.destIp, ipProtoUdp, udpPacket d.srcPort d.destPort
        (Udp.sentChecksum d.env.ip.addr d.destIp d.destPort d.srcPort d.payload) d.payload⟩
    else none := by
  unfold request Udp.udpSend
  by_cases hinit : d.sender.initialized = false
  · rw [if_pos hinit, if_neg fun hsends : d.Sends => absurd (hinit.symm.trans hsends.1) (by decide)]
  rw [if_neg hinit, if_neg (by omega)]
  by_cases hblock : d.env.kmalloc (udpHeaderLen + d.payload.length) = false
  · rw [if_pos hblock, if_neg fun hsends : d.Sends => absurd (hblock.symm.trans hsends.2) (by decide)]
  · have hsends : d.Sends := ⟨by simpa using hinit, by simpa using hblock⟩
    rw [if_neg hblock, if_pos hsends]

end UdpSending

/-- What happens to a receiver: a packet arrives, or a socket is read. -/
inductive UdpEvent
  | arrive (d : UdpSending) (env : UdpEnv)
  | read (p maxLen : Nat)

/-- A receiver, with what was sent to each socket while its queue had space, what the reads of each
socket gave as long as more had been sent, with the sizes of their buffers, and what `udp_input`
answered. -/
structure UdpRun where
  udp : Udp
  sent : Nat → List UdpDatagram
  reads : Nat → List (Nat × UdpReceived) := fun _ => []
  answers : List Int := []

namespace UdpRun

open Udp

variable {m m' : UdpRun} {s : Udp} {env : UdpEnv} {d : UdpSending} {p maxLen : Nat}

/-- The request reaches the receiver. -/
def arrive (m : UdpRun) (d : UdpSending) (env : UdpEnv) (r : IpRequest) : UdpRun :=
  let (answer, udp) := m.udp.udpInput env d.env.ip.addr r.packet
  match m.udp.room d.destPort with
  | none => { m with udp := udp }
  | some p =>
    { m with
      udp := udp
      sent := Function.update m.sent p (m.sent p ++ [d.datagram])
      answers := m.answers ++ [answer] }

/-- The read is to give a datagram. -/
def Owes (m : UdpRun) (p maxLen : Nat) : Prop :=
  (m.udp.sock p).bound = true ∧ maxLen ≠ 0 ∧ (m.reads p).length < (m.sent p).length

instance (m : UdpRun) (p maxLen : Nat) : Decidable (m.Owes p maxLen) :=
  inferInstanceAs (Decidable (_ ∧ _))

def read (m : UdpRun) (p maxLen : Nat) : UdpRun :=
  let (received, udp) := m.udp.udpRecvfrom p maxLen
  if m.Owes p maxLen then
    { m with udp := udp, reads := Function.update m.reads p (m.reads p ++ [(maxLen, received)]) }
  else { m with udp := udp }

def apply (m : UdpRun) : UdpEvent → UdpRun
  | .arrive d env =>
    match d.request with
    | none => m
    | some r => m.arrive d env r
  | .read p maxLen => m.read p maxLen

/-- The payload fits one frame, and the receiver accepts the address. -/
def Allowed : UdpEvent → Prop
  | .arrive d env =>
    d.payload.length ≤ 1472 ∧ (d.destIp = env.ip.addr ∨ env.ip.ipIsBroadcast d.destIp = true)
  | .read _ _ => True

def Step (m : UdpRun) (e : UdpEvent) (m' : UdpRun) : Prop := Allowed e ∧ m' = m.apply e

/-- What the application gets of a datagram: the bytes that fit, their number, and the source. -/
structure Returns (d : UdpDatagram) (r : Nat × UdpReceived) : Prop where
  stored : r.2.stored = d.data.take r.1
  result : r.2.result = r.2.stored.length
  src : r.2.src = some (d.srcIp, d.srcPort)

/-- **What is sent is queued and read, in that order.** -/
structure Delivered (m : UdpRun) : Prop where
  accepted : ∀ answer ∈ m.answers, answer = udpOk
  queued : ∀ p, (m.udp.sock p).queue = (m.sent p).drop (m.reads p).length
  returned : ∀ p, List.Forall₂ Returns ((m.sent p).take (m.reads p).length) (m.reads p)

/-- Nothing goes wrong: a datagram that is sent to a queue with space is not empty, finds memory, and
is sent to an address that agrees with the receiver's, and a buffer is as long as the datagram. -/
def Keeps (m : UdpRun) : UdpEvent → Prop
  | .arrive d env => d.Sends → m.udp.room d.destPort ≠ none → Reaches env d.destIp d.payload
  | .read p maxLen =>
    (m.udp.sock p).bound = true → maxLen ≠ 0 → ∀ d ∈ (m.udp.sock p).queue.head?, d.data.length ≤ maxLen

def KeepingStep (m : UdpRun) (e : UdpEvent) (m' : UdpRun) : Prop := m.Step e m' ∧ m.Keeps e

structure Sound (m : UdpRun) : Prop where
  delivered : m.Delivered
  initialized : m.udp.initialized = true

/-- While nothing goes wrong, a read is to give a datagram exactly if one is queued. -/
lemma Sound.owes_iff (h : m.Sound) : m.Owes p maxLen ↔
      (m.udp.sock p).bound = true ∧ maxLen ≠ 0 ∧ (m.udp.sock p).queue ≠ [] := by
  unfold Owes
  rw [h.delivered.queued p, ne_eq (List.drop _ _), List.drop_eq_nil_iff, Nat.not_le]

lemma Sound.length_reads (h : m.Sound) (p : Nat) : (m.reads p).length ≤ (m.sent p).length := by
  have hlength := (h.delivered.returned p).length_eq
  rw [List.length_take] at hlength
  omega

/-- **An arrival at a queue with space.** -/
lemma arrive_room (h : m.Sound) (hsmall : d.payload.length ≤ udpMaxPayload) (hsends : d.Sends)
    (hroom : m.udp.room d.destPort = some p) :
    (m.apply (.arrive d env)).Delivered ↔ Reaches env d.destIp d.payload := by
  have happly : ∀ answer udp, m.udp.udpInput env d.env.ip.addr (udpPacket d.srcPort d.destPort
      (sentChecksum d.env.ip.addr d.destIp d.destPort d.srcPort d.payload) d.payload) = (answer, udp) →
      m.apply (.arrive d env) =
        { m with
          udp := udp
          sent := Function.update m.sent p (m.sent p ++ [d.datagram])
          answers := m.answers ++ [answer] } := by
    intro answer udp hinput
    unfold apply
    dsimp only
    rw [UdpSending.request_eq d hsmall, if_pos hsends]
    dsimp only
    unfold arrive
    rw [hinput, hroom]
  rcases udpInput_cases env d.env.ip.addr d.destIp d.srcPort h.initialized hsmall hroom with ⟨hreaches, hinput⟩ | ⟨hnot, herror⟩
  · rw [happly _ _ hinput]
    refine ⟨fun _ => hreaches, fun _ => ⟨?_, ?_, ?_⟩⟩
    · intro answer hanswer
      rcases List.mem_append.mp hanswer with hold | hnew
      · exact h.delivered.accepted answer hold
      · exact List.mem_singleton.mp hnew
    · intro q
      dsimp only
      by_cases hq : q = p
      · subst hq
        rw [sock_setQueue_self, Function.update_self, h.delivered.queued q,
          List.drop_append_of_le_length (h.length_reads q)]
        rfl
      · rw [sock_setQueue_of_ne hq, Function.update_of_ne hq]
        exact h.delivered.queued q
    · intro q
      dsimp only
      by_cases hq : q = p
      · subst hq
        rw [Function.update_self, List.take_append_of_le_length (h.length_reads q)]
        exact h.delivered.returned q
      · rw [Function.update_of_ne hq]
        exact h.delivered.returned q
  · rw [happly _ _ rfl]
    refine ⟨fun hdelivered => absurd (hdelivered.accepted _ ?_) herror, fun hreaches =>
      absurd hreaches hnot⟩
    exact List.mem_append.mpr (.inr (List.mem_singleton.mpr rfl))

lemma arrive_other (h : m.Sound) (hsmall : d.payload.length ≤ udpMaxPayload)
    (hnot : ¬ (d.Sends ∧ m.udp.room d.destPort ≠ none)) : m.apply (.arrive d env) = m := by
  unfold apply
  dsimp only
  rw [UdpSending.request_eq d hsmall]
  by_cases hsends : d.Sends
  · have hroom : m.udp.room d.destPort = none := by
      by_contra hsome
      exact hnot ⟨hsends, hsome⟩
    rw [if_pos hsends]
    dsimp only
    unfold arrive
    rw [hroom]
    dsimp only
    rw [udpInput_without_room h.initialized hsmall hroom]
  · rw [if_neg hsends]

/-- **A read that is to give a datagram.** -/
lemma read_owed (h : m.Sound) (howes : m.Owes p maxLen) : (m.apply (.read p maxLen)).Delivered ↔
      ∀ d ∈ (m.udp.sock p).queue.head?, d.data.length ≤ maxLen := by
  obtain ⟨hbound, hlen, hne⟩ := h.owes_iff.mp howes
  obtain ⟨d, rest, hqueue⟩ := List.exists_cons_of_ne_nil hne
  have happly : m.apply (.read p maxLen) =
      { m with
        udp := m.udp.setQueue p rest
        reads := Function.update m.reads p (m.reads p ++
          [(maxLen, ⟨d.data.length, d.data.take maxLen, some (d.srcIp, d.srcPort)⟩)]) } := by
    unfold apply
    dsimp only
    unfold read
    rw [udpRecvfrom_cons hbound hlen hqueue]
    dsimp only
    rw [if_pos howes]
  have hdrop : (m.sent p).drop (m.reads p).length = d :: rest :=
    (h.delivered.queued p).symm.trans hqueue
  have hget : (m.sent p)[(m.reads p).length]? = some d := by
    rw [← List.head?_drop, hdrop]
    rfl
  have htake : (m.sent p).take ((m.reads p).length + 1) = (m.sent p).take (m.reads p).length ++ [d] := by
    rw [List.take_add_one, hget]
    rfl
  have hlast : List.Forall₂ Returns ((m.sent p).take ((m.reads p).length + 1))
      (m.reads p ++ [(maxLen, ⟨d.data.length, d.data.take maxLen, some (d.srcIp, d.srcPort)⟩)]) ↔
        d.data.length ≤ maxLen := by
    rw [htake, forall₂_concat_iff (h.delivered.returned p)]
    constructor
    · intro hreturns
      have hresult : ((d.data.length : Nat) : Int) = (d.data.take maxLen).length := hreturns.result
      rw [List.length_take] at hresult
      omega
    · intro hfits
      refine ⟨rfl, ?_, rfl⟩
      dsimp only
      rw [List.take_of_length_le hfits]
  rw [happly, hqueue]
  constructor
  · intro hdelivered d' hd'
    obtain rfl : d = d' := Option.some.inj hd'
    have hreturned := hdelivered.returned p
    dsimp only at hreturned
    rw [Function.update_self, List.length_append, List.length_singleton] at hreturned
    exact hlast.mp hreturned
  · intro hfits
    refine ⟨h.delivered.accepted, fun q => ?_, fun q => ?_⟩
    all_goals dsimp only
    all_goals by_cases hq : q = p
    · subst hq
      rw [sock_setQueue_self, Function.update_self, List.length_append, List.length_singleton,
        ← List.drop_drop, hdrop, List.drop_one, List.tail_cons]
    · rw [sock_setQueue_of_ne hq, Function.update_of_ne hq]
      exact h.delivered.queued q
    · subst hq
      rw [Function.update_self, List.length_append, List.length_singleton]
      exact hlast.mpr (hfits d rfl)
    · rw [Function.update_of_ne hq]
      exact h.delivered.returned q

lemma read_other (h : m.Sound) (hnot : ¬ m.Owes p maxLen) : m.apply (.read p maxLen) = m := by
  unfold apply
  dsimp only
  unfold read
  have hsame := udpRecvfrom_other (s := m.udp) fun hasked => hnot (h.owes_iff.mpr hasked)
  generalize m.udp.udpRecvfrom p maxLen = answer at hsame ⊢
  obtain ⟨received, udp⟩ := answer
  dsimp only at hsame ⊢
  rw [if_neg hnot, hsame]

lemma initialized_apply (m : UdpRun) (e : UdpEvent) : (m.apply e).udp.initialized = m.udp.initialized := by
  cases e with
  | arrive d env =>
    unfold apply
    dsimp only
    cases d.request with
    | none => rfl
    | some r =>
      have hinput := initialized_udpInput m.udp env d.env.ip.addr r.packet
      dsimp only
      unfold arrive
      generalize m.udp.udpInput env d.env.ip.addr r.packet = answer at hinput ⊢
      cases m.udp.room d.destPort with
      | none => exact hinput
      | some p => exact hinput
  | read p maxLen =>
    have hread := initialized_udpRecvfrom m.udp p maxLen
    unfold apply
    dsimp only
    unfold read
    generalize m.udp.udpRecvfrom p maxLen = answer at hread ⊢
    dsimp only
    split_ifs
    · exact hread
    · exact hread

/-- **The condition is exact.**  From a state in which nothing has gone wrong, an event keeps what is
claimed if and only if it is none of the cases left out. -/
theorem delivered_iff {e : UdpEvent} (h : m.Sound) (hallowed : Allowed e) : (m.apply e).Delivered ↔ m.Keeps e := by
  cases e with
  | arrive d env =>
    have hsmall : d.payload.length ≤ udpMaxPayload := hallowed.1.trans (by decide)
    by_cases hcounts : d.Sends ∧ m.udp.room d.destPort ≠ none
    · obtain ⟨p, hroom⟩ := Option.ne_none_iff_exists'.mp hcounts.2
      rw [arrive_room h hsmall hcounts.1 hroom]
      exact ⟨fun hreaches _ _ => hreaches, fun hkeeps => hkeeps hcounts.1 hcounts.2⟩
    · rw [arrive_other h hsmall hcounts]
      exact ⟨fun _ hsends hroom => absurd ⟨hsends, hroom⟩ hcounts, fun _ => h.delivered⟩
  | read p maxLen =>
    by_cases howes : m.Owes p maxLen
    · rw [read_owed h howes]
      exact ⟨fun hfits _ _ => hfits, fun hkeeps => hkeeps howes.1 howes.2.1⟩
    · rw [read_other h howes]
      refine ⟨fun _ hbound hlen d hd => ?_, fun _ => h.delivered⟩
      refine absurd (h.owes_iff.mpr ⟨hbound, hlen, fun hnil => ?_⟩) howes
      rw [hnil] at hd
      exact absurd hd (by simp)

/-- **One event.** -/
lemma sound_step {e : UdpEvent} (h : m.Sound) (hstep : m.KeepingStep e m') : m'.Sound := by
  obtain ⟨⟨hallowed, rfl⟩, hkeeps⟩ := hstep
  exact ⟨(delivered_iff h hallowed).mpr hkeeps, (initialized_apply m e).trans h.initialized⟩

/-- A receiver with what it has queued. -/
def start (s : Udp) : UdpRun := { udp := s, sent := fun p => (s.sock p).queue }

lemma sound_start (hinit : s.initialized = true) : (start s).Sound :=
  ⟨⟨fun _ h => absurd h List.not_mem_nil, fun _ => rfl, fun _ => .nil⟩, hinit⟩

/-- **When datagrams are delivered.** -/
theorem delivered_of_steps {es : List UdpEvent} (hinit : s.initialized = true)
    (hrun : Steps KeepingStep (start s) es m) : m.Delivered :=
  (hrun.invariant (I := Sound) (fun _ _ _ => sound_step) (sound_start hinit)).delivered

/-! ## Two machines -/

/-- 192.168.1.2, which sends. -/
def sendingHost : UdpEnv := { ip := ⟨0xC0A80102, 0xFFFFFF00, 0xC0A80101⟩ }

/-- 192.168.1.3, which receives. -/
def receivingHost : UdpEnv := { ip := ⟨0xC0A80103, 0xFFFFFF00, 0xC0A80101⟩ }

/-- The receiver has a socket at port 7. -/
def listening : Udp :=
  { initialized := true, socketList := [0], sock := fun _ => { localPort := 7, bound := true } }

/-- A datagram from port 9. -/
def datagramTo (destIp : UInt32) (payload : List UInt8) : UdpEvent :=
  .arrive ⟨{ initialized := true }, sendingHost, destIp, 7, 9, payload⟩ receivingHost

/-- Three bytes to the receiver's own address, read with a buffer of four. -/
theorem delivered_of_own_address : (((start listening).apply (datagramTo 0xC0A80103 [1, 2, 3])).apply
    (.read 0 4)).Delivered := by
  have hrun : Steps KeepingStep (start listening) [datagramTo 0xC0A80103 [1, 2, 3], .read 0 4]
      (((start listening).apply (datagramTo 0xC0A80103 [1, 2, 3])).apply (.read 0 4)) :=
    .cons ⟨⟨⟨by decide, .inl rfl⟩, rfl⟩, fun _ _ => ⟨by decide, rfl, rfl, rfl⟩⟩
      (.cons ⟨⟨trivial, rfl⟩, fun _ _ => by decide⟩ (.nil _))
  exact delivered_of_steps rfl hrun

/-- A datagram to the broadcast address of the network is not accepted. -/
theorem broadcast_refused : ¬ ∀ (s : Udp) (es : List UdpEvent) (m : UdpRun), s.initialized = true →
    Steps Step (start s) es m → m.Delivered := by
  intro hall
  have hdelivered := hall listening [datagramTo 0xC0A801FF [1, 2, 3]] _ rfl
    (.cons ⟨⟨by decide, .inr (by decide)⟩, rfl⟩ (.nil _))
  exact absurd (hdelivered.accepted udpErrInvalid (by decide)) (by decide)

end UdpRun

end AAAos
