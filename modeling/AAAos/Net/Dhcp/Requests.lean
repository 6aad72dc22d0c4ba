import AAAos.Net.Dhcp.Lease

/-!
# REQUESTs and the OFFERs they answer

When an OFFER arrives in SELECTING, `dhcp_input` asks for its address from its server.  The OFFER is
not kept: a timeout in REQUESTING asks for the stored lease, and which options a REQUEST has depends on
the state it is built in.

**What goes wrong.**  A retransmission is built in REQUESTING, where `dhcp_build_request` puts in
neither the requested address nor the server identifier (`retransmitted_bare`).  And a NAK takes the
lease of a BOUND client away.

**What is proved.**  As long as no REQUEST is retransmitted in REQUESTING and no NAK comes in BOUND,
REQUESTs answer their OFFERs and packets leave a BOUND client alone (`consistent_of_steps`).  A step
that is one of these cases breaks what is claimed (`consistent_iff`).
-/

namespace AAAos

/-! ## Options of a packet -/

/-- The data of the first option of a code. -/
def findOption (code : UInt8) : Nat → List UInt8 → Option (List UInt8)
  | 0, _ => none
  | _ + 1, [] => none
  | n + 1, c :: rest =>
    if c = dhcpOptPad then findOption code n rest
    else if c = dhcpOptEnd then none
    else
      match rest with
      | [] => none
      | len :: data =>
        if c = code then some (data.take len.toNat)
        else findOption code n (data.drop len.toNat)

/-- The data of an option of a packet, behind the magic cookie. -/
def DhcpPacket.option (p : DhcpPacket) (code : UInt8) : Option (List UInt8) :=
  findOption code p.options.length (p.options.drop 4)

section findOption

variable {code c : UInt8} {data rest : List UInt8} {n : Nat}

lemma findOption_self (hpad : c ≠ dhcpOptPad) (hend : c ≠ dhcpOptEnd) (hdata : data.length < 256) :
    findOption c (n + 1) (dhcpOption c data ++ rest) = some data := by
  have hlen : (UInt8.ofNat data.length).toNat = data.length := UInt8.toNat_ofNat_of_lt' hdata
  rw [dhcpOption, List.cons_append, List.cons_append, findOption, if_neg hpad, if_neg hend,
    if_pos rfl, hlen, List.take_left]

lemma findOption_of_ne (hpad : c ≠ dhcpOptPad) (hend : c ≠ dhcpOptEnd) (hdata : data.length < 256) (hne : c ≠ code) :
    findOption code (n + 1) (dhcpOption c data ++ rest) = findOption code n rest := by
  have hlen : (UInt8.ofNat data.length).toNat = data.length := UInt8.toNat_ofNat_of_lt' hdata
  rw [dhcpOption, List.cons_append, List.cons_append, findOption, if_neg hpad, if_neg hend,
    if_neg hne, hlen, List.drop_left]

lemma findOption_end : findOption code (n + 1) [dhcpOptEnd] = none := rfl

end findOption

/-! ## The options that the client sends -/

namespace DhcpClient

variable (c : DhcpClient) (offeredIp serverIp : UInt32)

lemma options_request : (c.dhcpBuildRequest offeredIp serverIp).options.drop 4 =
    dhcpOption dhcpOptMsgType [dhcpMsgRequest] ++ (c.clientId ++ (c.requestedIpOption offeredIp ++
      (c.serverIdOption serverIp ++ (dhcpOption dhcpOptParamRequest dhcpParams ++ [dhcpOptEnd])))) := by
  unfold dhcpBuildRequest
  simp only [List.append_assoc]
  rfl

lemma length_options_request : ∃ n, (c.dhcpBuildRequest offeredIp serverIp).options.length = n + 6 := by
  refine ⟨(c.dhcpBuildRequest offeredIp serverIp).options.length - 6, ?_⟩
  have hlong : 6 ≤ (c.dhcpBuildRequest offeredIp serverIp).options.length := by
    unfold dhcpBuildRequest
    simp only [List.length_append, dhcpOption, dhcpCookie, List.length_cons, List.length_nil]
    omega
  omega

lemma length_clientId : (dhcpHtypeEthernet :: List.ofFn c.mac).length < 256 := by simp

lemma option_msgType_request :
    (c.dhcpBuildRequest offeredIp serverIp).option dhcpOptMsgType = some [dhcpMsgRequest] := by
  obtain ⟨n, hn⟩ := c.length_options_request offeredIp serverIp
  rw [DhcpPacket.option, hn, options_request]
  exact findOption_self (by decide) (by decide) (by decide)

lemma option_msgType_discover : c.dhcpBuildDiscover.option dhcpOptMsgType = some [dhcpMsgDiscover] := by
  have hlong : ∃ n, c.dhcpBuildDiscover.options.length = n + 1 := by
    refine ⟨c.dhcpBuildDiscover.options.length - 1, ?_⟩
    unfold dhcpBuildDiscover
    simp only [List.length_append, List.length_cons]
    omega
  obtain ⟨n, hn⟩ := hlong
  have hdrop : c.dhcpBuildDiscover.options.drop 4 = dhcpOption dhcpOptMsgType [dhcpMsgDiscover] ++
      (c.clientId ++ (dhcpOption dhcpOptParamRequest dhcpParams ++ [dhcpOptEnd])) := by
    unfold dhcpBuildDiscover
    simp only [List.append_assoc]
    rfl
  rw [DhcpPacket.option, hn, hdrop]
  exact findOption_self (by decide) (by decide) (by decide)

lemma option_requestedIp (h : c.state = .selecting) :
    (c.dhcpBuildRequest offeredIp serverIp).option dhcpOptRequestedIp = some (wordBytes offeredIp) := by
  obtain ⟨n, hn⟩ := c.length_options_request offeredIp serverIp
  rw [DhcpPacket.option, hn, options_request, clientId, requestedIpOption, if_pos (.inl h),
    findOption_of_ne (by decide) (by decide) (by decide) (by decide),
    findOption_of_ne (by decide) (by decide) c.length_clientId (by decide)]
  exact findOption_self (by decide) (by decide) (Nat.lt_of_sub_eq_succ rfl)

lemma option_serverId (h : c.state = .selecting) :
    (c.dhcpBuildRequest offeredIp serverIp).option dhcpOptServerId = some (wordBytes serverIp) := by
  obtain ⟨n, hn⟩ := c.length_options_request offeredIp serverIp
  rw [DhcpPacket.option, hn, options_request, clientId, requestedIpOption, if_pos (.inl h),
    serverIdOption, if_pos h, findOption_of_ne (by decide) (by decide) (by decide) (by decide),
    findOption_of_ne (by decide) (by decide) c.length_clientId (by decide),
    findOption_of_ne (by decide) (by decide) (Nat.lt_of_sub_eq_succ rfl) (by decide)]
  exact findOption_self (by decide) (by decide) (Nat.lt_of_sub_eq_succ rfl)

lemma option_requestedIp_requesting (h : c.state = .requesting) :
    (c.dhcpBuildRequest offeredIp serverIp).option dhcpOptRequestedIp = none := by
  obtain ⟨n, hn⟩ := c.length_options_request offeredIp serverIp
  rw [DhcpPacket.option, hn, options_request, clientId, requestedIpOption,
    if_neg (by rw [h]; decide), serverIdOption, if_neg (by rw [h]; decide),
    findOption_of_ne (by decide) (by decide) (by decide) (by decide),
    findOption_of_ne (by decide) (by decide) c.length_clientId (by decide), List.nil_append,
    List.nil_append, findOption_of_ne (by decide) (by decide) (by decide) (by decide)]
  exact findOption_end

end DhcpClient

/-! ## What a call sends -/

namespace Dhcp

variable {s s' : Dhcp} {env : DhcpEnv} {packet : Mem} {len : Nat} {offeredIp serverIp : UInt32}

/-- Where a REQUEST goes. -/
def requestDest (s : Dhcp) (serverIp : UInt32) : UInt32 :=
  if s.client.state = .renewing then htonl serverIp else ipAddrBroadcast

lemma dhcpSendPacket_taken (h : env.sends = true) (p : DhcpPacket) (destIp : UInt32) :
    s.dhcpSendPacket env p destIp = (dhcpOk, { s with sent := s.sent ++ [(p, destIp)] }) := if_pos h

lemma dhcpSendPacket_refused (h : ¬ env.sends = true) (p : DhcpPacket) (destIp : UInt32) :
    s.dhcpSendPacket env p destIp = (dhcpErrNetwork, s) := if_neg h

/-- A REQUEST that `udp_send` takes. -/
lemma dhcpRequest_taken (hinit : s.client.initialized = true) (hsends : env.sends = true) :
    (s.dhcpRequest env offeredIp serverIp).2 =
      { s with
        client := { s.client with
          state := if s.client.state = .selecting then .requesting else s.client.state
          timeoutTime := env.now + dhcpTimeout }
        sent := s.sent ++ [(s.client.dhcpBuildRequest offeredIp serverIp, s.requestDest serverIp)] } := by
  unfold dhcpRequest
  rw [if_neg (by rw [hinit]; decide)]
  dsimp only
  rw [dhcpSendPacket_taken hsends]
  rfl

lemma dhcpRequest_refused (h : s.client.initialized = false ∨ env.sends = false) :
    (s.dhcpRequest env offeredIp serverIp).2 = s := by
  unfold dhcpRequest
  by_cases hinit : s.client.initialized = false
  · rw [if_pos hinit]
  · rw [if_neg hinit]
    dsimp only
    rw [dhcpSendPacket_refused (by rw [h.resolve_left hinit]; decide)]
    rfl

/-- The REQUESTs among the packets sent between two states. -/
def requestsSent (s s' : Dhcp) : List DhcpPacket :=
  ((s'.sent.drop s.sent.length).map (·.1)).filter fun p =>
    p.option dhcpOptMsgType = some [dhcpMsgRequest]

lemma requestsSent_append {l : List (DhcpPacket × UInt32)} (h : s'.sent = s.sent ++ l) :
    requestsSent s s' = (l.map (·.1)).filter fun p =>
      p.option dhcpOptMsgType = some [dhcpMsgRequest] := by
  rw [requestsSent, h, List.drop_left]

lemma requestsSent_nil (h : s'.sent = s.sent) : requestsSent s s' = [] :=
  requestsSent_append (l := []) (by rw [h, List.append_nil])

lemma requestsSent_request (hinit : s.client.initialized = true) (hsends : env.sends = true) :
    requestsSent s (s.dhcpRequest env offeredIp serverIp).2 = [s.client.dhcpBuildRequest offeredIp serverIp] := by
  rw [requestsSent_append (congrArg sent (dhcpRequest_taken hinit hsends)), List.map_singleton]
  exact List.filter_cons_of_pos (decide_eq_true (DhcpClient.option_msgType_request _ _ _))

lemma setXid_sent (s : Dhcp) (xid seed : UInt32) :
    sent { s with client := { s.client with xid := xid }, randSeed := seed } = s.sent := rfl

lemma newXid_sent (s : Dhcp) (now : UInt64) : (s.newXid now).sent = s.sent := setXid_sent s _ _

lemma requestsSent_discover (s : Dhcp) (env : DhcpEnv) : requestsSent s (s.dhcpDiscover env).2 = [] := by
  unfold dhcpDiscover
  by_cases hinit : s.client.initialized = false
  · rw [if_pos hinit]
    exact requestsSent_nil rfl
  rw [if_neg hinit]
  have hsent := newXid_sent s env.now
  dsimp only
  generalize s.newXid env.now = t at hsent ⊢
  by_cases hsends : env.sends = true
  · rw [dhcpSendPacket_taken hsends]
    have happend : t.sent ++ [(t.client.dhcpBuildDiscover, ipAddrBroadcast)] =
        s.sent ++ [(t.client.dhcpBuildDiscover, ipAddrBroadcast)] := by rw [hsent]
    refine (requestsSent_append happend).trans ?_
    rw [List.map_singleton]
    refine List.filter_cons_of_neg ?_
    rw [DhcpClient.option_msgType_discover]
    decide
  · rw [dhcpSendPacket_refused hsends]
    exact requestsSent_nil hsent

/-! ## The OFFER that is answered -/

/-- An OFFER: its address and its server identifier, which is 0 if it has none. -/
structure Offer where
  yiaddr : UInt32
  serverIp : UInt32
deriving DecidableEq

/-- The OFFER that the call answers. -/
def offerOf (s : Dhcp) (packet : Mem) (len : Nat) : Option Offer :=
  if s.client.initialized = true ∧ s.client.state = .selecting then
    (s.client.reply packet len).bind fun r =>
      if r.msgType = dhcpMsgOffer then some ⟨r.yiaddr, r.lease.serverIp⟩ else none
  else none

lemma dhcpInput_offer {o : Offer} (h : s.offerOf packet len = some o) :
    (s.dhcpInput env packet len).2 = (s.dhcpRequest env o.yiaddr o.serverIp).2 ∧
      s.client.initialized = true ∧ s.client.state = .selecting := by
  unfold offerOf at h
  split_ifs at h with hready
  obtain ⟨r, hreply, hr⟩ := Option.bind_eq_some_iff.mp h
  split_ifs at hr with hoffer
  obtain rfl := Option.some.inj hr
  refine ⟨?_, hready⟩
  unfold dhcpInput
  rw [if_neg (by rw [hready.1]; decide), hreply]
  dsimp only
  rw [if_pos hoffer, if_pos hready.2]
  split_ifs
  · rfl
  · rfl

lemma dhcpInput_sent (h : s.offerOf packet len = none) : (s.dhcpInput env packet len).2.sent = s.sent := by
  unfold dhcpInput
  by_cases hinit : s.client.initialized = false
  · rw [if_pos hinit]
  rw [if_neg hinit]
  cases hreply : s.client.reply packet len with
  | none => rfl
  | some r =>
    dsimp only
    by_cases hoffer : r.msgType = dhcpMsgOffer
    · rw [if_pos hoffer]
      have hstate : s.client.state ≠ .selecting := by
        intro hselecting
        rw [offerOf, if_pos ⟨by simpa using hinit, hselecting⟩, hreply, Option.bind_some,
          if_pos hoffer] at h
        exact absurd h (by simp)
      rw [if_neg hstate]
    rw [if_neg hoffer]
    split_ifs
    all_goals rfl

end Dhcp

/-! ## Runs -/

/-- A REQUEST sent, the OFFER it answers, and the first REQUEST of its transaction. -/
structure SentRequest where
  packet : DhcpPacket
  offer : Option Dhcp.Offer
  first : DhcpPacket

/-- The client, the OFFER it answers, the first REQUEST of the transaction, the REQUESTs sent so far
in SELECTING and REQUESTING, and whether the last event was a packet that changed the lease or the
interface of a BOUND client. -/
structure RequestRun where
  dhcp : Dhcp
  offer : Option Dhcp.Offer := none
  first : Option DhcpPacket := none
  requests : List SentRequest := []
  disturbed : Bool := false

namespace RequestRun

open Dhcp

variable {m m' : RequestRun} {s : Dhcp} {env : DhcpEnv} {packet : Mem} {len : Nat}

/-- A packet. -/
def onPacket (m : RequestRun) (env : DhcpEnv) (packet : Mem) (len : Nat) : RequestRun :=
  let s := (m.dhcp.dhcpInput env packet len).2
  let offer := (m.dhcp.offerOf packet len).or m.offer
  let packets := requestsSent m.dhcp s
  { dhcp := s
    offer := offer
    first := packets.head?.or m.first
    requests := m.requests ++ packets.map fun p => ⟨p, offer, p⟩
    disturbed := m.dhcp.client.state = .bound ∧ (s.client.lease ≠ m.dhcp.client.lease ∨ s.ip ≠ m.dhcp.ip) }

/-- A tick, which retransmits in REQUESTING. -/
def onTick (m : RequestRun) (env : DhcpEnv) : RequestRun :=
  let s := m.dhcp.dhcpTimerTick env
  let packets :=
    if m.dhcp.client.state = .selecting ∨ m.dhcp.client.state = .requesting then
      requestsSent m.dhcp s
    else []
  { m with
    dhcp := s
    requests := m.requests ++ packets.map fun p => ⟨p, m.offer, m.first.getD p⟩
    disturbed := false }

/-- A packet, with its length, or a tick. -/
abbrev Event := DhcpEnv × Option (Mem × Nat)

def apply (m : RequestRun) : Event → RequestRun
  | (env, some (packet, len)) => m.onPacket env packet len
  | (env, none) => m.onTick env

def Step (m : RequestRun) (e : Event) (m' : RequestRun) : Prop := m' = m.apply e

/-- The tick retransmits in REQUESTING. -/
def Retransmits (s : Dhcp) (env : DhcpEnv) : Prop :=
  s.client.initialized = true ∧ s.client.state = .requesting ∧ s.client.timeoutTime ≤ env.now ∧
    s.client.retries + 1 < dhcpMaxRetries ∧ env.sends = true

/-- The event is none of the cases that go wrong. -/
def Keeps (s : Dhcp) : Event → Prop
  | (_, some (packet, len)) => s.client.state = .bound → ¬ s.TakesNak packet len
  | (env, none) => ¬ Retransmits s env

def KeepingStep (m : RequestRun) (e : Event) (m' : RequestRun) : Prop :=
  m.Step e m' ∧ Keeps m.dhcp e

/-- The REQUEST asks for the address of its OFFER from the server of its OFFER, with the options of the
first one. -/
structure Answers (r : SentRequest) : Prop where
  offer : ∃ o, r.offer = some o ∧ r.packet.option dhcpOptRequestedIp = some (wordBytes o.yiaddr) ∧
    r.packet.option dhcpOptServerId = some (wordBytes o.serverIp)
  requestedIp : r.packet.option dhcpOptRequestedIp = r.first.option dhcpOptRequestedIp
  serverId : r.packet.option dhcpOptServerId = r.first.option dhcpOptServerId

/-- **REQUESTs answer their OFFERs, and packets leave a BOUND client alone.** -/
structure Consistent (m : RequestRun) : Prop where
  answers : ∀ r ∈ m.requests, Answers r
  undisturbed : m.disturbed = false

structure Sound (m : RequestRun) : Prop where
  consistent : m.Consistent
  leased : m.dhcp.client.state = .bound → m.dhcp.client.lease.valid = true

/-! ### Packets -/

lemma requestsSent_congr {t : Dhcp} (h : t.sent = s.sent) (s' : Dhcp) : requestsSent s s' = requestsSent t s' := by
  rw [requestsSent, requestsSent, h]

lemma answers_packet {p : DhcpPacket} (hp : p ∈ requestsSent m.dhcp (m.dhcp.dhcpInput env packet len).2) :
    Answers ⟨p, (m.dhcp.offerOf packet len).or m.offer, p⟩ := by
  cases hoffer : m.dhcp.offerOf packet len with
  | none =>
    rw [requestsSent_nil (dhcpInput_sent hoffer)] at hp
    exact absurd hp List.not_mem_nil
  | some o =>
    obtain ⟨heq, hinit, hstate⟩ : (m.dhcp.dhcpInput env packet len).2 =
        (m.dhcp.dhcpRequest env o.yiaddr o.serverIp).2 ∧ _ := dhcpInput_offer hoffer
    rw [heq] at hp
    by_cases hsends : env.sends = true
    · rw [requestsSent_request hinit hsends, List.mem_singleton] at hp
      subst hp
      refine ⟨⟨o, rfl, ?_, ?_⟩, rfl, rfl⟩
      · exact DhcpClient.option_requestedIp _ _ _ hstate
      · exact DhcpClient.option_serverId _ _ _ hstate
    · rw [dhcpRequest_refused (.inr (by simpa using hsends)), requestsSent_nil rfl] at hp
      exact absurd hp List.not_mem_nil

lemma not_takesAck_bound (hstate : s.client.state = .bound) (r : DhcpReply) : ¬ s.TakesAck packet len r := by
  rintro ⟨-, -, -, haccepts⟩
  rw [acceptsAck, hstate] at haccepts
  exact absurd haccepts (by decide)

lemma sound_packet (h : m.Sound) (hkeeps : Keeps m.dhcp (env, some (packet, len))) :
    (m.onPacket env packet len).Sound := by
  refine ⟨⟨fun r hr => ?_, ?_⟩, ?_⟩
  · rcases List.mem_append.mp hr with hold | hnew
    · exact h.consistent.answers r hold
    · obtain ⟨p, hp, rfl⟩ := List.mem_map.mp hnew
      exact answers_packet hp
  · refine decide_eq_false ?_
    rintro ⟨hbound, hchanged⟩
    rcases dhcpInput_cases m.dhcp env packet len with ⟨r, htakes, -⟩ | ⟨hnak, -⟩ | ⟨-, -, hsame⟩
    · exact not_takesAck_bound hbound r htakes
    · exact hkeeps hbound hnak
    · exact hchanged.elim (fun hlease => hlease hsame.lease) fun hip => hip hsame.ip
  · intro hbound
    change (m.dhcp.dhcpInput env packet len).2.client.state = .bound at hbound
    change (m.dhcp.dhcpInput env packet len).2.client.lease.valid = true
    rcases dhcpInput_cases m.dhcp env packet len with ⟨r, -, heq⟩ | ⟨-, heq⟩ | ⟨-, -, hsame⟩
    · rw [heq]
      rfl
    · rw [heq] at hbound
      exact DhcpState.noConfusion hbound
    · rw [hsame.lease]
      exact h.leased (hsame.bound hbound)

/-! ### Ticks -/

/-- The state after the count of a timeout. -/
def counted (s : Dhcp) : Dhcp :=
  { s with client := { s.client with retries := s.client.retries + 1 } }

lemma dhcpRetry_eq (s : Dhcp) (env : DhcpEnv) : s.dhcpRetry env =
    if dhcpMaxRetries ≤ s.client.retries + 1 then
      (counted s).setState (if s.client.lease.valid then .rebinding else .init)
    else if s.client.state = .selecting then ((counted s).dhcpDiscover env).2
    else ((counted s).dhcpRequest env s.client.lease.ipAddr s.client.lease.serverIp).2 := rfl

lemma dhcpTimerTick_waiting (hstate : s.client.state = .selecting ∨ s.client.state = .requesting) :
    s.dhcpTimerTick env =
      if s.client.initialized = true ∧ s.client.timeoutTime ≤ env.now then s.dhcpRetry env else s := by
  unfold dhcpTimerTick
  by_cases hinit : s.client.initialized = false
  · rw [if_pos hinit, if_neg (by simp [hinit])]
  rw [if_neg hinit]
  have hinit' : s.client.initialized = true := by simpa using hinit
  rcases hstate with hstate | hstate
  · rw [hstate, hinit']
    simp only [true_and]
  · rw [hstate, hinit']
    simp only [true_and]

lemma requestsSent_tick_selecting (hstate : s.client.state = .selecting) :
    requestsSent s (s.dhcpTimerTick env) = [] := by
  rw [dhcpTimerTick_waiting (.inl hstate)]
  split_ifs
  · rw [dhcpRetry_eq]
    by_cases hlast : dhcpMaxRetries ≤ s.client.retries + 1
    · rw [if_pos hlast]
      exact requestsSent_nil rfl
    · rw [if_neg hlast, if_pos hstate, requestsSent_congr (s := s) (t := counted s) rfl]
      exact requestsSent_discover _ env
  · exact requestsSent_nil rfl

lemma requestsSent_tick_requesting (hstate : s.client.state = .requesting)
    (h : ¬ Retransmits s env) : requestsSent s (s.dhcpTimerTick env) = [] := by
  rw [dhcpTimerTick_waiting (.inr hstate)]
  split_ifs with htimeout
  · rw [dhcpRetry_eq]
    by_cases hlast : dhcpMaxRetries ≤ s.client.retries + 1
    · rw [if_pos hlast]
      exact requestsSent_nil rfl
    · have hsends : env.sends = false := by
        by_contra hsends
        exact h ⟨htimeout.1, hstate, htimeout.2, UInt8.not_le.mp hlast, by simpa using hsends⟩
      rw [if_neg hlast, if_neg (by rw [hstate]; decide), dhcpRequest_refused (.inr hsends)]
      exact requestsSent_nil rfl
  · exact requestsSent_nil rfl

lemma requestsSent_tick_retransmits (h : Retransmits s env) :
    requestsSent s (s.dhcpTimerTick env) = [(counted s).client.dhcpBuildRequest
      s.client.lease.ipAddr s.client.lease.serverIp] := by
  obtain ⟨hinit, hstate, htimeout, hcount, hsends⟩ := h
  rw [dhcpTimerTick_waiting (.inr hstate), if_pos ⟨hinit, htimeout⟩, dhcpRetry_eq,
    if_neg (UInt8.not_le.mpr hcount), if_neg (by rw [hstate]; decide),
    requestsSent_congr (s := s) (t := counted s) rfl]
  exact requestsSent_request hinit hsends

lemma sound_tick (h : m.Sound) (hkeeps : Keeps m.dhcp (env, none)) : (m.onTick env).Sound := by
  have hnone : (m.onTick env).requests = m.requests := by
    have hempty : (if m.dhcp.client.state = .selecting ∨ m.dhcp.client.state = .requesting then
        requestsSent m.dhcp (m.dhcp.dhcpTimerTick env) else []) = [] := by
      split_ifs with hstate
      · rcases hstate with hselecting | hrequesting
        · exact requestsSent_tick_selecting hselecting
        · exact requestsSent_tick_requesting hrequesting hkeeps
      · rfl
    change m.requests ++ List.map _ (if _ then _ else _) = m.requests
    rw [hempty, List.map_nil, List.append_nil]
  refine ⟨⟨fun r hr => h.consistent.answers r (hnone ▸ hr), rfl⟩, fun hbound => ?_⟩
  change (m.dhcp.dhcpTimerTick env).client.state = .bound at hbound
  change (m.dhcp.dhcpTimerTick env).client.lease.valid = true
  rcases dhcpTimerTick_cases m.dhcp env with heq | hsame
  · rw [heq] at hbound
    exact DhcpState.noConfusion hbound
  · rw [hsame.lease]
    exact h.leased (hsame.bound hbound)

/-! ### The result -/

/-- **One event.** -/
lemma sound_step {e : Event} (h : m.Sound) (hstep : KeepingStep m e m') : m'.Sound := by
  obtain ⟨rfl, hkeeps⟩ := hstep
  rcases e with ⟨env, - | ⟨packet, len⟩⟩
  · exact sound_tick h hkeeps
  · exact sound_packet h hkeeps

/-- **When REQUESTs answer their OFFERs and packets leave a BOUND client alone.** -/
theorem consistent_of_steps {es : List Event} (hselecting : s.client.state = .selecting)
    (hrun : Steps KeepingStep { dhcp := s } es m) : m.Consistent := by
  have hstart : Sound { dhcp := s } :=
    ⟨⟨fun r hr => absurd hr List.not_mem_nil, rfl⟩, fun hbound =>
      DhcpState.noConfusion (hselecting.symm.trans hbound)⟩
  exact (hrun.invariant (I := Sound) (fun _ _ _ => sound_step) hstart).consistent

/-- A client that has sent its first DISCOVER. -/
def discovering : Dhcp := (LeaseRun.leased 1).dhcp

/-- The OFFER, and the ACK, of the lease of ten seconds. -/
def offerPacket : Mem := LeaseRun.serverPacket
  [dhcpOptMsgType, 1, dhcpMsgOffer, dhcpOptServerId, 4, 10, 0, 0, 1, dhcpOptEnd]

def ackPacket : Mem := LeaseRun.serverPacket [dhcpOptMsgType, 1, dhcpMsgAck, dhcpOptServerId, 4,
  10, 0, 0, 1, dhcpOptLeaseTime, 4, 0, 0, 0, 10, dhcpOptEnd]

/-- An OFFER is answered, and the ACK comes before the timeout. -/
theorem consistent_of_prompt_ack : Consistent (apply (apply { dhcp := discovering }
    ({ now := 0 }, some (offerPacket, 250))) ({ now := 0 }, some (ackPacket, 256))) := by
  have hrequesting : (apply { dhcp := discovering }
      ({ now := 0 }, some (offerPacket, 250))).dhcp.client.state = .requesting := by decide
  have hselecting : discovering.client.state = .selecting := by decide
  have hrun : Steps KeepingStep { dhcp := discovering }
      [({ now := 0 }, some (offerPacket, 250)), ({ now := 0 }, some (ackPacket, 256))]
      (apply (apply { dhcp := discovering } ({ now := 0 }, some (offerPacket, 250)))
        ({ now := 0 }, some (ackPacket, 256))) := by
    refine .cons ⟨rfl, fun hbound => ?_⟩ (.cons ⟨rfl, fun hbound => ?_⟩ (.nil _))
    · exact DhcpState.noConfusion (hselecting.symm.trans hbound)
    · exact DhcpState.noConfusion (hrequesting.symm.trans hbound)
  exact consistent_of_steps hselecting hrun

/-- The REQUEST is lost, and the one sent after the timeout asks for nothing. -/
theorem retransmitted_bare : ¬ ∀ (s : Dhcp) (es : List Event) (m : RequestRun),
    s.client.state = .selecting → Steps Step { dhcp := s } es m → m.Consistent := by
  intro hall
  have hconsistent := hall discovering [({ now := 0 }, some (offerPacket, 250)), ({ now := 4000 }, none)] _
    (by decide) (.cons rfl (.cons rfl (.nil _)))
  have hbare : ((apply (apply { dhcp := discovering } ({ now := 0 }, some (offerPacket, 250)))
      ({ now := 4000 }, none)).requests.map fun r => r.packet.option dhcpOptRequestedIp) =
      [some [10, 0, 0, 5], none] := by decide
  obtain ⟨r, hr, hnone⟩ : ∃ r ∈ (apply (apply { dhcp := discovering }
      ({ now := 0 }, some (offerPacket, 250))) ({ now := 4000 }, none)).requests,
      r.packet.option dhcpOptRequestedIp = none := by
    refine List.mem_map.mp ?_
    rw [hbare]
    exact List.mem_cons_of_mem _ List.mem_cons_self
  obtain ⟨o, -, hsome, -⟩ := (hconsistent.answers r hr).offer
  exact absurd (hnone.symm.trans hsome) (by simp)

/-- **The condition is exact.**  From a state that such runs reach, an event keeps what is claimed if
and only if it is none of the cases left out. -/
theorem consistent_iff {e : Event} (h : m.Sound) : (m.apply e).Consistent ↔ Keeps m.dhcp e := by
  refine ⟨fun hconsistent => ?_, fun hkeeps => (sound_step h ⟨rfl, hkeeps⟩).consistent⟩
  rcases e with ⟨env, - | ⟨packet, len⟩⟩
  · intro hretransmits
    have hstate := hretransmits.2.1
    have hnone := DhcpClient.option_requestedIp_requesting (counted m.dhcp).client
      m.dhcp.client.lease.ipAddr m.dhcp.client.lease.serverIp hstate
    have hsent := requestsSent_tick_retransmits hretransmits
    generalize (counted m.dhcp).client.dhcpBuildRequest _ _ = p at hnone hsent
    have hmem : ⟨p, m.offer, m.first.getD p⟩ ∈ (m.onTick env).requests := by
      refine List.mem_append_right _ ?_
      rw [if_pos (.inr hstate), hsent]
      exact List.mem_singleton_self _
    obtain ⟨o, -, hsome, -⟩ := (hconsistent.answers _ hmem).offer
    exact absurd (hnone.symm.trans hsome) (by simp)
  · intro hbound hnak
    have hdisturbed := of_decide_eq_false hconsistent.undisturbed
    refine hdisturbed ⟨hbound, .inl ?_⟩
    rcases dhcpInput_cases m.dhcp env packet len with ⟨r, htakes, -⟩ | ⟨-, heq⟩ | ⟨hnot, -⟩
    · exact absurd htakes (not_takesAck_bound hbound r)
    · rw [heq]
      intro hlease
      have hvalid := h.leased hbound
      rw [← hlease] at hvalid
      exact Bool.noConfusion hvalid
    · exact absurd hnak hnot

theorem consistent_iff_tick : (apply { dhcp := discovering } ({ now := 5000 }, none)).Consistent ↔
    Keeps discovering ({ now := 5000 }, none) :=
  consistent_iff ⟨⟨nofun, rfl⟩, fun hbound => absurd hbound (by decide)⟩

end RequestRun

end AAAos
