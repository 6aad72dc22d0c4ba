import AAAos.Lib.Channel
import AAAos.Net.Tcp.Calls

/-!
# Agreement of the handshake

A client opens one connection, and a server listens and accepts.  They exchange segments over a channel
that may lose, duplicate and reorder them, and the timers of both send the SYN and the SYN-ACK again.
Where a socket of the client and one of the server are ESTABLISHED and no data was sent, each expects
the sequence number that the other sends next (`agreement_of_steps`).

**The client.**  All its SYNs have the sequence number `iss`.  It acknowledges nothing before it is
ESTABLISHED, and afterwards, without data, always the same number (`Dialing`).

**The server.**  It may have several sockets for the one connection, since a SYN may be queued more than
once.  But all requests have the number `iss`, so all its SYNs acknowledge `iss + 1`, and a socket only
gets ESTABLISHED by an acknowledgement of the client (`Answering`).

**Everything else** that a call may do takes its socket out of the handshake or leaves it where it is
(`Fades`).
-/

namespace AAAos

/-- The socket has left the handshake, or was never in it. -/
def TcpState.over : TcpState → Bool
  | .listen | .synSent | .synReceived | .established => false
  | _ => true

/-- The fields that the handshake is about. -/
def TcpSocket.progress (s : TcpSocket) :
    TcpState × UInt32 × UInt32 × UInt32 × List TcpPendingConn :=
  (s.state, s.iss, s.sndNxt, s.rcvNxt, s.pending)

namespace TcpSegment

/-- A SYN that is not a reset. -/
def opens (seg : TcpSegment) : Bool := seg.flags.syn && !seg.flags.rst

/-- An acknowledgement that is not a reset. -/
def acks (seg : TcpSegment) : Bool := seg.flags.ack && !seg.flags.rst

lemma opens_of_rst {seg : TcpSegment} (h : seg.flags.rst = true) : seg.opens = false := by
  rw [opens, h]
  exact Bool.and_false _

lemma acks_of_rst {seg : TcpSegment} (h : seg.flags.rst = true) : seg.acks = false := by
  rw [acks, h]
  exact Bool.and_false _

lemma opens_of_not_syn {seg : TcpSegment} (h : seg.flags.syn = false) : seg.opens = false := by
  rw [opens, h]
  rfl

end TcpSegment

namespace TcpConn

variable {c c' c'' : TcpConn} {seg : TcpSegment}

/-! ## Calls that do not take the handshake on -/

/-- The socket is out of the handshake or stays where it is; new segments are resets, or come from a
socket that is out of it and are no SYNs. -/
structure Fades (c c' : TcpConn) : Prop where
  progress : c'.sock.state.over = true ∨ c'.sock.progress = c.sock.progress
  sent : ∀ seg ∈ c'.io.sent, seg ∈ c.io.sent ∨ seg.flags.rst = true ∨
    c.sock.state ≠ .closed ∧ c'.sock.state.over = true ∧ seg.flags.syn = false
  closed : c.sock.state = .closed → c'.sock.state = .closed

lemma Fades.refl (c : TcpConn) : Fades c c := ⟨.inr rfl, fun _ h => .inl h, id⟩

lemma Fades.over (h : Fades c c') (hover : c.sock.state.over = true) : c'.sock.state.over = true := by
  rcases h.progress with hover' | hsame
  · exact hover'
  · have hstate : c'.sock.state = c.sock.state := congrArg Prod.fst hsame
    rwa [hstate]

lemma Fades.trans (h : Fades c c') (h' : Fades c' c'') : Fades c c'' := by
  refine ⟨?_, fun seg hseg => ?_, fun hc => h'.closed (h.closed hc)⟩
  · rcases h'.progress with hover | hsame
    · exact .inl hover
    · rcases h.progress with hover | hbefore
      · exact .inl (h'.over hover)
      · exact .inr (hsame.trans hbefore)
  · rcases h'.sent seg hseg with hold | hrst | ⟨hopen, hover, hsyn⟩
    · rcases h.sent seg hold with hfirst | hrst | ⟨hopen, hover, hsyn⟩
      · exact .inl hfirst
      · exact .inr (.inl hrst)
      · exact .inr (.inr ⟨hopen, h'.over hover, hsyn⟩)
    · exact .inr (.inl hrst)
    · exact .inr (.inr ⟨fun hc => hopen (h.closed hc), hover, hsyn⟩)

lemma Fades.of_same (h : c'.sock.progress = c.sock.progress) (hsent : c'.io.sent = c.io.sent) : Fades c c' :=
  ⟨.inr h, fun _ hseg => .inl (hsent ▸ hseg), fun hc => (congrArg Prod.fst h).trans hc⟩

lemma fades_setState {state : TcpState} (hover : state.over = true)
    (h : c.sock.state ≠ .closed ∨ state = .closed) : Fades c (c.tcpSetState state) := by
  rw [tcpSetState_eq]
  exact ⟨.inl hover, fun _ h => .inl h, fun hc => h.resolve_left (not_not.mpr hc)⟩

lemma fades_destroy (c : TcpConn) : Fades c (c.tcpSetState .closed).tcpSocketDestroy :=
  (fades_setState rfl (.inr rfl)).trans (.of_same rfl rfl)

lemma fades_rst (c : TcpConn) (srcIp dstIp : UInt32) (srcPort dstPort : UInt16) (seq ack : UInt32) :
    Fades c (c.tcpSendRst srcIp dstIp srcPort dstPort seq ack) := by
  refine ⟨.inr rfl, fun seg hseg => ?_, id⟩
  obtain ⟨new, hsent, hnew⟩ := c.io.tcpSendRst_sent srcIp dstIp srcPort dstPort seq ack
  change seg ∈ (c.io.tcpSendRst srcIp dstIp srcPort dstPort seq ack).sent at hseg
  rw [hsent] at hseg
  rcases List.mem_append.mp hseg with hold | hmem
  · exact .inl hold
  · exact .inr (.inl (by rw [(hnew seg hmem).2]))

lemma mem_tcpSendSegment {flags : TcpFlags} {data : List UInt8} (h : seg ∈ (c.tcpSendSegment flags data).2.io.sent) :
    seg ∈ c.io.sent ∨ seg = c.segment flags data := by
  rcases tcpSendSegment_cases c flags data with hcase | hcase
  · rw [hcase.sent] at h
    exact .inl h
  · rw [hcase.sent] at h
    exact (List.mem_append.mp h).imp_right List.mem_singleton.mp

lemma fades_segment {flags : TcpFlags} {data : List UInt8} (hover : c.sock.state.over = true)
    (hopen : c.sock.state ≠ .closed) (hsyn : flags.syn = false) :
    Fades c (c.tcpSendSegment flags data).2 := by
  obtain ⟨n, hsock⟩ := tcpSendSegment_sock c flags data
  have hover' : (c.tcpSendSegment flags data).2.sock.state.over = true := by
    rwa [hsock]
  refine ⟨.inl hover', fun seg hseg => ?_, fun hc => absurd hc hopen⟩
  rcases mem_tcpSendSegment hseg with hold | rfl
  · exact .inl hold
  · exact .inr (.inr ⟨hopen, hover', hsyn⟩)

lemma fades_enterTimeWait (h : c.sock.state ≠ .closed) : Fades c c.enterTimeWait :=
  (fades_setState rfl (.inl h)).trans (.of_same rfl rfl)

/-- `tcp_output`, when it sends no data. -/
lemma fades_output (hsilent : ∀ seg ∈ c.tcpOutput.io.sent, seg.data = []) : Fades c c.tcpOutput := by
  unfold tcpOutput at hsilent ⊢
  dsimp only at hsilent ⊢
  have hmalloc : Fades c { c with io := c.io.kmalloc.2 } := .of_same rfl c.io.kmalloc_same.1
  split_ifs at hsilent ⊢ with hcan hzero hok
  · exact Fades.refl c
  · refine hmalloc.trans ?_
    generalize hd : c.sock.sendBuf.ringBufferPeek (toSend c.sock) = data at hsilent ⊢
    have hdata : data ≠ [] := by
      intro hnil
      have hlen := length_peek c.sock
      rw [hd, hnil] at hlen
      exact hzero hlen.symm
    rcases tcpSendSegment_cases { c with io := c.io.kmalloc.2 }
      { ack := true, psh := data.length = c.sock.sendBuf.used } data with hcase | hcase
    · refine .of_same ?_ hcase.sent
      simp only [modify, hcase.sock]
      rfl
    · refine absurd (hsilent (segment { c with io := c.io.kmalloc.2 }
        { ack := true, psh := data.length = c.sock.sendBuf.used } data) ?_) hdata
      change _ ∈ (tcpSendSegment _ _ _).2.io.sent
      rw [hcase.sent]
      exact List.mem_append_right _ (List.mem_singleton_self _)
  · exact hmalloc
  · exact Fades.refl c

lemma fades_send {data : List UInt8} (hsilent : ∀ seg ∈ (c.tcpSend data).2.io.sent, seg.data = []) :
    Fades c (c.tcpSend data).2 := by
  rcases c.tcpSend_cases data with ⟨-, hsame⟩ | ⟨-, -, -, hanswer⟩
  · rw [hsame]
    exact Fades.refl c
  · rw [hanswer] at hsilent ⊢
    have hwrite : Fades c (c.modify (·.withData data)) := .of_same rfl rfl
    exact hwrite.trans (fades_output hsilent)

lemma fades_recv (c : TcpConn) (maxLen : Nat) : Fades c (c.tcpRecv maxLen).2.2 := by
  unfold tcpRecv
  dsimp only
  split_ifs
  all_goals exact .of_same rfl rfl

lemma fades_sendFin {state : TcpState} (hover : state.over = true) (hopen : state ≠ .closed)
    (h : c.sock.state ≠ .closed) : Fades c (c.sendFin state) := by
  have hstate : (c.tcpSetState state).sock.state = state := by
    rw [tcpSetState_eq]
    rfl
  exact (fades_setState hover (.inl h)).trans
    (fades_segment (by rwa [hstate]) (by rwa [hstate]) rfl)

lemma fades_close (c : TcpConn) : Fades c c.tcpClose := by
  have hfin : ∀ {state : TcpState}, c.sock.state = state → state ≠ .closed →
      Fades c (c.sendFin .finWait1) ∧ Fades c (c.sendFin .lastAck) := by
    rintro state rfl hopen
    exact ⟨fades_sendFin rfl (by decide) hopen, fades_sendFin rfl (by decide) hopen⟩
  unfold tcpClose
  cases hstate : c.sock.state
  case closed => exact .of_same rfl rfl
  case listen => exact fades_destroy c
  case synSent => exact fades_destroy c
  case synReceived => exact (hfin hstate (by decide)).1
  case established => exact (hfin hstate (by decide)).1
  case closeWait => exact (hfin hstate (by decide)).2
  all_goals exact Fades.refl c

lemma fades_abort (c : TcpConn) : Fades c c.tcpAbort := by
  unfold tcpAbort
  split_ifs
  · exact (fades_rst c _ _ _ _ _ _).trans (fades_destroy _)
  · exact fades_destroy c

/-- The timer only takes the handshake on by sending the SYN or the SYN-ACK once more. -/
lemma tickSocket_cases (c : TcpConn) : Fades c c.tickSocket ∨
    (c.sock.state = .synSent ∨ c.sock.state = .synReceived) ∧ c.tickSocket = c.retransmit := by
  unfold tickSocket
  cases hstate : c.sock.state
  case timeWait =>
    simp only
    split_ifs
    · exact .inl (fades_destroy c)
    · exact .inl (Fades.refl c)
  case synSent =>
    simp only
    split_ifs
    · exact .inl (fades_abort c)
    · exact .inr ⟨.inl trivial, rfl⟩
    · exact .inl (Fades.refl c)
  case synReceived =>
    simp only
    split_ifs
    · exact .inl (fades_abort c)
    · exact .inr ⟨.inr trivial, rfl⟩
    · exact .inl (Fades.refl c)
  all_goals exact .inl (Fades.refl c)

/-- A segment without data that is a reset, or does not find its socket in the handshake. -/
def Late (s : TcpSocket) (seg : TcpSegment) : Prop :=
  seg.flags.rst = true ∨ s.state ≠ .listen ∧ s.state ≠ .synSent ∧ s.state ≠ .synReceived

lemma fades_receiveEstablished (h : c.sock.state = .established) (hdata : seg.data = []) :
    Fades c (c.receiveEstablished seg) := by
  have hack : Fades c (c.processAck seg) ∧ (c.processAck seg).sock.state = .established := by
    unfold processAck
    split_ifs
    · exact ⟨.of_same rfl rfl, h⟩
    · exact ⟨Fades.refl c, h⟩
  have hnone : (c.processAck seg).processData seg = c.processAck seg := by
    rw [processData, if_pos hdata]
  unfold receiveEstablished
  rw [hnone]
  unfold processFin
  split_ifs
  · refine hack.1.trans ?_
    have hopen : (c.processAck seg).countFin.sock.state ≠ .closed := by
      change (c.processAck seg).sock.state ≠ .closed
      rw [hack.2]
      decide
    have hclose : ((c.processAck seg).countFin.tcpSetState .closeWait).sock.state = .closeWait := by
      rw [tcpSetState_eq]
      rfl
    -- the number counts the FIN, but the socket has left the handshake
    have hleft : Fades (c.processAck seg) ((c.processAck seg).countFin.tcpSetState .closeWait) := by
      refine ⟨.inl (by rw [hclose]; rfl), fun seg hseg => ?_, fun hc => absurd hc hopen⟩
      rw [tcpSetState_io] at hseg
      exact .inl hseg
    exact hleft.trans (fades_segment (by rw [hclose]; rfl) (by rw [hclose]; decide) rfl)
  · exact hack.1

lemma fades_countFin (hover : c.sock.state.over = true) : Fades c c.countFin :=
  ⟨.inl hover, fun _ h => .inl h, id⟩

lemma fades_ack (hover : c.sock.state.over = true) (hopen : c.sock.state ≠ .closed) :
    Fades c c.sendAck := fades_segment hover hopen rfl

lemma fades_receiveFinWait1 (h : c.sock.state = .finWait1) : Fades c (c.receiveFinWait1 seg) := by
  unfold receiveFinWait1
  obtain ⟨acked, hacked, hfades, hover, hopen⟩ : ∃ acked, (if seg.flags.ack = true ∧
      seg.ack = c.sock.sndNxt then c.tcpSetState .finWait2 else c) = acked ∧ Fades c acked ∧
      acked.sock.state.over = true ∧ acked.sock.state ≠ .closed := by
    refine ⟨_, rfl, ?_⟩
    split_ifs
    · refine ⟨fades_setState rfl (.inl (by rw [h]; decide)), ?_⟩
      rw [tcpSetState_eq]
      exact ⟨rfl, fun hc => by cases hc⟩
    · rw [h]
      exact ⟨Fades.refl c, rfl, by decide⟩
  rw [hacked]
  dsimp only
  have hcount : Fades c acked.countFin.sendAck :=
    (hfades.trans (fades_countFin hover)).trans (fades_ack hover hopen)
  have hstill : acked.countFin.sendAck.sock.state ≠ .closed := by
    rwa [sendAck_sock]
  split_ifs
  · exact hcount.trans (fades_enterTimeWait hstill)
  · exact hcount.trans (fades_setState rfl (.inl hstill))
  · exact hfades

/-- **A late segment** does not take the handshake on. -/
lemma fades_receive (hdata : seg.data = []) (h : Late c.sock seg) : Fades c (c.tcpReceive seg) := by
  unfold tcpReceive
  by_cases hreset : seg.flags.rst = true
  · split_ifs
    · exact fades_setState rfl (.inr rfl)
    · exact Fades.refl c
  obtain ⟨hlisten, hsynSent, hsynReceived⟩ := h.resolve_left hreset
  rw [if_neg hreset]
  cases hstate : c.sock.state
  case closed => exact fades_rst c _ _ _ _ _ _
  case listen => exact absurd hstate hlisten
  case synSent => exact absurd hstate hsynSent
  case synReceived => exact absurd hstate hsynReceived
  case established => exact fades_receiveEstablished hstate hdata
  case finWait1 => exact fades_receiveFinWait1 hstate
  case finWait2 =>
    simp only [receiveFinWait2]
    split_ifs
    · have hwait : c.countFin.enterTimeWait.sock.state = .timeWait := by
        unfold enterTimeWait
        rw [tcpSetState_eq]
        rfl
      have hopen : c.countFin.sock.state ≠ .closed := by
        change c.sock.state ≠ .closed
        rw [hstate]
        decide
      refine ((fades_countFin (by rw [hstate]; rfl)).trans (fades_enterTimeWait hopen)).trans ?_
      exact fades_ack (by rw [hwait]; rfl) (by rw [hwait]; decide)
    · exact Fades.refl c
  case closeWait =>
    simp only [receiveCloseWait]
    split_ifs
    · exact .of_same rfl rfl
    · exact Fades.refl c
  case closing =>
    simp only [receiveClosing]
    split_ifs
    · exact fades_enterTimeWait (by rw [hstate]; decide)
    · exact Fades.refl c
  case lastAck =>
    simp only [receiveLastAck]
    split_ifs
    · exact fades_destroy c
    · exact Fades.refl c
  case timeWait =>
    split_ifs
    · exact fades_ack (by rw [hstate]; rfl) (by rw [hstate]; decide)
    · exact Fades.refl c

/-- The calls that do not take the handshake on. -/
def Fading (s : TcpSocket) : SockCall → Prop
  | .listen _ | .startAccept .. | .dropPending | .connect .. => False
  | .segment seg => seg.data = [] ∧ Late s seg
  | .tick => s.state ≠ .synSent ∧ s.state ≠ .synReceived
  | _ => True

/-- **Fading calls**, as long as they send no data. -/
lemma fades_call {call : SockCall} (h : Fading c.sock call)
    (hsilent : ∀ seg ∈ (c.call call).io.sent, seg.data = []) : Fades c (c.call call) := by
  cases call with
  | listen backlog | startAccept listener pending iss | dropPending | connect port iss remoteIp remotePort => exact h.elim
  | bindTo port => exact .of_same rfl rfl
  | send data => exact fades_send hsilent
  | recv maxLen => exact fades_recv c maxLen
  | close => exact fades_close c
  | abort => exact fades_abort c
  | output => exact fades_output hsilent
  | setNonblock nonblock => exact .of_same rfl rfl
  | segment seg => exact fades_receive h.1 h.2
  | tick =>
    rcases tickSocket_cases c with hfades | ⟨hstate, -⟩
    · exact hfades
    · exact absurd hstate (not_or.mpr h)

end TcpConn

/-! ## The client -/

section Client

variable {iss : UInt32} {sent sent' : List TcpSegment} {s s' : TcpSocket}

/-- The socket of the active open, beside the segments that the client has sent. -/
def Dialing (iss : UInt32) (sent : List TcpSegment) (s : TcpSocket) : Prop :=
  match s.state with
  | .listen | .synReceived => False
  | .synSent => s.iss = iss ∧ ∀ seg ∈ sent, seg.acks = false
  | .established => s.sndNxt = iss + 1 ∧ ∀ seg ∈ sent, seg.acks = true → seg.ack = s.rcvNxt
  | _ => True

lemma dialing_over (h : s.state.over = true) : Dialing iss sent s := by
  unfold Dialing
  cases hstate : s.state
  all_goals first
    | trivial
    | rw [hstate] at h; cases h

lemma dialing_synSent (h : s.state = .synSent) :
    Dialing iss sent s ↔ s.iss = iss ∧ ∀ seg ∈ sent, seg.acks = false := by
  unfold Dialing
  rw [h]

lemma dialing_established (h : s.state = .established) : Dialing iss sent s ↔
    s.sndNxt = iss + 1 ∧ ∀ seg ∈ sent, seg.acks = true → seg.ack = s.rcvNxt := by
  unfold Dialing
  rw [h]

lemma Dialing.mono (h : Dialing iss sent s) (hsame : s'.progress = s.progress)
    (hsent : ∀ seg ∈ sent', seg ∈ sent ∨ seg.flags.rst = true) : Dialing iss sent' s' := by
  simp only [TcpSocket.progress, Prod.mk.injEq] at hsame
  obtain ⟨hstate, hiss, hnxt, hrcv, -⟩ := hsame
  unfold Dialing at h ⊢
  rw [hstate]
  cases hs : s.state
  all_goals rw [hs] at h
  case synSent =>
    refine ⟨hiss.trans h.1, fun seg hseg => ?_⟩
    exact (hsent seg hseg).elim (h.2 seg) TcpSegment.acks_of_rst
  case established =>
    refine ⟨hnxt.trans h.1, fun seg hseg hacks => ?_⟩
    rcases hsent seg hseg with hold | hrst
    · exact (h.2 seg hold hacks).trans hrcv.symm
    · rw [TcpSegment.acks_of_rst hrst] at hacks
      cases hacks
  all_goals exact h

end Client

namespace TcpConn

variable {c c' : TcpConn} {seg : TcpSegment} {iss : UInt32}

/-- The active open, with the SYNs sent. -/
structure Dials (iss : UInt32) (c : TcpConn) : Prop where
  syns : ∀ seg ∈ c.io.sent, seg.opens = true → seg.seq = iss
  socket : Dialing iss c.io.sent c.sock

lemma Dials.fades (h : Dials iss c) (hfades : Fades c c') : Dials iss c' := by
  refine ⟨fun seg hseg hopens => ?_, ?_⟩
  · rcases hfades.sent seg hseg with hold | hrst | ⟨-, -, hsyn⟩
    · exact h.syns seg hold hopens
    · rw [TcpSegment.opens_of_rst hrst] at hopens
      cases hopens
    · rw [TcpSegment.opens_of_not_syn hsyn] at hopens
      cases hopens
  · by_cases hover : c'.sock.state.over = true
    · exact dialing_over hover
    · refine h.socket.mono (hfades.progress.resolve_left hover) fun seg hseg => ?_
      rcases hfades.sent seg hseg with hold | hrst | ⟨-, hover', -⟩
      · exact .inl hold
      · exact .inr hrst
      · exact absurd hover' hover

lemma Dials.receiveSynSent (h : Dials iss c) (hstate : c.sock.state = .synSent) (hrst : seg.flags.rst = false)
    (hopens : seg.opens = true → seg.flags.ack = true ∧ seg.ack = iss + 1) :
    Dials iss (c.receiveSynSent seg) := by
  have hsocket := (dialing_synSent hstate).mp h.socket
  have hsyn : seg.flags.syn = true → seg.opens = true := by
    intro hsyn
    rw [TcpSegment.opens, hsyn, hrst]
    rfl
  unfold TcpConn.receiveSynSent
  split_ifs with hboth hack hbare
  · exact h.fades (fades_rst c _ _ _ _ _ _)
  · rw [not_not] at hack
    obtain ⟨-, hnumber⟩ := hopens (hsyn hboth.1)
    have hmem : ∀ seg' ∈ (((c.modify fun s =>
        { s with
          sndUna := seg.ack
          irs := seg.seq
          rcvNxt := seg.seq + 1
          sndWnd := seg.window.toUInt32 }).tcpSetState .established).sendAck).io.sent,
        seg' ∈ c.io.sent ∨ seg'.flags = { ack := true } ∧ seg'.ack = seg.seq + 1 := by
      intro seg' hseg'
      rcases mem_tcpSendSegment hseg' with hold | rfl
      · rw [tcpSetState_io] at hold
        exact .inl hold
      · rw [tcpSetState_eq]
        exact .inr ⟨rfl, rfl⟩
    refine ⟨fun seg' hseg' hopens' => ?_, ?_⟩
    · rcases hmem seg' hseg' with hold | ⟨hflags, -⟩
      · exact h.syns seg' hold hopens'
      · rw [TcpSegment.opens, hflags] at hopens'
        cases hopens'
    · rw [sendAck_sock]
      refine (dialing_established (by rw [tcpSetState_eq]; rfl)).mpr
        ⟨?_, fun seg' hseg' hacks => ?_⟩
      · rw [tcpSetState_eq]
        exact hack.symm.trans hnumber
      rcases hmem seg' hseg' with hold | ⟨-, hnumber'⟩
      · rw [hsocket.2 seg' hold] at hacks
        cases hacks
      · rwa [tcpSetState_eq]
  · exact absurd ⟨hbare, (hopens (hsyn hbare)).1⟩ hboth
  · exact h

/-- **A segment of the server.** -/
lemma Dials.receive (h : Dials iss c) (hdata : seg.data = [])
    (hopens : seg.opens = true → seg.flags.ack = true ∧ seg.ack = iss + 1) :
    Dials iss (c.tcpReceive seg) := by
  by_cases hlate : Late c.sock seg
  · exact h.fades (fades_receive hdata hlate)
  have hsocket := h.socket
  unfold Dialing at hsocket
  have hrst : seg.flags.rst = false := Bool.not_eq_true _ ▸ fun hrst => hlate (.inl hrst)
  unfold TcpConn.tcpReceive
  rw [if_neg (by rw [hrst]; decide)]
  cases hstate : c.sock.state
  all_goals rw [hstate] at hsocket
  case listen => exact hsocket.elim
  case synReceived => exact hsocket.elim
  case synSent => exact h.receiveSynSent hstate hrst hopens
  all_goals exact absurd (.inr (by rw [hstate]; exact ⟨by decide, by decide, by decide⟩)) hlate

lemma Dials.retransmit (h : Dials iss c) (hstate : c.sock.state = .synSent) : Dials iss c.retransmit := by
  have hsocket := (dialing_synSent hstate).mp h.socket
  unfold TcpConn.retransmit
  rw [hstate, if_pos rfl]
  obtain ⟨n, hsock⟩ := tcpSendSegment_sock
    (c.modify fun s => { s with retries := s.retries + 1, sndNxt := s.iss }) { syn := true } []
  have hmem : ∀ seg' ∈ ((c.modify fun s => { s with retries := s.retries + 1, sndNxt := s.iss })
      |>.tcpSendSegment { syn := true } []).2.io.sent,
      seg' ∈ c.io.sent ∨ seg'.flags = { syn := true } ∧ seg'.seq = c.sock.iss := by
    intro seg' hseg'
    rcases mem_tcpSendSegment hseg' with hold | rfl
    · exact .inl hold
    · exact .inr ⟨rfl, rfl⟩
  refine ⟨fun seg' hseg' hopens => ?_, ?_⟩
  · rcases hmem seg' hseg' with hold | ⟨-, hnumber⟩
    · exact h.syns seg' hold hopens
    · exact hnumber.trans hsocket.1
  · refine (dialing_synSent (by rwa [hsock])).mpr ⟨?_, fun seg' hseg' => ?_⟩
    · rw [hsock]
      exact hsocket.1
    · rcases hmem seg' hseg' with hold | ⟨hflags, -⟩
      · exact hsocket.2 seg' hold
      · rw [TcpSegment.acks, hflags]
        rfl

/-- **`tcp_connect`**, when nothing was sent before. -/
lemma dials_startConnect (hsent : c.io.sent = []) (iss remoteIp : UInt32) (remotePort : UInt16) :
    Dials iss (c.startConnect iss remoteIp remotePort).2 := by
  obtain ⟨opened, hopened, hstate, hiss, hnxt, hnone⟩ : ∃ opened, (c.modify fun s =>
      { s with
        remoteIp := remoteIp
        remotePort := remotePort
        iss := iss
        sndUna := iss
        sndNxt := iss }).tcpSetState .synSent = opened ∧ opened.sock.state = .synSent ∧
      opened.sock.iss = iss ∧ opened.sock.sndNxt = iss ∧ opened.io.sent = [] := by
    refine ⟨_, rfl, ?_⟩
    rw [tcpSetState_eq]
    exact ⟨rfl, rfl, rfl, hsent⟩
  obtain ⟨n, hsock⟩ := tcpSendSegment_sock opened { syn := true } []
  have hmem : ∀ seg ∈ (opened.tcpSendSegment { syn := true } []).2.io.sent,
      seg.flags = { syn := true } ∧ seg.seq = iss := by
    intro seg hseg
    rcases mem_tcpSendSegment hseg with hold | rfl
    · rw [hnone] at hold
      cases hold
    · exact ⟨rfl, hnxt⟩
  unfold startConnect
  rw [hopened]
  dsimp only
  split_ifs
  · refine ⟨fun seg hseg _ => ?_, dialing_over ?_⟩
    · rw [tcpSetState_io] at hseg
      exact (hmem seg hseg).2
    · rw [tcpSetState_eq]
      rfl
  · refine ⟨fun seg hseg _ => (hmem seg hseg).2, (dialing_synSent ?_).mpr ⟨?_, fun seg hseg => ?_⟩⟩
    · rwa [hsock]
    · rwa [hsock]
    · rw [TcpSegment.acks, (hmem seg hseg).1]
      rfl

/-- **The timer.** -/
lemma Dials.tick (h : Dials iss c) : Dials iss c.tickSocket := by
  rcases tickSocket_cases c with hfades | ⟨hsent | hreceived, heq⟩
  · exact h.fades hfades
  · rw [heq]
    exact h.retransmit hsent
  · have hsocket := h.socket
    unfold Dialing at hsocket
    rw [hreceived] at hsocket
    exact hsocket.elim

end TcpConn

/-! ## The server -/

section Server

variable {iss : UInt32} {heard heard' : List TcpSegment} {s s' : TcpSocket}

/-- A socket of the server, beside the segments that the client has sent. -/
def Answering (iss : UInt32) (heard : List TcpSegment) (s : TcpSocket) : Prop :=
  match s.state with
  | .listen => ∀ r ∈ s.pending, r.seqNum = iss
  | .synSent => False
  | .synReceived => s.rcvNxt = iss + 1
  | .established =>
    s.rcvNxt = iss + 1 ∧ ∃ seg ∈ heard, seg.acks = true ∧ seg.ack = s.sndNxt
  | _ => True

/-- A SYN of the server answers the client's. -/
def Answers (iss : UInt32) (seg : TcpSegment) : Prop :=
  seg.opens = true → seg.flags.ack = true ∧ seg.ack = iss + 1

lemma answering_over (h : s.state.over = true) : Answering iss heard s := by
  unfold Answering
  cases hstate : s.state
  all_goals first
    | trivial
    | rw [hstate] at h; cases h

lemma answering_listen (h : s.state = .listen) : Answering iss heard s ↔ ∀ r ∈ s.pending, r.seqNum = iss := by
  unfold Answering
  rw [h]

lemma answering_synReceived (h : s.state = .synReceived) : Answering iss heard s ↔ s.rcvNxt = iss + 1 := by
  unfold Answering
  rw [h]

lemma answering_established (h : s.state = .established) : Answering iss heard s ↔
    s.rcvNxt = iss + 1 ∧ ∃ seg ∈ heard, seg.acks = true ∧ seg.ack = s.sndNxt := by
  unfold Answering
  rw [h]

lemma Answering.mono (h : Answering iss heard s) (hsame : s'.progress = s.progress)
    (hheard : ∀ seg ∈ heard, seg ∈ heard') : Answering iss heard' s' := by
  simp only [TcpSocket.progress, Prod.mk.injEq] at hsame
  obtain ⟨hstate, -, hnxt, hrcv, hpending⟩ := hsame
  unfold Answering at h ⊢
  rw [hstate]
  cases hs : s.state
  all_goals rw [hs] at h
  case listen => exact hpending ▸ h
  case synReceived => exact hrcv.trans h
  case established =>
    obtain ⟨hnumber, seg, hseg, hacks, hack⟩ := h
    exact ⟨hrcv.trans hnumber, seg, hheard seg hseg, hacks, hack.trans hnxt.symm⟩
  all_goals exact h

end Server

namespace TcpConn

variable {c c' : TcpConn} {seg : TcpSegment} {iss : UInt32} {heard : List TcpSegment}

/-- A socket of the server, with the segments that the server has sent. -/
structure Serves (iss : UInt32) (heard : List TcpSegment) (c : TcpConn) : Prop where
  socket : Answering iss heard c.sock
  syns : ∀ seg ∈ c.io.sent, Answers iss seg

lemma Serves.fades (h : Serves iss heard c) (hfades : Fades c c') : Serves iss heard c' := by
  refine ⟨?_, fun seg hseg hopens => ?_⟩
  · rcases hfades.progress with hover | hsame
    · exact answering_over hover
    · exact h.socket.mono hsame fun _ hseg => hseg
  · rcases hfades.sent seg hseg with hold | hrst | ⟨-, -, hsyn⟩
    · exact h.syns seg hold hopens
    · rw [TcpSegment.opens_of_rst hrst] at hopens
      cases hopens
    · rw [TcpSegment.opens_of_not_syn hsyn] at hopens
      cases hopens

lemma serves_synAck (hstate : c.sock.state = .synReceived) (hnumber : c.sock.rcvNxt = iss + 1)
    (hsyns : ∀ seg ∈ c.io.sent, Answers iss seg) :
    Serves iss heard (c.tcpSendSegment { syn := true, ack := true } []).2 := by
  obtain ⟨n, hsock⟩ := tcpSendSegment_sock c { syn := true, ack := true } []
  refine ⟨(answering_synReceived (by rwa [hsock])).mpr ?_, fun seg hseg => ?_⟩
  · rwa [hsock]
  · rcases mem_tcpSendSegment hseg with hold | rfl
    · exact hsyns seg hold
    · exact fun _ => ⟨rfl, hnumber⟩

lemma Serves.retransmit (h : Serves iss heard c) (hstate : c.sock.state = .synReceived) :
    Serves iss heard c.retransmit := by
  unfold TcpConn.retransmit
  rw [hstate]
  exact serves_synAck hstate ((answering_synReceived hstate).mp h.socket) h.syns

/-- **The timer.** -/
lemma Serves.tick (h : Serves iss heard c) : Serves iss heard c.tickSocket := by
  rcases tickSocket_cases c with hfades | ⟨hsent | hreceived, heq⟩
  · exact h.fades hfades
  · have hsocket := h.socket
    unfold Answering at hsocket
    rw [hsent] at hsocket
    exact hsocket.elim
  · rw [heq]
    exact h.retransmit hreceived

lemma Serves.receiveListen (h : Serves iss heard c) (hstate : c.sock.state = .listen)
    (hsyn : seg.flags.syn = true → seg.seq = iss) : Serves iss heard (c.receiveListen seg) := by
  have hqueue := (answering_listen hstate).mp h.socket
  have hsent := c.io.kmalloc_same.1
  unfold TcpConn.receiveListen
  by_cases hflag : seg.flags.syn = true
  swap
  · rwa [if_neg hflag]
  rw [if_pos hflag]
  by_cases hfull : c.sock.backlog ≤ c.sock.pendingCount
  · rwa [if_pos hfull]
  rw [if_neg hfull]
  rcases hmalloc : c.io.kmalloc with ⟨ok, io⟩
  rw [hmalloc] at hsent
  dsimp only
  have hsyns : ∀ seg ∈ io.sent, Answers iss seg := fun seg hseg => h.syns seg (hsent ▸ hseg)
  cases ok with
  | false => exact ⟨h.socket, hsyns⟩
  | true =>
    refine ⟨(answering_listen (by exact hstate)).mpr fun r hr => ?_, hsyns⟩
    rcases List.mem_cons.mp hr with rfl | hold
    · exact hsyn hflag
    · exact hqueue r hold

/-- **A segment of the client.** -/
lemma Serves.receive (h : Serves iss heard c) (hdata : seg.data = []) (hheard : seg ∈ heard)
    (hopens : seg.opens = true → seg.seq = iss) : Serves iss heard (c.tcpReceive seg) := by
  by_cases hlate : Late c.sock seg
  · exact h.fades (fades_receive hdata hlate)
  have hrst : seg.flags.rst = false := Bool.not_eq_true _ ▸ fun hrst => hlate (.inl hrst)
  unfold TcpConn.tcpReceive
  rw [if_neg (by rw [hrst]; decide)]
  cases hstate : c.sock.state
  case listen =>
    refine h.receiveListen hstate fun hsyn => hopens ?_
    rw [TcpSegment.opens, hsyn, hrst]
    rfl
  case synReceived =>
    simp only [TcpConn.receiveSynReceived]
    split_ifs with hack
    · have hnumber := (answering_synReceived hstate).mp h.socket
      rw [tcpSetState_eq]
      refine ⟨(answering_established rfl).mpr ⟨hnumber, seg, hheard, ?_, hack.2⟩, h.syns⟩
      rw [TcpSegment.acks, hack.1, hrst]
      rfl
    · exact h
  case synSent =>
    have hsocket := h.socket
    unfold Answering at hsocket
    rw [hstate] at hsocket
    exact hsocket.elim
  all_goals exact absurd (.inr (by rw [hstate]; exact ⟨by decide, by decide, by decide⟩)) hlate

/-- `tcp_listen` starts without requests. -/
lemma Serves.listen (h : Serves iss heard c) (backlog : Int) : Serves iss heard (c.tcpListen backlog).2 := by
  unfold TcpConn.tcpListen
  split_ifs
  · exact h
  · exact h
  · rw [tcpSetState_eq]
    exact ⟨(answering_listen rfl).mpr fun r hr => absurd hr List.not_mem_nil, h.syns⟩

/-- **`tcp_accept`** answers a request. -/
lemma serves_startAccept (listener : TcpSocket) {pending : TcpPendingConn}
    (hpending : pending.seqNum = iss) (own : UInt32) (hsyns : ∀ seg ∈ c.io.sent, Answers iss seg) :
    Serves iss heard (c.startAccept listener pending own) := by
  refine serves_synAck ?_ ?_ ?_
  · rw [tcpSetState_eq]
    rfl
  · rw [tcpSetState_eq]
    exact congrArg (· + 1) hpending
  · rwa [tcpSetState_io]

end TcpConn

/-! ## The two machines -/

/-- `tcp_connect`. -/
def TcpEvent.dials : TcpEvent → Bool
  | .connect .. => true
  | _ => false

/-- `tcp_listen` and `tcp_accept`. -/
def TcpEvent.serves : TcpEvent → Bool
  | .listen .. | .accept _ => true
  | _ => false

/-- The segment that arrives. -/
def TcpEvent.segment : TcpEvent → Option TcpSegment
  | .receive seg => some seg
  | _ => none

namespace Tcp

variable {t t' : Tcp} {e : TcpEvent} {iss : UInt32} {a : TcpRef} {heard : List TcpSegment}

/-- No data was sent. -/
def Silent (t : Tcp) : Prop := ∀ seg ∈ t.io.sent, seg.data = []

/-- The client: `a` is the socket of the active open, and the others are CLOSED. -/
structure Client (iss : UInt32) (a : TcpRef) (t : Tcp) : Prop where
  lt : a < t.fresh
  others : ∀ p ∈ t.list, p ≠ a → (t.blocks p).state = .closed
  socket : a ∈ t.list → Dialing iss t.io.sent (t.blocks a)
  syns : ∀ seg ∈ t.io.sent, seg.opens = true → seg.seq = iss

lemma Silent.of_prefix (h : t'.Silent) (hsent : t.io.sent <+: t'.io.sent) : t.Silent :=
  fun seg hseg => h seg (hsent.subset hseg)

lemma Client.call (h : t.Client iss a) {p : TcpRef} {f : TcpConn → TcpConn} (hp : p ∈ t.list)
    (hdials : p = a → TcpConn.Dials iss (f { sock := t.blocks p, io := t.io }))
    (hfades : p ≠ a → TcpConn.Fades { sock := t.blocks p, io := t.io }
      (f { sock := t.blocks p, io := t.io })) : (t.onSocket p f).Client iss a := by
  have hsub := onSocket_sublist t p f
  by_cases hpa : p = a
  · subst hpa
    obtain ⟨hsyns, hsocket⟩ := hdials rfl
    refine ⟨by rw [onSocket_fresh]; exact h.lt, fun q hq hne => ?_, fun _ => ?_, ?_⟩
    · rw [onSocket_of_ne hne]
      exact h.others q (hsub.subset hq) hne
    · rwa [onSocket_self, onSocket_io]
    · rwa [onSocket_io]
  · have hclosed := h.others p hp hpa
    have hf := hfades hpa
    have hresets : ∀ seg ∈ (t.onSocket p f).io.sent, seg ∈ t.io.sent ∨ seg.flags.rst = true := by
      intro seg hseg
      rw [onSocket_io] at hseg
      rcases hf.sent seg hseg with hold | hrst | ⟨hopen, -⟩
      · exact .inl hold
      · exact .inr hrst
      · exact absurd hclosed hopen
    refine ⟨by rw [onSocket_fresh]; exact h.lt, fun q hq hne => ?_, fun ha => ?_,
      fun seg hseg hopens => ?_⟩
    · by_cases hqp : q = p
      · subst hqp
        rw [onSocket_self]
        exact hf.closed hclosed
      · rw [onSocket_of_ne hqp]
        exact h.others q (hsub.subset hq) hne
    · rw [onSocket_of_ne (Ne.symm hpa)]
      exact (h.socket (hsub.subset ha)).mono rfl hresets
    · rcases hresets seg hseg with hold | hrst
      · exact h.syns seg hold hopens
      · rw [TcpSegment.opens_of_rst hrst] at hopens
        cases hopens

lemma performs_client {p : TcpRef} {s : TcpSocket} {call : SockCall} (hperforms : Performs t e p s call)
    (hdials : e.dials = false) (hserves : e.serves = false)
    (hdata : ∀ seg, e.segment = some seg → seg.data = []) :
    TcpConn.Fading s call ∨ s.state ≠ .closed ∧
      (call = .tick ∨ ∃ seg, e.segment = some seg ∧ call = .segment seg) := by
  cases hperforms with
  | listen p backlog | accepted hlisten hpending iss now | accept hlisten hpending => cases hserves
  | connect hclosed hbound iss remoteIp remotePort | bindConnect hclosed hfree iss remoteIp remotePort => cases hdials
  | receive hfound =>
    rename_i seg
    by_cases hclosed : (t.blocks p).state = .closed
    · refine .inl ⟨hdata seg rfl, .inr ?_⟩
      rw [hclosed]
      exact ⟨by decide, by decide, by decide⟩
    · exact .inr ⟨hclosed, .inr ⟨seg, rfl, rfl⟩⟩
  | tick hp =>
    by_cases hclosed : (t.blocks p).state = .closed
    · refine .inl ?_
      unfold TcpConn.Fading
      rw [hclosed]
      exact ⟨by decide, by decide⟩
    · exact .inr ⟨hclosed, .inl rfl⟩
  | _ => exact .inl trivial

/-- **One event of the client.** -/
lemma client_step (hwf : t.Wf) (hguard : ∀ p, e.socket = some p → p ∈ t.list)
    (hdials : e.dials = false) (hserves : e.serves = false)
    (hdata : ∀ seg, e.segment = some seg → seg.data = [])
    (hanswers : ∀ seg, e.segment = some seg → Answers iss seg) (h : t.Silent → t.Client iss a) :
    (t.apply e).Silent → (t.apply e).Client iss a := by
  refine apply_invariant (I := fun u => u.Silent → u.Client iss a) h hwf hguard
    (fun u next isn io hu hsent hsilent => ?_) (fun io hsent hsilent => ?_)
    (fun io new hsent hnew hsilent => ?_) fun u p call hperforms hp hu hsilent => ?_
  · obtain ⟨hlt, hothers, hsocket, hsyns⟩ := hu fun seg hseg => hsilent seg (by exact hsent ▸ hseg)
    exact ⟨hlt, hothers, by exact hsent ▸ hsocket, by exact hsent ▸ hsyns⟩
  · obtain ⟨hlt, hothers, hsocket, hsyns⟩ := h fun seg hseg => hsilent seg (by exact hsent ▸ hseg)
    refine ⟨Nat.lt_succ_of_lt hlt, fun p hp hne => ?_, fun hmem => ?_, by exact hsent ▸ hsyns⟩
    · unfold withNew
      dsimp only
      by_cases hfresh : p = t.fresh
      · subst hfresh
        simp
      · rw [Function.update_of_ne hfresh]
        exact hothers p ((List.mem_cons.mp hp).resolve_left hfresh) hne
    · have hold : (t.withNew io).blocks a = t.blocks a := Function.update_of_ne hlt.ne _ _
      rw [hold]
      exact hsent ▸ hsocket ((List.mem_cons.mp hmem).resolve_left hlt.ne)
  · obtain ⟨hlt, hothers, hsocket, hsyns⟩ := h fun seg hseg =>
      hsilent seg (by exact hsent ▸ List.mem_append_left _ hseg)
    have hresets : ∀ seg ∈ io.sent, seg ∈ t.io.sent ∨ seg.flags.rst = true := by
      intro seg hseg
      rw [hsent] at hseg
      exact (List.mem_append.mp hseg).imp_right fun hmem => by rw [(hnew seg hmem).2]
    refine ⟨hlt, hothers, fun hmem => (hsocket hmem).mono rfl hresets, fun seg hseg hopens => ?_⟩
    rcases hresets seg hseg with hold | hrst
    · exact hsyns seg hold hopens
    · rw [TcpSegment.opens_of_rst hrst] at hopens
      cases hopens
  · rw [Silent, onSocket_io] at hsilent
    have hclient := hu fun seg hseg =>
      hsilent seg ((TcpConn.call_sent { sock := u.blocks p, io := u.io } call).subset hseg)
    rcases performs_client hperforms hdials hserves hdata with hfading | ⟨hopen, hcase⟩
    · have hfades := TcpConn.fades_call (c := { sock := u.blocks p, io := u.io }) hfading hsilent
      refine hclient.call hp (fun hpa => ?_) fun _ => hfades
      subst hpa
      exact TcpConn.Dials.fades ⟨hclient.syns, hclient.socket hp⟩ hfades
    · refine hclient.call hp (fun hpa => ?_) fun hpa => absurd (hclient.others p hp hpa) hopen
      subst hpa
      have hconn : TcpConn.Dials iss { sock := u.blocks p, io := u.io } :=
        ⟨hclient.syns, hclient.socket hp⟩
      rcases hcase with rfl | ⟨seg, hseg, rfl⟩
      · exact hconn.tick
      · exact hconn.receive (hdata seg hseg) (hanswers seg hseg)

/-- The server. -/
def Server (iss : UInt32) (heard : List TcpSegment) (t : Tcp) : Prop :=
  t.Holds (fun _ => Answering iss heard) (Answers iss)

lemma Server.call (h : t.Server iss heard) {p : TcpRef} {call : SockCall}
    (hperforms : Performs t' e p (t.blocks p) call) (hp : p ∈ t.list)
    (hguard : ∀ p, e.socket = some p → p ∈ t'.list) (hbefore : t'.Server iss heard)
    (hdials : e.dials = false)
    (hheard : ∀ seg, e.segment = some seg → seg ∈ heard ∧ seg.data = [] ∧ (seg.opens = true → seg.seq = iss))
    (hsilent : ∀ seg ∈ (TcpConn.call { sock := t.blocks p, io := t.io } call).io.sent, seg.data = []) :
    (t.onSocket p (·.call call)).Server iss heard := by
  have hconn : TcpConn.Serves iss heard { sock := t.blocks p, io := t.io } :=
    ⟨h.blocks p hp, h.sent⟩
  suffices hserves : TcpConn.Serves iss heard
      (TcpConn.call { sock := t.blocks p, io := t.io } call) by
    refine ⟨fun q hq => ?_, by rw [onSocket_io]; exact hserves.syns⟩
    by_cases hqp : q = p
    · subst hqp
      rw [onSocket_self]
      exact hserves.socket
    · rw [onSocket_of_ne hqp]
      exact h.blocks q ((onSocket_sublist t p _).subset hq)
  generalize hs : t.blocks p = s at hperforms hconn hsilent ⊢
  have hfading : TcpConn.Fading s call → TcpConn.Serves iss heard
      (TcpConn.call { sock := s, io := t.io } call) :=
    fun hf => hconn.fades (TcpConn.fades_call hf hsilent)
  cases hperforms with
  | connect hclosed hbound iss remoteIp remotePort | bindConnect hclosed hfree iss remoteIp remotePort => cases hdials
  | listen p backlog => exact hconn.listen backlog
  | accepted hlisten hpending iss now =>
    have hrequest := (answering_listen hlisten).mp (hbefore.blocks _ (hguard _ rfl)) _
      (hpending ▸ List.mem_cons_self)
    exact TcpConn.serves_startAccept _ hrequest _ h.sent
  | accept hlisten hpending =>
    refine ⟨(answering_listen (by exact hlisten)).mpr fun r hr => ?_, hconn.syns⟩
    exact (answering_listen hlisten).mp hconn.socket r (List.mem_of_mem_tail hr)
  | receive hfound =>
    obtain ⟨hmem, hdata, hopens⟩ := hheard _ rfl
    exact hconn.receive hdata hmem hopens
  | tick hp => exact hconn.tick
  | _ => exact hfading trivial

/-- **One event of the server.** -/
lemma server_step (hwf : t.Wf) (hguard : ∀ p, e.socket = some p → p ∈ t.list) (hdials : e.dials = false)
    (hheard : ∀ seg, e.segment = some seg → seg ∈ heard ∧ seg.data = [] ∧ (seg.opens = true → seg.seq = iss))
    (h : t.Silent → t.Server iss heard) : (t.apply e).Silent → (t.apply e).Server iss heard := by
  refine (apply_invariant (I := fun u => t.io.sent <+: u.io.sent ∧ (u.Silent → u.Server iss heard))
    ⟨List.prefix_rfl, h⟩ hwf hguard (fun u next isn io hu hsent => ⟨?_, fun hsilent => ?_⟩)
    (fun io hsent => ⟨?_, fun hsilent => ?_⟩) (fun io new hsent hnew => ⟨?_, fun hsilent => ?_⟩)
    fun u p call hperforms hp hu => ⟨?_, fun hsilent => ?_⟩).2
  · exact hsent ▸ hu.1
  · have hserver := hu.2 fun seg hseg => hsilent seg (by exact hsent ▸ hseg)
    exact ⟨hserver.blocks, by exact hsent ▸ hserver.sent⟩
  · exact hsent ▸ List.prefix_rfl
  · have hserver := h fun seg hseg => hsilent seg (by exact hsent ▸ hseg)
    refine ⟨fun p hp => ?_, by exact hsent ▸ hserver.sent⟩
    unfold withNew
    dsimp only
    by_cases hfresh : p = t.fresh
    · subst hfresh
      rw [Function.update_self]
      exact answering_over rfl
    · rw [Function.update_of_ne hfresh]
      exact hserver.blocks p ((List.mem_cons.mp hp).resolve_left hfresh)
  · exact hsent ▸ List.prefix_append _ _
  · have hserver := h fun seg hseg => hsilent seg (by exact hsent ▸ List.mem_append_left _ hseg)
    refine ⟨hserver.blocks, fun seg hseg hopens => ?_⟩
    rw [hsent] at hseg
    rcases List.mem_append.mp hseg with hold | hmem
    · exact hserver.sent seg hold hopens
    · rw [TcpSegment.opens_of_rst (by rw [(hnew seg hmem).2])] at hopens
      cases hopens
  · rw [onSocket_io]
    exact hu.1.trans (TcpConn.call_sent { sock := u.blocks p, io := u.io } call)
  · rw [Silent, onSocket_io] at hsilent
    have hbefore : u.Silent := fun seg hseg =>
      hsilent seg ((TcpConn.call_sent { sock := u.blocks p, io := u.io } call).subset hseg)
    exact (hu.2 hbefore).call hperforms hp hguard (h (hbefore.of_prefix hu.1)) hdials hheard hsilent

/-! ## The network -/

/-- The party that has made its active open: it connects and listens no more. -/
def clientParty : Party Tcp TcpEvent TcpSegment where
  Step t e t' := Step t e t' ∧ e.dials = false ∧ e.serves = false
  received e := e.segment
  sent t := t.io.sent

/-- The party that listens and accepts, and does not connect. -/
def serverParty : Party Tcp TcpEvent TcpSegment where
  Step t e t' := Step t e t' ∧ e.dials = false
  received e := e.segment
  sent t := t.io.sent

/-- The machine has just called `tcp_connect`; its sockets were CLOSED, and it had sent nothing. -/
def ActiveOpen (t : Tcp) : Prop :=
  ∃ (t₀ : Tcp) (p : TcpRef) (remoteIp : UInt32) (remotePort : UInt16), t₀.Wf ∧
    (∀ q ∈ t₀.list, (t₀.blocks q).state = .closed) ∧ t₀.io.sent = [] ∧ p ∈ t₀.list ∧
    t = (t₀.tcpConnect p remoteIp remotePort).2

/-- The machine has sent nothing, and its sockets are CLOSED or wait for the first request. -/
structure PassiveOpen (t : Tcp) : Prop where
  wf : t.Wf
  sockets : ∀ q ∈ t.list, (t.blocks q).state = .closed ∨ (t.blocks q).state = .listen ∧ (t.blocks q).pending = []
  sent : t.io.sent = []

/-- The invariant of the two machines. -/
structure Agreeing (iss : UInt32) (a : TcpRef) (client server : Tcp) : Prop where
  clientWf : client.Wf
  serverWf : server.Wf
  dials : client.Silent → server.Silent → client.Client iss a
  answers : client.Silent → server.Silent → server.Server iss client.io.sent

/-- **One event of one machine.** -/
lemma agreeing_run {client server client' server' : Tcp} {es : List (TcpEvent ⊕ TcpEvent)}
    (hrun : Steps (ChannelStep clientParty serverParty) (client, server) es (client', server'))
    (h : Agreeing iss a client server) : Agreeing iss a client' server' := by
  refine hrun.of_channel (fun c s e c' h hstep hsent => ?_) (fun c s e s' h hstep hsent => ?_) h
  · obtain ⟨⟨rfl, hguard⟩, hdials, hserves⟩ := hstep
    have hgrows : c.io.sent <+: (c.apply e).io.sent := apply_sent h.clientWf hguard
    refine ⟨h.clientWf.apply hguard, h.serverWf, fun hc hs => ?_, fun hc hs => ?_⟩
    · have hserver := h.answers (hc.of_prefix hgrows) hs
      exact client_step h.clientWf hguard hdials hserves (fun seg hseg => hs seg (hsent seg hseg))
        (fun seg hseg => hserver.sent seg (hsent seg hseg)) (fun hc => h.dials hc hs) hc
    · have hserver := h.answers (hc.of_prefix hgrows) hs
      exact ⟨fun p hp => (hserver.blocks p hp).mono rfl fun seg hseg => hgrows.subset hseg,
        hserver.sent⟩
  · obtain ⟨⟨rfl, hguard⟩, hdials⟩ := hstep
    have hgrows : s.io.sent <+: (s.apply e).io.sent := apply_sent h.serverWf hguard
    refine ⟨h.clientWf, h.serverWf.apply hguard, fun hc hs => ?_, fun hc hs => ?_⟩
    · exact h.dials hc (hs.of_prefix hgrows)
    · have hclient := h.dials hc (hs.of_prefix hgrows)
      refine server_step h.serverWf hguard hdials (fun seg hseg => ?_) (fun hs => h.answers hc hs) hs
      exact ⟨hsent seg hseg, hc seg (hsent seg hseg), hclient.syns seg (hsent seg hseg)⟩

lemma ActiveOpen.client (h : ActiveOpen t) : t.Wf ∧ ∃ iss a, t.Client iss a := by
  obtain ⟨t₀, p, remoteIp, remotePort, hwf, hclosed, hsent, hp, rfl⟩ := h
  have hwf' : (t₀.tcpConnect p remoteIp remotePort).2.Wf :=
    hwf.apply (e := .connect p remoteIp remotePort) fun q hq => Option.some.inj hq ▸ hp
  refine ⟨hwf', ?_⟩
  have hnothing : ∀ iss : UInt32, t₀.Client iss p := fun iss =>
    ⟨hwf.lt p hp, fun q hq _ => hclosed q hq, fun _ => dialing_over (by rw [hclosed p hp]; rfl),
      fun seg hseg => absurd hseg (by rw [hsent]; exact List.not_mem_nil)⟩
  have hcounters : ∀ (next : UInt16) (isn iss : UInt32),
      Client iss p { t₀ with nextEphemeralPort := next, isnCounter := isn } := by
    intro next isn iss
    obtain ⟨hlt, hothers, hsocket, hsyns⟩ := hnothing iss
    exact ⟨hlt, hothers, hsocket, hsyns⟩
  obtain ⟨next, isn, heq | ⟨call, hperforms, heq⟩⟩ := t₀.tcpConnect_cases p remoteIp remotePort
  · rw [heq]
    exact ⟨0, p, hcounters next isn 0⟩
  · rw [heq]
    cases hperforms with
    | connect hc hbound iss remoteIp remotePort =>
      exact ⟨iss, p, (hcounters next isn iss).call hp
        (fun _ => TcpConn.dials_startConnect hsent iss remoteIp remotePort)
        fun hne => absurd rfl hne⟩
    | bindConnect hc hfree iss remoteIp remotePort =>
      exact ⟨iss, p, (hcounters next isn iss).call hp
        (fun _ => TcpConn.dials_startConnect
          (c := TcpConn.bindTo { sock := t₀.blocks p, io := t₀.io } _) hsent iss remoteIp remotePort)
        fun hne => absurd rfl hne⟩

/-- **The handshake agrees.** -/
theorem agreement_of_steps {client server client' server' : Tcp} {es : List (TcpEvent ⊕ TcpEvent)}
    (hclient : ActiveOpen client) (hserver : PassiveOpen server)
    (hrun : Steps (ChannelStep clientParty serverParty) (client, server) es (client', server'))
    (hc : client'.Silent) (hs : server'.Silent) {p q : TcpRef} (hp : p ∈ client'.list)
    (hq : q ∈ server'.list) (hpe : (client'.blocks p).state = .established)
    (hqe : (server'.blocks q).state = .established) :
    (client'.blocks p).sndNxt = (server'.blocks q).rcvNxt ∧
      (server'.blocks q).sndNxt = (client'.blocks p).rcvNxt := by
  obtain ⟨hwf, iss, a, hinit⟩ := hclient.client
  have hstart : Agreeing iss a client server := by
    refine ⟨hwf, hserver.wf, fun _ _ => hinit, fun _ _ => ⟨fun q hq => ?_, fun seg hseg => ?_⟩⟩
    · rcases hserver.sockets q hq with hclosed | ⟨hlisten, hnone⟩
      · exact answering_over (by rw [hclosed]; rfl)
      · exact (answering_listen hlisten).mpr fun r hr =>
          absurd hr (by rw [hnone]; exact List.not_mem_nil)
    · rw [hserver.sent] at hseg
      cases hseg
  obtain ⟨-, -, hends, hanswers⟩ := agreeing_run hrun hstart
  have hactive := hends hc hs
  obtain rfl : p = a := by
    by_contra hne
    rw [hactive.others p hp hne] at hpe
    cases hpe
  obtain ⟨hnxt, hacks⟩ := (dialing_established hpe).mp (hactive.socket hp)
  obtain ⟨hrcv, seg, hseg, hack, hnumber⟩ :=
    (answering_established hqe).mp ((hanswers hc hs).blocks q hq)
  exact ⟨hnxt.trans hrcv.symm, hnumber.symm.trans (hacks seg hseg hack)⟩

/-- A client with the address 20 that connects to port 80 of the address 10. -/
def dialler : Tcp := ((tcpInit { io := { ownIp := 20 } }).tcpSocketCreate.2.tcpConnect 0 10 80).2

/-- A server with the address 10 that listens on port 80. -/
def answerer : Tcp :=
  (((tcpInit { io := { ownIp := 10, now := 1 } }).tcpSocketCreate.2.tcpBind 0 80).2.tcpListen 0 4).2

/-- The three segments of the handshake. -/
def firstSyn : TcpSegment :=
  { srcIp := 20, dstIp := 10, srcPort := 49152, dstPort := 80, seq := 128000, ack := 0,
    flags := { syn := true }, window := 32768 }

def firstSynAck : TcpSegment :=
  { srcIp := 10, dstIp := 20, srcPort := 80, dstPort := 49152, seq := 122880, ack := 128001,
    flags := { syn := true, ack := true }, window := 32768 }

def firstAck : TcpSegment :=
  { srcIp := 20, dstIp := 10, srcPort := 49152, dstPort := 80, seq := 128001, ack := 122881,
    flags := { ack := true }, window := 32768 }

lemma activeOpen_dialler : ActiveOpen dialler :=
  ⟨(tcpInit { io := { ownIp := 20 } }).tcpSocketCreate.2, 0, 10, 80,
    ⟨by decide, by decide⟩, by decide, by decide,
    by decide, rfl⟩

lemma passiveOpen_answerer : PassiveOpen answerer where
  wf := ⟨by decide, by decide⟩
  sockets q hq := by
    obtain rfl : q = 0 := List.mem_singleton.mp hq
    exact .inr ⟨rfl, rfl⟩
  sent := by decide

/-- A SYN that arrives twice is queued twice.  One request is accepted, and the two sockets agree. -/
theorem agreement_of_two_syns : ∃ client server, Steps (ChannelStep clientParty serverParty)
    (dialler, answerer) [.inr (.receive firstSyn), .inr (.receive firstSyn), .inr (.accept 0),
      .inl (.receive firstSynAck), .inr (.receive firstAck)] (client, server) ∧
    (client.blocks 0).sndNxt = (server.blocks 1).rcvNxt ∧ (server.blocks 1).sndNxt = (client.blocks 0).rcvNxt := by
  obtain ⟨client, server, hrun, hc, hs, hp, hq, hpe, hqe⟩ : ∃ client server,
      Steps (ChannelStep clientParty serverParty) (dialler, answerer) [.inr (.receive firstSyn),
        .inr (.receive firstSyn), .inr (.accept 0), .inl (.receive firstSynAck),
        .inr (.receive firstAck)] (client, server) ∧ client.Silent ∧ server.Silent ∧
      0 ∈ client.list ∧ 1 ∈ server.list ∧ (client.blocks 0).state = .established ∧
      (server.blocks 1).state = .established := by
    refine ⟨_, _, .cons (.right ⟨⟨rfl, fun p hp => ?_⟩, rfl⟩ fun m hm => ?_)
      (.cons (.right ⟨⟨rfl, fun p hp => ?_⟩, rfl⟩ fun m hm => ?_)
      (.cons (.right ⟨⟨rfl, fun p hp => ?_⟩, rfl⟩ fun m hm => ?_)
      (.cons (.left ⟨⟨rfl, fun p hp => ?_⟩, rfl, rfl⟩ fun m hm => ?_)
      (.cons (.right ⟨⟨rfl, fun p hp => ?_⟩, rfl⟩ fun m hm => ?_) (.nil _))))), ?_, ?_, ?_⟩
    · cases hp
    · obtain rfl : firstSyn = m := Option.some.inj hm
      decide
    · cases hp
    · obtain rfl : firstSyn = m := Option.some.inj hm
      decide
    · obtain rfl : 0 = p := Option.some.inj hp
      decide
    · cases hm
    · cases hp
    · obtain rfl : firstSynAck = m := Option.some.inj hm
      decide
    · cases hp
    · obtain rfl : firstAck = m := Option.some.inj hm
      decide
    · unfold Silent
      decide
    · unfold Silent
      decide
    · decide
  exact ⟨client, server, hrun, agreement_of_steps activeOpen_dialler passiveOpen_answerer hrun hc hs
    hp hq hpe hqe⟩

end Tcp

end AAAos
