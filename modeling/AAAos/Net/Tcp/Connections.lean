import AAAos.Lib.Claims
import AAAos.Net.Tcp.Tcp

/-!
# One socket a connection

A connection is named by its two addresses and its two ports, and `tcp_find_socket` looks for a socket
with all four.  No two open sockets should have the same name.  A listener keeps the requests it has not
yet accepted in a list of its own, which `tcp_find_socket` does not see.

**What goes wrong.**  A SYN that arrives twice before the first is accepted is queued twice, and two
calls of `tcp_accept` make two sockets of it.  `tcp_connect` does not look whether the connection exists
when the socket is bound.

**What is proved.**  An open socket claims its connection, and a listener one for each request.  As long
as a SYN is only queued for a connection that nobody claims, and a bound socket only connected to such a
one (`Unclaimed`), the claims stay apart, and no two open sockets have the same connection
(`distinct_of_steps`).  The count of a listener is right and within the backlog in every run
(`counted_of_steps`).
-/

namespace AAAos

/-- What names a connection. -/
structure Connection where
  localIp : UInt32
  localPort : UInt16
  remoteIp : UInt32
  remotePort : UInt16
deriving DecidableEq

/-- A state other than CLOSED and LISTEN. -/
def TcpState.open : TcpState → Bool
  | .closed | .listen => false
  | _ => true

namespace TcpSocket

variable {s s' s'' : TcpSocket}

def connection (s : TcpSocket) : Connection := ⟨s.localIp, s.localPort, s.remoteIp, s.remotePort⟩

/-- The connection that a listener would make of a request. -/
def requested (s : TcpSocket) (remoteIp : UInt32) (remotePort : UInt16) : Connection :=
  ⟨s.localIp, s.localPort, remoteIp, remotePort⟩

/-- The connections that a socket claims. -/
def claims (s : TcpSocket) : List Connection :=
  match s.state with
  | .closed => []
  | .listen => s.pending.map fun r => s.requested r.remoteIp r.remotePort
  | _ => [s.connection]

/-- A socket past CLOSED is bound, and a listener counts its requests. -/
structure Regular (s : TcpSocket) : Prop where
  bound : s.state ≠ .closed → s.bound = true
  counted : s.state = .listen → s.pendingCount = s.pending.length ∧ s.pendingCount ≤ s.backlog

/-! ## Calls that claim nothing -/

/-- The fields that the claims are read from, but for the state. -/
def identity (s : TcpSocket) : Connection × Bool × List TcpPendingConn × Int × Int :=
  (s.connection, s.bound, s.pending, s.pendingCount, s.backlog)

/-- The socket stays as it is, closes, or goes from one open state to another. -/
structure Keeps (s s' : TcpSocket) : Prop where
  identity : s'.identity = s.identity
  state : s'.state = s.state ∨ s'.state = .closed ∨ s.state.open = true ∧ s'.state.open = true

lemma Keeps.refl (s : TcpSocket) : Keeps s s := ⟨rfl, .inl rfl⟩

lemma Keeps.trans (h : Keeps s s') (h' : Keeps s' s'') : Keeps s s'' := by
  refine ⟨h'.identity.trans h.identity, ?_⟩
  rcases h'.state with hsame | hclosed | ⟨hfrom, hto⟩
  · rw [hsame]
    exact h.state
  · exact .inr (.inl hclosed)
  · rcases h.state with hsame | hclosed | ⟨hopen, -⟩
    · exact .inr (.inr ⟨hsame ▸ hfrom, hto⟩)
    · rw [hclosed] at hfrom
      cases hfrom
    · exact .inr (.inr ⟨hopen, hto⟩)

lemma open_cases (s : TcpState) : s = .closed ∨ s = .listen ∨ s.open = true := by
  cases s
  all_goals simp [TcpState.open]

lemma claims_open (h : s.state.open = true) : s.claims = [s.connection] := by
  unfold claims
  cases hstate : s.state
  all_goals first
    | rfl
    | rw [hstate] at h; cases h

lemma claims_closed (h : s.state = .closed) : s.claims = [] := by
  unfold claims
  rw [h]

lemma claims_listen (h : s.state = .listen) :
    s.claims = s.pending.map fun r => s.requested r.remoteIp r.remotePort := by
  unfold claims
  rw [h]

lemma Keeps.claims (h : Keeps s s') : s'.claims.Sublist s.claims := by
  obtain ⟨hidentity, hstate⟩ := h
  simp only [TcpSocket.identity, Prod.mk.injEq] at hidentity
  obtain ⟨hconnection, -, hpending, -⟩ := hidentity
  have hconn := hconnection
  unfold connection at hconn
  rw [Connection.mk.injEq] at hconn
  obtain ⟨hip, hport, -⟩ := hconn
  rcases hstate with hsame | hclosed | ⟨hfrom, hto⟩
  · have heq : s'.claims = s.claims := by
      unfold TcpSocket.claims requested
      rw [hsame, hconnection, hpending, hip, hport]
    rw [heq]
  · rw [claims_closed hclosed]
    exact List.nil_sublist _
  · rw [claims_open hfrom, claims_open hto, hconnection]

lemma Keeps.regular (h : Keeps s s') (hs : s.Regular) : s'.Regular := by
  obtain ⟨hidentity, hstate⟩ := h
  simp only [TcpSocket.identity, Prod.mk.injEq] at hidentity
  obtain ⟨-, hbound, hpending, hcount, hbacklog⟩ := hidentity
  rcases hstate with hsame | hclosed | ⟨hfrom, hto⟩
  · constructor
    · rw [hsame, hbound]
      exact hs.bound
    · rw [hsame, hcount, hpending, hbacklog]
      exact hs.counted
  · exact ⟨fun h => absurd hclosed h, fun h => by rw [hclosed] at h; cases h⟩
  · have hpast : s.state ≠ .closed := by
      intro hc
      rw [hc] at hfrom
      cases hfrom
    refine ⟨fun _ => hbound.trans (hs.bound hpast), fun hlisten => ?_⟩
    rw [hlisten] at hto
    cases hto

lemma Keeps.opened (h : Keeps s s') (hopen : s.state.open = true) (hbound : s.bound = true) :
    s'.Regular ∧ s'.claims.Sublist [s.connection] := by
  refine ⟨h.regular ⟨fun _ => hbound, fun hlisten => ?_⟩, ?_⟩
  · rw [hlisten] at hopen
    cases hopen
  · rw [← claims_open hopen]
    exact h.claims

end TcpSocket

namespace TcpConn

open TcpSocket

variable {c : TcpConn} {seg : TcpSegment}

lemma keeps_setState (c : TcpConn) {state : TcpState}
    (h : state = .closed ∨ c.sock.state.open = true ∧ state.open = true) :
    Keeps c.sock (c.tcpSetState state).sock := by
  rw [tcpSetState_eq]
  exact ⟨rfl, .inr h⟩

lemma keeps_segment (c : TcpConn) (flags : TcpFlags) (data : List UInt8) :
    Keeps c.sock (c.tcpSendSegment flags data).2.sock := by
  obtain ⟨n, hsock⟩ := tcpSendSegment_sock c flags data
  rw [hsock]
  exact ⟨rfl, .inl rfl⟩

lemma keeps_ack (c : TcpConn) : Keeps c.sock c.sendAck.sock := by
  rw [sendAck_sock]
  exact Keeps.refl _

lemma keeps_enterTimeWait (h : c.sock.state.open = true) : Keeps c.sock c.enterTimeWait.sock := by
  unfold enterTimeWait
  exact (keeps_setState c (.inr ⟨h, rfl⟩)).trans ⟨rfl, .inl rfl⟩

lemma keeps_output (c : TcpConn) : Keeps c.sock c.tcpOutput.sock := by
  unfold tcpOutput
  dsimp only
  split_ifs
  · exact Keeps.refl _
  · exact (keeps_segment { c with io := c.io.kmalloc.2 } _ _).trans ⟨rfl, .inl rfl⟩
  · exact Keeps.refl _
  · exact Keeps.refl _

lemma keeps_send (c : TcpConn) (data : List UInt8) : Keeps c.sock (c.tcpSend data).2.sock := by
  rcases c.tcpSend_cases data with ⟨-, hsame⟩ | ⟨-, -, -, hanswer⟩
  · rw [hsame]
    exact Keeps.refl _
  · rw [hanswer]
    have hwrite : Keeps c.sock (c.modify (·.withData data)).sock := ⟨rfl, .inl rfl⟩
    exact hwrite.trans (keeps_output _)

lemma keeps_recv (c : TcpConn) (maxLen : Nat) : Keeps c.sock (c.tcpRecv maxLen).2.2.sock := by
  unfold tcpRecv
  dsimp only
  split_ifs
  all_goals exact ⟨rfl, .inl rfl⟩

lemma keeps_sendFin {state : TcpState} (h : c.sock.state.open = true) (hstate : state.open = true) :
    Keeps c.sock (c.sendFin state).sock :=
  (keeps_setState c (.inr ⟨h, hstate⟩)).trans (keeps_segment _ _ _)

lemma keeps_close (c : TcpConn) : Keeps c.sock c.tcpClose.sock := by
  unfold tcpClose
  cases hstate : c.sock.state
  case closed => exact Keeps.refl _
  case listen => exact keeps_setState c (.inl rfl)
  case synSent => exact keeps_setState c (.inl rfl)
  case synReceived => exact keeps_sendFin (by rw [hstate]; rfl) rfl
  case established => exact keeps_sendFin (by rw [hstate]; rfl) rfl
  case closeWait => exact keeps_sendFin (by rw [hstate]; rfl) rfl
  all_goals exact Keeps.refl _

lemma keeps_abort (c : TcpConn) : Keeps c.sock c.tcpAbort.sock := by
  unfold tcpAbort
  dsimp only
  split_ifs
  · exact keeps_setState (c.tcpSendRst _ _ _ _ _ _) (.inl rfl)
  · exact keeps_setState c (.inl rfl)

lemma keeps_retransmit (c : TcpConn) : Keeps c.sock c.retransmit.sock := by
  have hcount : Keeps c.sock
      (c.modify fun s => { s with retries := s.retries + 1, sndNxt := s.iss }).sock :=
    ⟨rfl, .inl rfl⟩
  exact hcount.trans (keeps_segment _ _ _)

lemma keeps_tick (c : TcpConn) : Keeps c.sock c.tickSocket.sock := by
  unfold tickSocket
  split
  · split_ifs
    · exact keeps_setState c (.inl rfl)
    · exact Keeps.refl _
  · split_ifs
    · exact keeps_abort c
    · exact keeps_retransmit c
    · exact Keeps.refl _
  · split_ifs
    · exact keeps_abort c
    · exact keeps_retransmit c
    · exact Keeps.refl _
  · exact Keeps.refl _

/-- A SYN that the listener has room for. -/
def Queues (s : TcpSocket) (seg : TcpSegment) : Prop :=
  s.state = .listen ∧ seg.flags.rst = false ∧ seg.flags.syn = true ∧ s.pendingCount < s.backlog

lemma keeps_receiveEstablished (h : c.sock.state = .established) : Keeps c.sock (c.receiveEstablished seg).sock := by
  have hack : Keeps c.sock (c.processAck seg).sock := by
    unfold processAck
    split_ifs
    · exact ⟨rfl, .inl rfl⟩
    · exact Keeps.refl _
  have hdata : ∀ d : TcpConn, Keeps d.sock (d.processData seg).sock ∧
      (d.processData seg).sock.state = d.sock.state := by
    intro d
    unfold processData
    split_ifs
    · exact ⟨Keeps.refl _, rfl⟩
    · rw [sendAck_sock]
      exact ⟨⟨rfl, .inl rfl⟩, rfl⟩
    · rw [sendAck_sock]
      exact ⟨Keeps.refl _, rfl⟩
  have hstate : (c.processAck seg).sock.state = .established := by
    unfold processAck
    split_ifs
    · exact h
    · exact h
  have hfin : ∀ d : TcpConn, d.sock.state = .established → Keeps d.sock (d.processFin seg).sock := by
    intro d hd
    unfold processFin
    split_ifs
    · have hcount : Keeps d.sock d.countFin.sock := ⟨rfl, .inl rfl⟩
      have hopen : d.countFin.sock.state.open = true := congrArg TcpState.open hd
      exact (hcount.trans (keeps_setState _ (.inr ⟨hopen, rfl⟩))).trans (keeps_ack _)
    · exact Keeps.refl _
  exact (hack.trans (hdata _).1).trans (hfin _ ((hdata _).2.trans hstate))

lemma keeps_receiveFinWait1 (h : c.sock.state = .finWait1) : Keeps c.sock (c.receiveFinWait1 seg).sock := by
  obtain ⟨acked, hacked, hkeeps, hopen⟩ : ∃ acked, (if seg.flags.ack = true ∧
      seg.ack = c.sock.sndNxt then c.tcpSetState .finWait2 else c) = acked ∧
      Keeps c.sock acked.sock ∧ acked.sock.state.open = true := by
    refine ⟨_, rfl, ?_⟩
    split_ifs
    · refine ⟨keeps_setState c (.inr ⟨by rw [h]; rfl, rfl⟩), ?_⟩
      rw [tcpSetState_eq]
      rfl
    · exact ⟨Keeps.refl _, by rw [h]; rfl⟩
  unfold receiveFinWait1
  rw [hacked]
  dsimp only
  have hcount : Keeps acked.sock acked.countFin.sendAck.sock := by
    rw [sendAck_sock]
    exact ⟨rfl, .inl rfl⟩
  have hstill : acked.countFin.sendAck.sock.state.open = true := by
    rw [sendAck_sock]
    exact hopen
  split_ifs
  · exact (hkeeps.trans hcount).trans (keeps_enterTimeWait hstill)
  · exact (hkeeps.trans hcount).trans (keeps_setState _ (.inr ⟨hstill, rfl⟩))
  · exact hkeeps

lemma keeps_receiveSynSent (h : c.sock.state = .synSent) : Keeps c.sock (c.receiveSynSent seg).sock := by
  have hopen : c.sock.state.open = true := by
    rw [h]
    rfl
  unfold receiveSynSent
  split_ifs
  · exact Keeps.refl _
  · rw [sendAck_sock, tcpSetState_eq]
    exact ⟨rfl, .inr (.inr ⟨hopen, rfl⟩)⟩
  · refine Keeps.trans ?_ (keeps_segment _ _ _)
    rw [tcpSetState_eq]
    exact ⟨rfl, .inr (.inr ⟨hopen, rfl⟩)⟩
  · exact Keeps.refl _

/-- **A segment** that queues no request claims nothing. -/
lemma keeps_receive (h : ¬ Queues c.sock seg) : Keeps c.sock (c.tcpReceive seg).sock := by
  unfold tcpReceive
  by_cases hreset : seg.flags.rst = true
  · rw [if_pos hreset]
    split_ifs
    · exact keeps_setState c (.inl rfl)
    · exact Keeps.refl _
  rw [if_neg hreset]
  cases hstate : c.sock.state
  case closed => exact Keeps.refl _
  case listen =>
    simp only [receiveListen]
    by_cases hsyn : seg.flags.syn = true
    · rw [if_pos hsyn]
      by_cases hfull : c.sock.backlog ≤ c.sock.pendingCount
      · rw [if_pos hfull]
        exact Keeps.refl _
      · exact absurd ⟨hstate, Bool.not_eq_true _ ▸ hreset, hsyn, lt_of_not_ge hfull⟩ h
    · rw [if_neg hsyn]
      exact Keeps.refl _
  case synSent => exact keeps_receiveSynSent hstate
  case synReceived =>
    simp only [receiveSynReceived]
    split_ifs
    · rw [tcpSetState_eq]
      exact ⟨rfl, .inr (.inr ⟨by rw [hstate]; rfl, rfl⟩)⟩
    · exact Keeps.refl _
  case established => exact keeps_receiveEstablished hstate
  case finWait1 => exact keeps_receiveFinWait1 hstate
  case finWait2 =>
    simp only [receiveFinWait2]
    split_ifs
    · have hcount : Keeps c.sock c.countFin.sock := ⟨rfl, .inl rfl⟩
      have hopen : c.countFin.sock.state.open = true := congrArg TcpState.open hstate
      exact (hcount.trans (keeps_enterTimeWait hopen)).trans (keeps_ack _)
    · exact Keeps.refl _
  case closeWait =>
    simp only [receiveCloseWait]
    split_ifs
    · exact ⟨rfl, .inl rfl⟩
    · exact Keeps.refl _
  case closing =>
    simp only [receiveClosing]
    split_ifs
    · exact keeps_enterTimeWait (by rw [hstate]; rfl)
    · exact Keeps.refl _
  case lastAck =>
    simp only [receiveLastAck]
    split_ifs
    · exact keeps_setState c (.inl rfl)
    · exact Keeps.refl _
  case timeWait =>
    simp only
    split_ifs
    · exact keeps_ack c
    · exact Keeps.refl _

/-! ## Calls that claim a connection -/

/-- **A request** is claimed, if there is memory for it. -/
lemma receive_queues (h : Queues c.sock seg) (hs : c.sock.Regular) :
    (c.tcpReceive seg).sock.Regular ∧ (c.tcpReceive seg).sock.claims.Sublist
      (c.sock.requested seg.srcIp seg.srcPort :: c.sock.claims) := by
  obtain ⟨hlisten, hreset, hsyn, hroom⟩ := h
  obtain ⟨hcount, -⟩ := hs.counted hlisten
  unfold tcpReceive
  rw [if_neg (by rw [hreset]; decide), hlisten]
  simp only [receiveListen]
  rw [if_pos hsyn, if_neg (not_le_of_gt hroom)]
  split_ifs
  · refine ⟨⟨fun _ => hs.bound (by rw [hlisten]; decide), fun _ => ?_⟩, ?_⟩
    · change c.sock.pendingCount + 1 = ((c.sock.pending.length + 1 : Nat) : Int) ∧
        c.sock.pendingCount + 1 ≤ c.sock.backlog
      rw [hcount] at hroom ⊢
      constructor
      · exact (Int.natCast_succ _).symm
      · exact hroom
    · rw [claims_listen hlisten, claims_listen (by exact hlisten)]
      exact List.Sublist.refl _
  · exact ⟨hs, List.sublist_cons_self _ _⟩

/-- **`tcp_connect`** on a bound socket claims the connection. -/
lemma startConnect_claims (hbound : c.sock.bound = true) (iss remoteIp : UInt32)
    (remotePort : UInt16) : (c.startConnect iss remoteIp remotePort).2.sock.Regular ∧
      (c.startConnect iss remoteIp remotePort).2.sock.claims.Sublist
        [c.sock.requested remoteIp remotePort] := by
  obtain ⟨opened, hopened, hstate, hstill, hconnection⟩ : ∃ opened, (c.modify fun s =>
      { s with
        remoteIp := remoteIp
        remotePort := remotePort
        iss := iss
        sndUna := iss
        sndNxt := iss }).tcpSetState .synSent = opened ∧ opened.sock.state = .synSent ∧
      opened.sock.bound = true ∧
      opened.sock.connection = c.sock.requested remoteIp remotePort := by
    refine ⟨_, rfl, ?_⟩
    rw [tcpSetState_eq]
    exact ⟨rfl, hbound, rfl⟩
  have hkeeps : Keeps opened.sock (c.startConnect iss remoteIp remotePort).2.sock := by
    unfold startConnect
    rw [hopened]
    dsimp only
    split_ifs
    · exact (keeps_segment _ _ _).trans (keeps_setState _ (.inl rfl))
    · exact keeps_segment _ _ _
  rw [← hconnection]
  exact hkeeps.opened (by rw [hstate]; rfl) hstill

/-- **`tcp_accept`**: the new socket claims the connection of the request. -/
lemma startAccept_claims (c : TcpConn) (listener : TcpSocket) (pending : TcpPendingConn)
    (iss : UInt32) : (c.startAccept listener pending iss).sock.Regular ∧
      (c.startAccept listener pending iss).sock.claims.Sublist
        [listener.requested pending.remoteIp pending.remotePort] := by
  obtain ⟨opened, hopened, hstate, hbound, hconnection⟩ : ∃ opened, (c.modify fun s =>
      { s with
        localIp := listener.localIp
        localPort := listener.localPort
        remoteIp := pending.remoteIp
        remotePort := pending.remotePort
        iss := iss
        sndUna := iss
        sndNxt := iss
        irs := pending.seqNum
        rcvNxt := pending.seqNum + 1
        bound := true }).tcpSetState .synReceived = opened ∧ opened.sock.state = .synReceived ∧
      opened.sock.bound = true ∧
      opened.sock.connection = listener.requested pending.remoteIp pending.remotePort := by
    refine ⟨_, rfl, ?_⟩
    rw [tcpSetState_eq]
    exact ⟨rfl, rfl, rfl⟩
  have hkeeps : Keeps opened.sock (c.startAccept listener pending iss).sock := by
    unfold startAccept
    rw [hopened]
    exact keeps_segment _ _ _
  rw [← hconnection]
  exact hkeeps.opened (by rw [hstate]; rfl) hbound

lemma dropPending_claims {pending : TcpPendingConn} {rest : List TcpPendingConn}
    (hlisten : c.sock.state = .listen) (hpending : c.sock.pending = pending :: rest)
    (hs : c.sock.Regular) : c.dropPending.sock.Regular ∧
      c.sock.claims = c.sock.requested pending.remoteIp pending.remotePort :: c.dropPending.sock.claims := by
  obtain ⟨hcount, hroom⟩ := hs.counted hlisten
  refine ⟨⟨hs.bound, fun _ => ?_⟩, ?_⟩
  · change c.sock.pendingCount - 1 = (c.sock.pending.tail.length : Int) ∧ c.sock.pendingCount - 1 ≤ c.sock.backlog
    rw [hcount] at hroom ⊢
    rw [hpending] at hroom ⊢
    rw [List.length_cons] at hroom ⊢
    rw [List.tail_cons]
    omega
  · rw [claims_listen hlisten, claims_listen (by exact hlisten)]
    change _ = _ :: List.map _ c.sock.pending.tail
    rw [hpending]
    rfl

/-- `tcp_listen` starts without requests. -/
lemma tcpListen_claims (backlog : Int) (hs : c.sock.Regular) : (c.tcpListen backlog).2.sock.Regular ∧
      (c.tcpListen backlog).2.sock.claims.Sublist c.sock.claims := by
  unfold tcpListen
  split_ifs with hbound hclosed
  · exact ⟨hs, List.Sublist.refl _⟩
  · exact ⟨hs, List.Sublist.refl _⟩
  · rw [tcpSetState_eq]
    refine ⟨⟨fun _ => ?_, fun _ => ⟨rfl, ?_⟩⟩, List.nil_sublist _⟩
    · change c.sock.bound = true
      simpa using hbound
    · change (0 : Int) ≤ min (max backlog 1) tcpListenBacklogMax
      unfold tcpListenBacklogMax
      omega

end TcpConn

/-! ## The machine -/

namespace Tcp

open TcpSocket

variable {t t' : Tcp} {e : TcpEvent} {p : TcpRef}

/-- No two open sockets have the same connection. -/
def Distinct (t : Tcp) : Prop :=
  ∀ p ∈ t.list, ∀ q ∈ t.list, (t.blocks p).state.open = true → (t.blocks q).state.open = true →
    (t.blocks p).connection = (t.blocks q).connection → p = q

/-- The count of every listener is the length of its list, and within its backlog. -/
def Counted (t : Tcp) : Prop :=
  ∀ p ∈ t.list, (t.blocks p).state = .listen → (t.blocks p).pendingCount = (t.blocks p).pending.length ∧
      (t.blocks p).pendingCount ≤ (t.blocks p).backlog

/-- The claims of a socket of the list. -/
def claims (t : Tcp) (p : TcpRef) : List Connection :=
  if p ∈ t.list then (t.blocks p).claims else []

/-- No socket has the connection, and no listener a request for it. -/
def Free (t : Tcp) (k : Connection) : Prop := ∀ p ∈ t.list, k ∉ (t.blocks p).claims

instance (t : Tcp) (k : Connection) : Decidable (t.Free k) :=
  inferInstanceAs (Decidable (∀ p ∈ t.list, k ∉ (t.blocks p).claims))

/-- What is queued, and what a bound socket is connected to, is free. -/
def Unclaimed (t : Tcp) : TcpEvent → Prop
  | .receive seg => ∀ p, t.reaches seg = some p → TcpConn.Queues (t.blocks p) seg →
      t.Free ((t.blocks p).requested seg.srcIp seg.srcPort)
  | .connect p remoteIp remotePort => (t.blocks p).state = .closed → (t.blocks p).bound = true →
      t.Free ((t.blocks p).requested remoteIp remotePort)
  | _ => True

def UnclaimedStep (t : Tcp) (e : TcpEvent) (t' : Tcp) : Prop := Step t e t' ∧ t.Unclaimed e

/-- The invariant of every run. -/
structure Sound (t : Tcp) : Prop where
  wf : t.Wf
  regular : ∀ p ∈ t.list, (t.blocks p).Regular

lemma Sound.counted (h : t.Sound) : t.Counted := fun p hp => (h.regular p hp).counted

lemma regular_new (now : UInt32) : ({ lastActivity := now } : TcpSocket).Regular :=
  ⟨fun h => absurd rfl h, fun h => by cases h⟩

lemma claims_of_mem (hp : p ∈ t.list) : t.claims p = (t.blocks p).claims := if_pos hp

lemma Free.not_mem {k : Connection} (h : t.Free k) (q : TcpRef) : k ∉ t.claims q := by
  unfold claims
  split_ifs with hq
  · exact h q hq
  · exact List.not_mem_nil

/-- An unbound socket is connected from a port that no open socket and no listener has. -/
lemma PortFree.unclaimed {port : UInt16} (h : t.PortFree p port) (hclosed : (t.blocks p).state = .closed)
    (hregular : ∀ q ∈ t.list, (t.blocks q).Regular) (localIp remoteIp : UInt32)
    (remotePort : UInt16) : t.Free ⟨localIp, port, remoteIp, remotePort⟩ := by
  intro q hq hmem
  have hne : q ≠ p := by
    rintro rfl
    rw [claims_closed hclosed] at hmem
    cases hmem
  have hport : (t.blocks q).localPort = port := by
    rcases open_cases (t.blocks q).state with hc | hc | hc
    · rw [claims_closed hc] at hmem
      cases hmem
    · rw [claims_listen hc, List.mem_map] at hmem
      obtain ⟨r, -, hr⟩ := hmem
      exact congrArg Connection.localPort hr
    · rw [claims_open hc, List.mem_singleton] at hmem
      exact congrArg Connection.localPort hmem.symm
  obtain ⟨-, hunbound⟩ := h.free q hq hne hport
  have hpast : (t.blocks q).state ≠ .closed := by
    intro hc
    rw [claims_closed hc] at hmem
    cases hmem
  rw [(hregular q hq).bound hpast] at hunbound
  cases hunbound

/-- The socket that may claim one more connection. -/
def claimant (t : Tcp) : TcpEvent → Option TcpRef
  | .receive seg => t.reaches seg
  | .connect p _ _ => some p
  | .accept _ => some t.fresh
  | _ => none

/-- **What a call claims**: nothing new, or one connection, which is free unless it is a request that is
accepted. -/
lemma Sound.call (h : t.Sound) (hguard : ∀ p, e.socket = some p → p ∈ t.list) {s : TcpSocket}
    {call : SockCall} (hperforms : Performs t e p s call) (io : TcpIo) :
    (TcpConn.call { sock := s, io := io } call).sock.Regular ∧
      ((TcpConn.call { sock := s, io := io } call).sock.claims.Sublist s.claims ∨
        t.claimant e = some p ∧ ∃ k, (t.Unclaimed e → (∀ q, e ≠ .accept q) → t.Free k) ∧
          (TcpConn.call { sock := s, io := io } call).sock.claims.Sublist (k :: s.claims)) := by
  have hs : s.Regular := by
    rcases sock_of_performs hperforms hguard with ⟨hp, rfl⟩ | ⟨rfl, now, rfl⟩
    · exact h.regular p hp
    · exact regular_new now
  have hkeeps : Keeps s (TcpConn.call { sock := s, io := io } call).sock →
      (TcpConn.call { sock := s, io := io } call).sock.Regular ∧
        ((TcpConn.call { sock := s, io := io } call).sock.claims.Sublist s.claims ∨
        t.claimant e = some p ∧ ∃ k, (t.Unclaimed e → (∀ q, e ≠ .accept q) → t.Free k) ∧
          (TcpConn.call { sock := s, io := io } call).sock.claims.Sublist (k :: s.claims)) :=
    fun hk => ⟨hk.regular hs, .inl hk.claims⟩
  cases hperforms with
  | bind hfree =>
    have hclosed : (t.blocks p).state = .closed := by
      by_contra hpast
      have hbound := hs.bound hpast
      rw [hfree.unbound] at hbound
      cases hbound
    refine ⟨⟨fun _ => rfl, hs.counted⟩, .inl ?_⟩
    refine List.Sublist.trans ?_ (List.nil_sublist _)
    exact List.sublist_nil.mpr (claims_closed hclosed)
  | listen p backlog =>
    obtain ⟨hregular, hclaims⟩ := TcpConn.tcpListen_claims (c := { sock := t.blocks p, io := io })
      backlog hs
    exact ⟨hregular, .inl hclaims⟩
  | accepted hlisten hpending iss now =>
    obtain ⟨hregular, hclaims⟩ := TcpConn.startAccept_claims
      { sock := { lastActivity := now }, io := io } _ _ iss
    exact ⟨hregular, .inr ⟨rfl, _, fun _ hnot => absurd rfl (hnot _), hclaims⟩⟩
  | accept hlisten hpending =>
    obtain ⟨hregular, hclaims⟩ := TcpConn.dropPending_claims (c := { sock := t.blocks p, io := io })
      hlisten hpending hs
    have hless := hclaims ▸ List.sublist_cons_self _ _
    exact ⟨hregular, .inl hless⟩
  | connect hclosed hbound iss remoteIp remotePort =>
    obtain ⟨hregular, hclaims⟩ := TcpConn.startConnect_claims
      (c := { sock := t.blocks p, io := io }) hbound iss remoteIp remotePort
    refine ⟨hregular, .inr ⟨rfl, _, fun hcond _ => hcond hclosed hbound, ?_⟩⟩
    rw [claims_closed hclosed]
    exact hclaims
  | bindConnect hclosed hfree iss remoteIp remotePort =>
    obtain ⟨hregular, hclaims⟩ := TcpConn.startConnect_claims
      (c := TcpConn.bindTo { sock := t.blocks p, io := io } _) rfl iss remoteIp remotePort
    refine ⟨hregular, .inr ⟨rfl, _, fun _ _ =>
      hfree.unclaimed hclosed h.regular io.ownIp remoteIp remotePort, ?_⟩⟩
    rw [claims_closed hclosed]
    exact hclaims
  | send p data => exact hkeeps (TcpConn.keeps_send { sock := t.blocks p, io := io } data)
  | recv p maxLen => exact hkeeps (TcpConn.keeps_recv { sock := t.blocks p, io := io } maxLen)
  | close p => exact hkeeps (TcpConn.keeps_close { sock := t.blocks p, io := io })
  | abort p => exact hkeeps (TcpConn.keeps_abort { sock := t.blocks p, io := io })
  | output p => exact hkeeps (TcpConn.keeps_output { sock := t.blocks p, io := io })
  | setNonblock p nonblock => exact hkeeps ⟨rfl, .inl rfl⟩
  | receive hfound =>
    rename_i seg
    by_cases hqueues : TcpConn.Queues (t.blocks p) seg
    · obtain ⟨hregular, hclaims⟩ := TcpConn.receive_queues
        (c := { sock := t.blocks p, io := io }) hqueues hs
      exact ⟨hregular, .inr ⟨hfound, _, fun hcond _ => hcond p hfound hqueues, hclaims⟩⟩
    · exact hkeeps (TcpConn.keeps_receive (c := { sock := t.blocks p, io := io }) hqueues)
  | tick hp =>
    exact hkeeps (TcpConn.keeps_tick { sock := t.blocks p, io := io })

/-- **One event**, with any segment. -/
lemma Sound.step (h : t.Sound) (hstep : Step t e t') : t'.Sound := by
  obtain ⟨rfl, hguard⟩ := hstep
  have hholds : (t.apply e).Holds (fun _ s => s.Regular) fun _ => True :=
    apply_keeps ⟨h.regular, fun _ _ => trivial⟩ h.wf hguard regular_new (fun _ _ _ => trivial)
      fun p s call hperforms _ io _ => ⟨(h.call hguard hperforms io).1, fun _ _ => trivial⟩
  exact ⟨h.wf.apply hguard, hholds.blocks⟩

lemma claims_sublist (t : Tcp) (p : TcpRef) : (t.claims p).Sublist (t.blocks p).claims := by
  unfold claims
  split_ifs
  · exact List.Sublist.refl _
  · exact List.nil_sublist _

/-- `tcp_accept` passes the first request on to the new socket. -/
lemma exclusive_accept (h : t.Sound) (hex : Exclusive t.claims) (hp : p ∈ t.list) :
    Exclusive (t.tcpAccept p).2.claims := by
  rcases t.tcpAccept_cases p with
    ⟨io, -, heq⟩ | ⟨pending, rest, io, isn, iss, hlisten, hpending, -, heq⟩
  · rw [heq]
    exact hex
  have hlt : p < t.fresh := h.wf.lt p hp
  have hold : (t.withNew io).blocks p = t.blocks p := Function.update_of_ne hlt.ne _ _
  rw [heq, hold]
  obtain ⟨started, hstarted⟩ : ∃ u, ({ t.withNew io with isnCounter := isn } : Tcp).onSocket t.fresh
      (·.startAccept (t.blocks p) pending iss) = u := ⟨_, rfl⟩
  have hlistener : started.blocks p = t.blocks p := by
    rw [← hstarted, onSocket_of_ne hlt.ne]
    exact hold
  have hsub : (started.onSocket p .dropPending).list.Sublist (t.fresh :: t.list) := by
    refine (onSocket_sublist _ _ _).trans ?_
    rw [← hstarted]
    exact onSocket_sublist _ _ _
  obtain ⟨-, hclaims⟩ := TcpConn.dropPending_claims (c := { sock := t.blocks p, io := started.io })
    hlisten hpending (h.regular p hp)
  rw [hstarted]
  refine hex.move (a := p) (b := t.fresh) ((claims_of_mem hp).trans hclaims) ?_ ?_ ?_
  · refine (claims_sublist _ _).trans ?_
    rw [onSocket_self, hlistener]
  · refine (claims_sublist _ _).trans ?_
    rw [onSocket_of_ne hlt.ne', ← hstarted, onSocket_self]
    exact (TcpConn.startAccept_claims _ _ _ _).2
  · intro q hq hq'
    have hsame : (started.onSocket p .dropPending).blocks q = t.blocks q := by
      rw [onSocket_of_ne hq, ← hstarted, onSocket_of_ne hq']
      exact Function.update_of_ne hq' _ _
    by_cases hmem : q ∈ (started.onSocket p .dropPending).list
    · have hthere : q ∈ t.list := (List.mem_cons.mp (hsub.subset hmem)).resolve_left hq'
      rw [claims_of_mem hmem, claims_of_mem hthere, hsame]
    · rw [claims, if_neg hmem]
      exact List.nil_sublist _

/-- **One event.**  What is claimed is claimed once. -/
lemma exclusive_step (h : t.Sound) (hex : Exclusive t.claims) (hstep : UnclaimedStep t e t') :
    Exclusive t'.claims := by
  obtain ⟨⟨rfl, hguard⟩, hcond⟩ := hstep
  by_cases haccept : ∃ q, e = .accept q
  · obtain ⟨q, rfl⟩ := haccept
    exact exclusive_accept h hex (hguard q rfl)
  have hnot : ∀ q, e ≠ .accept q := fun q he => haccept ⟨q, he⟩
  have hholds : (t.apply e).Holds (fun p s => s.claims.Sublist (t.claims p) ∨
      t.claimant e = some p ∧ ∃ k, (∀ q, k ∉ t.claims q) ∧ s.claims.Sublist (k :: t.claims p)) fun _ => True := by
    refine apply_keeps ⟨fun p hp => .inl ?_, fun _ _ => trivial⟩ h.wf hguard
      (fun now => .inl (List.nil_sublist _)) (fun _ _ _ => trivial)
      fun p s call hperforms _ io _ => ⟨?_, fun _ _ => trivial⟩
    · rw [claims_of_mem hp]
    · have hclaims : s.claims.Sublist (t.claims p) := by
        rcases sock_of_performs hperforms hguard with ⟨hp, rfl⟩ | ⟨rfl, now, rfl⟩
        · rw [claims_of_mem hp]
        · exact List.nil_sublist _
      rcases (h.call hguard hperforms io).2 with hless | ⟨howner, k, hfree, hmore⟩
      · exact .inl (hless.trans hclaims)
      · exact .inr ⟨howner, k, (hfree hcond hnot).not_mem, hmore.trans (hclaims.cons_cons k)⟩
  refine hex.grant (o := t.claimant e) fun p => ?_
  by_cases hp : p ∈ (t.apply e).list
  · rw [claims_of_mem hp]
    exact hholds.blocks p hp
  · rw [claims, if_neg hp]
    exact .inl (List.nil_sublist _)

lemma distinct_of_exclusive (hex : Exclusive t.claims) : t.Distinct := by
  intro p hp q hq hopenp hopenq heq
  refine hex.apart (k := (t.blocks p).connection) ?_ ?_
  · rw [claims_of_mem hp, claims_open hopenp]
    exact List.mem_singleton_self _
  · rw [claims_of_mem hq, claims_open hopenq, heq]
    exact List.mem_singleton_self _

/-- The machine after `tcp_init`, with any outside. -/
def boot (io : TcpIo) : Tcp := tcpInit { io := io }

lemma sound_boot (io : TcpIo) : (boot io).Sound :=
  ⟨⟨List.nodup_nil, fun _ h => absurd h List.not_mem_nil⟩, fun _ h => absurd h List.not_mem_nil⟩

/-- **Listeners count their requests** in every run. -/
theorem counted_of_steps {io : TcpIo} {es : List TcpEvent} (hrun : Steps Step (boot io) es t) : t.Counted :=
  (hrun.invariant (fun _ _ _ h hstep => Sound.step h hstep) (sound_boot io)).counted

/-- **One socket a connection** in every run in which what is claimed anew is free; and listeners count
their requests. -/
theorem distinct_of_steps {io : TcpIo} {es : List TcpEvent}
    (hrun : Steps UnclaimedStep (boot io) es t) : t.Distinct ∧ t.Counted := by
  have hinit : (boot io).Sound ∧ Exclusive (boot io).claims :=
    ⟨sound_boot io, fun _ => List.nodup_nil, fun h => absurd h List.not_mem_nil⟩
  obtain ⟨hsound, hex⟩ := hrun.invariant (I := fun t => t.Sound ∧ Exclusive t.claims)
    (fun _ _ _ h hstep => ⟨h.1.step hstep.1, exclusive_step h.1 h.2 hstep⟩) hinit
  exact ⟨distinct_of_exclusive hex, hsound.counted⟩

/-- The SYN of a client with the address 20, to port 80 of the machine with the address 10. -/
def clientSyn (port : UInt16) : TcpSegment :=
  { srcIp := 20, dstIp := 10, srcPort := port, dstPort := 80, seq := 500, ack := 0,
    flags := { syn := true }, window := 1000 }

/-- A listener accepts two connections of one client. -/
theorem distinct_of_two_accepts : ∃ t, Steps UnclaimedStep (boot { ownIp := 10 })
    [.create, .bind 0 80, .listen 0 4, .receive (clientSyn 5000), .receive (clientSyn 5001),
      .accept 0, .accept 0] t ∧ t.list = [2, 1, 0] ∧ t.Distinct ∧ t.Counted := by
  obtain ⟨t, hrun, hlist⟩ : ∃ t, Steps UnclaimedStep (boot { ownIp := 10 })
      [.create, .bind 0 80, .listen 0 4, .receive (clientSyn 5000), .receive (clientSyn 5001),
        .accept 0, .accept 0] t ∧ t.list = [2, 1, 0] := by
    refine ⟨_, .cons ⟨⟨rfl, fun p hp => ?_⟩, trivial⟩ (.cons ⟨⟨rfl, fun p hp => ?_⟩, trivial⟩
      (.cons ⟨⟨rfl, fun p hp => ?_⟩, trivial⟩ (.cons ⟨⟨rfl, fun p hp => ?_⟩, fun p hp _ => ?_⟩
      (.cons ⟨⟨rfl, fun p hp => ?_⟩, fun p hp _ => ?_⟩ (.cons ⟨⟨rfl, fun p hp => ?_⟩, trivial⟩
      (.cons ⟨⟨rfl, fun p hp => ?_⟩, trivial⟩ (.nil _))))))), ?_⟩
    · cases hp
    · obtain rfl : 0 = p := Option.some.inj hp
      decide
    · obtain rfl : 0 = p := Option.some.inj hp
      decide
    · cases hp
    · obtain rfl : p = 0 := Option.some.inj (hp.symm.trans (by decide))
      decide
    · cases hp
    · obtain rfl : p = 0 := Option.some.inj (hp.symm.trans (by decide))
      decide
    · obtain rfl : 0 = p := Option.some.inj hp
      decide
    · obtain rfl : 0 = p := Option.some.inj hp
      decide
    · decide
  exact ⟨t, hrun, hlist, distinct_of_steps hrun⟩

/-- A listener with one request. -/
theorem counted_of_one_request : ∃ t, Steps Step (boot { ownIp := 10 })
    [.create, .bind 0 80, .listen 0 4, .receive (clientSyn 5000)] t ∧ t.Counted := by
  obtain ⟨t, hrun⟩ : ∃ t, Steps Step (boot { ownIp := 10 })
      [.create, .bind 0 80, .listen 0 4, .receive (clientSyn 5000)] t := by
    refine ⟨_, .cons ⟨rfl, nofun⟩ (.cons ⟨rfl, ?_⟩ (.cons ⟨rfl, ?_⟩ (.cons ⟨rfl, nofun⟩ (.nil _))))⟩
    all_goals
      rintro _ ⟨⟩
      decide
  exact ⟨t, hrun, counted_of_steps hrun⟩

/-- The SYN arrives twice and is accepted twice: there are two sockets for one connection. -/
theorem syn_accepted_twice : ∃ t, Steps Step (boot { ownIp := 10 })
    [.create, .bind 0 80, .listen 0 4, .receive (clientSyn 5000), .receive (clientSyn 5000),
      .accept 0, .accept 0] t ∧ ¬ t.Distinct := by
  refine ⟨_, .cons ⟨rfl, fun p hp => ?_⟩ (.cons ⟨rfl, fun p hp => ?_⟩ (.cons ⟨rfl, fun p hp => ?_⟩
    (.cons ⟨rfl, fun p hp => ?_⟩ (.cons ⟨rfl, fun p hp => ?_⟩ (.cons ⟨rfl, fun p hp => ?_⟩
    (.cons ⟨rfl, fun p hp => ?_⟩ (.nil _))))))), fun h => ?_⟩
  · cases hp
  · obtain rfl : 0 = p := Option.some.inj hp
    decide
  · obtain rfl : 0 = p := Option.some.inj hp
    decide
  · cases hp
  · cases hp
  · obtain rfl : 0 = p := Option.some.inj hp
    decide
  · obtain rfl : 0 = p := Option.some.inj hp
    decide
  · exact absurd (h 1 (by decide) 2 (by decide) (by decide)
      (by decide) (by decide)) (by decide)

end Tcp

end AAAos
