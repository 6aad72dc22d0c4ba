import AAAos.Net.Socket.Outcomes

/-!
# Peeking

`recv` looks into the buffer of the socket layer first, where MSG_PEEK leaves what it reads, and then asks `tcp_recv`,
which knows no peeking.

**What goes wrong.**  A peek takes the bytes of a TCP connection away (`peek_consumes`).  And a peek counts what it sees
as received, so that the statistics count it twice.

**What is proved.**  A peek and a plain call answer as the plain call alone, and leave the same state but for the
statistics, exactly if the peek does not get to bytes in the TCP layer; with the statistics, exactly if it sees no bytes
at all (`peek_then_recv_iff`).  `recvfrom` is `recv` (`recvfrom_eq`).
-/

namespace AAAos

/-! ## `tcp_recv` -/

namespace TcpConn

variable {c : TcpConn} {maxLen : Nat}

lemma tcpRecv_freed (c : TcpConn) (maxLen : Nat) : (c.tcpRecv maxLen).2.2.freed = c.freed := by
  unfold tcpRecv
  dsimp only
  split_ifs <;> rfl

lemma tcpRecv_nothing (h : c.sock.state = .closed ∨ c.sock.recvBuf.used = 0) :
    (c.tcpRecv maxLen).1 ≤ 0 ∧ (c.tcpRecv maxLen).2.1 = [] ∧
      (c.tcpRecv maxLen).2.2.tcpRecv maxLen = c.tcpRecv maxLen := by
  by_cases hclosed : c.sock.state = .closed
  · have hanswer : c.tcpRecv maxLen = (tcpErrNotconn, [], c) := if_pos hclosed
    rw [hanswer]
    exact ⟨show tcpErrNotconn ≤ 0 by decide, rfl, hanswer⟩
  have hused : c.sock.recvBuf.used = 0 := h.resolve_left hclosed
  -- the buffer is read and is as it was
  have hread : ∀ d : TcpConn, d.sock.recvBuf.used = 0 →
      d.sock.recvBuf.ringBufferRead maxLen = ([], d.sock.recvBuf) := by
    intro d hd
    rw [TcpRingBuffer.ringBufferRead, hd, Nat.min_zero]
    dsimp only [ringTake]
    rw [Nat.sub_zero, ← hd]
  have hcall : ∀ d : TcpConn, d.sock.state ≠ .closed → d.sock.recvBuf.used = 0 → d.tcpRecv maxLen =
      if d.sock.state = .closeWait ∨ d.sock.state = .lastAck ∨ d.sock.state = .timeWait ∨ d.sock.state = .closing then
        (0, [], d)
      else if d.sock.nonblock then (tcpErrWouldblock, [], d)
      else (0, [], d.modify fun s => { s with rcvWnd := UInt32.ofNat d.sock.recvBuf.ringBufferSpace }) := by
    intro d hstate hd
    rw [tcpRecv, if_neg hstate, hread d hd]
    rfl
  have hfirst := hcall c hclosed hused
  by_cases hend : c.sock.state = .closeWait ∨ c.sock.state = .lastAck ∨ c.sock.state = .timeWait ∨ c.sock.state = .closing
  · rw [if_pos hend] at hfirst
    rw [hfirst]
    exact ⟨Int.le_refl 0, rfl, hfirst⟩
  by_cases hnonblock : c.sock.nonblock = true
  · rw [if_neg hend, if_pos hnonblock] at hfirst
    rw [hfirst]
    exact ⟨show tcpErrWouldblock ≤ 0 by decide, rfl, hfirst⟩
  rw [if_neg hend, if_neg hnonblock] at hfirst
  refine ⟨by rw [hfirst], by rw [hfirst], ?_⟩
  rw [hfirst]
  have hsecond := hcall (c.modify fun s => { s with rcvWnd := UInt32.ofNat c.sock.recvBuf.ringBufferSpace })
    hclosed hused
  rw [hsecond]
  change (if c.sock.state = .closeWait ∨ c.sock.state = .lastAck ∨ c.sock.state = .timeWait ∨
    c.sock.state = .closing then _ else if c.sock.nonblock then _ else _) = _
  rw [if_neg hend, if_neg hnonblock]
  rfl

lemma tcpRecv_something (hstate : c.sock.state ≠ .closed) (hused : c.sock.recvBuf.used ≠ 0) (hlen : maxLen ≠ 0) :
    (c.tcpRecv maxLen).1 = (c.tcpRecv maxLen).2.1.length ∧
      (c.tcpRecv maxLen).2.1.length = min maxLen c.sock.recvBuf.used ∧
      (c.tcpRecv maxLen).2.2.sock.state = c.sock.state ∧
      (c.tcpRecv maxLen).2.2.sock.recvBuf.used = c.sock.recvBuf.used - min maxLen c.sock.recvBuf.used := by
  have hlength : (c.sock.recvBuf.ringBufferRead maxLen).1.length = min maxLen c.sock.recvBuf.used :=
    length_ringTake _ _ _
  have hsome : (c.sock.recvBuf.ringBufferRead maxLen).1.length ≠ 0 := by omega
  unfold tcpRecv
  rw [if_neg hstate]
  dsimp only
  rw [if_neg hsome]
  exact ⟨rfl, hlength, rfl, rfl⟩

end TcpConn

namespace SocketBuffer

variable {buf : SocketBuffer} {len : Nat}

/-- There are bytes in the buffer. -/
def Filled (buf : SocketBuffer) : Prop := buf.data ≠ none ∧ buf.count ≠ 0

lemma read_of_filled (h : buf.Filled) (hlen : len ≠ 0) (peek : Bool) : (buf.socketBufferRead len peek).1 ≠ [] := by
  obtain ⟨hdata, hcount⟩ := h
  obtain ⟨data, hdata⟩ := Option.ne_none_iff_exists'.mp hdata
  rw [socketBufferRead, hdata]
  refine List.ne_nil_of_length_pos ?_
  rw [length_ringTake]
  omega

lemma read_of_not_filled (h : ¬ buf.Filled) (peek : Bool) : buf.socketBufferRead len peek = ([], buf) := by
  unfold socketBufferRead
  cases hdata : buf.data with
  | none => rfl
  | some data =>
    have hcount : buf.count = 0 := by
      by_contra hcount
      exact h ⟨by rw [hdata]; exact Option.some_ne_none data, hcount⟩
    dsimp only
    rw [hcount, Nat.min_zero, if_pos (by simp)]
    rfl

lemma read_peek (buf : SocketBuffer) (len : Nat) :
    buf.socketBufferRead len true = ((buf.socketBufferRead len false).1, buf) := by
  unfold socketBufferRead
  cases buf.data with
  | none => rfl
  | some data => rfl

end SocketBuffer

/-! ## Statistics -/

/-- The socket without the statistics. -/
def Socket.withoutCounts (sock : Socket) : Socket := { sock with bytesRecv := 0, packetsRecv := 0 }

/-- One more packet, of `n` bytes. -/
def Socket.counted (sock : Socket) (n : Nat) : Socket :=
  { sock with bytesRecv := sock.bytesRecv + UInt64.ofNat n, packetsRecv := sock.packetsRecv + 1 }

namespace SocketLayer

variable {s : SocketLayer} {sockfd : Int} {len i : Nat} {p : TcpRef} {peek : Bool}

/-- The state without the statistics. -/
def withoutCounts (s : SocketLayer) : SocketLayer := { s with table := fun i => (s.table i).withoutCounts }

lemma modify_modify (s : SocketLayer) (i : Nat) (f g : Socket → Socket) :
    (s.modify i f).modify i g = s.modify i fun sock => g (f sock) := by
  simp only [modify, Function.update_self, Function.update_idem]

lemma modify_same (s : SocketLayer) (i : Nat) (f : Socket → Socket) (h : f (s.table i) = s.table i) :
    s.modify i f = s := by
  rw [modify, h, Function.update_eq_self]

lemma withoutCounts_modify {f g : Socket → Socket}
    (h : (f (s.table i)).withoutCounts = (g (s.table i)).withoutCounts) :
    (s.modify i f).withoutCounts = (s.modify i g).withoutCounts := by
  unfold withoutCounts modify
  congr 1
  funext j
  by_cases hj : j = i
  · subst hj
    simp only [Function.update_self, h]
  · simp only [Function.update_of_ne hj]

lemma countReceived_pos {n : Nat} (h : n ≠ 0) (s : SocketLayer) (i : Nat) :
    s.countReceived i n = s.modify i fun sock => sock.counted n :=
  if_pos (by omega)

lemma countReceived_nonpos {received : Int} (h : received ≤ 0) (s : SocketLayer) (i : Nat) :
    s.countReceived i received = s :=
  if_neg (by omega)

/-! ## What `recv` does -/

/-- The part of `recv` that asks the TCP layer. -/
def recvTcp (s : SocketLayer) (i : Nat) (p : TcpRef) (len : Nat) : Int × List UInt8 × SocketLayer :=
  let ((received, bytes), tcp) := s.tcp.callSocket p fun c =>
    let (received, bytes, c) := c.tcpRecv len
    ((received, bytes), c)
  let s := { s with tcp := tcp }
  if received < 0 then
    if received = tcpErrWouldblock then (-1, [], (s.fail .again).2)
    else if received = tcpErrClosed then (0, [], s)
    else (-1, [], (s.fail .connreset).2)
  else (received, bytes, s.countReceived i received)

/-- The descriptor is one of a connection. -/
structure Stream (s : SocketLayer) (sockfd : Int) (i : Nat) (p : TcpRef) : Prop where
  get : s.socketGet sockfd = some i
  type : (s.table i).type = sockStream
  state : (s.table i).state = .connected
  proto : (s.table i).protoData = some p

/-- The descriptor is one of a datagram socket. -/
structure Dgram (s : SocketLayer) (sockfd : Int) (i : Nat) : Prop where
  get : s.socketGet sockfd = some i
  type : (s.table i).type = sockDgram

/-- Bytes that the buffer of the socket layer gives. -/
def taken (s : SocketLayer) (i : Nat) (len : Nat) : List UInt8 := ((s.table i).recvBuffer.socketBufferRead len false).1

/-- The socket after they were read. -/
def takes (sock : Socket) (len : Nat) (peek : Bool) : Socket :=
  { sock with recvBuffer := (sock.recvBuffer.socketBufferRead len peek).2 }

/-- What a call gives from the buffer of the socket layer. -/
def gives (s : SocketLayer) (i : Nat) (len : Nat) (peek : Bool) : Int × List UInt8 × SocketLayer :=
  ((s.taken i len).length, s.taken i len, s.modify i fun sock => (takes sock len peek).counted (s.taken i len).length)

lemma taken_ne_nil (hlen : len ≠ 0) (hfilled : (s.table i).recvBuffer.Filled) : s.taken i len ≠ [] :=
  SocketBuffer.read_of_filled hfilled hlen false

lemma read_eq_taken (s : SocketLayer) (i : Nat) (len : Nat) (peek : Bool) :
    ((s.table i).recvBuffer.socketBufferRead len peek).1 = s.taken i len := by
  cases peek with
  | false => rfl
  | true =>
    rw [SocketBuffer.read_peek]
    rfl

lemma gives_eq (hlen : len ≠ 0) (hfilled : (s.table i).recvBuffer.Filled) :
    (((s.taken i len).length : Int), s.taken i len, (s.modify i fun sock => { sock with
        recvBuffer := ((s.table i).recvBuffer.socketBufferRead len peek).2 }).countReceived i (s.taken i len).length) =
      s.gives i len peek := by
  have hlength : (s.taken i len).length ≠ 0 := fun hnone =>
    taken_ne_nil hlen hfilled (List.length_eq_zero_iff.mp hnone)
  rw [countReceived_pos hlength, modify_modify]
  rfl

lemma recv_stream_filled (h : s.Stream sockfd i p) (hlen : len ≠ 0) (hfilled : (s.table i).recvBuffer.Filled) :
    s.recv sockfd len peek = s.gives i len peek := by
  rw [← gives_eq hlen hfilled]
  unfold recv
  rw [h.get]
  dsimp only
  rw [if_neg hlen, if_neg fun hstate => hstate.1 h.state, if_pos h.type, h.proto]
  dsimp only
  rw [read_eq_taken, if_neg (taken_ne_nil hlen hfilled)]

lemma recv_stream_empty (h : s.Stream sockfd i p) (hlen : len ≠ 0) (hfilled : ¬ (s.table i).recvBuffer.Filled) :
    s.recv sockfd len peek = s.recvTcp i p len := by
  unfold recv
  rw [h.get]
  dsimp only
  rw [if_neg hlen, if_neg fun hstate => hstate.1 h.state, if_pos h.type, h.proto]
  dsimp only
  rw [SocketBuffer.read_of_not_filled hfilled]
  dsimp only
  rw [if_pos rfl, modify_same s i _ rfl]
  rfl

lemma recv_dgram (h : s.Dgram sockfd i) (hlen : len ≠ 0) : s.recv sockfd len peek = s.recvDgram i len peek := by
  have hstream : (s.table i).type ≠ sockStream := by
    rw [h.type]
    decide
  unfold recv
  rw [h.get]
  dsimp only
  rw [if_neg hlen, if_neg fun hstate => hstream hstate.2, if_neg hstream, if_pos h.type]

lemma recv_dgram_filled (h : s.Dgram sockfd i) (hlen : len ≠ 0) (hfilled : (s.table i).recvBuffer.Filled) :
    s.recv sockfd len peek = s.gives i len peek := by
  rw [← gives_eq hlen hfilled, recv_dgram h hlen]
  unfold recvDgram
  dsimp only
  rw [read_eq_taken, if_neg (taken_ne_nil hlen hfilled)]

lemma recv_dgram_empty (h : s.Dgram sockfd i) (hlen : len ≠ 0) (hfilled : ¬ (s.table i).recvBuffer.Filled) :
    s.recv sockfd len peek = (-1, [], (s.fail .again).2) := by
  rw [recv_dgram h hlen]
  unfold recvDgram
  rw [SocketBuffer.read_of_not_filled hfilled]
  dsimp only
  rw [if_pos rfl, modify_same s i _ rfl]

lemma recv_refused (h : len = 0 ∨ (∀ i p, ¬ s.Stream sockfd i p) ∧ ∀ i, ¬ s.Dgram sockfd i) :
    ∃ ret, ∃ f : SocketErrno → SocketErrno, ∀ errno peek,
      ({ s with errno := errno } : SocketLayer).recv sockfd len peek = (ret, [], { s with errno := f errno }) ∧
        f (f errno) = f errno := by
  cases hget : s.socketGet sockfd with
  | none =>
    refine ⟨-1, fun _ => .badf, fun errno peek => ⟨?_, rfl⟩⟩
    have hget' : ({ s with errno := errno } : SocketLayer).socketGet sockfd = none := hget
    rw [recv, hget']
    rfl
  | some i =>
    have hget' : ∀ errno, ({ s with errno := errno } : SocketLayer).socketGet sockfd = some i := fun _ => hget
    by_cases hlen : len = 0
    · refine ⟨0, id, fun errno peek => ⟨?_, rfl⟩⟩
      rw [recv, hget' errno]
      exact if_pos hlen
    obtain ⟨hstream, hdgram⟩ := h.resolve_left hlen
    by_cases htype : (s.table i).type = sockStream
    · refine ⟨-1, fun _ => .notconn, fun errno peek => ⟨?_, rfl⟩⟩
      rw [recv, hget' errno]
      dsimp only
      rw [if_neg hlen]
      by_cases hstate : (s.table i).state = .connected
      · rw [if_neg fun hnot => hnot.1 hstate, if_pos htype]
        cases hproto : (s.table i).protoData with
        | none => rfl
        | some p => exact absurd ⟨hget, htype, hstate, hproto⟩ (hstream i p)
      · rw [if_pos ⟨hstate, htype⟩]
        rfl
    · refine ⟨0, id, fun errno peek => ⟨?_, rfl⟩⟩
      rw [recv, hget' errno]
      dsimp only
      rw [if_neg hlen, if_neg fun hnot => htype hnot.2, if_neg htype, if_neg fun hd => hdgram i ⟨hget, hd⟩]
      rfl

/-! ## Two calls -/

/-- `recvfrom`. -/
def recvfrom (s : SocketLayer) (sockfd : Int) (len : Nat) (peek : Bool) : Int × List UInt8 × SocketLayer :=
  match s.socketGet sockfd with
  | none => (-1, [], (s.fail .badf).2)
  | some i =>
    if len = 0 then (0, [], s)
    else if (s.table i).type = sockDgram then s.recvDgram i len peek
    else if (s.table i).type = sockStream then s.recv sockfd len peek
    else (0, [], s)

/-- `recv` sends a datagram socket to `recvfrom`, which sends a stream socket to `recv`. -/
lemma recvfrom_eq (s : SocketLayer) (sockfd : Int) (len : Nat) (peek : Bool) :
    s.recvfrom sockfd len peek = s.recv sockfd len peek := by
  unfold recvfrom
  cases hget : s.socketGet sockfd with
  | none =>
    rw [recv, hget]
  | some i =>
    dsimp only
    by_cases hlen : len = 0
    · rw [if_pos hlen, recv, hget]
      exact (if_pos hlen).symm
    rw [if_neg hlen]
    by_cases hdgram : (s.table i).type = sockDgram
    · rw [if_pos hdgram, recv_dgram ⟨hget, hdgram⟩ hlen]
    rw [if_neg hdgram]
    by_cases hstream : (s.table i).type = sockStream
    · rw [if_pos hstream]
    · rw [if_neg hstream, recv, hget]
      dsimp only
      rw [if_neg hlen, if_neg fun hstate => hstream hstate.2, if_neg hstream, if_neg hdgram]

/-- The answer, the bytes and the state of a plain call after a peek. -/
def peekThenRecv (s : SocketLayer) (sockfd : Int) (len : Nat) : Int × List UInt8 × SocketLayer :=
  (s.recv sockfd len true).2.2.recv sockfd len false

/-- An outcome without the statistics. -/
def outcome (a : Int × List UInt8 × SocketLayer) : Int × List UInt8 × SocketLayer := (a.1, a.2.1, a.2.2.withoutCounts)

/-- The call gets to bytes in the TCP layer. -/
def InTcp (s : SocketLayer) (sockfd : Int) (len : Nat) : Prop :=
  ∃ i p, s.Stream sockfd i p ∧ len ≠ 0 ∧ ¬ (s.table i).recvBuffer.Filled ∧ (s.tcp.blocks p).state ≠ .closed ∧
    (s.tcp.blocks p).recvBuf.used ≠ 0

/-- The call gets to bytes in the socket layer. -/
def InLayer (s : SocketLayer) (sockfd : Int) (len : Nat) : Prop :=
  ∃ i, ((∃ p, s.Stream sockfd i p) ∨ s.Dgram sockfd i) ∧ len ≠ 0 ∧ (s.table i).recvBuffer.Filled

lemma takes_peek (sock : Socket) (len : Nat) : takes sock len true = sock := by
  rw [takes, SocketBuffer.read_peek]

lemma kind_counted (s : SocketLayer) (sockfd : Int) (j n : Nat) :
    (s.Stream sockfd i p → (s.modify j (·.counted n)).Stream sockfd i p) ∧
      (s.Dgram sockfd i → (s.modify j (·.counted n)).Dgram sockfd i) := by
  have hfield : ∀ {β : Type} (φ : Socket → β), (∀ sock : Socket, φ (sock.counted n) = φ sock) → ∀ k,
      φ ((s.modify j (·.counted n)).table k) = φ (s.table k) := by
    intro β φ hφ k
    by_cases hk : k = j
    · subst hk
      rw [modify_self, hφ]
    · rw [modify_of_ne hk]
  have hget : (s.modify j (·.counted n)).socketGet sockfd = s.socketGet sockfd := by
    unfold socketGet
    dsimp only
    rw [hfield Socket.inUse fun _ => rfl]
  have htype := hfield Socket.type (fun _ => rfl) i
  exact ⟨fun h => ⟨hget.trans h.get, htype.trans h.type, (hfield Socket.state (fun _ => rfl) i).trans h.state,
      (hfield Socket.protoData (fun _ => rfl) i).trans h.proto⟩,
    fun h => ⟨hget.trans h.get, htype.trans h.type⟩⟩

lemma state_of_peek (s : SocketLayer) (i : Nat) (len : Nat) :
    (s.gives i len true).2.2 = s.modify i fun sock => sock.counted (s.taken i len).length := by
  unfold gives
  dsimp only
  congr 1
  funext sock
  rw [takes_peek]

/-- **Bytes in the socket layer** are still there after a peek, which counted them. -/
lemma gives_peek (s : SocketLayer) (i : Nat) (len : Nat) :
    outcome ((s.gives i len true).2.2.gives i len false) = outcome (s.gives i len false) ∧
      (s.gives i len true).2.2.gives i len false ≠ s.gives i len false := by
  have htaken : (s.modify i fun sock => sock.counted (s.taken i len).length).taken i len = s.taken i len := by
    unfold taken
    rw [modify_self]
    rfl
  have hagain : (s.gives i len true).2.2.gives i len false = (((s.taken i len).length : Int), s.taken i len,
      s.modify i fun sock =>
        (takes (sock.counted (s.taken i len).length) len false).counted (s.taken i len).length) := by
    rw [state_of_peek, gives, htaken, modify_modify]
  rw [hagain]
  constructor
  · have hcounts : (s.modify i fun sock =>
        (takes (sock.counted (s.taken i len).length) len false).counted (s.taken i len).length).withoutCounts =
        (s.modify i fun sock => (takes sock len false).counted (s.taken i len).length).withoutCounts :=
      withoutCounts_modify rfl
    exact congrArg (fun t => (((s.taken i len).length : Int), s.taken i len, t)) hcounts
  · intro heq
    have hstates := congrArg (fun a => (a.2.2.table i).packetsRecv) heq
    unfold gives at hstates
    dsimp only at hstates
    rw [modify_self, modify_self] at hstates
    have hcount : (s.table i).packetsRecv + 1 + 1 = (s.table i).packetsRecv + 1 := hstates
    have hone : (1 : UInt64) = 0 := by
      rw [← UInt64.add_right_inj ((s.table i).packetsRecv + 1), hcount, UInt64.add_zero]
    exact absurd hone (by decide)

lemma callSocket_twice {α : Type} {t : Tcp} {f : TcpConn → α × TcpConn}
    (hfreed : (f { sock := t.blocks p, io := t.io }).2.freed = false)
    (hsame : f (f { sock := t.blocks p, io := t.io }).2 = f { sock := t.blocks p, io := t.io }) :
    (t.callSocket p f).2.callSocket p f = t.callSocket p f := by
  have hafter : ({ sock := (t.onSocket p fun c => (f c).2).blocks p, io := (t.onSocket p fun c => (f c).2).io } :
      TcpConn) = (f { sock := t.blocks p, io := t.io }).2 := by
    unfold Tcp.onSocket
    dsimp only
    rw [if_neg (by rw [hfreed]; decide)]
    dsimp only
    rw [Function.update_self]
    exact congrArg (TcpConn.mk _ _) hfreed.symm
  unfold Tcp.callSocket
  dsimp only
  rw [hafter, hsame, Tcp.onSocket_onSocket hfreed]
  refine Prod.ext rfl ?_
  unfold Tcp.onSocket
  dsimp only
  rw [hsame]

/-- `tcp_recv` as a call with an answer. -/
def tcpRecvCall (len : Nat) (c : TcpConn) : (Int × List UInt8) × TcpConn :=
  (((c.tcpRecv len).1, (c.tcpRecv len).2.1), (c.tcpRecv len).2.2)

lemma recvTcp_tcp (s : SocketLayer) (i : Nat) (p : TcpRef) (len : Nat) :
    (s.recvTcp i p len).2.2.tcp = (s.tcp.callSocket p (tcpRecvCall len)).2 := by
  unfold recvTcp countReceived
  dsimp only
  split_ifs <;> rfl

lemma blocks_callSocket (t : Tcp) (p : TcpRef) (len : Nat) :
    ({ sock := (t.callSocket p (tcpRecvCall len)).2.blocks p, io := (t.callSocket p (tcpRecvCall len)).2.io } : TcpConn) =
      (TcpConn.tcpRecv { sock := t.blocks p, io := t.io } len).2.2 := by
  have hfreed : (TcpConn.tcpRecv { sock := t.blocks p, io := t.io } len).2.2.freed = false :=
    TcpConn.tcpRecv_freed _ len
  unfold Tcp.callSocket Tcp.onSocket tcpRecvCall
  dsimp only
  rw [if_neg (by rw [hfreed]; decide)]
  dsimp only
  rw [Function.update_self]
  exact congrArg (TcpConn.mk _ _) hfreed.symm

lemma recvTcp_nothing (h : (s.tcp.blocks p).state = .closed ∨ (s.tcp.blocks p).recvBuf.used = 0) :
    (s.recvTcp i p len).2.1 = [] ∧ ∃ e, (s.recvTcp i p len).2.2 =
        { s with tcp := (s.tcp.callSocket p (tcpRecvCall len)).2, errno := e } ∧
      (s.recvTcp i p len).2.2.recvTcp i p len = s.recvTcp i p len := by
  obtain ⟨hle, hbytes, hsame⟩ := @TcpConn.tcpRecv_nothing { sock := s.tcp.blocks p, io := s.tcp.io } len h
  have htwice : (s.tcp.callSocket p (tcpRecvCall len)).2.callSocket p (tcpRecvCall len) =
      s.tcp.callSocket p (tcpRecvCall len) := by
    refine callSocket_twice (TcpConn.tcpRecv_freed _ len) ?_
    unfold tcpRecvCall
    rw [hsame]
  have hanswer : ∀ u : SocketLayer, u.recvTcp i p len = (let answer := u.tcp.callSocket p (tcpRecvCall len)
       if answer.1.1 < 0 then
         if answer.1.1 = tcpErrWouldblock then (-1, [], { u with tcp := answer.2, errno := .again })
         else if answer.1.1 = tcpErrClosed then (0, [], { u with tcp := answer.2 })
         else (-1, [], { u with tcp := answer.2, errno := .connreset })
       else (answer.1.1, answer.1.2, ({ u with tcp := answer.2 } : SocketLayer).countReceived i answer.1.1)) :=
    fun u => rfl
  have hfirst := hanswer s
  have hret : (s.tcp.callSocket p (tcpRecvCall len)).1.1 ≤ 0 := hle
  have hnone : (s.tcp.callSocket p (tcpRecvCall len)).1.2 = [] := hbytes
  dsimp only at hfirst
  by_cases hneg : (s.tcp.callSocket p (tcpRecvCall len)).1.1 < 0
  · rw [if_pos hneg] at hfirst
    by_cases hblock : (s.tcp.callSocket p (tcpRecvCall len)).1.1 = tcpErrWouldblock
    · rw [if_pos hblock] at hfirst
      rw [hfirst]
      refine ⟨rfl, _, rfl, ?_⟩
      rw [hanswer]
      dsimp only
      rw [htwice, if_pos hneg, if_pos hblock]
    rw [if_neg hblock] at hfirst
    by_cases hclosed : (s.tcp.callSocket p (tcpRecvCall len)).1.1 = tcpErrClosed
    · rw [if_pos hclosed] at hfirst
      rw [hfirst]
      refine ⟨rfl, s.errno, rfl, ?_⟩
      rw [hanswer]
      dsimp only
      rw [htwice, if_pos hneg, if_neg hblock, if_pos hclosed]
    · rw [if_neg hclosed] at hfirst
      rw [hfirst]
      refine ⟨rfl, _, rfl, ?_⟩
      rw [hanswer]
      dsimp only
      rw [htwice, if_pos hneg, if_neg hblock, if_neg hclosed]
  · rw [if_neg hneg, countReceived_nonpos hret] at hfirst
    rw [hfirst]
    refine ⟨hnone, s.errno, rfl, ?_⟩
    rw [hanswer]
    dsimp only
    rw [htwice, if_neg hneg, countReceived_nonpos hret]

lemma recvTcp_something (hstate : (s.tcp.blocks p).state ≠ .closed) (hused : (s.tcp.blocks p).recvBuf.used ≠ 0)
    (hlen : len ≠ 0) :
    (s.recvTcp i p len).2.1.length = min len (s.tcp.blocks p).recvBuf.used ∧
      (s.recvTcp i p len).2.2 = (({ s with tcp := (s.tcp.callSocket p (tcpRecvCall len)).2 } : SocketLayer).modify i
        fun sock => sock.counted (s.recvTcp i p len).2.1.length) := by
  obtain ⟨hret, hlength, -, -⟩ :=
    @TcpConn.tcpRecv_something { sock := s.tcp.blocks p, io := s.tcp.io } len hstate hused hlen
  have hret' : (s.tcp.callSocket p (tcpRecvCall len)).1.1 = (s.tcp.callSocket p (tcpRecvCall len)).1.2.length := hret
  have hlength' : (s.tcp.callSocket p (tcpRecvCall len)).1.2.length = min len (s.tcp.blocks p).recvBuf.used := hlength
  have hanswer : s.recvTcp i p len = ((s.tcp.callSocket p (tcpRecvCall len)).1.1,
      (s.tcp.callSocket p (tcpRecvCall len)).1.2,
      ({ s with tcp := (s.tcp.callSocket p (tcpRecvCall len)).2 } : SocketLayer).countReceived i
        (s.tcp.callSocket p (tcpRecvCall len)).1.1) :=
    if_neg (show ¬ (s.tcp.callSocket p (tcpRecvCall len)).1.1 < 0 by omega)
  rw [hanswer]
  refine ⟨hlength', ?_⟩
  dsimp only
  rw [hret', countReceived_pos (by omega)]

/-- **Bytes in the TCP layer** are gone after a peek. -/
lemma recvTcp_consumes (hstate : (s.tcp.blocks p).state ≠ .closed) (hused : (s.tcp.blocks p).recvBuf.used ≠ 0)
    (hlen : len ≠ 0) :
    outcome ((s.recvTcp i p len).2.2.recvTcp i p len) ≠ outcome (s.recvTcp i p len) := by
  intro heq
  have hbytes : ((s.recvTcp i p len).2.2.recvTcp i p len).2.1 = (s.recvTcp i p len).2.1 :=
    congrArg (fun a => a.2.1) heq
  have htcp : ((s.recvTcp i p len).2.2.recvTcp i p len).2.2.tcp = (s.recvTcp i p len).2.2.tcp :=
    congrArg (fun a => a.2.2.tcp) heq
  obtain ⟨hlength, -⟩ := @recvTcp_something s len i p hstate hused hlen
  obtain ⟨-, -, hstate', hused'⟩ :=
    @TcpConn.tcpRecv_something { sock := s.tcp.blocks p, io := s.tcp.io } len hstate hused hlen
  have hsock : (s.recvTcp i p len).2.2.tcp.blocks p =
      (TcpConn.tcpRecv { sock := s.tcp.blocks p, io := s.tcp.io } len).2.2.sock := by
    rw [recvTcp_tcp]
    exact congrArg TcpConn.sock (blocks_callSocket s.tcp p len)
  rw [← hsock] at hstate' hused'
  by_cases hempty : ((s.recvTcp i p len).2.2.tcp.blocks p).recvBuf.used = 0
  · -- the second call finds nothing
    have hnone := (@recvTcp_nothing (s.recvTcp i p len).2.2 len i p (Or.inr hempty)).1
    rw [← hbytes, hnone, List.length_nil] at hlength
    omega
  · -- it takes more
    obtain ⟨-, -, -, hused''⟩ := @TcpConn.tcpRecv_something
      { sock := (s.recvTcp i p len).2.2.tcp.blocks p, io := (s.recvTcp i p len).2.2.tcp.io } len
      (by rw [hstate']; exact hstate) hempty hlen
    have hsock' : ((s.recvTcp i p len).2.2.recvTcp i p len).2.2.tcp.blocks p = (TcpConn.tcpRecv
        { sock := (s.recvTcp i p len).2.2.tcp.blocks p, io := (s.recvTcp i p len).2.2.tcp.io } len).2.2.sock := by
      rw [recvTcp_tcp]
      exact congrArg TcpConn.sock (blocks_callSocket _ p len)
    rw [← hsock', htcp] at hused''
    dsimp only at hused''
    omega

/-- The claim about a peek, without and with the statistics. -/
def PeekFacts (s : SocketLayer) (sockfd : Int) (len : Nat) : Prop :=
  (outcome (s.peekThenRecv sockfd len) = outcome (s.recv sockfd len false) ↔ ¬ s.InTcp sockfd len) ∧
    (s.peekThenRecv sockfd len = s.recv sockfd len false ↔ ¬ s.InTcp sockfd len ∧ ¬ s.InLayer sockfd len)

lemma peekFacts_nothing (hsame : s.peekThenRecv sockfd len = s.recv sockfd len false) (htcp : ¬ s.InTcp sockfd len)
    (hlayer : ¬ s.InLayer sockfd len) : s.PeekFacts sockfd len :=
  ⟨iff_of_true (by rw [hsame]) htcp, iff_of_true hsame ⟨htcp, hlayer⟩⟩

lemma peekFacts_filled (htcp : ¬ s.InTcp sockfd len) (hlayer : s.InLayer sockfd len)
    (hplain : ∀ peek, s.recv sockfd len peek = s.gives i len peek)
    (hagain : (s.modify i fun sock => sock.counted (s.taken i len).length).recv sockfd len false =
      (s.modify i fun sock => sock.counted (s.taken i len).length).gives i len false) : s.PeekFacts sockfd len := by
  obtain ⟨hsame, hdiffers⟩ := s.gives_peek i len
  have htwice : s.peekThenRecv sockfd len = (s.gives i len true).2.2.gives i len false := by
    rw [peekThenRecv, hplain, state_of_peek, hagain]
  unfold PeekFacts
  rw [htwice, hplain]
  exact ⟨iff_of_true hsame htcp, iff_of_false hdiffers fun h => h.2 hlayer⟩

lemma filled_counted {n : Nat} (hfilled : (s.table i).recvBuffer.Filled) :
    ((s.modify i fun sock => sock.counted n).table i).recvBuffer.Filled := by
  rw [modify_self]
  exact hfilled

lemma peekFacts_stream (hs : s.Stream sockfd i p) (hlen : len ≠ 0) : s.PeekFacts sockfd len := by
  have hplace : ∀ {j}, (∃ q, s.Stream sockfd j q) ∨ s.Dgram sockfd j → j = i := fun {j} h => by
    have hget : s.socketGet sockfd = some j := h.elim (fun ⟨_, hq⟩ => hq.get) Dgram.get
    exact Option.some.inj (hget.symm.trans hs.get)
  have hproto : ∀ {j q}, s.Stream sockfd j q → q = p := fun {j q} h => by
    obtain rfl := hplace (Or.inl ⟨q, h⟩)
    exact Option.some.inj (h.proto.symm.trans hs.proto)
  by_cases hfilled : (s.table i).recvBuffer.Filled
  · refine peekFacts_filled ?_ ⟨i, Or.inl ⟨p, hs⟩, hlen, hfilled⟩
      (fun peek => recv_stream_filled hs hlen hfilled) ?_
    · rintro ⟨j, q, hq, -, hempty, -⟩
      obtain rfl := hplace (Or.inl ⟨q, hq⟩)
      exact hempty hfilled
    · exact recv_stream_filled ((s.kind_counted sockfd i _).1 hs) hlen (filled_counted hfilled)
  have hlayer : ¬ s.InLayer sockfd len := by
    rintro ⟨j, hj, -, hfull⟩
    obtain rfl := hplace hj
    exact hfilled hfull
  have hplain : ∀ peek, s.recv sockfd len peek = s.recvTcp i p len := fun peek => recv_stream_empty hs hlen hfilled
  by_cases hdata : (s.tcp.blocks p).state ≠ .closed ∧ (s.tcp.blocks p).recvBuf.used ≠ 0
  · have hin : s.InTcp sockfd len := ⟨i, p, hs, hlen, hfilled, hdata.1, hdata.2⟩
    have hagain : s.peekThenRecv sockfd len = (s.recvTcp i p len).2.2.recvTcp i p len := by
      rw [peekThenRecv, hplain]
      have hstate := (@recvTcp_something s len i p hdata.1 hdata.2 hlen).2
      have hs' : ({ s with tcp := (s.tcp.callSocket p (tcpRecvCall len)).2 } : SocketLayer).Stream sockfd i p :=
        ⟨hs.get, hs.type, hs.state, hs.proto⟩
      refine recv_stream_empty ?_ hlen ?_
      · rw [hstate]
        exact (kind_counted _ sockfd i _).1 hs'
      · rw [hstate, modify_self]
        exact hfilled
    have hdiffers := @recvTcp_consumes s len i p hdata.1 hdata.2 hlen
    unfold PeekFacts
    rw [hagain, hplain]
    exact ⟨iff_of_false hdiffers fun h => h hin, iff_of_false (fun heq => hdiffers (by rw [heq])) fun h => h.1 hin⟩
  · have hnothing : (s.tcp.blocks p).state = .closed ∨ (s.tcp.blocks p).recvBuf.used = 0 := by tauto
    refine peekFacts_nothing ?_ ?_ hlayer
    · obtain ⟨-, e, hstate, htwice⟩ := @recvTcp_nothing s len i p hnothing
      rw [peekThenRecv, hplain, hplain]
      refine (recv_stream_empty ?_ hlen ?_).trans htwice
      · rw [hstate]
        exact ⟨hs.get, hs.type, hs.state, hs.proto⟩
      · rw [hstate]
        exact hfilled
    · rintro ⟨j, q, hq, -, -, hstate, hused⟩
      obtain rfl := hproto hq
      exact hdata ⟨hstate, hused⟩

lemma peekFacts_dgram (hd : s.Dgram sockfd i) (hlen : len ≠ 0) : s.PeekFacts sockfd len := by
  have hget : ∀ {j}, s.socketGet sockfd = some j → j = i := fun h => Option.some.inj (h.symm.trans hd.get)
  have htcp : ¬ s.InTcp sockfd len := by
    rintro ⟨j, q, hq, -⟩
    obtain rfl := hget hq.get
    exact absurd (hq.type.symm.trans hd.type) (by decide)
  by_cases hfilled : (s.table i).recvBuffer.Filled
  · refine peekFacts_filled htcp ⟨i, Or.inr hd, hlen, hfilled⟩
      (fun peek => recv_dgram_filled hd hlen hfilled) ?_
    exact recv_dgram_filled ((@kind_counted i 0 s sockfd i _).2 hd) hlen
      (filled_counted hfilled)
  · refine peekFacts_nothing ?_ htcp ?_
    · rw [peekThenRecv, recv_dgram_empty hd hlen hfilled, recv_dgram_empty hd hlen hfilled]
      have hd' : (s.fail .again).2.Dgram sockfd i := ⟨hd.get, hd.type⟩
      exact recv_dgram_empty hd' hlen hfilled
    · rintro ⟨j, hj, -, hfull⟩
      obtain rfl := hget (hj.elim (fun ⟨_, hq⟩ => hq.get) Dgram.get)
      exact hfilled hfull

/-- **Peeking.**  A plain call after a peek is the plain call alone but for the statistics, exactly if the peek does not
get to bytes in the TCP layer; and in all, exactly if it gets to no bytes. -/
theorem peek_then_recv_iff (s : SocketLayer) (sockfd : Int) (len : Nat) :
    (outcome (s.peekThenRecv sockfd len) = outcome (s.recv sockfd len false) ↔ ¬ s.InTcp sockfd len) ∧
    (s.peekThenRecv sockfd len = s.recv sockfd len false ↔ ¬ s.InTcp sockfd len ∧ ¬ s.InLayer sockfd len) ∧
    ∀ peek, s.recvfrom sockfd len peek = s.recv sockfd len peek := by
  have hfacts : s.PeekFacts sockfd len := by
    by_cases hlen : len = 0
    · obtain ⟨ret, f, hrecv⟩ := @recv_refused s sockfd len (Or.inl hlen)
      obtain ⟨hplain, hidem⟩ := hrecv s.errno false
      refine peekFacts_nothing ?_ (fun ⟨_, _, _, h, _⟩ => h hlen) fun ⟨_, _, h, _⟩ => h hlen
      have hpeek := (hrecv s.errno true).1
      have hagain := (hrecv (f s.errno) false).1
      rw [hidem] at hagain
      rw [peekThenRecv, hpeek, hplain]
      exact hagain
    by_cases hstream : ∃ i p, s.Stream sockfd i p
    · obtain ⟨i, p, hs⟩ := hstream
      exact peekFacts_stream hs hlen
    by_cases hdgram : ∃ i, s.Dgram sockfd i
    · obtain ⟨i, hd⟩ := hdgram
      exact peekFacts_dgram hd hlen
    obtain ⟨ret, f, hrecv⟩ := @recv_refused s sockfd len
      (Or.inr ⟨fun i p h => hstream ⟨i, p, h⟩, fun i h => hdgram ⟨i, h⟩⟩)
    obtain ⟨hplain, hidem⟩ := hrecv s.errno false
    refine peekFacts_nothing ?_ (fun ⟨i, p, h, _⟩ => hstream ⟨i, p, h⟩) fun ⟨i, h, _⟩ => ?_
    · have hpeek := (hrecv s.errno true).1
      have hagain := (hrecv (f s.errno) false).1
      rw [hidem] at hagain
      rw [peekThenRecv, hpeek, hplain]
      exact hagain
    · exact h.elim (fun ⟨p, hp⟩ => hstream ⟨i, p, hp⟩) fun hd => hdgram ⟨i, hd⟩
  exact ⟨hfacts.1, hfacts.2, fun peek => s.recvfrom_eq sockfd len peek⟩

/-- A connection with one byte in its TCP socket. -/
def oneByte : SocketLayer where
  table i :=
    if i = 0 then { fd := 1000, type := sockStream, state := .connected, protoData := some 0, inUse := true } else {}
  tcp := { blocks := fun _ => { state := .established, recvBuf := { buffer := fun _ => 7, head := 1, used := 1 } } }

/-- A peek takes it. -/
theorem peek_consumes : (oneByte.recv 1000 1 false).2.1 = [7] ∧ (oneByte.peekThenRecv 1000 1).2.1 = [] := by
  decide

end SocketLayer

end AAAos
