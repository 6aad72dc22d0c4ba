import AAAos.Lib.RingBuffer

/-!
# One TCP socket

`net/tcp/tcp.c`, the part that works on one socket: the ring buffers, sending a segment, the calls
of an open connection, what `tcp_receive` does in each of the eleven states, and the timers.  The
list of sockets is in the next module.

A segment is given by its decoded header and its data; the checksum and the byte order are left out,
and a segment that fails the checksum does not arrive.  The flags byte and the flags word are their
bits, of which only those in use are kept.  What a call needs from outside is in `TcpIo`: the clock,
the address of the interface, the outcomes of the next allocations and of the next `ip_send`s (success
when the list has run out), and the segments that `ip_send` has taken.

A call works on a socket and the outside (`TcpConn`).  The mark `freed` says that it has passed the
socket to `tcp_socket_destroy`.  The statistics and the printing are left out.
-/

namespace AAAos

/-! ## Constants -/

/-- `TCP_SEND_BUF_SIZE`, `TCP_RECV_BUF_SIZE`. -/
def tcpBufSize : Nat := 65536

/-- `TCP_DEFAULT_WINDOW`. -/
def tcpDefaultWindow : UInt32 := 32768

/-- `TCP_MSS_DEFAULT`. -/
def tcpMssDefault : UInt16 := 1460

/-- `TCP_RETRANSMIT_TIMEOUT`. -/
def tcpRetransmitTimeout : UInt32 := 1000

/-- `TCP_MAX_RETRIES`. -/
def tcpMaxRetries : UInt8 := 5

/-- `TCP_TIME_WAIT_TIMEOUT`. -/
def tcpTimeWaitTimeout : UInt32 := 60000

/-- `TCP_LISTEN_BACKLOG_MAX`. -/
def tcpListenBacklogMax : Int := 128

/-- `TCP_OK`. -/
def tcpOk : Int := 0

/-- `TCP_ERR_NOMEM`. -/
def tcpErrNomem : Int := -1

/-- `TCP_ERR_INVALID`. -/
def tcpErrInvalid : Int := -2

/-- `TCP_ERR_NOTCONN`. -/
def tcpErrNotconn : Int := -3

/-- `TCP_ERR_INUSE`. -/
def tcpErrInuse : Int := -6

/-- `TCP_ERR_WOULDBLOCK`. -/
def tcpErrWouldblock : Int := -7

/-- `TCP_ERR_NOBUFS`. -/
def tcpErrNobufs : Int := -10

/-- `tcp_state_t`. -/
inductive TcpState
  | closed | listen | synSent | synReceived | established | finWait1 | finWait2 | closeWait
  | closing | lastAck | timeWait
deriving DecidableEq, Repr

/-! ## Ring buffers -/

/-- `tcp_ring_buffer_t`. -/
structure TcpRingBuffer where
  buffer : Nat → UInt8 := fun _ => 0
  size : Nat := tcpBufSize
  head : Nat := 0
  tail : Nat := 0
  used : Nat := 0

namespace TcpRingBuffer

/-- `ring_buffer_space`. -/
def ringBufferSpace (rb : TcpRingBuffer) : Nat := rb.size - rb.used

/-- `ring_buffer_write`: how many bytes were written, and the buffer. -/
def ringBufferWrite (rb : TcpRingBuffer) (data : List UInt8) : Nat × TcpRingBuffer :=
  let toWrite := min data.length rb.ringBufferSpace
  let put := ringPut rb.size rb.buffer rb.head (data.take toWrite)
  (toWrite, { rb with buffer := put.1, head := put.2, used := rb.used + toWrite })

/-- `ring_buffer_read`: the bytes read, and the buffer. -/
def ringBufferRead (rb : TcpRingBuffer) (len : Nat) : List UInt8 × TcpRingBuffer :=
  let toRead := min len rb.used
  let taken := ringTake rb.size rb.buffer rb.tail toRead
  (taken.1, { rb with tail := taken.2, used := rb.used - toRead })

/-- `ring_buffer_peek`. -/
def ringBufferPeek (rb : TcpRingBuffer) (len : Nat) : List UInt8 :=
  (ringTake rb.size rb.buffer rb.tail (min len rb.used)).1

end TcpRingBuffer

/-! ## Segments and the outside -/

/-- The flags of a segment. -/
structure TcpFlags where
  fin : Bool := false
  syn : Bool := false
  rst : Bool := false
  psh : Bool := false
  ack : Bool := false
deriving DecidableEq

/-- A segment, with the addresses of its pseudo-header. -/
structure TcpSegment where
  srcIp : UInt32
  dstIp : UInt32
  srcPort : UInt16
  dstPort : UInt16
  seq : UInt32
  ack : UInt32
  flags : TcpFlags
  window : UInt16
  data : List UInt8 := []
deriving DecidableEq

/-- What a call takes from outside, and the segments sent so far. -/
structure TcpIo where
  now : UInt32 := 0
  ownIp : UInt32 := 0
  allocs : List Bool := []
  sends : List Int := []
  sent : List TcpSegment := []

namespace TcpIo

/-- `kmalloc`: whether there was memory. -/
def kmalloc (io : TcpIo) : Bool × TcpIo :=
  match io.allocs with
  | [] => (true, io)
  | ok :: rest => (ok, { io with allocs := rest })

/-- `ip_send`. -/
def ipSend (io : TcpIo) (seg : TcpSegment) : Int × TcpIo :=
  match io.sends with
  | [] => (0, { io with sent := io.sent ++ [seg] })
  | result :: rest =>
    if result = 0 then (0, { io with sends := rest, sent := io.sent ++ [seg] })
    else (result, { io with sends := rest })

/-- `tcp_send_rst`. -/
def tcpSendRst (io : TcpIo) (srcIp dstIp : UInt32) (srcPort dstPort : UInt16) (seq ack : UInt32) :
    TcpIo :=
  (io.ipSend
    { srcIp := if srcIp ≠ 0 then srcIp else io.ownIp
      dstIp := dstIp
      srcPort := srcPort
      dstPort := dstPort
      seq := seq
      ack := ack
      flags := { rst := true, ack := true }
      window := 0 }).2

/-- The next `tcp_send_segment` fails: there is no memory for the segment, or `ip_send` gives an
error. -/
def sendFails (io : TcpIo) : Bool :=
  let (ok, rest) := io.kmalloc
  !ok || match rest.sends with
    | [] => false
    | result :: _ => result ≠ 0

lemma kmalloc_same (io : TcpIo) :
    io.kmalloc.2.sent = io.sent ∧ io.kmalloc.2.now = io.now ∧ io.kmalloc.2.sends = io.sends := by
  unfold kmalloc
  split
  · exact ⟨rfl, rfl, rfl⟩
  · exact ⟨rfl, rfl, rfl⟩

lemma ipSend_sent (io : TcpIo) (seg : TcpSegment) :
    (io.ipSend seg).2.sent = io.sent ∨ (io.ipSend seg).2.sent = io.sent ++ [seg] := by
  unfold ipSend
  split
  · exact .inr rfl
  · split_ifs
    · exact .inr rfl
    · exact .inl rfl

lemma ipSend_now (io : TcpIo) (seg : TcpSegment) : (io.ipSend seg).2.now = io.now := by
  unfold ipSend
  split
  · rfl
  · split_ifs
    · rfl
    · rfl

lemma tcpSendRst_sent (io : TcpIo) (srcIp dstIp : UInt32) (srcPort dstPort : UInt16)
    (seq ack : UInt32) : ∃ new, (io.tcpSendRst srcIp dstIp srcPort dstPort seq ack).sent =
      io.sent ++ new ∧ ∀ seg ∈ new, seg.data = [] ∧ seg.flags = { rst := true, ack := true } := by
  rcases ipSend_sent io _ with h | h
  · exact ⟨[], by rw [tcpSendRst, h, List.append_nil], fun _ h => absurd h List.not_mem_nil⟩
  · refine ⟨_, h, fun seg hseg => ?_⟩
    rw [List.mem_singleton.mp hseg]
    exact ⟨rfl, rfl⟩

end TcpIo

/-! ## The socket -/

/-- `tcp_pending_conn_t`. -/
structure TcpPendingConn where
  remoteIp : UInt32
  remotePort : UInt16
  seqNum : UInt32
  timestamp : UInt32

/-- `tcp_socket_t`.  The defaults are the socket as `tcp_socket_create` leaves it. -/
structure TcpSocket where
  localPort : UInt16 := 0
  remotePort : UInt16 := 0
  localIp : UInt32 := 0
  remoteIp : UInt32 := 0
  state : TcpState := .closed
  sndUna : UInt32 := 0
  sndNxt : UInt32 := 0
  sndWnd : UInt32 := 0
  iss : UInt32 := 0
  rcvNxt : UInt32 := 0
  rcvWnd : UInt32 := tcpDefaultWindow
  irs : UInt32 := 0
  sendBuf : TcpRingBuffer := {}
  recvBuf : TcpRingBuffer := {}
  rto : UInt32 := tcpRetransmitTimeout
  retries : UInt8 := 0
  timeWaitStart : UInt32 := 0
  lastActivity : UInt32 := 0
  backlog : Int := 0
  pendingCount : Int := 0
  pending : List TcpPendingConn := []
  mss : UInt16 := tcpMssDefault
  bound : Bool := false
  nonblock : Bool := false

/-- `tcp_can_send`. -/
def TcpSocket.tcpCanSend (s : TcpSocket) : Bool := s.state = .established || s.state = .closeWait

/-- `tcp_send` has put data into the buffer. -/
def TcpSocket.withData (s : TcpSocket) (data : List UInt8) : TcpSocket :=
  { s with sendBuf := (s.sendBuf.ringBufferWrite data).2 }

/-- `seq_gt`. -/
def seqGt (a b : UInt32) : Bool := 0 < (a - b).toInt32

/-- `seq_le`. -/
def seqLe (a b : UInt32) : Bool := (a - b).toInt32 ≤ 0

/-- A socket that a call works on. -/
structure TcpConn where
  sock : TcpSocket
  io : TcpIo
  freed : Bool := false

namespace TcpConn

/-- Writing to the fields of the socket. -/
def modify (c : TcpConn) (f : TcpSocket → TcpSocket) : TcpConn := { c with sock := f c.sock }

/-- `tcp_socket_destroy`. -/
def tcpSocketDestroy (c : TcpConn) : TcpConn := { c with freed := true }

/-- `tcp_set_state`. -/
def tcpSetState (c : TcpConn) (state : TcpState) : TcpConn :=
  if c.sock.state = state then c
  else c.modify fun s => { s with state := state, lastActivity := c.io.now }

/-- `tcp_send_rst`. -/
def tcpSendRst (c : TcpConn) (srcIp dstIp : UInt32) (srcPort dstPort : UInt16) (seq ack : UInt32) :
    TcpConn :=
  { c with io := c.io.tcpSendRst srcIp dstIp srcPort dstPort seq ack }

/-! ## Sending a segment -/

/-- The segment that `tcp_send_segment` builds. -/
def segment (c : TcpConn) (flags : TcpFlags) (data : List UInt8) : TcpSegment where
  srcIp := if c.sock.localIp ≠ 0 then c.sock.localIp else c.io.ownIp
  dstIp := c.sock.remoteIp
  srcPort := c.sock.localPort
  dstPort := c.sock.remotePort
  seq := c.sock.sndNxt
  ack := c.sock.rcvNxt
  flags := flags
  window := c.sock.rcvWnd.toUInt16
  data := data

/-- By how much `tcp_send_segment` advances `snd_nxt`. -/
def seqLen (flags : TcpFlags) (data : List UInt8) : UInt32 :=
  UInt32.ofNat data.length + (if flags.syn then 1 else 0) + (if flags.fin then 1 else 0)

/-- `tcp_send_segment`. -/
def tcpSendSegment (c : TcpConn) (flags : TcpFlags) (data : List UInt8) : Int × TcpConn :=
  let (ok, io) := c.io.kmalloc
  if ok then
    let (result, io) := io.ipSend (c.segment flags data)
    if result = 0 then
      (0, { c with sock := { c.sock with sndNxt := c.sock.sndNxt + seqLen flags data }, io := io })
    else (result, { c with io := io })
  else (tcpErrNomem, { c with io := io })

/-- An acknowledgement without data. -/
def sendAck (c : TcpConn) : TcpConn := (c.tcpSendSegment { ack := true } []).2

/-! ## Calls of an open connection -/

/-- How much `tcp_output` sends: what is buffered, at most the window and at most the MSS. -/
def toSend (s : TcpSocket) : Nat := min (min s.sendBuf.used s.sndWnd.toNat) s.mss.toNat

/-- `tcp_output`. -/
def tcpOutput (c : TcpConn) : TcpConn :=
  if c.sock.tcpCanSend then
    if toSend c.sock = 0 then c
    else
      let (ok, io) := c.io.kmalloc
      if ok then
        let data := c.sock.sendBuf.ringBufferPeek (toSend c.sock)
        let sent := ({ c with io := io }.tcpSendSegment
          { ack := true, psh := data.length = c.sock.sendBuf.used } data).2
        -- the bytes leave the buffer, whether they were sent or not
        sent.modify fun s => { s with sendBuf := (s.sendBuf.ringBufferRead data.length).2 }
      else { c with io := io }
  else c

/-- `tcp_send`. -/
def tcpSend (c : TcpConn) (data : List UInt8) : Int × TcpConn :=
  if c.sock.tcpCanSend then
    if data = [] then (0, c)
    else
      let (written, buf) := c.sock.sendBuf.ringBufferWrite data
      if written = 0 then (if c.sock.nonblock then tcpErrWouldblock else tcpErrNobufs, c)
      else (written, (c.modify fun s => { s with sendBuf := buf }).tcpOutput)
  else (tcpErrNotconn, c)

/-- `tcp_recv`: the answer, the bytes and the socket. -/
def tcpRecv (c : TcpConn) (maxLen : Nat) : Int × List UInt8 × TcpConn :=
  if c.sock.state = .closed then (tcpErrNotconn, [], c)
  else
    let (bytes, buf) := c.sock.recvBuf.ringBufferRead maxLen
    let read := c.modify fun s => { s with recvBuf := buf }
    let updated := read.modify fun s => { s with rcvWnd := UInt32.ofNat s.recvBuf.ringBufferSpace }
    if bytes.length = 0 then
      if c.sock.state = .closeWait ∨ c.sock.state = .lastAck ∨ c.sock.state = .timeWait ∨
          c.sock.state = .closing then (0, [], read)
      else if c.sock.nonblock then (tcpErrWouldblock, [], read)
      else (0, [], updated)
    else (bytes.length, bytes, updated)

/-- `tcp_close` sends the FIN. -/
def sendFin (c : TcpConn) (state : TcpState) : TcpConn :=
  ((c.tcpSetState state).tcpSendSegment { fin := true, ack := true } []).2

/-- `tcp_close`. -/
def tcpClose (c : TcpConn) : TcpConn :=
  match c.sock.state with
  | .closed => c.tcpSocketDestroy
  | .listen | .synSent => (c.tcpSetState .closed).tcpSocketDestroy
  | .synReceived | .established => c.sendFin .finWait1
  | .closeWait => c.sendFin .lastAck
  | .finWait1 | .finWait2 | .closing | .lastAck | .timeWait => c

/-- `tcp_abort`. -/
def tcpAbort (c : TcpConn) : TcpConn :=
  let reset :=
    if c.sock.state ≠ .closed ∧ c.sock.state ≠ .listen then
      c.tcpSendRst c.sock.localIp c.sock.remoteIp c.sock.localPort c.sock.remotePort
        c.sock.sndNxt c.sock.rcvNxt
    else c
  (reset.tcpSetState .closed).tcpSocketDestroy

/-- `tcp_connect` on a socket that is bound. -/
def startConnect (c : TcpConn) (iss remoteIp : UInt32) (remotePort : UInt16) : Int × TcpConn :=
  let opened := (c.modify fun s =>
    { s with
      remoteIp := remoteIp
      remotePort := remotePort
      iss := iss
      sndUna := iss
      sndNxt := iss }).tcpSetState .synSent
  let (result, sent) := opened.tcpSendSegment { syn := true } []
  if result ≠ 0 then (result, sent.tcpSetState .closed) else (tcpOk, sent)

/-- `tcp_accept` sets up the new socket and sends the SYN-ACK. -/
def startAccept (c : TcpConn) (listener : TcpSocket) (pending : TcpPendingConn) (iss : UInt32) :
    TcpConn :=
  (((c.modify fun s =>
    { s with
      localIp := listener.localIp
      localPort := listener.localPort
      remoteIp := pending.remoteIp
      remotePort := pending.remotePort
      iss := iss
      sndUna := iss
      sndNxt := iss
      irs := pending.seqNum
      rcvNxt := pending.seqNum + 1
      bound := true }).tcpSetState .synReceived).tcpSendSegment { syn := true, ack := true } []).2

/-- `tcp_accept` removes the request from the listener. -/
def dropPending (c : TcpConn) : TcpConn :=
  c.modify fun s => { s with pending := s.pending.tail, pendingCount := s.pendingCount - 1 }

/-- `tcp_bind` to a port that is free. -/
def bindTo (c : TcpConn) (port : UInt16) : TcpConn :=
  c.modify fun s => { s with localPort := port, localIp := c.io.ownIp, bound := true }

/-- `tcp_listen`. -/
def tcpListen (c : TcpConn) (backlog : Int) : Int × TcpConn :=
  if !c.sock.bound then (tcpErrInvalid, c)
  else if c.sock.state ≠ .closed then (tcpErrInvalid, c)
  else
    (tcpOk, (c.modify fun s =>
      { s with
        backlog := min (max backlog 1) tcpListenBacklogMax
        pendingCount := 0
        pending := [] }).tcpSetState .listen)

/-! ## Incoming segments -/

/-- `tcp_receive`, `TCP_STATE_LISTEN`. -/
def receiveListen (c : TcpConn) (seg : TcpSegment) : TcpConn :=
  if seg.flags.syn then
    if c.sock.backlog ≤ c.sock.pendingCount then c
    else
      let (ok, io) := c.io.kmalloc
      if ok then
        { c with io := io }.modify fun s =>
          { s with
            pending := ⟨seg.srcIp, seg.srcPort, seg.seq, io.now⟩ :: s.pending
            pendingCount := s.pendingCount + 1 }
      else { c with io := io }
  else c

/-- `tcp_receive`, `TCP_STATE_SYN_SENT`. -/
def receiveSynSent (c : TcpConn) (seg : TcpSegment) : TcpConn :=
  if seg.flags.syn ∧ seg.flags.ack then
    if seg.ack ≠ c.sock.sndNxt then
      c.tcpSendRst seg.dstIp seg.srcIp seg.dstPort seg.srcPort seg.ack 0
    else
      ((c.modify fun s =>
        { s with
          sndUna := seg.ack
          irs := seg.seq
          rcvNxt := seg.seq + 1
          sndWnd := seg.window.toUInt32 }).tcpSetState .established).sendAck
  else if seg.flags.syn then
    -- simultaneous open
    (((c.modify fun s => { s with irs := seg.seq, rcvNxt := seg.seq + 1 }).tcpSetState
      .synReceived).tcpSendSegment { syn := true, ack := true } []).2
  else c

/-- `tcp_receive`, `TCP_STATE_SYN_RECEIVED`. -/
def receiveSynReceived (c : TcpConn) (seg : TcpSegment) : TcpConn :=
  if seg.flags.ack ∧ seg.ack = c.sock.sndNxt then
    (c.modify fun s => { s with sndUna := seg.ack, sndWnd := seg.window.toUInt32 }).tcpSetState
      .established
  else c

/-- `TCP_STATE_ESTABLISHED`, the acknowledgement. -/
def processAck (c : TcpConn) (seg : TcpSegment) : TcpConn :=
  if seg.flags.ack then
    c.modify fun s =>
      { s with
        sndUna := if seqGt seg.ack s.sndUna && seqLe seg.ack s.sndNxt then seg.ack else s.sndUna
        sndWnd := seg.window.toUInt32 }
  else c

/-- `TCP_STATE_ESTABLISHED`, the data. -/
def processData (c : TcpConn) (seg : TcpSegment) : TcpConn :=
  if seg.data = [] then c
  else if seg.seq = c.sock.rcvNxt then
    let (written, buf) := c.sock.recvBuf.ringBufferWrite seg.data
    (c.modify fun s =>
      { s with
        recvBuf := buf
        rcvNxt := s.rcvNxt + UInt32.ofNat written
        rcvWnd := UInt32.ofNat buf.ringBufferSpace }).sendAck
  else c.sendAck

/-- `sock->rcv_nxt++`, for a FIN. -/
def countFin (c : TcpConn) : TcpConn := c.modify fun s => { s with rcvNxt := s.rcvNxt + 1 }

/-- `TCP_STATE_ESTABLISHED`, the FIN. -/
def processFin (c : TcpConn) (seg : TcpSegment) : TcpConn :=
  if seg.flags.fin then (c.countFin.tcpSetState .closeWait).sendAck else c

/-- `tcp_receive`, `TCP_STATE_ESTABLISHED`. -/
def receiveEstablished (c : TcpConn) (seg : TcpSegment) : TcpConn :=
  ((c.processAck seg).processData seg).processFin seg

/-- Entering `TCP_STATE_TIME_WAIT`. -/
def enterTimeWait (c : TcpConn) : TcpConn :=
  (c.tcpSetState .timeWait).modify fun s => { s with timeWaitStart := c.io.now }

/-- `tcp_receive`, `TCP_STATE_FIN_WAIT_1`. -/
def receiveFinWait1 (c : TcpConn) (seg : TcpSegment) : TcpConn :=
  let acked :=
    if seg.flags.ack ∧ seg.ack = c.sock.sndNxt then c.tcpSetState .finWait2 else c
  if seg.flags.fin then
    let answered := acked.countFin.sendAck
    if answered.sock.state = .finWait2 then answered.enterTimeWait
    else answered.tcpSetState .closing
  else acked

/-- `tcp_receive`, `TCP_STATE_FIN_WAIT_2`. -/
def receiveFinWait2 (c : TcpConn) (seg : TcpSegment) : TcpConn :=
  if seg.flags.fin then c.countFin.enterTimeWait.sendAck else c

/-- `tcp_receive`, `TCP_STATE_CLOSE_WAIT`. -/
def receiveCloseWait (c : TcpConn) (seg : TcpSegment) : TcpConn :=
  if seg.flags.ack then c.modify fun s => { s with sndUna := seg.ack } else c

/-- `tcp_receive`, `TCP_STATE_CLOSING`. -/
def receiveClosing (c : TcpConn) (seg : TcpSegment) : TcpConn :=
  if seg.flags.ack ∧ seg.ack = c.sock.sndNxt then c.enterTimeWait else c

/-- `tcp_receive`, `TCP_STATE_LAST_ACK`. -/
def receiveLastAck (c : TcpConn) (seg : TcpSegment) : TcpConn :=
  if seg.flags.ack ∧ seg.ack = c.sock.sndNxt then (c.tcpSetState .closed).tcpSocketDestroy else c

/-- `tcp_receive`, from the socket found on. -/
def tcpReceive (c : TcpConn) (seg : TcpSegment) : TcpConn :=
  if seg.flags.rst then
    if c.sock.state ≠ .listen then c.tcpSetState .closed else c
  else
    match c.sock.state with
    | .closed => c.tcpSendRst seg.dstIp seg.srcIp seg.dstPort seg.srcPort seg.ack (seg.seq + 1)
    | .listen => c.receiveListen seg
    | .synSent => c.receiveSynSent seg
    | .synReceived => c.receiveSynReceived seg
    | .established => c.receiveEstablished seg
    | .finWait1 => c.receiveFinWait1 seg
    | .finWait2 => c.receiveFinWait2 seg
    | .closeWait => c.receiveCloseWait seg
    | .closing => c.receiveClosing seg
    | .lastAck => c.receiveLastAck seg
    | .timeWait => if seg.flags.fin then c.sendAck else c

/-! ## Timers -/

/-- `tcp_timer_tick` sends the SYN or the SYN-ACK once more. -/
def retransmit (c : TcpConn) : TcpConn :=
  let flags : TcpFlags := if c.sock.state = .synSent then { syn := true }
    else { syn := true, ack := true }
  ((c.modify fun s => { s with retries := s.retries + 1, sndNxt := s.iss }).tcpSendSegment
    flags []).2

/-- `tcp_timer_tick` on one socket. -/
def tickSocket (c : TcpConn) : TcpConn :=
  match c.sock.state with
  | .timeWait =>
    if tcpTimeWaitTimeout ≤ c.io.now - c.sock.timeWaitStart then
      (c.tcpSetState .closed).tcpSocketDestroy
    else c
  | .synSent | .synReceived =>
    if c.sock.rto * (c.sock.retries.toUInt32 + 1) ≤ c.io.now - c.sock.lastActivity then
      if tcpMaxRetries ≤ c.sock.retries then c.tcpAbort else c.retransmit
    else c
  | _ => c

end TcpConn

/-! ## Ring buffers as lists -/

namespace TcpRingBuffer

variable {rb : TcpRingBuffer} {bytes : List UInt8}

/-- The buffered bytes, oldest first. -/
def contents (rb : TcpRingBuffer) : List UInt8 := ringContents rb.size rb.buffer rb.tail rb.used

/-- The buffer holds these bytes. -/
structure Holds (rb : TcpRingBuffer) (bytes : List UInt8) : Prop where
  tail : rb.tail < rb.size
  head : rb.head = (rb.tail + bytes.length) % rb.size
  used : rb.used = bytes.length
  fits : bytes.length ≤ rb.size
  cells : ringContents rb.size rb.buffer rb.tail bytes.length = bytes

lemma Holds.contents_eq (h : rb.Holds bytes) : rb.contents = bytes := by
  rw [contents, h.used, h.cells]

lemma Holds.space (h : rb.Holds bytes) : rb.ringBufferSpace = rb.size - bytes.length := by
  rw [ringBufferSpace, h.used]

lemma Holds.write (h : rb.Holds bytes) (data : List UInt8) :
    (rb.ringBufferWrite data).1 = min data.length rb.ringBufferSpace ∧
      (rb.ringBufferWrite data).2.Holds (bytes ++ data.take rb.ringBufferSpace) := by
  have htake : data.take (min data.length rb.ringBufferSpace) = data.take rb.ringBufferSpace := by
    rw [min_comm]
    exact List.take_eq_take_min.symm
  have hlen : (data.take rb.ringBufferSpace).length = min data.length rb.ringBufferSpace := by
    rw [List.length_take, min_comm]
  have hfits : bytes.length + (data.take rb.ringBufferSpace).length ≤ rb.size := by
    have hspace := h.space
    have hle := h.fits
    rw [hlen]
    omega
  obtain ⟨hcells, hpos⟩ := @ringContents_ringPut _ rb.size rb.buffer rb.tail rb.head bytes.length
    (data.take rb.ringBufferSpace) h.head hfits
  unfold ringBufferWrite
  dsimp only
  rw [htake]
  refine ⟨rfl, h.tail, ?_, ?_, ?_, ?_⟩
  · rw [List.length_append]
    exact hpos
  · rw [List.length_append, hlen, ← h.used]
  · rw [List.length_append]
    exact hfits
  · rw [List.length_append]
    dsimp only
    rw [hcells, h.cells]

lemma Holds.read (h : rb.Holds bytes) (len : Nat) : (rb.ringBufferRead len).1 = bytes.take len ∧
      (rb.ringBufferRead len).2.Holds (bytes.drop len) := by
  have htake : bytes.take (min len bytes.length) = bytes.take len :=
    List.take_eq_take_min.symm
  have hdrop : bytes.drop (min len bytes.length) = bytes.drop len := by
    rcases Nat.le_total len bytes.length with hle | hle
    · rw [min_eq_left hle]
    · rw [min_eq_right hle, List.drop_length, List.drop_eq_nil_of_le hle]
  have hsplit := @ringContents_add _ rb.size rb.buffer rb.tail (min len bytes.length)
    (bytes.length - min len bytes.length)
  rw [Nat.add_sub_cancel' (min_le_right _ _), h.cells] at hsplit
  have hparts := List.append_inj (hsplit.symm.trans (List.take_append_drop (min len bytes.length)
    bytes).symm) (by rw [length_ringContents, List.length_take, min_eq_left (min_le_right _ _)])
  rw [htake, hdrop] at hparts
  have hlen : (bytes.drop len).length = bytes.length - min len bytes.length := by
    rw [← hdrop, List.length_drop]
  unfold ringBufferRead
  dsimp only
  rw [ringTake_eq h.tail, h.used]
  refine ⟨hparts.1, Nat.mod_lt _ (by have := h.tail; omega), ?_, ?_, ?_, ?_⟩
  · dsimp only
    rw [h.head, Nat.mod_add_mod, hlen]
    congr 1
    omega
  · rw [hlen]
  · rw [hlen]
    exact (Nat.sub_le _ _).trans h.fits
  · rw [hlen]
    exact hparts.2

lemma Holds.peek (h : rb.Holds bytes) (len : Nat) : rb.ringBufferPeek len = bytes.take len :=
  (h.read len).1

end TcpRingBuffer

/-! ## What the pieces do -/

namespace TcpConn

variable {c c' : TcpConn} {flags : TcpFlags} {data : List UInt8}

lemma tcpSetState_eq (c : TcpConn) (state : TcpState) : c.tcpSetState state = c.modify fun s => { s with
      state := state
      lastActivity := if s.state = state then s.lastActivity else c.io.now } := by
  unfold tcpSetState
  split_ifs with hsame
  · subst hsame
    simp only [modify, if_pos]
  · simp only [modify, if_neg hsame]

@[simp] lemma tcpSetState_io (c : TcpConn) (state : TcpState) : (c.tcpSetState state).io = c.io := by
  rw [tcpSetState_eq]
  rfl

/-- The segment was not sent: only the outside has moved on. -/
structure Unsent (c c' : TcpConn) : Prop where
  sock : c'.sock = c.sock
  sent : c'.io.sent = c.io.sent
  now : c'.io.now = c.io.now
  freed : c'.freed = c.freed

/-- The segment was sent, and takes its sequence numbers. -/
structure Sent (c c' : TcpConn) (flags : TcpFlags) (data : List UInt8) : Prop where
  sock : c'.sock = { c.sock with sndNxt := c.sock.sndNxt + seqLen flags data }
  sent : c'.io.sent = c.io.sent ++ [c.segment flags data]
  now : c'.io.now = c.io.now
  freed : c'.freed = c.freed

lemma tcpSendSegment_fails (h : c.io.sendFails = true) :
    (c.tcpSendSegment flags data).1 ≠ 0 ∧ Unsent c (c.tcpSendSegment flags data).2 := by
  unfold TcpIo.sendFails at h
  unfold tcpSendSegment
  rcases hmalloc : c.io.kmalloc with ⟨ok, io⟩
  obtain ⟨hsent, hnow, -⟩ := c.io.kmalloc_same
  rw [hmalloc] at h hsent hnow
  cases ok with
  | false => exact ⟨Int.negSucc_ne_zero 0, rfl, hsent, hnow, rfl⟩
  | true =>
    dsimp only at h hsent hnow ⊢
    unfold TcpIo.ipSend
    cases hsends : io.sends with
    | nil =>
      rw [hsends] at h
      cases h
    | cons result rest =>
      rw [hsends] at h
      have hresult : result ≠ 0 := by simpa using h
      simp only [if_true, if_neg hresult]
      exact ⟨hresult, rfl, hsent, hnow, rfl⟩

lemma tcpSendSegment_succeeds (h : c.io.sendFails = false) : (c.tcpSendSegment flags data).1 = 0 ∧
      Sent c (c.tcpSendSegment flags data).2 flags data := by
  unfold TcpIo.sendFails at h
  unfold tcpSendSegment
  rcases hmalloc : c.io.kmalloc with ⟨ok, io⟩
  obtain ⟨hsent, hnow, -⟩ := c.io.kmalloc_same
  rw [hmalloc] at h hsent hnow
  cases ok with
  | false => cases h
  | true =>
    dsimp only at h hsent hnow ⊢
    unfold TcpIo.ipSend
    cases hsends : io.sends with
    | nil =>
      simp only [if_true]
      exact ⟨trivial, rfl, congrArg (· ++ _) hsent, hnow, rfl⟩
    | cons result rest =>
      rw [hsends] at h
      have hresult : result = 0 := by simpa using h
      simp only [if_true, if_pos hresult]
      exact ⟨trivial, rfl, congrArg (· ++ _) hsent, hnow, rfl⟩

/-- **What `tcp_send_segment` does.** -/
lemma tcpSendSegment_cases (c : TcpConn) (flags : TcpFlags) (data : List UInt8) :
    Unsent c (c.tcpSendSegment flags data).2 ∨ Sent c (c.tcpSendSegment flags data).2 flags data := by
  cases h : c.io.sendFails with
  | true => exact .inl (tcpSendSegment_fails h).2
  | false => exact .inr (tcpSendSegment_succeeds h).2

/-- Sending changes `snd_nxt` and no other field. -/
lemma tcpSendSegment_sock (c : TcpConn) (flags : TcpFlags) (data : List UInt8) :
    ∃ n, (c.tcpSendSegment flags data).2.sock = { c.sock with sndNxt := n } := by
  rcases tcpSendSegment_cases c flags data with h | h
  · exact ⟨c.sock.sndNxt, h.sock⟩
  · exact ⟨_, h.sock⟩

/-- `tcp_close` of an open connection begins the FIN exchange. -/
lemma tcpClose_established (h : c.sock.state = .established) : c.tcpClose.sock.state = .finWait1 := by
  unfold tcpClose sendFin
  rw [h]
  dsimp only
  obtain ⟨n, hsock⟩ := tcpSendSegment_sock (c.tcpSetState .finWait1) { fin := true, ack := true } []
  rw [hsock, tcpSetState_eq]
  rfl

@[simp] lemma sendAck_sock (c : TcpConn) : c.sendAck.sock = c.sock := by
  have hnone : c.sock.sndNxt + seqLen { ack := true } [] = c.sock.sndNxt := UInt32.add_zero _
  unfold sendAck
  rcases tcpSendSegment_cases c { ack := true } [] with h | h
  · exact h.sock
  · rw [h.sock, hnone]

lemma tcpSendSegment_freed (c : TcpConn) (flags : TcpFlags) (data : List UInt8) :
    (c.tcpSendSegment flags data).2.freed = c.freed := by
  rcases tcpSendSegment_cases c flags data with h | h
  · exact h.freed
  · exact h.freed

/-- `tcp_output` takes as much from the buffer as it sends. -/
lemma length_peek (s : TcpSocket) : (s.sendBuf.ringBufferPeek (toSend s)).length = toSend s := by
  rw [TcpRingBuffer.ringBufferPeek, length_ringTake]
  unfold toSend
  omega

/-- What `tcp_send` does: nothing, or it writes into the buffer and calls `tcp_output`. -/
lemma tcpSend_cases (c : TcpConn) (data : List UInt8) : ((c.tcpSend data).1.toNat = 0 ∧ (c.tcpSend data).2 = c) ∨
      c.sock.tcpCanSend = true ∧ data ≠ [] ∧ 0 < c.sock.sendBuf.ringBufferSpace ∧
        c.tcpSend data = (((c.sock.sendBuf.ringBufferWrite data).1 : Int),
          (c.modify (·.withData data)).tcpOutput) := by
  unfold tcpSend
  by_cases hcan : c.sock.tcpCanSend = true
  swap
  · rw [if_neg hcan]
    exact .inl ⟨rfl, rfl⟩
  rw [if_pos hcan]
  by_cases hnil : data = []
  · rw [if_pos hnil]
    exact .inl ⟨rfl, rfl⟩
  rw [if_neg hnil]
  dsimp only
  by_cases hfull : (c.sock.sendBuf.ringBufferWrite data).1 = 0
  · rw [if_pos hfull]
    refine .inl ⟨?_, rfl⟩
    dsimp only
    split_ifs
    · rfl
    · rfl
  · have hspace : 0 < c.sock.sendBuf.ringBufferSpace := by
      have hwritten : (c.sock.sendBuf.ringBufferWrite data).1 = min data.length c.sock.sendBuf.ringBufferSpace := rfl
      rw [hwritten] at hfull
      omega
    rw [if_neg hfull]
    exact .inr ⟨hcan, hnil, hspace, rfl⟩

end TcpConn

end AAAos
