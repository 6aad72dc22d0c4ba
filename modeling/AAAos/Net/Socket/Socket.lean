import AAAos.Net.Tcp.Tcp

/-!
# The socket layer

`net/socket/socket.c`: the table of sockets, descriptors, and the calls `socket`, `bind`, `listen`,
`accept`, `connect`, `send`, `recv`, `shutdown` and `socket_close` over the TCP sockets.

An address is given in host byte order.  The heap and the network are those of the TCP layer (`TcpIo`);
a UDP packet takes an allocation and an `ip_send`, and is not in the log of segments.  Left out are the
printing, the statistics other than those of what was received, the options other than SO_REUSEADDR, the
queue that `listen` allocates and nothing uses, and the copies of addresses to the caller.
-/

namespace AAAos

/-! ## Constants -/

/-- `SOCKET_MAX_COUNT`. -/
def socketMaxCount : Nat := 256

/-- `SOCKET_FD_BASE`. -/
def socketFdBase : Int := 1000

/-- `SOCKET_BACKLOG_MAX`. -/
def socketBacklogMax : Int := 128

/-- `SOCKET_BUFFER_SIZE`. -/
def socketBufferSize : Nat := 65536

/-- `sizeof(struct sockaddr_in)`. -/
def sizeofSockaddrIn : UInt32 := 16

/-- `AF_INET`. -/
def afInet : Int := 2

/-- `SOCK_STREAM`. -/
def sockStream : Int := 1

/-- `SOCK_DGRAM`. -/
def sockDgram : Int := 2

/-- `SOCK_RAW`. -/
def sockRaw : Int := 3

/-- `IPPROTO_TCP`. -/
def ipprotoTcp : Int := 6

/-- `IPPROTO_UDP`. -/
def ipprotoUdp : Int := 17

/-- `IPPROTO_RAW`. -/
def ipprotoRaw : Int := 255

/-- `SHUT_RD`. -/
def shutRd : Int := 0

/-- `SHUT_WR`. -/
def shutWr : Int := 1

/-- `SHUT_RDWR`. -/
def shutRdwr : Int := 2

/-- The error numbers that the layer sets.  `EWOULDBLOCK` is `EAGAIN`. -/
inductive SocketErrno
  | none | badf | again | nomem | inval | protonosupport | socktnosupport | opnotsupp | afnosupport
  | addrinuse | netunreach | connreset | isconn | notconn | timedout | connrefused
deriving DecidableEq, Repr

/-- `TCP_ERR_TIMEOUT`. -/
def tcpErrTimeout : Int := -5

/-- `TCP_ERR_CLOSED`. -/
def tcpErrClosed : Int := -9

/-- `socket_state_t`. -/
inductive SocketState
  | unbound | bound | listening | connecting | connected | closing | closed
deriving DecidableEq, Repr

/-! ## Buffers -/

/-- `socket_buffer_t`.  The data is null when the buffer is freed. -/
structure SocketBuffer where
  data : Option (Nat → UInt8) := none
  capacity : Nat := 0
  head : Nat := 0
  tail : Nat := 0
  count : Nat := 0

/-- `socket_buffer_read`: the bytes, and the buffer. -/
def SocketBuffer.socketBufferRead (buf : SocketBuffer) (len : Nat) (peek : Bool) :
    List UInt8 × SocketBuffer :=
  match buf.data with
  | none => ([], buf)
  | some data =>
    let toRead := min len buf.count
    let taken := ringTake buf.capacity data buf.head toRead
    (taken.1, if peek || toRead = 0 then buf
      else { buf with head := taken.2, count := buf.count - toRead })

/-! ## Sockets -/

/-- `struct sockaddr_in`. -/
structure SockaddrIn where
  sinFamily : Int := 0
  sinPort : UInt16 := 0
  sinAddr : UInt32 := 0

/-- `socket_t`. -/
structure Socket where
  fd : Int := 0
  domain : Int := 0
  type : Int := 0
  protocol : Int := 0
  state : SocketState := .unbound
  nonblock : Bool := false
  localAddr : SockaddrIn := {}
  remoteAddr : SockaddrIn := {}
  bound : Bool := false
  sendBuffer : SocketBuffer := {}
  recvBuffer : SocketBuffer := {}
  reuseAddr : Bool := false
  bytesRecv : UInt64 := 0
  packetsRecv : UInt64 := 0
  protoData : Option TcpRef := none
  inUse : Bool := false

/-- The static state of `socket.c` over the TCP sockets.  A socket is named by its place in the
table. -/
structure SocketLayer where
  table : Nat → Socket := fun _ => {}
  nextSocketFd : Int := socketFdBase
  errno : SocketErrno := .none
  nextEphemeral : UInt16 := 49152
  initialized : Bool := false
  tcp : Tcp := {}

namespace SocketLayer

/-- Writing to the fields of a socket. -/
def modify (s : SocketLayer) (i : Nat) (f : Socket → Socket) : SocketLayer :=
  { s with table := Function.update s.table i (f (s.table i)) }

/-- The call fails with an error number. -/
def fail (s : SocketLayer) (errno : SocketErrno) : Int × SocketLayer := (-1, { s with errno := errno })

/-- `fd_to_index`. -/
def fdToIndex (sockfd : Int) : Int :=
  let index := sockfd - socketFdBase
  if index < 0 ∨ socketMaxCount ≤ index then -1 else index

/-- `socket_init`. -/
def socketInit (s : SocketLayer) : SocketLayer :=
  if s.initialized then s
  else
    { s with
      table := fun _ => { fd := -1 }
      nextSocketFd := socketFdBase
      errno := .none
      initialized := true }

/-- The place that `socket_alloc` finds. -/
def freeSlot (s : SocketLayer) : Option Nat :=
  (List.range socketMaxCount).find? fun i => !(s.table i).inUse

/-- `socket_alloc`. -/
def socketAlloc (s : SocketLayer) : Option Nat × SocketLayer :=
  match s.freeSlot with
  | none => (none, s)
  | some i =>
    (some i, { s with
      table := Function.update s.table i { inUse := true, fd := s.nextSocketFd }
      nextSocketFd := s.nextSocketFd + 1 })

/-- `socket_free`. -/
def socketFree (s : SocketLayer) (i : Nat) : SocketLayer :=
  let destroyed :=
    match (s.table i).protoData with
    | some p => if (s.table i).type = sockStream then { s with tcp := s.tcp.tcpSocketDestroy p } else s
    | none => s
  destroyed.modify i fun sock =>
    { sock with
      sendBuffer := {}
      recvBuffer := {}
      protoData := none
      inUse := false
      fd := -1 }

/-- `socket_get`. -/
def socketGet (s : SocketLayer) (sockfd : Int) : Option Nat :=
  let index := fdToIndex sockfd
  if index < 0 then none
  else if (s.table index.toNat).inUse then some index.toNat
  else none

/-- `port_in_use`. -/
def portInUse (s : SocketLayer) (port : UInt16) (type : Int) : Bool :=
  (List.range socketMaxCount).any fun i => (s.table i).inUse && (s.table i).bound &&
    (s.table i).type = type && (s.table i).localAddr.sinPort = port

/-- The loop of `allocate_ephemeral_port`: the port, or 0, and the next one to try.  The next one is
compared with 65535 after it has been cut to 16 bits. -/
def ephemeralLoop (inUse : UInt16 → Bool) : Nat → UInt16 → UInt16 × UInt16
  | 0, next => (0, next)
  | attempts + 1, next =>
    if inUse next then ephemeralLoop inUse attempts (next + 1) else (next, next + 1)

/-- `allocate_ephemeral_port`. -/
def allocateEphemeralPort (s : SocketLayer) (type : Int) : UInt16 × SocketLayer :=
  let (port, next) := ephemeralLoop (s.portInUse · type) 16384 s.nextEphemeral
  (port, { s with nextEphemeral := next })

/-- `kmalloc`. -/
def kmalloc (s : SocketLayer) : Bool × SocketLayer :=
  let (ok, io) := s.tcp.io.kmalloc
  (ok, { s with tcp := { s.tcp with io := io } })

/-- `socket_buffer_init`. -/
def socketBufferInit (s : SocketLayer) : Option SocketBuffer × SocketLayer :=
  let (ok, s) := s.kmalloc
  (if ok then some { data := some fun _ => 0, capacity := socketBufferSize } else none, s)

/-- Both buffers of a socket. -/
def initBuffers (s : SocketLayer) (i : Nat) : Bool × SocketLayer :=
  match s.socketBufferInit with
  | (none, s) => (false, s)
  | (some sendBuffer, s) =>
    let s := s.modify i fun sock => { sock with sendBuffer := sendBuffer }
    match s.socketBufferInit with
    | (none, s) => (false, s)
    | (some recvBuffer, s) =>
      (true, s.modify i fun sock => { sock with recvBuffer := recvBuffer })

/-! ## Calls -/

/-- The protocol that `socket` chooses. -/
def chooseProtocol (type protocol : Int) : Int :=
  if protocol = 0 then
    if type = sockStream then ipprotoTcp else if type = sockDgram then ipprotoUdp else ipprotoRaw
  else protocol

/-- `socket`, from the socket allocated on. -/
def socketSetup (s : SocketLayer) (i : Nat) (domain type protocol : Int) : Int × SocketLayer :=
  let s := s.modify i fun sock => { sock with domain := domain, type := type, protocol := protocol }
  match s.initBuffers i with
  | (false, s) => (s.socketFree i).fail .nomem
  | (true, s) =>
    if type = sockStream then
      match s.tcp.tcpSocketCreate with
      | (none, tcp) => ({ s with tcp := tcp }.socketFree i).fail .nomem
      | (some p, tcp) =>
        let s := { s with tcp := tcp }.modify i fun sock => { sock with protoData := some p }
        ((s.table i).fd, s)
    else ((s.table i).fd, s)

/-- The arguments that `socket` accepts, or the error. -/
def socketArgs (domain type protocol : Int) : SocketErrno :=
  if domain ≠ afInet then .afnosupport
  else if type ≠ sockStream ∧ type ≠ sockDgram ∧ type ≠ sockRaw then .socktnosupport
  else if type = sockStream ∧ chooseProtocol type protocol ≠ ipprotoTcp then .protonosupport
  else if type = sockDgram ∧ chooseProtocol type protocol ≠ ipprotoUdp then .protonosupport
  else .none

/-- `socket`. -/
def socket (s : SocketLayer) (domain type protocol : Int) : Int × SocketLayer :=
  if socketArgs domain type protocol ≠ .none then s.fail (socketArgs domain type protocol)
  else
    match s.socketAlloc with
    | (none, s) => s.fail .nomem
    | (some i, s) => s.socketSetup i domain type (chooseProtocol type protocol)

/-- `bind`. -/
def bind (s : SocketLayer) (sockfd : Int) (sin : SockaddrIn) (addrlen : UInt32) :
    Int × SocketLayer :=
  match s.socketGet sockfd with
  | none => s.fail .badf
  | some i =>
    if addrlen < sizeofSockaddrIn then s.fail .inval
    else if sin.sinFamily ≠ afInet then s.fail .afnosupport
    else if (s.table i).bound then s.fail .inval
    else if sin.sinPort ≠ 0 ∧ (s.table i).reuseAddr = false ∧
        s.portInUse sin.sinPort (s.table i).type then s.fail .addrinuse
    else
      let (port, s) :=
        if sin.sinPort = 0 then s.allocateEphemeralPort (s.table i).type else (sin.sinPort, s)
      if port = 0 then s.fail .addrinuse
      else
        let s := s.modify i fun sock =>
          { sock with localAddr := { sin with sinPort := port }, bound := true, state := .bound }
        match (s.table i).protoData with
        | some p =>
          if (s.table i).type = sockStream then
            let (ret, tcp) := s.tcp.tcpBind p port
            let s := { s with tcp := tcp }
            if ret ≠ tcpOk then
              (s.modify i fun sock => { sock with bound := false, state := .unbound }).fail
                .addrinuse
            else (0, s)
          else (0, s)
        | none => (0, s)

/-- `listen`. -/
def listen (s : SocketLayer) (sockfd : Int) (backlog : Int) : Int × SocketLayer :=
  match s.socketGet sockfd with
  | none => s.fail .badf
  | some i =>
    if (s.table i).type ≠ sockStream then s.fail .opnotsupp
    else if (s.table i).bound = false then s.fail .inval
    else
      let backlog := if backlog ≤ 0 then 1 else backlog
      let backlog := if socketBacklogMax < backlog then socketBacklogMax else backlog
      -- the queue
      match s.kmalloc with
      | (false, s) => s.fail .nomem
      | (true, s) =>
        match (s.table i).protoData with
        | some p =>
          let (ret, tcp) := s.tcp.tcpListen p backlog
          let s := { s with tcp := tcp }
          if ret ≠ tcpOk then s.fail .inval
          else (0, s.modify i fun sock => { sock with state := .listening })
        | none => (0, s.modify i fun sock => { sock with state := .listening })

/-- `accept`, from the socket allocated on. -/
def acceptSetup (s : SocketLayer) (i : Nat) (p : TcpRef) : Int × SocketLayer :=
  let s := s.modify i fun sock =>
    { sock with
      domain := afInet
      type := sockStream
      protocol := ipprotoTcp
      state := .connected
      bound := true
      protoData := some p
      localAddr := ⟨afInet, (s.tcp.blocks p).localPort, (s.tcp.blocks p).localIp⟩
      remoteAddr := ⟨afInet, (s.tcp.blocks p).remotePort, (s.tcp.blocks p).remoteIp⟩ }
  match s.initBuffers i with
  | (false, s) => (s.socketFree i).fail .nomem
  | (true, s) => ((s.table i).fd, s)

/-- The connection that `accept` takes from the TCP layer. -/
def takeConnection (s : SocketLayer) (i : Nat) : Option TcpRef × SocketLayer :=
  match (s.table i).protoData with
  | some p => ((s.tcp.tcpAccept p).1, { s with tcp := (s.tcp.tcpAccept p).2 })
  | none => (none, s)

/-- `accept`. -/
def accept (s : SocketLayer) (sockfd : Int) : Int × SocketLayer :=
  match s.socketGet sockfd with
  | none => s.fail .badf
  | some i =>
    if (s.table i).state ≠ .listening then s.fail .inval
    else
      match s.takeConnection i with
      | (none, s) => s.fail .again
      | (some q, s) =>
        match s.socketAlloc with
        | (none, s) => { s with tcp := s.tcp.tcpSocketDestroy q }.fail .nomem
        | (some j, s) => s.acceptSetup j q

/-- The calls that bind a socket by themselves.  The result is false if there is no port. -/
def autoBind (s : SocketLayer) (i : Nat) : Bool × SocketLayer :=
  if (s.table i).bound then (true, s)
  else
    let (port, s) := s.allocateEphemeralPort (s.table i).type
    if port = 0 then (false, s)
    else
      (true, s.modify i fun sock =>
        { sock with localAddr := ⟨afInet, port, s.tcp.io.ownIp⟩, bound := true })

/-- `connect`, of a TCP socket. -/
def connectStream (s : SocketLayer) (i : Nat) (p : TcpRef) (sin : SockaddrIn) : Int × SocketLayer :=
  let bound :=
    if (s.tcp.blocks p).bound then s
    else { s with tcp := (s.tcp.tcpBind p (s.table i).localAddr.sinPort).2 }
  let s := bound.modify i fun sock => { sock with state := .connecting }
  let (ret, tcp) := s.tcp.tcpConnect p sin.sinAddr sin.sinPort
  let s := { s with tcp := tcp }
  if ret ≠ tcpOk then
    (s.modify i fun sock => { sock with state := .unbound }).fail
      (if ret = tcpErrTimeout then .timedout else .connrefused)
  else (0, s.modify i fun sock => { sock with state := .connected })

/-- `connect`. -/
def connect (s : SocketLayer) (sockfd : Int) (sin : SockaddrIn) (addrlen : UInt32) :
    Int × SocketLayer :=
  match s.socketGet sockfd with
  | none => s.fail .badf
  | some i =>
    if addrlen < sizeofSockaddrIn then s.fail .inval
    else if sin.sinFamily ≠ afInet then s.fail .afnosupport
    else if (s.table i).state = .connected then s.fail .isconn
    else
      match s.autoBind i with
      | (false, s) => s.fail .addrinuse
      | (true, s) =>
        let s := s.modify i fun sock => { sock with remoteAddr := sin }
        if (s.table i).type = sockStream then
          match (s.table i).protoData with
          | none => s.fail .inval
          | some p => s.connectStream i p sin
        else if (s.table i).type = sockDgram then
          (0, s.modify i fun sock => { sock with state := .connected })
        else (0, s)

/-- `sendto`, of a UDP socket to its stored address. -/
def sendDgram (s : SocketLayer) (i : Nat) (data : List UInt8) : Int × SocketLayer :=
  let wasBound := (s.table i).bound
  match s.autoBind i with
  | (false, s) => s.fail .addrinuse
  | (true, s) =>
    let s := if wasBound then s else s.modify i fun sock => { sock with state := .bound }
    match s.kmalloc with
    | (false, s) => s.fail .nomem
    | (true, s) =>
      match s.tcp.io.sends with
      | [] => (data.length, s)
      | result :: rest =>
        let s := { s with tcp := { s.tcp with io := { s.tcp.io with sends := rest } } }
        if result < 0 then s.fail .netunreach else (data.length, s)

/-- `send`. -/
def send (s : SocketLayer) (sockfd : Int) (data : List UInt8) : Int × SocketLayer :=
  match s.socketGet sockfd with
  | none => s.fail .badf
  | some i =>
    if data = [] then (0, s)
    else if (s.table i).state ≠ .connected then s.fail .notconn
    else if (s.table i).type = sockStream then
      match (s.table i).protoData with
      | none => s.fail .notconn
      | some p =>
        let (sent, tcp) := s.tcp.callSocket p (·.tcpSend data)
        let s := { s with tcp := tcp }
        if sent < 0 then
          s.fail (if sent = tcpErrWouldblock then .again
            else if sent = tcpErrNotconn then .notconn else .connreset)
        else (sent, s)
    else if (s.table i).type = sockDgram then s.sendDgram i data
    else (0, s)

/-- The statistics of what was received. -/
def countReceived (s : SocketLayer) (i : Nat) (received : Int) : SocketLayer :=
  if 0 < received then
    s.modify i fun sock =>
      { sock with
        bytesRecv := sock.bytesRecv + UInt64.ofNat received.toNat
        packetsRecv := sock.packetsRecv + 1 }
  else s

/-- `recv`, of a UDP socket (`recvfrom`). -/
def recvDgram (s : SocketLayer) (i : Nat) (len : Nat) (peek : Bool) :
    Int × List UInt8 × SocketLayer :=
  let (bytes, buf) := (s.table i).recvBuffer.socketBufferRead len peek
  let s := s.modify i fun sock => { sock with recvBuffer := buf }
  if bytes = [] then (-1, [], (s.fail .again).2) else (bytes.length, bytes, s.countReceived i bytes.length)

/-- `recv`: the answer, the bytes and the state. -/
def recv (s : SocketLayer) (sockfd : Int) (len : Nat) (peek : Bool) :
    Int × List UInt8 × SocketLayer :=
  match s.socketGet sockfd with
  | none => (-1, [], (s.fail .badf).2)
  | some i =>
    if len = 0 then (0, [], s)
    else if (s.table i).state ≠ .connected ∧ (s.table i).type = sockStream then
      (-1, [], (s.fail .notconn).2)
    else if (s.table i).type = sockStream then
      match (s.table i).protoData with
      | none => (-1, [], (s.fail .notconn).2)
      | some p =>
        let (bytes, buf) := (s.table i).recvBuffer.socketBufferRead len peek
        let s := s.modify i fun sock => { sock with recvBuffer := buf }
        if bytes = [] then
          let ((received, bytes), tcp) := s.tcp.callSocket p fun c =>
            let (received, bytes, c) := c.tcpRecv len
            ((received, bytes), c)
          let s := { s with tcp := tcp }
          if received < 0 then
            if received = tcpErrWouldblock then (-1, [], (s.fail .again).2)
            else if received = tcpErrClosed then (0, [], s)
            else (-1, [], (s.fail .connreset).2)
          else (received, bytes, s.countReceived i received)
        else (bytes.length, bytes, s.countReceived i bytes.length)
    else if (s.table i).type = sockDgram then s.recvDgram i len peek
    else (0, [], s)

/-- `tcp_close` on the TCP socket, if there is one. -/
def closeStream (s : SocketLayer) (i : Nat) : SocketLayer :=
  match (s.table i).protoData with
  | some p => { s with tcp := s.tcp.onSocket p .tcpClose }
  | none => s

/-- `shutdown`. -/
def shutdown (s : SocketLayer) (sockfd : Int) (how : Int) : Int × SocketLayer :=
  match s.socketGet sockfd with
  | none => s.fail .badf
  | some i =>
    if how ≠ shutRd ∧ how ≠ shutWr ∧ how ≠ shutRdwr then s.fail .inval
    else if (s.table i).type ≠ sockStream then s.fail .opnotsupp
    else
      let s := if how = shutWr ∨ how = shutRdwr then s.closeStream i else s
      (0, if how = shutRdwr then s.modify i fun sock => { sock with state := .closing } else s)

/-- `socket_close`. -/
def socketClose (s : SocketLayer) (sockfd : Int) : Int × SocketLayer :=
  match s.socketGet sockfd with
  | none => s.fail .badf
  | some i =>
    let s := if (s.table i).type = sockStream then s.closeStream i else s
    (0, (s.modify i fun sock => { sock with state := .closed }).socketFree i)

/-- `setsockopt` with SO_REUSEADDR. -/
def setReuseAddr (s : SocketLayer) (sockfd : Int) (reuseAddr : Bool) : Int × SocketLayer :=
  match s.socketGet sockfd with
  | none => s.fail .badf
  | some i => (0, s.modify i fun sock => { sock with reuseAddr := reuseAddr })

end SocketLayer

/-! ## Events -/

/-- The calls, the timer, incoming segments, and changes outside. -/
inductive SocketEvent
  | socket (domain type protocol : Int)
  | bind (sockfd : Int) (sin : SockaddrIn) (addrlen : UInt32)
  | listen (sockfd : Int) (backlog : Int)
  | accept (sockfd : Int)
  | connect (sockfd : Int) (sin : SockaddrIn) (addrlen : UInt32)
  | send (sockfd : Int) (data : List UInt8)
  | recv (sockfd : Int) (len : Nat) (peek : Bool)
  | shutdown (sockfd : Int) (how : Int)
  | close (sockfd : Int)
  | setReuseAddr (sockfd : Int) (reuseAddr : Bool)
  | receive (seg : TcpSegment)
  | tick
  | outside (now ownIp : UInt32) (allocs : List Bool) (sends : List Int)

namespace SocketLayer

/-- The answer of the call (0 where there is none), and the state after the event. -/
def call (s : SocketLayer) : SocketEvent → Int × SocketLayer
  | .socket domain type protocol => s.socket domain type protocol
  | .bind sockfd sin addrlen => s.bind sockfd sin addrlen
  | .listen sockfd backlog => s.listen sockfd backlog
  | .accept sockfd => s.accept sockfd
  | .connect sockfd sin addrlen => s.connect sockfd sin addrlen
  | .send sockfd data => s.send sockfd data
  | .recv sockfd len peek => ((s.recv sockfd len peek).1, (s.recv sockfd len peek).2.2)
  | .shutdown sockfd how => s.shutdown sockfd how
  | .close sockfd => s.socketClose sockfd
  | .setReuseAddr sockfd reuseAddr => s.setReuseAddr sockfd reuseAddr
  | .receive seg => (0, { s with tcp := (s.tcp.tcpReceive seg).2 })
  | .tick => (0, { s with tcp := s.tcp.tcpTimerTick })
  | .outside now ownIp allocs sends =>
    (0, { s with tcp := s.tcp.apply (.outside now ownIp allocs sends) })

/-- The machine after `tcp_init` and `socket_init`, with any outside. -/
def boot (io : TcpIo) : SocketLayer := socketInit { tcp := Tcp.tcpInit { io := io } }

end SocketLayer

end AAAos
