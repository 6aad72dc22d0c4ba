import AAAos.Lib.Trace
import AAAos.Net.Tcp.TcpSocket

/-!
# The TCP sockets of the machine

`net/tcp/tcp.c`, the part that works on all sockets: the list of sockets, ephemeral ports, initial
sequence numbers, `tcp_receive` up to the socket it finds, and the timer loop.

A socket is a block of the heap, named by a number.  Blocks are numbered as they are allocated, and a
number is not used again.  `destroyed` lists the blocks passed to `tcp_socket_destroy`.

The second half takes an event of the machine apart into calls on single sockets (`Performs`), so that
what all calls keep is kept by the machine (`apply_invariant`, `apply_keeps`).
-/

namespace AAAos

/-- A block of the heap that holds a socket. -/
abbrev TcpRef := Nat

/-- The static state of `tcp.c`, the sockets, and the outside. -/
structure Tcp where
  blocks : TcpRef → TcpSocket := fun _ => {}
  fresh : TcpRef := 0
  list : List TcpRef := []
  nextEphemeralPort : UInt16 := 49152
  isnCounter : UInt32 := 0
  io : TcpIo := {}
  destroyed : List TcpRef := []

namespace Tcp

/-! ## Sockets -/

/-- `tcp_socket_list_remove`.  A block that has left the list before has null links, and the head of
the list is overwritten with null. -/
def tcpSocketListRemove (t : Tcp) (p : TcpRef) : Tcp :=
  { t with list := if p ∈ t.list then t.list.erase p else [] }

/-- A call on one socket.  When the call destroys the socket, the block leaves the list. -/
def onSocket (t : Tcp) (p : TcpRef) (f : TcpConn → TcpConn) : Tcp :=
  let c := f { sock := t.blocks p, io := t.io }
  let called := { t with blocks := Function.update t.blocks p c.sock, io := c.io }
  if c.freed then { called.tcpSocketListRemove p with destroyed := t.destroyed ++ [p] } else called

/-- A call on one socket that has an answer. -/
def callSocket {α : Type} (t : Tcp) (p : TcpRef) (f : TcpConn → α × TcpConn) : α × Tcp :=
  ((f { sock := t.blocks p, io := t.io }).1, t.onSocket p fun c => (f c).2)

/-- `tcp_generate_isn`. -/
def tcpGenerateIsn (t : Tcp) : UInt32 × Tcp :=
  ((t.isnCounter + 64000) ^^^ (t.io.now * 1103515245), { t with isnCounter := t.isnCounter + 64000 })

/-- `tcp_init`. -/
def tcpInit (t : Tcp) : Tcp :=
  let generated := { t with list := [], nextEphemeralPort := 49152 }.tcpGenerateIsn
  { generated.2 with isnCounter := generated.1 }

/-- `tcp_socket_create`: the socket and its two buffers are allocated. -/
def tcpSocketCreate (t : Tcp) : Option TcpRef × Tcp :=
  let (sockOk, io) := t.io.kmalloc
  if sockOk then
    let (sendOk, io) := io.kmalloc
    if sendOk then
      let (recvOk, io) := io.kmalloc
      if recvOk then
        (some t.fresh, { t with
          blocks := Function.update t.blocks t.fresh { lastActivity := io.now }
          fresh := t.fresh + 1
          list := t.fresh :: t.list
          io := io })
      else (none, { t with io := io })
    else (none, { t with io := io })
  else (none, { t with io := io })

/-- `tcp_socket_destroy`. -/
def tcpSocketDestroy (t : Tcp) (p : TcpRef) : Tcp := t.onSocket p .tcpSocketDestroy

/-- The loop of `tcp_alloc_ephemeral_port`: the port, or 0, and the next one to try.  It has come round
to `start` after as many steps as there are ports. -/
def ephemeralLoop (inUse : UInt16 → Bool) (start : UInt16) : Nat → UInt16 → UInt16 × UInt16
  | 0, port => (0, port)
  | fuel + 1, port =>
    let next := if 65535 ≤ port + 1 then 49152 else port + 1
    if !inUse port then (port, next)
    else if next ≠ start then ephemeralLoop inUse start fuel next
    else (0, next)

/-- `tcp_alloc_ephemeral_port`. -/
def tcpAllocEphemeralPort (t : Tcp) : UInt16 × Tcp :=
  let (port, next) := ephemeralLoop (fun port => t.list.any fun s => (t.blocks s).localPort = port)
    t.nextEphemeralPort 65536 t.nextEphemeralPort
  (port, { t with nextEphemeralPort := next })

/-- `tcp_bind` finds the port taken by another socket. -/
def portTaken (t : Tcp) (p : TcpRef) (port : UInt16) : Bool :=
  t.list.any fun s => s ≠ p ∧ (t.blocks s).localPort = port ∧
    ((t.blocks s).state = .listen ∨ (t.blocks s).bound = true)

/-- `tcp_bind`. -/
def tcpBind (t : Tcp) (p : TcpRef) (port : UInt16) : Int × Tcp :=
  if (t.blocks p).bound then (tcpErrInvalid, t)
  else if port = 0 then
    let (chosen, t) := t.tcpAllocEphemeralPort
    if chosen = 0 then (tcpErrInuse, t) else (tcpOk, t.onSocket p (·.bindTo chosen))
  else if t.portTaken p port then (tcpErrInuse, t)
  else (tcpOk, t.onSocket p (·.bindTo port))

/-- `tcp_listen`. -/
def tcpListen (t : Tcp) (p : TcpRef) (backlog : Int) : Int × Tcp :=
  t.callSocket p (·.tcpListen backlog)

/-- `tcp_accept`. -/
def tcpAccept (t : Tcp) (p : TcpRef) : Option TcpRef × Tcp :=
  if (t.blocks p).state ≠ .listen then (none, t)
  else
    match (t.blocks p).pending with
    | [] => (none, t)
    | pending :: _ =>
      match t.tcpSocketCreate with
      | (none, t) => (none, t)
      | (some q, t) =>
        let (iss, t) := t.tcpGenerateIsn
        let started := t.onSocket q (·.startAccept (t.blocks p) pending iss)
        (some q, started.onSocket p .dropPending)

/-- `tcp_connect`. -/
def tcpConnect (t : Tcp) (p : TcpRef) (remoteIp : UInt32) (remotePort : UInt16) : Int × Tcp :=
  if (t.blocks p).state ≠ .closed then (tcpErrInvalid, t)
  else
    let (result, t) := if (t.blocks p).bound then (tcpOk, t) else t.tcpBind p 0
    if result ≠ tcpOk then (result, t)
    else
      let (iss, t) := t.tcpGenerateIsn
      t.callSocket p (·.startConnect iss remoteIp remotePort)

/-! ## Segments and timers -/

/-- `tcp_find_socket`. -/
def tcpFindSocket (t : Tcp) (localIp : UInt32) (localPort : UInt16) (remoteIp : UInt32)
    (remotePort : UInt16) : Option TcpRef :=
  t.list.find? fun s =>
    (t.blocks s).localPort = localPort ∧ (t.blocks s).remotePort = remotePort ∧
      ((t.blocks s).localIp = localIp ∨ (t.blocks s).localIp = 0) ∧ (t.blocks s).remoteIp = remoteIp

/-- `tcp_find_listener`. -/
def tcpFindListener (t : Tcp) (port : UInt16) : Option TcpRef :=
  t.list.find? fun s => (t.blocks s).state = .listen ∧ (t.blocks s).localPort = port

/-- The socket that `tcp_receive` finds. -/
def findFor (t : Tcp) (seg : TcpSegment) : Option TcpRef :=
  (t.tcpFindSocket seg.dstIp seg.dstPort seg.srcIp seg.srcPort).or (t.tcpFindListener seg.dstPort)

/-- The socket that a segment reaches, if there is memory to check its checksum. -/
def reaches (t : Tcp) (seg : TcpSegment) : Option TcpRef :=
  if t.io.kmalloc.1 then t.findFor seg else none

/-- `tcp_receive`.  The allocation is for the checksum. -/
def tcpReceive (t : Tcp) (seg : TcpSegment) : Int × Tcp :=
  let (ok, io) := t.io.kmalloc
  let t := { t with io := io }
  if ok then
    match t.findFor seg with
    | some p => (0, t.onSocket p (·.tcpReceive seg))
    | none =>
      if seg.flags.rst then (-1, t)
      else if seg.flags.ack then
        (-1, { t with io :=
          t.io.tcpSendRst seg.dstIp seg.srcIp seg.dstPort seg.srcPort seg.ack 0 })
      else
        (-1, { t with io :=
          t.io.tcpSendRst seg.dstIp seg.srcIp seg.dstPort seg.srcPort 0 (seg.seq + 1) })
  else (-1, t)

/-- The loop of `tcp_timer_tick`.  A socket's successor is read before the socket is destroyed, so the
loop goes over the list as it was. -/
def tickLoop (t : Tcp) (sockets : List TcpRef) : Tcp :=
  sockets.foldl (fun t p => t.onSocket p .tickSocket) t

/-- `tcp_timer_tick`. -/
def tcpTimerTick (t : Tcp) : Tcp := t.tickLoop t.list

end Tcp

/-! ## Events -/

/-- The calls, the timer, incoming segments, and changes outside. -/
inductive TcpEvent
  | create
  | bind (p : TcpRef) (port : UInt16)
  | listen (p : TcpRef) (backlog : Int)
  | accept (p : TcpRef)
  | connect (p : TcpRef) (remoteIp : UInt32) (remotePort : UInt16)
  | send (p : TcpRef) (data : List UInt8)
  | recv (p : TcpRef) (maxLen : Nat)
  | close (p : TcpRef)
  | abort (p : TcpRef)
  | output (p : TcpRef)
  | setNonblock (p : TcpRef) (nonblock : Bool)
  | receive (seg : TcpSegment)
  | tick
  | outside (now ownIp : UInt32) (allocs : List Bool) (sends : List Int)

/-- The socket that a call names. -/
def TcpEvent.socket : TcpEvent → Option TcpRef
  | .bind p _ | .listen p _ | .accept p | .connect p _ _ | .send p _ | .recv p _ | .close p
  | .abort p | .output p | .setNonblock p _ => some p
  | .create | .receive _ | .tick | .outside .. => none

namespace Tcp

def apply (t : Tcp) : TcpEvent → Tcp
  | .create => t.tcpSocketCreate.2
  | .bind p port => (t.tcpBind p port).2
  | .listen p backlog => (t.tcpListen p backlog).2
  | .accept p => (t.tcpAccept p).2
  | .connect p remoteIp remotePort => (t.tcpConnect p remoteIp remotePort).2
  | .send p data => t.onSocket p fun c => (c.tcpSend data).2
  | .recv p maxLen => t.onSocket p fun c => (c.tcpRecv maxLen).2.2
  | .close p => t.onSocket p .tcpClose
  | .abort p => t.onSocket p .tcpAbort
  | .output p => t.onSocket p .tcpOutput
  | .setNonblock p nonblock => t.onSocket p (·.modify fun s => { s with nonblock := nonblock })
  | .receive seg => (t.tcpReceive seg).2
  | .tick => t.tcpTimerTick
  | .outside now ownIp allocs sends =>
    { t with io := { t.io with now := now, ownIp := ownIp, allocs := allocs, sends := sends } }

/-- Calls are made on sockets of the list. -/
def Step (t : Tcp) (e : TcpEvent) (t' : Tcp) : Prop :=
  t' = t.apply e ∧ ∀ p, e.socket = some p → p ∈ t.list

/-! ## Calls on single sockets -/

variable {t t' : Tcp} {e : TcpEvent} {p q : TcpRef} {f : TcpConn → TcpConn}

@[simp] lemma onSocket_self (t : Tcp) (p : TcpRef) (f : TcpConn → TcpConn) :
    (t.onSocket p f).blocks p = (f { sock := t.blocks p, io := t.io }).sock := by
  unfold onSocket
  dsimp only
  split_ifs
  · exact Function.update_self _ _ _
  · exact Function.update_self _ _ _

lemma onSocket_of_ne (h : q ≠ p) : (t.onSocket p f).blocks q = t.blocks q := by
  unfold onSocket
  dsimp only
  split_ifs
  · exact Function.update_of_ne h _ _
  · exact Function.update_of_ne h _ _

@[simp] lemma onSocket_io (t : Tcp) (p : TcpRef) (f : TcpConn → TcpConn) :
    (t.onSocket p f).io = (f { sock := t.blocks p, io := t.io }).io := by
  unfold onSocket
  dsimp only
  split_ifs
  · rfl
  · rfl

@[simp] lemma onSocket_fresh (t : Tcp) (p : TcpRef) (f : TcpConn → TcpConn) : (t.onSocket p f).fresh = t.fresh := by
  unfold onSocket
  dsimp only
  split_ifs
  · rfl
  · rfl

lemma onSocket_list (hp : p ∈ t.list) : (t.onSocket p f).list =
    if (f { sock := t.blocks p, io := t.io }).freed then t.list.erase p else t.list := by
  unfold onSocket
  dsimp only
  split_ifs
  · exact if_pos hp
  · rfl

/-- The numbers of the list are below the next one, and differ. -/
structure Wf (t : Tcp) : Prop where
  nodup : t.list.Nodup
  lt : ∀ p ∈ t.list, p < t.fresh

/-- The socket is not bound, and no other socket has the port. -/
structure PortFree (t : Tcp) (p : TcpRef) (port : UInt16) : Prop where
  unbound : (t.blocks p).bound = false
  nonzero : port ≠ 0
  free : ∀ q ∈ t.list, q ≠ p → (t.blocks q).localPort = port →
    (t.blocks q).state ≠ .listen ∧ (t.blocks q).bound = false

lemma ephemeralLoop_free {inUse : UInt16 → Bool} {start : UInt16} (fuel : Nat) (port : UInt16)
    (h : (ephemeralLoop inUse start fuel port).1 ≠ 0) :
    inUse (ephemeralLoop inUse start fuel port).1 = false := by
  induction fuel generalizing port with
  | zero => exact absurd rfl h
  | succ fuel ih =>
    unfold ephemeralLoop at h ⊢
    dsimp only at h ⊢
    generalize (if 65535 ≤ port + 1 then 49152 else port + 1) = next at h ⊢
    split_ifs at h ⊢ with hfree
    · simpa using hfree
    · exact ih _ h
    · exact absurd rfl h

/-- What `tcp_bind` does: nothing to the sockets, or it binds the socket to a free port. -/
lemma tcpBind_cases (t : Tcp) (p : TcpRef) (port : UInt16) :
    ((t.tcpBind p port).1 ≠ tcpOk ∧ ∃ next, (t.tcpBind p port).2 = { t with nextEphemeralPort := next }) ∨
      ((t.tcpBind p port).1 = tcpOk ∧ ∃ chosen next, t.PortFree p chosen ∧ (t.tcpBind p port).2 =
          { t with nextEphemeralPort := next }.onSocket p (·.bindTo chosen)) := by
  unfold tcpBind
  split_ifs with hbound hzero htaken
  · exact .inl ⟨show tcpErrInvalid ≠ tcpOk by decide, t.nextEphemeralPort, rfl⟩
  · rw [Bool.not_eq_true] at hbound
    unfold tcpAllocEphemeralPort
    have hfree := @ephemeralLoop_free (fun port => t.list.any fun s => (t.blocks s).localPort = port)
      t.nextEphemeralPort 65536 t.nextEphemeralPort
    rcases hloop : ephemeralLoop (fun port => t.list.any fun s => (t.blocks s).localPort = port)
      t.nextEphemeralPort 65536 t.nextEphemeralPort with ⟨chosen, next⟩
    rw [hloop] at hfree
    dsimp only at hfree ⊢
    split_ifs with hnone
    · exact .inl ⟨show tcpErrInuse ≠ tcpOk by decide, next, rfl⟩
    · refine .inr ⟨rfl, chosen, next, ⟨hbound, hnone, fun q hq _ hport => ?_⟩, rfl⟩
      have hany := hfree hnone
      rw [List.any_eq_false] at hany
      exact absurd (decide_eq_true hport) (hany q hq)
  · exact .inl ⟨show tcpErrInuse ≠ tcpOk by decide, t.nextEphemeralPort, rfl⟩
  · rw [Bool.not_eq_true] at hbound
    refine .inr ⟨rfl, port, t.nextEphemeralPort, ⟨hbound, hzero, fun q hq hne hport => ?_⟩, rfl⟩
    unfold portTaken at htaken
    rw [Bool.not_eq_true, List.any_eq_false] at htaken
    have hnot := htaken q hq
    rw [decide_eq_true_eq] at hnot
    constructor
    · exact fun hstate => hnot ⟨hne, hport, .inl hstate⟩
    · exact Bool.not_eq_true _ ▸ fun hb => hnot ⟨hne, hport, .inr hb⟩

/-- What `tcp_socket_create` does: nothing to the sockets, or a new socket heads the list. -/
lemma tcpSocketCreate_cases (t : Tcp) :
    (∃ io, (t.tcpSocketCreate = (none, { t with io := io })) ∧ io.sent = t.io.sent) ∨
      ∃ io, t.tcpSocketCreate = (some t.fresh, { t with
        blocks := Function.update t.blocks t.fresh { lastActivity := io.now }
        fresh := t.fresh + 1
        list := t.fresh :: t.list
        io := io }) ∧ io.sent = t.io.sent := by
  unfold tcpSocketCreate
  have h₁ := t.io.kmalloc_same
  rcases hfirst : t.io.kmalloc with ⟨ok₁, io₁⟩
  rw [hfirst] at h₁
  have h₂ := io₁.kmalloc_same
  rcases hsecond : io₁.kmalloc with ⟨ok₂, io₂⟩
  rw [hsecond] at h₂
  have h₃ := io₂.kmalloc_same
  rcases hthird : io₂.kmalloc with ⟨ok₃, io₃⟩
  rw [hthird] at h₃
  dsimp only at h₁ h₂ h₃ ⊢
  cases ok₁ with
  | false => exact .inl ⟨io₁, rfl, h₁.1⟩
  | true =>
    rw [if_pos rfl, hsecond]
    dsimp only
    cases ok₂ with
    | false => exact .inl ⟨io₂, rfl, h₂.1.trans h₁.1⟩
    | true =>
      rw [if_pos rfl, hthird]
      dsimp only
      cases ok₃ with
      | false => exact .inl ⟨io₃, rfl, h₃.1.trans (h₂.1.trans h₁.1)⟩
      | true => exact .inr ⟨io₃, rfl, h₃.1.trans (h₂.1.trans h₁.1)⟩

end Tcp

/-- The calls that an event makes on single sockets.  A `connect` that has to bind first is one
call. -/
inductive SockCall
  | bindTo (port : UInt16)
  | listen (backlog : Int)
  | startAccept (listener : TcpSocket) (pending : TcpPendingConn) (iss : UInt32)
  | dropPending
  | connect (port : Option UInt16) (iss remoteIp : UInt32) (remotePort : UInt16)
  | send (data : List UInt8)
  | recv (maxLen : Nat)
  | close
  | abort
  | output
  | setNonblock (nonblock : Bool)
  | segment (seg : TcpSegment)
  | tick

def TcpConn.call (c : TcpConn) : SockCall → TcpConn
  | .bindTo port => c.bindTo port
  | .listen backlog => (c.tcpListen backlog).2
  | .startAccept listener pending iss => c.startAccept listener pending iss
  | .dropPending => c.dropPending
  | .connect none iss remoteIp remotePort => (c.startConnect iss remoteIp remotePort).2
  | .connect (some port) iss remoteIp remotePort =>
    ((c.bindTo port).startConnect iss remoteIp remotePort).2
  | .send data => (c.tcpSend data).2
  | .recv maxLen => (c.tcpRecv maxLen).2.2
  | .close => c.tcpClose
  | .abort => c.tcpAbort
  | .output => c.tcpOutput
  | .setNonblock nonblock => c.modify fun s => { s with nonblock := nonblock }
  | .segment seg => c.tcpReceive seg
  | .tick => c.tickSocket

/-- In this state, the event makes a call on socket `p`, which is then `s`. -/
inductive Performs (t : Tcp) : TcpEvent → TcpRef → TcpSocket → SockCall → Prop
  | bind {p : TcpRef} {port chosen : UInt16} (hfree : t.PortFree p chosen) :
      Performs t (.bind p port) p (t.blocks p) (.bindTo chosen)
  | listen (p : TcpRef) (backlog : Int) :
      Performs t (.listen p backlog) p (t.blocks p) (.listen backlog)
  | accepted {p : TcpRef} {pending : TcpPendingConn} {rest : List TcpPendingConn}
      (hlisten : (t.blocks p).state = .listen) (hpending : (t.blocks p).pending = pending :: rest)
      (iss now : UInt32) :
      Performs t (.accept p) t.fresh { lastActivity := now } (.startAccept (t.blocks p) pending iss)
  | accept {p : TcpRef} {pending : TcpPendingConn} {rest : List TcpPendingConn}
      (hlisten : (t.blocks p).state = .listen) (hpending : (t.blocks p).pending = pending :: rest) :
      Performs t (.accept p) p (t.blocks p) .dropPending
  | connect {p : TcpRef} (hclosed : (t.blocks p).state = .closed)
      (hbound : (t.blocks p).bound = true) (iss remoteIp : UInt32) (remotePort : UInt16) :
      Performs t (.connect p remoteIp remotePort) p (t.blocks p)
        (.connect none iss remoteIp remotePort)
  | bindConnect {p : TcpRef} {chosen : UInt16} (hclosed : (t.blocks p).state = .closed)
      (hfree : t.PortFree p chosen) (iss remoteIp : UInt32) (remotePort : UInt16) :
      Performs t (.connect p remoteIp remotePort) p (t.blocks p)
        (.connect (some chosen) iss remoteIp remotePort)
  | send (p : TcpRef) (data : List UInt8) : Performs t (.send p data) p (t.blocks p) (.send data)
  | recv (p : TcpRef) (maxLen : Nat) : Performs t (.recv p maxLen) p (t.blocks p) (.recv maxLen)
  | close (p : TcpRef) : Performs t (.close p) p (t.blocks p) .close
  | abort (p : TcpRef) : Performs t (.abort p) p (t.blocks p) .abort
  | output (p : TcpRef) : Performs t (.output p) p (t.blocks p) .output
  | setNonblock (p : TcpRef) (nonblock : Bool) :
      Performs t (.setNonblock p nonblock) p (t.blocks p) (.setNonblock nonblock)
  | receive {p : TcpRef} {seg : TcpSegment} (hfound : t.reaches seg = some p) :
      Performs t (.receive seg) p (t.blocks p) (.segment seg)
  | tick {p : TcpRef} (hp : p ∈ t.list) : Performs t .tick p (t.blocks p) .tick

namespace Tcp

variable {t t' : Tcp} {e : TcpEvent} {p q : TcpRef} {f : TcpConn → TcpConn}
  {P : TcpRef → TcpSocket → Prop} {Q : TcpSegment → Prop}

/-- The sockets of the list have one property, and all segments sent another. -/
structure Holds (P : TcpRef → TcpSocket → Prop) (Q : TcpSegment → Prop) (t : Tcp) : Prop where
  blocks : ∀ p ∈ t.list, P p (t.blocks p)
  sent : ∀ seg ∈ t.io.sent, Q seg

/-- The call on this socket keeps the properties, whatever the outside does. -/
def CallKeeps (P : TcpRef → TcpSocket → Prop) (Q : TcpSegment → Prop) (p : TcpRef) (s : TcpSocket)
    (f : TcpConn → TcpConn) : Prop :=
  ∀ io : TcpIo, (∀ seg ∈ io.sent, Q seg) →
    P p (f { sock := s, io := io }).sock ∧ ∀ seg ∈ (f { sock := s, io := io }).io.sent, Q seg

lemma onSocket_sublist (t : Tcp) (p : TcpRef) (f : TcpConn → TcpConn) : (t.onSocket p f).list.Sublist t.list := by
  unfold onSocket tcpSocketListRemove
  dsimp only
  split_ifs
  · exact List.erase_sublist
  · exact List.nil_sublist _
  · exact List.Sublist.refl _

lemma Holds.onSocket (h : t.Holds P Q) (hcall : CallKeeps P Q p (t.blocks p) f) : (t.onSocket p f).Holds P Q := by
  obtain ⟨hself, hsent⟩ := hcall t.io h.sent
  refine ⟨fun q hmem => ?_, by rw [onSocket_io]; exact hsent⟩
  by_cases hq : q = p
  · subst hq
    rw [onSocket_self]
    exact hself
  · rw [onSocket_of_ne hq]
    exact h.blocks q ((onSocket_sublist t p f).subset hmem)

lemma mem_onSocket_of_ne (hp : p ∈ t.list) (hq : q ∈ t.list) (hne : q ≠ p) : q ∈ (t.onSocket p f).list := by
  rw [onSocket_list hp]
  split_ifs
  · exact (List.mem_erase_of_ne hne).mpr hq
  · exact hq

lemma mem_of_reaches {seg : TcpSegment} (h : t.reaches seg = some p) : p ∈ t.list := by
  unfold reaches at h
  split_ifs at h
  unfold findFor at h
  rcases Option.or_eq_some_iff.mp h with hfound | ⟨-, hfound⟩
  · exact List.mem_of_find?_eq_some hfound
  · exact List.mem_of_find?_eq_some hfound

lemma sock_of_performs {s : TcpSocket} {call : SockCall} (h : Performs t e p s call)
    (hguard : ∀ p, e.socket = some p → p ∈ t.list) :
    (p ∈ t.list ∧ s = t.blocks p) ∨ (p = t.fresh ∧ ∃ now, s = { lastActivity := now }) := by
  cases h with
  | accepted hlisten hpending iss now => exact .inr ⟨rfl, now, rfl⟩
  | receive hfound => exact .inl ⟨mem_of_reaches hfound, rfl⟩
  | tick hp => exact .inl ⟨hp, rfl⟩
  | _ => exact .inl ⟨hguard _ rfl, rfl⟩

lemma onSocket_onSocket {g : TcpConn → TcpConn} (h : (f { sock := t.blocks p, io := t.io }).freed = false) :
    (t.onSocket p f).onSocket p g = t.onSocket p fun c => g (f c) := by
  have hconn : ∀ c : TcpConn, c.freed = false → { sock := c.sock, io := c.io } = c := by
    intro c hc
    rw [← hc]
  have hfirst : t.onSocket p f = { t with
      blocks := Function.update t.blocks p (f { sock := t.blocks p, io := t.io }).sock
      io := (f { sock := t.blocks p, io := t.io }).io } := by
    unfold onSocket
    dsimp only
    rw [if_neg (by rw [h]; decide)]
  rw [hfirst]
  unfold onSocket
  dsimp only
  rw [Function.update_self, hconn _ h, Function.update_idem]

/-- What `tcp_connect` does: nothing to the sockets, or one call on the socket. -/
lemma tcpConnect_cases (t : Tcp) (p : TcpRef) (remoteIp : UInt32) (remotePort : UInt16) :
    ∃ next isn, (t.tcpConnect p remoteIp remotePort).2 = { t with nextEphemeralPort := next, isnCounter := isn } ∨
      ∃ call, Performs t (.connect p remoteIp remotePort) p (t.blocks p) call ∧
        (t.tcpConnect p remoteIp remotePort).2 =
          { t with nextEphemeralPort := next, isnCounter := isn }.onSocket p (·.call call) := by
  unfold tcpConnect
  by_cases hstate : (t.blocks p).state = .closed
  swap
  · rw [if_pos hstate]
    exact ⟨t.nextEphemeralPort, t.isnCounter, .inl rfl⟩
  rw [if_neg (not_not.mpr hstate)]
  by_cases hbound : (t.blocks p).bound = true
  · rw [if_pos hbound]
    refine ⟨t.nextEphemeralPort, t.isnCounter + 64000, .inr ⟨_, .connect hstate hbound
      t.tcpGenerateIsn.1 remoteIp remotePort, ?_⟩⟩
    dsimp only
    rw [if_neg (not_not.mpr rfl)]
    rfl
  · rw [if_neg hbound]
    rcases hbind : t.tcpBind p 0 with ⟨result, u⟩
    have hcases := t.tcpBind_cases p 0
    rw [hbind] at hcases
    rcases hcases with ⟨hfail, next, heq⟩ | ⟨hok, chosen, next, hfree, heq⟩
    · dsimp only at hfail heq ⊢
      rw [if_pos hfail, heq]
      exact ⟨next, t.isnCounter, .inl rfl⟩
    · dsimp only at hok heq ⊢
      rw [if_neg (not_not.mpr hok), heq]
      refine ⟨next, t.isnCounter + 64000, .inr ⟨_, .bindConnect hstate hfree
        u.tcpGenerateIsn.1 remoteIp remotePort, ?_⟩⟩
      have hcounter : ({ t with nextEphemeralPort := next }.onSocket p (·.bindTo chosen)).tcpGenerateIsn.2 =
          { t with nextEphemeralPort := next, isnCounter := t.isnCounter + 64000 }.onSocket p
            (·.bindTo chosen) := rfl
      unfold callSocket
      dsimp only
      rw [hcounter, onSocket_onSocket rfl, heq]
      rfl

/-- A new socket heads the list. -/
def withNew (t : Tcp) (io : TcpIo) : Tcp :=
  { t with
    blocks := Function.update t.blocks t.fresh { lastActivity := io.now }
    fresh := t.fresh + 1
    list := t.fresh :: t.list
    io := io }

/-- What `tcp_accept` does: nothing to the sockets, or there is a new one for the first request. -/
lemma tcpAccept_cases (t : Tcp) (p : TcpRef) :
    (∃ io, io.sent = t.io.sent ∧ t.tcpAccept p = (none, { t with io := io })) ∨
      ∃ pending rest io isn iss, (t.blocks p).state = .listen ∧
        (t.blocks p).pending = pending :: rest ∧ io.sent = t.io.sent ∧
        t.tcpAccept p = (some t.fresh, ({ t.withNew io with isnCounter := isn }.onSocket t.fresh
          (·.startAccept ((t.withNew io).blocks p) pending iss)).onSocket p .dropPending) := by
  unfold tcpAccept
  by_cases hstate : (t.blocks p).state = .listen
  swap
  · rw [if_pos hstate]
    exact .inl ⟨t.io, rfl, rfl⟩
  rw [if_neg (not_not.mpr hstate)]
  cases hpending : (t.blocks p).pending with
  | nil => exact .inl ⟨t.io, rfl, rfl⟩
  | cons pending rest =>
    rcases t.tcpSocketCreate_cases with ⟨io, heq, hsent⟩ | ⟨io, heq, hsent⟩
    · dsimp only
      rw [heq]
      exact .inl ⟨io, hsent, rfl⟩
    · dsimp only
      rw [heq]
      exact .inr ⟨pending, rest, io, _, _, hstate, rfl, hsent, rfl⟩

/-- What `tcp_receive` does: nothing to the sockets, or one call on the socket found; a reset may be
sent for a segment that has no socket. -/
lemma tcpReceive_cases (t : Tcp) (seg : TcpSegment) :
    (∃ io new, io.sent = t.io.sent ++ new ∧ (t.tcpReceive seg).2 = { t with io := io } ∧
      ∀ seg' ∈ new, seg'.data = [] ∧ seg'.flags = { rst := true, ack := true }) ∨
    ∃ io p, io.sent = t.io.sent ∧ t.reaches seg = some p ∧
      (t.tcpReceive seg).2 = { t with io := io }.onSocket p (·.tcpReceive seg) := by
  have hsame := t.io.kmalloc_same
  have hreach : t.reaches seg = if t.io.kmalloc.1 then t.findFor seg else none := rfl
  unfold tcpReceive
  rcases hmalloc : t.io.kmalloc with ⟨ok, io⟩
  rw [hmalloc] at hsame hreach
  dsimp only at hsame ⊢
  have hnone : ∀ r : Int, ∃ io' new, io'.sent = t.io.sent ++ new ∧
      ((r, { t with io := io }) : Int × Tcp).2 = { t with io := io' } ∧
      ∀ seg' ∈ new, seg'.data = [] ∧ seg'.flags = { rst := true, ack := true } := by
    intro _
    exact ⟨io, [], by rw [hsame.1, List.append_nil], rfl, fun _ h => absurd h List.not_mem_nil⟩
  cases ok with
  | false => exact .inl (hnone _)
  | true =>
    rw [if_pos rfl]
    have hfind : ({ t with io := io } : Tcp).findFor seg = t.findFor seg := rfl
    rw [hfind]
    cases hfound : t.findFor seg with
    | some p => exact .inr ⟨io, p, hsame.1, hreach.trans hfound, rfl⟩
    | none =>
      dsimp only
      split_ifs
      · exact .inl (hnone _)
      · obtain ⟨new, hsent, hnew⟩ := io.tcpSendRst_sent seg.dstIp seg.srcIp seg.dstPort
          seg.srcPort seg.ack 0
        exact .inl ⟨_, new, by rw [hsent, hsame.1], rfl, hnew⟩
      · obtain ⟨new, hsent, hnew⟩ := io.tcpSendRst_sent seg.dstIp seg.srcIp seg.dstPort
          seg.srcPort 0 (seg.seq + 1)
        exact .inl ⟨_, new, by rw [hsent, hsame.1], rfl, hnew⟩

/-- **The induction over one event.**  What does not depend on the outside, and what new sockets, resets
and every call that the event makes keep, holds after the event. -/
theorem apply_invariant {I : Tcp → Prop} (h : I t) (hwf : t.Wf) (hguard : ∀ p, e.socket = some p → p ∈ t.list)
    (hother : ∀ u next isn io, I u → io.sent = u.io.sent →
      I { u with nextEphemeralPort := next, isnCounter := isn, io := io })
    (hnew : ∀ io : TcpIo, io.sent = t.io.sent → I (t.withNew io))
    (hreset : ∀ (io : TcpIo) new, io.sent = t.io.sent ++ new →
      (∀ seg ∈ new, seg.data = [] ∧ seg.flags = { rst := true, ack := true }) →
      I { t with io := io })
    (hcalls : ∀ u p call, Performs t e p (u.blocks p) call → p ∈ u.list → I u →
      I (u.onSocket p (·.call call))) : I (t.apply e) := by
  cases e with
  | create =>
    rcases t.tcpSocketCreate_cases with ⟨io, heq, hsent⟩ | ⟨io, heq, hsent⟩
    · rw [apply, heq]
      exact hother t t.nextEphemeralPort t.isnCounter io h hsent
    · rw [apply, heq]
      exact hnew io hsent
  | bind p port =>
    rcases t.tcpBind_cases p port with ⟨-, next, heq⟩ | ⟨-, chosen, next, hfree, heq⟩
    · rw [apply, heq]
      exact hother t next t.isnCounter t.io h rfl
    · rw [apply, heq]
      exact hcalls { t with nextEphemeralPort := next } p _ (.bind hfree) (hguard p rfl)
        (hother t next t.isnCounter t.io h rfl)
  | listen p backlog => exact hcalls t p _ (.listen p backlog) (hguard p rfl) h
  | accept p =>
    have hlt : p < t.fresh := hwf.lt p (hguard p rfl)
    rcases t.tcpAccept_cases p with
      ⟨io, hsent, heq⟩ | ⟨pending, rest, io, isn, iss, hlisten, hpending, hsent, heq⟩
    · rw [apply, heq]
      exact hother t t.nextEphemeralPort t.isnCounter io h hsent
    · rw [apply, heq]
      have hold : (t.withNew io).blocks p = t.blocks p := Function.update_of_ne hlt.ne _ _
      have hfresh : (t.withNew io).blocks t.fresh = { lastActivity := io.now } :=
        Function.update_self _ _ _
      have hstart : I { t.withNew io with isnCounter := isn } :=
        hother _ t.nextEphemeralPort isn io (hnew io hsent) rfl
      have hmem : t.fresh ∈ (t.withNew io).list := List.mem_cons_self
      have hstarted := hcalls { t.withNew io with isnCounter := isn } t.fresh
        (.startAccept (t.blocks p) pending iss)
        (by exact hfresh ▸ .accepted hlisten hpending iss io.now) hmem hstart
      rw [hold]
      refine hcalls _ p .dropPending ?_ ?_ hstarted
      · rw [onSocket_of_ne hlt.ne]
        exact hold ▸ .accept hlisten hpending
      · exact mem_onSocket_of_ne hmem (List.mem_cons_of_mem _ (hguard p rfl)) hlt.ne
  | connect p remoteIp remotePort =>
    obtain ⟨next, isn, heq | ⟨call, hperforms, heq⟩⟩ := t.tcpConnect_cases p remoteIp remotePort
    · rw [apply, heq]
      exact hother t next isn t.io h rfl
    · rw [apply, heq]
      exact hcalls { t with nextEphemeralPort := next, isnCounter := isn } p call hperforms
        (hguard p rfl) (hother t next isn t.io h rfl)
  | send p data => exact hcalls t p _ (.send p data) (hguard p rfl) h
  | recv p maxLen => exact hcalls t p _ (.recv p maxLen) (hguard p rfl) h
  | close p => exact hcalls t p _ (.close p) (hguard p rfl) h
  | abort p => exact hcalls t p _ (.abort p) (hguard p rfl) h
  | output p => exact hcalls t p _ (.output p) (hguard p rfl) h
  | setNonblock p nonblock => exact hcalls t p _ (.setNonblock p nonblock) (hguard p rfl) h
  | receive seg =>
    rcases t.tcpReceive_cases seg with ⟨io, new, hsent, heq, hnew⟩ | ⟨io, p, hsent, hfound, heq⟩
    · rw [apply, heq]
      exact hreset io new hsent hnew
    · rw [apply, heq]
      have hmem : p ∈ t.list := mem_of_reaches hfound
      exact hcalls { t with io := io } p _ (.receive hfound) hmem
        (hother t t.nextEphemeralPort t.isnCounter io h hsent)
  | tick =>
    -- the sockets that the timer has not reached are as they were
    have hloop : ∀ (l : List TcpRef) (u : Tcp), l.Nodup → I u →
        (∀ q ∈ l, q ∈ t.list ∧ q ∈ u.list ∧ u.blocks q = t.blocks q) → I (u.tickLoop l) := by
      intro l
      induction l with
      | nil => exact fun u _ hu _ => hu
      | cons p l ih =>
        intro u hnodup hu hall
        obtain ⟨hp, hl⟩ := List.nodup_cons.mp hnodup
        obtain ⟨hmem, hthere, hblocks⟩ := hall p List.mem_cons_self
        refine ih _ hl (hcalls u p .tick (hblocks ▸ .tick hmem) hthere hu) fun q hq => ?_
        have hne : q ≠ p := fun he => hp (he ▸ hq)
        obtain ⟨hmem', hthere', hblocks'⟩ := hall q (List.mem_cons_of_mem p hq)
        exact ⟨hmem', mem_onSocket_of_ne hthere hthere' hne, (onSocket_of_ne hne).trans hblocks'⟩
    exact hloop t.list t hwf.nodup h fun q hq => ⟨hq, hq, rfl⟩
  | outside now ownIp allocs sends =>
    exact hother t t.nextEphemeralPort t.isnCounter _ h rfl

lemma Wf.onSocket (h : t.Wf) (p : TcpRef) (f : TcpConn → TcpConn) : (t.onSocket p f).Wf := by
  refine ⟨h.nodup.sublist (onSocket_sublist t p f), fun q hq => ?_⟩
  rw [onSocket_fresh]
  exact h.lt q ((onSocket_sublist t p f).subset hq)

lemma Wf.withNew (h : t.Wf) (io : TcpIo) : (t.withNew io).Wf := by
  have hnot : t.fresh ∉ t.list := fun hmem => absurd (h.lt _ hmem) (lt_irrefl _)
  refine ⟨List.nodup_cons.mpr ⟨hnot, h.nodup⟩, fun p hp => ?_⟩
  rcases List.mem_cons.mp hp with rfl | hold
  · exact Nat.lt_succ_self _
  · exact Nat.lt_succ_of_lt (h.lt p hold)

lemma Wf.apply (h : t.Wf) (hguard : ∀ p, e.socket = some p → p ∈ t.list) : (t.apply e).Wf :=
  apply_invariant h h hguard (fun _ _ _ _ hu _ => ⟨hu.nodup, hu.lt⟩) (fun io _ => h.withNew io)
    (fun _ _ _ _ => ⟨h.nodup, h.lt⟩) fun _ p _ _ _ hu => hu.onSocket p _

/-- **One event**, for what holds of every socket and of every segment sent. -/
theorem apply_keeps (h : t.Holds P Q) (hwf : t.Wf) (hguard : ∀ p, e.socket = some p → p ∈ t.list)
    (hnew : ∀ now, P t.fresh { lastActivity := now })
    (hreset : ∀ seg : TcpSegment, seg.data = [] → seg.flags = { rst := true, ack := true } → Q seg)
    (hcalls : ∀ p s call, Performs t e p s call → P p s → CallKeeps P Q p s (·.call call)) :
    (t.apply e).Holds P Q := by
  refine apply_invariant h hwf hguard (fun u next isn io hu hsent => ?_) (fun io hsent => ?_)
    (fun io new hsent hall => ?_) fun u p call hperforms hp hu =>
      hu.onSocket (hcalls p _ call hperforms (hu.blocks p hp))
  · exact ⟨hu.blocks, fun seg hseg => hu.sent seg (hsent ▸ hseg)⟩
  · refine ⟨fun p hp => ?_, fun seg hseg => h.sent seg (hsent ▸ hseg)⟩
    unfold withNew
    dsimp only
    by_cases hfresh : p = t.fresh
    · subst hfresh
      rw [Function.update_self]
      exact hnew io.now
    · rw [Function.update_of_ne hfresh]
      exact h.blocks p ((List.mem_cons.mp hp).resolve_left hfresh)
  · refine ⟨h.blocks, fun seg hseg => ?_⟩
    dsimp only at hseg
    rw [hsent] at hseg
    rcases List.mem_append.mp hseg with hold | hmem
    · exact h.sent seg hold
    · exact hreset seg (hall seg hmem).1 (hall seg hmem).2

end Tcp

end AAAos
