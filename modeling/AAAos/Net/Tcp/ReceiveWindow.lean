import AAAos.Net.Tcp.Connections

/-!
# The advertised window

Each segment carries the low 16 bits of `rcv_wnd`, which is the free space of the receive buffer when it was last
computed.  A reset is sent by `tcp_send_rst`, which knows no socket, with the window 0.

**What goes wrong.**  The buffer has 65536 bytes, so the free space of an empty buffer does not fit into the field: once
`tcp_recv` has computed it, every segment says that there is no room (`window_closes`).

**What is proved.**  `rcv_wnd` is the free space, or still the default of a new socket with an empty buffer, whatever is
called and received (`windowKept_of_steps`).  So a segment of a reachable socket advertises no more than there is, and
something where there is something, exactly if `rcv_wnd` is not 65536 before the call, or the call takes data in order,
after which it is computed again; and a reset, exactly if the buffer is full (`advertised_iff`).
-/

namespace AAAos

/-- `rcv_wnd` says how much room there is. -/
structure TcpSocket.WindowKept (s : TcpSocket) : Prop where
  size : s.recvBuf.size = tcpBufSize
  used : s.recvBuf.used ≤ tcpBufSize
  window : s.rcvWnd.toNat = s.recvBuf.ringBufferSpace ∨ s.rcvWnd = tcpDefaultWindow ∧ s.recvBuf.used = 0

namespace TcpConn

variable {c c' c'' : TcpConn} {seg : TcpSegment}

/-! ## Calls that do not read or take data -/

/-- The receive buffer and the window are left alone, and the window is what is sent. -/
structure Advertises (c c' : TcpConn) : Prop where
  recvBuf : c'.sock.recvBuf = c.sock.recvBuf
  rcvWnd : c'.sock.rcvWnd = c.sock.rcvWnd
  sent : ∃ new, c'.io.sent = c.io.sent ++ new ∧
    ∀ seg ∈ new, seg.window = if seg.flags.rst then 0 else c.sock.rcvWnd.toUInt16

namespace Advertises

lemma of_silent (hbuf : c'.sock.recvBuf = c.sock.recvBuf) (hwnd : c'.sock.rcvWnd = c.sock.rcvWnd)
    (hsent : c'.io.sent = c.io.sent) : Advertises c c' :=
  ⟨hbuf, hwnd, [], by rw [hsent, List.append_nil], fun _ h => absurd h List.not_mem_nil⟩

lemma same (c : TcpConn) : Advertises c c := of_silent rfl rfl rfl

lemma trans (h : Advertises c c') (h' : Advertises c' c'') : Advertises c c'' := by
  obtain ⟨new, hsent, hnew⟩ := h.sent
  obtain ⟨new', hsent', hnew'⟩ := h'.sent
  refine ⟨h'.recvBuf.trans h.recvBuf, h'.rcvWnd.trans h.rcvWnd, new ++ new', ?_, fun seg hseg => ?_⟩
  · rw [hsent', hsent, List.append_assoc]
  · rcases List.mem_append.mp hseg with hfirst | hsecond
    · exact hnew seg hfirst
    · rw [hnew' seg hsecond, h.rcvWnd]

lemma setState (h : Advertises c c') (state : TcpState) : Advertises c (c'.tcpSetState state) := by
  rw [tcpSetState_eq]
  exact h.trans (of_silent rfl rfl rfl)

lemma segment (h : Advertises c c') (flags : TcpFlags) (hflags : flags.rst = false) (data : List UInt8) :
    Advertises c (c'.tcpSendSegment flags data).2 := by
  refine h.trans ?_
  rcases tcpSendSegment_cases c' flags data with hcase | hcase
  · exact of_silent (by rw [hcase.sock]) (by rw [hcase.sock]) hcase.sent
  · refine ⟨by rw [hcase.sock], by rw [hcase.sock], [c'.segment flags data], hcase.sent, fun seg hseg => ?_⟩
    rw [List.mem_singleton.mp hseg]
    change _ = if flags.rst = true then 0 else _
    rw [if_neg (Bool.eq_false_iff.mp hflags)]
    rfl

lemma ack (h : Advertises c c') : Advertises c c'.sendAck := h.segment _ rfl _

lemma malloc (h : Advertises c c') : Advertises c { c' with io := c'.io.kmalloc.2 } :=
  h.trans (of_silent rfl rfl c'.io.kmalloc_same.1)

lemma rst (h : Advertises c c') (srcIp dstIp : UInt32) (srcPort dstPort : UInt16) (seq ack : UInt32) :
    Advertises c (c'.tcpSendRst srcIp dstIp srcPort dstPort seq ack) := by
  refine h.trans ?_
  rcases TcpIo.ipSend_sent c'.io _ with hsent | hsent
  · exact of_silent rfl rfl hsent
  · refine ⟨rfl, rfl, _, hsent, fun seg hseg => ?_⟩
    rw [List.mem_singleton.mp hseg]
    rfl

lemma write (h : Advertises c c') (f : TcpSocket → TcpSocket) (hbuf : (f c'.sock).recvBuf = c'.sock.recvBuf)
    (hwnd : (f c'.sock).rcvWnd = c'.sock.rcvWnd) : Advertises c (c'.modify f) :=
  h.trans (of_silent hbuf hwnd rfl)

lemma enterTimeWait (h : Advertises c c') : Advertises c c'.enterTimeWait :=
  (h.setState .timeWait).write _ rfl rfl

lemma sendFin (h : Advertises c c') (state : TcpState) : Advertises c (c'.sendFin state) :=
  (h.setState state).segment _ rfl _

lemma destroy (h : Advertises c c') : Advertises c c'.tcpSocketDestroy := ⟨h.recvBuf, h.rcvWnd, h.sent⟩

end Advertises

open Advertises (same)

lemma advertises_output (c : TcpConn) : Advertises c c.tcpOutput := by
  unfold tcpOutput
  dsimp only
  split_ifs
  · exact same c
  · exact ((same c).malloc.segment _ rfl _).write _ rfl rfl
  · exact (same c).malloc
  · exact same c

lemma advertises_send (c : TcpConn) (data : List UInt8) : Advertises c (c.tcpSend data).2 := by
  rcases c.tcpSend_cases data with ⟨-, hsame⟩ | ⟨-, -, -, hanswer⟩
  · rw [hsame]
    exact same c
  · rw [hanswer]
    exact ((same c).write _ rfl rfl).trans (advertises_output _)

lemma advertises_startConnect (c : TcpConn) (iss remoteIp : UInt32) (remotePort : UInt16) :
    Advertises c (c.startConnect iss remoteIp remotePort).2 := by
  have hsyn : ∀ f : TcpSocket → TcpSocket, (f c.sock).recvBuf = c.sock.recvBuf → (f c.sock).rcvWnd = c.sock.rcvWnd →
      Advertises c (((c.modify f).tcpSetState .synSent).tcpSendSegment { syn := true } []).2 :=
    fun f hbuf hwnd => (((same c).write f hbuf hwnd).setState _).segment _ rfl _
  unfold startConnect
  dsimp only
  split_ifs
  · exact (hsyn _ rfl rfl).setState .closed
  · exact hsyn _ rfl rfl

lemma advertises_startAccept (c : TcpConn) (listener : TcpSocket) (pending : TcpPendingConn) (iss : UInt32) :
    Advertises c (c.startAccept listener pending iss) :=
  (((same c).write _ rfl rfl).setState .synReceived).segment _ rfl _

lemma advertises_listen (c : TcpConn) (backlog : Int) : Advertises c (c.tcpListen backlog).2 := by
  unfold tcpListen
  split_ifs
  · exact same c
  · exact same c
  · exact ((same c).write _ rfl rfl).setState .listen

lemma advertises_bindTo (c : TcpConn) (port : UInt16) : Advertises c (c.bindTo port) :=
  (same c).write _ rfl rfl

lemma advertises_dropPending (c : TcpConn) : Advertises c c.dropPending := (same c).write _ rfl rfl

lemma advertises_close (c : TcpConn) : Advertises c c.tcpClose := by
  unfold tcpClose
  cases c.sock.state
  case closed => exact (same c).destroy
  case listen => exact ((same c).setState .closed).destroy
  case synSent => exact ((same c).setState .closed).destroy
  case synReceived => exact (same c).sendFin _
  case established => exact (same c).sendFin _
  case closeWait => exact (same c).sendFin _
  all_goals exact same c

lemma advertises_abort (c : TcpConn) : Advertises c c.tcpAbort := by
  unfold tcpAbort
  dsimp only
  split_ifs
  · exact (((same c).rst _ _ _ _ _ _).setState .closed).destroy
  · exact ((same c).setState .closed).destroy

lemma advertises_tick (c : TcpConn) : Advertises c c.tickSocket := by
  have hretransmit : Advertises c c.retransmit :=
    ((same c).write _ rfl rfl).segment _ (by split_ifs <;> rfl) _
  unfold tickSocket
  cases c.sock.state
  case timeWait =>
    dsimp only
    split_ifs
    · exact ((same c).setState .closed).destroy
    · exact same c
  case synSent =>
    dsimp only
    split_ifs
    · exact advertises_abort c
    · exact hretransmit
    · exact same c
  case synReceived =>
    dsimp only
    split_ifs
    · exact advertises_abort c
    · exact hretransmit
    · exact same c
  all_goals exact same c

/-! ## Segments -/

lemma advertises_receiveListen (c : TcpConn) (seg : TcpSegment) : Advertises c (c.receiveListen seg) := by
  unfold receiveListen
  dsimp only
  split_ifs
  · exact same c
  · exact (same c).malloc.write _ rfl rfl
  · exact (same c).malloc
  · exact same c

lemma advertises_receiveSynSent (c : TcpConn) (seg : TcpSegment) : Advertises c (c.receiveSynSent seg) := by
  unfold receiveSynSent
  split_ifs
  · exact (same c).rst _ _ _ _ _ _
  · exact (((same c).write _ rfl rfl).setState .established).ack
  · exact (((same c).write _ rfl rfl).setState .synReceived).segment _ rfl _
  · exact same c

lemma advertises_processAck (c : TcpConn) (seg : TcpSegment) : Advertises c (c.processAck seg) := by
  unfold processAck
  split_ifs
  · exact (same c).write _ rfl rfl
  · exact same c

lemma advertises_processFin (c : TcpConn) (seg : TcpSegment) : Advertises c (c.processFin seg) := by
  unfold processFin
  split_ifs
  · exact (((same c).write _ rfl rfl).setState .closeWait).ack
  · exact same c

lemma advertises_receiveFinWait1 (c : TcpConn) (seg : TcpSegment) : Advertises c (c.receiveFinWait1 seg) := by
  unfold receiveFinWait1
  obtain ⟨acked, hacked, hsent⟩ : ∃ acked, (if seg.flags.ack = true ∧ seg.ack = c.sock.sndNxt then
      c.tcpSetState .finWait2 else c) = acked ∧ Advertises c acked := by
    refine ⟨_, rfl, ?_⟩
    split_ifs
    · exact (same c).setState .finWait2
    · exact same c
  rw [hacked]
  dsimp only
  have hfin : Advertises c acked.countFin.sendAck := (hsent.write _ rfl rfl).ack
  split_ifs
  · exact hfin.enterTimeWait
  · exact hfin.setState .closing
  · exact hsent

/-- A segment that brings data in order to an open connection. -/
def TakesSegment (s : TcpSocket) (seg : TcpSegment) : Prop :=
  seg.flags.rst = false ∧ s.state = .established ∧ seg.data ≠ [] ∧ seg.seq = s.rcvNxt

lemma processAck_rcvNxt (c : TcpConn) (seg : TcpSegment) : (c.processAck seg).sock.rcvNxt = c.sock.rcvNxt := by
  unfold processAck
  split_ifs <;> rfl

lemma advertises_receive (h : ¬ TakesSegment c.sock seg) : Advertises c (c.tcpReceive seg) := by
  unfold tcpReceive
  by_cases hreset : seg.flags.rst = true
  · rw [if_pos hreset]
    split_ifs
    · exact (same c).setState .closed
    · exact same c
  rw [if_neg hreset]
  cases hstate : c.sock.state
  case closed => exact (same c).rst _ _ _ _ _ _
  case listen => exact advertises_receiveListen c seg
  case synSent => exact advertises_receiveSynSent c seg
  case synReceived =>
    simp only [receiveSynReceived]
    split_ifs
    · exact ((same c).write (fun s => { s with sndUna := seg.ack, sndWnd := seg.window.toUInt32 }) rfl rfl).setState .established
    · exact same c
  case established =>
    have hack := advertises_processAck c seg
    have hdata : Advertises (c.processAck seg) ((c.processAck seg).processData seg) := by
      unfold processData
      split_ifs with hnil hseq
      · exact Advertises.same _
      · rw [processAck_rcvNxt] at hseq
        exact absurd ⟨Bool.not_eq_true _ ▸ hreset, hstate, hnil, hseq⟩ h
      · exact (Advertises.same _).ack
    exact (hack.trans hdata).trans (advertises_processFin _ seg)
  case finWait1 => exact advertises_receiveFinWait1 c seg
  case finWait2 =>
    simp only [receiveFinWait2]
    split_ifs
    · exact ((same c).write _ rfl rfl).enterTimeWait.ack
    · exact same c
  case closeWait =>
    simp only [receiveCloseWait]
    split_ifs
    · exact (same c).write _ rfl rfl
    · exact same c
  case closing =>
    simp only [receiveClosing]
    split_ifs
    · exact (same c).enterTimeWait
    · exact same c
  case lastAck =>
    simp only [receiveLastAck]
    split_ifs
    · exact ((same c).setState .closed).destroy
    · exact same c
  case timeWait =>
    simp only
    split_ifs
    · exact (same c).ack
    · exact same c

/-- No reset is sent. -/
def NoReset (c c' : TcpConn) : Prop := ∃ new, c'.io.sent = c.io.sent ++ new ∧ ∀ seg ∈ new, seg.flags.rst = false

lemma NoReset.of_silent (h : c'.io.sent = c.io.sent) : NoReset c c' :=
  ⟨[], by rw [h, List.append_nil], fun _ h => absurd h List.not_mem_nil⟩

lemma NoReset.trans (h : NoReset c c') (h' : NoReset c' c'') : NoReset c c'' := by
  obtain ⟨new, hsent, hnew⟩ := h
  obtain ⟨new', hsent', hnew'⟩ := h'
  refine ⟨new ++ new', by rw [hsent', hsent, List.append_assoc], fun seg hseg => ?_⟩
  exact (List.mem_append.mp hseg).elim (hnew seg) (hnew' seg)

lemma noReset_ack (c : TcpConn) : NoReset c c.sendAck := by
  rcases tcpSendSegment_cases c { ack := true } [] with hcase | hcase
  · exact .of_silent hcase.sent
  · refine ⟨_, hcase.sent, fun seg hseg => ?_⟩
    rw [List.mem_singleton.mp hseg]
    rfl

lemma noReset_processFin (c : TcpConn) (seg : TcpSegment) : NoReset c (c.processFin seg) := by
  unfold processFin
  split_ifs
  · refine NoReset.trans (.of_silent ?_) (noReset_ack _)
    rw [tcpSetState_eq]
    rfl
  · exact .of_silent rfl

lemma advertises_taken (h : TakesSegment c.sock seg) : ∃ d : TcpConn, Advertises d (c.tcpReceive seg) ∧
    NoReset d (c.tcpReceive seg) ∧ d.io.sent = c.io.sent ∧ d.sock.recvBuf = (c.sock.recvBuf.ringBufferWrite seg.data).2 ∧
    d.sock.rcvWnd = UInt32.ofNat (c.sock.recvBuf.ringBufferWrite seg.data).2.ringBufferSpace := by
  obtain ⟨hrst, hstate, hdata, hseq⟩ := h
  have hack := advertises_processAck c seg
  have hsent : (c.processAck seg).io.sent = c.io.sent := by
    unfold processAck
    split_ifs <;> rfl
  rw [← hack.recvBuf]
  have heq : c.tcpReceive seg = ((c.processAck seg).processData seg).processFin seg := by
    rw [tcpReceive, if_neg (by simp [hrst]), hstate]
    rfl
  rw [heq, processData, if_neg hdata, if_pos (by rw [processAck_rcvNxt]; exact hseq)]
  exact ⟨_, ((Advertises.same _).ack).trans (advertises_processFin _ seg),
    (noReset_ack _).trans (noReset_processFin _ seg), hsent, rfl, rfl⟩

/-- What a call takes. -/
def TakesData (s : TcpSocket) : SockCall → Prop
  | .segment seg => TakesSegment s seg
  | _ => False

/-- What reads from the buffer. -/
def Reads : SockCall → Prop
  | .recv _ => True
  | _ => False

lemma advertises_call {call : SockCall} (htakes : ¬ TakesData c.sock call) (hreads : ¬ Reads call) :
    Advertises c (c.call call) := by
  cases call with
  | bindTo port => exact advertises_bindTo c port
  | listen backlog => exact advertises_listen c backlog
  | startAccept listener pending iss => exact advertises_startAccept c listener pending iss
  | dropPending => exact advertises_dropPending c
  | connect port iss remoteIp remotePort =>
    cases port with
    | none => exact advertises_startConnect c iss remoteIp remotePort
    | some port => exact (advertises_bindTo c port).trans (advertises_startConnect _ iss remoteIp remotePort)
  | send data => exact advertises_send c data
  | recv maxLen => exact absurd trivial hreads
  | close => exact advertises_close c
  | abort => exact advertises_abort c
  | output => exact advertises_output c
  | setNonblock nonblock => exact (same c).write (fun s => { s with nonblock := nonblock }) rfl rfl
  | segment seg => exact advertises_receive htakes
  | tick => exact advertises_tick c

end TcpConn

/-! ## The window is kept -/

namespace TcpSocket

variable {s : TcpSocket}

lemma WindowKept.congr {s' : TcpSocket} (h : s.WindowKept) (hbuf : s'.recvBuf = s.recvBuf)
    (hwnd : s'.rcvWnd = s.rcvWnd) : s'.WindowKept := by
  refine ⟨?_, ?_, ?_⟩
  · rw [hbuf]
    exact h.size
  · rw [hbuf]
    exact h.used
  · rw [hbuf, hwnd]
    exact h.window

lemma WindowKept.of_computed (hsize : s.recvBuf.size = tcpBufSize) (hused : s.recvBuf.used ≤ tcpBufSize)
    (hwnd : s.rcvWnd = UInt32.ofNat s.recvBuf.ringBufferSpace) : s.WindowKept := by
  refine ⟨hsize, hused, Or.inl ?_⟩
  have hspace : s.recvBuf.ringBufferSpace ≤ tcpBufSize := by
    rw [TcpRingBuffer.ringBufferSpace, hsize]
    exact Nat.sub_le _ _
  rw [hwnd, UInt32.toNat_ofNat', Nat.mod_eq_of_lt (lt_of_le_of_lt hspace (by decide))]

end TcpSocket

namespace TcpConn

variable {c : TcpConn} {seg : TcpSegment}

lemma written_used (h : c.sock.WindowKept) (data : List UInt8) :
    (c.sock.recvBuf.ringBufferWrite data).2.size = tcpBufSize ∧
      (c.sock.recvBuf.ringBufferWrite data).2.used = min (c.sock.recvBuf.used + data.length) tcpBufSize := by
  have hsize := h.size
  have hused := h.used
  refine ⟨hsize, ?_⟩
  change c.sock.recvBuf.used + min data.length c.sock.recvBuf.ringBufferSpace = _
  rw [TcpRingBuffer.ringBufferSpace, hsize]
  omega

lemma windowKept_recv (h : c.sock.WindowKept) (maxLen : Nat) : (c.tcpRecv maxLen).2.2.sock.WindowKept := by
  have hread : (c.sock.recvBuf.ringBufferRead maxLen).2.used = c.sock.recvBuf.used - min maxLen c.sock.recvBuf.used :=
    rfl
  have hlen : (c.sock.recvBuf.ringBufferRead maxLen).1.length = min maxLen c.sock.recvBuf.used :=
    length_ringTake _ _ _
  have hle : (c.sock.recvBuf.ringBufferRead maxLen).2.used ≤ tcpBufSize := by
    have hused := h.used
    omega
  -- where nothing is read, the buffer is as full as before
  have hempty : (c.sock.recvBuf.ringBufferRead maxLen).1.length = 0 →
      ({ c.sock with recvBuf := (c.sock.recvBuf.ringBufferRead maxLen).2 } : TcpSocket).WindowKept := by
    intro hnone
    have hsame : (c.sock.recvBuf.ringBufferRead maxLen).2.used = c.sock.recvBuf.used := by omega
    refine ⟨h.size, hle, ?_⟩
    rcases h.window with hwnd | ⟨hwnd, hzero⟩
    · refine Or.inl (hwnd.trans ?_)
      change c.sock.recvBuf.size - _ = c.sock.recvBuf.size - _
      rw [hsame]
    · exact Or.inr ⟨hwnd, hsame.trans hzero⟩
  unfold tcpRecv
  dsimp only
  split_ifs with hclosed hnone
  · exact h
  · exact hempty hnone
  · exact hempty hnone
  · exact .of_computed h.size hle rfl
  · exact .of_computed h.size hle rfl

lemma windowKept_call (h : c.sock.WindowKept) (call : SockCall) : (c.call call).sock.WindowKept := by
  by_cases htakes : TakesData c.sock call
  · cases call with
    | segment seg =>
      obtain ⟨d, hd, -, -, hbuf, hwnd⟩ := advertises_taken htakes
      obtain ⟨hsize, hused⟩ := written_used h seg.data
      refine TcpSocket.WindowKept.congr (.of_computed ?_ ?_ ?_) hd.recvBuf hd.rcvWnd
      · rw [hbuf, hsize]
      · rw [hbuf, hused]
        exact min_le_right _ _
      · rw [hwnd, hbuf]
    | _ => exact absurd htakes id
  · by_cases hreads : Reads call
    · cases call with
      | recv maxLen => exact windowKept_recv h maxLen
      | _ => exact absurd hreads id
    · have hcall := advertises_call htakes hreads
      exact h.congr hcall.recvBuf hcall.rcvWnd

/-! ## What is advertised -/

/-- The segments a call sends. -/
def newSegments (s : TcpSocket) (out : TcpIo) (call : SockCall) : List TcpSegment :=
  (({ sock := s, io := out } : TcpConn).call call).io.sent.drop out.sent.length

/-- No more is promised than there is, and something where there is something. -/
def WindowSound (space : Nat) (window : UInt16) : Prop := window.toNat ≤ space ∧ (0 < space → window ≠ 0)

lemma mem_newSegments {s : TcpSocket} {out : TcpIo} {call : SockCall} {d : TcpConn}
    (hd : Advertises d (({ sock := s, io := out } : TcpConn).call call)) (hsent : d.io.sent = out.sent)
    (hseg : seg ∈ newSegments s out call) :
    seg.window = if seg.flags.rst then 0 else d.sock.rcvWnd.toUInt16 := by
  obtain ⟨new, hnew, hall⟩ := hd.sent
  rw [newSegments, hnew, hsent, List.drop_left] at hseg
  exact hall seg hseg

lemma NoReset.not_rst {s : TcpSocket} {out : TcpIo} {call : SockCall} {d : TcpConn}
    (hd : NoReset d (({ sock := s, io := out } : TcpConn).call call)) (hsent : d.io.sent = out.sent)
    (hseg : seg ∈ newSegments s out call) : seg.flags.rst = false := by
  obtain ⟨new, hnew, hall⟩ := hd
  rw [newSegments, hnew, hsent, List.drop_left] at hseg
  exact hall seg hseg

lemma toNat_window (w : UInt32) : w.toUInt16.toNat = w.toNat % 65536 := UInt32.toNat_toUInt16 w

lemma windowSound_low {space : Nat} (w : UInt32) :
    WindowSound space w.toUInt16 ↔ w.toNat % 65536 ≤ space ∧ (0 < space → w.toNat % 65536 ≠ 0) := by
  have hzero : w.toUInt16 = 0 ↔ w.toNat % 65536 = 0 := by
    rw [← toNat_window, ← UInt16.toNat_inj, UInt16.toNat_zero]
  rw [WindowSound, toNat_window, ne_eq, hzero]

lemma windowSound_zero {space : Nat} : WindowSound space 0 ↔ space = 0 := by
  constructor
  · intro h
    by_contra hspace
    exact h.2 (Nat.pos_of_ne_zero hspace) rfl
  · rintro rfl
    exact ⟨Nat.le_refl 0, fun h => absurd h (lt_irrefl 0)⟩

/-- What must hold before a call, for the window of a segment to be sound. -/
def SoundBefore (s : TcpSocket) (call : SockCall) (seg : TcpSegment) : Prop :=
  if seg.flags.rst then s.recvBuf.ringBufferSpace = 0 else s.rcvWnd.toNat ≠ tcpBufSize ∨ TakesData s call

/-- **One call.** -/
lemma windowSound_iff {s : TcpSocket} (h : s.WindowKept) {out : TcpIo} {call : SockCall}
    (hseg : seg ∈ newSegments s out call) :
    WindowSound (({ sock := s, io := out } : TcpConn).call call).sock.recvBuf.ringBufferSpace seg.window ↔
      SoundBefore s call seg := by
  by_cases htakes : TakesData s call
  · cases call with
    | segment seg' =>
      obtain ⟨d, hd, hplain, hsent, hbuf, hwnd⟩ := @advertises_taken { sock := s, io := out } seg' htakes
      obtain ⟨hsize, hused⟩ := @written_used { sock := s, io := out } h seg'.data
      have hrst : ¬ seg.flags.rst = true := Bool.eq_false_iff.mp (hplain.not_rst hsent hseg)
      rw [SoundBefore, if_neg hrst]
      refine iff_of_true ?_ (Or.inr htakes)
      have hpos : 0 < seg'.data.length := List.length_pos_iff.mpr htakes.2.2.1
      have hspace : (s.recvBuf.ringBufferWrite seg'.data).2.ringBufferSpace < 65536 := by
        rw [TcpRingBuffer.ringBufferSpace, hsize, hused]
        unfold tcpBufSize
        omega
      rw [mem_newSegments hd hsent hseg, if_neg hrst, hwnd]
      have hbuf' : (({ sock := s, io := out } : TcpConn).call (.segment seg')).sock.recvBuf =
          (s.recvBuf.ringBufferWrite seg'.data).2 := hd.recvBuf.trans hbuf
      rw [hbuf']
      generalize (s.recvBuf.ringBufferWrite seg'.data).2.ringBufferSpace = space at hspace ⊢
      rw [windowSound_low, UInt32.toNat_ofNat']
      omega
    | _ => exact absurd htakes id
  · by_cases hreads : Reads call
    · -- reading sends nothing
      cases call with
      | recv maxLen =>
        have hsilent : (({ sock := s, io := out } : TcpConn).tcpRecv maxLen).2.2.io.sent = out.sent := by
          unfold tcpRecv
          dsimp only
          split_ifs <;> rfl
        rw [newSegments, TcpConn.call, hsilent, List.drop_length] at hseg
        exact absurd hseg List.not_mem_nil
      | _ => exact absurd hreads id
    · have hcall := @advertises_call { sock := s, io := out } call htakes hreads
      rw [mem_newSegments hcall rfl hseg, hcall.recvBuf, SoundBefore]
      dsimp only
      by_cases hrst : seg.flags.rst = true
      · rw [if_pos hrst, if_pos hrst, windowSound_zero]
      rw [if_neg hrst, if_neg hrst, or_iff_left htakes, windowSound_low]
      have hused := h.used
      have hspace : s.recvBuf.ringBufferSpace = 65536 - s.recvBuf.used := by
        rw [TcpRingBuffer.ringBufferSpace, h.size]
        rfl
      unfold tcpBufSize at hused ⊢
      rcases h.window with hwnd | ⟨hwnd, hempty⟩
      · rw [hwnd]
        omega
      · have hdefault : s.rcvWnd.toNat = 32768 := by
          rw [hwnd]
          rfl
        rw [hdefault]
        omega

end TcpConn

/-! ## Runs -/

namespace Tcp

variable {t : Tcp} {io : TcpIo} {es : List TcpEvent} {p : TcpRef}

/-- **The window is kept** by every socket, in every run. -/
theorem windowKept_of_steps (hrun : Steps Step (boot io) es t) (hp : p ∈ t.list) : (t.blocks p).WindowKept := by
  have hkept : t.Wf ∧ t.Holds (fun _ s => s.WindowKept) (fun _ => True) :=
    hrun.invariant (I := fun t : Tcp => t.Wf ∧ t.Holds (fun _ s => s.WindowKept) (fun _ => True))
      (fun _ _ _ h hstep => by
        obtain ⟨rfl, hguard⟩ := hstep
        exact ⟨h.1.apply hguard, apply_keeps h.2 h.1 hguard
          (fun _ => ⟨rfl, Nat.zero_le _, Or.inr ⟨rfl, rfl⟩⟩) (fun _ _ _ => trivial)
          fun _ _ call _ hs _ _ => ⟨TcpConn.windowKept_call hs call, fun _ _ => trivial⟩⟩)
      ⟨⟨List.nodup_nil, fun _ h => absurd h List.not_mem_nil⟩, fun _ h => absurd h List.not_mem_nil,
        fun _ _ => trivial⟩
  exact hkept.2.blocks p hp

/-- **The advertised window.**  A segment that a call on a reachable socket sends has a sound window exactly if the
free space was not all of the buffer when it was last computed, or is computed anew; a reset, if the buffer is full. -/
theorem advertised_iff (hrun : Steps Step (boot io) es t) (hp : p ∈ t.list) (out : TcpIo) (call : SockCall)
    {seg : TcpSegment} (hseg : seg ∈ TcpConn.newSegments (t.blocks p) out call) :
    TcpConn.WindowSound
        (({ sock := t.blocks p, io := out } : TcpConn).call call).sock.recvBuf.ringBufferSpace seg.window ↔
      TcpConn.SoundBefore (t.blocks p) call seg :=
  TcpConn.windowSound_iff (windowKept_of_steps hrun hp) hseg

/-! ## One connection -/

lemma created_run : Steps Step (boot { ownIp := 10 }) [.create] ((boot { ownIp := 10 }).apply .create) := by
  refine .cons ⟨rfl, fun p hp => ?_⟩ (.nil _)
  cases hp

/-- The first SYN advertises the default. -/
theorem advertised_first_syn : TcpConn.WindowSound 65536 32768 := by
  have hseg : ({ srcIp := 10, dstIp := 20, srcPort := 5000, dstPort := 80, seq := 1, ack := 0,
                 flags := { syn := true }, window := 32768 } : TcpSegment) ∈
      TcpConn.newSegments (((boot { ownIp := 10 }).apply .create).blocks 0) { ownIp := 10 }
        (.connect (some 5000) 1 20 80) := by
    decide
  have hsyn := (advertised_iff created_run (p := 0) (by decide) { ownIp := 10 }
    (.connect (some 5000) 1 20 80) hseg).mpr (Or.inl (by decide))
  have hspace : (({ sock := ((boot { ownIp := 10 }).apply .create).blocks 0, io := { ownIp := 10 } } :
      TcpConn).call (.connect (some 5000) 1 20 80)).sock.recvBuf.ringBufferSpace = 65536 := by
    decide
  rw [hspace] at hsyn
  exact hsyn

/-- `tcp_recv` finds nothing while the handshake goes on.  From then on the segments promise nothing, though nothing
has come yet. -/
theorem window_closes : ∃ t, Steps Step (boot { ownIp := 10 }) [.create, .connect 0 20 80, .recv 0 1] t ∧
    ∃ seg ∈ TcpConn.newSegments (t.blocks 0) t.io
        (.segment { srcIp := 20, dstIp := 10, srcPort := 80, dstPort := 49152, seq := 500, ack := 128001,
                    flags := { syn := true, ack := true }, window := 3 }),
      seg.flags.rst = false ∧ seg.window = 0 ∧ (t.blocks 0).recvBuf.ringBufferSpace = 65536 := by
  refine ⟨_, .cons ⟨rfl, fun p hp => ?_⟩ (.cons ⟨rfl, fun p hp => ?_⟩ (.cons ⟨rfl, fun p hp => ?_⟩ (.nil _))),
    { srcIp := 10, dstIp := 20, srcPort := 49152, dstPort := 80, seq := 128001, ack := 501,
      flags := { ack := true }, window := 0 }, ?_, rfl, rfl, ?_⟩
  · cases hp
  · obtain rfl : 0 = p := Option.some.inj hp
    decide
  · obtain rfl : 0 = p := Option.some.inj hp
    decide
  · decide
  · decide

end Tcp

end AAAos
