import AAAos.Lib.Trace
import AAAos.Net.Tcp.TcpSocket

/-!
# The sent stream

The bytes that `tcp_send` accepts wait in the send buffer, and `tcp_output` sends them from there, one
segment a call.  Every segment should carry the bytes that its sequence number stands for, and the FIN
should stand behind all of them.

**What goes wrong.**  `tcp_output` takes the bytes out of the buffer even when `tcp_send_segment`
fails, and they are lost.  `tcp_close` sends the FIN with bytes still in the buffer.  A SYN without
ACK in SYN_SENT makes the socket send a second SYN, which takes a sequence number, and all bytes are
shifted by one.

**What is proved.**  When none of these happens (`Lossless`), the segments carry the accepted bytes, in
order and without gaps, at their sequence numbers, and the FIN comes behind them
(`faithful_of_steps`).
-/

namespace AAAos

/-- The bytes that these segments carry. -/
def bytesOf (segs : List TcpSegment) : List UInt8 := segs.flatMap TcpSegment.data

@[simp] lemma bytesOf_append (segs segs' : List TcpSegment) :
    bytesOf (segs ++ segs') = bytesOf segs ++ bytesOf segs' := List.flatMap_append

/-- The segments carry no data and no FIN. -/
def Mute (segs : List TcpSegment) : Prop := ∀ seg ∈ segs, seg.data = [] ∧ seg.flags.fin = false

lemma Mute.bytesOf_eq {segs : List TcpSegment} (h : Mute segs) : bytesOf segs = [] :=
  List.flatMap_eq_nil_iff.mpr fun seg hseg => (h seg hseg).1

/-- The connection may still send data. -/
def TcpState.sending : TcpState → Bool
  | .synSent | .synReceived | .established | .closeWait => true
  | _ => false

/-- The connection sends no data any more. -/
def TcpState.finished : TcpState → Bool
  | .finWait1 | .finWait2 | .closing | .lastAck | .timeWait | .closed => true
  | _ => false

/-! ## What a segment does to the sending side -/

namespace TcpConn

variable {c c' c'' : TcpConn} {seg : TcpSegment} {state state' : TcpState} {buffered : List UInt8}

/-- The socket is in this state, its sending side is as it was, and what was sent meanwhile is mute. -/
structure Quiet (c c' : TcpConn) (state : TcpState) : Prop where
  state : c'.sock.state = state
  sendBuf : c'.sock.sendBuf = c.sock.sendBuf
  sndNxt : c'.sock.sndNxt = c.sock.sndNxt
  iss : c'.sock.iss = c.sock.iss
  sent : ∃ new, c'.io.sent = c.io.sent ++ new ∧ Mute new

lemma Quiet.of_eq (hstate : c'.sock.state = state) (hbuf : c'.sock.sendBuf = c.sock.sendBuf)
    (hnxt : c'.sock.sndNxt = c.sock.sndNxt) (hiss : c'.sock.iss = c.sock.iss)
    (hsent : c'.io.sent = c.io.sent) : Quiet c c' state :=
  ⟨hstate, hbuf, hnxt, hiss, [], by rw [hsent, List.append_nil], fun _ h => absurd h List.not_mem_nil⟩

lemma Quiet.refl (c : TcpConn) : Quiet c c c.sock.state := .of_eq rfl rfl rfl rfl rfl

lemma Quiet.trans (h₁ : Quiet c c' state) (h₂ : Quiet c' c'' state') : Quiet c c'' state' := by
  obtain ⟨new₁, hsent₁, hmute₁⟩ := h₁.sent
  obtain ⟨new₂, hsent₂, hmute₂⟩ := h₂.sent
  refine ⟨h₂.state, h₂.sendBuf.trans h₁.sendBuf, h₂.sndNxt.trans h₁.sndNxt, h₂.iss.trans h₁.iss,
    new₁ ++ new₂, by rw [hsent₂, hsent₁, List.append_assoc], fun seg hseg => ?_⟩
  rcases List.mem_append.mp hseg with h | h
  · exact hmute₁ seg h
  · exact hmute₂ seg h

lemma quiet_setState (c : TcpConn) (state : TcpState) : Quiet c (c.tcpSetState state) state := by
  rw [tcpSetState_eq]
  exact .of_eq rfl rfl rfl rfl rfl

lemma quiet_send (c : TcpConn) {flags : TcpFlags} (hsyn : flags.syn = false)
    (hfin : flags.fin = false) : Quiet c (c.tcpSendSegment flags []).2 c.sock.state := by
  rcases tcpSendSegment_cases c flags [] with h | h
  · exact .of_eq (by rw [h.sock]) (by rw [h.sock]) (by rw [h.sock]) (by rw [h.sock]) h.sent
  · have hnone : seqLen flags [] = 0 := by
      rw [seqLen, hsyn, hfin]
      rfl
    refine ⟨by rw [h.sock], by rw [h.sock], ?_, by rw [h.sock], _, h.sent, fun seg hseg => ?_⟩
    · rw [h.sock, hnone]
      exact UInt32.add_zero _
    · rw [List.mem_singleton.mp hseg]
      exact ⟨rfl, hfin⟩

lemma quiet_unsent (h : Unsent c c') : Quiet c c' c.sock.state :=
  .of_eq (by rw [h.sock]) (by rw [h.sock]) (by rw [h.sock]) (by rw [h.sock]) h.sent

lemma quiet_sendAck (c : TcpConn) : Quiet c c.sendAck c.sock.state := quiet_send c rfl rfl

lemma quiet_sendRst (c : TcpConn) (srcIp dstIp : UInt32) (srcPort dstPort : UInt16)
    (seq ack : UInt32) : Quiet c (c.tcpSendRst srcIp dstIp srcPort dstPort seq ack) c.sock.state := by
  obtain ⟨new, hsent, hmute⟩ := c.io.tcpSendRst_sent srcIp dstIp srcPort dstPort seq ack
  refine ⟨rfl, rfl, rfl, rfl, new, hsent, fun seg hseg => ?_⟩
  exact ⟨(hmute seg hseg).1, by rw [(hmute seg hseg).2]⟩

lemma quiet_enterTimeWait (c : TcpConn) : Quiet c c.enterTimeWait .timeWait := by
  have hset := quiet_setState c .timeWait
  exact ⟨hset.state, hset.sendBuf, hset.sndNxt, hset.iss, hset.sent⟩

/-- A SYN without ACK opens the connection from the other side: a SYN is sent, if it can be. -/
def OpensTwice (c : TcpConn) (seg : TcpSegment) : Prop :=
  c.sock.state = .synSent ∧ seg.flags.rst = false ∧ seg.flags.syn = true ∧ seg.flags.ack = false ∧
    c.io.sendFails = false

/-- Where a state leads: an open connection stays open or is finished, and a finished one stays so. -/
def Leads (state state' : TcpState) : Prop :=
  (state.sending = true → state'.sending = true ∨ state'.finished = true) ∧
    (state.finished = true → state'.finished = true)

lemma leads_finished {state' : TcpState} (h : state'.finished = true) (state : TcpState) :
    Leads state state' := ⟨fun _ => .inr h, fun _ => h⟩

lemma leads_sending {state state' : TcpState} (h : state'.sending = true)
    (hstate : state.finished = false) : Leads state state' :=
  ⟨fun _ => .inl h, fun hfin => by rw [hstate] at hfin; cases hfin⟩

lemma leads_refl (state : TcpState) : Leads state state := ⟨.inl, id⟩

lemma quiet_receiveSynSent (hc : c.sock.state = .synSent) (hrst : seg.flags.rst = false) (hsyn : ¬ OpensTwice c seg) :
    ∃ state, Quiet c (c.receiveSynSent seg) state ∧ state.sending = true := by
  have hself : Quiet c c .synSent := hc ▸ Quiet.refl c
  unfold receiveSynSent
  split_ifs with hboth hack hbare
  · have hreset := quiet_sendRst c seg.dstIp seg.srcIp seg.dstPort seg.srcPort seg.ack 0
    rw [hc] at hreset
    exact ⟨.synSent, hreset, rfl⟩
  · have hset := quiet_setState (c.modify fun s =>
      { s with
        sndUna := seg.ack
        irs := seg.seq
        rcvNxt := seg.seq + 1
        sndWnd := seg.window.toUInt32 }) .established
    have hsend := quiet_sendAck ((c.modify fun s =>
      { s with
        sndUna := seg.ack
        irs := seg.seq
        rcvNxt := seg.seq + 1
        sndWnd := seg.window.toUInt32 }).tcpSetState .established)
    rw [hset.state] at hsend
    have hend := hset.trans hsend
    exact ⟨.established, ⟨hend.state, hend.sendBuf, hend.sndNxt, hend.iss, hend.sent⟩, rfl⟩
  · -- the SYN of the other side: the second SYN cannot be sent
    have hset := quiet_setState (c.modify fun s => { s with irs := seg.seq, rcvNxt := seg.seq + 1 })
      .synReceived
    have hio : ((c.modify fun s => { s with irs := seg.seq, rcvNxt := seg.seq + 1 }).tcpSetState
        .synReceived).io = c.io := by
      rw [tcpSetState_eq]
      rfl
    have hfails : c.io.sendFails = true := by
      by_contra hok
      refine hsyn ⟨hc, hrst, hbare, ?_, Bool.not_eq_true _ ▸ hok⟩
      by_contra hack
      exact hboth ⟨hbare, Bool.not_eq_false _ ▸ hack⟩
    have hsend := quiet_unsent (@tcpSendSegment_fails _ { syn := true, ack := true } []
      (hio ▸ hfails)).2
    rw [hset.state] at hsend
    have hend := hset.trans hsend
    exact ⟨.synReceived, ⟨hend.state, hend.sendBuf, hend.sndNxt, hend.iss, hend.sent⟩, rfl⟩
  · exact ⟨.synSent, hself, rfl⟩

lemma quiet_receiveEstablished (hc : c.sock.state = .established) (seg : TcpSegment) :
    ∃ state, Quiet c (c.receiveEstablished seg) state ∧ state.sending = true := by
  have hack : Quiet c (c.processAck seg) .established := by
    unfold processAck
    split_ifs
    · exact .of_eq hc rfl rfl rfl rfl
    · exact hc ▸ Quiet.refl c
  have hdata : ∀ d : TcpConn, Quiet d (d.processData seg) d.sock.state := by
    intro d
    unfold processData
    split_ifs
    · exact .refl d
    · have hsend := quiet_sendAck (d.modify fun s =>
        { s with
          recvBuf := (d.sock.recvBuf.ringBufferWrite seg.data).2
          rcvNxt := s.rcvNxt + UInt32.ofNat (d.sock.recvBuf.ringBufferWrite seg.data).1
          rcvWnd := UInt32.ofNat (d.sock.recvBuf.ringBufferWrite seg.data).2.ringBufferSpace })
      exact ⟨hsend.state, hsend.sendBuf, hsend.sndNxt, hsend.iss, hsend.sent⟩
    · exact quiet_sendAck d
  have hopen := hdata (c.processAck seg)
  rw [hack.state] at hopen
  have htaken := hack.trans hopen
  unfold receiveEstablished
  generalize (c.processAck seg).processData seg = d at htaken
  unfold processFin
  split_ifs
  · have hset : Quiet d (d.countFin.tcpSetState .closeWait) .closeWait := by
      have h := quiet_setState d.countFin .closeWait
      exact ⟨h.state, h.sendBuf, h.sndNxt, h.iss, h.sent⟩
    have hsend := quiet_sendAck (d.countFin.tcpSetState .closeWait)
    rw [hset.state] at hsend
    exact ⟨.closeWait, htaken.trans (hset.trans hsend), rfl⟩
  · exact ⟨.established, htaken, rfl⟩

lemma quiet_receiveFinWait1 (hc : c.sock.state = .finWait1) (seg : TcpSegment) :
    ∃ state, Quiet c (c.receiveFinWait1 seg) state ∧ state.finished = true := by
  unfold receiveFinWait1
  obtain ⟨acked, hacked, state, hfinished, hquiet⟩ : ∃ acked,
      (if seg.flags.ack = true ∧ seg.ack = c.sock.sndNxt then c.tcpSetState .finWait2 else c) = acked ∧
      ∃ state, state.finished = true ∧ Quiet c acked state := by
    refine ⟨_, rfl, ?_⟩
    split_ifs
    · exact ⟨.finWait2, rfl, quiet_setState c .finWait2⟩
    · exact ⟨.finWait1, rfl, hc ▸ Quiet.refl c⟩
  rw [hacked]
  have hanswer : Quiet acked acked.countFin.sendAck acked.sock.state := by
    have h := quiet_sendAck acked.countFin
    exact ⟨h.state, h.sendBuf, h.sndNxt, h.iss, h.sent⟩
  have hboth := hquiet.trans hanswer
  dsimp only
  split_ifs
  · exact ⟨.timeWait, hboth.trans (quiet_enterTimeWait _), rfl⟩
  · exact ⟨.closing, hboth.trans (quiet_setState _ .closing), rfl⟩
  · exact ⟨state, hquiet, hfinished⟩

/-- **Incoming segments** leave the sending side alone, a bare SYN in SYN_SENT apart. -/
lemma quiet_tcpReceive (hlisten : c.sock.state ≠ .listen) (hsyn : ¬ OpensTwice c seg) :
    ∃ state, Quiet c (c.tcpReceive seg) state ∧ Leads c.sock.state state := by
  have hself : Quiet c c c.sock.state := .refl c
  unfold tcpReceive
  by_cases hreset : seg.flags.rst = true
  · rw [if_pos hreset, if_pos hlisten]
    exact ⟨.closed, quiet_setState c .closed, leads_finished rfl _⟩
  rw [if_neg hreset]
  have hrst : seg.flags.rst = false := Bool.not_eq_true _ ▸ hreset
  cases hc : c.sock.state
  all_goals rw [hc] at hself
  case listen => exact absurd hc hlisten
  case closed =>
    have h := quiet_sendRst c seg.dstIp seg.srcIp seg.dstPort seg.srcPort seg.ack (seg.seq + 1)
    rw [hc] at h
    exact ⟨.closed, h, leads_refl _⟩
  case synSent =>
    obtain ⟨state, hquiet, hstate⟩ := quiet_receiveSynSent hc hrst hsyn
    exact ⟨state, hquiet, leads_sending hstate rfl⟩
  case synReceived =>
    simp only [receiveSynReceived]
    split_ifs
    · have h := quiet_setState (c.modify fun s =>
        { s with sndUna := seg.ack, sndWnd := seg.window.toUInt32 }) .established
      exact ⟨.established, ⟨h.state, h.sendBuf, h.sndNxt, h.iss, h.sent⟩, leads_sending rfl rfl⟩
    · exact ⟨.synReceived, hself, leads_refl _⟩
  case established =>
    obtain ⟨state, hquiet, hstate⟩ := quiet_receiveEstablished hc seg
    exact ⟨state, hquiet, leads_sending hstate rfl⟩
  case finWait1 =>
    obtain ⟨state, hquiet, hstate⟩ := quiet_receiveFinWait1 hc seg
    exact ⟨state, hquiet, leads_finished hstate _⟩
  case finWait2 =>
    simp only [receiveFinWait2]
    split_ifs
    · have hwait : Quiet c c.countFin.enterTimeWait .timeWait := by
        have h := quiet_enterTimeWait c.countFin
        exact ⟨h.state, h.sendBuf, h.sndNxt, h.iss, h.sent⟩
      have hsend := quiet_sendAck c.countFin.enterTimeWait
      rw [hwait.state] at hsend
      exact ⟨.timeWait, hwait.trans hsend, leads_finished rfl _⟩
    · exact ⟨.finWait2, hself, leads_refl _⟩
  case closeWait =>
    simp only [receiveCloseWait]
    split_ifs
    · exact ⟨.closeWait, .of_eq hc rfl rfl rfl rfl, leads_refl _⟩
    · exact ⟨.closeWait, hself, leads_refl _⟩
  case closing =>
    simp only [receiveClosing]
    split_ifs
    · exact ⟨.timeWait, quiet_enterTimeWait c, leads_finished rfl _⟩
    · exact ⟨.closing, hself, leads_refl _⟩
  case lastAck =>
    simp only [receiveLastAck]
    split_ifs
    · have h := quiet_setState c .closed
      exact ⟨.closed, ⟨h.state, h.sendBuf, h.sndNxt, h.iss, h.sent⟩, leads_finished rfl _⟩
    · exact ⟨.lastAck, hself, leads_refl _⟩
  case timeWait =>
    simp only
    split_ifs
    · have hsend := quiet_sendAck c
      rw [hc] at hsend
      exact ⟨.timeWait, hsend, leads_refl _⟩
    · exact ⟨.timeWait, hself, leads_refl _⟩

/-! ## What `tcp_output` does -/

/-- `tcp_output` would take data and lose it: there is memory to copy it, and `tcp_send_segment`
fails. -/
def LosesOutput (c : TcpConn) : Prop :=
  c.sock.tcpCanSend = true ∧ toSend c.sock ≠ 0 ∧ c.io.kmalloc.1 = true ∧ c.io.kmalloc.2.sendFails = true

/-- **What `tcp_output` does**: nothing, or the first bytes of the buffer leave it in a segment. -/
lemma tcpOutput_cases (hholds : c.sock.sendBuf.Holds buffered) (hkeeps : ¬ c.LosesOutput) :
    Quiet c c.tcpOutput c.sock.state ∨ ∃ seg, c.tcpOutput.io.sent = c.io.sent ++ [seg] ∧ seg.seq = c.sock.sndNxt ∧
        seg.data = buffered.take (toSend c.sock) ∧ seg.flags.fin = false ∧
        c.sock.tcpCanSend = true ∧
        c.tcpOutput.sock.sendBuf.Holds (buffered.drop seg.data.length) ∧
        c.tcpOutput.sock.sndNxt = c.sock.sndNxt + UInt32.ofNat seg.data.length ∧
        c.tcpOutput.sock.state = c.sock.state ∧ c.tcpOutput.sock.iss = c.sock.iss := by
  unfold LosesOutput at hkeeps
  unfold tcpOutput
  have hsame := c.io.kmalloc_same
  rcases hmalloc : c.io.kmalloc with ⟨ok, io⟩
  rw [hmalloc] at hkeeps hsame
  dsimp only at hkeeps hsame ⊢
  split_ifs with hcan hzero hok
  · exact .inl (.refl c)
  · have hsends : io.sendFails = false := by
      by_contra hfails
      exact hkeeps ⟨hcan, hzero, hok, Bool.not_eq_false _ ▸ hfails⟩
    obtain ⟨-, hsent⟩ := @tcpSendSegment_succeeds { c with io := io }
      { ack := true, psh := (c.sock.sendBuf.ringBufferPeek (toSend c.sock)).length =
        c.sock.sendBuf.used } (c.sock.sendBuf.ringBufferPeek (toSend c.sock)) hsends
    have hlen : seqLen { ack := true, psh := (c.sock.sendBuf.ringBufferPeek (toSend c.sock)).length =
        c.sock.sendBuf.used } (c.sock.sendBuf.ringBufferPeek (toSend c.sock)) =
        UInt32.ofNat (c.sock.sendBuf.ringBufferPeek (toSend c.sock)).length :=
      (UInt32.add_zero _).trans (UInt32.add_zero _)
    refine .inr ⟨_, hsent.sent.trans (congrArg (· ++ _) hsame.1), rfl, hholds.peek _, rfl, hcan, ?_, ?_, ?_, ?_⟩
    · simp only [modify, hsent.sock]
      exact (hholds.read _).2
    · simp only [modify, hsent.sock]
      rw [hlen]
      rfl
    · simp only [modify, hsent.sock]
    · simp only [modify, hsent.sock]
  · exact .inl (.of_eq rfl rfl rfl rfl hsame.1)
  · exact .inl (.refl c)

end TcpConn

/-! ## Segments in order -/

/-- The segments with data follow each other from place `o` of the stream on: each has the sequence
number of its place. -/
def InOrder (iss : UInt32) : Nat → List TcpSegment → Prop
  | _, [] => True
  | o, seg :: rest =>
    (seg.data ≠ [] → seg.seq = iss + 1 + UInt32.ofNat o) ∧ InOrder iss (o + seg.data.length) rest

lemma inOrder_append {iss : UInt32} {o : Nat} {segs rest : List TcpSegment} : InOrder iss o (segs ++ rest) ↔
      InOrder iss o segs ∧ InOrder iss (o + (bytesOf segs).length) rest := by
  induction segs generalizing o with
  | nil => exact ⟨fun h => ⟨trivial, h⟩, fun h => h.2⟩
  | cons seg segs ih =>
    have hbytes : (bytesOf (seg :: segs)).length = seg.data.length + (bytesOf segs).length := by
      rw [bytesOf, List.flatMap_cons, List.length_append]
      rfl
    rw [List.cons_append, InOrder, InOrder, ih, hbytes, ← Nat.add_assoc, and_assoc]

lemma inOrder_mute {iss : UInt32} {o : Nat} {segs : List TcpSegment} (h : Mute segs) : InOrder iss o segs := by
  induction segs generalizing o with
  | nil => trivial
  | cons seg segs ih =>
    refine ⟨fun hdata => absurd (h seg List.mem_cons_self).1 hdata, ih fun seg' hseg' => ?_⟩
    exact h seg' (List.mem_cons_of_mem seg hseg')

/-! ## The sender -/

/-- A socket, and the bytes that `tcp_send` has accepted. -/
structure Sender where
  conn : TcpConn
  accepted : List UInt8 := []

/-- The application sends or closes, `tcp_output` is called, a segment arrives, and the clock and the
outcomes of allocations and `ip_send`s change. -/
inductive SenderEvent
  | send (data : List UInt8)
  | output
  | close
  | segment (seg : TcpSegment)
  | outside (now : UInt32) (allocs : List Bool) (sends : List Int)

namespace Sender

variable {m m' : Sender} {buffered : List UInt8} {c : TcpConn} {seg : TcpSegment}

def apply (m : Sender) : SenderEvent → Sender
  | .send data =>
    { conn := (m.conn.tcpSend data).2
      accepted := m.accepted ++ data.take (m.conn.tcpSend data).1.toNat }
  | .output => { m with conn := m.conn.tcpOutput }
  | .close => { m with conn := m.conn.tcpClose }
  | .segment seg => { m with conn := m.conn.tcpReceive seg }
  | .outside now allocs sends =>
    { m with conn := { m.conn with
      io := { m.conn.io with now := now, allocs := allocs, sends := sends } } }

/-- The socket is used as long as it is not destroyed. -/
def Step (m : Sender) (e : SenderEvent) (m' : Sender) : Prop :=
  m.conn.freed = false ∧ m' = m.apply e

/-- A connection whose SYN was sent, and nothing else yet. -/
structure Opened (m : Sender) : Prop where
  state : m.conn.sock.state = .synSent ∨ m.conn.sock.state = .synReceived ∨ m.conn.sock.state = .established
  sndNxt : m.conn.sock.sndNxt = m.conn.sock.iss + 1
  empty : m.conn.sock.sendBuf.Holds []
  sent : m.conn.io.sent = []
  accepted : m.accepted = []

/-- The sequence number of a place in the stream of accepted bytes. -/
def seqAt (m : Sender) (o : Nat) : UInt32 := m.conn.sock.iss + 1 + UInt32.ofNat o

/-- Each segment with data has the sequence number of its place, behind all the bytes sent before it,
and carries the bytes that stand there.  Together the segments carry the beginning of the stream.  A
FIN stands behind its end. -/
structure Faithful (m : Sender) : Prop where
  data : ∀ before seg after, m.conn.io.sent = before ++ seg :: after → seg.data ≠ [] →
    seg.seq = m.seqAt (bytesOf before).length ∧ seg.data <+: m.accepted.drop (bytesOf before).length
  cover : bytesOf m.conn.io.sent <+: m.accepted
  fin : ∀ seg ∈ m.conn.io.sent, seg.flags.fin = true → seg.seq = m.seqAt m.accepted.length

/-- `tcp_send` has put the data into the buffer. -/
def written (m : Sender) (data : List UInt8) : TcpConn := m.conn.modify (·.withData data)

/-- Nothing is lost on the way: when `tcp_output` takes data, the segment is sent; when `tcp_close`
sends a FIN, the buffer is empty; and no second SYN is sent. -/
def Lossless (m : Sender) : SenderEvent → Prop
  | .send data => data ≠ [] → 0 < m.conn.sock.sendBuf.ringBufferSpace → ¬ (m.written data).LosesOutput
  | .output => ¬ m.conn.LosesOutput
  | .close => m.conn.sock.state.sending = true → m.conn.sock.state ≠ .synSent →
      m.conn.sock.sendBuf.used = 0 ∨ m.conn.io.sendFails = true
  | .segment seg => ¬ m.conn.OpensTwice seg
  | .outside .. => True

def LosslessStep (m : Sender) (e : SenderEvent) (m' : Sender) : Prop := Step m e m' ∧ m.Lossless e

/-! ## The invariant -/

/-- The connection still sends, the next sequence number is that of the first byte not sent, and no FIN
was sent; or it has finished, and the FIN, if it was sent, stands at the end. -/
inductive Phase (m : Sender) : Prop
  | sending (hstate : m.conn.sock.state.sending = true)
      (hnxt : m.conn.sock.sndNxt = m.seqAt (bytesOf m.conn.io.sent).length)
      (hfin : ∀ seg ∈ m.conn.io.sent, seg.flags.fin = false)
  | finished (hstate : m.conn.sock.state.finished = true)
      (hfin : ∀ seg ∈ m.conn.io.sent, seg.flags.fin = true → seg.seq = m.seqAt m.accepted.length)

/-- What was sent and what is buffered are together the accepted bytes. -/
structure Sending (m : Sender) (buffered : List UInt8) : Prop where
  holds : m.conn.sock.sendBuf.Holds buffered
  total : bytesOf m.conn.io.sent ++ buffered = m.accepted
  order : InOrder m.conn.sock.iss 0 m.conn.io.sent
  phase : Phase m

lemma Sending.faithful (h : m.Sending buffered) : m.Faithful where
  data before seg after hsplit hdata := by
    have horder := h.order
    rw [hsplit, inOrder_append, Nat.zero_add] at horder
    refine ⟨horder.2.1 hdata, ?_⟩
    rw [← h.total, hsplit, bytesOf_append, List.append_assoc, List.drop_left]
    change seg.data <+: bytesOf ([seg] ++ after) ++ buffered
    rw [bytesOf_append, List.append_assoc]
    have hone : bytesOf [seg] = seg.data := by rw [bytesOf, List.flatMap_singleton]
    rw [hone]
    exact List.prefix_append _ _
  cover := h.total ▸ List.prefix_append _ _
  fin seg hseg hfin := by
    cases h.phase with
    | sending _ _ hnone =>
      rw [hnone seg hseg] at hfin
      cases hfin
    | finished _ hat => exact hat seg hseg hfin

/-! ## The events -/

lemma Sending.quiet {state : TcpState} (h : m.Sending buffered) (hquiet : TcpConn.Quiet m.conn c state)
    (hleads : TcpConn.Leads m.conn.sock.state state) : Sending { m with conn := c } buffered := by
  obtain ⟨new, hsent, hmute⟩ := hquiet.sent
  have hbytes : bytesOf c.io.sent = bytesOf m.conn.io.sent := by
    rw [hsent, bytesOf_append, hmute.bytesOf_eq, List.append_nil]
  have hseq : ∀ o, seqAt { m with conn := c } o = m.seqAt o := fun o => by
    rw [seqAt, seqAt, hquiet.iss]
  have hnew : ∀ seg ∈ c.io.sent, seg.flags.fin = true → seg ∈ m.conn.io.sent := by
    intro seg hseg hfin
    rw [hsent, List.mem_append] at hseg
    refine hseg.resolve_right fun hmem => ?_
    rw [(hmute seg hmem).2] at hfin
    cases hfin
  refine ⟨hquiet.sendBuf ▸ h.holds, ?_, ?_, ?_⟩
  · rw [← h.total, ← hbytes]
  · dsimp only
    rw [hquiet.iss, hsent, inOrder_append]
    exact ⟨h.order, inOrder_mute hmute⟩
  · cases h.phase with
    | sending hstate hnxt hnone =>
      have hfin : ∀ seg ∈ c.io.sent, seg.flags.fin = false := by
        intro seg hseg
        by_contra hfin
        rw [Bool.not_eq_false] at hfin
        rw [hnone seg (hnew seg hseg hfin)] at hfin
        cases hfin
      rcases hleads.1 hstate with hsending | hfinished
      · refine .sending (hquiet.state.symm ▸ hsending) ?_ hfin
        rw [hseq, hbytes]
        exact hquiet.sndNxt.trans hnxt
      · refine .finished (hquiet.state.symm ▸ hfinished) fun seg hseg h => ?_
        rw [hfin seg hseg] at h
        cases h
    | finished hstate hat =>
      refine .finished (hquiet.state.symm ▸ hleads.2 hstate) fun seg hseg hfin => ?_
      rw [hseq]
      exact hat seg (hnew seg hseg hfin) hfin

lemma sending_of_canSend (h : m.conn.sock.tcpCanSend = true) :
    m.conn.sock.state.sending = true ∧ m.conn.sock.state.finished = false := by
  unfold TcpSocket.tcpCanSend at h
  rcases (Bool.or_eq_true _ _).mp h with hstate | hstate
  · rw [of_decide_eq_true hstate]
    exact ⟨rfl, rfl⟩
  · rw [of_decide_eq_true hstate]
    exact ⟨rfl, rfl⟩

/-- **`tcp_output`.** -/
lemma Sending.output (h : m.Sending buffered) (hkeeps : ¬ m.conn.LosesOutput) :
    ∃ buffered', Sending { m with conn := m.conn.tcpOutput } buffered' := by
  rcases TcpConn.tcpOutput_cases h.holds hkeeps with
    hquiet | ⟨seg, hsent, hseq, hdata, hfin, hcan, hbuf, hnxt, hstate, hiss⟩
  · exact ⟨buffered, h.quiet hquiet (TcpConn.leads_refl _)⟩
  · have hone : bytesOf [seg] = seg.data := by rw [bytesOf, List.flatMap_singleton]
    have htake : seg.data = buffered.take seg.data.length := by
      nth_rewrite 1 [hdata]
      rw [hdata, List.length_take, ← List.take_eq_take_min]
    obtain ⟨hsending, hnot⟩ := sending_of_canSend hcan
    cases h.phase with
    | finished hfinished => rw [hnot] at hfinished; cases hfinished
    | sending _ hplace hnone =>
      refine ⟨buffered.drop seg.data.length, hbuf, ?_, ?_, .sending (hstate.symm ▸ hsending) ?_ ?_⟩
      · dsimp only
        rw [hsent, bytesOf_append, hone, List.append_assoc, ← h.total]
        nth_rewrite 1 [htake]
        rw [List.take_append_drop]
      · dsimp only
        rw [hsent, hiss, inOrder_append, Nat.zero_add]
        exact ⟨h.order, fun _ => hseq.trans hplace, trivial⟩
      · dsimp only
        rw [hsent, bytesOf_append, hone, hnxt, hplace, List.length_append, seqAt, seqAt, hiss,
          UInt32.ofNat_add, UInt32.add_assoc]
      · intro seg' hseg'
        rw [hsent, List.mem_append, List.mem_singleton] at hseg'
        rcases hseg' with hold | rfl
        · exact hnone seg' hold
        · exact hfin

lemma Sending.write (h : m.Sending buffered) (hcan : m.conn.sock.tcpCanSend = true) (data : List UInt8) :
    Sending ⟨m.written data, m.accepted ++ data.take (m.conn.sock.sendBuf.ringBufferWrite data).1⟩
      (buffered ++ data.take m.conn.sock.sendBuf.ringBufferSpace) := by
  obtain ⟨hlen, hbuf⟩ := h.holds.write data
  refine ⟨hbuf, ?_, h.order, ?_⟩
  · dsimp only
    rw [← h.total, hlen, List.append_assoc, min_comm, ← List.take_eq_take_min]
    rfl
  · cases h.phase with
    | finished hfinished =>
      rw [(sending_of_canSend hcan).2] at hfinished
      cases hfinished
    | sending hstate hnxt hnone => exact .sending hstate hnxt hnone

/-- **`tcp_send`.** -/
lemma Sending.send (h : m.Sending buffered) {data : List UInt8} (hkeeps : m.Lossless (.send data)) :
    ∃ buffered', Sending (m.apply (.send data)) buffered' := by
  rcases m.conn.tcpSend_cases data with ⟨hzero, hsame⟩ | ⟨hcan, hnil, hspace, hanswer⟩
  · refine ⟨buffered, ?_⟩
    rw [apply, hsame, hzero, List.take_zero, List.append_nil]
    exact h
  · obtain ⟨buffered', hout⟩ := (h.write hcan data).output (hkeeps hnil hspace)
    refine ⟨buffered', ?_⟩
    rw [apply, hanswer]
    exact hout

lemma Sending.sendFin {state : TcpState} (h : m.Sending buffered) (hnot : m.conn.sock.state.finished = false)
    (hstate : state.finished = true)
    (hkeeps : m.conn.sock.sendBuf.used = 0 ∨ m.conn.io.sendFails = true) :
    Sending { m with conn := m.conn.sendFin state } buffered := by
  have hset := TcpConn.quiet_setState m.conn state
  have hmid := h.quiet hset (TcpConn.leads_finished hstate _)
  have hio : (m.conn.tcpSetState state).io = m.conn.io := by
    rw [TcpConn.tcpSetState_eq]
    rfl
  rcases TcpConn.tcpSendSegment_cases (m.conn.tcpSetState state) { fin := true, ack := true } [] with
    hunsent | hsent
  · have hquiet := TcpConn.quiet_unsent hunsent
    exact hmid.quiet hquiet (TcpConn.leads_refl _)
  · have hempty : buffered = [] := by
      rcases hkeeps with hused | hfails
      · exact List.length_eq_zero_iff.mp (h.holds.used.symm.trans hused)
      · have hnone := (@TcpConn.tcpSendSegment_fails (m.conn.tcpSetState state)
          { fin := true, ack := true } [] (hio.symm ▸ hfails)).2.sent
        rw [hsent.sent] at hnone
        exact absurd (List.append_right_eq_self.mp hnone) (List.cons_ne_nil _ _)
    subst hempty
    have hsock := hsent.sock
    have hbytes : bytesOf [(m.conn.tcpSetState state).segment { fin := true, ack := true } []] = [] :=
      rfl
    cases h.phase with
    | finished hfinished => rw [hnot] at hfinished; cases hfinished
    | sending _ hplace hnone =>
      have htotal := h.total
      rw [List.append_nil] at htotal
      have hiss : (m.conn.sendFin state).sock.iss = m.conn.sock.iss := by
        rw [TcpConn.sendFin, hsock]
        exact hset.iss
      have hall : (m.conn.sendFin state).io.sent = m.conn.io.sent ++
          [(m.conn.tcpSetState state).segment { fin := true, ack := true } []] := by
        rw [TcpConn.sendFin, hsent.sent, hio]
      refine ⟨?_, ?_, ?_, .finished ?_ ?_⟩
      · dsimp only
        rw [TcpConn.sendFin, hsock]
        exact hmid.holds
      · dsimp only
        rw [hall, bytesOf_append, hbytes, List.append_nil, List.append_nil]
        exact htotal
      · dsimp only
        rw [hall, hiss, inOrder_append]
        exact ⟨h.order, fun hdata => absurd rfl hdata, trivial⟩
      · dsimp only
        rw [TcpConn.sendFin, hsock]
        exact hset.state.symm ▸ hstate
      · intro seg hseg hfin
        dsimp only at hseg ⊢
        rw [hall, List.mem_append, List.mem_singleton] at hseg
        rcases hseg with hold | rfl
        · rw [hnone seg hold] at hfin
          cases hfin
        · rw [seqAt, hiss, ← htotal]
          exact hset.sndNxt.trans hplace

/-- **`tcp_close`.** -/
lemma Sending.close (h : m.Sending buffered) (hkeeps : m.Lossless .close) : Sending (m.apply .close) buffered := by
  change Sending { m with conn := m.conn.tcpClose } buffered
  have hself : TcpConn.Quiet m.conn m.conn m.conn.sock.state := .refl m.conn
  have hsame := h.quiet hself (TcpConn.leads_refl _)
  have hfin : ∀ state : TcpState, state.finished = true → m.conn.sock.state ≠ .synSent →
      m.conn.sock.state.sending = true → m.conn.sock.state.finished = false →
      Sending { m with conn := m.conn.sendFin state } buffered :=
    fun state hstate hne hsending hnot => h.sendFin hnot hstate (hkeeps hsending hne)
  unfold TcpConn.tcpClose
  cases hc : m.conn.sock.state
  all_goals rw [hc] at hfin
  case closed => exact h.quiet (.of_eq hc rfl rfl rfl rfl) (TcpConn.leads_finished rfl _)
  case listen =>
    cases h.phase with
    | sending hsending => rw [hc] at hsending; cases hsending
    | finished hfinished => rw [hc] at hfinished; cases hfinished
  case synSent =>
    have hset := TcpConn.quiet_setState m.conn .closed
    exact h.quiet ⟨hset.state, hset.sendBuf, hset.sndNxt, hset.iss, hset.sent⟩
      (TcpConn.leads_finished rfl _)
  case synReceived => exact hfin .finWait1 rfl (by decide) rfl rfl
  case established => exact hfin .finWait1 rfl (by decide) rfl rfl
  case closeWait => exact hfin .lastAck rfl (by decide) rfl rfl
  all_goals exact hsame

/-- **One event.** -/
lemma Sending.step {e : SenderEvent} (h : m.Sending buffered) (hstep : LosslessStep m e m') :
    ∃ buffered', m'.Sending buffered' := by
  obtain ⟨⟨-, rfl⟩, hkeeps⟩ := hstep
  cases e with
  | send data => exact h.send hkeeps
  | output => exact h.output hkeeps
  | close => exact ⟨buffered, h.close hkeeps⟩
  | segment seg =>
    have hlisten : m.conn.sock.state ≠ .listen := by
      intro hc
      cases h.phase with
      | sending hsending => rw [hc] at hsending; cases hsending
      | finished hfinished => rw [hc] at hfinished; cases hfinished
    obtain ⟨state, hquiet, hleads⟩ := TcpConn.quiet_tcpReceive hlisten hkeeps
    exact ⟨buffered, h.quiet hquiet hleads⟩
  | outside now allocs sends =>
    exact ⟨buffered, h.quiet (.of_eq rfl rfl rfl rfl rfl) (TcpConn.leads_refl _)⟩

/-- **The stream is sent faithfully** in every run from an opened connection in which nothing is
lost. -/
theorem faithful_of_steps {es : List SenderEvent} (hopen : m.Opened)
    (hrun : Steps LosslessStep m es m') : m'.Faithful := by
  have hinit : m.Sending [] := by
    refine ⟨hopen.empty, ?_, ?_, .sending ?_ ?_ ?_⟩
    · rw [hopen.sent, hopen.accepted]
      rfl
    · rw [hopen.sent]
      trivial
    · rcases hopen.state with h | h | h
      · rw [h]
        rfl
      · rw [h]
        rfl
      · rw [h]
        rfl
    · rw [hopen.sent, seqAt]
      exact hopen.sndNxt.trans (UInt32.add_zero _).symm
    · rw [hopen.sent]
      exact fun _ h => absurd h List.not_mem_nil
  obtain ⟨buffered, hsending⟩ : ∃ buffered, m'.Sending buffered :=
    hrun.invariant (I := fun m => ∃ buffered, m.Sending buffered)
      (fun _ _ _ ⟨_, ht⟩ hstep => ht.step hstep) ⟨[], hinit⟩
  exact hsending.faithful

/-- An established connection to a peer with a window of two bytes. -/
def narrowSender : Sender :=
  { conn :=
      { sock := { state := .established, iss := 1000, sndUna := 1001, sndNxt := 1001, sndWnd := 2 }
        io := {} } }

lemma opened_narrowSender : narrowSender.Opened :=
  ⟨.inr (.inr rfl), rfl, ⟨by decide, rfl, rfl, by decide, rfl⟩, rfl, rfl⟩

/-- Three bytes go out in two segments, and the FIN follows. -/
theorem faithful_of_two_segments : ∃ m, Steps LosslessStep narrowSender [.send [1, 2, 3], .output, .close] m ∧
    m.conn.io.sent.map (fun seg => (seg.seq, seg.data, seg.flags.fin)) =
      [(1001, [1, 2], false), (1003, [3], false), (1004, [], true)] ∧ m.Faithful := by
  obtain ⟨m, hrun, hsent⟩ : ∃ m, Steps LosslessStep narrowSender
      [.send [1, 2, 3], .output, .close] m ∧
      m.conn.io.sent.map (fun seg => (seg.seq, seg.data, seg.flags.fin)) =
        [(1001, [1, 2], false), (1003, [3], false), (1004, [], true)] := by
    refine ⟨_, .cons ⟨⟨rfl, rfl⟩, fun _ _ h => ?_⟩ (.cons ⟨⟨rfl, rfl⟩, fun h => ?_⟩
      (.cons ⟨⟨rfl, rfl⟩, fun _ _ => .inl ?_⟩ (.nil _))), ?_⟩
    · exact absurd h.2.2.2 (by decide)
    · exact absurd h.2.2.2 (by decide)
    · decide
    · decide
  exact ⟨m, hrun, hsent, faithful_of_steps opened_narrowSender hrun⟩

/-- The third byte is still in the buffer when the connection is closed: the FIN has its sequence
number. -/
theorem fin_before_last_byte : ∃ m, narrowSender.Opened ∧
    Steps Step narrowSender [.send [1, 2, 3], .close] m ∧ ¬ m.Faithful := by
  refine ⟨_, opened_narrowSender, .cons ⟨rfl, rfl⟩ (.cons ⟨rfl, rfl⟩ (.nil _)), fun h => ?_⟩
  have hseqs : ∀ seg ∈ ((narrowSender.apply (.send [1, 2, 3])).apply .close).conn.io.sent,
      seg.flags.fin = true → seg.seq = 1004 := h.fin
  exact absurd hseqs (by decide)

end Sender

end AAAos
