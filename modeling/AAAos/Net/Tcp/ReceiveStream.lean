import AAAos.Lib.Trace
import AAAos.Net.Tcp.TcpSocket

/-!
# The received stream

The peer's stream is a SYN, data, and a FIN, and takes one sequence number for each item.  What
arrives are slices of it, in any order, some of them twice and some not at all.  The application
reads, and may close.

**What goes wrong.**  A FIN is taken wherever it stands: `tcp_receive` counts it and changes the state
without a look at its sequence number.  When data before it is missing, the application sees the end
of the stream too early, and the data is not accepted any more.  The same happens when the data of the
FIN's own segment does not fit into the buffer, and after `tcp_close`, when data is not accepted at
all.

**What is proved.**  If every FIN comes when all before it was taken, or brings the missing rest along
and there is room for it (`Complete`), the bytes read are the beginning of the data, and the end of the
stream is seen after the last byte (`intact_of_steps`).
-/

namespace AAAos

/-! ## The peer's stream -/

/-- A SYN with this number, the data, and a FIN. -/
structure PeerStream where
  irs : UInt32
  data : List UInt8

/-- The sequence number of a segment's FIN. -/
def TcpSegment.finSeq (seg : TcpSegment) : UInt32 :=
  seg.seq + TcpConn.seqLen seg.flags seg.data - 1

namespace PeerStream

variable {S : PeerStream} {i j : Nat} {seg : TcpSegment}

/-- The place of the FIN. -/
def finPos (S : PeerStream) : Nat := S.data.length + 1

/-- The sequence number of a place in the stream. -/
def seqAt (S : PeerStream) (i : Nat) : UInt32 := S.irs + UInt32.ofNat i

/-- The segment carries the places from `i` to `j - 1`.  Its acknowledgement and its window may be
any. -/
structure Slice (S : PeerStream) (i j : Nat) (seg : TcpSegment) : Prop where
  order : i ≤ j
  bound : j ≤ S.finPos + 1
  seq : seg.seq = S.seqAt i
  syn : seg.flags.syn = decide (i = 0 ∧ 0 < j)
  fin : seg.flags.fin = decide (i < j ∧ j = S.finPos + 1)
  rst : seg.flags.rst = false
  data : seg.data = (S.data.take (j - 1)).drop (i - 1)

lemma seqAt_add (S : PeerStream) (i n : Nat) : S.seqAt i + UInt32.ofNat n = S.seqAt (i + n) := by
  rw [seqAt, seqAt, UInt32.ofNat_add, UInt32.add_assoc]

lemma Slice.finSeq_eq (h : S.Slice i j seg) (hfin : seg.flags.fin = true) : seg.finSeq = S.seqAt S.finPos := by
  have hend := h.fin
  rw [hfin, eq_comm, decide_eq_true_eq] at hend
  obtain ⟨hlt, rfl⟩ := hend
  have hdata : seg.data.length = S.data.length - (i - 1) := by
    rw [h.data, List.length_drop, List.length_take, finPos]
    congr 1
    omega
  have hlast : ∀ n : UInt32, n + 1 - 1 = n := fun n => by
    rw [UInt32.add_sub_cancel]
  rw [TcpSegment.finSeq, TcpConn.seqLen, hfin, if_pos rfl, ← UInt32.add_assoc, hlast, h.seq,
    ← UInt32.add_assoc, seqAt_add, h.syn, hdata]
  unfold finPos at hlt ⊢
  by_cases hi : i = 0
  · rw [if_pos (decide_eq_true ⟨hi, by omega⟩)]
    have hone : (1 : UInt32) = UInt32.ofNat 1 := rfl
    rw [hone, seqAt_add]
    congr 1
    omega
  · rw [if_neg (by rw [decide_eq_true_eq]; exact fun hn => hi hn.1), UInt32.add_zero]
    congr 1
    omega

lemma Slice.append_prefix {taken : List UInt8} (h : S.Slice i j seg) (htaken : taken <+: S.data)
    (hi : i = taken.length + 1) (n : Nat) : taken ++ seg.data.take n <+: S.data := by
  have hpre : taken = S.data.take taken.length := List.prefix_iff_eq_take.mp htaken
  rw [h.data, hi, Nat.add_sub_cancel, List.drop_take, List.take_take]
  nth_rewrite 1 [hpre]
  rw [← List.take_add]
  exact List.take_prefix _ _

lemma Slice.append_eq {taken : List UInt8} (h : S.Slice i j seg) (htaken : taken <+: S.data)
    (hi : i = taken.length + 1) (hfin : seg.flags.fin = true) : taken ++ seg.data = S.data := by
  have hend := h.fin
  rw [hfin, eq_comm, decide_eq_true_eq] at hend
  have hpre : taken = S.data.take taken.length := List.prefix_iff_eq_take.mp htaken
  rw [h.data, hi, hend.2, Nat.add_sub_cancel, Nat.add_sub_cancel, finPos, List.take_of_length_le (Nat.le_succ _)]
  nth_rewrite 1 [hpre]
  exact List.take_append_drop _ _

end PeerStream

/-! ## The receiver -/

/-- A socket, and what `tcp_recv` has returned so far. -/
structure Receiver where
  conn : TcpConn
  returned : List UInt8 := []

/-- The slice with these bounds arrives, the application reads or closes, and the clock and the
outcomes of allocations and `ip_send`s change. -/
inductive ReceiverEvent
  | segment (i j : Nat) (seg : TcpSegment)
  | recv (maxLen : Nat)
  | close
  | outside (now : UInt32) (allocs : List Bool) (sends : List Int)

/-- The peer's FIN was taken. -/
def TcpState.finTaken : TcpState → Bool
  | .closeWait | .closing | .lastAck | .timeWait => true
  | _ => false

/-- The peer's FIN was not taken yet, and the connection is open. -/
def TcpState.expects : TcpState → Bool
  | .established | .finWait1 | .finWait2 => true
  | _ => false

lemma TcpState.finTaken_of_expects {state : TcpState} (h : state.expects = true) : state.finTaken = false := by
  cases state
  all_goals first | rfl | cases h

namespace Receiver

variable {S : PeerStream} {m m' : Receiver} {buffered : List UInt8} {seg : TcpSegment} {i j : Nat}

def apply (m : Receiver) : ReceiverEvent → Receiver
  | .segment _ _ seg => { m with conn := m.conn.tcpReceive seg }
  | .recv maxLen =>
    { conn := (m.conn.tcpRecv maxLen).2.2, returned := m.returned ++ (m.conn.tcpRecv maxLen).2.1 }
  | .close => { m with conn := m.conn.tcpClose }
  | .outside now allocs sends =>
    { m with conn := { m.conn with
      io := { m.conn.io with now := now, allocs := allocs, sends := sends } } }

/-- Slices arrive, and the application uses the socket, as long as it is not destroyed. -/
def Step (S : PeerStream) (m : Receiver) (e : ReceiverEvent) (m' : Receiver) : Prop :=
  m.conn.freed = false ∧ m' = m.apply e ∧
    match e with
    | .segment i j seg => S.Slice i j seg
    | _ => True

/-- A connection that was just established: nothing but the SYN was taken. -/
structure Started (S : PeerStream) (m : Receiver) : Prop where
  state : m.conn.sock.state = .established
  rcvNxt : m.conn.sock.rcvNxt = S.seqAt 1
  empty : m.conn.sock.recvBuf.Holds []
  returned : m.returned = []
  freed : m.conn.freed = false

/-- The bytes accepted: those returned and those in the buffer. -/
def accepted (m : Receiver) : List UInt8 := m.returned ++ m.conn.sock.recvBuf.contents

/-- What was read is the beginning of the data, and the end is seen when all was accepted. -/
structure Intact (S : PeerStream) (m : Receiver) : Prop where
  returned : m.returned <+: S.data
  fin : m.conn.freed = false → m.conn.sock.state.finTaken = true → m.accepted = S.data

/-- The places `i` and of the FIN, when they seem to be the next one, are the next one: no segment
comes a multiple of 2^32 sequence numbers away from its place. -/
def Timely (S : PeerStream) (m : Receiver) (i : Nat) : Prop :=
  ∀ x, x = i ∨ x = S.finPos → S.seqAt x = m.conn.sock.rcvNxt → x = m.accepted.length + 1

/-- While the FIN is expected, it comes at its place, or in an open connection behind data that is
next and finds room. -/
def Complete (S : PeerStream) (m : Receiver) : ReceiverEvent → Prop
  | .segment i _ seg => m.conn.sock.state.expects = true → Timely S m i ∧
      (seg.flags.fin = true → seg.finSeq = m.conn.sock.rcvNxt ∨
        m.conn.sock.state = .established ∧ seg.seq = m.conn.sock.rcvNxt ∧
          seg.data.length ≤ m.conn.sock.recvBuf.ringBufferSpace)
  | _ => True

def CompleteStep (S : PeerStream) (m : Receiver) (e : ReceiverEvent) (m' : Receiver) : Prop :=
  Step S m e m' ∧ Complete S m e

end Receiver

/-! ## What a segment does to the receiving side -/

namespace TcpConn

variable {c c' c'' : TcpConn} {seg : TcpSegment} {state state' : TcpState} {buffered : List UInt8}

/-- The socket is in this state, and its receiving side is as it was. -/
structure Moves (c c' : TcpConn) (state : TcpState) : Prop where
  state : c'.sock.state = state
  recvBuf : c'.sock.recvBuf = c.sock.recvBuf
  rcvNxt : c'.sock.rcvNxt = c.sock.rcvNxt
  freed : c'.freed = c.freed

lemma Moves.refl (c : TcpConn) : Moves c c c.sock.state := ⟨rfl, rfl, rfl, rfl⟩

lemma Moves.trans (h₁ : Moves c c' state) (h₂ : Moves c' c'' state') : Moves c c'' state' :=
  ⟨h₂.state, h₂.recvBuf.trans h₁.recvBuf, h₂.rcvNxt.trans h₁.rcvNxt, h₂.freed.trans h₁.freed⟩

lemma moves_setState (c : TcpConn) (state : TcpState) : Moves c (c.tcpSetState state) state := by
  rw [tcpSetState_eq]
  exact ⟨rfl, rfl, rfl, rfl⟩

lemma moves_send (c : TcpConn) (flags : TcpFlags) (data : List UInt8) :
    Moves c (c.tcpSendSegment flags data).2 c.sock.state := by
  obtain ⟨n, hsock⟩ := tcpSendSegment_sock c flags data
  exact ⟨by rw [hsock], by rw [hsock], by rw [hsock], tcpSendSegment_freed c flags data⟩

lemma moves_sendAck (c : TcpConn) : Moves c c.sendAck c.sock.state := moves_send c _ _

lemma moves_enterTimeWait (c : TcpConn) : Moves c c.enterTimeWait .timeWait := by
  have hmove := moves_setState c .timeWait
  exact ⟨hmove.state, hmove.recvBuf, hmove.rcvNxt, hmove.freed⟩

lemma moves_processAck (c : TcpConn) (seg : TcpSegment) : Moves c (c.processAck seg) c.sock.state := by
  unfold processAck
  split_ifs
  · exact ⟨rfl, rfl, rfl, rfl⟩
  · exact .refl c

lemma moves_sendFin (c : TcpConn) (state : TcpState) : Moves c (c.sendFin state) state := by
  have hset := moves_setState c state
  have hsend := moves_send (c.tcpSetState state) { fin := true, ack := true } []
  rw [hset.state] at hsend
  exact hset.trans hsend

lemma tcpReceive_finTaken (hstate : c.sock.state.finTaken = true) (hrst : seg.flags.rst = false) :
    (c.tcpReceive seg).sock.recvBuf = c.sock.recvBuf ∧
      ((c.tcpReceive seg).freed = true ∨ (c.tcpReceive seg).sock.state.finTaken = true) := by
  have hmoves : ∀ {state : TcpState}, state.finTaken = true → Moves c (c.tcpReceive seg) state →
      (c.tcpReceive seg).sock.recvBuf = c.sock.recvBuf ∧
        ((c.tcpReceive seg).freed = true ∨ (c.tcpReceive seg).sock.state.finTaken = true) :=
    fun htaken h => ⟨h.recvBuf, .inr (by rw [h.state]; exact htaken)⟩
  have hself : Moves c c c.sock.state := .refl c
  unfold tcpReceive at hmoves ⊢
  rw [if_neg (by rw [hrst]; decide)] at hmoves ⊢
  cases hc : c.sock.state
  all_goals
    rw [hc] at hstate hmoves hself
    try cases hstate
  case closeWait =>
    refine @hmoves .closeWait rfl ?_
    simp only [receiveCloseWait]
    split_ifs
    · exact ⟨hc, rfl, rfl, rfl⟩
    · exact hself
  case closing =>
    simp only [receiveClosing] at hmoves ⊢
    split_ifs at hmoves ⊢
    · exact hmoves rfl (moves_enterTimeWait c)
    · exact hmoves rfl hself
  case lastAck =>
    simp only [receiveLastAck] at hmoves ⊢
    split_ifs at hmoves ⊢
    · exact ⟨(moves_setState c .closed).recvBuf, .inl rfl⟩
    · exact hmoves rfl hself
  case timeWait =>
    simp only at hmoves ⊢
    split_ifs at hmoves ⊢
    · have hsend := moves_sendAck c
      rw [hc] at hsend
      exact hmoves rfl hsend
    · exact hmoves rfl hself

lemma tcpReceive_finWait (hstate : c.sock.state = .finWait1 ∨ c.sock.state = .finWait2)
    (hrst : seg.flags.rst = false) :
    (c.tcpReceive seg).sock.recvBuf = c.sock.recvBuf ∧ (c.tcpReceive seg).freed = c.freed ∧
      (seg.flags.fin = true → (c.tcpReceive seg).sock.state.finTaken = true) ∧
      (seg.flags.fin = false → (c.tcpReceive seg).sock.state.expects = true ∧
        (c.tcpReceive seg).sock.rcvNxt = c.sock.rcvNxt) := by
  unfold tcpReceive
  rw [if_neg (by rw [hrst]; decide)]
  rcases hstate with hc | hc
  · simp only [hc, receiveFinWait1]
    -- the acknowledgement of the own FIN
    obtain ⟨acked, hacked, hmove⟩ : ∃ acked, (if seg.flags.ack = true ∧ seg.ack = c.sock.sndNxt
        then c.tcpSetState .finWait2 else c) = acked ∧
        ∃ state, state.expects = true ∧ Moves c acked state := by
      refine ⟨_, rfl, ?_⟩
      split_ifs
      · exact ⟨.finWait2, rfl, moves_setState c .finWait2⟩
      · exact ⟨.finWait1, rfl, hc ▸ Moves.refl c⟩
    obtain ⟨state, hexp, hmove⟩ := hmove
    rw [hacked]
    split_ifs with hfin hanswered
    · have hend := (moves_sendAck acked.countFin).trans (moves_enterTimeWait _)
      exact ⟨hend.recvBuf.trans hmove.recvBuf, hend.freed.trans hmove.freed,
        fun _ => by rw [hend.state]; rfl, fun h => by rw [hfin] at h; cases h⟩
    · have hend := (moves_sendAck acked.countFin).trans (moves_setState _ .closing)
      exact ⟨hend.recvBuf.trans hmove.recvBuf, hend.freed.trans hmove.freed,
        fun _ => by rw [hend.state]; rfl, fun h => by rw [hfin] at h; cases h⟩
    · exact ⟨hmove.recvBuf, hmove.freed, fun h => absurd h hfin,
        fun _ => ⟨by rw [hmove.state]; exact hexp, hmove.rcvNxt⟩⟩
  · simp only [hc, receiveFinWait2]
    split_ifs with hfin
    · have hend := moves_enterTimeWait c.countFin
      have hanswer := moves_sendAck c.countFin.enterTimeWait
      rw [hend.state] at hanswer
      have hboth := hend.trans hanswer
      exact ⟨hboth.recvBuf, hboth.freed, fun _ => by rw [hboth.state]; rfl,
        fun h => by rw [hfin] at h; cases h⟩
    · exact ⟨rfl, rfl, fun h => absurd h hfin, fun _ => ⟨by rw [hc]; rfl, rfl⟩⟩

/-- Data that is next is taken as far as there is room, and other data is not. -/
lemma processData_spec (hholds : c.sock.recvBuf.Holds buffered) (seg : TcpSegment) :
    (c.processData seg).sock.state = c.sock.state ∧ (c.processData seg).freed = c.freed ∧
      (seg.seq ≠ c.sock.rcvNxt → (c.processData seg).sock.recvBuf = c.sock.recvBuf ∧
        (c.processData seg).sock.rcvNxt = c.sock.rcvNxt) ∧
      (seg.seq = c.sock.rcvNxt → (c.processData seg).sock.recvBuf.Holds
          (buffered ++ seg.data.take c.sock.recvBuf.ringBufferSpace) ∧
        (c.processData seg).sock.rcvNxt = c.sock.rcvNxt +
          UInt32.ofNat (seg.data.take c.sock.recvBuf.ringBufferSpace).length) := by
  unfold processData
  split_ifs with hnil hnext
  · refine ⟨rfl, rfl, fun _ => ⟨rfl, rfl⟩, fun _ => ?_⟩
    rw [hnil, List.take_nil, List.append_nil]
    exact ⟨hholds, (UInt32.add_zero _).symm⟩
  · obtain ⟨hlen, hwrite⟩ := hholds.write seg.data
    have hmoves := moves_sendAck (c.modify fun s =>
      { s with
        recvBuf := (c.sock.recvBuf.ringBufferWrite seg.data).2
        rcvNxt := s.rcvNxt + UInt32.ofNat (c.sock.recvBuf.ringBufferWrite seg.data).1
        rcvWnd := UInt32.ofNat (c.sock.recvBuf.ringBufferWrite seg.data).2.ringBufferSpace })
    refine ⟨hmoves.state, hmoves.freed, fun hne => absurd hnext hne, fun _ => ⟨?_, ?_⟩⟩
    · rw [hmoves.recvBuf]
      exact hwrite
    · rw [hmoves.rcvNxt, List.length_take, min_comm, ← hlen]
      rfl
  · have hmoves := moves_sendAck c
    exact ⟨hmoves.state, hmoves.freed, fun _ => ⟨hmoves.recvBuf, hmoves.rcvNxt⟩,
      fun h => absurd h hnext⟩

lemma processFin_spec (c : TcpConn) (seg : TcpSegment) :
    (c.processFin seg).sock.recvBuf = c.sock.recvBuf ∧ (c.processFin seg).freed = c.freed ∧
      (seg.flags.fin = true → (c.processFin seg).sock.state = .closeWait) ∧
      (seg.flags.fin = false → c.processFin seg = c) := by
  unfold processFin
  split_ifs with hfin
  · have hset := moves_setState c.countFin .closeWait
    have hsend := moves_sendAck (c.countFin.tcpSetState .closeWait)
    rw [hset.state] at hsend
    have hboth := hset.trans hsend
    exact ⟨hboth.recvBuf, hboth.freed, fun _ => hboth.state, fun h => by rw [hfin] at h; cases h⟩
  · exact ⟨rfl, rfl, fun h => absurd h hfin, fun _ => rfl⟩

/-- `tcp_recv` takes bytes from the front of the buffer. -/
lemma tcpRecv_spec (hholds : c.sock.recvBuf.Holds buffered) (hopen : c.sock.state ≠ .closed) (maxLen : Nat) :
    (c.tcpRecv maxLen).2.1 = buffered.take maxLen ∧ (c.tcpRecv maxLen).2.2.sock.recvBuf.Holds (buffered.drop maxLen) ∧
      (c.tcpRecv maxLen).2.2.sock.state = c.sock.state ∧
      (c.tcpRecv maxLen).2.2.sock.rcvNxt = c.sock.rcvNxt ∧
      (c.tcpRecv maxLen).2.2.freed = c.freed := by
  obtain ⟨hbytes, hbuf⟩ := hholds.read maxLen
  unfold tcpRecv
  rw [if_neg hopen]
  dsimp only
  split_ifs with hzero heof hblock
  · exact ⟨by rw [← hbytes, List.length_eq_zero_iff.mp hzero], hbuf, rfl, rfl, rfl⟩
  · exact ⟨by rw [← hbytes, List.length_eq_zero_iff.mp hzero], hbuf, rfl, rfl, rfl⟩
  · exact ⟨by rw [← hbytes, List.length_eq_zero_iff.mp hzero], hbuf, rfl, rfl, rfl⟩
  · exact ⟨hbytes, hbuf, rfl, rfl, rfl⟩

/-- `tcp_close` of a connection leaves the receiving side alone. -/
lemma tcpClose_cases (c : TcpConn) : (c.sock.state.expects = true →
      ∃ state, state.expects = true ∧ Moves c c.tcpClose state) ∧
    (c.sock.state.finTaken = true → ∃ state, state.finTaken = true ∧ Moves c c.tcpClose state) := by
  have hself : Moves c c c.sock.state := .refl c
  unfold tcpClose
  cases hc : c.sock.state
  all_goals
    rw [hc] at hself
    refine ⟨fun h => ?_, fun h => ?_⟩
    all_goals try cases h
  case established => exact ⟨.finWait1, rfl, moves_sendFin c .finWait1⟩
  case closeWait => exact ⟨.lastAck, rfl, moves_sendFin c .lastAck⟩
  all_goals exact ⟨_, rfl, hself⟩

end TcpConn

namespace Receiver

variable {S : PeerStream} {m m' : Receiver} {buffered : List UInt8} {seg : TcpSegment} {i j : Nat}

/-! ## The invariant -/

/-- The socket is destroyed, or expects the next place, or has taken the FIN after all the data. -/
inductive Phase (S : PeerStream) (c : TcpConn) (taken : List UInt8) : Prop
  | gone (h : c.freed = true)
  | expects (h : c.sock.state.expects = true) (hnext : c.sock.rcvNxt = S.seqAt (taken.length + 1))
  | done (h : c.sock.state.finTaken = true) (hall : taken = S.data)

/-- The bytes taken are a beginning of the data, and the last of them are in the buffer. -/
structure Taking (S : PeerStream) (m : Receiver) (buffered : List UInt8) : Prop where
  holds : m.conn.sock.recvBuf.Holds buffered
  taken : m.returned ++ buffered <+: S.data
  phase : Phase S m.conn (m.returned ++ buffered)

lemma Taking.accepted_eq (h : Taking S m buffered) : m.accepted = m.returned ++ buffered := by
  rw [accepted, h.holds.contents_eq]

lemma Taking.intact (h : Taking S m buffered) : Intact S m where
  returned := (List.prefix_append m.returned buffered).trans h.taken
  fin hlive hfin := by
    rw [h.accepted_eq]
    cases h.phase with
    | gone hgone => rw [hlive] at hgone; cases hgone
    | expects hexp =>
      rw [TcpState.finTaken_of_expects hexp] at hfin
      cases hfin
    | done _ hall => exact hall

/-! ## The events -/

lemma Taking.of_same {c : TcpConn} (h : Taking S m buffered) (hbuf : c.sock.recvBuf = m.conn.sock.recvBuf)
    (hphase : Phase S c (m.returned ++ buffered)) : Taking S { m with conn := c } buffered :=
  ⟨hbuf ▸ h.holds, h.taken, hphase⟩

lemma Taking.recv (h : Taking S m buffered) (maxLen : Nat) :
    ∃ buffered', Taking S (m.apply (.recv maxLen)) buffered' := by
  by_cases hclosed : m.conn.sock.state = .closed
  · refine ⟨buffered, ?_⟩
    have hsame : m.apply (.recv maxLen) = m := by
      simp only [apply, TcpConn.tcpRecv, if_pos hclosed, List.append_nil]
    rw [hsame]
    exact h
  · obtain ⟨hbytes, hbuf, hstate, hnext, hfreed⟩ := TcpConn.tcpRecv_spec h.holds hclosed maxLen
    have hall : (m.returned ++ (m.conn.tcpRecv maxLen).2.1) ++ buffered.drop maxLen = m.returned ++ buffered := by
      rw [hbytes, List.append_assoc, List.take_append_drop]
    refine ⟨buffered.drop maxLen, hbuf, ?_, ?_⟩
    · exact hall.symm ▸ h.taken
    · change Phase S _ ((m.returned ++ (m.conn.tcpRecv maxLen).2.1) ++ buffered.drop maxLen)
      rw [hall]
      cases h.phase with
      | gone hgone => exact .gone (hfreed.trans hgone)
      | expects hexp hplace => exact .expects (hstate.symm ▸ hexp) (hnext.trans hplace)
      | done hfin hend => exact .done (hstate.symm ▸ hfin) hend

lemma Taking.close (h : Taking S m buffered) (hlive : m.conn.freed = false) : Taking S (m.apply .close) buffered := by
  obtain ⟨hopen, hdone⟩ := TcpConn.tcpClose_cases m.conn
  cases h.phase with
  | gone hgone =>
    rw [hlive] at hgone
    cases hgone
  | expects hexp hplace =>
    obtain ⟨state, hstate, hmoves⟩ := hopen hexp
    exact h.of_same hmoves.recvBuf (.expects (hmoves.state.symm ▸ hstate)
      (hmoves.rcvNxt.trans hplace))
  | done hfin hend =>
    obtain ⟨state, hstate, hmoves⟩ := hdone hfin
    exact h.of_same hmoves.recvBuf (.done (hmoves.state.symm ▸ hstate) hend)

/-- A slice that ends with the FIN brings the end of the data, or all was taken before. -/
lemma Taking.all_taken (h : Taking S m buffered) (hslice : S.Slice i j seg)
    (hfin : seg.flags.fin = true) (htimely : Timely S m i)
    (hplace : seg.finSeq = m.conn.sock.rcvNxt) : m.returned ++ buffered = S.data := by
  have hlast := htimely S.finPos (.inr rfl) ((hslice.finSeq_eq hfin).symm.trans hplace)
  rw [h.accepted_eq, PeerStream.finPos] at hlast
  exact h.taken.eq_of_length (by omega)

/-- **A slice in an open connection.** -/
lemma Taking.established (h : Taking S m buffered) (hslice : S.Slice i j seg) (hc : m.conn.sock.state = .established)
    (hplace : m.conn.sock.rcvNxt = S.seqAt ((m.returned ++ buffered).length + 1))
    (htimely : Timely S m i)
    (hcomplete : seg.flags.fin = true → seg.finSeq = m.conn.sock.rcvNxt ∨
      m.conn.sock.state = .established ∧ seg.seq = m.conn.sock.rcvNxt ∧
        seg.data.length ≤ m.conn.sock.recvBuf.ringBufferSpace) :
    ∃ buffered', Taking S (m.apply (.segment i j seg)) buffered' := by
  have hreceive : m.conn.tcpReceive seg = ((m.conn.processAck seg).processData seg).processFin seg := by
    unfold TcpConn.tcpReceive
    rw [if_neg (by rw [hslice.rst]; decide)]
    simp only [hc, TcpConn.receiveEstablished]
  have hack := TcpConn.moves_processAck m.conn seg
  have hholds : (m.conn.processAck seg).sock.recvBuf.Holds buffered := hack.recvBuf ▸ h.holds
  obtain ⟨hstate, hfreed, hother, hnext⟩ := TcpConn.processData_spec hholds seg
  rw [hack.rcvNxt] at hother hnext
  rw [hack.recvBuf] at hnext hother
  rw [hack.state] at hstate
  obtain ⟨hbuf, hgone, hclosed, hsame⟩ :=
    TcpConn.processFin_spec ((m.conn.processAck seg).processData seg) seg
  change ∃ buffered', Taking S { m with conn := m.conn.tcpReceive seg } buffered'
  rw [hreceive]
  -- the bytes taken after the data part
  obtain ⟨more, hmore, htaken, hrcv, hend⟩ : ∃ more,
      ((m.conn.processAck seg).processData seg).sock.recvBuf.Holds (buffered ++ more) ∧
      m.returned ++ (buffered ++ more) <+: S.data ∧
      ((m.conn.processAck seg).processData seg).sock.rcvNxt =
        S.seqAt ((m.returned ++ (buffered ++ more)).length + 1) ∧
      (seg.flags.fin = true → m.returned ++ (buffered ++ more) = S.data) := by
    by_cases hseq : seg.seq = m.conn.sock.rcvNxt
    · have hi : i = (m.returned ++ buffered).length + 1 := by
        rw [← h.accepted_eq]
        exact htimely i (.inl rfl) (hslice.seq.symm.trans hseq)
      have hpre := hslice.append_prefix h.taken hi m.conn.sock.recvBuf.ringBufferSpace
      rw [List.append_assoc] at hpre
      refine ⟨seg.data.take m.conn.sock.recvBuf.ringBufferSpace, (hnext hseq).1, hpre, ?_, ?_⟩
      · rw [(hnext hseq).2, hplace, PeerStream.seqAt_add, ← List.append_assoc,
          @List.length_append _ (m.returned ++ buffered)]
        congr 1
        omega
      · intro hfin
        rcases hcomplete hfin with hat | ⟨-, -, hfits⟩
        · -- all was taken before, and the slice has nothing more
          have hall := h.all_taken hslice hfin htimely hat
          refine hpre.eq_of_length_le ?_
          rw [← List.append_assoc, hall, List.length_append]
          exact Nat.le_add_right _ _
        · rw [List.take_of_length_le hfits, ← List.append_assoc]
          exact hslice.append_eq h.taken hi hfin
    · refine ⟨[], ?_, ?_, ?_, ?_⟩
      · rw [List.append_nil, (hother hseq).1]
        exact h.holds
      · rw [List.append_nil]
        exact h.taken
      · rw [List.append_nil, (hother hseq).2]
        exact hplace
      · intro hfin
        rw [List.append_nil]
        rcases hcomplete hfin with hat | ⟨-, hat, -⟩
        · exact h.all_taken hslice hfin htimely hat
        · exact absurd hat hseq
  refine ⟨buffered ++ more, hbuf ▸ hmore, htaken, ?_⟩
  cases hfin : seg.flags.fin with
  | true => exact .done (by rw [hclosed hfin]; rfl) (hend hfin)
  | false =>
    dsimp only
    rw [hsame hfin]
    exact .expects (by rw [hstate, hc]; rfl) hrcv

lemma Taking.segment (h : Taking S m buffered) (hlive : m.conn.freed = false)
    (hslice : S.Slice i j seg) (hcomplete : Complete S m (.segment i j seg)) :
    ∃ buffered', Taking S (m.apply (.segment i j seg)) buffered' := by
  cases h.phase with
  | gone hgone =>
    rw [hlive] at hgone
    cases hgone
  | expects hexp hplace =>
    obtain ⟨htimely, hfins⟩ := hcomplete hexp
    by_cases hc : m.conn.sock.state = .established
    · exact h.established hslice hc hplace htimely hfins
    · have hhalf : m.conn.sock.state = .finWait1 ∨ m.conn.sock.state = .finWait2 := by
        cases hstate : m.conn.sock.state
        all_goals
          rw [hstate] at hexp hc
          first
            | exact absurd rfl hc
            | exact .inl rfl
            | exact .inr rfl
            | cases hexp
      obtain ⟨hbuf, hfreed, htaken, hstays⟩ := TcpConn.tcpReceive_finWait hhalf hslice.rst
      refine ⟨buffered, h.of_same hbuf ?_⟩
      cases hfin : seg.flags.fin with
      | true =>
        have hat := (hfins hfin).resolve_right fun hn => hc hn.1
        exact .done (htaken hfin) (h.all_taken hslice hfin htimely hat)
      | false => exact .expects (hstays hfin).1 ((hstays hfin).2.trans hplace)
  | done hfin hend =>
    obtain ⟨hbuf, hgone | hstate⟩ := TcpConn.tcpReceive_finTaken hfin hslice.rst
    · exact ⟨buffered, h.of_same hbuf (.gone hgone)⟩
    · exact ⟨buffered, h.of_same hbuf (.done hstate hend)⟩

/-- **One event.** -/
lemma Taking.step {e : ReceiverEvent} (h : Taking S m buffered) (hstep : CompleteStep S m e m') :
    ∃ buffered', Taking S m' buffered' := by
  obtain ⟨⟨hlive, rfl, hguard⟩, hcomplete⟩ := hstep
  cases e with
  | segment i j seg => exact h.segment hlive hguard hcomplete
  | recv maxLen => exact h.recv maxLen
  | close => exact ⟨buffered, h.close hlive⟩
  | outside now allocs sends =>
    refine ⟨buffered, h.holds, h.taken, ?_⟩
    cases h.phase with
    | gone hgone => exact .gone hgone
    | expects hexp hplace => exact .expects hexp hplace
    | done hfin hend => exact .done hfin hend

/-- **The stream is received intact** in every run from an established connection in which each FIN
comes when all before it was taken. -/
theorem intact_of_steps {es : List ReceiverEvent} (hstart : Started S m)
    (hrun : Steps (CompleteStep S) m es m') : Intact S m' := by
  have hinit : Taking S m [] := by
    refine ⟨hstart.empty, ?_, .expects (by rw [hstart.state]; rfl) ?_⟩
    · rw [hstart.returned]
      exact List.nil_prefix
    · rw [hstart.returned]
      exact hstart.rcvNxt
  obtain ⟨buffered, htaking⟩ : ∃ buffered, Taking S m' buffered :=
    hrun.invariant (I := fun m => ∃ buffered, Taking S m buffered)
      (fun _ _ _ ⟨_, ht⟩ hstep => ht.step hstep) ⟨[], hinit⟩
  exact htaking.intact

/-- The stream of the two bytes "hi". -/
def hiStream : PeerStream := ⟨100, [0x68, 0x69]⟩

/-- A segment of that stream. -/
def hiSegment (seq : UInt32) (fin : Bool) (data : List UInt8) : TcpSegment :=
  { srcIp := 1, dstIp := 2, srcPort := 3, dstPort := 4, seq := seq, ack := 0,
    flags := { fin := fin, ack := true }, window := 1000, data := data }

/-- A connection that waits for that stream. -/
def hiReceiver : Receiver :=
  { conn := { sock := { state := .established, rcvNxt := 101, irs := 100 }, io := {} } }

lemma started_hiReceiver : Started hiStream hiReceiver :=
  ⟨rfl, rfl, ⟨by decide, rfl, rfl, by decide, rfl⟩, rfl, rfl⟩

/-- The first byte, then both bytes, which are not next any more, then the second byte with the FIN. -/
theorem intact_of_two_segments : ∃ m, Steps (CompleteStep hiStream) hiReceiver
    [.segment 1 2 (hiSegment 101 false [0x68]), .recv 10, .segment 1 3 (hiSegment 101 false [0x68, 0x69]),
      .segment 2 4 (hiSegment 102 true [0x69]), .close] m ∧
    m.returned = [0x68] ∧ m.conn.sock.state = .lastAck ∧ Intact hiStream m := by
  obtain ⟨m, hrun, hreturned, hstate⟩ : ∃ m, Steps (CompleteStep hiStream) hiReceiver
      [.segment 1 2 (hiSegment 101 false [0x68]), .recv 10, .segment 1 3 (hiSegment 101 false [0x68, 0x69]),
        .segment 2 4 (hiSegment 102 true [0x69]), .close] m ∧
      m.returned = [0x68] ∧ m.conn.sock.state = .lastAck := by
    refine ⟨_, .cons ⟨⟨rfl, rfl, ⟨by decide, by decide, rfl, rfl, rfl, rfl, rfl⟩⟩, fun _ => ⟨?_, ?_⟩⟩
      (.cons ⟨⟨rfl, rfl, trivial⟩, trivial⟩
      (.cons ⟨⟨rfl, rfl, ⟨by decide, by decide, rfl, rfl, rfl, rfl, rfl⟩⟩, fun _ => ⟨?_, ?_⟩⟩
      (.cons ⟨⟨rfl, rfl, ⟨by decide, by decide, rfl, rfl, rfl, rfl, rfl⟩⟩, fun _ => ⟨?_, ?_⟩⟩
      (.cons ⟨⟨rfl, rfl, trivial⟩, trivial⟩ (.nil _))))), ?_, ?_⟩
    · rintro x (rfl | rfl)
      · decide
      · decide
    · decide
    · rintro x (rfl | rfl)
      · decide
      · decide
    · decide
    · rintro x (rfl | rfl)
      · decide
      · decide
    · decide
    · decide
    · decide
  exact ⟨m, hrun, hreturned, hstate, intact_of_steps started_hiReceiver hrun⟩

/-- The FIN overtakes the data: the end of the stream is seen, and no byte was accepted. -/
theorem fin_overtakes_data : ∃ m, Started hiStream hiReceiver ∧ Steps (Step hiStream) hiReceiver
    [.segment 3 4 (hiSegment 103 true [])] m ∧ ¬ Intact hiStream m := by
  refine ⟨_, started_hiReceiver, .cons ⟨rfl, rfl, ⟨by decide, by decide, rfl, rfl, rfl, rfl, rfl⟩⟩
    (.nil _), fun h => ?_⟩
  have hnone := h.fin (by decide) (by decide)
  exact absurd hnone (by decide)

end Receiver

end AAAos
