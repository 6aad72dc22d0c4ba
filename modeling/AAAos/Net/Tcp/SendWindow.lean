import AAAos.Net.Tcp.Tcp

/-!
# The send window

`snd_una` and `snd_nxt` bound the bytes in flight.  They are numbers modulo 2^32, and should stay in
order behind `iss`; and what is in flight after a transmission should be within the peer's window.

**What goes wrong.**  `tcp_output` compares the window with the data to be sent, and forgets the data
in flight.  In CLOSE_WAIT the acknowledgement of a segment becomes `snd_una` whatever it is, and its
window is ignored.

**What is proved.**  As long as every acknowledgement in CLOSE_WAIT lies between `snd_una` and
`snd_nxt`, no acknowledgement is 2^31 or more ahead of `iss`, and `tcp_output` finds the data in flight
with the data to be sent within the last window (`Careful`), all sockets are in order and all
transmissions within the window (`disciplined_of_steps`).
-/

namespace AAAos

/-! ## Sequence numbers -/

variable {a b d : UInt32}

lemma seq_distance (a b d : UInt32) : (a - d).toNat = ((a - b).toNat + (b - d).toNat) % 4294967296 := by
  rw [UInt32.toNat_sub, UInt32.toNat_sub, UInt32.toNat_sub]
  have hb := b.toNat_lt
  omega

lemma toInt_toInt32 (a : UInt32) : a.toInt32.toInt =
    if a.toNat < 2147483648 then (a.toNat : Int) else a.toNat - 4294967296 := by
  have hbits : a.toInt32.toInt = a.toBitVec.toInt := rfl
  rw [hbits, BitVec.toInt_eq_toNat_cond]
  change (if 2 * a.toNat < 2 ^ 32 then (a.toNat : Int) else (a.toNat : Int) - (2 ^ 32 : Nat)) = _
  generalize a.toNat = n at *
  split_ifs
  all_goals omega

lemma seqGt_iff : seqGt a b = true ↔ 0 < (a - b).toNat ∧ (a - b).toNat < 2147483648 := by
  unfold seqGt
  rw [decide_eq_true_eq, Int32.lt_iff_toInt_lt, toInt_toInt32]
  have hzero : (0 : Int32).toInt = 0 := rfl
  have hlt := (a - b).toNat_lt
  rw [hzero]
  generalize (a - b).toNat = n at *
  split_ifs
  all_goals omega

lemma seqLe_iff : seqLe a b = true ↔ (a - b).toNat = 0 ∨ 2147483648 ≤ (a - b).toNat := by
  unfold seqLe
  rw [decide_eq_true_eq, Int32.le_iff_toInt_le, toInt_toInt32]
  have hzero : (0 : Int32).toInt = 0 := rfl
  have hlt := (a - b).toNat_lt
  rw [hzero]
  generalize (a - b).toNat = n at *
  split_ifs
  all_goals omega

lemma seq_between (h : (a - b).toNat ≤ (d - b).toNat) : (d - a).toNat ≤ (d - b).toNat := by
  have hsum := seq_distance d a b
  have ha := (d - a).toNat_lt
  omega

/-- The two comparisons of `tcp_receive` find the numbers between `b` and `d`, when these are near. -/
lemma seq_accepted (hgt : seqGt a b = true) (hle : seqLe a d = true)
    (hnear : (d - b).toNat < 2147483648) : (a - b).toNat ≤ (d - b).toNat := by
  obtain ⟨-, hlt⟩ := seqGt_iff.mp hgt
  have hcases := seqLe_iff.mp hle
  have hsum := seq_distance a d b
  have ha := (a - d).toNat_lt
  omega

/-- Going ahead by `n`. -/
lemma seq_ahead (b d : UInt32) (n : Nat) (h : (d - b).toNat + n < 4294967296) :
    (d + UInt32.ofNat n - b).toNat = (d - b).toNat + n := by
  have hsum := seq_distance (d + UInt32.ofNat n) d b
  have hn : (d + UInt32.ofNat n - d).toNat = n := by
    rw [UInt32.add_comm, UInt32.add_sub_cancel, UInt32.toNat_ofNat']
    exact Nat.mod_eq_of_lt (by omega)
  rw [hn] at hsum
  omega

/-! ## One socket -/

/-- The connection is past its opening. -/
def TcpState.synchronised : TcpState → Bool
  | .closed | .listen | .synSent | .synReceived => false
  | _ => true

namespace TcpSocket

variable {s s' : TcpSocket}

/-- The distance from `iss` to `snd_una`. -/
def acked (s : TcpSocket) : Nat := (s.sndUna - s.iss).toNat

/-- The distance from `snd_una` to `snd_nxt`. -/
def flight (s : TcpSocket) : Nat := (s.sndNxt - s.sndUna).toNat

/-- The order `iss`, `snd_una`, `snd_nxt`, each less than 2^31 before the next. -/
def Ordered (s : TcpSocket) : Prop := s.acked < 2147483648 ∧ s.flight < 2147483648

/-- How far the numbers are apart in each state.  In flight is at most a window, and a FIN. -/
def Within (state : TcpState) (una nxt iss : UInt32) : Prop :=
  match state with
  | .closed | .listen => True
  | .synSent => una = iss ∧ (nxt - iss).toNat ≤ 1
  | .synReceived => una = iss ∧ (nxt - iss).toNat ≤ 2
  | .established | .closeWait => (una - iss).toNat < 2147483648 ∧ (nxt - una).toNat ≤ 65535
  | .finWait1 | .finWait2 | .closing | .lastAck | .timeWait =>
    (una - iss).toNat < 2147483648 ∧ (nxt - una).toNat ≤ 65536

def Bounded (s : TcpSocket) : Prop := Within s.state s.sndUna s.sndNxt s.iss

lemma Bounded.ordered (h : s.Bounded) (hstate : s.state.synchronised = true) : s.Ordered := by
  unfold Bounded at h
  cases hc : s.state
  all_goals
    rw [hc] at h hstate
    try cases hstate
  all_goals exact ⟨h.1, lt_of_le_of_lt h.2 (by decide)⟩

/-- An acknowledgement that keeps the order: in ESTABLISHED less than 2^31 ahead of `iss`, if it is
accepted at all; in CLOSE_WAIT also between `snd_una` and `snd_nxt`. -/
def AckOk (s : TcpSocket) (seg : TcpSegment) : Prop :=
  seg.flags.rst = false → seg.flags.ack = true →
    (s.state = .established → seqGt seg.ack s.sndUna = true → seqLe seg.ack s.sndNxt = true →
      (seg.ack - s.iss).toNat < 2147483648) ∧
    (s.state = .closeWait → (seg.ack - s.sndUna).toNat ≤ s.flight ∧ (seg.ack - s.iss).toNat < 2147483648)

/-- The data in flight, with one segment of the pending data or with a whole send window, is within
the window that was advertised last. -/
def Fits (s : TcpSocket) (advertised : Nat) : Prop :=
  s.tcpCanSend = true → s.sendBuf.used ≠ 0 → s.sndWnd ≠ 0 →
    s.flight + min s.sendBuf.used s.mss.toNat ≤ advertised ∨ s.flight + s.sndWnd.toNat ≤ advertised

/-- The state, and the numbers, of a socket. -/
structure SameSend (s s' : TcpSocket) (state : TcpState) : Prop where
  state : s'.state = state
  sndUna : s'.sndUna = s.sndUna
  sndNxt : s'.sndNxt = s.sndNxt
  iss : s'.iss = s.iss

lemma SameSend.bounded {state : TcpState} (h : SameSend s s' state)
    (hbounded : Within state s.sndUna s.sndNxt s.iss) : s'.Bounded := by
  rw [Bounded, h.state, h.sndUna, h.sndNxt, h.iss]
  exact hbounded

end TcpSocket

/-! ## The calls -/

namespace TcpConn

open TcpSocket

variable {c : TcpConn} {seg : TcpSegment} {state : TcpState} {advertised : Nat}

lemma bounded_setState (c : TcpConn) {state : TcpState}
    (h : Within state c.sock.sndUna c.sock.sndNxt c.sock.iss) : (c.tcpSetState state).sock.Bounded := by
  rw [tcpSetState_eq]
  exact h

lemma bounded_closed (c : TcpConn) : (c.tcpSetState .closed).sock.Bounded :=
  bounded_setState c trivial

lemma bounded_enterTimeWait
    (h : Within .timeWait c.sock.sndUna c.sock.sndNxt c.sock.iss) : c.enterTimeWait.sock.Bounded :=
  bounded_setState c h

lemma bounded_sendOne (flags : TcpFlags) (hflags : seqLen flags [] = UInt32.ofNat 1)
    (h : ∀ nxt, nxt = c.sock.sndNxt ∨ nxt = c.sock.sndNxt + UInt32.ofNat 1 →
      Within c.sock.state c.sock.sndUna nxt c.sock.iss) :
    (c.tcpSendSegment flags []).2.sock.Bounded := by
  rcases tcpSendSegment_cases c flags [] with hunsent | hsent
  · rw [hunsent.sock]
    exact h _ (.inl rfl)
  · rw [hsent.sock, hflags]
    exact h _ (.inr rfl)

lemma bounded_sendSyn (flags : TcpFlags) (hflags : seqLen flags [] = UInt32.ofNat 1)
    (hstate : c.sock.state = .synSent ∨ c.sock.state = .synReceived)
    (huna : c.sock.sndUna = c.sock.iss) (hnxt : c.sock.sndNxt = c.sock.iss) :
    (c.tcpSendSegment flags []).2.sock.Bounded := by
  refine bounded_sendOne flags hflags fun nxt hcases => ?_
  have hnear : (nxt - c.sock.iss).toNat ≤ 1 := by
    rcases hcases with rfl | rfl
    · rw [hnxt, UInt32.sub_self]
      decide
    · rw [hnxt, seq_ahead _ _ 1 (by rw [UInt32.sub_self]; decide), UInt32.sub_self]
      decide
  rcases hstate with hc | hc
  · rw [hc]
    exact ⟨huna, hnear⟩
  · rw [hc]
    exact ⟨huna, hnear.trans (by decide)⟩

/-- The FIN of `tcp_close` adds one number. -/
lemma bounded_sendFin (hacked : c.sock.acked < 2147483648) (hflight : c.sock.flight ≤ 65535)
    (hstate : state = .finWait1 ∨ state = .lastAck) : (c.sendFin state).sock.Bounded := by
  have hset : (c.tcpSetState state).sock.state = state ∧ (c.tcpSetState state).sock.sndUna = c.sock.sndUna ∧
      (c.tcpSetState state).sock.sndNxt = c.sock.sndNxt ∧
      (c.tcpSetState state).sock.iss = c.sock.iss := by
    rw [tcpSetState_eq]
    exact ⟨rfl, rfl, rfl, rfl⟩
  obtain ⟨hst, huna, hnxt, hiss⟩ := hset
  refine bounded_sendOne _ rfl fun nxt hcases => ?_
  rw [hst, huna, hiss]
  rw [hnxt] at hcases
  have hnear : (nxt - c.sock.sndUna).toNat ≤ 65536 := by
    unfold flight at hflight
    rcases hcases with rfl | rfl
    · omega
    · rw [seq_ahead _ _ 1 (by omega)]
      omega
  rcases hstate with rfl | rfl
  · exact ⟨hacked, hnear⟩
  · exact ⟨hacked, hnear⟩

lemma bounded_close (h : c.sock.Bounded) : c.tcpClose.sock.Bounded := by
  have hopen := h
  unfold Bounded at hopen
  unfold tcpClose
  cases hc : c.sock.state
  all_goals rw [hc] at hopen
  case synReceived =>
    refine bounded_sendFin ?_ ?_ (.inl rfl)
    · rw [acked, hopen.1, UInt32.sub_self]
      decide
    · rw [flight, hopen.1]
      exact hopen.2.trans (by decide)
  case established => exact bounded_sendFin hopen.1 hopen.2 (.inl rfl)
  case closeWait => exact bounded_sendFin hopen.1 hopen.2 (.inr rfl)
  case listen => exact bounded_closed c
  case synSent => exact bounded_closed c
  all_goals exact h

lemma bounded_abort (c : TcpConn) : c.tcpAbort.sock.Bounded := bounded_closed _

lemma bounded_tick (h : c.sock.Bounded) : c.tickSocket.sock.Bounded := by
  have hopen := h
  unfold Bounded at hopen
  unfold tickSocket
  cases hc : c.sock.state
  all_goals
    rw [hc] at hopen
    try exact h
  case timeWait =>
    simp only
    split_ifs
    · exact bounded_closed c
    · exact h
  all_goals
    simp only
    split_ifs
    · exact bounded_abort c
    · unfold retransmit
      first
        | rw [if_pos hc]
          exact bounded_sendSyn _ rfl (.inl hc) hopen.1 rfl
        | rw [if_neg (by rw [hc]; decide)]
          exact bounded_sendSyn _ rfl (.inr hc) hopen.1 rfl
    · exact h

lemma bounded_startConnect (c : TcpConn) (iss remoteIp : UInt32) (remotePort : UInt16) :
    (c.startConnect iss remoteIp remotePort).2.sock.Bounded := by
  unfold startConnect
  dsimp only
  split_ifs
  · exact bounded_closed _
  · rw [tcpSetState_eq]
    exact bounded_sendSyn _ rfl (.inl rfl) rfl rfl

lemma bounded_startAccept (c : TcpConn) (listener : TcpSocket) (pending : TcpPendingConn)
    (iss : UInt32) : (c.startAccept listener pending iss).sock.Bounded := by
  unfold startAccept
  rw [tcpSetState_eq]
  exact bounded_sendSyn _ rfl (.inr rfl) rfl rfl

/-- `tcp_recv` has no part in this. -/
lemma bounded_recv (h : c.sock.Bounded) (maxLen : Nat) : (c.tcpRecv maxLen).2.2.sock.Bounded := by
  unfold tcpRecv
  dsimp only
  split_ifs
  all_goals exact h

/-! ## Incoming segments -/

lemma bounded_receiveSynSent (hc : c.sock.state = .synSent) (h : c.sock.Bounded) :
    (c.receiveSynSent seg).sock.Bounded := by
  have hopen := h
  unfold Bounded at hopen
  rw [hc] at hopen
  unfold receiveSynSent
  split_ifs with hboth hack hbare
  · exact h
  · rw [not_not] at hack
    rw [sendAck_sock, tcpSetState_eq]
    change (seg.ack - c.sock.iss).toNat < 2147483648 ∧ (c.sock.sndNxt - seg.ack).toNat ≤ 65535
    rw [hack, UInt32.sub_self]
    exact ⟨lt_of_le_of_lt hopen.2 (by decide), by decide⟩
  · rw [tcpSetState_eq]
    refine bounded_sendOne _ rfl fun nxt hcases => ⟨hopen.1, ?_⟩
    change (nxt - c.sock.iss).toNat ≤ 2
    have hnear := hopen.2
    rcases hcases with rfl | rfl
    · exact hnear.trans (by decide)
    · change (c.sock.sndNxt + UInt32.ofNat 1 - c.sock.iss).toNat ≤ 2
      rw [seq_ahead _ _ 1 (by omega)]
      omega
  · exact h

lemma bounded_receiveSynReceived (hc : c.sock.state = .synReceived) (h : c.sock.Bounded) :
    (c.receiveSynReceived seg).sock.Bounded := by
  have hopen := h
  unfold Bounded at hopen
  rw [hc] at hopen
  unfold receiveSynReceived
  split_ifs with hack
  · rw [tcpSetState_eq]
    change (seg.ack - c.sock.iss).toNat < 2147483648 ∧ (c.sock.sndNxt - seg.ack).toNat ≤ 65535
    rw [hack.2, UInt32.sub_self]
    exact ⟨lt_of_le_of_lt hopen.2 (by decide), by decide⟩
  · exact h

/-- In ESTABLISHED, `snd_una` goes ahead to an acknowledgement that is accepted. -/
lemma bounded_receiveEstablished (hc : c.sock.state = .established) (h : c.sock.Bounded)
    (hrst : seg.flags.rst = false) (hack : c.sock.AckOk seg) :
    (c.receiveEstablished seg).sock.Bounded := by
  have hopen := h
  unfold Bounded at hopen
  rw [hc] at hopen
  have hacked : (c.processAck seg).sock.state = .established ∧
      Within .established (c.processAck seg).sock.sndUna (c.processAck seg).sock.sndNxt
        (c.processAck seg).sock.iss := by
    unfold processAck
    split_ifs with hflag
    · refine ⟨hc, ?_⟩
      simp only [modify]
      split_ifs with haccept
      · obtain ⟨hgt, hle⟩ := (Bool.and_eq_true _ _).mp haccept
        have hnear : (c.sock.sndNxt - c.sock.sndUna).toNat < 2147483648 :=
          lt_of_le_of_lt hopen.2 (by decide)
        have hbetween := seq_accepted hgt hle hnear
        exact ⟨(hack hrst hflag).1 hc hgt hle, (seq_between hbetween).trans hopen.2⟩
      · exact hopen
    · exact ⟨hc, hopen⟩
  have hdata : ∀ d : TcpConn, SameSend d.sock (d.processData seg).sock d.sock.state := by
    intro d
    unfold processData
    split_ifs
    · exact ⟨rfl, rfl, rfl, rfl⟩
    · rw [sendAck_sock]
      exact ⟨rfl, rfl, rfl, rfl⟩
    · rw [sendAck_sock]
      exact ⟨rfl, rfl, rfl, rfl⟩
  have hsame := hdata (c.processAck seg)
  rw [hacked.1] at hsame
  unfold receiveEstablished processFin
  split_ifs
  · rw [sendAck_sock, tcpSetState_eq]
    exact SameSend.bounded ⟨rfl, hsame.sndUna, hsame.sndNxt, hsame.iss⟩ hacked.2
  · exact hsame.bounded hacked.2

lemma bounded_receiveFinWait1 (hc : c.sock.state = .finWait1) (h : c.sock.Bounded) :
    (c.receiveFinWait1 seg).sock.Bounded := by
  have hopen := h
  unfold Bounded at hopen
  rw [hc] at hopen
  unfold receiveFinWait1
  obtain ⟨acked, hacked, hsame⟩ : ∃ acked, (if seg.flags.ack = true ∧ seg.ack = c.sock.sndNxt then
      c.tcpSetState .finWait2 else c) = acked ∧ acked.sock.Bounded ∧
      acked.sock.sndUna = c.sock.sndUna ∧ acked.sock.sndNxt = c.sock.sndNxt ∧
      acked.sock.iss = c.sock.iss := by
    refine ⟨_, rfl, ?_⟩
    split_ifs
    · refine ⟨bounded_setState c hopen, ?_⟩
      rw [tcpSetState_eq]
      exact ⟨rfl, rfl, rfl⟩
    · exact ⟨h, rfl, rfl, rfl⟩
  obtain ⟨hbounded, huna, hnxt, hiss⟩ := hsame
  rw [hacked]
  dsimp only
  have hwithin : Within .timeWait acked.countFin.sendAck.sock.sndUna
      acked.countFin.sendAck.sock.sndNxt acked.countFin.sendAck.sock.iss := by
    rw [sendAck_sock]
    change Within .timeWait acked.sock.sndUna acked.sock.sndNxt acked.sock.iss
    rw [huna, hnxt, hiss]
    exact hopen
  split_ifs
  · exact bounded_enterTimeWait hwithin
  · exact bounded_setState _ hwithin
  · exact hbounded

/-- **A segment** keeps the numbers apart, if its acknowledgement does. -/
lemma bounded_receive (h : c.sock.Bounded) (hack : c.sock.AckOk seg) : (c.tcpReceive seg).sock.Bounded := by
  have hopen := h
  unfold Bounded at hopen
  unfold tcpReceive
  by_cases hreset : seg.flags.rst = true
  · rw [if_pos hreset]
    split_ifs
    · exact bounded_closed c
    · exact h
  rw [if_neg hreset]
  have hrst : seg.flags.rst = false := Bool.not_eq_true _ ▸ hreset
  cases hc : c.sock.state
  all_goals rw [hc] at hopen
  case closed => exact h
  case listen =>
    simp only [receiveListen]
    split_ifs
    all_goals exact h
  case synSent => exact bounded_receiveSynSent hc h
  case synReceived => exact bounded_receiveSynReceived hc h
  case established => exact bounded_receiveEstablished hc h hrst hack
  case finWait1 => exact bounded_receiveFinWait1 hc h
  case finWait2 =>
    simp only [receiveFinWait2]
    split_ifs
    · rw [sendAck_sock]
      exact bounded_enterTimeWait hopen
    · exact h
  case closeWait =>
    simp only [receiveCloseWait]
    split_ifs with hflag
    · obtain ⟨hbetween, hnear⟩ := (hack hrst hflag).2 hc
      refine SameSend.bounded ⟨hc, rfl, rfl, rfl⟩ ⟨hnear, ?_⟩
      exact (seq_between hbetween).trans hopen.2
    · exact h
  case closing =>
    simp only [receiveClosing]
    split_ifs
    · exact bounded_enterTimeWait hopen
    · exact h
  case lastAck =>
    simp only [receiveLastAck]
    split_ifs
    · exact bounded_closed c
    · exact h
  case timeWait =>
    simp only
    split_ifs
    · rw [sendAck_sock]
      exact h
    · exact h

/-! ## Transmissions -/

lemma flight_toSend (hcan : c.sock.tcpCanSend = true) (hfits : c.sock.Fits advertised)
    (hsome : toSend c.sock ≠ 0) : c.sock.flight + toSend c.sock ≤ advertised := by
  unfold toSend at hsome ⊢
  have hused : c.sock.sendBuf.used ≠ 0 := by omega
  have hwnd : c.sock.sndWnd ≠ 0 := by
    intro hzero
    rw [hzero] at hsome
    simp at hsome
  rcases hfits hcan hused hwnd with h | h
  · omega
  · omega

/-- **`tcp_output`** transmits what fits, or nothing. -/
lemma bounded_output (h : c.sock.Bounded) (hfits : c.sock.Fits advertised) (hadv : advertised ≤ 65535) :
    c.tcpOutput.sock.Bounded ∧ (c.tcpOutput.io.sent = c.io.sent ∨ c.tcpOutput.sock.flight ≤ advertised) := by
  have hsame := c.io.kmalloc_same
  unfold tcpOutput
  rcases hmalloc : c.io.kmalloc with ⟨ok, io⟩
  rw [hmalloc] at hsame
  dsimp only at hsame ⊢
  split_ifs with hcan hzero hok
  · exact ⟨h, .inl rfl⟩
  · have hahead := flight_toSend hcan hfits hzero
    have hlen : seqLen { ack := true, psh := (c.sock.sendBuf.ringBufferPeek (toSend c.sock)).length =
        c.sock.sendBuf.used } (c.sock.sendBuf.ringBufferPeek (toSend c.sock)) =
        UInt32.ofNat (toSend c.sock) := by
      have hdata : ∀ (flags : TcpFlags) (data : List UInt8), flags.syn = false → flags.fin = false →
          seqLen flags data = UInt32.ofNat data.length := by
        intro flags data hsyn hfin
        rw [seqLen, hsyn, hfin]
        exact (UInt32.add_zero _).trans (UInt32.add_zero _)
      rw [hdata _ _ rfl rfl, length_peek]
    have hflight : (c.sock.sndNxt + UInt32.ofNat (toSend c.sock) - c.sock.sndUna).toNat =
        c.sock.flight + toSend c.sock := seq_ahead _ _ _ (by unfold flight at hahead; omega)
    rcases tcpSendSegment_cases { c with io := io }
      { ack := true, psh := (c.sock.sendBuf.ringBufferPeek (toSend c.sock)).length =
        c.sock.sendBuf.used } (c.sock.sendBuf.ringBufferPeek (toSend c.sock)) with hunsent | hsent
    · refine ⟨?_, .inl (hunsent.sent.trans hsame.1)⟩
      simp only [modify, hunsent.sock]
      exact h
    · have hopen := h
      unfold Bounded at hopen
      simp only [modify, hsent.sock, hlen]
      refine ⟨?_, .inr (hflight.trans_le hahead)⟩
      have hstate : c.sock.state = .established ∨ c.sock.state = .closeWait := by
        unfold TcpSocket.tcpCanSend at hcan
        exact ((Bool.or_eq_true _ _).mp hcan).imp of_decide_eq_true of_decide_eq_true
      have hnear : (c.sock.sndNxt + UInt32.ofNat (toSend c.sock) - c.sock.sndUna).toNat ≤ 65535 :=
        hflight.trans_le (hahead.trans hadv)
      rcases hstate with hc | hc
      · rw [hc] at hopen
        unfold Bounded
        dsimp only
        rw [hc]
        exact ⟨hopen.1, hnear⟩
      · rw [hc] at hopen
        unfold Bounded
        dsimp only
        rw [hc]
        exact ⟨hopen.1, hnear⟩
  · exact ⟨h, .inl hsame.1⟩
  · exact ⟨h, .inl rfl⟩

/-- **`tcp_send`.** -/
lemma bounded_send (h : c.sock.Bounded) {data : List UInt8} (hadv : advertised ≤ 65535)
    (hfits : data ≠ [] → 0 < c.sock.sendBuf.ringBufferSpace → (c.sock.withData data).Fits advertised) :
    (c.tcpSend data).2.sock.Bounded ∧
      ((c.tcpSend data).2.io.sent = c.io.sent ∨ (c.tcpSend data).2.sock.flight ≤ advertised) := by
  rcases c.tcpSend_cases data with ⟨-, hsame⟩ | ⟨-, hnil, hspace, hanswer⟩
  · rw [hsame]
    exact ⟨h, .inl rfl⟩
  · rw [hanswer]
    exact @bounded_output (c.modify (·.withData data)) advertised h (hfits hnil hspace) hadv

end TcpConn

/-! ## The machine -/

/-- The sockets, the last window that each peer has advertised (with an acknowledgement, not a reset),
and for each transmission of `tcp_output` what was in flight afterwards, and that window. -/
structure WindowMachine where
  tcp : Tcp
  advertised : TcpRef → Nat := fun _ => 0
  flights : List (Nat × Nat) := []

namespace WindowMachine

open TcpSocket

variable {m m' : WindowMachine} {e : TcpEvent} {p : TcpRef}

/-- A segment tells the window of the peer. -/
def hears (m : WindowMachine) (seg : TcpSegment) : TcpRef → Nat :=
  match m.tcp.reaches seg with
  | none => m.advertised
  | some p =>
    if seg.flags.ack && !seg.flags.rst then
      Function.update m.advertised p seg.window.toNat
    else m.advertised

/-- Something was transmitted for this socket, or not. -/
def record (m : WindowMachine) (p : TcpRef) (t : Tcp) : List (Nat × Nat) :=
  if t.io.sent = m.tcp.io.sent then m.flights
  else m.flights ++ [((t.blocks p).flight, m.advertised p)]

def apply (m : WindowMachine) (e : TcpEvent) : WindowMachine where
  tcp := m.tcp.apply e
  advertised :=
    match e with
    | .receive seg => m.hears seg
    | _ => m.advertised
  flights :=
    match e with
    | .send p _ | .output p => m.record p (m.tcp.apply e)
    | _ => m.flights

def Step (m : WindowMachine) (e : TcpEvent) (m' : WindowMachine) : Prop :=
  m' = m.apply e ∧ ∀ p, e.socket = some p → p ∈ m.tcp.list

/-- Sockets past their opening are in order, and no transmission went beyond the window. -/
structure Disciplined (m : WindowMachine) : Prop where
  order : ∀ p ∈ m.tcp.list, (m.tcp.blocks p).state.synchronised = true → (m.tcp.blocks p).Ordered
  window : ∀ f ∈ m.flights, f.1 ≤ f.2

/-- The data fits, and the acknowledgements are in order. -/
def Careful (m : WindowMachine) : TcpEvent → Prop
  | .send p data => data ≠ [] → 0 < (m.tcp.blocks p).sendBuf.ringBufferSpace →
      ((m.tcp.blocks p).withData data).Fits (m.advertised p)
  | .output p => (m.tcp.blocks p).Fits (m.advertised p)
  | .receive seg => ∀ p, m.tcp.reaches seg = some p → (m.tcp.blocks p).AckOk seg
  | _ => True

def CarefulStep (m : WindowMachine) (e : TcpEvent) (m' : WindowMachine) : Prop :=
  Step m e m' ∧ m.Careful e

/-- The machine after `tcp_init`, with any outside. -/
def boot (io : TcpIo) : WindowMachine := { tcp := Tcp.tcpInit { io := io } }

/-- The invariant. -/
structure Kept (m : WindowMachine) : Prop where
  wf : m.tcp.Wf
  bounded : ∀ p ∈ m.tcp.list, (m.tcp.blocks p).Bounded
  window : ∀ f ∈ m.flights, f.1 ≤ f.2
  word : ∀ p, m.advertised p ≤ 65535

lemma Kept.disciplined (h : m.Kept) : m.Disciplined where
  order p hp hstate := (h.bounded p hp).ordered hstate
  window := h.window

lemma Kept.call (h : m.Kept) (hcareful : m.Careful e) {s : TcpSocket} {call : SockCall}
    (hperforms : Performs m.tcp e p s call) (hs : s.Bounded) :
    Tcp.CallKeeps (fun _ s => s.Bounded) (fun _ => True) p s (·.call call) := by
  intro io _
  refine ⟨?_, fun _ _ => trivial⟩
  cases hperforms with
  | bind hfree => exact hs
  | listen p backlog =>
    simp only [TcpConn.call, TcpConn.tcpListen]
    split_ifs
    · exact hs
    · exact hs
    · exact TcpConn.bounded_setState _ trivial
  | accepted hlisten hpending iss now => exact TcpConn.bounded_startAccept _ _ _ _
  | accept hlisten hpending => exact hs
  | connect hclosed hbound iss remoteIp remotePort => exact TcpConn.bounded_startConnect _ _ _ _
  | bindConnect hclosed hfree iss remoteIp remotePort =>
    exact TcpConn.bounded_startConnect _ _ _ _
  | send p data =>
    exact (@TcpConn.bounded_send { sock := m.tcp.blocks p, io := io } (m.advertised p) hs
      data (h.word p) hcareful).1
  | recv p maxLen => exact TcpConn.bounded_recv hs maxLen
  | close p => exact TcpConn.bounded_close hs
  | abort p => exact TcpConn.bounded_abort _
  | output p =>
    exact (@TcpConn.bounded_output { sock := m.tcp.blocks p, io := io } (m.advertised p)
      hs hcareful (h.word p)).1
  | setNonblock p nonblock => exact hs
  | receive hfound => exact TcpConn.bounded_receive hs (hcareful _ hfound)
  | tick hp => exact TcpConn.bounded_tick hs

lemma Kept.record (h : m.Kept) {t : Tcp} (hsent : t.io.sent = m.tcp.io.sent ∨ (t.blocks p).flight ≤ m.advertised p) :
    ∀ f ∈ m.record p t, f.1 ≤ f.2 := by
  intro f hf
  unfold WindowMachine.record at hf
  split_ifs at hf with hsame
  · exact h.window f hf
  · rw [List.mem_append, List.mem_singleton] at hf
    rcases hf with hold | rfl
    · exact h.window f hold
    · exact hsent.resolve_left hsame

/-- **One event.** -/
lemma Kept.step (h : m.Kept) (hstep : CarefulStep m e m') : m'.Kept := by
  obtain ⟨⟨rfl, hguard⟩, hcareful⟩ := hstep
  have hbounded : (m.tcp.apply e).Holds (fun _ s => s.Bounded) fun _ => True :=
    Tcp.apply_keeps ⟨h.bounded, fun _ _ => trivial⟩ h.wf hguard (fun _ => trivial)
      (fun _ _ _ => trivial) fun p s call hperforms hs => h.call hcareful hperforms hs
  refine ⟨h.wf.apply hguard, hbounded.blocks, ?_, ?_⟩
  · cases e with
    | send p data =>
      refine h.record ?_
      rw [Tcp.apply, Tcp.onSocket_io, Tcp.onSocket_self]
      exact (@TcpConn.bounded_send { sock := m.tcp.blocks p, io := m.tcp.io } (m.advertised p)
        (h.bounded p (hguard p rfl)) data (h.word p) hcareful).2
    | output p =>
      refine h.record ?_
      rw [Tcp.apply, Tcp.onSocket_io, Tcp.onSocket_self]
      exact (@TcpConn.bounded_output { sock := m.tcp.blocks p, io := m.tcp.io } (m.advertised p)
        (h.bounded p (hguard p rfl)) hcareful (h.word p)).2
    | _ => exact h.window
  · cases e with
    | receive seg =>
      intro q
      change m.hears seg q ≤ 65535
      unfold hears
      cases m.tcp.reaches seg with
      | none => exact h.word q
      | some p =>
        dsimp only
        split_ifs
        · by_cases hq : q = p
          · subst hq
            rw [Function.update_self]
            exact Nat.le_of_lt_succ seg.window.toNat_lt
          · rw [Function.update_of_ne hq]
            exact h.word q
        · exact h.word q
    | _ => exact h.word

/-- **The send window is kept** in every run in which the acknowledgements are in order and the data
fits. -/
theorem disciplined_of_steps {io : TcpIo} {es : List TcpEvent}
    (hrun : Steps CarefulStep (boot io) es m) : m.Disciplined := by
  have hinit : (boot io).Kept :=
    ⟨⟨List.nodup_nil, fun _ h => absurd h List.not_mem_nil⟩,
      fun _ h => absurd h List.not_mem_nil, fun _ h => absurd h List.not_mem_nil, fun _ => Nat.zero_le _⟩
  exact (hrun.invariant (fun _ _ _ ht hstep => Kept.step ht hstep) hinit).disciplined

/-- A machine with the address 10, and the answer of the peer 20 to its first SYN: the window is three
bytes. -/
def narrowIo : TcpIo := { ownIp := 10 }

def narrowSynAck : TcpSegment :=
  { srcIp := 20, dstIp := 10, srcPort := 80, dstPort := 49152, seq := 500, ack := 128001,
    flags := { syn := true, ack := true }, window := 3 }

/-- A connection is opened, and three of four bytes are sent. -/
theorem disciplined_of_one_send : ∃ m, Steps CarefulStep (boot narrowIo)
    [.create, .connect 0 20 80, .receive narrowSynAck, .send 0 [1, 2, 3, 4]] m ∧
    m.flights = [(3, 3)] ∧ m.Disciplined := by
  obtain ⟨m, hrun, hflights⟩ : ∃ m, Steps CarefulStep (boot narrowIo)
      [.create, .connect 0 20 80, .receive narrowSynAck, .send 0 [1, 2, 3, 4]] m ∧
      m.flights = [(3, 3)] := by
    refine ⟨_, .cons ⟨⟨rfl, fun p hp => ?_⟩, trivial⟩ (.cons ⟨⟨rfl, fun p hp => ?_⟩, trivial⟩
      (.cons ⟨⟨rfl, fun p hp => ?_⟩, fun p hp _ _ => ⟨fun hc => ?_, fun hc => ?_⟩⟩
      (.cons ⟨⟨rfl, fun p hp => ?_⟩, fun _ _ _ _ _ => .inr ?_⟩ (.nil _)))), ?_⟩
    · cases hp
    · obtain rfl : 0 = p := Option.some.inj hp
      decide
    · cases hp
    · obtain rfl : p = 0 := Option.some.inj (hp.symm.trans (by decide))
      exact absurd hc (by decide)
    · obtain rfl : p = 0 := Option.some.inj (hp.symm.trans (by decide))
      exact absurd hc (by decide)
    · obtain rfl : 0 = p := Option.some.inj hp
      decide
    · decide
    · decide
  exact ⟨m, hrun, hflights, disciplined_of_steps hrun⟩

/-- `tcp_output` is called once more: the window is full, and the fourth byte is sent. -/
theorem window_overrun : ∃ m, Steps Step (boot narrowIo)
    [.create, .connect 0 20 80, .receive narrowSynAck, .send 0 [1, 2, 3, 4], .output 0] m ∧
    ¬ m.Disciplined := by
  refine ⟨_, .cons ⟨rfl, fun p hp => ?_⟩ (.cons ⟨rfl, fun p hp => ?_⟩ (.cons ⟨rfl, fun p hp => ?_⟩
    (.cons ⟨rfl, fun p hp => ?_⟩ (.cons ⟨rfl, fun p hp => ?_⟩ (.nil _))))), fun h => ?_⟩
  · cases hp
  · obtain rfl : 0 = p := Option.some.inj hp
    decide
  · cases hp
  · obtain rfl : 0 = p := Option.some.inj hp
    decide
  · obtain rfl : 0 = p := Option.some.inj hp
    decide
  · exact absurd (h.window (4, 3) (by decide)) (by decide)

end WindowMachine

end AAAos
