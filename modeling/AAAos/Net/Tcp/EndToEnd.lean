import AAAos.Net.Tcp.ReceiveStream
import AAAos.Net.Tcp.SendStream

/-!
# A stream from end to end

A sender and a receiver.  Between them the network may lose, delay, reorder and repeat what is sent.

The peer's stream of the receiver is what the sender accepts, and grows as long as it accepts more.  So
what is kept (`Link.Inv`) speaks of every stream that the sender may still come to send.
-/

namespace AAAos

/-! ## The receiving end -/

/-- The segment without SYN, and with this sequence number. -/
def TcpSegment.withSeq (seg : TcpSegment) (seq : UInt32) : TcpSegment :=
  { seg with seq := seq, flags := { seg.flags with syn := false } }

/-- The states before the end of the handshake. -/
def TcpState.opening : TcpState → Bool
  | .listen | .synSent | .synReceived => true
  | _ => false

namespace TcpConn

variable {c : TcpConn} {seg : TcpSegment} {seq : UInt32}

/-- After the handshake the SYN flag is not looked at, nor the sequence number where there is no data. -/
lemma tcpReceive_at (hopened : c.sock.state.opening = false) (hclosed : c.sock.state ≠ .closed)
    (hseq : seg.data = [] ∨ seq = seg.seq) : c.tcpReceive (seg.withSeq seq) = c.tcpReceive seg := by
  have hdata : ∀ d : TcpConn, d.processData (seg.withSeq seq) = d.processData seg := by
    intro d
    rcases hseq with hnil | rfl
    · rw [processData, processData, if_pos hnil, if_pos (show (seg.withSeq seq).data = [] from hnil)]
    · rfl
  unfold tcpReceive
  cases hc : c.sock.state
  all_goals rw [hc] at hopened hclosed
  case closed => exact absurd rfl hclosed
  case established =>
    simp only [receiveEstablished]
    rw [hdata]
    rfl
  all_goals first | rfl | cases hopened

end TcpConn

namespace PeerStream

variable {S : PeerStream} {seg : TcpSegment} {x y : Nat}

lemma seqAt_inj (hx : x < 2 ^ 32) (hy : y < 2 ^ 32) (h : S.seqAt x = S.seqAt y) : x = y := by
  have hsame := congrArg UInt32.toNat ((UInt32.add_right_inj S.irs).mp h)
  rwa [UInt32.toNat_ofNat_of_lt' hx, UInt32.toNat_ofNat_of_lt' hy] at hsame

/-- The segment carries a slice, up to what is not looked at. -/
def Part (S : PeerStream) (seg : TcpSegment) : Prop :=
  ∃ i j seq, i ≤ S.finPos ∧ S.Slice i j (seg.withSeq seq) ∧
    (seq = seg.seq ∧ (seg.flags.fin = true → seg.data = []) ∨ seg.data = [] ∧ seg.flags.fin = false)

end PeerStream

namespace Receiver

variable {S : PeerStream} {m : Receiver} {buffered : List UInt8} {c : TcpConn} {seg : TcpSegment}

lemma Taking.opened (h : Taking S m buffered) (hlive : m.conn.freed = false) :
    m.conn.sock.state.opening = false ∧ m.conn.sock.state ≠ .closed := by
  cases hc : m.conn.sock.state
  case listen | synSent | synReceived | closed =>
    cases h.phase with
    | gone hgone => rw [hlive] at hgone; cases hgone
    | expects hexp => rw [hc] at hexp; cases hexp
    | done hfin => rw [hc] at hfin; cases hfin
  all_goals exact ⟨rfl, nofun⟩

lemma Taking.timely {i : Nat} (h : Taking S m buffered) (hlive : m.conn.freed = false)
    (hexp : m.conn.sock.state.expects = true) (hbound : S.finPos < 2 ^ 32) (hi : i ≤ S.finPos) : Timely S m i := by
  cases h.phase with
  | gone hgone => rw [hlive] at hgone; cases hgone
  | done hdone => rw [TcpState.finTaken_of_expects hexp] at hdone; cases hdone
  | expects _ hplace =>
    intro x hx hat
    have htaken := h.taken.length_le
    rw [h.accepted_eq]
    unfold PeerStream.finPos at hi hx hbound
    exact PeerStream.seqAt_inj (by omega) (by omega) (hat.trans hplace)

/-- **A part of the stream arrives**, and a FIN comes when all before it was taken. -/
lemma Taking.part (h : Taking S m buffered) (hlive : m.conn.freed = false) (hbound : S.finPos < 2 ^ 32)
    (hpart : S.Part seg) (hfin : seg.flags.fin = true → m.conn.sock.state.expects = true →
      seg.seq = m.conn.sock.rcvNxt) : ∃ buffered', Taking S { m with conn := m.conn.tcpReceive seg } buffered' := by
  obtain ⟨i, j, seq, hi, hslice, hlike⟩ := hpart
  obtain ⟨hopened, hclosed⟩ := h.opened hlive
  rw [← TcpConn.tcpReceive_at hopened hclosed (hlike.symm.imp And.left And.left)]
  refine h.segment hlive hslice fun hexp => ⟨h.timely hlive hexp hbound hi, fun hflag => .inl ?_⟩
  rcases hlike with ⟨rfl, hnil⟩ | ⟨-, hnone⟩
  · rw [← hfin hflag hexp, TcpSegment.finSeq, TcpConn.seqLen, hflag]
    have hdata : (seg.withSeq seg.seq).data = [] := hnil hflag
    rw [hdata]
    exact UInt32.add_sub_cancel _ _
  · exact absurd (hnone.symm.trans hflag) Bool.false_ne_true

end Receiver

/-! ## The sending end -/

namespace Sender

variable {m m' : Sender} {buffered more : List UInt8} {e : SenderEvent} {seg : TcpSegment}

/-- **What was sent is a part of the stream**, whatever the sender may still come to send. -/
lemma Sending.part (h : m.Sending buffered) (hmem : seg ∈ m.conn.io.sent) (hrst : seg.flags.rst = false)
    (hmore : m.conn.sock.state.finished = true → more = []) (hbound : (m.accepted ++ more).length + 1 < 2 ^ 32) :
    PeerStream.Part ⟨m.conn.sock.iss, m.accepted ++ more⟩ seg := by
  have hplace : ∀ o, m.seqAt o = PeerStream.seqAt ⟨m.conn.sock.iss, m.accepted ++ more⟩ (o + 1) :=
    fun o => by rw [seqAt, PeerStream.seqAt, Nat.add_comm, UInt32.ofNat_add, ← UInt32.add_assoc]; rfl
  by_cases hdata : seg.data = []
  · cases hfin : seg.flags.fin with
    | false =>
      -- an acknowledgement counts as the empty slice at place 1
      exact ⟨1, 1, _, Nat.le_add_left 1 _, ⟨le_rfl, Nat.le_add_left 1 _, rfl, rfl, hfin, hrst, hdata⟩,
        .inr ⟨hdata, hfin⟩⟩
    | true =>
      obtain rfl : more = [] := by
        cases h.phase with
        | sending _ _ hnone => rw [hnone seg hmem] at hfin; cases hfin
        | finished hstate => exact hmore hstate
      refine ⟨m.accepted.length + 1, m.accepted.length + 2, _, ?_, ⟨Nat.le_succ _, ?_, ?_, ?_, ?_, hrst, ?_⟩,
        .inl ⟨rfl, fun _ => hdata⟩⟩
      · rw [PeerStream.finPos, List.append_nil]
      · rw [PeerStream.finPos, List.append_nil]
      · exact (h.faithful.fin seg hmem hfin).trans (hplace _)
      · simp [TcpSegment.withSeq]
      · simpa [TcpSegment.withSeq, PeerStream.finPos] using hfin
      · simp [TcpSegment.withSeq, hdata]
  · obtain ⟨before, after, hsplit⟩ := List.append_of_mem hmem
    obtain ⟨hseq, hpre⟩ := h.faithful.data before seg after hsplit hdata
    have hlen := hpre.length_le
    have hpos := List.length_pos_iff.mpr hdata
    rw [List.length_drop] at hlen
    rw [List.length_append] at hbound
    have hfinPos : PeerStream.finPos ⟨m.conn.sock.iss, m.accepted ++ more⟩ = m.accepted.length + more.length + 1 :=
      congrArg (· + 1) List.length_append
    have hfin : seg.flags.fin = false := by
      by_contra hfin
      have hend := (h.faithful.fin seg hmem (Bool.not_eq_false _ ▸ hfin)).symm.trans hseq
      have hsame := PeerStream.seqAt_inj (by omega) (by omega) ((hplace _).symm.trans (hend.trans (hplace _)))
      omega
    refine ⟨(bytesOf before).length + 1, (bytesOf before).length + 1 + seg.data.length, _, ?_,
      ⟨Nat.le_add_right _ _, ?_, hseq.trans (hplace _), ?_, ?_, hrst, ?_⟩, .inl ⟨rfl, ?_⟩⟩
    · omega
    · omega
    · simp [TcpSegment.withSeq]
    · exact hfin.trans (decide_eq_false (by omega)).symm
    · have hall : seg.data <+: (m.accepted ++ more).drop (bytesOf before).length := by
        rw [List.drop_append]
        exact hpre.trans (List.prefix_append _ _)
      rw [Nat.add_right_comm, Nat.add_sub_cancel, Nat.add_sub_cancel, List.drop_take, Nat.add_sub_cancel_left]
      exact List.prefix_iff_eq_take.mp hall
    · exact fun h => absurd (hfin.symm.trans h) Bool.false_ne_true

/-- The stream goes on from what it was, and a finished one stays as it is. -/
structure Keeps (m m' : Sender) : Prop where
  iss : m'.conn.sock.iss = m.conn.sock.iss
  accepted : m.accepted <+: m'.accepted
  finished : m.conn.sock.state.finished = true → m'.conn.sock.state.finished = true ∧ m'.accepted = m.accepted

lemma Keeps.of_quiet {c : TcpConn} {state : TcpState} (hquiet : TcpConn.Quiet m.conn c state)
    (hleads : TcpConn.Leads m.conn.sock.state state) : Keeps m { m with conn := c } :=
  ⟨hquiet.iss, List.prefix_rfl, fun hfin => ⟨hquiet.state.symm ▸ hleads.2 hfin, rfl⟩⟩

lemma Sending.keeps_output (h : m.Sending buffered) (hkeeps : ¬ m.conn.LosesOutput) :
    Keeps m { m with conn := m.conn.tcpOutput } := by
  rcases TcpConn.tcpOutput_cases h.holds hkeeps with hquiet | ⟨_, -, -, -, -, -, -, -, hstate, hiss⟩
  · exact .of_quiet hquiet (TcpConn.leads_refl _)
  · exact ⟨hiss, List.prefix_rfl, fun hfin => ⟨(congrArg TcpState.finished hstate).trans hfin, rfl⟩⟩

lemma keeps_close (m : Sender) : Keeps m { m with conn := m.conn.tcpClose } := by
  have hfin : ∀ state, (m.conn.sendFin state).sock.iss = m.conn.sock.iss := by
    intro state
    obtain ⟨n, hsock⟩ := TcpConn.tcpSendSegment_sock (m.conn.tcpSetState state) { fin := true, ack := true } []
    rw [TcpConn.sendFin, hsock]
    exact (TcpConn.quiet_setState m.conn state).iss
  suffices h : m.conn.tcpClose.sock.iss = m.conn.sock.iss ∧
      (m.conn.sock.state.finished = true → m.conn.tcpClose.sock.state.finished = true) from
    ⟨h.1, List.prefix_rfl, fun hfinished => ⟨h.2 hfinished, rfl⟩⟩
  unfold TcpConn.tcpClose
  cases hc : m.conn.sock.state
  case listen | synSent => exact ⟨(TcpConn.quiet_setState m.conn .closed).iss,
    fun hfin => absurd hfin Bool.false_ne_true⟩
  case synReceived | established => exact ⟨hfin .finWait1, fun hfin => absurd hfin Bool.false_ne_true⟩
  case closeWait => exact ⟨hfin .lastAck, fun hfin => absurd hfin Bool.false_ne_true⟩
  all_goals exact ⟨rfl, fun h => (congrArg TcpState.finished hc).trans h⟩

/-- **One event at the sender.** -/
lemma Sending.keeps (h : m.Sending buffered) (hstep : LosslessStep m e m') : Keeps m m' := by
  obtain ⟨⟨-, rfl⟩, hkeeps⟩ := hstep
  cases e with
  | send data =>
    rcases m.conn.tcpSend_cases data with ⟨hzero, hsame⟩ | ⟨hcan, hnil, hspace, hanswer⟩
    · rw [apply, hsame, hzero, List.take_zero, List.append_nil]
      exact .of_quiet (.refl _) (TcpConn.leads_refl _)
    · have hout := (h.write hcan data).keeps_output (hkeeps hnil hspace)
      refine ⟨(congrArg (·.2.sock.iss) hanswer).trans hout.iss, List.prefix_append _ _, fun hfin => ?_⟩
      exact absurd ((sending_of_canSend hcan).2.symm.trans hfin) Bool.false_ne_true
  | output => exact h.keeps_output hkeeps
  | close => exact m.keeps_close
  | segment seg =>
    have hlisten : m.conn.sock.state ≠ .listen := by
      intro hc
      cases h.phase with
      | sending hstate => rw [hc] at hstate; cases hstate
      | finished hstate => rw [hc] at hstate; cases hstate
    obtain ⟨state, hquiet, hleads⟩ := TcpConn.quiet_tcpReceive hlisten hkeeps
    exact .of_quiet hquiet hleads
  | outside now allocs sends => exact .of_quiet (.of_eq rfl rfl rfl rfl rfl) (TcpConn.leads_refl _)

lemma Opened.sending (h : m.Opened) : m.Sending [] := by
  refine ⟨h.empty, ?_, h.sent.symm ▸ trivial, .sending ?_ ?_ ?_⟩
  · exact (congrArg (bytesOf · ++ []) h.sent).trans h.accepted.symm
  · rcases h.state with hstate | hstate | hstate
    all_goals exact congrArg TcpState.sending hstate
  · rw [h.sent]
    exact h.sndNxt.trans (UInt32.add_zero _).symm
  · rw [h.sent]
    exact fun _ hmem => absurd hmem List.not_mem_nil

end Sender

/-! ## The link -/

/-- The two ends. -/
structure Link where
  sender : Sender
  receiver : Receiver

/-- An event at the sender, a segment that arrives, and an event at the receiver. -/
inductive LinkEvent
  | sender (ev : SenderEvent)
  | deliver (seg : TcpSegment)
  | receiver (ev : ReceiverEvent)

namespace Link

variable {l l' : Link} {ev : LinkEvent}

/-- The sender accepts less than 2^32 - 1 bytes and loses none of them.  What arrives was sent at some
time and is no reset, and a FIN comes when all before it was taken. -/
inductive Step : Link → LinkEvent → Link → Prop
  | sender {s s' : Sender} {r : Receiver} {ev : SenderEvent} (h : Sender.LosslessStep s ev s')
      (hbound : s'.accepted.length + 1 < 2 ^ 32) : Step ⟨s, r⟩ (.sender ev) ⟨s', r⟩
  | deliver {s : Sender} {r : Receiver} {seg : TcpSegment} (hlive : r.conn.freed = false)
      (hsent : seg ∈ s.conn.io.sent) (hrst : seg.flags.rst = false)
      (hfin : seg.flags.fin = true → r.conn.sock.state.expects = true → seg.seq = r.conn.sock.rcvNxt) :
      Step ⟨s, r⟩ (.deliver seg) ⟨s, { r with conn := r.conn.tcpReceive seg }⟩
  | receiver {s : Sender} {r : Receiver} {ev : ReceiverEvent} (hlive : r.conn.freed = false)
      (hcall : ∀ i j seg, ev ≠ .segment i j seg) : Step ⟨s, r⟩ (.receiver ev) ⟨s, r.apply ev⟩

/-- The sender is faithful, and whatever it may still come to send, the receiver takes in order. -/
structure Inv (l : Link) : Prop where
  bound : l.sender.accepted.length + 1 < 2 ^ 32
  sending : ∃ buffered, l.sender.Sending buffered
  taking : ∀ more, (l.sender.conn.sock.state.finished = true → more = []) →
    (l.sender.accepted ++ more).length + 1 < 2 ^ 32 →
    ∃ buffered, Receiver.Taking ⟨l.sender.conn.sock.iss, l.sender.accepted ++ more⟩ l.receiver buffered

/-- **One event.** -/
lemma Inv.step (h : l.Inv) (hstep : Step l ev l') : l'.Inv := by
  obtain ⟨hbound, ⟨buffered, hsending⟩, htaking⟩ := h
  cases hstep with
  | sender hstep hbound' =>
    obtain ⟨hiss, ⟨new, hnew⟩, hfinished⟩ := hsending.keeps hstep
    refine ⟨hbound', hsending.step hstep, fun more hmore hlen => ?_⟩
    dsimp only at *
    rw [← hnew, List.append_assoc] at hlen
    rw [hiss, ← hnew, List.append_assoc]
    refine htaking (new ++ more) (fun hfin => ?_) hlen
    obtain ⟨hstays, hsame⟩ := hfinished hfin
    rw [hmore hstays, List.append_nil]
    exact List.append_right_eq_self.mp (hnew.trans hsame)
  | deliver hlive hsent hrst hfin =>
    refine ⟨hbound, ⟨buffered, hsending⟩, fun more hmore hlen => ?_⟩
    obtain ⟨_, htaken⟩ := htaking more hmore hlen
    exact htaken.part hlive hlen (hsending.part hsent hrst hmore hlen) hfin
  | @receiver s r ev hlive hcall =>
    refine ⟨hbound, ⟨buffered, hsending⟩, fun more hmore hlen => ?_⟩
    obtain ⟨_, htaken⟩ := htaking more hmore hlen
    cases ev with
    | segment i j seg => exact absurd rfl (hcall i j seg)
    | recv maxLen => exact htaken.recv maxLen
    | close => exact ⟨_, htaken.close hlive⟩
    | outside now allocs sends =>
      exact @Receiver.Taking.step _ _ _ _ (.outside now allocs sends) htaken ⟨⟨hlive, rfl, trivial⟩, trivial⟩

/-- **The stream arrives intact**, in every run from a connection that was just opened: what was returned
at one end is a beginning of what was accepted at the other, and when the FIN was taken, it is all there. -/
theorem intact_of_link {evs : List LinkEvent} (hopen : l.sender.Opened)
    (hstart : Receiver.Started ⟨l.sender.conn.sock.iss, []⟩ l.receiver) (hrun : Steps Step l evs l') :
    Receiver.Intact ⟨l'.sender.conn.sock.iss, l'.sender.accepted⟩ l'.receiver := by
  have hinit : l.Inv := by
    refine ⟨?_, ⟨[], hopen.sending⟩, fun more _ _ => ⟨[], hstart.empty, ?_, .expects ?_ ?_⟩⟩
    · rw [hopen.accepted]
      decide
    · rw [hstart.returned]
      exact List.nil_prefix
    · exact congrArg TcpState.expects hstart.state
    · rw [hstart.returned]
      exact hstart.rcvNxt
  have hinv : l'.Inv := hrun.invariant (fun _ _ _ h hstep => h.step hstep) hinit
  have htaking := hinv.taking [] (fun _ => rfl)
  rw [List.append_nil] at htaking
  obtain ⟨_, htaken⟩ := htaking hinv.bound
  exact htaken.intact

/-- A receiver for the stream of `narrowSender`. -/
def openReceiver : Receiver :=
  { conn := { sock := { state := .established, rcvNxt := 1001, irs := 1000 }, io := {} } }

/-- The second segment overtakes the first one. -/
def overtaking : List LinkEvent :=
  [.sender (.send [1, 2, 3]), .sender .output,
    .deliver ((Sender.narrowSender.apply (.send [1, 2, 3])).conn.segment { ack := true, psh := true } [3]),
    .deliver (Sender.narrowSender.conn.segment { ack := true } [1, 2]), .receiver (.recv 8)]

theorem intact_of_overtaking : ∃ l, Steps Step ⟨Sender.narrowSender, openReceiver⟩ overtaking l ∧
    l.receiver.returned = [1, 2] ∧ Receiver.Intact ⟨l.sender.conn.sock.iss, l.sender.accepted⟩ l.receiver := by
  obtain ⟨l, hrun, hread⟩ : ∃ l, Steps Step ⟨Sender.narrowSender, openReceiver⟩ overtaking l ∧
      l.receiver.returned = [1, 2] := by
    refine ⟨_, .cons (.sender ⟨⟨rfl, rfl⟩, fun _ _ h => absurd h.2.2.2 ?_⟩ ?_)
      (.cons (.sender ⟨⟨rfl, rfl⟩, fun h => absurd h.2.2.2 ?_⟩ ?_) (.cons (.deliver rfl (.tail _ (.head _)) rfl nofun)
      (.cons (.deliver ?_ (.head _) rfl nofun) (.cons (.receiver ?_ nofun) (.nil _))))), ?_⟩
    all_goals decide
  exact ⟨l, hrun, hread, intact_of_link Sender.opened_narrowSender
    ⟨rfl, rfl, ⟨by decide, rfl, rfl, by decide, rfl⟩, rfl, rfl⟩ hrun⟩

end Link

end AAAos
