import AAAos.Net.Tcp.Tcp

/-!
# What calls are made of

Every call on a socket writes to fields, allocates, and sends segments and resets (`Made`); some pass the
socket to `tcp_socket_destroy` at the end (`Destroys`).  So a call adds to the log of sent segments and
takes nothing from it, leaves the clock as it is, and destroys the socket in exactly the cases named.
-/

namespace AAAos

namespace TcpConn

variable {c c' c'' : TcpConn} {seg : TcpSegment} {P : Prop}

/-- The second is made from the first by writing, allocating and sending. -/
inductive Made (c : TcpConn) : TcpConn → Prop
  | refl : Made c c
  | write {c' : TcpConn} (f : TcpSocket → TcpSocket) : Made c c' → Made c (c'.modify f)
  | malloc {c' : TcpConn} : Made c c' → Made c { c' with io := c'.io.kmalloc.2 }
  | segment {c' : TcpConn} (flags : TcpFlags) (data : List UInt8) :
      Made c c' → Made c (c'.tcpSendSegment flags data).2
  | rst {c' : TcpConn} (srcIp dstIp : UInt32) (srcPort dstPort : UInt16) (seq ack : UInt32) :
      Made c c' → Made c (c'.tcpSendRst srcIp dstIp srcPort dstPort seq ack)

namespace Made

lemma trans (h : Made c c') (h' : Made c' c'') : Made c c'' := by
  induction h' with
  | refl => exact h
  | write f _ ih => exact ih.write f
  | malloc _ ih => exact ih.malloc
  | segment flags data _ ih => exact ih.segment flags data
  | rst srcIp dstIp srcPort dstPort seq ack _ ih => exact ih.rst srcIp dstIp srcPort dstPort seq ack

lemma sent (h : Made c c') : c.io.sent <+: c'.io.sent := by
  induction h with
  | refl => exact List.prefix_rfl
  | write f _ ih => exact ih
  | @malloc d _ ih =>
    change c.io.sent <+: d.io.kmalloc.2.sent
    rw [d.io.kmalloc_same.1]
    exact ih
  | @segment d flags data _ ih =>
    rcases tcpSendSegment_cases d flags data with hcase | hcase
    · rw [hcase.sent]
      exact ih
    · rw [hcase.sent]
      exact ih.trans (List.prefix_append _ _)
  | @rst d srcIp dstIp srcPort dstPort seq ack _ ih =>
    obtain ⟨new, hsent, -⟩ := d.io.tcpSendRst_sent srcIp dstIp srcPort dstPort seq ack
    change c.io.sent <+: (d.io.tcpSendRst srcIp dstIp srcPort dstPort seq ack).sent
    rw [hsent]
    exact ih.trans (List.prefix_append _ _)

lemma now (h : Made c c') : c'.io.now = c.io.now := by
  induction h with
  | refl => rfl
  | write f _ ih => exact ih
  | @malloc d _ ih => exact d.io.kmalloc_same.2.1.trans ih
  | @segment d flags data _ ih =>
    rcases tcpSendSegment_cases d flags data with hcase | hcase
    · exact hcase.now.trans ih
    · exact hcase.now.trans ih
  | @rst d srcIp dstIp srcPort dstPort seq ack _ ih => exact (TcpIo.ipSend_now _ _).trans ih

lemma freed (h : Made c c') : c'.freed = c.freed := by
  induction h with
  | refl => rfl
  | write f _ ih => exact ih
  | malloc _ ih => exact ih
  | @segment d flags data _ ih => exact (tcpSendSegment_freed d flags data).trans ih
  | rst srcIp dstIp srcPort dstPort seq ack _ ih => exact ih

end Made

lemma made_setState (c : TcpConn) (state : TcpState) : Made c (c.tcpSetState state) := by
  rw [tcpSetState_eq]
  exact Made.refl.write _

lemma made_ack (c : TcpConn) : Made c c.sendAck := Made.refl.segment _ _

lemma made_enterTimeWait (c : TcpConn) : Made c c.enterTimeWait :=
  (made_setState c .timeWait).write _

lemma made_sendFin (c : TcpConn) (state : TcpState) : Made c (c.sendFin state) :=
  (made_setState c state).segment _ _

lemma made_output (c : TcpConn) : Made c c.tcpOutput := by
  unfold tcpOutput
  dsimp only
  split_ifs
  · exact .refl
  · exact (Made.refl.malloc.segment _ _).write _
  · exact Made.refl.malloc
  · exact .refl

lemma made_send (c : TcpConn) (data : List UInt8) : Made c (c.tcpSend data).2 := by
  rcases c.tcpSend_cases data with ⟨-, hsame⟩ | ⟨-, -, -, hanswer⟩
  · rw [hsame]
    exact .refl
  · rw [hanswer]
    exact (Made.refl.write _).trans (made_output _)

lemma made_recv (c : TcpConn) (maxLen : Nat) : Made c (c.tcpRecv maxLen).2.2 := by
  have hread : ∀ f, Made c (c.modify f) := fun f => Made.refl.write f
  unfold tcpRecv
  dsimp only
  split_ifs
  all_goals dsimp only
  · exact .refl
  · exact hread _
  · exact hread _
  · exact (hread _).write _
  · exact (hread _).write _

lemma made_startConnect (c : TcpConn) (iss remoteIp : UInt32) (remotePort : UInt16) :
    Made c (c.startConnect iss remoteIp remotePort).2 := by
  have hsyn : ∀ f, Made c (((c.modify f).tcpSetState .synSent).tcpSendSegment { syn := true } []).2 :=
    fun f => ((Made.refl.write f).trans (made_setState _ _)).segment _ _
  unfold startConnect
  dsimp only
  split_ifs
  · exact (hsyn _).trans (made_setState _ .closed)
  · exact hsyn _

lemma made_startAccept (c : TcpConn) (listener : TcpSocket) (pending : TcpPendingConn)
    (iss : UInt32) : Made c (c.startAccept listener pending iss) :=
  ((Made.refl.write _).trans (made_setState _ .synReceived)).segment _ _

lemma made_listen (c : TcpConn) (backlog : Int) : Made c (c.tcpListen backlog).2 := by
  unfold tcpListen
  split_ifs
  · exact .refl
  · exact .refl
  · exact (Made.refl.write _).trans (made_setState _ .listen)

lemma made_bindTo (c : TcpConn) (port : UInt16) : Made c (c.bindTo port) := Made.refl.write _

lemma made_dropPending (c : TcpConn) : Made c c.dropPending := Made.refl.write _

lemma made_retransmit (c : TcpConn) : Made c c.retransmit := (Made.refl.write _).segment _ _

/-! ## Segments -/

lemma made_receiveListen (c : TcpConn) (seg : TcpSegment) : Made c (c.receiveListen seg) := by
  unfold receiveListen
  dsimp only
  split_ifs
  · exact .refl
  · exact Made.refl.malloc.write _
  · exact Made.refl.malloc
  · exact .refl

lemma made_receiveSynSent (c : TcpConn) (seg : TcpSegment) : Made c (c.receiveSynSent seg) := by
  unfold receiveSynSent
  split_ifs
  · exact Made.refl.rst _ _ _ _ _ _
  · exact ((Made.refl.write _).trans (made_setState _ .established)).trans (made_ack _)
  · exact ((Made.refl.write _).trans (made_setState _ .synReceived)).segment _ _
  · exact .refl

lemma made_receiveEstablished (c : TcpConn) (seg : TcpSegment) : Made c (c.receiveEstablished seg) := by
  have hack : Made c (c.processAck seg) := by
    unfold processAck
    split_ifs
    · exact Made.refl.write _
    · exact .refl
  have hdata : ∀ d : TcpConn, Made d (d.processData seg) := by
    intro d
    unfold processData
    split_ifs
    · exact .refl
    · exact (Made.refl.write _).trans (made_ack _)
    · exact made_ack d
  have hfin : ∀ d : TcpConn, Made d (d.processFin seg) := by
    intro d
    unfold processFin
    split_ifs
    · exact ((Made.refl.write _).trans (made_setState _ .closeWait)).trans (made_ack _)
    · exact .refl
  exact (hack.trans (hdata _)).trans (hfin _)

lemma made_receiveFinWait1 (c : TcpConn) (seg : TcpSegment) : Made c (c.receiveFinWait1 seg) := by
  unfold receiveFinWait1
  obtain ⟨acked, hacked, hmade⟩ : ∃ acked, (if seg.flags.ack = true ∧ seg.ack = c.sock.sndNxt then
      c.tcpSetState .finWait2 else c) = acked ∧ Made c acked := by
    refine ⟨_, rfl, ?_⟩
    split_ifs
    · exact made_setState c .finWait2
    · exact .refl
  rw [hacked]
  dsimp only
  have hfin : Made c acked.countFin.sendAck := (hmade.write _).trans (made_ack _)
  split_ifs
  · exact hfin.trans (made_enterTimeWait _)
  · exact hfin.trans (made_setState _ .closing)
  · exact hmade

/-! ## Calls that destroy the socket -/

/-- The second is made from the first, and destroyed at the end if `P`. -/
structure Ends (P : Prop) (c c' : TcpConn) : Prop where
  made : ¬ P → Made c c'
  destroyed : P → ∃ d, Made c d ∧ c' = d.tcpSocketDestroy

lemma Ends.of_made (hnot : ¬ P) (h : Made c c') : Ends P c c' := ⟨fun _ => h, fun hp => absurd hp hnot⟩

lemma Ends.of_destroyed (hp : P) (h : Made c c') : Ends P c c'.tcpSocketDestroy :=
  ⟨fun hnot => absurd hp hnot, fun _ => ⟨c', h, rfl⟩⟩

/-- The cases in which a call destroys its socket. -/
def Destroys (s : TcpSocket) (now : UInt32) : SockCall → Prop
  | .close => s.state = .closed ∨ s.state = .listen ∨ s.state = .synSent
  | .abort => True
  | .segment seg => seg.flags.rst = false ∧ s.state = .lastAck ∧ seg.flags.ack = true ∧
      seg.ack = s.sndNxt
  | .tick => s.state = .timeWait ∧ tcpTimeWaitTimeout ≤ now - s.timeWaitStart ∨
      (s.state = .synSent ∨ s.state = .synReceived) ∧
        s.rto * (s.retries.toUInt32 + 1) ≤ now - s.lastActivity ∧ tcpMaxRetries ≤ s.retries
  | _ => False

lemma ends_close (c : TcpConn) : Ends (Destroys c.sock c.io.now .close) c c.tcpClose := by
  change Ends (c.sock.state = .closed ∨ c.sock.state = .listen ∨ c.sock.state = .synSent) c _
  unfold tcpClose
  cases hstate : c.sock.state
  case closed => exact .of_destroyed (.inl rfl) .refl
  case listen => exact .of_destroyed (.inr (.inl rfl)) (made_setState c .closed)
  case synSent => exact .of_destroyed (.inr (.inr rfl)) (made_setState c .closed)
  case synReceived => exact .of_made (by decide) (made_sendFin c _)
  case established => exact .of_made (by decide) (made_sendFin c _)
  case closeWait => exact .of_made (by decide) (made_sendFin c _)
  all_goals exact .of_made (by decide) .refl

lemma ends_abort (c : TcpConn) (hp : P) : Ends P c c.tcpAbort := by
  unfold tcpAbort
  dsimp only
  split_ifs
  · exact .of_destroyed hp ((Made.refl.rst _ _ _ _ _ _).trans (made_setState _ .closed))
  · exact .of_destroyed hp (made_setState c .closed)

lemma ends_receive (c : TcpConn) (seg : TcpSegment) :
    Ends (Destroys c.sock c.io.now (.segment seg)) c (c.tcpReceive seg) := by
  unfold tcpReceive Destroys
  by_cases hreset : seg.flags.rst = true
  · rw [if_pos hreset]
    have hnot : ¬ (seg.flags.rst = false ∧ c.sock.state = .lastAck ∧ seg.flags.ack = true ∧
        seg.ack = c.sock.sndNxt) := by
      rw [hreset]
      exact fun h => absurd h.1 (by decide)
    split_ifs
    · exact .of_made hnot (made_setState c .closed)
    · exact .of_made hnot .refl
  rw [if_neg hreset]
  cases hstate : c.sock.state
  case lastAck =>
    simp only [receiveLastAck]
    split_ifs with hack
    · exact .of_destroyed ⟨Bool.not_eq_true _ ▸ hreset, trivial, hack⟩ (made_setState c .closed)
    · exact .of_made (fun h => hack h.2.2) .refl
  all_goals refine .of_made (fun h => absurd h.2.1 (by decide)) ?_
  case closed => exact Made.refl.rst _ _ _ _ _ _
  case listen => exact made_receiveListen c seg
  case synSent => exact made_receiveSynSent c seg
  case synReceived =>
    simp only [receiveSynReceived]
    split_ifs
    · exact (Made.refl.write _).trans (made_setState _ .established)
    · exact .refl
  case established => exact made_receiveEstablished c seg
  case finWait1 => exact made_receiveFinWait1 c seg
  case finWait2 =>
    simp only [receiveFinWait2]
    split_ifs
    · exact ((Made.refl.write _).trans (made_enterTimeWait _)).trans (made_ack _)
    · exact .refl
  case closeWait =>
    simp only [receiveCloseWait]
    split_ifs
    · exact Made.refl.write _
    · exact .refl
  case closing =>
    simp only [receiveClosing]
    split_ifs
    · exact made_enterTimeWait c
    · exact .refl
  case timeWait =>
    simp only
    split_ifs
    · exact made_ack c
    · exact .refl

lemma ends_tick (c : TcpConn) : Ends (Destroys c.sock c.io.now .tick) c c.tickSocket := by
  have hopening : c.sock.state = .synSent ∨ c.sock.state = .synReceived → Ends (Destroys c.sock c.io.now .tick) c
        (if c.sock.rto * (c.sock.retries.toUInt32 + 1) ≤ c.io.now - c.sock.lastActivity then
          if tcpMaxRetries ≤ c.sock.retries then c.tcpAbort else c.retransmit
        else c) := by
    intro hstate
    have hwait : c.sock.state ≠ .timeWait := by
      rcases hstate with h | h
      all_goals
        rw [h]
        decide
    split_ifs with hdue hmany
    · exact ends_abort c (.inr ⟨hstate, hdue, hmany⟩)
    · refine .of_made (fun h => ?_) (made_retransmit c)
      rcases h with h | h
      · exact hwait h.1
      · exact hmany h.2.2
    · refine .of_made (fun h => ?_) .refl
      rcases h with h | h
      · exact hwait h.1
      · exact hdue h.2.1
  unfold tickSocket
  cases hstate : c.sock.state
  case synSent => exact hopening (.inl hstate)
  case synReceived => exact hopening (.inr hstate)
  case timeWait =>
    simp only
    split_ifs with hdue
    · exact .of_destroyed (.inl ⟨hstate, hdue⟩) (made_setState c .closed)
    · refine .of_made (fun h => ?_) .refl
      rcases h with h | h
      · exact hdue h.2
      · rw [hstate] at h
        exact absurd h.1 (by decide)
  all_goals
    refine .of_made (fun h => ?_) .refl
    unfold Destroys at h
    rw [hstate] at h
    exact absurd h (by simp)

/-- **What a call does.** -/
theorem ends_call (c : TcpConn) (call : SockCall) : Ends (Destroys c.sock c.io.now call) c (c.call call) := by
  cases call with
  | bindTo port => exact .of_made id (made_bindTo c port)
  | listen backlog => exact .of_made id (made_listen c backlog)
  | startAccept listener pending iss => exact .of_made id (made_startAccept c listener pending iss)
  | dropPending => exact .of_made id (made_dropPending c)
  | connect port iss remoteIp remotePort =>
    cases port with
    | none => exact .of_made id (made_startConnect c iss remoteIp remotePort)
    | some port =>
      exact .of_made id ((made_bindTo c port).trans (made_startConnect _ iss remoteIp remotePort))
  | send data => exact .of_made id (made_send c data)
  | recv maxLen => exact .of_made id (made_recv c maxLen)
  | close => exact ends_close c
  | abort => exact ends_abort c trivial
  | output => exact .of_made id (made_output c)
  | setNonblock nonblock =>
    exact .of_made id (Made.refl.write fun s => { s with nonblock := nonblock })
  | segment seg => exact ends_receive c seg
  | tick => exact ends_tick c

lemma call_sent (c : TcpConn) (call : SockCall) : c.io.sent <+: (c.call call).io.sent := by
  have h := ends_call c call
  by_cases hdestroys : Destroys c.sock c.io.now call
  · obtain ⟨d, hmade, heq⟩ := h.destroyed hdestroys
    rw [heq]
    exact hmade.sent
  · exact (h.made hdestroys).sent

lemma call_now (c : TcpConn) (call : SockCall) : (c.call call).io.now = c.io.now := by
  have h := ends_call c call
  by_cases hdestroys : Destroys c.sock c.io.now call
  · obtain ⟨d, hmade, heq⟩ := h.destroyed hdestroys
    rw [heq]
    exact hmade.now
  · exact (h.made hdestroys).now

/-- **When the socket survives.** -/
lemma call_freed {call : SockCall} (h : ¬ Destroys c.sock c.io.now call) :
    (c.call call).freed = c.freed := ((ends_call c call).made h).freed

end TcpConn

/-- **What was sent stays sent.** -/
theorem Tcp.apply_sent {t : Tcp} {e : TcpEvent} (hwf : t.Wf)
    (hguard : ∀ p, e.socket = some p → p ∈ t.list) : t.io.sent <+: (t.apply e).io.sent := by
  refine apply_invariant (I := fun u => t.io.sent <+: u.io.sent) List.prefix_rfl hwf hguard
    (fun u next isn io hu hsent => ?_) (fun io hsent => ?_) (fun io new hsent _ => ?_)
    fun u p call _ _ hu => ?_
  · exact hsent ▸ hu
  · exact hsent ▸ List.prefix_rfl
  · exact hsent ▸ List.prefix_append _ _
  · rw [onSocket_io]
    exact hu.trans (TcpConn.call_sent { sock := u.blocks p, io := u.io } call)

end AAAos
