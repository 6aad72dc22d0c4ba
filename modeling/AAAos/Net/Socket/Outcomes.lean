import AAAos.Net.Socket.Socket
import AAAos.Net.Tcp.Calls

/-!
# What the socket calls do

Only `socket` and `accept` take a place of the table, and only `socket_close` gives one back.  Every
other call leaves the places as they are (`SameSlots`); the calls that destroy no control block leave
the blocks as they are, too (`Quiet`).
-/

namespace AAAos

/-! ## Control blocks -/

namespace Tcp

variable {t t' u : Tcp} {p : TcpRef} {f : TcpConn → TcpConn}

/-- No block comes or goes. -/
structure SameBlocks (t t' : Tcp) : Prop where
  list : t'.list = t.list
  fresh : t'.fresh = t.fresh
  destroyed : t'.destroyed = t.destroyed

/-- A new block heads the list. -/
structure NewBlock (t t' : Tcp) : Prop where
  list : t'.list = t.fresh :: t.list
  fresh : t'.fresh = t.fresh + 1
  destroyed : t'.destroyed = t.destroyed

/-- One block is destroyed, and leaves the list. -/
structure DestroysBlock (p : TcpRef) (t t' : Tcp) : Prop where
  list : t'.list = t.list.erase p
  fresh : t'.fresh = t.fresh
  destroyed : t'.destroyed = t.destroyed ++ [p]

/-- A block is made and destroyed at once. -/
structure PassingBlock (t t' : Tcp) : Prop where
  list : t'.list = t.list
  fresh : t'.fresh = t.fresh + 1
  destroyed : t'.destroyed = t.destroyed ++ [t.fresh]

lemma SameBlocks.refl (t : Tcp) : SameBlocks t t := ⟨rfl, rfl, rfl⟩

lemma SameBlocks.trans (h : SameBlocks t u) (h' : SameBlocks u t') : SameBlocks t t' :=
  ⟨h'.list.trans h.list, h'.fresh.trans h.fresh, h'.destroyed.trans h.destroyed⟩

lemma NewBlock.same (h : NewBlock t u) (h' : SameBlocks u t') : NewBlock t t' :=
  ⟨h'.list.trans h.list, h'.fresh.trans h.fresh, h'.destroyed.trans h.destroyed⟩

lemma SameBlocks.destroys (h : SameBlocks t u) (h' : DestroysBlock p u t') : DestroysBlock p t t' := by
  refine ⟨?_, h'.fresh.trans h.fresh, ?_⟩
  · rw [h'.list, h.list]
  · rw [h'.destroyed, h.destroyed]

lemma NewBlock.destroyed_fresh (h : NewBlock t u) (h' : DestroysBlock t.fresh u t') : PassingBlock t t' := by
  refine ⟨?_, h'.fresh.trans h.fresh, ?_⟩
  · rw [h'.list, h.list]
    exact List.erase_cons_head _ _
  · rw [h'.destroyed, h.destroyed]

lemma sameBlocks_onSocket (h : (f { sock := t.blocks p, io := t.io }).freed = false) :
    SameBlocks t (t.onSocket p f) := by
  unfold onSocket
  dsimp only
  rw [if_neg (by rw [h]; decide)]
  exact ⟨rfl, rfl, rfl⟩

lemma SameBlocks.call (hsame : SameBlocks t u) (p : TcpRef) (call : SockCall)
    (h : ¬ TcpConn.Destroys (u.blocks p) u.io.now call) :
    SameBlocks t (u.onSocket p (·.call call)) :=
  hsame.trans (sameBlocks_onSocket (TcpConn.call_freed (c := { sock := u.blocks p, io := u.io }) h))

lemma destroysBlock_onSocket (hp : p ∈ t.list) (h : (f { sock := t.blocks p, io := t.io }).freed = true) :
    DestroysBlock p t (t.onSocket p f) := by
  refine ⟨?_, onSocket_fresh t p f, ?_⟩
  · rw [onSocket_list hp, if_pos h]
  · unfold onSocket
    dsimp only
    rw [if_pos h]

lemma destroysBlock_destroy (hp : p ∈ t.list) : DestroysBlock p t (t.tcpSocketDestroy p) :=
  destroysBlock_onSocket hp rfl

lemma sameBlocks_tcpBind (t : Tcp) (p : TcpRef) (port : UInt16) : SameBlocks t (t.tcpBind p port).2 := by
  rcases t.tcpBind_cases p port with ⟨-, next, heq⟩ | ⟨-, chosen, next, -, heq⟩
  · rw [heq]
    exact ⟨rfl, rfl, rfl⟩
  · rw [heq]
    have hsame : SameBlocks t { t with nextEphemeralPort := next } := ⟨rfl, rfl, rfl⟩
    exact hsame.call p (.bindTo chosen) id

lemma sameBlocks_tcpConnect (t : Tcp) (p : TcpRef) (remoteIp : UInt32) (remotePort : UInt16) :
    SameBlocks t (t.tcpConnect p remoteIp remotePort).2 := by
  obtain ⟨next, isn, heq | ⟨call, hperforms, heq⟩⟩ := t.tcpConnect_cases p remoteIp remotePort
  · rw [heq]
    exact ⟨rfl, rfl, rfl⟩
  · rw [heq]
    have hsame : SameBlocks t { t with nextEphemeralPort := next, isnCounter := isn } :=
      ⟨rfl, rfl, rfl⟩
    cases hperforms with
    | connect hclosed hbound iss => exact hsame.call p _ id
    | bindConnect hclosed hfree iss => exact hsame.call p _ id

lemma newBlock_create (h : t.tcpSocketCreate = (some p, u)) : p = t.fresh ∧ NewBlock t u := by
  rcases t.tcpSocketCreate_cases with ⟨io, heq, -⟩ | ⟨io, heq, -⟩
  · rw [heq] at h
    exact absurd (congrArg Prod.fst h) (by simp)
  · rw [heq] at h
    obtain ⟨hp, rfl⟩ := Prod.mk.inj h
    exact ⟨(Option.some.inj hp).symm, rfl, rfl, rfl⟩

lemma sameBlocks_create (h : t.tcpSocketCreate = (none, u)) : SameBlocks t u := by
  rcases t.tcpSocketCreate_cases with ⟨io, heq, -⟩ | ⟨io, heq, -⟩
  · rw [heq] at h
    obtain ⟨-, rfl⟩ := Prod.mk.inj h
    exact ⟨rfl, rfl, rfl⟩
  · rw [heq] at h
    exact absurd (congrArg Prod.fst h) (by simp)

/-- `tcp_accept` has no answer, or makes a block. -/
lemma tcpAccept_blocks (t : Tcp) (p : TcpRef) : ((t.tcpAccept p).1 = none ∧ SameBlocks t (t.tcpAccept p).2) ∨
      ((t.tcpAccept p).1 = some t.fresh ∧ NewBlock t (t.tcpAccept p).2) := by
  rcases t.tcpAccept_cases p with ⟨io, -, heq⟩ | ⟨pending, rest, io, isn, iss, -, -, -, heq⟩
  · rw [heq]
    exact .inl ⟨rfl, rfl, rfl, rfl⟩
  · rw [heq]
    have hnew : NewBlock t { t.withNew io with isnCounter := isn } := ⟨rfl, rfl, rfl⟩
    have hcalls := ((SameBlocks.refl { t.withNew io with isnCounter := isn }).call t.fresh
      (.startAccept ((t.withNew io).blocks p) pending iss) id).call p .dropPending id
    exact .inr ⟨rfl, hnew.same hcalls⟩

lemma sameBlocks_tick (hwf : t.Wf) (h : ∀ p ∈ t.list, ¬ TcpConn.Destroys (t.blocks p) t.io.now .tick) :
    SameBlocks t t.tcpTimerTick := by
  have hloop : ∀ (l : List TcpRef) (u : Tcp), l.Nodup → SameBlocks t u → u.io.now = t.io.now →
      (∀ q ∈ l, q ∈ t.list ∧ u.blocks q = t.blocks q) → SameBlocks t (u.tickLoop l) := by
    intro l
    induction l with
    | nil => exact fun u _ hu _ _ => hu
    | cons p l ih =>
      intro u hnodup hu hnow hall
      obtain ⟨hp, hl⟩ := List.nodup_cons.mp hnodup
      obtain ⟨hmem, hblock⟩ := hall p List.mem_cons_self
      have hnot : ¬ TcpConn.Destroys (u.blocks p) u.io.now .tick := by
        rw [hblock, hnow]
        exact h p hmem
      refine ih _ hl (hu.call p .tick hnot) ?_ fun q hq => ?_
      · rw [onSocket_io]
        have hmade := (TcpConn.ends_call { sock := u.blocks p, io := u.io } .tick).made hnot
        exact hmade.now.trans hnow
      · have hne : q ≠ p := fun he => hp (he ▸ hq)
        obtain ⟨hmem', hblock'⟩ := hall q (List.mem_cons_of_mem p hq)
        exact ⟨hmem', (onSocket_of_ne hne).trans hblock'⟩
  exact hloop t.list t hwf.nodup (SameBlocks.refl t) rfl fun q hq => ⟨hq, rfl⟩

lemma sameBlocks_receive {seg : TcpSegment}
    (h : ∀ p, t.reaches seg = some p → ¬ TcpConn.Destroys (t.blocks p) t.io.now (.segment seg)) :
    SameBlocks t (t.tcpReceive seg).2 := by
  rcases t.tcpReceive_cases seg with ⟨io, new, -, heq, -⟩ | ⟨io, p, -, hfound, heq⟩
  · rw [heq]
    exact ⟨rfl, rfl, rfl⟩
  · rw [heq]
    have hsame : SameBlocks t { t with io := io } := ⟨rfl, rfl, rfl⟩
    exact hsame.call p (.segment seg) (h p hfound)

end Tcp

/-! ## Places of the table -/

/-- Another socket with the same name and the same control block. -/
structure Socket.Same (a b : Socket) : Prop where
  fd : b.fd = a.fd
  inUse : b.inUse = a.inUse
  type : b.type = a.type
  protoData : b.protoData = a.protoData

namespace Socket.Same

variable {a b c : Socket}

lemma refl (a : Socket) : a.Same a := ⟨rfl, rfl, rfl, rfl⟩

lemma trans (h : a.Same b) (h' : b.Same c) : a.Same c :=
  ⟨h'.fd.trans h.fd, h'.inUse.trans h.inUse, h'.type.trans h.type, h'.protoData.trans h.protoData⟩

end Socket.Same

namespace SocketLayer

variable {s s' u : SocketLayer} {i j : Nat} {sockfd : Int}

/-- No place changes its socket. -/
structure SameSlots (s s' : SocketLayer) : Prop where
  slot : ∀ i, (s.table i).Same (s'.table i)
  next : s'.nextSocketFd = s.nextSocketFd

/-- No place changes its socket, and no block comes or goes. -/
structure Quiet (s s' : SocketLayer) : Prop extends SameSlots s s' where
  blocks : s.tcp.SameBlocks s'.tcp

@[simp] lemma modify_self (s : SocketLayer) (i : Nat) (f : Socket → Socket) :
    (s.modify i f).table i = f (s.table i) := Function.update_self _ _ _

lemma modify_of_ne {f : Socket → Socket} (h : j ≠ i) : (s.modify i f).table j = s.table j :=
  Function.update_of_ne h _ _

lemma SameSlots.refl (s : SocketLayer) : SameSlots s s := ⟨fun _ => .refl _, rfl⟩

lemma SameSlots.trans (h : SameSlots s u) (h' : SameSlots u s') : SameSlots s s' :=
  ⟨fun i => (h.slot i).trans (h'.slot i), h'.next.trans h.next⟩

lemma SameSlots.modify (h : SameSlots s u) (i : Nat) {f : Socket → Socket}
    (hf : ∀ sock : Socket, sock.Same (f sock)) : SameSlots s (u.modify i f) := by
  refine ⟨fun j => (h.slot j).trans ?_, h.next⟩
  by_cases hj : j = i
  · subst hj
    rw [modify_self]
    exact hf _
  · rw [modify_of_ne hj]
    exact .refl _

namespace Quiet

lemma refl (s : SocketLayer) : Quiet s s := ⟨.refl s, .refl s.tcp⟩

lemma trans (h : Quiet s u) (h' : Quiet u s') : Quiet s s' :=
  ⟨h.toSameSlots.trans h'.toSameSlots, h.blocks.trans h'.blocks⟩

lemma modify (h : Quiet s u) (i : Nat) {f : Socket → Socket}
    (hf : ∀ sock : Socket, sock.Same (f sock)) : Quiet s (u.modify i f) :=
  ⟨h.toSameSlots.modify i hf, h.blocks⟩

lemma tcp {t : Tcp} (h : Quiet s u) (ht : u.tcp.SameBlocks t) : Quiet s { u with tcp := t } :=
  ⟨⟨h.slot, h.next⟩, h.blocks.trans ht⟩

lemma fail (h : Quiet s u) (errno : SocketErrno) : Quiet s (u.fail errno).2 :=
  ⟨⟨h.slot, h.next⟩, h.blocks⟩

lemma guard {P : Prop} [Decidable P] {r : Int × SocketLayer} {errno : SocketErrno}
    (h : ¬ P → Quiet s r.2) : Quiet s (if P then s.fail errno else r).2 := by
  by_cases hp : P
  · rw [if_pos hp]
    exact (Quiet.refl s).fail errno
  · rw [if_neg hp]
    exact h hp

end Quiet

lemma quiet_kmalloc (s : SocketLayer) : Quiet s s.kmalloc.2 := (Quiet.refl s).tcp ⟨rfl, rfl, rfl⟩

lemma quiet_port (s : SocketLayer) (type : Int) : Quiet s (s.allocateEphemeralPort type).2 :=
  ⟨⟨fun _ => .refl _, rfl⟩, .refl _⟩

lemma quiet_socketBufferInit (s : SocketLayer) : Quiet s s.socketBufferInit.2 := quiet_kmalloc s

lemma quiet_initBuffers (s : SocketLayer) (i : Nat) : Quiet s (s.initBuffers i).2 := by
  unfold initBuffers
  have hfirst := quiet_socketBufferInit s
  generalize s.socketBufferInit = answer at hfirst ⊢
  obtain ⟨sendBuffer, u⟩ := answer
  cases sendBuffer with
  | none => exact hfirst
  | some sendBuffer =>
    dsimp only at hfirst ⊢
    have hstored : Quiet s (u.modify i fun sock => { sock with sendBuffer := sendBuffer }) :=
      hfirst.modify i fun _ => ⟨rfl, rfl, rfl, rfl⟩
    have hsecond := hstored.trans (quiet_socketBufferInit _)
    generalize SocketLayer.socketBufferInit _ = answer at hsecond ⊢
    obtain ⟨recvBuffer, v⟩ := answer
    cases recvBuffer with
    | none => exact hsecond
    | some recvBuffer =>
      dsimp only at hsecond ⊢
      exact hsecond.modify i fun _ => ⟨rfl, rfl, rfl, rfl⟩

lemma quiet_autoBind (s : SocketLayer) (i : Nat) : Quiet s (s.autoBind i).2 := by
  unfold autoBind
  by_cases hbound : (s.table i).bound = true
  · rw [if_pos hbound]
    exact .refl s
  rw [if_neg hbound]
  have hport := quiet_port s (s.table i).type
  generalize s.allocateEphemeralPort (s.table i).type = answer at hport ⊢
  obtain ⟨port, u⟩ := answer
  dsimp only at hport ⊢
  split_ifs
  · exact hport
  · dsimp only
    exact hport.modify i fun _ => ⟨rfl, rfl, rfl, rfl⟩

/-! ## Calls that leave every place as it is -/

lemma quiet_bind (s : SocketLayer) (sockfd : Int) (sin : SockaddrIn) (addrlen : UInt32) :
    Quiet s (s.bind sockfd sin addrlen).2 := by
  unfold bind
  cases s.socketGet sockfd with
  | none => exact (Quiet.refl s).fail _
  | some i =>
    dsimp only
    refine Quiet.guard fun _ => ?_
    refine Quiet.guard fun _ => ?_
    refine Quiet.guard fun _ => ?_
    refine Quiet.guard fun _ => ?_
    obtain ⟨port, u, hchosen, hport⟩ : ∃ port u, (if sin.sinPort = 0 then
        s.allocateEphemeralPort (s.table i).type else (sin.sinPort, s)) = (port, u) ∧ Quiet s u := by
      by_cases hzero : sin.sinPort = 0
      · exact ⟨_, _, if_pos hzero, quiet_port s _⟩
      · exact ⟨_, _, if_neg hzero, .refl s⟩
    rw [hchosen]
    dsimp only
    by_cases hnone : port = 0
    · rw [if_pos hnone]
      exact hport.fail _
    rw [if_neg hnone]
    have hstored : Quiet s (u.modify i fun sock => { sock with
        localAddr := { sin with sinPort := port }, bound := true, state := .bound }) :=
      hport.modify i fun _ => ⟨rfl, rfl, rfl, rfl⟩
    generalize u.modify i _ = v at hstored
    cases (v.table i).protoData with
    | none => exact hstored
    | some p =>
      have htcp := hstored.tcp (v.tcp.sameBlocks_tcpBind p port)
      dsimp only
      split_ifs
      · refine Quiet.fail ?_ _
        exact htcp.modify i fun _ => ⟨rfl, rfl, rfl, rfl⟩
      · exact htcp
      · exact hstored

lemma quiet_listen (s : SocketLayer) (sockfd backlog : Int) : Quiet s (s.listen sockfd backlog).2 := by
  unfold listen
  cases s.socketGet sockfd with
  | none => exact (Quiet.refl s).fail _
  | some i =>
    dsimp only
    generalize (if backlog ≤ 0 then 1 else backlog) = least
    generalize (if socketBacklogMax < least then socketBacklogMax else least) = clamped
    refine Quiet.guard fun _ => ?_
    refine Quiet.guard fun _ => ?_
    have hqueue := quiet_kmalloc s
    generalize s.kmalloc = answer at hqueue ⊢
    obtain ⟨ok, u⟩ := answer
    cases ok with
    | false => exact hqueue.fail _
    | true =>
      dsimp only at hqueue ⊢
      cases (u.table i).protoData with
      | none =>
        dsimp only
        exact hqueue.modify i fun _ => ⟨rfl, rfl, rfl, rfl⟩
      | some p =>
        have htcp := hqueue.tcp ((Tcp.SameBlocks.refl u.tcp).call p (.listen clamped) id)
        dsimp only
        split_ifs
        · exact htcp.fail _
        · dsimp only
          exact htcp.modify i fun _ => ⟨rfl, rfl, rfl, rfl⟩

lemma quiet_connectStream (s : SocketLayer) (i : Nat) (p : TcpRef) (sin : SockaddrIn) :
    Quiet s (s.connectStream i p sin).2 := by
  unfold connectStream
  obtain ⟨u, hbound, hbind⟩ : ∃ u, (if (s.tcp.blocks p).bound = true then s
      else { s with tcp := (s.tcp.tcpBind p (s.table i).localAddr.sinPort).2 }) = u ∧ Quiet s u := by
    refine ⟨_, rfl, ?_⟩
    split_ifs
    · exact .refl s
    · exact (Quiet.refl s).tcp (s.tcp.sameBlocks_tcpBind p _)
  rw [hbound]
  dsimp only
  have hstate : Quiet s (u.modify i fun sock => { sock with state := .connecting }) :=
    hbind.modify i fun _ => ⟨rfl, rfl, rfl, rfl⟩
  generalize u.modify i _ = v at hstate
  have htcp := hstate.tcp (v.tcp.sameBlocks_tcpConnect p sin.sinAddr sin.sinPort)
  by_cases hok : (v.tcp.tcpConnect p sin.sinAddr sin.sinPort).1 ≠ tcpOk
  · rw [if_pos hok]
    refine Quiet.fail ?_ _
    exact htcp.modify i fun _ => ⟨rfl, rfl, rfl, rfl⟩
  · rw [if_neg hok]
    dsimp only
    exact htcp.modify i fun _ => ⟨rfl, rfl, rfl, rfl⟩

lemma quiet_connect (s : SocketLayer) (sockfd : Int) (sin : SockaddrIn) (addrlen : UInt32) :
    Quiet s (s.connect sockfd sin addrlen).2 := by
  unfold connect
  cases s.socketGet sockfd with
  | none => exact (Quiet.refl s).fail _
  | some i =>
    dsimp only
    refine Quiet.guard fun _ => ?_
    refine Quiet.guard fun _ => ?_
    refine Quiet.guard fun _ => ?_
    have hauto := quiet_autoBind s i
    generalize s.autoBind i = answer at hauto ⊢
    obtain ⟨ok, u⟩ := answer
    cases ok with
    | false => exact hauto.fail _
    | true =>
      dsimp only at hauto ⊢
      have hremote : Quiet s (u.modify i fun sock => { sock with remoteAddr := sin }) :=
        hauto.modify i fun _ => ⟨rfl, rfl, rfl, rfl⟩
      generalize u.modify i _ = v at hremote
      by_cases htype : (v.table i).type = sockStream
      · rw [if_pos htype]
        cases (v.table i).protoData with
        | none => exact hremote.fail _
        | some p => exact hremote.trans (quiet_connectStream v i p sin)
      rw [if_neg htype]
      split_ifs
      · dsimp only
        exact hremote.modify i fun _ => ⟨rfl, rfl, rfl, rfl⟩
      · exact hremote

lemma quiet_sendDgram (s : SocketLayer) (i : Nat) (data : List UInt8) : Quiet s (s.sendDgram i data).2 := by
  unfold sendDgram
  dsimp only
  have hauto := quiet_autoBind s i
  generalize s.autoBind i = answer at hauto ⊢
  obtain ⟨ok, u⟩ := answer
  cases ok with
  | false => exact hauto.fail _
  | true =>
    dsimp only at hauto ⊢
    obtain ⟨v, hv, hbound⟩ : ∃ v, (if (s.table i).bound = true then u
        else u.modify i fun sock => { sock with state := .bound }) = v ∧ Quiet s v := by
      refine ⟨_, rfl, ?_⟩
      split_ifs
      · exact hauto
      · exact hauto.modify i fun _ => ⟨rfl, rfl, rfl, rfl⟩
    rw [hv]
    have hpacket := hbound.trans (quiet_kmalloc v)
    generalize v.kmalloc = answer at hpacket ⊢
    obtain ⟨ok, w⟩ := answer
    cases ok with
    | false => exact hpacket.fail _
    | true =>
      dsimp only at hpacket ⊢
      split
      · exact hpacket
      · split_ifs
        · refine Quiet.fail ?_ _
          exact hpacket.tcp ⟨rfl, rfl, rfl⟩
        · exact hpacket.tcp ⟨rfl, rfl, rfl⟩

lemma quiet_send (s : SocketLayer) (sockfd : Int) (data : List UInt8) : Quiet s (s.send sockfd data).2 := by
  unfold send
  cases s.socketGet sockfd with
  | none => exact (Quiet.refl s).fail _
  | some i =>
    dsimp only
    by_cases hempty : data = []
    · rw [if_pos hempty]
      exact .refl s
    rw [if_neg hempty]
    refine Quiet.guard fun _ => ?_
    by_cases htype : (s.table i).type = sockStream
    · rw [if_pos htype]
      cases (s.table i).protoData with
      | none => exact (Quiet.refl s).fail _
      | some p =>
        have htcp := (Quiet.refl s).tcp ((Tcp.SameBlocks.refl s.tcp).call p (.send data) id)
        dsimp only
        by_cases hsent : (s.tcp.callSocket p (·.tcpSend data)).1 < 0
        · rw [if_pos hsent]
          exact htcp.fail _
        · rw [if_neg hsent]
          exact htcp
    rw [if_neg htype]
    split_ifs
    · exact quiet_sendDgram s i data
    · exact .refl s

lemma quiet_countReceived (s : SocketLayer) (i : Nat) (received : Int) : Quiet s (s.countReceived i received) := by
  unfold countReceived
  split_ifs
  · exact (Quiet.refl s).modify i fun _ => ⟨rfl, rfl, rfl, rfl⟩
  · exact .refl s

lemma quiet_recv (s : SocketLayer) (sockfd : Int) (len : Nat) (peek : Bool) :
    Quiet s (s.recv sockfd len peek).2.2 := by
  unfold recv
  cases s.socketGet sockfd with
  | none => exact (Quiet.refl s).fail _
  | some i =>
    dsimp only
    by_cases hempty : len = 0
    · rw [if_pos hempty]
      exact .refl s
    rw [if_neg hempty]
    by_cases hstate : (s.table i).state ≠ .connected ∧ (s.table i).type = sockStream
    · rw [if_pos hstate]
      exact (Quiet.refl s).fail _
    rw [if_neg hstate]
    by_cases htype : (s.table i).type = sockStream
    · rw [if_pos htype]
      cases (s.table i).protoData with
      | none => exact (Quiet.refl s).fail _
      | some p =>
        dsimp only
        rcases (s.table i).recvBuffer.socketBufferRead len peek with ⟨bytes, buf⟩
        dsimp only
        have hread : Quiet s (s.modify i fun sock => { sock with recvBuffer := buf }) :=
          (Quiet.refl s).modify i fun _ => ⟨rfl, rfl, rfl, rfl⟩
        generalize s.modify i _ = v at hread
        by_cases hnone : bytes = []
        · rw [if_pos hnone]
          have htcp := hread.tcp ((Tcp.SameBlocks.refl v.tcp).call p (.recv len) id)
          split_ifs
          · exact htcp.fail _
          · exact htcp
          · exact htcp.fail _
          · exact htcp.trans (quiet_countReceived _ i _)
        · rw [if_neg hnone]
          exact hread.trans (quiet_countReceived v i _)
    rw [if_neg htype]
    by_cases hdgram : (s.table i).type = sockDgram
    · rw [if_pos hdgram]
      unfold recvDgram
      rcases (s.table i).recvBuffer.socketBufferRead len peek with ⟨bytes, buf⟩
      dsimp only
      have hread : Quiet s (s.modify i fun sock => { sock with recvBuffer := buf }) :=
        (Quiet.refl s).modify i fun _ => ⟨rfl, rfl, rfl, rfl⟩
      split_ifs
      · exact hread.fail _
      · exact hread.trans (quiet_countReceived _ i _)
    · rw [if_neg hdgram]
      exact .refl s

lemma quiet_setReuseAddr (s : SocketLayer) (sockfd : Int) (reuseAddr : Bool) :
    Quiet s (s.setReuseAddr sockfd reuseAddr).2 := by
  unfold setReuseAddr
  cases s.socketGet sockfd with
  | none => exact (Quiet.refl s).fail _
  | some i =>
    dsimp only
    exact (Quiet.refl s).modify i fun _ => ⟨rfl, rfl, rfl, rfl⟩

lemma sameSlots_closeStream (s : SocketLayer) (i : Nat) : SameSlots s (s.closeStream i) := by
  unfold closeStream
  split
  · exact ⟨fun _ => .refl _, rfl⟩
  · exact .refl s

/-- `tcp_close`, where it does not destroy the socket. -/
lemma quiet_closeStream (h : ∀ p, (s.table i).protoData = some p →
    ¬ TcpConn.Destroys (s.tcp.blocks p) s.tcp.io.now .close) : Quiet s (s.closeStream i) := by
  refine ⟨sameSlots_closeStream s i, ?_⟩
  unfold closeStream
  split
  · next p hp => exact (Tcp.SameBlocks.refl s.tcp).call p .close (h p hp)
  · exact .refl s.tcp

lemma sameSlots_shutdown (s : SocketLayer) (sockfd how : Int) : SameSlots s (s.shutdown sockfd how).2 := by
  unfold shutdown
  cases s.socketGet sockfd with
  | none => exact ((Quiet.refl s).fail _).toSameSlots
  | some i =>
    have hclose := sameSlots_closeStream s i
    dsimp only
    split_ifs
    · exact ((Quiet.refl s).fail _).toSameSlots
    · exact ((Quiet.refl s).fail _).toSameSlots
    · dsimp only
      exact hclose.modify i fun _ => ⟨rfl, rfl, rfl, rfl⟩
    · dsimp only
      exact (SameSlots.refl s).modify i fun _ => ⟨rfl, rfl, rfl, rfl⟩
    · exact hclose
    · exact .refl s

/-- `shutdown`, where it destroys no socket. -/
lemma quiet_shutdown {how : Int} (h : how = shutWr ∨ how = shutRdwr → ∀ i p,
    s.socketGet sockfd = some i → (s.table i).type = sockStream → (s.table i).protoData = some p →
      ¬ TcpConn.Destroys (s.tcp.blocks p) s.tcp.io.now .close) :
    Quiet s (s.shutdown sockfd how).2 := by
  refine ⟨sameSlots_shutdown s sockfd how, ?_⟩
  unfold shutdown
  cases hget : s.socketGet sockfd with
  | none => exact .refl s.tcp
  | some i =>
    dsimp only
    by_cases hhow : how ≠ shutRd ∧ how ≠ shutWr ∧ how ≠ shutRdwr
    · rw [if_pos hhow]
      exact .refl s.tcp
    rw [if_neg hhow]
    by_cases htype : (s.table i).type ≠ sockStream
    · rw [if_pos htype]
      exact .refl s.tcp
    rw [if_neg htype, apply_ite SocketLayer.tcp]
    obtain ⟨u, hu, hclosed⟩ : ∃ u, (if how = shutWr ∨ how = shutRdwr then s.closeStream i
        else s) = u ∧ s.tcp.SameBlocks u.tcp := by
      refine ⟨_, rfl, ?_⟩
      split_ifs with hwr
      · exact (quiet_closeStream fun p => h hwr i p hget (not_not.mp htype)).blocks
      · exact .refl s.tcp
    rw [hu]
    split_ifs
    · exact hclosed
    · exact hclosed

/-- `shutdown` of the sending side. -/
lemma shutdown_tcp {how : Int} {p : TcpRef} (h : s.socketGet sockfd = some i)
    (htype : (s.table i).type = sockStream) (hp : (s.table i).protoData = some p)
    (hhow : how = shutWr ∨ how = shutRdwr) :
    (s.shutdown sockfd how).2.tcp = s.tcp.onSocket p .tcpClose := by
  have hvalid : ¬ (how ≠ shutRd ∧ how ≠ shutWr ∧ how ≠ shutRdwr) := by
    rintro ⟨-, hwr, hrdwr⟩
    exact hhow.elim hwr hrdwr
  have hclose : (s.closeStream i).tcp = s.tcp.onSocket p .tcpClose := by
    unfold closeStream
    rw [hp]
  unfold shutdown
  rw [h]
  dsimp only
  rw [if_neg hvalid, if_neg (not_not.mpr htype), if_pos hhow]
  dsimp only
  split_ifs
  · exact hclose
  · exact hclose

/-! ## Calls that take a place or give one back -/

/-- Place `i`, free before, was given the next descriptor. -/
structure Touched (s : SocketLayer) (i : Nat) (s' : SocketLayer) : Prop where
  free : s.freeSlot = some i
  next : s'.nextSocketFd = s.nextSocketFd + 1
  others : ∀ j, j ≠ i → (s.table j).Same (s'.table j)

/-- Place `i`, free before, holds the socket with the next descriptor. -/
structure Taken (s : SocketLayer) (i : Nat) (s' : SocketLayer) : Prop extends Touched s i s' where
  inUse : (s'.table i).inUse = true
  fd : (s'.table i).fd = s.nextSocketFd

/-- The socket has a new control block if it is a TCP socket, and otherwise none was made. -/
def Backed (sock : Socket) (t t' : Tcp) : Prop :=
  (sock.type = sockStream ∧ sock.protoData = some t.fresh ∧ t.NewBlock t') ∨
    (sock.type ≠ sockStream ∧ t.SameBlocks t')

/-- What `socket` and `accept` do: nothing to the table, a place taken and given back, or a new
socket. -/
inductive Outcome (s : SocketLayer) (r : Int × SocketLayer) : Prop
  | refused (answer : r.1 = -1) (same : SameSlots s r.2)
      (blocks : s.tcp.SameBlocks r.2.tcp ∨ s.tcp.PassingBlock r.2.tcp)
  | undone {i : Nat} (answer : r.1 = -1) (touched : Touched s i r.2)
      (free : (r.2.table i).inUse = false)
      (blocks : s.tcp.SameBlocks r.2.tcp ∨ s.tcp.PassingBlock r.2.tcp)
  | opened {i : Nat} (answer : r.1 = s.nextSocketFd) (taken : Taken s i r.2)
      (backed : Backed (r.2.table i) s.tcp r.2.tcp)

lemma freeSlot_inUse (h : s.freeSlot = some i) : (s.table i).inUse = false := by
  simpa using List.find?_some h

lemma freeSlot_lt (h : s.freeSlot = some i) : i < socketMaxCount :=
  List.mem_range.mp (List.mem_of_find?_eq_some h)

lemma socketAlloc_cases (s : SocketLayer) :
    s.socketAlloc = (none, s) ∨ ∃ i u, s.socketAlloc = (some i, u) ∧ Taken s i u ∧
      u.tcp = s.tcp ∧ (u.table i).protoData = none := by
  unfold socketAlloc
  cases hfree : s.freeSlot with
  | none => exact .inl rfl
  | some i =>
    refine .inr ⟨i, _, rfl, ⟨⟨hfree, rfl, fun j hj => ?_⟩, ?_, ?_⟩, rfl, ?_⟩
    · dsimp only
      rw [Function.update_of_ne hj]
      exact .refl _
    all_goals
      dsimp only
      rw [Function.update_self]

lemma Taken.same (h : Taken s i u) (h' : SameSlots u s') : Taken s i s' :=
  ⟨⟨h.free, h'.next.trans h.next, fun j hj => (h.others j hj).trans (h'.slot j)⟩,
    (h'.slot i).inUse.trans h.inUse, (h'.slot i).fd.trans h.fd⟩

lemma Taken.modify (h : Taken s i u) {f : Socket → Socket}
    (hf : ∀ sock, (f sock).inUse = sock.inUse ∧ (f sock).fd = sock.fd) :
    Taken s i (u.modify i f) := by
  refine ⟨⟨h.free, h.next, fun j hj => ?_⟩, ?_, ?_⟩
  · rw [modify_of_ne hj]
    exact h.others j hj
  · rw [modify_self]
    exact (hf _).1.trans h.inUse
  · rw [modify_self]
    exact (hf _).2.trans h.fd

/-- What `socket_free` does to the table. -/
lemma socketFree_slots (s : SocketLayer) (i : Nat) :
    ((s.socketFree i).table i).inUse = false ∧ (s.socketFree i).nextSocketFd = s.nextSocketFd ∧
      ∀ j, j ≠ i → (s.socketFree i).table j = s.table j := by
  have hfree : ∀ t, ((modify { s with tcp := t } i fun sock => { sock with
      sendBuffer := {}, recvBuffer := {}, protoData := none, inUse := false, fd := -1 }).table i).inUse
        = false := fun t => by rw [modify_self]
  unfold socketFree
  dsimp only
  split
  · split_ifs
    · exact ⟨hfree _, rfl, fun j hj => modify_of_ne hj⟩
    · exact ⟨hfree s.tcp, rfl, fun j hj => modify_of_ne hj⟩
  · exact ⟨hfree s.tcp, rfl, fun j hj => modify_of_ne hj⟩

lemma socketFree_none (h : (s.table i).protoData = none) : (s.socketFree i).tcp = s.tcp := by
  unfold socketFree
  rw [h]
  rfl

lemma socketFree_dgram (h : (s.table i).type ≠ sockStream) : (s.socketFree i).tcp = s.tcp := by
  unfold socketFree
  dsimp only
  split
  · rw [if_neg h]
    rfl
  · rfl

lemma socketFree_stream {p : TcpRef} (htype : (s.table i).type = sockStream) (hp : (s.table i).protoData = some p) :
    (s.socketFree i).tcp = s.tcp.tcpSocketDestroy p := by
  unfold socketFree
  rw [hp]
  dsimp only
  rw [if_pos htype]
  rfl

lemma Taken.undo (h : Taken s i u) (errno : SocketErrno)
    (hblocks : s.tcp.SameBlocks (u.socketFree i).tcp ∨ s.tcp.PassingBlock (u.socketFree i).tcp) :
    Outcome s ((u.socketFree i).fail errno) := by
  obtain ⟨hfree, hnext, hothers⟩ := socketFree_slots u i
  refine .undone rfl ⟨h.free, hnext.trans h.next, fun j hj => ?_⟩ hfree hblocks
  change (s.table j).Same ((u.socketFree i).table j)
  rw [hothers j hj]
  exact h.others j hj

/-- `socket`, from the socket allocated on. -/
lemma outcome_socketSetup {domain type protocol : Int} (h : Taken s i u) (htcp : u.tcp = s.tcp)
    (hnone : (u.table i).protoData = none) : Outcome s (u.socketSetup i domain type protocol) := by
  unfold socketSetup
  dsimp only
  have hnamed : Taken s i (u.modify i fun sock =>
      { sock with domain := domain, type := type, protocol := protocol }) :=
    h.modify fun _ => ⟨rfl, rfl⟩
  have hslot : ((u.modify i fun sock =>
      { sock with domain := domain, type := type, protocol := protocol }).table i).protoData = none ∧
      ((u.modify i fun sock =>
        { sock with domain := domain, type := type, protocol := protocol }).table i).type = type := by
    rw [modify_self]
    exact ⟨hnone, rfl⟩
  have hblocks : s.tcp.SameBlocks (u.modify i fun sock =>
      { sock with domain := domain, type := type, protocol := protocol }).tcp := htcp ▸ .refl _
  generalize u.modify i _ = v at hnamed hslot hblocks ⊢
  have hbuffers := quiet_initBuffers v i
  generalize v.initBuffers i = answer at hbuffers ⊢
  obtain ⟨ok, w⟩ := answer
  dsimp only at hbuffers
  have hw : Taken s i w := hnamed.same hbuffers.toSameSlots
  have hproto : (w.table i).protoData = none := (hbuffers.slot i).protoData.trans hslot.1
  have htype : (w.table i).type = type := (hbuffers.slot i).type.trans hslot.2
  have hsame : s.tcp.SameBlocks w.tcp := hblocks.trans hbuffers.blocks
  cases ok with
  | false =>
    refine hw.undo .nomem (.inl ?_)
    rw [socketFree_none hproto]
    exact hsame
  | true =>
    dsimp only
    by_cases hstream : type = sockStream
    · rw [if_pos hstream]
      rcases hcreate : w.tcp.tcpSocketCreate with ⟨_ | p, t⟩
      · have hkept : s.tcp.SameBlocks t := hsame.trans (Tcp.sameBlocks_create hcreate)
        have hmid : Taken s i { w with tcp := t } := hw.same ⟨fun _ => .refl _, rfl⟩
        refine hmid.undo .nomem (.inl ?_)
        rw [socketFree_none (by exact hproto)]
        exact hkept
      · obtain ⟨hp, hnew⟩ := Tcp.newBlock_create hcreate
        have hmid : Taken s i { w with tcp := t } := hw.same ⟨fun _ => .refl _, rfl⟩
        have hlast := hmid.modify (f := fun sock => { sock with protoData := some p })
          fun _ => ⟨rfl, rfl⟩
        refine .opened hlast.fd hlast (.inl ⟨?_, ?_, ?_⟩)
        · rw [modify_self]
          exact htype.trans hstream
        · rw [modify_self]
          exact congrArg some (hp.trans hsame.fresh)
        · exact ⟨hnew.list.trans (by rw [hsame.list, hsame.fresh]),
            hnew.fresh.trans (by rw [hsame.fresh]), hnew.destroyed.trans hsame.destroyed⟩
    · rw [if_neg hstream]
      exact .opened hw.fd hw (.inr ⟨htype ▸ hstream, hsame⟩)

/-- **The outcome of `socket`.** -/
theorem outcome_socket (s : SocketLayer) (domain type protocol : Int) :
    Outcome s (s.socket domain type protocol) := by
  unfold socket
  by_cases hargs : socketArgs domain type protocol ≠ .none
  · rw [if_pos hargs]
    exact .refused rfl ((Quiet.refl s).fail _).toSameSlots (.inl (.refl _))
  rw [if_neg hargs]
  rcases s.socketAlloc_cases with heq | ⟨i, u, heq, htaken, htcp, hnone⟩
  · rw [heq]
    exact .refused rfl ((Quiet.refl s).fail _).toSameSlots (.inl (.refl _))
  · rw [heq]
    exact outcome_socketSetup htaken htcp hnone

/-- `accept`, from the socket allocated on.  The control block is the one just made. -/
lemma outcome_acceptSetup {t : Tcp} (hnew : s.tcp.NewBlock t) (h : Taken { s with tcp := t } i u)
    (htcp : u.tcp = t) : Outcome s (u.acceptSetup i s.tcp.fresh) := by
  unfold acceptSetup
  dsimp only
  obtain ⟨v, hv, hnamed, hproto, htype, hblocks⟩ : ∃ v, (u.modify i fun sock =>
      { sock with
        domain := afInet
        type := sockStream
        protocol := ipprotoTcp
        state := .connected
        bound := true
        protoData := some s.tcp.fresh
        localAddr := ⟨afInet, (u.tcp.blocks s.tcp.fresh).localPort, (u.tcp.blocks s.tcp.fresh).localIp⟩
        remoteAddr := ⟨afInet, (u.tcp.blocks s.tcp.fresh).remotePort,
          (u.tcp.blocks s.tcp.fresh).remoteIp⟩ }) = v ∧ Taken { s with tcp := t } i v ∧
      (v.table i).protoData = some s.tcp.fresh ∧ (v.table i).type = sockStream ∧ v.tcp = t := by
    refine ⟨_, rfl, h.modify fun _ => ⟨rfl, rfl⟩, ?_, ?_, htcp⟩
    · rw [modify_self]
    · rw [modify_self]
  rw [hv]
  have hbuffers := quiet_initBuffers v i
  generalize v.initBuffers i = answer at hbuffers ⊢
  obtain ⟨ok, w⟩ := answer
  dsimp only at hbuffers
  have hw : Taken s i w := by
    have hsame := hnamed.same hbuffers.toSameSlots
    exact ⟨⟨hsame.free, hsame.next, hsame.others⟩, hsame.inUse, hsame.fd⟩
  have hproto' : (w.table i).protoData = some s.tcp.fresh :=
    (hbuffers.slot i).protoData.trans hproto
  have htype' : (w.table i).type = sockStream := (hbuffers.slot i).type.trans htype
  have hmade : s.tcp.NewBlock w.tcp := hnew.same (hblocks ▸ hbuffers.blocks)
  cases ok with
  | false =>
    refine hw.undo .nomem (.inr ?_)
    rw [socketFree_stream htype' hproto']
    refine hmade.destroyed_fresh (Tcp.destroysBlock_destroy ?_)
    rw [hmade.list]
    exact List.mem_cons_self
  | true => exact .opened hw.fd hw (.inl ⟨htype', hproto', hmade⟩)

/-- What `accept` takes from the TCP layer: nothing, or a new block. -/
lemma takeConnection_cases (s : SocketLayer) (i : Nat) :
    ((s.takeConnection i).1 = none ∧ Quiet s (s.takeConnection i).2) ∨
      ∃ t, s.takeConnection i = (some s.tcp.fresh, { s with tcp := t }) ∧ s.tcp.NewBlock t := by
  unfold takeConnection
  cases (s.table i).protoData with
  | none => exact .inl ⟨rfl, .refl s⟩
  | some p =>
    rcases s.tcp.tcpAccept_blocks p with ⟨hnone, hsame⟩ | ⟨hsome, hnew⟩
    · exact .inl ⟨hnone, (Quiet.refl s).tcp hsame⟩
    · exact .inr ⟨_, Prod.ext hsome rfl, hnew⟩

/-- **The outcome of `accept`.** -/
theorem outcome_accept (s : SocketLayer) (sockfd : Int) : Outcome s (s.accept sockfd) := by
  unfold accept
  cases s.socketGet sockfd with
  | none => exact .refused rfl ((Quiet.refl s).fail _).toSameSlots (.inl (.refl _))
  | some i =>
    dsimp only
    by_cases hstate : (s.table i).state ≠ .listening
    · rw [if_pos hstate]
      exact .refused rfl ((Quiet.refl s).fail _).toSameSlots (.inl (.refl _))
    rw [if_neg hstate]
    rcases s.takeConnection_cases i with ⟨hnone, hquiet⟩ | ⟨t, heq, hnew⟩
    · generalize s.takeConnection i = answer at hnone hquiet ⊢
      obtain ⟨q, u⟩ := answer
      obtain rfl : q = none := hnone
      exact .refused rfl (hquiet.fail _).toSameSlots (.inl (hquiet.fail _).blocks)
    · rw [heq]
      dsimp only
      rcases socketAlloc_cases { s with tcp := t } with halloc | ⟨j, u, halloc, htaken, htcp, -⟩
      · rw [halloc]
        refine .refused rfl ⟨fun _ => .refl _, rfl⟩ (.inr ?_)
        refine hnew.destroyed_fresh (Tcp.destroysBlock_destroy ?_)
        rw [hnew.list]
        exact List.mem_cons_self
      · rw [halloc]
        exact outcome_acceptSetup hnew htaken htcp

/-- Place `i` has become free. -/
structure Released (s : SocketLayer) (i : Nat) (s' : SocketLayer) : Prop where
  free : (s'.table i).inUse = false
  next : s'.nextSocketFd = s.nextSocketFd
  others : ∀ j, j ≠ i → (s.table j).Same (s'.table j)

/-- The socket as `socket_close` passes it to `socket_free`. -/
def closing (s : SocketLayer) (i : Nat) : SocketLayer :=
  (if (s.table i).type = sockStream then s.closeStream i else s).modify i fun sock =>
    { sock with state := .closed }

lemma socketClose_eq (h : s.socketGet sockfd = some i) : s.socketClose sockfd = (0, (s.closing i).socketFree i) := by
  unfold socketClose
  rw [h]
  rfl

lemma socketClose_badf (h : s.socketGet sockfd = none) : s.socketClose sockfd = s.fail .badf := by
  unfold socketClose
  rw [h]

lemma sameSlots_closing (s : SocketLayer) (i : Nat) : SameSlots s (s.closing i) := by
  unfold closing
  refine SameSlots.modify ?_ i fun _ => ⟨rfl, rfl, rfl, rfl⟩
  split_ifs
  · exact sameSlots_closeStream s i
  · exact .refl s

/-- **The outcome of `socket_close`.** -/
theorem outcome_socketClose (h : s.socketGet sockfd = some i) :
    (s.socketClose sockfd).1 = 0 ∧ Released s i (s.socketClose sockfd).2 := by
  rw [socketClose_eq h]
  obtain ⟨hfree, hnext, hothers⟩ := socketFree_slots (s.closing i) i
  have hsame := sameSlots_closing s i
  refine ⟨rfl, hfree, hnext.trans hsame.next, fun j hj => ?_⟩
  dsimp only
  rw [hothers j hj]
  exact hsame.slot j

lemma socketClose_dgram (h : s.socketGet sockfd = some i) (htype : (s.table i).type ≠ sockStream) :
    (s.socketClose sockfd).2.tcp = s.tcp := by
  rw [socketClose_eq h]
  have hsame : ((s.closing i).table i).type ≠ sockStream := by
    rw [((sameSlots_closing s i).slot i).type]
    exact htype
  dsimp only
  rw [socketFree_dgram hsame]
  unfold closing
  rw [if_neg htype]
  rfl

lemma socketClose_stream {p : TcpRef} (h : s.socketGet sockfd = some i)
    (htype : (s.table i).type = sockStream) (hp : (s.table i).protoData = some p) :
    (s.socketClose sockfd).2.tcp = (s.tcp.onSocket p .tcpClose).tcpSocketDestroy p := by
  rw [socketClose_eq h]
  have hsame := (sameSlots_closing s i).slot i
  dsimp only
  rw [socketFree_stream (hsame.type.trans htype) (hsame.protoData.trans hp)]
  unfold closing closeStream
  rw [if_pos htype, hp]
  rfl

end SocketLayer

end AAAos
