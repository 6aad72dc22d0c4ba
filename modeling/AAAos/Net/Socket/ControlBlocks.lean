import Mathlib.Data.List.Nodup
import AAAos.Net.Socket.Outcomes

/-!
# Who destroys a control block

The TCP socket of a descriptor is destroyed by `socket_free`.  It is also destroyed by `tcp_close`
before there is a connection, by a segment that ends one, and by the timer.

**What goes wrong.**  `socket_close` calls `tcp_close` and then `socket_free`: without a connection the
block is destroyed twice (`closed_twice`), and with one it is destroyed while the FIN exchange has just
begun.  `shutdown`, the segment that acknowledges the FIN in LAST_ACK and the timer destroy blocks that
descriptors still have.

**What is proved.**  In runs without these cases every TCP socket has its block, no block is destroyed
twice, and no block is left over (`owned_of_steps`); and a step that is one of these cases breaks what
is claimed (`owned_iff`).
-/

namespace AAAos

/-! ## Blocks made and destroyed -/

namespace Tcp

variable {t t' : Tcp} {p : TcpRef}

/-- No block was destroyed twice, and the list holds only blocks that were not destroyed. -/
structure Ledger (t : Tcp) : Prop where
  wf : t.Wf
  once : t.destroyed.Nodup
  gone : ∀ p ∈ t.destroyed, p < t.fresh ∧ p ∉ t.list

lemma Ledger.not_mem_fresh (h : t.Ledger) : t.fresh ∉ t.list := fun hmem =>
  absurd (h.wf.lt _ hmem) (lt_irrefl _)

lemma Ledger.not_destroyed_fresh (h : t.Ledger) : t.fresh ∉ t.destroyed := fun hmem =>
  absurd (h.gone _ hmem).1 (lt_irrefl _)

lemma Ledger.same (h : t.Ledger) (hsame : t.SameBlocks t') : t'.Ledger := by
  obtain ⟨hlist, hfresh, hdestroyed⟩ := hsame
  refine ⟨⟨hlist ▸ h.wf.nodup, ?_⟩, hdestroyed ▸ h.once, ?_⟩
  · rw [hlist, hfresh]
    exact h.wf.lt
  · rw [hlist, hfresh, hdestroyed]
    exact h.gone

lemma Ledger.new (h : t.Ledger) (hnew : t.NewBlock t') : t'.Ledger := by
  obtain ⟨hlist, hfresh, hdestroyed⟩ := hnew
  refine ⟨⟨?_, fun p hp => ?_⟩, hdestroyed ▸ h.once, fun p hp => ?_⟩
  · rw [hlist]
    exact List.nodup_cons.mpr ⟨h.not_mem_fresh, h.wf.nodup⟩
  · rw [hlist] at hp
    rw [hfresh]
    rcases List.mem_cons.mp hp with rfl | hold
    · exact Nat.lt_succ_self _
    · exact Nat.lt_succ_of_lt (h.wf.lt p hold)
  · rw [hdestroyed] at hp
    obtain ⟨hlt, hnot⟩ := h.gone p hp
    rw [hlist, hfresh]
    exact ⟨Nat.lt_succ_of_lt hlt, List.not_mem_cons_of_ne_of_not_mem hlt.ne hnot⟩

lemma Ledger.destroys (h : t.Ledger) (hp : p ∈ t.list) (hdestroys : DestroysBlock p t t') : t'.Ledger := by
  obtain ⟨hlist, hfresh, hdestroyed⟩ := hdestroys
  refine ⟨⟨?_, fun q hq => ?_⟩, ?_, fun q hq => ?_⟩
  · rw [hlist]
    exact h.wf.nodup.erase p
  · rw [hlist] at hq
    rw [hfresh]
    exact h.wf.lt q (List.mem_of_mem_erase hq)
  · rw [hdestroyed]
    have hnot : p ∉ t.destroyed := fun hmem => (h.gone p hmem).2 hp
    exact List.Nodup.append h.once (List.nodup_singleton p) (List.disjoint_singleton.mpr hnot)
  · rw [hdestroyed] at hq
    rw [hlist, hfresh]
    rcases List.mem_append.mp hq with hold | hself
    · exact ⟨(h.gone q hold).1, fun hmem => (h.gone q hold).2 (List.mem_of_mem_erase hmem)⟩
    · obtain rfl := List.mem_singleton.mp hself
      exact ⟨h.wf.lt q hp, h.wf.nodup.not_mem_erase⟩

lemma Ledger.passing (h : t.Ledger) (hpass : t.PassingBlock t') : t'.Ledger := by
  obtain ⟨hlist, hfresh, hdestroyed⟩ := hpass
  refine ⟨⟨hlist ▸ h.wf.nodup, fun p hp => ?_⟩, ?_, fun p hp => ?_⟩
  · rw [hlist] at hp
    rw [hfresh]
    exact Nat.lt_succ_of_lt (h.wf.lt p hp)
  · rw [hdestroyed]
    exact List.Nodup.append h.once (List.nodup_singleton _)
      (List.disjoint_singleton.mpr h.not_destroyed_fresh)
  · rw [hdestroyed] at hp
    rw [hlist, hfresh]
    rcases List.mem_append.mp hp with hold | hself
    · exact ⟨Nat.lt_succ_of_lt (h.gone p hold).1, (h.gone p hold).2⟩
    · obtain rfl := List.mem_singleton.mp hself
      exact ⟨Nat.lt_succ_self _, h.not_mem_fresh⟩

/-! ### Blocks that a call destroys -/

lemma call_frees (call : SockCall) (h : TcpConn.Destroys (t.blocks p) t.io.now call) :
    (TcpConn.call { sock := t.blocks p, io := t.io } call).freed = true := by
  obtain ⟨c, -, heq⟩ := (TcpConn.ends_call { sock := t.blocks p, io := t.io } call).destroyed h
  rw [heq]
  rfl

lemma not_mem_destroyed (hnodup : t.list.Nodup) {f : TcpConn → TcpConn}
    (h : (f { sock := t.blocks p, io := t.io }).freed = true) : p ∉ (t.onSocket p f).list := by
  unfold onSocket tcpSocketListRemove
  dsimp only
  rw [if_pos h]
  dsimp only
  split_ifs
  · exact hnodup.not_mem_erase
  · exact List.not_mem_nil

lemma destroyed_eq {f : TcpConn → TcpConn} (h : (f { sock := t.blocks p, io := t.io }).freed = true) :
    (t.onSocket p f).destroyed = t.destroyed ++ [p] := by
  unfold onSocket
  dsimp only
  rw [if_pos h]

lemma tickLoop_sublist (t : Tcp) (l : List TcpRef) : (t.tickLoop l).list.Sublist t.list := by
  induction l generalizing t with
  | nil => exact List.Sublist.refl _
  | cons q l ih => exact (ih _).trans (onSocket_sublist t q .tickSocket)

lemma not_mem_tick (hwf : t.Wf) (hp : p ∈ t.list)
    (h : TcpConn.Destroys (t.blocks p) t.io.now .tick) : p ∉ t.tcpTimerTick.list := by
  have hloop : ∀ (l : List TcpRef) (u : Tcp), l.Nodup → p ∈ l → u.list.Nodup →
      u.io.now = t.io.now → (∀ q ∈ l, u.blocks q = t.blocks q) → p ∉ (u.tickLoop l).list := by
    intro l
    induction l with
    | nil => exact fun _ _ hmem => absurd hmem List.not_mem_nil
    | cons q l ih =>
      intro u hl hmem hu hnow hall
      obtain ⟨hq, hl⟩ := List.nodup_cons.mp hl
      rcases List.mem_cons.mp hmem with rfl | hrest
      · refine fun hthere => ?_
        have hdestroys : TcpConn.Destroys (u.blocks p) u.io.now .tick := by
          rw [hall p List.mem_cons_self, hnow]
          exact h
        exact not_mem_destroyed hu (call_frees .tick hdestroys)
          ((tickLoop_sublist (u.onSocket p .tickSocket) l).subset hthere)
      · refine ih _ hl hrest (hu.sublist (onSocket_sublist u q .tickSocket)) ?_ fun r hr => ?_
        · rw [onSocket_io]
          exact (TcpConn.call_now { sock := u.blocks q, io := u.io } .tick).trans hnow
        · have hne : r ≠ q := fun he => hq (he ▸ hr)
          exact (onSocket_of_ne hne).trans (hall r (List.mem_cons_of_mem q hr))
  exact hloop t.list t hwf.nodup hp hwf.nodup rfl fun _ _ => rfl

lemma tcpReceive_of_reaches {seg : TcpSegment} (h : t.reaches seg = some p) :
    ∃ io, (t.tcpReceive seg).2 = { t with io := io }.onSocket p (·.tcpReceive seg) := by
  unfold reaches at h
  unfold tcpReceive
  split_ifs at h with hmalloc
  rcases hio : t.io.kmalloc with ⟨ok, io⟩
  obtain rfl : ok = true := by
    rw [hio] at hmalloc
    exact hmalloc
  have hfound : ({ t with io := io } : Tcp).findFor seg = some p := h
  dsimp only
  rw [if_pos rfl, hfound]
  exact ⟨io, rfl⟩

end Tcp

/-! ## Sockets and their blocks -/

namespace SocketLayer

variable {s s' : SocketLayer} {e : SocketEvent} {i j : Nat} {p : TcpRef}

/-- The TCP socket at place `i`, in use, has block `p`. -/
structure Holds (s : SocketLayer) (i : Nat) (p : TcpRef) : Prop where
  inUse : (s.table i).inUse = true
  stream : (s.table i).type = sockStream
  block : (s.table i).protoData = some p

/-- The event destroys no block that a socket has, and closes no established connection. -/
def Preserves (s : SocketLayer) : SocketEvent → Prop
  | .close sockfd => ∀ i p, s.socketGet sockfd = some i → s.Holds i p →
      (s.tcp.blocks p).state ≠ .established ∧ ¬ TcpConn.Destroys (s.tcp.blocks p) s.tcp.io.now .close
  | .shutdown sockfd how => how = shutWr ∨ how = shutRdwr → ∀ i p, s.socketGet sockfd = some i →
      s.Holds i p → ¬ TcpConn.Destroys (s.tcp.blocks p) s.tcp.io.now .close
  | .receive seg => ∀ p, s.tcp.reaches seg = some p →
      ¬ TcpConn.Destroys (s.tcp.blocks p) s.tcp.io.now (.segment seg)
  | .tick => ∀ p ∈ s.tcp.list, ¬ TcpConn.Destroys (s.tcp.blocks p) s.tcp.io.now .tick
  | _ => True

lemma socketGet_inUse {sockfd : Int} (h : s.socketGet sockfd = some i) : (s.table i).inUse = true := by
  unfold socketGet at h
  dsimp only at h
  split_ifs at h with _ huse
  obtain rfl := Option.some.inj h
  exact huse

lemma holds_iff (h : (s.table i).Same (s'.table i)) : s'.Holds i p ↔ s.Holds i p := by
  obtain ⟨-, huse, htype, hblock⟩ := h
  constructor
  · rintro ⟨hi, ht, hp⟩
    exact ⟨huse ▸ hi, htype ▸ ht, hblock ▸ hp⟩
  · rintro ⟨hi, ht, hp⟩
    exact ⟨huse.trans hi, htype.trans ht, hblock.trans hp⟩

lemma not_holds_free (hfree : (s.table i).inUse = false) : ¬ s.Holds i p := fun h =>
  absurd h.inUse (by rw [hfree]; decide)

/-- **Every TCP socket in use has a block of its own, and no block is left over.** -/
structure Owning (s : SocketLayer) : Prop where
  ledger : s.tcp.Ledger
  backed : ∀ i, (s.table i).inUse = true → (s.table i).type = sockStream → ∃ p, s.Holds i p
  apart : ∀ i j p, s.Holds i p → s.Holds j p → i = j
  listed : ∀ p, p ∈ s.tcp.list ↔ ∃ i, s.Holds i p

namespace Owning

/-- The TCP sockets after the step were TCP sockets before, and the list has their blocks. -/
lemma restrict (h : s.Owning) (hledger : s'.tcp.Ledger)
    (hsame : ∀ j, (s'.table j).inUse = true → (s'.table j).type = sockStream → (s.table j).Same (s'.table j))
    (hlisted : ∀ p, p ∈ s'.tcp.list ↔ ∃ j, s'.Holds j p) : s'.Owning := by
  have hholds : ∀ j p, s'.Holds j p → s.Holds j p := fun j p hj =>
    (holds_iff (hsame j hj.inUse hj.stream)).mp hj
  refine ⟨hledger, fun j hj ht => ?_, fun i j p hi hj => ?_, hlisted⟩
  · have hslot := hsame j hj ht
    obtain ⟨p, hp⟩ := h.backed j (hslot.inUse ▸ hj) (hslot.type ▸ ht)
    exact ⟨p, (holds_iff hslot).mpr hp⟩
  · exact h.apart i j p (hholds i p hi) (hholds j p hj)

lemma keep (h : s.Owning) (hledger : s'.tcp.Ledger) (hlist : s'.tcp.list = s.tcp.list)
    (hsame : ∀ j, (s'.table j).inUse = true → (s'.table j).type = sockStream → (s.table j).Same (s'.table j))
    (hstay : ∀ j p, s.Holds j p → (s.table j).Same (s'.table j)) : s'.Owning := by
  refine h.restrict hledger hsame fun p => ?_
  rw [hlist, h.listed]
  constructor
  · rintro ⟨j, hj⟩
    exact ⟨j, (holds_iff (hstay j p hj)).mpr hj⟩
  · rintro ⟨j, hj⟩
    exact ⟨j, (holds_iff (hsame j hj.inUse hj.stream)).mp hj⟩

lemma quiet (h : s.Owning) (hquiet : Quiet s s') : s'.Owning :=
  h.keep (h.ledger.same hquiet.blocks) hquiet.blocks.list (fun j _ _ => hquiet.slot j)
    fun j _ _ => hquiet.slot j

lemma balanced (h : s.Owning) {t : Tcp} (hblocks : s.tcp.SameBlocks t ∨ s.tcp.PassingBlock t) :
    t.Ledger ∧ t.list = s.tcp.list := by
  rcases hblocks with hsame | hpass
  · exact ⟨h.ledger.same hsame, hsame.list⟩
  · exact ⟨h.ledger.passing hpass, hpass.list⟩

lemma grant (h : s.Owning) (htaken : Taken s i s') (htype : (s'.table i).type = sockStream)
    (hblock : (s'.table i).protoData = some s.tcp.fresh) (hnew : s.tcp.NewBlock s'.tcp) :
    s'.Owning := by
  have hself : s'.Holds i s.tcp.fresh := ⟨htaken.inUse, htype, hblock⟩
  have hbefore : (s.table i).inUse = false := freeSlot_inUse htaken.free
  have hold : ∀ j q, s'.Holds j q → (j = i ∧ q = s.tcp.fresh) ∨ (s.Holds j q ∧ q ∈ s.tcp.list) := by
    intro j q hj
    by_cases hji : j = i
    · subst hji
      exact .inl ⟨rfl, Option.some.inj (hj.block.symm.trans hblock)⟩
    · have hj' := (holds_iff (htaken.others j hji)).mp hj
      exact .inr ⟨hj', (h.listed q).mpr ⟨j, hj'⟩⟩
  refine ⟨h.ledger.new hnew, fun j hj ht => ?_, fun j k q hj hk => ?_, fun q => ?_⟩
  · by_cases hji : j = i
    · exact hji ▸ ⟨_, hself⟩
    · have hslot := htaken.others j hji
      obtain ⟨q, hq⟩ := h.backed j (hslot.inUse ▸ hj) (hslot.type ▸ ht)
      exact ⟨q, (holds_iff hslot).mpr hq⟩
  · rcases hold j q hj with ⟨rfl, rfl⟩ | ⟨hj', hq⟩
    · rcases hold k _ hk with ⟨rfl, -⟩ | ⟨-, hmem⟩
      · rfl
      · exact absurd hmem h.ledger.not_mem_fresh
    · rcases hold k q hk with ⟨-, rfl⟩ | ⟨hk', -⟩
      · exact absurd hq h.ledger.not_mem_fresh
      · exact h.apart j k q hj' hk'
  · rw [hnew.list, List.mem_cons, h.listed]
    constructor
    · rintro (rfl | ⟨j, hj⟩)
      · exact ⟨i, hself⟩
      · have hji : j ≠ i := by
          rintro rfl
          exact not_holds_free hbefore hj
        exact ⟨j, (holds_iff (htaken.others j hji)).mpr hj⟩
    · rintro ⟨j, hj⟩
      rcases hold j q hj with ⟨-, rfl⟩ | ⟨hj', -⟩
      · exact .inl rfl
      · exact .inr ⟨j, hj'⟩

/-- `socket` and `accept`. -/
lemma opening (h : s.Owning) {r : Int × SocketLayer} (hout : Outcome s r) : r.2.Owning := by
  -- the place was free before
  have hne : ∀ {i j : Nat} {p : TcpRef}, s.freeSlot = some i → s.Holds j p → j ≠ i := by
    rintro i j p hfree hj rfl
    exact not_holds_free (freeSlot_inUse hfree) hj
  cases hout with
  | refused hanswer hslots hblocks =>
    obtain ⟨hledger, hlist⟩ := h.balanced hblocks
    exact h.keep hledger hlist (fun j _ _ => hslots.slot j) fun j _ _ => hslots.slot j
  | undone hanswer htouched hfree hblocks =>
    obtain ⟨hledger, hlist⟩ := h.balanced hblocks
    refine h.keep hledger hlist (fun j hj _ => htouched.others j ?_) fun j p hj =>
      htouched.others j (hne htouched.free hj)
    rintro rfl
    exact absurd hj (by rw [hfree]; decide)
  | opened hanswer htaken hbacked =>
    rcases hbacked with ⟨htype, hblock, hnew⟩ | ⟨htype, hsame⟩
    · exact h.grant htaken htype hblock hnew
    · refine h.keep (h.ledger.same hsame) hsame.list (fun j _ ht => htaken.others j ?_)
        fun j p hj => htaken.others j (hne htaken.free hj)
      rintro rfl
      exact htype ht

lemma released (h : s.Owning) (hreleased : Released s i s') (huse : (s.table i).inUse = true)
    (hdgram : (s.table i).type ≠ sockStream → s'.tcp = s.tcp)
    (hstream : ∀ p, s.Holds i p → s.tcp.DestroysBlock p s'.tcp) : s'.Owning := by
  have hsame : ∀ j, (s'.table j).inUse = true → (s'.table j).type = sockStream → (s.table j).Same (s'.table j) := by
    intro j hj _
    refine hreleased.others j ?_
    rintro rfl
    exact absurd hj (by rw [hreleased.free]; decide)
  by_cases htype : (s.table i).type = sockStream
  · obtain ⟨p, hp⟩ := h.backed i huse htype
    have hmem : p ∈ s.tcp.list := (h.listed p).mpr ⟨i, hp⟩
    have hdestroys := hstream p hp
    refine h.restrict (h.ledger.destroys hmem hdestroys) hsame fun q => ?_
    rw [hdestroys.list, h.ledger.wf.nodup.mem_erase_iff, h.listed]
    constructor
    · rintro ⟨hq, j, hj⟩
      have hji : j ≠ i := by
        rintro rfl
        exact hq (Option.some.inj (hj.block.symm.trans hp.block))
      exact ⟨j, (holds_iff (hreleased.others j hji)).mpr hj⟩
    · rintro ⟨j, hj⟩
      have hj' := (holds_iff (hsame j hj.inUse hj.stream)).mp hj
      refine ⟨?_, j, hj'⟩
      rintro rfl
      obtain rfl := h.apart j i q hj' hp
      exact not_holds_free hreleased.free hj
  · have htcp := hdgram htype
    refine h.keep (htcp ▸ h.ledger) (by rw [htcp]) hsame fun j p hj => hreleased.others j ?_
    rintro rfl
    exact htype hj.stream

/-- **One step of the layer.** -/
theorem step (h : s.Owning) (hpreserves : s.Preserves e) : (s.call e).2.Owning := by
  cases e with
  | socket domain type protocol => exact h.opening (outcome_socket s domain type protocol)
  | accept sockfd => exact h.opening (outcome_accept s sockfd)
  | close sockfd =>
    change (s.socketClose sockfd).2.Owning
    cases hget : s.socketGet sockfd with
    | none =>
      rw [socketClose_badf hget]
      exact h.quiet ((Quiet.refl s).fail _)
    | some i =>
      refine h.released (outcome_socketClose hget).2 (socketGet_inUse hget)
        (socketClose_dgram hget) fun p hp => ?_
      have hclose : s.tcp.SameBlocks (s.tcp.onSocket p .tcpClose) :=
        (Tcp.SameBlocks.refl s.tcp).call p .close (hpreserves i p hget hp).2
      rw [socketClose_stream hget hp.stream hp.block]
      refine hclose.destroys (Tcp.destroysBlock_destroy ?_)
      rw [hclose.list]
      exact (h.listed p).mpr ⟨i, hp⟩
  | shutdown sockfd how =>
    refine h.quiet (quiet_shutdown fun hhow i p hget htype hp => ?_)
    exact hpreserves hhow i p hget ⟨socketGet_inUse hget, htype, hp⟩
  | bind sockfd sin addrlen => exact h.quiet (quiet_bind s sockfd sin addrlen)
  | listen sockfd backlog => exact h.quiet (quiet_listen s sockfd backlog)
  | connect sockfd sin addrlen => exact h.quiet (quiet_connect s sockfd sin addrlen)
  | send sockfd data => exact h.quiet (quiet_send s sockfd data)
  | recv sockfd len peek => exact h.quiet (quiet_recv s sockfd len peek)
  | setReuseAddr sockfd reuseAddr => exact h.quiet (quiet_setReuseAddr s sockfd reuseAddr)
  | receive seg => exact h.quiet ((Quiet.refl s).tcp (Tcp.sameBlocks_receive hpreserves))
  | tick => exact h.quiet ((Quiet.refl s).tcp (Tcp.sameBlocks_tick h.ledger.wf hpreserves))
  | outside now ownIp allocs sends => exact h.quiet ((Quiet.refl s).tcp ⟨rfl, rfl, rfl⟩)

end Owning

/-- The block of the established connection whose descriptor the event closes. -/
def closesOpen (s : SocketLayer) : SocketEvent → Option TcpRef
  | .close sockfd => (s.socketGet sockfd).bind fun i => (s.table i).protoData.filter fun p =>
    (s.table i).type = sockStream ∧ (s.tcp.blocks p).state = .established
  | _ => none

lemma closesOpen_eq_some {sockfd : Int} : s.closesOpen (.close sockfd) = some p ↔
    ∃ i, s.socketGet sockfd = some i ∧ s.Holds i p ∧ (s.tcp.blocks p).state = .established := by
  unfold closesOpen
  rw [Option.bind_eq_some_iff]
  refine exists_congr fun i => and_congr_right fun hget => ?_
  rw [Option.filter_eq_some_iff, decide_eq_true_eq]
  constructor
  · rintro ⟨hblock, htype, hstate⟩
    exact ⟨⟨socketGet_inUse hget, htype, hblock⟩, hstate⟩
  · rintro ⟨⟨-, htype, hblock⟩, hstate⟩
    exact ⟨hblock, htype, hstate⟩

end SocketLayer

/-! ## Runs -/

/-- The layer, with the control blocks whose descriptors were closed while ESTABLISHED, and those of
them whose FIN exchange has completed. -/
structure BlockUsers where
  layer : SocketLayer
  lingering : List TcpRef := []
  completed : List TcpRef := []

namespace BlockUsers

open SocketLayer

variable {m m' : BlockUsers} {e : SocketEvent} {p : TcpRef}

/-- A connection closed while ESTABLISHED has completed its FIN exchange when it is in TIME_WAIT. -/
def apply (m : BlockUsers) (e : SocketEvent) : BlockUsers :=
  let s := (m.layer.call e).2
  let lingering := (m.layer.closesOpen e).toList ++ m.lingering
  { layer := s
    lingering := lingering
    completed := m.completed ++ lingering.filter fun p => (s.tcp.blocks p).state = .timeWait }

def Step (m : BlockUsers) (e : SocketEvent) (m' : BlockUsers) : Prop := m' = m.apply e

def PreservingStep (m : BlockUsers) (e : SocketEvent) (m' : BlockUsers) : Prop :=
  m.Step e m' ∧ m.layer.Preserves e

/-- **Control blocks are destroyed once and not used afterwards.** -/
structure Owned (m : BlockUsers) : Prop where
  backed : ∀ i, (m.layer.table i).inUse = true → (m.layer.table i).type = sockStream →
    ∃ p, (m.layer.table i).protoData = some p ∧ p ∈ m.layer.tcp.list
  once : m.layer.tcp.destroyed.Nodup
  lingers : ∀ p ∈ m.lingering, p ∉ m.completed → p ∈ m.layer.tcp.list

structure Sound (m : BlockUsers) : Prop where
  owning : m.layer.Owning
  none : m.lingering = []
  never : m.completed = []

lemma Sound.owned (h : m.Sound) : m.Owned := by
  refine ⟨fun i hi ht => ?_, h.owning.ledger.once, fun p hp => ?_⟩
  · obtain ⟨p, hp⟩ := h.owning.backed i hi ht
    exact ⟨p, hp.block, (h.owning.listed p).mpr ⟨i, hp⟩⟩
  · rw [h.none] at hp
    exact absurd hp List.not_mem_nil

lemma closesOpen_none {s : SocketLayer} (h : s.Preserves e) : s.closesOpen e = none := by
  cases e with
  | close sockfd =>
    rw [Option.eq_none_iff_forall_ne_some]
    intro p hp
    obtain ⟨i, hget, hholds, hstate⟩ := closesOpen_eq_some.mp hp
    exact (h i p hget hholds).1 hstate
  | _ => rfl

/-- **One step.** -/
lemma sound_step (h : m.Sound) (hstep : PreservingStep m e m') : m'.Sound := by
  obtain ⟨rfl, hpreserves⟩ := hstep
  have hnone := closesOpen_none hpreserves
  have hlingering : (m.apply e).lingering = [] := by
    change (m.layer.closesOpen e).toList ++ m.lingering = []
    rw [hnone, h.none]
    rfl
  refine ⟨h.owning.step hpreserves, hlingering, ?_⟩
  change m.completed ++ (m.apply e).lingering.filter _ = []
  rw [h.never, hlingering]
  rfl

lemma sound_boot (io : TcpIo) : Sound { layer := boot io } := by
  have hfree : ∀ i, ((boot io).table i).inUse = false := fun _ => rfl
  refine ⟨⟨⟨⟨List.nodup_nil, fun p hp => absurd hp List.not_mem_nil⟩, List.nodup_nil,
    fun p hp => absurd hp List.not_mem_nil⟩, fun i hi => absurd hi (by rw [hfree]; decide),
    fun i j p hi => absurd hi (not_holds_free (hfree i)), fun p => ?_⟩, rfl, rfl⟩
  refine ⟨fun hp => absurd hp List.not_mem_nil, ?_⟩
  rintro ⟨i, hi⟩
  exact absurd hi (not_holds_free (hfree i))

/-- **When blocks are destroyed once and not used afterwards.** -/
theorem owned_of_steps {io : TcpIo} {cs : List SocketEvent}
    (hrun : Steps PreservingStep { layer := boot io } cs m) : m.Owned :=
  (hrun.invariant (I := Sound) (fun _ _ _ => sound_step) (sound_boot io)).owned

/-- A segment from the other side of the first connection. -/
def fromPeer (seq : UInt32) (flags : TcpFlags) : TcpSegment :=
  { srcIp := 20, dstIp := 0, srcPort := 80, dstPort := 49152, seq := seq, ack := 128001,
    flags := flags, window := 1000, data := [] }

/-- The events of a connection that the other side closes first. -/
def closedByPeer : List SocketEvent :=
  [.socket afInet sockStream 0, .connect 1000 ⟨afInet, 80, 20⟩ 16,
    .receive (fromPeer 500 { syn := true, ack := true }),
    .receive (fromPeer 501 { fin := true, ack := true }), .close 1000]

/-- The state after the first events. -/
def afterPeer (n : Nat) : BlockUsers := (closedByPeer.take n).foldl apply { layer := boot {} }

lemma afterPeer_succ (n : Nat) (h : closedByPeer[n]? = some e) : afterPeer (n + 1) = (afterPeer n).apply e := by
  unfold afterPeer
  rw [List.take_add_one, List.foldl_append, h]
  rfl

/-- A connection that the other side closes first: the descriptor is closed in CLOSE_WAIT. -/
theorem owned_of_peer_close : (afterPeer 5).Owned := by
  have hsyn : (afterPeer 2).layer.tcp.reaches (fromPeer 500 { syn := true, ack := true }) = some 0 ∧
      ((afterPeer 2).layer.tcp.blocks 0).state = .synSent := by
    set_option maxRecDepth 8192 in decide
  have hfin : (afterPeer 3).layer.tcp.reaches (fromPeer 501 { fin := true, ack := true }) = some 0 ∧
      ((afterPeer 3).layer.tcp.blocks 0).state = .established := by
    set_option maxRecDepth 8192 in decide
  have hclose : (afterPeer 4).layer.socketGet 1000 = some 0 ∧ ((afterPeer 4).layer.table 0).protoData = some 0 ∧
      ((afterPeer 4).layer.tcp.blocks 0).state = .closeWait := by
    set_option maxRecDepth 8192 in decide
  have hsyn' : (afterPeer 2).layer.Preserves (.receive (fromPeer 500 { syn := true, ack := true })) := by
    intro p hp
    obtain rfl : 0 = p := Option.some.inj (hsyn.1.symm.trans hp)
    exact fun h => absurd (hsyn.2.symm.trans h.2.1) (by decide)
  have hfin' : (afterPeer 3).layer.Preserves (.receive (fromPeer 501 { fin := true, ack := true })) := by
    intro p hp
    obtain rfl : 0 = p := Option.some.inj (hfin.1.symm.trans hp)
    exact fun h => absurd (hfin.2.symm.trans h.2.1) (by decide)
  have hclose' : (afterPeer 4).layer.Preserves (.close 1000) := by
    intro i p hi hp
    obtain rfl : 0 = i := Option.some.inj (hclose.1.symm.trans hi)
    obtain rfl : 0 = p := Option.some.inj (hclose.2.1.symm.trans hp.block)
    have hstate : ((afterPeer 4).layer.tcp.blocks 0).state = .closeWait := hclose.2.2
    constructor
    · exact fun h => absurd (hstate.symm.trans h) (by decide)
    · rintro (h | h | h)
      all_goals exact absurd (hstate.symm.trans h) (by decide)
  have hrun : Steps PreservingStep (afterPeer 0) closedByPeer (afterPeer 5) :=
    .cons ⟨afterPeer_succ 0 rfl, trivial⟩ (.cons ⟨afterPeer_succ 1 rfl, trivial⟩
      (.cons ⟨afterPeer_succ 2 rfl, hsyn'⟩ (.cons ⟨afterPeer_succ 3 rfl, hfin'⟩
        (.cons ⟨afterPeer_succ 4 rfl, hclose'⟩ (.nil (afterPeer 5))))))
  exact owned_of_steps hrun

/-- A socket that was never connected is closed: its block is destroyed twice. -/
theorem closed_twice : ¬ ∀ (io : TcpIo) (cs : List SocketEvent) (m : BlockUsers),
    Steps Step { layer := boot io } cs m → m.Owned := by
  intro hall
  have howned := hall {} [.socket afInet sockStream 0, .close 1000] _
    (.cons rfl (.cons rfl (.nil _)))
  exact absurd howned.once (by decide)

/-! ## The condition is necessary -/

lemma Owned.not_mem_of_holds {s : SocketLayer} (h : m.Owned) {i : Nat} (hslots : SameSlots s m.layer)
    (hp : s.Holds i p) (hnot : p ∉ m.layer.tcp.list) : False := by
  have hafter : m.layer.Holds i p := (holds_iff (hslots.slot i)).mpr hp
  obtain ⟨q, hq, hmem⟩ := h.backed i hafter.inUse hafter.stream
  obtain rfl : q = p := Option.some.inj (hq.symm.trans hafter.block)
  exact hnot hmem

/-- `socket_close` of a socket that is the first to go. -/
lemma preserves_close (h : m.Sound) {sockfd : Int} (howned : (m.apply (.close sockfd)).Owned) :
    m.layer.Preserves (.close sockfd) := by
  intro i p hget hp
  have htcp : (m.apply (.close sockfd)).layer.tcp = (m.layer.tcp.onSocket p .tcpClose).tcpSocketDestroy p :=
    socketClose_stream hget hp.stream hp.block
  have hnodup : (m.layer.tcp.onSocket p .tcpClose).list.Nodup :=
    h.owning.ledger.wf.nodup.sublist (Tcp.onSocket_sublist _ _ _)
  constructor
  · intro hstate
    have hlinger : p ∈ (m.apply (.close sockfd)).lingering := by
      change p ∈ (m.layer.closesOpen (.close sockfd)).toList ++ m.lingering
      rw [closesOpen_eq_some.mpr ⟨i, hget, hp, hstate⟩]
      exact List.mem_cons_self
    have hnever : p ∉ (m.apply (.close sockfd)).completed := by
      change p ∉ m.completed ++ List.filter (fun q =>
        ((m.apply (.close sockfd)).layer.tcp.blocks q).state = .timeWait) _
      rw [h.never, List.nil_append, List.mem_filter, htcp]
      rintro ⟨-, htimeWait⟩
      have hclosed : (((m.layer.tcp.onSocket p .tcpClose).tcpSocketDestroy p).blocks p).state = .finWait1 := by
        unfold Tcp.tcpSocketDestroy
        rw [Tcp.onSocket_self, Tcp.onSocket_self]
        exact TcpConn.tcpClose_established (c := { sock := m.layer.tcp.blocks p, io := m.layer.tcp.io })
          hstate
      rw [hclosed] at htimeWait
      exact absurd htimeWait (by decide)
    have hmem := howned.lingers p hlinger hnever
    rw [htcp] at hmem
    exact Tcp.not_mem_destroyed hnodup rfl hmem
  · intro hdestroys
    have honce := howned.once
    rw [htcp, Tcp.tcpSocketDestroy, Tcp.destroyed_eq rfl,
      Tcp.destroyed_eq (Tcp.call_frees .close hdestroys), List.append_assoc] at honce
    exact absurd (honce.sublist (List.sublist_append_right _ _)) (by simp)

/-- **The condition is exact.**  From a state that such runs reach, a step keeps what is claimed if and
only if it is none of the cases left out. -/
theorem owned_apply_iff (h : m.Sound) : (m.apply e).Owned ↔ m.layer.Preserves e := by
  refine ⟨fun howned => ?_, fun hpreserves => (sound_step h ⟨rfl, hpreserves⟩).owned⟩
  have hnodup : m.layer.tcp.list.Nodup := h.owning.ledger.wf.nodup
  cases e with
  | close sockfd => exact preserves_close h howned
  | shutdown sockfd how =>
    intro hhow i p hget hp hdestroys
    refine howned.not_mem_of_holds (sameSlots_shutdown m.layer sockfd how) hp ?_
    change p ∉ (m.layer.shutdown sockfd how).2.tcp.list
    rw [shutdown_tcp hget hp.stream hp.block hhow]
    exact Tcp.not_mem_destroyed hnodup (Tcp.call_frees .close hdestroys)
  | receive seg =>
    intro p hfound hdestroys
    obtain ⟨i, hp⟩ := (h.owning.listed p).mp (Tcp.mem_of_reaches hfound)
    refine howned.not_mem_of_holds (s := m.layer) ⟨fun _ => .refl _, rfl⟩ hp ?_
    change p ∉ (m.layer.tcp.tcpReceive seg).2.list
    obtain ⟨io, heq⟩ := Tcp.tcpReceive_of_reaches hfound
    rw [heq]
    have hfrees := @Tcp.call_frees { m.layer.tcp with io := io } p (.segment seg) hdestroys
    exact @Tcp.not_mem_destroyed { m.layer.tcp with io := io } p hnodup _ hfrees
  | tick =>
    intro p hmem hdestroys
    obtain ⟨i, hp⟩ := (h.owning.listed p).mp hmem
    exact howned.not_mem_of_holds (s := m.layer) ⟨fun _ => .refl _, rfl⟩ hp
      (Tcp.not_mem_tick h.owning.ledger.wf hmem hdestroys)
  | _ => exact trivial

/-- A socket that was never connected is closed. -/
theorem owned_apply_iff_close : letI m := BlockUsers.apply { layer := boot {} } (.socket afInet sockStream 0)
    (m.apply (.close 1000)).Owned ↔ m.layer.Preserves (.close 1000) :=
  owned_apply_iff (sound_step (sound_boot {}) ⟨rfl, trivial⟩)

end BlockUsers

end AAAos
