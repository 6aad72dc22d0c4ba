import AAAos.Net.Socket.Outcomes

/-!
# Socket descriptors

A descriptor is found by its number: `socket_get` takes the socket at place `fd - SOCKET_FD_BASE`.
`socket_alloc` takes the first free place, and numbers the socket by a counter.

**What goes wrong.**  The counter does not go back when a place is given back, so after the first
`socket_close` the next socket has a number that is not the number of its place.  Its descriptor finds
nothing, or the socket of another (`reopened_unnamed`).

**What is proved.**  As long as every place that `socket_alloc` takes is the one that the counter
names, descriptors name their own sockets (`named_of_steps`).
-/

namespace AAAos

namespace SocketLayer

variable {s s' : SocketLayer} {e : SocketEvent} {i : Nat} {sockfd : Int}

/-- The call comes to `socket_alloc`. -/
def Allocates (s : SocketLayer) : SocketEvent → Prop
  | .socket domain type protocol => socketArgs domain type protocol = .none
  | .accept sockfd => ∃ i, s.socketGet sockfd = some i ∧ (s.table i).state = .listening ∧
      (s.takeConnection i).1 ≠ none
  | _ => False

/-- The first free place, if there is one, is the one that the counter names. -/
def Aligned (s : SocketLayer) : Prop :=
  ∀ i, s.freeSlot = some i → s.nextSocketFd = socketFdBase + i

lemma socketGet_eq_some : s.socketGet sockfd = some i ↔
      i < socketMaxCount ∧ sockfd = socketFdBase + i ∧ (s.table i).inUse = true := by
  unfold socketGet fdToIndex
  dsimp only
  by_cases hrange : sockfd - socketFdBase < 0 ∨ (socketMaxCount : Int) ≤ sockfd - socketFdBase
  · rw [if_pos hrange, if_pos (by decide)]
    refine ⟨fun h => absurd h (by simp), fun ⟨hlt, hfd, _⟩ => ?_⟩
    omega
  rw [if_neg hrange]
  obtain ⟨k, hk⟩ : ∃ k : Nat, sockfd - socketFdBase = k := Int.eq_ofNat_of_zero_le (by omega)
  rw [hk, if_neg (by omega), Int.toNat_natCast]
  by_cases huse : (s.table k).inUse = true
  · rw [if_pos huse]
    constructor
    · rintro h
      obtain rfl := Option.some.inj h
      exact ⟨by omega, by omega, huse⟩
    · rintro ⟨-, hfd, -⟩
      exact congrArg some (by omega)
  · rw [if_neg huse]
    refine ⟨fun h => absurd h (by simp), fun ⟨_, hfd, hi⟩ => ?_⟩
    obtain rfl : k = i := by omega
    exact absurd hi huse

/-- A call that does not come to `socket_alloc` returns no descriptor. -/
lemma refused_of_not_allocates (hopens : (∃ domain type protocol, e = .socket domain type protocol) ∨
    ∃ sockfd, e = .accept sockfd) (h : ¬ s.Allocates e) : (s.call e).1 = -1 := by
  rcases hopens with ⟨domain, type, protocol, rfl⟩ | ⟨sockfd, rfl⟩
  · change (s.socket domain type protocol).1 = -1
    unfold socket
    rw [if_pos (show socketArgs domain type protocol ≠ .none from h)]
    rfl
  · change (s.accept sockfd).1 = -1
    unfold accept
    cases hget : s.socketGet sockfd with
    | none => rfl
    | some i =>
      dsimp only
      by_cases hstate : (s.table i).state = .listening
      · rw [if_neg (not_not.mpr hstate)]
        have hnone : (s.takeConnection i).1 = none := by
          by_contra hsome
          exact h ⟨i, hget, hstate, hsome⟩
        generalize s.takeConnection i = answer at hnone ⊢
        obtain ⟨q, u⟩ := answer
        obtain rfl : q = none := hnone
        rfl
      · rw [if_pos hstate]
        rfl

end SocketLayer

/-! ## Descriptors in use -/

/-- The layer, with what its callers know: the descriptors returned and not yet closed, each with the
place of the socket created for it, and the descriptors closed. -/
structure SocketUsers where
  layer : SocketLayer
  opened : List (Int × Nat) := []
  closed : List Int := []

namespace SocketUsers

open SocketLayer

variable {m m' : SocketUsers} {e : SocketEvent} {s : SocketLayer}

/-- A call that returned a new descriptor, or failed. -/
def opening (m : SocketUsers) (answer : Int) (s : SocketLayer) : SocketUsers :=
  if answer = -1 then { m with layer := s }
  else
    match m.layer.freeSlot with
    | some i => { m with layer := s, opened := (answer, i) :: m.opened }
    | none => { m with layer := s }

/-- `socket_close` succeeded, or failed. -/
def closing (m : SocketUsers) (sockfd answer : Int) (s : SocketLayer) : SocketUsers :=
  if answer = 0 then
    { layer := s, opened := m.opened.filter (·.1 ≠ sockfd), closed := sockfd :: m.closed }
  else { m with layer := s }

def apply (m : SocketUsers) (e : SocketEvent) : SocketUsers :=
  let (answer, s) := m.layer.call e
  match e with
  | .socket .. | .accept _ => m.opening answer s
  | .close sockfd => m.closing sockfd answer s
  | _ => { m with layer := s }

def Step (m : SocketUsers) (e : SocketEvent) (m' : SocketUsers) : Prop := m' = m.apply e

/-- A place is taken only where the counter names it. -/
def AlignedStep (m : SocketUsers) (e : SocketEvent) (m' : SocketUsers) : Prop :=
  m.Step e m' ∧ (m.layer.Allocates e → m.layer.Aligned)

/-- **Descriptors name their own sockets.** -/
structure Named (m : SocketUsers) : Prop where
  opened : ∀ sockfd i, (sockfd, i) ∈ m.opened → m.layer.socketGet sockfd = some i ∧ (m.layer.table i).fd = sockfd
  closed : ∀ sockfd ∈ m.closed, m.layer.socketGet sockfd = none

/-! ## What aligned steps keep -/

/-- Every socket has the number of its place, and the counter is above all numbers. -/
structure Sound (m : SocketUsers) : Prop where
  base : socketFdBase ≤ m.layer.nextSocketFd
  numbered : ∀ i, (m.layer.table i).inUse = true →
    (m.layer.table i).fd = socketFdBase + i ∧ socketFdBase + i < m.layer.nextSocketFd
  opened : ∀ sockfd i, (sockfd, i) ∈ m.opened → i < socketMaxCount ∧
    sockfd = socketFdBase + i ∧ (m.layer.table i).inUse = true
  closed : ∀ sockfd ∈ m.closed, sockfd < m.layer.nextSocketFd ∧
    ∀ i : Nat, sockfd = socketFdBase + i → (m.layer.table i).inUse = false

lemma Sound.named (h : m.Sound) : m.Named := by
  constructor
  · intro sockfd i hmem
    have hopen := h.opened sockfd i hmem
    exact ⟨socketGet_eq_some.mpr hopen, (h.numbered i hopen.2.2).1.trans hopen.2.1.symm⟩
  · intro sockfd hmem
    rw [Option.eq_none_iff_forall_ne_some]
    intro i hget
    obtain ⟨-, hfd, huse⟩ := socketGet_eq_some.mp hget
    exact absurd huse (by rw [(h.closed sockfd hmem).2 i hfd]; decide)

lemma Sound.same (h : m.Sound) (hsame : m.layer.SameSlots s) : { m with layer := s }.Sound := by
  have huse : ∀ i, (s.table i).inUse = (m.layer.table i).inUse := fun i => (hsame.slot i).inUse
  refine ⟨?_, fun i hi => ?_, fun sockfd i hmem => ?_, fun sockfd hmem => ?_⟩
  · exact hsame.next ▸ h.base
  · rw [huse] at hi
    dsimp only
    rw [hsame.next, (hsame.slot i).fd]
    exact h.numbered i hi
  · obtain ⟨hlt, hfd, hi⟩ := h.opened sockfd i hmem
    exact ⟨hlt, hfd, (huse i).trans hi⟩
  · obtain ⟨hlt, hfree⟩ := h.closed sockfd hmem
    exact ⟨hsame.next ▸ hlt, fun i hi => (huse i).trans (hfree i hi)⟩

lemma Sound.ne_of_opened (h : m.Sound) {i j : Nat} {sockfd : Int}
    (hfree : m.layer.freeSlot = some i) (hmem : (sockfd, j) ∈ m.opened) : j ≠ i := by
  rintro rfl
  have huse := (h.opened sockfd j hmem).2.2
  rw [freeSlot_inUse hfree] at huse
  exact absurd huse (by decide)

lemma Sound.undone (h : m.Sound) {i : Nat} (htouched : m.layer.Touched i s)
    (hfree : (s.table i).inUse = false) : { m with layer := s }.Sound := by
  have hbefore : (m.layer.table i).inUse = false := freeSlot_inUse htouched.free
  have huse : ∀ j, (s.table j).inUse = (m.layer.table j).inUse := by
    intro j
    by_cases hj : j = i
    · subst hj
      exact hfree.trans hbefore.symm
    · exact (htouched.others j hj).inUse
  have hnext : m.layer.nextSocketFd < s.nextSocketFd := by
    rw [htouched.next]
    exact Int.lt_succ _
  refine ⟨h.base.trans hnext.le, fun j hj => ?_, fun sockfd j hmem => ?_, fun sockfd hmem => ?_⟩
  · have hne : j ≠ i := by
      rintro rfl
      exact absurd hj (by rw [hfree]; decide)
    rw [huse] at hj
    obtain ⟨hfd, hlt⟩ := h.numbered j hj
    exact ⟨(htouched.others j hne).fd.trans hfd, hlt.trans hnext⟩
  · obtain ⟨hlt, hfd, hj⟩ := h.opened sockfd j hmem
    exact ⟨hlt, hfd, (huse j).trans hj⟩
  · obtain ⟨hlt, hclosed⟩ := h.closed sockfd hmem
    exact ⟨hlt.trans hnext, fun j hj => (huse j).trans (hclosed j hj)⟩

lemma Sound.taken (h : m.Sound) {i : Nat} (htaken : m.layer.Taken i s)
    (haligned : m.layer.nextSocketFd = socketFdBase + i) :
    Sound { m with layer := s, opened := (m.layer.nextSocketFd, i) :: m.opened } := by
  have hnext : s.nextSocketFd = m.layer.nextSocketFd + 1 := htaken.next
  refine ⟨?_, fun j hj => ?_, fun sockfd j hmem => ?_, fun sockfd hmem => ?_⟩
  · have hbase := h.base
    dsimp only
    omega
  · dsimp only at hj ⊢
    by_cases hne : j = i
    · subst hne
      exact ⟨htaken.fd.trans haligned, by omega⟩
    · rw [(htaken.others j hne).inUse] at hj
      obtain ⟨hfd, hlt⟩ := h.numbered j hj
      exact ⟨(htaken.others j hne).fd.trans hfd, by omega⟩
  · rcases List.mem_cons.mp hmem with heq | hold
    · obtain ⟨rfl, rfl⟩ := Prod.mk.inj heq
      exact ⟨freeSlot_lt htaken.free, haligned, htaken.inUse⟩
    · obtain ⟨hlt, hfd, huse⟩ := h.opened sockfd j hold
      have hne := h.ne_of_opened htaken.free hold
      exact ⟨hlt, hfd, (htaken.others j hne).inUse.trans huse⟩
  · obtain ⟨hlt, hclosed⟩ := h.closed sockfd hmem
    refine ⟨by dsimp only; omega, fun j hj => ?_⟩
    have hne : j ≠ i := by
      rintro rfl
      omega
    exact (htaken.others j hne).inUse.trans (hclosed j hj)

lemma Sound.released (h : m.Sound) {i : Nat} {sockfd : Int}
    (hget : m.layer.socketGet sockfd = some i) (hreleased : m.layer.Released i s) :
    Sound { layer := s, opened := m.opened.filter (·.1 ≠ sockfd), closed := sockfd :: m.closed } := by
  obtain ⟨-, hfd, huse⟩ := socketGet_eq_some.mp hget
  have hfree : ∀ j, (m.layer.table j).inUse = false → (s.table j).inUse = false := by
    intro j hj
    by_cases hne : j = i
    · subst hne
      exact hreleased.free
    · exact (hreleased.others j hne).inUse.trans hj
  refine ⟨hreleased.next ▸ h.base, fun j hj => ?_, fun sockfd' j hmem => ?_, fun sockfd' hmem => ?_⟩
  · dsimp only at hj ⊢
    have hne : j ≠ i := by
      rintro rfl
      exact absurd hj (by rw [hreleased.free]; decide)
    rw [(hreleased.others j hne).inUse] at hj
    rw [(hreleased.others j hne).fd, hreleased.next]
    exact h.numbered j hj
  · obtain ⟨hold, hother⟩ := List.mem_filter.mp hmem
    obtain ⟨hlt, hfd', huse'⟩ := h.opened sockfd' j hold
    have hne : j ≠ i := by
      rintro rfl
      exact (of_decide_eq_true hother) (hfd'.trans hfd.symm)
    exact ⟨hlt, hfd', (hreleased.others j hne).inUse.trans huse'⟩
  · dsimp only
    rw [hreleased.next]
    rcases List.mem_cons.mp hmem with rfl | hold
    · refine ⟨hfd ▸ (h.numbered i huse).2, fun j hj => ?_⟩
      obtain rfl : j = i := by omega
      exact hreleased.free
    · obtain ⟨hlt, hclosed⟩ := h.closed sockfd' hold
      exact ⟨hlt, fun j hj => hfree j (hclosed j hj)⟩

/-- `socket` and `accept`. -/
lemma Sound.opening (h : m.Sound) {answer : Int} (hout : m.layer.Outcome (answer, s))
    (haligned : answer ≠ -1 → m.layer.Aligned) : (m.opening answer s).Sound := by
  unfold SocketUsers.opening
  cases hout with
  | refused hanswer hsame =>
    obtain rfl : answer = -1 := hanswer
    rw [if_pos rfl]
    exact h.same hsame
  | undone hanswer htouched hfree =>
    obtain rfl : answer = -1 := hanswer
    rw [if_pos rfl]
    exact h.undone htouched hfree
  | @opened i hanswer htaken =>
    obtain rfl : answer = m.layer.nextSocketFd := hanswer
    have hne : m.layer.nextSocketFd ≠ -1 := by
      have hbase := h.base
      unfold socketFdBase at hbase
      omega
    rw [if_neg hne, htaken.free]
    exact h.taken htaken (haligned hne i htaken.free)

/-- **One step.** -/
lemma sound_step (h : m.Sound) (hstep : AlignedStep m e m') : m'.Sound := by
  obtain ⟨rfl, haligned⟩ := hstep
  have hopens : ∀ hopens : (∃ domain type protocol, e = .socket domain type protocol) ∨
      ∃ sockfd, e = .accept sockfd, (m.layer.call e).1 ≠ -1 → m.layer.Aligned := by
    intro hopens hanswer
    by_contra hnot
    exact hanswer (refused_of_not_allocates hopens fun halloc => hnot (haligned halloc))
  cases e with
  | socket domain type protocol =>
    exact h.opening (outcome_socket m.layer domain type protocol) (hopens (.inl ⟨_, _, _, rfl⟩))
  | accept sockfd =>
    exact h.opening (outcome_accept m.layer sockfd) (hopens (.inr ⟨_, rfl⟩))
  | close sockfd =>
    change (m.closing sockfd (m.layer.socketClose sockfd).1 (m.layer.socketClose sockfd).2).Sound
    unfold closing
    cases hget : m.layer.socketGet sockfd with
    | none =>
      have hanswer : (m.layer.fail .badf).1 ≠ 0 := show (-1 : Int) ≠ 0 by decide
      rw [socketClose_badf hget, if_neg hanswer]
      exact h.same ((SocketLayer.Quiet.refl m.layer).fail _).toSameSlots
    | some i =>
      obtain ⟨hanswer, hreleased⟩ := outcome_socketClose hget
      rw [if_pos hanswer]
      exact h.released hget hreleased
  | bind sockfd sin addrlen => exact h.same (quiet_bind m.layer sockfd sin addrlen).toSameSlots
  | listen sockfd backlog => exact h.same (quiet_listen m.layer sockfd backlog).toSameSlots
  | connect sockfd sin addrlen =>
    exact h.same (quiet_connect m.layer sockfd sin addrlen).toSameSlots
  | send sockfd data => exact h.same (quiet_send m.layer sockfd data).toSameSlots
  | recv sockfd len peek => exact h.same (quiet_recv m.layer sockfd len peek).toSameSlots
  | shutdown sockfd how => exact h.same (sameSlots_shutdown m.layer sockfd how)
  | setReuseAddr sockfd reuseAddr =>
    exact h.same (quiet_setReuseAddr m.layer sockfd reuseAddr).toSameSlots
  | receive seg => exact h.same ⟨fun _ => .refl _, rfl⟩
  | tick => exact h.same ⟨fun _ => .refl _, rfl⟩
  | outside now ownIp allocs sends => exact h.same ⟨fun _ => .refl _, rfl⟩

lemma sound_boot (io : TcpIo) : Sound { layer := boot io } :=
  ⟨le_refl _, fun _ h => absurd h Bool.false_ne_true, fun _ _ h => absurd h List.not_mem_nil,
    fun _ h => absurd h List.not_mem_nil⟩

/-- **When descriptors name their own sockets.** -/
theorem named_of_steps {io : TcpIo} {cs : List SocketEvent}
    (hrun : Steps AlignedStep { layer := boot io } cs m) : m.Named :=
  (hrun.invariant (I := Sound) (fun _ _ _ => sound_step) (sound_boot io)).named

lemma aligned_of_named {answer : Int} (hout : m.layer.Outcome (answer, s)) (hanswer : answer ≠ -1)
    (hnamed : (m.opening answer s).Named) : m.layer.Aligned := by
  intro i hfree
  cases hout with
  | refused hfail => exact absurd hfail hanswer
  | undone hfail => exact absurd hfail hanswer
  | opened hnext htaken =>
    unfold SocketUsers.opening at hnamed
    rw [if_neg hanswer, hfree] at hnamed
    have hget := (hnamed.opened answer i List.mem_cons_self).1
    exact hnext.symm.trans (socketGet_eq_some.mp hget).2.1

/-- **Where the counter does not name the place, the new descriptor is wrong.** -/
theorem unnamed_of_not_aligned (hopens : (∃ domain type protocol, e = .socket domain type protocol) ∨
    ∃ sockfd, e = .accept sockfd) (hnot : ¬ m.layer.Aligned) (hanswer : (m.layer.call e).1 ≠ -1) :
    ¬ (m.apply e).Named := by
  intro hnamed
  rcases hopens with ⟨domain, type, protocol, rfl⟩ | ⟨sockfd, rfl⟩
  · exact hnot (aligned_of_named (outcome_socket m.layer domain type protocol) hanswer hnamed)
  · exact hnot (aligned_of_named (outcome_accept m.layer sockfd) hanswer hnamed)

/-- Two sockets, the first of which is closed. -/
theorem named_of_two_sockets : Named (((({ layer := boot {} } : SocketUsers).apply
    (.socket afInet sockDgram 0)).apply (.socket afInet sockStream 0)).apply (.close 1000)) := by
  refine named_of_steps (.cons ⟨rfl, fun _ i hi => ?_⟩ (.cons ⟨rfl, fun _ i hi => ?_⟩
    (.cons ⟨rfl, fun h => ?_⟩ (.nil _))))
  · obtain rfl : 0 = i := Option.some.inj hi
    rfl
  · obtain rfl : 1 = i := Option.some.inj hi
    rfl
  · exact False.elim h

/-- A socket is closed and another one made.  Its descriptor finds nothing. -/
theorem reopened_unnamed : ¬ ∀ (io : TcpIo) (cs : List SocketEvent) (m : SocketUsers),
    Steps Step { layer := boot io } cs m → m.Named := by
  intro hall
  have hnamed := hall {} [.socket afInet sockDgram 0, .close 1000, .socket afInet sockDgram 0] _
    (.cons rfl (.cons rfl (.cons rfl (.nil _))))
  have hget := (hnamed.opened 1001 0 (by decide)).1
  exact absurd hget (by decide)

end SocketUsers

end AAAos
