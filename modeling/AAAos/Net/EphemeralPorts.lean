import AAAos.Lib.CyclicSearch
import AAAos.Net.Socket.Socket

/-!
# Ephemeral ports

The three allocators of ephemeral ports: `tcp_alloc_ephemeral_port` of `net/tcp/tcp.c`, and `allocate_ephemeral_port` of
`net/udp/udp.c` and of `net/socket/socket.c`.  What is in use is any set of ports, and may be another one at each call.

**What goes wrong.**  The cursors of UDP and of the sockets are compared with 65535 after they have been cut to 16 bits,
so they never go back to 49152: after a lap of 16384 allocations the next port is 0, and then come the ports from 1 on
(`lap_gives_zero`).  The cursor of TCP goes back one port too early, so 65535 is never given.

**What is proved.**  Every search comes to an end, and finds the first free port from the cursor on.  So the answer is
right for TCP exactly if port 65535 is in use or another one is free, and for the others exactly if that first free port
is in the range, or nothing in the range is free and no other port comes first (`ephemeralPort_iff`).
-/

namespace AAAos

/-- `UDP_PORT_EPHEMERAL_MIN`. -/
def ephemeralMin : UInt16 := 49152

/-- `UDP_PORT_EPHEMERAL_MAX`. -/
def ephemeralMax : UInt16 := 65535

namespace Udp

/-- The loop of `allocate_ephemeral_port` in `net/udp/udp.c`: the port, or 0, and the next one to try. -/
def ephemeralLoop (inUse : UInt16 → Bool) (start : UInt16) : Nat → UInt16 → UInt16 × UInt16
  | 0, cursor => (0, cursor)
  | fuel + 1, cursor =>
    let next := if ephemeralMax < cursor + 1 then ephemeralMin else cursor + 1
    if !inUse cursor then (cursor, next)
    else if next ≠ start then ephemeralLoop inUse start fuel next
    else (0, next)

end Udp

/-! ## The allocators -/

inductive PortAllocator
  | tcp
  | udp
  | socket
deriving DecidableEq

namespace PortAllocator

/-- A call with so much fuel: the port, or 0, and where the cursor is then.  The sockets try 16384 ports. -/
def allocWith (fuel : Nat) (inUse : UInt16 → Bool) (cursor : UInt16) : PortAllocator → UInt16 × UInt16
  | tcp => Tcp.ephemeralLoop inUse cursor fuel cursor
  | udp => Udp.ephemeralLoop inUse cursor fuel cursor
  | socket => SocketLayer.ephemeralLoop inUse 16384 cursor

/-- A call. -/
def alloc (a : PortAllocator) (inUse : UInt16 → Bool) (cursor : UInt16) : UInt16 × UInt16 :=
  a.allocWith 65536 inUse cursor

/-- The cursor after some calls, each with what was in use then. -/
def cursorAfter (a : PortAllocator) (history : List (UInt16 → Bool)) : UInt16 :=
  history.foldl (fun cursor inUse => (a.alloc inUse cursor).2) ephemeralMin

end PortAllocator

/-- The answer is a free port of the range, or 0 where there is none. -/
def PortSound (inUse : UInt16 → Bool) (port : UInt16) : Prop :=
  (port ≠ 0 → ephemeralMin ≤ port ∧ inUse port = false) ∧ (port = 0 → ∀ p, ephemeralMin ≤ p → inUse p = true)

/-- Of `n` ports from the cursor on the first free one is in the range, or nothing in the range is free, and if one of
the ports is, then 0 is the first. -/
def FirstInRange (inUse : UInt16 → Bool) (n : Nat) (cursor : UInt16) : Prop :=
  (∃ i < n, ephemeralMin ≤ cursor + UInt16.ofNat i ∧ inUse (cursor + UInt16.ofNat i) = false ∧
      ∀ j < i, inUse (cursor + UInt16.ofNat j) = true) ∨
    ((∀ p, ephemeralMin ≤ p → inUse p = true) ∧
      ∀ i < n, inUse (cursor + UInt16.ofNat i) = false → (∀ j < i, inUse (cursor + UInt16.ofNat j) = true) →
        cursor + UInt16.ofNat i = 0)

namespace PortAllocator

/-- When the answer is right. -/
def Condition (inUse : UInt16 → Bool) (cursor : UInt16) : PortAllocator → Prop
  | tcp => inUse ephemeralMax = true ∨ ∃ p, ephemeralMin ≤ p ∧ p < ephemeralMax ∧ inUse p = false
  | udp => FirstInRange inUse 65536 cursor
  | socket => FirstInRange inUse 16384 cursor

end PortAllocator

/-! ## The loops are searches -/

/-- The next port of UDP and of the sockets. -/
def nextPort (p : UInt16) : UInt16 := p + 1

/-- The next port of TCP. -/
def nextTcpPort (p : UInt16) : UInt16 := if 65535 ≤ p + 1 then 49152 else p + 1

/-- A search by number of ports, as an answer. -/
def answerOf (r : Option UInt16 × UInt16) : UInt16 × UInt16 := (r.1.getD 0, r.2)

lemma tcp_ephemeralLoop_eq (inUse : UInt16 → Bool) (start : UInt16) (fuel : Nat) (p : UInt16) :
    Tcp.ephemeralLoop inUse start fuel p =
      answerOf (CyclicSearch.searchFrom (fun q => !inUse q) nextTcpPort start fuel p) := by
  induction fuel generalizing p with
  | zero => rfl
  | succ fuel ih =>
    rw [Tcp.ephemeralLoop, CyclicSearch.searchFrom]
    change (if (!inUse p) = true then (p, nextTcpPort p)
      else if nextTcpPort p ≠ start then Tcp.ephemeralLoop inUse start fuel (nextTcpPort p)
      else (0, nextTcpPort p)) = _
    split_ifs
    · rfl
    · exact ih (nextTcpPort p)
    · rfl

lemma udp_next (p : UInt16) : (if ephemeralMax < p + 1 then ephemeralMin else p + 1) = nextPort p := by
  have hlt := (p + 1).toNat_lt
  rw [if_neg (by rw [UInt16.lt_iff_toNat_lt]; change ¬ 65535 < (p + 1).toNat; omega), nextPort]

lemma udp_ephemeralLoop_eq (inUse : UInt16 → Bool) (start : UInt16) (fuel : Nat) (p : UInt16) :
    Udp.ephemeralLoop inUse start fuel p =
      answerOf (CyclicSearch.searchFrom (fun q => !inUse q) nextPort start fuel p) := by
  induction fuel generalizing p with
  | zero => rfl
  | succ fuel ih =>
    rw [Udp.ephemeralLoop, CyclicSearch.searchFrom]
    simp only [udp_next]
    split_ifs
    · rfl
    · exact ih (nextPort p)
    · rfl

lemma socket_ephemeralLoop_eq (inUse : UInt16 → Bool) (attempts : Nat) (p : UInt16) :
    SocketLayer.ephemeralLoop inUse attempts p =
      answerOf (CyclicSearch.tryUpTo (fun q => !inUse q) nextPort attempts p) := by
  induction attempts generalizing p with
  | zero => rfl
  | succ attempts ih =>
    rw [SocketLayer.ephemeralLoop, CyclicSearch.tryUpTo]
    by_cases hused : inUse p = true
    · rw [if_pos hused, if_neg (by simp [hused])]
      exact ih (p + 1)
    · rw [if_neg hused, if_pos (by simpa using hused)]
      rfl

/-! ## The cycles -/

lemma iterate_nextPort (i : Nat) (p : UInt16) : nextPort^[i] p = p + UInt16.ofNat i := by
  induction i generalizing p with
  | zero => simp
  | succ i ih =>
    rw [Function.iterate_succ_apply, ih, nextPort, UInt16.ofNat_add, UInt16.add_assoc, UInt16.add_comm 1]
    rfl

lemma toNat_iterate_nextPort (i : Nat) (p : UInt16) : (nextPort^[i] p).toNat = (p.toNat + i) % 65536 := by
  rw [iterate_nextPort, UInt16.toNat_add, UInt16.toNat_ofNat', Nat.add_mod_mod]

/-- The ports where the cursor of TCP can be. -/
def TcpCursor (p : UInt16) : Prop := 49152 ≤ p.toNat ∧ p.toNat < 65535

lemma tcpCursor_next {p : UInt16} (h : TcpCursor p) : TcpCursor (nextTcpPort p) ∧
    (nextTcpPort p).toNat = 49152 + (p.toNat - 49152 + 1) % 16383 := by
  obtain ⟨hlow, hhigh⟩ := h
  have hsucc : (p + 1).toNat = p.toNat + 1 := by
    rw [UInt16.toNat_add, UInt16.toNat_one, Nat.mod_eq_of_lt (by omega)]
  have hmax : (65535 : UInt16).toNat = 65535 := rfl
  have hmin : (49152 : UInt16).toNat = 49152 := rfl
  unfold TcpCursor nextTcpPort
  split_ifs with htop
  · have hle := UInt16.le_iff_toNat_le.mp htop
    rw [hmin]
    omega
  · have hlt := UInt16.lt_iff_toNat_lt.mp (UInt16.not_le.mp htop)
    rw [hsucc]
    omega

lemma iterate_nextTcpPort {p : UInt16} (h : TcpCursor p) (i : Nat) : TcpCursor (nextTcpPort^[i] p) ∧
    (nextTcpPort^[i] p).toNat = 49152 + (p.toNat - 49152 + i) % 16383 := by
  induction i with
  | zero =>
    obtain ⟨hlow, hhigh⟩ := h
    refine ⟨⟨hlow, hhigh⟩, ?_⟩
    rw [Function.iterate_zero_apply]
    omega
  | succ i ih =>
    obtain ⟨hin, heq⟩ := ih
    obtain ⟨hnext, hval⟩ := tcpCursor_next hin
    rw [Function.iterate_succ_apply']
    refine ⟨hnext, ?_⟩
    rw [hval, heq]
    omega

lemma udp_search_eq (inUse : UInt16 → Bool) (cursor : UInt16) {fuel : Nat} (hfuel : 65536 ≤ fuel) :
    Udp.ephemeralLoop inUse cursor fuel cursor =
      answerOf (CyclicSearch.tryUpTo (fun q => !inUse q) nextPort 65536 cursor) := by
  have hlt := cursor.toNat_lt
  rw [udp_ephemeralLoop_eq, CyclicSearch.searchFrom_eq (by omega) _ _ hfuel]
  · refine UInt16.toNat_inj.mp ?_
    rw [toNat_iterate_nextPort]
    omega
  · intro i hpos hi heq
    have hnat := congrArg UInt16.toNat heq
    rw [toNat_iterate_nextPort] at hnat
    omega

lemma tcp_search_eq (inUse : UInt16 → Bool) {cursor : UInt16} (h : TcpCursor cursor) {fuel : Nat}
    (hfuel : 16383 ≤ fuel) : Tcp.ephemeralLoop inUse cursor fuel cursor =
      answerOf (CyclicSearch.tryUpTo (fun q => !inUse q) nextTcpPort 16383 cursor) := by
  have hlow := h.1
  have hhigh := h.2
  rw [tcp_ephemeralLoop_eq, CyclicSearch.searchFrom_eq (by omega) _ _ hfuel]
  · refine UInt16.toNat_inj.mp ?_
    rw [(iterate_nextTcpPort h 16383).2]
    omega
  · intro i hpos hi heq
    have hnat := congrArg UInt16.toNat heq
    rw [(iterate_nextTcpPort h i).2] at hnat
    omega

/-! ## The answers -/

/-- **UDP and the sockets.**  The answer to a search of `n` ports is right exactly if the first free one is. -/
lemma portSound_firstInRange_iff (inUse : UInt16 → Bool) (n : Nat) (cursor : UInt16) :
    PortSound inUse (answerOf (CyclicSearch.tryUpTo (fun q => !inUse q) nextPort n cursor)).1 ↔
      FirstInRange inUse n cursor := by
  have hfree : ∀ q, (!inUse q) = true ↔ inUse q = false := by simp
  have hused : ∀ q, (!inUse q) = false ↔ inUse q = true := by simp
  rcases @CyclicSearch.tryUpTo_spec _ (fun q => !inUse q) nextPort n cursor with
    ⟨i, hi, hfound, hbefore, heq⟩ | ⟨hnone, heq⟩
  · rw [hfree] at hfound
    simp only [hused, iterate_nextPort] at hfound hbefore heq
    -- the first free port is the only one
    have hunique : ∀ k, inUse (cursor + UInt16.ofNat k) = false →
        (∀ j < k, inUse (cursor + UInt16.ofNat j) = true) → k = i := by
      intro k hk hfirst
      rcases Nat.lt_trichotomy k i with hlt | heqk | hgt
      · rw [hbefore k hlt] at hk
        exact absurd hk (by simp)
      · exact heqk
      · rw [hfirst i hgt] at hfound
        exact absurd hfound (by simp)
    rw [heq]
    change PortSound inUse (cursor + UInt16.ofNat i) ↔ _
    constructor
    · rintro ⟨hrange, hall⟩
      by_cases hzero : cursor + UInt16.ofNat i = 0
      · refine Or.inr ⟨hall hzero, fun k _ hk hfirst => ?_⟩
        rw [hunique k hk hfirst, hzero]
      · exact Or.inl ⟨i, hi, (hrange hzero).1, hfound, hbefore⟩
    · rintro (⟨k, hk, hmin, hkfree, hfirst⟩ | ⟨hall, hzero⟩)
      · obtain rfl := hunique k hkfree hfirst
        refine ⟨fun _ => ⟨hmin, hfound⟩, fun hport => ?_⟩
        rw [hport] at hmin
        exact absurd hmin (by decide)
      · have hport := hzero i hi hfound hbefore
        exact ⟨fun hne => absurd hport hne, fun _ => hall⟩
  · simp only [hused, iterate_nextPort] at hnone
    rw [heq]
    change PortSound inUse 0 ↔ _
    constructor
    · rintro ⟨-, hall⟩
      refine Or.inr ⟨hall rfl, fun i hi hk _ => ?_⟩
      rw [hnone i hi] at hk
      exact absurd hk (by simp)
    · rintro (⟨i, hi, -, hk, -⟩ | ⟨hall, -⟩)
      · rw [hnone i hi] at hk
        exact absurd hk (by simp)
      · exact ⟨fun hne => absurd rfl hne, fun _ => hall⟩

/-- **TCP.**  The answer is right exactly if not only port 65535 is free. -/
lemma portSound_tcp_iff (inUse : UInt16 → Bool) {cursor : UInt16} (h : TcpCursor cursor) :
    PortSound inUse (answerOf (CyclicSearch.tryUpTo (fun q => !inUse q) nextTcpPort 16383 cursor)).1 ↔
      PortAllocator.tcp.Condition inUse cursor := by
  have hused : ∀ q, (!inUse q) = false ↔ inUse q = true := by simp
  have hmin : ∀ q : UInt16, ephemeralMin ≤ q ↔ 49152 ≤ q.toNat := fun q => UInt16.le_iff_toNat_le
  have hmax : ∀ q : UInt16, q < ephemeralMax ↔ q.toNat < 65535 := fun q => UInt16.lt_iff_toNat_lt
  rcases @CyclicSearch.tryUpTo_spec _ (fun q => !inUse q) nextTcpPort 16383 cursor with
    ⟨i, hi, hfound, -, heq⟩ | ⟨hnone, heq⟩
  · obtain ⟨⟨hlow, hhigh⟩, -⟩ := iterate_nextTcpPort h i
    have hfree : inUse (nextTcpPort^[i] cursor) = false := by simpa using hfound
    rw [heq]
    change PortSound inUse (nextTcpPort^[i] cursor) ↔ _
    refine iff_of_true ⟨fun _ => ⟨(hmin _).mpr hlow, hfree⟩, fun hzero => ?_⟩
      (Or.inr ⟨_, (hmin _).mpr hlow, (hmax _).mpr hhigh, hfree⟩)
    rw [hzero] at hlow
    exact absurd hlow (by decide)
  · -- every port below 65535 was tried
    have hall : ∀ q : UInt16, 49152 ≤ q.toNat → q.toNat < 65535 → inUse q = true := by
      intro q hlow hhigh
      have hcursor := h.1
      have hcursor' := h.2
      have hplace : nextTcpPort^[(q.toNat + 16383 - cursor.toNat) % 16383] cursor = q := by
        refine UInt16.toNat_inj.mp ?_
        rw [(iterate_nextTcpPort h _).2]
        omega
      rw [← hused, ← hplace]
      exact hnone _ (Nat.mod_lt _ (by omega))
    rw [heq]
    change PortSound inUse 0 ↔ _
    constructor
    · rintro ⟨-, hrange⟩
      exact Or.inl (hrange rfl _ (by decide))
    · rintro (hlast | ⟨q, hlow, hhigh, hfree⟩)
      · refine ⟨fun hne => absurd rfl hne, fun _ q hlow => ?_⟩
        have hlt := q.toNat_lt
        by_cases hq : q.toNat < 65535
        · exact hall q ((hmin q).mp hlow) hq
        · obtain rfl : q = ephemeralMax := UInt16.toNat_inj.mp (by change q.toNat = 65535; omega)
          exact hlast
      · rw [hall q ((hmin q).mp hlow) ((hmax q).mp hhigh)] at hfree
        exact absurd hfree (by simp)

lemma tcpCursor_tryUpTo (free : UInt16 → Bool) {cursor : UInt16} (h : TcpCursor cursor) (n : Nat) :
    TcpCursor (CyclicSearch.tryUpTo free nextTcpPort n cursor).2 := by
  rcases @CyclicSearch.tryUpTo_spec _ free nextTcpPort n cursor with ⟨i, -, -, -, heq⟩ | ⟨-, heq⟩
  · rw [heq]
    exact (iterate_nextTcpPort h (i + 1)).1
  · rw [heq]
    exact (iterate_nextTcpPort h n).1

lemma tcpCursor_alloc (inUse : UInt16 → Bool) {cursor : UInt16} (h : TcpCursor cursor) :
    TcpCursor (PortAllocator.tcp.alloc inUse cursor).2 := by
  rw [PortAllocator.alloc, PortAllocator.allocWith, tcp_search_eq inUse h (by omega)]
  exact tcpCursor_tryUpTo _ h _

lemma tcpCursor_after (history : List (UInt16 → Bool)) : TcpCursor (PortAllocator.tcp.cursorAfter history) := by
  have hrun : ∀ cursor, TcpCursor cursor →
      TcpCursor (history.foldl (fun cursor inUse => (PortAllocator.tcp.alloc inUse cursor).2) cursor) := by
    induction history with
    | nil => exact fun _ h => h
    | cons inUse history ih => exact fun cursor h => ih _ (tcpCursor_alloc inUse h)
  exact hrun ephemeralMin ⟨by decide, by decide⟩

/-- **Ephemeral ports.**  Whatever was in use at the calls before and whatever is now, the search comes to an end, and
its answer is right exactly under the condition of the allocator. -/
theorem ephemeralPort_iff (a : PortAllocator) (history : List (UInt16 → Bool)) (inUse : UInt16 → Bool) :
    (∀ fuel, 65536 ≤ fuel → a.allocWith fuel inUse (a.cursorAfter history) = a.alloc inUse (a.cursorAfter history)) ∧
      (PortSound inUse (a.alloc inUse (a.cursorAfter history)).1 ↔ a.Condition inUse (a.cursorAfter history)) := by
  cases a with
  | tcp =>
    have hcursor := tcpCursor_after history
    refine ⟨fun fuel hfuel => ?_, ?_⟩
    · rw [PortAllocator.alloc, PortAllocator.allocWith, PortAllocator.allocWith,
        tcp_search_eq inUse hcursor (by omega), tcp_search_eq inUse hcursor (by omega)]
    · rw [PortAllocator.alloc, PortAllocator.allocWith, tcp_search_eq inUse hcursor (by omega)]
      exact portSound_tcp_iff inUse hcursor
  | udp =>
    refine ⟨fun fuel hfuel => ?_, ?_⟩
    · rw [PortAllocator.alloc, PortAllocator.allocWith, PortAllocator.allocWith,
        udp_search_eq inUse _ hfuel, udp_search_eq inUse _ (Nat.le_refl _)]
    · rw [PortAllocator.alloc, PortAllocator.allocWith, udp_search_eq inUse _ (Nat.le_refl _)]
      exact portSound_firstInRange_iff inUse 65536 _
  | socket =>
    refine ⟨fun _ _ => rfl, ?_⟩
    rw [PortAllocator.alloc, PortAllocator.allocWith, socket_ephemeralLoop_eq]
    exact portSound_firstInRange_iff inUse 16384 _

/-! ## The lap -/

lemma socket_alloc_free (cursor : UInt16) :
    PortAllocator.socket.alloc (fun _ => false) cursor = (cursor, cursor + 1) := rfl

lemma socket_cursor_lap (n : Nat) :
    PortAllocator.socket.cursorAfter (List.replicate n fun _ => false) = ephemeralMin + UInt16.ofNat n := by
  have hrun : ∀ cursor : UInt16, (List.replicate n fun _ : UInt16 => false).foldl
      (fun cursor inUse => (PortAllocator.socket.alloc inUse cursor).2) cursor = nextPort^[n] cursor := by
    induction n with
    | zero => exact fun _ => rfl
    | succ n ih =>
      intro cursor
      rw [List.replicate_succ, List.foldl_cons, ih, socket_alloc_free, Function.iterate_succ_apply]
      rfl
  rw [PortAllocator.cursorAfter, hrun, iterate_nextPort]

lemma socket_zero {history : List (UInt16 → Bool)} (hzero : PortAllocator.socket.cursorAfter history = 0) :
    (PortAllocator.socket.alloc (fun _ => false) (PortAllocator.socket.cursorAfter history)).1 = 0 ∧
      ¬ PortSound (fun _ => false)
        (PortAllocator.socket.alloc (fun _ => false) (PortAllocator.socket.cursorAfter history)).1 := by
  rw [hzero, socket_alloc_free]
  refine ⟨rfl, fun hsound => ?_⟩
  exact absurd (hsound.2 rfl ephemeralMin (by decide)) (by decide)

/-- **A lap.**  After 16384 allocations, none of them in use any more, the answer is 0, and every port is free. -/
theorem lap_gives_zero : (PortAllocator.socket.alloc (fun _ => false)
        (PortAllocator.socket.cursorAfter (List.replicate 16384 fun _ => false))).1 = 0 ∧
      ¬ PortSound (fun _ => false) (PortAllocator.socket.alloc (fun _ => false)
        (PortAllocator.socket.cursorAfter (List.replicate 16384 fun _ => false))).1 :=
  socket_zero ((socket_cursor_lap 16384).trans (by decide))

end AAAos
