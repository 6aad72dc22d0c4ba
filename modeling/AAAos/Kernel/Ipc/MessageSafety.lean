import AAAos.Kernel.Ipc.Message
import AAAos.Lib.LinkedSegment
import AAAos.Lib.Trace

/-!
# Messages under concurrency

The sections of any number of calls interleave.  A call that has a cell in hand, between taking it
off one list and putting it on another, holds the lock of its queue: `MsgMachine.pending` says what
is to be done before the lock is dropped.  What a call saw of the process table before it took the
lock may be out of date by then, so the events carry it as a table of their own.  `msg_broadcast` is
a sequence of sends.

**Conservation.**  A cell is in the free list, in one queue, or in the hand of one call
(`MsgMachine.Layout.place`).  That this is exactly one of the three comes from a map of the cells,
`home`, that the lists agree with: moving a cell is one update of the map.

**Delivery.**  What has been sent to a queue is what was received from it followed by what its list
holds (`delivers_of_steps`).
-/

namespace AAAos

/-! ## Lists of cells -/

section

variable {pool pool' : MsgRef → Message} {p : Option MsgRef} {cells : List MsgRef} {c t : MsgRef}

/-- The `next` pointers of the pool. -/
def follow (pool : MsgRef → Message) (p : Option MsgRef) : Option MsgRef :=
  p.bind fun c => (pool c).next

/-- From `p`, the `next` pointers visit exactly these cells and end. -/
def Chain (pool : MsgRef → Message) (p : Option MsgRef) (cells : List MsgRef) : Prop :=
  Seg (follow pool) p (cells.map some) none

lemma chain_nil : Chain pool p [] ↔ p = none := Iff.rfl

lemma chain_cons : Chain pool p (c :: cells) ↔ p = some c ∧ Chain pool (pool c).next cells := Iff.rfl

lemma Chain.congr (h : Chain pool p cells) (hnext : ∀ c ∈ cells, (pool' c).next = (pool c).next) :
    Chain pool' p cells := by
  refine Seg.congr h fun x hx => ?_
  obtain ⟨c, hc, rfl⟩ := List.mem_map.mp hx
  exact hnext c hc

lemma Chain.of_some (h : Chain pool (some c) cells) : ∃ rest, cells = c :: rest ∧ Chain pool (pool c).next rest := by
  cases cells with
  | nil => cases chain_nil.mp h
  | cons d rest =>
    obtain ⟨hd, hrest⟩ := chain_cons.mp h
    obtain rfl := Option.some.inj hd
    exact ⟨rest, rfl, hrest⟩

lemma Chain.snoc (h : Chain pool p (cells ++ [t]))
    (hkeep : ∀ x ∈ cells, (pool' x).next = (pool x).next) (ht : (pool' t).next = some c)
    (hc : (pool' c).next = none) : Chain pool' p (cells ++ [t] ++ [c]) := by
  have hseg : Seg (follow pool) p (cells.map some ++ [some t]) none := by
    simpa [Chain] using h
  have hfront : Seg (follow pool') p (cells.map some ++ [some t]) (some c) := by
    refine hseg.redirect (fun x hx => ?_) ht
    obtain ⟨d, hd, rfl⟩ := List.mem_map.mp hx
    exact hkeep d hd
  have hall : Seg (follow pool') p ((cells.map some ++ [some t]) ++ [some c]) none :=
    Seg.append.mpr ⟨some c, hfront, rfl, hc⟩
  simpa [Chain] using hall

end

/-- The content of a cell: who sent it, and the payload. -/
def content (pool : MsgRef → Message) (c : MsgRef) : UInt32 × List UInt8 :=
  ((pool c).srcPid, (pool c).data)

/-- The queue is the list of these cells. -/
structure MsgQueue.Lists (queue : MsgQueue) (pool : MsgRef → Message) (cells : List MsgRef) :
    Prop where
  chain : Chain pool queue.head cells
  nodup : cells.Nodup
  tail : queue.tail = cells.getLast?
  count : queue.count = cells.length

lemma MsgQueue.Lists.congr {queue queue' : MsgQueue} {pool pool' : MsgRef → Message}
    {cells : List MsgRef} (h : queue.Lists pool cells)
    (hnext : ∀ c ∈ cells, (pool' c).next = (pool c).next) (hhead : queue'.head = queue.head)
    (htail : queue'.tail = queue.tail) (hcount : queue'.count = queue.count) :
    queue'.Lists pool' cells where
  chain := hhead ▸ h.chain.congr hnext
  nodup := h.nodup
  tail := htail ▸ h.tail
  count := hcount ▸ h.count

namespace MsgState

/-- The two states differ in their waiters only. -/
structure SameLists (s s' : MsgState) : Prop where
  pool : s'.pool = s.pool
  freeMessages : s'.freeMessages = s.freeMessages
  head : ∀ q, (s'.queues q).head = (s.queues q).head
  tail : ∀ q, (s'.queues q).tail = (s.queues q).tail
  count : ∀ q, (s'.queues q).count = (s.queues q).count

variable {s : MsgState} {procs : ProcTable} {q : QueueRef} {c : MsgRef} {cells : List MsgRef}

lemma SameLists.refl (s : MsgState) : SameLists s s := ⟨rfl, rfl, fun _ => rfl, fun _ => rfl, fun _ => rfl⟩

lemma SameLists.waiters (s : MsgState) (q : QueueRef) (ws : List ProcRef) :
    SameLists s (s.modifyQueue q fun queue => { queue with waiters := ws }) := by
  have hqueue : ∀ p, (s.modifyQueue q fun queue => { queue with waiters := ws }).queues p =
      if p = q then { s.queues q with waiters := ws } else s.queues p := by
    simp [modifyQueue, Function.update_apply]
  refine ⟨rfl, rfl, fun p => ?_, fun p => ?_, fun p => ?_⟩
  all_goals
    rw [hqueue]
    split_ifs with hp
    · rw [hp]
    · rfl

lemma msgWakeReceiver_same : SameLists s (s.msgWakeReceiver procs q).1 := by
  unfold msgWakeReceiver
  split
  · exact .refl s
  · exact .waiters s q _

lemma msgBlockReceiver_same : SameLists s (s.msgBlockReceiver procs q).1 := by
  unfold msgBlockReceiver
  split
  · exact .refl s
  · split_ifs
    · exact .waiters s q _
    · exact .refl s

lemma msgSendAlloc_ok {r : MsgRef × MsgState} (h : s.msgSendAlloc q = .ok r) :
    (s.queues q).count < msgQueueSize ∧ s.freeMessages = some r.1 ∧
      r.2.freeMessages = (s.pool r.1).next ∧ (∀ x, x ≠ r.1 → r.2.pool x = s.pool x) ∧
      r.2.queues = s.queues := by
  unfold msgSendAlloc at h
  split_ifs at h with hfull
  cases hfree : s.freeMessages with
  | none => simp [msgAlloc, hfree] at h
  | some c =>
    simp only [msgAlloc, hfree, Except.ok.injEq] at h
    subst h
    exact ⟨Nat.lt_of_not_le hfull, rfl, rfl, fun x hx => Function.update_of_ne hx _ _, rfl⟩

/-- **What `enqueue` does**: a fresh cell goes to the end of one queue. -/
lemma enqueue_lists (h : (s.queues q).Lists s.pool cells) (hc : c ∉ cells) (hnext : (s.pool c).next = none) :
    ((s.enqueue q c).queues q).Lists (s.enqueue q c).pool (cells ++ [c]) ∧
      (∀ x, x ∉ cells → (s.enqueue q c).pool x = s.pool x) ∧
      (∀ x, content (s.enqueue q c).pool x = content s.pool x) ∧
      (∀ p, p ≠ q → (s.enqueue q c).queues p = s.queues p) ∧
      (s.enqueue q c).freeMessages = s.freeMessages := by
  have hnodup : (cells ++ [c]).Nodup := by
    refine List.nodup_append.mpr ⟨h.nodup, List.nodup_singleton c, fun x hx y hy hxy => ?_⟩
    rw [List.mem_singleton.mp hy] at hxy
    exact hc (hxy ▸ hx)
  rcases List.eq_nil_or_concat cells with rfl | ⟨front, t, hcells⟩
  · -- an empty queue: the cell becomes its head
    have htail : (s.queues q).tail = none := h.tail
    have heq : s.enqueue q c = s.modifyQueue q fun queue =>
        { queue with head := some c, tail := some c, count := queue.count + 1 } := by
      simp [enqueue, htail, modifyQueue]
    rw [heq]
    refine ⟨⟨?_, hnodup, ?_, ?_⟩, fun x _ => rfl, fun x => rfl, fun p hp => ?_, rfl⟩
    · simp only [modifyQueue, Function.update_self]
      exact ⟨rfl, hnext⟩
    · simp [modifyQueue]
    · simp [modifyQueue, h.count]
    · simp [modifyQueue, Function.update_of_ne hp]
  · -- the old tail points to the cell
    rw [List.concat_eq_append] at hcells
    subst hcells
    have htail : (s.queues q).tail = some t := by simpa using h.tail
    have hct : c ≠ t := fun heq => hc (by simp [heq])
    have heq : s.enqueue q c = { s with
        pool := Function.update s.pool t { s.pool t with next := some c }
        queues := Function.update s.queues q
          { s.queues q with tail := some c, count := (s.queues q).count + 1 } } := by
      simp [enqueue, htail, modifyQueue]
    have hfront : ∀ x ∈ front, x ≠ t := by
      have := h.nodup
      rw [List.nodup_append] at this
      exact fun x hx => this.2.2 x hx t (by simp)
    rw [heq]
    refine ⟨⟨?_, hnodup, ?_, ?_⟩, fun x hx => ?_, fun x => ?_, fun p hp => ?_, rfl⟩
    · simp only [Function.update_self]
      refine h.chain.snoc (fun x hx => ?_) (by simp) ?_
      · rw [Function.update_of_ne (hfront x hx)]
      · rw [Function.update_of_ne hct, hnext]
    · simp
    · simp [h.count]
    · exact Function.update_of_ne (fun hxt => hx (by simp [hxt])) _ _
    · by_cases hx : x = t
      · subst hx
        simp [content]
      · simp [content, Function.update_of_ne hx]
    · exact Function.update_of_ne hp _ _

/-- What putting a message with this content behind a queue comes to. -/
structure Linked (s : MsgState) (q : QueueRef) (cells : List MsgRef) (c : MsgRef)
    (sent : UInt32 × List UInt8) (s' : MsgState) : Prop where
  lists : (s'.queues q).Lists s'.pool (cells ++ [c])
  pool : ∀ x, x ∉ cells → x ≠ c → s'.pool x = s.pool x
  content : ∀ x, x ≠ c → content s'.pool x = content s.pool x
  new : AAAos.content s'.pool c = sent
  other : ∀ p, p ≠ q → (s'.queues p).head = (s.queues p).head ∧
    (s'.queues p).tail = (s.queues p).tail ∧ (s'.queues p).count = (s.queues p).count
  freeMessages : s'.freeMessages = s.freeMessages

/-- **What `msg_send_flags` does with its cell.** -/
lemma msgSendLink_linked (h : (s.queues q).Lists s.pool cells) (hc : c ∉ cells)
    (srcPid destPid : UInt32) (msg : List UInt8) (flags : UInt32) :
    s.Linked q cells c (srcPid, msg) (s.msgSendLink procs q c srcPid destPid msg flags).1 := by
  unfold msgSendLink
  extract_lets filled s₁
  have hpool : ∀ x, x ≠ c → s₁.pool x = s.pool x := fun x hx => Function.update_of_ne hx _ _
  have hself : s₁.pool c = filled := Function.update_self _ _ _
  have hlists : (s₁.queues q).Lists s₁.pool cells :=
    h.congr (fun x hx => by rw [hpool x fun hxc => hc (hxc ▸ hx)]) rfl rfl rfl
  obtain ⟨hqueue, houtside, hcontent, hother, hfree⟩ :=
    enqueue_lists hlists hc (by rw [hself])
  have hsame := @msgWakeReceiver_same (s₁.enqueue q c) procs q
  refine ⟨?_, fun x hx hxc => ?_, fun x hxc => ?_, ?_, fun p hp => ?_, ?_⟩
  · exact hqueue.congr (fun x _ => by rw [hsame.pool]) (hsame.head q) (hsame.tail q) (hsame.count q)
  · rw [hsame.pool, houtside x hx, hpool x hxc]
  · rw [hsame.pool, hcontent, AAAos.content, hpool x hxc]
    rfl
  · rw [hsame.pool, hcontent, AAAos.content, hself]
  · rw [hsame.head, hsame.tail, hsame.count, hother p hp]
    exact ⟨rfl, rfl, rfl⟩
  · rw [hsame.freeMessages, hfree]

/-- **What `dequeue` does**: the first cell leaves the queue. -/
lemma dequeue_lists {rest : List MsgRef} (h : (s.queues q).Lists s.pool (c :: rest)) :
    ((s.dequeue q c).queues q).Lists s.pool rest ∧ ∀ p, p ≠ q → (s.dequeue q c).queues p = s.queues p := by
  obtain ⟨-, hchain⟩ := chain_cons.mp h.chain
  refine ⟨⟨?_, (List.nodup_cons.mp h.nodup).2, ?_, ?_⟩, fun p hp => Function.update_of_ne hp _ _⟩
  · simpa [dequeue, modifyQueue] using hchain
  · simp only [dequeue, modifyQueue, Function.update_self, h.tail]
    cases rest with
    | nil => simp [(chain_nil.mp hchain)]
    | cons d rest => rw [if_neg (by simp [(chain_cons.mp hchain).1]), List.getLast?_cons_cons]
  · simp [dequeue, modifyQueue, h.count]

end MsgState

/-! ## The machine -/

/-- What a call holding the lock of a queue has still to do. -/
inductive Pending
  | link (c : MsgRef) (srcPid destPid : UInt32) (msg : List UInt8) (flags : UInt32)
  | free (c : MsgRef)

/-- The cell in the hand of the call. -/
def Pending.cell : Pending → MsgRef
  | .link c _ _ _ _ => c
  | .free c => c

/-- The messages, the processes, and the sections in progress.  `sent` and `received` are not in
the code: what was put into each queue, and what was delivered from it. -/
structure MsgMachine where
  msgs : MsgState := MsgState.msgInit
  procs : ProcTable
  pending : QueueRef → Option Pending := fun _ => none
  sent : QueueRef → List (UInt32 × List UInt8) := fun _ => []
  received : QueueRef → List Delivery := fun _ => []

/-- What may happen next.  `view` is the process table as the call saw it. -/
inductive MsgEvent
  | send (view : ProcTable) (destPid : UInt32) (msg : List UInt8) (flags : UInt32)
  | link (q : QueueRef)
  | receive (view : ProcTable) (maxLen : Nat) (blocking : Bool)
  | free (q : QueueRef)
  | peek (view : ProcTable) (maxLen : Nat)
  | procs (t : ProcTable)

namespace MsgMachine

/-- The send has its cell. -/
def allocated (m : MsgMachine) (q : QueueRef) (r : MsgRef × MsgState) (srcPid destPid : UInt32)
    (msg : List UInt8) (flags : UInt32) : MsgMachine :=
  { m with
    msgs := r.2
    pending := Function.update m.pending q (some (.link r.1 srcPid destPid msg flags)) }

/-- The send links its cell and drops the lock. -/
def linked (m : MsgMachine) (q : QueueRef) (c : MsgRef) (srcPid destPid : UInt32)
    (msg : List UInt8) (flags : UInt32) : MsgMachine :=
  let r := m.msgs.msgSendLink m.procs q c srcPid destPid msg flags
  { m with
    msgs := r.1
    procs := r.2
    pending := Function.update m.pending q none
    sent := Function.update m.sent q (m.sent q ++ [(srcPid, msg)]) }

/-- The receive has looked at the queue. -/
def looked (m : MsgMachine) (q : QueueRef) (r : Taken × MsgState × ProcTable) : MsgMachine :=
  match r.1 with
  | .taken c d =>
    { m with
      msgs := r.2.1
      procs := r.2.2
      pending := Function.update m.pending q (some (.free c))
      received := Function.update m.received q (m.received q ++ [d]) }
  | _ => { m with msgs := r.2.1, procs := r.2.2 }

/-- The receive gives its cell back and drops the lock. -/
def freed (m : MsgMachine) (q : QueueRef) (c : MsgRef) : MsgMachine :=
  { m with msgs := m.msgs.msgFree c, pending := Function.update m.pending q none }

/-- The error a send returns, if it does. -/
def sendError (m : MsgMachine) (view : ProcTable) (destPid : UInt32) (msg : List UInt8) :
    Option Int :=
  match MsgState.msgSendCheck view destPid msg with
  | .error e => some e
  | .ok (_, q) =>
    match m.msgs.msgSendAlloc q with
    | .error e => some e
    | .ok _ => none

/-- One step of the messages.  A section begins only when no other one holds the queue's lock. -/
def Step (m : MsgMachine) : MsgEvent → MsgMachine → Prop
  | .send view destPid msg flags, m' =>
    match MsgState.msgSendCheck view destPid msg with
    | .error _ => m' = m
    | .ok (srcPid, q) => m.pending q = none ∧
        match m.msgs.msgSendAlloc q with
        | .error _ => m' = m
        | .ok r => m' = m.allocated q r srcPid destPid msg flags
  | .link q, m' => ∃ c srcPid destPid msg flags,
      m.pending q = some (.link c srcPid destPid msg flags) ∧ m' = m.linked q c srcPid destPid msg flags
  | .receive view maxLen blocking, m' =>
    match MsgState.msgReceiveQueue view with
    | .error _ => m' = m
    | .ok q => m.pending q = none ∧
        m' = m.looked q (m.msgs.msgReceiveTake m.procs q maxLen blocking)
  | .free q, m' => ∃ c, m.pending q = some (.free c) ∧ m' = m.freed q c
  | .peek view _, m' => m' = m ∧ ∀ q, MsgState.msgReceiveQueue view = .ok q → m.pending q = none
  | .procs t, m' => m' = { m with procs := t }

end MsgMachine

/-! ## Where the cells are -/

/-- Where a cell is: in the free list, in a queue, or in the hand of the call that holds the lock of
a queue. -/
inductive Place
  | free
  | queue (q : QueueRef)
  | hand (q : QueueRef)
  deriving DecidableEq

/-- A delivery of a message, cut to the receiver's length. -/
def Delivers (sent : UInt32 × List UInt8) (got : Delivery) : Prop :=
  got.srcPid = sent.1 ∧ got.bytes = sent.2.take got.maxLen

namespace MsgMachine

/-- The cells of the free list, of the queues, and in the hands of calls.  `home` is the map of the
cells. -/
structure Layout (m : MsgMachine) (home : MsgRef → Place) (free : List MsgRef)
    (lists : QueueRef → List MsgRef) : Prop where
  free_chain : Chain m.msgs.pool m.msgs.freeMessages free
  free_nodup : free.Nodup
  free_home : ∀ c, c ∈ free ↔ home c = .free
  queue : ∀ q, (m.msgs.queues q).Lists m.msgs.pool (lists q)
  queue_home : ∀ q c, c ∈ lists q ↔ home c = .queue q
  hand_home : ∀ q c, (∃ w, m.pending q = some w ∧ w.cell = c) ↔ home c = .hand q
  room : ∀ q, (m.msgs.queues q).count ≤ msgQueueSize ∧
    ∀ c srcPid destPid msg flags, m.pending q = some (.link c srcPid destPid msg flags) →
      (m.msgs.queues q).count < msgQueueSize
  fifo : ∀ q, ∃ delivered, m.sent q = delivered ++ (lists q).map (content m.msgs.pool) ∧
    List.Forall₂ Delivers delivered (m.received q)

variable {m m' : MsgMachine} {home : MsgRef → Place} {free : List MsgRef}
  {lists : QueueRef → List MsgRef} {q : QueueRef} {c : MsgRef}

/-- The free list after `msg_init`, from cell `i` on. -/
lemma chain_init (n i : Nat) (h : i + n = msgPoolSize) :
    ∃ cells : List MsgRef, Chain MsgState.msgInit.pool (if h : i < msgPoolSize then some ⟨i, h⟩ else none)
      cells ∧ cells.map Fin.val = List.range' i n := by
  induction n generalizing i with
  | zero =>
    refine ⟨[], ?_, rfl⟩
    rw [chain_nil, dif_neg (by omega)]
  | succ n ih =>
    obtain ⟨cells, hchain, hval⟩ := ih (i + 1) (by omega)
    have hi : i < msgPoolSize := by omega
    refine ⟨⟨i, hi⟩ :: cells, ?_, by simp [hval, List.range'_succ]⟩
    rw [dif_pos hi]
    exact ⟨rfl, hchain⟩

lemma layout_init (procs : ProcTable) : ∃ free, Layout { procs := procs } (fun _ => .free) free fun _ => [] := by
  obtain ⟨free, hchain, hval⟩ := chain_init msgPoolSize 0 (by decide)
  have hnodup : free.Nodup := by
    have : (free.map Fin.val).Nodup := by
      rw [hval]
      exact List.nodup_range'
    exact this.of_map
  have hmem : ∀ c, c ∈ free := by
    intro c
    have : c.val ∈ free.map Fin.val := by
      rw [hval, List.mem_range'_1]
      omega
    obtain ⟨d, hd, hdc⟩ := List.mem_map.mp this
    exact Fin.ext hdc ▸ hd
  refine ⟨free, hchain, hnodup, fun c => by simp [hmem c], fun q => ⟨rfl, .nil, rfl, rfl⟩,
    fun q c => by simp, fun q c => by simp, fun q => ⟨by simp [MsgState.msgInit], nofun⟩,
    fun q => ⟨[], rfl, .nil⟩⟩

/-! ## Moving a cell -/

section

variable {A B : MsgRef → Prop} {P P' : Place}

/-- Where neither the old nor the new place of the cell is `P`. -/
lemma home_keep (h : ∀ x, A x ↔ home x = P) (hc : home c ≠ P) (hne : P' ≠ P) (x : MsgRef) :
    A x ↔ Function.update home c P' x = P := by
  rw [h, Function.update_apply]
  split_ifs with hx
  · rw [hx]
    exact iff_of_false hc hne
  · rfl

lemma home_leave (h : ∀ x, A x ↔ home x = P) (hB : ∀ x, B x ↔ A x ∧ x ≠ c) (hne : P' ≠ P)
    (x : MsgRef) : B x ↔ Function.update home c P' x = P := by
  rw [hB, h, Function.update_apply]
  split_ifs with hx
  · exact iff_of_false (fun hand => hand.2 hx) hne
  · exact and_iff_left hx

lemma home_enter (h : ∀ x, A x ↔ home x = P) (hB : ∀ x, B x ↔ A x ∨ x = c) (x : MsgRef) :
    B x ↔ Function.update home c P x = P := by
  rw [hB, h, Function.update_apply]
  split_ifs with hx
  · exact iff_of_true (.inr hx) rfl
  · exact or_iff_left hx

end

lemma Layout.hand_taken (h : m.Layout home free lists) (hq : m.pending q = none) (w : Pending)
    (hc : ∀ p, home w.cell ≠ .hand p) (p : QueueRef) (x : MsgRef) :
    (∃ v, Function.update m.pending q (some w) p = some v ∧ v.cell = x) ↔
      Function.update home w.cell (.hand q) x = .hand p := by
  by_cases hp : p = q
  · subst hp
    refine home_enter (B := fun x => ∃ v, Function.update m.pending p (some w) p = some v ∧ v.cell = x)
      (h.hand_home p) (fun y => ?_) x
    simp [hq, eq_comm]
  · rw [Function.update_of_ne hp]
    exact home_keep (h.hand_home p) (hc p) (by simpa [eq_comm] using hp) x

lemma Layout.hand_given (h : m.Layout home free lists) {w : Pending} (hq : m.pending q = some w)
    {P : Place} (hP : ∀ p, P ≠ .hand p) (p : QueueRef) (x : MsgRef) :
    (∃ v, Function.update m.pending q none p = some v ∧ v.cell = x) ↔ Function.update home w.cell P x = .hand p := by
  have hhome : home w.cell = .hand q := (h.hand_home q w.cell).mp ⟨w, hq, rfl⟩
  by_cases hp : p = q
  · subst hp
    refine home_leave (B := fun x => ∃ v, Function.update m.pending p none p = some v ∧ v.cell = x)
      (h.hand_home p) (fun y => ?_) (hP p) x
    simp [hq, eq_comm]
  · rw [Function.update_of_ne hp]
    refine home_keep (h.hand_home p) ?_ (hP p) x
    rw [hhome]
    simpa [eq_comm] using hp

lemma Layout.not_mem (h : m.Layout home free lists) {P : Place} (hc : home c = P)
    (hP : ∀ p, P ≠ .queue p) (p : QueueRef) : c ∉ lists p := by
  intro hin
  exact hP p (hc.symm.trans ((h.queue_home p c).mp hin))

lemma contents_congr {pool pool' : MsgRef → Message} {cells : List MsgRef}
    (h : ∀ x ∈ cells, content pool' x = content pool x) :
    cells.map (content pool') = cells.map (content pool) :=
  List.map_congr_left h

lemma Layout.same (h : m.Layout home free lists) (hsame : m.msgs.SameLists m'.msgs)
    (hpending : m'.pending = m.pending) (hsent : m'.sent = m.sent)
    (hreceived : m'.received = m.received) : m'.Layout home free lists where
  free_chain := by
    rw [hsame.pool, hsame.freeMessages]
    exact h.free_chain
  free_nodup := h.free_nodup
  free_home := h.free_home
  queue := fun q => (h.queue q).congr (fun _ _ => by rw [hsame.pool]) (hsame.head q) (hsame.tail q)
    (hsame.count q)
  queue_home := h.queue_home
  hand_home := by
    rw [hpending]
    exact h.hand_home
  room := by
    intro q
    rw [hpending, hsame.count]
    exact h.room q
  fifo := by
    intro q
    rw [hsent, hreceived, hsame.pool]
    exact h.fifo q

lemma Layout.allocated (h : m.Layout home free lists) (hq : m.pending q = none)
    {r : MsgRef × MsgState} (hr : m.msgs.msgSendAlloc q = .ok r) (srcPid destPid : UInt32)
    (msg : List UInt8) (flags : UInt32) :
    ∃ rest, (m.allocated q r srcPid destPid msg flags).Layout
      (Function.update home r.1 (.hand q)) rest lists := by
  obtain ⟨hroom, hfree, hnext, hpool, hqueues⟩ := MsgState.msgSendAlloc_ok hr
  obtain ⟨rest, rfl, hrest⟩ := (hfree ▸ h.free_chain).of_some
  obtain ⟨hnot, hnodup⟩ := List.nodup_cons.mp h.free_nodup
  have hhome : home r.1 = .free := (h.free_home r.1).mp List.mem_cons_self
  have hkeep : ∀ p, ∀ x ∈ lists p, r.2.pool x = m.msgs.pool x := fun p x hx =>
    hpool x fun hxc => h.not_mem hhome (by simp) p (hxc ▸ hx)
  refine ⟨rest, ⟨?_, hnodup, ?_, fun p => ?_, fun p => ?_, ?_, fun p => ?_, fun p => ?_⟩⟩
  · show Chain r.2.pool r.2.freeMessages rest
    rw [hnext]
    exact hrest.congr fun x hx => by rw [hpool x fun hxc => hnot (hxc ▸ hx)]
  · refine home_leave h.free_home (fun x => ⟨fun hx => ?_, fun hx => ?_⟩) (by simp)
    · exact ⟨List.mem_cons_of_mem _ hx, fun hxc => hnot (hxc ▸ hx)⟩
    · exact (List.mem_cons.mp hx.1).resolve_left hx.2
  · show (r.2.queues p).Lists r.2.pool (lists p)
    rw [hqueues]
    exact (h.queue p).congr (fun x hx => by rw [hkeep p x hx]) rfl rfl rfl
  · exact home_keep (h.queue_home p) (by simp [hhome]) (by simp)
  · exact h.hand_taken hq (.link r.1 srcPid destPid msg flags) (by simp [Pending.cell, hhome])
  · show (r.2.queues p).count ≤ _ ∧ ∀ d src dest ms fl, Function.update m.pending q _ p = _ → (r.2.queues p).count < _
    rw [hqueues]
    refine ⟨(h.room p).1, fun d src dest ms fl hd => ?_⟩
    by_cases hp : p = q
    · subst hp
      exact hroom
    · rw [Function.update_of_ne hp] at hd
      exact (h.room p).2 d src dest ms fl hd
  · obtain ⟨delivered, hsent, hall⟩ := h.fifo p
    refine ⟨delivered, hsent.trans ?_, hall⟩
    congr 1
    exact (contents_congr fun x hx => by rw [content, content, ← hkeep p x hx]; rfl).symm

lemma Layout.linked (h : m.Layout home free lists) {srcPid destPid : UInt32} {msg : List UInt8}
    {flags : UInt32} (hq : m.pending q = some (.link c srcPid destPid msg flags)) :
    (m.linked q c srcPid destPid msg flags).Layout (Function.update home c (.queue q)) free
      (Function.update lists q (lists q ++ [c])) := by
  have hhome : home c = .hand q := (h.hand_home q c).mp ⟨_, hq, rfl⟩
  have hnot := h.not_mem hhome (by simp)
  have hlink := @MsgState.msgSendLink_linked m.msgs m.procs q c (lists q) (h.queue q) (hnot q)
    srcPid destPid msg flags
  obtain ⟨r, hr⟩ : ∃ r, m.msgs.msgSendLink m.procs q c srcPid destPid msg flags = r := ⟨_, rfl⟩
  simp only [MsgMachine.linked, hr] at hlink ⊢
  have hfree : ∀ x ∈ free, r.1.pool x = m.msgs.pool x := by
    intro x hx
    have hx' := (h.free_home x).mp hx
    refine hlink.pool x (h.not_mem hx' (by simp) q) fun hxc => ?_
    rw [hxc, hhome] at hx'
    cases hx'
  have hother : ∀ p, p ≠ q → ∀ x ∈ lists p, r.1.pool x = m.msgs.pool x := by
    intro p hp x hx
    have hx' := (h.queue_home p x).mp hx
    refine hlink.pool x (fun hin => hp ?_) fun hxc => ?_
    · exact Place.queue.inj (hx'.symm.trans ((h.queue_home q x).mp hin))
    · rw [hxc, hhome] at hx'
      cases hx'
  refine ⟨?_, h.free_nodup, ?_, fun p => ?_, fun p => ?_, ?_, fun p => ?_, fun p => ?_⟩
  · rw [hlink.freeMessages]
    exact h.free_chain.congr fun x hx => by rw [hfree x hx]
  · exact home_keep h.free_home (by simp [hhome]) (by simp)
  · by_cases hp : p = q
    · subst hp
      rw [Function.update_self]
      exact hlink.lists
    · rw [Function.update_of_ne hp]
      obtain ⟨hhead, htail, hcount⟩ := hlink.other p hp
      exact (h.queue p).congr (fun x hx => by rw [hother p hp x hx]) hhead htail hcount
  · by_cases hp : p = q
    · subst hp
      exact home_enter (h.queue_home p) (fun x => by simp)
    · rw [Function.update_of_ne hp]
      exact home_keep (h.queue_home p) (by simp [hhome]) (by simpa [eq_comm] using hp)
  · exact h.hand_given hq (by simp)
  · show (r.1.queues p).count ≤ _ ∧ ∀ d src dest ms fl, Function.update m.pending q none p = _ →
      (r.1.queues p).count < _
    by_cases hp : p = q
    · subst hp
      have hroom := (h.room p).2 _ _ _ _ _ hq
      have hold := (h.queue p).count
      have hnew := hlink.lists.count
      rw [List.length_append, List.length_singleton] at hnew
      exact ⟨by omega, by simp⟩
    · rw [(hlink.other p hp).2.2, Function.update_of_ne hp]
      exact h.room p
  · show ∃ delivered, Function.update m.sent q (m.sent q ++ [(srcPid, msg)]) p = delivered ++
      (Function.update lists q (lists q ++ [c]) p).map (content r.1.pool) ∧ _
    obtain ⟨delivered, hsent, hall⟩ := h.fifo p
    refine ⟨delivered, ?_, hall⟩
    by_cases hp : p = q
    · subst hp
      have hsame : (lists p).map (content r.1.pool) = (lists p).map (content m.msgs.pool) :=
        contents_congr fun x hx => hlink.content x fun hxc => hnot p (hxc ▸ hx)
      rw [Function.update_self, Function.update_self, List.map_append, hsame, hsent,
        List.append_assoc, List.map_singleton, hlink.new]
    · have hsame : (lists p).map (content r.1.pool) = (lists p).map (content m.msgs.pool) :=
        contents_congr fun x hx => hlink.content x fun hxc => hnot p (hxc ▸ hx)
      rw [Function.update_of_ne hp, Function.update_of_ne hp, hsame, hsent]

lemma Layout.taken (h : m.Layout home free lists) (hq : m.pending q = none)
    (hcount : (m.msgs.queues q).count ≠ 0) (hhead : (m.msgs.queues q).head = some c)
    (maxLen : Nat) (procs : ProcTable) :
    ∃ rest, lists q = c :: rest ∧
      (m.looked q (.taken c ((m.msgs.pool c).deliver maxLen), m.msgs.dequeue q c, procs)).Layout
        (Function.update home c (.hand q)) free (Function.update lists q rest) := by
  obtain ⟨rest, hlists, -⟩ := (hhead ▸ (h.queue q).chain).of_some
  have hqueue := hlists ▸ h.queue q
  obtain ⟨hnot, -⟩ := List.nodup_cons.mp hqueue.nodup
  obtain ⟨htaken, hother⟩ := MsgState.dequeue_lists hqueue
  have hhome : home c = .queue q := (h.queue_home q c).mp (by simp [hlists])
  refine ⟨rest, hlists, ⟨h.free_chain, h.free_nodup, ?_, fun p => ?_, fun p => ?_, ?_, fun p => ?_,
    fun p => ?_⟩⟩
  · exact home_keep h.free_home (by simp [hhome]) (by simp)
  · show ((m.msgs.dequeue q c).queues p).Lists m.msgs.pool (Function.update lists q rest p)
    by_cases hp : p = q
    · subst hp
      rwa [Function.update_self]
    · rw [Function.update_of_ne hp, hother p hp]
      exact h.queue p
  · by_cases hp : p = q
    · subst hp
      rw [Function.update_self]
      refine home_leave (h.queue_home p) (fun x => ⟨fun hx => ?_, fun hx => ?_⟩) (by simp)
      · exact ⟨hlists ▸ List.mem_cons_of_mem c hx, fun hxc => hnot (hxc ▸ hx)⟩
      · exact (List.mem_cons.mp (hlists ▸ hx.1)).resolve_left hx.2
    · rw [Function.update_of_ne hp]
      refine home_keep (h.queue_home p) ?_ (by simp)
      rw [hhome]
      simpa [eq_comm] using hp
  · exact h.hand_taken hq (.free c) (by simp [Pending.cell, hhome])
  · show ((m.msgs.dequeue q c).queues p).count ≤ _ ∧ ∀ d src dest ms fl,
      Function.update m.pending q (some (.free c)) p = _ → ((m.msgs.dequeue q c).queues p).count < _
    by_cases hp : p = q
    · subst hp
      have hle := (h.room p).1
      have hold := hqueue.count
      have hnew := htaken.count
      rw [List.length_cons] at hold
      exact ⟨by omega, by simp⟩
    · rw [Function.update_of_ne hp, hother p hp]
      exact h.room p
  · show ∃ delivered, m.sent p = delivered ++
      (Function.update lists q rest p).map (content m.msgs.pool) ∧ List.Forall₂ Delivers delivered
        (Function.update m.received q (m.received q ++ [(m.msgs.pool c).deliver maxLen]) p)
    obtain ⟨delivered, hsent, hall⟩ := h.fifo p
    by_cases hp : p = q
    · subst hp
      refine ⟨delivered ++ [content m.msgs.pool c], ?_, ?_⟩
      · rw [Function.update_self, hsent, hlists, List.append_assoc]
        rfl
      · rw [Function.update_self]
        refine List.rel_append hall (.cons ⟨rfl, ?_⟩ .nil)
        simp [Message.deliver, content, min_comm]
    · rw [Function.update_of_ne hp, Function.update_of_ne hp]
      exact ⟨delivered, hsent, hall⟩

lemma Layout.freed (h : m.Layout home free lists) (hq : m.pending q = some (.free c)) :
    (m.freed q c).Layout (Function.update home c .free) (c :: free) lists := by
  have hhome : home c = .hand q := (h.hand_home q c).mp ⟨_, hq, rfl⟩
  have hnot : c ∉ free := by
    intro hin
    have := (h.free_home c).mp hin
    rw [hhome] at this
    cases this
  have hpool : ∀ x, x ≠ c → (m.msgs.msgFree c).pool x = m.msgs.pool x :=
    fun x hx => Function.update_of_ne hx _ _
  have hkeep : ∀ p, ∀ x ∈ lists p, (m.msgs.msgFree c).pool x = m.msgs.pool x := fun p x hx =>
    hpool x fun hxc => h.not_mem hhome (by simp) p (hxc ▸ hx)
  refine ⟨?_, List.nodup_cons.mpr ⟨hnot, h.free_nodup⟩, ?_, fun p => ?_, fun p => ?_, ?_, fun p => ?_,
    fun p => ?_⟩
  · refine chain_cons.mpr ⟨rfl, ?_⟩
    have hself : ((m.msgs.msgFree c).pool c).next = m.msgs.freeMessages := by
      simp [MsgState.msgFree]
    show Chain (m.msgs.msgFree c).pool ((m.msgs.msgFree c).pool c).next free
    rw [hself]
    exact h.free_chain.congr fun x hx => by rw [hpool x fun hxc => hnot (hxc ▸ hx)]
  · exact home_enter h.free_home (fun x => by rw [List.mem_cons, or_comm])
  · exact (h.queue p).congr (fun x hx => congrArg Message.next (hkeep p x hx)) rfl rfl rfl
  · exact home_keep (h.queue_home p) (by simp [hhome]) (by simp)
  · exact h.hand_given hq (by simp)
  · refine ⟨(h.room p).1, fun d src dest ms fl hd => ?_⟩
    simp only [MsgMachine.freed] at hd
    by_cases hp : p = q
    · subst hp
      simp at hd
    · rw [Function.update_of_ne hp] at hd
      exact (h.room p).2 d src dest ms fl hd
  · obtain ⟨delivered, hsent, hall⟩ := h.fifo p
    refine ⟨delivered, hsent.trans ?_, hall⟩
    congr 1
    exact (contents_congr fun x hx => by rw [content, content, ← hkeep p x hx]; rfl).symm

/-- What a send does up to its cell: it returns an error and changes nothing, or has a cell. -/
lemma step_send {view : ProcTable} {destPid : UInt32} {msg : List UInt8} {flags : UInt32}
    (hs : m.Step (.send view destPid msg flags) m') :
    (∃ e, m.sendError view destPid msg = some e ∧ m' = m) ∨
      ∃ srcPid q r, m.sendError view destPid msg = none ∧ m.pending q = none ∧
        m.msgs.msgSendAlloc q = .ok r ∧ m' = m.allocated q r srcPid destPid msg flags := by
  simp only [Step] at hs
  cases hcheck : MsgState.msgSendCheck view destPid msg with
  | error e =>
    rw [hcheck] at hs
    exact .inl ⟨e, by rw [sendError, hcheck], hs⟩
  | ok r =>
    obtain ⟨srcPid, q⟩ := r
    rw [hcheck] at hs
    obtain ⟨hq, hs⟩ := hs
    cases halloc : m.msgs.msgSendAlloc q with
    | error e =>
      rw [halloc] at hs
      exact .inl ⟨e, by rw [sendError, hcheck]; simp [halloc], hs⟩
    | ok r =>
      rw [halloc] at hs
      exact .inr ⟨srcPid, q, r, by rw [sendError, hcheck]; simp [halloc], hq, halloc, hs⟩

lemma step_receive {view : ProcTable} {maxLen : Nat} {blocking : Bool}
    (hs : m.Step (.receive view maxLen blocking) m') :
    m' = m ∨ (∃ q, m' = { m with
        msgs := (m.msgs.msgBlockReceiver m.procs q).1
        procs := (m.msgs.msgBlockReceiver m.procs q).2 }) ∨
      ∃ q c, m.pending q = none ∧ (m.msgs.queues q).count ≠ 0 ∧ (m.msgs.queues q).head = some c ∧
        m' = m.looked q (.taken c ((m.msgs.pool c).deliver maxLen), m.msgs.dequeue q c, m.procs) := by
  simp only [Step] at hs
  cases hqueue : MsgState.msgReceiveQueue view with
  | error e =>
    rw [hqueue] at hs
    exact .inl hs
  | ok q =>
    rw [hqueue] at hs
    obtain ⟨hq, rfl⟩ := hs
    unfold MsgState.msgReceiveTake
    by_cases hcount : (m.msgs.queues q).count = 0
    · rw [if_pos hcount]
      cases blocking with
      | true => exact .inr (.inl ⟨q, rfl⟩)
      | false => exact .inl rfl
    · rw [if_neg hcount]
      cases hhead : (m.msgs.queues q).head with
      | none => exact .inl rfl
      | some c => exact .inr (.inr ⟨q, c, hq, hcount, hhead, rfl⟩)

/-- The lists of some layout: what every step keeps. -/
def Inv (m : MsgMachine) : Prop := ∃ home free lists, m.Layout home free lists

lemma Inv.step (h : m.Inv) {e : MsgEvent} (hs : m.Step e m') : m'.Inv := by
  obtain ⟨home, free, lists, h⟩ := h
  cases e with
  | send view destPid msg flags =>
    obtain ⟨-, -, rfl⟩ | ⟨srcPid, q, r, -, hq, halloc, rfl⟩ := step_send hs
    · exact ⟨home, free, lists, h⟩
    · obtain ⟨rest, h'⟩ := h.allocated hq halloc srcPid destPid msg flags
      exact ⟨_, rest, lists, h'⟩
  | link q =>
    obtain ⟨c, srcPid, destPid, msg, flags, hq, rfl⟩ := hs
    exact ⟨_, _, _, h.linked hq⟩
  | receive view maxLen blocking =>
    obtain rfl | ⟨q, rfl⟩ | ⟨q, c, hq, hcount, hhead, rfl⟩ := step_receive hs
    · exact ⟨home, free, lists, h⟩
    · exact ⟨home, free, lists, h.same MsgState.msgBlockReceiver_same rfl rfl rfl⟩
    · obtain ⟨rest, -, h'⟩ := h.taken hq hcount hhead maxLen m.procs
      exact ⟨_, _, _, h'⟩
  | free q =>
    obtain ⟨c, hq, rfl⟩ := hs
    exact ⟨_, _, _, h.freed hq⟩
  | peek view maxLen =>
    obtain ⟨rfl, -⟩ := hs
    exact ⟨home, free, lists, h⟩
  | procs t =>
    obtain rfl := hs
    exact ⟨home, free, lists, h.same (.refl _) rfl rfl rfl⟩

lemma inv_of_steps {procs : ProcTable} {es : List MsgEvent} (hrun : Steps Step { procs := procs } es m) : m.Inv := by
  refine hrun.invariant (fun _ _ _ hs hst => hs.step hst) ?_
  obtain ⟨free, hinit⟩ := layout_init procs
  exact ⟨_, free, _, hinit⟩

/-- A cell is at a place: in the free list, in a queue, or in the hand of the call that holds the
queue's lock. -/
def IsAt (m : MsgMachine) (free : List MsgRef) (lists : QueueRef → List MsgRef) (c : MsgRef) :
    Place → Prop
  | .free => c ∈ free
  | .queue q => c ∈ lists q
  | .hand q => ∃ w, m.pending q = some w ∧ w.cell = c

/-- The messages are conserved and delivered in order: the free list and the queues are chains of
cells, each cell is at exactly one place, each queue has `count` cells of which the last is its
tail, and what was sent to a queue is what was received from it and then what it holds.  A cell is
in a hand only inside a section: when nobody holds a lock, it is in the free list or in one queue. -/
structure Delivered (m : MsgMachine) (free : List MsgRef) (lists : QueueRef → List MsgRef) : Prop where
  free_chain : Chain m.msgs.pool m.msgs.freeMessages free ∧ free.Nodup
  queue_chain : ∀ q, Chain m.msgs.pool (m.msgs.queues q).head (lists q) ∧ (lists q).Nodup
  place : ∀ c, ∃! place, m.IsAt free lists c place
  settled : (∀ q, m.pending q = none) → ∀ c, Xor (c ∈ free) (∃! q, c ∈ lists q)
  count : ∀ q, (m.msgs.queues q).count = (lists q).length ∧ (lists q).length ≤ msgQueueSize
  tail : ∀ q, (m.msgs.queues q).tail = (lists q).getLast?
  fifo : ∀ q, ∃ delivered, m.sent q = delivered ++ (lists q).map (content m.msgs.pool) ∧
    List.Forall₂ Delivers delivered (m.received q)

/-- When no call is inside a section, a cell is in the free list or in exactly one queue. -/
lemma Layout.settled (h : m.Layout home free lists) (hidle : ∀ q, m.pending q = none) (c : MsgRef) :
    Xor (c ∈ free) (∃! q, c ∈ lists q) := by
  have hqueue : ∀ q, c ∈ lists q ↔ home c = .queue q := fun q => h.queue_home q c
  rw [h.free_home c]
  simp only [hqueue]
  cases hc : home c with
  | free => exact .inl ⟨rfl, by simp⟩
  | queue q => exact .inr ⟨⟨q, rfl, fun p hp => (Place.queue.inj hp).symm⟩, by simp⟩
  | hand q =>
    obtain ⟨w, hw, -⟩ := (h.hand_home q c).mpr hc
    rw [hidle q] at hw
    cases hw

lemma Layout.delivered (h : m.Layout home free lists) : m.Delivered free lists where
  free_chain := ⟨h.free_chain, h.free_nodup⟩
  queue_chain := fun q => ⟨(h.queue q).chain, (h.queue q).nodup⟩
  settled := h.settled
  place := by
    have hat : ∀ c place, m.IsAt free lists c place ↔ home c = place := by
      intro c place
      cases place with
      | free => exact h.free_home c
      | queue q => exact h.queue_home q c
      | hand q => exact h.hand_home q c
    exact fun c => ⟨home c, (hat c _).mpr rfl, fun place hplace => ((hat c place).mp hplace).symm⟩
  count := fun q => ⟨(h.queue q).count, (h.queue q).count ▸ (h.room q).1⟩
  tail := fun q => (h.queue q).tail
  fifo := h.fifo

/-- **Messages are delivered exactly once and in order**, and no cell is lost, in every state that
any interleaving of calls reaches; and a send that returns an error changes nothing. -/
theorem delivers_of_steps {procs : ProcTable} {es : List MsgEvent} (hrun : Steps Step { procs := procs } es m) :
    (∃ free lists, m.Delivered free lists) ∧ ∀ view destPid msg flags m', m.Step (.send view destPid msg flags) m' →
        m.sendError view destPid msg ≠ none → m' = m := by
  obtain ⟨home, free, lists, h⟩ := inv_of_steps hrun
  refine ⟨⟨free, lists, h.delivered⟩, fun view destPid msg flags m' hs herror => ?_⟩
  obtain ⟨-, -, heq⟩ | ⟨-, -, -, hnone, -⟩ := step_send hs
  · exact heq
  · exact absurd hnone herror

/-- A process with PID 1 is sent three bytes and receives two of them. -/
theorem delivers_of_short_run : let view : ProcTable :=
      { table := fun p => if p = 0 then { pid := 1, state := .running } else {}
        current := some 0
        pmm := ⟨fun _ => 0, 0, 0⟩ }
    ∃ m, Steps Step { procs := view }
      [.send view 1 [7, 8, 9] 0, .link 1, .receive view 2 false, .free 1] m ∧
      m.received 1 = [⟨1, 2, [7, 8]⟩] ∧ ∃ free lists, m.Delivered free lists := by
  intro view
  have hrun : Steps Step { procs := view }
      [.send view 1 [7, 8, 9] 0, .link 1, .receive view 2 false, .free 1] _ :=
    .cons ⟨rfl, rfl⟩ (.cons ⟨_, _, _, _, _, rfl, rfl⟩ (.cons ⟨rfl, rfl⟩ (.cons ⟨_, rfl, rfl⟩ (.nil _))))
  exact ⟨_, hrun, rfl, (delivers_of_steps hrun).1⟩

end MsgMachine

end AAAos
