import AAAos.Kernel.Ipc.MessageSafety

/-!
# Who can be sent a message

**PIDs and queues.**  Queues are indexed by PID and there are 256 of them; PIDs come from a counter
that only goes up.  A process whose PID is 256 or more is found by `process_get_by_pid`, has no
queue, and is not reached by `msg_broadcast`, whose loop ends at 255.  `messageable_iff` says that
this is the only obstacle, but for a sender that has the same PID as the receiver.
-/

namespace AAAos

open MsgState

/-! ## Sending to a process -/

namespace MsgState

variable {s : MsgState} {procs : ProcTable} {pid : UInt32} {p : ProcRef} {q : QueueRef}
  {msg : List UInt8} {cells : List MsgRef}

/-- What the current process receives with up to `k` calls of `msg_try_receive_from`. -/
def receives (procs : ProcTable) (maxLen : Nat) : Nat → MsgState → List Delivery
  | 0, _ => []
  | k + 1, s =>
    match s.msgTryReceiveFrom procs maxLen with
    | (_, some d, s', _) => d :: receives procs maxLen k s'
    | (_, none, _, _) => []

/-- The PIDs for which the loop of `msg_broadcast` calls `msg_send_flags`. -/
def broadcastAttempts (srcPid : UInt32) (msg : List UInt8) :
    Nat → Nat → MsgState → ProcTable → List UInt32
  | 0, _, _, _ => []
  | n + 1, pid, s, procs =>
    if broadcastTo procs srcPid (UInt32.ofNat pid) then
      let r := s.msgSendFlags procs (UInt32.ofNat pid) msg msgFlagBroadcast
      UInt32.ofNat pid :: broadcastAttempts srcPid msg n (pid + 1) r.2.1 r.2.2
    else broadcastAttempts srcPid msg n (pid + 1) s procs

/-- The process can be messaged: a send to it fails only for want of room, it can receive what was
sent, and a broadcast of another process tries to reach it. -/
structure Messageable (s : MsgState) (procs : ProcTable) (pid : UInt32) (p : ProcRef) : Prop where
  send : ∀ msg : List UInt8, msg.length ≤ msgMaxSize →
    (s.msgSend procs pid msg).1 = msgSuccess ∨ (s.msgSend procs pid msg).1 = msgErrQueueFull ∨
      (s.msgSend procs pid msg).1 = msgErrNoMemory
  receive : ∀ msg : List UInt8, msg.length ≤ msgMaxSize → (s.msgSend procs pid msg).1 = msgSuccess →
    ∀ (later : ProcTable) (maxLen : Nat), later.current = some p → (later.table p).pid = pid →
      ∃ k, (receives later maxLen k (s.msgSend procs pid msg).2.1).getLast? =
        some ⟨currentPid procs, maxLen, msg.take maxLen⟩
  broadcast : ∀ msg : List UInt8, msg.length ≤ msgMaxSize → procs.current ≠ some p →
    pid ∈ broadcastAttempts (currentPid procs) msg (processMaxCount - 1) 1 s procs

lemma msgGetQueue_of_lt (h : pid.toNat < processMaxCount) : msgGetQueue pid = some ⟨pid.toNat, h⟩ := dif_pos h

lemma msgSendCheck_ok (hfound : procs.processGetByPid pid = some p)
    (h : pid.toNat < processMaxCount) (hlen : msg.length ≤ msgMaxSize) :
    msgSendCheck procs pid msg = .ok (currentPid procs, ⟨pid.toNat, h⟩) := by
  simp [msgSendCheck, Nat.not_lt.mpr hlen, hfound, msgGetQueue_of_lt h]

lemma msgSend_no_queue (hfound : procs.processGetByPid pid = some p)
    (h : ¬ pid.toNat < processMaxCount) (hlen : msg.length ≤ msgMaxSize) :
    (s.msgSend procs pid msg).1 = msgErrInvalidPid := by
  simp [msgSend, msgSendFlags, msgSendCheck, Nat.not_lt.mpr hlen, hfound, msgGetQueue, h]

/-- A send that passes the check: an error for want of room, or a message at the end of the queue. -/
lemma msgSend_of_check {srcPid : UInt32} (hcheck : msgSendCheck procs pid msg = .ok (srcPid, q)) :
    ((s.msgSend procs pid msg).1 = msgErrQueueFull ∨ (s.msgSend procs pid msg).1 = msgErrNoMemory) ∨
      ∃ r, s.msgSendAlloc q = .ok r ∧ s.msgSend procs pid msg =
        (msgSuccess, r.2.msgSendLink procs q r.1 srcPid pid msg 0) := by
  simp only [msgSend, msgSendFlags, hcheck]
  unfold msgSendAlloc
  by_cases hfull : msgQueueSize ≤ (s.queues q).count
  · simp [hfull]
  · cases halloc : s.msgAlloc with
    | none => simp [hfull]
    | some r => simp [hfull]

/-! ## Receiving -/

lemma receives_lists (h : (s.queues q).Lists s.pool cells) (hq : msgReceiveQueue procs = .ok q) (maxLen : Nat) :
    receives procs maxLen cells.length s = cells.map fun c => (s.pool c).deliver maxLen := by
  induction cells generalizing s with
  | nil => rfl
  | cons c rest ih =>
    obtain ⟨hnot, -⟩ := List.nodup_cons.mp h.nodup
    obtain ⟨hdequeue, -⟩ := dequeue_lists h
    have hcount : (s.queues q).count ≠ 0 := by simp [h.count]
    have hhead : (s.queues q).head = some c := (chain_cons.mp h.chain).1
    have htry : s.msgTryReceiveFrom procs maxLen =
        ((((s.pool c).deliver maxLen).bytes.length : Int), some ((s.pool c).deliver maxLen),
          (s.dequeue q c).msgFree c, procs) := by
      simp only [msgTryReceiveFrom, hq, msgReceiveTake, if_neg hcount, hhead]
    have hpool : ∀ x ∈ rest, ((s.dequeue q c).msgFree c).pool x = s.pool x := by
      intro x hx
      have hne : x ≠ c := fun hxc => hnot (hxc ▸ hx)
      exact Function.update_of_ne hne _ _
    have hrest : (((s.dequeue q c).msgFree c).queues q).Lists ((s.dequeue q c).msgFree c).pool rest :=
      hdequeue.congr (fun x hx => by rw [hpool x hx]) rfl rfl rfl
    rw [List.length_cons, receives, htry]
    simp only [List.map_cons, ih hrest]
    congr 1
    exact List.map_congr_left fun x hx => by rw [hpool x hx]

lemma msgReceiveQueue_of_current (hcur : procs.current = some p) (hpid : (procs.table p).pid = pid)
    (h : pid.toNat < processMaxCount) : msgReceiveQueue procs = .ok ⟨pid.toNat, h⟩ := by
  simp [msgReceiveQueue, ProcTable.processGetCurrent, hcur, hpid, msgGetQueue_of_lt h]

/-! ## Broadcasting -/

/-- Whom the broadcast loop sends to, when no slot is in the state `TERMINATED`. -/
lemma broadcastTo_iff (h : procs.NoneTerminated) (srcPid pid : UInt32) :
    broadcastTo procs srcPid pid = true ↔ pid ≠ srcPid ∧ pid ≠ pidInvalid ∧
      ∃ p, (procs.table p).state ≠ .invalid ∧ (procs.table p).pid = pid := by
  unfold broadcastTo ProcTable.processGetByPid
  by_cases hzero : pid = pidInvalid
  · simp [hzero]
  rw [if_neg hzero]
  cases hfind : (List.finRange processMaxCount).find? fun p =>
      (procs.table p).state ≠ .invalid ∧ (procs.table p).pid = pid with
  | none =>
    have hnone : ∀ p, (procs.table p).state ≠ .invalid → (procs.table p).pid ≠ pid := by
      intro p hstate hpid
      have := List.find?_eq_none.mp hfind p (List.mem_finRange p)
      simp [hstate, hpid] at this
    simp only [Bool.and_false, Bool.false_eq_true, false_iff]
    rintro ⟨-, -, p, hstate, hpid⟩
    exact hnone p hstate hpid
  | some p =>
    have hp : (procs.table p).state ≠ .invalid ∧ (procs.table p).pid = pid := by
      simpa using List.find?_some hfind
    simp only [hp.1, h p, ne_eq, not_false_eq_true, decide_true, Bool.and_self, Bool.and_true,
      decide_eq_true_eq, hzero, true_and]
    exact ⟨fun hne => ⟨hne, p, hp⟩, fun hne => hne.1⟩

lemma broadcastTo_msgSendFlags (h : procs.NoneTerminated) {srcPid x : UInt32} {flags : UInt32}
    (hto : broadcastTo procs srcPid pid = true) :
    (s.msgSendFlags procs x msg flags).2.2.NoneTerminated ∧
      broadcastTo (s.msgSendFlags procs x msg flags).2.2 srcPid pid = true := by
  have hwake : ∀ w, (procs.processSetState w .ready).NoneTerminated ∧
      broadcastTo (procs.processSetState w .ready) srcPid pid = true := by
    intro w
    have hnone := h.setState w (show ProcessState.ready ≠ .terminated by decide)
    obtain ⟨hne, hzero, p, hstate, hpid⟩ := (broadcastTo_iff h srcPid pid).mp hto
    refine ⟨hnone, (broadcastTo_iff hnone srcPid pid).mpr ⟨hne, hzero, p, ?_, ?_⟩⟩
    · rw [(ProcTable.processSetState_eq (by decide)).1]
      by_cases hp : p = w
      · subst hp
        simp
      · rw [ProcTable.modify_of_ne hp]
        exact hstate
    · rw [ProcTable.processSetState_pid]
      exact hpid
  unfold msgSendFlags
  split
  · exact ⟨h, hto⟩
  · split
    · exact ⟨h, hto⟩
    · unfold msgSendLink msgWakeReceiver
      dsimp only
      split
      · exact ⟨h, hto⟩
      · exact hwake _

lemma mem_broadcastAttempts (h : procs.NoneTerminated) {srcPid : UInt32}
    (hto : broadcastTo procs srcPid pid = true) {n first : Nat} (hfirst : first ≤ pid.toNat)
    (hlast : pid.toNat < first + n) :
    pid ∈ broadcastAttempts srcPid msg n first s procs := by
  induction n generalizing first s procs with
  | zero => omega
  | succ n ih =>
    unfold broadcastAttempts
    by_cases heq : first = pid.toNat
    · rw [heq, UInt32.ofNat_toNat, if_pos hto]
      exact List.mem_cons_self
    · split_ifs
      · obtain ⟨hnone, hto'⟩ := @broadcastTo_msgSendFlags s procs pid msg h srcPid
          (UInt32.ofNat first) msgFlagBroadcast hto
        exact List.mem_cons_of_mem _ (ih hnone hto' (by omega) (by omega))
      · exact ih h hto (by omega) (by omega)

lemma not_mem_broadcastAttempts {n first : Nat} : pid ∉ broadcastAttempts pid msg n first s procs := by
  induction n generalizing first s procs with
  | zero => exact List.not_mem_nil
  | succ n ih =>
    unfold broadcastAttempts
    split_ifs with hto
    · simp only [List.mem_cons, not_or]
      refine ⟨?_, ih⟩
      rintro heq
      rw [← heq] at hto
      simp [broadcastTo] at hto
    · exact ih

/-! ## Every process with a queue -/

/-- After a successful send the receiver gets the message, behind those that were there before. -/
lemma receive_of_layout {m : MsgMachine} {home : MsgRef → Place} {free : List MsgRef}
    {lists : QueueRef → List MsgRef} (h : m.Layout home free lists) {r : MsgRef × MsgState}
    (halloc : m.msgs.msgSendAlloc q = .ok r) {srcPid : UInt32} {later : ProcTable}
    (hq : msgReceiveQueue later = .ok q) (maxLen : Nat) :
    ∃ k, (receives later maxLen k (r.2.msgSendLink procs q r.1 srcPid pid msg 0).1).getLast? =
      some ⟨srcPid, maxLen, msg.take maxLen⟩ := by
  obtain ⟨-, hfree, -, hpool, hqueues⟩ := msgSendAlloc_ok halloc
  have hhome : home r.1 = .free := by
    obtain ⟨rest, rfl, -⟩ := (hfree ▸ h.free_chain).of_some
    exact (h.free_home r.1).mp List.mem_cons_self
  have hnot : r.1 ∉ lists q := h.not_mem hhome (by simp) q
  have hlists : (r.2.queues q).Lists r.2.pool (lists q) := by
    rw [hqueues]
    exact (h.queue q).congr (fun x hx => by rw [hpool x fun hxc => hnot (hxc ▸ hx)]) rfl rfl rfl
  have hlink := @msgSendLink_linked r.2 procs q r.1 (lists q) hlists hnot srcPid pid msg 0
  refine ⟨_, (congrArg List.getLast? (receives_lists hlink.lists hq maxLen)).trans ?_⟩
  have hnew := hlink.new
  rw [content, Prod.mk.injEq] at hnew
  simp [Message.deliver, hnew.1, hnew.2, List.take_eq_take_iff, min_comm]

/-- **Every process whose PID is below 256 can be messaged**, after any history of processes and any
run of the messages, and no other; but for a broadcast of a process that has the same PID. -/
theorem messageable_iff (pmm : Pmm) (es : List ProcEvent) {before : ProcTable} {fs : List MsgEvent}
    {m : MsgMachine} (hmsgs : Steps MsgMachine.Step { procs := before } fs m)
    (hfound : (ProcTable.history pmm es).processGetByPid pid = some p) :
    Messageable m.msgs (ProcTable.history pmm es) pid p ↔ pid.toNat < processMaxCount ∧
      ∀ c, (ProcTable.history pmm es).current = some c → ((ProcTable.history pmm es).table c).pid = pid → c = p := by
  have hnone := ProcTable.noneTerminated_history pmm es
  obtain ⟨procs, hprocs⟩ : ∃ procs, ProcTable.history pmm es = procs := ⟨_, rfl⟩
  rw [hprocs] at hfound hnone ⊢
  have hlive : pid ≠ pidInvalid ∧ (procs.table p).state ≠ .invalid ∧ (procs.table p).pid = pid := by
    unfold ProcTable.processGetByPid at hfound
    split_ifs at hfound with hzero
    exact ⟨hzero, by simpa using List.find?_some hfound⟩
  constructor
  · intro h
    refine ⟨by_contra fun hge => ?_, fun c hcur hpid => by_contra fun hne => ?_⟩
    · have hfail := @msgSend_no_queue m.msgs procs pid p [] hfound hge (by decide)
      have hsend := h.send [] (by decide)
      rw [hfail] at hsend
      exact absurd hsend (by decide)
    · have hsrc : currentPid procs = pid := by
        simp [currentPid, ProcTable.processGetCurrent, hcur, hpid]
      have hattempt := h.broadcast [] (by decide) (by simpa [hcur] using hne)
      rw [hsrc] at hattempt
      exact not_mem_broadcastAttempts hattempt
  · rintro ⟨hlt, hsame⟩
    refine ⟨fun msg hlen => ?_, fun msg hlen hok later maxLen hcur hpid => ?_, fun msg hlen hcur => ?_⟩
    · rcases @msgSend_of_check m.msgs procs pid ⟨pid.toNat, hlt⟩ msg _
        (msgSendCheck_ok hfound hlt hlen) with hfail | ⟨r, -, hsend⟩
      · exact .inr hfail
      · exact .inl (congrArg Prod.fst hsend)
    · obtain ⟨home, free, lists, hlayout⟩ : m.Inv := MsgMachine.inv_of_steps hmsgs
      rcases @msgSend_of_check m.msgs procs pid ⟨pid.toNat, hlt⟩ msg _
        (msgSendCheck_ok hfound hlt hlen) with hfail | ⟨r, halloc, hsend⟩
      · rw [hok] at hfail
        exact absurd hfail (by decide)
      · rw [hsend]
        exact receive_of_layout hlayout halloc (msgReceiveQueue_of_current hcur hpid hlt) maxLen
    · have hsrc : pid ≠ currentPid procs := by
        intro heq
        cases hc : procs.current with
        | none =>
          exact hlive.1 (by simpa [currentPid, ProcTable.processGetCurrent, hc, pidInvalid] using heq)
        | some c =>
          have hpid : (procs.table c).pid = pid := by
            simpa [currentPid, ProcTable.processGetCurrent, hc] using heq.symm
          exact hcur (by rw [hc, hsame c hc hpid])
      have hto := (broadcastTo_iff hnone (currentPid procs) pid).mpr ⟨hsrc, hlive.1, p, hlive.2⟩
      have hpos : pid.toNat ≠ 0 := fun hzero => hlive.1 (UInt32.toNat_inj.mp hzero)
      exact mem_broadcastAttempts hnone hto (by omega) (by omega)

/-- The second process can be messaged. -/
theorem messageable_second :
    Messageable msgInit (ProcTable.history ⟨fun i => if i = 0 then 1 else 0, 9, 1⟩ [.create []]) 2 1 := by
  have hcur : (ProcTable.history ⟨fun i => if i = 0 then 1 else 0, 9, 1⟩ [.create []]).current =
      some 0 := by decide
  have hfound : (ProcTable.history ⟨fun i => if i = 0 then 1 else 0, 9, 1⟩
      [.create []]).processGetByPid 2 = some 1 := by decide
  have hmsgs : Steps MsgMachine.Step { procs := { pmm := ⟨fun _ => 0, 0, 0⟩ } } []
      { procs := { pmm := ⟨fun _ => 0, 0, 0⟩ } } := .nil _
  refine (messageable_iff _ _ hmsgs hfound).mpr ⟨by decide, fun c hc hpid => ?_⟩
  obtain rfl : 0 = c := Option.some.inj (hcur.symm.trans hc)
  exact absurd hpid (by decide)

/-- In a memory of eight pages a second process is created, and then 253 creations fail, each taking
a PID.  The second process exits, and the next one created has PID 256. -/
def pidsUsedUp : List ProcEvent :=
  .create [] :: List.replicate 253 (.create []) ++ [.run 1, .exit 0, .create []]

/-- The process is there, and no message can be sent to it. -/
theorem no_queue_for_256 :
    (ProcTable.history ⟨fun i => if i = 0 then 1 else 0, 9, 1⟩ pidsUsedUp).processGetByPid 256 =
        some 1 ∧
      (msgInit.msgSend (ProcTable.history ⟨fun i => if i = 0 then 1 else 0, 9, 1⟩ pidsUsedUp) 256
        []).1 = msgErrInvalidPid := by
  have hfound : (ProcTable.history ⟨fun i => if i = 0 then 1 else 0, 9, 1⟩
      pidsUsedUp).processGetByPid 256 = some 1 := by decide +kernel
  exact ⟨hfound, msgSend_no_queue hfound (by decide) (by decide)⟩

end MsgState

end AAAos
