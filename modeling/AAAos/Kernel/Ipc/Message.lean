import AAAos.Kernel.Proc.Process

/-!
# Messages

`kernel/ipc/message.c`.  A pool of 512 message cells, a free list through them, and for each PID
below 256 a queue that is a singly linked list with head, tail and count.  The queue of a process is
the one whose index is its PID.

A call first looks at the process table, without a lock.  It then works under the lock of one queue,
and takes a cell from the free list or gives one back under the lock of the subsystem.  The
definitions are cut at these places: what a send does is `msgSendCheck`, `msgSendAlloc` and
`msgSendLink` in this order, what a receive does is `msgReceiveQueue`, `msgReceiveTake` and
`msgFree`.  `msgSendFlags` and the others are the calls as a whole, when nothing comes between.

A payload is kept as the list of its bytes; the rest of the cell's array is never read.  The
statistics are left out.
-/

namespace AAAos

/-- `MSG_MAX_SIZE`. -/
def msgMaxSize : Nat := 256

/-- `MSG_QUEUE_SIZE`. -/
def msgQueueSize : Nat := 32

/-- `MSG_POOL_SIZE`. -/
abbrev msgPoolSize : Nat := 512

/-- `MSG_FLAG_BROADCAST`. -/
def msgFlagBroadcast : UInt32 := 4

/-- `MSG_SUCCESS`. -/
def msgSuccess : Int := 0

/-- `MSG_ERR_NO_MEMORY`. -/
def msgErrNoMemory : Int := -1

/-- `MSG_ERR_INVALID_PID`. -/
def msgErrInvalidPid : Int := -2

/-- `MSG_ERR_QUEUE_FULL`. -/
def msgErrQueueFull : Int := -3

/-- `MSG_ERR_QUEUE_EMPTY`. -/
def msgErrQueueEmpty : Int := -4

/-- `MSG_ERR_TOO_LARGE`. -/
def msgErrTooLarge : Int := -5

/-- `MSG_ERR_INVALID_ARG`. -/
def msgErrInvalidArg : Int := -6

/-- `MSG_ERR_NO_PROCESS`. -/
def msgErrNoProcess : Int := -7

/-- `MSG_ERR_WOULDBLOCK`. -/
def msgErrWouldblock : Int := -8

/-- A `message_t *` that is not null: a cell of `message_pool`. -/
abbrev MsgRef := Fin msgPoolSize

/-- An index into `msg_queues`. -/
abbrev QueueRef := Fin processMaxCount

/-- `message_t`.  The defaults are the cleared cell. -/
structure Message where
  srcPid : UInt32 := 0
  destPid : UInt32 := 0
  flags : UInt32 := 0
  msgId : UInt32 := 0
  timestamp : UInt64 := 0
  data : List UInt8 := []
  next : Option MsgRef := none

/-- What a receiver is given. -/
structure Delivery where
  srcPid : UInt32
  maxLen : Nat
  bytes : List UInt8
  deriving DecidableEq

/-- The first `maxLen` bytes of a message, and who sent it. -/
def Message.deliver (msg : Message) (maxLen : Nat) : Delivery :=
  ⟨msg.srcPid, maxLen, msg.data.take (min msg.data.length maxLen)⟩

/-- What a section of `msg_receive_internal` comes to. -/
inductive Taken
  | blocked
  | wouldblock
  | taken (c : MsgRef) (d : Delivery)

/-- `msg_queue_t`.  A waiter array with its counter is a list of at most eight processes. -/
structure MsgQueue where
  head : Option MsgRef := none
  tail : Option MsgRef := none
  count : Nat := 0
  waiters : List ProcRef := []

/-- The static state of `message.c`. -/
structure MsgState where
  pool : MsgRef → Message
  freeMessages : Option MsgRef
  queues : QueueRef → MsgQueue := fun _ => {}
  nextMsgId : UInt32 := 1
  tickCounter : UInt64 := 0

namespace MsgState

/-- `msg_init`: the cells are chained in order. -/
def msgInit : MsgState where
  pool := fun c => { next := if h : c.val + 1 < msgPoolSize then some ⟨c.val + 1, h⟩ else none }
  freeMessages := some 0

/-- Writing to the fields of one queue. -/
def modifyQueue (s : MsgState) (q : QueueRef) (f : MsgQueue → MsgQueue) : MsgState :=
  { s with queues := Function.update s.queues q (f (s.queues q)) }

/-- `msg_alloc`. -/
def msgAlloc (s : MsgState) : Option (MsgRef × MsgState) :=
  match s.freeMessages with
  | none => none
  | some c =>
    some (c, { s with
      freeMessages := (s.pool c).next
      pool := Function.update s.pool c { s.pool c with next := none } })

/-- `msg_free`. -/
def msgFree (s : MsgState) (c : MsgRef) : MsgState :=
  { s with
    pool := Function.update s.pool c { next := s.freeMessages }
    freeMessages := some c }

/-- `msg_block_receiver`. -/
def msgBlockReceiver (s : MsgState) (procs : ProcTable) (q : QueueRef) : MsgState × ProcTable :=
  match procs.processGetCurrent with
  | none => (s, procs)
  | some current =>
    if (s.queues q).waiters.length < 8 then
      (s.modifyQueue q fun queue => { queue with waiters := queue.waiters ++ [current] },
        procs.processSetState current .blocked)
    else (s, procs)

/-- `msg_wake_receiver`. -/
def msgWakeReceiver (s : MsgState) (procs : ProcTable) (q : QueueRef) : MsgState × ProcTable :=
  match (s.queues q).waiters with
  | [] => (s, procs)
  | proc :: rest =>
    (s.modifyQueue q fun queue => { queue with waiters := rest },
      procs.processSetState proc .ready)

/-- `msg_get_queue`. -/
def msgGetQueue (pid : UInt32) : Option QueueRef :=
  if h : pid.toNat < processMaxCount then some ⟨pid.toNat, h⟩ else none

/-- The PID of the current process, or 0. -/
def currentPid (procs : ProcTable) : UInt32 :=
  match procs.processGetCurrent with
  | some current => (procs.table current).pid
  | none => 0

/-! ## Sending -/

/-- `msg_send_flags` before it takes the lock: the sender and the queue. -/
def msgSendCheck (procs : ProcTable) (destPid : UInt32) (msg : List UInt8) :
    Except Int (UInt32 × QueueRef) :=
  if msgMaxSize < msg.length then .error msgErrTooLarge
  else
    match procs.processGetByPid destPid with
    | none => .error msgErrInvalidPid
    | some _ =>
      match msgGetQueue destPid with
      | none => .error msgErrInvalidPid
      | some q => .ok (currentPid procs, q)

/-- `msg_send_flags` up to `msg_alloc`. -/
def msgSendAlloc (s : MsgState) (q : QueueRef) : Except Int (MsgRef × MsgState) :=
  if msgQueueSize ≤ (s.queues q).count then .error msgErrQueueFull
  else
    match s.msgAlloc with
    | none => .error msgErrNoMemory
    | some r => .ok r

/-- The cell is linked behind the tail of the queue. -/
def enqueue (s : MsgState) (q : QueueRef) (c : MsgRef) : MsgState :=
  let linked := match (s.queues q).tail with
    | some tail => { s with pool := Function.update s.pool tail { s.pool tail with next := some c } }
    | none => s.modifyQueue q fun queue => { queue with head := some c }
  linked.modifyQueue q fun queue => { queue with tail := some c, count := queue.count + 1 }

/-- `msg_send_flags` from the filling of the cell on. -/
def msgSendLink (s : MsgState) (procs : ProcTable) (q : QueueRef) (c : MsgRef)
    (srcPid destPid : UInt32) (msg : List UInt8) (flags : UInt32) : MsgState × ProcTable :=
  let filled : Message :=
    { srcPid := srcPid, destPid := destPid, flags := flags, msgId := s.nextMsgId,
      timestamp := s.tickCounter, data := msg, next := none }
  let s₁ := { s with
    pool := Function.update s.pool c filled
    nextMsgId := s.nextMsgId + 1
    tickCounter := s.tickCounter + 1 }
  (s₁.enqueue q c).msgWakeReceiver procs q

/-- `msg_send_flags`. -/
def msgSendFlags (s : MsgState) (procs : ProcTable) (destPid : UInt32) (msg : List UInt8)
    (flags : UInt32) : Int × MsgState × ProcTable :=
  match msgSendCheck procs destPid msg with
  | .error e => (e, s, procs)
  | .ok (srcPid, q) =>
    match s.msgSendAlloc q with
    | .error e => (e, s, procs)
    | .ok (c, s₁) => (msgSuccess, s₁.msgSendLink procs q c srcPid destPid msg flags)

/-- `msg_send`. -/
def msgSend (s : MsgState) (procs : ProcTable) (destPid : UInt32) (msg : List UInt8) :
    Int × MsgState × ProcTable :=
  s.msgSendFlags procs destPid msg 0

/-! ## Receiving -/

/-- `msg_receive_internal` and `msg_peek` before they take the lock: the queue. -/
def msgReceiveQueue (procs : ProcTable) : Except Int QueueRef :=
  match procs.processGetCurrent with
  | none => .error msgErrNoProcess
  | some current =>
    match msgGetQueue (procs.table current).pid with
    | none => .error msgErrNoProcess
    | some q => .ok q

/-- The head of the queue is taken off. -/
def dequeue (s : MsgState) (q : QueueRef) (c : MsgRef) : MsgState :=
  s.modifyQueue q fun queue =>
    { queue with
      head := (s.pool c).next
      tail := if (s.pool c).next = none then none else queue.tail
      count := queue.count - 1 }

/-- `msg_receive_internal` under the queue's lock, up to `msg_free`.  The queue's head is not null
when its count is not zero; the case is there because the pointer could be. -/
def msgReceiveTake (s : MsgState) (procs : ProcTable) (q : QueueRef) (maxLen : Nat)
    (blocking : Bool) : Taken × MsgState × ProcTable :=
  if (s.queues q).count = 0 then
    if blocking then (.blocked, s.msgBlockReceiver procs q) else (.wouldblock, s, procs)
  else
    match (s.queues q).head with
    | none => (.wouldblock, s, procs)
    | some c => (.taken c ((s.pool c).deliver maxLen), s.dequeue q c, procs)

/-- `msg_try_receive_from`: the answer, what was delivered, and the state. -/
def msgTryReceiveFrom (s : MsgState) (procs : ProcTable) (maxLen : Nat) :
    Int × Option Delivery × MsgState × ProcTable :=
  match msgReceiveQueue procs with
  | .error e => (e, none, s, procs)
  | .ok q =>
    match s.msgReceiveTake procs q maxLen false with
    | (.taken c d, s₁, procs₁) => (d.bytes.length, some d, s₁.msgFree c, procs₁)
    | (_, s₁, procs₁) => (msgErrWouldblock, none, s₁, procs₁)

/-- `msg_peek`: the answer and the bytes. -/
def msgPeek (s : MsgState) (procs : ProcTable) (maxLen : Nat) : Int × List UInt8 :=
  match msgReceiveQueue procs with
  | .error e => (e, [])
  | .ok q =>
    if (s.queues q).count = 0 then (msgErrQueueEmpty, [])
    else
      match (s.queues q).head with
      | none => (msgErrQueueEmpty, [])
      | some c =>
        let d := (s.pool c).deliver maxLen
        (d.bytes.length, d.bytes)

/-! ## Broadcasting -/

/-- The test of the broadcast loop: a live process with this PID, not the sender. -/
def broadcastTo (procs : ProcTable) (srcPid pid : UInt32) : Bool :=
  pid ≠ srcPid &&
    match procs.processGetByPid pid with
    | none => false
    | some p => (procs.table p).state ≠ .invalid && (procs.table p).state ≠ .terminated

/-- The loop of `msg_broadcast`, over `n` PIDs from `pid` on. -/
def broadcastLoop (srcPid : UInt32) (msg : List UInt8) :
    Nat → Nat → Int → MsgState → ProcTable → Int × MsgState × ProcTable
  | 0, _, recipients, s, procs => (recipients, s, procs)
  | n + 1, pid, recipients, s, procs =>
    if broadcastTo procs srcPid (UInt32.ofNat pid) then
      let r := s.msgSendFlags procs (UInt32.ofNat pid) msg msgFlagBroadcast
      broadcastLoop srcPid msg n (pid + 1)
        (if r.1 = msgSuccess then recipients + 1 else recipients) r.2.1 r.2.2
    else broadcastLoop srcPid msg n (pid + 1) recipients s procs

/-- `msg_broadcast`. -/
def msgBroadcast (s : MsgState) (procs : ProcTable) (msg : List UInt8) :
    Int × MsgState × ProcTable :=
  if msgMaxSize < msg.length then (msgErrInvalidArg, s, procs)
  else broadcastLoop (currentPid procs) msg (processMaxCount - 1) 1 0 s procs

end MsgState

end AAAos
