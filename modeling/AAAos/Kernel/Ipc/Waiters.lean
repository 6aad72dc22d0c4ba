import AAAos.Kernel.Ipc.MessageSafety
import AAAos.Kernel.Ipc.PipeSafety
import AAAos.Lib.WaitLists

/-!
# The waiter lists of pipes and message queues

A process that must wait is put into a waiter list of the pipe or the queue and set `BLOCKED`; a
wake-up takes the first process off the list and sets it `READY`.  Three tables are involved: the
pipes, the message queues, and the processes.

**The machine.**  Each process is inside at most one call.  A call on a pipe is begun on a
descriptor, a receive on the queue of the process that `process_get_current` returns; from then on
the sections of the calls interleave in any order, with sends, with the creation of pipes, with the
scheduler, and with the creation and the exit of processes.  A send is one step, as it holds the
lock of its queue from the moment it looks at it; what it saw of the process table before that is a
table of its own.

**What goes wrong.**  The waiting loops do not give up the processor ("For now, we spin"), so a call
takes the lock again while its process is still registered, and registers it again.  The second entry
stays behind when the call has returned, and also when the process has exited.  And what is
registered is the process that `process_get_current` returns, which need not be the one inside the
call.  As long as neither happens (`Orderly`), the waiter lists are exact (`exact_of_steps`).
-/

namespace AAAos

/-- The waiter lists. -/
inductive Spot
  | read (i : PipeRef)
  | write (i : PipeRef)
  | queue (q : QueueRef)
  deriving DecidableEq

/-- The processes in a waiter list. -/
def waitersAt (pipes : PipeRef → Pipe) (queues : QueueRef → MsgQueue) : Spot → List ProcRef
  | .read i => (pipes i).readWaiters
  | .write i => (pipes i).writeWaiters
  | .queue q => (queues q).waiters

/-- A call a process is inside of. -/
inductive IpcCall
  | pipe (c : PipeCall)
  | receive (q : QueueRef) (maxLen : Nat) (blocking : Bool)

/-- Where a call waits, if it can wait. -/
def IpcCall.spot : IpcCall → Option Spot
  | .pipe c =>
    match c.op with
    | .read _ => some (.read c.slot)
    | .write _ => some (.write c.slot)
    | _ => none
  | .receive q _ blocking => if blocking then some (.queue q) else none

/-- The pipes, the queues, the processes, and the calls they are inside of. -/
structure IpcMachine where
  pipes : PipeTable := {}
  msgs : MsgState := .msgInit
  procs : ProcTable
  calls : ProcRef → Option IpcCall := fun _ => none

/-- What may happen next. -/
inductive IpcEvent
  | pipeStart (p : ProcRef) (fd : Int) (op : PipeOp)
  | receiveStart (p : ProcRef) (maxLen : Nat) (blocking : Bool)
  | run (p : ProcRef)
  | pipeCreate
  | send (view : ProcTable) (destPid : UInt32) (msg : List UInt8) (flags : UInt32)
  | dispatch (q : ProcRef)
  | schedule (old new : ProcRef)
  | create (name : List UInt8)
  | exit (p : ProcRef) (status : Int32)

namespace IpcMachine

/-- The waiter lists of the machine. -/
def waiters (m : IpcMachine) : Spot → List ProcRef := waitersAt m.pipes.pipes m.msgs.queues

/-- Where a process may wait: what the call it is inside of says. -/
def place (m : IpcMachine) (p : ProcRef) : Option Spot := (m.calls p).bind IpcCall.spot

/-- A process enters a call. -/
def begun (m : IpcMachine) (p : ProcRef) (c : IpcCall) : IpcMachine :=
  { m with calls := Function.update m.calls p (some c) }

/-- A call on a pipe runs its next section. -/
def ranPipe (m : IpcMachine) (p : ProcRef) (c : PipeCall) : IpcMachine :=
  let r := c.run (m.pipes.pipes c.slot) m.procs
  { m with
    pipes := { m.pipes with pipes := Function.update m.pipes.pipes c.slot r.pipe }
    procs := r.procs
    calls := Function.update m.calls p
      (if r.answer.isNone then some (.pipe (c.next r)) else none) }

/-- A receive runs its next section. -/
def ranReceive (m : IpcMachine) (p : ProcRef) (q : QueueRef) (maxLen : Nat) (blocking : Bool) :
    IpcMachine :=
  match m.msgs.msgReceiveTake m.procs q maxLen blocking with
  | (.blocked, msgs, procs) => { m with msgs := msgs, procs := procs }
  | (.wouldblock, msgs, procs) =>
    { m with msgs := msgs, procs := procs, calls := Function.update m.calls p none }
  | (.taken c _, msgs, procs) =>
    { m with msgs := msgs.msgFree c, procs := procs, calls := Function.update m.calls p none }

/-- The call of a process runs its next section. -/
def ran (m : IpcMachine) (p : ProcRef) : IpcCall → IpcMachine
  | .pipe c => m.ranPipe p c
  | .receive q maxLen blocking => m.ranReceive p q maxLen blocking

/-- `msg_send_flags` from the lock of the queue on. -/
def sent (m : IpcMachine) (view : ProcTable) (destPid : UInt32) (msg : List UInt8) (flags : UInt32) : IpcMachine :=
  match MsgState.msgSendCheck view destPid msg with
  | .error _ => m
  | .ok (srcPid, q) =>
    match m.msgs.msgSendAlloc q with
    | .error _ => m
    | .ok (c, msgs) =>
      let linked := msgs.msgSendLink m.procs q c srcPid destPid msg flags
      { m with msgs := linked.1, procs := linked.2 }

/-- `scheduler_schedule` writes the two states itself, and leaves the current process of
`process.c` as it is. -/
def scheduled (procs : ProcTable) (old new : ProcRef) : ProcTable :=
  let preempted :=
    if (procs.table old).state = .running then
      procs.modify old fun proc => { proc with state := .ready }
    else procs
  preempted.modify new fun proc => { proc with state := .running }

/-- One step of the machine. -/
def Step (m : IpcMachine) : IpcEvent → IpcMachine → Prop
  | .pipeStart p fd op, m' => m.calls p = none ∧ ∃ slot, m.pipes.pipeGet fd = some slot ∧
      m' = m.begun p (.pipe { fd := fd, slot := slot, pipe := 0, op := op })
  | .receiveStart p maxLen blocking, m' => m.calls p = none ∧
      ∃ q, MsgState.msgReceiveQueue m.procs = .ok q ∧ m' = m.begun p (.receive q maxLen blocking)
  | .run p, m' => ∃ c, m.calls p = some c ∧ m' = m.ran p c
  | .pipeCreate, m' => m' = { m with pipes := m.pipes.pipeCreate.2.2 }
  | .send view destPid msg flags, m' => m' = m.sent view destPid msg flags
  | .dispatch q, m' => m' = { m with procs := m.procs.processSetState q .running }
  | .schedule old new, m' => m' = { m with procs := scheduled m.procs old new }
  | .create name, m' => m' = { m with procs := (m.procs.processCreate name).2 }
  | .exit p status, m' => m.calls p = none ∧ m' = { m with procs := m.procs.processExit status }

/-- The steps, computed. -/
def exec (m : IpcMachine) : IpcEvent → Option IpcMachine
  | .pipeStart p fd op =>
    if (m.calls p).isNone then
      (m.pipes.pipeGet fd).map fun slot =>
        m.begun p (.pipe { fd := fd, slot := slot, pipe := 0, op := op })
    else none
  | .receiveStart p maxLen blocking =>
    if (m.calls p).isNone then
      (MsgState.msgReceiveQueue m.procs).toOption.map fun q => m.begun p (.receive q maxLen blocking)
    else none
  | .run p => (m.calls p).map (m.ran p)
  | .pipeCreate => some { m with pipes := m.pipes.pipeCreate.2.2 }
  | .send view destPid msg flags => some (m.sent view destPid msg flags)
  | .dispatch q => some { m with procs := m.procs.processSetState q .running }
  | .schedule old new => some { m with procs := scheduled m.procs old new }
  | .create name => some { m with procs := (m.procs.processCreate name).2 }
  | .exit p status =>
    if (m.calls p).isNone then some { m with procs := m.procs.processExit status } else none

lemma step_of_exec (m : IpcMachine) (e : IpcEvent) (m' : IpcMachine) (h : m.exec e = some m') : m.Step e m' := by
  cases e with
  | pipeStart p fd op =>
    simp only [exec, Option.ite_none_right_eq_some, Option.map_eq_some_iff] at h
    obtain ⟨hfree, slot, hget, rfl⟩ := h
    exact ⟨by simpa using hfree, slot, hget, rfl⟩
  | receiveStart p maxLen blocking =>
    simp only [exec, Option.ite_none_right_eq_some, Option.map_eq_some_iff] at h
    obtain ⟨hfree, q, hget, rfl⟩ := h
    refine ⟨by simpa using hfree, q, ?_, rfl⟩
    cases hqueue : MsgState.msgReceiveQueue m.procs with
    | error e => simp [hqueue, Except.toOption] at hget
    | ok r => simpa [hqueue, Except.toOption] using hget
  | run p =>
    obtain ⟨c, hc, rfl⟩ := Option.map_eq_some_iff.mp h
    exact ⟨c, hc, rfl⟩
  | pipeCreate | send view destPid msg flags | dispatch q | schedule old new | create name => exact (Option.some.inj h).symm
  | exit p status =>
    obtain ⟨hfree, hm⟩ := Option.ite_none_right_eq_some.mp h
    exact ⟨by simpa using hfree, (Option.some.inj hm).symm⟩

/-- The waiter lists are exact: a process is listed at most once, only while it is inside a call that
waits there, and only while it is `BLOCKED`.  And every process that was set `READY` was `BLOCKED`. -/
structure Exact (m : IpcMachine) : Prop where
  nodup : ∀ a, (m.waiters a).Nodup
  blocked : ∀ a, ∀ p ∈ m.waiters a, (m.procs.table p).state = .blocked
  inside : ∀ a, ∀ p ∈ m.waiters a, ∃ c, m.calls p = some c ∧ c.spot = some a
  woken : ∀ t ∈ m.procs.transitions, t.2.2 = .ready → t.2.1 = .blocked

/-- Nobody else is current. -/
def OwnsCpu (m : IpcMachine) (p : ProcRef) : Prop := ∀ q, m.procs.processGetCurrent = some q → q = p

/-- The process is in no waiter list. -/
def Unlisted (m : IpcMachine) (p : ProcRef) : Prop := ∀ a, p ∉ m.waiters a

/-- What the code does not see to: a process in a waiter list does not go on in its call and is not
set running, and a process that goes on in a call that can wait, or that exits, is the current one
if there is one. -/
def Orderly (m : IpcMachine) : IpcEvent → Prop
  | .run p => ∀ c, m.calls p = some c → c.spot ≠ none → m.OwnsCpu p ∧ m.Unlisted p
  | .dispatch q => m.Unlisted q
  | .schedule _ new => m.Unlisted new
  | .exit p _ => m.OwnsCpu p
  | _ => True

def OrderlyStep (m : IpcMachine) (e : IpcEvent) (m' : IpcMachine) : Prop := m.Step e m' ∧ m.Orderly e

end IpcMachine

/-! ## Waking and blocking -/

/-- The waiter lists are exact, whoever was set `READY` was `BLOCKED`, and the processes `out` are in
no list. -/
structure Tidy (out : ProcRef → Prop) (lists : Spot → List ProcRef) (place : ProcRef → Option Spot)
    (procs : ProcTable) : Prop where
  exact : WaitExact lists (fun p => (procs.table p).state = .blocked) place
  woken : ∀ t ∈ procs.transitions, t.2.2 = .ready → t.2.1 = .blocked
  unlisted : ∀ p, out p → ∀ a, p ∉ lists a

section

variable {out : ProcRef → Prop} {lists : Spot → List ProcRef} {place : ProcRef → Option Spot}
  {procs : ProcTable} {a : Spot} {p q : ProcRef}

lemma Tidy.woken_setState (h : Tidy out lists place procs) {state : ProcessState}
    (hready : state = .ready → (procs.table p).state = .blocked) :
    ∀ t ∈ (procs.processSetState p state).transitions, t.2.2 = .ready → t.2.1 = .blocked := by
  intro t ht
  rw [ProcTable.processSetState_transitions, List.mem_append, List.mem_singleton] at ht
  rcases ht with ht | rfl
  · exact h.woken t ht
  · exact hready

lemma blocked_setState {state : ProcessState} (hrun : state ≠ .running) (hq : q ≠ p)
    (h : (procs.table q).state = .blocked) :
    ((procs.processSetState p state).table q).state = .blocked := by
  rwa [(ProcTable.processSetState_eq hrun).1, ProcTable.modify_of_ne hq]

lemma Tidy.wake {rest : List ProcRef} (h : Tidy out lists place procs) (hlist : lists a = p :: rest) :
    Tidy out (Function.update lists a rest) place (procs.processSetState p .ready) where
  exact := h.exact.wake hlist fun q hq => blocked_setState (by decide) hq
  woken := h.woken_setState fun _ => h.exact.asleep a p (hlist ▸ List.mem_cons_self)
  unlisted := by
    intro q hq b hmem
    by_cases hb : b = a
    · subst hb
      rw [Function.update_self] at hmem
      exact h.unlisted q hq b (hlist ▸ List.mem_cons_of_mem p hmem)
    · rw [Function.update_of_ne hb] at hmem
      exact h.unlisted q hq b hmem

lemma Tidy.wakeEach {ws : List ProcRef} (h : Tidy out lists place procs) (hlist : lists a = ws) :
    Tidy out (Function.update lists a []) place (Pipe.wakeEach procs ws) := by
  induction ws generalizing lists procs with
  | nil =>
    rwa [show Function.update lists a [] = lists from hlist ▸ Function.update_eq_self a lists]
  | cons p rest ih =>
    have hrest := ih (h.wake hlist) (Function.update_self ..)
    rwa [Function.update_idem] at hrest

lemma Tidy.block (h : Tidy out lists place procs) (hp : ∀ b, p ∉ lists b) (ha : place p = some a) :
    Tidy (fun _ => False) (Function.update lists a (lists a ++ [p])) place
      (procs.processSetState p .blocked) where
  exact := by
    refine h.exact.sleep hp ha ?_ fun q hq => blocked_setState (by decide) hq
    rw [(ProcTable.processSetState_eq (by decide)).1, ProcTable.modify_self]
  woken := h.woken_setState nofun
  unlisted := nofun

lemma Tidy.mono {out' : ProcRef → Prop} (h : Tidy out lists place procs) (hout : ∀ p, out' p → out p) :
    Tidy out' lists place procs :=
  ⟨h.exact, h.woken, fun p hp => h.unlisted p (hout p hp)⟩

end

/-! ## The sections of the pipe calls -/

/-- The waiter lists with pipe `p` in slot `i`. -/
def waitersWith (pipes : PipeRef → Pipe) (queues : QueueRef → MsgQueue) (i : PipeRef) (p : Pipe) :
    Spot → List ProcRef :=
  waitersAt (Function.update pipes i p) queues

section

variable {pipes : PipeRef → Pipe} {queues : QueueRef → MsgQueue} {i : PipeRef} {p p' : Pipe}

lemma waitersWith_congr (hread : p'.readWaiters = p.readWaiters) (hwrite : p'.writeWaiters = p.writeWaiters) :
    waitersWith pipes queues i p' = waitersWith pipes queues i p := by
  unfold waitersWith waitersAt
  funext a
  cases a with
  | read j => by_cases hj : j = i <;> simp [hj, hread]
  | write j => by_cases hj : j = i <;> simp [hj, hwrite]
  | queue q => rfl

lemma waitersWith_read (p : Pipe) (ws : List ProcRef) : waitersWith pipes queues i { p with readWaiters := ws } =
      Function.update (waitersWith pipes queues i p) (.read i) ws := by
  unfold waitersWith waitersAt
  funext a
  cases a with
  | read j => by_cases hj : j = i <;> simp [hj]
  | write j => by_cases hj : j = i <;> simp [hj]
  | queue q => rfl

lemma waitersWith_write (p : Pipe) (ws : List ProcRef) : waitersWith pipes queues i { p with writeWaiters := ws } =
      Function.update (waitersWith pipes queues i p) (.write i) ws := by
  unfold waitersWith waitersAt
  funext a
  cases a with
  | read j => by_cases hj : j = i <;> simp [hj]
  | write j => by_cases hj : j = i <;> simp [hj]
  | queue q => rfl

lemma waitersWith_at : waitersWith pipes queues i p (.read i) = p.readWaiters ∧
    waitersWith pipes queues i p (.write i) = p.writeWaiters := by
  unfold waitersWith waitersAt
  simp

variable {out : ProcRef → Prop} {place : ProcRef → Option Spot} {procs : ProcTable} {x : ProcRef}

lemma Tidy.same (h : Tidy out (waitersWith pipes queues i p) place procs)
    (hread : p'.readWaiters = p.readWaiters) (hwrite : p'.writeWaiters = p.writeWaiters) :
    Tidy out (waitersWith pipes queues i p') place procs := by
  rwa [waitersWith_congr hread hwrite]

lemma Tidy.pipeWakeReader (h : Tidy out (waitersWith pipes queues i p) place procs) :
    Tidy out (waitersWith pipes queues i (p.pipeWakeReader procs).1) place
      (p.pipeWakeReader procs).2 := by
  unfold Pipe.pipeWakeReader
  split
  · exact h
  · rename_i y rest hlist
    rw [waitersWith_read]
    exact h.wake (waitersWith_at.1.trans hlist)

lemma Tidy.pipeWakeWriter (h : Tidy out (waitersWith pipes queues i p) place procs) :
    Tidy out (waitersWith pipes queues i (p.pipeWakeWriter procs).1) place
      (p.pipeWakeWriter procs).2 := by
  unfold Pipe.pipeWakeWriter
  split
  · exact h
  · rename_i y rest hlist
    rw [waitersWith_write]
    exact h.wake (waitersWith_at.2.trans hlist)

lemma Tidy.pipeWakeAllReaders (h : Tidy out (waitersWith pipes queues i p) place procs) :
    Tidy out (waitersWith pipes queues i (p.pipeWakeAllReaders procs).1) place
      (p.pipeWakeAllReaders procs).2 := by
  unfold Pipe.pipeWakeAllReaders
  rw [waitersWith_read]
  exact h.wakeEach waitersWith_at.1

lemma Tidy.pipeWakeAllWriters (h : Tidy out (waitersWith pipes queues i p) place procs) :
    Tidy out (waitersWith pipes queues i (p.pipeWakeAllWriters procs).1) place
      (p.pipeWakeAllWriters procs).2 := by
  unfold Pipe.pipeWakeAllWriters
  rw [waitersWith_write]
  exact h.wakeEach waitersWith_at.2

/-- `x` is in no list, and is the current process if there is one. -/
structure Running (x : ProcRef) (lists : Spot → List ProcRef) (place : ProcRef → Option Spot)
    (procs : ProcTable) : Prop where
  tidy : Tidy (· = x) lists place procs
  owns : ∀ q, procs.processGetCurrent = some q → q = x

lemma Running.pipeBlockReader (h : Running x (waitersWith pipes queues i p) place procs)
    (hx : place x = some (.read i)) :
    Tidy (fun _ => False) (waitersWith pipes queues i (p.pipeBlockReader procs).1) place
      (p.pipeBlockReader procs).2 := by
  unfold Pipe.pipeBlockReader
  split
  · exact h.tidy.mono nofun
  · rename_i current hcur
    obtain rfl := h.owns current hcur
    split_ifs
    · rw [waitersWith_read, ← (@waitersWith_at pipes queues i p).1]
      exact h.tidy.block (h.tidy.unlisted current rfl) hx
    · exact h.tidy.mono nofun

lemma Running.pipeBlockWriter (h : Running x (waitersWith pipes queues i p) place procs)
    (hx : place x = some (.write i)) :
    Tidy (fun _ => False) (waitersWith pipes queues i (p.pipeBlockWriter procs).1) place
      (p.pipeBlockWriter procs).2 := by
  unfold Pipe.pipeBlockWriter
  split
  · exact h.tidy.mono nofun
  · rename_i current hcur
    obtain rfl := h.owns current hcur
    split_ifs
    · rw [waitersWith_write, ← (@waitersWith_at pipes queues i p).2]
      exact h.tidy.block (h.tidy.unlisted current rfl) hx
    · exact h.tidy.mono nofun

/-- What a section of a call of `x` leaves behind: if the call has its answer, `x` is in no list. -/
def Ends (x : ProcRef) (pipes : PipeRef → Pipe) (queues : QueueRef → MsgQueue) (i : PipeRef)
    (place : ProcRef → Option Spot) (r : Section) : Prop :=
  Tidy (fun p => p = x ∧ r.answer ≠ none) (waitersWith pipes queues i r.pipe) place r.procs

lemma Tidy.ends {r : Section} (h : Tidy (· = x) (waitersWith pipes queues i r.pipe) place r.procs) :
    Ends x pipes queues i place r :=
  h.mono fun _ hp => hp.1

lemma Tidy.ends_none {r : Section} (hr : r.answer = none)
    (h : Tidy (fun _ => False) (waitersWith pipes queues i r.pipe) place r.procs) :
    Ends x pipes queues i place r :=
  h.mono fun _ hp => hp.2 hr

lemma Tidy.fetch (h : Tidy (· = x) (waitersWith pipes queues i p) place procs) (count : Nat) :
    Ends x pipes queues i place (p.fetch procs count) := by
  refine Tidy.ends (Tidy.pipeWakeWriter ?_)
  exact h.same rfl rfl

lemma Tidy.store (h : Tidy out (waitersWith pipes queues i p) place procs) (bytes : List UInt8) :
    Tidy out (waitersWith pipes queues i (p.store procs bytes).1) place (p.store procs bytes).2 :=
  Tidy.pipeWakeReader (h.same rfl rfl)

lemma Running.store (h : Running x (waitersWith pipes queues i p) place procs) (bytes : List UInt8) :
    Running x (waitersWith pipes queues i (p.store procs bytes).1) place (p.store procs bytes).2 := by
  refine ⟨h.tidy.store bytes, ?_⟩
  have hcurrent : (p.store procs bytes).2.current = procs.current := by
    unfold Pipe.store Pipe.pipeWakeReader
    dsimp only
    split
    · rfl
    · exact (ProcTable.processSetState_eq (by decide)).2
  unfold ProcTable.processGetCurrent
  rw [hcurrent]
  exact h.owns

lemma Running.pipeReadSection (h : Running x (waitersWith pipes queues i p) place procs)
    (hx : place x = some (.read i)) (count : Nat) :
    Ends x pipes queues i place (p.pipeReadSection procs count) := by
  unfold Pipe.pipeReadSection
  split_ifs
  · exact h.tidy.ends
  · exact Tidy.ends_none rfl (h.pipeBlockReader hx)
  · exact h.tidy.fetch count

lemma Running.pipeRead (h : Running x (waitersWith pipes queues i p) place procs)
    (hx : place x = some (.read i)) (count : Nat) :
    Ends x pipes queues i place (p.pipeRead procs count) := by
  unfold Pipe.pipeRead
  split_ifs
  · exact h.tidy.ends
  · exact h.tidy.ends
  · exact h.pipeReadSection hx count

lemma Tidy.pipeTryRead (h : Tidy (· = x) (waitersWith pipes queues i p) place procs) (count : Nat) :
    Ends x pipes queues i place (p.pipeTryRead procs count) := by
  unfold Pipe.pipeTryRead
  split_ifs
  · exact h.ends
  · exact h.ends
  · exact h.ends
  · exact h.ends
  · exact h.fetch count

lemma Running.pipeWriteFull (h : Running x (waitersWith pipes queues i p) place procs)
    (hx : place x = some (.write i)) (written : Nat) (bytes : List UInt8) :
    Ends x pipes queues i place (p.pipeWriteFull procs written bytes) := by
  unfold Pipe.pipeWriteFull
  split_ifs
  · exact h.tidy.ends
  · exact h.tidy.ends
  · exact Tidy.ends_none rfl (h.pipeBlockWriter hx)

lemma Running.pipeWriteSection (h : Running x (waitersWith pipes queues i p) place procs)
    (hx : place x = some (.write i)) (src : List UInt8) (written : Nat) :
    Ends x pipes queues i place (p.pipeWriteSection procs src written) := by
  unfold Pipe.pipeWriteSection
  dsimp only
  split_ifs
  · exact h.pipeWriteFull hx written []
  · exact (h.store _).pipeWriteFull hx _ _
  · exact (h.tidy.store _).ends

lemma Running.pipeWrite (h : Running x (waitersWith pipes queues i p) place procs)
    (hx : place x = some (.write i)) (src : List UInt8) :
    Ends x pipes queues i place (p.pipeWrite procs src) := by
  unfold Pipe.pipeWrite
  split_ifs
  · exact h.tidy.ends
  · exact h.tidy.ends
  · exact h.tidy.ends
  · exact h.pipeWriteSection hx src 0

lemma Tidy.pipeTryWrite (h : Tidy (· = x) (waitersWith pipes queues i p) place procs)
    (src : List UInt8) : Ends x pipes queues i place (p.pipeTryWrite procs src) := by
  unfold Pipe.pipeTryWrite
  split_ifs
  · exact h.ends
  · exact h.ends
  · exact h.ends
  · exact h.ends
  · exact (h.store _).ends

lemma Tidy.pipeClose (h : Tidy (· = x) (waitersWith pipes queues i p) place procs) :
    Ends x pipes queues i place (p.pipeClose procs) :=
  Tidy.ends (h.pipeWakeAllReaders.pipeWakeAllWriters.same rfl rfl)

lemma Tidy.pipeCloseFd (h : Tidy (· = x) (waitersWith pipes queues i p) place procs)
    (isRead : Bool) : Ends x pipes queues i place (p.pipeCloseFd procs isRead) := by
  have hfree : ∀ (q : Pipe) (procs : ProcTable), Tidy (· = x) (waitersWith pipes queues i q) place procs →
      Tidy (· = x) (waitersWith pipes queues i q.freeIfClosed) place procs := by
    intro q procs hq
    unfold Pipe.freeIfClosed
    split_ifs
    · exact hq.same rfl rfl
    · exact hq
  refine Tidy.ends (hfree _ _ ?_)
  unfold Pipe.pipeCloseFd
  cases isRead with
  | true =>
    rw [if_pos rfl]
    dsimp only
    split_ifs
    · refine Tidy.pipeWakeAllWriters ?_
      exact h.same rfl rfl
    · exact h.same rfl rfl
  | false =>
    rw [if_neg (by decide)]
    dsimp only
    split_ifs
    · refine Tidy.pipeWakeAllReaders ?_
      exact h.same rfl rfl
    · exact h.same rfl rfl

/-- **One section of a call on a pipe.** -/
lemma Tidy.run {c : PipeCall} (h : Tidy (· = x) (waitersWith pipes queues c.slot p) place procs)
    (hx : place x = (IpcCall.pipe c).spot)
    (hcur : (IpcCall.pipe c).spot ≠ none → ∀ q, procs.processGetCurrent = some q → q = x) :
    Ends x pipes queues c.slot place (c.run p procs) := by
  unfold PipeCall.run
  cases hop : c.op with
  | read count =>
    simp only [IpcCall.spot, hop] at hx hcur
    have hrun : Running x _ place procs := ⟨h, hcur nofun⟩
    split_ifs
    · exact hrun.pipeReadSection hx count
    · exact hrun.pipeRead hx count
  | write src =>
    simp only [IpcCall.spot, hop] at hx hcur
    have hrun : Running x _ place procs := ⟨h, hcur nofun⟩
    split_ifs
    · exact hrun.pipeWriteSection hx src c.written
    · exact hrun.pipeWrite hx src
  | tryRead count => exact h.pipeTryRead count
  | tryWrite src => exact h.pipeTryWrite src
  | closeFd => exact h.pipeCloseFd (c.fd % 2 == 0)
  | close => exact h.pipeClose

end

/-! ## The sections of the message calls -/

section

variable {pipes : PipeRef → Pipe} {queues queues' : QueueRef → MsgQueue} {s s' : MsgState}
  {q : QueueRef} {out : ProcRef → Prop} {place : ProcRef → Option Spot} {procs : ProcTable}
  {x : ProcRef}

lemma waitersAt_congr (h : ∀ q, (queues' q).waiters = (queues q).waiters) :
    waitersAt pipes queues' = waitersAt pipes queues := by
  funext a
  cases a with
  | read i | write i => rfl
  | queue q => exact h q

lemma waitersAt_queue (s : MsgState) (q : QueueRef) (ws : List ProcRef) :
    waitersAt pipes (s.modifyQueue q fun queue => { queue with waiters := ws }).queues =
      Function.update (waitersAt pipes s.queues) (.queue q) ws := by
  funext a
  cases a with
  | read i | write i => simp [waitersAt]
  | queue r =>
    by_cases hr : r = q <;> simp [waitersAt, MsgState.modifyQueue, hr]

lemma modifyQueue_waiters {f : MsgQueue → MsgQueue} (hf : ∀ queue, (f queue).waiters = queue.waiters)
    (r : QueueRef) : ((s.modifyQueue q f).queues r).waiters = (s.queues r).waiters := by
  by_cases hr : r = q
  · subst hr
    simp [MsgState.modifyQueue, hf]
  · simp [MsgState.modifyQueue, hr]

lemma enqueue_waiters (c : MsgRef) (r : QueueRef) : ((s.enqueue q c).queues r).waiters = (s.queues r).waiters := by
  unfold MsgState.enqueue
  refine (modifyQueue_waiters ?_ r).trans ?_
  · exact fun _ => rfl
  · split
    · rfl
    · refine modifyQueue_waiters ?_ r
      exact fun _ => rfl

lemma dequeue_waiters (c : MsgRef) (r : QueueRef) : ((s.dequeue q c).queues r).waiters = (s.queues r).waiters := by
  refine modifyQueue_waiters ?_ r
  exact fun _ => rfl

lemma msgSendAlloc_waiters {c : MsgRef} (h : s.msgSendAlloc q = .ok (c, s')) (r : QueueRef) :
    (s'.queues r).waiters = (s.queues r).waiters := by
  unfold MsgState.msgSendAlloc MsgState.msgAlloc at h
  split_ifs at h
  cases hfree : s.freeMessages with
  | none => simp [hfree] at h
  | some d =>
    simp only [hfree] at h
    obtain ⟨-, rfl⟩ := h
    rfl

lemma Tidy.msgWakeReceiver (h : Tidy out (waitersAt pipes s.queues) place procs) :
    Tidy out (waitersAt pipes (s.msgWakeReceiver procs q).1.queues) place
      (s.msgWakeReceiver procs q).2 := by
  unfold MsgState.msgWakeReceiver
  split
  · exact h
  · rename_i y rest hlist
    rw [waitersAt_queue]
    exact h.wake hlist

lemma Running.msgBlockReceiver (h : Running x (waitersAt pipes s.queues) place procs)
    (hx : place x = some (.queue q)) :
    Tidy (fun _ => False) (waitersAt pipes (s.msgBlockReceiver procs q).1.queues) place
      (s.msgBlockReceiver procs q).2 := by
  unfold MsgState.msgBlockReceiver
  split
  · exact h.tidy.mono nofun
  · rename_i current hcur
    obtain rfl := h.owns current hcur
    split_ifs
    · have hlists := @waitersAt_queue pipes s q ((s.queues q).waiters ++ [current])
      have hblock := h.tidy.block (h.tidy.unlisted current rfl) hx
      exact hlists ▸ hblock
    · exact h.tidy.mono nofun

lemma Tidy.msgSendLink (h : Tidy out (waitersAt pipes s.queues) place procs) {c : MsgRef}
    {srcPid destPid : UInt32} {msg : List UInt8} {flags : UInt32} :
    Tidy out (waitersAt pipes (s.msgSendLink procs q c srcPid destPid msg flags).1.queues) place
      (s.msgSendLink procs q c srcPid destPid msg flags).2 := by
  refine Tidy.msgWakeReceiver ?_
  rwa [waitersAt_congr (enqueue_waiters c)]

end

namespace IpcMachine

variable {m : IpcMachine} {p q : ProcRef} {out : ProcRef → Prop} {lists : Spot → List ProcRef} {procs : ProcTable}

/-- The waiter lists of the machine are tidy. -/
def Good (m : IpcMachine) : Prop := Tidy (fun _ => False) m.waiters m.place m.procs

lemma Good.unlisted (h : m.Good) (hp : m.place p = none) : m.Unlisted p := by
  intro a ha
  have hplace := h.exact.place a p ha
  rw [hp] at hplace
  cases hplace

lemma tidy_calls {calls : ProcRef → Option IpcCall} {c : Option IpcCall}
    (h : Tidy out lists (fun x => (calls x).bind IpcCall.spot) procs) (hp : ∀ a, p ∉ lists a) :
    Tidy out lists (fun x => (Function.update calls p c x).bind IpcCall.spot) procs := by
  refine ⟨h.exact.congr h.exact.asleep fun a x hx => ?_, h.woken, h.unlisted⟩
  have hne : x ≠ p := fun hxp => hp a (hxp ▸ hx)
  rw [Function.update_of_ne hne]

lemma Good.begun (h : m.Good) (hp : m.calls p = none) (c : IpcCall) : (m.begun p c).Good := by
  have hplace : m.place p = none := by rw [place, hp]; rfl
  exact tidy_calls h (h.unlisted hplace)

lemma Good.unlisted_run (h : m.Good) {c : IpcCall} (hc : m.calls p = some c)
    (ho : m.Orderly (.run p)) : m.Unlisted p := by
  by_cases hspot : c.spot = none
  · refine h.unlisted ?_
    rwa [place, hc]
  · exact (ho c hc hspot).2

lemma Good.ranPipe (h : m.Good) {c : PipeCall} (hc : m.calls p = some (.pipe c))
    (ho : m.Orderly (.run p)) : (m.ranPipe p c).Good := by
  have hout := h.unlisted_run hc ho
  have hstart : Tidy (· = p) (waitersWith m.pipes.pipes m.msgs.queues c.slot (m.pipes.pipes c.slot))
      m.place m.procs := by
    unfold waitersWith
    rw [Function.update_eq_self]
    exact ⟨h.exact, h.woken, fun x hx => hx ▸ hout⟩
  have hends := hstart.run (by rw [place, hc]; rfl) fun hspot => (ho _ hc hspot).1
  unfold IpcMachine.ranPipe
  obtain ⟨r, hr⟩ : ∃ r, c.run (m.pipes.pipes c.slot) m.procs = r := ⟨_, rfl⟩
  rw [hr] at hends ⊢
  have hgood : Tidy (fun _ => False) (waitersWith m.pipes.pipes m.msgs.queues c.slot r.pipe)
      m.place r.procs := hends.mono nofun
  cases hanswer : r.answer with
  | none =>
    -- the call waits on, in the same place
    have hplace : (fun x => (Function.update m.calls p (some (.pipe (c.next r))) x).bind
        IpcCall.spot) = m.place := by
      funext x
      rw [place, Function.update_apply]
      split_ifs with hx
      · rw [hx, hc]
        rfl
      · rfl
    unfold Good place
    dsimp only
    rw [hanswer]
    exact hplace ▸ hgood
  | some n =>
    have hp : ∀ a, p ∉ waitersWith m.pipes.pipes m.msgs.queues c.slot r.pipe a :=
      hends.unlisted p ⟨rfl, by simp [hanswer]⟩
    exact tidy_calls hgood hp

lemma Good.ranReceive (h : m.Good) {q : QueueRef} {maxLen : Nat} {blocking : Bool}
    (hc : m.calls p = some (.receive q maxLen blocking)) (ho : m.Orderly (.run p)) :
    (m.ranReceive p q maxLen blocking).Good := by
  have hout := h.unlisted_run hc ho
  have hdone : Tidy (fun _ => False) m.waiters
      (fun x => (Function.update m.calls p none x).bind IpcCall.spot) m.procs := tidy_calls h hout
  unfold IpcMachine.ranReceive MsgState.msgReceiveTake
  by_cases hzero : (m.msgs.queues q).count = 0
  · rw [if_pos hzero]
    cases blocking with
    | true =>
      have hplace : m.place p = some (.queue q) := by rw [place, hc]; rfl
      have hrun : Running p (waitersAt m.pipes.pipes m.msgs.queues) m.place m.procs :=
        ⟨⟨h.exact, h.woken, fun x hx => hx ▸ hout⟩, (ho _ hc nofun).1⟩
      exact hrun.msgBlockReceiver hplace
    | false => exact hdone
  · rw [if_neg hzero]
    split
    · rename_i heq
      split at heq <;> cases heq
    · rename_i heq
      split at heq
      · cases heq
        exact hdone
      · cases heq
    · rename_i heq
      split at heq
      · cases heq
      · cases heq
        unfold Good waiters
        dsimp only [MsgState.msgFree]
        rwa [waitersAt_congr (dequeue_waiters _)]

lemma Good.sent (h : m.Good) (view : ProcTable) (destPid : UInt32) (msg : List UInt8)
    (flags : UInt32) : (m.sent view destPid msg flags).Good := by
  unfold IpcMachine.sent
  split
  · exact h
  · split
    · exact h
    · rename_i c msgs halloc
      refine Tidy.msgSendLink ?_
      rwa [waitersAt_congr (msgSendAlloc_waiters halloc)]

lemma Good.pipeCreate (h : m.Good) : Good { m with pipes := m.pipes.pipeCreate.2.2 } := by
  unfold PipeTable.pipeCreate
  split
  · exact h
  · rename_i i hi
    have hlists : waitersWith m.pipes.pipes m.msgs.queues i (PipeTable.newPipe m.pipes.nextId) =
        Function.update (Function.update m.waiters (.read i) []) (.write i) [] := by
      rw [show m.waiters = waitersWith m.pipes.pipes m.msgs.queues i (m.pipes.pipes i) by
        rw [waitersWith, Function.update_eq_self]; rfl]
      rw [← waitersWith_read, ← waitersWith_write]
      exact waitersWith_congr rfl rfl
    have hexact := (h.exact.clear (.read i)).clear (.write i)
    rw [← hlists] at hexact
    exact ⟨hexact, h.woken, nofun⟩

/-- The process table may change if the listed processes stay `BLOCKED`. -/
lemma Good.frame (h : m.Good) {procs : ProcTable} (hstate : ∀ a, ∀ p ∈ m.waiters a, (procs.table p).state = .blocked)
    (hwoken : ∀ t ∈ procs.transitions, t.2.2 = .ready → t.2.1 = .blocked) :
    Good { m with procs := procs } :=
  ⟨h.exact.congr hstate fun _ _ _ => rfl, hwoken, nofun⟩

lemma Good.dispatch (h : m.Good) (hq : m.Unlisted q) :
    Good { m with procs := m.procs.processSetState q .running } := by
  refine h.frame (fun a p hp => ?_) (h.woken_setState nofun)
  have hblocked := h.exact.asleep a p hp
  have hne : p ≠ q := fun hpq => hq a (hpq ▸ hp)
  rcases (ProcTable.processSetState_running m.procs q).2.2 p hne with hsame | ⟨hrun, -⟩
  · rwa [hsame]
  · rw [hblocked] at hrun
    cases hrun

lemma Good.schedule (h : m.Good) {old new : ProcRef} (hnew : m.Unlisted new) :
    Good { m with procs := scheduled m.procs old new } := by
  refine h.frame (fun a p hp => ?_) ?_
  · have hblocked := h.exact.asleep a p hp
    have hne : p ≠ new := fun hpn => hnew a (hpn ▸ hp)
    unfold scheduled
    rw [ProcTable.modify_of_ne hne]
    split_ifs with hrun
    · have hold : p ≠ old := by
        rintro rfl
        rw [hblocked] at hrun
        cases hrun
      rwa [ProcTable.modify_of_ne hold]
    · exact hblocked
  · have hlog : (scheduled m.procs old new).transitions = m.procs.transitions := by
      unfold scheduled
      split_ifs <;> rfl
    rw [hlog]
    exact h.woken

lemma Good.create (h : m.Good) (name : List UInt8) : Good { m with procs := (m.procs.processCreate name).2 } := by
  refine h.frame (fun a p hp => ?_) ?_
  · have hblocked := h.exact.asleep a p hp
    rcases ProcTable.processCreate_states m.procs name p with ⟨hsame, -⟩ | ⟨hfree, -⟩
    · rwa [hsame]
    · rw [hblocked] at hfree
      cases hfree
  · rw [ProcTable.processCreate_transitions]
    exact h.woken

lemma Good.exit (h : m.Good) (hp : m.calls p = none) (howns : m.OwnsCpu p) (status : Int32) :
    Good { m with procs := m.procs.processExit status } := by
  cases hcur : m.procs.current with
  | none =>
    have hsame : m.procs.processExit status = m.procs := by
      unfold ProcTable.processExit
      rw [hcur]
    rwa [hsame]
  | some cur =>
    obtain rfl := howns cur hcur
    have hout : m.Unlisted cur := h.unlisted (by rw [place, hp]; rfl)
    obtain ⟨-, -, hlog, hother⟩ := ProcTable.processExit_states hcur status
    refine h.frame (fun a x hx => ?_) (hlog ▸ h.woken)
    rw [(hother x fun hxc => hout a (hxc ▸ hx)).1]
    exact h.exact.asleep a x hx

lemma good_init (pmm : Pmm) : Good { procs := .processInit { pmm := pmm } } := by
  have hempty : ∀ a, waiters { procs := .processInit { pmm := pmm } } a = [] := by
    intro a
    cases a <;> rfl
  refine ⟨⟨fun a => ?_, fun a p hp => ?_, fun a p hp => ?_⟩, ?_, nofun⟩
  · rw [hempty]
    exact .nil
  · simp [hempty] at hp
  · simp [hempty] at hp
  · intro t ht hready
    rw [ProcTable.processInit_transitions pmm t ht] at hready
    cases hready

/-- **The waiter lists are exact** in every run whose steps are orderly. -/
theorem exact_of_steps {pmm : Pmm} {es : List IpcEvent}
    (hrun : Steps OrderlyStep { procs := .processInit { pmm := pmm } } es m) : m.Exact := by
  have h : m.Good := hrun.invariant (fun m e m' hm hst => ?_) (good_init pmm)
  · refine ⟨h.exact.nodup, h.exact.asleep, fun a p hp => ?_, h.woken⟩
    exact Option.bind_eq_some_iff.mp (h.exact.place a p hp)
  obtain ⟨hs, ho⟩ := hst
  cases e with
  | pipeStart p fd op =>
    obtain ⟨hfree, slot, -, rfl⟩ := hs
    exact hm.begun hfree _
  | receiveStart p maxLen blocking =>
    obtain ⟨hfree, q, -, rfl⟩ := hs
    exact hm.begun hfree _
  | run p =>
    obtain ⟨c, hc, rfl⟩ := hs
    cases c with
    | pipe c => exact hm.ranPipe hc ho
    | receive q maxLen blocking => exact hm.ranReceive hc ho
  | pipeCreate =>
    obtain rfl := hs
    exact hm.pipeCreate
  | send view destPid msg flags =>
    obtain rfl := hs
    exact hm.sent view destPid msg flags
  | dispatch q =>
    obtain rfl := hs
    exact hm.dispatch ho
  | schedule old new =>
    obtain rfl := hs
    exact hm.schedule ho
  | create name =>
    obtain rfl := hs
    exact hm.create name
  | exit p status =>
    obtain ⟨hfree, rfl⟩ := hs
    exact hm.exit hfree ho status

/-- The machine after `process_init` in a memory of eight free pages. -/
def booted : IpcMachine :=
  { procs := .processInit { pmm := ⟨fun i => if i = 0 then 1 else 0, 9, 1⟩ } }

/-- A second process is created, and it reads from an empty pipe. -/
theorem exact_of_short_run : ∃ m,
    Steps OrderlyStep booted
      [.create [], .dispatch 1, .pipeCreate, .pipeStart 1 0 (.read 1), .run 1] m ∧
    m.waiters (.read 0) = [1] ∧ m.Exact := by
  obtain ⟨m₁, h₁, hstate, hcurrent, c, hc, hlist⟩ : ∃ m₁, Steps OrderlyStep booted
      [.create [], .dispatch 1, .pipeCreate, .pipeStart 1 0 (.read 1)] m₁ ∧
      (m₁.procs.table 1).state = .running ∧ m₁.procs.current = some 1 ∧
      ∃ c, m₁.calls 1 = some c ∧ (m₁.ran 1 c).waiters (.read 0) = [1] := by
    refine ⟨_, .cons ⟨rfl, trivial⟩ (.cons ⟨rfl, ?_⟩ (.cons ⟨rfl, trivial⟩
      (.cons ⟨⟨rfl, 0, rfl, rfl⟩, trivial⟩ (.nil _)))), ?_, ?_, _, rfl, ?_⟩
    · intro a ha
      cases a <;> cases ha
    · decide
    · decide
    · decide
  -- a process in a list would be blocked
  have hout : m₁.Unlisted 1 := by
    intro a ha
    have hblocked := (exact_of_steps h₁).blocked a 1 ha
    rw [hstate] at hblocked
    cases hblocked
  have howns : m₁.OwnsCpu 1 := fun q hq => Option.some.inj (hq.symm.trans hcurrent)
  have hlast : OrderlyStep m₁ (.run 1) (m₁.ran 1 c) :=
    ⟨⟨c, hc, rfl⟩, fun _ _ _ => ⟨howns, hout⟩⟩
  have hrun := h₁.append (.cons hlast (.nil _))
  exact ⟨_, hrun, hlist, exact_of_steps hrun⟩

/-- A process is created, reads from an empty pipe, and takes the lock again. -/
def readAndSpin (reader : ProcRef) : List IpcEvent :=
  [.create [], .dispatch reader, .pipeCreate, .pipeStart reader 0 (.read 1), .run reader, .run reader]

/-- A byte is written, the reader takes it and exits, and another byte is written. -/
def writeExitWrite (reader writer : ProcRef) : List IpcEvent :=
  [.dispatch writer, .pipeStart writer 1 (.write [7]), .run writer, .dispatch reader, .run reader,
    .exit reader 0, .pipeStart writer 1 (.write [8]), .run writer]

/-- The reader is registered twice, and the second write wakes the slot of a process that has
exited. -/
theorem wakes_freed_slot : (∃ m, Steps Step booted (readAndSpin 1) m ∧ m.waiters (.read 0) = [1, 1] ∧ ¬ m.Exact) ∧
    ∃ m, Steps Step booted (readAndSpin 1 ++ writeExitWrite 1 0) m ∧
      (1, .invalid, .ready) ∈ m.procs.transitions ∧ ¬ m.Exact := by
  constructor
  · obtain ⟨m, hm, hlist⟩ := Option.map_eq_some_iff.mp
      (show ((readAndSpin 1).foldlM exec booted).map (fun m => m.waiters (.read 0)) = some [1, 1] by
        decide)
    refine ⟨m, .of_exec step_of_exec hm, hlist, fun h => ?_⟩
    have hnodup := h.nodup (.read 0)
    rw [hlist] at hnodup
    exact absurd hnodup (by decide)
  · obtain ⟨m, hm, hmem⟩ := Option.map_eq_some_iff.mp
      (show ((readAndSpin 1 ++ writeExitWrite 1 0).foldlM exec booted).map (fun m =>
        decide ((1, .invalid, .ready) ∈ m.procs.transitions)) = some true by decide)
    have hlog := of_decide_eq_true hmem
    refine ⟨m, .of_exec step_of_exec hm, hlog, fun h => ?_⟩
    have hblocked := h.woken _ hlog rfl
    cases hblocked

end IpcMachine

end AAAos
