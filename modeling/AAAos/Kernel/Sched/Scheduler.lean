import AAAos.Kernel.Proc.ProcessTree
import AAAos.Lib.RingBuffer

/-!
# The round-robin scheduler

`kernel/sched/scheduler.c`.  The ready queue is a ring of 256 process pointers with a head, a tail
and a count.  The scheduler keeps a current process of its own, next to the one of `process.c`, and
writes process states itself where it switches; only `scheduler_init` goes through
`process_set_state`.

The context switch and the timer hardware are left out, as are the statistics, which nothing reads.
Where the scheduler finds no process at all it halts the machine; here the state stays as it is.

The second half says what the queue operations and `scheduler_schedule` do: on a ring that holds a
list of processes (`Queues`) they append to the list, take its first process, and make it the running
one (`schedule_cases`).
-/

namespace AAAos

/-- `SCHEDULER_TIME_SLICE`. -/
def schedulerTimeSlice : UInt64 := 10

/-- `SCHEDULER_MAX_QUEUE_SIZE`. -/
def schedulerMaxQueueSize : Nat := 256

/-- The static state of `scheduler.c`, and the process table. -/
structure Sched where
  readyQueue : Nat → Option ProcRef := fun _ => none
  queueHead : Nat := 0
  queueTail : Nat := 0
  queueCount : Nat := 0
  current : Option ProcRef := none
  running : Bool := false
  needReschedule : Bool := false
  procs : ProcTable

namespace Sched

/-! ## The ready queue -/

/-- `queue_full`. -/
def queueFull (s : Sched) : Bool := schedulerMaxQueueSize ≤ s.queueCount

/-- `queue_enqueue` of a process. -/
def queueEnqueue (s : Sched) (p : ProcRef) : Bool × Sched :=
  if s.queueFull then (false, s)
  else
    (true, { s with
      readyQueue := Function.update s.readyQueue s.queueTail (some p)
      queueTail := (s.queueTail + 1) % schedulerMaxQueueSize
      queueCount := s.queueCount + 1 })

/-- `queue_dequeue`. -/
def queueDequeue (s : Sched) : Option ProcRef × Sched :=
  if s.queueCount = 0 then (none, s)
  else
    (s.readyQueue s.queueHead, { s with
      readyQueue := Function.update s.readyQueue s.queueHead none
      queueHead := (s.queueHead + 1) % schedulerMaxQueueSize
      queueCount := s.queueCount - 1 })

/-! ## Scheduling -/

/-- Writing to the fields of one process. -/
def modifyProc (s : Sched) (p : ProcRef) (f : Process → Process) : Sched :=
  { s with procs := s.procs.modify p f }

/-- `scheduler_schedule` puts the current process back into the queue, if it is still running. -/
def requeueCurrent (s : Sched) : Sched :=
  match s.current with
  | none => s
  | some old =>
    if (s.procs.table old).state = .running then
      ((s.modifyProc old fun proc => { proc with state := .ready }).queueEnqueue old).2
    else s

/-- `scheduler_schedule` sets up the process it has chosen. -/
def dispatch (s : Sched) (p : ProcRef) : Sched :=
  let started := s.modifyProc p fun proc =>
    { proc with state := .running, timeSlice := schedulerTimeSlice }
  if s.current = some p then started else { started with current := some p }

/-- `scheduler_schedule`. -/
def schedulerSchedule (s : Sched) : Option ProcRef × Sched :=
  let (next, left) := s.requeueCurrent.queueDequeue
  match next with
  | some p => (some p, left.dispatch p)
  | none =>
    match left.procs.processGetByPid pidIdle with
    | some idle => (some idle, left.dispatch idle)
    | none => (none, left)

/-- `scheduler_get_current`. -/
def schedulerGetCurrent (s : Sched) : Option ProcRef := s.current

/-- `scheduler_init`. -/
def schedulerInit (s : Sched) : Sched :=
  let cleared : Sched := { s with
    readyQueue := fun _ => none, queueHead := 0, queueTail := 0, queueCount := 0 }
  let started := match cleared.procs.processGetByPid pidIdle with
    | none => cleared
    | some idle =>
      let chosen := { cleared with current := some idle }.modifyProc idle fun proc =>
        { proc with timeSlice := schedulerTimeSlice }
      { chosen with procs := chosen.procs.processSetState idle .running }
  { started with running := true }

/-- `scheduler_add`. -/
def schedulerAdd (s : Sched) (p : ProcRef) : Bool × Sched :=
  if (s.procs.table p).state ≠ .ready then (false, s)
  else if s.queueFull then (false, s)
  else
    (s.modifyProc p fun proc =>
      { proc with
        timeSlice := if proc.timeSlice = 0 then schedulerTimeSlice else proc.timeSlice }).queueEnqueue p

/-- `scheduler_tick` on the current process: a tick of its slice is used up, and when it is the last
one a switch is due, unless nobody waits. -/
def useTick (s : Sched) (p : ProcRef) : Sched :=
  let used := s.modifyProc p fun proc =>
    { proc with
      totalTicks := proc.totalTicks + 1
      timeSlice := if 0 < proc.timeSlice then proc.timeSlice - 1 else proc.timeSlice }
  if (used.procs.table p).timeSlice = 0 then
    if 0 < used.queueCount then { used with needReschedule := true }
    else used.modifyProc p fun proc => { proc with timeSlice := schedulerTimeSlice }
  else used

/-- `scheduler_tick`. -/
def schedulerTick (s : Sched) : Sched :=
  match s.current with
  | none => s
  | some p =>
    if s.running then
      let used := s.useTick p
      if used.needReschedule then { used with needReschedule := false }.schedulerSchedule.2
      else used
    else s

/-- `scheduler_yield`. -/
def schedulerYield (s : Sched) : Sched :=
  if s.running then
    let given := match s.current with
      | none => s
      | some p => s.modifyProc p fun proc => { proc with timeSlice := 0 }
    given.schedulerSchedule.2
  else s

/-- `process_init` and `scheduler_init`. -/
def boot (pmm : Pmm) : Sched := schedulerInit { procs := .processInit { pmm := pmm } }

/-! ## The queue as a list -/

variable {s s' : Sched} {p n : ProcRef} {l rest : List ProcRef}

@[simp] lemma modifyProc_procs (s : Sched) (p : ProcRef) (f : Process → Process) :
    (s.modifyProc p f).procs = s.procs.modify p f := rfl

@[simp] lemma modifyProc_current (s : Sched) (p : ProcRef) (f : Process → Process) :
    (s.modifyProc p f).current = s.current := rfl

/-- The processes in the ready queue, first to last. -/
def readyList (s : Sched) : List ProcRef :=
  (ringContents schedulerMaxQueueSize s.readyQueue s.queueHead s.queueCount).filterMap id

/-- The ring holds the list. -/
structure Queues (s : Sched) (l : List ProcRef) : Prop where
  head : s.queueHead < schedulerMaxQueueSize
  tail : s.queueTail = (s.queueHead + l.length) % schedulerMaxQueueSize
  count : s.queueCount = l.length
  fits : l.length ≤ schedulerMaxQueueSize
  cells : ringContents schedulerMaxQueueSize s.readyQueue s.queueHead l.length = l.map some

lemma Queues.readyList_eq (h : s.Queues l) : s.readyList = l := by
  rw [readyList, h.count, h.cells, List.filterMap_map]
  exact List.filterMap_some

lemma Queues.congr (h : s.Queues l) (hqueue : s'.readyQueue = s.readyQueue)
    (hhead : s'.queueHead = s.queueHead) (htail : s'.queueTail = s.queueTail)
    (hcount : s'.queueCount = s.queueCount) : s'.Queues l :=
  ⟨hhead ▸ h.head, by rw [htail, hhead]; exact h.tail, hcount ▸ h.count, h.fits, by
    rw [hqueue, hhead]
    exact h.cells⟩

lemma Queues.modifyProc (h : s.Queues l) (p : ProcRef) (f : Process → Process) :
    (s.modifyProc p f).Queues l := h.congr rfl rfl rfl rfl

lemma Queues.enqueue (h : s.Queues l) (hroom : l.length < schedulerMaxQueueSize) :
    (s.queueEnqueue p).1 = true ∧ (s.queueEnqueue p).2.Queues (l ++ [p]) ∧
      (s.queueEnqueue p).2.procs = s.procs ∧ (s.queueEnqueue p).2.current = s.current := by
  have hfull : ¬ s.queueFull = true := by
    rw [queueFull, decide_eq_true_eq, h.count]
    omega
  have hone : l.length + [some p].length ≤ schedulerMaxQueueSize := by
    rw [List.length_singleton]
    omega
  obtain ⟨hcells, hpos⟩ := @ringContents_ringPut _ _ s.readyQueue _ _ _ _ h.tail hone
  rw [queueEnqueue, if_neg hfull]
  refine ⟨rfl, ⟨h.head, ?_, ?_, ?_, ?_⟩, rfl, rfl⟩
  · rw [List.length_append]
    exact hpos
  · rw [List.length_append, List.length_singleton]
    exact congrArg (· + 1) h.count
  · rw [List.length_append, List.length_singleton]
    omega
  · rw [List.length_append, List.map_append, ← h.cells]
    exact hcells

lemma Queues.dequeue (h : s.Queues (p :: l)) : s.queueDequeue.1 = some p ∧ s.queueDequeue.2.Queues l ∧
      s.queueDequeue.2.procs = s.procs ∧ s.queueDequeue.2.current = s.current := by
  have hcount : s.queueCount = l.length + 1 := h.count
  have hfits : l.length + 1 ≤ schedulerMaxQueueSize := h.fits
  have hcells := h.cells
  rw [List.length_cons, Nat.add_comm l.length 1, ringContents_add, List.map_cons] at hcells
  have hone : ringContents schedulerMaxQueueSize s.readyQueue s.queueHead 1 = [s.readyQueue s.queueHead] := by
    simp [ringContents, Nat.mod_eq_of_lt h.head]
  rw [hone, List.singleton_append, List.cons.injEq] at hcells
  -- the cell that is cleared is none of those that follow
  have hclear : ringContents schedulerMaxQueueSize (Function.update s.readyQueue s.queueHead none)
      ((s.queueHead + 1) % schedulerMaxQueueSize) l.length = l.map some := by
    rw [← hcells.2]
    refine List.map_congr_left fun i hi => Function.update_of_ne ?_ _ _
    have hlt : i < l.length := List.mem_range.mp hi
    have hne := @ring_ne schedulerMaxQueueSize s.queueHead s.queueHead (s.queueHead + 1 + i)
      (by omega) (by omega) le_rfl
    rw [Nat.mod_eq_of_lt h.head] at hne
    rw [Nat.mod_add_mod]
    exact Ne.symm hne
  rw [queueDequeue, if_neg (by omega)]
  refine ⟨hcells.1, ⟨Nat.mod_lt _ (by decide), ?_, ?_, by omega, hclear⟩, rfl, rfl⟩
  · dsimp only
    rw [h.tail, Nat.mod_add_mod, List.length_cons]
    congr 1
    omega
  · dsimp only
    omega

lemma Queues.dequeue_nil (h : s.Queues []) : s.queueDequeue = (none, s) := by
  rw [queueDequeue, if_pos (show s.queueCount = 0 from h.count)]

/-! ## What a switch does -/

/-- The current process is running. -/
def CurrentRuns (s : Sched) (p : ProcRef) : Prop :=
  s.current = some p ∧ (s.procs.table p).state = .running

instance (s : Sched) (p : ProcRef) : Decidable (s.CurrentRuns p) :=
  inferInstanceAs (Decidable (_ ∧ _))

/-- The state of a process that is not chosen: the current process is not running any more. -/
def stateAfter (s : Sched) (p : ProcRef) : ProcessState :=
  if s.CurrentRuns p then .ready else (s.procs.table p).state

/-- Process `n` was chosen, and `rest` still waits. -/
structure Dispatched (s s' : Sched) (n : ProcRef) (rest : List ProcRef) : Prop where
  queues : s'.Queues rest
  current : s'.current = some n
  state : (s'.procs.table n).state = .running
  others : ∀ p, p ≠ n → (s'.procs.table p).state = s.stateAfter p
  procCurrent : s'.procs.current = s.procs.current

/-- A state before the choice: the current process has been put back. -/
structure Requeued (s t : Sched) (l : List ProcRef) : Prop where
  queues : t.Queues l
  current : t.current = s.current
  state : ∀ p, (t.procs.table p).state = s.stateAfter p
  pid : ∀ p, (t.procs.table p).pid = (s.procs.table p).pid
  procCurrent : t.procs.current = s.procs.current

lemma requeued_of_not_running (h : s.Queues l) (hnot : ∀ c, ¬ s.CurrentRuns c) :
    s.requeueCurrent = s ∧ Requeued s s l := by
  refine ⟨?_, h, rfl, fun p => (if_neg (hnot p)).symm, fun _ => rfl, rfl⟩
  unfold requeueCurrent
  split
  · rfl
  · rename_i old hold
    exact if_neg fun hrun => hnot old ⟨hold, hrun⟩

/-- The current process is ready now, and nothing else was changed but the queue. -/
lemma requeued_of_made_ready {t : Sched} {c : ProcRef} (hc : s.CurrentRuns c) (hqueues : t.Queues l)
    (hprocs : t.procs = s.procs.modify c fun proc => { proc with state := .ready })
    (hcurrent : t.current = s.current) : Requeued s t l := by
  refine ⟨hqueues, hcurrent, fun p => ?_, fun p => ?_, by rw [hprocs]; rfl⟩
  · rw [hprocs, stateAfter]
    by_cases hp : p = c
    · subst hp
      rw [if_pos hc, ProcTable.modify_self]
    · rw [if_neg fun h => hp (Option.some.inj (h.1.symm.trans hc.1)), ProcTable.modify_of_ne hp]
  · rw [hprocs]
    exact ProcTable.modify_state_pid s.procs c p .ready

lemma requeueCurrent_of_running {c : ProcRef} (hc : s.CurrentRuns c) : s.requeueCurrent =
    ((s.modifyProc c fun proc => { proc with state := .ready }).queueEnqueue c).2 := by
  simp only [requeueCurrent, hc.1, if_pos hc.2]

lemma requeued_of_running {c : ProcRef} (h : s.Queues l) (hc : s.CurrentRuns c)
    (hroom : l.length < schedulerMaxQueueSize) : Requeued s s.requeueCurrent (l ++ [c]) := by
  obtain ⟨-, hqueues, hprocs, hcurrent⟩ :=
    (h.modifyProc c fun proc => { proc with state := .ready }).enqueue (p := c) hroom
  rw [requeueCurrent_of_running hc]
  exact requeued_of_made_ready hc hqueues hprocs hcurrent

lemma requeued_of_full {c : ProcRef} (h : s.Queues l) (hc : s.CurrentRuns c)
    (hfull : schedulerMaxQueueSize ≤ l.length) : Requeued s s.requeueCurrent l := by
  have hqueue : (s.modifyProc c fun proc => { proc with state := .ready }).queueFull = true :=
    decide_eq_true (hfull.trans_eq h.count.symm)
  rw [requeueCurrent_of_running hc, queueEnqueue, if_pos hqueue]
  exact requeued_of_made_ready hc (h.modifyProc c _) rfl rfl

lemma Requeued.dispatch {t : Sched} (h : Requeued s t rest) (n : ProcRef) : Dispatched s (t.dispatch n) n rest := by
  have hprocs : (t.dispatch n).procs = t.procs.modify n fun proc =>
      { proc with state := .running, timeSlice := schedulerTimeSlice } := by
    unfold Sched.dispatch
    dsimp only
    split_ifs
    · rfl
    · rfl
  have hcurrent : (t.dispatch n).current = some n := by
    unfold Sched.dispatch
    dsimp only
    split_ifs with hsame
    · exact hsame
    · rfl
  have hqueues : (t.dispatch n).Queues rest := by
    refine h.queues.congr ?_ ?_ ?_ ?_
    all_goals
      unfold Sched.dispatch
      dsimp only
      split_ifs
      · rfl
      · rfl
  refine ⟨hqueues, hcurrent, ?_, fun p hp => ?_, ?_⟩
  · rw [hprocs, ProcTable.modify_self]
  · rw [hprocs, ProcTable.modify_of_ne hp]
    exact h.state p
  · rw [hprocs]
    exact h.procCurrent

/-- The queue when the choice is made. -/
def runnable (s : Sched) (l : List ProcRef) : List ProcRef :=
  match s.current with
  | none => l
  | some c => if (s.procs.table c).state = .running then l ++ [c] else l

lemma runnable_of_running {c : ProcRef} (hc : s.CurrentRuns c) : s.runnable l = l ++ [c] := by
  simp only [runnable, hc.1, if_pos hc.2]

lemma runnable_of_not_running (hnot : ∀ c, ¬ s.CurrentRuns c) : s.runnable l = l := by
  unfold runnable
  split
  · rfl
  · rename_i c hc
    exact if_neg fun hrun => hnot c ⟨hc, hrun⟩

lemma Requeued.schedule (h : Requeued s s.requeueCurrent (n :: rest)) :
    Dispatched s s.schedulerSchedule.2 n rest := by
  obtain ⟨hnext, hqueues, hprocs, hcurrent⟩ := h.queues.dequeue
  have heq : s.schedulerSchedule.2 = s.requeueCurrent.queueDequeue.2.dispatch n := by
    unfold schedulerSchedule
    rcases hpair : s.requeueCurrent.queueDequeue with ⟨next, left⟩
    rw [hpair] at hnext
    dsimp only at hnext
    subst hnext
    rfl
  rw [heq]
  refine Requeued.dispatch ⟨hqueues, hcurrent.trans h.current, ?_, ?_, ?_⟩ n
  · rw [hprocs]
    exact h.state
  · rw [hprocs]
    exact h.pid
  · rw [hprocs]
    exact h.procCurrent

/-- **What `scheduler_schedule` does.**  The first of the queue is chosen, after the current process
was put back; if the queue is empty, the process with PID 1; if there is none, nothing happens. -/
lemma schedule_cases (h : s.Queues l) (hroom : ∀ c, s.CurrentRuns c → l.length < schedulerMaxQueueSize) :
    (∃ n rest, s.runnable l = n :: rest ∧ Dispatched s s.schedulerSchedule.2 n rest) ∨
      (s.runnable l = [] ∧ (∀ c, ¬ s.CurrentRuns c) ∧ ((∃ idle, s.procs.processGetByPid pidIdle = some idle ∧
            Dispatched s s.schedulerSchedule.2 idle []) ∨
          s.procs.processGetByPid pidIdle = none ∧ s.schedulerSchedule.2 = s)) := by
  have hrequeued : Requeued s s.requeueCurrent (s.runnable l) := by
    by_cases hc : ∃ c, s.CurrentRuns c
    · obtain ⟨c, hc⟩ := hc
      rw [runnable_of_running hc]
      exact requeued_of_running h hc (hroom c hc)
    · obtain ⟨heq, hreq⟩ := requeued_of_not_running h (not_exists.mp hc)
      rw [runnable_of_not_running (not_exists.mp hc), heq]
      exact hreq
  cases hrun : s.runnable l with
  | cons n rest =>
    rw [hrun] at hrequeued
    exact .inl ⟨n, rest, rfl, hrequeued.schedule⟩
  | nil =>
    have hnot : ∀ c, ¬ s.CurrentRuns c := by
      intro c hc
      rw [runnable_of_running hc] at hrun
      exact absurd hrun (List.append_ne_nil_of_right_ne_nil l (List.cons_ne_nil c []))
    obtain ⟨heq, hreq⟩ := requeued_of_not_running h hnot
    rw [runnable_of_not_running hnot] at hrun
    subst hrun
    refine .inr ⟨rfl, hnot, ?_⟩
    unfold schedulerSchedule
    rw [heq, hreq.queues.dequeue_nil]
    cases hidle : s.procs.processGetByPid pidIdle with
    | none => exact .inr ⟨rfl, by simp only [hidle]⟩
    | some idle =>
      refine .inl ⟨idle, rfl, ?_⟩
      simp only [hidle]
      exact hreq.dispatch idle

/-! ## Events -/

end Sched

/-- The calls that reach the scheduler and the process states. -/
inductive SchedEvent
  | create (name : List UInt8)
  | add (p : ProcRef)
  | tick
  | yield
  | schedule
  | setState (p : ProcRef) (state : ProcessState)

namespace Sched

variable {s s' : Sched} {p : ProcRef} {l : List ProcRef}

def apply (s : Sched) : SchedEvent → Sched
  | .create name => { s with procs := (s.procs.processCreate name).2 }
  | .add p => (s.schedulerAdd p).2
  | .tick => s.schedulerTick
  | .yield => s.schedulerYield
  | .schedule => s.schedulerSchedule.2
  | .setState p state => { s with procs := s.procs.processSetState p state }

/-- The same states, queue and current processes; time slices may differ. -/
structure SameRun (s s' : Sched) : Prop where
  state : ∀ p, (s'.procs.table p).state = (s.procs.table p).state
  current : s'.current = s.current
  procCurrent : s'.procs.current = s.procs.current
  queues : ∀ l, s.Queues l → s'.Queues l

lemma SameRun.refl (s : Sched) : SameRun s s := ⟨fun _ => rfl, rfl, rfl, fun _ h => h⟩

lemma SameRun.trans {t : Sched} (h₁ : SameRun s s') (h₂ : SameRun s' t) : SameRun s t :=
  ⟨fun p => (h₂.state p).trans (h₁.state p), h₂.current.trans h₁.current,
    h₂.procCurrent.trans h₁.procCurrent, fun l h => h₂.queues l (h₁.queues l h)⟩

lemma sameRun_modifyProc (s : Sched) (p : ProcRef) {f : Process → Process}
    (hf : ∀ proc, (f proc).state = proc.state) : SameRun s (s.modifyProc p f) :=
  ⟨fun q => ProcTable.field_modify Process.state hf s.procs p q, rfl, rfl, fun _ h => h.modifyProc p f⟩

lemma sameRun_useTick (s : Sched) (p : ProcRef) : SameRun s (s.useTick p) := by
  unfold useTick
  dsimp only
  have hused := sameRun_modifyProc s p (f := fun proc =>
    { proc with
      totalTicks := proc.totalTicks + 1
      timeSlice := if 0 < proc.timeSlice then proc.timeSlice - 1 else proc.timeSlice }) fun _ => rfl
  split_ifs
  · exact hused.trans ⟨fun _ => rfl, rfl, rfl, fun _ h => h.congr rfl rfl rfl rfl⟩
  · refine hused.trans (sameRun_modifyProc _ p ?_)
    exact fun _ => rfl
  · exact hused

lemma slice_of_useTick (h : (s.useTick p).needReschedule = true) :
    s.needReschedule = true ∨ (s.procs.table p).timeSlice ≤ 1 := by
  by_contra hnot
  obtain ⟨hneed, hslice⟩ := not_or.mp hnot
  have hone : 1 < (s.procs.table p).timeSlice := UInt64.not_le.mp hslice
  have hpos : 0 < (s.procs.table p).timeSlice := UInt64.lt_trans (by decide) hone
  have hleft : (s.procs.table p).timeSlice - 1 ≠ 0 := by
    intro hzero
    have hnat := congrArg UInt64.toNat hzero
    rw [UInt64.toNat_sub_of_le _ _ (UInt64.le_of_lt hone)] at hnat
    rw [UInt64.lt_iff_toNat_lt] at hone
    simp only [UInt64.toNat_one, UInt64.toNat_zero] at hnat hone
    omega
  unfold useTick at h
  dsimp only at h
  rw [if_neg (by rw [modifyProc_procs, ProcTable.modify_self, if_pos hpos]; exact hleft)] at h
  exact hneed h

/-- A tick leaves all as it is, or switches, and then a switch was due or the slice is used up. -/
lemma tick_cases (s : Sched) :
    SameRun s s.schedulerTick ∨ ∃ t, SameRun s t ∧ s.schedulerTick = t.schedulerSchedule.2 ∧
      (s.needReschedule = true ∨ ∀ c, s.current = some c → (s.procs.table c).timeSlice ≤ 1) := by
  unfold schedulerTick
  split
  · exact .inl (.refl s)
  · rename_i p hp
    have hused := sameRun_useTick s p
    split_ifs with hrunning
    · dsimp only
      split_ifs with hneed
      · refine .inr ⟨{ s.useTick p with needReschedule := false }, hused.trans ?_, rfl, ?_⟩
        · exact ⟨fun _ => rfl, rfl, rfl, fun _ h => h.congr rfl rfl rfl rfl⟩
        · refine (slice_of_useTick hneed).imp_right fun hslice c hc => ?_
          rw [← Option.some.inj (hp.symm.trans hc)]
          exact hslice
      · exact .inl hused
    · exact .inl (.refl s)

lemma yield_cases (s : Sched) :
    SameRun s s.schedulerYield ∨ ∃ t, SameRun s t ∧ s.schedulerYield = t.schedulerSchedule.2 := by
  unfold schedulerYield
  split_ifs with hrunning
  · refine .inr ⟨_, ?_, rfl⟩
    split
    · exact .refl s
    · refine sameRun_modifyProc s _ ?_
      exact fun _ => rfl
  · exact .inl (.refl s)

/-- What `scheduler_add` does: a ready process goes to the end of the queue, unless that is full. -/
lemma add_cases (h : s.Queues l) (p : ProcRef) : s.schedulerAdd p = (false, s) ∨
      ((s.procs.table p).state = .ready ∧ l.length < schedulerMaxQueueSize ∧
        (s.schedulerAdd p).1 = true ∧ (s.schedulerAdd p).2.Queues (l ++ [p]) ∧
        (s.schedulerAdd p).2.current = s.current ∧
        (s.schedulerAdd p).2.procs.current = s.procs.current ∧
        ∀ q, ((s.schedulerAdd p).2.procs.table q).state = (s.procs.table q).state) := by
  unfold schedulerAdd
  split_ifs with hstate hfull
  · exact .inl rfl
  · exact .inl rfl
  · have hroom : l.length < schedulerMaxQueueSize := by
      rw [queueFull, decide_eq_true_eq, h.count] at hfull
      omega
    have hsame := sameRun_modifyProc s p (f := fun proc =>
      { proc with
        timeSlice := if proc.timeSlice = 0 then schedulerTimeSlice else proc.timeSlice }) fun _ => rfl
    obtain ⟨htrue, hqueues, hprocs, hcurrent⟩ := (hsame.queues l h).enqueue (p := p) hroom
    refine .inr ⟨not_not.mp hstate, hroom, htrue, hqueues, hcurrent, ?_, fun q => ?_⟩
    · rw [hprocs]
      rfl
    · rw [hprocs]
      exact hsame.state q

/-! ## Boot -/

end Sched

namespace ProcTable

variable {s : ProcTable} {p : ProcRef}

lemma processCreate_new {name : List UInt8} (h : (s.processCreate name).1 = some p) :
    ((s.processCreate name).2.table p).state = .ready ∧ ((s.processCreate name).2.table p).pid = s.nextPid := by
  unfold processCreate allocPcb at h ⊢
  cases hfind : (List.finRange processMaxCount).find? fun p => (s.table p).state = .invalid with
  | none =>
    rw [hfind] at h
    cases h
  | some q =>
    rw [hfind] at h
    simp only [Option.map_some] at h ⊢
    split_ifs at h ⊢
    obtain rfl : q = p := Option.some.inj h
    rw [(joinParent_same _ q).state q, (joinParent_same _ q).pid q]
    simp [giveStack, assignPid, modify]

/-- No process is created when all slots are in use, or there is no memory for a stack. -/
lemma processCreate_none {name : List UInt8} (h : (s.processCreate name).1 = none) :
    (∀ p, s.Live p) ∨ (pmmAllocPages s.pmm (processKernelStackSize / 4096)).1 = 0 := by
  unfold processCreate allocPcb at h
  cases hfind : (List.finRange processMaxCount).find? fun p => (s.table p).state = .invalid with
  | none =>
    refine .inl fun p hp => ?_
    exact List.find?_eq_none.mp hfind p (List.mem_finRange p) (decide_eq_true hp)
  | some q =>
    rw [hfind] at h
    simp only [Option.map_some] at h
    split_ifs at h with hzero
    exact .inr hzero

/-- The process `idle` is the only one.  It is running, and it is the current process. -/
structure OnlyIdle (s : ProcTable) (idle : ProcRef) : Prop where
  current : s.current = some idle
  pid : (s.table idle).pid = pidIdle
  running : (s.table idle).state = .running
  others : ∀ p, p ≠ idle → (s.table p).state = .invalid

lemma OnlyIdle.getByPid {idle : ProcRef} (h : s.OnlyIdle idle) : s.processGetByPid pidIdle = some idle := by
  cases hfind : s.processGetByPid pidIdle with
  | none =>
    unfold processGetByPid at hfind
    rw [if_neg (by decide)] at hfind
    have hnone := List.find?_eq_none.mp hfind idle (List.mem_finRange idle)
    rw [decide_eq_true_eq, h.running, h.pid] at hnone
    exact absurd ⟨by decide, rfl⟩ hnone
  | some p =>
    by_contra hne
    exact live_of_getByPid hfind (h.others p fun he => hne (congrArg some he))

lemma OnlyIdle.setRunning {idle : ProcRef} (hpid : (s.table idle).pid = pidIdle)
    (hothers : ∀ p, p ≠ idle → (s.table p).state = .invalid) :
    (s.processSetState idle .running).OnlyIdle idle := by
  obtain ⟨hcur, hrun, hrest⟩ := processSetState_running s idle
  refine ⟨hcur, (processSetState_pid s idle idle .running).trans hpid, hrun, fun p hp => ?_⟩
  rcases hrest p hp with hsame | ⟨hwas, -⟩
  · exact hsame.trans (hothers p hp)
  · exact absurd ((hothers p hp).symm.trans hwas) (by decide)

/-- After `process_init` there is the idle process, or no process, for want of memory. -/
lemma processInit_cases (pmm : Pmm) : (∃ idle, (processInit { pmm := pmm }).OnlyIdle idle) ∨
      (pmmAllocPages pmm (processKernelStackSize / 4096)).1 = 0 ∧ (processInit { pmm := pmm }).current = none ∧
        ∀ p, ((processInit { pmm := pmm }).table p).state = .invalid := by
  have hclear : ∀ c, ProcTable.current { table := fun _ => { pid := pidInvalid }, pmm := pmm } =
      some c → Live { table := fun _ => { pid := pidInvalid }, pmm := pmm } c := by
    intro c hc
    cases hc
  have hcases := processCreate_cases hclear [0x69, 0x64, 0x6c, 0x65]
  have hnew := @processCreate_new { table := fun _ => { pid := pidInvalid }, pmm := pmm }
  have hfail := @processCreate_none { table := fun _ => { pid := pidInvalid }, pmm := pmm }
  unfold processInit
  dsimp only
  split
  · rename_i s₂ heq
    rw [heq] at hcases
    rcases hcases with ⟨-, hsame, hcurrent⟩ | ⟨p, hsome, -⟩
    · refine .inr ⟨(hfail (congrArg Prod.fst heq)).resolve_left fun h => h 0 rfl, hcurrent, ?_⟩
      intro p
      by_contra hp
      exact (hsame.live p).mp hp rfl
    · cases hsome
  · rename_i idle s₂ heq
    have hready := hnew (congrArg Prod.fst heq)
    rw [heq] at hcases hready
    rcases hcases with ⟨hnone, -⟩ | ⟨p, hsome, hcreated⟩
    · cases hnone
    · obtain rfl : idle = p := Option.some.inj hsome
      refine .inl ⟨idle, OnlyIdle.setRunning ?_ fun p hp => ?_⟩
      · dsimp only
        rw [modify_self]
        exact hready.2
      · dsimp only
        rw [modify_of_ne hp]
        by_contra hlive
        exact ((hcreated.live p).mp hlive).elim hp fun h => h rfl

end ProcTable

namespace Sched

/-- **The machine at boot**: the queue is empty, and the idle process runs, or there is no process. -/
lemma boot_cases (pmm : Pmm) : (boot pmm).Queues [] ∧
      ((∃ idle, (boot pmm).current = some idle ∧ (boot pmm).procs.OnlyIdle idle) ∨
        (pmmAllocPages pmm (processKernelStackSize / 4096)).1 = 0 ∧ (boot pmm).current = none ∧
          ∀ p, ((boot pmm).procs.table p).state = .invalid) := by
  have hempty : ∀ s : Sched, s.queueHead = 0 → s.queueTail = 0 → s.queueCount = 0 → s.Queues [] :=
    fun s hhead htail hcount => ⟨by rw [hhead]; decide, by rw [hhead, htail]; rfl, hcount,
      Nat.zero_le _, rfl⟩
  unfold boot schedulerInit
  dsimp only
  rcases ProcTable.processInit_cases pmm with ⟨idle, honly⟩ | ⟨hzero, -, hnone⟩
  · rw [honly.getByPid]
    refine ⟨hempty _ rfl rfl rfl, .inl ⟨idle, rfl, ProcTable.OnlyIdle.setRunning ?_ ?_⟩⟩
    · rw [modifyProc_procs, ProcTable.modify_self]
      exact honly.pid
    · intro p hp
      rw [modifyProc_procs, ProcTable.modify_of_ne hp]
      exact honly.others p hp
  · have hfind : (ProcTable.processInit { pmm := pmm }).processGetByPid pidIdle = none := by
      cases hget : (ProcTable.processInit { pmm := pmm }).processGetByPid pidIdle with
      | none => rfl
      | some p => exact absurd (hnone p) (ProcTable.live_of_getByPid hget)
    rw [hfind]
    exact ⟨hempty _ rfl rfl rfl, .inr ⟨hzero, rfl, hnone⟩⟩

end Sched

end AAAos
