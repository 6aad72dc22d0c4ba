import AAAos.Kernel.Mm.Pmm
import Mathlib.Data.Fintype.Basic
import Mathlib.Data.List.FinRange

/-!
# The process table

`kernel/proc/process.c`.  Processes live in a table of 256 slots; a `process_t *` is a slot.  A
slot is in use while its state is not `INVALID`, and `process_exit` gives it back at once, with
whatever pointers to it other tables still hold.  PIDs are handed out by a counter that never goes
back, also when the creation then fails for want of a stack.

The saved CPU context and the page table pointer are written by `process_create` and read only by
the context switch; they are left out.
-/

namespace AAAos

/-- `PROCESS_MAX_COUNT`. -/
abbrev processMaxCount : Nat := 256

/-- `PROCESS_MAX_CHILDREN`. -/
def processMaxChildren : Nat := 32

/-- `PROCESS_KERNEL_STACK_SIZE`. -/
def processKernelStackSize : UInt64 := 16384

/-- `PROCESS_NAME_MAX`. -/
def processNameMax : Nat := 64

/-- `PID_INVALID`. -/
def pidInvalid : UInt32 := 0

/-- `PID_IDLE`. -/
def pidIdle : UInt32 := 1

/-- `PRIORITY_IDLE`. -/
def priorityIdle : UInt8 := 0

/-- `PRIORITY_DEFAULT`. -/
def priorityDefault : UInt8 := 5

/-- `PROCESS_FLAG_KERNEL`. -/
def processFlagKernel : UInt32 := 1

/-- A `process_t *` that is not null: a slot of `process_table`. -/
abbrev ProcRef := Fin processMaxCount

/-- `process_state_t`. -/
inductive ProcessState
  | invalid
  | ready
  | running
  | blocked
  | terminated
  deriving DecidableEq, Repr

/-- `process_t`.  The defaults are the zeroed slot. -/
structure Process where
  pid : UInt32 := 0
  name : List UInt8 := []
  state : ProcessState := .invalid
  exitStatus : Int32 := 0
  priority : UInt8 := 0
  timeSlice : UInt64 := 0
  totalTicks : UInt64 := 0
  kernelStack : UInt64 := 0
  kernelStackBase : UInt64 := 0
  parent : Option ProcRef := none
  children : Nat → Option ProcRef := fun _ => none
  childCount : Nat := 0
  flags : UInt32 := 0

/-- Adding a child at the end of a children array. -/
def Process.addChild (proc : Process) (child : ProcRef) : Process :=
  { proc with
    children := Function.update proc.children proc.childCount (some child)
    childCount := proc.childCount + 1 }

/-- Taking the child at place `i` out of a children array: the later ones move down. -/
def Process.removeChild (proc : Process) (i : Nat) : Process :=
  { proc with
    children := fun j =>
      if j < i then proc.children j
      else if j + 1 < proc.childCount then proc.children (j + 1)
      else if j + 1 = proc.childCount then none
      else proc.children j
    childCount := proc.childCount - 1 }

/-- The static state of `process.c`, and the page frames it takes stacks from.  The defaults are
the state before `process_init`.  `transitions` is what `process_set_state` has printed: the
process, its old state and its new one. -/
structure ProcTable where
  table : ProcRef → Process := fun _ => {}
  current : Option ProcRef := none
  nextPid : UInt32 := pidIdle
  pmm : Pmm
  transitions : List (ProcRef × ProcessState × ProcessState) := []

namespace ProcTable

/-- Writing to the fields of one process. -/
def modify (s : ProcTable) (p : ProcRef) (f : Process → Process) : ProcTable :=
  { s with table := Function.update s.table p (f (s.table p)) }

/-- `alloc_pcb`: the first slot that is not in use, zeroed. -/
def allocPcb (s : ProcTable) : Option (ProcRef × ProcTable) :=
  ((List.finRange processMaxCount).find? fun p => (s.table p).state = .invalid).map fun p =>
    (p, s.modify p fun _ => {})

/-- `free_pcb`. -/
def freePcb (s : ProcTable) (p : ProcRef) : ProcTable :=
  s.modify p fun proc => { proc with state := .invalid, pid := pidInvalid }

/-- `process_get_current`. -/
def processGetCurrent (s : ProcTable) : Option ProcRef := s.current

/-- `process_get_by_pid`. -/
def processGetByPid (s : ProcTable) (pid : UInt32) : Option ProcRef :=
  if pid = pidInvalid then none
  else (List.finRange processMaxCount).find? fun p =>
    (s.table p).state ≠ .invalid ∧ (s.table p).pid = pid

/-- The current process is made ready if it is running and is not `p`. -/
def preemptCurrent (s : ProcTable) (p : ProcRef) : ProcTable :=
  match s.current with
  | none => s
  | some c =>
    if c ≠ p ∧ (s.table c).state = .running then
      s.modify c fun proc => { proc with state := .ready }
    else s

/-- The state is written and the transition printed. -/
def writeState (s : ProcTable) (p : ProcRef) (state : ProcessState) : ProcTable :=
  { s.modify p fun proc => { proc with state := state } with
    transitions := s.transitions ++ [(p, (s.table p).state, state)] }

/-- `process_set_state`.  A process set running becomes the current one, and the one that was
running before is made ready. -/
def processSetState (s : ProcTable) (p : ProcRef) (state : ProcessState) : ProcTable :=
  if state = .running then { (s.writeState p state).preemptCurrent p with current := some p }
  else s.writeState p state

/-- `process_create` assigns the PID and sets the first fields. -/
def assignPid (s : ProcTable) (p : ProcRef) (name : List UInt8) : ProcTable :=
  let proc : Process :=
    { pid := s.nextPid, name := name.take (processNameMax - 1), state := .ready,
      priority := priorityDefault }
  { s.modify p fun _ => proc with nextPid := s.nextPid + 1 }

/-- `process_create` sets the stack, the flags and the parent. -/
def giveStack (s : ProcTable) (p : ProcRef) (stack : UInt64) : ProcTable :=
  s.modify p fun proc =>
    { proc with
      kernelStackBase := stack
      kernelStack := stack + processKernelStackSize
      flags := processFlagKernel
      parent := s.current
      childCount := 0 }

/-- `process_create` adds the process to its parent's children, if there is room. -/
def joinParent (s : ProcTable) (p : ProcRef) : ProcTable :=
  match s.current with
  | none => s
  | some c =>
    if (s.table c).childCount < processMaxChildren then s.modify c fun proc => proc.addChild p
    else s

/-- `process_create`.  The name is a C string.  The entry point only goes into the saved
context. -/
def processCreate (s : ProcTable) (name : List UInt8) : Option ProcRef × ProcTable :=
  match s.allocPcb with
  | none => (none, s)
  | some (p, zeroed) =>
    let assigned := zeroed.assignPid p name
    let stack := pmmAllocPages assigned.pmm (processKernelStackSize / 4096)
    let allocated := { assigned with pmm := stack.2 }
    if stack.1 = 0 then (none, allocated.freePcb p)
    else (some p, (allocated.giveStack p stack.1).joinParent p)

/-- `process_init` on a table of zeroes. -/
def processInit (s : ProcTable) : ProcTable :=
  let s₁ := { s with table := fun p => { s.table p with state := .invalid, pid := pidInvalid } }
  -- "idle"
  match s₁.processCreate [0x69, 0x64, 0x6c, 0x65] with
  | (none, s₂) => s₂
  | (some idle, s₂) =>
    let s₃ := s₂.modify idle fun proc =>
      { proc with priority := priorityIdle, flags := proc.flags ||| processFlagKernel }
    { s₃ with current := some idle }.processSetState idle .running

/-- One round of the reparenting loop: child `i` goes to the idle process if that has room. -/
def reparentChild (cur idle : ProcRef) (i : Nat) (s : ProcTable) : ProcTable :=
  match (s.table cur).children i with
  | some child =>
    if (s.table idle).childCount < processMaxChildren then
      (s.modify child fun proc => { proc with parent := some idle }).modify idle
        fun proc => proc.addChild child
    else s
  | none => s

/-- The reparenting loop of `process_exit`, from child `i` on.  The bound is read again in every
round, as the exiting process may be the idle process itself; it stays at most 32. -/
def reparentLoop (cur idle : ProcRef) : Nat → Nat → ProcTable → ProcTable
  | 0, _, s => s
  | fuel + 1, i, s =>
    if i < (s.table cur).childCount then
      reparentLoop cur idle fuel (i + 1) ((reparentChild cur idle i s).modify cur fun proc =>
        { proc with children := Function.update proc.children i none })
    else s

/-- `process_exit` reparents the children to the idle process. -/
def reparentChildren (s : ProcTable) (cur : ProcRef) : ProcTable :=
  if 0 < (s.table cur).childCount then
    let reparented := match s.processGetByPid pidIdle with
      | some idle => reparentLoop cur idle processMaxChildren 0 s
      | none => s
    reparented.modify cur fun proc => { proc with childCount := 0 }
  else s

/-- `process_exit` takes the process out of its parent's children. -/
def leaveParent (s : ProcTable) (cur : ProcRef) : ProcTable :=
  match (s.table cur).parent with
  | none => s
  | some parent =>
    match (List.range (s.table parent).childCount).find? fun i =>
      (s.table parent).children i = some cur with
    | some i => s.modify parent fun proc => proc.removeChild i
    | none => s

/-- `process_exit` frees the kernel stack. -/
def freeStack (s : ProcTable) (cur : ProcRef) : ProcTable :=
  if (s.table cur).kernelStackBase ≠ 0 then
    { s.modify cur fun proc => { proc with kernelStackBase := 0, kernelStack := 0 } with
      pmm := pmmFreePages s.pmm (s.table cur).kernelStackBase (processKernelStackSize / 4096) }
  else s

/-- `process_exit`, up to the halt it ends in. -/
def processExit (s : ProcTable) (status : Int32) : ProcTable :=
  match s.current with
  | none => s
  | some cur =>
    let ended := s.modify cur fun proc => { proc with exitStatus := status, state := .terminated }
    let left := ((ended.reparentChildren cur).leaveParent cur).freeStack cur
    { left.freePcb cur with current := none }

/-! ## States -/

variable {s s' t : ProcTable} {p q : ProcRef} {f : Process → Process}

@[simp] lemma modify_self : (s.modify p f).table p = f (s.table p) := Function.update_self _ _ _

lemma modify_of_ne (h : q ≠ p) : (s.modify p f).table q = s.table q := Function.update_of_ne h _ _

/-- The processes have the same states and PIDs, and no transition was printed. -/
structure SameStates (s s' : ProcTable) : Prop where
  state : ∀ p, (s'.table p).state = (s.table p).state
  pid : ∀ p, (s'.table p).pid = (s.table p).pid
  transitions : s'.transitions = s.transitions

lemma SameStates.refl (s : ProcTable) : SameStates s s := ⟨fun _ => rfl, fun _ => rfl, rfl⟩

lemma SameStates.trans (h₁ : SameStates s s') (h₂ : SameStates s' t) : SameStates s t :=
  ⟨fun p => (h₂.state p).trans (h₁.state p), fun p => (h₂.pid p).trans (h₁.pid p),
    h₂.transitions.trans h₁.transitions⟩

lemma SameStates.modify (h : SameStates t s) (hf : ∀ proc : Process, (f proc).state = proc.state ∧
    (f proc).pid = proc.pid) : SameStates t (s.modify p f) := by
  have hmodify : ∀ q, ((s.modify p f).table q).state = (s.table q).state ∧
      ((s.modify p f).table q).pid = (s.table q).pid := by
    intro q
    by_cases hq : q = p
    · subst hq
      rw [modify_self]
      exact hf _
    · rw [modify_of_ne hq]
      exact ⟨rfl, rfl⟩
  exact h.trans ⟨fun q => (hmodify q).1, fun q => (hmodify q).2, rfl⟩

lemma reparentChild_same (cur idle : ProcRef) (i : Nat) (s : ProcTable) :
    SameStates s (reparentChild cur idle i s) := by
  unfold reparentChild
  split
  · split_ifs
    · refine SameStates.modify (SameStates.modify (.refl s) ?_) ?_
      · exact fun _ => ⟨rfl, rfl⟩
      · exact fun _ => ⟨rfl, rfl⟩
    · exact .refl s
  · exact .refl s

lemma reparentLoop_same (cur idle : ProcRef) (fuel i : Nat) (s : ProcTable) :
    SameStates s (reparentLoop cur idle fuel i s) := by
  induction fuel generalizing i s with
  | zero => exact .refl s
  | succ fuel ih =>
    unfold reparentLoop
    split_ifs with hi
    · refine SameStates.trans (SameStates.modify (reparentChild_same cur idle i s) ?_) (ih (i + 1) _)
      exact fun _ => ⟨rfl, rfl⟩
    · exact .refl s

lemma reparentChildren_same (s : ProcTable) (cur : ProcRef) : SameStates s (s.reparentChildren cur) := by
  unfold reparentChildren
  split_ifs
  · refine SameStates.modify ?_ fun _ => ⟨rfl, rfl⟩
    split
    · exact reparentLoop_same cur _ _ 0 s
    · exact .refl s
  · exact .refl s

lemma leaveParent_same (s : ProcTable) (cur : ProcRef) : SameStates s (s.leaveParent cur) := by
  unfold leaveParent
  split
  · exact .refl s
  · split
    · refine SameStates.modify (.refl s) ?_
      exact fun _ => ⟨rfl, rfl⟩
    · exact .refl s

lemma freeStack_same (s : ProcTable) (cur : ProcRef) : SameStates s (s.freeStack cur) := by
  unfold freeStack
  split_ifs
  · have hmodify : SameStates s (s.modify cur fun proc =>
        { proc with kernelStackBase := 0, kernelStack := 0 }) :=
      SameStates.modify (.refl s) (by exact fun _ => ⟨rfl, rfl⟩)
    exact ⟨hmodify.state, hmodify.pid, hmodify.transitions⟩
  · exact .refl s

/-- **What `process_exit` does to the states**: the slot of the current process is free, and nobody
is current. -/
lemma processExit_states {cur : ProcRef} (hcur : s.current = some cur) (status : Int32) :
    (s.processExit status).current = none ∧ ((s.processExit status).table cur).state = .invalid ∧
      (s.processExit status).transitions = s.transitions ∧
      ∀ p, p ≠ cur → ((s.processExit status).table p).state = (s.table p).state ∧
        ((s.processExit status).table p).pid = (s.table p).pid := by
  have hsame : SameStates (s.modify cur fun proc =>
      { proc with exitStatus := status, state := .terminated }) _ :=
    ((reparentChildren_same _ cur).trans (leaveParent_same _ cur)).trans (freeStack_same _ cur)
  simp only [processExit, hcur]
  refine ⟨trivial, by simp [freePcb], hsame.transitions, fun p hp => ?_⟩
  simp only [freePcb, modify_of_ne hp]
  rw [hsame.state p, hsame.pid p, modify_of_ne hp]
  exact ⟨rfl, rfl⟩

/-- `process_set_state` to another state than running writes the state and nothing else. -/
lemma processSetState_eq {state : ProcessState} (h : state ≠ .running) :
    (s.processSetState p state).table = (s.modify p fun proc => { proc with state := state }).table ∧
      (s.processSetState p state).current = s.current := by
  unfold processSetState
  rw [if_neg h]
  exact ⟨rfl, rfl⟩

lemma modify_state_pid (s : ProcTable) (p q : ProcRef) (state : ProcessState) :
    ((s.modify p fun proc => { proc with state := state }).table q).pid = (s.table q).pid := by
  by_cases hq : q = p
  · subst hq
    rw [modify_self]
  · rw [modify_of_ne hq]

lemma preemptCurrent_states (s : ProcTable) (p q : ProcRef) : ((s.preemptCurrent p).table q).pid = (s.table q).pid ∧
      (((s.preemptCurrent p).table q).state = (s.table q).state ∨
        q ≠ p ∧ (s.table q).state = .running ∧ ((s.preemptCurrent p).table q).state = .ready) := by
  unfold preemptCurrent
  split
  · exact ⟨rfl, .inl rfl⟩
  · rename_i c hc
    split_ifs with hrun
    · refine ⟨modify_state_pid s c q .ready, ?_⟩
      by_cases hq : q = c
      · subst hq
        exact .inr ⟨hrun.1, hrun.2, by rw [modify_self]⟩
      · exact .inl (by rw [modify_of_ne hq])
    · exact ⟨rfl, .inl rfl⟩

/-- What `process_set_state` to running does: the process is current, and a process that was
running before may be ready. -/
lemma processSetState_running (s : ProcTable) (p : ProcRef) : (s.processSetState p .running).current = some p ∧
      ((s.processSetState p .running).table p).state = .running ∧
      ∀ q, q ≠ p → ((s.processSetState p .running).table q).state = (s.table q).state ∨
        (s.table q).state = .running ∧ ((s.processSetState p .running).table q).state = .ready := by
  unfold processSetState
  rw [if_pos rfl]
  have hself : ((s.writeState p .running).table p).state = .running := by simp [writeState]
  have hother : ∀ q, q ≠ p → (s.writeState p .running).table q = s.table q :=
    fun q hq => Function.update_of_ne hq _ _
  refine ⟨rfl, ?_, fun q hq => ?_⟩
  · rcases (preemptCurrent_states (s.writeState p .running) p p).2 with hsame | ⟨hne, -⟩
    · exact hsame.trans hself
    · exact absurd rfl hne
  · have hstates := (preemptCurrent_states (s.writeState p .running) p q).2
    rw [hother q hq] at hstates
    exact hstates.imp_right fun h => h.2

/-- `process_set_state` prints the transition. -/
lemma processSetState_transitions (s : ProcTable) (p : ProcRef) (state : ProcessState) :
    (s.processSetState p state).transitions = s.transitions ++ [(p, (s.table p).state, state)] := by
  have hpreempt : ∀ t : ProcTable, (t.preemptCurrent p).transitions = t.transitions := by
    intro t
    unfold preemptCurrent
    split
    · rfl
    · split_ifs <;> rfl
  unfold processSetState
  split_ifs
  · exact hpreempt _
  · rfl

/-- `process_set_state` keeps the PIDs. -/
lemma processSetState_pid (s : ProcTable) (p q : ProcRef) (state : ProcessState) :
    ((s.processSetState p state).table q).pid = (s.table q).pid := by
  unfold processSetState
  dsimp only
  split_ifs
  · exact (preemptCurrent_states _ p q).1.trans (modify_state_pid s p q state)
  · exact modify_state_pid s p q state

lemma joinParent_same (s : ProcTable) (p : ProcRef) : SameStates s (s.joinParent p) := by
  unfold joinParent
  split
  · exact .refl s
  · split_ifs
    · refine SameStates.modify (.refl s) ?_
      exact fun _ => ⟨rfl, rfl⟩
    · exact .refl s

/-- What `process_create` does to the states: a free slot may become ready. -/
lemma processCreate_states (s : ProcTable) (name : List UInt8) (q : ProcRef) :
    (((s.processCreate name).2.table q).state = (s.table q).state ∧
        ((s.processCreate name).2.table q).pid = (s.table q).pid) ∨
      (s.table q).state = .invalid ∧ (((s.processCreate name).2.table q).state = .invalid ∨
        ((s.processCreate name).2.table q).state = .ready) := by
  unfold processCreate allocPcb
  cases hfind : (List.finRange processMaxCount).find? fun p => (s.table p).state = .invalid with
  | none => exact .inl ⟨rfl, rfl⟩
  | some p =>
    have hfree : (s.table p).state = .invalid := by simpa using List.find?_some hfind
    simp only [Option.map_some]
    split_ifs
    · by_cases hq : q = p
      · subst hq
        exact .inr ⟨hfree, .inl (by simp [freePcb])⟩
      · exact .inl (by simp [freePcb, assignPid, modify_of_ne hq])
    · rw [(joinParent_same _ p).state q, (joinParent_same _ p).pid q]
      by_cases hq : q = p
      · subst hq
        exact .inr ⟨hfree, .inr (by simp [giveStack, assignPid])⟩
      · exact .inl (by simp [giveStack, assignPid, modify_of_ne hq])

lemma processCreate_transitions (s : ProcTable) (name : List UInt8) :
    (s.processCreate name).2.transitions = s.transitions := by
  unfold processCreate allocPcb
  cases (List.finRange processMaxCount).find? fun p => (s.table p).state = .invalid with
  | none => rfl
  | some p =>
    simp only [Option.map_some]
    split_ifs
    · rfl
    · exact (joinParent_same _ p).transitions

/-- The one transition `process_init` prints sets the idle process running. -/
lemma processInit_transitions (pmm : Pmm) : ∀ t ∈ (processInit { pmm := pmm }).transitions, t.2.2 = .running := by
  intro t ht
  unfold processInit at ht
  dsimp only at ht
  split at ht
  · rename_i s₂ heq
    have hcreate := congrArg (fun r => r.2.transitions) heq
    dsimp only at hcreate
    rw [processCreate_transitions] at hcreate
    rw [← hcreate] at ht
    cases ht
  · rename_i idle s₂ heq
    have hcreate := congrArg (fun r => r.2.transitions) heq
    dsimp only at hcreate
    rw [processCreate_transitions] at hcreate
    rw [processSetState_transitions] at ht
    simp only [modify, ← hcreate, List.nil_append, List.mem_singleton] at ht
    rw [ht]

end ProcTable

/-! ## Histories -/

/-- What happens to the process table: a process is created, the current process exits, and the
scheduler and the waiting calls set states. -/
inductive ProcEvent
  | create (name : List UInt8)
  | exit (status : Int32)
  | run (p : ProcRef)
  | block (p : ProcRef)
  | wake (p : ProcRef)

namespace ProcTable

variable {s : ProcTable}

def apply (s : ProcTable) : ProcEvent → ProcTable
  | .create name => (s.processCreate name).2
  | .exit status => s.processExit status
  | .run p => s.processSetState p .running
  | .block p => s.processSetState p .blocked
  | .wake p => s.processSetState p .ready

/-- The table after `process_init` and these events. -/
def history (pmm : Pmm) (es : List ProcEvent) : ProcTable :=
  es.foldl apply (processInit { pmm := pmm })

/-- No process is left in the state `TERMINATED`: `process_exit` frees the slot. -/
def NoneTerminated (s : ProcTable) : Prop := ∀ p, (s.table p).state ≠ .terminated

lemma NoneTerminated.setState (h : s.NoneTerminated) (p : ProcRef) {state : ProcessState}
    (hstate : state ≠ .terminated) : (s.processSetState p state).NoneTerminated := by
  intro q
  by_cases hrun : state = .running
  · subst hrun
    obtain ⟨-, hself, hother⟩ := processSetState_running s p
    by_cases hq : q = p
    · rw [hq, hself]
      decide
    · rcases hother q hq with hsame | ⟨-, hready⟩
      · rw [hsame]
        exact h q
      · rw [hready]
        decide
  · rw [(processSetState_eq hrun).1]
    by_cases hq : q = p
    · subst hq
      rw [modify_self]
      exact hstate
    · rw [modify_of_ne hq]
      exact h q

lemma NoneTerminated.create (h : s.NoneTerminated) (name : List UInt8) : (s.processCreate name).2.NoneTerminated := by
  intro q
  rcases processCreate_states s name q with ⟨hsame, -⟩ | ⟨-, hnew | hnew⟩
  · rw [hsame]
    exact h q
  · rw [hnew]
    decide
  · rw [hnew]
    decide

lemma NoneTerminated.apply (h : s.NoneTerminated) (e : ProcEvent) : (s.apply e).NoneTerminated := by
  cases e with
  | create name => exact h.create name
  | exit status =>
    cases hcur : s.current with
    | none => simpa only [ProcTable.apply, processExit, hcur] using h
    | some cur =>
      obtain ⟨-, hself, -, hother⟩ := processExit_states hcur status
      intro q
      by_cases hq : q = cur
      · rw [hq, ProcTable.apply, hself]
        decide
      · rw [ProcTable.apply, (hother q hq).1]
        exact h q
  | run p => exact h.setState p (show ProcessState.running ≠ .terminated by decide)
  | block p => exact h.setState p (show ProcessState.blocked ≠ .terminated by decide)
  | wake p => exact h.setState p (show ProcessState.ready ≠ .terminated by decide)

lemma noneTerminated_history (pmm : Pmm) (es : List ProcEvent) : (history pmm es).NoneTerminated := by
  have hinit : (processInit { pmm := pmm }).NoneTerminated := by
    have hclear : NoneTerminated { pmm := pmm } := fun p => by simp
    have hcreate := hclear.create [0x69, 0x64, 0x6c, 0x65]
    unfold processInit
    dsimp only
    split
    · rename_i s₂ heq
      rw [show s₂ = (processCreate { pmm := pmm } [0x69, 0x64, 0x6c, 0x65]).2 from
        (congrArg Prod.snd heq).symm]
      exact hcreate
    · rename_i idle s₂ heq
      refine NoneTerminated.setState (fun q => ?_) idle (by decide)
      rw [show s₂ = (processCreate { pmm := pmm } [0x69, 0x64, 0x6c, 0x65]).2 from
        (congrArg Prod.snd heq).symm]
      by_cases hq : q = idle
      · subst hq
        dsimp only
        rw [modify_self]
        exact hcreate q
      · dsimp only
        rw [modify_of_ne hq]
        exact hcreate q
  have hrun : ∀ (es : List ProcEvent) (s : ProcTable), s.NoneTerminated →
      (es.foldl ProcTable.apply s).NoneTerminated := by
    intro es
    induction es with
    | nil => exact fun s h => h
    | cons e es ih => exact fun s h => ih _ (h.apply e)
  exact hrun es _ hinit

end ProcTable

end AAAos
