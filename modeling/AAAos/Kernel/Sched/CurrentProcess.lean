import AAAos.Kernel.Sched.Scheduler

/-!
# The two current processes

`process.c` and `scheduler.c` have a current process each.  `process_set_state` moves the one of
`process.c`, and a switch moves the scheduler's.  The two are set together only at boot.

**What goes wrong.**  The first switch to another process moves the scheduler's current process
alone.  A process that is set running by hand moves the other one alone.

**What is proved.**  As long as every switch finds the current process at the head of the queue, or
nobody waits, and `process_set_state` runs no other process and stops not the current one
(`KeepsCurrent`), the two agree, and theirs is the only running process (`oneCurrent_of_steps`).
-/

namespace AAAos

namespace Sched

variable {s s' : Sched} {p c : ProcRef} {l : List ProcRef}

/-- Both modules have the same current process, and one process is running. -/
structure OneCurrent (s : Sched) : Prop where
  agree : s.procs.processGetCurrent = s.schedulerGetCurrent
  running : ∃! p, (s.procs.table p).state = .running

/-- The call takes the process for the next slice from the queue.  A tick does so when a switch is
due, or the slice has no more than this tick left. -/
def Switches (s : Sched) : SchedEvent → Prop
  | .schedule | .yield => True
  | .tick => s.needReschedule = true ∨ ∀ c, s.current = some c → (s.procs.table c).timeSlice ≤ 1
  | _ => False

/-- A switch finds the current process first in the queue, or nobody.  A state is set to running for
the current process and for no other. -/
def KeepsCurrent (s : Sched) : SchedEvent → Prop
  | .setState p state => state = .running ↔ s.current = some p
  | e => s.Switches e → ∀ p, s.readyList.head? = some p → s.current = some p

def Step (s : Sched) (e : SchedEvent) (s' : Sched) : Prop := s' = s.apply e

def KeepingStep (s : Sched) (e : SchedEvent) (s' : Sched) : Prop := Step s e s' ∧ s.KeepsCurrent e

/-! ## The invariant -/

/-- Process `c` is current for both, and runs alone.  The queue holds `l`. -/
structure RunsAlone (s : Sched) (c : ProcRef) (l : List ProcRef) : Prop where
  queues : s.Queues l
  current : s.current = some c
  procCurrent : s.procs.current = some c
  state : (s.procs.table c).state = .running
  others : ∀ p, p ≠ c → (s.procs.table p).state ≠ .running

lemma RunsAlone.oneCurrent (h : s.RunsAlone c l) : s.OneCurrent where
  agree := h.procCurrent.trans h.current.symm
  running := ⟨c, h.state, fun p hp => by_contra fun hne => h.others p hne hp⟩

lemma RunsAlone.of_sameRun (h : s.RunsAlone c l) (hsame : SameRun s s') : s'.RunsAlone c l where
  queues := hsame.queues l h.queues
  current := hsame.current.trans h.current
  procCurrent := hsame.procCurrent.trans h.procCurrent
  state := (hsame.state c).trans h.state
  others p hp := by
    rw [hsame.state p]
    exact h.others p hp

lemma RunsAlone.dispatched {rest : List ProcRef} (h : s.RunsAlone c l)
    (hd : Dispatched s s' c rest) : s'.RunsAlone c rest where
  queues := hd.queues
  current := hd.current
  procCurrent := hd.procCurrent.trans h.procCurrent
  state := hd.state
  others p hp := by
    have hnot : ¬ s.CurrentRuns p := fun hrun => h.others p hp hrun.2
    rw [hd.others p hp, stateAfter, if_neg hnot]
    exact h.others p hp

/-- **A switch.**  A full queue is no exception: the current process is not put back, and it is found
at the head. -/
lemma RunsAlone.schedule (h : s.RunsAlone c l) (hhead : ∀ p, l.head? = some p → p = c) :
    ∃ rest, s.schedulerSchedule.2.RunsAlone c rest := by
  have hruns : s.CurrentRuns c := ⟨h.current, h.state⟩
  cases l with
  | nil =>
    have hreq := requeued_of_running h.queues hruns (by decide)
    exact ⟨[], h.dispatched hreq.schedule⟩
  | cons n rest =>
    obtain rfl : n = c := hhead n rfl
    rcases Nat.lt_or_ge (n :: rest).length schedulerMaxQueueSize with hroom | hfull
    · have hreq := requeued_of_running h.queues hruns hroom
      exact ⟨rest ++ [n], h.dispatched hreq.schedule⟩
    · have hreq := requeued_of_full h.queues hruns hfull
      exact ⟨rest, h.dispatched hreq.schedule⟩

/-! ## The events -/

lemma RunsAlone.create (h : s.RunsAlone c l) (name : List UInt8) : (s.apply (.create name)).RunsAlone c l := by
  have hlive : ∀ d, s.procs.current = some d → s.procs.Live d := by
    intro d hd
    obtain rfl : c = d := Option.some.inj (h.procCurrent.symm.trans hd)
    rw [ProcTable.Live, h.state]
    decide
  have hcurrent : (s.procs.processCreate name).2.current = s.procs.current := by
    rcases ProcTable.processCreate_cases hlive name with ⟨-, -, hsame⟩ | ⟨p, -, hnew⟩
    · exact hsame
    · exact hnew.current
  have hstates := ProcTable.processCreate_states s.procs name
  refine ⟨h.queues.congr rfl rfl rfl rfl, h.current, hcurrent.trans h.procCurrent, ?_, fun p hp => ?_⟩
  · rcases hstates c with hsame | ⟨hfree, -⟩
    · exact hsame.1.trans h.state
    · exact absurd (h.state.symm.trans hfree) (by decide)
  · change ((s.procs.processCreate name).2.table p).state ≠ .running
    rcases hstates p with hsame | ⟨-, hnew | hnew⟩
    · rw [hsame.1]
      exact h.others p hp
    · rw [hnew]
      decide
    · rw [hnew]
      decide

lemma RunsAlone.add (h : s.RunsAlone c l) (p : ProcRef) : ∃ l', (s.apply (.add p)).RunsAlone c l' := by
  change ∃ l', (s.schedulerAdd p).2.RunsAlone c l'
  rcases add_cases h.queues p with hfail | ⟨-, -, -, hqueues, hcurrent, hproc, hstates⟩
  · rw [hfail]
    exact ⟨l, h⟩
  · refine ⟨l ++ [p], hqueues, hcurrent.trans h.current, hproc.trans h.procCurrent,
      (hstates c).trans h.state, fun q hq => ?_⟩
    rw [hstates q]
    exact h.others q hq

lemma RunsAlone.setState (h : s.RunsAlone c l) {state : ProcessState}
    (hkeeps : state = .running ↔ s.current = some p) : (s.apply (.setState p state)).RunsAlone c l := by
  have hself : p = c ↔ state = .running := by
    rw [hkeeps, h.current, Option.some.injEq, eq_comm]
  by_cases hrun : state = .running
  · obtain rfl : p = c := hself.mpr hrun
    subst hrun
    obtain ⟨hcurrent, hstate, hothers⟩ := ProcTable.processSetState_running s.procs p
    refine ⟨h.queues.congr rfl rfl rfl rfl, h.current, hcurrent, hstate, fun q hq => ?_⟩
    rcases hothers q hq with hsame | ⟨hwas, -⟩
    · exact hsame.trans_ne (h.others q hq)
    · exact absurd hwas (h.others q hq)
  · have hne : p ≠ c := fun he => hrun (hself.mp he)
    obtain ⟨htable, hcurrent⟩ := @ProcTable.processSetState_eq s.procs p state hrun
    refine ⟨h.queues.congr rfl rfl rfl rfl, h.current, hcurrent.trans h.procCurrent, ?_, fun q hq => ?_⟩
    · change ((s.procs.processSetState p state).table c).state = .running
      rw [htable, ProcTable.modify_of_ne (Ne.symm hne)]
      exact h.state
    · change ((s.procs.processSetState p state).table q).state ≠ .running
      rw [htable]
      by_cases hqp : q = p
      · subst hqp
        rw [ProcTable.modify_self]
        exact hrun
      · rw [ProcTable.modify_of_ne hqp]
        exact h.others q hq

lemma RunsAlone.head (h : s.RunsAlone c l) (hkeeps : ∀ p, s.readyList.head? = some p → s.current = some p) :
    ∀ p, l.head? = some p → p = c := by
  intro p hp
  rw [← h.queues.readyList_eq] at hp
  exact Option.some.inj ((hkeeps p hp).symm.trans h.current)

/-- **One event.** -/
lemma RunsAlone.step {e : SchedEvent} (h : s.RunsAlone c l) (hstep : KeepingStep s e s') :
    ∃ l', s'.RunsAlone c l' := by
  obtain ⟨rfl, hkeeps⟩ := hstep
  cases e with
  | create name => exact ⟨l, h.create name⟩
  | add p => exact h.add p
  | tick =>
    rcases tick_cases s with hsame | ⟨t, hsame, heq, hdue⟩
    · exact ⟨l, h.of_sameRun hsame⟩
    · change ∃ l', s.schedulerTick.RunsAlone c l'
      rw [heq]
      exact (h.of_sameRun hsame).schedule (h.head (hkeeps hdue))
  | yield =>
    rcases yield_cases s with hsame | ⟨t, hsame, heq⟩
    · exact ⟨l, h.of_sameRun hsame⟩
    · change ∃ l', s.schedulerYield.RunsAlone c l'
      rw [heq]
      exact (h.of_sameRun hsame).schedule (h.head (hkeeps trivial))
  | schedule => exact h.schedule (h.head (hkeeps trivial))
  | setState p state => exact ⟨l, h.setState hkeeps⟩

/-- **The current processes agree** in every run from a boot that found memory for the idle process,
if all its steps keep the current process. -/
theorem oneCurrent_of_steps {pmm : Pmm} {es : List SchedEvent} {s : Sched}
    (hboot : (pmmAllocPages pmm (processKernelStackSize / 4096)).1 ≠ 0)
    (hrun : Steps KeepingStep (boot pmm) es s) : s.OneCurrent := by
  obtain ⟨hqueues, hcases⟩ := boot_cases pmm
  obtain ⟨idle, hcurrent, honly⟩ := hcases.resolve_right fun h => hboot h.1
  have hinit : (boot pmm).RunsAlone idle [] := by
    refine ⟨hqueues, hcurrent, honly.current, honly.running, fun p hp => ?_⟩
    rw [honly.others p hp]
    decide
  obtain ⟨l, halone⟩ : ∃ l, s.RunsAlone idle l :=
    hrun.invariant (I := fun s => ∃ l, s.RunsAlone idle l) (fun _ _ _ ⟨_, ht⟩ hstep => ht.step hstep)
      ⟨[], hinit⟩
  exact halone.oneCurrent

/-- The idle process yields, sees a tick, creates a process and yields again. -/
theorem oneCurrent_of_idle_run : ∃ s, Steps KeepingStep (boot ProcTable.roomyPmm)
    [.yield, .tick, .create [], .setState 1 .blocked, .schedule] s ∧ s.OneCurrent := by
  obtain ⟨s, hrun⟩ : ∃ s, Steps KeepingStep (boot ProcTable.roomyPmm)
      [.yield, .tick, .create [], .setState 1 .blocked, .schedule] s := by
    refine ⟨_, .cons ⟨rfl, fun _ p hp => ?_⟩ (.cons ⟨rfl, fun _ p hp => ?_⟩ (.cons ⟨rfl, fun h => ?_⟩
      (.cons ⟨rfl, ?_⟩ (.cons ⟨rfl, fun _ p hp => ?_⟩ (.nil _)))))⟩
    · exact absurd (hp.symm.trans (by decide)) (Option.some_ne_none p)
    · exact absurd (hp.symm.trans (by decide)) (Option.some_ne_none p)
    · exact h.elim
    · refine ⟨fun h => ?_, fun h => absurd h (by decide)⟩
      cases h
    · exact absurd (hp.symm.trans (by decide)) (Option.some_ne_none p)
  exact ⟨s, hrun, oneCurrent_of_steps (by decide) hrun⟩

/-- A process is created, added and scheduled.  It runs, and `process_get_current` names the idle
process. -/
theorem current_processes_differ : ∃ s, Steps Step (boot ProcTable.roomyPmm)
    [.create [], .add 1, .schedule] s ∧ ¬ s.OneCurrent :=
  ⟨_, .cons rfl (.cons rfl (.cons rfl (.nil _))), fun h => absurd h.agree (by decide)⟩

end Sched

end AAAos
