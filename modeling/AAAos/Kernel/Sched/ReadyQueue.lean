import AAAos.Kernel.Sched.Scheduler

/-!
# Ready processes and the ready queue

A process is ready because of its state, and it runs because it is in the ready queue.  The scheduler
changes both together; the pipes and the message queues change the state only.

**What goes wrong.**  A process that is woken is ready and in no queue, so it never runs again.  A
process that is added twice is in the queue twice.

**What is proved.**  In every run in which neither happens (`Orderly`) each ready process that was
added is in the queue exactly once, and only the current process is running (`noneLost_of_steps`).
The invariant adds that no process is in the queue twice, and that the current process is not in it
while it runs, so that the queue, which has as many places as there are processes, is never full when
the current process is put back.
-/

namespace AAAos

/-- The scheduler, and the processes that `scheduler_add` has accepted. -/
structure SchedMachine where
  sched : Sched
  added : List ProcRef := []

namespace SchedMachine

variable {m m' : SchedMachine} {p : ProcRef} {l : List ProcRef}

def state (m : SchedMachine) (p : ProcRef) : ProcessState := (m.sched.procs.table p).state

def apply (m : SchedMachine) (e : SchedEvent) : SchedMachine where
  sched := m.sched.apply e
  added :=
    match e with
    | .add p => if (m.sched.schedulerAdd p).1 then p :: m.added else m.added
    | _ => m.added

/-- The scheduler's calls, and what pipes and messages do to states: the process that
`process_get_current` names is blocked, and a process is made ready. -/
def Step (m : SchedMachine) (e : SchedEvent) (m' : SchedMachine) : Prop :=
  m' = m.apply e ∧
    match e with
    | .add p => m.sched.procs.Live p
    | .setState p state => m.sched.procs.Live p ∧
        (state = .blocked ∧ m.sched.procs.processGetCurrent = some p ∨ state = .ready)
    | _ => True

/-- Ready processes that were added are in the queue exactly once, and the running process is the
current one. -/
structure NoneLost (m : SchedMachine) : Prop where
  ready : ∀ p ∈ m.added, m.state p = .ready → m.sched.readyList.count p = 1
  running : ∀ p, m.state p = .running → m.sched.schedulerGetCurrent = some p

/-- No process is added that is in the queue already, and none that was added is woken that is not. -/
def Orderly (m : SchedMachine) : SchedEvent → Prop
  | .add p => m.state p = .ready → p ∉ m.sched.readyList
  | .setState p .ready => p ∈ m.added → p ∈ m.sched.readyList
  | _ => True

def OrderlyStep (m : SchedMachine) (e : SchedEvent) (m' : SchedMachine) : Prop :=
  Step m e m' ∧ m.Orderly e

/-! ## The invariant -/

/-- The queue holds `l`, without repetitions. -/
structure Kept (m : SchedMachine) (l : List ProcRef) : Prop where
  queues : m.sched.Queues l
  nodup : l.Nodup
  ready : ∀ p ∈ m.added, m.state p = .ready → p ∈ l
  running : ∀ p, m.state p = .running → m.sched.current = some p
  out : ∀ c, m.sched.CurrentRuns c → c ∉ l
  added_live : ∀ p ∈ m.added, m.sched.procs.Live p

lemma Kept.noneLost (h : m.Kept l) : m.NoneLost where
  ready p hp hready := by
    rw [h.queues.readyList_eq]
    exact List.count_eq_one_of_mem h.nodup (h.ready p hp hready)
  running := h.running

lemma Kept.room (h : m.Kept l) (c : ProcRef) (hc : m.sched.CurrentRuns c) : l.length < schedulerMaxQueueSize := by
  have hle := (List.nodup_cons.mpr ⟨h.out c hc, h.nodup⟩).length_le_card
  rw [List.length_cons, Fintype.card_fin] at hle
  exact hle

lemma Kept.of_sameRun {s : Sched} (h : m.Kept l) (hsame : Sched.SameRun m.sched s) :
    Kept { m with sched := s } l where
  queues := hsame.queues l h.queues
  nodup := h.nodup
  ready p hp hready := h.ready p hp ((hsame.state p).symm.trans hready)
  running p hrun := by
    rw [hsame.current]
    exact h.running p ((hsame.state p).symm.trans hrun)
  out c hc := by
    rw [Sched.CurrentRuns, hsame.current, hsame.state c] at hc
    exact h.out c hc
  added_live p hp := by
    rw [ProcTable.Live, hsame.state p]
    exact h.added_live p hp

lemma Kept.nodup_runnable (h : m.Kept l) : (m.sched.runnable l).Nodup := by
  by_cases hc : ∃ c, m.sched.CurrentRuns c
  · obtain ⟨c, hc⟩ := hc
    rw [Sched.runnable_of_running hc]
    exact h.nodup.append (List.nodup_singleton c) (List.disjoint_singleton.mpr (h.out c hc))
  · rw [Sched.runnable_of_not_running (not_exists.mp hc)]
    exact h.nodup

/-- A process that is ready after the switch, and was not chosen, waited for it. -/
lemma Kept.mem_runnable (h : m.Kept l) (hp : p ∈ m.added) (hready : m.sched.stateAfter p = .ready) :
    p ∈ m.sched.runnable l := by
  unfold Sched.stateAfter at hready
  split_ifs at hready with hc
  · rw [Sched.runnable_of_running hc]
    exact List.mem_append_right l (List.mem_singleton_self p)
  · have hmem := h.ready p hp hready
    unfold Sched.runnable
    split
    · exact hmem
    · split_ifs
      · exact List.mem_append_left _ hmem
      · exact hmem

/-- **A switch.** -/
lemma Kept.dispatched {s : Sched} {n : ProcRef} {rest : List ProcRef} (h : m.Kept l)
    (hd : Sched.Dispatched m.sched s n rest) (hnodup : rest.Nodup) (hn : n ∉ rest)
    (hrest : ∀ p ∈ m.sched.runnable l, p ≠ n → p ∈ rest) : Kept { m with sched := s } rest where
  queues := hd.queues
  nodup := hnodup
  ready p hp hready := by
    have hne : p ≠ n := by
      rintro rfl
      exact absurd (hd.state.symm.trans hready) (by decide)
    exact hrest p (h.mem_runnable hp ((hd.others p hne).symm.trans hready)) hne
  running p hrun := by
    by_cases hne : p = n
    · rw [hne]
      exact hd.current
    · have hstate : m.sched.stateAfter p = .running := (hd.others p hne).symm.trans hrun
      unfold Sched.stateAfter at hstate
      split_ifs at hstate with hc
      exact absurd ⟨h.running p hstate, hstate⟩ hc
  out c hc := by
    obtain rfl : n = c := Option.some.inj (hd.current.symm.trans hc.1)
    exact hn
  added_live p hp := by
    have hlive := h.added_live p hp
    by_cases hne : p = n
    · rw [hne, ProcTable.Live, hd.state]
      decide
    · rw [ProcTable.Live, hd.others p hne, Sched.stateAfter]
      split_ifs
      · decide
      · exact hlive

lemma Kept.schedule (h : m.Kept l) : ∃ rest, Kept { m with sched := m.sched.schedulerSchedule.2 } rest := by
  rcases Sched.schedule_cases h.queues h.room with ⟨n, rest, hrun, hd⟩ | ⟨hrun, -, hidle | hhalt⟩
  · have hnodup := h.nodup_runnable
    rw [hrun, List.nodup_cons] at hnodup
    refine ⟨rest, h.dispatched hd hnodup.2 hnodup.1 fun p hp hne => ?_⟩
    rw [hrun] at hp
    exact (List.mem_cons.mp hp).resolve_left hne
  · obtain ⟨idle, -, hd⟩ := hidle
    refine ⟨[], h.dispatched hd List.nodup_nil (List.not_mem_nil) fun p hp _ => ?_⟩
    rw [hrun] at hp
    exact hp
  · rw [hhalt.2]
    exact ⟨l, h⟩

/-! ## The events -/

lemma Kept.create (h : m.Kept l) (name : List UInt8) : Kept (m.apply (.create name)) l := by
  have hstates := ProcTable.processCreate_states m.sched.procs name
  have hold : ∀ q, m.sched.procs.Live q →
      ((m.sched.procs.processCreate name).2.table q).state = (m.sched.procs.table q).state := by
    intro q hq
    rcases hstates q with hsame | ⟨hfree, -⟩
    · exact hsame.1
    · exact absurd hfree hq
  have hrun : ∀ q, ((m.sched.procs.processCreate name).2.table q).state = .running →
      (m.sched.procs.table q).state = .running := by
    intro q hq
    rcases hstates q with hsame | ⟨-, hnew | hnew⟩
    · exact hsame.1.symm.trans hq
    · rw [hnew] at hq
      cases hq
    · rw [hnew] at hq
      cases hq
  refine ⟨h.queues.congr rfl rfl rfl rfl, h.nodup, fun p hp hready => ?_, fun p hp => ?_,
    fun c hc => ?_, fun p hp => ?_⟩
  · exact h.ready p hp ((hold p (h.added_live p hp)).symm.trans hready)
  · exact h.running p (hrun p hp)
  · exact h.out c ⟨hc.1, hrun c hc.2⟩
  · rw [ProcTable.Live]
    change ((m.sched.procs.processCreate name).2.table p).state ≠ .invalid
    rw [hold p (h.added_live p hp)]
    exact h.added_live p hp

lemma Kept.add (h : m.Kept l) (hlive : m.sched.procs.Live p)
    (hnew : m.state p = .ready → p ∉ m.sched.readyList) : ∃ l', Kept (m.apply (.add p)) l' := by
  unfold apply Sched.apply
  dsimp only
  rcases Sched.add_cases h.queues p with hfail | ⟨hready, -, htrue, hqueues, hcurrent, -, hstates⟩
  · rw [hfail]
    exact ⟨l, h⟩
  · have hout : p ∉ l := by
      rw [← h.queues.readyList_eq]
      exact hnew hready
    rw [if_pos htrue]
    refine ⟨l ++ [p], hqueues, ?_, fun q hq hst => ?_, fun q hq => ?_, fun c hc => ?_,
      fun q hq => ?_⟩
    · exact h.nodup.append (List.nodup_singleton p) (List.disjoint_singleton.mpr hout)
    · rcases List.mem_cons.mp hq with rfl | hq
      · exact List.mem_append_right l (List.mem_singleton_self q)
      · exact List.mem_append_left _ (h.ready q hq ((hstates q).symm.trans hst))
    · exact hcurrent.trans (h.running q ((hstates q).symm.trans hq))
    · rw [Sched.CurrentRuns, hcurrent, hstates c] at hc
      -- the process that was added is ready, so it is not the one that runs
      have hne : c ≠ p := by
        rintro rfl
        exact absurd (hc.2.symm.trans hready) (by decide)
      rw [List.mem_append, List.mem_singleton, not_or]
      exact ⟨h.out c hc, hne⟩
    · rw [ProcTable.Live, hstates q]
      rcases List.mem_cons.mp hq with rfl | hq
      · exact hlive
      · exact h.added_live q hq

lemma Kept.setState (h : m.Kept l) {state : ProcessState} (hrun : state ≠ .running)
    (hlive : state ≠ .invalid) (hready : state = .ready → p ∈ m.added → p ∈ l) :
    Kept (m.apply (.setState p state)) l := by
  have hself : ((m.sched.procs.processSetState p state).table p).state = state := by
    rw [(ProcTable.processSetState_eq hrun).1, ProcTable.modify_self]
  have hother : ∀ q, q ≠ p → ((m.sched.procs.processSetState p state).table q).state =
      (m.sched.procs.table q).state := by
    intro q hq
    rw [(ProcTable.processSetState_eq hrun).1, ProcTable.modify_of_ne hq]
  have hruns : ∀ q, ((m.sched.procs.processSetState p state).table q).state = .running →
      (m.sched.procs.table q).state = .running := by
    intro q hq
    by_cases hqp : q = p
    · rw [hqp, hself] at hq
      exact absurd hq hrun
    · exact (hother q hqp).symm.trans hq
  refine ⟨h.queues.congr rfl rfl rfl rfl, h.nodup, fun q hq hst => ?_, fun q hq => ?_,
    fun c hc => ?_, fun q hq => ?_⟩
  · by_cases hqp : q = p
    · subst hqp
      exact hready (hself.symm.trans hst) hq
    · exact h.ready q hq ((hother q hqp).symm.trans hst)
  · exact h.running q (hruns q hq)
  · exact h.out c ⟨hc.1, hruns c hc.2⟩
  · change ((m.sched.procs.processSetState p state).table q).state ≠ .invalid
    by_cases hqp : q = p
    · rw [hqp, hself]
      exact hlive
    · rw [hother q hqp]
      exact h.added_live q hq

/-- **One event.** -/
lemma Kept.step {e : SchedEvent} (h : m.Kept l) (hstep : OrderlyStep m e m') : ∃ l', m'.Kept l' := by
  obtain ⟨⟨rfl, hguard⟩, horderly⟩ := hstep
  cases e with
  | create name => exact ⟨l, h.create name⟩
  | add p => exact h.add hguard horderly
  | tick =>
    rcases Sched.tick_cases m.sched with hsame | ⟨t, hsame, heq, -⟩
    · exact ⟨l, h.of_sameRun hsame⟩
    · obtain ⟨rest, hrest⟩ := (h.of_sameRun hsame).schedule
      refine ⟨rest, ?_⟩
      change Kept { m with sched := m.sched.schedulerTick } rest
      rw [heq]
      exact hrest
  | yield =>
    rcases Sched.yield_cases m.sched with hsame | ⟨t, hsame, heq⟩
    · exact ⟨l, h.of_sameRun hsame⟩
    · obtain ⟨rest, hrest⟩ := (h.of_sameRun hsame).schedule
      refine ⟨rest, ?_⟩
      change Kept { m with sched := m.sched.schedulerYield } rest
      rw [heq]
      exact hrest
  | schedule => exact h.schedule
  | setState p state =>
    obtain ⟨-, ⟨rfl, -⟩ | rfl⟩ := hguard
    · exact ⟨l, h.setState (by decide) (by decide) fun hready => by cases hready⟩
    · refine ⟨l, h.setState (by decide) (by decide) fun _ hmem => ?_⟩
      rw [← h.queues.readyList_eq]
      exact horderly hmem

/-! ## Runs -/

lemma kept_boot (pmm : Pmm) : Kept ⟨Sched.boot pmm, []⟩ [] := by
  obtain ⟨hqueues, hcases⟩ := Sched.boot_cases pmm
  refine ⟨hqueues, List.nodup_nil, fun p hp => ?_, fun p hrun => ?_, fun c _ => List.not_mem_nil,
    fun p hp => ?_⟩
  · exact absurd hp List.not_mem_nil
  · rcases hcases with ⟨idle, hcurrent, honly⟩ | ⟨-, -, hnone⟩
    · by_cases hp : p = idle
      · rw [hp]
        exact hcurrent
      · exact absurd ((honly.others p hp).symm.trans hrun) (by decide)
    · exact absurd ((hnone p).symm.trans hrun) (by decide)
  · exact absurd hp List.not_mem_nil

/-- **No process is lost** in a run in which no waiting process is added once more, and none that was
added is woken outside the queue. -/
theorem noneLost_of_steps (pmm : Pmm) {es : List SchedEvent} {m : SchedMachine}
    (hrun : Steps OrderlyStep ⟨Sched.boot pmm, []⟩ es m) : m.NoneLost := by
  obtain ⟨l, hkept⟩ : ∃ l, m.Kept l :=
    hrun.invariant (I := fun m => ∃ l, m.Kept l) (fun _ _ _ ⟨_, ht⟩ hstep => ht.step hstep)
      ⟨[], kept_boot pmm⟩
  exact hkept.noneLost

/-- A process is added and runs, and the idle process runs again: the process is ready, and waits. -/
theorem noneLost_of_two_switches : ∃ m, Steps OrderlyStep ⟨Sched.boot ProcTable.roomyPmm, []⟩
    [.create [], .add 1, .schedule, .schedule] m ∧ 1 ∈ m.added ∧ m.state 1 = .ready ∧ m.NoneLost := by
  obtain ⟨m, hrun, hadded, hready⟩ : ∃ m, Steps OrderlyStep ⟨Sched.boot ProcTable.roomyPmm, []⟩
      [.create [], .add 1, .schedule, .schedule] m ∧ 1 ∈ m.added ∧ m.state 1 = .ready := by
    refine ⟨_, .cons ⟨⟨rfl, trivial⟩, trivial⟩ (.cons ⟨⟨rfl, ?_⟩, fun _ => ?_⟩
      (.cons ⟨⟨rfl, trivial⟩, trivial⟩ (.cons ⟨⟨rfl, trivial⟩, trivial⟩ (.nil _)))), ?_, ?_⟩
    · decide
    · decide
    · decide
    · decide
  exact ⟨m, hrun, hadded, hready, noneLost_of_steps _ hrun⟩

/-- The idle process is added and runs.  It waits at a pipe and is woken: it is ready, and nowhere in
the queue. -/
theorem woken_is_lost : ∃ m, Steps Step ⟨Sched.boot ProcTable.roomyPmm, []⟩
    [.setState 0 .blocked, .setState 0 .ready, .add 0, .schedule,
      .setState 0 .blocked, .setState 0 .ready] m ∧ ¬ m.NoneLost := by
  refine ⟨_, .cons ⟨rfl, ?_, .inl ⟨rfl, ?_⟩⟩ (.cons ⟨rfl, ?_, .inr rfl⟩ (.cons ⟨rfl, ?_⟩
    (.cons ⟨rfl, trivial⟩ (.cons ⟨rfl, ?_, .inl ⟨rfl, ?_⟩⟩ (.cons ⟨rfl, ?_, .inr rfl⟩ (.nil _)))))),
    fun h => ?_⟩
  · decide
  · decide
  · decide
  · decide
  · decide
  · decide
  · decide
  · exact absurd (h.ready 0 (by decide) (by decide)) (by decide)

end SchedMachine

end AAAos
