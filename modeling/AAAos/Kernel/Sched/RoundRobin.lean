import AAAos.Kernel.Sched.Scheduler

/-!
# Round-robin dispatch

`scheduler_remove` of `kernel/sched/scheduler.c`, and the order in which the ready queue is served.

**What is proved.**  The calls of the scheduler come in any order, and between them the rest of the
kernel may do to the process table what it likes.  If a process is added only while it neither waits
nor runs, then the queue holds nobody twice and never the current process, there is always a place for
the current process when it is put back, and a process at position `k` becomes the current one with
the switch number `k + 1` from then on, whoever is added meanwhile (`roundRobin_of_steps`).

A switch takes the first of the queue and may append one process at the end.  So each switch moves the
process one place on (`InTurn.schedule`), and everything else leaves its place.
-/

namespace AAAos

namespace Sched

variable {s s' t : Sched} {p : ProcRef} {l : List ProcRef}

/-! ## Removal -/

/-- The search loop of `queue_remove`, with `n` cells left: what follows the process moves up. -/
def queueRemoveFrom (s : Sched) (p : ProcRef) : Nat → Nat → Bool × Sched
  | _, 0 => (false, s)
  | idx, n + 1 =>
    if s.readyQueue idx = some p then
      let tail := (s.queueTail + schedulerMaxQueueSize - 1) % schedulerMaxQueueSize
      (true, { s with
        readyQueue := Function.update (ringShift schedulerMaxQueueSize s.readyQueue idx n) tail none
        queueTail := tail
        queueCount := s.queueCount - 1 })
    else s.queueRemoveFrom p ((idx + 1) % schedulerMaxQueueSize) n

/-- `queue_remove`. -/
def queueRemove (s : Sched) (p : ProcRef) : Bool × Sched :=
  if s.queueCount = 0 then (false, s) else s.queueRemoveFrom p s.queueHead s.queueCount

/-- `scheduler_remove`. -/
def schedulerRemove (s : Sched) (p : ProcRef) : Bool × Sched := s.queueRemove p

/-- Removing changes the queue only. -/
structure Removed (s s' : Sched) (l : List ProcRef) : Prop where
  queues : s'.Queues l
  current : s'.current = s.current

lemma queueRemoveFrom_spec {xs ys : List ProcRef} {idx : Nat} (h : s.Queues (xs ++ ys)) (hp : p ∉ xs)
    (hidx : idx = (s.queueHead + xs.length) % schedulerMaxQueueSize) :
    (s.queueRemoveFrom p idx ys.length).1 = decide (p ∈ ys) ∧
      Removed s (s.queueRemoveFrom p idx ys.length).2 ((xs ++ ys).erase p) := by
  induction ys generalizing xs idx with
  | nil =>
    rw [List.append_nil] at h ⊢
    exact ⟨rfl, by rw [List.erase_of_not_mem hp]; exact h, rfl⟩
  | cons y ys ih =>
    have hlen : (xs ++ y :: ys).length = xs.length + (ys.length + 1) := by simp
    have hcells := h.cells
    have hfits := h.fits
    rw [hlen] at hcells hfits
    have hcell : s.readyQueue idx = some y := by
      have hget : (ringContents schedulerMaxQueueSize s.readyQueue s.queueHead
          (xs.length + (ys.length + 1)))[xs.length]? = some (some y) := by
        rw [hcells]
        simp
      obtain ⟨hlt, hget⟩ := List.getElem?_eq_some_iff.mp hget
      rw [hidx, ← ringContents_getElem hlt]
      exact hget
    rw [List.length_cons, queueRemoveFrom]
    by_cases hy : y = p
    · subst hy
      rw [if_pos hcell, List.erase_append_right _ hp, List.erase_cons_head]
      have hback : (s.queueTail + schedulerMaxQueueSize - 1) % schedulerMaxQueueSize =
          (s.queueHead + (xs.length + ys.length)) % schedulerMaxQueueSize := by
        have htail := h.tail
        rw [hlen] at htail
        unfold schedulerMaxQueueSize at htail ⊢
        omega
      have hshift := @ringContents_ringShift _ _ s.readyQueue s.queueHead idx (xs.map some) (ys.map some)
        (some y) (by rw [hidx, List.length_map]) (by simpa using hfits)
        (by simpa using hcells)
      rw [List.length_map, List.length_map] at hshift
      dsimp only
      rw [hback]
      refine ⟨by simp, ⟨h.head, ?_, ?_, ?_, ?_⟩, rfl⟩
      · rw [List.length_append]
      · dsimp only
        rw [h.count, hlen, List.length_append]
        rfl
      · rw [List.length_append]
        omega
      · rw [List.length_append, ringContents_update (by omega), hshift, List.map_append]
    · rw [if_neg (by rw [hcell]; exact fun heq => hy (Option.some.inj heq))]
      have hassoc : xs ++ y :: ys = (xs ++ [y]) ++ ys := by simp
      rw [hassoc] at h ⊢
      have hnew : p ∉ xs ++ [y] := by
        rw [List.mem_append, List.mem_singleton, not_or]
        exact ⟨hp, fun heq => hy heq.symm⟩
      obtain ⟨hfound, hremoved⟩ := @ih _ ((idx + 1) % schedulerMaxQueueSize) h hnew
        (by rw [hidx, List.length_append, List.length_singleton, Nat.mod_add_mod, Nat.add_assoc])
      refine ⟨?_, hremoved⟩
      rw [hfound]
      simp [Ne.symm hy]

/-- **What `scheduler_remove` does.**  The first entry of the process goes. -/
lemma Queues.remove (h : s.Queues l) (p : ProcRef) :
    (s.schedulerRemove p).1 = decide (p ∈ l) ∧ Removed s (s.schedulerRemove p).2 (l.erase p) := by
  unfold schedulerRemove queueRemove
  split_ifs with hzero
  · obtain rfl : l = [] := List.length_eq_zero_iff.mp (h.count.symm.trans hzero)
    exact ⟨rfl, h, rfl⟩
  · rw [h.count]
    exact @queueRemoveFrom_spec _ _ [] _ _ h (List.not_mem_nil)
      (by rw [List.length_nil, Nat.add_zero, Nat.mod_eq_of_lt h.head])

end Sched

/-! ## Calls -/

/-- The calls of the scheduler.  With `others` the rest of the kernel leaves another process table. -/
inductive SchedCall
  | add (p : ProcRef)
  | remove (p : ProcRef)
  | tick
  | yield
  | schedule
  | others (procs : ProcTable)

namespace Sched

variable {s s' t : Sched} {p : ProcRef} {l : List ProcRef}

def call (s : Sched) : SchedCall → Sched
  | .add p => (s.schedulerAdd p).2
  | .remove p => (s.schedulerRemove p).2
  | .tick => s.schedulerTick
  | .yield => s.schedulerYield
  | .schedule => s.schedulerSchedule.2
  | .others procs => { s with procs := procs }

/-- The state in which a call runs `scheduler_schedule`, if it does. -/
def entry (s : Sched) : SchedCall → Option Sched
  | .tick =>
    match s.current with
    | none => none
    | some p =>
      if s.running ∧ (s.useTick p).needReschedule then some { s.useTick p with needReschedule := false }
      else none
  | .yield =>
    if s.running then
      some (match s.current with
        | none => s
        | some p => s.modifyProc p fun proc => { proc with timeSlice := 0 })
    else none
  | .schedule => some s
  | _ => none

/-- `scheduler_schedule` can put the current process back. -/
def requeues (s : Sched) : Bool :=
  match s.current with
  | none => true
  | some old =>
    if (s.procs.table old).state = .running then
      ((s.modifyProc old fun proc => { proc with state := .ready }).queueEnqueue old).1
    else true

lemma call_of_entry {c : SchedCall} (h : s.entry c = some t) : SameRun s t ∧ s.call c = t.schedulerSchedule.2 := by
  cases c with
  | tick =>
    simp only [entry] at h
    cases hp : s.current with
    | none =>
      rw [hp] at h
      cases h
    | some p =>
      rw [hp] at h
      dsimp only at h
      split_ifs at h with hnow
      obtain rfl := Option.some.inj h
      refine ⟨(sameRun_useTick s p).trans ⟨fun _ => rfl, rfl, rfl, fun _ h => h.congr rfl rfl rfl rfl⟩, ?_⟩
      simp only [call, schedulerTick, hp, if_pos hnow.1, if_pos hnow.2]
  | yield =>
    simp only [entry] at h
    split_ifs at h with hrunning
    obtain rfl := Option.some.inj h
    refine ⟨?_, ?_⟩
    · split
      · exact .refl s
      · refine sameRun_modifyProc s _ ?_
        exact fun _ => rfl
    · change s.schedulerYield = _
      unfold schedulerYield
      exact if_pos hrunning
  | schedule =>
    obtain rfl := Option.some.inj h
    exact ⟨.refl s, rfl⟩
  | add p => cases h
  | remove p => cases h
  | others procs => cases h

/-- A tick or a yield without a switch leaves the queue and the current process. -/
lemma call_of_no_entry {c : SchedCall} (h : s.entry c = none) (hc : c = .tick ∨ c = .yield) :
    SameRun s (s.call c) := by
  rcases hc with rfl | rfl
  · simp only [entry] at h
    cases hp : s.current with
    | none =>
      simp only [call, schedulerTick, hp]
      exact .refl s
    | some p =>
      rw [hp] at h
      dsimp only at h
      split_ifs at h with hnow
      simp only [call, schedulerTick, hp]
      split_ifs with hrunning hneed
      · exact absurd ⟨hrunning, hneed⟩ hnow
      · exact sameRun_useTick s p
      · exact .refl s
  · simp only [entry] at h
    split_ifs at h with hrunning
    simp only [call, schedulerYield, if_neg hrunning]
    exact .refl s

/-! ## The invariant -/

/-- The queue holds `l`: nobody twice, and not the current process. -/
structure InTurn (s : Sched) (l : List ProcRef) : Prop where
  queues : s.Queues l
  nodup : l.Nodup
  out : ∀ c, s.current = some c → c ∉ l

lemma InTurn.room (h : s.InTurn l) {c : ProcRef} (hc : s.current = some c) : l.length < schedulerMaxQueueSize := by
  have hle := (List.nodup_cons.mpr ⟨h.out c hc, h.nodup⟩).length_le_card
  rw [List.length_cons, Fintype.card_fin] at hle
  exact hle

lemma InTurn.of_sameRun (h : s.InTurn l) (hsame : SameRun s s') : s'.InTurn l :=
  ⟨hsame.queues l h.queues, h.nodup, fun c hc => h.out c (hsame.current.symm.trans hc)⟩

lemma InTurn.requeues (h : s.InTurn l) : s.requeues = true := by
  unfold Sched.requeues
  split
  · rfl
  · rename_i old hold
    split_ifs
    · exact ((h.queues.modifyProc old _).enqueue (h.room hold)).1
    · rfl

lemma InTurn.nodup_runnable (h : s.InTurn l) : (s.runnable l).Nodup := by
  unfold runnable
  split
  · exact h.nodup
  · rename_i c hc
    split_ifs
    · exact h.nodup.append (List.nodup_singleton c) (List.disjoint_singleton.mpr (h.out c hc))
    · exact h.nodup

lemma getElem?_of_prefix {l' : List ProcRef} {k : Nat} (h : l <+: l') (hk : l[k]? = some p) : l'[k]? = some p := by
  obtain ⟨rest, rfl⟩ := h
  rw [List.getElem?_append_left (List.getElem?_eq_some_iff.mp hk).1]
  exact hk

lemma prefix_runnable (s : Sched) (l : List ProcRef) : l <+: s.runnable l := by
  unfold runnable
  split
  · exact List.prefix_rfl
  · split_ifs
    · exact List.prefix_append l _
    · exact List.prefix_rfl

/-- **A switch.**  The first that waits becomes the current process, and the others move up. -/
lemma InTurn.schedule (h : s.InTurn l) : ∃ l', s.schedulerSchedule.2.InTurn l' ∧
    ∀ k p, l[k]? = some p → if k = 0 then s.schedulerSchedule.2.current = some p else l'[k - 1]? = some p := by
  rcases schedule_cases h.queues fun c hc => h.room hc.1 with ⟨n, rest, hrun, hd⟩ | ⟨hrun, -, hidle⟩
  · have hnodup := h.nodup_runnable
    rw [hrun, List.nodup_cons] at hnodup
    refine ⟨rest, ⟨hd.queues, hnodup.2, fun c hc => ?_⟩, fun k p hk => ?_⟩
    · obtain rfl : n = c := Option.some.inj (hd.current.symm.trans hc)
      exact hnodup.1
    · have hat := getElem?_of_prefix (s.prefix_runnable l) hk
      rw [hrun] at hat
      cases k with
      | zero => exact hd.current.trans hat
      | succ k => exact hat
  · have hnil : l = [] := List.prefix_nil.mp (hrun ▸ s.prefix_runnable l)
    subst hnil
    rcases hidle with ⟨idle, -, hd⟩ | ⟨-, hhalt⟩
    · exact ⟨[], ⟨hd.queues, List.nodup_nil, fun _ _ => List.not_mem_nil⟩, fun k p hk => by cases hk⟩
    · rw [hhalt]
      exact ⟨[], h, fun k p hk => by cases hk⟩

lemma InTurn.add (h : s.InTurn l) (hnew : (s.procs.table p).state = .ready → p ∉ l ∧ s.current ≠ some p) :
    (s.schedulerAdd p).2.current = s.current ∧ ∃ l', (s.schedulerAdd p).2.InTurn l' ∧ l <+: l' := by
  rcases add_cases h.queues p with hfail | ⟨hready, -, -, hqueues, hcurrent, -, -⟩
  · rw [hfail]
    exact ⟨rfl, l, h, List.prefix_rfl⟩
  · obtain ⟨hout, hother⟩ := hnew hready
    refine ⟨hcurrent, l ++ [p], ⟨hqueues, ?_, fun c hc => ?_⟩, List.prefix_append l [p]⟩
    · exact h.nodup.append (List.nodup_singleton p) (List.disjoint_singleton.mpr hout)
    · rw [hcurrent] at hc
      rw [List.mem_append, List.mem_singleton, not_or]
      exact ⟨h.out c hc, fun heq => hother (heq ▸ hc)⟩

lemma InTurn.remove (h : s.InTurn l) (p : ProcRef) :
    (s.schedulerRemove p).2.current = s.current ∧ (s.schedulerRemove p).2.InTurn (l.erase p) := by
  obtain ⟨-, hqueues, hcurrent⟩ := h.queues.remove p
  refine ⟨hcurrent, hqueues, h.nodup.erase p, fun c hc hmem => ?_⟩
  exact h.out c (hcurrent ▸ hc) (List.mem_of_mem_erase hmem)

end Sched

/-! ## Runs -/

/-- The scheduler, and how often `scheduler_schedule` has run. -/
structure RoundRobin where
  sched : Sched
  schedules : Nat := 0

namespace RoundRobin

variable {m m' m₀ : RoundRobin} {p : ProcRef} {l : List ProcRef}

/-- A call.  A process is added only when it neither waits nor is the current one. -/
def Step (m : RoundRobin) (c : SchedCall) (m' : RoundRobin) : Prop :=
  m' = ⟨m.sched.call c, m.schedules + if (m.sched.entry c).isSome then 1 else 0⟩ ∧
    match c with
    | .add p => (m.sched.procs.table p).state = .ready ∧ p ∉ m.sched.readyList ∧ m.sched.current ≠ some p
    | _ => True

/-- A call that takes nobody out of the queue. -/
def StayingStep (m : RoundRobin) (c : SchedCall) (m' : RoundRobin) : Prop :=
  Step m c m' ∧
    match c with
    | .remove p => (m.sched.schedulerRemove p).1 = false
    | _ => True

/-- **One call** keeps the invariant. -/
lemma inTurn_step {c : SchedCall} (h : ∃ l, m.sched.InTurn l) (hstep : Step m c m') : ∃ l, m'.sched.InTurn l := by
  obtain ⟨l, h⟩ := h
  obtain ⟨rfl, hguard⟩ := hstep
  cases hentry : m.sched.entry c with
  | some t =>
    obtain ⟨hsame, hcall⟩ := Sched.call_of_entry hentry
    obtain ⟨l', hl', -⟩ := (h.of_sameRun hsame).schedule
    exact ⟨l', by rw [hcall]; exact hl'⟩
  | none =>
    cases c with
    | add p =>
      rw [h.queues.readyList_eq] at hguard
      obtain ⟨-, l', hl', -⟩ := h.add fun _ => hguard.2
      exact ⟨l', hl'⟩
    | remove p => exact ⟨l.erase p, (h.remove p).2⟩
    | tick => exact ⟨l, h.of_sameRun (Sched.call_of_no_entry hentry (.inl rfl))⟩
    | yield => exact ⟨l, h.of_sameRun (Sched.call_of_no_entry hentry (.inr rfl))⟩
    | schedule => cases hentry
    | others procs => exact ⟨l, h.queues.congr rfl rfl rfl rfl, h.nodup, h.out⟩

/-- The process waits at position `k`, or it is the current process since the last switch, or it was. -/
def Served (p : ProcRef) (k : Nat) (first : Nat) (m : RoundRobin) : Prop :=
  ∃ l, m.sched.InTurn l ∧ first ≤ m.schedules ∧ (m.schedules ≤ first + k → l[first + k - m.schedules]? = some p) ∧
    (m.schedules = first + k + 1 → m.sched.current = some p)

lemma Served.stay {k first : Nat} {s : Sched} (h : Served p k first m) (hcurrent : s.current = m.sched.current)
    (hqueue : ∀ l, m.sched.InTurn l → ∃ l', s.InTurn l' ∧ l <+: l') : Served p k first ⟨s, m.schedules⟩ := by
  obtain ⟨l, hl, hfirst, hwaits, hruns⟩ := h
  obtain ⟨l', hl', hprefix⟩ := hqueue l hl
  refine ⟨l', hl', hfirst, fun hle => Sched.getElem?_of_prefix hprefix (hwaits hle), fun heq => ?_⟩
  rw [hcurrent]
  exact hruns heq

/-- **One call** of those that take nobody out. -/
lemma served_step {k first : Nat} {c : SchedCall} (h : Served p k first m) (hstep : StayingStep m c m') :
    Served p k first m' := by
  obtain ⟨⟨rfl, hguard⟩, hstays⟩ := hstep
  cases hentry : m.sched.entry c with
  | some t =>
    obtain ⟨l, hl, hfirst, hwaits, -⟩ := h
    obtain ⟨hsame, hcall⟩ := Sched.call_of_entry hentry
    obtain ⟨l', hl', hmove⟩ := (hl.of_sameRun hsame).schedule
    rw [hcall]
    refine ⟨l', hl', Nat.le_succ_of_le hfirst, fun hle => ?_, fun heq => ?_⟩
    · have hle' : m.schedules + 1 ≤ first + k := hle
      have hnext := hmove _ p (hwaits (by omega))
      rw [if_neg (by omega), Nat.sub_sub] at hnext
      exact hnext
    · have heq' : m.schedules + 1 = first + k + 1 := heq
      have hnext := hmove _ p (hwaits (by omega))
      rw [if_pos (by omega)] at hnext
      exact hnext
  | none =>
    cases c with
    | add q =>
      refine h.stay ?_ fun l hl => ?_
      · obtain ⟨l, hl, -⟩ := h
        rw [hl.queues.readyList_eq] at hguard
        exact (hl.add fun _ => hguard.2).1
      · rw [hl.queues.readyList_eq] at hguard
        exact (hl.add fun _ => hguard.2).2
    | remove q =>
      refine h.stay ?_ fun l hl => ⟨l.erase q, (hl.remove q).2, ?_⟩
      · obtain ⟨l, hl, -⟩ := h
        exact (hl.remove q).1
      · have hnone := (hl.queues.remove q).1.symm.trans hstays
        rw [List.erase_of_not_mem (of_decide_eq_false hnone)]
    | tick =>
      have hsame := Sched.call_of_no_entry hentry (.inl rfl)
      exact h.stay hsame.current fun l hl => ⟨l, hl.of_sameRun hsame, List.prefix_rfl⟩
    | yield =>
      have hsame := Sched.call_of_no_entry hentry (.inr rfl)
      exact h.stay hsame.current fun l hl => ⟨l, hl.of_sameRun hsame, List.prefix_rfl⟩
    | schedule => cases hentry
    | others procs =>
      exact h.stay rfl fun l hl =>
        ⟨l, ⟨hl.queues.congr rfl rfl rfl rfl, hl.nodup, hl.out⟩, List.prefix_rfl⟩

/-- After `scheduler_init` nobody waits. -/
lemma inTurn_init (s : Sched) : s.schedulerInit.InTurn [] := by
  have hempty : ∀ s' : Sched, s'.queueHead = 0 → s'.queueTail = 0 → s'.queueCount = 0 → s'.InTurn [] :=
    fun s' hhead htail hcount => ⟨⟨by rw [hhead]; decide, by rw [hhead, htail]; rfl, hcount,
      Nat.zero_le _, rfl⟩, List.nodup_nil, fun _ _ => List.not_mem_nil⟩
  unfold Sched.schedulerInit
  dsimp only
  split
  · exact hempty _ rfl rfl rfl
  · exact hempty _ rfl rfl rfl

/-- **The queue is served in order.**  In every run from `scheduler_init` on nobody waits twice, the
current process does not wait, and it finds a place whenever it is put back; who waits at position `k`
waits through `k` switches, and the next one makes him the current process. -/
theorem roundRobin_of_steps (s : Sched) {cs : List SchedCall} {m : RoundRobin}
    (hrun : Steps Step ⟨s.schedulerInit, 0⟩ cs m) :
    m.sched.readyList.Nodup ∧ (∀ c, m.sched.current = some c → c ∉ m.sched.readyList) ∧
      (∀ c t, m.sched.entry c = some t → t.requeues = true) ∧
      ∀ k p, m.sched.readyList[k]? = some p → ∀ ds m', Steps StayingStep m ds m' →
        (m'.schedules ≤ m.schedules + k → m'.sched.current ≠ some p ∧
          m'.sched.readyList[m.schedules + k - m'.schedules]? = some p) ∧
        (m'.schedules = m.schedules + k + 1 → m'.sched.current = some p) := by
  obtain ⟨l, hl⟩ : ∃ l, m.sched.InTurn l :=
    hrun.invariant (I := fun m => ∃ l, m.sched.InTurn l) (fun _ _ _ => inTurn_step) ⟨[], inTurn_init s⟩
  rw [hl.queues.readyList_eq]
  refine ⟨hl.nodup, hl.out, fun c t hentry => ?_, fun k p hk ds m' hmore => ?_⟩
  · exact (hl.of_sameRun (Sched.call_of_entry hentry).1).requeues
  · have hstart : Served p k m.schedules m :=
      ⟨l, hl, le_rfl, fun _ => by rw [Nat.add_sub_cancel_left]; exact hk, fun heq => by omega⟩
    obtain ⟨l', hl', -, hwaits, hruns⟩ := hmore.invariant (I := Served p k m.schedules) (fun _ _ _ => served_step) hstart
    refine ⟨fun hle => ?_, hruns⟩
    have hat := hwaits hle
    rw [hl'.queues.readyList_eq]
    exact ⟨fun hcur => hl'.out p hcur (List.mem_of_getElem? hat), hat⟩

/-- Process 0 is the idle process, and process 1 is ready. -/
def twoProcesses : Sched :=
  { procs :=
      { table := fun p =>
          if p.val = 0 then { pid := pidIdle, state := .running }
          else if p.val = 1 then { pid := 2, state := .ready }
          else {}
        pmm := ⟨fun _ => 0, 0, 0⟩ } }

/-- A process is added and waits; the first switch runs it. -/
theorem roundRobin_twoProcesses : ∃ m, Steps Step ⟨twoProcesses.schedulerInit, 0⟩ [.add 1] m ∧
    m.sched.readyList[0]? = some 1 ∧ m.sched.readyList.Nodup ∧
      ∀ ds m', Steps StayingStep m ds m' → m'.schedules = m.schedules + 0 + 1 → m'.sched.current = some 1 := by
  obtain ⟨m, hrun, hwaits⟩ : ∃ m, Steps Step ⟨twoProcesses.schedulerInit, 0⟩ [.add 1] m ∧
      m.sched.readyList[0]? = some 1 :=
    ⟨_, .cons ⟨rfl, by decide⟩ (.nil _), by decide⟩
  obtain ⟨hnodup, -, -, hserved⟩ := roundRobin_of_steps twoProcesses hrun
  exact ⟨m, hrun, hwaits, hnodup, fun ds m' hmore => (hserved 0 1 hwaits ds m' hmore).2⟩

end RoundRobin

end AAAos
