import AAAos.Kernel.Sched.RoundRobin
import AAAos.Lib.Fifo

/-!
# The ready queue as a bounded list

The operations on the ring of `kernel/sched/scheduler.c`, with the pointers that they are given and the slots that are
not in use.

**What is proved.**  From a ring that is empty, wherever its head stands, every sequence of calls is answered as the
list of at most 256 processes answers it, and leaves the ring with the contents of that list (`readyQueue_refines`): the
tail is as many slots behind the head as there are processes, and all slots outside are `NULL` (`Holds`).

Each operation stores to at most one slot that is not overwritten at once, and that slot enters or leaves the window by
the same operation.  `queue_remove` moves up what is behind the process, across the end of the array or not, so that the
slot that leaves is the last one (`vacant_shift`).
-/

namespace AAAos

/-! ## Slots outside the window -/

section Vacant

universe u

variable {β : Type u} {size : Nat} {buf : Nat → Option β} {r n m k w i : Nat}

/-- All slots outside the window of `n` slots from `r` on are `NULL`. -/
def Vacant (size : Nat) (buf : Nat → Option β) (r n : Nat) : Prop :=
  ∀ i < size, (∀ k < n, i ≠ (r + k) % size) → buf i = none

lemma vacant_push (h : Vacant size buf r n) (b : β) :
    Vacant size (Function.update buf ((r + n) % size) (some b)) r (n + 1) := by
  intro i hi hout
  rw [Function.update_of_ne (hout n (Nat.lt_succ_self n))]
  exact h i hi fun k hk => hout k (by omega)

lemma vacant_pop (h : Vacant size buf r (n + 1)) (hr : r < size) :
    Vacant size (Function.update buf r none) ((r + 1) % size) n := by
  intro i hi hout
  by_cases hir : i = r
  · rw [hir, Function.update_self]
  · rw [Function.update_of_ne hir]
    refine h i hi fun k hk => ?_
    cases k with
    | zero => rwa [Nat.add_zero, Nat.mod_eq_of_lt hr]
    | succ k =>
      have hnext := hout k (by omega)
      rwa [Nat.mod_add_mod, Nat.add_assoc, Nat.add_comm 1 k] at hnext

/-- The loop that closes a gap stores to the slots from `w` on only. -/
lemma ringShift_outside (hw : w = r % size) (hout : ∀ j < m, i ≠ (r + j) % size) :
    ringShift size buf w m i = buf i := by
  induction m generalizing buf w r with
  | zero => rfl
  | succ m ih =>
    have hhere : i ≠ w := by
      rw [hw]
      exact hout 0 (Nat.succ_pos m)
    rw [ringShift, ih (r := r + 1) (by rw [hw, Nat.mod_add_mod]) fun j hj => ?_, Function.update_of_ne hhere]
    rw [Nat.add_assoc, Nat.add_comm 1 j]
    exact hout (j + 1) (by omega)

/-- Where a gap is closed, the last slot leaves the window. -/
lemma vacant_shift (h : Vacant size buf r (k + (m + 1))) (hw : w = (r + k) % size) :
    Vacant size (Function.update (ringShift size buf w m) ((r + (k + m)) % size) none) r (k + m) := by
  intro i hi hout
  by_cases hlast : i = (r + (k + m)) % size
  · rw [hlast, Function.update_self]
  · have hold : buf i = none := by
      refine h i hi fun j hj => ?_
      rcases Nat.lt_or_ge j (k + m) with hlt | hge
      · exact hout j hlt
      · rwa [show j = k + m by omega]
    rw [Function.update_of_ne hlast, ringShift_outside hw fun j hj => ?_, hold]
    rw [Nat.add_assoc]
    exact hout (k + j) (by omega)

end Vacant

namespace Sched

variable {s : Sched} {p : ProcRef} {l : List ProcRef}

/-! ## Calls -/

/-- `queue_peek`. -/
def queuePeek (s : Sched) : Option ProcRef := if s.queueCount = 0 then none else s.readyQueue s.queueHead

/-- The calls of the ready queue, by what they return and what they do.  What is given `NULL` returns `false`. -/
def queueCall (s : Sched) : QueueCall ProcRef → QueueAnswer ProcRef × Sched
  | .enqueue (some p) => (.done (s.queueEnqueue p).1, (s.queueEnqueue p).2)
  | .enqueue none => (.done false, s)
  | .dequeue => (.value s.queueDequeue.1, s.queueDequeue.2)
  | .remove (some p) => (.done (s.queueRemove p).1, (s.queueRemove p).2)
  | .remove none => (.done false, s)
  | .peek => (.value s.queuePeek, s)

/-- An empty ring with its head at some slot. -/
def emptyQueue (s : Sched) (head : Nat) : Sched :=
  { s with readyQueue := fun _ => none, queueHead := head, queueTail := head, queueCount := 0 }

/-- The ring holds the list, and nothing else. -/
structure Holds (s : Sched) (l : List ProcRef) : Prop extends s.Queues l where
  vacant : Vacant schedulerMaxQueueSize s.readyQueue s.queueHead s.queueCount

/-! ## One call -/

lemma holds_empty (s : Sched) {head : Nat} (h : head < schedulerMaxQueueSize) : (s.emptyQueue head).Holds [] where
  head := h
  tail := (Nat.mod_eq_of_lt h).symm
  count := rfl
  fits := Nat.zero_le _
  cells := rfl
  vacant := fun _ _ _ => rfl

lemma Holds.enqueue (h : s.Holds l) (p : ProcRef) :
    (s.queueEnqueue p).1 = decide (l.length < schedulerMaxQueueSize) ∧
      (s.queueEnqueue p).2.Holds (if l.length < schedulerMaxQueueSize then l ++ [p] else l) := by
  by_cases hroom : l.length < schedulerMaxQueueSize
  · obtain ⟨hdone, hqueues, -, -⟩ := h.toQueues.enqueue (p := p) hroom
    rw [if_pos hroom, decide_eq_true hroom]
    refine ⟨hdone, hqueues, ?_⟩
    have hnotFull : ¬ s.queueFull = true := by
      rw [queueFull, decide_eq_true_eq, h.count]
      omega
    have hvacant := vacant_push h.vacant p
    rw [h.count, ← h.tail] at hvacant
    rw [queueEnqueue, if_neg hnotFull]
    dsimp only
    rw [h.count]
    exact hvacant
  · have hfull : s.queueFull = true := by
      rw [queueFull, decide_eq_true_eq, h.count]
      omega
    rw [queueEnqueue, if_pos hfull, if_neg hroom, decide_eq_false hroom]
    exact ⟨rfl, h⟩

lemma Holds.dequeue (h : s.Holds l) : s.queueDequeue.1 = l.head? ∧ s.queueDequeue.2.Holds l.tail := by
  cases l with
  | nil =>
    rw [h.toQueues.dequeue_nil]
    exact ⟨rfl, h⟩
  | cons p l =>
    obtain ⟨hvalue, hqueues, -, -⟩ := h.toQueues.dequeue
    have hcount : s.queueCount = l.length + 1 := h.count
    have hvacant := h.vacant
    rw [hcount] at hvacant
    refine ⟨hvalue, hqueues, ?_⟩
    rw [queueDequeue, if_neg (by omega)]
    dsimp only
    rw [hcount, Nat.add_sub_cancel]
    exact vacant_pop hvacant h.head

/-- The search of `queue_remove`, `k` slots from the head. -/
lemma vacant_queueRemoveFrom {n k idx : Nat}
    (hvacant : Vacant schedulerMaxQueueSize s.readyQueue s.queueHead s.queueCount) (hcount : s.queueCount = k + n)
    (htail : s.queueTail = (s.queueHead + s.queueCount) % schedulerMaxQueueSize)
    (hidx : idx = (s.queueHead + k) % schedulerMaxQueueSize) :
    Vacant schedulerMaxQueueSize (s.queueRemoveFrom p idx n).2.readyQueue (s.queueRemoveFrom p idx n).2.queueHead
      (s.queueRemoveFrom p idx n).2.queueCount := by
  induction n generalizing k idx with
  | zero => exact hvacant
  | succ n ih =>
    rw [queueRemoveFrom]
    split_ifs with hfound
    · have hback : (s.queueTail + schedulerMaxQueueSize - 1) % schedulerMaxQueueSize =
          (s.queueHead + (k + n)) % schedulerMaxQueueSize := by
        unfold schedulerMaxQueueSize at htail ⊢
        omega
      have hcount' : s.queueCount - 1 = k + n := by omega
      dsimp only
      rw [hback, hcount']
      rw [hcount] at hvacant
      exact vacant_shift hvacant hidx
    · exact ih (k := k + 1) (by omega) (by rw [hidx, Nat.mod_add_mod, Nat.add_assoc])

lemma Holds.remove (h : s.Holds l) (p : ProcRef) :
    (s.queueRemove p).1 = decide (p ∈ l) ∧ (s.queueRemove p).2.Holds (l.erase p) := by
  obtain ⟨hfound, hqueues, -⟩ := h.toQueues.remove p
  refine ⟨hfound, hqueues, ?_⟩
  unfold queueRemove
  split_ifs with hzero
  · exact h.vacant
  · refine vacant_queueRemoveFrom (k := 0) h.vacant (Nat.zero_add _).symm ?_ ?_
    · rw [h.count]
      exact h.tail
    · rw [Nat.add_zero, Nat.mod_eq_of_lt h.head]

lemma Holds.peek (h : s.Holds l) : s.queuePeek = l.head? := by
  cases l with
  | nil => exact if_pos h.count
  | cons p l =>
    have hcount : s.queueCount = l.length + 1 := h.count
    have hfront := h.toQueues.dequeue.1
    rw [queueDequeue, if_neg (by omega)] at hfront
    rw [queuePeek, if_neg (by omega)]
    exact hfront

/-- **One call** is answered as the list answers it. -/
lemma Holds.call (h : s.Holds l) (c : QueueCall ProcRef) :
    (s.queueCall c).1 = (fifoCall schedulerMaxQueueSize l c).1 ∧
      (s.queueCall c).2.Holds (fifoCall schedulerMaxQueueSize l c).2 := by
  cases c with
  | enqueue p =>
    cases p with
    | none => exact ⟨rfl, h⟩
    | some p =>
      obtain ⟨hdone, hholds⟩ := h.enqueue p
      rw [fifoCall, queueCall, hdone]
      split_ifs at hholds ⊢ with hroom
      · exact ⟨congrArg QueueAnswer.done (decide_eq_true hroom), hholds⟩
      · exact ⟨congrArg QueueAnswer.done (decide_eq_false hroom), hholds⟩
  | dequeue => exact ⟨congrArg QueueAnswer.value h.dequeue.1, h.dequeue.2⟩
  | remove p =>
    cases p with
    | none => exact ⟨rfl, h⟩
    | some p => exact ⟨congrArg QueueAnswer.done (h.remove p).1, (h.remove p).2⟩
  | peek => exact ⟨congrArg QueueAnswer.value h.peek, h⟩

/-! ## Runs -/

/-- **The ready queue is a bounded queue**, wherever its head stands at first. -/
theorem readyQueue_refines (s : Sched) (head : Fin schedulerMaxQueueSize) (cs : List (QueueCall ProcRef)) :
    (answers queueCall (s.emptyQueue head) cs).1 = (answers (fifoCall schedulerMaxQueueSize) [] cs).1 ∧
      (answers queueCall (s.emptyQueue head) cs).2.Holds (answers (fifoCall schedulerMaxQueueSize) [] cs).2 :=
  answers_refine (fun _ _ c h => h.call c) (s.holds_empty head.2) cs

end Sched

end AAAos
