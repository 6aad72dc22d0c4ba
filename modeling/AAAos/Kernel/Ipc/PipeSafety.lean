import AAAos.Kernel.Ipc.Pipe
import AAAos.Lib.Trace

/-!
# Pipes under concurrency

Any number of calls are in progress on any of the pipes.  A call is begun on a descriptor, which
gives it a raw pointer to the slot, and from then on it runs section by section under the pipe's
lock, in any order with the others and with the creation of pipes; between its sections the
process table may change in any way.  A call keeps the pointer, not the pipe: `PipeMachine.made`
counts the pipes a slot has held, and a call remembers which of them it was begun on.

**The pipe is a queue.**  `PipeMachine.moves` lists the bytes of every section in lock order.  What
has been stored into the pipe that is in a slot now is what has been fetched from it followed by
what the buffer holds (`fifo_of_steps`).

**Closing.**  A write looks at the read end when it begins and whenever the buffer is full, and not
before it stores into a buffer that has room again.  So bytes go into a pipe without readers when a
reader makes room between the close and the writer's next section; and a write that is still in
progress when the slot is given to a new pipe stores into that one.  As long as neither happens
(`Orderly`), closing is respected (`respected_of_steps`).
-/

namespace AAAos

/-- The calls of `pipe.c` that work on a pipe, with their arguments. -/
inductive PipeOp
  | read (count : Nat)
  | write (src : List UInt8)
  | tryRead (count : Nat)
  | tryWrite (src : List UInt8)
  | closeFd
  | close

/-- The buffer the call was given to write. -/
def PipeOp.src : PipeOp → Option (List UInt8)
  | .write src => some src
  | .tryWrite src => some src
  | _ => none

/-- A call in progress: its descriptor and the slot behind it, its arguments, and its local
variables.  `pipe` and `moved` are not in the code: the pipe the call was begun on, as a number, and
the bytes it has moved. -/
structure PipeCall where
  fd : Int
  slot : PipeRef
  pipe : Nat
  op : PipeOp
  entered : Bool := false
  written : Nat := 0
  moved : List UInt8 := []

namespace PipeCall

/-- The next section of the call under the pipe's lock. -/
def run (c : PipeCall) (p : Pipe) (procs : ProcTable) : Section :=
  match c.op with
  | .read count => if c.entered then p.pipeReadSection procs count else p.pipeRead procs count
  | .write src =>
    if c.entered then p.pipeWriteSection procs src c.written else p.pipeWrite procs src
  | .tryRead count => p.pipeTryRead procs count
  | .tryWrite src => p.pipeTryWrite procs src
  | .closeFd => p.pipeCloseFd procs (c.fd % 2 == 0)
  | .close => p.pipeClose procs

/-- The call after a section. -/
def next (c : PipeCall) (r : Section) : PipeCall :=
  { c with
    entered := true
    written := c.written + r.bytes.length
    moved := c.moved ++ r.bytes }

end PipeCall

/-- The bytes one section moved, with the pipe it worked on and the read references that pipe had. -/
structure Move where
  call : PipeCall
  pipe : Nat
  readers : Nat
  bytes : List UInt8

/-- The pipes, the processes, and the calls in progress. -/
structure PipeMachine where
  table : PipeTable := {}
  procs : ProcTable
  made : PipeRef → Nat := fun _ => 0
  calls : Nat → Option PipeCall := fun _ => none
  moves : List Move := []
  returned : List (PipeCall × Int) := []

/-- What may happen next. -/
inductive PipeEvent
  | start (i : Nat) (fd : Int) (op : PipeOp)
  | run (i : Nat)
  | create
  | procs (t : ProcTable)

/-- The bytes that moved into (`stored`) or out of the given pipe of a slot. -/
def stream (moves : List Move) (slot : PipeRef) (pipe : Nat) (stored : Bool) : List UInt8 :=
  moves.flatMap fun e =>
    if e.call.slot = slot ∧ e.pipe = pipe ∧ e.call.op.src.isSome = stored then e.bytes else []

namespace PipeMachine

/-- A call is begun with number `i`. -/
def begun (m : PipeMachine) (i : Nat) (fd : Int) (slot : PipeRef) (op : PipeOp) : PipeMachine :=
  let c : PipeCall := { fd := fd, slot := slot, pipe := m.made slot, op := op }
  { m with calls := Function.update m.calls i (some c) }

/-- Call `c`, with number `i`, runs its next section. -/
def ran (m : PipeMachine) (i : Nat) (c : PipeCall) : PipeMachine :=
  let p := m.table.pipes c.slot
  let r := c.run p m.procs
  { m with
    table := { m.table with pipes := Function.update m.table.pipes c.slot r.pipe }
    procs := r.procs
    calls := Function.update m.calls i (if r.answer.isNone then some (c.next r) else none)
    moves := m.moves ++ [⟨c, m.made c.slot, p.readers, r.bytes⟩]
    returned := m.returned ++ (r.answer.map fun n => (c.next r, n)).toList }

/-- `pipe_create` runs. -/
def created (m : PipeMachine) : PipeMachine :=
  match m.table.pipeAlloc with
  | none => m
  | some slot =>
    { m with
      table := m.table.pipeCreate.2.2
      made := Function.update m.made slot (m.made slot + 1) }

/-- One step of the pipes. -/
def Step (m : PipeMachine) : PipeEvent → PipeMachine → Prop
  | .start i fd op, m' => m.calls i = none ∧ ∃ slot, m.table.pipeGet fd = some slot ∧
      m' = m.begun i fd slot op
  | .run i, m' => ∃ c, m.calls i = some c ∧ m' = m.ran i c
  | .create, m' => m' = m.created
  | .procs t, m' => m' = { m with procs := t }

/-- The steps, computed. -/
def exec (m : PipeMachine) : PipeEvent → Option PipeMachine
  | .start i fd op =>
    if (m.calls i).isNone then (m.table.pipeGet fd).map fun slot => m.begun i fd slot op else none
  | .run i => (m.calls i).map (m.ran i)
  | .create => some m.created
  | .procs t => some { m with procs := t }

lemma step_of_exec (m : PipeMachine) (e : PipeEvent) (m' : PipeMachine) (h : m.exec e = some m') : m.Step e m' := by
  cases e with
  | start i fd op =>
    simp only [exec, Option.ite_none_right_eq_some, Option.map_eq_some_iff] at h
    obtain ⟨hfree, slot, hget, rfl⟩ := h
    exact ⟨by simpa using hfree, slot, hget, rfl⟩
  | run i =>
    obtain ⟨c, hc, rfl⟩ := Option.map_eq_some_iff.mp h
    exact ⟨c, hc, rfl⟩
  | create | procs t => exact (Option.some.inj h).symm

end PipeMachine

/-! ## One call -/

namespace PipeCall

variable {c : PipeCall} {p : Pipe} {procs : ProcTable} {r : Section}

/-- A call in progress has moved what its variables say: a write a first part of its buffer,
another call nothing. -/
structure Ok (c : PipeCall) : Prop where
  fresh : c.entered = false → c.written = 0
  counted : c.moved.length = c.written
  part : match c.op with
    | .write src => c.moved <+: src
    | _ => c.moved = []

/-- What a call that returned `n` has moved. -/
def Answered (c : PipeCall) (n : Nat) : Prop :=
  match c.op with
  | .write src => c.moved = src.take n ∧ n ≤ src.length
  | .tryWrite src => c.moved = src.take n ∧ n ≤ src.length
  | .read _ => c.moved.length = n
  | .tryRead _ => c.moved.length = n
  | .closeFd => True
  | .close => True

/-- What a section does to the queue of its pipe. -/
def Queues (c : PipeCall) (p : Pipe) (r : Section) : Prop :=
  if c.op.src.isSome then r.pipe.contents = p.contents ++ r.bytes
  else p.contents = r.bytes ++ r.pipe.contents

lemma prefix_append_drop {moved bytes src : List UInt8} (h : moved <+: src)
    (hb : bytes <+: src.drop moved.length) : moved ++ bytes <+: src := by
  obtain ⟨rest, rfl⟩ := h
  rw [List.drop_left] at hb
  exact (List.prefix_append_right_inj moved).mpr hb

lemma Ok.written_le {src : List UInt8} (hc : c.Ok) (hop : c.op = .write src) : c.written ≤ src.length := by
  have hpart := hc.part
  simp only [hop] at hpart
  exact hc.counted ▸ hpart.length_le

lemma Ok.of_reads (hc : c.Ok) (hr : p.Reads r) {count : Nat} (hop : c.op = .read count ∨ c.op = .tryRead count) :
    c.Queues p r ∧ (r.answer = none → (c.next r).Ok) ∧
      ∀ n : Nat, r.answer = some (n : Int) → (c.next r).Answered n := by
  have hmoved : c.moved = [] := by
    have hpart := hc.part
    rcases hop with hop | hop <;> simpa only [hop] using hpart
  refine ⟨?_, fun hnone => ⟨nofun, ?_, ?_⟩, fun n hn => ?_⟩
  · have hcontents := hr.contents
    rcases hop with hop | hop <;> simpa [Queues, hop, PipeOp.src] using hcontents
  · simp [next, hc.counted]
  · rcases hop with hop | hop <;> simp [next, hop, hmoved, hr.blocked hnone]
  · have hlen := hr.answer n hn
    rcases hop with hop | hop <;> simp [Answered, next, hop, hmoved, hlen]

lemma Ok.of_writes (hc : c.Ok) {src : List UInt8} (hr : p.Writes src c.written r)
    (hop : c.op = .write src ∨ c.op = .tryWrite src ∧ r.answer ≠ none) :
    c.Queues p r ∧ (r.answer = none → (c.next r).Ok) ∧
      ∀ n : Nat, r.answer = some (n : Int) → (c.next r).Answered n := by
  have hmoved : c.moved <+: src := by
    have hpart := hc.part
    rcases hop with hop | ⟨hop, -⟩
    · simpa only [hop] using hpart
    · simp only [hop] at hpart
      rw [hpart]
      exact List.nil_prefix
  have hall : (c.next r).moved <+: src :=
    prefix_append_drop hmoved (hc.counted.symm ▸ hr.chunk)
  have hcounted : (c.next r).moved.length = (c.next r).written := by
    simp [next, hc.counted]
  refine ⟨?_, fun hnone => ⟨nofun, hcounted, ?_⟩, fun n hn => ?_⟩
  · have hcontents := hr.contents
    rcases hop with hop | ⟨hop, -⟩ <;> simpa [Queues, hop, PipeOp.src] using hcontents
  · rcases hop with hop | ⟨-, hret⟩
    · have hop' : (c.next r).op = .write src := hop
      simpa only [hop'] using hall
    · exact absurd hnone hret
  · have hlen : (c.next r).moved.length = n := hcounted.trans (hr.answer n hn)
    have htake : (c.next r).moved = src.take n ∧ n ≤ src.length :=
      ⟨hlen ▸ List.prefix_iff_eq_take.mp hall, hlen ▸ hall.length_le⟩
    rcases hop with hop | ⟨hop, -⟩
    · have hop' : (c.next r).op = .write src := hop
      simpa only [Answered, hop'] using htake
    · have hop' : (c.next r).op = .tryWrite src := hop
      simpa only [Answered, hop'] using htake

/-- **What one section of a call does.** -/
lemma Ok.run (hc : c.Ok) (hp : p.Valid) (hr : c.run p procs = r) :
    r.pipe.Valid ∧ c.Queues p r ∧ (r.answer = none → (c.next r).Ok) ∧
      ∀ n : Nat, r.answer = some (n : Int) → (c.next r).Answered n := by
  subst hr
  cases hop : c.op with
  | read count =>
    have hreads : p.Reads (c.run p procs) := by
      simp only [PipeCall.run, hop]
      split_ifs
      · exact hp.pipeReadSection count
      · exact hp.pipeRead count
    exact ⟨hreads.valid, hc.of_reads hreads (.inl hop)⟩
  | tryRead count =>
    have hreads : p.Reads (c.run p procs) := by
      simp only [PipeCall.run, hop]
      exact hp.pipeTryRead count
    exact ⟨hreads.valid, hc.of_reads hreads (.inr hop)⟩
  | write src =>
    have hwrites : p.Writes src c.written (c.run p procs) := by
      simp only [PipeCall.run, hop]
      split_ifs with hentered
      · exact hp.pipeWriteSection (hc.written_le hop)
      · rw [hc.fresh (by simpa using hentered)]
        exact hp.pipeWrite src
    exact ⟨hwrites.valid, hc.of_writes hwrites (.inl hop)⟩
  | tryWrite src =>
    have hpart : c.moved = [] := by simpa only [hop] using hc.part
    have hzero : c.written = 0 := by simp [← hc.counted, hpart]
    have hwrites : p.Writes src c.written (c.run p procs) := by
      simp only [PipeCall.run, hop, hzero]
      exact hp.pipeTryWrite src
    have hanswer : (c.run p procs).answer ≠ none := by
      simp only [PipeCall.run, hop, Pipe.pipeTryWrite]
      split_ifs <;> simp
    exact ⟨hwrites.valid, hc.of_writes hwrites (.inr ⟨hop, hanswer⟩)⟩
  | closeFd =>
    obtain ⟨hbytes, hanswer, hcontents, hvalid⟩ := p.pipeCloseFd_same procs (c.fd % 2 == 0)
    simp only [PipeCall.run, hop]
    refine ⟨hvalid hp, ?_, fun hnone => absurd hnone hanswer, fun n _ => ?_⟩
    · simp [Queues, hbytes, hcontents]
    · simp [Answered, next, hop]
  | close =>
    obtain ⟨hbytes, hanswer, hcontents, hvalid⟩ := p.pipeClose_same procs
    simp only [PipeCall.run, hop]
    refine ⟨hvalid hp, ?_, fun hnone => absurd hnone hanswer, fun n _ => ?_⟩
    · simp [Queues, PipeOp.src, hbytes, hcontents]
    · simp [Answered, next, hop]

end PipeCall

/-! ## The queue of each pipe -/

section

variable {moves : List Move} {e : Move} {slot : PipeRef} {pipe : Nat} {stored : Bool}

lemma stream_append : stream (moves ++ [e]) slot pipe stored = stream moves slot pipe stored ++
      if e.call.slot = slot ∧ e.pipe = pipe ∧ e.call.op.src.isSome = stored then e.bytes else [] := by
  simp [stream]

lemma stream_other (h : e.call.slot ≠ slot) :
    stream (moves ++ [e]) slot pipe stored = stream moves slot pipe stored := by
  rw [stream_append, if_neg fun hand => h hand.1, List.append_nil]

lemma stream_new (h : ∀ e ∈ moves, e.call.slot = slot → e.pipe < pipe) : stream moves slot pipe stored = [] := by
  refine List.flatMap_eq_nil_iff.mpr fun e he => if_neg ?_
  rintro ⟨hslot, hpipe, -⟩
  have := h e he hslot
  omega

end

namespace PipeMachine

variable {m m' : PipeMachine} {slot : PipeRef} {i : Nat} {c : PipeCall}

/-- The pipe in a slot is a queue: what was stored is what was fetched and then what is buffered,
and the ring buffer's positions agree with its count. -/
structure Fifo (m : PipeMachine) (slot : PipeRef) : Prop where
  queue : stream m.moves slot (m.made slot) true =
    stream m.moves slot (m.made slot) false ++ (m.table.pipes slot).contents
  count_le : (m.table.pipes slot).count ≤ pipeBufferSize
  writePos_eq : (m.table.pipes slot).writePos =
    ((m.table.pipes slot).readPos + (m.table.pipes slot).count) % pipeBufferSize

/-- What every step keeps. -/
structure Inv (m : PipeMachine) : Prop where
  valid : ∀ slot, (m.table.pipes slot).Valid
  queue : ∀ slot, stream m.moves slot (m.made slot) true =
    stream m.moves slot (m.made slot) false ++ (m.table.pipes slot).contents
  past : ∀ e ∈ m.moves, e.pipe ≤ m.made e.call.slot
  calls : ∀ i c, m.calls i = some c → c.Ok
  returned : ∀ c, ∀ n : Nat, (c, (n : Int)) ∈ m.returned → c.Answered n

lemma inv_init (procs : ProcTable) : Inv { procs := procs } where
  valid := fun _ => Pipe.valid_of_empty rfl rfl rfl
  queue := fun _ => rfl
  past := nofun
  calls := nofun
  returned := nofun

lemma Inv.begun (h : m.Inv) {fd : Int} {op : PipeOp} : (m.begun i fd slot op).Inv where
  valid := h.valid
  queue := h.queue
  past := h.past
  calls := by
    intro j c hj
    by_cases hij : j = i
    · subst hij
      simp only [PipeMachine.begun, Function.update_self, Option.some.injEq] at hj
      subst hj
      refine ⟨fun _ => rfl, rfl, ?_⟩
      cases op with
      | write src => exact List.nil_prefix
      | _ => rfl
    · simp only [PipeMachine.begun, Function.update_of_ne hij] at hj
      exact h.calls j c hj
  returned := h.returned

/-- A section that stores appends to both sides, one that fetches moves the boundary. -/
lemma Inv.queue_ran (h : m.Inv) (hc : m.calls i = some c) (slot : PipeRef) :
    stream (m.ran i c).moves slot (m.made slot) true =
      stream (m.ran i c).moves slot (m.made slot) false ++ ((m.ran i c).table.pipes slot).contents := by
  obtain ⟨r, hr⟩ : ∃ r, c.run (m.table.pipes c.slot) m.procs = r := ⟨_, rfl⟩
  obtain ⟨-, hqueues, -⟩ := (h.calls i c hc).run (h.valid c.slot) hr
  have hqueue := h.queue slot
  simp only [PipeMachine.ran, hr]
  by_cases hslot : slot = c.slot
  · subst hslot
    rw [stream_append, stream_append, hqueue]
    unfold PipeCall.Queues at hqueues
    cases hsrc : c.op.src.isSome with
    | true =>
      rw [hsrc, if_pos rfl] at hqueues
      simp [hqueues]
    | false =>
      rw [hsrc, if_neg (by decide)] at hqueues
      simp [hqueues]
  · rwa [stream_other fun heq => hslot heq.symm, stream_other fun heq => hslot heq.symm,
      Function.update_of_ne hslot]

lemma Inv.ran (h : m.Inv) (hc : m.calls i = some c) : (m.ran i c).Inv := by
  obtain ⟨r, hr⟩ : ∃ r, c.run (m.table.pipes c.slot) m.procs = r := ⟨_, rfl⟩
  obtain ⟨hvalid, -, hblocked, hanswered⟩ := (h.calls i c hc).run (h.valid c.slot) hr
  refine ⟨fun slot => ?_, h.queue_ran hc, fun e he => ?_, fun j d hj => ?_, fun d n hd => ?_⟩
  · by_cases hslot : slot = c.slot
    · subst hslot
      simpa only [PipeMachine.ran, hr, Function.update_self] using hvalid
    · simpa only [PipeMachine.ran, Function.update_of_ne hslot] using h.valid slot
  · simp only [PipeMachine.ran, List.mem_append, List.mem_singleton] at he
    rcases he with he | rfl
    · exact h.past e he
    · exact le_refl _
  · by_cases hij : j = i
    · subst hij
      simp only [PipeMachine.ran, hr, Function.update_self] at hj
      split_ifs at hj with hnone
      obtain rfl := Option.some.inj hj
      exact hblocked (by simpa using hnone)
    · simp only [PipeMachine.ran, Function.update_of_ne hij] at hj
      exact h.calls j d hj
  · simp only [PipeMachine.ran, hr, List.mem_append, Option.mem_toList, Option.map_eq_some_iff] at hd
    rcases hd with hd | ⟨a, ha, rfl, rfl⟩
    · exact h.returned d n hd
    · exact hanswered n ha

lemma Inv.created (h : m.Inv) : m.created.Inv := by
  unfold PipeMachine.created
  cases halloc : m.table.pipeAlloc with
  | none => exact h
  | some new =>
    have hpipes : m.table.pipeCreate.2.2.pipes =
        Function.update m.table.pipes new (PipeTable.newPipe m.table.nextId) := by
      simp only [PipeTable.pipeCreate, halloc]
    refine ⟨fun slot => ?_, fun slot => ?_, fun e he => ?_, h.calls, h.returned⟩
    · simp only [hpipes]
      by_cases hslot : slot = new
      · subst hslot
        rw [Function.update_self]
        exact Pipe.valid_of_empty rfl rfl rfl
      · rw [Function.update_of_ne hslot]
        exact h.valid slot
    · simp only [hpipes]
      by_cases hslot : slot = new
      · -- no move has gone through the new pipe yet
        subst hslot
        have hnew : ∀ e ∈ m.moves, e.call.slot = slot → e.pipe < m.made slot + 1 := by
          rintro e he rfl
          exact Nat.lt_succ_of_le (h.past e he)
        simp only [Function.update_self, stream_new hnew]
        rfl
      · simp only [Function.update_of_ne hslot]
        exact h.queue slot
    · have hle := h.past e he
      simp only [Function.update_apply]
      split_ifs with hslot
      · rw [hslot] at hle
        exact Nat.le_succ_of_le hle
      · exact hle

lemma Inv.step (h : m.Inv) {e : PipeEvent} (hs : m.Step e m') : m'.Inv := by
  cases e with
  | start i fd op =>
    obtain ⟨-, slot, -, rfl⟩ := hs
    exact h.begun
  | run i =>
    obtain ⟨c, hc, rfl⟩ := hs
    exact h.ran hc
  | create =>
    obtain rfl := hs
    exact h.created
  | procs t =>
    obtain rfl := hs
    exact ⟨h.valid, h.queue, h.past, h.calls, h.returned⟩

/-- **The pipe is a loss-free queue**, in every state that any interleaving of calls reaches; and a
write that returned `n` has stored the first `n` bytes of its buffer. -/
theorem fifo_of_steps {procs : ProcTable} {es : List PipeEvent} (hrun : Steps Step { procs := procs } es m) :
    (∀ slot, m.Fifo slot) ∧ ∀ c src, ∀ n : Nat, c.op.src = some src → (c, (n : Int)) ∈ m.returned →
        c.moved = src.take n ∧ n ≤ src.length := by
  have h : m.Inv := hrun.invariant (fun _ _ _ hs hst => hs.step hst) (inv_init procs)
  refine ⟨fun slot => ⟨h.queue slot, (h.valid slot).count_le, (h.valid slot).writePos_eq⟩, ?_⟩
  intro c src n hsrc hret
  have hanswered := h.returned c n hret
  unfold PipeCall.Answered at hanswered
  cases hop : c.op with
  | write src' | tryWrite src' =>
    simp only [hop, PipeOp.src, Option.some.injEq] at hsrc hanswered
    exact hsrc ▸ hanswered
  | read count | tryRead count | closeFd | close => simp [hop, PipeOp.src] at hsrc

/-- Three bytes are written and two are read. -/
theorem fifo_of_short_run : ∃ m,
    Steps Step { procs := { pmm := ⟨fun _ => 0, 0, 0⟩ } }
      [.create, .start 0 1 (.write [1, 2, 3]), .run 0, .start 1 0 (.read 2), .run 1] m ∧
    (m.table.pipes 0).contents = [3] ∧ m.Fifo 0 := by
  have hrun : Steps Step { procs := { pmm := ⟨fun _ => 0, 0, 0⟩ } }
      [.create, .start 0 1 (.write [1, 2, 3]), .run 0, .start 1 0 (.read 2), .run 1] _ :=
    .cons rfl (.cons ⟨rfl, 0, rfl, rfl⟩ (.cons ⟨_, rfl, rfl⟩ (.cons ⟨rfl, 0, rfl, rfl⟩
      (.cons ⟨_, rfl, rfl⟩ (.nil _)))))
  exact ⟨_, hrun, rfl, (fifo_of_steps hrun).1 0⟩

end PipeMachine

/-! ## Closing -/

namespace PipeCall

variable {c : PipeCall} {p : Pipe} {procs : ProcTable} {r : Section}

/-- A write that has looked at the ends and is in its loop. -/
def Writing (c : PipeCall) : Prop := c.entered = true ∧ ∃ src, c.op = .write src

/-- A read that has looked at the read end and is in its loop. -/
def Reading (c : PipeCall) : Prop := c.entered = true ∧ ∃ count, c.op = .read count

/-- The section closes the last read reference of the pipe. -/
def ClosesReaders (c : PipeCall) (p : Pipe) : Prop :=
  c.op = .close ∨ c.op = .closeFd ∧ c.fd % 2 = 0 ∧ p.readers ≤ 1

lemma not_close_of_src (h : c.op.src.isSome) : c.op ≠ .closeFd ∧ c.op ≠ .close := by
  constructor <;> intro hop <;> simp [hop, PipeOp.src] at h

lemma Writing.src (h : c.Writing) : c.op.src.isSome := by
  obtain ⟨-, src, hop⟩ := h
  simp [hop, PipeOp.src]

/-- A section of a call that does not close: the ends stay, a write that has to wait has seen the
read end open, and a write into a full buffer stores nothing. -/
lemma Ok.run_open (hc : c.Ok) (hp : p.Valid) (hr : c.run p procs = r) (hop : c.op ≠ .closeFd ∧ c.op ≠ .close) :
    (r.pipe.readOpen = p.readOpen ∧ r.pipe.readers = p.readers) ∧
      (c.op.src.isSome → (r.answer = none → p.readOpen = true) ∧
        (p.count = pipeBufferSize → r.bytes = [] ∧ r.pipe.count = pipeBufferSize)) := by
  subst hr
  cases h : c.op with
  | read count =>
    refine ⟨?_, by simp [PipeOp.src]⟩
    simp only [PipeCall.run, h]
    split_ifs
    · exact (hp.pipeReadSection count).ends
    · exact (hp.pipeRead count).ends
  | tryRead count =>
    refine ⟨?_, by simp [PipeOp.src]⟩
    simp only [PipeCall.run, h]
    exact (hp.pipeTryRead count).ends
  | write src =>
    have hwrites : p.Writes src c.written (c.run p procs) := by
      simp only [PipeCall.run, h]
      split_ifs with hentered
      · exact hp.pipeWriteSection (hc.written_le h)
      · rw [hc.fresh (by simpa using hentered)]
        exact hp.pipeWrite src
    exact ⟨hwrites.ends, fun _ => ⟨fun hnone => (hwrites.blocked hnone).2, hwrites.full⟩⟩
  | tryWrite src =>
    have hwrites : p.Writes src 0 (c.run p procs) := by
      simp only [PipeCall.run, h]
      exact hp.pipeTryWrite src
    exact ⟨hwrites.ends, fun _ => ⟨fun hnone => (hwrites.blocked hnone).2, hwrites.full⟩⟩
  | closeFd => exact absurd h hop.1
  | close => exact absurd h hop.2

/-- With the read end closed, a call that is not in the loop of `pipe_read` takes nothing out, and
does not get into that loop. -/
lemma run_closed (hopen : p.readOpen = false) (hnot : ¬ c.Reading) (hread : c.op.src = none)
    (hr : c.run p procs = r) : r.pipe.count = p.count ∧ r.answer ≠ none := by
  subst hr
  cases h : c.op with
  | read count =>
    have hentered : c.entered = false := by
      by_contra hne
      exact hnot ⟨by simpa using hne, count, h⟩
    simp only [PipeCall.run, h, hentered]
    exact ⟨congrArg Pipe.count (Pipe.pipeRead_closed hopen count).1, (Pipe.pipeRead_closed hopen count).2.1⟩
  | tryRead count =>
    simp only [PipeCall.run, h]
    refine ⟨congrArg Pipe.count (Pipe.pipeRead_closed hopen count).2.2, ?_⟩
    unfold Pipe.pipeTryRead Pipe.fetch
    split_ifs <;> simp
  | write src | tryWrite src => simp [h, PipeOp.src] at hread
  | closeFd =>
    have hsame := p.pipeCloseFd_same procs (c.fd % 2 == 0)
    simp only [PipeCall.run, h]
    refine ⟨?_, hsame.2.1⟩
    simpa using congrArg List.length hsame.2.2.1
  | close =>
    simp only [PipeCall.run, h]
    exact ⟨rfl, (p.pipeClose_same procs).2.1⟩

/-- A section that stores something has an open read end, or is the next round of a write that
looked at it earlier. -/
lemma run_stores (hsrc : c.op.src.isSome) (hr : c.run p procs = r) (hbytes : r.bytes ≠ []) :
    p.readOpen = true ∨ c.Writing := by
  subst hr
  by_contra hnot
  rw [not_or, Bool.not_eq_true] at hnot
  apply hbytes
  cases h : c.op with
  | write src =>
    have hentered : c.entered = false := by
      by_contra hne
      exact hnot.2 ⟨by simpa using hne, src, h⟩
    simp only [PipeCall.run, h, hentered]
    exact (Pipe.pipeWrite_closed hnot.1 src).1
  | tryWrite src =>
    simp only [PipeCall.run, h]
    exact (Pipe.pipeWrite_closed hnot.1 src).2
  | read count | tryRead count | closeFd | close => simp [h, PipeOp.src] at hsrc

/-- With the read end closed and the buffer full, the buffer stays full and nobody waits. -/
lemma Ok.run_shut (hc : c.Ok) (hp : p.Valid) (hopen : p.readOpen = false)
    (hfull : p.count = pipeBufferSize) (hnot : ¬ c.Reading) (hr : c.run p procs = r) :
    r.pipe.count = pipeBufferSize ∧ r.answer ≠ none := by
  cases hsrc : c.op.src with
  | none =>
    obtain ⟨hcount, hanswer⟩ := run_closed hopen hnot hsrc hr
    exact ⟨hcount.trans hfull, hanswer⟩
  | some src =>
    have hsome : c.op.src.isSome := by simp [hsrc]
    obtain ⟨hwait, hstore⟩ := (hc.run_open hp hr (not_close_of_src hsome)).2 hsome
    refine ⟨(hstore hfull).2, fun hnone => ?_⟩
    simp [hwait hnone] at hopen

lemma ClosesReaders.run (h : c.ClosesReaders p) (hr : c.run p procs = r) :
    r.pipe.count = p.count ∧ r.answer ≠ none := by
  subst hr
  rcases h with hop | ⟨hop, -⟩
  · simp only [PipeCall.run, hop]
    exact ⟨rfl, (p.pipeClose_same procs).2.1⟩
  · have hsame := p.pipeCloseFd_same procs (c.fd % 2 == 0)
    simp only [PipeCall.run, hop]
    exact ⟨by simpa using congrArg List.length hsame.2.2.1, hsame.2.1⟩

lemma Ok.run_ends (hc : c.Ok) (hp : p.Valid) (hends : p.EndsAgree) (hr : c.run p procs = r) :
    r.pipe.EndsAgree ∧ (¬ c.ClosesReaders p → r.pipe.readOpen = p.readOpen) := by
  by_cases hfd : c.op = .closeFd
  · have hclose := @Pipe.EndsAgree.pipeCloseFd p procs hends (c.fd % 2 == 0)
    simp only [PipeCall.run, hfd] at hr
    subst hr
    refine ⟨hclose.1, fun hnot => hclose.2 fun hlast => ?_⟩
    exact hnot (.inr ⟨hfd, by simpa using hlast.1, hlast.2⟩)
  by_cases hclose : c.op = .close
  · simp only [PipeCall.run, hclose] at hr
    subst hr
    exact ⟨.pipeClose p procs, fun hnot => absurd (.inl hclose) hnot⟩
  · obtain ⟨⟨hopen, hreaders⟩, -⟩ := hc.run_open hp hr ⟨hfd, hclose⟩
    refine ⟨?_, fun _ => hopen⟩
    unfold Pipe.EndsAgree
    rwa [hopen, hreaders]

end PipeCall

namespace PipeMachine

variable {m m' : PipeMachine} {slot : PipeRef} {i : Nat} {c : PipeCall}

/-- No call is in the loop of `pipe_read` on the slot. -/
def NoReading (m : PipeMachine) (slot : PipeRef) : Prop :=
  ∀ j d, m.calls j = some d → d.slot = slot → ¬ d.Reading

/-- Closing is respected: bytes were stored only into a pipe with a read reference, and only by
writes begun on that pipe. -/
def Respected (m : PipeMachine) : Prop :=
  ∀ e ∈ m.moves, e.call.op.src.isSome → e.bytes ≠ [] → 0 < e.readers ∧ e.call.pipe = e.pipe

/-- When the last read reference is closed under a write that is in its loop, the buffer is full and
nobody is in the loop of `pipe_read` who could make room; and a slot is given to a new pipe only
when no write is in progress on it. -/
def Orderly (m : PipeMachine) : PipeEvent → Prop
  | .run i => ∀ c, m.calls i = some c → c.ClosesReaders (m.table.pipes c.slot) →
      (∃ j d, m.calls j = some d ∧ d.slot = c.slot ∧ d.Writing) →
        (m.table.pipes c.slot).count = pipeBufferSize ∧ m.NoReading c.slot
  | .create => ∀ slot, m.table.pipeAlloc = some slot →
      ∀ j d, m.calls j = some d → d.slot = slot → d.op.src = none
  | _ => True

/-- An orderly step. -/
def OrderlyStep (m : PipeMachine) (e : PipeEvent) (m' : PipeMachine) : Prop :=
  m.Step e m' ∧ m.Orderly e

/-- A write in its loop may go on: it will find the read end open, or the buffer full. -/
def Held (m : PipeMachine) (slot : PipeRef) : Prop :=
  (m.table.pipes slot).readOpen = true ∨ (m.table.pipes slot).count = pipeBufferSize ∧ m.NoReading slot

/-- What every orderly step keeps. -/
structure Closing (m : PipeMachine) : Prop where
  inv : m.Inv
  ends : ∀ slot, (m.table.pipes slot).EndsAgree
  own : ∀ i c, m.calls i = some c → c.op.src.isSome → c.pipe = m.made c.slot
  held : ∀ i c, m.calls i = some c → c.Writing → m.Held c.slot
  respected : m.Respected

lemma closing_init (procs : ProcTable) : Closing { procs := procs } where
  inv := inv_init procs
  ends := fun _ => by simp [Pipe.EndsAgree]
  own := nofun
  held := nofun
  respected := nofun

lemma calls_ran {r : Section} (hr : c.run (m.table.pipes c.slot) m.procs = r) {j : Nat} {d : PipeCall}
    (hd : (m.ran i c).calls j = some d) :
    j ≠ i ∧ m.calls j = some d ∨ j = i ∧ r.answer = none ∧ d = c.next r := by
  simp only [PipeMachine.ran, hr] at hd
  by_cases hij : j = i
  · subst hij
    rw [Function.update_self] at hd
    split_ifs at hd with hnone
    exact .inr ⟨rfl, by simpa using hnone, (Option.some.inj hd).symm⟩
  · rw [Function.update_of_ne hij] at hd
    exact .inl ⟨hij, hd⟩

/-- A write in its loop that could go on before a section of another call can go on after it. -/
lemma Closing.held_ran (h : m.Closing) (hc : m.calls i = some c) (ho : m.Orderly (.run i))
    {j : Nat} {d : PipeCall} (hd : (m.ran i c).calls j = some d) (hw : d.Writing) :
    (m.ran i c).Held d.slot := by
  obtain ⟨r, hr⟩ : ∃ r, c.run (m.table.pipes c.slot) m.procs = r := ⟨_, rfl⟩
  have hok := h.inv.calls i c hc
  have hvalid := h.inv.valid c.slot
  have hpipe : ∀ slot, (m.ran i c).table.pipes slot = Function.update m.table.pipes c.slot r.pipe slot := by
    intro slot
    simp only [PipeMachine.ran, hr]
  have hstay : ∀ {slot}, r.answer ≠ none ∨ slot ≠ c.slot → m.NoReading slot → (m.ran i c).NoReading slot := by
    intro slot hor hno k e hk hkslot
    rcases calls_ran hr hk with ⟨-, hold⟩ | ⟨-, hans, rfl⟩
    · exact hno k e hold hkslot
    · exact (hor.elim (fun hret => hret hans) fun hne => hne hkslot.symm).elim
  unfold Held
  rw [hpipe]
  by_cases hslot : d.slot = c.slot
  · rw [hslot, Function.update_self]
    by_cases hclose : c.ClosesReaders (m.table.pipes c.slot)
    · -- the closing section itself: this is what the order of steps provides for
      obtain ⟨hcount, hret⟩ := hclose.run hr
      rcases calls_ran hr hd with ⟨-, hold⟩ | ⟨-, hans, -⟩
      · obtain ⟨hfull, hreading⟩ := ho c hc hclose ⟨j, d, hold, hslot, hw⟩
        exact .inr ⟨hcount.trans hfull, hstay (.inl hret) hreading⟩
      · exact absurd hans hret
    rw [(hok.run_ends hvalid (h.ends c.slot) hr).2 hclose]
    by_cases hopen : (m.table.pipes c.slot).readOpen = true
    · exact .inl hopen
    rcases calls_ran hr hd with ⟨-, hold⟩ | ⟨-, hans, rfl⟩
    · rcases hslot ▸ h.held j d hold hw with hopen' | ⟨hfull, hreading⟩
      · exact absurd hopen' hopen
      · obtain ⟨hcount, hret⟩ := hok.run_shut hvalid (by simpa using hopen) hfull
          (hreading i c hc rfl) hr
        exact .inr ⟨hcount, hstay (.inl hret) hreading⟩
    · -- a write that waits has just seen the read end open
      have hsrc : c.op.src.isSome := hw.src
      have hwrite := (hok.run_open hvalid hr (PipeCall.not_close_of_src hsrc)).2 hsrc
      exact absurd (hwrite.1 hans) hopen
  · rw [Function.update_of_ne hslot]
    rcases calls_ran hr hd with ⟨-, hold⟩ | ⟨-, -, rfl⟩
    · exact (h.held j d hold hw).imp_right fun hfull => ⟨hfull.1, hstay (.inr hslot) hfull.2⟩
    · exact absurd rfl hslot

lemma Closing.ran (h : m.Closing) (hc : m.calls i = some c) (ho : m.Orderly (.run i)) : (m.ran i c).Closing := by
  obtain ⟨r, hr⟩ : ∃ r, c.run (m.table.pipes c.slot) m.procs = r := ⟨_, rfl⟩
  have hok := h.inv.calls i c hc
  have hvalid := h.inv.valid c.slot
  refine ⟨h.inv.ran hc, fun slot => ?_, fun j d hd hsrc => ?_, fun j d hd => h.held_ran hc ho hd,
    fun e he hsrc hbytes => ?_⟩
  · simp only [PipeMachine.ran, hr]
    by_cases hslot : slot = c.slot
    · subst hslot
      rw [Function.update_self]
      exact (hok.run_ends hvalid (h.ends c.slot) hr).1
    · rw [Function.update_of_ne hslot]
      exact h.ends slot
  · rcases calls_ran hr hd with ⟨-, hold⟩ | ⟨-, -, rfl⟩
    · exact h.own j d hold hsrc
    · exact h.own i c hc hsrc
  · simp only [PipeMachine.ran, hr, List.mem_append, List.mem_singleton] at he
    rcases he with he | rfl
    · exact h.respected e he hsrc hbytes
    · refine ⟨?_, h.own i c hc hsrc⟩
      -- an open read end, now or in a state from which the buffer is full
      have hopen : (m.table.pipes c.slot).readOpen = true := by
        rcases PipeCall.run_stores hsrc hr hbytes with hopen | hwriting
        · exact hopen
        rcases h.held i c hc hwriting with hopen | ⟨hfull, -⟩
        · exact hopen
        · have hwrite := (hok.run_open hvalid hr (PipeCall.not_close_of_src hsrc)).2 hsrc
          exact absurd (hwrite.2 hfull).1 hbytes
      exact (h.ends c.slot).mp hopen

lemma Closing.begun (h : m.Closing) {fd : Int} {op : PipeOp} (hfree : m.calls i = none) :
    (m.begun i fd slot op).Closing := by
  have hcalls : ∀ j d, (m.begun i fd slot op).calls j = some d →
      m.calls j = some d ∨ j = i ∧ d = { fd := fd, slot := slot, pipe := m.made slot, op := op } := by
    intro j d hd
    by_cases hij : j = i
    · subst hij
      simp only [PipeMachine.begun, Function.update_self, Option.some.injEq] at hd
      exact .inr ⟨rfl, hd.symm⟩
    · simp only [PipeMachine.begun, Function.update_of_ne hij] at hd
      exact .inl hd
  refine ⟨h.inv.begun, h.ends, fun j d hd hsrc => ?_, fun j d hd hw => ?_, h.respected⟩
  · rcases hcalls j d hd with hold | ⟨-, rfl⟩
    · exact h.own j d hold hsrc
    · rfl
  · rcases hcalls j d hd with hold | ⟨-, rfl⟩
    · refine (h.held j d hold hw).imp_right fun hfull => ⟨hfull.1, fun k e hk hslot => ?_⟩
      rcases hcalls k e hk with hold' | ⟨-, rfl⟩
      · exact hfull.2 k e hold' hslot
      · exact nofun
    · cases hw.1

lemma Closing.created (h : m.Closing) (ho : m.Orderly .create) : m.created.Closing := by
  have hinv := h.inv.created
  unfold PipeMachine.created at hinv ⊢
  cases halloc : m.table.pipeAlloc with
  | none => exact h
  | some new =>
    have hslot : ∀ j d, m.calls j = some d → d.op.src.isSome → d.slot ≠ new := by
      intro j d hd hsrc heq
      simp [ho new halloc j d hd heq] at hsrc
    simp only [halloc] at hinv ⊢
    have hpipes : m.table.pipeCreate.2.2.pipes =
        Function.update m.table.pipes new (PipeTable.newPipe m.table.nextId) := by
      simp only [PipeTable.pipeCreate, halloc]
    refine ⟨hinv, fun slot => ?_, fun j d hd hsrc => ?_, fun j d hd hw => ?_, h.respected⟩
    · simp only [hpipes]
      by_cases hne : slot = new
      · subst hne
        simp [Pipe.EndsAgree, PipeTable.newPipe]
      · rw [Function.update_of_ne hne]
        exact h.ends slot
    · simp only [Function.update_of_ne (hslot j d hd hsrc)]
      exact h.own j d hd hsrc
    · unfold Held
      simp only [hpipes]
      rw [Function.update_of_ne (hslot j d hd hw.src)]
      exact h.held j d hd hw

/-- **Closing is respected** in every run whose steps are orderly. -/
theorem respected_of_steps {procs : ProcTable} {es : List PipeEvent}
    (hrun : Steps OrderlyStep { procs := procs } es m) :
    m.Respected := by
  have h : m.Closing := hrun.invariant (fun m e m' hm hst => ?_) (closing_init procs)
  · exact h.respected
  obtain ⟨hs, ho⟩ := hst
  cases e with
  | start i fd op =>
    obtain ⟨hfree, slot, -, rfl⟩ := hs
    exact hm.begun hfree
  | run i =>
    obtain ⟨c, hc, rfl⟩ := hs
    exact hm.ran hc ho
  | create =>
    obtain rfl := hs
    exact hm.created ho
  | procs t =>
    obtain rfl := hs
    exact ⟨⟨hm.inv.valid, hm.inv.queue, hm.inv.past, hm.inv.calls, hm.inv.returned⟩, hm.ends,
      hm.own, hm.held, hm.respected⟩

/-- A read end is closed, and a write that comes later is refused. -/
theorem respected_of_short_run : ∃ m,
    Steps OrderlyStep { procs := { pmm := ⟨fun _ => 0, 0, 0⟩ } }
      [.create, .start 0 0 .closeFd, .run 0, .start 1 1 (.write [7]), .run 1] m ∧
    m.returned.map (·.2) = [pipeSuccess, pipeErrClosed] ∧ m.Respected := by
  obtain ⟨m, hrun, hret⟩ : ∃ m, Steps OrderlyStep { procs := { pmm := ⟨fun _ => 0, 0, 0⟩ } }
      [.create, .start 0 0 .closeFd, .run 0, .start 1 1 (.write [7]), .run 1] m ∧
      m.returned.map (·.2) = [pipeSuccess, pipeErrClosed] := by
    refine ⟨_, .cons ⟨rfl, fun _ _ => nofun⟩ (.cons ⟨⟨rfl, 0, rfl, rfl⟩, trivial⟩
      (.cons ⟨⟨_, rfl, rfl⟩, ?_⟩ (.cons ⟨⟨rfl, 0, rfl, rfl⟩, trivial⟩
        (.cons ⟨⟨_, rfl, rfl⟩, ?_⟩ (.nil _))))), rfl⟩
    · rintro c - - ⟨j, d, hd, -, hentered, -⟩
      by_cases hj : j = 0
      · subst hj
        obtain rfl := Option.some.inj hd
        cases hentered
      · cases (Function.update_of_ne hj _ _).symm.trans hd
    · rintro c hc hclose
      obtain rfl := Option.some.inj hc
      rcases hclose with hop | ⟨hop, -⟩ <;> cases hop
  exact ⟨m, hrun, hret, respected_of_steps hrun⟩

/-- A write of 4097 bytes waits at the full buffer.  A byte is read, the read end is closed, and
then the write goes on. -/
def drainThenClose : List PipeEvent :=
  [.create, .start 0 1 (.write (List.replicate 4097 7)), .run 0, .start 1 0 (.read 1), .run 1,
    .start 2 0 .closeFd, .run 2, .run 0]

/-- A write of 4097 bytes waits at the full buffer.  The pipe is closed, its slot is given to a new
one, and then the write goes on. -/
def closeThenReuse : List PipeEvent :=
  [.create, .start 0 1 (.write (List.replicate 4097 7)), .run 0, .start 1 0 .close, .run 1, .create, .run 0]

/-- The first run stores into a pipe without a reader, the second one into another pipe. -/
theorem stores_after_close : (∃ m, Steps Step { procs := { pmm := ⟨fun _ => 0, 0, 0⟩ } } drainThenClose m ∧
      ∃ e ∈ m.moves, e.call.op.src.isSome ∧ e.bytes ≠ [] ∧ e.readers = 0) ∧
    ∃ m, Steps Step { procs := { pmm := ⟨fun _ => 0, 0, 0⟩ } } closeThenReuse m ∧
      ∃ e ∈ m.moves, e.call.op.src.isSome ∧ e.bytes ≠ [] ∧ e.call.pipe ≠ e.pipe := by
  have hcheck : ∀ (es : List PipeEvent) (bad : Move → Bool),
      ((es.foldlM exec { procs := { pmm := ⟨fun _ => 0, 0, 0⟩ } }).map fun m => m.moves.any bad) =
        some true →
      ∃ m, Steps Step { procs := { pmm := ⟨fun _ => 0, 0, 0⟩ } } es m ∧ ∃ e ∈ m.moves, bad e := by
    intro es bad h
    obtain ⟨m, hm, hbad⟩ := Option.map_eq_some_iff.mp h
    exact ⟨m, .of_exec step_of_exec hm, List.any_eq_true.mp hbad⟩
  constructor
  · obtain ⟨m, hm, e, he, hbad⟩ := hcheck drainThenClose
      (fun e => e.call.op.src.isSome && !e.bytes.isEmpty && e.readers == 0) (by decide +kernel)
    exact ⟨m, hm, e, he, by simpa [and_assoc] using hbad⟩
  · obtain ⟨m, hm, e, he, hbad⟩ := hcheck closeThenReuse
      (fun e => e.call.op.src.isSome && !e.bytes.isEmpty && e.call.pipe != e.pipe)
      (by decide +kernel)
    exact ⟨m, hm, e, he, by simpa [and_assoc] using hbad⟩

end PipeMachine

end AAAos
