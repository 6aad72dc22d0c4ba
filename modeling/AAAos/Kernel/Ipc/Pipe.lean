import AAAos.Kernel.Proc.Process
import AAAos.Lib.RingBuffer

/-!
# Pipes

`kernel/ipc/pipe.c`.  A pipe is a ring buffer of 4096 bytes with a separate count, two end flags,
and two lists of processes that wait.  All calls work under the pipe's own lock, and a call that
must wait registers its process, drops the lock, and takes it again: it is a sequence of sections
under the lock.  Each definition here is one section: it takes the pipe and the process table as
they are when the lock is taken, and gives them back as they are when the lock is dropped, with the
call's answer, or without one when the call is to take the lock again (`Section`).

The flags word has only the two end bits set, so it is the pair of them.  A waiter array with its
counter is a list of at most eight processes.  The global statistics are left out.
-/

namespace AAAos

/-- `PIPE_BUFFER_SIZE`. -/
def pipeBufferSize : Nat := 4096

/-- `PIPE_MAX_COUNT`. -/
abbrev pipeMaxCount : Nat := 128

/-- The length of the waiter arrays. -/
def maxWaiters : Nat := 8

/-- `PIPE_SUCCESS`. -/
def pipeSuccess : Int := 0

/-- `PIPE_ERR_INVALID`. -/
def pipeErrInvalid : Int := -2

/-- `PIPE_ERR_CLOSED`. -/
def pipeErrClosed : Int := -3

/-- `PIPE_ERR_WOULDBLOCK`. -/
def pipeErrWouldblock : Int := -6

/-- `PIPE_ERR_MAX_PIPES`. -/
def pipeErrMaxPipes : Int := -7

/-- `pipe_t`.  The defaults are the slot as `pipe_init` leaves it. -/
structure Pipe where
  buffer : Nat → UInt8 := fun _ => 0
  readPos : Nat := 0
  writePos : Nat := 0
  count : Nat := 0
  readOpen : Bool := false
  writeOpen : Bool := false
  id : UInt32 := 0
  readers : Nat := 0
  writers : Nat := 0
  readWaiters : List ProcRef := []
  writeWaiters : List ProcRef := []

/-- What a section under the pipe's lock leaves behind.  `answer` is `none` when the call has
blocked and will take the lock again; `bytes` are the bytes copied into or out of the buffer. -/
structure Section where
  pipe : Pipe
  procs : ProcTable
  answer : Option Int
  bytes : List UInt8 := []

namespace Pipe

/-- The slot is in use: the flags word is not zero. -/
def inUse (p : Pipe) : Bool := p.readOpen || p.writeOpen

/-- The buffered bytes, oldest first. -/
def contents (p : Pipe) : List UInt8 := ringContents pipeBufferSize p.buffer p.readPos p.count

/-! ## Waiting and waking -/

/-- `pipe_block_reader`. -/
def pipeBlockReader (p : Pipe) (procs : ProcTable) : Pipe × ProcTable :=
  match procs.processGetCurrent with
  | none => (p, procs)
  | some current =>
    if p.readWaiters.length < maxWaiters then
      ({ p with readWaiters := p.readWaiters ++ [current] }, procs.processSetState current .blocked)
    else (p, procs)

/-- `pipe_block_writer`. -/
def pipeBlockWriter (p : Pipe) (procs : ProcTable) : Pipe × ProcTable :=
  match procs.processGetCurrent with
  | none => (p, procs)
  | some current =>
    if p.writeWaiters.length < maxWaiters then
      ({ p with writeWaiters := p.writeWaiters ++ [current] },
        procs.processSetState current .blocked)
    else (p, procs)

/-- `pipe_wake_reader`. -/
def pipeWakeReader (p : Pipe) (procs : ProcTable) : Pipe × ProcTable :=
  match p.readWaiters with
  | [] => (p, procs)
  | proc :: rest => ({ p with readWaiters := rest }, procs.processSetState proc .ready)

/-- `pipe_wake_writer`. -/
def pipeWakeWriter (p : Pipe) (procs : ProcTable) : Pipe × ProcTable :=
  match p.writeWaiters with
  | [] => (p, procs)
  | proc :: rest => ({ p with writeWaiters := rest }, procs.processSetState proc .ready)

/-- The processes of a waiter list are set ready, in order. -/
def wakeEach (procs : ProcTable) (waiters : List ProcRef) : ProcTable :=
  waiters.foldl (fun t proc => t.processSetState proc .ready) procs

/-- `pipe_wake_all_readers`. -/
def pipeWakeAllReaders (p : Pipe) (procs : ProcTable) : Pipe × ProcTable :=
  ({ p with readWaiters := [] }, wakeEach procs p.readWaiters)

/-- `pipe_wake_all_writers`. -/
def pipeWakeAllWriters (p : Pipe) (procs : ProcTable) : Pipe × ProcTable :=
  ({ p with writeWaiters := [] }, wakeEach procs p.writeWaiters)

/-! ## Reading -/

/-- Copying `count` bytes out, and what follows it. -/
def fetch (p : Pipe) (procs : ProcTable) (count : Nat) : Section :=
  let taken := ringTake pipeBufferSize p.buffer p.readPos (min count p.count)
  let woken := pipeWakeWriter
    { p with readPos := taken.2, count := p.count - min count p.count } procs
  ⟨woken.1, woken.2, some (min count p.count : Nat), taken.1⟩

/-- `pipe_read` from its wait loop on. -/
def pipeReadSection (p : Pipe) (procs : ProcTable) (count : Nat) : Section :=
  if p.count = 0 then
    if !p.writeOpen then ⟨p, procs, some 0, []⟩
    else ⟨(pipeBlockReader p procs).1, (pipeBlockReader p procs).2, none, []⟩
  else fetch p procs count

/-- `pipe_read`, the first section. -/
def pipeRead (p : Pipe) (procs : ProcTable) (count : Nat) : Section :=
  if count = 0 then ⟨p, procs, some 0, []⟩
  else if !p.readOpen then ⟨p, procs, some pipeErrClosed, []⟩
  else pipeReadSection p procs count

/-- `pipe_try_read`. -/
def pipeTryRead (p : Pipe) (procs : ProcTable) (count : Nat) : Section :=
  if count = 0 then ⟨p, procs, some 0, []⟩
  else if !p.readOpen then ⟨p, procs, some pipeErrClosed, []⟩
  else if p.count = 0 then
    if !p.writeOpen then ⟨p, procs, some 0, []⟩ else ⟨p, procs, some pipeErrWouldblock, []⟩
  else fetch p procs count

/-! ## Writing -/

/-- Copying bytes in, and waking a reader. -/
def store (p : Pipe) (procs : ProcTable) (bytes : List UInt8) : Pipe × ProcTable :=
  let put := ringPut pipeBufferSize p.buffer p.writePos bytes
  pipeWakeReader
    { p with buffer := put.1, writePos := put.2, count := p.count + bytes.length } procs

/-- The inner loop of `pipe_write`, at a full buffer. -/
def pipeWriteFull (p : Pipe) (procs : ProcTable) (written : Nat) (bytes : List UInt8) : Section :=
  if !p.readOpen then
    ⟨p, procs, some (if 0 < written then (written : Int) else pipeErrClosed), bytes⟩
  else ⟨(pipeBlockWriter p procs).1, (pipeBlockWriter p procs).2, none, bytes⟩

/-- `pipe_write` from its loop on, with `written` bytes of `src` stored so far.  One round of the
loop stores what fits; if that is not all, the buffer is full now, and the next round begins with
the inner loop. -/
def pipeWriteSection (p : Pipe) (procs : ProcTable) (src : List UInt8) (written : Nat) : Section :=
  if p.count = pipeBufferSize then pipeWriteFull p procs written []
  else
    let chunk := (src.drop written).take (pipeBufferSize - p.count)
    let stored := store p procs chunk
    if written + chunk.length < src.length then
      pipeWriteFull stored.1 stored.2 (written + chunk.length) chunk
    else ⟨stored.1, stored.2, some (written + chunk.length : Nat), chunk⟩

/-- `pipe_write`, the first section. -/
def pipeWrite (p : Pipe) (procs : ProcTable) (src : List UInt8) : Section :=
  if src.length = 0 then ⟨p, procs, some 0, []⟩
  else if !p.writeOpen then ⟨p, procs, some pipeErrClosed, []⟩
  else if !p.readOpen then ⟨p, procs, some pipeErrClosed, []⟩
  else pipeWriteSection p procs src 0

/-- `pipe_try_write`. -/
def pipeTryWrite (p : Pipe) (procs : ProcTable) (src : List UInt8) : Section :=
  if src.length = 0 then ⟨p, procs, some 0, []⟩
  else if !p.writeOpen then ⟨p, procs, some pipeErrClosed, []⟩
  else if !p.readOpen then ⟨p, procs, some pipeErrClosed, []⟩
  else if p.count = pipeBufferSize then ⟨p, procs, some pipeErrWouldblock, []⟩
  else
    let chunk := src.take (pipeBufferSize - p.count)
    let stored := store p procs chunk
    ⟨stored.1, stored.2, some chunk.length, chunk⟩

/-! ## Closing -/

/-- `pipe_close`. -/
def pipeClose (p : Pipe) (procs : ProcTable) : Section :=
  let readers := pipeWakeAllReaders p procs
  let both := pipeWakeAllWriters readers.1 readers.2
  ⟨{ both.1 with readOpen := false, writeOpen := false, readers := 0, writers := 0 }, both.2,
    some pipeSuccess, []⟩

/-- If both ends are closed, free the pipe. -/
def freeIfClosed (p : Pipe) : Pipe :=
  if !p.readOpen && !p.writeOpen then { p with id := 0 } else p

/-- `pipe_close_fd` on the pipe it found; `isRead` is `FD_IS_READ_END(fd)`. -/
def pipeCloseFd (p : Pipe) (procs : ProcTable) (isRead : Bool) : Section :=
  let closed :=
    if isRead then
      let p₁ := { p with readers := p.readers - 1 }
      if p₁.readers = 0 then pipeWakeAllWriters { p₁ with readOpen := false } procs else (p₁, procs)
    else
      let p₁ := { p with writers := p.writers - 1 }
      if p₁.writers = 0 then pipeWakeAllReaders { p₁ with writeOpen := false } procs else (p₁, procs)
  ⟨freeIfClosed closed.1, closed.2, some pipeSuccess, []⟩

/-! ## What the sections do to the buffer -/

/-- The positions and the count agree. -/
structure Valid (p : Pipe) : Prop where
  readPos_lt : p.readPos < pipeBufferSize
  count_le : p.count ≤ pipeBufferSize
  writePos_eq : p.writePos = (p.readPos + p.count) % pipeBufferSize

lemma valid_of_empty {p : Pipe} (hr : p.readPos = 0) (hw : p.writePos = 0) (hc : p.count = 0) : p.Valid := by
  refine ⟨?_, ?_, ?_⟩
  · rw [hr]
    decide
  · rw [hc]
    decide
  · rw [hr, hw, hc]
    rfl

/-- The two pipes differ in their waiters only. -/
def SameButWaiters (p q : Pipe) : Prop :=
  ∃ rs ws, q = { p with readWaiters := rs, writeWaiters := ws }

variable {p q : Pipe} {procs : ProcTable}

lemma SameButWaiters.valid (h : SameButWaiters p q) (hp : p.Valid) : q.Valid := by
  obtain ⟨rs, ws, rfl⟩ := h
  exact ⟨hp.readPos_lt, hp.count_le, hp.writePos_eq⟩

lemma SameButWaiters.contents (h : SameButWaiters p q) : q.contents = p.contents := by
  obtain ⟨rs, ws, rfl⟩ := h
  rfl

lemma SameButWaiters.count (h : SameButWaiters p q) : q.count = p.count := by
  obtain ⟨rs, ws, rfl⟩ := h
  rfl

lemma SameButWaiters.readOpen (h : SameButWaiters p q) : q.readOpen = p.readOpen := by
  obtain ⟨rs, ws, rfl⟩ := h
  rfl

lemma SameButWaiters.readers (h : SameButWaiters p q) : q.readers = p.readers := by
  obtain ⟨rs, ws, rfl⟩ := h
  rfl

lemma pipeBlockReader_same : SameButWaiters p (pipeBlockReader p procs).1 := by
  unfold pipeBlockReader
  split
  · exact ⟨_, _, rfl⟩
  · split_ifs <;> exact ⟨_, _, rfl⟩

lemma pipeBlockWriter_same : SameButWaiters p (pipeBlockWriter p procs).1 := by
  unfold pipeBlockWriter
  split
  · exact ⟨_, _, rfl⟩
  · split_ifs <;> exact ⟨_, _, rfl⟩

lemma pipeWakeReader_same : SameButWaiters p (pipeWakeReader p procs).1 := by
  unfold pipeWakeReader
  split <;> exact ⟨_, _, rfl⟩

lemma pipeWakeWriter_same : SameButWaiters p (pipeWakeWriter p procs).1 := by
  unfold pipeWakeWriter
  split <;> exact ⟨_, _, rfl⟩

/-- What `fetch` does: the bytes come from the front of the queue. -/
lemma Valid.fetch (hp : p.Valid) (count : Nat) : (p.fetch procs count).pipe.Valid ∧
      p.contents = (p.fetch procs count).bytes ++ (p.fetch procs count).pipe.contents ∧
      (p.fetch procs count).answer = some ((p.fetch procs count).bytes.length : Int) := by
  have hm : min count p.count ≤ p.count := min_le_right _ _
  have htake := @ringTake_eq _ pipeBufferSize p.buffer p.readPos (min count p.count) hp.readPos_lt
  have hsplit := @ringContents_ringTake _ pipeBufferSize p.buffer p.readPos p.count _ hp.readPos_lt hm
  rw [htake] at hsplit
  simp only [Pipe.fetch, htake]
  refine ⟨pipeWakeWriter_same.valid ⟨?_, ?_, ?_⟩, ?_, by simp⟩
  · exact Nat.mod_lt _ (by decide)
  · exact (Nat.sub_le _ _).trans hp.count_le
  · rw [hp.writePos_eq]
    simp only [Nat.mod_add_mod]
    congr 1
    omega
  · rw [pipeWakeWriter_same.contents]
    exact hsplit

/-- What `store` does: the bytes go to the end of the queue. -/
lemma Valid.store (hp : p.Valid) {bytes : List UInt8} (hfit : p.count + bytes.length ≤ pipeBufferSize) :
    (p.store procs bytes).1.Valid ∧ (p.store procs bytes).1.contents = p.contents ++ bytes ∧
      (p.store procs bytes).1.count = p.count + bytes.length := by
  obtain ⟨hqueue, hpos⟩ := @ringContents_ringPut _ pipeBufferSize p.buffer p.readPos p.writePos
    p.count bytes hp.writePos_eq hfit
  exact ⟨pipeWakeReader_same.valid ⟨hp.readPos_lt, hfit, hpos⟩,
    pipeWakeReader_same.contents.trans hqueue, pipeWakeReader_same.count⟩

lemma store_readOpen {bytes : List UInt8} :
    (p.store procs bytes).1.readOpen = p.readOpen ∧ (p.store procs bytes).1.readers = p.readers :=
  ⟨pipeWakeReader_same.readOpen, pipeWakeReader_same.readers⟩

@[simp] lemma length_contents (p : Pipe) : p.contents.length = p.count :=
  length_ringContents p.buffer p.readPos p.count

/-- What a section of a read does to its pipe. -/
structure Reads (p : Pipe) (r : Section) : Prop where
  valid : r.pipe.Valid
  contents : p.contents = r.bytes ++ r.pipe.contents
  blocked : r.answer = none → r.bytes = []
  answer : ∀ n : Nat, r.answer = some (n : Int) → r.bytes.length = n
  ends : r.pipe.readOpen = p.readOpen ∧ r.pipe.readers = p.readers

/-- What a section of a write of `src` does to its pipe, with `written` bytes stored before. -/
structure Writes (p : Pipe) (src : List UInt8) (written : Nat) (r : Section) : Prop where
  valid : r.pipe.Valid
  contents : r.pipe.contents = p.contents ++ r.bytes
  chunk : r.bytes <+: src.drop written
  answer : ∀ n : Nat, r.answer = some (n : Int) → written + r.bytes.length = n
  blocked : r.answer = none → r.pipe.count = pipeBufferSize ∧ p.readOpen = true
  ends : r.pipe.readOpen = p.readOpen ∧ r.pipe.readers = p.readers

lemma Valid.reads_nothing (hp : p.Valid) {a : Int} (ha : ∀ n : Nat, a = n → n = 0) :
    Reads p ⟨p, procs, some a, []⟩ where
  valid := hp
  contents := rfl
  blocked := fun _ => rfl
  answer := by
    intro n hn
    exact (ha n (Option.some.inj hn)).symm
  ends := ⟨rfl, rfl⟩

lemma Valid.reads_fetch (hp : p.Valid) (count : Nat) : Reads p (p.fetch procs count) := by
  obtain ⟨hvalid, hcontents, hanswer⟩ := @Valid.fetch p procs hp count
  refine ⟨hvalid, hcontents, ?_, ?_, pipeWakeWriter_same.readOpen, pipeWakeWriter_same.readers⟩
  · intro hnone
    rw [hanswer] at hnone
    cases hnone
  · intro n hn
    rw [hanswer] at hn
    exact_mod_cast Option.some.inj hn

lemma Valid.pipeReadSection (hp : p.Valid) (count : Nat) : Reads p (p.pipeReadSection procs count) := by
  unfold Pipe.pipeReadSection
  split_ifs
  · exact hp.reads_nothing (by omega)
  · exact ⟨pipeBlockReader_same.valid hp, pipeBlockReader_same.contents.symm, fun _ => rfl,
      by simp, pipeBlockReader_same.readOpen, pipeBlockReader_same.readers⟩
  · exact hp.reads_fetch count

lemma Valid.pipeRead (hp : p.Valid) (count : Nat) : Reads p (p.pipeRead procs count) := by
  unfold Pipe.pipeRead
  split_ifs
  · exact hp.reads_nothing (by omega)
  · exact hp.reads_nothing (by unfold pipeErrClosed; omega)
  · exact hp.pipeReadSection count

lemma Valid.pipeTryRead (hp : p.Valid) (count : Nat) : Reads p (p.pipeTryRead procs count) := by
  unfold Pipe.pipeTryRead
  split_ifs
  · exact hp.reads_nothing (by omega)
  · exact hp.reads_nothing (by unfold pipeErrClosed; omega)
  · exact hp.reads_nothing (by omega)
  · exact hp.reads_nothing (by unfold pipeErrWouldblock; omega)
  · exact hp.reads_fetch count

/-- A new read of a pipe whose read end is closed leaves it alone and does not wait. -/
lemma pipeRead_closed (h : p.readOpen = false) (count : Nat) :
    (p.pipeRead procs count).pipe = p ∧ (p.pipeRead procs count).answer ≠ none ∧
      (p.pipeTryRead procs count).pipe = p := by
  refine ⟨?_, ?_, ?_⟩
  · unfold pipeRead
    split_ifs <;> simp_all
  · unfold pipeRead
    split_ifs <;> simp_all
  · unfold pipeTryRead
    split_ifs <;> simp_all

lemma Valid.writes_nothing (hp : p.Valid) (src : List UInt8) {a : Int} (ha : ∀ n : Nat, a = n → n = 0) :
    Writes p src 0 ⟨p, procs, some a, []⟩ where
  valid := hp
  contents := (List.append_nil _).symm
  chunk := List.nil_prefix
  answer := by
    intro n hn
    exact (ha n (Option.some.inj hn)).symm
  blocked := nofun
  ends := ⟨rfl, rfl⟩

/-- The inner loop of `pipe_write`, after `bytes` of this section. -/
lemma Valid.pipeWriteFull (hp : p.Valid) (hfull : p.count = pipeBufferSize) {written : Nat} {bytes : List UInt8} :
    (p.pipeWriteFull procs written bytes).pipe.Valid ∧ SameButWaiters p (p.pipeWriteFull procs written bytes).pipe ∧
      (p.pipeWriteFull procs written bytes).bytes = bytes ∧
      (∀ n : Nat, (p.pipeWriteFull procs written bytes).answer = some (n : Int) → written = n) ∧
      ((p.pipeWriteFull procs written bytes).answer = none →
        (p.pipeWriteFull procs written bytes).pipe.count = pipeBufferSize ∧ p.readOpen = true) := by
  unfold Pipe.pipeWriteFull
  split_ifs with hopen hpos
  · refine ⟨hp, ⟨_, _, rfl⟩, rfl, ?_, nofun⟩
    intro n hn
    exact_mod_cast Option.some.inj hn
  · refine ⟨hp, ⟨_, _, rfl⟩, rfl, ?_, nofun⟩
    intro n hn
    have := Option.some.inj hn
    unfold pipeErrClosed at this
    omega
  · refine ⟨pipeBlockWriter_same.valid hp, pipeBlockWriter_same, rfl, nofun, fun _ => ?_⟩
    exact ⟨pipeBlockWriter_same.count.trans hfull, by simpa using hopen⟩

lemma Valid.pipeWriteSection (hp : p.Valid) {src : List UInt8} {written : Nat}
    (hw : written ≤ src.length) : Writes p src written (p.pipeWriteSection procs src written) := by
  unfold Pipe.pipeWriteSection
  by_cases hfull : p.count = pipeBufferSize
  · rw [if_pos hfull]
    obtain ⟨hvalid, hsame, hbytes, hanswer, hblocked⟩ :=
      @Valid.pipeWriteFull p procs hp hfull written []
    refine ⟨hvalid, ?_, ?_, ?_, hblocked, hsame.readOpen, hsame.readers⟩
    · rw [hsame.contents, hbytes, List.append_nil]
    · rw [hbytes]
      exact List.nil_prefix
    · rw [hbytes]
      exact hanswer
  rw [if_neg hfull]
  have hle := hp.count_le
  obtain ⟨chunk, hchunk⟩ : ∃ chunk, (src.drop written).take (pipeBufferSize - p.count) = chunk :=
    ⟨_, rfl⟩
  have hprefix : chunk <+: src.drop written := hchunk ▸ List.take_prefix _ _
  have hlen : chunk.length = min (pipeBufferSize - p.count) (src.length - written) := by
    simp [← hchunk]
  obtain ⟨hvalid, hcontents, hcount⟩ := @Valid.store p procs hp chunk (by omega)
  simp only [hchunk]
  split_ifs with hmore
  · -- something is left, so this chunk filled the buffer
    have hfull' : (p.store procs chunk).1.count = pipeBufferSize := by
      rw [hcount]
      omega
    obtain ⟨hvalid', hsame, hbytes, hanswer, hblocked⟩ :=
      @Valid.pipeWriteFull _ (p.store procs chunk).2 hvalid hfull' (written + chunk.length) chunk
    refine ⟨hvalid', ?_, ?_, ?_, ?_, ?_⟩
    · rw [hsame.contents, hbytes, hcontents]
    · rw [hbytes]
      exact hprefix
    · rw [hbytes]
      exact hanswer
    · rw [store_readOpen.1] at hblocked
      exact hblocked
    · exact ⟨hsame.readOpen.trans store_readOpen.1, hsame.readers.trans store_readOpen.2⟩
  · refine ⟨hvalid, hcontents, hprefix, ?_, nofun, store_readOpen⟩
    intro n hn
    exact_mod_cast Option.some.inj hn

lemma Valid.pipeWrite (hp : p.Valid) (src : List UInt8) : Writes p src 0 (p.pipeWrite procs src) := by
  unfold Pipe.pipeWrite
  split_ifs
  · exact hp.writes_nothing src (by omega)
  · exact hp.writes_nothing src (by unfold pipeErrClosed; omega)
  · exact hp.writes_nothing src (by unfold pipeErrClosed; omega)
  · exact hp.pipeWriteSection (Nat.zero_le _)

lemma Valid.pipeTryWrite (hp : p.Valid) (src : List UInt8) : Writes p src 0 (p.pipeTryWrite procs src) := by
  unfold Pipe.pipeTryWrite
  split_ifs
  · exact hp.writes_nothing src (by omega)
  · exact hp.writes_nothing src (by unfold pipeErrClosed; omega)
  · exact hp.writes_nothing src (by unfold pipeErrClosed; omega)
  · exact hp.writes_nothing src (by unfold pipeErrWouldblock; omega)
  · have hle := hp.count_le
    obtain ⟨hvalid, hcontents, -⟩ :=
      @Valid.store p procs hp (src.take (pipeBufferSize - p.count)) (by simp; omega)
    refine ⟨hvalid, hcontents, List.take_prefix _ _, ?_, nofun, store_readOpen⟩
    intro n hn
    rw [Nat.zero_add]
    exact_mod_cast Option.some.inj hn

lemma pipeWrite_closed (h : p.readOpen = false) (src : List UInt8) :
    (p.pipeWrite procs src).bytes = [] ∧ (p.pipeTryWrite procs src).bytes = [] := by
  refine ⟨?_, ?_⟩
  · unfold pipeWrite
    split_ifs <;> simp_all
  · unfold pipeTryWrite
    split_ifs <;> simp_all

lemma Writes.full {src : List UInt8} {written : Nat} {r : Section} (h : Writes p src written r)
    (hfull : p.count = pipeBufferSize) : r.bytes = [] ∧ r.pipe.count = pipeBufferSize := by
  have hlen := congrArg List.length h.contents
  rw [List.length_append, length_contents, length_contents, hfull] at hlen
  have hle := h.valid.count_le
  exact ⟨List.length_eq_zero_iff.mp (by omega), by omega⟩

lemma pipeClose_same (p : Pipe) (procs : ProcTable) :
    (p.pipeClose procs).bytes = [] ∧ (p.pipeClose procs).answer ≠ none ∧
      (p.pipeClose procs).pipe.contents = p.contents ∧
      (p.Valid → (p.pipeClose procs).pipe.Valid) :=
  ⟨rfl, nofun, rfl, fun hp => ⟨hp.readPos_lt, hp.count_le, hp.writePos_eq⟩⟩

lemma pipeCloseFd_same (p : Pipe) (procs : ProcTable) (isRead : Bool) :
    (p.pipeCloseFd procs isRead).bytes = [] ∧ (p.pipeCloseFd procs isRead).answer ≠ none ∧
      (p.pipeCloseFd procs isRead).pipe.contents = p.contents ∧
      (p.Valid → (p.pipeCloseFd procs isRead).pipe.Valid) := by
  refine ⟨rfl, nofun, ?_, fun hp => ?_⟩
  · unfold pipeCloseFd freeIfClosed pipeWakeAllReaders pipeWakeAllWriters
    dsimp only
    split_ifs <;> rfl
  · unfold pipeCloseFd freeIfClosed pipeWakeAllReaders pipeWakeAllWriters
    dsimp only
    split_ifs <;> exact ⟨hp.readPos_lt, hp.count_le, hp.writePos_eq⟩

/-- The read end is open exactly while there is a read reference. -/
def EndsAgree (p : Pipe) : Prop := p.readOpen = true ↔ 0 < p.readers

lemma EndsAgree.pipeClose (p : Pipe) (procs : ProcTable) : EndsAgree (p.pipeClose procs).pipe := by
  simp [EndsAgree, Pipe.pipeClose]

/-- `pipe_close_fd` closes the read end with the last read reference. -/
lemma EndsAgree.pipeCloseFd (h : p.EndsAgree) (isRead : Bool) : EndsAgree (p.pipeCloseFd procs isRead).pipe ∧
      (¬ (isRead = true ∧ p.readers ≤ 1) → (p.pipeCloseFd procs isRead).pipe.readOpen = p.readOpen) := by
  have hfree : ∀ q : Pipe, (freeIfClosed q).readOpen = q.readOpen ∧ (freeIfClosed q).readers = q.readers := by
    intro q
    unfold freeIfClosed
    split_ifs <;> exact ⟨rfl, rfl⟩
  unfold EndsAgree at h ⊢
  unfold Pipe.pipeCloseFd
  simp only [(hfree _).1, (hfree _).2]
  cases isRead with
  | true =>
    rw [if_pos rfl]
    by_cases hlast : p.readers - 1 = 0
    · rw [if_pos hlast]
      refine ⟨by simp [pipeWakeAllWriters, hlast], fun hnot => ?_⟩
      exact absurd ⟨rfl, by omega⟩ hnot
    · rw [if_neg hlast]
      refine ⟨?_, fun _ => rfl⟩
      dsimp only
      rw [h]
      omega
  | false =>
    rw [if_neg (by decide)]
    split_ifs
    · exact ⟨h, fun _ => rfl⟩
    · exact ⟨h, fun _ => rfl⟩

end Pipe

/-! ## The table of pipes -/

/-- A `pipe_t *` that is not null: a slot of `pipe_table`. -/
abbrev PipeRef := Fin pipeMaxCount

/-- The static state of `pipe.c`.  The defaults are as `pipe_init` leaves it. -/
structure PipeTable where
  pipes : PipeRef → Pipe := fun _ => {}
  nextId : UInt32 := 1

namespace PipeTable

/-- `pipe_alloc`. -/
def pipeAlloc (t : PipeTable) : Option PipeRef :=
  (List.finRange pipeMaxCount).find? fun i => !(t.pipes i).inUse

/-- What `pipe_create` puts in a slot. -/
def newPipe (id : UInt32) : Pipe :=
  { id := id, readOpen := true, writeOpen := true, readers := 1, writers := 1 }

/-- `pipe_create`: the answer, the two descriptors, and the table. -/
def pipeCreate (t : PipeTable) : Int × Option (Nat × Nat) × PipeTable :=
  match t.pipeAlloc with
  | none => (pipeErrMaxPipes, none, t)
  | some i =>
    (pipeSuccess, some (2 * i, 2 * i + 1),
      { pipes := Function.update t.pipes i (newPipe t.nextId), nextId := t.nextId + 1 })

/-- `pipe_get`. -/
def pipeGet (t : PipeTable) (fd : Int) : Option PipeRef :=
  if fd < 0 then none
  else if h : fd.toNat / 2 < pipeMaxCount then
    if (t.pipes ⟨fd.toNat / 2, h⟩).inUse then some ⟨fd.toNat / 2, h⟩ else none
  else none

end PipeTable

end AAAos
