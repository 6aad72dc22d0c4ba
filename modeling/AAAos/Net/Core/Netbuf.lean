import AAAos.Lib.Trace
import Mathlib.Data.UInt
import Mathlib.Data.List.Basic

/-!
# Network buffers

`net/core/netbuf.c`: a block of memory with a window of data in it, and the calls that move the two ends of the window.

A pointer into the block is its distance from `buffer_start`, a `size_t` that wraps around, and the memory is what
stands at each distance.  What the page allocator answers, and what is in the pages it gives, are parameters.  Calls
with a null buffer, and the freeing of buffers, are left out.

**What goes wrong.**  `netbuf_reset` takes the default headroom where the one it is asked for is too large, and does not
look whether the buffer has as much: the data of a small buffer then starts behind its end (`reset_escapes`).

**What is proved.**  In every run in which each reset asks for less than the capacity, or the capacity reaches the
default, the window stays in the block, so that headroom and tailroom are what they say; a call that fails changes
nothing, pushing and pulling and putting and trimming undo each other, and a clone has the same bytes and the same
metadata (`netbufs_behave_of_steps`).  A reset keeps the window in the block exactly then.
-/

namespace AAAos

/-! ## The buffers -/

def netbufDefaultHeadroom : UInt64 := 64
def netbufMaxSize : UInt64 := 65536

/-- What the layers note in a buffer. -/
structure NetbufMeta where
  protocol : UInt16 := 0
  flags : UInt32 := 0
  srcMac : List UInt8 := List.replicate 6 0
  dstMac : List UInt8 := List.replicate 6 0
  srcIp : UInt32 := 0
  dstIp : UInt32 := 0
deriving DecidableEq

/-- `netbuf_t`. -/
structure Netbuf where
  mem : Nat → UInt8
  data : UInt64
  len : UInt64
  capacity : UInt64
  info : NetbufMeta

namespace Netbuf

/-- The data. -/
def bytes (b : Netbuf) : List UInt8 := (List.range b.len.toNat).map fun i => b.mem (b.data.toNat + i)

/-- `netbuf_headroom`. -/
def headroom (b : Netbuf) : UInt64 := b.data

/-- `netbuf_tailroom`. -/
def tailroom (b : Netbuf) : UInt64 := b.capacity - b.headroom - b.len

/-- `memcpy` into the block. -/
def write (b : Netbuf) (pos n : Nat) (source : Nat → UInt8) : Netbuf :=
  { b with mem := fun i => if pos ≤ i ∧ i < pos + n then source (i - pos) else b.mem i }

end Netbuf

/-- What the page allocator answers: whether the two blocks are there, and what is in the second. -/
structure NetbufPages where
  forStruct : Bool
  forData : Bool
  content : Nat → UInt8

/-- `netbuf_alloc`. -/
def netbufAlloc (size headroom : UInt64) (pages : NetbufPages) : Option Netbuf :=
  if size = 0 ∨ netbufMaxSize < size then none
  else if size ≤ headroom then none
  else if pages.forStruct && pages.forData then
    some { mem := pages.content, data := headroom, len := 0, capacity := size, info := {} }
  else none

namespace Netbuf

/-- `netbuf_push`: the new start of the data, or NULL. -/
def netbufPush (b : Netbuf) (len : UInt64) : Option UInt64 × Netbuf :=
  if b.headroom < len then (none, b)
  else (some (b.data - len), { b with data := b.data - len, len := b.len + len })

/-- `netbuf_pull`: the new start of the data, or NULL. -/
def netbufPull (b : Netbuf) (len : UInt64) : Option UInt64 × Netbuf :=
  if b.len < len then (none, b)
  else (some (b.data + len), { b with data := b.data + len, len := b.len - len })

/-- `netbuf_put`: the old end of the data, or NULL. -/
def netbufPut (b : Netbuf) (len : UInt64) : Option UInt64 × Netbuf :=
  if b.tailroom < len then (none, b)
  else (some (b.data + b.len), { b with len := b.len + len })

/-- `netbuf_trim`. -/
def netbufTrim (b : Netbuf) (len : UInt64) : Int × Netbuf :=
  if b.len < len then (-1, b) else (0, { b with len := b.len - len })

/-- `netbuf_clone`. -/
def netbufClone (b : Netbuf) (pages : NetbufPages) : Option Netbuf :=
  (netbufAlloc b.capacity b.headroom pages).map fun clone =>
    { clone.write clone.data.toNat b.len.toNat (fun i => b.mem (b.data.toNat + i)) with
      len := b.len
      info := b.info }

/-- `netbuf_reset`. -/
def netbufReset (b : Netbuf) (headroom : UInt64) : Netbuf :=
  { b with
    data := if b.capacity ≤ headroom then netbufDefaultHeadroom else headroom
    len := 0
    info := {} }

/-- `netbuf_copy_in`, of `len` bytes or from NULL. -/
def netbufCopyIn (b : Netbuf) (source : Option (Nat → UInt8)) (len : UInt64) : Int × Netbuf :=
  match source with
  | none => (-1, b)
  | some source =>
    if b.tailroom < len then (-1, b)
    else (0, { b.write (b.data + b.len).toNat len.toNat source with len := b.len + len })

end Netbuf

/-! ## Calls -/

/-- The calls on a buffer. -/
inductive NetbufOp
  | push (len : UInt64)
  | pull (len : UInt64)
  | put (len : UInt64)
  | trim (len : UInt64)
  | copyIn (source : Option (Nat → UInt8)) (len : UInt64)
  | reset (headroom : UInt64)
  | clone (pages : NetbufPages)

namespace Netbuf

/-- The buffer after a call. -/
def after (b : Netbuf) : NetbufOp → Netbuf
  | .push len => (b.netbufPush len).2
  | .pull len => (b.netbufPull len).2
  | .put len => (b.netbufPut len).2
  | .trim len => (b.netbufTrim len).2
  | .copyIn source len => (b.netbufCopyIn source len).2
  | .reset headroom => b.netbufReset headroom
  | .clone _ => b

/-- Whether a call reports failure. -/
def fails (b : Netbuf) : NetbufOp → Bool
  | .push len => (b.netbufPush len).1.isNone
  | .pull len => (b.netbufPull len).1.isNone
  | .put len => (b.netbufPut len).1.isNone
  | .trim len => (b.netbufTrim len).1 < 0
  | .copyIn source len => (b.netbufCopyIn source len).1 < 0
  | .reset _ => false
  | .clone pages => (b.netbufClone pages).isNone

/-- The buffer a call makes. -/
def made (b : Netbuf) : NetbufOp → Option Netbuf
  | .clone pages => b.netbufClone pages
  | _ => none

end Netbuf

/-- The calls of the network stack: a buffer is made, or a call on the `i`-th that was made. -/
inductive NetbufCall
  | alloc (size headroom : UInt64) (pages : NetbufPages)
  | op (i : Nat) (op : NetbufOp)

/-- The buffers after a call. -/
def netbufExec (pool : List Netbuf) : NetbufCall → Option (List Netbuf)
  | .alloc size headroom pages => some (pool ++ (netbufAlloc size headroom pages).toList)
  | .op i op => pool[i]?.map fun b => pool.set i (b.after op) ++ (b.made op).toList

/-! ## The window -/

namespace Netbuf

variable {b : Netbuf} {len : UInt64}

/-- The data lies in the block. -/
def InBounds (b : Netbuf) : Prop := b.data.toNat + b.len.toNat ≤ b.capacity.toNat

instance (b : Netbuf) : Decidable b.InBounds := inferInstanceAs (Decidable (_ ≤ _))

/-- A reset for which the block is large enough. -/
def ResetFits (b : Netbuf) (headroom : UInt64) : Prop :=
  headroom < b.capacity ∨ netbufDefaultHeadroom ≤ b.capacity

lemma toNat_add_of_le {x y c : UInt64} (h : x.toNat + y.toNat ≤ c.toNat) : (x + y).toNat = x.toNat + y.toNat := by
  have hc := c.toNat_lt
  rw [UInt64.toNat_add, Nat.mod_eq_of_lt (by omega)]

lemma InBounds.toNat_tailroom (h : b.InBounds) :
    b.headroom.toNat + b.len.toNat + b.tailroom.toNat = b.capacity.toNat := by
  unfold InBounds at h
  have hfirst : (b.capacity - b.data).toNat = b.capacity.toNat - b.data.toNat :=
    UInt64.toNat_sub_of_le _ _ (UInt64.le_iff_toNat_le.mpr (by omega))
  have hsecond : (b.capacity - b.data - b.len).toNat = b.capacity.toNat - b.data.toNat - b.len.toNat := by
    rw [UInt64.toNat_sub_of_le _ _ (UInt64.le_iff_toNat_le.mpr (by omega)), hfirst]
  rw [tailroom, headroom, hsecond]
  omega

lemma inBounds_push (h : b.InBounds) (len : UInt64) : (b.netbufPush len).2.InBounds := by
  unfold netbufPush
  split_ifs with hlen
  · exact h
  · have hle : len.toNat ≤ b.data.toNat := UInt64.le_iff_toNat_le.mp (UInt64.not_lt.mp hlen)
    unfold InBounds at h ⊢
    have hdata : (b.data - len).toNat = b.data.toNat - len.toNat :=
      UInt64.toNat_sub_of_le _ _ (UInt64.le_iff_toNat_le.mpr hle)
    have hsum : (b.len + len).toNat = b.len.toNat + len.toNat := toNat_add_of_le (c := b.capacity) (by omega)
    dsimp only
    omega

lemma inBounds_pull (h : b.InBounds) (len : UInt64) : (b.netbufPull len).2.InBounds := by
  unfold netbufPull
  split_ifs with hlen
  · exact h
  · have hle : len.toNat ≤ b.len.toNat := UInt64.le_iff_toNat_le.mp (UInt64.not_lt.mp hlen)
    unfold InBounds at h ⊢
    have hdata : (b.data + len).toNat = b.data.toNat + len.toNat := toNat_add_of_le (c := b.capacity) (by omega)
    have hsub : (b.len - len).toNat = b.len.toNat - len.toNat :=
      UInt64.toNat_sub_of_le _ _ (UInt64.le_iff_toNat_le.mpr hle)
    dsimp only
    omega

lemma inBounds_grow (h : b.InBounds) (hlen : ¬ b.tailroom < len) : (b.len + len).toNat = b.len.toNat + len.toNat ∧
      b.data.toNat + (b.len.toNat + len.toNat) ≤ b.capacity.toNat := by
  have hroom := h.toNat_tailroom
  have hle : len.toNat ≤ b.tailroom.toNat := UInt64.le_iff_toNat_le.mp (UInt64.not_lt.mp hlen)
  rw [headroom] at hroom
  exact ⟨toNat_add_of_le (c := b.capacity) (by omega), by omega⟩

lemma inBounds_put (h : b.InBounds) (len : UInt64) : (b.netbufPut len).2.InBounds := by
  unfold netbufPut
  split_ifs with hlen
  · exact h
  · obtain ⟨hsum, hle⟩ := inBounds_grow h hlen
    unfold InBounds
    dsimp only
    omega

lemma inBounds_trim (h : b.InBounds) (len : UInt64) : (b.netbufTrim len).2.InBounds := by
  unfold netbufTrim
  split_ifs with hlen
  · exact h
  · have hle : len.toNat ≤ b.len.toNat := UInt64.le_iff_toNat_le.mp (UInt64.not_lt.mp hlen)
    unfold InBounds at h ⊢
    have hsub : (b.len - len).toNat = b.len.toNat - len.toNat :=
      UInt64.toNat_sub_of_le _ _ (UInt64.le_iff_toNat_le.mpr hle)
    dsimp only
    omega

lemma inBounds_copyIn (h : b.InBounds) (source : Option (Nat → UInt8)) (len : UInt64) :
    (b.netbufCopyIn source len).2.InBounds := by
  cases source with
  | none => exact h
  | some source =>
    unfold netbufCopyIn
    dsimp only
    split_ifs with hlen
    · exact h
    · obtain ⟨hsum, hle⟩ := inBounds_grow h hlen
      unfold InBounds write
      dsimp only
      omega

/-- **Resetting.**  The window stays in the block exactly where there is room for the headroom that is taken. -/
lemma inBounds_reset_iff (b : Netbuf) (headroom : UInt64) :
    (b.netbufReset headroom).InBounds ↔ b.ResetFits headroom := by
  unfold netbufReset InBounds ResetFits
  dsimp only
  rw [UInt64.toNat_zero, Nat.add_zero]
  split_ifs with hlarge
  · rw [← UInt64.le_iff_toNat_le, or_iff_right (UInt64.not_lt.mpr hlarge)]
  · have hlt := UInt64.not_le.mp hlarge
    exact iff_of_true (UInt64.le_iff_toNat_le.mp (UInt64.le_of_lt hlt)) (Or.inl hlt)

end Netbuf

/-- What `netbuf_alloc` gives is the whole block, with the headroom before an empty window. -/
lemma netbufAlloc_some {size headroom : UInt64} {pages : NetbufPages} {b : Netbuf}
    (h : netbufAlloc size headroom pages = some b) :
    headroom < size ∧ b = { mem := pages.content, data := headroom, len := 0, capacity := size, info := {} } := by
  unfold netbufAlloc at h
  split_ifs at h with hsize hroom hpages
  exact ⟨UInt64.not_le.mp hroom, (Option.some.inj h).symm⟩

lemma inBounds_alloc {size headroom : UInt64} {pages : NetbufPages} {b : Netbuf}
    (h : netbufAlloc size headroom pages = some b) : b.InBounds := by
  obtain ⟨hlt, rfl⟩ := netbufAlloc_some h
  have hlt := UInt64.lt_iff_toNat_lt.mp hlt
  unfold Netbuf.InBounds
  dsimp only
  rw [UInt64.toNat_zero]
  omega

namespace Netbuf

variable {b : Netbuf}

/-! ## What the calls leave -/

/-- **A clone** has the same bytes, the same metadata and the same window. -/
lemma netbufClone_some {pages : NetbufPages} {clone : Netbuf} (h : b.netbufClone pages = some clone) :
    clone.bytes = b.bytes ∧ clone.info = b.info ∧ clone.data = b.data ∧ clone.len = b.len ∧
      clone.capacity = b.capacity := by
  unfold netbufClone at h
  obtain ⟨fresh, hfresh, rfl⟩ := Option.map_eq_some_iff.mp h
  obtain ⟨-, rfl⟩ := netbufAlloc_some hfresh
  refine ⟨?_, rfl, rfl, rfl, rfl⟩
  unfold bytes write headroom
  refine List.map_congr_left fun i hi => ?_
  have hlt := List.mem_range.mp hi
  dsimp only at hlt ⊢
  rw [if_pos (by omega), Nat.add_sub_cancel_left]

lemma after_of_fails {op : NetbufOp} (h : b.fails op = true) : b.after op = b := by
  cases op with
  | push len =>
    simp only [fails, after, netbufPush] at h ⊢
    split_ifs at h ⊢ with hlen
    · rfl
    · simp at h
  | pull len =>
    simp only [fails, after, netbufPull] at h ⊢
    split_ifs at h ⊢ with hlen
    · rfl
    · simp at h
  | put len =>
    simp only [fails, after, netbufPut] at h ⊢
    split_ifs at h ⊢ with hlen
    · rfl
    · simp at h
  | trim len =>
    simp only [fails, after, netbufTrim] at h ⊢
    split_ifs at h ⊢ with hlen
    · rfl
    · simp at h
  | copyIn source len =>
    cases source with
    | none => rfl
    | some source =>
      simp only [fails, after, netbufCopyIn] at h ⊢
      split_ifs at h ⊢ with hlen
      · rfl
      · simp at h
  | reset headroom => simp [fails] at h
  | clone pages => rfl

lemma pull_push (h : b.InBounds) {len ptr : UInt64} (hpush : (b.netbufPush len).1 = some ptr) :
    (b.netbufPush len).2.netbufPull len = (some b.data, b) := by
  unfold netbufPush at hpush ⊢
  split_ifs at hpush ⊢ with hlen
  have hle : len.toNat ≤ b.data.toNat := UInt64.le_iff_toNat_le.mp (UInt64.not_lt.mp hlen)
  unfold InBounds at h
  have hsum : (b.len + len).toNat = b.len.toNat + len.toNat := toNat_add_of_le (c := b.capacity) (by omega)
  unfold netbufPull
  dsimp only
  rw [if_neg (by rw [UInt64.lt_iff_toNat_lt]; omega), UInt64.sub_add_cancel, UInt64.add_sub_cancel]

lemma trim_put (h : b.InBounds) {len ptr : UInt64} (hput : (b.netbufPut len).1 = some ptr) :
    (b.netbufPut len).2.netbufTrim len = (0, b) := by
  unfold netbufPut at hput ⊢
  split_ifs at hput ⊢ with hlen
  obtain ⟨hsum, -⟩ := inBounds_grow h hlen
  unfold netbufTrim
  dsimp only
  rw [if_neg (by rw [UInt64.lt_iff_toNat_lt]; omega), UInt64.add_sub_cancel]

/-! ## Runs -/

/-- What is promised of a buffer, and of the next call on it. -/
structure Behaves (b : Netbuf) : Prop where
  inBounds : b.InBounds
  rooms : b.headroom.toNat + b.len.toNat + b.tailroom.toNat = b.capacity.toNat
  unchanged : ∀ op, b.fails op = true → b.after op = b
  pushPull : ∀ len ptr, (b.netbufPush len).1 = some ptr → (b.netbufPush len).2.netbufPull len = (some b.data, b)
  putTrim : ∀ len ptr, (b.netbufPut len).1 = some ptr → (b.netbufPut len).2.netbufTrim len = (0, b)
  cloned : ∀ pages clone, b.netbufClone pages = some clone → clone.bytes = b.bytes ∧ clone.info = b.info
  reset : ∀ headroom, (b.netbufReset headroom).InBounds ↔ b.ResetFits headroom

lemma InBounds.behaves (h : b.InBounds) : b.Behaves where
  inBounds := h
  rooms := h.toNat_tailroom
  unchanged _ hfails := after_of_fails hfails
  pushPull _ _ hpush := pull_push h hpush
  putTrim _ _ hput := trim_put h hput
  cloned _ _ hclone := ⟨(netbufClone_some hclone).1, (netbufClone_some hclone).2.1⟩
  reset := b.inBounds_reset_iff

/-- Only a reset can leave the block. -/
def Fits (b : Netbuf) : NetbufOp → Prop
  | .reset headroom => b.ResetFits headroom
  | _ => True

lemma inBounds_after (h : b.InBounds) {op : NetbufOp} (hfits : b.Fits op) : (b.after op).InBounds := by
  cases op with
  | push len => exact inBounds_push h len
  | pull len => exact inBounds_pull h len
  | put len => exact inBounds_put h len
  | trim len => exact inBounds_trim h len
  | copyIn source len => exact inBounds_copyIn h source len
  | reset headroom => exact (b.inBounds_reset_iff headroom).mpr hfits
  | clone pages => exact h

lemma inBounds_made (h : b.InBounds) {op : NetbufOp} {clone : Netbuf} (hmade : b.made op = some clone) :
    clone.InBounds := by
  cases op with
  | clone pages =>
    obtain ⟨-, -, hdata, hlen, hcapacity⟩ := netbufClone_some hmade
    unfold InBounds at h ⊢
    rw [hdata, hlen, hcapacity]
    exact h
  | _ => simp [made] at hmade

end Netbuf

/-- A call of the stack, with resets for which the blocks are large enough. -/
def NetbufStep (pool : List Netbuf) (call : NetbufCall) (pool' : List Netbuf) : Prop :=
  netbufExec pool call = some pool' ∧ ∀ i op, call = .op i op → ∀ b, pool[i]? = some b → b.Fits op

lemma inBounds_step {pool pool' : List Netbuf} {call : NetbufCall} (h : ∀ b ∈ pool, b.InBounds)
    (hstep : NetbufStep pool call pool') : ∀ b ∈ pool', b.InBounds := by
  obtain ⟨hexec, hfits⟩ := hstep
  intro b hb
  cases call with
  | alloc size headroom pages =>
    obtain rfl := Option.some.inj hexec
    rcases List.mem_append.mp hb with hold | hnew
    · exact h b hold
    · exact inBounds_alloc (Option.mem_toList.mp hnew)
  | op i op =>
    obtain ⟨c, hc, rfl⟩ := Option.map_eq_some_iff.mp hexec
    have hcbounds : c.InBounds := h c (List.mem_of_getElem? hc)
    rcases List.mem_append.mp hb with hold | hnew
    · rcases List.mem_or_eq_of_mem_set hold with hkept | rfl
      · exact h b hkept
      · exact Netbuf.inBounds_after hcbounds (hfits i op rfl c hc)
    · exact Netbuf.inBounds_made hcbounds (Option.mem_toList.mp hnew)

/-- **Network buffers.**  Whatever is called in whatever order, every buffer behaves. -/
theorem netbufs_behave_of_steps {calls : List NetbufCall} {pool : List Netbuf}
    (hrun : Steps NetbufStep [] calls pool) : ∀ b ∈ pool, b.Behaves := by
  have hbounds : ∀ b ∈ pool, b.InBounds :=
    Steps.invariant (I := fun pool => ∀ b ∈ pool, b.InBounds)
      (fun _ _ _ hin hstep => inBounds_step hin hstep) hrun (by simp)
  exact fun b hb => (hbounds b hb).behaves

/-- A buffer that is filled and cloned, and the clone reset. -/
theorem netbufs_behave_of_four_calls :
    ∃ pool, Steps NetbufStep [] [.alloc 128 32 ⟨true, true, fun _ => 0⟩, .op 0 (.copyIn (some fun _ => 7) 4),
      .op 0 (.clone ⟨true, true, fun _ => 0⟩), .op 1 (.reset 200)] pool ∧ ∀ b ∈ pool, b.Behaves := by
  obtain ⟨pool, hrun⟩ : ∃ pool, Steps NetbufStep [] [.alloc 128 32 ⟨true, true, fun _ => 0⟩,
      .op 0 (.copyIn (some fun _ => 7) 4), .op 0 (.clone ⟨true, true, fun _ => 0⟩), .op 1 (.reset 200)] pool := by
    refine ⟨_, .cons ⟨rfl, ?_⟩ (.cons ⟨rfl, ?_⟩ (.cons ⟨rfl, ?_⟩ (.cons ⟨rfl, ?_⟩ (.nil _))))⟩
    · rintro _ _ ⟨⟩
    · rintro _ _ ⟨⟩ _ _
      trivial
    · rintro _ _ ⟨⟩ _ _
      trivial
    · rintro _ _ ⟨⟩ b hb
      obtain rfl := Option.some.inj hb
      exact Or.inr (by decide)
  exact ⟨pool, hrun, netbufs_behave_of_steps hrun⟩

/-- **The escape.**  A buffer of ten bytes that is reset with more than that starts 54 bytes behind its end. -/
theorem reset_escapes : ∃ calls pool, Steps (fun pool call pool' => netbufExec pool call = some pool') [] calls pool ∧
      ∃ b ∈ pool, ¬ b.InBounds := by
  refine ⟨[.alloc 10 0 ⟨true, true, fun _ => 0⟩, .op 0 (.reset 10)], _, .cons rfl (.cons rfl (.nil _)), _,
    List.mem_cons_self, ?_⟩
  decide

end AAAos
