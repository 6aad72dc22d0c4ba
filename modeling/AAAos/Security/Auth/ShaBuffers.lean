import AAAos.Lib.Buffer
import AAAos.Security.Crypto.Fips

/-!
# The SHA-256 of the logins

`sha256_transform`, `sha256_update` and `sha256_final` of `security/auth/auth.c` once more, with the
arrays that they index: the schedule, the 64 bytes of the context, and the digest.  An index outside of its
array has no result.

**What is proved.**  Every call has a result (`transformIn_eq`, `updateIn_holds`, `finalIn_eq`), and it is
that of the functions on lists, so that no index is outside of its array.  The bytes of a message that
are put in, in one call or in many, come out as its digest (`final_eq`).
-/

namespace AAAos

namespace Sha256

/-! ## The transformation -/

/-- The loop that fills `w[0]` to `w[15]`: `n` words are left. -/
def loadBlock (data : List UInt8) : Nat → Nat → List UInt32 → Option (List UInt32)
  | 0, _, w => some w
  | n + 1, i, w => do
    let a ← data[i * 4]?
    let b ← data[i * 4 + 1]?
    let c ← data[i * 4 + 2]?
    let d ← data[i * 4 + 3]?
    let w ← storeAt w i
      ((a.toUInt32 <<< 24) ||| (b.toUInt32 <<< 16) ||| (c.toUInt32 <<< 8) ||| d.toUInt32)
    loadBlock data n (i + 1) w

/-- The loop that fills the rest of the schedule. -/
def scheduleIn : Nat → Nat → List UInt32 → Option (List UInt32)
  | 0, _, w => some w
  | n + 1, i, w => do
    let x ← w[i - 2]?
    let y ← w[i - 7]?
    let z ← w[i - 15]?
    let u ← w[i - 16]?
    let w ← storeAt w i (gam1 x + y + gam0 z + u)
    scheduleIn n (i + 1) w

/-- The main loop. -/
def roundsIn (w : List UInt32) : Nat → Nat → Words → Option Words
  | 0, _, s => some s
  | n + 1, i, s => do
    let x ← k[i]?
    let y ← w[i]?
    roundsIn w n (i + 1) (round s (x, y))

/-- `sha256_transform`.  The schedule starts as zeros here; each word is written before it is read. -/
def transformIn (state : Words) (data : List UInt8) : Option Words := do
  let w ← loadBlock data 16 0 (List.replicate 64 0)
  let w ← scheduleIn 48 16 w
  let s ← roundsIn w 64 0 state
  some ⟨state.a + s.a, state.b + s.b, state.c + s.c, state.d + s.d, state.e + s.e, state.f + s.f,
    state.g + s.g, state.h + s.h⟩

lemma loadBlock_eq {data : List UInt8} (hdata : 64 ≤ data.length) {n i : Nat} {rest : List UInt32}
    (hi : i + n ≤ 16) (hrest : n ≤ rest.length) :
    loadBlock data n i ((List.range i).map (blockWord data) ++ rest) =
      some ((List.range (i + n)).map (blockWord data) ++ rest.drop n) := by
  have hget : ∀ j, j < 64 → data[j]? = some (data.getD j 0) := fun j hj => by
    rw [List.getD_eq_getElem?_getD, List.getElem?_eq_getElem (by omega), Option.getD_some]
  induction n generalizing i rest with
  | zero => rfl
  | succ n ih =>
    obtain ⟨u, rest, rfl⟩ := List.exists_cons_of_ne_nil (List.ne_nil_of_length_pos (Nat.lt_of_lt_of_le (Nat.succ_pos n) hrest))
    have hlen : i = ((List.range i).map (blockWord data)).length := by simp
    have hnext : (List.range i).map (blockWord data) ++ blockWord data i :: rest =
        (List.range (i + 1)).map (blockWord data) ++ rest := by
      simp [List.range_succ]
    simp only [loadBlock, hget _ (show i * 4 < 64 by omega), hget _ (show i * 4 + 1 < 64 by omega),
      hget _ (show i * 4 + 2 < 64 by omega), hget _ (show i * 4 + 3 < 64 by omega), Option.bind_eq_bind,
      Option.bind_some, storeAt_append hlen]
    refine (congrArg (loadBlock data n (i + 1)) hnext).trans ?_
    rw [ih (by omega) (Nat.le_of_succ_le_succ hrest), Nat.add_assoc, Nat.add_comm 1, List.drop_succ_cons]

lemma scheduleIn_eq {n i : Nat} {ws rest : List UInt32} (hi : i = ws.length) (hlow : 16 ≤ i) (hrest : n ≤ rest.length) :
    scheduleIn n i (ws ++ rest) = some (schedule n i ws ++ rest.drop n) := by
  induction n generalizing i ws rest with
  | zero => rfl
  | succ n ih =>
    obtain ⟨u, rest, rfl⟩ := List.exists_cons_of_ne_nil (List.ne_nil_of_length_pos (Nat.lt_of_lt_of_le (Nat.succ_pos n) hrest))
    have hget : ∀ j, j < i → (ws ++ u :: rest)[j]? = some (ws.getD j 0) := fun j hj => by
      rw [List.getElem?_append_left (hi ▸ hj), List.getD_eq_getElem?_getD, List.getElem?_eq_getElem (hi ▸ hj),
        Option.getD_some]
    simp only [scheduleIn, hget _ (show i - 2 < i by omega), hget _ (show i - 7 < i by omega),
      hget _ (show i - 15 < i by omega), hget _ (show i - 16 < i by omega), Option.bind_eq_bind, Option.bind_some,
      storeAt_append hi]
    rw [List.append_cons, ih (by rw [List.length_append, ← hi, List.length_singleton]) (by omega)
      (Nat.le_of_succ_le_succ hrest), schedule, List.drop_succ_cons]

lemma roundsIn_eq {w : List UInt32} {n i : Nat} {s : Words} (hk : k.length = i + n) (hw : w.length = i + n) :
    roundsIn w n i s = some (((k.drop i).zip (w.drop i)).foldl round s) := by
  induction n generalizing i s with
  | zero =>
    rw [List.drop_eq_nil_of_le (Nat.le_of_eq (show k.length = i from hk))]
    rfl
  | succ n ih =>
    have hik : i < k.length := by omega
    have hiw : i < w.length := by omega
    simp only [roundsIn, List.getElem?_eq_getElem hik, List.getElem?_eq_getElem hiw, Option.bind_eq_bind, Option.bind_some]
    rw [ih (by omega) (by omega), List.drop_eq_getElem_cons hik, List.drop_eq_getElem_cons hiw, List.zip_cons_cons,
      List.foldl_cons]

lemma length_schedule (n i : Nat) (ws : List UInt32) : (schedule n i ws).length = ws.length + n := by
  induction n generalizing i ws with
  | zero => rfl
  | succ n ih =>
    rw [schedule, ih, List.length_append, List.length_singleton]
    omega

/-- **No index is outside** in `sha256_transform`, on a block of 64 bytes. -/
theorem transformIn_eq (state : Words) {data : List UInt8} (hdata : 64 ≤ data.length) :
    transformIn state data = some (transform state data) := by
  have hload := @loadBlock_eq data hdata 16 0 (List.replicate 64 0) (by decide) (by simp)
  have hschedule := @scheduleIn_eq 48 16 ((List.range 16).map (blockWord data)) (List.replicate 48 0)
    (by simp) (Nat.le_refl 16) (by simp)
  have hlen : (schedule 48 16 ((List.range 16).map (blockWord data))).length = 0 + 64 := by
    rw [length_schedule, List.length_map, List.length_range]
  have hrounds := @roundsIn_eq _ 64 0 state rfl hlen
  have hempty : (List.replicate 48 (0 : UInt32)).drop 48 = [] := rfl
  have hleft : (List.replicate 64 (0 : UInt32)).drop 16 = List.replicate 48 0 := rfl
  rw [List.range_zero, List.map_nil, List.nil_append, Nat.zero_add, hleft] at hload
  rw [hempty, List.append_nil] at hschedule
  simp only [transformIn, hload, hschedule, hrounds, Option.bind_eq_bind, Option.bind_some]
  rfl

/-! ## The context -/

/-- `sha256_ctx_t` as it is in memory. -/
structure Buffered where
  state : Words
  bitlen : UInt64
  data : List UInt8
  datalen : Nat

/-- `sha256_init`, on a context that holds anything. -/
def initIn (data : List UInt8) : Buffered := ⟨{}, 0, data, 0⟩

/-- A byte in `sha256_update`. -/
def updateByteIn (ctx : Buffered) (byte : UInt8) : Option Buffered := do
  let data ← storeAt ctx.data ctx.datalen byte
  if ctx.datalen + 1 = 64 then do
    let state ← transformIn ctx.state data
    some ⟨state, ctx.bitlen + 512, data, 0⟩
  else some ⟨ctx.state, ctx.bitlen, data, ctx.datalen + 1⟩

/-- `sha256_update`. -/
def updateIn (ctx : Buffered) (data : List UInt8) : Option Buffered := data.foldlM updateByteIn ctx

/-- The padding of `sha256_final`, up to the length. -/
def padIn (ctx : Buffered) : Option (Words × List UInt8) := do
  let data ← storeAt ctx.data ctx.datalen 0x80
  if ctx.datalen < 56 then do
    let data ← storeFrom data (ctx.datalen + 1) (List.replicate (55 - ctx.datalen) 0)
    some (ctx.state, data)
  else do
    let data ← storeFrom data (ctx.datalen + 1) (List.replicate (63 - ctx.datalen) 0)
    let state ← transformIn ctx.state data
    let data ← storeFrom data 0 (List.replicate 56 0)
    some (state, data)

/-- `sha256_final`, into a digest that holds anything. -/
def finalIn (ctx : Buffered) (hash : List UInt8) : Option (List UInt8) := do
  let (state, data) ← padIn ctx
  let data ← storeFrom data 56 (lengthBytes (ctx.bitlen + UInt64.ofNat (ctx.datalen * 8)))
  let state ← transformIn state data
  storeFrom hash 0 ([state.a, state.b, state.c, state.d, state.e, state.f, state.g, state.h].flatMap wordBytesBe)

/-- The context in memory is that of the lists: what waits stands at the beginning of the buffer. -/
structure Holds (b : Buffered) (ctx : Ctx) : Prop where
  state : b.state = ctx.state
  bitlen : b.bitlen = ctx.bitlen
  datalen : b.datalen = ctx.data.length
  short : ctx.data.length < 64
  data : ∃ stale, b.data = ctx.data ++ stale ∧ ctx.data.length + stale.length = 64

variable {b : Buffered} {ctx : Ctx}

lemma holds_init {data : List UInt8} (h : data.length = 64) : Holds (initIn data) {} :=
  ⟨rfl, rfl, rfl, by decide, data, rfl, by rw [h]; rfl⟩

/-- **A byte** goes to its place in the buffer. -/
lemma updateByteIn_holds (h : Holds b ctx) (byte : UInt8) :
    ∃ b', updateByteIn b byte = some b' ∧ Holds b' (updateByte ctx byte) := by
  obtain ⟨hstate, hbitlen, hlen, hshort, stale, hdata, hsize⟩ := h
  obtain ⟨u, stale, rfl⟩ := List.exists_cons_of_ne_nil (List.ne_nil_of_length_pos (show 0 < stale.length by omega))
  have hstore := @storeAt_append _ ctx.data stale _ rfl byte u
  rw [← hdata] at hstore
  have hone : (ctx.data ++ [byte]).length = ctx.data.length + 1 := by simp
  rw [List.length_cons] at hsize
  simp only [updateByteIn, updateByte, hstore, Option.bind_eq_bind, Option.bind_some, hone, hlen]
  by_cases hfull : ctx.data.length + 1 = 64
  · obtain rfl : stale = [] := List.length_eq_zero_iff.mp (by omega)
    rw [if_pos hfull, if_pos hfull, transformIn_eq _ (Nat.le_of_eq (hone.trans hfull).symm), Option.bind_some]
    exact ⟨_, rfl, by rw [hstate], by rw [hbitlen], rfl, Nat.succ_pos 63, ctx.data ++ [byte], rfl,
      (Nat.zero_add _).trans (hone.trans hfull)⟩
  · rw [if_neg hfull, if_neg hfull]
    refine ⟨_, rfl, hstate, hbitlen, hone.symm, by rw [hone]; omega, stale, List.append_cons _ _ _, ?_⟩
    rw [hone]
    omega

lemma updateIn_holds (h : Holds b ctx) (data : List UInt8) :
    ∃ b', updateIn b data = some b' ∧ Holds b' (update ctx data) := by
  induction data generalizing b ctx with
  | nil => exact ⟨b, rfl, h⟩
  | cons byte data ih =>
    obtain ⟨b₁, hb₁, hh₁⟩ := updateByteIn_holds h byte
    obtain ⟨b₂, hb₂, hh₂⟩ := ih hh₁
    refine ⟨b₂, ?_, hh₂⟩
    rw [updateIn, List.foldlM_cons, hb₁]
    exact hb₂

/-- What the padding leaves: 56 bytes for the last block, and the state before it. -/
lemma padIn_eq (h : Holds b ctx) : ∃ stale : List UInt8, stale.length = 8 ∧ padIn b = some
    (if ctx.data.length < 56 then (ctx.state, ctx.data ++ 0x80 :: List.replicate (55 - ctx.data.length) 0 ++ stale)
    else (transform ctx.state (ctx.data ++ 0x80 :: List.replicate (63 - ctx.data.length) 0),
      List.replicate 56 0 ++ stale)) := by
  obtain ⟨hstate, -, hlen, hshort, stale, hdata, hsize⟩ := h
  obtain ⟨u, stale, rfl⟩ := List.exists_cons_of_ne_nil (List.ne_nil_of_length_pos (show 0 < stale.length by omega))
  have hstore := @storeAt_append _ ctx.data stale _ rfl 0x80 u
  rw [← hdata, List.append_cons] at hstore
  have hone : ctx.data.length + 1 = (ctx.data ++ [(0x80 : UInt8)]).length := by simp
  rw [List.length_cons] at hsize
  simp only [padIn, hstore, Option.bind_eq_bind, Option.bind_some, hlen]
  by_cases hless : ctx.data.length < 56
  · simp only [if_pos hless]
    rw [storeFrom_append hone (by rw [List.length_replicate]; omega), Option.bind_some, hstate]
    refine ⟨stale.drop (55 - ctx.data.length), by rw [List.length_drop]; omega, ?_⟩
    rw [List.length_replicate, List.append_assoc ctx.data, List.singleton_append]
  · have hall : stale.drop (63 - ctx.data.length) = [] := List.drop_eq_nil_of_le (by omega)
    have hblock : (ctx.data ++ 0x80 :: List.replicate (63 - ctx.data.length) (0 : UInt8)).length = 64 := by
      rw [List.length_append, List.length_cons, List.length_replicate]
      omega
    simp only [if_neg hless]
    rw [storeFrom_append hone (by rw [List.length_replicate]; omega), Option.bind_some, List.length_replicate, hall, List.append_nil, List.append_assoc ctx.data, List.singleton_append,
      transformIn_eq _ (Nat.le_of_eq hblock.symm), Option.bind_some,
      storeFrom_zero (by rw [hblock, List.length_replicate]; decide), Option.bind_some, hstate]
    exact ⟨_, by rw [List.length_drop, hblock, List.length_replicate], rfl⟩

/-- **No index is outside** in `sha256_final`. -/
theorem finalIn_eq (h : Holds b ctx) {hash : List UInt8} (hhash : hash.length = authHashSize) :
    finalIn b hash = some (final ctx) := by
  obtain ⟨stale, hstale, hpad⟩ := padIn_eq h
  have hlength : ∀ n, (lengthBytes n).length = 8 := fun _ => rfl
  have hout : ∀ s : Words,
      storeFrom hash 0 ([s.a, s.b, s.c, s.d, s.e, s.f, s.g, s.h].flatMap wordBytesBe) =
        some ([s.a, s.b, s.c, s.d, s.e, s.f, s.g, s.h].flatMap wordBytesBe) := fun s => by
    have hsize : ([s.a, s.b, s.c, s.d, s.e, s.f, s.g, s.h].flatMap wordBytesBe).length = authHashSize := rfl
    have hall : hash.drop authHashSize = [] := List.drop_eq_nil_of_le (Nat.le_of_eq hhash)
    rw [storeFrom_zero (Nat.le_of_eq (hsize.trans hhash.symm)), hsize, hall, List.append_nil]
  have hlast : ∀ (s : Words) (pre : List UInt8) (n : UInt64), pre.length = 56 →
      (storeFrom (pre ++ stale) 56 (lengthBytes n)).bind (transformIn s) =
        some (transform s (pre ++ lengthBytes n)) := fun s pre n hpre => by
    have hall : stale.drop 8 = [] := List.drop_eq_nil_of_le (Nat.le_of_eq hstale)
    have hblock : (pre ++ lengthBytes n).length = 64 := by rw [List.length_append, hpre, hlength]
    rw [storeFrom_append hpre.symm (Nat.le_of_eq ((hlength n).trans hstale.symm)), hlength, hall, List.append_nil,
      Option.bind_some, transformIn_eq _ (Nat.le_of_eq hblock.symm)]
  simp only [finalIn, hpad, final, h.bitlen, h.datalen, Option.bind_eq_bind, Option.bind_some]
  by_cases hless : ctx.data.length < 56
  · rw [if_pos hless, if_pos hless, ← Option.bind_assoc, hlast _ _ _ (by
      rw [List.length_append, List.length_cons, List.length_replicate]
      omega), Option.bind_some]
    exact hout _
  · rw [if_neg hless, if_neg hless, ← Option.bind_assoc, hlast _ _ _ (by rw [List.length_replicate]), Option.bind_some]
    exact hout _

/-! ## The digest -/

/-- The context has taken in the message. -/
structure Took (ctx : Ctx) (m : List UInt8) : Prop where
  absorbed : Fips.Absorbed ctx.state ctx.data m
  bitlen : ctx.bitlen = UInt64.ofNat (8 * (m.length - ctx.data.length))

lemma took_init : Took {} [] := ⟨Fips.absorbed_nil, rfl⟩

lemma took_updateByte {m : List UInt8} (h : Took ctx m) (byte : UInt8) : Took (updateByte ctx byte) (m ++ [byte]) := by
  have hlen := h.absorbed.length_rest
  have hone : (ctx.data ++ [byte]).length = ctx.data.length + 1 := by simp
  unfold updateByte
  dsimp only
  rw [hone]
  split_ifs with hfull
  · refine ⟨?_, ?_⟩
    · rw [Fips.transform_eq]
      exact h.absorbed.block (hone.trans hfull)
    · change ctx.bitlen + 512 = _
      rw [h.bitlen, List.length_append, List.length_singleton, List.length_nil,
        show 8 * (m.length + 1 - 0) = 8 * (m.length - ctx.data.length) + 512 by omega, UInt64.ofNat_add]
      rfl
  · refine ⟨h.absorbed.push (by rw [hone]; omega), ?_⟩
    change ctx.bitlen = _
    rw [h.bitlen, hone, List.length_append, List.length_singleton, Nat.add_sub_add_right]

lemma took_update {m : List UInt8} (h : Took ctx m) (data : List UInt8) : Took (update ctx data) (m ++ data) := by
  induction data generalizing ctx m with
  | nil => rw [List.append_nil]; exact h
  | cons byte data ih =>
    rw [List.append_cons]
    exact ih (took_updateByte h byte)

/-- **What comes out** is the digest of what was put in. -/
theorem final_eq {m : List UInt8} (h : Took ctx m) : final ctx = Fips.digest m := by
  have hlen := h.absorbed.length_rest
  have hbits : ctx.bitlen + UInt64.ofNat (ctx.data.length * 8) = UInt64.ofNat (8 * m.length) := by
    rw [h.bitlen, ← UInt64.ofNat_add]
    congr 1
    omega
  unfold final
  dsimp only
  rw [hbits, Fips.lengthBytes_eq, Fips.output_eq]
  by_cases hless : ctx.data.length < 56
  · have hblock := h.absorbed.block (p := Fips.padding m.length) (by
      rw [Fips.padding_short h.absorbed hless]
      simp only [List.length_append, List.length_cons, List.length_replicate, Fips.length_bigEndian]
      omega)
    rw [if_pos hless, Fips.transform_eq, List.append_assoc, ← Fips.padding_short h.absorbed hless]
    exact hblock.digest
  · have hfirst := h.absorbed.block (p := 0x80 :: List.replicate (63 - ctx.data.length) 0) (by
      rw [List.length_append, List.length_cons, List.length_replicate]
      omega)
    have hsecond := hfirst.block (p := List.replicate 56 0 ++ Fips.bigEndian (8 * m.length)) (by
      simp only [List.length_append, List.length_nil, List.length_replicate, Fips.length_bigEndian])
    rw [List.append_assoc, ← Fips.padding_long h.absorbed hless, List.nil_append] at hsecond
    rw [if_neg hless, Fips.transform_eq, Fips.transform_eq]
    exact hsecond.digest

end Sha256

end AAAos
