import AAAos.Security.Auth.ShaBuffers

/-!
# The SHA-256 of the crypto library

`security/crypto/sha256.c`.  It counts bytes and not bits, takes whole blocks from where they are, and
puts its padding in like a piece of the message.

**What is proved.**  For every message and every way to put it in piece by piece, this implementation and
the one of the logins have a result, which is the standard's digest of the message, and so has `sha256_hash`
(`both_are_sha256`).  A result means that no index is outside of its array.
-/

namespace AAAos

namespace CryptoSha256

open Sha256 (Words)

/-- `SHA256_BLOCK_SIZE`. -/
def blockSize : Nat := 64

/-- `sha256_h0`. -/
def h0 : Words :=
  ⟨0x6a09e667, 0xbb67ae85, 0x3c6ef372, 0xa54ff53a, 0x510e527f, 0x9b05688c, 0x1f83d9ab, 0x5be0cd19⟩

/-- `sha256_transform`: the text of the other one, with macros in the place of its functions, and with the same
table of constants. -/
def transform (state : Words) (block : List UInt8) : Option Words := Sha256.transformIn state block

/-- `sha256_ctx_t`. -/
structure Ctx where
  state : Words
  count : UInt64
  buffer : List UInt8

/-- `sha256_init`. -/
def init : Ctx := ⟨h0, 0, List.replicate blockSize 0⟩

/-- The loop of `sha256_update` over whole blocks: the state, and what is left. -/
def directBlocks (state : Words) (p : List UInt8) : Option (Words × List UInt8) :=
  if blockSize ≤ p.length then do
    let state ← transform state (p.take blockSize)
    directBlocks state (p.drop blockSize)
  else some (state, p)
termination_by p.length
decreasing_by
  rw [List.length_drop]
  unfold blockSize at *
  omega

/-- `sha256_update`. -/
def update (ctx : Ctx) (p : List UInt8) : Option Ctx :=
  if p.length = 0 then some ctx
  else
    let used := (ctx.count % 64).toNat
    let free := blockSize - used
    let count := ctx.count + UInt64.ofNat p.length
    if 0 < used ∧ free ≤ p.length then do
      let buffer ← storeFrom ctx.buffer used (p.take free)
      let state ← transform ctx.state buffer
      let (state, p) ← directBlocks state (p.drop free)
      let buffer ← storeFrom buffer 0 p
      some ⟨state, count, buffer⟩
    else do
      let (state, p) ← directBlocks ctx.state p
      let buffer ← storeFrom ctx.buffer used p
      some ⟨state, count, buffer⟩

/-- `padding_len` in `sha256_final`. -/
def paddingLen (used : Nat) : Nat := if used < 56 then 56 - used else 120 - used

/-- `sha256_final`, into a digest that holds anything. -/
def final (ctx : Ctx) (hash : List UInt8) : Option (List UInt8) := do
  let used := (ctx.count % 64).toNat
  let padding ← storeAt (List.replicate 128 0) 0 0x80
  let padding ← storeFrom padding (paddingLen used) (Sha256.lengthBytes (ctx.count * 8))
  let padding ← loadFrom padding 0 (paddingLen used + 8)
  let ctx ← update ctx padding
  let s := ctx.state
  storeFrom hash 0 ([s.a, s.b, s.c, s.d, s.e, s.f, s.g, s.h].flatMap Sha256.wordBytesBe)

/-- `sha256_hash`. -/
def sha256Hash (data hash : List UInt8) : Option (List UInt8) := do
  let ctx ← update init data
  final ctx hash

/-! ## The context -/

variable {ctx : Ctx} {m : List UInt8}

/-- The context has taken in the message: what waits stands at the beginning of the buffer. -/
structure Took (ctx : Ctx) (m : List UInt8) : Prop where
  absorbed : ∃ rest stale, Fips.Absorbed ctx.state rest m ∧ ctx.buffer = rest ++ stale ∧
    rest.length + stale.length = blockSize
  count : ctx.count = UInt64.ofNat m.length

lemma took_init : Took init [] := ⟨⟨[], List.replicate blockSize 0, Fips.absorbed_nil, rfl, rfl⟩, rfl⟩

lemma Took.used (h : Took ctx m) : (ctx.count % 64).toNat = m.length % 64 := by
  rw [h.count, UInt64.toNat_mod, UInt64.toNat_ofNat']
  exact Nat.mod_mod_of_dvd m.length (show 64 ∣ 2 ^ 64 by decide)

/-- **Whole blocks** are taken in from where they are. -/
lemma directBlocks_eq {h : Words} (p : List UInt8) (ha : Fips.Absorbed h [] m) :
    ∃ h' rest, directBlocks h p = some (h', rest) ∧ Fips.Absorbed h' rest (m ++ p) := by
  induction hn : p.length using Nat.strongRecOn generalizing p h m with
  | ind n ih =>
    rw [directBlocks]
    split_ifs with hblock
    · have htake : (p.take blockSize).length = 64 := by
        rw [List.length_take]
        exact Nat.min_eq_left hblock
      have hnext := ha.block (p := p.take blockSize) (by rw [List.nil_append, htake])
      rw [List.nil_append] at hnext
      obtain ⟨h', rest, hrun, habs⟩ := ih (p.drop blockSize).length (by
        rw [List.length_drop, ← hn]
        unfold blockSize at hblock ⊢
        omega) (p.drop blockSize) hnext rfl
      refine ⟨h', rest, ?_, ?_⟩
      · rw [transform, Sha256.transformIn_eq _ (Nat.le_of_eq htake.symm), Fips.transform_eq, Option.bind_eq_bind,
          Option.bind_some, hrun]
      · rw [List.append_assoc, List.take_append_drop] at habs
        exact habs
    · exact ⟨h, p, rfl, ha.push (by rw [List.nil_append]; exact Nat.not_le.mp hblock)⟩

lemma took_rest {h : Words} {rest buffer : List UInt8} {count : UInt64} (ha : Fips.Absorbed h rest m)
    (hbuffer : buffer.length = blockSize) (hcount : count = UInt64.ofNat m.length) :
    ∃ ctx, (storeFrom buffer 0 rest).bind (fun buffer => some (⟨h, count, buffer⟩ : Ctx)) = some ctx ∧ Took ctx m := by
  have hshort : rest.length < blockSize := ha.short
  rw [storeFrom_zero (by omega), Option.bind_some]
  refine ⟨_, rfl, ⟨rest, buffer.drop rest.length, ha, rfl, ?_⟩, hcount⟩
  rw [List.length_drop]
  omega

/-- **One call** of `sha256_update`. -/
lemma Took.update (h : Took ctx m) (p : List UInt8) : ∃ ctx', update ctx p = some ctx' ∧ Took ctx' (m ++ p) := by
  obtain ⟨⟨rest, stale, ha, hbuffer, hsize⟩, hcount⟩ := id h
  have hused : (ctx.count % 64).toNat = rest.length := h.used.trans ha.length_rest.symm
  have hcount' : ctx.count + UInt64.ofNat p.length = UInt64.ofNat (m ++ p).length := by
    rw [hcount, List.length_append, UInt64.ofNat_add]
  unfold CryptoSha256.update
  dsimp only
  rw [hused]
  split_ifs with hnil hfills
  · rw [List.length_eq_zero_iff.mp hnil, List.append_nil]
    exact ⟨ctx, rfl, h⟩
  · -- the first bytes fill the block that waits
    obtain ⟨hpos, hfree⟩ := hfills
    have htake : (p.take (blockSize - rest.length)).length = blockSize - rest.length := by
      rw [List.length_take]
      omega
    have hall : stale.drop (p.take (blockSize - rest.length)).length = [] :=
      List.drop_eq_nil_of_le (by omega)
    have hblock : (rest ++ p.take (blockSize - rest.length)).length = 64 := by
      rw [List.length_append, htake]
      unfold blockSize at *
      omega
    have hstore := @storeFrom_append _ rest stale (p.take (blockSize - rest.length)) _ rfl (by omega)
    rw [hall, List.append_nil] at hstore
    obtain ⟨h', rest', hrun, habs⟩ := directBlocks_eq (p.drop (blockSize - rest.length)) (ha.block hblock)
    rw [List.append_assoc, List.take_append_drop] at habs
    obtain ⟨ctx', hctx, htook⟩ := took_rest habs hblock hcount'
    refine ⟨ctx', ?_, htook⟩
    rw [hbuffer, hstore, Option.bind_eq_bind, Option.bind_some, transform,
      Sha256.transformIn_eq _ (Nat.le_of_eq hblock.symm), Fips.transform_eq, Option.bind_eq_bind, Option.bind_some, hrun,
      Option.bind_eq_bind, Option.bind_some]
    exact hctx
  · by_cases hpos : 0 < rest.length
    · -- the block that waits stays short
      have hless : p.length < blockSize - rest.length := Nat.not_le.mp fun hfree => hfills ⟨hpos, hfree⟩
      have hstore := @storeFrom_append _ rest stale p _ rfl (by omega)
      have hdirect : directBlocks ctx.state p = some (ctx.state, p) := by
        rw [directBlocks, if_neg (by omega)]
      rw [hdirect, hbuffer, Option.bind_eq_bind, Option.bind_some]
      dsimp only
      rw [hstore, Option.bind_eq_bind, Option.bind_some]
      refine ⟨_, rfl, ⟨rest ++ p, stale.drop p.length, ha.push ?_, rfl, ?_⟩, hcount'⟩
      · rw [List.length_append]
        unfold blockSize at hless
        omega
      · rw [List.length_append, List.length_drop]
        omega
    · obtain rfl : rest = [] := List.length_eq_zero_iff.mp (Nat.eq_zero_of_not_pos hpos)
      obtain ⟨h', rest', hrun, habs⟩ := directBlocks_eq p ha
      obtain ⟨ctx', hctx, htook⟩ := @took_rest _ _ _ ctx.buffer _ habs (by
        rw [hbuffer]
        exact (Nat.zero_add _).symm.trans hsize) hcount'
      refine ⟨ctx', ?_, htook⟩
      rw [hrun, Option.bind_eq_bind, Option.bind_some]
      exact hctx

/-! ## The padding -/

lemma padding_eq {used n : Nat} (hused : used = n % 64) : ((storeAt (List.replicate 128 0) 0 0x80).bind fun padding =>
      (storeFrom padding (paddingLen used) (Fips.bigEndian (8 * n))).bind fun padding =>
        loadFrom padding 0 (paddingLen used + 8)) = some (Fips.padding n) := by
  have hlen : paddingLen used = (119 - n % 64) % 64 + 1 := by
    unfold paddingLen
    split_ifs
    · omega
    · omega
  generalize hk : (119 - n % 64) % 64 = k at hlen
  have hfirst : storeAt (List.replicate 128 (0 : UInt8)) 0 0x80 =
      some ((0x80 :: List.replicate k 0) ++ List.replicate (127 - k) 0) := by
    have hstore := @storeAt_append _ [] (List.replicate 127 0) _ rfl (0x80 : UInt8) 0
    rw [List.cons_append, List.replicate_append_replicate, show k + (127 - k) = 127 by omega]
    exact hstore
  have hpre : ((0x80 : UInt8) :: List.replicate k 0).length = k + 1 := by rw [List.length_cons, List.length_replicate]
  have hroom : (Fips.bigEndian (8 * n)).length ≤ (List.replicate (127 - k) (0 : UInt8)).length := by
    rw [Fips.length_bigEndian, List.length_replicate]
    omega
  have hwhole : k + 1 + 8 = ((0x80 :: List.replicate k 0) ++ Fips.bigEndian (8 * n)).length := by
    rw [List.length_append, hpre, Fips.length_bigEndian]
  rw [hfirst, Option.bind_some, hlen, storeFrom_append hpre.symm hroom, Option.bind_some, loadFrom_append hwhole,
    Fips.padding, hk]

/-- **What comes out** is the digest of what was put in. -/
theorem Took.final (h : Took ctx m) {hash : List UInt8} (hhash : hash.length = authHashSize) :
    final ctx hash = some (Fips.digest m) := by
  obtain ⟨ctx', hupdate, ⟨rest, stale, ha, -⟩, -⟩ := h.update (Fips.padding m.length)
  have hbits : Sha256.lengthBytes (ctx.count * 8) = Fips.bigEndian (8 * m.length) := by
    rw [h.count, ← Fips.lengthBytes_eq, Nat.mul_comm 8, UInt64.ofNat_mul]
    rfl
  have hwhole : rest = [] := by
    have hrest := ha.length_rest
    rw [List.length_append, Fips.padding, List.length_append, List.length_cons, List.length_replicate,
      Fips.length_bigEndian] at hrest
    exact List.length_eq_zero_iff.mp (by omega)
  subst hwhole
  have hpadding := padding_eq h.used
  have hsize : ∀ s : Words, ([s.a, s.b, s.c, s.d, s.e, s.f, s.g, s.h].flatMap Sha256.wordBytesBe).length = hash.length :=
    fun s => hhash.symm
  have hall : hash.drop hash.length = [] := List.drop_length
  unfold CryptoSha256.final
  dsimp only
  simp only [Option.bind_eq_bind]
  rw [hbits]
  obtain ⟨padding₁, h₁, hpadding⟩ := Option.bind_eq_some_iff.mp hpadding
  obtain ⟨padding₂, h₂, h₃⟩ := Option.bind_eq_some_iff.mp hpadding
  rw [h₁, Option.bind_some, h₂, Option.bind_some, h₃, Option.bind_some, hupdate, Option.bind_some,
    storeFrom_zero (Nat.le_of_eq (hsize _)), hsize, hall, List.append_nil, Fips.output_eq, ha.digest]

lemma took_updates (h : Took ctx m) (pieces : List (List UInt8)) :
    ∃ ctx', pieces.foldlM CryptoSha256.update ctx = some ctx' ∧ Took ctx' (m ++ pieces.flatten) := by
  induction pieces generalizing ctx m with
  | nil => exact ⟨ctx, rfl, by rw [List.flatten_nil, List.append_nil]; exact h⟩
  | cons p pieces ih =>
    obtain ⟨ctx₁, hupdate, h₁⟩ := h.update p
    obtain ⟨ctx₂, hrest, h₂⟩ := ih h₁
    refine ⟨ctx₂, ?_, by rw [List.flatten_cons, ← List.append_assoc]; exact h₂⟩
    rw [List.foldlM_cons, hupdate]
    exact hrest

end CryptoSha256

namespace Sha256

lemma holds_updates {b : Buffered} {ctx : Ctx} {m : List UInt8} (h : Holds b ctx) (ht : Took ctx m)
    (pieces : List (List UInt8)) :
    ∃ b' ctx', pieces.foldlM updateIn b = some b' ∧ Holds b' ctx' ∧ Took ctx' (m ++ pieces.flatten) := by
  induction pieces generalizing b ctx m with
  | nil => exact ⟨b, ctx, rfl, h, by rw [List.flatten_nil, List.append_nil]; exact ht⟩
  | cons p pieces ih =>
    obtain ⟨b₁, hupdate, h₁⟩ := updateIn_holds h p
    obtain ⟨b₂, ctx₂, hrest, h₂, ht₂⟩ := ih h₁ (took_update ht p)
    refine ⟨b₂, ctx₂, ?_, h₂, by rw [List.flatten_cons, ← List.append_assoc]; exact ht₂⟩
    rw [List.foldlM_cons, hupdate]
    exact hrest

end Sha256

namespace CryptoSha256

/-- **Both are SHA-256**, for every message and however it is put in, whatever the buffers hold before. -/
theorem both_are_sha256 (data : { l : List UInt8 // l.length = 64 }) (hash : { l : List UInt8 // l.length = 32 })
    (pieces : List (List UInt8)) :
    (pieces.foldlM Sha256.updateIn (Sha256.initIn data.1)).bind (Sha256.finalIn · hash.1) =
        some (Fips.digest pieces.flatten) ∧
      (pieces.foldlM update init).bind (final · hash.1) = some (Fips.digest pieces.flatten) ∧
      sha256Hash pieces.flatten hash.1 = some (Fips.digest pieces.flatten) := by
  refine ⟨?_, ?_, ?_⟩
  · obtain ⟨b, ctx, hrun, hholds, htook⟩ :=
      Sha256.holds_updates (Sha256.holds_init data.2) Sha256.took_init pieces
    rw [hrun, Option.bind_some, Sha256.finalIn_eq hholds hash.2, Sha256.final_eq htook, List.nil_append]
  · obtain ⟨ctx, hrun, htook⟩ := took_updates took_init pieces
    rw [hrun, Option.bind_some, htook.final hash.2, List.nil_append]
  · obtain ⟨ctx, hrun, htook⟩ := took_init.update pieces.flatten
    rw [sha256Hash, hrun, Option.bind_eq_bind, Option.bind_some, htook.final hash.2, List.nil_append]

end CryptoSha256

end AAAos
