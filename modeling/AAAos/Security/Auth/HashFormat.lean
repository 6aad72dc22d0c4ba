import AAAos.Security.Auth.ShaBuffers

/-!
# The format of password hashes

`auth_hash_password` and `auth_check_hash` of `security/auth/auth.c`, with the buffers that they index.

**What is proved.**  Both have a result, so that no index is outside of its buffer.  The string that
`auth_hash_password` writes takes up its 98 bytes and no more, and it is accepted for exactly the passwords
that have the same digest with the same salt; and exactly the strings that do not begin like such a string
are invalid (`hashes_accept_exactly`).
-/

namespace AAAos

/-- `AUTH_HASH_STRING_SIZE`. -/
def authHashStringSize : Nat := authSaltSize * 2 + 1 + authHashSize * 2 + 1

/-- The buffers of the two functions, with what they hold at the start. -/
structure HashBuffers where
  salt : { l : List UInt8 // l.length = authSaltSize }
  hash : { l : List UInt8 // l.length = authHashSize }
  storedHash : { l : List UInt8 // l.length = authHashSize }
  salted : { l : List UInt8 // l.length = authPasswordMax + authSaltSize }
  data : { l : List UInt8 // l.length = 64 }

/-- The part of a password that is hashed. -/
def cutPassword (password : CString) : List UInt8 := password.1.take (authPasswordMax - 1)

/-! ## The two functions -/

/-- The digest of the salt and the password, computed in the buffers. -/
def saltedDigestIn (bufs : HashBuffers) (salt : List UInt8) (password : CString) : Option (List UInt8) := do
  let salted ← storeFrom bufs.salted.1 0 salt
  let salted ← storeFrom salted authSaltSize (cutPassword password)
  let bytes ← loadFrom salted 0 (authSaltSize + (cutPassword password).length)
  let ctx ← Sha256.updateIn (Sha256.initIn bufs.data.1) bytes
  Sha256.finalIn ctx bufs.hash.1

/-- `auth_hash_password`, into a buffer: the buffer, and the state of the random numbers. -/
def authHashPasswordIn (bufs : HashBuffers) (password : CString) (random : UInt64) (out : List UInt8) :
    Option (List UInt8 × UInt64) := do
  let (bytes, random) := generateSalt authSaltSize random
  let salt ← storeFrom bufs.salt.1 0 bytes
  let hash ← saltedDigestIn bufs salt password
  let out ← storeFrom out 0 (salt.flatMap byteToHex)
  let out ← storeAt out (authSaltSize * 2) 0x24
  let out ← storeFrom out (authSaltSize * 2 + 1) (hash.flatMap byteToHex)
  let out ← storeAt out (authSaltSize * 2 + 1 + authHashSize * 2) 0
  some (out, random)

/-- The loop that reads `n` bytes into a buffer: nothing where the digits end too early. -/
def readHexIn : Nat → Nat → List UInt8 → List UInt8 → Option (Option (List UInt8 × List UInt8))
  | 0, _, buf, p => some (some (buf, p))
  | n + 1, i, buf, p =>
    match hexToByte (p.headD 0) (p.tail.headD 0) with
    | none => some none
    | some byte => (storeAt buf i byte).bind fun buf => readHexIn n (i + 1) buf p.tail.tail

/-- The loop that compares: the bits that differ somewhere among the first `n` bytes. -/
def compareIn (computed stored : List UInt8) : Nat → Nat → UInt8 → Option UInt8
  | 0, _, result => some result
  | n + 1, i, result => do
    let x ← computed[i]?
    let y ← stored[i]?
    compareIn computed stored n (i + 1) (result ||| (x ^^^ y))

/-- `auth_check_hash`. -/
def authCheckHashIn (bufs : HashBuffers) (password : CString) (stored : List UInt8) : Option Int := do
  match ← readHexIn authSaltSize 0 bufs.salt.1 stored with
  | none => some authErrInval
  | some (salt, p) =>
    if p.headD 0 ≠ 0x24 then some authErrInval
    else
      match ← readHexIn authHashSize 0 bufs.storedHash.1 p.tail with
      | none => some authErrInval
      | some (hash, _) =>
        let computed ← saltedDigestIn bufs salt password
        let result ← compareIn computed hash authHashSize 0 0
        some (if result = 0 then authOk else authErrBadpass)

/-! ## The buffers -/

variable {bufs : HashBuffers}

lemma length_cutPassword (password : CString) : (cutPassword password).length ≤ 127 := List.length_take_le _ _

lemma saltedDigestIn_eq {salt : List UInt8} (hsalt : salt.length = authSaltSize) (password : CString) :
    saltedDigestIn bufs salt password = some (Fips.digest (salt ++ cutPassword password)) := by
  have hcut := length_cutPassword password
  have hsalted : bufs.salted.1.length = 144 := bufs.salted.2
  have hsalt' : salt.length = 16 := hsalt
  have hstale : (bufs.salted.1.drop salt.length).length = 128 := by
    rw [List.length_drop, hsalted, hsalt']
  have hwhole : authSaltSize + (cutPassword password).length = (salt ++ cutPassword password).length := by
    rw [List.length_append, hsalt]
  obtain ⟨ctx, hupdate, hholds⟩ := Sha256.updateIn_holds (Sha256.holds_init bufs.data.2) (salt ++ cutPassword password)
  have htook := Sha256.took_update Sha256.took_init (salt ++ cutPassword password)
  rw [List.nil_append] at htook
  simp only [saltedDigestIn, Option.bind_eq_bind]
  rw [storeFrom_zero (by omega), Option.bind_some, storeFrom_append hsalt.symm (by omega), Option.bind_some,
    loadFrom_append hwhole, Option.bind_some, hupdate, Option.bind_some, Sha256.finalIn_eq hholds bufs.hash.2,
    Sha256.final_eq htook]

/-- The loop stays in its buffer, and reads what `readHex` reads. -/
lemma readHexIn_eq {n i : Nat} {pre rest : List UInt8} (hi : i = pre.length) (hn : n = rest.length) (p : List UInt8) :
    readHexIn n i (pre ++ rest) p = some ((readHex n p).map fun r => (pre ++ r.1, r.2)) := by
  induction n generalizing i pre rest p with
  | zero =>
    obtain rfl : rest = [] := List.length_eq_zero_iff.mp hn.symm
    rfl
  | succ n ih =>
    obtain ⟨u, rest, rfl⟩ := List.exists_cons_of_ne_nil (List.ne_nil_of_length_pos (show 0 < rest.length by omega))
    cases hbyte : hexToByte (p.headD 0) (p.tail.headD 0) with
    | none => simp only [readHexIn, readHex, hbyte, Option.bind_eq_bind, Option.bind_none, Option.map_none]
    | some byte =>
      have hone : i + 1 = (pre ++ [byte]).length := by rw [List.length_append, List.length_singleton, hi]
      have hrest := ih hone (Nat.succ.inj hn) p.tail.tail
      rw [← List.append_cons] at hrest
      simp only [readHexIn, readHex, hbyte, Option.bind_eq_bind, Option.bind_some, storeAt_append hi, hrest]
      cases readHex n p.tail.tail with
      | none => rfl
      | some r => simp

lemma foldl_or_eq_zero (l : List UInt8) (acc : UInt8) : l.foldl (· ||| ·) acc = 0 ↔ acc = 0 ∧ ∀ x ∈ l, x = 0 := by
  induction l generalizing acc with
  | nil => simp
  | cons x l ih => rw [List.foldl_cons, ih, UInt8.or_eq_zero_iff, List.forall_mem_cons, and_assoc]

lemma zipWith_xor_eq_zero {l l' : List UInt8} (hlen : l.length = l'.length) :
    (∀ x ∈ List.zipWith (· ^^^ ·) l l', x = 0) ↔ l = l' := by
  induction l generalizing l' with
  | nil =>
    obtain rfl : l' = [] := List.length_eq_zero_iff.mp hlen.symm
    simp
  | cons x l ih =>
    cases l' with
    | nil => cases hlen
    | cons y l' =>
      rw [List.zipWith_cons_cons, List.forall_mem_cons, ih (Nat.succ.inj hlen), UInt8.xor_eq_zero_iff,
        List.cons.injEq]

lemma compareIn_eq {computed stored : List UInt8} {n i : Nat} {result : UInt8} (hc : computed.length = i + n)
    (hs : stored.length = i + n) : compareIn computed stored n i result =
      some ((List.zipWith (· ^^^ ·) (computed.drop i) (stored.drop i)).foldl (· ||| ·) result) := by
  induction n generalizing i result with
  | zero =>
    rw [List.drop_eq_nil_of_le (Nat.le_of_eq (show computed.length = i from hc))]
    rfl
  | succ n ih =>
    have hic : i < computed.length := by omega
    have his : i < stored.length := by omega
    simp only [compareIn, List.getElem?_eq_getElem hic, List.getElem?_eq_getElem his, Option.bind_eq_bind,
      Option.bind_some]
    rw [ih (by omega) (by omega), List.drop_eq_getElem_cons hic, List.drop_eq_getElem_cons his,
      List.zipWith_cons_cons, List.foldl_cons]

/-! ## Hexadecimal digits -/

/-- The characters `0` to `9`, `a` to `f` and `A` to `F`. -/
def HexDigit (c : UInt8) : Prop := 48 ≤ c ∧ c ≤ 57 ∨ 97 ≤ c ∧ c ≤ 102 ∨ 65 ≤ c ∧ c ≤ 70

lemma hexToNibble_isSome (c : UInt8) : (hexToNibble c).isSome = true ↔ HexDigit c := by
  unfold hexToNibble HexDigit
  split_ifs with hdigit hsmall hbig
  · exact iff_of_true rfl (.inl hdigit)
  · exact iff_of_true rfl (.inr (.inl hsmall))
  · exact iff_of_true rfl (.inr (.inr hbig))
  · refine iff_of_false (fun h => nomatch h) fun h => ?_
    rcases h with h | h | h
    · exact hdigit h
    · exact hsmall h
    · exact hbig h

lemma not_hexDigit_zero : ¬ HexDigit 0 := by
  rintro (h | h | h)
  all_goals exact absurd h.1 (by decide)

lemma hexToByte_isSome (hi lo : UInt8) : (hexToByte hi lo).isSome = true ↔ HexDigit hi ∧ HexDigit lo := by
  rw [← hexToNibble_isSome, ← hexToNibble_isSome]
  unfold hexToByte
  cases hexToNibble hi with
  | none => simp
  | some x =>
    cases hexToNibble lo with
    | none => simp
    | some y => simp

/-- The string begins with `2 n` digits, and `rest` follows. -/
def BeginsHex (n : Nat) (p rest : List UInt8) : Prop :=
  ∃ digits, digits.length = 2 * n ∧ (∀ c ∈ digits, HexDigit c) ∧ p = digits ++ rest

/-- **The loop that reads** ends well exactly when there are enough digits. -/
lemma readHex_iff (n : Nat) (p rest : List UInt8) :
    (∃ bytes, readHex n p = some (bytes, rest)) ↔ BeginsHex n p rest := by
  induction n generalizing p with
  | zero =>
    constructor
    · rintro ⟨bytes, h⟩
      cases h
      exact ⟨[], rfl, fun c hc => absurd hc List.not_mem_nil, rfl⟩
    · rintro ⟨digits, hlen, -, rfl⟩
      obtain rfl : digits = [] := List.length_eq_zero_iff.mp hlen
      exact ⟨[], rfl⟩
  | succ n ih =>
    constructor
    · rintro ⟨bytes, h⟩
      obtain ⟨byte, hbyte, h⟩ := Option.bind_eq_some_iff.mp h
      obtain ⟨r, hr, h⟩ := Option.bind_eq_some_iff.mp h
      cases h
      obtain ⟨hhi, hlo⟩ := (hexToByte_isSome _ _).mp (Option.isSome_iff_exists.mpr ⟨byte, hbyte⟩)
      obtain ⟨digits, hlen, hdigits, hp⟩ := (ih p.tail.tail).mp ⟨r.1, hr⟩
      cases p with
      | nil => exact absurd hhi not_hexDigit_zero
      | cons hi p =>
        cases p with
        | nil => exact absurd hlo not_hexDigit_zero
        | cons lo p =>
          refine ⟨hi :: lo :: digits, by rw [List.length_cons, List.length_cons, hlen]; omega, ?_, ?_⟩
          · exact List.forall_mem_cons.mpr ⟨hhi, List.forall_mem_cons.mpr ⟨hlo, hdigits⟩⟩
          · rw [List.cons_append, List.cons_append]
            exact congrArg (fun p => hi :: lo :: p) hp
    · rintro ⟨digits, hlen, hdigits, rfl⟩
      obtain ⟨hi, digits, rfl⟩ := List.exists_cons_of_ne_nil (List.ne_nil_of_length_pos (show 0 < digits.length by omega))
      rw [List.length_cons] at hlen
      obtain ⟨lo, digits, rfl⟩ := List.exists_cons_of_ne_nil (List.ne_nil_of_length_pos (show 0 < digits.length by omega))
      rw [List.length_cons] at hlen
      obtain ⟨hhi, hrest⟩ := List.forall_mem_cons.mp hdigits
      obtain ⟨hlo, hrest⟩ := List.forall_mem_cons.mp hrest
      obtain ⟨bytes, hbytes⟩ := (ih (digits ++ rest)).mpr ⟨digits, by omega, hrest, rfl⟩
      obtain ⟨byte, hbyte⟩ := Option.isSome_iff_exists.mp ((hexToByte_isSome hi lo).mpr ⟨hhi, hlo⟩)
      refine ⟨byte :: bytes, ?_⟩
      change (do
        let byte ← hexToByte hi lo
        let r ← readHex n (digits ++ rest)
        return (byte :: r.1, r.2)) = _
      rw [hbyte, hbytes]
      rfl

/-- The string begins like a stored hash. -/
def HashFormat (stored : List UInt8) : Prop :=
  ∃ p rest, BeginsHex authSaltSize stored (0x24 :: p) ∧ BeginsHex authHashSize p rest

/-! ## Checking -/

lemma length_readHex {n : Nat} {p rest bytes : List UInt8} (h : readHex n p = some (bytes, rest)) : bytes.length = n := by
  induction n generalizing p bytes with
  | zero =>
    cases h
    rfl
  | succ n ih =>
    obtain ⟨byte, -, h⟩ := Option.bind_eq_some_iff.mp h
    obtain ⟨r, hr, h⟩ := Option.bind_eq_some_iff.mp h
    cases h
    rw [List.length_cons, ih hr]

lemma length_digest (m : List UInt8) : (Fips.digest m).length = authHashSize := rfl

/-- **What `auth_check_hash` does** with salt and digest. -/
lemma authCheckHashIn_eq {password : CString} {stored p rest salt hash : List UInt8}
    (hsalt : readHex authSaltSize stored = some (salt, 0x24 :: p)) (hhash : readHex authHashSize p = some (hash, rest)) :
    authCheckHashIn bufs password stored =
      some (if Fips.digest (salt ++ cutPassword password) = hash then authOk else authErrBadpass) := by
  have hread := @readHexIn_eq _ _ [] _ rfl bufs.salt.2.symm stored
  have hread' := @readHexIn_eq _ _ [] _ rfl bufs.storedHash.2.symm p
  have hlen := length_readHex hhash
  have hcompare := @compareIn_eq (Fips.digest (salt ++ cutPassword password)) hash authHashSize 0 0
    ((length_digest _).trans (Nat.zero_add _).symm) (hlen.trans (Nat.zero_add _).symm)
  rw [hsalt] at hread
  rw [hhash] at hread'
  rw [List.drop_zero, List.drop_zero] at hcompare
  rw [List.nil_append, List.length_nil, Option.map_some, List.nil_append] at hread hread'
  simp only [authCheckHashIn, hread, hread', saltedDigestIn_eq (length_readHex hsalt), hcompare, Option.bind_eq_bind,
    Option.bind_some, List.headD_cons, List.tail_cons, ne_eq, not_true_eq_false, if_false]
  have hzero : List.foldl (· ||| ·) (0 : UInt8) (List.zipWith (· ^^^ ·) (Fips.digest (salt ++ cutPassword password)) hash) =
      0 ↔ Fips.digest (salt ++ cutPassword password) = hash := by
    rw [foldl_or_eq_zero, zipWith_xor_eq_zero ((length_digest _).trans hlen.symm)]
    exact and_iff_right rfl
  rw [if_congr hzero rfl rfl]

/-- **What is invalid** is what does not begin like a stored hash. -/
lemma authCheckHashIn_inval (password : CString) (stored : List UInt8) :
    ∃ r, authCheckHashIn bufs password stored = some r ∧ (r = authErrInval ↔ ¬ HashFormat stored) := by
  have hread := @readHexIn_eq _ _ [] _ rfl bufs.salt.2.symm stored
  rw [List.nil_append, List.length_nil] at hread
  cases hsalt : readHex authSaltSize stored with
  | none =>
    rw [hsalt] at hread
    refine ⟨authErrInval, by simp only [authCheckHashIn, hread, Option.map_none, Option.bind_eq_bind, Option.bind_some],
      iff_of_true rfl ?_⟩
    rintro ⟨p, rest, hbegin, -⟩
    obtain ⟨bytes, hbytes⟩ := (readHex_iff _ _ _).mpr hbegin
    rw [hsalt] at hbytes
    cases hbytes
  | some r =>
    obtain ⟨salt, p⟩ := r
    rw [hsalt] at hread
    by_cases hmark : p.headD 0 = 0x24
    · obtain ⟨p, rfl⟩ : ∃ p', p = 0x24 :: p' := by
        cases p with
        | nil => exact absurd hmark (by decide)
        | cons c p => exact ⟨p, congrArg (· :: p) hmark⟩
      have hread' := @readHexIn_eq _ _ [] _ rfl bufs.storedHash.2.symm p
      rw [List.nil_append, List.length_nil] at hread'
      cases hhash : readHex authHashSize p with
      | none =>
        rw [hhash] at hread'
        refine ⟨authErrInval, by simp only [authCheckHashIn, hread, hread', Option.map_some, Option.map_none,
          Option.bind_eq_bind, Option.bind_some, List.headD_cons, List.tail_cons, ne_eq, not_true_eq_false, if_false],
          iff_of_true rfl ?_⟩
        rintro ⟨p', rest, hbegin, hbegin'⟩
        obtain ⟨bytes, hbytes⟩ := (readHex_iff _ _ _).mpr hbegin
        obtain rfl : p = p' := by
          rw [hsalt] at hbytes
          exact (List.cons.inj (Prod.mk.inj (Option.some.inj hbytes)).2).2
        obtain ⟨bytes', hbytes'⟩ := (readHex_iff _ _ _).mpr hbegin'
        rw [hhash] at hbytes'
        cases hbytes'
      | some r =>
        obtain ⟨hash, rest⟩ := r
        refine ⟨_, authCheckHashIn_eq hsalt hhash, iff_of_false ?_ ?_⟩
        · split_ifs
          · decide
          · decide
        · exact not_not.mpr ⟨p, rest, (readHex_iff _ _ _).mp ⟨salt, hsalt⟩, (readHex_iff _ _ _).mp ⟨hash, hhash⟩⟩
    · refine ⟨authErrInval, by simp only [authCheckHashIn, hread, Option.map_some, Option.bind_eq_bind, Option.bind_some,
        ne_eq, hmark, not_false_eq_true, if_true], iff_of_true rfl ?_⟩
      rintro ⟨p', rest, hbegin, -⟩
      obtain ⟨bytes, hbytes⟩ := (readHex_iff _ _ _).mpr hbegin
      rw [hsalt] at hbytes
      exact hmark (by rw [(Prod.mk.inj (Option.some.inj hbytes)).2]; rfl)

/-! ## Hashing -/

/-- The string that is stored for a password. -/
def hashString (salt : List UInt8) (password : CString) : List UInt8 :=
  salt.flatMap byteToHex ++ 0x24 :: (Fips.digest (salt ++ cutPassword password)).flatMap byteToHex

lemma length_hex (bytes : List UInt8) : (bytes.flatMap byteToHex).length = 2 * bytes.length := by
  induction bytes with
  | nil => rfl
  | cons b bytes ih =>
    rw [List.flatMap_cons, List.length_append, ih, List.length_cons]
    change 2 + _ = _
    omega

lemma length_hashString {salt : List UInt8} (hsalt : salt.length = authSaltSize) (password : CString) :
    (hashString salt password).length + 1 = authHashStringSize := by
  rw [hashString, List.length_append, List.length_cons, length_hex, length_hex, hsalt, length_digest]
  rfl

lemma hashString_ne_zero {salt : List UInt8} {password : CString} : (0 : UInt8) ∉ hashString salt password := by
  have hdigits : ∀ bytes : List UInt8, (0 : UInt8) ∉ bytes.flatMap byteToHex := fun bytes hmem => by
    obtain ⟨b, -, hb⟩ := List.mem_flatMap.mp hmem
    have hsome := (hexToByte_isSome (hexChar (b >>> 4 &&& 0x0f)) (hexChar (b &&& 0x0f))).mp
      (by rw [hexToByte_hexChar]; rfl)
    rcases List.mem_cons.mp hb with h | h
    · exact not_hexDigit_zero (h ▸ hsome.1)
    · exact not_hexDigit_zero (List.mem_singleton.mp h ▸ hsome.2)
  rw [hashString, List.mem_append, List.mem_cons, not_or, not_or]
  exact ⟨hdigits _, by decide, hdigits _⟩

/-- **What `auth_hash_password` writes**: the string and its NUL, and nothing behind them. -/
lemma authHashPasswordIn_eq (q : CString) (random : UInt64) {out : List UInt8} (hout : authHashStringSize ≤ out.length) :
    authHashPasswordIn bufs q random out =
      some (hashString (generateSalt authSaltSize random).1 q ++ 0 :: out.drop authHashStringSize,
        (generateSalt authSaltSize random).2) := by
  have hsalt := generateSalt_length authSaltSize random
  unfold authHashPasswordIn
  generalize generateSalt authSaltSize random = r at hsalt ⊢
  obtain ⟨salt, random'⟩ := r
  dsimp only at hsalt ⊢
  have hfill : storeFrom bufs.salt.1 0 salt = some salt := by
    have hall : bufs.salt.1.drop salt.length = [] := List.drop_eq_nil_of_le (Nat.le_of_eq (bufs.salt.2.trans hsalt.symm))
    rw [storeFrom_zero (Nat.le_of_eq (hsalt.trans bufs.salt.2.symm)), hall, List.append_nil]
  have hbytes : (salt.flatMap byteToHex).length = authSaltSize * 2 := by rw [length_hex, hsalt, Nat.mul_comm]
  generalize hdigest : Fips.digest (salt ++ cutPassword q) = hash
  have hhash : (hash.flatMap byteToHex).length = authHashSize * 2 := by
    rw [length_hex, ← hdigest, length_digest, Nat.mul_comm]
  unfold authHashStringSize at hout ⊢
  obtain ⟨mark, rest, hrest⟩ := List.exists_cons_of_ne_nil (List.ne_nil_of_length_pos (show
    0 < (out.drop (authSaltSize * 2)).length by rw [List.length_drop]; omega))
  have hrestLen : rest.length + 1 + authSaltSize * 2 = out.length := by
    have hlen := congrArg List.length hrest
    rw [List.length_drop, List.length_cons] at hlen
    omega
  obtain ⟨nul, tail, htail⟩ := List.exists_cons_of_ne_nil (List.ne_nil_of_length_pos (show
    0 < (rest.drop (authHashSize * 2)).length by rw [List.length_drop]; omega))
  have hend : out.drop (authSaltSize * 2 + 1 + authHashSize * 2 + 1) = tail := by
    have hone := congrArg (List.drop 1) hrest
    rw [List.drop_drop, List.drop_succ_cons, List.drop_zero] at hone
    have htwo := congrArg (List.drop 1) htail
    rw [List.drop_drop, List.drop_succ_cons, List.drop_zero, ← hone, List.drop_drop] at htwo
    rw [← htwo, ← Nat.add_assoc]
  have hmark : authSaltSize * 2 + 1 = (salt.flatMap byteToHex ++ [(0x24 : UInt8)]).length := by
    rw [List.length_append, List.length_singleton, hbytes]
  have hlast : authSaltSize * 2 + 1 + authHashSize * 2 =
      (salt.flatMap byteToHex ++ [(0x24 : UInt8)] ++ hash.flatMap byteToHex).length := by
    rw [List.length_append, ← hmark, hhash]
  simp only [Option.bind_eq_bind, hfill, Option.bind_some, saltedDigestIn_eq hsalt, hdigest]
  rw [storeFrom_zero (by omega), Option.bind_some, hbytes, hrest, storeAt_append hbytes.symm, Option.bind_some,
    List.append_cons, storeFrom_append hmark (by omega), Option.bind_some, hhash, htail, storeAt_append hlast,
    Option.bind_some, hend, hashString, hdigest, ← List.append_cons]

/-- **Password hashes accept exactly the password.**  No buffer is indexed outside; the string that is
written takes up its size, and is accepted for the passwords with the same digest; what is no such string
is invalid. -/
theorem hashes_accept_exactly (bufs : HashBuffers) (q : CString) (random : UInt64)
    (out : { l : List UInt8 // authHashStringSize ≤ l.length }) :
    (∃ string : CString, authHashPasswordIn bufs q random out.1 =
        some (string.1 ++ 0 :: out.1.drop authHashStringSize, (generateSalt authSaltSize random).2) ∧
      string.1.length + 1 = authHashStringSize ∧
      ∀ p rest, authCheckHashIn bufs p (string.1 ++ rest) =
        some (if Fips.digest ((generateSalt authSaltSize random).1 ++ cutPassword p) =
            Fips.digest ((generateSalt authSaltSize random).1 ++ cutPassword q) then authOk
          else authErrBadpass)) ∧
      ∀ p stored, ∃ r, authCheckHashIn bufs p stored = some r ∧ (r = authErrInval ↔ ¬ HashFormat stored) := by
  refine ⟨?_, authCheckHashIn_inval⟩
  have hsalt := generateSalt_length authSaltSize random
  refine ⟨⟨hashString _ q, hashString_ne_zero⟩, authHashPasswordIn_eq q random out.2,
    length_hashString hsalt q, fun p rest => ?_⟩
  generalize (generateSalt authSaltSize random).1 = salt at hsalt
  have hread := readHex_byteToHex salt
    (0x24 :: ((Fips.digest (salt ++ cutPassword q)).flatMap byteToHex ++ rest))
  have hread' := readHex_byteToHex (Fips.digest (salt ++ cutPassword q)) rest
  rw [hsalt] at hread
  rw [length_digest] at hread'
  dsimp only
  rw [hashString, List.append_assoc, List.cons_append]
  exact authCheckHashIn_eq hread hread'

end AAAos
