import AAAos.Lib.CString

/-!
# Password hashes

`security/auth/auth.c`: SHA-256, the salt, `auth_hash_password` and `auth_check_hash`.

A stored hash is 16 bytes of salt and the 32 bytes of the digest of the salt and the password, both in
hexadecimal digits, with a `$` between them.  At most 127 bytes of the password are hashed.  The buffer of
the SHA-256 context is the list of the bytes that it holds; what lies behind them is written before it is
read.

**What is proved.**  `auth_check_hash` accepts a password against each hash that `auth_hash_password`
makes of it, whatever the salt (`authCheckHash_hashPassword`).
-/

namespace AAAos

def authOk : Int := 0
def authErrExists : Int := -2
def authErrNoent : Int := -3
def authErrInval : Int := -4
def authErrPerm : Int := -5
def authErrBadpass : Int := -6
def authErrMaxusers : Int := -7
def authErrMaxsessions : Int := -8
def authErrMaxgroups : Int := -9
def authErrLocked : Int := -10

/-- `AUTH_SALT_SIZE`. -/
def authSaltSize : Nat := 16

/-- `AUTH_HASH_SIZE`. -/
def authHashSize : Nat := 32

/-- `AUTH_PASSWORD_MAX`. -/
def authPasswordMax : Nat := 128

/-! ## SHA-256 -/

namespace Sha256

/-- `sha256_k`. -/
def k : List UInt32 :=
  [0x428a2f98, 0x71374491, 0xb5c0fbcf, 0xe9b5dba5, 0x3956c25b, 0x59f111f1, 0x923f82a4, 0xab1c5ed5,
    0xd807aa98, 0x12835b01, 0x243185be, 0x550c7dc3, 0x72be5d74, 0x80deb1fe, 0x9bdc06a7, 0xc19bf174,
    0xe49b69c1, 0xefbe4786, 0x0fc19dc6, 0x240ca1cc, 0x2de92c6f, 0x4a7484aa, 0x5cb0a9dc, 0x76f988da,
    0x983e5152, 0xa831c66d, 0xb00327c8, 0xbf597fc7, 0xc6e00bf3, 0xd5a79147, 0x06ca6351, 0x14292967,
    0x27b70a85, 0x2e1b2138, 0x4d2c6dfc, 0x53380d13, 0x650a7354, 0x766a0abb, 0x81c2c92e, 0x92722c85,
    0xa2bfe8a1, 0xa81a664b, 0xc24b8b70, 0xc76c51a3, 0xd192e819, 0xd6990624, 0xf40e3585, 0x106aa070,
    0x19a4c116, 0x1e376c08, 0x2748774c, 0x34b0bcb5, 0x391c0cb3, 0x4ed8aa4a, 0x5b9cca4f, 0x682e6ff3,
    0x748f82ee, 0x78a5636f, 0x84c87814, 0x8cc70208, 0x90befffa, 0xa4506ceb, 0xbef9a3f7, 0xc67178f2]

def rotr (x n : UInt32) : UInt32 := (x >>> n) ||| (x <<< (32 - n))
def ch (x y z : UInt32) : UInt32 := (x &&& y) ^^^ (~~~x &&& z)
def maj (x y z : UInt32) : UInt32 := (x &&& y) ^^^ (x &&& z) ^^^ (y &&& z)
def sig0 (x : UInt32) : UInt32 := rotr x 2 ^^^ rotr x 13 ^^^ rotr x 22
def sig1 (x : UInt32) : UInt32 := rotr x 6 ^^^ rotr x 11 ^^^ rotr x 25
def gam0 (x : UInt32) : UInt32 := rotr x 7 ^^^ rotr x 18 ^^^ (x >>> 3)
def gam1 (x : UInt32) : UInt32 := rotr x 17 ^^^ rotr x 19 ^^^ (x >>> 10)

/-- `ctx->state`, and the working variables. -/
structure Words where
  a : UInt32 := 0x6a09e667
  b : UInt32 := 0xbb67ae85
  c : UInt32 := 0x3c6ef372
  d : UInt32 := 0xa54ff53a
  e : UInt32 := 0x510e527f
  f : UInt32 := 0x9b05688c
  g : UInt32 := 0x1f83d9ab
  h : UInt32 := 0x5be0cd19

/-- `sha256_ctx_t`. -/
structure Ctx where
  state : Words := {}
  bitlen : UInt64 := 0
  data : List UInt8 := []

/-- A word of the block. -/
def blockWord (data : List UInt8) (i : Nat) : UInt32 :=
  ((data.getD (i * 4) 0).toUInt32 <<< 24) ||| ((data.getD (i * 4 + 1) 0).toUInt32 <<< 16) |||
    ((data.getD (i * 4 + 2) 0).toUInt32 <<< 8) ||| (data.getD (i * 4 + 3) 0).toUInt32

/-- The words of the schedule from word `i` on, behind those in `w`. -/
def schedule : Nat → Nat → List UInt32 → List UInt32
  | 0, _, w => w
  | n + 1, i, w =>
    schedule n (i + 1)
      (w ++ [gam1 (w.getD (i - 2) 0) + w.getD (i - 7) 0 + gam0 (w.getD (i - 15) 0) + w.getD (i - 16) 0])

/-- A round of the main loop, with its constant and its word. -/
def round (s : Words) (x : UInt32 × UInt32) : Words :=
  let t1 := s.h + sig1 s.e + ch s.e s.f s.g + x.1 + x.2
  let t2 := sig0 s.a + maj s.a s.b s.c
  ⟨t1 + t2, s.a, s.b, s.c, s.d + t1, s.e, s.f, s.g⟩

/-- `sha256_transform`. -/
def transform (state : Words) (data : List UInt8) : Words :=
  let w := schedule 48 16 ((List.range 16).map (blockWord data))
  let s := (k.zip w).foldl round state
  ⟨state.a + s.a, state.b + s.b, state.c + s.c, state.d + s.d, state.e + s.e, state.f + s.f,
    state.g + s.g, state.h + s.h⟩

/-- A byte in `sha256_update`. -/
def updateByte (ctx : Ctx) (byte : UInt8) : Ctx :=
  let data := ctx.data ++ [byte]
  if data.length = 64 then
    { state := transform ctx.state data, bitlen := ctx.bitlen + 512, data := [] }
  else { ctx with data := data }

/-- `sha256_update`. -/
def update (ctx : Ctx) (data : List UInt8) : Ctx := data.foldl updateByte ctx

/-- The bytes of a word, the highest first. -/
def wordBytesBe (x : UInt32) : List UInt8 :=
  [(x >>> 24).toUInt8, (x >>> 16).toUInt8, (x >>> 8).toUInt8, x.toUInt8]

/-- The message length, in the last eight bytes of the block. -/
def lengthBytes (bitlen : UInt64) : List UInt8 :=
  [(bitlen >>> 56).toUInt8, (bitlen >>> 48).toUInt8, (bitlen >>> 40).toUInt8, (bitlen >>> 32).toUInt8,
    (bitlen >>> 24).toUInt8, (bitlen >>> 16).toUInt8, (bitlen >>> 8).toUInt8, bitlen.toUInt8]

/-- `sha256_final`. -/
def final (ctx : Ctx) : List UInt8 :=
  let len := ctx.data.length
  let bitlen := ctx.bitlen + UInt64.ofNat (len * 8)
  let state :=
    if len < 56 then
      transform ctx.state
        (ctx.data ++ 0x80 :: List.replicate (55 - len) 0 ++ lengthBytes bitlen)
    else
      transform (transform ctx.state (ctx.data ++ 0x80 :: List.replicate (63 - len) 0))
        (List.replicate 56 0 ++ lengthBytes bitlen)
  [state.a, state.b, state.c, state.d, state.e, state.f, state.g, state.h].flatMap wordBytesBe

/-- The digest of some bytes. -/
def digest (data : List UInt8) : List UInt8 := final (update {} data)

lemma digest_length (data : List UInt8) : (digest data).length = authHashSize := rfl

end Sha256

/-! ## Salts -/

/-- `random_next`: the number, which is the next state. -/
def randomNext (x : UInt64) : UInt64 :=
  let x := x ^^^ (x <<< 13)
  let x := x ^^^ (x >>> 7)
  x ^^^ (x <<< 17)

/-- `generate_salt`. -/
def generateSalt : Nat → UInt64 → List UInt8 × UInt64
  | 0, x => ([], x)
  | n + 1, x =>
    let r := generateSalt n (randomNext x)
    ((randomNext x &&& 0xff).toUInt8 :: r.1, r.2)

lemma generateSalt_length (n : Nat) (x : UInt64) : (generateSalt n x).1.length = n := by
  induction n generalizing x with
  | zero => rfl
  | succ n ih => exact congrArg (· + 1) (ih (randomNext x))

/-! ## Hexadecimal digits -/

/-- An entry of `hex_chars`. -/
def hexChar (nibble : UInt8) : UInt8 := if nibble < 10 then 48 + nibble else 87 + nibble

/-- `byte_to_hex`. -/
def byteToHex (byte : UInt8) : List UInt8 := [hexChar (byte >>> 4 &&& 0x0f), hexChar (byte &&& 0x0f)]

/-- `hex_to_nibble`.  The characters above 127, which are negative, are in none of the ranges. -/
def hexToNibble (c : UInt8) : Option UInt8 :=
  if 48 ≤ c ∧ c ≤ 57 then some (c - 48)
  else if 97 ≤ c ∧ c ≤ 102 then some (c - 97 + 10)
  else if 65 ≤ c ∧ c ≤ 70 then some (c - 65 + 10)
  else none

/-- `hex_to_byte`. -/
def hexToByte (hi lo : UInt8) : Option UInt8 := do
  let hi ← hexToNibble hi
  let lo ← hexToNibble lo
  return (hi <<< 4) ||| lo

/-- The loop that reads `n` bytes, and what is behind their digits. -/
def readHex : Nat → List UInt8 → Option (List UInt8 × List UInt8)
  | 0, p => some ([], p)
  | n + 1, p => do
    let byte ← hexToByte (p.headD 0) (p.tail.headD 0)
    let r ← readHex n p.tail.tail
    return (byte :: r.1, r.2)

lemma hexToByte_hexChar (byte : UInt8) :
    hexToByte (hexChar (byte >>> 4 &&& 0x0f)) (hexChar (byte &&& 0x0f)) = some byte := by
  have hall : ∀ n < 256, hexToByte (hexChar (UInt8.ofNat n >>> 4 &&& 0x0f))
      (hexChar (UInt8.ofNat n &&& 0x0f)) = some (UInt8.ofNat n) := by
    set_option maxRecDepth 8192 in decide
  simpa using hall byte.toNat byte.toNat_lt

lemma readHex_byteToHex (bytes rest : List UInt8) :
    readHex bytes.length (bytes.flatMap byteToHex ++ rest) = some (bytes, rest) := by
  induction bytes with
  | nil => rfl
  | cons byte bytes ih =>
    change (do
      let b ← hexToByte (hexChar (byte >>> 4 &&& 0x0f)) (hexChar (byte &&& 0x0f))
      let r ← readHex bytes.length (bytes.flatMap byteToHex ++ rest)
      return (b :: r.1, r.2)) = _
    rw [hexToByte_hexChar, ih]
    rfl

/-! ## Stored hashes -/

/-- The digest of the salt and the password. -/
def saltedDigest (salt : List UInt8) (password : CString) : List UInt8 :=
  Sha256.digest (salt ++ password.1.take (authPasswordMax - 1))

/-- `auth_hash_password`: the stored hash, and the state of the random numbers. -/
def authHashPassword (password : CString) (random : UInt64) : List UInt8 × UInt64 :=
  let r := generateSalt authSaltSize random
  (r.1.flatMap byteToHex ++ 0x24 :: (saltedDigest r.1 password).flatMap byteToHex, r.2)

/-- `auth_check_hash`. -/
def authCheckHash (password : CString) (stored : List UInt8) : Int :=
  match readHex authSaltSize stored with
  | none => authErrInval
  | some (salt, p) =>
    if p.headD 0 ≠ 0x24 then authErrInval
    else
      match readHex authHashSize p.tail with
      | none => authErrInval
      | some (hash, _) =>
        if (List.zipWith (· ^^^ ·) (saltedDigest salt password) hash).foldl (· ||| ·) 0 = 0 then authOk
        else authErrBadpass

lemma foldl_xor_self (hash : List UInt8) : (List.zipWith (· ^^^ ·) hash hash).foldl (· ||| ·) (0 : UInt8) = 0 := by
  induction hash with
  | nil => rfl
  | cons byte hash ih =>
    rw [List.zipWith_cons_cons, List.foldl_cons, UInt8.xor_self]
    exact ih

/-- **A hash accepts the password it was made of.** -/
theorem authCheckHash_hashPassword (password : CString) (random : UInt64) :
    authCheckHash password (authHashPassword password random).1 = authOk := by
  have hsalt := readHex_byteToHex (generateSalt authSaltSize random).1
    (0x24 :: (saltedDigest (generateSalt authSaltSize random).1 password).flatMap byteToHex)
  rw [generateSalt_length] at hsalt
  have hhash := readHex_byteToHex (saltedDigest (generateSalt authSaltSize random).1 password) []
  rw [saltedDigest, Sha256.digest_length, List.append_nil] at hhash
  unfold authCheckHash authHashPassword
  dsimp only
  rw [hsalt]
  dsimp only
  rw [if_neg (by simp), List.tail_cons, saltedDigest, hhash]
  dsimp only
  rw [if_pos (foldl_xor_self _)]

end AAAos
