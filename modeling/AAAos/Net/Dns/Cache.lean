import AAAos.Lib.CString
import AAAos.Lib.SlotTable
import Mathlib.Data.UInt

/-!
# The DNS cache

`net/dns/dns.c`: `dns_cache_lookup`, `dns_cache_add` and `dns_cache_clear`, with the comparison of names.

A name is a C string.  The time is what `dns_get_ticks` returns, once in a call.  Null pointers and the
printing are left out, and of the resolver everything but the cache.
-/

namespace AAAos

/-! ## Constants -/

/-- `DNS_MAX_NAME_LEN`. -/
def dnsMaxNameLen : Nat := 255

/-- `DNS_CACHE_SIZE`. -/
def dnsCacheSize : Nat := 32

/-- `DNS_MIN_TTL`. -/
def dnsMinTtl : UInt32 := 60

/-- `DNS_MAX_TTL`. -/
def dnsMaxTtl : UInt32 := 86400

def dnsOk : Int := 0
def dnsErrInvalidName : Int := -1
def dnsErrNotFound : Int := -7

/-! ## Names -/

/-- A character in lower case. -/
def dnsLower (c : UInt8) : UInt8 := if 65 ≤ c ∧ c ≤ 90 then c + 32 else c

/-- `dns_strcasecmp`.  A `char` is signed. -/
def dnsStrcasecmp : List UInt8 → List UInt8 → Int
  | a :: s, b :: t =>
    if dnsLower a ≠ dnsLower b then (dnsLower a).toInt8.toInt - (dnsLower b).toInt8.toInt
    else dnsStrcasecmp s t
  | s, t => (s.headD 0).toNat - (t.headD 0).toNat

/-! ## State -/

/-- `dns_cache_entry_t`. -/
structure DnsEntry where
  name : CString := .empty
  ip : UInt32 := 0
  ttl : UInt32 := 0
  timestamp : UInt64 := 0
  valid : Bool := false
deriving DecidableEq

structure Dns where
  cache : Fin dnsCacheSize → DnsEntry := fun _ => {}
  initialized : Bool := false

namespace DnsEntry

variable (e : DnsEntry) (now : UInt64) (hostname : CString)

/-- The entry is older than it may be. -/
def expired : Bool := e.ttl.toUInt64 < now - e.timestamp

def named : Bool := dnsStrcasecmp e.name.1 hostname.1 = 0

end DnsEntry

/-- The clamp of the time to live. -/
def clampTtl (ttl : UInt32) : UInt32 :=
  let ttl := if ttl < dnsMinTtl then dnsMinTtl else ttl
  if dnsMaxTtl < ttl then dnsMaxTtl else ttl

/-! ## Calls -/

/-- The loop of `dns_cache_lookup` over the slots that are left: the address that it finds, and the
cache, in which it invalidates what has expired. -/
def lookupFrom (now : UInt64) (hostname : CString) :
    List (Fin dnsCacheSize) → (Fin dnsCacheSize → DnsEntry) → Option UInt32 × (Fin dnsCacheSize → DnsEntry)
  | [], cache => (none, cache)
  | i :: rest, cache =>
    if (cache i).valid = false then lookupFrom now hostname rest cache
    else if (cache i).expired now then
      lookupFrom now hostname rest (Function.update cache i { cache i with valid := false })
    else if (cache i).named hostname then (some (cache i).ip, cache)
    else lookupFrom now hostname rest cache

/-- The loop of `dns_cache_add` that looks for a slot: the first one that is not valid, or else the
oldest. -/
def slotFrom (now : UInt64) (cache : Fin dnsCacheSize → DnsEntry) :
    List (Fin dnsCacheSize) → Fin dnsCacheSize → UInt64 → Fin dnsCacheSize
  | [], oldestIdx, _ => oldestIdx
  | i :: rest, oldestIdx, oldestAge =>
    if (cache i).valid = false then i
    else if oldestAge < now - (cache i).timestamp then
      slotFrom now cache rest i (now - (cache i).timestamp)
    else slotFrom now cache rest oldestIdx oldestAge

namespace Dns

variable (s : Dns) (now : UInt64) (hostname : CString)

/-- `dns_cache_clear`. -/
def dnsCacheClear : Dns :=
  { s with cache := fun i => { s.cache i with valid := false, name := .empty } }

/-- `dns_init`. -/
def dnsInit : Dns := { Dns.dnsCacheClear { s with cache := fun _ => {} } with initialized := true }

/-- `dns_cache_lookup`. -/
def dnsCacheLookup : Except Int UInt32 × Dns :=
  if s.initialized = false then (.error dnsErrInvalidName, s)
  else
    match lookupFrom now hostname (List.finRange dnsCacheSize) s.cache with
    | (some ip, cache) => (.ok ip, { s with cache := cache })
    | (none, cache) => (.error dnsErrNotFound, { s with cache := cache })

/-- The slot that has the name already. -/
def dnsCacheFind : Option (Fin dnsCacheSize) :=
  SlotTable.find s.cache fun e => e.valid && e.named hostname

/-- The slot that `dns_cache_add` takes for a new name. -/
def dnsCacheSlot : Fin dnsCacheSize :=
  slotFrom now s.cache (List.finRange dnsCacheSize) ⟨0, by decide⟩ 0

def setEntry (i : Fin dnsCacheSize) (e : DnsEntry) : Dns :=
  { s with cache := Function.update s.cache i e }

/-- `dns_cache_add`. -/
def dnsCacheAdd (ip ttl : UInt32) : Int × Dns :=
  if s.initialized = false then (dnsErrInvalidName, s)
  else if dnsMaxNameLen < hostname.1.length then (dnsErrInvalidName, s)
  else
    match s.dnsCacheFind hostname with
    | some i =>
      (dnsOk, s.setEntry i { s.cache i with ip := ip, ttl := clampTtl ttl, timestamp := now })
    | none =>
      (dnsOk, s.setEntry (s.dnsCacheSlot now)
        ⟨hostname.truncate dnsMaxNameLen, ip, clampTtl ttl, now, true⟩)

end Dns

end AAAos
