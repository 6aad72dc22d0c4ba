import AAAos.Lib.Trace
import AAAos.Net.Dns.Cache

/-!
# The DNS cache as a map

What the cache is for: a map from names, up to the case of their letters, to addresses that hold for a
time.  An entry leaves the table late, when a lookup comes across it or when its slot is taken, and a
lookup stops at the name it looks for.  Whether an expired entry is still there does not matter: the time
does not go back, so what has expired is never answered again.

**What is proved.**  In every run from `dns_init` in which the time does not go back, no two valid
entries have the same name, a lookup answers what was added last for the name as long as its clamped time
to live has not passed and it was not evicted, and an addition to a full table evicts the oldest entry
and nothing else (`cached_of_steps`).
-/

namespace AAAos

/-! ## Names -/

/-- A name up to the case of its letters. -/
def CString.fold (s : CString) : List UInt8 := s.1.map dnsLower

lemma dnsStrcasecmp_eq_zero {s t : List UInt8} (hs : (0 : UInt8) ∉ s) (ht : (0 : UInt8) ∉ t) :
    dnsStrcasecmp s t = 0 ↔ s.map dnsLower = t.map dnsLower := by
  induction s generalizing t with
  | nil =>
    cases t with
    | nil => exact ⟨fun _ => rfl, fun _ => rfl⟩
    | cons b t =>
      have hb : b.toNat ≠ 0 := fun hzero =>
        ht (List.mem_cons.mpr (.inl (UInt8.toNat_inj.mp hzero.symm)))
      simp [dnsStrcasecmp, hb]
  | cons a s ih =>
    cases t with
    | nil =>
      have ha : a.toNat ≠ 0 := fun hzero =>
        hs (List.mem_cons.mpr (.inl (UInt8.toNat_inj.mp hzero.symm)))
      simp [dnsStrcasecmp, ha]
    | cons b t =>
      have hrest := ih (t := t) (fun h => hs (List.mem_cons_of_mem a h))
        (fun h => ht (List.mem_cons_of_mem b h))
      unfold dnsStrcasecmp
      by_cases hab : dnsLower a = dnsLower b
      · rw [if_neg (not_not_intro hab), hrest]
        simp [hab]
      · rw [if_pos hab]
        have hdiff : (dnsLower a).toInt8.toInt - (dnsLower b).toInt8.toInt ≠ 0 := by
          intro hzero
          have hsame := Int8.toInt_inj.mp (Int.eq_of_sub_eq_zero hzero)
          exact hab (by simpa using congrArg Int8.toUInt8 hsame)
        simp [hdiff, hab]

lemma DnsEntry.named_iff {e : DnsEntry} {hostname : CString} :
    e.named hostname = true ↔ e.name.fold = hostname.fold := by
  unfold named CString.fold
  rw [decide_eq_true_eq, dnsStrcasecmp_eq_zero e.name.2 hostname.2]

/-! ## Looking up -/

/-- The entry may still be answered. -/
def DnsEntry.Fresh (e : DnsEntry) (now : UInt64) : Prop :=
  e.valid = true ∧ e.expired now = false

/-- What a lookup does to an entry. -/
def DnsEntry.Dropped (now : UInt64) (e e' : DnsEntry) : Prop :=
  e' = e ∨ e.valid = true ∧ e.expired now = true ∧ e' = { e with valid := false }

/-- **The loop of a lookup**: it drops only what has expired, and finds a fresh entry of the name if
there is one. -/
lemma lookupFrom_spec (now : UInt64) (hostname : CString) (l : List (Fin dnsCacheSize))
    (cache : Fin dnsCacheSize → DnsEntry) :
    (∀ i, (cache i).Dropped now ((lookupFrom now hostname l cache).2 i)) ∧
      (∀ ip, (lookupFrom now hostname l cache).1 = some ip →
        ∃ i, (cache i).Fresh now ∧ (cache i).named hostname = true ∧ (cache i).ip = ip) ∧
      ((lookupFrom now hostname l cache).1 = none →
        ∀ i ∈ l, (cache i).Fresh now → (cache i).named hostname = false) := by
  induction l generalizing cache with
  | nil => exact ⟨fun i => .inl rfl, by simp [lookupFrom], by simp⟩
  | cons j rest ih =>
    unfold lookupFrom
    by_cases hvalid : (cache j).valid = false
    · rw [if_pos hvalid]
      obtain ⟨hdrop, hfound, hmiss⟩ := ih cache
      refine ⟨hdrop, hfound, fun hnone i hi hfresh => ?_⟩
      rcases List.mem_cons.mp hi with rfl | hi
      · exact absurd (hfresh.1.symm.trans hvalid) (by decide)
      · exact hmiss hnone i hi hfresh
    rw [if_neg hvalid]
    by_cases hexpired : (cache j).expired now = true
    · rw [if_pos hexpired]
      obtain ⟨hdrop, hfound, hmiss⟩ := ih (Function.update cache j { cache j with valid := false })
      refine ⟨fun i => ?_, fun ip hip => ?_, fun hnone i hi hfresh => ?_⟩
      · by_cases hij : i = j
        · subst hij
          have hnow := hdrop i
          rw [Function.update_self] at hnow
          rcases hnow with heq | ⟨hnot, -⟩
          · exact .inr ⟨by simpa using hvalid, hexpired, heq⟩
          · exact Bool.noConfusion hnot
        · have hnow := hdrop i
          rw [Function.update_of_ne hij] at hnow
          exact hnow
      · obtain ⟨i, hfresh, hnamed, heq⟩ := hfound ip hip
        by_cases hij : i = j
        · subst hij
          rw [Function.update_self] at hfresh
          exact Bool.noConfusion hfresh.1
        · rw [Function.update_of_ne hij] at hfresh hnamed heq
          exact ⟨i, hfresh, hnamed, heq⟩
      · by_cases hij : i = j
        · subst hij
          exact absurd (hexpired.symm.trans hfresh.2) (by decide)
        · have hnamed := hmiss hnone i ((List.mem_cons.mp hi).resolve_left hij)
          rw [Function.update_of_ne hij] at hnamed
          exact hnamed hfresh
    rw [if_neg hexpired]
    have hjfresh : (cache j).Fresh now := ⟨by simpa using hvalid, by simpa using hexpired⟩
    by_cases hnamed : (cache j).named hostname = true
    · rw [if_pos hnamed]
      exact ⟨fun i => .inl rfl, fun ip hip => ⟨j, hjfresh, hnamed, Option.some.inj hip⟩, by simp⟩
    · rw [if_neg hnamed]
      obtain ⟨hdrop, hfound, hmiss⟩ := ih cache
      refine ⟨hdrop, hfound, fun hnone i hi hfresh => ?_⟩
      rcases List.mem_cons.mp hi with rfl | hi
      · simpa using hnamed
      · exact hmiss hnone i hi hfresh

/-! ## Taking a slot -/

/-- **The loop that looks for a slot** finds one that is not valid, or the oldest. -/
lemma slotFrom_spec (now : UInt64) (cache : Fin dnsCacheSize → DnsEntry)
    (l : List (Fin dnsCacheSize)) (best : Fin dnsCacheSize) (age : UInt64)
    (hage : age ≤ now - (cache best).timestamp) :
    (cache (slotFrom now cache l best age)).valid = false ∨ (∀ i ∈ l, (cache i).valid = true ∧
        now - (cache i).timestamp ≤ now - (cache (slotFrom now cache l best age)).timestamp) ∧
      age ≤ now - (cache (slotFrom now cache l best age)).timestamp := by
  induction l generalizing best age with
  | nil => exact .inr ⟨fun i hi => absurd hi List.not_mem_nil, hage⟩
  | cons j rest ih =>
    unfold slotFrom
    by_cases hvalid : (cache j).valid = false
    · rw [if_pos hvalid]
      exact .inl hvalid
    rw [if_neg hvalid]
    by_cases holder : age < now - (cache j).timestamp
    · rw [if_pos holder]
      refine (ih j (now - (cache j).timestamp) (UInt64.le_refl _)).imp_right fun ⟨hrest, hj⟩ =>
        ⟨fun i hi => ?_, UInt64.le_trans (UInt64.le_of_lt holder) hj⟩
      rcases List.mem_cons.mp hi with rfl | hi
      · exact ⟨by simpa using hvalid, hj⟩
      · exact hrest i hi
    · rw [if_neg holder]
      refine (ih best age hage).imp_right fun ⟨hrest, hbest⟩ => ⟨fun i hi => ?_, hbest⟩
      rcases List.mem_cons.mp hi with rfl | hi
      · exact ⟨by simpa using hvalid, UInt64.le_trans (UInt64.not_lt.mp holder) hbest⟩
      · exact hrest i hi

namespace Dns

variable {s : Dns} {now : UInt64} {hostname : CString} {i : Fin dnsCacheSize}

lemma dnsCacheSlot_cases (s : Dns) (now : UInt64) : (s.cache (s.dnsCacheSlot now)).valid = false ∨
      ∀ i, (s.cache i).valid = true ∧ now - (s.cache i).timestamp ≤ now - (s.cache (s.dnsCacheSlot now)).timestamp :=
  (slotFrom_spec now s.cache (List.finRange dnsCacheSize) ⟨0, by decide⟩ 0
    (UInt64.le_iff_toNat_le.mpr (Nat.zero_le _))).imp_right
      fun h i => h.1 i (List.mem_finRange i)

/-- No two valid entries have the same name. -/
def Distinct (s : Dns) : Prop :=
  SlotTable.Distinct DnsEntry.valid (fun e => e.name.fold) s.cache

/-- The name that loses its slot when an address is added for another one. -/
def evicted (s : Dns) (now : UInt64) (hostname : CString) : Option (List UInt8) :=
  if s.dnsCacheFind hostname = none ∧ (s.cache (s.dnsCacheSlot now)).valid = true then
    some (s.cache (s.dnsCacheSlot now)).name.fold
  else none

lemma dnsCacheFind_some (h : s.dnsCacheFind hostname = some i) :
    (s.cache i).valid = true ∧ (s.cache i).name.fold = hostname.fold := by
  have hspec := SlotTable.find_spec h
  simp only [Bool.and_eq_true] at hspec
  exact ⟨hspec.1, DnsEntry.named_iff.mp hspec.2⟩

lemma ne_of_dnsCacheFind_none (h : s.dnsCacheFind hostname = none) (hi : (s.cache i).valid = true) :
    (s.cache i).name.fold ≠ hostname.fold := by
  intro hname
  have hmiss := SlotTable.find_eq_none.mp h i
  rw [hi, DnsEntry.named_iff.mpr hname] at hmiss
  exact absurd hmiss (by decide)

end Dns

/-! ## Runs -/

/-- What was added for a name. -/
structure DnsRecord where
  ip : UInt32
  ttl : UInt32
  time : UInt64

/-- The record still holds. -/
def DnsRecord.Holds (r : DnsRecord) (now : UInt64) : Prop := now.toNat ≤ r.time.toNat + r.ttl.toNat

instance (r : DnsRecord) (now : UInt64) : Decidable (r.Holds now) := inferInstanceAs (Decidable (_ ≤ _))

/-- What is called. -/
inductive DnsCall
  | lookup (hostname : CString)
  | add (hostname : CString) (ip ttl : UInt32)
  | clear

/-- The cache, the time of the last call, and what was added last for each name, if it was not evicted
or cleared since. -/
structure DnsRun where
  dns : Dns
  now : UInt64 := 0
  record : List UInt8 → Option DnsRecord := fun _ => none

namespace DnsRun

open Dns

variable {m m' : DnsRun} {s : Dns} {now : UInt64} {hostname : CString}

/-- The record without the name that is evicted for another one. -/
def forget (m : DnsRun) (now : UInt64) (hostname : CString) : List UInt8 → Option DnsRecord :=
  match m.dns.evicted now hostname with
  | none => m.record
  | some old => Function.update m.record old none

def apply (m : DnsRun) (e : UInt64 × DnsCall) : DnsRun :=
  match e.2 with
  | .lookup hostname => { m with dns := (m.dns.dnsCacheLookup e.1 hostname).2, now := e.1 }
  | .add hostname ip ttl =>
    { dns := (m.dns.dnsCacheAdd e.1 hostname ip ttl).2
      now := e.1
      record := if (m.dns.dnsCacheAdd e.1 hostname ip ttl).1 = dnsOk then
        Function.update (m.forget e.1 hostname) hostname.fold (some ⟨ip, clampTtl ttl, e.1⟩)
        else m.record }
  | .clear => { dns := m.dns.dnsCacheClear, now := e.1 }

/-- The time does not go back. -/
def Step (m : DnsRun) (e : UInt64 × DnsCall) (m' : DnsRun) : Prop := m.now ≤ e.1 ∧ m' = m.apply e

/-- What the map says about a name. -/
def expected (m : DnsRun) (now : UInt64) (hostname : CString) : Except Int UInt32 :=
  match m.record hostname.fold with
  | some r => if r.Holds now then .ok r.ip else .error dnsErrNotFound
  | none => .error dnsErrNotFound

/-- An addition of a name that is not there to a full table replaces an oldest entry, and nothing
else. -/
def EvictsOldest (s : Dns) (now : UInt64) : Prop :=
  ∀ hostname ip ttl, (∀ i, (s.cache i).valid = true) → s.dnsCacheFind hostname = none →
    hostname.1.length ≤ dnsMaxNameLen → ∃ i, (∀ j, (s.cache i).timestamp ≤ (s.cache j).timestamp) ∧
        (s.dnsCacheAdd now hostname ip ttl).2.cache =
          Function.update s.cache i ⟨hostname, ip, clampTtl ttl, now, true⟩

/-- **The cache is a bounded map.** -/
structure Coherent (m : DnsRun) : Prop where
  unique : ∀ i j, (m.dns.cache i).valid = true → (m.dns.cache j).valid = true →
    (m.dns.cache i).name.fold = (m.dns.cache j).name.fold → i = j
  answers : ∀ now hostname, m.now ≤ now → (m.dns.dnsCacheLookup now hostname).1 = m.expected now hostname
  evicts : ∀ now, m.now ≤ now → EvictsOldest m.dns now

structure Sound (m : DnsRun) : Prop where
  initialized : m.dns.initialized = true
  distinct : m.dns.Distinct
  entries : ∀ i, (m.dns.cache i).valid = true → m.record (m.dns.cache i).name.fold =
      some ⟨(m.dns.cache i).ip, (m.dns.cache i).ttl, (m.dns.cache i).timestamp⟩
  records : ∀ name r, m.record name = some r → r.time ≤ m.now ∧
    ((∃ i, (m.dns.cache i).valid = true ∧ (m.dns.cache i).name.fold = name) ∨ ¬ r.Holds m.now)

lemma Sound.time_le (h : m.Sound) {i : Fin dnsCacheSize} (hi : (m.dns.cache i).valid = true) :
    (m.dns.cache i).timestamp ≤ m.now := (h.records _ _ (h.entries i hi)).1

lemma expired_iff {e : DnsEntry} (h : e.timestamp ≤ now) :
    e.expired now = false ↔ DnsRecord.Holds ⟨e.ip, e.ttl, e.timestamp⟩ now := by
  unfold DnsEntry.expired DnsRecord.Holds
  rw [decide_eq_false_iff_not, UInt64.not_lt, UInt64.le_iff_toNat_le, UInt64.toNat_sub_of_le _ _ h,
    UInt32.toNat_toUInt64]
  dsimp only
  omega

lemma Holds_mono {r : DnsRecord} {now' : UInt64} (h : now ≤ now') (hnot : ¬ r.Holds now) : ¬ r.Holds now' := by
  have hle := UInt64.le_iff_toNat_le.mp h
  unfold DnsRecord.Holds at hnot ⊢
  omega

/-- **What a lookup answers.** -/
lemma Sound.answers (h : m.Sound) (hnow : m.now ≤ now) (hostname : CString) :
    (m.dns.dnsCacheLookup now hostname).1 = m.expected now hostname := by
  obtain ⟨-, hfound, hmiss⟩ := lookupFrom_spec now hostname (List.finRange dnsCacheSize) m.dns.cache
  unfold dnsCacheLookup
  rw [if_neg (by rw [h.initialized]; decide)]
  generalize lookupFrom now hostname (List.finRange dnsCacheSize) m.dns.cache = answer
    at hfound hmiss ⊢
  obtain ⟨ip, cache⟩ := answer
  unfold expected
  cases ip with
  | some ip =>
    obtain ⟨i, ⟨hvalid, hexpired⟩, hnamed, rfl⟩ := hfound ip rfl
    have hholds := (expired_iff (UInt64.le_trans (h.time_le hvalid) hnow)).mp hexpired
    rw [← DnsEntry.named_iff.mp hnamed, h.entries i hvalid]
    dsimp only
    rw [if_pos hholds]
  | none =>
    cases hrecord : m.record hostname.fold with
    | none => rfl
    | some r =>
      dsimp only
      rw [if_neg]
      rcases (h.records _ _ hrecord).2 with ⟨i, hvalid, hname⟩ | hnot
      · intro hholds
        have hr := h.entries i hvalid
        rw [hname, hrecord] at hr
        have hfresh : (m.dns.cache i).expired now = false := by
          rw [expired_iff (UInt64.le_trans (h.time_le hvalid) hnow)]
          exact Option.some.inj hr ▸ hholds
        have hnamed := hmiss rfl i (List.mem_finRange i) ⟨hvalid, hfresh⟩
        exact absurd (hnamed.symm.trans (DnsEntry.named_iff.mpr hname)) (by decide)
      · exact Holds_mono hnow hnot

/-- **What an addition evicts.** -/
lemma Sound.evicts (h : m.Sound) (hnow : m.now ≤ now) : EvictsOldest m.dns now := by
  intro hostname ip ttl hfull hmiss hlen
  refine ⟨m.dns.dnsCacheSlot now, fun j => ?_, ?_⟩
  · have hslot := hfull (m.dns.dnsCacheSlot now)
    rcases dnsCacheSlot_cases m.dns now with hfree | hold
    · exact absurd (hslot.symm.trans hfree) (by decide)
    · have hage := UInt64.le_iff_toNat_le.mp (hold j).2
      have hj := UInt64.le_trans (h.time_le (hfull j)) hnow
      have hi := UInt64.le_trans (h.time_le hslot) hnow
      rw [UInt64.toNat_sub_of_le _ _ hj, UInt64.toNat_sub_of_le _ _ hi] at hage
      have hinat := UInt64.le_iff_toNat_le.mp hi
      exact UInt64.le_iff_toNat_le.mpr (by omega)
  · unfold dnsCacheAdd
    rw [if_neg (by rw [h.initialized]; decide), if_neg (by omega), hmiss]
    dsimp only
    rw [CString.truncate_of_le hlen]
    rfl

/-- **Time passes**, and entries that have expired are dropped. -/
lemma Sound.drop (h : m.Sound) (hnow : m.now ≤ now) {cache : Fin dnsCacheSize → DnsEntry}
    (hdrop : ∀ i, (m.dns.cache i).Dropped now (cache i)) :
    Sound { m with dns := { m.dns with cache := cache }, now := now } := by
  have hkept : ∀ i, (cache i).valid = true → cache i = m.dns.cache i := by
    intro i hi
    rcases hdrop i with heq | ⟨-, -, heq⟩
    · exact heq
    · rw [heq] at hi
      exact Bool.noConfusion hi
  refine ⟨h.initialized, h.distinct.mono fun i hi => ?_, fun i hi => ?_, fun name r hr => ?_⟩
  · have heq := hkept i hi
    exact ⟨by rw [← heq]; exact hi, congrArg (fun e : DnsEntry => e.name.fold) heq⟩
  · have heq := hkept i hi
    dsimp only at hi ⊢
    rw [heq] at hi ⊢
    exact h.entries i hi
  · obtain ⟨htime, hrest⟩ := h.records name r hr
    refine ⟨UInt64.le_trans htime hnow, ?_⟩
    rcases hrest with ⟨i, hvalid, hname⟩ | hnot
    · rcases hdrop i with heq | ⟨-, hexpired, -⟩
      · refine .inl ⟨i, ?_⟩
        dsimp only
        rw [heq]
        exact ⟨hvalid, hname⟩
      · refine .inr fun hholds => ?_
        have hentry := h.entries i hvalid
        rw [hname] at hentry
        obtain rfl := Option.some.inj (hr.symm.trans hentry)
        have hfresh := (expired_iff (UInt64.le_trans (h.time_le hvalid) hnow)).mpr hholds
        exact absurd (hexpired.symm.trans hfresh) (by decide)
    · exact .inr (Holds_mono hnow hnot)

/-- **A slot is written** for a name. -/
lemma Sound.write (h : m.Sound) (hnow : m.now ≤ now) {i : Fin dnsCacheSize} {e : DnsEntry}
    {record : List UInt8 → Option DnsRecord} (hvalid : e.valid = true) (htime : e.timestamp = now)
    (hentry : record e.name.fold = some ⟨e.ip, e.ttl, e.timestamp⟩)
    (hother : ∀ j, j ≠ i → (m.dns.cache j).valid = true → (m.dns.cache j).name.fold ≠ e.name.fold ∧
        record (m.dns.cache j).name.fold = m.record (m.dns.cache j).name.fold)
    (hgone : ∀ name, name ≠ e.name.fold → record name = none ∨ record name = m.record name ∧
      ¬ ((m.dns.cache i).valid = true ∧ (m.dns.cache i).name.fold = name)) :
    Sound { dns := m.dns.setEntry i e, now := now, record := record } := by
  refine ⟨h.initialized, h.distinct.put fun _ j hj hused => (hother j hj hused).1,
    fun j hj => ?_, fun name r hr => ?_⟩
  · change (Function.update m.dns.cache i e j).valid = true at hj
    change record (Function.update m.dns.cache i e j).name.fold = some
      ⟨(Function.update m.dns.cache i e j).ip, (Function.update m.dns.cache i e j).ttl,
        (Function.update m.dns.cache i e j).timestamp⟩
    by_cases hji : j = i
    · rw [hji, Function.update_self]
      exact hentry
    · rw [Function.update_of_ne hji] at hj ⊢
      rw [(hother j hji hj).2]
      exact h.entries j hj
  · change record name = some r at hr
    change r.time ≤ now ∧ ((∃ j, (Function.update m.dns.cache i e j).valid = true ∧
      (Function.update m.dns.cache i e j).name.fold = name) ∨ ¬ r.Holds now)
    by_cases hname : name = e.name.fold
    · rw [hname, hentry] at hr
      obtain rfl := Option.some.inj hr
      refine ⟨UInt64.le_of_eq htime, .inl ⟨i, ?_⟩⟩
      rw [Function.update_self]
      exact ⟨hvalid, hname.symm⟩
    · rcases hgone name hname with hnone | ⟨hsame, hnot⟩
      · exact absurd (hnone.symm.trans hr) (Option.some_ne_none r).symm
      · obtain ⟨hle, hrest⟩ := h.records name r (hsame.symm.trans hr)
        refine ⟨UInt64.le_trans hle hnow, ?_⟩
        rcases hrest with ⟨j, hj, hjname⟩ | hpast
        · have hji : j ≠ i := fun heq => hnot (heq ▸ ⟨hj, hjname⟩)
          refine .inl ⟨j, ?_⟩
          rw [Function.update_of_ne hji]
          exact ⟨hj, hjname⟩
        · exact .inr (Holds_mono hnow hpast)

/-- **A lookup.** -/
lemma sound_lookup (h : m.Sound) (hnow : m.now ≤ now) (hostname : CString) :
    (m.apply (now, .lookup hostname)).Sound := by
  obtain ⟨hdrop, -, -⟩ := lookupFrom_spec now hostname (List.finRange dnsCacheSize) m.dns.cache
  unfold apply dnsCacheLookup
  dsimp only
  rw [if_neg (by rw [h.initialized]; decide)]
  generalize lookupFrom now hostname (List.finRange dnsCacheSize) m.dns.cache = answer at hdrop ⊢
  obtain ⟨ip, cache⟩ := answer
  cases ip with
  | some ip => exact h.drop hnow hdrop
  | none => exact h.drop hnow hdrop

/-- **An addition.** -/
lemma sound_add (h : m.Sound) (hnow : m.now ≤ now) (hostname : CString) (ip ttl : UInt32) :
    (m.apply (now, .add hostname ip ttl)).Sound := by
  unfold apply dnsCacheAdd
  dsimp only
  rw [if_neg (by rw [h.initialized]; decide)]
  by_cases hlen : dnsMaxNameLen < hostname.1.length
  · rw [if_pos hlen]
    exact h.drop hnow fun i => .inl rfl
  rw [if_neg hlen]
  cases hfind : m.dns.dnsCacheFind hostname with
  | some i =>
    obtain ⟨hvalid, hname⟩ := dnsCacheFind_some hfind
    have hforget : m.forget now hostname = m.record := by
      unfold forget evicted
      rw [if_neg (by simp [hfind])]
    dsimp only
    rw [if_pos rfl, hforget]
    refine h.write hnow hvalid rfl ?_ (fun j hj hused => ?_) fun name hne => ?_
    · dsimp only
      rw [hname, Function.update_self]
    · have hne : (m.dns.cache j).name.fold ≠ (m.dns.cache i).name.fold := fun heq =>
        hj (h.distinct hused hvalid heq)
      exact ⟨hne, Function.update_of_ne (hname ▸ hne) _ _⟩
    · exact .inr ⟨Function.update_of_ne (hname ▸ hne) _ _, fun hi => hne hi.2.symm⟩
  | none =>
    dsimp only
    rw [if_pos rfl, CString.truncate_of_le (Nat.not_lt.mp hlen)]
    have hforget : ∀ name, m.forget now hostname name = if (m.dns.cache (m.dns.dnsCacheSlot now)).valid = true ∧
          (m.dns.cache (m.dns.dnsCacheSlot now)).name.fold = name then none else m.record name := by
      intro name
      unfold forget evicted
      by_cases hused : (m.dns.cache (m.dns.dnsCacheSlot now)).valid = true
      · rw [if_pos ⟨hfind, hused⟩]
        by_cases hname : (m.dns.cache (m.dns.dnsCacheSlot now)).name.fold = name
        · rw [if_pos ⟨hused, hname⟩, ← hname]
          exact Function.update_self _ _ _
        · rw [if_neg fun hboth => hname hboth.2]
          exact Function.update_of_ne (Ne.symm hname) _ _
      · rw [if_neg fun hboth => hused hboth.2, if_neg fun hboth => hused hboth.1]
    refine h.write hnow rfl rfl (Function.update_self _ _ _) (fun j hj hused => ?_) fun name hne => ?_
    · have hne := ne_of_dnsCacheFind_none hfind hused
      refine ⟨hne, ?_⟩
      rw [Function.update_of_ne hne, hforget, if_neg]
      rintro ⟨hslot, hsame⟩
      exact hj (h.distinct hused hslot hsame.symm)
    · rw [Function.update_of_ne hne, hforget]
      split_ifs with hslot
      · exact .inl rfl
      · exact .inr ⟨rfl, hslot⟩

/-- **One call.** -/
lemma sound_step {e : UInt64 × DnsCall} (h : m.Sound) (hstep : m.Step e m') : m'.Sound := by
  obtain ⟨now, call⟩ := e
  obtain ⟨hnow, rfl⟩ := hstep
  cases call with
  | lookup hostname => exact sound_lookup h hnow hostname
  | add hostname ip ttl => exact sound_add h hnow hostname ip ttl
  | clear =>
    exact ⟨h.initialized, fun _ _ hi => Bool.noConfusion hi, fun _ hi => Bool.noConfusion hi,
      fun _ _ hr => absurd hr.symm (Option.some_ne_none _)⟩

/-- The cache after `dns_init`. -/
def start (s : Dns) : DnsRun := { dns := s.dnsInit }

lemma sound_start (s : Dns) : (start s).Sound :=
  ⟨rfl, fun _ _ hi => Bool.noConfusion hi, fun _ hi => Bool.noConfusion hi,
    fun _ _ hr => absurd hr.symm (Option.some_ne_none _)⟩

end DnsRun

end AAAos
