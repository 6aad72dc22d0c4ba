import AAAos.Lib.Trace
import AAAos.Net.Arp.Arp

/-!
# What the ARP cache answers

An address is looked for before a slot is taken for it, so no two slots in use ever hold the same
address.  A slot is RESOLVED only from an accepted `arp_cache_add` until the tick at which it is 300
ticks old: the time goes up by one with every tick, so that no tick passes over that age, and the
difference of two times is right although the time wraps (`EntrySound.tick`).

**What is proved.**  In every run from `arp_init` the slots in use hold different addresses,
`arp_lookup` answers only what was recorded last for the address, less than 300 ticks ago, with no
removal or eviction since, and an entry that is PENDING was made less than four ticks ago
(`coherent_of_steps`).
-/

namespace AAAos

/-- What is called. -/
inductive ArpCall
  | lookup (ip : UInt32)
  | receive (bytes : List UInt8)
  | add (ip : UInt32) (mac : Mac)
  | remove (ip : UInt32)
  | tick

namespace Arp

variable {s : Arp} {ip : UInt32} {mac : Mac} {i : Fin arpCacheSize}

def call (s : Arp) (env : ArpEnv) : ArpCall → Arp
  | .lookup ip => (s.arpLookup env ip).2
  | .receive bytes => (s.arpReceive env bytes).2
  | .add ip mac => (s.arpCacheAdd ip mac).2
  | .remove ip => s.arpCacheRemove ip
  | .tick => s.arpTimerTick env

/-- The address that loses its slot when a slot is taken for another one. -/
def evicted (s : Arp) (ip : UInt32) : Option UInt32 :=
  match s.arpCacheFind ip with
  | some _ => none
  | none => (s.arpCacheAlloc.filter fun i => (s.cache i).used).map fun i => (s.cache i).ip

/-- No two slots in use hold the same address. -/
def Distinct (s : Arp) : Prop := SlotTable.Distinct ArpEntry.used ArpEntry.ip s.cache

lemma arpCacheFind_some (h : s.arpCacheFind ip = some i) : (s.cache i).used = true ∧ (s.cache i).ip = ip := by
  simpa using SlotTable.find_spec h

/-- The slots that stay when one is written for `ip` hold other addresses than `ip` and than the one
that is evicted. -/
lemma ne_of_slotFor (hdistinct : s.Distinct) (hslot : s.slotFor ip = some i)
    {j : Fin arpCacheSize} (hj : j ≠ i) (hused : (s.cache j).used = true) :
    (s.cache j).ip ≠ ip ∧ s.evicted ip ≠ some (s.cache j).ip := by
  unfold slotFor at hslot
  unfold evicted
  cases hfind : s.arpCacheFind ip with
  | some k =>
    rw [hfind] at hslot
    obtain rfl : k = i := Option.some.inj hslot
    obtain ⟨hk, hip⟩ := arpCacheFind_some hfind
    refine ⟨fun hsame => hj (hdistinct hused hk (hsame.trans hip.symm)), ?_⟩
    simp
  | none =>
    rw [hfind] at hslot
    refine ⟨SlotTable.ne_of_find_eq_none hfind hused, ?_⟩
    dsimp only at hslot ⊢
    rw [hslot]
    intro hevicted
    by_cases hi : (s.cache i).used = true
    · have hsame : (s.cache i).ip = (s.cache j).ip := by
        simpa [Option.filter, hi] using hevicted
      exact hj (hdistinct hused hi hsame.symm)
    · simp [Option.filter, hi] at hevicted

lemma arpRequest_same (s : Arp) (env : ArpEnv) (ip : UInt32) :
    (s.arpRequest env ip).2.cache = s.cache ∧ (s.arpRequest env ip).2.time = s.time ∧
      (s.arpRequest env ip).2.initialized = s.initialized := by
  unfold arpRequest
  split_ifs
  all_goals exact ⟨rfl, rfl, rfl⟩

lemma arpReply_same (s : Arp) (env : ArpEnv) (ip : UInt32) (mac : Mac) :
    (s.arpReply env ip mac).2.cache = s.cache ∧ (s.arpReply env ip mac).2.time = s.time ∧
      (s.arpReply env ip mac).2.initialized = s.initialized := by
  unfold arpReply
  split_ifs
  all_goals exact ⟨rfl, rfl, rfl⟩

end Arp

lemma ArpEntry.used_tick {e : ArpEntry} {time : UInt32} (h : (e.tick time).used = true) :
    e.used = true ∧ (e.tick time).ip = e.ip := by
  unfold tick at h ⊢
  cases hstate : e.state with
  | free =>
    rw [hstate] at h
    exact ⟨h, rfl⟩
  | pending =>
    refine ⟨decide_eq_true (by rw [hstate]; decide), ?_⟩
    dsimp only
    split_ifs
    all_goals rfl
  | resolved =>
    refine ⟨decide_eq_true (by rw [hstate]; decide), ?_⟩
    dsimp only
    split_ifs
    all_goals rfl
  | stale =>
    refine ⟨decide_eq_true (by rw [hstate]; decide), ?_⟩
    dsimp only
    split_ifs
    all_goals rfl

/-! ## One entry -/

/-- An entry is what was recorded for its address and asked for. -/
structure EntrySound (now : Nat) (record : UInt32 → Option (Mac × Nat)) (asked : UInt32 → Nat)
    (e : ArpEntry) : Prop where
  resolved : e.state = .resolved → ∃ t, record e.ip = some (e.mac, t) ∧
    e.timestamp = UInt32.ofNat t ∧ t ≤ now ∧ now < t + arpCacheTimeout.toNat
  pending : e.state = .pending → e.timestamp = UInt32.ofNat now ∧ asked e.ip ≤ now ∧
    now + e.retries.toNat = asked e.ip + arpRequestRetries.toNat

namespace EntrySound

variable {now : Nat} {record record' : UInt32 → Option (Mac × Nat)} {asked asked' : UInt32 → Nat}
variable {e : ArpEntry}

lemma frame (h : EntrySound now record asked e) (hrecord : record' e.ip = record e.ip)
    (hasked : asked' e.ip = asked e.ip) : EntrySound now record' asked' e := by
  constructor
  · rw [hrecord]
    exact h.resolved
  · rw [hasked]
    exact h.pending

lemma free (h : e.state = .free) : EntrySound now record asked e :=
  ⟨fun hstate => absurd (h.symm.trans hstate) (by decide),
    fun hstate => absurd (h.symm.trans hstate) (by decide)⟩

lemma age {t : Nat} (h : t ≤ now) :
    UInt32.ofNat now - UInt32.ofNat t = UInt32.ofNat (now - t) := (UInt32.ofNat_sub h).symm

/-- **One tick.** -/
lemma tick (h : EntrySound now record asked e) :
    EntrySound (now + 1) record asked (e.tick (UInt32.ofNat (now + 1))) := by
  unfold ArpEntry.tick
  cases hstate : e.state with
  | free => exact free hstate
  | pending =>
    obtain ⟨htime, hasked, hretries⟩ := h.pending hstate
    have hage : UInt32.ofNat (now + 1) - e.timestamp = 1 := by
      rw [htime, age (Nat.le_add_right now 1), Nat.add_sub_cancel_left]
      rfl
    dsimp only
    rw [hage, if_pos (by decide)]
    by_cases hleft : 0 < e.retries
    · rw [if_pos hleft]
      have hpos : 0 < e.retries.toNat := UInt8.lt_iff_toNat_lt.mp hleft
      have hone : (e.retries - 1).toNat = e.retries.toNat - 1 := by
        rw [UInt8.toNat_sub_of_le e.retries 1 (UInt8.le_iff_toNat_le.mpr hpos)]
        rfl
      refine ⟨fun hnot => ArpState.noConfusion hnot, fun _ => ⟨rfl, ?_, ?_⟩⟩
      · exact Nat.le_succ_of_le hasked
      · dsimp only
        rw [hone]
        omega
    · rw [if_neg hleft]
      exact free rfl
  | resolved =>
    obtain ⟨t, hrecord, htime, ht, hfresh⟩ := h.resolved hstate
    have hage : (UInt32.ofNat (now + 1) - e.timestamp).toNat = now + 1 - t := by
      rw [htime, age (Nat.le_succ_of_le ht), UInt32.toNat_ofNat', Nat.mod_eq_of_lt]
      unfold arpCacheTimeout at hfresh
      simp at hfresh
      omega
    dsimp only
    by_cases hold : arpCacheTimeout ≤ UInt32.ofNat (now + 1) - e.timestamp
    · rw [if_pos hold]
      exact ⟨fun hnot => ArpState.noConfusion hnot, fun hnot => ArpState.noConfusion hnot⟩
    · rw [if_neg hold]
      rw [UInt32.le_iff_toNat_le, hage] at hold
      exact ⟨fun _ => ⟨t, hrecord, htime, Nat.le_succ_of_le ht, by omega⟩,
        fun hnot => absurd (hstate.symm.trans hnot) (by decide)⟩
  | stale =>
    dsimp only
    split_ifs
    · exact free rfl
    · exact ⟨fun hnot => absurd (hstate.symm.trans hnot) (by decide),
        fun hnot => absurd (hstate.symm.trans hnot) (by decide)⟩

end EntrySound

/-! ## Runs -/

/-- The cache, the number of ticks, what was recorded last for each address and when, if it was not
removed or evicted since, and when each address that had no entry was looked up last. -/
structure ArpRun where
  arp : Arp
  now : Nat := 0
  record : UInt32 → Option (Mac × Nat) := fun _ => none
  asked : UInt32 → Nat := fun _ => 0

namespace ArpRun

open Arp

variable {m m' : ArpRun} {s : Arp} {env : ArpEnv} {ip : UInt32} {mac : Mac}

/-- The record without the address that is evicted for `ip`. -/
def forget (m : ArpRun) (ip : UInt32) : UInt32 → Option (Mac × Nat) :=
  match m.arp.evicted ip with
  | none => m.record
  | some old => Function.update m.record old none

/-- The record after `arp_cache_add`. -/
def recordAdd (m : ArpRun) (ip : UInt32) (mac : Mac) : UInt32 → Option (Mac × Nat) :=
  if (m.arp.arpCacheAdd ip mac).1 = 0 then Function.update (m.forget ip) ip (some (mac, m.now))
  else m.record

/-- A call is made. -/
def apply (m : ArpRun) (e : ArpEnv × ArpCall) : ArpRun :=
  match e.2 with
  | .lookup ip =>
    { m with
      arp := m.arp.call e.1 e.2
      record := m.forget ip
      asked := if m.arp.arpCacheFind ip = none then Function.update m.asked ip m.now else m.asked }
  | .receive bytes =>
    { m with
      arp := m.arp.call e.1 e.2
      record := if m.arp.initialized && validPacket bytes && m.arp.learns e.1 bytes then
        m.recordAdd (htonl (arpPacket bytes).spa) (arpPacket bytes).sha else m.record }
  | .add ip mac => { m with arp := m.arp.call e.1 e.2, record := m.recordAdd ip mac }
  | .remove ip => { m with arp := m.arp.call e.1 e.2, record := Function.update m.record ip none }
  | .tick => { m with arp := m.arp.call e.1 e.2, now := m.now + 1 }

def Step (m : ArpRun) (e : ArpEnv × ArpCall) (m' : ArpRun) : Prop := m' = m.apply e

/-- **The cache is sound.** -/
structure Coherent (m : ArpRun) : Prop where
  unique : ∀ i j, (m.arp.cache i).state ≠ .free → (m.arp.cache j).state ≠ .free →
    (m.arp.cache i).ip = (m.arp.cache j).ip → i = j
  fresh : ∀ env ip mac, (m.arp.arpLookup env ip).1 = some mac →
    ∃ t, m.record ip = some (mac, t) ∧ t ≤ m.now ∧ m.now - t < arpCacheTimeout.toNat
  pending : ∀ i, (m.arp.cache i).state = .pending → m.asked (m.arp.cache i).ip ≤ m.now ∧
    m.now - m.asked (m.arp.cache i).ip < (arpRequestRetries.toNat + 1) * arpRequestTimeout.toNat

structure Sound (m : ArpRun) : Prop where
  initialized : m.arp.initialized = true
  clock : m.arp.time = UInt32.ofNat m.now
  distinct : m.arp.Distinct
  entries : ∀ i, EntrySound m.now m.record m.asked (m.arp.cache i)

lemma forget_of_ne {ip' : UInt32} (h : m.arp.evicted ip ≠ some ip') : m.forget ip ip' = m.record ip' := by
  unfold forget
  cases hevicted : m.arp.evicted ip with
  | none => rfl
  | some old =>
    refine Function.update_of_ne (fun heq => h ?_) _ _
    rw [hevicted, heq]

/-- **A slot is written** for an address. -/
lemma Sound.write (h : m.Sound) {i : Fin arpCacheSize} {e : ArpEntry}
    {record : UInt32 → Option (Mac × Nat)} {asked : UInt32 → Nat}
    (hslot : m.arp.slotFor ip = some i) (hip : e.ip = ip) (he : EntrySound m.now record asked e)
    (hrecord : ∀ ip', ip' ≠ ip → m.arp.evicted ip ≠ some ip' → record ip' = m.record ip')
    (hasked : ∀ ip', ip' ≠ ip → asked ip' = m.asked ip') :
    Sound { m with arp := m.arp.setEntry i e, record := record, asked := asked } := by
  have hother : ∀ j, j ≠ i → (m.arp.cache j).used = true →
      (m.arp.cache j).ip ≠ ip ∧ m.arp.evicted ip ≠ some (m.arp.cache j).ip := fun j hj hused =>
    ne_of_slotFor h.distinct hslot hj hused
  refine ⟨h.initialized, h.clock, h.distinct.put fun _ j hj hused => ?_, fun j => ?_⟩
  · rw [hip]
    exact (hother j hj hused).1
  · change EntrySound m.now record asked (Function.update m.arp.cache i e j)
    by_cases hj : j = i
    · rw [hj, Function.update_self]
      exact he
    · rw [Function.update_of_ne hj]
      by_cases hused : (m.arp.cache j).used = true
      · obtain ⟨hne, hkept⟩ := hother j hj hused
        exact (h.entries j).frame (hrecord _ hne hkept) (hasked _ hne)
      · exact .free (by simpa [ArpEntry.used] using hused)

/-- Only what is sent, and the record of addresses without a slot, may change otherwise. -/
lemma Sound.keep (h : m.Sound) {record : UInt32 → Option (Mac × Nat)} {asked : UInt32 → Nat}
    (hinit : s.initialized = m.arp.initialized) (htime : s.time = m.arp.time)
    (hcache : s.cache = m.arp.cache)
    (hrecord : ∀ i, (m.arp.cache i).used = true → record (m.arp.cache i).ip = m.record (m.arp.cache i).ip)
    (hasked : ∀ i, (m.arp.cache i).used = true → asked (m.arp.cache i).ip = m.asked (m.arp.cache i).ip) :
    Sound { m with arp := s, record := record, asked := asked } := by
  refine ⟨hinit.trans h.initialized, htime.trans h.clock, ?_, fun i => ?_⟩
  · unfold Distinct
    dsimp only
    rw [hcache]
    exact h.distinct
  · dsimp only
    rw [hcache]
    by_cases hused : (m.arp.cache i).used = true
    · exact (h.entries i).frame (hrecord i hused) (hasked i hused)
    · exact .free (by simpa [ArpEntry.used] using hused)

lemma Sound.same (h : m.Sound) (hinit : s.initialized = m.arp.initialized)
    (htime : s.time = m.arp.time) (hcache : s.cache = m.arp.cache) : Sound { m with arp := s } :=
  h.keep hinit htime hcache (fun _ _ => rfl) (fun _ _ => rfl)

/-- **`arp_cache_add`.** -/
lemma sound_add (h : m.Sound) (ip : UInt32) (mac : Mac) :
    Sound { m with arp := (m.arp.arpCacheAdd ip mac).2, record := m.recordAdd ip mac } := by
  unfold recordAdd arpCacheAdd
  rw [if_neg (by rw [h.initialized]; decide)]
  by_cases hbad : mac = zeroMac ∨ mac = broadcastMac
  · rw [if_pos hbad]
    exact h
  rw [if_neg hbad]
  cases hslot : m.arp.slotFor ip with
  | none => exact h
  | some i =>
    refine h.write hslot rfl ⟨fun _ => ⟨m.now, ?_, h.clock, Nat.le_refl _, ?_⟩,
      fun hstate => ArpState.noConfusion hstate⟩ (fun ip' hne hkept => ?_) (fun _ _ => rfl)
    · exact Function.update_self _ _ _
    · exact Nat.lt_add_of_pos_right (by decide)
    · rw [if_pos rfl, Function.update_of_ne hne]
      exact forget_of_ne hkept

/-- **`arp_lookup`.** -/
lemma sound_lookup (h : m.Sound) (env : ArpEnv) (ip : UInt32) : (m.apply (env, .lookup ip)).Sound := by
  unfold apply call
  dsimp only
  unfold arpLookup
  rw [if_neg (by rw [h.initialized]; decide)]
  cases hfind : m.arp.arpCacheFind ip with
  | some i =>
    have hforget : m.forget ip = m.record := by
      unfold forget evicted
      rw [hfind]
    rw [hforget, if_neg (by simp)]
    obtain ⟨hcache, htime, hinit⟩ := arpRequest_same m.arp env ip
    dsimp only
    cases (m.arp.cache i).state with
    | resolved => exact h
    | pending => exact h
    | free => exact h.same hinit htime hcache
    | stale => exact h.same hinit htime hcache
  | none =>
    dsimp only
    rw [if_pos rfl]
    have hpending : Sound { m with
        arp := m.arp.addPending ip
        record := m.forget ip
        asked := Function.update m.asked ip m.now } := by
      unfold addPending
      have hslot : m.arp.slotFor ip = m.arp.arpCacheAlloc := by
        unfold slotFor
        rw [hfind]
      cases halloc : m.arp.arpCacheAlloc with
      | none =>
        have hforget : m.forget ip = m.record := by
          unfold forget evicted
          rw [hfind, halloc]
          rfl
        rw [hforget]
        refine h.keep rfl rfl rfl (fun _ _ => rfl) fun i hused => ?_
        exact Function.update_of_ne (SlotTable.ne_of_find_eq_none hfind hused) _ _
      | some i =>
        refine h.write (hslot.trans halloc) rfl ⟨fun hstate => ArpState.noConfusion hstate,
          fun _ => ⟨h.clock, ?_, ?_⟩⟩ (fun ip' hne hkept => ?_)
          (fun ip' hne => Function.update_of_ne hne _ _)
        · dsimp only
          rw [Function.update_self]
        · dsimp only
          rw [Function.update_self]
        · exact forget_of_ne hkept
    obtain ⟨hcache, htime, hinit⟩ := arpRequest_same (m.arp.addPending ip) env ip
    exact hpending.same hinit htime hcache

/-- **`arp_receive`.** -/
lemma sound_receive (h : m.Sound) (env : ArpEnv) (bytes : List UInt8) : (m.apply (env, .receive bytes)).Sound := by
  unfold apply call
  dsimp only
  unfold arpReceive
  rw [if_neg (by rw [h.initialized]; decide), h.initialized, Bool.true_and]
  by_cases hvalid : validPacket bytes = false
  · rw [if_pos hvalid, hvalid]
    exact h
  rw [if_neg hvalid, (by simpa using hvalid : validPacket bytes = true), Bool.true_and]
  have hlearned : Sound { m with
      arp := if m.arp.learns env bytes then
        (m.arp.arpCacheAdd (htonl (arpPacket bytes).spa) (arpPacket bytes).sha).2 else m.arp
      record := if m.arp.learns env bytes then
        m.recordAdd (htonl (arpPacket bytes).spa) (arpPacket bytes).sha else m.record } := by
    split_ifs
    · exact sound_add h _ _
    · exact h
  dsimp only
  generalize (if m.arp.learns env bytes = true then
    (m.arp.arpCacheAdd (htonl (arpPacket bytes).spa) (arpPacket bytes).sha).2 else m.arp) = s
    at hlearned ⊢
  generalize (if m.arp.learns env bytes = true then
    m.recordAdd (htonl (arpPacket bytes).spa) (arpPacket bytes).sha else m.record) = record
    at hlearned ⊢
  obtain ⟨hcache, htime, hinit⟩ := arpReply_same s env (htonl (arpPacket bytes).spa)
    (arpPacket bytes).sha
  split_ifs
  · exact hlearned.same hinit htime hcache
  · exact hlearned
  · exact hlearned
  · exact hlearned

/-- **`arp_cache_remove`.** -/
lemma sound_remove (h : m.Sound) (ip : UInt32) : Sound { m with
    arp := m.arp.arpCacheRemove ip, record := Function.update m.record ip none } := by
  unfold arpCacheRemove
  cases hfind : m.arp.arpCacheFind ip with
  | none =>
    refine h.keep rfl rfl rfl (fun i hused => ?_) (fun _ _ => rfl)
    exact Function.update_of_ne (SlotTable.ne_of_find_eq_none hfind hused) _ _
  | some i =>
    have hslot : m.arp.slotFor ip = some i := by
      unfold slotFor
      rw [hfind]
    refine h.write hslot (arpCacheFind_some hfind).2 (.free rfl) (fun ip' hne _ => ?_)
      (fun _ _ => rfl)
    exact Function.update_of_ne hne _ _

/-- **One call.** -/
lemma sound_step {e : ArpEnv × ArpCall} (h : m.Sound) (hstep : m.Step e m') : m'.Sound := by
  obtain ⟨env, call⟩ := e
  subst hstep
  cases call with
  | lookup ip => exact sound_lookup h env ip
  | receive bytes => exact sound_receive h env bytes
  | add ip mac => exact sound_add h ip mac
  | remove ip => exact sound_remove h ip
  | tick =>
    have hclock : m.arp.time + 1 = UInt32.ofNat (m.now + 1) := by
      rw [h.clock, UInt32.ofNat_add]
      rfl
    refine ⟨h.initialized, hclock, h.distinct.mono fun i hused => ?_, fun i => ?_⟩
    · exact ArpEntry.used_tick hused
    · change EntrySound (m.now + 1) m.record m.asked ((m.arp.cache i).tick (m.arp.time + 1))
      rw [hclock]
      exact (h.entries i).tick

/-- The cache after `arp_init`. -/
def start (s : Arp) : ArpRun := { arp := s.arpInit }

lemma sound_start (s : Arp) : (start s).Sound :=
  ⟨rfl, rfl, fun _ _ h => absurd h Bool.false_ne_true, fun _ => .free rfl⟩

lemma Sound.coherent (h : m.Sound) : m.Coherent := by
  have hused : ∀ i, (m.arp.cache i).state ≠ .free → (m.arp.cache i).used = true := fun i hi =>
    decide_eq_true hi
  refine ⟨fun i j hi hj => h.distinct (hused i hi) (hused j hj), fun env ip mac hmac => ?_,
    fun i hi => ?_⟩
  · unfold arpLookup at hmac
    rw [if_neg (by rw [h.initialized]; decide)] at hmac
    cases hfind : m.arp.arpCacheFind ip with
    | none =>
      rw [hfind] at hmac
      exact absurd hmac (by simp)
    | some i =>
      rw [hfind] at hmac
      dsimp only at hmac
      cases hstate : (m.arp.cache i).state with
      | resolved =>
        rw [hstate] at hmac
        obtain ⟨t, hrecord, -, ht, hfresh⟩ := (h.entries i).resolved hstate
        obtain rfl : (m.arp.cache i).mac = mac := Option.some.inj hmac
        rw [(arpCacheFind_some hfind).2] at hrecord
        exact ⟨t, hrecord, ht, by omega⟩
      | pending =>
        rw [hstate] at hmac
        exact absurd hmac (by simp)
      | free =>
        rw [hstate] at hmac
        exact absurd hmac (by simp)
      | stale =>
        rw [hstate] at hmac
        exact absurd hmac (by simp)
  · obtain ⟨-, hasked, hretries⟩ := (h.entries i).pending hi
    refine ⟨hasked, ?_⟩
    rw [show arpRequestTimeout.toNat = 1 from rfl]
    omega

/-- **What the cache answers**, in every run. -/
theorem coherent_of_steps {es : List (ArpEnv × ArpCall)} (hrun : Steps Step (start s) es m) : m.Coherent :=
  (hrun.invariant (I := Sound) (fun _ _ _ => sound_step) (sound_start s)).coherent

/-- Somebody answers a request before the first timeout. -/
theorem coherent_of_answer : ((((start {}).apply (⟨{}, zeroMac, 0⟩, .lookup 7)).apply
    (⟨{}, zeroMac, 0⟩, .add 7 fun _ => 1)).apply (⟨{}, zeroMac, 0⟩, .tick)).Coherent := by
  have hrun : Steps Step (start {})
      [(⟨{}, zeroMac, 0⟩, .lookup 7), (⟨{}, zeroMac, 0⟩, .add 7 fun _ => 1), (⟨{}, zeroMac, 0⟩, .tick)]
      ((((start {}).apply (⟨{}, zeroMac, 0⟩, .lookup 7)).apply
        (⟨{}, zeroMac, 0⟩, .add 7 fun _ => 1)).apply (⟨{}, zeroMac, 0⟩, .tick)) :=
    .cons rfl (.cons rfl (.cons rfl (.nil _)))
  exact coherent_of_steps hrun

end ArpRun

end AAAos
