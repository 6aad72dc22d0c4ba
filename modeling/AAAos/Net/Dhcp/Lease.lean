import AAAos.Lib.Trace
import AAAos.Net.Dhcp.Dhcp

/-!
# The address and the lease

`dhcp_apply_lease` gives the interface its address, and whoever clears the lease takes the address
back.  The end of a lease is looked for by `dhcp_timer_tick`, in the BOUND case.

**What goes wrong.**  `dhcp_renew` and the renewal and rebinding times of a tick leave BOUND, and the
cases of the other states only count retries: a lease that is being renewed when it ends is kept, and
so is its address (`kept_past_lease`).  An ACK can give the address 0, and a second `dhcp_init` forgets
the lease of an interface that is configured.

**What is proved.**  In runs without these cases the interface has an address exactly while there is a
lease, and every tick at or past the end of the lease drops both (`bounded_of_steps`).  A step that is
one of these cases breaks what is claimed (`bounded_iff`).  `dhcp_configure` is such a run
(`dhcpConfigure_run`).
-/

namespace AAAos

/-! ## Calls -/

/-- What happens to the client. -/
inductive DhcpCall
  | init
  | discover
  | request (offeredIp serverIp : UInt32)
  | release
  | renew
  | receive (packet : Mem) (len : Nat)
  | tick

namespace Dhcp

variable {s s' : Dhcp} {env : DhcpEnv}

def call (s : Dhcp) (env : DhcpEnv) : DhcpCall → Dhcp
  | .init => (s.dhcpInit env).2
  | .discover => (s.dhcpDiscover env).2
  | .request offeredIp serverIp => (s.dhcpRequest env offeredIp serverIp).2
  | .release => (s.dhcpRelease env).2
  | .renew => (s.dhcpRenew env).2
  | .receive packet len => (s.dhcpInput env packet len).2
  | .tick => s.dhcpTimerTick env

/-! ## What keeps the lease -/

/-- The lease and the interface are as they were, and the client did not become BOUND. -/
structure SameLease (s s' : Dhcp) : Prop where
  lease : s'.client.lease = s.client.lease
  ip : s'.ip = s.ip
  initialized : s'.client.initialized = s.client.initialized
  bound : s'.client.state = .bound → s.client.state = .bound

namespace SameLease

lemma refl (s : Dhcp) : SameLease s s := ⟨rfl, rfl, rfl, id⟩

lemma trans {s'' : Dhcp} (h : SameLease s s') (h' : SameLease s' s'') : SameLease s s'' :=
  ⟨h'.lease.trans h.lease, h'.ip.trans h.ip, h'.initialized.trans h.initialized, fun hs => h.bound (h'.bound hs)⟩

lemma setClient (h : SameLease s s') {c : DhcpClient} (hlease : c.lease = s'.client.lease)
    (hinit : c.initialized = s'.client.initialized)
    (hbound : c.state = .bound → s'.client.state = .bound) : SameLease s { s' with client := c } :=
  ⟨hlease.trans h.lease, h.ip, hinit.trans h.initialized, fun hs => h.bound (hbound hs)⟩

end SameLease

lemma sameLease_sendPacket (s : Dhcp) (env : DhcpEnv) (packet : DhcpPacket) (destIp : UInt32) :
    SameLease s (s.dhcpSendPacket env packet destIp).2 := by
  unfold dhcpSendPacket
  split_ifs
  · exact ⟨rfl, rfl, rfl, id⟩
  · exact .refl s

lemma SameLease.setXid (s : Dhcp) (xid seed : UInt32) :
    SameLease s { s with client := { s.client with xid := xid }, randSeed := seed } :=
  ⟨rfl, rfl, rfl, id⟩

lemma sameLease_newXid (s : Dhcp) (now : UInt64) : SameLease s (s.newXid now) := .setXid s _ _

lemma sameLease_discover (s : Dhcp) (env : DhcpEnv) : SameLease s (s.dhcpDiscover env).2 := by
  unfold dhcpDiscover
  by_cases hinit : s.client.initialized = false
  · rw [if_pos hinit]
    exact .refl s
  rw [if_neg hinit]
  have hsend := (sameLease_newXid s env.now).trans (sameLease_sendPacket (s.newXid env.now) env
    (s.newXid env.now).client.dhcpBuildDiscover ipAddrBroadcast)
  dsimp only
  generalize (s.newXid env.now).dhcpSendPacket env _ _ = answer at hsend ⊢
  obtain ⟨ret, t⟩ := answer
  dsimp only
  split_ifs
  · exact hsend
  · exact hsend.setClient rfl rfl fun h => DhcpState.noConfusion h

lemma sameLease_request (s : Dhcp) (env : DhcpEnv) (offeredIp serverIp : UInt32) :
    SameLease s (s.dhcpRequest env offeredIp serverIp).2 := by
  unfold dhcpRequest
  by_cases hinit : s.client.initialized = false
  · rw [if_pos hinit]
    exact .refl s
  rw [if_neg hinit]
  have hsend := sameLease_sendPacket s env (s.client.dhcpBuildRequest offeredIp serverIp)
    (if s.client.state = .renewing then htonl serverIp else ipAddrBroadcast)
  dsimp only
  generalize s.dhcpSendPacket env _ _ = answer at hsend ⊢
  obtain ⟨ret, t⟩ := answer
  dsimp only
  by_cases hfails : ret < 0
  · rw [if_pos hfails]
    exact hsend
  · rw [if_neg hfails]
    refine hsend.setClient rfl rfl fun h => ?_
    dsimp only at h
    split_ifs at h
    exact h

lemma sameLease_renew (s : Dhcp) (env : DhcpEnv) : SameLease s (s.dhcpRenew env).2 := by
  have hrenewing : SameLease s
      { s with client := { s.client with state := .renewing, retries := 0 } } :=
    (SameLease.refl s).setClient rfl rfl fun h => DhcpState.noConfusion h
  unfold dhcpRenew
  dsimp only
  split_ifs
  · exact .refl s
  · exact .refl s
  · exact hrenewing.trans (sameLease_request _ env _ _)

lemma sameLease_retry (s : Dhcp) (env : DhcpEnv) : SameLease s (s.dhcpRetry env) := by
  have hcount : SameLease s { s with client := { s.client with retries := s.client.retries + 1 } } :=
    (SameLease.refl s).setClient rfl rfl id
  unfold dhcpRetry
  dsimp only
  by_cases hlast : dhcpMaxRetries ≤ s.client.retries + 1
  · rw [if_pos hlast]
    refine hcount.setClient rfl rfl fun h => ?_
    dsimp only at h
    split_ifs at h
  rw [if_neg hlast]
  by_cases hselecting : s.client.state = .selecting
  · rw [if_pos hselecting]
    exact hcount.trans (sameLease_discover _ env)
  · rw [if_neg hselecting]
    exact hcount.trans (sameLease_request _ env _ _)

/-! ## The end of a lease -/

/-- At this time the lease has lasted as long as it was given for. -/
def Overdue (s : Dhcp) (now : UInt64) : Prop :=
  s.client.lease.valid = true ∧ s.client.lease.obtainedTime.toNat + 1000 * s.client.lease.leaseTime.toNat ≤ now.toNat

instance (s : Dhcp) (now : UInt64) : Decidable (s.Overdue now) := inferInstanceAs (Decidable (_ ∧ _))

lemma leaseTime_le_leaseElapsed {now : UInt64} (h : s.client.lease.obtainedTime ≤ now) :
    s.client.lease.leaseTime.toUInt64 ≤ s.leaseElapsed now ↔
      s.client.lease.obtainedTime.toNat + 1000 * s.client.lease.leaseTime.toNat ≤ now.toNat := by
  have hle := UInt64.le_iff_toNat_le.mp h
  rw [UInt64.le_iff_toNat_le, leaseElapsed, UInt64.toNat_div, UInt64.toNat_sub_of_le _ _ h,
    UInt32.toNat_toUInt64, show (1000 : UInt64).toNat = 1000 from rfl]
  omega

lemma sameLease_tick (h : s.client.state ≠ .bound) : SameLease s (s.dhcpTimerTick env) := by
  have hcount : SameLease s (if s.client.timeoutTime ≤ env.now then s.dhcpRetry env else s) := by
    split_ifs
    · exact sameLease_retry s env
    · exact .refl s
  unfold dhcpTimerTick
  by_cases hinit : s.client.initialized = false
  · rw [if_pos hinit]
    exact .refl s
  rw [if_neg hinit]
  cases hstate : s.client.state with
  | selecting => exact hcount
  | requesting => exact hcount
  | renewing => exact hcount
  | rebinding => exact hcount
  | bound => exact absurd hstate h
  | init => exact .refl s
  | rebooting => exact .refl s
  | initReboot => exact .refl s

lemma dhcpTimerTick_bound (hinit : s.client.initialized = true) (hstate : s.client.state = .bound) :
    s.dhcpTimerTick env = s.dhcpBoundTick env := by
  unfold dhcpTimerTick
  rw [if_neg (by rw [hinit]; decide), hstate]

lemma dhcpBoundTick_cases (s : Dhcp) (env : DhcpEnv) :
    (s.client.lease.valid = true ∧ s.client.lease.leaseTime.toUInt64 ≤ s.leaseElapsed env.now) ∧
        s.dhcpBoundTick env = s.dropLease ∨
      ¬ (s.client.lease.valid = true ∧ s.client.lease.leaseTime.toUInt64 ≤ s.leaseElapsed env.now) ∧
        SameLease s (s.dhcpBoundTick env) := by
  unfold dhcpBoundTick
  by_cases hvalid : s.client.lease.valid = false
  · rw [if_pos hvalid]
    exact .inr ⟨fun h => absurd (hvalid.symm.trans h.1) (by decide), .refl s⟩
  rw [if_neg hvalid]
  by_cases hend : s.client.lease.leaseTime.toUInt64 ≤ s.leaseElapsed env.now
  · rw [if_pos hend]
    exact .inl ⟨⟨by simpa using hvalid, hend⟩, rfl⟩
  · rw [if_neg hend]
    refine .inr ⟨fun h => hend h.2, ?_⟩
    have hrebinding : SameLease s
        { s with client := { s.client with state := .rebinding, retries := 0 } } :=
      (SameLease.refl s).setClient rfl rfl fun h => DhcpState.noConfusion h
    dsimp only
    split_ifs
    · exact hrebinding.trans (sameLease_request _ env _ _)
    · exact sameLease_renew s env
    · exact .refl s

lemma dhcpTimerTick_cases (s : Dhcp) (env : DhcpEnv) :
    s.dhcpTimerTick env = s.dropLease ∨ SameLease s (s.dhcpTimerTick env) := by
  by_cases hbound : s.client.state = .bound
  · by_cases hinit : s.client.initialized = true
    · rw [dhcpTimerTick_bound hinit hbound]
      exact (dhcpBoundTick_cases s env).imp And.right And.right
    · unfold dhcpTimerTick
      rw [if_pos (by simpa using hinit)]
      exact .inr (.refl s)
  · exact .inr (sameLease_tick hbound)

lemma dhcpTimerTick_overdue (hinit : s.client.initialized = true) (hstate : s.client.state = .bound)
    (htime : s.client.lease.obtainedTime ≤ env.now) (h : s.Overdue env.now) :
    s.dhcpTimerTick env = s.dropLease := by
  rw [dhcpTimerTick_bound hinit hstate]
  rcases dhcpBoundTick_cases s env with ⟨-, heq⟩ | ⟨hnot, -⟩
  · exact heq
  · exact absurd ⟨h.1, (leaseTime_le_leaseElapsed htime).mpr h.2⟩ hnot

lemma sameLease_tick_of_not_overdue (htime : s.client.lease.valid = true → s.client.lease.obtainedTime ≤ env.now)
    (h : ¬ s.Overdue env.now) : SameLease s (s.dhcpTimerTick env) := by
  by_cases hbound : s.client.state = .bound
  · by_cases hinit : s.client.initialized = true
    · rw [dhcpTimerTick_bound hinit hbound]
      rcases dhcpBoundTick_cases s env with ⟨⟨hvalid, hend⟩, -⟩ | ⟨-, hsame⟩
      · exact absurd ⟨hvalid, (leaseTime_le_leaseElapsed (htime hvalid)).mp hend⟩ h
      · exact hsame
    · unfold dhcpTimerTick
      rw [if_pos (by simpa using hinit)]
      exact .refl s
  · exact sameLease_tick hbound

/-! ## Packets -/

/-- The ACK that the call takes. -/
def TakesAck (s : Dhcp) (packet : Mem) (len : Nat) (r : DhcpReply) : Prop :=
  s.client.initialized = true ∧ s.client.reply packet len = some r ∧ r.msgType = dhcpMsgAck ∧ s.acceptsAck = true

/-- The state after an ACK. -/
def acked (s : Dhcp) (env : DhcpEnv) (r : DhcpReply) : Dhcp :=
  dhcpApplyLease { s with client := { s.client with lease := r.acked env.now, state := .bound } }

/-- The NAK that the call takes. -/
def TakesNak (s : Dhcp) (packet : Mem) (len : Nat) : Prop :=
  s.client.initialized = true ∧ ∃ r, s.client.reply packet len = some r ∧ r.msgType = dhcpMsgNak

/-- **What a packet does.** -/
lemma dhcpInput_cases (s : Dhcp) (env : DhcpEnv) (packet : Mem) (len : Nat) :
    (∃ r, s.TakesAck packet len r ∧ (s.dhcpInput env packet len).2 = s.acked env r) ∨
      (s.TakesNak packet len ∧ (s.dhcpInput env packet len).2 = s.dropLease) ∨
      (¬ s.TakesNak packet len ∧ (∀ r, ¬ s.TakesAck packet len r) ∧ SameLease s (s.dhcpInput env packet len).2) := by
  unfold dhcpInput
  by_cases hinit : s.client.initialized = false
  · rw [if_pos hinit]
    have hnot : s.client.initialized ≠ true := by rw [hinit]; decide
    exact .inr (.inr ⟨fun h => hnot h.1, fun r h => hnot h.1, .refl s⟩)
  rw [if_neg hinit]
  have hinit' : s.client.initialized = true := by simpa using hinit
  cases hreply : s.client.reply packet len with
  | none =>
    refine .inr (.inr ⟨?_, ?_, .refl s⟩)
    · rintro ⟨-, r, hr, -⟩
      exact absurd (hreply.symm.trans hr) (by simp)
    · rintro r ⟨-, hr, -⟩
      exact absurd (hreply.symm.trans hr) (by simp)
  | some r =>
    have hunique : ∀ r', s.client.reply packet len = some r' → r' = r := fun r' hr' =>
      Option.some.inj (hr'.symm.trans hreply)
    dsimp only
    by_cases hoffer : r.msgType = dhcpMsgOffer
    · refine .inr (.inr ⟨?_, ?_, ?_⟩)
      · rintro ⟨-, r', hr', hnak⟩
        rw [hunique r' hr', hoffer] at hnak
        exact absurd hnak (by decide)
      · rintro r' ⟨-, hr', hack, -⟩
        rw [hunique r' hr', hoffer] at hack
        exact absurd hack (by decide)
      · rw [if_pos hoffer]
        split_ifs
        · exact sameLease_request s env _ _
        · exact sameLease_request s env _ _
        · exact .refl s
    rw [if_neg hoffer]
    by_cases hack : r.msgType = dhcpMsgAck
    · rw [if_pos hack]
      by_cases haccepts : s.acceptsAck = true
      · rw [if_pos haccepts]
        exact .inl ⟨r, ⟨hinit', hreply, hack, haccepts⟩, rfl⟩
      · rw [if_neg haccepts]
        refine .inr (.inr ⟨?_, fun r' h => haccepts h.2.2.2, .refl s⟩)
        rintro ⟨-, r', hr', hnak⟩
        rw [hunique r' hr', hack] at hnak
        exact absurd hnak (by decide)
    rw [if_neg hack]
    have hnever : ∀ r', ¬ s.TakesAck packet len r' := fun r' h => hack (hunique r' h.2.1 ▸ h.2.2.1)
    by_cases hnak : r.msgType = dhcpMsgNak
    · rw [if_pos hnak]
      exact .inr (.inl ⟨⟨hinit', r, hreply, hnak⟩, rfl⟩)
    · rw [if_neg hnak]
      refine .inr (.inr ⟨?_, hnever, .refl s⟩)
      rintro ⟨-, r', hr', h⟩
      exact hnak (hunique r' hr' ▸ h)

end Dhcp

/-! ## Runs -/

/-- The client, the time of the last call, and whether that call was a tick that found the lease
ended. -/
structure LeaseRun where
  dhcp : Dhcp
  now : UInt64 := 0
  overran : Bool := false

namespace LeaseRun

open Dhcp

variable {m m' : LeaseRun} {s : Dhcp} {env : DhcpEnv} {call : DhcpCall}

def apply (m : LeaseRun) (e : DhcpEnv × DhcpCall) : LeaseRun :=
  { dhcp := m.dhcp.call e.1 e.2
    now := e.1.now
    overran := match e.2 with
      | .tick => m.dhcp.Overdue e.1.now
      | _ => false }

/-- The time does not go back. -/
def Step (m : LeaseRun) (e : DhcpEnv × DhcpCall) (m' : LeaseRun) : Prop :=
  m.now ≤ e.1.now ∧ m' = m.apply e

/-- The call is none of the cases that go wrong. -/
def Keeps (s : Dhcp) (env : DhcpEnv) : DhcpCall → Prop
  | .init => s.ip.addr = 0
  | .receive packet len => ∀ r, s.TakesAck packet len r → r.yiaddr ≠ 0
  | .tick => s.Overdue env.now → s.client.state = .bound
  | _ => True

def KeepingStep (m : LeaseRun) (e : DhcpEnv × DhcpCall) (m' : LeaseRun) : Prop :=
  m.Step e m' ∧ Keeps m.dhcp e.1 e.2

/-- **The address is in use exactly as long as the lease.** -/
structure Bounded (m : LeaseRun) : Prop where
  configured : m.dhcp.ip.addr ≠ 0 ↔ m.dhcp.client.lease.valid = true
  leased : m.dhcp.client.lease.valid = true → m.dhcp.ip.addr = htonl m.dhcp.client.lease.ipAddr
  dropped : m.overran = true → m.dhcp.client.lease.valid = false ∧ m.dhcp.ip.addr = 0

structure Sound (m : LeaseRun) : Prop where
  bounded : m.Bounded
  initialized : m.dhcp.client.lease.valid = true → m.dhcp.client.initialized = true
  obtained : m.dhcp.client.lease.valid = true → m.dhcp.client.lease.obtainedTime ≤ m.now

lemma Sound.same (h : m.Sound) (hsame : SameLease m.dhcp m'.dhcp) (hnow : m.now ≤ m'.now)
    (hover : m'.overran = false) : m'.Sound where
  bounded := by
    refine ⟨?_, ?_, fun ht => absurd (hover.symm.trans ht) (by decide)⟩
    · rw [hsame.ip, hsame.lease]
      exact h.bounded.configured
    · rw [hsame.ip, hsame.lease]
      exact h.bounded.leased
  initialized := by
    rw [hsame.lease, hsame.initialized]
    exact h.initialized
  obtained := by
    rw [hsame.lease]
    exact fun hvalid => UInt64.le_trans (h.obtained hvalid) hnow

lemma sound_free (hvalid : m.dhcp.client.lease.valid = false) (haddr : m.dhcp.ip.addr = 0) : m.Sound := by
  have hnot : m.dhcp.client.lease.valid ≠ true := by rw [hvalid]; decide
  exact ⟨⟨⟨fun h => absurd haddr h, fun h => absurd h hnot⟩, fun h => absurd h hnot,
    fun _ => ⟨hvalid, haddr⟩⟩, fun h => absurd h hnot, fun h => absurd h hnot⟩

lemma sound_acked {r : DhcpReply} (hinit : s.client.initialized = true) (hr : r.yiaddr ≠ 0) :
    Sound { dhcp := s.acked env r, now := env.now } where
  bounded := by
    refine ⟨?_, fun _ => rfl, fun ht => absurd ht Bool.false_ne_true⟩
    change htonl r.yiaddr ≠ 0 ↔ true = true
    simpa using hr
  initialized _ := hinit
  obtained _ := UInt64.le_refl env.now

/-- **One call.** -/
lemma sound_step {e : DhcpEnv × DhcpCall} (h : m.Sound) (hstep : KeepingStep m e m') : m'.Sound := by
  obtain ⟨env, call⟩ := e
  obtain ⟨⟨hnow, rfl⟩, hkeeps⟩ := hstep
  cases call with
  | init =>
    refine sound_free ?_ ?_
    · change (m.dhcp.dhcpInit env).2.client.lease.valid = false
      unfold dhcpInit
      split_ifs
      all_goals rfl
    · change (m.dhcp.dhcpInit env).2.ip.addr = 0
      unfold dhcpInit
      split_ifs
      all_goals exact hkeeps
  | discover => exact h.same (sameLease_discover m.dhcp env) hnow rfl
  | request offeredIp serverIp => exact h.same (sameLease_request m.dhcp env _ _) hnow rfl
  | renew => exact h.same (sameLease_renew m.dhcp env) hnow rfl
  | release =>
    by_cases hvalid : m.dhcp.client.initialized = false ∨ m.dhcp.client.lease.valid = false
    · refine h.same ?_ hnow rfl
      change SameLease m.dhcp (m.dhcp.dhcpRelease env).2
      unfold dhcpRelease
      split_ifs with hinit hlease
      · exact .refl _
      · exact .refl _
      · exact absurd hvalid (by simp [hinit, hlease])
    · rw [not_or] at hvalid
      have heq : (m.dhcp.dhcpRelease env).2 = (m.dhcp.dhcpSendPacket env
          m.dhcp.client.dhcpBuildRelease (htonl m.dhcp.client.lease.serverIp)).2.dropLease := by
        unfold dhcpRelease
        rw [if_neg hvalid.1, if_neg hvalid.2]
      refine sound_free ?_ ?_
      · exact congrArg (fun t : Dhcp => t.client.lease.valid) heq
      · exact congrArg (fun t : Dhcp => t.ip.addr) heq
  | receive packet len =>
    rcases dhcpInput_cases m.dhcp env packet len with ⟨r, htakes, heq⟩ | ⟨-, heq⟩ | ⟨-, -, hsame⟩
    · have happly : m.apply (env, .receive packet len) = { dhcp := m.dhcp.acked env r, now := env.now } :=
        congrArg (fun t => ({ dhcp := t, now := env.now } : LeaseRun)) heq
      rw [happly]
      exact sound_acked htakes.1 (hkeeps r htakes)
    · refine sound_free ?_ ?_
      · exact congrArg (fun t : Dhcp => t.client.lease.valid) heq
      · exact congrArg (fun t : Dhcp => t.ip.addr) heq
    · exact h.same hsame hnow rfl
  | tick =>
    by_cases hover : m.dhcp.Overdue env.now
    · have heq : m.dhcp.dhcpTimerTick env = m.dhcp.dropLease :=
        dhcpTimerTick_overdue (h.initialized hover.1) (hkeeps hover)
          (UInt64.le_trans (h.obtained hover.1) hnow) hover
      refine sound_free ?_ ?_
      · exact congrArg (fun t : Dhcp => t.client.lease.valid) heq
      · exact congrArg (fun t : Dhcp => t.ip.addr) heq
    · exact h.same (sameLease_tick_of_not_overdue (fun hvalid => UInt64.le_trans (h.obtained hvalid) hnow)
        hover) hnow (decide_eq_false hover)

/-- The client after `dhcp_init`. -/
def start (s : Dhcp) (env : DhcpEnv) : LeaseRun := { dhcp := (s.dhcpInit env).2, now := env.now }

lemma sound_start (h : s.ip.addr = 0) (env : DhcpEnv) : (start s env).Sound := by
  refine sound_free ?_ ?_
  · change (s.dhcpInit env).2.client.lease.valid = false
    unfold dhcpInit
    split_ifs
    all_goals rfl
  · change (s.dhcpInit env).2.ip.addr = 0
    unfold dhcpInit
    split_ifs
    all_goals exact h

/-- **When the address is in use exactly as long as the lease.** -/
theorem bounded_of_steps {es : List (DhcpEnv × DhcpCall)} (hfree : s.ip.addr = 0)
    (hrun : Steps KeepingStep (start s env) es m) : m.Bounded :=
  (hrun.invariant (I := Sound) (fun _ _ _ => sound_step) (sound_start hfree env)).bounded

/-! ## A lease of ten seconds -/

/-- A packet of a server that gives the address 10.0.0.5 to the first transaction of a client. -/
def serverPacket (options : List UInt8) : Mem := fun j =>
  if j = 0 then dhcpOpReply
  else if 4 ≤ j ∧ j < 8 then [0, 0, 0x0B, 0x71].getD (j - 4) 0
  else if 16 ≤ j ∧ j < 20 then [10, 0, 0, 5].getD (j - 16) 0
  else if 236 ≤ j then (dhcpCookie ++ options).getD (j - 236) 0
  else 0

/-- An OFFER. -/
def receiveOffer : DhcpCall :=
  .receive (serverPacket [dhcpOptMsgType, 1, dhcpMsgOffer, dhcpOptServerId, 4, 10, 0, 0, 1, dhcpOptEnd])
    250

/-- An ACK for ten seconds. -/
def receiveAck : DhcpCall :=
  .receive (serverPacket [dhcpOptMsgType, 1, dhcpMsgAck, dhcpOptServerId, 4, 10, 0, 0, 1,
    dhcpOptLeaseTime, 4, 0, 0, 0, 10, dhcpOptEnd]) 256

/-- The events up to the ACK. -/
def leasing : List (DhcpEnv × DhcpCall) :=
  [({ now := 0 }, .discover), ({ now := 0 }, receiveOffer), ({ now := 0 }, receiveAck)]

/-- The state after the first events. -/
def leased (n : Nat) : LeaseRun := (leasing.take n).foldl apply (start {} { now := 0 })

lemma keeps_receive {packet : Mem} {len : Nat} {a : UInt32}
    (h : (s.client.reply packet len).map (·.yiaddr) = some a) (ha : a ≠ 0) :
    Keeps s env (.receive packet len) := by
  intro r hr
  rw [hr.2.1] at h
  have heq : r.yiaddr = a := Option.some.inj h
  exact heq ▸ ha

/-- The lease is still BOUND when a tick finds it ended. -/
theorem bounded_of_late_tick : ((leased 3).apply ({ now := 20000 }, .tick)).Bounded := by
  have hoffer : ((leased 1).dhcp.client.reply (serverPacket [dhcpOptMsgType, 1, dhcpMsgOffer,
      dhcpOptServerId, 4, 10, 0, 0, 1, dhcpOptEnd]) 250).map (·.yiaddr) = some 0x0500000A := by
    decide
  have hack : ((leased 2).dhcp.client.reply (serverPacket [dhcpOptMsgType, 1, dhcpMsgAck,
      dhcpOptServerId, 4, 10, 0, 0, 1, dhcpOptLeaseTime, 4, 0, 0, 0, 10, dhcpOptEnd]) 256).map
      (·.yiaddr) = some 0x0500000A := by
    decide
  have hlate : Keeps (leased 3).dhcp { now := 20000 } .tick := fun _ => by decide
  have hrun : Steps KeepingStep (start {} { now := 0 }) (leasing ++ [({ now := 20000 }, DhcpCall.tick)])
      ((leased 3).apply ({ now := 20000 }, .tick)) :=
    .cons ⟨⟨by decide, rfl⟩, trivial⟩ (.cons ⟨⟨by decide, rfl⟩, keeps_receive hoffer (by decide)⟩
      (.cons ⟨⟨by decide, rfl⟩, keeps_receive hack (by decide)⟩ (.cons ⟨⟨by decide, rfl⟩, hlate⟩ (.nil _))))
  exact bounded_of_steps rfl hrun

/-- A tick at the renewal time leaves BOUND, and a tick after the end keeps the lease. -/
theorem kept_past_lease : ¬ ∀ (s : Dhcp) (env : DhcpEnv) (es : List (DhcpEnv × DhcpCall))
    (m : LeaseRun), s.ip.addr = 0 → Steps Step (start s env) es m → m.Bounded := by
  intro hall
  have hbounded := hall {} { now := 0 } (leasing ++ [({ now := 6000 }, DhcpCall.tick),
      ({ now := 20000 }, DhcpCall.tick)]) _ rfl
    (.cons ⟨by decide, rfl⟩ (.cons ⟨by decide, rfl⟩ (.cons ⟨by decide, rfl⟩
      (.cons ⟨by decide, rfl⟩ (.cons ⟨by decide, rfl⟩ (.nil _))))))
  exact absurd (hbounded.dropped (by decide)).1 (by decide)

/-! ## The condition is necessary -/

/-- **The condition is exact.**  From a state that such runs reach, a call keeps what is claimed if and
only if it is none of the cases left out. -/
theorem bounded_iff (h : m.Sound) (hnow : m.now ≤ env.now) :
    (m.apply (env, call)).Bounded ↔ Keeps m.dhcp env call := by
  refine ⟨fun hbounded => ?_, fun hkeeps => (sound_step h ⟨⟨hnow, rfl⟩, hkeeps⟩).bounded⟩
  cases call with
  | init =>
    have hfree : (m.dhcp.dhcpInit env).2.client.lease.valid = false := by
      unfold dhcpInit
      split_ifs
      all_goals rfl
    have haddr : (m.dhcp.dhcpInit env).2.ip = m.dhcp.ip := by
      unfold dhcpInit
      split_ifs
      all_goals rfl
    by_contra hne
    have hvalid := hbounded.configured.mp fun hzero =>
      hne ((congrArg IpConfig.addr haddr).symm.trans hzero)
    exact absurd (hfree.symm.trans hvalid) (by decide)
  | receive packet len =>
    intro r hr hzero
    rcases dhcpInput_cases m.dhcp env packet len with ⟨r', hr', heq⟩ | ⟨hnak, -⟩ | ⟨-, hnot, -⟩
    · obtain rfl : r' = r := Option.some.inj (hr'.2.1.symm.trans hr.2.1)
      have haddr : (m.dhcp.dhcpInput env packet len).2.ip.addr = 0 := by
        rw [heq]
        change htonl r'.yiaddr = 0
        rw [hzero]
        rfl
      refine hbounded.configured.mpr ?_ haddr
      exact (congrArg (fun t : Dhcp => t.client.lease.valid) heq).trans rfl
    · obtain ⟨-, r', hr', hmsg⟩ := hnak
      obtain rfl : r' = r := Option.some.inj (hr'.symm.trans hr.2.1)
      exact absurd (hmsg.symm.trans hr.2.2.1) (by decide)
    · exact hnot r hr
  | tick =>
    intro hover
    by_contra hbound
    have hsame : SameLease m.dhcp (m.dhcp.dhcpTimerTick env) := sameLease_tick hbound
    have hdropped := (hbounded.dropped (decide_eq_true hover)).1
    exact absurd (hdropped.symm.trans ((congrArg DhcpLease.valid hsame.lease).trans hover.1))
      (by decide)
  | _ => exact trivial

theorem bounded_iff_discover : ((start {} { now := 0 }).apply ({ now := 5 }, .discover)).Bounded ↔
    Keeps (start {} { now := 0 }).dhcp { now := 5 } .discover :=
  bounded_iff (sound_start rfl _) (by decide)

/-! ## `dhcp_configure` -/

lemma run_call (hnow : m.now ≤ env.now) (call : DhcpCall) : Steps Step m [(env, call)] (m.apply (env, call)) :=
  .cons ⟨hnow, rfl⟩ (.nil _)

/-- One round calls `dhcp_input`, `dhcp_timer_tick` and `dhcp_discover`. -/
lemma configureRound_run (hnow : m.now ≤ env.now) (packet : Option (Mem × Nat)) :
    ∃ es m', Steps Step m es m' ∧ m'.dhcp = (m.dhcp.configureRound env packet).2 ∧ m'.now ≤ env.now := by
  have hinput : ∃ es m', Steps Step m es m' ∧ m'.now ≤ env.now ∧ m'.dhcp = m.dhcp.configureInput env packet := by
    rcases packet with - | ⟨packet, len⟩
    · exact ⟨[], m, .nil m, hnow, rfl⟩
    · by_cases hlen : 0 < len
      · exact ⟨_, _, run_call hnow (.receive packet len), UInt64.le_refl _, (if_pos hlen).symm⟩
      · exact ⟨[], m, .nil m, hnow, (if_neg hlen).symm⟩
  obtain ⟨es, m₁, hrun, hnow₁, hdhcp⟩ := hinput
  unfold configureRound
  dsimp only
  rw [← hdhcp]
  by_cases hbound : m₁.dhcp.client.state = .bound
  · rw [if_pos hbound]
    exact ⟨es, m₁, hrun, rfl, hnow₁⟩
  rw [if_neg hbound]
  have htick := hrun.append (run_call hnow₁ .tick)
  by_cases hinit : (m₁.dhcp.dhcpTimerTick env).client.state = .init
  · rw [if_pos hinit]
    refine ⟨_, _, htick.append (run_call (m := m₁.apply (env, .tick)) (UInt64.le_refl _) .discover), rfl,
      UInt64.le_refl _⟩
  · rw [if_neg hinit]
    exact ⟨_, _, htick, rfl, UInt64.le_refl _⟩

lemma configureLoop_run (deadline : UInt64) {rounds : List (DhcpEnv × Option (Mem × Nat))}
    (hclock : (m.now :: rounds.map (·.1.now)).Pairwise (· ≤ ·)) :
    ∃ es m', Steps Step m es m' ∧ m'.dhcp = (configureLoop deadline rounds m.dhcp).2 := by
  induction rounds generalizing m with
  | nil => exact ⟨[], m, .nil m, rfl⟩
  | cons round rounds ih =>
    obtain ⟨env, packet⟩ := round
    obtain ⟨hfirst, hrest⟩ := List.pairwise_cons.mp hclock
    have hnow : m.now ≤ env.now := hfirst _ List.mem_cons_self
    unfold configureLoop
    by_cases htime : deadline ≤ env.now
    · rw [if_pos htime]
      exact ⟨[], m, .nil m, rfl⟩
    rw [if_neg htime]
    obtain ⟨es, m₁, hrun, hdhcp, hnow₁⟩ := configureRound_run hnow packet
    generalize m.dhcp.configureRound env packet = answer at hdhcp ⊢
    obtain ⟨result, s₁⟩ := answer
    obtain rfl : m₁.dhcp = s₁ := hdhcp
    cases result with
    | some ret => exact ⟨es, m₁, hrun, rfl⟩
    | none =>
      have hclock₁ : (m₁.now :: rounds.map (·.1.now)).Pairwise (· ≤ ·) := by
        obtain ⟨hlater, hsorted⟩ := List.pairwise_cons.mp hrest
        exact List.pairwise_cons.mpr
          ⟨fun t ht => UInt64.le_trans hnow₁ (hlater t ht), hsorted⟩
      obtain ⟨es', m', hrun', hdhcp'⟩ := ih hclock₁
      exact ⟨es ++ es', m', hrun.append hrun', hdhcp'⟩

/-- **`dhcp_configure` is a run** of the other calls. -/
theorem dhcpConfigure_run {timeoutMs : UInt32} {rounds : List (DhcpEnv × Option (Mem × Nat))}
    (hclock : (m.now :: env.now :: rounds.map (·.1.now)).Pairwise (· ≤ ·)) :
    ∃ es m', Steps Step m es m' ∧ m'.dhcp = (m.dhcp.dhcpConfigure env timeoutMs rounds).2 := by
  obtain ⟨hfirst, hrest⟩ := List.pairwise_cons.mp hclock
  have hnow : m.now ≤ env.now := hfirst _ List.mem_cons_self
  obtain ⟨es, m₁, hrun, hnow₁, hdhcp⟩ : ∃ es m₁, Steps Step m es m₁ ∧ m₁.now ≤ env.now ∧
      m₁.dhcp = (if m.dhcp.client.initialized then (dhcpOk, m.dhcp) else m.dhcp.dhcpInit env).2 := by
    by_cases hinit : m.dhcp.client.initialized = true
    · exact ⟨[], m, .nil m, hnow, by rw [if_pos hinit]⟩
    · exact ⟨_, _, run_call hnow .init, UInt64.le_refl _, by rw [if_neg hinit]; rfl⟩
  unfold dhcpConfigure
  generalize (if m.dhcp.client.initialized then (dhcpOk, m.dhcp) else m.dhcp.dhcpInit env) = answer
    at hdhcp ⊢
  obtain ⟨ret, s₁⟩ := answer
  obtain rfl : m₁.dhcp = s₁ := hdhcp
  dsimp only
  by_cases hfails : ret < 0
  · rw [if_pos hfails]
    exact ⟨es, m₁, hrun, rfl⟩
  rw [if_neg hfails]
  have hdiscover := hrun.append (run_call hnow₁ .discover)
  by_cases hfails' : (m₁.dhcp.dhcpDiscover env).1 < 0
  · rw [if_pos hfails']
    exact ⟨_, _, hdiscover, rfl⟩
  · rw [if_neg hfails']
    obtain ⟨es', m', hrun', hdhcp'⟩ := configureLoop_run (m := m₁.apply (env, .discover))
      (env.now + timeoutMs.toUInt64) hrest
    exact ⟨_, m', hdiscover.append hrun', hdhcp'⟩

/-- Nothing is received until the timeout. -/
theorem dhcpConfigure_run_silent : ∃ es m', Steps Step (start {} { now := 0 }) es m' ∧
    m'.dhcp = ((start {} { now := 0 }).dhcp.dhcpConfigure { now := 0 } 9000
      [({ now := 4000 }, none), ({ now := 9000 }, none)]).2 :=
  dhcpConfigure_run (by decide)

end LeaseRun

end AAAos
