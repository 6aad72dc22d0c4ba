import AAAos.Net.Dhcp.Lease

/-!
# The times of a lease

An ACK carries up to three times.  `dhcp_input` fills in those that are not given, and `dhcp_timer_tick` looks for the
end of the lease first, then for the rebinding time, then for the renewal time.

**What goes wrong.**  The times of the server are taken as they come: nothing puts them in order (`renewal_past_lease`).
And seven times a long lease runs over 32 bits, so that its rebinding time comes too early, even before its renewal.

**What is proved.**  What is stored for every ACK, and when it is in order (`leaseTimes_of_ack`): where the product
fits, exactly if the times given are in order with each other and with what is filled in.
-/

namespace AAAos

deriving instance DecidableEq for DhcpReply

namespace DhcpReply

variable {r : DhcpReply}

/-- The lease time that counts. -/
def countedLease (r : DhcpReply) : UInt32 := if r.lease.leaseTime = 0 then dhcpDefaultLease else r.lease.leaseTime

/-- Seven times the lease time fits into 32 bits, where it is computed. -/
def RebindFits (r : DhcpReply) : Prop := r.lease.rebindTime = 0 → 7 * r.countedLease.toNat < 2 ^ 32

/-- The times given are in order with each other and with the defaults of the others. -/
structure InOrder (r : DhcpReply) : Prop where
  renewal : r.lease.renewalTime.toNat ≤
    if r.lease.rebindTime = 0 then 7 * r.countedLease.toNat / 8 else r.lease.rebindTime.toNat
  rebind : r.lease.rebindTime.toNat ≤ r.countedLease.toNat
  defaultRenewal : r.lease.renewalTime = 0 → r.lease.rebindTime ≠ 0 →
    r.countedLease.toNat / 2 ≤ r.lease.rebindTime.toNat

/-- What is stored for the times of an ACK. -/
structure LeaseTimes (r : DhcpReply) (lease : DhcpLease) : Prop where
  leaseTime : lease.leaseTime = r.countedLease
  renewalGiven : r.lease.renewalTime ≠ 0 → lease.renewalTime = r.lease.renewalTime
  renewalDefault : r.lease.renewalTime = 0 → lease.renewalTime.toNat = lease.leaseTime.toNat / 2
  rebindGiven : r.lease.rebindTime ≠ 0 → lease.rebindTime = r.lease.rebindTime
  rebindDefault : r.lease.rebindTime = 0 → r.RebindFits → lease.rebindTime.toNat = 7 * lease.leaseTime.toNat / 8
  ordered : r.RebindFits → (lease.renewalTime ≤ lease.rebindTime ∧ lease.rebindTime ≤ lease.leaseTime ↔ r.InOrder)

lemma toNat_half (x : UInt32) : (x / 2).toNat = x.toNat / 2 := UInt32.toNat_div x 2

lemma toNat_seven_eighths {x : UInt32} (h : 7 * x.toNat < 2 ^ 32) : (x * 7 / 8).toNat = 7 * x.toNat / 8 := by
  have hproduct : (x * 7).toNat = 7 * x.toNat := by
    rw [UInt32.toNat_mul, show (7 : UInt32).toNat = 7 from rfl, Nat.mul_comm, Nat.mod_eq_of_lt h]
  rw [UInt32.toNat_div, hproduct, show (8 : UInt32).toNat = 8 from rfl]

lemma renewalTime_acked (r : DhcpReply) (now : UInt64) : (r.acked now).renewalTime.toNat =
    if r.lease.renewalTime = 0 then r.countedLease.toNat / 2 else r.lease.renewalTime.toNat := by
  change (if r.lease.renewalTime = 0 then r.countedLease / 2 else r.lease.renewalTime).toNat = _
  rw [apply_ite UInt32.toNat, toNat_half]

lemma rebindTime_acked (h : r.RebindFits) (now : UInt64) : (r.acked now).rebindTime.toNat =
    if r.lease.rebindTime = 0 then 7 * r.countedLease.toNat / 8 else r.lease.rebindTime.toNat := by
  change (if r.lease.rebindTime = 0 then r.countedLease * 7 / 8 else r.lease.rebindTime).toNat = _
  by_cases hgiven : r.lease.rebindTime = 0
  · rw [if_pos hgiven, if_pos hgiven, toNat_seven_eighths (h hgiven)]
  · rw [if_neg hgiven, if_neg hgiven]

lemma ordered_acked (h : r.RebindFits) (now : UInt64) :
    (r.acked now).renewalTime ≤ (r.acked now).rebindTime ∧ (r.acked now).rebindTime ≤ (r.acked now).leaseTime ↔
      r.InOrder := by
  have hlease : (r.acked now).leaseTime.toNat = r.countedLease.toNat := rfl
  have hzero : ∀ x : UInt32, x = 0 ↔ x.toNat = 0 := fun x => UInt32.toNat_inj.symm
  rw [UInt32.le_iff_toNat_le, UInt32.le_iff_toNat_le, renewalTime_acked, rebindTime_acked h, hlease]
  constructor
  · rintro ⟨hrenewal, hrebind⟩
    refine ⟨?_, ?_, fun hnone hgiven => ?_⟩
    · by_cases hnone : r.lease.renewalTime = 0
      · rw [(hzero _).mp hnone]
        exact Nat.zero_le _
      · rw [if_neg hnone] at hrenewal
        exact hrenewal
    · by_cases hnone : r.lease.rebindTime = 0
      · rw [(hzero _).mp hnone]
        exact Nat.zero_le _
      · rw [if_neg hnone] at hrebind
        exact hrebind
    · rw [if_pos hnone, if_neg hgiven] at hrenewal
      exact hrenewal
  · rintro ⟨hrenewal, hrebind, hdefault⟩
    by_cases hrebinding : r.lease.rebindTime = 0
    · rw [if_pos hrebinding] at hrenewal ⊢
      refine ⟨?_, by omega⟩
      split_ifs
      · omega
      · exact hrenewal
    · rw [if_neg hrebinding] at hrenewal ⊢
      refine ⟨?_, hrebind⟩
      split_ifs with hnone
      · exact hdefault hnone hrebinding
      · exact hrenewal

lemma leaseTimes_acked (r : DhcpReply) (now : UInt64) : r.LeaseTimes (r.acked now) where
  leaseTime := rfl
  renewalGiven h := if_neg h
  renewalDefault h := by
    rw [renewalTime_acked, if_pos h]
    rfl
  rebindGiven h := if_neg h
  rebindDefault h hfits := by
    rw [rebindTime_acked hfits, if_pos h]
    rfl
  ordered hfits := ordered_acked hfits now

end DhcpReply

namespace Dhcp

open LeaseRun

variable {s : Dhcp} {env : DhcpEnv} {packet : Mem} {len : Nat} {r : DhcpReply}

lemma lease_of_ack (h : s.TakesAck packet len r) : (s.dhcpInput env packet len).2.client.lease = r.acked env.now := by
  rcases dhcpInput_cases s env packet len with ⟨r', hr', heq⟩ | ⟨⟨-, r', hr', hnak⟩, -⟩ | ⟨-, hnot, -⟩
  · obtain rfl : r' = r := Option.some.inj (hr'.2.1.symm.trans h.2.1)
    rw [heq]
    rfl
  · obtain rfl : r' = r := Option.some.inj (hr'.symm.trans h.2.1)
    exact absurd (hnak.symm.trans h.2.2.1) (by decide)
  · exact absurd h (hnot r)

/-- **The times of the lease.** -/
theorem leaseTimes_of_ack (h : s.TakesAck packet len r) :
    r.LeaseTimes (s.dhcpInput env packet len).2.client.lease := by
  rw [lease_of_ack h]
  exact r.leaseTimes_acked env.now

/-! ## ACKs with times -/

/-- An ACK with options behind its type. -/
def ackPacket (options : List UInt8) : Mem := serverPacket (dhcpOptMsgType :: 1 :: dhcpMsgAck :: options)

/-- A lease of ten seconds without the other times is renewed after five and rebound after eight. -/
theorem leaseTimes_ten_seconds : DhcpReply.LeaseTimes ⟨dhcpMsgAck, 0x0500000A, { leaseTime := 10 }⟩
      ((leased 2).dhcp.dhcpInput { now := 0 }
        (ackPacket [dhcpOptLeaseTime, 4, 0, 0, 0, 10, dhcpOptEnd]) 250).2.client.lease :=
  leaseTimes_of_ack ⟨by decide, by decide, rfl, by decide⟩

/-- A server can put the renewal behind the end of the lease. -/
theorem renewal_past_lease : ∃ r : DhcpReply, ∃ packet : Mem, (leased 2).dhcp.TakesAck packet 256 r ∧
    ¬ ((leased 2).dhcp.dhcpInput { now := 0 } packet 256).2.client.lease.renewalTime ≤
      ((leased 2).dhcp.dhcpInput { now := 0 } packet 256).2.client.lease.rebindTime :=
  ⟨⟨dhcpMsgAck, 0x0500000A, { leaseTime := 10, renewalTime := 20 }⟩,
    ackPacket [dhcpOptLeaseTime, 4, 0, 0, 0, 10, dhcpOptRenewalTime, 4, 0, 0, 0, 20, dhcpOptEnd],
    ⟨by decide, by decide, rfl, by decide⟩, by decide⟩

/-- A lease of 2^30 seconds is rebound 2^29 seconds too early, and before it is renewed. -/
example : (DhcpReply.acked ⟨dhcpMsgAck, 0x0500000A, { leaseTime := 0x40000000 }⟩ 0).rebindTime = 0x18000000 ∧
    (DhcpReply.acked ⟨dhcpMsgAck, 0x0500000A, { leaseTime := 0x40000000 }⟩ 0).renewalTime = 0x20000000 := by
  decide

end Dhcp

end AAAos
