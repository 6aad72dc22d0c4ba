import AAAos.Drivers.Network.E1000
import AAAos.Kernel.Mm.VmmMapping

/-!
# Who owns the transmit ring

The driver takes a descriptor back when it is marked done, the card takes a descriptor when the head is not
the tail.  The frames that are accepted are counted, and so are those that are transmitted: the head and the
tail are these two numbers modulo 256, and a frame between them lies in its own slot.

**What goes wrong.**  With 256 frames between them the head is the tail, and the card is idle.  Every
descriptor is marked done at first, so nothing keeps the driver from accepting that many
(`full_ring_idle`).  The next call then waits for a descriptor that nobody will mark.

**What is proved.**  In every run after `e1000_init_tx`, however the driver and the card take turns, the
frames transmitted are the first of those accepted, what is handed to the card stays as it was, and the
driver writes to no buffer of it (`ordered_of_steps`).  If moreover the tail is never moved onto the head,
every accepted frame has been transmitted when the card is idle (`ring_owned_of_steps`).
-/

namespace AAAos

/-! ## Positions -/

lemma txSlot_val (n : Nat) : (txSlot n).val = n % 256 := rfl

lemma txSlot_next (n : Nat) : txSlot ((txSlot n).val + 1) = txSlot (n + 1) := by
  refine Fin.ext ?_
  rw [txSlot_val, txSlot_val, txSlot_val]
  omega

lemma txSlot_ne {p q n : Nat} (hp : n ≤ p) (hpq : p < q) (hq : q < n + 256) : txSlot p ≠ txSlot q := by
  intro heq
  have hval := congrArg Fin.val heq
  rw [txSlot_val, txSlot_val] at hval
  omega

/-! ## Starting -/

section Starting

open Vmm

variable {α : Type} {src : PageSource α}

/-- What the loop over the buffers has done for some descriptors. -/
structure Buffered (src : PageSource α) (is : List TxIndex) (a a' : α) (s s' : E1000) : Prop where
  ok : src.Ok a'
  kept : ∀ q, src.Taken a q → src.Taken a' q
  taken : ∀ i ∈ is, src.Taken a' (s'.txBuffersPhys i)
  fresh : ∀ i ∈ is, ¬ src.Taken a (s'.txBuffersPhys i)
  distinct : ∀ i ∈ is, ∀ j ∈ is, s'.txBuffersPhys i = s'.txBuffersPhys j → i = j
  done : ∀ i ∈ is, (s'.txDescs i).status = e1000TxdStatDd
  other : ∀ i ∉ is, s'.txBuffersPhys i = s.txBuffersPhys i ∧ s'.txDescs i = s.txDescs i

lemma initTxBuffers_spec {is : List TxIndex} (hnodup : is.Nodup) {a a' : α} {s s' : E1000}
    (hok : src.Ok a) (h : E1000.initTxBuffers src.alloc is a s = (true, a', s')) :
    Buffered src is a a' s s' := by
  induction is generalizing a s with
  | nil =>
    obtain ⟨rfl, rfl⟩ := Prod.mk.inj (Prod.mk.inj h).2
    exact ⟨hok, fun _ hq => hq, by simp, by simp, by simp, by simp, fun _ _ => ⟨rfl, rfl⟩⟩
  | cons i is ih =>
    obtain ⟨hi, hnodup⟩ := List.nodup_cons.mp hnodup
    unfold E1000.initTxBuffers at h
    dsimp only at h
    split_ifs at h with hzero
    · exact Bool.noConfusion (Prod.mk.inj h).1
    have hrest := ih hnodup (src.ok hok) h
    obtain ⟨hphys, hdesc⟩ := hrest.other i hi
    have hphys : s'.txBuffersPhys i = (src.alloc a).1 := hphys.trans (Function.update_self _ _ _)
    have hdone : (s'.txDescs i).status = e1000TxdStatDd := by
      rw [hdesc, E1000.setDesc_self]
    have htaken : src.Taken a' (s'.txBuffersPhys i) := by
      rw [hphys]
      exact hrest.kept _ (src.taken hok hzero)
    have hnew : ∀ j ∈ is, s'.txBuffersPhys j ≠ s'.txBuffersPhys i := fun j hj heq => by
      refine hrest.fresh j hj ?_
      rw [heq, hphys]
      exact src.taken hok hzero
    refine ⟨hrest.ok, fun q hq => hrest.kept q (src.keeps hok hq), fun j hj => ?_, fun j hj => ?_,
      fun j hj k hk heq => ?_, fun j hj => ?_, fun j hj => ?_⟩
    · rcases List.mem_cons.mp hj with rfl | hj
      · exact htaken
      · exact hrest.taken j hj
    · rcases List.mem_cons.mp hj with rfl | hj
      · rw [hphys]
        exact src.fresh hok hzero
      · exact fun hold => hrest.fresh j hj (src.keeps hok hold)
    · rcases List.mem_cons.mp hj with rfl | hj'
      · rcases List.mem_cons.mp hk with rfl | hk'
        · rfl
        · exact absurd heq.symm (hnew k hk')
      · rcases List.mem_cons.mp hk with rfl | hk'
        · exact absurd heq (hnew j hj')
        · exact hrest.distinct j hj' k hk' heq
    · rcases List.mem_cons.mp hj with rfl | hj
      · exact hdone
      · exact hrest.done j hj
    · obtain ⟨hne, hj⟩ := not_or.mp (List.mem_cons.not.mp hj)
      obtain ⟨hphys', hdesc'⟩ := hrest.other j hj
      exact ⟨hphys'.trans (Function.update_of_ne hne _ _), hdesc'.trans (E1000.setDesc_of_ne _ _ hne)⟩

/-- The ring is empty, and every descriptor has a buffer of its own. -/
structure E1000.Ready (s : E1000) : Prop where
  txCur : s.txCur = txSlot 0
  tdh : s.tdh = txSlot 0
  tdt : s.tdt = txSlot 0
  buffers : ∀ i j, s.txBuffersPhys i = s.txBuffersPhys j → i = j
  done : ∀ i, (s.txDescs i).status = e1000TxdStatDd

/-- **`e1000_init_tx`.** -/
lemma e1000InitTx_ready {ring : UInt64} {a a' : α} {s s' : E1000} (hok : src.Ok a)
    (h : s.e1000InitTx src.alloc ring a = (true, a', s')) : s'.Ready := by
  unfold E1000.e1000InitTx at h
  by_cases hring : ring = 0
  · rw [if_pos hring] at h
    exact Bool.noConfusion (Prod.mk.inj h).1
  rw [if_neg hring] at h
  dsimp only at h
  obtain ⟨r, hr⟩ : ∃ r, E1000.initTxBuffers src.alloc (List.finRange e1000NumTxDesc) a
      { s with txDescs := fun _ => {} } = r := ⟨_, rfl⟩
  rw [hr] at h
  obtain ⟨ret, a₁, s₁⟩ := r
  cases ret with
  | false => exact Bool.noConfusion (Prod.mk.inj h).1
  | true =>
    obtain ⟨-, rfl⟩ := Prod.mk.inj (Prod.mk.inj h).2
    have hspec := initTxBuffers_spec (List.nodup_finRange _) hok hr
    exact ⟨rfl, rfl, rfl, fun i j heq => hspec.distinct i (List.mem_finRange i) j (List.mem_finRange j) heq,
      fun i => hspec.done i (List.mem_finRange i)⟩

end Starting

/-! ## Runs -/

/-- What happens: a call begins, the driver makes its next access, or the card makes a step. -/
inductive TxEvent
  | send (data : Option (List UInt8))
  | driver
  | card

/-- The device, the call that is being made, the frames for which `e1000_send_packet` has returned their
length, and those that were transmitted. -/
structure TxRun where
  dev : E1000
  sending : Option (List UInt8 × SendPc) := none
  accepted : List (List UInt8) := []
  transmitted : List (List UInt8) := []

namespace TxRun

variable {m m' : TxRun} {dev : E1000} {data : List UInt8} {pc : SendPc}

/-- The next access of the call. -/
def drive (m : TxRun) (data : List UInt8) (pc : SendPc) : TxRun :=
  let r := m.dev.sendStep data pc
  match r.2 with
  | .inl pc => { m with dev := r.1, sending := some (data, pc) }
  | .inr ret =>
    { m with
      dev := r.1
      sending := none
      accepted := if ret = data.length then m.accepted ++ [data] else m.accepted }

/-- A step of the card. -/
def transmit (m : TxRun) : TxRun :=
  let r := m.dev.cardStep
  match r.1 with
  | none => { m with dev := r.2 }
  | some frame => { m with dev := r.2, transmitted := m.transmitted ++ [frame] }

def apply (m : TxRun) : TxEvent → TxRun
  | .send data =>
    match m.dev.e1000SendPacket data with
    | .inl pc => { m with sending := data.map fun data => (data, pc) }
    | .inr _ => m
  | .driver =>
    match m.sending with
    | none => m
    | some (data, pc) => m.drive data pc
  | .card => m.transmit

/-- A call begins when no other is being made. -/
def Step (m : TxRun) (e : TxEvent) (m' : TxRun) : Prop :=
  (∀ data, e = .send data → m.sending = none) ∧ m' = m.apply e

/-- The tail is not moved onto the head. -/
def Keeps (m : TxRun) : TxEvent → Prop
  | .driver => ∀ data, m.sending = some (data, .tail) → txSlot (m.dev.txCur.val + 1) ≠ m.dev.tdh
  | _ => True

def KeepingStep (m : TxRun) (e : TxEvent) (m' : TxRun) : Prop := m.Keeps e ∧ m.Step e m'

/-- The number of frames that are between the driver and the card. -/
def waiting (m : TxRun) : Nat := m.accepted.length - m.transmitted.length

/-- **The frames are transmitted in order and unchanged**, and no buffer that was handed to the card is
written. -/
structure Ordered (m : TxRun) : Prop where
  ordered : m.transmitted <+: m.accepted
  intact : ∀ k < m.waiting, m.accepted[m.transmitted.length + k]? = some (m.dev.frame (txSlot (m.dev.tdh.val + k)))
  apart : ∀ data n, m.sending = some (data, .copy n) → ∀ k < m.waiting,
    (m.dev.txDescs (txSlot (m.dev.tdh.val + k))).bufferAddr ≠ m.dev.txBuffersPhys m.dev.txCur

/-- **The driver and the card own what they should**: also, an idle card has transmitted everything. -/
structure Owned (m : TxRun) : Prop extends Ordered m where
  drained : m.dev.tdh = m.dev.tdt → m.transmitted = m.accepted

/-! ## The invariant -/

/-- A slot holds a frame for the card. -/
structure Handed (dev : E1000) (i : TxIndex) (frame : List UInt8) : Prop where
  status : (dev.txDescs i).status &&& e1000TxdStatDd = 0
  bufferAddr : (dev.txDescs i).bufferAddr = dev.txBuffersPhys i
  frame : dev.frame i = frame

/-- The first bytes of a frame are in the buffer of the current slot. -/
def Copied (dev : E1000) (data : List UInt8) (n : Nat) : Prop :=
  ∀ k < n, dev.page (dev.txBuffersPhys dev.txCur) k = data.getD k 0

/-- What a call has prepared. -/
def Prepared (dev : E1000) (data : List UInt8) : SendPc → Prop
  | .wait _ => True
  | .copy n => Copied dev data n
  | .bufferAddr => Copied dev data data.length
  | .length => Copied dev data data.length ∧
      (dev.txDescs dev.txCur).bufferAddr = dev.txBuffersPhys dev.txCur
  | .cmd | .status => Copied dev data data.length ∧
      (dev.txDescs dev.txCur).bufferAddr = dev.txBuffersPhys dev.txCur ∧
      (dev.txDescs dev.txCur).length = UInt16.ofNat data.length
  | .tail => Copied dev data data.length ∧
      (dev.txDescs dev.txCur).bufferAddr = dev.txBuffersPhys dev.txCur ∧
      (dev.txDescs dev.txCur).length = UInt16.ofNat data.length ∧
      (dev.txDescs dev.txCur).status = 0

structure Sound (m : TxRun) : Prop where
  ordered : m.transmitted <+: m.accepted
  bound : m.accepted.length ≤ m.transmitted.length + 256
  tdh : m.dev.tdh = txSlot m.transmitted.length
  txCur : m.dev.txCur = txSlot m.accepted.length
  tdt : m.dev.tdt = m.dev.txCur
  buffers : ∀ i j, m.dev.txBuffersPhys i = m.dev.txBuffersPhys j → i = j
  handed : ∀ p frame, m.transmitted.length ≤ p → m.accepted[p]? = some frame → Handed m.dev (txSlot p) frame
  sending : ∀ data pc, m.sending = some (data, pc) → data.length ≤ e1000MaxPacketSize ∧ Prepared m.dev data pc ∧
    ((∀ t, pc ≠ .wait t) → m.accepted.length < m.transmitted.length + 256)

lemma Sound.length_le (h : m.Sound) : m.transmitted.length ≤ m.accepted.length := h.ordered.length_le

/-- A position between the head and the tail is not that of the tail, if the ring is not full. -/
lemma Sound.slot_ne (h : m.Sound) (hroom : m.accepted.length < m.transmitted.length + 256) {p : Nat}
    {frame : List UInt8} (hp : m.transmitted.length ≤ p) (hframe : m.accepted[p]? = some frame) :
    txSlot p ≠ m.dev.txCur := by
  obtain ⟨hlt, -⟩ := List.getElem?_eq_some_iff.mp hframe
  rw [h.txCur]
  exact txSlot_ne hp hlt hroom

lemma Sound.toOrdered (h : m.Sound) : m.Ordered := by
  have hslot : ∀ k, txSlot (m.dev.tdh.val + k) = txSlot (m.transmitted.length + k) := fun k => by
    refine Fin.ext ?_
    rw [h.tdh, txSlot_val, txSlot_val, txSlot_val]
    omega
  have hframe : ∀ k < m.waiting, ∃ frame, m.accepted[m.transmitted.length + k]? = some frame := by
    intro k hk
    unfold waiting at hk
    exact ⟨_, List.getElem?_eq_getElem (by omega)⟩
  refine ⟨h.ordered, fun k hk => ?_, fun data n hsending k hk => ?_⟩
  · obtain ⟨frame, hframe⟩ := hframe k hk
    rw [hframe, hslot, (h.handed _ frame (Nat.le_add_right _ k) hframe).frame]
  · obtain ⟨frame, hframe⟩ := hframe k hk
    obtain ⟨-, -, hroom⟩ := h.sending data _ hsending
    rw [hslot, (h.handed _ frame (Nat.le_add_right _ k) hframe).bufferAddr]
    exact fun heq => h.slot_ne (hroom fun _ => SendPc.noConfusion) (Nat.le_add_right _ k) hframe
      (h.buffers _ _ heq)

/-- **The card is idle** if nothing waits, and also if the ring is full. -/
lemma Sound.idle_iff (h : m.Sound) : m.dev.tdh = m.dev.tdt ↔
    m.accepted.length = m.transmitted.length ∨ m.accepted.length = m.transmitted.length + 256 := by
  have hle := h.length_le
  have hbound := h.bound
  rw [h.tdt, h.txCur, h.tdh]
  constructor
  · intro heq
    have hval := congrArg Fin.val heq
    rw [txSlot_val, txSlot_val] at hval
    omega
  · intro hcases
    refine Fin.ext ?_
    rw [txSlot_val, txSlot_val]
    omega

lemma Sound.owned_iff (h : m.Sound) : m.Owned ↔ m.accepted.length < m.transmitted.length + 256 := by
  have hbound := h.bound
  constructor
  · intro howned
    refine lt_of_le_of_ne hbound fun hfull => ?_
    have hall := congrArg List.length (howned.drained (h.idle_iff.mpr (.inr hfull)))
    omega
  · intro hroom
    refine ⟨h.toOrdered, fun hidle => ?_⟩
    have hlength : m.accepted.length = m.transmitted.length :=
      (h.idle_iff.mp hidle).resolve_right (Nat.ne_of_lt hroom)
    exact h.ordered.eq_of_length hlength.symm

/-! ## Steps of the driver -/

lemma Sound.keep (h : m.Sound) {sending : Option (List UInt8 × SendPc)} (hcur : dev.txCur = m.dev.txCur)
    (htdh : dev.tdh = m.dev.tdh) (htdt : dev.tdt = m.dev.tdt)
    (hphys : dev.txBuffersPhys = m.dev.txBuffersPhys)
    (hdesc : ∀ p frame, m.transmitted.length ≤ p → m.accepted[p]? = some frame →
      dev.txDescs (txSlot p) = m.dev.txDescs (txSlot p))
    (hpage : ∀ p frame, m.transmitted.length ≤ p → m.accepted[p]? = some frame →
      dev.page (m.dev.txBuffersPhys (txSlot p)) = m.dev.page (m.dev.txBuffersPhys (txSlot p)))
    (hsending : ∀ data pc, sending = some (data, pc) → data.length ≤ e1000MaxPacketSize ∧ Prepared dev data pc ∧
      ((∀ t, pc ≠ .wait t) → m.accepted.length < m.transmitted.length + 256)) :
    Sound { m with dev := dev, sending := sending } := by
  refine ⟨h.ordered, h.bound, htdh.trans h.tdh, hcur.trans h.txCur, ?_, ?_, fun p frame hp hframe => ?_,
    hsending⟩
  · exact htdt.trans (h.tdt.trans hcur.symm)
  · dsimp only
    rw [hphys]
    exact h.buffers
  · obtain ⟨hstatus, haddr, hbytes⟩ := h.handed p frame hp hframe
    have hsame := hdesc p frame hp hframe
    refine ⟨?_, ?_, ?_⟩
    · dsimp only
      rw [hsame]
      exact hstatus
    · dsimp only
      rw [hsame, hphys]
      exact haddr
    · unfold E1000.frame at hbytes ⊢
      dsimp only
      rw [hsame]
      rw [haddr] at hbytes ⊢
      rw [hpage p frame hp hframe]
      exact hbytes

lemma Sound.setDesc (h : m.Sound) (hroom : m.accepted.length < m.transmitted.length + 256)
    (hlen : data.length ≤ e1000MaxPacketSize) {d : TxDesc}
    (hprepared : Prepared (m.dev.setDesc m.dev.txCur d) data pc) :
    Sound { m with dev := m.dev.setDesc m.dev.txCur d, sending := some (data, pc) } := by
  refine h.keep rfl rfl rfl rfl (fun p frame hp hframe => ?_) (fun _ _ _ _ => rfl)
    fun data' pc' heq => ?_
  · exact m.dev.setDesc_of_ne d (h.slot_ne hroom hp hframe)
  · obtain ⟨rfl, rfl⟩ := Prod.mk.inj (Option.some.inj heq)
    exact ⟨hlen, hprepared, fun _ => hroom⟩

lemma frame_of_copied {i : TxIndex} (hlen : data.length ≤ e1000MaxPacketSize)
    (hbytes : ∀ k < data.length, dev.page (dev.txBuffersPhys i) k = data.getD k 0)
    (haddr : (dev.txDescs i).bufferAddr = dev.txBuffersPhys i)
    (hlength : (dev.txDescs i).length = UInt16.ofNat data.length) : dev.frame i = data := by
  have hsize : (UInt16.ofNat data.length).toNat = data.length := by
    rw [UInt16.toNat_ofNat', Nat.mod_eq_of_lt]
    exact lt_of_le_of_lt hlen (by decide)
  unfold E1000.frame
  rw [haddr, hlength, hsize]
  refine List.ext_getElem (by simp) fun k hk hk' => ?_
  rw [List.getElem_map, List.getElem_range, hbytes k hk', List.getD_eq_getElem _ _ hk']

/-- **The tail is moved.** -/
lemma Sound.accept (h : m.Sound) (hsending : m.sending = some (data, .tail)) : (m.drive data .tail).Sound := by
  obtain ⟨hlen, ⟨hbytes, haddr, hlength, hstatus⟩, hroom⟩ := h.sending data _ hsending
  have hroom := hroom fun _ => SendPc.noConfusion
  have hcur := h.txCur
  unfold drive E1000.sendStep
  dsimp only
  rw [if_pos rfl]
  refine ⟨h.ordered.trans (List.prefix_append _ _), ?_, h.tdh, ?_, rfl, h.buffers,
    fun p frame hp hframe => ?_, fun _ _ hnone => nomatch hnone⟩
  · rw [List.length_append, List.length_singleton]
    dsimp only
    omega
  · rw [List.length_append, List.length_singleton]
    dsimp only
    rw [hcur, txSlot_next]
  · by_cases hlast : p < m.accepted.length
    · rw [List.getElem?_append_left hlast] at hframe
      obtain ⟨hstatus, haddr, hframe⟩ := h.handed p frame hp hframe
      exact ⟨hstatus, haddr, hframe⟩
    · have hp' : p = m.accepted.length := by
        obtain ⟨hlt, -⟩ := List.getElem?_eq_some_iff.mp hframe
        rw [List.length_append, List.length_singleton] at hlt
        omega
      rw [hp', List.getElem?_concat_length] at hframe
      obtain rfl := Option.some.inj hframe
      rw [hp', ← hcur]
      refine ⟨?_, haddr, frame_of_copied hlen hbytes haddr hlength⟩
      dsimp only
      rw [hstatus]
      decide

/-- **One access of the driver.** -/
lemma Sound.drive (h : m.Sound) (hsending : m.sending = some (data, pc)) : (m.drive data pc).Sound := by
  obtain ⟨hlen, hprepared, hroom⟩ := h.sending data pc hsending
  cases pc with
  | wait timeout =>
    unfold TxRun.drive E1000.sendStep
    dsimp only
    by_cases hdone : (m.dev.txDescs m.dev.txCur).status &&& e1000TxdStatDd ≠ 0
    · rw [if_pos hdone]
      -- a full ring would have the slot of the tail at the head, and it is not marked done
      have hroom : m.accepted.length < m.transmitted.length + 256 := by
        refine lt_of_le_of_ne h.bound fun hfull => hdone ?_
        have hslot : m.dev.txCur = txSlot m.transmitted.length := by
          rw [h.txCur, hfull]
          refine Fin.ext ?_
          rw [txSlot_val, txSlot_val]
          omega
        rw [hslot]
        exact (h.handed _ _ (Nat.le_refl _) (List.getElem?_eq_getElem (by omega))).status
      refine h.keep rfl rfl rfl rfl (fun _ _ _ _ => rfl) (fun _ _ _ _ => rfl) fun data' pc' heq => ?_
      obtain ⟨rfl, rfl⟩ := Prod.mk.inj (Option.some.inj heq)
      exact ⟨hlen, fun k hk => absurd hk (Nat.not_lt_zero k), fun _ => hroom⟩
    · rw [if_neg hdone]
      by_cases hlast : timeout - 1 = 0
      · rw [if_pos hlast]
        dsimp only
        rw [if_neg (by omega)]
        exact h.keep rfl rfl rfl rfl (fun _ _ _ _ => rfl) (fun _ _ _ _ => rfl)
          fun _ _ hnone => nomatch hnone
      · rw [if_neg hlast]
        refine h.keep rfl rfl rfl rfl (fun _ _ _ _ => rfl) (fun _ _ _ _ => rfl) fun data' pc' heq => ?_
        obtain ⟨rfl, rfl⟩ := Prod.mk.inj (Option.some.inj heq)
        exact ⟨hlen, trivial, fun hwait => absurd rfl (hwait (timeout - 1))⟩
  | copy n =>
    have hroom := hroom fun _ => SendPc.noConfusion
    unfold TxRun.drive E1000.sendStep
    dsimp only
    by_cases hmore : n < data.length
    · rw [if_pos hmore]
      refine h.keep rfl rfl rfl rfl (fun _ _ _ _ => rfl) (fun p frame hp hframe => ?_)
        fun data' pc' heq => ?_
      · refine m.dev.setByte_of_ne n _ fun heq => ?_
        exact h.slot_ne hroom hp hframe (h.buffers _ _ heq)
      · obtain ⟨rfl, rfl⟩ := Prod.mk.inj (Option.some.inj heq)
        refine ⟨hlen, fun k hk => ?_, fun _ => hroom⟩
        have hpage := congrFun (m.dev.setByte_self (m.dev.txBuffersPhys m.dev.txCur) n (data.getD n 0)) k
        refine hpage.trans ?_
        by_cases hkn : k = n
        · rw [hkn, Function.update_self]
        · rw [Function.update_of_ne hkn]
          exact hprepared k (lt_of_le_of_ne (Nat.le_of_lt_succ hk) hkn)
    · rw [if_neg hmore]
      refine h.keep rfl rfl rfl rfl (fun _ _ _ _ => rfl) (fun _ _ _ _ => rfl) fun data' pc' heq => ?_
      obtain ⟨rfl, rfl⟩ := Prod.mk.inj (Option.some.inj heq)
      exact ⟨hlen, fun k hk => hprepared k (lt_of_lt_of_le hk (Nat.not_lt.mp hmore)), fun _ => hroom⟩
  | bufferAddr =>
    refine h.setDesc (hroom fun _ => SendPc.noConfusion) hlen ⟨hprepared, ?_⟩
    exact congrArg TxDesc.bufferAddr (m.dev.setDesc_self m.dev.txCur _)
  | length =>
    refine h.setDesc (hroom fun _ => SendPc.noConfusion) hlen ⟨hprepared.1, ?_⟩
    rw [E1000.setDesc_txCur, E1000.setDesc_self, E1000.setDesc_txBuffersPhys]
    exact ⟨hprepared.2, rfl⟩
  | cmd =>
    refine h.setDesc (hroom fun _ => SendPc.noConfusion) hlen ⟨hprepared.1, ?_⟩
    rw [E1000.setDesc_txCur, E1000.setDesc_self, E1000.setDesc_txBuffersPhys]
    exact hprepared.2
  | status =>
    refine h.setDesc (hroom fun _ => SendPc.noConfusion) hlen ⟨hprepared.1, ?_⟩
    rw [E1000.setDesc_txCur, E1000.setDesc_self, E1000.setDesc_txBuffersPhys]
    exact ⟨hprepared.2.1, hprepared.2.2, rfl⟩
  | tail => exact h.accept hsending

/-! ## Steps of the card -/

lemma Prepared.congr {dev' : E1000} (h : Prepared dev data pc) (hcur : dev'.txCur = dev.txCur)
    (hphys : dev'.txBuffersPhys = dev.txBuffersPhys) (hpage : dev'.page = dev.page)
    (hdesc : dev'.txDescs dev.txCur = dev.txDescs dev.txCur) : Prepared dev' data pc := by
  unfold Prepared Copied at h ⊢
  rw [hcur, hphys, hpage, hdesc]
  exact h

/-- **The card takes the oldest frame.** -/
lemma Sound.transmit (h : m.Sound) : m.transmit.Sound := by
  unfold TxRun.transmit E1000.cardStep
  by_cases hidle : m.dev.tdh = m.dev.tdt
  · rw [if_pos hidle]
    exact h
  rw [if_neg hidle]
  have hle := h.length_le
  have hwaiting : m.transmitted.length < m.accepted.length :=
    lt_of_le_of_ne hle fun heq => hidle (h.idle_iff.mpr (.inl heq.symm))
  have hroom : m.accepted.length < m.transmitted.length + 256 :=
    lt_of_le_of_ne h.bound fun hfull => hidle (h.idle_iff.mpr (.inr hfull))
  have hhead : m.accepted[m.transmitted.length]? = some m.accepted[m.transmitted.length] :=
    List.getElem?_eq_getElem hwaiting
  have hframe := (h.handed _ _ (Nat.le_refl _) hhead).frame
  have hne : m.dev.txCur ≠ m.dev.tdh := by
    rw [h.tdh]
    exact fun heq => h.slot_ne hroom (Nat.le_refl _) hhead heq.symm
  have hlength : ∀ frame : List UInt8, (m.transmitted ++ [frame]).length = m.transmitted.length + 1 :=
    fun frame => by rw [List.length_append, List.length_singleton]
  refine ⟨?_, ?_, ?_, h.txCur, h.tdt, h.buffers, fun p frame hp hframe' => ?_,
    fun data pc hsending => ?_⟩
  · rw [h.tdh, hframe, List.prefix_iff_eq_take, hlength, List.take_add_one, hhead,
      ← List.prefix_iff_eq_take.mp h.ordered]
    rfl
  · dsimp only
    rw [hlength]
    omega
  · dsimp only
    rw [hlength, h.tdh, txSlot_next]
  · dsimp only at hp
    rw [hlength] at hp
    obtain ⟨hlt, -⟩ := List.getElem?_eq_some_iff.mp hframe'
    have hslot : txSlot p ≠ m.dev.tdh := by
      rw [h.tdh]
      exact (txSlot_ne (Nat.le_refl _) (Nat.lt_of_succ_le hp) (lt_trans hlt hroom)).symm
    obtain ⟨hstatus, haddr, hbytes⟩ := h.handed p frame (Nat.le_of_succ_le hp) hframe'
    have hsame := m.dev.setDesc_of_ne
      { m.dev.txDescs m.dev.tdh with status := (m.dev.txDescs m.dev.tdh).status ||| e1000TxdStatDd } hslot
    refine ⟨?_, ?_, ?_⟩
    · dsimp only
      rw [hsame]
      exact hstatus
    · dsimp only
      rw [hsame]
      exact haddr
    · unfold E1000.frame at hbytes ⊢
      dsimp only
      rw [hsame]
      exact hbytes
  · obtain ⟨hlen, hprepared, -⟩ := h.sending data pc hsending
    have hsame := m.dev.setDesc_of_ne
      { m.dev.txDescs m.dev.tdh with status := (m.dev.txDescs m.dev.tdh).status ||| e1000TxdStatDd } hne
    refine ⟨hlen, hprepared.congr rfl rfl rfl hsame, fun _ => ?_⟩
    dsimp only
    rw [hlength]
    omega

/-! ## Runs of the two -/

lemma Sound.send (h : m.Sound) (data : Option (List UInt8)) : (m.apply (.send data)).Sound := by
  unfold apply E1000.e1000SendPacket
  dsimp only
  by_cases hinit : (!m.dev.initialized) = true
  · rw [if_pos hinit]
    exact h
  rw [if_neg hinit]
  cases data with
  | none => exact h
  | some data =>
    dsimp only
    by_cases hzero : data.length = 0
    · rw [if_pos hzero]
      exact h
    by_cases hlarge : e1000MaxPacketSize < data.length
    · rw [if_neg hzero, if_pos hlarge]
      exact h
    rw [if_neg hzero, if_neg hlarge]
    refine h.keep rfl rfl rfl rfl (fun _ _ _ _ => rfl) (fun _ _ _ _ => rfl) fun data' pc' heq => ?_
    obtain ⟨rfl, rfl⟩ := Prod.mk.inj (Option.some.inj heq)
    exact ⟨Nat.not_lt.mp hlarge, trivial, fun hwait => absurd rfl (hwait e1000TxTimeout)⟩

/-- **The invariant is kept**, by every step of either side. -/
lemma sound_step {e : TxEvent} (h : m.Sound) (hstep : m.Step e m') : m'.Sound := by
  obtain ⟨-, rfl⟩ := hstep
  cases e with
  | send data => exact h.send data
  | driver =>
    unfold apply
    dsimp only
    split
    · exact h
    · rename_i data pc hsending
      exact h.drive hsending
  | card => exact h.transmit

/-- After `e1000_init`. -/
def afterInit (dev : E1000) : TxRun := { dev := { dev with initialized := true } }

lemma sound_afterInit (h : dev.Ready) : (afterInit dev).Sound :=
  ⟨List.nil_prefix, Nat.zero_le _, h.tdh, h.txCur, h.tdt.trans h.txCur.symm, h.buffers,
    (fun _ _ _ hframe => nomatch hframe), fun _ _ hsending => nomatch hsending⟩

/-- **The frames are transmitted in order and unchanged**, whatever the driver and the card do. -/
theorem ordered_of_steps {α : Type} {src : Vmm.PageSource α} {ring : UInt64} {a a' : α} {s : E1000}
    (hok : src.Ok a) (hinit : s.e1000InitTx src.alloc ring a = (true, a', dev)) (events : List TxEvent)
    (m : TxRun) (hrun : Steps Step (afterInit dev) events m) : m.Ordered :=
  (hrun.invariant (I := Sound) (fun _ _ _ hm hstep => sound_step hm hstep)
    (sound_afterInit (e1000InitTx_ready hok hinit))).toOrdered

lemma drive_accepted (m : TxRun) (data : List UInt8) (hne : pc ≠ .tail) :
    (m.drive data pc).accepted = m.accepted := by
  unfold drive E1000.sendStep
  cases pc with
  | wait timeout =>
    dsimp only
    split_ifs with hdone hlast
    · rfl
    · dsimp only
      rw [if_neg (by omega)]
    · rfl
  | copy n =>
    dsimp only
    split_ifs <;> rfl
  | tail => exact absurd rfl hne
  | _ => rfl

lemma drive_transmitted (m : TxRun) (data : List UInt8) (pc : SendPc) :
    (m.drive data pc).transmitted = m.transmitted := by
  unfold drive
  dsimp only
  split <;> rfl

lemma apply_send_lists (m : TxRun) (data : Option (List UInt8)) :
    (m.apply (.send data)).accepted = m.accepted ∧ (m.apply (.send data)).transmitted = m.transmitted := by
  unfold apply
  dsimp only
  split <;> exact ⟨rfl, rfl⟩

lemma transmit_lists (m : TxRun) :
    m.transmit.accepted = m.accepted ∧ m.transmitted.length ≤ m.transmit.transmitted.length := by
  unfold transmit
  dsimp only
  split
  · exact ⟨rfl, Nat.le_refl _⟩
  · refine ⟨rfl, ?_⟩
    rw [List.length_append]
    exact Nat.le_add_right _ _

/-- **One descriptor is kept free**, where the tail is not moved onto the head. -/
lemma room_step {e : TxEvent} (h : m.Sound) (hroom : m.accepted.length < m.transmitted.length + 256)
    (hstep : m.KeepingStep e m') : m'.accepted.length < m'.transmitted.length + 256 := by
  obtain ⟨hkeeps, -, rfl⟩ := hstep
  cases e with
  | send data =>
    obtain ⟨haccepted, htransmitted⟩ := m.apply_send_lists data
    rw [haccepted, htransmitted]
    exact hroom
  | driver =>
    unfold apply
    dsimp only
    split
    · exact hroom
    · rename_i data pc hsending
      rw [drive_transmitted]
      by_cases htail : pc = .tail
      · subst htail
        have hne := hkeeps data hsending
        rw [h.txCur, txSlot_next, h.tdh] at hne
        have hlength : (m.drive data .tail).accepted.length = m.accepted.length + 1 := by
          unfold drive E1000.sendStep
          dsimp only
          rw [if_pos rfl, List.length_append, List.length_singleton]
        rw [hlength]
        refine lt_of_le_of_ne hroom fun hfull => hne (Fin.ext ?_)
        rw [txSlot_val, txSlot_val]
        omega
      · rw [drive_accepted m data htail]
        exact hroom
  | card =>
    obtain ⟨haccepted, htransmitted⟩ := m.transmit_lists
    change m.transmit.accepted.length < m.transmit.transmitted.length + 256
    rw [haccepted]
    omega

/-- **The driver and the card own what they should**, where the tail is never moved onto the head. -/
theorem ring_owned_of_steps {α : Type} {src : Vmm.PageSource α} {ring : UInt64} {a a' : α} {s : E1000}
    (hok : src.Ok a) (hinit : s.e1000InitTx src.alloc ring a = (true, a', dev)) (events : List TxEvent)
    (m : TxRun) (hrun : Steps KeepingStep (afterInit dev) events m) : m.Owned := by
  have hinv := hrun.invariant
    (I := fun m : TxRun => m.Sound ∧ m.accepted.length < m.transmitted.length + 256)
    (fun _ _ _ hm hstep => ⟨sound_step hm.1 hstep.2, room_step hm.1 hm.2 hstep⟩)
    ⟨sound_afterInit (e1000InitTx_ready hok hinit), show 0 < 0 + 256 by decide⟩
  exact hinv.1.owned_iff.mpr hinv.2

/-- A call of `e1000_send_packet` for one byte that is not interrupted. -/
def sendByte : List TxEvent := .send (some [0]) :: List.replicate 8 .driver

/-- What is left of it after it has seen that the descriptor is done. -/
def copying (m : TxRun) : TxRun := { m with sending := some ([0], .copy 0) }

/-- What it has done. -/
def sentByte (m : TxRun) : TxRun :=
  (List.replicate 7 TxEvent.driver).foldl apply m.copying

lemma apply_sendByte (hinit : m.dev.initialized = true) :
    m.apply (.send (some [0])) = { m with sending := some ([0], .wait e1000TxTimeout) } := by
  unfold apply E1000.e1000SendPacket
  rw [hinit]
  rfl

lemma apply_wait (hdone : (m.dev.txDescs m.dev.txCur).status &&& e1000TxdStatDd ≠ 0) :
    ({ m with sending := some ([0], .wait e1000TxTimeout) } : TxRun).apply .driver = m.copying := by
  change ({ m with sending := some ([0], .wait e1000TxTimeout) } : TxRun).drive [0] (.wait e1000TxTimeout) = _
  unfold drive E1000.sendStep
  dsimp only
  rw [if_pos hdone]
  rfl

lemma steps_sendByte (hnone : m.sending = none) (hinit : m.dev.initialized = true)
    (hdone : (m.dev.txDescs m.dev.txCur).status &&& e1000TxdStatDd ≠ 0) :
    Steps Step m sendByte m.sentByte :=
  .cons ⟨fun _ _ => hnone, (apply_sendByte hinit).symm⟩
    (.cons ⟨(fun _ he => nomatch he), (apply_wait hdone).symm⟩
      (.cons ⟨(fun _ he => nomatch he), rfl⟩
        (.cons ⟨(fun _ he => nomatch he), rfl⟩
          (.cons ⟨(fun _ he => nomatch he), rfl⟩
            (.cons ⟨(fun _ he => nomatch he), rfl⟩
              (.cons ⟨(fun _ he => nomatch he), rfl⟩
                (.cons ⟨(fun _ he => nomatch he), rfl⟩
                  (.cons ⟨(fun _ he => nomatch he), rfl⟩ (.nil _)))))))))

lemma apply_driver_other (m : TxRun) {i : TxIndex} (hne : i ≠ m.dev.txCur) :
    (m.apply .driver).dev.txDescs i = m.dev.txDescs i := by
  unfold apply
  dsimp only
  split
  · rfl
  · rename_i data pc _
    unfold drive E1000.sendStep
    cases pc with
    | wait timeout =>
      dsimp only
      split_ifs <;> rfl
    | copy n =>
      dsimp only
      split_ifs <;> rfl
    | tail => rfl
    | _ => exact m.dev.setDesc_of_ne _ hne

lemma sentByte_spec (m : TxRun) : m.sentByte.sending = none ∧ m.sentByte.accepted = m.accepted ++ [[0]] ∧
      m.sentByte.transmitted = m.transmitted ∧ m.sentByte.dev.initialized = m.dev.initialized ∧
      ∀ i ≠ m.dev.txCur, m.sentByte.dev.txDescs i = m.dev.txDescs i := by
  refine ⟨rfl, rfl, rfl, rfl, fun i hne => ?_⟩
  unfold sentByte
  simp only [List.replicate, List.foldl]
  iterate 7 refine (apply_driver_other _ (by exact hne)).trans ?_
  rfl

lemma fill {dev : E1000} (hready : dev.Ready) (n : Nat) (hn : n ≤ 256) :
    ∃ events m, Steps Step (afterInit dev) events m ∧ m.accepted.length = n ∧ m.transmitted = [] ∧
      m.sending = none ∧ m.dev.initialized = true ∧
      ∀ p, n ≤ p → p < 256 → (m.dev.txDescs (txSlot p)).status = e1000TxdStatDd := by
  induction n with
  | zero =>
    exact ⟨[], afterInit dev, .nil _, rfl, rfl, rfl, rfl, fun p _ _ => hready.done (txSlot p)⟩
  | succ n ih =>
    obtain ⟨events, m, hrun, hlength, htransmitted, hnone, hinit, hdone⟩ := ih (Nat.le_of_succ_le hn)
    have hsound : m.Sound := hrun.invariant (I := Sound) (fun _ _ _ hm hstep => sound_step hm hstep)
      (sound_afterInit hready)
    have hcur : m.dev.txCur = txSlot n := by rw [hsound.txCur, hlength]
    obtain ⟨hnone', haccepted, htransmitted', hinit', hother⟩ := m.sentByte_spec
    refine ⟨events ++ sendByte, m.sentByte, hrun.append (steps_sendByte hnone hinit ?_), ?_,
      htransmitted'.trans htransmitted, hnone', hinit'.trans hinit, fun p hp hp' => ?_⟩
    · rw [hcur, hdone n (Nat.le_refl n) hn]
      decide
    · rw [haccepted, List.length_append, hlength, List.length_singleton]
    · have hne : txSlot p ≠ m.dev.txCur := by
        rw [hcur]
        exact (txSlot_ne (Nat.zero_le n) (Nat.lt_of_succ_le hp) (by omega)).symm
      rw [hother _ hne]
      exact hdone p (Nat.le_of_succ_le hp) hp'

/-- The pages that the examples allocate. -/
def examplePages : List UInt64 := (List.range 256).map fun i => UInt64.ofNat (4096 * (i + 1))

lemma examplePages_ok : Vmm.scriptSource.Ok examplePages := by
  refine ⟨List.Nodup.filter _ (List.Nodup.map_on (fun i hi j hj heq => ?_) List.nodup_range), ?_⟩
  · have hi := List.mem_range.mp hi
    have hj := List.mem_range.mp hj
    have heq := congrArg UInt64.toNat heq
    rw [UInt64.toNat_ofNat', UInt64.toNat_ofNat'] at heq
    omega
  · have hall : examplePages.all (fun page => page &&& vmmAddrMask == page) = true := by
      set_option maxRecDepth 8192 in decide
    exact fun page hpage => eq_of_beq (List.all_eq_true.mp hall page hpage)

/-- What `e1000_init_tx` does with them. -/
def exampleInit : Bool × List UInt64 × E1000 :=
  ({} : E1000).e1000InitTx Vmm.scriptAlloc 0x200000 examplePages

lemma exampleInit_eq : exampleInit = (true, exampleInit.2.1, exampleInit.2.2) := by
  have htrue : exampleInit.1 = true := by
    set_option maxRecDepth 8192 in decide
  rw [← htrue]

/-- One byte is sent, and the card transmits it. -/
theorem owned_of_byte : ((afterInit exampleInit.2.2).sentByte.apply .card).Owned ∧
      ((afterInit exampleInit.2.2).sentByte.apply .card).transmitted = [[0]] := by
  have hinit := exampleInit_eq
  have hready : exampleInit.2.2.Ready :=
    e1000InitTx_ready examplePages_ok exampleInit_eq
  generalize exampleInit.2.2 = dev at hinit hready ⊢
  have hslot : txSlot (dev.txCur.val + 1) ≠ dev.tdh := by
    rw [hready.txCur, hready.tdh]
    decide
  have hdone : (dev.txDescs dev.txCur).status &&& e1000TxdStatDd ≠ 0 := by
    rw [hready.done]
    decide
  have howned : ((afterInit dev).sentByte.apply .card).Owned :=
    ring_owned_of_steps examplePages_ok hinit (sendByte ++ [TxEvent.card]) _
      (.cons ⟨trivial, fun _ _ => rfl, (apply_sendByte rfl).symm⟩
        (.cons ⟨fun _ _ => hslot, (fun _ he => nomatch he), (apply_wait hdone).symm⟩
          (.cons ⟨fun _ _ => hslot, (fun _ he => nomatch he), rfl⟩
            (.cons ⟨fun _ _ => hslot, (fun _ he => nomatch he), rfl⟩
              (.cons ⟨fun _ _ => hslot, (fun _ he => nomatch he), rfl⟩
                (.cons ⟨fun _ _ => hslot, (fun _ he => nomatch he), rfl⟩
                  (.cons ⟨fun _ _ => hslot, (fun _ he => nomatch he), rfl⟩
                    (.cons ⟨fun _ _ => hslot, (fun _ he => nomatch he), rfl⟩
                      (.cons ⟨fun _ _ => hslot, (fun _ he => nomatch he), rfl⟩
                        (.cons ⟨trivial, (fun _ he => nomatch he), rfl⟩ (.nil _)))))))))))
  refine ⟨howned, ?_⟩
  have htail : (afterInit dev).sentByte.dev.tdh ≠ (afterInit dev).sentByte.dev.tdt :=
    hslot.symm
  have hcard : (afterInit dev).sentByte.transmit.dev.tdh = (afterInit dev).sentByte.transmit.dev.tdt := by
    unfold transmit E1000.cardStep
    rw [if_neg htail]
    change txSlot (dev.tdh.val + 1) = txSlot (dev.txCur.val + 1)
    rw [hready.tdh, hready.txCur]
  have haccepted : (afterInit dev).sentByte.transmit.accepted = [[0]] := by
    rw [(transmit_lists _).1, (sentByte_spec _).2.1]
    rfl
  exact (howned.drained hcard).trans haccepted

/-- 256 frames wait for the card. -/
theorem ordered_of_full_ring : ∃ m : TxRun, m.accepted.length = 256 ∧ m.Ordered := by
  obtain ⟨events, m, hrun, hlength, -⟩ := fill (e1000InitTx_ready examplePages_ok exampleInit_eq) 256 le_rfl
  exact ⟨m, hlength, ordered_of_steps examplePages_ok exampleInit_eq events m hrun⟩

/-- 256 frames are accepted before the card makes a step. -/
theorem full_ring_idle : ¬ ∀ (ring : UInt64) (a a' : List UInt64) (s dev : E1000), Vmm.ScriptOk a →
      s.e1000InitTx Vmm.scriptAlloc ring a = (true, a', dev) →
      ∀ (events : List TxEvent) (m : TxRun), Steps Step (afterInit dev) events m → m.Owned := by
  intro h
  have hready : exampleInit.2.2.Ready :=
    e1000InitTx_ready examplePages_ok exampleInit_eq
  obtain ⟨events, m, hrun, hlength, htransmitted, -⟩ := fill hready 256 (Nat.le_refl _)
  have howned := h _ _ _ _ _ examplePages_ok exampleInit_eq events m hrun
  have hsound : m.Sound := hrun.invariant (I := Sound) (fun _ _ _ hm hstep => sound_step hm hstep)
    (sound_afterInit hready)
  have hroom := hsound.owned_iff.mp howned
  rw [hlength, htransmitted] at hroom
  exact absurd hroom (by decide)

end TxRun

end AAAos
