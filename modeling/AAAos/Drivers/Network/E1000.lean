import AAAos.Kernel.Mm.VmmTree

/-!
# The transmit ring of the e1000

`drivers/network/e1000.c`: `e1000_init_tx` and `e1000_send_packet`, and the card.

The driver and the card share the descriptors, the buffers and two registers.  `e1000_send_packet` is the
sequence of its accesses to them (`SendPc`), so that the card can move between any two; the write of the
tail register is the last one, and what is counted behind it belongs to it.  The card sends the frame of
the descriptor at the head, if the head is not the tail, marks it done and moves on.

A buffer is a page of memory, seen as its bytes.  The fields of a descriptor that stay zero, and the
registers that are written once, are left out.
-/

namespace AAAos

/-- `E1000_NUM_TX_DESC`. -/
def e1000NumTxDesc : Nat := 256

/-- `E1000_MAX_PACKET_SIZE`. -/
def e1000MaxPacketSize : Nat := 1518

/-- `E1000_TXD_STAT_DD`. -/
def e1000TxdStatDd : UInt8 := 1

/-- `E1000_TXD_CMD_EOP`, `E1000_TXD_CMD_IFCS` and `E1000_TXD_CMD_RS`. -/
def e1000TxdCmd : UInt8 := 1 ||| 2 ||| 8

/-- The value of `timeout` at the start. -/
def e1000TxTimeout : Nat := 10000

/-- `e1000_tx_desc_t`. -/
structure TxDesc where
  bufferAddr : UInt64 := 0
  length : UInt16 := 0
  cmd : UInt8 := 0
  status : UInt8 := 0

abbrev TxIndex := Fin e1000NumTxDesc

/-- An index modulo `E1000_NUM_TX_DESC`. -/
def txSlot (n : Nat) : TxIndex := ⟨n % e1000NumTxDesc, Nat.mod_lt n (by decide)⟩

/-- What `e1000_dev` says of the transmit ring, the ring, the pages of memory, and the registers `TDH` and
`TDT`. -/
structure E1000 where
  txDescs : TxIndex → TxDesc := fun _ => {}
  txBuffersPhys : TxIndex → UInt64 := fun _ => 0
  txCur : TxIndex := txSlot 0
  packetsSent : UInt64 := 0
  bytesSent : UInt64 := 0
  initialized : Bool := false
  page : UInt64 → Nat → UInt8 := fun _ _ => 0
  tdh : TxIndex := txSlot 0
  tdt : TxIndex := txSlot 0

namespace E1000

def setDesc (s : E1000) (i : TxIndex) (d : TxDesc) : E1000 :=
  { s with txDescs := Function.update s.txDescs i d }

@[simp]
lemma setDesc_self (s : E1000) (i : TxIndex) (d : TxDesc) : (s.setDesc i d).txDescs i = d :=
  Function.update_self _ _ _

@[simp]
lemma setDesc_txCur (s : E1000) (i : TxIndex) (d : TxDesc) : (s.setDesc i d).txCur = s.txCur := rfl

@[simp]
lemma setDesc_txBuffersPhys (s : E1000) (i : TxIndex) (d : TxDesc) :
    (s.setDesc i d).txBuffersPhys = s.txBuffersPhys := rfl

lemma setDesc_of_ne (s : E1000) {i j : TxIndex} (d : TxDesc) (hne : j ≠ i) :
    (s.setDesc i d).txDescs j = s.txDescs j :=
  Function.update_of_ne hne _ _

/-- A byte of a page is written. -/
def setByte (s : E1000) (phys : UInt64) (k : Nat) (b : UInt8) : E1000 :=
  { s with page := Function.update s.page phys (Function.update (s.page phys) k b) }

@[simp]
lemma setByte_self (s : E1000) (phys : UInt64) (k : Nat) (b : UInt8) :
    (s.setByte phys k b).page phys = Function.update (s.page phys) k b :=
  Function.update_self _ _ _

lemma setByte_of_ne (s : E1000) {phys q : UInt64} (k : Nat) (b : UInt8) (hne : q ≠ phys) :
    (s.setByte phys k b).page q = s.page q :=
  Function.update_of_ne hne _ _

/-! ## Starting -/

/-- The loop that allocates the buffers. -/
def initTxBuffers {α : Type} (palloc : α → UInt64 × α) : List TxIndex → α → E1000 → Bool × α × E1000
  | [], a, s => (true, a, s)
  | i :: is, a, s =>
    let r := palloc a
    if r.1 = 0 then (false, r.2, s)
    else
      let s := { s with txBuffersPhys := Function.update s.txBuffersPhys i r.1 }
      initTxBuffers palloc is r.2 (s.setDesc i
        { s.txDescs i with bufferAddr := r.1, status := e1000TxdStatDd, cmd := 0 })

/-- `e1000_init_tx`, where `pmm_alloc_pages` has answered `ring` for the descriptors. -/
def e1000InitTx {α : Type} (palloc : α → UInt64 × α) (ring : UInt64) (a : α) (s : E1000) :
    Bool × α × E1000 :=
  if ring = 0 then (false, a, s)
  else
    let r := initTxBuffers palloc (List.finRange e1000NumTxDesc) a { s with txDescs := fun _ => {} }
    if r.1 then (true, r.2.1, { r.2.2 with txCur := txSlot 0, tdh := txSlot 0, tdt := txSlot 0 }) else r

end E1000

/-! ## Sending -/

/-- Where a call of `e1000_send_packet` is. -/
inductive SendPc
  | wait (timeout : Nat)
  | copy (k : Nat)
  | bufferAddr
  | length
  | cmd
  | status
  | tail
deriving DecidableEq

namespace E1000

/-- `e1000_send_packet` up to the wait for the descriptor: where it is, or what it returns. -/
def e1000SendPacket (s : E1000) (data : Option (List UInt8)) : SendPc ⊕ Int :=
  if !s.initialized then .inr (-1)
  else
    match data with
    | none => .inr (-1)
    | some data =>
      if data.length = 0 then .inr (-1)
      else if e1000MaxPacketSize < data.length then .inr (-1)
      else .inl (.wait e1000TxTimeout)

/-- The next access of `e1000_send_packet`. -/
def sendStep (s : E1000) (data : List UInt8) : SendPc → E1000 × (SendPc ⊕ Int)
  | .wait timeout =>
    if (s.txDescs s.txCur).status &&& e1000TxdStatDd ≠ 0 then (s, .inl (.copy 0))
    else if timeout - 1 = 0 then (s, .inr (-1))
    else (s, .inl (.wait (timeout - 1)))
  | .copy k =>
    if k < data.length then
      (s.setByte (s.txBuffersPhys s.txCur) k (data.getD k 0), .inl (.copy (k + 1)))
    else (s, .inl .bufferAddr)
  | .bufferAddr =>
    (s.setDesc s.txCur { s.txDescs s.txCur with bufferAddr := s.txBuffersPhys s.txCur }, .inl .length)
  | .length =>
    (s.setDesc s.txCur { s.txDescs s.txCur with length := UInt16.ofNat data.length }, .inl .cmd)
  | .cmd => (s.setDesc s.txCur { s.txDescs s.txCur with cmd := e1000TxdCmd }, .inl .status)
  | .status => (s.setDesc s.txCur { s.txDescs s.txCur with status := 0 }, .inl .tail)
  | .tail =>
    let next := txSlot (s.txCur.val + 1)
    ({ s with
        txCur := next
        tdt := next
        packetsSent := s.packetsSent + 1
        bytesSent := s.bytesSent + UInt64.ofNat data.length }, .inr data.length)

/-! ## The card -/

/-- The frame of a descriptor. -/
def frame (s : E1000) (i : TxIndex) : List UInt8 :=
  (List.range (s.txDescs i).length.toNat).map (s.page (s.txDescs i).bufferAddr)

/-- A step of the card: the frame that is transmitted, if there is one. -/
def cardStep (s : E1000) : Option (List UInt8) × E1000 :=
  if s.tdh = s.tdt then (none, s)
  else
    (some (s.frame s.tdh),
      { s.setDesc s.tdh
          { s.txDescs s.tdh with status := (s.txDescs s.tdh).status ||| e1000TxdStatDd } with
        tdh := txSlot (s.tdh.val + 1) })

end E1000

end AAAos
