import Mathlib.Data.UInt
import Mathlib.Data.List.FinRange
import Mathlib.Logic.Function.Basic

/-!
# Disks behind AHCI controllers

`drivers/storage/ahci.c`: the controllers that `ahci_init` finds, their ports, and the calls that address a disk
by the number of its port.

What a controller has and answers is a parameter: its registers, whether the reset ends, the pages for a port,
how the command ends that is issued while a port is set up, and the words a device identifies itself with.
Buffers, the lists of commands and their tables are left out; what a call issues is in `issued`.

**What goes wrong.**  A port number alone does not name a device.  A call takes the first controller that has
such a port, whether there is a device or not, and so never reaches one behind a later controller.
And the controller that is being set up is not counted yet, so that `ahci_identify` does not find it.

**What is proved.**  Every disk is missed: the ports are addressed consistently exactly where there is no disk
at all, and no device behind an earlier controller with the same port (`ahci_ports_iff`).
-/

namespace AAAos

/-! ## Constants -/

def ahciMaxControllers : Nat := 4
def ahciMaxPorts : Nat := 32
def ahciProgIf : UInt8 := 1

def ahciSigAta : UInt32 := 0x00000101
def ahciSigAtapi : UInt32 := 0xEB140101
def ahciSigSemb : UInt32 := 0xC33C0101
def ahciSigPm : UInt32 := 0x96690101

def ataCmdReadDmaExt : UInt8 := 0x25
def ataCmdWriteDmaExt : UInt8 := 0x35
def ataCmdIdentify : UInt8 := 0xEC
def ataCmdIdentifyPacket : UInt8 := 0xA1
def ataCmdFlushCacheExt : UInt8 := 0xEA

def ahciSuccess : Int := 0
def ahciErrNoDevice : Int := -1
def ahciErrNotReady : Int := -2
def ahciErrTimeout : Int := -3
def ahciErrTaskFile : Int := -5
def ahciErrInvalidPort : Int := -6
def ahciErrUnsupported : Int := -8

/-! ## What there is -/

/-- `ahci_device_type_t`. -/
inductive AhciDevice
  | null
  | sata
  | satapi
  | semb
  | pm
deriving DecidableEq

/-- How a command ends. -/
inductive AhciFinish
  | done
  | taskFile
  | timeout
deriving DecidableEq

/-- `ahci_wait_cmd`. -/
def AhciFinish.code : AhciFinish → Int
  | .done => ahciSuccess
  | .taskFile => ahciErrTaskFile
  | .timeout => ahciErrTimeout

/-- What a command meets: whether there is a free slot, and how it ends. -/
structure AhciAnswer where
  slot : Bool
  finish : AhciFinish
deriving DecidableEq

/-- A port of a controller: its registers, the words of the device, the pages that are there when the port is
set up, and what the command meets that is issued then. -/
structure AhciPort where
  ssts : UInt32
  sig : UInt32
  identity : Nat → UInt16
  page : Nat → Bool
  answer : AhciAnswer

/-- A controller on the bus. -/
structure AhciHba where
  progIf : UInt8
  abar : UInt64
  cap : UInt32
  portsImpl : UInt32
  resets : Bool
  ports : Fin ahciMaxPorts → AhciPort

/-- `ahci_port_info_t`. -/
structure AhciPortInfo where
  type : AhciDevice := .null
  present : Bool := false
  sectorCount : UInt64 := 0
  model : List UInt8 := []
  serial : List UInt8 := []
deriving DecidableEq

/-- `ahci_controller_t`. -/
structure AhciController where
  hba : AhciHba
  portsImpl : UInt32
  numPorts : UInt32
  numCmdSlots : UInt32
  supports64bit : Bool
  portInfo : Fin ahciMaxPorts → AhciPortInfo

/-- `ahci_fis_reg_h2d_t`, of which the other fields are always the same. -/
structure AhciFis where
  command : UInt8
  device : UInt8 := 0
  lba : List UInt8 := [0, 0, 0, 0, 0, 0]
  countl : UInt8 := 0
  counth : UInt8 := 0
deriving DecidableEq

/-- A command that was issued, and the port that was being set up then. -/
structure AhciCommand where
  origin : Option (Nat × Fin ahciMaxPorts)
  controller : Nat
  port : Fin ahciMaxPorts
  fis : AhciFis
  bufSize : UInt32
  write : Bool
deriving DecidableEq

/-- The controllers that are counted, and what was issued. -/
structure Ahci where
  controllers : List AhciController := []
  issued : List AhciCommand := []

/-! ## Ports -/

/-- A bit of the mask of ports. -/
def portBit (portsImpl : UInt32) (port : Fin ahciMaxPorts) : Bool :=
  portsImpl &&& (1 <<< UInt32.ofNat port.val) != 0

/-- `ahci_check_port_type`. -/
def ahciCheckPortType (port : AhciPort) : AhciDevice :=
  let det := port.ssts &&& 0x0F
  let ipm := (port.ssts >>> 8) &&& 0x0F
  if det ≠ 3 then .null
  else if ipm ≠ 1 then .null
  else if port.sig = ahciSigAta then .sata
  else if port.sig = ahciSigAtapi then .satapi
  else if port.sig = ahciSigSemb then .semb
  else if port.sig = ahciSigPm then .pm
  else .null

/-- `ahci_port_alloc_memory`: a page for the list of commands, one for what is received, and one for every
slot. -/
def ahciPortAllocMemory (port : AhciPort) (numCmdSlots : UInt32) : Bool :=
  (List.range (2 + numCmdSlots.toNat)).all port.page

/-- `ahci_copy_ata_string`. -/
def ahciCopyAtaString (src : List UInt16) : List UInt8 :=
  let chars : List UInt8 := src.flatMap fun (word : UInt16) => [(word >>> 8).toUInt8, word.toUInt8]
  (chars.reverse.dropWhile (· == 32)).reverse

/-- The number of sectors in the words of a device. -/
def identifySectors (id : Nat → UInt16) : UInt64 :=
  let sectors := (id 103).toUInt64 <<< 48 ||| (id 102).toUInt64 <<< 32 ||| (id 101).toUInt64 <<< 16 |||
    (id 100).toUInt64
  if sectors = 0 then ((id 61).toUInt32 <<< 16 ||| (id 60).toUInt32).toUInt64 else sectors

/-- What is stored of the words of a device. -/
def AhciPortInfo.identified (info : AhciPortInfo) (id : Nat → UInt16) : AhciPortInfo :=
  { info with
    model := ahciCopyAtaString ((List.range 20).map fun i => id (27 + i))
    serial := ahciCopyAtaString ((List.range 10).map fun i => id (10 + i))
    sectorCount := identifySectors id }

/-- The port with some number. -/
def ahciPortOf (port : Int) : Option (Fin ahciMaxPorts) :=
  if h : 0 ≤ port ∧ port < ahciMaxPorts then some ⟨port.toNat, by omega⟩ else none

namespace AhciController

def implements (ctrl : AhciController) (port : Fin ahciMaxPorts) : Bool := portBit ctrl.portsImpl port

def setInfo (ctrl : AhciController) (port : Fin ahciMaxPorts) (info : AhciPortInfo) : AhciController :=
  { ctrl with portInfo := Function.update ctrl.portInfo port info }

variable {ctrl : AhciController} {port : Fin ahciMaxPorts} {info other : AhciPortInfo}

@[simp] lemma setInfo_numCmdSlots : (ctrl.setInfo port info).numCmdSlots = ctrl.numCmdSlots := rfl

@[simp] lemma setInfo_portInfo : (ctrl.setInfo port info).portInfo port = info := Function.update_self ..

@[simp] lemma setInfo_setInfo : (ctrl.setInfo port info).setInfo port other = ctrl.setInfo port other := by
  simp [setInfo]

end AhciController

/-- The first controller of a list that meets a test, with its index. -/
def findFrom (test : AhciController → Bool) : Nat → List AhciController → Option (Nat × AhciController)
  | _, [] => none
  | i, ctrl :: rest => if test ctrl then some (i, ctrl) else findFrom test (i + 1) rest

lemma findFrom_cons {test i ctrl rest} :
    findFrom test i (ctrl :: rest) = if test ctrl then some (i, ctrl) else findFrom test (i + 1) rest := rfl

namespace Ahci

variable (s : Ahci)

/-! ## Calls -/

/-- `ahci_probe_port`, with the place where the type is stored. -/
def ahciProbePort (port : Int) : Option (Nat × Fin ahciMaxPorts) × AhciDevice :=
  match ahciPortOf port with
  | none => (none, .null)
  | some p =>
    match findFrom (·.implements p) 0 s.controllers with
    | none => (none, .null)
    | some (k, ctrl) => (some (k, p), (ctrl.portInfo p).type)

/-- `ahci_get_port_info`: the place it returns, and what is there. -/
def ahciGetPortInfo (port : Int) : Option ((Nat × Fin ahciMaxPorts) × AhciPortInfo) :=
  match ahciPortOf port with
  | none => none
  | some p =>
    (findFrom (fun ctrl => ctrl.implements p && (ctrl.portInfo p).present) 0 s.controllers).map
      fun (k, ctrl) => ((k, p), ctrl.portInfo p)

/-- `ahci_issue_cmd`. -/
def ahciIssueCmd (origin : Option (Nat × Fin ahciMaxPorts)) (k : Nat) (ctrl : AhciController)
    (port : Fin ahciMaxPorts) (fis : AhciFis) (bufSize : UInt32) (write : Bool) (answer : AhciAnswer) :
    Int × Ahci :=
  if !ctrl.implements port || !(ctrl.portInfo port).present then (ahciErrNoDevice, s)
  else if !answer.slot then (ahciErrNotReady, s)
  else (answer.finish.code, { s with issued := s.issued ++ [⟨origin, k, port, fis, bufSize, write⟩] })

/-- `ahci_identify`, with the words that the device puts into the buffer. -/
def ahciIdentify (origin : Option (Nat × Fin ahciMaxPorts)) (port : Int) (answer : AhciAnswer) :
    (Int × Ahci) × (Nat → UInt16) :=
  match ahciPortOf port with
  | none => ((ahciErrInvalidPort, s), fun _ => 0)
  | some p =>
    match findFrom (·.implements p) 0 s.controllers with
    | none => ((ahciErrNoDevice, s), fun _ => 0)
    | some (k, ctrl) =>
      if !(ctrl.portInfo p).present then ((ahciErrNoDevice, s), fun _ => 0)
      else
        let command :=
          if (ctrl.portInfo p).type = .satapi then ataCmdIdentifyPacket else ataCmdIdentify
        (s.ahciIssueCmd origin k ctrl p { command := command } 512 false answer,
          (ctrl.hba.ports p).identity)

/-- What `ahci_read_sectors`, `ahci_write_sectors` and `ahci_flush` begin with. -/
def onDisk (port : Int) (issue : Nat → AhciController → Fin ahciMaxPorts → Int × Ahci) : Int × Ahci :=
  match ahciPortOf port with
  | none => (ahciErrInvalidPort, s)
  | some p =>
    match findFrom (·.implements p) 0 s.controllers with
    | none => (ahciErrNoDevice, s)
    | some (k, ctrl) =>
      if !(ctrl.portInfo p).present then (ahciErrNoDevice, s)
      else if (ctrl.portInfo p).type ≠ .sata then (ahciErrUnsupported, s)
      else issue k ctrl p

/-- The registers of a transfer: the address in six bytes and the number of sectors in two. -/
def transferFis (command : UInt8) (lba : UInt64) (count : UInt32) : AhciFis where
  command := command
  device := (1 : UInt8) <<< 6
  lba := [lba.toUInt8, (lba >>> 8).toUInt8, (lba >>> 16).toUInt8, (lba >>> 24).toUInt8,
    (lba >>> 32).toUInt8, (lba >>> 40).toUInt8]
  countl := count.toUInt8
  counth := (count >>> 8).toUInt8

/-- `ahci_read_sectors`. -/
def ahciReadSectors (port : Int) (lba : UInt64) (count : UInt32) (answer : AhciAnswer) : Int × Ahci :=
  if count = 0 then (ahciErrInvalidPort, s)
  else if 65535 < count then (ahciErrInvalidPort, s)
  else
    s.onDisk port fun k ctrl p =>
      s.ahciIssueCmd none k ctrl p (transferFis ataCmdReadDmaExt lba count) (count * 512) false answer

/-- `ahci_write_sectors`. -/
def ahciWriteSectors (port : Int) (lba : UInt64) (count : UInt32) (answer : AhciAnswer) : Int × Ahci :=
  if count = 0 then (ahciErrInvalidPort, s)
  else if 65535 < count then (ahciErrInvalidPort, s)
  else
    s.onDisk port fun k ctrl p =>
      s.ahciIssueCmd none k ctrl p (transferFis ataCmdWriteDmaExt lba count) (count * 512) true answer

/-- `ahci_flush`. -/
def ahciFlush (port : Int) (answer : AhciAnswer) : Int × Ahci :=
  s.onDisk port fun k ctrl p =>
    s.ahciIssueCmd none k ctrl p { command := ataCmdFlushCacheExt } 0 false answer

/-! ## Setting up -/

/-- One port in the loop of `ahci_init_controller`, whose controller comes after those that are counted. -/
def initPort (r : AhciController × Ahci) (i : Fin ahciMaxPorts) : AhciController × Ahci :=
  let (ctrl, s) := r
  if !ctrl.implements i then (ctrl, s)
  else
    let port := ctrl.hba.ports i
    let type := ahciCheckPortType port
    let ctrl := ctrl.setInfo i { ctrl.portInfo i with type := type, present := type ≠ .null }
    if type = .null then (ctrl, s)
    else if ahciPortAllocMemory port ctrl.numCmdSlots then
      if type = .sata && port.page (2 + ctrl.numCmdSlots.toNat) then
        let ((result, s), id) := s.ahciIdentify (some (s.controllers.length, i)) i.val port.answer
        if result = ahciSuccess then (ctrl.setInfo i ((ctrl.portInfo i).identified id), s) else (ctrl, s)
      else (ctrl, s)
    else (ctrl.setInfo i { ctrl.portInfo i with present := false }, s)

/-- The entry of a controller before its ports are looked at. -/
def ahciCapabilities (hba : AhciHba) : AhciController where
  hba := hba
  portsImpl := hba.portsImpl
  numPorts := (hba.cap &&& 0x1F) + 1
  numCmdSlots := ((hba.cap &&& 0x1F00) >>> 8) + 1
  supports64bit := hba.cap &&& 0x80000000 ≠ 0
  portInfo := fun _ => {}

/-- `ahci_init_controller`. -/
def ahciInitController (hba : AhciHba) : Ahci :=
  if ahciMaxControllers ≤ s.controllers.length then s
  else if hba.abar = 0 then s
  else if !hba.resets then s
  else
    let (ctrl, s) := (List.finRange ahciMaxPorts).foldl initPort (ahciCapabilities hba, s)
    { s with controllers := s.controllers ++ [ctrl] }

end Ahci

/-- `ahci_init`, over the storage controllers of the bus. -/
def ahciInit (bus : List AhciHba) : Ahci :=
  bus.foldl (fun s hba => if hba.progIf = ahciProgIf then s.ahciInitController hba else s) {}

/-! ## What is expected -/

/-- The calls that issue a command. -/
inductive AhciCall
  | identify
  | read (lba : UInt64) (count : UInt32)
  | write (lba : UInt64) (count : UInt32)
  | flush

/-- Sectors in a number that a command can have. -/
def AhciCall.Valid : AhciCall → Prop
  | read _ count => count ≠ 0 ∧ count ≤ 65535
  | write _ count => count ≠ 0 ∧ count ≤ 65535
  | _ => True

namespace Ahci

def call (s : Ahci) (port : Int) (answer : AhciAnswer) : AhciCall → Int × Ahci
  | .identify => (s.ahciIdentify none port answer).1
  | .read lba count => s.ahciReadSectors port lba count answer
  | .write lba count => s.ahciWriteSectors port lba count answer
  | .flush => s.ahciFlush port answer

/-- A call issues one command, if there is a slot, and it goes to a device. -/
def Reaches (s : Ahci) (port : Int) (c : AhciCall) (device : Nat × Fin ahciMaxPorts) : Prop :=
  ∀ answer, answer.slot = true → ∃ command, (s.call port answer c).2.issued = s.issued ++ [command] ∧
    (command.controller, command.port) = device

/-- **Ports are addressed consistently.** -/
structure PortsWell (s : Ahci) : Prop where
  info : ∀ port device i, s.ahciGetPortInfo port = some (device, i) → i.type = .sata →
    ∀ c : AhciCall, c.Valid → s.Reaches port c device
  probe : ∀ port device, s.ahciProbePort port = (some device, .sata) →
    ∀ c : AhciCall, c.Valid → s.Reaches port c device
  reachable : ∀ k ctrl p, s.controllers[k]? = some ctrl → (ctrl.portInfo p).present = true →
    ∃ port, s.Reaches port .identify (k, p)
  identified : ∀ k ctrl p, s.controllers[k]? = some ctrl → (ctrl.portInfo p).type = .sata →
    ∃ command ∈ s.issued, command.origin = some (k, p) ∧ (command.controller, command.port) = (k, p) ∧
      ((ctrl.hba.ports p).answer.finish = .done →
        ctrl.portInfo p = (ctrl.portInfo p).identified (ctrl.hba.ports p).identity)

end Ahci

namespace AhciHba

variable (hba : AhciHba) (p : Fin ahciMaxPorts)

/-- The device at a port that the controller has. -/
def device : AhciDevice := if portBit hba.portsImpl p then ahciCheckPortType (hba.ports p) else .null

/-- A device whose port gets its pages. -/
def usable : Bool :=
  hba.device p ≠ .null && ahciPortAllocMemory (hba.ports p) (((hba.cap &&& 0x1F00) >>> 8) + 1)

/-- A controller that can be set up. -/
def works : Bool := hba.progIf = ahciProgIf && hba.abar ≠ 0 && hba.resets

end AhciHba

/-- The controllers that are set up: the first four that work. -/
def workingHbas (bus : List AhciHba) : List AhciHba := (bus.filter AhciHba.works).take ahciMaxControllers

/-- **The condition**: there is no disk, and no earlier controller has the port of a device. -/
structure Apart (bus : List AhciHba) : Prop where
  noDisk : ∀ hba ∈ workingHbas bus, ∀ p, hba.device p ≠ .sata
  first : ∀ (j k : Nat) (hba later : AhciHba) p, j < k → (workingHbas bus)[j]? = some hba →
    (workingHbas bus)[k]? = some later → later.usable p = true → portBit hba.portsImpl p = false

/-! ## Searching the controllers -/

lemma findFrom_spec {test : AhciController → Bool} {l : List AhciController} {i k : Nat} {ctrl : AhciController}
    (h : findFrom test i l = some (k, ctrl)) :
    ∃ j, k = i + j ∧ l[j]? = some ctrl ∧ test ctrl = true ∧
      ∀ m < j, ∀ other, l[m]? = some other → test other = false := by
  induction l generalizing i with
  | nil => cases h
  | cons first rest ih =>
    by_cases ht : test first = true
    · rw [findFrom_cons, if_pos ht] at h
      obtain ⟨rfl, rfl⟩ := h
      exact ⟨0, rfl, rfl, ht, fun m hm => absurd hm (Nat.not_lt_zero m)⟩
    · rw [findFrom_cons, if_neg ht] at h
      obtain ⟨j, hk, hget, htest, hothers⟩ := ih h
      refine ⟨j + 1, by omega, by simpa using hget, htest, ?_⟩
      intro m hm other hother
      cases m with
      | zero =>
        simp only [List.getElem?_cons_zero, Option.some.injEq] at hother
        subst hother
        simpa using ht
      | succ m =>
        exact hothers m (by omega) other (by simpa using hother)

lemma findFrom_first {test : AhciController → Bool} {l : List AhciController} {j : Nat} (i : Nat)
    {ctrl : AhciController} (hget : l[j]? = some ctrl) (htest : test ctrl = true)
    (hothers : ∀ m < j, ∀ other, l[m]? = some other → test other = false) :
    findFrom test i l = some (i + j, ctrl) := by
  induction l generalizing i j with
  | nil => simp at hget
  | cons first rest ih =>
    cases j with
    | zero =>
      simp only [List.getElem?_cons_zero, Option.some.injEq] at hget
      subst hget
      simp [findFrom_cons, htest]
    | succ j =>
      have hfirst : test first = false := hothers 0 (by omega) first rfl
      have hrest := ih (i + 1) (by simpa using hget) fun m hm other hother =>
        hothers (m + 1) (by omega) other (by simpa using hother)
      rw [findFrom_cons, hfirst, hrest]
      simp
      omega

lemma ahciPortOf_val (p : Fin ahciMaxPorts) : ahciPortOf (p.val : Int) = some p := by
  rw [ahciPortOf]
  simp

namespace Ahci

variable {s : Ahci}

/-! ## Where commands go -/

lemma ahciIssueCmd_issued {origin k ctrl p fis bufSize write answer} :
    (s.ahciIssueCmd origin k ctrl p fis bufSize write answer).2.issued = s.issued ∨
      (s.ahciIssueCmd origin k ctrl p fis bufSize write answer).2.issued =
        s.issued ++ [⟨origin, k, p, fis, bufSize, write⟩] := by
  unfold ahciIssueCmd
  split_ifs
  · exact Or.inl rfl
  · exact Or.inl rfl
  · exact Or.inr rfl

lemma ahciIssueCmd_controllers {origin k ctrl p fis bufSize write answer} :
    (s.ahciIssueCmd origin k ctrl p fis bufSize write answer).2.controllers = s.controllers := by
  unfold ahciIssueCmd
  split_ifs <;> rfl

/-- `ahci_identify` asks the first controller that has the port. -/
lemma ahciIdentify_issued {origin port answer} : (s.ahciIdentify origin port answer).1.2.issued = s.issued ∨
      ∃ command, (s.ahciIdentify origin port answer).1.2.issued = s.issued ++ [command] ∧
        command.origin = origin ∧ ∃ ctrl, s.controllers[command.controller]? = some ctrl ∧
          ∀ m < command.controller, ∀ other, s.controllers[m]? = some other →
            other.implements command.port = false := by
  unfold ahciIdentify
  cases ahciPortOf port with
  | none => exact Or.inl rfl
  | some p =>
    dsimp only
    cases hfind : findFrom (AhciController.implements · p) 0 s.controllers with
    | none => exact Or.inl rfl
    | some found =>
      obtain ⟨k, ctrl⟩ := found
      dsimp only
      by_cases hpresent : (!(ctrl.portInfo p).present) = true
      · rw [if_pos hpresent]
        exact Or.inl rfl
      · rw [if_neg hpresent]
        rcases ahciIssueCmd_issued with hsame | hissued
        · exact Or.inl hsame
        · obtain ⟨j, hj, hget, -, hothers⟩ := findFrom_spec hfind
          obtain rfl : k = j := by omega
          exact Or.inr ⟨_, hissued, rfl, ctrl, hget, hothers⟩

lemma ahciIdentify_controllers {origin port answer} :
    (s.ahciIdentify origin port answer).1.2.controllers = s.controllers := by
  unfold ahciIdentify
  split
  · rfl
  · split
    · rfl
    · split_ifs
      · rfl
      · exact ahciIssueCmd_controllers
      · exact ahciIssueCmd_controllers

lemma ahciIdentify_reaches {k : Nat} {ctrl : AhciController} {p : Fin ahciMaxPorts}
    (hget : s.controllers[k]? = some ctrl) (himpl : ctrl.implements p = true)
    (hpresent : (ctrl.portInfo p).present = true)
    (hothers : ∀ m < k, ∀ other, s.controllers[m]? = some other → other.implements p = false) :
    s.Reaches p.val .identify (k, p) := by
  intro answer hslot
  have hfind := @findFrom_first (·.implements p) _ _ 0 _ hget himpl hothers
  rw [Nat.zero_add] at hfind
  let command : UInt8 := if (ctrl.portInfo p).type = .satapi then ataCmdIdentifyPacket else ataCmdIdentify
  refine ⟨⟨none, k, p, { command := command }, 512, false⟩, ?_, rfl⟩
  simp only [call, ahciIdentify, ahciPortOf_val, hfind, hpresent, Bool.not_true, Bool.false_eq_true, if_false,
    ahciIssueCmd, himpl, hslot, Bool.or_self, command]

/-! ## What setting up does -/

/-- While a controller is set up, `l` is the ports to come. -/
structure SettingUp (hba : AhciHba) (before : Ahci) (l : List (Fin ahciMaxPorts)) (r : AhciController × Ahci) :
    Prop where
  same : r.1.hba = hba
  portsImpl : r.1.portsImpl = hba.portsImpl
  numCmdSlots : r.1.numCmdSlots = ((hba.cap &&& 0x1F00) >>> 8) + 1
  blank : ∀ p, portBit hba.portsImpl p = false → r.1.portInfo p = {}
  done : ∀ p, p ∉ l → (r.1.portInfo p).type = hba.device p ∧ (r.1.portInfo p).present = hba.usable p
  controllers : r.2.controllers = before.controllers
  issued : ∀ command ∈ r.2.issued, command ∈ before.issued ∨
    (∃ p, command.origin = some (before.controllers.length, p)) ∧ command.controller < before.controllers.length

/-- A command of the port that is being set up goes to a controller that is counted already. -/
lemma SettingUp.issued_identify {hba : AhciHba} {before : Ahci} {l : List (Fin ahciMaxPorts)}
    {ctrl : AhciController} (h : SettingUp hba before l (ctrl, s)) (i : Fin ahciMaxPorts) {port : Int}
    {answer : AhciAnswer} {command : AhciCommand}
    (hc : command ∈ (s.ahciIdentify (some (s.controllers.length, i)) port answer).1.2.issued) :
    command ∈ before.issued ∨ (∃ p, command.origin = some (before.controllers.length, p)) ∧
      command.controller < before.controllers.length := by
  have hsame : s.controllers = before.controllers := h.controllers
  rcases ahciIdentify_issued (s := s) with hold | ⟨asked, hissued, horigin, other, hget, -⟩
  · rw [hold] at hc
    exact h.issued command hc
  · rw [hissued, List.mem_append, List.mem_singleton] at hc
    rcases hc with hold | rfl
    · exact h.issued command hold
    · obtain ⟨hlt, -⟩ := List.getElem?_eq_some_iff.mp hget
      rw [hsame] at horigin hlt
      exact Or.inr ⟨⟨i, horigin⟩, hlt⟩

lemma SettingUp.put {hba : AhciHba} {before after : Ahci} {l : List (Fin ahciMaxPorts)}
    {r : AhciController × Ahci} {i : Fin ahciMaxPorts} {info : AhciPortInfo}
    (h : SettingUp hba before (i :: l) r) (himpl : portBit hba.portsImpl i = true)
    (htype : info.type = hba.device i) (hpresent : info.present = hba.usable i)
    (hcontrollers : after.controllers = before.controllers)
    (hissued : ∀ command ∈ after.issued, command ∈ before.issued ∨
      (∃ p, command.origin = some (before.controllers.length, p)) ∧ command.controller < before.controllers.length) :
    SettingUp hba before l (r.1.setInfo i info, after) where
  same := h.same
  portsImpl := h.portsImpl
  numCmdSlots := h.numCmdSlots
  blank := by
    intro p hp
    have hne : p ≠ i := by
      rintro rfl
      rw [himpl] at hp
      exact Bool.noConfusion hp
    simp only [AhciController.setInfo, Function.update_of_ne hne]
    exact h.blank p hp
  done := by
    intro p hp
    by_cases hpi : p = i
    · subst hpi
      simp only [AhciController.setInfo, Function.update_self]
      exact ⟨htype, hpresent⟩
    · simp only [AhciController.setInfo, Function.update_of_ne hpi]
      exact h.done p (by simp [hpi, hp])
  controllers := hcontrollers
  issued := hissued

lemma settingUp_step {hba : AhciHba} {before : Ahci} {l : List (Fin ahciMaxPorts)}
    {r : AhciController × Ahci} {i : Fin ahciMaxPorts} (h : SettingUp hba before (i :: l) r) :
    SettingUp hba before l (initPort r i) := by
  obtain ⟨ctrl, s⟩ := r
  have himpl : ctrl.implements i = portBit hba.portsImpl i := congrArg (portBit · i) h.portsImpl
  cases hbit : portBit hba.portsImpl i with
  | false =>
    -- The port is not there, and its entry stays as it was.
    have hinit : initPort (ctrl, s) i = (ctrl, s) := by
      simp [initPort, himpl, hbit]
    rw [hinit]
    have hdevice : hba.device i = .null := by simp [AhciHba.device, hbit]
    have husable : hba.usable i = false := by simp [AhciHba.usable, hdevice]
    exact
      { same := h.same
        portsImpl := h.portsImpl
        numCmdSlots := h.numCmdSlots
        blank := h.blank
        done := by
          intro p hp
          by_cases hpi : p = i
          · subst hpi
            rw [h.blank p hbit, hdevice, husable]
            exact ⟨rfl, rfl⟩
          · exact h.done p (by simp [hpi, hp])
        controllers := h.controllers
        issued := h.issued }
  | true =>
    have hport : ctrl.hba = hba := h.same
    have hslots : ctrl.numCmdSlots = ((hba.cap &&& 0x1F00) >>> 8) + 1 := h.numCmdSlots
    have hdevice : hba.device i = ahciCheckPortType (hba.ports i) := by simp [AhciHba.device, hbit]
    have husable : hba.usable i = (decide (hba.device i ≠ .null) &&
      ahciPortAllocMemory (hba.ports i) (((hba.cap &&& 0x1F00) >>> 8) + 1)) := rfl
    rw [initPort]
    simp only [himpl, hbit, hport, hslots, ← hdevice, AhciController.setInfo_numCmdSlots,
      AhciController.setInfo_portInfo, AhciController.setInfo_setInfo]
    rw [if_neg (show ¬ (!true) = true from Bool.false_ne_true)]
    by_cases hnull : hba.device i = .null
    · rw [if_pos hnull]
      exact h.put hbit rfl (by simp [husable, hnull]) h.controllers h.issued
    · split_ifs with halloc hask hresult
      · exact h.put hbit rfl (by simp [AhciPortInfo.identified, husable, halloc])
          (ahciIdentify_controllers.trans h.controllers) fun _ hc => h.issued_identify i hc
      · exact h.put hbit rfl (by simp [husable, halloc])
          (ahciIdentify_controllers.trans h.controllers) fun _ hc => h.issued_identify i hc
      · exact h.put hbit rfl (by simp [husable, halloc]) h.controllers h.issued
      · exact h.put hbit rfl (by simp [husable, halloc]) h.controllers h.issued

lemma settingUp_ports {hba : AhciHba} {before : Ahci} {l : List (Fin ahciMaxPorts)}
    {r : AhciController × Ahci} (h : SettingUp hba before l r) :
    SettingUp hba before [] (l.foldl initPort r) := by
  induction l generalizing r with
  | nil => exact h
  | cons i rest ih => exact ih (settingUp_step h)

/-- What holds when controllers are set up: they are those that work, their ports have their types, and every
command for an identity went to a controller before. -/
structure SetUp (hbas : List AhciHba) (s : Ahci) : Prop where
  hbas : s.controllers.map (·.hba) = hbas
  room : s.controllers.length ≤ ahciMaxControllers
  ports : ∀ ctrl ∈ s.controllers, ctrl.portsImpl = ctrl.hba.portsImpl ∧
    ∀ p, (ctrl.portInfo p).type = ctrl.hba.device p ∧ (ctrl.portInfo p).present = ctrl.hba.usable p
  issued : ∀ command ∈ s.issued, ∃ k p, command.origin = some (k, p) ∧ command.controller < k

lemma SetUp.take {hbas : List AhciHba} (h : SetUp hbas s) : hbas.take ahciMaxControllers = hbas := by
  apply List.take_of_length_le
  rw [← h.hbas, List.length_map]
  exact h.room

lemma take_take_append {α : Type} (a b : List α) (n : Nat) : (a.take n ++ b).take n = (a ++ b).take n := by
  rw [List.take_append, List.take_append, List.take_take, Nat.min_self, List.length_take]
  congr 2
  omega

lemma setUp_counted {hbas : List AhciHba} {hba : AhciHba} {r : AhciController × Ahci} (h : SetUp hbas s)
    (hports : SettingUp hba s [] r) (hroom : s.controllers.length < ahciMaxControllers) :
    SetUp ((hbas ++ [hba]).take ahciMaxControllers) { r.2 with controllers := r.2.controllers ++ [r.1] } := by
  have hlen : hbas.length = s.controllers.length := by simp [← h.hbas]
  have hfits : (hbas ++ [hba]).length ≤ ahciMaxControllers := by
    rwa [List.length_append, hlen]
  rw [List.take_of_length_le hfits]
  exact
    { hbas := by rw [List.map_append, hports.controllers, h.hbas, List.map_singleton, hports.same]
      room := by
        rwa [hports.controllers, List.length_append]
      ports := by
        intro ctrl hctrl
        rw [hports.controllers, List.mem_append, List.mem_singleton] at hctrl
        rcases hctrl with hold | rfl
        · exact h.ports ctrl hold
        · rw [hports.same]
          exact ⟨hports.portsImpl, fun p => hports.done p (List.not_mem_nil)⟩
      issued := by
        intro command hc
        rcases hports.issued command hc with hold | ⟨⟨p, horigin⟩, hlt⟩
        · exact h.issued command hold
        · exact ⟨_, p, horigin, hlt⟩ }

lemma setUp_controller {hbas : List AhciHba} {hba : AhciHba} (h : SetUp hbas s) (hprog : hba.progIf = ahciProgIf) :
    SetUp ((hbas ++ [hba].filter AhciHba.works).take ahciMaxControllers) (s.ahciInitController hba) := by
  have hlen : hbas.length = s.controllers.length := by simp [← h.hbas]
  rw [ahciInitController]
  by_cases hroom : ahciMaxControllers ≤ s.controllers.length
  · rwa [if_pos hroom, List.take_append_of_le_length (hroom.trans hlen.ge), h.take]
  · rw [if_neg hroom]
    by_cases habar : hba.abar = 0
    · have hworks : hba.works = false := by simp [AhciHba.works, habar]
      rwa [if_pos habar, List.filter_cons_of_neg (by simp [hworks]), List.filter_nil, List.append_nil, h.take]
    · rw [if_neg habar]
      cases hreset : hba.resets with
      | false =>
        have hworks : hba.works = false := by simp [AhciHba.works, hreset]
        rwa [List.filter_cons_of_neg (by simp [hworks]), List.filter_nil,
          List.append_nil, h.take]
      | true =>
        have hworks : hba.works = true := by simp [AhciHba.works, hreset, habar, hprog]
        rw [List.filter_cons_of_pos hworks]
        have hinitial : SettingUp hba s (List.finRange ahciMaxPorts) (ahciCapabilities hba, s) :=
          { same := rfl
            portsImpl := rfl
            numCmdSlots := rfl
            blank := fun _ _ => rfl
            done := fun p hp => absurd (List.mem_finRange p) hp
            controllers := rfl
            issued := fun _ hc => Or.inl hc }
        have hports := settingUp_ports hinitial
        generalize (List.finRange ahciMaxPorts).foldl initPort (ahciCapabilities hba, s) = r at hports ⊢
        exact setUp_counted h hports (by omega)

lemma setUp_bus {hbas : List AhciHba} (bus : List AhciHba) (h : SetUp hbas s) :
    SetUp ((hbas ++ bus.filter AhciHba.works).take ahciMaxControllers)
      (bus.foldl (fun s hba => if hba.progIf = ahciProgIf then s.ahciInitController hba else s) s) := by
  induction bus generalizing hbas s with
  | nil =>
    rwa [List.filter_nil, List.append_nil, h.take]
  | cons hba rest ih =>
    have hstep : SetUp ((hbas ++ [hba].filter AhciHba.works).take ahciMaxControllers)
        (if hba.progIf = ahciProgIf then s.ahciInitController hba else s) := by
      by_cases hprog : hba.progIf = ahciProgIf
      · rw [if_pos hprog]
        exact setUp_controller h hprog
      · have hworks : hba.works = false := by simp [AhciHba.works, hprog]
        rwa [if_neg hprog, List.filter_cons_of_neg (by simp [hworks]), List.filter_nil, List.append_nil, h.take]
    have hrest := ih hstep
    have hsplit : (hba :: rest).filter AhciHba.works = [hba].filter AhciHba.works ++ rest.filter AhciHba.works := by
      simp [← List.filter_append]
    rwa [hsplit, ← List.append_assoc, ← take_take_append]

end Ahci

lemma setUp_init (bus : List AhciHba) : Ahci.SetUp (workingHbas bus) (ahciInit bus) :=
  @Ahci.setUp_bus {} [] bus ⟨rfl, Nat.zero_le _, nofun, nofun⟩


/-! ## The condition -/

section

variable {bus : List AhciHba} {k : Nat} {ctrl : AhciController} {p : Fin ahciMaxPorts}

lemma workingHbas_of_controller (hget : (ahciInit bus).controllers[k]? = some ctrl) :
    (workingHbas bus)[k]? = some ctrl.hba := by
  rw [← (setUp_init bus).hbas, List.getElem?_map, hget]
  rfl

lemma controller_of_workingHbas {hba : AhciHba} (hget : (workingHbas bus)[k]? = some hba) :
    ∃ ctrl, (ahciInit bus).controllers[k]? = some ctrl ∧ ctrl.hba = hba := by
  rwa [← (setUp_init bus).hbas, List.getElem?_map, Option.map_eq_some_iff] at hget

lemma implements_eq (hget : (ahciInit bus).controllers[k]? = some ctrl) :
    ctrl.implements p = portBit ctrl.hba.portsImpl p :=
  congrArg (portBit · p) ((setUp_init bus).ports ctrl (List.mem_of_getElem? hget)).1

lemma type_eq (hget : (ahciInit bus).controllers[k]? = some ctrl) : (ctrl.portInfo p).type = ctrl.hba.device p :=
  (((setUp_init bus).ports ctrl (List.mem_of_getElem? hget)).2 p).1

lemma present_eq (hget : (ahciInit bus).controllers[k]? = some ctrl) :
    (ctrl.portInfo p).present = ctrl.hba.usable p :=
  (((setUp_init bus).ports ctrl (List.mem_of_getElem? hget)).2 p).2

lemma AhciHba.portBit_of_usable {hba : AhciHba} (h : hba.usable p = true) : portBit hba.portsImpl p = true := by
  by_contra hbit
  simp [AhciHba.usable, AhciHba.device, hbit] at h

lemma noDisk_of_portsWell (h : (ahciInit bus).PortsWell) : ∀ hba ∈ workingHbas bus, ∀ p, hba.device p ≠ .sata := by
  intro hba hmem p hsata
  obtain ⟨k, hget⟩ := List.mem_iff_getElem?.mp hmem
  obtain ⟨ctrl, hctrl, rfl⟩ := controller_of_workingHbas hget
  obtain ⟨command, hc, horigin, hplace, -⟩ := h.identified k ctrl p hctrl ((type_eq hctrl).trans hsata)
  obtain ⟨k', p', horigin', hlt⟩ := (setUp_init bus).issued command hc
  rw [horigin] at horigin'
  simp only [Option.some.injEq, Prod.mk.injEq] at horigin' hplace
  omega

lemma first_of_reaches {s : Ahci} {port : Int} (h : s.Reaches port .identify (k, p)) :
    ∀ m < k, ∀ other, s.controllers[m]? = some other → other.implements p = false := by
  obtain ⟨command, hissued, hplace⟩ := h ⟨true, .done⟩ rfl
  obtain ⟨rfl, rfl⟩ := hplace
  rcases Ahci.ahciIdentify_issued (s := s) with hold | ⟨asked, hasked, -, -, -, hfirst⟩
  · exact absurd (hissued.symm.trans hold) (by simp)
  · obtain rfl : command = asked := by simpa using hissued.symm.trans hasked
    exact hfirst

lemma first_of_portsWell (h : (ahciInit bus).PortsWell) (j k : Nat) (hba later : AhciHba) (p : Fin ahciMaxPorts)
    (hjk : j < k) (hj : (workingHbas bus)[j]? = some hba) (hk : (workingHbas bus)[k]? = some later)
    (husable : later.usable p = true) : portBit hba.portsImpl p = false := by
  obtain ⟨other, hother, rfl⟩ := controller_of_workingHbas hj
  obtain ⟨ctrl, hctrl, rfl⟩ := controller_of_workingHbas hk
  obtain ⟨port, hreach⟩ := h.reachable k ctrl p hctrl ((present_eq hctrl).trans husable)
  rw [← implements_eq hother]
  exact first_of_reaches hreach j hjk other hother

lemma reachable_of_apart (h : Apart bus) (hget : (ahciInit bus).controllers[k]? = some ctrl)
    (hpresent : (ctrl.portInfo p).present = true) : (ahciInit bus).Reaches p.val .identify (k, p) := by
  have husable : ctrl.hba.usable p = true := (present_eq hget).symm.trans hpresent
  apply Ahci.ahciIdentify_reaches hget _ hpresent
  · intro m hm other hother
    rw [implements_eq hother]
    exact h.first m k _ _ p hm (workingHbas_of_controller hother) (workingHbas_of_controller hget) husable
  · rw [implements_eq hget]
    exact AhciHba.portBit_of_usable husable

lemma type_ne_of_apart (h : Apart bus) (hget : (ahciInit bus).controllers[k]? = some ctrl) :
    (ctrl.portInfo p).type ≠ .sata := by
  rw [type_eq hget]
  exact h.noDisk _ (List.mem_of_getElem? (workingHbas_of_controller hget)) p

lemma info_ne_of_apart (h : Apart bus) {port : Int} {device : Nat × Fin ahciMaxPorts} {i : AhciPortInfo}
    (hinfo : (ahciInit bus).ahciGetPortInfo port = some (device, i)) : i.type ≠ .sata := by
  unfold Ahci.ahciGetPortInfo at hinfo
  cases hport : ahciPortOf port with
  | none => simp [hport] at hinfo
  | some p =>
    simp only [hport, Option.map_eq_some_iff] at hinfo
    obtain ⟨⟨k, ctrl⟩, hfind, -, rfl⟩ := hinfo
    obtain ⟨j, -, hget, -, -⟩ := findFrom_spec hfind
    exact type_ne_of_apart h hget

lemma probe_ne_of_apart (h : Apart bus) {port : Int} {device : Nat × Fin ahciMaxPorts} {type : AhciDevice}
    (hprobe : (ahciInit bus).ahciProbePort port = (some device, type)) : type ≠ .sata := by
  unfold Ahci.ahciProbePort at hprobe
  cases hport : ahciPortOf port with
  | none => simp [hport] at hprobe
  | some p =>
    rw [hport] at hprobe
    cases hfind : findFrom (·.implements p) 0 (ahciInit bus).controllers with
    | none => simp [hfind] at hprobe
    | some found =>
      simp only [hfind] at hprobe
      obtain ⟨-, rfl⟩ := hprobe
      obtain ⟨j, -, hget, -, -⟩ := findFrom_spec hfind
      exact type_ne_of_apart h hget

end

/-- **Ports are addressed consistently exactly where there is no disk** and no earlier controller has the port
of a device. -/
theorem ahci_ports_iff (bus : List AhciHba) : (ahciInit bus).PortsWell ↔ Apart bus := by
  constructor
  · intro h
    exact ⟨noDisk_of_portsWell h, first_of_portsWell h⟩
  · intro h
    exact
      { info := by
          intro port device i hinfo htype
          exact absurd htype (info_ne_of_apart h hinfo)
        probe := by
          intro port device hprobe
          exact absurd rfl (probe_ne_of_apart h hprobe)
        reachable := fun k ctrl p hget hpresent => ⟨p.val, reachable_of_apart h hget hpresent⟩
        identified := fun k ctrl p hget htype => absurd htype (type_ne_of_apart h hget) }

/-- A machine with one controller and one disk on its port 0, where every page is there and every command ends. -/
def oneDisk : AhciHba where
  progIf := ahciProgIf
  abar := 0xFEBF0000
  cap := 0xC0001F00
  portsImpl := 1
  resets := true
  ports := fun _ =>
    { ssts := 0x113, sig := ahciSigAta, identity := fun _ => 0x4141, page := fun _ => true
      answer := ⟨true, .done⟩ }

/-- The only disk of a machine is not asked who it is. -/
theorem disk_not_identified : ¬ (ahciInit [oneDisk]).PortsWell := by
  intro h
  have hworks : oneDisk.works = true := by decide
  have hmem : oneDisk ∈ workingHbas [oneDisk] := by
    simp [workingHbas, hworks, ahciMaxControllers]
  have hsata : oneDisk.device ⟨0, by decide⟩ = .sata := by decide
  exact noDisk_of_portsWell h oneDisk hmem ⟨0, by decide⟩ hsata

end AAAos
