import AAAos.Fs.Vfs.Effects
import AAAos.Lib.Trace

/-!
# The VFS and its callers

`VfsMachine` is the VFS with what exists only in its callers and over time: the lookup results
they hold and have not released, and for each mount slot how many filesystems have already been
released from it.  A handle remembers that number from the moment it was opened, so that a handle
whose filesystem is gone is told from one whose slot was taken by another filesystem since.

`exec_effect` reads every call but `vfs_mount` and `vfs_unmount` as a chain of effects.  The first
result over runs is about the mount table: as long as each unmount that goes through takes the
last slot, paths resolve over all active mounts.
-/

namespace AAAos

/-- The calls of the VFS. -/
inductive VfsCall (σ : Type)
  | registerFs (name : Str) (ops : VfsOps σ)
  | unregisterFs (name : Str)
  | mount (path type : Str) (device : UInt64)
  | unmount (path : Str)
  | openFile (path : Str) (flags : UInt32)
  | close (file : FileSlot)
  | read (file : FileSlot) (size : UInt64)
  | write (file : FileSlot) (buf : List UInt8)
  | seek (file : FileSlot) (offset : Int64) (whence : Whence)
  | truncate (file : FileSlot) (size : UInt64)
  | opendir (path : Str)
  | readdir (dir : DirSlot)
  | closedir (dir : DirSlot)
  | lookup (path : Str)
  | unref (node : NodeSlot)
  | mkdir (path : Str) (mode : UInt32)
  | rmdir (path : Str)
  | create (path : Str) (mode : UInt32)
  | unlink (path : Str)
  | rename (oldpath newpath : Str)
  | stat (path : Str)
  | pathExists (path : Str)
  | isDirectory (path : Str)
  | isFile (path : Str)

/-- The VFS, the lookup results in its callers' hands, and the filesystems released so far. -/
structure VfsMachine (σ : Type) where
  vfs : Vfs σ
  held : List NodeSlot
  released : MountSlot → Nat
  fileEpoch : FileSlot → Nat
  dirEpoch : DirSlot → Nat

namespace VfsMachine

variable {σ : Type}

/-- After `vfs_init`. -/
def boot (fstypeCount : Nat) (fs : σ) : VfsMachine σ where
  vfs := vfsInit fstypeCount fs
  held := []
  released := fun _ => 0
  fileEpoch := fun _ => 0
  dirEpoch := fun _ => 0

/-- The machine with the VFS as an operation left it. -/
def after {α : Type} (k : VfsMachine σ) (r : α × Vfs σ) : VfsMachine σ := { k with vfs := r.2 }

/-- How many filesystems had been released from the slot of the node's mount. -/
def epochOf (k : VfsMachine σ) (v : Vfs σ) (n : Option NodeSlot) : Nat :=
  ((n.bind fun n => (v.nodes n).mount).map k.released).getD 0

def execUnmount (k : VfsMachine σ) (path : Str) : VfsMachine σ where
  vfs := (vfsUnmount k.vfs path).2
  held := k.held
  released := match unmountTarget k.vfs path with
    | none => k.released
    | some m =>
      if k.vfs.Releasable m then Function.update k.released m (k.released m + 1) else k.released
  fileEpoch := k.fileEpoch
  dirEpoch := k.dirEpoch

def execOpen (k : VfsMachine σ) (path : Str) (flags : UInt32) : VfsMachine σ :=
  let r := vfsOpen k.vfs path flags
  { k with
    vfs := r.2
    fileEpoch := match r.1 with
      | none => k.fileEpoch
      | some f => Function.update k.fileEpoch f (k.epochOf r.2 (r.2.openFiles f).node) }

def execOpendir (k : VfsMachine σ) (path : Str) : VfsMachine σ :=
  let r := vfsOpendir k.vfs path
  { k with
    vfs := r.2
    dirEpoch := match r.1 with
      | none => k.dirEpoch
      | some d => Function.update k.dirEpoch d (k.epochOf r.2 (r.2.openDirs d).node) }

def execLookup (k : VfsMachine σ) (path : Str) : VfsMachine σ :=
  let r := vfsLookup k.vfs path
  { k with vfs := r.2, held := r.1.toList ++ k.held }

def execUnref (k : VfsMachine σ) (n : NodeSlot) : VfsMachine σ :=
  { k with vfs := k.vfs.unrefNode n, held := k.held.erase n }

/-- One call. -/
def exec (k : VfsMachine σ) : VfsCall σ → VfsMachine σ
  | .registerFs name ops => k.after (vfsRegisterFs k.vfs name ops)
  | .unregisterFs name => k.after (vfsUnregisterFs k.vfs name)
  | .mount path type device => k.after (vfsMount k.vfs path type device)
  | .unmount path => k.execUnmount path
  | .openFile path flags => k.execOpen path flags
  | .close file => k.after (vfsClose k.vfs file)
  | .read file size => k.after (vfsRead k.vfs file size)
  | .write file buf => k.after (vfsWrite k.vfs file buf)
  | .seek file offset whence => k.after (vfsSeek k.vfs file offset whence)
  | .truncate file size => k.after (vfsTruncate k.vfs file size)
  | .opendir path => k.execOpendir path
  | .readdir dir => k.after (vfsReaddir k.vfs dir)
  | .closedir dir => k.after (vfsClosedir k.vfs dir)
  | .lookup path => k.execLookup path
  | .unref node => k.execUnref node
  | .mkdir path mode => k.after (vfsMkdir k.vfs path mode)
  | .rmdir path => k.after (vfsRmdir k.vfs path)
  | .create path mode => k.after (vfsCreate k.vfs path mode)
  | .unlink path => k.after (vfsUnlink k.vfs path)
  | .rename oldpath newpath => k.after (vfsRename k.vfs oldpath newpath)
  | .stat path => k.after (vfsStat k.vfs path)
  | .pathExists path => k.after (vfsExists k.vfs path)
  | .isDirectory path => k.after (vfsIsDirectory k.vfs path)
  | .isFile path => k.after (vfsIsFile k.vfs path)

/-- A caller releases only lookup results it holds. -/
def Legal (k : VfsMachine σ) : VfsCall σ → Prop
  | .unref node => node ∈ k.held
  | _ => True

/-- One legal call, made only where `allowed` says so. -/
def Step (allowed : VfsMachine σ → VfsCall σ → Prop) (k : VfsMachine σ) (c : VfsCall σ)
    (k' : VfsMachine σ) : Prop := k.Legal c ∧ allowed k c ∧ k' = k.exec c

/-- The reference that `vfs_mkdir` and `vfs_create` do not release: on the node their path already
resolves to. -/
def leaked (k : VfsMachine σ) : VfsCall σ → Option NodeSlot
  | .mkdir path _ => (vfsLookup k.vfs path).1
  | .create path _ => (vfsLookup k.vfs path).1
  | _ => none

/-- The handles that a call opens, and for `vfs_open` also those that are closed when it returns:
it may fill a slot and empty it again. -/
def opened (k : VfsMachine σ) : VfsCall σ → Set Handle
  | .openFile path flags => {h | ∃ f, h = .file f ∧ ((vfsOpen k.vfs path flags).1 = some f ∨
      ((vfsOpen k.vfs path flags).2.openFiles f).inUse = false)}
  | .opendir path => {h | ∃ d, h = .dir d ∧ (vfsOpendir k.vfs path).1 = some d}
  | _ => ∅

/-- The calls that change the mount table. -/
def ChangesMounts : VfsCall σ → Prop
  | .mount _ _ _ => True
  | .unmount _ => True
  | _ => False

/-- **Every other call is a chain of effects**, which starts with the callers' lookup results in
hand and ends with those they hold then, and with what leaked. -/
theorem exec_effect (k : VfsMachine σ) (c : VfsCall σ) (hlegal : k.Legal c) (hc : ¬ ChangesMounts c) :
    Effect (k.opened c) 3 k.vfs k.held (k.exec c).vfs (pin (k.exec c).held (k.leaked c)) := by
  cases c with
  | mount path type device => exact absurd trivial hc
  | unmount path => exact absurd trivial hc
  | registerFs name ops => exact .of_quiet (vfsRegisterFs_quiet _ _ _)
  | unregisterFs name => exact .of_quiet (vfsUnregisterFs_quiet _ _)
  | openFile path flags =>
    exact vfsOpen_effect k.vfs path flags fun f hf => ⟨f, rfl, hf⟩
  | close file => exact (vfsClose_effect _ _).mono (by omega)
  | read file size => exact .of_quiet (vfsRead_quiet _ _ _)
  | write file buf => exact .of_quiet (vfsWrite_quiet _ _ _)
  | seek file offset whence => exact .of_quiet (vfsSeek_quiet _ _ _ _)
  | truncate file size => exact .of_quiet (vfsTruncate_quiet _ _ _)
  | opendir path =>
    refine Effect.mono (a := 1) ?_ (by omega)
    exact vfsOpendir_effect k.vfs path fun d hd => ⟨d, rfl, hd⟩
  | readdir dir => exact .of_quiet (vfsReaddir_quiet _ _)
  | closedir dir => exact (vfsClosedir_effect _ _).mono (by omega)
  | lookup path =>
    have h := vfsLookup_effect (O := k.opened (.lookup path)) k.vfs path k.held
    refine Effect.mono (a := 1) ?_ (by omega)
    cases hr : (vfsLookup k.vfs path).1 <;> simpa [exec, execLookup, leaked, hr] using h
  | unref node =>
    have hheld : (k.held : Multiset NodeSlot) = node ::ₘ (k.held.erase node : List NodeSlot) := by
      rw [← Multiset.coe_erase, Multiset.cons_erase (Multiset.mem_coe.mpr hlegal)]
    rw [hheld]
    exact .unref .done
  | mkdir path mode => exact (makeAt_effect _ _ _).mono (by omega)
  | rmdir path => exact (vfsRmdir_effect _ _).mono (by omega)
  | create path mode => exact (makeAt_effect _ _ _).mono (by omega)
  | unlink path => exact (vfsUnlink_effect _ _).mono (by omega)
  | rename oldpath newpath => exact (vfsRename_effect _ _ _).mono (by omega)
  | stat path => exact (vfsStat_effect _ _).mono (by omega)
  | pathExists path => exact (askNode_effect _ _ _).mono (by omega)
  | isDirectory path => exact (askNode_effect _ _ _).mono (by omega)
  | isFile path => exact (askNode_effect _ _ _).mono (by omega)

end VfsMachine

/-! ## The mount table over runs -/

section

variable {σ : Type} {v w : Vfs σ} {m : MountSlot} {path : Str}

lemma Effect.sameMounts {O : Set Handle} {b : Nat} {p q : Multiset NodeSlot}
    (h : Effect O b v p w q) : w.mounts = v.mounts ∧ w.mountCount = v.mountCount := by
  induction h with
  | done => exact ⟨rfl, rfl⟩
  | quiet hq _ ih => exact ⟨ih.1.trans hq.mounts, ih.2.trans hq.mountCount⟩
  | ref _ _ _ ih => exact ih
  | alloc _ _ _ ih => exact ih
  | unref _ ih => simpa [Vfs.unrefNode_mounts, Vfs.unrefNode_mountCount] using ih
  | openFile _ _ _ _ _ ih => exact ih
  | closeFile _ _ _ ih => exact ih
  | openDir _ _ _ _ _ ih => exact ih
  | closeDir _ _ _ ih => exact ih

namespace Vfs.Packed

lemma congr (h : v.Packed) (hmounts : w.mounts = v.mounts) (hcount : w.mountCount = v.mountCount) : w.Packed := by
  constructor
  · simpa [hmounts, hcount] using h.slots
  · simpa [hcount] using h.count_le
  · simpa [hmounts] using h.normal
  · simpa [hmounts] using h.distinct

lemma rewriteInactive (h : v.Packed) {mount : Mount σ} (hm : (v.mounts m).active = false)
    (hmount : mount.active = false) (hmounts : w.mounts = Function.update v.mounts m mount)
    (hcount : w.mountCount = v.mountCount) : w.Packed := by
  have hactive : ∀ n, (w.mounts n).active = true → (v.mounts n).active = true ∧ w.mounts n = v.mounts n := by
    intro n hn
    by_cases hnm : n = m
    · subst hnm
      simp [hmounts, hmount] at hn
    · have : w.mounts n = v.mounts n := by simp [hmounts, hnm]
      exact ⟨this ▸ hn, this⟩
  refine ⟨?_, hcount ▸ h.count_le, ?_, ?_⟩
  · intro n
    rw [hcount, ← h.slots n]
    by_cases hnm : n = m
    · subst hnm
      simp [hmounts, hmount, hm]
    · simp [hmounts, hnm]
  · intro n hn
    rw [(hactive n hn).2]
    exact h.normal n (hactive n hn).1
  · intro i j hi hj hpath
    rw [(hactive i hi).2, (hactive j hj).2] at hpath
    exact h.distinct i j (hactive i hi).1 (hactive j hj).1 hpath

/-- In a packed table the first inactive slot is the one behind the active ones. -/
lemma slot_eq (h : v.Packed) {q : Str} (hm : v.SlotFor m q) : m.val = v.mountCount.toNat := by
  have hle : v.mountCount.toNat ≤ m.val := by
    by_contra hlt
    have := (h.slots m).mpr (by omega)
    simp [hm.free] at this
  by_contra hne
  have hlt : v.mountCount.toNat < 64 := by omega
  have hinactive : (v.mounts ⟨v.mountCount.toNat, hlt⟩).active = false := by
    rw [← Bool.not_eq_true, h.slots]
    simp
  have := Fin.le_def.mp (hm.first _ hinactive)
  simp only at this
  omega

/-- **Mounting keeps the table packed**: the new mount goes behind the active ones. -/
lemma mountActive (h : v.Packed) {mount : Mount σ} {p q : Str} (hm : v.SlotFor m q)
    (hq : vfsNormalizePath p = some q) (hactive : mount.active = true) (hpath : mount.path = q)
    (hmounts : w.mounts = Function.update v.mounts m mount)
    (hcount : w.mountCount = v.mountCount + 1) : w.Packed := by
  have hslot := h.slot_eq hm
  have hcount' : w.mountCount.toNat = v.mountCount.toNat + 1 := by
    rw [hcount, UInt32.toNat_add]
    have := m.isLt
    simp only [UInt32.toNat_one]
    omega
  have hself : w.mounts m = mount := by simp [hmounts]
  have hother : ∀ n, n ≠ m → w.mounts n = v.mounts n := by
    intro n hn
    simp [hmounts, hn]
  -- an old active mount is scanned, so its path is not the new one
  have hnew : ∀ n, n ≠ m → (w.mounts n).active = true → (w.mounts n).path ≠ (w.mounts m).path := by
    intro n hn hact
    rw [hother n hn] at hact ⊢
    rw [hself, hpath]
    exact hm.fresh n ((h.slots n).mp hact) hact
  refine ⟨?_, ?_, ?_, ?_⟩
  · intro n
    rw [hcount']
    by_cases hn : n = m
    · subst hn
      simp only [hself, hactive, true_iff]
      omega
    · rw [hother n hn, h.slots n]
      have : n.val ≠ m.val := fun h => hn (Fin.ext h)
      omega
  · have := m.isLt
    omega
  · intro n hact
    by_cases hn : n = m
    · subst hn
      exact ⟨p, by rw [hself, hpath, hq]⟩
    · rw [hother n hn] at hact ⊢
      exact h.normal n hact
  · intro i j hi hj hij
    by_cases him : i = m
    · by_cases hjm : j = m
      · rw [him, hjm]
      · subst him
        exact absurd hij.symm (hnew j hjm hj)
    · by_cases hjm : j = m
      · subst hjm
        exact absurd hij (hnew i him hi)
      · rw [hother i him] at hi hij
        rw [hother j hjm] at hj hij
        exact h.distinct i j hi hj hij

lemma unmountLast (h : v.Packed) {mount : Mount σ} (hactive : mount.active = false)
    (hlast : m.val + 1 = v.mountCount.toNat)
    (hmounts : w.mounts = Function.update v.mounts m mount)
    (hcount : w.mountCount = v.mountCount - 1) : w.Packed := by
  have hcount' : w.mountCount.toNat = m.val := by
    rw [hcount, UInt32.toNat_sub_of_le]
    · simp only [UInt32.toNat_one]
      omega
    · rw [UInt32.le_iff_toNat_le, UInt32.toNat_one]
      omega
  have hkept : ∀ n, (w.mounts n).active = true → n ≠ m ∧ w.mounts n = v.mounts n := by
    intro n hn
    by_cases hnm : n = m
    · subst hnm
      simp [hmounts, hactive] at hn
    · exact ⟨hnm, by simp [hmounts, hnm]⟩
  refine ⟨?_, ?_, ?_, ?_⟩
  · intro n
    rw [hcount']
    by_cases hn : n = m
    · subst hn
      simp [hmounts, hactive]
    · have : n.val ≠ m.val := fun h => hn (Fin.ext h)
      have hsame : w.mounts n = v.mounts n := by simp [hmounts, hn]
      rw [hsame, h.slots n]
      omega
  · have := m.isLt
    omega
  · intro n hn
    have hsame := (hkept n hn).2
    rw [hsame] at hn ⊢
    exact h.normal n hn
  · intro i j hi hj hij
    have hi' := (hkept i hi).2
    have hj' := (hkept j hj).2
    rw [hi'] at hi hij
    rw [hj'] at hj hij
    exact h.distinct i j hi hj hij

/-- Any other unmount that goes through leaves the mount of the last slot out of the scans. -/
lemma hides_last (h : v.Packed) {mount : Mount σ} (hm : (v.mounts m).active = true)
    (hactive : mount.active = false) (hlast : m.val + 1 ≠ v.mountCount.toNat)
    (hmounts : w.mounts = Function.update v.mounts m mount)
    (hcount : w.mountCount = v.mountCount - 1) : ¬ w.Resolves := by
  have hlt := (h.slots m).mp hm
  have hle := h.count_le
  obtain ⟨last, hval⟩ : ∃ last : MountSlot, last.val + 1 = v.mountCount.toNat :=
    ⟨⟨v.mountCount.toNat - 1, by omega⟩, by simp only; omega⟩
  have hne : last ≠ m := by
    rintro rfl
    exact hlast hval
  have hcount' : w.mountCount.toNat = last.val := by
    rw [hcount, UInt32.toNat_sub_of_le]
    · simp only [UInt32.toNat_one]
      omega
    · rw [UInt32.le_iff_toNat_le, UInt32.toNat_one]
      omega
  have hsame : w.mounts last = v.mounts last := by simp [hmounts, hne]
  have hlastActive : (v.mounts last).active = true := (h.slots last).mpr (by omega)
  obtain ⟨p, hp⟩ := h.normal last hlastActive
  refine not_resolves_of_hidden (m := last) (p := p) (by rw [hsame, hlastActive]) (by rw [hsame, hp])
    (by omega) ?_
  intro n hn
  by_cases hnm : n = m
  · subst hnm
    simp [hmounts, hactive] at hn
  · have hn' : w.mounts n = v.mounts n := by simp [hmounts, hnm]
    rw [hn'] at hn ⊢
    exact h.normal n hn

end Vfs.Packed

namespace VfsMachine

/-- An unmount of this path, if it goes through, takes the last slot: the mount that was made
last among the active ones. -/
def TakesLastSlot (v : Vfs σ) (path : Str) : Prop :=
  ∀ m, unmountTarget v path = some m → v.Releasable m → m.val + 1 = v.mountCount.toNat

/-- Filesystems are unmounted in the reverse order of their mounting. -/
def UnmountsLast (k : VfsMachine σ) : VfsCall σ → Prop
  | .unmount path => TakesLastSlot k.vfs path
  | _ => True

lemma packed_boot (fstypeCount : Nat) (fs : σ) : (boot fstypeCount fs).vfs.Packed := by
  constructor <;> simp [boot, vfsInit]

lemma packed_step (k : VfsMachine σ) (c : VfsCall σ) (k' : VfsMachine σ) (h : k.vfs.Packed)
    (hstep : Step UnmountsLast k c k') : k'.vfs.Packed := by
  obtain ⟨hlegal, hallowed, rfl⟩ := hstep
  by_cases hc : ChangesMounts c
  · cases c with
    | mount path type device =>
      rcases vfsMount_cases k.vfs path type device with hq | ⟨m, q, hq, hslot, hinto⟩
      · exact h.congr hq.mounts hq.mountCount
      · rcases hinto with ⟨mount, hin, hquiet⟩ | ⟨mount, hact, hpath, hmade⟩
        · exact h.rewriteInactive hslot.free hin hquiet.mounts hquiet.mountCount
        · rcases hmade with ⟨-, hquiet⟩ | ⟨r, info, -, -, hquiet⟩
          · exact h.mountActive hslot hq hact hpath hquiet.mounts hquiet.mountCount
          · exact h.mountActive hslot hq hact hpath hquiet.mounts hquiet.mountCount
    | unmount path =>
      rcases vfsUnmount_cases k.vfs path with ⟨hq, -⟩ | ⟨m, htarget, hrel, mount, hin, hdone⟩
      · exact h.congr hq.mounts hq.mountCount
      · have hlast := hallowed m htarget hrel
        rcases hdone with hquiet | ⟨r, -, hquiet⟩
        · exact h.unmountLast hin hlast hquiet.mounts hquiet.mountCount
        · exact h.unmountLast hin hlast hquiet.mounts hquiet.mountCount
    | _ => exact absurd hc id
  · have heff := (exec_effect k c hlegal hc).sameMounts
    exact h.congr heff.1 heff.2

/-- **Mount resolution over runs.**  Whatever the filesystems answer, as long as every unmount
that goes through takes the last slot, a path resolves to the active mount with the longest
component-wise prefix and no two active mounts share a path; and the first unmount that goes
through and takes another slot breaks this. -/
theorem resolves_of_unmountsLast (fstypeCount : Nat) (fs : σ) (calls : List (VfsCall σ))
    (k : VfsMachine σ) (hrun : Steps (Step UnmountsLast) (boot fstypeCount fs) calls k) :
    k.vfs.Resolves ∧ ∀ path, ¬ TakesLastSlot k.vfs path → ¬ (k.exec (.unmount path)).vfs.Resolves := by
  have hpacked := hrun.invariant (I := fun k => k.vfs.Packed) packed_step
    (packed_boot fstypeCount fs)
  refine ⟨hpacked.resolves, ?_⟩
  intro path hnot
  simp only [TakesLastSlot, not_forall] at hnot
  obtain ⟨m, htarget, hrel, hlast⟩ := hnot
  obtain ⟨mount, hin, hmounts, hcount⟩ := vfsUnmount_released htarget hrel
  exact hpacked.hides_last (active_of_unmountTarget htarget) hin hlast hmounts hcount

/-- A filesystem type without callbacks, mounted at `/a` and then at `/b`. -/
def twoMounts : VfsMachine Unit :=
  (((boot 0 ()).exec (.registerFs [116] {})).exec (.mount [47, 97] [116] 0)).exec
    (.mount [47, 98] [116] 0)

/-- Unmounting `/b` first is allowed, and `/a` is still found. -/
theorem resolves_twoMounts : (twoMounts.exec (.unmount [47, 98])).vfs.Resolves ∧
      vfsGetMount (twoMounts.exec (.unmount [47, 98])).vfs [47, 97] = some 0 := by
  have hlast : TakesLastSlot twoMounts.vfs [47, 98] := by
    intro m hm _
    have htarget : unmountTarget twoMounts.vfs [47, 98] = some 1 := by with_unfolding_all decide
    obtain rfl : (1 : MountSlot) = m := Option.some.inj (htarget.symm.trans hm)
    with_unfolding_all decide
  refine ⟨(resolves_of_unmountsLast 0 () [.registerFs [116] {}, .mount [47, 97] [116] 0,
    .mount [47, 98] [116] 0, .unmount [47, 98]] _ ?_).1,
      by set_option maxRecDepth 8192 in with_unfolding_all decide⟩
  exact .cons ⟨trivial, trivial, rfl⟩ (.cons ⟨trivial, trivial, rfl⟩
    (.cons ⟨trivial, trivial, rfl⟩ (.cons ⟨trivial, hlast, rfl⟩ (.nil _))))

/-- Unmounting `/a` first hides `/b`: one mount is left, in slot 1, and the scans stop before it. -/
theorem not_resolves_twoMounts : ¬ ∀ (calls : List (VfsCall Unit)) (k : VfsMachine Unit),
      Steps (Step fun _ _ => True) (boot 0 ()) calls k → k.vfs.Resolves := by
  intro h
  have hres : (twoMounts.exec (.unmount [47, 97])).vfs.Resolves :=
    h [.registerFs [116] {}, .mount [47, 97] [116] 0, .mount [47, 98] [116] 0, .unmount [47, 97]] _
      (.cons ⟨trivial, trivial, rfl⟩ (.cons ⟨trivial, trivial, rfl⟩
        (.cons ⟨trivial, trivial, rfl⟩ (.cons ⟨trivial, trivial, rfl⟩ (.nil _)))))
  set_option maxRecDepth 8192 in
  have hnone : vfsGetMount (twoMounts.exec (.unmount [47, 97])).vfs [47, 98] = none := by
    with_unfolding_all decide
  have hactive : ((twoMounts.exec (.unmount [47, 97])).vfs.mounts 1).active = true := by
    with_unfolding_all decide
  have hpath : ((twoMounts.exec (.unmount [47, 97])).vfs.mounts 1).path = [47, 98] := by
    with_unfolding_all decide
  refine (hres.none_iff [47, 98] [47, 98] (by decide)).mp hnone 1 ⟨hactive, ?_⟩
  rw [hpath]

end VfsMachine

end

end AAAos
