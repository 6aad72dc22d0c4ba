import AAAos.Fs.Vfs.Vfs

/-!
# Creating a file exclusively

With `VFS_O_CREAT` and `VFS_O_EXCL` a caller asks for a file that was not there before: `vfs_open` is to create it, or
to say that it exists.

**What goes wrong.**  `vfs_open` creates the file first, looks it up again, and tests `VFS_O_EXCL` after that, on the
node that it has just made.  So it always refuses (`vfsOpen_exclusive_none`): the file is there, and the caller is told
that it was there already (`exclusiveCreate_refused`).  A directory that was there is reported as a directory, unless
`VFS_O_DIRECTORY` is given, since that test comes first.

**What is proved.**  For every filesystem and path, exactly when the caller gets what was asked for
(`exclusiveCreate_iff`).
-/

namespace AAAos

open Vfs

section

variable {σ : Type} {v : Vfs σ} {path : Str} {mode : UInt32}

/-- The flags of an exclusive create, with others. -/
def exclusive (mode : UInt32) : UInt32 := oCreat ||| oExcl ||| mode

lemma exclusive_creat (mode : UInt32) : exclusive mode &&& oCreat ≠ 0 := by
  intro h
  have hbit := congrArg (fun x : UInt32 => x.toNat.testBit 9) h
  simp [exclusive, oCreat, oExcl, UInt32.toNat_or, UInt32.toNat_and, Nat.testBit_and, Nat.testBit_or] at hbit
  exact absurd (hbit (.inl (by decide))) (by decide)

lemma exclusive_excl (mode : UInt32) : exclusive mode &&& oExcl ≠ 0 := by
  intro h
  have hbit := congrArg (fun x : UInt32 => x.toNat.testBit 11) h
  simp [exclusive, oCreat, oExcl, UInt32.toNat_or, UInt32.toNat_and, Nat.testBit_and, Nat.testBit_or] at hbit
  exact absurd (hbit (.inl (by decide))) (by decide)

/-- The parent directory of the path resolves, and the filesystem's `create` succeeds in it. -/
def CreateServed (v : Vfs σ) (path : Str) : Prop :=
  ∃ parent w f, vfsLookup (vfsLookup v path).2 (vfsParentPath path) = (some parent, w) ∧
    w.op parent VfsOps.create = some f ∧
    (w.callOn parent fun node => f node (vfsBasename path) ownerReadWrite).1 = vfsOk

/-- What an exclusive create is to do. -/
structure ExclusiveCreate (v : Vfs σ) (path : Str) (mode : UInt32) : Prop where
  creates : (vfsLookup v path).1 = none → CreateServed v path → (vfsOpen v path (exclusive mode)).1 ≠ none
  refuses : (vfsLookup v path).1 ≠ none → (vfsOpen v path (exclusive mode)).1 = none ∧
    (vfsOpen v path (exclusive mode)).2.lastError = errExist ∧
    (vfsOpen v path (exclusive mode)).2.fs = (vfsLookup v path).2.fs

/-- **An exclusive create never succeeds.** -/
lemma vfsOpen_exclusive_none (v : Vfs σ) (path : Str) (mode : UInt32) : (vfsOpen v path (exclusive mode)).1 = none := by
  unfold vfsOpen
  rcases openLookup v path (exclusive mode) with ⟨_ | node, w⟩
  · rfl
  · dsimp only
    split_ifs with hdir hexcl
    · rfl
    · rfl
    · exact absurd ⟨exclusive_creat mode, exclusive_excl mode⟩ hexcl

lemma unrefNode_fs (v : Vfs σ) (n : NodeSlot) : (v.unrefNode n).fs = v.fs := by
  unfold unrefNode
  dsimp only
  split_ifs <;> rfl

lemma vfsOpen_exclusive_some {node : NodeSlot} {w : Vfs σ} (h : vfsLookup v path = (some node, w)) (mode : UInt32) :
    (vfsOpen v path (exclusive mode)).2.fs = w.fs ∧ (vfsOpen v path (exclusive mode)).2.lastError =
      if (w.nodes node).info.type = .directory ∧ exclusive mode &&& oDirectory = 0 then errIsDir else errExist := by
  unfold vfsOpen openLookup
  rw [h]
  dsimp only
  split_ifs with hdir hexcl
  · exact ⟨unrefNode_fs w node, rfl⟩
  · exact ⟨unrefNode_fs w node, rfl⟩
  · exact absurd ⟨exclusive_creat mode, exclusive_excl mode⟩ hexcl

end

/-- **Exclusive create**, for every filesystem and path.  The caller gets what was asked for exactly if the path does not
resolve and cannot be created either, or resolves to something that is not taken for a directory. -/
theorem exclusiveCreate_iff {σ : Type} (v : Vfs σ) (path : Str) (mode : UInt32) : ExclusiveCreate v path mode ↔
      ((vfsLookup v path).1 = none → ¬ CreateServed v path) ∧
      ∀ node, (vfsLookup v path).1 = some node →
        ((vfsLookup v path).2.nodes node).info.type = .directory → exclusive mode &&& oDirectory ≠ 0 := by
  constructor
  · intro h
    refine ⟨fun hnone hserved => h.creates hnone hserved (vfsOpen_exclusive_none v path mode), ?_⟩
    intro node hsome hdir hflag
    have herr := (vfsOpen_exclusive_some (Prod.ext hsome rfl : vfsLookup v path = (some node, _)) mode).2
    rw [if_pos ⟨hdir, hflag⟩, (h.refuses (by rw [hsome]; exact Option.some_ne_none node)).2.1] at herr
    exact absurd herr (by decide)
  · rintro ⟨hnone, hsome⟩
    refine ⟨fun h hserved => absurd hserved (hnone h), fun h => ?_⟩
    obtain ⟨node, hnode⟩ := Option.ne_none_iff_exists'.mp h
    obtain ⟨hfs, herr⟩ := vfsOpen_exclusive_some (Prod.ext hnode rfl : vfsLookup v path = (some node, _)) mode
    rw [if_neg (fun hdir => hsome node hnode hdir.1 hdir.2)] at herr
    exact ⟨vfsOpen_exclusive_none v path mode, herr, hfs⟩

/-- Empty files in one directory. -/
def nameOps : VfsOps (List Str) where
  mount := some fun _ _ _ _ s => ⟨vfsOk, some { type := .directory }, false, s⟩
  finddir := some fun _ name _ s => (if name ∈ s then some { type := .file } else none, s)
  create := some fun _ name _ s => (vfsOk, name :: s)

/-- There is none yet. -/
def nameRoot : Vfs (List Str) := (vfsMount (vfsRegisterFs (vfsInit 0 []) [116] nameOps).2 [47] [116] 0).2

/-- The first file is created, and refused. -/
theorem exclusiveCreate_refused : (vfsLookup nameRoot [47, 102]).1 = none ∧ CreateServed nameRoot [47, 102] ∧
    (vfsOpen nameRoot [47, 102] (exclusive oRdwr)).2.fs = [[102]] ∧
    (vfsOpen nameRoot [47, 102] (exclusive oRdwr)).2.lastError = errExist ∧
    ¬ ExclusiveCreate nameRoot [47, 102] oRdwr := by
  have hnone : (vfsLookup nameRoot [47, 102]).1 = none := by decide +kernel
  have hserved : CreateServed nameRoot [47, 102] := by
    obtain ⟨f, hop, hres⟩ := Option.map_eq_some_iff.mp
      (show (((vfsLookup (vfsLookup nameRoot [47, 102]).2 [47]).2.op 0 VfsOps.create).map fun f =>
        ((vfsLookup (vfsLookup nameRoot [47, 102]).2 [47]).2.callOn 0 fun node => f node [102] ownerReadWrite).1) =
          some vfsOk by decide +kernel)
    have hparent : vfsParentPath [47, 102] = [47] := by decide
    have hname : vfsBasename [47, 102] = [102] := by decide
    refine ⟨0, _, f, Prod.ext (by decide +kernel) rfl, ?_, ?_⟩
    · rw [hparent]
      exact hop
    · rw [hparent, hname]
      exact hres
  refine ⟨hnone, hserved, by decide +kernel, by decide +kernel, fun h => ?_⟩
  exact h.creates hnone hserved (vfsOpen_exclusive_none nameRoot [47, 102] oRdwr)

end AAAos
