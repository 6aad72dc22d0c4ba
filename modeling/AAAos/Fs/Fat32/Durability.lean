import AAAos.Fs.Fat32.CreateFind
import AAAos.Fs.Fat32.WriteFile

/-!
# Writes, closing, and looking again

A node of a file holds a copy of the file's directory entry.  `fat32_vfs_write` changes the copy, and
`fat32_vfs_close` writes the FAT back, and the FSInfo sector; `fat32_vfs_finddir` reads the entry from the directory.

**What goes wrong.**  Nobody writes the copy to the directory.  A byte that is written behind the end of the file is
gone when the file is looked up again, since the entry on the disk still has the old size (`append_is_lost`).

**What is proved.**  For every file and every sequence of writes that do not go behind its end, that a node found after
the file was closed has the size and the contents that the writes make (`writes_durable`); and that a write that goes
behind the end never lasts, if there is room for it (`not_durable_behind`).
-/

namespace AAAos

open View

/-! ## The callbacks -/

/-- A node of a file: its copy of the entry, and what the VFS reads of the node. -/
structure FileNode where
  entry : Mem
  size : Nat
  dirty : Bool

/-- `fat32_vfs_finddir`.  `memory` says that there is a node, and a page for what it holds. -/
def fat32VfsFinddir (v : Volume) (fuel : Nat) (memory : Bool) (dirCluster : Nat) (name : Str) :
    FatProg (Option FileNode) := do
  match ← fat32FindEntryInDir v fuel dirCluster name with
  | .error _ => pure none
  | .ok (entry, _) => if memory then pure (some ⟨entry, entryFileSize entry, false⟩) else pure none

/-- `fat32_vfs_read`. -/
def fat32VfsRead (v : Volume) (node : FileNode) (offset len : Nat) : FatProg (Except Int (List UInt8)) :=
  fat32ReadFile v node.entry offset len

/-- `fat32_vfs_write`. -/
def fat32VfsWrite (v : Volume) (fuel : Nat) (node : FileNode) (src : List UInt8) (offset : Nat) :
    FatProg (Int × FileNode) := do
  let (result, entry) ← fat32WriteFile v fuel node.entry src offset
  if 0 < result then pure (result, ⟨entry, entryFileSize entry, true⟩)
  else pure (result, { node with entry := entry })

/-- `fat32_vfs_close`. -/
def fat32VfsClose (fs : Fat32Fs) (node : FileNode) : Int × Fat32Fs :=
  if node.dirty then (0, (fat32Sync fs).2) else (0, fs)

/-- Calls of `fat32_vfs_write`, one after another: what each is given, and what each answers. -/
def fat32VfsWrites (v : Volume) (fuel : Nat) : List (List UInt8 × Nat) → FileNode → FatProg (List Int × FileNode)
  | [], node => pure ([], node)
  | (src, offset) :: writes, node => do
    let (result, node) ← fat32VfsWrite v fuel node src offset
    let (results, node) ← fat32VfsWrites v fuel writes node
    pure (result :: results, node)

/-! ## What is claimed -/

/-- The bytes of a file after a write, with zeros where the file had none before. -/
def writeTo (file : List UInt8) (write : List UInt8 × Nat) : List UInt8 :=
  if write.1 = [] then file else overwrite (file ++ List.replicate (write.2 - file.length) 0) write.2 write.1

/-- The file after those writes. -/
def fileAfter (file : List UInt8) (writes : List (List UInt8 × Nat)) : List UInt8 := writes.foldl writeTo file

/-- **The writes last**: a node that is found after the file was closed has the file as it is after them. -/
def Durable (fs : Fat32Fs) (fuel p : Nat) (name : Str) (node : FileNode) (writes : List (List UInt8 × Nat))
    (file : List UInt8) : Prop :=
  ∃ node' fs₁ found fs₂,
    (fat32VfsWrites fs.vol fuel writes node).run fatMachine fs =
      some ((writes.map fun write => (write.1.length : Int), node'), fs₁) ∧
    (fat32VfsFinddir fs.vol fuel true p name).run fatMachine (fat32VfsClose fs₁ node').2 = some (some found, fs₂) ∧
    found.size = (fileAfter file writes).length ∧
    ∀ offset len, offset + len < 2 ^ 64 → ∃ fs₃, (fat32VfsRead fs.vol found offset len).run fatMachine fs₂ =
      some (.ok (((fileAfter file writes).drop offset).take len), fs₃)

/-! ## Writes within the file -/

section Writes

variable {v : Volume} {t u w : View} {p fuel offset : Nat} {cs ds : List Nat} {name : Str} {entry : Mem}
  {node : FileNode} {src file : List UInt8} {writes : List (List UInt8 × Nat)}

lemma length_overwrite {l : List UInt8} (h : offset + src.length ≤ l.length) :
    (overwrite l offset src).length = l.length := by
  rw [overwrite, List.length_append, List.length_append, List.length_take, List.length_drop]
  omega

lemma writeTo_inside (hsrc : src ≠ []) (h : offset + src.length ≤ file.length) :
    writeTo file (src, offset) = overwrite file offset src := by
  rw [writeTo, if_neg hsrc]
  dsimp only
  rw [Nat.sub_eq_zero_of_le (by omega), List.replicate_zero, List.append_nil]

/-- The file has been written to, and has the entry and the clusters that it had. -/
structure View.Rewritten (v : Volume) (t : View) (entry : Mem) (cs : List Nat) (file : List UInt8) (u : View) : Prop where
  chain : FileChain v u entry cs
  kept : ∀ c, c ∉ cs → u.next c = t.next c ∧ u.data c = t.data c
  content : u.content v entry cs = file

lemma length_content (hfits : entryFileSize entry ≤ cs.length * v.bytesPerCluster) :
    (t.content v entry cs).length = entryFileSize entry := by
  rw [content, List.length_take, length_raw]
  omega

lemma View.Rewritten.write (h : Rewritten v t entry cs file u)
    (hfits : entryFileSize entry ≤ cs.length * v.bytesPerCluster) (hsrc : src ≠ []) (hend : offset + src.length ≤ entryFileSize entry)
    (hw : WrittenInside v u (fat32EntryCluster entry 0) cs offset src w) :
    Rewritten v t entry cs (writeTo file (src, offset)) w := by
  have hlen := List.length_pos_of_ne_nil hsrc
  have hsize : file.length = entryFileSize entry := h.content ▸ length_content hfits
  have hne : cs ≠ [] := by
    rintro rfl
    rw [List.length_nil, Nat.zero_mul] at hfits
    omega
  refine ⟨?_, fun c hc => ?_, ?_⟩
  · unfold FileChain
    rw [if_neg hne]
    exact hw.ends
  · obtain ⟨hnext, hdata⟩ := h.kept c hc
    exact ⟨(hw.grown.next c hc List.not_mem_nil).trans hnext, (hw.grown.data c hc List.not_mem_nil).trans hdata⟩
  · rw [writeTo_inside hsrc (by omega), View.content, hw.raw]
    have hsplit := List.take_append_drop (entryFileSize entry) (u.raw v cs)
    have hcontent : (u.raw v cs).take (entryFileSize entry) = file := h.content
    rw [hcontent] at hsplit
    have hlength : (overwrite file offset src).length = entryFileSize entry := (length_overwrite (by omega)).trans hsize
    rw [← hsplit, overwrite_append_left (by omega), List.take_append_of_le_length hlength.ge,
      List.take_of_length_le hlength.le]

/-- **The writes**, one after another. -/
lemma wp_fat32VfsWrites (node : FileNode) (hv : v.Regular) (hrw : v.readonly = false) (hfuel : v.totalClusters ≤ fuel)
    (hfile : entryAttr entry 0 &&& attrDirectory = 0) (hfits : entryFileSize entry ≤ cs.length * v.bytesPerCluster)
    (hinside : ∀ write ∈ writes, write.1 = [] ∨ write.2 + write.1.length ≤ entryFileSize entry)
    (hnode : node.entry = entry) (h : Rewritten v t entry cs file u) :
    (fat32VfsWrites v fuel writes node).wp (fatSpec v) (fun r w =>
      r.1 = writes.map (fun write => (write.1.length : Int)) ∧ Rewritten v t entry cs (fileAfter file writes) w) u := by
  induction writes generalizing node file u with
  | nil => exact ⟨rfl, h⟩
  | cons write writes ih =>
    obtain ⟨src, offset⟩ := write
    have hrest := fun write hmem => hinside write (List.mem_cons_of_mem _ hmem)
    have hstep : (fat32VfsWrite v fuel node src offset).wp (fatSpec v) (fun r w =>
        r.1 = (src.length : Int) ∧ r.2.entry = entry ∧ Rewritten v t entry cs (writeTo file (src, offset)) w) u := by
      unfold fat32VfsWrite
      rw [hnode, Prog.wp_bind]
      by_cases hsrc : src = []
      · subst hsrc
        refine Prog.wp_mono (wp_fat32WriteFile_nil hrw hfile) ?_
        rintro r w ⟨rfl, rfl⟩
        dsimp only
        rw [if_neg (by decide), Prog.wp_pure]
        refine ⟨rfl, rfl, ?_⟩
        rw [writeTo, if_pos rfl]
        exact h
      · have hend := (hinside _ List.mem_cons_self).resolve_left hsrc
        have hlen := List.length_pos_of_ne_nil hsrc
        refine Prog.wp_mono (wp_fat32WriteFile_inside hv hrw hfuel hfile h.chain hsrc hend hfits) ?_
        rintro r w ⟨rfl, hw⟩
        dsimp only
        rw [if_pos (by omega), Prog.wp_pure]
        exact ⟨rfl, rfl, h.write hfits hsrc hend hw⟩
    unfold fat32VfsWrites
    rw [Prog.wp_bind]
    refine Prog.wp_mono hstep ?_
    rintro ⟨result, node'⟩ w ⟨rfl, hentry, hwritten⟩
    dsimp only at hentry ⊢
    rw [Prog.wp_bind]
    refine Prog.wp_mono (ih node' hrest hentry hwritten) ?_
    rintro ⟨results, node''⟩ w ⟨rfl, hall⟩
    dsimp only
    rw [Prog.wp_pure]
    exact ⟨rfl, hall⟩

/-! ## Looking again -/

/-- **`fat32_vfs_finddir`** finds the first entry with the name. -/
lemma wp_fat32VfsFinddir (name : Str) (hv : v.Regular) (h : Ends v t p ds) (hfuel : v.totalClusters + 1 ≤ fuel) :
    (fat32VfsFinddir v fuel true p name).wp (fatSpec v) (fun r u => u = t ∧
      r = ((listing (t.slots v ds)).find? fun slot => fat32Strcmp83 name slot 0).map
        fun entry => ⟨entry, entryFileSize entry, false⟩) t := by
  unfold fat32VfsFinddir
  rw [Prog.wp_bind]
  refine Prog.wp_mono (wp_find_ends name hv h hfuel) ?_
  rintro r u ⟨rfl, hfound⟩
  cases hcase : (listing (u.slots v ds)).find? fun slot => fat32Strcmp83 name slot 0 with
  | none =>
    rw [hcase] at hfound
    obtain rfl : r = .error errNoEnt := hfound
    exact ⟨rfl, rfl⟩
  | some entry =>
    rw [hcase] at hfound
    obtain ⟨index, rfl⟩ := hfound
    exact ⟨rfl, rfl⟩

lemma Shows.close {fs : Fat32Fs} (hv : v.Regular) (h : Shows v fs u) (node : FileNode) :
    ∃ info, Shows v (fat32VfsClose fs node).2 { u with info := info } := by
  unfold fat32VfsClose
  split_ifs
  · exact h.sync hv
  · exact ⟨u.info, h⟩

/-- What is found after closing is what was found before, if the directory has been left alone. -/
lemma finddir_closed {fs : Fat32Fs} (name : Str) (hv : v.Regular) (h : Shows v fs u) (hdir : Ends v t p ds)
    (hkept : ∀ c ∈ ds, u.next c = t.next c ∧ u.data c = t.data c) (node : FileNode)
    (hfuel : v.totalClusters + 1 ≤ fuel) :
    ∃ fs' info, Shows v fs' { u with info := info } ∧
      (fat32VfsFinddir v fuel true p name).run fatMachine (fat32VfsClose fs node).2 =
        some (((listing (t.slots v ds)).find? fun slot => fat32Strcmp83 name slot 0).map
          fun entry => ⟨entry, entryFileSize entry, false⟩, fs') := by
  obtain ⟨info, hclosed⟩ := h.close hv node
  have hends : Ends v { u with info := info } p ds := hdir.congr_on fun c hc => (hkept c hc).1
  obtain ⟨r, fs', w, hrun, hshows, rfl, rfl⟩ := hclosed.run hv (wp_fat32VfsFinddir name hv hends hfuel)
  have hslots : View.slots v { u with info := info } ds = t.slots v ds := slots_congr fun c hc => (hkept c hc).2
  rw [hslots] at hrun
  exact ⟨fs', info, hshows, hrun⟩

end Writes

section Nodes

variable {fs fs₀ : Fat32Fs} {p fuel offset : Nat} {cs ds : List Nat} {name : Str} {node : FileNode} {src : List UInt8}
  {writes : List (List UInt8 × Nat)} (hfs : fs.Sound) (hv : fs.vol.Regular) (hdir : Ends fs.vol fs.view p ds)
  (hfind : (fat32VfsFinddir fs.vol fuel true p name).run fatMachine fs = some (some node, fs₀))
  (hfile : entryAttr node.entry 0 &&& attrDirectory = 0) (hchain : FileChain fs.vol fs.view node.entry cs)
  (hfits : entryFileSize node.entry ≤ cs.length * fs.vol.bytesPerCluster) (hdisjoint : ds.Disjoint cs)
  (hfuel : fs.vol.totalClusters + 1 ≤ fuel)

include hfs hv hdir hfind hfuel

lemma found_node : Shows fs.vol fs₀ fs.view ∧ ((listing (fs.view.slots fs.vol ds)).find? fun slot =>
    fat32Strcmp83 name slot 0).map (fun entry => (⟨entry, entryFileSize entry, false⟩ : FileNode)) = some node := by
  obtain ⟨r, fs', u, hrun, hshows, rfl, rfl⟩ := (fs.shows_view hfs).run hv (wp_fat32VfsFinddir name hv hdir hfuel)
  obtain ⟨hnode, rfl⟩ := Prod.mk.inj (Option.some.inj (hrun.symm.trans hfind))
  exact ⟨hshows, hnode⟩

include hfile hchain hfits hdisjoint

/-- **Writes that do not go behind the end of the file last.**  For every file that a node was found for, and every
sequence of writes through it, each of which is empty or ends within the file. -/
theorem writes_durable
    (hinside : ∀ write ∈ writes, write.1 = [] ∨ write.2 + write.1.length ≤ entryFileSize node.entry) :
    Durable fs₀ fuel p name node writes (fs.view.content fs.vol node.entry cs) := by
  obtain ⟨hshows, hnode⟩ := found_node hfs hv hdir hfind hfuel
  obtain ⟨entry, hentry, rfl⟩ := Option.map_eq_some_iff.mp hnode
  dsimp only at hfile hchain hfits hinside ⊢
  have hstart : Rewritten fs.vol fs.view entry cs (fs.view.content fs.vol entry cs) fs.view :=
    ⟨hchain, fun _ _ => ⟨rfl, rfl⟩, rfl⟩
  obtain ⟨⟨results, node'⟩, fs₁, u, hwrites, hshows₁, rfl, hwritten⟩ := hshows.run hv
    (wp_fat32VfsWrites ⟨entry, entryFileSize entry, false⟩ hv hfs.writable (Nat.le_of_succ_le hfuel) hfile hfits hinside
      rfl hstart)
  obtain ⟨fs₂, info, hshows₂, hfound⟩ := finddir_closed name hv hshows₁ hdir
    (fun c hc => hwritten.kept c fun hmem => hdisjoint hc hmem) node' hfuel
  rw [hentry] at hfound
  have hlen : (fileAfter (fs.view.content fs.vol entry cs) writes).length = entryFileSize entry := by
    rw [← hwritten.content, length_content hfits]
  refine ⟨node', fs₁, ⟨entry, entryFileSize entry, false⟩, fs₂, ?_, ?_, hlen.symm, fun offset len hlast => ?_⟩
  · rw [hshows.vol]
    exact hwrites
  · rw [hshows.vol]
    exact hfound
  · have hchain₂ : FileChain fs.vol { u with info := info } entry cs := hwritten.chain.congr fun _ _ _ => rfl
    obtain ⟨q, hstores⟩ := hchain₂.stores hfile hfits
    obtain ⟨r, fs₃, w, hread, -, -, rfl⟩ := hshows₂.run hv (wp_fat32ReadFile hv hstores hlast)
    refine ⟨fs₃, ?_⟩
    rw [hshows.vol, ← hwritten.content]
    exact hread

/-- **A write that goes behind the end does not last**, if there is room for it. -/
theorem not_durable_behind (hsrc : src ≠ []) (hbehind : entryFileSize node.entry < offset + src.length)
    (hend : offset + src.length < 2 ^ 32) (hready : Ready fs.vol (fs.vol.lacking cs offset src.length) fs.view) :
    ¬ Durable fs₀ fuel p name node [(src, offset)] (fs.view.content fs.vol node.entry cs) := by
  obtain ⟨hshows, hnode⟩ := found_node hfs hv hdir hfind hfuel
  obtain ⟨entry, hentry, rfl⟩ := Option.map_eq_some_iff.mp hnode
  dsimp only at hfile hchain hfits hbehind ⊢
  rintro ⟨node', fs₁, found, fs₂, hwrites, hfound, hsize, -⟩
  -- the directory is left alone
  have hwp : (fat32VfsWrites fs.vol fuel [(src, offset)] ⟨entry, entryFileSize entry, false⟩).wp (fatSpec fs.vol)
      (fun _ u => ∀ c ∈ ds, u.next c = fs.view.next c ∧ u.data c = fs.view.data c) fs.view := by
    unfold fat32VfsWrites fat32VfsWrite
    rw [Prog.wp_bind, Prog.wp_bind]
    refine Prog.wp_mono (wp_fat32WriteFile hv hfs.writable (Nat.le_of_succ_le hfuel) hfile hchain hsrc hend hready) ?_
    rintro ⟨ret, entry'⟩ u ⟨-, hw⟩
    have hkept : ∀ c ∈ ds, u.next c = fs.view.next c ∧ u.data c = fs.view.data c := fun c hc =>
      hw.kept c (fun hmem => hdisjoint hc hmem) (hdir.not_free hc)
    dsimp only
    split_ifs
    · exact hkept
    · exact hkept
  obtain ⟨r, fs', u, hrun, hshows₁, hkept⟩ := hshows.run hv hwp
  rw [hshows.vol] at hwrites hfound
  obtain ⟨rfl, rfl⟩ := Prod.mk.inj (Option.some.inj (hrun.symm.trans hwrites))
  obtain ⟨fs'', info, -, hagain⟩ := finddir_closed name hv hshows₁ hdir hkept node' hfuel
  rw [hentry] at hagain
  obtain ⟨hsame, -⟩ := Prod.mk.inj (Option.some.inj (hagain.symm.trans hfound))
  obtain rfl := Option.some.inj hsame
  dsimp only at hsize
  have hlong : offset + src.length ≤ (fileAfter (fs.view.content fs.vol entry cs) [(src, offset)]).length := by
    rw [fileAfter, List.foldl_cons, List.foldl_nil, writeTo, if_neg hsrc]
    dsimp only
    rw [overwrite, List.length_append, List.length_append, List.length_take, List.length_append, List.length_replicate]
    omega
  omega

end Nodes

/-! ## A file of one byte in a directory -/

/-- Its entry. -/
def oneByteEntry : Mem := setEntryFileSize (fat32EntrySetCluster fileEntryA 0 3) 1

/-- A root directory with the file in it. -/
def oneByteFs : Fat32Fs :=
  { tinyFs with
    device :=
      ⟨paste (writeLE (writeLE tinyDisk.bytes 520 4 clusterEof) 524 4 clusterEof) 1536 direntSize oneByteEntry,
        fun _ => false, fun _ => false⟩ }

lemma oneByteFs_sound : oneByteFs.Sound :=
  Fat32Fs.sound_of_empty (fun _ => ⟨rfl, rfl⟩) (fun _ => ⟨rfl, rfl⟩) tinyFs_layout rfl

lemma oneByteFs_dir : Ends oneByteFs.vol oneByteFs.view 2 [2] :=
  ⟨clusterEof, ⟨⟨rfl, show oneByteFs.view.next 2 = clusterEof by decide⟩,
    fun c hc => List.mem_singleton.mp hc ▸ tinyFs_cluster_two⟩, by decide⟩

lemma oneByte_found : ∃ node fs₀,
    (fat32VfsFinddir oneByteFs.vol 14 true 2 [0x41]).run fatMachine oneByteFs = some (some node, fs₀) ∧
    entryAttr node.entry 0 &&& attrDirectory = 0 ∧ entryFileSize node.entry = 1 ∧
    FileChain oneByteFs.vol oneByteFs.view node.entry [3] := by
  have hv : oneByteFs.vol.Regular := Fat32Fs.tinyFs_regular
  obtain ⟨r, fs₀, u, hrun, -, rfl, rfl⟩ := (oneByteFs.shows_view oneByteFs_sound).run hv
    (wp_fat32VfsFinddir [0x41] hv oneByteFs_dir (show _ ≤ 14 by decide))
  have hfacts : (((listing (oneByteFs.view.slots oneByteFs.vol [2])).find? fun slot => fat32Strcmp83 [0x41] slot 0).map
      fun entry => (entryAttr entry 0 &&& attrDirectory, entryFileSize entry, fat32EntryCluster entry 0)) =
        some (0, 1, 3) := by decide
  obtain ⟨entry, hentry, hvalues⟩ := Option.map_eq_some_iff.mp hfacts
  obtain ⟨hattr, hrest⟩ := Prod.mk.inj hvalues
  obtain ⟨hsize, hcluster⟩ := Prod.mk.inj hrest
  rw [hentry] at hrun
  refine ⟨_, fs₀, hrun, hattr, hsize, ?_⟩
  unfold FileChain
  dsimp only
  rw [if_neg (List.cons_ne_nil _ _), hcluster]
  exact ⟨clusterEof, ⟨⟨rfl, show oneByteFs.view.next 3 = clusterEof by decide⟩,
    fun c hc => List.mem_singleton.mp hc ▸ (by decide)⟩, by decide⟩

/-- A byte is written over the one there is. -/
theorem writes_durable_over : ∃ node fs₀,
    (fat32VfsFinddir oneByteFs.vol 14 true 2 [0x41]).run fatMachine oneByteFs = some (some node, fs₀) ∧
      Durable fs₀ 14 2 [0x41] node [([9], 0)] (oneByteFs.view.content oneByteFs.vol node.entry [3]) := by
  obtain ⟨node, fs₀, hfind, hfile, hsize, hchain⟩ := oneByte_found
  refine ⟨node, fs₀, hfind, writes_durable oneByteFs_sound Fat32Fs.tinyFs_regular oneByteFs_dir hfind hfile hchain
    (by rw [hsize]; decide) (List.disjoint_singleton.mpr (by decide)) (by decide) fun write hmem => ?_⟩
  rw [List.mem_singleton.mp hmem, hsize]
  exact .inr (by decide)

/-- A second byte is lost. -/
theorem append_is_lost : oneByteFs.Sound ∧ oneByteFs.vol.Regular ∧ Ends oneByteFs.vol oneByteFs.view 2 [2] ∧
    ∃ node fs₀, (fat32VfsFinddir oneByteFs.vol 14 true 2 [0x41]).run fatMachine oneByteFs = some (some node, fs₀) ∧
      FileChain oneByteFs.vol oneByteFs.view node.entry [3] ∧
      ¬ Durable fs₀ 14 2 [0x41] node [([9], 1)] (oneByteFs.view.content oneByteFs.vol node.entry [3]) := by
  obtain ⟨node, fs₀, hfind, hfile, hsize, hchain⟩ := oneByte_found
  have hlacking : oneByteFs.vol.lacking [3] 1 [(9 : UInt8)].length = 0 := rfl
  refine ⟨oneByteFs_sound, Fat32Fs.tinyFs_regular, oneByteFs_dir, node, fs₀, hfind, hchain, ?_⟩
  refine not_durable_behind oneByteFs_sound Fat32Fs.tinyFs_regular oneByteFs_dir hfind hfile hchain
    (by rw [hsize]; decide) (List.disjoint_singleton.mpr (by decide)) (by decide) (List.cons_ne_nil _ _)
    (by rw [hsize]; decide) (by decide) ?_
  rw [hlacking]
  exact ⟨Nat.zero_le _, trivial⟩

end AAAos
