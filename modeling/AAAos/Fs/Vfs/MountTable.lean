import AAAos.Fs.Vfs.Vfs

/-!
# The mount table

`vfs_get_mount` and the duplicate check of `vfs_mount` scan the slots below `vfs_mount_count`;
`vfs_mount` fills the first inactive slot and `vfs_unmount` deactivates any.  The scans see every
active mount as long as the active slots are the first `vfs_mount_count` ones, and this is
`Packed`.  In a packed table the answer is the right one (`Packed.resolves`), mounting keeps the
table packed, and unmounting keeps it packed exactly when it takes the last slot: any other
unmount hides the mount in the last slot at once (`not_resolves_of_hidden`).
-/

namespace AAAos

section

variable {σ : Type} {v : Vfs σ} {p q : Str} {m : MountSlot}

/-! ## What the scan of `vfs_get_mount` finds -/

/-- The scan takes the mount into account for a normalised path. -/
def Vfs.Candidate (v : Vfs σ) (q : Str) (m : MountSlot) : Prop :=
  (v.mounts m).active = true ∧ matchesText (v.mounts m).path q = true

lemma foldl_betterMount (v : Vfs σ) (q : Str) (ms : List MountSlot) (best : Nat × Option MountSlot) :
    best.1 ≤ (ms.foldl (betterMount v q) best).1 ∧ (∀ m ∈ ms, v.Candidate q m →
        (v.mounts m).path.length ≤ (ms.foldl (betterMount v q) best).1) ∧
      (ms.foldl (betterMount v q) best = best ∨ ∃ m ∈ ms, v.Candidate q m ∧
        ms.foldl (betterMount v q) best = ((v.mounts m).path.length, some m)) := by
  induction ms generalizing best with
  | nil => simp
  | cons m ms ih =>
    obtain ⟨hle, hall, hfrom⟩ := ih (betterMount v q best m)
    rw [List.foldl_cons]
    by_cases hm : (v.mounts m).active && matchesText (v.mounts m).path q &&
        decide ((v.mounts m).path.length > best.1)
    · have hbetter : betterMount v q best m = ((v.mounts m).path.length, some m) := if_pos hm
      simp only [Bool.and_eq_true, decide_eq_true_eq] at hm
      rw [hbetter] at hle hall hfrom ⊢
      simp only at hle
      refine ⟨by omega, ?_, ?_⟩
      · intro n hn hc
        rcases List.mem_cons.mp hn with rfl | hn
        · exact hle
        · exact hall n hn hc
      · rcases hfrom with h | ⟨n, hn, hc, h⟩
        · exact .inr ⟨m, by simp, hm.1, h⟩
        · exact .inr ⟨n, by simp [hn], hc, h⟩
    · have hsame : betterMount v q best m = best := if_neg hm
      simp only [Bool.and_eq_true, decide_eq_true_eq] at hm
      rw [hsame] at hle hall hfrom ⊢
      refine ⟨hle, ?_, ?_⟩
      · intro n hn hc
        rcases List.mem_cons.mp hn with rfl | hn
        · have : ¬ (v.mounts n).path.length > best.1 := fun h => hm ⟨hc, h⟩
          omega
        · exact hall n hn hc
      · rcases hfrom with h | ⟨n, hn, hc, h⟩
        · exact .inl h
        · exact .inr ⟨n, by simp [hn], hc, h⟩

lemma mem_scannedMounts : m ∈ scannedMounts v ↔ m.val < v.mountCount.toNat := by
  simp [scannedMounts]

lemma vfsGetMount_eq (hq : vfsNormalizePath p = some q) :
    vfsGetMount v p = ((scannedMounts v).foldl (betterMount v q) (0, none)).2 := by
  simp [vfsGetMount, hq]

lemma vfsGetMount_some (hq : vfsNormalizePath p = some q) (h : vfsGetMount v p = some m) :
    m.val < v.mountCount.toNat ∧ v.Candidate q m ∧ ∀ n : MountSlot, n.val < v.mountCount.toNat → v.Candidate q n →
        (v.mounts n).path.length ≤ (v.mounts m).path.length := by
  rw [vfsGetMount_eq hq] at h
  obtain ⟨-, hall, hfrom⟩ := foldl_betterMount v q (scannedMounts v) (0, none)
  rcases hfrom with hr | ⟨n, hn, hc, hr⟩
  · rw [hr] at h
    simp at h
  · rw [hr] at h hall
    obtain rfl := Option.some.inj h
    exact ⟨mem_scannedMounts.mp hn, hc, fun k hk => hall k (mem_scannedMounts.mpr hk)⟩

lemma vfsGetMount_none (hq : vfsNormalizePath p = some q) (h : vfsGetMount v p = none)
    (hm : m.val < v.mountCount.toNat) (hpath : (v.mounts m).path ≠ []) : ¬ v.Candidate q m := by
  rw [vfsGetMount_eq hq] at h
  obtain ⟨-, hall, hfrom⟩ := foldl_betterMount v q (scannedMounts v) (0, none)
  rcases hfrom with hr | ⟨n, hn, hc, hr⟩
  · intro hc
    have := hall m (mem_scannedMounts.mpr hm) hc
    rw [hr] at this
    exact hpath (List.length_eq_zero_iff.mp (by simpa using this))
  · rw [hr] at h
    simp at h

lemma active_of_vfsGetMount (h : vfsGetMount v p = some m) : (v.mounts m).active = true := by
  cases hq : vfsNormalizePath p with
  | none => simp [vfsGetMount, hq] at h
  | some q => exact (vfsGetMount_some hq h).2.1.1

/-! ## What resolution is for -/

/-- The mount is active and its path is a component-wise prefix of the path `q`. -/
def Vfs.Covers (v : Vfs σ) (m : MountSlot) (q : Str) : Prop :=
  (v.mounts m).active = true ∧ components (v.mounts m).path <+: components q

/-- Resolution over **all** active mounts: the answer for a path is the active mount with the
longest component-wise prefix, there is none exactly when no active mount covers the path, and
no two active mounts share a path. -/
structure Vfs.Resolves (v : Vfs σ) : Prop where
  longest : ∀ p q m, vfsNormalizePath p = some q → vfsGetMount v p = some m → v.Covers m q ∧ ∀ n, v.Covers n q →
      (components (v.mounts n).path).length ≤ (components (v.mounts m).path).length
  none_iff : ∀ p q, vfsNormalizePath p = some q → (vfsGetMount v p = none ↔ ∀ m, ¬ v.Covers m q)
  distinct : ∀ m n, (v.mounts m).active = true → (v.mounts n).active = true →
    (v.mounts m).path = (v.mounts n).path → m = n

/-- The active slots are the first `vfs_mount_count` ones, with different normalised paths. -/
structure Vfs.Packed (v : Vfs σ) : Prop where
  slots : ∀ m, (v.mounts m).active = true ↔ m.val < v.mountCount.toNat
  count_le : v.mountCount.toNat ≤ 64
  normal : ∀ m, (v.mounts m).active = true → ∃ p, vfsNormalizePath p = some (v.mounts m).path
  distinct : ∀ m n, (v.mounts m).active = true → (v.mounts n).active = true →
    (v.mounts m).path = (v.mounts n).path → m = n

/-- On active mounts with normalised paths, the scan's test is the one by components. -/
lemma candidate_iff_covers (hm : (v.mounts m).active = true →
    ∃ p, vfsNormalizePath p = some (v.mounts m).path) (hq : vfsNormalizePath p = some q) :
    v.Candidate q m ↔ v.Covers m q := by
  refine and_congr_right fun hactive => ?_
  obtain ⟨p', hp'⟩ := hm hactive
  obtain ⟨hds, hpath⟩ := isNormal_render_names (vfsNormalizePath_spec hp').1
  obtain ⟨hcs, hq'⟩ := isNormal_render_names (vfsNormalizePath_spec hq).1
  rw [← matchesText_render (fun d hd => (hds d hd).1) (fun c hc => (hcs c hc).1), ← hpath, ← hq']

/-- Of two mounts that cover a path, the one with the longer text has more components. -/
lemma components_le_of_length_le {n : MountSlot} (hm : ∃ p, vfsNormalizePath p = some (v.mounts m).path)
    (hn : ∃ p, vfsNormalizePath p = some (v.mounts n).path)
    (hmq : v.Covers m q) (hnq : v.Covers n q)
    (hle : (v.mounts n).path.length ≤ (v.mounts m).path.length) :
    (components (v.mounts n).path).length ≤ (components (v.mounts m).path).length := by
  by_contra hlt
  obtain ⟨pm, hpm⟩ := hm
  obtain ⟨pn, hpn⟩ := hn
  obtain ⟨-, hpathm⟩ := isNormal_render_names (vfsNormalizePath_spec hpm).1
  obtain ⟨hnames, hpathn⟩ := isNormal_render_names (vfsNormalizePath_spec hpn).1
  have hprefix : components (v.mounts m).path <+: components (v.mounts n).path :=
    List.prefix_of_prefix_length_le hmq.2 hnq.2 (by omega)
  have := render_length_lt (fun c hc => (hnames c hc).1) hprefix (by omega)
  rw [← hpathm, ← hpathn] at this
  omega

lemma ne_nil_of_normal (h : vfsNormalizePath p = some q) : q ≠ [] := by
  obtain ⟨⟨cs, -, rfl⟩, -⟩ := vfsNormalizePath_spec h
  simp [render]

/-- **A packed table resolves.** -/
theorem Vfs.Packed.resolves (h : v.Packed) : v.Resolves where
  longest := by
    intro p q m hq hm
    obtain ⟨hlt, hc, hmax⟩ := vfsGetMount_some hq hm
    have hmq := (candidate_iff_covers (h.normal m) hq).mp hc
    refine ⟨hmq, ?_⟩
    intro n hn
    have hlen := hmax n ((h.slots n).mp hn.1) ((candidate_iff_covers (h.normal n) hq).mpr hn)
    exact components_le_of_length_le (h.normal m hmq.1) (h.normal n hn.1) hmq hn hlen
  none_iff := by
    intro p q hq
    constructor
    · intro hnone m hm
      obtain ⟨p', hp'⟩ := h.normal m hm.1
      exact vfsGetMount_none hq hnone ((h.slots m).mp hm.1) (ne_nil_of_normal hp')
        ((candidate_iff_covers (h.normal m) hq).mpr hm)
    · intro hall
      cases hm : vfsGetMount v p with
      | none => rfl
      | some m =>
        obtain ⟨-, hc, -⟩ := vfsGetMount_some hq hm
        exact absurd ((candidate_iff_covers (h.normal m) hq).mp hc) (hall m)
  distinct := h.distinct

/-- A table with an active mount beyond the scanned slots does not resolve that mount's path. -/
lemma not_resolves_of_hidden (hm : (v.mounts m).active = true) (hpath : vfsNormalizePath p = some (v.mounts m).path)
    (hhidden : v.mountCount.toNat ≤ m.val)
    (hnormal : ∀ n, (v.mounts n).active = true → ∃ p, vfsNormalizePath p = some (v.mounts n).path) :
    ¬ v.Resolves := by
  intro h
  have hq := vfsNormalizePath_idem hpath
  have hself : v.Covers m (v.mounts m).path := ⟨hm, List.prefix_refl _⟩
  cases hn : vfsGetMount v (v.mounts m).path with
  | none => exact (h.none_iff _ _ hq).mp hn m hself
  | some n =>
    obtain ⟨hcover, hmax⟩ := h.longest _ _ _ hq hn
    -- the answer is as long as the hidden mount's own path, hence that very mount
    have heq : components (v.mounts n).path = components (v.mounts m).path :=
      hcover.2.eq_of_length_le (hmax m hself)
    obtain ⟨pn, hpn⟩ := hnormal n hcover.1
    have hrn := (isNormal_render_names (vfsNormalizePath_spec hpn).1).2
    have hrm := (isNormal_render_names (vfsNormalizePath_spec hpath).1).2
    have hnm : n = m := h.distinct n m hcover.1 hm (by rw [hrn, hrm, heq])
    have := (vfsGetMount_some hq hn).1
    rw [hnm] at this
    omega

end

end AAAos
