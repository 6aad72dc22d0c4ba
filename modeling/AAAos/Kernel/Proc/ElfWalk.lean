import AAAos.Kernel.Proc.Elf

/-!
# Going through the loader

What holds of the loader's single calls, of mapping one page, and of a program made of programs for which
it holds, holds of the whole loader.  `ElfClosed` says this of a property of programs; the properties that
are followed through `elf_load` and `elf_load_at` are instances.
-/

namespace AAAos

/-- A page that has been taken is mapped, and cleared if that succeeds, or given back. -/
def mapTaken (flags page phys : UInt64) (next : Elf (Option ElfError)) : Elf (Option ElfError) := do
  if ← Elf.mapPage page phys flags then
    Elf.memset page pageSize
    next
  else
    Elf.freePage phys
    return some .mappingFailed

/-- One round of the loop that maps the pages of a segment, before the rest of the loop. -/
def mapRound (flags page : UInt64) (next : Elf (Option ElfError)) : Elf (Option ElfError) := do
  if ← Elf.isMapped page then next
  else
    let phys ← Elf.allocPage
    if phys = 0 then return some .outOfMemory else mapTaken flags page phys next

/-- The calls that neither take a page, nor map, nor clear one, nor give one back. -/
def ElfCall.Plain : ElfCall → Prop
  | .allocPage | .mapPage _ _ _ | .freePage _ | .memset _ _ => False
  | _ => True

/-- A property of programs that follows their structure. -/
structure ElfClosed (P : ∀ {ρ : Type}, Elf ρ → Prop) : Prop where
  pure : ∀ {ρ : Type} (r : ρ), P (Pure.pure r : Elf ρ)
  hang : ∀ {ρ : Type}, P (Prog.hang : Elf ρ)
  bind : ∀ {ρ β : Type} {p : Elf ρ} {f : ρ → Elf β}, P p → (∀ r, P (f r)) → P (p >>= f)
  issue : ∀ c : ElfCall, c.Plain → P c.issue
  page : ∀ (flags page : UInt64) (next : Elf (Option ElfError)), P next → P (mapRound flags page next)

namespace ElfClosed

variable {P : ∀ {ρ : Type}, Elf ρ → Prop} {ρ β : Type}

lemma loop (h : ElfClosed P) {body : β → Elf (β ⊕ ρ)} (hbody : ∀ b, P (body b)) (fuel : Nat) (b : β) :
    P (Prog.loop body fuel b) := by
  induction fuel generalizing b with
  | zero => exact h.hang
  | succ fuel ih =>
    refine h.bind (hbody b) ?_
    rintro (b' | r)
    · exact ih b'
    · exact h.pure r

lemma ite (_ : ElfClosed P) {q : Prop} [Decidable q] {p p' : Elf ρ} (hp : P p) (hp' : P p') :
    P (if q then p else p') := by
  split_ifs
  · exact hp
  · exact hp'

/-! ## Reading -/

lemma field (h : ElfClosed P) (size : Nat) (addr : UInt64) : P (AAAos.field size addr) := by
  refine h.bind (h.issue _ trivial) ?_
  rintro (- | value)
  · exact h.hang
  · exact h.pure value

lemma field8 (h : ElfClosed P) (addr : UInt64) : P (AAAos.field8 addr) := h.bind (h.field 1 addr) fun _ => h.pure _

lemma field16 (h : ElfClosed P) (addr : UInt64) : P (AAAos.field16 addr) :=
  h.bind (h.field 2 addr) fun _ => h.pure _

lemma field32 (h : ElfClosed P) (addr : UInt64) : P (AAAos.field32 addr) :=
  h.bind (h.field 4 addr) fun _ => h.pure _

lemma field64 (h : ElfClosed P) (addr : UInt64) : P (AAAos.field64 addr) :=
  h.bind (h.field 8 addr) fun _ => h.pure _

lemma elfValidate (h : ElfClosed P) (data size : UInt64) : P (AAAos.elfValidate data size) := by
  unfold AAAos.elfValidate
  refine h.ite (h.pure _) (h.ite (h.pure _) ?_)
  refine h.bind (h.field8 _) fun _ => h.ite (h.pure _) ?_
  refine h.bind (h.field8 _) fun _ => h.ite (h.pure _) ?_
  refine h.bind (h.field8 _) fun _ => h.ite (h.pure _) ?_
  refine h.bind (h.field8 _) fun _ => h.ite (h.pure _) ?_
  refine h.bind (h.field8 _) fun _ => h.ite (h.pure _) ?_
  refine h.bind (h.field8 _) fun _ => h.ite (h.pure _) ?_
  refine h.bind (h.field8 _) fun _ => h.ite (h.pure _) ?_
  refine h.bind (h.field32 _) fun _ => h.ite (h.pure _) ?_
  refine h.bind (h.field16 _) fun _ => h.ite (h.pure _) ?_
  refine h.bind (h.field16 _) fun _ => h.ite (h.pure _) ?_
  refine h.bind (h.field16 _) fun _ => h.ite (h.pure _) ?_
  refine h.bind (h.field64 _) fun _ => h.ite (h.pure _) ?_
  exact h.bind (h.field16 _) fun _ => h.ite (h.pure _) (h.pure _)

lemma elfIsPie (h : ElfClosed P) (data : UInt64) : P (AAAos.elfIsPie data) :=
  h.bind (h.field16 _) fun _ => h.ite (h.pure _) (h.bind (h.field64 _) fun _ => h.pure _)

lemma elfGetPhdr (h : ElfClosed P) (data : UInt64) (index : UInt16) : P (AAAos.elfGetPhdr data index) :=
  h.bind (h.field16 _) fun _ =>
    h.ite (h.pure _) (h.bind (h.field64 _) fun _ => h.bind (h.field16 _) fun _ => h.pure _)

lemma forPhdrs (h : ElfClosed P) {data : UInt64} {body : UInt64 → β → Elf (β ⊕ ρ)}
    (hbody : ∀ phdr b, P (body phdr b)) (finish : β → ρ) (b : β) :
    P (AAAos.forPhdrs data body finish b) := by
  refine h.loop (fun x => h.bind (h.field16 _) fun _ => h.ite ?_ (h.pure _)) _ _
  refine h.bind (h.elfGetPhdr data x.1) fun phdr => h.bind (hbody phdr x.2) ?_
  rintro (b | r)
  · exact h.pure _
  · exact h.pure _

lemma elfStrlen (h : ElfClosed P) (s : UInt64) : P (AAAos.elfStrlen s) :=
  h.loop (fun _ => h.bind (h.field8 _) fun _ => h.ite (h.pure _) (h.pure _)) _ _

lemma elfStrncpy (h : ElfClosed P) (n : Nat) (s : UInt64) : P (AAAos.elfStrncpy n s) := by
  induction n generalizing s with
  | zero => exact h.pure _
  | succ n ih =>
    exact h.bind (h.field8 _) fun _ => h.ite (h.pure _) (h.bind (ih _) fun _ => h.pure _)

lemma elfProcessInterp (h : ElfClosed P) (data : UInt64) (info : ElfLoadInfo) :
    P (AAAos.elfProcessInterp data info) := by
  refine h.forPhdrs (fun phdr _ => h.bind (h.field32 _) fun _ => h.ite (h.pure _) ?_) _ _
  refine h.bind (h.field64 _) fun _ => h.ite (h.pure _) ?_
  refine h.bind (h.field64 _) fun _ => h.bind (h.elfStrlen _) fun _ => ?_
  exact h.bind (h.elfStrncpy _ _) fun _ => h.pure _

lemma elfCalcLoadRange (h : ElfClosed P) (data : UInt64) : P (AAAos.elfCalcLoadRange data) := by
  refine h.forPhdrs (fun phdr _ => h.bind (h.field32 _) fun _ => h.ite (h.pure _) ?_) _ _
  refine h.bind (h.field64 _) fun _ => h.ite (h.pure _) ?_
  exact h.bind (h.field64 _) fun _ => h.pure _

lemma findRela (h : ElfClosed P) (dyn : UInt64) : P (AAAos.findRela dyn) := by
  refine h.loop (fun x => h.bind (h.field64 _) fun _ => h.ite (h.pure _) ?_) _ _
  refine h.ite (h.bind (h.field64 _) fun _ => h.pure _) ?_
  refine h.ite (h.bind (h.field64 _) fun _ => h.pure _) ?_
  exact h.ite (h.bind (h.field64 _) fun _ => h.pure _) (h.pure _)

/-! ## Writing -/

lemma access (h : ElfClosed P) {p : Elf Bool} (hp : P p) : P (Elf.access p) :=
  h.bind hp fun _ => h.ite (h.pure _) h.hang

lemma memcpy (h : ElfClosed P) (dest from' : UInt64) (n : Nat) : P (Elf.memcpy dest from' n) :=
  h.access (h.issue _ trivial)

lemma store (h : ElfClosed P) (addr value : UInt64) : P (Elf.store addr value) :=
  h.access (h.issue _ trivial)

lemma applyRelas (h : ElfClosed P) (ent baseAddr : UInt64) (n : Nat) (rela : UInt64) :
    P (AAAos.applyRelas ent baseAddr n rela) := by
  induction n generalizing rela with
  | zero => exact h.pure _
  | succ n ih =>
    refine h.bind (h.field64 _) fun _ => h.bind (h.field64 _) fun _ => h.ite ?_ (ih _)
    exact h.bind (h.field64 _) fun _ => h.bind (h.store _ _) fun _ => ih _

lemma elfApplyRelocations (h : ElfClosed P) (data baseAddr : UInt64) :
    P (AAAos.elfApplyRelocations data baseAddr) := by
  refine h.bind (h.forPhdrs (fun phdr _ => ?_) _ _) ?_
  · exact h.bind (h.field32 _) fun _ => h.ite (h.pure _) (h.pure _)
  · rintro (- | phdr)
    · exact h.pure _
    · refine h.bind (h.field64 _) fun _ => h.bind (h.findRela _) fun _ => ?_
      exact h.ite (h.pure _) (h.applyRelas _ _ _ _)

/-! ## Mapping -/

lemma mapPages (h : ElfClosed P) (flags : UInt64) (n : Nat) (page : UInt64) : P (AAAos.mapPages flags n page) := by
  induction n generalizing page with
  | zero => exact h.pure _
  | succ n ih => exact h.page flags page _ (ih _)

lemma elfLoadSegment (h : ElfClosed P) (phdr data baseAddr : UInt64) :
    P (AAAos.elfLoadSegment phdr data baseAddr) := by
  refine h.ite (h.pure _) (h.bind (h.field32 _) fun _ => h.ite (h.pure _) ?_)
  refine h.bind (h.field64 _) fun _ => h.bind (h.field64 _) fun _ => h.bind (h.field64 _) fun _ => ?_
  refine h.ite (h.pure _) (h.bind (h.field32 _) fun _ => h.bind (h.mapPages _ _ _) ?_)
  rintro (- | err)
  · exact h.ite (h.pure _) (h.bind (h.field64 _) fun _ => h.bind (h.memcpy _ _ _) fun _ => h.pure _)
  · exact h.pure _

lemma loadSegments (h : ElfClosed P) (data baseAddr : UInt64) (info : ElfLoadInfo) :
    P (AAAos.loadSegments data baseAddr info) := by
  refine h.forPhdrs (fun phdr x => h.bind (h.field32 _) fun _ => h.ite (h.pure _) ?_) _ _
  refine h.bind (h.elfLoadSegment _ _ _) fun _ => h.ite (h.pure _) ?_
  exact h.bind (h.field64 _) fun _ => h.bind (h.field64 _) fun _ => h.bind (h.field64 _) fun _ => h.pure _

lemma elfLoadAt (h : ElfClosed P) (data size baseAddr : UInt64) (info : Option ElfLoadInfo) :
    P (AAAos.elfLoadAt data size baseAddr info) := by
  unfold AAAos.elfLoadAt
  refine h.bind (h.elfValidate _ _) fun _ => h.ite (h.pure _) ?_
  cases info with
  | none => exact h.pure _
  | some info =>
    refine h.bind (h.elfIsPie _) fun isPie => h.bind (h.field16 _) fun type => ?_
    refine h.bind (h.elfProcessInterp _ _) fun info => h.bind (h.loadSegments _ _ _) ?_
    rintro ⟨- | err, info, loadEnd⟩
    · refine h.ite (h.bind (h.elfApplyRelocations _ _) fun _ => ?_) ?_
      · exact h.bind (h.field64 _) fun _ => h.pure _
      · exact h.bind (h.field64 _) fun _ => h.pure _
    · exact h.pure _

lemma elfLoad (h : ElfClosed P) (data size : UInt64) (info : Option ElfLoadInfo) :
    P (AAAos.elfLoad data size info) := by
  refine h.bind (h.elfValidate _ _) fun _ => h.ite (h.pure _) (h.bind (h.field16 _) fun _ => ?_)
  refine h.ite (h.bind (h.elfCalcLoadRange _) fun _ => ?_) (h.elfLoadAt _ _ _ _)
  exact h.ite (h.elfLoadAt _ _ _ _) (h.elfLoadAt _ _ _ _)

end ElfClosed

end AAAos
