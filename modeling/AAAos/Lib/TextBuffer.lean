import AAAos.Lib.Buffer

/-!
# Text in a buffer

A text with a terminator behind it, in a buffer that may be longer.  Cutting a range out, putting text in
and writing at the end keep this form, and the size of the buffer.
-/

namespace AAAos

universe u

variable {α : Type u} {buf cs new : List α} {z : α} {i j n : Nat}

/-- The buffer begins with the text and the terminator. -/
def Terminated (z : α) (buf cs : List α) : Prop := ∃ rest, buf = cs ++ z :: rest

lemma Terminated.length_lt (h : Terminated z buf cs) : cs.length < buf.length := by
  obtain ⟨rest, rfl⟩ := h
  rw [List.length_append, List.length_cons]
  omega

lemma Terminated.take (h : Terminated z buf cs) : buf.take cs.length = cs := by
  obtain ⟨rest, rfl⟩ := h
  exact List.take_left

lemma Terminated.getElem? (h : Terminated z buf cs) : buf[cs.length]? = some z := by
  obtain ⟨rest, rfl⟩ := h
  rw [List.getElem?_append_right (Nat.le_refl _), Nat.sub_self, List.getElem?_cons_zero]

lemma terminated_take (h : buf[n]? = some z) : Terminated z buf (buf.take n) := by
  obtain ⟨hlt, hz⟩ := List.getElem?_eq_some_iff.mp h
  refine ⟨buf.drop (n + 1), ?_⟩
  rw [← hz, ← List.drop_eq_getElem_cons hlt, List.take_append_drop]

lemma Terminated.append (h : Terminated z buf cs) (more : List α) : Terminated z (buf ++ more) cs := by
  obtain ⟨rest, rfl⟩ := h
  exact ⟨rest ++ more, by rw [List.append_assoc, List.cons_append]⟩

lemma Terminated.cut (h : Terminated z buf cs) (hij : i ≤ j) (hj : j ≤ cs.length) (hn : n = cs.length - j + 1) :
    ∃ buf', moveWithin buf i j n = some buf' ∧ buf'.length = buf.length ∧
      Terminated z buf' (cs.take i ++ cs.drop j) := by
  obtain ⟨rest, htext⟩ := h
  have hsplit : buf = cs.take i ++ ((cs.drop i).take (j - i) ++ ((cs.drop j ++ [z]) ++ rest)) := by
    have hmid : (cs.drop i).take (j - i) ++ cs.drop j = cs.drop i := by
      have := List.take_append_drop (j - i) (cs.drop i)
      rwa [List.drop_drop, Nat.add_sub_cancel' hij] at this
    rw [htext, List.append_assoc (cs.drop j), List.singleton_append,
      ← List.append_assoc ((cs.drop i).take (j - i)) (cs.drop j), hmid, ← List.append_assoc,
      List.take_append_drop]
  have hi : i = (cs.take i).length := by
    rw [List.length_take]
    omega
  have hgap : j = (cs.take i).length + ((cs.drop i).take (j - i)).length := by
    simp only [List.length_take, List.length_drop]
    omega
  have hsize : n = (cs.drop j ++ [z]).length := by
    rw [hn, List.length_append, List.length_drop, List.length_singleton]
  obtain ⟨rest', hmove⟩ := @moveWithin_down _ _ rest _ _ _ _ _ hi hgap hsize
  rw [← hsplit] at hmove
  refine ⟨_, hmove, length_moveWithin hmove, rest', ?_⟩
  rw [List.append_assoc (cs.drop j), List.singleton_append, List.append_assoc]

lemma Terminated.insert (h : Terminated z buf cs) (hi : i ≤ cs.length) (hn : n = cs.length - i + 1)
    (hroom : cs.length + new.length < buf.length) :
    ∃ buf', ((moveWithin buf (i + new.length) i n).bind fun buf => storeFrom buf i new) = some buf' ∧
      buf'.length = buf.length ∧ Terminated z buf' (cs.take i ++ (new ++ cs.drop i)) := by
  obtain ⟨rest, htext⟩ := h
  have hsize : cs.length + (rest.length + 1) = buf.length := by
    rw [htext, List.length_append, List.length_cons]
  have hsplit : buf = cs.take i ++ ((cs.drop i ++ [z]) ++ rest) := by
    rw [htext, List.append_assoc (cs.drop i), List.singleton_append, ← List.append_assoc, List.take_append_drop]
  have hlen : i = (cs.take i).length := by
    rw [List.length_take]
    omega
  have hmoved : n = (cs.drop i ++ [z]).length := by
    rw [hn, List.length_append, List.length_drop, List.length_singleton]
  have hto : i + new.length = (cs.take i).length + new.length := by rw [← hlen]
  obtain ⟨rest', hmove⟩ := @moveWithin_up _ _ rest _ _ new _ _ hlen hto hmoved (by omega)
  rw [← hsplit] at hmove
  refine ⟨_, hmove, ?_, rest', ?_⟩
  · obtain ⟨mid, hmid, hstore⟩ := Option.bind_eq_some_iff.mp hmove
    rw [length_storeFrom hstore, length_moveWithin hmid]
  · simp only [List.append_assoc, List.singleton_append]

lemma Terminated.write (h : Terminated z buf cs) (hi : i ≤ cs.length) (hroom : i + new.length < buf.length) :
    ∃ buf', ((storeFrom buf i new).bind fun buf => storeAt buf (i + new.length) z) = some buf' ∧
      buf'.length = buf.length ∧ Terminated z buf' (cs.take i ++ new) := by
  obtain ⟨rest, htext⟩ := h
  have hsize : cs.length + (rest.length + 1) = buf.length := by
    rw [htext, List.length_append, List.length_cons]
  have hsplit : buf = cs.take i ++ (cs.drop i ++ z :: rest) := by
    rw [htext, ← List.append_assoc, List.take_append_drop]
  have hlen : i = (cs.take i).length := by
    rw [List.length_take]
    omega
  have hback : i + (cs.drop i ++ z :: rest).length = buf.length := by
    rw [List.length_append, List.length_drop, List.length_cons]
    omega
  obtain ⟨b, back, hb⟩ : ∃ b back, (cs.drop i ++ z :: rest).drop new.length = b :: back := by
    refine List.exists_cons_of_ne_nil (List.ne_nil_of_length_pos ?_)
    rw [List.length_drop]
    omega
  have hstore := @storeFrom_append _ _ (cs.drop i ++ z :: rest) new _ hlen (by omega)
  rw [← hsplit, hb] at hstore
  have hend : i + new.length = (cs.take i ++ new).length := by
    rw [List.length_append, ← hlen]
  have hnul := @storeAt_append _ _ back _ hend z b
  refine ⟨_, by rw [hstore, Option.bind_some, hnul], ?_, back, rfl⟩
  rw [← length_storeFrom hstore]
  simp only [List.length_append, List.length_cons]

lemma terminated_fill (hroom : new.length < buf.length) :
    ∃ buf', ((storeFrom buf 0 new).bind fun buf => storeAt buf new.length z) = some buf' ∧
      buf'.length = buf.length ∧ Terminated z buf' new := by
  have hstore := storeFrom_zero (Nat.le_of_lt hroom)
  obtain ⟨b, back, hb⟩ : ∃ b back, buf.drop new.length = b :: back := by
    refine List.exists_cons_of_ne_nil (List.ne_nil_of_length_pos ?_)
    rw [List.length_drop]
    omega
  rw [hb] at hstore
  have hnul := @storeAt_append _ new back _ rfl z b
  refine ⟨_, by rw [hstore, Option.bind_some, hnul], ?_, back, rfl⟩
  rw [← length_storeFrom hstore]
  simp only [List.length_append, List.length_cons]

end AAAos
