import AAAos.Lib.Blocks

/-!
# Buffers of a fixed size

Storing outside a buffer, or loading from outside of it, has no result.  So a program that has a result
has kept inside its buffers.
-/

namespace AAAos

universe u

variable {α : Type u} {buf pre rest vs : List α} {i n : Nat} {v : α}

/-- Storing one value. -/
def storeAt (buf : List α) (i : Nat) (v : α) : Option (List α) :=
  if i < buf.length then some (buf.set i v) else none

/-- Storing values one after the other, from index `i` on. -/
def storeFrom (buf : List α) (i : Nat) : List α → Option (List α)
  | [] => some buf
  | v :: vs => (storeAt buf i v).bind fun buf => storeFrom buf (i + 1) vs

/-- Loading `n` values from index `i` on. -/
def loadFrom (buf : List α) (i n : Nat) : Option (List α) :=
  if i + n ≤ buf.length then some ((buf.drop i).take n) else none

lemma storeAt_append (hi : i = pre.length) (v u : α) : storeAt (pre ++ u :: rest) i v = some (pre ++ v :: rest) := by
  subst hi
  rw [storeAt, if_pos (by simp)]
  simp

lemma storeFrom_append (hi : i = pre.length) (hroom : vs.length ≤ rest.length) :
    storeFrom (pre ++ rest) i vs = some (pre ++ vs ++ rest.drop vs.length) := by
  induction vs generalizing pre rest i with
  | nil => simp [storeFrom]
  | cons v vs ih =>
    obtain ⟨u, rest, rfl⟩ : ∃ u rest', rest = u :: rest' :=
      List.exists_cons_of_ne_nil (List.ne_nil_of_length_pos (Nat.lt_of_lt_of_le (Nat.succ_pos _) hroom))
    have hassoc : pre ++ v :: rest = (pre ++ [v]) ++ rest := by simp
    rw [storeFrom, storeAt_append hi, Option.bind_some, hassoc,
      ih (by rw [hi, List.length_append, List.length_singleton]) (Nat.le_of_succ_le_succ hroom)]
    simp

lemma storeFrom_zero (hroom : vs.length ≤ buf.length) : storeFrom buf 0 vs = some (vs ++ buf.drop vs.length) :=
  @storeFrom_append _ [] _ _ _ rfl hroom

lemma loadFrom_append (hn : n = pre.length) : loadFrom (pre ++ rest) 0 n = some pre := by
  subst hn
  unfold loadFrom
  rw [if_pos (by simp)]
  simp

lemma loadFrom_middle (hi : i = pre.length) (hn : n = vs.length) : loadFrom (pre ++ (vs ++ rest)) i n = some vs := by
  subst hi hn
  unfold loadFrom
  rw [if_pos (by simp only [List.length_append]; omega), List.drop_left, List.take_left]

lemma length_storeFrom {buf' : List α} (h : storeFrom buf i vs = some buf') : buf'.length = buf.length := by
  induction vs generalizing buf i with
  | nil =>
    rw [storeFrom, Option.some.injEq] at h
    rw [h]
  | cons v vs ih =>
    obtain ⟨mid, hmid, hrest⟩ := Option.bind_eq_some_iff.mp h
    rw [storeAt] at hmid
    split_ifs at hmid with hi
    rw [ih hrest, ← Option.some.inj hmid, List.length_set]

/-- Moving `n` values within a buffer, as if they were copied out first. -/
def moveWithin (buf : List α) (dst src n : Nat) : Option (List α) :=
  (loadFrom buf src n).bind (storeFrom buf dst)

lemma length_moveWithin {buf' : List α} {dst src : Nat} (h : moveWithin buf dst src n = some buf') :
    buf'.length = buf.length := by
  obtain ⟨vs, -, hstore⟩ := Option.bind_eq_some_iff.mp h
  exact length_storeFrom hstore

lemma moveWithin_down {gap : List α} {dst src : Nat} (hdst : dst = pre.length)
    (hsrc : src = pre.length + gap.length) (hn : n = vs.length) :
    ∃ rest', moveWithin (pre ++ (gap ++ (vs ++ rest))) dst src n = some (pre ++ (vs ++ rest')) := by
  have hload : loadFrom (pre ++ (gap ++ (vs ++ rest))) src n = some vs := by
    rw [← List.append_assoc pre]
    exact loadFrom_middle (by rw [hsrc, List.length_append]) hn
  refine ⟨(gap ++ (vs ++ rest)).drop vs.length, ?_⟩
  rw [moveWithin, hload, Option.bind_some, storeFrom_append hdst
    (by simp only [List.length_append]; omega), List.append_assoc]

lemma moveWithin_up {new : List α} {dst src : Nat} (hsrc : src = pre.length)
    (hdst : dst = pre.length + new.length) (hn : n = vs.length) (hroom : new.length ≤ rest.length) :
    ∃ rest', ((moveWithin (pre ++ (vs ++ rest)) dst src n).bind fun buf => storeFrom buf src new) =
      some (pre ++ (new ++ (vs ++ rest'))) := by
  have hfront : (pre ++ (vs ++ rest)).take dst = pre ++ (vs ++ rest).take new.length := by
    rw [hdst, List.take_length_add_append]
  have hsize : ((vs ++ rest).take new.length).length = new.length := by
    rw [List.length_take, List.length_append]
    omega
  have hlen : dst = ((pre ++ (vs ++ rest)).take dst).length := by
    rw [hfront, List.length_append, hsize, hdst]
  have hmove := @storeFrom_append _ _ ((pre ++ (vs ++ rest)).drop dst) vs _ hlen
    (by simp only [List.length_drop, List.length_append]; omega)
  rw [List.take_append_drop] at hmove
  refine ⟨((pre ++ (vs ++ rest)).drop dst).drop vs.length, ?_⟩
  rw [moveWithin, loadFrom_middle hsrc hn, Option.bind_some, hmove, Option.bind_some, hfront,
    List.append_assoc, List.append_assoc, storeFrom_append hsrc
      (by rw [List.length_append, hsize]; omega), List.append_assoc, List.drop_left' hsize]

end AAAos
