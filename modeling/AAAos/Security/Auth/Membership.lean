import AAAos.Security.Auth.Identities

/-!
# Who belongs to what

Membership is stored twice: a group lists its members, and a user lists its groups.

**What goes wrong.**  `auth_delete_group` clears the group and leaves its id in the lists of the members.
A group that is created with the same id later has them as members from the start (`stale_member`).

**What is proved.**  In every run from `auth_init` in which the automatic ids are not in use when they are
given, and only groups without members are deleted, the two sides agree, every id that is listed is that of
a user or a group in use, a refused `auth_add_to_group` changes nothing, and `auth_is_member` answers true
only for the primary group, and for a group that the user has been added to since it was created, and not
removed from (`symmetric_of_steps`).
-/

namespace AAAos

namespace Auth

variable {s s' t : Auth} {uid gid : UInt32} {added added' : UInt32 → UInt32 → Bool}
variable {i : Fin authMaxUsers} {j : Fin authMaxGroups}

/-- The two sides of the relation, and what has been added. -/
structure Linked (added : UInt32 → UInt32 → Bool) (s : Auth) : Prop where
  groupsNodup : ∀ i, (s.users i).inUse = true → (s.users i).groups.Nodup
  membersNodup : ∀ j, (s.groups j).inUse = true → (s.groups j).members.Nodup
  symmetric : ∀ i j, (s.users i).inUse = true → (s.groups j).inUse = true →
    ((s.users i).uid ∈ (s.groups j).members ↔ (s.groups j).gid ∈ (s.users i).groups)
  members : ∀ j, (s.groups j).inUse = true → ∀ uid ∈ (s.groups j).members,
    ∃ i, (s.users i).inUse = true ∧ (s.users i).uid = uid
  groups : ∀ i, (s.users i).inUse = true → ∀ gid ∈ (s.users i).groups,
    ∃ j, (s.groups j).inUse = true ∧ (s.groups j).gid = gid
  record : ∀ i, (s.users i).inUse = true → ∀ gid ∈ (s.users i).groups, added (s.users i).uid gid = true

/-- It is noted of a user and a group whether the user has been added. -/
def note (added : UInt32 → UInt32 → Bool) (uid gid : UInt32) (b : Bool) : UInt32 → UInt32 → Bool :=
  Function.update added uid (Function.update (added uid) gid b)

lemma note_of_ne {b : Bool} {uid' : UInt32} (h : uid' ≠ uid) : note added uid gid b uid' = added uid' :=
  Function.update_of_ne h _ _

lemma note_self {b : Bool} : note added uid gid b uid gid = b := by
  rw [note, Function.update_self, Function.update_self]

lemma note_gid_of_ne {b : Bool} {gid' : UInt32} (h : gid' ≠ gid) :
    note added uid gid b uid gid' = added uid gid' := by
  rw [note, Function.update_self, Function.update_of_ne h]

lemma note_true {uid' gid' : UInt32} (h : added uid' gid' = true) : note added uid gid true uid' gid' = true := by
  by_cases huid : uid' = uid
  · by_cases hgid : gid' = gid
    · rw [huid, hgid, note_self]
    · rw [huid, note_gid_of_ne hgid, ← huid]
      exact h
  · rw [note_of_ne huid]
    exact h

/-- Nobody is listed. -/
structure NoMembers (s : Auth) : Prop where
  users : ∀ i, (s.users i).groups = []
  groups : ∀ j, (s.groups j).members = []

lemma NoMembers.linked (h : s.NoMembers) : Linked added s where
  groupsNodup i _ := by
    rw [h.users]
    exact List.nodup_nil
  membersNodup j _ := by
    rw [h.groups]
    exact List.nodup_nil
  symmetric i j _ _ := by
    rw [h.users, h.groups]
    exact iff_of_false List.not_mem_nil List.not_mem_nil
  members j _ uid hmem := by
    rw [h.groups] at hmem
    exact absurd hmem List.not_mem_nil
  groups i _ gid hmem := by
    rw [h.users] at hmem
    exact absurd hmem List.not_mem_nil
  record i _ gid hmem := by
    rw [h.users] at hmem
    exact absurd hmem List.not_mem_nil

namespace Linked

lemma mono (h : Linked added s) (hadded : ∀ i, (s.users i).inUse = true → ∀ gid ∈ (s.users i).groups,
      added (s.users i).uid gid = true → added' (s.users i).uid gid = true) : Linked added' s :=
  { h with record := fun i hi gid hmem => hadded i hi gid hmem (h.record i hi gid hmem) }

lemma congr (h : Linked added s) (hsame : SameAccounts s s') : Linked added s' := by
  have hids := hsame.sameIds
  refine ⟨fun i hi => ?_, fun j hj => ?_, fun i j hi hj => ?_, fun j hj uid hmem => ?_,
    fun i hi gid hmem => ?_, fun i hi gid hmem => ?_⟩
  · rw [hids.user_inUse] at hi
    rw [hsame.memberships]
    exact h.groupsNodup i hi
  · rw [hsame.groups] at hj ⊢
    exact h.membersNodup j hj
  · rw [hids.user_inUse] at hi
    rw [hsame.groups] at hj ⊢
    rw [hids.user_uid, hsame.memberships]
    exact h.symmetric i j hi hj
  · rw [hsame.groups] at hj hmem
    obtain ⟨i, hi, huid⟩ := h.members j hj uid hmem
    exact ⟨i, (hids.user_inUse i).trans hi, (hids.user_uid i).trans huid⟩
  · rw [hids.user_inUse] at hi
    rw [hsame.memberships] at hmem
    rw [hsame.groups]
    exact h.groups i hi gid hmem
  · rw [hids.user_inUse] at hi
    rw [hsame.memberships] at hmem
    rw [hids.user_uid]
    exact h.record i hi gid hmem

/-! ## Users and groups come and go -/

lemma addUser (h : Linked added s) {username password : CString} (hfree : (s.users i).inUse = false)
    (huid : s.authGetUser (if uid ≠ authIdInvalid then uid else s.nextUid) = none)
    (hadded : ∀ uid', uid' ≠ (if uid ≠ authIdInvalid then uid else s.nextUid) →
      added' uid' = added uid') : Linked added' (s.addUser i username password uid) := by
  have hself : (s.addUser i username password uid).users i =
      s.newUser (if uid ≠ authIdInvalid then uid else s.nextUid) username password :=
    Function.update_self _ _ _
  have hother : ∀ k, k ≠ i → (s.addUser i username password uid).users k = s.users k := fun k hk =>
    Function.update_of_ne hk _ _
  have hgroups : (s.addUser i username password uid).groups = s.groups := rfl
  refine ⟨fun k hk => ?_, h.membersNodup, fun k j hk hj => ?_, fun j hj uid' hmem => ?_,
    fun k hk gid hmem => ?_, fun k hk gid hmem => ?_⟩
  · by_cases hki : k = i
    · rw [hki, hself]
      exact List.nodup_nil
    · rw [hother k hki] at hk ⊢
      exact h.groupsNodup k hk
  · rw [hgroups] at hj ⊢
    by_cases hki : k = i
    · rw [hki, hself]
      refine iff_of_false (fun hmem => ?_) List.not_mem_nil
      obtain ⟨l, hl, hsame⟩ := h.members j hj _ hmem
      exact SlotTable.ne_of_find_eq_none huid hl hsame
    · rw [hother k hki] at hk ⊢
      exact h.symmetric k j hk hj
  · obtain ⟨l, hl, hsame⟩ := h.members j hj uid' hmem
    have hli : l ≠ i := by
      rintro rfl
      exact absurd (hl.symm.trans hfree) (by decide)
    refine ⟨l, ?_⟩
    rw [hother l hli]
    exact ⟨hl, hsame⟩
  · by_cases hki : k = i
    · rw [hki, hself] at hmem
      exact absurd hmem List.not_mem_nil
    · rw [hother k hki] at hk hmem
      exact h.groups k hk gid hmem
  · by_cases hki : k = i
    · rw [hki, hself] at hmem
      exact absurd hmem List.not_mem_nil
    · rw [hother k hki] at hk hmem ⊢
      rw [hadded _ (SlotTable.ne_of_find_eq_none huid hk)]
      exact h.record k hk gid hmem

lemma addGroup (h : Linked added s) {name : CString} (hfree : (s.groups j).inUse = false)
    (hgid : s.authGetGroup (if gid ≠ authIdInvalid then gid else s.nextGid) = none)
    (hadded : ∀ uid gid', gid' ≠ (if gid ≠ authIdInvalid then gid else s.nextGid) →
      added' uid gid' = added uid gid') : Linked added' (s.addGroup j name gid) := by
  have hself : (s.addGroup j name gid).groups j =
      { gid := if gid ≠ authIdInvalid then gid else s.nextGid
        name := name.truncate (authGroupNameMax - 1)
        inUse := true } :=
    Function.update_self _ _ _
  have hother : ∀ k, k ≠ j → (s.addGroup j name gid).groups k = s.groups k := fun k hk =>
    Function.update_of_ne hk _ _
  have husers : (s.addGroup j name gid).users = s.users := rfl
  refine ⟨h.groupsNodup, fun k hk => ?_, fun i k hi hk => ?_, fun k hk uid hmem => ?_,
    fun i hi gid' hmem => ?_, fun i hi gid' hmem => ?_⟩
  · by_cases hkj : k = j
    · rw [hkj, hself]
      exact List.nodup_nil
    · rw [hother k hkj] at hk ⊢
      exact h.membersNodup k hk
  · rw [husers] at hi ⊢
    by_cases hkj : k = j
    · rw [hkj, hself]
      refine iff_of_false List.not_mem_nil fun hmem => ?_
      obtain ⟨l, hl, hsame⟩ := h.groups i hi _ hmem
      exact SlotTable.ne_of_find_eq_none hgid hl hsame
    · rw [hother k hkj] at hk ⊢
      exact h.symmetric i k hi hk
  · by_cases hkj : k = j
    · rw [hkj, hself] at hmem
      exact absurd hmem List.not_mem_nil
    · rw [hother k hkj] at hk hmem
      exact h.members k hk uid hmem
  · obtain ⟨l, hl, hsame⟩ := h.groups i hi gid' hmem
    have hlj : l ≠ j := by
      rintro rfl
      exact absurd (hl.symm.trans hfree) (by decide)
    refine ⟨l, ?_⟩
    rw [hother l hlj]
    exact ⟨hl, hsame⟩
  · obtain ⟨l, hl, hsame⟩ := h.groups i hi gid' hmem
    rw [hadded _ _ (hsame ▸ SlotTable.ne_of_find_eq_none hgid hl)]
    exact h.record i hi gid' hmem

lemma restrict (h : Linked added s) (husers : ∀ k, (s'.users k).inUse = true → s'.users k = s.users k)
    (hgroups : ∀ k, (s'.groups k).inUse = true → s'.groups k = s.groups k)
    (hmembers : ∀ k, (s'.groups k).inUse = true → ∀ uid ∈ (s.groups k).members,
      ∃ l, (s'.users l).inUse = true ∧ (s'.users l).uid = uid)
    (hlists : ∀ k, (s'.users k).inUse = true → ∀ gid ∈ (s.users k).groups,
      ∃ l, (s'.groups l).inUse = true ∧ (s'.groups l).gid = gid) : Linked added s' := by
  have huser : ∀ k, (s'.users k).inUse = true → (s.users k).inUse = true := fun k hk => by
    rw [← husers k hk]
    exact hk
  have hgroup : ∀ k, (s'.groups k).inUse = true → (s.groups k).inUse = true := fun k hk => by
    rw [← hgroups k hk]
    exact hk
  refine ⟨fun k hk => ?_, fun k hk => ?_, fun k l hk hl => ?_, fun k hk uid hmem => ?_,
    fun k hk gid hmem => ?_, fun k hk gid hmem => ?_⟩
  · rw [husers k hk]
    exact h.groupsNodup k (huser k hk)
  · rw [hgroups k hk]
    exact h.membersNodup k (hgroup k hk)
  · rw [husers k hk, hgroups l hl]
    exact h.symmetric k l (huser k hk) (hgroup l hl)
  · rw [hgroups k hk] at hmem
    exact hmembers k hk uid hmem
  · rw [husers k hk] at hmem
    exact hlists k hk gid hmem
  · rw [husers k hk] at hmem ⊢
    exact h.record k (huser k hk) gid hmem

lemma dropUser (h : Linked added s) (userCount : UInt32)
    (hlisted : ∀ j, (s.groups j).inUse = true → (s.users i).uid ∉ (s.groups j).members) :
    Linked added { s.setUser i {} with userCount := userCount } := by
  have hother : ∀ k, k ≠ i → Function.update s.users i {} k = s.users k := fun k hk =>
    Function.update_of_ne hk _ _
  have hkept : ∀ k, (Function.update s.users i {} k).inUse = true → k ≠ i := by
    rintro k hk rfl
    rw [Function.update_self] at hk
    exact Bool.noConfusion hk
  refine h.restrict (fun k hk => hother k (hkept k hk)) (fun _ _ => rfl) (fun k hk uid hmem => ?_)
    (fun k hk gid hmem => ?_)
  · obtain ⟨l, hl, huid⟩ := h.members k hk uid hmem
    have hne : l ≠ i := by
      rintro rfl
      exact hlisted k hk (huid ▸ hmem)
    refine ⟨l, ?_⟩
    change (Function.update s.users i {} l).inUse = true ∧ (Function.update s.users i {} l).uid = uid
    rw [hother l hne]
    exact ⟨hl, huid⟩
  · have hin : (s.users k).inUse = true := by
      rw [← hother k (hkept k hk)]
      exact hk
    exact h.groups k hin gid hmem

lemma dropGroup (h : Linked added s) (groupCount : UInt32) (hj : (s.groups j).inUse = true)
    (hempty : (s.groups j).members = []) :
    Linked added { s.setGroup j {} with groupCount := groupCount } := by
  have hother : ∀ k, k ≠ j → Function.update s.groups j {} k = s.groups k := fun k hk =>
    Function.update_of_ne hk _ _
  have hkept : ∀ k, (Function.update s.groups j {} k).inUse = true → k ≠ j := by
    rintro k hk rfl
    rw [Function.update_self] at hk
    exact Bool.noConfusion hk
  refine h.restrict (fun _ _ => rfl) (fun k hk => hother k (hkept k hk)) (fun k hk uid hmem => ?_)
    (fun k hk gid hmem => ?_)
  · have hin : (s.groups k).inUse = true := by
      rw [← hother k (hkept k hk)]
      exact hk
    exact h.members k hin uid hmem
  · obtain ⟨l, hl, hgid⟩ := h.groups k hk gid hmem
    have hne : l ≠ j := by
      rintro rfl
      have hlisted := (h.symmetric k l hk hj).mpr (hgid ▸ hmem)
      rw [hempty] at hlisted
      exact absurd hlisted List.not_mem_nil
    refine ⟨l, ?_⟩
    change (Function.update s.groups j {} l).inUse = true ∧ (Function.update s.groups j {} l).gid = gid
    rw [hother l hne]
    exact ⟨hl, hgid⟩

/-! ## Members come and go -/

/-- The lists of one user and of one group are changed, each at the other's id only. -/
lemma pair (h : Linked added s) (hids : s.Identities) (hi : (s.users i).inUse = true)
    (hj : (s.groups j).inUse = true) {members groups : List UInt32} (hgroups : groups.Nodup)
    (hmembers : members.Nodup) (hboth : (s.users i).uid ∈ members ↔ (s.groups j).gid ∈ groups)
    (hgid : ∀ gid, gid ≠ (s.groups j).gid → (gid ∈ groups ↔ gid ∈ (s.users i).groups))
    (huid : ∀ uid, uid ≠ (s.users i).uid → (uid ∈ members ↔ uid ∈ (s.groups j).members))
    (hself : ∀ gid ∈ groups, added' (s.users i).uid gid = true)
    (hadded : ∀ uid, uid ≠ (s.users i).uid → added' uid = added uid) :
    Linked added' ((s.setGroup j { s.groups j with members := members }).setUser i
      { s.users i with groups := groups }) := by
  obtain ⟨s', hs'⟩ : ∃ s', (s.setGroup j { s.groups j with members := members }).setUser i
      { s.users i with groups := groups } = s' := ⟨_, rfl⟩
  have hsame : SameIds s s' := hs' ▸ .regroup rfl rfl
  have huser : s'.users i = { s.users i with groups := groups } := by
    rw [← hs']
    exact Function.update_self _ _ _
  have huserself : (s'.users i).groups = groups := congrArg User.groups huser
  have huserother : ∀ k, k ≠ i → (s'.users k).groups = (s.users k).groups := fun k hk => by
    rw [← hs']
    exact congrArg User.groups (Function.update_of_ne hk _ _)
  have hgroup : s'.groups j = { s.groups j with members := members } := by
    rw [← hs']
    exact Function.update_self _ _ _
  have hgroupself : (s'.groups j).members = members := congrArg UserGroup.members hgroup
  have hgroupother : ∀ k, k ≠ j → (s'.groups k).members = (s.groups k).members := fun k hk => by
    rw [← hs']
    exact congrArg UserGroup.members (Function.update_of_ne hk _ _)
  rw [hs']
  refine ⟨fun k hk => ?_, fun k hk => ?_, fun k l hk hl => ?_, fun k hk uid hmem => ?_,
    fun k hk gid hmem => ?_, fun k hk gid hmem => ?_⟩
  · rw [hsame.user_inUse] at hk
    by_cases hki : k = i
    · rw [hki, huserself]
      exact hgroups
    · rw [huserother k hki]
      exact h.groupsNodup k hk
  · rw [hsame.group_inUse] at hk
    by_cases hkj : k = j
    · rw [hkj, hgroupself]
      exact hmembers
    · rw [hgroupother k hkj]
      exact h.membersNodup k hk
  · rw [hsame.user_inUse] at hk
    rw [hsame.group_inUse] at hl
    rw [hsame.user_uid, hsame.group_gid]
    by_cases hki : k = i
    · by_cases hlj : l = j
      · rw [hki, hlj, huserself, hgroupself]
        exact hboth
      · rw [hki, huserself, hgroupother l hlj, hgid _ fun heq => hlj (hids.gid hl hj heq)]
        exact h.symmetric i l hi hl
    · by_cases hlj : l = j
      · rw [hlj, hgroupself, huserother k hki, huid _ fun heq => hki (hids.uid hk hi heq)]
        exact h.symmetric k j hk hj
      · rw [hgroupother l hlj, huserother k hki]
        exact h.symmetric k l hk hl
  · rw [hsame.group_inUse] at hk
    obtain ⟨l, hl, heq⟩ : ∃ l, (s.users l).inUse = true ∧ (s.users l).uid = uid := by
      by_cases hkj : k = j
      · rw [hkj, hgroupself] at hmem
        by_cases hown : uid = (s.users i).uid
        · exact ⟨i, hi, hown.symm⟩
        · exact h.members j hj uid ((huid uid hown).mp hmem)
      · rw [hgroupother k hkj] at hmem
        exact h.members k hk uid hmem
    exact ⟨l, (hsame.user_inUse l).trans hl, (hsame.user_uid l).trans heq⟩
  · rw [hsame.user_inUse] at hk
    obtain ⟨l, hl, heq⟩ : ∃ l, (s.groups l).inUse = true ∧ (s.groups l).gid = gid := by
      by_cases hki : k = i
      · rw [hki, huserself] at hmem
        by_cases hown : gid = (s.groups j).gid
        · exact ⟨j, hj, hown.symm⟩
        · exact h.groups i hi gid ((hgid gid hown).mp hmem)
      · rw [huserother k hki] at hmem
        exact h.groups k hk gid hmem
    exact ⟨l, (hsame.group_inUse l).trans hl, (hsame.group_gid l).trans heq⟩
  · rw [hsame.user_inUse] at hk
    rw [hsame.user_uid]
    by_cases hki : k = i
    · rw [hki, huserself] at hmem
      rw [hki]
      exact hself gid hmem
    · rw [huserother k hki] at hmem
      rw [hadded _ fun heq => hki (hids.uid hk hi heq)]
      exact h.record k hk gid hmem

lemma join (h : Linked added s) (hids : s.Identities) (huser : s.authGetUser uid = some i)
    (hgroup : s.authGetGroup gid = some j) (hmember : s.authIsMember uid gid = false) :
    Linked (note added uid gid true)
      ((s.setGroup j { s.groups j with members := (s.groups j).members ++ [uid] }).setUser i
        { s.users i with groups := (s.users i).groups ++ [gid] }) := by
  obtain ⟨hi, rfl⟩ := authGetUser_some huser
  obtain ⟨hj, rfl⟩ := authGetGroup_some hgroup
  have hnot : (s.groups j).gid ∉ (s.users i).groups := by
    unfold authIsMember at hmember
    rw [huser] at hmember
    simp only [Bool.or_eq_false_iff, decide_eq_false_iff_not] at hmember
    exact hmember.2
  have hnotmember : (s.users i).uid ∉ (s.groups j).members := mt (h.symmetric i j hi hj).mp hnot
  have hgroups : ((s.users i).groups ++ [(s.groups j).gid]).Nodup :=
    (List.perm_append_singleton _ _).nodup_iff.mpr (List.nodup_cons.mpr ⟨hnot, h.groupsNodup i hi⟩)
  have hmembers : ((s.groups j).members ++ [(s.users i).uid]).Nodup :=
    (List.perm_append_singleton _ _).nodup_iff.mpr
      (List.nodup_cons.mpr ⟨hnotmember, h.membersNodup j hj⟩)
  refine h.pair hids hi hj hgroups hmembers ?_ (fun gid hgid => ?_) (fun uid huid => ?_)
    (fun gid hgid => ?_) fun uid huid => note_of_ne huid
  · exact iff_of_true (List.mem_append_right _ (List.mem_singleton_self _))
      (List.mem_append_right _ (List.mem_singleton_self _))
  · rw [List.mem_append, List.mem_singleton, or_iff_left hgid]
  · rw [List.mem_append, List.mem_singleton, or_iff_left huid]
  · rcases List.mem_append.mp hgid with hmem | hmem
    · exact note_true (h.record i hi gid hmem)
    · rw [List.mem_singleton.mp hmem]
      exact note_self

lemma leave (h : Linked added s) (hids : s.Identities) (huser : s.authGetUser uid = some i)
    (hgroup : s.authGetGroup gid = some j)
    (hself : ∀ gid', gid' ≠ gid → added' uid gid' = added uid gid')
    (hother : ∀ uid', uid' ≠ uid → added' uid' = added uid') :
    Linked added'
      ((s.setGroup j { s.groups j with members := (s.groups j).members.erase uid }).setUser i
        { s.users i with groups := (s.users i).groups.erase gid }) := by
  obtain ⟨hi, rfl⟩ := authGetUser_some huser
  obtain ⟨hj, rfl⟩ := authGetGroup_some hgroup
  have hgroups := h.groupsNodup i hi
  have hmembers := h.membersNodup j hj
  refine h.pair hids hi hj (hgroups.erase _) (hmembers.erase _)
    (iff_of_false hmembers.not_mem_erase hgroups.not_mem_erase) (fun gid hgid => List.mem_erase_of_ne hgid)
    (fun uid huid => List.mem_erase_of_ne huid) (fun gid hgid => ?_) hother
  obtain ⟨hne, hmem⟩ := hgroups.mem_erase_iff.mp hgid
  rw [hself gid hne]
  exact h.record i hi gid hmem

end Linked

/-! ## Deleting a user -/

lemma mem_authRemoveFromGroup {uid' : UInt32} (hmem : uid' ∈ ((s.authRemoveFromGroup uid gid).2.groups j).members) :
    uid' ∈ (s.groups j).members := by
  obtain ⟨heq, -⟩ | ⟨i, k, -, -, heq⟩ := s.authRemoveFromGroup_cases uid gid
  · rw [heq] at hmem
    exact hmem
  · rw [heq] at hmem
    change uid' ∈ (Function.update s.groups k _ j).members at hmem
    by_cases hjk : j = k
    · rw [hjk, Function.update_self] at hmem
      rw [hjk]
      exact List.mem_of_mem_erase hmem
    · rwa [Function.update_of_ne hjk] at hmem

/-- **After the loop over the groups** no group lists the user. -/
lemma removeFromGroups_spec (h : Linked added s) (hids : s.Identities) (uid : UInt32) :
    Linked added (s.removeFromGroups uid) ∧ ∀ j, ((s.removeFromGroups uid).groups j).inUse = true →
        uid ∉ ((s.removeFromGroups uid).groups j).members := by
  have hloop := SlotTable.visit (n := authMaxGroups) (s := s)
    (f := fun (t : Auth) j =>
      if (t.groups j).inUse then (t.authRemoveFromGroup uid (t.groups j).gid).2 else t)
    (J := fun t => t.Identities ∧ Linked added t)
    (D := fun j t => (t.groups j).inUse = true → uid ∉ (t.groups j).members)
    (fun t j ht => ?_) (fun t j ht hin => ?_) (fun t k j ht hD hin => ?_) ⟨hids, h⟩
  · exact ⟨hloop.1.2, hloop.2⟩
  · split_ifs with hj
    · refine ⟨ht.1.congr (authRemoveFromGroup_sameIds t uid _), ?_⟩
      obtain ⟨heq, -⟩ | ⟨i, k, huser, hgroup, heq⟩ := t.authRemoveFromGroup_cases uid (t.groups j).gid
      · rw [heq]
        exact ht.2
      · rw [heq]
        exact ht.2.leave ht.1 huser hgroup (fun _ _ => rfl) (fun _ _ => rfl)
    · exact ht
  · split_ifs at hin ⊢ with hj
    · obtain ⟨heq, hnone⟩ | ⟨i, k, huser, hgroup, heq⟩ :=
        t.authRemoveFromGroup_cases uid (t.groups j).gid
      · rw [heq]
        intro hmem
        rcases hnone with hnone | hnone
        · obtain ⟨i, hi, huid⟩ := ht.2.members j hj uid hmem
          exact SlotTable.ne_of_find_eq_none hnone hi huid
        · exact SlotTable.ne_of_find_eq_none hnone hj rfl
      · obtain ⟨hk, hgid⟩ := authGetGroup_some hgroup
        obtain rfl := ht.1.gid hk hj hgid
        rw [heq]
        change uid ∉ (Function.update t.groups k _ k).members
        rw [Function.update_self]
        exact (ht.2.membersNodup k hk).not_mem_erase
    · exact absurd hin hj
  · split_ifs at hin ⊢ with hk
    · rw [(authRemoveFromGroup_sameIds t uid _).group_inUse] at hin
      exact fun hmem => hD hin (mem_authRemoveFromGroup hmem)
    · exact hD hin

lemma Linked.deleteUser (h : Linked added s) (hids : s.Identities) (uid : UInt32) :
    Linked added (s.authDeleteUser uid).2 := by
  obtain hsame | ⟨i, t, huser, rfl, heq⟩ := s.authDeleteUser_cases uid
  · rw [hsame]
    exact h
  have hlogout := logoutUser_same s uid
  obtain ⟨hlinked, hlisted⟩ :=
    removeFromGroups_spec (h.congr hlogout) (hids.congr hlogout.sameIds) uid
  have huid : (((s.logoutUser uid).removeFromGroups uid).users i).uid = uid :=
    ((hlogout.sameIds.trans (removeFromGroups_sameIds _ uid)).user_uid i).trans
      (authGetUser_some huser).2
  rw [heq]
  refine hlinked.dropUser _ fun j hj => ?_
  rw [huid]
  exact hlisted j hj

/-! ## The default users -/

lemma authAddToGroup_member (h : s.authIsMember uid gid = true) : (s.authAddToGroup uid gid).2 = s := by
  obtain ⟨hsame, -⟩ | ⟨i, j, -, -, hmember, -⟩ := s.authAddToGroup_cases uid gid
  · exact hsame
  · exact absurd (h.symm.trans hmember) (by decide)

namespace NoMembers

lemma setUser (h : s.NoMembers) {u : User} (hu : u.groups = [])
    (husers : s'.users = Function.update s.users i u) (hgroups : s'.groups = s.groups) :
    s'.NoMembers := by
  refine ⟨fun k => ?_, fun j => ?_⟩
  · rw [husers]
    by_cases hk : k = i
    · rw [hk, Function.update_self, hu]
    · rw [Function.update_of_ne hk, h.users]
  · rw [hgroups, h.groups]

lemma createGroup (h : s.NoMembers) (name : Option CString) (gid : UInt32) :
    (s.authCreateGroup name gid).2.NoMembers := by
  obtain ⟨hsame, -⟩ | ⟨text, j, -, -, -, -, heq⟩ := s.authCreateGroup_cases name gid
  · rw [hsame]
    exact h
  · rw [heq]
    refine ⟨h.users, fun k => ?_⟩
    change (Function.update s.groups j _ k).members = []
    by_cases hk : k = j
    · rw [hk, Function.update_self]
    · rw [Function.update_of_ne hk, h.groups]

lemma createUser (h : s.NoMembers) (username password : Option CString) (uid : UInt32) :
    (s.authCreateUser username password uid).2.NoMembers := by
  obtain ⟨hsame, -⟩ | ⟨name, word, i, -, -, -, -, -, heq⟩ :=
    s.authCreateUser_cases username password uid
  · rw [hsame]
    exact h
  · rw [heq]
    exact h.setUser (i := i) (u := s.newUser _ name word) rfl rfl rfl

lemma defaultUser (h : s.NoMembers) (name : CString) (uid gid flags : UInt32)
    (homeDir : Option CString) : (s.defaultUser name uid gid flags homeDir).NoMembers := by
  have hcreated := h.createUser (some name) (some name) uid
  unfold Auth.defaultUser
  dsimp only
  generalize s.authCreateUser (some name) (some name) uid = r at hcreated ⊢
  split_ifs
  · exact hcreated
  cases huser : r.2.authGetUser uid with
  | none => exact hcreated
  | some i =>
    dsimp only
    obtain ⟨t, ht⟩ : ∃ t, r.2.setUser i { r.2.users i with
        gid := gid, flags := flags, homeDir := homeDir.getD (r.2.users i).homeDir } = t := ⟨_, rfl⟩
    have hself : (t.users i).gid = gid := by
      rw [← ht]
      change (Function.update r.2.users i _ i).gid = gid
      rw [Function.update_self]
    have hsame : SameAccounts r.2 t := ht ▸ .edit (i := i) rfl rfl rfl rfl rfl rfl
    have hfound : t.authGetUser uid = some i := by
      rw [← huser]
      refine SlotTable.find_congr fun k => ?_
      rw [hsame.sameIds.user_inUse, hsame.sameIds.user_uid]
    have hmember : t.authIsMember uid gid = true := by
      unfold authIsMember
      rw [hfound]
      simp [hself]
    rw [ht, authAddToGroup_member hmember]
    refine ⟨fun k => ?_, fun j => ?_⟩
    · rw [hsame.memberships, hcreated.users]
    · rw [hsame.groups, hcreated.groups]

lemma init (hinit : s.initialized = false) : s.authInit.NoMembers := by
  unfold authInit
  rw [if_neg (by simp [hinit])]
  have hclear : s.clear.NoMembers := ⟨fun _ => rfl, fun _ => rfl⟩
  exact (((hclear.createGroup _ _).createGroup _ _).defaultUser _ _ _ _ _).defaultUser _ _ _ _ _

end NoMembers

end Auth

/-! ## Runs -/

/-- The tables, and who has been added to what since it was created, and not removed. -/
structure MembershipRun where
  auth : Auth
  added : UInt32 → UInt32 → Bool := fun _ _ => false

namespace MembershipRun

open Auth

variable {m m' : MembershipRun} {uid gid : UInt32}

/-- A call is made. -/
def apply (m : MembershipRun) (c : AuthCall) : MembershipRun :=
  match c with
  | .createUser username password uid =>
    { auth := m.auth.call c
      added := if (m.auth.authCreateUser username password uid).1 = authOk then
          Function.update m.added (if uid ≠ authIdInvalid then uid else m.auth.nextUid) fun _ => false
        else m.added }
  | .createGroup name gid =>
    { auth := m.auth.call c
      added := if (m.auth.authCreateGroup name gid).1 = authOk then
          fun uid => Function.update (m.added uid)
            (if gid ≠ authIdInvalid then gid else m.auth.nextGid) false
        else m.added }
  | .addToGroup uid gid =>
    { auth := m.auth.call c
      added := if (m.auth.authAddToGroup uid gid).1 = authOk then note m.added uid gid true
        else m.added }
  | .removeFromGroup uid gid =>
    { auth := m.auth.call c
      added := if (m.auth.authRemoveFromGroup uid gid).1 = authOk then note m.added uid gid false
        else m.added }
  | .restart => { auth := m.auth.call c }
  | c => { m with auth := m.auth.call c }

def Step (m : MembershipRun) (c : AuthCall) (m' : MembershipRun) : Prop := m' = m.apply c

/-- Automatic ids are not in use, and a group that is deleted has no members. -/
def Keeps (m : MembershipRun) : AuthCall → Prop
  | .deleteGroup gid => gid ≠ authGidRoot → ∀ j, m.auth.authGetGroup gid = some j →
      (m.auth.groups j).members = []
  | c => m.auth.AutomaticFresh c

def KeepingStep (m : MembershipRun) (c : AuthCall) (m' : MembershipRun) : Prop :=
  m.Keeps c ∧ m.Step c m'

/-- **Membership is symmetric and real.** -/
structure Symmetric (m : MembershipRun) : Prop where
  once : ∀ i j, (m.auth.users i).inUse = true → (m.auth.groups j).inUse = true →
    ((m.auth.groups j).members.count (m.auth.users i).uid = 1 ↔
      (m.auth.users i).groups.count (m.auth.groups j).gid = 1)
  members : ∀ j, (m.auth.groups j).inUse = true → ∀ uid ∈ (m.auth.groups j).members,
    ∃ i, (m.auth.users i).inUse = true ∧ (m.auth.users i).uid = uid
  groups : ∀ i, (m.auth.users i).inUse = true → ∀ gid ∈ (m.auth.users i).groups,
    ∃ j, (m.auth.groups j).inUse = true ∧ (m.auth.groups j).gid = gid
  refused : ∀ uid gid, (m.auth.authAddToGroup uid gid).1 ≠ authOk →
    (∀ i, ((m.auth.authAddToGroup uid gid).2.users i).groups = (m.auth.users i).groups) ∧
      ∀ j, ((m.auth.authAddToGroup uid gid).2.groups j).members = (m.auth.groups j).members
  added : ∀ i j, (m.auth.users i).inUse = true → (m.auth.groups j).inUse = true →
    m.auth.authIsMember (m.auth.users i).uid (m.auth.groups j).gid = true →
    (m.auth.users i).gid ≠ (m.auth.groups j).gid →
    m.added (m.auth.users i).uid (m.auth.groups j).gid = true

structure Sound (m : MembershipRun) : Prop where
  identities : m.auth.Identities
  linked : Linked m.added m.auth

lemma Sound.symmetric (h : m.Sound) : m.Symmetric := by
  refine ⟨fun i j hi hj => ?_, h.linked.members, h.linked.groups, fun uid gid hrefused => ?_,
    fun i j hi hj hmember hprimary => ?_⟩
  · rw [(h.linked.membersNodup j hj).count, (h.linked.groupsNodup i hi).count]
    have hboth := h.linked.symmetric i j hi hj
    simp [hboth]
  · obtain ⟨hsame, -⟩ | ⟨i, j, -, -, -, heq⟩ := m.auth.authAddToGroup_cases uid gid
    · rw [hsame]
      exact ⟨fun _ => rfl, fun _ => rfl⟩
    · rw [heq] at hrefused
      exact absurd rfl hrefused
  · refine h.linked.record i hi _ ?_
    unfold authIsMember at hmember
    rw [show m.auth.authGetUser (m.auth.users i).uid = some i from h.identities.uid.find_eq hi rfl]
      at hmember
    simp only [Bool.or_eq_true, decide_eq_true_eq] at hmember
    exact hmember.resolve_left hprimary

lemma Sound.same (h : m.Sound) {s : Auth} (hsame : SameAccounts m.auth s) : Sound { m with auth := s } :=
  ⟨h.identities.congr hsame.sameIds, h.linked.congr hsame⟩

lemma sound_createUser (h : m.Sound) {username password : Option CString}
    (hk : m.auth.AutomaticFresh (.createUser username password uid)) :
    (m.apply (.createUser username password uid)).Sound := by
  refine ⟨h.identities.createUser hk, ?_⟩
  unfold apply call
  dsimp only
  obtain ⟨hsame, hfail⟩ | ⟨name, word, i, rfl, rfl, hcan, hfree, hexplicit, heq⟩ :=
    m.auth.authCreateUser_cases username password uid
  · rw [if_neg hfail, hsame]
    exact h.linked
  rw [heq, if_pos rfl]
  refine h.linked.addUser (findFreeUserSlot_some hfree) ?_ fun uid' hne => Function.update_of_ne hne _ _
  by_cases huid : uid = authIdInvalid
  · rw [if_neg (not_not.mpr huid)]
    exact hk huid hcan
  · rw [if_pos huid]
    exact hexplicit huid

lemma sound_createGroup (h : m.Sound) {name : Option CString}
    (hk : m.auth.AutomaticFresh (.createGroup name gid)) : (m.apply (.createGroup name gid)).Sound := by
  refine ⟨h.identities.createGroup hk, ?_⟩
  unfold apply call
  dsimp only
  obtain ⟨hsame, hfail⟩ | ⟨text, j, rfl, hcan, hfree, hexplicit, heq⟩ :=
    m.auth.authCreateGroup_cases name gid
  · rw [if_neg hfail, hsame]
    exact h.linked
  rw [heq, if_pos rfl]
  refine h.linked.addGroup (findFreeGroupSlot_some hfree) ?_
    fun uid gid' hne => Function.update_of_ne hne _ _
  by_cases hgid : gid = authIdInvalid
  · rw [if_neg (not_not.mpr hgid)]
    exact hk hgid hcan
  · rw [if_pos hgid]
    exact hexplicit hgid

lemma sound_addToGroup (h : m.Sound) (uid gid : UInt32) : (m.apply (.addToGroup uid gid)).Sound := by
  refine ⟨h.identities.congr (authAddToGroup_sameIds _ uid gid), ?_⟩
  unfold apply call
  dsimp only
  obtain ⟨hsame, -⟩ | ⟨i, j, huser, hgroup, hmember, heq⟩ := m.auth.authAddToGroup_cases uid gid
  · rw [hsame]
    refine h.linked.mono fun i _ gid' _ hadded => ?_
    split_ifs
    · exact note_true hadded
    · exact hadded
  · rw [heq, if_pos rfl]
    exact h.linked.join h.identities huser hgroup hmember

lemma sound_removeFromGroup (h : m.Sound) (uid gid : UInt32) : (m.apply (.removeFromGroup uid gid)).Sound := by
  refine ⟨h.identities.congr (authRemoveFromGroup_sameIds _ uid gid), ?_⟩
  unfold apply call
  dsimp only
  obtain ⟨heq, -⟩ | ⟨i, j, huser, hgroup, heq⟩ := m.auth.authRemoveFromGroup_cases uid gid
  · rw [heq, if_neg (show authErrNoent ≠ authOk by decide)]
    exact h.linked
  · rw [heq, if_pos rfl]
    exact h.linked.leave h.identities huser hgroup (fun gid' hne => note_gid_of_ne hne)
      fun uid' hne => note_of_ne hne

lemma sound_deleteGroup (h : m.Sound) (hk : m.Keeps (.deleteGroup gid)) : (m.apply (.deleteGroup gid)).Sound := by
  refine ⟨h.identities.deleteGroup gid, ?_⟩
  unfold apply call
  dsimp only
  obtain hsame | ⟨j, hroot, hgroup, heq⟩ := m.auth.authDeleteGroup_cases gid
  · rw [hsame]
    exact h.linked
  · rw [heq]
    exact h.linked.dropGroup _ (authGetGroup_some hgroup).1 (hk hroot j hgroup)

/-- **One call.** -/
lemma sound_step (h : m.Sound) {c : AuthCall} (hstep : m.KeepingStep c m') : m'.Sound := by
  obtain ⟨hk, rfl⟩ := hstep
  cases c with
  | createUser username password uid => exact sound_createUser h hk
  | deleteUser uid => exact ⟨h.identities.deleteUser uid, h.linked.deleteUser h.identities uid⟩
  | setPassword uid password => exact h.same (authSetPassword_same _ uid password)
  | setUserFlags uid flags => exact h.same (authSetUserFlags_same _ uid flags)
  | lockUser uid => exact h.same (authLockUser_same _ uid)
  | unlockUser uid => exact h.same (authUnlockUser_same _ uid)
  | login username password => exact h.same (authLogin_same _ username password)
  | logout session => exact h.same (authLogout_same _ session)
  | setCurrentSession session => exact h.same ⟨fun _ => rfl, fun _ => rfl, rfl, rfl, rfl⟩
  | createGroup name gid => exact sound_createGroup h hk
  | deleteGroup gid => exact sound_deleteGroup h hk
  | addToGroup uid gid => exact sound_addToGroup h uid gid
  | removeFromGroup uid gid => exact sound_removeFromGroup h uid gid
  | restart =>
    exact ⟨.init (authShutdown_initialized _), (NoMembers.init (authShutdown_initialized _)).linked⟩

/-- After the first `auth_init`. -/
def start : MembershipRun where
  auth := booted

lemma sound_start : start.Sound :=
  ⟨show (authInit {}).Identities from .init rfl, (NoMembers.init (s := {}) rfl).linked⟩

/-- **Membership is symmetric, and revoked with the group**, in every run that meets the condition. -/
theorem symmetric_of_steps (calls : List AuthCall) (m : MembershipRun)
    (hrun : Steps KeepingStep start calls m) : m.Symmetric :=
  (hrun.invariant (fun _ _ _ hm hstep => sound_step hm hstep) sound_start).symmetric

/-- A user joins a group, leaves it, and the group is deleted. -/
theorem symmetric_of_group : ((((start.apply (.createGroup (some nameA) 500)).apply (.addToGroup 1000 500)).apply
      (.removeFromGroup 1000 500)).apply (.deleteGroup 500)).Symmetric := by
  refine symmetric_of_steps [.createGroup (some nameA) 500, .addToGroup 1000 500,
    .removeFromGroup 1000 500, .deleteGroup 500] _
    (.cons ⟨fun hinvalid => absurd hinvalid (by decide), rfl⟩ (.cons ⟨trivial, rfl⟩
      (.cons ⟨trivial, rfl⟩ (.cons ⟨fun _ j hj => ?_, rfl⟩ (.nil _)))))
  have hthird : (((start.apply (.createGroup (some nameA) 500)).apply (.addToGroup 1000 500)).apply
      (.removeFromGroup 1000 500)).auth.authGetGroup 500 = some ⟨2, by decide⟩ := by
    decide
  obtain rfl := Option.some.inj (hthird.symm.trans hj)
  decide

/-- A group is deleted that has a member, and created again. -/
theorem stale_member : ¬ ∀ (calls : List AuthCall) (m : MembershipRun), Steps Step start calls m → m.Symmetric := by
  intro h
  have hsymmetric := h _ _ (.cons (c := .createGroup (some nameA) 500) rfl
    (.cons (c := .addToGroup 1000 500) rfl (.cons (c := .deleteGroup 500) rfl
      (.cons (c := .createGroup (some nameA) 500) rfl (.nil _)))))
  have hadded := hsymmetric.added ⟨1, by decide⟩ ⟨2, by decide⟩ (by decide) (by decide)
    (by decide) (by decide)
  revert hadded
  decide

end MembershipRun

end AAAos
