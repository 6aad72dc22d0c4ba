import AAAos.Lib.Trace
import AAAos.Security.Auth.Auth

/-!
# Who there is

`auth_create_user` and `auth_create_group` look for the name and for an id that is chosen explicitly.

**What goes wrong.**  An id that is chosen automatically comes from a counter and is not looked for.  If the
id that comes next has been given to somebody explicitly, or the counter comes round to an id in use, two
users have the same id (`automatic_uid_shared`).

**What is proved.**  In every run from `auth_init` in which the automatic ids are not in use when they are
given, no two users in use have the same id or the same name, no two groups in use have the same id or the
same name, and the two counts are right (`unique_of_steps`).
-/

namespace AAAos

/-- What is called.  `restart` is `auth_shutdown` and then `auth_init`. -/
inductive AuthCall
  | createUser (username password : Option CString) (uid : UInt32)
  | deleteUser (uid : UInt32)
  | setPassword (uid : UInt32) (password : Option CString)
  | setUserFlags (uid flags : UInt32)
  | lockUser (uid : UInt32)
  | unlockUser (uid : UInt32)
  | login (username password : Option CString)
  | logout (session : Option (Fin authMaxSessions))
  | setCurrentSession (session : Option (Fin authMaxSessions))
  | createGroup (name : Option CString) (gid : UInt32)
  | deleteGroup (gid : UInt32)
  | addToGroup (uid gid : UInt32)
  | removeFromGroup (uid gid : UInt32)
  | restart

/-- What makes a user who it is. -/
def User.ident (u : User) : Bool × UInt32 × CString := (u.inUse, u.uid, u.username)

def UserGroup.ident (g : UserGroup) : Bool × UInt32 × CString := (g.inUse, g.gid, g.name)

namespace Auth

variable {s s' s'' : Auth} {uid gid : UInt32} {username password : CString}

def call (s : Auth) : AuthCall → Auth
  | .createUser username password uid => (s.authCreateUser username password uid).2
  | .deleteUser uid => (s.authDeleteUser uid).2
  | .setPassword uid password => (s.authSetPassword uid password).2
  | .setUserFlags uid flags => (s.authSetUserFlags uid flags).2
  | .lockUser uid => (s.authLockUser uid).2
  | .unlockUser uid => (s.authUnlockUser uid).2
  | .login username password => (s.authLogin username password).2.2
  | .logout session => (s.authLogout session).2
  | .setCurrentSession session => s.authSetCurrentSession session
  | .createGroup name gid => (s.authCreateGroup name gid).2
  | .deleteGroup gid => (s.authDeleteGroup gid).2
  | .addToGroup uid gid => (s.authAddToGroup uid gid).2
  | .removeFromGroup uid gid => (s.authRemoveFromGroup uid gid).2
  | .restart => s.authShutdown.authInit

lemma authGetUser_some {i : Fin authMaxUsers} (h : s.authGetUser uid = some i) :
    (s.users i).inUse = true ∧ (s.users i).uid = uid := by
  simpa using SlotTable.find_spec h

lemma authGetGroup_some {j : Fin authMaxGroups} (h : s.authGetGroup gid = some j) :
    (s.groups j).inUse = true ∧ (s.groups j).gid = gid := by
  simpa using SlotTable.find_spec h

lemma findFreeUserSlot_some {i : Fin authMaxUsers} (h : s.findFreeUserSlot = some i) : (s.users i).inUse = false := by
  simpa using SlotTable.find_spec h

lemma findFreeGroupSlot_some {j : Fin authMaxGroups} (h : s.findFreeGroupSlot = some j) :
    (s.groups j).inUse = false := by
  simpa using SlotTable.find_spec h

/-! ## What a call leaves alone -/

/-- The users, the groups and their numbers are the same. -/
structure SameIds (s s' : Auth) : Prop where
  user : ∀ i, (s'.users i).ident = (s.users i).ident
  group : ∀ j, (s'.groups j).ident = (s.groups j).ident
  userCount : s'.userCount = s.userCount
  groupCount : s'.groupCount = s.groupCount

/-- And so is who belongs to what. -/
structure SameAccounts (s s' : Auth) : Prop where
  ident : ∀ i, (s'.users i).ident = (s.users i).ident
  memberships : ∀ i, (s'.users i).groups = (s.users i).groups
  groups : s'.groups = s.groups
  userCount : s'.userCount = s.userCount
  groupCount : s'.groupCount = s.groupCount

namespace SameIds

lemma refl (s : Auth) : SameIds s s := ⟨fun _ => rfl, fun _ => rfl, rfl, rfl⟩

lemma trans (h : SameIds s s') (h' : SameIds s' s'') : SameIds s s'' :=
  ⟨fun i => (h'.user i).trans (h.user i), fun j => (h'.group j).trans (h.group j),
    h'.userCount.trans h.userCount, h'.groupCount.trans h.groupCount⟩

lemma user_inUse (h : SameIds s s') (i : Fin authMaxUsers) :
    (s'.users i).inUse = (s.users i).inUse := congrArg Prod.fst (h.user i)

lemma user_uid (h : SameIds s s') (i : Fin authMaxUsers) : (s'.users i).uid = (s.users i).uid :=
  congrArg (fun x => x.2.1) (h.user i)

lemma user_username (h : SameIds s s') (i : Fin authMaxUsers) :
    (s'.users i).username = (s.users i).username := congrArg (fun x => x.2.2) (h.user i)

lemma group_inUse (h : SameIds s s') (j : Fin authMaxGroups) :
    (s'.groups j).inUse = (s.groups j).inUse := congrArg Prod.fst (h.group j)

lemma group_gid (h : SameIds s s') (j : Fin authMaxGroups) : (s'.groups j).gid = (s.groups j).gid :=
  congrArg (fun x => x.2.1) (h.group j)

lemma group_name (h : SameIds s s') (j : Fin authMaxGroups) :
    (s'.groups j).name = (s.groups j).name := congrArg (fun x => x.2.2) (h.group j)

end SameIds

namespace SameAccounts

lemma refl (s : Auth) : SameAccounts s s := ⟨fun _ => rfl, fun _ => rfl, rfl, rfl, rfl⟩

lemma trans (h : SameAccounts s s') (h' : SameAccounts s' s'') : SameAccounts s s'' :=
  ⟨fun i => (h'.ident i).trans (h.ident i), fun i => (h'.memberships i).trans (h.memberships i),
    h'.groups.trans h.groups, h'.userCount.trans h.userCount, h'.groupCount.trans h.groupCount⟩

lemma sameIds (h : SameAccounts s s') : SameIds s s' :=
  ⟨h.ident, fun j => by rw [h.groups], h.userCount, h.groupCount⟩

lemma edit {i : Fin authMaxUsers} {u : User} (husers : s'.users = Function.update s.users i u)
    (hident : u.ident = (s.users i).ident) (hmem : u.groups = (s.users i).groups)
    (hgroups : s'.groups = s.groups) (huserCount : s'.userCount = s.userCount)
    (hgroupCount : s'.groupCount = s.groupCount) : SameAccounts s s' := by
  refine ⟨fun k => ?_, fun k => ?_, hgroups, huserCount, hgroupCount⟩
  · rw [husers]
    by_cases hk : k = i
    · rw [hk, Function.update_self, hident]
    · rw [Function.update_of_ne hk]
  · rw [husers]
    by_cases hk : k = i
    · rw [hk, Function.update_self, hmem]
    · rw [Function.update_of_ne hk]

end SameAccounts

lemma authVerifyPassword_same (s : Auth) (username password : Option CString) :
    SameAccounts s (s.authVerifyPassword username password).2 := by
  unfold authVerifyPassword
  rcases username with - | username
  · exact .refl s
  rcases password with - | password
  · exact .refl s
  dsimp only
  cases s.authGetUserByName username with
  | none => exact .refl s
  | some i =>
    dsimp only
    split_ifs
    · exact .refl s
    · exact .edit (i := i) rfl rfl rfl rfl rfl rfl
    · exact .refl s

lemma authLogin_same (s : Auth) (username password : Option CString) :
    SameAccounts s (s.authLogin username password).2.2 := by
  unfold authLogin
  by_cases hinit : (!s.initialized) = true
  · rw [if_pos hinit]
    exact .refl s
  rw [if_neg hinit]
  rcases username with - | username
  · exact .refl s
  rcases password with - | password
  · exact .refl s
  have hverify := authVerifyPassword_same s (some username) (some password)
  dsimp only
  generalize s.authVerifyPassword (some username) (some password) = r at hverify ⊢
  split_ifs
  · exact hverify
  cases r.2.authGetUserByName username with
  | none => exact hverify
  | some i =>
    dsimp only
    split_ifs
    · exact hverify
    cases r.2.findFreeSessionSlot with
    | none => exact hverify
    | some j => exact hverify.trans (.edit (i := i) rfl rfl rfl rfl rfl rfl)

lemma authLogout_same (s : Auth) (session : Option (Fin authMaxSessions)) :
    SameAccounts s (s.authLogout session).2 := by
  unfold authLogout
  cases session with
  | none => exact .refl s
  | some i =>
    dsimp only
    by_cases hused : (!(s.sessions i).inUse) = true
    · rw [if_pos hused]
      exact .refl s
    · rw [if_neg hused]
      exact ⟨fun _ => rfl, fun _ => rfl, rfl, rfl, rfl⟩

lemma authSetPassword_same (s : Auth) (uid : UInt32) (password : Option CString) :
    SameAccounts s (s.authSetPassword uid password).2 := by
  unfold authSetPassword
  cases password with
  | none => exact .refl s
  | some password =>
    dsimp only
    split_ifs
    · exact .refl s
    cases s.authGetUser uid with
    | none => exact .refl s
    | some i => exact .edit (i := i) rfl rfl rfl rfl rfl rfl

lemma authSetUserFlags_same (s : Auth) (uid flags : UInt32) : SameAccounts s (s.authSetUserFlags uid flags).2 := by
  unfold authSetUserFlags
  cases s.authGetUser uid with
  | none => exact .refl s
  | some i => exact .edit (i := i) rfl rfl rfl rfl rfl rfl

lemma authLockUser_same (s : Auth) (uid : UInt32) : SameAccounts s (s.authLockUser uid).2 := by
  unfold authLockUser
  cases s.authGetUser uid with
  | none => exact .refl s
  | some i => exact .edit (i := i) rfl rfl rfl rfl rfl rfl

lemma authUnlockUser_same (s : Auth) (uid : UInt32) : SameAccounts s (s.authUnlockUser uid).2 := by
  unfold authUnlockUser
  cases s.authGetUser uid with
  | none => exact .refl s
  | some i => exact .edit (i := i) rfl rfl rfl rfl rfl rfl

lemma SameIds.regroup {i : Fin authMaxUsers} {j : Fin authMaxGroups} {u : User} {g : UserGroup}
    (hu : u.ident = (s.users i).ident) (hg : g.ident = (s.groups j).ident) :
    SameIds s ((s.setGroup j g).setUser i u) := by
  refine ⟨fun k => ?_, fun k => ?_, rfl, rfl⟩
  · change (Function.update s.users i u k).ident = _
    by_cases hk : k = i
    · rw [hk, Function.update_self, hu]
    · rw [Function.update_of_ne hk]
  · change (Function.update s.groups j g k).ident = _
    by_cases hk : k = j
    · rw [hk, Function.update_self, hg]
    · rw [Function.update_of_ne hk]

/-- **`auth_add_to_group`** refuses without a change, finds the user a member already, or enters each in
the other's list. -/
lemma authAddToGroup_cases (s : Auth) (uid gid : UInt32) : (s.authAddToGroup uid gid).2 = s ∧
        ((s.authAddToGroup uid gid).1 = authOk → s.authIsMember uid gid = true) ∨
      ∃ i j, s.authGetUser uid = some i ∧ s.authGetGroup gid = some j ∧ s.authIsMember uid gid = false ∧
        s.authAddToGroup uid gid = (authOk,
          (s.setGroup j { s.groups j with members := (s.groups j).members ++ [uid] }).setUser i
            { s.users i with groups := (s.users i).groups ++ [gid] }) := by
  unfold authAddToGroup
  cases huser : s.authGetUser uid with
  | none => exact .inl ⟨rfl, fun h => absurd h (show authErrNoent ≠ authOk by decide)⟩
  | some i =>
    dsimp only
    cases hgroup : s.authGetGroup gid with
    | none => exact .inl ⟨rfl, fun h => absurd h (show authErrNoent ≠ authOk by decide)⟩
    | some j =>
      dsimp only
      by_cases hmember : s.authIsMember uid gid = true
      · rw [if_pos hmember]
        exact .inl ⟨rfl, fun _ => hmember⟩
      rw [if_neg hmember]
      by_cases hfull : authMaxGroupMembers ≤ (s.groups j).members.length
      · rw [if_pos hfull]
        exact .inl ⟨rfl, fun h => absurd h (show authErrMaxusers ≠ authOk by decide)⟩
      rw [if_neg hfull]
      by_cases hmany : authMaxGroups ≤ (s.users i).groups.length
      · rw [if_pos hmany]
        refine .inl ⟨?_, fun h => absurd h (show authErrMaxgroups ≠ authOk by decide)⟩
        dsimp only
        rw [List.dropLast_concat]
        change { s with groups := Function.update s.groups j (s.groups j) } = s
        rw [Function.update_eq_self]
      · rw [if_neg hmany]
        exact .inr ⟨i, j, rfl, rfl, by simpa using hmember, rfl⟩

/-- **`auth_remove_from_group`** takes each off the other's list, if there are both. -/
lemma authRemoveFromGroup_cases (s : Auth) (uid gid : UInt32) : (s.authRemoveFromGroup uid gid = (authErrNoent, s) ∧
        (s.authGetUser uid = none ∨ s.authGetGroup gid = none)) ∨
      ∃ i j, s.authGetUser uid = some i ∧ s.authGetGroup gid = some j ∧ s.authRemoveFromGroup uid gid = (authOk,
          (s.setGroup j { s.groups j with members := (s.groups j).members.erase uid }).setUser i
            { s.users i with groups := (s.users i).groups.erase gid }) := by
  unfold authRemoveFromGroup
  cases huser : s.authGetUser uid with
  | none => exact .inl ⟨rfl, .inl rfl⟩
  | some i =>
    cases hgroup : s.authGetGroup gid with
    | none => exact .inl ⟨rfl, .inr rfl⟩
    | some j => exact .inr ⟨i, j, rfl, rfl, rfl⟩

lemma authAddToGroup_sameIds (s : Auth) (uid gid : UInt32) : SameIds s (s.authAddToGroup uid gid).2 := by
  obtain ⟨hsame, -⟩ | ⟨i, j, -, -, -, heq⟩ := s.authAddToGroup_cases uid gid
  · rw [hsame]
    exact .refl s
  · rw [heq]
    exact .regroup rfl rfl

lemma authRemoveFromGroup_sameIds (s : Auth) (uid gid : UInt32) : SameIds s (s.authRemoveFromGroup uid gid).2 := by
  obtain ⟨heq, -⟩ | ⟨i, j, -, -, heq⟩ := s.authRemoveFromGroup_cases uid gid
  · rw [heq]
    exact .refl s
  · rw [heq]
    exact .regroup rfl rfl

lemma logoutUser_same (s : Auth) (uid : UInt32) : SameAccounts s (s.logoutUser uid) := by
  refine SlotTable.foldl_invariant (J := SameAccounts s) (fun t i ht => ?_) (.refl s)
  split_ifs
  · exact ht.trans (authLogout_same t (some i))
  · exact ht

lemma removeFromGroups_sameIds (s : Auth) (uid : UInt32) : SameIds s (s.removeFromGroups uid) := by
  refine SlotTable.foldl_invariant (J := SameIds s) (fun t i ht => ?_) (.refl s)
  split_ifs
  · exact ht.trans (authRemoveFromGroup_sameIds t uid _)
  · exact ht

/-! ## The invariant -/

/-- **Identities are unique.** -/
structure Unique (s : Auth) : Prop where
  uid : ∀ i j, (s.users i).inUse = true → (s.users j).inUse = true → (s.users i).uid = (s.users j).uid → i = j
  username : ∀ i j, (s.users i).inUse = true → (s.users j).inUse = true →
    (s.users i).username = (s.users j).username → i = j
  gid : ∀ i j, (s.groups i).inUse = true → (s.groups j).inUse = true → (s.groups i).gid = (s.groups j).gid → i = j
  name : ∀ i j, (s.groups i).inUse = true → (s.groups j).inUse = true → (s.groups i).name = (s.groups j).name → i = j
  userCount : s.userCount.toNat = (Finset.univ.filter fun i => (s.users i).inUse = true).card
  groupCount : s.groupCount.toNat = (Finset.univ.filter fun i => (s.groups i).inUse = true).card
  lookup : ∀ i, (s.users i).inUse = true →
    s.authGetUser (s.users i).uid = some i ∧ s.authGetUserByName (s.users i).username = some i

structure Identities (s : Auth) : Prop where
  uid : SlotTable.Distinct User.inUse User.uid s.users
  username : SlotTable.Distinct User.inUse User.username s.users
  gid : SlotTable.Distinct UserGroup.inUse UserGroup.gid s.groups
  name : SlotTable.Distinct UserGroup.inUse UserGroup.name s.groups
  userCount : s.userCount.toNat = SlotTable.count User.inUse s.users
  groupCount : s.groupCount.toNat = SlotTable.count UserGroup.inUse s.groups

/-- A user can be entered under a name. -/
def CanAddUser (s : Auth) (username : CString) : Prop :=
  username.1.length ≠ 0 ∧ username.1.length < authUsernameMax ∧
    s.authGetUserByName username = none ∧ s.findFreeUserSlot ≠ none

/-- A group can be entered under a name. -/
def CanAddGroup (s : Auth) (name : CString) : Prop :=
  name.1.length ≠ 0 ∧ name.1.length < authGroupNameMax ∧ s.authGetGroupByName name = none ∧ s.findFreeGroupSlot ≠ none

/-- An id that is chosen automatically is not in use. -/
def AutomaticFresh (s : Auth) : AuthCall → Prop
  | .createUser (some username) (some _) uid =>
    uid = authIdInvalid → s.CanAddUser username → s.authGetUser s.nextUid = none
  | .createGroup (some name) gid =>
    gid = authIdInvalid → s.CanAddGroup name → s.authGetGroup s.nextGid = none
  | _ => True

namespace Identities

lemma unique (h : s.Identities) : s.Unique where
  uid _ _ hi hj hsame := h.uid hi hj hsame
  username _ _ hi hj hsame := h.username hi hj hsame
  gid _ _ hi hj hsame := h.gid hi hj hsame
  name _ _ hi hj hsame := h.name hi hj hsame
  userCount := h.userCount
  groupCount := h.groupCount
  lookup _ hi := ⟨h.uid.find_eq hi rfl, h.username.find_eq hi rfl⟩

lemma congr (h : s.Identities) (hsame : SameIds s s') : s'.Identities where
  uid := h.uid.mono fun i hi => ⟨(hsame.user_inUse i).symm.trans hi, hsame.user_uid i⟩
  username := h.username.mono fun i hi => ⟨(hsame.user_inUse i).symm.trans hi, hsame.user_username i⟩
  gid := h.gid.mono fun j hj => ⟨(hsame.group_inUse j).symm.trans hj, hsame.group_gid j⟩
  name := h.name.mono fun j hj => ⟨(hsame.group_inUse j).symm.trans hj, hsame.group_name j⟩
  userCount := by rw [hsame.userCount, h.userCount, SlotTable.count_congr hsame.user_inUse]
  groupCount := by rw [hsame.groupCount, h.groupCount, SlotTable.count_congr hsame.group_inUse]

lemma clear (s : Auth) : s.clear.Identities where
  uid _ _ hi := Bool.noConfusion hi
  username _ _ hi := Bool.noConfusion hi
  gid _ _ hi := Bool.noConfusion hi
  name _ _ hi := Bool.noConfusion hi
  userCount := (SlotTable.count_eq_zero fun _ => rfl).symm
  groupCount := (SlotTable.count_eq_zero fun _ => rfl).symm

lemma addUser (h : s.Identities) {i : Fin authMaxUsers} (hfree : (s.users i).inUse = false)
    (hlen : username.1.length < authUsernameMax) (hname : s.authGetUserByName username = none)
    (huid : s.authGetUser (if uid ≠ authIdInvalid then uid else s.nextUid) = none) :
    (s.addUser i username password uid).Identities where
  uid := h.uid.put fun _ k _ hk => SlotTable.ne_of_find_eq_none huid hk
  username := h.username.put fun _ k _ hk => by
    change (s.users k).username ≠ username.truncate (authUsernameMax - 1)
    rw [CString.truncate_of_le (Nat.le_sub_one_of_lt hlen)]
    exact SlotTable.ne_of_find_eq_none hname hk
  gid := h.gid
  name := h.name
  userCount := SlotTable.counter_take (by decide) h.userCount hfree rfl
  groupCount := h.groupCount

lemma addGroup (h : s.Identities) {j : Fin authMaxGroups} {name : CString}
    (hfree : (s.groups j).inUse = false) (hlen : name.1.length < authGroupNameMax)
    (hname : s.authGetGroupByName name = none)
    (hgid : s.authGetGroup (if gid ≠ authIdInvalid then gid else s.nextGid) = none) :
    (s.addGroup j name gid).Identities where
  uid := h.uid
  username := h.username
  gid := h.gid.put fun _ k _ hk => SlotTable.ne_of_find_eq_none hgid hk
  name := h.name.put fun _ k _ hk => by
    change (s.groups k).name ≠ name.truncate (authGroupNameMax - 1)
    rw [CString.truncate_of_le (Nat.le_sub_one_of_lt hlen)]
    exact SlotTable.ne_of_find_eq_none hname hk
  userCount := h.userCount
  groupCount := SlotTable.counter_take (by decide) h.groupCount hfree rfl

lemma dropUser (h : s.Identities) {i : Fin authMaxUsers} (hi : (s.users i).inUse = true) :
    Identities { s.setUser i {} with userCount := s.userCount - 1 } where
  uid := h.uid.put fun hlive => Bool.noConfusion hlive
  username := h.username.put fun hlive => Bool.noConfusion hlive
  gid := h.gid
  name := h.name
  userCount := SlotTable.counter_free h.userCount hi rfl
  groupCount := h.groupCount

lemma dropGroup (h : s.Identities) {j : Fin authMaxGroups} (hj : (s.groups j).inUse = true) :
    Identities { s.setGroup j {} with groupCount := s.groupCount - 1 } where
  uid := h.uid
  username := h.username
  gid := h.gid.put fun hlive => Bool.noConfusion hlive
  name := h.name.put fun hlive => Bool.noConfusion hlive
  userCount := h.userCount
  groupCount := SlotTable.counter_free h.groupCount hj rfl

end Identities

/-! ## The calls -/

/-- **`auth_create_user`** refuses without a change, or enters a user under a new name, and under a new
id if the id is explicit. -/
lemma authCreateUser_cases (s : Auth) (username password : Option CString) (uid : UInt32) :
    (s.authCreateUser username password uid).2 = s ∧ (s.authCreateUser username password uid).1 ≠ authOk ∨
      ∃ name word i, username = some name ∧ password = some word ∧ s.CanAddUser name ∧
        s.findFreeUserSlot = some i ∧ (uid ≠ authIdInvalid → s.authGetUser uid = none) ∧
        s.authCreateUser username password uid = (authOk, s.addUser i name word uid) := by
  unfold authCreateUser
  by_cases hinit : (!s.initialized) = true
  · rw [if_pos hinit]
    exact .inl ⟨rfl, show authErrInval ≠ authOk by decide⟩
  rw [if_neg hinit]
  rcases username with - | name
  · exact .inl ⟨rfl, show authErrInval ≠ authOk by decide⟩
  rcases password with - | word
  · exact .inl ⟨rfl, show authErrInval ≠ authOk by decide⟩
  dsimp only
  by_cases hlen : name.1.length = 0 ∨ authUsernameMax ≤ name.1.length
  · rw [if_pos hlen]
    exact .inl ⟨rfl, show authErrInval ≠ authOk by decide⟩
  rw [if_neg hlen]
  by_cases hname : s.authGetUserByName name ≠ none
  · rw [if_pos hname]
    exact .inl ⟨rfl, show authErrExists ≠ authOk by decide⟩
  rw [if_neg hname]
  by_cases huid : uid ≠ authIdInvalid ∧ s.authGetUser uid ≠ none
  · rw [if_pos huid]
    exact .inl ⟨rfl, show authErrExists ≠ authOk by decide⟩
  rw [if_neg huid]
  cases hfree : s.findFreeUserSlot with
  | none => exact .inl ⟨rfl, show authErrMaxusers ≠ authOk by decide⟩
  | some i =>
    have hcan : s.CanAddUser name := by
      rw [not_or, Nat.not_le] at hlen
      refine ⟨hlen.1, hlen.2, not_not.mp hname, ?_⟩
      rw [hfree]
      exact Option.some_ne_none i
    exact .inr ⟨name, word, i, rfl, rfl, hcan, rfl, fun hne => by_contra fun hused => huid ⟨hne, hused⟩, rfl⟩

/-- **`auth_create_group`**, likewise. -/
lemma authCreateGroup_cases (s : Auth) (name : Option CString) (gid : UInt32) :
    (s.authCreateGroup name gid).2 = s ∧ (s.authCreateGroup name gid).1 ≠ authOk ∨
      ∃ text j, name = some text ∧ s.CanAddGroup text ∧ s.findFreeGroupSlot = some j ∧
        (gid ≠ authIdInvalid → s.authGetGroup gid = none) ∧
        s.authCreateGroup name gid = (authOk, s.addGroup j text gid) := by
  unfold authCreateGroup
  rcases name with - | text
  · exact .inl ⟨rfl, show authErrInval ≠ authOk by decide⟩
  dsimp only
  by_cases hinit : (!s.initialized) = true
  · rw [if_pos hinit]
    exact .inl ⟨rfl, show authErrInval ≠ authOk by decide⟩
  rw [if_neg hinit]
  by_cases hlen : text.1.length = 0 ∨ authGroupNameMax ≤ text.1.length
  · rw [if_pos hlen]
    exact .inl ⟨rfl, show authErrInval ≠ authOk by decide⟩
  rw [if_neg hlen]
  by_cases hname : s.authGetGroupByName text ≠ none
  · rw [if_pos hname]
    exact .inl ⟨rfl, show authErrExists ≠ authOk by decide⟩
  rw [if_neg hname]
  by_cases hgid : gid ≠ authIdInvalid ∧ s.authGetGroup gid ≠ none
  · rw [if_pos hgid]
    exact .inl ⟨rfl, show authErrExists ≠ authOk by decide⟩
  rw [if_neg hgid]
  cases hfree : s.findFreeGroupSlot with
  | none => exact .inl ⟨rfl, show authErrMaxgroups ≠ authOk by decide⟩
  | some j =>
    have hcan : s.CanAddGroup text := by
      rw [not_or, Nat.not_le] at hlen
      refine ⟨hlen.1, hlen.2, not_not.mp hname, ?_⟩
      rw [hfree]
      exact Option.some_ne_none j
    exact .inr ⟨text, j, rfl, hcan, rfl, fun hne => by_contra fun hused => hgid ⟨hne, hused⟩, rfl⟩

/-- **`auth_delete_group`** refuses without a change, or clears the group, which is not `root`. -/
lemma authDeleteGroup_cases (s : Auth) (gid : UInt32) :
    (s.authDeleteGroup gid).2 = s ∨ ∃ j, gid ≠ authGidRoot ∧ s.authGetGroup gid = some j ∧
      (s.authDeleteGroup gid).2 = { s.setGroup j {} with groupCount := s.groupCount - 1 } := by
  unfold authDeleteGroup
  split_ifs with hinit hroot
  · exact .inl rfl
  · exact .inl rfl
  cases hgroup : s.authGetGroup gid with
  | none => exact .inl rfl
  | some j => exact .inr ⟨j, hroot, rfl, rfl⟩

/-- **`auth_delete_user`** refuses without a change, or clears the user, who then has no session and is in
no group. -/
lemma authDeleteUser_cases (s : Auth) (uid : UInt32) :
    (s.authDeleteUser uid).2 = s ∨ ∃ i t, s.authGetUser uid = some i ∧ (s.logoutUser uid).removeFromGroups uid = t ∧
      (s.authDeleteUser uid).2 = { t.setUser i {} with userCount := t.userCount - 1 } := by
  unfold authDeleteUser
  split_ifs
  · exact .inl rfl
  · exact .inl rfl
  cases huser : s.authGetUser uid with
  | none => exact .inl rfl
  | some i => exact .inr ⟨i, _, rfl, rfl, rfl⟩

namespace Identities

lemma createUser (h : s.Identities) {username password : Option CString}
    (hk : s.AutomaticFresh (.createUser username password uid)) :
    (s.authCreateUser username password uid).2.Identities := by
  obtain ⟨hsame, -⟩ | ⟨name, word, i, rfl, rfl, hcan, hfree, hexplicit, heq⟩ :=
    s.authCreateUser_cases username password uid
  · rw [hsame]
    exact h
  rw [heq]
  refine h.addUser (findFreeUserSlot_some hfree) hcan.2.1 hcan.2.2.1 ?_
  by_cases huid : uid = authIdInvalid
  · rw [if_neg (not_not.mpr huid)]
    exact hk huid hcan
  · rw [if_pos huid]
    exact hexplicit huid

lemma createGroup (h : s.Identities) {name : Option CString}
    (hk : s.AutomaticFresh (.createGroup name gid)) : (s.authCreateGroup name gid).2.Identities := by
  obtain ⟨hsame, -⟩ | ⟨text, j, rfl, hcan, hfree, hexplicit, heq⟩ := s.authCreateGroup_cases name gid
  · rw [hsame]
    exact h
  rw [heq]
  refine h.addGroup (findFreeGroupSlot_some hfree) hcan.2.1 hcan.2.2.1 ?_
  by_cases hgid : gid = authIdInvalid
  · rw [if_neg (not_not.mpr hgid)]
    exact hk hgid hcan
  · rw [if_pos hgid]
    exact hexplicit hgid

lemma deleteUser (h : s.Identities) (uid : UInt32) : (s.authDeleteUser uid).2.Identities := by
  obtain hsame | ⟨i, t, huser, rfl, heq⟩ := s.authDeleteUser_cases uid
  · rw [hsame]
    exact h
  have hsame := (logoutUser_same s uid).sameIds.trans (removeFromGroups_sameIds _ uid)
  rw [heq]
  exact (h.congr hsame).dropUser ((hsame.user_inUse i).trans (authGetUser_some huser).1)

lemma deleteGroup (h : s.Identities) (gid : UInt32) : (s.authDeleteGroup gid).2.Identities := by
  obtain hsame | ⟨j, -, hgroup, heq⟩ := s.authDeleteGroup_cases gid
  · rw [hsame]
    exact h
  · rw [heq]
    exact h.dropGroup (authGetGroup_some hgroup).1

lemma defaultUser (h : s.Identities) (name : CString) (huid : uid ≠ authIdInvalid) (gid flags : UInt32)
    (homeDir : Option CString) : (s.defaultUser name uid gid flags homeDir).Identities := by
  have hcreated : (s.authCreateUser (some name) (some name) uid).2.Identities :=
    h.createUser fun hinvalid => absurd hinvalid huid
  unfold Auth.defaultUser
  dsimp only
  split_ifs
  · exact hcreated
  cases (s.authCreateUser (some name) (some name) uid).2.authGetUser uid with
  | none => exact hcreated
  | some i =>
    refine hcreated.congr (SameIds.trans ?_ (authAddToGroup_sameIds _ uid gid))
    exact SameAccounts.sameIds (.edit (i := i) rfl rfl rfl rfl rfl rfl)

/-- **`auth_init`.** -/
lemma init (hinit : s.initialized = false) : s.authInit.Identities := by
  unfold authInit
  rw [if_neg (by simp [hinit])]
  have hroot : (s.clear.authCreateGroup (some rootName) authGidRoot).2.Identities :=
    (clear s).createGroup fun hinvalid => absurd hinvalid (by decide)
  have hgroups : ((s.clear.authCreateGroup (some rootName) authGidRoot).2.authCreateGroup
      (some usersName) authGidUsers).2.Identities :=
    hroot.createGroup fun hinvalid => absurd hinvalid (by decide)
  exact (hgroups.defaultUser rootName (by decide) _ _ _).defaultUser guestName (by decide) _ _ _

end Identities

lemma authShutdown_initialized (s : Auth) : s.authShutdown.initialized = false := by
  unfold authShutdown
  split_ifs with hinit
  · simpa using hinit
  · rfl

/-- **One call.** -/
lemma Identities.call (h : s.Identities) {c : AuthCall} (hk : s.AutomaticFresh c) : (s.call c).Identities := by
  cases c with
  | createUser username password uid => exact h.createUser hk
  | deleteUser uid => exact h.deleteUser uid
  | setPassword uid password => exact h.congr (authSetPassword_same s uid password).sameIds
  | setUserFlags uid flags => exact h.congr (authSetUserFlags_same s uid flags).sameIds
  | lockUser uid => exact h.congr (authLockUser_same s uid).sameIds
  | unlockUser uid => exact h.congr (authUnlockUser_same s uid).sameIds
  | login username password => exact h.congr (authLogin_same s username password).sameIds
  | logout session => exact h.congr (authLogout_same s session).sameIds
  | setCurrentSession session => exact h.congr ⟨fun _ => rfl, fun _ => rfl, rfl, rfl⟩
  | createGroup name gid => exact h.createGroup hk
  | deleteGroup gid => exact h.deleteGroup gid
  | addToGroup uid gid => exact h.congr (authAddToGroup_sameIds s uid gid)
  | removeFromGroup uid gid => exact h.congr (authRemoveFromGroup_sameIds s uid gid)
  | restart => exact init (authShutdown_initialized s)

/-! ## Runs -/

/-- After the first `auth_init`. -/
def booted : Auth := authInit {}

def Step (s : Auth) (c : AuthCall) (s' : Auth) : Prop := s' = s.call c

/-- The steps that meet the condition. -/
def FreshStep (s : Auth) (c : AuthCall) (s' : Auth) : Prop := s.AutomaticFresh c ∧ s.Step c s'

/-- **Identities are unique**, in every run in which the automatic ids are not in use. -/
theorem unique_of_steps (calls : List AuthCall) (s : Auth) (hrun : Steps FreshStep booted calls s) : s.Unique := by
  refine Identities.unique (hrun.invariant (fun t c t' ht hstep => ?_) (Identities.init rfl))
  obtain ⟨hfresh, rfl⟩ := hstep
  exact ht.call hfresh

/-- `"a"` and `"b"`. -/
def nameA : CString := ⟨[0x61], by decide⟩

def nameB : CString := ⟨[0x62], by decide⟩

/-- One user with an automatic id, and one with an explicit id who is deleted. -/
theorem unique_of_two_users : (((booted.call (.createUser (some nameA) (some nameA) authIdInvalid)).call
      (.createUser (some nameB) (some nameB) 7)).call (.deleteUser 7)).Unique :=
  unique_of_steps
    [.createUser (some nameA) (some nameA) authIdInvalid, .createUser (some nameB) (some nameB) 7, .deleteUser 7] _
    (.cons ⟨fun _ _ => by decide, rfl⟩
      (.cons ⟨fun hinvalid => absurd hinvalid (by decide), rfl⟩ (.cons ⟨trivial, rfl⟩ (.nil _))))

/-- The id that comes next is given explicitly, and then automatically. -/
theorem automatic_uid_shared : ¬ ∀ (calls : List AuthCall) (s : Auth), Steps Step booted calls s → s.Unique := by
  intro h
  have hunique := h _ _ (.cons (c := .createUser (some nameA) (some nameA) 1001) rfl
    (.cons (c := .createUser (some nameB) (some nameB) authIdInvalid) rfl (.nil _)))
  have hsame := hunique.uid ⟨2, by decide⟩ ⟨3, by decide⟩ (by decide) (by decide) (by decide)
  exact absurd hsame (by decide)

end Auth

end AAAos
