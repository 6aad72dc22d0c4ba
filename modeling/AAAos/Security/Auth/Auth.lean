import AAAos.Lib.SlotTable
import AAAos.Security.Auth.Password

/-!
# Accounts, sessions and groups

`security/auth/auth.c`: three tables of slots, the users, the sessions and the groups, with the counters
that go with them, and the calls that create, change and delete what is in them.

A pointer into a table is an index, a null pointer is `none`.  The arrays `groups` of a user and `members`
of a group are the lists of their first `group_count` and `member_count` elements; what lies behind is never
read.  The printing is left out.
-/

namespace AAAos

/-- `AUTH_UID_INVALID` and `AUTH_GID_INVALID`: the id is chosen automatically. -/
def authIdInvalid : UInt32 := 0xFFFFFFFF

def authUidRoot : UInt32 := 0
def authUidGuest : UInt32 := 1000
def authGidRoot : UInt32 := 0
def authGidUsers : UInt32 := 100

def authMaxUsers : Nat := 64
def authMaxSessions : Nat := 32
def authMaxGroups : Nat := 32
def authMaxGroupMembers : Nat := 64
def authUsernameMax : Nat := 32
def authGroupNameMax : Nat := 32

def authUserActive : UInt32 := 1
def authUserLocked : UInt32 := 2

/-- `AUTH_USER_SYSTEM`: a system account (no login). -/
def authUserSystem : UInt32 := 4

def authUserAdmin : UInt32 := 8
def sessionFlagActive : UInt32 := 1

/-! ## The tables -/

/-- `user_t`. -/
structure User where
  uid : UInt32 := 0
  gid : UInt32 := 0
  username : CString := .empty
  passwordHash : List UInt8 := []
  homeDir : CString := .empty
  shell : CString := .empty
  flags : UInt32 := 0
  createdTime : UInt64 := 0
  lastLogin : UInt64 := 0
  failedLogins : UInt32 := 0
  groups : List UInt32 := []
  inUse : Bool := false

/-- `session_t`. -/
structure Session where
  sid : UInt32 := 0
  uid : UInt32 := 0
  startTime : UInt64 := 0
  lastActivity : UInt64 := 0
  terminal : CString := .empty
  flags : UInt32 := 0
  inUse : Bool := false

/-- `user_group_t`. -/
structure UserGroup where
  gid : UInt32 := 0
  name : CString := .empty
  members : List UInt32 := []
  inUse : Bool := false

/-- `auth_stats_t`. -/
structure AuthStats where
  totalUsers : UInt32 := 0
  activeSessions : UInt32 := 0
  totalLogins : UInt32 := 0
  failedLogins : UInt32 := 0
  totalGroups : UInt32 := 0

/-- The variables of `auth.c`. -/
structure Auth where
  users : Fin authMaxUsers → User := fun _ => {}
  userCount : UInt32 := 0
  nextUid : UInt32 := 1001
  sessions : Fin authMaxSessions → Session := fun _ => {}
  sessionCount : UInt32 := 0
  nextSid : UInt32 := 1
  groups : Fin authMaxGroups → UserGroup := fun _ => {}
  groupCount : UInt32 := 0
  nextGid : UInt32 := 101
  currentSession : Option (Fin authMaxSessions) := none
  stats : AuthStats := {}
  initialized : Bool := false
  randomState : UInt64 := 0x123456789ABCDEF0
  tick : UInt64 := 0

/-! ## Texts -/

/-- `"root"`. -/
def rootName : CString := ⟨[0x72, 0x6F, 0x6F, 0x74], by decide⟩

/-- `"guest"`. -/
def guestName : CString := ⟨[0x67, 0x75, 0x65, 0x73, 0x74], by decide⟩

/-- `"users"`. -/
def usersName : CString := ⟨[0x75, 0x73, 0x65, 0x72, 0x73], by decide⟩

/-- `"/root"`. -/
def rootHome : CString := ⟨[0x2F, 0x72, 0x6F, 0x6F, 0x74], by decide⟩

/-- `"/home/"`. -/
def homePrefix : CString := ⟨[0x2F, 0x68, 0x6F, 0x6D, 0x65, 0x2F], by decide⟩

/-- `"/bin/sh"`. -/
def defaultShell : CString := ⟨[0x2F, 0x62, 0x69, 0x6E, 0x2F, 0x73, 0x68], by decide⟩

/-- `"tty0"`. -/
def tty0 : CString := ⟨[0x74, 0x74, 0x79, 0x30], by decide⟩

namespace Auth

variable (s : Auth)

/-! ## Searching -/

/-- `auth_get_user`. -/
def authGetUser (uid : UInt32) : Option (Fin authMaxUsers) :=
  SlotTable.find s.users fun u => u.inUse && u.uid = uid

/-- `auth_get_user_by_name`. -/
def authGetUserByName (username : CString) : Option (Fin authMaxUsers) :=
  SlotTable.find s.users fun u => u.inUse && u.username = username

/-- `auth_get_group`. -/
def authGetGroup (gid : UInt32) : Option (Fin authMaxGroups) :=
  SlotTable.find s.groups fun g => g.inUse && g.gid = gid

/-- `auth_get_group_by_name`. -/
def authGetGroupByName (name : CString) : Option (Fin authMaxGroups) :=
  SlotTable.find s.groups fun g => g.inUse && g.name = name

/-- `find_free_user_slot`. -/
def findFreeUserSlot : Option (Fin authMaxUsers) := SlotTable.find s.users fun u => !u.inUse

/-- `find_free_session_slot`. -/
def findFreeSessionSlot : Option (Fin authMaxSessions) := SlotTable.find s.sessions fun x => !x.inUse

/-- `find_free_group_slot`. -/
def findFreeGroupSlot : Option (Fin authMaxGroups) := SlotTable.find s.groups fun g => !g.inUse

/-! ## Writing -/

def setUser (i : Fin authMaxUsers) (u : User) : Auth := { s with users := Function.update s.users i u }

def setSession (i : Fin authMaxSessions) (x : Session) : Auth :=
  { s with sessions := Function.update s.sessions i x }

def setGroup (i : Fin authMaxGroups) (g : UserGroup) : Auth :=
  { s with groups := Function.update s.groups i g }

/-! ## Sessions -/

/-- `auth_verify_password`. -/
def authVerifyPassword (username password : Option CString) : Int × Auth :=
  match username, password with
  | some username, some password =>
    match s.authGetUserByName username with
    | none => (authErrNoent, s)
    | some i =>
      if (s.users i).flags &&& authUserLocked ≠ 0 then (authErrLocked, s)
      else
        let result := authCheckHash password (s.users i).passwordHash
        if result ≠ authOk then
          (result, { s.setUser i { s.users i with failedLogins := (s.users i).failedLogins + 1 } with
            stats := { s.stats with failedLogins := s.stats.failedLogins + 1 } })
        else (result, s)
  | _, _ => (authErrInval, s)

/-- The session that `auth_login` starts. -/
def newSession (uid : UInt32) : Session where
  sid := s.nextSid
  uid := uid
  startTime := s.tick + 1
  lastActivity := s.tick + 1
  terminal := tty0
  flags := sessionFlagActive
  inUse := true

/-- The session is entered in slot `j` for the user in slot `i`. -/
def startSession (i : Fin authMaxUsers) (j : Fin authMaxSessions) : Auth :=
  { (s.setSession j (s.newSession (s.users i).uid)).setUser i
      { s.users i with lastLogin := s.tick + 1, failedLogins := 0 } with
    nextSid := s.nextSid + 1
    tick := s.tick + 1
    sessionCount := s.sessionCount + 1
    stats := { s.stats with
      activeSessions := s.stats.activeSessions + 1
      totalLogins := s.stats.totalLogins + 1 } }

/-- `auth_login`, with a pointer for the session: what it is set to, if it is set. -/
def authLogin (username password : Option CString) :
    Int × Option (Fin authMaxSessions) × Auth :=
  if !s.initialized then (authErrInval, none, s)
  else
    match username, password with
    | some username, some password =>
      let r := s.authVerifyPassword (some username) (some password)
      if r.1 ≠ authOk then (r.1, none, r.2)
      else
        let s := r.2
        match s.authGetUserByName username with
        | none => (authErrNoent, none, s)
        | some i =>
          if (s.users i).flags &&& authUserActive = 0 then (authErrPerm, none, s)
          else
            match s.findFreeSessionSlot with
            | none => (authErrMaxsessions, none, s)
            | some j => (authOk, some j, s.startSession i j)
    | _, _ => (authErrInval, none, s)

/-- A session is cleared. -/
def endSession (i : Fin authMaxSessions) : Auth :=
  { s.setSession i {} with
    currentSession := if s.currentSession = some i then none else s.currentSession
    sessionCount := s.sessionCount - 1
    stats := { s.stats with activeSessions := s.stats.activeSessions - 1 } }

/-- `auth_logout`. -/
def authLogout (session : Option (Fin authMaxSessions)) : Int × Auth :=
  match session with
  | none => (authErrInval, s)
  | some i =>
    if !(s.sessions i).inUse then (authErrInval, s) else (authOk, s.endSession i)

/-- `auth_set_current_session`. -/
def authSetCurrentSession (session : Option (Fin authMaxSessions)) : Auth :=
  { s with currentSession := session }

/-! ## Groups -/

/-- A group is entered in a slot. -/
def addGroup (i : Fin authMaxGroups) (name : CString) (gid : UInt32) : Auth :=
  { s.setGroup i
      { gid := if gid ≠ authIdInvalid then gid else s.nextGid
        name := name.truncate (authGroupNameMax - 1)
        inUse := true } with
    nextGid := if gid ≠ authIdInvalid then s.nextGid else s.nextGid + 1
    groupCount := s.groupCount + 1
    stats := { s.stats with totalGroups := s.stats.totalGroups + 1 } }

/-- `auth_create_group`. -/
def authCreateGroup (name : Option CString) (gid : UInt32) : Int × Auth :=
  match name with
  | none => (authErrInval, s)
  | some name =>
    if !s.initialized then (authErrInval, s)
    else if name.1.length = 0 ∨ authGroupNameMax ≤ name.1.length then (authErrInval, s)
    else if s.authGetGroupByName name ≠ none then (authErrExists, s)
    else if gid ≠ authIdInvalid ∧ s.authGetGroup gid ≠ none then (authErrExists, s)
    else
      match s.findFreeGroupSlot with
      | none => (authErrMaxgroups, s)
      | some i => (authOk, s.addGroup i name gid)

/-- `auth_delete_group`. -/
def authDeleteGroup (gid : UInt32) : Int × Auth :=
  if !s.initialized then (authErrInval, s)
  else if gid = authGidRoot then (authErrPerm, s)
  else
    match s.authGetGroup gid with
    | none => (authErrNoent, s)
    | some i => (authOk, { s.setGroup i {} with groupCount := s.groupCount - 1 })

/-- `auth_is_member`. -/
def authIsMember (uid gid : UInt32) : Bool :=
  match s.authGetUser uid with
  | none => false
  | some i => (s.users i).gid = gid || gid ∈ (s.users i).groups

/-- `auth_add_to_group`.  The id is taken off the members again if the user's list is full. -/
def authAddToGroup (uid gid : UInt32) : Int × Auth :=
  match s.authGetUser uid with
  | none => (authErrNoent, s)
  | some i =>
    match s.authGetGroup gid with
    | none => (authErrNoent, s)
    | some j =>
      if s.authIsMember uid gid then (authOk, s)
      else if authMaxGroupMembers ≤ (s.groups j).members.length then (authErrMaxusers, s)
      else
        let g := { s.groups j with members := (s.groups j).members ++ [uid] }
        if authMaxGroups ≤ (s.users i).groups.length then
          (authErrMaxgroups, s.setGroup j { g with members := g.members.dropLast })
        else
          (authOk, (s.setGroup j g).setUser i
            { s.users i with groups := (s.users i).groups ++ [gid] })

/-- `auth_remove_from_group`. -/
def authRemoveFromGroup (uid gid : UInt32) : Int × Auth :=
  match s.authGetUser uid, s.authGetGroup gid with
  | some i, some j =>
    (authOk, (s.setGroup j { s.groups j with members := (s.groups j).members.erase uid }).setUser i
      { s.users i with groups := (s.users i).groups.erase gid })
  | _, _ => (authErrNoent, s)

/-! ## Users -/

/-- The user that `auth_create_user` enters. -/
def newUser (uid : UInt32) (username password : CString) : User where
  uid := uid
  gid := authGidUsers
  username := username.truncate (authUsernameMax - 1)
  passwordHash := (authHashPassword password s.randomState).1
  homeDir := if uid = authUidRoot then rootHome else homePrefix.append username
  shell := defaultShell
  flags := authUserActive
  createdTime := s.tick + 1
  inUse := true

/-- A user is entered in a slot. -/
def addUser (i : Fin authMaxUsers) (username password : CString) (uid : UInt32) : Auth :=
  { s.setUser i (s.newUser (if uid ≠ authIdInvalid then uid else s.nextUid) username password) with
    nextUid := if uid ≠ authIdInvalid then s.nextUid else s.nextUid + 1
    randomState := (authHashPassword password s.randomState).2
    tick := s.tick + 1
    userCount := s.userCount + 1
    stats := { s.stats with totalUsers := s.stats.totalUsers + 1 } }

/-- `auth_create_user`. -/
def authCreateUser (username password : Option CString) (uid : UInt32) : Int × Auth :=
  if !s.initialized then (authErrInval, s)
  else
    match username, password with
    | some username, some password =>
      if username.1.length = 0 ∨ authUsernameMax ≤ username.1.length then (authErrInval, s)
      else if s.authGetUserByName username ≠ none then (authErrExists, s)
      else if uid ≠ authIdInvalid ∧ s.authGetUser uid ≠ none then (authErrExists, s)
      else
        match s.findFreeUserSlot with
        | none => (authErrMaxusers, s)
        | some i => (authOk, s.addUser i username password uid)
    | _, _ => (authErrInval, s)

/-- The sessions of a user are ended. -/
def logoutUser (uid : UInt32) : Auth :=
  (List.finRange authMaxSessions).foldl (fun s i =>
    if (s.sessions i).inUse && (s.sessions i).uid = uid then (s.authLogout (some i)).2 else s) s

/-- A user is removed from all groups. -/
def removeFromGroups (uid : UInt32) : Auth :=
  (List.finRange authMaxGroups).foldl (fun s i =>
    if (s.groups i).inUse then (s.authRemoveFromGroup uid (s.groups i).gid).2 else s) s

/-- `auth_delete_user`. -/
def authDeleteUser (uid : UInt32) : Int × Auth :=
  if !s.initialized then (authErrInval, s)
  else if uid = authUidRoot then (authErrPerm, s)
  else
    match s.authGetUser uid with
    | none => (authErrNoent, s)
    | some i =>
      let s := (s.logoutUser uid).removeFromGroups uid
      (authOk, { s.setUser i {} with userCount := s.userCount - 1 })

/-- `auth_set_password`. -/
def authSetPassword (uid : UInt32) (password : Option CString) : Int × Auth :=
  match password with
  | none => (authErrInval, s)
  | some password =>
    if !s.initialized then (authErrInval, s)
    else
      match s.authGetUser uid with
      | none => (authErrNoent, s)
      | some i =>
        let r := authHashPassword password s.randomState
        (authOk, { s.setUser i { s.users i with passwordHash := r.1 } with randomState := r.2 })

/-- `auth_set_user_flags`. -/
def authSetUserFlags (uid flags : UInt32) : Int × Auth :=
  match s.authGetUser uid with
  | none => (authErrNoent, s)
  | some i => (authOk, s.setUser i { s.users i with flags := flags })

/-- `auth_lock_user`. -/
def authLockUser (uid : UInt32) : Int × Auth :=
  match s.authGetUser uid with
  | none => (authErrNoent, s)
  | some i => (authOk, s.setUser i { s.users i with flags := (s.users i).flags ||| authUserLocked })

/-- `auth_unlock_user`. -/
def authUnlockUser (uid : UInt32) : Int × Auth :=
  match s.authGetUser uid with
  | none => (authErrNoent, s)
  | some i =>
    (authOk, s.setUser i
      { s.users i with flags := (s.users i).flags &&& ~~~authUserLocked, failedLogins := 0 })

/-! ## Starting and stopping -/

/-- What `auth_init` clears. -/
def clear : Auth :=
  { s with
    users := fun _ => {}
    sessions := fun _ => {}
    groups := fun _ => {}
    stats := {}
    userCount := 0
    sessionCount := 0
    groupCount := 0
    currentSession := none
    randomState := 0x1234567890ABCDEF
    initialized := true }

/-- One of the default users: its group and flags, and it is added to the group. -/
def defaultUser (name : CString) (uid gid flags : UInt32) (homeDir : Option CString) : Auth :=
  let r := s.authCreateUser (some name) (some name) uid
  let s := r.2
  if r.1 ≠ authOk then s
  else
    match s.authGetUser uid with
    | none => s
    | some i =>
      let u := s.users i
      ((s.setUser i { u with gid := gid, flags := flags, homeDir := homeDir.getD u.homeDir
        }).authAddToGroup uid gid).2

/-- `auth_init`, which returns `AUTH_OK` in any case. -/
def authInit : Auth :=
  if s.initialized then s
  else
    let s := s.clear
    let s := (s.authCreateGroup (some rootName) authGidRoot).2
    let s := (s.authCreateGroup (some usersName) authGidUsers).2
    let s := s.defaultUser rootName authUidRoot authGidRoot (authUserActive ||| authUserAdmin)
      (some rootHome)
    s.defaultUser guestName authUidGuest authGidUsers authUserActive none

/-- `auth_shutdown`. -/
def authShutdown : Auth :=
  if !s.initialized then s
  else
    { (List.finRange authMaxSessions).foldl (fun s i =>
        if (s.sessions i).inUse then (s.authLogout (some i)).2 else s) s with
      users := fun _ => {}
      sessions := fun _ => {}
      groups := fun _ => {}
      initialized := false }

end Auth

end AAAos
