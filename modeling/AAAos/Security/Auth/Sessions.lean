import AAAos.Security.Auth.Identities

/-!
# Who is logged in

A session is entered in a free slot, under an id from a counter that starts at one and is never set back.

**What goes wrong.**  `auth_login` looks at two of the flags of an account, that it is active and that it is
not locked.  It does not look at `AUTH_USER_SYSTEM`, which stands for no login (`system_login`).

**What is proved.**  In every run from `auth_init` with fewer than `2 ^ 32` logins in which nobody gives the
password of a system account that is active and not locked, the sessions in use have different ids and
belong to users in use, their number and the current session are right, every session was started for an
account that was active, not locked and not a system account, with a password that its latest hash accepts,
and a refused login changes only the counters of failed logins (`authenticated_of_steps`).
-/

namespace AAAos

namespace Auth

variable {s s' s'' : Auth} {uid gid : UInt32} {username password : Option CString}

/-! ## What a call leaves alone -/

/-- The sessions are the same. -/
structure SameSessions (s s' : Auth) : Prop where
  sessions : s'.sessions = s.sessions
  sessionCount : s'.sessionCount = s.sessionCount
  currentSession : s'.currentSession = s.currentSession
  nextSid : s'.nextSid = s.nextSid

/-- And so are the users and their password hashes. -/
structure Quiet (s s' : Auth) : Prop extends SameSessions s s' where
  inUse : ∀ i, (s'.users i).inUse = (s.users i).inUse
  uid : ∀ i, (s'.users i).uid = (s.users i).uid
  passwordHash : ∀ i, (s'.users i).passwordHash = (s.users i).passwordHash

lemma SameSessions.refl (s : Auth) : SameSessions s s := ⟨rfl, rfl, rfl, rfl⟩

lemma SameSessions.trans (h : SameSessions s s') (h' : SameSessions s' s'') : SameSessions s s'' :=
  ⟨h'.sessions.trans h.sessions, h'.sessionCount.trans h.sessionCount,
    h'.currentSession.trans h.currentSession, h'.nextSid.trans h.nextSid⟩

namespace Quiet

lemma refl (s : Auth) : Quiet s s := ⟨.refl s, fun _ => rfl, fun _ => rfl, fun _ => rfl⟩

lemma trans (h : Quiet s s') (h' : Quiet s' s'') : Quiet s s'' :=
  ⟨h.toSameSessions.trans h'.toSameSessions, fun i => (h'.inUse i).trans (h.inUse i),
    fun i => (h'.uid i).trans (h.uid i), fun i => (h'.passwordHash i).trans (h.passwordHash i)⟩

lemma of_users (h : SameSessions s s') (husers : s'.users = s.users) : Quiet s s' :=
  ⟨h, fun i => by rw [husers], fun i => by rw [husers], fun i => by rw [husers]⟩

lemma edit {i : Fin authMaxUsers} {u : User} (husers : s'.users = Function.update s.users i u)
    (hsame : (u.inUse, u.uid, u.passwordHash) = ((s.users i).inUse, (s.users i).uid, (s.users i).passwordHash))
    (h : SameSessions s s') : Quiet s s' := by
  obtain ⟨hin, hrest⟩ := Prod.mk.inj hsame
  obtain ⟨huid, hhash⟩ := Prod.mk.inj hrest
  refine ⟨h, fun k => ?_, fun k => ?_, fun k => ?_⟩
  all_goals
    rw [husers]
    by_cases hk : k = i
    · rw [hk, Function.update_self]
      assumption
    · rw [Function.update_of_ne hk]

end Quiet

lemma authSetUserFlags_quiet (s : Auth) (uid flags : UInt32) : Quiet s (s.authSetUserFlags uid flags).2 := by
  unfold authSetUserFlags
  cases s.authGetUser uid with
  | none => exact .refl s
  | some i => exact .edit (i := i) rfl rfl ⟨rfl, rfl, rfl, rfl⟩

lemma authLockUser_quiet (s : Auth) (uid : UInt32) : Quiet s (s.authLockUser uid).2 := by
  unfold authLockUser
  cases s.authGetUser uid with
  | none => exact .refl s
  | some i => exact .edit (i := i) rfl rfl ⟨rfl, rfl, rfl, rfl⟩

lemma authUnlockUser_quiet (s : Auth) (uid : UInt32) : Quiet s (s.authUnlockUser uid).2 := by
  unfold authUnlockUser
  cases s.authGetUser uid with
  | none => exact .refl s
  | some i => exact .edit (i := i) rfl rfl ⟨rfl, rfl, rfl, rfl⟩

lemma authCreateGroup_quiet (s : Auth) (name : Option CString) (gid : UInt32) :
    Quiet s (s.authCreateGroup name gid).2 := by
  obtain ⟨hsame, -⟩ | ⟨text, j, -, -, -, -, heq⟩ := s.authCreateGroup_cases name gid
  · rw [hsame]
    exact .refl s
  · rw [heq]
    exact .of_users ⟨rfl, rfl, rfl, rfl⟩ rfl

lemma authDeleteGroup_quiet (s : Auth) (gid : UInt32) : Quiet s (s.authDeleteGroup gid).2 := by
  obtain hsame | ⟨j, -, -, heq⟩ := s.authDeleteGroup_cases gid
  · rw [hsame]
    exact .refl s
  · rw [heq]
    exact .of_users ⟨rfl, rfl, rfl, rfl⟩ rfl

lemma authAddToGroup_quiet (s : Auth) (uid gid : UInt32) : Quiet s (s.authAddToGroup uid gid).2 := by
  obtain ⟨hsame, -⟩ | ⟨i, j, -, -, -, heq⟩ := s.authAddToGroup_cases uid gid
  · rw [hsame]
    exact .refl s
  · rw [heq]
    exact .edit (i := i) rfl rfl ⟨rfl, rfl, rfl, rfl⟩

lemma authRemoveFromGroup_quiet (s : Auth) (uid gid : UInt32) : Quiet s (s.authRemoveFromGroup uid gid).2 := by
  obtain ⟨heq, -⟩ | ⟨i, j, -, -, heq⟩ := s.authRemoveFromGroup_cases uid gid
  · rw [heq]
    exact .refl s
  · rw [heq]
    exact .edit (i := i) rfl rfl ⟨rfl, rfl, rfl, rfl⟩

lemma removeFromGroups_quiet (s : Auth) (uid : UInt32) : Quiet s (s.removeFromGroups uid) := by
  refine SlotTable.foldl_invariant (J := Quiet s) (fun t i ht => ?_) (.refl s)
  split_ifs
  · exact ht.trans (authRemoveFromGroup_quiet t uid _)
  · exact ht

lemma authCreateUser_sessions (s : Auth) (username password : Option CString) (uid : UInt32) :
    SameSessions s (s.authCreateUser username password uid).2 := by
  obtain ⟨hsame, -⟩ | ⟨name, word, i, -, -, -, -, -, heq⟩ :=
    s.authCreateUser_cases username password uid
  · rw [hsame]
    exact .refl s
  · rw [heq]
    exact ⟨rfl, rfl, rfl, rfl⟩

lemma defaultUser_sessions (s : Auth) (name : CString) (uid gid flags : UInt32)
    (homeDir : Option CString) : SameSessions s (s.defaultUser name uid gid flags homeDir) := by
  have hcreated := authCreateUser_sessions s (some name) (some name) uid
  unfold defaultUser
  dsimp only
  generalize s.authCreateUser (some name) (some name) uid = r at hcreated ⊢
  split_ifs
  · exact hcreated
  cases r.2.authGetUser uid with
  | none => exact hcreated
  | some i =>
    refine hcreated.trans (SameSessions.trans ?_ (authAddToGroup_quiet _ uid gid).toSameSessions)
    exact ⟨rfl, rfl, rfl, rfl⟩

lemma authInit_sessions (hinit : s.initialized = false) : SameSessions s.clear s.authInit := by
  unfold authInit
  rw [if_neg (by simp [hinit])]
  exact (((authCreateGroup_quiet s.clear _ _).trans
    (authCreateGroup_quiet _ _ _)).toSameSessions.trans (defaultUser_sessions _ _ _ _ _ _)).trans
      (defaultUser_sessions _ _ _ _ _ _)

lemma authLogout_of_inUse {j : Fin authMaxSessions} (hj : (s.sessions j).inUse = true) :
    s.authLogout (some j) = (authOk, s.endSession j) := by
  unfold authLogout
  dsimp only
  rw [hj]
  rfl

lemma authShutdown_nextSid (s : Auth) : s.authShutdown.nextSid = s.nextSid := by
  unfold authShutdown
  split_ifs
  · rfl
  refine SlotTable.foldl_invariant (J := fun t : Auth => t.nextSid = s.nextSid) (fun t i ht => ?_) rfl
  split_ifs with hin
  · rw [authLogout_of_inUse hin]
    exact ht
  · exact ht

/-- **`auth_set_password`** refuses without a change, or enters a new hash. -/
lemma authSetPassword_cases (s : Auth) (uid : UInt32) (password : Option CString) :
    (s.authSetPassword uid password).2 = s ∧ (s.authSetPassword uid password).1 ≠ authOk ∨
      ∃ word i, password = some word ∧ s.authGetUser uid = some i ∧ s.authSetPassword uid password = (authOk,
          { s.setUser i { s.users i with passwordHash := (authHashPassword word s.randomState).1 } with
            randomState := (authHashPassword word s.randomState).2 }) := by
  unfold authSetPassword
  rcases password with - | word
  · exact .inl ⟨rfl, show authErrInval ≠ authOk by decide⟩
  dsimp only
  by_cases hinit : (!s.initialized) = true
  · rw [if_pos hinit]
    exact .inl ⟨rfl, show authErrInval ≠ authOk by decide⟩
  rw [if_neg hinit]
  cases huser : s.authGetUser uid with
  | none => exact .inl ⟨rfl, show authErrNoent ≠ authOk by decide⟩
  | some i => exact .inr ⟨word, i, rfl, rfl, rfl⟩

/-! ## Logging in -/

/-- Nothing has changed but the counters of failed logins. -/
structure OnlyFailed (s s' : Auth) : Prop extends SameSessions s s' where
  users : ∀ i, ∃ n, s'.users i = { s.users i with failedLogins := n }
  groups : s'.groups = s.groups
  userCount : s'.userCount = s.userCount
  groupCount : s'.groupCount = s.groupCount

lemma OnlyFailed.refl (s : Auth) : OnlyFailed s s :=
  ⟨.refl s, fun i => ⟨(s.users i).failedLogins, rfl⟩, rfl, rfl, rfl⟩

lemma OnlyFailed.quiet (h : OnlyFailed s s') : Quiet s s' := by
  refine ⟨h.toSameSessions, fun i => ?_, fun i => ?_, fun i => ?_⟩
  all_goals
    obtain ⟨n, hn⟩ := h.users i
    rw [hn]

/-- **`auth_verify_password`** counts a failure, or finds an account that is not locked and accepts. -/
lemma authVerifyPassword_cases (s : Auth) (name word : CString) :
    (s.authVerifyPassword (some name) (some word)).1 ≠ authOk ∧
        OnlyFailed s (s.authVerifyPassword (some name) (some word)).2 ∨
      ∃ i, s.authGetUserByName name = some i ∧ (s.users i).flags &&& authUserLocked = 0 ∧
        authCheckHash word (s.users i).passwordHash = authOk ∧
        s.authVerifyPassword (some name) (some word) = (authOk, s) := by
  unfold authVerifyPassword
  dsimp only
  cases hname : s.authGetUserByName name with
  | none => exact .inl ⟨show authErrNoent ≠ authOk by decide, .refl s⟩
  | some i =>
    dsimp only
    by_cases hlocked : (s.users i).flags &&& authUserLocked ≠ 0
    · rw [if_pos hlocked]
      exact .inl ⟨show authErrLocked ≠ authOk by decide, .refl s⟩
    rw [if_neg hlocked]
    by_cases hhash : authCheckHash word (s.users i).passwordHash ≠ authOk
    · rw [if_pos hhash]
      refine .inl ⟨hhash, ⟨rfl, rfl, rfl, rfl⟩, fun k => ?_, rfl, rfl, rfl⟩
      by_cases hk : k = i
      · rw [hk]
        exact ⟨_, Function.update_self _ _ _⟩
      · exact ⟨_, Function.update_of_ne hk _ _⟩
    · rw [if_neg hhash]
      have haccepted := not_not.mp hhash
      exact .inr ⟨i, rfl, not_not.mp hlocked, haccepted, by rw [haccepted]⟩

/-- **`auth_login`** is refused, or starts a session for an account that is active, is not locked and
accepts. -/
lemma authLogin_cases (s : Auth) (username password : Option CString) :
    (s.authLogin username password).1 ≠ authOk ∧ OnlyFailed s (s.authLogin username password).2.2 ∨
      ∃ name word i j, username = some name ∧ password = some word ∧
        s.authGetUserByName name = some i ∧ (s.users i).flags &&& authUserLocked = 0 ∧
        (s.users i).flags &&& authUserActive ≠ 0 ∧
        authCheckHash word (s.users i).passwordHash = authOk ∧ s.findFreeSessionSlot = some j ∧
        s.authLogin username password = (authOk, some j, s.startSession i j) := by
  unfold authLogin
  by_cases hinit : (!s.initialized) = true
  · rw [if_pos hinit]
    exact .inl ⟨show authErrInval ≠ authOk by decide, .refl s⟩
  rw [if_neg hinit]
  rcases username with - | name
  · exact .inl ⟨show authErrInval ≠ authOk by decide, .refl s⟩
  rcases password with - | word
  · exact .inl ⟨show authErrInval ≠ authOk by decide, .refl s⟩
  dsimp only
  obtain ⟨hfail, honly⟩ | ⟨i, hname, hlocked, hhash, heq⟩ := s.authVerifyPassword_cases name word
  · rw [if_pos hfail]
    exact .inl ⟨hfail, honly⟩
  rw [heq, if_neg (not_not.mpr rfl)]
  dsimp only
  rw [hname]
  dsimp only
  by_cases hactive : (s.users i).flags &&& authUserActive = 0
  · rw [if_pos hactive]
    exact .inl ⟨show authErrPerm ≠ authOk by decide, .refl s⟩
  rw [if_neg hactive]
  cases hfree : s.findFreeSessionSlot with
  | none => exact .inl ⟨show authErrMaxsessions ≠ authOk by decide, .refl s⟩
  | some j => exact .inr ⟨name, word, i, j, rfl, rfl, hname, hlocked, hactive, hhash, rfl, rfl⟩

end Auth

/-! ## Runs -/

/-- A login that has succeeded: the tables before it, the hashes that were set last, and what was given. -/
structure Grant where
  before : Auth
  hash : Fin authMaxUsers → List UInt8
  username : Option CString
  password : Option CString

/-- The account may log in, the password is its password, and the session is its session. -/
def Grant.Valid (g : Grant) : Prop :=
  ∃ name word i j, g.username = some name ∧ g.password = some word ∧ g.before.authGetUserByName name = some i ∧
    (g.before.users i).flags &&& authUserActive ≠ 0 ∧
    (g.before.users i).flags &&& authUserLocked = 0 ∧
    (g.before.users i).flags &&& authUserSystem = 0 ∧
    authCheckHash word (g.hash i) = authOk ∧
    (g.before.authLogin g.username g.password).2.1 = some j ∧
    ((g.before.authLogin g.username g.password).2.2.sessions j).uid = (g.before.users i).uid

/-- The tables, the hash that was set last for each account, the number of calls of `auth_login`, and those
that succeeded. -/
structure SessionRun where
  auth : Auth
  hash : Fin authMaxUsers → List UInt8
  logins : Nat := 0
  granted : List Grant := []

namespace SessionRun

open Auth

variable {m m' : SessionRun} {s : Auth} {uid : UInt32} {username password : Option CString}

/-- The hashes after a user has been created. -/
def hashCreated (m : SessionRun) (username password : Option CString) (uid : UInt32) :
    Fin authMaxUsers → List UInt8 :=
  if (m.auth.authCreateUser username password uid).1 = authOk then
    match password, m.auth.findFreeUserSlot with
    | some word, some i => Function.update m.hash i (authHashPassword word m.auth.randomState).1
    | _, _ => m.hash
  else m.hash

/-- The hashes after a password has been set. -/
def hashSet (m : SessionRun) (uid : UInt32) (password : Option CString) :
    Fin authMaxUsers → List UInt8 :=
  if (m.auth.authSetPassword uid password).1 = authOk then
    match password, m.auth.authGetUser uid with
    | some word, some i => Function.update m.hash i (authHashPassword word m.auth.randomState).1
    | _, _ => m.hash
  else m.hash

/-- A call is made. -/
def apply (m : SessionRun) (c : AuthCall) : SessionRun :=
  match c with
  | .createUser username password uid =>
    { m with auth := m.auth.call c, hash := m.hashCreated username password uid }
  | .setPassword uid password =>
    { m with auth := m.auth.call c, hash := m.hashSet uid password }
  | .login username password =>
    { m with
      auth := m.auth.call c
      logins := m.logins + 1
      granted := if (m.auth.authLogin username password).1 = authOk then
        ⟨m.auth, m.hash, username, password⟩ :: m.granted else m.granted }
  | .restart =>
    { m with auth := m.auth.call c, hash := fun i => ((m.auth.call c).users i).passwordHash }
  | c => { m with auth := m.auth.call c }

/-- The current session is set to a session in use, or to none. -/
def Step (m : SessionRun) (c : AuthCall) (m' : SessionRun) : Prop :=
  (∀ j, c = .setCurrentSession (some j) → (m.auth.sessions j).inUse = true) ∧ m' = m.apply c

/-- Nobody gives the password of a system account that is active and not locked. -/
def Keeps (m : SessionRun) : AuthCall → Prop
  | .login (some name) (some word) => ∀ i, m.auth.authGetUserByName name = some i →
      (m.auth.users i).flags &&& authUserActive ≠ 0 → (m.auth.users i).flags &&& authUserLocked = 0 →
      authCheckHash word (m.auth.users i).passwordHash = authOk →
      (m.auth.users i).flags &&& authUserSystem = 0
  | _ => True

def KeepingStep (m : SessionRun) (c : AuthCall) (m' : SessionRun) : Prop := m.Keeps c ∧ m.Step c m'

/-- **Sessions belong to authenticated users.** -/
structure Authenticated (m : SessionRun) : Prop where
  sid : ∀ j k, (m.auth.sessions j).inUse = true → (m.auth.sessions k).inUse = true →
    (m.auth.sessions j).sid = (m.auth.sessions k).sid → j = k
  owner : ∀ j, (m.auth.sessions j).inUse = true →
    ∃ i, (m.auth.users i).inUse = true ∧ (m.auth.users i).uid = (m.auth.sessions j).uid
  sessionCount : m.auth.sessionCount.toNat = (Finset.univ.filter fun j => (m.auth.sessions j).inUse = true).card
  current : ∀ j, m.auth.currentSession = some j → (m.auth.sessions j).inUse = true
  granted : ∀ g ∈ m.granted, g.Valid
  refused : ∀ username password, (m.auth.authLogin username password).1 ≠ authOk →
    OnlyFailed m.auth (m.auth.authLogin username password).2.2

structure Sound (m : SessionRun) : Prop where
  sid : SlotTable.Distinct Session.inUse Session.sid m.auth.sessions
  started : ∀ j, (m.auth.sessions j).inUse = true → (m.auth.sessions j).sid.toNat ≤ m.granted.length
  nextSid : m.auth.nextSid = UInt32.ofNat (1 + m.granted.length)
  logins : m.granted.length ≤ m.logins
  owner : ∀ j, (m.auth.sessions j).inUse = true →
    ∃ i, (m.auth.users i).inUse = true ∧ (m.auth.users i).uid = (m.auth.sessions j).uid
  sessionCount : m.auth.sessionCount.toNat = SlotTable.count Session.inUse m.auth.sessions
  current : ∀ j, m.auth.currentSession = some j → (m.auth.sessions j).inUse = true
  hash : ∀ i, (m.auth.users i).inUse = true → (m.auth.users i).passwordHash = m.hash i
  granted : ∀ g ∈ m.granted, g.Valid

lemma Sound.authenticated (h : m.Sound) : m.Authenticated where
  sid _ _ hj hk hsame := h.sid hj hk hsame
  owner := h.owner
  sessionCount := h.sessionCount
  current := h.current
  granted := h.granted
  refused username password hrefused := by
    obtain ⟨-, honly⟩ | ⟨name, word, i, j, -, -, -, -, -, -, -, heq⟩ :=
      m.auth.authLogin_cases username password
    · exact honly
    · rw [heq] at hrefused
      exact absurd rfl hrefused

/-! ## The calls -/

lemma Sound.keep (h : m.Sound) {hash : Fin authMaxUsers → List UInt8} (hsame : SameSessions m.auth s)
    (howner : ∀ i, (m.auth.users i).inUse = true → (∃ j, (m.auth.sessions j).inUse = true ∧
      (m.auth.sessions j).uid = (m.auth.users i).uid) →
      (s.users i).inUse = true ∧ (s.users i).uid = (m.auth.users i).uid)
    (hhash : ∀ i, (s.users i).inUse = true → (s.users i).passwordHash = hash i) :
    Sound { m with auth := s, hash := hash } := by
  refine ⟨?_, fun j hj => ?_, hsame.nextSid.trans h.nextSid, h.logins, fun j hj => ?_, ?_, fun j hj => ?_,
    hhash, h.granted⟩
  · dsimp only
    rw [hsame.sessions]
    exact h.sid
  · dsimp only at hj ⊢
    rw [hsame.sessions] at hj ⊢
    exact h.started j hj
  · dsimp only at hj ⊢
    rw [hsame.sessions] at hj ⊢
    obtain ⟨i, hi, huid⟩ := h.owner j hj
    obtain ⟨hi', huid'⟩ := howner i hi ⟨j, hj, huid.symm⟩
    exact ⟨i, hi', huid'.trans huid⟩
  · dsimp only
    rw [hsame.sessions, hsame.sessionCount]
    exact h.sessionCount
  · dsimp only at hj ⊢
    rw [hsame.currentSession] at hj
    rw [hsame.sessions]
    exact h.current j hj

lemma Sound.quiet (h : m.Sound) (hquiet : Auth.Quiet m.auth s) : Sound { m with auth := s } := by
  refine h.keep hquiet.toSameSessions (fun i hi _ => ⟨(hquiet.inUse i).trans hi, hquiet.uid i⟩)
    fun i hi => ?_
  rw [hquiet.inUse] at hi
  rw [hquiet.passwordHash]
  exact h.hash i hi

/-- **`auth_create_user`.** -/
lemma sound_createUser (h : m.Sound) : (m.apply (.createUser username password uid)).Sound := by
  unfold apply call hashCreated
  dsimp only
  obtain ⟨hsame, hfail⟩ | ⟨name, word, i, rfl, rfl, -, hfree, -, heq⟩ :=
    m.auth.authCreateUser_cases username password uid
  · rw [if_neg hfail, hsame]
    exact h
  rw [heq, if_pos rfl, hfree]
  dsimp only
  have hself : (m.auth.addUser i name word uid).users i =
      m.auth.newUser (if uid ≠ authIdInvalid then uid else m.auth.nextUid) name word :=
    Function.update_self _ _ _
  have hother : ∀ k, k ≠ i → (m.auth.addUser i name word uid).users k = m.auth.users k := fun k hk =>
    Function.update_of_ne hk _ _
  refine h.keep ⟨rfl, rfl, rfl, rfl⟩ (fun k hk _ => ?_) fun k hk => ?_
  · have hne : k ≠ i := by
      rintro rfl
      exact absurd (hk.symm.trans (findFreeUserSlot_some hfree)) (by decide)
    rw [hother k hne]
    exact ⟨hk, rfl⟩
  · by_cases hki : k = i
    · rw [hki, hself, Function.update_self]
      rfl
    · rw [hother k hki] at hk ⊢
      rw [Function.update_of_ne hki]
      exact h.hash k hk

/-- **`auth_set_password`.** -/
lemma sound_setPassword (h : m.Sound) : (m.apply (.setPassword uid password)).Sound := by
  unfold apply call hashSet
  dsimp only
  obtain ⟨hsame, hfail⟩ | ⟨word, i, rfl, huser, heq⟩ := m.auth.authSetPassword_cases uid password
  · rw [if_neg hfail, hsame]
    exact h
  rw [heq, if_pos rfl, huser]
  refine h.keep ⟨rfl, rfl, rfl, rfl⟩ (fun k hk _ => ?_) fun k hk => ?_
  · change (Function.update m.auth.users i _ k).inUse = true ∧
      (Function.update m.auth.users i _ k).uid = (m.auth.users k).uid
    by_cases hki : k = i
    · rw [hki, Function.update_self]
      exact ⟨hki ▸ hk, rfl⟩
    · rw [Function.update_of_ne hki]
      exact ⟨hk, rfl⟩
  · change (Function.update m.auth.users i _ k).passwordHash = Function.update m.hash i _ k
    change (Function.update m.auth.users i _ k).inUse = true at hk
    by_cases hki : k = i
    · rw [hki, Function.update_self, Function.update_self]
    · rw [Function.update_of_ne hki] at hk ⊢
      rw [Function.update_of_ne hki]
      exact h.hash k hk

lemma Sound.endSession (h : m.Sound) {j : Fin authMaxSessions}
    (hj : (m.auth.sessions j).inUse = true) : Sound { m with auth := m.auth.endSession j } := by
  have hself : (m.auth.endSession j).sessions j = {} := Function.update_self _ _ _
  have hother : ∀ k, k ≠ j → (m.auth.endSession j).sessions k = m.auth.sessions k := fun k hk =>
    Function.update_of_ne hk _ _
  have hkept : ∀ k, ((m.auth.endSession j).sessions k).inUse = true → k ≠ j := by
    rintro k hk rfl
    rw [hself] at hk
    exact Bool.noConfusion hk
  refine ⟨h.sid.put fun hlive => Bool.noConfusion hlive, fun k hk => ?_, h.nextSid, h.logins,
    fun k hk => ?_, SlotTable.counter_free h.sessionCount hj rfl, fun k hk => ?_, h.hash, h.granted⟩
  · have hne := hkept k hk
    dsimp only at hk ⊢
    rw [hother k hne] at hk ⊢
    exact h.started k hk
  · have hne := hkept k hk
    dsimp only at hk ⊢
    rw [hother k hne] at hk ⊢
    exact h.owner k hk
  · change (if m.auth.currentSession = some j then none else m.auth.currentSession) = some k at hk
    by_cases hcurrent : m.auth.currentSession = some j
    · rw [if_pos hcurrent] at hk
      exact absurd hk (Option.some_ne_none k).symm
    · rw [if_neg hcurrent] at hk
      have hne : k ≠ j := fun heq => hcurrent (heq ▸ hk)
      dsimp only
      rw [hother k hne]
      exact h.current k hk

/-- **`auth_logout`.** -/
lemma sound_logout (h : m.Sound) (session : Option (Fin authMaxSessions)) :
    Sound { m with auth := (m.auth.authLogout session).2 } := by
  unfold authLogout
  cases session with
  | none => exact h
  | some j =>
    dsimp only
    by_cases hin : (!(m.auth.sessions j).inUse) = true
    · rw [if_pos hin]
      exact h
    · rw [if_neg hin]
      exact h.endSession (by simpa using hin)

/-- **After the loop over the sessions** the user has none. -/
lemma Sound.logoutUser (h : m.Sound) (uid : UInt32) : Sound { m with auth := m.auth.logoutUser uid } ∧
      ∀ j, ((m.auth.logoutUser uid).sessions j).inUse = true → ((m.auth.logoutUser uid).sessions j).uid ≠ uid := by
  refine SlotTable.visit (n := authMaxSessions) (s := m.auth)
    (J := fun t : Auth => Sound { m with auth := t })
    (D := fun j t => (t.sessions j).inUse = true → (t.sessions j).uid ≠ uid)
    (fun t j ht => ?_) (fun t j ht hin => ?_) (fun t k j ht hD hin => ?_) h
  · split_ifs
    · exact sound_logout ht (some j)
    · exact ht
  · split_ifs at hin ⊢ with hj
    · exfalso
      rw [Bool.and_eq_true] at hj
      rw [authLogout_of_inUse hj.1] at hin
      change (Function.update t.sessions j {} j).inUse = true at hin
      rw [Function.update_self] at hin
      exact Bool.noConfusion hin
    · exact fun huid => hj (by simp [hin, huid])
  · split_ifs at hin ⊢ with hk
    · rw [Bool.and_eq_true] at hk
      rw [authLogout_of_inUse hk.1] at hin ⊢
      change (Function.update t.sessions k {} j).inUse = true at hin
      change (Function.update t.sessions k {} j).uid ≠ uid
      by_cases hjk : j = k
      · rw [hjk, Function.update_self] at hin
        exact Bool.noConfusion hin
      · rw [Function.update_of_ne hjk] at hin ⊢
        exact hD hin
    · exact hD hin

/-- **`auth_delete_user`.** -/
lemma sound_deleteUser (h : m.Sound) (uid : UInt32) : Sound { m with auth := (m.auth.authDeleteUser uid).2 } := by
  obtain hsame | ⟨i, t, huser, rfl, heq⟩ := m.auth.authDeleteUser_cases uid
  · rw [hsame]
    exact h
  obtain ⟨hsound, hgone⟩ := h.logoutUser uid
  have hlogout := (logoutUser_same m.auth uid).sameIds.user_uid i
  rw [(authGetUser_some huser).2] at hlogout
  rw [heq]
  generalize m.auth.logoutUser uid = t₀ at hsound hgone hlogout ⊢
  have hquiet := removeFromGroups_quiet t₀ uid
  generalize t₀.removeFromGroups uid = t at hquiet ⊢
  have hremoved : Sound { m with auth := t } := hsound.quiet hquiet
  have huid : (t.users i).uid = uid := (hquiet.uid i).trans hlogout
  refine hremoved.keep ⟨rfl, rfl, rfl, rfl⟩ (fun k hk howned => ?_) fun k hk => ?_
  · obtain ⟨j, hj, hjk⟩ := howned
    dsimp only at hj hjk hk ⊢
    rw [hquiet.sessions] at hj hjk
    have hne : k ≠ i := by
      rintro rfl
      exact hgone j hj (hjk.trans huid)
    change (Function.update t.users i {} k).inUse = true ∧ (Function.update t.users i {} k).uid = (t.users k).uid
    rw [Function.update_of_ne hne]
    exact ⟨hk, rfl⟩
  · change (Function.update t.users i {} k).passwordHash = m.hash k
    change (Function.update t.users i {} k).inUse = true at hk
    by_cases hki : k = i
    · rw [hki, Function.update_self] at hk
      exact Bool.noConfusion hk
    · rw [Function.update_of_ne hki] at hk ⊢
      exact hremoved.hash k hk

/-- **`auth_login`.** -/
lemma sound_login (h : m.Sound) (hk : m.Keeps (.login username password))
    (hfew : m.logins + 1 < 2 ^ 32) : (m.apply (.login username password)).Sound := by
  have hlogins := h.logins
  unfold apply call
  dsimp only
  obtain ⟨hrefused, honly⟩ | ⟨name, word, i, j, rfl, rfl, hname, hlocked, hactive, hhash, hfree, heq⟩ :=
    m.auth.authLogin_cases username password
  · rw [if_neg hrefused]
    exact { h.quiet honly.quiet with logins := Nat.le_succ_of_le hlogins }
  have hi := (SlotTable.find_spec hname)
  simp only [Bool.and_eq_true, decide_eq_true_eq] at hi
  have hj : (m.auth.sessions j).inUse = false := by
    simpa using SlotTable.find_spec hfree
  have hvalid : Grant.Valid ⟨m.auth, m.hash, some name, some word⟩ := by
    refine ⟨name, word, i, j, rfl, rfl, hname, hactive, hlocked, hk i hname hactive hlocked hhash, ?_, ?_, ?_⟩
    · dsimp only
      rw [← h.hash i hi.1]
      exact hhash
    · dsimp only
      rw [heq]
    · dsimp only
      rw [heq]
      change (Function.update m.auth.sessions j _ j).uid = (m.auth.users i).uid
      rw [Function.update_self]
      rfl
  have hnew : m.auth.nextSid.toNat = 1 + m.granted.length := by
    rw [h.nextSid, UInt32.toNat_ofNat', Nat.mod_eq_of_lt (by omega)]
  have hself : (m.auth.startSession i j).sessions j = m.auth.newSession (m.auth.users i).uid :=
    Function.update_self _ _ _
  have hother : ∀ k, k ≠ j → (m.auth.startSession i j).sessions k = m.auth.sessions k := fun k hk =>
    Function.update_of_ne hk _ _
  have hquiet : ∀ k, ((m.auth.startSession i j).users k).inUse = (m.auth.users k).inUse ∧
      ((m.auth.startSession i j).users k).uid = (m.auth.users k).uid ∧
      ((m.auth.startSession i j).users k).passwordHash = (m.auth.users k).passwordHash := by
    intro k
    change (Function.update m.auth.users i _ k).inUse = _ ∧ (Function.update m.auth.users i _ k).uid = _ ∧
      (Function.update m.auth.users i _ k).passwordHash = _
    by_cases hki : k = i
    · rw [hki, Function.update_self]
      exact ⟨rfl, rfl, rfl⟩
    · rw [Function.update_of_ne hki]
      exact ⟨rfl, rfl, rfl⟩
  rw [heq, if_pos rfl]
  refine ⟨h.sid.put fun _ k hkj hlive heq => ?_, fun k hk => ?_, ?_, Nat.succ_le_succ hlogins,
    fun k hk => ?_, SlotTable.counter_take (by decide) h.sessionCount hj rfl, fun k hk => ?_,
    fun k hk => ?_, fun g hg => ?_⟩
  · have hold := h.started k hlive
    rw [heq, show (m.auth.newSession (m.auth.users i).uid).sid = m.auth.nextSid from rfl, hnew] at hold
    omega
  · dsimp only at hk ⊢
    by_cases hkj : k = j
    · rw [hkj, hself, show (m.auth.newSession (m.auth.users i).uid).sid = m.auth.nextSid from rfl, hnew,
        List.length_cons]
      omega
    · rw [hother k hkj] at hk ⊢
      exact Nat.le_succ_of_le (h.started k hk)
  · change m.auth.nextSid + 1 = UInt32.ofNat (1 + (m.granted.length + 1))
    rw [h.nextSid, ← Nat.add_assoc, UInt32.ofNat_add (1 + m.granted.length) 1]
    rfl
  · dsimp only at hk ⊢
    by_cases hkj : k = j
    · refine ⟨i, (hquiet i).1.trans hi.1, ?_⟩
      rw [hkj, hself]
      exact (hquiet i).2.1
    · rw [hother k hkj] at hk ⊢
      obtain ⟨l, hl, huid⟩ := h.owner k hk
      exact ⟨l, (hquiet l).1.trans hl, (hquiet l).2.1.trans huid⟩
  · dsimp only
    have hlive := h.current k hk
    have hkj : k ≠ j := by
      rintro rfl
      exact absurd (hlive.symm.trans hj) (by decide)
    rw [hother k hkj]
    exact hlive
  · dsimp only at hk ⊢
    rw [(hquiet k).1] at hk
    rw [(hquiet k).2.2]
    exact h.hash k hk
  · rcases List.mem_cons.mp hg with rfl | hg
    · exact hvalid
    · exact h.granted g hg

/-- **`auth_init`**, where the ids of sessions go on. -/
lemma sound_init (h : m.Sound) {t : Auth} (hinit : t.initialized = false) (hsid : t.nextSid = m.auth.nextSid) :
    Sound { m with auth := t.authInit, hash := fun i => (t.authInit.users i).passwordHash } := by
  have hclear := authInit_sessions hinit
  have hnone : ∀ j, (t.authInit.sessions j).inUse = false := fun j => by
    rw [hclear.sessions]
    rfl
  have hunused : ∀ j, (t.authInit.sessions j).inUse = true → False := fun j hj =>
    absurd (hj.symm.trans (hnone j)) (by decide)
  refine ⟨fun j _ hj => (hunused j hj).elim, fun j hj => (hunused j hj).elim, ?_, h.logins,
    fun j hj => (hunused j hj).elim, ?_, fun j hj => ?_, fun _ _ => rfl, h.granted⟩
  · exact hclear.nextSid.trans (hsid.trans h.nextSid)
  · dsimp only
    rw [SlotTable.count_eq_zero hnone, hclear.sessionCount]
    rfl
  · dsimp only at hj
    rw [hclear.currentSession] at hj
    exact absurd hj (Option.some_ne_none j).symm

/-- **One call.** -/
lemma sound_step (h : m.logins < 2 ^ 32 → m.Sound) {c : AuthCall} (hstep : m.KeepingStep c m')
    (hfew : m'.logins < 2 ^ 32) : m'.Sound := by
  obtain ⟨hk, hguard, rfl⟩ := hstep
  cases c with
  | createUser username password uid => exact sound_createUser (h hfew)
  | deleteUser uid => exact sound_deleteUser (h hfew) uid
  | setPassword uid password => exact sound_setPassword (h hfew)
  | setUserFlags uid flags => exact (h hfew).quiet (authSetUserFlags_quiet _ uid flags)
  | lockUser uid => exact (h hfew).quiet (authLockUser_quiet _ uid)
  | unlockUser uid => exact (h hfew).quiet (authUnlockUser_quiet _ uid)
  | login username password => exact sound_login (h (Nat.lt_of_succ_lt hfew)) hk hfew
  | logout session => exact sound_logout (h hfew) session
  | setCurrentSession session =>
    exact { h hfew with current := fun j hj => hguard j (congrArg _ hj) }
  | createGroup name gid => exact (h hfew).quiet (authCreateGroup_quiet _ name gid)
  | deleteGroup gid => exact (h hfew).quiet (authDeleteGroup_quiet _ gid)
  | addToGroup uid gid => exact (h hfew).quiet (authAddToGroup_quiet _ uid gid)
  | removeFromGroup uid gid => exact (h hfew).quiet (authRemoveFromGroup_quiet _ uid gid)
  | restart =>
    exact sound_init (h hfew) (authShutdown_initialized _) (authShutdown_nextSid _)

/-- After the first `auth_init`. -/
def start : SessionRun where
  auth := booted
  hash i := (booted.users i).passwordHash

lemma sound_blank : Sound ⟨{}, fun _ => [], 0, []⟩ :=
  ⟨fun _ _ hj => Bool.noConfusion hj, fun _ hj => Bool.noConfusion hj, rfl, Nat.le_refl _,
    fun _ hj => Bool.noConfusion hj, (SlotTable.count_eq_zero fun _ => rfl).symm,
    (fun _ hj => nomatch hj), fun _ hi => Bool.noConfusion hi, fun _ hg => nomatch hg⟩

lemma sound_start : start.Sound := sound_init sound_blank rfl rfl

/-- **Sessions belong to authenticated users**, in every run that meets the condition. -/
theorem authenticated_of_steps (calls : List AuthCall) (m : SessionRun)
    (hrun : Steps KeepingStep start calls m) (hfew : m.logins < 2 ^ 32) : m.Authenticated :=
  (hrun.invariant (I := fun m : SessionRun => m.logins < 2 ^ 32 → m.Sound)
    (fun _ _ _ hm hstep => sound_step hm hstep) (fun _ => sound_start) hfew).authenticated

/-- A login that passes every check changes the state by `startSession` only. -/
lemma authLogin_eq {s : Auth} {name word : CString} {i : Fin authMaxUsers} {j : Fin authMaxSessions}
    (hinit : s.initialized = true) (hfound : s.authGetUserByName name = some i)
    (hlocked : (s.users i).flags &&& authUserLocked = 0)
    (hword : authCheckHash word (s.users i).passwordHash = authOk)
    (hactive : (s.users i).flags &&& authUserActive ≠ 0) (hfree : s.findFreeSessionSlot = some j) :
    s.authLogin (some name) (some word) = (authOk, some j, s.startSession i j) := by
  have hverify : s.authVerifyPassword (some name) (some word) = (authOk, s) := by
    simp [Auth.authVerifyPassword, hfound, hlocked, hword]
  simp [Auth.authLogin, hinit, hverify, hfound, hactive, hfree]

lemma auth_login (m : SessionRun) (name word : Option CString) :
    (m.apply (.login name word)).auth = (m.auth.authLogin name word).2.2 := rfl

/-- The guest's hash is the second one made, so the guest's name is accepted as the password. -/
lemma guest_hash {s : Auth}
    (hhash : (s.users ⟨1, by decide⟩).passwordHash = (start.auth.users ⟨1, by decide⟩).passwordHash) :
    authCheckHash guestName (s.users ⟨1, by decide⟩).passwordHash = authOk := by
  have hstored : (start.auth.users ⟨1, by decide⟩).passwordHash =
      (authHashPassword guestName (authHashPassword rootName 0x1234567890ABCDEF).2).1 := rfl
  rw [hhash, hstored]
  exact authCheckHash_hashPassword _ _

lemma guest_found : start.auth.authGetUserByName guestName = some ⟨1, by decide⟩ := by
  decide

lemma guest_login : start.auth.authLogin (some guestName) (some guestName) =
    (authOk, some ⟨0, by decide⟩, start.auth.startSession ⟨1, by decide⟩ ⟨0, by decide⟩) :=
  authLogin_eq (by decide) guest_found (by decide) (guest_hash rfl)
    (by decide) (by decide)

/-- The guest logs in, the session becomes the current one, and the guest logs out. -/
theorem authenticated_of_guest : (start.auth.authLogin (some guestName) (some guestName)).1 = authOk ∧
      (((start.apply (.login (some guestName) (some guestName))).apply
        (.setCurrentSession (some ⟨0, by decide⟩))).apply
          (.logout (some ⟨0, by decide⟩))).Authenticated := by
  refine ⟨congrArg Prod.fst guest_login, authenticated_of_steps
    [.login (some guestName) (some guestName), .setCurrentSession (some ⟨0, by decide⟩),
      .logout (some ⟨0, by decide⟩)] _
    (.cons ⟨fun i hi _ _ _ => ?_, (fun _ hj => nomatch hj), rfl⟩
      (.cons ⟨trivial, fun j hj => ?_, rfl⟩
        (.cons ⟨trivial, (fun _ hj => nomatch hj), rfl⟩ (.nil _)))) (by decide)⟩
  · obtain rfl := Option.some.inj (guest_found.symm.trans hi)
    decide
  · obtain rfl := Option.some.inj (AuthCall.setCurrentSession.inj hj)
    rw [auth_login, guest_login]
    decide

/-- The guest account becomes a system account, and the guest logs in. -/
theorem system_login : ¬ ∀ (calls : List AuthCall) (m : SessionRun), Steps Step start calls m → m.logins < 2 ^ 32 →
      m.Authenticated := by
  intro h
  obtain ⟨m, hm⟩ : ∃ m, start.apply (.setUserFlags 1000 (authUserActive ||| authUserSystem)) = m :=
    ⟨_, rfl⟩
  have hauthenticated := h _ (m.apply (.login (some guestName) (some guestName)))
    (.cons (c := .setUserFlags 1000 (authUserActive ||| authUserSystem)) (t := m)
      ⟨(fun _ hj => nomatch hj), hm.symm⟩
      (.cons (c := .login (some guestName) (some guestName)) ⟨(fun _ hj => nomatch hj), rfl⟩ (.nil _)))
    (by rw [← hm]; decide)
  have hguest : m.auth.authGetUserByName guestName = some ⟨1, by decide⟩ := by
    rw [← hm]
    decide
  have hsame : (m.auth.users ⟨1, by decide⟩).passwordHash =
      (start.auth.users ⟨1, by decide⟩).passwordHash := by
    rw [← hm]
    rfl
  have hok : (m.auth.authLogin (some guestName) (some guestName)).1 = authOk := by
    refine congrArg Prod.fst (@authLogin_eq m.auth guestName guestName _ ⟨0, by decide⟩ ?_ hguest ?_
      (guest_hash hsame) ?_ ?_)
    all_goals
      rw [← hm]
      decide
  have hgranted : (m.apply (.login (some guestName) (some guestName))).granted =
      ⟨m.auth, m.hash, some guestName, some guestName⟩ :: m.granted := if_pos hok
  obtain ⟨name, word, i, j, hname, -, hfound, -, -, hsystem, -⟩ :=
    hauthenticated.granted ⟨m.auth, m.hash, some guestName, some guestName⟩
      (hgranted ▸ List.mem_cons_self)
  obtain rfl := Option.some.inj hname
  obtain rfl := Option.some.inj (hguest.symm.trans hfound)
  rw [← hm] at hsystem
  revert hsystem
  decide

end SessionRun

end AAAos
