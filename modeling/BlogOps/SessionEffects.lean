import BlogOps.AccountSessions

/-!
# What a call does to the sessions

Each call has one of a few effects.  The claims about sessions, refresh tokens and
access tokens are read off these.
-/

namespace BlogOps.Accounts

open Identity KeyedTables List

variable {user : User} {userId sessionId : Uuid} {now : Int}

section Lookups

variable {s : AccountDesk}

theorem activeUser_ok (h : activeUser s userId = .ok user) :
    s.userOf userId = some user ∧ user.status = .active := by
  unfold activeUser at h
  split at h
  · obtain ⟨_, hactive, h⟩ := bind_ok h
    cases h
    exact ⟨‹_›, require_ok hactive⟩
  · cases h

theorem userOf_some (h : s.userOf userId = some user) : user ∈ s.users ∧ user.id = userId :=
  ⟨mem_of_find?_eq_some h, by simpa using find?_some h⟩

theorem sessionOf_some {login : LoginSession} (h : s.sessionOf sessionId = some login) :
    login ∈ s.sessions ∧ login.id = sessionId :=
  ⟨mem_of_find?_eq_some h, by simpa using find?_some h⟩

theorem openSession_ok {claims : AccessTokenClaims} {login : LoginSession}
    (h : openSession s claims now = .ok login) :
    s.sessionOf claims.sessionId = some login ∧ login.userId = claims.userId ∧
      login.status = .active ∧ now < login.expiresAt := by
  unfold openSession at h
  split at h
  · cases h
  · obtain ⟨_, hopen, h⟩ := bind_ok h
    cases h
    exact ⟨‹_›, require_ok hopen⟩

end Lookups

/-- The access token names an open session of an active user and member. -/
structure ClaimsFit (s : AccountDesk) (call : ResolveCall) (login : LoginSession) (user : User)
    (member : Member) : Prop where
  decoded : decodeAccessToken s call.claims call.now = .ok ()
  session : openSession s call.claims call.now = .ok login
  active : activeUser s call.claims.userId = .ok user
  terms : call.terms = .ok ()
  membership : activeMembership s call.claims.userId call.claims.workspaceId = .ok member
  mfa : lacksMfa s member login = false
  workspace : s.isActive call.claims.workspaceId = true

section Effects

variable [IdentityTexts]

structure KeysFree (s : AccountDesk) (keys : SessionKeys) : Prop where
  session : ∀ other ∈ s.sessions, other.id ≠ keys.sessionId
  token : ∀ other ∈ s.refreshTokens,
    other.id ≠ keys.refreshId ∧ other.tokenHash ≠ IdentityTexts.digest keys.refreshToken

/-- The login has chosen a workspace whose policy takes passwords of the user. -/
structure LoginFits (s : AccountDesk) (user : User) (workspaceId : Uuid) : Prop where
  known : user ∈ s.users
  allowed : (s.policyOf workspaceId).any (·.forbidsPassword user.email) = false

/-- The challenge opens a session. -/
structure ChallengeFits (s : AccountDesk) (call : VerifyMfaCall) (challenge : AuthenticationChallenge)
    (user : User) : Prop where
  opened : openChallenge s call = .ok challenge
  active : activeUser s challenge.userId = .ok user
  factor : call.secondFactor = .ok ()
  member : ∃ member, activeMembership s user.id challenge.workspaceId = .ok member
  free : KeysFree s call.keys

/-- The token is exchanged for another one. -/
structure TokenFits (s : AccountDesk) (call : RefreshCall) (token : SessionRefreshToken)
    (login : LoginSession) (workspaceId : Uuid) : Prop where
  presented : s.tokenOf call.rawRefreshToken = some token
  session : s.sessionOf token.sessionId = some login
  selected : selectWorkspace s login.userId call.requestedWorkspaceId = .ok workspaceId
  unconsumed : token.consumedAt = none
  active : login.status = .active
  unexpired : call.now < login.expiresAt ∧ call.now < token.expiresAt
  user : ∃ user, activeUser s login.userId = .ok user
  free : insertable s (replacementToken token login call)

def passwordSession (s : AccountDesk) (user : User) (workspaceId : Uuid) (call : LoginCall) : LoginSession :=
  newSession s user workspaceId ["password"] none call.now call.keys (s.resetsOf user.id)

def mfaSession (s : AccountDesk) (user : User) (challenge : AuthenticationChallenge)
    (call : VerifyMfaCall) : LoginSession :=
  newSession s user challenge.workspaceId ["password", "totp_or_recovery"] (some call.now) call.now
    call.keys challenge.checkedAfter

/-- What a call leaves, and what it answers. -/
inductive Effect (s : AccountDesk) : AccountCall → AccountDesk → Except Failure Answer → Prop
  | rolledBack (call : AccountCall) (e : Failure) : Effect s call s (.error e)
  | failed (call : LoginCall) (row : UserCredential) (e : Failure) :
      Effect s (.login call) (s.writeCredential row) (.error e)
  | challenged (call : LoginCall) (user : User) (workspaceId : Uuid) (row : UserCredential)
      (fits : LoginFits s user workspaceId) :
      Effect s (.login call) ((s.writeCredential row).addChallenge (newChallenge s user workspaceId call))
        (.ok (.mfaRequired call.challengeToken))
  | loggedIn (call : LoginCall) (user : User) (workspaceId : Uuid) (row : UserCredential)
      (fits : LoginFits s user workspaceId) (free : KeysFree s call.keys) :
      Effect s (.login call)
        ((s.writeCredential row).addSession (passwordSession s user workspaceId call)
          (firstToken (passwordSession s user workspaceId call) call.keys)
          (newPair s (passwordSession s user workspaceId call) workspaceId call.keys.refreshToken
            call.now).accessToken call.now)
        (.ok (.tokens (newPair s (passwordSession s user workspaceId call) workspaceId
          call.keys.refreshToken call.now)))
  | verified (call : VerifyMfaCall) (challenge : AuthenticationChallenge) (user : User)
      (fits : ChallengeFits s call challenge user) :
      Effect s (.verifyMfaLogin call)
        ((s.consumeChallenge challenge call.now).addSession (mfaSession s user challenge call)
          (firstToken (mfaSession s user challenge call) call.keys)
          (newPair s (mfaSession s user challenge call) challenge.workspaceId
            call.keys.refreshToken call.now).accessToken call.now)
        (.ok (.tokens (newPair s (mfaSession s user challenge call) challenge.workspaceId
          call.keys.refreshToken call.now)))
  | closed (call : RefreshCall) (login : LoginSession) (status : SessionStatus) (reason : String)
      (e : Failure) (ended : status ≠ .active) :
      Effect s (.refresh call)
        (s.writeSession login.id (LoginSession.close status call.now reason)) (.error e)
  | rotated (call : RefreshCall) (token : SessionRefreshToken) (login : LoginSession)
      (workspaceId : Uuid) (fits : TokenFits s call token login workspaceId) :
      Effect s (.refresh call)
        (s.replaceToken token (replacementToken token login call)
          (newPair s login workspaceId call.newRefreshToken call.now).accessToken call.now)
        (.ok (.tokens (newPair s login workspaceId call.newRefreshToken call.now)))
  | resolved (call : ResolveCall) (login : LoginSession) (user : User) (member : Member)
      (fits : ClaimsFit s call login user member) :
      Effect s (.resolvePrincipal call) (s.touchIdle login call.now)
        (.ok (.principal (newPrincipal user member login)))
  | revoked (now : Int) (userId sessionId : Uuid) (login : LoginSession) :
      Effect s (.revokeSession now userId sessionId)
        (s.writeSession login.id (LoginSession.close .revoked now "user_revoked")) (.ok .done)
  | revokedAll (now : Int) (userId : Uuid) (exceptSessionId : Option Uuid) :
      Effect s (.revokeAllSessions now userId exceptSessionId)
        (s.revokeAll userId "user_revoked_all" now exceptSessionId) (.ok .done)
  | passwordSet (call : ResetCall) (token : OneTimeToken) (row : UserCredential) :
      Effect s (.resetPassword call) ((s.writeCredential row).consumeReset token call.now) (.ok .done)
  | passwordReset (call : ResetCall) (token : OneTimeToken) (row : UserCredential) :
      Effect s (.resetPassword call)
        ((((s.writeCredential row).consumeReset token call.now).revokeAll token.userId
          "password_reset" call.now none).countReset token.userId)
        (.ok .done)
  | membersChanged (members : List Member) (workspaces : List Workspace) :
      Effect s (.changeMembers members workspaces)
        { s with
          members := members
          workspaces := workspaces }
        (.ok .done)

variable {s after : AccountDesk} {answer : Except Failure Answer}

variable {workspaceId : Uuid} {call : AccountCall}

theorem createSession_ok {methods : List String} {mfaVerifiedAt : Option Int} {keys : SessionKeys}
    {checkedAfter : Nat}
    (h : createSession s user workspaceId methods mfaVerifiedAt now keys checkedAfter = .ok (after, answer)) :
    (∃ member, activeMembership s user.id workspaceId = .ok member) ∧ KeysFree s keys ∧
      let login := newSession s user workspaceId methods mfaVerifiedAt now keys checkedAfter
      let pair := newPair s login workspaceId keys.refreshToken now
      after = s.addSession login (firstToken login keys) pair.accessToken now ∧
        answer = .ok (.tokens pair) := by
  obtain ⟨member, hmember, h⟩ := bind_ok h
  obtain ⟨_, hfree, h⟩ := bind_ok h
  cases h
  exact ⟨⟨member, hmember⟩, ⟨(require_ok hfree).1, (require_ok hfree).2⟩, rfl, rfl⟩

section Logins

variable [PasswordHashes]

theorem effect_openLogin {credential : UserCredential} {call : LoginCall}
    (fits : LoginFits s user workspaceId)
    (h : openLogin s user workspaceId credential call = .ok (after, answer)) :
    Effect s (.login call) after answer := by
  obtain ⟨cleared, _, h⟩ := bind_ok h
  obtain ⟨_, _, h⟩ := bind_ok h
  split at h
  · obtain ⟨_, _, h⟩ := bind_ok h
    cases h
    exact .challenged call user workspaceId cleared fits
  · obtain ⟨_, hfree, rfl, rfl⟩ := createSession_ok h
    exact .loggedIn call user workspaceId cleared fits ⟨hfree.session, hfree.token⟩

theorem effect_loginInto {call : LoginCall} (hknown : user ∈ s.users)
    (h : loginInto s user workspaceId call = .ok (after, answer)) : Effect s (.login call) after answer := by
  obtain ⟨_, hallowed, h⟩ := bind_ok h
  split at h
  · cases h
    exact .rolledBack _ _
  · split at h
    · cases h
      exact .rolledBack _ _
    · split at h
      · cases h
        exact .failed call _ _
      · split at h
        · cases h
          exact .rolledBack _ _
        · exact effect_openLogin ⟨hknown, require_ok hallowed⟩ h

theorem effect_login {call : LoginCall} (h : login s call = .ok (after, answer)) :
    Effect s (.login call) after answer := by
  obtain ⟨email, _, h⟩ := bind_ok h
  split at h
  · cases h
  · rename_i user hfound
    obtain ⟨workspaceId, _, h⟩ := bind_ok h
    exact effect_loginInto (mem_of_find?_eq_some hfound) h

end Logins

theorem effect_verifyMfaLogin {call : VerifyMfaCall} (h : verifyMfaLogin s call = .ok (after, answer)) :
    Effect s (.verifyMfaLogin call) after answer := by
  obtain ⟨challenge, hopened, h⟩ := bind_ok h
  obtain ⟨user, hactive, h⟩ := bind_ok h
  obtain ⟨⟨⟩, hfactor, h⟩ := bind_ok h
  obtain ⟨hmember, hfree, rfl, rfl⟩ := createSession_ok h
  exact .verified call challenge user ⟨hopened, hactive, hfactor, hmember, ⟨hfree.session, hfree.token⟩⟩

section

variable {call : RefreshCall} {token : SessionRefreshToken} {login : LoginSession}
    (hpresented : s.tokenOf call.rawRefreshToken = some token)
    (hsession : s.sessionOf token.sessionId = some login)

include hpresented hsession

theorem refresh_of_session :
    refresh s call = (selectWorkspace s login.userId call.requestedWorkspaceId >>= fun workspaceId =>
      refreshIn s token login workspaceId call) := by
  simp only [refresh, hpresented, hsession]

theorem effect_refreshIn
    (hselected : selectWorkspace s login.userId call.requestedWorkspaceId = .ok workspaceId)
    (h : refreshIn s token login workspaceId call = .ok (after, answer)) :
    Effect s (.refresh call) after answer := by
  unfold refreshIn at h
  split at h
  · cases h
    exact .closed call login _ _ _ (by simp)
  · rename_i hconsumed
    split at h
    · cases h
    · rename_i hactive
      split at h
      · cases h
        exact .closed call login _ _ _ (by simp)
      · rename_i hexpired
        obtain ⟨user, huser, h⟩ := bind_ok h
        obtain ⟨_, hfree, h⟩ := bind_ok h
        cases h
        exact .rotated call token login workspaceId {
          presented := hpresented
          session := hsession
          selected := hselected
          unconsumed := by simpa using hconsumed
          active := by simpa using hactive
          unexpired := by omega
          user := ⟨user, huser⟩
          free := require_ok hfree }

end

theorem effect_refresh {call : RefreshCall} (h : refresh s call = .ok (after, answer)) :
    Effect s (.refresh call) after answer := by
  unfold refresh at h
  split at h
  · cases h
  · split at h
    · cases h
    · obtain ⟨workspaceId, hselected, h⟩ := bind_ok h
      exact effect_refreshIn ‹_› ‹_› hselected h

omit [IdentityTexts] in
theorem resolvePrincipal_ok {call : ResolveCall} (h : resolvePrincipal s call = .ok (after, answer)) :
    ∃ login user member, ClaimsFit s call login user member ∧ after = s.touchIdle login call.now ∧
      answer = .ok (.principal (newPrincipal user member login)) := by
  obtain ⟨⟨⟩, hdecoded, h⟩ := bind_ok h
  obtain ⟨login, hsession, h⟩ := bind_ok h
  obtain ⟨user, huser, h⟩ := bind_ok h
  obtain ⟨⟨⟩, hterms, h⟩ := bind_ok h
  obtain ⟨member, hmember, h⟩ := bind_ok h
  obtain ⟨_, hmfa, h⟩ := bind_ok h
  obtain ⟨_, hworkspace, h⟩ := bind_ok h
  cases h
  exact ⟨login, user, member, ⟨hdecoded, hsession, huser, hterms, hmember, require_ok hmfa,
    require_ok hworkspace⟩, rfl, rfl⟩

theorem effect_revokeSession (h : revokeSession s now userId sessionId = .ok (after, answer)) :
    Effect s (.revokeSession now userId sessionId) after answer := by
  unfold revokeSession at h
  split at h
  · cases h
  · cases h
    exact .revoked now userId sessionId _

variable [PasswordHashes]

theorem effect_resetPassword {call : ResetCall} (h : resetPassword s call = .ok (after, answer)) :
    Effect s (.resetPassword call) after answer := by
  unfold resetPassword at h
  split at h
  · cases h
  · obtain ⟨_, _, h⟩ := bind_ok h
    split at h
    · cases h
    · obtain ⟨_, _, h⟩ := bind_ok h
      split at h
      · cases h
        exact .passwordReset call _ _
      · cases h
        exact .passwordSet call _ _

theorem effect_of_perform (h : perform s call = .ok (after, answer)) : Effect s call after answer := by
  cases call with
  | login call => exact effect_login h
  | verifyMfaLogin call => exact effect_verifyMfaLogin h
  | refresh call => exact effect_refresh h
  | resolvePrincipal call =>
    obtain ⟨login, user, member, fits, rfl, rfl⟩ := resolvePrincipal_ok h
    exact .resolved call login user member fits
  | revokeSession now userId sessionId => exact effect_revokeSession h
  | revokeAllSessions now userId exceptSessionId =>
    cases h
    exact .revokedAll now userId exceptSessionId
  | resetPassword call => exact effect_resetPassword h
  | changeMembers members workspaces =>
    cases h
    exact .membersChanged members workspaces

theorem effect_step (s : AccountDesk) (call : AccountCall) :
    Effect s call (stepAccounts s call) (answerOf s call) := by
  unfold stepAccounts answerOf
  cases hperform : perform s call with
  | error e => exact .rolledBack call e
  | ok result => exact effect_of_perform hperform

omit [PasswordHashes]

/-- The row is that of the session at a later time. -/
structure Continues (old row : LoginSession) : Prop where
  id : row.id = old.id
  userId : row.userId = old.userId
  methods : row.authenticationMethods = old.authenticationMethods
  mfa : row.mfaVerifiedAt = old.mfaVerifiedAt
  openedAfter : row.openedAfter = old.openedAfter
  checkedAfter : row.checkedAfter = old.checkedAfter
  closed : row.status = .active → old.status = .active

omit [IdentityTexts] in
theorem continues_refl (row : LoginSession) : Continues row row :=
  ⟨rfl, rfl, rfl, rfl, rfl, rfl, fun h => h⟩

omit [IdentityTexts] in
theorem continues_close {status : SessionStatus} (h : status ≠ .active) (now : Int) (reason : String)
    (row : LoginSession) : Continues row (row.close status now reason) :=
  ⟨rfl, rfl, rfl, rfl, rfl, rfl, fun hactive => absurd hactive h⟩

omit [IdentityTexts] in
theorem continues_touch (now : Int) (row : LoginSession) : Continues row (row.touch now) :=
  ⟨rfl, rfl, rfl, rfl, rfl, rfl, fun h => h⟩

/-- The sessions go on, and some are opened. -/
def SessionsFrom (s after : AccountDesk) (opened : List LoginSession) : Prop :=
  ∃ later : LoginSession → LoginSession, (∀ row, Continues row (later row)) ∧
    after.sessions = s.sessions.map later ++ opened

/-- The sessions that a call opens. -/
inductive Opened (s : AccountDesk) : AccountCall → List LoginSession → Prop
  | none (call : AccountCall) : Opened s call []
  | password (call : LoginCall) (user : User) (workspaceId : Uuid) (fits : LoginFits s user workspaceId)
      (free : KeysFree s call.keys) :
      Opened s (.login call) [passwordSession s user workspaceId call]
  | mfa (call : VerifyMfaCall) (challenge : AuthenticationChallenge) (user : User)
      (fits : ChallengeFits s call challenge user) :
      Opened s (.verifyMfaLogin call) [mfaSession s user challenge call]

section Flow

omit [IdentityTexts]

theorem sessionsFrom_same (h : after.sessions = s.sessions) : SessionsFrom s after [] :=
  ⟨id, continues_refl, by simp [h]⟩

theorem sessionsFrom_append {opened : List LoginSession}
    (h : after.sessions = s.sessions ++ opened) : SessionsFrom s after opened :=
  ⟨id, continues_refl, by simp [h]⟩

theorem sessionsFrom_write {f : LoginSession → LoginSession} (hf : ∀ row, Continues row (f row))
    (h : after.sessions = (s.writeSession sessionId f).sessions) : SessionsFrom s after [] := by
  refine ⟨fun row => if row.id = sessionId then f row else row, fun row => ?_, ?_⟩
  · dsimp only
    split
    · exact hf row
    · exact continues_refl row
  · rw [h, append_nil]
    rfl

theorem sessionsFrom_revokeAll {reason : String} {exceptSessionId : Option Uuid}
    (h : after.sessions = (s.revokeAll userId reason now exceptSessionId).sessions) :
    SessionsFrom s after [] := by
  refine ⟨fun row =>
    if row.userId = userId ∧ row.status = .active ∧ exceptSessionId ≠ some row.id then
      row.close .revoked now reason
    else row, fun row => ?_, ?_⟩
  · dsimp only
    split
    · exact continues_close (by simp) now reason row
    · exact continues_refl row
  · rw [h, append_nil]
    rfl

theorem sessionsFrom_touchIdle (login : LoginSession) (now : Int) :
    SessionsFrom s (s.touchIdle login now) [] := by
  unfold AccountDesk.touchIdle
  split
  · exact sessionsFrom_write (continues_touch now) rfl
  · exact sessionsFrom_same rfl

end Flow

theorem Effect.sessions (h : Effect s call after answer) :
    ∃ opened, Opened s call opened ∧ SessionsFrom s after opened := by
  cases h with
  | rolledBack e => exact ⟨[], .none _, sessionsFrom_same rfl⟩
  | failed call row e => exact ⟨[], .none _, sessionsFrom_same rfl⟩
  | challenged call user workspaceId row fits => exact ⟨[], .none _, sessionsFrom_same rfl⟩
  | loggedIn call user workspaceId row fits free =>
    exact ⟨_, .password call user workspaceId fits free, sessionsFrom_append rfl⟩
  | verified call challenge user fits =>
    exact ⟨_, .mfa call challenge user fits, sessionsFrom_append rfl⟩
  | closed call login status reason e ended =>
    exact ⟨[], .none _, sessionsFrom_write (continues_close ended call.now reason) rfl⟩
  | rotated call token login workspaceId fits =>
    exact ⟨[], .none _, sessionsFrom_write (continues_touch call.now) rfl⟩
  | resolved call login user member fits =>
    exact ⟨[], .none _, sessionsFrom_touchIdle login call.now⟩
  | revoked now userId sessionId login =>
    exact ⟨[], .none _, sessionsFrom_write (continues_close (by simp) now _) rfl⟩
  | revokedAll now userId exceptSessionId =>
    exact ⟨[], .none _, sessionsFrom_revokeAll rfl⟩
  | passwordSet call token row => exact ⟨[], .none _, sessionsFrom_same rfl⟩
  | passwordReset call token row => exact ⟨[], .none _, sessionsFrom_revokeAll rfl⟩
  | membersChanged members workspaces => exact ⟨[], .none _, sessionsFrom_same rfl⟩

/-- A session that is opened has a new key. -/
theorem Opened.fresh {opened : List LoginSession} (h : Opened s call opened) {login : LoginSession}
    (hlogin : login ∈ opened) : ∀ other ∈ s.sessions, other.id ≠ login.id := by
  cases h with
  | none => cases hlogin
  | password call user workspaceId fits free =>
    rw [mem_singleton.mp hlogin]
    exact free.session
  | mfa call challenge user fits =>
    rw [mem_singleton.mp hlogin]
    exact fits.free.session

section

variable (h : Effect s call after answer)

include h

/-- The sessions after a call are those that go on and those that it opens. -/
theorem Effect.mem_sessions {row : LoginSession} (hrow : row ∈ after.sessions) :
    (∃ old ∈ s.sessions, Continues old row) ∨ ∃ opened, Opened s call opened ∧ row ∈ opened := by
  obtain ⟨opened, hopened, later, hlater, hsessions⟩ := h.sessions
  rw [hsessions] at hrow
  rcases mem_append.mp hrow with hmapped | hnew
  · obtain ⟨old, hold, rfl⟩ := mem_map.mp hmapped
    exact .inl ⟨old, hold, hlater old⟩
  · exact .inr ⟨opened, hopened, hnew⟩

theorem Effect.keeps_session {old : LoginSession} (hold : old ∈ s.sessions) :
    ∃ row ∈ after.sessions, Continues old row := by
  obtain ⟨opened, -, later, hlater, hsessions⟩ := h.sessions
  refine ⟨later old, ?_, hlater old⟩
  rw [hsessions]
  exact mem_append_left _ (mem_map_of_mem hold)

theorem Effect.keyed_sessions (hkeyed : Keyed LoginSession.id s.sessions) :
    Keyed LoginSession.id after.sessions := by
  obtain ⟨opened, hopened, later, hlater, hsessions⟩ := h.sessions
  have hmapped : Keyed LoginSession.id (s.sessions.map later) := by
    unfold Keyed at *
    rw [map_map]
    have hid : LoginSession.id ∘ later = LoginSession.id := funext fun row => (hlater row).id
    rw [hid]
    exact hkeyed
  have hfresh : ∀ login ∈ opened, ∀ other ∈ s.sessions.map later, other.id ≠ login.id := by
    intro login hlogin other hother
    obtain ⟨old, hold, rfl⟩ := mem_map.mp hother
    rw [(hlater old).id]
    exact hopened.fresh hlogin old hold
  rw [hsessions]
  cases hopened with
  | none => rwa [append_nil]
  | password => exact hmapped.append_row (hfresh _ (mem_singleton_self _))
  | mfa => exact hmapped.append_row (hfresh _ (mem_singleton_self _))

end

/-- The answer is a token pair or a principal of the session. -/
def Names (answer : Except Failure Answer) (sessionId : Uuid) : Prop :=
  match answer with
  | .ok (.tokens pair) => pair.sessionId = sessionId
  | .ok (.principal principal) => principal.sessionId = sessionId
  | _ => False

theorem Effect.active_of_names (h : Effect s call after answer)
    (hkeyed : Keyed LoginSession.id s.sessions) {login : LoginSession} (hlogin : login ∈ s.sessions)
    (hnames : Names answer login.id) : login.status = .active := by
  cases h with
  | loggedIn call user workspaceId row fits free =>
    exact absurd hnames.symm (free.session login hlogin)
  | verified call challenge user fits =>
    exact absurd hnames.symm (fits.free.session login hlogin)
  | rotated call token found workspaceId fits =>
    have hfound : found ∈ s.sessions := (sessionOf_some fits.session).1
    rw [← hkeyed.eq_of_key_eq hfound hlogin hnames]
    exact fits.active
  | resolved call found user member fits =>
    obtain ⟨hfound, -, hactive, -⟩ := openSession_ok fits.session
    rw [← hkeyed.eq_of_key_eq (sessionOf_some hfound).1 hlogin hnames]
    exact hactive
  | _ => cases hnames

end Effects

/-- No session has been opened yet. -/
structure Unopened (s : AccountDesk) : Prop where
  sessions : s.sessions = []
  refreshTokens : s.refreshTokens = []
  challenges : s.challenges = []
  issued : s.issued = []
  resets : s.resets = []

abbrev sampleAccountTexts : IdentityTexts where
  casefold value := value
  idna domain := some domain
  digest token := token
  invitationWorkspaceId _ := none
  invitationToken _ _ := ""

abbrev samplePasswordHashes : PasswordHashes where
  hash password := password
  verify passwordHash password := passwordHash == password
  needsRehash _ := false
  categories _ := 3

def sampleMember (workspaceId : Uuid) : Member where
  userId := 1
  workspaceId := workspaceId
  status := .active
  roleKey := "viewer"
  permissions := []
  joinedAt := 0

/-- A member of the first of two workspaces. -/
def sampleAccounts : AccountDesk where
  users := [{ id := 1, email := "writer@blog.example", status := .active }]
  credentials := [{ userId := 1, passwordHash := "first password" }]
  workspaces := [{ id := 1, status := .active }, { id := 2, status := .active }]
  members := [sampleMember 1]

def sampleLogin : AccountCall := .login {
  now := 0
  email := "writer@blog.example"
  password := "first password"
  requestedWorkspaceId := none
  keys := { sessionId := 10, refreshId := 20, refreshToken := "r0" }
  challengeId := 30
  challengeToken := "c0" }

def sampleRefresh (now : Int) (rawRefreshToken : String) (requestedWorkspaceId : Option Uuid)
    (replacementId : Uuid) (newRefreshToken : String) : AccountCall := .refresh {
  now := now
  rawRefreshToken := rawRefreshToken
  requestedWorkspaceId := requestedWorkspaceId
  replacementId := replacementId
  newRefreshToken := newRefreshToken }

theorem unopened_sampleAccounts : Unopened sampleAccounts := ⟨rfl, rfl, rfl, rfl, rfl⟩

end BlogOps.Accounts
