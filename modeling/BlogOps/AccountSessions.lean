import BlogOps.WorkspaceMembers
import Mathlib.Data.List.MinMax

/-!
# Login sessions

Logins, second factors, refresh tokens, principals and password resets over the
accounts of all users.  An operation that is rolled back leaves nothing; one that
commits before it raises leaves what it has written.
-/

namespace BlogOps.Accounts

open Identity KeyedTables

inductive SessionStatus where
  | active | revoked | compromised | expired
deriving DecidableEq, Repr

structure User where
  id : Uuid
  email : String
  status : UserStatus
  mfaEnabled : Bool := false
  /-- The user has an active MFA factor. -/
  hasActiveFactor : Bool := false
  lastLoginAt : Option Int := none
deriving DecidableEq, Repr

structure UserCredential where
  userId : Uuid
  passwordHash : String
  failedAttempts : Int := 0
  lastFailedAt : Option Int := none
  lockedUntil : Option Int := none
  passwordChangedAt : Int := 0
deriving DecidableEq, Repr

structure Workspace where
  id : Uuid
  status : WorkspaceStatus
deriving DecidableEq, Repr

/-- A membership joined with its role. -/
structure Member where
  userId : Uuid
  workspaceId : Uuid
  status : MembershipStatus
  roleKey : String
  permissions : List String
  joinedAt : Int
deriving DecidableEq, Repr

/-- A policy as its schema admits it. -/
structure WorkspaceAuthenticationPolicy where
  workspaceId : Uuid
  maxLoginFailures : Int := 5
  lockoutSeconds : Int := 900
  accessTokenTtlSeconds : Int := 900
  sessionTtlSeconds : Int := 2592000
  requireMfaRoleKeys : List String := ["owner", "admin"]
  passwordLoginEnabled : Bool := true
  ssoEnforcedDomains : List String := []
  accessTokenTtl_bounds : 300 ≤ accessTokenTtlSeconds ∧ accessTokenTtlSeconds ≤ 3600 := by decide
  sessionTtl_bounds : 3600 ≤ sessionTtlSeconds ∧ sessionTtlSeconds ≤ 7776000 := by decide
deriving DecidableEq

/-- `openedAfter` and `checkedAfter` count the resets of the user that revoked his sessions: before
the session was opened, and before the password was checked that it was opened with. -/
structure LoginSession where
  id : Uuid
  userId : Uuid
  status : SessionStatus := .active
  authenticationMethods : List String
  mfaVerifiedAt : Option Int
  lastActivityAt : Int
  expiresAt : Int
  revokedAt : Option Int := none
  revokeReason : Option String := none
  openedAfter : Nat
  checkedAfter : Nat
deriving DecidableEq, Repr

structure SessionRefreshToken where
  id : Uuid
  sessionId : Uuid
  tokenHash : String
  generation : Nat
  expiresAt : Int
  consumedAt : Option Int := none
  replacedById : Option Uuid := none
deriving DecidableEq, Repr

/-- A challenge of the purpose `MFA_LOGIN`; `checkedAfter` counts the revoking resets before its
password was checked. -/
structure AuthenticationChallenge where
  id : Uuid
  userId : Uuid
  tokenHash : String
  workspaceId : Uuid
  expiresAt : Int
  consumedAt : Option Int := none
  checkedAfter : Nat
deriving DecidableEq, Repr

/-- A token of the purpose `PASSWORD_RESET`. -/
structure OneTimeToken where
  id : Uuid
  userId : Uuid
  tokenHash : String
  expiresAt : Int
  consumedAt : Option Int := none
  supersededAt : Option Int := none
deriving DecidableEq, Repr

structure AccessTokenClaims where
  userId : Uuid
  workspaceId : Uuid
  sessionId : Uuid
  authenticationMethods : List String
  issuedAt : Int
  expiresAt : Int
deriving DecidableEq, Repr

structure AccountDesk where
  users : List User
  credentials : List UserCredential
  workspaces : List Workspace
  members : List Member
  policies : List WorkspaceAuthenticationPolicy := []
  resetTokens : List OneTimeToken := []
  sessions : List LoginSession := []
  refreshTokens : List SessionRefreshToken := []
  challenges : List AuthenticationChallenge := []
  /-- The access tokens signed so far. -/
  issued : List AccessTokenClaims := []
  /-- The users of the committed resets that revoked all sessions. -/
  resets : List Uuid := []

structure TokenPair where
  accessToken : AccessTokenClaims
  refreshToken : String
  expiresIn : Int
  sessionId : Uuid
  workspaceId : Uuid
deriving DecidableEq, Repr

structure Principal where
  subjectId : Uuid
  workspaceId : Uuid
  sessionId : Uuid
  permissions : List String
  authenticationMethods : List String
  mfaVerifiedAt : Option Int
deriving DecidableEq, Repr

inductive Answer where
  | tokens (pair : TokenPair)
  | mfaRequired (challengeToken : String)
  | principal (principal : Principal)
  | done
deriving DecidableEq, Repr

/-- A call is rolled back, or it commits a state and then answers or raises. -/
abbrev Outcome := Except Failure (AccountDesk × Except Failure Answer)

/-- Argon2, and the classes of characters of a password. -/
class PasswordHashes where
  hash : String → String
  verify : (passwordHash password : String) → Bool
  needsRehash : String → Bool
  categories : String → Nat

/-- The new keys and the new refresh token of a session. -/
structure SessionKeys where
  sessionId : Uuid
  refreshId : Uuid
  refreshToken : String

structure LoginCall where
  now : Int
  email : String
  password : String
  requestedWorkspaceId : Option Uuid
  keys : SessionKeys
  challengeId : Uuid
  challengeToken : String

structure VerifyMfaCall where
  now : Int
  challengeToken : String
  /-- What `_verify_second_factor` raises on the code. -/
  secondFactor : Except Failure Unit
  keys : SessionKeys

structure RefreshCall where
  now : Int
  rawRefreshToken : String
  requestedWorkspaceId : Option Uuid
  replacementId : Uuid
  newRefreshToken : String

structure ResolveCall where
  now : Int
  claims : AccessTokenClaims
  /-- What `_enforce_required_terms` raises. -/
  terms : Except Failure Unit

structure ResetCall where
  now : Int
  rawToken : String
  newPassword : String
  revokeAllSessions : Bool

inductive AccountCall where
  | login (call : LoginCall)
  | verifyMfaLogin (call : VerifyMfaCall)
  | refresh (call : RefreshCall)
  | resolvePrincipal (call : ResolveCall)
  | revokeSession (now : Int) (userId sessionId : Uuid)
  | revokeAllSessions (now : Int) (userId : Uuid) (exceptSessionId : Option Uuid)
  | resetPassword (call : ResetCall)
  | changeMembers (members : List Member) (workspaces : List Workspace)

namespace AccountDesk

variable (s : AccountDesk)

def userOf (userId : Uuid) : Option User := s.users.find? fun row => row.id = userId

def credentialOf (userId : Uuid) : Option UserCredential :=
  s.credentials.find? fun row => row.userId = userId

def policyOf (workspaceId : Uuid) : Option WorkspaceAuthenticationPolicy :=
  s.policies.find? fun row => row.workspaceId = workspaceId

def sessionOf (sessionId : Uuid) : Option LoginSession := s.sessions.find? fun row => row.id = sessionId

def tokenOf [IdentityTexts] (s : AccountDesk) (rawToken : String) : Option SessionRefreshToken :=
  s.refreshTokens.find? fun row => row.tokenHash = IdentityTexts.digest rawToken

def isActive (workspaceId : Uuid) : Bool :=
  s.workspaces.any fun row => row.id = workspaceId && row.status = .active

def resetsOf (userId : Uuid) : Nat := s.resets.count userId

end AccountDesk

def accessDenied (message : String) : Failure := .app {
  code := "WORKSPACE_ACCESS_DENIED", message := message, statusCode := 403 }

variable (s : AccountDesk)

/-- The member has access to an active workspace, the requested one if there is a request. -/
def AccountDesk.accessible (userId : Uuid) (requested : Option Uuid) (row : Member) : Bool :=
  row.userId = userId && row.status = .active && s.isActive row.workspaceId &&
    requested.all (row.workspaceId = ·)

local instance joiningMoments : Preorder Int := Int.instLinearOrder.toPreorder

def selectWorkspace (userId : Uuid) (requested : Option Uuid) : Except Failure Uuid :=
  match (s.members.filter (s.accessible userId requested)).argmin Member.joinedAt with
  | some row => .ok row.workspaceId
  | none => .error (accessDenied "접근 가능한 워크스페이스가 없습니다.")

/-- The inner join with the workspace finds its row whatever its status. -/
def activeMembership (userId workspaceId : Uuid) : Except Failure Member :=
  match s.members.find? (fun row => row.userId = userId ∧ row.workspaceId = workspaceId ∧
      row.status = .active ∧ ∃ workspace ∈ s.workspaces, workspace.id = workspaceId) with
  | some row => .ok row
  | none => .error (accessDenied "워크스페이스 접근 권한이 없습니다.")

def emailDomain (email : String) : String :=
  String.ofList (email.toList.reverse.takeWhile (· ≠ '@')).reverse

/-- The policy closes password logins to the users of the domain. -/
def WorkspaceAuthenticationPolicy.forbidsPassword [IdentityTexts]
    (policy : WorkspaceAuthenticationPolicy) (email : String) : Bool :=
  !policy.passwordLoginEnabled ||
    (policy.ssoEnforcedDomains.map IdentityTexts.casefold).contains (emailDomain email)

def accountUnavailable : Failure := .app {
  code := "ACCOUNT_UNAVAILABLE", message := "계정을 사용할 수 없습니다.", statusCode := 403 }

def activeUser (userId : Uuid) : Except Failure User :=
  match s.userOf userId with
  | some user => do
      require (user.status = .active) accountUnavailable
      .ok user
  | none => .error accountUnavailable

def second : Int := 1000000

/-- `issue_access_token`, whose times are cut to seconds. -/
def newClaims (userId workspaceId sessionId : Uuid) (methods : List String) (ttlSeconds now : Int) :
    AccessTokenClaims where
  userId := userId
  workspaceId := workspaceId
  sessionId := sessionId
  authenticationMethods := methods
  issuedAt := now / second
  expiresAt := (now + ttlSeconds * second) / second

def accessTtl (workspaceId : Uuid) : Int :=
  ((s.policyOf workspaceId).map (·.accessTokenTtlSeconds)).getD (15 * 60)

def sessionTtl (workspaceId : Uuid) : Int :=
  ((s.policyOf workspaceId).map (·.sessionTtlSeconds)).getD (30 * 24 * 60 * 60)

section Operations

variable [IdentityTexts]

open IdentityTexts

variable (s : AccountDesk)

def newSession (user : User) (workspaceId : Uuid) (methods : List String) (mfaVerifiedAt : Option Int)
    (now : Int) (keys : SessionKeys) (checkedAfter : Nat) : LoginSession where
  id := keys.sessionId
  userId := user.id
  authenticationMethods := methods
  mfaVerifiedAt := mfaVerifiedAt
  lastActivityAt := now
  expiresAt := now + sessionTtl s workspaceId * second
  openedAfter := s.resetsOf user.id
  checkedAfter := checkedAfter

def firstToken (login : LoginSession) (keys : SessionKeys) : SessionRefreshToken where
  id := keys.refreshId
  sessionId := login.id
  tokenHash := digest keys.refreshToken
  generation := 0
  expiresAt := login.expiresAt

def newPair (login : LoginSession) (workspaceId : Uuid) (refreshToken : String) (now : Int) : TokenPair where
  accessToken := newClaims login.userId workspaceId login.id login.authenticationMethods
    (accessTtl s workspaceId) now
  refreshToken := refreshToken
  expiresIn := accessTtl s workspaceId
  sessionId := login.id
  workspaceId := workspaceId

/-- The database takes a new refresh token. -/
def insertable (token : SessionRefreshToken) : Prop :=
  ∀ other ∈ s.refreshTokens, other.id ≠ token.id ∧ other.tokenHash ≠ token.tokenHash

instance (s : AccountDesk) (token : SessionRefreshToken) : Decidable (insertable s token) :=
  inferInstanceAs (Decidable (∀ other ∈ s.refreshTokens, _ ∧ _))

def User.seen (now : Int) (row : User) : User := { row with lastLoginAt := some now }

def AccountDesk.addSession (login : LoginSession) (token : SessionRefreshToken)
    (claims : AccessTokenClaims) (now : Int) : AccountDesk :=
  { s with
    users := updateRow (·.id) login.userId (User.seen now) s.users
    sessions := s.sessions ++ [login]
    refreshTokens := s.refreshTokens ++ [token]
    issued := s.issued ++ [claims] }

def createSession (user : User) (workspaceId : Uuid) (methods : List String)
    (mfaVerifiedAt : Option Int) (now : Int) (keys : SessionKeys) (checkedAfter : Nat) : Outcome := do
  let _ ← activeMembership s user.id workspaceId
  let login := newSession s user workspaceId methods mfaVerifiedAt now keys checkedAfter
  let token := firstToken login keys
  require ((∀ other ∈ s.sessions, other.id ≠ login.id) ∧ insertable s token) (.integrity "login_sessions")
  let pair := newPair s login workspaceId keys.refreshToken now
  .ok (s.addSession login token pair.accessToken now, .ok (.tokens pair))

def AccountDesk.writeCredential (row : UserCredential) : AccountDesk :=
  { s with credentials := updateRow (·.userId) row.userId (fun _ => row) s.credentials }

def loginLocked : Failure := .app {
  code := "LOGIN_TEMPORARILY_LOCKED"
  message := "로그인 시도가 제한되었습니다. 잠시 후 다시 시도해 주세요."
  statusCode := 429 }

def invalidCredentials : Failure := .app {
  code := "INVALID_CREDENTIALS"
  message := "이메일 또는 비밀번호가 올바르지 않습니다."
  statusCode := 401 }

def accountBlocked (status : UserStatus) : Failure := .app {
  code := if status = .pendingEmail then "EMAIL_VERIFICATION_REQUIRED" else "ACCOUNT_UNAVAILABLE"
  message := "계정 상태를 확인해 주세요."
  statusCode := 403 }

def failedLogin (credential : UserCredential) (policy : Option WorkspaceAuthenticationPolicy)
    (now : Int) : UserCredential × Failure :=
  let attempts := credential.failedAttempts + 1
  let locked := (policy.map (·.maxLoginFailures)).getD 5 ≤ attempts
  let lockout := (policy.map (·.lockoutSeconds)).getD (15 * 60) * second
  ({ credential with
      failedAttempts := attempts
      lastFailedAt := some now
      lockedUntil := if locked then some (now + lockout) else credential.lockedUntil },
    if locked then loginLocked else invalidCredentials)

def newChallenge (user : User) (workspaceId : Uuid) (call : LoginCall) : AuthenticationChallenge where
  id := call.challengeId
  userId := user.id
  tokenHash := digest call.challengeToken
  workspaceId := workspaceId
  expiresAt := call.now + 5 * 60 * second
  checkedAfter := s.resetsOf user.id

def AccountDesk.addChallenge (challenge : AuthenticationChallenge) : AccountDesk :=
  { s with challenges := s.challenges ++ [challenge] }

section Passwords

variable [PasswordHashes]

open PasswordHashes

def validatePassword (password : String) : Except Failure Unit :=
  require (12 ≤ password.length ∧ password.utf8ByteSize ≤ 1024 ∧ 3 ≤ categories password) .validationError

/-- `PasswordManager.hash`, which validates the password once more. -/
def hashPassword (password : String) : Except Failure String := do
  validatePassword password
  .ok (hash password)

def clearedCredential (credential : UserCredential) (password : String) : Except Failure UserCredential := do
  let passwordHash ← if needsRehash credential.passwordHash then hashPassword password
    else .ok credential.passwordHash
  .ok { credential with
    passwordHash := passwordHash
    failedAttempts := 0
    lastFailedAt := none
    lockedUntil := none }

variable (s : AccountDesk)

/-- The login after the password has been verified. -/
def openLogin (user : User) (workspaceId : Uuid) (credential : UserCredential) (call : LoginCall) :
    Outcome := do
  let cleared ← clearedCredential credential call.password
  let s := s.writeCredential cleared
  require (¬ (user.mfaEnabled = true ∧ user.hasActiveFactor = false)) (.app {
    code := "ACCOUNT_SECURITY_STATE_INVALID"
    message := "MFA 보안 상태를 복구해야 합니다."
    statusCode := 403 })
  if user.mfaEnabled then do
    let challenge := newChallenge s user workspaceId call
    require (∀ other ∈ s.challenges, other.id ≠ challenge.id ∧
      other.tokenHash ≠ challenge.tokenHash) (.integrity "authentication_challenges")
    .ok (s.addChallenge challenge, .ok (.mfaRequired call.challengeToken))
  else
    createSession s user workspaceId ["password"] none call.now call.keys (s.resetsOf user.id)

def passwordLoginDisabled : Failure := .app {
  code := "PASSWORD_LOGIN_DISABLED"
  message := "이 워크스페이스는 SSO 로그인이 필요합니다."
  statusCode := 403 }

/-- The login of a known user into the selected workspace. -/
def loginInto (user : User) (workspaceId : Uuid) (call : LoginCall) : Outcome := do
  let policy := s.policyOf workspaceId
  require (policy.any (·.forbidsPassword user.email) = false) passwordLoginDisabled
  match s.credentialOf user.id with
  | none => .ok (s, .error loginLocked)
  | some credential =>
      if credential.lockedUntil.any (call.now < ·) then .ok (s, .error loginLocked)
      else if verify credential.passwordHash call.password = false then
        let (failed, error) := failedLogin credential policy call.now
        .ok (s.writeCredential failed, .error error)
      else if user.status ≠ .active then .ok (s, .error (accountBlocked user.status))
      else openLogin s user workspaceId credential call

def login (call : LoginCall) : Outcome := do
  let email ← normalizeEmail call.email
  match s.users.find? (fun row => row.email = email) with
  | none => .error invalidCredentials
  | some user => do
      let workspaceId ← selectWorkspace s user.id call.requestedWorkspaceId
      loginInto s user workspaceId call

end Passwords

def challengeInvalid : Failure := .app {
  code := "MFA_CHALLENGE_INVALID"
  message := "MFA 인증 요청이 유효하지 않거나 만료되었습니다."
  statusCode := 401 }

def openChallenge (call : VerifyMfaCall) : Except Failure AuthenticationChallenge :=
  match s.challenges.find? (fun row => row.tokenHash = digest call.challengeToken) with
  | none => .error challengeInvalid
  | some challenge => do
      require (challenge.consumedAt = none ∧ call.now < challenge.expiresAt) challengeInvalid
      .ok challenge

def AccountDesk.consumeChallenge (challenge : AuthenticationChallenge) (now : Int) : AccountDesk :=
  { s with
    challenges := updateRow (·.id) challenge.id (fun row => { row with consumedAt := some now })
      s.challenges }

def verifyMfaLogin (call : VerifyMfaCall) : Outcome := do
  let challenge ← openChallenge s call
  let user ← activeUser s challenge.userId
  call.secondFactor
  createSession (s.consumeChallenge challenge call.now) user challenge.workspaceId
    ["password", "totp_or_recovery"] (some call.now) call.now call.keys challenge.checkedAfter

def AccountDesk.writeSession (sessionId : Uuid) (f : LoginSession → LoginSession) : AccountDesk :=
  { s with sessions := updateRow (·.id) sessionId f s.sessions }

def LoginSession.close (status : SessionStatus) (now : Int) (reason : String)
    (row : LoginSession) : LoginSession :=
  { row with
    status := status
    revokedAt := some now
    revokeReason := some reason }

def LoginSession.touch (now : Int) (row : LoginSession) : LoginSession :=
  { row with lastActivityAt := now }

def refreshTokenInvalid : Failure := .app {
  code := "REFRESH_TOKEN_INVALID", message := "갱신 토큰이 유효하지 않습니다.", statusCode := 401 }

def refreshTokenReused : Failure := .app {
  code := "REFRESH_TOKEN_REUSE_DETECTED"
  message := "토큰 재사용이 감지되어 세션을 종료했습니다."
  statusCode := 401 }

def sessionExpired : Failure := .app {
  code := "SESSION_EXPIRED", message := "세션이 만료되었습니다.", statusCode := 401 }

def replacementToken (token : SessionRefreshToken) (login : LoginSession) (call : RefreshCall) :
    SessionRefreshToken where
  id := call.replacementId
  sessionId := login.id
  tokenHash := digest call.newRefreshToken
  generation := token.generation + 1
  expiresAt := login.expiresAt

def SessionRefreshToken.consume (now : Int) (replacementId : Uuid) (row : SessionRefreshToken) :
    SessionRefreshToken :=
  { row with
    consumedAt := some now
    replacedById := some replacementId }

def AccountDesk.replaceToken (token replacement : SessionRefreshToken) (claims : AccessTokenClaims)
    (now : Int) : AccountDesk :=
  { s.writeSession replacement.sessionId (LoginSession.touch now) with
    refreshTokens := updateRow (·.id) token.id
      (SessionRefreshToken.consume now replacement.id) s.refreshTokens ++ [replacement]
    issued := s.issued ++ [claims] }

def rotate (token : SessionRefreshToken) (login : LoginSession) (workspaceId : Uuid)
    (call : RefreshCall) : Outcome := do
  let _ ← activeUser s login.userId
  let replacement := replacementToken token login call
  require (insertable s replacement) (.integrity "session_refresh_tokens")
  let pair := newPair s login workspaceId call.newRefreshToken call.now
  .ok (s.replaceToken token replacement pair.accessToken call.now, .ok (.tokens pair))

/-- The refresh once its token, its session and the workspace are known. -/
def refreshIn (token : SessionRefreshToken) (login : LoginSession) (workspaceId : Uuid)
    (call : RefreshCall) : Outcome :=
  if token.consumedAt ≠ none then
    .ok (s.writeSession login.id (LoginSession.close .compromised call.now "refresh_token_reuse"),
      .error refreshTokenReused)
  else if login.status ≠ .active then .error sessionExpired
  else if login.expiresAt ≤ call.now ∨ token.expiresAt ≤ call.now then
    .ok (s.writeSession login.id (LoginSession.close .expired call.now "expired"), .error sessionExpired)
  else rotate s token login workspaceId call

def refresh (call : RefreshCall) : Outcome :=
  match s.tokenOf call.rawRefreshToken with
  | none => .error refreshTokenInvalid
  | some token =>
      match s.sessionOf token.sessionId with
      | none => .error refreshTokenInvalid
      | some login => do
          let workspaceId ← selectWorkspace s login.userId call.requestedWorkspaceId
          refreshIn s token login workspaceId call

end Operations

def accessTokenInvalid : Failure := .app {
  code := "ACCESS_TOKEN_INVALID", message := "액세스 토큰이 유효하지 않습니다.", statusCode := 401 }

/-- The signature tells the tokens that were issued. -/
def decodeAccessToken (claims : AccessTokenClaims) (now : Int) : Except Failure Unit :=
  require (claims ∈ s.issued ∧ now < claims.expiresAt * second ∧
    claims.issuedAt * second ≤ now + 30 * second) accessTokenInvalid

def sessionInvalid : Failure := .app {
  code := "SESSION_INVALID", message := "세션이 유효하지 않습니다.", statusCode := 401 }

def openSession (claims : AccessTokenClaims) (now : Int) : Except Failure LoginSession :=
  match s.sessionOf claims.sessionId with
  | none => .error sessionInvalid
  | some login => do
      require (login.userId = claims.userId ∧ login.status = .active ∧ now < login.expiresAt) sessionInvalid
      .ok login

/-- The policy asks for a second factor that the session does not have. -/
def lacksMfa (member : Member) (login : LoginSession) : Bool :=
  (s.policyOf member.workspaceId).any (fun policy =>
    policy.requireMfaRoleKeys.contains member.roleKey) && login.mfaVerifiedAt.isNone

def fiveMinutes : Int := 5 * 60 * second

def AccountDesk.touchIdle (login : LoginSession) (now : Int) : AccountDesk :=
  if fiveMinutes ≤ now - login.lastActivityAt then s.writeSession login.id (LoginSession.touch now)
  else s

def newPrincipal (user : User) (member : Member) (login : LoginSession) : Principal where
  subjectId := user.id
  workspaceId := member.workspaceId
  sessionId := login.id
  permissions := member.permissions
  authenticationMethods := login.authenticationMethods
  mfaVerifiedAt := login.mfaVerifiedAt

def resolvePrincipal (call : ResolveCall) : Outcome := do
  decodeAccessToken s call.claims call.now
  let login ← openSession s call.claims call.now
  let user ← activeUser s call.claims.userId
  call.terms
  let member ← activeMembership s call.claims.userId call.claims.workspaceId
  require (lacksMfa s member login = false) (.app {
    code := "MFA_REQUIRED_BY_POLICY", message := "이 역할은 MFA 인증이 필요합니다.", statusCode := 403 })
  require (s.isActive call.claims.workspaceId = true) (.app {
    code := "WORKSPACE_UNAVAILABLE", message := "워크스페이스를 사용할 수 없습니다.", statusCode := 403 })
  .ok (s.touchIdle login call.now, .ok (.principal (newPrincipal user member login)))

def revokeSession (now : Int) (userId sessionId : Uuid) : Outcome :=
  match (s.sessionOf sessionId).filter fun login => login.userId = userId with
  | none => .error (.app {
      code := "SESSION_NOT_FOUND", message := "세션을 찾을 수 없습니다.", statusCode := 404 })
  | some login =>
      .ok (s.writeSession login.id (LoginSession.close .revoked now "user_revoked"), .ok .done)

/-- `_revoke_all_sessions`. -/
def AccountDesk.revokeAll (userId : Uuid) (reason : String) (now : Int)
    (exceptSessionId : Option Uuid) : AccountDesk :=
  { s with
    sessions := s.sessions.map fun row =>
      if row.userId = userId ∧ row.status = .active ∧ exceptSessionId ≠ some row.id then
        row.close .revoked now reason
      else row }

def oneTimeTokenInvalid : Failure := .app {
  code := "ONE_TIME_TOKEN_INVALID"
  message := "토큰이 유효하지 않거나 만료되었습니다."
  statusCode := 400 }

def AccountDesk.consumeReset (token : OneTimeToken) (now : Int) : AccountDesk :=
  { s with
    resetTokens := updateRow (·.id) token.id (fun row => { row with consumedAt := some now }) s.resetTokens }

def AccountDesk.countReset (userId : Uuid) : AccountDesk := { s with resets := s.resets ++ [userId] }

def resetPassword [IdentityTexts] [PasswordHashes] (s : AccountDesk) (call : ResetCall) : Outcome :=
  match s.resetTokens.find? (fun row => row.tokenHash = IdentityTexts.digest call.rawToken) with
  | none => .error oneTimeTokenInvalid
  | some token => do
      require (token.consumedAt = none ∧ token.supersededAt = none ∧ call.now < token.expiresAt)
        oneTimeTokenInvalid
      match s.credentialOf token.userId with
      | none => .error oneTimeTokenInvalid
      | some credential => do
          let passwordHash ← hashPassword call.newPassword
          let written := (s.writeCredential { credential with
            passwordHash := passwordHash
            passwordChangedAt := call.now
            failedAttempts := 0
            lockedUntil := none }).consumeReset token call.now
          if call.revokeAllSessions then
            .ok ((written.revokeAll token.userId "password_reset" call.now none).countReset
              token.userId, .ok .done)
          else .ok (written, .ok .done)

section Steps

variable [IdentityTexts] [PasswordHashes]

variable (s : AccountDesk)

def perform : AccountCall → Outcome
  | .login call => BlogOps.Accounts.login s call
  | .verifyMfaLogin call => BlogOps.Accounts.verifyMfaLogin s call
  | .refresh call => BlogOps.Accounts.refresh s call
  | .resolvePrincipal call => BlogOps.Accounts.resolvePrincipal s call
  | .revokeSession now userId sessionId => BlogOps.Accounts.revokeSession s now userId sessionId
  | .revokeAllSessions now userId exceptSessionId =>
      .ok (s.revokeAll userId "user_revoked_all" now exceptSessionId, .ok .done)
  | .resetPassword call => BlogOps.Accounts.resetPassword s call
  | .changeMembers members workspaces =>
      .ok ({ s with
        members := members
        workspaces := workspaces }, .ok .done)

def stepAccounts (call : AccountCall) : AccountDesk :=
  match perform s call with
  | .ok (after, _) => after
  | .error _ => s

def answerOf (call : AccountCall) : Except Failure Answer :=
  match perform s call with
  | .ok (_, answer) => answer
  | .error e => .error e

end Steps

end BlogOps.Accounts
