import BlogOps.AppErrors
import BlogOps.KeyedTables
import BlogOps.PythonText
import BlogOps.TransitionRuns

/-!
# Portal invitations

Agency clients with their portal invitations and the access grants of portal users, over the
workspaces of all agencies: issuing and accepting an invitation, and resolving the principal of a
grant.  Others may add grants and change them.
-/

namespace BlogOps.Portal

open KeyedTables TransitionRuns

inductive AgencyClientState where
  | pending | active | suspended | removed
deriving DecidableEq, Repr

inductive PortalInvitationState where
  | pending | accepted | revoked | expired
deriving DecidableEq, Repr

inductive PortalGrantState where
  | active | revoked | expired
deriving DecidableEq, Repr

structure AgencyClient where
  id : Uuid
  workspaceId : Uuid
  clientWorkspaceId : Uuid
  state : AgencyClientState := .active
  permissions : List String
deriving DecidableEq, Repr

/-- `rawToken` and `acceptances` are ghosts: the token that was handed out, and how often the
invitation was accepted. -/
structure PortalInvitation where
  id : Uuid
  workspaceId : Uuid
  agencyClientId : Uuid
  clientWorkspaceId : Uuid
  invitedEmailHash : String
  tokenPrefix : String
  tokenDigest : String
  tokenKeyVersion : String
  scopes : List String
  state : PortalInvitationState := .pending
  expiresAt : Int
  acceptedBy : Option Uuid := none
  acceptedAt : Option Int := none
  invitedBy : Uuid
  rawToken : String
  acceptances : Nat := 0
deriving DecidableEq, Repr

structure PortalAccessGrant where
  id : Uuid
  workspaceId : Uuid
  agencyClientId : Uuid
  clientWorkspaceId : Uuid
  userId : Uuid
  scopes : List String
  state : PortalGrantState := .active
  expiresAt : Option Int := none
  grantedBy : Uuid
deriving DecidableEq, Repr

/-- The unique constraint `b2b_portal_grant_user`. -/
def PortalAccessGrant.key (grant : PortalAccessGrant) : Uuid × Uuid × Uuid :=
  (grant.workspaceId, grant.agencyClientId, grant.userId)

def PortalInvitation.grantKey (invitation : PortalInvitation) (userId : Uuid) : Uuid × Uuid × Uuid :=
  (invitation.workspaceId, invitation.agencyClientId, userId)

structure PortalBooks where
  clients : List AgencyClient := []
  invitations : List PortalInvitation := []
  grants : List PortalAccessGrant := []
deriving DecidableEq, Repr

abbrev Pepper := List UInt8

structure PortalTexts where
  casefold : String → String
  hmac : Pepper → String → String

def portalAllowedScopes : List String :=
  ["content:read", "content:comment", "content:approve", "report:read", "notification:read"]

def portalForbiddenScopes : List String :=
  ["billing:manage", "api:manage", "workspace:manage", "content:publish", "secret:read", "admin:operate"]

def portalError (code message : String) (statusCode : Nat) : Failure :=
  .app { code, message, statusCode }

def authorizePortalScopes (requested relationshipPermissions : List String) : Except Failure Unit :=
  require
    (requested ≠ [] ∧ (∀ scope ∈ requested, scope ∉ portalForbiddenScopes) ∧
      ∀ scope ∈ requested, scope ∈ relationshipPermissions ∧ scope ∈ portalAllowedScopes)
    (portalError "PORTAL_SCOPE_ESCALATION" "고객 포털은 해당 고객의 검수·댓글·보고서 최소 권한만 사용할 수 있습니다." 403)

/-- `sorted`, of a set of allowed scopes. -/
def sortedScopes (scopes : List String) : List String :=
  ["content:approve", "content:comment", "content:read", "notification:read",
    "report:read"].filter fun scope => scope ∈ scopes

def requirePepper (pepper : Pepper) : Except Failure Unit :=
  require (32 ≤ pepper.length) (portalError "PORTAL_TOKEN_HASHER_UNAVAILABLE" "포털 Token 비밀이 구성되지 않았습니다." 503)

def tokenPrefix (rawToken : String) : String := (rawToken.take 12).toString

variable (texts : PortalTexts)

def emailHash (pepper : Pepper) (email : String) : String :=
  texts.hmac pepper (texts.casefold (PythonText.strip email))

def requirePortalTarget (grant : PortalAccessGrant) (requestedWorkspaceId : Uuid) (now : Int) :
    Except Failure Unit := do
  require (requestedWorkspaceId = grant.clientWorkspaceId)
    (portalError "PORTAL_RESOURCE_NOT_FOUND" "리소스를 찾을 수 없습니다." 404)
  require (grant.state = .active ∧ ∀ moment ∈ grant.expiresAt, now < moment)
    (portalError "PORTAL_GRANT_INACTIVE" "고객 포털 권한이 만료되었거나 해제되었습니다." 403)

def found {α : Type} (failure : Failure) : Option α → Except Failure α
  | some row => .ok row
  | none => .error failure

/-- `pepper` is the answer of the secrets provider; `rawToken` and `id` are drawn. -/
structure IssueCall where
  workspaceId : Uuid
  subjectId : Uuid
  agencyClientId : Uuid
  email : String
  scopes : List String
  expiresAt : Int
  now : Int
  pepper : Except Failure (String × Pepper)
  rawToken : String
  id : Uuid
  refuses : Bool := false
  commits : Bool := true

def insertInvitation (invitation : PortalInvitation) (refuses : Bool) (s : PortalBooks) :
    Except Failure PortalBooks := do
  require (invitation.id ∉ s.invitations.map PortalInvitation.id) (.integrity "pk_b2b_portal_invitations")
  require (invitation.tokenPrefix ∉ s.invitations.map PortalInvitation.tokenPrefix)
    (.integrity "b2b_portal_invite_prefix")
  require (invitation.tokenDigest ∉ s.invitations.map PortalInvitation.tokenDigest)
    (.integrity "b2b_portal_invite_digest")
  require (refuses = false) .validationError
  return { s with invitations := s.invitations ++ [invitation] }

def newInvitation (call : IssueCall) (relationship : AgencyClient) (keyVersion : String)
    (pepper : Pepper) : PortalInvitation where
  id := call.id
  workspaceId := call.workspaceId
  agencyClientId := relationship.id
  clientWorkspaceId := relationship.clientWorkspaceId
  invitedEmailHash := emailHash texts pepper call.email
  tokenPrefix := Portal.tokenPrefix call.rawToken
  tokenDigest := texts.hmac pepper call.rawToken
  tokenKeyVersion := keyVersion
  scopes := sortedScopes call.scopes
  expiresAt := call.expiresAt
  invitedBy := call.subjectId
  rawToken := call.rawToken

def issuePortalInvitation (call : IssueCall) (s : PortalBooks) : Except Failure PortalBooks := do
  let relationship ← found (portalError "AGENCY_CLIENT_NOT_FOUND" "활성 고객 관계를 찾을 수 없습니다." 404)
    (s.clients.find? fun client => client.workspaceId = call.workspaceId &&
      client.id = call.agencyClientId && client.state = .active)
  require (call.now < call.expiresAt)
    (portalError "PORTAL_INVITATION_EXPIRY_INVALID" "초대 만료 시각은 미래여야 합니다." 422)
  authorizePortalScopes call.scopes relationship.permissions
  let provided ← call.pepper
  requirePepper provided.2
  insertInvitation (newInvitation texts call relationship provided.1 provided.2) call.refuses s

/-- `email` is the address of the user who accepts. -/
structure AcceptCall where
  workspaceId : Uuid
  subjectId : Uuid
  email : String
  rawToken : String
  now : Int
  pepper : Except Failure (String × Pepper)
  grantId : Uuid
  refuses : Bool := false
  commits : Bool := true

def invitationInvalid : Failure := portalError "PORTAL_INVITATION_INVALID" "포털 초대가 올바르지 않습니다." 404

variable (s : PortalBooks)

/-- The SQL function `resolve_portal_invitation_workspace`. -/
def resolvePortalInvitationWorkspace (token : String) (clientWorkspaceId : Uuid) : Option Uuid :=
  (s.invitations.find? fun invitation => invitation.tokenPrefix = token &&
    invitation.clientWorkspaceId = clientWorkspaceId).map PortalInvitation.workspaceId

variable (call : AcceptCall)

def acceptedInvitation (invitation : PortalInvitation) : PortalInvitation :=
  { invitation with
    state := .accepted
    acceptedBy := some call.subjectId
    acceptedAt := some call.now
    acceptances := invitation.acceptances + 1 }

def PortalBooks.accept (invitation : PortalInvitation) : PortalBooks :=
  { s with
    invitations := updateRow PortalInvitation.id invitation.id (acceptedInvitation call) s.invitations }

def newGrant (invitation : PortalInvitation) : PortalAccessGrant where
  id := call.grantId
  workspaceId := invitation.workspaceId
  agencyClientId := invitation.agencyClientId
  clientWorkspaceId := invitation.clientWorkspaceId
  userId := call.subjectId
  scopes := invitation.scopes
  grantedBy := invitation.invitedBy

/-- The user's grant: the existing one as it is, or a new one. -/
def grantAccess (invitation : PortalInvitation) (s : PortalBooks) :
    Except Failure (PortalAccessGrant × PortalBooks) :=
  match s.grants.find? fun grant => grant.key = invitation.grantKey call.subjectId with
  | some existing => .ok (existing, s.accept call invitation)
  | none => do
    require (call.grantId ∉ s.grants.map PortalAccessGrant.id) (.integrity "pk_b2b_portal_access_grants")
    require (call.refuses = false) .validationError
    return (newGrant call invitation,
      { s.accept call invitation with grants := s.grants ++ [newGrant call invitation] })

def acceptPortalInvitation (s : PortalBooks) : Except Failure (PortalAccessGrant × PortalBooks) := do
  let owner ← found invitationInvalid
    (resolvePortalInvitationWorkspace s (tokenPrefix call.rawToken) call.workspaceId)
  let invitation ← found invitationInvalid
    (s.invitations.find? fun invitation => invitation.workspaceId = owner &&
      invitation.tokenPrefix = tokenPrefix call.rawToken &&
      invitation.clientWorkspaceId = call.workspaceId)
  let provided ← call.pepper
  require (provided.1 = invitation.tokenKeyVersion) invitationInvalid
  requirePepper provided.2
  require (texts.hmac provided.2 call.rawToken = invitation.tokenDigest) invitationInvalid
  require (call.workspaceId = invitation.clientWorkspaceId)
    (portalError "PORTAL_INVITATION_WORKSPACE_MISMATCH" "초대 대상 고객 Workspace가 아닙니다." 403)
  require (invitation.state = .pending ∧ call.now < invitation.expiresAt)
    (portalError "PORTAL_INVITATION_INACTIVE" "포털 초대가 만료되었거나 사용되었습니다." 409)
  grantAccess call invitation s

structure PortalPrincipal where
  subjectId : Uuid
  workspaceId : Uuid
  permissions : List String
deriving DecidableEq, Repr

def resourceNotFound : Failure := portalError "PORTAL_RESOURCE_NOT_FOUND" "리소스를 찾을 수 없습니다." 404

/-- The SQL function `resolve_portal_grant_workspace`. -/
def resolvePortalGrantWorkspace (grantId userId clientWorkspaceId : Uuid) : Option Uuid :=
  (s.grants.find? fun grant => grant.id = grantId && grant.userId = userId &&
    grant.clientWorkspaceId = clientWorkspaceId).map PortalAccessGrant.workspaceId

def resolvePortalPrincipal (grantId userId requestedWorkspaceId : Uuid) (now : Int) :
    Except Failure PortalPrincipal := do
  let owner ← found resourceNotFound (resolvePortalGrantWorkspace s grantId userId requestedWorkspaceId)
  let grant ← found resourceNotFound
    (s.grants.find? fun grant => grant.workspaceId = owner && grant.id = grantId &&
      grant.userId = userId && grant.clientWorkspaceId = requestedWorkspaceId)
  requirePortalTarget grant requestedWorkspaceId now
  return {
    subjectId := userId, workspaceId := grant.clientWorkspaceId, permissions := grant.scopes }

/-- The agency client that a row names by the foreign key `b2b_agency_client_identity`. -/
def ClientKnown (workspaceId agencyClientId clientWorkspaceId : Uuid) : Prop :=
  ∃ client ∈ s.clients, client.id = agencyClientId ∧ client.workspaceId = workspaceId ∧
    client.clientWorkspaceId = clientWorkspaceId

instance (s : PortalBooks) (workspaceId agencyClientId clientWorkspaceId : Uuid) :
    Decidable (ClientKnown s workspaceId agencyClientId clientWorkspaceId) :=
  inferInstanceAs (Decidable (∃ client ∈ s.clients, _))

/-- Requests, and what others write: a new client, a change of a client, a new grant, a change of
a grant. -/
inductive PortalAction where
  | issue (call : IssueCall)
  | accept (call : AcceptCall)
  | resolve (grantId userId requestedWorkspaceId : Uuid) (now : Int)
  | client (row : AgencyClient)
  | amendClient (id : Uuid) (state : AgencyClientState) (permissions : List String)
  | grant (row : PortalAccessGrant)
  | amendGrant (id : Uuid) (state : PortalGrantState) (scopes : List String)
      (expiresAt : Option Int)

def PortalBooks.answer (commits : Bool) : Except Failure PortalBooks → PortalBooks
  | .ok after => if commits = true then after else s
  | .error _ => s

def amendedGrant (state : PortalGrantState) (scopes : List String) (expiresAt : Option Int)
    (grant : PortalAccessGrant) : PortalAccessGrant :=
  { grant with state, scopes, expiresAt }

def amendedClient (state : AgencyClientState) (permissions : List String)
    (client : AgencyClient) : AgencyClient :=
  { client with state, permissions }

/-- A new client or grant keeps the constraints of its table. -/
def stepPortal : PortalAction → PortalBooks
  | .issue call => s.answer call.commits (issuePortalInvitation texts call s)
  | .accept call => s.answer call.commits ((acceptPortalInvitation texts call s).map Prod.snd)
  | .resolve _ _ _ _ => s
  | .client row =>
    if row.id ∉ s.clients.map AgencyClient.id then { s with clients := s.clients ++ [row] } else s
  | .amendClient id state permissions =>
    { s with
      clients := updateRow AgencyClient.id id (amendedClient state permissions) s.clients }
  | .grant row =>
    if row.id ∉ s.grants.map PortalAccessGrant.id ∧ row.key ∉ s.grants.map PortalAccessGrant.key ∧
        ClientKnown s row.workspaceId row.agencyClientId row.clientWorkspaceId then
      { s with grants := s.grants ++ [row] }
    else s
  | .amendGrant id state scopes expiresAt =>
    { s with
      grants := updateRow PortalAccessGrant.id id (amendedGrant state scopes expiresAt) s.grants }

end BlogOps.Portal
