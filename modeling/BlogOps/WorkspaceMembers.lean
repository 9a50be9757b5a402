import BlogOps.AppErrors
import BlogOps.KeyedTables
import BlogOps.PythonText
import BlogOps.TransitionRuns

/-!
# Members of a workspace

The memberships of a workspace as invitations, role changes, removals,
transfers of ownership and SCIM payloads write them.
-/

namespace BlogOps.Identity

open KeyedTables

inductive UserStatus where
  | pendingEmail | active | dormant | disabled | deletionPending | deleted
deriving DecidableEq, Repr

inductive WorkspaceStatus where
  | active | deletionScheduled | deleted
deriving DecidableEq, Repr

inductive MembershipStatus where
  | active | suspended | removed
deriving DecidableEq, Repr

inductive InvitationStatus where
  | pending | accepted | cancelled | expired
deriving DecidableEq, Repr

structure User where
  id : Uuid
  email : String
  displayName : String
  status : UserStatus
  emailVerifiedAt : Option Int
deriving DecidableEq, Repr

structure Role where
  id : Uuid
  key : String
  permissions : List String
  isOwner : Bool
deriving DecidableEq, Repr

/-- The roles of a workspace; only its own role `owner` is an owner role. -/
structure RoleTable where
  rows : List Role
  ids : Keyed Role.id rows
  keys : Keyed Role.key rows
  owner_iff : ∀ role ∈ rows, role.isOwner = true ↔ role.key = "owner"

structure Membership where
  id : Uuid
  userId : Uuid
  roleId : Uuid
  status : MembershipStatus
  joinedAt : Int
  removedAt : Option Int := none
deriving DecidableEq, Repr

structure WorkspaceInvitation where
  id : Uuid
  email : String
  roleId : Uuid
  invitedByUserId : Uuid
  tokenHash : String
  status : InvitationStatus := .pending
  expiresAt : Int
  acceptedByUserId : Option Uuid := none
  acceptedAt : Option Int := none
  cancelledAt : Option Int := none
deriving DecidableEq, Repr

/-- A link of the resource type `USER`. -/
structure SCIMResourceLink where
  id : Uuid
  configurationId : Uuid
  externalId : String
  userId : Uuid
  active : Bool := true
  attributes : String := "{}"
deriving DecidableEq, Repr

def SCIMResourceLink.key (link : SCIMResourceLink) : Uuid × String :=
  (link.configurationId, link.externalId)

structure WorkspaceDesk where
  workspaceId : Uuid
  roles : RoleTable
  users : List User
  memberships : List Membership
  invitations : List WorkspaceInvitation := []
  links : List SCIMResourceLink := []

/-- `str.casefold`, the IDNA codec, the digest of a token, the workspace that an invitation token
names, and the token of an invitation. -/
class IdentityTexts where
  casefold : String → String
  idna : String → Option String
  digest : String → String
  invitationWorkspaceId : String → Option Uuid
  invitationToken : (workspaceId invitationId : Uuid) → String

structure InviteCall where
  id : Uuid
  now : Int
  workspace : WorkspaceStatus := .active
  actorUserId : Uuid
  email : String
  roleId : Uuid
  expiresInHours : Nat

structure AcceptCall where
  membershipId : Uuid
  now : Int
  userId : Uuid
  rawToken : String

structure ChangeRoleCall where
  workspace : WorkspaceStatus := .active
  actorUserId : Uuid
  targetUserId : Uuid
  roleId : Uuid

structure RemoveCall where
  now : Int
  workspace : WorkspaceStatus := .active
  actorUserId : Uuid
  targetUserId : Uuid

/-- `loginSession` is the `mfa_verified_at` of the row of the session, if there is one. -/
structure TransferCall where
  now : Int
  workspace : WorkspaceStatus := .active
  subjectId : Uuid
  sessionId : Option Uuid
  loginSession : Option (Option Int)
  newOwnerUserId : Uuid

structure SCIMUserPayload where
  externalId : String
  userName : String
  displayName : String
  active : Bool
  groups : List String := []
  attributes : String := "{}"

/-- A value of the mapping that is no text is `none`. -/
structure SCIMConfiguration where
  id : Uuid
  groupRoleMapping : List (String × Option String) := []

structure ProvisionCall where
  userId : Uuid
  membershipId : Uuid
  linkId : Uuid
  now : Int
  configuration : SCIMConfiguration
  payload : SCIMUserPayload

inductive WorkspaceCall where
  | inviteMember (call : InviteCall)
  | acceptInvitation (call : AcceptCall)
  | changeMemberRole (call : ChangeRoleCall)
  | removeMember (call : RemoveCall)
  | transferOwnership (call : TransferCall)
  | provisionScimUser (call : ProvisionCall)

/-- A call, and whether the database commits what it writes. -/
structure WorkspaceRequest where
  call : WorkspaceCall
  commits : Bool := true

namespace WorkspaceDesk

variable (desk : WorkspaceDesk)

def roleOf (roleId : Uuid) : Option Role := desk.roles.rows.find? fun role => role.id = roleId

def roleNamed (key : String) : Option Role := desk.roles.rows.find? fun role => role.key = key

def membershipOf (userId : Uuid) : Option Membership :=
  desk.memberships.find? fun row => row.userId = userId

def activeMembership (userId : Uuid) : Option Membership :=
  desk.memberships.find? fun row => row.userId = userId ∧ row.status = .active

def userNamed (email : String) : Option User := desk.users.find? fun user => user.email = email

end WorkspaceDesk

/-- `Permission.WORKSPACE_MANAGE`. -/
def workspaceManage : String := "workspace:manage"

def accessDenied : Failure := .app {
  code := "WORKSPACE_ACCESS_DENIED"
  message := "워크스페이스 접근 권한이 없습니다."
  statusCode := 403 }

variable (desk : WorkspaceDesk)

def authorize (workspace : WorkspaceStatus) (actorUserId : Uuid) (permission : String) :
    Except Failure (Membership × Role) :=
  match desk.activeMembership actorUserId with
  | none => .error accessDenied
  | some membership =>
      match desk.roleOf membership.roleId with
      | none => .error accessDenied
      | some role => do
          require (workspace ≠ .deleted) accessDenied
          require (permission ∈ role.permissions) (.app {
            code := "PERMISSION_DENIED"
            message := "이 작업을 수행할 권한이 없습니다."
            statusCode := 403
            fields := [⟨"permissions", permission⟩] })
          .ok (membership, role)

def roleNotFound : Failure := .app {
  code := "ROLE_NOT_FOUND", message := "역할을 찾을 수 없습니다.", statusCode := 404 }

def requiredRole (roleId : Uuid) : Except Failure Role :=
  match desk.roleOf roleId with
  | some role => .ok role
  | none => .error roleNotFound

def lockedMembership (userId : Uuid) : Except Failure Membership :=
  match desk.activeMembership userId with
  | some membership => .ok membership
  | none => .error (.app {
      code := "MEMBER_NOT_FOUND", message := "멤버를 찾을 수 없습니다.", statusCode := 404 })

/-- `assert role is not None`. -/
def roleOfMembership (membership : Membership) : Except Failure Role :=
  match desk.roleOf membership.roleId with
  | some role => .ok role
  | none => .error .assertionError

/-- The row is an active membership with the owner role. -/
def WorkspaceDesk.owning (row : Membership) : Bool :=
  row.status = .active && (desk.roleOf row.roleId).any (·.isOwner)

def protectLastOwner (excludingUserId : Uuid) : Except Failure Unit :=
  require (∃ row ∈ desk.memberships, row.userId ≠ excludingUserId ∧ desk.owning row = true) (.app {
    code := "LAST_OWNER_PROTECTED"
    message := "마지막 Owner는 역할 변경 또는 제거할 수 없습니다."
    statusCode := 409 })

/-- The owner role is only left while another member has it. -/
def leaveOwnerRole (leaves : Bool) (userId : Uuid) : Except Failure Unit :=
  if leaves then protectLastOwner desk userId else .ok ()

def Membership.withRole (roleId : Uuid) (row : Membership) : Membership := { row with roleId := roleId }

def Membership.remove (now : Int) (row : Membership) : Membership :=
  { row with
    status := .removed
    removedAt := some now }

def Membership.sync (roleId : Uuid) (status : MembershipStatus) (row : Membership) : Membership :=
  { row with
    roleId := roleId
    status := status }

@[simp] theorem Membership.userId_withRole (roleId : Uuid) (row : Membership) :
    (row.withRole roleId).userId = row.userId := rfl

@[simp] theorem Membership.roleId_withRole (roleId : Uuid) (row : Membership) :
    (row.withRole roleId).roleId = roleId := rfl

@[simp] theorem Membership.userId_remove (now : Int) (row : Membership) :
    (row.remove now).userId = row.userId := rfl

@[simp] theorem Membership.userId_sync (roleId : Uuid) (status : MembershipStatus)
    (row : Membership) : (row.sync roleId status).userId = row.userId := rfl

/-- A write of the columns of the membership of a user. -/
def WorkspaceDesk.write (userId : Uuid) (f : Membership → Membership) : WorkspaceDesk :=
  { desk with memberships := updateRow (·.userId) userId f desk.memberships }

def WorkspaceDesk.enrol (row : Membership) : Except Failure WorkspaceDesk := do
  require (∀ other ∈ desk.memberships, other.id ≠ row.id) (.integrity "memberships")
  .ok { desk with memberships := desk.memberships ++ [row] }

/-- The user's membership is rewritten, or he gets a new one. -/
def WorkspaceDesk.admit (row : Membership) (f : Membership → Membership) : Except Failure WorkspaceDesk :=
  match desk.membershipOf row.userId with
  | none => desk.enrol row
  | some _ => .ok (desk.write row.userId f)

section Texts

variable [IdentityTexts]

open IdentityTexts

def invalidEmail : Failure := .validationError

def normalizeEmail (value : String) : Except Failure String := do
  let email := (casefold (PythonText.strip value)).toList
  require (email.length ≤ 320 ∧ email.count '@' = 1) invalidEmail
  let mailbox := email.takeWhile (· ≠ '@')
  let domain := (email.dropWhile (· ≠ '@')).tail
  require (mailbox ≠ [] ∧ domain ≠ [] ∧ '.' ∈ domain ∧ domain.head? ≠ some '.' ∧
    domain.getLast? ≠ some '.') invalidEmail
  match idna (String.ofList domain) with
  | some normalized => .ok (String.ofList mailbox ++ "@" ++ normalized)
  | none => .error invalidEmail

def oneHour : Int := 60 * 60 * 1000000

variable (desk : WorkspaceDesk)

def newInvitation (call : InviteCall) (role : Role) : WorkspaceInvitation where
  id := call.id
  email := call.email
  roleId := role.id
  invitedByUserId := call.actorUserId
  tokenHash := digest (invitationToken desk.workspaceId call.id)
  expiresAt := call.now + call.expiresInHours * oneHour

def cancelPending (email : String) (now : Int) (row : WorkspaceInvitation) : WorkspaceInvitation :=
  if row.email = email ∧ row.status = .pending then
    { row with
      status := .cancelled
      cancelledAt := some now }
  else row

def inviteMember (call : InviteCall) : Except Failure WorkspaceDesk := do
  let _ ← authorize desk call.workspace call.actorUserId workspaceManage
  let role ← requiredRole desk call.roleId
  require (role.isOwner = false) (.app {
    code := "OWNER_INVITATION_NOT_ALLOWED"
    message := "Owner 권한은 소유권 이전 절차로만 부여할 수 있습니다."
    statusCode := 409 })
  require (¬ ∃ row ∈ desk.memberships, row.status = .active ∧
      ∃ user ∈ desk.users, user.id = row.userId ∧ user.email = call.email) (.app {
    code := "ALREADY_A_MEMBER", message := "이미 참여 중인 사용자입니다.", statusCode := 409 })
  let invitation := newInvitation desk call role
  require (∀ other ∈ desk.invitations, other.id ≠ invitation.id ∧ other.tokenHash ≠ invitation.tokenHash)
    (.integrity "workspace_invitations")
  .ok { desk with
    invitations := desk.invitations.map (cancelPending call.email call.now) ++ [invitation] }

def invalidInvitation : Failure := .app {
  code := "INVITATION_INVALID"
  message := "초대가 유효하지 않거나 만료되었습니다."
  statusCode := 400 }

variable (call : AcceptCall)

/-- The invitation of the token, checked for the user that accepts it. -/
def openInvitation : Except Failure WorkspaceInvitation := do
  require (invitationWorkspaceId call.rawToken = some desk.workspaceId) invalidInvitation
  match desk.invitations.find? (fun row => row.tokenHash = digest call.rawToken) with
  | none => .error invalidInvitation
  | some invitation => do
      require (invitation.status = .pending ∧ call.now < invitation.expiresAt) invalidInvitation
      require (∃ user ∈ desk.users, user.id = call.userId ∧ user.email = invitation.email) (.app {
        code := "INVITATION_EMAIL_MISMATCH"
        message := "초대받은 이메일 계정으로 로그인해야 합니다."
        statusCode := 403 })
      .ok invitation

def acceptedInvitation (row : WorkspaceInvitation) : WorkspaceInvitation :=
  { row with
    status := .accepted
    acceptedByUserId := some call.userId
    acceptedAt := some call.now }

def rejoin (invitation : WorkspaceInvitation) (row : Membership) : Membership :=
  { row with
    roleId := invitation.roleId
    status := .active
    joinedAt := call.now
    removedAt := none }

def acceptInvitation : Except Failure WorkspaceDesk := do
  let invitation ← openInvitation desk call
  let enrolled ← desk.admit {
    id := call.membershipId
    userId := call.userId
    roleId := invitation.roleId
    status := .active
    joinedAt := call.now } (rejoin call invitation)
  .ok { enrolled with
    invitations := updateRow (·.id) invitation.id (acceptedInvitation call) enrolled.invitations }

end Texts

def changeMemberRole (call : ChangeRoleCall) : Except Failure WorkspaceDesk := do
  let _ ← authorize desk call.workspace call.actorUserId workspaceManage
  let membership ← lockedMembership desk call.targetUserId
  let newRole ← requiredRole desk call.roleId
  let oldRole ← roleOfMembership desk membership
  require (¬ (newRole.isOwner = true ∧ oldRole.isOwner = false)) (.app {
    code := "OWNER_TRANSFER_REQUIRED"
    message := "Owner 지정은 소유권 이전 절차를 사용해야 합니다."
    statusCode := 409 })
  leaveOwnerRole desk (oldRole.isOwner && !newRole.isOwner) call.targetUserId
  .ok (desk.write call.targetUserId (Membership.withRole newRole.id))

def removeMember (call : RemoveCall) : Except Failure WorkspaceDesk := do
  let _ ← authorize desk call.workspace call.actorUserId workspaceManage
  let membership ← lockedMembership desk call.targetUserId
  let role ← roleOfMembership desk membership
  leaveOwnerRole desk role.isOwner call.targetUserId
  .ok (desk.write call.targetUserId (Membership.remove call.now))

def fiveMinutes : Int := 5 * 60 * 1000000

def mfaReauthRequired (message : String) : Failure := .app {
  code := "MFA_REAUTH_REQUIRED", message := message, statusCode := 403 }

/-- The owner role and the role `admin`, once the transfer has passed its checks. -/
def transferRoles (call : TransferCall) : Except Failure (Role × Role) := do
  let (_, currentRole) ← authorize desk call.workspace call.subjectId workspaceManage
  require (currentRole.isOwner = true) (.app {
    code := "OWNER_REQUIRED"
    message := "Owner만 소유권을 이전할 수 있습니다."
    statusCode := 403 })
  require (call.sessionId ≠ none) (mfaReauthRequired "MFA 재인증이 필요합니다.")
  require (call.loginSession.any (·.any (call.now - fiveMinutes ≤ ·)) = true)
    (mfaReauthRequired "최근 5분 이내 MFA 재인증이 필요합니다.")
  let _ ← lockedMembership desk call.newOwnerUserId
  match desk.roleNamed "admin" with
  | none => .error (.app {
      code := "ROLE_CONFIGURATION_INVALID", message := "Admin 역할이 없습니다.", statusCode := 500 })
  | some adminRole => .ok (currentRole, adminRole)

def transferOwnership (call : TransferCall) : Except Failure WorkspaceDesk := do
  let (ownerRole, adminRole) ← transferRoles desk call
  -- where the target is the owner himself, the second write is to the same row
  let handed := desk.write call.newOwnerUserId (Membership.withRole ownerRole.id)
  .ok (handed.write call.subjectId (Membership.withRole adminRole.id))

def roleKeyFromScimGroups (mapping : List (String × Option String)) (groups : List String) : String :=
  let valueOf group := ((mapping.find? fun entry => entry.1 = group).bind Prod.snd)
  match groups.findSome? valueOf with
  | some roleKey => roleKey
  | none => (valueOf "__default__").getD "viewer"

variable (call : ProvisionCall)

def scimRole : Except Failure Role :=
  match (desk.roleNamed
      (roleKeyFromScimGroups call.configuration.groupRoleMapping call.payload.groups)).filter
      (fun role => !role.isOwner) |>.or (desk.roleNamed "viewer") with
  | some role => .ok role
  | none => .error (.app {
      code := "ROLE_CONFIGURATION_INVALID", message := "SCIM 기본 역할이 없습니다.", statusCode := 500 })

def newScimUser (email : String) : User where
  id := call.userId
  email := email
  displayName := call.payload.displayName
  status := if call.payload.active then .active else .disabled
  emailVerifiedAt := some call.now

/-- The user of the payload, who is added when there is none, and the users with him. -/
def scimUser (email : String) : Except Failure (User × List User) :=
  match desk.userNamed email with
  | some user => .ok (user, desk.users)
  | none => do
      require (∀ other ∈ desk.users, other.id ≠ call.userId) (.integrity "users")
      .ok (newScimUser call email, desk.users ++ [newScimUser call email])

def scimStatus (payload : SCIMUserPayload) : MembershipStatus :=
  if payload.active then .active else .suspended

def WorkspaceDesk.linkOf (configurationId : Uuid) (externalId : String) : Option SCIMResourceLink :=
  desk.links.find? fun link => link.key = (configurationId, externalId)

def SCIMResourceLink.sync (payload : SCIMUserPayload) (link : SCIMResourceLink) : SCIMResourceLink :=
  { link with
    active := payload.active
    attributes := payload.attributes }

def newLink (user : User) : SCIMResourceLink where
  id := call.linkId
  configurationId := call.configuration.id
  externalId := call.payload.externalId
  userId := user.id
  active := call.payload.active
  attributes := call.payload.attributes

/-- The link of the external identifier with the flag and the attributes of the payload; only a new
link is given the user. -/
def scimLink (user : User) : Except Failure (SCIMResourceLink × List SCIMResourceLink) :=
  match desk.linkOf call.configuration.id call.payload.externalId with
  | some link =>
      .ok (link.sync call.payload,
        updateRow SCIMResourceLink.key link.key (SCIMResourceLink.sync call.payload) desk.links)
  | none => do
      require (∀ other ∈ desk.links, other.id ≠ call.linkId) (.integrity "scim_resource_links")
      .ok (newLink call user, desk.links ++ [newLink call user])

structure Provisioned where
  desk : WorkspaceDesk
  user : User
  link : SCIMResourceLink

def provisionScimUser [IdentityTexts] (desk : WorkspaceDesk) (call : ProvisionCall) :
    Except Failure Provisioned := do
  let email ← normalizeEmail call.payload.userName
  let (user, users) ← scimUser desk call email
  let role ← scimRole desk call
  let enrolled ← desk.admit {
    id := call.membershipId
    userId := user.id
    roleId := role.id
    status := scimStatus call.payload
    joinedAt := call.now } (Membership.sync role.id (scimStatus call.payload))
  let (link, links) ← scimLink desk call user
  .ok { desk := { enrolled with
          users := users
          links := links }
        user := user
        link := link }

section Steps

variable [IdentityTexts]

variable (desk : WorkspaceDesk)

def perform : WorkspaceCall → Except Failure WorkspaceDesk
  | .inviteMember call => BlogOps.Identity.inviteMember desk call
  | .acceptInvitation call => BlogOps.Identity.acceptInvitation desk call
  | .changeMemberRole call => BlogOps.Identity.changeMemberRole desk call
  | .removeMember call => BlogOps.Identity.removeMember desk call
  | .transferOwnership call => BlogOps.Identity.transferOwnership desk call
  | .provisionScimUser call => (BlogOps.Identity.provisionScimUser desk call).map Provisioned.desk

def answerRequest (request : WorkspaceRequest) : Except Failure WorkspaceDesk := do
  let after ← perform desk request.call
  require (request.commits = true) (.integrity "commit")
  .ok after

def stepWorkspace (request : WorkspaceRequest) : WorkspaceDesk :=
  match answerRequest desk request with
  | .ok after => after
  | .error _ => desk

end Steps

end BlogOps.Identity
