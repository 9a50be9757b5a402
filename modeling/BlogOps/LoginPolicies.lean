import BlogOps.SessionEffects

/-!
# The authentication policies of the workspaces

A login reads the policy of one workspace, and a refresh carries its session to
another one.  Which runs uphold the policies of all of them.
-/

namespace BlogOps.Accounts

open Identity KeyedTables TransitionRuns List

/-- The policy of the workspace takes the session's password, or asks its user for the second
factor that the session does not have. -/
def Admitted [IdentityTexts] (s : AccountDesk) (login : LoginSession) (workspaceId : Uuid) : Prop :=
  ∀ user policy, s.userOf login.userId = some user → s.policyOf workspaceId = some policy →
    policy.forbidsPassword user.email = true →
      ∃ member, activeMembership s login.userId workspaceId = .ok member ∧ lacksMfa s member login = true

section Steps

variable [IdentityTexts] [PasswordHashes]

/-- No call resolves to a principal against the policy of its workspace. -/
def Upholds (s : AccountDesk) : Prop :=
  ∀ call principal, answerOf s (.resolvePrincipal call) = .ok (.principal principal) →
    ∀ login policy, s.sessionOf principal.sessionId = some login →
      s.policyOf principal.workspaceId = some policy →
        (∀ member, activeMembership s principal.subjectId principal.workspaceId = .ok member →
          policy.requireMfaRoleKeys.contains member.roleKey = true → login.mfaVerifiedAt ≠ none) ∧
        ∀ user, s.userOf principal.subjectId = some user →
          policy.forbidsPassword user.email = true → "password" ∉ login.authenticationMethods

omit [IdentityTexts] [PasswordHashes] in
/-- The calls that the policies are about. -/
def OfLogins : AccountCall → Prop
  | .login _ | .verifyMfaLogin _ | .refresh _ | .resolvePrincipal _ => True
  | _ => False

omit [PasswordHashes] in
/-- A refresh carries its session only to workspaces that admit it. -/
def SwitchesWithin (s : AccountDesk) : AccountCall → Prop
  | .refresh call => ∀ token login workspaceId, TokenFits s call token login workspaceId →
      Admitted s login workspaceId
  | _ => True

end Steps

/-- No session has been opened yet, and the users have keys. -/
structure Unvisited (s : AccountDesk) : Prop extends Unopened s where
  users : Keyed User.id s.users

structure PolicyBooks [IdentityTexts] (s : AccountDesk) : Prop where
  users : Keyed User.id s.users
  sessions : Keyed LoginSession.id s.sessions
  passwords : ∀ login ∈ s.sessions, "password" ∈ login.authenticationMethods
  challenges : ∀ challenge ∈ s.challenges, ∀ user policy, s.userOf challenge.userId = some user →
    s.policyOf challenge.workspaceId = some policy → policy.forbidsPassword user.email = false
  issued : ∀ claims ∈ s.issued, ∃ login ∈ s.sessions, login.id = claims.sessionId ∧
    Admitted s login claims.workspaceId

variable {user : User} {userId workspaceId : Uuid} {login : LoginSession}

section Books

variable [IdentityTexts] {s after : AccountDesk}

theorem policyBooks_of_unvisited (h : Unvisited s) : PolicyBooks s where
  users := h.users
  sessions := by simp [h.sessions, Keyed]
  passwords := by simp [h.sessions]
  challenges := by simp [h.challenges]
  issued := by simp [h.issued]

omit [IdentityTexts] in
/-- The users keep their keys and addresses; members, workspaces and policies are as they were. -/
structure SameDirectory (s after : AccountDesk) : Prop where
  members : after.members = s.members
  workspaces : after.workspaces = s.workspaces
  policies : after.policies = s.policies
  users : after.users = s.users ∨ ∃ userId now, after.users = updateRow (·.id) userId (User.seen now) s.users

omit [IdentityTexts] in
theorem SameDirectory.userOf (h : SameDirectory s after) (huser : after.userOf userId = some user) :
    ∃ old, s.userOf userId = some old ∧ old.email = user.email := by
  unfold AccountDesk.userOf at *
  rcases h.users with hsame | ⟨seenId, now, hseen⟩
  · exact ⟨user, hsame ▸ huser, rfl⟩
  · have hid : ∀ row : User, row.id = seenId → (row.seen now).id = row.id := fun _ _ => rfl
    rw [hseen, find?_updateRow hid, Option.map_eq_some_iff] at huser
    obtain ⟨old, hold, rfl⟩ := huser
    refine ⟨old, hold, ?_⟩
    split <;> rfl

omit [IdentityTexts] in
theorem SameDirectory.keyed_users (h : SameDirectory s after) (hkeyed : Keyed User.id s.users) :
    Keyed User.id after.users := by
  rcases h.users with hsame | ⟨seenId, now, hseen⟩
  · rwa [hsame]
  · rw [hseen]
    exact hkeyed.updateRow fun _ _ => rfl

omit [IdentityTexts] in
theorem SameDirectory.policyOf (h : SameDirectory s after) (workspaceId : Uuid) :
    after.policyOf workspaceId = s.policyOf workspaceId := by
  unfold AccountDesk.policyOf
  rw [h.policies]

omit [IdentityTexts] in
theorem SameDirectory.activeMembership (h : SameDirectory s after) (userId workspaceId : Uuid) :
    activeMembership after userId workspaceId = activeMembership s userId workspaceId := by
  unfold Accounts.activeMembership
  rw [h.members, h.workspaces]

theorem Admitted.later {row : LoginSession} (h : Admitted s login workspaceId) (hsame : SameDirectory s after)
    (hcontinues : Continues login row) : Admitted after row workspaceId := by
  intro user policy huser hpolicy hforbids
  obtain ⟨old, hold, hemail⟩ := hsame.userOf huser
  rw [hcontinues.userId] at hold
  rw [hsame.policyOf] at hpolicy
  obtain ⟨member, hmember, hlacks⟩ := h old policy hold hpolicy (hemail ▸ hforbids)
  refine ⟨member, ?_, ?_⟩
  · rw [hsame.activeMembership, hcontinues.userId]
    exact hmember
  · unfold lacksMfa at *
    rwa [hsame.policyOf, hcontinues.mfa]

variable {call : AccountCall} {answer : Except Failure Answer}

theorem Effect.sameDirectory (h : Effect s call after answer) (hcall : OfLogins call) :
    SameDirectory s after := by
  cases h with
  | loggedIn call user workspaceId row fits free => exact ⟨rfl, rfl, rfl, .inr ⟨user.id, call.now, rfl⟩⟩
  | verified call challenge user fits => exact ⟨rfl, rfl, rfl, .inr ⟨user.id, call.now, rfl⟩⟩
  | resolved call login user member fits =>
    unfold AccountDesk.touchIdle
    split
    · exact ⟨rfl, rfl, rfl, .inl rfl⟩
    · exact ⟨rfl, rfl, rfl, .inl rfl⟩
  | rolledBack | failed | challenged | closed | rotated => exact ⟨rfl, rfl, rfl, .inl rfl⟩
  | revoked | revokedAll | passwordSet | passwordReset | membersChanged => cases hcall

theorem Opened.password_mem {opened : List LoginSession} (h : Opened s call opened)
    (hlogin : login ∈ opened) : "password" ∈ login.authenticationMethods := by
  cases h with
  | none => cases hlogin
  | password => rw [mem_singleton.mp hlogin]; exact mem_singleton_self _
  | mfa => rw [mem_singleton.mp hlogin]; exact mem_cons_self

theorem openChallenge_ok {call : VerifyMfaCall} {challenge : AuthenticationChallenge}
    (h : openChallenge s call = .ok challenge) : challenge ∈ s.challenges := by
  unfold openChallenge at h
  split at h
  · cases h
  · rename_i found hfound
    obtain ⟨_, _, h⟩ := bind_ok h
    cases h
    exact mem_of_find?_eq_some hfound

/-- The challenges after a call are challenges from before, or that of a login which fits. -/
theorem Effect.mem_challenges (h : Effect s call after answer) {row : AuthenticationChallenge}
    (hrow : row ∈ after.challenges) :
    (∃ old ∈ s.challenges, row.userId = old.userId ∧ row.workspaceId = old.workspaceId) ∨
      ∃ user, LoginFits s user row.workspaceId ∧ row.userId = user.id := by
  have hkept (hsame : after.challenges = s.challenges) :
      ∃ old ∈ s.challenges, row.userId = old.userId ∧ row.workspaceId = old.workspaceId :=
    ⟨row, hsame ▸ hrow, rfl, rfl⟩
  cases h with
  | challenged call user workspaceId row fits =>
    rcases mem_append.mp hrow with hold | hnew
    · exact .inl ⟨_, hold, rfl, rfl⟩
    · rw [mem_singleton.mp hnew]
      exact .inr ⟨user, fits, rfl⟩
  | verified call challenge user fits =>
    obtain ⟨old, hold, ⟨-, rfl⟩ | ⟨-, rfl⟩⟩ := mem_updateRow hrow
    · exact .inl ⟨old, hold, rfl, rfl⟩
    · exact .inl ⟨_, hold, rfl, rfl⟩
  | resolved call login user member fits =>
    refine .inl (hkept ?_)
    unfold AccountDesk.touchIdle
    split <;> rfl
  | _ => exact .inl (hkept rfl)

theorem LoginFits.takes {found : User} {policy : WorkspaceAuthenticationPolicy}
    (h : LoginFits s user workspaceId) (hkeyed : Keyed User.id s.users)
    (hfound : s.userOf user.id = some found) (hpolicy : s.policyOf workspaceId = some policy) :
    policy.forbidsPassword found.email = false := by
  have hsame : found = user := hkeyed.eq_of_key_eq (userOf_some hfound).1 h.known (userOf_some hfound).2
  have hallowed := h.allowed
  rw [hpolicy, Option.any_some] at hallowed
  rwa [hsame]

/-- A new access token names a session that its workspace admits. -/
theorem PolicyBooks.issued_step (h : PolicyBooks s) (heffect : Effect s call after answer)
    (hswitches : SwitchesWithin s call) {claims : AccessTokenClaims} (hclaims : claims ∈ after.issued) :
    claims ∈ s.issued ∨ ∃ login ∈ after.sessions, login.id = claims.sessionId ∧
      Admitted s login claims.workspaceId := by
  cases heffect with
  | loggedIn call user workspaceId row fits free =>
    rcases mem_append.mp hclaims with hold | hnew
    · exact .inl hold
    · rw [mem_singleton.mp hnew]
      refine .inr ⟨_, mem_append_right _ (mem_singleton_self _), rfl, ?_⟩
      intro found policy hfound hpolicy hforbids
      exact absurd hforbids (by simp [fits.takes h.users hfound hpolicy])
  | verified call challenge user fits =>
    rcases mem_append.mp hclaims with hold | hnew
    · exact .inl hold
    · rw [mem_singleton.mp hnew]
      refine .inr ⟨_, mem_append_right _ (mem_singleton_self _), rfl, ?_⟩
      intro found policy hfound hpolicy hforbids
      have hid : user.id = challenge.userId := (userOf_some (activeUser_ok fits.active).1).2
      exact absurd hforbids (by simp [h.challenges challenge (openChallenge_ok fits.opened) found
        policy (hid ▸ hfound) hpolicy])
  | rotated call token login workspaceId fits =>
    rcases mem_append.mp hclaims with hold | hnew
    · exact .inl hold
    · rw [mem_singleton.mp hnew]
      have hlogin : login ∈ s.sessions := (sessionOf_some fits.session).1
      refine .inr ⟨login.touch call.now, ?_, rfl, hswitches token login workspaceId fits⟩
      exact mem_updateRow_of_mem hlogin rfl
  | resolved call login user member fits =>
    left
    unfold AccountDesk.touchIdle at hclaims
    split at hclaims
    · exact hclaims
    · exact hclaims
  | _ => exact .inl hclaims

theorem PolicyBooks.step (h : PolicyBooks s) (heffect : Effect s call after answer)
    (hcall : OfLogins call) (hswitches : SwitchesWithin s call) : PolicyBooks after := by
  have hsame : SameDirectory s after := heffect.sameDirectory hcall
  refine ⟨hsame.keyed_users h.users, heffect.keyed_sessions h.sessions, ?_, ?_, ?_⟩
  · intro row hrow
    rcases heffect.mem_sessions hrow with ⟨old, hold, hcontinues⟩ | ⟨opened, hopened, hmem⟩
    · rw [hcontinues.methods]
      exact h.passwords old hold
    · exact hopened.password_mem hmem
  · intro row hrow user policy huser hpolicy
    obtain ⟨found, hfound, hemail⟩ := hsame.userOf huser
    rw [hsame.policyOf] at hpolicy
    rw [← hemail]
    rcases heffect.mem_challenges hrow with ⟨old, hold, huserId, hworkspace⟩ | ⟨user, fits, huserId⟩
    · exact h.challenges old hold found policy (huserId ▸ hfound) (hworkspace ▸ hpolicy)
    · exact fits.takes h.users (huserId ▸ hfound) hpolicy
  · intro claims hclaims
    rcases h.issued_step heffect hswitches hclaims with hold | ⟨login, hlogin, hid, hadmitted⟩
    · obtain ⟨login, hlogin, hid, hadmitted⟩ := h.issued claims hold
      obtain ⟨row, hrow, hcontinues⟩ := heffect.keeps_session hlogin
      exact ⟨row, hrow, hcontinues.id.trans hid, hadmitted.later hsame hcontinues⟩
    · exact ⟨login, hlogin, hid, hadmitted.later hsame (continues_refl login)⟩

end Books

section Principals

variable [IdentityTexts] [PasswordHashes] {s : AccountDesk}

variable {member : Member}

omit [IdentityTexts] [PasswordHashes] in
theorem activeMembership_ok (h : activeMembership s userId workspaceId = .ok member) :
    member ∈ s.members ∧ member.userId = userId ∧ member.workspaceId = workspaceId := by
  unfold activeMembership at h
  split at h
  · rename_i found hfound
    cases h
    have hmatch := find?_some hfound
    simp only [decide_eq_true_eq] at hmatch
    exact ⟨mem_of_find?_eq_some hfound, hmatch.1, hmatch.2.1⟩
  · cases h

theorem answerOf_principal {call : ResolveCall} {principal : Principal}
    (h : answerOf s (.resolvePrincipal call) = .ok (.principal principal)) :
    ∃ login user member, ClaimsFit s call login user member ∧
      principal = newPrincipal user member login := by
  unfold answerOf at h
  split at h
  · rename_i after answer hperform
    obtain ⟨login, user, member, fits, -, hanswer⟩ := resolvePrincipal_ok hperform
    rw [h] at hanswer
    cases hanswer
    exact ⟨login, user, member, fits, rfl⟩
  · cases h

theorem answerOf_resolve {call : ResolveCall} (fits : ClaimsFit s call login user member) :
    answerOf s (.resolvePrincipal call) = .ok (.principal (newPrincipal user member login)) := by
  have hresolve : resolvePrincipal s call =
      .ok (s.touchIdle login call.now, .ok (.principal (newPrincipal user member login))) := by
    unfold resolvePrincipal
    rw [bind_of_ok fits.decoded, bind_of_ok fits.session, bind_of_ok fits.active,
      bind_of_ok fits.terms, bind_of_ok fits.membership, bind_of_ok (require_of fits.mfa _)]
    exact bind_of_ok (require_of fits.workspace _) _
  simp only [answerOf, perform, hresolve]

omit [IdentityTexts] [PasswordHashes] in
theorem openSession_of {claims : AccessTokenClaims} {now : Int}
    (hsession : s.sessionOf claims.sessionId = some login) (huser : login.userId = claims.userId)
    (hactive : login.status = .active) (hunexpired : now < login.expiresAt) :
    openSession s claims now = .ok login := by
  unfold openSession
  rw [hsession]
  exact bind_of_ok (require_of ⟨huser, hactive, hunexpired⟩ _) _

theorem PolicyBooks.upholds (h : PolicyBooks s) : Upholds s := by
  intro call principal hanswer login policy hsession hpolicy
  obtain ⟨found, user, member, fits, rfl⟩ := answerOf_principal hanswer
  obtain ⟨hfound, huserId, -, -⟩ := openSession_ok fits.session
  have hlogin : login = found := h.sessions.eq_of_key_eq (sessionOf_some hsession).1
    (sessionOf_some hfound).1 (sessionOf_some hsession).2
  obtain ⟨huser, hid⟩ := userOf_some (activeUser_ok fits.active).1
  obtain ⟨-, hmember, hworkspace⟩ := activeMembership_ok fits.membership
  dsimp only [newPrincipal] at hpolicy ⊢
  subst hlogin
  rw [hid, hworkspace]
  refine ⟨?_, ?_⟩
  · intro other hother hrole hnone
    rw [fits.membership] at hother
    cases hother
    have hmfa := fits.mfa
    unfold lacksMfa at hmfa
    rw [hpolicy, Option.any_some, hrole, hnone] at hmfa
    cases hmfa
  · intro owner howner hforbids
    obtain ⟨issued, hissued, hclaims, hadmitted⟩ := h.issued call.claims (require_ok fits.decoded).1
    have hsame : issued = login := h.sessions.eq_of_key_eq hissued (sessionOf_some hfound).1
      (hclaims.trans (sessionOf_some hfound).2.symm)
    rw [hsame] at hadmitted
    rw [hworkspace] at hpolicy
    obtain ⟨other, hother, hlacks⟩ := hadmitted owner policy (huserId ▸ howner) hpolicy hforbids
    rw [huserId, fits.membership] at hother
    cases hother
    rw [fits.mfa] at hlacks
    cases hlacks

omit [IdentityTexts] [PasswordHashes] in
theorem accessTtl_ge (s : AccountDesk) (workspaceId : Uuid) : 300 ≤ accessTtl s workspaceId := by
  unfold accessTtl
  cases s.policyOf workspaceId with
  | none => decide
  | some policy => exact policy.accessTokenTtl_bounds.1

omit [IdentityTexts] [PasswordHashes] in
/-- An access token is valid when it is issued. -/
theorem newPair_valid (s : AccountDesk) (login : LoginSession) (workspaceId : Uuid) (refreshToken : String)
    (now : Int) : let claims := (newPair s login workspaceId refreshToken now).accessToken
    now < claims.expiresAt * second ∧ claims.issuedAt * second ≤ now + 30 * second := by
  have httl : 300 ≤ accessTtl s workspaceId := accessTtl_ge s workspaceId
  dsimp only [newPair, newClaims, second]
  omega

omit [IdentityTexts] [PasswordHashes] in
theorem selectWorkspace_ok {requested : Option Uuid}
    (h : selectWorkspace s userId requested = .ok workspaceId) : s.isActive workspaceId = true ∧
      ∃ member, activeMembership s userId workspaceId = .ok member := by
  unfold selectWorkspace at h
  split at h
  · rename_i row hmin
    cases h
    obtain ⟨hrow, haccessible⟩ := mem_filter.mp (argmin_mem hmin)
    simp only [AccountDesk.accessible, Bool.and_eq_true, decide_eq_true_eq] at haccessible
    obtain ⟨⟨⟨huser, hstatus⟩, hactive⟩, -⟩ := haccessible
    refine ⟨hactive, ?_⟩
    obtain ⟨workspace, hworkspace, hmatch⟩ := any_eq_true.mp hactive
    simp only [Bool.and_eq_true, decide_eq_true_eq] at hmatch
    unfold activeMembership
    split
    · exact ⟨_, rfl⟩
    · rename_i hnone
      have hmiss := find?_eq_none.mp hnone row hrow
      exact absurd (decide_eq_true ⟨huser, rfl, hstatus, workspace, hworkspace, hmatch.1⟩) hmiss
  · cases h

omit [PasswordHashes] in
theorem refresh_of_fits {call : RefreshCall} {token : SessionRefreshToken}
    (fits : TokenFits s call token login workspaceId) :
    refresh s call = .ok (s.replaceToken token (replacementToken token login call)
      (newPair s login workspaceId call.newRefreshToken call.now).accessToken call.now,
        .ok (.tokens (newPair s login workspaceId call.newRefreshToken call.now))) := by
  obtain ⟨user, huser⟩ := fits.user
  have hunexpired : ¬ (login.expiresAt ≤ call.now ∨ token.expiresAt ≤ call.now) := by
    have := fits.unexpired
    omega
  rw [refresh_of_session fits.presented fits.session, bind_of_ok fits.selected]
  unfold refreshIn
  rw [if_neg (by simp [fits.unconsumed]), if_neg (by simp [fits.active]), if_neg hunexpired]
  unfold rotate
  rw [bind_of_ok huser]
  exact bind_of_ok (require_of fits.free _) _

/-- A refresh that fits leads to a principal of the workspace it selects, where the session does
not lack a second factor. -/
theorem principal_after_refresh {call : RefreshCall} {token : SessionRefreshToken}
    (fits : TokenFits s call token login workspaceId)
    (hmember : activeMembership s login.userId workspaceId = .ok member)
    (hmfa : lacksMfa s member login = false) : ∃ resolve user, s.userOf login.userId = some user ∧
      (stepAccounts s (.refresh call)).userOf user.id = some user ∧
      (stepAccounts s (.refresh call)).sessionOf login.id = some (login.touch call.now) ∧
      answerOf (stepAccounts s (.refresh call)) (.resolvePrincipal resolve) =
        .ok (.principal (newPrincipal user member (login.touch call.now))) := by
  obtain ⟨user, huser⟩ := fits.user
  have hstep : stepAccounts s (.refresh call) = s.replaceToken token (replacementToken token login call)
      (newPair s login workspaceId call.newRefreshToken call.now).accessToken call.now := by
    simp only [stepAccounts, perform, refresh_of_fits fits]
  have hsession : (stepAccounts s (.refresh call)).sessionOf login.id =
      some (login.touch call.now) := by
    have hid : login.id = token.sessionId := (sessionOf_some fits.session).2
    have htouch : ∀ row : LoginSession, row.id = login.id → (row.touch call.now).id = row.id :=
      fun _ _ => rfl
    rw [hstep]
    refine (find?_updateRow htouch login.id s.sessions).trans ?_
    have hfound : s.sessions.find? (fun row => row.id = login.id) = some login := hid ▸ fits.session
    rw [hfound, Option.map_some, if_pos rfl]
  refine ⟨{
    now := call.now
    claims := (newPair s login workspaceId call.newRefreshToken call.now).accessToken
    terms := .ok () }, user, (activeUser_ok huser).1, ?_, hsession, ?_⟩
  · rw [hstep, (userOf_some (activeUser_ok huser).1).2]
    exact (activeUser_ok huser).1
  refine answerOf_resolve {
    decoded := ?_
    session := ?_
    active := ?_
    terms := rfl
    membership := ?_
    mfa := ?_
    workspace := ?_ }
  · apply require_of
    rw [hstep]
    exact ⟨mem_append_right _ (mem_singleton_self _),
      newPair_valid s login workspaceId call.newRefreshToken call.now⟩
  · exact openSession_of hsession rfl fits.active fits.unexpired.1
  · rw [hstep]
    exact huser
  · rw [hstep]
    exact hmember
  · rw [hstep]
    exact hmfa
  · rw [hstep]
    exact (selectWorkspace_ok fits.selected).1

end Principals

section Runs

variable [IdentityTexts] [PasswordHashes] {s : AccountDesk}

/-- The policies are upheld after a call exactly when it does not carry a session to a workspace
that does not admit it. -/
theorem PolicyBooks.upholds_iff (h : PolicyBooks s) {call : AccountCall} (hcall : OfLogins call) :
    Upholds (stepAccounts s call) ↔ SwitchesWithin s call := by
  constructor
  · intro hupholds
    unfold SwitchesWithin
    split
    · rename_i call
      intro token login workspaceId fits user policy huser hpolicy hforbids
      by_contra hlacks
      obtain ⟨-, member, hmember⟩ := selectWorkspace_ok fits.selected
      have hmfa : lacksMfa s member login = false := by
        rw [Bool.eq_false_iff]
        exact fun hlacking => hlacks ⟨member, hmember, hlacking⟩
      obtain ⟨resolve, found, hfound, hkept, hsession, hanswer⟩ :=
        principal_after_refresh fits hmember hmfa
      have hsameUser : found = user := Option.some.inj (hfound.symm.trans huser)
      have hworkspace : member.workspaceId = workspaceId := (activeMembership_ok hmember).2.2
      have hsame : SameDirectory s (stepAccounts s (.refresh call)) :=
        (effect_step s (.refresh call)).sameDirectory hcall
      have hstepped : (stepAccounts s (.refresh call)).policyOf member.workspaceId = some policy := by
        rw [hsame.policyOf, hworkspace, hpolicy]
      have hlogin : login ∈ s.sessions := (sessionOf_some fits.session).1
      exact (hupholds resolve _ hanswer (login.touch call.now) policy hsession hstepped).2 user
        (hsameUser ▸ hkept) hforbids (h.passwords login hlogin)
    · trivial
  · intro hswitches
    exact (h.step (effect_step s call) hcall hswitches).upholds

/-- The runs of logins, second factors, refreshes and principals that uphold the policies of all
workspaces are those whose refreshes carry no session to a workspace that does not admit it. -/
theorem upholds_policies_iff (hs : Unvisited s) (calls : List AccountCall)
    (hcalls : Along stepAccounts (fun _ call => OfLogins call) s calls) :
    (∀ before, before <+: calls → Upholds (run stepAccounts s before)) ↔
      Along stepAccounts SwitchesWithin s calls :=
  throughout_iff_along_of_invariant stepAccounts (I := PolicyBooks)
    (fun _ h => h.upholds) (fun _ _ h hcall => h.upholds_iff hcall)
    (fun _ call h hcall hswitches => h.step (effect_step _ call) hcall hswitches)
    (policyBooks_of_unvisited hs) hcalls

end Runs

section Samples

attribute [local instance] sampleAccountTexts samplePasswordHashes

/-- The second workspace of the writer takes no passwords. -/
def twoWorkspaces : AccountDesk :=
  { sampleAccounts with
    members := [sampleMember 1, sampleMember 2]
    policies := [{ workspaceId := 2, passwordLoginEnabled := false }] }

def resolveInSecond : ResolveCall where
  now := 1
  claims := {
    userId := 1
    workspaceId := 2
    sessionId := 10
    authenticationMethods := ["password"]
    issuedAt := 0
    expiresAt := 900 }
  terms := .ok ()

theorem unvisited_twoWorkspaces : Unvisited twoWorkspaces where
  toUnopened := ⟨rfl, rfl, rfl, rfl, rfl⟩
  users := nodup_singleton _

theorem switchesWithin_of_test {s : AccountDesk} {call : RefreshCall}
    (h : ((s.tokenOf call.rawRefreshToken).all fun token =>
      (s.sessionOf token.sessionId).all fun login =>
      (selectWorkspace s login.userId call.requestedWorkspaceId).toOption.all fun workspaceId =>
      (s.policyOf workspaceId).isNone) = true) : SwitchesWithin s (.refresh call) := by
  intro token login workspaceId fits user policy _ hpolicy
  rw [fits.presented, Option.all_some, fits.session, Option.all_some, fits.selected] at h
  have hnone : (s.policyOf workspaceId).isNone = true := h
  rw [hpolicy] at hnone
  cases hnone

/-- A session that stays in its workspace. -/
theorem upholds_policies_sample : Unvisited twoWorkspaces ∧ ∀ before,
    before <+: [sampleLogin, sampleRefresh 1 "r0" (some 1) 21 "r1"] →
      Upholds (run stepAccounts twoWorkspaces before) := by
  have hcalls : Along stepAccounts (fun _ call => OfLogins call) twoWorkspaces
      [sampleLogin, sampleRefresh 1 "r0" (some 1) 21 "r1"] := ⟨trivial, trivial, trivial⟩
  refine ⟨unvisited_twoWorkspaces,
    (upholds_policies_iff unvisited_twoWorkspaces _ hcalls).mpr ⟨trivial, ?_, trivial⟩⟩
  exact switchesWithin_of_test (by decide +kernel)

/-- A session opened by password enters the workspace that takes none. -/
theorem password_session_enters_second_workspace : ¬ ∀ before,
    before <+: [sampleLogin, sampleRefresh 1 "r0" (some 2) 21 "r1"] →
      Upholds (run stepAccounts twoWorkspaces before) := by
  intro hupholds
  have hanswer : answerOf (run stepAccounts twoWorkspaces
      [sampleLogin, sampleRefresh 1 "r0" (some 2) 21 "r1"]) (.resolvePrincipal resolveInSecond) =
        .ok (.principal {
          subjectId := 1
          workspaceId := 2
          sessionId := 10
          permissions := []
          authenticationMethods := ["password"]
          mfaVerifiedAt := none }) := by
    decide +kernel
  have hsession : ((run stepAccounts twoWorkspaces [sampleLogin, sampleRefresh 1 "r0" (some 2) 21
      "r1"]).sessionOf 10).any (fun login => login.authenticationMethods = ["password"]) = true := by
    decide +kernel
  have hpolicy : ((run stepAccounts twoWorkspaces [sampleLogin, sampleRefresh 1 "r0" (some 2) 21
      "r1"]).policyOf 2).any (fun policy => !policy.passwordLoginEnabled) = true := by
    decide +kernel
  have huser : ((run stepAccounts twoWorkspaces [sampleLogin, sampleRefresh 1 "r0" (some 2) 21
      "r1"]).userOf 1).isSome = true := by
    decide +kernel
  obtain ⟨login, hsession, hmethods⟩ := (Option.any_eq_true _ _).mp hsession
  obtain ⟨policy, hpolicy, hdisabled⟩ := (Option.any_eq_true _ _).mp hpolicy
  obtain ⟨user, huser⟩ := Option.isSome_iff_exists.mp huser
  have hforbids : policy.forbidsPassword user.email = true := by
    unfold WorkspaceAuthenticationPolicy.forbidsPassword
    rw [hdisabled, Bool.true_or]
  refine (hupholds _ prefix_rfl resolveInSecond _ hanswer login policy hsession hpolicy).2 user
    huser hforbids ?_
  rw [of_decide_eq_true hmethods]
  exact mem_singleton_self _

end Samples

end BlogOps.Accounts
