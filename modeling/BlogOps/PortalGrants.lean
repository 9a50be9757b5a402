import BlogOps.PortalInvitations

/-!
# Grants as offered

What an accepted portal invitation grants, along every history of requests.
-/

namespace BlogOps.Portal

open KeyedTables TransitionRuns List

section Acceptance

variable {texts : PortalTexts} {s after : PortalBooks} {call : AcceptCall}
  {invitation : PortalInvitation} {grant : PortalAccessGrant}

/-- The token of the call opens the invitation. -/
structure Redeemable (texts : PortalTexts) (call : AcceptCall) (invitation : PortalInvitation) :
    Prop where
  token : invitation.tokenPrefix = tokenPrefix call.rawToken
  workspace : invitation.clientWorkspaceId = call.workspaceId
  pepper : ∃ pepper, call.pepper = .ok (invitation.tokenKeyVersion, pepper) ∧
    32 ≤ pepper.length ∧ texts.hmac pepper call.rawToken = invitation.tokenDigest
  pending : invitation.state = .pending
  unexpired : call.now < invitation.expiresAt

/-- There is a grant already, or a new one can be written. -/
def Storable (s : PortalBooks) (call : AcceptCall) (invitation : PortalInvitation) : Prop :=
  (∃ grant ∈ s.grants, grant.key = invitation.grantKey call.subjectId) ∨
    call.grantId ∉ s.grants.map PortalAccessGrant.id ∧ call.refuses = false

/-- The two ways to a grant. -/
inductive GrantEnd (s : PortalBooks) (call : AcceptCall) (invitation : PortalInvitation) :
    PortalAccessGrant → PortalBooks → Prop where
  | existing (grant : PortalAccessGrant) (hgrant : grant ∈ s.grants)
      (hkey : grant.key = invitation.grantKey call.subjectId) :
      GrantEnd s call invitation grant (s.accept call invitation)
  | new (hnone : ∀ grant ∈ s.grants, grant.key ≠ invitation.grantKey call.subjectId)
      (hid : call.grantId ∉ s.grants.map PortalAccessGrant.id) (hrefuses : call.refuses = false) :
      GrantEnd s call invitation (newGrant call invitation)
        { s.accept call invitation with grants := s.grants ++ [newGrant call invitation] }

theorem found_ok {α : Type} {failure : Failure} {x : Option α} {a : α} :
    found failure x = .ok a ↔ x = some a := by
  cases x <;> simp [found]

theorem grantAccess_ends (h : grantAccess call invitation s = .ok (grant, after)) :
    GrantEnd s call invitation grant after := by
  unfold grantAccess at h
  cases hfind : s.grants.find? fun grant => grant.key = invitation.grantKey call.subjectId with
  | some existing =>
    rw [hfind] at h
    cases h
    exact .existing _ (mem_of_find?_eq_some hfind) (by simpa using find?_some hfind)
  | none =>
    rw [hfind] at h
    obtain ⟨_, hid, h⟩ := bind_ok h
    obtain ⟨_, hrefuses, h⟩ := bind_ok h
    cases h
    refine .new (fun grant hgrant => ?_) (require_ok hid) (require_ok hrefuses)
    simpa using find?_eq_none.mp hfind grant hgrant

theorem grantAccess_of_storable (h : Storable s call invitation) :
    ∃ grant after, grantAccess call invitation s = .ok (grant, after) := by
  unfold grantAccess
  cases hfind : s.grants.find? fun grant => grant.key = invitation.grantKey call.subjectId with
  | some existing => exact ⟨existing, _, rfl⟩
  | none =>
    rcases h with ⟨grant, hgrant, hkey⟩ | ⟨hid, hrefuses⟩
    · exact absurd (by simpa using hkey) (find?_eq_none.mp hfind grant hgrant)
    · exact ⟨_, _, (bind_of_ok (require_of hid _) _).trans (bind_of_ok (require_of hrefuses _) _)⟩

theorem GrantEnd.storable (h : GrantEnd s call invitation grant after) : Storable s call invitation := by
  cases h with
  | existing grant hgrant hkey => exact .inl ⟨grant, hgrant, hkey⟩
  | new hnone hid hrefuses => exact .inr ⟨hid, hrefuses⟩

theorem GrantEnd.invitations (h : GrantEnd s call invitation grant after) : after.invitations =
      updateRow PortalInvitation.id invitation.id (acceptedInvitation call) s.invitations := by
  cases h <;> rfl

theorem acceptPortalInvitation_ok (h : acceptPortalInvitation texts call s = .ok (grant, after)) :
    ∃ invitation ∈ s.invitations, Redeemable texts call invitation ∧
      grantAccess call invitation s = .ok (grant, after) := by
  obtain ⟨owner, howner, h⟩ := bind_ok h
  obtain ⟨invitation, hinvitation, h⟩ := bind_ok h
  obtain ⟨provided, hprovided, h⟩ := bind_ok h
  obtain ⟨_, hversion, h⟩ := bind_ok h
  obtain ⟨_, hpepper, h⟩ := bind_ok h
  obtain ⟨_, hdigest, h⟩ := bind_ok h
  obtain ⟨_, hworkspace, h⟩ := bind_ok h
  obtain ⟨_, hopen, hgrant⟩ := bind_ok h
  have hfind := found_ok.mp hinvitation
  have hrow := find?_some hfind
  simp only [Bool.and_eq_true, decide_eq_true_eq] at hrow
  obtain ⟨keyVersion, pepper⟩ := provided
  have hkey : keyVersion = invitation.tokenKeyVersion := require_ok hversion
  subst hkey
  obtain ⟨hpending, hunexpired⟩ := require_ok hopen
  exact ⟨invitation, mem_of_find?_eq_some hfind,
    ⟨hrow.1.2, hrow.2, ⟨pepper, hprovided, require_ok hpepper, require_ok hdigest⟩, hpending,
      hunexpired⟩, hgrant⟩

/-- A test that only rows of one key pass finds the row of the key. -/
theorem find?_row {α κ : Type} {key : α → κ} {rows : List α} {row : α} (hkeyed : Keyed key rows)
    (hrow : row ∈ rows) {p : α → Bool} (hp : p row = true)
    (hkey : ∀ other, p other = true → key other = key row) : rows.find? p = some row := by
  cases hfind : rows.find? p with
  | none => exact absurd hp (find?_eq_none.mp hfind row hrow)
  | some other =>
    have hsame := hkeyed.eq_of_key_eq (mem_of_find?_eq_some hfind) hrow
      (hkey other (find?_some hfind))
    rw [hsame]

theorem acceptPortalInvitation_redeemable (hkeyed : Keyed PortalInvitation.tokenPrefix s.invitations)
    (hinvitation : invitation ∈ s.invitations) (h : Redeemable texts call invitation) :
    acceptPortalInvitation texts call s = grantAccess call invitation s := by
  obtain ⟨pepper, hprovided, hlength, hdigest⟩ := h.pepper
  have howner : resolvePortalInvitationWorkspace s (tokenPrefix call.rawToken) call.workspaceId =
      some invitation.workspaceId := by
    unfold resolvePortalInvitationWorkspace
    rw [find?_row hkeyed hinvitation]
    · rfl
    · simp [h.token, h.workspace]
    · intro other hother
      simp only [Bool.and_eq_true, decide_eq_true_eq] at hother
      rw [hother.1, h.token]
  have hfind : s.invitations.find? (fun other => other.workspaceId = invitation.workspaceId &&
      other.tokenPrefix = tokenPrefix call.rawToken &&
      other.clientWorkspaceId = call.workspaceId) = some invitation := by
    refine find?_row hkeyed hinvitation (by simp [h.token, h.workspace]) ?_
    intro other hother
    simp only [Bool.and_eq_true, decide_eq_true_eq] at hother
    rw [hother.1.2, h.token]
  unfold acceptPortalInvitation
  rw [bind_of_ok (found_ok.mpr howner), bind_of_ok (found_ok.mpr hfind), bind_of_ok hprovided]
  exact (bind_of_ok (require_of rfl _) _).trans <| (bind_of_ok (require_of hlength _) _).trans <|
    (bind_of_ok (require_of hdigest _) _).trans <|
    (bind_of_ok (require_of h.workspace.symm _) _).trans <|
    bind_of_ok (require_of ⟨h.pending, h.unexpired⟩ _) _

end Acceptance

section Invariant

variable {texts : PortalTexts} {s after : PortalBooks} {call : AcceptCall}
  {invitation : PortalInvitation} {grant : PortalAccessGrant}

structure PortalInvariant (texts : PortalTexts) (s : PortalBooks) : Prop where
  clientIds : Keyed AgencyClient.id s.clients
  invitationIds : Keyed PortalInvitation.id s.invitations
  prefixes : Keyed PortalInvitation.tokenPrefix s.invitations
  grantIds : Keyed PortalAccessGrant.id s.grants
  grantKeys : Keyed PortalAccessGrant.key s.grants
  tokens : ∀ invitation ∈ s.invitations, invitation.tokenPrefix = tokenPrefix invitation.rawToken ∧
      ∃ pepper, texts.hmac pepper invitation.rawToken = invitation.tokenDigest
  once : ∀ invitation ∈ s.invitations, invitation.acceptances ≤ 1 ∧
    (invitation.state = .pending → invitation.acceptances = 0)
  invitationClients : ∀ invitation ∈ s.invitations, ClientKnown s invitation.workspaceId
    invitation.agencyClientId invitation.clientWorkspaceId
  grantClients : ∀ grant ∈ s.grants, ClientKnown s grant.workspaceId grant.agencyClientId
    grant.clientWorkspaceId

theorem PortalInvariant.clientWorkspace (hs : PortalInvariant texts s)
    (hinvitation : invitation ∈ s.invitations) (hgrant : grant ∈ s.grants)
    (hclient : grant.agencyClientId = invitation.agencyClientId) :
    grant.clientWorkspaceId = invitation.clientWorkspaceId := by
  obtain ⟨first, hfirst, hfirstId, -, hfirstWorkspace⟩ := hs.grantClients grant hgrant
  obtain ⟨second, hsecond, hsecondId, -, hsecondWorkspace⟩ :=
    hs.invitationClients invitation hinvitation
  have hids : first.id = second.id := by
    rw [hfirstId, hsecondId, hclient]
  have hsame := hs.clientIds.eq_of_key_eq hfirst hsecond hids
  rw [← hfirstWorkspace, ← hsecondWorkspace, hsame]

theorem ClientKnown.of_clients {workspaceId agencyClientId clientWorkspaceId : Uuid}
    (h : ClientKnown s workspaceId agencyClientId clientWorkspaceId)
    (hclients : ∀ client ∈ s.clients, ∃ other ∈ after.clients, other.id = client.id ∧
      other.workspaceId = client.workspaceId ∧ other.clientWorkspaceId = client.clientWorkspaceId) :
    ClientKnown after workspaceId agencyClientId clientWorkspaceId := by
  obtain ⟨client, hclient, rfl, rfl, rfl⟩ := h
  exact hclients client hclient

section

variable (hs : PortalInvariant texts s)

include hs

theorem invariant_clients {clients : List AgencyClient} (hids : Keyed AgencyClient.id clients)
    (hclients : ∀ client ∈ s.clients, ∃ other ∈ clients, other.id = client.id ∧
      other.workspaceId = client.workspaceId ∧ other.clientWorkspaceId = client.clientWorkspaceId) :
    PortalInvariant texts { s with clients } where
  clientIds := hids
  invitationIds := hs.invitationIds
  prefixes := hs.prefixes
  grantIds := hs.grantIds
  grantKeys := hs.grantKeys
  tokens := hs.tokens
  once := hs.once
  invitationClients invitation hinvitation :=
    (hs.invitationClients invitation hinvitation).of_clients hclients
  grantClients grant hgrant := (hs.grantClients grant hgrant).of_clients hclients

theorem invariant_newGrant {row : PortalAccessGrant} (hid : row.id ∉ s.grants.map PortalAccessGrant.id)
    (hkey : row.key ∉ s.grants.map PortalAccessGrant.key)
    (hclient : ClientKnown s row.workspaceId row.agencyClientId row.clientWorkspaceId) :
    PortalInvariant texts { s with grants := s.grants ++ [row] } where
  clientIds := hs.clientIds
  invitationIds := hs.invitationIds
  prefixes := hs.prefixes
  grantIds := hs.grantIds.append_row fun other hother heq =>
    hid (heq ▸ mem_map_of_mem hother)
  grantKeys := hs.grantKeys.append_row fun other hother heq =>
    hkey (heq ▸ mem_map_of_mem hother)
  tokens := hs.tokens
  once := hs.once
  invitationClients := hs.invitationClients
  grantClients grant hgrant := by
    rcases mem_append.mp hgrant with hold | hnew
    · exact hs.grantClients grant hold
    · rw [mem_singleton.mp hnew]
      exact hclient

theorem invariant_amendGrant (id : Uuid) (state : PortalGrantState) (scopes : List String)
    (expiresAt : Option Int) : PortalInvariant texts { s with
      grants := updateRow PortalAccessGrant.id id (amendedGrant state scopes expiresAt)
        s.grants } where
  clientIds := hs.clientIds
  invitationIds := hs.invitationIds
  prefixes := hs.prefixes
  grantIds := hs.grantIds.updateRow fun _ _ => rfl
  grantKeys := hs.grantKeys.updateRow fun _ _ => rfl
  tokens := hs.tokens
  once := hs.once
  invitationClients := hs.invitationClients
  grantClients grant hgrant := by
    obtain ⟨old, hold, ⟨-, rfl⟩ | ⟨-, rfl⟩⟩ := mem_updateRow hgrant
    · exact hs.grantClients old hold
    · exact hs.grantClients grant hold

section

variable (hinvitation : invitation ∈ s.invitations) (hpending : invitation.state = .pending)

include hinvitation hpending

theorem invariant_accept : PortalInvariant texts (s.accept call invitation) where
  clientIds := hs.clientIds
  invitationIds := hs.invitationIds.updateRow fun _ _ => rfl
  prefixes := hs.prefixes.updateRow fun _ _ => rfl
  grantIds := hs.grantIds
  grantKeys := hs.grantKeys
  tokens other hother := by
    obtain ⟨old, hold, ⟨-, rfl⟩ | ⟨-, rfl⟩⟩ := mem_updateRow hother
    · exact hs.tokens old hold
    · exact hs.tokens other hold
  once other hother := by
    rcases hs.invitationIds.mem_updateRow hinvitation hother with rfl | ⟨hold, -⟩
    · have hzero := (hs.once invitation hinvitation).2 hpending
      refine ⟨?_, fun h => ?_⟩
      · simp [acceptedInvitation, hzero]
      · cases h
    · exact hs.once other hold
  invitationClients other hother := by
    obtain ⟨old, hold, ⟨-, rfl⟩ | ⟨-, rfl⟩⟩ := mem_updateRow hother
    · exact hs.invitationClients old hold
    · exact hs.invitationClients other hold
  grantClients := hs.grantClients

theorem invariant_grantEnd (h : GrantEnd s call invitation grant after) : PortalInvariant texts after := by
  have haccepted : PortalInvariant texts (s.accept call invitation) :=
    invariant_accept hs hinvitation hpending
  cases h with
  | existing grant hgrant hkey => exact haccepted
  | new hnone hid hrefuses =>
    refine invariant_newGrant haccepted hid ?_ (hs.invitationClients invitation hinvitation)
    intro hkey
    obtain ⟨other, hother, hsame⟩ := mem_map.mp hkey
    exact hnone other hother hsame

end

end

theorem issuePortalInvitation_ok {call : IssueCall} (h : issuePortalInvitation texts call s = .ok after) :
    ∃ relationship ∈ s.clients, relationship.workspaceId = call.workspaceId ∧
      ∃ keyVersion pepper, insertInvitation
        (newInvitation texts call relationship keyVersion pepper) call.refuses s = .ok after := by
  obtain ⟨relationship, hrelationship, h⟩ := bind_ok h
  obtain ⟨_, -, h⟩ := bind_ok h
  obtain ⟨_, -, h⟩ := bind_ok h
  obtain ⟨provided, -, h⟩ := bind_ok h
  obtain ⟨_, -, h⟩ := bind_ok h
  have hfind := found_ok.mp hrelationship
  have hrow := find?_some hfind
  simp only [Bool.and_eq_true, decide_eq_true_eq] at hrow
  exact ⟨relationship, mem_of_find?_eq_some hfind, hrow.1.1, provided.1, provided.2, h⟩

theorem insertInvitation_ok {refuses : Bool} (h : insertInvitation invitation refuses s = .ok after) :
    invitation.id ∉ s.invitations.map PortalInvitation.id ∧
      invitation.tokenPrefix ∉ s.invitations.map PortalInvitation.tokenPrefix ∧
      after = { s with invitations := s.invitations ++ [invitation] } := by
  obtain ⟨_, hid, h⟩ := bind_ok h
  obtain ⟨_, hprefix, h⟩ := bind_ok h
  obtain ⟨_, -, h⟩ := bind_ok h
  obtain ⟨_, -, h⟩ := bind_ok h
  exact ⟨require_ok hid, require_ok hprefix, (Except.ok.inj h).symm⟩

theorem invariant_issue {call : IssueCall} (hs : PortalInvariant texts s)
    (h : issuePortalInvitation texts call s = .ok after) : PortalInvariant texts after := by
  obtain ⟨relationship, hrelationship, hworkspace, keyVersion, pepper, h⟩ := issuePortalInvitation_ok h
  obtain ⟨hid, hprefix, rfl⟩ := insertInvitation_ok h
  have hrows : ∀ {P : PortalInvitation → Prop}, (∀ row ∈ s.invitations, P row) →
      P (newInvitation texts call relationship keyVersion pepper) →
      ∀ row ∈ s.invitations ++ [newInvitation texts call relationship keyVersion pepper],
        P row := by
    intro P hold hnew row hrow
    rcases mem_append.mp hrow with hmem | hmem
    · exact hold row hmem
    · rw [mem_singleton.mp hmem]
      exact hnew
  exact {
    clientIds := hs.clientIds
    invitationIds := hs.invitationIds.append_row fun other hother heq =>
      hid (heq ▸ mem_map_of_mem hother)
    prefixes := hs.prefixes.append_row fun other hother heq =>
      hprefix (heq ▸ mem_map_of_mem hother)
    grantIds := hs.grantIds
    grantKeys := hs.grantKeys
    tokens := hrows hs.tokens ⟨rfl, pepper, rfl⟩
    once := hrows hs.once ⟨Nat.zero_le 1, fun _ => rfl⟩
    invitationClients := hrows hs.invitationClients ⟨relationship, hrelationship, rfl, hworkspace, rfl⟩
    grantClients := hs.grantClients }

theorem invariant_answer {commits : Bool} {x : Except Failure PortalBooks}
    (hs : PortalInvariant texts s) (h : ∀ after, x = .ok after → PortalInvariant texts after) :
    PortalInvariant texts (s.answer commits x) := by
  cases x with
  | error e => exact hs
  | ok after =>
    cases commits with
    | true => exact h after rfl
    | false => exact hs

theorem invariant_step (s : PortalBooks) (action : PortalAction) (hs : PortalInvariant texts s) :
    PortalInvariant texts (stepPortal texts s action) := by
  cases action with
  | issue call => exact invariant_answer hs fun after h => invariant_issue hs h
  | accept call =>
    refine invariant_answer hs fun after h => ?_
    obtain ⟨⟨grant, other⟩, haccept, rfl⟩ := map_ok h
    obtain ⟨invitation, hinvitation, hredeemable, hgrant⟩ := acceptPortalInvitation_ok haccept
    exact invariant_grantEnd hs hinvitation hredeemable.pending (grantAccess_ends hgrant)
  | resolve grantId userId requestedWorkspaceId now => exact hs
  | client row =>
    simp only [stepPortal]
    split
    · rename_i hnew
      refine invariant_clients hs (hs.clientIds.append_row fun other hother heq =>
        hnew (heq ▸ mem_map_of_mem hother)) fun client hclient => ?_
      exact ⟨client, mem_append_left _ hclient, rfl, rfl, rfl⟩
    · exact hs
  | amendClient id state permissions =>
    refine invariant_clients hs (hs.clientIds.updateRow fun _ _ => rfl) fun client hclient => ?_
    by_cases hid : client.id = id
    · exact ⟨_, mem_updateRow_of_mem hclient hid, rfl, rfl, rfl⟩
    · exact ⟨client, mem_updateRow_of_ne hclient hid, rfl, rfl, rfl⟩
  | grant row =>
    simp only [stepPortal]
    split
    · rename_i hnew
      exact invariant_newGrant hs hnew.1 hnew.2.1 hnew.2.2
    · exact hs
  | amendGrant id state scopes expiresAt => exact invariant_amendGrant hs id state scopes expiresAt

theorem invariant_empty : PortalInvariant texts {} where
  clientIds := nodup_nil
  invitationIds := nodup_nil
  prefixes := nodup_nil
  grantIds := nodup_nil
  grantKeys := nodup_nil
  tokens := by simp
  once := by simp
  invitationClients := by simp
  grantClients := by simp

end Invariant

section Grants

variable {texts : PortalTexts} {s after : PortalBooks} {call : AcceptCall}
  {invitation : PortalInvitation} {grant : PortalAccessGrant}

/-- The call redeems an invitation with the token that was handed out for it, in time and in its
client workspace. -/
structure RedeemsOwn (s after : PortalBooks) (call : AcceptCall)
    (invitation : PortalInvitation) : Prop where
  issued : invitation ∈ s.invitations
  token : call.rawToken = invitation.rawToken
  unexpired : call.now < invitation.expiresAt
  workspace : call.workspaceId = invitation.clientWorkspaceId
  accepted : after.invitations =
    updateRow PortalInvitation.id invitation.id (acceptedInvitation call) s.invitations

/-- The user who accepts has the address that was invited. -/
def Invited (texts : PortalTexts) (call : AcceptCall) (invitation : PortalInvitation) : Prop :=
  ∃ keyVersion pepper, call.pepper = .ok (keyVersion, pepper) ∧
    emailHash texts pepper call.email = invitation.invitedEmailHash

/-- The user's grant is active, contains the scopes of the invitation and resolves to them. -/
def Granted (after : PortalBooks) (call : AcceptCall) (invitation : PortalInvitation) : Prop :=
  ∃ grant ∈ after.grants, grant.key = invitation.grantKey call.subjectId ∧
    grant.state = .active ∧ invitation.scopes ⊆ grant.scopes ∧
    ∃ principal, resolvePortalPrincipal after grant.id call.subjectId call.workspaceId call.now =
      .ok principal ∧ invitation.scopes ⊆ principal.permissions

def Accepts (texts : PortalTexts) (s : PortalBooks) (call : AcceptCall)
    (P : PortalBooks → PortalInvitation → Prop) : Prop :=
  ∀ grant after, acceptPortalInvitation texts call s = .ok (grant, after) → call.commits = true →
    ∃ invitation, RedeemsOwn s after call invitation ∧ P after invitation

def RedeemsOwnToken (texts : PortalTexts) (s : PortalBooks) : PortalAction → Prop
  | .accept call => Accepts texts s call fun _ _ => True
  | _ => True

def GrantsAsOffered (texts : PortalTexts) (s : PortalBooks) : PortalAction → Prop
  | .accept call => Accepts texts s call fun after invitation =>
      Invited texts call invitation ∧ Granted after call invitation
  | _ => True

/-- An existing grant that is as good as the invitation. -/
structure Sufficient (call : AcceptCall) (invitation : PortalInvitation)
    (grant : PortalAccessGrant) : Prop where
  active : grant.state = .active
  scopes : invitation.scopes ⊆ grant.scopes
  unexpired : ∀ moment ∈ grant.expiresAt, call.now < moment

/-- Whoever accepts was invited, and the user's grant, where there is one, is sufficient. -/
def Fitting (texts : PortalTexts) (s : PortalBooks) : PortalAction → Prop
  | .accept call => ∀ invitation ∈ s.invitations, Redeemable texts call invitation →
      Storable s call invitation → call.commits = true →
      Invited texts call invitation ∧
        ∀ grant ∈ s.grants, grant.key = invitation.grantKey call.subjectId → Sufficient call invitation grant
  | _ => True

theorem requirePortalTarget_ok {requestedWorkspaceId : Uuid} {now : Int} {u : Unit} :
    requirePortalTarget grant requestedWorkspaceId now = .ok u ↔
      requestedWorkspaceId = grant.clientWorkspaceId ∧ grant.state = .active ∧
        ∀ moment ∈ grant.expiresAt, now < moment := by
  constructor
  · intro h
    obtain ⟨_, hworkspace, h⟩ := bind_ok h
    exact ⟨require_ok hworkspace, require_ok h⟩
  · rintro ⟨hworkspace, hactive⟩
    exact (bind_of_ok (require_of hworkspace _) _).trans (require_of hactive _)

theorem resolvePortalPrincipal_row {requestedWorkspaceId : Uuid} {now : Int}
    (hkeyed : Keyed PortalAccessGrant.id after.grants) (hgrant : grant ∈ after.grants)
    (hworkspace : grant.clientWorkspaceId = requestedWorkspaceId) :
    resolvePortalPrincipal after grant.id grant.userId requestedWorkspaceId now =
      (requirePortalTarget grant requestedWorkspaceId now).map fun _ =>
        ⟨grant.userId, grant.clientWorkspaceId, grant.scopes⟩ := by
  have howner : resolvePortalGrantWorkspace after grant.id grant.userId requestedWorkspaceId =
      some grant.workspaceId := by
    unfold resolvePortalGrantWorkspace
    rw [find?_row hkeyed hgrant]
    · rfl
    · simp [hworkspace]
    · intro other hother
      simp only [Bool.and_eq_true, decide_eq_true_eq] at hother
      exact hother.1.1
  have hfind : after.grants.find? (fun other => other.workspaceId = grant.workspaceId &&
      other.id = grant.id && other.userId = grant.userId &&
      other.clientWorkspaceId = requestedWorkspaceId) = some grant := by
    refine find?_row hkeyed hgrant (by simp [hworkspace]) fun other hother => ?_
    simp only [Bool.and_eq_true, decide_eq_true_eq] at hother
    exact hother.1.1.2
  unfold resolvePortalPrincipal
  rw [bind_of_ok (found_ok.mpr howner), bind_of_ok (found_ok.mpr hfind)]
  cases requirePortalTarget grant requestedWorkspaceId now <;> rfl

theorem userId_of_key (h : grant.key = invitation.grantKey call.subjectId) : grant.userId = call.subjectId :=
  congrArg (fun key => key.2.2) h

theorem clientId_of_key (h : grant.key = invitation.grantKey call.subjectId) :
    grant.agencyClientId = invitation.agencyClientId :=
  congrArg (fun key => key.2.1) h

theorem granted_of_sufficient (hkeyed : Keyed PortalAccessGrant.id after.grants)
    (hgrant : grant ∈ after.grants) (hkey : grant.key = invitation.grantKey call.subjectId)
    (hworkspace : grant.clientWorkspaceId = call.workspaceId)
    (h : Sufficient call invitation grant) : Granted after call invitation := by
  refine ⟨grant, hgrant, hkey, h.active, h.scopes,
    ⟨grant.userId, grant.clientWorkspaceId, grant.scopes⟩, ?_, h.scopes⟩
  have htarget : requirePortalTarget grant call.workspaceId call.now = .ok () :=
    requirePortalTarget_ok.mpr ⟨hworkspace.symm, h.active, h.unexpired⟩
  rw [← userId_of_key hkey, resolvePortalPrincipal_row hkeyed hgrant hworkspace, htarget]
  rfl

theorem sufficient_of_granted (hids : Keyed PortalAccessGrant.id after.grants)
    (hkeys : Keyed PortalAccessGrant.key after.grants) (hgrant : grant ∈ after.grants)
    (hkey : grant.key = invitation.grantKey call.subjectId)
    (hworkspace : grant.clientWorkspaceId = call.workspaceId)
    (h : Granted after call invitation) : Sufficient call invitation grant := by
  obtain ⟨other, hother, hotherKey, hactive, hscopes, principal, hresolve, -⟩ := h
  have hsame := hkeys.eq_of_key_eq hother hgrant (hotherKey.trans hkey.symm)
  subst hsame
  rw [← userId_of_key hkey, resolvePortalPrincipal_row hids hother hworkspace] at hresolve
  obtain ⟨_, htarget, -⟩ := map_ok hresolve
  exact ⟨hactive, hscopes, (requirePortalTarget_ok.mp htarget).2.2⟩

/-- The grant is as offered exactly when one that was there already is sufficient. -/
theorem granted_iff (hs : PortalInvariant texts s) (hinvitation : invitation ∈ s.invitations)
    (hredeemable : Redeemable texts call invitation) (hend : GrantEnd s call invitation grant after) :
    Granted after call invitation ↔ ∀ old ∈ s.grants, old.key = invitation.grantKey call.subjectId →
        Sufficient call invitation old := by
  have hafter := invariant_grantEnd hs hinvitation hredeemable.pending hend
  have hworkspace : ∀ old ∈ s.grants, old.key = invitation.grantKey call.subjectId →
      old.clientWorkspaceId = call.workspaceId := by
    intro old hold hkey
    exact (hs.clientWorkspace hinvitation hold (clientId_of_key hkey)).trans hredeemable.workspace
  cases hend with
  | existing grant hgrant hkey =>
    constructor
    · intro h old hold holdKey
      exact sufficient_of_granted hafter.grantIds hafter.grantKeys hold holdKey
        (hworkspace old hold holdKey) h
    · intro h
      exact granted_of_sufficient hafter.grantIds hgrant hkey (hworkspace grant hgrant hkey)
        (h grant hgrant hkey)
  | new hnone hid hrefuses =>
    refine iff_of_true ?_ fun old hold hkey => absurd hkey (hnone old hold)
    refine @granted_of_sufficient _ _ _ (newGrant call invitation) hafter.grantIds ?_ rfl
      hredeemable.workspace ⟨rfl, fun _ hscope => hscope, fun _ hmoment => ?_⟩
    · exact mem_append_right _ mem_cons_self
    · cases hmoment

/-- Tokens are told apart by their digests. -/
theorem redeemsOwn (hinjective : ∀ p q (a b : String), texts.hmac p a = texts.hmac q b → a = b)
    (hs : PortalInvariant texts s) (hinvitation : invitation ∈ s.invitations)
    (hredeemable : Redeemable texts call invitation)
    (hend : GrantEnd s call invitation grant after) : RedeemsOwn s after call invitation := by
  obtain ⟨pepper, -, -, hdigest⟩ := hredeemable.pepper
  obtain ⟨-, issuing, hissued⟩ := hs.tokens invitation hinvitation
  exact ⟨hinvitation, hinjective _ _ _ _ (hdigest.trans hissued.symm), hredeemable.unexpired,
    hredeemable.workspace.symm, hend.invitations⟩

/-- The invitation that a call redeems is the one of its token. -/
theorem RedeemsOwn.eq_of_redeemable {other : PortalInvitation} (hs : PortalInvariant texts s)
    (h : RedeemsOwn s after call other) (hinvitation : invitation ∈ s.invitations)
    (hredeemable : Redeemable texts call invitation) : other = invitation := by
  refine hs.prefixes.eq_of_key_eq h.issued hinvitation ?_
  rw [(hs.tokens other h.issued).1, ← h.token, hredeemable.token]

section

variable (hinjective : ∀ p q (a b : String), texts.hmac p a = texts.hmac q b → a = b)

include hinjective

theorem accepts_iff (hs : PortalInvariant texts s) (P : PortalBooks → PortalInvitation → Prop) :
    Accepts texts s call P ↔
      ∀ invitation ∈ s.invitations, Redeemable texts call invitation → call.commits = true →
        ∀ grant after, GrantEnd s call invitation grant after → grantAccess call invitation s =
          .ok (grant, after) → P after invitation := by
  constructor
  · intro h invitation hinvitation hredeemable hcommits grant after hend hgrant
    have haccept := acceptPortalInvitation_redeemable hs.prefixes hinvitation hredeemable
    obtain ⟨other, hown, hp⟩ := h grant after (haccept.trans hgrant) hcommits
    rwa [hown.eq_of_redeemable hs hinvitation hredeemable] at hp
  · intro h grant after haccept hcommits
    obtain ⟨invitation, hinvitation, hredeemable, hgrant⟩ := acceptPortalInvitation_ok haccept
    have hend := grantAccess_ends hgrant
    exact ⟨invitation, redeemsOwn hinjective hs hinvitation hredeemable hend,
      h invitation hinvitation hredeemable hcommits grant after hend hgrant⟩

theorem redeemsOwnToken (s : PortalBooks) (action : PortalAction) (hs : PortalInvariant texts s) :
    RedeemsOwnToken texts s action := by
  cases action with
  | accept call =>
    exact (accepts_iff hinjective hs _).mpr fun _ _ _ _ _ _ _ _ => trivial
  | issue call => trivial
  | resolve grantId userId requestedWorkspaceId now => trivial
  | client row => trivial
  | amendClient id state permissions => trivial
  | grant row => trivial
  | amendGrant id state scopes expiresAt => trivial

theorem grantsAsOffered_iff (s : PortalBooks) (action : PortalAction) (hs : PortalInvariant texts s) :
    GrantsAsOffered texts s action ↔ Fitting texts s action := by
  cases action with
  | accept call =>
    refine (accepts_iff hinjective hs _).trans ⟨fun h => ?_, fun h => ?_⟩
    · intro invitation hinvitation hredeemable hstorable hcommits
      obtain ⟨grant, after, hgrant⟩ := grantAccess_of_storable hstorable
      have hend := grantAccess_ends hgrant
      obtain ⟨hinvited, hgranted⟩ :=
        h invitation hinvitation hredeemable hcommits grant after hend hgrant
      exact ⟨hinvited, (granted_iff hs hinvitation hredeemable hend).mp hgranted⟩
    · intro invitation hinvitation hredeemable hcommits grant after hend hgrant
      obtain ⟨hinvited, hsufficient⟩ := h invitation hinvitation hredeemable hend.storable hcommits
      exact ⟨hinvited, (granted_iff hs hinvitation hredeemable hend).mpr hsufficient⟩
  | issue call => exact Iff.rfl
  | resolve grantId userId requestedWorkspaceId now => exact Iff.rfl
  | client row => exact Iff.rfl
  | amendClient id state permissions => exact Iff.rfl
  | grant row => exact Iff.rfl
  | amendGrant id state scopes expiresAt => exact Iff.rfl

end

end Grants

section Histories

variable {texts : PortalTexts}

/-- An invitation is accepted at most once, with its own token, in time and in its client
workspace; and what is offered is granted along a history exactly when every user who accepts was
invited and has no insufficient grant. -/
theorem grants_as_offered_iff (hinjective : ∀ p q (a b : String), texts.hmac p a = texts.hmac q b → a = b)
    (actions : List PortalAction) :
    (∀ invitation ∈ (run (stepPortal texts) {} actions).invitations, invitation.acceptances ≤ 1) ∧
      Along (stepPortal texts) (RedeemsOwnToken texts) {} actions ∧
      (Along (stepPortal texts) (GrantsAsOffered texts) {} actions ↔
        Along (stepPortal texts) (Fitting texts) {} actions) := by
  have hrun := invariant_run (stepPortal texts) (I := PortalInvariant texts) invariant_step
    invariant_empty actions
  refine ⟨fun invitation hinvitation => (hrun.once invitation hinvitation).1, ?_, ?_⟩
  · exact along_of_invariant (stepPortal texts) (I := PortalInvariant texts)
      (P := fun _ _ => True) (fun s a hs _ => invariant_step s a hs)
      (fun s a hs _ => redeemsOwnToken hinjective s a hs) invariant_empty
      (along_of_always _ (fun _ _ => trivial) _ _)
  · exact along_iff_along_of_invariant (stepPortal texts) (I := PortalInvariant texts)
      (R := fun _ _ => True) (fun s a hs _ => grantsAsOffered_iff hinjective s a hs)
      (fun s a hs _ _ => invariant_step s a hs) invariant_empty
      (along_of_always _ (fun _ _ => trivial) _ _)

/-- Grants for one client belong to the workspace of the client. -/
theorem PortalInvariant.grantKey_eq (hs : PortalInvariant texts s) {other : PortalAccessGrant}
    (hgrant : grant ∈ s.grants) (hother : other ∈ s.grants) (huser : grant.userId = other.userId)
    (hclient : grant.agencyClientId = other.agencyClientId) : grant.key = other.key := by
  obtain ⟨first, hfirst, hfirstId, hfirstWorkspace, -⟩ := hs.grantClients grant hgrant
  obtain ⟨second, hsecond, hsecondId, hsecondWorkspace, -⟩ := hs.grantClients other hother
  have hsame : first = second :=
    hs.clientIds.eq_of_key_eq hfirst hsecond (hfirstId.trans (hclient.trans hsecondId.symm))
  have hworkspace : grant.workspaceId = other.workspaceId := by
    rw [← hfirstWorkspace, ← hsecondWorkspace, hsame]
  unfold PortalAccessGrant.key
  rw [hworkspace, hclient, huser]

/-- In every history a user has at most one grant for a client, a token belongs to one invitation,
and each invitation and each grant lies in the two workspaces of the one client that it names. -/
theorem portal_rows_isolated (actions : List PortalAction) :
    let s := run (stepPortal texts) {} actions
    (∀ grant ∈ s.grants, ∀ other ∈ s.grants, grant.userId = other.userId →
        grant.agencyClientId = other.agencyClientId → grant = other) ∧
      (∀ invitation ∈ s.invitations, ∀ other ∈ s.invitations,
        invitation.rawToken = other.rawToken → invitation = other) ∧
      (∀ client ∈ s.clients, ∀ other ∈ s.clients, client.id = other.id → client = other) ∧
      (∀ invitation ∈ s.invitations, ∃ client ∈ s.clients, client.id = invitation.agencyClientId ∧
        client.workspaceId = invitation.workspaceId ∧
          client.clientWorkspaceId = invitation.clientWorkspaceId) ∧
      ∀ grant ∈ s.grants, ∃ client ∈ s.clients, client.id = grant.agencyClientId ∧
        client.workspaceId = grant.workspaceId ∧
          client.clientWorkspaceId = grant.clientWorkspaceId := by
  have hrun := invariant_run (stepPortal texts) (I := PortalInvariant texts) invariant_step
    invariant_empty actions
  refine ⟨?_, ?_, fun client hclient other hother => hrun.clientIds.eq_of_key_eq hclient hother,
    hrun.invitationClients, hrun.grantClients⟩
  · intro grant hgrant other hother huser hclient
    exact hrun.grantKeys.eq_of_key_eq hgrant hother (hrun.grantKey_eq hgrant hother huser hclient)
  · intro invitation hinvitation other hother htoken
    refine hrun.prefixes.eq_of_key_eq hinvitation hother ?_
    rw [(hrun.tokens invitation hinvitation).1, (hrun.tokens other hother).1, htoken]

def plainTexts : PortalTexts where
  casefold value := value
  hmac _ value := value

def plainPepper : Pepper := List.replicate 32 7

def plainClient : AgencyClient :=
  { id := 1, workspaceId := 10, clientWorkspaceId := 20, permissions := ["content:read"] }

def readerIssue : IssueCall where
  workspaceId := 10
  subjectId := 11
  agencyClientId := 1
  email := "reader@client"
  scopes := ["content:read"]
  expiresAt := 100
  now := 0
  pepper := .ok ("v1", plainPepper)
  rawToken := "prt_0123456789"
  id := 3

def readerAccept : AcceptCall where
  workspaceId := 20
  subjectId := 30
  email := "reader@client"
  rawToken := "prt_0123456789"
  now := 1
  pepper := .ok ("v1", plainPepper)
  grantId := 4

/-- A reader is invited, accepts, and tries the token once more. -/
def welcome : List PortalAction :=
  [.client plainClient, .issue readerIssue, .accept readerAccept, .accept readerAccept]

theorem fitting_welcome : Along (stepPortal plainTexts) (Fitting plainTexts) {} welcome := by
  refine ⟨trivial, trivial, fun invitation hinvitation _ _ _ => ⟨?_, fun grant hgrant => ?_⟩,
    fun invitation hinvitation hredeemable _ _ => ?_, trivial⟩
  · have hhash : ∀ row ∈ (stepPortal plainTexts (stepPortal plainTexts {} (.client plainClient))
        (.issue readerIssue)).invitations,
        emailHash plainTexts plainPepper readerAccept.email = row.invitedEmailHash := by
      decide +kernel
    exact ⟨"v1", plainPepper, rfl, hhash invitation hinvitation⟩
  · have hnone : (stepPortal plainTexts (stepPortal plainTexts {} (.client plainClient))
        (.issue readerIssue)).grants = [] := by
      decide +kernel
    exact absurd (hnone ▸ hgrant) not_mem_nil
  · have haccepted : ∀ row ∈ (run (stepPortal plainTexts) {}
        [.client plainClient, .issue readerIssue, .accept readerAccept]).invitations,
        row.state ≠ .pending := by
      decide +kernel
    exact absurd hredeemable.pending (haccepted invitation hinvitation)

theorem grants_as_offered_sample :
    (run (stepPortal plainTexts) {} welcome).grants.map PortalAccessGrant.scopes = [["content:read"]] ∧
      (∀ invitation ∈ (run (stepPortal plainTexts) {} welcome).invitations,
        invitation.acceptances ≤ 1) ∧
      Along (stepPortal plainTexts) (RedeemsOwnToken plainTexts) {} welcome ∧
      Along (stepPortal plainTexts) (GrantsAsOffered plainTexts) {} welcome := by
  have hinjective : ∀ p q (a b : String), plainTexts.hmac p a = plainTexts.hmac q b → a = b :=
    fun _ _ _ _ h => h
  obtain ⟨honce, howns, hgrants⟩ := grants_as_offered_iff hinjective welcome
  exact ⟨by decide +kernel, honce, howns, hgrants.mpr fitting_welcome⟩

/-- A reader whose grant was revoked is invited once more. -/
def renewal : List PortalAction :=
  [.client plainClient,
    .grant { id := 2, workspaceId := 10, agencyClientId := 1, clientWorkspaceId := 20, userId := 30,
             scopes := ["content:read"], state := .revoked, grantedBy := 11 },
    .issue readerIssue]

/-- The invitation counts as accepted, and the grant is as revoked as before. -/
theorem revoked_grant_stays : ¬Along (stepPortal plainTexts) (GrantsAsOffered plainTexts) {}
      (renewal ++ [.accept readerAccept]) := by
  intro h
  obtain ⟨⟨grant, after⟩, haccept, hrevoked⟩ := ok_of_test
    (x := acceptPortalInvitation plainTexts readerAccept (run (stepPortal plainTexts) {} renewal))
    (fun answer => answer.2.grants.all fun grant => grant.state ≠ .active) (by decide +kernel)
  obtain ⟨invitation, -, -, granted, hgranted, -, hactive, -⟩ :=
    ((along_append _ _ _ renewal _).mp h).2.1 grant after haccept rfl
  have hstate := all_eq_true.mp hrevoked granted hgranted
  simp [hactive] at hstate

end Histories

end BlogOps.Portal
