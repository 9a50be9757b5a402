import BlogOps.WorkspaceMembers

/-!
# The owner of a workspace

Who holds the owner role after each request, and which requests take it from
its holder without handing it on.
-/

namespace BlogOps.Identity

open KeyedTables TransitionRuns List

/-- The users of the active memberships with the owner role. -/
def WorkspaceDesk.holders (desk : WorkspaceDesk) : List Uuid :=
  (desk.memberships.filter desk.owning).map Membership.userId

/-- One user holds the owner role after the request, and another one than before only by a
transfer to him. -/
structure KeepsOwner [IdentityTexts] (desk : WorkspaceDesk) (request : WorkspaceRequest) :
    Prop where
  one : ∃ owner, (stepWorkspace desk request).holders = [owner]
  moved : ∀ owner ∈ (stepWorkspace desk request).holders, owner ∉ desk.holders →
    ∃ call after, request.call = .transferOwnership call ∧ call.newOwnerUserId = owner ∧
      answerRequest desk request = .ok after

/-- The request passes its checks at nobody's cost: the holder of the owner role accepts no
invitation, is named by no SCIM payload, and hands the workspace to someone else. -/
def SparesOwner [IdentityTexts] (desk : WorkspaceDesk) (request : WorkspaceRequest) : Prop :=
  request.commits = true →
    match request.call with
    | .acceptInvitation call =>
        (∃ invitation, openInvitation desk call = .ok invitation) → call.userId ∉ desk.holders
    | .provisionScimUser call => ∀ email user,
        normalizeEmail call.payload.userName = .ok email → desk.userNamed email = some user →
        (∃ role, scimRole desk call = .ok role) → (∃ link, scimLink desk call user = .ok link) →
          user.id ∉ desk.holders
    | .transferOwnership call =>
        (∃ roles, transferRoles desk call = .ok roles) → call.newOwnerUserId ≠ call.subjectId
    | _ => True

structure MemberBooks (desk : WorkspaceDesk) : Prop where
  members : Keyed Membership.userId desk.memberships
  users : ∀ row ∈ desk.memberships, ∃ user ∈ desk.users, user.id = row.userId
  invitations : ∀ row ∈ desk.invitations, ∀ role, desk.roleOf row.roleId = some role → role.isOwner = false

/-- A workspace with one owner, and with invitations as `invite_member` writes them. -/
structure OwnedWorkspace (desk : WorkspaceDesk) : Prop extends MemberBooks desk where
  one : ∃ owner, desk.holders = [owner]

variable {owner userId : Uuid} {row : Membership} {role : Role} {f : Membership → Membership}

section Lookups

variable {desk : WorkspaceDesk}

theorem mem_holders : owner ∈ desk.holders ↔
      ∃ row ∈ desk.memberships, desk.owning row = true ∧ row.userId = owner := by
  simp [WorkspaceDesk.holders, and_assoc]

theorem owning_iff : desk.owning row = true ↔
    row.status = .active ∧ ∃ role, desk.roleOf row.roleId = some role ∧ role.isOwner = true := by
  simp [WorkspaceDesk.owning, Option.any_eq_true]

theorem not_owning_of_role (h : ∀ role, desk.roleOf row.roleId = some role → role.isOwner = false) :
    desk.owning row = false := by
  rw [Bool.eq_false_iff]
  intro howning
  obtain ⟨-, role, hrole, howner⟩ := owning_iff.mp howning
  rw [h role hrole] at howner
  cases howner

theorem MemberBooks.holders_eq_iff (h : MemberBooks desk) :
    desk.holders = [owner] ↔ ∀ other, other ∈ desk.holders ↔ other = owner := by
  constructor
  · intro heq other
    rw [heq, mem_singleton]
  · intro hmem
    have hnodup : desk.holders.Nodup := List.Nodup.sublist (filter_sublist.map _) h.members
    apply perm_singleton.mp
    apply (perm_ext_iff_of_nodup hnodup (nodup_singleton owner)).mpr
    simpa using hmem

theorem roleOf_id {roleId : Uuid} (h : desk.roleOf roleId = some role) : desk.roleOf role.id = some role := by
  have hid : role.id = roleId := by simpa using find?_some h
  rw [hid]
  exact h

theorem roleOf_named {key : String} (h : desk.roleNamed key = some role) : desk.roleOf role.id = some role :=
  desk.roles.ids.find?_eq (mem_of_find?_eq_some h)

theorem isOwner_named {key : String} (h : desk.roleNamed key = some role) (hkey : key ≠ "owner") :
    role.isOwner = false := by
  have hnamed : role.key = key := by simpa using find?_some h
  rw [Bool.eq_false_iff]
  intro howner
  exact hkey (hnamed.symm.trans ((desk.roles.owner_iff role (mem_of_find?_eq_some h)).mp howner))

theorem membershipOf_some (h : desk.membershipOf userId = some row) :
    row ∈ desk.memberships ∧ row.userId = userId :=
  ⟨mem_of_find?_eq_some h, by simpa using find?_some h⟩

theorem membershipOf_none (h : desk.membershipOf userId = none) :
    ∀ row ∈ desk.memberships, row.userId ≠ userId := by
  simpa [WorkspaceDesk.membershipOf] using h

theorem MemberBooks.membershipOf_eq (h : MemberBooks desk) (hrow : row ∈ desk.memberships) :
    desk.membershipOf row.userId = some row :=
  h.members.find?_eq hrow

theorem activeMembership_some (h : desk.activeMembership userId = some row) :
    row ∈ desk.memberships ∧ row.userId = userId ∧ row.status = .active :=
  ⟨mem_of_find?_eq_some h, by simpa using find?_some h⟩

theorem lockedMembership_ok (h : lockedMembership desk userId = .ok row) :
    row ∈ desk.memberships ∧ row.userId = userId ∧ row.status = .active := by
  unfold lockedMembership at h
  split at h
  · cases h
    exact activeMembership_some ‹_›
  · cases h

theorem roleOfMembership_ok (h : roleOfMembership desk row = .ok role) :
    desk.roleOf row.roleId = some role := by
  unfold roleOfMembership at h
  split at h
  · cases h
    assumption
  · cases h

theorem requiredRole_ok {roleId : Uuid} (h : requiredRole desk roleId = .ok role) :
    desk.roleOf roleId = some role := by
  unfold requiredRole at h
  split at h
  · cases h
    assumption
  · cases h

theorem authorize_ok {workspace : WorkspaceStatus} {actorUserId : Uuid} {permission : String}
    {membership : Membership} (h : authorize desk workspace actorUserId permission = .ok (membership, role)) :
    membership ∈ desk.memberships ∧ membership.userId = actorUserId ∧
      membership.status = .active ∧ desk.roleOf membership.roleId = some role := by
  unfold authorize at h
  split at h
  · cases h
  · rename_i found hfound
    split at h
    · cases h
    · rename_i foundRole hrole
      obtain ⟨_, _, h⟩ := bind_ok h
      obtain ⟨_, _, h⟩ := bind_ok h
      cases h
      obtain ⟨hmem, hid, hactive⟩ := activeMembership_some hfound
      exact ⟨hmem, hid, hactive, hrole⟩

@[simp] theorem owning_write (userId : Uuid) (f : Membership → Membership) :
    (desk.write userId f).owning = desk.owning := rfl

theorem MemberBooks.write (h : MemberBooks desk) (hf : ∀ row, (f row).userId = row.userId) :
    MemberBooks (desk.write userId f) where
  members := h.members.updateRow fun row _ => hf row
  users := by
    intro row hrow
    obtain ⟨old, hold, ⟨-, rfl⟩ | ⟨-, rfl⟩⟩ := mem_updateRow hrow
    · rw [hf old]
      exact h.users old hold
    · exact h.users _ hold
  invitations := h.invitations

/-- After a write to the row of a user, he holds the owner role by what is written; the others hold
it as before. -/
theorem MemberBooks.mem_holders_write (h : MemberBooks desk) (hrow : row ∈ desk.memberships)
    (hf : ∀ row, (f row).userId = row.userId) {other : Uuid} :
    other ∈ (desk.write row.userId f).holders ↔ other = row.userId ∧ desk.owning (f row) = true ∨
        other ≠ row.userId ∧ other ∈ desk.holders := by
  rw [mem_holders, mem_holders, owning_write]
  constructor
  · rintro ⟨found, hfound, howning, rfl⟩
    rcases h.members.mem_updateRow hrow hfound with rfl | ⟨hold, hne⟩
    · exact .inl ⟨hf row, howning⟩
    · exact .inr ⟨hne, found, hold, howning, rfl⟩
  · rintro (⟨rfl, howning⟩ | ⟨hne, found, hfound, howning, rfl⟩)
    · exact ⟨f row, mem_updateRow_of_mem hrow rfl, howning, hf row⟩
    · exact ⟨found, mem_updateRow_of_ne hfound hne, howning, rfl⟩

theorem enrol_ok {after : WorkspaceDesk} (h : desk.enrol row = .ok after) :
    after = { desk with memberships := desk.memberships ++ [row] } := by
  obtain ⟨_, _, h⟩ := bind_ok h
  cases h
  rfl

end Lookups

/-- The memberships after a user has been enrolled, or his row rewritten. -/
structure Admits (desk : WorkspaceDesk) (userId : Uuid) (rows : List Membership) : Prop where
  members : Keyed Membership.userId rows
  users : ∀ row ∈ rows, row.userId = userId ∨ ∃ old ∈ desk.memberships, old.userId = row.userId
  holders : ∀ other, other ∈ { desk with memberships := rows }.holders ↔ other ≠ userId ∧ other ∈ desk.holders

section Operations

variable {desk after : WorkspaceDesk}

/-- Whoever is admitted with a role that is no owner role does not hold the owner role. -/
theorem MemberBooks.admits (h : MemberBooks desk) {enrolled : WorkspaceDesk}
    (henrol : desk.admit row f = .ok enrolled) (hf : ∀ row, (f row).userId = row.userId)
    (hrow : desk.owning row = false) (hwritten : ∀ row, desk.owning (f row) = false) :
    ∃ rows, enrolled = { desk with memberships := rows } ∧ Admits desk row.userId rows := by
  unfold WorkspaceDesk.admit at henrol
  split at henrol
  · rename_i hnone
    refine ⟨_, enrol_ok henrol, h.members.append_row (membershipOf_none hnone), ?_, ?_⟩
    · intro other hother
      rcases mem_append.mp hother with hold | hlast
      · exact .inr ⟨other, hold, rfl⟩
      · exact .inl (congrArg _ (mem_singleton.mp hlast))
    · intro other
      have hold : ∀ found ∈ desk.memberships, found.userId ≠ row.userId := membershipOf_none hnone
      rw [mem_holders, mem_holders]
      constructor
      · rintro ⟨found, hfound, howning, rfl⟩
        rcases mem_append.mp hfound with hin | hlast
        · exact ⟨hold found hin, found, hin, howning, rfl⟩
        · rw [mem_singleton.mp hlast] at howning
          exact absurd (howning.symm.trans hrow) (by simp)
      · rintro ⟨-, found, hfound, howning, rfl⟩
        exact ⟨found, mem_append_left _ hfound, howning, rfl⟩
  · rename_i found hfound
    obtain ⟨hmem, hid⟩ := membershipOf_some hfound
    cases henrol
    have hbooks : MemberBooks (desk.write row.userId f) := h.write hf
    refine ⟨_, rfl, hbooks.members, ?_, fun other => ?_⟩
    · intro other hother
      obtain ⟨old, hold, ⟨-, rfl⟩ | ⟨-, rfl⟩⟩ := mem_updateRow hother
      · exact .inr ⟨old, hold, (hf old).symm⟩
      · exact .inr ⟨_, hold, rfl⟩
    · have hwrite : other ∈ (desk.write found.userId f).holders ↔
          other = found.userId ∧ desk.owning (f found) = true ∨
            other ≠ found.userId ∧ other ∈ desk.holders := h.mem_holders_write hmem hf
      rw [hid, hwritten found] at hwrite
      refine hwrite.trans ?_
      simp

theorem leaveOwnerRole_ok {leaves : Bool} (h : leaveOwnerRole desk leaves userId = .ok ())
    (hleaves : leaves = true) : ∃ row ∈ desk.memberships, row.userId ≠ userId ∧ desk.owning row = true := by
  unfold leaveOwnerRole at h
  rw [if_pos hleaves] at h
  exact require_ok h

/-- The only holder of the owner role does not leave it. -/
theorem not_leaves (hone : ∀ other, other ∈ desk.holders ↔ other = owner) {leaves : Bool}
    (hrow : row ∈ desk.memberships) (h : leaveOwnerRole desk leaves row.userId = .ok ())
    (howning : desk.owning row = true) : leaves = false := by
  rw [Bool.eq_false_iff]
  intro hleaves
  obtain ⟨other, hother, hne, hotherOwning⟩ := leaveOwnerRole_ok h hleaves
  have hholder : row.userId = owner := (hone _).mp (mem_holders.mpr ⟨row, hrow, howning, rfl⟩)
  have hotherHolder : other.userId = owner :=
    (hone _).mp (mem_holders.mpr ⟨other, hother, hotherOwning, rfl⟩)
  exact hne (hotherHolder.trans hholder.symm)

theorem MemberBooks.holders_same (h : MemberBooks desk) (hrow : row ∈ desk.memberships)
    (hf : ∀ row, (f row).userId = row.userId) (hsame : desk.owning (f row) = desk.owning row)
    (other : Uuid) : other ∈ (desk.write row.userId f).holders ↔ other ∈ desk.holders := by
  rw [h.mem_holders_write hrow hf, hsame]
  constructor
  · rintro (⟨rfl, howning⟩ | ⟨-, hother⟩)
    · exact mem_holders.mpr ⟨row, hrow, howning, rfl⟩
    · exact hother
  · intro hother
    by_cases heq : other = row.userId
    · obtain ⟨found, hfound, howning, hid⟩ := mem_holders.mp hother
      rw [h.members.eq_of_key_eq hfound hrow (hid.trans heq)] at howning
      exact .inl ⟨heq, howning⟩
    · exact .inr ⟨heq, hother⟩

section

variable (h : MemberBooks desk) (hone : ∀ other, other ∈ desk.holders ↔ other = owner)

include h hone

theorem changeMemberRole_holders {call : ChangeRoleCall} (hok : changeMemberRole desk call = .ok after) :
    MemberBooks after ∧ ∀ other, other ∈ after.holders ↔ other ∈ desk.holders := by
  obtain ⟨_, _, hok⟩ := bind_ok hok
  obtain ⟨row, hrow, hok⟩ := bind_ok hok
  obtain ⟨newRole, hnew, hok⟩ := bind_ok hok
  obtain ⟨oldRole, hold, hok⟩ := bind_ok hok
  obtain ⟨_, hgrant, hok⟩ := bind_ok hok
  obtain ⟨_, hleave, hok⟩ := bind_ok hok
  cases hok
  obtain ⟨hmem, hid, hactive⟩ := lockedMembership_ok hrow
  have holdRole := roleOfMembership_ok hold
  have hnewRole := roleOf_id (requiredRole_ok hnew)
  refine ⟨h.write (Membership.userId_withRole newRole.id), ?_⟩
  rw [← hid] at hleave ⊢
  refine h.holders_same hmem (Membership.userId_withRole newRole.id) ?_
  have hbefore : desk.owning row = oldRole.isOwner := by
    simp [WorkspaceDesk.owning, hactive, holdRole]
  have hafter : desk.owning (row.withRole newRole.id) = newRole.isOwner := by
    simp [WorkspaceDesk.owning, Membership.withRole, hactive, hnewRole]
  rw [hbefore, hafter]
  have hgranted := require_ok hgrant
  cases howner : oldRole.isOwner with
  | false => simpa [howner] using hgranted
  | true =>
    have hstays := not_leaves hone hmem hleave (hbefore.trans howner)
    simpa [howner] using hstays

theorem removeMember_holders {call : RemoveCall} (hok : removeMember desk call = .ok after) :
    MemberBooks after ∧ ∀ other, other ∈ after.holders ↔ other ∈ desk.holders := by
  obtain ⟨_, _, hok⟩ := bind_ok hok
  obtain ⟨row, hrow, hok⟩ := bind_ok hok
  obtain ⟨role, hrole, hok⟩ := bind_ok hok
  obtain ⟨_, hleave, hok⟩ := bind_ok hok
  cases hok
  obtain ⟨hmem, hid, hactive⟩ := lockedMembership_ok hrow
  have hrole := roleOfMembership_ok hrole
  refine ⟨h.write (Membership.userId_remove call.now), ?_⟩
  rw [← hid] at hleave ⊢
  refine h.holders_same hmem (Membership.userId_remove call.now) ?_
  have hbefore : desk.owning row = role.isOwner := by
    simp [WorkspaceDesk.owning, hactive, hrole]
  have hafter : desk.owning (row.remove call.now) = false := by
    simp [WorkspaceDesk.owning, Membership.remove]
  rw [hafter]
  by_contra howns
  have howning : desk.owning row = true := by simpa using howns
  have hstays := not_leaves hone hmem hleave howning
  rw [hbefore, hstays] at howning
  cases howning

end

theorem transferRoles_ok {call : TransferCall} {ownerRole adminRole : Role}
    (h : transferRoles desk call = .ok (ownerRole, adminRole)) :
    (∃ row ∈ desk.memberships, row.userId = call.subjectId ∧ row.status = .active ∧
      desk.roleOf row.roleId = some ownerRole) ∧ ownerRole.isOwner = true ∧
    (∃ row ∈ desk.memberships, row.userId = call.newOwnerUserId ∧ row.status = .active) ∧
    desk.roleNamed "admin" = some adminRole := by
  obtain ⟨⟨membership, currentRole⟩, hauthorize, h⟩ := bind_ok h
  obtain ⟨_, howner, h⟩ := bind_ok h
  obtain ⟨_, _, h⟩ := bind_ok h
  obtain ⟨_, _, h⟩ := bind_ok h
  obtain ⟨target, htarget, h⟩ := bind_ok h
  split at h
  · cases h
  · rename_i found hadmin
    cases h
    obtain ⟨hmem, hid, hactive, hrole⟩ := authorize_ok hauthorize
    obtain ⟨htmem, htid, htactive⟩ := lockedMembership_ok htarget
    exact ⟨⟨membership, hmem, hid, hactive, hrole⟩, require_ok howner,
      ⟨target, htmem, htid, htactive⟩, hadmin⟩

/-- The owner role goes to the target, and the holder is left with the role `admin`. -/
theorem transferOwnership_holders (h : MemberBooks desk) {call : TransferCall}
    (hok : transferOwnership desk call = .ok after) :
    (∃ roles, transferRoles desk call = .ok roles) ∧ call.subjectId ∈ desk.holders ∧
      MemberBooks after ∧ ∀ other, other ∈ after.holders ↔
        other ≠ call.subjectId ∧ (other = call.newOwnerUserId ∨ other ∈ desk.holders) := by
  obtain ⟨⟨ownerRole, adminRole⟩, hroles, hok⟩ := bind_ok hok
  cases hok
  obtain ⟨⟨current, hcurrent, hsubject, hcurrentActive, hcurrentRole⟩, howner,
    ⟨target, htarget, hnewOwner, htargetActive⟩, hadmin⟩ := transferRoles_ok hroles
  have hholds : desk.owning current = true :=
    owning_iff.mpr ⟨hcurrentActive, ownerRole, hcurrentRole, howner⟩
  refine ⟨⟨_, hroles⟩, mem_holders.mpr ⟨current, hcurrent, hholds, hsubject⟩, ?_⟩
  have hhanded : MemberBooks (desk.write target.userId (Membership.withRole ownerRole.id)) :=
    h.write fun _ => rfl
  have hgranted : desk.owning (target.withRole ownerRole.id) = true :=
    owning_iff.mpr ⟨htargetActive, ownerRole, roleOf_id hcurrentRole, howner⟩
  -- the row of the holder, which is the row of the target when they are the same
  obtain ⟨left, hleft, hleftId⟩ : ∃ left ∈ (desk.write target.userId
      (Membership.withRole ownerRole.id)).memberships, left.userId = call.subjectId := by
    by_cases hsame : current.userId = target.userId
    · exact ⟨_, mem_updateRow_of_mem hcurrent hsame, hsubject⟩
    · exact ⟨current, mem_updateRow_of_ne hcurrent hsame, hsubject⟩
  rw [← hnewOwner, ← hleftId]
  refine ⟨hhanded.write (Membership.userId_withRole adminRole.id), fun other => ?_⟩
  have hresigned : desk.owning (left.withRole adminRole.id) = false := by
    apply not_owning_of_role
    intro role hrole
    rw [Membership.roleId_withRole, roleOf_named hadmin] at hrole
    cases hrole
    exact isOwner_named hadmin (by decide)
  rw [hhanded.mem_holders_write hleft (Membership.userId_withRole adminRole.id), owning_write,
    hresigned, h.mem_holders_write htarget (Membership.userId_withRole ownerRole.id), hgranted]
  by_cases hother : other = target.userId
  · simp [hother]
  · simp [hother]

theorem scimRole_ok {call : ProvisionCall} (h : scimRole desk call = .ok role) :
    desk.roleOf role.id = some role ∧ role.isOwner = false := by
  unfold scimRole at h
  split at h
  · rename_i found hfound
    cases h
    rcases Option.or_eq_some_iff.mp hfound with hnamed | ⟨-, hviewer⟩
    · obtain ⟨hnamed, howner⟩ := Option.filter_eq_some_iff.mp hnamed
      exact ⟨roleOf_named hnamed, by simpa using howner⟩
    · exact ⟨roleOf_named hviewer, isOwner_named hviewer (by decide)⟩
  · cases h

variable {email : String} {user : User}

theorem scimUser_ok {call : ProvisionCall} {users : List User}
    (h : scimUser desk call email = .ok (user, users)) : user ∈ users ∧ (∀ old ∈ desk.users, old ∈ users) ∧
      (desk.userNamed email = some user ∨ ∀ old ∈ desk.users, old.id ≠ user.id) := by
  unfold scimUser at h
  split at h
  · rename_i found hfound
    cases h
    exact ⟨mem_of_find?_eq_some hfound, fun _ h => h, .inl hfound⟩
  · obtain ⟨_, hfresh, h⟩ := bind_ok h
    cases h
    exact ⟨by simp, fun old hold => mem_append_left _ hold, .inr (require_ok hfresh)⟩

theorem admits_of (desk : WorkspaceDesk) (row : Membership) (f : Membership → Membership)
    (hfresh : desk.membershipOf row.userId = none → ∀ other ∈ desk.memberships, other.id ≠ row.id) :
    ∃ enrolled, desk.admit row f = .ok enrolled := by
  unfold WorkspaceDesk.admit
  cases hmember : desk.membershipOf row.userId with
  | none => exact ⟨_, bind_of_ok (require_of (hfresh hmember) _) _⟩
  | some found => exact ⟨_, rfl⟩

theorem scimUser_of_named (h : desk.userNamed email = some user) (call : ProvisionCall) :
    scimUser desk call email = .ok (user, desk.users) := by
  unfold scimUser
  rw [h]

section Texts

variable [IdentityTexts]

theorem inviteMember_holders (h : MemberBooks desk) {call : InviteCall}
    (hok : inviteMember desk call = .ok after) : MemberBooks after ∧ after.holders = desk.holders := by
  obtain ⟨_, _, hok⟩ := bind_ok hok
  obtain ⟨role, hrole, hok⟩ := bind_ok hok
  obtain ⟨_, howner, hok⟩ := bind_ok hok
  obtain ⟨_, _, hok⟩ := bind_ok hok
  obtain ⟨_, _, hok⟩ := bind_ok hok
  cases hok
  refine ⟨⟨h.members, h.users, ?_⟩, rfl⟩
  intro row hrow found hfound
  rcases mem_append.mp hrow with hold | hlast
  · obtain ⟨old, hmem, rfl⟩ := mem_map.mp hold
    apply h.invitations old hmem found
    unfold cancelPending at hfound
    split at hfound <;> exact hfound
  · rw [mem_singleton.mp hlast] at hfound
    have hsame : some found = some role := hfound.symm.trans (roleOf_id (requiredRole_ok hrole))
    cases hsame
    exact require_ok howner

variable {call : AcceptCall}

theorem openInvitation_ok {invitation : WorkspaceInvitation} (h : openInvitation desk call = .ok invitation) :
    invitation ∈ desk.invitations ∧ ∃ user ∈ desk.users, user.id = call.userId := by
  obtain ⟨_, _, h⟩ := bind_ok h
  split at h
  · cases h
  · rename_i found hfound
    obtain ⟨_, _, h⟩ := bind_ok h
    obtain ⟨_, huser, h⟩ := bind_ok h
    cases h
    obtain ⟨user, hmem, hid, -⟩ := require_ok huser
    exact ⟨mem_of_find?_eq_some hfound, user, hmem, hid⟩

/-- Whoever accepts an invitation does not hold the owner role afterwards. -/
theorem acceptInvitation_holders (h : MemberBooks desk) (hok : acceptInvitation desk call = .ok after) :
    (∃ invitation, openInvitation desk call = .ok invitation) ∧ MemberBooks after ∧
      ∀ other, other ∈ after.holders ↔ other ≠ call.userId ∧ other ∈ desk.holders := by
  obtain ⟨invitation, hopen, hok⟩ := bind_ok hok
  obtain ⟨enrolled, henrol, hok⟩ := bind_ok hok
  cases hok
  obtain ⟨hinvitation, user, huser, hid⟩ := openInvitation_ok hopen
  have hrole := h.invitations invitation hinvitation
  obtain ⟨rows, rfl, hrows⟩ := h.admits henrol (fun _ => rfl)
    (not_owning_of_role hrole) fun _ => not_owning_of_role hrole
  refine ⟨⟨_, hopen⟩, ⟨hrows.members, ?_, ?_⟩, hrows.holders⟩
  · intro row hrow
    rcases hrows.users row hrow with heq | ⟨old, hold, heq⟩
    · exact ⟨user, huser, hid.trans heq.symm⟩
    · rw [← heq]
      exact h.users old hold
  · intro row hrow
    obtain ⟨old, hold, ⟨-, rfl⟩ | ⟨-, rfl⟩⟩ := mem_updateRow hrow
    · exact h.invitations old hold
    · exact h.invitations _ hold

/-- Whoever is provisioned does not hold the owner role afterwards. -/
theorem provisionScimUser_holders (h : MemberBooks desk) {call : ProvisionCall}
    {provisioned : Provisioned} (hok : provisionScimUser desk call = .ok provisioned) :
    ∃ email, normalizeEmail call.payload.userName = .ok email ∧
      (desk.userNamed email = some provisioned.user ∧ (∃ role, scimRole desk call = .ok role) ∧
          (∃ link, scimLink desk call provisioned.user = .ok link) ∨
        provisioned.user.id ∉ desk.holders) ∧
      MemberBooks provisioned.desk ∧ ∀ other, other ∈ provisioned.desk.holders ↔
        other ≠ provisioned.user.id ∧ other ∈ desk.holders := by
  obtain ⟨email, hemail, hok⟩ := bind_ok hok
  obtain ⟨⟨user, users⟩, huser, hok⟩ := bind_ok hok
  obtain ⟨role, hrole, hok⟩ := bind_ok hok
  obtain ⟨enrolled, henrol, hok⟩ := bind_ok hok
  obtain ⟨⟨link, links⟩, hlink, hok⟩ := bind_ok hok
  cases hok
  obtain ⟨hmem, hkept, hnamed⟩ := scimUser_ok huser
  obtain ⟨hroleOf, howner⟩ := scimRole_ok hrole
  have hnotOwner : ∀ found, desk.roleOf role.id = some found → found.isOwner = false := by
    intro found hfound
    rw [hroleOf] at hfound
    cases hfound
    exact howner
  obtain ⟨rows, rfl, hrows⟩ := h.admits henrol (Membership.userId_sync role.id _)
    (not_owning_of_role hnotOwner) fun _ => not_owning_of_role hnotOwner
  refine ⟨email, hemail, ?_, ⟨hrows.members, ?_, h.invitations⟩, hrows.holders⟩
  · refine hnamed.imp (fun hfound => ⟨hfound, ⟨role, hrole⟩, _, hlink⟩) fun hfresh hholds => ?_
    obtain ⟨row, hrow, -, hid⟩ := mem_holders.mp hholds
    obtain ⟨old, hold, holdId⟩ := h.users row hrow
    exact hfresh old hold (holdId.trans hid)
  · intro row hrow
    rcases hrows.users row hrow with heq | ⟨old, hold, heq⟩
    · exact ⟨user, hmem, heq.symm⟩
    · obtain ⟨found, hfound, hid⟩ := h.users old hold
      exact ⟨found, hkept found hfound, hid.trans heq⟩

/-- A payload whose parts pass their checks is accepted. -/
theorem provisionScimUser_of (call : ProvisionCall) {users : List User}
    {link : SCIMResourceLink × List SCIMResourceLink}
    (hemail : normalizeEmail call.payload.userName = .ok email)
    (huser : scimUser desk call email = .ok (user, users)) (hrole : scimRole desk call = .ok role)
    (hfresh : desk.membershipOf user.id = none → ∀ other ∈ desk.memberships, other.id ≠ call.membershipId)
    (hlink : scimLink desk call user = .ok link) :
    ∃ provisioned, provisionScimUser desk call = .ok provisioned ∧ provisioned.user = user := by
  obtain ⟨enrolled, henrolled⟩ := admits_of desk {
    id := call.membershipId
    userId := user.id
    roleId := role.id
    status := scimStatus call.payload
    joinedAt := call.now } (Membership.sync role.id (scimStatus call.payload)) hfresh
  unfold provisionScimUser
  rw [bind_of_ok hemail, bind_of_ok huser]
  dsimp only
  rw [bind_of_ok hrole, bind_of_ok henrolled, bind_of_ok hlink]
  exact ⟨_, rfl, rfl⟩

theorem acceptInvitation_of {invitation : WorkspaceInvitation}
    (hopen : openInvitation desk call = .ok invitation) (hrow : desk.membershipOf call.userId = some row) :
    ∃ after, acceptInvitation desk call = .ok after := by
  unfold acceptInvitation
  obtain ⟨enrolled, henrolled⟩ := admits_of desk {
    id := call.membershipId
    userId := call.userId
    roleId := invitation.roleId
    status := .active
    joinedAt := call.now } (rejoin call invitation) fun hnone => by simp [hrow] at hnone
  rw [bind_of_ok hopen, bind_of_ok henrolled]
  exact ⟨_, rfl⟩

end Texts

end Operations

section Owned

variable {desk after : WorkspaceDesk}

section

variable (h : OwnedWorkspace desk) (hbooks : MemberBooks after)

include h hbooks

theorem OwnedWorkspace.of_same (hsame : ∀ other, other ∈ after.holders ↔ other ∈ desk.holders) :
    OwnedWorkspace after := by
  obtain ⟨owner, hone⟩ := h.one
  refine ⟨hbooks, owner, hbooks.holders_eq_iff.mpr fun other => ?_⟩
  rw [hsame other, h.holders_eq_iff.mp hone other]

/-- Nobody else holds the owner role once its holder is written off it. -/
theorem OwnedWorkspace.without_iff
    (hholders : ∀ other, other ∈ after.holders ↔ other ≠ userId ∧ other ∈ desk.holders) :
    OwnedWorkspace after ↔ userId ∉ desk.holders := by
  obtain ⟨owner, hone⟩ := h.one
  have hmem := h.holders_eq_iff.mp hone
  constructor
  · rintro ⟨-, remaining, hremaining⟩ hin
    have hleft : remaining ∈ after.holders := by simp [hremaining]
    obtain ⟨hne, hold⟩ := (hholders remaining).mp hleft
    exact hne (((hmem remaining).mp hold).trans ((hmem userId).mp hin).symm)
  · intro hout
    apply h.of_same hbooks
    intro other
    rw [hholders other]
    refine and_iff_right_of_imp fun hother heq => hout ?_
    rw [← heq]
    exact hother

theorem OwnedWorkspace.transfer_iff {call : TransferCall} (hsubject : call.subjectId ∈ desk.holders)
    (hholders : ∀ other, other ∈ after.holders ↔
      other ≠ call.subjectId ∧ (other = call.newOwnerUserId ∨ other ∈ desk.holders)) :
    (OwnedWorkspace after ↔ call.newOwnerUserId ≠ call.subjectId) ∧
      ∀ other ∈ after.holders, other = call.newOwnerUserId := by
  obtain ⟨owner, hone⟩ := h.one
  have hmem := h.holders_eq_iff.mp hone
  have hmoved : ∀ other, other ∈ after.holders ↔
      other = call.newOwnerUserId ∧ call.newOwnerUserId ≠ call.subjectId := by
    intro other
    rw [hholders other]
    constructor
    · rintro ⟨hne, rfl | hold⟩
      · exact ⟨rfl, hne⟩
      · exact absurd (((hmem other).mp hold).trans ((hmem _).mp hsubject).symm) hne
    · rintro ⟨rfl, hne⟩
      exact ⟨hne, .inl rfl⟩
  refine ⟨⟨?_, fun hne => ⟨hbooks, call.newOwnerUserId, ?_⟩⟩, fun other hother => ?_⟩
  · rintro ⟨-, remaining, hremaining⟩
    have hleft : remaining ∈ after.holders := by simp [hremaining]
    exact ((hmoved remaining).mp hleft).2
  · apply hbooks.holders_eq_iff.mpr
    intro other
    rw [hmoved other, and_iff_left hne]
  · exact ((hmoved other).mp hother).1

end

end Owned

section Steps

variable [IdentityTexts] {desk after : WorkspaceDesk} {request : WorkspaceRequest}

theorem answerRequest_ok (h : answerRequest desk request = .ok after) :
    perform desk request.call = .ok after ∧ request.commits = true := by
  obtain ⟨found, hperform, h⟩ := bind_ok h
  obtain ⟨_, hcommits, h⟩ := bind_ok h
  cases h
  exact ⟨hperform, require_ok hcommits⟩

theorem answerRequest_of (hperform : perform desk request.call = .ok after)
    (hcommits : request.commits = true) : answerRequest desk request = .ok after := by
  unfold answerRequest
  rw [bind_of_ok hperform, bind_of_ok (require_of hcommits _)]

theorem stepWorkspace_ok (h : answerRequest desk request = .ok after) :
    stepWorkspace desk request = after := by
  unfold stepWorkspace
  rw [h]

theorem stepWorkspace_error {e : Failure} (h : answerRequest desk request = .error e) :
    stepWorkspace desk request = desk := by
  unfold stepWorkspace
  rw [h]

section

variable (h : OwnedWorkspace desk)

include h

/-- What a request that commits leaves. -/
theorem owned_after_iff (hanswer : answerRequest desk request = .ok after) :
    MemberBooks after ∧ (OwnedWorkspace after ↔ SparesOwner desk request) ∧
      ∀ owner ∈ after.holders, owner ∉ desk.holders →
        ∃ call, request.call = .transferOwnership call ∧ call.newOwnerUserId = owner := by
  obtain ⟨owner, hone⟩ := h.one
  have hmem := h.holders_eq_iff.mp hone
  obtain ⟨hperform, hcommits⟩ := answerRequest_ok hanswer
  obtain ⟨call, commits⟩ := request
  unfold SparesOwner
  cases call with
  | inviteMember call =>
    obtain ⟨hbooks, hsame⟩ := inviteMember_holders h.toMemberBooks hperform
    refine ⟨hbooks, iff_of_true (h.of_same hbooks fun other => by rw [hsame]) fun _ => trivial, ?_⟩
    intro other hother hnot
    rw [hsame] at hother
    exact absurd hother hnot
  | changeMemberRole call =>
    obtain ⟨hbooks, hsame⟩ := changeMemberRole_holders h.toMemberBooks hmem hperform
    refine ⟨hbooks, iff_of_true (h.of_same hbooks hsame) fun _ => trivial, ?_⟩
    exact fun other hother hnot => absurd ((hsame other).mp hother) hnot
  | removeMember call =>
    obtain ⟨hbooks, hsame⟩ := removeMember_holders h.toMemberBooks hmem hperform
    refine ⟨hbooks, iff_of_true (h.of_same hbooks hsame) fun _ => trivial, ?_⟩
    exact fun other hother hnot => absurd ((hsame other).mp hother) hnot
  | acceptInvitation call =>
    obtain ⟨hopen, hbooks, hholders⟩ := acceptInvitation_holders h.toMemberBooks hperform
    refine ⟨hbooks, ?_, ?_⟩
    · rw [h.without_iff hbooks hholders]
      exact ⟨fun hout _ _ => hout, fun hspares => hspares hcommits hopen⟩
    · exact fun other hother hnot => absurd ((hholders other).mp hother).2 hnot
  | provisionScimUser call =>
    obtain ⟨provisioned, hprovision, rfl⟩ := map_ok hperform
    obtain ⟨email, hemail, hnamed, hbooks, hholders⟩ :=
      provisionScimUser_holders h.toMemberBooks hprovision
    refine ⟨hbooks, ?_, ?_⟩
    · rw [h.without_iff hbooks hholders]
      constructor
      · intro hout _ email' user hemail' huser hrole hlink hin
        rcases hnamed with ⟨hfound, -⟩ | hfresh
        · rw [hemail] at hemail'
          cases hemail'
          rw [hfound] at huser
          cases huser
          exact hout hin
        · obtain ⟨row, hrow, -, hid⟩ := mem_holders.mp hin
          have hmember : desk.membershipOf user.id = some row := by
            rw [← hid]
            exact h.membershipOf_eq hrow
          obtain ⟨link, hlink⟩ := hlink
          obtain ⟨role, hrole⟩ := hrole
          obtain ⟨again, hagain, hsame⟩ :=
            provisionScimUser_of call hemail' (scimUser_of_named huser call) hrole
              (fun hnone => by simp [hmember] at hnone) hlink
          rw [hprovision] at hagain
          cases hagain
          rw [hsame] at hfresh
          exact hfresh hin
      · intro hspares
        rcases hnamed with ⟨hfound, hrole, hlink⟩ | hfresh
        · exact hspares hcommits email provisioned.user hemail hfound hrole hlink
        · exact hfresh
    · exact fun other hother hnot => absurd ((hholders other).mp hother).2 hnot
  | transferOwnership call =>
    obtain ⟨hroles, hsubject, hbooks, hholders⟩ := transferOwnership_holders h.toMemberBooks hperform
    obtain ⟨howned, htarget⟩ := h.transfer_iff hbooks hsubject hholders
    refine ⟨hbooks, ?_, ?_⟩
    · rw [howned]
      exact ⟨fun hne _ _ => hne, fun hspares => hspares hcommits hroles⟩
    · exact fun other hother _ => ⟨call, rfl, (htarget other hother).symm⟩

/-- A request that is refused would not have been at the cost of the holder. -/
theorem sparesOwner_of_refused {e : Failure} (hanswer : answerRequest desk request = .error e) :
    SparesOwner desk request := by
  intro hcommits
  have hrefused : ∀ after, perform desk request.call ≠ .ok after := by
    intro after hperform
    rw [answerRequest_of hperform hcommits] at hanswer
    cases hanswer
  obtain ⟨call, commits⟩ := request
  cases call with
  | inviteMember call => trivial
  | changeMemberRole call => trivial
  | removeMember call => trivial
  | acceptInvitation call =>
    rintro ⟨invitation, hopen⟩ hin
    obtain ⟨row, hrow, -, hid⟩ := mem_holders.mp hin
    obtain ⟨after, hok⟩ := acceptInvitation_of hopen (hid ▸ h.membershipOf_eq hrow)
    exact hrefused after hok
  | provisionScimUser call =>
    rintro email user hemail huser ⟨role, hrole⟩ ⟨link, hlink⟩ hin
    obtain ⟨row, hrow, -, hid⟩ := mem_holders.mp hin
    have hmember : desk.membershipOf user.id = some row := by
      rw [← hid]
      exact h.membershipOf_eq hrow
    obtain ⟨provisioned, hok, -⟩ := provisionScimUser_of call hemail (scimUser_of_named huser call) hrole
      (fun hnone => by simp [hmember] at hnone) hlink
    exact hrefused provisioned.desk (congrArg (Except.map Provisioned.desk) hok)
  | transferOwnership call =>
    rintro ⟨roles, hroles⟩ -
    exact hrefused _ (bind_of_ok hroles _)

theorem keepsOwner_iff (request : WorkspaceRequest) : KeepsOwner desk request ↔ SparesOwner desk request := by
  cases hanswer : answerRequest desk request with
  | error e =>
    have hstep := stepWorkspace_error hanswer
    refine iff_of_true ⟨?_, ?_⟩ (sparesOwner_of_refused h hanswer)
    · rw [hstep]
      exact h.one
    · intro owner howner hnot
      rw [hstep] at howner
      exact absurd howner hnot
  | ok after =>
    have hstep := stepWorkspace_ok hanswer
    obtain ⟨hbooks, howned, hmoved⟩ := owned_after_iff h hanswer
    constructor
    · intro hkeeps
      apply howned.mp
      refine ⟨hbooks, ?_⟩
      rw [← hstep]
      exact hkeeps.one
    · intro hspares
      refine ⟨?_, ?_⟩
      · rw [hstep]
        exact (howned.mpr hspares).one
      · intro owner howner hnot
        rw [hstep] at howner
        obtain ⟨call, hcall, htarget⟩ := hmoved owner howner hnot
        exact ⟨call, after, hcall, htarget, hanswer⟩

theorem owned_step (hspares : SparesOwner desk request) : OwnedWorkspace (stepWorkspace desk request) := by
  cases hanswer : answerRequest desk request with
  | error e =>
    rw [stepWorkspace_error hanswer]
    exact h
  | ok after =>
    rw [stepWorkspace_ok hanswer]
    exact (owned_after_iff h hanswer).2.1.mpr hspares

end

/-- In a run, the workspace keeps one owner, and only a transfer changes him, exactly when its
requests spare the holder of the owner role. -/
theorem owner_kept_iff (h : OwnedWorkspace desk) (requests : List WorkspaceRequest) :
    Along stepWorkspace KeepsOwner desk requests ↔ Along stepWorkspace SparesOwner desk requests :=
  along_iff_along_of_invariant stepWorkspace (I := OwnedWorkspace) (R := fun _ _ => True)
    (fun _ request hs _ => keepsOwner_iff hs request)
    (fun _ _ hs _ hspares => owned_step hs hspares) h
    (along_of_always stepWorkspace (fun _ _ => trivial) desk requests)

end Steps

abbrev sampleIdentityTexts : IdentityTexts where
  casefold value := value
  idna domain := some domain
  digest token := token
  invitationWorkspaceId _ := some 1
  invitationToken workspaceId invitationId := toString workspaceId ++ "." ++ toString invitationId

section Samples

attribute [local instance] sampleIdentityTexts

def sampleRoles : RoleTable where
  rows := [{ id := 1, key := "owner", permissions := [workspaceManage], isOwner := true },
    { id := 2, key := "admin", permissions := [workspaceManage], isOwner := false },
    { id := 3, key := "viewer", permissions := [], isOwner := false }]
  ids := by unfold Keyed; decide
  keys := by unfold Keyed; decide
  owner_iff := by decide

def sampleUser (id : Uuid) (email : String) : User where
  id := id
  email := email
  displayName := "member"
  status := .active
  emailVerifiedAt := none

def sampleWorkspace : WorkspaceDesk where
  workspaceId := 1
  roles := sampleRoles
  users := [sampleUser 1 "a@b.example", sampleUser 2 "c@b.example"]
  memberships := [{ id := 1, userId := 1, roleId := 1, status := .active, joinedAt := 0 },
    { id := 2, userId := 2, roleId := 3, status := .active, joinedAt := 0 }]

def sampleTransfer (newOwnerUserId : Uuid) : WorkspaceRequest where
  call := .transferOwnership
    { now := 100, subjectId := 1, sessionId := some 5, loginSession := some (some 100)
      newOwnerUserId := newOwnerUserId }

theorem sampleWorkspace_owned : OwnedWorkspace sampleWorkspace where
  members := by unfold Keyed; decide
  users := by decide
  invitations := by simp [sampleWorkspace]
  one := ⟨1, by decide⟩

theorem owner_kept_sample : Along stepWorkspace KeepsOwner sampleWorkspace [sampleTransfer 2] := by
  apply (owner_kept_iff sampleWorkspace_owned _).mpr
  refine ⟨fun _ _ => ?_, trivial⟩
  decide

/-- The owner who transfers the workspace to himself is left with the role `admin`. -/
theorem owner_lost_by_transfer_to_himself :
    ¬ Along stepWorkspace KeepsOwner sampleWorkspace [sampleTransfer 1] := by
  rintro ⟨⟨⟨owner, hone⟩, -⟩, -⟩
  have hnone : (stepWorkspace sampleWorkspace (sampleTransfer 1)).holders = [] := by decide
  rw [hnone] at hone
  cases hone

end Samples

end BlogOps.Identity
