import BlogOps.WorkspaceOwnership

/-!
# Deprovisioning by SCIM

The payloads of one SCIM configuration, with the users they provisioned under
each external identifier.
-/

namespace BlogOps.Identity

open KeyedTables TransitionRuns List

/-- An accepted payload and the user it returned. -/
structure ScimRecord where
  externalId : String
  userId : Uuid
  active : Bool
deriving DecidableEq, Repr

structure ScimHistory where
  desk : WorkspaceDesk
  records : List ScimRecord := []

/-- A payload with the new keys and the time of its request, and whether the database commits it. -/
structure ScimRequest where
  userId : Uuid
  membershipId : Uuid
  linkId : Uuid
  now : Int
  payload : SCIMUserPayload
  commits : Bool := true

def ScimRequest.call (configuration : SCIMConfiguration) (request : ScimRequest) : ProvisionCall where
  userId := request.userId
  membershipId := request.membershipId
  linkId := request.linkId
  now := request.now
  configuration := configuration
  payload := request.payload

section Steps

variable [IdentityTexts] (configuration : SCIMConfiguration)

/-- The payload in its transaction. -/
def provision (desk : WorkspaceDesk) (request : ScimRequest) : Except Failure Provisioned := do
  let provisioned ← provisionScimUser desk (request.call configuration)
  require (request.commits = true) (.integrity "commit")
  .ok provisioned

def stepScim (s : ScimHistory) (request : ScimRequest) : ScimHistory :=
  match provision configuration s.desk request with
  | .error _ => s
  | .ok provisioned =>
      { desk := provisioned.desk
        records := s.records ++ [{
          externalId := request.payload.externalId
          userId := provisioned.user.id
          active := request.payload.active }] }

end Steps

/-- The latest accepted payload with the external identifier. -/
def latestRecord (records : List ScimRecord) (externalId : String) : Option ScimRecord :=
  (records.filter fun record => record.externalId = externalId).getLast?

/-- The latest payload of another external identifier was active and names the user. -/
def NamedElsewhere (records : List ScimRecord) (externalId : String) (userId : Uuid) : Prop :=
  ∃ other latest, other ≠ externalId ∧ latestRecord records other = some latest ∧
    latest.active = true ∧ latest.userId = userId

def WorkspaceDesk.HasActiveMembership (desk : WorkspaceDesk) (userId : Uuid) : Prop :=
  ∃ row ∈ desk.memberships, row.userId = userId ∧ row.status = .active

/-- After the payload, its link shows the returned user and the flag; after an inactive one, nobody
who was ever provisioned under the external identifier is an active member, unless another
external identifier names him. -/
def TakesEffect [IdentityTexts] (configuration : SCIMConfiguration) (s : ScimHistory)
    (request : ScimRequest) : Prop :=
  ∀ provisioned, provision configuration s.desk request = .ok provisioned →
    (∃ link, provisioned.desk.linkOf configuration.id request.payload.externalId = some link ∧
      link.userId = provisioned.user.id ∧ link.active = request.payload.active) ∧
    (request.payload.active = false →
      ∀ record ∈ (stepScim configuration s request).records, record.externalId = request.payload.externalId →
        ¬ provisioned.desk.HasActiveMembership record.userId ∨
          NamedElsewhere (stepScim configuration s request).records request.payload.externalId record.userId)

/-- An acceptable payload whose external identifier has a link names the user of that link. -/
def NamesLinkedUser [IdentityTexts] (configuration : SCIMConfiguration) (s : ScimHistory)
    (request : ScimRequest) : Prop :=
  request.commits = true → ∀ email user users, normalizeEmail request.payload.userName = .ok email →
    scimUser s.desk (request.call configuration) email = .ok (user, users) →
    (∃ role, scimRole s.desk (request.call configuration) = .ok role) →
    (s.desk.membershipOf user.id = none → ∀ other ∈ s.desk.memberships, other.id ≠ request.membershipId) →
    ∀ link, s.desk.linkOf configuration.id request.payload.externalId = some link → link.userId = user.id

structure ScimBooks (configuration : SCIMConfiguration) (s : ScimHistory) : Prop where
  members : Keyed Membership.userId s.desk.memberships
  linked : ∀ record ∈ s.records,
    ∃ link, s.desk.linkOf configuration.id record.externalId = some link ∧ link.userId = record.userId

/-- No payload has been accepted yet. -/
structure NewScim (configuration : SCIMConfiguration) (s : ScimHistory) : Prop where
  members : Keyed Membership.userId s.desk.memberships
  records : s.records = []

variable {link : SCIMResourceLink}

section Parts

variable {desk enrolled : WorkspaceDesk} {call : ProvisionCall} {user : User}

theorem admit_status {row : Membership} {f : Membership → Membership} {status : MembershipStatus}
    (hkeyed : Keyed Membership.userId desk.memberships) (h : desk.admit row f = .ok enrolled)
    (hf : ∀ old, (f old).userId = old.userId ∧ (f old).status = status) (hrow : row.status = status) :
    Keyed Membership.userId enrolled.memberships ∧
      ∀ member ∈ enrolled.memberships, member.userId = row.userId → member.status = status := by
  unfold WorkspaceDesk.admit at h
  split at h
  · rename_i hnone
    rw [enrol_ok h]
    have hold := membershipOf_none hnone
    refine ⟨hkeyed.append_row hold, fun member hmember huser => ?_⟩
    rcases mem_append.mp hmember with hin | hlast
    · exact absurd huser (hold member hin)
    · rw [mem_singleton.mp hlast]
      exact hrow
  · cases h
    refine ⟨hkeyed.updateRow fun old _ => (hf old).1, fun member hmember huser => ?_⟩
    obtain ⟨old, -, ⟨-, rfl⟩ | ⟨hne, rfl⟩⟩ := mem_updateRow hmember
    · exact (hf old).2
    · exact absurd huser hne

theorem linkOf_key {configurationId : Uuid} {externalId : String}
    (h : desk.linkOf configurationId externalId = some link) : link.key = (configurationId, externalId) := by
  simpa using find?_some h

theorem scimLink_of_linked (h : desk.linkOf call.configuration.id call.payload.externalId = some link)
    (user : User) : scimLink desk call user = .ok (link.sync call.payload,
      updateRow SCIMResourceLink.key link.key (SCIMResourceLink.sync call.payload) desk.links) := by
  unfold scimLink
  rw [h]

/-- An existing link keeps its user, whoever the payload names. -/
theorem scimLink_ok {written : SCIMResourceLink} {links : List SCIMResourceLink}
    (h : scimLink desk call user = .ok (written, links)) :
    links.find? (fun link => link.key = (call.configuration.id, call.payload.externalId)) =
        some written ∧ written.active = call.payload.active ∧
      ((∃ link, desk.linkOf call.configuration.id call.payload.externalId = some link ∧
          written.userId = link.userId) ∨
        desk.linkOf call.configuration.id call.payload.externalId = none ∧ written.userId = user.id) ∧
      ∀ key, key ≠ (call.configuration.id, call.payload.externalId) →
        links.find? (fun link => link.key = key) = desk.links.find? (fun link => link.key = key) := by
  unfold scimLink at h
  split at h
  · rename_i link hlink
    cases h
    have hkey := linkOf_key hlink
    have hsync : ∀ row : SCIMResourceLink, row.key = link.key →
        (row.sync call.payload).key = row.key := fun _ _ => rfl
    have hfind : ∀ key, (updateRow SCIMResourceLink.key link.key
        (SCIMResourceLink.sync call.payload) desk.links).find? (fun link => link.key = key) =
        (desk.links.find? fun link => link.key = key).map fun row =>
          if row.key = link.key then row.sync call.payload else row :=
      fun key => find?_updateRow hsync key desk.links
    refine ⟨?_, rfl, .inl ⟨link, hlink, rfl⟩, fun key hne => ?_⟩
    · unfold WorkspaceDesk.linkOf at hlink
      rw [hfind, hlink]
      simp
    · rw [hfind key]
      cases hother : desk.links.find? fun link => link.key = key with
      | none => rfl
      | some other =>
        have hotherKey : other.key = key := by simpa using find?_some hother
        have hkeep : other.key ≠ link.key := by
          rw [hotherKey, hkey]
          exact hne
        simp [hkeep]
  · rename_i hnone
    obtain ⟨_, _, h⟩ := bind_ok h
    cases h
    unfold WorkspaceDesk.linkOf at hnone
    have hkey : (newLink call user).key = (call.configuration.id, call.payload.externalId) := rfl
    refine ⟨?_, rfl, .inr ⟨hnone, rfl⟩, fun key hne => ?_⟩
    · rw [find?_append, hnone]
      simp [hkey]
    · rw [find?_append]
      simp [hkey, hne.symm]

end Parts

section Steps

variable [IdentityTexts] {configuration : SCIMConfiguration} {s : ScimHistory}
  {request : ScimRequest} {provisioned : Provisioned}

/-- What an accepted payload leaves, part by part. -/
theorem provision_ok (hkeyed : Keyed Membership.userId s.desk.memberships)
    (h : provision configuration s.desk request = .ok provisioned) :
    (∃ email users role, request.commits = true ∧ normalizeEmail request.payload.userName = .ok email ∧
      scimUser s.desk (request.call configuration) email = .ok (provisioned.user, users) ∧
      scimRole s.desk (request.call configuration) = .ok role ∧
      (s.desk.membershipOf provisioned.user.id = none →
        ∀ other ∈ s.desk.memberships, other.id ≠ request.membershipId)) ∧
    Keyed Membership.userId provisioned.desk.memberships ∧
    (∀ member ∈ provisioned.desk.memberships, member.userId = provisioned.user.id →
      member.status = scimStatus request.payload) ∧
    ∃ written, provisioned.desk.linkOf configuration.id request.payload.externalId = some written ∧
      written.active = request.payload.active ∧
      ((∃ link, s.desk.linkOf configuration.id request.payload.externalId = some link ∧
          written.userId = link.userId) ∨
        s.desk.linkOf configuration.id request.payload.externalId = none ∧
          written.userId = provisioned.user.id) ∧
      ∀ externalId, externalId ≠ request.payload.externalId →
        provisioned.desk.linkOf configuration.id externalId =
          s.desk.linkOf configuration.id externalId := by
  obtain ⟨found, hprovision, h⟩ := bind_ok h
  obtain ⟨_, hcommits, h⟩ := bind_ok h
  cases h
  obtain ⟨email, hemail, hok⟩ := bind_ok hprovision
  obtain ⟨⟨user, users⟩, huser, hok⟩ := bind_ok hok
  obtain ⟨role, hrole, hok⟩ := bind_ok hok
  obtain ⟨enrolled, henrol, hok⟩ := bind_ok hok
  obtain ⟨⟨written, links⟩, hlink, hok⟩ := bind_ok hok
  cases hok
  have hfresh : s.desk.membershipOf user.id = none →
      ∀ other ∈ s.desk.memberships, other.id ≠ request.membershipId := by
    intro hnone
    unfold WorkspaceDesk.admit at henrol
    rw [hnone] at henrol
    obtain ⟨_, hrequire, -⟩ := bind_ok henrol
    exact require_ok hrequire
  obtain ⟨hmembers, hstatus⟩ := admit_status hkeyed henrol (fun _ => ⟨rfl, rfl⟩) rfl
  obtain ⟨hwritten, hactive, huserId, hothers⟩ := scimLink_ok hlink
  refine ⟨⟨email, users, role, require_ok hcommits, hemail, huser, hrole, hfresh⟩, hmembers,
    hstatus, written, hwritten, hactive, huserId, fun externalId hne => ?_⟩
  apply hothers
  intro hsame
  exact hne (congrArg Prod.snd hsame)

theorem provision_of {email : String} {user : User} {users : List User} {role : Role}
    (hcommits : request.commits = true)
    (hemail : normalizeEmail request.payload.userName = .ok email)
    (huser : scimUser s.desk (request.call configuration) email = .ok (user, users))
    (hrole : scimRole s.desk (request.call configuration) = .ok role)
    (hfresh : s.desk.membershipOf user.id = none →
      ∀ other ∈ s.desk.memberships, other.id ≠ request.membershipId)
    (hlink : s.desk.linkOf configuration.id request.payload.externalId = some link) :
    ∃ provisioned, provision configuration s.desk request = .ok provisioned ∧
      provisioned.user = user := by
  obtain ⟨found, hfound, hsame⟩ := provisionScimUser_of (request.call configuration)
    hemail huser hrole hfresh (scimLink_of_linked hlink user)
  refine ⟨found, ?_, hsame⟩
  unfold provision
  rw [bind_of_ok hfound, bind_of_ok (require_of hcommits _)]

theorem stepScim_ok (h : provision configuration s.desk request = .ok provisioned) :
    stepScim configuration s request =
      { desk := provisioned.desk
        records := s.records ++ [{
          externalId := request.payload.externalId
          userId := provisioned.user.id
          active := request.payload.active }] } := by
  unfold stepScim
  rw [h]

theorem stepScim_error {e : Failure} (h : provision configuration s.desk request = .error e) :
    stepScim configuration s request = s := by
  unfold stepScim
  rw [h]

theorem namesLinkedUser_iff (h : provision configuration s.desk request = .ok provisioned)
    (hkeyed : Keyed Membership.userId s.desk.memberships) : NamesLinkedUser configuration s request ↔
      ∀ link, s.desk.linkOf configuration.id request.payload.externalId = some link →
        link.userId = provisioned.user.id := by
  obtain ⟨⟨email, users, role, hcommits, hemail, huser, hrole, hfresh⟩, -⟩ := provision_ok hkeyed h
  constructor
  · intro hnames
    exact hnames hcommits email provisioned.user users hemail huser ⟨role, hrole⟩ hfresh
  · intro hlinked _ email' user users' hemail' huser' _ _
    rw [hemail] at hemail'
    cases hemail'
    rw [huser] at huser'
    cases huser'
    exact hlinked

theorem namesLinkedUser_of_refused {e : Failure} (h : provision configuration s.desk request = .error e) :
    NamesLinkedUser configuration s request := by
  rintro hcommits email user users hemail huser ⟨role, hrole⟩ hfresh link hlink
  obtain ⟨provisioned, hok, -⟩ := provision_of hcommits hemail huser hrole hfresh hlink
  rw [h] at hok
  cases hok

theorem namesLinkedUser_of_test (hkeyed : Keyed Membership.userId s.desk.memberships)
    (h : (s.desk.linkOf configuration.id request.payload.externalId).all (fun link =>
      (provision configuration s.desk request).toOption.all fun provisioned => link.userId =
      provisioned.user.id) = true) :
    NamesLinkedUser configuration s request := by
  cases hanswer : provision configuration s.desk request with
  | error e => exact namesLinkedUser_of_refused hanswer
  | ok provisioned =>
    apply (namesLinkedUser_iff hanswer hkeyed).mpr
    intro link hlink
    simpa [hanswer, hlink, Except.toOption] using h

theorem takesEffect_iff (h : ScimBooks configuration s) (request : ScimRequest) :
    TakesEffect configuration s request ↔ NamesLinkedUser configuration s request := by
  cases hanswer : provision configuration s.desk request with
  | error e =>
    refine iff_of_true ?_ (namesLinkedUser_of_refused hanswer)
    intro provisioned hok
    rw [hanswer] at hok
    cases hok
  | ok provisioned =>
    rw [namesLinkedUser_iff hanswer h.members]
    obtain ⟨-, -, hstatus, written, hwritten, hactive, huserId, -⟩ := provision_ok h.members hanswer
    constructor
    · intro heffect link hlink
      obtain ⟨⟨shown, hshown, hshows, -⟩, -⟩ := heffect provisioned hanswer
      rw [hwritten] at hshown
      cases hshown
      rcases huserId with ⟨found, hfound, hsame⟩ | ⟨hnone, -⟩
      · rw [hlink] at hfound
        cases hfound
        exact hsame.symm.trans hshows
      · rw [hlink] at hnone
        cases hnone
    · intro hlinked found hfound
      rw [hanswer] at hfound
      cases hfound
      have hshows : written.userId = provisioned.user.id := by
        rcases huserId with ⟨link, hlink, hsame⟩ | ⟨-, hsame⟩
        · exact hsame.trans (hlinked link hlink)
        · exact hsame
      refine ⟨⟨written, hwritten, hshows, hactive⟩, fun hinactive record hrecord hid => .inl ?_⟩
      have hnamed : record.userId = provisioned.user.id := by
        rw [stepScim_ok hanswer] at hrecord
        rcases mem_append.mp hrecord with hold | hlast
        · obtain ⟨link, hlink, hrecorded⟩ := h.linked record hold
          rw [hid] at hlink
          exact hrecorded.symm.trans (hlinked link hlink)
        · rw [mem_singleton.mp hlast]
      rintro ⟨member, hmember, huser, hmemberActive⟩
      have hsuspended := hstatus member hmember (huser.trans hnamed)
      simp [hmemberActive, scimStatus, hinactive] at hsuspended

theorem books_stepScim (h : ScimBooks configuration s) (hnames : NamesLinkedUser configuration s request) :
    ScimBooks configuration (stepScim configuration s request) := by
  cases hanswer : provision configuration s.desk request with
  | error e =>
    rw [stepScim_error hanswer]
    exact h
  | ok provisioned =>
    have hlinked := (namesLinkedUser_iff hanswer h.members).mp hnames
    obtain ⟨-, hmembers, -, written, hwritten, -, huserId, hothers⟩ :=
      provision_ok h.members hanswer
    have hshows : written.userId = provisioned.user.id := by
      rcases huserId with ⟨link, hlink, hsame⟩ | ⟨-, hsame⟩
      · exact hsame.trans (hlinked link hlink)
      · exact hsame
    rw [stepScim_ok hanswer]
    refine ⟨hmembers, fun record hrecord => ?_⟩
    rcases mem_append.mp hrecord with hold | hlast
    · obtain ⟨link, hlink, hrecorded⟩ := h.linked record hold
      by_cases hid : record.externalId = request.payload.externalId
      · refine ⟨written, by rw [hid]; exact hwritten, ?_⟩
        rw [hid] at hlink
        exact hshows.trans ((hlinked link hlink).symm.trans hrecorded)
      · refine ⟨link, ?_, hrecorded⟩
        rw [hothers record.externalId hid]
        exact hlink
    · rw [mem_singleton.mp hlast]
      exact ⟨written, hwritten, hshows⟩

/-- In a run of payloads, deprovisioning takes effect exactly when every payload names the user
that its external identifier is linked to. -/
theorem scim_takes_effect_iff (hnew : NewScim configuration s) (requests : List ScimRequest) :
    Along (stepScim configuration) (TakesEffect configuration) s requests ↔
      Along (stepScim configuration) (NamesLinkedUser configuration) s requests :=
  along_iff_along_of_invariant (stepScim configuration) (I := ScimBooks configuration)
    (R := fun _ _ => True) (fun _ request hs _ => takesEffect_iff hs request)
    (fun _ _ hs _ hnames => books_stepScim hs hnames)
    ⟨hnew.members, by simp [hnew.records]⟩
    (along_of_always (stepScim configuration) (fun _ _ => trivial) s requests)

end Steps

section Samples

attribute [local instance] sampleIdentityTexts

def sampleConfiguration : SCIMConfiguration where
  id := 40

/-- The sample with one more member. -/
def sampleScim : ScimHistory where
  desk := {
    sampleWorkspace with
    users := sampleWorkspace.users ++ [sampleUser 3 "d@b.example"]
    memberships := sampleWorkspace.memberships ++
      [{ id := 3, userId := 3, roleId := 3, status := .active, joinedAt := 0 }] }

def samplePayload (userName : String) (active : Bool) : ScimRequest where
  userId := 9
  membershipId := 9
  linkId := 9
  now := 100
  payload :=
    { externalId := "x", userName := userName, displayName := "member", active := active }

theorem sampleScim_new : NewScim sampleConfiguration sampleScim where
  members := by unfold Keyed; decide
  records := rfl

theorem scim_takes_effect_sample :
    Along (stepScim sampleConfiguration) (TakesEffect sampleConfiguration) sampleScim
      [samplePayload "c@b.example" true, samplePayload "c@b.example" false] := by
  apply (scim_takes_effect_iff sampleScim_new _).mpr
  have hbooks : ScimBooks sampleConfiguration sampleScim :=
    ⟨sampleScim_new.members, by simp [sampleScim]⟩
  have hfirst : NamesLinkedUser sampleConfiguration sampleScim (samplePayload "c@b.example" true) :=
    namesLinkedUser_of_test hbooks.members (by decide +kernel)
  refine ⟨hfirst, ?_, trivial⟩
  exact namesLinkedUser_of_test (books_stepScim hbooks hfirst).members (by decide +kernel)

/-- After the user name has changed to that of another member under an external identifier,
deactivating it leaves the first user an active member. -/
theorem renamed_user_stays_active :
    ¬ Along (stepScim sampleConfiguration) (TakesEffect sampleConfiguration) sampleScim
      [samplePayload "c@b.example" true, samplePayload "d@b.example" false] := by
  rintro ⟨-, hsecond, -⟩
  let s := stepScim sampleConfiguration sampleScim (samplePayload "c@b.example" true)
  let renamed := samplePayload "d@b.example" false
  obtain ⟨provisioned, hok, -⟩ := ok_of_test (fun _ => true)
    (show (provision sampleConfiguration s.desk renamed).toOption.any (fun _ => true) = true by
      decide +kernel)
  have hactive : (provision sampleConfiguration s.desk renamed).toOption.all (fun p =>
      p.desk.memberships.any fun row => row.userId = 2 ∧ row.status = .active) = true := by
    decide +kernel
  have hstays : provisioned.desk.HasActiveMembership 2 := by
    simpa [hok, Except.toOption, WorkspaceDesk.HasActiveMembership] using hactive
  have hrecords : ∃ record ∈ (stepScim sampleConfiguration s renamed).records,
      record.externalId = "x" ∧ record.userId = 2 := by decide +kernel
  obtain ⟨record, hrecord, hid, huser⟩ := hrecords
  rcases (hsecond provisioned hok).2 rfl record hrecord hid with hgone | ⟨other, latest, hne, hlatest, -⟩
  · exact hgone (huser ▸ hstays)
  · have honly : ∀ record ∈ (stepScim sampleConfiguration s renamed).records,
        record.externalId = "x" := by decide +kernel
    have hmem := mem_of_getLast? hlatest
    obtain ⟨hin, hother⟩ := mem_filter.mp hmem
    exact hne ((of_decide_eq_true hother).symm.trans (honly latest hin))

end Samples

end BlogOps.Identity
