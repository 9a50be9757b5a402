import BlogOps.SessionEffects

/-!
# What a password reset cuts off

A reset that revokes all sessions of its user leaves nothing of the old password,
but for the challenges of second factors that it finds open.
-/

namespace BlogOps.Accounts

open Identity KeyedTables TransitionRuns List

section Steps

variable [IdentityTexts] [PasswordHashes]

/-- No session from before a reset answers, and a new session was opened with a password that was
checked after every reset. -/
structure CutsOff (s : AccountDesk) (call : AccountCall) : Prop where
  earlier : ∀ login ∈ s.sessions, login.openedAfter < s.resetsOf login.userId →
    ¬ Names (answerOf s call) login.id
  later : ∀ login ∈ (stepAccounts s call).sessions, (∀ other ∈ s.sessions, other.id ≠ login.id) →
    login.checkedAfter = s.resetsOf login.userId

omit [PasswordHashes] in
/-- A challenge opens a session only if its password was checked after every reset. -/
def ChecksAnew (s : AccountDesk) : AccountCall → Prop
  | .verifyMfaLogin call => ∀ challenge user, ChallengeFits s call challenge user →
      challenge.checkedAfter = s.resetsOf challenge.userId
  | _ => True

end Steps

structure ResetBooks (s : AccountDesk) : Prop where
  sessions : Keyed LoginSession.id s.sessions
  ended : ∀ login ∈ s.sessions, login.openedAfter < s.resetsOf login.userId → login.status ≠ .active

theorem resetBooks_of_unopened {s : AccountDesk} (h : Unopened s) : ResetBooks s where
  sessions := by simp [h.sessions, Keyed]
  ended := by simp [h.sessions]

section Effects

variable [IdentityTexts] {s after : AccountDesk} {call : AccountCall}
  {answer : Except Failure Answer}

omit [IdentityTexts] in
theorem revokeAll_ends {userId : Uuid} {reason : String} {now : Int} {row : LoginSession}
    (h : row ∈ (s.revokeAll userId reason now none).sessions) (huser : row.userId = userId) :
    row.status ≠ .active := by
  obtain ⟨old, hold, rfl⟩ := mem_map.mp h
  split at huser
  · rename_i hrevoked
    rw [if_pos hrevoked]
    simp [LoginSession.close]
  · rename_i hkept
    rw [if_neg hkept]
    intro hactive
    exact hkept ⟨huser, hactive, by simp⟩

/-- A reset is counted where the sessions of its user are ended. -/
theorem Effect.resets (h : Effect s call after answer) :
    after.resets = s.resets ∨ ∃ userId, after.resets = s.resets ++ [userId] ∧
      ∀ row ∈ after.sessions, row.userId = userId → row.status ≠ .active := by
  cases h with
  | passwordReset call token row =>
    exact .inr ⟨token.userId, rfl, fun row hrow huser => revokeAll_ends hrow huser⟩
  | resolved call login user member fits =>
    left
    unfold AccountDesk.touchIdle
    split <;> rfl
  | _ => exact .inl rfl

theorem Opened.openedAfter {opened : List LoginSession} (h : Opened s call opened)
    {login : LoginSession} (hlogin : login ∈ opened) : login.openedAfter = s.resetsOf login.userId := by
  cases h with
  | none => cases hlogin
  | password call user workspaceId fits free => rw [mem_singleton.mp hlogin]; rfl
  | mfa call challenge user fits => rw [mem_singleton.mp hlogin]; rfl

theorem ResetBooks.step (h : ResetBooks s) (heffect : Effect s call after answer) : ResetBooks after where
  sessions := heffect.keyed_sessions h.sessions
  ended := by
    intro row hrow hopened hactive
    -- The resets that the row has seen are those before the step, unless it ends the row.
    have hbefore : row.openedAfter < s.resetsOf row.userId := by
      rcases heffect.resets with hsame | ⟨userId, hreset, hends⟩
      · unfold AccountDesk.resetsOf at *
        rwa [hsame] at hopened
      · have hother : userId ≠ row.userId := fun huser => hends row hrow huser.symm hactive
        unfold AccountDesk.resetsOf at *
        rwa [hreset, count_append, count_singleton, beq_false_of_ne hother,
          if_neg Bool.false_ne_true, Nat.add_zero] at hopened
    rcases heffect.mem_sessions hrow with ⟨old, hold, hcontinues⟩ | ⟨opened, hnew, hmem⟩
    · rw [hcontinues.openedAfter, hcontinues.userId] at hbefore
      exact h.ended old hold hbefore (hcontinues.closed hactive)
    · rw [hnew.openedAfter hmem] at hbefore
      omega

end Effects

section Challenges

variable [IdentityTexts] [PasswordHashes] {s : AccountDesk}

theorem stepAccounts_verified {call : VerifyMfaCall} {challenge : AuthenticationChallenge}
    {user : User} (fits : ChallengeFits s call challenge user) :
    mfaSession s user challenge call ∈ (stepAccounts s (.verifyMfaLogin call)).sessions := by
  obtain ⟨member, hmember⟩ := fits.member
  have hcreated : createSession (s.consumeChallenge challenge call.now) user challenge.workspaceId
      ["password", "totp_or_recovery"] (some call.now) call.now call.keys challenge.checkedAfter =
      .ok ((s.consumeChallenge challenge call.now).addSession (mfaSession s user challenge call)
        (firstToken (mfaSession s user challenge call) call.keys)
        (newPair s (mfaSession s user challenge call) challenge.workspaceId
          call.keys.refreshToken call.now).accessToken call.now,
        .ok (.tokens (newPair s (mfaSession s user challenge call) challenge.workspaceId
          call.keys.refreshToken call.now))) := by
    have hfound : activeMembership (s.consumeChallenge challenge call.now) user.id
        challenge.workspaceId = .ok member := hmember
    unfold createSession
    rw [bind_of_ok hfound]
    exact bind_of_ok (require_of ⟨fits.free.session, fits.free.token⟩ _) _
  have hverified : verifyMfaLogin s call = createSession (s.consumeChallenge challenge call.now) user
      challenge.workspaceId ["password", "totp_or_recovery"] (some call.now) call.now call.keys
      challenge.checkedAfter := by
    unfold verifyMfaLogin
    rw [bind_of_ok fits.opened, bind_of_ok fits.active, bind_of_ok fits.factor]
  simp only [stepAccounts, perform, hverified, hcreated]
  exact mem_append_right _ (mem_singleton_self _)

theorem cutsOff_iff (h : ResetBooks s) (call : AccountCall) : CutsOff s call ↔ ChecksAnew s call := by
  have heffect : Effect s call (stepAccounts s call) (answerOf s call) := effect_step s call
  constructor
  · intro hcuts
    unfold ChecksAnew
    split
    · intro challenge user fits
      have hid : user.id = challenge.userId := (userOf_some (activeUser_ok fits.active).1).2
      have hchecked := hcuts.later _ (stepAccounts_verified fits) fits.free.session
      exact hid ▸ hchecked
    · trivial
  · intro hchecks
    refine ⟨?_, ?_⟩
    · intro login hlogin hopened hnames
      exact h.ended login hlogin hopened (heffect.active_of_names h.sessions hlogin hnames)
    · intro login hlogin hfresh
      rcases heffect.mem_sessions hlogin with ⟨old, hold, hcontinues⟩ | ⟨opened, hnew, hmem⟩
      · exact absurd hcontinues.id.symm (hfresh old hold)
      · cases hnew with
        | none => cases hmem
        | password call user workspaceId fits free => rw [mem_singleton.mp hmem]; rfl
        | mfa call challenge user fits =>
          have hid : user.id = challenge.userId := (userOf_some (activeUser_ok fits.active).1).2
          rw [mem_singleton.mp hmem]
          exact (hchecks challenge user fits).trans (congrArg s.resetsOf hid.symm)

/-- In the runs whose challenges open sessions only with a password checked after every reset, and
in no others, a reset that revokes all sessions cuts off whatever was obtained before it. -/
theorem cuts_off_iff (hs : Unopened s) (calls : List AccountCall) :
    Along stepAccounts CutsOff s calls ↔ Along stepAccounts ChecksAnew s calls :=
  along_iff_along_of_invariant stepAccounts (I := ResetBooks) (R := fun _ _ => True)
    (fun _ call h _ => cutsOff_iff h call) (fun _ call h _ _ => h.step (effect_step _ call))
    (resetBooks_of_unopened hs) (along_of_always stepAccounts (fun _ _ => trivial) s calls)

/-- In every run the sessions from before a reset that ended all of them stay ended; what gets past
it is a challenge. -/
theorem reset_sessions_ended (hs : Unopened s) (calls : List AccountCall) :
    ∀ login ∈ (run stepAccounts s calls).sessions,
      login.openedAfter < (run stepAccounts s calls).resetsOf login.userId → login.status ≠ .active :=
  (invariant_run stepAccounts (I := ResetBooks) (fun _ call h => h.step (effect_step _ call))
    (resetBooks_of_unopened hs) calls).ended

end Challenges

section Samples

attribute [local instance] sampleAccountTexts samplePasswordHashes

theorem checksAnew_of_test {s : AccountDesk} {call : VerifyMfaCall}
    (h : (openChallenge s call).toOption.all (fun challenge => challenge.checkedAfter =
      s.resetsOf challenge.userId) = true) : ChecksAnew s (.verifyMfaLogin call) := by
  intro challenge user fits
  rw [fits.opened] at h
  exact of_decide_eq_true h

/-- The writer has a second factor and holds a link to set a new password. -/
def guardedAccounts : AccountDesk :=
  { sampleAccounts with
    users := [{
      id := 1
      email := "writer@blog.example"
      status := .active
      mfaEnabled := true
      hasActiveFactor := true }]
    resetTokens := [{ id := 40, userId := 1, tokenHash := "reset", expiresAt := 100 }] }

def guardedLogin (password : String) (challengeId : Uuid) (challengeToken : String) : AccountCall :=
  .login {
    now := 0
    email := "writer@blog.example"
    password := password
    requestedWorkspaceId := none
    keys := { sessionId := 10, refreshId := 20, refreshToken := "r0" }
    challengeId := challengeId
    challengeToken := challengeToken }

def sampleVerify (challengeToken : String) (keys : SessionKeys) : VerifyMfaCall where
  now := 1
  challengeToken := challengeToken
  secondFactor := .ok ()
  keys := keys

def sampleReset : AccountCall := .resetPassword {
  now := 2
  rawToken := "reset"
  newPassword := "second password"
  revokeAllSessions := true }

def sampleKeys (sessionId refreshId : Uuid) (refreshToken : String) : SessionKeys where
  sessionId := sessionId
  refreshId := refreshId
  refreshToken := refreshToken

theorem unopened_guardedAccounts : Unopened guardedAccounts := ⟨rfl, rfl, rfl, rfl, rfl⟩

/-- A session from before a reset, and one from after it. -/
theorem cuts_off_sample : Along stepAccounts CutsOff guardedAccounts
    [guardedLogin "first password" 30 "c0",
      .verifyMfaLogin (sampleVerify "c0" (sampleKeys 10 20 "r0")), sampleReset,
      guardedLogin "second password" 31 "c1",
      .verifyMfaLogin (sampleVerify "c1" (sampleKeys 11 21 "r1"))] := by
  refine (cuts_off_iff unopened_guardedAccounts _).mpr ⟨trivial, ?_, trivial, trivial, ?_, trivial⟩
  · exact checksAnew_of_test (by decide +kernel)
  · exact checksAnew_of_test (by decide +kernel)

theorem reset_sessions_ended_sample :
    let reset := run stepAccounts guardedAccounts [guardedLogin "first password" 30 "c0",
      .verifyMfaLogin (sampleVerify "c0" (sampleKeys 10 20 "r0")), sampleReset]
    ∀ login ∈ reset.sessions, login.openedAfter < reset.resetsOf login.userId → login.status ≠ .active :=
  reset_sessions_ended unopened_guardedAccounts _

/-- A challenge from before the reset opens a session after it. -/
theorem challenge_outlives_reset : ¬ Along stepAccounts CutsOff guardedAccounts
    [guardedLogin "first password" 30 "c0", sampleReset,
      .verifyMfaLogin (sampleVerify "c0" (sampleKeys 10 20 "r0"))] := by
  rintro ⟨-, -, hcuts, -⟩
  have hlogin : (run stepAccounts guardedAccounts [guardedLogin "first password" 30 "c0",
      sampleReset, .verifyMfaLogin (sampleVerify "c0" (sampleKeys 10 20 "r0"))]).sessions.any
        (fun login => login.userId = 1 && login.checkedAfter = 0) = true := by
    decide +kernel
  have hnone : (run stepAccounts guardedAccounts [guardedLogin "first password" 30 "c0",
      sampleReset]).sessions = [] ∧
        (run stepAccounts guardedAccounts [guardedLogin "first password" 30 "c0",
          sampleReset]).resetsOf 1 = 1 := by
    decide +kernel
  obtain ⟨login, hmem, hlogin⟩ := any_eq_true.mp hlogin
  simp only [Bool.and_eq_true, decide_eq_true_eq] at hlogin
  have hchecked : login.checkedAfter = (run stepAccounts guardedAccounts [guardedLogin
      "first password" 30 "c0", sampleReset]).resetsOf login.userId := by
    refine hcuts.later login hmem fun other hother => ?_
    exact absurd hother (eq_nil_iff_forall_not_mem.mp hnone.1 other)
  rw [hlogin.1, hlogin.2, hnone.2] at hchecked
  cases hchecked

end Samples

end BlogOps.Accounts
