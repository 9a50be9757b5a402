import BlogOps.SessionEffects

/-!
# The rotation of refresh tokens

The refresh tokens of a session replace each other, a token that is presented twice
ends its session, and a session that has ended stays ended.
-/

namespace BlogOps.Accounts

open Identity KeyedTables TransitionRuns List

/-- Tokens that replace each other, from one generation on: only the last is not consumed. -/
inductive RotationFrom : Nat → List SessionRefreshToken → Prop
  | last (row : SessionRefreshToken) (unconsumed : row.consumedAt = none) :
      RotationFrom row.generation [row]
  | next (row head : SessionRefreshToken) (rest : List SessionRefreshToken)
      (consumed : row.consumedAt ≠ none) (replaced : row.replacedById = some head.id)
      (tail : RotationFrom (row.generation + 1) (head :: rest)) :
      RotationFrom row.generation (row :: head :: rest)

def AccountDesk.tokensOfSession (s : AccountDesk) (sessionId : Uuid) : List SessionRefreshToken :=
  s.refreshTokens.filter fun row => row.sessionId = sessionId

/-- The tokens of each session have the generations from 0 on. -/
def Rotated (s : AccountDesk) : Prop :=
  ∀ login ∈ s.sessions, RotationFrom 0 (s.tokensOfSession login.id)

section Steps

variable [IdentityTexts] [PasswordHashes]

structure RotatesSafely (s : AccountDesk) (call : AccountCall) : Prop where
  chains : Rotated (stepAccounts s call)
  reuse : ∀ refresh token, call = .refresh refresh →
    s.tokenOf refresh.rawRefreshToken = some token → token.consumedAt ≠ none →
      ∀ row ∈ (stepAccounts s call).sessions, row.id = token.sessionId → row.status ≠ .active
  ended : ∀ login ∈ s.sessions, login.status ≠ .active → ¬ Names (answerOf s call) login.id ∧
      ∀ row ∈ (stepAccounts s call).sessions, row.id = login.id → row.status ≠ .active

omit [PasswordHashes] in
/-- A consumed token of an active session is presented only with a workspace that its user has
access to. -/
def ReuseSelects (s : AccountDesk) : AccountCall → Prop
  | .refresh call => ∀ token login, s.tokenOf call.rawRefreshToken = some token →
      token.consumedAt ≠ none → s.sessionOf token.sessionId = some login → login.status = .active →
          ∃ member ∈ s.members, s.accessible login.userId call.requestedWorkspaceId member = true
  | _ => True

end Steps

structure TokenBooks (s : AccountDesk) : Prop where
  sessions : Keyed LoginSession.id s.sessions
  tokens : Keyed SessionRefreshToken.id s.refreshTokens
  owned : ∀ token ∈ s.refreshTokens, ∃ login ∈ s.sessions, login.id = token.sessionId
  rotated : Rotated s

theorem tokenBooks_of_unopened {s : AccountDesk} (h : Unopened s) : TokenBooks s where
  sessions := by simp [h.sessions, Keyed]
  tokens := by simp [h.refreshTokens, Keyed]
  owned := by simp [h.refreshTokens]
  rotated := by simp [Rotated, h.sessions]

section Chains

variable {g : Nat} {rows : List SessionRefreshToken}

/-- The chain goes on with the replacement of its token that is not consumed. -/
theorem RotationFrom.replace (h : RotationFrom g rows) (hkeyed : Keyed SessionRefreshToken.id rows)
    {token replacement : SessionRefreshToken} (htoken : token ∈ rows) (hunconsumed : token.consumedAt = none)
    (hnew : replacement.consumedAt = none) (hgeneration : replacement.generation = token.generation + 1)
    (now : Int) : RotationFrom g (updateRow (·.id) token.id
      (SessionRefreshToken.consume now replacement.id) rows ++ [replacement]) := by
  induction h with
  | last row unconsumed =>
    have hrow : token = row := mem_singleton.mp htoken
    have hlast : RotationFrom (row.generation + 1) [replacement] := by
      rw [← hrow, ← hgeneration]
      exact .last replacement hnew
    have hconsumed : (row.consume now replacement.id).consumedAt ≠ none := by
      simp [SessionRefreshToken.consume]
    have hchain : RotationFrom row.generation [row.consume now replacement.id, replacement] :=
      .next (row.consume now replacement.id) replacement [] hconsumed rfl hlast
    simpa [updateRow, hrow] using hchain
  | next row head rest consumed replaced tail ih =>
    obtain ⟨hother, htail⟩ := Keyed.cons_iff.mp hkeyed
    have hrest : token ∈ head :: rest := by
      rcases mem_cons.mp htoken with rfl | hrest
      · exact absurd hunconsumed consumed
      · exact hrest
    have hrow : updateRow (·.id) token.id (SessionRefreshToken.consume now replacement.id)
        (row :: head :: rest) = row :: updateRow (·.id) token.id
          (SessionRefreshToken.consume now replacement.id) (head :: rest) := by
      have hne : row.id ≠ token.id := (hother token hrest).symm
      simp [updateRow, hne]
    have hchain := ih htail hrest
    rw [hrow, cons_append]
    refine .next row _ _ consumed (replaced.trans ?_) hchain
    dsimp only
    split <;> rfl

end Chains

theorem filter_updateRow_of {α κ : Type*} [DecidableEq κ] {key : α → κ} {k : κ} {f : α → α}
    {p : α → Bool} (hp : ∀ row, p (f row) = p row) (rows : List α) :
    (updateRow key k f rows).filter p = updateRow key k f (rows.filter p) := by
  unfold updateRow
  rw [filter_map]
  congr 2
  funext row
  simp only [Function.comp_apply]
  split
  · exact hp row
  · rfl

section Books

variable {s after : AccountDesk}

theorem TokenBooks.of_tokens (h : TokenBooks s) (htokens : after.refreshTokens = s.refreshTokens)
    {later : LoginSession → LoginSession} (hlater : ∀ row, Continues row (later row))
    (hsessions : after.sessions = s.sessions.map later)
    (hkeyed : Keyed LoginSession.id after.sessions) : TokenBooks after where
  sessions := hkeyed
  tokens := htokens ▸ h.tokens
  owned := by
    rw [htokens, hsessions]
    intro token htoken
    obtain ⟨login, hlogin, hid⟩ := h.owned token htoken
    exact ⟨later login, mem_map_of_mem hlogin, (hlater login).id.trans hid⟩
  rotated := by
    intro row hrow
    rw [hsessions] at hrow
    obtain ⟨login, hlogin, rfl⟩ := mem_map.mp hrow
    unfold AccountDesk.tokensOfSession
    rw [htokens, (hlater login).id]
    exact h.rotated login hlogin

theorem TokenBooks.tokensOfSession_eq_nil (h : TokenBooks s) {sessionId : Uuid}
    (hfresh : ∀ other ∈ s.sessions, other.id ≠ sessionId) : s.tokensOfSession sessionId = [] := by
  apply filter_eq_nil_iff.mpr
  intro token htoken
  obtain ⟨login, hlogin, hid⟩ := h.owned token htoken
  rw [decide_eq_true_eq, ← hid]
  exact hfresh login hlogin

theorem TokenBooks.addSession (h : TokenBooks s) {login : LoginSession}
    {token : SessionRefreshToken} (hlogin : ∀ other ∈ s.sessions, other.id ≠ login.id)
    (htoken : ∀ other ∈ s.refreshTokens, other.id ≠ token.id) (howned : token.sessionId = login.id)
    (hgeneration : token.generation = 0) (hunconsumed : token.consumedAt = none)
    (hsessions : after.sessions = s.sessions ++ [login])
    (htokens : after.refreshTokens = s.refreshTokens ++ [token]) : TokenBooks after where
  sessions := hsessions ▸ h.sessions.append_row hlogin
  tokens := htokens ▸ h.tokens.append_row htoken
  owned := by
    rw [hsessions, htokens]
    intro other hother
    rcases mem_append.mp hother with hold | hnew
    · obtain ⟨found, hfound, hid⟩ := h.owned other hold
      exact ⟨found, mem_append_left _ hfound, hid⟩
    · rw [mem_singleton.mp hnew]
      exact ⟨login, mem_append_right _ (mem_singleton_self login), howned.symm⟩
  rotated := by
    intro row hrow
    rw [hsessions] at hrow
    unfold AccountDesk.tokensOfSession
    rw [htokens, filter_append]
    rcases mem_append.mp hrow with hold | hnew
    · have hne : token.sessionId ≠ row.id := fun heq => hlogin row hold (heq.symm.trans howned)
      rw [filter_cons_of_neg (by simpa using hne), filter_nil, append_nil]
      exact h.rotated row hold
    · rw [mem_singleton.mp hnew]
      have hnil : s.refreshTokens.filter (fun row => row.sessionId = login.id) = [] :=
        h.tokensOfSession_eq_nil hlogin
      rw [hnil, filter_cons_of_pos (by simpa using howned), filter_nil, nil_append,
        ← hgeneration]
      exact .last token hunconsumed

theorem TokenBooks.replaceToken (h : TokenBooks s) {token replacement : SessionRefreshToken}
    (htoken : token ∈ s.refreshTokens) (hunconsumed : token.consumedAt = none)
    (hfree : ∀ other ∈ s.refreshTokens, other.id ≠ replacement.id)
    (howned : replacement.sessionId = token.sessionId)
    (hgeneration : replacement.generation = token.generation + 1)
    (hnew : replacement.consumedAt = none) (claims : AccessTokenClaims) (now : Int)
    (hkeyed : Keyed LoginSession.id (s.replaceToken token replacement claims now).sessions)
    {later : LoginSession → LoginSession} (hcontinues : ∀ row, Continues row (later row))
    (hsessions : (s.replaceToken token replacement claims now).sessions = s.sessions.map later) :
    TokenBooks (s.replaceToken token replacement claims now) where
  sessions := hkeyed
  tokens := by
    have hconsumed : Keyed SessionRefreshToken.id (updateRow (·.id) token.id
        (SessionRefreshToken.consume now replacement.id) s.refreshTokens) :=
      h.tokens.updateRow fun row _ => rfl
    refine hconsumed.append_row fun other hother => ?_
    obtain ⟨old, hold, ⟨-, rfl⟩ | ⟨-, rfl⟩⟩ := mem_updateRow hother
    · exact hfree old hold
    · exact hfree _ hold
  owned := by
    have hheld : ∀ other ∈ s.refreshTokens, ∃ login ∈
        (s.replaceToken token replacement claims now).sessions, login.id = other.sessionId := by
      intro other hother
      obtain ⟨login, hlogin, hid⟩ := h.owned other hother
      have hlater := mem_map_of_mem (f := later) hlogin
      exact ⟨later login, by rwa [hsessions], (hcontinues login).id.trans hid⟩
    intro other hother
    rcases mem_append.mp hother with hold | hlast
    · obtain ⟨old, hmem, ⟨-, rfl⟩ | ⟨-, rfl⟩⟩ := mem_updateRow hold
      · exact hheld old hmem
      · exact hheld _ hmem
    · rw [mem_singleton.mp hlast, howned]
      exact hheld token htoken
  rotated := by
    intro row hrow
    obtain ⟨login, hlogin, hid⟩ : ∃ login ∈ s.sessions, login.id = row.id := by
      rw [hsessions] at hrow
      obtain ⟨login, hlogin, rfl⟩ := mem_map.mp hrow
      exact ⟨login, hlogin, (hcontinues login).id.symm⟩
    have hchain : RotationFrom 0 (s.tokensOfSession row.id) := hid ▸ h.rotated login hlogin
    have hfilter : (s.replaceToken token replacement claims now).tokensOfSession row.id =
        updateRow (·.id) token.id (SessionRefreshToken.consume now replacement.id)
          (s.tokensOfSession row.id) ++ [replacement].filter fun other => other.sessionId = row.id := by
      unfold AccountDesk.tokensOfSession AccountDesk.replaceToken
      rw [filter_append, filter_updateRow_of]
      exact fun _ => rfl
    rw [hfilter]
    by_cases hmine : token.sessionId = row.id
    · rw [filter_cons_of_pos (by simpa using howned.trans hmine), filter_nil]
      exact hchain.replace (h.tokens.sublist filter_sublist)
        (mem_filter.mpr ⟨htoken, by simpa using hmine⟩) hunconsumed hnew hgeneration now
    · have hother : ∀ other ∈ s.tokensOfSession row.id, other.id ≠ token.id := by
        intro other hother heq
        obtain ⟨hmem, hsession⟩ := mem_filter.mp hother
        rw [h.tokens.eq_of_key_eq hmem htoken heq] at hsession
        exact hmine (by simpa using hsession)
      rw [updateRow_of_forall_ne hother,
        filter_cons_of_neg (by simpa using fun heq => hmine (howned.symm.trans heq)),
        filter_nil, append_nil]
      exact hchain

variable [IdentityTexts] {call : AccountCall} {answer : Except Failure Answer}

theorem tokenOf_some {rawToken : String} {token : SessionRefreshToken}
    (h : s.tokenOf rawToken = some token) : token ∈ s.refreshTokens :=
  mem_of_find?_eq_some h

theorem TokenBooks.step (h : TokenBooks s) (heffect : Effect s call after answer) : TokenBooks after := by
  have hkeyed : Keyed LoginSession.id after.sessions := heffect.keyed_sessions h.sessions
  have hkept (htokens : after.refreshTokens = s.refreshTokens)
      (hsessions : SessionsFrom s after []) : TokenBooks after := by
    obtain ⟨later, hcontinues, hsessions⟩ := hsessions
    rw [append_nil] at hsessions
    exact h.of_tokens htokens hcontinues hsessions hkeyed
  cases heffect with
  | loggedIn call user workspaceId row fits free =>
    exact h.addSession free.session (fun other hother => (free.token other hother).1) rfl rfl rfl
      rfl rfl
  | verified call challenge user fits =>
    exact h.addSession fits.free.session (fun other hother => (fits.free.token other hother).1) rfl
      rfl rfl rfl rfl
  | rotated call token login workspaceId fits =>
    have howned : login.id = token.sessionId := (sessionOf_some fits.session).2
    obtain ⟨later, hcontinues, hsessions⟩ : SessionsFrom s (s.replaceToken token
        (replacementToken token login call)
        (newPair s login workspaceId call.newRefreshToken call.now).accessToken call.now) [] :=
      sessionsFrom_write (continues_touch call.now) rfl
    rw [append_nil] at hsessions
    exact h.replaceToken (tokenOf_some fits.presented) fits.unconsumed
      (fun other hother => (fits.free other hother).1) howned rfl rfl _ _ hkeyed hcontinues hsessions
  | rolledBack | failed | challenged | passwordSet | membersChanged =>
    exact hkept rfl (sessionsFrom_same rfl)
  | closed call login status reason e ended =>
    exact hkept rfl (sessionsFrom_write (continues_close ended call.now reason) rfl)
  | resolved call login user member fits =>
    refine hkept ?_ (sessionsFrom_touchIdle login call.now)
    unfold AccountDesk.touchIdle
    split <;> rfl
  | revoked now userId sessionId login =>
    exact hkept rfl (sessionsFrom_write (continues_close (by simp) now _) rfl)
  | revokedAll | passwordReset => exact hkept rfl (sessionsFrom_revokeAll rfl)

end Books

section Reuse

variable {s : AccountDesk}

theorem selectWorkspace_iff {userId : Uuid} {requested : Option Uuid} :
    (∃ workspaceId, selectWorkspace s userId requested = .ok workspaceId) ↔
      ∃ member ∈ s.members, s.accessible userId requested member = true := by
  unfold selectWorkspace
  cases hmin : (s.members.filter (s.accessible userId requested)).argmin Member.joinedAt with
  | none =>
    have hnone := filter_eq_nil_iff.mp (argmin_eq_none.mp hmin)
    constructor
    · rintro ⟨workspaceId, hselect⟩
      cases hselect
    · rintro ⟨member, hmember, haccessible⟩
      exact absurd haccessible (hnone member hmember)
  | some member =>
    have hmember := mem_filter.mp (argmin_mem hmin)
    exact iff_of_true ⟨member.workspaceId, rfl⟩ ⟨member, hmember.1, hmember.2⟩

variable [IdentityTexts] {call : RefreshCall} {token : SessionRefreshToken} {login : LoginSession}

variable [PasswordHashes]

section

variable (hpresented : s.tokenOf call.rawRefreshToken = some token)
    (hsession : s.sessionOf token.sessionId = some login)

include hpresented hsession

theorem stepAccounts_reused (hconsumed : token.consumedAt ≠ none)
    (haccessible : ∃ member ∈ s.members,
      s.accessible login.userId call.requestedWorkspaceId member = true) :
    stepAccounts s (.refresh call) = s.writeSession login.id
      (LoginSession.close .compromised call.now "refresh_token_reuse") := by
  obtain ⟨workspaceId, hselected⟩ := selectWorkspace_iff.mpr haccessible
  have hrefresh : refresh s call = .ok (s.writeSession login.id
      (LoginSession.close .compromised call.now "refresh_token_reuse"),
        .error refreshTokenReused) := by
    rw [refresh_of_session hpresented hsession, bind_of_ok hselected]
    exact if_pos hconsumed
  simp only [stepAccounts, perform, hrefresh]

theorem stepAccounts_unselected
    (hnone : ¬ ∃ member ∈ s.members, s.accessible login.userId call.requestedWorkspaceId member = true) :
    stepAccounts s (.refresh call) = s := by
  cases hselected : selectWorkspace s login.userId call.requestedWorkspaceId with
  | ok workspaceId => exact absurd (selectWorkspace_iff.mp ⟨workspaceId, hselected⟩) hnone
  | error e =>
    have hrefresh : refresh s call = .error e := by
      rw [refresh_of_session hpresented hsession, hselected]
      rfl
    simp only [stepAccounts, perform, hrefresh]

end

end Reuse

section Runs

variable [IdentityTexts] [PasswordHashes] {s : AccountDesk}

theorem TokenBooks.ended (h : TokenBooks s) (call : AccountCall) {login : LoginSession}
    (hlogin : login ∈ s.sessions) (hended : login.status ≠ .active) : ¬ Names (answerOf s call) login.id ∧
      ∀ row ∈ (stepAccounts s call).sessions, row.id = login.id → row.status ≠ .active := by
  have heffect : Effect s call (stepAccounts s call) (answerOf s call) := effect_step s call
  refine ⟨fun hnames => hended (heffect.active_of_names h.sessions hlogin hnames), ?_⟩
  intro row hrow hid hactive
  rcases heffect.mem_sessions hrow with ⟨old, hold, hcontinues⟩ | ⟨opened, hopened, hnew⟩
  · have hsame : old = login := h.sessions.eq_of_key_eq hold hlogin (hcontinues.id.symm.trans hid)
    exact hended (hsame ▸ hcontinues.closed hactive)
  · exact hopened.fresh hnew login hlogin hid.symm

theorem rotatesSafely_iff (h : TokenBooks s) (call : AccountCall) :
    RotatesSafely s call ↔ ReuseSelects s call := by
  have hafter : TokenBooks (stepAccounts s call) := h.step (effect_step s call)
  constructor
  · intro hsafe
    unfold ReuseSelects
    split
    · rename_i call
      intro token login hpresented hconsumed hsession hactive
      by_contra hnone
      obtain ⟨hlogin, hid⟩ := sessionOf_some hsession
      refine hsafe.reuse call token rfl hpresented hconsumed login ?_ hid hactive
      rw [stepAccounts_unselected hpresented hsession hnone]
      exact hlogin
    · trivial
  · intro hselects
    refine ⟨hafter.rotated, ?_, fun login hlogin hended => h.ended call hlogin hended⟩
    rintro call token rfl hpresented hconsumed row hrow hid
    obtain ⟨login, hlogin, howned⟩ := h.owned token (tokenOf_some hpresented)
    have hsession : s.sessionOf token.sessionId = some login := by
      rw [← howned]
      exact h.sessions.find?_eq hlogin
    by_cases hactive : login.status = .active
    · rw [stepAccounts_reused hpresented hsession hconsumed
        (hselects token login hpresented hconsumed hsession hactive)] at hrow
      have hclosed : row = login.close .compromised call.now "refresh_token_reuse" := by
        rcases h.sessions.mem_updateRow hlogin hrow with hclosed | ⟨-, hother⟩
        · exact hclosed
        · exact absurd (hid.trans howned.symm) hother
      rw [hclosed]
      simp [LoginSession.close]
    · exact (h.ended (.refresh call) hlogin hactive).2 row hrow (hid.trans howned.symm)

theorem TokenBooks.ended_run (h : TokenBooks s) {login : LoginSession} (hlogin : login ∈ s.sessions)
    (hended : login.status ≠ .active) (calls : List AccountCall) :
    ∀ row ∈ (run stepAccounts s calls).sessions, row.id = login.id → row.status ≠ .active := by
  induction calls generalizing s login with
  | nil =>
    intro row hrow hid
    rw [h.sessions.eq_of_key_eq hrow hlogin hid]
    exact hended
  | cons call calls ih =>
    have heffect := effect_step s call
    obtain ⟨later, hlater, hcontinues⟩ := heffect.keeps_session hlogin
    have hstill := (h.ended call hlogin hended).2 later hlater hcontinues.id
    intro row hrow hid
    exact ih (h.step heffect) hlater hstill row hrow (hid.trans hcontinues.id.symm)

/-- Even where a token that is presented twice goes unnoticed, the tokens of a session are one chain
of replacements, and no session comes back to life. -/
theorem sessions_end_once (hs : Unopened s) (before after : List AccountCall) :
    Rotated (run stepAccounts s (before ++ after)) ∧
      ∀ login ∈ (run stepAccounts s before).sessions, login.status ≠ .active →
        ∀ row ∈ (run stepAccounts s (before ++ after)).sessions, row.id = login.id →
          row.status ≠ .active := by
  have hbooks := invariant_run stepAccounts (I := TokenBooks) (fun _ call h => h.step (effect_step _ call))
    (tokenBooks_of_unopened hs)
  refine ⟨(hbooks _).rotated, fun login hlogin hended => ?_⟩
  rw [run_append]
  exact (hbooks before).ended_run hlogin hended after

end Runs

section Samples

attribute [local instance] sampleAccountTexts samplePasswordHashes

theorem reuseSelects_of_test {s : AccountDesk} {call : RefreshCall}
    (h : ((s.tokenOf call.rawRefreshToken).all fun token =>
      token.consumedAt.isNone || (s.sessionOf token.sessionId).all fun login =>
      s.members.any (s.accessible login.userId call.requestedWorkspaceId)) = true) :
    ReuseSelects s (.refresh call) := by
  intro token login hpresented hconsumed hsession _
  rw [hpresented, Option.all_some, hsession, Option.all_some, Bool.or_eq_true] at h
  rcases h with hnone | hany
  · exact absurd (Option.isNone_iff_eq_none.mp hnone) hconsumed
  · simpa using hany

/-- A token is stolen and presented twice. -/
def stolenToken : List AccountCall :=
  [sampleLogin, sampleRefresh 1 "r0" none 21 "r1", sampleRefresh 2 "r0" none 22 "r2"]

/-- The session of a stolen token has ended, and its newest token does not revive it. -/
theorem sessions_end_once_sample :
    let s := run stepAccounts sampleAccounts (stolenToken ++ [sampleRefresh 3 "r1" none 23 "r3"])
    Rotated s ∧ ∀ row ∈ s.sessions, row.id = 10 → row.status ≠ .active := by
  obtain ⟨login, hlogin, hid, hended⟩ : ∃ login ∈ (run stepAccounts sampleAccounts stolenToken).sessions,
      login.id = 10 ∧ login.status ≠ .active := by
    decide +kernel
  obtain ⟨hrotated, hends⟩ :=
    sessions_end_once unopened_sampleAccounts stolenToken [sampleRefresh 3 "r1" none 23 "r3"]
  exact ⟨hrotated, fun row hrow hrowId => hends login hlogin hended row hrow (hrowId.trans hid.symm)⟩

end Samples

end BlogOps.Accounts
