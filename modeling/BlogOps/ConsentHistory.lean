import BlogOps.KeyedTables
import BlogOps.LinkedHistories
import BlogOps.SecurityRules
import BlogOps.TransitionRuns
import Mathlib.Data.List.Chain

/-!
# Consent evidence

`append_consent` under its advisory lock: a transaction takes the lock of its
workspace, subject and purpose, reads the committed evidence and holds its row
back until it commits, while transactions on other keys come and go.
-/

namespace BlogOps.Security

open KeyedTables LinkedHistories TransitionRuns List

inductive ConsentPurpose where
  | terms
  | marketing
  | aiProcessing
  | modelTraining
  | crossBorderTransfer
  | dpa
  | ageAttestation
deriving DecidableEq, Repr

inductive ConsentDecision where
  | granted
  | withdrawn
deriving DecidableEq, Repr

structure PrivacyConsentEvidence where
  id : Uuid
  workspaceId : Uuid
  subjectId : Uuid
  purpose : ConsentPurpose
  decision : ConsentDecision
  policyVersion : String
  policyHash : String
  /-- The canonical JSON of the snapshot. -/
  scopeSnapshot : String
  transferCountries : List String
  evidenceHash : String
  idempotencyKey : String
  supersedesId : Option Uuid
  occurredAt : Int
deriving DecidableEq, Repr

structure PrivacyConsentCreate where
  subjectId : Uuid
  purpose : ConsentPurpose
  decision : ConsentDecision
  policyVersion : String
  policyHash : String
  scopeSnapshot : String
  transferCountries : List String := []
  evidenceHash : String
  supersedesId : Option Uuid := none
  occurredAt : Int
deriving DecidableEq, Repr

/-- What the advisory lock is taken on. -/
structure ConsentKey where
  workspaceId : Uuid
  subjectId : Uuid
  purpose : ConsentPurpose
deriving DecidableEq, Repr

def PrivacyConsentEvidence.key (row : PrivacyConsentEvidence) : ConsentKey :=
  ⟨row.workspaceId, row.subjectId, row.purpose⟩

def consentKey (principal : PrivacyPrincipal) (data : PrivacyConsentCreate) : ConsentKey :=
  ⟨principal.workspaceId, data.subjectId, data.purpose⟩

variable (key : ConsentKey)

def recordedConsent (policyVersion idempotencyKey : String) (rows : List PrivacyConsentEvidence) :
    Option PrivacyConsentEvidence :=
  rows.find? fun row =>
    row.key = key ∧ row.policyVersion = policyVersion ∧ row.idempotencyKey = idempotencyKey

def supersedesMismatch : Failure := unprocessable "PRIVACY_CONSENT_SUPERSEDES_MISMATCH"
  "철회·갱신 대상 동의가 주체와 목적에 일치하지 않습니다."

/-- The evidence that the request replaces, which must be current and earlier. -/
def supersededConsent (supersedesId : Uuid) (occurredAt : Int) (rows : List PrivacyConsentEvidence) :
    Except Failure PrivacyConsentEvidence :=
  match rows.find? fun row => row.workspaceId = key.workspaceId ∧ row.id = supersedesId with
  | none => .error supersedesMismatch
  | some superseded => do
    require (superseded.subjectId = key.subjectId ∧ superseded.purpose = key.purpose) supersedesMismatch
    require (rows.all fun row =>
        ¬ (row.workspaceId = key.workspaceId ∧ row.supersedesId = some superseded.id))
      (securityConflict "PRIVACY_CONSENT_ALREADY_SUPERSEDED" "이미 후속 동의 증거가 기록된 항목입니다.")
    require (superseded.occurredAt < occurredAt) (unprocessable "PRIVACY_CONSENT_TIME_INVALID"
      "후속 동의 증거 시각은 이전 증거보다 늦어야 합니다.")
    .ok superseded

def findSuperseded (data : PrivacyConsentCreate) (rows : List PrivacyConsentEvidence) :
    Except Failure (Option PrivacyConsentEvidence) :=
  match data.supersedesId with
  | some supersedesId =>
    (supersededConsent key supersedesId data.occurredAt rows).map some
  | none => do
    require (rows.all (·.key ≠ key)) (unprocessable "PRIVACY_CONSENT_SUPERSEDES_REQUIRED"
      "기존 동의가 있으면 현재 증거를 명시적으로 대체해야 합니다.")
    .ok none

def checkWithdrawal (decision : ConsentDecision) (superseded : Option PrivacyConsentEvidence) :
    Except Failure Unit := do
  require (decision = .withdrawn → superseded.isSome) (unprocessable
    "PRIVACY_CONSENT_WITHDRAWAL_TARGET_REQUIRED" "동의 철회에는 이전 동의 증거가 필요합니다.")
  require (decision = .withdrawn → superseded.all (·.decision = .granted)) (unprocessable
    "PRIVACY_CONSENT_WITHDRAWAL_INVALID" "활성 동의 증거만 철회할 수 있습니다.")

def newConsent (id : Uuid) (principal : PrivacyPrincipal) (data : PrivacyConsentCreate)
    (idempotencyKey : String) : PrivacyConsentEvidence where
  id := id
  workspaceId := principal.workspaceId
  subjectId := data.subjectId
  purpose := data.purpose
  decision := data.decision
  policyVersion := data.policyVersion
  policyHash := data.policyHash
  scopeSnapshot := data.scopeSnapshot
  transferCountries := data.transferCountries.dedup.mergeSort (· ≤ ·)
  evidenceHash := data.evidenceHash
  idempotencyKey := idempotencyKey
  supersedesId := data.supersedesId
  occurredAt := data.occurredAt

/-- What the call hands back: the evidence of an earlier call, or a row of its own. -/
inductive ConsentAnswer where
  | existing (row : PrivacyConsentEvidence)
  | recorded (row : PrivacyConsentEvidence)

/-- `append_consent` on the committed rows; `id` is the identity drawn for a new row. -/
def appendConsent (id : Uuid) (principal : PrivacyPrincipal) (data : PrivacyConsentCreate)
    (idempotencyKey : String) (rows : List PrivacyConsentEvidence) : Except Failure ConsentAnswer := do
  require (data.subjectId = principal.subjectId ∨ principal.managesPrivacy) (.app {
    code := "PRIVACY_CONSENT_ACCESS_DENIED"
    message := "동의를 기록할 권한이 없습니다."
    statusCode := 403 })
  match recordedConsent (consentKey principal data) data.policyVersion idempotencyKey rows with
  | some existing => do
    require (existing.evidenceHash = data.evidenceHash) (securityConflict "IDEMPOTENCY_KEY_REUSED"
      "같은 Idempotency-Key가 다른 동의 증거에 사용되었습니다.")
    .ok (.existing existing)
  | none => do
    let superseded ← findSuperseded (consentKey principal data) data rows
    checkWithdrawal data.decision superseded
    .ok (.recorded (newConsent id principal data idempotencyKey))

/-- A transaction that has the lock of its key; `row` waits for the commit. -/
structure OpenConsent where
  key : ConsentKey
  row : Option PrivacyConsentEvidence
deriving DecidableEq, Repr

structure ConsentDesk where
  rows : List PrivacyConsentEvidence := []
  transactions : List OpenConsent := []
deriving DecidableEq, Repr

inductive ConsentAction where
  | append (id : Uuid) (principal : PrivacyPrincipal) (data : PrivacyConsentCreate)
      (idempotencyKey : String)
  | commit (key : ConsentKey)
  | rollback (key : ConsentKey)

def ConsentDesk.locked (desk : ConsentDesk) (key : ConsentKey) : Prop :=
  ∃ transaction ∈ desk.transactions, transaction.key = key

instance (desk : ConsentDesk) (key : ConsentKey) : Decidable (desk.locked key) :=
  inferInstanceAs (Decidable (∃ transaction ∈ desk.transactions, transaction.key = key))

def openRow : ConsentAnswer → Option PrivacyConsentEvidence
  | .existing _ => none
  | .recorded row => some row

def closeTransaction (desk : ConsentDesk) : ConsentDesk :=
  { desk with transactions := desk.transactions.filter (·.key ≠ key) }

/-- The primary key lets no second row of an identity in. -/
def insertConsent (row : PrivacyConsentEvidence) (rows : List PrivacyConsentEvidence) :
    List PrivacyConsentEvidence :=
  if row.id ∈ rows.map (·.id) then rows else rows ++ [row]

def consentStep (desk : ConsentDesk) : ConsentAction → ConsentDesk
  | .append id principal data idempotencyKey =>
    -- a call that finds the lock taken waits and is made again later
    if desk.locked (consentKey principal data) then desk
    else match appendConsent id principal data idempotencyKey desk.rows with
      | .ok answer => { desk with
          transactions := desk.transactions ++ [⟨consentKey principal data, openRow answer⟩] }
      | .error _ => desk
  | .commit key =>
    match (desk.transactions.find? (·.key = key)).bind (·.row) with
    | some row => closeTransaction key { desk with rows := insertConsent row desk.rows }
    | none => closeTransaction key desk
  | .rollback key => closeTransaction key desk

def historyOf (rows : List PrivacyConsentEvidence) : List PrivacyConsentEvidence :=
  rows.filter (·.key = key)

/-- What one piece of evidence must be to follow another. -/
structure Succeeds (before after : PrivacyConsentEvidence) : Prop where
  later : before.occurredAt < after.occurredAt
  withdrawn : after.decision = .withdrawn → before.decision = .granted

structure LinearHistory (history : List PrivacyConsentEvidence) : Prop where
  linked : Linked (·.id) (·.supersedesId) history
  succeeds : history.IsChain Succeeds
  root : ∀ first ∈ history.head?, first.decision ≠ .withdrawn

/-- The row may be put at the end of the history. -/
structure Continues (history : List PrivacyConsentEvidence) (row : PrivacyConsentEvidence) :
    Prop where
  link : row.supersedesId = tip (·.id) none history
  succeeds : ∀ last ∈ history.getLast?, Succeeds last row
  root : history = [] → row.decision ≠ .withdrawn

theorem linearHistory_nil : LinearHistory [] := ⟨trivial, .nil, fun _ hfirst => nomatch hfirst⟩

variable {row : PrivacyConsentEvidence} {rows : List PrivacyConsentEvidence} {desk : ConsentDesk}

theorem LinearHistory.append_row {history : List PrivacyConsentEvidence} (h : LinearHistory history)
    (hrow : Continues history row) : LinearHistory (history ++ [row]) := by
  refine ⟨linkedFrom_concat.mpr ⟨h.linked, hrow.link⟩, ?_, ?_⟩
  · refine h.succeeds.append (.singleton row) ?_
    intro last hlast next hnext
    obtain rfl : row = next := by simpa using hnext
    exact hrow.succeeds last hlast
  · cases history with
    | nil => simpa using hrow.root rfl
    | cons first history => simpa using h.root

theorem historyOf_append (rows : List PrivacyConsentEvidence) (row : PrivacyConsentEvidence) :
    historyOf key (rows ++ [row]) =
      if row.key = key then historyOf key rows ++ [row] else historyOf key rows := by
  unfold historyOf
  by_cases hkey : row.key = key <;> simp [hkey]

theorem mem_historyOf {key : ConsentKey} : row ∈ historyOf key rows ↔ row ∈ rows ∧ row.key = key := by
  simp [historyOf]

/-- The evidence that a request may replace is the last of its history. -/
theorem supersededConsent_ok {key : ConsentKey} {supersedesId : Uuid} {occurredAt : Int}
    {superseded : PrivacyConsentEvidence} (hlinear : LinearHistory (historyOf key rows))
    (h : supersededConsent key supersedesId occurredAt rows = .ok superseded) :
    (∃ earlier, historyOf key rows = earlier ++ [superseded]) ∧
      superseded.id = supersedesId ∧ superseded.occurredAt < occurredAt := by
  unfold supersededConsent at h
  split at h
  · cases h
  · rename_i found hfound
    obtain ⟨_, hmatches, h⟩ := bind_ok h
    obtain ⟨_, hcurrent, h⟩ := bind_ok h
    obtain ⟨_, hlater, h⟩ := bind_ok h
    cases h
    obtain ⟨hsubject, hpurpose⟩ := require_ok hmatches
    have hworkspace := find?_some hfound
    simp only [decide_eq_true_eq] at hworkspace
    have hmem : superseded ∈ historyOf key rows := by
      refine mem_historyOf.mpr ⟨mem_of_find?_eq_some hfound, ?_⟩
      obtain ⟨workspace, subject, purpose⟩ := key
      simp only [PrivacyConsentEvidence.key, hworkspace.1, hsubject, hpurpose]
    refine ⟨?_, hworkspace.2, require_ok hlater⟩
    rcases last_or_succeeded hlinear.linked hmem with hlast | ⟨next, hnext, hsupersedes⟩
    · exact hlast
    · have hnone := all_eq_true.mp (require_ok hcurrent) next (mem_historyOf.mp hnext).1
      have hkey : next.workspaceId = key.workspaceId :=
        congrArg ConsentKey.workspaceId (mem_historyOf.mp hnext).2
      simp [hkey, hsupersedes] at hnone

/-- A row that the call records continues the history of its key. -/
theorem appendConsent_continues {id : Uuid} {principal : PrivacyPrincipal} {data : PrivacyConsentCreate}
    {idempotencyKey : String} (hlinear : LinearHistory (historyOf (consentKey principal data) rows))
    (h : appendConsent id principal data idempotencyKey rows = .ok (.recorded row)) :
    row.key = consentKey principal data ∧
      Continues (historyOf (consentKey principal data) rows) row := by
  obtain ⟨_, _, h⟩ := bind_ok h
  split at h
  · obtain ⟨_, _, h⟩ := bind_ok h
    cases h
  · obtain ⟨superseded, hsuperseded, h⟩ := bind_ok h
    obtain ⟨_, hwithdrawal, h⟩ := bind_ok h
    cases h
    obtain ⟨_, hpresent, hgranted⟩ := bind_ok hwithdrawal
    have hpresent := require_ok hpresent
    have hgranted := require_ok hgranted
    refine ⟨rfl, ?_⟩
    unfold findSuperseded at hsuperseded
    split at hsuperseded
    · -- the request names evidence: it is the last of the history
      rename_i supersedesId hid
      obtain ⟨last, hlast, rfl⟩ := map_ok hsuperseded
      obtain ⟨⟨earlier, hhistory⟩, hname, hlater⟩ := supersededConsent_ok hlinear hlast
      rw [hhistory]
      refine ⟨?_, ?_, fun hnil => by simp at hnil⟩
      · rw [tip_concat, hname]
        exact hid
      · intro other hother
        obtain rfl : last = other := by simpa using hother
        exact ⟨hlater, fun hdecision => by simpa using hgranted hdecision⟩
    · -- the request names none: the history is empty
      rename_i hid
      obtain ⟨_, hnone, hsuperseded⟩ := bind_ok hsuperseded
      cases hsuperseded
      have hempty : historyOf (consentKey principal data) rows = [] := by
        refine filter_eq_nil_iff.mpr fun row hrow => ?_
        simpa using all_eq_true.mp (require_ok hnone) row hrow
      rw [hempty]
      refine ⟨hid, fun _ hlast => (nomatch hlast), fun _ hdecision => ?_⟩
      exact Bool.noConfusion (hpresent hdecision)

structure DeskInvariant (desk : ConsentDesk) : Prop where
  keyed : Keyed (·.id) desk.rows
  linear : ∀ key, LinearHistory (historyOf key desk.rows)
  locks : Keyed (·.key) desk.transactions
  waiting : ∀ transaction ∈ desk.transactions, ∀ row, transaction.row = some row →
    row.key = transaction.key ∧ Continues (historyOf transaction.key desk.rows) row

theorem deskInvariant_empty : DeskInvariant {} where
  keyed := nodup_nil
  linear := fun _ => linearHistory_nil
  locks := nodup_nil
  waiting := fun _ htransaction => nomatch htransaction

theorem DeskInvariant.append (h : DeskInvariant desk) {id : Uuid} {principal : PrivacyPrincipal}
    {data : PrivacyConsentCreate} {idempotencyKey : String}
    (hfree : ¬ desk.locked (consentKey principal data)) {answer : ConsentAnswer}
    (hanswer : appendConsent id principal data idempotencyKey desk.rows = .ok answer) :
    DeskInvariant { desk with
      transactions := desk.transactions ++ [⟨consentKey principal data, openRow answer⟩] } where
  keyed := h.keyed
  linear := h.linear
  locks := h.locks.append_row fun other hother hkey => hfree ⟨other, hother, hkey⟩
  waiting := by
    intro transaction htransaction row hrow
    rcases mem_append.mp htransaction with hold | hnew
    · exact h.waiting transaction hold row hrow
    · obtain rfl := mem_singleton.mp hnew
      cases answer with
      | existing _ => cases hrow
      | recorded new =>
        cases hrow
        exact appendConsent_continues (h.linear _) hanswer

theorem DeskInvariant.close (h : DeskInvariant desk) (key : ConsentKey) :
    DeskInvariant (closeTransaction key desk) where
  keyed := h.keyed
  linear := h.linear
  locks := h.locks.sublist filter_sublist
  waiting := fun transaction htransaction =>
    h.waiting transaction (mem_filter.mp htransaction).1

/-- Committing the row of a key disturbs no transaction on another key. -/
theorem DeskInvariant.commit (h : DeskInvariant desk) {transaction : OpenConsent}
    (htransaction : transaction ∈ desk.transactions) (hrow : transaction.row = some row) :
    DeskInvariant (closeTransaction transaction.key
      { desk with rows := insertConsent row desk.rows }) := by
  obtain ⟨hkey, hcontinues⟩ := h.waiting transaction htransaction row hrow
  unfold insertConsent
  split_ifs with htaken
  · exact h.close transaction.key
  · refine ⟨?_, ?_, h.locks.sublist filter_sublist, ?_⟩
    · refine h.keyed.append_row fun other hother hid => htaken ?_
      exact mem_map.mpr ⟨other, hother, hid⟩
    · intro key
      rw [show historyOf key (closeTransaction transaction.key
        { desk with rows := desk.rows ++ [row] }).rows = historyOf key (desk.rows ++ [row]) from rfl,
        historyOf_append]
      split_ifs with hsame
      · exact (h.linear key).append_row (by rwa [← hsame, hkey])
      · exact h.linear key
    · intro other hother otherRow hotherRow
      obtain ⟨hmem, hother⟩ := mem_filter.mp hother
      obtain ⟨hotherKey, hotherContinues⟩ := h.waiting other hmem otherRow hotherRow
      refine ⟨hotherKey, ?_⟩
      have hne : row.key ≠ other.key := by
        intro hsame
        simp [← hsame, hkey] at hother
      rw [show historyOf other.key (closeTransaction transaction.key
        { desk with rows := desk.rows ++ [row] }).rows =
          historyOf other.key (desk.rows ++ [row]) from rfl, historyOf_append, if_neg hne]
      exact hotherContinues

theorem deskInvariant_step (action : ConsentAction) (h : DeskInvariant desk) :
    DeskInvariant (consentStep desk action) := by
  cases action with
  | append id principal data idempotencyKey =>
    unfold consentStep
    simp only
    split_ifs with hlocked
    · exact h
    · split
      · rename_i answer hanswer
        exact h.append hlocked hanswer
      · exact h
  | commit key =>
    unfold consentStep
    simp only
    split
    · rename_i row hfound
      obtain ⟨transaction, htransaction, hrow⟩ := Option.bind_eq_some_iff.mp hfound
      have hkey : transaction.key = key := by simpa using find?_some htransaction
      rw [← hkey]
      exact h.commit (mem_of_find?_eq_some htransaction) hrow
    · exact h.close key
  | rollback key => exact h.close key

theorem deskInvariant_run (actions : List ConsentAction) : DeskInvariant (run consentStep {} actions) :=
  invariant_run (I := DeskInvariant) consentStep (fun _ action => deskInvariant_step action)
    deskInvariant_empty actions

/-- Evidence supersedes evidence of its own history. -/
theorem DeskInvariant.superseded_mem (h : DeskInvariant desk) {other : PrivacyConsentEvidence}
    (hrow : row ∈ desk.rows) (hother : other ∈ desk.rows)
    (hsupersedes : other.supersedesId = some row.id) : other ∈ historyOf row.key desk.rows := by
  have hmem : other ∈ historyOf other.key desk.rows := mem_historyOf.mpr ⟨hother, rfl⟩
  rcases previous_of_mem (h.linear other.key).linked hmem with hnone | ⟨before, hbefore, hname⟩
  · rw [hsupersedes] at hnone
    cases hnone
  · obtain ⟨hstored, hkey⟩ := mem_historyOf.mp hbefore
    have hid : before.id = row.id := Option.some.inj (hname.symm.trans hsupersedes)
    rw [← h.keyed.eq_of_key_eq hstored hrow hid, hkey]
    exact hmem

theorem DeskInvariant.history_keyed (h : DeskInvariant desk) (key : ConsentKey) :
    ((historyOf key desk.rows).map (·.id)).Nodup :=
  h.keyed.sublist filter_sublist

/-- The evidence that nothing supersedes. -/
def Current (rows : List PrivacyConsentEvidence) (row : PrivacyConsentEvidence) : Prop :=
  ∀ other ∈ rows, other.supersedesId ≠ some row.id

/-- After any transactions the evidence of a workspace, subject and purpose is one chain, with
at most one successor of each row and one current row. -/
theorem consent_linear (actions : List ConsentAction) (key : ConsentKey) :
    let rows := (run consentStep {} actions).rows
    LinearHistory (historyOf key rows) ∧ (∀ row ∈ historyOf key rows, ∀ a ∈ rows, ∀ b ∈ rows,
        a.supersedesId = some row.id → b.supersedesId = some row.id → a = b) ∧
      (historyOf key rows ≠ [] → ∃! row, row ∈ historyOf key rows ∧ Current rows row) := by
  intro rows
  have h := deskInvariant_run actions
  have hlinked : Linked (·.id) (·.supersedesId) (historyOf key rows) := (h.linear key).linked
  have hkeyed := h.history_keyed key
  refine ⟨h.linear key, ?_, ?_⟩
  · intro row hrow a ha b hb hasup hbsup
    obtain ⟨hstored, hrowkey⟩ := mem_historyOf.mp hrow
    have hamem := h.superseded_mem hstored ha hasup
    have hbmem := h.superseded_mem hstored hb hbsup
    rw [hrowkey] at hamem hbmem
    exact hlinked.eq_of_same_previous hkeyed hamem hbmem (hasup.trans hbsup.symm)
  · intro hsome
    obtain ⟨earlier, last, hhistory⟩ := (eq_nil_or_concat (historyOf key rows)).resolve_left hsome
    rw [concat_eq_append] at hhistory
    have hlast : last ∈ historyOf key rows := by simp [hhistory]
    obtain ⟨hstored, hlastkey⟩ := mem_historyOf.mp hlast
    refine ⟨last, ⟨hlast, ?_⟩, ?_⟩
    · intro other hother hsupersedes
      have hmem := h.superseded_mem hstored hother hsupersedes
      rw [hlastkey] at hmem
      rw [hhistory] at hlinked hkeyed
      exact hlinked.last_not_succeeded hkeyed (hhistory ▸ hmem) hsupersedes
    · rintro row ⟨hrow, hcurrent⟩
      rcases last_or_succeeded hlinked hrow with ⟨start, hstart⟩ | ⟨next, hnext, hsupersedes⟩
      · rw [hhistory] at hstart
        exact (append_inj' hstart rfl).2 |> fun hsame => (singleton_inj.mp hsame).symm
      · exact absurd hsupersedes (hcurrent next (mem_historyOf.mp hnext).1)

def sampleConsent (decision : ConsentDecision) (supersedesId : Option Uuid) (occurredAt : Int) :
    PrivacyConsentCreate where
  subjectId := 7
  purpose := .marketing
  decision := decision
  policyVersion := "1"
  policyHash := "policy"
  scopeSnapshot := "\x7b\x7d"
  evidenceHash := "evidence"
  supersedesId := supersedesId
  occurredAt := occurredAt

/-- A second transaction on the key waits for the first, and the withdrawal follows it. -/
example : ((run consentStep {} [ .append 1 ⟨3, 7, false⟩ (sampleConsent .granted none 10) "a",
    .append 2 ⟨3, 9, true⟩ (sampleConsent .granted none 10) "b",
    .commit ⟨3, 7, .marketing⟩,
    .append 2 ⟨3, 9, true⟩ (sampleConsent .granted none 10) "b",
    .append 4 ⟨3, 7, false⟩ (sampleConsent .withdrawn (some 1) 11) "c",
    .commit ⟨3, 7, .marketing⟩]).rows.map fun row => (row.id, row.decision)) =
      [(1, .granted), (4, .withdrawn)] := by
  decide +kernel

end BlogOps.Security
