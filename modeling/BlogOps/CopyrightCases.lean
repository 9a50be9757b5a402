import BlogOps.EffectRules
import BlogOps.TextRedaction
import BlogOps.TransitionRuns

/-!
# Copyright cases

`process_copyright_case`, `submit_counter_notice` and `decide_copyright_case`
with the adapter that enforces their actions.  What the adapter did stays done
when the transaction around the call is rolled back.
-/

namespace BlogOps.Security

open EffectRules TransitionRuns

inductive CopyrightCaseState where
  | received | validating | temporaryAction | waitingCounterNotice | legalReview | restored
  | removed | rejected | failed | closed
deriving DecidableEq, Repr

inductive CopyrightEventKind where
  | noticeReceived | validated | temporaryActionApplied | counterNoticeReceived | legalReviewed
  | contentRestored | contentRemoved | rejected | closed | failed
deriving DecidableEq, Repr

def copyrightTransitions : CopyrightCaseState → List CopyrightCaseState
  | .received => [.validating, .rejected]
  | .validating => [.temporaryAction, .legalReview, .rejected, .failed]
  | .temporaryAction => [.waitingCounterNotice, .legalReview, .removed, .failed]
  | .waitingCounterNotice => [.legalReview, .removed]
  | .legalReview => [.restored, .removed, .rejected]
  | .restored | .removed | .rejected => [.closed]
  | .failed => [.validating]
  | .closed => []

def copyrightTransitionInvalid : Failure := securityConflict "COPYRIGHT_CASE_TRANSITION_INVALID"
  "저작권 신고 상태를 해당 상태로 변경할 수 없습니다."

def ensureCopyrightTransition (current target : CopyrightCaseState) : Except Failure Unit :=
  require (target ∈ copyrightTransitions current) copyrightTransitionInvalid

structure CopyrightCase where
  id : Uuid
  workspaceId : Uuid
  /-- The canonical JSON of each target. -/
  targetRefs : List String
  evidenceObjectRefs : List String
  createdAt : Int
  state : CopyrightCaseState := .received
  responseDueAt : Option Int := none
  temporaryAction : Option String := none
  policyVersion : Option String := none
  counterNoticeReceivedAt : Option Int := none
  resolvedAt : Option Int := none
  failureCode : Option String := none
deriving DecidableEq, Repr

structure CopyrightCaseEvent where
  sequence : Nat
  kind : CopyrightEventKind
  actorId : Option Uuid
  reason : String
  metadataSafe : List (String × String)
  evidenceObjectRef : Option String
  evidenceHash : String
deriving DecidableEq, Repr

structure CopyrightCounterNotice where
  submittedBy : Uuid
  respondentContactRef : String
  respondentContactHash : String
  statementObjectRef : String
  statementHash : String
  verificationReference : String
  verificationAssurance : String
  verificationEvidenceHash : String
  verifiedAt : Option Int
deriving DecidableEq, Repr

/-! ## The answers of the adapter; a naive datetime is `none` -/

structure CopyrightTriageResult where
  accepted : Bool
  decisionCode : String
  temporaryAction : Option String
  policyVersion : String
  evidenceHash : String
  responseDueAt : Option Int
deriving DecidableEq, Repr

structure CopyrightActionResult where
  action : String
  providerReference : String
  evidenceObjectRef : String
  evidenceHash : String
  completedAt : Option Int
deriving DecidableEq, Repr

structure CounterNoticeVerificationResult where
  passed : Bool
  providerReference : String
  assuranceLevel : String
  evidenceHash : String
  verifiedAt : Option Int
deriving DecidableEq, Repr

/-- A call of `apply_action` that returned. -/
structure AppliedAction where
  action : String
  targetRefs : List String
deriving DecidableEq, Repr

/-- A case with its events, as a session holds them; `applied` are the calls of `apply_action`
that returned since the notice came in, which no rollback takes back. -/
structure CaseSession where
  value : CopyrightCase
  events : List CopyrightCaseEvent := []
  counterNotices : List CopyrightCounterNotice := []
  applied : List AppliedAction := []
  /-- A flush failed, and the session refuses every further query. -/
  broken : Bool := false
deriving DecidableEq, Repr

abbrev CaseM := EStateM Failure CaseSession

structure CaseProcessing where
  workspaceId : Uuid
  triage : Except Failure CopyrightTriageResult
  triagedAt : Int
  action : Except Failure CopyrightActionResult
  actedAt : Int

structure CounterNoticeSubmission where
  workspaceId : Uuid
  subjectId : Uuid
  respondentContactRef : String
  statementObjectRef : String
  statementHash : String
  verification : Except Failure CounterNoticeVerificationResult
  now : Int

inductive CopyrightDecisionAction where
  | restore | remove | reject | close
deriving DecidableEq, Repr

/-- `CopyrightDecision`, which its schema has validated. -/
structure CopyrightDecision where
  action : CopyrightDecisionAction
  reason : String
  evidenceObjectRef : String
  evidenceHash : String
  reason_length : 10 ≤ reason.length ∧ reason.length ≤ 5000
  evidenceObjectRef_length : 1 ≤ evidenceObjectRef.length ∧ evidenceObjectRef.length ≤ 1000
  evidenceHash_hex : isSha256Hex evidenceHash = true

structure CaseDecision where
  workspaceId : Uuid
  subjectId : Uuid
  data : CopyrightDecision
  result : Except Failure CopyrightActionResult
  now : Int

inductive CaseRequest where
  | process (p : CaseProcessing)
  | submitCounterNotice (n : CounterNoticeSubmission)
  | decide (d : CaseDecision)

def validTriage (now : Int) (triage : CopyrightTriageResult) : Bool :=
  triage.responseDueAt.any (now < ·) && triage.decisionCode ≠ "" &&
    triage.decisionCode.length ≤ 120 && triage.policyVersion ≠ "" &&
    triage.policyVersion.length ≤ 80 &&
    triage.temporaryAction.all (fun action => 1 ≤ action.length && action.length ≤ 80) &&
    isSha256Hex triage.evidenceHash

def validAction (createdAt now : Int) (action : String) (result : CopyrightActionResult) : Bool :=
  result.completedAt.any (fun completed => createdAt ≤ completed && completed ≤ now + fiveMinutes) &&
    result.action = action && result.providerReference ≠ "" &&
    result.providerReference.length ≤ 500 && result.evidenceObjectRef ≠ "" &&
    result.evidenceObjectRef.length ≤ 1000 && isSha256Hex result.evidenceHash

def validVerification (createdAt now : Int) (result : CounterNoticeVerificationResult) : Bool :=
  result.passed &&
    result.verifiedAt.any (fun verified => createdAt ≤ verified && verified ≤ now + fiveMinutes) &&
    isSha256Hex result.evidenceHash && result.providerReference ≠ "" &&
    result.providerReference.length ≤ 500 && result.assuranceLevel ≠ "" &&
    result.assuranceLevel.length ≤ 80

def triageInvalid : Failure := contractBroken "COPYRIGHT_TRIAGE_RESULT_INVALID" "저작권 검토 결과 증거가 올바르지 않습니다."

def actionInvalid : Failure := contractBroken "COPYRIGHT_ACTION_RESULT_INVALID" "저작권 조치 결과 증거가 올바르지 않습니다."

def counterNoticeNotAllowed : Failure := securityConflict "COPYRIGHT_COUNTER_NOTICE_NOT_ALLOWED"
  "현재 상태에서는 이의 제기를 제출할 수 없습니다."

def verificationFailed : Failure := unprocessable "COPYRIGHT_COUNTER_NOTICE_VERIFICATION_FAILED"
  "저작권 이의 제기 신원·진술 검증에 실패했습니다."

def caseNotFound : Failure := .app {
  code := "COPYRIGHT_CASE_NOT_FOUND"
  message := "저작권 신고를 찾을 수 없습니다."
  statusCode := 404 }

def eventEvidenceInvalid : Failure := contractBroken "COPYRIGHT_EVENT_EVIDENCE_INVALID"
  "저작권 처리 이력 증거가 올바르지 않습니다."

/-! ## What the database takes -/

def CopyrightCase.storable (value : CopyrightCase) : Bool :=
  value.temporaryAction.all storableText && value.policyVersion.all storableText &&
    value.failureCode.all storableText

def CopyrightCaseEvent.storable (event : CopyrightCaseEvent) : Bool :=
  storableText event.reason && event.metadataSafe.all (fun entry => storableText entry.2) &&
    event.evidenceObjectRef.all storableText

def CopyrightCounterNotice.storable (notice : CopyrightCounterNotice) : Bool :=
  storableText notice.respondentContactRef && storableText notice.statementObjectRef &&
    storableText notice.verificationReference && storableText notice.verificationAssurance

/-- Every text is storable, and a case has at most one counter notice. -/
def CaseSession.storable (s : CaseSession) : Bool :=
  s.value.storable && s.events.all CopyrightCaseEvent.storable &&
    s.counterNotices.all CopyrightCounterNotice.storable && s.counterNotices.length ≤ 1

class CopyrightHashes where
  /-- `canonical_json_hash({"case_id": str(id), key: text})`. -/
  failureHash : Uuid → String → String → String
  contactHash : String → String
  /-- `type(exc).__name__`. -/
  errorClass : Failure → String

/-- A flush that fails leaves the session unusable. -/
def flushCase : CaseM Unit := do
  let s ← get
  if s.broken = false ∧ s.storable = true then pure ()
  else
    modify ({ · with broken := true })
    throw (.integrity "security_copyright_case_events")

def updateCase (change : CopyrightCase → CopyrightCase) : CaseM Unit :=
  modify fun s => { s with value := change s.value }

/-- A checked change of the state. -/
def moveCase (target : CopyrightCaseState) : CaseM Unit := do
  let s ← get
  MonadExcept.ofExcept (ensureCopyrightTransition s.value.state target)
  updateCase ({ · with state := target })

def copyrightCase (workspaceId : Uuid) : CaseM CopyrightCase := do
  let s ← get
  MonadExcept.ofExcept (require (s.value.workspaceId = workspaceId) caseNotFound)
  pure s.value

def nextSequence (events : List CopyrightCaseEvent) : Nat :=
  match events.getLast? with
  | none => 1
  | some previous => previous.sequence + 1

/-- The adapter is called; only a call that returns has an effect on the targets. -/
def applyAction (action : String) (result : Except Failure CopyrightActionResult) :
    CaseM CopyrightActionResult := do
  let answer ← MonadExcept.ofExcept result
  modify fun s => { s with applied := s.applied ++ [⟨action, s.value.targetRefs⟩] }
  pure answer

section Service

variable [UnicodeClasses]

def appendCopyrightEvent (actorId : Option Uuid) (kind : CopyrightEventKind) (reason : String)
    (metadata : List (String × String)) (evidenceObjectRef : Option String)
    (evidenceHash : String) : CaseM Unit := do
  MonadExcept.ofExcept (require (isSha256Hex evidenceHash = true ∧
    ∀ ref ∈ evidenceObjectRef, 1 ≤ ref.length ∧ ref.length ≤ 1000) eventEvidenceInvalid)
  modify fun s => { s with events := s.events ++ [{
    sequence := nextSequence s.events
    kind, actorId, reason
    metadataSafe := metadata.map fun entry => (entry.1, redactSafeText entry.2)
    evidenceObjectRef, evidenceHash }] }
  flushCase

/-- The temporary action is applied before the claim has been reviewed. -/
def takeTemporaryAction (p : CaseProcessing) (action : String) : CaseM Unit := do
  moveCase .temporaryAction
  updateCase ({ · with temporaryAction := some action })
  let result ← applyAction action p.action
  let s ← get
  MonadExcept.ofExcept (require (validAction s.value.createdAt p.actedAt action result = true) actionInvalid)
  appendCopyrightEvent none .temporaryActionApplied result.action
    [("provider_reference", result.providerReference)] (some result.evidenceObjectRef)
    result.evidenceHash
  moveCase .waitingCounterNotice

def acceptNotice (p : CaseProcessing) (triage : CopyrightTriageResult) : CaseM Unit := do
  appendCopyrightEvent none .validated triage.decisionCode
    [("policy_version", triage.policyVersion)] none triage.evidenceHash
  match triage.temporaryAction with
  | none => moveCase .legalReview
  | some action => takeTemporaryAction p action

def rejectNotice (triage : CopyrightTriageResult) : CaseM Unit := do
  moveCase .rejected
  appendCopyrightEvent none .rejected triage.decisionCode
    [("policy_version", triage.policyVersion)] none triage.evidenceHash

/-- The guarded part of `process_copyright_case`. -/
def triageCase (p : CaseProcessing) : CaseM Unit := do
  let triage ← MonadExcept.ofExcept p.triage
  MonadExcept.ofExcept (require (validTriage p.triagedAt triage = true) triageInvalid)
  updateCase ({ · with
    responseDueAt := triage.responseDueAt
    policyVersion := some triage.policyVersion })
  if triage.accepted then acceptNotice p triage else rejectNotice triage

section Requests

variable [CopyrightHashes]

def recordFailure (failure : Failure) : CaseM Unit := do
  moveCase .failed
  let s ← get
  match failure with
  | .app error =>
    let failureCode := String.ofList (error.code.toList.take 120)
    updateCase ({ · with failureCode := some failureCode })
    appendCopyrightEvent none .failed failureCode [] none
      (CopyrightHashes.failureHash s.value.id "code" failureCode)
  | other =>
    updateCase ({ · with failureCode := some "COPYRIGHT_EXECUTION_FAILED" })
    appendCopyrightEvent none .failed "COPYRIGHT_EXECUTION_FAILED"
      [("error_class", CopyrightHashes.errorClass other)] none
      (CopyrightHashes.failureHash s.value.id "error_class" (CopyrightHashes.errorClass other))

def processCopyrightCase (p : CaseProcessing) : CaseM Unit := do
  let value ← copyrightCase p.workspaceId
  if value.state = .received ∨ value.state = .failed then
    moveCase .validating
    tryCatch (triageCase p) recordFailure
  else pure ()

def counterNoticeOf (n : CounterNoticeSubmission) (verification : CounterNoticeVerificationResult) :
    CopyrightCounterNotice where
  submittedBy := n.subjectId
  respondentContactRef := n.respondentContactRef
  respondentContactHash := CopyrightHashes.contactHash n.respondentContactRef
  statementObjectRef := n.statementObjectRef
  statementHash := n.statementHash
  verificationReference := verification.providerReference
  verificationAssurance := verification.assuranceLevel
  verificationEvidenceHash := verification.evidenceHash
  verifiedAt := verification.verifiedAt

def submitCounterNotice (n : CounterNoticeSubmission) : CaseM Unit := do
  let value ← copyrightCase n.workspaceId
  MonadExcept.ofExcept (requireSecretReference n.respondentContactRef "respondent_contact_ref")
  MonadExcept.ofExcept (require (value.state = .waitingCounterNotice) counterNoticeNotAllowed)
  let verification ← MonadExcept.ofExcept n.verification
  MonadExcept.ofExcept (require (validVerification value.createdAt n.now verification = true)
    verificationFailed)
  moveCase .legalReview
  updateCase ({ · with counterNoticeReceivedAt := some n.now })
  modify fun s => { s with counterNotices := s.counterNotices ++ [counterNoticeOf n verification] }
  appendCopyrightEvent (some n.subjectId) .counterNoticeReceived "counter notice received"
    [("statement_hash", n.statementHash), ("verification_assurance", verification.assuranceLevel),
      ("verification_evidence_hash", verification.evidenceHash)]
    (some n.statementObjectRef) n.statementHash

end Requests

def CopyrightDecisionAction.target : CopyrightDecisionAction → CopyrightCaseState
  | .restore => .restored
  | .remove => .removed
  | .reject => .rejected
  | .close => .closed

def CopyrightDecisionAction.eventKind : CopyrightDecisionAction → CopyrightEventKind
  | .restore => .contentRestored
  | .remove => .contentRemoved
  | .reject => .rejected
  | .close => .closed

/-- The name under which the adapter is asked for the action, for those it enforces. -/
def CopyrightDecisionAction.enforced : CopyrightDecisionAction → Option String
  | .restore => some "RESTORE"
  | .remove => some "REMOVE"
  | .reject | .close => none

/-- What a decision leaves on the case: its event names the evidence of the action, where one was
enforced, and that of the decision elsewhere. -/
def concludeCase (d : CaseDecision) (metadata : List (String × String))
    (evidenceObjectRef evidenceHash : String) : CaseM Unit := do
  updateCase ({ · with
    state := d.data.action.target
    resolvedAt := some d.now })
  appendCopyrightEvent (some d.subjectId) d.data.action.eventKind d.data.reason metadata
    (some evidenceObjectRef) evidenceHash

def decideCopyrightCase (d : CaseDecision) : CaseM Unit := do
  let value ← copyrightCase d.workspaceId
  MonadExcept.ofExcept (ensureCopyrightTransition value.state d.data.action.target)
  match d.data.action.enforced with
  | none => concludeCase d [] d.data.evidenceObjectRef d.data.evidenceHash
  | some action =>
    let result ← applyAction action d.result
    MonadExcept.ofExcept (require (validAction value.createdAt d.now action result = true) actionInvalid)
    concludeCase d [("provider_reference", result.providerReference),
      ("decision_evidence_hash", d.data.evidenceHash)] result.evidenceObjectRef result.evidenceHash

variable [CopyrightHashes]

def handleCaseRequest : CaseRequest → CaseM Unit
  | .process p => processCopyrightCase p
  | .submitCounterNotice n => submitCounterNotice n
  | .decide d => decideCopyrightCase d

/-- One request in a transaction of its own, with the flush of its commit: what leaves it is
rolled back. -/
def serveCase (s : CaseSession) (request : CaseRequest) : CaseSession :=
  match (do handleCaseRequest request; flushCase : CaseM Unit) s with
  | .ok _ after => after
  | .error _ after => { s with applied := after.applied }

end Service

/-! ## The parts of a request -/

/-- Neither the case nor what was applied to its targets changes. -/
def SameCase (s t : CaseSession) : Prop := t.value = s.value ∧ t.applied = s.applied

instance : IsPreorder CaseSession SameCase where
  refl _ := ⟨rfl, rfl⟩
  trans _ _ _ hst htu := ⟨htu.1.trans hst.1, htu.2.trans hst.2⟩

variable {s : CaseSession} {triage : CopyrightTriageResult} {p : CaseProcessing}

theorem flushCase_ok (husable : s.broken = false) (hstored : s.storable = true) : flushCase s = .ok () s := by
  unfold flushCase
  rw [bind_run_ok (get_run s), if_pos ⟨husable, hstored⟩]
  rfl

theorem flushCase_error (h : ¬ (s.broken = false ∧ s.storable = true)) :
    flushCase s = .error (.integrity "security_copyright_case_events")
      { s with broken := true } := by
  unfold flushCase
  rw [bind_run_ok (get_run s), if_neg h, bind_run_ok (modify_run _ s)]
  rfl

theorem keeps_flushCase : Keeps SameCase flushCase := by
  unfold flushCase
  refine keeps_bind keeps_get fun s => keeps_ite (keeps_pure ()) ?_
  exact keeps_bind (keeps_modify fun _ => ⟨rfl, rfl⟩) fun _ => keeps_throw _

theorem moveCase_ok {target : CopyrightCaseState} (h : target ∈ copyrightTransitions s.value.state) :
    moveCase target s = .ok () { s with value := { s.value with state := target } } := by
  unfold moveCase
  rw [bind_run_ok (get_run s), ensureCopyrightTransition, require_of h, bind_run_ok (ofExcept_run_ok () s)]
  rfl

theorem moveCase_error {target : CopyrightCaseState} (h : target ∉ copyrightTransitions s.value.state) :
    moveCase target s = .error copyrightTransitionInvalid s := by
  unfold moveCase
  rw [bind_run_ok (get_run s), ensureCopyrightTransition, require, if_neg h]
  exact bind_run_error (ofExcept_run_error _ s) _

/-- A change of the state that returns has reached its target. -/
theorem ends_moveCase (target : CopyrightCaseState) (s : CaseSession) :
    Ends (moveCase target) s fun r t => t.applied = s.applied ∧
      ∀ u, r = .ok u → t.value.state = target := by
  by_cases h : target ∈ copyrightTransitions s.value.state
  · refine ends_intro (fun u t ht => ?_) (fun e t ht => ?_)
    · cases (moveCase_ok h).symm.trans ht
      exact ⟨rfl, fun _ _ => rfl⟩
    · cases (moveCase_ok h).symm.trans ht
  · refine ends_intro (fun u t ht => ?_) (fun e t ht => ?_)
    · cases (moveCase_error h).symm.trans ht
    · cases (moveCase_error h).symm.trans ht
      exact ⟨rfl, fun _ hu => nomatch hu⟩

section Parts

variable [UnicodeClasses]

theorem keeps_appendCopyrightEvent (actorId : Option Uuid) (kind : CopyrightEventKind) (reason : String)
    (metadata : List (String × String)) (evidenceObjectRef : Option String) (evidenceHash : String) :
    Keeps SameCase (appendCopyrightEvent actorId kind reason metadata evidenceObjectRef
      evidenceHash) := by
  unfold appendCopyrightEvent
  refine keeps_bind (keeps_ofExcept _) fun _ => ?_
  exact keeps_bind (keeps_modify fun _ => ⟨rfl, rfl⟩) fun _ => keeps_flushCase

/-- The event that is added to a history. -/
def newEvent (events : List CopyrightCaseEvent) (actorId : Option Uuid) (kind : CopyrightEventKind)
    (reason : String) (metadata : List (String × String)) (evidenceObjectRef : Option String)
    (evidenceHash : String) : CopyrightCaseEvent where
  sequence := nextSequence events
  kind := kind
  actorId := actorId
  reason := reason
  metadataSafe := metadata.map fun entry => (entry.1, redactSafeText entry.2)
  evidenceObjectRef := evidenceObjectRef
  evidenceHash := evidenceHash

theorem appendCopyrightEvent_run {evidenceHash : String} (hhash : isSha256Hex evidenceHash = true)
    {evidenceObjectRef : Option String} (href : ∀ ref ∈ evidenceObjectRef, 1 ≤ ref.length ∧ ref.length ≤ 1000)
    (actorId : Option Uuid) (kind : CopyrightEventKind) (reason : String) (metadata : List (String × String))
    (s : CaseSession) : appendCopyrightEvent actorId kind reason metadata evidenceObjectRef evidenceHash s =
      flushCase { s with events := s.events ++ [newEvent s.events actorId kind reason metadata
        evidenceObjectRef evidenceHash] } := by
  unfold appendCopyrightEvent
  rw [require_of ⟨hhash, href⟩, bind_run_ok (ofExcept_run_ok () s), bind_run_ok (modify_run _ s)]
  rfl

/-- The triage turns the notice down, in texts that the database takes. -/
structure TurnsDown (p : CaseProcessing) (triage : CopyrightTriageResult) : Prop where
  answered : p.triage = .ok triage
  valid : validTriage p.triagedAt triage = true
  refused : triage.accepted = false

def storableTriage (triage : CopyrightTriageResult) : Bool :=
  storableText triage.decisionCode && storableText triage.policyVersion &&
    storableText (redactSafeText triage.policyVersion)

/-- The session in which the triage has turned the notice down. -/
def rejectedSession (triage : CopyrightTriageResult) (s : CaseSession) : CaseSession :=
  { s with
    value := { s.value with
      state := .rejected
      responseDueAt := triage.responseDueAt
      policyVersion := some triage.policyVersion }
    events := s.events ++ [newEvent s.events none .rejected triage.decisionCode
      [("policy_version", triage.policyVersion)] none triage.evidenceHash] }

theorem rejectedSession_storable (hstored : s.storable = true) (triage : CopyrightTriageResult) :
    (rejectedSession triage s).storable = storableTriage triage := by
  simp only [CaseSession.storable, CopyrightCase.storable, Bool.and_eq_true] at hstored
  obtain ⟨⟨⟨⟨⟨haction, _⟩, hfailure⟩, hevents⟩, hnotices⟩, hlength⟩ := hstored
  simp [CaseSession.storable, CopyrightCase.storable, CopyrightCaseEvent.storable, rejectedSession,
    newEvent, storableTriage, List.all_append, haction, hfailure, hevents, hnotices, hlength,
    Bool.and_left_comm, Bool.and_assoc]

omit [UnicodeClasses] in
theorem validTriage_hash {now : Int} (h : validTriage now triage = true) :
    isSha256Hex triage.evidenceHash = true := by
  unfold validTriage at h
  exact (Bool.and_eq_true_iff.mp h).2

theorem triageCase_turnsDown (h : TurnsDown p triage) (hstate : s.value.state = .validating) :
    triageCase p s = flushCase (rejectedSession triage s) := by
  unfold triageCase
  rw [h.answered, bind_run_ok (ofExcept_run_ok triage s), require_of h.valid,
    bind_run_ok (ofExcept_run_ok () s), updateCase, bind_run_ok (modify_run _ s), h.refused,
    if_neg Bool.false_ne_true]
  unfold rejectNotice
  rw [bind_run_ok (moveCase_ok (by simp [hstate, copyrightTransitions]))]
  exact appendCopyrightEvent_run (validTriage_hash h.valid) (fun ref href => by cases href) _ _ _ _ _

/-- The states in which a case waits for a further request about it. -/
def InReview (s : CaseSession) : Prop :=
  s.value.state = .legalReview ∨ s.value.state = .waitingCounterNotice

omit [UnicodeClasses] in
theorem establishes_moveCase (target : CopyrightCaseState) :
    Establishes (fun _ => True) (·.value.state = target) (moveCase target) :=
  fun s _ => (ends_moveCase target s).mono fun _ _ h => h.2

theorem establishes_acceptNotice (p : CaseProcessing) (triage : CopyrightTriageResult) :
    Establishes (fun _ => True) InReview (acceptNotice p triage) := by
  unfold acceptNotice
  refine establishes_last fun _ => ?_
  split
  · exact (establishes_moveCase .legalReview).mono fun _ h => .inl h
  · unfold takeTemporaryAction
    refine establishes_last fun _ => establishes_last fun _ => establishes_last fun _ => ?_
    refine establishes_last fun _ => establishes_last fun _ => establishes_last fun _ => ?_
    exact (establishes_moveCase .waitingCounterNotice).mono fun _ h => .inr h

/-- A guarded part that returns without having turned the notice down leaves it in review. -/
theorem establishes_triageCase (h : ∀ triage, ¬ TurnsDown p triage) :
    Establishes (fun _ => True) InReview (triageCase p) := by
  unfold triageCase
  cases htriage : p.triage with
  | error failure => exact fun s _ => fun u hu => nomatch hu
  | ok triage =>
    intro s _
    rw [ends_bind, ends_ofExcept, continues_ok, ends_bind, ends_ofExcept]
    by_cases hvalid : validTriage p.triagedAt triage = true
    · have haccepted : triage.accepted = true :=
        Bool.of_not_eq_false fun hrefused => h triage ⟨htriage, hvalid, hrefused⟩
      rw [require_of hvalid, continues_ok, if_pos haccepted]
      exact establishes_last (fun _ => establishes_acceptNotice p triage) s trivial
    · rw [require, if_neg hvalid, continues_error]
      exact fun u hu => nomatch hu

variable [CopyrightHashes]

theorem establishes_recordFailure (failure : Failure) :
    Establishes (fun _ => True) (·.value.state = .failed) (recordFailure failure) := by
  have hcase : ∀ s t : CaseSession, SameCase s t → Preserves (·.value.state = .failed) s t :=
    fun s t h hs => (congrArg (·.state) h.1).trans hs
  have hupdate : ∀ code : String, Keeps (Preserves fun s : CaseSession => s.value.state = .failed)
      (updateCase ({ · with failureCode := some code })) :=
    fun code => keeps_modify fun s hs => hs
  unfold recordFailure
  refine establishes_first (establishes_moveCase .failed) fun _ => keeps_bind keeps_get fun s => ?_
  split
  · exact keeps_bind (hupdate _) fun _ => (keeps_appendCopyrightEvent _ _ _ _ _ _).mono hcase
  · exact keeps_bind (hupdate _) fun _ => (keeps_appendCopyrightEvent _ _ _ _ _ _).mono hcase

end Parts

/-! ## What a request leaves -/

def CaseSession.lastAction (s : CaseSession) : Option String := s.applied.getLast?.map (·.action)

/-- Nothing is left taken down: the last action, if there was one, restored the targets. -/
def Undone (s : CaseSession) : Prop := ∀ action ∈ s.lastAction, action = "RESTORE"

/-- The case is decided, and only its closing is left. -/
def Decided (s : CaseSession) : Prop :=
  s.value.state = .restored ∨ s.value.state = .removed ∨ s.value.state = .rejected ∨ s.value.state = .closed

section Requests

variable [UnicodeClasses]

/-- The request turns the notice down, by its triage or by a decision, in texts that the database
takes. -/
def RejectsNotice (s : CaseSession) : CaseRequest → Prop
  | .process p => s.value.workspaceId = p.workspaceId ∧
      (s.value.state = .received ∨ s.value.state = .failed) ∧
      ∃ triage, TurnsDown p triage ∧ storableTriage triage = true
  | .submitCounterNotice _ => False
  | .decide d => s.value.workspaceId = d.workspaceId ∧ d.data.action = .reject ∧
      .rejected ∈ copyrightTransitions s.value.state ∧ storableText d.data.reason = true ∧
      storableText d.data.evidenceObjectRef = true

/-- How a request ends: `t` is what it leaves committed. -/
inductive CaseEnd (s : CaseSession) (request : CaseRequest) (t : CaseSession) : Prop
  | refused (hsame : t = s) (hnot : ¬ RejectsNotice s request)
  | rolledBack (hopen : ¬ Decided s) (hvalue : t.value = s.value)
      (hnot : ¬ RejectsNotice s request)
  | pending (hopen : ¬ Decided s) (hstate : t.value.state = .failed ∨ InReview t)
      (hnot : ¬ RejectsNotice s request)
  | rejected (hrejects : RejectsNotice s request) (hstate : t.value.state = .rejected)
      (happlied : t.applied = s.applied)
  | restored (hopen : ¬ Decided s) (hstate : t.value.state = .restored)
      (hlast : t.lastAction = some "RESTORE") (hnot : ¬ RejectsNotice s request)
  | removed (hopen : ¬ Decided s) (hstate : t.value.state = .removed)
      (hlast : t.lastAction = some "REMOVE") (hnot : ¬ RejectsNotice s request)
  | closed (hstate : t.value.state = .closed) (happlied : t.applied = s.applied)
      (hnot : ¬ RejectsNotice s request)

/-- Between requests a session is usable, and its rows are stored. -/
structure Usable (s : CaseSession) : Prop where
  usable : s.broken = false
  stored : s.storable = true

variable [CopyrightHashes]
variable {after : CaseSession} {d : CaseDecision}

theorem serveCase_ok (request : CaseRequest) (h : handleCaseRequest request s = .ok () after)
    (hafter : Usable after) : serveCase s request = after := by
  unfold serveCase
  rw [bind_run_ok h, flushCase_ok hafter.usable hafter.stored]

theorem serveCase_unstored {request : CaseRequest} (h : handleCaseRequest request s = .ok () after)
    (hafter : ¬ Usable after) : serveCase s request = { s with applied := after.applied } := by
  unfold serveCase
  rw [bind_run_ok h, flushCase_error fun hstored => hafter ⟨hstored.1, hstored.2⟩]

theorem serveCase_error (request : CaseRequest) {failure : Failure}
    (h : handleCaseRequest request s = .error failure after) :
    serveCase s request = { s with applied := after.applied } := by
  unfold serveCase
  rw [bind_run_error h]

/-- What a request commits has been flushed. -/
theorem usable_serveCase (hs : Usable s) (request : CaseRequest) : Usable (serveCase s request) := by
  cases h : handleCaseRequest request s with
  | ok u after =>
    by_cases hafter : Usable after
    · rw [serveCase_ok _ h hafter]
      exact hafter
    · rw [serveCase_unstored h hafter]
      exact ⟨hs.usable, hs.stored⟩
  | error failure after =>
    rw [serveCase_error _ h]
    exact ⟨hs.usable, hs.stored⟩

omit [UnicodeClasses] [CopyrightHashes] in
theorem copyrightCase_ok {workspaceId : Uuid} (h : s.value.workspaceId = workspaceId) :
    copyrightCase workspaceId s = .ok s.value s := by
  unfold copyrightCase
  rw [bind_run_ok (get_run s), require_of h, bind_run_ok (ofExcept_run_ok () s)]
  rfl

omit [UnicodeClasses] [CopyrightHashes] in
theorem copyrightCase_error {workspaceId : Uuid} (h : s.value.workspaceId ≠ workspaceId) :
    copyrightCase workspaceId s = .error caseNotFound s := by
  unfold copyrightCase
  rw [bind_run_ok (get_run s), require, if_neg h]
  exact bind_run_error (ofExcept_run_error _ s) _

/-- A session in which a request has begun. -/
def validatingSession (s : CaseSession) : CaseSession :=
  { s with value := { s.value with state := .validating } }

theorem processCopyrightCase_run (hworkspace : s.value.workspaceId = p.workspaceId)
    (hstate : s.value.state = .received ∨ s.value.state = .failed) :
    processCopyrightCase p s = tryCatch (triageCase p) recordFailure (validatingSession s) := by
  have hmove : .validating ∈ copyrightTransitions s.value.state := by
    rcases hstate with h | h <;> simp [h, copyrightTransitions]
  unfold processCopyrightCase
  rw [bind_run_ok (copyrightCase_ok hworkspace), if_pos hstate, bind_run_ok (moveCase_ok hmove)]
  rfl

omit [UnicodeClasses] [CopyrightHashes] in
theorem not_decided_of_waiting (hstate : s.value.state = .received ∨ s.value.state = .failed) :
    ¬ Decided s := by
  rintro (h | h | h | h) <;> simp [h] at hstate

theorem process_end_turnsDown (hs : Usable s) (hworkspace : s.value.workspaceId = p.workspaceId)
    (hstate : s.value.state = .received ∨ s.value.state = .failed) (h : TurnsDown p triage) :
    CaseEnd s (.process p) (serveCase s (.process p)) := by
  have hrun := processCopyrightCase_run hworkspace hstate
  have htriage := triageCase_turnsDown h (s := validatingSession s) rfl
  have hstored := rejectedSession_storable (s := validatingSession s) hs.stored triage
  by_cases hstorable : storableTriage triage = true
  · have husable : Usable (rejectedSession triage (validatingSession s)) :=
      ⟨hs.usable, hstored.trans hstorable⟩
    have hhandled := tryCatch_run_ok (htriage.trans (flushCase_ok husable.usable husable.stored))
      recordFailure
    rw [serveCase_ok (.process p) (hrun.trans hhandled) husable]
    exact .rejected ⟨hworkspace, hstate, triage, h, hstorable⟩ rfl rfl
  · -- the flush breaks the session, and the handler cannot leave the rejection
    have hflush := htriage.trans (flushCase_error fun hflushed =>
      hstorable (hstored.symm.trans hflushed.2))
    have hhandler : recordFailure (.integrity "security_copyright_case_events")
        { rejectedSession triage (validatingSession s) with broken := true } =
          .error copyrightTransitionInvalid
            { rejectedSession triage (validatingSession s) with broken := true } := by
      unfold recordFailure
      exact bind_run_error (moveCase_error (by simp [rejectedSession, copyrightTransitions])) _
    have hhandled := (tryCatch_run_error hflush recordFailure).trans hhandler
    rw [serveCase_error (.process p) (hrun.trans hhandled)]
    refine .refused rfl ?_
    rintro ⟨_, _, triage', h', hstorable'⟩
    cases h.answered.symm.trans h'.answered
    exact hstorable hstorable'

/-- The processing of a notice that its triage does not turn down. -/
theorem process_end_open (hworkspace : s.value.workspaceId = p.workspaceId)
    (hstate : s.value.state = .received ∨ s.value.state = .failed)
    (h : ∀ triage, ¬ TurnsDown p triage) : CaseEnd s (.process p) (serveCase s (.process p)) := by
  have hopen := not_decided_of_waiting hstate
  have hnot : ¬ RejectsNotice s (.process p) := fun ⟨_, _, triage, hdown, _⟩ => h triage hdown
  have hrun : handleCaseRequest (.process p) s = _ := processCopyrightCase_run hworkspace hstate
  have hended : ∀ u after, handleCaseRequest (.process p) s = .ok u after →
      after.value.state = .failed ∨ InReview after := by
    intro u after hafter
    rw [hrun] at hafter
    cases htriage : triageCase p (validatingSession s) with
    | ok u' reviewed =>
      rw [tryCatch_run_ok htriage] at hafter
      cases hafter
      exact .inr ((establishes_triageCase h).of_ok trivial htriage)
    | error failure stopped =>
      rw [tryCatch_run_error htriage] at hafter
      exact .inl ((establishes_recordFailure failure).of_ok trivial hafter)
  cases hhandled : handleCaseRequest (.process p) s with
  | ok u after =>
    by_cases husable : Usable after
    · rw [serveCase_ok _ hhandled husable]
      exact .pending hopen (hended u after hhandled) hnot
    · rw [serveCase_unstored hhandled husable]
      exact .rolledBack hopen rfl hnot
  | error failure after =>
    rw [serveCase_error _ hhandled]
    exact .rolledBack hopen rfl hnot

theorem process_end (hs : Usable s) (p : CaseProcessing) :
    CaseEnd s (.process p) (serveCase s (.process p)) := by
  by_cases hworkspace : s.value.workspaceId = p.workspaceId
  · by_cases hstate : s.value.state = .received ∨ s.value.state = .failed
    · by_cases h : ∃ triage, TurnsDown p triage
      · obtain ⟨triage, hdown⟩ := h
        exact process_end_turnsDown hs hworkspace hstate hdown
      · exact process_end_open hworkspace hstate (not_exists.mp h)
    · have hrun : handleCaseRequest (.process p) s = .ok () s := by
        show processCopyrightCase p s = _
        unfold processCopyrightCase
        rw [bind_run_ok (copyrightCase_ok hworkspace), if_neg hstate]
        rfl
      rw [serveCase_ok _ hrun hs]
      exact .refused rfl fun hrejects => hstate hrejects.2.1
  · have hrun : handleCaseRequest (.process p) s = .error caseNotFound s :=
      bind_run_error (copyrightCase_error hworkspace) _
    rw [serveCase_error _ hrun]
    exact .refused rfl fun hrejects => hworkspace hrejects.1

theorem establishes_submitCounterNotice (n : CounterNoticeSubmission) :
    Establishes (fun _ => True) (·.value.state = .legalReview) (submitCounterNotice n) := by
  have hcase : ∀ s t : CaseSession, SameCase s t → Preserves (·.value.state = .legalReview) s t :=
    fun s t h hs => (congrArg (·.state) h.1).trans hs
  unfold submitCounterNotice
  refine establishes_last fun _ => establishes_last fun _ => establishes_last fun _ => ?_
  refine establishes_last fun _ => establishes_last fun _ => ?_
  refine establishes_first (establishes_moveCase .legalReview) fun _ => ?_
  refine keeps_bind (keeps_modify fun s hs => hs) fun _ => ?_
  refine keeps_bind (keeps_modify fun s hs => hs) fun _ => ?_
  exact (keeps_appendCopyrightEvent _ _ _ _ _ _).mono hcase

/-- A counter notice that does not come when it is waited for changes nothing. -/
theorem submitCounterNotice_refused {n : CounterNoticeSubmission}
    (h : s.value.state ≠ .waitingCounterNotice) :
    ∃ failure, submitCounterNotice n s = .error failure s := by
  unfold submitCounterNotice
  by_cases hworkspace : s.value.workspaceId = n.workspaceId
  · rw [bind_run_ok (copyrightCase_ok hworkspace)]
    cases requireSecretReference n.respondentContactRef "respondent_contact_ref" with
    | error failure => exact ⟨failure, bind_run_error (ofExcept_run_error failure s) _⟩
    | ok u =>
      rw [bind_run_ok (ofExcept_run_ok u s), require, if_neg h]
      exact ⟨counterNoticeNotAllowed, bind_run_error (ofExcept_run_error _ s) _⟩
  · exact ⟨caseNotFound, bind_run_error (copyrightCase_error hworkspace) _⟩

theorem counterNotice_end (s : CaseSession) (n : CounterNoticeSubmission) :
    CaseEnd s (.submitCounterNotice n) (serveCase s (.submitCounterNotice n)) := by
  by_cases h : s.value.state = .waitingCounterNotice
  · have hopen : ¬ Decided s := by
      rintro (h' | h' | h' | h') <;> simp [h] at h'
    cases hhandled : handleCaseRequest (.submitCounterNotice n) s with
    | ok u after =>
      by_cases husable : Usable after
      · rw [serveCase_ok _ hhandled husable]
        have hreview := (establishes_submitCounterNotice n).of_ok trivial hhandled
        exact .pending hopen (.inr (.inl hreview)) id
      · rw [serveCase_unstored hhandled husable]
        exact .rolledBack hopen rfl id
    | error failure after =>
      rw [serveCase_error _ hhandled]
      exact .rolledBack hopen rfl id
  · obtain ⟨failure, hrefused⟩ := submitCounterNotice_refused (n := n) h
    rw [serveCase_error (.submitCounterNotice n) hrefused]
    exact .refused rfl id

omit [CopyrightHashes] in
theorem ends_concludeCase (d : CaseDecision) (metadata : List (String × String))
    (evidenceObjectRef evidenceHash : String) (s : CaseSession) :
    Ends (concludeCase d metadata evidenceObjectRef evidenceHash) s fun r t =>
      t.applied = s.applied ∧ ∀ u, r = .ok u → t.value.state = d.data.action.target := by
  unfold concludeCase updateCase
  rw [ends_bind, ends_modify, continues_ok]
  refine (keeps_appendCopyrightEvent _ _ _ _ _ _ _).mono fun r t hsame => ⟨hsame.2, fun _ _ => ?_⟩
  rw [hsame.1]

omit [CopyrightHashes] in
/-- A decision starts with the check of its target. -/
theorem decideCopyrightCase_run (hworkspace : s.value.workspaceId = d.workspaceId)
    (hallowed : d.data.action.target ∈ copyrightTransitions s.value.state) :
    decideCopyrightCase d s = match d.data.action.enforced with
      | none => concludeCase d [] d.data.evidenceObjectRef d.data.evidenceHash s
      | some action => (do
          let result ← applyAction action d.result
          MonadExcept.ofExcept (require (validAction s.value.createdAt d.now action result = true)
            actionInvalid)
          concludeCase d [("provider_reference", result.providerReference),
            ("decision_evidence_hash", d.data.evidenceHash)] result.evidenceObjectRef
            result.evidenceHash) s := by
  unfold decideCopyrightCase
  rw [bind_run_ok (copyrightCase_ok hworkspace), ensureCopyrightTransition, require_of hallowed,
    bind_run_ok (ofExcept_run_ok () s)]
  cases d.data.action.enforced <;> rfl

omit [CopyrightHashes] in
/-- A decision that is enforced and recorded is the last action that was carried out. -/
theorem decideCopyrightCase_enforced {action : String} {u : Unit}
    (hworkspace : s.value.workspaceId = d.workspaceId)
    (hallowed : d.data.action.target ∈ copyrightTransitions s.value.state)
    (henforced : d.data.action.enforced = some action) (h : decideCopyrightCase d s = .ok u after) :
    after.value.state = d.data.action.target ∧ after.lastAction = some action := by
  rw [decideCopyrightCase_run hworkspace hallowed, henforced] at h
  cases hresult : d.result with
  | error failure =>
    simp only [applyAction, hresult] at h
    rw [bind_run_error (bind_run_error (ofExcept_run_error failure s) _)] at h
    cases h
  | ok result =>
    have happly : applyAction action d.result s = .ok result
        { s with applied := s.applied ++ [⟨action, s.value.targetRefs⟩] } := by
      unfold applyAction
      rw [hresult, bind_run_ok (ofExcept_run_ok result s), bind_run_ok (modify_run _ s)]
      rfl
    simp only at h
    rw [bind_run_ok happly] at h
    by_cases hvalid : validAction s.value.createdAt d.now action result = true
    · rw [require_of hvalid, bind_run_ok (ofExcept_run_ok () _)] at h
      obtain ⟨happlied, hstate⟩ := (ends_concludeCase d _ _ _ _).of_ok h
      refine ⟨hstate u rfl, ?_⟩
      simp [CaseSession.lastAction, happlied]
    · rw [require, if_neg hvalid, bind_run_error (ofExcept_run_error _ _)] at h
      cases h

omit [CopyrightHashes] in
theorem decideCopyrightCase_refused
    (h : ¬ (s.value.workspaceId = d.workspaceId ∧
      d.data.action.target ∈ copyrightTransitions s.value.state)) :
    ∃ failure, decideCopyrightCase d s = .error failure s := by
  unfold decideCopyrightCase
  by_cases hworkspace : s.value.workspaceId = d.workspaceId
  · have hrefused : d.data.action.target ∉ copyrightTransitions s.value.state :=
      fun hallowed => h ⟨hworkspace, hallowed⟩
    rw [bind_run_ok (copyrightCase_ok hworkspace), ensureCopyrightTransition, require, if_neg hrefused]
    exact ⟨copyrightTransitionInvalid, bind_run_error (ofExcept_run_error _ s) _⟩
  · exact ⟨caseNotFound, bind_run_error (copyrightCase_error hworkspace) _⟩

/-- The session in which a decision without an action has been recorded. -/
def concludedSession (d : CaseDecision) (s : CaseSession) : CaseSession :=
  { s with
    value := { s.value with
      state := d.data.action.target
      resolvedAt := some d.now }
    events := s.events ++ [newEvent s.events (some d.subjectId) d.data.action.eventKind
      d.data.reason [] (some d.data.evidenceObjectRef) d.data.evidenceHash] }

omit [CopyrightHashes] in
theorem concludeCase_run (d : CaseDecision) (s : CaseSession) :
    concludeCase d [] d.data.evidenceObjectRef d.data.evidenceHash s =
      flushCase (concludedSession d s) := by
  unfold concludeCase updateCase
  rw [bind_run_ok (modify_run _ s)]
  refine appendCopyrightEvent_run d.data.evidenceHash_hex (fun ref href => ?_) _ _ _ _ _
  cases href
  exact d.data.evidenceObjectRef_length

omit [CopyrightHashes] in
theorem concludedSession_storable (hstored : s.storable = true) (d : CaseDecision) :
    (concludedSession d s).storable =
      (storableText d.data.reason && storableText d.data.evidenceObjectRef) := by
  simp only [CaseSession.storable, CopyrightCase.storable, Bool.and_eq_true] at hstored
  obtain ⟨⟨⟨⟨⟨haction, hpolicy⟩, hfailure⟩, hevents⟩, hnotices⟩, hlength⟩ := hstored
  simp [CaseSession.storable, CopyrightCase.storable, CopyrightCaseEvent.storable, concludedSession,
    newEvent, List.all_append, haction, hpolicy, hfailure, hevents, hnotices, hlength]

/-- A decision without an action is recorded exactly when the database takes its texts. -/
theorem decide_end_recorded (hs : Usable s) (hworkspace : s.value.workspaceId = d.workspaceId)
    (hallowed : d.data.action.target ∈ copyrightTransitions s.value.state)
    (hplain : d.data.action.enforced = none) : serveCase s (.decide d) =
      if storableText d.data.reason && storableText d.data.evidenceObjectRef then
        concludedSession d s
      else s := by
  have hrun : handleCaseRequest (.decide d) s = flushCase (concludedSession d s) := by
    refine (decideCopyrightCase_run hworkspace hallowed).trans ?_
    rw [hplain]
    exact concludeCase_run d s
  have hstored := concludedSession_storable hs.stored d
  split
  · rename_i htexts
    have husable : Usable (concludedSession d s) := ⟨hs.usable, hstored.trans htexts⟩
    exact serveCase_ok _ (hrun.trans (flushCase_ok husable.usable husable.stored)) husable
  · rename_i htexts
    have hrefused := flushCase_error (s := concludedSession d s) fun h =>
      htexts (hstored.symm.trans h.2)
    rw [serveCase_error _ (hrun.trans hrefused)]
    rfl

theorem decide_end_enforced {action : String} (hworkspace : s.value.workspaceId = d.workspaceId)
    (hallowed : d.data.action.target ∈ copyrightTransitions s.value.state)
    (henforced : d.data.action.enforced = some action) :
    (serveCase s (.decide d)).value.state = d.data.action.target ∧
        (serveCase s (.decide d)).lastAction = some action ∨
      (serveCase s (.decide d)).value = s.value := by
  cases hhandled : handleCaseRequest (.decide d) s with
  | ok u after =>
    by_cases husable : Usable after
    · rw [serveCase_ok _ hhandled husable]
      exact .inl (decideCopyrightCase_enforced hworkspace hallowed henforced hhandled)
    · rw [serveCase_unstored hhandled husable]
      exact .inr rfl
  | error failure after =>
    rw [serveCase_error _ hhandled]
    exact .inr rfl

theorem decide_end (hs : Usable s) (d : CaseDecision) : CaseEnd s (.decide d) (serveCase s (.decide d)) := by
  by_cases h : s.value.workspaceId = d.workspaceId ∧ d.data.action.target ∈ copyrightTransitions s.value.state
  · obtain ⟨hworkspace, hallowed⟩ := h
    have hnot : d.data.action ≠ .reject → ¬ RejectsNotice s (.decide d) :=
      fun hother hrejects => hother hrejects.2.1
    have hopen : d.data.action ≠ .close → ¬ Decided s := by
      intro hother hdecided
      cases haction : d.data.action <;> rw [haction] at hallowed hother
      all_goals rcases hdecided with hstate | hstate | hstate | hstate
      all_goals simp [hstate, copyrightTransitions, CopyrightDecisionAction.target] at hallowed hother
    cases haction : d.data.action with
    | restore =>
      have henforced : d.data.action.enforced = some "RESTORE" := by rw [haction]; rfl
      rw [haction] at hnot hopen
      rcases decide_end_enforced hworkspace hallowed henforced with ⟨hstate, hlast⟩ | hvalue
      · rw [haction] at hstate
        exact .restored (hopen (by simp)) hstate hlast (hnot (by simp))
      · exact .rolledBack (hopen (by simp)) hvalue (hnot (by simp))
    | remove =>
      have henforced : d.data.action.enforced = some "REMOVE" := by rw [haction]; rfl
      rw [haction] at hnot hopen
      rcases decide_end_enforced hworkspace hallowed henforced with ⟨hstate, hlast⟩ | hvalue
      · rw [haction] at hstate
        exact .removed (hopen (by simp)) hstate hlast (hnot (by simp))
      · exact .rolledBack (hopen (by simp)) hvalue (hnot (by simp))
    | reject =>
      have hend := decide_end_recorded hs hworkspace hallowed (by rw [haction]; rfl)
      rw [haction] at hallowed
      rw [hend]
      split
      · rename_i htexts
        have hstored := Bool.and_eq_true_iff.mp htexts
        refine .rejected ⟨hworkspace, haction, hallowed, hstored⟩ ?_ rfl
        simp [concludedSession, haction, CopyrightDecisionAction.target]
      · rename_i htexts
        exact .refused rfl fun hrejects => htexts (Bool.and_eq_true_iff.mpr hrejects.2.2.2)
    | close =>
      have hend := decide_end_recorded hs hworkspace hallowed (by rw [haction]; rfl)
      rw [haction] at hnot
      rw [hend]
      split
      · refine .closed ?_ rfl (hnot (by simp))
        simp [concludedSession, haction, CopyrightDecisionAction.target]
      · exact .refused rfl (hnot (by simp))
  · obtain ⟨failure, hrefused⟩ := decideCopyrightCase_refused h
    rw [serveCase_error (.decide d) hrefused]
    refine .refused rfl fun hrejects => h ⟨hrejects.1, ?_⟩
    rw [hrejects.2.1]
    exact hrejects.2.2.1

theorem request_end (hs : Usable s) (request : CaseRequest) : CaseEnd s request (serveCase s request) := by
  cases request with
  | process p => exact process_end hs p
  | submitCounterNotice n => exact counterNotice_end s n
  | decide d => exact decide_end hs d

/-- What a run of requests is to leave: a case that was turned down or restored has nothing taken
down, and one whose content was removed has it removed. -/
structure NothingLeftDown (s : CaseSession) (requests : List CaseRequest) : Prop where
  rejected : (run serveCase s requests).value.state = .rejected → Undone (run serveCase s requests)
  closed : (run serveCase s requests).value.state = .closed → ∀ before, before <+: requests →
    (run serveCase s before).value.state = .rejected ∨
      (run serveCase s before).value.state = .restored → Undone (run serveCase s requests)
  removed : (run serveCase s requests).value.state = .removed →
    (run serveCase s requests).lastAction = some "REMOVE"

/-- A notice that has just come in. -/
structure NewCase (s : CaseSession) : Prop extends Usable s where
  received : s.value.state = .received
  untouched : s.applied = []

/-- The notice is turned down only while nothing is taken down. -/
def RejectsUndone (s : CaseSession) (request : CaseRequest) : Prop := RejectsNotice s request → Undone s

/-- What holds between the requests of a run, whatever they are. -/
structure Consistent (s : CaseSession) : Prop extends Usable s where
  restored : s.value.state = .restored → s.lastAction = some "RESTORE"
  removed : s.value.state = .removed → s.lastAction = some "REMOVE"

theorem consistent_serveCase (hs : Consistent s) (request : CaseRequest) :
    Consistent (serveCase s request) := by
  have husable := usable_serveCase hs.toUsable request
  cases request_end hs.toUsable request with
  | refused hsame =>
    rw [hsame]
    exact hs
  | rolledBack hopen hvalue =>
    refine ⟨husable, fun hstate => ?_, fun hstate => ?_⟩
    · exact absurd (.inl (hvalue ▸ hstate)) hopen
    · exact absurd (.inr (.inl (hvalue ▸ hstate))) hopen
  | pending _ hpending =>
    refine ⟨husable, fun hstate => ?_, fun hstate => ?_⟩
    · simp [InReview, hstate] at hpending
    · simp [InReview, hstate] at hpending
  | rejected _ hrejected =>
    exact ⟨husable, fun hstate => (by cases hrejected.symm.trans hstate),
      fun hstate => (by cases hrejected.symm.trans hstate)⟩
  | restored _ hrestored hlast =>
    exact ⟨husable, fun _ => hlast, fun hstate => (by cases hrestored.symm.trans hstate)⟩
  | removed _ hremoved hlast =>
    exact ⟨husable, fun hstate => (by cases hremoved.symm.trans hstate), fun _ => hlast⟩
  | closed hclosed =>
    exact ⟨husable, fun hstate => (by cases hclosed.symm.trans hstate),
      fun hstate => (by cases hclosed.symm.trans hstate)⟩

/-- Nothing is applied to the targets of a decided case any more. -/
theorem decided_serveCase (hs : Usable s) (h : Decided s) (request : CaseRequest) :
    Decided (serveCase s request) ∧ (serveCase s request).applied = s.applied := by
  cases request_end hs request with
  | refused hsame =>
    rw [hsame]
    exact ⟨h, rfl⟩
  | rolledBack hopen => exact absurd h hopen
  | pending hopen => exact absurd h hopen
  | rejected _ hstate happlied => exact ⟨.inr (.inr (.inl hstate)), happlied⟩
  | restored hopen => exact absurd h hopen
  | removed hopen => exact absurd h hopen
  | closed hstate happlied => exact ⟨.inr (.inr (.inr hstate)), happlied⟩

omit [UnicodeClasses] [CopyrightHashes] in
theorem undone_of_applied {t : CaseSession} (happlied : t.applied = s.applied) : Undone t ↔ Undone s := by
  unfold Undone CaseSession.lastAction
  rw [happlied]

def RejectedUndone (s : CaseSession) : Prop := s.value.state = .rejected → Undone s

/-- A request leaves no rejected case with something taken down exactly when it turns the notice
down only while nothing is. -/
theorem rejectedUndone_iff (hs : Consistent s) (h : RejectedUndone s) (request : CaseRequest) :
    RejectedUndone (serveCase s request) ↔ RejectsUndone s request := by
  cases request_end hs.toUsable request with
  | refused hsame hnot =>
    rw [hsame]
    exact iff_of_true h fun hrejects => absurd hrejects hnot
  | rolledBack hopen hvalue hnot =>
    refine iff_of_true (fun hstate => ?_) fun hrejects => absurd hrejects hnot
    rw [hvalue] at hstate
    exact absurd (.inr (.inr (.inl hstate))) hopen
  | pending _ hpending hnot =>
    refine iff_of_true (fun hstate => ?_) fun hrejects => absurd hrejects hnot
    simp [InReview, hstate] at hpending
  | rejected hrejects hstate happlied =>
    have hundone := undone_of_applied happlied
    exact ⟨fun hleft _ => hundone.mp (hleft hstate), fun hright _ => hundone.mpr (hright hrejects)⟩
  | restored _ hrestored _ hnot =>
    exact iff_of_true (fun hstate => nomatch hrestored.symm.trans hstate) fun hrejects =>
      absurd hrejects hnot
  | removed _ hremoved _ hnot =>
    exact iff_of_true (fun hstate => nomatch hremoved.symm.trans hstate) fun hrejects =>
      absurd hrejects hnot
  | closed hclosed _ hnot =>
    exact iff_of_true (fun hstate => nomatch hclosed.symm.trans hstate) fun hrejects =>
      absurd hrejects hnot

theorem decided_run (hs : Usable s) (h : Decided s) (requests : List CaseRequest) :
    (run serveCase s requests).applied = s.applied := by
  induction requests generalizing s with
  | nil => rfl
  | cons request requests ih =>
    obtain ⟨hdecided, happlied⟩ := decided_serveCase hs h request
    exact (ih (usable_serveCase hs request) hdecided).trans happlied

theorem nothingLeftDown_of_rejectedUndone (hs : Consistent s) {requests : List CaseRequest}
    (h : ∀ before, before <+: requests → RejectedUndone (run serveCase s before)) :
    NothingLeftDown s requests := by
  have hconsistent : ∀ before, Consistent (run serveCase s before) :=
    invariant_run (I := Consistent) serveCase (fun _ request h => consistent_serveCase h request) hs
  refine ⟨h requests (List.prefix_refl requests), fun _ before hbefore hstate => ?_,
    (hconsistent requests).removed⟩
  have hundone : Undone (run serveCase s before) := by
    rcases hstate with hrejected | hrestored
    · exact h before hbefore hrejected
    · intro action haction
      rw [(hconsistent before).restored hrestored] at haction
      cases haction
      rfl
  have hdecided : Decided (run serveCase s before) := by
    rcases hstate with hrejected | hrestored
    · exact .inr (.inr (.inl hrejected))
    · exact .inl hrestored
  obtain ⟨later, rfl⟩ := hbefore
  rw [run_append, undone_of_applied (decided_run (hconsistent before).toUsable hdecided later)]
  exact hundone

/-- A notice leaves nothing taken down throughout a run exactly when it is turned down only while
no action has been carried out or the last one restored the targets. -/
theorem nothing_left_down_iff {s : CaseSession} (hs : NewCase s) (requests : List CaseRequest) :
    (∀ before, before <+: requests → NothingLeftDown s before) ↔
      Along serveCase RejectsUndone s requests := by
  have hinitial : Consistent s :=
    ⟨hs.toUsable, fun h => (by cases hs.received.symm.trans h), fun h => (by cases hs.received.symm.trans h)⟩
  have hundone : RejectedUndone s := fun h => by cases hs.received.symm.trans h
  have hiff := throughout_iff_along_of_invariant (I := fun s => Consistent s ∧ RejectedUndone s)
    (P := RejectedUndone) (Q := RejectsUndone) (R := fun _ _ => True) serveCase (fun _ h => h.2)
    (fun _ request h _ => rejectedUndone_iff h.1 h.2 request)
    (fun _ request h _ hrejects => ⟨consistent_serveCase h.1 request,
      (rejectedUndone_iff h.1 h.2 request).mpr hrejects⟩)
    ⟨hinitial, hundone⟩ (along_of_always serveCase (fun _ _ => trivial) s requests)
  rw [← hiff]
  constructor
  · exact fun h before hbefore => (h before hbefore).rejected
  · intro h before hbefore
    exact nothingLeftDown_of_rejectedUndone hinitial fun earlier hearlier =>
      h earlier (hearlier.trans hbefore)

end Requests

/-! ## A notice that is turned down after its temporary action -/

section Samples

def sampleTriage : CopyrightTriageResult where
  accepted := true
  decisionCode := "PLAUSIBLE"
  temporaryAction := some "HIDE"
  policyVersion := "1"
  evidenceHash := String.ofList (List.replicate 64 'a')
  responseDueAt := some 100

def sampleActionResult : CopyrightActionResult where
  action := "HIDE"
  providerReference := "r"
  evidenceObjectRef := "e"
  evidenceHash := String.ofList (List.replicate 64 'a')
  completedAt := some 10

def sampleVerification : CounterNoticeVerificationResult where
  passed := true
  providerReference := "r"
  assuranceLevel := "high"
  evidenceHash := String.ofList (List.replicate 64 'a')
  verifiedAt := some 20

def sampleCase : CaseSession where
  value := { id := 1, workspaceId := 2, targetRefs := ["post"], evidenceObjectRefs := ["e"],
             createdAt := 0 }

/-- The content is hidden, and its author objects. -/
def disputedRequests : List CaseRequest := [.process {
    workspaceId := 2, triage := .ok sampleTriage, triagedAt := 5
    action := .ok sampleActionResult, actedAt := 10 },
   .submitCounterNotice {
    workspaceId := 2, subjectId := 3, respondentContactRef := "vault://contact"
    statementObjectRef := "s", statementHash := String.ofList (List.replicate 64 'a')
    verification := .ok sampleVerification, now := 20 }]

def sampleDecide (action : CopyrightDecisionAction) (result : Except Failure CopyrightActionResult) :
    CaseRequest :=
  .decide {
    workspaceId := 2, subjectId := 4
    data := {
      action := action, reason := "not infringing", evidenceObjectRef := "e"
      evidenceHash := String.ofList (List.replicate 64 'a')
      reason_length := by decide, evidenceObjectRef_length := by decide
      evidenceHash_hex := by decide }
    result := result, now := 30 }

/-- The content is hidden, its author objects, and the claim is rejected. -/
def sampleRequests : List CaseRequest := disputedRequests ++ [sampleDecide .reject (.error .keyError)]

/-- The content is hidden, its author objects, and it is restored. -/
def restoredRequests : List CaseRequest := disputedRequests ++ [sampleDecide .restore
  (.ok { sampleActionResult with action := "RESTORE", completedAt := some 25 })]

theorem sampleUnicode_digit (c : Char) (_ : c.val < 128) : c.isDigit = c.isDigit := rfl

theorem sampleUnicode_word (c : Char) (_ : c.val < 128) :
    (c.isAlphanum || c = '_') = (c.isAlphanum || c = '_') := rfl

theorem sampleUnicode_space (c : Char) (_ : c.val < 128) :
    (c = ' ' || 9 ≤ c.val && c.val ≤ 13 || 28 ≤ c.val && c.val ≤ 31) =
      (c = ' ' || 9 ≤ c.val && c.val ≤ 13 || 28 ≤ c.val && c.val ≤ 31) := rfl

abbrev sampleUnicode : UnicodeClasses where
  isDigit := Char.isDigit
  isWord c := c.isAlphanum || c = '_'
  isSpace c := c = ' ' || 9 ≤ c.val && c.val ≤ 13 || 28 ≤ c.val && c.val ≤ 31
  ascii_digit := sampleUnicode_digit
  ascii_word := sampleUnicode_word
  ascii_space := sampleUnicode_space

abbrev sampleCopyrightHashes : CopyrightHashes where
  failureHash _ _ _ := String.ofList (List.replicate 64 'a')
  contactHash := id
  errorClass _ := "Exception"

attribute [local instance] sampleUnicode sampleCopyrightHashes

theorem sampleCase_new : NewCase sampleCase where
  usable := rfl
  stored := by decide
  received := rfl
  untouched := rfl

theorem restoredRequests_undone : Along serveCase RejectsUndone sampleCase restoredRequests :=
  ⟨fun _ _ haction => absurd haction (Option.not_mem_none _), fun hrejects => False.elim hrejects,
    fun hrejects => absurd hrejects.2.1 (by decide), trivial⟩

theorem nothing_left_down_sample :
    (run serveCase sampleCase disputedRequests).lastAction = some "HIDE" ∧
      (run serveCase sampleCase restoredRequests).value.state = .restored ∧
      ∀ before, before <+: restoredRequests → NothingLeftDown sampleCase before := by
  have hstates : (run serveCase sampleCase disputedRequests).lastAction = some "HIDE" ∧
      (run serveCase sampleCase restoredRequests).value.state = .restored := by
    decide +kernel
  exact ⟨hstates.1, hstates.2,
    (nothing_left_down_iff sampleCase_new restoredRequests).2 restoredRequests_undone⟩

theorem rejected_notice_left_down : NewCase sampleCase ∧
      (run serveCase sampleCase sampleRequests).value.state = .rejected ∧
      (run serveCase sampleCase sampleRequests).lastAction = some "HIDE" ∧
      ¬ NothingLeftDown sampleCase sampleRequests := by
  obtain ⟨hstate, hlast⟩ : (run serveCase sampleCase sampleRequests).value.state = .rejected ∧
      (run serveCase sampleCase sampleRequests).lastAction = some "HIDE" := by
    decide +kernel
  refine ⟨sampleCase_new, hstate, hlast, fun h => ?_⟩
  have hundone := h.rejected hstate "HIDE" hlast
  exact absurd hundone (by decide)

end Samples

end BlogOps.Security
