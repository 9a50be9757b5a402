import BlogOps.AppErrors
import BlogOps.EffectRules
import BlogOps.PythonText
import BlogOps.TransitionRuns
import Mathlib.Data.List.Nodup

/-!
# Operator commands

`decide_command`, and the task `_run_admin_command` around `execute_ready_command` and
`fail_ready_command`.  Both lock the row of the command, so that they take turns.  The
executor runs inside the transaction: a transaction that is rolled back has called it.
-/

namespace BlogOps.Admin

open EffectRules TransitionRuns List

inductive AdminCommandState where
  | pendingApproval | ready | dispatched | succeeded | failed | rejected | cancelled
deriving DecidableEq, Repr

inductive AdminApprovalDecision where
  | approve | reject
deriving DecidableEq, Repr

structure AdminCommand where
  id : Uuid
  targetWorkspaceId : Option Uuid
  requestedBy : Uuid
  kind : String
  secureParametersRef : Option String
  requiredApprovals : Nat
  approvalCount : Nat := 0
  state : AdminCommandState := .pendingApproval
  dispatchedAt : Option Int := none
  completedAt : Option Int := none
  resultRef : Option String := none
  errorCode : Option String := none
  required_pos : 0 < requiredApprovals

structure AdminCommandApproval where
  approverId : Uuid
  decision : AdminApprovalDecision
  reason : String
  mfaVerified : Bool
deriving DecidableEq, Repr

/-- A call of the executor: its arguments, and the approval rows of the command at that moment. -/
structure ExecutorCall where
  commandId : Uuid
  kind : String
  secureParametersRef : Option String
  approvals : List AdminCommandApproval
deriving DecidableEq, Repr

/-- A command with its approvals, as a session holds them; no rollback takes back `executions`. -/
structure CommandSession where
  command : AdminCommand
  approvals : List AdminCommandApproval := []
  executions : List ExecutorCall := []
  /-- A flush failed, and the session refuses every further query. -/
  broken : Bool := false

def mfaRequired : Failure := .app {
  code := "ADMIN_MFA_REQUIRED"
  message := "운영 명령 승인에는 MFA 재확인이 필요합니다."
  statusCode := 403 }

def commandNotFound : Failure := .app {
  code := "ADMIN_COMMAND_NOT_FOUND"
  message := "운영 명령을 찾을 수 없습니다."
  statusCode := 404 }

def conflict (code message : String) : Failure :=
  .app { code := code, message := message, statusCode := 409 }

def notPending : Failure := conflict "ADMIN_COMMAND_NOT_PENDING" "승인 대기 중인 명령만 처리할 수 있습니다."

def separationOfDuties : Failure := conflict "ADMIN_SEPARATION_OF_DUTIES"
  "요청자와 승인자는 달라야 하며 한 운영자가 중복 승인할 수 없습니다."

def validateTwoPersonApproval (requestedBy approverId : Uuid) (priorApproverIds : List Uuid) :
    Except Failure Unit :=
  require (¬ (requestedBy = approverId ∨ approverId ∈ priorApproverIds)) separationOfDuties

/-- `takes`: the database takes the approval and the rows of the audit and the outbox. -/
structure DecisionCall where
  operatorId : Uuid
  commandId : Uuid
  decision : AdminApprovalDecision
  reason : String
  mfaVerified : Bool
  takes : Bool

def AdminCommand.decide (decision : AdminApprovalDecision) (command : AdminCommand) : AdminCommand :=
  match decision with
  | .reject => { command with state := .rejected }
  | .approve =>
    { command with
      approvalCount := command.approvalCount + 1
      state := if command.requiredApprovals ≤ command.approvalCount + 1 then .ready else command.state }

def decideCommand (s : CommandSession) (call : DecisionCall) : Except Failure CommandSession := do
  require (call.mfaVerified = true) mfaRequired
  require (call.commandId = s.command.id) commandNotFound
  require (s.command.state = .pendingApproval) notPending
  validateTwoPersonApproval s.command.requestedBy call.operatorId
    (s.approvals.map AdminCommandApproval.approverId)
  require (call.takes = true) (.integrity "admin_command_approvals")
  .ok { s with
    command := s.command.decide call.decision
    approvals := s.approvals ++ [{
      approverId := call.operatorId
      decision := call.decision
      reason := call.reason
      mfaVerified := true }] }

abbrev CommandM := EStateM Failure CommandSession

structure CommandExecutionResult where
  resultRef : String
  /-- `safe_summary` is a dictionary. -/
  summarized : Bool
deriving DecidableEq, Repr

/-- How a step that writes other rows ends: it may raise with the session usable or broken. -/
inductive Recording where
  | stored
  | raised (failure : Failure)
  | refused
deriving DecidableEq, Repr

/-- A delivery of the task: the envelope, the worker, the executor's answer and what the database
does with each flush. -/
structure CommandDelivery where
  commandId : Uuid
  targetWorkspaceId : Option Uuid
  actorId : Option Uuid
  now : Int
  answer : Except Failure CommandExecutionResult
  dispatched : Recording
  succeeded : Recording
  succeededAudit : Recording
  failed : Recording
  failedAudit : Recording
  commits : Bool

def workspaceMismatch : Failure := conflict "ADMIN_COMMAND_WORKSPACE_MISMATCH"
  "운영 명령의 대상 Workspace가 worker envelope와 다릅니다."

def notReady : Failure := conflict "ADMIN_COMMAND_NOT_READY" "승인이 완료된 운영 명령만 실행할 수 있습니다."

def notReadyToFail : Failure := conflict "ADMIN_COMMAND_NOT_READY" "승인이 완료된 운영 명령만 실패 처리할 수 있습니다."

def resultInvalid : Failure := .app {
  code := "ADMIN_COMMAND_RESULT_INVALID"
  message := "운영 명령 실행 증명이 없습니다."
  statusCode := 503 }

def workerIdentityUnavailable : Failure := .app {
  code := "ADMIN_WORKER_IDENTITY_UNAVAILABLE"
  message := "운영 명령 worker 서비스 ID가 구성되지 않았습니다."
  statusCode := 503 }

def terminalCommandStates : List AdminCommandState := [.succeeded, .failed, .rejected, .cancelled]

def executableStates : List AdminCommandState := [.ready, .dispatched]

def flush : Recording → CommandM Unit
  | .stored => pure ()
  | .raised failure => throw failure
  | .refused => do
    modify ({ · with broken := true })
    throw (.integrity "flush")

variable (d : CommandDelivery)

/-- The locked row of the command, if the session still reads and the envelope is the command's. -/
def lockedCommand : CommandM AdminCommand := do
  let s ← get
  if s.broken then throw (.integrity "PendingRollbackError")
  else if d.commandId ≠ s.command.id then throw commandNotFound
  else if s.command.targetWorkspaceId ≠ d.targetWorkspaceId then throw workspaceMismatch
  else pure s.command

def AdminCommand.dispatch (now : Int) (command : AdminCommand) : AdminCommand :=
  { command with
    state := .dispatched
    dispatchedAt := some now }

def AdminCommand.succeed (now : Int) (resultRef : String) (command : AdminCommand) : AdminCommand :=
  { command with
    state := .succeeded
    resultRef := some resultRef
    errorCode := none
    completedAt := some now }

def AdminCommand.fail (now : Int) (code : String) (command : AdminCommand) : AdminCommand :=
  { command with
    state := .failed
    errorCode := some code
    completedAt := some now }

def dispatch (d : CommandDelivery) (command : AdminCommand) : CommandM Unit :=
  if command.state = .ready then do
    modify fun s => { s with command := s.command.dispatch d.now }
    flush d.dispatched
  else pure ()

/-- The call of the executor, which no rollback undoes. -/
def execute : CommandM CommandExecutionResult := do
  modify fun s => { s with executions := s.executions ++ [{
    commandId := s.command.id
    kind := s.command.kind
    secureParametersRef := s.command.secureParametersRef
    approvals := s.approvals }] }
  MonadExcept.ofExcept d.answer

def CommandExecutionResult.valid (result : CommandExecutionResult) : Bool :=
  PythonText.strip result.resultRef ≠ "" && PythonText.strip result.resultRef = result.resultRef &&
    result.resultRef.length ≤ 1000 && result.summarized

def succeed (d : CommandDelivery) (result : CommandExecutionResult) : CommandM Unit :=
  if result.valid then do
    modify fun s => { s with command := s.command.succeed d.now result.resultRef }
    flush d.succeeded
    flush d.succeededAudit
  else throw resultInvalid

def executeReadyCommand : CommandM Unit := do
  let command ← lockedCommand d
  if command.state ∈ terminalCommandStates then pure ()
  else if command.state ∉ executableStates then throw notReady
  else
    dispatch d command
    let result ← execute d
    succeed d result

/-- `error_code[:120]`, or the code for an empty one. -/
def storedErrorCode (code : String) : String :=
  if code = "" then "ADMIN_COMMAND_EXECUTION_FAILED" else String.ofList (code.toList.take 120)

def failReadyCommand (code : String) : CommandM Unit := do
  let command ← lockedCommand d
  if command.state ∈ terminalCommandStates then pure ()
  else if command.state ∉ executableStates then throw notReadyToFail
  else
    modify fun s => { s with command := s.command.fail d.now (storedErrorCode code) }
    flush d.failed
    flush d.failedAudit

def errorCode : Failure → String
  | .app error => error.code
  | _ => "ADMIN_COMMAND_EXECUTION_FAILED"

def attemptCommand : CommandM Unit :=
  match d.actorId with
  | none => throw workerIdentityUnavailable
  | some _ => executeReadyCommand d

def runAdminCommand : CommandM Unit :=
  tryCatch (attemptCommand d) fun failure => failReadyCommand d (errorCode failure)

/-- What a rollback leaves: the rows as they were, and the calls that have been made. -/
def CommandSession.rollBack (s after : CommandSession) : CommandSession :=
  { s with executions := after.executions }

def deliverCommand (s : CommandSession) (d : CommandDelivery) : CommandSession :=
  match runAdminCommand d s with
  | .ok _ after => if d.commits then after else s.rollBack after
  | .error _ after => s.rollBack after

inductive CommandAction where
  | decide (call : DecisionCall)
  | deliver (d : CommandDelivery)

def stepCommand (s : CommandSession) : CommandAction → CommandSession
  | .decide call => ((decideCommand s call).toOption).getD s
  | .deliver d => deliverCommand s d

def approving (approvals : List AdminCommandApproval) : List AdminCommandApproval :=
  approvals.filter fun row => row.decision = .approve

/-- As many different operators as the command requires have approved it, each with a verified
second factor and none of them the requester, and nobody has rejected it. -/
structure EnoughApprovers (command : AdminCommand) (approvals : List AdminCommandApproval) :
    Prop where
  enough : command.requiredApprovals ≤ (approving approvals).length
  distinct : ((approving approvals).map AdminCommandApproval.approverId).Nodup
  verified : ∀ row ∈ approving approvals, row.mfaVerified = true
  separate : ∀ row ∈ approving approvals, row.approverId ≠ command.requestedBy
  unrejected : ∀ row ∈ approvals, row.decision ≠ .reject

/-- The states from which no decision leads back. -/
def workStates : List AdminCommandState := [.ready, .dispatched, .succeeded, .failed]

structure CommandInvariant (s : CommandSession) : Prop where
  counted : s.command.approvalCount = (approving s.approvals).length
  bounded : s.command.approvalCount ≤ s.command.requiredApprovals
  distinct : (s.approvals.map AdminCommandApproval.approverId).Nodup
  verified : ∀ row ∈ s.approvals, row.mfaVerified = true
  separate : ∀ row ∈ s.approvals, row.approverId ≠ s.command.requestedBy
  pending : s.command.state = .pendingApproval → s.command.approvalCount < s.command.requiredApprovals ∧
      ∀ row ∈ s.approvals, row.decision ≠ .reject
  working : s.command.state ∈ workStates → s.command.requiredApprovals ≤ s.command.approvalCount ∧
      ∀ row ∈ s.approvals, row.decision ≠ .reject
  executions : ∀ call ∈ s.executions, EnoughApprovers s.command call.approvals

section Invariant

variable {s t : CommandSession}

theorem mem_of_mem_approving {row : AdminCommandApproval} {approvals : List AdminCommandApproval}
    (h : row ∈ approving approvals) : row ∈ approvals :=
  mem_of_mem_filter h

theorem CommandInvariant.enoughApprovers (h : CommandInvariant s)
    (hstate : s.command.state ∈ workStates) : EnoughApprovers s.command s.approvals where
  enough := h.counted ▸ (h.working hstate).1
  distinct := (filter_sublist.map _).nodup h.distinct
  verified row hrow := h.verified row (mem_of_mem_approving hrow)
  separate row hrow := h.separate row (mem_of_mem_approving hrow)
  unrejected := (h.working hstate).2

/-- What an accepted decision has found and left. -/
structure Decided (s : CommandSession) (call : DecisionCall) (t : CommandSession) : Prop where
  state : s.command.state = .pendingApproval
  separate : call.operatorId ≠ s.command.requestedBy
  fresh : call.operatorId ∉ s.approvals.map AdminCommandApproval.approverId
  command : t.command = s.command.decide call.decision
  approvals : t.approvals = s.approvals ++ [{
    approverId := call.operatorId
    decision := call.decision
    reason := call.reason
    mfaVerified := true }]
  executions : t.executions = s.executions

theorem decideCommand_ok {call : DecisionCall} (h : decideCommand s call = .ok t) : Decided s call t := by
  obtain ⟨_, -, h⟩ := bind_ok h
  obtain ⟨_, -, h⟩ := bind_ok h
  obtain ⟨_, hpending, h⟩ := bind_ok h
  obtain ⟨_, hduties, h⟩ := bind_ok h
  obtain ⟨_, -, h⟩ := bind_ok h
  cases h
  have hapart := not_or.mp (require_ok hduties)
  exact {
    state := require_ok hpending
    separate := fun hsame => hapart.1 hsame.symm
    fresh := hapart.2
    command := rfl
    approvals := rfl
    executions := rfl }

theorem requestedBy_decide (decision : AdminApprovalDecision) (command : AdminCommand) :
    (command.decide decision).requestedBy = command.requestedBy := by
  cases decision <;> rfl

theorem required_decide (decision : AdminApprovalDecision) (command : AdminCommand) :
    (command.decide decision).requiredApprovals = command.requiredApprovals := by
  cases decision <;> rfl

theorem EnoughApprovers.of_same {command other : AdminCommand} {approvals : List AdminCommandApproval}
    (h : EnoughApprovers command approvals) (hrequired : other.requiredApprovals = command.requiredApprovals)
    (hrequested : other.requestedBy = command.requestedBy) : EnoughApprovers other approvals where
  enough := hrequired ▸ h.enough
  distinct := h.distinct
  verified := h.verified
  separate := hrequested ▸ h.separate
  unrejected := h.unrejected

theorem Decided.invariant {call : DecisionCall} (hdecided : Decided s call t)
    (h : CommandInvariant s) : CommandInvariant t := by
  obtain ⟨hbelow, hunrejected⟩ := h.pending hdecided.state
  have hcounted := h.counted
  have hrequired : t.command.requiredApprovals = s.command.requiredApprovals := by
    rw [hdecided.command, required_decide]
  have hrequested : t.command.requestedBy = s.command.requestedBy := by
    rw [hdecided.command, requestedBy_decide]
  have hmem : ∀ row ∈ t.approvals, row ∈ s.approvals ∨ row.approverId = call.operatorId ∧
      row.decision = call.decision ∧ row.mfaVerified = true := by
    intro row hrow
    rw [hdecided.approvals] at hrow
    rcases mem_append.mp hrow with hrow | hrow
    · exact .inl hrow
    · rw [mem_singleton.mp hrow]
      exact .inr ⟨rfl, rfl, rfl⟩
  have hcount : (approving t.approvals).length = (approving s.approvals).length +
      if call.decision = .approve then 1 else 0 := by
    rw [hdecided.approvals, approving, filter_append, length_append]
    cases call.decision <;> rfl
  have hopen : call.decision = .approve → ∀ row ∈ t.approvals, row.decision ≠ .reject := by
    intro hdecision row hrow
    rcases hmem row hrow with hrow | ⟨-, hsame, -⟩
    · exact hunrejected row hrow
    · rw [hsame, hdecision]
      decide
  constructor
  · rw [hdecided.command, hcount, ← hcounted]
    cases call.decision <;> rfl
  · rw [hrequired, hdecided.command]
    cases call.decision with
    | approve => exact hbelow
    | reject => exact Nat.le_of_lt hbelow
  · rw [hdecided.approvals]
    simpa using h.distinct.concat hdecided.fresh
  · intro row hrow
    rcases hmem row hrow with hrow | ⟨-, -, hverified⟩
    · exact h.verified row hrow
    · exact hverified
  · intro row hrow
    rw [hrequested]
    rcases hmem row hrow with hrow | ⟨happrover, -, -⟩
    · exact h.separate row hrow
    · rw [happrover]
      exact hdecided.separate
  · intro hstate
    rw [hdecided.command] at hstate
    rw [hrequired, hdecided.command]
    cases hdecision : call.decision with
    | reject =>
      rw [hdecision] at hstate
      cases hstate
    | approve =>
      rw [hdecision] at hstate
      refine ⟨?_, hopen hdecision⟩
      by_contra hfull
      have hready : (s.command.decide .approve).state = .ready := if_pos (Nat.not_lt.mp hfull)
      cases hready.symm.trans hstate
  · intro hstate
    rw [hdecided.command] at hstate
    rw [hrequired, hdecided.command]
    cases hdecision : call.decision with
    | reject =>
      rw [hdecision] at hstate
      exact absurd hstate (by simp [AdminCommand.decide, workStates])
    | approve =>
      rw [hdecision] at hstate
      refine ⟨?_, hopen hdecision⟩
      by_contra hfew
      have hkept : (s.command.decide .approve).state = .pendingApproval :=
        (if_neg hfew).trans hdecided.state
      rw [hkept] at hstate
      exact absurd hstate (by decide)
  · intro execution hexecution
    rw [hdecided.executions] at hexecution
    exact (h.executions execution hexecution).of_same hrequired hrequested

/-- What the worker may do to a command at work. -/
structure Moves (s t : CommandSession) : Prop where
  approvals : t.approvals = s.approvals
  required : t.command.requiredApprovals = s.command.requiredApprovals
  requestedBy : t.command.requestedBy = s.command.requestedBy
  count : t.command.approvalCount = s.command.approvalCount
  state : s.command.state ∈ workStates → t.command.state ∈ workStates
  calls : ∃ more, t.executions = s.executions ++ more ∧ ∀ call ∈ more, call.approvals = s.approvals

instance : IsPreorder CommandSession Moves where
  refl s := ⟨rfl, rfl, rfl, rfl, id, [], (append_nil _).symm, fun _ hcall => nomatch hcall⟩
  trans s t u hst htu := by
    obtain ⟨more, hmore, hcalls⟩ := hst.calls
    obtain ⟨later, hlater, hcallsLater⟩ := htu.calls
    refine ⟨htu.approvals.trans hst.approvals, htu.required.trans hst.required,
      htu.requestedBy.trans hst.requestedBy, htu.count.trans hst.count,
      fun hstate => htu.state (hst.state hstate), more ++ later, ?_, fun call hcall => ?_⟩
    · rw [hlater, hmore, append_assoc]
    · rcases mem_append.mp hcall with hcall | hcall
      · exact hcalls call hcall
      · exact (hcallsLater call hcall).trans hst.approvals

/-- A write of the command's work columns. -/
theorem moves_write {f : AdminCommand → AdminCommand}
    (hrequired : ∀ command, (f command).requiredApprovals = command.requiredApprovals)
    (hrequested : ∀ command, (f command).requestedBy = command.requestedBy)
    (hcount : ∀ command, (f command).approvalCount = command.approvalCount)
    (hstate : ∀ command, (f command).state ∈ workStates) :
    Keeps Moves (modify fun s => { s with command := f s.command } : CommandM PUnit) :=
  keeps_modify fun s => ⟨rfl, hrequired s.command, hrequested s.command, hcount s.command,
    fun _ => hstate s.command, [], (append_nil _).symm, fun _ hcall => nomatch hcall⟩

theorem moves_flush (recording : Recording) : Keeps Moves (flush recording) := by
  cases recording with
  | stored => exact keeps_pure _
  | raised failure => exact keeps_throw _
  | refused =>
    refine keeps_bind (keeps_modify fun s => ?_) fun _ => keeps_throw _
    exact ⟨rfl, rfl, rfl, rfl, id, [], (append_nil _).symm, fun _ hcall => nomatch hcall⟩

variable (d : CommandDelivery)

theorem moves_lockedCommand : Keeps Moves (lockedCommand d) :=
  keeps_bind keeps_get fun _ => keeps_ite (keeps_throw _) (keeps_ite (keeps_throw _)
    (keeps_ite (keeps_throw _) (keeps_pure _)))

theorem moves_dispatch (command : AdminCommand) : Keeps Moves (dispatch d command) :=
  keeps_ite (keeps_bind (moves_write (f := AdminCommand.dispatch d.now) (fun _ => rfl)
    (fun _ => rfl) (fun _ => rfl) fun _ => by simp [AdminCommand.dispatch, workStates])
      fun _ => moves_flush _) (keeps_pure _)

theorem moves_execute : Keeps Moves (execute d) := by
  refine keeps_bind (keeps_modify fun s => ?_) fun _ => keeps_ofExcept _
  refine ⟨rfl, rfl, rfl, rfl, id, _, rfl, fun call hcall => ?_⟩
  rw [mem_singleton.mp hcall]

theorem moves_succeed (result : CommandExecutionResult) : Keeps Moves (succeed d result) :=
  keeps_ite (keeps_bind (moves_write (f := AdminCommand.succeed d.now result.resultRef)
    (fun _ => rfl) (fun _ => rfl) (fun _ => rfl) fun _ => by simp [AdminCommand.succeed, workStates])
      fun _ => keeps_bind (moves_flush _) fun _ => moves_flush _) (keeps_throw _)

theorem moves_executeReadyCommand : Keeps Moves (executeReadyCommand d) :=
  keeps_bind (moves_lockedCommand d) fun command => keeps_ite (keeps_pure _)
    (keeps_ite (keeps_throw _) (keeps_bind (moves_dispatch d command) fun _ =>
      keeps_bind (moves_execute d) fun result => moves_succeed d result))

theorem moves_failReadyCommand (code : String) : Keeps Moves (failReadyCommand d code) :=
  keeps_bind (moves_lockedCommand d) fun _ => keeps_ite (keeps_pure _)
    (keeps_ite (keeps_throw _) (keeps_bind (moves_write
      (f := AdminCommand.fail d.now (storedErrorCode code)) (fun _ => rfl) (fun _ => rfl)
      (fun _ => rfl) fun _ => by simp [AdminCommand.fail, workStates])
        fun _ => keeps_bind (moves_flush _) fun _ => moves_flush _))

theorem moves_runAdminCommand : Keeps Moves (runAdminCommand d) := by
  refine keeps_tryCatch ?_ fun failure => moves_failReadyCommand d _
  unfold attemptCommand
  cases d.actorId with
  | none => exact keeps_throw _
  | some actorId => exact moves_executeReadyCommand d

/-- The lock changes nothing, and what it returns is the row. -/
theorem lockedCommand_ends (s : CommandSession) :
    Ends (lockedCommand d) s fun r t => t = s ∧ ∀ command, r = .ok command → command = s.command := by
  have hthrown : ∀ failure : Failure, Ends (throw failure : CommandM AdminCommand) s fun r t =>
      t = s ∧ ∀ command, r = .ok command → command = s.command :=
    fun failure => ⟨rfl, fun _ hok => nomatch hok⟩
  unfold lockedCommand
  refine (ends_bind _ _ _ _).mpr ?_
  refine ends_ite (fun _ => hthrown _) fun _ => ends_ite (fun _ => hthrown _) fun _ =>
    ends_ite (fun _ => hthrown _) fun _ => ⟨rfl, fun _ hok => (Except.ok.inj hok).symm⟩

section

variable (hstate : s.command.state ∉ executableStates) (d : CommandDelivery)

include hstate

/-- A command that is not to be executed is left alone, whatever would be done with it. -/
theorem idle_command (failure : Failure) (work : AdminCommand → CommandM Unit) :
    Ends (lockedCommand d >>= fun command =>
      if command.state ∈ terminalCommandStates then pure ()
      else if command.state ∉ executableStates then throw failure
      else work command) s fun _ t => t = s := by
  refine (ends_bind _ _ _ _).mpr ((lockedCommand_ends d s).mono fun r t h => ?_)
  obtain ⟨rfl, hcommand⟩ := h
  cases r with
  | error failure => rfl
  | ok command =>
    obtain rfl := hcommand command rfl
    rw [continues_ok]
    refine ends_ite (fun _ => ?_) fun _ => ends_ite (fun _ => ?_) fun hready =>
      absurd (not_not.mp hready) hstate
    · rw [ends_pure]
    · rw [ends_throw]

theorem idle_runAdminCommand : Ends (runAdminCommand d) s fun _ t => t = s := by
  have hattempt : Ends (attemptCommand d) s fun _ t => t = s := by
    unfold attemptCommand
    cases d.actorId with
    | none => exact rfl
    | some actorId => exact idle_command hstate d notReady _
  refine (ends_tryCatch _ _ _ _).mpr (hattempt.mono fun r t h => ?_)
  subst h
  cases r with
  | ok u => rfl
  | error failure => exact idle_command hstate d notReadyToFail _

end

theorem rollBack_self (s : CommandSession) : s.rollBack s = s := rfl

theorem deliverCommand_idle (hstate : s.command.state ∉ executableStates) (d : CommandDelivery) :
    deliverCommand s d = s := by
  have hidle := idle_runAdminCommand hstate d
  unfold deliverCommand
  split
  · rename_i after hrun
    obtain rfl : after = s := hidle.of_ok hrun
    rw [rollBack_self, ite_self]
  · rename_i failure after hrun
    obtain rfl : after = s := hidle.of_error hrun
    rfl

theorem Moves.rollBack (h : Moves s t) : Moves s (s.rollBack t) := ⟨rfl, rfl, rfl, rfl, id, h.calls⟩

theorem moves_deliverCommand (s : CommandSession) (d : CommandDelivery) : Moves s (deliverCommand s d) := by
  unfold deliverCommand
  split
  · rename_i after hrun
    have hmoves : Moves s after := (moves_runAdminCommand d s).of_ok hrun
    split
    · exact hmoves
    · exact hmoves.rollBack
  · rename_i failure after hrun
    have hmoves : Moves s after := (moves_runAdminCommand d s).of_error hrun
    exact hmoves.rollBack

theorem Moves.invariant (hmoves : Moves s t) (h : CommandInvariant s)
    (hstate : s.command.state ∈ workStates) : CommandInvariant t := by
  obtain ⟨more, hmore, hcalls⟩ := hmoves.calls
  have hworking := h.working hstate
  constructor
  · rw [hmoves.count, hmoves.approvals]
    exact h.counted
  · rw [hmoves.count, hmoves.required]
    exact h.bounded
  · rw [hmoves.approvals]
    exact h.distinct
  · rw [hmoves.approvals]
    exact h.verified
  · rw [hmoves.approvals, hmoves.requestedBy]
    exact h.separate
  · intro hpending
    have hmoved := hmoves.state hstate
    rw [hpending] at hmoved
    exact absurd hmoved (by decide)
  · intro _
    rw [hmoves.count, hmoves.required, hmoves.approvals]
    exact hworking
  · intro call hcall
    rw [hmore] at hcall
    rcases mem_append.mp hcall with hcall | hcall
    · exact (h.executions call hcall).of_same hmoves.required hmoves.requestedBy
    · rw [hcalls call hcall]
      exact (h.enoughApprovers hstate).of_same hmoves.required hmoves.requestedBy

theorem executable_work {state : AdminCommandState} (h : state ∈ executableStates) : state ∈ workStates := by
  cases state <;> simp_all [executableStates, workStates]

theorem commandInvariant_step (h : CommandInvariant s) (action : CommandAction) :
    CommandInvariant (stepCommand s action) := by
  cases action with
  | decide call =>
    show CommandInvariant (((decideCommand s call).toOption).getD s)
    cases hcall : decideCommand s call with
    | error failure => exact h
    | ok after => exact (decideCommand_ok hcall).invariant h
  | deliver d =>
    show CommandInvariant (deliverCommand s d)
    by_cases hstate : s.command.state ∈ executableStates
    · exact (moves_deliverCommand s d).invariant h (executable_work hstate)
    · rw [deliverCommand_idle hstate]
      exact h

/-- A command as `create_command` leaves it. -/
structure NewCommand (s : CommandSession) : Prop where
  state : s.command.state = .pendingApproval
  count : s.command.approvalCount = 0
  approvals : s.approvals = []
  executions : s.executions = []

theorem commandInvariant_new (h : NewCommand s) : CommandInvariant s := by
  have hpos := s.command.required_pos
  have hcount := h.count
  constructor
  · rw [h.count, h.approvals]
    rfl
  · omega
  · rw [h.approvals]
    exact nodup_nil
  · simp [h.approvals]
  · simp [h.approvals]
  · intro _
    refine ⟨by omega, by simp [h.approvals]⟩
  · intro hstate
    rw [h.state] at hstate
    exact absurd hstate (by decide)
  · simp [h.executions]

section

variable (hstate : s.command.state ∈ [.succeeded, .failed, .rejected])

include hstate

theorem stepCommand_over (action : CommandAction) : stepCommand s action = s := by
  have hidle : s.command.state ∉ executableStates ∧ s.command.state ≠ .pendingApproval := by
    simp only [mem_cons, not_mem_nil, or_false] at hstate
    rcases hstate with hstate | hstate | hstate <;> rw [hstate] <;> decide
  cases action with
  | deliver d => exact deliverCommand_idle hidle.1 d
  | decide call =>
    show ((decideCommand s call).toOption).getD s = s
    cases hcall : decideCommand s call with
    | error failure => rfl
    | ok after => exact absurd (decideCommand_ok hcall).state hidle.2

theorem run_over (actions : List CommandAction) : run stepCommand s actions = s := by
  induction actions with
  | nil => rfl
  | cons action rest ih => rw [run_cons, stepCommand_over hstate, ih]

end

/-- The executor of a command is only called with enough approvers, the counter is the number of the
approvals and stays within what is required, and a command that is over stays as it is. -/
theorem commands_run_approved (hs : NewCommand s) (actions : List CommandAction) :
    (∀ call ∈ (run stepCommand s actions).executions,
      EnoughApprovers (run stepCommand s actions).command call.approvals) ∧
    (run stepCommand s actions).command.approvalCount =
      (approving (run stepCommand s actions).approvals).length ∧
    (run stepCommand s actions).command.approvalCount ≤
      (run stepCommand s actions).command.requiredApprovals ∧
    ((run stepCommand s actions).command.state ∈ [.succeeded, .failed, .rejected] →
      ∀ more, run stepCommand (run stepCommand s actions) more = run stepCommand s actions) := by
  have h : CommandInvariant (run stepCommand s actions) :=
    invariant_run stepCommand (I := CommandInvariant) (fun _ action h =>
      commandInvariant_step h action) (commandInvariant_new hs) actions
  exact ⟨h.executions, h.counted, h.bounded, fun hstate more => run_over hstate more⟩

end Invariant

section Sample

/-- A command for which two operators have to vote. -/
def sampleCommand : CommandSession where
  command := {
    id := 1
    targetWorkspaceId := some 7
    requestedBy := 10
    kind := "JOB_RETRY"
    secureParametersRef := none
    requiredApprovals := 2
    required_pos := Nat.succ_pos 1 }

def approvalBy (operatorId : Uuid) : CommandAction := .decide {
  operatorId := operatorId
  commandId := 1
  decision := .approve
  reason := "checked"
  mfaVerified := true
  takes := true }

def sampleCommandDelivery (answer : Except Failure CommandExecutionResult) (commits : Bool) :
    CommandAction := .deliver {
  commandId := 1
  targetWorkspaceId := some 7
  actorId := some 99
  now := 5
  answer := answer
  dispatched := .stored
  succeeded := .stored
  succeededAudit := .stored
  failed := .stored
  failedAudit := .stored
  commits := commits }

/-- A delivery comes too early, one is lost at its commit, and the command runs again. -/
def sampleHistory : List CommandAction := [
  approvalBy 10, approvalBy 11, sampleCommandDelivery (.ok ⟨"ref", true⟩) true, approvalBy 12,
  sampleCommandDelivery (.ok ⟨"ref", true⟩) false, sampleCommandDelivery (.ok ⟨"ref", true⟩) true]

theorem commands_run_approved_sample : (∀ call ∈ (run stepCommand sampleCommand sampleHistory).executions,
      EnoughApprovers (run stepCommand sampleCommand sampleHistory).command call.approvals) ∧
    (run stepCommand sampleCommand sampleHistory).executions.length = 2 ∧
    (run stepCommand sampleCommand sampleHistory).command.state = .succeeded :=
  ⟨(commands_run_approved ⟨rfl, rfl, rfl, rfl⟩ sampleHistory).1, by decide +kernel, by decide +kernel⟩

end Sample

end BlogOps.Admin
