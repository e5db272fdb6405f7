import DBPilot.Jobs.Repository

/-!
# Terminal transactions of validation commands

A command that validates a database instance has its result persisted together
with the instance's own state, and is cancelled when the instance is retired.
Only what these transactions do to the job store is modelled: the outcome that
the instance's state makes effective is a parameter.
-/

namespace DBPilot.Jobs

open Transactions

/-- `agentv1.CommandResultState`. -/
inductive ResultState where
  | succeeded
  | failed
  | cancelled
  | timedOut
  | interrupted
  deriving DecidableEq

def ResultState.name : ResultState → String
  | .succeeded => "COMMAND_RESULT_STATE_SUCCEEDED"
  | .failed => "COMMAND_RESULT_STATE_FAILED"
  | .cancelled => "COMMAND_RESULT_STATE_CANCELLED"
  | .timedOut => "COMMAND_RESULT_STATE_TIMED_OUT"
  | .interrupted => "COMMAND_RESULT_STATE_INTERRUPTED"

/-- The effective outcome: success, or the error code of the failure. -/
structure ValidationResult where
  succeeded : Bool
  errorCode : String
  deriving DecidableEq

def effectiveValidationCommandStatus : ResultState → ValidationResult → CommandStatus
  | .cancelled, _ => .cancelled
  | .timedOut, _ | .interrupted, _ => .timedOut
  | _, effective => if effective.succeeded then .succeeded else .failed

def validationTarget (targetID : String) (incoming : ResultState) (effective : ValidationResult)
    (now : Instant) : TargetResult :=
  let summary := "database instance connection validation "
  match incoming with
  | .cancelled => { targetID := targetID, status := .cancelled,
                    resultSummary := summary ++ "cancelled", finishedAt := some now }
  | .timedOut | .interrupted => { targetID := targetID, status := .timedOut,
                                  resultSummary := summary ++ "timed out", finishedAt := some now }
  | .succeeded | .failed =>
    if effective.succeeded then
      { targetID := targetID, status := .succeeded, resultSummary := summary ++ "succeeded",
        finishedAt := some now }
    else
      { targetID := targetID, status := .failed, errorSummary := effective.errorCode,
        resultSummary := summary ++ "failed", finishedAt := some now }

/-- The state that the audit record names. -/
def validationState (incoming : ResultState) (effective : ValidationResult) : ResultState :=
  match incoming with
  | .cancelled => .cancelled
  | .timedOut | .interrupted => .timedOut
  | .succeeded | .failed => if effective.succeeded then .succeeded else .failed

def validationAudit (commandID : String) (incoming : ResultState) (effective : ValidationResult) :
    TerminalAudit :=
  let state := validationState incoming effective
  let incomingState :=
    if state = incoming then [] else [("incoming_state", DetailValue.text incoming.name)]
  { dedupeKey := "command.result:" ++ commandID
    action := "command.result"
    result := if state = .succeeded then "success" else "failure"
    detail := [("artifact_count", .count 0)] ++ incomingState ++ [("state", .text state.name)] }

namespace RowUpdate

def recordValidation (status : CommandStatus) (input : TerminalResultCAS) : RowUpdate where
  apply row :=
    { release row with
      phase := phaseForCommandStatus status
      commandStatus := status
      terminalResultDigest := some input.resultDigest
      terminalAt := some (row.terminalAt.getD (timestamptz input.now)) }
  keeps _ := rfl

/-- The target result of a validation that the instance's retirement cancels. -/
def retiredEvidence : TargetEvidence :=
  ⟨.cancelled, "", "database instance connection validation cancelled", []⟩

def retire (now : Instant) : RowUpdate where
  apply row :=
    { release row with
      commandStatus := .cancelled
      phase := .cancelled
      terminalAt := some (timestamptz now)
      publishedAt := some (row.publishedAt.getD (timestamptz now))
      leasedUntil := none
      terminalAuditPending := true
      terminalAudit := ⟨"command.validation_cancelled_on_retire:" ++ row.id,
        "command.validation_cancelled_on_retire", "failure", [("reason", .text "instance_retired")]⟩
      terminalAuditLeasedUntil := none
      terminalAuditAttempts := 0
      terminalAuditRecordedAt := none
      terminalTarget := some retiredEvidence
      terminalReconcilePending := false }
  keeps _ := rfl

end RowUpdate

def persistValidationEvidenceTx (scope : Scope) (commandID : String) (status : CommandStatus)
    (target : TargetResult) (audit : TerminalAudit) : JobTx Unit :=
  updateOne (fun row => row.named scope commandID && row.commandStatus = status && row.terminalAt.isSome)
    (.recordEvidence target audit) .conflict

/-- `persistValidationResultWithCommandCASOnce`. -/
def persistValidationResult (jobID : String) (incoming : ResultState)
    (effective : ValidationResult) (input : TerminalResultCAS) : JobTx TerminalResultOutcome := do
  require (input.scope.validate ∧ input.expectedExecutionRevision ≠ 0 ∧ input.now ≠ 0 ∧
    input.status ≠ .rejected) .invalidCommandPayload
  let message ← selectOutbox input.scope input.commandID
  require (message.jobID = jobID) .notFound
  require (fenceMatches message input) .conflict
  let status := effectiveValidationCommandStatus incoming effective
  let target := validationTarget message.targetID incoming effective input.now
  let audit := validationAudit input.commandID incoming effective
  require (evidenceCompatible message target audit) .conflict
  let base : TerminalResultOutcome :=
    { commandID := input.commandID, jobID := jobID, targetID := message.targetID,
      status := message.commandStatus, resultDigest := message.terminalResultDigest }
  if message.phase.started ∨ attaches message input ∧ status = .timedOut then do
    updateOne (fun row => row.named input.scope input.commandID && row.jobID = jobID && fenceMatches row input)
      (.recordValidation status input) .conflict
    persistValidationEvidenceTx input.scope input.commandID status target audit
    return { base with status := status, resultDigest := some input.resultDigest, persisted := true }
  else do
    require message.phase.terminal .conflict
    if message.commandStatus = status ∧ message.terminalResultDigest = some input.resultDigest then do
      persistValidationEvidenceTx input.scope input.commandID status target audit
      return { base with status := status, persisted := true, duplicate := true }
    else return { base with conflict := true }

/-- The job and its only target after the instance was retired. -/
def Job.retired (agentID : String) (now : Instant) (value : Job) : Job :=
  { value with
    status := .cancelled
    outcome := .none
    version := value.version + 1
    progress := ⟨value.progress.totalTargets, 0, 1, 0⟩
    errorSummary := ""
    resultSummary := "database instance connection validation cancelled"
    artifacts := []
    finishedAt := some now
    cancelRequestedBy := "instance-retire"
    cancelRequestedAt := some now
    targetResults := value.targetResults.map fun target =>
      if target.targetID = agentID then
        { targetID := agentID, status := .cancelled,
          resultSummary := "database instance connection validation cancelled",
          finishedAt := some now }
      else target }

def cancelValidationInTx (scope : Scope) (jobID commandID agentID : String) (now : Instant) :
    JobTx Unit := do
  require (scope.validate ∧ !isBlank jobID ∧ !isBlank commandID ∧ !isBlank agentID ∧ now ≠ 0) .invalidCommandPayload
  let value ← selectJob scope jobID
  require (value.jobType = "database_instance.validate" ∧ value.progress.totalTargets = 1 ∧
    isTerminal value.status = false) .conflict
  let message ← selectOutbox scope commandID
  require (message.jobID = jobID) .notFound
  require (message.targetID = agentID) .conflict
  require ((targetFor value.targetResults agentID).isSome) .conflict
  writeJob (value.retired agentID now)
  updateOne (fun row => row.named scope commandID && row.jobID = jobID &&
      (row.commandStatus = .pending || row.commandStatus = .active || row.commandStatus = .rejected))
    (.retire now) .conflict

end DBPilot.Jobs
