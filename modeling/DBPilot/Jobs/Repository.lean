import DBPilot.Jobs.Transition
import Mathlib.Data.List.Sort

/-!
# The PostgreSQL repository

Each function is one transaction of `postgres.go`: the statements it makes in
order, with the condition of every UPDATE and the columns it writes. A parameter
that the database stores as a time is rounded as the column rounds it.

A claiming query takes as `chosen` the rows that ORDER BY, LIMIT and SKIP LOCKED
leave it; the condition of the query is checked on each of them. Random tokens
are parameters. Failures of the database itself are not modelled: they roll the
transaction back.
-/

namespace DBPilot.Jobs

open Tables Transactions

def defaultOutboxLease : Int := 30 * second
def terminalReconcileLease : Int := 30 * second
def terminalReconcileMaxAttempts : Nat := 8
def maximumInlineResultSummary : Nat := 4096
def maximumTimeoutSeconds : Nat := 24 * 60 * 60

namespace OutboxMessage

/-- `tenant_id = $1 AND project_id = $2 AND id = $3`. -/
def named (scope : Scope) (id : String) (row : OutboxMessage) : Bool :=
  row.id = id && row.scope = scope

/-- A nullable time at or before `now`, or none. -/
def lapsed (until_ : Option Instant) (now : Instant) : Bool := until_.all (· ≤ now)

end OutboxMessage

/-- The columns an UPDATE writes, which never include the id. -/
abbrev RowUpdate := Rewrite OutboxMessage.id

namespace RowUpdate

def leaseOutbox (now : Instant) : RowUpdate where
  apply row :=
    { row with
      leasedUntil := some (timestamptz (now + defaultOutboxLease))
      attempts := row.attempts + 1 }
  keeps _ := rfl

def leaseCancellation (now : Instant) : RowUpdate where
  apply row :=
    { row with
      cancellationLeasedUntil := some (timestamptz (now + defaultOutboxLease))
      cancellationAttempts := row.cancellationAttempts + 1 }
  keeps _ := rfl

def leaseTerminalAudit (now : Instant) : RowUpdate where
  apply row :=
    { row with
      terminalAuditLeasedUntil := some (timestamptz (now + defaultOutboxLease))
      terminalAuditAttempts := row.terminalAuditAttempts + 1 }
  keeps _ := rfl

def leaseRecovery (now : Instant) : RowUpdate where
  apply row :=
    { row with recoveryLeasedUntil := some (timestamptz (now + defaultOutboxLease)) }
  keeps _ := rfl

def deferPrepare (now : Instant) : RowUpdate where
  apply row :=
    { row with leasedUntil := none, availableAt := max row.availableAt (timestamptz (now + second)) }
  keeps _ := rfl

def reserve : RowUpdate where
  apply row :=
    { row with phase := .preparing }
  keeps _ := rfl

def publish (now : Instant) : RowUpdate where
  apply row :=
    { row with publishedAt := some (row.publishedAt.getD (timestamptz now)), leasedUntil := none }
  keeps _ := rfl

def prepareEnvelope (proposed : Bytes) : RowUpdate where
  apply row :=
    { row with
      preparedEnvelope := some (row.preparedEnvelope.getD proposed)
      phase := if row.phase = .pending then .preparing else row.phase }
  keeps _ := rfl

def prepare (digest : Digest) (now : Instant) : RowUpdate where
  apply row :=
    { row with
      phase := .prepared
      prepareDigest := some (row.prepareDigest.getD digest)
      preparedAt := some (row.preparedAt.getD (timestamptz now))
      publishedAt := some (row.publishedAt.getD (timestamptz now))
      leasedUntil := none }
  keeps _ := rfl

def authorize (tokenHash : Digest) (tokenCiphertext : Bytes) (now deadline : Instant) : RowUpdate where
  apply row :=
    { row with
      phase := .startAuthorized
      commandStatus := .active
      executionTokenHash := some tokenHash
      executionTokenCiphertext := some tokenCiphertext
      executionRevision := 1
      recoveryRevision := 1
      startDeadline := some (timestamptz deadline)
      executionDeadline := some (timestamptz deadline)
      lastHeartbeatAt := some (timestamptz now)
      recoveryClaimToken := none
      recoveryClaimedDeadline := none
      recoveryClaimedRevision := 0
      recoveryLeasedUntil := none }
  keeps _ := rfl

def enqueueStart (now : Instant) : RowUpdate where
  apply row :=
    { row with startEnqueuedAt := some (row.startEnqueuedAt.getD (timestamptz now)) }
  keeps _ := rfl

def renew (now deadline : Instant) : RowUpdate where
  apply row :=
    { row with
      phase := if row.phase = .startAuthorized then .running else row.phase
      recoveryRevision := row.recoveryRevision + 1
      lastHeartbeatAt := some (timestamptz now)
      executionDeadline := some (timestamptz deadline)
      startEnqueuedAt := some (row.startEnqueuedAt.getD (timestamptz now))
      recoveryClaimToken := none
      recoveryClaimedDeadline := none
      recoveryClaimedRevision := 0
      recoveryLeasedUntil := none }
  keeps _ := rfl

def renewLease (now deadline : Instant) : RowUpdate where
  apply row :=
    { row with
      lastHeartbeatAt := some (timestamptz now)
      executionDeadline := some (timestamptz deadline)
      recoveryLeasedUntil := none }
  keeps _ := rfl

def claimRecovery (tokens : List (String × Digest)) (now : Instant) : RowUpdate where
  apply row :=
    { row with
      recoveryClaimToken := tokens.lookup row.id
      recoveryClaimedDeadline := row.executionDeadline
      recoveryClaimedRevision := row.recoveryRevision
      recoveryLeasedUntil := some (timestamptz (now + defaultOutboxLease)) }
  keeps _ := rfl

def requestCancellation (now : Instant) (reason : String) : RowUpdate where
  apply row :=
    { row with
      cancellationRequestedAt := some (row.cancellationRequestedAt.getD (timestamptz now))
      cancellationReason := if row.cancellationRequestedAt = none then reason else row.cancellationReason
      cancellationAvailableAt := some (row.cancellationAvailableAt.getD (timestamptz now))
      leasedUntil := none
      phase := if row.phase.started then .cancelling else row.phase }
  keeps _ := rfl

def deferCancellation (availableAt : Instant) : RowUpdate where
  apply row :=
    { row with
      cancellationAvailableAt := some (timestamptz availableAt)
      cancellationLeasedUntil := none }
  keeps _ := rfl

/-- The leases and claims that end with the command. -/
def release : RowUpdate where
  apply row :=
    { row with
      executionDeadline := none
      recoveryLeasedUntil := none
      recoveryClaimToken := none
      recoveryClaimedDeadline := none
      recoveryClaimedRevision := 0
      cancellationLeasedUntil := none }
  keeps _ := rfl

def markTerminal (status : CommandStatus) (now : Instant) : RowUpdate where
  apply row :=
    { release row with
      commandStatus := status
      phase := phaseForCommandStatus status
      terminalAt := some (row.terminalAt.getD (timestamptz now))
      publishedAt := some (row.publishedAt.getD (timestamptz now))
      leasedUntil := none }
  keeps _ := rfl

/-- The columns of the terminal evidence. -/
def recordEvidence (target : TargetResult) (audit : TerminalAudit) : RowUpdate where
  apply row :=
    { row with
      terminalTarget := some target.evidence
      terminalReconcilePending := true
      terminalAuditPending := row.terminalAuditRecordedAt.isNone
      terminalAudit := audit
      terminalAuditLeasedUntil :=
        if row.terminalAuditRecordedAt = none then none else row.terminalAuditLeasedUntil }
  keeps _ := rfl

def persistTerminal (input : TerminalCommand) : RowUpdate where
  apply row :=
    { recordEvidence input.target input.audit (markTerminal input.status input.now row) with
      acknowledgedAt :=
        if input.status = .rejected then some (row.acknowledgedAt.getD (timestamptz input.now))
        else row.acknowledgedAt }
  keeps _ := rfl

def recordResult (input : TerminalResultCAS) : RowUpdate where
  apply row :=
    { release row with
      phase := phaseForCommandStatus input.status
      commandStatus := input.status
      terminalResultDigest := some input.resultDigest
      terminalAt := some (timestamptz input.now) }
  keeps _ := rfl

def attachDigest (digest : Digest) : RowUpdate where
  apply row :=
    { row with terminalResultDigest := some digest }
  keeps _ := rfl

/-- The target result of a timeout worker. -/
def timeoutEvidence : TargetEvidence := ⟨.timedOut, "execution lease expired", "", []⟩

/-- The terminal columns both timeout workers write. -/
def timeOut (now : Instant) (audit : TerminalAudit) : RowUpdate where
  apply row :=
    { row with
      phase := .timedOut
      commandStatus := .timedOut
      terminalAt := some (timestamptz now)
      executionDeadline := none
      recoveryLeasedUntil := none
      cancellationLeasedUntil := none
      terminalAuditPending := true
      terminalAudit := audit
      terminalAuditLeasedUntil := none
      terminalAuditAttempts := 0
      terminalAuditRecordedAt := none
      terminalTarget := some timeoutEvidence
      terminalReconcilePending := false }
  keeps _ := rfl

def executionTimeoutAudit (id : String) : TerminalAudit :=
  ⟨"command.execution_timed_out:" ++ id, "command.execution_timed_out", "failure",
    [("reason", .text "execution_deadline")]⟩

def expireExecution (now : Instant) : RowUpdate where
  apply row :=
    { timeOut now (executionTimeoutAudit row.id) row with
      recoveryClaimToken := none
      recoveryClaimedDeadline := none
      recoveryClaimedRevision := 0 }
  keeps _ := rfl

/-- `expiry` is the JSON text of the envelope's expiry. -/
def preparedExpiryAudit (id expiry : String) : TerminalAudit :=
  ⟨"command.prepared_envelope_expired:" ++ id, "command.prepared_envelope_expired", "failure",
    [("expires_at", .text expiry), ("reason", .text "prepare_envelope_expiry")]⟩

def expirePrepared (now : Instant) (expiry : String) : RowUpdate where
  apply row := { timeOut now (preparedExpiryAudit row.id expiry) row with leasedUntil := none }
  keeps _ := rfl

def recordAudit (now : Instant) : RowUpdate where
  apply row :=
    { row with
      terminalAuditPending := false
      terminalAuditLeasedUntil := none
      terminalAuditRecordedAt := some (row.terminalAuditRecordedAt.getD (timestamptz now)) }
  keeps _ := rfl

def leaseReconcile (token : Digest) (now : Instant) : RowUpdate where
  apply row :=
    { row with
      terminalReconcileLeasedUntil := some (timestamptz (now + terminalReconcileLease))
      terminalReconcileClaimToken := some token
      terminalReconcileAttempts := row.terminalReconcileAttempts + 1 }
  keeps _ := rfl

def completeReconcile (target : TargetResult) : RowUpdate where
  apply row :=
    { row with
      terminalTarget := some target.evidence
      terminalReconcilePending := false
      terminalReconcileAvailableAt := none
      terminalReconcileLeasedUntil := none
      terminalReconcileClaimToken := none
      terminalReconcileQuarantinedAt := none
      terminalReconcileQuarantineReason := "" }
  keeps _ := rfl

/-- `reason` is empty for an error worth retrying. -/
def failReconcile (reason : String) (now : Instant) : RowUpdate where
  apply row :=
    let exhausted := terminalReconcileMaxAttempts ≤ row.terminalReconcileAttempts
    let quarantined := reason ≠ "" ∨ exhausted
    { row with
      terminalReconcileLeasedUntil := none
      terminalReconcileClaimToken := none
      terminalReconcileAvailableAt :=
        if quarantined then row.terminalReconcileAvailableAt
        else some (timestamptz now + (min row.terminalReconcileAttempts 60 : Nat) * second)
      terminalReconcileQuarantinedAt :=
        if quarantined then some (row.terminalReconcileQuarantinedAt.getD (timestamptz now)) else none
      terminalReconcileQuarantineReason :=
        if reason ≠ "" then reason else if exhausted then "retry_exhausted" else "" }
  keeps _ := rfl

end RowUpdate

/-! ## Statements -/

def findOutbox (scope : Scope) (id : String) (e : JobError) : JobTx OutboxMessage :=
  fetch (fun db => (db.outbox.find? id).filter fun row => row.scope = scope) e

def selectOutbox (scope : Scope) (id : String) : JobTx OutboxMessage := findOutbox scope id .notFound

def selectJob (scope : Scope) (id : String) : JobTx Job :=
  fetch (fun db => db.jobs.find? (scope, id)) .notFound

/-- Rewrite the rows that satisfy the condition; the number of rows affected. -/
def updateOutbox (condition : OutboxMessage → Bool) (set : RowUpdate) : JobTx Nat :=
  fun db => .ok (db.outbox.rows.countP condition, { db with outbox := db.outbox.update condition set })

/-- `execScopedCommand` and the UPDATEs checked by RowsAffected. -/
def updateOne (condition : OutboxMessage → Bool) (set : RowUpdate) (e : JobError) : JobTx Unit := do
  let affected ← updateOutbox condition set
  require (affected = 1) e

/-- A claiming query: the claimed rows as they are afterwards. -/
def claimRows (candidate : OutboxMessage → Bool) (set : RowUpdate) (chosen : List String) :
    JobTx (List OutboxMessage) := do
  let claimed ← inspect fun db =>
    (db.outbox.rows.filter fun row => chosen.contains row.id && candidate row).map set
  let _ ← updateOutbox (fun row => chosen.contains row.id && candidate row) set
  return claimed

/-- `scanJob` followed by `getTargetsFrom`. -/
def loadJob (scope : Scope) (id : String) : JobTx Job := do
  let row ← selectJob scope id
  require (validateExecutionLimits row) .invalidTransition
  return { row with targetResourceIDs := row.targetResults.map (·.targetID) }

def Job.stored (value : Job) : Job :=
  { value with
    createdAt := timestamptz value.createdAt
    dispatchedAt := value.dispatchedAt.map timestamptz
    startedAt := value.startedAt.map timestamptz
    finishedAt := value.finishedAt.map timestamptz
    timeoutAt := value.timeoutAt.map timestamptz
    cancelRequestedAt := value.cancelRequestedAt.map timestamptz
    targetResults := value.targetResults.map fun target =>
      { target with finishedAt := target.finishedAt.map timestamptz } }

/-- `updateJobSQL` and the upserts of the target rows. -/
def writeJob (value : Job) : JobTx Unit :=
  write fun db => { db with jobs := db.jobs.put value.stored }

/-! ## Jobs -/

def get (scope : Scope) (id : String) : JobTx Job := do
  require (scope.validate) .invalidScope
  require (!isBlank id) .notFound
  let value ← loadJob scope id
  attempt (validateTargets value)
  return value

def transitionInTx (transition : Transition) : JobTx Job := do
  let current ← loadJob transition.scope transition.jobID
  let currentVersion :=
    if transition.currentVersion = 0 then current.version else transition.currentVersion
  let next ← attempt (applyTransition current { transition with currentVersion := currentVersion })
  writeJob next
  return next

def transition (value : Transition) : JobTx Job := do
  require value.scope.validate .invalidScope
  transitionInTx value

def cancellationReason : String := "job cancellation requested"

def requestCancel (scope : Scope) (id actor : String) (currentVersion : Int) (now : Instant) :
    JobTx Job := do
  require (scope.validate ∧ !isBlank id ∧ !isBlank actor ∧ 1 ≤ currentVersion ∧ now ≠ 0) .invalidTransition
  let next ← transitionInTx
    { scope := scope, jobID := id, currentVersion := currentVersion, toStatus := .cancelling,
      actor := actor, now := now }
  let _ ← updateOutbox
    (fun row => row.scope = scope && row.jobID = id && (row.commandStatus = .pending || row.commandStatus = .active))
    (.requestCancellation now cancellationReason)
  return next

/-! ## Creation -/

/-- A message that `validateOutboxMessage` accepts for a job has nothing set but
these fields; what command validation makes of the payload is left open. -/
structure NewMessage where
  id : String
  targetID : String
  payload : CommandPayload
  availableAt : Instant
  createdAt : Instant
  deriving DecidableEq

def validateNewJob (value : Job) : Bool :=
  value.scope.validate && !isBlank value.id && !isBlank value.jobType &&
    !isBlank value.idempotencyKey && value.status = .queued && value.outcome = .none &&
    1 ≤ value.version && value.createdAt ≠ 0 && validProgressChange value.progress value.progress &&
    validateTargets value = .ok ()

def validateOutboxMessage (value : Job) (message : NewMessage) : Bool :=
  !isBlank message.id && isTrimmed message.id &&
    containsTarget value.targetResourceIDs message.targetID && message.createdAt ≠ 0 &&
    message.availableAt ≠ 0 && message.payload.agentID = message.targetID &&
    1 ≤ message.payload.leaseSeconds && message.payload.leaseSeconds ≤ maximumTimeoutSeconds

def initialTargets (value : Job) : List TargetResult :=
  value.targetResourceIDs.map fun id =>
    (targetFor value.targetResults id).getD { targetID := id, status := .queued }

/-- The inserted `jobs` row; a limit that is not positive is stored as NULL and
read back as 0, a target timeout is stored in whole seconds. -/
def insertedJob (value : Job) : Job :=
  { value.stored with
    targetResults := ((initialTargets value).map fun target =>
        { target with finishedAt := target.finishedAt.map timestamptz }).insertionSort
      fun left right => left.targetID ≤ right.targetID
    maxConcurrency := max 0 value.maxConcurrency
    targetTimeout := max 0 (value.targetTimeout / second) * second }

def insertedMessage (value : Job) (message : NewMessage) : OutboxMessage where
  id := message.id
  scope := value.scope
  jobID := value.id
  targetID := message.targetID
  payload := message.payload
  availableAt := timestamptz message.availableAt
  createdAt := timestamptz message.createdAt

def insertOutbox (value : Job) : List NewMessage → JobTx Unit
  | [] => pure ()
  | message :: rest => do
    let outbox ← fetch (fun db => db.outbox.insert? (insertedMessage value message)) .conflict
    write fun db => { db with outbox := outbox }
    insertOutbox value rest

def createInTx (value : Job) (messages : List NewMessage) : JobTx Unit := do
  require (validateNewJob value) .invalidTransition
  require (messages.all (validateOutboxMessage value)) .invalidCommandPayload
  let taken ← inspect fun db => db.jobs.rows.any fun row => row.scope = value.scope &&
    row.idempotencyKey = value.idempotencyKey && row.jobType = value.jobType
  require (taken = false) .conflict
  let jobs ← fetch (fun db => db.jobs.insert? (insertedJob value)) .conflict
  write fun db => { db with jobs := jobs }
  insertOutbox value messages

/-! ## Delivery -/

def claimOutbox (chosen : List String) (now : Instant) : JobTx (List OutboxMessage) := do
  require (now ≠ 0) .invalidCommandPayload
  claimRows (fun row => row.publishedAt = none && row.cancellationRequestedAt = none &&
      row.commandStatus = .pending && row.availableAt ≤ timestamptz now &&
      OutboxMessage.lapsed row.leasedUntil (timestamptz now))
    (.leaseOutbox now) chosen

def claimPendingCancellations (chosen : List String) (now : Instant) : JobTx (List OutboxMessage) := do
  require (now ≠ 0) .invalidCommandPayload
  claimRows (fun row => row.cancellationRequestedAt.isSome && !row.phase.terminal &&
      row.cancellationAvailableAt.any (· ≤ timestamptz now) &&
      OutboxMessage.lapsed row.cancellationLeasedUntil (timestamptz now))
    (.leaseCancellation now) chosen

def claimPreparedCommands (chosen : List String) (now : Instant) : JobTx (List OutboxMessage) := do
  require (now ≠ 0) .invalidCommandPayload
  claimRows (fun row => (row.phase = .prepared || row.phase = .startAuthorized) &&
      OutboxMessage.lapsed row.leasedUntil (timestamptz now))
    (.leaseOutbox now) chosen

def claimPendingTerminalAudits (chosen : List String) (now : Instant) : JobTx (List OutboxMessage) := do
  require (now ≠ 0) .invalidCommandPayload
  claimRows (fun row => row.terminalAuditPending &&
      OutboxMessage.lapsed row.terminalAuditLeasedUntil (timestamptz now))
    (.leaseTerminalAudit now) chosen

def claimExpiredCommands (chosen : List String) (now : Instant) : JobTx (List OutboxMessage) := do
  require (now ≠ 0) .invalidCommandPayload
  claimRows (fun row => row.publishedAt.isSome &&
      (row.commandStatus = .pending || row.commandStatus = .active) &&
      row.executionDeadline.any (· ≤ timestamptz now) &&
      OutboxMessage.lapsed row.recoveryLeasedUntil (timestamptz now))
    (.leaseRecovery now) chosen

def activePreparePhase (phase : CommandPhase) : Bool :=
  phase = .preparing || phase = .prepared || phase = .startAuthorized || phase = .running || phase = .cancelling

def activeSlots (scope : Scope) (jobID : String) (db : Database) : Nat :=
  db.outbox.rows.countP fun row =>
    row.scope = scope && row.jobID = jobID && activePreparePhase row.phase

/-- A job's limit of 0 is the NULL of an unrestricted job. -/
def reservePrepareSlot (scope : Scope) (commandID : String) (now : Instant) : JobTx Bool := do
  require (scope.validate ∧ !isBlank commandID ∧ now ≠ 0) .invalidCommandPayload
  let message ← selectOutbox scope commandID
  require (message.cancellationRequestedAt = none) .conflict
  let value ← selectJob scope message.jobID
  if value.maxConcurrency = 0 then return true
  else do
    require (1 ≤ value.maxConcurrency ∧ value.maxConcurrency ≤ 1000) .invalidTransition
    if activePreparePhase message.phase then return true
    else do
      require (message.phase = .pending) .conflict
      let active ← inspect (activeSlots scope message.jobID)
      if value.maxConcurrency ≤ active then do
        let _ ← updateOutbox (fun row => row.named scope commandID && row.phase = .pending) (.deferPrepare now)
        return false
      else do
        updateOne (fun row => row.named scope commandID && row.phase = .pending &&
          row.cancellationRequestedAt = none) .reserve .conflict
        return true

def markOutboxPublished (scope : Scope) (id : String) (now : Instant) : JobTx Unit := do
  require scope.validate .invalidScope
  require (!isBlank id ∧ now ≠ 0) .notFound
  updateOne (·.named scope id) (.publish now) .notFound

def lookupCommand (commandID : String) : JobTx OutboxMessage := do
  require (!isBlank commandID) .notFound
  fetch (fun db => db.outbox.find? commandID) .notFound

/-- A stored envelope is never empty, so the check on it after the UPDATE passes. -/
def prepareCommandEnvelope (scope : Scope) (commandID : String) (proposed : Bytes) :
    JobTx Bytes := do
  require (scope.validate ∧ !isBlank commandID ∧ proposed ≠ []) .invalidCommandPayload
  let message ← selectOutbox scope commandID
  updateOne (fun row => row.named scope commandID && row.cancellationRequestedAt = none &&
      (row.phase = .pending || row.phase = .preparing))
    (.prepareEnvelope proposed) .notFound
  return message.preparedEnvelope.getD proposed

/-- A row that the UPDATE does not accept is classified by a second read. -/
def markPrepared (scope : Scope) (commandID : String) (digest : Digest) (now : Instant) :
    JobTx Unit := do
  require (scope.validate ∧ !isBlank commandID ∧ now ≠ 0) .invalidCommandPayload
  let affected ← updateOutbox (fun row => row.named scope commandID &&
      row.cancellationRequestedAt = none && row.phase.preStart &&
      (row.prepareDigest = none || row.prepareDigest = some digest))
    (.prepare digest now)
  if affected = 1 then return ()
  else do
    let message ← selectOutbox scope commandID
    require (message.prepareDigest = some digest ∧ (message.phase = .prepared ∨ message.phase.started)) .conflict

def deferCancellation (scope : Scope) (id : String) (availableAt : Instant) : JobTx Unit :=
  updateOne (fun row => row.named scope id && row.cancellationRequestedAt.isSome &&
      (row.commandStatus = .pending || row.commandStatus = .active))
    (.deferCancellation availableAt) .notFound

/-! ## Execution -/

def startGrantFromStored (message : OutboxMessage) : Except JobError StartGrant :=
  match message.executionTokenHash, message.executionTokenCiphertext, message.startDeadline with
  | some tokenHash, some ciphertext, some deadline =>
    if ciphertext ≠ [] ∧ message.executionRevision ≠ 0 ∧ message.recoveryRevision ≠ 0 then
      .ok ⟨message.id, tokenHash, ciphertext, message.executionRevision, message.recoveryRevision, deadline⟩
    else .error .invalidCommandPayload
  | _, _, _ => .error .invalidCommandPayload

def authorizeStart (scope : Scope) (commandID : String) (expectedDigest tokenHash : Digest)
    (tokenCiphertext : Bytes) (now deadline : Instant) : JobTx StartGrant := do
  require (scope.validate ∧ !isBlank commandID ∧ tokenCiphertext ≠ [] ∧ now ≠ 0 ∧ now < deadline)
    .invalidCommandPayload
  let message ← selectOutbox scope commandID
  let value ← selectJob scope message.jobID
  let target ← fetch (fun _ => targetFor value.targetResults message.targetID) .notFound
  require (isTerminalTarget target.status = false) .conflict
  require (message.prepareDigest = some expectedDigest) .conflict
  if message.phase.started then attempt (startGrantFromStored message)
  else do
    require (value.status ≠ .cancelling ∧ isTerminal value.status = false ∧
      message.cancellationRequestedAt = none) .conflict
    require (message.phase = .prepared) .conflict
    updateOne (fun row => row.named scope commandID && row.phase = .prepared &&
        row.cancellationRequestedAt = none && row.prepareDigest = some expectedDigest)
      (.authorize tokenHash tokenCiphertext now deadline) .conflict
    return ⟨commandID, tokenHash, tokenCiphertext, 1, 1, deadline⟩

def markStartEnqueued (scope : Scope) (commandID : String) (executionRevision : Nat)
    (now : Instant) : JobTx Unit := do
  require (scope.validate ∧ !isBlank commandID ∧ executionRevision ≠ 0 ∧ now ≠ 0) .invalidCommandPayload
  updateOne (fun row => row.named scope commandID && row.executionRevision = executionRevision &&
      (row.phase.started || row.phase.terminal && row.phase ≠ .rejected))
    (.enqueueStart now) .conflict

def renewExecutionLease (scope : Scope) (commandID : String) (tokenHash : Digest)
    (expectedExecutionRevision : Nat) (now deadline : Instant) : JobTx Nat := do
  require (scope.validate ∧ !isBlank commandID ∧ expectedExecutionRevision ≠ 0 ∧ now ≠ 0 ∧
    now < deadline) .invalidCommandPayload
  let message ← findOutbox scope commandID .conflict
  updateOne (fun row => row.named scope commandID && row.phase.started &&
      row.executionTokenHash = some tokenHash &&
      row.executionRevision = expectedExecutionRevision)
    (.renew now deadline) .conflict
  return message.recoveryRevision + 1

def renewCommandLease (scope : Scope) (id : String) (now deadline : Instant) : JobTx Unit := do
  require (now ≠ 0 ∧ now < deadline) .invalidCommandPayload
  updateOne (fun row => row.named scope id && row.commandStatus = .active) (.renewLease now deadline) .notFound

/-! ## Timeouts -/

def expiredExecution (now : Instant) (row : OutboxMessage) : Bool :=
  row.phase.started && row.executionDeadline.any (· ≤ timestamptz now) &&
    (row.recoveryClaimToken = none || row.recoveryLeasedUntil.any (· ≤ timestamptz now))

def recoveryClaimOf (token : Digest) (row : OutboxMessage) : RecoveryClaim where
  scope := row.scope
  commandID := row.id
  jobID := row.jobID
  targetID := row.targetID
  claimToken := token
  claimedDeadline := row.executionDeadline.getD 0
  claimedRecoveryRevision := row.recoveryRevision

/-- `chosen` pairs each row with its random claim token. -/
def claimExpiredExecution (chosen : List (String × Digest)) (now : Instant) : JobTx (List RecoveryClaim) := do
  require (now ≠ 0) .invalidCommandPayload
  let claims ← inspect fun db => (db.outbox.rows.filter (expiredExecution now)).filterMap
    fun row => (chosen.lookup row.id).map (recoveryClaimOf · row)
  let _ ← updateOutbox (fun row => (chosen.lookup row.id).isSome && expiredExecution now row)
    (.claimRecovery chosen now)
  return claims

def matchingRecoveryClaim (message : OutboxMessage) (claim : RecoveryClaim) : Bool :=
  message.phase.started && message.executionDeadline = some claim.claimedDeadline &&
    message.recoveryClaimedDeadline = some claim.claimedDeadline &&
    message.recoveryRevision = claim.claimedRecoveryRevision &&
    message.recoveryClaimedRevision = claim.claimedRecoveryRevision &&
    message.recoveryClaimToken = some claim.claimToken

def targetStep (current : Job) (result : TargetResult) (now : Instant) : Transition where
  scope := current.scope
  jobID := current.id
  currentVersion := current.version
  toStatus := if current.status = .cancelling then .cancelling else .running
  actor := if current.status = .cancelling then current.cancelRequestedBy else ""
  targetResults := [result]
  now := now

def finalStep (current : Job) (now : Instant) : Transition where
  scope := current.scope
  jobID := current.id
  currentVersion := current.version
  toStatus := terminalJobStatus current
  artifacts := some (collectArtifacts current.targetResults)
  resultSummary := "Agent commands completed"
  now := now

/-- A queued job is dispatched before a target of it changes. -/
def dispatchQueued (current : Job) (now : Instant) : JobTx Job :=
  if current.status = .queued then
    transitionInTx { scope := current.scope, jobID := current.id, currentVersion := current.version,
                     toStatus := .dispatched, now := now }
  else return current

/-- A target that is terminal already must have timed out. -/
def timeoutTarget (current : Job) (targetID : String) (now : Instant) : JobTx Job :=
  match (targetFor current.targetResults targetID).filter fun target =>
      isTerminalTarget target.status with
  | some existing => do
    require (existing.status = .timedOut) .conflict
    return current
  | none => transitionInTx (targetStep current
      { targetID := targetID, status := .timedOut, errorSummary := "execution lease expired",
        finishedAt := some now } now)

def timeoutJobTargetInTx (current : Job) (message : OutboxMessage) (now : Instant) : JobTx Job := do
  require (current.id = message.jobID ∧ current.scope = message.scope ∧
    containsTarget current.targetResourceIDs message.targetID) .invalidCommandPayload
  if isTerminal current.status then do
    require (current.status = .timedOut ∧
      (targetFor current.targetResults message.targetID).any (·.status = .timedOut)) .conflict
    return current
  else do
    let current ← dispatchQueued current now
    let current ← timeoutTarget current message.targetID now
    if allTargetsTerminal current then transitionInTx (finalStep current now)
    else return current

def finalizeExpiredExecution (claim : RecoveryClaim) (now : Instant) : JobTx Unit := do
  require (claim.scope.validate ∧ !isBlank claim.commandID ∧ !isBlank claim.jobID ∧
    !isBlank claim.targetID ∧ claim.claimedDeadline ≠ 0 ∧ claim.claimedRecoveryRevision ≠ 0 ∧
    now ≠ 0) .invalidCommandPayload
  let value ← loadJob claim.scope claim.jobID
  let message ← selectOutbox claim.scope claim.commandID
  require (message.jobID = claim.jobID ∧ message.targetID = claim.targetID ∧
    matchingRecoveryClaim message claim) .conflict
  let _ ← timeoutJobTargetInTx value message now
  updateOne (fun row => row.named claim.scope claim.commandID && matchingRecoveryClaim row claim)
    (.expireExecution now) .conflict

def finalizeExpiredPrepared (scope : Scope) (commandID : String) (expectedDigest : Digest)
    (expiresAt : Instant) (expiry : String) (now : Instant) : JobTx Unit := do
  require (scope.validate ∧ !isBlank commandID ∧ expiresAt ≠ 0 ∧ now ≠ 0 ∧ expiresAt ≤ now) .invalidCommandPayload
  let message ← selectOutbox scope commandID
  let value ← loadJob scope message.jobID
  require (message.prepareDigest = some expectedDigest) .conflict
  if message.phase = .timedOut then
    require ((targetFor value.targetResults message.targetID).any (·.status = .timedOut)) .conflict
  else do
    require (message.phase = .prepared) .conflict
    let _ ← timeoutJobTargetInTx value message now
    updateOne (fun row => row.named scope commandID && row.phase = .prepared &&
        row.prepareDigest = some expectedDigest)
      (.expirePrepared now expiry) .conflict

/-! ## Terminal commands and results -/

def validateTerminalCommand (input : TerminalCommand) : Bool :=
  input.scope.validate && !isBlank input.commandID && terminalCommandStatus input.status &&
    input.now ≠ 0 && input.target.targetID != "" && isTerminalTarget input.target.status &&
    terminalTargetMatchesCommand input.target.status input.status &&
    !isBlank input.audit.dedupeKey && !isBlank input.audit.action &&
    (input.audit.result = "success" || input.audit.result = "failure") &&
    [input.target.errorSummary, input.target.resultSummary].all (fun value =>
      value.utf8ByteSize ≤ maximumInlineResultSummary && !hasControl value) &&
    [input.audit.dedupeKey, input.audit.action].all (fun value =>
      value.utf8ByteSize ≤ 512 && !hasControl value) &&
    input.target.artifacts.all fun artifact =>
      !isBlank artifact.artifactID && !isBlank artifact.kind

def markCommandTerminal (scope : Scope) (id : String) (status : CommandStatus) (now : Instant) :
    JobTx Unit := do
  require (terminalCommandStatus status ∧ now ≠ 0) .invalidCommandPayload
  updateOne (fun row => row.named scope id &&
      (row.commandStatus = .pending || row.commandStatus = .active ||
        row.commandStatus = .rejected || row.commandStatus = status))
    (.markTerminal status now) .notFound

/-- The stored target result and audit record are absent or the given ones. -/
def evidenceCompatible (message : OutboxMessage) (target : TargetResult) (audit : TerminalAudit) :
    Bool :=
  (message.terminalTarget = none || message.terminalTarget = some target.evidence) &&
    (message.terminalAudit.dedupeKey = "" || message.terminalAudit = audit)

def terminalEvidenceCompatible (message : OutboxMessage) (input : TerminalCommand) : Bool :=
  evidenceCompatible message input.target input.audit

def persistTerminalCommand (input : TerminalCommand) : JobTx Unit := do
  require (validateTerminalCommand input) .invalidCommandPayload
  let message ← selectOutbox input.scope input.commandID
  let _ ← selectJob input.scope message.jobID
  require (message.targetID = input.target.targetID) .conflict
  require (terminalEvidenceCompatible message input) .conflict
  require (if terminalCommandStatus message.commandStatus then message.commandStatus = input.status
    else input.status = .rejected → message.cancellationRequestedAt = none ∧ message.phase.preStart) .conflict
  updateOne (·.named input.scope input.commandID) (.persistTerminal input) .conflict

def TerminalResultCAS.command (input : TerminalResultCAS) : TerminalCommand where
  scope := input.scope
  commandID := input.commandID
  status := input.status
  target := input.target
  audit := input.audit
  now := input.now

def persistTerminalEvidenceTx (input : TerminalCommand) : JobTx Unit :=
  updateOne (fun row => row.named input.scope input.commandID &&
      row.commandStatus = input.status && row.terminalAt.isSome)
    (.recordEvidence input.target input.audit) .conflict

def fenceMatches (message : OutboxMessage) (input : TerminalResultCAS) : Bool :=
  message.executionTokenHash = some input.tokenHash && message.executionRevision = input.expectedExecutionRevision

/-- A timed out command without a result digest takes the digest of an
interrupted execution and keeps its own evidence. -/
def attaches (message : OutboxMessage) (input : TerminalResultCAS) : Bool :=
  message.phase = .timedOut && message.commandStatus = .timedOut &&
    message.terminalResultDigest = none && input.allowTimedOutDigestAttach

def persistTerminalResult (input : TerminalResultCAS) : JobTx TerminalResultOutcome := do
  require (input.expectedExecutionRevision ≠ 0 ∧ input.status ≠ .rejected ∧
    (input.allowTimedOutDigestAttach → input.status = .timedOut) ∧
    validateTerminalCommand input.command) .invalidCommandPayload
  let message ← selectOutbox input.scope input.commandID
  let _ ← selectJob input.scope message.jobID
  require (message.targetID = input.target.targetID) .conflict
  let base : TerminalResultOutcome :=
    { commandID := input.commandID, jobID := message.jobID, targetID := message.targetID,
      status := message.commandStatus, resultDigest := message.terminalResultDigest }
  if message.phase.terminal then do
    require (fenceMatches message input) .conflict
    if attaches message input then do
      updateOne (fun row => row.named input.scope input.commandID && row.phase = .timedOut &&
          row.commandStatus = .timedOut && row.terminalResultDigest = none &&
          fenceMatches row input)
        (.attachDigest input.resultDigest) .conflict
      return { base with resultDigest := some input.resultDigest, persisted := true, duplicate := true }
    else if message.commandStatus = input.status ∧ message.terminalResultDigest = some input.resultDigest then do
      require (terminalEvidenceCompatible message input.command) .conflict
      persistTerminalEvidenceTx input.command
      return { base with persisted := true, duplicate := true }
    else return { base with conflict := true }
  else do
    require (fenceMatches message input ∧ message.phase.started) .conflict
    updateOne (fun row => row.named input.scope input.commandID && row.phase.started && fenceMatches row input)
      (.recordResult input) .conflict
    persistTerminalEvidenceTx input.command
    return { base with status := input.status, resultDigest := some input.resultDigest,
                       persisted := true }

def markTerminalAuditRecorded (scope : Scope) (commandID dedupeKey : String) (now : Instant) :
    JobTx Unit := do
  require (scope.validate ∧ !isBlank commandID ∧ !isBlank dedupeKey ∧ now ≠ 0) .invalidCommandPayload
  updateOne (fun row => row.named scope commandID && row.terminalAudit.dedupeKey = dedupeKey)
    (.recordAudit now) .notFound

/-! ## Reconciliation -/

def reconcileCandidate (now : Instant) (db : Database) (row : OutboxMessage) : Bool :=
  terminalCommandStatus row.commandStatus && row.terminalReconcileQuarantinedAt = none &&
    (row.terminalReconcileAvailableAt.getD (row.terminalAt.getD row.createdAt) ≤ timestamptz now) &&
    OutboxMessage.lapsed row.terminalReconcileLeasedUntil (timestamptz now) &&
    (db.jobs.find? (row.scope, row.jobID)).any fun value =>
      (targetFor value.targetResults row.targetID).any fun target =>
        row.terminalReconcilePending || !isTerminal value.status || !isTerminalTarget target.status

def reconcileClaimOf (token : Digest) (now : Instant) (row : OutboxMessage) : TerminalReconcileClaim where
  scope := row.scope
  jobID := row.jobID
  commandID := row.id
  token := token
  leaseExpiresAt := timestamptz (now + terminalReconcileLease)

def claimTerminalCommands (chosen : List String) (token : Digest) (now : Instant) :
    JobTx (List TerminalReconcileClaim) := do
  require (now ≠ 0) .invalidCommandPayload
  let candidate ← inspect (reconcileCandidate now)
  let claimed ← claimRows candidate (.leaseReconcile token now) chosen
  return claimed.map (reconcileClaimOf token now)

def terminalTargetFromOutbox (message : OutboxMessage) : Except JobError (TargetResult × Bool) :=
  if terminalCommandStatus message.commandStatus = false ∨ message.terminalAt = none then
    .error .invalidCommandPayload
  else
    let target : TargetResult :=
      match message.terminalTarget with
      | some evidence =>
        { targetID := message.targetID, status := evidence.status,
          errorSummary := evidence.errorSummary, resultSummary := evidence.resultSummary,
          artifacts := evidence.artifacts, finishedAt := message.terminalAt }
      | none =>
        let (status, errorSummary, resultSummary) : TargetStatus × String × String :=
          match message.commandStatus with
          | .succeeded => (.succeeded, "", "Agent command succeeded")
          | .cancelled => (.cancelled, "", "Agent command cancelled")
          | .timedOut => (.timedOut, "command_timed_out", "Agent command failed")
          | .rejected => (.failed, "command_rejected", "Agent command failed")
          | _ => (.failed, "command_failed", "Agent command failed")
        { targetID := message.targetID, status := status, errorSummary := errorSummary,
          resultSummary := resultSummary, finishedAt := message.terminalAt }
    if isTerminalTarget target.status ∧ terminalTargetMatchesCommand target.status message.commandStatus then
      .ok (target, message.terminalTarget.isSome)
    else .error .conflict

def matchingTerminalTarget (stored incoming : TargetResult) : Bool :=
  stored.targetID = incoming.targetID && stored.evidence = incoming.evidence

/-- The target result to store and the job after it. -/
def reconcileTarget (current : Job) (message : OutboxMessage) (target : TargetResult)
    (hasDescriptor : Bool) (now : Instant) : JobTx (TargetResult × Job) := do
  match (targetFor current.targetResults message.targetID).filter
      fun existing => isTerminalTarget existing.status with
  | some existing => do
    require (existing.status = target.status ∧ (hasDescriptor → matchingTerminalTarget existing target)) .conflict
    return (existing, current)
  | none => do
    require (isTerminal current.status = false) .conflict
    let current ← dispatchQueued current now
    let current ← transitionInTx (targetStep current target now)
    return (target, current)

def finishJob (current : Job) (now : Instant) : JobTx Job :=
  if allTargetsTerminal current ∧ isTerminal current.status = false then
    transitionInTx (finalStep current now)
  else return current

def reconcileTerminalCommand (claim : TerminalReconcileClaim) (now : Instant) : JobTx Unit := do
  let current ← loadJob claim.scope claim.jobID
  let message ← selectOutbox claim.scope claim.commandID
  require (message.jobID = claim.jobID) .notFound
  require (message.terminalReconcileClaimToken = some claim.token ∧
    message.terminalReconcileLeasedUntil = some claim.leaseExpiresAt) .conflict
  require (terminalCommandStatus message.commandStatus ∧ message.terminalAt.isSome ∧
    containsTarget current.targetResourceIDs message.targetID) .conflict
  let (target, hasDescriptor) ← attempt (terminalTargetFromOutbox message)
  let (target, current) ← reconcileTarget current message target hasDescriptor now
  let current ← finishJob current now
  require (isTerminal current.status → current.status = terminalJobStatus current) .conflict
  updateOne (fun row => row.named claim.scope claim.commandID && row.jobID = claim.jobID &&
      row.commandStatus = message.commandStatus &&
      row.terminalReconcileClaimToken = some claim.token &&
      row.terminalReconcileLeasedUntil = some claim.leaseExpiresAt)
    (.completeReconcile target) .conflict

def reconcileFailureReason : JobError → String
  | .conflict => "terminal_state_conflict"
  | .invalidCommandPayload | .notFound => "invalid_terminal_state"
  | .invalidTransition | .invalidScope => ""

def recordTerminalReconcileFailure (claim : TerminalReconcileClaim) (now : Instant) (cause : JobError) : JobTx Unit :=
  updateOne (fun row => row.named claim.scope claim.commandID &&
      terminalCommandStatus row.commandStatus &&
      row.terminalReconcileClaimToken = some claim.token &&
      row.terminalReconcileLeasedUntil = some claim.leaseExpiresAt)
    (.failReconcile (reconcileFailureReason cause) now) .conflict

end DBPilot.Jobs
