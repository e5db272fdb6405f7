import DBPilot.Lib.Checksum
import DBPilot.Lib.Table
import DBPilot.Lib.Transaction

/-!
# The values of the job store

Jobs, their targets and the command outbox of `internal/job`. Strings are valid
UTF-8 without NUL, as the database keeps them. Times are UTC instants in
nanoseconds since Go's zero time, so that 0 is the zero time. Versions,
revisions and counters are unbounded.

A `jobs` row carries its `job_targets` rows as `targetResults`, in the order the
database returns them. The columns of an outbox row that hold one terminal
target result, and those that hold one terminal audit record, are written
together everywhere and are one field each.
-/

namespace DBPilot.Jobs

open Tables Transactions

abbrev Bytes := List UInt8

abbrev Instant := Int

/-- `TIMESTAMPTZ` keeps microseconds and rounds half to even. -/
def timestamptz (t : Instant) : Instant :=
  let micros := t / 1000
  let rest := t % 1000
  (if rest < 500 ∨ rest = 500 ∧ micros % 2 = 0 then micros else micros + 1) * 1000

lemma timestamptz_eq (t : Int) : timestamptz t =
    (if t % 1000 < 500 ∨ t % 1000 = 500 ∧ t / 1000 % 2 = 0 then t / 1000 else t / 1000 + 1) * 1000 := rfl

lemma timestamptz_mono {t u : Int} (h : t ≤ u) : timestamptz t ≤ timestamptz u := by
  rw [timestamptz_eq t, timestamptz_eq u]
  change (_ : Int) ≤ _
  split <;> split <;> omega

@[simp] lemma timestamptz_timestamptz (t : Instant) : timestamptz (timestamptz t) = timestamptz t := by
  rw [timestamptz_eq (timestamptz t), timestamptz_eq t]
  change (_ : Int) = _
  split <;> split <;> omega

/-- `[32]byte`, and the columns whose length the schema checks. -/
structure Digest where
  bytes : Bytes
  size : bytes.length = 32
  deriving DecidableEq

/-- `sha256.Sum256`. -/
def sum256 (bytes : Bytes) : Digest := ⟨Checksum.sha256 bytes, Checksum.length_sha256 bytes⟩

/-- `unicode.IsSpace`. -/
def isSpace (c : Char) : Bool :=
  c.toNat ∈ [0x9, 0xA, 0xB, 0xC, 0xD, 0x20, 0x85, 0xA0, 0x1680, 0x2028, 0x2029, 0x202F, 0x205F, 0x3000] ||
    0x2000 ≤ c.toNat && c.toNat ≤ 0x200A

/-- `strings.TrimSpace(s) == ""`. -/
def isBlank (s : String) : Bool := s.toList.all isSpace

/-- `s == strings.TrimSpace(s)`. -/
def isTrimmed (s : String) : Bool :=
  !s.toList.head?.any isSpace && !s.toList.getLast?.any isSpace

/-- `strings.ContainsAny(s, "\r\n\t")`. -/
def hasControl (s : String) : Bool := s.toList.any fun c => c = '\r' || c = '\n' || c = '\t'

structure Scope where
  tenantID : String
  projectID : String
  deriving DecidableEq

def Scope.validate (s : Scope) : Bool :=
  s.tenantID != "" && s.projectID != "" && isTrimmed s.tenantID && isTrimmed s.projectID

inductive JobError where
  | notFound
  | conflict
  | invalidTransition
  | invalidCommandPayload
  | invalidScope
  deriving DecidableEq

inductive Status where
  | queued
  | dispatched
  | running
  | succeeded
  | failed
  | cancelling
  | cancelled
  | timedOut
  deriving DecidableEq

inductive Outcome where
  | complete
  | partialOutcome
  | none
  deriving DecidableEq

inductive TargetStatus where
  | queued
  | running
  | succeeded
  | failed
  | skipped
  | cancelled
  | timedOut
  deriving DecidableEq

inductive CommandStatus where
  | pending
  | active
  | succeeded
  | failed
  | cancelled
  | timedOut
  | rejected
  deriving DecidableEq

inductive CommandPhase where
  | pending
  | preparing
  | prepared
  | startAuthorized
  | running
  | cancelling
  | succeeded
  | failed
  | cancelled
  | timedOut
  | rejected
  deriving DecidableEq

structure Progress where
  totalTargets : Int
  completedTargets : Int
  failedTargets : Int
  skippedTargets : Int
  deriving DecidableEq

structure ArtifactReference where
  artifactID : String
  kind : String
  deriving DecidableEq

/-- What a terminal outbox row records of its target. -/
structure TargetEvidence where
  status : TargetStatus
  errorSummary : String
  resultSummary : String
  artifacts : List ArtifactReference
  deriving DecidableEq

structure TargetResult where
  targetID : String
  status : TargetStatus
  errorSummary : String := ""
  resultSummary : String := ""
  artifacts : List ArtifactReference := []
  finishedAt : Option Instant := none
  deriving DecidableEq

def TargetResult.evidence (target : TargetResult) : TargetEvidence :=
  ⟨target.status, target.errorSummary, target.resultSummary, target.artifacts⟩

structure Job where
  id : String
  jobType : String
  scope : Scope
  status : Status
  outcome : Outcome
  targetResourceIDs : List String
  idempotencyKey : String
  version : Int
  progress : Progress
  targetResults : List TargetResult
  errorSummary : String := ""
  resultSummary : String := ""
  artifacts : List ArtifactReference := []
  createdAt : Instant
  dispatchedAt : Option Instant := none
  startedAt : Option Instant := none
  finishedAt : Option Instant := none
  timeoutAt : Option Instant := none
  maxConcurrency : Int := 0
  targetTimeout : Int := 0
  cancelRequestedBy : String := ""
  cancelRequestedAt : Option Instant := none
  deriving DecidableEq

def Job.key (value : Job) : Scope × String := (value.scope, value.id)

structure Transition where
  scope : Scope
  jobID : String
  currentVersion : Int
  toStatus : Status
  progress : Option Progress := none
  targetResults : List TargetResult := []
  errorSummary : String := ""
  resultSummary : String := ""
  /-- `none` is the nil slice, which keeps the job's artifacts. -/
  artifacts : Option (List ArtifactReference) := none
  actor : String := ""
  now : Instant
  deriving DecidableEq

/-- The values the audit details hold; their JSON survives the `JSONB` column. -/
inductive DetailValue where
  | text (value : String)
  | count (value : Nat)
  deriving DecidableEq

/-- An audit detail object, its keys in order. -/
abbrev Detail := List (String × DetailValue)

structure TerminalAudit where
  dedupeKey : String
  action : String
  result : String
  detail : Detail
  deriving DecidableEq

/-- What the lifecycle reads of an unsigned command envelope. -/
structure CommandPayload where
  agentID : String
  leaseSeconds : Nat
  /-- The command is a `ValidateDatabaseInstance`. -/
  validation : Bool
  deriving DecidableEq

/-- A row of `command_outbox`. A column that is NULL, and an empty
`terminal_target_status`, is `none`; a NULL claimed revision is read as 0. -/
structure OutboxMessage where
  id : String
  scope : Scope
  jobID : String
  targetID : String
  payload : CommandPayload
  preparedEnvelope : Option Bytes := none
  availableAt : Instant
  createdAt : Instant
  leasedUntil : Option Instant := none
  publishedAt : Option Instant := none
  attempts : Nat := 0
  commandStatus : CommandStatus := .pending
  acknowledgedAt : Option Instant := none
  executionDeadline : Option Instant := none
  lastHeartbeatAt : Option Instant := none
  recoveryLeasedUntil : Option Instant := none
  cancellationRequestedAt : Option Instant := none
  cancellationReason : String := ""
  cancellationAvailableAt : Option Instant := none
  cancellationLeasedUntil : Option Instant := none
  cancellationAttempts : Nat := 0
  phase : CommandPhase := .pending
  prepareDigest : Option Digest := none
  preparedAt : Option Instant := none
  executionTokenHash : Option Digest := none
  executionTokenCiphertext : Option Bytes := none
  executionRevision : Nat := 0
  recoveryRevision : Nat := 0
  startDeadline : Option Instant := none
  startEnqueuedAt : Option Instant := none
  recoveryClaimToken : Option Digest := none
  recoveryClaimedDeadline : Option Instant := none
  recoveryClaimedRevision : Nat := 0
  terminalResultDigest : Option Digest := none
  terminalAt : Option Instant := none
  terminalAuditPending : Bool := false
  terminalAudit : TerminalAudit := ⟨"", "", "", []⟩
  terminalAuditLeasedUntil : Option Instant := none
  terminalAuditAttempts : Nat := 0
  terminalAuditRecordedAt : Option Instant := none
  terminalTarget : Option TargetEvidence := none
  terminalReconcilePending : Bool := false
  terminalReconcileAvailableAt : Option Instant := none
  terminalReconcileLeasedUntil : Option Instant := none
  terminalReconcileClaimToken : Option Digest := none
  terminalReconcileAttempts : Nat := 0
  terminalReconcileQuarantinedAt : Option Instant := none
  terminalReconcileQuarantineReason : String := ""
  deriving DecidableEq

structure StartGrant where
  commandID : String
  tokenHash : Digest
  tokenCiphertext : Bytes
  executionRevision : Nat
  recoveryRevision : Nat
  startDeadline : Instant
  deriving DecidableEq

structure RecoveryClaim where
  scope : Scope
  commandID : String
  jobID : String
  targetID : String
  claimToken : Digest
  claimedDeadline : Instant
  claimedRecoveryRevision : Nat
  deriving DecidableEq

structure TerminalCommand where
  scope : Scope
  commandID : String
  status : CommandStatus
  target : TargetResult
  audit : TerminalAudit
  now : Instant
  deriving DecidableEq

structure TerminalResultCAS where
  scope : Scope
  commandID : String
  tokenHash : Digest
  expectedExecutionRevision : Nat
  status : CommandStatus
  resultDigest : Digest
  allowTimedOutDigestAttach : Bool
  target : TargetResult
  audit : TerminalAudit
  now : Instant
  deriving DecidableEq

structure TerminalResultOutcome where
  commandID : String
  jobID : String := ""
  targetID : String := ""
  status : CommandStatus
  resultDigest : Option Digest := none
  persisted : Bool := false
  duplicate : Bool := false
  conflict : Bool := false
  deriving DecidableEq

structure TerminalReconcileClaim where
  scope : Scope
  jobID : String
  commandID : String
  token : Digest
  leaseExpiresAt : Instant
  deriving DecidableEq

/-- The phases before a Start is authorised, with the command pending. -/
def CommandPhase.preStart : CommandPhase → Bool
  | .pending | .preparing | .prepared => true
  | _ => false

/-- `start_authorized`, `running` and `cancelling`: a Start fence is in force. -/
def CommandPhase.started : CommandPhase → Bool
  | .startAuthorized | .running | .cancelling => true
  | _ => false

def CommandPhase.terminal : CommandPhase → Bool
  | .succeeded | .failed | .cancelled | .timedOut | .rejected => true
  | _ => false

lemma CommandPhase.terminal_of_ite {c : Prop} [Decidable c] {a b : CommandPhase} (open_ : a.terminal = false)
    (ended : (if c then a else b).terminal = true) : b.terminal = true := by
  split at ended
  · rw [open_] at ended
    cases ended
  · exact ended

def terminalCommandStatus : CommandStatus → Bool
  | .succeeded | .failed | .cancelled | .timedOut | .rejected => true
  | .pending | .active => false

def phaseForCommandStatus : CommandStatus → CommandPhase
  | .succeeded => .succeeded
  | .failed => .failed
  | .cancelled => .cancelled
  | .timedOut => .timedOut
  | .rejected => .rejected
  | .pending | .active => .pending

/-- The command status that goes with a phase. -/
def CommandPhase.status : CommandPhase → CommandStatus
  | .pending | .preparing | .prepared => .pending
  | .startAuthorized | .running | .cancelling => .active
  | .succeeded => .succeeded
  | .failed => .failed
  | .cancelled => .cancelled
  | .timedOut => .timedOut
  | .rejected => .rejected

lemma CommandPhase.cases (phase : CommandPhase) :
    phase.preStart = true ∨ phase.started = true ∨ phase.terminal = true := by
  cases phase <;> simp [preStart, started, terminal]

variable {phase : CommandPhase}

lemma CommandPhase.not_started_of_preStart (h : phase.preStart = true) : phase.started = false := by
  cases phase <;> simp_all [preStart, started]

lemma CommandPhase.not_terminal_of_started (h : phase.started = true) : phase.terminal = false := by
  cases phase <;> simp_all [started, terminal]

lemma CommandPhase.not_terminal_of_preStart (h : phase.preStart = true) : phase.terminal = false := by
  cases phase <;> simp_all [preStart, terminal]

lemma CommandPhase.status_eq_pending : phase.status = .pending ↔ phase.preStart = true := by
  cases phase <;> simp [status, preStart]

lemma CommandPhase.status_eq_active : phase.status = .active ↔ phase.started = true := by
  cases phase <;> simp [status, started]

lemma terminal_phaseForCommandStatus {status : CommandStatus}
    (h : terminalCommandStatus status = true) : (phaseForCommandStatus status).terminal = true := by
  cases status <;> simp_all [terminalCommandStatus, phaseForCommandStatus, CommandPhase.terminal]

structure Database where
  jobs : Table Job Job.key
  outbox : Table OutboxMessage OutboxMessage.id

def Database.empty : Database := ⟨.empty, .empty⟩

abbrev JobTx := Tx Database JobError

end DBPilot.Jobs
