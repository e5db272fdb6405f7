import DBPilot.Jobs.Validation

/-!
# What each transaction does to a command

`Call` lists the repository transactions with their arguments. `RowStep` says
what one of them can do to one outbox row, with everything it has checked;
`evolves` shows that a committed call moves every row by such a step and adds
only rows of new commands.
-/

namespace DBPilot.Jobs

open Tables Transactions Runs

inductive Call where
  | create (value : Job) (messages : List NewMessage)
  | transition (value : Transition)
  | requestCancel (scope : Scope) (jobID actor : String) (currentVersion : Int) (now : Instant)
  | claimOutbox (chosen : List String) (now : Instant)
  | claimPendingCancellations (chosen : List String) (now : Instant)
  | claimPreparedCommands (chosen : List String) (now : Instant)
  | claimPendingTerminalAudits (chosen : List String) (now : Instant)
  | claimExpiredCommands (chosen : List String) (now : Instant)
  | reservePrepareSlot (scope : Scope) (commandID : String) (now : Instant)
  | markOutboxPublished (scope : Scope) (id : String) (now : Instant)
  | prepareCommandEnvelope (scope : Scope) (commandID : String) (proposed : Bytes)
  | markPrepared (scope : Scope) (commandID : String) (digest : Digest) (now : Instant)
  | deferCancellation (scope : Scope) (id : String) (availableAt : Instant)
  | authorizeStart (scope : Scope) (commandID : String) (expectedDigest tokenHash : Digest)
      (tokenCiphertext : Bytes) (now deadline : Instant)
  | markStartEnqueued (scope : Scope) (commandID : String) (executionRevision : Nat) (now : Instant)
  | renewExecutionLease (scope : Scope) (commandID : String) (tokenHash : Digest)
      (expectedExecutionRevision : Nat) (now deadline : Instant)
  | renewCommandLease (scope : Scope) (id : String) (now deadline : Instant)
  | claimExpiredExecution (chosen : List (String × Digest)) (now : Instant)
  | finalizeExpiredExecution (claim : RecoveryClaim) (now : Instant)
  | finalizeExpiredPrepared (scope : Scope) (commandID : String) (expectedDigest : Digest)
      (expiresAt : Instant) (expiry : String) (now : Instant)
  | markCommandTerminal (scope : Scope) (id : String) (status : CommandStatus) (now : Instant)
  | persistTerminalCommand (input : TerminalCommand)
  | persistTerminalResult (input : TerminalResultCAS)
  | markTerminalAuditRecorded (scope : Scope) (commandID dedupeKey : String) (now : Instant)
  | claimTerminalCommands (chosen : List String) (token : Digest) (now : Instant)
  | reconcileTerminalCommand (claim : TerminalReconcileClaim) (now : Instant)
  | recordTerminalReconcileFailure (claim : TerminalReconcileClaim) (now : Instant) (cause : JobError)
  | persistValidationResult (jobID : String) (incoming : ResultState) (effective : ValidationResult)
      (input : TerminalResultCAS)
  | cancelValidation (scope : Scope) (jobID commandID agentID : String) (now : Instant)
  deriving DecidableEq

/-- The transaction of a call, without its result. -/
def Call.tx : Call → JobTx Unit
  | .create value messages => createInTx value messages
  | .transition value => ignore (Jobs.transition value)
  | .requestCancel scope jobID actor version now =>
    ignore (Jobs.requestCancel scope jobID actor version now)
  | .claimOutbox chosen now => ignore (Jobs.claimOutbox chosen now)
  | .claimPendingCancellations chosen now => ignore (Jobs.claimPendingCancellations chosen now)
  | .claimPreparedCommands chosen now => ignore (Jobs.claimPreparedCommands chosen now)
  | .claimPendingTerminalAudits chosen now => ignore (Jobs.claimPendingTerminalAudits chosen now)
  | .claimExpiredCommands chosen now => ignore (Jobs.claimExpiredCommands chosen now)
  | .reservePrepareSlot scope id now => ignore (Jobs.reservePrepareSlot scope id now)
  | .markOutboxPublished scope id now => Jobs.markOutboxPublished scope id now
  | .prepareCommandEnvelope scope id proposed =>
    ignore (Jobs.prepareCommandEnvelope scope id proposed)
  | .markPrepared scope id digest now => Jobs.markPrepared scope id digest now
  | .deferCancellation scope id availableAt => Jobs.deferCancellation scope id availableAt
  | .authorizeStart scope id expected tokenHash ciphertext now deadline =>
    ignore (Jobs.authorizeStart scope id expected tokenHash ciphertext now deadline)
  | .markStartEnqueued scope id revision now => Jobs.markStartEnqueued scope id revision now
  | .renewExecutionLease scope id tokenHash revision now deadline =>
    ignore (Jobs.renewExecutionLease scope id tokenHash revision now deadline)
  | .renewCommandLease scope id now deadline => Jobs.renewCommandLease scope id now deadline
  | .claimExpiredExecution chosen now => ignore (Jobs.claimExpiredExecution chosen now)
  | .finalizeExpiredExecution claim now => Jobs.finalizeExpiredExecution claim now
  | .finalizeExpiredPrepared scope id expected expiresAt expiry now =>
    Jobs.finalizeExpiredPrepared scope id expected expiresAt expiry now
  | .markCommandTerminal scope id status now => Jobs.markCommandTerminal scope id status now
  | .persistTerminalCommand input => Jobs.persistTerminalCommand input
  | .persistTerminalResult input => ignore (Jobs.persistTerminalResult input)
  | .markTerminalAuditRecorded scope id key now => Jobs.markTerminalAuditRecorded scope id key now
  | .claimTerminalCommands chosen token now => ignore (Jobs.claimTerminalCommands chosen token now)
  | .reconcileTerminalCommand claim now => Jobs.reconcileTerminalCommand claim now
  | .recordTerminalReconcileFailure claim now cause =>
    Jobs.recordTerminalReconcileFailure claim now cause
  | .persistValidationResult jobID incoming effective input =>
    ignore (Jobs.persistValidationResult jobID incoming effective input)
  | .cancelValidation scope jobID id agentID now => cancelValidationInTx scope jobID id agentID now

def Step (db : Database) (call : Call) (db' : Database) : Prop := Commits call.tx db () db'

/-- Nothing but leases, counters, queue times and marks of side effects done differs. -/
structure Bookkeeping (r r' : OutboxMessage) : Prop where
  id : r'.id = r.id
  scope : r'.scope = r.scope
  jobID : r'.jobID = r.jobID
  targetID : r'.targetID = r.targetID
  payload : r'.payload = r.payload
  preparedEnvelope : r'.preparedEnvelope = r.preparedEnvelope
  commandStatus : r'.commandStatus = r.commandStatus
  executionDeadline : r'.executionDeadline = r.executionDeadline
  cancellationRequestedAt : r'.cancellationRequestedAt = r.cancellationRequestedAt
  phase : r'.phase = r.phase
  prepareDigest : r'.prepareDigest = r.prepareDigest
  executionTokenHash : r'.executionTokenHash = r.executionTokenHash
  executionTokenCiphertext : r'.executionTokenCiphertext = r.executionTokenCiphertext
  executionRevision : r'.executionRevision = r.executionRevision
  recoveryRevision : r'.recoveryRevision = r.recoveryRevision
  startDeadline : r'.startDeadline = r.startDeadline
  recoveryClaimToken : r'.recoveryClaimToken = r.recoveryClaimToken
  recoveryClaimedDeadline : r'.recoveryClaimedDeadline = r.recoveryClaimedDeadline
  recoveryClaimedRevision : r'.recoveryClaimedRevision = r.recoveryClaimedRevision
  terminalResultDigest : r'.terminalResultDigest = r.terminalResultDigest
  terminalAt : r'.terminalAt = r.terminalAt
  terminalAudit : r'.terminalAudit = r.terminalAudit
  terminalTarget : r'.terminalTarget = r.terminalTarget

lemma Bookkeeping.refl (r : OutboxMessage) : Bookkeeping r r := by
  constructor <;> rfl

open RowUpdate in
inductive RowStep : OutboxMessage → Call → OutboxMessage → Prop
  | bookkeeping {r r' call} (same : Bookkeeping r r') : RowStep r call r'
  | reserve {r scope id now} (named : r.named scope id = true) (pending : r.phase = .pending)
      (free : r.cancellationRequestedAt = none) :
      RowStep r (.reservePrepareSlot scope id now) (reserve r)
  | prepareEnvelope {r scope id proposed} (named : r.named scope id = true)
      (phase : r.phase = .pending ∨ r.phase = .preparing)
      (free : r.cancellationRequestedAt = none) :
      RowStep r (.prepareCommandEnvelope scope id proposed) (prepareEnvelope proposed r)
  | prepare {r scope id digest now} (named : r.named scope id = true)
      (preStart : r.phase.preStart = true) (free : r.cancellationRequestedAt = none)
      (digests : r.prepareDigest = none ∨ r.prepareDigest = some digest) :
      RowStep r (.markPrepared scope id digest now) (prepare digest now r)
  | authorize {r scope id expected tokenHash ciphertext now deadline}
      (named : r.named scope id = true) (prepared : r.phase = .prepared)
      (free : r.cancellationRequestedAt = none) (digest : r.prepareDigest = some expected)
      (sealed : ciphertext ≠ []) :
      RowStep r (.authorizeStart scope id expected tokenHash ciphertext now deadline)
        (authorize tokenHash ciphertext now deadline r)
  | renew {r scope id tokenHash revision now deadline} (named : r.named scope id = true)
      (started : r.phase.started = true) (hash : r.executionTokenHash = some tokenHash)
      (same : r.executionRevision = revision) :
      RowStep r (.renewExecutionLease scope id tokenHash revision now deadline) (renew now deadline r)
  | renewLease {r scope id now deadline} (named : r.named scope id = true)
      (active : r.commandStatus = .active) :
      RowStep r (.renewCommandLease scope id now deadline) (renewLease now deadline r)
  | claimRecovery {r chosen now} (listed : (chosen.lookup r.id).isSome = true)
      (expired : expiredExecution now r = true) :
      RowStep r (.claimExpiredExecution chosen now) (claimRecovery chosen now r)
  | requestCancellation {r scope jobID actor version now} (owner : r.scope = scope)
      (owned : r.jobID = jobID)
      (unfinished : r.commandStatus = .pending ∨ r.commandStatus = .active) :
      RowStep r (.requestCancel scope jobID actor version now) (requestCancellation now cancellationReason r)
  | markTerminal {r scope id status now} (named : r.named scope id = true)
      (terminal : terminalCommandStatus status = true)
      (accepted : r.commandStatus = .pending ∨ r.commandStatus = .active ∨
        r.commandStatus = .rejected ∨ r.commandStatus = status) :
      RowStep r (.markCommandTerminal scope id status now) (markTerminal status now r)
  | persistTerminal {r input} (named : r.named input.scope input.commandID = true)
      (valid : validateTerminalCommand input = true)
      (compatible : terminalEvidenceCompatible r input = true)
      (kept : terminalCommandStatus r.commandStatus = true → r.commandStatus = input.status)
      (undelivered : terminalCommandStatus r.commandStatus = false → input.status = .rejected →
        r.cancellationRequestedAt = none ∧ r.phase.preStart = true) :
      RowStep r (.persistTerminalCommand input) (persistTerminal input r)
  | result {r input} (named : r.named input.scope input.commandID = true)
      (valid : validateTerminalCommand input.command = true) (fence : fenceMatches r input = true)
      (started : r.phase.started = true) (executed : input.status ≠ .rejected) :
      RowStep r (.persistTerminalResult input) (recordEvidence input.target input.audit (recordResult input r))
  | attach {r input} (named : r.named input.scope input.commandID = true)
      (fence : fenceMatches r input = true) (open_ : attaches r input = true) :
      RowStep r (.persistTerminalResult input) (attachDigest input.resultDigest r)
  | duplicate {r input} (named : r.named input.scope input.commandID = true)
      (valid : validateTerminalCommand input.command = true) (fence : fenceMatches r input = true)
      (terminal : r.phase.terminal = true) (status : r.commandStatus = input.status)
      (digest : r.terminalResultDigest = some input.resultDigest)
      (compatible : terminalEvidenceCompatible r input.command = true) :
      RowStep r (.persistTerminalResult input) (recordEvidence input.target input.audit r)
  | expireExecution {r claim now} (named : r.named claim.scope claim.commandID = true)
      (claimed : matchingRecoveryClaim r claim = true) :
      RowStep r (.finalizeExpiredExecution claim now) (expireExecution now r)
  | expirePrepared {r scope id expected expiresAt expiry now} (named : r.named scope id = true)
      (prepared : r.phase = .prepared) (digest : r.prepareDigest = some expected) :
      RowStep r (.finalizeExpiredPrepared scope id expected expiresAt expiry now) (expirePrepared now expiry r)
  | reconcile {r claim now target} (named : r.named claim.scope claim.commandID = true)
      (terminal : terminalCommandStatus r.commandStatus = true)
      (agrees : r.terminalTarget = none ∨ r.terminalTarget = some target.evidence) :
      RowStep r (.reconcileTerminalCommand claim now) (completeReconcile target r)
  | validation {r jobID incoming effective input} (named : r.named input.scope input.commandID = true)
      (fence : fenceMatches r input = true)
      (compatible : evidenceCompatible r (validationTarget r.targetID incoming effective input.now)
        (validationAudit input.commandID incoming effective) = true)
      (open_ : r.phase.started = true ∨
        attaches r input = true ∧ effectiveValidationCommandStatus incoming effective = .timedOut) :
      RowStep r (.persistValidationResult jobID incoming effective input)
        (recordEvidence (validationTarget r.targetID incoming effective input.now)
          (validationAudit input.commandID incoming effective)
          (recordValidation (effectiveValidationCommandStatus incoming effective) input r))
  | validationDuplicate {r jobID incoming effective input}
      (named : r.named input.scope input.commandID = true) (fence : fenceMatches r input = true)
      (compatible : evidenceCompatible r (validationTarget r.targetID incoming effective input.now)
        (validationAudit input.commandID incoming effective) = true)
      (terminal : r.phase.terminal = true)
      (status : r.commandStatus = effectiveValidationCommandStatus incoming effective)
      (digest : r.terminalResultDigest = some input.resultDigest) :
      RowStep r (.persistValidationResult jobID incoming effective input)
        (recordEvidence (validationTarget r.targetID incoming effective input.now)
          (validationAudit input.commandID incoming effective) r)
  | retire {r scope jobID id agentID now} (named : r.named scope id = true)
      (unfinished : r.commandStatus = .pending ∨ r.commandStatus = .active ∨ r.commandStatus = .rejected) :
      RowStep r (.cancelValidation scope jobID id agentID now) (retire now r)

/-! ## Inversion of the statements -/

variable {value next : Job} {claimed : List OutboxMessage} {now : Instant} {chosen : List String}

section statements

variable {db db' : Database} {scope : Scope} {id : String} {e : JobError} {row : OutboxMessage}
  {condition : OutboxMessage → Bool} {set : RowUpdate}

@[simp] lemma commits_findOutbox : Commits (findOutbox scope id e) db row db' ↔
    (row ∈ db.outbox ∧ row.named scope id = true) ∧ db = db' := by
  simp [findOutbox, OutboxMessage.named, Option.filter_eq_some_iff, Table.find?_eq_some, and_assoc]

@[simp] lemma commits_selectOutbox : Commits (selectOutbox scope id) db row db' ↔
    (row ∈ db.outbox ∧ row.named scope id = true) ∧ db = db' := by
  simp [selectOutbox]

@[simp] lemma commits_selectJob : Commits (selectJob scope id) db value db' ↔
    db.jobs.find? (scope, id) = some value ∧ db = db' := by
  simp [selectJob]

@[simp] lemma commits_updateOutbox {affected : Nat} :
    Commits (updateOutbox condition set) db affected db' ↔
      db.outbox.rows.countP condition = affected ∧
      { db with outbox := db.outbox.update condition set } = db' := by
  simp [updateOutbox, Commits]

@[simp] lemma commits_updateOne {u : Unit} : Commits (updateOne condition set e) db u db' ↔
    db.outbox.rows.countP condition = 1 ∧ { db with outbox := db.outbox.update condition set } = db' := by
  simp [updateOne]

variable {message : OutboxMessage}

lemma claimRows_mem (commits : Commits (claimRows condition set chosen) db claimed db')
    (member : message ∈ claimed) :
    ∃ r ∈ db.outbox, condition r = true ∧ message = set r := by
  simp only [claimRows, commits_steps, commits_updateOutbox] at commits
  obtain ⟨rfl, _⟩ := commits
  obtain ⟨r, filtered, rfl⟩ := List.mem_map.mp member
  obtain ⟨found, chosen⟩ := List.mem_filter.mp filtered
  simp only [Bool.and_eq_true] at chosen
  exact ⟨r, found, chosen.2, rfl⟩

lemma lookupCommand_eq (commits : Commits (lookupCommand id) db row db') : db' = db ∧ row ∈ db.outbox := by
  simp only [lookupCommand, commits_steps] at commits
  obtain ⟨_, found, rfl⟩ := commits
  exact ⟨rfl, (Table.find?_eq_some.mp found).1⟩

lemma named_unique {r r' : OutboxMessage} {t : Table OutboxMessage OutboxMessage.id} (first : r ∈ t)
    (second : r' ∈ t) (named : r.named scope id = true) (named' : r'.named scope id = true) :
    r = r' := by
  simp only [OutboxMessage.named, Bool.and_eq_true, decide_eq_true_eq] at named named'
  exact Table.eq_of_key first second (named.1.trans named'.1.symm)

/-- A job row as `scanJob` and `getTargetsFrom` read it. -/
def Job.loaded (row : Job) : Job :=
  { row with targetResourceIDs := row.targetResults.map (·.targetID) }

/-- What a transaction writes to a job row it has read. -/
inductive JobStep : Job → Job → Prop
  | transition {row next : Job} {value : Transition}
      (applied : applyTransition row.loaded value = .ok next) : JobStep row next.stored
  | retire {row : Job} {agentID : String} {now : Instant} (open_ : isTerminal row.status = false) :
      JobStep row (row.retired agentID now).stored

/-- What a transaction with several such writes does to a job row. -/
abbrev JobSteps : Job → Job → Prop := Relation.ReflTransGen JobStep

lemma JobStep.kept {row row' : Job} (step : JobStep row row') :
    row'.key = row.key ∧ row'.maxConcurrency = row.maxConcurrency := by
  cases step with
  | transition applied =>
    rw [applyTransition_ok applied]
    exact ⟨rfl, rfl⟩
  | retire => exact ⟨rfl, rfl⟩

lemma JobSteps.kept {row row' : Job} (steps : JobSteps row row') :
    row'.key = row.key ∧ row'.maxConcurrency = row.maxConcurrency := by
  induction steps with
  | refl => exact ⟨rfl, rfl⟩
  | tail _ step ih => exact ⟨step.kept.1.trans ih.1, step.kept.2.trans ih.2⟩

/-- The outbox is left alone and jobs move by job steps. -/
structure JobsOnly (db db' : Database) : Prop where
  outbox : db'.outbox = db.outbox
  rows : Evolves JobSteps (fun _ => False) db.jobs db'.jobs

lemma JobsOnly.refl (db : Database) : JobsOnly db db := ⟨rfl, Evolves.refl fun _ _ => .refl⟩

lemma JobsOnly.trans {db'' : Database} (first : JobsOnly db db') (second : JobsOnly db' db'') :
    JobsOnly db db'' :=
  ⟨second.outbox.trans first.outbox, first.rows.trans (fun ab bc => ab.trans bc) second.rows⟩

lemma writeJob_jobsOnly {row : Job} {u : Unit} (member : row ∈ db.jobs) (step : JobStep row value.stored)
    (commits : Commits (writeJob value) db u db') :
    JobsOnly db db' := by
  obtain rfl := commits_write.mp commits
  exact ⟨rfl, Evolves.put (fun _ _ _ => .refl) member step.kept.1 (.single step)⟩

lemma loadJob_row (commits : Commits (loadJob scope id) db value db') :
    db' = db ∧ ∃ row ∈ db.jobs, row.key = (scope, id) ∧ value = row.loaded := by
  simp only [loadJob, commits_steps, commits_selectJob] at commits
  obtain ⟨row, found, _, rfl, rfl⟩ := commits
  obtain ⟨member, same⟩ := Table.find?_eq_some.mp found
  exact ⟨rfl, row, member, same, rfl⟩

lemma loadJob_eq (commits : Commits (loadJob scope id) db value db') : db' = db :=
  (loadJob_row commits).1

lemma transitionInTx_jobsOnly {value : Transition} (commits : Commits (transitionInTx value) db next db') :
    JobsOnly db db' := by
  simp only [transitionInTx, commits_steps] at commits
  obtain ⟨_, _, loaded, _, applied, _, _, written, _, rfl⟩ := commits
  obtain ⟨rfl, row, member, _, rfl⟩ := loadJob_row loaded
  exact writeJob_jobsOnly member (.transition applied) written

variable {current : Job}

lemma dispatchQueued_jobsOnly (commits : Commits (dispatchQueued current now) db next db') : JobsOnly db db' := by
  unfold dispatchQueued at commits
  rcases commits_ite.mp commits with ⟨_, moved⟩ | ⟨_, same⟩
  · exact transitionInTx_jobsOnly moved
  · obtain ⟨_, rfl⟩ := commits_pure.mp same
    exact .refl db

lemma finishJob_jobsOnly (commits : Commits (finishJob current now) db next db') : JobsOnly db db' := by
  unfold finishJob at commits
  rcases commits_ite.mp commits with ⟨_, moved⟩ | ⟨_, same⟩
  · exact transitionInTx_jobsOnly moved
  · obtain ⟨_, rfl⟩ := commits_pure.mp same
    exact .refl db

lemma timeoutTarget_jobsOnly {targetID : String}
    (commits : Commits (timeoutTarget current targetID now) db next db') : JobsOnly db db' := by
  unfold timeoutTarget at commits
  split at commits
  · simp only [commits_steps] at commits
    obtain ⟨_, _, rfl⟩ := commits
    exact .refl db
  · exact transitionInTx_jobsOnly commits

lemma timeoutJobTargetInTx_jobsOnly (commits : Commits (timeoutJobTargetInTx current message now) db next db') :
    JobsOnly db db' := by
  simp only [timeoutJobTargetInTx, commits_steps, commits_ite] at commits
  obtain ⟨_, done | open_⟩ := commits
  · obtain ⟨_, _, _, ⟨_, rfl⟩, _, rfl⟩ := done
    exact .refl db
  · obtain ⟨_, _, _, dispatched, _, _, settled, last⟩ := open_
    have first := (dispatchQueued_jobsOnly dispatched).trans (timeoutTarget_jobsOnly settled)
    rcases last with ⟨_, final⟩ | ⟨_, _, rfl⟩
    · exact first.trans (transitionInTx_jobsOnly final)
    · exact first

lemma reconcileTarget_jobsOnly {target stored : TargetResult} {hasDescriptor : Bool}
    (commits : Commits (reconcileTarget current message target hasDescriptor now) db (stored, next) db') :
    JobsOnly db db' ∧ (hasDescriptor = true → stored.evidence = target.evidence) := by
  unfold reconcileTarget at commits
  split at commits
  · simp only [Prod.mk.injEq, commits_steps] at commits
    obtain ⟨⟨_, agrees⟩, ⟨rfl, _⟩, rfl⟩ := commits
    refine ⟨.refl db, fun described => ?_⟩
    have matching := agrees described
    simp only [matchingTerminalTarget, Bool.and_eq_true, decide_eq_true_eq] at matching
    exact matching.2
  · simp only [Prod.mk.injEq, commits_steps] at commits
    obtain ⟨_, _, _, dispatched, _, _, moved, ⟨rfl, _⟩, rfl⟩ := commits
    exact ⟨(dispatchQueued_jobsOnly dispatched).trans (transitionInTx_jobsOnly moved), fun _ => rfl⟩

lemma terminalTargetFromOutbox_ok {target : TargetResult} {hasDescriptor : Bool}
    (read : terminalTargetFromOutbox message = .ok (target, hasDescriptor)) :
    message.terminalTarget = none ∨ hasDescriptor = true ∧ message.terminalTarget = some target.evidence := by
  cases stored : message.terminalTarget with
  | none => exact .inl rfl
  | some =>
    right
    unfold terminalTargetFromOutbox at read
    simp only [stored] at read
    split at read
    · cases read
    · split at read
      · injection read with read
        injection read with same described
        subst same
        exact ⟨described.symm, rfl⟩
      · cases read

end statements

/-! ## The rows of a committed call -/

/-- The row of a new command. -/
def Fresh (r : OutboxMessage) : Prop := ∃ value message, r = insertedMessage value message

/-- The row of a new job. -/
def FreshJob (row : Job) : Prop := ∃ value, validateNewJob value = true ∧ row = insertedJob value

/-- Every row moves by row steps, new rows are fresh and new commands have a job. -/
structure Moves (call : Call) (db db' : Database) : Prop where
  outbox : Evolves (fun r r' => RowStep r call r') Fresh db.outbox db'.outbox
  rows : Evolves JobSteps FreshJob db.jobs db'.jobs
  owned : ∀ r' ∈ db'.outbox, (∃ r ∈ db.outbox, r.id = r'.id) ∨ (db'.jobs.find? (r'.scope, r'.jobID)).isSome = true

section rows

variable {db before db' : Database} {call : Call} {condition : OutboxMessage → Bool} {set : RowUpdate} {u : Unit}

/-- No job disappears. -/
lemma Moves.jobs (moves : Moves call db db') : db.jobs.Keeps db'.jobs :=
  moves.rows.keeps fun _ _ steps => steps.kept.1

lemma JobsOnly.moved (kept : JobsOnly db db') : Evolves JobSteps FreshJob db.jobs db'.jobs :=
  ⟨kept.rows.forward, fun r' member' => (kept.rows.backward r' member').imp_right False.elim⟩

lemma Moves.of_jobsOnly (kept : JobsOnly db db') : Moves call db db' where
  outbox := by
    rw [kept.outbox]
    exact Evolves.refl fun r _ => .bookkeeping (.refl r)
  rows := kept.moved
  owned r' member' := .inl ⟨r', kept.outbox ▸ member', rfl⟩

lemma Moves.of_update (kept : JobsOnly db before)
    (same : db' = ⟨before.jobs, before.outbox.update condition set⟩)
    (hit : ∀ r ∈ db.outbox, condition r = true → RowStep r call (set r)) : Moves call db db' where
  outbox := by
    rw [same, kept.outbox]
    exact Evolves.update (fun r _ => .bookkeeping (.refl r)) hit
  rows := by
    rw [same]
    exact kept.moved
  owned r' member' := by
    rw [same, kept.outbox] at member'
    obtain ⟨r, member, key⟩ := Table.exists_key_update member'
    exact .inl ⟨r, member, key⟩

/-- An update of leases, counters and marks only. -/
lemma Moves.of_bookkeeping (same : db' = ⟨db.jobs, db.outbox.update condition set⟩)
    (books : ∀ r, Bookkeeping r (set r)) : Moves call db db' :=
  .of_update (.refl db) same fun r _ _ => .bookkeeping (books r)

lemma Moves.of_claim (commits : Commits (claimRows condition set chosen) db claimed db')
    (books : ∀ r, Bookkeeping r (set r)) : Moves call db db' := by
  simp only [claimRows, commits_steps, commits_updateOutbox] at commits
  obtain ⟨_, rfl⟩ := commits
  exact .of_bookkeeping rfl books

/-- A claim behind a check of its time. -/
lemma Moves.of_timed_claim {e : JobError} {timed : Prop} [Decidable timed]
    (commits : Commits (ignore do require timed e; claimRows condition set chosen) db u db')
    (books : ∀ r, Bookkeeping r (set r)) : Moves call db db' := by
  simp only [commits_steps] at commits
  obtain ⟨_, _, claimed⟩ := commits
  exact .of_claim claimed books

lemma insertOutbox_rows {messages : List NewMessage} (commits : Commits (insertOutbox value messages) db u db') :
    db'.jobs = db.jobs ∧ (∀ r ∈ db.outbox, r ∈ db'.outbox) ∧
      ∀ r' ∈ db'.outbox, r' ∈ db.outbox ∨ ∃ message ∈ messages, r' = insertedMessage value message := by
  induction messages generalizing db with
  | nil =>
    obtain ⟨_, rfl⟩ := commits_pure.mp commits
    exact ⟨rfl, fun r member => member, fun r member => .inl member⟩
  | cons message rest ih =>
    simp only [insertOutbox, commits_steps] at commits
    obtain ⟨outbox, inserted, tail⟩ := commits
    obtain ⟨jobs, forward, backward⟩ := ih tail
    refine ⟨jobs, ?_, ?_⟩
    · intro r member
      exact forward r ((Table.mem_insert? inserted).mpr (.inl member))
    · intro r' member'
      rcases backward r' member' with old | ⟨other, listed, rfl⟩
      · rcases (Table.mem_insert? inserted).mp old with old | rfl
        · exact .inl old
        · exact .inr ⟨message, List.mem_cons_self, rfl⟩
      · exact .inr ⟨other, List.mem_cons_of_mem message listed, rfl⟩

lemma createInTx_moves {messages : List NewMessage} (commits : Commits (createInTx value messages) db u db') :
    Moves call db db' := by
  simp only [createInTx, commits_steps] at commits
  obtain ⟨valid, _, _, _, added, inserted⟩ := commits
  obtain ⟨jobs, forward, backward⟩ := insertOutbox_rows inserted
  refine ⟨⟨?_, ?_⟩, ?_, ?_⟩
  · intro r member
    exact ⟨r, forward r member, .bookkeeping (.refl r)⟩
  · intro r' member'
    rcases backward r' member' with old | ⟨message, _, rfl⟩
    · exact .inl ⟨r', old, .bookkeeping (.refl r')⟩
    · exact .inr ⟨value, message, rfl⟩
  · rw [jobs]
    exact Evolves.insert? (fun _ _ => .refl) added ⟨value, valid, rfl⟩
  · intro r' member'
    rcases backward r' member' with old | ⟨message, _, rfl⟩
    · exact .inl ⟨r', old, rfl⟩
    · right
      rw [jobs]
      exact Table.isSome_find?.mpr ⟨_, (Table.mem_insert? added).mpr (.inr rfl), rfl⟩

variable {scope : Scope} {id : String}

lemma requestCancel_cases {actor : String} {version : Int}
    (commits : Commits (requestCancel scope id actor version now) db next db') :
    ∃ before, JobsOnly db before ∧ db' = ⟨before.jobs, before.outbox.update
      (fun row => row.scope = scope && row.jobID = id &&
        (row.commandStatus = .pending || row.commandStatus = .active))
      (RowUpdate.requestCancellation now cancellationReason)⟩ := by
  simp only [requestCancel, commits_steps, commits_updateOutbox] at commits
  obtain ⟨_, _, before, moved, _, rfl⟩ := commits
  exact ⟨before, transitionInTx_jobsOnly moved, rfl⟩

lemma requestCancel_moves {actor : String} {version : Int}
    (commits : Commits (requestCancel scope id actor version now) db next db') :
    Moves (.requestCancel scope id actor version now) db db' := by
  obtain ⟨before, kept, same⟩ := requestCancel_cases commits
  refine .of_update kept same fun r _ hit => ?_
  simp only [Bool.and_eq_true, Bool.or_eq_true, decide_eq_true_eq] at hit
  exact .requestCancellation hit.1.1 hit.1.2 hit.2

/-- What a committed `ReservePrepareSlot` did with the row it found. -/
inductive ReservePath (scope : Scope) (id : String) (now : Instant) (db : Database)
    (message : OutboxMessage) (value : Job) : Bool → Database → Prop
  | unlimited (limit : value.maxConcurrency = 0) : ReservePath scope id now db message value true db
  | resumed (active : activePreparePhase message.phase = true) : ReservePath scope id now db message value true db
  | full : ReservePath scope id now db message value false ⟨db.jobs, db.outbox.update
      (fun row => row.named scope id && row.phase = .pending) (RowUpdate.deferPrepare now)⟩
  | free (pending : message.phase = .pending) (room : activeSlots scope message.jobID db < value.maxConcurrency) :
      ReservePath scope id now db message value true ⟨db.jobs, db.outbox.update
        (fun row => row.named scope id && row.phase = .pending && row.cancellationRequestedAt = none)
        RowUpdate.reserve⟩

lemma reservePrepareSlot_cases {reserved : Bool}
    (commits : Commits (reservePrepareSlot scope id now) db reserved db') :
    ∃ message ∈ db.outbox, message.named scope id = true ∧ message.cancellationRequestedAt = none ∧
      ∃ value ∈ db.jobs, value.key = (scope, message.jobID) ∧
        ReservePath scope id now db message value reserved db' := by
  simp only [reservePrepareSlot, commits_steps, commits_selectOutbox, commits_selectJob,
    commits_ite, commits_updateOutbox, commits_updateOne] at commits
  obtain ⟨_, message, ⟨member, named⟩, open_, value, found, path⟩ := commits
  obtain ⟨stored, same⟩ := Table.find?_eq_some.mp found
  refine ⟨message, member, named, open_, value, stored, same, ?_⟩
  rcases path with ⟨limit, rfl, rfl⟩ | ⟨_, _, ⟨active, rfl, rfl⟩ | ⟨_, pending, ⟨_, rfl, rfl⟩ | ⟨room, _, rfl, rfl⟩⟩⟩
  · exact .unlimited limit
  · exact .resumed active
  · exact .full
  · exact .free pending (not_le.mp room)

lemma reservePrepareSlot_moves {reserved : Bool}
    (commits : Commits (reservePrepareSlot scope id now) db reserved db') :
    Moves (.reservePrepareSlot scope id now) db db' := by
  obtain ⟨_, _, _, _, _, _, _, path⟩ := reservePrepareSlot_cases commits
  cases path with
  | unlimited | resumed => exact .of_jobsOnly (.refl _)
  | full => exact .of_bookkeeping rfl fun r => by constructor <;> rfl
  | free =>
    refine .of_update (.refl _) rfl fun r _ hit => ?_
    simp only [Bool.and_eq_true, decide_eq_true_eq] at hit
    exact .reserve hit.1.1 hit.1.2 hit.2

lemma prepareCommandEnvelope_moves {proposed stored : Bytes}
    (commits : Commits (prepareCommandEnvelope scope id proposed) db stored db') :
    Moves (.prepareCommandEnvelope scope id proposed) db db' := by
  simp only [prepareCommandEnvelope, commits_steps, commits_selectOutbox, commits_updateOne]
    at commits
  obtain ⟨_, _, _, _, _, rfl⟩ := commits
  refine .of_update (.refl _) rfl fun r _ hit => ?_
  simp only [Bool.and_eq_true, Bool.or_eq_true, decide_eq_true_eq] at hit
  exact .prepareEnvelope hit.1.1 hit.2 hit.1.2

lemma markPrepared_moves {digest : Digest} (commits : Commits (markPrepared scope id digest now) db u db') :
    Moves (.markPrepared scope id digest now) db db' := by
  simp only [markPrepared, commits_steps, commits_updateOutbox, commits_ite, commits_selectOutbox]
    at commits
  obtain ⟨_, ⟨_, rest⟩ | ⟨_, _, _, _, rest⟩⟩ := commits
  -- The second read of a row that the UPDATE did not accept changes nothing.
  all_goals
    subst rest
    refine .of_update (.refl _) rfl fun r _ hit => ?_
    simp only [Bool.and_eq_true, Bool.or_eq_true, decide_eq_true_eq] at hit
    exact .prepare hit.1.1.1 hit.1.2 hit.1.1.2 hit.2

variable {deadline : Instant} {expected tokenHash : Digest}

/-- A command with a fence has its grant read back; any other is authorised when
it is prepared and not cancelled. -/
lemma authorizeStart_cases {ciphertext : Bytes}
    {grant : StartGrant}
    (commits : Commits (authorizeStart scope id expected tokenHash ciphertext now deadline) db grant db') :
    ∃ message ∈ db.outbox, message.named scope id = true ∧
      ((message.phase.started = true ∧ startGrantFromStored message = .ok grant ∧ db' = db) ∨
        (message.phase = .prepared ∧ message.cancellationRequestedAt = none ∧ ciphertext ≠ [] ∧
          db' = ⟨db.jobs, db.outbox.update
            (fun row => row.named scope id && row.phase = .prepared &&
              row.cancellationRequestedAt = none && row.prepareDigest = some expected)
            (RowUpdate.authorize tokenHash ciphertext now deadline)⟩)) := by
  simp only [authorizeStart, commits_steps, commits_selectOutbox, commits_selectJob, commits_ite,
    commits_updateOne] at commits
  obtain ⟨⟨_, _, sealed, _⟩, message, ⟨member, named⟩, _, _, _, _, _, _, stored | fresh⟩ := commits
  · exact ⟨message, member, named, .inl ⟨stored.1, stored.2.1, stored.2.2.symm⟩⟩
  · obtain ⟨_, ⟨_, _, free⟩, prepared, _, _, rfl⟩ := fresh
    exact ⟨message, member, named, .inr ⟨prepared, free, sealed, rfl⟩⟩

lemma authorizeStart_moves {ciphertext : Bytes}
    {grant : StartGrant}
    (commits : Commits (authorizeStart scope id expected tokenHash ciphertext now deadline) db grant db') :
    Moves (.authorizeStart scope id expected tokenHash ciphertext now deadline) db db' := by
  obtain ⟨_, _, _, ⟨_, _, rfl⟩ | ⟨_, _, sealed, same⟩⟩ := authorizeStart_cases commits
  · exact .of_jobsOnly (.refl _)
  · refine .of_update (.refl _) same fun r _ hit => ?_
    simp only [Bool.and_eq_true, decide_eq_true_eq] at hit
    exact .authorize hit.1.1.1 hit.1.1.2 hit.1.2 hit.2 sealed

lemma renewExecutionLease_moves {revision n : Nat}
    (commits : Commits (renewExecutionLease scope id tokenHash revision now deadline) db n db') :
    Moves (.renewExecutionLease scope id tokenHash revision now deadline) db db' := by
  simp only [renewExecutionLease, commits_steps, commits_findOutbox, commits_updateOne] at commits
  obtain ⟨_, _, _, _, _, rfl⟩ := commits
  refine .of_update (.refl _) rfl fun r _ hit => ?_
  simp only [Bool.and_eq_true, decide_eq_true_eq] at hit
  exact .renew hit.1.1.1 hit.1.1.2 hit.1.2 hit.2

lemma claimExpiredExecution_moves {chosen : List (String × Digest)} {claims : List RecoveryClaim}
    (commits : Commits (claimExpiredExecution chosen now) db claims db') :
    Moves (.claimExpiredExecution chosen now) db db' := by
  simp only [claimExpiredExecution, commits_steps, commits_updateOutbox] at commits
  obtain ⟨_, _, rfl⟩ := commits
  refine .of_update (.refl _) rfl fun r _ hit => ?_
  simp only [Bool.and_eq_true] at hit
  exact .claimRecovery hit.1 hit.2

lemma finalizeExpiredExecution_moves {claim : RecoveryClaim}
    (commits : Commits (finalizeExpiredExecution claim now) db u db') :
    Moves (.finalizeExpiredExecution claim now) db db' := by
  simp only [finalizeExpiredExecution, commits_steps, commits_selectOutbox, commits_updateOne]
    at commits
  obtain ⟨_, _, _, loaded, _, _, _, _, _, settled, _, rfl⟩ := commits
  obtain rfl := loadJob_eq loaded
  refine .of_update (timeoutJobTargetInTx_jobsOnly settled) rfl fun r _ hit => ?_
  simp only [Bool.and_eq_true] at hit
  exact .expireExecution hit.1 hit.2

lemma finalizeExpiredPrepared_moves {expiry : String} {expiresAt : Instant}
    (commits : Commits (finalizeExpiredPrepared scope id expected expiresAt expiry now) db u db') :
    Moves (.finalizeExpiredPrepared scope id expected expiresAt expiry now) db db' := by
  simp only [finalizeExpiredPrepared, commits_steps, commits_selectOutbox, commits_ite, commits_updateOne] at commits
  obtain ⟨_, _, _, _, _, loaded, _, done | open_⟩ := commits
  · obtain ⟨_, _, rfl⟩ := done
    obtain rfl := loadJob_eq loaded
    exact .of_jobsOnly (.refl _)
  · obtain ⟨_, _, _, _, settled, _, rfl⟩ := open_
    obtain rfl := loadJob_eq loaded
    refine .of_update (timeoutJobTargetInTx_jobsOnly settled) rfl fun r _ hit => ?_
    simp only [Bool.and_eq_true, decide_eq_true_eq] at hit
    exact .expirePrepared hit.1.1 hit.1.2 hit.2

lemma markCommandTerminal_moves {status : CommandStatus}
    (commits : Commits (markCommandTerminal scope id status now) db u db') :
    Moves (.markCommandTerminal scope id status now) db db' := by
  simp only [markCommandTerminal, commits_steps, commits_updateOne] at commits
  obtain ⟨⟨terminal, _⟩, _, rfl⟩ := commits
  refine .of_update (.refl _) rfl fun r _ hit => ?_
  simp only [Bool.and_eq_true, Bool.or_eq_true, decide_eq_true_eq, or_assoc] at hit
  exact .markTerminal hit.1 terminal hit.2

lemma persistTerminalCommand_moves {input : TerminalCommand}
    (commits : Commits (persistTerminalCommand input) db u db') :
    Moves (.persistTerminalCommand input) db db' := by
  simp only [persistTerminalCommand, commits_steps, commits_selectOutbox, commits_selectJob,
    commits_updateOne] at commits
  obtain ⟨valid, message, ⟨member, named⟩, _, _, _, compatible, guarded, _, rfl⟩ := commits
  refine .of_update (.refl _) rfl fun r found hit => ?_
  obtain rfl := named_unique found member hit named
  apply RowStep.persistTerminal named valid compatible
  · intro terminal
    simpa only [terminal, if_true] using guarded
  · intro unfinished rejected
    rw [if_neg (by simp [unfinished])] at guarded
    exact guarded rejected

lemma Moves.of_update_update {condition' : OutboxMessage → Bool} {set' : RowUpdate}
    (same : db' = ⟨db.jobs, (db.outbox.update condition set).update condition' set'⟩)
    (follows : ∀ r ∈ db.outbox, condition r = true → condition' (set r) = true)
    (miss : ∀ r ∈ db.outbox, condition r ≠ true → condition' r ≠ true)
    (hit : ∀ r ∈ db.outbox, condition r = true → RowStep r call (set' (set r))) :
    Moves call db db' where
  outbox := by
    rw [same]
    exact Evolves.update_update (fun r _ => .bookkeeping (.refl r)) follows miss hit
  rows := by
    rw [same]
    exact Evolves.refl fun _ _ => .refl
  owned r' member' := by
    rw [same] at member'
    obtain ⟨r₁, member₁, key₁⟩ := Table.exists_key_update member'
    obtain ⟨r, member, key⟩ := Table.exists_key_update member₁
    exact .inl ⟨r, member, key.trans key₁⟩

/-- What a committed `PersistTerminalResult` did with the row it found. -/
inductive ResultPath (input : TerminalResultCAS) (db : Database) (message : OutboxMessage) :
    TerminalResultOutcome → Database → Prop
  | attached {outcome} (terminal : message.phase.terminal = true)
      (open_ : attaches message input = true) :
      ResultPath input db message outcome ⟨db.jobs, db.outbox.update
        (fun row => row.named input.scope input.commandID && row.phase = .timedOut &&
          row.commandStatus = .timedOut && row.terminalResultDigest = none && fenceMatches row input)
        (RowUpdate.attachDigest input.resultDigest)⟩
  | duplicate {outcome} (terminal : message.phase.terminal = true)
      (closed : attaches message input ≠ true) (status : message.commandStatus = input.status)
      (digest : message.terminalResultDigest = some input.resultDigest)
      (compatible : terminalEvidenceCompatible message input.command = true)
      (counted : db.outbox.rows.countP (fun row => row.named input.scope input.commandID &&
        row.commandStatus = input.status && row.terminalAt.isSome) = 1) :
      ResultPath input db message outcome ⟨db.jobs, db.outbox.update
        (fun row => row.named input.scope input.commandID && row.commandStatus = input.status &&
          row.terminalAt.isSome)
        (RowUpdate.recordEvidence input.target input.audit)⟩
  | conflict {outcome} (terminal : message.phase.terminal = true)
      (closed : attaches message input ≠ true)
      (differs : ¬ (message.commandStatus = input.status ∧ message.terminalResultDigest = some input.resultDigest))
      (refused : outcome.persisted = false) : ResultPath input db message outcome db
  | recorded {outcome} (started : message.phase.started = true) :
      ResultPath input db message outcome ⟨db.jobs, (db.outbox.update
        (fun row => row.named input.scope input.commandID && row.phase.started &&
          fenceMatches row input) (RowUpdate.recordResult input)).update
        (fun row => row.named input.scope input.commandID && row.commandStatus = input.status &&
          row.terminalAt.isSome)
        (RowUpdate.recordEvidence input.target input.audit)⟩

/-- What `PersistTerminalResult` checks of its input. -/
structure Admitted (input : TerminalResultCAS) : Prop where
  revision : input.expectedExecutionRevision ≠ 0
  executed : input.status ≠ .rejected
  timed : input.allowTimedOutDigestAttach = true → input.status = .timedOut
  valid : validateTerminalCommand input.command = true

variable {input : TerminalResultCAS} {outcome : TerminalResultOutcome}

lemma persistTerminalResult_cases (commits : Commits (persistTerminalResult input) db outcome db') :
    Admitted input ∧ ∃ message ∈ db.outbox, message.named input.scope input.commandID = true ∧
      (db.jobs.find? (input.scope, message.jobID)).isSome = true ∧
      message.targetID = input.target.targetID ∧ fenceMatches message input = true ∧
      ResultPath input db message outcome db' := by
  simp only [persistTerminalResult, persistTerminalEvidenceTx, commits_steps, commits_selectOutbox,
    commits_selectJob, commits_ite, commits_updateOne] at commits
  obtain ⟨⟨revision, executed, timed, valid⟩, message, ⟨member, named⟩, _, found, target,
    ⟨terminal, fence, late⟩ | ⟨_, ⟨fence, started⟩, _, _, _, rfl⟩⟩ := commits
  all_goals
    refine ⟨⟨revision, executed, timed, valid⟩, message, member, named, Option.isSome_of_eq_some found, target, fence, ?_⟩
  · rcases late with ⟨open_, _, _, rfl⟩ |
      ⟨closed, ⟨⟨status, digest⟩, compatible, counted, _, rfl⟩ | ⟨differs, rfl, rfl⟩⟩
    · exact .attached terminal open_
    · exact .duplicate terminal closed status digest compatible counted
    · exact .conflict terminal closed differs rfl
  · exact .recorded started

lemma persistTerminalResult_moves (commits : Commits (persistTerminalResult input) db outcome db') :
    Moves (.persistTerminalResult input) db db' := by
  obtain ⟨admitted, message, member, named, _, _, fence, path⟩ := persistTerminalResult_cases commits
  cases path with
  | attached terminal open_ =>
    refine .of_update (.refl _) rfl fun r found hit => ?_
    simp only [Bool.and_eq_true, decide_eq_true_eq] at hit
    obtain rfl := named_unique found member hit.1.1.1.1 named
    exact .attach named fence open_
  | duplicate terminal _ status digest compatible =>
    refine .of_update (.refl _) rfl fun r found hit => ?_
    simp only [Bool.and_eq_true, decide_eq_true_eq] at hit
    obtain rfl := named_unique found member hit.1.1 named
    exact .duplicate named admitted.valid fence terminal status digest compatible
  | conflict => exact .of_jobsOnly (.refl _)
  | recorded started =>
    refine .of_update_update rfl ?_ ?_ ?_
    · intro r _ hit
      simp only [Bool.and_eq_true] at hit
      simp only [Bool.and_eq_true, decide_eq_true_eq]
      exact ⟨⟨hit.1.1, rfl⟩, rfl⟩
    · intro r found missed hit
      simp only [Bool.and_eq_true, decide_eq_true_eq] at hit
      obtain rfl := named_unique found member hit.1.1 named
      exact missed (by simp [named, started, fence])
    · intro r _ hit
      simp only [Bool.and_eq_true] at hit
      exact .result hit.1.1 admitted.valid hit.2 hit.1.2 admitted.executed

lemma persistValidationResult_moves {jobID : String} {incoming : ResultState} {effective : ValidationResult}
    (commits : Commits (persistValidationResult jobID incoming effective input) db outcome db') :
    Moves (.persistValidationResult jobID incoming effective input) db db' := by
  simp only [persistValidationResult, persistValidationEvidenceTx, commits_steps,
    commits_selectOutbox, commits_ite, commits_updateOne] at commits
  obtain ⟨_, message, ⟨member, named⟩, owned, fence, compatible, ⟨open_, _, _, _, rfl⟩ |
    ⟨_, terminal, late⟩⟩ := commits
  · refine .of_update_update rfl ?_ ?_ ?_
    · intro r _ hit
      simp only [Bool.and_eq_true, decide_eq_true_eq] at hit
      simp only [Bool.and_eq_true, decide_eq_true_eq]
      exact ⟨⟨hit.1.1, rfl⟩, rfl⟩
    · intro r found missed hit
      simp only [Bool.and_eq_true, decide_eq_true_eq] at hit
      obtain rfl := named_unique found member hit.1.1 named
      exact missed (by simp [named, owned, fence])
    · intro r found hit
      simp only [Bool.and_eq_true, decide_eq_true_eq] at hit
      obtain rfl := named_unique found member hit.1.1 named
      exact .validation named fence compatible open_
  · rcases late with ⟨⟨status, digest⟩, _, _, rfl⟩ | ⟨_, _, rfl⟩
    · refine .of_update (.refl _) rfl fun r found hit => ?_
      simp only [Bool.and_eq_true, decide_eq_true_eq] at hit
      obtain rfl := named_unique found member hit.1.1 named
      exact .validationDuplicate named fence compatible terminal status digest
    · exact .of_jobsOnly (.refl _)

lemma reconcileTerminalCommand_moves {claim : TerminalReconcileClaim}
    (commits : Commits (reconcileTerminalCommand claim now) db u db') :
    Moves (.reconcileTerminalCommand claim now) db db' := by
  simp only [reconcileTerminalCommand, commits_steps, commits_selectOutbox, commits_updateOne]
    at commits
  obtain ⟨_, _, loaded, message, ⟨member, named⟩, _, _, ⟨terminal, _⟩, ⟨target, hasDescriptor⟩,
    read, ⟨stored, _⟩, _, reconciled, _, _, finished, _, _, rfl⟩ := commits
  obtain rfl := loadJob_eq loaded
  obtain ⟨kept, agrees⟩ := reconcileTarget_jobsOnly reconciled
  refine .of_update (kept.trans (finishJob_jobsOnly finished)) rfl fun r found hit => ?_
  simp only [Bool.and_eq_true, decide_eq_true_eq] at hit
  obtain rfl := named_unique found member hit.1.1.1.1 named
  apply RowStep.reconcile named terminal
  rcases terminalTargetFromOutbox_ok read with absent | ⟨described, evidence⟩
  · exact .inl absent
  · exact .inr (evidence.trans (congrArg some (agrees described).symm))

lemma cancelValidationInTx_moves {jobID agentID : String}
    (commits : Commits (cancelValidationInTx scope jobID id agentID now) db u db') :
    Moves (.cancelValidation scope jobID id agentID now) db db' := by
  simp only [cancelValidationInTx, commits_steps, commits_selectJob, commits_selectOutbox,
    commits_updateOne] at commits
  obtain ⟨_, row, found, ⟨_, _, open_⟩, _, _, _, _, _, _, _, written, _, rfl⟩ := commits
  have kept := writeJob_jobsOnly (Table.find?_eq_some.mp found).1 (.retire open_) written
  refine .of_update kept rfl fun r _ hit => ?_
  simp only [Bool.and_eq_true, Bool.or_eq_true, decide_eq_true_eq, or_assoc] at hit
  exact .retire hit.1.1 hit.2

/-- A committed call moves every row by a row step and adds only rows of new commands. -/
theorem evolves (step : Step db call db') : Moves call db db' := by
  unfold Step at step
  cases call with
  | create => exact createInTx_moves step
  | transition =>
    simp only [Call.tx, transition, commits_steps] at step
    obtain ⟨_, _, moved⟩ := step
    exact .of_jobsOnly (transitionInTx_jobsOnly moved)
  | requestCancel =>
    exact step.ignored requestCancel_moves
  | claimOutbox | claimPendingCancellations | claimPreparedCommands | claimPendingTerminalAudits
    | claimExpiredCommands =>
    exact .of_timed_claim step fun r => by constructor <;> rfl
  | reservePrepareSlot =>
    exact step.ignored reservePrepareSlot_moves
  | markOutboxPublished =>
    simp only [Call.tx, markOutboxPublished, commits_steps, commits_updateOne] at step
    obtain ⟨_, _, _, rfl⟩ := step
    exact .of_bookkeeping rfl fun r => by constructor <;> rfl
  | prepareCommandEnvelope =>
    exact step.ignored prepareCommandEnvelope_moves
  | markPrepared => exact markPrepared_moves step
  | deferCancellation | recordTerminalReconcileFailure =>
    simp only [Call.tx, deferCancellation, recordTerminalReconcileFailure, commits_updateOne] at step
    obtain ⟨_, rfl⟩ := step
    exact .of_bookkeeping rfl fun r => by constructor <;> rfl
  | authorizeStart =>
    exact step.ignored authorizeStart_moves
  | markStartEnqueued | markTerminalAuditRecorded =>
    simp only [Call.tx, markStartEnqueued, markTerminalAuditRecorded, commits_steps, commits_updateOne] at step
    obtain ⟨_, _, rfl⟩ := step
    exact .of_bookkeeping rfl fun r => by constructor <;> rfl
  | renewExecutionLease =>
    exact step.ignored renewExecutionLease_moves
  | renewCommandLease =>
    simp only [Call.tx, renewCommandLease, commits_steps, commits_updateOne] at step
    obtain ⟨_, _, rfl⟩ := step
    refine .of_update (.refl _) rfl fun r _ hit => ?_
    simp only [Bool.and_eq_true, decide_eq_true_eq] at hit
    exact .renewLease hit.1 hit.2
  | claimExpiredExecution =>
    exact step.ignored claimExpiredExecution_moves
  | finalizeExpiredExecution => exact finalizeExpiredExecution_moves step
  | finalizeExpiredPrepared =>
    exact finalizeExpiredPrepared_moves step
  | markCommandTerminal => exact markCommandTerminal_moves step
  | persistTerminalCommand => exact persistTerminalCommand_moves step
  | persistTerminalResult =>
    exact step.ignored persistTerminalResult_moves
  | claimTerminalCommands =>
    simp only [Call.tx, claimTerminalCommands, commits_steps] at step
    obtain ⟨_, _, _, _, claimed, _, rfl⟩ := step
    exact .of_claim claimed fun r => by constructor <;> rfl
  | reconcileTerminalCommand => exact reconcileTerminalCommand_moves step
  | persistValidationResult =>
    exact step.ignored persistValidationResult_moves
  | cancelValidation => exact cancelValidationInTx_moves step

end rows

/-! ## Runs of calls -/

def exec (db : Database) : List Call → Except JobError Database
  | [] => .ok db
  | call :: rest =>
    match call.tx db with
    | .ok (_, next) => exec next rest
    | .error e => .error e

variable {calls : List Call} {db db' : Database}

lemma run_of_exec (done : exec db calls = .ok db') :
    Run Step db calls db' := by
  induction calls generalizing db with
  | nil =>
    obtain rfl := Except.ok.inj done
    exact .nil _
  | cons call rest ih =>
    unfold exec at done
    split at done
    · rename_i next committed
      exact .cons committed (ih done)
    · cases done

/-- The database after the calls, when they all commit. -/
def reached (calls : List Call) : Database :=
  match exec .empty calls with
  | .ok db => db
  | .error _ => .empty

def committed (calls : List Call) : Bool :=
  match exec .empty calls with
  | .ok _ => true
  | .error _ => false

lemma run_reached (done : committed calls = true) : Run Step .empty calls (reached calls) := by
  unfold committed at done
  unfold reached
  split at done
  · rename_i executed
    exact run_of_exec executed
  · cases done

/-- What a transaction returns, when it commits. -/
def result {α : Type} (tx : JobTx α) (db : Database) : Option α :=
  match tx db with
  | .ok (a, _) => some a
  | .error _ => none

lemma result_eq {α : Type} {tx : JobTx α} {a : α} (commits : Commits tx db a db') :
    result tx db = some a := by
  unfold result
  rw [commits]

def Reachable (db : Database) : Prop := ∃ calls, Run Step .empty calls db

lemma Reachable.extend (reach : Reachable db) (run : Run Step db calls db') : Reachable db' := by
  obtain ⟨earlier, first⟩ := reach
  exact ⟨earlier ++ calls, first.append run⟩

theorem Reachable.rows {P : OutboxMessage → Prop} (reach : Reachable db)
    (fresh : ∀ {r}, Fresh r → P r) (step : ∀ {r call r'}, RowStep r call r' → P r → P r') :
    ∀ r ∈ db.outbox, P r := by
  obtain ⟨calls, run⟩ := reach
  apply rows_invariant Database.outbox P run (fun step => (evolves step).outbox) fresh step
  intro r member
  exact absurd member Table.not_mem_empty

end DBPilot.Jobs
