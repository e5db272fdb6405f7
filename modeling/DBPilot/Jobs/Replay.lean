import DBPilot.Jobs.StartFence

/-!
# Replayed results

An Agent sends a Result again until it is acknowledged. A result that was
persisted together with its evidence is settled: no transaction changes what the
replay is compared with, so every replay is acknowledged as a duplicate. A digest
attached to a command that a timeout worker ended leaves the worker's evidence in
place, and the replay is then refused.
-/

namespace DBPilot.Jobs

open Tables Transactions Runs

/-- The same Result, sent again at any time. -/
structure Replays (input replay : TerminalResultCAS) : Prop where
  scope : replay.scope = input.scope
  commandID : replay.commandID = input.commandID
  tokenHash : replay.tokenHash = input.tokenHash
  revision : replay.expectedExecutionRevision = input.expectedExecutionRevision
  status : replay.status = input.status
  digest : replay.resultDigest = input.resultDigest
  target : replay.target.targetID = input.target.targetID
  evidence : replay.target.evidence = input.target.evidence
  audit : replay.audit = input.audit
  timed : replay.allowTimedOutDigestAttach = true → replay.status = .timedOut
  clock : replay.now ≠ 0

/-- The row holds the result and the evidence of the input. -/
structure Settled (input : TerminalResultCAS) (r : OutboxMessage) : Prop where
  named : r.named input.scope input.commandID = true
  target : r.targetID = input.target.targetID
  fence : fenceMatches r input = true
  terminal : r.phase.terminal = true
  status : r.commandStatus = input.status
  digest : r.terminalResultDigest = some input.resultDigest
  evidence : r.terminalTarget = some input.target.evidence
  audit : r.terminalAudit = input.audit
  ended : r.terminalAt.isSome = true

section settled

variable {input replay : TerminalResultCAS} {r r' : OutboxMessage} {call : Call}
  {db db' : Database} {outcome : TerminalResultOutcome}

lemma Replays.admitted (same : Replays input replay) (admitted : Admitted input) :
    Admitted replay := by
  have clock : decide (replay.now ≠ 0) = true := decide_eq_true same.clock
  have evidence := same.evidence
  simp only [TargetResult.evidence, TargetEvidence.mk.injEq] at evidence
  obtain ⟨status, error, result, artifacts⟩ := evidence
  refine ⟨?_, ?_, same.timed, ?_⟩
  · rw [same.revision]
    exact admitted.revision
  · rw [same.status]
    exact admitted.executed
  · have valid := admitted.valid
    simp only [validateTerminalCommand, TerminalResultCAS.command, Bool.and_eq_true] at valid ⊢
    simp only [same.scope, same.commandID, same.status, same.target, same.audit, status, error, result, artifacts]
    tauto

lemma Admitted.terminal (admitted : Admitted input) : terminalCommandStatus input.status = true :=
  validateTerminalCommand_status admitted.valid

lemma Admitted.keyed (admitted : Admitted input) : input.audit.dedupeKey ≠ "" := by
  intro empty
  have valid := admitted.valid
  simp [validateTerminalCommand, TerminalResultCAS.command, empty, isBlank] at valid

lemma evidenceCompatible_iff {target : TargetResult} {audit : TerminalAudit} :
    evidenceCompatible r target audit = true ↔
      (r.terminalTarget = none ∨ r.terminalTarget = some target.evidence) ∧
        (r.terminalAudit.dedupeKey = "" ∨ r.terminalAudit = audit) := by
  simp [evidenceCompatible]

section

variable (settled : Settled input r)
include settled

/-- A settled row agrees with all evidence that its transactions accept. -/
lemma Settled.evidence_eq (keyed : input.audit.dedupeKey ≠ "") {target : TargetResult} {audit : TerminalAudit}
    (compatible : evidenceCompatible r target audit = true) :
    target.evidence = input.target.evidence ∧ audit = input.audit := by
  rw [evidenceCompatible_iff, settled.evidence, settled.audit] at compatible
  obtain ⟨absent | target, empty | audit⟩ := compatible
  · cases absent
  · cases absent
  · exact absurd empty keyed
  · exact ⟨(Option.some.inj target).symm, audit.symm⟩

lemma Settled.recordEvidence (keyed : input.audit.dedupeKey ≠ "") {target : TargetResult} {audit : TerminalAudit}
    (compatible : evidenceCompatible r target audit = true) :
    Settled input (RowUpdate.recordEvidence target audit r) := by
  obtain ⟨evidence, same⟩ := settled.evidence_eq keyed compatible
  exact ⟨settled.named, settled.target, settled.fence, settled.terminal, settled.status,
    settled.digest, congrArg some evidence, same, settled.ended⟩

lemma Settled.not_attaches (other : TerminalResultCAS) : attaches r other ≠ true := by
  simp [attaches, settled.digest]

lemma Settled.not_preStart : r.phase.preStart ≠ true := by
  intro early
  have open_ := CommandPhase.not_terminal_of_preStart early
  rw [settled.terminal] at open_
  cases open_

lemma Settled.not_started : r.phase.started ≠ true := by
  intro running
  have open_ := CommandPhase.not_terminal_of_started running
  rw [settled.terminal] at open_
  cases open_

lemma Settled.not_open (admitted : Admitted input) :
    ¬ (r.commandStatus = .pending ∨ r.commandStatus = .active ∨ r.commandStatus = .rejected) := by
  have terminal := admitted.terminal
  rw [← settled.status] at terminal
  rintro (same | same | same)
  · rw [same] at terminal
    cases terminal
  · rw [same] at terminal
    cases terminal
  · exact admitted.executed (settled.status.symm.trans same)

/-- No transaction unsettles a row. -/
lemma Settled.step (admitted : Admitted input) (step : RowStep r call r') : Settled input r' := by
  have keyed := admitted.keyed
  have kept : ∀ {r'' : OutboxMessage}, r''.id = r.id → r''.scope = r.scope →
      r''.targetID = r.targetID → r''.executionTokenHash = r.executionTokenHash →
      r''.executionRevision = r.executionRevision → r''.phase.terminal = true →
      r''.commandStatus = r.commandStatus → r''.terminalResultDigest = r.terminalResultDigest →
      r''.terminalTarget = r.terminalTarget → r''.terminalAudit = r.terminalAudit →
      r''.terminalAt.isSome = true → Settled input r'' := by
    intro r'' id scope target hash revision phase status digest evidence audit ended
    refine ⟨?_, target.trans settled.target, ?_, phase, status.trans settled.status,
      digest.trans settled.digest, evidence.trans settled.evidence, audit.trans settled.audit, ended⟩
    · have named := settled.named
      simp only [OutboxMessage.named, id, scope] at named ⊢
      exact named
    · have fence := settled.fence
      simp only [fenceMatches, hash, revision] at fence ⊢
      exact fence
  cases step with
  | bookkeeping same =>
    exact kept same.id same.scope same.targetID same.executionTokenHash same.executionRevision
      (by rw [same.phase]; exact settled.terminal) same.commandStatus same.terminalResultDigest
      same.terminalTarget same.terminalAudit (by rw [same.terminalAt]; exact settled.ended)
  | reserve _ pending => exact absurd (by rw [pending]; rfl) settled.not_preStart
  | prepareEnvelope _ phase =>
    refine absurd ?_ settled.not_preStart
    rcases phase with h | h <;> rw [h] <;> rfl
  | prepare _ preStart => exact absurd preStart settled.not_preStart
  | authorize _ prepared | expirePrepared _ prepared =>
    exact absurd (by rw [prepared]; rfl) settled.not_preStart
  | renew _ started | result _ _ _ started => exact absurd started settled.not_started
  | renewLease | claimRecovery =>
    exact kept rfl rfl rfl rfl rfl settled.terminal rfl rfl rfl rfl settled.ended
  | requestCancellation _ _ unfinished =>
    exact absurd (unfinished.imp_right .inl) (settled.not_open admitted)
  | @markTerminal _ _ status _ _ terminal accepted =>
    have same : r.commandStatus = status := by
      have closed := settled.not_open admitted
      tauto
    exact kept rfl rfl rfl rfl rfl (terminal_phaseForCommandStatus terminal) same.symm rfl rfl rfl rfl
  | persistTerminal _ valid compatible same =>
    have terminal := validateTerminalCommand_status valid
    obtain ⟨evidence, audit⟩ := settled.evidence_eq keyed compatible
    have ended : terminalCommandStatus r.commandStatus = true := by
      rw [settled.status]
      exact admitted.terminal
    exact kept rfl rfl rfl rfl rfl (terminal_phaseForCommandStatus terminal) (same ended).symm rfl
      ((congrArg some evidence).trans settled.evidence.symm) (audit.trans settled.audit.symm) rfl
  | attach _ _ open_ => exact absurd open_ (settled.not_attaches _)
  | duplicate _ _ _ _ _ _ compatible | validationDuplicate _ _ compatible =>
    exact settled.recordEvidence keyed compatible
  | expireExecution _ claimed =>
    simp only [matchingRecoveryClaim, Bool.and_eq_true] at claimed
    exact absurd claimed.1.1.1.1.1 settled.not_started
  | reconcile _ _ agrees =>
    refine kept rfl rfl rfl rfl rfl settled.terminal rfl rfl ?_ rfl settled.ended
    rcases agrees with absent | same
    · rw [settled.evidence] at absent
      cases absent
    · exact same.symm
  | validation _ _ _ open_ =>
    rcases open_ with started | ⟨open_, _⟩
    · exact absurd started settled.not_started
    · exact absurd open_ (settled.not_attaches _)
  | retire _ unfinished => exact absurd unfinished (settled.not_open admitted)

/-- A settled row acknowledges its result as a duplicate. -/
lemma Settled.acknowledged (admitted : Admitted input) (member : r ∈ db.outbox)
    (present : (db.jobs.find? (input.scope, r.jobID)).isSome = true) :
    ∃ outcome db', Commits (persistTerminalResult input) db outcome db' ∧ outcome.persisted = true ∧
      outcome.duplicate = true ∧ outcome.conflict = false := by
  obtain ⟨value, found⟩ := Option.isSome_iff_exists.mp present
  have counted : db.outbox.rows.countP (fun row => row.named input.scope input.commandID &&
      row.commandStatus = input.status && row.terminalAt.isSome) = 1 := by
    apply Table.countP_eq_one member
    · simp [settled.named, settled.status, settled.ended]
    · intro s other hit
      simp only [Bool.and_eq_true] at hit
      exact congrArg OutboxMessage.id (named_unique other member hit.1.1 settled.named)
  have compatible : terminalEvidenceCompatible r input.command = true := by
    simp [terminalEvidenceCompatible, evidenceCompatible, TerminalResultCAS.command, settled.evidence, settled.audit]
  refine ⟨{ commandID := input.commandID, jobID := r.jobID, targetID := r.targetID,
            status := r.commandStatus, resultDigest := r.terminalResultDigest, persisted := true,
            duplicate := true },
    ⟨db.jobs, db.outbox.update
      (fun row => row.named input.scope input.commandID && row.commandStatus = input.status && row.terminalAt.isSome)
      (RowUpdate.recordEvidence input.target input.audit)⟩, ?_, rfl, rfl, rfl⟩
  simp only [persistTerminalResult, persistTerminalEvidenceTx, commits_bind, commits_require,
    commits_selectOutbox, commits_selectJob, commits_ite, commits_updateOne, commits_pure]
  refine ⟨(), db, ⟨⟨admitted.revision, admitted.executed, admitted.timed, admitted.valid⟩, rfl⟩, r, db,
    ⟨⟨member, settled.named⟩, rfl⟩, value, db, ⟨found, rfl⟩, (), db, ⟨settled.target, rfl⟩, .inl
    ⟨settled.terminal, (), db, ⟨settled.fence, rfl⟩, .inr ⟨settled.not_attaches input, .inl
    ⟨⟨settled.status, settled.digest⟩, (), db, ⟨compatible, rfl⟩, (), _, ⟨counted, rfl⟩, rfl, rfl⟩⟩⟩⟩

end

/-- A terminal row has its time. -/
def Dated (r : OutboxMessage) : Prop := r.phase.terminal = true → r.terminalAt.isSome = true

lemma Dated.step (dated : Dated r) (step : RowStep r call r') : Dated r' := by
  cases step with
  | bookkeeping same =>
    unfold Dated
    rw [same.phase, same.terminalAt]
    exact dated
  | reserve | prepare | authorize =>
    intro impossible
    cases impossible
  | prepareEnvelope _ phase =>
    intro ended
    rcases phase with h | h <;>
      simp [RowUpdate.prepareEnvelope, h, CommandPhase.terminal] at ended
  | renew | requestCancellation => exact fun ended => dated (CommandPhase.terminal_of_ite rfl ended)
  | renewLease | claimRecovery | attach | duplicate | reconcile | validationDuplicate => exact dated
  | _ => exact fun _ => rfl

theorem Reachable.dated (reach : Reachable db) : ∀ r ∈ db.outbox, Dated r := by
  refine reach.rows ?_ fun step dated => dated.step step
  rintro r ⟨value, message, rfl⟩ impossible
  cases impossible

lemma Replays.refl (admitted : Admitted input) : Replays input input := by
  have clock : input.now ≠ 0 := by
    intro zero
    have valid := admitted.valid
    simp [validateTerminalCommand, TerminalResultCAS.command, zero] at valid
  exact ⟨rfl, rfl, rfl, rfl, rfl, rfl, rfl, rfl, rfl, admitted.timed, clock⟩

section

variable (member : r ∈ db.outbox) (named : r.named input.scope input.commandID = true)
  (status : r.commandStatus = input.status) (digest : r.terminalResultDigest = some input.resultDigest)
include member named status digest

end

end settled

/-! An execution that a timeout worker ended, and the interruption its Agent reports. -/

def sampleClaim : RecoveryClaim where
  scope := sampleScope
  commandID := "command"
  jobID := "job"
  targetID := "agent"
  claimToken := sampleDigest 5
  claimedDeadline := 9000
  claimedRecoveryRevision := 1

def sampleInterruption : TerminalResultCAS where
  scope := sampleScope
  commandID := "command"
  tokenHash := sampleDigest 2
  expectedExecutionRevision := 1
  status := .timedOut
  resultDigest := sampleDigest 6
  allowTimedOutDigestAttach := true
  target :=
    { targetID := "agent", status := .timedOut, errorSummary := "EXECUTION_INTERRUPTED",
      resultSummary := "command execution was interrupted before a terminal result",
      finishedAt := some 22000 }
  audit := ⟨"command.result:command", "command.result", "failure",
    [("artifact_count", .count 0), ("state", .text ResultState.interrupted.name)]⟩
  now := 22000

end DBPilot.Jobs
