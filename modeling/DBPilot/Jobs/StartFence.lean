import DBPilot.Jobs.Commands
import DBPilot.Lib.StartFence

/-!
# Cancellation and Start

The Start fence of a command is what `AuthorizeStart` writes once: the hash and
the ciphertext of the execution token, the execution revision and the start
deadline. Rows refine the stages of a fenced task, whatever transactions run, so
a command cancelled before its Start stays without a fence and a fence never
changes.
-/

namespace DBPilot.Jobs

open Tables Transactions Runs StartFence

structure Fence where
  tokenHash : Digest
  ciphertext : Bytes
  executionRevision : Nat
  startDeadline : Instant
  sealed : ciphertext ≠ []
  positive : executionRevision ≠ 0

namespace OutboxMessage

def fence (r : OutboxMessage) : Option Fence :=
  match r.executionTokenHash, r.executionTokenCiphertext, r.startDeadline with
  | some tokenHash, some ciphertext, some startDeadline =>
    if usable : ciphertext ≠ [] ∧ r.executionRevision ≠ 0 then
      some ⟨tokenHash, ciphertext, r.executionRevision, startDeadline, usable.1, usable.2⟩
    else none
  | _, _, _ => none

def stage (r : OutboxMessage) : Stage Fence :=
  match r.fence with
  | some fence => if r.phase.terminal then .ended (some fence) else .started fence
  | none => if r.phase.terminal then .ended none else .waiting r.cancellationRequestedAt.isSome

variable {r : OutboxMessage} {f : Fence}

lemma fence_eq_none_of_hash (absent : r.executionTokenHash = none) : r.fence = none := by
  simp [fence, absent]

lemma fence_eq_some : r.fence = some f ↔ r.executionTokenHash = some f.tokenHash ∧
    r.executionTokenCiphertext = some f.ciphertext ∧ r.executionRevision = f.executionRevision ∧
    r.startDeadline = some f.startDeadline := by
  unfold fence
  constructor
  · intro found
    split at found
    · split at found
      · cases found
        refine ⟨?_, ?_, rfl, ?_⟩ <;> assumption
      · cases found
    · cases found
  · rintro ⟨hash, ciphertext, revision, deadline⟩
    have usable : f.ciphertext ≠ [] ∧ r.executionRevision ≠ 0 := ⟨f.sealed, revision ▸ f.positive⟩
    simp only [hash, ciphertext, deadline]
    rw [dif_pos usable]
    congr

end OutboxMessage

/-! ## The columns agree -/

structure Sound (r : OutboxMessage) : Prop where
  status : r.commandStatus = r.phase.status
  preStart : r.phase.preStart = true → r.executionTokenHash = none
  started : r.phase.started = true → r.fence.isSome = true
  whole : r.executionTokenHash.isSome = true → r.fence.isSome = true
  recovery : r.executionTokenHash.isSome = true → r.recoveryRevision ≠ 0

variable {ciphertext : Bytes}

section rows

variable {r r' : OutboxMessage} {call : Call}

lemma RowStep.identity (step : RowStep r call r') : r'.id = r.id ∧ r'.scope = r.scope ∧
    r'.jobID = r.jobID ∧ r'.targetID = r.targetID ∧ r'.payload = r.payload := by
  cases step with
  | bookkeeping same => exact ⟨same.id, same.scope, same.jobID, same.targetID, same.payload⟩
  | _ => exact ⟨rfl, rfl, rfl, rfl, rfl⟩

lemma Bookkeeping.fence (same : Bookkeeping r r') : r'.fence = r.fence := by
  simp only [OutboxMessage.fence, same.executionTokenHash, same.executionTokenCiphertext,
    same.executionRevision, same.startDeadline]

/-- The fence, the recovery revision and the cancellation mark are not taken back. -/
structure FenceKept (r r' : OutboxMessage) : Prop where
  hash : r'.executionTokenHash = r.executionTokenHash
  fence : r'.fence = r.fence
  recovery : r.recoveryRevision ≤ r'.recoveryRevision
  cancelled : r.cancellationRequestedAt.isSome = true → r'.cancellationRequestedAt.isSome = true

/-- And no phase is taken back, nor is the command started. -/
structure Advances (r r' : OutboxMessage) : Prop extends FenceKept r r' where
  status : r'.commandStatus = r'.phase.status
  preStart : r'.phase.preStart = true → r.phase.preStart = true
  started : r'.phase.started = true → r.phase.started = true
  terminal : r.phase.terminal = true → r'.phase.terminal = true

section

variable (kept : FenceKept r r')
include kept

lemma Advances.of_phase (status : r.commandStatus = r.phase.status)
    (sameStatus : r'.commandStatus = r.commandStatus) (samePhase : r'.phase = r.phase) : Advances r r' where
  toFenceKept := kept
  status := by rw [sameStatus, samePhase, status]
  preStart := by rw [samePhase]; exact id
  started := by rw [samePhase]; exact id
  terminal := by rw [samePhase]; exact id

lemma Advances.of_terminal (status : r'.commandStatus = r'.phase.status) (ended : r'.phase.terminal = true) :
    Advances r r' where
  toFenceKept := kept
  status := status
  preStart early := by
    have open_ := CommandPhase.not_terminal_of_preStart early
    rw [ended] at open_
    cases open_
  started running := by
    have open_ := CommandPhase.not_terminal_of_started running
    rw [ended] at open_
    cases open_
  terminal _ := ended

/-- The phase moves among the phases before a Start, or among those after it. -/
lemma Advances.of_preStart (sameStatus : r'.commandStatus = r.commandStatus)
    (status : r.commandStatus = r.phase.status) (early : r.phase.preStart = true)
    (early' : r'.phase.preStart = true) : Advances r r' where
  toFenceKept := kept
  status := by
    rw [sameStatus, status, CommandPhase.status_eq_pending.mpr early, CommandPhase.status_eq_pending.mpr early']
  preStart _ := early
  started running := by
    rw [CommandPhase.not_started_of_preStart early'] at running
    cases running
  terminal ended := by
    rw [CommandPhase.not_terminal_of_preStart early] at ended
    cases ended

lemma Advances.of_started (sameStatus : r'.commandStatus = r.commandStatus)
    (status : r.commandStatus = r.phase.status) (running : r.phase.started = true)
    (running' : r'.phase.started = true) : Advances r r' where
  toFenceKept := kept
  status := by
    rw [sameStatus, status, CommandPhase.status_eq_active.mpr running, CommandPhase.status_eq_active.mpr running']
  preStart early := by
    rw [CommandPhase.not_started_of_preStart early] at running'
    cases running'
  started _ := running
  terminal ended := by
    rw [CommandPhase.not_terminal_of_started running] at ended
    cases ended

end

lemma validateTerminalCommand_status {input : TerminalCommand}
    (valid : validateTerminalCommand input = true) : terminalCommandStatus input.status = true := by
  simp only [validateTerminalCommand, Bool.and_eq_true] at valid
  tauto

lemma terminal_effectiveValidationCommandStatus (incoming : ResultState)
    (effective : ValidationResult) :
    terminalCommandStatus (effectiveValidationCommandStatus incoming effective) = true := by
  cases incoming <;> simp only [effectiveValidationCommandStatus] <;> first | rfl | (split <;> rfl)

/-- Only an authorisation writes a fence; every other step advances the row. -/
lemma RowStep.advances (step : RowStep r call r') (status : r.commandStatus = r.phase.status) :
    Advances r r' ∨ ∃ tokenHash ciphertext now deadline, r.phase = .prepared ∧
      r.cancellationRequestedAt = none ∧ ciphertext ≠ [] ∧
      r' = RowUpdate.authorize tokenHash ciphertext now deadline r := by
  have kept : ∀ {r'' : OutboxMessage}, r''.executionTokenHash = r.executionTokenHash →
      r''.fence = r.fence → r''.recoveryRevision = r.recoveryRevision →
      r''.cancellationRequestedAt = r.cancellationRequestedAt → FenceKept r r'' :=
    fun hash fence recovery cancelled => ⟨hash, fence, recovery.ge, by rw [cancelled]; exact id⟩
  have ended {r'' : OutboxMessage} (fence : FenceKept r r'') (terminal : terminalCommandStatus r''.commandStatus = true)
      (phase : r''.phase = phaseForCommandStatus r''.commandStatus) : Advances r r'' := by
    refine .of_terminal fence ?_ ?_ <;> rw [phase]
    · cases status : r''.commandStatus <;>
        simp_all [terminalCommandStatus, phaseForCommandStatus, CommandPhase.status]
    · exact terminal_phaseForCommandStatus terminal
  cases step with
  | bookkeeping same =>
    exact .inl (.of_phase
      (kept same.executionTokenHash same.fence same.recoveryRevision same.cancellationRequestedAt)
      status same.commandStatus same.phase)
  | reserve _ pending =>
    exact .inl (.of_preStart (kept rfl rfl rfl rfl) rfl status (by rw [pending]; rfl) rfl)
  | prepareEnvelope _ phase =>
    refine .inl (.of_preStart (kept rfl rfl rfl rfl) rfl status ?_ ?_)
    · rcases phase with h | h <;> rw [h] <;> rfl
    · rcases phase with h | h <;> simp [RowUpdate.prepareEnvelope, h, CommandPhase.preStart]
  | prepare _ preStart =>
    exact .inl (.of_preStart (kept rfl rfl rfl rfl) rfl status preStart rfl)
  | authorize _ prepared free _ sealed => exact .inr ⟨_, _, _, _, prepared, free, sealed, rfl⟩
  | renew _ started =>
    refine .inl (.of_started ⟨rfl, rfl, Nat.le_succ _, id⟩ rfl status started ?_)
    show (if r.phase = .startAuthorized then CommandPhase.running else r.phase).started = true
    split
    · rfl
    · exact started
  | renewLease | claimRecovery | attach | duplicate | reconcile | validationDuplicate =>
    exact .inl (.of_phase (kept rfl rfl rfl rfl) status rfl rfl)
  | requestCancellation =>
    left
    have mark (now : Instant) : FenceKept r (RowUpdate.requestCancellation now cancellationReason r) :=
      ⟨rfl, rfl, le_rfl, fun _ => rfl⟩
    by_cases started : r.phase.started = true
    · refine .of_started (mark _) rfl status started ?_
      show (if r.phase.started = true then CommandPhase.cancelling else r.phase).started = true
      rw [if_pos started]
      rfl
    · exact .of_phase (mark _) status rfl (if_neg started)
  | markTerminal _ terminal => exact .inl (ended (kept rfl rfl rfl rfl) terminal rfl)
  | persistTerminal _ valid =>
    exact .inl (ended (kept rfl rfl rfl rfl) (validateTerminalCommand_status valid) rfl)
  | result _ valid => exact .inl (ended (kept rfl rfl rfl rfl) (validateTerminalCommand_status valid) rfl)
  | expireExecution | expirePrepared | retire => exact .inl (.of_terminal (kept rfl rfl rfl rfl) rfl rfl)
  | validation =>
    exact .inl (ended (kept rfl rfl rfl rfl) (terminal_effectiveValidationCommandStatus _ _) rfl)

lemma fence_authorize {tokenHash : Digest} {now deadline : Instant}
    (sealed : ciphertext ≠ []) : (RowUpdate.authorize tokenHash ciphertext now deadline r).fence =
      some ⟨tokenHash, ciphertext, 1, timestamptz deadline, sealed, Nat.one_ne_zero⟩ :=
  OutboxMessage.fence_eq_some.mpr ⟨rfl, rfl, rfl, rfl⟩

lemma Sound.step (sound : Sound r) (step : RowStep r call r') : Sound r' := by
  rcases step.advances sound.status with adv | ⟨tokenHash, ciphertext, now, deadline, _, _, sealed, rfl⟩
  · constructor
    · exact adv.status
    · intro early
      exact adv.hash.trans (sound.preStart (adv.preStart early))
    · intro running
      rw [adv.fence]
      exact sound.started (adv.started running)
    · rw [adv.hash, adv.fence]
      exact sound.whole
    · intro hashed
      rw [adv.hash] at hashed
      have positive := sound.recovery hashed
      have grows := adv.recovery
      omega
  · have fenced : (RowUpdate.authorize tokenHash ciphertext now deadline r).fence.isSome = true := by
      rw [fence_authorize sealed]
      rfl
    refine ⟨rfl, ?_, fun _ => fenced, fun _ => fenced, fun _ => Nat.one_ne_zero⟩
    intro early
    cases early

lemma Fresh.sound (fresh : Fresh r) : Sound r := by
  obtain ⟨value, message, rfl⟩ := fresh
  constructor
  · rfl
  · intro _
    rfl
  all_goals
    intro impossible
    cases impossible

/-- A row step refines a step of the fenced task. -/
theorem RowStep.stage (step : RowStep r call r') (sound : Sound r) : Stage.Step r.stage r'.stage := by
  rcases step.advances sound.status with adv | ⟨tokenHash, ciphertext, now, deadline, prepared, free, sealed, rfl⟩
  · have ended := adv.terminal
    have cancelled := adv.cancelled
    unfold OutboxMessage.stage
    rw [adv.fence]
    cases r.fence with
    | some =>
      cases before : r.phase.terminal <;> cases after : r'.phase.terminal <;>
        simp_all [Stage.Step.stay, Stage.Step.finish]
    | none =>
      cases before : r.phase.terminal <;> cases after : r'.phase.terminal <;>
        cases mark : r.cancellationRequestedAt.isSome <;> cases mark' : r'.cancellationRequestedAt.isSome <;>
        simp_all [Stage.Step.stay, Stage.Step.cancel, Stage.Step.abandon]
  · have unfenced : r.fence = none :=
      OutboxMessage.fence_eq_none_of_hash (sound.preStart (by rw [prepared]; rfl))
    have waiting : r.stage = .waiting false := by
      simp [OutboxMessage.stage, unfenced, prepared, free, CommandPhase.terminal]
    have started : ∃ fence, (RowUpdate.authorize tokenHash ciphertext now deadline r).stage = .started fence := by
      rw [OutboxMessage.stage, fence_authorize sealed]
      exact ⟨_, rfl⟩
    obtain ⟨fence, started⟩ := started
    rw [waiting, started]
    exact .start fence

end rows

/-! ## Runs -/

section runs

variable {db db' : Database} {calls : List Call} {r r' : OutboxMessage} {f : Fence}

theorem Reachable.sound (reach : Reachable db) : ∀ r ∈ db.outbox, Sound r :=
  reach.rows Fresh.sound fun step sound => sound.step step

/-- The row of a command, followed through a call. -/
lemma Step.row {call : Call} (step : Step db call db') (member : r ∈ db.outbox)
    (member' : r' ∈ db'.outbox) (same : r'.id = r.id) : RowStep r call r' :=
  (evolves step).outbox.of_key (fun _ _ step => step.identity.1) member member' same

variable {scope : Scope}

lemma named_id {id : String} (named : r.named scope id = true) : r.id = id := by
  simp only [OutboxMessage.named, Bool.and_eq_true, decide_eq_true_eq] at named
  exact named.1

lemma named_scope {id : String} (named : r.named scope id = true) : r.scope = scope := by
  simp only [OutboxMessage.named, Bool.and_eq_true, decide_eq_true_eq] at named
  exact named.2

lemma Sound.not_started (sound : Sound r) (unfenced : r.fence = none) : r.phase.started = false := by
  by_contra running
  have fenced := sound.started (by simpa using running)
  rw [unfenced] at fenced
  cases fenced

end runs

/-! A job with one target, and the calls that prepare and start its command. -/

def sampleScope : Scope := ⟨"tenant", "project"⟩

def sampleDigest (b : UInt8) : Digest := ⟨List.replicate 32 b, List.length_replicate⟩

def sampleJob : Job where
  id := "job"
  jobType := "inspection.collect"
  scope := sampleScope
  status := .queued
  outcome := .none
  targetResourceIDs := ["agent"]
  idempotencyKey := "key"
  version := 1
  progress := ⟨1, 0, 0, 0⟩
  targetResults := []
  createdAt := 1000
  maxConcurrency := 1
  targetTimeout := 60 * second

def sampleMessage : NewMessage := ⟨"command", "agent", ⟨"agent", 60, false⟩, 1000, 1000⟩

def preparedCalls : List Call :=
  [.create sampleJob [sampleMessage], .claimOutbox ["command"] 2000,
    .reservePrepareSlot sampleScope "command" 2000,
    .prepareCommandEnvelope sampleScope "command" [1],
    .markPrepared sampleScope "command" (sampleDigest 1) 3000]

def sampleStart : Call :=
  .authorizeStart sampleScope "command" (sampleDigest 1) (sampleDigest 2) [2] 4000 9000

end DBPilot.Jobs
