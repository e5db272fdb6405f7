import DBPilot.Jobs.Replay

/-!
# Timeout claims

A timeout worker claims a command whose execution deadline has passed and ends
it later, in a transaction of its own. A renewal, a result and a further claim
take the claim away, and nothing gives it back, so a claim that still ends its
command was never contended.
-/

namespace DBPilot.Jobs

open Tables Transactions Runs

/-- The claim tokens a call draws. -/
def Call.claimTokens : Call → List Digest
  | .claimExpiredExecution chosen _ => chosen.map (·.2)
  | _ => []

/-- The command is executing under this claim token. -/
def Held (id : String) (token : Digest) (db : Database) : Prop :=
  ∃ r ∈ db.outbox, r.id = id ∧ r.phase.started = true ∧ r.recoveryClaimToken = some token

/-- The command has ended. -/
def Over (id : String) (db : Database) : Prop := ∃ r ∈ db.outbox, r.id = id ∧ r.phase.terminal = true

/-- A step that makes the command terminal. -/
def Ends (id : String) (db db' : Database) : Prop := ¬ Over id db ∧ Over id db'

def Call.renews (id : String) : Call → Prop
  | .renewExecutionLease _ commandID _ _ _ _ => commandID = id
  | _ => False

def Call.reports (id : String) : Call → Prop
  | .persistTerminalResult input => input.commandID = id
  | _ => False

/-- A committed `ClaimExpiredExecution` that returns a claim on the command. -/
def Call.claims (id : String) (db : Database) : Call → Prop
  | .claimExpiredExecution chosen now =>
    ∃ claims ∈ result (Jobs.claimExpiredExecution chosen now) db, ∃ claim ∈ claims, claim.commandID = id
  | _ => False

section rows

variable {r r' : OutboxMessage} {call : Call} {token : Digest}

/-- Only a claim writes a claim token, and only on a command that is executing. -/
lemma RowStep.held (step : RowStep r call r') (other : token ∉ call.claimTokens)
    (started : r'.phase.started = true) (held : r'.recoveryClaimToken = some token) :
    r.phase.started = true ∧ r.recoveryClaimToken = some token := by
  cases step with
  | bookkeeping same =>
    rw [same.phase] at started
    rw [same.recoveryClaimToken] at held
    exact ⟨started, held⟩
  | prepareEnvelope _ phase =>
    rcases phase with early | early <;>
      simp [RowUpdate.prepareEnvelope, early, CommandPhase.started] at started
  | renewLease | attach | duplicate | reconcile | validationDuplicate => exact ⟨started, held⟩
  | claimRecovery =>
    obtain ⟨_, _, listed, _⟩ := List.lookup_eq_some_iff.mp held
    exact absurd (by simp [Call.claimTokens, listed]) other
  | requestCancellation =>
    by_cases running : r.phase.started = true
    · exact ⟨running, held⟩
    · simp [RowUpdate.requestCancellation, running] at started
  -- Every other step leaves the phases of an execution or clears the token.
  | _ => contradiction

end rows

section calls

variable {db db' : Database} {call : Call} {id : String} {token : Digest}

lemma Step.held (step : Step db call db') (other : token ∉ call.claimTokens)
    (held : Held id token db') : Held id token db := by
  obtain ⟨r', member', same, started, owner⟩ := held
  rcases (evolves step).outbox.backward r' member' with ⟨r, member, row⟩ | ⟨_, _, rfl⟩
  · exact ⟨r, member, row.identity.1.symm.trans same, row.held other started owner⟩
  · cases started

lemma Step.keeps_over (step : Step db call db') (sound : ∀ r ∈ db.outbox, Sound r) (finished : Over id db) :
    Over id db' := by
  obtain ⟨r, member, same, ended⟩ := finished
  obtain ⟨r', member', row⟩ := (evolves step).outbox.forward r member
  refine ⟨r', member', row.identity.1.trans same, ?_⟩
  rcases row.advances (sound r member).status with adv | ⟨_, _, _, _, prepared, _⟩
  · exact adv.terminal ended
  · rw [prepared] at ended
    cases ended

lemma Held.not_over (held : Held id token db) : ¬ Over id db := by
  obtain ⟨r, member, same, started, _⟩ := held
  rintro ⟨r', member', same', ended⟩
  obtain rfl := Table.eq_of_key member member' (same.trans same'.symm)
  rw [CommandPhase.not_terminal_of_started started] at ended
  cases ended

variable {now : Instant}

/-- A renewal finds the command executing and clears its claim. -/
lemma renewExecutionLease_row {scope : Scope} {tokenHash : Digest} {revision n : Nat} {deadline : Instant}
    (commits : Commits (renewExecutionLease scope id tokenHash revision now deadline) db n db') :
    ∃ r ∈ db.outbox, r.id = id ∧ r.phase.started = true ∧ RowUpdate.renew now deadline r ∈ db'.outbox := by
  simp only [renewExecutionLease, commits_steps, commits_findOutbox, commits_updateOne] at commits
  obtain ⟨_, _, _, counted, _, rfl⟩ := commits
  obtain ⟨r, member, hit⟩ := List.countP_pos_iff.mp (by rw [counted]; exact Nat.one_pos)
  refine ⟨r, member, ?_, ?_, Table.mem_update.mpr ⟨r, member, if_pos hit⟩⟩
  · simp only [Bool.and_eq_true] at hit
    exact named_id hit.1.1.1
  · simp only [Bool.and_eq_true] at hit
    exact hit.1.1.2

/-- A result is reported on a command that has ended or ends it. -/
lemma persistTerminalResult_over {input : TerminalResultCAS} {outcome : TerminalResultOutcome}
    (commits : Commits (persistTerminalResult input) db outcome db') :
    Over input.commandID db ∨ Over input.commandID db' := by
  obtain ⟨admitted, message, member, named, _, _, fence, path⟩ := persistTerminalResult_cases commits
  cases path with
  | attached terminal | duplicate terminal | conflict terminal =>
    exact .inl ⟨message, member, named_id named, terminal⟩
  | recorded started =>
    right
    refine ⟨_, Table.mem_update_of_mem (Table.mem_update_of_mem member), ?_⟩
    have hit : (message.named input.scope input.commandID && message.phase.started &&
        fenceMatches message input) = true := by simp [named, started, fence]
    have follows : ((RowUpdate.recordResult input message).named input.scope input.commandID &&
        (RowUpdate.recordResult input message).commandStatus = input.status &&
        (RowUpdate.recordResult input message).terminalAt.isSome) = true := by
      simp only [Bool.and_eq_true, decide_eq_true_eq]
      exact ⟨⟨named, rfl⟩, rfl⟩
    rw [if_pos hit, if_pos follows]
    exact ⟨named_id named, terminal_phaseForCommandStatus admitted.terminal⟩

variable {claim : RecoveryClaim}

/-- A claim describes a row that is executing, which now carries its token. -/
lemma claimExpiredExecution_row {chosen : List (String × Digest)} {claims : List RecoveryClaim}
    (commits : Commits (claimExpiredExecution chosen now) db claims db')
    (mine : claim ∈ claims) :
    ∃ r ∈ db.outbox, expiredExecution now r = true ∧ claim = recoveryClaimOf claim.claimToken r ∧
      chosen.lookup r.id = some claim.claimToken ∧
      RowUpdate.claimRecovery chosen now r ∈ db'.outbox := by
  simp only [claimExpiredExecution, commits_steps, commits_updateOutbox] at commits
  obtain ⟨_, rfl, rfl⟩ := commits
  obtain ⟨r, filtered, built⟩ := List.mem_filterMap.mp mine
  obtain ⟨member, expired⟩ := List.mem_filter.mp filtered
  obtain ⟨token, drawn, rfl⟩ := Option.map_eq_some_iff.mp built
  exact ⟨r, member, expired, rfl, drawn, Table.mem_update.mpr ⟨r, member, if_pos (by simp [drawn, expired])⟩⟩

lemma expiredExecution_fields {r : OutboxMessage} (expired : expiredExecution now r = true) :
    r.phase.started = true ∧ ∃ deadline, r.executionDeadline = some deadline := by
  simp only [expiredExecution, Bool.and_eq_true] at expired
  obtain ⟨deadline, known, _⟩ := (Option.any_eq_true _ _).mp expired.1.2
  exact ⟨expired.1.1, deadline, known⟩

/-- A claim is in force once it is taken. -/
lemma matching_of_claim {chosen : List (String × Digest)} {claims : List RecoveryClaim}
    (commits : Commits (claimExpiredExecution chosen now) db claims db') (mine : claim ∈ claims) :
    ∃ r ∈ db'.outbox, r.named claim.scope claim.commandID = true ∧ matchingRecoveryClaim r claim = true := by
  obtain ⟨r, _, expired, described, drawn, claimed⟩ := claimExpiredExecution_row commits mine
  obtain ⟨started, deadline, known⟩ := expiredExecution_fields expired
  refine ⟨_, claimed, ?_, ?_⟩
  · rw [described]
    simp [OutboxMessage.named, RowUpdate.claimRecovery, recoveryClaimOf]
  · rw [described]
    simp [matchingRecoveryClaim, RowUpdate.claimRecovery, recoveryClaimOf, started, known, drawn]

/-- A command that holds its claim was not renewed by the step before. -/
lemma Step.not_renews (step : Step db call db') (held : Held id token db') : ¬ call.renews id := by
  intro renewed
  cases call with
  | renewExecutionLease =>
    obtain rfl := renewed
    obtain ⟨_, commits⟩ := commits_ignore.mp step
    obtain ⟨r, _, same, _, member⟩ := renewExecutionLease_row commits
    obtain ⟨r', member', same', _, owner⟩ := held
    obtain rfl := Table.eq_of_key member member' (same.trans same'.symm)
    cases owner
  | _ => exact renewed

lemma Step.not_reports (step : Step db call db') (held : Held id token db)
    (held' : Held id token db') : ¬ call.reports id := by
  intro reported
  cases call with
  | persistTerminalResult =>
    obtain rfl := reported
    obtain ⟨_, commits⟩ := commits_ignore.mp step
    rcases persistTerminalResult_over commits with finished | finished
    · exact held.not_over finished
    · exact held'.not_over finished
  | _ => exact reported

lemma Step.not_claims (step : Step db call db') (other : token ∉ call.claimTokens)
    (held : Held id token db') : ¬ call.claims id db := by
  intro claimed
  cases call with
  | claimExpiredExecution chosen now =>
    obtain ⟨claims, answered, claim, mine, rfl⟩ := claimed
    obtain ⟨_, commits⟩ := commits_ignore.mp step
    rw [result_eq commits] at answered
    obtain rfl := Option.some.inj answered
    obtain ⟨r, _, _, same, drawn, member⟩ := claimExpiredExecution_row commits mine
    obtain ⟨r', member', same', _, owner⟩ := held
    have named : (RowUpdate.claimRecovery chosen now r).id = claim.commandID := by
      rw [same]
      rfl
    obtain rfl := Table.eq_of_key member member' (named.trans same'.symm)
    obtain ⟨_, _, listed, _⟩ := List.lookup_eq_some_iff.mp owner
    exact other (by simp [Call.claimTokens, listed])
  | _ => exact claimed

/-- A command that has ended is neither renewed nor claimed. -/
lemma Over.quiet (finished : Over id db) (step : Step db call db') : ¬ call.renews id ∧ ¬ call.claims id db := by
  obtain ⟨r, member, same, ended⟩ := finished
  have idle : ∀ r' ∈ db.outbox, r'.id = id → r'.phase.started ≠ true := by
    intro r' member' same' started
    obtain rfl := Table.eq_of_key member member' (same.trans same'.symm)
    rw [CommandPhase.not_terminal_of_started started] at ended
    cases ended
  cases call with
  | renewExecutionLease =>
    refine ⟨?_, fun claimed => claimed⟩
    rintro rfl
    obtain ⟨_, commits⟩ := commits_ignore.mp step
    obtain ⟨r', member', same', started, _⟩ := renewExecutionLease_row commits
    exact idle r' member' same' started
  | claimExpiredExecution =>
    refine ⟨fun renewed => renewed, ?_⟩
    rintro ⟨claims, answered, claim, mine, rfl⟩
    obtain ⟨_, commits⟩ := commits_ignore.mp step
    rw [result_eq commits] at answered
    obtain rfl := Option.some.inj answered
    obtain ⟨r', member', expired, described, _⟩ := claimExpiredExecution_row commits mine
    refine idle r' member' ?_ (expiredExecution_fields expired).1
    rw [described]
    rfl
  | _ => exact ⟨fun renewed => renewed, fun claimed => claimed⟩

/-- A claim that ends its command was in force. -/
lemma finalizeExpiredExecution_ends
    (step : Step db (.finalizeExpiredExecution claim now) db') :
    Held claim.commandID claim.claimToken db ∧ Over claim.commandID db' := by
  simp only [Step, Call.tx, finalizeExpiredExecution, commits_steps, commits_selectOutbox, commits_updateOne] at step
  obtain ⟨_, _, _, loaded, message, ⟨member, named⟩, ⟨_, _, matching⟩, _, before, settled, _, rfl⟩ := step
  obtain rfl := loadJob_eq loaded
  have kept := (timeoutJobTargetInTx_jobsOnly settled).outbox
  have fields := matching
  simp only [matchingRecoveryClaim, Bool.and_eq_true, decide_eq_true_eq] at fields
  constructor
  · exact ⟨message, member, named_id named, fields.1.1.1.1.1, fields.2⟩
  · refine ⟨_, Table.mem_update_of_mem (kept ▸ member), ?_⟩
    rw [if_pos (by simp [named, matching])]
    exact ⟨named_id named, rfl⟩

end calls

/-! ## Runs -/

section runs

variable {db₀ db₁ db₂ db₃ db₄ : Database} {before between after : List Call}
  {chosen : List (String × Digest)} {claims : List RecoveryClaim} {claim : RecoveryClaim}
  {now at_ : Instant}

/-- The steps of a run to a state in which the command has not ended did not end it. -/
lemma not_ends_before {id : String} (run : Run Step .empty before db₀) (open_ : ¬ Over id db₀) :
    Run (fun db call db' => Step db call db' ∧ ¬ Ends id db db') .empty before db₀ := by
  have sound : Run (fun db call db' => Step db call db' ∧ Reachable db ∧ Reachable db')
      .empty before db₀ :=
    run.always Reachable (fun step reach => reach.extend (.single step)) ⟨[], .nil _⟩
  have unfinished := sound.backward (fun db => ¬ Over id db)
    (fun step open_ finished => open_ (step.1.keeps_over step.2.1.sound finished)) open_
  apply unfinished.2.mono
  rintro db call db' ⟨⟨step, _⟩, _, still⟩
  exact ⟨step, fun ends => still ends.2⟩

/-- Once ended, a command is not renewed, claimed or ended again. -/
lemma quiet_after {id : String} (reach : Reachable db₃) (run : Run Step db₃ after db₄)
    (finished : Over id db₃) :
    Run (fun db call db' => Step db call db' ∧ ¬ call.renews id ∧ ¬ call.claims id db ∧
      ¬ Ends id db db') db₃ after db₄ := by
  have ended := run.always (fun db => Reachable db ∧ Over id db)
    (fun step h => ⟨h.1.extend (.single step), step.keeps_over h.1.sound h.2⟩) ⟨reach, finished⟩
  apply ended.mono
  rintro db call db' ⟨step, ⟨_, finished⟩, _⟩
  obtain ⟨renewed, claimed⟩ := finished.quiet step
  exact ⟨step, renewed, claimed, fun ends => ends.1 finished⟩

/-- A claim is in force once taken. From then to the finalisation that uses it, the
command is not renewed, no result of it is persisted and no one else claims it.
The finalisation ends the command, and no step before or after it does. -/
theorem timeout_fenced (first : Run Step .empty before db₀)
    (taken : Commits (claimExpiredExecution chosen now) db₀ claims db₁) (mine : claim ∈ claims)
    (second : Run Step db₁ between db₂)
    (distinct : claim.claimToken ∉ between.flatMap Call.claimTokens)
    (finalized : Step db₂ (.finalizeExpiredExecution claim at_) db₃)
    (third : Run Step db₃ after db₄) :
    (∃ r ∈ db₁.outbox, r.named claim.scope claim.commandID = true ∧ matchingRecoveryClaim r claim = true) ∧
    Run (fun db call db' => Step db call db' ∧ ¬ call.renews claim.commandID ∧
      ¬ call.reports claim.commandID ∧ ¬ call.claims claim.commandID db) db₁ between db₂ ∧
    Run (fun db call db' => Step db call db' ∧ ¬ Ends claim.commandID db db') .empty
      (before ++ .claimExpiredExecution chosen now :: between) db₂ ∧
    Ends claim.commandID db₂ db₃ ∧
    Run (fun db call db' => Step db call db' ∧ ¬ call.renews claim.commandID ∧
      ¬ call.claims claim.commandID db ∧ ¬ Ends claim.commandID db db') db₃ after db₄ := by
  have whole : Run Step .empty (before ++ .claimExpiredExecution chosen now :: between) db₂ :=
    first.append (.cons (commits_ignore.mpr ⟨claims, taken⟩) second)
  obtain ⟨held, finished⟩ := finalizeExpiredExecution_ends finalized
  refine ⟨matching_of_claim taken mine, ?_, not_ends_before whole held.not_over, ⟨held.not_over, finished⟩, ?_⟩
  · have others : ∀ call ∈ between, claim.claimToken ∉ call.claimTokens := by
      intro call listed drawn
      exact distinct (List.mem_flatMap.mpr ⟨call, listed, drawn⟩)
    -- The claim is in force at the end, and only a claim with its token could have restored it.
    have kept := (second.restrict others).backward (Held claim.commandID claim.claimToken)
      (fun step held => step.1.held step.2 held) held
    apply kept.2.mono
    rintro db call db' ⟨⟨step, other⟩, held, held'⟩
    exact ⟨step, step.not_renews held', step.not_reports held held', step.not_claims other held'⟩
  · exact quiet_after (Reachable.extend ⟨_, whole⟩ (.single finalized)) third finished

end runs

set_option maxRecDepth 10000 in
/-- The interrupted execution reports after it was timed out. -/
theorem timeout_fenced_sample :
    ∃ db db' last, Run Step .empty (preparedCalls ++ [sampleStart] ++
        [.claimExpiredExecution [("command", sampleDigest 5)] 20000,
          .markStartEnqueued sampleScope "command" 1 20500]) db ∧
      Step db (.finalizeExpiredExecution sampleClaim 21000) db' ∧ Ends "command" db db' ∧
      Run (fun db call db' => Step db call db' ∧ ¬ call.renews "command" ∧
        ¬ call.claims "command" db ∧ ¬ Ends "command" db db')
        db' [.persistTerminalResult sampleInterruption] last := by
  have first : Run Step .empty (preparedCalls ++ [sampleStart])
      (reached (preparedCalls ++ [sampleStart])) := run_reached (by decide +kernel)
  have taken : Commits (claimExpiredExecution [("command", sampleDigest 5)] 20000)
      (reached (preparedCalls ++ [sampleStart])) [sampleClaim] _ := rfl
  obtain ⟨_, _, _, ends, quiet⟩ := timeout_fenced first taken List.mem_cons_self
    (.single (e := Call.markStartEnqueued sampleScope "command" 1 20500) rfl) (by decide)
    (show Step _ (.finalizeExpiredExecution sampleClaim 21000) _ by exact rfl)
    (by exact .single (e := Call.persistTerminalResult sampleInterruption) rfl)
  exact ⟨_, _, _, first.append (.cons rfl (.single rfl)), rfl, ends, quiet⟩

end DBPilot.Jobs
