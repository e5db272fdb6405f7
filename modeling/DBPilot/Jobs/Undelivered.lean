import DBPilot.Jobs.Lifecycle

/-!
# Commands ended as undelivered

A command with a Start fence should end by a result with that fence or by its
timeout worker. The workers that end undelivered commands write with no guard on
the fence, so they keep to this exactly as long as no Start was authorised since
they read the row.
-/

namespace DBPilot.Jobs

open Tables Transactions

/-- The event ends the command under its fence: a result with the token hash and
the execution revision of the row, or a timeout with its current recovery claim. -/
def EndsByFence (e : Event) (r : OutboxMessage) : Prop :=
  (∃ input, e = .call (.persistTerminalResult input) ∧
    r.named input.scope input.commandID = true ∧ fenceMatches r input = true) ∨
  (∃ claim now, e = .call (.finalizeExpiredExecution claim now) ∧
    r.named claim.scope claim.commandID = true ∧ matchingRecoveryClaim r claim = true)

/-- The tasks whose next transaction ends the command. -/
def Task.ends : Task → Bool
  | cancelUndelivered _ _ | timeoutUndelivered _ _ | expireDelivery _ _ | skipTerminalJob _ _ _
  | terminalizePrepared _ _ _ | reject _ _ _ => true
  | _ => false

/-- A command under way that is no validation. -/
structure Ongoing (r : OutboxMessage) : Prop where
  open_ : r.phase.terminal = false
  ordinary : r.payload.validation = false

/-- A worker that ends a command finds the Start fence it read. -/
def UpToDate (w : World) : Event → Prop
  | .resume task _ => task.ends = true → ∀ r ∈ w.db.outbox, r.id = task.message.id → Ongoing r →
      r.executionTokenHash = task.message.executionTokenHash
  | _ => True

section rows

variable {r r' : OutboxMessage} {c : Call}

/-- The calls that end a command with a fence. -/
inductive EndingCall (r : OutboxMessage) : Call → Prop
  | result {input} (named : r.named input.scope input.commandID = true)
      (fence : fenceMatches r input = true) : EndingCall r (.persistTerminalResult input)
  | timeout {claim now} (named : r.named claim.scope claim.commandID = true)
      (claimed : matchingRecoveryClaim r claim = true) :
      EndingCall r (.finalizeExpiredExecution claim now)
  | command {input} (named : r.named input.scope input.commandID = true) :
      EndingCall r (.persistTerminalCommand input)
  | mark {scope id status now} (named : r.named scope id = true) :
      EndingCall r (.markCommandTerminal scope id status now)
  | validation {jobID incoming effective input}
      (named : r.named input.scope input.commandID = true) :
      EndingCall r (.persistValidationResult jobID incoming effective input)
  | retire {scope jobID id agentID now} (named : r.named scope id = true) :
      EndingCall r (.cancelValidation scope jobID id agentID now)

lemma RowStep.ending (step : RowStep r c r') (sound : Sound r)
    (fenced : r.executionTokenHash.isSome = true) (open_ : r.phase.terminal = false)
    (ended : r'.phase.terminal = true) : EndingCall r c := by
  have late : r.phase.preStart ≠ true := by
    intro early
    rw [sound.preStart early] at fenced
    cases fenced
  have idle : r'.phase = r.phase → EndingCall r c := by
    intro same
    rw [same, open_] at ended
    cases ended
  cases step with
  | bookkeeping same => exact idle same.phase
  | reserve _ pending => exact absurd (by rw [pending]; rfl) late
  | prepareEnvelope _ phase =>
    refine absurd ?_ late
    rcases phase with h | h <;> rw [h] <;> rfl
  | prepare _ preStart => exact absurd preStart late
  | authorize _ prepared | expirePrepared _ prepared => exact absurd (by rw [prepared]; rfl) late
  | renew | requestCancellation =>
    rw [CommandPhase.terminal_of_ite rfl ended] at open_
    cases open_
  | renewLease | claimRecovery | attach | duplicate | reconcile | validationDuplicate => exact idle rfl
  | markTerminal named => exact .mark named
  | persistTerminal named => exact .command named
  | result named _ fence => exact .result named fence
  | expireExecution named claimed => exact .timeout named claimed
  | validation named => exact .validation named
  | retire named => exact .retire named

end rows

section worlds

variable {codec : Codec} {w w' : World} {e : Event} {r r' : OutboxMessage} {c : Call}

/-- A task whose call ends a command is one that ends commands. -/
lemma Task.ends_of_call {task : Task} {proposed : Bytes} (called : task.call? proposed = some c)
    (ending : EndingCall r c) : task.ends = true ∧ r.id = task.message.id ∧ task.unstarted = true := by
  cases task <;> simp only [Task.call?, Option.some.injEq, reduceCtorEq] at called <;> subst called <;>
    cases ending <;> rename_i named <;> refine ⟨rfl, ?_, rfl⟩
  all_goals first
    | exact named_id named
    | (rw [named_id named]
       simp only [Task.endedPrepared]
       split <;> rfl)

lemma persistTerminalCommand_row {input : TerminalCommand} {db db' : Database} {u : Unit}
    (commits : Commits (persistTerminalCommand input) db u db') (member : r ∈ db.outbox)
    (same : r.id = input.commandID) : ∃ r' ∈ db'.outbox, r'.id = r.id ∧ r'.phase.terminal = true := by
  simp only [persistTerminalCommand, commits_steps, commits_selectOutbox, commits_selectJob,
    commits_updateOne] at commits
  obtain ⟨valid, message, ⟨found, named⟩, _, _, _, _, _, _, rfl⟩ := commits
  obtain rfl : message = r := Table.eq_of_key found member ((named_id named).trans same.symm)
  refine ⟨_, Table.mem_update.mpr ⟨message, member, if_pos named⟩, rfl, ?_⟩
  exact terminal_phaseForCommandStatus (validateTerminalCommand_status valid)

lemma markCommandTerminal_row {scope : Scope} {id : String} {status : CommandStatus} {now : Instant}
    {db db' : Database} {u : Unit} (commits : Commits (markCommandTerminal scope id status now) db u db')
    (member : r ∈ db.outbox) (same : r.id = id) :
    ∃ r' ∈ db'.outbox, r'.id = r.id ∧ r'.phase.terminal = true := by
  simp only [markCommandTerminal, commits_steps, commits_updateOne] at commits
  obtain ⟨⟨terminal, _⟩, counted, rfl⟩ := commits
  have positive := counted.symm ▸ Nat.one_pos
  obtain ⟨message, found, hit⟩ := List.countP_pos_iff.mp positive
  have named := hit
  simp only [Bool.and_eq_true] at named
  obtain rfl : message = r := Table.eq_of_key found member ((named_id named.1).trans same.symm)
  exact ⟨_, Table.mem_update.mpr ⟨message, member, if_pos hit⟩, rfl, terminal_phaseForCommandStatus terminal⟩

/-- The write of a task that ends commands leaves its row terminal. -/
lemma Task.ends_row {task : Task} {proposed : Bytes} {tasks : List Task} {db db' : Database}
    (ends : task.ends = true) (commits : Commits (task.tx codec proposed) db tasks db')
    (member : r ∈ db.outbox) (same : r.id = task.message.id) :
    ∃ r' ∈ db'.outbox, r'.id = r.id ∧ r'.phase.terminal = true := by
  cases task with
  | dispatchOne | reserve | propose | recoverPrepared | prepared => cases ends
  | skipTerminalJob =>
    obtain ⟨_, step, _⟩ := commits_bind_pure.mp commits
    exact markCommandTerminal_row step member same
  | terminalizePrepared message cancelled now =>
    obtain ⟨_, step, _⟩ := commits_bind_pure.mp commits
    refine persistTerminalCommand_row step member (same.trans ?_)
    cases cancelled <;> rfl
  | cancelUndelivered | timeoutUndelivered | expireDelivery | reject =>
    obtain ⟨_, step, _⟩ := commits_bind_pure.mp commits
    exact persistTerminalCommand_row step member same

/-- In every reachable state, an event ends commands with a Start fence under that
fence only, exactly when a worker that ends a command finds the fence it read:
no Start of the command was authorised in between. -/
theorem fenced_ends_by_fence_iff (reach : w.Reachable codec) (adv : Advance codec w e w') :
    (∀ r ∈ w.db.outbox, r.executionTokenHash.isSome = true → Ongoing r →
      ∀ r' ∈ w'.db.outbox, r'.id = r.id → r'.phase.terminal = true → EndsByFence e r) ↔
    UpToDate w e := by
  have unfenced : ∀ {task : Task}, task ∈ w.tasks → task.unstarted = true →
      task.message.executionTokenHash = none := by
    intro task held unstarted
    have grounded := reach.grounded task held
    exact grounded.sound.preStart (grounded.early unstarted)
  constructor
  · intro property
    cases adv with
    | call | start | drop => trivial
    | @resume db' tasks task proposed held commits =>
      intro ends r member same ongoing
      have unstarted : task.unstarted = true := by
        cases task <;> first | rfl | cases ends
      rw [unfenced held unstarted]
      by_contra hash
      obtain ⟨r', member', same', ended⟩ := Task.ends_row ends commits member same
      rcases property r member (Option.isSome_iff_ne_none.mpr hash) ongoing r' member' same' ended
        with ⟨_, impossible, _⟩ | ⟨_, _, impossible, _⟩
      · cases impossible
      · cases impossible
  · intro upToDate r member fenced ongoing r' member' same ended
    have sound := reach.database.sound r member
    rcases adv.effect with ⟨_, unchanged⟩ | ⟨c, called, step⟩
    · rw [unchanged] at member'
      obtain rfl := Table.eq_of_key member' member same
      rw [ongoing.open_] at ended
      cases ended
    have ending := (step.row member member' same).ending sound fenced ongoing.open_ ended
    cases adv with
    | drop => cases called
    | @start db' tasks origin commits =>
      cases origin <;> cases called <;> cases ending
    | resume held =>
      obtain ⟨ends, id, unstarted⟩ := Task.ends_of_call called ending
      have read := upToDate ends r member id ongoing
      rw [unfenced held unstarted] at read
      rw [read] at fenced
      cases fenced
    | call direct =>
      cases called
      have ordinary := ongoing.ordinary
      cases ending with
      | result named fence => exact .inl ⟨_, rfl, named, fence⟩
      | timeout named claimed => exact .inr ⟨_, _, rfl, named, claimed⟩
      | command named | validation named | retire named =>
        rw [direct r member named] at ordinary
        cases ordinary
      | mark => exact direct.elim

end worlds

/-! A worker claims the command a second time, before the Agent reports it prepared;
the Start and the cancellation commit before the worker reads the job. -/

def sampleCodec : Codec where
  accepts _ := true
  expiry _ _ := some (2000 + 24 * 3600 * second)

/-- The row as `ClaimOutbox` returned it, the first and the second time. -/
def firstRead : OutboxMessage :=
  { insertedMessage sampleJob sampleMessage with
    leasedUntil := some (2000 + 30 * second)
    attempts := 1 }

def secondRead : OutboxMessage :=
  { insertedMessage sampleJob sampleMessage with
    leasedUntil := some (70 * second)
    attempts := 2
    phase := .preparing
    preparedEnvelope := some [1] }

def deliveryEvents : List Event :=
  [.call (.create sampleJob [sampleMessage]), .start (.claimOutbox ["command"] 2000),
    .resume (.dispatchOne firstRead 2000) [], .resume (.reserve firstRead 2000) [],
    .resume (.propose firstRead 2000) [1], .start (.claimOutbox ["command"] (40 * second))]

def staleEvents : List Event :=
  deliveryEvents ++
    [.start (.prepared "agent" "command" (sum256 [1]) (41 * second)),
      .resume (.prepared secondRead (sum256 [1]) (41 * second)) [],
      .call (.authorizeStart sampleScope "command" (sum256 [1]) (sampleDigest 2) [2] (42 * second) (100 * second)),
      .call (.requestCancel sampleScope "job" "operator" 1 (43 * second)),
      .resume (.dispatchOne secondRead (40 * second)) []]

def staleEnding : Event := .resume (.cancelUndelivered secondRead (40 * second)) []

set_option maxRecDepth 10000 in
theorem fenced_ended_as_undelivered :
    ∃ w w', w.Reachable sampleCodec ∧ Advance sampleCodec w staleEnding w' ∧
      ∃ r ∈ w.db.outbox, r.executionTokenHash.isSome = true ∧ Ongoing r ∧
        ∃ r' ∈ w'.db.outbox, r'.id = r.id ∧ r'.phase.terminal = true ∧ ¬ EndsByFence staleEnding r := by
  refine ⟨_, _, ⟨staleEvents, World.run_of_exec rfl⟩, World.advance_of_next? rfl, _, List.mem_cons_self, rfl,
    ⟨rfl, rfl⟩, _, List.mem_cons_self, rfl, rfl, ?_⟩
  rintro (⟨_, impossible, _⟩ | ⟨_, _, impossible, _⟩)
  · cases impossible
  · cases impossible

/-- The same worker, when no Start was authorised meanwhile. -/
def freshEvents : List Event :=
  deliveryEvents ++ [.call (.requestCancel sampleScope "job" "operator" 1 (43 * second)),
    .resume (.dispatchOne secondRead (40 * second)) []]

set_option maxRecDepth 10000 in
theorem fenced_ends_by_fence_iff_sample :
    ∃ w w', w.Reachable sampleCodec ∧ Advance sampleCodec w staleEnding w' ∧
      ∀ r ∈ w.db.outbox, r.executionTokenHash.isSome = true → Ongoing r →
        ∀ r' ∈ w'.db.outbox, r'.id = r.id → r'.phase.terminal = true → EndsByFence staleEnding r := by
  have reach : World.Reachable sampleCodec _ := ⟨freshEvents, World.run_of_exec rfl⟩
  refine ⟨_, _, reach, World.advance_of_next? rfl, ?_⟩
  refine (fenced_ends_by_fence_iff reach (World.advance_of_next? rfl)).mpr ?_
  intro _ r member _ _
  obtain rfl := List.mem_singleton.mp member
  rfl

end DBPilot.Jobs
