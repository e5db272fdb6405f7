import DBPilot.Jobs.Undelivered

/-!
# The prepare slots of a job

`ReservePrepareSlot` counts the active commands of a job before it admits one
more, but two other updates take a pending command into an active phase without
counting. Both are made only for a command that has its slot already: the
envelope is proposed after a reservation, and the Agent can only acknowledge an
envelope that was stored.
-/

namespace DBPilot.Jobs

open Tables Transactions

/-- The calls that can make a pending command active. -/
def Call.admits (r : OutboxMessage) : Call → Bool
  | .reservePrepareSlot scope id _ => r.named scope id
  | .prepareCommandEnvelope scope id _ => r.named scope id
  | .markPrepared scope id _ _ => r.named scope id
  | _ => false

/-- An envelope is stored on a command that is past `pending`. -/
def Enveloped (r : OutboxMessage) : Prop := r.preparedEnvelope.isSome = true → r.phase ≠ .pending

/-- Every command has its job. -/
def Owned (db : Database) : Prop :=
  ∀ r ∈ db.outbox, (db.jobs.find? (r.scope, r.jobID)).isSome = true

/-- No limited job has more active commands than its limit. -/
def WithinLimits (db : Database) : Prop :=
  ∀ value ∈ db.jobs, value.maxConcurrency ≠ 0 → (activeSlots value.scope value.id db : Int) ≤ value.maxConcurrency

/-- The command is past `pending`, or its job has no limit. -/
def Slotted (db : Database) (id : String) : Prop :=
  ∃ r ∈ db.outbox, r.id = id ∧ (r.phase ≠ .pending ∨
    ∃ value ∈ db.jobs, value.key = (r.scope, r.jobID) ∧ value.maxConcurrency = 0)

section rows

variable {r r' : OutboxMessage} {call : Call} {phase : CommandPhase}

lemma active_of_started (started : phase.started = true) : activePreparePhase phase = true := by
  cases phase <;> simp_all [CommandPhase.started, activePreparePhase]

lemma ne_pending_of_active (active : activePreparePhase phase = true) : phase ≠ .pending := by
  rintro rfl
  cases active

section

variable (step : RowStep r call r')
include step

/-- The phases a step can lead to: the same side of `pending` and of the end, or
further on. Only three calls take a pending command on. -/
lemma RowStep.phase_cases : r'.phase = r.phase ∨ r'.phase.terminal = true ∨
      activePreparePhase r.phase = true ∧ activePreparePhase r'.phase = true ∨
      r.phase = .pending ∧ activePreparePhase r'.phase = true ∧ call.admits r = true := by
  cases step with
  | bookkeeping same => exact .inl same.phase
  | reserve named pending => exact .inr (.inr (.inr ⟨pending, rfl, named⟩))
  | prepareEnvelope named phase =>
    right; right
    rcases phase with early | early
    · right
      refine ⟨early, ?_, named⟩
      simp [RowUpdate.prepareEnvelope, early, activePreparePhase]
    · left
      simp [RowUpdate.prepareEnvelope, early, activePreparePhase]
  | prepare named preStart =>
    right; right
    by_cases pending : r.phase = .pending
    · exact .inr ⟨pending, rfl, named⟩
    · left
      refine ⟨?_, rfl⟩
      cases phase : r.phase <;> simp_all [CommandPhase.preStart, activePreparePhase]
  | authorize _ prepared =>
    right; right; left
    rw [prepared]
    exact ⟨rfl, rfl⟩
  | renew _ started =>
    right; right; left
    refine ⟨active_of_started started, ?_⟩
    show activePreparePhase (if r.phase = .startAuthorized then .running else r.phase) = true
    split
    · rfl
    · exact active_of_started started
  | renewLease | claimRecovery | attach | duplicate | reconcile | validationDuplicate =>
    exact .inl rfl
  | requestCancellation =>
    by_cases started : r.phase.started = true
    · right; right; left
      refine ⟨active_of_started started, ?_⟩
      show activePreparePhase (if r.phase.started = true then .cancelling else r.phase) = true
      rw [if_pos started]
      rfl
    · exact .inl (if_neg started)
  | markTerminal _ terminal => exact .inr (.inl (terminal_phaseForCommandStatus terminal))
  | persistTerminal _ valid | result _ valid =>
    exact .inr (.inl (terminal_phaseForCommandStatus (validateTerminalCommand_status valid)))
  | expireExecution | expirePrepared | retire => exact .inr (.inl rfl)
  | validation =>
    exact .inr (.inl (terminal_phaseForCommandStatus (terminal_effectiveValidationCommandStatus _ _)))

lemma RowStep.not_pending (late : r.phase ≠ .pending) : r'.phase ≠ .pending := by
  rcases step.phase_cases with same | ended | ⟨_, active⟩ | ⟨_, active, _⟩
  · rw [same]
    exact late
  · intro pending
    rw [pending] at ended
    cases ended
  · exact ne_pending_of_active active
  · exact ne_pending_of_active active

lemma RowStep.activates (active : activePreparePhase r'.phase = true) :
    activePreparePhase r.phase = true ∨ r.phase = .pending ∧ call.admits r = true := by
  rcases step.phase_cases with same | ended | ⟨before, _⟩ | ⟨pending, _, admitted⟩
  · exact .inl (same ▸ active)
  · cases phase : r'.phase <;> simp_all [CommandPhase.terminal, activePreparePhase]
  · exact .inl before
  · exact .inr ⟨pending, admitted⟩

lemma RowStep.envelope : r'.preparedEnvelope = r.preparedEnvelope ∨ r'.phase ≠ .pending := by
  cases step with
  | bookkeeping same => exact .inl same.preparedEnvelope
  | prepareEnvelope _ phase =>
    right
    rcases phase with early | early <;> simp [RowUpdate.prepareEnvelope, early]
  | _ => exact .inl rfl

end

lemma Enveloped.step (enveloped : Enveloped r) (step : RowStep r call r') : Enveloped r' := by
  intro stored
  rcases step.envelope with same | late
  · exact step.not_pending (enveloped (same ▸ stored))
  · exact late

end rows

section calls

variable {db db' : Database} {call : Call} {scope : Scope} {id jobID : String} {r : OutboxMessage}

theorem Reachable.enveloped (reach : Reachable db) : ∀ r ∈ db.outbox, Enveloped r := by
  refine reach.rows ?_ fun step enveloped => enveloped.step step
  rintro r ⟨value, message, rfl⟩ stored
  cases stored

lemma Owned.step (owned : Owned db) (step : Step db call db') : Owned db' := by
  intro r' member'
  rcases (evolves step).owned r' member' with ⟨r, member, same⟩ | found
  · obtain ⟨_, owner, job, _⟩ := (step.row member member' same.symm).identity
    rw [owner, job]
    exact (evolves step).jobs _ (owned r member)
  · exact found

theorem Reachable.owned (reach : Reachable db) : Owned db := by
  obtain ⟨calls, run⟩ := reach
  apply run.invariant Owned (fun step owned => owned.step step)
  intro r member
  exact absurd member Table.not_mem_empty

lemma Slotted.step (slotted : Slotted db id) (step : Step db call db') : Slotted db' id := by
  obtain ⟨r, member, same, place⟩ := slotted
  obtain ⟨r', member', row⟩ := (evolves step).outbox.forward r member
  obtain ⟨sameID, owner, job, _⟩ := row.identity
  refine ⟨r', member', sameID.trans same, ?_⟩
  rcases place with late | ⟨value, stored, key, limit⟩
  · exact .inl (row.not_pending late)
  · obtain ⟨value', stored', steps⟩ := (evolves step).rows.forward value stored
    obtain ⟨key', limit'⟩ := steps.kept
    rw [owner, job]
    exact .inr ⟨value', stored', key'.trans key, limit'.trans limit⟩

/-- A call that admits no pending command of the job leaves it no more active commands. -/
lemma activeSlots_le (step : Step db call db')
    (quiet : ∀ r ∈ db.outbox, r.scope = scope → r.jobID = jobID → r.phase = .pending →
      call.admits r = false) : activeSlots scope jobID db' ≤ activeSlots scope jobID db := by
  apply Table.countP_le []
  intro r' member' counted _
  simp only [Bool.and_eq_true, decide_eq_true_eq] at counted
  obtain ⟨⟨owner', job'⟩, active'⟩ := counted
  rcases (evolves step).outbox.backward r' member' with ⟨r, member, row⟩ | ⟨_, _, rfl⟩
  · obtain ⟨sameID, owner, job, _⟩ := row.identity
    rw [owner] at owner'
    rw [job] at job'
    refine ⟨r, member, sameID.symm, ?_⟩
    rcases row.activates active' with active | ⟨pending, admitted⟩
    · simp [owner', job', active]
    · rw [quiet r member owner' job' pending] at admitted
      cases admitted
  · cases active'

/-- An update that leaves the phases of all but some commands alone. -/
lemma activeSlots_update {condition : OutboxMessage → Bool} {set : RowUpdate} (exempt : List String)
    (same : ∀ r, condition r = true → r.id ∉ exempt →
      (set r).scope = r.scope ∧ (set r).jobID = r.jobID ∧ (set r).phase = r.phase) :
    activeSlots scope jobID ⟨db.jobs, db.outbox.update condition set⟩ ≤
      activeSlots scope jobID db + exempt.length := by
  apply Table.countP_le exempt
  intro r' member' counted others
  obtain ⟨r, member, rfl⟩ := Table.mem_update.mp member'
  refine ⟨r, member, ?_⟩
  by_cases hit : condition r = true
  · simp only [hit, if_true] at counted others ⊢
    rw [set.keeps] at others
    obtain ⟨owner, job, phase⟩ := same r hit others
    rw [owner, job, phase] at counted
    exact ⟨(set.keeps r).symm, counted⟩
  · simp only [hit] at counted ⊢
    exact ⟨rfl, counted⟩

/-- A command that has its slot takes no other. -/
lemma Slotted.quiet {value : Job} {scope' : Scope} (slotted : Slotted db id) (stored : value ∈ db.jobs)
    (limited : value.maxConcurrency ≠ 0) (member : r ∈ db.outbox) (owner : r.scope = value.scope)
    (job : r.jobID = value.id) (pending : r.phase = .pending) : r.named scope' id = false := by
  by_contra named
  obtain ⟨r', member', same, place⟩ := slotted
  have sameID : r.id = id := named_id (by simpa using named)
  obtain rfl := Table.eq_of_key member member' (sameID.trans same.symm)
  rcases place with late | ⟨value', stored', key, limit⟩
  · exact late pending
  · rw [owner, job] at key
    obtain rfl := Table.eq_of_key stored' stored key
    exact limited limit

/-- The jobs of the next state are those of this one and new jobs, which have no
active command. -/
lemma WithinLimits.of_step (owned : Owned db) (step : Step db call db')
    (kept : ∀ value ∈ db.jobs, value.maxConcurrency ≠ 0 →
      (activeSlots value.scope value.id db' : Int) ≤ value.maxConcurrency) : WithinLimits db' := by
  intro value' stored' limited
  by_cases known : (db.jobs.find? value'.key).isSome = true
  · obtain ⟨value, stored, key⟩ := Table.isSome_find?.mp known
    have steps := (evolves step).rows.of_key (fun _ _ steps => steps.kept.1) stored stored' key.symm
    obtain ⟨_, limit⟩ := steps.kept
    obtain ⟨owner, job⟩ := Prod.mk.inj key
    rw [limit] at limited ⊢
    rw [← owner, ← job]
    exact kept value stored limited
  · have isFresh : FreshJob value' := by
      rcases (evolves step).rows.backward value' stored' with ⟨value, stored, steps⟩ | isFresh
      · exact absurd (Table.isSome_find?.mpr ⟨value, stored, steps.kept.1.symm⟩) known
      · exact isFresh
    have empty : activeSlots value'.scope value'.id db' = 0 := by
      apply List.countP_eq_zero.mpr
      intro r' member' counted
      simp only [Bool.and_eq_true, decide_eq_true_eq] at counted
      obtain ⟨⟨owner', job'⟩, active⟩ := counted
      rcases (evolves step).outbox.backward r' member' with ⟨r, member, row⟩ | ⟨_, _, rfl⟩
      · obtain ⟨_, owner, job, _⟩ := row.identity
        have found := owned r member
        rw [← owner, ← job, owner', job'] at found
        exact known found
      · cases active
    obtain ⟨value, _, rfl⟩ := isFresh
    rw [empty]
    exact le_max_left 0 value.maxConcurrency

lemma WithinLimits.quiet_step (within : WithinLimits db) (owned : Owned db) (step : Step db call db')
    (quiet : ∀ value ∈ db.jobs, value.maxConcurrency ≠ 0 → ∀ r ∈ db.outbox, r.scope = value.scope →
      r.jobID = value.id → r.phase = .pending → call.admits r = false) : WithinLimits db' := by
  apply WithinLimits.of_step owned step
  intro value stored limited
  have bound := within value stored limited
  have grows := activeSlots_le step (quiet value stored limited)
  omega

/-- A reservation counts before it admits. -/
lemma ReservePath.within {message : OutboxMessage} {value : Job} {now : Instant} {reserved : Bool}
    (path : ReservePath scope id now db message value reserved db')
    (limited : value.maxConcurrency ≠ 0)
    (bound : (activeSlots scope message.jobID db : Int) ≤ value.maxConcurrency) :
    (activeSlots scope message.jobID db' : Int) ≤ value.maxConcurrency := by
  cases path with
  | unlimited limit => exact absurd limit limited
  | resumed => exact bound
  | full =>
    refine le_trans (Int.ofNat_le.mpr (activeSlots_update [] ?_)) bound
    exact fun r _ _ => ⟨rfl, rfl, rfl⟩
  | free =>
    refine le_trans (Int.ofNat_le.mpr (activeSlots_update [id] ?_)) ?_
    · intro r hit others
      simp only [Bool.and_eq_true] at hit
      exact absurd (List.mem_singleton.mpr (named_id hit.1.1)) others
    · simp only [List.length_singleton]
      omega

lemma WithinLimits.reserve_step {now : Instant} {reserved : Bool} (within : WithinLimits db)
    (owned : Owned db) (commits : Commits (reservePrepareSlot scope id now) db reserved db') :
    WithinLimits db' := by
  have step : Step db (.reservePrepareSlot scope id now) db' := commits_ignore.mpr ⟨reserved, commits⟩
  obtain ⟨message, member, named, _, value, stored, key, path⟩ := reservePrepareSlot_cases commits
  apply WithinLimits.of_step owned step
  intro other known limited
  have bound := within other known limited
  by_cases same : other.key = value.key
  · obtain rfl := Table.eq_of_key known stored same
    obtain ⟨owner, job⟩ := Prod.mk.inj key
    rw [owner, job] at bound ⊢
    exact path.within limited bound
  · have grows : activeSlots other.scope other.id db' ≤ activeSlots other.scope other.id db := by
      apply activeSlots_le step
      intro r old owner job _
      by_contra named'
      obtain rfl := named_unique old member (by simpa [Call.admits] using named') named
      apply same
      rw [key, Job.key, ← owner, ← job, named_scope named]
    omega

end calls

/-! ## Workers -/

/-- The tasks whose call makes a pending command active without counting. -/
def Task.needsSlot : Task → Bool
  | propose _ _ | prepared _ _ _ => true
  | _ => false

structure SlotsKept (w : World) : Prop where
  reach : Reachable w.db
  slotted : ∀ task ∈ w.tasks, task.needsSlot = true → Slotted w.db task.message.id
  within : WithinLimits w.db

section worlds

variable {codec : Codec} {proposed : Bytes} {db db' : Database} {tasks : List Task} {task : Task}
  {origin : Origin} {w w' : World} {e : Event} {message : OutboxMessage} {now : Instant} {call : Call}

lemma Call.not_admits_of_direct (direct : call.Direct db) (r : OutboxMessage) : call.admits r = false := by
  cases call <;> first | rfl | exact direct.elim

lemma Origin.not_admits (called : origin.call? = some call) (r : OutboxMessage) : call.admits r = false := by
  cases origin <;> simp only [Origin.call?, Option.some.injEq, reduceCtorEq] at called <;>
    subst called <;> rfl

/-- Of the tasks that count nothing, those that need no slot admit no command. -/
lemma Task.not_admits (called : task.call? proposed = some call)
    (plain : task.needsSlot = false) (other : ∀ message now, task ≠ .reserve message now)
    (r : OutboxMessage) : call.admits r = false := by
  cases task with
  | reserve message now => exact absurd rfl (other message now)
  | propose | prepared => cases plain
  | dispatchOne | recoverPrepared => cases called
  | _ =>
    obtain rfl := Option.some.inj called
    rfl

lemma Task.admits_message {r : OutboxMessage} (called : task.call? proposed = some call)
    (needs : task.needsSlot = true) : call.admits r = r.named task.message.scope task.message.id := by
  cases task with
  | propose | prepared =>
    obtain rfl := Option.some.inj called
    rfl
  | _ => cases needs

/-- Only a reservation is followed by a task that needs a slot, and it has made one. -/
lemma Task.slotted_follow_up {follow : Task} (commits : Commits (task.tx codec proposed) db tasks db')
    (member : follow ∈ tasks) (needs : follow.needsSlot = true) :
    Slotted db' follow.message.id := by
  cases task with
  | dispatchOne | recoverPrepared | propose =>
    obtain ⟨_, _, rfl⟩ := commits_bind_pure.mp commits
    simp only [afterDispatch, afterRecover, afterEnvelope] at member
    repeat' split at member
    all_goals simp only [List.mem_singleton, List.not_mem_nil] at member
    all_goals
      subst member
      cases needs
  | reserve message now =>
    obtain ⟨reserved, reserve, rfl⟩ := commits_bind_pure.mp commits
    obtain ⟨row, found, named, open_, value, stored, key, path⟩ := reservePrepareSlot_cases reserve
    cases path with
    | full => cases member
    | unlimited limit =>
      obtain rfl := List.mem_singleton.mp member
      rw [← named_scope named] at key
      exact ⟨row, found, named_id named, .inr ⟨value, stored, key, limit⟩⟩
    | resumed active =>
      obtain rfl := List.mem_singleton.mp member
      exact ⟨row, found, named_id named, .inl (ne_pending_of_active active)⟩
    | free pending =>
      obtain rfl := List.mem_singleton.mp member
      have hit : (row.named message.scope message.id && row.phase = .pending &&
          row.cancellationRequestedAt = none) = true := by simp [named, pending, open_]
      exact ⟨_, Table.mem_update.mpr ⟨row, found, if_pos hit⟩, named_id named, .inl (by simp [RowUpdate.reserve])⟩
  | _ =>
    obtain ⟨_, _, rfl⟩ := commits_bind_pure.mp commits
    cases member

/-- The Agent acknowledges an envelope that is stored. -/
lemma Origin.slotted (enveloped : ∀ r ∈ db.outbox, Enveloped r)
    (commits : Commits (origin.tx) db tasks db') (member : task ∈ tasks)
    (needs : task.needsSlot = true) : Slotted db' task.message.id := by
  cases origin with
  | claimOutbox =>
    obtain ⟨_, _, rfl⟩ := commits_bind_pure.mp commits
    obtain ⟨message, _, rfl⟩ := List.mem_map.mp member
    cases needs
  | claimPendingCancellations =>
    obtain ⟨_, _, rfl⟩ := commits_bind_pure.mp commits
    obtain ⟨message, _, made⟩ := List.mem_filterMap.mp member
    unfold cancellationTask at made
    split at made
    · obtain rfl := Option.some.inj made
      cases needs
    · cases made
  | recoverPreparedCommand =>
    obtain ⟨_, _, rfl⟩ := commits_bind_pure.mp commits
    obtain rfl := List.mem_singleton.mp member
    cases needs
  | prepared =>
    obtain ⟨message, read, rfl⟩ := commits_bind_pure.mp commits
    obtain ⟨rfl, found⟩ := lookupCommand_eq read
    unfold preparedTask at member
    repeat' split at member
    all_goals simp only [List.mem_singleton, List.not_mem_nil] at member
    rename_i stored envelope _
    subst member
    refine ⟨message, found, rfl, .inl (enveloped message found ?_)⟩
    rw [envelope]
    rfl
  | acknowledgedRejected =>
    obtain ⟨_, _, rfl⟩ := commits_bind_pure.mp commits
    unfold rejectTask at member
    split at member
    · obtain rfl := List.mem_singleton.mp member
      cases needs
    · cases member

section

variable (adv : Advance codec w e w') (kept : SlotsKept w)
include adv kept

/-- The slots of old tasks survive an event. -/
lemma Advance.slotted_old (held : task ∈ w.tasks) (needs : task.needsSlot = true) : Slotted w'.db task.message.id := by
  have slotted := kept.slotted task held needs
  rcases adv.effect with ⟨_, same⟩ | ⟨call, _, step⟩
  · rw [same]
    exact slotted
  · exact slotted.step step

lemma Advance.slotted : ∀ task ∈ w'.tasks, task.needsSlot = true → Slotted w'.db task.message.id := by
  intro task member needs
  have old : task ∈ w.tasks → Slotted w'.db task.message.id := fun held =>
    adv.slotted_old kept held needs
  cases adv with
  | call => exact old member
  | start commits =>
    rcases List.mem_append.mp member with new | held
    · exact Origin.slotted kept.reach.enveloped commits new needs
    · exact old held
  | resume _ commits =>
    rcases List.mem_append.mp member with new | held
    · exact Task.slotted_follow_up commits new needs
    · exact old (List.mem_of_mem_erase held)
  | drop => exact old (List.mem_of_mem_erase member)

lemma Advance.within : WithinLimits w'.db := by
  have owned := kept.reach.owned
  cases adv with
  | call direct step =>
    exact kept.within.quiet_step owned step fun _ _ _ r _ _ _ _ => Call.not_admits_of_direct direct r
  | start commits =>
    rcases Origin.tx_step commits with ⟨_, rfl⟩ | ⟨call, called, step⟩
    · exact kept.within
    · exact kept.within.quiet_step owned step fun _ _ _ r _ _ _ _ => Origin.not_admits called r
  | @resume db' tasks task proposed held commits =>
    by_cases reserving : ∃ message now, task = .reserve message now
    · obtain ⟨message, now, rfl⟩ := reserving
      obtain ⟨_, reserve, _⟩ := commits_bind_pure.mp commits
      exact kept.within.reserve_step owned reserve
    · rcases Task.tx_step commits with ⟨_, rfl⟩ | ⟨call, called, step⟩
      · exact kept.within
      · apply kept.within.quiet_step owned step
        intro value stored limited r member owner job pending
        cases needs : task.needsSlot with
        | false =>
          exact Task.not_admits called needs (fun message now same => reserving ⟨message, now, same⟩) r
        | true =>
          rw [Task.admits_message called needs]
          exact (kept.slotted task held needs).quiet stored limited member owner job pending
  | drop => exact kept.within

end

/-- In every state that the workers can reach, the commands of a job in an active
phase number at most the job's limit. -/
theorem prepare_slots_within_limit (reach : w.Reachable codec) :
    ∀ value ∈ w.db.jobs, value.maxConcurrency ≠ 0 →
      (w.db.outbox.rows.countP (fun row => row.scope = value.scope && row.jobID = value.id &&
        (row.phase = .preparing || row.phase = .prepared || row.phase = .startAuthorized ||
          row.phase = .running || row.phase = .cancelling)) : Int) ≤ value.maxConcurrency := by
  obtain ⟨es, run⟩ := reach
  have kept : SlotsKept w := by
    apply run.invariant SlotsKept
    · intro w e w' adv kept
      exact ⟨adv.reachable kept.reach, adv.slotted kept, adv.within kept⟩
    · refine ⟨⟨[], .nil _⟩, ?_, ?_⟩
      · intro task impossible
        cases impossible
      · intro value impossible
        exact absurd impossible Table.not_mem_empty
  exact kept.within

end worlds

/-! A job with two targets and one slot; the second command is deferred. -/

def pairJob : Job :=
  { sampleJob with targetResourceIDs := ["agent", "other"], progress := ⟨2, 0, 0, 0⟩ }

def otherMessage : NewMessage := ⟨"second", "other", ⟨"other", 60, false⟩, 1000, 1000⟩

def otherRead : OutboxMessage :=
  { insertedMessage pairJob otherMessage with leasedUntil := some (2000 + 30 * second), attempts := 1 }

def pairEvents : List Event :=
  [.call (.create pairJob [sampleMessage, otherMessage]),
    .start (.claimOutbox ["command", "second"] 2000),
    .resume (.dispatchOne firstRead 2000) [], .resume (.dispatchOne otherRead 2000) [],
    .resume (.reserve firstRead 2000) [], .resume (.reserve otherRead 2000) []]

set_option maxRecDepth 10000 in
theorem prepare_slots_within_limit_sample :
    ∃ w : World, w.Reachable sampleCodec ∧ ∃ value ∈ w.db.jobs, value.maxConcurrency = 1 ∧
      activeSlots value.scope value.id w.db = 1 ∧
      (activeSlots value.scope value.id w.db : Int) ≤ value.maxConcurrency := by
  have reach : World.Reachable sampleCodec _ := ⟨pairEvents, World.run_of_exec rfl⟩
  refine ⟨_, reach, _, List.mem_cons_self, rfl, rfl, ?_⟩
  exact prepare_slots_within_limit reach _ List.mem_cons_self (by decide)

end DBPilot.Jobs
