import DBPilot.Jobs.StartFence

/-!
# The workers of the command lifecycle

A worker of `dispatcher.go` reads a command, decides, and issues its next
transaction later, on what it read. A task is a worker between two transactions;
it carries the row as it was read. Any number of tasks are under way, each goes
on at any time or never, and the transactions of the Agent's messages, of the
timeout workers and of the operators come in between with any arguments.

The process-local lock of a command is not modelled: other processes do not see
it, and the workers that dispatch and cancel do not take it.
-/

namespace DBPilot.Jobs

open Transactions Runs

/-- The parts of command encoding that the lifecycle calls. -/
structure Codec where
  /-- `decodeUnsignedCommand` succeeds. -/
  accepts : OutboxMessage → Bool
  /-- The expiry of a stored envelope that `decodePreparedCommand` accepts. -/
  expiry : OutboxMessage → Bytes → Option Instant

def CommandPhase.name : CommandPhase → String
  | .pending => "pending"
  | .preparing => "preparing"
  | .prepared => "prepared"
  | .startAuthorized => "start_authorized"
  | .running => "running"
  | .cancelling => "cancelling"
  | .succeeded => "succeeded"
  | .failed => "failed"
  | .cancelled => "cancelled"
  | .timedOut => "timed_out"
  | .rejected => "rejected"

inductive Task where
  | dispatchOne (message : OutboxMessage) (now : Instant)
  | reserve (message : OutboxMessage) (now : Instant)
  | propose (message : OutboxMessage) (now : Instant)
  | cancelUndelivered (message : OutboxMessage) (now : Instant)
  | timeoutUndelivered (message : OutboxMessage) (now : Instant)
  | expireDelivery (message : OutboxMessage) (now : Instant)
  | skipTerminalJob (message : OutboxMessage) (status : Status) (now : Instant)
  | recoverPrepared (message : OutboxMessage) (now : Instant)
  | terminalizePrepared (message : OutboxMessage) (cancelled : Bool) (now : Instant)
  | prepared (message : OutboxMessage) (digest : Digest) (now : Instant)
  | reject (message : OutboxMessage) (reasonCode : String) (now : Instant)
  deriving DecidableEq

namespace Task

/-- The row as the worker read it. -/
def message : Task → OutboxMessage
  | dispatchOne message _ | reserve message _ | propose message _ | cancelUndelivered message _
  | timeoutUndelivered message _ | expireDelivery message _ | skipTerminalJob message _ _
  | recoverPrepared message _ | terminalizePrepared message _ _ | prepared message _ _
  | reject message _ _ => message

/-- The terminal command of an undelivered or unstarted command: the status, what
is recorded of the target, and the audit record. -/
def ending (message : OutboxMessage) (status : CommandStatus) (target : TargetStatus)
    (errorSummary resultSummary action auditResult : String) (detail : Detail) (now : Instant) :
    TerminalCommand where
  scope := message.scope
  commandID := message.id
  status := status
  target :=
    { targetID := message.targetID, status := target, errorSummary := errorSummary,
      resultSummary := resultSummary, finishedAt := some now }
  audit := ⟨action ++ ":" ++ message.id, action, auditResult, detail⟩
  now := now

def cancelledUndelivered (message : OutboxMessage) (now : Instant) : TerminalCommand :=
  ending message .cancelled .cancelled "" "cancelled before Agent execution"
    "command.cancelled_before_dispatch" "success" [("reason", .text "job_cancellation")] now

def timedOutUndelivered (message : OutboxMessage) (now : Instant) : TerminalCommand :=
  ending message .timedOut .timedOut "Job timeout elapsed before delivery" ""
    "command.undelivered_timed_out" "failure" [("phase", .text message.phase.name)] now

def expiredDelivery (message : OutboxMessage) (now : Instant) : TerminalCommand :=
  ending message .timedOut .timedOut "delivery deadline exceeded" "" "command.delivery_timed_out"
    "failure" [("reason", .text "delivery_deadline")] now

def endedPrepared (message : OutboxMessage) (cancelled : Bool) (now : Instant) : TerminalCommand :=
  if cancelled then
    ending message .cancelled .cancelled "" "prepared command cancelled before Start"
      "command.cancelled_before_start" "success" [("phase", .text message.phase.name)] now
  else
    ending message .timedOut .timedOut "Job timeout elapsed before Start"
      "prepared command timed out before Start" "command.prepared_timed_out" "failure"
      [("phase", .text message.phase.name)] now

/-- An empty reason code is replaced, and a validation has its own texts. -/
def rejected (message : OutboxMessage) (reasonCode : String) (now : Instant) : TerminalCommand :=
  let reasonCode :=
    if message.payload.validation then "plugin_failed"
    else if reasonCode = "" then "command_rejected" else reasonCode
  ending message .rejected .failed reasonCode
    (if message.payload.validation then "database instance connection validation failed" else "")
    "command.acknowledged" "failure" [("reason_code", .text reasonCode), ("state", .text "rejected")] now

/-- The repository call that a task makes, when its next transaction writes.
`proposed` is the envelope a worker signs when it read none. -/
def call? (proposed : Bytes) : Task → Option Call
  | dispatchOne _ _ | recoverPrepared _ _ => none
  | reserve message now => some (.reservePrepareSlot message.scope message.id now)
  | propose message _ =>
    some (.prepareCommandEnvelope message.scope message.id (message.preparedEnvelope.getD proposed))
  | cancelUndelivered message now => some (.persistTerminalCommand (cancelledUndelivered message now))
  | timeoutUndelivered message now => some (.persistTerminalCommand (timedOutUndelivered message now))
  | expireDelivery message now => some (.persistTerminalCommand (expiredDelivery message now))
  | skipTerminalJob message status now =>
    some (.markCommandTerminal message.scope message.id (commandStatusForJob status) now)
  | terminalizePrepared message cancelled now =>
    some (.persistTerminalCommand (endedPrepared message cancelled now))
  | prepared message digest now => some (.markPrepared message.scope message.id digest now)
  | reject message reasonCode now =>
    some (.persistTerminalCommand (rejected message reasonCode now))

/-- `dispatchOne`, up to its next transaction. -/
def afterDispatch (codec : Codec) (message : OutboxMessage) (now : Instant) (current : Job) :
    List Task :=
  if current.status = .cancelling ∨ current.status = .cancelled ∨
      message.cancellationRequestedAt.isSome then [cancelUndelivered message now]
  else if current.timeoutAt.any (· ≤ now) then [timeoutUndelivered message now]
  else if isTerminal current.status then
    match message.preparedEnvelope with
    | none => [skipTerminalJob message current.status now]
    | some stored =>
      match codec.accepts message, codec.expiry message stored with
      | true, some expiresAt =>
        if expiresAt ≤ now then [expireDelivery message now]
        else [skipTerminalJob message current.status now]
      | _, _ => []
  else if codec.accepts message then [reserve message now]
  else []

/-- The rest of `dispatchOne` once the envelope is stored; a delivery that has not
expired goes to the Agent. -/
def afterEnvelope (codec : Codec) (message : OutboxMessage) (now : Instant) (stored : Bytes) :
    List Task :=
  match codec.expiry message stored with
  | some expiresAt => if expiresAt ≤ now then [expireDelivery message now] else []
  | none => []

/-- `recoverPreparedCommand`; a command that is not ended here is started or its
Start replayed. -/
def afterRecover (message : OutboxMessage) (now : Instant) (value : Job) : List Task :=
  if message.phase = .prepared then
    let cancelled := value.status = .cancelled ∨ isTerminal value.status = false ∧
      (message.cancellationRequestedAt.isSome ∨ value.status = .cancelling)
    let timedOut := value.status = .timedOut ∨ isTerminal value.status = false ∧ value.timeoutAt.any (· ≤ now)
    if cancelled ∨ timedOut then [terminalizePrepared message (decide cancelled) now]
    else if isTerminal value.status then [skipTerminalJob message value.status now]
    else []
  else []

/-- The next transaction of a task and the tasks it leaves. -/
def tx (codec : Codec) (proposed : Bytes) : Task → JobTx (List Task)
  | dispatchOne message now => do
    let current ← get message.scope message.jobID
    return afterDispatch codec message now current
  | recoverPrepared message now => do
    let value ← get message.scope message.jobID
    return afterRecover message now value
  | reserve message now => do
    let reserved ← reservePrepareSlot message.scope message.id now
    return if reserved then [propose message now] else []
  | propose message now => do
    let stored ← prepareCommandEnvelope message.scope message.id (message.preparedEnvelope.getD proposed)
    return afterEnvelope codec message now stored
  | cancelUndelivered message now => do
    persistTerminalCommand (cancelledUndelivered message now)
    return []
  | timeoutUndelivered message now => do
    persistTerminalCommand (timedOutUndelivered message now)
    return []
  | expireDelivery message now => do
    persistTerminalCommand (expiredDelivery message now)
    return []
  | skipTerminalJob message status now => do
    markCommandTerminal message.scope message.id (commandStatusForJob status) now
    return []
  | terminalizePrepared message cancelled now => do
    persistTerminalCommand (endedPrepared message cancelled now)
    return []
  | prepared message digest now => do
    markPrepared message.scope message.id digest now
    return []
  | reject message reasonCode now => do
    persistTerminalCommand (rejected message reasonCode now)
    return []

end Task

/-- How workers come by the rows they act on. -/
inductive Origin where
  | claimOutbox (chosen : List String) (now : Instant)
  | claimPendingCancellations (chosen : List String) (now : Instant)
  | recoverPreparedCommand (commandID : String) (now : Instant)
  | prepared (agentID commandID : String) (digest : Digest) (now : Instant)
  | acknowledgedRejected (agentID commandID reasonCode : String) (now : Instant)
  deriving DecidableEq

namespace Origin

/-- A started command is cancelled through its Agent. -/
def cancellationTask (now : Instant) (message : OutboxMessage) : Option Task :=
  if message.phase.preStart then some (.cancelUndelivered message now) else none

/-- `Prepared`, up to `MarkPrepared`. -/
def preparedTask (agentID : String) (digest : Digest) (now : Instant) (message : OutboxMessage) : List Task :=
  match message.preparedEnvelope with
  | some stored =>
    if message.targetID = agentID ∧ stored ≠ [] ∧ sum256 stored = digest then
      [.prepared message digest now]
    else []
  | none => []

/-- `Acknowledged` with a rejection, up to `PersistTerminalCommand`. -/
def rejectTask (agentID reasonCode : String) (now : Instant) (message : OutboxMessage) : List Task :=
  if message.payload.agentID = agentID ∧ message.targetID = agentID ∧
      message.cancellationRequestedAt = none ∧ message.phase.preStart then
    [.reject message reasonCode now]
  else []

def tx : Origin → JobTx (List Task)
  | claimOutbox chosen now => do
    let messages ← Jobs.claimOutbox chosen now
    return messages.map (Task.dispatchOne · now)
  | claimPendingCancellations chosen now => do
    let messages ← Jobs.claimPendingCancellations chosen now
    return messages.filterMap (cancellationTask now)
  | recoverPreparedCommand commandID now => do
    let message ← lookupCommand commandID
    return [.recoverPrepared message now]
  | prepared agentID commandID digest now => do
    let message ← lookupCommand commandID
    return preparedTask agentID digest now message
  | acknowledgedRejected agentID commandID reasonCode now => do
    let message ← lookupCommand commandID
    return rejectTask agentID reasonCode now message

/-- The repository call an origin makes, when it writes. -/
def call? : Origin → Option Call
  | claimOutbox chosen now => some (.claimOutbox chosen now)
  | claimPendingCancellations chosen now => some (.claimPendingCancellations chosen now)
  | _ => none

end Origin

structure World where
  db : Database
  tasks : List Task

inductive Event where
  | call (call : Call)
  | start (origin : Origin)
  | resume (task : Task) (proposed : Bytes)
  /-- The worker crashes, or its transaction fails. -/
  | drop (task : Task)
  deriving DecidableEq

/-- The calls that no worker prepares by reading the row first, with any
arguments; the transactions that end a validation, and the repair of its terminal
state, are made for validations only. -/
def Call.Direct (db : Database) : Call → Prop
  | .claimOutbox _ _ | .claimPendingCancellations _ _ | .reservePrepareSlot _ _ _
  | .prepareCommandEnvelope _ _ _ | .markPrepared _ _ _ _ | .markCommandTerminal _ _ _ _ => False
  | .persistTerminalCommand input =>
    ∀ r ∈ db.outbox, r.named input.scope input.commandID = true → r.payload.validation = true
  | .persistValidationResult _ _ _ input =>
    ∀ r ∈ db.outbox, r.named input.scope input.commandID = true → r.payload.validation = true
  | .cancelValidation scope _ id _ _ =>
    ∀ r ∈ db.outbox, r.named scope id = true → r.payload.validation = true
  | _ => True

inductive Advance (codec : Codec) : World → Event → World → Prop
  | call {w db' c} (direct : c.Direct w.db) (step : Step w.db c db') : Advance codec w (.call c) ⟨db', w.tasks⟩
  | start {w db' tasks origin} (commits : Commits (origin.tx) w.db tasks db') :
      Advance codec w (.start origin) ⟨db', tasks ++ w.tasks⟩
  | resume {w db' tasks task proposed} (held : task ∈ w.tasks)
      (commits : Commits (task.tx codec proposed) w.db tasks db') :
      Advance codec w (.resume task proposed) ⟨db', tasks ++ w.tasks.erase task⟩
  | drop {w task} (held : task ∈ w.tasks) : Advance codec w (.drop task) ⟨w.db, w.tasks.erase task⟩

def World.initial : World := ⟨.empty, []⟩

def World.Reachable (codec : Codec) (w : World) : Prop := ∃ es, Run (Advance codec) .initial es w

/-! ## What workers do to the database -/

section effects

variable {codec : Codec} {proposed : Bytes} {db db' : Database} {tasks : List Task} {task : Task}
  {origin : Origin} {w w' : World} {e : Event}

/-- A task reads the database or makes its one call. -/
lemma Task.tx_step (commits : Commits (task.tx codec proposed) db tasks db') :
    (task.call? proposed = none ∧ db' = db) ∨ ∃ c, task.call? proposed = some c ∧ Step db c db' := by
  cases task with
  | dispatchOne | recoverPrepared =>
    obtain ⟨_, read, _⟩ := commits_bind_pure.mp commits
    simp only [get, commits_steps] at read
    obtain ⟨_, _, _, _, loaded, _, _, _, rfl⟩ := read
    exact .inl ⟨rfl, loadJob_eq loaded⟩
  | reserve =>
    obtain ⟨reserved, step, _⟩ := commits_bind_pure.mp commits
    exact .inr ⟨_, rfl, commits_ignore.mpr ⟨reserved, step⟩⟩
  | propose =>
    obtain ⟨stored, step, _⟩ := commits_bind_pure.mp commits
    exact .inr ⟨_, rfl, commits_ignore.mpr ⟨stored, step⟩⟩
  | _ =>
    obtain ⟨_, step, _⟩ := commits_bind_pure.mp commits
    exact .inr ⟨_, rfl, step⟩

lemma Origin.tx_step (commits : Commits (origin.tx) db tasks db') :
    (origin.call? = none ∧ db' = db) ∨ ∃ c, origin.call? = some c ∧ Step db c db' := by
  cases origin with
  | claimOutbox | claimPendingCancellations =>
    obtain ⟨messages, step, _⟩ := commits_bind_pure.mp commits
    exact .inr ⟨_, rfl, commits_ignore.mpr ⟨messages, step⟩⟩
  | _ =>
    obtain ⟨_, read, _⟩ := commits_bind_pure.mp commits
    exact .inl ⟨rfl, (lookupCommand_eq read).1⟩

/-- The repository call of an event. -/
def Event.call? : Event → Option Call
  | .call c => some c
  | .start origin => origin.call?
  | .resume task proposed => task.call? proposed
  | .drop _ => none

lemma Advance.effect (adv : Advance codec w e w') :
    (e.call? = none ∧ w'.db = w.db) ∨ ∃ c, e.call? = some c ∧ Step w.db c w'.db := by
  cases adv with
  | call _ step => exact .inr ⟨_, rfl, step⟩
  | start commits => exact Origin.tx_step commits
  | resume _ commits => exact Task.tx_step commits
  | drop => exact .inl ⟨rfl, rfl⟩

lemma Advance.reachable (adv : Advance codec w e w') (reach : Reachable w.db) : Reachable w'.db := by
  rcases adv.effect with ⟨_, same⟩ | ⟨c, _, step⟩
  · rw [same]
    exact reach
  · exact reach.extend (.single step)

theorem World.Reachable.database (reach : w.Reachable codec) : Jobs.Reachable w.db := by
  obtain ⟨es, run⟩ := reach
  exact run.invariant (fun w => Jobs.Reachable w.db) (fun adv reach => adv.reachable reach) ⟨[], .nil _⟩

end effects

/-! ## What workers have read -/

/-- The tasks that treat their command as not started. -/
def Task.unstarted : Task → Bool
  | recoverPrepared _ _ | prepared _ _ _ => false
  | _ => true

structure Task.Grounded (task : Task) : Prop where
  sound : Sound task.message
  early : task.unstarted = true → task.message.phase.preStart = true

section grounded

variable {codec : Codec} {proposed : Bytes} {db db' : Database} {tasks : List Task} {task : Task}
  {origin : Origin} {w w' : World} {e : Event} {message : OutboxMessage} {now : Instant}

lemma Task.mem_afterRecover {value : Job} (member : task ∈ afterRecover message now value) :
    task.message = message ∧ message.phase = .prepared := by
  unfold afterRecover at member
  split at member
  · rename_i prepared
    refine ⟨?_, prepared⟩
    simp only at member
    repeat' split at member
    all_goals simp only [List.mem_singleton, List.not_mem_nil] at member
    all_goals
      subst member
      rfl
  · cases member

/-- The tasks that follow a task act on the same reading, and only an unstarted
command is treated as such. -/
lemma Task.follow_up {follow : Task} (commits : Commits (task.tx codec proposed) db tasks db')
    (member : follow ∈ tasks) : follow.message = task.message ∧
      (task.unstarted = true ∨ task.message.phase = .prepared) := by
  cases task <;> obtain ⟨answer, _, rfl⟩ := commits_bind_pure.mp commits
  case recoverPrepared =>
    obtain ⟨same, prepared⟩ := mem_afterRecover member
    exact ⟨same, .inr prepared⟩
  case reserve =>
    cases answer with
    | false => cases member
    | true =>
      obtain rfl := List.mem_singleton.mp member
      exact ⟨rfl, .inl rfl⟩
  case dispatchOne | propose =>
    simp only [afterDispatch, afterEnvelope] at member
    repeat' split at member
    all_goals simp only [List.mem_singleton, List.not_mem_nil] at member
    all_goals
      subst member
      exact ⟨rfl, .inl rfl⟩
  all_goals cases member

lemma Origin.grounded (sound : ∀ r ∈ db.outbox, Sound r)
    (commits : Commits (origin.tx) db tasks db') (member : task ∈ tasks) : task.Grounded := by
  cases origin with
  | claimOutbox =>
    simp only [tx, Jobs.claimOutbox, commits_steps] at commits
    obtain ⟨messages, _, ⟨_, claimed⟩, rfl, _⟩ := commits
    obtain ⟨message, listed, rfl⟩ := List.mem_map.mp member
    obtain ⟨r, found, candidate, rfl⟩ := claimRows_mem claimed listed
    have claimed' := sound r found
    simp only [Bool.and_eq_true, decide_eq_true_eq] at candidate
    have early : r.phase.preStart = true := by
      rw [← CommandPhase.status_eq_pending, ← claimed'.status]
      exact candidate.1.1.2
    exact ⟨⟨claimed'.status, claimed'.preStart, claimed'.started, claimed'.whole, claimed'.recovery⟩, fun _ => early⟩
  | claimPendingCancellations =>
    simp only [tx, Jobs.claimPendingCancellations, commits_steps] at commits
    obtain ⟨messages, _, ⟨_, claimed⟩, rfl, _⟩ := commits
    obtain ⟨message, listed, made⟩ := List.mem_filterMap.mp member
    obtain ⟨r, found, _, rfl⟩ := claimRows_mem claimed listed
    have claimed' := sound r found
    unfold cancellationTask at made
    split at made
    · rename_i early
      obtain rfl := Option.some.inj made
      exact ⟨⟨claimed'.status, claimed'.preStart, claimed'.started, claimed'.whole,
        claimed'.recovery⟩, fun _ => early⟩
    · cases made
  | recoverPreparedCommand =>
    obtain ⟨message, read, rfl⟩ := commits_bind_pure.mp commits
    obtain rfl := List.mem_singleton.mp member
    exact ⟨sound _ (lookupCommand_eq read).2, fun impossible => by cases impossible⟩
  | prepared =>
    obtain ⟨message, read, rfl⟩ := commits_bind_pure.mp commits
    unfold preparedTask at member
    repeat' split at member
    all_goals simp only [List.mem_singleton, List.not_mem_nil] at member
    subst member
    exact ⟨sound _ (lookupCommand_eq read).2, fun impossible => by cases impossible⟩
  | acknowledgedRejected =>
    obtain ⟨message, read, rfl⟩ := commits_bind_pure.mp commits
    unfold rejectTask at member
    split at member
    · rename_i open_
      obtain rfl := List.mem_singleton.mp member
      exact ⟨sound _ (lookupCommand_eq read).2, fun _ => open_.2.2.2⟩
    · cases member

/-- Every worker acts on a row that some state held, read before a Start where the
worker takes it for unstarted. -/
theorem World.Reachable.grounded (reach : w.Reachable codec) : ∀ task ∈ w.tasks, task.Grounded := by
  obtain ⟨es, run⟩ := reach
  have both : Jobs.Reachable w.db ∧ ∀ task ∈ w.tasks, task.Grounded := by
    apply run.invariant (fun w => Jobs.Reachable w.db ∧ ∀ task ∈ w.tasks, task.Grounded)
    · rintro w e w' adv ⟨reach, all⟩
      refine ⟨adv.reachable reach, ?_⟩
      cases adv with
      | call => exact all
      | start commits =>
        intro task member
        rcases List.mem_append.mp member with new | old
        · exact Origin.grounded reach.sound commits new
        · exact all task old
      | resume held commits =>
        intro task member
        rcases List.mem_append.mp member with new | old
        · obtain ⟨same, early⟩ := Task.follow_up commits new
          refine ⟨same ▸ (all _ held).sound, fun _ => ?_⟩
          rw [same]
          rcases early with unstarted | prepared
          · exact (all _ held).early unstarted
          · rw [prepared]
            rfl
        · exact all task (List.mem_of_mem_erase old)
      | drop =>
        intro task member
        exact all task (List.mem_of_mem_erase member)
    · exact ⟨⟨[], .nil _⟩, fun task impossible => by cases impossible⟩
  exact both.2

end grounded

/-! ## Runs of events -/

section exec

variable {codec : Codec} {w w' : World} {e : Event} {es : List Event}

/-- A call that is direct whatever the rows are. -/
def Call.ordinary : Call → Bool
  | .claimOutbox _ _ | .claimPendingCancellations _ _ | .reservePrepareSlot _ _ _
  | .prepareCommandEnvelope _ _ _ | .markPrepared _ _ _ _ | .markCommandTerminal _ _ _ _
  | .persistTerminalCommand _ | .persistValidationResult _ _ _ _ | .cancelValidation _ _ _ _ _ => false
  | _ => true

lemma Call.direct_of_ordinary {c : Call} {db : Database} (ordinary : c.ordinary = true) :
    c.Direct db := by
  cases c <;> trivial

def World.next? (codec : Codec) (w : World) : Event → Option World
  | .call c =>
    match c.ordinary, c.tx w.db with
    | true, .ok (_, db') => some ⟨db', w.tasks⟩
    | _, _ => none
  | .start origin =>
    match origin.tx w.db with
    | .ok (tasks, db') => some ⟨db', tasks ++ w.tasks⟩
    | .error _ => none
  | .resume task proposed =>
    match decide (task ∈ w.tasks), task.tx codec proposed w.db with
    | true, .ok (tasks, db') => some ⟨db', tasks ++ w.tasks.erase task⟩
    | _, _ => none
  | .drop task => if task ∈ w.tasks then some ⟨w.db, w.tasks.erase task⟩ else none

lemma World.advance_of_next? (next : w.next? codec e = some w') : Advance codec w e w' := by
  cases e
  all_goals
    simp only [next?] at next
    split at next <;> cases next
  next ordinary committed => exact .call (Call.direct_of_ordinary ordinary) committed
  next committed => exact .start committed
  next held committed => exact .resume (of_decide_eq_true held) committed
  next held => exact .drop held

/-- The world after the events, when they are all possible. -/
def World.exec (codec : Codec) (w : World) : List Event → Option World
  | [] => some w
  | e :: rest => (w.next? codec e).bind fun next => next.exec codec rest

lemma World.run_of_exec (done : w.exec codec es = some w') : Run (Advance codec) w es w' := by
  induction es generalizing w with
  | nil =>
    obtain rfl := Option.some.inj done
    exact .nil w
  | cons e rest ih =>
    obtain ⟨next, first, last⟩ := Option.bind_eq_some_iff.mp done
    exact .cons (advance_of_next? first) (ih last)

end exec

end DBPilot.Jobs
