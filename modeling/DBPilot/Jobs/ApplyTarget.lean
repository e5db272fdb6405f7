import DBPilot.Jobs.Commands
import DBPilot.Jobs.StateMachine
import Mathlib.Data.Multiset.Count

/-!
# Merging a target result into its job

`applyTarget` reads the job of a command, moves it to running with the result of
one target, and ends it once the last target has ended, each in a transaction of
its own. The verdict says how the job then ends; the transitions of a job that
`Get` returns are accepted.
-/

namespace DBPilot.Jobs

open Tables Transactions Upserts

def commandTransitionAttempts : Nat := 8

/-- What the lifecycle answers, whether it changed the job, and the database after it. -/
structure Reply where
  result : Except JobError Job
  mutated : Bool
  db : Database

/-- The attempts of `finalize`; the first one takes the candidate as read. -/
def finalizeLoop (candidate : Job) (now : Instant) : Nat → Option Job → Database → Reply
  | 0, _, db => ⟨.error .conflict, false, db⟩
  | attempts + 1, known, db =>
    match known.elim (perform (get candidate.scope candidate.id) db).1 .ok with
    | .error e => ⟨.error e, false, db⟩
    | .ok current =>
      if isTerminal current.status then ⟨.ok current, false, db⟩
      else if allTargetsTerminal current = false then ⟨.ok current, false, db⟩
      else
        match perform (transition (finalStep current now)) db with
        | (.ok next, db') => ⟨.ok next, true, db'⟩
        | (.error .conflict, db') => finalizeLoop candidate now attempts none db'
        | (.error e, db') => ⟨.error e, false, db'⟩

def finalize (candidate : Job) (now : Instant) (db : Database) : Reply :=
  finalizeLoop candidate now commandTransitionAttempts (some candidate) db

/-- The first attempt takes an open candidate as it is. -/
lemma finalize_of_open {candidate : Job} (open_ : isTerminal candidate.status = false) (now : Instant)
    (db : Database) :
    finalize candidate now db =
      if allTargetsTerminal candidate = false then ⟨.ok candidate, false, db⟩
      else
        match perform (transition (finalStep candidate now)) db with
        | (.ok next, db') => ⟨.ok next, true, db'⟩
        | (.error .conflict, db') => finalizeLoop candidate now 7 none db'
        | (.error e, db') => ⟨.error e, false, db'⟩ := by
  show (if isTerminal candidate.status = true then _ else _) = _
  rw [open_]
  rfl

def dispatchStep (current : Job) (now : Instant) : Transition where
  scope := current.scope
  jobID := current.id
  currentVersion := current.version
  toStatus := .dispatched
  now := now

/-- Merge a target result into a job that is past its dispatch. `again` is the next attempt. -/
def mergeTarget (message : OutboxMessage) (target : TargetResult) (now : Instant) (current : Job)
    (mutated : Bool) (db : Database) (again : Database → Reply) : Reply :=
  let existing := (targetFor current.targetResults message.targetID).map (·.status)
  if existing.any isTerminalTarget then
    if isTerminalTarget target.status then
      let final := finalize current now db
      ⟨final.result, mutated || final.mutated, final.db⟩
    else ⟨.ok current, mutated, db⟩
  else if existing = some .running ∧ target.status = .running then ⟨.ok current, mutated, db⟩
  else if current.status ≠ .dispatched ∧ current.status ≠ .running ∧ current.status ≠ .cancelling then
    ⟨.error .invalidTransition, mutated, db⟩
  else
    match perform (transition (targetStep current target now)) db with
    | (.ok next, db') =>
      if isTerminalTarget target.status then
        let final := finalize next now db'
        ⟨final.result, true, final.db⟩
      else ⟨.ok next, true, db'⟩
    | (.error .conflict, db') => again db'
    | (.error e, db') => ⟨.error e, mutated, db'⟩

/-- The attempts of `applyTargetWithProjection`. -/
def applyTargetLoop (message : OutboxMessage) (target : TargetResult) (now : Instant) : Nat → Bool → Database → Reply
  | 0, mutated, db => ⟨.error .conflict, mutated, db⟩
  | attempts + 1, mutated, db =>
    match perform (get message.scope message.jobID) db with
    | (.error e, db') => ⟨.error e, mutated, db'⟩
    | (.ok current, db') =>
      if current.id ≠ message.jobID ∨ current.scope ≠ message.scope ∨
          containsTarget current.targetResourceIDs message.targetID = false then
        ⟨.error .invalidCommandPayload, mutated, db'⟩
      else if isTerminal current.status then ⟨.ok current, mutated, db'⟩
      else if current.status = .queued then
        match perform (transition (dispatchStep current now)) db' with
        | (.ok _, dispatched) => applyTargetLoop message target now attempts true dispatched
        | (.error .conflict, same) => applyTargetLoop message target now attempts mutated same
        | (.error e, same) => ⟨.error e, mutated, same⟩
      else mergeTarget message target now current mutated db' (applyTargetLoop message target now attempts mutated)

/-- Command decoding, and the recorder that says what became of an instance validation. -/
structure Recorder where
  /-- `decodeUnsignedCommandShape` succeeds. -/
  decodes : OutboxMessage → Bool
  /-- The state and the error code of the effective result. -/
  finalizeResult : OutboxMessage → TargetResult → Instant → Except JobError (ResultState × String)

def finalizeDatabaseInstanceValidationTarget (recorder : Recorder) (message : OutboxMessage)
    (target : TargetResult) (now : Instant) : Except JobError TargetResult :=
  if isTerminalTarget target.status = false then .ok target
  else if recorder.decodes message = false then .error .invalidCommandPayload
  else if message.payload.validation = false then .ok target
  else
    match recorder.finalizeResult message target now with
    | .ok (state, errorCode) =>
      .ok (validationTarget message.targetID state ⟨state = .succeeded, errorCode⟩ now)
    | .error e => .error e

def applyTarget (recorder : Recorder) (message : OutboxMessage) (target : TargetResult)
    (now : Instant) (db : Database) : Reply :=
  match finalizeDatabaseInstanceValidationTarget recorder message target now with
  | .error e => ⟨.error e, false, db⟩
  | .ok effective => applyTargetLoop message effective now commandTransitionAttempts false db

/-! ## The verdict on a job -/

/-- How a job ends when its targets end with these statuses. -/
structure Verdict where
  status : Status
  outcome : Outcome
  progress : Progress
  deriving DecidableEq

def verdict (statuses : Multiset TargetStatus) : Verdict :=
  let completed := statuses.count .succeeded
  { status :=
      if 0 < completed then .succeeded
      else if ∀ status ∈ statuses, status = .cancelled then .cancelled
      else if .timedOut ∈ statuses then .timedOut
      else .failed
    outcome :=
      if completed = 0 then .none else if completed < statuses.card then .partialOutcome else .complete
    progress :=
      { totalTargets := statuses.card
        completedTargets := completed
        failedTargets := statuses.countP fun status =>
          status = .failed ∨ status = .cancelled ∨ status = .timedOut
        skippedTargets := statuses.count .skipped } }

def statusesOf (results : List TargetResult) : Multiset TargetStatus :=
  (results.map (·.status) : List TargetStatus)

section verdicts

variable {rows rows' : List TargetResult} {ids : List String}

lemma count_status (status : TargetStatus) :
    rows.countP (fun result => result.status = status) = (statusesOf rows).count status := by
  rw [statusesOf, Multiset.coe_count, List.count, List.countP_map]
  rfl

@[simp] lemma card_statusesOf : (statusesOf rows).card = rows.length := by
  simp [statusesOf]

@[simp] lemma mem_statusesOf {status : TargetStatus} :
    status ∈ statusesOf rows ↔ ∃ result ∈ rows, result.status = status := by
  simp [statusesOf]

lemma aggregateProgressForTargets_eq (complete : rows.length = ids.length) :
    aggregateProgressForTargets ids rows = (verdict (statusesOf rows)).progress := by
  have failed : rows.countP (fun result => result.status = .failed || result.status = .cancelled ||
      result.status = .timedOut) = (statusesOf rows).countP fun status => status = .failed ∨
        status = .cancelled ∨ status = .timedOut := by
    rw [statusesOf, Multiset.coe_countP, List.countP_map]
    apply List.countP_congr
    intro result _
    simp [or_assoc]
  simp only [aggregateProgressForTargets, aggregateProgress, verdict, count_status, failed, card_statusesOf, complete]

lemma aggregateOutcome_eq (ended : ∀ result ∈ rows, isTerminalTarget result.status = true) :
    aggregateOutcome rows = (verdict (statusesOf rows)).outcome := by
  have all : rows.all (fun result => isTerminalTarget result.status) = true := List.all_eq_true.mpr ended
  have parts : rows.length = rows.countP (fun result => result.status = .succeeded) +
      rows.countP (fun result => result.status ≠ .succeeded) := by
    rw [List.length_eq_countP_add_countP (fun result : TargetResult => decide (result.status = .succeeded))]
    simp
  simp only [aggregateOutcome, all, if_true, verdict, card_statusesOf, ← count_status]
  repeat' split
  all_goals first | rfl | omega

lemma terminalJobStatus_eq {value : Job} (complete : value.targetResults.length = ids.length)
    (counted : value.progress = aggregateProgressForTargets ids value.targetResults)
    (nonempty : value.targetResults ≠ []) :
    terminalJobStatus value = (verdict (statusesOf value.targetResults)).status := by
  have completed : value.progress.completedTargets > 0 ↔ 0 < (statusesOf value.targetResults).count .succeeded := by
    rw [counted, aggregateProgressForTargets_eq complete]
    simp [verdict]
  have cancelled : allTargetsCancelled value.targetResults = true ↔
      ∀ status ∈ statusesOf value.targetResults, status = .cancelled := by
    simp [allTargetsCancelled, nonempty]
  have timedOut : hasTimedOutTarget value.targetResults = true ↔ .timedOut ∈ statusesOf value.targetResults := by
    simp [hasTimedOutTarget]
  simp only [terminalJobStatus, verdict, completed, cancelled, timedOut]

/-- The counted statuses exclude each other. -/
lemma counted_le_length (rows : List TargetResult) :
    rows.countP (fun result => result.status = .succeeded) +
      rows.countP (fun result => result.status = .failed || result.status = .cancelled || result.status = .timedOut) +
      rows.countP (fun result => result.status = .skipped) ≤ rows.length := by
  induction rows with
  | nil => simp
  | cons result =>
    simp only [List.countP_cons, List.length_cons]
    cases result.status <;> simp <;> omega

/-- And they are the terminal ones. -/
lemma counted_eq_length (ended : ∀ result ∈ rows, isTerminalTarget result.status = true) :
    rows.countP (fun result => result.status = .succeeded) +
      rows.countP (fun result => result.status = .failed || result.status = .cancelled || result.status = .timedOut) +
      rows.countP (fun result => result.status = .skipped) = rows.length := by
  induction rows with
  | nil => simp
  | cons result rest ih =>
    have first := ended result List.mem_cons_self
    have later := ih fun other member => ended other (List.mem_cons_of_mem result member)
    simp only [List.countP_cons, List.length_cons]
    cases status : result.status <;> simp_all [isTerminalTarget] <;> omega

lemma validProgressChange_aggregate (complete : rows'.length = ids.length)
    (grows : ∀ counts : TargetResult → Bool,
      (∀ result, counts result = true → isTerminalTarget result.status = true) →
      rows.countP counts ≤ rows'.countP counts) :
    validProgressChange (aggregateProgressForTargets ids rows) (aggregateProgressForTargets ids rows') =
      true := by
  have completed := grows (fun result => result.status = .succeeded) (by
    intro result counted
    rw [of_decide_eq_true counted]
    rfl)
  have failed := grows (fun result => result.status = .failed || result.status = .cancelled ||
      result.status = .timedOut) (by
    intro result counted
    simp only [Bool.or_eq_true, decide_eq_true_eq] at counted
    rcases counted with (h | h) | h <;> rw [h] <;> rfl)
  have skipped := grows (fun result => result.status = .skipped) (by
    intro result counted
    rw [of_decide_eq_true counted]
    rfl)
  have bounded := counted_le_length rows'
  simp only [validProgressChange, aggregateProgressForTargets, aggregateProgress, Bool.and_eq_true]
  refine ⟨⟨⟨⟨⟨decide_eq_true trivial, ?_⟩, ?_⟩, ?_⟩, ?_⟩, ?_⟩
  all_goals
    apply decide_eq_true
    omega

end verdicts

/-! ## The transitions of a job that is under way -/

section transitions

variable {value : Job} {result : TargetResult} {now : Instant}

/-- The job as `Get` returns it: every target has its row. -/
structure Ready (value : Job) : Prop where
  valid : ValidTargets value
  complete : value.targetResults.map (·.targetID) = value.targetResourceIDs
  open_ : isTerminal value.status = false
  requested : value.status = .cancelling → value.cancelRequestedBy ≠ ""

section

variable (ready : Ready value)
include ready

lemma Ready.length : value.targetResults.length = value.targetResourceIDs.length := by
  rw [← ready.complete, List.length_map]

lemma Ready.row {id : String} (known : id ∈ value.targetResourceIDs) :
    ∃ row ∈ value.targetResults, row.targetID = id ∧ targetFor value.targetResults id = some row := by
  rw [← ready.complete] at known
  obtain ⟨row, member, rfl⟩ := List.mem_map.mp known
  exact ⟨row, member, rfl, (targetFor_eq_some ready.valid.once).mpr ⟨member, rfl⟩⟩

lemma Ready.accepts_dispatch (queued : value.status = .queued) (dated : now ≠ 0) :
    Accepts value (dispatchStep value now) where
  version := .inr rfl
  valid := ready.valid
  dated := dated
  allowed := by rw [queued]; rfl
  signed impossible := by cases impossible
  changes cancelling := by rw [queued] at cancelling; cases cancelling
  updates := rfl
  agreed := rfl
  progress := by
    rw [ready.valid.counted]
    exact validProgressChange_aggregate ready.length fun _ _ => le_rfl
  succeeded impossible := by cases impossible

/-- The rows after one target changed. -/
lemma Ready.length_upsert (known : result.targetID ∈ value.targetResourceIDs) :
    (upsert TargetResult.targetID value.targetResults result).map (·.targetID) =
      value.targetResourceIDs := by
  rw [← ready.complete] at known ⊢
  exact map_key_upsert known

lemma Ready.accepts_target (past : value.status ≠ .queued) (known : result.targetID ∈ value.targetResourceIDs)
    (waiting : ∀ row ∈ value.targetResults, row.targetID = result.targetID →
      isTerminalTarget row.status = false) (news : result.status = .running ∨ isTerminalTarget result.status = true)
    (dated : now ≠ 0) : Accepts value (targetStep value result now) where
  version := .inr rfl
  valid := ready.valid
  dated := dated
  allowed := by
    have open_ := ready.open_
    show allowedTransition value.status (if value.status = .cancelling then .cancelling else .running) = true
    cases status : value.status <;> simp_all [isTerminal, allowedTransition]
  signed cancelling := by
    by_cases already : value.status = .cancelling
    · simpa [targetStep, already] using ready.requested already
    · simp [targetStep, already] at cancelling
  changes _ _ := by simp [targetStep]
  updates := by
    apply validTargetUpdates_iff.mpr
    refine ⟨?_, List.nodup_singleton _⟩
    intro update listed
    obtain rfl := List.mem_singleton.mp listed
    refine ⟨known, ?_⟩
    obtain ⟨row, member, same, found⟩ := ready.row known
    have unfinished := waiting row member same
    have state : targetState value update.targetID = row.status := by simp [targetState, found]
    rw [state]
    cases status : row.status <;> rcases news with running | ended <;>
      simp_all [isTerminalTarget, allowedTargetTransition]
  agreed := rfl
  progress := by
    rw [ready.valid.counted]
    apply validProgressChange_aggregate
    · show (upsert TargetResult.targetID value.targetResults result).length = _
      rw [← ready.length_upsert known, List.length_map]
    · intro counts terminal
      apply countP_le_countP_upsert
      intro row member same
      by_contra counted
      have ended := terminal row (by simpa using counted)
      rw [waiting row member same] at ended
      cases ended
  succeeded impossible := by
    by_cases already : value.status = .cancelling <;> simp [targetStep, already] at impossible

end

lemma terminalJobStatus_ne_cancelling : terminalJobStatus value ≠ .cancelling := by
  unfold terminalJobStatus
  repeat' split
  all_goals simp

lemma isTerminal_terminalJobStatus : isTerminal (terminalJobStatus value) = true := by
  unfold terminalJobStatus
  repeat' split
  all_goals rfl

lemma allTargetsTerminal_iff (ready : Ready value) : allTargetsTerminal value = true ↔
    value.targetResults ≠ [] ∧ ∀ row ∈ value.targetResults, isTerminalTarget row.status = true := by
  have same : value.targetResourceIDs = [] ↔ value.targetResults = [] := by
    rw [← ready.complete, List.map_eq_nil_iff]
  simp [allTargetsTerminal, ready.length, same]

lemma outcome_final (nonempty : value.targetResults ≠ []) :
    (transitioned value (finalStep value now)).outcome = aggregateOutcome value.targetResults := by
  show (if isTerminal (terminalJobStatus value) = true then _ else _) = _
  rw [if_pos isTerminal_terminalJobStatus]
  exact if_pos nonempty

/-- A job with a succeeded target ends as succeeded. -/
lemma Ready.valid_succeeded (ready : Ready value) (done : allTargetsTerminal value = true)
    (succeeded : terminalJobStatus value = .succeeded) :
    validSucceededJob (transitioned value (finalStep value now)) = true := by
  obtain ⟨nonempty, ended⟩ := (allTargetsTerminal_iff ready).mp done
  have rows : (transitioned value (finalStep value now)).targetResults = value.targetResults := rfl
  have completed : 0 < value.targetResults.countP fun result => result.status = .succeeded := by
    rw [terminalJobStatus_eq ready.length ready.valid.counted nonempty] at succeeded
    rw [count_status]
    by_contra none
    simp only [verdict, none, if_false] at succeeded
    repeat' split at succeeded
    all_goals cases succeeded
  have counts := counted_eq_length ended
  have good : aggregateOutcome value.targetResults = .complete ∨
      aggregateOutcome value.targetResults = .partialOutcome := by
    rw [aggregateOutcome_eq ended]
    simp only [verdict, ← count_status]
    rw [if_neg (by omega)]
    split
    · exact .inr rfl
    · exact .inl rfl
  have same : value.targetResourceIDs ≠ [] := by
    rw [← ready.complete]
    simpa using nonempty
  have total := ready.length
  simp only [validSucceededJob, outcome_final nonempty, rows, Bool.and_eq_true, Bool.or_eq_true, decide_eq_true_eq]
  refine ⟨⟨⟨⟨same, total⟩, List.all_eq_true.mpr ended⟩, ?_⟩, good⟩
  show ((_ : Nat) : Int) + (_ : Nat) + (_ : Nat) = ((_ : Nat) : Int)
  rw [← total, ← counts]
  rfl

/-- Once every target has ended, the job ends where its status allows it. -/
lemma Ready.accepts_final (ready : Ready value) (done : allTargetsTerminal value = true) (dated : now ≠ 0)
    (allowed : allowedTransition value.status (terminalJobStatus value) = true) :
    Accepts value (finalStep value now) where
  version := .inr rfl
  valid := ready.valid
  dated := dated
  allowed := allowed
  signed cancelling := absurd cancelling terminalJobStatus_ne_cancelling
  changes _ cancelling := absurd cancelling terminalJobStatus_ne_cancelling
  updates := rfl
  agreed := rfl
  progress := by
    rw [ready.valid.counted]
    exact validProgressChange_aggregate ready.length fun _ _ => le_rfl
  succeeded succeeded := ready.valid_succeeded done succeeded

end transitions

/-! ## The stored job -/

section stored

variable {db : Database} {row next : Job} {t : Transition} {now : Instant}

lemma Job.loaded_stored (complete : next.targetResults.map (·.targetID) = next.targetResourceIDs) :
    next.stored.loaded = next.stored := by
  have ids : next.stored.targetResults.map (·.targetID) = next.stored.targetResourceIDs := by
    simpa [Job.stored, Function.comp_def] using complete
  show ({ next.stored with targetResourceIDs := next.stored.targetResults.map (·.targetID) } : Job) = _
  rw [ids]

/-- Storing a job rounds times only. -/
lemma mem_stored {r : TargetResult} (member : r ∈ next.stored.targetResults) :
    ∃ r₀ ∈ next.targetResults, r.targetID = r₀.targetID ∧ r.status = r₀.status := by
  obtain ⟨r₀, member₀, rfl⟩ := List.mem_map.mp member
  exact ⟨r₀, member₀, rfl, rfl⟩

lemma terminalJobStatus_stored : terminalJobStatus next.stored = terminalJobStatus next := by
  simp [terminalJobStatus, allTargetsCancelled, hasTimedOutTarget, Job.stored]

lemma finalStep_stored : finalStep next.stored now = finalStep next now := by
  have artifacts : collectArtifacts next.stored.targetResults = collectArtifacts next.targetResults := by
    simp [collectArtifacts, Job.stored, List.flatMap_map]
  simp only [finalStep, terminalJobStatus_stored, artifacts]
  rfl

lemma allTargetsTerminal_stored : allTargetsTerminal next.stored = allTargetsTerminal next := by
  simp only [allTargetsTerminal, Job.stored, List.length_map, List.all_map, Function.comp_def]
  rfl

lemma ValidTargets.stored (valid : ValidTargets next) : ValidTargets next.stored := by
  refine ⟨valid.limits, valid.few, valid.total, valid.named, valid.distinct, ?_, ?_, ?_⟩
  · intro r member
    obtain ⟨r₀, member₀, same, _⟩ := mem_stored member
    rw [same]
    exact valid.known r₀ member₀
  · simpa [Job.stored, Function.comp_def] using valid.once
  · rw [show next.stored.progress = next.progress from rfl, valid.counted]
    simp [aggregateProgressForTargets, aggregateProgress, Job.stored, List.countP_map, Function.comp_def]

/-- A row that `Get` returns. -/
structure Stored (db : Database) (row : Job) : Prop where
  member : row ∈ db.jobs
  scope : row.scope.validate = true
  id : isBlank row.id = false
  valid : ValidTargets row.loaded

section

variable (stored : Stored db row)
include stored

lemma Stored.find : db.jobs.find? (row.scope, row.id) = some row :=
  Table.find?_of_mem stored.member

lemma Stored.commits_get : Commits (get row.scope row.id) db row.loaded db := by
  simp only [get, loadJob, commits_bind, commits_require, commits_selectJob, commits_attempt, commits_pure]
  refine ⟨(), db, ⟨stored.scope, rfl⟩, (), db, ⟨by simp [stored.id], rfl⟩, row.loaded, db, ?_, (), db,
    ⟨validateTargets_ok.mpr stored.valid, rfl⟩, rfl, rfl⟩
  exact ⟨row, db, ⟨stored.find, rfl⟩, (), db, ⟨stored.valid.limits, rfl⟩, rfl, rfl⟩

lemma Stored.get : perform (get row.scope row.id) db = (.ok row.loaded, db) :=
  perform_eq_ok.mpr stored.commits_get

lemma Stored.perform_transition (scope : t.scope = row.scope) (id : t.jobID = row.id)
    (version : t.currentVersion = row.version) :
    perform (transition t) db = match applyTransition row.loaded t with
      | .ok next => (.ok next, { db with jobs := db.jobs.put next.stored })
      | .error e => (.error e, db) := by
  have same : { t with currentVersion :=
      if t.currentVersion = 0 then row.loaded.version else t.currentVersion } = t := by
    rw [version]
    show ({ t with currentVersion := if row.version = 0 then row.version else row.version } : Transition) = t
    rw [ite_self, ← version]
  have loaded : loadJob t.scope t.jobID db = .ok (row.loaded, db) := by
    show Commits (loadJob t.scope t.jobID) db row.loaded db
    simp only [loadJob, commits_bind, commits_require, commits_selectJob, commits_pure, scope, id]
    exact ⟨row, db, ⟨stored.find, rfl⟩, (), db, ⟨stored.valid.limits, rfl⟩, rfl, rfl⟩
  have legal : t.scope.validate = true := scope ▸ stored.scope
  unfold perform
  simp only [transition, transitionInTx, require, legal, bind, StateT.bind, Except.bind, loaded, same, if_true]
  cases applyTransition row.loaded t <;> rfl

lemma Stored.transition (scope : t.scope = row.scope) (id : t.jobID = row.id)
    (version : t.currentVersion = row.version) (accepts : Accepts row.loaded t)
    (complete : (transitioned row.loaded t).targetResults.map (·.targetID) = row.targetResults.map (·.targetID)) :
    ∃ db', perform (transition t) db = (.ok (transitioned row.loaded t), db') ∧
      Stored db' (transitioned row.loaded t).stored ∧
      (transitioned row.loaded t).stored.loaded = (transitioned row.loaded t).stored := by
  have loaded : (transitioned row.loaded t).stored.loaded = (transitioned row.loaded t).stored :=
    Job.loaded_stored complete
  refine ⟨{ db with jobs := db.jobs.put (transitioned row.loaded t).stored }, ?_, ?_, loaded⟩
  · rw [stored.perform_transition scope id version, applyTransition_eq_ok.mpr ⟨accepts, rfl⟩]
  · refine ⟨?_, stored.scope, stored.id, ?_⟩
    · exact List.mem_map.mpr ⟨row, stored.member, if_pos rfl⟩
    · rw [loaded]
      exact accepts.valid_next.stored

end

end stored

end DBPilot.Jobs
