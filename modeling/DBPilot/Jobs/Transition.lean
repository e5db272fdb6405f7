import DBPilot.Jobs.Types

/-!
# The job state machine

`ApplyTransition` and the checks it makes, as `model.go` computes them. Times are
instants already, so the normalisations to UTC are identities.
-/

namespace DBPilot.Jobs

def maximumTargetsPerJob : Nat := 10000

def isTerminalTarget : TargetStatus → Bool
  | .succeeded | .failed | .skipped | .cancelled | .timedOut => true
  | .queued | .running => false

def isTerminal : Status → Bool
  | .succeeded | .failed | .cancelled | .timedOut => true
  | .queued | .dispatched | .running | .cancelling => false

def allowedTransition : Status → Status → Bool
  | .queued, next => next = .dispatched || next = .cancelling
  | .dispatched, next => next = .running || next = .cancelling
  | .running, next =>
    next = .running || next = .succeeded || next = .failed || next = .timedOut || next = .cancelling
  | .cancelling, next =>
    next = .cancelling || next = .succeeded || next = .failed || next = .cancelled || next = .timedOut
  | _, _ => false

def allowedTargetTransition : TargetStatus → TargetStatus → Bool
  | .queued, next => next = .queued || next = .running || isTerminalTarget next
  | .running, next => next = .running || isTerminalTarget next
  | _, _ => false

def targetFor (results : List TargetResult) (target : String) : Option TargetResult :=
  results.find? fun result => result.targetID = target

def containsTarget (targets : List String) (target : String) : Bool := targets.contains target

def aggregateProgress (results : List TargetResult) : Progress where
  totalTargets := results.length
  completedTargets := results.countP fun result => result.status = .succeeded
  failedTargets := results.countP fun result =>
    result.status = .failed || result.status = .cancelled || result.status = .timedOut
  skippedTargets := results.countP fun result => result.status = .skipped

def aggregateProgressForTargets (expected : List String) (results : List TargetResult) : Progress :=
  { aggregateProgress results with totalTargets := expected.length }

/-- The counting loop of `AggregateOutcome` gives up at the first target that is
not terminal. -/
def aggregateOutcome (results : List TargetResult) : Outcome :=
  if results.all fun result => isTerminalTarget result.status then
    let succeeded := results.countP fun result => result.status = .succeeded
    let other := results.countP fun result => result.status ≠ .succeeded
    if 0 < succeeded ∧ 0 < other then .partialOutcome
    else if 0 < succeeded ∧ other = 0 then .complete
    else .none
  else .none

def outcomeFromProgress (progress : Progress) : Outcome :=
  if progress.completedTargets > 0 ∧ progress.failedTargets + progress.skippedTargets > 0 then
    .partialOutcome
  else if progress.totalTargets > 0 ∧ progress.completedTargets = progress.totalTargets then
    .complete
  else .none

def second : Int := 1000000000

def validateExecutionLimits (value : Job) : Bool :=
  if value.maxConcurrency = 0 ∧ value.targetTimeout = 0 then value.jobType ≠ "inspection.collect"
  else
    1 ≤ value.maxConcurrency && value.maxConcurrency ≤ 1000 &&
      second ≤ value.targetTimeout && value.targetTimeout ≤ 3600 * second

def validateTargets (value : Job) : Except JobError Unit :=
  if validateExecutionLimits value ∧ value.targetResourceIDs.length ≤ maximumTargetsPerJob ∧
      value.progress.totalTargets = value.targetResourceIDs.length ∧
      "" ∉ value.targetResourceIDs ∧ value.targetResourceIDs.Nodup ∧
      (∀ result ∈ value.targetResults, result.targetID ∈ value.targetResourceIDs) ∧
      (value.targetResults.map (·.targetID)).Nodup ∧
      value.progress = aggregateProgressForTargets value.targetResourceIDs value.targetResults then
    .ok ()
  else .error .invalidTransition

/-- The status a target is updated from; a target without a row is queued. -/
def targetState (current : Job) (target : String) : TargetStatus :=
  ((targetFor current.targetResults target).map (·.status)).getD .queued

def validTargetUpdates (current : Job) (updates : List TargetResult) : Bool :=
  updates.all (fun update => containsTarget current.targetResourceIDs update.targetID &&
      allowedTargetTransition (targetState current update.targetID) update.status) &&
    decide (updates.map (·.targetID)).Nodup

def upsertTarget (results : List TargetResult) (update : TargetResult) : List TargetResult :=
  if results.any fun result => result.targetID = update.targetID then
    results.map fun result => if result.targetID = update.targetID then update else result
  else results ++ [update]

def mergeTargetResults (current updates : List TargetResult) : List TargetResult :=
  updates.foldl upsertTarget current

def validProgressChange (current next : Progress) : Bool :=
  current.totalTargets = next.totalTargets && 0 ≤ next.totalTargets &&
    current.completedTargets ≤ next.completedTargets &&
    current.failedTargets ≤ next.failedTargets && current.skippedTargets ≤ next.skippedTargets &&
    next.completedTargets + next.failedTargets + next.skippedTargets ≤ next.totalTargets

def validSucceededJob (value : Job) : Bool :=
  value.targetResourceIDs ≠ [] && value.targetResults.length = value.targetResourceIDs.length &&
    value.targetResults.all (fun result => isTerminalTarget result.status) &&
    value.progress.completedTargets + value.progress.failedTargets + value.progress.skippedTargets =
      value.progress.totalTargets &&
    (value.outcome = .complete || value.outcome = .partialOutcome)

/-- The job `ApplyTransition` builds once its checks on the inputs have passed. -/
def transitioned (current : Job) (transition : Transition) : Job :=
  let results := mergeTargetResults current.targetResults transition.targetResults
  let progress := aggregateProgressForTargets current.targetResourceIDs results
  let status := transition.toStatus
  let firstCancel := status = .cancelling ∧ current.status ≠ .cancelling
  { current with
    status := status
    version := current.version + 1
    targetResults := results
    progress := progress
    errorSummary := if transition.errorSummary ≠ "" then transition.errorSummary else current.errorSummary
    resultSummary :=
      if transition.resultSummary ≠ "" then transition.resultSummary else current.resultSummary
    artifacts := transition.artifacts.getD current.artifacts
    dispatchedAt := if status = .dispatched then some transition.now else current.dispatchedAt
    startedAt :=
      if status = .running ∧ current.status = .dispatched then some transition.now else current.startedAt
    cancelRequestedBy := if firstCancel then transition.actor else current.cancelRequestedBy
    cancelRequestedAt := if firstCancel then some transition.now else current.cancelRequestedAt
    finishedAt := if isTerminal status then some transition.now else current.finishedAt
    outcome :=
      if isTerminal status then
        if results ≠ [] then aggregateOutcome results else outcomeFromProgress progress
      else .none }

def applyTransition (current : Job) (transition : Transition) : Except JobError Job := do
  if transition.currentVersion ≠ 0 ∧ transition.currentVersion ≠ current.version then
    throw .conflict
  validateTargets current
  if transition.now = 0 ∨ ¬ allowedTransition current.status transition.toStatus then
    throw .invalidTransition
  if transition.toStatus = .cancelling ∧ transition.actor = "" then
    throw .invalidTransition
  if current.status = .cancelling ∧ transition.toStatus = .cancelling ∧ transition.targetResults = [] then
    throw .invalidTransition
  if ¬ validTargetUpdates current transition.targetResults then
    throw .invalidTransition
  let next := transitioned current transition
  if transition.progress.any (· ≠ next.progress) then
    throw .invalidTransition
  if ¬ validProgressChange current.progress next.progress then
    throw .invalidTransition
  if transition.toStatus = .succeeded ∧ ¬ validSucceededJob next then
    throw .invalidTransition
  return next

def allTargetsTerminal (value : Job) : Bool :=
  value.targetResourceIDs ≠ [] && value.targetResults.length = value.targetResourceIDs.length &&
    value.targetResults.all fun result => isTerminalTarget result.status

def allTargetsCancelled (results : List TargetResult) : Bool :=
  results ≠ [] && results.all fun result => result.status = .cancelled

def hasTimedOutTarget (results : List TargetResult) : Bool :=
  results.any fun result => result.status = .timedOut

def collectArtifacts (results : List TargetResult) : List ArtifactReference :=
  results.flatMap (·.artifacts)

def terminalJobStatus (value : Job) : Status :=
  if value.progress.completedTargets > 0 then .succeeded
  else if allTargetsCancelled value.targetResults then .cancelled
  else if hasTimedOutTarget value.targetResults then .timedOut
  else .failed

def commandStatusForJob : Status → CommandStatus
  | .succeeded => .succeeded
  | .cancelled => .cancelled
  | .timedOut => .timedOut
  | _ => .failed

def terminalTargetMatchesCommand (target : TargetStatus) : CommandStatus → Bool
  | .succeeded => target = .succeeded
  | .cancelled => target = .cancelled
  | .timedOut => target = .timedOut
  | .failed | .rejected => target = .failed
  | .pending | .active => false

lemma applyTransition_ok {current next : Job} {transition : Transition}
    (applied : applyTransition current transition = .ok next) :
    next = transitioned current transition := by
  unfold applyTransition at applied
  simp only [bind, Except.bind, throw, throwThe, MonadExceptOf.throw, pure, Except.pure] at applied
  repeat' split at applied
  all_goals first | contradiction | exact (Except.ok.inj applied).symm

end DBPilot.Jobs
