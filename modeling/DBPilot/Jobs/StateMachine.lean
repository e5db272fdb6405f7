import DBPilot.Jobs.Transition
import DBPilot.Lib.Upsert

/-!
# The invariants of the job state machine

What `ApplyTransition` checks and what it preserves. A run of transitions ends
the job at most once, and nothing follows its end.
-/

namespace DBPilot.Jobs

open Runs Upserts Transactions

structure ValidTargets (value : Job) : Prop where
  limits : validateExecutionLimits value = true
  few : value.targetResourceIDs.length ≤ maximumTargetsPerJob
  total : value.progress.totalTargets = value.targetResourceIDs.length
  named : "" ∉ value.targetResourceIDs
  distinct : value.targetResourceIDs.Nodup
  known : ∀ result ∈ value.targetResults, result.targetID ∈ value.targetResourceIDs
  once : (value.targetResults.map (·.targetID)).Nodup
  counted : value.progress = aggregateProgressForTargets value.targetResourceIDs value.targetResults

lemma validateTargets_ok {value : Job} : validateTargets value = .ok () ↔ ValidTargets value := by
  unfold validateTargets
  constructor
  · intro accepted
    split at accepted
    · rename_i checks
      obtain ⟨limits, few, total, named, distinct, known, once, counted⟩ := checks
      exact ⟨limits, few, total, named, distinct, known, once, counted⟩
    · cases accepted
  · rintro ⟨limits, few, total, named, distinct, known, once, counted⟩
    exact if_pos ⟨limits, few, total, named, distinct, known, once, counted⟩

/-- What `ApplyTransition` checks. -/
structure Accepts (current : Job) (transition : Transition) : Prop where
  version : transition.currentVersion = 0 ∨ transition.currentVersion = current.version
  valid : ValidTargets current
  dated : transition.now ≠ 0
  allowed : allowedTransition current.status transition.toStatus = true
  signed : transition.toStatus = .cancelling → transition.actor ≠ ""
  changes : current.status = .cancelling → transition.toStatus = .cancelling → transition.targetResults ≠ []
  updates : validTargetUpdates current transition.targetResults = true
  agreed : transition.progress.any (· ≠ (transitioned current transition).progress) = false
  progress : validProgressChange current.progress (transitioned current transition).progress = true
  succeeded : transition.toStatus = .succeeded → validSucceededJob (transitioned current transition) = true

section transitions

variable {current next : Job} {transition : Transition}

lemma applyTransition_eq_ok : applyTransition current transition = .ok next ↔
    Accepts current transition ∧ next = transitioned current transition := by
  simp only [applyTransition, bind_eq_ok, ite_throw_eq_ok, pure, Except.pure, Except.ok.injEq]
  constructor
  · rintro ⟨version, _, valid, timed, signed, changes, updates, agreed, progress, succeeded, rfl⟩
    refine ⟨{ version := ?_, valid := validateTargets_ok.mp valid, dated := ?_, allowed := ?_,
              signed := ?_, changes := ?_, updates := ?_, agreed := by simpa using agreed,
              progress := ?_, succeeded := ?_ }, rfl⟩
    all_goals tauto
  · rintro ⟨accepts, rfl⟩
    obtain ⟨version, valid, dated, allowed, signed, changes, updates, agreed, progress, succeeded⟩ := accepts
    refine ⟨?_, (), validateTargets_ok.mpr valid, ?_, ?_, ?_, ?_, by rw [agreed]; decide, ?_, ?_, rfl⟩
    all_goals tauto

lemma validTargetUpdates_iff {updates : List TargetResult} : validTargetUpdates current updates = true ↔
    (∀ update ∈ updates, update.targetID ∈ current.targetResourceIDs ∧
      allowedTargetTransition (targetState current update.targetID) update.status = true) ∧
    (updates.map (·.targetID)).Nodup := by
  simp [validTargetUpdates, containsTarget]

variable {result : TargetResult}

lemma targetFor_eq_some {results : List TargetResult} {id : String} (once : (results.map (·.targetID)).Nodup) :
    targetFor results id = some result ↔ result ∈ results ∧ result.targetID = id := by
  constructor
  · intro found
    exact ⟨List.mem_of_find?_eq_some found, by simpa using List.find?_some found⟩
  · rintro ⟨member, rfl⟩
    cases found : targetFor results result.targetID with
    | none =>
      have absent := List.find?_eq_none.mp found result member
      simp at absent
    | some other =>
      have same : other.targetID = result.targetID := by simpa using List.find?_some found
      rw [List.inj_on_of_nodup_map once (List.mem_of_find?_eq_some found) member same]

section

variable (accepts : Accepts current transition)
include accepts

/-- The rows of the next job. -/
lemma Accepts.mem_results :
    result ∈ (transitioned current transition).targetResults ↔ result ∈ transition.targetResults ∨
      result ∈ current.targetResults ∧ result.targetID ∉ transition.targetResults.map (·.targetID) :=
  mem_merge (validTargetUpdates_iff.mp accepts.updates).2

/-- The next job is valid: its rows are known targets, each once, and its counters
are those of its rows. -/
lemma Accepts.valid_next : ValidTargets (transitioned current transition) := by
  have valid := accepts.valid
  have distinct : ((transitioned current transition).targetResults.map (·.targetID)).Nodup :=
    nodup_merge valid.once
  refine ⟨valid.limits, valid.few, rfl, valid.named, valid.distinct, ?_, distinct, rfl⟩
  intro result member
  rcases accepts.mem_results.mp member with updated | ⟨kept, _⟩
  · exact ((validTargetUpdates_iff.mp accepts.updates).1 result updated).1
  · exact valid.known result kept

lemma Accepts.settled {id : String} (found : targetFor current.targetResults id = some result)
    (ended : isTerminalTarget result.status = true) :
    targetFor (transitioned current transition).targetResults id = some result := by
  obtain ⟨member, same⟩ := (targetFor_eq_some accepts.valid.once).mp found
  apply (targetFor_eq_some accepts.valid_next.once).mpr
  refine ⟨accepts.mem_results.mpr (.inr ⟨member, ?_⟩), same⟩
  rw [same]
  -- a terminal target takes no update
  intro updated
  obtain ⟨update, listed, rfl⟩ := List.mem_map.mp updated
  have allowed := ((validTargetUpdates_iff.mp accepts.updates).1 update listed).2
  have state : targetState current update.targetID = result.status := by simp [targetState, found]
  rw [state] at allowed
  cases status : result.status <;> simp_all [isTerminalTarget, allowedTargetTransition]

end

lemma Accepts.open_ (accepts : Accepts current transition) : isTerminal current.status = false := by
  have allowed := accepts.allowed
  cases status : current.status <;> simp_all [isTerminal, allowedTransition]

end transitions

/-! ## Transitions and runs of transitions -/

/-- What a transition that succeeds leaves true. -/
structure Lawful (current next : Job) : Prop where
  valid : validateTargets next = .ok ()
  version : next.version = current.version + 1
  targets : next.targetResourceIDs = current.targetResourceIDs
  total : next.progress.totalTargets = current.progress.totalTargets
  settled : ∀ id result, targetFor current.targetResults id = some result →
    isTerminalTarget result.status = true → targetFor next.targetResults id = some result
  completed : current.progress.completedTargets ≤ next.progress.completedTargets
  failed : current.progress.failedTargets ≤ next.progress.failedTargets
  skipped : current.progress.skippedTargets ≤ next.progress.skippedTargets
  bounded : next.progress.completedTargets + next.progress.failedTargets +
    next.progress.skippedTargets ≤ next.progress.totalTargets
  outcome : isTerminal next.status = false → next.outcome = .none
  open_ : isTerminal current.status = false

def Applies (current : Job) (transition : Transition) (next : Job) : Prop :=
  applyTransition current transition = .ok next

/-- A transition that does not end the job. -/
def Continues (current : Job) (transition : Transition) (next : Job) : Prop :=
  Applies current transition next ∧ isTerminal next.status = false ∧
    next.finishedAt = current.finishedAt

section runs

variable {current next start last : Job} {transition : Transition} {transitions : List Transition}

lemma Applies.lawful (applied : Applies current transition next) : Lawful current next := by
  obtain ⟨accepts, rfl⟩ := applyTransition_eq_ok.mp applied
  have progress := accepts.progress
  simp only [validProgressChange, Bool.and_eq_true, decide_eq_true_eq] at progress
  obtain ⟨⟨⟨⟨⟨total, _⟩, completed⟩, failed⟩, skipped⟩, bounded⟩ := progress
  refine ⟨validateTargets_ok.mpr accepts.valid_next, rfl, rfl, total.symm, ?_, completed, failed,
    skipped, bounded, ?_, accepts.open_⟩
  · intro id result found ended
    exact accepts.settled found ended
  · intro unfinished
    exact if_neg (by rw [show isTerminal transition.toStatus = false from unfinished]; decide)

/-- A transition ends the job at its time, or leaves the time of its end alone. -/
lemma Applies.finishedAt (applied : Applies current transition next) :
    isTerminal next.status = true ∧ next.finishedAt = some transition.now ∨
      Continues current transition next := by
  obtain ⟨_, same⟩ := applyTransition_eq_ok.mp applied
  cases ended : isTerminal next.status with
  | true =>
    left
    refine ⟨rfl, ?_⟩
    rw [same] at ended ⊢
    exact if_pos ended
  | false =>
    right
    refine ⟨applied, ended, ?_⟩
    rw [same] at ended ⊢
    exact if_neg (by rw [show isTerminal transition.toStatus = false from ended]; decide)

/-- No transition of a run ends the job, or its last one does. -/
lemma run_ends_once (run : Run Applies start transitions last) :
    Run Continues start transitions last ∨ ∃ earlier final before,
      transitions = earlier ++ [final] ∧ Run Continues start earlier before ∧
      Applies before final last ∧ isTerminal last.status = true ∧ last.finishedAt = some final.now := by
  induction run with
  | nil => exact .inl (.nil _)
  | @cons a b c t ts applied rest ih =>
    rcases Applies.finishedAt applied with ⟨ended, finished⟩ | continues
    · -- Nothing follows: the next transition would start from a terminal status.
      cases rest with
      | nil => exact .inr ⟨[], t, a, rfl, .nil a, applied, ended, finished⟩
      | cons following _ =>
        have open_ := (Applies.lawful following).open_
        rw [ended] at open_
        cases open_
    · rcases ih with never | ⟨earlier, final, before, rfl, early, ending⟩
      · exact .inl (.cons continues never)
      · exact .inr ⟨t :: earlier, final, before, rfl, .cons continues early, ending⟩

/-- A transition of a valid job that succeeds is lawful, and a run of transitions
from a queued job ends it at most once, in its last step, which alone sets the
time of the end. -/
theorem job_state_machine :
    (∀ current transition next, validateTargets current = .ok () →
      applyTransition current transition = .ok next → Lawful current next) ∧
    (∀ start transitions last, start.status = .queued → Run Applies start transitions last →
      Run Continues start transitions last ∨ ∃ earlier final before,
        transitions = earlier ++ [final] ∧ Run Continues start earlier before ∧
        Applies before final last ∧ isTerminal last.status = true ∧
        last.finishedAt = some final.now) := by
  constructor
  · intro current transition next _ applied
    exact Applies.lawful applied
  · intro start transitions last _ run
    exact run_ends_once run

end runs

/-! A job with two targets, one of which fails. -/

def twoTargetJob : Job where
  id := "job"
  jobType := "inspection.collect"
  scope := ⟨"tenant", "project"⟩
  status := .queued
  outcome := .none
  targetResourceIDs := ["first", "second"]
  idempotencyKey := "key"
  version := 1
  progress := ⟨2, 0, 0, 0⟩
  targetResults := []
  createdAt := 1000
  maxConcurrency := 1
  targetTimeout := 60 * second

def towards (status : Status) (results : List TargetResult) (now : Instant) : Transition where
  scope := twoTargetJob.scope
  jobID := twoTargetJob.id
  currentVersion := 0
  toStatus := status
  targetResults := results
  now := now

def twoTargetRun : List Transition :=
  [towards .dispatched [] 2000,
    towards .running [⟨"first", .failed, "unreachable", "", [], some 3000⟩,
      ⟨"second", .succeeded, "", "done", [], some 3000⟩] 3000,
    towards .succeeded [] 4000]

/-- The job after the transitions, whether or not they are accepted. -/
def afterTransitions (transitions : List Transition) : Job :=
  transitions.foldl transitioned twoTargetJob

theorem job_state_machine_sample :
    validateTargets twoTargetJob = .ok () ∧
    Lawful twoTargetJob (afterTransitions (twoTargetRun.take 1)) ∧
    Run Applies twoTargetJob twoTargetRun (afterTransitions twoTargetRun) ∧
    ∃ earlier final before, twoTargetRun = earlier ++ [final] ∧
      Run Continues twoTargetJob earlier before ∧ Applies before final (afterTransitions twoTargetRun) ∧
      isTerminal (afterTransitions twoTargetRun).status = true ∧
      (afterTransitions twoTargetRun).finishedAt = some final.now := by
  have valid : validateTargets twoTargetJob = .ok () := by decide +kernel
  have first : Applies twoTargetJob (towards .dispatched [] 2000) (afterTransitions (twoTargetRun.take 1)) := by
    unfold Applies
    decide +kernel
  have run : Run Applies twoTargetJob twoTargetRun (afterTransitions twoTargetRun) := by
    refine .cons first (.cons (b := afterTransitions (twoTargetRun.take 2)) ?_ (.cons ?_ (.nil _)))
    all_goals
      unfold Applies
      decide +kernel
  refine ⟨valid, job_state_machine.1 _ _ _ valid first, run, ?_⟩
  rcases job_state_machine.2 _ _ _ rfl run with never | once
  · -- The last transition of the run is to a terminal status.
    have ended : isTerminal (afterTransitions twoTargetRun).status = true := by decide +kernel
    have parts : Run Continues _ (twoTargetRun.take 2 ++ twoTargetRun.drop 2) _ := never
    obtain ⟨_, _, _ | ⟨last, ⟨⟩⟩⟩ := parts.split
    rw [last.2.1] at ended
    cases ended
  · exact once

/-! ## Targets without a row -/

def queuedRow (id : String) : TargetResult := ⟨id, .queued, "", "", [], none⟩

/-- Queued rows for the target resources that have no row. -/
def missingRows (ids : List String) (rows : List TargetResult) : List TargetResult :=
  (ids.filter (· ∉ rows.map (·.targetID))).map queuedRow

def Job.padded (value : Job) : Job :=
  { value with targetResults := value.targetResults ++ missingRows value.targetResourceIDs value.targetResults }

/-- The transition leaves no target without a row, or a row open, or no row succeeded. -/
def Conclusive (current : Job) (transition : Transition) : Prop :=
  let rows := mergeTargetResults current.targetResults transition.targetResults
  missingRows current.targetResourceIDs rows = [] ∨ (∃ row ∈ rows, isTerminalTarget row.status = false) ∨
    ∀ row ∈ rows, row.status ≠ .succeeded

section missing

variable {current next : Job} {transition : Transition} {rows rows' : List TargetResult} {row : TargetResult}
  {ids : List String}

lemma mem_missingRows : row ∈ missingRows ids rows ↔ ∃ id ∈ ids, id ∉ rows.map (·.targetID) ∧ row = queuedRow id := by
  simp [missingRows, and_assoc, eq_comm]

lemma status_of_missing (missing : row ∈ missingRows ids rows) : row.status = .queued := by
  obtain ⟨id, -, -, rfl⟩ := mem_missingRows.mp missing
  rfl

/-- With the missing rows every known target has exactly one row. -/
lemma padded_keys (distinct : ids.Nodup) (once : (rows.map (·.targetID)).Nodup)
    (known : ∀ row ∈ rows, row.targetID ∈ ids) :
    ((rows ++ missingRows ids rows).map (·.targetID)).Nodup ∧ (rows ++ missingRows ids rows).length = ids.length := by
  have keys : (missingRows ids rows).map (·.targetID) = ids.filter (· ∉ rows.map (·.targetID)) := by
    rw [missingRows, List.map_map]
    exact List.map_id _
  have nodup : ((rows ++ missingRows ids rows).map (·.targetID)).Nodup := by
    rw [List.map_append, keys, List.nodup_append']
    refine ⟨once, distinct.filter _, ?_⟩
    intro id listed missing
    exact of_decide_eq_true (List.mem_filter.mp missing).2 listed
  refine ⟨nodup, ?_⟩
  rw [← List.length_map (·.targetID)]
  refine ((List.perm_ext_iff_of_nodup nodup distinct).mpr fun id => ?_).length_eq
  rw [List.map_append, keys, List.mem_append, List.mem_filter]
  constructor
  · rintro (listed | ⟨resource, -⟩)
    · obtain ⟨row, member, rfl⟩ := List.mem_map.mp listed
      exact known row member
    · exact resource
  · intro resource
    by_cases listed : id ∈ rows.map (·.targetID)
    · exact .inl listed
    · exact .inr ⟨resource, decide_eq_true listed⟩

/-! Neither the counters nor the outcome depend on the order of the rows, and a queued row counts for nothing. -/

lemma aggregateProgressForTargets_padded (same : rows'.Perm (rows ++ missingRows ids rows)) :
    aggregateProgressForTargets ids rows' = aggregateProgressForTargets ids rows := by
  have uncounted : ∀ p : TargetStatus → Bool, p .queued = false →
      rows'.countP (fun row => p row.status) = rows.countP fun row => p row.status := by
    intro p idle
    have none : (missingRows ids rows).countP (fun row => p row.status) = 0 := by
      refine List.countP_eq_zero.mpr fun row missing => ?_
      simp [status_of_missing missing, idle]
    rw [same.countP_eq, List.countP_append, none, Nat.add_zero]
  have completed := uncounted (· = .succeeded) rfl
  have failed := uncounted (fun status => status = .failed || status = .cancelled || status = .timedOut) rfl
  have skipped := uncounted (· = .skipped) rfl
  simp only [aggregateProgressForTargets, aggregateProgress, completed, failed, skipped]

lemma aggregateOutcome_perm (same : rows'.Perm rows) : aggregateOutcome rows' = aggregateOutcome rows := by
  simp only [aggregateOutcome, same.countP_eq, same.all_eq]

lemma aggregateOutcome_eq_none : aggregateOutcome rows = .none ↔
    (∃ row ∈ rows, isTerminalTarget row.status = false) ∨ ∀ row ∈ rows, row.status ≠ .succeeded := by
  have succeeds : rows.countP (fun row => row.status = .succeeded) = 0 ↔ ∀ row ∈ rows, row.status ≠ .succeeded := by
    simp [List.countP_eq_zero]
  unfold aggregateOutcome
  split
  · rename_i ended
    have closed : ¬ ∃ row ∈ rows, isTerminalTarget row.status = false := by simpa using ended
    simp only [closed, false_or, ← succeeds]
    repeat' split
    all_goals simp only [reduceCtorEq, false_iff, true_iff]
    all_goals omega
  · rename_i open_
    simp only [true_iff]
    exact .inl (by simpa using open_)

lemma aggregateOutcome_complete (complete : aggregateOutcome rows = .complete) :
    ∀ row ∈ rows, row.status = .succeeded := by
  unfold aggregateOutcome at complete
  simp only at complete
  split_ifs at complete with _ _ all
  simpa [List.countP_eq_zero] using all.2

/-- A missing row leaves the outcome open. -/
lemma aggregateOutcome_padded : aggregateOutcome (rows ++ missingRows ids rows) =
    if missingRows ids rows = [] then aggregateOutcome rows else .none := by
  split
  · rename_i complete
    rw [complete, List.append_nil]
  · rename_i missing
    obtain ⟨row, listed⟩ := List.exists_mem_of_ne_nil _ missing
    exact aggregateOutcome_eq_none.mpr (.inl ⟨row, List.mem_append_right _ listed, by
      rw [status_of_missing listed]; rfl⟩)

/-- A job without rows has the outcome of its rows as well. -/
lemma transitioned_outcome (current : Job) (transition : Transition) :
    (transitioned current transition).outcome = if isTerminal transition.toStatus then
      aggregateOutcome (mergeTargetResults current.targetResults transition.targetResults) else .none := by
  simp only [transitioned]
  by_cases empty : mergeTargetResults current.targetResults transition.targetResults = []
  · simp [empty, outcomeFromProgress, aggregateOutcome, aggregateProgressForTargets, aggregateProgress]
    omega
  · simp [empty]

section

variable (accepts : Accepts current transition)
include accepts

/-- Rows added before the updates are the rows that are missing after them. -/
lemma Accepts.results_padded : (transitioned current.padded transition).targetResults.Perm
    ((transitioned current transition).targetResults ++
      missingRows (transitioned current transition).targetResourceIDs
        (transitioned current transition).targetResults) := by
  have once := (validTargetUpdates_iff.mp accepts.updates).2
  have valid := accepts.valid
  have after := accepts.valid_next
  have before := (padded_keys valid.distinct valid.once valid.known).1
  have nodup : ((transitioned current.padded transition).targetResults.map (·.targetID)).Nodup := nodup_merge before
  rw [List.perm_ext_iff_of_nodup nodup.of_map (padded_keys after.distinct after.once after.known).1.of_map]
  intro row
  have keys : ∀ id, id ∈ (transitioned current transition).targetResults.map (·.targetID) ↔ _ :=
    fun id => mem_map_merge once
  rw [show row ∈ (transitioned current.padded transition).targetResults ↔ _ from mem_merge once, List.mem_append,
    accepts.mem_results]
  simp only [Job.padded, List.mem_append, mem_missingRows, keys, not_or]
  constructor
  · rintro (listed | ⟨kept | ⟨id, resource, absent, rfl⟩, untouched⟩)
    · exact .inl (.inl listed)
    · exact .inl (.inr ⟨kept, untouched⟩)
    · exact .inr ⟨id, resource, ⟨untouched, absent⟩, rfl⟩
  · rintro ((listed | ⟨kept, untouched⟩) | ⟨id, resource, ⟨untouched, absent⟩, rfl⟩)
    · exact .inl listed
    · exact .inr ⟨.inl kept, untouched⟩
    · exact .inr ⟨.inr ⟨id, resource, absent, rfl⟩, untouched⟩

lemma Accepts.padded : Accepts current.padded transition := by
  have valid := accepts.valid
  have after := accepts.valid_next
  have progress : (transitioned current.padded transition).progress = (transitioned current transition).progress :=
    aggregateProgressForTargets_padded accepts.results_padded
  have state : ∀ id, targetState current.padded id = targetState current id := by
    intro id
    unfold targetState targetFor Job.padded
    rw [List.find?_append]
    cases found : current.targetResults.find? fun result => result.targetID = id with
    | some row => rfl
    | none =>
      cases missing : (missingRows current.targetResourceIDs current.targetResults).find?
          fun result => result.targetID = id with
      | none => rfl
      | some row => simp [status_of_missing (List.mem_of_find?_eq_some missing)]
  refine { accepts with valid := { valid with known := ?_, once := ?_, counted := ?_ }, updates := ?_, agreed := ?_,
                        progress := ?_, succeeded := ?_ }
  · intro row member
    rcases List.mem_append.mp member with listed | missing
    · exact valid.known row listed
    · obtain ⟨id, resource, -, rfl⟩ := mem_missingRows.mp missing
      exact resource
  · exact (padded_keys valid.distinct valid.once valid.known).1
  · exact valid.counted.trans (aggregateProgressForTargets_padded (.refl _)).symm
  · rw [← accepts.updates, validTargetUpdates, validTargetUpdates]
    simp only [state]
    rfl
  · rw [progress]
    exact accepts.agreed
  · rw [progress]
    exact accepts.progress
  · intro ends
    have succeeded := accepts.succeeded ends
    have length := (padded_keys after.distinct after.once after.known).2
    simp only [validSucceededJob, Bool.and_eq_true, decide_eq_true_eq] at succeeded ⊢
    obtain ⟨⟨⟨⟨some, rows⟩, ended⟩, counts⟩, outcome⟩ := succeeded
    have complete : missingRows (transitioned current transition).targetResourceIDs
        (transitioned current transition).targetResults = [] := by
      rw [List.length_append, rows] at length
      exact List.eq_nil_of_length_eq_zero (by omega)
    have same := accepts.results_padded
    rw [complete, List.append_nil] at same
    refine ⟨⟨⟨⟨some, same.length_eq.trans rows⟩, same.all_eq ▸ ended⟩, progress ▸ counts⟩, ?_⟩
    rw [transitioned_outcome] at outcome ⊢
    rwa [show aggregateOutcome (mergeTargetResults current.padded.targetResults transition.targetResults) = _ from
      aggregateOutcome_perm same]

end

/-- A target without a row counts as queued exactly where a terminal transition
leaves none, or a row open, or no row succeeded: the outcome looks only at the
rows that there are. -/
theorem missing_rows_queued_iff (current : Job) (transition : Transition) (next : Job)
    (applied : applyTransition current transition = .ok next) :
    (∃ padded, applyTransition current.padded transition = .ok padded ∧ padded.progress = next.progress ∧
      padded.outcome = next.outcome ∧ (next.outcome = .complete → ∀ id ∈ next.targetResourceIDs,
        ∃ row ∈ next.targetResults, row.targetID = id ∧ row.status = .succeeded)) ↔
      (isTerminal transition.toStatus = true → Conclusive current transition) := by
  obtain ⟨accepts, rfl⟩ := applyTransition_eq_ok.mp applied
  have progress := aggregateProgressForTargets_padded accepts.results_padded
  have outcome := transitioned_outcome current transition
  have padded := transitioned_outcome current.padded transition
  rw [show aggregateOutcome (mergeTargetResults current.padded.targetResults transition.targetResults) = _ from
    aggregateOutcome_perm accepts.results_padded, aggregateOutcome_padded] at padded
  constructor
  · rintro ⟨_, applied', -, agree, -⟩ ends
    obtain ⟨-, rfl⟩ := applyTransition_eq_ok.mp applied'
    rw [padded, outcome, if_pos ends, if_pos ends] at agree
    split at agree
    · rename_i complete
      exact .inl complete
    · exact .inr (aggregateOutcome_eq_none.mp agree.symm)
  · intro settles
    refine ⟨_, applyTransition_eq_ok.mpr ⟨accepts.padded, rfl⟩, progress, ?_, ?_⟩
    · rw [padded, outcome]
      split
      · rename_i ends
        split
        · rfl
        · rename_i missing
          exact (aggregateOutcome_eq_none.mpr ((settles ends).resolve_left missing)).symm
      · rfl
    · rw [outcome]
      intro complete id resource
      split at complete
      · rename_i ends
        rcases settles ends with none | idle
        · have listed : id ∈ (transitioned current transition).targetResults.map (·.targetID) := by
            by_contra absent
            exact List.eq_nil_iff_forall_not_mem.mp none _ (mem_missingRows.mpr ⟨id, resource, absent, rfl⟩)
          obtain ⟨row, member, same⟩ := List.mem_map.mp listed
          exact ⟨row, member, same, aggregateOutcome_complete complete row member⟩
        · rw [aggregateOutcome_eq_none.mpr idle] at complete
          cases complete
      · cases complete

/-- Both targets of the sample have rows when it succeeds. -/
theorem missing_rows_queued_sample : ∃ padded,
    applyTransition (afterTransitions (twoTargetRun.take 2)).padded (towards .succeeded [] 4000) = .ok padded ∧
    padded.progress = (afterTransitions twoTargetRun).progress ∧
    padded.outcome = (afterTransitions twoTargetRun).outcome := by
  obtain ⟨padded, applied, progress, outcome, -⟩ := (missing_rows_queued_iff
    (afterTransitions (twoTargetRun.take 2)) (towards .succeeded [] 4000) (afterTransitions twoTargetRun)
    (by decide +kernel)).mpr fun _ => .inl (by decide +kernel)
  exact ⟨padded, applied, progress, outcome⟩

/-- The second target is never heard of, and the job fails with the outcome complete. -/
theorem unreported_target_complete :
    let current := afterTransitions [towards .dispatched [] 2000,
      towards .running [⟨"first", .succeeded, "", "done", [], some 3000⟩] 3000]
    validateTargets current = .ok () ∧
    (applyTransition current (towards .failed [] 4000)).map (·.outcome) = .ok .complete ∧
    (applyTransition current.padded (towards .failed [] 4000)).map (·.outcome) = .ok .none := by
  decide +kernel

end missing

end DBPilot.Jobs
