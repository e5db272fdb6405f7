import DBPilot.Jobs.ApplyTarget
import DBPilot.Jobs.StartFence

/-!
# Results arriving in any order

With nobody else writing, one result for each target ends the job, and its end
depends on the statuses that arrived and not on their order. The exception is a
job that nobody cancels and whose targets all report cancelled.
-/

namespace DBPilot.Jobs

open Tables Transactions Upserts

/-- One call of `applyTarget`. -/
structure Observation where
  message : OutboxMessage
  target : TargetResult
  now : Instant

/-- An observation of a target of the job, and the result it amounts to. -/
structure Reports (recorder : Recorder) (value : Job) (o : Observation) (result : TargetResult) : Prop where
  scope : o.message.scope = value.scope
  job : o.message.jobID = value.id
  target : o.message.targetID = result.targetID
  known : result.targetID ∈ value.targetResourceIDs
  dated : o.now ≠ 0
  effective : finalizeDatabaseInstanceValidationTarget recorder o.message o.target o.now = .ok result

/-- The observations bring these terminal results, in this order, and report
progress in between. -/
inductive Arrival (recorder : Recorder) (value : Job) : List Observation → List TargetResult → Prop
  | nil : Arrival recorder value [] []
  | progress {o result observations results} (reports : Reports recorder value o result)
      (running : result.status = .running) (rest : Arrival recorder value observations results) :
      Arrival recorder value (o :: observations) results
  | result {o result observations results} (reports : Reports recorder value o result)
      (ended : isTerminalTarget result.status = true) (rest : Arrival recorder value observations results) :
      Arrival recorder value (o :: observations) (result :: results)

/-- The database after all observations, when none of them fails. -/
def applyAll (recorder : Recorder) : List Observation → Database → Option Database
  | [], db => some db
  | o :: rest, db =>
    let reply := applyTarget recorder o.message o.target o.now db
    match reply.result with
    | .ok _ => applyAll recorder rest reply.db
    | .error _ => none

/-- No observation fails, and they end the job with the verdict on these statuses. -/
def Settles (recorder : Recorder) (db : Database) (value : Job) (observations : List Observation)
    (statuses : Multiset TargetStatus) : Prop :=
  ∃ db' last, applyAll recorder observations db = some db' ∧
    db'.jobs.find? value.key = some last ∧ isTerminal last.status = true ∧
    (⟨last.status, last.outcome, last.progress⟩ : Verdict) = verdict statuses ∧
    last.status = terminalJobStatus last

/-! ## One observation after another -/

/-- The job `value` when the results `pending` of `order` have not arrived. -/
structure Underway (value : Job) (order pending : List TargetResult) (db : Database) (row : Job) : Prop where
  stored : Stored db row
  key : row.key = value.key
  open_ : isTerminal row.status = false
  requested : row.status = .cancelling → row.cancelRequestedBy ≠ ""
  cancelling : row.status = .cancelling ↔ value.status = .cancelling
  targets : row.targetResults.map (·.targetID) = value.targetResourceIDs
  waiting : ∀ r ∈ row.targetResults, r.targetID ∈ pending.map (·.targetID) → isTerminalTarget r.status = false
  settled : ∀ r ∈ row.targetResults, r.targetID ∉ pending.map (·.targetID) →
    ∃ result ∈ order, result.targetID = r.targetID ∧ result.status = r.status

/-- The row of a target when the results `pending` of `order` have not arrived. -/
structure Tallies (order pending : List TargetResult) (r : TargetResult) : Prop where
  waiting : r.targetID ∈ pending.map (·.targetID) → isTerminalTarget r.status = false
  settled : r.targetID ∉ pending.map (·.targetID) → ∃ result ∈ order, result.targetID = r.targetID ∧ result.status = r.status

/-- The job `value` after its end. -/
structure Ended (value : Job) (statuses : Multiset TargetStatus) (db : Database) (row : Job) : Prop where
  stored : Stored db row
  key : row.key = value.key
  targets : row.targetResults.map (·.targetID) = value.targetResourceIDs
  ended : isTerminal row.status = true
  verdict : (⟨row.status, row.outcome, row.progress⟩ : Verdict) = verdict statuses
  status : row.status = terminalJobStatus row

section steps

variable {value row : Job} {order pending pending' : List TargetResult} {db : Database} {now : Instant}
  {t : Transition} {result : TargetResult} {mutated : Bool} {recorder : Recorder} {o : Observation}

section

variable (underway : Underway value order pending db row)
include underway

lemma Underway.ready : Ready row.loaded :=
  ⟨underway.stored.valid, rfl, underway.open_, underway.requested⟩

lemma Underway.known {id : String} : id ∈ row.loaded.targetResourceIDs ↔ id ∈ value.targetResourceIDs := by
  rw [← underway.targets]
  rfl

lemma Underway.tallies : ∀ r ∈ row.targetResults, Tallies order pending r :=
  fun r member => ⟨underway.waiting r member, underway.settled r member⟩

/-- A transition that leaves the job open. -/
lemma Underway.step (accepts : Accepts row.loaded t) (scope : t.scope = row.scope) (id : t.jobID = row.id)
    (version : t.currentVersion = row.version) (open_ : isTerminal t.toStatus = false)
    (same : t.toStatus = .cancelling ↔ row.status = .cancelling)
    (targets : (transitioned row.loaded t).targetResults.map (·.targetID) = row.targetResults.map (·.targetID))
    (tallies : ∀ r ∈ (transitioned row.loaded t).targetResults, Tallies order pending' r) :
    ∃ db', perform (transition t) db = (.ok (transitioned row.loaded t), db') ∧
      Underway value order pending' db' (transitioned row.loaded t).stored := by
  obtain ⟨db', performed, stored, _⟩ := underway.stored.transition scope id version accepts targets
  refine ⟨db', performed, stored, underway.key, open_, ?_, same.trans underway.cancelling, ?_, ?_, ?_⟩
  · intro cancelling
    have before := same.mp cancelling
    have kept : (transitioned row.loaded t).cancelRequestedBy = row.cancelRequestedBy :=
      if_neg fun first => first.2 before
    show (transitioned row.loaded t).cancelRequestedBy ≠ ""
    rw [kept]
    exact underway.requested before
  · rw [← underway.targets, ← targets]
    simp [Job.stored, Function.comp_def]
  · intro r member listed
    obtain ⟨r₀, member₀, sameID, sameStatus⟩ := mem_stored member
    rw [sameStatus]
    exact (tallies r₀ member₀).waiting (sameID ▸ listed)
  · intro r member unlisted
    obtain ⟨r₀, member₀, sameID, sameStatus⟩ := mem_stored member
    rw [sameID, sameStatus]
    exact (tallies r₀ member₀).settled (sameID ▸ unlisted)

lemma Underway.dispatch (queued : row.status = .queued) (dated : now ≠ 0) :
    ∃ next db' row', perform (transition (dispatchStep row.loaded now)) db = (.ok next, db') ∧
      Underway value order pending db' row' ∧ row'.status ≠ .queued := by
  have accepts := underway.ready.accepts_dispatch queued dated
  have same : Status.dispatched = .cancelling ↔ row.status = .cancelling := by
    rw [queued]
    decide
  obtain ⟨db', performed, after⟩ := underway.step accepts rfl rfl rfl rfl same rfl underway.tallies
  have dispatched : Status.dispatched ≠ .queued := by decide
  exact ⟨_, db', _, performed, after, dispatched⟩

end

/-- An attempt on the job as it is stored. -/
lemma Reports.attempt (reports : Reports recorder value o result) (stored : Stored db row)
    (key : row.key = value.key) (targets : row.targetResults.map (·.targetID) = value.targetResourceIDs)
    (attempts : Nat) (mutated : Bool) :
    applyTargetLoop o.message result o.now (attempts + 1) mutated db =
      if isTerminal row.status then ⟨.ok row.loaded, mutated, db⟩
      else if row.status = .queued then
        match perform (transition (dispatchStep row.loaded o.now)) db with
        | (.ok _, dispatched) => applyTargetLoop o.message result o.now attempts true dispatched
        | (.error .conflict, same) => applyTargetLoop o.message result o.now attempts mutated same
        | (.error e, same) => ⟨.error e, mutated, same⟩
      else mergeTarget o.message result o.now row.loaded mutated db
        (applyTargetLoop o.message result o.now attempts mutated) := by
  have sameScope : row.scope = o.message.scope := (Prod.ext_iff.mp key).1.trans reports.scope.symm
  have sameID : row.id = o.message.jobID := (Prod.ext_iff.mp key).2.trans reports.job.symm
  have read : perform (get o.message.scope o.message.jobID) db = (.ok row.loaded, db) := by
    rw [← sameScope, ← sameID]
    exact stored.get
  have listed : containsTarget row.loaded.targetResourceIDs o.message.targetID = true := by
    apply List.contains_iff_mem.mpr
    show o.message.targetID ∈ row.targetResults.map (·.targetID)
    rw [targets, reports.target]
    exact reports.known
  rw [applyTargetLoop, read]
  have addressed : ¬ (row.loaded.id ≠ o.message.jobID ∨ row.loaded.scope ≠ o.message.scope ∨
      containsTarget row.loaded.targetResourceIDs o.message.targetID = false) := by
    rintro (other | other | absent)
    · exact other sameID
    · exact other sameScope
    · rw [listed] at absent
      cases absent
  exact if_neg addressed

/-- The loop merges the target, after a dispatch if the job was queued. -/
lemma Underway.loop (underway : Underway value order pending db row)
    (reports : Reports recorder value o result) (attempts : Nat) :
    ∃ db' row' mutated' again, applyTargetLoop o.message result o.now (attempts + 2) mutated db =
        mergeTarget o.message result o.now row'.loaded mutated' db' again ∧
      Underway value order pending db' row' ∧ row'.status ≠ .queued := by
  have past : ∀ {db row mutated n}, Underway value order pending db row → row.status ≠ .queued →
      applyTargetLoop o.message result o.now (n + 1) mutated db =
        mergeTarget o.message result o.now row.loaded mutated db
          (applyTargetLoop o.message result o.now n mutated) := by
    intro db row mutated n underway past
    rw [reports.attempt underway.stored underway.key underway.targets, underway.open_, if_neg past]
    rfl
  by_cases queued : row.status = .queued
  · obtain ⟨next, db', row', performed, after, dispatched⟩ := underway.dispatch queued reports.dated
    refine ⟨db', row', true, applyTargetLoop o.message result o.now attempts true, ?_, after, dispatched⟩
    rw [← past after dispatched, reports.attempt underway.stored underway.key underway.targets,
      underway.open_, if_pos queued, performed]
    rfl
  · exact ⟨db, row, mutated, _, past underway queued, underway, queued⟩

/-- Merging the result of a target that has not ended. -/
lemma Underway.merge (underway : Underway value order pending db row) (past : row.status ≠ .queued)
    (reports : Reports recorder value o result)
    (unfinished : ∀ r ∈ row.targetResults, r.targetID = result.targetID → isTerminalTarget r.status = false)
    (news : result.status = .running ∨ isTerminalTarget result.status = true)
    (new : Tallies order pending' result)
    (old : ∀ r ∈ row.targetResults, r.targetID ≠ result.targetID → Tallies order pending' r) :
    ∃ next db', perform (transition (targetStep row.loaded result o.now)) db = (.ok next, db') ∧
      Underway value order pending' db' next.stored ∧ next.stored.loaded = next.stored ∧
      (next.status = .running ∨ next.status = .cancelling) := by
  have known : result.targetID ∈ row.loaded.targetResourceIDs := underway.known.mpr reports.known
  have accepts := underway.ready.accepts_target past known unfinished news reports.dated
  have targets : (upsert TargetResult.targetID row.targetResults result).map (·.targetID) =
      row.targetResults.map (·.targetID) := underway.ready.length_upsert known
  have same : (targetStep row.loaded result o.now).toStatus = .cancelling ↔ row.status = .cancelling := by
    show (if row.status = .cancelling then Status.cancelling else .running) = .cancelling ↔ _
    by_cases cancelling : row.status = .cancelling <;> simp [cancelling]
  have open_ : (targetStep row.loaded result o.now).toStatus = .running ∨
      (targetStep row.loaded result o.now).toStatus = .cancelling := by
    show (if row.status = .cancelling then Status.cancelling else .running) = .running ∨
      (if row.status = .cancelling then Status.cancelling else .running) = .cancelling
    by_cases cancelling : row.status = .cancelling <;> simp [cancelling]
  have unended : isTerminal (targetStep row.loaded result o.now).toStatus = false := by
    rcases open_ with h | h <;> rw [h] <;> rfl
  have tallies : ∀ r ∈ upsert TargetResult.targetID row.targetResults result, Tallies order pending' r := by
    intro r member
    rcases mem_upsert.mp member with rfl | ⟨member, other⟩
    · exact new
    · exact old r member other
  obtain ⟨db', performed, after⟩ := underway.step accepts rfl rfl rfl unended same targets tallies
  exact ⟨_, db', performed, after, Job.loaded_stored targets, open_⟩

/-- A target that has not ended is merged. -/
lemma mergeTarget_of_open {message : OutboxMessage} {current next : Job} {target r : TargetResult}
    {db' : Database} {again : Database → Reply}
    (found : targetFor current.targetResults message.targetID = some r)
    (unfinished : isTerminalTarget r.status = false)
    (news : ¬ (r.status = .running ∧ target.status = .running))
    (open_ : isTerminal current.status = false) (past : current.status ≠ .queued)
    (performed : perform (transition (targetStep current target now)) db = (.ok next, db')) :
    mergeTarget message target now current mutated db again =
      if isTerminalTarget target.status then
        ⟨(finalize next now db').result, true, (finalize next now db').db⟩
      else ⟨.ok next, true, db'⟩ := by
  have active : ¬ (current.status ≠ .dispatched ∧ current.status ≠ .running ∧ current.status ≠ .cancelling) := by
    cases status : current.status <;> simp_all [isTerminal]
  simp only [mergeTarget, found, Option.map_some, Option.any_some, unfinished, Option.some.injEq, news,
    active, performed, if_false, Bool.false_eq_true]

lemma Underway.progress (underway : Underway value order pending db row)
    (final : ∀ result ∈ order, isTerminalTarget result.status = true) (past : row.status ≠ .queued)
    (reports : Reports recorder value o result) (running : result.status = .running)
    (again : Database → Reply) :
    ∃ job mutated' db' row', mergeTarget o.message result o.now row.loaded mutated db again =
      ⟨.ok job, mutated', db'⟩ ∧ Underway value order pending db' row' := by
  obtain ⟨r, member, same, found⟩ := underway.ready.row (underway.known.mpr reports.known)
  rw [← reports.target] at found
  have unended : isTerminalTarget result.status = false := by rw [running]; rfl
  by_cases ended : isTerminalTarget r.status = true
  · refine ⟨row.loaded, mutated, db, row, ?_, underway⟩
    simp [mergeTarget, found, ended, unended]
  by_cases already : r.status = .running
  · refine ⟨row.loaded, mutated, db, row, ?_, underway⟩
    simp [mergeTarget, found, already, running, isTerminalTarget]
  have unfinished : ∀ other ∈ row.targetResults, other.targetID = result.targetID →
      isTerminalTarget other.status = false := by
    intro other member' same'
    rw [List.inj_on_of_nodup_map underway.stored.valid.once member' member (same'.trans same.symm)]
    simpa using ended
  have awaited : result.targetID ∈ pending.map (·.targetID) := by
    by_contra arrived
    obtain ⟨d, listed, _, sameStatus⟩ := underway.settled r member (same ▸ arrived)
    exact ended (sameStatus ▸ final d listed)
  obtain ⟨next, db', performed, after, _, _⟩ := underway.merge past reports unfinished (.inl running)
    ⟨fun _ => unended, absurd awaited⟩ fun other member _ => underway.tallies other member
  refine ⟨next, true, db', next.stored, ?_, after⟩
  rw [mergeTarget_of_open found (by simpa using ended) (fun both => already both.1) underway.open_ past
    performed, unended]
  rfl

/-- A result that arrives is merged, and the job is finalised. -/
lemma Underway.arrive (underway : Underway value order (result :: pending) db row)
    (distinct : result.targetID ∉ pending.map (·.targetID)) (assigned : result ∈ order)
    (past : row.status ≠ .queued) (reports : Reports recorder value o result)
    (ended : isTerminalTarget result.status = true) (again : Database → Reply) :
    ∃ next db', mergeTarget o.message result o.now row.loaded mutated db again =
        ⟨(finalize next o.now db').result, true, (finalize next o.now db').db⟩ ∧
      Underway value order pending db' next.stored ∧ next.stored.loaded = next.stored ∧
      (next.status = .running ∨ next.status = .cancelling) := by
  obtain ⟨r, member, same, found⟩ := underway.ready.row (underway.known.mpr reports.known)
  rw [← reports.target] at found
  have unfinished : ∀ other ∈ row.targetResults, other.targetID = result.targetID →
      isTerminalTarget other.status = false := by
    intro other member' same'
    apply underway.waiting other member'
    rw [same', List.map_cons]
    exact List.mem_cons_self
  obtain ⟨next, db', performed, after, loaded, active⟩ := underway.merge past reports unfinished (.inr ended)
    ⟨fun listed => absurd listed distinct, fun _ => ⟨result, assigned, rfl, rfl⟩⟩
    (by
      intro other old apart
      refine ⟨fun listed => underway.waiting other old (List.mem_cons_of_mem _ listed), fun unlisted => ?_⟩
      apply underway.settled other old
      simpa [apart] using unlisted)
  have news : ¬ (r.status = .running ∧ result.status = .running) := by
    rintro ⟨_, running⟩
    rw [running] at ended
    cases ended
  refine ⟨next, db', ?_, after, loaded, active⟩
  rw [mergeTarget_of_open found (unfinished r member same) news underway.open_ past performed, if_pos ended]

/-- With a result outstanding, the job is not finalised. -/
lemma Underway.finalize_pending {next : Job} (underway : Underway value order pending db next.stored)
    (listed : result ∈ pending) (known : result.targetID ∈ value.targetResourceIDs) (now : Instant) :
    finalize next now db = ⟨.ok next, false, db⟩ := by
  have unfinished : allTargetsTerminal next = false := by
    rw [← underway.targets] at known
    obtain ⟨r, member, same⟩ := List.mem_map.mp known
    have open_ := underway.waiting r member (same ▸ List.mem_map_of_mem listed)
    rw [← allTargetsTerminal_stored, allTargetsTerminal, Bool.and_eq_false_iff]
    right
    apply List.all_eq_false.mpr
    exact ⟨r, member, by simp [open_]⟩
  have open_ : isTerminal next.status = false := underway.open_
  rw [finalize_of_open open_, if_pos unfinished]

/-- The rows of the targets carry the statuses that arrived. -/
lemma Underway.statuses (underway : Underway value order [] db row)
    (assigned : (order.map (·.targetID)).Perm value.targetResourceIDs) :
    statusesOf row.targetResults = statusesOf order := by
  let pair : TargetResult → String × TargetStatus := fun r => (r.targetID, r.status)
  have once : (row.targetResults.map pair).Nodup := by
    have distinct : (row.targetResults.map (·.targetID)).Nodup := underway.stored.valid.once
    apply List.Nodup.of_map Prod.fst
    simpa [pair, Function.comp_def] using distinct
  have sub : row.targetResults.map pair ⊆ order.map pair := by
    intro p listed
    obtain ⟨r, member, rfl⟩ := List.mem_map.mp listed
    obtain ⟨d, listed, sameID, sameStatus⟩ := underway.settled r member (by simp)
    exact List.mem_map.mpr ⟨d, listed, Prod.ext sameID sameStatus⟩
  have size : order.length = row.targetResults.length := by
    have lengths := assigned.length_eq
    rw [← underway.targets] at lengths
    simpa using lengths
  have same : (row.targetResults.map pair).Perm (order.map pair) :=
    (once.subperm sub).perm_of_length_le (by simp [size])
  have second := same.map Prod.snd
  simp only [List.map_map] at second
  exact Quot.sound second

lemma verdict_status_eq_cancelled :
    (verdict (statusesOf order)).status = .cancelled ↔ ∀ result ∈ order, result.status = .cancelled := by
  have all : (∀ status ∈ statusesOf order, status = .cancelled) ↔
      ∀ result ∈ order, result.status = .cancelled := by simp
  simp only [verdict, all]
  constructor
  · intro cancelled
    by_contra other
    simp only [other, if_false] at cancelled
    repeat' split at cancelled
    all_goals cases cancelled
  · intro cancelled
    have none : ¬ 0 < (statusesOf order).count .succeeded := by
      rw [Multiset.count_pos, mem_statusesOf]
      rintro ⟨result, listed, succeeded⟩
      rw [cancelled result listed] at succeeded
      cases succeeded
    rw [if_neg none, if_pos cancelled]

lemma allowed_verdict {status : Status} (active : status = .running ∨ status = .cancelling) :
    allowedTransition status (verdict (statusesOf order)).status = true ↔
      status = .cancelling ∨ ∃ result ∈ order, result.status ≠ .cancelled := by
  have ending : isTerminal (verdict (statusesOf order)).status = true := by
    simp only [verdict]
    repeat' split
    all_goals rfl
  rcases active with rfl | rfl
  · have other : (∃ result ∈ order, result.status ≠ .cancelled) ↔
        (verdict (statusesOf order)).status ≠ .cancelled := by
      rw [Ne, not_congr verdict_status_eq_cancelled]
      simp
    rw [other]
    cases status : (verdict (statusesOf order)).status <;> simp_all [allowedTransition, isTerminal]
  · cases status : (verdict (statusesOf order)).status <;> simp_all [allowedTransition, isTerminal]

/-- The final transition leaves the job with the verdict on its rows. -/
lemma Ready.verdict_final (ready : Ready row) (done : allTargetsTerminal row = true) (now : Instant) :
    (⟨(transitioned row (finalStep row now)).status, (transitioned row (finalStep row now)).outcome,
      (transitioned row (finalStep row now)).progress⟩ : Verdict) = verdict (statusesOf row.targetResults) ∧
    terminalJobStatus (transitioned row (finalStep row now)).stored = terminalJobStatus row := by
  obtain ⟨nonempty, ended⟩ := (allTargetsTerminal_iff ready).mp done
  have status := terminalJobStatus_eq ready.length ready.valid.counted nonempty
  have progress : (transitioned row (finalStep row now)).progress = row.progress := ready.valid.counted.symm
  constructor
  · rw [outcome_final nonempty, progress, aggregateOutcome_eq ended, ready.valid.counted,
      aggregateProgressForTargets_eq ready.length]
    show (⟨terminalJobStatus row, _, _⟩ : Verdict) = _
    rw [status]
  · have same : terminalJobStatus (transitioned row (finalStep row now)).stored =
        terminalJobStatus (transitioned row (finalStep row now)) :=
      terminalJobStatus_stored
    rw [same]
    unfold terminalJobStatus
    rw [progress]
    rfl

/-- The last result ends the job, or its end is refused. -/
lemma Underway.finalize_last {next : Job} (underway : Underway value order [] db next.stored)
    (loaded : next.stored.loaded = next.stored) (dated : now ≠ 0) (nonempty : order ≠ [])
    (active : next.status = .running ∨ next.status = .cancelling)
    (final : ∀ result ∈ order, isTerminalTarget result.status = true)
    (assigned : (order.map (·.targetID)).Perm value.targetResourceIDs) :
    ((value.status = .cancelling ∨ ∃ result ∈ order, result.status ≠ .cancelled) ∧
      ∃ job db' row', finalize next now db = ⟨.ok job, true, db'⟩ ∧ Ended value (statusesOf order) db' row') ∨
    (¬ (value.status = .cancelling ∨ ∃ result ∈ order, result.status ≠ .cancelled) ∧
      finalize next now db = ⟨.error .invalidTransition, false, db⟩) := by
  have statuses := underway.statuses assigned
  have ready : Ready next.stored := loaded ▸ underway.ready
  have done : allTargetsTerminal next.stored = true := by
    apply (allTargetsTerminal_iff ready).mpr
    constructor
    · intro empty
      rw [empty] at statuses
      have sizes := congrArg Multiset.card statuses
      rw [card_statusesOf, card_statusesOf] at sizes
      exact nonempty (List.length_eq_zero_iff.mp sizes.symm)
    · intro r member
      obtain ⟨d, listed, _, sameStatus⟩ := underway.settled r member (by simp)
      rw [← sameStatus]
      exact final d listed
  have rows : next.stored.targetResults ≠ [] := ((allTargetsTerminal_iff ready).mp done).1
  have target : terminalJobStatus next.stored = (verdict (statusesOf order)).status := by
    rw [terminalJobStatus_eq ready.length ready.valid.counted rows, statuses]
  have done' : allTargetsTerminal next ≠ false := by
    rw [← allTargetsTerminal_stored, done]
    decide
  have open_ : isTerminal next.status = false := underway.open_
  have allowed : allowedTransition next.stored.status (terminalJobStatus next.stored) = true ↔
      (value.status = .cancelling ∨ ∃ result ∈ order, result.status ≠ .cancelled) := by
    rw [target, ← underway.cancelling]
    exact allowed_verdict active
  rw [finalize_of_open open_, if_neg done', ← finalStep_stored]
  by_cases legal : allowedTransition next.stored.status (terminalJobStatus next.stored) = true
  · left
    refine ⟨allowed.mp legal, ?_⟩
    have accepts : Accepts next.stored.loaded (finalStep next.stored now) := by
      rw [loaded]
      exact ready.accepts_final done dated legal
    obtain ⟨db', performed, stored, _⟩ := underway.stored.transition rfl rfl rfl accepts rfl
    rw [performed, loaded]
    rw [loaded] at stored
    obtain ⟨verdicts, status⟩ := ready.verdict_final done now
    refine ⟨_, db', _, rfl, stored, underway.key, ?_, isTerminal_terminalJobStatus, statuses ▸ verdicts, status.symm⟩
    rw [← underway.targets]
    simp [Job.stored, transitioned, finalStep, mergeTargetResults, Function.comp_def]
  · right
    refine ⟨fun cond => legal (allowed.mpr cond), ?_⟩
    have refused : applyTransition next.stored.loaded (finalStep next.stored now) =
        .error .invalidTransition := by
      rw [loaded]
      have barred := Bool.eq_false_iff.mpr legal
      simp [applyTransition, finalStep, validateTargets_ok.mpr ready.valid, barred, bind, Except.bind, throw,
        throwThe, MonadExceptOf.throw]
    rw [underway.stored.perform_transition rfl rfl rfl, refused]

lemma Reports.applyTarget_eq (reports : Reports recorder value o result) :
    applyTarget recorder o.message o.target o.now db =
      applyTargetLoop o.message result o.now commandTransitionAttempts false db := by
  unfold applyTarget
  rw [reports.effective]

variable {observations : List Observation}

lemma settles_cons {job : Job} {db' : Database} {statuses : Multiset TargetStatus}
    (applied : applyTarget recorder o.message o.target o.now db = ⟨.ok job, mutated, db'⟩) :
    Settles recorder db value (o :: observations) statuses ↔ Settles recorder db' value observations statuses := by
  simp only [Settles, applyAll, applied]

/-- What comes after the end of the job changes nothing. -/
lemma Ended.settles {statuses : Multiset TargetStatus} (ended : Ended value statuses db row)
    (arrival : Arrival recorder value observations []) :
    Settles recorder db value observations statuses := by
  generalize none : ([] : List TargetResult) = results at arrival
  induction arrival with
  | nil =>
    exact ⟨db, row, rfl, ended.key ▸ ended.stored.find, ended.ended, ended.verdict, ended.status⟩
  | progress reports _ _ ih =>
    have idle := reports.attempt ended.stored ended.key ended.targets 7 false
    rw [if_pos ended.ended] at idle
    exact (settles_cons (reports.applyTarget_eq.trans idle)).mpr (ih none)
  | result => cases none

lemma Arrival.results (arrival : Arrival recorder value observations pending) : ∀ result ∈ pending,
    result.targetID ∈ value.targetResourceIDs ∧ isTerminalTarget result.status = true := by
  induction arrival with
  | nil => simp
  | progress _ _ _ ih => exact ih
  | result reports ended _ ih =>
    rintro other (_ | ⟨_, later⟩)
    · exact ⟨reports.known, ended⟩
    · exact ih other later

/-- With results outstanding, the job ends with the verdict on all of them unless
the last transition is refused. -/
lemma Underway.settles_iff (underway : Underway value order pending db row)
    (arrival : Arrival recorder value observations pending) (outstanding : pending ≠ [])
    (distinct : (pending.map (·.targetID)).Nodup) (sub : ∀ result ∈ pending, result ∈ order)
    (final : ∀ result ∈ order, isTerminalTarget result.status = true)
    (assigned : (order.map (·.targetID)).Perm value.targetResourceIDs) :
    Settles recorder db value observations (statusesOf order) ↔
      (value.status = .cancelling ∨ ∃ result ∈ order, result.status ≠ .cancelled) := by
  induction arrival generalizing db row with
  | nil => exact absurd rfl outstanding
  | progress reports running _ ih =>
    obtain ⟨db₁, row₁, mutated₁, again, looped, underway₁, past⟩ := underway.loop reports 6
    obtain ⟨job, mutated', db', row', merged, underway'⟩ :=
      underway₁.progress final past reports running again
    rw [settles_cons (reports.applyTarget_eq.trans (looped.trans merged))]
    exact ih underway' outstanding distinct sub
  | @result o result observations pending reports ended rest ih =>
    obtain ⟨first, later⟩ := List.nodup_cons.mp distinct
    have member := sub result List.mem_cons_self
    obtain ⟨db₁, row₁, mutated₁, again, looped, underway₁, past⟩ := underway.loop reports 6
    obtain ⟨next, db', merged, underway', loaded, active⟩ :=
      underway₁.arrive first member past reports ended again
    have applied := reports.applyTarget_eq.trans (looped.trans merged)
    cases pending with
    | cons following others =>
      have unfinished := underway'.finalize_pending List.mem_cons_self
        (rest.results following List.mem_cons_self).1 o.now
      rw [unfinished] at applied
      rw [settles_cons applied]
      exact ih underway' (List.cons_ne_nil following others) later
        fun other listed => sub other (List.mem_cons_of_mem result listed)
    | nil =>
      rcases underway'.finalize_last loaded reports.dated (List.ne_nil_of_mem member) active final assigned
        with ⟨cond, job, db'', row'', finalized, ends⟩ | ⟨refused, finalized⟩
      · rw [finalized] at applied
        rw [settles_cons applied]
        exact iff_of_true (ends.settles rest) cond
      · rw [finalized] at applied
        refine iff_of_false ?_ refused
        rintro ⟨_, _, completed, _⟩
        simp [applyAll, applied] at completed

end steps

/-! ## Any order -/

/-- Who cancels a job is recorded. -/
def Requested (row : Job) : Prop := row.status = .cancelling → row.cancelRequestedBy ≠ ""

lemma Requested.steps {row row' : Job} (requested : Requested row) (steps : JobSteps row row') :
    Requested row' := by
  induction steps with
  | refl => exact requested
  | @tail row _ _ step ih =>
    cases step with
    | retire =>
      intro impossible
      cases impossible
    | @transition next t applied =>
      obtain ⟨accepts, rfl⟩ := applyTransition_eq_ok.mp applied
      intro cancelling
      show (if t.toStatus = .cancelling ∧ row.status ≠ .cancelling then t.actor
        else row.cancelRequestedBy) ≠ ""
      split
      · exact accepts.signed cancelling
      · rename_i already
        exact ih (by_contra fun other => already ⟨cancelling, other⟩)

theorem Reachable.requested {db : Database} (reach : Reachable db) : ∀ row ∈ db.jobs, Requested row := by
  obtain ⟨calls, run⟩ := reach
  refine rows_invariant Database.jobs Requested run (fun step => (evolves step).rows) ?_
    (fun steps requested => requested.steps steps) (fun _ member => absurd member Table.not_mem_empty)
  rintro row ⟨value, valid, rfl⟩ cancelling
  simp only [validateNewJob, Bool.and_eq_true, decide_eq_true_eq] at valid
  rw [show value.status = .cancelling from cancelling] at valid
  simp at valid

lemma stored_of_get {scope : Scope} {id : String} {db db' : Database} {value : Job}
    (read : Commits (get scope id) db value db') : ∃ row, Stored db row ∧ value = row.loaded := by
  simp only [get, commits_steps] at read
  obtain ⟨legal, named, _, _, loaded, _, valid, rfl, rfl⟩ := read
  obtain ⟨rfl, row, member, key, rfl⟩ := loadJob_row loaded
  obtain ⟨sameScope, sameID⟩ : row.scope = scope ∧ row.id = id := Prod.ext_iff.mp key
  subst sameScope sameID
  exact ⟨row, ⟨member, legal, by simpa using named, validateTargets_ok.mp valid⟩, rfl⟩

/-- One result for each target of an open job, in any order and mixed with
progress reports, ends the job with the verdict on their statuses and without a
failed step, exactly when the job has a target and is being cancelled or has a
result other than cancelled: no other job may go to cancelled. -/
theorem arrival_settles_iff {recorder : Recorder} {scope : Scope} {id : String} {db db' : Database}
    {value : Job} {observations : List Observation} {order : List TargetResult} (reach : Reachable db)
    (read : Commits (get scope id) db value db') (open_ : isTerminal value.status = false)
    (fresh : ∀ result ∈ value.targetResults, isTerminalTarget result.status = false)
    (arrival : Arrival recorder value observations order)
    (assigned : (order.map (·.targetID)).Perm value.targetResourceIDs) :
    Settles recorder db value observations (statusesOf order) ↔ value.targetResourceIDs ≠ [] ∧
      (value.status = .cancelling ∨ ∃ result ∈ order, result.status ≠ .cancelled) := by
  obtain ⟨row, stored, rfl⟩ := stored_of_get read
  have requested := reach.requested row stored.member
  by_cases outstanding : order = []
  · -- Nothing can be reported of a job without targets.
    subst outstanding
    have none : row.loaded.targetResourceIDs = [] := List.nil_perm.mp assigned
    refine iff_of_false ?_ fun both => both.1 none
    rintro ⟨db', last, applied, found, ended, _⟩
    cases arrival with
    | nil =>
      obtain rfl := Option.some.inj applied
      obtain rfl := Option.some.inj (found.symm.trans stored.find)
      rw [show isTerminal last.status = false from open_] at ended
      cases ended
    | progress reports =>
      have known := reports.known
      rw [none] at known
      cases known
  · have nonempty : row.loaded.targetResourceIDs ≠ [] := by
      intro none
      rw [none] at assigned
      exact outstanding (List.map_eq_nil_iff.mp (List.perm_nil.mp assigned))
    have distinct : (order.map (·.targetID)).Nodup := assigned.nodup_iff.mpr stored.valid.distinct
    have underway : Underway row.loaded order order db row := by
      refine ⟨stored, rfl, open_, requested, Iff.rfl, rfl, fun r member _ => fresh r member, ?_⟩
      intro r member unlisted
      exact absurd (assigned.mem_iff.mpr (List.mem_map_of_mem member)) unlisted
    rw [underway.settles_iff arrival outstanding distinct (fun _ listed => listed)
      (fun result listed => (arrival.results result listed).2) assigned]
    exact ⟨fun cond => ⟨nonempty, cond⟩, fun both => both.2⟩

/-! A command of one target that reports cancelled without a cancellation, and two
targets of which one fails. -/

/-- Of a command that is no instance validation nothing is recorded. -/
def plainRecorder : Recorder := ⟨fun _ => true, fun _ _ _ => .error .invalidCommandPayload⟩

def agentReport (status : TargetStatus) (now : Instant) : Observation where
  message := insertedMessage sampleJob sampleMessage
  target := { targetID := "agent", status := status, finishedAt := some now }
  now := now

def startedCalls : List Call := preparedCalls ++ [sampleStart]

lemma startedCalls_stored : Stored (reached startedCalls) (insertedJob sampleJob) :=
  ⟨(Table.find?_eq_some.mp (by decide +kernel : (reached startedCalls).jobs.find? (sampleScope, "job") =
      some (insertedJob sampleJob))).1,
    by decide +kernel, by decide +kernel, validateTargets_ok.mp (by decide +kernel)⟩

set_option maxRecDepth 10000 in
/-- The step fails and the job stays running with all its targets ended. -/
theorem all_cancelled_unsettled :
    ∃ db value db', Reachable db ∧ Commits (get sampleScope "job") db value db' ∧
      value.status = .queued ∧ (∀ result ∈ value.targetResults, isTerminalTarget result.status = false) ∧
      Arrival plainRecorder value [agentReport .cancelled 5000] [(agentReport .cancelled 5000).target] ∧
      ([(agentReport .cancelled 5000).target].map (·.targetID)).Perm value.targetResourceIDs ∧
      ¬ Settles plainRecorder db value [agentReport .cancelled 5000]
        (statusesOf [(agentReport .cancelled 5000).target]) ∧
      ∃ reply, reply = applyTarget plainRecorder (agentReport .cancelled 5000).message
          (agentReport .cancelled 5000).target 5000 db ∧ reply.result = .error .invalidTransition ∧
        (reply.db.jobs.find? value.key).map (fun row => (row.status, allTargetsTerminal row)) =
          some (.running, true) := by
  refine ⟨reached startedCalls, (insertedJob sampleJob).loaded, _, ⟨_, run_reached (by decide +kernel)⟩,
    startedCalls_stored.commits_get, rfl, by decide +kernel, ?_, .refl _, ?_, _, rfl, by decide +kernel,
    by decide +kernel⟩
  · exact .result ⟨rfl, rfl, rfl, by decide, by decide, rfl⟩ rfl .nil
  · rintro ⟨db', _, applied, _⟩
    cases applied

def targetMessage (target : String) : NewMessage :=
  ⟨target, target, ⟨target, 60, false⟩, 1000, 1000⟩

def targetReport (target : String) (status : TargetStatus) (now : Instant) : Observation where
  message := insertedMessage twoTargetJob (targetMessage target)
  target := { targetID := target, status := status, finishedAt := some now }
  now := now

def twoTargetCalls : List Call :=
  [.create twoTargetJob [targetMessage "first", targetMessage "second"]]

lemma twoTargetCalls_stored : Stored (reached twoTargetCalls) (insertedJob twoTargetJob) :=
  ⟨(Table.find?_eq_some.mp (by decide +kernel : (reached twoTargetCalls).jobs.find? twoTargetJob.key =
      some (insertedJob twoTargetJob))).1,
    by decide +kernel, by decide +kernel, validateTargets_ok.mp (by decide +kernel)⟩

theorem arrival_settles_iff_sample :
    Settles plainRecorder (reached twoTargetCalls) (insertedJob twoTargetJob).loaded
      [targetReport "first" .running 2000, targetReport "second" .failed 3000, targetReport "first" .succeeded 4000]
      (statusesOf [(targetReport "second" .failed 3000).target, (targetReport "first" .succeeded 4000).target]) := by
  have arrival : Arrival plainRecorder (insertedJob twoTargetJob).loaded
      [targetReport "first" .running 2000, targetReport "second" .failed 3000, targetReport "first" .succeeded 4000]
      [(targetReport "second" .failed 3000).target, (targetReport "first" .succeeded 4000).target] :=
    .progress ⟨rfl, rfl, rfl, by decide +kernel, by decide, rfl⟩ rfl
      (.result ⟨rfl, rfl, rfl, by decide +kernel, by decide, rfl⟩ rfl
        (.result ⟨rfl, rfl, rfl, by decide +kernel, by decide, rfl⟩ rfl .nil))
  exact (arrival_settles_iff ⟨_, run_reached (by decide +kernel)⟩ twoTargetCalls_stored.commits_get rfl
    (by decide +kernel) arrival (by decide +kernel)).mpr
    ⟨by decide +kernel, .inr ⟨_, List.mem_cons_self, by decide⟩⟩

end DBPilot.Jobs
