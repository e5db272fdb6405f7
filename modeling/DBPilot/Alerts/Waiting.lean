import DBPilot.Alerts.Evaluator
import DBPilot.Alerts.Versions
import DBPilot.Lib.Hysteresis

/-!
# The wait before an event fires

The evaluator keeps the time since when a condition holds in the evidence of the
pending event, as text, and carries it from one stored version to the next. Seen
from one fingerprint, the stored event follows the hysteresis automaton on the
results that evaluations apply to it.
-/

namespace DBPilot.Alerts

open Tables Transactions Runs Text Hysteresis
open Jobs (Instant)

section hysteresis

variable {F : Type} [TimeText]

/-- The stored event of a fingerprint is in a phase of the automaton; operators, who
alone acknowledge events, have not written it. -/
def Tracks (found : Option AlertEvent) (phase : Phase) : Prop :=
  match found with
  | none => phase = .idle
  | some event => match event.state with
    | .resolved => phase = .idle
    | .pending => ∃ since, phase = .waiting since ∧
        StringMap.getD event.evidence conditionSinceEvidenceKey = TimeText.format since ∧
        TimeText.parse (TimeText.format since) = some since
    | .firing => phase = .active
    | .acknowledged => False

/-! What a write leaves under its fingerprint. -/

variable {stored : AlertEvent}

omit [TimeText] in
lemma Puts.state {event : AlertEvent} {events events' : Table AlertEvent AlertEvent.key}
    (puts : Puts event stored events events') :
    stored.state = event.state ∧ stored.evidence = sanitizeDetails event.evidence := by
  cases puts with
  | update _ _ row _ | insert _ row _ => rw [row]; exact ⟨rfl, rfl⟩

variable [Float64 F] {s s' : Session F} {event row : AlertEvent} {action : EventState} {now : Instant}
  {changed : Bool}

/-- A transition that records since when the condition holds is refused unless the
time reads back. -/
lemma writeTransition_wrote (commits : Commits (writeTransition event action now) s changed s') :
    (∃ stored, Wrote event stored s.db s'.db) ∧
      ∀ evidence since, event.evidence = withSince evidence since →
        TimeText.parse (TimeText.format (since.getD 0)) = some (since.getD 0) := by
  simp only [writeTransition, commits_steps] at commits
  obtain ⟨auditID, s₁, drawn, stored, _, written, _, rfl⟩ := commits
  have wrote := EventWrite.wrote written
  rw [newControlPlaneID_db drawn] at wrote
  refine ⟨⟨stored, wrote⟩, ?_⟩
  intro evidence since kept
  simp only [EventWrite.tx, suppliedRecord, commits_steps] at written
  obtain ⟨_, _, ⟨_, checked, _⟩, _⟩ := written
  have listed : (conditionSinceEvidenceKey, TimeText.format (since.getD 0)) ∈
      StringMap.set event.evidence "state" event.state.text := by
    rw [kept]
    simp [StringMap.set, withSince, conditionSinceEvidenceKey]
  have allowed := List.all_eq_true.mp checked _ listed
  simp [allowedAuditDetail, knownAuditDetailKey] at allowed
  have reads : (TimeText.parse (TimeText.format (since.getD 0))).isSome = true := allowed.2
  obtain ⟨t, read⟩ := Option.isSome_iff_exists.mp reads
  rw [read, TimeText.parse_format read]

omit [TimeText] [Float64 F] in
/-- The event that is written, as the table returns it. -/
lemma Wrote.found {db db' : Database F} (wrote : Wrote event stored db db') :
    db'.events.find? event.key = some stored ∧ stored.state = event.state ∧
      stored.evidence = sanitizeDetails event.evidence :=
  ⟨wrote.version_self, wrote.puts.state⟩

omit [Float64 F] in
/-- A pending event is written with a time that reads back. -/
lemma tracks_pending {db db' : Database F} {evidence : StringMap} {since : Time}
    (wrote : Wrote event stored db db') (pending : event.state = .pending)
    (kept : event.evidence = withSince evidence since)
    (reads : TimeText.parse (TimeText.format (since.getD 0)) = some (since.getD 0)) :
    Tracks (db'.events.find? event.key) (.waiting (since.getD 0)) := by
  obtain ⟨found, state, stays⟩ := wrote.found
  rw [found]
  unfold Tracks
  simp only [state, pending, stays, kept]
  refine ⟨_, rfl, ?_, reads⟩
  have plain : sensitiveField conditionSinceEvidenceKey = false := by decide +kernel
  unfold StringMap.getD
  rw [get_sanitizeDetails plain, withSince, StringMap.get_set_self]
  rfl

omit [Float64 F] in
lemma tracks_of_state {db db' : Database F} {phase : Phase}
    (wrote : Wrote event stored db db')
    (named : event.state = .resolved ∧ phase = .idle ∨ event.state = .firing ∧ phase = .active) :
    Tracks (db'.events.find? event.key) phase := by
  obtain ⟨found, state, _⟩ := wrote.found
  rw [found]
  unfold Tracks
  rcases named with ⟨resolved, idle⟩ | ⟨firing, active⟩
  · simpa only [state, resolved] using idle
  · simpa only [state, firing] using active

section apply

variable {rule : AlertRule F} {fingerprint : String} {labels evidence : StringMap} {stored : AlertEvent}
  {o : Observation} {condition createResolved : Bool}

/-- What a result does to the stored events: the one of its fingerprint follows the
automaton, the others stay. -/
structure Moves (rule : AlertRule F) (fingerprint : String) (o : Observation) (db db' : Database F) : Prop where
  tracks : ∀ phase, Tracks (db.events.find? (rule.scope, fingerprint)) phase →
    (∀ since, phase = .waiting since → since ≤ o.now) →
    Tracks (db'.events.find? (rule.scope, fingerprint)) (observe rule.forDuration phase o)
  others : ∀ k, k ≠ (rule.scope, fingerprint) → db'.events.find? k = db.events.find? k

omit [TimeText] [Float64 F] in
lemma Wrote.deliveries {db db' : Database F} (wrote : Wrote event stored db db') : db'.deliveries = db.deliveries := by
  rw [wrote.rest]

omit [Float64 F] in
lemma wrote_moves (found : s.db.events.find? (rule.scope, fingerprint) = some stored)
    (wrote : Wrote event row s.db s'.db) (named : event.key = (rule.scope, fingerprint))
    (tracks : ∀ phase, Tracks (some stored) phase → (∀ since, phase = .waiting since → since ≤ o.now) →
      Tracks (s'.db.events.find? event.key) (observe rule.forDuration phase o)) :
    Moves rule fingerprint o s.db s'.db ∧ s'.db.deliveries = s.db.deliveries := by
  refine ⟨⟨?_, ?_⟩, wrote.deliveries⟩
  · rw [found, ← named]
    exact tracks
  · intro k other
    exact wrote.version_other (named ▸ other)

lemma createEvent_moves (absent : s.db.events.find? (rule.scope, fingerprint) = none)
    (exclusive : createResolved = !condition)
    (commits : Commits (createEvent rule fingerprint labels evidence createResolved now) s changed s') :
    Moves rule fingerprint ⟨now, condition⟩ s.db s'.db ∧ s'.db.deliveries = s.db.deliveries := by
  simp only [createEvent, commits_bind] at commits
  obtain ⟨id, s₁, drawn, rest⟩ := commits
  rw [← newControlPlaneID_db drawn] at absent ⊢
  cases condition with
  | true =>
    subst exclusive
    simp only [Bool.not_true, Bool.false_eq_true, if_false] at rest
    obtain ⟨⟨row, wrote⟩, reads⟩ := writeTransition_wrote rest
    refine ⟨⟨?_, fun k other => wrote.version_other other⟩, wrote.deliveries⟩
    rw [absent]
    rintro phase rfl _
    exact tracks_pending wrote rfl rfl (reads _ _ rfl)
  | false =>
    subst exclusive
    simp only [Bool.not_false, if_true] at rest
    obtain ⟨⟨row, wrote⟩, _⟩ := writeTransition_wrote rest
    refine ⟨⟨?_, fun k other => wrote.version_other other⟩, wrote.deliveries⟩
    intro phase _ _
    rw [observe_false rfl]
    exact tracks_of_state wrote (.inl ⟨rfl, rfl⟩)

lemma refreshEvent_wrote (commits : Commits (refreshEvent event) s changed s') :
    ∃ stored, Wrote event stored s.db s'.db := by
  simp only [refreshEvent, commits_steps] at commits
  obtain ⟨stored, _, written, _, rfl⟩ := commits
  exact ⟨stored, EventWrite.wrote written⟩

/-- A pending event tells since when its condition holds. -/
lemma Tracks.since {phase : Phase} (tracks : Tracks (some stored) phase) (pending : stored.state = .pending)
    (past : ∀ since, phase = .waiting since → since ≤ now) :
    ∃ since, phase = .waiting since ∧ conditionSince stored now = some since ∧
      TimeText.parse (TimeText.format since) = some since := by
  simp only [Tracks, pending] at tracks
  obtain ⟨since, waiting, text, reads⟩ := tracks
  refine ⟨since, waiting, ?_, reads⟩
  unfold conditionSince
  rw [text, reads]
  exact if_neg (by simpa using past since waiting)

lemma holdEvent_moves (found : s.db.events.find? (rule.scope, fingerprint) = some stored)
    (commits : Commits (holdEvent rule stored labels evidence now) s changed s') :
    Moves rule fingerprint ⟨now, true⟩ s.db s'.db ∧ s'.db.deliveries = s.db.deliveries := by
  have named := (Table.find?_eq_some.mp found).2
  unfold holdEvent at commits
  cases state : stored.state with
  | resolved =>
    simp only [state] at commits
    obtain ⟨⟨row, wrote⟩, reads⟩ := writeTransition_wrote commits
    refine wrote_moves found wrote named ?_
    intro phase tracks _
    simp only [Tracks, state] at tracks
    subst tracks
    exact tracks_pending wrote rfl rfl (reads _ _ rfl)
  | pending =>
    simp only [state] at commits
    split at commits
    · rename_i long
      simp only [commits_steps] at commits
      obtain ⟨fired, moved, written⟩ := commits
      obtain ⟨_, _, _, rfl⟩ := AlertEvent.transition_eq_ok moved
      obtain ⟨⟨row, wrote⟩, _⟩ := writeTransition_wrote written
      refine wrote_moves found wrote named ?_
      intro phase tracks past
      obtain ⟨since, rfl, kept, _⟩ := tracks.since state past
      rw [kept] at long
      have active : observe rule.forDuration (.waiting since) ⟨now, true⟩ = .active := if_pos long
      rw [active]
      exact tracks_of_state wrote (.inr ⟨rfl, rfl⟩)
    · rename_i short
      obtain ⟨row, wrote⟩ := refreshEvent_wrote commits
      refine wrote_moves found wrote named ?_
      intro phase tracks past
      obtain ⟨since, rfl, kept, reads⟩ := tracks.since state past
      rw [kept] at short
      have waiting : observe rule.forDuration (.waiting since) ⟨now, true⟩ = .waiting since := if_neg short
      rw [waiting]
      have tracked := tracks_pending wrote rfl (congrArg (withSince evidence) kept) reads
      exact tracked
  | firing =>
    simp only [state] at commits
    obtain ⟨row, wrote⟩ := refreshEvent_wrote commits
    refine wrote_moves found wrote named ?_
    intro phase tracks _
    simp only [Tracks, state] at tracks
    subst tracks
    exact tracks_of_state wrote (.inr ⟨rfl, rfl⟩)
  | acknowledged =>
    simp only [state] at commits
    obtain ⟨row, wrote⟩ := refreshEvent_wrote commits
    refine wrote_moves found wrote named ?_
    intro phase tracks _
    simp only [Tracks, state] at tracks

lemma endEvent_moves (found : s.db.events.find? (rule.scope, fingerprint) = some stored)
    (commits : Commits (endEvent stored labels evidence now) s changed s') :
    Moves rule fingerprint ⟨now, false⟩ s.db s'.db ∧ s'.db.deliveries = s.db.deliveries := by
  unfold endEvent at commits
  split at commits
  · rename_i resolved
    obtain ⟨_, rfl⟩ := commits_pure.mp commits
    refine ⟨⟨?_, fun _ _ => rfl⟩, rfl⟩
    intro phase _ _
    rw [observe_false rfl, found]
    simp only [Tracks, resolved]
  · simp only [commits_steps] at commits
    obtain ⟨resolved, moved, written⟩ := commits
    obtain ⟨_, _, _, rfl⟩ := AlertEvent.transition_eq_ok moved
    obtain ⟨⟨row, wrote⟩, _⟩ := writeTransition_wrote written
    refine wrote_moves found wrote (Table.find?_eq_some.mp found).2 ?_
    intro phase _ _
    rw [observe_false rfl]
    exact tracks_of_state wrote (.inl ⟨rfl, rfl⟩)

/-- A result with its condition moves the automaton of its fingerprint, and writes no deliveries. -/
lemma applyResult_moves {given : EvaluationEvidence F} (exclusive : createResolved = true → condition = false)
    (commits : Commits (applyResult rule fingerprint labels given condition createResolved now) s changed s') :
    Moves rule fingerprint ⟨now, condition⟩ s.db s'.db ∧ s'.db.deliveries = s.db.deliveries := by
  simp only [applyResult, findEventByFingerprint, commits_bind, commits_require, commits_inspect] at commits
  obtain ⟨found, _, ⟨_, _, ⟨_, rfl⟩, lookup, rfl⟩, rest⟩ := commits
  cases found with
  | none =>
    dsimp only at rest
    split at rest
    · rename_i nothing
      simp only [Bool.and_eq_true, Bool.not_eq_true'] at nothing
      obtain ⟨_, rfl⟩ := commits_pure.mp rest
      refine ⟨⟨?_, fun _ _ => rfl⟩, rfl⟩
      intro phase _ _
      rw [observe_false nothing.1, lookup]
      rfl
    · rename_i something
      refine createEvent_moves lookup ?_ rest
      cases condition <;> cases createResolved <;> simp_all
  | some =>
    dsimp only at rest
    split at rest
    · rename_i holds
      subst holds
      exact holdEvent_moves lookup rest
    · rename_i fails
      rw [Bool.not_eq_true] at fails
      subst fails
      exact endEvent_moves lookup rest

end apply

/-! An evaluation is a run of the results that it applies. -/

section passes

variable {rule : AlertRule F} {a : Application} {db db' : Database F} {fingerprint : String}

/-- A result is applied: from samples, or in their place as the rule wants it. -/
inductive Applies (rule : AlertRule F) : Database F → Application → Database F → Prop
  | measured {fingerprint : String} {labels : StringMap} {evidence : EvaluationEvidence F} {condition : Bool}
      {now : Instant} {s s' : Session F} {changed : Bool} :
      Commits (applyResult rule fingerprint labels evidence condition false now) s changed s' →
      Applies rule s.db ⟨fingerprint, now, false, condition⟩ s'.db
  | missing {fingerprint : String} {labels : StringMap} {evidence : EvaluationEvidence F} {now : Instant}
      {a : Application} {s s' : Session F} {changed : Bool} :
      missingApplication rule fingerprint now = some a →
      Commits (applyMissing rule fingerprint labels evidence now) s changed s' →
      Applies rule s.db a s'.db

omit [TimeText] [Float64 F] in
lemma missingApplication_eq_some (chosen : missingApplication rule fingerprint now = some a) :
    a.fingerprint = fingerprint ∧ a.now = now ∧
      (rule.missingData = .alert ∧ a.condition = true ∨ rule.missingData = .resolve ∧ a.condition = false) := by
  unfold missingApplication at chosen
  split at chosen
  · cases chosen
  · rename_i alert
    cases chosen
    exact ⟨rfl, rfl, .inl ⟨alert, rfl⟩⟩
  · rename_i resolve
    cases chosen
    exact ⟨rfl, rfl, .inr ⟨resolve, rfl⟩⟩

lemma Applies.effect (applies : Applies rule db a db') :
    Moves rule a.fingerprint ⟨a.now, a.condition⟩ db db' ∧ db'.deliveries = db.deliveries := by
  cases applies with
  | measured commits => exact applyResult_moves (by simp) commits
  | missing chosen commits =>
    unfold applyMissing at commits
    obtain ⟨rfl, rfl, ⟨alert, holds⟩ | ⟨resolve, fails⟩⟩ := missingApplication_eq_some chosen
    · rw [alert] at commits
      rw [holds]
      exact applyResult_moves (by simp) commits
    · rw [resolve] at commits
      rw [fails]
      exact applyResult_moves (by simp) commits

/-- A pass goes on by applying results at a time. -/
def Pass.Extends (rule : AlertRule F) (now : Instant) (pass pass' : Pass F) : Prop :=
  ∃ more, pass'.applied = pass.applied ++ more ∧
    Run (Applies rule) pass.session.db more pass'.session.db ∧ ∀ a ∈ more, a.now = now

variable {pass pass' pass'' : Pass F}

lemma Pass.Extends.refl : Pass.Extends rule now pass pass := ⟨[], by simp, .nil _, by simp⟩

lemma Pass.Extends.trans (first : Pass.Extends rule now pass pass')
    (second : Pass.Extends rule now pass' pass'') : Pass.Extends rule now pass pass'' := by
  obtain ⟨more, applied, run, timed⟩ := first
  obtain ⟨more', applied', run', timed'⟩ := second
  refine ⟨more ++ more', by rw [applied', applied, List.append_assoc], run.append run', ?_⟩
  intro a listed
  rcases List.mem_append.mp listed with old | new
  · exact timed a old
  · exact timed' a new

/-- A pass as a loop finds it when it stops or goes on. -/
lemma Pass.Extends.of_eq {outcome : Pass F × Option AlertError} {error : Option AlertError}
    (reached : outcome = (pass', error)) (extended : pass.Extends rule now outcome.1) :
    pass.Extends rule now pass' := by
  rw [reached] at extended
  exact extended

lemma Pass.apply_measured {labels : StringMap} {evidence : EvaluationEvidence F} {condition : Bool} :
    pass.Extends rule now (pass.apply (applyResult rule fingerprint labels evidence condition false now)
      (some ⟨fingerprint, now, false, condition⟩)).1 := by
  unfold Pass.apply
  split
  · exact .refl
  · rename_i committed
    exact ⟨_, rfl, .single (.measured committed), by simp⟩

lemma Pass.apply_missing {labels : StringMap} {evidence : EvaluationEvidence F} :
    pass.Extends rule now (pass.apply (applyMissing rule fingerprint labels evidence now)
      (missingApplication rule fingerprint now)).1 := by
  unfold Pass.apply
  split
  · exact .refl
  rename_i changed session committed
  cases chosen : missingApplication rule fingerprint now with
  | none =>
    -- Only a rule that ignores missing data applies nothing.
    have ignored : rule.missingData = .ignore := by
      unfold missingApplication at chosen
      split at chosen
      · assumption
      · cases chosen
      · cases chosen
    rw [applyMissing, ignored] at committed
    obtain ⟨_, rfl⟩ := commits_pure.mp committed
    exact ⟨[], rfl, .nil _, by simp⟩
  | some a =>
    refine ⟨[a], rfl, .single (.missing chosen committed), ?_⟩
    intro b listed
    rw [List.mem_singleton.mp listed]
    exact (missingApplication_eq_some chosen).2.1

lemma visitSeries_extends {windowStart : Instant} {series : List (Series F)} :
    pass.Extends rule now (visitSeries rule windowStart now series pass).1 := by
  induction series generalizing pass with
  | nil => exact .refl
  | cons one rest ih =>
    unfold visitSeries
    split
    · exact .refl
    dsimp only
    split
    · rename_i stopped
      exact .of_eq stopped Pass.apply_measured
    · rename_i applied
      exact .trans (.of_eq applied Pass.apply_measured) ih

variable {windowStart : Instant} {samples : Nat} {dimensions : List String} {hasData : Bool}

lemma applyUnseen_extends :
    pass.Extends rule now (applyUnseen rule windowStart now samples hasData dimensions event pass).1 := by
  unfold applyUnseen
  split
  · exact Pass.apply_measured
  · exact Pass.apply_missing

lemma visitExisting_extends {events : List AlertEvent} :
    pass.Extends rule now (visitExisting rule windowStart now samples hasData dimensions events pass).1 := by
  induction events generalizing pass with
  | nil => exact .refl
  | cons event rest ih =>
    unfold visitExisting
    split
    · rename_i stopped
      exact .of_eq stopped applyUnseen_extends
    · rename_i applied
      exact .trans (.of_eq applied applyUnseen_extends) ih

lemma evaluateMissing_extends {evaluation : Evaluation F} {groups : List (Series F)} :
    pass.Extends rule evaluation.now
      (evaluateMissing rule evaluation windowStart samples groups dimensions pass).1 := by
  unfold evaluateMissing
  split
  · exact .refl
  dsimp only
  split
  · rename_i stopped
    exact .of_eq stopped visitExisting_extends
  · rename_i visited
    have extended := Pass.Extends.of_eq visited visitExisting_extends
    split
    · exact extended.trans Pass.apply_missing
    · exact extended

/-- One evaluation of a rule, with the results it has applied. -/
def Evaluates (rule : AlertRule F) (scope : Scope) (db : Database F)
    (label : Evaluation F × List Application) (db' : Database F) : Prop :=
  (evaluateRule rule scope label.1 db).session.db = db' ∧ (evaluateRule rule scope label.1 db).applied = label.2

lemma Evaluates.run {scope : Scope} {label : Evaluation F × List Application}
    (evaluates : Evaluates rule scope db label db') :
    Run (Applies rule) db label.2 db' ∧ ∀ a ∈ label.2, a.now = label.1.now := by
  obtain ⟨reached, listed⟩ := evaluates
  rw [← reached, ← listed]
  suffices extended : Pass.Extends rule label.1.now ⟨⟨db, label.1.random⟩, 0, []⟩
      ⟨(evaluateRule rule scope label.1 db).session, (evaluateRule rule scope label.1 db).updated,
        (evaluateRule rule scope label.1 db).applied⟩ by
    obtain ⟨more, applied, run, timed⟩ := extended
    rw [List.nil_append] at applied
    dsimp only at applied run
    rw [applied]
    exact ⟨run, timed⟩
  unfold evaluateRule
  dsimp only
  split
  · exact .refl
  split
  · exact .refl
  · split
    · rename_i stopped
      exact .of_eq stopped visitSeries_extends
    · rename_i visited
      exact .trans (.of_eq visited visitSeries_extends) evaluateMissing_extends

end passes

/-! What the results leave of an event. -/

section waiting

variable {rule : AlertRule F} {fingerprint : String} {db db' : Database F} {a : Application}
  {applied : List Application} {phase : Phase}

/-- The state of the stored event of a fingerprint, if there is one. -/
def Database.stateOf (db : Database F) (k : Scope × String) : Option EventState :=
  (db.events.find? k).map AlertEvent.state

/-- What the results tell about one fingerprint. -/
def observations (fingerprint : String) (applied : List Application) : List Observation :=
  applied.filterMap fun a => if a.fingerprint = fingerprint then some ⟨a.now, a.condition⟩ else none

section

omit [TimeText]

lemma observations_concat_self :
    observations a.fingerprint (applied ++ [a]) = observations a.fingerprint applied ++ [⟨a.now, a.condition⟩] := by
  simp [observations]

end

/-- The stored event of a fingerprint follows the automaton on what the results tell
about it. -/
theorem run_tracks (run : Run (Applies rule) db applied db')
    (ordered : applied.Pairwise fun a b => a.now ≤ b.now)
    (fresh : Tracks (db.events.find? (rule.scope, fingerprint)) .idle) :
    Tracks (db'.events.find? (rule.scope, fingerprint))
      (after rule.forDuration (observations fingerprint applied)) := by
  induction applied using List.reverseRecOn generalizing db' with
  | nil =>
    cases run
    exact fresh
  | append_singleton applied a ih =>
    obtain ⟨middle, front, last⟩ := run.split
    obtain ⟨ordered, _, later⟩ := List.pairwise_append.mp ordered
    have tracks := ih front ordered
    cases last with
    | cons applies done =>
      cases done
      by_cases mine : a.fingerprint = fingerprint
      · subst mine
        rw [observations_concat_self, after_concat]
        refine applies.effect.1.tracks _ tracks ?_
        intro since waiting
        -- The wait began at an earlier result.
        obtain ⟨earlier, start, during, waits, rfl⟩ := waits_of_waiting waiting
        have seen : start ∈ observations a.fingerprint applied := by
          rw [waits.split]
          simp
        obtain ⟨b, listed, same⟩ := List.mem_filterMap.mp seen
        split at same
        · cases same
          exact later b listed a (List.mem_singleton_self a)
        · cases same
      · rw [applies.effect.1.others _ (fun same => mine (congrArg Prod.snd same).symm)]
        simpa [observations, mine] using tracks

omit [Float64 F] in
lemma Tracks.stateOf {k : Scope × String} (tracks : Tracks (db.events.find? k) phase) :
    phase = .idle ∧ (db.stateOf k = none ∨ db.stateOf k = some .resolved) ∨
      (∃ since, phase = .waiting since) ∧ db.stateOf k = some .pending ∨
      phase = .active ∧ db.stateOf k = some .firing := by
  unfold Database.stateOf
  unfold Tracks at tracks
  split at tracks
  · rename_i absent
    exact .inl ⟨tracks, .inl (by rw [absent]; rfl)⟩
  rename_i event found
  rw [found]
  split at tracks
  · rename_i resolved
    exact .inl ⟨tracks, .inr (congrArg some resolved)⟩
  · rename_i pending
    obtain ⟨since, waiting, _⟩ := tracks
    exact .inr (.inl ⟨⟨since, waiting⟩, congrArg some pending⟩)
  · rename_i firing
    exact .inr (.inr ⟨tracks, congrArg some firing⟩)
  · cases tracks

omit [Float64 F] in
lemma Tracks.ended {k : Scope × String} (tracks : Tracks (db.events.find? k) .idle) :
    db.stateOf k = none ∨ db.stateOf k = some .resolved := by
  simpa using tracks.stateOf

omit [Float64 F] in
lemma tracks_idle {k : Scope × String} (ended : db.stateOf k = none ∨ db.stateOf k = some .resolved) :
    Tracks (db.events.find? k) .idle := by
  unfold Database.stateOf at ended
  cases found : db.events.find? k with
  | none => rfl
  | some event =>
    rw [found] at ended
    have resolved : event.state = .resolved := by simpa using ended
    simp only [Tracks, resolved]

/-- The results between an event's last step to Pending and the one that makes it
fire. -/
structure Waited (rule : AlertRule F) (fingerprint : String) (db db' : Database F) (applied : List Application)
    (start : Application) : Prop where
  mine : start.fingerprint = fingerprint
  since : ∃ earlier during entering entered, applied = earlier ++ start :: during ∧
    Run (Applies rule) db earlier entering ∧ Applies rule entering start entered ∧
    Run (Applies rule) entered during db' ∧
    entering.stateOf (rule.scope, fingerprint) ≠ some .pending ∧
    (∀ front back d, during = front ++ back → Run (Applies rule) entered front d →
      d.stateOf (rule.scope, fingerprint) = some .pending) ∧
    ∀ b ∈ start :: during, b.fingerprint = fingerprint → b.condition = true

section

omit [TimeText]

/-- The results behind a division of what they tell about a fingerprint. -/
lemma observations_split {earlier during : List Observation} {start : Observation}
    (split : observations fingerprint applied = earlier ++ start :: during) :
    ∃ before first rest, applied = before ++ first :: rest ∧ first.fingerprint = fingerprint ∧
      (⟨first.now, first.condition⟩ : Observation) = start ∧
      observations fingerprint before = earlier ∧ observations fingerprint rest = during := by
  obtain ⟨before, tail, rfl, told, remains⟩ := List.filterMap_eq_append_iff.mp split
  obtain ⟨silent, first, rest, rfl, skipped, here, later⟩ := List.filterMap_eq_cons_iff.mp remains
  refine ⟨before ++ silent, first, rest, by simp, ?_⟩
  have nothing : silent.filterMap _ = [] := List.filterMap_eq_nil_iff.mpr skipped
  split at here
  · rename_i mine
    refine ⟨mine, Option.some.inj here, ?_, later⟩
    unfold observations
    rw [List.filterMap_append, nothing, List.append_nil]
    exact told
  · cases here

lemma observations_append {applied' : List Application} :
    observations fingerprint (applied ++ applied') =
      observations fingerprint applied ++ observations fingerprint applied' := List.filterMap_append ..

lemma observations_cons_self {applied : List Application} :
    observations a.fingerprint (a :: applied) = ⟨a.now, a.condition⟩ :: observations a.fingerprint applied := by
  simp [observations]

end

/-- A wait of the automaton is a wait of the stored event. -/
lemma waited_of_waits {earlier during : List Observation} {start : Observation}
    (run : Run (Applies rule) db applied db') (ordered : applied.Pairwise fun a b => a.now ≤ b.now)
    (fresh : Tracks (db.events.find? (rule.scope, fingerprint)) .idle)
    (waits : Waits rule.forDuration (observations fingerprint applied) earlier start during) :
    ∃ first, first.now = start.now ∧ Waited rule fingerprint db db' applied first := by
  obtain ⟨before, first, rest, rfl, rfl, rfl, told, later⟩ := observations_split waits.split
  obtain ⟨entering, front, tail⟩ := run.split
  cases tail with
  | @cons _ entered _ _ _ enters back =>
    refine ⟨first, rfl, rfl, before, rest, entering, entered, rfl, front, enters, back, ?_, ?_, ?_⟩
    · have tracks := run_tracks front (List.pairwise_append.mp ordered).1 fresh
      rw [told, waits.idle] at tracks
      rcases tracks.ended with none | resolved
      · rw [none]
        decide
      · rw [resolved]
        decide
    · intro some more d parts reached
      subst parts
      have whole := front.append (.cons enters reached)
      have sorted : (before ++ first :: some).Pairwise fun a b => a.now ≤ b.now := by
        rw [← List.cons_append, ← List.append_assoc] at ordered
        exact (List.pairwise_append.mp ordered).1
      have tracks := run_tracks whole sorted fresh
      rw [observations_append, observations_cons_self, told,
        waits.waiting _ (observations first.fingerprint more) (by rw [← later, observations_append])] at tracks
      simpa using tracks.stateOf
    · intro b listed mine
      refine waits.held ⟨b.now, b.condition⟩ ?_
      rw [← later, ← observations_cons_self]
      exact List.mem_filterMap.mpr ⟨b, listed, if_pos mine⟩

/-- A result of evaluations in order, seen from a fingerprint. -/
structure KeepsWait (rule : AlertRule F) (fingerprint : String) (db : Database F)
    (applied : List Application) (db₁ : Database F) (a : Application) (db₂ : Database F) : Prop where
  /-- Missing data are applied only by rules that choose how. -/
  missing : a.missing = true →
    rule.missingData = .alert ∧ a.condition = true ∨ rule.missingData = .resolve ∧ a.condition = false
  /-- A condition that fails leaves nothing to wait on. -/
  restarts : a.fingerprint = fingerprint → a.condition = false →
    db₂.stateOf (rule.scope, fingerprint) = none ∨ db₂.stateOf (rule.scope, fingerprint) = some .resolved
  fires : db₁.stateOf (rule.scope, fingerprint) ≠ some .firing →
    db₂.stateOf (rule.scope, fingerprint) = some .firing →
    a.fingerprint = fingerprint ∧ a.condition = true ∧ ∃ start, rule.forDuration ≤ a.now - start.now ∧
      Waited rule fingerprint db db₁ applied start

lemma keepsWait_of_run {db₁ db₂ : Database F} (run : Run (Applies rule) db applied db₁)
    (applies : Applies rule db₁ a db₂) (ordered : (applied ++ [a]).Pairwise fun a b => a.now ≤ b.now)
    (fresh : Tracks (db.events.find? (rule.scope, fingerprint)) .idle) :
    KeepsWait rule fingerprint db applied db₁ a db₂ := by
  have sorted := (List.pairwise_append.mp ordered).1
  have before := run_tracks run sorted fresh
  have after := run_tracks (run.append (.single applies)) ordered fresh
  refine ⟨?_, ?_, ?_⟩
  · intro missing
    cases applies with
    | measured => cases missing
    | missing chosen _ => exact (missingApplication_eq_some chosen).2.2
  · rintro rfl fails
    rw [observations_concat_self, after_concat, observe_false fails] at after
    exact after.ended
  · intro quiet fires
    by_cases mine : a.fingerprint = fingerprint
    · subst mine
      rw [observations_concat_self] at after
      have activates := after.stateOf
      simp only [fires, reduceCtorEq, Option.some.injEq, false_or, and_false, and_true] at activates
      have inactive : Hysteresis.after rule.forDuration (observations a.fingerprint applied) ≠ .active := by
        intro active
        rw [active] at before
        exact quiet (by simpa using before.stateOf)
      obtain ⟨holds, earlier, start, during, waits, long⟩ := waits_of_activates inactive activates
      obtain ⟨first, same, waited⟩ := waited_of_waits run sorted fresh waits
      exact ⟨rfl, holds, first, same ▸ long, waited⟩
    · have same := applies.effect.1.others (rule.scope, fingerprint) (fun eq => mine (congrArg Prod.snd eq).symm)
      refine absurd ?_ quiet
      rw [← fires, Database.stateOf, Database.stateOf, same]

variable {scope : Scope} {es : List (Evaluation F × List Application)}

/-- Evaluations one after another are the run of what they apply. -/
lemma run_applies (run : Run (Evaluates rule scope) db es db') :
    Run (Applies rule) db (es.flatMap Prod.snd) db' ∧ ∀ e ∈ es, ∀ a ∈ e.2, a.now = e.1.now := by
  induction run with
  | nil => exact ⟨.nil _, by simp⟩
  | cons evaluates _ ih =>
    obtain ⟨first, timed⟩ := evaluates.run
    obtain ⟨rest, later⟩ := ih
    refine ⟨first.append rest, ?_⟩
    intro e listed
    rcases List.mem_cons.mp listed with rfl | listed
    · exact timed
    · exact later e listed

omit [TimeText] [Float64 F] in
lemma pairwise_applied (ordered : es.Pairwise fun e e' => e.1.now ≤ e'.1.now)
    (timed : ∀ e ∈ es, ∀ a ∈ e.2, a.now = e.1.now) :
    (es.flatMap Prod.snd).Pairwise fun a b => a.now ≤ b.now := by
  rw [List.pairwise_flatMap]
  constructor
  · intro e listed
    refine List.pairwise_of_forall_mem_list ?_
    intro a here b there
    rw [timed e listed a here, timed e listed b there]
  · refine ordered.imp_of_mem ?_
    intro e e' listed listed' le a here b there
    rw [timed e listed a here, timed e' listed' b there]
    exact le

/-- An event fires only after its rule's wait: for every sequence of evaluations in
order, every result and every fingerprint. -/
theorem firing_waits (run : Run (Evaluates rule scope) db es db')
    (ordered : es.Pairwise fun e e' => e.1.now ≤ e'.1.now)
    (fresh : db.stateOf (rule.scope, fingerprint) = none ∨ db.stateOf (rule.scope, fingerprint) = some .resolved) :
    Run (Applies rule) db (es.flatMap Prod.snd) db' ∧ (∀ e ∈ es, ∀ a ∈ e.2, a.now = e.1.now) ∧
      ∀ before a after db₁ db₂, es.flatMap Prod.snd = before ++ a :: after →
        Run (Applies rule) db before db₁ → Applies rule db₁ a db₂ →
        KeepsWait rule fingerprint db before db₁ a db₂ := by
  obtain ⟨applied, timed⟩ := run_applies run
  have sorted := pairwise_applied ordered timed
  refine ⟨applied, timed, ?_⟩
  intro before a after db₁ db₂ parts front applies
  rw [parts, List.append_cons] at sorted
  exact keepsWait_of_run front applies (List.pairwise_append.mp sorted).1 (tracks_idle fresh)

end waiting

end hysteresis

section sample

local instance : TimeText := .ofTable [
  (newYear - minutes 5, "2025-12-31T23:55:00Z"), (newYear - minutes 4, "2025-12-31T23:56:00Z"),
  (newYear - minutes 3, "2025-12-31T23:57:00Z"), (newYear, "2026-01-01T00:00:00Z"),
  (newYear + minutes 1, "2026-01-01T00:01:00Z"), (newYear + minutes 2, "2026-01-01T00:02:00Z")]
  (by decide) (by decide)

def sampleLoad (now : Instant) : MetricSample Rat where
  scope := sampleScope
  agentID := "agent"
  name := "host.load"
  labels := [("instance", "db"), ("component", "pg"), ("role", "rw"), ("host", "h")]
  value := 5
  sampledAt := some now

def sampleFingerprint : String :=
  eventFingerprint sampleScope "rule" (canonicalResourceLabels (sampleLoad newYear))

def sampleEvaluation (after : Int) (samples : List (MetricSample Rat)) (random : List String) : Evaluation Rat where
  now := newYear + minutes after
  queried := .ok samples
  series := .inOrder
  listed := .inOrder
  random

def loadFirst : Evaluation Rat := sampleEvaluation 0 [sampleLoad newYear] ["1", "2"]

def loadMissing : Evaluation Rat := sampleEvaluation 1 [] []

def loadAgain : Evaluation Rat := sampleEvaluation 2 [sampleLoad (newYear + minutes 2)] ["3"]

def evaluated (evaluation : Evaluation Rat) (db : Database Rat) : Database Rat :=
  (evaluateRule sampleRule sampleScope evaluation db).session.db

def loadPending : Database Rat := evaluated loadFirst sampleDatabase

def loadUnknown : Database Rat := evaluated loadMissing loadPending

def loadFiring : Database Rat := evaluated loadAgain loadUnknown

def loadHistory : List (Evaluation Rat × List Application) :=
  [(loadFirst, [⟨sampleFingerprint, newYear, false, true⟩]), (loadMissing, []),
    (loadAgain, [⟨sampleFingerprint, newYear + minutes 2, false, true⟩])]

lemma evaluates_evaluated {evaluation : Evaluation Rat} {db : Database Rat} {applied : List Application}
    (listed : (evaluateRule sampleRule sampleScope evaluation db).applied = applied) :
    Evaluates sampleRule sampleScope db (evaluation, applied) (evaluated evaluation db) := ⟨rfl, listed⟩

-- One evaluation of the whole history, which the statements below share.
instance load_facts : Fact (
    ((evaluateRule sampleRule sampleScope loadFirst sampleDatabase).applied =
        [⟨sampleFingerprint, newYear, false, true⟩] ∧
      (evaluateRule sampleRule sampleScope loadMissing loadPending).applied = [] ∧
      (evaluateRule sampleRule sampleScope loadAgain loadUnknown).applied =
        [⟨sampleFingerprint, newYear + minutes 2, false, true⟩]) ∧
      loadPending.stateOf (sampleScope, sampleFingerprint) = some .pending ∧
      loadUnknown.stateOf (sampleScope, sampleFingerprint) = some .pending ∧
      loadFiring.stateOf (sampleScope, sampleFingerprint) = some .firing) where
  out := by decide +kernel

lemma loadHistory_runs : Run (Evaluates sampleRule sampleScope) sampleDatabase loadHistory loadFiring := by
  obtain ⟨⟨first, second, third⟩, _⟩ := load_facts.out
  exact .cons (evaluates_evaluated first) (.cons (evaluates_evaluated second) (.single (evaluates_evaluated third)))

/-- The wait goes on through an evaluation without data when the rule ignores those. -/
theorem missing_evaluation_keeps_waiting :
    Run (Evaluates sampleRule sampleScope) sampleDatabase loadHistory loadFiring ∧
      loadMissing.queried = .ok [] ∧
      loadPending.stateOf (sampleScope, sampleFingerprint) = some .pending ∧
      loadUnknown.stateOf (sampleScope, sampleFingerprint) = some .pending ∧
      loadFiring.stateOf (sampleScope, sampleFingerprint) = some .firing ∧
      loadAgain.now - loadMissing.now < sampleRule.forDuration := by
  obtain ⟨_, pending, unknown, firing⟩ := load_facts.out
  exact ⟨loadHistory_runs, rfl, pending, unknown, firing, by decide⟩

theorem firing_waits_load :
    Run (Applies sampleRule) sampleDatabase (loadHistory.flatMap Prod.snd) loadFiring ∧
      (∀ e ∈ loadHistory, ∀ a ∈ e.2, a.now = e.1.now) ∧
      ∀ before a after db₁ db₂, loadHistory.flatMap Prod.snd = before ++ a :: after →
        Run (Applies sampleRule) sampleDatabase before db₁ → Applies sampleRule db₁ a db₂ →
        KeepsWait sampleRule sampleFingerprint sampleDatabase before db₁ a db₂ := by
  refine firing_waits loadHistory_runs ?_ (.inl rfl)
  simp [loadHistory, loadFirst, loadMissing, loadAgain, sampleEvaluation, minutes]

end sample

end DBPilot.Alerts
