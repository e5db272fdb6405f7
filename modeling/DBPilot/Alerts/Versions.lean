import DBPilot.Alerts.Events

/-!
# The committed versions of an event

Writers of events compute from versions they read earlier, so a write may come
with any event, audit record and disposition. `mutateEvent` compares it with the
version that is stored: what it commits continues that version, by a transition,
by the reopening of a resolved event, or by a refresh that leaves the state.
-/

namespace DBPilot.Alerts

open Tables Transactions Runs
open Jobs (Instant timestamptz timestamptz_mono)

/-! Rounding keeps the order of times. -/

lemma getD_map_timestamptz (t : Time) : (t.map timestamptz).getD 0 = timestamptz (t.getD 0) := by
  cases t <;> rfl

@[simp] lemma isZero_map (t : Time) : isZero (t.map timestamptz) = isZero t := by
  cases t <;> rfl

lemma before_map {t u : Time} (h : before t u = false) : before (t.map timestamptz) (u.map timestamptz) = false := by
  unfold before at h ⊢
  rw [getD_map_timestamptz, getD_map_timestamptz]
  have ordered : u.getD 0 ≤ t.getD 0 := by simpa using h
  simpa using timestamptz_mono ordered

lemma validEventTimestamp_map {t first last : Time} (h : validEventTimestamp t first last = true) :
    validEventTimestamp (t.map timestamptz) (first.map timestamptz) (last.map timestamptz) = true := by
  simp only [validEventTimestamp, Bool.or_eq_true, Bool.and_eq_true, Bool.not_eq_true', isZero_map] at h ⊢
  exact h.imp_right fun inside => ⟨before_map inside.1, before_map inside.2⟩

/-- A version as the table holds it: valid, its times rounded. -/
structure AlertEvent.Kept (v : AlertEvent) : Prop where
  valid : v.validate = true
  firstSeen : v.firstSeen.map timestamptz = v.firstSeen
  lastSeen : v.lastSeen.map timestamptz = v.lastSeen
  firingAt : v.firingAt.map timestamptz = v.firingAt
  acknowledgedAt : v.acknowledgedAt.map timestamptz = v.acknowledgedAt
  resolvedAt : v.resolvedAt.map timestamptz = v.resolvedAt

lemma map_timestamptz_twice (t : Time) : (t.map timestamptz).map timestamptz = t.map timestamptz := by
  cases t <;> simp

lemma kept_storedEvent {event : AlertEvent} (valid : event.validate = true) : (storedEvent event).Kept where
  valid := by
    simp only [AlertEvent.validate, Bool.and_eq_true, Bool.not_eq_true'] at valid ⊢
    obtain ⟨⟨⟨⟨⟨⟨⟨⟨⟨scope, rule⟩, fingerprint⟩, first⟩, last⟩, ordered⟩, firing⟩, acked⟩, resolved⟩, state⟩ := valid
    refine ⟨⟨⟨⟨⟨⟨⟨⟨⟨scope, rule⟩, fingerprint⟩, ?_⟩, ?_⟩, before_map ordered⟩, validEventTimestamp_map firing⟩,
      validEventTimestamp_map acked⟩, validEventTimestamp_map resolved⟩, ?_⟩
    · simpa [storedEvent] using first
    · simpa [storedEvent] using last
    · cases kind : event.state <;>
        simp only [kind, storedEvent, isZero_map, Bool.and_eq_true, Bool.or_eq_true, Bool.not_eq_true'] at state ⊢
      · exact state
      · exact state
      · exact ⟨⟨state.1.1, before_map state.1.2⟩, state.2⟩
      · exact ⟨⟨state.1.1, state.1.2.imp_right before_map⟩, state.2.imp_right fun late => ⟨late.1, before_map late.2⟩⟩
  firstSeen := map_timestamptz_twice _
  lastSeen := map_timestamptz_twice _
  firingAt := map_timestamptz_twice _
  acknowledgedAt := map_timestamptz_twice _
  resolvedAt := map_timestamptz_twice _

/-- A resolved event is reopened as pending. -/
def Reopens (v v' : AlertEvent) : Prop := v.state = .resolved ∧ v'.state = .pending

/-- A committed version and the one committed right after it. -/
structure Follows (v v' : AlertEvent) : Prop where
  id : v'.id = v.id
  scope : v'.scope = v.scope
  ruleID : v'.ruleID = v.ruleID
  fingerprint : v'.fingerprint = v.fingerprint
  firstSeen : v'.firstSeen = v.firstSeen
  lastSeen : before v'.lastSeen v.lastSeen = false
  legal : v'.state ≠ v.state → Reopens v v' ∨
    v.transition v'.state v'.lastSeen v'.lastActor = .ok { v' with labels := v.labels, evidence := v.evidence }
  acknowledged : isZero v.acknowledgedAt = false → Reopens v v' ∨ v'.acknowledgedAt = v.acknowledgedAt

/-! What the check of a stored mutation lets through. -/

/-- The write names the stored event and is not older than it. -/
structure Names (v next : AlertEvent) : Prop where
  id : next.id = v.id
  scope : next.scope = v.scope
  ruleID : next.ruleID = v.ruleID
  fingerprint : next.fingerprint = v.fingerprint
  firstSeen : next.firstSeen = v.firstSeen
  lastSeen : before next.lastSeen v.lastSeen = false

/-- The ways a write continues a stored version; the flag says that its state changes. -/
inductive Continues (v next : AlertEvent) : Bool → Prop
  | refresh (state : next.state = v.state) (firingAt : next.firingAt = v.firingAt)
      (acknowledgedAt : next.acknowledgedAt = v.acknowledgedAt)
      (resolvedAt : next.resolvedAt = v.resolvedAt) : Continues v next false
  | reopen (reopens : Reopens v next) : Continues v next true
  | transition (permitted : permittedTransition v.state next.state = true)
      (firingAt : next.firingAt = if next.state = .firing then next.lastSeen else v.firingAt)
      (acknowledgedAt : next.acknowledgedAt =
        if next.state = .acknowledged then next.lastSeen else v.acknowledgedAt)
      (resolvedAt : next.resolvedAt = if next.state = .resolved then next.lastSeen else v.resolvedAt) :
      Continues v next true

variable {changed : Bool}

lemma continues_of_validated {v next : AlertEvent}
    (checked : validateStoredEventMutation (some v) next = .ok changed) :
    Names v next ∧ Continues v next changed := by
  unfold validateStoredEventMutation at checked
  split at checked
  · cases checked
  dsimp only at checked
  split at checked
  · cases checked
  rename_i identity
  simp only [not_or, not_not, Bool.not_eq_true] at identity
  obtain ⟨id, scope, ruleID, fingerprint, firstSeen, lastSeen⟩ := identity
  refine ⟨⟨id.symm, scope.symm, ruleID.symm, fingerprint.symm, firstSeen.symm, lastSeen⟩, ?_⟩
  split at checked
  · rename_i state
    split at checked
    · cases checked
    rename_i times
    simp only [not_or, not_not] at times
    cases checked
    exact .refresh state.symm times.1.symm times.2.1.symm times.2.2.symm
  split at checked
  · rename_i reopens
    split at checked
    · cases checked
      exact .reopen reopens
    · cases checked
  split at checked
  · cases checked
  rename_i expected moved
  split at checked
  · cases checked
  rename_i times
  simp only [not_or, not_not] at times
  cases checked
  obtain ⟨permitted, _, _, rfl⟩ := AlertEvent.transition_eq_ok moved
  exact .transition permitted times.1.symm times.2.1.symm times.2.2.symm

variable {v next : AlertEvent} {changed : Bool}

/-- The row that an accepted write leaves is the write, rounded. -/
lemma updatedEvent_eq (kept : v.Kept) (names : Names v next) : updatedEvent v next = storedEvent next := by
  have first : v.firstSeen = next.firstSeen.map timestamptz := by rw [names.firstSeen, kept.firstSeen]
  simp [updatedEvent, storedEvent, names.id, names.ruleID, first]

/-- A time that a transition sets or leaves, once it is stored. -/
lemma map_ite_timestamptz {p : Prop} [Decidable p] {t u w : Time} (h : w = if p then t else u)
    (kept : u.map timestamptz = u) : w.map timestamptz = if p then t.map timestamptz else u := by
  rw [h]
  split
  · rfl
  · exact kept

lemma Continues.legal (kept : v.Kept) (valid : next.validate = true) (names : Names v next)
    (h : Continues v next changed) (moves : next.state ≠ v.state) : Reopens v (storedEvent next) ∨
      v.transition next.state (next.lastSeen.map timestamptz) next.lastActor =
        .ok { storedEvent next with labels := v.labels, evidence := v.evidence } := by
  cases h with
  | refresh state => exact absurd state moves
  | reopen reopens => exact .inl reopens
  | transition permitted firingAt acknowledgedAt resolvedAt =>
    simp only [AlertEvent.validate, Bool.and_eq_true, Bool.not_eq_true'] at valid
    obtain ⟨⟨⟨⟨⟨⟨⟨-, dated⟩, last⟩, ordered⟩, -⟩, -⟩, -⟩, -⟩ := valid
    have first := before_map ordered
    have later := before_map names.lastSeen
    rw [names.firstSeen, kept.firstSeen] at first
    rw [kept.lastSeen] at later
    right
    rw [AlertEvent.transition, if_neg (by simp [last]), if_neg (by simp [first, later]), if_neg (by simp [permitted])]
    rw [names.firstSeen] at dated
    simp only [AlertEvent.moved, storedEvent, dated, names.id, names.scope, names.ruleID, names.fingerprint,
      names.firstSeen, kept.firstSeen, map_ite_timestamptz firingAt kept.firingAt,
      map_ite_timestamptz acknowledgedAt kept.acknowledgedAt, map_ite_timestamptz resolvedAt kept.resolvedAt,
      Bool.false_eq_true, if_false]

lemma Continues.acknowledged (kept : v.Kept) (h : Continues v next changed)
    (acknowledged : isZero v.acknowledgedAt = false) :
    Reopens v (storedEvent next) ∨ (storedEvent next).acknowledgedAt = v.acknowledgedAt := by
  cases h with
  | refresh _ _ same =>
    right
    rw [← kept.acknowledgedAt, ← same]
    rfl
  | reopen reopens => exact .inl reopens
  | transition permitted _ same =>
    right
    -- Only a firing event is acknowledged, and that has no acknowledgement yet.
    have other : next.state ≠ .acknowledged := by
      intro acknowledges
      rw [acknowledges] at permitted
      have firing : v.state = .firing := by
        cases kind : v.state <;> rw [kind] at permitted <;> first | rfl | cases permitted
      have valid := kept.valid
      simp [AlertEvent.validate, firing, acknowledged] at valid
    rw [if_neg other] at same
    rw [← kept.acknowledgedAt, ← same]
    rfl

/-- What an accepted write makes of the stored version. -/
lemma follows_of_validated (kept : v.Kept) (valid : next.validate = true)
    (checked : validateStoredEventMutation (some v) next = .ok changed) :
    Follows v (updatedEvent v next) ∧ (changed = true ↔ (updatedEvent v next).state ≠ v.state) := by
  obtain ⟨names, continues⟩ := continues_of_validated checked
  rw [updatedEvent_eq kept names]
  refine ⟨?_, ?_⟩
  · constructor
    · exact names.id
    · exact names.scope
    · exact names.ruleID
    · exact names.fingerprint
    · rw [← kept.firstSeen, ← names.firstSeen]
      rfl
    · rw [← kept.lastSeen]
      exact before_map names.lastSeen
    · exact continues.legal kept valid names
    · exact continues.acknowledged kept
  · change changed = true ↔ next.state ≠ v.state
    cases continues with
    | refresh state => simp [state]
    | reopen reopens => simp [reopens.1, reopens.2]
    | transition permitted =>
      simp only [true_iff]
      intro same
      rw [same] at permitted
      cases kind : v.state <;> rw [kind] at permitted <;> cases permitted

/-! What a committed write does to the tables. -/

section writes

variable {F : Type} {s s' : Session F} {event stored : AlertEvent} {u : Unit}

/-- The row of the written event: the stored one updated, or a new one. -/
inductive Puts (event : AlertEvent) (stored : AlertEvent) (events events' : Table AlertEvent AlertEvent.key) : Prop
  | update (old : AlertEvent) (found : events.find? event.key = some old)
      (row : stored = updatedEvent old event) (put : events' = events.put stored)
  | insert (absent : events.find? event.key = none) (row : stored = storedEvent event)
      (inserted : events.insert? stored = some events')

lemma putEvent_puts (commits : Commits (putEvent event) s stored s') :
    s' = { s with db.events := s'.db.events } ∧ Puts event stored s.db.events s'.db.events := by
  simp only [putEvent, commits_bind, commits_require, commits_inspect] at commits
  obtain ⟨_, _, ⟨_, rfl⟩, found, _, ⟨lookup, rfl⟩, rest⟩ := commits
  cases found with
  | some old =>
    simp only [commits_steps] at rest
    obtain ⟨rfl, rfl⟩ := rest
    exact ⟨rfl, .update old lookup rfl rfl⟩
  | none =>
    simp only [commits_steps] at rest
    obtain ⟨_, _, _, events, inserted, rfl, rfl⟩ := rest
    exact ⟨rfl, .insert lookup rfl inserted⟩

/-- A record of the change that led to a version. -/
structure Describes (record : AuditRecord) (v : AlertEvent) : Prop where
  scope : record.scope = v.scope
  targetID : record.targetID = v.id
  action : record.action = .event v.state
  actor : record.actor = v.lastActor
  occurredAt : record.occurredAt = v.lastSeen

lemma newControlPlaneID_db {kind id : String} (commits : Commits (newControlPlaneID kind) s id s') :
    s'.db = s.db := by
  simp only [newControlPlaneID, commits_bind, commits_inspect] at commits
  obtain ⟨drawn, _, ⟨_, rfl⟩, rest⟩ := commits
  cases drawn with
  | nil =>
    rw [commits_attempt] at rest
    cases rest.1
  | cons =>
    simp only [commits_steps] at rest
    obtain ⟨_, rfl⟩ := rest
    rfl

/-- The record that a writer may supply with an event. -/
def Supplies (supplied : Option AuditRecord) (event : AlertEvent) : Prop :=
  ∀ record ∈ supplied, validateLifecycleAudit event record = true

/-- The row agrees with the write in all that its audit record repeats. -/
structure Mirrors (stored event : AlertEvent) : Prop where
  scope : stored.scope = event.scope
  id : stored.id = event.id
  state : stored.state = event.state
  lastActor : stored.lastActor = event.lastActor
  lastSeen : stored.lastSeen = event.lastSeen.map timestamptz

/-- One new audit record describes a change of state; nothing else is recorded. -/
def Audits (changed : Bool) (stored : AlertEvent) (audits audits' : Table AuditRecord AuditRecord.key) : Prop :=
  if changed = true then ∃ record, audits.insert? record = some audits' ∧ Describes record stored
  else audits' = audits

lemma recordDisposition_frame {supplied : Option EventDisposition}
    (commits : Commits (recordDisposition changed supplied) s u s') :
    s' = { s with db.dispositions := s'.db.dispositions } := by
  cases supplied with
  | none =>
    obtain ⟨_, rfl⟩ := commits_pure.mp commits
    rfl
  | some =>
    simp only [recordDisposition, insertEventDisposition, commits_steps] at commits
    obtain ⟨_, _, _, _, _, rfl⟩ := commits
    rfl

/-- What a committed write does: its check, its row and its audit record. -/
structure Wrote (event stored : AlertEvent) (db db' : Database F) : Prop where
  valid : event.validate = true
  checked : ∃ changed, validateStoredEventMutation (db.events.find? event.key) event = .ok changed ∧
    Audits changed stored db.audits db'.audits
  puts : Puts event stored db.events db'.events
  rest : db' = { db with events := db'.events, audits := db'.audits, dispositions := db'.dispositions }

lemma Puts.mirrors {events events' : Table AlertEvent AlertEvent.key}
    (puts : Puts event stored events events')
    (checked : validateStoredEventMutation (events.find? event.key) event = .ok changed) :
    Mirrors stored event := by
  cases puts with
  | update old found row _ =>
    rw [found] at checked
    obtain ⟨names, _⟩ := continues_of_validated checked
    subst row
    exact ⟨rfl, names.id.symm, rfl, rfl, rfl⟩
  | insert _ row _ =>
    subst row
    exact ⟨rfl, rfl, rfl, rfl, rfl⟩

variable [Float64 F] [TimeText] {record : AuditRecord}

lemma lifecycleAuditRecord_describes {supplied : Option AuditRecord}
    (mirrors : Mirrors stored event) (supplies : Supplies supplied event)
    (commits : Commits (lifecycleAuditRecord stored supplied) s record s') :
    s'.db = s.db ∧ Describes (storedAudit (sanitizeAuditRecord F record)) stored := by
  cases supplied with
  | some given =>
    simp only [lifecycleAuditRecord, commits_pure] at commits
    obtain ⟨rfl, rfl⟩ := commits
    have checked := supplies given rfl
    simp only [validateLifecycleAudit, Bool.and_eq_true, decide_eq_true_eq] at checked
    obtain ⟨⟨⟨⟨scope, _⟩, action⟩, actor⟩, occurredAt⟩ := checked
    refine ⟨rfl, ⟨?_, rfl, ?_, ?_, ?_⟩⟩
    · exact scope.trans mirrors.scope.symm
    · exact mirrors.state ▸ action
    · exact actor.trans mirrors.lastActor.symm
    · simp [storedAudit, sanitizeAuditRecord, occurredAt, mirrors.lastSeen]
  | none =>
    simp only [lifecycleAuditRecord, commits_steps] at commits
    obtain ⟨id, _, drawn, rfl, rfl⟩ := commits
    refine ⟨newControlPlaneID_db drawn, ⟨rfl, rfl, rfl, rfl, ?_⟩⟩
    change stored.lastSeen.map timestamptz = stored.lastSeen
    rw [mirrors.lastSeen, map_timestamptz_twice]

lemma auditChange_audits {supplied : Option AuditRecord} (mirrors : Mirrors stored event)
    (supplies : Supplies supplied event) (commits : Commits (auditChange changed stored supplied) s u s') :
    s'.db = { s.db with audits := s'.db.audits } ∧ Audits changed stored s.db.audits s'.db.audits := by
  unfold auditChange at commits
  unfold Audits
  split at commits
  · rename_i changes
    simp only [commits_bind] at commits
    obtain ⟨record, s₁, recorded, appended⟩ := commits
    obtain ⟨same, describes⟩ := lifecycleAuditRecord_describes mirrors supplies recorded
    simp only [appendAudit, insertAudit, commits_steps] at appended
    obtain ⟨_, _, audits, inserted, rfl⟩ := appended
    rw [same] at inserted
    rw [if_pos changes]
    refine ⟨?_, _, inserted, describes⟩
    rw [← same]
  · rename_i keeps
    obtain ⟨_, rfl⟩ := commits_pure.mp commits
    rw [if_neg keeps]
    exact ⟨rfl, rfl⟩

lemma mutateEvent_wrote {audit : Option AuditRecord} {disposition : Option EventDisposition}
    (supplies : Supplies audit event) (commits : Commits (mutateEvent event audit disposition) s stored s') :
    Wrote event stored s.db s'.db := by
  simp only [mutateEvent, commits_steps] at commits
  obtain ⟨valid, changed, checked, _, row, s₁, put, _, s₂, audited, _, s₃, recorded, rfl, rfl⟩ := commits
  obtain ⟨putFrame, puts⟩ := putEvent_puts put
  obtain ⟨auditFrame, audits⟩ := auditChange_audits (puts.mirrors checked) supplies audited
  have lastFrame := recordDisposition_frame recorded
  have events : s₃.db.events = s₁.db.events := by rw [lastFrame, auditFrame]
  have audits₃ : s₃.db.audits = s₂.db.audits := by rw [lastFrame]
  have audits₁ : s₁.db.audits = s.db.audits := by rw [putFrame]
  refine ⟨valid, ⟨changed, checked, ?_⟩, ?_, ?_⟩
  · rw [audits₃, ← audits₁]
    exact audits
  · rw [events]
    exact puts
  · rw [lastFrame, auditFrame, putFrame]

lemma suppliedRecord_supplies {given : AuditRecord}
    (commits : Commits (suppliedRecord event record) s given s') : s' = s ∧ Supplies (some given) event := by
  simp only [suppliedRecord, commits_steps] at commits
  obtain ⟨_, _, _, checked, rfl, rfl⟩ := commits
  refine ⟨rfl, ?_⟩
  intro record listed
  rw [← Option.mem_some_iff.mp listed]
  exact checked

lemma EventWrite.wrote {write : EventWrite} (commits : Commits write.tx s stored s') :
    Wrote write.event stored s.db s'.db := by
  cases write with
  | putEvent => exact mutateEvent_wrote (by rintro record ⟨⟩) commits
  | putEventAndAudit =>
    simp only [EventWrite.tx, commits_bind] at commits
    obtain ⟨given, _, checks, mutates⟩ := commits
    obtain ⟨rfl, supplies⟩ := suppliedRecord_supplies checks
    exact mutateEvent_wrote supplies mutates
  | putEventAndDisposition =>
    simp only [EventWrite.tx, commits_steps] at commits
    obtain ⟨_, _, given, _, checks, mutates⟩ := commits
    obtain ⟨rfl, supplies⟩ := suppliedRecord_supplies checks
    exact mutateEvent_wrote supplies mutates

end writes

/-! Runs of writes, each one transaction. -/

section runs

variable {F : Type} {db db' : Database F} {event stored : AlertEvent} {k : Scope × String}

/-- Every stored event is a version that the table can hold. -/
def Database.Sound (db : Database F) : Prop := ∀ v ∈ db.events, v.Kept

lemma Puts.key {events events' : Table AlertEvent AlertEvent.key} (puts : Puts event stored events events') :
    stored.key = event.key := by
  cases puts with
  | update _ _ row _ => rw [row]; rfl
  | insert _ row _ => rw [row]; rfl

section

variable (wrote : Wrote event stored db db')
include wrote

lemma Wrote.version_self : db'.events.find? event.key = some stored := by
  have key := wrote.puts.key
  cases wrote.puts with
  | update old found _ put =>
    rw [put, ← key]
    apply Table.find?_put_self
    rw [key, found]
    rfl
  | insert _ _ inserted =>
    rw [← key]
    exact Table.find?_insert?_self inserted

lemma Wrote.version_other (other : k ≠ event.key) : db'.events.find? k = db.events.find? k := by
  have key := wrote.puts.key
  rw [← key] at other
  cases wrote.puts with
  | update old found _ put =>
    rw [put]
    refine Table.find?_put_of_ne ?_ other
    rw [key, found]
    rfl
  | insert _ _ inserted => exact Table.find?_insert?_of_ne inserted other

lemma Wrote.kept (sound : db.Sound) : stored.Kept := by
  obtain ⟨_, checked, _⟩ := wrote.checked
  cases wrote.puts with
  | update old found row _ =>
    rw [found] at checked
    have member := (Table.find?_eq_some.mp found).1
    rw [row, updatedEvent_eq (sound old member) (continues_of_validated checked).1]
    exact kept_storedEvent wrote.valid
  | insert _ row _ =>
    rw [row]
    exact kept_storedEvent wrote.valid

lemma Wrote.sound (sound : db.Sound) : db'.Sound := by
  intro v member
  by_cases here : v.key = event.key
  · have read := Table.find?_of_mem member
    rw [here, wrote.version_self] at read
    rw [← Option.some.inj read]
    exact wrote.kept sound
  · have read := Table.find?_of_mem member
    rw [wrote.version_other here] at read
    exact sound v (Table.find?_eq_some.mp read).1

/-- The version after a write continues the one before it; the flag of the check says
whether the state is new. -/
lemma Wrote.follows (sound : db.Sound) :
    (∀ v, db.events.find? event.key = some v → Follows v stored) ∧
      Audits (decide ((db.events.find? event.key).map (·.state) ≠ some stored.state)) stored
        db.audits db'.audits := by
  obtain ⟨changed, checked, audits⟩ := wrote.checked
  cases wrote.puts with
  | update old found row _ =>
    rw [found] at checked
    have member := (Table.find?_eq_some.mp found).1
    obtain ⟨follows, moves⟩ := follows_of_validated (sound old member) wrote.valid checked
    rw [← row] at follows moves
    constructor
    · intro v read
      rw [found] at read
      rw [← Option.some.inj read]
      exact follows
    · rw [found]
      have same : decide (some old.state ≠ some stored.state) = changed := by
        rw [Bool.eq_iff_iff, moves, decide_eq_true_iff, Ne, Ne, Option.some.injEq, eq_comm]
      exact same ▸ audits
  | insert absent =>
    constructor
    · intro v read
      rw [absent] at read
      cases read
    · rw [absent] at checked ⊢
      have new : changed = true := by
        simp only [validateStoredEventMutation] at checked
        split at checked
        · cases checked
        split at checked
        · cases checked
        split at checked
        · cases checked
        · exact (Except.ok.inj checked).symm
      rw [new] at audits
      exact audits

end

/-- A write of any event, with what the caller supplies; one that fails changes nothing. -/
def Step [Float64 F] [TimeText] (db : Database F) (write : EventWrite) (db' : Database F) : Prop :=
  ∃ random, (perform write.tx ⟨db, random⟩).2.db = db'

variable [Float64 F] [TimeText] {write : EventWrite} {writes : List EventWrite}

lemma Step.outcome (step : Step db write db') : db' = db ∨ ∃ stored, Wrote write.event stored db db' := by
  obtain ⟨random, rfl⟩ := step
  cases done : perform write.tx (⟨db, random⟩ : Session F) with
  | mk answer =>
    cases answer with
    | ok stored => exact .inr ⟨stored, EventWrite.wrote (perform_eq_ok.mp done)⟩
    | error e =>
      left
      rw [perform_eq_error done]

lemma Step.sound (step : Step db write db') (sound : db.Sound) : db'.Sound := by
  rcases step.outcome with rfl | ⟨stored, wrote⟩
  · exact sound
  · exact wrote.sound sound

/-- What one write does to the version of an event and to the audit log. -/
structure Succession (db db' : Database F) (k : Scope × String) : Prop where
  valid : ∀ v', db'.events.find? k = some v' → v'.validate = true
  follows : ∀ v, db.events.find? k = some v → ∃ v', db'.events.find? k = some v' ∧ Follows v v'
  audited : ∀ v', db'.events.find? k = some v' → (db.events.find? k).map (·.state) ≠ some v'.state →
    ∃ record, record ∉ db.audits ∧ Describes record v' ∧ ∀ r, r ∈ db'.audits ↔ r ∈ db.audits ∨ r = record
  unaudited : (∀ k, (db'.events.find? k).map (·.state) = (db.events.find? k).map (·.state)) → db'.audits = db.audits

omit [Float64 F] [TimeText] in
lemma Follows.refl {v : AlertEvent} : Follows v v where
  id := rfl
  scope := rfl
  ruleID := rfl
  fingerprint := rfl
  firstSeen := rfl
  lastSeen := by simp [before]
  legal := fun moves => absurd rfl moves
  acknowledged := fun _ => .inr rfl

theorem stored_event_versions {db₁ db₂ : Database F} (start : db.Sound) (run : Run Step db writes db₁)
    (step : Step db₁ write db₂) (k : Scope × String) : Succession db₁ db₂ k := by
  have sound := run.invariant Database.Sound Step.sound start
  have sound' := step.sound sound
  have valid : ∀ v', db₂.events.find? k = some v' → v'.validate = true := by
    intro v' read
    exact (sound' v' (Table.find?_eq_some.mp read).1).valid
  rcases step.outcome with rfl | ⟨stored, wrote⟩
  · refine ⟨valid, fun v read => ⟨v, read, .refl⟩, ?_, fun _ => rfl⟩
    intro v' read changes
    rw [read] at changes
    exact absurd rfl changes
  obtain ⟨follows, audits⟩ := wrote.follows sound
  unfold Audits at audits
  have unaudited : (∀ k, (db₂.events.find? k).map (·.state) = (db₁.events.find? k).map (·.state)) →
      db₂.audits = db₁.audits := by
    intro same
    have still := same write.event.key
    rw [wrote.version_self] at still
    rwa [if_neg (by simpa using still.symm)] at audits
  by_cases here : k = write.event.key
  · subst here
    refine ⟨valid, fun v read => ⟨stored, wrote.version_self, follows v read⟩, ?_, unaudited⟩
    intro v' read changes
    rw [wrote.version_self] at read
    cases read
    rw [if_pos (decide_eq_true changes)] at audits
    obtain ⟨record, inserted, describes⟩ := audits
    refine ⟨record, ?_, describes, fun r => Table.mem_insert? inserted⟩
    intro listed
    exact Table.key_not_mem_of_insert? inserted listed rfl
  · refine ⟨valid, ?_, ?_, unaudited⟩
    · intro v read
      rw [wrote.version_other here]
      exact ⟨v, read, .refl⟩
    · intro v' read changes
      rw [wrote.version_other here] at read
      rw [read] at changes
      exact absurd rfl changes

/-- The database after a write that draws no identifier. -/
def afterWrite (db : Database F) (write : EventWrite) : Database F := (perform write.tx ⟨db, []⟩).2.db

lemma step_afterWrite : Step db write (afterWrite db write) := ⟨[], rfl⟩

end runs

section sample

/-- Midnight of 1 January 2026. -/
def newYear : Instant := 63902822400 * 1000000000

def minutes (n : Int) : Int := n * 60000000000

def sampleScope : Scope := ⟨"tenant", "project"⟩

def sampleRule : AlertRule Rat where
  id := "rule"
  scope := sampleScope
  name := "load"
  metric := "host.load"
  aggregation := .max
  operator := .gt
  threshold := 4
  evaluationEvery := minutes 1
  lookbackWindow := minutes 5
  forDuration := minutes 2
  missingData := .ignore
  severity := "critical"
  notificationPolicyIDs := []
  labels := []
  enabled := true

def sampleDatabase : Database Rat where
  rules := ⟨[sampleRule], by simp⟩
  events := .empty
  audits := .empty
  dispositions := .empty
  policies := .empty
  templates := .empty
  silences := .empty
  deliveries := .empty

local instance : TimeText := .ofTable [(newYear, "2026-01-01T00:00:00Z")] (by decide) (by decide)

/-- An event that was created as resolved. -/
def sampleResolved : AlertEvent where
  id := "event-1"
  scope := sampleScope
  ruleID := "rule"
  fingerprint := "fingerprint"
  labels := []
  evidence := []
  state := .resolved
  firstSeen := some newYear
  lastSeen := some newYear
  resolvedAt := some newYear
  lastActor := "system:evaluator"

def sampleReopened : AlertEvent :=
  { sampleResolved with state := .pending, lastSeen := some (newYear + minutes 1), resolvedAt := none }

def sampleWrite (id : String) (event : AlertEvent) : EventWrite :=
  .putEventAndAudit event {
    id, scope := event.scope, actor := event.lastActor, action := .event event.state, targetID := event.id
    occurredAt := event.lastSeen, details := [("state", event.state.text)] }

def resolvedDatabase : Database Rat := afterWrite sampleDatabase (sampleWrite "audit-1" sampleResolved)

def reopenedDatabase : Database Rat := afterWrite resolvedDatabase (sampleWrite "audit-2" sampleReopened)

/-- The reopening of a resolved event is committed and is not a transition. -/
theorem reopening_is_no_transition :
    Run Step sampleDatabase [sampleWrite "audit-1" sampleResolved] resolvedDatabase ∧
      Step resolvedDatabase (sampleWrite "audit-2" sampleReopened) reopenedDatabase ∧
      resolvedDatabase.events.find? sampleResolved.key = some sampleResolved ∧
      reopenedDatabase.events.find? sampleResolved.key = some sampleReopened ∧
      sampleResolved.transition .pending sampleReopened.lastSeen "system:evaluator" =
        .error .invalidEventTransition := by
  refine ⟨.single step_afterWrite, step_afterWrite, ?_, ?_, rfl⟩
  · decide +kernel
  · decide +kernel

theorem stored_event_versions_reopened :
    sampleDatabase.Sound ∧ Succession resolvedDatabase reopenedDatabase sampleResolved.key := by
  have sound : sampleDatabase.Sound := fun v member => absurd member Table.not_mem_empty
  exact ⟨sound, stored_event_versions sound (.single step_afterWrite) step_afterWrite _⟩

end sample

end DBPilot.Alerts
