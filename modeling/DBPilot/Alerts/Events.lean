import DBPilot.Alerts.Notification

/-!
# The alert store and its event transactions

The tables of the alert control plane and the transactions of
`internal/alert/postgres.go` that write events. An event is stored under its
fingerprint; its id is unique in its scope as well. A session is the database
with the random identifiers that the process will draw. `TIMESTAMPTZ` rounds the
times of a stored row.
-/

namespace DBPilot.Alerts

open Tables Transactions Text
open Jobs (timestamptz isBlank)

structure Database (F : Type) where
  rules : Table (AlertRule F) AlertRule.key
  events : Table AlertEvent AlertEvent.key
  audits : Table AuditRecord AuditRecord.key
  dispositions : Table EventDisposition EventDisposition.key
  policies : Table NotificationPolicy NotificationPolicy.key
  templates : Table NotificationTemplate NotificationTemplate.key
  silences : Table Silence Silence.key
  deliveries : Table NotificationDelivery NotificationDelivery.key

structure Session (F : Type) where
  db : Database F
  /-- The hexadecimal texts of the random bytes still to be drawn. -/
  random : List String

abbrev AlertTx (F : Type) := Tx (Session F) AlertError

variable {F : Type}

def newControlPlaneID (kind : String) : AlertTx F String := do
  match ← inspect fun s => s.random with
  | [] => attempt (.error .controlPlaneID)
  | drawn :: rest => do
    write fun s => { s with random := rest }
    return kind ++ "-" ++ drawn

def findEventByFingerprint (scope : Scope) (fingerprint : String) : AlertTx F (Option AlertEvent) := do
  require (scope.validate = true) .invalidScope
  inspect fun s => s.db.events.find? (scope, fingerprint)

/-- The row that holds an event. -/
def storedEvent (event : AlertEvent) : AlertEvent :=
  { event with
    labels := sanitizeDetails event.labels
    evidence := sanitizeDetails event.evidence
    firstSeen := event.firstSeen.map timestamptz
    lastSeen := event.lastSeen.map timestamptz
    firingAt := event.firingAt.map timestamptz
    acknowledgedAt := event.acknowledgedAt.map timestamptz
    resolvedAt := event.resolvedAt.map timestamptz }

/-- The update of a conflicting row leaves its id, its rule and its first sighting. -/
def updatedEvent (old event : AlertEvent) : AlertEvent :=
  { storedEvent event with id := old.id, ruleID := old.ruleID, firstSeen := old.firstSeen }

def putEvent (event : AlertEvent) : AlertTx F AlertEvent := do
  require (event.validate = true) .invalidEvent
  match ← inspect fun s => s.db.events.find? event.key with
  | some old => do
    write fun s => { s with db.events := s.db.events.put (updatedEvent old event) }
    return updatedEvent old event
  | none => do
    -- The foreign key to the rule and the primary key.
    let _ ← fetch (fun s => s.db.rules.find? (event.scope, event.ruleID)) .constraint
    let ids ← inspect fun s => s.db.events.rows.map fun e => (e.scope, e.id)
    require ((event.scope, event.id) ∉ ids) .constraint
    let events ← fetch (fun s => s.db.events.insert? (storedEvent event)) .constraint
    write fun s => { s with db.events := events }
    return storedEvent event

def validateStoredEventMutation (previous : Option AlertEvent) (next : AlertEvent) :
    Except AlertError Bool :=
  if isBlank next.lastActor then .error .invalidEventTransition
  else match previous with
    | none =>
      if next.state ≠ .pending ∧ next.state ≠ .resolved then .error .invalidEventTransition
      else if next.state = .resolved ∧ next.resolvedAt ≠ next.lastSeen then .error .invalidEventTransition
      else .ok true
    | some previous =>
      if previous.id ≠ next.id ∨ previous.scope ≠ next.scope ∨ previous.ruleID ≠ next.ruleID ∨
          previous.fingerprint ≠ next.fingerprint ∨ previous.firstSeen ≠ next.firstSeen ∨
          before next.lastSeen previous.lastSeen = true then .error .invalidEventTransition
      else if previous.state = next.state then
        if previous.firingAt ≠ next.firingAt ∨ previous.acknowledgedAt ≠ next.acknowledgedAt ∨
            previous.resolvedAt ≠ next.resolvedAt then .error .invalidEventTransition
        else .ok false
      else if previous.state = .resolved ∧ next.state = .pending then
        if isZero next.firingAt && isZero next.acknowledgedAt && isZero next.resolvedAt then .ok true
        else .error .invalidEventTransition
      else match previous.transition next.state next.lastSeen next.lastActor with
        | .error _ => .error .invalidEventTransition
        | .ok expected =>
          if expected.firingAt ≠ next.firingAt ∨ expected.acknowledgedAt ≠ next.acknowledgedAt ∨
              expected.resolvedAt ≠ next.resolvedAt then .error .invalidEventTransition
          else .ok true

def validateLifecycleAudit (event : AlertEvent) (record : AuditRecord) : Bool :=
  record.scope = event.scope && record.targetID = event.id && record.action = .event event.state &&
    record.actor = event.lastActor && record.occurredAt = event.lastSeen

def storedAudit (record : AuditRecord) : AuditRecord :=
  { record with occurredAt := record.occurredAt.map timestamptz }

def insertAudit (record : AuditRecord) : AlertTx F Unit := do
  let audits ← fetch (fun s => s.db.audits.insert? (storedAudit record)) .constraint
  write fun s => { s with db.audits := audits }

def insertEventDisposition (disposition : EventDisposition) : AlertTx F Unit := do
  require (disposition.validate = true) .invalidDisposition
  let events ← inspect fun s => s.db.events.rows.map fun e => (e.scope, e.id)
  require ((disposition.scope, disposition.eventID) ∈ events) .constraint
  let stored := { disposition with occurredAt := disposition.occurredAt.map timestamptz }
  let dispositions ← fetch (fun s => s.db.dispositions.insert? stored) .constraint
  write fun s => { s with db.dispositions := dispositions }

section mutation

variable [Float64 F] [TimeText]

def appendAudit (record : AuditRecord) : AlertTx F Unit := do
  require (validateAuditDetailTypes F record = true) .invalidAuditRecord
  require ((sanitizeAuditRecord F record).validate F = true) .invalidAuditRecord
  insertAudit (sanitizeAuditRecord F record)

def lifecycleAuditRecord (event : AlertEvent) (supplied : Option AuditRecord) : AlertTx F AuditRecord :=
  match supplied with
  | some record => pure { record with targetID := event.id }
  | none => do
    let id ← newControlPlaneID "audit"
    return sanitizeAuditRecord F {
      id, scope := event.scope, actor := event.lastActor, action := .event event.state
      targetID := event.id, occurredAt := event.lastSeen
      details := StringMap.set event.evidence "state" event.state.text }

/-- One record for a change of state, none otherwise. -/
def auditChange (stateChanged : Bool) (stored : AlertEvent) (supplied : Option AuditRecord) : AlertTx F Unit :=
  if stateChanged = true then do
    let record ← lifecycleAuditRecord stored supplied
    appendAudit record
  else pure ()

def recordDisposition (stateChanged : Bool) (supplied : Option EventDisposition) : AlertTx F Unit :=
  match supplied with
  | none => pure ()
  | some disposition => do
    require (stateChanged = true) .invalidDisposition
    insertEventDisposition disposition

def mutateEvent (event : AlertEvent) (suppliedAudit : Option AuditRecord)
    (suppliedDisposition : Option EventDisposition) : AlertTx F AlertEvent := do
  require (event.validate = true) .invalidEvent
  let previous ← inspect fun s => s.db.events.find? event.key
  let stateChanged ← attempt (validateStoredEventMutation previous event)
  require (suppliedAudit.isSome = true → stateChanged = true) .invalidAuditRecord
  let stored ← putEvent event
  auditChange stateChanged stored suppliedAudit
  recordDisposition stateChanged suppliedDisposition
  return stored

/-- The audit record that a caller supplies, checked and sanitized. -/
def suppliedRecord (event : AlertEvent) (record : AuditRecord) : AlertTx F AuditRecord := do
  require (event.validate = true) .invalidEvent
  require (validateAuditDetailTypes F record = true) .invalidAuditRecord
  require ((sanitizeAuditRecord F record).validate F = true) .invalidAuditRecord
  require (validateLifecycleAudit event (sanitizeAuditRecord F record) = true) .invalidAuditRecord
  return sanitizeAuditRecord F record

end mutation

/-- The writes of events: by the evaluator the first two, by operators the last. -/
inductive EventWrite where
  | putEvent (event : AlertEvent)
  | putEventAndAudit (event : AlertEvent) (record : AuditRecord)
  | putEventAndDisposition (event : AlertEvent) (record : AuditRecord) (disposition : EventDisposition)
  deriving DecidableEq

def EventWrite.event : EventWrite → AlertEvent
  | .putEvent event | .putEventAndAudit event _ | .putEventAndDisposition event _ _ => event

def wantKind (state : EventState) : EventDispositionKind :=
  if state = .resolved then .resolution else .acknowledgement

def EventWrite.tx [Float64 F] [TimeText] : EventWrite → AlertTx F AlertEvent
  | .putEvent event => mutateEvent event none none
  | .putEventAndAudit event record => do
    let supplied ← suppliedRecord event record
    mutateEvent event (some supplied) none
  | .putEventAndDisposition event record disposition => do
    require (disposition.validate = true ∧ disposition.scope = event.scope ∧ disposition.eventID = event.id ∧
      disposition.actor = event.lastActor ∧ disposition.occurredAt = event.lastSeen) .invalidDisposition
    require (disposition.kind = wantKind event.state) .invalidDisposition
    let supplied ← suppliedRecord event record
    mutateEvent event (some supplied) (some disposition)

end DBPilot.Alerts
