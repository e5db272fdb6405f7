import DBPilot.Alerts.Evaluator

/-!
# The delivery store

The transactions of `internal/alert/postgres.go` that reserve, claim and update
notification deliveries. A row has no column for the severity and the policy
version of its request, and its claim is the owner of its lease.
-/

namespace DBPilot.Alerts

open Tables Transactions
open Jobs (Instant timestamptz isBlank)

/-- The row of a delivery, as it is read back. -/
def storedDelivery (delivery : NotificationDelivery) : NotificationDelivery :=
  { delivery with
    eventState := delivery.request.state
    attemptedAt := delivery.attemptedAt.map timestamptz
    nextAttemptAt := delivery.nextAttemptAt.map timestamptz
    deliveredAt := delivery.deliveredAt.map timestamptz
    leaseExpiresAt := delivery.leaseExpiresAt.map timestamptz
    claimOwner := delivery.leaseOwner
    request := { delivery.request with
      deliveryID := delivery.id, scope := delivery.scope, eventID := delivery.eventID
      policyID := delivery.policyID, severity := "", policyVersion := "" } }

/-- `deliveryInsertSQL` inserts nothing beside a row of the same identity, or of the
identity that earlier versions gave the route. -/
def blocks (delivery existing : NotificationDelivery) : Bool :=
  existing.scope = delivery.scope &&
    (existing.idempotencyKey = delivery.idempotencyKey ||
      existing.idempotencyKey = legacyDeliveryIdempotencyKey delivery.eventID delivery.eventState
        delivery.request.channel delivery.request.templateVersion &&
      existing.policyID = delivery.policyID && existing.eventState = delivery.request.state &&
      existing.request.channel = delivery.request.channel &&
      existing.request.templateID = delivery.request.templateID &&
      existing.request.templateVersion = delivery.request.templateVersion &&
      existing.request.target = delivery.request.target &&
      existing.request.secretRef = delivery.request.secretRef)

/-- The columns that `deliveryUpdateSQL` sets. -/
def updatedDelivery (row delivery : NotificationDelivery) : NotificationDelivery :=
  { row with
    status := delivery.status
    attemptedAt := delivery.attemptedAt.map timestamptz
    nextAttemptAt := delivery.nextAttemptAt.map timestamptz
    deliveredAt := delivery.deliveredAt.map timestamptz
    leaseOwner := delivery.leaseOwner
    leaseExpiresAt := delivery.leaseExpiresAt.map timestamptz
    failureClass := delivery.failureClass
    claimOwner := delivery.leaseOwner }

def AuditAction.ofDelivery : AuditAction → Bool
  | .delivery _ => true
  | _ => false

section records

variable {F : Type} [Float64 F] [TimeText]

variable (F) in
def validateNotificationAudit (record : AuditRecord) : Bool := record.action.ofDelivery && record.validate F

def appendNotificationAudit (record : AuditRecord) : AlertTx F Unit := do
  require (validateNotificationAudit F record = true) .invalidAuditRecord
  insertAudit record

variable (F) in
/-- The checks of an audit record that comes with a delivery. -/
def describesDelivery (delivery : NotificationDelivery) (record : AuditRecord) : Bool :=
  record.scope = delivery.scope && record.targetID = delivery.id && validateNotificationAudit F record

def reserveNotificationDelivery (delivery : NotificationDelivery) (audit : Option AuditRecord) :
    AlertTx F Bool := do
  require (validateNotificationDelivery delivery = true) .invalidNotification
  require (audit.all (describesDelivery F delivery) = true) .invalidAuditRecord
  let rows ← inspect fun s => s.db.deliveries.rows
  if rows.any (blocks delivery) then return false
  else do
    let deliveries ← fetch (fun s => s.db.deliveries.insert? (storedDelivery delivery)) .constraint
    write fun s => { s with db.deliveries := deliveries }
    match audit with
    | some record => appendNotificationAudit record
    | none => pure ()
    return true

/-- The row that a worker may update: it is being attempted, under the worker's claim. -/
def attemptedRow (delivery : NotificationDelivery) (db : Database F) : Option NotificationDelivery :=
  (db.deliveries.find? delivery.key).filter fun row =>
    row.status = .attempting && row.leaseOwner = delivery.claimOwner

def updateNotificationDelivery (delivery : NotificationDelivery) (audit : AuditRecord) : AlertTx F Unit := do
  require (validateNotificationDelivery delivery = true) .invalidNotification
  require (describesDelivery F delivery audit = true) .invalidAuditRecord
  let row ← fetch (fun s => attemptedRow delivery s.db) .notFound
  write fun s => { s with db.deliveries := s.db.deliveries.put (updatedDelivery row delivery) }
  appendNotificationAudit audit

end records

/-! Claims. -/

/-- `Truncate(time.Microsecond)`. -/
def truncateMicrosecond (t : Instant) : Instant := t - t % 1000

/-- A retry whose time has come, or an attempt whose lease has expired. -/
def claimable (now : Instant) (row : NotificationDelivery) : Bool :=
  (row.status = .retryScheduled && row.nextAttemptAt.any (· ≤ timestamptz now) ||
    row.status = .attempting && row.leaseExpiresAt.any (· ≤ timestamptz now)) &&
  row.idempotencyKey != "" && row.request.channel != "" && row.request.templateID != "" &&
  row.request.templateVersion != "" && 1 ≤ row.attempts

/-- `ORDER BY COALESCE(next_attempt_at, lease_expires_at), attempted_at`. -/
def claimedFirst (a b : NotificationDelivery) : Bool :=
  let due (row : NotificationDelivery) : Time := row.nextAttemptAt <|> row.leaseExpiresAt
  before (due a) (due b) || !before (due b) (due a) && !before b.attemptedAt a.attemptedAt

/-- What the other transactions of the database do to a claim: the rows they lock, which
it skips, and the order of rows that are due alike. -/
structure Contention where
  locked : NotificationDelivery → Bool
  order : Visit NotificationDelivery

def claimCandidates (now : Instant) (limit : Nat) (contention : Contention)
    (rows : List NotificationDelivery) : List NotificationDelivery :=
  let free := rows.filter fun row => claimable now row && !contention.locked row
  ((contention.order.order free).insertionSort fun a b => claimedFirst a b = true).take limit

def claimRow (now : Instant) (owner : String) (leaseUntil : Instant) : Rewrite NotificationDelivery.key where
  apply row := { row with
    status := .attempting, attempts := row.attempts + 1, attemptedAt := some (timestamptz now)
    nextAttemptAt := none, leaseOwner := owner, leaseExpiresAt := some (timestamptz leaseUntil)
    claimOwner := owner }
  keeps _ := rfl

def scanNotificationDelivery (row : NotificationDelivery) : Except AlertError NotificationDelivery :=
  if validateNotificationDelivery row then .ok row else .error .invalidNotification

def scanClaimed (owner : String) (leaseUntil : Instant) :
    List NotificationDelivery → Except AlertError (List NotificationDelivery)
  | [] => .ok []
  | row :: rows => do
    let delivery ← scanNotificationDelivery row
    if delivery.status ≠ .attempting ∨ delivery.leaseOwner ≠ owner ∨
        delivery.leaseExpiresAt ≠ some leaseUntil then .error .invalidNotification
    else return delivery :: (← scanClaimed owner leaseUntil rows)

/-- `ClaimDueNotificationDeliveries`: the statement commits its claims by itself, also
when a row that it returns is refused. -/
def claimDueNotificationDeliveries {F : Type} (now : Instant) (owner : String) (leaseUntil : Instant)
    (limit : Nat) (contention : Contention) :
    AlertTx F (Except AlertError (List NotificationDelivery)) := do
  require (now ≠ 0 ∧ leaseUntil ≠ 0 ∧ now < leaseUntil ∧ isBlank owner = false) .invalidNotification
  let limit := if limit = 0 ∨ 500 < limit then 100 else limit
  let leaseUntil := truncateMicrosecond leaseUntil
  let keys ← inspect fun s =>
    (claimCandidates now limit contention s.db.deliveries.rows).map NotificationDelivery.key
  write fun s => { s with
    db.deliveries := s.db.deliveries.update (fun row => keys.contains row.key) (claimRow now owner leaseUntil) }
  inspect fun s => scanClaimed owner leaseUntil
    ((s.db.deliveries.rows.filter fun row => keys.contains row.key).insertionSort fun a b => a.id ≤ b.id)

/-! What the transactions commit. -/

section commits

variable {F : Type} {s s' : Session F} {delivery : NotificationDelivery}

/-- A claim takes rows that are due, and reads back what it has made of them. -/
structure Claims (now : Instant) (owner : String) (leaseUntil : Instant) (db db' : Database F)
    (scanned : Except AlertError (List NotificationDelivery)) (keys : List (Scope × String)) : Prop where
  due : ∀ k ∈ keys, ∃ row, db.deliveries.find? k = some row ∧ claimable now row = true
  claimed : db'.deliveries = db.deliveries.update (fun row => keys.contains row.key) (claimRow now owner leaseUntil)
  scans : ∀ rows, scanned = .ok rows → ∀ row ∈ rows, row.key ∈ keys ∧ db'.deliveries.find? row.key = some row ∧
    validateNotificationDelivery row = true

lemma scanClaimed_eq_ok {owner : String} {leaseUntil : Instant} {rows scanned : List NotificationDelivery}
    (ok : scanClaimed owner leaseUntil rows = .ok scanned) :
    ∀ row ∈ scanned, row ∈ rows ∧ validateNotificationDelivery row = true := by
  induction rows generalizing scanned with
  | nil =>
    cases ok
    simp
  | cons row rows ih =>
    simp only [scanClaimed, bind_eq_ok, scanNotificationDelivery] at ok
    obtain ⟨first, valid, rest⟩ := ok
    split at valid
    · rename_i checked
      cases valid
      split at rest
      · cases rest
      · obtain ⟨others, more, done⟩ := bind_eq_ok.mp rest
        cases done
        intro r listed
        rcases List.mem_cons.mp listed with rfl | listed
        · exact ⟨List.mem_cons_self, checked⟩
        · exact ⟨List.mem_cons_of_mem _ (ih more r listed).1, (ih more r listed).2⟩
    · cases valid

lemma claimCandidates_claimable {now : Instant} {limit : Nat} {contention : Contention}
    {rows : List NotificationDelivery} {row : NotificationDelivery}
    (listed : row ∈ claimCandidates now limit contention rows) : row ∈ rows ∧ claimable now row = true := by
  have sorted := (List.mem_insertionSort _).mp (List.mem_of_mem_take listed)
  have free := List.mem_filter.mp ((contention.order.perm _).mem_iff.mp sorted)
  simp only [Bool.and_eq_true] at free
  exact ⟨free.1, free.2.1⟩

lemma claimDueNotificationDeliveries_claims {now leaseUntil : Instant} {owner : String} {limit : Nat}
    {contention : Contention} {scanned : Except AlertError (List NotificationDelivery)}
    (commits : Commits (claimDueNotificationDeliveries now owner leaseUntil limit contention) s scanned s') :
    ∃ keys, Claims now owner (truncateMicrosecond leaseUntil) s.db s'.db scanned keys := by
  simp only [claimDueNotificationDeliveries, commits_steps] at commits
  obtain ⟨_, scans, rfl⟩ := commits
  refine ⟨_, ?_, rfl, ?_⟩
  · intro k listed
    obtain ⟨row, candidate, rfl⟩ := List.mem_map.mp listed
    obtain ⟨member, due⟩ := claimCandidates_claimable candidate
    exact ⟨row, Table.find?_of_mem member, due⟩
  · rintro rows rfl row listed
    obtain ⟨sorted, valid⟩ := scanClaimed_eq_ok scans row listed
    obtain ⟨member, mine⟩ := List.mem_filter.mp ((List.mem_insertionSort _).mp sorted)
    exact ⟨by simpa using mine, Table.find?_of_mem member, valid⟩

variable [Float64 F] [TimeText]

lemma appendNotificationAudit_frame {record : AuditRecord} {u : Unit}
    (commits : Commits (appendNotificationAudit record) s u s') : s'.db.deliveries = s.db.deliveries := by
  simp only [appendNotificationAudit, insertAudit, commits_steps] at commits
  obtain ⟨_, _, _, rfl⟩ := commits
  rfl

/-- A reservation adds its row unless one blocks it. -/
lemma reserveNotificationDelivery_cases {audit : Option AuditRecord} {reserved : Bool}
    (commits : Commits (reserveNotificationDelivery delivery audit) s reserved s') :
    reserved = false ∧ s' = s ∨
      reserved = true ∧ s.db.deliveries.insert? (storedDelivery delivery) = some s'.db.deliveries := by
  simp only [reserveNotificationDelivery, commits_steps] at commits
  obtain ⟨_, _, rest⟩ := commits
  split at rest
  · obtain ⟨rfl, rfl⟩ := commits_pure.mp rest
    exact .inl ⟨rfl, rfl⟩
  · simp only [commits_steps] at rest
    obtain ⟨deliveries, inserted, audited⟩ := rest
    cases audit with
    | none =>
      obtain ⟨rfl, rfl⟩ := commits_pure.mp audited
      exact .inr ⟨rfl, inserted⟩
    | some =>
      simp only [commits_steps] at audited
      obtain ⟨_, _, appended, rfl, rfl⟩ := audited
      refine .inr ⟨rfl, ?_⟩
      rw [appendNotificationAudit_frame appended]
      exact inserted

/-- An update is made on the worker's own claim. -/
structure Updates (delivery : NotificationDelivery) (db db' : Database F) (row : NotificationDelivery) : Prop where
  found : db.deliveries.find? delivery.key = some row
  attempting : row.status = .attempting
  owner : row.leaseOwner = delivery.claimOwner
  put : db'.deliveries = db.deliveries.put (updatedDelivery row delivery)

lemma updateNotificationDelivery_updates {audit : AuditRecord} {u : Unit}
    (commits : Commits (updateNotificationDelivery delivery audit) s u s') :
    ∃ row, Updates delivery s.db s'.db row := by
  simp only [updateNotificationDelivery, commits_steps] at commits
  obtain ⟨_, _, row, fetched, audited⟩ := commits
  obtain ⟨found, mine⟩ := Option.filter_eq_some_iff.mp fetched
  simp only [Bool.and_eq_true, decide_eq_true_eq] at mine
  exact ⟨row, found, mine.1, mine.2, appendNotificationAudit_frame audited⟩

end commits

end DBPilot.Alerts
