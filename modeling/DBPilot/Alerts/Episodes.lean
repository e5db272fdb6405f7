import DBPilot.Alerts.Attempts
import DBPilot.Alerts.Waiting

/-!
# Firing episodes and their deliveries

Every pass of `evaluateAndDispatch` dispatches all events of a scope again, and
only the identity of a delivery keeps it from being made twice. That identity is
made of the event, its state, the channel and the versions of the policy and the
template: it does not tell one firing episode of an event from the next.
-/

namespace DBPilot.Alerts

open Tables Transactions Runs
open Jobs (Instant isBlank)

/-! What a dispatcher records passes the checks of the store. -/

/-- The part of the check that an attempt does not change. -/
def validIdentity (delivery : NotificationDelivery) : Bool :=
  delivery.scope.validate && !isBlank delivery.id && delivery.id = delivery.idempotencyKey &&
    !isBlank delivery.eventID && !isBlank delivery.policyID && 1 ≤ delivery.attempts &&
    !isZero delivery.attemptedAt &&
    delivery.request.scope = delivery.scope && delivery.request.eventID = delivery.eventID &&
    delivery.request.policyID = delivery.policyID && delivery.request.channel != "" &&
    delivery.request.templateID != "" && delivery.request.templateVersion != "" &&
    (if delivery.request.channel = "in_app" then delivery.request.secretRef = ""
      else (delivery.request.channel = "smtp" || delivery.request.channel = "webhook") &&
        validateSecretReference delivery.request.secretRef) &&
    !containsSecretMaterial delivery.request.target && !containsSecretMaterial delivery.request.subject &&
    !containsSecretMaterial delivery.request.body &&
    (delivery.request.labels.all fun (key, value) =>
      !isBlank key && !sensitiveField key && !containsSecretMaterial value)

/-- The part that is about the attempt. -/
def validProgress (delivery : NotificationDelivery) : Bool :=
  !(delivery.status = .retryScheduled && isZero delivery.nextAttemptAt) &&
    !(delivery.status = .attempting && (delivery.leaseOwner = "" || isZero delivery.leaseExpiresAt)) &&
    (delivery.failureClass = "" || sanitizeFailureClass delivery.failureClass = delivery.failureClass)

lemma validateNotificationDelivery_eq {delivery : NotificationDelivery} :
    validateNotificationDelivery delivery = (validIdentity delivery && validProgress delivery) := by
  simp only [validateNotificationDelivery, validIdentity, validProgress, Bool.and_assoc]

section checks

variable {delivery final : NotificationDelivery} {action : DeliveryAction} {now : Instant}
  {answer : Option ChannelError}

/-- What an attempt at a valid delivery records is valid. -/
lemma attemptOutcome_valid (valid : validateNotificationDelivery delivery = true)
    (recorded : attemptOutcome delivery now answer = some (final, action)) :
    validateNotificationDelivery final = true := by
  rw [validateNotificationDelivery_eq, Bool.and_eq_true] at valid ⊢
  have identity : validIdentity delivery = true := valid.1
  rcases answer with _ | failure
  · cases recorded
    exact ⟨identity, by simp [validProgress]⟩
  have kept : sanitizeFailureClass (deliveryErrorClass failure) = deliveryErrorClass failure := by
    cases failure with
    | delivery => exact sanitizeFailureClass_twice
    | other => exact sanitizeFailureClass_of_plain (List.all_eq_true.mp (by decide)) (by decide) (by decide)
  simp only [attemptOutcome] at recorded
  split at recorded
  · obtain ⟨delay, _, same⟩ := Option.map_eq_some_iff.mp recorded
    cases same
    exact ⟨identity, by simp [validProgress, isZero, kept]⟩
  · cases recorded
    exact ⟨identity, by simp [validProgress, kept]⟩

lemma attemptOutcome_attempts (recorded : attemptOutcome delivery now answer = some (final, action)) :
    final.attempts = delivery.attempts := by
  rcases answer with _ | failure
  · cases recorded
    rfl
  simp only [attemptOutcome] at recorded
  split at recorded
  · obtain ⟨delay, _, same⟩ := Option.map_eq_some_iff.mp recorded
    cases same
    rfl
  · cases recorded
    rfl

lemma named_of_valid (valid : validateNotificationDelivery delivery = true) :
    delivery.scope.validate = true ∧ isBlank delivery.id = false ∧ delivery.id = delivery.idempotencyKey := by
  simp only [validateNotificationDelivery, Bool.and_assoc, Bool.and_eq_true, decide_eq_true_eq, Bool.not_eq_true'] at valid
  obtain ⟨scope, id, key, _⟩ := valid
  exact ⟨scope, id, key⟩

variable (F : Type) [Float64 F] [TimeText]

/-- A detail of such characters under a known key. -/
lemma allowedAuditDetail_of_plain {key value : String} (named : sensitiveField key = false)
    (plain : ∀ c ∈ value.toList, isClassChar c = true) (allowed : allowedDeliveryDetail key value = true) :
    allowedAuditDetail F (.delivery action) key value = true := by
  simp only [allowedAuditDetail, named, not_containsSecretMaterial plain, allowed]
  rfl

lemma allowedAuditDetail_status (status : DeliveryStatus) :
    allowedAuditDetail F (.delivery action) "status" status.text = true := by
  refine allowedAuditDetail_of_plain F (by decide +kernel) ?_ ?_
  · cases status <;> exact List.all_eq_true.mp (by decide)
  · cases status <;> rfl

lemma allowedAuditDetail_channel (valid : validIdentity delivery = true) :
    allowedAuditDetail F (.delivery action) "channel" delivery.request.channel = true := by
  have known : delivery.request.channel = "in_app" ∨ delivery.request.channel = "smtp" ∨
      delivery.request.channel = "webhook" := by
    simp only [validIdentity, Bool.and_eq_true] at valid
    have channel := valid.1.1.1.1.2
    split at channel
    · exact .inl ‹_›
    · simp only [Bool.or_eq_true, decide_eq_true_eq, Bool.and_eq_true] at channel
      exact .inr channel.1
  refine allowedAuditDetail_of_plain F (by decide +kernel) ?_ ?_
  · rcases known with same | same | same <;> rw [same] <;> exact List.all_eq_true.mp (by decide)
  · rcases known with same | same | same <;> rw [same] <;> decide +kernel

lemma allowedAuditDetail_failureClass (value : String) :
    allowedAuditDetail F (.delivery action) "failure_class" (sanitizeFailureClass value) = true := by
  refine allowedAuditDetail_of_plain F (by decide +kernel) sanitizeFailureClass_plain.1 ?_
  simp only [allowedDeliveryDetail, sanitizeFailureClass_twice, decide_true]

/-- The audit record of a first attempt is one that the store accepts. -/
lemma notificationAudit_valid (action : DeliveryAction) (now : Instant)
    (valid : validateNotificationDelivery delivery = true) (first : delivery.attempts = 1) :
    describesDelivery F delivery (notificationAudit delivery action now) = true := by
  obtain ⟨scope, id, _⟩ := named_of_valid valid
  rw [validateNotificationDelivery_eq, Bool.and_eq_true] at valid
  have named : isBlank (notificationAuditID delivery action) = false := by
    simp only [notificationAuditID, isBlank, String.toList_append, List.all_append]
    rfl
  have attempt : allowedAuditDetail F (.delivery action) "attempt" (toString delivery.attempts) = true := by
    rw [first]
    exact allowedAuditDetail_of_plain F (by decide +kernel) (List.all_eq_true.mp (by decide)) (by decide)
  have details : (notificationAudit delivery action now).details.all (fun (key, value) =>
      allowedAuditDetail F (.delivery action) key value) = true := by
    simp only [notificationAudit, List.all_append, List.all_cons, List.all_nil, Bool.and_true, Bool.and_eq_true]
    refine ⟨⟨allowedAuditDetail_status F _, allowedAuditDetail_channel F valid.1, attempt⟩, ?_⟩
    split
    · rfl
    · simpa using allowedAuditDetail_failureClass F delivery.failureClass
  have actor : isBlank "dbpilot-notification-dispatcher" = false := by decide
  have valid : (notificationAudit delivery action now).validate F = true := by
    simp only [AuditRecord.validate, Bool.and_eq_true]
    refine ⟨⟨⟨⟨⟨scope, ?_⟩, ?_⟩, ?_⟩, rfl⟩, details⟩
    · simp [notificationAudit, named]
    · simp [notificationAudit, actor]
    · simp [notificationAudit, id]
  simp only [describesDelivery, validateNotificationAudit, valid]
  simp [notificationAudit, AuditAction.ofDelivery]

end checks

/-! One route. -/

/-- What decides whether a row blocks a delivery. -/
def NotificationDelivery.identity (row : NotificationDelivery) :
    (Scope × String) × String × String × String × EventState × DeliveryRequest :=
  (row.key, row.idempotencyKey, row.eventID, row.policyID, row.eventState, row.request)

variable {d : NotificationDelivery}

section routes

variable {F : Type} {db db' db'' : Database F} {delivery final row row' : NotificationDelivery}
  {action : DeliveryAction} {now : Instant}

lemma blocks_congr (same : row.identity = row'.identity) : blocks delivery row = blocks delivery row' := by
  simp only [NotificationDelivery.identity, NotificationDelivery.key, Prod.mk.injEq] at same
  obtain ⟨⟨scope, _⟩, key, _, policy, state, request⟩ := same
  simp only [blocks, scope, key, policy, state, request]

/-- Rows are stored under their identity. -/
def Database.Keyed (db : Database F) : Prop := ∀ row ∈ db.deliveries, row.id = row.idempotencyKey

def Database.Unblocked (db : Database F) (delivery : NotificationDelivery) : Prop :=
  ∀ row ∈ db.deliveries, blocks delivery row = false

/-- No record tells yet what may become of a delivery. -/
def Database.Untold (db : Database F) (delivery : NotificationDelivery) : Prop :=
  ∀ action, db.audits.find? (delivery.scope, notificationAuditID delivery action) = none

lemma blocks_of_key (valid : validateNotificationDelivery delivery = true) (keyed : row.id = row.idempotencyKey)
    (same : row.key = delivery.key) : blocks delivery row = true := by
  obtain ⟨_, _, named⟩ := named_of_valid valid
  simp only [NotificationDelivery.key, Prod.mk.injEq] at same
  have identity : row.idempotencyKey = delivery.idempotencyKey := by rw [← keyed, same.2, named]
  simp [blocks, same.1, identity]

lemma find?_of_unblocked (valid : validateNotificationDelivery delivery = true) (keyed : db.Keyed)
    (free : db.Unblocked delivery) : db.deliveries.find? delivery.key = none := by
  rw [Option.eq_none_iff_forall_not_mem]
  intro row listed
  obtain ⟨member, same⟩ := Table.find?_eq_some.mp listed
  have blocked := blocks_of_key valid (keyed row member) same
  rw [free row member] at blocked
  cases blocked

/-- A delivery is added: its row, and records about it. -/
structure Adds (delivery : NotificationDelivery) (db db' : Database F) : Prop where
  rows : ∃ new, new.identity = (storedDelivery delivery).identity ∧
    ∀ r, r ∈ db'.deliveries ↔ r ∈ db.deliveries ∨ r = new
  audits : ∀ k, db.audits.find? k = none → (∀ action, k ≠ (delivery.scope, notificationAuditID delivery action)) →
    db'.audits.find? k = none

lemma commits_insertAudit {record : AuditRecord} (untold : db.audits.find? record.key = none) :
    ∃ s', Commits (insertAudit record) ⟨db, []⟩ () s' ∧ s'.db.deliveries = db.deliveries ∧
      ∀ k, db.audits.find? k = none → k ≠ record.key → s'.db.audits.find? k = none := by
  obtain ⟨audits, inserted⟩ := Table.exists_insert? (r := storedAudit record) untold
  refine ⟨⟨{ db with audits }, []⟩, ?_, rfl, ?_⟩
  · simp only [insertAudit, commits_bind, commits_fetch, commits_write]
    exact ⟨audits, _, ⟨inserted, rfl⟩, rfl⟩
  · intro k absent other
    rw [← absent]
    exact Table.find?_insert?_of_ne inserted other

lemma call_of_commits {α : Type} {tx : AlertTx F α} {a : α} {s' : Session F} (commits : Commits tx ⟨db, []⟩ a s') :
    call tx db = (s'.db, .ok a) := by
  unfold call
  rw [commits]

variable [Float64 F] [TimeText] {audit : Option AuditRecord}

lemma commits_appendNotificationAudit (db : Database F) {record : AuditRecord} (valid : validateNotificationAudit F record = true)
    (untold : db.audits.find? record.key = none) :
    ∃ s', Commits (appendNotificationAudit record) ⟨db, []⟩ () s' ∧ s'.db.deliveries = db.deliveries ∧
      ∀ k, db.audits.find? k = none → k ≠ record.key → s'.db.audits.find? k = none := by
  obtain ⟨s', commits, rest⟩ := commits_insertAudit untold
  refine ⟨s', ?_, rest⟩
  simp only [appendNotificationAudit, commits_bind, commits_require]
  exact ⟨(), _, ⟨valid, rfl⟩, commits⟩

/-- A row that blocks a delivery leaves everything as it is. -/
lemma reserve_blocked (valid : validateNotificationDelivery delivery = true)
    (described : audit.all (describesDelivery F delivery) = true) (blocked : ¬ db.Unblocked delivery) :
    call (reserveNotificationDelivery delivery audit) db = (db, .ok false) := by
  suffices commits : Commits (reserveNotificationDelivery delivery audit) ⟨db, []⟩ false ⟨db, []⟩ from
    call_of_commits commits
  have found : db.deliveries.rows.any (blocks delivery) = true := by
    simp only [Database.Unblocked, not_forall, Bool.not_eq_false] at blocked
    obtain ⟨row, member, blocks⟩ := blocked
    exact List.any_eq_true.mpr ⟨row, member, blocks⟩
  simp only [reserveNotificationDelivery, commits_bind, commits_require, commits_inspect]
  refine ⟨(), _, ⟨valid, rfl⟩, (), _, ⟨described, rfl⟩, _, _, ⟨rfl, rfl⟩, ?_⟩
  rw [if_pos found]
  exact commits_pure.mpr ⟨rfl, rfl⟩

/-- Otherwise its row is inserted, and its record. -/
lemma reserve_free (valid : validateNotificationDelivery delivery = true) (keyed : db.Keyed)
    (free : db.Unblocked delivery) (described : audit.all (describesDelivery F delivery) = true)
    (untold : ∀ record, audit = some record → db.audits.find? record.key = none) :
    ∃ db', call (reserveNotificationDelivery delivery audit) db = (db', .ok true) ∧
      db.deliveries.insert? (storedDelivery delivery) = some db'.deliveries ∧
      ∀ k, db.audits.find? k = none → (∀ record, audit = some record → k ≠ record.key) →
        db'.audits.find? k = none := by
  have absent := find?_of_unblocked valid keyed free
  obtain ⟨deliveries, inserted⟩ := Table.exists_insert? (r := storedDelivery delivery) absent
  have clear : ¬ db.deliveries.rows.any (blocks delivery) = true := by
    rw [List.any_eq_true]
    rintro ⟨row, member, blocks⟩
    rw [free row member] at blocks
    cases blocks
  have commits : ∀ s', (audit = none → s' = ⟨{ db with deliveries }, []⟩) →
      (∀ record, audit = some record → Commits (appendNotificationAudit record) ⟨{ db with deliveries }, []⟩ () s') →
      Commits (reserveNotificationDelivery delivery audit) ⟨db, []⟩ true s' := by
    intro s' unaudited audited
    simp only [reserveNotificationDelivery, commits_bind, commits_require, commits_inspect]
    refine ⟨(), _, ⟨valid, rfl⟩, (), _, ⟨described, rfl⟩, _, _, ⟨rfl, rfl⟩, ?_⟩
    rw [if_neg clear]
    simp only [commits_bind, commits_fetch, commits_write]
    refine ⟨deliveries, _, ⟨inserted, rfl⟩, (), _, rfl, ?_⟩
    cases audit with
    | none =>
      rw [unaudited rfl]
      exact commits_pure.mpr ⟨rfl, rfl⟩
    | some record => exact commits_bind.mpr ⟨(), s', audited record rfl, commits_pure.mpr ⟨rfl, rfl⟩⟩
  rcases audit with _ | record
  · refine ⟨{ db with deliveries }, call_of_commits (commits _ (fun _ => rfl) (by rintro _ ⟨⟩)), inserted, ?_⟩
    intro k absent _
    exact absent
  have checked : validateNotificationAudit F record = true := by
    simp only [Option.all_some, describesDelivery, Bool.and_eq_true] at described
    exact described.2
  obtain ⟨s', appended, rows, audits⟩ :=
    commits_appendNotificationAudit { db with deliveries } checked (untold record rfl)
  refine ⟨s'.db, call_of_commits (commits s' (by rintro ⟨⟩) ?_), by rw [rows]; exact inserted, ?_⟩
  · rintro _ ⟨⟩
    exact appended
  · intro k absent other
    exact audits k absent (other record rfl)

/-- The end of an attempt under the worker's own claim. -/
lemma record_done (now : Instant) (valid : validateNotificationDelivery final = true) (first : final.attempts = 1)
    (found : db.deliveries.find? final.key = some row) (attempting : row.status = .attempting)
    (owner : row.leaseOwner = final.claimOwner)
    (untold : db.audits.find? (final.scope, notificationAuditID final action) = none) :
    ∃ db', record final action now db = (db', .ok ()) ∧ Updates final db db' row ∧
      ∀ k, db.audits.find? k = none → k ≠ (final.scope, notificationAuditID final action) →
        db'.audits.find? k = none := by
  have described := notificationAudit_valid F action now valid first
  have checked : validateNotificationAudit F (notificationAudit final action now) = true := by
    simp only [describesDelivery, Bool.and_eq_true] at described
    exact described.2
  obtain ⟨s', appended, rows, audits⟩ := commits_appendNotificationAudit
    { db with deliveries := db.deliveries.put (updatedDelivery row final) } checked untold
  refine ⟨s'.db, call_of_commits ?_, ⟨found, attempting, owner, rows⟩, audits⟩
  simp only [updateNotificationDelivery, commits_bind, commits_require, commits_fetch, commits_write]
  refine ⟨(), _, ⟨valid, rfl⟩, (), _, ⟨described, rfl⟩, row, _, ⟨?_, rfl⟩, (), _, rfl, appended⟩
  simp [attemptedRow, found, attempting, owner]

lemma reserveThen_reserved {reserved : Bool} {next : Database F → Database F × Except DispatchError Unit}
    (reserve : call (reserveNotificationDelivery delivery audit) db = (db', .ok reserved)) :
    reserveThen delivery audit next db = if reserved then next db' else (db', .ok ()) := by
  unfold reserveThen
  rw [reserve]
  cases reserved <;> rfl

/-- A reservation and the end of its attempt. -/
lemma reserveThen_record (valid : validateNotificationDelivery delivery = true) (keyed : db.Keyed)
    (free : db.Unblocked delivery) (untold : db.Untold delivery) (attempting : delivery.status = .attempting)
    (owner : delivery.leaseOwner = delivery.claimOwner) (same : final.key = delivery.key)
    (claimed : final.claimOwner = delivery.claimOwner) (first : final.attempts = 1)
    (counted : delivery.attempts = 1) (ends : validateNotificationDelivery final = true) :
    ∃ db', reserveThen delivery none (record final action now) db = (db', .ok ()) ∧ Adds delivery db db' := by
  obtain ⟨db₁, reserved, inserted, audits⟩ :=
    @reserve_free _ db delivery _ _ none valid keyed free rfl (by simp)
  have found : db₁.deliveries.find? final.key = some (storedDelivery delivery) := by
    rw [same]
    exact Table.find?_insert?_self inserted
  have told : (final.scope, notificationAuditID final action) =
      (delivery.scope, notificationAuditID delivery action) := by
    simp only [NotificationDelivery.key, Prod.mk.injEq] at same
    simp only [notificationAuditID, same, first, counted]
  have untold₁ : db₁.audits.find? (final.scope, notificationAuditID final action) = none := by
    rw [told]
    exact audits _ (untold action) (by simp)
  obtain ⟨db', recorded, updates, audits'⟩ := record_done now ends first found attempting
    (owner.trans claimed.symm) untold₁
  have present : (db₁.deliveries.find? (updatedDelivery (storedDelivery delivery) final).key).isSome = true := by
    rw [same] at found
    exact Option.isSome_of_eq_some found
  refine ⟨db', (reserveThen_reserved reserved).trans recorded,
    ⟨updatedDelivery (storedDelivery delivery) final, rfl, ?_⟩, ?_⟩
  · intro r
    rw [updates.put, Table.mem_put present, Table.mem_insert? inserted]
    constructor
    · rintro (new | ⟨old | rfl, other⟩)
      · exact .inr new
      · exact .inl old
      · exact absurd rfl other
    · rintro (old | new)
      · have other : r.key ≠ (storedDelivery delivery).key := Table.key_not_mem_of_insert? inserted old
        exact .inr ⟨.inl old, other⟩
      · exact .inl new
  · intro k absent other
    refine audits' k (audits k absent (by simp)) ?_
    rw [told]
    exact other action

/-- A plan as `Dispatch` makes it. -/
inductive Plan.Made : Plan → Prop
  | skip : Made .skip
  | suppress {d : NotificationDelivery} (first : d.attempts = 1) : Made (.suppress d)
  | misconfigured {d : NotificationDelivery} {failureClass : String} (first : d.attempts = 1)
      (attempting : d.status = .attempting) (owner : d.leaseOwner = d.claimOwner)
      (kept : sanitizeFailureClass failureClass = failureClass) : Made (.misconfigured d failureClass)
  | attempt {d : NotificationDelivery} (first : d.attempts = 1) (attempting : d.status = .attempting)
      (owner : d.leaseOwner = d.claimOwner) : Made (.attempt d)

variable {dispatcher : Dispatcher} {rule : AlertRule F} {silences : List Silence} {event : AlertEvent}
  {state : EventState} {route : NotificationRoute} {answer : DeliveryRequest → Option ChannelError} {plan : Plan}

omit [Float64 F] in
lemma plan_made : (dispatcher.plan rule silences event state now route).Made := by
  have misconfigured {failureClass : String} (kept : sanitizeFailureClass failureClass = failureClass) :
      (dispatcher.misconfigured route event state now failureClass).Made := .misconfigured rfl rfl rfl kept
  unfold Dispatcher.plan
  split
  · exact .skip
  split
  · exact .suppress rfl
  split
  · exact misconfigured (by decide +kernel)
  split
  · exact misconfigured (by decide +kernel)
  · split
    · exact misconfigured (by decide +kernel)
    · split
      · exact misconfigured (by decide +kernel)
      · exact .attempt rfl rfl rfl

lemma execute_idle (made : plan.Made) (asks : plan.reservation now = none) :
    plan.execute now answer db = (db, .ok ()) := by
  cases made with
  | skip => rfl
  | suppress | misconfigured | attempt => cases asks

lemma execute_blocked (made : plan.Made) (asks : plan.reservation now = some (delivery, audit))
    (valid : validateNotificationDelivery delivery = true) (blocked : ¬ db.Unblocked delivery) :
    plan.execute now answer db = (db, .ok ()) := by
  cases made with
  | skip => cases asks
  | suppress first =>
    cases asks
    have described : Option.all (describesDelivery F delivery) (some _) = true :=
      notificationAudit_valid F .suppressed now valid first
    exact reserveThen_reserved (reserve_blocked valid described blocked)
  | misconfigured | attempt =>
    cases asks
    exact reserveThen_reserved (reserve_blocked valid rfl blocked)

lemma execute_free (made : plan.Made) (asks : plan.reservation now = some (delivery, audit))
    (valid : validateNotificationDelivery delivery = true) (keyed : db.Keyed) (free : db.Unblocked delivery)
    (untold : db.Untold delivery) :
    ∃ db', plan.execute now answer db = (db', .ok ()) ∧ Adds delivery db db' := by
  cases made with
  | skip => cases asks
  | suppress first =>
    cases asks
    have described : Option.all (describesDelivery F delivery) (some _) = true :=
      notificationAudit_valid F .suppressed now valid first
    obtain ⟨db', reserved, inserted, audits⟩ := reserve_free valid keyed free described
      (by rintro record ⟨⟩; exact untold .suppressed)
    refine ⟨db', reserveThen_reserved reserved, ⟨_, rfl, fun r => Table.mem_insert? inserted⟩, ?_⟩
    intro k absent other
    exact audits k absent (by rintro record ⟨⟩; exact other .suppressed)
  | @misconfigured _ failureClass first attempting owner kept =>
    cases asks
    refine reserveThen_record valid keyed free untold attempting owner rfl rfl first first ?_
    rw [validateNotificationDelivery_eq, Bool.and_eq_true] at valid ⊢
    exact ⟨valid.1, by simp [validProgress, kept]⟩
  | attempt first attempting owner =>
    cases asks
    have some : attemptOutcome delivery now (answer delivery.request) ≠ none := attemptOutcome_ne_none (by omega)
    obtain ⟨⟨final, action⟩, recorded⟩ := Option.ne_none_iff_exists'.mp some
    have outcome := attemptOutcome_outcome recorded
    have finishes : finishAttempt delivery now (answer delivery.request) = record (F := F) final action now := by
      funext db
      unfold finishAttempt
      rw [recorded]
    simp only [Plan.execute, finishes]
    exact reserveThen_record valid keyed free untold attempting owner outcome.key outcome.owner
      ((attemptOutcome_attempts recorded).trans first) first (attemptOutcome_valid valid recorded)

omit [Float64 F] in
/-- What the dispatcher asks the store for about an event. -/
def Dispatcher.asked (dispatcher : Dispatcher) (rule : AlertRule F) (silences : List Silence) (event : AlertEvent)
    (state : EventState) (now : Instant) (routes : List NotificationRoute) : List NotificationDelivery :=
  routes.filterMap fun route =>
    ((dispatcher.plan rule silences event state now route).reservation now).map Prod.fst

/-- Two deliveries that do not stand in each other's way. -/
structure Apart (d d' : NotificationDelivery) : Prop where
  rows : blocks d' (storedDelivery d) = false
  records : ∀ action action', (d.scope, notificationAuditID d action) ≠ (d'.scope, notificationAuditID d' action')

/-- The deliveries that no row blocks are added, and no others. -/
structure Reserves (asked : List NotificationDelivery) (db db' : Database F) : Prop where
  kept : ∀ r ∈ db.deliveries, r ∈ db'.deliveries
  made : ∀ d ∈ asked, db.Unblocked d → ∃ new ∈ db'.deliveries, new.identity = (storedDelivery d).identity
  only : ∀ r ∈ db'.deliveries, r ∈ db.deliveries ∨
    ∃ d ∈ asked, db.Unblocked d ∧ r.identity = (storedDelivery d).identity

/-- What the store has to hold for a dispatch to end without an error. -/
structure Database.Ready (db : Database F) (asked : List NotificationDelivery) : Prop where
  keyed : db.Keyed
  valid : ∀ d ∈ asked, validateNotificationDelivery d = true
  untold : ∀ d ∈ asked, db.Unblocked d → db.Untold d
  apart : asked.Pairwise Apart

section

omit [Float64 F] [TimeText]

lemma Adds.unblocked_iff {d' : NotificationDelivery} (adds : Adds d db db') (apart : Apart d d') :
    db'.Unblocked d' ↔ db.Unblocked d' := by
  obtain ⟨new, same, rows⟩ := adds.rows
  constructor
  · intro free r member
    exact free r ((rows r).mpr (.inl member))
  · intro free r member
    rcases (rows r).mp member with old | rfl
    · exact free r old
    · rw [blocks_congr same]
      exact apart.rows

lemma Adds.ready {rest : List NotificationDelivery} (adds : Adds d db db') (ready : db.Ready (d :: rest)) : db'.Ready rest := by
  obtain ⟨apart, others⟩ := List.pairwise_cons.mp ready.apart
  refine ⟨?_, fun d' listed => ready.valid d' (.tail _ listed), ?_, others⟩
  · intro r member
    obtain ⟨new, same, rows⟩ := adds.rows
    rcases (rows r).mp member with old | rfl
    · exact ready.keyed r old
    · obtain ⟨_, _, named⟩ := named_of_valid (ready.valid d (.head _))
      simp only [NotificationDelivery.identity, NotificationDelivery.key, storedDelivery, Prod.mk.injEq] at same
      rw [same.1.2, same.2.1, named]
  · intro d' listed free action
    have untold := ready.untold d' (.tail _ listed) ((adds.unblocked_iff (apart d' listed)).mp free) action
    exact adds.audits _ untold fun action' => ((apart d' listed).records action' action).symm

lemma Adds.reserves {rest : List NotificationDelivery} (adds : Adds d db db') (free : db.Unblocked d)
    (apart : ∀ d' ∈ rest, Apart d d') (reserves : Reserves rest db' db'') :
    Reserves (d :: rest) db db'' := by
  obtain ⟨new, same, rows⟩ := adds.rows
  constructor
  · intro r member
    exact reserves.kept r ((rows r).mpr (.inl member))
  · intro d' listed free'
    rcases List.mem_cons.mp listed with rfl | later
    · exact ⟨new, reserves.kept new ((rows new).mpr (.inr rfl)), same⟩
    · exact reserves.made d' later ((adds.unblocked_iff (apart d' later)).mpr free')
  · intro r member
    rcases reserves.only r member with old | ⟨d', later, free', identity⟩
    · rcases (rows r).mp old with old | rfl
      · exact .inl old
      · exact .inr ⟨d, .head _, free, same⟩
    · exact .inr ⟨d', .tail _ later, (adds.unblocked_iff (apart d' later)).mp free', identity⟩

end

lemma dispatchRoutes_reserves {routes : List NotificationRoute}
    (within : ∀ route ∈ routes, route.policy.scope = event.scope)
    (ready : db.Ready (dispatcher.asked rule silences event state now routes)) :
    ∃ db', dispatchRoutes dispatcher rule silences event state now answer routes db = (db', .ok ()) ∧
      Reserves (dispatcher.asked rule silences event state now routes) db db' := by
  induction routes generalizing db with
  | nil =>
    refine ⟨db, rfl, fun _ member => member, ?_, fun _ member => .inl member⟩
    intro d listed
    cases listed
  | cons route rest ih =>
    have here : ¬ route.policy.scope ≠ event.scope := not_not.mpr (within route (.head _))
    have later : ∀ route ∈ rest, route.policy.scope = event.scope := fun r listed => within r (.tail _ listed)
    have made : (dispatcher.plan rule silences event state now route).Made := plan_made
    unfold dispatchRoutes
    rw [if_neg here]
    unfold Dispatcher.asked at ready ⊢
    rw [List.filterMap_cons] at ready ⊢
    rcases asks : (dispatcher.plan rule silences event state now route).reservation now with _ | reservation
    · rw [asks] at ready
      rw [execute_idle made asks]
      exact ih later ready
    obtain ⟨delivery, audit⟩ := reservation
    rw [asks] at ready
    dsimp only [Option.map_some] at ready ⊢
    have valid := ready.valid delivery (.head _)
    obtain ⟨apart, others⟩ := List.pairwise_cons.mp ready.apart
    by_cases free : db.Unblocked delivery
    · obtain ⟨db₁, executed, adds⟩ :=
        execute_free made asks valid ready.keyed free (ready.untold delivery (.head _) free)
      rw [executed]
      obtain ⟨db', went, reserves⟩ := ih later (adds.ready ready)
      exact ⟨db', went, adds.reserves free apart reserves⟩
    · rw [execute_blocked made asks valid free]
      have rested : db.Ready (rest.filterMap fun route =>
          ((dispatcher.plan rule silences event state now route).reservation now).map Prod.fst) :=
        ⟨ready.keyed, fun d listed => ready.valid d (.tail _ listed),
          fun d listed => ready.untold d (.tail _ listed), others⟩
      obtain ⟨db', went, reserves⟩ := ih later rested
      refine ⟨db', went, reserves.kept, ?_, ?_⟩
      · intro d listed free'
        rcases List.mem_cons.mp listed with rfl | listed
        · exact absurd free' free
        · exact reserves.made d listed free'
      · intro r member
        rcases reserves.only r member with old | ⟨d, listed, free', same⟩
        · exact .inl old
        · exact .inr ⟨d, .tail _ listed, free', same⟩

end routes

/-! Passes. -/

section passes

variable {F : Type} [Float64 F] [TimeText]

/-- The events of a scope by their ids, all pages. -/
def listEvents (scope : Scope) (db : Database F) : List AlertEvent :=
  (db.events.rows.filter fun event => event.scope = scope).insertionSort fun a b => a.id ≤ b.id

/-- What one pass of `evaluateAndDispatch` over a scope meets: the due rules with what
their evaluations see, whether `EvaluateScope` returns without an error, and the
clock and the channels of the dispatcher. -/
structure Cycle (F : Type) where
  due : List (AlertRule F × Evaluation F)
  completed : Bool
  clock : AlertEvent → Instant
  answer : AlertEvent → DeliveryRequest → Option ChannelError

def evaluateScope (scope : Scope) : List (AlertRule F × Evaluation F) → Database F → Database F
  | [], db => db
  | (rule, evaluation) :: rest, db => evaluateScope scope rest (evaluateRule rule scope evaluation db).session.db

/-- Every event is dispatched, whatever became of those before it. -/
def dispatchEvents (dispatcher : Dispatcher) (cycle : Cycle F) : List AlertEvent → Database F → Database F
  | [], db => db
  | event :: rest, db => dispatchEvents dispatcher cycle rest
      (dispatch dispatcher event event.state (cycle.clock event) (cycle.answer event) db).1

def evaluateAndDispatch (dispatcher : Dispatcher) (scope : Scope) (cycle : Cycle F) (db : Database F) : Database F :=
  let evaluated := evaluateScope scope cycle.due db
  if cycle.completed then dispatchEvents dispatcher cycle (listEvents scope evaluated) evaluated else evaluated

def Passes (dispatcher : Dispatcher) (scope : Scope) (db : Database F) (cycle : Cycle F) (db' : Database F) : Prop :=
  evaluateAndDispatch dispatcher scope cycle db = db'

variable {db db' : Database F} {dispatcher : Dispatcher} {scope : Scope} {rule : AlertRule F} {cycle : Cycle F}
  {event : AlertEvent} {routes : List NotificationRoute} {route : NotificationRoute}
  {silences : List Silence} {state : EventState} {now : Instant} {answer : DeliveryRequest → Option ChannelError}

lemma evaluateScope_deliveries {due : List (AlertRule F × Evaluation F)} :
    (evaluateScope scope due db).deliveries = db.deliveries := by
  induction due generalizing db with
  | nil => rfl
  | cons first rest ih =>
    obtain ⟨rule, evaluation⟩ := first
    have evaluates : Evaluates rule scope db (evaluation, (evaluateRule rule scope evaluation db).applied)
      (evaluateRule rule scope evaluation db).session.db := ⟨rfl, rfl⟩
    have kept := evaluates.run.1.invariant (fun db' => db'.deliveries = db.deliveries)
      (fun applies same => applies.effect.2.trans same) rfl
    exact ih.trans kept

/-- No dispatch removes a row. -/
lemma dispatch_keeps : db.deliveries.Keeps (dispatch dispatcher event state now answer db).1.deliveries := by
  intro k present
  obtain ⟨row, found⟩ := Option.isSome_iff_exists.mp present
  obtain ⟨es, run⟩ : Reaches [] db (dispatch dispatcher event state now answer db).1 := dispatch_reaches
  obtain ⟨row', still, _⟩ := run_attempts_le run (by simp [World.Sound]) found
  exact Option.isSome_of_eq_some still

lemma dispatchEvents_keeps {events : List AlertEvent} :
    db.deliveries.Keeps (dispatchEvents dispatcher cycle events db).deliveries := by
  induction events generalizing db with
  | nil => exact .refl _
  | cons event rest ih => exact dispatch_keeps.trans ih

lemma Passes.keeps (passes : Passes dispatcher scope db cycle db') : db.deliveries.Keeps db'.deliveries := by
  have same : (evaluateScope scope cycle.due db).deliveries = db.deliveries := evaluateScope_deliveries
  subst passes
  rw [← same]
  unfold evaluateAndDispatch
  dsimp only
  split
  · exact dispatchEvents_keeps
  · exact .refl _

lemma dispatchEvents_append {before after : List AlertEvent} :
    dispatchEvents dispatcher cycle (before ++ after) db =
      dispatchEvents dispatcher cycle after (dispatchEvents dispatcher cycle before db) := by
  induction before generalizing db with
  | nil => rfl
  | cons event rest ih => exact ih

/-- What `Dispatch` reads about an event. -/
structure Routed (db : Database F) (event : AlertEvent) (now : Instant) (rule : AlertRule F)
    (routes : List NotificationRoute) (silences : List Silence) : Prop where
  valid : event.validate = true
  rule : getRule event.scope event.ruleID db = .ok rule
  routes : listNotificationRoutes event.scope event.ruleID db = .ok routes
  silences : listActiveSilences event.scope now db = .ok silences

omit [Float64 F] [TimeText] in
lemma getRule_scope {id : String} (found : getRule scope id db = .ok rule) : rule.scope = scope := by
  unfold getRule at found
  split at found
  · cases found
  split at found
  · rename_i listed
    cases found
    have key := (Table.find?_eq_some.mp listed).2
    exact congrArg Prod.fst key
  · cases found

omit [Float64 F] [TimeText] in
lemma listNotificationRoutes_scope {id : String} (listed : listNotificationRoutes scope id db = .ok routes) :
    ∀ route ∈ routes, route.policy.scope = scope := by
  unfold listNotificationRoutes at listed
  split at listed
  · cases listed
  split at listed
  · cases listed
  split at listed
  · cases listed
    simp
  · cases listed
    intro route member
    obtain ⟨policy, sorted, rfl⟩ := List.mem_map.mp member
    rw [List.mem_insertionSort, List.mem_filter, Bool.and_eq_true, decide_eq_true_eq] at sorted
    exact sorted.2.1

lemma Routed.dispatch (routed : Routed db event now rule routes silences) :
    dispatch dispatcher event event.state now answer db =
      dispatchRoutes dispatcher rule silences event event.state now answer routes db := by
  have own : ¬ rule.scope ≠ event.scope := not_not.mpr (getRule_scope routed.rule)
  unfold Alerts.dispatch
  rw [if_neg (by simp [routed.valid]), routed.rule]
  dsimp only
  rw [if_neg own, routed.routes, routed.silences]

/-- The delivery of an event along a route. -/
structure Notifies (route : NotificationRoute) (event : AlertEvent) (state : EventState)
    (delivery : NotificationDelivery) : Prop where
  key : delivery.key = (event.scope, delivery.idempotencyKey)
  identity : delivery.idempotencyKey = deliveryIdempotencyKey event.id state route.policy.channel route.policy.id
    route.policy.version delivery.request.templateVersion
  channel : delivery.request.channel = route.policy.channel

section

omit [Float64 F]

lemma notifies_of_request (key : d.key = (event.scope, d.idempotencyKey))
    (identity : d.idempotencyKey = deliveryIdempotencyKey event.id d.request.state d.request.channel
      d.request.policyID d.request.policyVersion d.request.templateVersion)
    (same : d.request.state = state) (channel : d.request.channel = route.policy.channel)
    (policy : d.request.policyID = route.policy.id) (version : d.request.policyVersion = route.policy.version) :
    Notifies route event state d := by
  refine ⟨key, ?_, channel⟩
  rw [identity, same, channel, policy, version]

lemma deliveryRequest_names {template : NotificationTemplate} {url : String} {request : DeliveryRequest}
    (rendered : deliveryRequest route.policy template rule event state url = .ok request) :
    request.state = state ∧ request.channel = route.policy.channel ∧ request.policyID = route.policy.id ∧
      request.policyVersion = route.policy.version := by
  unfold deliveryRequest at rendered
  rcases subject : renderNotificationText template.subject (templateValues rule event state url) event.labels with e | text
  · simp only [subject] at rendered
    cases rendered
  rcases body : renderNotificationText template.body (templateValues rule event state url) event.labels with e | more
  · simp only [subject, body] at rendered
    cases rendered
  simp only [subject, body] at rendered
  cases rendered
  exact ⟨rfl, rfl, rfl, rfl⟩

/-- A route that matches is asked about. -/
lemma asked_of_matches (member : route ∈ routes) (chosen : routeMatches route rule event now = true) :
    ∃ d ∈ dispatcher.asked rule silences event state now routes, Notifies route event state d := by
  suffices asks : ∃ d audit,
      (dispatcher.plan rule silences event state now route).reservation now = some (d, audit) ∧
        Notifies route event state d by
    obtain ⟨d, audit, asks, notifies⟩ := asks
    exact ⟨d, List.mem_filterMap.mpr ⟨route, member, by rw [asks]; rfl⟩, notifies⟩
  have misconfigured {failureClass : String} : ∃ d audit,
      (dispatcher.misconfigured route event state now failureClass).reservation now = some (d, audit) ∧
        Notifies route event state d :=
    ⟨_, _, rfl, notifies_of_request rfl rfl rfl rfl rfl rfl⟩
  unfold Dispatcher.plan
  rw [if_neg (by simp [chosen])]
  split
  · exact ⟨_, _, rfl, notifies_of_request rfl rfl rfl rfl rfl rfl⟩
  · split
    · exact misconfigured
    split
    · exact misconfigured
    split
    · exact misconfigured
    split
    · exact misconfigured
    · rename_i request rendered
      obtain ⟨same, channel, policy, version⟩ := deliveryRequest_names rendered
      exact ⟨_, _, rfl, notifies_of_request rfl rfl same channel policy version⟩

end

omit [Float64 F] [TimeText] in
lemma Database.Ready.key_inj {asked : List NotificationDelivery} {d' : NotificationDelivery}
    (ready : db.Ready asked) (listed : d ∈ asked) (listed' : d' ∈ asked) (same : d.key = d'.key) : d = d' := by
  have keys : (asked.map (·.key)).Nodup := by
    refine List.pairwise_map.mpr (ready.apart.imp_of_mem ?_)
    intro d d' listed listed' apart same
    obtain ⟨_, _, keyed⟩ := named_of_valid (ready.valid d listed)
    have blocked : blocks d' (storedDelivery d) = true := blocks_of_key (ready.valid d' listed') keyed same
    rw [apart.rows] at blocked
    cases blocked
  exact List.inj_on_of_nodup_map keys listed listed' same

omit [Float64 F] [TimeText] in
/-- A delivery gets a row of its own exactly when nothing blocks it. -/
lemma Reserves.new_iff {asked : List NotificationDelivery} (reserves : Reserves asked db db')
    (ready : db.Ready asked) (listed : d ∈ asked) :
    (db.deliveries.find? d.key = none ∧ (db'.deliveries.find? d.key).isSome = true) ↔ db.Unblocked d := by
  constructor
  · rintro ⟨absent, present⟩
    obtain ⟨r, member, same⟩ := Table.isSome_find?.mp present
    rcases reserves.only r member with old | ⟨d', listed', free, identity⟩
    · have found := Table.find?_of_mem old
      rw [same, absent] at found
      cases found
    · have key : d'.key = d.key := by
        rw [← same]
        exact (congrArg Prod.fst identity).symm
      rw [← ready.key_inj listed' listed key]
      exact free
  · intro free
    refine ⟨find?_of_unblocked (ready.valid d listed) ready.keyed free, ?_⟩
    obtain ⟨new, member, identity⟩ := reserves.made d listed free
    exact Table.isSome_find?.mpr ⟨new, member, congrArg Prod.fst identity⟩

/-- In every run of passes, the dispatch of a firing event makes a record of its own for
a route that matches exactly when no stored delivery blocks it. -/
theorem firing_notified_iff {mid mid' : Database F} {earlier later : List AlertEvent}
    (passes : Passes dispatcher scope db cycle db') (completed : cycle.completed = true)
    (listed : listEvents scope (evaluateScope scope cycle.due db) = earlier ++ event :: later)
    (firing : event.state = .firing)
    (reached : dispatchEvents dispatcher cycle earlier (evaluateScope scope cycle.due db) = mid)
    (dispatched : (dispatch dispatcher event .firing (cycle.clock event) (cycle.answer event) mid).1 = mid')
    (routed : Routed mid event (cycle.clock event) rule routes silences)
    (ready : mid.Ready (dispatcher.asked rule silences event .firing (cycle.clock event) routes))
    (member : route ∈ routes) (chosen : routeMatches route rule event (cycle.clock event) = true) :
    ∃ d ∈ dispatcher.asked rule silences event .firing (cycle.clock event) routes,
      Notifies route event .firing d ∧
      ((mid.deliveries.find? d.key = none ∧ (mid'.deliveries.find? d.key).isSome = true ∧
          (db'.deliveries.find? d.key).isSome = true ∧
          ∀ db₀ cycles, Run (Passes dispatcher scope) db₀ cycles db → db₀.deliveries.find? d.key = none) ↔
        mid.Unblocked d) := by
  obtain ⟨d, asks, notifies⟩ : ∃ d ∈ dispatcher.asked rule silences event .firing (cycle.clock event) routes,
      Notifies route event .firing d := asked_of_matches member chosen
  refine ⟨d, asks, notifies, ?_⟩
  have reserves : Reserves (dispatcher.asked rule silences event .firing (cycle.clock event) routes) mid mid' := by
    obtain ⟨after, went, reserves⟩ := dispatchRoutes_reserves (listNotificationRoutes_scope routed.routes) ready
    rw [← firing, ← routed.dispatch, firing] at went
    rw [← dispatched, went]
    exact reserves
  have new := reserves.new_iff ready asks
  have before : db.deliveries.Keeps mid.deliveries := by
    have unwritten : (evaluateScope scope cycle.due db).deliveries = db.deliveries := evaluateScope_deliveries
    rw [← unwritten, ← reached]
    exact dispatchEvents_keeps
  have kept : mid'.deliveries.Keeps db'.deliveries := by
    unfold Passes evaluateAndDispatch at passes
    rw [if_pos completed, listed, dispatchEvents_append, reached] at passes
    rw [← passes, ← dispatched, ← firing]
    exact dispatchEvents_keeps
  constructor
  · rintro ⟨absent, present, _⟩
    exact new.mp ⟨absent, present⟩
  intro free
  obtain ⟨absent, present⟩ := new.mpr free
  refine ⟨absent, present, kept _ present, ?_⟩
  intro db₀ cycles run
  have grown : db₀.deliveries.Keeps db.deliveries :=
    run.invariant (fun db' => db₀.deliveries.Keeps db'.deliveries) (fun passes kept => kept.trans passes.keeps)
      (.refl _)
  rw [← Option.not_isSome_iff_eq_none]
  intro found
  rw [← Option.not_isSome_iff_eq_none] at absent
  exact absent (before _ (grown _ found))

end passes

section sample

local instance episodeTimes : TimeText := .ofTable [
  (newYear - minutes 5, "2025-12-31T23:55:00Z"), (newYear - minutes 3, "2025-12-31T23:57:00Z"),
  (newYear - minutes 2, "2025-12-31T23:58:00Z"), (newYear - minutes 1, "2025-12-31T23:59:00Z"),
  (newYear, "2026-01-01T00:00:00Z"), (newYear + minutes 1, "2026-01-01T00:01:00Z"),
  (newYear + minutes 2, "2026-01-01T00:02:00Z"), (newYear + minutes 3, "2026-01-01T00:03:00Z"),
  (newYear + minutes 4, "2026-01-01T00:04:00Z"), (newYear + minutes 6, "2026-01-01T00:06:00Z")]
  (by decide) (by decide)

def notifyingRule : AlertRule Rat := { sampleRule with notificationPolicyIDs := ["page"] }

/-- A pass some minutes after the new year that sees one value of the load. -/
def loadCycle (after : Int) (value : Rat) (random : List String) : Cycle Rat where
  due := [(notifyingRule, sampleEvaluation after [{ sampleLoad (newYear + minutes after) with value }] random)]
  completed := true
  clock _ := newYear + minutes after
  answer _ _ := none

def afterCycle (cycle : Cycle Rat) (db : Database Rat) : Database Rat :=
  evaluateAndDispatch sampleDispatcher sampleScope cycle db

/-- The load rises, stays, falls, rises and stays. -/
def firstRise : Cycle Rat := loadCycle 0 5 ["1", "2"]
def firstStay : Cycle Rat := loadCycle 2 5 ["3"]
def fall : Cycle Rat := loadCycle 3 1 ["4"]
def secondRise : Cycle Rat := loadCycle 4 5 ["5"]
def secondStay : Cycle Rat := loadCycle 6 5 ["6"]

def firstPending : Database Rat := afterCycle firstRise notifyingDatabase
def firstFiring : Database Rat := afterCycle firstStay firstPending
def fallen : Database Rat := afterCycle fall firstFiring
def secondPending : Database Rat := afterCycle secondRise fallen
def secondFiring : Database Rat := afterCycle secondStay secondPending

lemma passes_afterCycle {cycle : Cycle Rat} {db : Database Rat} :
    Passes sampleDispatcher sampleScope db cycle (afterCycle cycle db) := rfl

/-- An event fires, is resolved and fires again under the same policy, and the second
episode gets no record. -/
theorem second_firing_unnotified :
    Run (Passes sampleDispatcher sampleScope) notifyingDatabase [firstRise, firstStay, fall, secondRise]
        secondPending ∧
      Passes sampleDispatcher sampleScope secondPending secondStay secondFiring ∧
      firstFiring.events.rows.map (fun event => (event.id, event.state)) = [("event-1", .firing)] ∧
      fallen.events.rows.map (fun event => (event.id, event.state)) = [("event-1", .resolved)] ∧
      secondPending.events.rows.map (fun event => (event.id, event.state)) = [("event-1", .pending)] ∧
      secondFiring.events.rows.map (fun event => (event.id, event.state)) = [("event-1", .firing)] ∧
      secondFiring.deliveries.rows.map (·.eventState) = [.pending, .firing, .resolved] ∧
      secondFiring.deliveries.rows = secondPending.deliveries.rows ∧
      secondFiring.policies.rows = [samplePolicy] ∧ secondFiring.templates.rows = [sampleTemplate] ∧
      secondFiring.silences.rows = [] ∧
      ∀ event ∈ secondFiring.events.rows,
        routeMatches ⟨samplePolicy, some sampleTemplate⟩ notifyingRule event (newYear + minutes 6) = true := by
  refine ⟨.cons passes_afterCycle (.cons passes_afterCycle (.cons passes_afterCycle (.single passes_afterCycle))),
    passes_afterCycle, ?_⟩
  -- One evaluation of the whole history.
  decide +kernel

/-- The sample event fires, and nothing has been delivered. -/
def unnotified : Database Rat := { notifyingDatabase with events := ⟨[sampleFiring], by simp⟩ }

/-- A pass without a due rule. -/
def idleCycle : Cycle Rat where
  due := []
  completed := true
  clock _ := newYear
  answer _ _ := none

def sampleRoute : NotificationRoute := ⟨samplePolicy, some sampleTemplate⟩

def sampleAsked : List NotificationDelivery :=
  sampleDispatcher.asked notifyingRule [] sampleFiring .firing newYear [sampleRoute]

lemma sampleAsked_valid :
    sampleAsked.length = 1 ∧ ∀ d ∈ sampleAsked, validateNotificationDelivery d = true := by decide +kernel

lemma unnotified_ready : unnotified.Ready sampleAsked := by
  obtain ⟨one, valid⟩ := sampleAsked_valid
  refine ⟨?_, valid, ?_, ?_⟩
  · intro row member
    exact absurd member (Table.not_mem_empty)
  · intro d _ _ action
    rfl
  · obtain ⟨d, single⟩ := List.length_eq_one_iff.mp one
    rw [single]
    exact List.pairwise_singleton _ _

/-- The first dispatch of a firing event makes its record. -/
theorem firing_notified_iff_first :
    ∃ d, Notifies sampleRoute sampleFiring .firing d ∧ unnotified.deliveries.find? d.key = none ∧
      ((afterCycle idleCycle unnotified).deliveries.find? d.key).isSome = true := by
  have routed : Routed unnotified sampleFiring (idleCycle.clock sampleFiring) notifyingRule [sampleRoute] [] :=
    ⟨by decide +kernel, rfl, by rfl, by rfl⟩
  have passes : Passes sampleDispatcher sampleScope unnotified idleCycle (afterCycle idleCycle unnotified) :=
    passes_afterCycle
  have listed : listEvents sampleScope (evaluateScope sampleScope idleCycle.due unnotified) =
      [] ++ sampleFiring :: [] := by decide
  have reached : dispatchEvents sampleDispatcher idleCycle [] (evaluateScope sampleScope idleCycle.due unnotified) =
      unnotified := rfl
  have chosen : routeMatches sampleRoute notifyingRule sampleFiring (idleCycle.clock sampleFiring) = true := by decide
  obtain ⟨d, _, notifies, new⟩ := firing_notified_iff passes rfl listed rfl reached rfl routed unnotified_ready
    (List.mem_singleton.mpr rfl) chosen
  obtain ⟨absent, _, present, _⟩ := new.mpr (fun row member => absurd member Table.not_mem_empty)
  exact ⟨d, notifies, absent, present⟩

end sample

end DBPilot.Alerts
