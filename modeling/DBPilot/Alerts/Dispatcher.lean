import DBPilot.Alerts.Deliveries

/-!
# The dispatcher

`Dispatch`, `RetryDue` and `finishAttempt` of `internal/alert/notification.go` with
the reads of the repository that they make, and the dispatching half of
`evaluateAndDispatch`. What a channel answers to a request is an argument.
-/

namespace DBPilot.Alerts

open Transactions
open Jobs (Instant)

structure Dispatcher where
  workerID : String
  /-- The names of the configured channels. -/
  channels : List String
  eventURL : AlertEvent → String
  lease : Int := 30 * 1000000000
  batchSize : Nat := 100

/-- An error of a call, or the index panic of the Go runtime. -/
inductive DispatchError where
  | alert (error : AlertError)
  | indexOutOfRange
  deriving DecidableEq

/-- The entry of a slice; nothing is the index panic. -/
def sliceIndex {α : Type} (values : List α) (index : Int) : Option α :=
  if 0 ≤ index then values[index.toNat]? else none

/-- What `finishAttempt` records about the answer of a channel, where no answer is no
error; nothing when it panics. -/
def attemptOutcome (delivery : NotificationDelivery) (now : Instant) :
    Option ChannelError → Option (NotificationDelivery × DeliveryAction)
  | none => some ({ delivery with
      status := .delivered, deliveredAt := some now, nextAttemptAt := none, failureClass := ""
      leaseOwner := "", leaseExpiresAt := none }, .delivered)
  | some failure =>
    let failed := { delivery with deliveredAt := none, failureClass := deliveryErrorClass failure }
    if isRetryableDeliveryError failure && delivery.attempts ≤ retryDelays.length then
      (sliceIndex retryDelays (delivery.attempts - 1)).map fun delay =>
        ({ failed with
          status := .retryScheduled, nextAttemptAt := some (now + delay), leaseOwner := "", leaseExpiresAt := none },
          .retryScheduled)
    else some ({ failed with
      status := .abandoned, nextAttemptAt := none, leaseOwner := "", leaseExpiresAt := none }, .abandoned)

/-- What `Dispatch` does about a route. -/
inductive Plan where
  | skip
  | suppress (delivery : NotificationDelivery)
  | misconfigured (delivery : NotificationDelivery) (failureClass : String)
  | attempt (delivery : NotificationDelivery)

section plan

variable {F : Type} [TimeText]

/-- A delivery under the dispatcher's own claim. -/
def Dispatcher.claim (dispatcher : Dispatcher) (delivery : NotificationDelivery) (now : Instant) :
    NotificationDelivery :=
  { delivery with
    leaseOwner := dispatcher.workerID, leaseExpiresAt := some (now + dispatcher.lease)
    claimOwner := dispatcher.workerID }

/-- `recordConfigurationFailure` up to its transactions. -/
def Dispatcher.misconfigured (dispatcher : Dispatcher) (route : NotificationRoute) (event : AlertEvent)
    (state : EventState) (now : Instant) (failureClass : String) : Plan :=
  .misconfigured (dispatcher.claim
    (newNotificationDelivery (suppressedDeliveryRequest route "unknown" event state) event now) now) failureClass

def Dispatcher.plan (dispatcher : Dispatcher) (rule : AlertRule F) (silences : List Silence)
    (event : AlertEvent) (state : EventState) (now : Instant) (route : NotificationRoute) : Plan :=
  if routeMatches route rule event now = false then .skip
  else if matchingSilence silences event now then
    let request := suppressedDeliveryRequest route rule.severity event state
    .suppress { newNotificationDelivery request event now with status := .suppressed }
  else match route.template with
    | none => dispatcher.misconfigured route event state now "template_missing"
    | some template =>
      if template.scope ≠ event.scope ∨ template.id ≠ route.policy.templateID then
        dispatcher.misconfigured route event state now "template_scope"
      else if dispatcher.channels.contains route.policy.channel = false then
        dispatcher.misconfigured route event state now "channel_validation"
      else match deliveryRequest route.policy template rule event state (dispatcher.eventURL event) with
        | .error _ => dispatcher.misconfigured route event state now "template_validation"
        | .ok request => .attempt (dispatcher.claim (newNotificationDelivery request event now) now)

end plan

section transactions

variable {F : Type} [Float64 F] [TimeText]

/-- A call of the repository, which commits or fails by itself. -/
def call {α : Type} (tx : AlertTx F α) (db : Database F) : Database F × Except DispatchError α :=
  match tx ⟨db, []⟩ with
  | .ok (a, s) => (s.db, .ok a)
  | .error e => (db, .error (.alert e))

/-- `UpdateNotificationDelivery` with its audit record, at the end of an attempt. -/
def record (final : NotificationDelivery) (action : DeliveryAction) (now : Instant) (db : Database F) :
    Database F × Except DispatchError Unit :=
  call (updateNotificationDelivery final (notificationAudit final action now)) db

def finishAttempt (delivery : NotificationDelivery) (now : Instant) (answer : Option ChannelError)
    (db : Database F) : Database F × Except DispatchError Unit :=
  match attemptOutcome delivery now answer with
  | none => (db, .error .indexOutOfRange)
  | some (final, action) => record final action now db

/-- A reservation, and what follows when it was made. -/
def reserveThen (delivery : NotificationDelivery) (audit : Option AuditRecord)
    (next : Database F → Database F × Except DispatchError Unit) (db : Database F) :
    Database F × Except DispatchError Unit :=
  match call (reserveNotificationDelivery delivery audit) db with
  | (db, .error e) => (db, .error e)
  | (db, .ok false) => (db, .ok ())
  | (db, .ok true) => next db

def Plan.execute (plan : Plan) (now : Instant) (answer : DeliveryRequest → Option ChannelError)
    (db : Database F) : Database F × Except DispatchError Unit :=
  match plan with
  | .skip => (db, .ok ())
  | .suppress delivery =>
    reserveThen delivery (some (notificationAudit delivery .suppressed now)) (fun db => (db, .ok ())) db
  | .misconfigured delivery failureClass =>
    reserveThen delivery none (record { delivery with status := .abandoned, failureClass } .abandoned now) db
  | .attempt delivery => reserveThen delivery none (finishAttempt delivery now (answer delivery.request)) db

/-- The loop of `Dispatch`. -/
def dispatchRoutes (dispatcher : Dispatcher) (rule : AlertRule F) (silences : List Silence)
    (event : AlertEvent) (state : EventState) (now : Instant) (answer : DeliveryRequest → Option ChannelError) :
    List NotificationRoute → Database F → Database F × Except DispatchError Unit
  | [], db => (db, .ok ())
  | route :: rest, db =>
    if route.policy.scope ≠ event.scope then (db, .error (.alert .notificationScopeMismatch))
    else match (dispatcher.plan rule silences event state now route).execute now answer db with
      | (db, .error e) => (db, .error e)
      | (db, .ok ()) => dispatchRoutes dispatcher rule silences event state now answer rest db

def getRule (scope : Scope) (id : String) (db : Database F) : Except AlertError (AlertRule F) :=
  if scope.validate = false then .error .invalidScope
  else match db.rules.find? (scope, id) with
    | some rule => .ok rule
    | none => .error .notFound

/-- `notificationRouteSQL`: the policies that the stored rule names, by their ids. -/
def listNotificationRoutes (scope : Scope) (ruleID : String) (db : Database F) :
    Except AlertError (List NotificationRoute) :=
  if scope.validate = false then .error .invalidScope
  else if validIdentifier ruleID = false then .error .invalidNotification
  else match db.rules.find? (scope, ruleID) with
    | none => .ok []
    | some rule =>
      let policies := db.policies.rows.filter fun policy =>
        policy.scope = scope && rule.notificationPolicyIDs.contains policy.id
      .ok ((policies.insertionSort fun a b => a.id ≤ b.id).map fun policy =>
        ⟨policy, (db.templates.find? (scope, policy.templateID)).filter fun template => template.id != ""⟩)

def listActiveSilences (scope : Scope) (now : Instant) (db : Database F) : Except AlertError (List Silence) :=
  if scope.validate = false then .error .invalidScope
  else if now = 0 then .error .invalidNotification
  else .ok (db.silences.rows.filter fun silence =>
    silence.scope = scope && silence.startsAt ≤ now && now < silence.endsAt)

/-- An audit record, once. -/
def recordOrphanedEvent (event : AlertEvent) (now : Instant) (db : Database F) :
    Database F × Except DispatchError Unit :=
  if event.validate = false ∨ now = 0 then (db, .error (.alert .invalidNotification))
  else
    let identity := fingerprintParts [event.scope.key, event.id, event.state.text]
    let orphan : NotificationDelivery := {
      id := "orphan-" ++ String.ofList (identity.toList.take 24), scope := event.scope, eventID := event.id
      policyID := "orphan-rule", eventState := event.state, idempotencyKey := "", status := .abandoned
      attempts := 0, attemptedAt := some now, failureClass := "orphan_rule"
      request := {
        scope := event.scope, eventID := event.id, state := event.state, severity := "", channel := "orphan"
        policyID := "orphan-rule", policyVersion := "", templateID := "orphan-rule"
        templateVersion := "orphan-rule", target := "", secretRef := "" } }
    let audit := { notificationAudit orphan .abandoned now with targetID := event.id }
    match db.audits.insert? (storedAudit audit) with
    | some audits => ({ db with audits }, .ok ())
    | none => (db, .ok ())

def dispatch (dispatcher : Dispatcher) (event : AlertEvent) (state : EventState) (now : Instant)
    (answer : DeliveryRequest → Option ChannelError) (db : Database F) :
    Database F × Except DispatchError Unit :=
  if event.validate = false ∨ state ≠ event.state then (db, .error (.alert .invalidNotification))
  else match getRule event.scope event.ruleID db with
    | .error .notFound => recordOrphanedEvent event now db
    | .error e => (db, .error (.alert e))
    | .ok rule =>
      if rule.scope ≠ event.scope then (db, .error (.alert .notificationScopeMismatch))
      else match listNotificationRoutes event.scope event.ruleID db, listActiveSilences event.scope now db with
        | .error e, _ => (db, .error (.alert e))
        | .ok _, .error e => (db, .error (.alert e))
        | .ok routes, .ok silences =>
          dispatchRoutes dispatcher rule silences event state now answer routes db

/-! Retries. -/

/-- What one turn of the loop of `RetryDue` meets. -/
structure Turn where
  clock : Instant
  contention : Contention
  answer : DeliveryRequest → Option ChannelError

/-- A claimed delivery whose channel is not configured. -/
def unroutable (delivery : NotificationDelivery) : NotificationDelivery :=
  { delivery with
    status := .abandoned, failureClass := "channel_validation", nextAttemptAt := none
    leaseOwner := "", leaseExpiresAt := none }

def retryDelivery (dispatcher : Dispatcher) (delivery : NotificationDelivery) (now claimAt : Instant)
    (answer : DeliveryRequest → Option ChannelError) (db : Database F) :
    Database F × Except DispatchError Unit :=
  if delivery.scope ≠ delivery.request.scope ∨ delivery.status ≠ .attempting ∨
      delivery.leaseOwner ≠ dispatcher.workerID then (db, .error (.alert .invalidNotification))
  else if dispatcher.channels.contains delivery.request.channel = false then
    record (unroutable delivery) .abandoned now db
  else match record delivery .retrying claimAt db with
    | (db, .error e) => (db, .error e)
    | (db, .ok ()) => finishAttempt delivery claimAt (answer delivery.request) db

/-- The turns of `RetryDue`, with the errors that it joins. -/
def retryTurns (dispatcher : Dispatcher) (now : Instant) : List Turn → Database F → Database F × List DispatchError
  | [], db => (db, [])
  | turn :: rest, db =>
    let claimAt := max turn.clock now
    match call (claimDueNotificationDeliveries claimAt dispatcher.workerID (claimAt + dispatcher.lease) 1
        turn.contention) db with
    | (db, .error e) => (db, [e])
    | (db, .ok (.error e)) => (db, [.alert e])
    | (db, .ok (.ok [])) => (db, [])
    | (db, .ok (.ok [delivery])) =>
      match retryDelivery dispatcher delivery now claimAt turn.answer db with
      -- A panic ends the call.
      | (db, .error .indexOutOfRange) => (db, [.indexOutOfRange])
      | (db, .error e) =>
        let (db, errors) := retryTurns dispatcher now rest db
        (db, e :: errors)
      | (db, .ok ()) => retryTurns dispatcher now rest db
    | (db, .ok (.ok _)) => (db, [.alert .invalidNotification])

def retryDue (dispatcher : Dispatcher) (now : Instant) (turns : List Turn) (db : Database F) :
    Database F × List DispatchError :=
  if now = 0 then (db, [.alert .invalidNotification])
  else retryTurns dispatcher now (turns.take dispatcher.batchSize) db

end transactions

end DBPilot.Alerts
