import DBPilot.Alerts.Audit

/-!
# Policies, templates, silences and deliveries

The values of `internal/alert/notification.go` and the functions on them: which
routes an event takes, how its texts are rendered, and the identity under which a
delivery is reserved. A route without a template row has none; the constraints a
route could carry beside its policy are never set, and are left out.
-/

namespace DBPilot.Alerts

open Text
open Jobs (Instant isBlank sum256)

structure NotificationPolicy where
  id : String
  scope : Scope
  channel : String
  target : String
  secretRef : String
  templateID : String
  severities : List String
  matchLabels : StringMap
  windowStartUTC : String
  windowEndUTC : String
  enabled : Bool
  createdAt : Time
  updatedAt : Time
  deriving DecidableEq

def NotificationPolicy.key (policy : NotificationPolicy) : Scope × String := (policy.scope, policy.id)

structure NotificationTemplate where
  id : String
  scope : Scope
  subject : String
  body : String
  revision : Int
  legacyVersionFromUpdatedAt : Bool
  createdAt : Time
  updatedAt : Time
  deriving DecidableEq

def NotificationTemplate.key (template : NotificationTemplate) : Scope × String := (template.scope, template.id)

structure Silence where
  id : String
  scope : Scope
  matchers : StringMap
  startsAt : Instant
  endsAt : Instant
  deriving DecidableEq

def Silence.key (silence : Silence) : Scope × String := (silence.scope, silence.id)

structure NotificationRoute where
  policy : NotificationPolicy
  template : Option NotificationTemplate
  deriving DecidableEq

structure DeliveryRequest where
  deliveryID : String := ""
  scope : Scope
  eventID : String
  state : EventState
  severity : String
  channel : String
  policyID : String
  policyVersion : String
  templateID : String
  templateVersion : String
  target : String
  secretRef : String
  subject : String := ""
  body : String := ""
  labels : StringMap := []
  deriving DecidableEq

structure NotificationDelivery where
  id : String
  scope : Scope
  eventID : String
  policyID : String
  eventState : EventState
  idempotencyKey : String
  status : DeliveryStatus
  attempts : Int
  attemptedAt : Time
  nextAttemptAt : Time := none
  deliveredAt : Time := none
  failureClass : String := ""
  leaseOwner : String := ""
  leaseExpiresAt : Time := none
  claimOwner : String := ""
  request : DeliveryRequest
  deriving DecidableEq

def NotificationDelivery.key (delivery : NotificationDelivery) : Scope × String :=
  (delivery.scope, delivery.id)

/-- `retryDelays`, in nanoseconds. -/
def retryDelays : List Int := [60, 300, 1800].map (· * 1000000000)

section versions

variable [TimeText]

def NotificationTemplate.version (template : NotificationTemplate) : String :=
  match template.updatedAt, template.createdAt with
  | some updated, _ =>
    if template.legacyVersionFromUpdatedAt then TimeText.format updated
    else if 0 < template.revision then toString template.revision
    else TimeText.format updated
  | none, some created => if 0 < template.revision then toString template.revision else TimeText.format created
  | none, none => if 0 < template.revision then toString template.revision else template.id

def NotificationPolicy.version (policy : NotificationPolicy) : String :=
  match policy.updatedAt, policy.createdAt with
  | some updated, _ => TimeText.format updated
  | none, some created => TimeText.format created
  | none, none => policy.id

end versions

/-! Which routes an event takes. -/

/-- `time.Parse("15:04", value)`, in minutes: the hour may have one digit. -/
def parseClock (value : String) : Option Nat :=
  let clock (hour minute : List Char) : Option Nat :=
    if (hour ++ minute).all isDigit && decimal hour < 24 && decimal minute < 60 then
      some (decimal hour * 60 + decimal minute)
    else none
  match value.toList with
  | [h, ':', m, n] => clock [h] [m, n]
  | [g, h, ':', m, n] => clock [g, h] [m, n]
  | _ => none

/-- The zero time is midnight. -/
def minuteOfDay (now : Instant) : Nat := ((now / 60000000000) % 1440).toNat

def inUTCWindow (now : Instant) (startRaw endRaw : String) : Bool :=
  if startRaw = "" ∧ endRaw = "" then true
  else match parseClock startRaw, parseClock endRaw with
    | some start, some finish =>
      if start = finish then true
      else if start < finish then start ≤ minuteOfDay now && minuteOfDay now < finish
      else start ≤ minuteOfDay now || minuteOfDay now < finish
    | _, _ => false

def routeMatches {F : Type} (route : NotificationRoute) (rule : AlertRule F) (event : AlertEvent)
    (now : Instant) : Bool :=
  route.policy.enabled && rule.notificationPolicyIDs.contains route.policy.id &&
    (route.policy.severities.isEmpty || route.policy.severities.contains rule.severity) &&
    (route.policy.matchLabels.all fun (key, value) => StringMap.get event.labels key = some value) &&
    inUTCWindow now route.policy.windowStartUTC route.policy.windowEndUTC

def matcherMatches (event : AlertEvent) (key value : String) : Bool :=
  if key = "fingerprint" then event.fingerprint = value
  else if key = "tenant_id" then event.scope.tenantID = value
  else if key = "project_id" then event.scope.projectID = value
  else if key = "scope" then event.scope.key = value
  else if key = "resource" then
    StringMap.get event.labels "resource" = some value || StringMap.get event.labels "resource_id" = some value
  else match strip "resource.".toList key.toList, strip "label.".toList key.toList with
    | some name, _ => StringMap.get event.labels (String.ofList name) = some value
    | none, some name => StringMap.get event.labels (String.ofList name) = some value
    | none, none => StringMap.get event.labels key = some value

def matchingSilence (silences : List Silence) (event : AlertEvent) (now : Instant) : Bool :=
  silences.any fun silence =>
    silence.scope = event.scope && silence.startsAt ≤ now && now < silence.endsAt &&
      silence.matchers.all fun (key, value) => matcherMatches event key value

/-! Templates. -/

/-- `\s` of a regular expression. -/
def isBlankChar (c : Char) : Bool := c = ' ' || c = '\t' || c = '\n' || c = '\r' || c.toNat = 0xC

def isNameChar (c : Char) : Bool := isLetter c || isDigit c || c = '_' || c = '.' || c = '-'

def openBraces : List Char := "\x7b\x7b".toList

def closeBraces : List Char := "\x7d\x7d".toList

/-- A placeholder at the head of the text: its name and what follows it. -/
def placeholder (source : List Char) : Option (List Char × List Char) := do
  let opened := (← strip openBraces source).dropWhile isBlankChar
  let name := opened.takeWhile isNameChar
  let rest ← strip closeBraces ((opened.dropWhile isNameChar).dropWhile isBlankChar)
  if name.isEmpty then none else some (name, rest)

/-- `ReplaceAllStringFunc` of the placeholders; nothing when one has no value. The
fuel is the length of the text. -/
def substitute (value : List Char → Option (List Char)) : Nat → List Char → Option (List Char)
  | 0, _ => some []
  | _ + 1, [] => some []
  | fuel + 1, c :: rest =>
    match placeholder (c :: rest) with
    | some (name, rest) => do
      let replaced ← value name
      return replaced ++ (← substitute value fuel rest)
    | none => do return c :: (← substitute value fuel rest)

def templateValues {F : Type} (rule : AlertRule F) (event : AlertEvent) (state : EventState)
    (eventURL : String) : StringMap :=
  [("event.id", event.id), ("event.state", state.text), ("event.severity", rule.severity),
    ("evidence.aggregate", StringMap.getD event.evidence "aggregate"), ("event.url", eventURL)]

/-- The name after "resource.", which is not empty. -/
def resourceName (name : List Char) : Option (List Char) :=
  match strip "resource.".toList name with
  | some (c :: rest) => some (c :: rest)
  | _ => none

def placeholderValue (values labels : StringMap) (name : List Char) : Option (List Char) :=
  match StringMap.get values (String.ofList name), resourceName name with
  | some value, _ => some value.toList
  | none, some label => some (StringMap.getD labels (String.ofList label)).toList
  | none, none => none

def renderNotificationText (source : String) (values labels : StringMap) : Except AlertError String :=
  match substitute (placeholderValue values labels) source.toList.length source.toList with
  | none => .error .invalidTemplate
  | some rendered =>
    if contains openBraces rendered || contains closeBraces rendered then .error .invalidTemplate
    else .ok (String.ofList rendered)

/-! Requests and deliveries. -/

section requests

variable {F : Type} [TimeText]

def deliveryIdempotencyKey (eventID : String) (state : EventState)
    (channel policyID policyVersion templateVersion : String) : String :=
  hex (sum256 (Wire.utf8 (canonicalParts
    ["dbpilot.delivery.v2", eventID, state.text, channel, policyID, policyVersion, templateVersion]))).bytes

def legacyDeliveryIdempotencyKey (eventID : String) (state : EventState)
    (channel templateVersion : String) : String :=
  hex (sum256 (Wire.utf8 (eventID ++ state.text ++ channel ++ templateVersion))).bytes

def suppressedDeliveryRequest (route : NotificationRoute) (severity : String) (event : AlertEvent)
    (state : EventState) : DeliveryRequest :=
  let templateID :=
    if route.policy.templateID = "" then (route.template.map (·.id)).getD "" else route.policy.templateID
  let missing := "missing:" ++ templateID
  let templateVersion := match route.template with
    | some template => if template.version = "" then missing else template.version
    | none => missing
  { scope := event.scope, eventID := event.id, state, severity
    channel := route.policy.channel, policyID := route.policy.id, policyVersion := route.policy.version
    templateID, templateVersion, target := route.policy.target, secretRef := route.policy.secretRef }

def deliveryRequest (policy : NotificationPolicy) (template : NotificationTemplate) (rule : AlertRule F)
    (event : AlertEvent) (state : EventState) (eventURL : String) : Except AlertError DeliveryRequest := do
  let values := templateValues rule event state eventURL
  let subject ← renderNotificationText template.subject values event.labels
  let body ← renderNotificationText template.body values event.labels
  return {
    scope := event.scope, eventID := event.id, state, severity := rule.severity
    channel := policy.channel, policyID := policy.id, policyVersion := policy.version
    templateID := template.id, templateVersion := template.version
    target := policy.target, secretRef := policy.secretRef, subject, body, labels := event.labels }

def newNotificationDelivery (request : DeliveryRequest) (event : AlertEvent) (now : Instant) :
    NotificationDelivery :=
  let key := deliveryIdempotencyKey event.id request.state request.channel request.policyID
    request.policyVersion request.templateVersion
  { id := key, scope := event.scope, eventID := event.id, policyID := request.policyID
    eventState := request.state, idempotencyKey := key, status := .attempting, attempts := 1
    attemptedAt := some now, request := { request with deliveryID := key } }

end requests

def validateSecretReference (ref : String) : Bool :=
  match strip "env://".toList ref.toList with
  | some name => !name.isEmpty && name.zipIdx.all fun (c, index) =>
      isLetter c || c = '_' || 0 < index && isDigit c
  | none => false

def validateNotificationDelivery (delivery : NotificationDelivery) : Bool :=
  delivery.scope.validate && !isBlank delivery.id && delivery.id = delivery.idempotencyKey &&
    !isBlank delivery.eventID && !isBlank delivery.policyID && 1 ≤ delivery.attempts &&
    !isZero delivery.attemptedAt &&
    delivery.request.scope = delivery.scope && delivery.request.eventID = delivery.eventID &&
    delivery.request.policyID = delivery.policyID && delivery.request.channel != "" &&
    delivery.request.templateID != "" && delivery.request.templateVersion != "" &&
    (if delivery.request.channel = "in_app" then delivery.request.secretRef = ""
      else (delivery.request.channel = "smtp" || delivery.request.channel = "webhook") &&
        validateSecretReference delivery.request.secretRef) &&
    !containsSecretMaterial delivery.request.target && !containsSecretMaterial delivery.request.subject &&
    !containsSecretMaterial delivery.request.body &&
    (delivery.request.labels.all fun (key, value) =>
      !isBlank key && !sensitiveField key && !containsSecretMaterial value) &&
    !(delivery.status = .retryScheduled && isZero delivery.nextAttemptAt) &&
    !(delivery.status = .attempting && (delivery.leaseOwner = "" || isZero delivery.leaseExpiresAt)) &&
    (delivery.failureClass = "" || sanitizeFailureClass delivery.failureClass = delivery.failureClass)

def notificationAuditID (delivery : NotificationDelivery) (action : DeliveryAction) : String :=
  "audit-" ++ hex ((sum256 (Wire.utf8 (delivery.id ++ action.text ++ toString delivery.attempts))).bytes.take 12)

def notificationAudit (delivery : NotificationDelivery) (action : DeliveryAction) (now : Instant) :
    AuditRecord :=
  { id := notificationAuditID delivery action, scope := delivery.scope
    actor := "dbpilot-notification-dispatcher", action := .delivery action, targetID := delivery.id
    occurredAt := some now
    details := [("status", delivery.status.text), ("channel", delivery.request.channel),
      ("attempt", toString delivery.attempts)] ++
      if delivery.failureClass = "" then []
      else [("failure_class", sanitizeFailureClass delivery.failureClass)] }

/-- What a channel answers when it does not deliver: a `deliveryError`, or another error. -/
inductive ChannelError where
  | delivery (failureClass : String) (retryable : Bool)
  | other
  deriving DecidableEq

def isRetryableDeliveryError : ChannelError → Bool
  | .delivery _ retryable => retryable
  | .other => false

def deliveryErrorClass : ChannelError → String
  | .delivery failureClass _ => sanitizeFailureClass failureClass
  | .other => "channel_error"

end DBPilot.Alerts
