import DBPilot.Alerts.Events

/-!
# The rule evaluator

`evaluateRule` of `internal/alert/evaluator.go` and what it calls. The answer of
the metric store is an argument, as are the orders in which Go visits the map of
series and the database lists the events of the rule. A loop that meets an error
stops and keeps what it has written.

An evaluation also lists what it has applied: this history is not in the source.
-/

namespace DBPilot.Alerts

open Transactions Text
open Jobs (Instant isBlank)

structure MetricSample (F : Type) where
  scope : Scope
  agentID : String
  name : String
  labels : StringMap
  value : F
  sampledAt : Time

/-- An order of visiting a collection. -/
structure Visit (α : Type) where
  order : List α → List α
  perm : ∀ l, (order l).Perm l

def Visit.inOrder {α : Type} : Visit α := ⟨id, fun _ => .refl _⟩

structure EvaluationEvidence (F : Type) where
  windowStart : Instant
  windowEnd : Instant
  samples : Nat := 0
  aggregate : Option F := none
  missing : Bool := false
  rate : Option F := none
  missingDimensions : List String := []

def systemFindingLabelKey : String := "dbpilot_system_finding"

def evaluatorActor : String := "system:evaluator"

section samples

variable {F : Type} [Float64 F]

def missingResourceDimensions (labels : StringMap) : List String :=
  canonicalResourceDimensions.filter fun dimension => isBlank (StringMap.getD labels dimension)

def validateMetricLabels (labels : StringMap) : Bool :=
  (missingResourceDimensions labels).isEmpty && labels.all fun (key, value) =>
    !isBlank key && !sensitiveField key && !containsSecretMaterial value

def validateMetricSample (sample : MetricSample F) : Bool :=
  sample.scope.validate && !isBlank sample.agentID && !isBlank sample.name && !isZero sample.sampledAt &&
    Float64.isFinite sample.value && validateMetricLabels sample.labels

def canonicalResourceLabels (sample : MetricSample F) : StringMap :=
  StringMap.set (sanitizeDetails sample.labels) "agent_id" sample.agentID

def labelsMatch (actual expected : StringMap) : Bool :=
  expected.all fun (key, value) => StringMap.get actual key = some value

def inWindow (rule : AlertRule F) (windowStart now : Instant) (sample : MetricSample F) : Bool :=
  sample.scope = rule.scope && sample.name = rule.metric && !before sample.sampledAt (some windowStart) &&
    !before (some now) sample.sampledAt

/-- The samples that count, and the resource dimensions that some sample lacks. -/
def filterEvaluationSamples (rule : AlertRule F) (windowStart now : Instant)
    (samples : List (MetricSample F)) : List (MetricSample F) × List String :=
  let inside := samples.filter (inWindow rule windowStart now)
  (inside.filter fun sample => validateMetricSample sample &&
      labelsMatch (canonicalResourceLabels sample) (sanitizeDetails rule.labels),
    canonicalResourceDimensions.filter fun dimension =>
      inside.any fun sample => (missingResourceDimensions sample.labels).contains dimension)

/-- The samples of one resource. -/
structure Series (F : Type) where
  key : String
  labels : StringMap
  samples : List (MetricSample F)

def addSample (groups : List (Series F)) (sample : MetricSample F) : List (Series F) :=
  let labels := canonicalResourceLabels sample
  let key := seriesFingerprint labels
  if groups.any fun series => series.key = key then
    groups.map fun series =>
      if series.key = key then { series with samples := series.samples ++ [sample] } else series
  else groups ++ [⟨key, labels, [sample]⟩]

def groupSeries (samples : List (MetricSample F)) : List (Series F) := samples.foldl addSample []

def total (samples : List (MetricSample F)) : F :=
  samples.foldl (fun sum sample => Float64.add sum sample.value) (Float64.ofNat 0)

def aggregate (kind : Aggregation) (samples : List (MetricSample F)) : Except AlertError F :=
  match samples, kind with
  | [], _ => .error .unsupportedAggregation
  | _, .count => .ok (Float64.ofNat samples.length)
  | _, .sum => .ok (total samples)
  | _, .avg => .ok (Float64.div (total samples) (Float64.ofNat samples.length))
  | first :: rest, .max => .ok (rest.foldl
      (fun value sample => if Float64.lt value sample.value then sample.value else value) first.value)
  | first :: rest, .min => .ok (rest.foldl
      (fun value sample => if Float64.lt sample.value value then sample.value else value) first.value)
  | _, .rate => .error .unsupportedAggregation

def rate (samples : List (MetricSample F)) : Except AlertError F :=
  let ordered := samples.insertionSort fun a b => before b.sampledAt a.sampledAt = false
  match ordered.head?, ordered.getLast? with
  | some first, some last =>
    let elapsed := Float64.seconds (last.sampledAt.getD 0 - first.sampledAt.getD 0)
    if samples.length < 2 ∨ Float64.le elapsed (Float64.ofNat 0 : F) = true then .error .invalidRateWindow
    else .ok (Float64.div (Float64.sub last.value first.value) elapsed)
  | _, _ => .error .invalidRateWindow

def compare (value threshold : F) : Operator → Bool
  | .gt => Float64.lt threshold value
  | .ge => Float64.le threshold value
  | .lt => Float64.lt value threshold
  | .le => Float64.le value threshold
  | .eq => Float64.eq value threshold
  | .ne => !Float64.eq value threshold

/-- The value that a rule compares with its threshold. -/
def measure (rule : AlertRule F) (samples : List (MetricSample F)) : Except AlertError F :=
  if rule.aggregation = .rate then rate samples else aggregate rule.aggregation samples

end samples

section results

variable {F : Type} [Float64 F] [TimeText]

def EvaluationEvidence.asMap (evidence : EvaluationEvidence F) : StringMap :=
  [("window_start", TimeText.format evidence.windowStart), ("window_end", TimeText.format evidence.windowEnd),
    ("samples", toString evidence.samples), ("missing", if evidence.missing then "true" else "false")] ++
  (evidence.aggregate.map fun value => ("aggregate", Float64.format value)).toList ++
  (evidence.rate.map fun value => ("rate", Float64.format value)).toList ++
  (if evidence.missingDimensions.isEmpty then []
    else [("missing_dimensions", String.intercalate "," evidence.missingDimensions)])

def withSince (evidence : StringMap) (since : Time) : StringMap :=
  StringMap.set evidence conditionSinceEvidenceKey (TimeText.format (since.getD 0))

/-- `event.Evidence["condition_since"]` when it is a time that is not in the future, or
else the first sighting. -/
def conditionSince (event : AlertEvent) (now : Instant) : Time :=
  match TimeText.parse (StringMap.getD event.evidence conditionSinceEvidenceKey) with
  | some parsed => if now < parsed then event.firstSeen else some parsed
  | none => event.firstSeen

def writeTransition (event : AlertEvent) (action : EventState) (now : Instant) : AlertTx F Bool := do
  let auditID ← newControlPlaneID "audit"
  let _ ← (EventWrite.putEventAndAudit event {
    id := auditID, scope := event.scope, actor := evaluatorActor, action := .event action
    targetID := event.id, occurredAt := some now
    details := StringMap.set event.evidence "state" event.state.text }).tx
  return true

def refreshEvent (event : AlertEvent) : AlertTx F Bool := do
  let _ ← (EventWrite.putEvent event).tx
  return true

/-- The first sighting of a fingerprint. -/
def createEvent (rule : AlertRule F) (fingerprint : String) (labels evidence : StringMap)
    (createResolved : Bool) (now : Instant) : AlertTx F Bool := do
  let eventID ← newControlPlaneID "event"
  let event : AlertEvent := {
    id := eventID, scope := rule.scope, ruleID := rule.id, fingerprint, labels, evidence
    state := .pending, firstSeen := some now, lastSeen := some now, lastActor := evaluatorActor }
  if createResolved then
    writeTransition { event with state := .resolved, resolvedAt := some now } .resolved now
  else writeTransition { event with evidence := withSince evidence (some now) } .pending now

/-- The condition holds for a stored event. -/
def holdEvent (rule : AlertRule F) (stored : AlertEvent) (labels evidence : StringMap) (now : Instant) :
    AlertTx F Bool :=
  let event := { stored with labels, lastActor := evaluatorActor }
  match stored.state with
  | .resolved =>
    writeTransition { event with
      state := .pending, lastSeen := some now, firingAt := none, acknowledgedAt := none, resolvedAt := none
      evidence := withSince evidence (some now) } .pending now
  | .pending =>
    let since := conditionSince stored now
    let evidence := withSince evidence since
    if rule.forDuration ≤ now - since.getD 0 then do
      let fired ← attempt (event.transition .firing (some now) evaluatorActor)
      writeTransition { fired with labels, evidence } .firing now
    else refreshEvent { event with lastSeen := some now, evidence }
  | .firing | .acknowledged =>
    let encoded := StringMap.getD stored.evidence conditionSinceEvidenceKey
    let evidence := if encoded = "" then evidence else StringMap.set evidence conditionSinceEvidenceKey encoded
    refreshEvent { event with lastSeen := some now, evidence }

/-- The condition fails for a stored event. -/
def endEvent (stored : AlertEvent) (labels evidence : StringMap) (now : Instant) : AlertTx F Bool :=
  if stored.state = .resolved then pure false
  else do
    let resolved ← attempt ({ stored with labels, lastActor := evaluatorActor }.transition .resolved (some now)
      evaluatorActor)
    writeTransition { resolved with labels, evidence } .resolved now

def applyResult (rule : AlertRule F) (fingerprint : String) (labels : StringMap)
    (evidence : EvaluationEvidence F) (condition createResolved : Bool) (now : Instant) : AlertTx F Bool := do
  match ← findEventByFingerprint rule.scope fingerprint with
  | none =>
    if !condition && !createResolved then return false
    else createEvent rule fingerprint (sanitizeDetails labels) evidence.asMap createResolved now
  | some stored =>
    if condition then holdEvent rule stored (sanitizeDetails labels) evidence.asMap now
    else endEvent stored (sanitizeDetails labels) evidence.asMap now

def applyMissing (rule : AlertRule F) (fingerprint : String) (labels : StringMap)
    (evidence : EvaluationEvidence F) (now : Instant) : AlertTx F Bool :=
  match rule.missingData with
  | .ignore => pure false
  | .alert => applyResult rule fingerprint labels evidence true false now
  | .resolve => applyResult rule fingerprint labels evidence false true now

end results

/-! The loops of an evaluation. -/

/-- A result that an evaluation has applied to a fingerprint. -/
structure Application where
  fingerprint : String
  now : Instant
  /-- There was no sample. -/
  missing : Bool
  condition : Bool
  deriving DecidableEq

/-- An evaluation so far. -/
structure Pass (F : Type) where
  session : Session F
  updated : Nat
  applied : List Application

/-- What the metric store and the orders of visiting contribute to an evaluation. -/
structure Evaluation (F : Type) where
  now : Instant
  queried : Except AlertError (List (MetricSample F))
  series : Visit (Series F)
  listed : Visit AlertEvent
  random : List String

section evaluation

variable {F : Type} [Float64 F] [TimeText]

/-- Go on with what a result has written, or stop. -/
def Pass.apply (pass : Pass F) (tx : AlertTx F Bool) (application : Option Application) :
    Pass F × Option AlertError :=
  match tx pass.session with
  | .error e => (pass, some e)
  | .ok (changed, session) =>
    (⟨session, pass.updated + changed.toNat, pass.applied ++ application.toList⟩, none)

/-- The missing evaluations that are applied, by the rule's choice. -/
def missingApplication (rule : AlertRule F) (fingerprint : String) (now : Instant) : Option Application :=
  match rule.missingData with
  | .ignore => none
  | .alert => some ⟨fingerprint, now, true, true⟩
  | .resolve => some ⟨fingerprint, now, true, false⟩

def visitSeries (rule : AlertRule F) (windowStart now : Instant) :
    List (Series F) → Pass F → Pass F × Option AlertError
  | [], pass => (pass, none)
  | series :: rest, pass =>
    match measure rule series.samples with
    | .error e => (pass, some e)
    | .ok value =>
      let fingerprint := eventFingerprint rule.scope rule.id series.labels
      let evidence : EvaluationEvidence F := {
        windowStart, windowEnd := now, samples := series.samples.length, aggregate := some value
        rate := if rule.aggregation = .rate then some value else none }
      let condition := compare value rule.threshold rule.operator
      match pass.apply (applyResult rule fingerprint series.labels evidence condition false now)
          (some ⟨fingerprint, now, false, condition⟩) with
      | (pass, some e) => (pass, some e)
      | (pass, none) => visitSeries rule windowStart now rest pass

def applyUnseen (rule : AlertRule F) (windowStart now : Instant) (samples : Nat) (hasData : Bool)
    (dimensions : List String) (event : AlertEvent) (pass : Pass F) : Pass F × Option AlertError :=
  if hasData && event.fingerprint = eventFingerprint rule.scope rule.id (sanitizeDetails rule.labels) then
    -- The event of a rule that had no data at all ends when data arrive.
    pass.apply (applyResult rule event.fingerprint event.labels
      { windowStart, windowEnd := now, samples } false false now) (some ⟨event.fingerprint, now, false, false⟩)
  else
    pass.apply (applyMissing rule event.fingerprint event.labels
      { windowStart, windowEnd := now, missing := true, missingDimensions := dimensions } now)
      (missingApplication rule event.fingerprint now)

def visitExisting (rule : AlertRule F) (windowStart now : Instant) (samples : Nat) (hasData : Bool)
    (dimensions : List String) : List AlertEvent → Pass F → Pass F × Option AlertError
  | [], pass => (pass, none)
  | event :: rest, pass =>
    match applyUnseen rule windowStart now samples hasData dimensions event pass with
    | (pass, some e) => (pass, some e)
    | (pass, none) => visitExisting rule windowStart now samples hasData dimensions rest pass

/-- `listAllRuleEvents`: system findings are not events of the rule's metric. -/
def listAllRuleEvents (rule : AlertRule F) (db : Database F) : List AlertEvent :=
  db.events.rows.filter fun event => event.scope = rule.scope && event.ruleID = rule.id &&
    StringMap.getD event.labels systemFindingLabelKey = ""

structure Evaluated (F : Type) where
  session : Session F
  updated : Nat
  hasData : Bool
  error : Option AlertError
  applied : List Application

def Pass.finish (outcome : Pass F × Option AlertError) (hasData : Bool) : Evaluated F :=
  ⟨outcome.1.session, outcome.1.updated, hasData, outcome.2, outcome.1.applied⟩

/-- The second half of `evaluateRule`: events of the rule without samples. -/
def evaluateMissing (rule : AlertRule F) (evaluation : Evaluation F) (windowStart : Instant)
    (samples : Nat) (groups : List (Series F)) (dimensions : List String) (pass : Pass F) :
    Pass F × Option AlertError :=
  if isBlank rule.id then (pass, some .invalidEvent)
  else
    let seen := groups.map fun series => eventFingerprint rule.scope rule.id series.labels
    let unseen := (evaluation.listed.order (listAllRuleEvents rule pass.session.db)).filter fun event =>
      !seen.contains event.fingerprint
    match visitExisting rule windowStart evaluation.now samples (!groups.isEmpty) dimensions unseen pass with
    | (pass, some e) => (pass, some e)
    | (pass, none) =>
      if groups.isEmpty && unseen.isEmpty && rule.missingData ≠ .ignore then
        let selector := sanitizeDetails rule.labels
        let fingerprint := eventFingerprint rule.scope rule.id selector
        pass.apply (applyMissing rule fingerprint selector
          { windowStart, windowEnd := evaluation.now, missing := true, missingDimensions := dimensions }
          evaluation.now) (missingApplication rule fingerprint evaluation.now)
      else (pass, none)

def evaluateRule (rule : AlertRule F) (scope : Scope) (evaluation : Evaluation F) (db : Database F) :
    Evaluated F :=
  let start : Pass F := ⟨⟨db, evaluation.random⟩, 0, []⟩
  if rule.scope ≠ scope ∨ rule.validate = false then Pass.finish (start, some .invalidRule) false
  else match evaluation.queried with
    | .error e => Pass.finish (start, some e) false
    | .ok queried =>
      let windowStart := evaluation.now - rule.effectiveLookbackWindow
      let (samples, dimensions) := filterEvaluationSamples rule windowStart evaluation.now queried
      let groups := groupSeries samples
      let hasData := !groups.isEmpty
      match visitSeries rule windowStart evaluation.now (evaluation.series.order groups) start with
      | (pass, some e) => Pass.finish (pass, some e) hasData
      | (pass, none) =>
        Pass.finish (evaluateMissing rule evaluation windowStart samples.length groups dimensions pass) hasData

end evaluation

end DBPilot.Alerts
