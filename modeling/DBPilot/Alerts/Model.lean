import DBPilot.Jobs.Types
import DBPilot.Lib.Text
import DBPilot.Lib.Wire

/-!
# Rules, events and their identities

The contracts of `internal/alert/model.go`. Strings are valid UTF-8 without NUL,
as the database keeps them. A `time.Time` is `none` when it is the zero time,
which is also how a NULL column reads; otherwise it is a UTC instant in
nanoseconds. The closed option sets of a rule are types.

`float64` and the RFC 3339 text of times are what the classes `Float64` and
`TimeText` say: a rule can be evaluated with any arithmetic, and a time may have
no text that reads back, as times after the year 9999 have none.
-/

namespace DBPilot.Alerts

open Text
open Jobs (Instant isBlank isTrimmed sum256)

abbrev Time := Option Instant

def isZero (t : Time) : Bool := t.isNone

/-- The zero time is the instant 0. -/
def before (t u : Time) : Bool := t.getD 0 < u.getD 0

/-- What the evaluator computes with `float64`. -/
class Float64 (F : Type) where
  ofNat : Nat → F
  add : F → F → F
  sub : F → F → F
  div : F → F → F
  lt : F → F → Bool
  le : F → F → Bool
  eq : F → F → Bool
  /-- Neither NaN nor an infinity. -/
  isFinite : F → Bool
  /-- `Duration.Seconds`. -/
  seconds : Int → F
  /-- `strconv.FormatFloat(x, 'g', -1, 64)`. -/
  format : F → String
  /-- `strconv.ParseFloat` accepts the text and the value is finite. -/
  isFiniteText : String → Bool

/-- `Format` and `Parse` with the layout `time.RFC3339Nano`. -/
class TimeText where
  format : Instant → String
  parse : String → Option Instant
  parse_format : ∀ {t u}, parse (format t) = some u → u = t

/-- Exact arithmetic, which `float64` agrees with on small integers; their texts
are the decimal ones. -/
instance : Float64 Rat where
  ofNat n := n
  add x y := x + y
  sub x y := x - y
  div x y := x / y
  lt x y := x < y
  le x y := x ≤ y
  eq x y := x = y
  isFinite _ := true
  seconds ns := ns / 1000000000
  format x := toString x.num
  isFiniteText s := (atoi s).isSome

/-- Times that have the text a table gives them, and no others. -/
@[reducible] def TimeText.ofTable (table : List (Instant × String)) (distinct : (table.map Prod.snd).Nodup)
    (written : "" ∉ table.map Prod.snd) : TimeText where
  format t := (table.lookup t).getD ""
  parse s := (table.find? fun entry => entry.2 = s).map Prod.fst
  parse_format := by
    intro t u read
    obtain ⟨entry, found, rfl⟩ := Option.map_eq_some_iff.mp read
    have listed := List.mem_of_find?_eq_some found
    have text : entry.2 = (table.lookup t).getD "" := by simpa using List.find?_some found
    cases known : table.lookup t with
    | none =>
      rw [known] at text
      exact absurd (List.mem_map.mpr ⟨entry, listed, text⟩) written
    | some s =>
      rw [known] at text
      obtain ⟨front, back, rfl, _⟩ := List.lookup_eq_some_iff.mp known
      have here : (t, s) ∈ front ++ (t, s) :: back := by simp
      have same := List.inj_on_of_nodup_map distinct listed here text
      rw [same]

inductive AlertError where
  | invalidScope
  | invalidRule
  | invalidEvent
  | invalidEventTransition
  | invalidEventTransitionTime
  | invalidDisposition
  | invalidAuditRecord
  | unsupportedAggregation
  | invalidRateWindow
  | invalidMetricQuery
  | notFound
  | invalidNotification
  | invalidTemplate
  | notificationScopeMismatch
  /-- "generate control-plane ID" -/
  | controlPlaneID
  /-- A constraint of the schema. -/
  | constraint
  deriving DecidableEq

structure Scope where
  tenantID : String
  projectID : String
  deriving DecidableEq

def Scope.validate (s : Scope) : Bool := !isBlank s.tenantID && !isBlank s.projectID

inductive EventState where
  | pending
  | firing
  | acknowledged
  | resolved
  deriving DecidableEq

def EventState.text : EventState → String
  | .pending => "pending"
  | .firing => "firing"
  | .acknowledged => "acknowledged"
  | .resolved => "resolved"

inductive Aggregation where
  | avg
  | max
  | min
  | sum
  | count
  | rate
  deriving DecidableEq

inductive Operator where
  | gt
  | ge
  | lt
  | le
  | eq
  | ne
  deriving DecidableEq

inductive MissingData where
  | ignore
  | alert
  | resolve
  deriving DecidableEq

structure AlertRule (F : Type) where
  id : String
  scope : Scope
  name : String
  metric : String
  aggregation : Aggregation
  operator : Operator
  threshold : F
  evaluationEvery : Int
  lookbackWindow : Int
  forDuration : Int
  missingData : MissingData
  severity : String
  notificationPolicyIDs : List String
  labels : StringMap
  enabled : Bool

def AlertRule.key {F : Type} (rule : AlertRule F) : Scope × String := (rule.scope, rule.id)

def allowedSeverity (value : String) : Bool := value ∈ ["info", "warning", "critical"]

def validIdentifier (value : String) : Bool :=
  value != "" && value.utf8ByteSize ≤ 128 && value.toList.zipIdx.all fun (c, index) =>
    isLetter c || c = '_' || c = '-' || c = '.' || 0 < index && isDigit c

def validLabelName (value : String) : Bool :=
  value != "" && value.toList.zipIdx.all fun (c, index) =>
    isLetter c || c = '_' || 0 < index && isDigit c

def containsSecretMaterial (value : String) : Bool :=
  ["password=", "passwd=", "secret=", "token=", "bearer ", "authorization:", "postgres://",
    "postgresql://", "mysql://"].any fun marker => contains marker.toList (lower value.toList)

def sensitiveField (field : String) : Bool :=
  let normalized := lower (field.toList.map fun c => if c = '-' || c = '.' then '_' else c)
  ["password", "passwd", "secret", "token", "credential", "api_key", "authorization"].any
    fun marker => contains marker.toList normalized

def validLabelMatchers (matchers : StringMap) : Bool :=
  matchers.all fun (key, value) =>
    validLabelName key && !isBlank value && !sensitiveField key && !containsSecretMaterial value

def AlertRule.validate {F : Type} [Float64 F] (r : AlertRule F) : Bool :=
  r.scope.validate && !isBlank r.name && !isBlank r.metric && allowedSeverity r.severity &&
    Float64.isFinite r.threshold && 0 < r.evaluationEvery && 0 ≤ r.lookbackWindow && 0 < r.forDuration &&
    r.notificationPolicyIDs.all validIdentifier && validLabelMatchers r.labels

def AlertRule.effectiveLookbackWindow {F : Type} (r : AlertRule F) : Int :=
  if 0 < r.lookbackWindow then r.lookbackWindow else r.evaluationEvery

structure AlertEvent where
  id : String
  scope : Scope
  ruleID : String
  fingerprint : String
  labels : StringMap
  evidence : StringMap
  state : EventState
  firstSeen : Time
  lastSeen : Time
  firingAt : Time := none
  acknowledgedAt : Time := none
  resolvedAt : Time := none
  lastActor : String
  deriving DecidableEq

def AlertEvent.key (e : AlertEvent) : Scope × String := (e.scope, e.fingerprint)

def validEventTimestamp (value firstSeen lastSeen : Time) : Bool :=
  isZero value || !before value firstSeen && !before lastSeen value

def AlertEvent.validate (e : AlertEvent) : Bool :=
  e.scope.validate && !isBlank e.ruleID && !isBlank e.fingerprint &&
    !isZero e.firstSeen && !isZero e.lastSeen && !before e.lastSeen e.firstSeen &&
    validEventTimestamp e.firingAt e.firstSeen e.lastSeen &&
    validEventTimestamp e.acknowledgedAt e.firstSeen e.lastSeen &&
    validEventTimestamp e.resolvedAt e.firstSeen e.lastSeen &&
    match e.state with
    | .pending => isZero e.firingAt && isZero e.acknowledgedAt && isZero e.resolvedAt
    | .firing => !isZero e.firingAt && isZero e.acknowledgedAt && isZero e.resolvedAt
    | .acknowledged => !isZero e.firingAt && !isZero e.acknowledgedAt &&
        !before e.acknowledgedAt e.firingAt && isZero e.resolvedAt
    | .resolved => !isZero e.resolvedAt && (isZero e.firingAt || !before e.resolvedAt e.firingAt) &&
        (isZero e.acknowledgedAt || !isZero e.firingAt && !before e.resolvedAt e.acknowledgedAt)

def permittedTransition : EventState → EventState → Bool
  | .pending, .firing | .pending, .resolved => true
  | .firing, .acknowledged | .firing, .resolved => true
  | .acknowledged, .resolved => true
  | _, _ => false

/-- The event in its next state, without the checks. -/
def AlertEvent.moved (e : AlertEvent) (next : EventState) (now : Time) (actor : String) : AlertEvent :=
  { e with
    firstSeen := if isZero e.firstSeen then now else e.firstSeen
    state := next
    lastSeen := now
    lastActor := actor
    firingAt := if next = .firing then now else e.firingAt
    acknowledgedAt := if next = .acknowledged then now else e.acknowledgedAt
    resolvedAt := if next = .resolved then now else e.resolvedAt }

def AlertEvent.transition (e : AlertEvent) (next : EventState) (now : Time) (actor : String) :
    Except AlertError AlertEvent :=
  if isZero now then .error .invalidEventTransitionTime
  else if !isZero e.firstSeen && before now e.firstSeen || !isZero e.lastSeen && before now e.lastSeen then
    .error .invalidEventTransitionTime
  else if !permittedTransition e.state next then .error .invalidEventTransition
  else .ok (e.moved next now actor)

lemma AlertEvent.transition_eq_ok {e e' : AlertEvent} {next : EventState} {now : Time} {actor : String}
    (moved : e.transition next now actor = .ok e') :
    permittedTransition e.state next = true ∧ isZero now = false ∧
      (isZero e.lastSeen = false → before now e.lastSeen = false) ∧ e' = e.moved next now actor := by
  unfold transition at moved
  split at moved
  · cases moved
  rename_i dated
  split at moved
  · cases moved
  rename_i ordered
  split at moved
  · cases moved
  rename_i permitted
  simp only [Bool.or_eq_true, Bool.and_eq_true, not_or, not_and, Bool.not_eq_true, Bool.not_eq_eq_eq_not,
    Bool.not_true] at dated ordered permitted
  refine ⟨by simpa using permitted, dated, ordered.2, ?_⟩
  injection moved with moved
  exact moved.symm

/-! Identities: length-prefixed parts under SHA-256. -/

def canonicalParts (parts : List String) : String :=
  String.join (parts.map fun part => toString part.utf8ByteSize ++ ":" ++ part)

def fingerprintParts (parts : List String) : String := hex (sum256 (Wire.utf8 (canonicalParts parts))).bytes

def canonicalLabels (labels : StringMap) : String :=
  canonicalParts ((StringMap.sorted labels).flatMap fun (key, value) => [key, value])

def eventFingerprint (scope : Scope) (ruleID : String) (labels : StringMap) : String :=
  fingerprintParts [scope.tenantID, scope.projectID, ruleID, canonicalLabels labels]

def seriesFingerprint (labels : StringMap) : String := fingerprintParts [canonicalLabels labels]

def Scope.key (s : Scope) : String := canonicalParts [s.tenantID, s.projectID]

inductive EventDispositionKind where
  | acknowledgement
  | resolution
  | rootCause
  deriving DecidableEq

structure EventDisposition where
  id : String
  scope : Scope
  eventID : String
  kind : EventDispositionKind
  category : String
  reason : String
  actor : String
  occurredAt : Time
  deriving DecidableEq

def EventDisposition.key (d : EventDisposition) : Scope × String := (d.scope, d.id)

def EventDisposition.validate (d : EventDisposition) : Bool :=
  d.scope.validate && validIdentifier d.id && validIdentifier d.eventID && validIdentifier d.category &&
    !isBlank d.actor && isTrimmed d.actor && !isZero d.occurredAt &&
    !isBlank d.reason && isTrimmed d.reason && d.reason.utf8ByteSize ≤ 1024 &&
    !containsSecretMaterial d.reason

end DBPilot.Alerts
