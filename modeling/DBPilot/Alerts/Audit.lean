import DBPilot.Alerts.Model

/-!
# Audit records

`internal/alert/audit.go`, for the actions that events and deliveries write. A
detail that its action does not allow is dropped before a record is stored; one
whose key the action knows is refused instead.
-/

namespace DBPilot.Alerts

open Text
open Jobs (isBlank)

inductive DeliveryStatus where
  | attempting
  | delivered
  | suppressed
  | retryScheduled
  | abandoned
  deriving DecidableEq

def DeliveryStatus.text : DeliveryStatus → String
  | .attempting => "attempting"
  | .delivered => "delivered"
  | .suppressed => "suppressed"
  | .retryScheduled => "retry_scheduled"
  | .abandoned => "abandoned"

inductive DeliveryAction where
  | suppressed
  | delivered
  | retrying
  | retryScheduled
  | abandoned
  deriving DecidableEq

def DeliveryAction.text : DeliveryAction → String
  | .suppressed => "delivery.suppressed"
  | .delivered => "delivery.delivered"
  | .retrying => "delivery.retrying"
  | .retryScheduled => "delivery.retry_scheduled"
  | .abandoned => "delivery.abandoned"

inductive AuditAction where
  /-- "event." with the state -/
  | event (state : EventState)
  | evaluationFailed
  | delivery (action : DeliveryAction)
  deriving DecidableEq

structure AuditRecord where
  id : String
  scope : Scope
  actor : String
  action : AuditAction
  targetID : String
  occurredAt : Time
  details : StringMap
  deriving DecidableEq

def AuditRecord.key (record : AuditRecord) : Scope × String := (record.scope, record.id)

def redactedValue : String := "[REDACTED]"

def conditionSinceEvidenceKey : String := "condition_since"

def canonicalResourceDimensions : List String := ["instance", "component", "role", "host"]

def sanitizeDetails (details : StringMap) : StringMap :=
  details.map fun entry => (entry.1, if sensitiveField entry.1 then redactedValue else entry.2)

lemma get_sanitizeDetails {details : StringMap} {key : String} (plain : sensitiveField key = false) :
    StringMap.get (sanitizeDetails details) key = StringMap.get details key := by
  have read : StringMap.get (sanitizeDetails details) key = (StringMap.get details key).map
      fun value => if sensitiveField key then redactedValue else value :=
    StringMap.get_map (f := fun key value => if sensitiveField key then redactedValue else value)
  rw [read]
  simp [plain]

def sanitizeFailureClass (value : String) : String :=
  let trimmed := (value.toList.dropWhile Jobs.isSpace).reverse.dropWhile Jobs.isSpace
  let kept := (lower trimmed.reverse).filter fun c => 'a' ≤ c && c ≤ 'z' || isDigit c || c = '_' || c = '-'
  if kept.isEmpty then "delivery_error" else String.ofList (kept.take 64)

/-! The texts of failure classes pass the checks of audit details. -/

/-- The characters that a failure class keeps. -/
def isClassChar (c : Char) : Bool := 'a' ≤ c && c ≤ 'z' || isDigit c || c = '_' || c = '-'

lemma isClassChar_toNat {c : Char} (plain : isClassChar c = true) :
    97 ≤ c.toNat ∧ c.toNat ≤ 122 ∨ 48 ≤ c.toNat ∧ c.toNat ≤ 57 ∨ c.toNat = 95 ∨ c.toNat = 45 := by
  simp only [isClassChar, isDigit, Bool.or_eq_true, Bool.and_eq_true, decide_eq_true_eq] at plain
  rcases plain with ((⟨low, high⟩ | ⟨low, high⟩) | rfl) | rfl
  · exact .inl ⟨low, high⟩
  · exact .inr (.inl ⟨low, high⟩)
  · decide
  · decide

lemma lowerChar_of_isClassChar {c : Char} (plain : isClassChar c = true) : lowerChar c = c := by
  have code := isClassChar_toNat plain
  unfold lowerChar Char.toLower
  rw [if_neg (by omega), if_neg (by omega)]
  split
  · rename_i upper
    have low : 65 ≤ c.toNat := UInt32.le_iff_toNat_le.mp upper.1
    have high : c.toNat ≤ 90 := UInt32.le_iff_toNat_le.mp upper.2
    omega
  · rfl

lemma not_isSpace_of_isClassChar {c : Char} (plain : isClassChar c = true) : Jobs.isSpace c = false := by
  have code := isClassChar_toNat plain
  simp [Jobs.isSpace]
  omega

lemma dropWhile_isSpace {s : List Char} (plain : ∀ c ∈ s, isClassChar c = true) : s.dropWhile Jobs.isSpace = s := by
  cases s with
  | nil => rfl
  | cons c => simp [not_isSpace_of_isClassChar (plain c List.mem_cons_self)]

lemma lower_of_plain {s : List Char} (plain : ∀ c ∈ s, isClassChar c = true) : lower s = s := by
  refine (List.map_congr_left ?_).trans (List.map_id s)
  intro c listed
  exact lowerChar_of_isClassChar (plain c listed)

lemma sanitizeFailureClass_plain {value : String} :
    (∀ c ∈ (sanitizeFailureClass value).toList, isClassChar c = true) ∧ sanitizeFailureClass value ≠ "" ∧
      (sanitizeFailureClass value).toList.length ≤ 64 := by
  unfold sanitizeFailureClass
  dsimp only
  split
  · exact ⟨List.all_eq_true.mp (by decide), by decide, by decide⟩
  · rename_i kept
    rw [String.toList_ofList]
    refine ⟨?_, ?_, by simp⟩
    · intro c listed
      exact (List.mem_filter.mp (List.mem_of_mem_take listed)).2
    · intro nothing
      have none := congrArg String.toList nothing
      rw [String.toList_ofList] at none
      simp only [String.toList_empty, List.take_eq_nil_iff] at none
      rcases none with impossible | none
      · cases impossible
      · rw [none] at kept
        exact kept rfl

variable {value : String}

lemma sanitizeFailureClass_of_plain (plain : ∀ c ∈ value.toList, isClassChar c = true) (some : value ≠ "")
    (short : value.toList.length ≤ 64) : sanitizeFailureClass value = value := by
  have backwards : ∀ c ∈ value.toList.reverse, isClassChar c = true := by simpa using plain
  have kept : (value.toList.filter fun c => 'a' ≤ c && c ≤ 'z' || isDigit c || c = '_' || c = '-') = value.toList :=
    List.filter_eq_self.mpr plain
  unfold sanitizeFailureClass
  dsimp only
  rw [dropWhile_isSpace plain, dropWhile_isSpace backwards, List.reverse_reverse, lower_of_plain plain, kept]
  split
  · rename_i nothing
    exact absurd (String.toList_eq_nil_iff.mp (List.isEmpty_iff.mp nothing)) some
  · rw [List.take_of_length_le short, String.ofList_toList]

/-- A failure class that was sanitized is one that its check accepts. -/
lemma sanitizeFailureClass_twice :
    sanitizeFailureClass (sanitizeFailureClass value) = sanitizeFailureClass value := by
  obtain ⟨plain, some, short⟩ := @sanitizeFailureClass_plain value
  exact sanitizeFailureClass_of_plain plain some short

/-- No text of such characters looks like a secret: every marker has another one. -/
lemma not_containsSecretMaterial (plain : ∀ c ∈ value.toList, isClassChar c = true) :
    containsSecretMaterial value = false := by
  rw [Bool.eq_false_iff]
  intro secret
  obtain ⟨marker, listed, found⟩ := List.any_eq_true.mp secret
  rw [lower_of_plain plain] at found
  have other : marker.toList.all isClassChar = false := by
    clear found
    revert marker
    decide
  obtain ⟨c, here, apart⟩ := List.all_eq_false.mp other
  exact apart (plain c (mem_of_contains found here))

def splitComma : List Char → List (List Char)
  | [] => [[]]
  | c :: rest => match splitComma rest with
    | [] => [[c]]
    | part :: parts => if c = ',' then [] :: part :: parts else (c :: part) :: parts

section details

variable (F : Type) [Float64 F] [TimeText]

def allowedEventDetail (state : EventState) (key value : String) : Bool :=
  match key with
  | "state" => value = state.text
  | "window_start" | "window_end" | "condition_since" => (TimeText.parse value).isSome
  | "samples" => (atoi value).any fun parsed => 0 ≤ parsed
  | "missing" => (parseBool value).isSome
  | "missing_dimensions" =>
    value != "" && (splitComma value.toList).all fun part =>
      canonicalResourceDimensions.contains (String.ofList part)
  | "aggregate" | "rate" => Float64.isFiniteText F value
  | "failure_kind" =>
    ["rule_evaluation", "no_data", "evaluation_delay", "queue_backlog"].contains value
  | "category" => validIdentifier value
  | "reason_present" => parseBool value = some true
  | _ => false

def allowedDeliveryDetail (key value : String) : Bool :=
  match key with
  | "status" =>
    ["attempting", "delivered", "suppressed", "retry_scheduled", "abandoned"].contains value
  | "channel" => validIdentifier value
  | "attempt" => (atoi value).any fun parsed => 0 ≤ parsed
  | "failure_class" => sanitizeFailureClass value = value
  | _ => false

def allowedAuditDetail (action : AuditAction) (key value : String) : Bool :=
  !sensitiveField key && !containsSecretMaterial value &&
    match action with
    | .event state => allowedEventDetail F state key value
    | .evaluationFailed => key = "failure_kind" && value = "rule_evaluation"
    | .delivery _ => allowedDeliveryDetail key value

def knownAuditDetailKey (action : AuditAction) (key : String) : Bool :=
  match action with
  | .event _ => ["state", "window_start", "window_end", conditionSinceEvidenceKey, "samples", "missing",
      "missing_dimensions", "aggregate", "rate", "failure_kind", "category", "reason_present"].contains key
  | .evaluationFailed => key = "failure_kind"
  | .delivery _ => ["status", "channel", "attempt", "failure_class"].contains key

def validateAuditDetailTypes (record : AuditRecord) : Bool :=
  record.details.all fun (key, value) =>
    !knownAuditDetailKey record.action key || allowedAuditDetail F record.action key value

def sanitizeAuditDetails (action : AuditAction) (details : StringMap) : StringMap :=
  details.filter fun (key, value) => allowedAuditDetail F action key value

def sanitizeAuditRecord (record : AuditRecord) : AuditRecord :=
  { record with details := sanitizeAuditDetails F record.action record.details }

def AuditRecord.validate (record : AuditRecord) : Bool :=
  record.scope.validate && !isBlank record.id && !isBlank record.actor && !isBlank record.targetID &&
    !isZero record.occurredAt && record.details.all fun (key, value) =>
      allowedAuditDetail F record.action key value

variable {F}

end details

end DBPilot.Alerts
