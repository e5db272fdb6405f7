import DBPilot.Alerts.Notification
import DBPilot.Lib.LengthPrefix

/-!
# What the identities of events and deliveries tell

Events and deliveries are found under the SHA-256 of their parts, each of which is
written after its length. A string of the source is any bytes; the texts of the model
are those that are UTF-8. Where SHA-256 tells two messages apart, so do the identities.
-/

namespace DBPilot.Alerts

open Text
open Jobs (sum256)
open Wire (Bytes utf8)
open LengthPrefix (fields fields_injective utf8_field)

/-- A type of strings: how one is written, and the order in which `sort.Strings` puts them. -/
class GoString (T : Type) where
  bytes : T → Bytes
  le : T → T → Bool
  injective : Function.Injective bytes

instance : GoString Bytes := ⟨id, fun a b => decide (a ≤ b), Function.injective_id⟩
instance : GoString String := ⟨utf8, fun a b => decide (a ≤ b), Wire.utf8_injective⟩

/-- What `EventFingerprint` is given, with the entries of the map in any order. -/
structure EventParts (T : Type) where
  tenantID : T
  projectID : T
  ruleID : T
  labels : List (T × T)

/-- What `deliveryIdempotencyKey` is given. -/
structure DeliveryParts (T : Type) where
  eventID : T
  state : T
  channel : T
  policyID : T
  policyVersion : T
  templateVersion : T

section

variable {T : Type} [GoString T]

open GoString (bytes)

def EventParts.message (e : EventParts T) : Bytes :=
  fields [bytes e.tenantID, bytes e.projectID, bytes e.ruleID, fields
    ((e.labels.insertionSort fun a b => GoString.le a.1 b.1).flatMap fun entry => [bytes entry.1, bytes entry.2])]

def DeliveryParts.message (d : DeliveryParts T) : Bytes :=
  fields [utf8 "dbpilot.delivery.v2", bytes d.eventID, bytes d.state, bytes d.channel, bytes d.policyID,
    bytes d.policyVersion, bytes d.templateVersion]

def identity (message : Bytes) : String := hex (sum256 message).bytes

/-- SHA-256 tells these two messages apart. -/
abbrev Collisionless (message other : Bytes) : Prop := sum256 message = sum256 other → message = other

lemma message_eq_of_identity {message other : Bytes} (apart : Collisionless message other)
    (same : identity message = identity other) : message = other := by
  apply apart
  rw [Jobs.Digest.mk.injEq]
  exact hex_injective same

/-- Keys and values are told apart by their places. -/
lemma entries_injective : Function.Injective (List.flatMap fun entry : T × T => [bytes entry.1, bytes entry.2]) := by
  apply flatMap_injective fun _ => List.cons_ne_nil _ _
  intro entry other s t same
  obtain ⟨key, rest⟩ := List.cons.inj same
  obtain ⟨value, rest⟩ := List.cons.inj rest
  exact ⟨Prod.ext (GoString.injective key) (GoString.injective value), rest⟩

/-- Equal identities have equal parts, up to the order of the map's entries. -/
theorem identities_determine {e e' : EventParts T} {d d' : DeliveryParts T}
    (events : Collisionless e.message e'.message) (deliveries : Collisionless d.message d'.message) :
    (identity e.message = identity e'.message → e.tenantID = e'.tenantID ∧ e.projectID = e'.projectID ∧
      e.ruleID = e'.ruleID ∧ e.labels.Perm e'.labels) ∧
    (identity d.message = identity d'.message → d = d') := by
  have injective : Function.Injective (bytes : T → Bytes) := GoString.injective
  constructor
  · intro same
    have parts := fields_injective (message_eq_of_identity events same)
    simp only [List.cons.injEq, injective.eq_iff, fields_injective.eq_iff, and_true] at parts
    obtain ⟨tenant, project, rule, labels⟩ := parts
    have sorted := entries_injective labels
    have perm := (List.perm_insertionSort (fun a b : T × T => GoString.le a.1 b.1 = true) e.labels).symm
    rw [sorted] at perm
    exact ⟨tenant, project, rule, perm.trans (List.perm_insertionSort _ _)⟩
  · intro same
    have parts := fields_injective (message_eq_of_identity deliveries same)
    cases d
    cases d'
    simpa [injective.eq_iff] using parts

end

/-! The identities of the model. -/

lemma utf8_canonicalParts (parts : List String) : utf8 (canonicalParts parts) = fields (parts.map utf8) := by
  induction parts with
  | nil => rfl
  | cons part parts ih =>
    have first : utf8 (toString part.utf8ByteSize ++ ":" ++ part) = LengthPrefix.field (utf8 part) := utf8_field part
    rw [canonicalParts, List.map_cons, String.join_cons, Wire.utf8_append, first]
    exact congrArg (LengthPrefix.field (utf8 part) ++ ·) ih

lemma eventFingerprint_eq (scope : Scope) (ruleID : String) (labels : StringMap) :
    eventFingerprint scope ruleID labels =
      identity (EventParts.message ⟨scope.tenantID, scope.projectID, ruleID, labels⟩) := by
  have entries : utf8 (canonicalLabels labels) =
      fields ((StringMap.sorted labels).flatMap fun entry => [utf8 entry.1, utf8 entry.2]) := by
    rw [canonicalLabels, utf8_canonicalParts, List.map_flatMap]
    rfl
  unfold eventFingerprint fingerprintParts identity
  rw [utf8_canonicalParts, List.map_cons, List.map_cons, List.map_cons, List.map_singleton, entries]
  simp [EventParts.message, StringMap.sorted, GoString.bytes, GoString.le]

lemma deliveryIdempotencyKey_eq (eventID : String) (state : EventState)
    (channel policyID policyVersion templateVersion : String) :
    deliveryIdempotencyKey eventID state channel policyID policyVersion templateVersion =
      identity (DeliveryParts.message ⟨eventID, state.text, channel, policyID, policyVersion, templateVersion⟩) := by
  rw [deliveryIdempotencyKey, utf8_canonicalParts]
  rfl

/-- A label whose value looks like a length, and one whose key does. -/
def lengthInValue : EventParts Bytes := ⟨utf8 "t", utf8 "p", utf8 "r", [(utf8 "a", utf8 "1:b")]⟩

def lengthInKey : EventParts Bytes := ⟨utf8 "t", utf8 "p", utf8 "r", [(utf8 "a1:", utf8 "b")]⟩

theorem identities_determine_lengths : identity lengthInValue.message ≠ identity lengthInKey.message := by
  have delivery : DeliveryParts Bytes := ⟨[], [], [], [], [], []⟩
  intro same
  have parts := (identities_determine (by decide +kernel) (fun _ => rfl : Collisionless delivery.message _)).1 same
  exact absurd (List.perm_singleton.mp parts.2.2.2) (by decide +kernel)

end DBPilot.Alerts
