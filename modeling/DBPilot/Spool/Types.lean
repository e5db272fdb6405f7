import DBPilot.Lib.Checksum
import DBPilot.Lib.SegmentedLog
import DBPilot.Lib.WallClock

/-!
# The values of the telemetry spool

Batches, cursor receipts, segment record headers and in-memory entries of
`internal/spool`. Strings are valid UTF-8. Sequence numbers and configuration
revisions are naturals: the code only compares them, increments the spool's own
sequence, and prints them in decimal.

A segment file is named by its `Segment`: `active.open` is `.active` and
`fmt.Sprintf("%020d.seg", first)` is `.sealed first`. The names are injective in
`first` and sort as `first` does.
-/

namespace DBPilot.Spool

open WallClock SegmentedLog

abbrev Bytes := List UInt8

/-- `type DataClass string`: the four declared classes and any other string. -/
inductive DataClass where
  | log
  | auditLog
  | metric
  | jobResult
  | other (name : String) (unknown : name ∉ ["LOG", "AUDIT_LOG", "METRIC", "JOB_RESULT"])
  deriving DecidableEq

def validClass : DataClass → Bool
  | .log | .auditLog | .metric | .jobResult => true
  | .other _ _ => false

/-- The classes that can be keys of the entry map. -/
def classes : List DataClass := [.log, .auditLog, .metric, .jobResult]

lemma mem_classes {c : DataClass} : c ∈ classes ↔ validClass c = true := by
  cases c <;> simp [classes, validClass]

lemma classes_nodup : classes.Nodup := by simp [classes]

structure Limits where
  maxBytes : Int
  segmentBytes : Int
  deriving DecidableEq

structure Batch where
  id : String
  sourceID : String
  createdAt : Time
  priority : Int
  payload : Bytes
  checksum : UInt32
  deriving DecidableEq

structure CursorReceipt where
  key : String
  assignmentID : String
  configurationRevision : Nat
  templateID : String
  instanceID : String
  sequence : Nat
  digest : Bytes
  collectedAt : Time
  ackPending : Bool
  deriving DecidableEq

structure PersistedCursorReceipt where
  version : Nat
  key : String
  assignmentID : String
  configurationRevision : Nat
  templateID : String
  instanceID : String
  sequence : Nat
  digest : Bytes
  collectedAt : Time
  ackPending : Bool
  deriving DecidableEq

inductive CursorAppendResult where
  | stored
  | duplicate
  deriving DecidableEq

structure RecordHeader where
  id : String
  sourceID : String
  createdAt : Time
  priority : Int
  checksum : UInt32
  dataClass : DataClass
  sequence : Nat
  cursor : Option PersistedCursorReceipt
  deriving DecidableEq

structure Entry where
  batch : Batch
  dataClass : DataClass
  sequence : Nat
  file : Segment
  bytes : Nat
  cursor : Option PersistedCursorReceipt
  deriving DecidableEq

inductive SpoolError where
  | invalidRoot
  | invalidBatch
  | invalidReceipt
  | invalidKey
  | invalidAcknowledgement
  | invalidPending
  | payloadTooLarge
  | invalidHeader
  | marshal
  | cursorConflict
  | cursorACKPending
  | capacityExhausted
  | auditCapacity
  | io
  /-- The bound on the eviction loop; no reachable store returns it. -/
  | unbounded
  deriving DecidableEq

inductive Finding where
  | auditSpoolFull
  | auditSpoolIOFailure
  | corruptSegment
  deriving DecidableEq

def publicCursorReceipt (value : PersistedCursorReceipt) : CursorReceipt where
  key := value.key
  assignmentID := value.assignmentID
  configurationRevision := value.configurationRevision
  templateID := value.templateID
  instanceID := value.instanceID
  sequence := value.sequence
  digest := value.digest
  collectedAt := value.collectedAt.utc
  ackPending := value.ackPending

def clonePersistedCursor (value : PersistedCursorReceipt) : PersistedCursorReceipt :=
  { value with collectedAt := value.collectedAt.utc }

def wantKey (value : CursorReceipt) : String :=
  value.assignmentID ++ "\x00" ++ toString value.configurationRevision ++ "\x00" ++
    value.templateID ++ "\x00" ++ value.instanceID

def validCursorReceipt (value : CursorReceipt) : Bool :=
  value.key == wantKey value && value.key.utf8ByteSize ≤ 1024 &&
    !value.key.toList.any (fun c => c == '\r' || c == '\n') && value.assignmentID != "" &&
    value.configurationRevision > 0 && value.templateID != "" && value.instanceID != "" &&
    value.sequence > 0 && value.digest.length == 32 && !value.collectedAt.isZero

/-- `strconv.ParseUint(s, 10, 64)`. -/
def parseUint (s : String) : Option Nat :=
  if s ≠ "" ∧ s.toList.all Char.isDigit then
    let value := s.toList.foldl (fun value c => value * 10 + (c.toNat - '0'.toNat)) 0
    if value < 2 ^ 64 then some value else none
  else none

/-- The fields a receipt of version 0 did not have are taken from its key. -/
def migrateLegacy (value : PersistedCursorReceipt) : Option PersistedCursorReceipt :=
  match (value.key.toList.splitOn '\x00').map String.ofList with
  | [assignmentID, revision, templateID, instanceID] =>
    match parseUint revision with
    | some (revision + 1) => some { value with
        version := 1, assignmentID := assignmentID, configurationRevision := revision + 1,
        templateID := templateID, instanceID := instanceID, ackPending := true }
    | _ => none
  | _ => none

/-- The check updates a legacy receipt in place: the value it leaves behind, or
nothing when it answers false. -/
def validPersistedCursorReceipt (value : PersistedCursorReceipt) : Option PersistedCursorReceipt :=
  match if value.version = 0 then migrateLegacy value else some value with
  | some value =>
    if value.version = 1 ∧ validCursorReceipt (publicCursorReceipt value) then some value else none
  | none => none

variable {value : PersistedCursorReceipt}

namespace PersistedCursorReceipt

/-- A receipt of the current version, as `AppendWithCursor` builds it. -/
structure Current (value : PersistedCursorReceipt) : Prop where
  version : value.version = 1
  valid : validCursorReceipt (publicCursorReceipt value) = true
  utc : value.collectedAt.offset = 0

def withAck (value : PersistedCursorReceipt) (ackPending : Bool) : PersistedCursorReceipt :=
  { value with ackPending := ackPending }

section

variable (value : PersistedCursorReceipt)

@[simp] lemma withAck_withAck (a b : Bool) : (value.withAck a).withAck b = value.withAck b := rfl

@[simp] lemma withAck_key (a : Bool) : (value.withAck a).key = value.key := rfl

@[simp] lemma withAck_sequence (a : Bool) : (value.withAck a).sequence = value.sequence := rfl

@[simp] lemma withAck_digest (a : Bool) : (value.withAck a).digest = value.digest := rfl

@[simp] lemma withAck_collectedAt (a : Bool) : (value.withAck a).collectedAt = value.collectedAt := rfl

end

lemma Current.withAck (h : value.Current) (a : Bool) : (value.withAck a).Current := ⟨h.version, h.valid, h.utc⟩

end PersistedCursorReceipt

lemma clonePersistedCursor_of_current (h : value.Current) : clonePersistedCursor value = value := by
  simp [clonePersistedCursor, Time.utc_eq_self h.utc]

end DBPilot.Spool
