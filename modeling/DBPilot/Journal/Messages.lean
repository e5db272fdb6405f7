import DBPilot.Lib.Wire

/-!
# The messages the Agent's journal keeps

Command envelopes and command results of `command.proto`, encoded as Go's
deterministic `Marshal` does: fields in the order of their numbers, scalars at
their default left out. Nested messages that the journal does not look into
(artifacts, the trial result, the command itself) stand as their encodings.
Strings are valid UTF-8; `Marshal` refuses others.
-/

namespace DBPilot.Journal

open Wire

/-- `google.protobuf.Timestamp`. -/
structure Timestamp where
  seconds : Int64
  nanos : Int32
  deriving DecidableEq

def encodeTimestamp (t : Timestamp) : Bytes :=
  encode (number 1 t.seconds.toUInt64.toNat ++ number 2 t.nanos.toInt64.toUInt64.toNat)

def decodeTimestamp (encoded : Bytes) : Option Timestamp :=
  (decode encoded).map fun fields =>
    ⟨(UInt64.ofNat (getNumber 1 fields)).toInt64, (UInt64.ofNat (getNumber 2 fields)).toInt64.toInt32⟩

/-- From the year 1 to the year 9999. -/
def Timestamp.isValid (t : Timestamp) : Bool :=
  -62135596800 ≤ t.seconds.toInt && t.seconds.toInt ≤ 253402300799 && 0 ≤ t.nanos.toInt && t.nanos.toInt < 1000000000

structure CommandEnvelope where
  commandID : String
  jobID : String := ""
  issuedAt : Option Timestamp := none
  expiresAt : Option Timestamp
  nonce : Bytes
  signature : Bytes := []
  leaseSeconds : Nat := 0
  agentID : String := ""
  /-- Which of the fields 20 to 30 is set. -/
  command : Option (Fin 11 × Bytes)
  deriving DecidableEq

def commandField (command : Option (Fin 11 × Bytes)) : List Field :=
  command.toList.map fun command => ⟨20 + command.1, .bytes command.2⟩

def CommandEnvelope.fields (envelope : CommandEnvelope) : List Field :=
  text 1 envelope.commandID ++ text 2 envelope.jobID ++
    embedded 3 (envelope.issuedAt.toList.map encodeTimestamp) ++
    embedded 4 (envelope.expiresAt.toList.map encodeTimestamp) ++ blob 5 envelope.nonce ++
    blob 6 envelope.signature ++ number 7 envelope.leaseSeconds ++ text 8 envelope.agentID ++
    commandField envelope.command

def encodeEnvelope (envelope : CommandEnvelope) : Bytes := encode envelope.fields

def getTimestamp (tag : Nat) (fields : List Field) : Option (Option Timestamp) :=
  match (strings tag fields).getLast? with
  | none => some none
  | some encoded => (decodeTimestamp encoded).map some

def commands (fields : List Field) : List (Fin 11 × Bytes) :=
  fields.filterMap fun field =>
    match field.payload with
    | .number _ => none
    | .bytes body => if h : 20 ≤ field.tag ∧ field.tag < 31 then some (⟨field.tag - 20, Nat.sub_lt_sub_right h.1 h.2⟩, body) else none

def decodeEnvelope (encoded : Bytes) : Option CommandEnvelope := do
  let fields ← decode encoded
  let commandID ← getText 1 fields
  let jobID ← getText 2 fields
  let issuedAt ← getTimestamp 3 fields
  let expiresAt ← getTimestamp 4 fields
  let agentID ← getText 8 fields
  return { commandID, jobID, issuedAt, expiresAt, nonce := getBlob 5 fields, signature := getBlob 6 fields,
           leaseSeconds := getNumber 7 fields, agentID, command := (commands fields).getLast? }

/-- The number of `COMMAND_RESULT_STATE_INTERRUPTED`. -/
def interruptedResultState : Nat := 5

structure CommandResult where
  commandID : String
  /-- The enumeration is open: any number may come. -/
  state : Nat
  summary : String := ""
  artifacts : List Bytes := []
  errorCode : String := ""
  executionToken : Bytes
  leaseRevision : Nat
  trialResult : Option Bytes := none
  deriving DecidableEq

def encodeResult (result : CommandResult) : Bytes :=
  encode (text 1 result.commandID ++ number 2 result.state ++ text 3 result.summary ++
    embedded 4 result.artifacts ++ text 5 result.errorCode ++ blob 6 result.executionToken ++
    number 7 result.leaseRevision ++ embedded 8 result.trialResult.toList)

def decodeResult (encoded : Bytes) : Option CommandResult := do
  let fields ← decode encoded
  let commandID ← getText 1 fields
  let summary ← getText 3 fields
  let errorCode ← getText 5 fields
  return { commandID, state := getNumber 2 fields, summary, artifacts := strings 4 fields, errorCode,
           executionToken := getBlob 6 fields, leaseRevision := getNumber 7 fields,
           trialResult := (strings 8 fields).getLast? }

/-- A result is read back as it was. -/
theorem decodeResult_encodeResult (result : CommandResult) : decodeResult (encodeResult result) = some result := by
  unfold decodeResult encodeResult
  rw [decode_encode]
  simp [getText, getBlob, getNumber, text]

section commandField

variable {tag : Nat} {command : Option (Fin 11 × Bytes)}

@[simp] lemma numbers_commandField : numbers tag (commandField command) = [] := by
  cases command <;> rfl

@[simp] lemma strings_commandField (low : tag < 20) : strings tag (commandField command) = [] := by
  cases command with
  | none => rfl
  | some command =>
    have other : 20 + command.1.val ≠ tag := by omega
    simp [commandField, strings, other]

@[simp] lemma commands_append {fields later : List Field} :
    commands (fields ++ later) = commands fields ++ commands later :=
  List.filterMap_append

@[simp] lemma commands_number (value : Nat) : commands (number tag value) = [] := by
  by_cases zero : value = 0 <;> simp [commands, number, zero]

@[simp] lemma commands_blob (low : tag < 20) (value : Bytes) : commands (blob tag value) = [] := by
  by_cases empty : value = []
  · simp [commands, blob, empty]
  · simp [commands, blob, empty]
    omega

@[simp] lemma commands_embedded (low : tag < 20) (values : List Bytes) : commands (embedded tag values) = [] := by
  simp [commands, embedded]
  omega

@[simp] lemma commands_commandField : commands (commandField command) = command.toList := by
  cases command with
  | none => rfl
  | some command =>
    have inside : 20 ≤ 20 + command.1.val ∧ 20 + command.1.val < 31 := by omega
    simp [commands, commandField, inside]

end commandField

end DBPilot.Journal
