import DBPilot.Jobs.Types
import DBPilot.Journal.Messages
import DBPilot.Lib.Upsert

/-!
# The Agent's command journal

The operations of `commandjournal/journal.go`, each a transaction on the stored
entries. Times are nanoseconds since the Unix epoch; the journal keeps them as
`int64`, where 0 stands for none. A digest stands for its hexadecimal text, an
absent one for the empty text. An entry survives its JSON encoding.

Failures of the database, and contexts that end, leave the journal as it is and
are not modelled. The order in which the database lists its entries is not
modelled either.
-/

namespace DBPilot.Journal

open Tables Transactions Upserts
open Jobs (Digest sum256 isBlank)
open Wire (Bytes)

abbrev Instant := Int

/-- The time that `IsZero` accepts. -/
def zeroTime : Instant := -62135596800 * 1000000000

/-- `UnixNano` wraps around outside the years 1678 to 2262. -/
def unixNano (t : Instant) : Int := t.bmod (2 ^ 64)

def Timestamp.unixNano (t : Timestamp) : Int :=
  Journal.unixNano (t.seconds.toInt * 1000000000 + t.nanos.toInt)

inductive State where
  | prepared
  | startAuthorized
  | running
  | interrupted
  | completed
  | cancelled
  | resultConflicted
  deriving DecidableEq

inductive JournalError where
  | invalidEnvelope
  | commandNotFound
  | commandExpired
  | invalidTransition
  /-- `ErrInvalidTransition` with the state of the entry and the one asked for. -/
  | refused (state : State) (target : String)
  | commandIDConflict
  | nonceReplay
  | startMismatch
  | alreadyRunning
  | startConflict
  | startDeadlineExceeded
  | resultDigestMismatch
  /-- "command result must match the journal command and execution fence" -/
  | resultMismatch
  /-- A stored digest, envelope or result that cannot be decoded. -/
  | undecodable
  /-- "running command journal entry has an invalid execution fence" -/
  | invalidFence
  deriving DecidableEq

structure StoredEntry where
  commandID : String
  state : State
  envelope : Bytes
  envelopeDigest : Digest
  expiresAt : Int
  preparedAt : Int
  startedAt : Int := 0
  interruptedAt : Int := 0
  completedAt : Int := 0
  reportedAt : Int := 0
  executionToken : Bytes := []
  executionTokenHash : Option Digest := none
  leaseRevision : Nat := 0
  result : Bytes := []
  resultDigest : Option Digest := none
  acknowledgedResultDigest : Option Digest := none
  resultConflictedAt : Int := 0
  resultConflictReason : String := ""
  deriving DecidableEq

structure NonceReservation where
  /-- The digest of the nonce, under which the reservation is stored. -/
  nonce : Digest
  commandID : String
  envelopeDigest : Digest
  expiresAt : Int
  deriving DecidableEq

/-- The buckets `commands` and `meta`. -/
structure BoltJournal where
  commands : Table StoredEntry StoredEntry.commandID
  reservations : List NonceReservation

def BoltJournal.empty : BoltJournal := ⟨.empty, []⟩

abbrev JournalTx := Tx BoltJournal JournalError

/-! ## Preparing -/

def validEnvelope (envelope : CommandEnvelope) (now : Instant) : Bool :=
  !isBlank envelope.commandID && envelope.command.isSome && envelope.nonce ≠ [] &&
    envelope.expiresAt.any Timestamp.isValid && now ≠ zeroTime

def preparedEntry (envelope : CommandEnvelope) (now : Instant) : StoredEntry where
  commandID := envelope.commandID
  state := .prepared
  envelope := encodeEnvelope envelope
  envelopeDigest := sum256 (encodeEnvelope envelope)
  expiresAt := (envelope.expiresAt.map Timestamp.unixNano).getD 0
  preparedAt := unixNano now

def reservationFor (envelope : CommandEnvelope) (now : Instant) : NonceReservation where
  nonce := sum256 envelope.nonce
  commandID := envelope.commandID
  envelopeDigest := (preparedEntry envelope now).envelopeDigest
  expiresAt := (preparedEntry envelope now).expiresAt

/-- The reservation in force that belongs to another envelope. -/
def NonceReservation.blocks (reserved wanted : NonceReservation) (now : Instant) : Bool :=
  now < reserved.expiresAt &&
    (reserved.commandID ≠ wanted.commandID || reserved.envelopeDigest ≠ wanted.envelopeDigest)

def prepare (envelope : CommandEnvelope) (now : Instant) : JournalTx Bool := do
  require (validEnvelope envelope now) .invalidEnvelope
  let entry := preparedEntry envelope now
  let reservation := reservationFor envelope now
  match ← inspect fun journal => journal.commands.find? entry.commandID with
  | some stored => do
    require (stored.envelopeDigest = entry.envelopeDigest) .commandIDConflict
    return false
  | none => do
    let reserved ← inspect fun journal => journal.reservations.find? (·.nonce = reservation.nonce)
    require (reserved.all fun reserved => !reserved.blocks reservation now) .nonceReplay
    let commands ← fetch (fun journal => journal.commands.insert? entry) .commandIDConflict
    write fun journal =>
      ⟨commands, upsert NonceReservation.nonce journal.reservations reservation⟩
    return true

/-! ## Transitions of an entry -/

def transition {α : Type} (commandID : String)
    (update : StoredEntry → Except JournalError (α × StoredEntry)) : JournalTx α := do
  require (!isBlank commandID) .commandNotFound
  let entry ← fetch (fun journal => journal.commands.find? commandID) .commandNotFound
  let (answer, updated) ← attempt (update entry)
  write fun journal => { journal with commands := journal.commands.put updated }
  return answer

def matchesFence (entry : StoredEntry) (executionToken : Bytes) (leaseRevision : Nat) : Bool :=
  entry.executionToken.length = 32 && executionToken.length = 32 &&
    entry.executionToken = executionToken && entry.leaseRevision = leaseRevision

def validStoredFence (entry : StoredEntry) : Bool :=
  entry.executionToken.length = 32 && entry.leaseRevision ≠ 0 &&
    entry.executionTokenHash = some (sum256 entry.executionToken)

def interruptedResult (entry : StoredEntry) : CommandResult where
  commandID := entry.commandID
  state := interruptedResultState
  summary := "command execution was interrupted before a terminal result"
  errorCode := "EXECUTION_INTERRUPTED"
  executionToken := entry.executionToken
  leaseRevision := entry.leaseRevision

def setInterrupted (entry : StoredEntry) (now : Instant) : StoredEntry :=
  { entry with
    state := .interrupted
    interruptedAt := unixNano now
    completedAt := unixNano now
    result := encodeResult (interruptedResult entry)
    resultDigest := some (sum256 (encodeResult (interruptedResult entry))) }

/-- A call of `AuthorizeStart`. -/
structure Start where
  commandID : String
  executionToken : Bytes
  leaseRevision : Nat
  startDeadline : Instant
  deriving DecidableEq

def Start.valid (start : Start) : Bool :=
  start.executionToken.length = 32 && start.leaseRevision ≠ 0 && start.startDeadline ≠ zeroTime

def fenced (start : Start) (entry : StoredEntry) : StoredEntry :=
  { entry with
    state := .startAuthorized
    executionToken := start.executionToken
    executionTokenHash := some (sum256 start.executionToken)
    leaseRevision := start.leaseRevision }

/-- The errors both transactions of `AuthorizeStart` have for a running entry. -/
def runningError (start : Start) (entry : StoredEntry) : JournalError :=
  if matchesFence entry start.executionToken start.leaseRevision then .alreadyRunning else .startConflict

/-- And for an entry that cannot be started. -/
def stateError (start : Start) (entry : StoredEntry) : JournalError :=
  if matchesFence entry start.executionToken start.leaseRevision then .refused entry.state "running"
  else .startMismatch

/-- The first transaction of `AuthorizeStart`; whether the start deadline has passed. -/
def authorizeEntry (start : Start) (now : Instant) (entry : StoredEntry) : Except JournalError (Bool × StoredEntry) :=
  match entry.state with
  | .running => .error (runningError start entry)
  | .prepared =>
    if entry.expiresAt ≤ now then .error .commandExpired
    else if start.startDeadline ≤ now then .ok (true, setInterrupted (fenced start entry) now)
    else .ok (false, fenced start entry)
  | .startAuthorized =>
    if matchesFence entry start.executionToken start.leaseRevision = false then .error .startConflict
    else if start.startDeadline ≤ now then .ok (true, setInterrupted entry now)
    else if entry.expiresAt ≤ now then .error .commandExpired
    else .ok (false, entry)
  | _ => .error (stateError start entry)

/-- The second transaction of `AuthorizeStart`. -/
def runEntry (start : Start) (now : Instant) (entry : StoredEntry) : Except JournalError (Bool × StoredEntry) :=
  match entry.state with
  | .running => .error (runningError start entry)
  | .startAuthorized =>
    if matchesFence entry start.executionToken start.leaseRevision = false then .error .startConflict
    else if start.startDeadline ≤ now then .ok (true, setInterrupted entry now)
    else .ok (false, { entry with state := .running, startedAt := unixNano now })
  | _ => .error (stateError start entry)

def cancelEntry (now : Instant) (entry : StoredEntry) : Except JournalError (Unit × StoredEntry) :=
  if entry.state = .cancelled then .ok ((), entry)
  else if entry.state ≠ .prepared then .error (.refused entry.state "cancelled")
  else .ok ((), { entry with state := .cancelled, completedAt := unixNano now, envelope := [] })

def interruptEntry (now : Instant) (entry : StoredEntry) : Except JournalError (Unit × StoredEntry) :=
  if entry.state = .interrupted then .ok ((), entry)
  else if (entry.state ≠ .running ∧ entry.state ≠ .startAuthorized) ∨ validStoredFence entry = false then
    .error (.refused entry.state "interrupted")
  else .ok ((), setInterrupted entry now)

def completeEntry (result : CommandResult) (now : Instant) (entry : StoredEntry) :
    Except JournalError (Unit × StoredEntry) :=
  if entry.state ≠ .running then .error (.refused entry.state "completed")
  else if matchesFence entry result.executionToken result.leaseRevision = false then .error .startMismatch
  else .ok ((),
    { entry with
      state := .completed
      completedAt := unixNano now
      result := encodeResult result
      resultDigest := some (sum256 (encodeResult result)) })

def reportEntry (resultDigest : Digest) (now : Instant) (entry : StoredEntry) :
    Except JournalError (Unit × StoredEntry) :=
  if (entry.state ≠ .completed ∧ entry.state ≠ .interrupted) ∨ entry.result = [] then
    .error (.refused entry.state "reported")
  else
    match entry.resultDigest with
    | none => .error .undecodable
    | some stored =>
      if stored ≠ resultDigest then .error .resultDigestMismatch
      else if entry.reportedAt = 0 then
        .ok ((), { entry with reportedAt := unixNano now, acknowledgedResultDigest := some resultDigest })
      else .ok ((), entry)

def conflictEntry (resultDigest : Digest) (reason : String) (now : Instant) (entry : StoredEntry) :
    Except JournalError (Unit × StoredEntry) :=
  match entry.resultDigest with
  | none => .error .undecodable
  | some stored =>
    if stored ≠ resultDigest then .error .resultDigestMismatch
    else if entry.state = .resultConflicted then
      if entry.resultConflictReason = reason then .ok ((), entry) else .error .invalidTransition
    else if (entry.state ≠ .completed ∧ entry.state ≠ .interrupted) ∨ entry.result = [] ∨ entry.reportedAt ≠ 0 then
      .error (.refused entry.state "result_conflicted")
    else .ok ((),
      { entry with
        state := .resultConflicted
        resultConflictedAt := unixNano now
        resultConflictReason := reason })

/-! ## Operations -/

def authorizeStart (start : Start) (now : Instant) : JournalTx Bool := do
  require start.valid .startMismatch
  transition start.commandID (authorizeEntry start now)

def continueStart (start : Start) (now : Instant) : JournalTx Bool :=
  transition start.commandID (runEntry start now)

def cancelPrepared (commandID : String) (now : Instant) : JournalTx Unit :=
  transition commandID (cancelEntry now)

def markInterrupted (commandID : String) (now : Instant) : JournalTx Unit :=
  transition commandID (interruptEntry now)

def complete (commandID : String) (result : CommandResult) (now : Instant) : JournalTx Unit := do
  require (result.commandID = commandID ∧ result.executionToken.length = 32 ∧ result.leaseRevision ≠ 0)
    .resultMismatch
  transition commandID (completeEntry result now)

def markReported (commandID : String) (resultDigest : Digest) (now : Instant) : JournalTx Unit :=
  transition commandID (reportEntry resultDigest now)

/-- `^[A-Z][A-Z0-9_]{0,127}$`. -/
def validConflictReason (reason : String) : Bool :=
  match reason.toList with
  | [] => false
  | first :: rest => first.isUpper && rest.length ≤ 127 && rest.all fun c => c.isUpper || c.isDigit || c = '_'

def markResultConflicted (commandID : String) (resultDigest : Digest) (reason : String) (now : Instant) :
    JournalTx Unit := do
  require (validConflictReason reason ∧ now ≠ zeroTime) .invalidTransition
  transition commandID (conflictEntry resultDigest reason now)

/-- An entry that was started and has no result. -/
def StoredEntry.started (entry : StoredEntry) : Bool :=
  entry.state = .running || entry.state = .startAuthorized

def interruption (now : Instant) : Rewrite StoredEntry.commandID where
  apply entry := setInterrupted entry now
  keeps _ := rfl

/-- The pass over the entries when the journal is opened. -/
def recoverRunning (now : Instant) : JournalTx Unit := do
  let sound ← inspect fun journal =>
    journal.commands.rows.all fun entry => !entry.started || validStoredFence entry
  require (sound = true) .invalidFence
  write fun journal => { journal with commands := journal.commands.update (·.started) (interruption now) }

/-! ## Reading -/

/-- The view of an entry that the control client gets. -/
structure Entry where
  commandID : String
  state : State
  envelope : Option CommandEnvelope
  envelopeDigest : Digest
  expiresAt : Int
  preparedAt : Int
  startedAt : Int
  interruptedAt : Int
  completedAt : Int
  reportedAt : Int
  executionToken : Bytes
  executionTokenHash : Option Digest
  leaseRevision : Nat
  result : Option CommandResult
  resultDigest : Option Digest
  conflictedAt : Int
  conflictReason : String
  deriving DecidableEq

def publicEntry (stored : StoredEntry) : Except JournalError Entry := do
  let envelope ←
    if stored.envelope = [] then pure none
    else
      match decodeEnvelope stored.envelope with
      | some envelope => pure (some envelope)
      | none => throw .undecodable
  let result ←
    if stored.result = [] then pure (none, none)
    else
      match decodeResult stored.result, stored.resultDigest with
      | some result, some digest => pure (some result, some digest)
      | _, _ => throw .undecodable
  return {
    commandID := stored.commandID
    state := stored.state
    envelope := envelope
    envelopeDigest := stored.envelopeDigest
    expiresAt := stored.expiresAt
    preparedAt := stored.preparedAt
    startedAt := stored.startedAt
    interruptedAt := stored.interruptedAt
    completedAt := stored.completedAt
    reportedAt := stored.reportedAt
    executionToken := stored.executionToken
    executionTokenHash := stored.executionTokenHash
    leaseRevision := stored.leaseRevision
    result := result.1
    resultDigest := result.2
    conflictedAt := stored.resultConflictedAt
    conflictReason := stored.resultConflictReason }

def list (included : StoredEntry → Bool) (journal : BoltJournal) : Except JournalError (List Entry) :=
  (journal.commands.rows.filter included).mapM publicEntry

def active (journal : BoltJournal) : Except JournalError (List Entry) :=
  list (fun entry => entry.state = .prepared || entry.started) journal

/-- What `PendingResults` includes. -/
def StoredEntry.pending (entry : StoredEntry) : Bool :=
  (entry.state = .completed || entry.state = .interrupted) && entry.reportedAt = 0 && entry.result ≠ []

def get (commandID : String) (journal : BoltJournal) : Except JournalError Entry :=
  match journal.commands.find? commandID with
  | none => .error .commandNotFound
  | some stored => publicEntry stored

end DBPilot.Journal
