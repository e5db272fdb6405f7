import DBPilot.Jobs.Types
import DBPilot.Lib.Text
import DBPilot.Lib.Wire
import DBPilot.Lib.Programs

/-!
# The store of idempotent writes

The row of one key in `idempotency_records`, and the statements of
`internal/idempotency/postgres.go` on it, each of them atomic. Every statement names
the key, which is valid, so the rows of other keys play no part. The history of the
calls, and what each call that is still running has last seen of the row, are kept
beside it; the code has neither.
-/

namespace DBPilot.Idempotency

open Text
open Jobs (Instant timestamptz)
open Wire (Bytes)

/-- Nothing is the zero time. -/
abbrev Time := Option Instant

inductive Failure where
  | invalid
  | keyConflict
  | inProgress
  | notClaimed
  | ownershipConflict
  | other
  deriving DecidableEq

inductive State where
  | processing
  | sideEffectCommitted
  | audited
  | completed
  deriving DecidableEq

abbrev Header := List (String × List String)

structure Response where
  status : Int
  header : Header
  body : Bytes
  deriving DecidableEq

/-- What JSON and the JSONB columns make of texts. -/
class Storage where
  /-- `json.Valid`. -/
  valid : Bytes → Bool
  /-- A JSON text as a JSONB column gives it back, unless it refuses it. -/
  jsonb : Bytes → Option Bytes
  jsonb_idem : ∀ {text text'}, jsonb text = some text' → jsonb text' = some text'
  /-- A header as it is read back, with its names in canonical form. Names that differ in
  case only are merged, here always in the same order. -/
  header : Header → Option Header
  header_idem : ∀ {header' header''}, header header' = some header'' → header header'' = some header''

section checks

variable [Storage]

def Response.stored (response : Response) : Option Response :=
  (Storage.header response.header).map fun header => { response with header }

def validateReconciliation (value : Bytes) : Bool := !value.isEmpty && value.length ≤ 64 * 2 ^ 10 && Storage.valid value

def noLineBreak (value : String) : Bool := value.toList.all fun c => !(c = '\r' || c = '\n')

def validateResponse (response : Response) : Bool :=
  100 ≤ response.status && response.status ≤ 599 && Storage.valid response.body &&
    response.header.all fun (name, values) => name != "" && noLineBreak name && values.all noLineBreak

end checks

def isLowerHex (c : Char) : Bool := isDigit c || 'a' ≤ c && c ≤ 'f'

/-- A fixed front, and 64 hexadecimal digits after it. -/
def tokenPattern (front : String) (value : String) : Bool :=
  match strip front.toList value.toList with
  | none => false
  | some digits => digits.length = 64 && digits.all isLowerHex

def fingerprintPattern (value : String) : Bool := tokenPattern "sha256:" value

def ownerPattern (value : String) : Bool := tokenPattern "owner-" value

/-- The row. Its response is empty while it is processing. -/
structure Record where
  fingerprint : String
  owner : String
  state : State
  response : Response
  reconciliation : Option Bytes
  createdAt : Instant
  expiresAt : Instant
  deriving DecidableEq

structure Claim where
  claimed : Bool := false
  ownerToken : String := ""
  state : State
  createdAt : Time := none
  response : Option Response := none
  /-- Nothing is a nil slice. -/
  reconciliation : Option Bytes := none
  deriving DecidableEq

structure ProcessingClaim where
  ownerToken : String
  createdAt : Time
  reconciliation : Bytes
  response : Option Response := none

inductive Call where
  | begin (fingerprint : String)
  | beginRecoverable (fingerprint : String) (reconciliation : Bytes)
  | beginUnreturnedRecoverable (fingerprint : String) (reconciliation : Bytes)
  | complete (fingerprint owner : String) (response : Response) (reconciliation : Bytes)
  | abort (fingerprint owner : String)
  deriving DecidableEq

def Call.fingerprint : Call → String
  | .begin fingerprint => fingerprint
  | .beginRecoverable fingerprint _ => fingerprint
  | .beginUnreturnedRecoverable fingerprint _ => fingerprint
  | .complete fingerprint _ _ _ => fingerprint
  | .abort fingerprint _ => fingerprint

inductive Outcome where
  | claim (result : Except Failure Claim)
  | response (result : Except Failure Response)
  | done (result : Except Failure Unit)

inductive Event where
  | started (call : Call)
  /-- With what the call last saw of the row. -/
  | returned (outcome : Outcome) (seen : List Record)
  /-- A new owner token. -/
  | issued (owner : String)
  /-- By an insert, or by the reuse of an expired row. -/
  | created (record : Record)
  /-- The callback succeeded. -/
  | reconciled (response : Response) (reconciliation : Bytes)
  | completed (record : Record)

structure World where
  record : Option Record
  history : List (Nat × Event)
  /-- The row as each running call has last read or written it, once it has a response. -/
  held : List (Nat × Record)

def World.fresh : World := ⟨none, [], []⟩

namespace World

def log (w : World) (thread : Nat) (event : Event) : World := { w with history := w.history ++ [(thread, event)] }

def release (w : World) (thread : Nat) : World := { w with held := w.held.filter fun entry => entry.1 ≠ thread }

def hold (w : World) (thread : Nat) (record : Record) : World :=
  { w with held := (thread, record) :: (w.release thread).held }

def seenBy (w : World) (thread : Nat) : List Record :=
  (w.held.filter fun entry => entry.1 = thread).map Prod.snd

end World

/-! ## Statements -/

inductive Command where
  | currentTime
  | newOwner
  | insertClaim (fingerprint owner : String) (reconciliation : Option Bytes) (expires now : Instant)
  | reclaimExpiredCompleted (fingerprint owner : String) (reconciliation : Option Bytes) (expires now : Instant)
  | selectRecord
  | commitSideEffect (fingerprint owner : String) (response : Response) (reconciliation : Bytes)
  | repairIncompleteSideEffect (fingerprint owner : String) (response : Response) (reconciliation : Bytes)
  | markAudited (fingerprint owner : String)
  | completeClaim (fingerprint owner : String)
  | abortClaim (fingerprint owner : String)
  | recover (claim : ProcessingClaim)
  | reconcile (response : Response) (reconciliation : Bytes)

/-- What a statement gives back; nothing where the database reports an error. -/
abbrev Rows (α : Type) := Option α

abbrev Reply : Command → Type
  | .currentTime => Time
  | .newOwner => Option String
  | .insertClaim .. => Rows (Option Instant)
  | .reclaimExpiredCompleted .. => Rows (Option Instant)
  | .selectRecord => Rows (Option Record)
  | .commitSideEffect .. => Rows Bool
  | .repairIncompleteSideEffect .. => Rows Bool
  | .markAudited .. => Rows Bool
  | .completeClaim .. => Rows Bool
  | .abortClaim .. => Rows Bool
  | .recover _ => Except Failure Response
  | .reconcile .. => Except Failure Unit

/-- What comes from outside. -/
structure Answer where
  time : Time := none
  owner : Option String := none
  recovered : Except Failure Response := .error .other
  reconciled : Except Failure Unit := .error .other
  /-- The statement reports an error, and may have been executed all the same. -/
  fails : Bool := false
  /-- The process ends here, before the reply. -/
  stops : Bool := false
  executed : Bool := true

section statements

variable [Storage]

/-- A new row. The columns refuse a payload that is no JSONB, and an expiry that is not
after the creation. -/
def newRecord (fingerprint owner : String) (reconciliation : Option Bytes) (expires now : Instant) : Option Record :=
  let stored : Option (Option Bytes) := match reconciliation with
    | none => some none
    | some text => (Storage.jsonb text).map some
  match stored with
  | none => none
  | some stored =>
    if timestamptz expires ≤ timestamptz now then none
    else some ⟨fingerprint, owner, .processing, ⟨0, [], []⟩, stored, timestamptz now, timestamptz expires⟩

/-- The row with a side effect; nothing where a column refuses it. -/
def Record.withResponse (record : Record) (response : Response) (reconciliation : Bytes) : Option Record :=
  match response.stored, Storage.jsonb reconciliation with
  | some response, some text =>
    some { record with state := .sideEffectCommitted, response, reconciliation := some text }
  | _, _ => none

def Record.matches (record : Record) (fingerprint owner : String) : Bool :=
  record.fingerprint = fingerprint && record.owner = owner

/-- The row that a statement names, in one of the given states. -/
def World.row (w : World) (fingerprint owner : String) (states : List State) : Option Record :=
  w.record.filter fun record => record.matches fingerprint owner && record.state ∈ states

/-- A statement with its effect and its result, or with an error of its own. -/
def execute (w : World) (effect : Option (Option α × World)) (answer : Answer) : Option (Rows α) × World :=
  match effect with
  | none => (if answer.stops then none else some none, w)
  | some (result, after) =>
    if answer.stops then (none, if answer.executed then after else w)
    else if answer.fails then (some none, if answer.executed then after else w)
    else (some result, after)

def insertClaim (w : World) (thread : Nat) (fingerprint owner : String) (reconciliation : Option Bytes)
    (expires now : Instant) : Option (Option (Option Instant) × World) :=
  match w.record, newRecord fingerprint owner reconciliation expires now with
  | _, none => none
  | some _, some _ => some (some none, w)
  | none, some record => some (some (some record.createdAt), { w with record := some record }.log thread (.created record))

def reclaimExpiredCompleted (w : World) (thread : Nat) (fingerprint owner : String) (reconciliation : Option Bytes)
    (expires now : Instant) : Option (Option (Option Instant) × World) :=
  match w.record with
  | none => some (some none, w)
  | some old =>
    if old.state = .completed ∧ old.expiresAt ≤ timestamptz now then
      match newRecord fingerprint owner reconciliation expires now with
      | none => none
      | some record => some (some (some record.createdAt), { w with record := some record }.log thread (.created record))
    else some (some none, w)

def selectRecord (w : World) (thread : Nat) : World :=
  match w.record with
  | none => w
  | some record => if record.state = .processing then w else w.hold thread record

/-- `commitSideEffectSQL` and `repairIncompleteSideEffectSQL` differ in the states. -/
def writeResponse (w : World) (thread : Nat) (states : List State) (fingerprint owner : String) (response : Response)
    (reconciliation : Bytes) : Option (Option Bool × World) :=
  match w.row fingerprint owner states with
  | none => some (some false, w)
  | some record => (record.withResponse response reconciliation).map fun record =>
      (some true, { w with record := some record }.hold thread record)

def markAudited (w : World) (fingerprint owner : String) : Option Bool × World :=
  match w.row fingerprint owner [.sideEffectCommitted] with
  | none => (some false, w)
  | some record => (some true, { w with record := some { record with state := .audited } })

def completeClaim (w : World) (thread : Nat) (fingerprint owner : String) : Option Bool × World :=
  match w.row fingerprint owner [.audited] with
  | none => (some false, w)
  | some record =>
    let record := { record with state := .completed }
    (some true, { w with record := some record }.log thread (.completed record))

def abortClaim (w : World) (fingerprint owner : String) : Option Bool × World :=
  match w.row fingerprint owner [.processing] with
  | none => (some false, w)
  | some _ => (some true, { w with record := none })

/-- A process that ends holds nothing any more. -/
def handle (thread : Nat) (w : World) : (c : Command) → Answer → Option (Reply c) × World
  | .currentTime, answer => if answer.stops then (none, w.release thread) else (some answer.time, w)
  | .newOwner, answer =>
    if answer.stops then (none, w.release thread)
    else match answer.owner with
      | none => (some none, w)
      | some owner => (some (some owner), w.log thread (.issued owner))
  | .insertClaim fingerprint owner reconciliation expires now, answer =>
    settle thread answer (execute w (insertClaim w thread fingerprint owner reconciliation expires now) answer)
  | .reclaimExpiredCompleted fingerprint owner reconciliation expires now, answer =>
    settle thread answer (execute w (reclaimExpiredCompleted w thread fingerprint owner reconciliation expires now) answer)
  | .selectRecord, answer =>
    settle thread answer (execute w (some (some w.record, selectRecord w thread)) answer)
  | .commitSideEffect fingerprint owner response reconciliation, answer =>
    settle thread answer
      (execute w (writeResponse w thread [.processing] fingerprint owner response reconciliation) answer)
  | .repairIncompleteSideEffect fingerprint owner response reconciliation, answer =>
    settle thread answer (execute w
      (writeResponse w thread [.sideEffectCommitted, .audited] fingerprint owner response reconciliation) answer)
  | .markAudited fingerprint owner, answer =>
    settle thread answer (execute w (some (markAudited w fingerprint owner)) answer)
  | .completeClaim fingerprint owner, answer =>
    settle thread answer (execute w (some (completeClaim w thread fingerprint owner)) answer)
  | .abortClaim fingerprint owner, answer =>
    settle thread answer (execute w (some (abortClaim w fingerprint owner)) answer)
  | .recover _, answer => if answer.stops then (none, w.release thread) else (some answer.recovered, w)
  | .reconcile response reconciliation, answer =>
    if answer.stops then (none, w.release thread)
    else match answer.reconciled with
      | .error err => (some (.error err), w)
      | .ok () => (some (.ok ()), w.log thread (.reconciled response reconciliation))
where
  settle {β : Type} (thread : Nat) (answer : Answer) (result : Option β × World) : Option β × World :=
    if answer.stops then (result.1, result.2.release thread) else result

end statements

end DBPilot.Idempotency
