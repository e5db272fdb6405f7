import DBPilot.Idempotency.Store
import DBPilot.Lib.Threads

/-!
# The service of idempotent writes

`Service` of `internal/idempotency/service.go` over the store. The callbacks of the
caller are commands whose replies come from outside. Nil receivers, contexts and
callbacks are left out.
-/

namespace DBPilot.Idempotency

open Programs
open Jobs (Instant)
open Wire (Bytes)

abbrev Idem := Prog Command Reply

def issue (c : Command) : Idem (Reply c) := perform c

structure Service where
  /-- In nanoseconds. -/
  ttl : Int

def second : Int := 1000000000

def defaultTTL : Int := 24 * 60 * 60 * second

def Service.lifetime (service : Service) : Int := if service.ttl ≤ 0 then defaultTTL else service.ttl

variable [Storage]

/-! ## The calls of the store -/

/-- `scanClaim` after a row was found. -/
def scanClaim (record : Record) : Option Record :=
  if record.state = .processing then some record
  else if !validateResponse record.response then none
  else if record.state ≠ .completed && !record.reconciliation.any validateReconciliation then none
  else some record

/-- What `Claim` makes of an existing row. -/
def existingClaim (fingerprint : String) (recoverProcessing : Bool) (record : Record) : Except Failure Claim :=
  if record.fingerprint ≠ fingerprint then .error .keyConflict
  else match record.state with
    | .processing =>
      if !recoverProcessing then .error .inProgress
      else .ok { ownerToken := record.owner, state := .processing, createdAt := record.createdAt,
                 reconciliation := record.reconciliation }
    | .completed => .ok { state := .completed, response := some record.response }
    | state => .ok { ownerToken := record.owner, state, createdAt := record.createdAt,
                     response := some record.response, reconciliation := record.reconciliation }

structure ClaimRequest where
  fingerprint : String
  ownerToken : String
  reconciliation : Bytes
  recoverProcessing : Bool
  now : Instant
  expiresAt : Instant

/-- The column of the payload is NULL where there is none. -/
def ClaimRequest.payload (request : ClaimRequest) : Option Bytes :=
  if request.reconciliation.isEmpty then none else some request.reconciliation

def ClaimRequest.claimed (request : ClaimRequest) (createdAt : Instant) : Claim :=
  { claimed := true, ownerToken := request.ownerToken, state := .processing, createdAt := createdAt,
    reconciliation := request.payload }

def readExisting (request : ClaimRequest) : Idem (Except Failure Claim) := do
  match ← issue .selectRecord with
  | none => pure (.error .other)
  | some none => pure (.error .notClaimed)
  | some (some record) =>
    match scanClaim record with
    | none => pure (.error .invalid)
    | some record => pure (existingClaim request.fingerprint request.recoverProcessing record)

def storeClaim (request : ClaimRequest) : Idem (Except Failure Claim) :=
  if !fingerprintPattern request.fingerprint || !ownerPattern request.ownerToken || request.expiresAt ≤ request.now ||
      !request.reconciliation.isEmpty && !validateReconciliation request.reconciliation then pure (.error .invalid)
  else do
    match ← issue (.insertClaim request.fingerprint request.ownerToken request.payload request.expiresAt
      request.now) with
    | none => pure (.error .other)
    | some (some createdAt) => pure (.ok (request.claimed createdAt))
    | some none =>
      match ← issue (.reclaimExpiredCompleted request.fingerprint request.ownerToken request.payload
        request.expiresAt request.now) with
      | none => pure (.error .other)
      | some (some createdAt) => pure (.ok (request.claimed createdAt))
      | some none => readExisting request

/-- An update that must have found its row. -/
def affected : Option Bool → Except Failure Unit
  | none => .error .other
  | some false => .error .ownershipConflict
  | some true => .ok ()

def storeCommitSideEffect (fingerprint owner : String) (response : Response) (reconciliation : Bytes) :
    Idem (Except Failure Unit) := do
  let now ← issue .currentTime
  if !fingerprintPattern fingerprint || !ownerPattern owner || !validateResponse response ||
      !validateReconciliation reconciliation || now = (none : Time) then pure (.error .invalid)
  else do
    let rows ← issue (.commitSideEffect fingerprint owner response reconciliation)
    pure (affected rows)

def storeRepairIncompleteSideEffect (fingerprint owner : String) (response : Response) (reconciliation : Bytes) :
    Idem (Except Failure Unit) := do
  let now ← issue .currentTime
  if !fingerprintPattern fingerprint || !ownerPattern owner || !validateResponse response ||
      !validateReconciliation reconciliation || now = (none : Time) then pure (.error .invalid)
  else do
    let rows ← issue (.repairIncompleteSideEffect fingerprint owner response reconciliation)
    pure (affected rows)

def storeMarkAudited (fingerprint owner : String) : Idem (Except Failure Unit) := do
  let now ← issue .currentTime
  if !fingerprintPattern fingerprint || !ownerPattern owner || now = (none : Time) then pure (.error .invalid)
  else do
    let rows ← issue (.markAudited fingerprint owner)
    pure (affected rows)

def storeComplete (fingerprint owner : String) (response : Response) : Idem (Except Failure Unit) := do
  let now ← issue .currentTime
  if !fingerprintPattern fingerprint || !ownerPattern owner || !validateResponse response || now = (none : Time) then
    pure (.error .invalid)
  else do
    let rows ← issue (.completeClaim fingerprint owner)
    pure (affected rows)

/-! ## The service -/

/-- The tail that all callers share: the record is marked and completed. -/
def finish (fingerprint owner : String) (response : Response) : Idem (Except Failure Response) := do
  match ← storeMarkAudited fingerprint owner with
  | .error err => pure (.error err)
  | .ok () =>
    match ← storeComplete fingerprint owner response with
    | .error err => pure (.error err)
    | .ok () => pure (.ok response)

/-- `Service.Complete`. The store gives back the response that it was given. -/
def complete (fingerprint owner : String) (response : Response) (reconciliation : Bytes) :
    Idem (Except Failure Response) :=
  if !fingerprintPattern fingerprint || !ownerPattern owner || !validateResponse response ||
      !validateReconciliation reconciliation then pure (.error .invalid)
  else do
    match ← storeCommitSideEffect fingerprint owner response reconciliation with
    | .error err => pure (.error err)
    | .ok () =>
      match ← issue (.reconcile response reconciliation) with
      | (.error err : Except Failure Unit) => pure (.error err)
      | .ok () => finish fingerprint owner response

def abort (fingerprint owner : String) : Idem (Except Failure Unit) :=
  if !fingerprintPattern fingerprint || !ownerPattern owner then pure (.error .invalid)
  else do
    let rows ← issue (.abortClaim fingerprint owner)
    pure (affected rows)

/-- The claim of a call that lost the record to another one. -/
def correlated (claim : Claim) (response : Response) : Claim :=
  { state := .sideEffectCommitted, createdAt := claim.createdAt, response := some response }

/-- An error of a later phase, where a lost record counts as correlated. -/
def orCorrelated (recoverIncomplete : Bool) (claim : Claim) (response : Response) (err : Failure) :
    Except Failure Claim :=
  if recoverIncomplete && err = .ownershipConflict then .ok (correlated claim response) else .error err

def beginProcessing (fingerprint : String) (recover recoverIncomplete : Bool) (claim : Claim) :
    Idem (Except Failure Claim) :=
  if !recover then pure (.error .inProgress)
  else match claim.reconciliation with
    | none => pure (.error .inProgress)
    | some stored =>
      if !ownerPattern claim.ownerToken || claim.createdAt = none || !validateReconciliation stored then
        pure (.error .inProgress)
      else do
        match ← issue (.recover ⟨claim.ownerToken, claim.createdAt, stored, none⟩) with
        | (.error err : Except Failure Response) => pure (.error err)
        | .ok response =>
          match ← complete fingerprint claim.ownerToken response stored with
          | .error err => pure (orCorrelated recoverIncomplete claim response err)
          | .ok completed =>
            pure (.ok { state := .completed, createdAt := claim.createdAt, response := some completed })

/-- The last phases of a record that has a response. -/
def beginCommitted (fingerprint : String) (recoverIncomplete : Bool) (claim : Claim) (state : State)
    (response : Response) (reconciliation : Bytes) : Idem (Except Failure Claim) :=
  if !ownerPattern claim.ownerToken || !validateReconciliation reconciliation then pure (.error .invalid)
  else do
    let marked : Except (Except Failure Claim) Unit ← match state with
      | .sideEffectCommitted => do
        match ← issue (.reconcile response reconciliation) with
        | (.error err : Except Failure Unit) => pure (.error (.error err))
        | .ok () =>
          match ← storeMarkAudited fingerprint claim.ownerToken with
          | .error err => pure (.error (orCorrelated recoverIncomplete claim response err))
          | .ok () => pure (.ok ())
      | _ => pure (.ok ())
    match marked with
    | .error result => pure result
    | .ok () =>
      match ← storeComplete fingerprint claim.ownerToken response with
      | .error err => pure (orCorrelated recoverIncomplete claim response err)
      | .ok () => pure (.ok { state := .completed, response := some response })

/-- A record whose response was perhaps never returned gets a new one. -/
def beginRepair (fingerprint : String) (claim : Claim) (response : Response) (reconciliation : Bytes) :
    Idem (Except Failure Claim) :=
  if !ownerPattern claim.ownerToken || !validateReconciliation reconciliation then pure (.error .invalid)
  else do
    match ← issue (.recover ⟨claim.ownerToken, claim.createdAt, reconciliation, some response⟩) with
    | (.error err : Except Failure Response) => pure (.error err)
    | .ok repaired =>
      if !validateResponse repaired then pure (.error .invalid)
      else do
        match ← storeRepairIncompleteSideEffect fingerprint claim.ownerToken repaired reconciliation with
        | .error err => pure (orCorrelated true claim repaired err)
        | .ok () => beginCommitted fingerprint true claim .sideEffectCommitted repaired reconciliation

def beginExisting (fingerprint : String) (recover recoverIncomplete : Bool) (claim : Claim) :
    Idem (Except Failure Claim) :=
  match claim.state, claim.response with
  | .processing, _ => beginProcessing fingerprint recover recoverIncomplete claim
  | _, none => pure (.error .invalid)
  | state, some response =>
    if !validateResponse response then pure (.error .invalid)
    else match state with
      | .completed =>
        if claim.ownerToken ≠ "" || claim.reconciliation.isSome then pure (.error .invalid) else pure (.ok claim)
      | state =>
        let reconciliation := claim.reconciliation.getD []
        if recoverIncomplete then beginRepair fingerprint claim response reconciliation
        else beginCommitted fingerprint false claim state response reconciliation

/-- What `begin` checks of a row of its own. -/
def ownClaim (owner : String) (now : Instant) (reconciliation : Bytes) (claim : Claim) : Bool :=
  claim.ownerToken = owner && claim.state = .processing && claim.response.isNone &&
    (match claim.createdAt with
      | none => false
      | some createdAt => now - second ≤ createdAt && createdAt ≤ now + second) &&
    claim.reconciliation.getD [] = reconciliation

def Service.begin (service : Service) (fingerprint : String) (reconciliation : Bytes)
    (recover recoverIncomplete : Bool) : Idem (Except Failure Claim) :=
  if !fingerprintPattern fingerprint then pure (.error .invalid)
  else do
    let now ← issue .currentTime
    let owner ← issue .newOwner
    match (now : Time), (owner : Option String) with
    | _, none => pure (.error .invalid)
    | none, some _ => pure (.error .invalid)
    | some now, some owner =>
      if !ownerPattern owner then pure (.error .invalid)
      else do
        match ← storeClaim ⟨fingerprint, owner, reconciliation, recover, now, now + service.lifetime⟩ with
        | .error err => pure (.error err)
        | .ok claim =>
          if claim.claimed then
            if ownClaim owner now reconciliation claim then pure (.ok claim) else pure (.error .invalid)
          else beginExisting fingerprint recover recoverIncomplete claim

def Call.program (service : Service) : Call → Idem Outcome
  | .begin fingerprint => return .claim (← service.begin fingerprint [] false false)
  | .beginRecoverable fingerprint reconciliation =>
    if !validateReconciliation reconciliation then pure (.claim (.error .invalid))
    else return .claim (← service.begin fingerprint reconciliation true false)
  | .beginUnreturnedRecoverable fingerprint reconciliation =>
    if !validateReconciliation reconciliation then pure (.claim (.error .invalid))
    else return .claim (← service.begin fingerprint reconciliation true true)
  | .complete fingerprint owner response reconciliation =>
    return .response (← Idempotency.complete fingerprint owner response reconciliation)
  | .abort fingerprint owner => return .done (← Idempotency.abort fingerprint owner)

end DBPilot.Idempotency
