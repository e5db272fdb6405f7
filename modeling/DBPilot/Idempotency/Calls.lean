import DBPilot.Idempotency.Drivers

/-!
# The calls under interference

Each call of the service follows the protocol of the phases, and a claim that it returns
is one that its last phase knows to be true.
-/

namespace DBPilot.Idempotency

open Programs
open Wire (Bytes)

variable [Storage] {fingerprint : String} {response : Response}

variable {α : Type} {may : Prop} {owner : String} {text : Bytes} {phase : Phase}

/-- What is known where a result is no error. -/
def OkThen (post : α → Phase → Prop) (result : Except Failure α) (phase : Phase) : Prop :=
  ∀ a, result = .ok a → post a phase

variable {post : α → Phase → Prop}

omit [Storage] in
lemma okThen_error {err : Failure} : OkThen post (.error err) phase := nofun

omit [Storage] in
lemma okThen_ok {a : α} (h : post a phase) : OkThen post (.ok a) phase := by
  rintro _ ⟨⟩
  exact h

omit [Storage] in
/-- A statement that must find its row, after the clock was read and the arguments were checked. -/
lemma affected_follows {q : Idem (Rows Bool)} {good : Phase → Prop} {refused : Time → Bool}
    (follows : (callProtocol may).Follows phase q fun rows phase => rows = some true → good phase) :
    (callProtocol may).Follows phase (do
      let now ← issue .currentTime
      if refused now then pure (.error .invalid)
      else do
        let rows ← q
        pure (affected rows)) (OkThen fun _ => good) := by
  refine .perform trivial fun now _ => ?_
  split
  · exact okThen_error
  refine follows_bind.mpr (follows.mono ?_)
  rintro (_ | _ | _) phase found
  · exact okThen_error
  · exact okThen_error
  · exact okThen_ok (found rfl)

omit [Storage] in
lemma storeMarkAudited_follows : (callProtocol may).Follows (.reconciled fingerprint owner response text)
    (storeMarkAudited fingerprint owner) (OkThen fun _ phase => phase = .holds fingerprint owner response text) := by
  refine affected_follows ⟨⟨_, _, rfl⟩, ?_⟩
  rintro _ _ rfl
  rfl

lemma storeCommitSideEffect_follows : (callProtocol may).Follows phase
    (storeCommitSideEffect fingerprint owner response text)
    (OkThen fun _ phase => phase = .holds fingerprint owner response text) := by
  refine affected_follows ⟨trivial, ?_⟩
  rintro _ _ rfl
  rfl

lemma storeRepairIncompleteSideEffect_follows {previous : Response} (allowed : may)
    (held : phase.held = some (fingerprint, owner, previous, text)) :
    (callProtocol may).Follows phase (storeRepairIncompleteSideEffect fingerprint owner response text)
      (OkThen fun _ phase => phase = .holds fingerprint owner response text) := by
  refine affected_follows ⟨⟨allowed, previous, held⟩, ?_⟩
  rintro _ _ rfl
  rfl

lemma storeComplete_follows (held : phase.held = some (fingerprint, owner, response, text)) :
    (callProtocol may).Follows phase (storeComplete fingerprint owner response)
      (OkThen fun _ phase => phase = .done fingerprint response) := by
  refine affected_follows ⟨⟨response, text, held⟩, ?_⟩
  rintro _ _ rfl
  simp [Phase.after, held]

lemma finish_follows : (callProtocol may).Follows (.reconciled fingerprint owner response text)
    (finish fingerprint owner response) (OkThen fun got phase => phase = .done fingerprint got) := by
  refine follows_bind.mpr (storeMarkAudited_follows.mono ?_)
  rintro (err | _) phase marked
  · exact okThen_error
  obtain rfl := marked _ rfl
  refine follows_bind.mpr ((storeComplete_follows rfl).mono ?_)
  rintro (err | _) phase completed
  · exact okThen_error
  · exact okThen_ok (completed _ rfl)

omit [Storage] in
/-- The callback, by a call that holds the response. -/
lemma reconcile_follows {p : Except Failure Unit → Idem α}
    (held : phase.held = some (fingerprint, owner, response, text))
    (failed : ∀ err, (callProtocol may).Follows .nothing (p (.error err)) post)
    (reconciled : (callProtocol may).Follows (.reconciled fingerprint owner response text) (p (.ok ())) post) :
    (callProtocol may).Follows phase (issue (.reconcile response text) >>= p) post := by
  refine .perform ⟨fingerprint, owner, held⟩ fun result _ => ?_
  cases (result : Except Failure Unit) with
  | error err => exact failed err
  | ok _ => simpa [Phase.after, held] using reconciled

lemma complete_follows : (callProtocol may).Follows phase (complete fingerprint owner response text)
    (OkThen fun got phase => phase = .done fingerprint got) := by
  unfold complete
  split
  · exact okThen_error
  refine follows_bind.mpr (storeCommitSideEffect_follows.mono ?_)
  rintro (err | _) phase committed
  · exact okThen_error
  obtain rfl := committed _ rfl
  exact reconcile_follows rfl (fun _ => okThen_error) finish_follows

/-- The call knows that the row was completed with this response. -/
def Phase.Answers (fingerprint : String) (response : Response) : Phase → Prop
  | .done fingerprint' response' => fingerprint' = fingerprint ∧ response' = response
  | .seen record => record.state = .completed ∧ record.fingerprint = fingerprint ∧ record.response = response
  | _ => False

/-- A claim on a row of another call. -/
structure Settles (fingerprint : String) (recoverIncomplete : Bool) (claim : Claim) (phase : Phase) : Prop where
  unclaimed : claim.claimed = false
  answered : ∀ response, claim.response = some response → claim.state = .completed → phase.Answers fingerprint response
  other : ∀ response, claim.response = some response → claim.state ≠ .completed → recoverIncomplete = true

variable {recoverIncomplete : Bool} {claim : Claim}

omit [Storage] in
lemma okThen_orCorrelated {err : Failure} :
    OkThen (Settles fingerprint recoverIncomplete) (orCorrelated recoverIncomplete claim response err) phase := by
  unfold orCorrelated
  split
  · rename_i lost
    exact okThen_ok ⟨rfl, fun _ _ => nofun, fun _ _ _ => (Bool.and_eq_true_iff.mp lost).1⟩
  · exact okThen_error

omit [Storage] in
lemma settles_completed {createdAt : Time} : Settles fingerprint recoverIncomplete
    { state := .completed, createdAt, response := some response } (.done fingerprint response) := by
  refine ⟨rfl, ?_, fun _ _ other => absurd rfl other⟩
  rintro _ ⟨⟩ _
  exact ⟨rfl, rfl⟩

variable {recover : Bool}

lemma beginProcessing_follows : (callProtocol may).Follows phase
    (beginProcessing fingerprint recover recoverIncomplete claim) (OkThen (Settles fingerprint recoverIncomplete)) := by
  unfold beginProcessing
  split
  · exact okThen_error
  split
  · exact okThen_error
  split
  · exact okThen_error
  refine .perform trivial fun result _ => ?_
  rcases (result : Except Failure Response) with err | response
  · exact okThen_error
  refine follows_bind.mpr (complete_follows.mono ?_)
  rintro (err | got) phase completed
  · exact okThen_orCorrelated
  · obtain rfl := completed _ rfl
    exact okThen_ok settles_completed

/-- Marked by this call or by an earlier one, the row is still held. -/
lemma last_follows (held : phase.held = some (fingerprint, claim.ownerToken, response, text)) :
    (callProtocol may).Follows phase (do
      match ← storeComplete fingerprint claim.ownerToken response with
      | .error err => pure (orCorrelated recoverIncomplete claim response err)
      | .ok () => pure (.ok { state := .completed, response := some response }))
      (OkThen (Settles fingerprint recoverIncomplete)) := by
  refine follows_bind.mpr ((storeComplete_follows held).mono ?_)
  rintro (err | _) phase completed
  · exact okThen_orCorrelated
  · obtain rfl := completed _ rfl
    exact okThen_ok settles_completed

lemma beginCommitted_follows {state : State} (held : phase.held = some (fingerprint, claim.ownerToken, response, text)) :
    (callProtocol may).Follows phase (beginCommitted fingerprint recoverIncomplete claim state response text)
      (OkThen (Settles fingerprint recoverIncomplete)) := by
  unfold beginCommitted
  split
  · exact okThen_error
  cases state with
  | sideEffectCommitted =>
    refine reconcile_follows held (fun _ => okThen_error) ?_
    refine follows_bind.mpr (storeMarkAudited_follows.mono ?_)
    rintro (err | _) phase marked
    · exact okThen_orCorrelated
    · obtain rfl := marked _ rfl
      exact last_follows rfl
  | processing | audited | completed => exact last_follows held

lemma beginRepair_follows (allowed : may) (held : phase.held = some (fingerprint, claim.ownerToken, response, text)) :
    (callProtocol may).Follows phase (beginRepair fingerprint claim response text) (OkThen (Settles fingerprint true)) := by
  unfold beginRepair
  split
  · exact okThen_error
  refine .perform trivial fun result _ => ?_
  rcases (result : Except Failure Response) with err | repaired
  · exact okThen_error
  dsimp only
  split
  · exact okThen_error
  refine follows_bind.mpr ((storeRepairIncompleteSideEffect_follows allowed held).mono ?_)
  rintro (err | _) phase written
  · exact okThen_orCorrelated
  · obtain rfl := written _ rfl
    exact beginCommitted_follows rfl

variable {record : Record}

omit [Storage] in
/-- What the store says of the row that it found. -/
lemma existingClaim_ok (same : existingClaim fingerprint recover record = .ok claim) :
    claim.claimed = false ∧ record.fingerprint = fingerprint ∧ claim.state = record.state ∧
      (record.state ≠ .processing → claim.response = some record.response) ∧
      (record.state ≠ .processing → record.state ≠ .completed →
        claim.ownerToken = record.owner ∧ claim.reconciliation = record.reconciliation) := by
  unfold existingClaim at same
  split at same
  · cases same
  rename_i agrees
  have fingerprint : record.fingerprint = fingerprint := not_ne_iff.mp agrees
  split at same
  · rename_i state
    split at same
    · cases same
    · cases same
      exact ⟨rfl, fingerprint, state.symm, fun other => absurd state other, fun other => absurd state other⟩
  · rename_i state
    cases same
    exact ⟨rfl, fingerprint, state.symm, fun _ => rfl, fun _ other => absurd state other⟩
  · cases same
    exact ⟨rfl, fingerprint, rfl, fun _ => rfl, fun _ _ => ⟨rfl, rfl⟩⟩

lemma beginExisting_follows (exclusive : recoverIncomplete = true → may) {recover' : Bool}
    (existing : existingClaim fingerprint recover' record = .ok claim) : (callProtocol may).Follows (.seen record)
      (beginExisting fingerprint recover recoverIncomplete claim) (OkThen (Settles fingerprint recoverIncomplete)) := by
  obtain ⟨unclaimed, sameFingerprint, sameState, sameResponse, sameRest⟩ := existingClaim_ok existing
  unfold beginExisting
  split
  · exact beginProcessing_follows
  · exact okThen_error
  rename_i response there running
  have committed : record.state ≠ .processing := by rwa [← sameState]
  obtain rfl : response = record.response := Option.some.inj (there.symm.trans (sameResponse committed))
  split
  · exact okThen_error
  split
  · rename_i completed
    split
    · exact okThen_error
    · refine okThen_ok ⟨unclaimed, ?_, fun _ _ other => absurd completed other⟩
      intro other same _
      exact ⟨sameState.symm.trans completed, sameFingerprint, Option.some.inj (there.symm.trans same)⟩
  · rename_i uncompleted
    have unfinished : record.state ≠ .completed := by rwa [← sameState]
    obtain ⟨sameOwner, sameText⟩ := sameRest committed unfinished
    have held : (Phase.seen record).held =
        some (fingerprint, claim.ownerToken, record.response, claim.reconciliation.getD []) := by
      simp [Phase.held, committed, sameFingerprint, sameOwner, sameText]
    dsimp only
    split
    · rename_i incomplete
      subst incomplete
      exact beginRepair_follows (exclusive rfl) held
    · rename_i incomplete
      rw [Bool.eq_false_iff.mpr incomplete]
      exact beginCommitted_follows held

/-- A claim as the store gives it: on a row of its own, or on the row that was read. -/
def Obtained (request : ClaimRequest) (claim : Claim) (phase : Phase) : Prop :=
  (∃ createdAt, claim = request.claimed createdAt) ∧ phase = .founded request.ownerToken ∨
    ∃ record, phase = .seen record ∧ existingClaim request.fingerprint request.recoverProcessing record = .ok claim

lemma scanClaim_eq_some {found : Record} (scanned : scanClaim record = some found) : found = record := by
  unfold scanClaim at scanned
  split at scanned
  · exact (Option.some.inj scanned).symm
  split at scanned
  · cases scanned
  split at scanned
  · cases scanned
  · exact (Option.some.inj scanned).symm

lemma storeClaim_follows {request : ClaimRequest} : (callProtocol may).Follows (.mine request.ownerToken)
    (storeClaim request) (OkThen (Obtained request)) := by
  have own : ∀ {createdAt}, OkThen (Obtained request) (.ok (request.claimed createdAt)) (.founded request.ownerToken) :=
    okThen_ok (.inl ⟨⟨_, rfl⟩, rfl⟩)
  unfold storeClaim
  split
  · exact okThen_error
  refine .perform rfl fun rows _ => ?_
  match rows with
  | none => exact okThen_error
  | some (some createdAt) => exact own
  | some none =>
    refine .perform rfl fun rows _ => ?_
    match rows with
    | none => exact okThen_error
    | some (some createdAt) => exact own
    | some none =>
      refine .perform trivial fun rows _ => ?_
      match rows with
      | none => exact okThen_error
      | some none => exact okThen_error
      | some (some record) =>
        dsimp only
        rcases scanned : scanClaim record with _ | found
        · exact okThen_error
        obtain rfl := scanClaim_eq_some scanned
        exact fun claim existing => .inr ⟨found, rfl, existing⟩

/-- A claim as `begin` gives it. -/
def Begun (fingerprint : String) (recoverIncomplete : Bool) (claim : Claim) (phase : Phase) : Prop :=
  phase = .founded claim.ownerToken ∧ claim.response = none ∨ Settles fingerprint recoverIncomplete claim phase

lemma begin_follows (exclusive : recoverIncomplete = true → may) {service : Service} :
    (callProtocol may).Follows phase (service.begin fingerprint text recover recoverIncomplete)
      (OkThen (Begun fingerprint recoverIncomplete)) := by
  unfold Service.begin
  split
  · exact okThen_error
  refine .perform trivial fun time _ => .perform trivial fun owner _ => ?_
  match time, owner with
  | _, none => exact okThen_error
  | none, some _ => exact okThen_error
  | some time, some owner =>
    dsimp only
    split
    · exact okThen_error
    have claims := @storeClaim_follows _ may ⟨fingerprint, owner, text, recover, time, time + service.lifetime⟩
    refine follows_bind.mpr (claims.mono ?_)
    rintro (err | claim) phase obtained
    · exact okThen_error
    rcases obtained claim rfl with ⟨⟨createdAt, rfl⟩, rfl⟩ | ⟨record, rfl, existing⟩
    · refine follows_ite.mpr ⟨fun _ => follows_ite.mpr ⟨fun _ => ?_, fun _ => okThen_error⟩, fun other => absurd rfl other⟩
      exact okThen_ok (.inl ⟨rfl, rfl⟩)
    · simp only [(existingClaim_ok existing).1, Bool.false_eq_true, ↓reduceIte]
      exact (beginExisting_follows exclusive existing).mono fun _ _ settles claim same => .inr (settles claim same)

/-- What a call knows when it returns. -/
def Outcome.Known (call : Call) : Outcome → Phase → Prop
  | .claim result, phase => OkThen (Begun call.fingerprint call.unreturned) result phase
  | .response result, phase => OkThen (fun response phase => phase = .done call.fingerprint response) result phase
  | .done _, _ => True

theorem program_follows (service : Service) (call : Call) :
    (callProtocol (call.unreturned = true)).Follows .nothing (call.program service) (Outcome.Known call) := by
  cases call with
  | begin => exact follows_bind.mpr (begin_follows nofun)
  | beginRecoverable =>
    simp only [Call.program]
    split
    · exact okThen_error
    · exact follows_bind.mpr (begin_follows nofun)
  | beginUnreturnedRecoverable =>
    simp only [Call.program]
    split
    · exact okThen_error
    · exact follows_bind.mpr (begin_follows fun _ => rfl)
  | complete => exact follows_bind.mpr complete_follows
  | abort =>
    refine follows_bind.mpr ?_
    unfold Idempotency.abort
    split
    · trivial
    · exact ⟨trivial, fun _ _ => trivial⟩

end DBPilot.Idempotency
