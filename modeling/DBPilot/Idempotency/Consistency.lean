import DBPilot.Idempotency.Service

/-!
# What the statements keep

The owner tokens of the rows are fresh, so a token stands for one row from its
creation to its end. What a running call holds of a row is what the row still says,
as long as it has that owner.
-/

namespace DBPilot.Idempotency

open Wire (Bytes)

variable [Storage]

/-- The row was created with this owner and this fingerprint. -/
def Created (w : World) (record : Record) : Prop :=
  ∃ thread first, (thread, Event.created first) ∈ w.history ∧ first.owner = record.owner ∧
    first.fingerprint = record.fingerprint

/-- The callback has succeeded for what the row says. -/
def Reconciled (w : World) (record : Record) : Prop :=
  ∃ thread response reconciliation, (thread, Event.reconciled response reconciliation) ∈ w.history ∧
    response.stored = some record.response ∧ Storage.jsonb reconciliation = record.reconciliation

/-- The row has a response, the same as before. -/
structure Agrees (current record : Record) : Prop where
  committed : current.state ≠ .processing
  response : current.response = record.response
  reconciliation : current.reconciliation = record.reconciliation
  fingerprint : current.fingerprint = record.fingerprint

/-- Columns that are read back as they are. -/
structure Settled (record : Record) : Prop where
  response : record.response.stored = some record.response
  reconciliation : ∃ text, record.reconciliation = some text ∧ Storage.jsonb text = some text

/-- The row that the call saw was completed with this response. -/
structure Final (w : World) (fingerprint : String) (response : Response) (record : Record) : Prop where
  fingerprint : record.fingerprint = fingerprint
  response : response.stored = some record.response
  completed : ∃ thread final, (thread, Event.completed final) ∈ w.history ∧ final.owner = record.owner ∧
    final.fingerprint = record.fingerprint ∧ final.response = record.response

/-- A response of a completed row of the call's own fingerprint. -/
def Answered (w : World) (thread : Nat) (seen : List Record) (response : Response) : Prop :=
  ∃ call, (thread, Event.started call) ∈ w.history ∧ ∃ record ∈ seen, Final w call.fingerprint response record

def Call.unreturned : Call → Bool
  | .beginUnreturnedRecoverable _ _ => true
  | _ => false

/-- What a claim that was returned stands for. -/
structure Claims (w : World) (thread : Nat) (seen : List Record) (claim : Claim) : Prop where
  claimed : claim.claimed = true → ∃ record, (thread, Event.created record) ∈ w.history ∧ record.owner = claim.ownerToken
  answered : ∀ response, claim.response = some response → claim.state = .completed → Answered w thread seen response
  other : ∀ response, claim.response = some response → claim.state ≠ .completed →
    ∃ call, (thread, Event.started call) ∈ w.history ∧ call.unreturned = true

def Returned (w : World) (thread : Nat) (seen : List Record) : Outcome → Prop
  | .claim (.ok claim) => Claims w thread seen claim
  | .response (.ok response) => Answered w thread seen response
  | _ => True

structure Consistent (w : World) : Prop where
  issuedOnce : ∀ {thread other owner}, (thread, Event.issued owner) ∈ w.history →
    (other, Event.issued owner) ∈ w.history → thread = other
  createdIssued : ∀ {thread record}, (thread, Event.created record) ∈ w.history →
    (thread, Event.issued record.owner) ∈ w.history
  current : ∀ record, w.record = some record → Created w record
  settled : ∀ record, w.record = some record → record.state ≠ .processing → Settled record
  heldCreated : ∀ {thread record}, (thread, record) ∈ w.held → Created w record
  heldCurrent : ∀ {thread record current}, (thread, record) ∈ w.held → w.record = some current →
    current.owner = record.owner → Agrees current record
  reconciled : ∀ record, w.record = some record → record.state = .audited ∨ record.state = .completed →
    Reconciled w record
  completedReconciled : ∀ {thread record}, (thread, Event.completed record) ∈ w.history → Reconciled w record
  completedLogged : ∀ record, w.record = some record → record.state = .completed →
    ∃ thread, (thread, Event.completed record) ∈ w.history
  returned : ∀ {thread outcome seen}, (thread, Event.returned outcome seen) ∈ w.history →
    Returned w thread seen outcome

lemma consistent_fresh : Consistent .fresh :=
  ⟨nofun, nofun, nofun, nofun, nofun, nofun, nofun, nofun, nofun, nofun⟩

/-! ## Histories grow -/

section growth

variable {w w' : World} {thread : Nat} {record : Record} {response : Response} {seen : List Record}

omit [Storage] in
lemma Created.mono (created : Created w record) (grows : w.history ⊆ w'.history) : Created w' record := by
  obtain ⟨thread, first, member, owner, fingerprint⟩ := created
  exact ⟨thread, first, grows member, owner, fingerprint⟩

lemma Reconciled.mono (reconciled : Reconciled w record) (grows : w.history ⊆ w'.history) : Reconciled w' record := by
  obtain ⟨thread, response, text, member, same⟩ := reconciled
  exact ⟨thread, response, text, grows member, same⟩

lemma Final.mono {fingerprint : String} (final : Final w fingerprint response record)
    (grows : w.history ⊆ w'.history) : Final w' fingerprint response record := by
  obtain ⟨other, last, member, same⟩ := final.completed
  exact ⟨final.fingerprint, final.response, other, last, grows member, same⟩

lemma Answered.mono (answered : Answered w thread seen response) (grows : w.history ⊆ w'.history) :
    Answered w' thread seen response := by
  obtain ⟨call, started, record, member, final⟩ := answered
  exact ⟨call, grows started, record, member, final.mono grows⟩

lemma Claims.mono {claim : Claim} (claims : Claims w thread seen claim) (grows : w.history ⊆ w'.history) :
    Claims w' thread seen claim := by
  refine ⟨?_, ?_, ?_⟩
  · intro claimed
    obtain ⟨record, member, owner⟩ := claims.claimed claimed
    exact ⟨record, grows member, owner⟩
  · exact fun response there completed => (claims.answered response there completed).mono grows
  · intro response there running
    obtain ⟨call, started, unreturned⟩ := claims.other response there running
    exact ⟨call, grows started, unreturned⟩

lemma Returned.mono {outcome : Outcome} (returned : Returned w thread seen outcome) (grows : w.history ⊆ w'.history) :
    Returned w' thread seen outcome := by
  cases outcome with
  | claim result =>
    cases result with
    | error err => trivial
    | ok => exact Claims.mono returned grows
  | response result =>
    cases result with
    | error err => trivial
    | ok => exact Answered.mono returned grows
  | done => trivial

end growth

/-! ## The row under the statements -/

variable {record : Record}

section row

variable {w : World} {thread : Nat}

section

omit [Storage]

lemma mem_log {event : Event} {entry : Nat × Event} :
    entry ∈ (w.log thread event).history ↔ entry ∈ w.history ∨ entry = (thread, event) := by
  simp [World.log]

lemma log_grows (event : Event) : w.history ⊆ (w.log thread event).history := fun _ member => mem_log.mpr (.inl member)

lemma mem_release {entry : Nat × Record} : entry ∈ (w.release thread).held ↔ entry ∈ w.held ∧ entry.1 ≠ thread := by
  simp [World.release]

lemma mem_hold {entry : Nat × Record} :
    entry ∈ (w.hold thread record).held ↔ entry = (thread, record) ∨ entry ∈ w.held ∧ entry.1 ≠ thread := by
  rw [World.hold, List.mem_cons, mem_release]

lemma row_eq_some {fingerprint owner : String} {states : List State}
    (found : w.row fingerprint owner states = some record) :
    w.record = some record ∧ record.fingerprint = fingerprint ∧ record.owner = owner ∧ record.state ∈ states := by
  obtain ⟨there, named⟩ := Option.filter_eq_some_iff.mp found
  simp only [Record.matches, Bool.and_eq_true, decide_eq_true_eq] at named
  exact ⟨there, named.1.1, named.1.2, named.2⟩

end

lemma withResponse_eq_some {record' : Record} {response : Response} {text : Bytes}
    (done : record.withResponse response text = some record') :
    ∃ stored text', response.stored = some stored ∧ Storage.jsonb text = some text' ∧
      record' = { record with state := .sideEffectCommitted, response := stored, reconciliation := some text' } := by
  unfold Record.withResponse at done
  split at done
  · rename_i stored text' first second
    cases done
    exact ⟨stored, text', first, second, rfl⟩
  · cases done

lemma stored_idem {response stored : Response} (same : response.stored = some stored) :
    stored.stored = some stored := by
  obtain ⟨header, first, rfl⟩ := Option.map_eq_some_iff.mp same
  exact Option.map_eq_some_iff.mpr ⟨header, Storage.header_idem first, rfl⟩

lemma newRecord_eq_some {fingerprint owner : String} {payload : Option Bytes} {expires now : Jobs.Instant}
    (made : newRecord fingerprint owner payload expires now = some record) :
    record.fingerprint = fingerprint ∧ record.owner = owner ∧ record.state = .processing := by
  unfold newRecord at made
  dsimp only at made
  split at made
  · cases made
  · split at made
    · cases made
    · cases made
      exact ⟨rfl, rfl, rfl⟩

end row

namespace Consistent

variable {w : World} {thread : Nat}

section

variable (consistent : Consistent w)
include consistent

lemma release (thread : Nat) : Consistent (w.release thread) where
  issuedOnce := consistent.issuedOnce
  createdIssued := consistent.createdIssued
  current := consistent.current
  settled := consistent.settled
  heldCreated held := consistent.heldCreated (mem_release.mp held).1
  heldCurrent held := consistent.heldCurrent (mem_release.mp held).1
  reconciled := consistent.reconciled
  completedReconciled := consistent.completedReconciled
  completedLogged := consistent.completedLogged
  returned member := (consistent.returned member).mono (List.Subset.refl _)

/-- An event is logged. -/
lemma log {event : Event}
    (issued : ∀ owner, event = .issued owner → ∀ other, (other, Event.issued owner) ∉ w.history)
    (created : ∀ record, event = .created record → (thread, Event.issued record.owner) ∈ w.history)
    (completed : ∀ record, event = .completed record → Reconciled w record)
    (returned : ∀ outcome seen, event = .returned outcome seen → Returned w thread seen outcome) :
    Consistent (w.log thread event) := by
  have grows : w.history ⊆ (w.log thread event).history := log_grows event
  constructor
  · intro first second owner one two
    rcases mem_log.mp one with old | new
    · rcases mem_log.mp two with old' | new'
      · exact consistent.issuedOnce old old'
      · exact absurd old (issued owner (congrArg Prod.snd new').symm first)
    · rcases mem_log.mp two with old' | new'
      · exact absurd old' (issued owner (congrArg Prod.snd new).symm second)
      · exact (Prod.mk.inj new).1.trans (Prod.mk.inj new').1.symm
  · intro first record one
    rcases mem_log.mp one with old | new
    · exact grows (consistent.createdIssued old)
    · obtain ⟨rfl, same⟩ := Prod.mk.inj new
      exact grows (created record same.symm)
  · exact fun record there => (consistent.current record there).mono grows
  · exact consistent.settled
  · exact fun held => (consistent.heldCreated held).mono grows
  · exact consistent.heldCurrent
  · exact fun record there state => (consistent.reconciled record there state).mono grows
  · intro first record one
    rcases mem_log.mp one with old | new
    · exact (consistent.completedReconciled old).mono grows
    · exact (completed record (congrArg Prod.snd new).symm).mono grows
  · intro record there state
    obtain ⟨other, member⟩ := consistent.completedLogged record there state
    exact ⟨other, grows member⟩
  · intro first outcome seen one
    rcases mem_log.mp one with old | new
    · exact (consistent.returned old).mono grows
    · obtain ⟨rfl, same⟩ := Prod.mk.inj new
      exact (returned outcome seen same.symm).mono grows

/-- The row is replaced by one that agrees with what the calls hold of it. -/
lemma row (created : Created w record) (settled : record.state ≠ .processing → Settled record)
    (agrees : ∀ {thread held}, (thread, held) ∈ w.held → record.owner = held.owner → Agrees record held)
    (reconciled : record.state = .audited ∨ record.state = .completed → Reconciled w record)
    (logged : record.state = .completed → ∃ thread, (thread, Event.completed record) ∈ w.history) :
    Consistent { w with record := some record } where
  issuedOnce := consistent.issuedOnce
  createdIssued := consistent.createdIssued
  current := by
    rintro _ ⟨⟩
    exact created
  settled := by
    rintro _ ⟨⟩
    exact settled
  heldCreated := consistent.heldCreated
  heldCurrent := by
    rintro _ _ _ member ⟨⟩
    exact agrees member
  reconciled := by
    rintro _ ⟨⟩
    exact reconciled
  completedReconciled := consistent.completedReconciled
  completedLogged := by
    rintro _ ⟨⟩
    exact logged
  returned member := (consistent.returned member).mono (List.Subset.refl _)

/-- A new row, whose owner no row had before. -/
lemma create (issued : (thread, Event.issued record.owner) ∈ w.history)
    (unused : ∀ other first, (other, Event.created first) ∈ w.history → first.owner ≠ record.owner)
    (processing : record.state = .processing) :
    Consistent ({ w with record := some record }.log thread (.created record)) := by
  have logged : Consistent (w.log thread (.created record)) :=
    consistent.log nofun (by rintro _ ⟨⟩; exact issued) nofun nofun
  refine logged.row ⟨thread, record, mem_log.mpr (.inr rfl), rfl, rfl⟩ (absurd processing) ?_ ?_ ?_
  · intro holder held member same
    obtain ⟨other, first, created, owner, _⟩ := consistent.heldCreated member
    exact absurd (owner.trans same.symm) (unused other first created)
  · rw [processing]
    nofun
  · rw [processing]
    nofun

/-- A call takes hold of the row as it is. -/
lemma take (there : w.record = some record) (committed : record.state ≠ .processing) (thread : Nat) :
    Consistent { w with held := (thread, record) :: w.held } where
  issuedOnce := consistent.issuedOnce
  createdIssued := consistent.createdIssued
  current := consistent.current
  settled := consistent.settled
  heldCreated held := by
    rcases List.mem_cons.mp held with new | old
    · cases new
      exact consistent.current record there
    · exact consistent.heldCreated old
  heldCurrent held now same := by
    rcases List.mem_cons.mp held with new | old
    · cases new
      cases there.symm.trans now
      exact ⟨committed, rfl, rfl, rfl⟩
    · exact consistent.heldCurrent old now same
  reconciled := consistent.reconciled
  completedReconciled := consistent.completedReconciled
  completedLogged := consistent.completedLogged
  returned member := (consistent.returned member).mono (List.Subset.refl _)

/-- The row gets a response, and every other call that holds it holds just that. -/
lemma write (there : w.record = some record) {record' : Record} (owner : record'.owner = record.owner)
    (fingerprint : record'.fingerprint = record.fingerprint) (committed : record'.state = .sideEffectCommitted)
    (settled : Settled record')
    (others : ∀ other held, (other, held) ∈ w.held → other ≠ thread → held.owner = record.owner →
      record'.response = held.response ∧ record'.reconciliation = held.reconciliation) :
    Consistent ({ w with record := some record' }.hold thread record') := by
  have notProcessing : record'.state ≠ .processing := by
    rw [committed]
    exact nofun
  have created : Created w record' := by
    obtain ⟨creator, first, member, sameOwner, sameFingerprint⟩ := consistent.current record there
    exact ⟨creator, first, member, sameOwner.trans owner.symm, sameFingerprint.trans fingerprint.symm⟩
  -- What the call itself held of the row is gone before the row changes.
  have written : Consistent { w.release thread with record := some record' } := by
    refine (consistent.release thread).row created (fun _ => settled) ?_ ?_ ?_
    · intro first held member same
      obtain ⟨old, other⟩ := mem_release.mp member
      have sameOwner : held.owner = record.owner := same.symm.trans owner
      obtain ⟨response, reconciliation⟩ := others first held old other sameOwner
      have before := consistent.heldCurrent old there sameOwner.symm
      exact ⟨notProcessing, response, reconciliation, fingerprint.trans before.fingerprint⟩
    · rw [committed]
      nofun
    · rw [committed]
      nofun
  exact written.take rfl notProcessing thread

/-- The row is marked, with all else as it was. -/
lemma mark {record : Record} {state : State} (there : w.record = some record)
    (committed : record.state ≠ .processing) (marked : state ≠ .processing) (reconciled : Reconciled w record)
    (logged : state = .completed → ∃ thread, (thread, Event.completed { record with state }) ∈ w.history) :
    Consistent { w with record := some { record with state } } := by
  obtain ⟨response, reconciliation⟩ := consistent.settled record there committed
  refine consistent.row (consistent.current record there) (fun _ => ⟨response, reconciliation⟩) ?_
    (fun _ => reconciled) logged
  intro first held member same
  obtain ⟨_, response, reconciliation, fingerprint⟩ := consistent.heldCurrent member there same
  exact ⟨marked, response, reconciliation, fingerprint⟩

/-- The last state is logged with the row. -/
lemma complete {record : Record} (there : w.record = some record) (committed : record.state ≠ .processing)
    (reconciled : Reconciled w record) :
    Consistent ({ w with record := some { record with state := .completed } }.log thread
      (.completed { record with state := .completed })) := by
  have logged : Consistent (w.log thread (.completed { record with state := .completed })) :=
    consistent.log nofun nofun (by rintro _ ⟨⟩; exact reconciled) nofun
  exact logged.mark there committed nofun (reconciled.mono (log_grows _)) fun _ => ⟨thread, mem_log.mpr (.inr rfl)⟩

lemma delete : Consistent { w with record := none } where
  issuedOnce := consistent.issuedOnce
  createdIssued := consistent.createdIssued
  current := nofun
  settled := nofun
  heldCreated := consistent.heldCreated
  heldCurrent _ := nofun
  reconciled := nofun
  completedReconciled := consistent.completedReconciled
  completedLogged := nofun
  returned member := (consistent.returned member).mono (List.Subset.refl _)

end

end Consistent

end DBPilot.Idempotency
