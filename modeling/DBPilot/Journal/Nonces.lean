import DBPilot.Journal.Integrity

/-!
# Nonces

Runs of `Prepare`, with what becomes of its transaction and of the `Sync` after
it. The slot of a nonce names its latest owner only; every earlier one had
expired when the slot was taken over.
-/

namespace DBPilot.Journal

open Tables Upserts Runs
open Jobs (sum256)

inductive Storage where
  | works
  | updateFails
  | syncFails

structure Preparation where
  envelope : CommandEnvelope
  now : Instant
  storage : Storage

inductive PrepareError where
  | refused (e : JournalError)
  | update
  | sync
  deriving DecidableEq

abbrev Prepared := Except PrepareError Bool

/-- The command and its reservation are in the journal. -/
def Prepared.stored : Prepared → Bool
  | .ok inserted => inserted
  | .error e => e = .sync

def Preparation.perform (p : Preparation) (journal : BoltJournal) : Prepared × BoltJournal :=
  match prepare p.envelope p.now journal, p.storage with
  | .error e, _ => (.error (.refused e), journal)
  | .ok _, .updateFails => (.error .update, journal)
  | .ok (true, journal'), .syncFails => (.error .sync, journal')
  | .ok (inserted, journal'), _ => (.ok inserted, journal')

def PrepareStep (journal : BoltJournal) (event : Preparation × Prepared) (journal' : BoltJournal) : Prop :=
  event.1.perform journal = (event.2, journal')

def CommandEnvelope.expiry (envelope : CommandEnvelope) : Int :=
  (envelope.expiresAt.map fun t => t.seconds.toInt * 1000000000 + t.nanos.toInt).getD 0

def Representable (t : Int) : Prop := -2 ^ 63 ≤ t ∧ t < 2 ^ 63

variable {p q : Preparation} {journal journal' : BoltJournal} {event : Preparation × Prepared}
  {events : List (Preparation × Prepared)} {time : Instant}

lemma performs (p : Preparation) (journal : BoltJournal) :
    PrepareStep journal (p, (p.perform journal).1) (p.perform journal).2 := rfl

lemma PrepareStep.cases (step : PrepareStep journal event journal') :
    event.2.stored = false ∧ journal' = journal ∨
    event.2.stored = true ∧ Inserts event.1.envelope event.1.now journal journal' := by
  obtain ⟨p, outcome⟩ := event
  unfold PrepareStep Preparation.perform at step
  split at step <;> cases step
  case h_1 | h_2 => exact .inl ⟨rfl, rfl⟩
  case h_3 committed => exact .inr ⟨rfl, ((prepare_inserts committed).resolve_left nofun).2⟩
  case h_4 committed => exact prepare_inserts committed

/-- The command is in the journal, and until it expires the slot of its nonce is its own. -/
structure Guarded (envelope : CommandEnvelope) (time : Instant) (journal : BoltJournal) : Prop where
  present : ∃ r ∈ journal.commands, r.commandID = envelope.commandID
  held : envelope.expiry ≤ time ∨ (∃ r ∈ journal.reservations, r.nonce = sum256 envelope.nonce) ∧
    ∀ r ∈ journal.reservations, r.nonce = sum256 envelope.nonce →
      r.commandID = envelope.commandID ∧ r.expiresAt = envelope.expiry

lemma Inserts.guarded (inserts : Inserts p.envelope p.now journal journal')
    (representable : Representable p.envelope.expiry) : Guarded p.envelope p.now journal' := by
  have expires : (reservationFor p.envelope p.now).expiresAt = p.envelope.expiry := by
    unfold CommandEnvelope.expiry at representable ⊢
    simp only [reservationFor, preparedEntry]
    cases stamp : p.envelope.expiresAt with
    | none => rfl
    | some t =>
      rw [stamp] at representable
      exact Int.bmod_eq_of_le representable.1 representable.2
  refine ⟨⟨_, (Table.mem_insert? inserts.commands).mpr (.inr rfl), rfl⟩, .inr ?_⟩
  rw [inserts.reservations]
  refine ⟨⟨_, mem_upsert.mpr (.inl rfl), rfl⟩, ?_⟩
  intro r listed same
  rcases mem_upsert.mp listed with rfl | ⟨_, other⟩
  · exact ⟨rfl, expires⟩
  · exact absurd same other

/-- The nonce is taken over no earlier than at the expiry. -/
lemma Guarded.expired (guarded : Guarded p.envelope time journal) (later : time ≤ q.now)
    (inserts : Inserts q.envelope q.now journal journal')
    (same : sum256 p.envelope.nonce = sum256 q.envelope.nonce) : p.envelope.expiry ≤ q.now := by
  rcases guarded.held with expired | ⟨⟨r, listed, reserved⟩, owned⟩
  · exact expired.trans later
  · rw [same] at reserved owned
    have present : (journal.reservations.find? (·.nonce = sum256 q.envelope.nonce)).isSome :=
      List.find?_isSome.mpr ⟨r, listed, decide_eq_true reserved⟩
    obtain ⟨s, found⟩ := Option.isSome_iff_exists.mp present
    obtain ⟨owner, expires⟩ := owned s (List.mem_of_find?_eq_some found) (by simpa using List.find?_some found)
    obtain ⟨c, stored, named⟩ := guarded.present
    have other : s.commandID ≠ q.envelope.commandID := by
      rw [owner, ← named]
      exact Table.key_not_mem_of_insert? inserts.commands stored
    have free := inserts.free s found
    simp only [NonceReservation.blocks, reservationFor, expires] at free
    simpa [other] using free

lemma Guarded.inserts (guarded : Guarded p.envelope time journal) (later : time ≤ q.now)
    (inserts : Inserts q.envelope q.now journal journal') : Guarded p.envelope q.now journal' := by
  obtain ⟨c, stored, named⟩ := guarded.present
  refine ⟨⟨c, (Table.mem_insert? inserts.commands).mpr (.inl stored), named⟩, ?_⟩
  by_cases same : sum256 p.envelope.nonce = sum256 q.envelope.nonce
  · exact .inl (guarded.expired later inserts same)
  · refine guarded.held.imp later.trans' ?_
    rintro ⟨⟨r, listed, reserved⟩, owned⟩
    rw [inserts.reservations]
    refine ⟨⟨r, mem_upsert.mpr (.inr ⟨listed, fun taken => same (reserved.symm.trans taken)⟩), reserved⟩, ?_⟩
    intro s member slot
    rcases mem_upsert.mp member with rfl | ⟨old, _⟩
    · exact absurd slot.symm same
    · exact owned s old slot

lemma Guarded.run (run : Run PrepareStep journal events journal')
    (ordered : events.Pairwise (·.1.now ≤ ·.1.now)) (later : ∀ e ∈ events, time ≤ e.1.now)
    (guarded : Guarded p.envelope time journal) : ∀ e ∈ events, e.2.stored = true →
      p.envelope.nonce = e.1.envelope.nonce → p.envelope.expiry ≤ e.1.now := by
  induction run generalizing time with
  | nil => simp
  | cons step _ ih =>
    obtain ⟨next, ordered⟩ := List.pairwise_cons.mp ordered
    obtain ⟨now, later⟩ := List.forall_mem_cons.mp later
    rw [List.forall_mem_cons]
    obtain ⟨unstored, rfl⟩ | ⟨_, inserts⟩ := step.cases
    · exact ⟨by simp [unstored], ih ordered later guarded⟩
    · refine ⟨?_, ih ordered next (guarded.inserts now inserts)⟩
      intro _ same
      exact guarded.expired now inserts (congrArg sum256 same)

theorem nonces_reserved (run : Run PrepareStep journal events journal')
    (ordered : events.Pairwise (·.1.now ≤ ·.1.now)) (representable : ∀ e ∈ events, Representable e.1.envelope.expiry) :
    events.Pairwise (fun e f => e.2.stored = true → f.2.stored = true →
      e.1.envelope.nonce = f.1.envelope.nonce → e.1.envelope.expiry ≤ f.1.now) ∧
    Run (fun journal e journal' => ∀ error, e.2 = .error error → (journal' = journal ↔ error ≠ .sync))
      journal events journal' := by
  constructor
  · induction run with
    | nil => exact .nil
    | cons step rest ih =>
      obtain ⟨next, ordered⟩ := List.pairwise_cons.mp ordered
      obtain ⟨first, representable⟩ := List.forall_mem_cons.mp representable
      refine List.pairwise_cons.mpr ⟨?_, ih ordered representable⟩
      intro f listed stored
      obtain ⟨unstored, _⟩ | ⟨_, inserts⟩ := step.cases
      · simp [stored] at unstored
      · exact (inserts.guarded first).run rest ordered next f listed
  · refine run.mono ?_
    intro journal e journal' step error failed
    have changed := step.cases
    rw [failed] at changed
    obtain ⟨unstored, same⟩ | ⟨stored, inserts⟩ := changed
    · exact iff_of_true same (of_decide_eq_false unstored)
    · refine iff_of_false ?_ (not_not.mpr (of_decide_eq_true stored))
      rintro rfl
      exact Table.key_not_mem_of_insert? inserts.commands ((Table.mem_insert? inserts.commands).mpr (.inr rfl)) rfl

def samplePreparation : Preparation := ⟨sampleEnvelope, 10000000000, .works⟩

def reusedNonce : Preparation := ⟨{ sampleEnvelope with commandID := "reuse" }, 100000000000, .works⟩

theorem nonces_reserved_reuse : (samplePreparation.perform .empty).1 = .ok true ∧
    (reusedNonce.perform (samplePreparation.perform .empty).2).1 = .ok true ∧
    samplePreparation.envelope.expiry ≤ reusedNonce.now := by
  have stores : (samplePreparation.perform .empty).1 = .ok true := by decide +kernel
  have reuses : (reusedNonce.perform (samplePreparation.perform .empty).2).1 = .ok true := by decide +kernel
  have run := Run.cons (performs samplePreparation .empty) (.single (performs reusedNonce _))
  obtain ⟨reserved, _⟩ := nonces_reserved run (by decide +kernel) (by unfold Representable; decide +kernel)
  refine ⟨stores, reuses, ?_⟩
  exact List.rel_of_pairwise_cons reserved List.mem_cons_self (by rw [stores]; rfl) (by rw [reuses]; rfl) rfl

/-- The error of the `Sync` comes after the transaction. -/
theorem stored_despite_error : ({ samplePreparation with storage := .syncFails }.perform .empty).1 = .error .sync ∧
    ({ samplePreparation with storage := .syncFails }.perform .empty).2.reservations ≠ [] := by
  decide +kernel

end DBPilot.Journal
