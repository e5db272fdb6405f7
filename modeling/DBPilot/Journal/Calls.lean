import DBPilot.Journal.Entries

/-!
# What each call does to an entry

A world is the journal with the calls of `AuthorizeStart` that are between their
two transactions. Calls come in any order and with any arguments and times; a
call under way goes on at any time or never, and ends with the journal's handle
when the journal is opened again.

`RowStep` says what an event can do to one entry, with everything it has checked;
`Step.evolves` shows that an event moves every entry by such a step and adds only
entries of new commands.
-/

namespace DBPilot.Journal

open Tables Transactions Runs
open Jobs (Digest sum256)

variable {r r' : StoredEntry}

inductive Call where
  | prepare (envelope : CommandEnvelope) (now : Instant)
  /-- The first transaction of `AuthorizeStart`. -/
  | authorizeStart (start : Start) (now : Instant)
  /-- The second one. -/
  | continueStart (start : Start) (now : Instant)
  | cancelPrepared (commandID : String) (now : Instant)
  | markInterrupted (commandID : String) (now : Instant)
  | complete (commandID : String) (result : CommandResult) (now : Instant)
  | markReported (commandID : String) (resultDigest : Digest) (now : Instant)
  | markResultConflicted (commandID : String) (resultDigest : Digest) (reason : String) (now : Instant)
  | reopen (now : Instant)
  deriving DecidableEq

/-- What the caller is told; nothing yet while `AuthorizeStart` goes on. -/
inductive Answer where
  | underway
  | ok
  | failed (e : JournalError)
  deriving DecidableEq

structure Event where
  call : Call
  answer : Answer
  deriving DecidableEq

structure World where
  journal : BoltJournal
  starting : List Start

def World.initial : World := ⟨.empty, []⟩

/-- An expired start has interrupted the entry and is an error all the same. -/
def startAnswer (otherwise : Answer) (expired : Bool) : Answer :=
  if expired then .failed .startDeadlineExceeded else otherwise

/-- The transaction of a call, with the answer when it commits. -/
def Call.tx : Call → JournalTx Answer
  | .prepare envelope now => (fun _ => .ok) <$> Journal.prepare envelope now
  | .authorizeStart start now => startAnswer .underway <$> Journal.authorizeStart start now
  | .continueStart start now => startAnswer .ok <$> Journal.continueStart start now
  | .cancelPrepared id now => (fun _ => .ok) <$> Journal.cancelPrepared id now
  | .markInterrupted id now => (fun _ => .ok) <$> Journal.markInterrupted id now
  | .complete id result now => (fun _ => .ok) <$> Journal.complete id result now
  | .markReported id digest now => (fun _ => .ok) <$> Journal.markReported id digest now
  | .markResultConflicted id digest reason now =>
    (fun _ => .ok) <$> Journal.markResultConflicted id digest reason now
  | .reopen now => (fun _ => .ok) <$> recoverRunning now

/-- The calls of `AuthorizeStart` under way after a call. -/
def Call.startingAfter (starting : List Start) (answer : Answer) : Call → List Start
  | .authorizeStart start _ => if answer = .underway then start :: starting else starting
  | .continueStart start _ => starting.erase start
  | .reopen _ => []
  | _ => starting

def Call.enabled (w : World) : Call → Bool
  | .continueStart start _ => w.starting.contains start
  | _ => true

def World.handle (w : World) (call : Call) : Answer × World :=
  match perform call.tx w.journal with
  | (.ok answer, journal) => (answer, ⟨journal, call.startingAfter w.starting answer⟩)
  | (.error e, journal) => (.failed e, ⟨journal, call.startingAfter w.starting (.failed e)⟩)

def Step (w : World) (e : Event) (w' : World) : Prop :=
  e.call.enabled w = true ∧ w.handle e.call = (e.answer, w')

/-- `AuthorizeStart` of the command returns nil. -/
def Event.starts (id : String) (e : Event) : Bool :=
  match e.call with
  | .continueStart start _ => start.commandID = id && e.answer = .ok
  | _ => false

/-- `CancelPrepared` or `MarkInterrupted` of the command returns nil. -/
def Event.stops (id : String) (e : Event) : Bool :=
  match e.call with
  | .cancelPrepared commandID _ | .markInterrupted commandID _ => commandID = id && e.answer = .ok
  | _ => false

inductive RowStep : StoredEntry → Event → StoredEntry → Prop
  | idle {r e} (quiet : e.starts r.commandID = false)
      (stopped : e.stops r.commandID = true → r.state = .cancelled ∨ r.state = .interrupted) :
      RowStep r e r
  | authorize {r start now} (prepared : r.state = .prepared) (valid : start.valid = true) :
      RowStep r ⟨.authorizeStart start now, .underway⟩ (fenced start r)
  | expire {r start now} (prepared : r.state = .prepared) (valid : start.valid = true) :
      RowStep r ⟨.authorizeStart start now, .failed .startDeadlineExceeded⟩ (setInterrupted (fenced start r) now)
  | interrupt {r e} {now : Instant} (quiet : e.starts r.commandID = false) (started : r.started = true) :
      RowStep r e (setInterrupted r now)
  | run {r start now} (authorized : r.state = .startAuthorized)
      (fence : matchesFence r start.executionToken start.leaseRevision = true) :
      RowStep r ⟨.continueStart start now, .ok⟩ { r with state := .running, startedAt := unixNano now }
  | cancel {r id now} (prepared : r.state = .prepared) :
      RowStep r ⟨.cancelPrepared id now, .ok⟩
        { r with state := .cancelled, completedAt := unixNano now, envelope := [] }
  | complete {r id result now} (running : r.state = .running)
      (fence : matchesFence r result.executionToken result.leaseRevision = true) :
      RowStep r ⟨.complete id result now, .ok⟩
        { r with
          state := .completed
          completedAt := unixNano now
          result := encodeResult result
          resultDigest := some (sum256 (encodeResult result)) }
  | report {r digest now} (done : r.state = .completed ∨ r.state = .interrupted)
      (stored : r.resultDigest = some digest) :
      RowStep r ⟨.markReported r.commandID digest now, .ok⟩
        { r with reportedAt := unixNano now, acknowledgedResultDigest := some digest }
  | conflict {r digest reason now} (done : r.state = .completed ∨ r.state = .interrupted)
      (stored : r.resultDigest = some digest) :
      RowStep r ⟨.markResultConflicted r.commandID digest reason now, .ok⟩
        { r with
          state := .resultConflicted
          resultConflictedAt := unixNano now
          resultConflictReason := reason }

/-- The entry of a new command. -/
def Fresh (r : StoredEntry) : Prop := ∃ envelope now, r = preparedEntry envelope now

lemma RowStep.kept {e : Event} (step : RowStep r e r') : r'.commandID = r.commandID := by
  cases step <;> rfl

section steps

variable {w w' : World} {e : Event} {journal journal' : BoltJournal} {id : String} {answer : Answer} {α : Type}
  {a : α} {update : StoredEntry → Except JournalError (α × StoredEntry)}

lemma transition_row (commits : Commits (transition id update) journal a journal') :
    ∃ r ∈ journal.commands, ∃ r', r.commandID = id ∧ update r = .ok (a, r') ∧
      journal' = { journal with commands := journal.commands.put r' } := by
  simp only [transition, commits_steps] at commits
  obtain ⟨_, r, found, ⟨a', r'⟩, updated, rfl, rfl⟩ := commits
  obtain ⟨member, named⟩ := Table.find?_eq_some.mp found
  exact ⟨r, member, r', named, updated, rfl⟩

/-- An update of the entry that a call names. -/
lemma transition_evolves (commits : Commits (transition id update) journal a journal')
    (miss : ∀ r : StoredEntry, r.commandID ≠ id → RowStep r e r)
    (hit : ∀ {r r'}, r.commandID = id → update r = .ok (a, r') → RowStep r e r') :
    Evolves (fun r r' => RowStep r e r') Fresh journal.commands journal'.commands := by
  obtain ⟨r, member, r', named, updated, rfl⟩ := transition_row commits
  have step := hit named updated
  exact Evolves.put (fun s _ other => miss s (named ▸ other)) member step.kept step

/-- An event that neither starts nor stops a command may leave every entry alone. -/
lemma RowStep.idle_of (r : StoredEntry) (quiet : ∀ id, e.starts id = false)
    (unstopped : ∀ id, e.stops id = false) : RowStep r e r :=
  .idle (quiet _) fun stopped => by rw [unstopped] at stopped; cases stopped

variable {now : Instant}

lemma authorizeEntry_row {start : Start} {expired : Bool} (valid : start.valid = true)
    (updated : authorizeEntry start now r = .ok (expired, r')) :
    RowStep r ⟨.authorizeStart start now, startAnswer .underway expired⟩ r' := by
  unfold authorizeEntry at updated
  split at updated
  · cases updated
  · rename_i prepared
    split at updated
    · cases updated
    split at updated
    · obtain ⟨rfl, rfl⟩ := updated
      exact .expire prepared valid
    · obtain ⟨rfl, rfl⟩ := updated
      exact .authorize prepared valid
  · rename_i authorized
    split at updated
    · cases updated
    split at updated
    · obtain ⟨rfl, rfl⟩ := updated
      exact .interrupt rfl (by simp [StoredEntry.started, authorized])
    split at updated
    · cases updated
    · obtain ⟨rfl, rfl⟩ := updated
      exact .idle_of r (fun _ => rfl) fun _ => rfl
  · cases updated

lemma runEntry_row {start : Start} {expired : Bool} (updated : runEntry start now r = .ok (expired, r')) :
    RowStep r ⟨.continueStart start now, startAnswer .ok expired⟩ r' := by
  unfold runEntry at updated
  split at updated
  · cases updated
  · rename_i authorized
    split at updated
    · cases updated
    rename_i fence
    split at updated
    · obtain ⟨rfl, rfl⟩ := updated
      refine .interrupt ?_ (by simp [StoredEntry.started, authorized])
      simp [Event.starts, startAnswer]
    · obtain ⟨rfl, rfl⟩ := updated
      exact .run authorized (by simpa using fence)
  · cases updated

lemma cancelEntry_row (updated : cancelEntry now r = .ok ((), r')) :
    RowStep r ⟨.cancelPrepared r.commandID now, .ok⟩ r' := by
  unfold cancelEntry at updated
  split at updated
  · rename_i cancelled
    obtain ⟨_, rfl⟩ := updated
    exact .idle rfl fun _ => .inl cancelled
  split at updated
  · cases updated
  · rename_i prepared
    obtain ⟨_, rfl⟩ := updated
    exact .cancel (by simpa using prepared)

lemma interruptEntry_row (updated : interruptEntry now r = .ok ((), r')) :
    RowStep r ⟨.markInterrupted r.commandID now, .ok⟩ r' := by
  unfold interruptEntry at updated
  split at updated
  · rename_i interrupted
    obtain ⟨_, rfl⟩ := updated
    exact .idle rfl fun _ => .inr interrupted
  split at updated
  · cases updated
  · rename_i checks
    obtain ⟨_, rfl⟩ := updated
    refine .interrupt rfl ?_
    simp only [StoredEntry.started, Bool.or_eq_true, decide_eq_true_eq]
    tauto

lemma completeEntry_row {result : CommandResult} (updated : completeEntry result now r = .ok ((), r')) :
    RowStep r ⟨.complete id result now, .ok⟩ r' := by
  unfold completeEntry at updated
  split at updated
  · cases updated
  rename_i running
  split at updated
  · cases updated
  rename_i fence
  obtain ⟨_, rfl⟩ := updated
  exact .complete (by simpa using running) (by simpa using fence)

lemma reportEntry_row {digest : Digest} (updated : reportEntry digest now r = .ok ((), r')) :
    RowStep r ⟨.markReported r.commandID digest now, .ok⟩ r' := by
  unfold reportEntry at updated
  split at updated
  · cases updated
  rename_i checks
  split at updated
  · cases updated
  rename_i stored found
  split at updated
  · cases updated
  rename_i same
  have done : r.state = .completed ∨ r.state = .interrupted := by tauto
  split at updated
  · obtain ⟨_, rfl⟩ := updated
    exact .report done (by rw [found, not_not.mp same])
  · obtain ⟨_, rfl⟩ := updated
    exact .idle_of r (fun _ => rfl) fun _ => rfl

lemma conflictEntry_row {digest : Digest} {reason : String}
    (updated : conflictEntry digest reason now r = .ok ((), r')) :
    RowStep r ⟨.markResultConflicted r.commandID digest reason now, .ok⟩ r' := by
  unfold conflictEntry at updated
  split at updated
  · cases updated
  rename_i stored found
  split at updated
  · cases updated
  rename_i same
  split at updated
  · split at updated
    · obtain ⟨_, rfl⟩ := updated
      exact .idle_of r (fun _ => rfl) fun _ => rfl
    · cases updated
  split at updated
  · cases updated
  · rename_i checks
    obtain ⟨_, rfl⟩ := updated
    exact .conflict (by tauto) (by rw [found, not_not.mp same])

/-- What an insertion found and did. -/
structure Inserts (envelope : CommandEnvelope) (now : Instant) (journal journal' : BoltJournal) : Prop where
  free : ∀ r, journal.reservations.find? (·.nonce = sum256 envelope.nonce) = some r →
    r.blocks (reservationFor envelope now) now = false
  commands : journal.commands.insert? (preparedEntry envelope now) = some journal'.commands
  reservations : journal'.reservations =
    Upserts.upsert NonceReservation.nonce journal.reservations (reservationFor envelope now)

lemma prepare_inserts {envelope : CommandEnvelope} {inserted : Bool}
    (commits : Commits (prepare envelope now) journal inserted journal') :
    inserted = false ∧ journal' = journal ∨ inserted = true ∧ Inserts envelope now journal journal' := by
  simp only [prepare, commits_bind, commits_require, commits_inspect] at commits
  obtain ⟨_, _, ⟨_, rfl⟩, found, _, ⟨_, rfl⟩, rest⟩ := commits
  cases found with
  | some =>
    simp only [commits_steps] at rest
    exact .inl (rest.2.imp .symm .symm)
  | none =>
    simp only [commits_steps] at rest
    obtain ⟨unblocked, commands, added, rfl, rfl⟩ := rest
    refine .inr ⟨rfl, ?_, added, rfl⟩
    intro r reserved
    change Option.all _ (journal.reservations.find? (·.nonce = sum256 envelope.nonce)) = true at unblocked
    simpa only [reserved, Option.all_some, Bool.not_eq_true'] using unblocked

lemma Step.outcome (step : Step w e w') : Commits e.call.tx w.journal e.answer w'.journal ∨
    (∃ error, e.answer = .failed error) ∧ w'.journal = w.journal := by
  obtain ⟨_, handled⟩ := step
  unfold World.handle at handled
  split at handled
  · rename_i answer journal performed
    injection handled with answered reached
    subst reached
    rw [← answered]
    exact .inl (perform_eq_ok.mp performed)
  · rename_i error journal performed
    injection handled with answered reached
    subst reached
    exact .inr ⟨⟨error, answered.symm⟩, perform_eq_error performed⟩

lemma Event.quiet_of_failed {error : JournalError} (failed : e.answer = .failed error) (id : String) :
    e.starts id = false ∧ e.stops id = false := by
  constructor
  · unfold Event.starts
    split <;> simp [failed]
  · unfold Event.stops
    split <;> simp [failed]

/-- Every event moves the entries by row steps. -/
theorem Step.evolves (step : Step w e w') :
    Evolves (fun r r' => RowStep r e r') Fresh w.journal.commands w'.journal.commands := by
  rcases step.outcome with commits | ⟨⟨error, failed⟩, same⟩
  · obtain ⟨call, answer⟩ := e
    cases call <;> obtain ⟨_, done, rfl⟩ := commits_map.mp commits
    case prepare =>
      obtain ⟨_, same⟩ | ⟨_, inserts⟩ := prepare_inserts done
      · rw [same]
        exact Evolves.refl fun r _ => .idle_of r (fun _ => rfl) fun _ => rfl
      · refine Evolves.insert? ?_ inserts.commands ⟨_, _, rfl⟩
        exact fun r _ => .idle_of r (fun _ => rfl) fun _ => rfl
    case authorizeStart =>
      simp only [authorizeStart, commits_steps] at done
      obtain ⟨valid, moved⟩ := done
      exact transition_evolves moved (fun r _ => .idle_of r (fun _ => rfl) fun _ => rfl)
        fun _ updated => authorizeEntry_row valid updated
    case continueStart =>
      refine transition_evolves done ?_ fun _ updated => runEntry_row updated
      intro r other
      refine .idle ?_ fun impossible => by cases impossible
      simp [Event.starts, Ne.symm other]
    case cancelPrepared | markInterrupted =>
      refine transition_evolves done ?_ ?_
      · intro r other
        exact .idle rfl fun stopped => absurd (by simpa [Event.stops] using stopped) (Ne.symm other)
      · rintro r r' rfl updated
        first
        | exact cancelEntry_row updated
        | exact interruptEntry_row updated
    case complete =>
      simp only [complete, commits_steps] at done
      obtain ⟨_, moved⟩ := done
      exact transition_evolves moved (fun r _ => .idle_of r (fun _ => rfl) fun _ => rfl)
        fun _ updated => completeEntry_row updated
    case markReported =>
      refine transition_evolves done (fun r _ => .idle_of r (fun _ => rfl) fun _ => rfl) ?_
      rintro r r' rfl updated
      exact reportEntry_row updated
    case markResultConflicted =>
      simp only [markResultConflicted, commits_steps] at done
      obtain ⟨_, moved⟩ := done
      refine transition_evolves moved (fun r _ => .idle_of r (fun _ => rfl) fun _ => rfl) ?_
      rintro r r' rfl updated
      exact conflictEntry_row updated
    case reopen now =>
      simp only [recoverRunning, commits_steps] at done
      rw [← done.2]
      exact Evolves.update (fun r _ => .idle_of r (fun _ => rfl) fun _ => rfl)
        fun r _ started => .interrupt rfl started
  · rw [same]
    refine Evolves.refl fun r _ => .idle_of r ?_ ?_
    · exact fun id => (Event.quiet_of_failed failed id).1
    · exact fun id => (Event.quiet_of_failed failed id).2

/-! ## The entry of one command -/

def World.entry (w : World) (id : String) : Option StoredEntry := w.journal.commands.find? id

lemma World.entry_eq_some : w.entry id = some r ↔ r ∈ w.journal.commands ∧ r.commandID = id :=
  Table.find?_eq_some

lemma Step.entry (step : Step w e w') (present : w.entry id = some r) :
    ∃ r', w'.entry id = some r' ∧ RowStep r e r' := by
  obtain ⟨member, rfl⟩ := World.entry_eq_some.mp present
  obtain ⟨r', member', moved⟩ := step.evolves.forward r member
  exact ⟨r', World.entry_eq_some.mpr ⟨member', moved.kept⟩, moved⟩

end steps

/-! ## Runs that are computed -/

def World.exec (w : World) : List Call → Option (List Event × World)
  | [] => some ([], w)
  | call :: rest =>
    if call.enabled w then
      ((w.handle call).2.exec rest).map fun (events, last) => (⟨call, (w.handle call).1⟩ :: events, last)
    else none

lemma run_of_exec {w w' : World} {calls : List Call} {events : List Event}
    (done : w.exec calls = some (events, w')) : Run Step w events w' := by
  induction calls generalizing w events with
  | nil =>
    obtain ⟨rfl, rfl⟩ := Prod.ext_iff.mp (Option.some.inj done)
    exact .nil w
  | cons call rest ih =>
    unfold World.exec at done
    split at done
    · rename_i enabled
      obtain ⟨⟨events', last⟩, later, same⟩ := Option.map_eq_some_iff.mp done
      obtain ⟨rfl, rfl⟩ := Prod.ext_iff.mp same
      exact .cons ⟨enabled, rfl⟩ (ih later)
    · cases done

/-- The events of the calls on an empty journal, when each can be made. -/
def eventsOf (calls : List Call) : List Event := ((World.initial.exec calls).map Prod.fst).getD []

def reached (calls : List Call) : World := ((World.initial.exec calls).map Prod.snd).getD .initial

lemma run_reached {calls : List Call} (done : (World.initial.exec calls).isSome = true) :
    Run Step .initial (eventsOf calls) (reached calls) := by
  obtain ⟨⟨events, w⟩, executed⟩ := Option.isSome_iff_exists.mp done
  have run := run_of_exec executed
  simpa [eventsOf, reached, executed] using run

end DBPilot.Journal
