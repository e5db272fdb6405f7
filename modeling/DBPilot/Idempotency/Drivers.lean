import DBPilot.Idempotency.Consistency

/-!
# Several drivers of one row

A call knows what is in the history and what it holds; both last, whatever the other
calls do. What a call knows is its phase, and from it each statement keeps the row
consistent and leads to the next phase.
-/

namespace DBPilot.Idempotency

open Programs Threads
open Wire (Bytes)

/-- What the other calls do, as one call sees it. -/
structure Others (thread : Nat) (w w' : World) : Prop where
  history : ∃ more, w'.history = w.history ++ more ∧ ∀ entry ∈ more, entry.1 ≠ thread
  held : ∀ record, (thread, record) ∈ w'.held ↔ (thread, record) ∈ w.held

/-- What a call itself does. -/
structure Own (thread : Nat) (w w' : World) : Prop where
  history : ∃ more, w'.history = w.history ++ more ∧ ∀ entry ∈ more, entry.1 = thread
  held : ∀ other record, other ≠ thread → ((other, record) ∈ w'.held ↔ (other, record) ∈ w.held)

section relations

variable {thread : Nat} {a b c w w' : World}

lemma Others.refl (thread : Nat) (w : World) : Others thread w w :=
  ⟨⟨[], (List.append_nil _).symm, nofun⟩, fun _ => Iff.rfl⟩

lemma Others.trans (first : Others thread a b) (second : Others thread b c) : Others thread a c := by
  obtain ⟨more, same, others⟩ := first.history
  obtain ⟨more', same', others'⟩ := second.history
  refine ⟨⟨more ++ more', ?_, List.forall_mem_append.mpr ⟨others, others'⟩⟩, ?_⟩
  · rw [same', same, List.append_assoc]
  · exact fun record => (second.held record).trans (first.held record)

lemma Own.refl (thread : Nat) (w : World) : Own thread w w :=
  ⟨⟨[], (List.append_nil _).symm, nofun⟩, fun _ _ _ => Iff.rfl⟩

lemma Own.trans (first : Own thread a b) (second : Own thread b c) : Own thread a c := by
  obtain ⟨more, same, others⟩ := first.history
  obtain ⟨more', same', others'⟩ := second.history
  refine ⟨⟨more ++ more', ?_, List.forall_mem_append.mpr ⟨others, others'⟩⟩, ?_⟩
  · rw [same', same, List.append_assoc]
  · exact fun other record apart => (second.held other record apart).trans (first.held other record apart)

lemma Own.others (own : Own thread w w') {other : Nat} (apart : other ≠ thread) : Others other w w' := by
  obtain ⟨more, same, mine⟩ := own.history
  exact ⟨⟨more, same, fun entry member => by rw [mine entry member]; exact apart.symm⟩,
    fun record => own.held other record apart⟩

section

variable (w : World) (thread : Nat)

lemma own_log (event : Event) : Own thread w (w.log thread event) :=
  ⟨⟨[(thread, event)], rfl, by simp⟩, fun _ _ _ => Iff.rfl⟩

lemma own_release : Own thread w (w.release thread) := by
  refine ⟨⟨[], (List.append_nil _).symm, nofun⟩, ?_⟩
  intro other record apart
  rw [mem_release]
  exact and_iff_left apart

lemma own_hold (record : Record) : Own thread w (w.hold thread record) := by
  refine ⟨⟨[], (List.append_nil _).symm, nofun⟩, ?_⟩
  intro other held apart
  rw [mem_hold]
  constructor
  · rintro (same | ⟨old, _⟩)
    · exact absurd (congrArg Prod.fst same) apart
    · exact old
  · exact fun old => .inr ⟨old, apart⟩

lemma own_record (record : Option Record) : Own thread w { w with record } :=
  ⟨⟨[], (List.append_nil _).symm, nofun⟩, fun _ _ _ => Iff.rfl⟩

end

lemma Others.grows (others : Others thread w w') : w.history ⊆ w'.history := by
  obtain ⟨more, same, _⟩ := others.history
  rw [same]
  exact List.subset_append_left _ _

end relations

variable [Storage]

/-! ## What a statement does -/

variable {fingerprint owner : String} {response : Response} {text : Bytes}

section effects

variable {w w' v : World} {thread : Nat} {answer : Answer} {α : Type} {effect : Option (Rows α × World)}

omit [Storage] in
/-- A statement is executed or not; whoever gets a reply goes on from there. -/
lemma settle_cases {r : Option (Rows α)} (done : handle.settle thread answer (execute w effect answer) = (r, w')) :
    ∃ v, (v = w ∨ ∃ result, effect = some (result, v)) ∧ (w' = v ∨ r = none ∧ w' = v.release thread) ∧
      ∀ x, r = some (some x) → effect = some (some x, w') := by
  unfold handle.settle execute at done
  by_cases stops : answer.stops = true
  · rcases effect with _ | pair
    · simp only [stops, ↓reduceIte] at done
      cases done
      exact ⟨w, .inl rfl, .inr ⟨rfl, rfl⟩, nofun⟩
    simp only [stops, ↓reduceIte] at done
    cases done
    split
    · exact ⟨pair.2, .inr ⟨pair.1, rfl⟩, .inr ⟨rfl, rfl⟩, nofun⟩
    · exact ⟨w, .inl rfl, .inr ⟨rfl, rfl⟩, nofun⟩
  · rcases effect with _ | pair
    · simp only [stops, Bool.false_eq_true, ↓reduceIte] at done
      cases done
      exact ⟨_, .inl rfl, .inl rfl, nofun⟩
    simp only [stops, Bool.false_eq_true, ↓reduceIte] at done
    split at done
    · cases done
      split
      · exact ⟨pair.2, .inr ⟨pair.1, rfl⟩, .inl rfl, nofun⟩
      · exact ⟨w, .inl rfl, .inl rfl, nofun⟩
    · cases done
      refine ⟨pair.2, .inr ⟨pair.1, rfl⟩, .inl rfl, ?_⟩
      intro x same
      rw [← Option.some.inj same]

/-- An insert or a reuse: nothing happens, or the row is a new one of the owner. -/
inductive Places (thread : Nat) (owner : String) (w : World) : Rows (Option Jobs.Instant) → World → Prop
  | nothing : Places thread owner w (some none) w
  | row {record : Record} {time : Jobs.Instant} (own : record.owner = owner) (processing : record.state = .processing)
      (free : ∀ old, w.record = some old → old.state = .completed) :
      Places thread owner w (some (some time)) ({ w with record := some record }.log thread (.created record))

section places

variable {payload : Option Bytes} {expires now : Jobs.Instant} {result : Rows (Option Jobs.Instant)}

lemma insertClaim_places (done : insertClaim w thread fingerprint owner payload expires now = some (result, v)) :
    Places thread owner w result v := by
  unfold insertClaim at done
  split at done
  · cases done
  · cases done
    exact .nothing
  · rename_i record absent made
    cases done
    obtain ⟨_, own, processing⟩ := newRecord_eq_some made
    exact .row own processing fun old there => by rw [absent] at there; cases there

lemma reclaimExpiredCompleted_places
    (done : reclaimExpiredCompleted w thread fingerprint owner payload expires now = some (result, v)) :
    Places thread owner w result v := by
  unfold reclaimExpiredCompleted at done
  split at done
  · cases done
    exact .nothing
  rename_i old there
  split at done
  · rename_i expired
    split at done
    · cases done
    · rename_i record made
      cases done
      obtain ⟨_, own, processing⟩ := newRecord_eq_some made
      refine .row own processing fun other here => ?_
      rw [← Option.some.inj (there.symm.trans here)]
      exact expired.1
  · cases done
    exact .nothing

end places

def Command.repairs : Command → Bool
  | .repairIncompleteSideEffect .. => true
  | _ => false

/-- What a statement may do. -/
inductive Effect (thread : Nat) (c : Command) (w : World) : World → Prop
  | idle : Effect thread c w w
  | logged {event : Event} (other : ∀ call, event ≠ .started call) : Effect thread c w (w.log thread event)
  | placed {record : Record} (processing : record.state = .processing)
      (free : ∀ old, w.record = some old → old.state = .completed) :
      Effect thread c w ({ w with record := some record }.log thread (.created record))
  | held {record : Record} (there : w.record = some record) : Effect thread c w (w.hold thread record)
  | wrote {old record : Record} (there : w.record = some old) (processing : c.repairs = false → old.state = .processing)
      (fingerprint : record.fingerprint = old.fingerprint) (owner : record.owner = old.owner) :
      Effect thread c w ({ w with record := some record }.hold thread record)
  | marked {record : Record} (there : w.record = some record) (committed : record.state ≠ .processing) :
      Effect thread c w { w with record := some { record with state := .audited } }
  | completed {record : Record} (there : w.record = some record) (committed : record.state ≠ .processing) :
      Effect thread c w ({ w with record := some { record with state := .completed } }.log thread
        (.completed { record with state := .completed }))
  | deleted {record : Record} (there : w.record = some record) (processing : record.state = .processing) :
      Effect thread c w { w with record := none }
  | released {v : World} (effect : Effect thread c w v) : Effect thread c w (v.release thread)

section

variable {c : Command}

omit [Storage] in
lemma Places.does {result : Rows (Option Jobs.Instant)} (places : Places thread owner w result v) :
    Effect thread c w v := by
  cases places with
  | nothing => exact .idle
  | row own processing free => exact .placed processing free

lemma writeResponse_effect {states : List State} {result : Rows Bool}
    (done : writeResponse w thread states fingerprint owner response text = some (result, v))
    (processing : c.repairs = false → states = [.processing]) : Effect thread c w v := by
  unfold writeResponse at done
  split at done
  · cases done
    exact .idle
  rename_i old found
  obtain ⟨record, written, same⟩ := Option.map_eq_some_iff.mp done
  cases same
  obtain ⟨there, _, _, state⟩ := row_eq_some found
  obtain ⟨stored, text', _, _, rfl⟩ := withResponse_eq_some written
  exact .wrote there (fun plain => List.mem_singleton.mp (processing plain ▸ state)) rfl rfl

omit [Storage] in
lemma settle_effect {r : Option (Rows α)} (done : handle.settle thread answer (execute w effect answer) = (r, w'))
    (good : ∀ result v, effect = some (result, v) → Effect thread c w v) : Effect thread c w w' := by
  obtain ⟨v, kind, last, _⟩ := settle_cases done
  have first : Effect thread c w v := by
    rcases kind with rfl | ⟨result, same⟩
    · exact .idle
    · exact good result v same
  rcases last with rfl | ⟨_, rfl⟩
  · exact first
  · exact first.released

theorem handle_effect {r : Option (Reply c)} (done : handle thread w c answer = (r, w')) : Effect thread c w w' := by
  -- A state other than the first, from the list that a statement names.
  have later : ∀ {record : Record} {state : State}, record.state ∈ [state] → state ≠ .processing →
      record.state ≠ .processing := fun member apart => by rwa [List.mem_singleton.mp member]
  cases c with
  | currentTime | recover =>
    simp only [handle] at done
    split at done <;> cases done
    · exact .released .idle
    · exact .idle
  | newOwner | reconcile =>
    simp only [handle] at done
    split at done
    · cases done
      exact .released .idle
    · split at done <;> cases done
      · exact .idle
      · exact .logged nofun
  | insertClaim => exact settle_effect done fun _ _ same => (insertClaim_places same).does
  | reclaimExpiredCompleted => exact settle_effect done fun _ _ same => (reclaimExpiredCompleted_places same).does
  | commitSideEffect => exact settle_effect done fun _ _ same => writeResponse_effect same fun _ => rfl
  | repairIncompleteSideEffect => exact settle_effect done fun _ _ same => writeResponse_effect same nofun
  | selectRecord =>
    refine settle_effect done fun _ _ same => ?_
    cases same
    unfold selectRecord
    split
    · exact .idle
    split
    · exact .idle
    · exact .held ‹_›
  | markAudited | completeClaim | abortClaim =>
    refine settle_effect done fun _ _ same => ?_
    simp only [markAudited, completeClaim, abortClaim] at same
    split at same <;> cases same
    · exact .idle
    · obtain ⟨there, _, _, state⟩ := row_eq_some ‹_›
      first
      | exact .marked there (later state nofun)
      | exact .completed there (later state nofun)
      | exact .deleted there (List.mem_singleton.mp state)

end

omit [Storage] in
/-- No statement touches what other calls have logged or hold. -/
lemma Effect.own {c : Command} (effect : Effect thread c w w') : Own thread w w' := by
  induction effect with
  | idle => exact .refl thread w
  | logged => exact own_log w thread _
  | placed | completed => exact (own_record w thread _).trans (own_log _ thread _)
  | held => exact own_hold w thread _
  | wrote => exact (own_record w thread _).trans (own_hold _ thread _)
  | marked | deleted => exact own_record w thread _
  | released _ ih => exact ih.trans (own_release _ thread)

end effects

/-! ## What a call knows -/

def contract : Contract World where
  inv := Consistent
  rely := Others
  refl := Others.refl
  trans _ := Others.trans

/-- A knowledge that the other calls cannot undo. -/
def Stable (thread : Nat) (known : World → Prop) : Prop :=
  ∀ w w', known w → Others thread w w' → Consistent w' → known w'

section known

variable {thread : Nat} {known known' : World → Prop}

lemma stable_of_history (mono : ∀ w w', known w → w.history ⊆ w'.history → known w') : Stable thread known :=
  fun w w' before others _ => mono w w' before others.grows

/-- The owner token is the call's own, and no row has had it. -/
structure Mine (thread : Nat) (owner : String) (w : World) : Prop where
  issued : (thread, Event.issued owner) ∈ w.history
  unused : ∀ other record, (other, Event.created record) ∈ w.history → record.owner ≠ owner

lemma stable_mine (owner : String) : Stable thread (Mine thread owner) := by
  intro w w' mine others consistent
  have issued := others.grows mine.issued
  refine ⟨issued, ?_⟩
  intro other record created same
  obtain ⟨more, history, apart⟩ := others.history
  rw [history] at created
  rcases List.mem_append.mp created with old | new
  · exact mine.unused other record old same
  -- A new row of this owner would be the call's own, but the step was another's.
  have created' : (other, Event.created record) ∈ w'.history := by
    rw [history]
    exact List.mem_append_right _ new
  have issued' := consistent.createdIssued created'
  rw [same] at issued'
  exact apart _ new (consistent.issuedOnce issued' issued)

/-- What the call holds of the row is this response and this payload. -/
def Holds (thread : Nat) (fingerprint owner : String) (response : Response) (text : Bytes) (w : World) : Prop :=
  ∃ record, (thread, record) ∈ w.held ∧ record.fingerprint = fingerprint ∧ record.owner = owner ∧
    response.stored = some record.response ∧ Storage.jsonb text = record.reconciliation

lemma stable_holds (fingerprint owner : String) (response : Response) (text : Bytes) :
    Stable thread (Holds thread fingerprint owner response text) := by
  rintro w w' ⟨record, held, same⟩ others _
  exact ⟨record, (others.held record).mpr held, same⟩

/-- The row that the call holds was completed with this response. -/
def Done (thread : Nat) (fingerprint : String) (response : Response) (w : World) : Prop :=
  ∃ record, (thread, record) ∈ w.held ∧ Final w fingerprint response record

def Logged (thread : Nat) (event : Event) (w : World) : Prop := (thread, event) ∈ w.history

end known

/-! ## Statements under interference -/

/-- Which replies and which states the environment may produce. -/
abbrev Fits := Nat → World → (c : Command) → Option (Reply c) → World → Bool

/-- Owner tokens are distinct. -/
def Fresh (fits : Fits) : Prop :=
  ∀ {thread w owner w'}, fits thread w .newOwner (some (some owner)) w' = true →
    ∀ other, (other, Event.issued owner) ∉ w.history

/-- A repair leaves every other running call with the response that it holds. -/
def Exclusive (fits : Fits) : Prop :=
  ∀ {thread w fingerprint owner response text r w'},
    fits thread w (.repairIncompleteSideEffect fingerprint owner response text) r w' = true →
    ∀ other held, (other, held) ∈ w.held → other ≠ thread → held.owner = owner → response.stored = some held.response


/-! ## What a call may do -/

section phases

variable {thread : Nat} {w w' : World} {record : Record}

/-- The row of this owner was created by the call. -/
def Founded (thread : Nat) (owner : String) (w : World) : Prop :=
  ∃ record, (thread, Event.created record) ∈ w.history ∧ record.owner = owner

/-- What reading the row establishes. -/
structure Seen (thread : Nat) (record : Record) (w : World) : Prop where
  held : record.state ≠ .processing → (thread, record) ∈ w.held ∧ Settled record
  logged : record.state = .completed → ∃ other, (other, Event.completed record) ∈ w.history

lemma stable_seen (record : Record) : Stable thread (Seen thread record) := by
  intro w w' seen others _
  refine ⟨?_, ?_⟩
  · intro committed
    exact ⟨(others.held record).mpr (seen.held committed).1, (seen.held committed).2⟩
  · intro completed
    obtain ⟨other, member⟩ := seen.logged completed
    exact ⟨other, others.grows member⟩

/-- What a running call knows of the row. -/
inductive Phase where
  | nothing
  | mine (owner : String)
  | founded (owner : String)
  | seen (record : Record)
  | holds (fingerprint owner : String) (response : Response) (text : Bytes)
  | reconciled (fingerprint owner : String) (response : Response) (text : Bytes)
  | done (fingerprint : String) (response : Response)

/-- The condition of a phase. -/
def Phase.Holds (thread : Nat) : Phase → World → Prop
  | .nothing, _ => True
  | .mine owner, w => Mine thread owner w
  | .founded owner, w => Founded thread owner w
  | .seen record, w => Seen thread record w
  | .holds fingerprint owner response text, w => Idempotency.Holds thread fingerprint owner response text w
  | .reconciled fingerprint owner response text, w =>
    Idempotency.Holds thread fingerprint owner response text w ∧ Logged thread (.reconciled response text) w
  | .done fingerprint response, w => Done thread fingerprint response w

lemma Phase.stable (phase : Phase) : Stable thread (phase.Holds thread) := by
  cases phase with
  | nothing => exact fun _ _ h _ _ => h
  | mine owner => exact stable_mine owner
  | founded owner =>
    apply stable_of_history
    rintro w w' ⟨record, created, same⟩ grows
    exact ⟨record, grows created, same⟩
  | seen record => exact stable_seen record
  | holds => exact stable_holds _ _ _ _
  | reconciled =>
    rintro w w' ⟨held, logged⟩ others consistent
    exact ⟨stable_holds _ _ _ _ w w' held others consistent, others.grows logged⟩
  | done =>
    rintro w w' ⟨record, held, final⟩ others _
    exact ⟨record, (others.held record).mpr held, final.mono others.grows⟩

/-- The response that the call holds, with the rest of its row. -/
def Phase.held : Phase → Option (String × String × Response × Bytes)
  | .holds fingerprint owner response text => some (fingerprint, owner, response, text)
  | .seen record =>
    if record.state = .processing then none
    else some (record.fingerprint, record.owner, record.response, record.reconciliation.getD [])
  | _ => none

def Permits (may : Prop) (phase : Phase) : Command → Prop
  | .insertClaim _ owner _ _ _ | .reclaimExpiredCompleted _ owner _ _ _ => phase = .mine owner
  | .repairIncompleteSideEffect fingerprint owner _ text =>
    may ∧ ∃ previous, phase.held = some (fingerprint, owner, previous, text)
  | .reconcile response text => ∃ fingerprint owner, phase.held = some (fingerprint, owner, response, text)
  | .markAudited fingerprint owner => ∃ response text, phase = .reconciled fingerprint owner response text
  | .completeClaim fingerprint owner => ∃ response text, phase.held = some (fingerprint, owner, response, text)
  | _ => True

def Phase.after (phase : Phase) : (c : Command) → Reply c → Phase
  | .currentTime, _ | .recover _, _ => phase
  | .newOwner, some owner => .mine owner
  | .insertClaim _ owner _ _ _, some found | .reclaimExpiredCompleted _ owner _ _ _, some found =>
    if found.isSome then .founded owner else phase
  | .selectRecord, some (some record) => .seen record
  | .commitSideEffect fingerprint owner response text, some true
  | .repairIncompleteSideEffect fingerprint owner response text, some true => .holds fingerprint owner response text
  | .reconcile response text, .ok _ => match phase.held with
    | some (fingerprint, owner, _, _) => .reconciled fingerprint owner response text
    | none => .nothing
  | .markAudited _ _, some _ => match phase with
    | .reconciled fingerprint owner response text => .holds fingerprint owner response text
    | _ => .nothing
  | .completeClaim _ _, some true => match phase.held with
    | some (fingerprint, _, response, _) => .done fingerprint response
    | none => .nothing
  | _, _ => .nothing

/-- The calls of the service; only some of them may repair. -/
@[simps] def callProtocol (may : Prop) : Protocol Command Reply Phase where
  permits := Permits may
  replies _ _ _ := True
  after := Phase.after

/-! ## Statements under interference -/

section steps

variable {α : Type} {effect : Option (Rows α × World)} {answer : Answer} {r : Option (Rows α)} {phase : Phase}
  {next : Rows α → Phase} {text : Bytes}

lemma Phase.Holds.held {fingerprint owner : String} {response : Response}
    (here : phase.Holds thread w) (held : phase.held = some (fingerprint, owner, response, text)) :
    Idempotency.Holds thread fingerprint owner response text w := by
  cases phase with
  | holds =>
    cases held
    exact here
  | seen =>
    obtain ⟨committed, same⟩ := Option.ite_none_left_eq_some.mp held
    cases same
    obtain ⟨held, settled⟩ := here.held committed
    obtain ⟨stored, there, again⟩ := settled.reconciliation
    refine ⟨_, held, rfl, rfl, settled.response, ?_⟩
    rw [there]
    exact again
  | _ => cases held

/-- From what a statement does to what its command does. -/
lemma settled_step (done : handle.settle thread answer (execute w effect answer) = (r, w')) (consistent : Consistent w)
    (nothing : next none = .nothing)
    (good : ∀ result v, effect = some (result, v) → Consistent v ∧ ∀ x, result = some x → (next (some x)).Holds thread v) :
    Consistent w' ∧ ∀ reply, r = some reply → (next reply).Holds thread w' := by
  obtain ⟨v, kind, last, replies⟩ := settle_cases done
  have first : Consistent v := by
    rcases kind with rfl | ⟨result, same⟩
    · exact consistent
    · exact (good result v same).1
  refine ⟨?_, ?_⟩
  · rcases last with rfl | ⟨_, rfl⟩
    · exact first
    · exact first.release thread
  · rintro (_ | x) rfl
    · rw [nothing]
      trivial
    · exact (good (some x) w' (replies x rfl)).2 x rfl

lemma Places.placed {now v : World} {owner : String} {result : Rows (Option Jobs.Instant)}
    (places : Places thread owner now result v) (consistent : Consistent now) (mine : Mine thread owner now) :
    Consistent v ∧ ∀ found, result = some found →
      (if found.isSome then Phase.founded owner else .mine owner).Holds thread v := by
  cases places with
  | nothing =>
    refine ⟨consistent, ?_⟩
    rintro _ ⟨⟩
    exact mine
  | row own processing =>
    subst own
    refine ⟨consistent.create mine.issued mine.unused processing, ?_⟩
    rintro _ ⟨⟩
    exact ⟨_, mem_log.mpr (.inr rfl), rfl⟩

lemma selectRecord_step (consistent : Consistent w) : Consistent (selectRecord w thread) ∧
    ∀ record, w.record = some record → Seen thread record (selectRecord w thread) := by
  unfold selectRecord
  cases there : w.record with
  | none => exact ⟨consistent, nofun⟩
  | some record =>
    dsimp only
    split
    · rename_i processing
      refine ⟨consistent, ?_⟩
      rintro _ ⟨⟩
      exact ⟨fun committed => absurd processing committed, fun completed => by rw [processing] at completed; cases completed⟩
    · rename_i committed
      refine ⟨(consistent.release thread).take there committed thread, ?_⟩
      rintro _ ⟨⟩
      exact ⟨fun _ => ⟨mem_hold.mpr (.inl rfl), consistent.settled record there committed⟩,
        consistent.completedLogged record there⟩

/-- The two statements that write a response. -/
lemma writeResponse_step {states : List State} {result : Rows Bool} {now v : World}
    (consistent : Consistent now)
    (others : ∀ record, now.record = some record → record.owner = owner → record.state ∈ states →
      ∀ record', record.withResponse response text = some record' →
      ∀ other held, (other, held) ∈ now.held → other ≠ thread → held.owner = record.owner →
        record'.response = held.response ∧ record'.reconciliation = held.reconciliation)
    (done : writeResponse now thread states fingerprint owner response text = some (result, v)) :
    Consistent v ∧ (result = some true → Holds thread fingerprint owner response text v) := by
  unfold writeResponse at done
  split at done
  · cases done
    exact ⟨consistent, nofun⟩
  rename_i record found
  obtain ⟨there, sameFingerprint, sameOwner, state⟩ := row_eq_some found
  obtain ⟨record', written, same⟩ := Option.map_eq_some_iff.mp done
  cases same
  have others' := others record there sameOwner state record' written
  obtain ⟨stored, text', first, second, rfl⟩ := withResponse_eq_some written
  refine ⟨consistent.write there rfl rfl rfl ?_ others', fun _ => ?_⟩
  · exact ⟨stored_idem first, text', rfl, Storage.jsonb_idem second⟩
  · exact ⟨_, mem_hold.mpr (.inl rfl), sameFingerprint, sameOwner, first, second⟩


variable {v : World} {result : Rows Bool}

lemma markAudited_step (consistent : Consistent w) (holds : Holds thread fingerprint owner response text w)
    (logged : Logged thread (.reconciled response text) w) (done : markAudited w fingerprint owner = (result, v)) :
    Consistent v ∧ Holds thread fingerprint owner response text v := by
  unfold markAudited at done
  split at done <;> cases done
  · exact ⟨consistent, holds⟩
  rename_i record found
  obtain ⟨there, _, recordOwner, _⟩ := row_eq_some found
  refine ⟨?_, holds⟩
  obtain ⟨held, member, _, sameOwner, sameResponse, sameText⟩ := holds
  have current := consistent.heldCurrent member there (recordOwner.trans sameOwner.symm)
  refine consistent.mark there current.committed nofun ?_ nofun
  exact ⟨thread, response, text, logged, sameResponse.trans (congrArg some current.response.symm),
    sameText.trans current.reconciliation.symm⟩

lemma completeClaim_step (consistent : Consistent w) (holds : Holds thread fingerprint owner response text w)
    (done : completeClaim w thread fingerprint owner = (result, v)) :
    Consistent v ∧ (result = some true → Done thread fingerprint response v) := by
  obtain ⟨held, member, sameFingerprint, sameOwner, sameResponse, _⟩ := holds
  unfold completeClaim at done
  split at done <;> cases done
  · exact ⟨consistent, nofun⟩
  rename_i record found
  obtain ⟨there, recordFingerprint, recordOwner, state⟩ := row_eq_some found
  have current := consistent.heldCurrent member there (recordOwner.trans sameOwner.symm)
  have reconciled := consistent.reconciled record there (.inl (List.mem_singleton.mp state))
  refine ⟨consistent.complete there current.committed reconciled, fun _ => ⟨held, member, ?_⟩⟩
  exact ⟨sameFingerprint, sameResponse, thread, { record with state := .completed }, mem_log.mpr (.inr rfl),
    recordOwner.trans sameOwner.symm, current.fingerprint, current.response⟩

end steps

/-- A permitted command keeps the row consistent, and leads to the next phase. -/
theorem Phase.Holds.step {fits : Fits} {may : Prop} {phase : Phase} {c : Command} {answer : Answer}
    {r : Option (Reply c)} (fresh : Fresh fits) (exclusive : may → Exclusive fits) (permitted : Permits may phase c)
    (here : phase.Holds thread w) (consistent : Consistent w) (handled : handle thread w c answer = (r, w'))
    (fit : fits thread w c r w' = true) :
    Consistent w' ∧ ∀ reply, r = some reply → (phase.after c reply).Holds thread w' := by
  cases c with
  | currentTime | recover =>
    simp only [handle] at handled
    split at handled <;> cases handled
    · exact ⟨consistent.release thread, nofun⟩
    · exact ⟨consistent, fun _ _ => here⟩
  | newOwner =>
    simp only [handle] at handled
    split at handled
    · cases handled
      exact ⟨consistent.release thread, nofun⟩
    split at handled <;> cases handled
    · exact ⟨consistent, by rintro _ ⟨⟩; trivial⟩
    have unissued := fresh fit
    refine ⟨consistent.log ?_ nofun nofun nofun, ?_⟩
    · rintro other ⟨⟩
      exact unissued
    rintro _ ⟨⟩
    refine ⟨mem_log.mpr (.inr rfl), ?_⟩
    intro other record created same
    have issued := consistent.createdIssued ((mem_log.mp created).resolve_right nofun)
    rw [same] at issued
    exact unissued other issued
  | insertClaim =>
    cases permitted
    exact settled_step handled consistent rfl fun _ _ done => (insertClaim_places done).placed consistent here
  | reclaimExpiredCompleted =>
    cases permitted
    exact settled_step handled consistent rfl fun _ _ done => (reclaimExpiredCompleted_places done).placed consistent here
  | selectRecord =>
    refine settled_step handled consistent rfl fun result v done => ?_
    cases done
    refine ⟨(selectRecord_step consistent).1, ?_⟩
    rintro (_ | record) same
    · trivial
    · exact (selectRecord_step consistent).2 record (Option.some.inj same)
  | commitSideEffect =>
    refine settled_step handled consistent rfl fun result v done => ?_
    refine (writeResponse_step consistent ?_ done).imp_right ?_
    · intro record there _ state record' _ other held member _ same
      -- While the row is processing no call holds it.
      exact absurd (List.mem_singleton.mp state) (consistent.heldCurrent member there same.symm).committed
    · rintro holds (_ | _) same
      · trivial
      · exact holds same
  | repairIncompleteSideEffect =>
    obtain ⟨may, previous, held⟩ := permitted
    obtain ⟨mine, member, _, sameOwner, _, payload⟩ := here.held held
    refine settled_step handled consistent rfl fun result v done => ?_
    refine (writeResponse_step consistent ?_ done).imp_right ?_
    · intro record there recordOwner _ record' written other held otherMember apart same
      obtain ⟨stored, text', first, second, rfl⟩ := withResponse_eq_some written
      have response' := exclusive may fit other held otherMember apart (same.trans recordOwner)
      rw [first] at response'
      have current := consistent.heldCurrent member there (recordOwner.trans sameOwner.symm)
      have current' := consistent.heldCurrent otherMember there same.symm
      refine ⟨Option.some.inj response', ?_⟩
      rw [← second, payload, ← current.reconciliation, current'.reconciliation]
    · rintro holds (_ | _) same
      · trivial
      · exact holds same
  | markAudited =>
    obtain ⟨response, text, rfl⟩ := permitted
    refine settled_step handled consistent rfl fun _ _ done => ?_
    obtain ⟨consistent', holds⟩ := markAudited_step consistent here.1 here.2 (Option.some.inj done)
    exact ⟨consistent', fun _ _ => holds⟩
  | completeClaim =>
    obtain ⟨response, text, held⟩ := permitted
    refine settled_step handled consistent rfl fun _ _ done => ?_
    refine (completeClaim_step consistent (here.held held) (Option.some.inj done)).imp_right ?_
    rintro done (_ | _) same
    · trivial
    · simp only [Phase.after, held]
      exact done same
  | abortClaim =>
    refine settled_step handled consistent rfl fun _ _ done => ⟨?_, fun _ _ => trivial⟩
    replace done := Option.some.inj done
    unfold abortClaim at done
    split at done <;> cases done
    · exact consistent
    · exact consistent.delete
  | reconcile =>
    obtain ⟨fingerprint, owner, held⟩ := permitted
    simp only [handle] at handled
    split at handled
    · cases handled
      exact ⟨consistent.release thread, nofun⟩
    split at handled <;> cases handled
    · exact ⟨consistent, by rintro _ ⟨⟩; trivial⟩
    · refine ⟨consistent.log nofun nofun nofun nofun, ?_⟩
      rintro _ ⟨⟩
      simp only [Phase.after, held]
      exact ⟨here.held held, mem_log.mpr (.inr rfl)⟩

end phases

end DBPilot.Idempotency
