import DBPilot.Idempotency.Calls

/-!
# Calls that run side by side

Any number of calls on one key, each statement one step. The row changes only from
one phase to the next, and what the calls return is what was stored.
-/

namespace DBPilot.Idempotency

open Programs Threads Runs
open Wire (Bytes)

/-! ## The row from step to step -/

/-- The two rows of one step. -/
inductive Advances : Option Record → Option Record → Prop
  | same (row : Option Record) : Advances row row
  | created (record : Record) (processing : record.state = .processing) : Advances none (some record)
  | reused (old record : Record) (completed : old.state = .completed) (processing : record.state = .processing) :
      Advances (some old) (some record)
  /-- By the owner's `Abort`. -/
  | deleted (old : Record) (processing : old.state = .processing) : Advances (some old) none
  | committed (old record : Record) (processing : old.state = .processing)
      (fingerprint : record.fingerprint = old.fingerprint) (owner : record.owner = old.owner) :
      Advances (some old) (some record)
  | marked (old : Record) (state : State) (committed : old.state ≠ .processing) (later : state ≠ .processing) :
      Advances (some old) (some { old with state })

/-- What a step does to the row and to what the calls have seen of it. It starts no call
that repairs. -/
structure Evolves (w w' : World) : Prop where
  row : Advances w.record w'.record
  held : ∀ entry ∈ w'.held, entry ∈ w.held ∨ w'.record = some entry.2
  started : ∀ thread call, (thread, Event.started call) ∈ w'.history →
    (thread, Event.started call) ∈ w.history ∨ call.unreturned = false

section evolution

variable {thread : Nat} {w w' v : World}

lemma Evolves.refl (w : World) : Evolves w w := ⟨.same _, fun _ => .inl, fun _ _ => .inl⟩

lemma Evolves.release (evolves : Evolves w w') (thread : Nat) : Evolves w (w'.release thread) :=
  ⟨evolves.row, fun entry member => evolves.held entry (mem_release.mp member).1, evolves.started⟩

lemma Evolves.log (evolves : Evolves w w') (thread : Nat) {event : Event}
    (started : ∀ call, event = .started call → call.unreturned = false) : Evolves w (w'.log thread event) := by
  refine ⟨evolves.row, evolves.held, ?_⟩
  intro other call member
  rcases mem_log.mp member with old | new
  · exact evolves.started other call old
  · exact .inr (started call (Prod.mk.inj new).2.symm)

lemma evolves_row {row : Option Record} (advances : Advances w.record row) : Evolves w { w with record := row } :=
  ⟨advances, fun _ => .inl, fun _ _ => .inl⟩

lemma evolves_hold {record : Record} (there : w'.record = some record) (evolves : Evolves w w') (thread : Nat) :
    Evolves w (w'.hold thread record) := by
  refine ⟨evolves.row, ?_, evolves.started⟩
  intro entry member
  rcases mem_hold.mp member with rfl | ⟨old, _⟩
  · exact .inr there
  · exact evolves.held entry old

/-- Every statement but the repair moves the row from one phase to the next. -/
lemma Effect.evolves {c : Command} (effect : Effect thread c w w') (plain : c.repairs = false) : Evolves w w' := by
  induction effect with
  | idle => exact .refl w
  | logged other => exact (Evolves.refl w).log thread fun call same => absurd same (other call)
  | @placed record processing free =>
    refine (evolves_row ?_).log thread nofun
    cases there : w.record with
    | none => exact .created record processing
    | some old => exact .reused old record (free old there) processing
  | held there => exact evolves_hold there (.refl w) thread
  | @wrote old record there processing fingerprint owner =>
    refine evolves_hold rfl (evolves_row ?_) thread
    rw [there]
    exact .committed old record (processing plain) fingerprint owner
  | marked there committed =>
    apply evolves_row
    rw [there]
    exact .marked _ .audited committed nofun
  | completed there committed =>
    refine (evolves_row ?_).log thread nofun
    rw [there]
    exact .marked _ .completed committed nofun
  | deleted there processing =>
    apply evolves_row
    rw [there]
    exact .deleted _ processing
  | released _ ih => exact ih.release thread

end evolution

/-! ## Runs -/

section runs

variable [Storage] {κ : Type}

/-- Calls of some kind, in any number. -/
def system (calls : κ → Call) (fits : Fits) (service : Service) : System World Command Reply κ Outcome where
  program k := (calls k).program service
  moves thread := Handled (handle thread) (fits thread)
  starts thread k w := w.log thread (.started (calls k))
  returns thread outcome w := (w.release thread).log thread (.returned outcome (w.seenBy thread))

def idle : Pool World Command Reply Outcome := ⟨.fresh, [], 0⟩

variable {fits : Fits} {thread : Nat} {w : World}

lemma answered_phase {call : Call} {phase : Phase} {response : Response} (started : Logged thread (.started call) w)
    (here : phase.Holds thread w) (answers : phase.Answers call.fingerprint response) :
    Answered w thread (w.seenBy thread) response := by
  have done : Done thread call.fingerprint response w := by
    cases phase with
    | done =>
      obtain ⟨rfl, rfl⟩ := answers
      exact here
    | seen =>
      obtain ⟨completed, same, rfl⟩ := answers
      rw [← same]
      obtain ⟨held, settled⟩ := Seen.held here (by rw [completed]; nofun)
      obtain ⟨other, member⟩ := Seen.logged here completed
      exact ⟨_, held, rfl, settled.response, other, _, member, rfl, rfl, rfl⟩
    | _ => cases answers
  obtain ⟨record, held, final⟩ := done
  have seen : (thread, record) ∈ w.held.filter (·.1 = thread) := List.mem_filter.mpr ⟨held, decide_eq_true rfl⟩
  exact ⟨call, started, record, List.mem_map_of_mem seen, final⟩

variable {outcome : Outcome}

lemma returned_phase {call : Call} {phase : Phase} (started : Logged thread (.started call) w)
    (here : phase.Holds thread w) (known : outcome.Known call phase) :
    Returned w thread (w.seenBy thread) outcome := by
  match outcome with
  | .claim (.error _) | .response (.error _) | .done _ => trivial
  | .response (.ok response) =>
    obtain rfl := known response rfl
    exact answered_phase started here ⟨rfl, rfl⟩
  | .claim (.ok claim) =>
    rcases known claim rfl with ⟨rfl, empty⟩ | settles
    · refine ⟨fun _ => here, ?_, ?_⟩ <;>
        · intro response there
          rw [empty] at there
          cases there
    · refine ⟨?_, ?_, ?_⟩
      · intro claimed
        rw [settles.unclaimed] at claimed
        cases claimed
      · exact fun response there completed => answered_phase started here (settles.answered response there completed)
      · exact fun response there running => ⟨call, started, settles.other response there running⟩

/-- A call's outcome is true, whatever the other calls do. -/
lemma safe_program (fresh : Fresh fits) (service : Service) (call : Call)
    (exclusive : call.unreturned = true → Exclusive fits) (started : Logged thread (.started call) w) :
    contract.Safe (fun thread => Handled (handle thread) (fits thread)) thread (call.program service)
      (fun outcome w => Returned w thread (w.seenBy thread) outcome) w := by
  have safe : contract.Safe (fun thread => Handled (handle thread) (fits thread)) thread (call.program service)
      (fun outcome w => ∃ phase, Outcome.Known call outcome phase ∧ phase.Holds thread w) w := by
    refine Contract.safe_of_follows (fun {phase} => phase.stable _ _) ?_ (program_follows service call) trivial
    rintro phase c now r w' permitted here consistent ⟨⟨answer, handled⟩, fit⟩
    obtain ⟨consistent', next⟩ := here.step fresh exclusive permitted consistent handled fit
    refine ⟨⟨consistent', fun other apart => (handle_effect handled).own.others apart⟩, ?_⟩
    exact fun reply same => ⟨trivial, next reply same⟩
  refine (safe.frame started fun other w w' (others : Others other w w') logged => others.grows logged).weaken ?_
  rintro outcome now _ ⟨⟨phase, known, here⟩, started⟩
  exact returned_phase started here known

omit [Storage] in
lemma own_permits [Storage] {w' : World} (consistent : Consistent w') (own : Own thread w w') :
    contract.Permits thread w w' :=
  ⟨consistent, fun _ apart => own.others apart⟩

theorem verified (calls : κ → Call) (fresh : Fresh fits) (service : Service)
    (exclusive : ∀ k, (calls k).unreturned = true → Exclusive fits) :
    Verified contract (system calls fits service) where
  starts n k w consistent := own_permits (consistent.log nofun nofun nofun nofun) (own_log w n _)
  safe n k w _ := by
    refine Contract.Safe.weaken (safe_program fresh service (calls k) (exclusive k) (mem_log.mpr (.inr rfl))) ?_
    intro outcome now consistent returned
    refine own_permits ((consistent.release n).log nofun nofun nofun ?_) ((own_release now n).trans (own_log _ n _))
    rintro _ _ ⟨⟩
    exact returned.mono (List.Subset.refl _)

variable {pool : Pool World Command Reply Outcome} {service : Service}

theorem consistent_run {calls : κ → Call} (fresh : Fresh fits)
    (exclusive : ∀ k, (calls k).unreturned = true → Exclusive fits) {labels : List (Label κ)}
    (run : Run (Step (system calls fits service)) idle labels pool) :
    Consistent pool.shared :=
  (run_sound (verified calls fresh service exclusive) run (sound_idle consistent_fresh)).inv

/-- The response that a call was given. -/
def Outcome.obtained : Outcome → Option Response
  | .claim (.ok got) => got.response
  | .response (.ok got) => some got
  | _ => none

end runs

/-! ## A recovered write

The first caller never goes on, the second recovers the write with a response whose
header name is not canonical, and the third reads the completed row. -/

def Event.issues : Event → Option String
  | .issued owner => some owner
  | _ => none

/-- An environment whose owner tokens are distinct. -/
def freshOwners : Fits := fun _ w c r _ =>
  match c, r with
  | .newOwner, some (some owner) => w.history.all fun entry => entry.2.issues ≠ some owner
  | _, _ => true

lemma fresh_freshOwners : Fresh freshOwners := by
  intro thread w owner w' fit other member
  have apart := List.all_eq_true.mp fit (other, .issued owner) member
  exact of_decide_eq_true apart rfl

/-- For objects without white space and headers with no other name than this. -/
@[reducible] def sampleStorage : Storage where
  valid text := !text.isEmpty
  jsonb := some
  jsonb_idem same := by
    cases same
    rfl
  header header := some (header.map fun (name, values) => (if name = "ETag" then "Etag" else name, values))
  header_idem := by
    rintro header _ ⟨⟩
    rw [List.map_map]
    refine congrArg some (List.map_congr_left fun entry _ => ?_)
    by_cases same : entry.1 = "ETag"
    · simp [same]
    · simp [same]

def sampleFingerprint : String := "sha256:0000000000000000000000000000000000000000000000000000000000000000"

def firstOwner : String := "owner-0000000000000000000000000000000000000000000000000000000000000000"

def secondOwner : String := "owner-1111111111111111111111111111111111111111111111111111111111111111"

def thirdOwner : String := "owner-2222222222222222222222222222222222222222222222222222222222222222"

/-- An empty object. -/
def samplePayload : Bytes := [123, 125]

/-- The clock stands still, statements are executed and the callback succeeds. -/
def smooth : Answer := { time := some 0, reconciled := .ok () }

section sample

variable {κ : Type}

def smoothly (thread n : Nat) : List (Action κ Answer) := List.replicate n (.turn thread smooth)

def begins (thread : Nat) (call : κ) (owner : String) : List (Action κ Answer) :=
  [.start call, .turn thread smooth, .turn thread { smooth with owner := some owner }]

def recovers (thread : Nat) (response : Response) : List (Action κ Answer) :=
  [.turn thread { smooth with recovered := .ok response }]

end sample

/-- A claim that was returned as completed with this response. -/
def completedWith (response : Response) (w : World) : Bool :=
  w.history.any fun
    | (_, .returned (.claim (.ok claim)) _) => claim.state = .completed && claim.response = some response
    | _ => false

/-- A state that a system reaches by these actions. -/
lemma exists_run [Storage] {κ : Type} {calls : κ → Call} {fits : Fits} {service : Service}
    {actions : List (Action κ Answer)} {good : World → Bool}
    (played : (playAll (system calls fits service) handle fits idle actions).any (fun pool => good pool.shared) = true) :
    ∃ pool, Run (Step (system calls fits service)) idle (actions.map Action.label) pool ∧ good pool.shared = true := by
  obtain ⟨pool, same, found⟩ := (Option.any_eq_true _ _).mp played
  exact ⟨pool, playAll_run rfl same, found⟩

end DBPilot.Idempotency
