import DBPilot.Inspection.Schedule

/-!
# Passes of the inspection scheduler

`ScheduleDue` of `internal/inspection/service.go` with the two transactions of
`internal/inspection/postgres.go` that it uses: a pass leases the due policies and serves
them one after the other, each in a transaction of its own. Passes of several schedulers
interleave, and leases expire.

A pass returns at the first policy that it cannot serve. The policies that it has leased
behind that one get no turn.
-/

namespace DBPilot.Inspection

open Jobs (Instant)
open Tables Transactions Runs

/-- A row of `inspection_policies`. The identifier stands for tenant and project as well. -/
structure Policy where
  id : String
  enabled : Bool := true
  version : Nat := 1
  schedule : Option Schedule
  nextRunAt : Option Instant
  selector : List String
  items : List (String × Nat)
  targetTimeout : Int := minute
  maxConcurrency : Nat := 1
  claimToken : Option String := none
  leaseExpiresAt : Option Instant := none

/-- `scheduledOccurrenceKey`: no identifier has a colon, so the text gives back its parts. -/
structure OccurrenceKey where
  policyID : String
  version : Nat
  occurrence : Instant
  deriving DecidableEq

structure ScheduledRun where
  key : OccurrenceKey
  targets : List String

structure Database where
  policies : Table Policy Policy.id
  runs : Table ScheduledRun ScheduledRun.key

inductive PassError where
  | invalid
  | invalidSchedule
  | conflict
  | notFound
  | noTargets
  | reportBudgetExceeded
  | storage
  deriving DecidableEq

/-- What the scheduler meets when it serves a policy: the targets and items there are, the
size of the report, fresh identifiers and the creation of the job. -/
structure Surroundings where
  resolve : List String → Except PassError (List String)
  listItems : List (String × Nat) → Except PassError (List (String × Nat))
  estimateReportBudget : List (String × Nat) → List String → Except PassError Unit
  newIDs : Except PassError Unit
  createInTx : Except PassError Unit

def validID (value : String) : Bool :=
  value ≠ "" && value.utf8ByteSize ≤ 128 && value.toList.zipIdx.all fun (character, index) =>
    character.isAlpha || character = '_' || character = '-' || character = '.' || 0 < index && character.isDigit

def snapshotItems (s : Surroundings) (requested : List (String × Nat)) : Except PassError (List (String × Nat)) := do
  let stored ← s.listItems requested
  if requested.any fun item => !validID item.1 || item.2 < 1 then throw .invalid
  if requested.any fun item => !stored.contains item then throw .notFound
  return requested.eraseDups

def checkedBatchTimeout (targets maxConcurrency : Nat) (targetTimeout : Int) : Except PassError Int :=
  if targets < 1 || maxConcurrency < 1 || targetTimeout < second then .error .invalid
  else
    let waves : Int := (targets + maxConcurrency - 1) / maxConcurrency
    if waves < 1 || (2 ^ 63 - 1) / targetTimeout < waves then .error .invalid else .ok (waves * targetTimeout)

/-- `createRun` up to the transaction: the targets of the run. -/
def createRun (s : Surroundings) (policy : Policy) : Except PassError (List String) := do
  if policy.items.length < 1 || 200 < policy.items.length || policy.targetTimeout < second ||
      60 * minute < policy.targetTimeout || policy.maxConcurrency < 1 || 1000 < policy.maxConcurrency then
    throw .invalid
  let targets ← s.resolve policy.selector
  let items ← snapshotItems s policy.items
  s.estimateReportBudget items targets
  s.newIDs
  let _ ← checkedBatchTimeout targets.length policy.maxConcurrency policy.targetTimeout
  return targets

abbrev PassTx := Tx Database PassError

section code

variable [Calendar]

def nextScheduledOccurrence (schedule : Schedule) (after : Instant) : Except Failure Instant := do
  let (parsed, location) ← parseSchedule schedule
  if after = zeroTime then throw .invalidSchedule
  return Calendar.next parsed location after

/-- The coalesced occurrence of a claimed policy and the one that follows. -/
def Policy.occurrences (now : Instant) (policy : Policy) : Except PassError (Instant × Instant) :=
  match policy.schedule, policy.nextRunAt with
  | some schedule, some claimed =>
    (coalescedScheduledOccurrences schedule ⟨claimed, true⟩ ⟨now, true⟩).mapError fun _ => .invalidSchedule
  | _, _ => .error .conflict

/-- The checks of `validateClaimedRun` that the caller does not make true. -/
def validateClaimedRun (policy : Policy) (occurrence following : Instant) : Bool :=
  isUTC ⟨occurrence, true⟩ && isUTC ⟨following, true⟩ && policy.nextRunAt.any (· ≤ occurrence) &&
    policy.schedule.any fun schedule => match nextScheduledOccurrence schedule occurrence with
      | .ok next => next = following
      | .error _ => false

/-- `advanceClaimedPolicySQL`. -/
def Policy.advance (following : Instant) (row : Policy) : Policy :=
  { row with nextRunAt := some following, claimToken := none, leaseExpiresAt := none }

/-- `insertScheduledRunSQL` with the rows that go with the run, or the run that is there. -/
def insertScheduledRun (s : Surroundings) (run : ScheduledRun) : PassTx Unit := do
  match ← inspect fun db => db.runs.find? run.key with
  | some _ => pure ()
  | none => do
    attempt s.createInTx
    let runs ← fetch (fun db => db.runs.insert? run) .conflict
    write fun db => { db with runs }

def createClaimedRunWithJob (s : Surroundings) (policy : Policy) (occurrence following : Instant)
    (targets : List String) : PassTx Unit := do
  require (validateClaimedRun policy occurrence following) .conflict
  require (targets ≠ [] ∧ targets.length ≤ 10000 ∧ targets.Nodup) .invalid
  insertScheduledRun s ⟨⟨policy.id, policy.version, occurrence⟩, targets⟩
  let row ← fetch (fun db => (db.policies.find? policy.id).filter fun row =>
    row.version = policy.version && row.nextRunAt = policy.nextRunAt && row.claimToken = policy.claimToken) .conflict
  write fun db => { db with policies := db.policies.put (row.advance following) }

/-- What a pass does with one of the policies that it has claimed. -/
def serve (s : Surroundings) (now : Instant) (policy : Policy) : PassTx Unit := do
  let (occurrence, following) ← attempt (policy.occurrences now)
  let targets ← attempt (createRun s policy)
  createClaimedRunWithJob s policy occurrence following targets

/-! ## Passes -/

/-- A call of `ScheduleDue` from its claim on: `index` is that of its loop. -/
structure Pass where
  now : Instant
  policies : List Policy
  index : Nat := 0
  created : Nat := 0
  result : Option (Nat × Option PassError) := none

structure World where
  database : Database
  passes : List Pass := []

inductive Event where
  /-- `ClaimDuePolicies` finds some rows locked and draws a token for each one it takes. -/
  | claim (now : Instant) (limit : Nat) (lease : Int) (locked tokens : List String)
  /-- A pass serves its next policy, or returns after the last. -/
  | turn (pass : Nat) (s : Surroundings)

def Policy.due (now : Instant) (policy : Policy) : Bool :=
  policy.enabled && policy.nextRunAt.any (· ≤ now) && policy.leaseExpiresAt.all (· ≤ now)

/-- `ORDER BY next_run_at, id`. -/
def Policy.before (p q : Policy) : Bool :=
  p.nextRunAt.getD 0 < q.nextRunAt.getD 0 || p.nextRunAt.getD 0 = q.nextRunAt.getD 0 && p.id ≤ q.id

/-- `claimPolicySQL` for the row's entry among the claimed policies. -/
def stamp (claimed : List Policy) : Rewrite Policy.id where
  apply row := match claimed.find? (·.id = row.id) with
    | some policy => { row with claimToken := policy.claimToken, leaseExpiresAt := policy.leaseExpiresAt }
    | none => row
  keeps row := by split <;> rfl

def World.step (w : World) : Event → Option World
  | .claim now limit lease locked tokens =>
    let due := ((w.database.policies.rows.filter fun row => row.due now && !locked.contains row.id).insertionSort
      fun p q => p.before q = true).take limit
    if 1 ≤ limit ∧ limit ≤ 100 ∧ 0 < lease ∧ lease ≤ 5 * minute ∧ tokens.length = due.length then
      let claimed := due.zipWith
        (fun row token => { row with claimToken := some token, leaseExpiresAt := some (now + lease) }) tokens
      some {
        database := { w.database with policies := w.database.policies.update (fun _ => true) (stamp claimed) }
        passes := w.passes ++ [{ now, policies := claimed }] }
    else none
  | .turn i s => do
    let pass ← w.passes[i]?
    if pass.result.isSome then none
    else match pass.policies[pass.index]? with
      | none => some { w with passes := w.passes.set i { pass with result := some (pass.created, none) } }
      | some policy =>
        let (answer, database) := perform (serve s pass.now policy) w.database
        let pass := { pass with index := pass.index + 1 }
        some { database, passes := w.passes.set i (match answer with
          | .ok () => { pass with created := pass.created + 1 }
          | .error err => { pass with result := some (pass.created, some err) }) }

end code

/-! ## What a transaction does -/

section served

variable {s : Surroundings} {now : Instant} {policy : Policy} {db db' : Database} {u : Unit}

lemma insertScheduledRun_commits {r : ScheduledRun} (h : Commits (insertScheduledRun s r) db u db') :
    db'.policies = db.policies ∧ (db'.runs.find? r.key).isSome = true ∧ ∀ r' ∈ db'.runs, r' ∈ db.runs ∨ r' = r := by
  unfold insertScheduledRun at h
  simp only [commits_bind, commits_inspect] at h
  obtain ⟨found, _, ⟨known, rfl⟩, h⟩ := h
  cases found with
  | some r' =>
    obtain ⟨-, rfl⟩ := commits_pure.mp h
    exact ⟨rfl, by simp [known], fun _ => .inl⟩
  | none =>
    simp only [commits_bind, commits_attempt, commits_fetch, commits_write] at h
    obtain ⟨_, _, ⟨-, rfl⟩, runs, _, ⟨inserted, rfl⟩, rfl⟩ := h
    exact ⟨rfl, by simp [Table.find?_insert?_self inserted], fun _ => (Table.mem_insert? inserted).mp⟩

/-- The run of the coalesced occurrence is there, and the policy waits for the next one. -/
structure Served (policy : Policy) (occurrence following : Instant) (db db' : Database) : Prop where
  created : (db'.runs.find? ⟨policy.id, policy.version, occurrence⟩).isSome = true
  runs : ∀ r ∈ db'.runs, r ∈ db.runs ∨ r.key = ⟨policy.id, policy.version, occurrence⟩
  advanced : ∃ row, db.policies.find? policy.id = some row ∧ row.version = policy.version ∧
    ∀ id, db'.policies.find? id = if id = policy.id then some (row.advance following) else db.policies.find? id

lemma serve_commits [Calendar] (h : Commits (serve s now policy) db u db') :
    ∃ occurrence following, policy.occurrences now = .ok (occurrence, following) ∧
      Served policy occurrence following db db' := by
  simp only [serve, createClaimedRunWithJob, commits_bind, commits_attempt, commits_require, commits_fetch,
    commits_write, Option.filter_eq_some_iff] at h
  obtain ⟨⟨occurrence, following⟩, _, ⟨found, rfl⟩, targets, _, ⟨-, rfl⟩, _, _, ⟨-, rfl⟩, _, _, ⟨-, rfl⟩, _, middle,
    inserted, row, _, ⟨⟨present, current⟩, rfl⟩, rfl⟩ := h
  obtain ⟨same, created, runs⟩ := insertScheduledRun_commits inserted
  have keyed : (row.advance following).id = policy.id := (Table.find?_eq_some.mp present).2
  have there : (middle.policies.find? (row.advance following).id).isSome = true := by simp [keyed, present]
  refine ⟨occurrence, following, found, created, ?_, row, same ▸ present, by simp_all, ?_⟩
  · intro r member
    exact (runs r member).imp_right (congrArg ScheduledRun.key)
  · intro id
    rw [← same, ← keyed]
    split
    next own => rw [own, Table.find?_put_self there]
    next other => exact Table.find?_put_of_ne there other

/-- When the policy is due for its next occurrence. -/
def Database.nextRunAt (db : Database) (id : String) : Option Instant := (db.policies.find? id).bind Policy.nextRunAt

/-- Runs are of their policy's version. -/
def Database.Current (db : Database) : Prop :=
  ∀ r ∈ db.runs, ∃ row, db.policies.find? r.key.policyID = some row ∧ row.version = r.key.version

lemma Database.Current.unique (h : db.Current) {r r' : ScheduledRun} (first : r ∈ db.runs) (second : r' ∈ db.runs)
    (policy : r.key.policyID = r'.key.policyID) (occurrence : r.key.occurrence = r'.key.occurrence) : r = r' := by
  obtain ⟨row, found, version⟩ := h r first
  obtain ⟨row', found', version'⟩ := h r' second
  obtain rfl : row = row' := by simpa [← policy, found] using found'
  refine db.runs.eq_of_key first second ?_
  cases hk : r.key
  cases hk' : r'.key
  simp_all

namespace Served

variable {occurrence following : Instant} (h : Served policy occurrence following db db')
include h

lemma current (before : db.Current) : db'.Current := by
  obtain ⟨own, present, version, advanced⟩ := h.advanced
  intro r member
  obtain ⟨row, found, same⟩ : ∃ row, db.policies.find? r.key.policyID = some row ∧ row.version = r.key.version := by
    rcases h.runs r member with old | new
    · exact before r old
    · exact new ▸ ⟨own, present, version⟩
  rw [advanced]
  split
  next self =>
    obtain rfl : own = row := by simpa [self, present] using found
    exact ⟨_, rfl, same⟩
  next => exact ⟨row, found, same⟩

lemma nextRunAt_eq {id : String} (changed : db'.nextRunAt id ≠ db.nextRunAt id) :
    policy.id = id ∧ db'.nextRunAt id = some following := by
  obtain ⟨own, -, -, advanced⟩ := h.advanced
  unfold Database.nextRunAt at *
  rw [advanced] at changed ⊢
  by_cases self : id = policy.id
  · exact ⟨self.symm, by simp [self, Policy.advance]⟩
  · simp [self] at changed

end Served

end served

/-! ## Steps -/

lemma stamp_keeps (claimed : List Policy) (row : Policy) :
    (stamp claimed row).version = row.version ∧ (stamp claimed row).nextRunAt = row.nextRunAt := by
  unfold stamp
  dsimp only
  split <;> exact ⟨rfl, rfl⟩

namespace World

variable [Calendar] {w w' : World} {i n : Nat} {s : Surroundings} {e : Event} {pass : Pass} {policy : Policy}

/-- What a turn does: it returns, serves the policy whose turn it is, or fails and returns. -/
inductive Turn (w : World) (i : Nat) (s : Surroundings) (pass : Pass) : World → Prop
  | finish (done : pass.policies[pass.index]? = none) :
    Turn w i s pass { w with passes := w.passes.set i { pass with result := some (pass.created, none) } }
  | serve {policy : Policy} {database : Database} (next : pass.policies[pass.index]? = some policy)
    (served : Commits (serve s pass.now policy) w.database () database) :
    Turn w i s pass ⟨database, w.passes.set i { pass with index := pass.index + 1, created := pass.created + 1 }⟩
  | fail {policy : Policy} {err : PassError} (next : pass.policies[pass.index]? = some policy)
    (failed : ∀ database, ¬ Commits (serve s pass.now policy) w.database () database) :
    Turn w i s pass ⟨w.database, w.passes.set i
      { pass with index := pass.index + 1, result := some (pass.created, some err) }⟩

lemma step_turn (h : w.step (.turn i s) = some w') :
    ∃ pass, w.passes[i]? = some pass ∧ pass.result = none ∧ Turn w i s pass w' := by
  obtain ⟨pass, found, h⟩ := Option.bind_eq_some_iff.mp h
  obtain ⟨running, h⟩ := Option.ite_none_left_eq_some.mp h
  refine ⟨pass, found, by simpa using running, ?_⟩
  split at h
  next done =>
    cases h
    exact .finish done
  next policy next =>
    rcases performed : perform (serve s pass.now policy) w.database with ⟨err | _, database⟩
    all_goals
      rw [performed] at h
      cases h
    · obtain rfl := perform_eq_error performed
      refine .fail next fun database served => ?_
      cases (perform_eq_ok.mpr served).symm.trans performed
    · exact .serve next (perform_eq_ok.mp performed)

/-- A claim leaves all rows but for the claims on them, and adds a pass that is at its start. -/
lemma step_claim {now : Instant} {limit : Nat} {lease : Int} {locked tokens : List String}
    (h : w.step (.claim now limit lease locked tokens) = some w') :
    ∃ claimed, w'.passes = w.passes ++ [{ now, policies := claimed }] ∧ w'.database.runs = w.database.runs ∧
      ∀ id, w'.database.policies.find? id = (w.database.policies.find? id).map (stamp claimed) := by
  obtain ⟨-, ⟨⟩⟩ := Option.ite_none_right_eq_some.mp h
  exact ⟨_, rfl, rfl, fun id => by simp [Table.find?_update]⟩

lemma step_current (h : w.step e = some w') (before : w.database.Current) : w'.database.Current := by
  cases e with
  | claim =>
    obtain ⟨claimed, -, runs, rows⟩ := step_claim h
    intro r member
    obtain ⟨row, found, version⟩ := before r (runs ▸ member)
    exact ⟨stamp claimed row, by simp [rows, found], (stamp_keeps claimed row).1.trans version⟩
  | turn i s =>
    obtain ⟨pass, -, -, turn⟩ := step_turn h
    cases turn with
    | finish | fail => exact before
    | serve _ served =>
      obtain ⟨_, _, -, done⟩ := serve_commits served
      exact done.current before

/-- `next_run_at` moves on only with the run of the coalesced occurrence. -/
def Advances (w : World) (e : Event) (w' : World) : Prop :=
  ∀ id, w'.database.nextRunAt id ≠ w.database.nextRunAt id →
    ∃ i s pass policy occurrence following, e = .turn i s ∧ w.passes[i]? = some pass ∧
      pass.policies[pass.index]? = some policy ∧ policy.id = id ∧
      policy.occurrences pass.now = .ok (occurrence, following) ∧ w'.database.nextRunAt id = some following ∧
      (w'.database.runs.find? ⟨id, policy.version, occurrence⟩).isSome = true

lemma step_advances (h : w.step e = some w') : Advances w e w' := by
  intro id changed
  cases e with
  | claim =>
    obtain ⟨claimed, -, -, rows⟩ := step_claim h
    refine absurd ?_ changed
    unfold Database.nextRunAt
    rw [rows]
    cases w.database.policies.find? id with
    | none => rfl
    | some row => exact (stamp_keeps claimed row).2
  | turn i s =>
    obtain ⟨pass, found, -, turn⟩ := step_turn h
    cases turn with
    | finish | fail => exact absurd rfl changed
    | @serve policy _ next served =>
      obtain ⟨occurrence, following, coalesced, done⟩ := serve_commits served
      obtain ⟨rfl, advanced⟩ := done.nextRunAt_eq changed
      exact ⟨i, s, pass, policy, occurrence, following, rfl, found, next, rfl, coalesced, advanced, done.created⟩

/-- The policy has its turn, which leaves its run behind where the policy can be served on its own. -/
def Serves (i n : Nat) (policy : Policy) (w : World) (e : Event) (w' : World) : Prop :=
  ∃ s pass, e = .turn i s ∧ w.passes[i]? = some pass ∧ pass.index = n ∧ pass.policies[n]? = some policy ∧
    ∀ database, Commits (serve s pass.now policy) w.database () database →
      ∃ occurrence following, policy.occurrences pass.now = .ok (occurrence, following) ∧
        (w'.database.runs.find? ⟨policy.id, policy.version, occurrence⟩).isSome = true

lemma step_serves (h : w.step (.turn i s) = some w') (found : w.passes[i]? = some pass)
    (next : pass.policies[pass.index]? = some policy) : Serves i pass.index policy w (.turn i s) w' := by
  refine ⟨s, pass, rfl, found, rfl, next, fun database alone => ?_⟩
  obtain ⟨_, found', -, turn⟩ := step_turn h
  obtain rfl := Option.some_inj.mp (found.symm.trans found')
  cases turn with
  | finish done => cases done.symm.trans next
  | fail next' failed =>
    obtain rfl := Option.some_inj.mp (next'.symm.trans next)
    exact absurd alone (failed database)
  | serve next' served =>
    obtain rfl := Option.some_inj.mp (next'.symm.trans next)
    obtain ⟨occurrence, following, coalesced, done⟩ := serve_commits served
    exact ⟨occurrence, following, coalesced, done.created⟩

lemma step_policies (h : w.step e = some w') (found : w.passes[i]? = some pass) :
    ∃ pass', w'.passes[i]? = some pass' ∧ pass'.policies = pass.policies := by
  cases e with
  | claim =>
    obtain ⟨claimed, passes, -, -⟩ := step_claim h
    grind
  | turn j s =>
    obtain ⟨pass, running, -, turn⟩ := step_turn h
    cases turn <;> grind

/-- A pass gets past a policy in that policy's turn only. -/
lemma step_index {pass' : Pass} (h : w.step e = some w') (found : w'.passes[i]? = some pass') (past : n < pass'.index) :
    ∃ pass, w.passes[i]? = some pass ∧ (n < pass.index ∨ n = pass.index ∧ ∃ s, e = .turn i s) := by
  cases e with
  | claim =>
    obtain ⟨claimed, passes, -, -⟩ := step_claim h
    grind
  | turn j s =>
    obtain ⟨pass, running, -, turn⟩ := step_turn h
    cases turn <;> grind

/-- Where others wait behind the policy whose turn it is, that policy can be served. -/
def unblocked (w : World) : Event → Bool
  | .claim .. => true
  | .turn i s => w.passes[i]?.all fun pass => pass.policies[pass.index]?.all fun policy =>
    pass.policies.length ≤ pass.index + 1 || (perform (serve s pass.now policy) w.database).1.isOk

/-- A pass that has returned has come to its end. -/
def Complete (w : World) : Prop :=
  ∀ (i : Nat) (pass : Pass), w.passes[i]? = some pass → pass.result.isSome = true → pass.policies.length ≤ pass.index

lemma step_complete (h : w.step e = some w') (ok : w.unblocked e = true) (before : w.Complete) : w'.Complete := by
  intro i pass' found returned
  cases e with
  | claim =>
    obtain ⟨claimed, passes, -, -⟩ := step_claim h
    rw [passes] at found
    grind [Complete]
  | turn j s =>
    obtain ⟨pass, running, -, turn⟩ := step_turn h
    cases turn with
    | finish done | serve => grind [Complete]
    | @fail policy err next failed =>
      have last : pass.policies.length ≤ pass.index + 1 := by
        rcases performed : perform (Inspection.serve s pass.now policy) w.database with ⟨_ | _, database⟩
        · simpa [unblocked, running, next, performed, Except.isOk, Except.toBool] using ok
        · exact absurd (perform_eq_ok.mp performed) (failed database)
      grind [Complete]

variable {events : List Event} {first : World}

/-- Every policy that a pass got past in a run had its turn in the run. -/
lemma run_serves {ok : World → Event → Prop} (run : Run (fun w e w' => ok w e ∧ w.step e = some w') first events w)
    (found : w.passes[i]? = some pass) (past : n < pass.index) (next : pass.policies[n]? = some policy)
    (ahead : ∀ pass, first.passes[i]? = some pass → pass.index ≤ n) :
    ∃ before e after a b, events = before ++ e :: after ∧ Run (fun w e w' => ok w e ∧ w.step e = some w') first before a ∧
      World.step a e = some b ∧ Serves i n policy a e b := by
  induction run with
  | nil => exact absurd (ahead pass found) (by omega)
  | @cons first middle last e events stepped rest ih =>
    by_cases later : ∀ pass, middle.passes[i]? = some pass → pass.index ≤ n
    · obtain ⟨before, e', after, a, b, rfl, early, served⟩ := ih found later
      exact ⟨e :: before, e', after, a, b, rfl, .cons stepped early, served⟩
    · obtain ⟨pass', found', past'⟩ : ∃ pass', middle.passes[i]? = some pass' ∧ n < pass'.index := by
        simpa using later
      obtain ⟨pass₀, found₀, early | ⟨rfl, s, rfl⟩⟩ := step_index stepped.2 found' past'
      · exact absurd (ahead pass₀ found₀) (by omega)
      -- the policies of the pass are the same to the end of the run
      have kept := (Run.cons stepped rest).invariant
        (fun w => ∃ pass, w.passes[i]? = some pass ∧ pass.policies = pass₀.policies)
        (fun step ⟨_, there, same⟩ => (step_policies step.2 there).imp fun _ h => ⟨h.1, h.2.trans same⟩)
        ⟨pass₀, found₀, rfl⟩
      obtain ⟨_, there, same⟩ := kept
      obtain rfl := Option.some_inj.mp (there.symm.trans found)
      exact ⟨[], _, events, first, middle, rfl, .nil _, stepped.2, step_serves stepped.2 found₀ (same ▸ next)⟩

variable {policies : Table Policy Policy.id}

theorem due_policies_isolated
    (run : Run (fun w e w' => w.unblocked e = true ∧ w.step e = some w') ⟨⟨policies, .empty⟩, []⟩ events w) :
    (∀ r ∈ w.database.runs, ∀ r' ∈ w.database.runs, r.key.policyID = r'.key.policyID →
      r.key.occurrence = r'.key.occurrence → r = r') ∧
    Run (fun w e w' => w.step e = some w' ∧ Advances w e w') ⟨⟨policies, .empty⟩, []⟩ events w ∧
    ∀ (i : Nat) (pass : Pass) (n : Nat) (policy : Policy), w.passes[i]? = some pass → pass.result.isSome = true →
      pass.policies[n]? = some policy →
      ∃ before e after a b, events = before ++ e :: after ∧
        Run (fun w e w' => w.unblocked e = true ∧ w.step e = some w') ⟨⟨policies, .empty⟩, []⟩ before a ∧
        World.step a e = some b ∧ Serves i n policy a e b := by
  have current : w.database.Current :=
    run.invariant (fun w => w.database.Current) (fun step => step_current step.2) (by simp [Database.Current])
  have complete : w.Complete := run.invariant Complete (fun step => step_complete step.2 step.1) (by simp [Complete])
  refine ⟨fun r member r' member' => current.unique member member', ?_, ?_⟩
  · exact run.mono fun step => ⟨step.2, step_advances step.2⟩
  · intro i pass n policy found returned next
    obtain ⟨bound, -⟩ := List.getElem?_eq_some_iff.mp next
    have past := complete i pass found returned
    exact run_serves run found (by omega) next (by simp)

end World

/-! ## Two policies that are due at once -/

attribute [local instance] everyMinute

def everyMinuteOn (id : String) (selector : List String) : Policy :=
  { id, schedule := some ⟨"* * * * *", "UTC"⟩, nextRunAt := some 0, selector, items := [("cpu", 1)] }

/-- The selectors list the agents they match. -/
def reachable : Surroundings where
  resolve selector := if selector = [] then .error .noTargets else .ok selector
  listItems := .ok
  estimateReportBudget _ _ := .ok ()
  newIDs := .ok ()
  createInTx := .ok ()

def twoDue (selector : List String) : World :=
  ⟨⟨⟨[everyMinuteOn "a" selector, everyMinuteOn "b" ["agent"]], by simp [everyMinuteOn]⟩, .empty⟩, []⟩

/-- Nothing matches the first policy: the pass returns, and the second policy, which could be
served, is not. -/
theorem failing_policy_blocks_next :
    ∃ w ∈ play World.step [.claim 0 10 minute [] ["t", "u"], .turn 0 reachable] (twoDue []),
      ∃ pass ∈ w.passes[0]?, ∃ policy ∈ pass.policies[1]?, pass.result = some (0, some .noTargets) ∧
        (perform (serve reachable pass.now policy) w.database).1.isOk = true := by
  decide +kernel

/-- A pass that serves both and returns. -/
def onePass : List Event :=
  [.claim 0 10 minute [] ["t", "u"], .turn 0 reachable, .turn 0 reachable, .turn 0 reachable]

theorem second_policy_served :
    ∃ w, Run (fun w e w' => World.unblocked w e = true ∧ w.step e = some w') (twoDue ["host"]) onePass w ∧
      ∃ policy a e b, World.step a e = some b ∧ World.Serves 0 1 policy a e b := by
  obtain ⟨w, played, pass, found, policy, next, returned⟩ :
      ∃ w ∈ play (fun w e => if World.unblocked w e = true then World.step w e else none) onePass (twoDue ["host"]),
        ∃ pass ∈ w.passes[0]?, ∃ policy ∈ pass.policies[1]?, pass.result.isSome = true := by
    decide +kernel
  have run := (play_run played).mono Option.ite_none_right_eq_some.mp
  obtain ⟨-, -, served⟩ := World.due_policies_isolated run
  obtain ⟨_, e, _, a, b, -, -, stepped, turn⟩ := served 0 pass 1 policy found returned next
  exact ⟨w, run, policy, a, e, b, stepped, turn⟩

end DBPilot.Inspection
