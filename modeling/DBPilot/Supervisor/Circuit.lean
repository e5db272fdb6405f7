import DBPilot.Supervisor.Calls

/-!
# The circuit breaker

`recordFailure` opens the circuit together with the process state. Two callers undo
one half of it: a restart that fails sets the process state again afterwards, and a
rollback, or a failure beside an older process, records its failure while a process
has its entry. Unless the failure that they record is the one that opens the circuit,
the circuit is open exactly when the process state says so, no process is managed then,
and only a newer `Start` closes it.
-/

namespace DBPilot.Supervisor

open FiniteMaps Programs Plugins Runs
open Jobs (Instant)

instance {config : Config} {now : Instant} {failures : List Time} : Decidable (Reached config now failures) :=
  inferInstanceAs (Decidable (_ ≤ _))

def Coherent (stored : Option FamilyState) (entry : Option ManagedProcess) : Prop :=
  ∀ state, stored = some state →
    (state.circuitState = .opened ↔ state.processState = .circuitOpen) ∧ (state.circuitState = .opened → entry = none)

section answers

variable {B : Type}

/-- The failures on record where a call may count one more without closing down the process: a `Start`
beside an older process, or a restart. -/
def exposed (call : Call) (w : World B) : Option (List Time) :=
  match call with
  | .start request _ =>
    if (w.running.get request.databaseFamily).isSome then
      some (startFailures request (w.stored request.databaseFamily))
    else none
  | .task (.restartPersisted family _) => (w.stored family).map (·.failures)
  | _ => none

def replied : (c : Command) → Option (Reply c) → Option Instant
  | .now, some now => some now
  | _, _ => none

/-- Nothing but the hand-over of a configuration fails in such a call. -/
def calm (call : Call) (w : World B) : Fits B := fun _ c r _ =>
  wrote c r && ((exposed call w).isNone || r.all fun reply => !failed c reply || c.applies)

/-- One more failure would not open the circuit in such a call. -/
def brief (config : Config) (call : Call) (w : World B) : Fits B := fun _ c r _ =>
  wrote c r && (exposed call w).all fun failures => (replied c r).all fun now => !decide (Reached config now failures)

/-- A failure in the call opens no circuit that it should not. -/
def Guarded (config : Config) (moves : Moves (World B) Command Reply) (failures : List Time) : Prop :=
  (∀ running, ¬ Failing moves running) ∨ ∀ now, Clock moves now → ¬ Reached config now failures

end answers

section calls

variable {B : Type} {config : Config} {moves : Moves (World B) Command Reply} {w w' : World B} {family : String}
  {stored before after : Option FamilyState} {entry entry' : Option ManagedProcess} {state : FamilyState}

lemma coherent_of_some (iff : state.circuitState = .opened ↔ state.processState = .circuitOpen)
    (unmanaged : state.circuitState = .opened → entry = none) : Coherent (some state) entry := by
  rintro _ ⟨⟩
  exact ⟨iff, unmanaged⟩

lemma coherent_of_closed (closed : state.circuitState ≠ .opened) (other : state.processState ≠ .circuitOpen) :
    Coherent (some state) entry :=
  coherent_of_some (iff_of_false closed other) fun opened => absurd opened closed

lemma Guarded.closed {failures : List Time} (guarded : Guarded config moves failures)
    (failing : ∃ running, Failing moves running) (recorded : Recorded config moves failures state) :
    state.circuitState ≠ .opened ∧ state.processState ≠ .circuitOpen := by
  obtain ⟨running, fails⟩ := failing
  obtain calm | brief := guarded
  · exact absurd fails (calm running)
  · obtain ⟨now, clock, ⟨reached, _⟩ | ⟨_, closed, other⟩⟩ := recorded
    · exact absurd reached (brief now clock)
    · exact ⟨closed, other⟩

lemma Coherent.closed {p : ManagedProcess} (coherent : Coherent (some state) (some p)) :
    state.circuitState ≠ .opened := fun opened => Option.some_ne_none p ((coherent state rfl).2 opened)

lemma Change.coherent {origin : Origin} {before after : Standing}
    (change : Change config moves origin family before after)
    (guarded : origin = .restart family → ∀ state, before.stored = some state → Guarded config moves state.failures)
    (coherent : Coherent before.stored before.entry) : Coherent after.stored after.entry := by
  cases change with
  | same => exact coherent
  | touched _ _ _ circuit processState =>
    have closed := coherent.closed
    have iff := (coherent _ rfl).1
    refine coherent_of_closed (by rwa [circuit]) ?_
    rw [processState]
    exact fun other => closed (iff.mpr other)
  | drained _ _ circuit other =>
    refine coherent_of_closed ?_ other
    rw [circuit]
    exact coherent.closed
  | exited _ recorded => exact coherent_of_some (recorded coherent.closed).coherent fun _ => rfl
  | orphaned => exact fun state found => ⟨(coherent state found).1, fun _ => rfl⟩
  | restarted closed _ _ circuit running =>
    refine coherent_of_closed (by rwa [circuit]) ?_
    rw [running]
    nofun
  | unrestarted restart _ _ other recorded failing =>
    obtain ⟨now, clock, opens⟩ := recorded
    refine coherent_of_closed ?_ other
    obtain ⟨running, fails⟩ := failing
    obtain calm | brief := guarded restart _ rfl
    · exact absurd fails (calm running)
    · exact fun opened => brief now clock (opens.mp opened)

/-- No other call closes the circuit. -/
lemma Change.opened {origin : Origin} {before after : Standing}
    (change : Change config moves origin family before after)
    (coherent : Coherent before.stored before.entry) (stored₀ : before.stored = some state)
    (opened : state.circuitState = .opened) : ∃ state', after.stored = some state' ∧ state'.circuitState = .opened := by
  -- The family has no process, and so only a restart could change its state.
  have unmanaged := (coherent state stored₀).2 opened
  cases change with
  | same => exact ⟨state, stored₀, opened⟩
  | restarted closed | unrestarted _ closed =>
    cases stored₀
    exact absurd opened closed
  | _ => cases unmanaged

lemma Ending.coherent {failures : List Time} {old : Option ManagedProcess} {previous : FamilyState} {here : Standing}
    (ending : Ending config moves family failures old previous here)
    (guarded : old.isSome = true → Guarded config moves failures) : Coherent here.stored here.entry := by
  cases ending with
  | kept _ _ _ closed running | started _ _ closed running =>
    refine coherent_of_closed closed ?_
    rw [running]
    nofun
  | cleared _ iff => exact coherent_of_some iff fun _ => rfl
  | rolledBack had _ _ recorded failing =>
    obtain ⟨closed, other⟩ := (guarded had).closed failing recorded
    exact coherent_of_closed closed other
  | stranded had _ recorded failing =>
    obtain ⟨running, _, fails⟩ := failing
    obtain ⟨closed, other⟩ := (guarded (by rw [had]; rfl)).closed ⟨running, fails⟩ recorded
    exact coherent_of_closed closed other

structure Breakers (w : World B) : Prop where
  named : Named w
  coherent : ∀ family, Coherent (w.stored family) (w.running.get family)

variable [StateCodec B] [Hash] {fits : Call → World B → Fits B} {call : Call}

/-- One step, under any condition that guards the failures of an exposed call. -/
lemma Step.breakers_of_guarded (writes : ∀ call w₀ w c r w', fits call w₀ w c r w' = true → wrote c r = true)
    (guards : ∀ failures, exposed call w = some failures →
      Guarded config (Handled (World.handle config) (fits call w)) failures)
    (step : Step config fits w call w') (breakers : Breakers w) : Breakers w' := by
  refine ⟨step.named writes breakers.named, ?_⟩
  intro family
  have coherent := breakers.coherent family
  obtain change | ⟨request, fence, rfl, rfl, changed, starts⟩ := step.family writes breakers.named family
  · refine change.coherent ?_ coherent
    intro restart state stored
    refine guards _ ?_
    cases call with
    | task waiting =>
      cases waiting with
      | restartPersisted =>
        cases restart
        exact congrArg (Option.map _) stored
      | _ => cases restart
    | _ => cases restart
  · obtain ⟨_, previous, _, ending⟩ := starts.resolve_left changed
    refine ending.coherent ?_
    intro had
    exact guards _ (if_pos had)

def GuardedStep (config : Config) (w : World B) (call : Call) (w' : World B) : Prop :=
  Step config calm w call w' ∨ Step config (brief config) w call w'

theorem GuardedStep.breakers (step : GuardedStep config w call w') (breakers : Breakers w) : Breakers w' := by
  obtain step | step := step
  · refine step.breakers_of_guarded (fun _ _ _ _ _ _ fits => (Bool.and_eq_true_iff.mp fits).1)
      (fun _ exposes => .inl ?_) breakers
    rintro running ⟨w₁, c, r, w₂, ⟨_, fits⟩, _, bad, other⟩
    obtain ⟨_, calm⟩ := Bool.and_eq_true_iff.mp fits
    simp [exposes, bad, other] at calm
  · refine step.breakers_of_guarded (fun _ _ _ _ _ _ fits => (Bool.and_eq_true_iff.mp fits).1)
      (fun _ exposes => .inr ?_) breakers
    rintro now ⟨w₁, w₂, _, fits⟩
    obtain ⟨_, brief⟩ := Bool.and_eq_true_iff.mp fits
    simpa [exposes, replied] using brief

lemma Step.opened (step : Step config (fun _ _ => writing) w call w') (breakers : Breakers w)
    (stored : w.stored family = some state) (opened : state.circuitState = .opened) :
    (∃ state', w'.stored family = some state' ∧ state'.circuitState = .opened) ∨
      ∃ request fence, call = .start request fence ∧ request.databaseFamily = family ∧
        state.observedOperationRevision < request.operationRevision := by
  have writes : ∀ (_ : Call) (_ w : World B) c r w', writing w c r w' = true → wrote c r = true :=
    fun _ _ _ _ _ _ fits => fits
  obtain change | ⟨request, fence, rfl, rfl, changed, starts⟩ := step.family writes breakers.named family
  · exact .inl (change.opened (breakers.coherent family) stored opened)
  · obtain ⟨newer, _⟩ := starts.resolve_left changed
    exact .inr ⟨request, fence, rfl, rfl, newer state stored opened⟩

end calls

section claim

variable {B : Type} [StateCodec B] {config : Config} {machine : Machine B} {packages : FiniteMap String FamilyTree}
  {w₀ w : World B}

/-- The stored states of an earlier Agent. -/
def Rests (store : FileStore) : Prop :=
  ∀ family state, store.get family = some state →
    (state.circuitState = .opened ↔ state.processState = .circuitOpen) ∧
      (state.circuitState = .opened → state.processID = 0)

lemma Opens.breakers (loaded : newFileStore machine.directory.visible = .ok machine.store)
    (rests : Rests machine.store) (opens : Opens config machine packages w) : Breakers w := by
  obtain ⟨named, idle, reconciled⟩ := opens.effect loaded
  refine ⟨named, ?_⟩
  intro family
  rw [idle]
  cases reconciled family with
  | kept stored =>
    intro state found
    rw [stored] at found
    exact ⟨(rests family state found).1, fun _ => rfl⟩
  | cleared stored₀ stored busy _ circuit stopped =>
    rw [stored]
    refine coherent_of_closed ?_ ?_
    · rw [circuit]
      exact fun opened => busy ((rests family _ stored₀).2 opened)
    · rw [stopped]
      nofun

variable [Hash] {calls : List Call}

/-- In every state that is reached by guarded steps the circuit is coherent, and no next step but a newer
`Start` closes it. -/
theorem circuit_coherent (loaded : newFileStore machine.directory.visible = .ok machine.store)
    (rests : Rests machine.store) (opens : Opens config machine packages w₀) (run : Run (GuardedStep config) w₀ calls w)
    (family : String) :
    Coherent (w.stored family) (w.running.get family) ∧
      ∀ call w' state, Step config (fun _ _ => writing) w call w' → w.stored family = some state →
        state.circuitState = .opened →
        (∃ state', w'.stored family = some state' ∧ state'.circuitState = .opened) ∨
          ∃ request fence, call = .start request fence ∧ request.databaseFamily = family ∧
            state.observedOperationRevision < request.operationRevision := by
  have breakers : Breakers w :=
    run.invariant Breakers (fun step breakers => step.breakers breakers) (opens.breakers loaded rests)
  exact ⟨breakers.coherent family, fun _ _ _ step => step.opened breakers⟩

end claim

section sample

local instance circuitText : StateCodec DiskSnapshot := snapshotText
local instance circuitHash : Hash := upgradeHash

/-- The circuit, the process state and whether there is a process. -/
def breaker (w : World DiskSnapshot) : Option (CircuitState × ProcessState) × Bool :=
  ((w.stored "postgres").map fun state => (state.circuitState, state.processState), (w.running.get "postgres").isSome)

def exitCalls : List (Call × (Nat → Answer DiskSnapshot)) :=
  [(.task (.restartPersisted "postgres" sampleFingerprint), fun _ => answersAt 1 7),
    (.task (.monitorProcess "postgres" 0), fun _ => answersAt 2 0),
    (.task (.processExited "postgres" 0), fun _ => answersAt 3 0)]

/-- The process of the restart cannot be started. -/
def failedRestart : List (Call × (Nat → Answer DiskSnapshot)) :=
  [(.task (.restartPersisted "postgres" sampleFingerprint), fun _ => { answersAt 1 7 with error := some .processStart })]

/-- The first failure opens the circuit, after an exit and in a restart. -/
instance circuit_facts : Fact (((performOpens (sampleConfig 1) (fun _ => answersAt 0 0) installedWorld).bind fun w₀ =>
    (performAll (sampleConfig 1) calm exitCalls w₀).bind fun w =>
    (performAll (sampleConfig 1) (fun _ _ => writing) failedRestart w₀).map fun w' => (breaker w, breaker w')) =
      some ((some (.opened, .circuitOpen), false), (some (.opened, .restarting), false))) where
  out := by decide +kernel

lemma circuit_runs : ∃ w₀ w w', Opens (sampleConfig 1) installedMachine installedPackages w₀ ∧
    Run (Step (sampleConfig 1) calm) w₀ (exitCalls.map Prod.fst) w ∧
    breaker w = (some (.opened, .circuitOpen), false) ∧
    Run (Step (sampleConfig 1) fun _ _ => writing) w₀ (failedRestart.map Prod.fst) w' ∧
    breaker w' = (some (.opened, .restarting), false) := by
  obtain ⟨w₀, opened, later⟩ := Option.bind_eq_some_iff.mp circuit_facts.out
  obtain ⟨w, exited, later⟩ := Option.bind_eq_some_iff.mp later
  obtain ⟨w', failed, facts⟩ := Option.map_eq_some_iff.mp later
  obtain ⟨facts, facts'⟩ := Prod.mk.inj facts
  exact ⟨w₀, w, w', performOpens_opens opened, performAll_run exited, facts, performAll_run failed, facts'⟩

lemma installed_rests : Rests installedMachine.store := by
  intro family state found
  rw [installed_put.2 family state found]
  exact ⟨iff_of_false nofun nofun, nofun⟩

/-- An exit opens the circuit. -/
theorem circuit_coherent_exit : ∃ w, breaker w = (some (.opened, .circuitOpen), false) ∧
    Coherent (w.stored "postgres") (w.running.get "postgres") := by
  obtain ⟨w₀, w, _, opens, run, facts, _⟩ := circuit_runs
  have guarded : Run (GuardedStep (sampleConfig 1)) w₀ (exitCalls.map Prod.fst) w := run.mono .inl
  exact ⟨w, facts, (circuit_coherent installed_put.1 installed_rests opens guarded "postgres").1⟩

/-- A failed restart opens the circuit and leaves another process state. -/
theorem restart_opens_circuit :
    newFileStore installedMachine.directory.visible = .ok installedMachine.store ∧ Rests installedMachine.store ∧
      ∃ w₀ w, Opens (sampleConfig 1) installedMachine installedPackages w₀ ∧
        Run (Step (sampleConfig 1) fun _ _ => writing) w₀ (failedRestart.map Prod.fst) w ∧
        breaker w = (some (.opened, .restarting), false) ∧
        ¬ Coherent (w.stored "postgres") (w.running.get "postgres") := by
  obtain ⟨w₀, _, w, opens, _, _, run, facts⟩ := circuit_runs
  refine ⟨installed_put.1, installed_rests, w₀, w, opens, run, facts, ?_⟩
  obtain ⟨states, _⟩ := Prod.mk.inj facts
  obtain ⟨state, stored, both⟩ := Option.map_eq_some_iff.mp states
  obtain ⟨opened, restarting⟩ := Prod.mk.inj both
  intro coherent
  have circuitOpen := (coherent state stored).1.mp opened
  rw [restarting] at circuitOpen
  cases circuitOpen

end sample

end DBPilot.Supervisor
