import DBPilot.Supervisor.Calls

/-!
# The processes that the stored states name

A family has an entry in the table of running processes exactly when its stored state
has the PID of that process, and the stored PID is zero otherwise. Every failure clears
the stored PID through `fail`, so this is kept as long as no step of a `Start` fails
while the older process of the family still has its entry.
-/

namespace DBPilot.Supervisor

open FiniteMaps Programs Plugins Runs

variable {B : Type}

def Accounted (w : World B) (family : String) : Prop :=
  match w.running.get family with
  | some p => ∃ state, w.stored family = some state ∧ state.processID = p.process.pid
  | none => ∀ state, w.stored family = some state → state.processID = 0

/-- Every state is written, and nothing but the hand-over of a configuration fails in a `Start` while
the family has a process. -/
def sparing (call : Call) (_ : World B) : Fits B := fun w c r _ =>
  wrote c r &&
    match call, r with
    | .start request _, some reply => !failed c reply || c.applies || (w.running.get request.databaseFamily).isNone
    | _, _ => true

/-- A round of the recovery begins with no observation at the last revision. -/
def Observable (w : World B) (call : Call) : Prop :=
  call.origin = .recovery → ∀ family state, w.stored family = some state → nextRevision state.observationRevision ≠ 0

/-! Calls. -/

/-- The stored state of a family agrees with its entry. A process is wanted as long as it has one. -/
def Agrees (stored : Option FamilyState) : Option ManagedProcess → Prop
  | some p => ∃ state, stored = some state ∧ state.processID = p.process.pid ∧ state.desiredState = .running
  | none => ∀ state, stored = some state → state.processID = 0

structure Books (w : World B) : Prop where
  named : Named w
  agrees : ∀ family, Agrees (w.stored family) (w.running.get family)

section calls

variable {config : Config} {moves : Moves (World B) Command Reply} {w w' : World B} {family : String}

lemma agrees_none {state : FamilyState} (pid : state.processID = 0) : Agrees (some state) none := by
  rintro _ ⟨⟩
  exact pid

lemma Change.agrees {origin : Origin} {before after : Standing} (change : Change config moves origin family before after)
    (observable : origin = .recovery →
      ∀ state, before.stored = some state → nextRevision state.observationRevision ≠ 0)
    (agrees : Agrees before.stored before.entry) : Agrees after.stored after.entry := by
  cases change with
  | same => exact agrees
  | touched process pid desired =>
    obtain ⟨_, ⟨⟩, pid₀, desired₀⟩ := agrees
    exact ⟨_, rfl, by rw [pid, process, pid₀], desired.trans desired₀⟩
  | drained _ pid | exited pid => exact agrees_none pid
  | orphaned cause =>
    obtain ⟨state, stored, _, desired⟩ := agrees
    -- Neither cause is there: the process is wanted, and the observation can be numbered.
    obtain other | ⟨round, last⟩ := cause state stored
    · exact absurd desired other
    · exact absurd last (observable round state stored)
  | restarted _ pid desired => exact ⟨_, rfl, pid, desired⟩
  | unrestarted _ _ pid => exact agrees_none (pid.trans (agrees _ rfl))

lemma Ending.agrees {failures : List Time} {old : Option ManagedProcess} {previous : FamilyState}
    {stored : Option FamilyState} {here : Standing} (ending : Ending config moves family failures old previous here)
    (spares : ∀ running, Failing moves running → running.get family = none)
    (pid₀ : previous.processID = stored.elim 0 (·.processID)) (agrees : Agrees stored old) :
    Agrees here.stored here.entry := by
  cases ending with
  | kept process pid desired =>
    obtain ⟨p, rfl, same⟩ := Option.map_eq_some_iff.mp process
    obtain ⟨state, rfl, pid₁, _⟩ := agrees
    exact ⟨_, rfl, by rw [pid, pid₀, ← same, ← pid₁, Option.elim_some], desired⟩
  | cleared pid => exact agrees_none pid
  | started pid desired | rolledBack _ pid desired => exact ⟨_, rfl, pid, desired⟩
  | stranded _ _ _ failing =>
    obtain ⟨running, managed, fails⟩ := failing
    rw [spares running fails] at managed
    cases managed

variable [StateCodec B] [Hash]

theorem Step.books {call : Call} (step : Step config sparing w call w') (observable : Observable w call)
    (books : Books w) : Books w' := by
  have writes : ∀ call (w₀ w : World B) c r w', sparing call w₀ w c r w' = true → wrote c r = true :=
    fun _ _ _ _ _ _ fits => (Bool.and_eq_true_iff.mp fits).1
  refine ⟨step.named writes books.named, ?_⟩
  intro family
  have agrees := books.agrees family
  obtain change | ⟨request, fence, rfl, rfl, changed, starts⟩ := step.family writes books.named family
  · exact change.agrees (fun round => observable round family) agrees
  · obtain ⟨_, previous, pid, ending⟩ := starts.resolve_left changed
    refine ending.agrees (fun _ fails => ?_) pid agrees
    obtain ⟨w₁, c, r, w₂, ⟨_, fits⟩, rfl, bad, other⟩ := fails
    obtain ⟨_, spared⟩ := Bool.and_eq_true_iff.mp fits
    simp only [bad, other, Bool.not_true, Bool.false_or, Option.isNone_iff_eq_none] at spared
    exact spared

end calls

section claim

variable [StateCodec B]

theorem Opens.books {config : Config} {machine : Machine B} {packages : FiniteMap String FamilyTree} {w : World B}
    (loaded : newFileStore machine.directory.visible = .ok machine.store)
    (opens : Opens config machine packages w) : Books w := by
  obtain ⟨named, idle, reconciled⟩ := opens.effect loaded
  refine ⟨named, ?_⟩
  intro family
  rw [idle]
  cases reconciled family with
  | kept stored settled =>
    rw [stored]
    exact settled
  | cleared _ stored _ pid =>
    intro state found
    rw [stored] at found
    cases found
    exact pid

variable [Hash] {config : Config} {machine : Machine B} {packages : FiniteMap String FamilyTree}
  {w₀ w : World B} {calls : List Call}

/-- In every state that is reached while no step of a `Start` fails beside an older process, the stored
PIDs are those of the table. -/
theorem processes_accounted (loaded : newFileStore machine.directory.visible = .ok machine.store)
    (opens : Opens config machine packages w₀)
    (run : Run (fun w call w' => Step config sparing w call w' ∧ Observable w call) w₀ calls w) (family : String) :
    Accounted w family := by
  have books : Books w :=
    run.invariant Books (fun step books => step.1.books step.2 books) (opens.books loaded)
  have agrees := books.agrees family
  unfold Accounted
  cases managed : w.running.get family with
  | none =>
    rw [managed] at agrees
    exact agrees
  | some p =>
    rw [managed] at agrees
    obtain ⟨state, stored, pid, _⟩ := agrees
    exact ⟨state, stored, pid⟩

end claim

section sample

local instance accountingText : StateCodec DiskSnapshot := snapshotText
local instance accountingHash : Hash := upgradeHash

/-- The PIDs in the table and in the store. -/
def pids (w : World DiskSnapshot) : Option Int × Option Int :=
  ((w.running.get "postgres").map (·.process.pid), (w.stored "postgres").map (·.processID))

def restartCalls : List (Call × (Nat → Answer DiskSnapshot)) :=
  [(.task (.restartPersisted "postgres" sampleFingerprint), fun _ => answersAt 1 7)]

/-- The lease of the next version is refused. -/
def refusedUpgrade : List (Call × (Nat → Answer DiskSnapshot)) :=
  [(.start upgradeRequest sampleFence, fun _ => { answersAt 2 8 with error := some .artifactLease })]

def installedOpens : Option (World DiskSnapshot) :=
  performOpens (sampleConfig 5) (fun _ => answersAt 0 0) installedWorld

/-- The process is started, and then the upgrade fails. -/
instance restart_facts : Fact ((installedOpens.bind fun w₀ => (performAll (sampleConfig 5) sparing restartCalls w₀).bind fun w =>
    (performAll (sampleConfig 5) (fun _ _ => writing) refusedUpgrade w).map fun w' => (pids w, pids w')) =
      some ((some 7, some 7), (some 7, some 0))) where
  out := by decide +kernel

lemma restart_run : ∃ w₀ w w', Opens (sampleConfig 5) installedMachine installedPackages w₀ ∧
    Run (Step (sampleConfig 5) sparing) w₀ (restartCalls.map Prod.fst) w ∧ pids w = (some 7, some 7) ∧
    Run (Step (sampleConfig 5) fun _ _ => writing) w (refusedUpgrade.map Prod.fst) w' ∧ pids w' = (some 7, some 0) := by
  obtain ⟨w₀, opened, later⟩ := Option.bind_eq_some_iff.mp restart_facts.out
  obtain ⟨w, restarted, later⟩ := Option.bind_eq_some_iff.mp later
  obtain ⟨w', refused, facts⟩ := Option.map_eq_some_iff.mp later
  obtain ⟨facts, facts'⟩ := Prod.mk.inj facts
  exact ⟨w₀, w, w', performOpens_opens opened, performAll_run restarted, facts, performAll_run refused, facts'⟩

theorem processes_accounted_restart : ∃ w, pids w = (some 7, some 7) ∧ Accounted w "postgres" := by
  obtain ⟨w₀, w, _, opens, run, facts, _⟩ := restart_run
  have others : ∀ call ∈ restartCalls.map Prod.fst, call.origin ≠ .recovery := by
    simp [restartCalls, Call.origin]
  have observed := (run.restrict others).mono fun {w call _} ⟨step, other⟩ =>
    (⟨step, fun same => absurd same other⟩ : Step (sampleConfig 5) sparing w call _ ∧ Observable w call)
  exact ⟨w, facts, processes_accounted installed_put.1 opens observed "postgres"⟩

/-- A failed upgrade clears the PID of the process that still runs. -/
theorem upgrade_strands_process :
    newFileStore installedMachine.directory.visible = .ok installedMachine.store ∧
      ∃ w₀ w, Opens (sampleConfig 5) installedMachine installedPackages w₀ ∧
        Run (Step (sampleConfig 5) fun _ _ => writing) w₀ ((restartCalls ++ refusedUpgrade).map Prod.fst) w ∧
        pids w = (some 7, some 0) ∧ ¬ Accounted w "postgres" := by
  obtain ⟨w₀, w, w', opens, run, _, refused, facts⟩ := restart_run
  have weaker : ∀ {w call w'}, Step (sampleConfig 5) sparing w call w' →
      Step (sampleConfig 5) (fun _ _ => writing) w call (w' : World DiskSnapshot) :=
    fun step => step.mono fun _ _ _ _ fits => (Bool.and_eq_true_iff.mp fits).1
  refine ⟨installed_put.1, w₀, w', opens, ?_, facts, ?_⟩
  · rw [List.map_append]
    exact (run.mono weaker).append refused
  · obtain ⟨managed, stored⟩ := Prod.mk.inj facts
    obtain ⟨p, found, pid⟩ := Option.map_eq_some_iff.mp managed
    obtain ⟨state, kept, cleared⟩ := Option.map_eq_some_iff.mp stored
    unfold Accounted
    rw [found]
    rintro ⟨state', kept', same⟩
    rw [kept] at kept'
    cases kept'
    rw [cleared, pid] at same
    cases same

end sample

end DBPilot.Supervisor
