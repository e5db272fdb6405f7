import DBPilot.Plugins.RoundTrip
import DBPilot.Supervisor.Tasks

/-!
# Runs of the supervisor

The calls and the waiting tasks run one after the other, each under the lock, in any
order. What an environment may answer during a call is a check of each command and
its reply, which may depend on the call and on the world it began in.
-/

namespace DBPilot.Supervisor

open FiniteMaps Programs Plugins Runs

inductive Call where
  | start (request : ReconcileRequest) (fence : ExecutionFence)
  | applyPluginConfiguration (command : ApplyPluginConfiguration) (fence : ExecutionFence)
  | drainPlugin (command : DrainPlugin) (fence : ExecutionFence)
  | recoverDeferredPlugins
  | task (task : Task)

def Call.program [Hash] (config : Config) : Call → Sup Unit
  | .start request fence => do
    let _ ← Supervisor.start config request fence
    pure ()
  | .applyPluginConfiguration command fence => do
    let _ ← Supervisor.applyPluginConfiguration config command fence
    pure ()
  | .drainPlugin command fence => do
    let _ ← Supervisor.drainPlugin command fence
    pure ()
  | .recoverDeferredPlugins => recoverDeferredPluginsOnce
  | .task (.monitorProcess family launch) => monitorProcess family launch
  | .task (.processExited family launch) => processExited config family launch
  | .task (.restartPersisted family fingerprint) => restartPersisted config family fingerprint

def Call.origin : Call → Origin
  | .recoverDeferredPlugins => .recovery
  | .task (.restartPersisted family _) => .restart family
  | _ => .other

variable {B : Type}

/-- The world in which a call begins: a task that was waiting is taken up. -/
def Call.begins (w : World B) : Call → Option (World B)
  | .task waiting => if waiting ∈ w.tasks then some { w with tasks := w.tasks.erase waiting } else none
  | _ => some w

abbrev Fits (B : Type) := World B → (c : Command) → Option (Reply c) → World B → Bool

/-- Every state is written, and the Agent does not stop. -/
def writing : Fits B := fun _ c r _ => wrote c r

/-- The world of an Agent that has just been started. -/
def World.fresh (machine : Machine B) (packages : FiniteMap String FamilyTree) : World B :=
  ⟨machine, packages, .empty, 0, [], []⟩

section steps

variable [StateCodec B] [Hash]

def Step (config : Config) (fits : Call → World B → Fits B) (w : World B) (call : Call) (w' : World B) : Prop :=
  ∃ w₁ events result, call.begins w = some w₁ ∧
    Exec (Handled (World.handle config) (fits call w)) (call.program config) w₁ events result w'

/-- `NewPluginSupervisor` returns a supervisor, and every state is written. -/
def Opens (config : Config) (machine : Machine B) (packages : FiniteMap String FamilyTree) (w : World B) : Prop :=
  ∃ events, Exec (Handled (World.handle config) writing) newPluginSupervisor (.fresh machine packages) events
    (some true) w

def performOpens (config : Config) (answers : Nat → Answer B) (w : World B) : Option (World B) :=
  (newPluginSupervisor.run (World.handle config) writing answers w).bind fun ran =>
    if ran.2.1 = some true then some ran.2.2 else none

variable {config : Config}

omit [Hash] in
lemma performOpens_opens {answers : Nat → Answer B} {machine : Machine B}
    {packages : FiniteMap String FamilyTree} {w : World B}
    (performed : performOpens config answers (.fresh machine packages) = some w) : Opens config machine packages w := by
  obtain ⟨⟨events, result, _⟩, executed, ends⟩ := Option.bind_eq_some_iff.mp performed
  obtain ⟨opened, same⟩ := Option.ite_none_right_eq_some.mp ends
  cases same
  cases opened
  exact ⟨events, Prog.run_exec executed⟩

variable {fits : Call → World B → Fits B}

lemma Step.mono {fits' : Call → World B → Fits B} {w w' : World B} {call : Call}
    (step : Step config fits w call w')
    (weaker : ∀ v c r v', fits call w v c r v' = true → fits' call w v c r v' = true) :
    Step config fits' w call w' := by
  obtain ⟨w₁, events, result, begun, exec⟩ := step
  exact ⟨w₁, events, result, begun, exec.mono fun move => ⟨move.1, weaker _ _ _ _ move.2⟩⟩

/-- A call under given answers. -/
def Call.perform (config : Config) (fits : Call → World B → Fits B) (call : Call) (answers : Nat → Answer B)
    (w : World B) : Option (World B) :=
  (call.begins w).bind fun w₁ =>
    ((call.program config).run (World.handle config) (fits call w) answers w₁).map fun ran => ran.2.2

def performAll (config : Config) (fits : Call → World B → Fits B) :
    List (Call × (Nat → Answer B)) → World B → Option (World B)
  | [], w => some w
  | (call, answers) :: rest, w => (call.perform config fits answers w).bind (performAll config fits rest)

lemma performAll_run {calls : List (Call × (Nat → Answer B))} {w w' : World B}
    (performed : performAll config fits calls w = some w') :
    Run (Step config fits) w (calls.map Prod.fst) w' := by
  induction calls generalizing w with
  | nil =>
    cases performed
    exact .nil _
  | cons entry rest ih =>
    obtain ⟨w₁, first, later⟩ := Option.bind_eq_some_iff.mp performed
    obtain ⟨w₂, begun, ran⟩ := Option.bind_eq_some_iff.mp first
    obtain ⟨⟨events, result, _⟩, executed, rfl⟩ := Option.map_eq_some_iff.mp ran
    exact .cons ⟨w₂, events, result, begun, Prog.run_exec executed⟩ (ih later)

end steps

/-- Every state is stored under its family. -/
def Named (w : World B) : Prop := ∀ family state, w.stored family = some state → state.databaseFamily = family

section effects

variable [StateCodec B] {config : Config} {moves : Moves (World B) Command Reply} {w w₁ w' : World B}

lemma Steady.named {c : Command} {r : Option (Reply c)} (steady : Steady config moves) (move : moves w c r w')
    (named : Named w) : Named w' := by
  obtain ⟨⟨answer, handled⟩, written⟩ := steady move
  rcases r with _ | r
  · cases written
  by_cases puts : ∃ state, c = .put state
  · obtain ⟨state, rfl⟩ := puts
    rcases r with e | kept
    · cases written
    have answers : w.handle config (.put state) answer = (some (.ok kept), w') := handled
    simp only [World.handle, World.respond] at answers
    cases done : Plugins.put answer.faults answer.now state w.machine with
    | mk =>
      rw [done] at answers
      split at answers
      · cases answers
      cases answers
      obtain ⟨⟨revision, rfl⟩, here, others⟩ := put_ok done
      intro family state' found
      by_cases same : family = state.databaseFamily
      · subst same
        have stored : some (saved revision state) = some state' := here.symm.trans found
        cases stored
        rfl
      · exact named family state' ((others family same).symm.trans found)
  · have kept : w'.machine = w.machine := by
      unfold World.handle at handled
      dsimp only at handled
      split at handled
      · cases handled
      cases c <;> first | exact absurd ⟨_, rfl⟩ puts | skip
      all_goals
        simp only [World.respond, World.install, World.setTree] at handled
        try split at handled
        all_goals
          cases handled
          rfl
    intro family state found
    unfold World.stored at found
    rw [kept] at found
    exact named family state found

omit [StateCodec B] in
lemma Call.begins_beside {call : Call} (begun : call.begins w = some w₁) : Beside w w₁ := by
  cases call with
  | task =>
    obtain ⟨_, taken⟩ := Option.ite_none_right_eq_some.mp begun
    cases taken
    exact ⟨rfl, rfl⟩
  | _ =>
    cases begun
    exact ⟨rfl, rfl⟩

variable [Hash] {fits : Call → World B → Fits B} {call : Call}

omit [Hash] in
/-- The moves of a call whose check asks at least that every state is written. -/
lemma handled_steady {fits : Fits B} (writes : ∀ w c r w', fits w c r w' = true → wrote c r = true) :
    Steady config (Handled (World.handle config) fits) :=
  fun move => ⟨move.1, writes _ _ _ _ move.2⟩

variable (writes : ∀ call w₀ w c r w', fits call w₀ w c r w' = true → wrote c r = true)

include writes

lemma Step.named (step : Step config fits w call w') (named : Named w) : Named w' := by
  obtain ⟨w₁, events, result, begun, exec⟩ := step
  have beside := Call.begins_beside begun
  have steady : Steady config (Handled (World.handle config) (fits call w)) := handled_steady (writes call w)
  refine exec.invariant Named (fun move => steady.named move) ?_
  intro family state found
  exact named family state (beside.stored.symm.trans found)

theorem Step.start {request : ReconcileRequest} {fence : ExecutionFence} (named : Named w)
    (step : Step config fits w (.start request fence) w') :
    Elsewhere request.databaseFamily w w' ∧
      Starts config (Handled (World.handle config) (fits (.start request fence) w)) request
        (w.standing request.databaseFamily) (w'.standing request.databaseFamily) := by
  obtain ⟨w₁, events, result, begun, exec⟩ := step
  cases begun
  have steady : Steady config (Handled (World.handle config) (fits (.start request fence) w)) :=
    handled_steady (writes _ w)
  have program : Always (Handled (World.handle config) (fits (.start request fence) w))
      ((Call.start request fence).program config) (fun _ w' => Elsewhere request.databaseFamily w w' ∧
        Starts config _ request (w.standing request.databaseFamily) (w'.standing request.databaseFamily)) w :=
    always_bind (always_mono (steady.follows (start_starts (named request.databaseFamily)))
      fun _ _ effect => always_pure effect)
  obtain ⟨_, _, ends⟩ := program.sound exec
  exact ends

/-- Any other call changes each family as `Change` says. -/
theorem Step.changes (named : Named w) (other : ∀ request fence, call ≠ .start request fence)
    (step : Step config fits w call w') :
    Changes config (Handled (World.handle config) (fits call w)) call.origin w w' := by
  obtain ⟨w₁, events, result, begun, exec⟩ := step
  have beside := Call.begins_beside begun
  have steady : Steady config (Handled (World.handle config) (fits call w)) := handled_steady (writes call w)
  have named₁ : Named w₁ := fun family state found => named family state (beside.stored.symm.trans found)
  have program : Always (Handled (World.handle config) (fits call w)) (call.program config)
      (fun _ w' => Changes config (Handled (World.handle config) (fits call w)) call.origin w₁ w') w₁ := by
    cases call with
    | start request fence => exact absurd rfl (other request fence)
    | applyPluginConfiguration =>
      exact always_bind (always_mono (applyPluginConfiguration_spec steady) fun _ _ changes => always_pure changes)
    | drainPlugin =>
      exact always_bind (always_mono (drainPlugin_spec steady) fun _ _ changes => always_pure changes)
    | recoverDeferredPlugins => exact recoverDeferredPluginsOnce_spec steady rfl named₁
    | task task =>
      cases task with
      | monitorProcess => exact monitorProcess_spec steady
      | processExited family => exact steady.changes family (processExited_changes (named₁ family))
      | restartPersisted family =>
        exact steady.changes family (restartPersisted_changes (named₁ family) rfl)
  obtain ⟨_, _, ends⟩ := program.sound exec
  intro family
  rw [← beside.standing]
  exact ends family

/-- What a call makes of one family. -/
lemma Step.family (named : Named w) (step : Step config fits w call w') (family : String) :
    Change config (Handled (World.handle config) (fits call w)) call.origin family (w.standing family)
      (w'.standing family) ∨
    ∃ request fence, call = .start request fence ∧ family = request.databaseFamily ∧
      w'.standing family ≠ w.standing family ∧
      Starts config (Handled (World.handle config) (fits call w)) request (w.standing family) (w'.standing family) := by
  by_cases same : w'.standing family = w.standing family
  · rw [same]
    exact .inl .same
  by_cases starts : ∃ request fence, call = .start request fence
  · obtain ⟨request, fence, rfl⟩ := starts
    obtain ⟨elsewhere, starts⟩ := step.start writes named
    obtain rfl : family = request.databaseFamily := by_contra fun other => same (elsewhere.standing other)
    exact .inr ⟨request, fence, rfl, rfl, same, starts⟩
  · exact .inl (step.changes writes named (fun request fence here => starts ⟨request, fence, here⟩) family)

end effects

/-! The new supervisor. -/

section opening

/-- What `NewPluginSupervisor` makes of a stored state. -/
inductive Reconciled (before after : Option FamilyState) : Prop
  | kept (stored : after = before) (settled : ∀ state, before = some state → state.processID = 0)
  | cleared {state state' : FamilyState} (stored₀ : before = some state) (stored : after = some state')
      (named : state.processID ≠ 0) (pid : state'.processID = 0) (circuit : state'.circuitState = state.circuitState)
      (stopped : state'.processState = .stopped)

variable {state : FamilyState}

lemma validate_processID (valid : state.validate = true) :
    0 ≤ state.processID ∧ (state.processID = 0 ↔ state.processStartTicks = 0) := by
  simp only [FamilyState.validate, Bool.and_eq_true, decide_eq_true_eq] at valid
  have signed : 0 ≤ state.processID := by tauto
  have ticks : ((state.processID == 0) == (state.processStartTicks == 0)) = true := by tauto
  rw [beq_iff_eq, Bool.eq_iff_iff, beq_iff_eq, beq_iff_eq] at ticks
  exact ⟨signed, ticks⟩

lemma reconcilePersistedProcess_none (valid : state.validate = true)
    (settled : reconcilePersistedProcess state = none) : state.processID = 0 := by
  unfold reconcilePersistedProcess at settled
  split at settled
  · rename_i empty
    exact le_antisymm empty.1 (validate_processID valid).1
  · cases settled

lemma reconcilePersistedProcess_some {reconciled : FamilyState} (valid : state.validate = true)
    (changed : reconcilePersistedProcess state = some reconciled) :
    state.processID ≠ 0 ∧ reconciled = clearProcess { state with
      processState := .stopped, healthState := .unknown, lastErrorCode := "agent_restart_reconciled" } := by
  unfold reconcilePersistedProcess at changed
  split at changed
  · cases changed
  · rename_i busy
    cases changed
    refine ⟨?_, rfl⟩
    intro idle
    exact busy ⟨idle.le, (validate_processID valid).2.mp idle⟩

variable {B : Type} {w w₀ : World B}

lemma mem_list {family : String} (stored : w.stored family = some state) : state ∈ w.machine.store.list := by
  obtain ⟨kept, found, rfl⟩ := Option.map_eq_some_iff.mp stored
  have listed := (List.mem_insertionSort (fun x y : String × FamilyState => x.1 ≤ y.1)).mpr
    (FiniteMap.get_eq_some.mp found)
  exact List.mem_map_of_mem (List.mem_map_of_mem listed)

variable [StateCodec B] {config : Config} {moves : Moves (World B) Command Reply}

section steady

variable (steady : Steady config moves)

include steady

lemma checkSlots_spec {slots : List (Slot × SlotState)} {post : Bool → World B → Prop}
    (h : ∀ checked w', Beside w w' → post checked w') : Always moves (checkSlots state slots) post w := by
  induction slots generalizing w with
  | nil => exact always_pure (h true w .refl)
  | cons entry rest ih =>
    obtain ⟨slot, slotState⟩ := entry
    refine always_bind (steady.beside rfl ?_)
    intro installed w₁ beside _
    cases installed with
    | error e => exact always_pure (h false w₁ beside)
    | ok => exact ih fun checked w' beside' => h checked w' (beside.trans beside')

/-- The states that are still to be visited are as they were, the others are reconciled. -/
lemma recoverFamilies_spec {states : List FamilyState}
    (current : ∀ state ∈ states, w₀.stored state.databaseFamily = some state ∧
      w.stored state.databaseFamily = some state)
    (once : (states.map (·.databaseFamily)).Nodup) (idle : w.running = w₀.running)
    (visited : ∀ family, (∀ state ∈ states, state.databaseFamily ≠ family) →
      Reconciled (w₀.stored family) (w.stored family)) :
    Always moves (recoverFamilies states) (fun done w' => done = true → w'.running = w₀.running ∧
      ∀ family, Reconciled (w₀.stored family) (w'.stored family)) w := by
  induction states generalizing w with
  | nil => exact always_pure fun _ => ⟨idle, fun family => visited family fun _ member => absurd member List.not_mem_nil⟩
  | cons state states ih =>
    obtain ⟨unlisted, once⟩ := List.nodup_cons.mp once
    have apart : ∀ other ∈ states, other.databaseFamily ≠ state.databaseFamily := by
      intro other member same
      exact unlisted (List.mem_map.mpr ⟨other, member, same⟩)
    have refused : ∀ w', Always moves (pure false : Sup Bool) (fun done w' => done = true →
        w'.running = w₀.running ∧ ∀ family, Reconciled (w₀.stored family) (w'.stored family)) w' :=
      fun _ => always_pure nofun
    -- The rest of the list, from a world in which this family is reconciled.
    have next : ∀ w', w'.running = w₀.running → Elsewhere state.databaseFamily w w' →
        Reconciled (w₀.stored state.databaseFamily) (w'.stored state.databaseFamily) →
        Always moves (recoverFamilies states) (fun done w' => done = true → w'.running = w₀.running ∧
          ∀ family, Reconciled (w₀.stored family) (w'.stored family)) w' := by
      intro w' idle' elsewhere reconciled
      refine ih ?_ once idle' ?_
      · intro other member
        rw [elsewhere.stored _ (apart other member)]
        exact current other (List.mem_cons_of_mem state member)
      intro family unvisited
      by_cases same : family = state.databaseFamily
      · rw [same]
        exact reconciled
      rw [elsewhere.stored family same]
      refine visited family ?_
      intro other member
      obtain rfl | member := List.mem_cons.mp member
      · exact Ne.symm same
      · exact unvisited other member
    obtain ⟨stored₀, stored⟩ := current state List.mem_cons_self
    unfold recoverFamilies
    split
    · exact refused w
    rename_i checks
    have valid : state.validate = true := by simpa using checks
    refine always_bind (steady.beside (c := .recover state.databaseFamily) rfl ?_)
    intro recovered w₁ beside₁ _
    rcases recovered with e | _
    · exact refused w₁
    refine always_bind (checkSlots_spec steady ?_)
    intro checked w₂ beside₂
    have beside := beside₁.trans beside₂
    rcases checked with _ | _
    · exact refused w₂
    rw [if_neg (by decide)]
    split
    · rename_i settled
      refine next w₂ (beside.running.trans idle) beside.elsewhere (.kept ?_ ?_)
      · rw [beside.stored, stored, stored₀]
      · intro found same
        rw [stored₀] at same
        cases same
        exact reconcilePersistedProcess_none valid settled
    · rename_i reconciled changed
      obtain ⟨busy, rfl⟩ := reconcilePersistedProcess_some valid changed
      refine always_bind (steady.put fun revision w₃ stores => ?_)
      exact next w₃ (stores.running.trans (beside.running.trans idle))
        (beside.elsewhere.trans (stores.elsewhere rfl)) (.cleared stored₀ stores.here busy rfl rfl rfl)

lemma newPluginSupervisor_spec (named : Named w) :
    Always moves newPluginSupervisor (fun done w' => done = true → w'.running = w.running ∧
      ∀ family, Reconciled (w.stored family) (w'.stored family)) w := by
  obtain ⟨listed, once⟩ := list_spec named
  unfold newPluginSupervisor
  refine always_bind (steady.list (always_bind (always_mono
    (recoverFamilies_spec steady (fun state member => ⟨listed state member, listed state member⟩) once
      (rfl : w.running = w.running) ?_) ?_)))
  · intro family unlisted
    refine .kept rfl ?_
    intro state stored
    exact absurd (named family state stored) (unlisted state (mem_list stored))
  · intro done w₁ recovered
    rcases done with _ | _
    · exact always_pure nofun
    obtain ⟨idle, reconciled⟩ := recovered rfl
    refine always_bind (steady.list (always_bind (spawnAll_spec steady fun w₂ beside => always_pure fun _ => ?_)))
    refine ⟨beside.running.trans idle, ?_⟩
    intro family
    rw [beside.stored]
    exact reconciled family

end steady

theorem Opens.effect {machine : Machine B} {packages : FiniteMap String FamilyTree}
    (loaded : newFileStore machine.directory.visible = .ok machine.store) (opens : Opens config machine packages w) :
    Named w ∧ w.running = .empty ∧ ∀ family, Reconciled (machine.store.get family) (w.stored family) := by
  obtain ⟨events, exec⟩ := opens
  have steady : Steady config (Handled (World.handle config) (writing : Fits B)) :=
    handled_steady fun _ _ _ _ fits => fits
  have named : Named (World.fresh machine packages) := by
    intro family state stored
    have fit := (opened_sound loaded).fit
    have found : machine.store.families.get family = some state := fit.get.symm.trans stored
    exact (fit.kept _ (FiniteMap.get_eq_some.mp found)).named.symm
  obtain ⟨_, same, ends⟩ := (newPluginSupervisor_spec steady named).sound exec
  cases same
  exact ⟨exec.invariant Named (fun move => steady.named move) named, ends rfl⟩

end opening

/-! A plugin that an earlier Agent installed, and its next version. -/

section sample

local instance callsText : StateCodec DiskSnapshot := snapshotText

def sampleFingerprint : String := "baf5add388ccccaa3286085c21a2d0f3dd135925d0142bedc451a3f29cac8dc1"

/-- Version 1.0.0 is to run from slot a. -/
def installedFamily : FamilyState :=
  { sampleFamily with
    requestFingerprint := sampleFingerprint
    installedVersion := "1.0.0"
    activeSlot := .a
    activeArtifactID := "artifact"
    activeArtifactSHA256 := sampleDigest
    activeManifestDigest := sampleDigest
    desiredVersion := "1.0.0"
    desiredArtifactID := "artifact"
    desiredArtifactSHA256 := sampleDigest
    desiredManifestDigest := sampleDigest
    processState := .stopped
    observationRevision := 1 }

def installedMachine : Machine DiskSnapshot := (put noFaults 0 installedFamily fresh).1

lemma installed_put : newFileStore installedMachine.directory.visible = .ok installedMachine.store ∧
    ∀ family state, installedMachine.store.get family = some state →
      state = { installedFamily with stateRevision := installedMachine.store.revision } := by
  have ok : (put noFaults 0 installedFamily fresh).2.isOk = true := by decide +kernel
  unfold installedMachine
  cases done : put noFaults 0 installedFamily fresh with
  | mk machine result =>
    rw [done] at ok
    rcases result with e | returned
    · cases ok
    obtain ⟨fit, loaded, families⟩ := Plugins.put_ok fresh_reached.sound done
    refine ⟨loaded, ?_⟩
    intro family state found
    rw [fit.get, families] at found
    by_cases own : family = installedFamily.databaseFamily
    · rw [own, FiniteMap.get_set_self] at found
      cases found
      rfl
    · rw [FiniteMap.get_set_of_ne own] at found
      cases found

def samplePackage (version : String) : VerifiedPackage :=
  ⟨sampleDigest, sampleDigest, "postgres", "postgres", version, [⟨"linux", "amd64", sampleDigest⟩]⟩

def installedTree : FamilyTree where
  marker := ⟨fun _ => some .a, []⟩
  slots := ⟨fun slot => if slot = .a then some ⟨samplePackage "1.0.0", true⟩ else none, []⟩

def installedPackages : FiniteMap String FamilyTree := FiniteMap.empty.set "postgres" installedTree

def installedWorld : World DiskSnapshot := .fresh installedMachine installedPackages

def upgradeRequest : ReconcileRequest where
  assignmentID := "assignment"
  pluginID := "postgres"
  databaseFamily := "postgres"
  desiredVersion := "2.0.0"
  desiredState := some .running
  artifactID := "artifact"
  artifactSHA256 := List.replicate 32 0
  manifestDigest := List.replicate 32 0
  configurationRevision := 1
  operationRevision := 2

/-- SHA-256 on the request for the upgrade. -/
@[reducible] def upgradeHash : Hash where
  sum256 _ := (List.range 32).map fun i =>
    UInt8.ofNat (0xac635b52796f43b7a11bab0d0aa00da1aef947f2627abb4719751a54f68483e9 / 256 ^ (31 - i))

def sampleFence : ExecutionFence := ⟨"command", List.replicate 32 0, 1, some 0⟩

/-- The configuration of the Agent, up to the number of failures that opens the circuit. -/
def sampleConfig (failureThreshold : Nat) : Config := ⟨⟨"linux", "amd64"⟩, 600000000000, failureThreshold, true, true, true⟩

/-- Nothing fails, and a process gets a PID. -/
def answersAt (now : Jobs.Instant) (pid : Int) : Answer DiskSnapshot where
  faults := noFaults
  now := now
  lease := ⟨upgradeRequest.assignmentID, upgradeRequest.artifactID, upgradeRequest.operationRevision⟩
  artifact := ⟨.ok (samplePackage "2.0.0"), 1⟩
  process := ⟨pid, 1, some now⟩

end sample

end DBPilot.Supervisor
