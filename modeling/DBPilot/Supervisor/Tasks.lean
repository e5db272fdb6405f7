import DBPilot.Supervisor.Effects

/-!
# What the other calls of the supervisor do

The effects of a configuration or a drain of a running plugin, of an exit, of an
automatic restart and of the deferred recovery, when every state is written.
-/

namespace DBPilot.Supervisor

open FiniteMaps Programs Plugins
open Jobs (Instant)

section tasks

variable {B : Type} [StateCodec B] {config : Config} {moves : Moves (World B) Command Reply}
  {w w₀ w' w'' : World B} {family : String} {origin : Origin}

/-- The calls that fail in a way of their own. -/
inductive Origin where
  | recovery
  | restart (family : String)
  | other

/-- What such a call makes of the standing of a family. -/
inductive Change (config : Config) (moves : Moves (World B) Command Reply) (origin : Origin) (family : String) :
    Standing → Standing → Prop
  | same {here : Standing} : Change config moves origin family here here
  | touched {p p' : ManagedProcess} {state state' : FamilyState} (process : p'.process = p.process)
      (pid : state'.processID = state.processID) (desired : state'.desiredState = state.desiredState)
      (circuit : state'.circuitState = state.circuitState) (processState : state'.processState = state.processState) :
      Change config moves origin family ⟨some p, some state⟩ ⟨some p', some state'⟩
  | drained {p : ManagedProcess} {state state' : FamilyState} (running : state.processState = .running)
      (pid : state'.processID = 0) (circuit : state'.circuitState = state.circuitState)
      (other : state'.processState ≠ .circuitOpen) :
      Change config moves origin family ⟨some p, some state⟩ ⟨none, some state'⟩
  | exited {p : ManagedProcess} {state state' : FamilyState} (pid : state'.processID = 0)
      (recorded : state.circuitState ≠ .opened → Recorded config moves state.failures state')
      (opened : state.circuitState = .opened → state'.circuitState = .opened) :
      Change config moves origin family ⟨some p, some state⟩ ⟨none, some state'⟩
  /-- The process is gone, and the state still names it. -/
  | orphaned {p : ManagedProcess} {stored : Option FamilyState} (cause : ∀ state, stored = some state →
        state.desiredState ≠ .running ∨ origin = .recovery ∧ nextRevision state.observationRevision = 0) :
      Change config moves origin family ⟨some p, stored⟩ ⟨none, stored⟩
  | restarted {p : ManagedProcess} {state state' : FamilyState} (closed : state.circuitState ≠ .opened)
      (pid : state'.processID = p.process.pid) (desired : state'.desiredState = .running)
      (circuit : state'.circuitState = state.circuitState) (running : state'.processState = .running) :
      Change config moves origin family ⟨none, some state⟩ ⟨some p, some state'⟩
  | unrestarted {state state' : FamilyState} (restart : origin = .restart family)
      (closed : state.circuitState ≠ .opened) (pid : state'.processID = state.processID)
      (other : state'.processState ≠ .circuitOpen)
      (recorded : ∃ now, Clock moves now ∧ (state'.circuitState = .opened ↔ Reached config now state.failures))
      (failing : ∃ running, Failing moves running) :
      Change config moves origin family ⟨none, some state⟩ ⟨none, some state'⟩

def Changes (config : Config) (moves : Moves (World B) Command Reply) (origin : Origin) (w w' : World B) : Prop :=
  ∀ family, Change config moves origin family (w.standing family) (w'.standing family)

omit [StateCodec B] in
lemma Change.changes (change : Change config moves origin family (w.standing family) (w'.standing family))
    (elsewhere : Elsewhere family w w') : Changes config moves origin w w' := by
  intro other
  by_cases here : other = family
  · rw [here]
    exact change
  · rw [elsewhere.standing here]
    exact .same

variable (steady : Steady config moves)

include steady

/-- The assignment is found with a process that runs and is the one that is stored. -/
lemma runningAssignment_spec {assignmentID : String}
    {post : Option (String × ManagedProcess × FamilyState) → World B → Prop}
    (missing : post none w)
    (found : ∀ family p state, w.running.get family = some p → w.stored family = some state →
      state.databaseFamily = family → state.processState = .running → post (some (family, p, state)) w) :
    Always moves (runningAssignment assignmentID) post w := by
  unfold runningAssignment
  split
  · exact always_pure missing
  refine always_bind (steady.issue ?_)
  intro answer r w' answers _
  have same : w' = w := by
    cases answers
    rfl
  subst same
  match r with
  | none => exact always_pure missing
  | some (family, p) =>
    have member : (family, p) ∈ w'.running.entries := by
      have chosen : ((w'.running.entries.filter fun entry => entry.2.request.assignmentID = assignmentID).find?
          fun entry => entry.1 = answer.family).or
          (w'.running.entries.filter fun entry => entry.2.request.assignmentID = assignmentID).head? =
            some (family, p) := congrArg Prod.fst answers
      rcases Option.or_eq_some_iff.mp chosen with picked | ⟨_, first⟩
      · exact (List.mem_filter.mp (List.mem_of_find?_eq_some picked)).1
      · exact (List.mem_filter.mp (List.mem_of_head? first)).1
    refine always_bind (steady.get ?_)
    rcases stored : w'.stored family with _ | state
    · exact always_pure missing
    dsimp only
    split
    · exact always_pure missing
    · rename_i fits
      simp only [not_or, not_not] at fits
      exact always_pure (found family p state (FiniteMap.get_eq_some.mpr member) stored fits.2.1 fits.2.2.2.2.1)

/-- A call for one family changes only that one. -/
lemma Steady.changes {α : Type} {p : Sup α} (family : String)
    (follows : (familyProtocol moves family).Follows (w.standing family) p
      fun _ => Change config moves origin family (w.standing family)) :
    Always moves p (fun _ w' => Changes config moves origin w w') w :=
  always_mono (steady.follows follows) fun _ _ ⟨elsewhere, change⟩ => change.changes elsewhere

attribute [local simp] failed Command.applies Except.isOk Except.toBool Change.same World.standing

lemma applyPluginConfiguration_spec [Hash] {command : ApplyPluginConfiguration} {fence : ExecutionFence} :
    Always moves (applyPluginConfiguration config command fence) (fun _ w' => Changes config moves origin w w') w := by
  unfold applyPluginConfiguration
  split
  · exact always_pure fun _ => .same
  refine always_bind (runningAssignment_spec steady (always_pure fun _ => .same) ?_)
  intro family p state managed stored named running
  refine steady.changes family ?_
  simp [managed, stored, named, Change.touched]

lemma drainPlugin_spec {command : DrainPlugin} {fence : ExecutionFence} :
    Always moves (drainPlugin command fence) (fun _ w' => Changes config moves origin w w') w := by
  unfold drainPlugin
  split
  · exact always_pure fun _ => .same
  refine always_bind (runningAssignment_spec steady (always_pure fun _ => .same) ?_)
  intro family p state managed stored named running
  refine steady.changes family ?_
  simp [managed, stored, named, running, Change.drained]

lemma monitorProcess_spec {launch : Nat} :
    Always moves (monitorProcess family launch) (fun _ w' => Changes config moves origin w w') w :=
  steady.changes family (by simp [monitorProcess])

section recorded

variable {now : Instant} {state marked : FamilyState} {code : String} {revision : Nat}

omit steady [StateCodec B] in
lemma exited {p : ManagedProcess} (clock : Clock moves now) (pid : marked.processID = 0)
    (other : marked.processState ≠ .circuitOpen) (circuit : marked.circuitState = state.circuitState)
    (counted : marked.failures = state.failures) :
    Change config moves origin family ⟨some p, some state⟩
      ⟨none, some (saved revision (recordFailureAt config now marked code))⟩ := by
  refine .exited (recordFailureAt_rest.2.1.trans pid) ?_ ?_
  · rw [← circuit, ← counted]
    intro closed
    have recorded : Recorded config moves marked.failures (recordFailureAt config now marked code) :=
      recordFailureAt_recorded clock closed other
    exact recorded
  · rw [← circuit]
    intro opened
    unfold recordFailureAt
    dsimp only
    split
    · rfl
    · exact opened

end recorded

omit steady [StateCodec B] in
lemma restartFailed_changes {fingerprint code : String} {processState : ProcessState} {state : FamilyState}
    {stored : Option FamilyState} (restart : origin = .restart family) (fit : Fit family state)
    (other : processState ≠ .circuitOpen) (failing : Fails moves family none) :
    (familyProtocol moves family).Follows ⟨none, stored⟩
      (restartFailed config family fingerprint state code processState)
      fun _ => Change config moves origin family ⟨none, some state⟩ := by
  refine ⟨trivial, fun now clock => follows_put.mpr ⟨recordFailureAt_rest.1.trans fit.named, fun revision => ?_⟩⟩
  have opens : (recordFailureAt config now state code).circuitState = .opened ↔
      Reached config now state.failures := by
    unfold recordFailureAt Reached
    dsimp only
    rw [List.length_append, List.length_singleton]
    split
    · exact iff_of_true rfl ‹_›
    · exact iff_of_false fit.closed ‹_›
  obtain ⟨running, _, fails⟩ := failing
  have change : Change config moves origin family ⟨none, some state⟩
      ⟨none, some (saved revision { recordFailureAt config now state code with processState })⟩ :=
    .unrestarted restart fit.closed recordFailureAt_rest.2.1 other ⟨now, clock, opens⟩ ⟨running, fails⟩
  split
  · exact ⟨trivial, fun _ _ => change⟩
  · exact change

section named

omit steady [StateCodec B]

variable {entry : Option ManagedProcess} {stored : Option FamilyState}
  (named : ∀ state, stored = some state → state.databaseFamily = family)

include named

lemma processExited_changes {launch : Nat} :
    (familyProtocol moves family).Follows ⟨entry, stored⟩ (processExited config family launch)
      fun _ => Change config moves origin family ⟨entry, stored⟩ := by
  cases entry <;> cases stored <;> simp +contextual [processExited, exited, Change.orphaned, named]

lemma restartPersisted_changes (restart : origin = .restart family) {fingerprint : String} :
    (familyProtocol moves family).Follows ⟨entry, stored⟩ (restartPersisted config family fingerprint)
      fun _ => Change config moves origin family ⟨entry, stored⟩ := by
  cases entry <;> cases stored <;>
    simp +contextual [restartPersisted, restartFailed_changes, Change.restarted, fit_iff, named, restart]

end named

/-- The states that are still to be looked at are those that are stored, each family
once; the others were changed at most once. -/
lemma recoverStates_spec (round : origin = .recovery) {pending : Bool} {restarts : List Task}
    {states : List FamilyState}
    (current : ∀ state ∈ states, w.standing state.databaseFamily = w₀.standing state.databaseFamily ∧
      w₀.stored state.databaseFamily = some state)
    (once : (states.map (·.databaseFamily)).Nodup) (before : Changes config moves origin w₀ w) :
    Always moves (recoverStates pending restarts states) (fun _ w' => Changes config moves origin w₀ w') w := by
  induction states generalizing pending restarts w with
  | nil => exact always_pure before
  | cons state states ih =>
    obtain ⟨fresh, once⟩ := List.nodup_cons.mp once
    have others := fun later member => current later (List.mem_cons_of_mem state member)
    obtain ⟨unchanged, stored⟩ := current state List.mem_cons_self
    unfold recoverStates
    split
    · exact ih others once before
    refine always_bind (steady.running ?_)
    split
    · rename_i p managed running
      split
      · exact ih others once before
      have standing₀ : w₀.standing state.databaseFamily = ⟨some p, some state⟩ := by
        rw [← unchanged, World.standing, managed, ← stored]
        exact congrArg (Standing.mk _ ·.stored) unchanged
      have followed : ∀ w', Elsewhere state.databaseFamily w w' →
          Change config moves origin state.databaseFamily ⟨some p, some state⟩ (w'.standing state.databaseFamily) →
          Changes config moves origin w₀ w' := by
        intro w' elsewhere change family
        by_cases here : family = state.databaseFamily
        · rw [here, standing₀]
          exact change
        · rw [elsewhere.standing here]
          exact before family
      refine always_bind (steady.beside (c := .drainProcess p) rfl ?_)
      intro r w₁ beside _
      have standing : w₁.standing state.databaseFamily = ⟨some p, some state⟩ := by
        rw [beside.standing, unchanged, standing₀]
      rcases r with e | _
      · refine always_pure (followed w₁ beside.elsewhere ?_)
        rw [standing]
        exact .same
      refine always_bind (steady.forget ?_)
      have unmanaged : ({ w₁ with running := w₁.running.erase state.databaseFamily } : World B).standing
          state.databaseFamily = ⟨none, some state⟩ := by
        simp [World.standing] at standing ⊢
        exact standing.2
      dsimp only
      split
      · rename_i wraps
        refine always_pure (followed _ (beside.elsewhere.trans .erase) ?_)
        rw [unmanaged]
        refine .orphaned ?_
        rintro _ ⟨⟩
        exact .inr ⟨round, wraps⟩
      · refine always_bind (steady.put fun revision w₂ stores => ?_)
        have elsewhere : Elsewhere state.databaseFamily w w₂ :=
          beside.elsewhere.trans (Elsewhere.erase.trans (stores.elsewhere rfl))
        refine ih ?_ once (followed w₂ elsewhere ?_)
        · intro later member
          rw [elsewhere.standing fun same => fresh (List.mem_map.mpr ⟨later, member, same⟩)]
          exact others later member
        · have found : w₂.stored state.databaseFamily = _ := stores.found rfl
          rw [World.standing, found, stores.running, FiniteMap.get_erase_self]
          exact .drained running rfl rfl (by rintro ⟨⟩)
    · exact ih others once before

lemma spawnAll_spec {tasks : List Task} {post : Unit → World B → Prop} (h : ∀ w', Beside w w' → post () w') :
    Always moves (spawnAll tasks) post w := by
  induction tasks generalizing w with
  | nil => exact always_pure (h w .refl)
  | cons task tasks ih =>
    refine always_bind (steady.beside (c := .spawn task) rfl ?_)
    intro _ w₁ beside _
    exact ih fun w' beside' => h w' (beside.trans beside')

omit steady [StateCodec B] in
/-- The listed states are those that are stored, each family once. -/
lemma list_spec {store : FileStore}
    (named : ∀ family state, store.get family = some state → state.databaseFamily = family) :
    (∀ state ∈ store.list, store.get state.databaseFamily = some state) ∧
      (store.list.map (·.databaseFamily)).Nodup := by
  have sorted := List.perm_insertionSort (fun x y : String × FamilyState => x.1 ≤ y.1) store.families.entries
  have found : ∀ entry ∈ store.families.entries, store.get entry.1 = some (cloneFamily entry.2) := by
    intro entry member
    unfold FileStore.get
    rw [FiniteMap.get_eq_some.mpr member]
    rfl
  constructor
  · intro state member
    obtain ⟨_, inner, rfl⟩ := List.mem_map.mp member
    obtain ⟨entry, listed, rfl⟩ := List.mem_map.mp inner
    have stored := found entry (sorted.mem_iff.mp listed)
    rw [named _ _ stored]
    exact stored
  · have names : store.list.map (·.databaseFamily) =
        (store.families.entries.insertionSort fun x y => x.1 ≤ y.1).map Prod.fst := by
      unfold FileStore.list sortedFamilies
      rw [List.map_map, List.map_map]
      refine List.map_congr_left ?_
      intro entry listed
      exact named _ _ (found entry (sorted.mem_iff.mp listed))
    rw [names]
    exact (sorted.map Prod.fst).nodup_iff.mpr store.families.distinct

lemma recoverDeferredPluginsOnce_spec (round : origin = .recovery)
    (named : ∀ family state, w.stored family = some state → state.databaseFamily = family) :
    Always moves recoverDeferredPluginsOnce (fun _ w' => Changes config moves origin w w') w := by
  unfold recoverDeferredPluginsOnce
  obtain ⟨listed, once⟩ := list_spec named
  refine always_bind (steady.list (always_bind (always_mono
    (recoverStates_spec steady round (fun state member => ⟨rfl, listed state member⟩) once fun _ => .same) ?_)))
  rintro ⟨restarts, _⟩ w₁ changes
  refine spawnAll_spec steady ?_
  intro w₂ beside family
  rw [beside.standing]
  exact changes family

end tasks

end DBPilot.Supervisor
