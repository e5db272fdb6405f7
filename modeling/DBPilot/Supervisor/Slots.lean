import DBPilot.Supervisor.Calls
import DBPilot.Supervisor.Markers

/-!
# The inactive slot is never the marked one

An installation goes to the slot that the stored state does not name. The marker of the
installer and the stored state are written one after the other, and nothing compares
them when the Agent starts again. As long as the Agent neither stops nor fails to write
between the two, every installation, in every later life of the Agent, goes to a slot
that the marker does not name.
-/

namespace DBPilot.Supervisor

open FiniteMaps Directories Programs Plugins Runs

/-! The calls, between the marker and the store. -/

section protocol

/-- Where a call stands between the marker of its family and the store. -/
inductive Phase where
  | settled
  /-- The directory of a family is removed, and the state does not say so yet. -/
  | removed (family : String)
  /-- The marker of the family is set, and the state does not say so yet. -/
  | turned (slot : Slot)
  | ended

def Phase.Stable : Phase → Prop
  | .turned _ => False
  | _ => True

/-- The commands besides the write that a call issues once the marker is set. -/
def still : Command → Bool
  | .manage _ _ | .activationState _ | .spawn _ => true
  | _ => false

section

variable (family : String) (may : Prop) (slots : String → Slot)

/-- What a call may do that finds these slots in the store and may set the marker of one family. -/
def Permits : Phase → Command → Prop
  | .settled, .put state => state.activeSlot = slots state.databaseFamily
  | .settled, .removeInactive name slot => slot = inactiveSlot (slots name)
  | .settled, .installInactive request slot => slot = inactiveSlot (slots request.databaseFamily)
  | .settled, .activate identity _ => may ∧ identity.databaseFamily = family
  | .settled, _ => True
  | .removed name, .put state => state.databaseFamily = name ∧ state.activeSlot = .none
  | .removed _, _ => False
  | .turned slot, .put state => state.databaseFamily = family ∧ state.activeSlot = slot
  | .turned _, c | .ended, c => still c

def Replies : Phase → (c : Command) → Reply c → Prop
  | .settled, .get name, found => (found = none → slots name = .none) ∧
      ∀ state, found = some state → state.databaseFamily = name ∧ state.activeSlot = slots state.databaseFamily
  | .settled, .list, states => ∀ state ∈ states, state.activeSlot = slots state.databaseFamily
  | .settled, .put state, r => ∀ kept, r = .ok kept → ∃ revision, kept = saved revision state
  | _, _, _ => True

def Phase.after : Phase → (c : Command) → Reply c → Phase
  | .settled, .activate _ slot, .ok _ => .turned slot
  | .settled, .removeFamily name, .ok _ => .removed name
  | .removed _, .put _, _ | .turned _, .put _, _ => .ended
  | phase, _, _ => phase

@[simps] def slotProtocol : Protocol Command Reply Phase where
  permits := Permits family may slots
  replies := Replies slots
  after := Phase.after

/-- The program follows the protocol and does not end between marker and store. -/
abbrev Orderly {α : Type} (p : Sup α) : Prop := (slotProtocol family may slots).Follows .settled p fun _ => Phase.Stable

end

attribute [local simp] Option.forall Permits Replies Phase.after Phase.Stable still

variable {family : String} {may : Prop} {slots : String → Slot} {config : Config} {state previous : FamilyState}
  {request : ReconcileRequest}

@[simp] lemma fail_follows {processState : ProcessState} {code : String} {cause : SupervisorError}
    (own : state.activeSlot = slots state.databaseFamily) :
    Orderly family may slots (fail config state processState code cause) := by
  simp [fail, own]

section requests

variable {process : ManagedProcess} {installed : InstalledSlot} (own : state.activeSlot = slots state.databaseFamily)
  (named : state.databaseFamily = request.databaseFamily)

include own named

lemma makeAbsent_follows : Orderly family may slots (makeAbsent config request state) := by
  simp [makeAbsent, own, named, absentState]

lemma makeStopped_follows : Orderly family may slots (makeStopped config request state) := by
  simp [makeStopped, own, named]

/-- Both commands that replace a slot are given the inactive one. -/
lemma install_follows : (slotProtocol family may slots).Follows .settled (install request state) fun r phase =>
    phase = .settled ∧ r.1.activeSlot = slots r.1.databaseFamily ∧ r.1.databaseFamily = request.databaseFamily := by
  simp [install, own, named]

lemma prepareSlot_follows :
    (slotProtocol family may slots).Follows .settled (prepareSlot request state) fun r phase =>
      phase = .settled ∧ r.1.activeSlot = slots r.1.databaseFamily ∧ r.1.databaseFamily = request.databaseFamily := by
  simp [prepareSlot, own, named, install_follows]

lemma reconfigure_follows : Orderly family may slots (reconfigure config request state previous process installed) := by
  simp [reconfigure, own, named]

/-! The calls that set the marker. -/

variable (mine : request.databaseFamily = family)

include mine

lemma installOnly_follows {final : ProcessState} :
    Orderly family True slots (installOnly config request state final) := by
  rw [installOnly, Orderly, follows_bind]
  refine (install_follows own named).mono ?_
  rintro ⟨next, result⟩ _ ⟨rfl, own, named⟩
  cases result <;> simp_all [identityFromRequest]

lemma makeInstalled_follows : Orderly family True slots (makeInstalled config request state) := by
  simp [makeInstalled, own, named, installOnly_follows, mine]

end requests

section

variable [Hash] {hadOldProcess : Bool} (own : state.activeSlot = slots state.databaseFamily)
  (own' : previous.activeSlot = slots previous.databaseFamily)

include own own'

lemma rollback_follows {cause : SupervisorError} :
    Orderly family may slots (rollback config request previous hadOldProcess state cause) := by
  simp [rollback, own, own', recordDesired]

variable (named : state.databaseFamily = request.databaseFamily) (mine : request.databaseFamily = family)

include named mine

lemma launch_follows {installed : InstalledSlot} :
    Orderly family True slots (launch config request state previous hadOldProcess installed) := by
  simp [launch, own, own', named, mine, rollback_follows, identityFromRequest]

lemma makeRunning_follows : Orderly family True slots (makeRunning config request state previous) := by
  rw [makeRunning]
  refine .perform trivial fun process _ => ?_
  rw [follows_ite, follows_bind]
  refine ⟨fun _ => trivial, fun _ => (prepareSlot_follows own named).mono ?_⟩
  rintro ⟨next, result⟩ _ ⟨rfl, own, named⟩
  cases result <;> cases process <;> simp_all [launch_follows, reconfigure_follows]

end

/-- A state of the family with this slot. -/
structure Of (family : String) (active : Slot) (state : FamilyState) : Prop where
  named : state.databaseFamily = family
  slot : state.activeSlot = active

section

variable [Hash] {fence : ExecutionFence}

/-- The state that a request starts from has the slot of the store. -/
lemma startingState_slot {desired : DesiredState} {found : Option FamilyState}
    (known : ∀ current, found = some current →
      current.databaseFamily = request.databaseFamily ∧ current.activeSlot = slots current.databaseFamily)
    (unknown : found = none → slots request.databaseFamily = .none) :
    Of request.databaseFamily (slots request.databaseFamily) (startingState request desired found) := by
  rcases found with _ | current
  · exact ⟨rfl, (unknown rfl).symm⟩
  obtain ⟨named, own⟩ := known current rfl
  rw [named] at own
  unfold startingState
  dsimp only
  split
  · exact ⟨named, own⟩
  · exact ⟨named, own⟩

theorem start_follows : Orderly request.databaseFamily True slots (start config request fence) := by
  unfold start
  split
  · rename_i desired _ _
    refine .perform trivial fun found known => .perform trivial fun process _ => ?_
    split
    · trivial
    have previous : Of request.databaseFamily (slots request.databaseFamily) (startingState request desired found) :=
      startingState_slot known.2 known.1
    dsimp only
    split
    · trivial
    refine .perform previous.slot ?_
    rintro (e | current) written
    · trivial
    obtain ⟨revision, rfl⟩ := written _ rfl
    cases desired with
    | absent => exact makeAbsent_follows previous.slot rfl
    | stopped => exact makeStopped_follows previous.slot rfl
    | installed => exact makeInstalled_follows previous.slot rfl rfl
    | running =>
      exact makeRunning_follows previous.slot (previous.slot.trans (congrArg slots previous.named.symm)) rfl rfl
  · trivial

lemma applyPluginConfiguration_follows {command : ApplyPluginConfiguration} :
    Orderly family may slots (applyPluginConfiguration config command fence) := by
  simp [applyPluginConfiguration, runningAssignment]
  tauto

end

lemma drainPlugin_follows {command : DrainPlugin} {fence : ExecutionFence} :
    Orderly family may slots (drainPlugin command fence) := by
  simp [drainPlugin, runningAssignment]
  tauto

lemma monitorProcess_follows {launch : Nat} {name : String} :
    Orderly family may slots (monitorProcess name launch) := by
  simp [monitorProcess]

lemma processExited_follows {launch : Nat} {name : String} :
    Orderly family may slots (processExited config name launch) := by
  simp [processExited]
  tauto

lemma restartPersisted_follows {name fingerprint : String} :
    Orderly family may slots (restartPersisted config name fingerprint) := by
  simp [restartPersisted, restartFailed]
  tauto

section recovery

variable {states : List FamilyState} (listed : ∀ state ∈ states, state.activeSlot = slots state.databaseFamily)

include listed

lemma recoverStates_follows {pending : Bool} {restarts : List Task} :
    (slotProtocol family may slots).Follows .settled (recoverStates pending restarts states)
      fun _ phase => phase = .settled := by
  induction states generalizing pending restarts with
  | nil => rfl
  | cons state states ih =>
    have own := listed state List.mem_cons_self
    have ih := @ih fun other member => listed other (List.mem_cons_of_mem state member)
    unfold recoverStates
    split
    · exact ih
    refine .perform trivial fun process _ => ?_
    split
    · split
      · exact ih
      · simp [own, ih]
    · exact ih

omit listed in
lemma spawnAll_follows {tasks : List Task} : Orderly family may slots (spawnAll tasks) := by
  induction tasks with
  | nil => trivial
  | cons task tasks ih => simp [spawnAll, ih]

omit listed in
lemma recoverDeferredPluginsOnce_follows : Orderly family may slots recoverDeferredPluginsOnce := by
  refine .perform trivial fun states listed => follows_bind.mpr ((recoverStates_follows listed).mono ?_)
  rintro ⟨restarts, _⟩ _ rfl
  exact spawnAll_follows

omit listed in
lemma checkSlots_follows {entries : List (Slot × SlotState)} :
    (slotProtocol family may slots).Follows .settled (checkSlots state entries) fun _ phase => phase = .settled := by
  induction entries with
  | nil => rfl
  | cons entry rest ih => simp [checkSlots, ih]

lemma recoverFamilies_follows :
    (slotProtocol family may slots).Follows .settled (recoverFamilies states) fun _ phase => phase = .settled := by
  induction states with
  | nil => rfl
  | cons state states ih =>
    have own := listed state List.mem_cons_self
    have ih := ih fun other member => listed other (List.mem_cons_of_mem state member)
    unfold recoverFamilies
    split
    · rfl
    refine .perform trivial fun r _ => ?_
    rcases r with e | _
    · rfl
    refine follows_bind.mpr (checkSlots_follows.mono ?_)
    rintro checked _ rfl
    split
    · rfl
    split
    · exact ih
    rename_i reconciled changed
    have same : reconciled.databaseFamily = state.databaseFamily ∧ reconciled.activeSlot = state.activeSlot := by
      unfold reconcilePersistedProcess at changed
      split at changed
      · cases changed
      · cases changed
        exact ⟨rfl, rfl⟩
    simp [same, own, ih]

omit listed in
theorem newPluginSupervisor_follows : Orderly family may slots newPluginSupervisor := by
  refine .perform trivial fun states listed => follows_bind.mpr ((recoverFamilies_follows listed).mono ?_)
  rintro done _ rfl
  split
  · trivial
  · refine .perform trivial fun states _ => follows_bind.mpr (spawnAll_follows.mono ?_)
    exact fun _ _ stable => stable

end recovery

end protocol

/-! What the phases say of the directories. -/

section specs

variable {B : Type} [StateCodec B] {config : Config} {moves : Moves (World B) Command Reply} {w w' : World B}
  {family : String} {active : Slot}

/-- The store has this slot for the family. -/
structure At (family : String) (active : Slot) (w : World B) : Prop where
  aligned : Aligned w
  slot : w.slotOf family = active

lemma At.kept (here : At family active w) (kept : Kept w w') : At family active w' :=
  ⟨kept.aligned, (kept.slots family).trans here.slot⟩

lemma inactiveSlot_ne : ∀ slot, inactiveSlot slot ≠ slot := by
  intro slot
  cases slot <;> decide

lemma At.inactive (here : At family active w) : (w.tree family).active ≠ some (inactiveSlot active) := by
  intro marked
  obtain ⟨⟨history, _, _, agree⟩, slot⟩ := here
  have same := (agree family trivial w.machine.store (.inl rfl)).marker _ (Directory.holds_visible marked)
  have current : w.slotOf family = inactiveSlot active := same
  rw [slot] at current
  exact inactiveSlot_ne active current.symm

/-- The call ends aligned. -/
def Ends (w' : World B) : Prop := Aligned w'

/-- Every state of a list has the slot of the store. -/
def Listed (states : List FamilyState) (w : World B) : Prop :=
  ∀ state ∈ states, state.activeSlot = w.slotOf state.databaseFamily

lemma Plain.list (plain : Plain config moves) (aligned : Aligned w) {post : List FamilyState → World B → Prop}
    (h : Listed w.machine.store.list w → post w.machine.store.list w) : Keeps moves Sup.list post w := by
  refine plain.issue trivial ?_
  intro answer r w' answers
  cases answers
  refine ⟨fun _ => h ?_, fun _ => aligned⟩
  obtain ⟨history, safe, _⟩ := aligned
  have named : ∀ family state, w.machine.store.get family = some state → state.databaseFamily = family := by
    intro family state stored
    have found : w.machine.store.families.get family = some state := safe.fit.get.symm.trans stored
    exact (safe.fit.kept _ (FiniteMap.get_eq_some.mp found)).named.symm
  intro state member
  have stored := (list_spec named).1 state member
  unfold World.slotOf slotIn
  rw [stored]
  rfl

/-- The condition of a phase. -/
def Phase.Holds (family : String) (may : Prop) (slots : String → Slot) : Phase → World B → Prop
  | .settled, w => ∀ name, At name (slots name) w
  | .removed name, w => Aligned w ∧ w.tree name = .empty
  | .turned slot, w => may ∧ Turning family slot w
  | .ended, w => Aligned w

variable {may : Prop} {slots : String → Slot} (plain : Plain config moves) (careful : may → Careful config family moves)

include plain careful

lemma Phase.Holds.step {phase : Phase} {c : Command} (permitted : Permits family may slots phase c)
    (here : phase.Holds family may slots w) : Keeps moves (Sup.issue c)
      (fun r w' => Replies slots phase c r ∧ (phase.after c r).Holds family may slots w') w := by
  cases phase with
  | settled =>
    have aligned := (here family).aligned
    have kept : ∀ {w'}, Kept w w' → ∀ name, At name (slots name) w' := fun kept name => (here name).kept kept
    cases c with
    | put state =>
      refine plain.put aligned ?_ fun r w' kept' written => ⟨written, kept kept'⟩
      exact permitted.trans (here state.databaseFamily).slot.symm
    | get name =>
      refine plain.get aligned fun found => ⟨⟨?_, ?_⟩, here⟩
      · intro missing
        rw [← (here name).slot]
        exact congrArg (Option.elim · Slot.none (·.activeSlot)) missing
      · intro state stored
        obtain ⟨rfl, slot⟩ := found state stored
        exact ⟨rfl, slot.trans (here _).slot⟩
    | list =>
      refine plain.list aligned fun listed => ⟨?_, here⟩
      exact fun state member => (listed state member).trans (here _).slot
    | activate =>
      refine (careful permitted.1).activate permitted.2 aligned ?_ ?_
      · exact fun e w' kept' => ⟨trivial, kept kept'⟩
      · exact fun w' turning => ⟨trivial, permitted.1, turning⟩
    | removeFamily =>
      refine plain.removeFamily aligned fun r w' kept' empty => ⟨trivial, ?_⟩
      cases r with
      | error e => exact kept kept'
      | ok _ => exact ⟨kept'.aligned, empty rfl⟩
    | installInactive request slot =>
      cases permitted
      refine plain.installInactive aligned ?_ (here _).inactive fun r w' kept' => ⟨trivial, kept kept'⟩
      rw [(here _).slot]
      exact inactiveSlot_ne _
    | removeInactive name =>
      cases permitted
      exact plain.quiet aligned (fun r w' kept' => ⟨trivial, kept kept'⟩) rfl (here name).inactive
    | _ => exact plain.quiet aligned fun r w' kept' => ⟨trivial, kept kept'⟩
  | removed =>
    cases c with
    | put =>
      obtain ⟨rfl, absent⟩ := permitted
      exact plain.putAbsent here.1 absent here.2 fun r w' aligned => ⟨trivial, aligned⟩
    | _ => cases permitted
  | turned =>
    obtain ⟨may, turning⟩ := here
    cases c with
    | put => exact (careful may).turningPut turning permitted.1 permitted.2 fun r w' aligned => ⟨trivial, aligned⟩
    | _ =>
      first
        | cases permitted; done
        | refine (careful may).turningQuiet turning ?_ trivial nofun fun r w' turning' => ⟨trivial, may, turning'⟩
          rintro answer r w' ⟨⟩
          exact ⟨rfl, rfl⟩
  | ended =>
    cases c <;> first | cases permitted; done | exact plain.quiet here fun r w' kept => ⟨trivial, kept.aligned⟩

/-- What follows the protocol of the slots replaces inactive ones only, and ends or stops aligned. -/
theorem slotProtocol_keeps {α : Type} {p : Sup α}
    (follows : ∀ slots, Orderly family may slots p) (aligned : Aligned w) : Keeps moves p (fun _ => Ends) w := by
  have here : Phase.settled.Holds family may w.slotOf w := fun name => ⟨aligned, rfl⟩
  unfold Keeps
  refine wp_mono ((follows w.slotOf).wp (Phase.Holds family may w.slotOf) ?_ here) ?_
  · intro phase c w' permitted here
    have step := here.step plain careful permitted
    unfold Keeps at step
    exact step
  · rintro _ w' ⟨phase, stable, here⟩
    cases phase with
    | settled => exact (here family).aligned
    | removed _ => exact here.1
    | turned _ => cases stable
    | ended => exact here

omit careful

theorem newPluginSupervisor_keeps (aligned : Aligned w) : Keeps moves newPluginSupervisor (fun _ => Ends) w :=
  slotProtocol_keeps plain (@False.elim (Careful config "" moves)) (fun _ => newPluginSupervisor_follows) aligned

/-- Every call replaces inactive slots only, and ends or stops aligned. -/
theorem Call.keeps [Hash] {call : Call}
    (careful : ∀ request fence, call = .start request fence → Careful config request.databaseFamily moves)
    (aligned : Aligned w) : Keeps moves (call.program config) (fun _ => Ends) w := by
  have unmarked : ∀ {p : Sup Unit}, (∀ slots, Orderly "" False slots p) → Keeps moves p (fun _ => Ends) w :=
    fun follows => slotProtocol_keeps plain False.elim follows aligned
  cases call with
  | start request fence =>
    have careful : True → Careful config request.databaseFamily moves := fun _ => careful request fence rfl
    exact slotProtocol_keeps plain careful (fun _ => follows_bind.mpr start_follows) aligned
  | applyPluginConfiguration =>
    exact unmarked fun _ => follows_bind.mpr applyPluginConfiguration_follows
  | drainPlugin => exact unmarked fun _ => follows_bind.mpr drainPlugin_follows
  | recoverDeferredPlugins => exact unmarked fun _ => recoverDeferredPluginsOnce_follows
  | task waiting =>
    cases waiting with
    | monitorProcess => exact unmarked fun _ => monitorProcess_follows
    | processExited => exact unmarked fun _ => processExited_follows
    | restartPersisted => exact unmarked fun _ => restartPersisted_follows

end specs

/-! The lives of the Agent. -/

section lives

variable {B : Type}

inductive Agent (B : Type) where
  | up (w : World B)
  | down (w : World B)

def Agent.world : Agent B → World B
  | .up w | .down w => w

/-- What a crash leaves of the directory of a family. -/
def FamilyTree.Crashes (tree tree' : FamilyTree) : Prop :=
  ∃ marker slots, tree.marker.Crashes marker ∧ tree.slots.Crashes slots ∧ tree' = ⟨⟨marker, []⟩, ⟨slots, []⟩⟩

/-- An activation that does not return without an error leaves the marker; while the marker has another
slot than the store, the Agent goes on and states are written. -/
def attentive (family : String) : Fits B := fun w c r w' =>
  match c, r with
  | .activate _ _, some (.ok _) => true
  | .activate _ _, _ => decide ((w'.tree family).active = (w.tree family).active)
  | c, r => w.agrees family || wrote c r

def turning (call : Call) : Fits B :=
  match call with
  | .start request _ => attentive request.databaseFamily
  | _ => fun _ _ _ _ => true

variable [StateCodec B]

/-- A crash, and the store that the next Agent opens. -/
def World.Crashes (w w₀ : World B) : Prop :=
  ∃ entries store packages, w.machine.directory.Crashes entries ∧ newFileStore entries = .ok store ∧
    w₀ = .fresh ⟨⟨entries, []⟩, store⟩ packages ∧ ∀ family, (w.tree family).Crashes (w₀.tree family)

variable [Hash]

/-- The steps of an Agent, with the commands they issue. -/
inductive LifeStep (config : Config) (fits : Call → Fits B) : Agent B → List (World B × Command) → Agent B → Prop
  | call {call : Call} {w w₁ w' : World B} {events : List (World B × Command)} (begun : call.begins w = some w₁)
      (exec : Exec (Handled (World.handle config) (fits call)) (call.program config) w₁ events (some ()) w') :
      LifeStep config fits (.up w) events (.up w')
  | stops {call : Call} {w w₁ w' : World B} {events : List (World B × Command)} (begun : call.begins w = some w₁)
      (exec : Exec (Handled (World.handle config) (fits call)) (call.program config) w₁ events none w') :
      LifeStep config fits (.up w) events (.down w')
  | dies {w : World B} : LifeStep config fits (.up w) [] (.down w)
  | opens {w w₀ w' : World B} {events : List (World B × Command)} (crash : w.Crashes w₀)
      (exec : Exec (Handled (World.handle config) fun _ _ _ _ => true) newPluginSupervisor w₀ events (some true) w') :
      LifeStep config fits (.down w) events (.up w')
  | refused {w w₀ w' : World B} {events : List (World B × Command)} {result : Option Bool} (crash : w.Crashes w₀)
      (exec : Exec (Handled (World.handle config) fun _ _ _ _ => true) newPluginSupervisor w₀ events result w') :
      LifeStep config fits (.down w) events (.down w')

section

omit [Hash]

lemma FamilyTree.Crashes.shrinks {tree tree' : FamilyTree} (crash : tree.Crashes tree') : Shrinks tree tree' := by
  obtain ⟨marker, slots, marked, kept, rfl⟩ := crash
  refine ⟨?_, ?_⟩
  · intro slot holds
    exact marked.holds (Directory.holds_settled.mp holds)
  · intro slot content holds
    exact ⟨content, kept.holds (Directory.holds_settled.mp holds)⟩

/-- One of the live stores is opened. -/
lemma World.Crashes.aligned {w w₀ : World B} (crash : w.Crashes w₀) (aligned : Aligned w) : Aligned w₀ := by
  obtain ⟨entries, store, packages, crashed, opened, rfl, trees⟩ := crash
  obtain ⟨history, safe, bounded, agree⟩ := aligned
  obtain ⟨store', opened', safe', live⟩ := safe.reopen crashed
  rw [opened] at opened'
  cases opened'
  have before := fun family => (agree family trivial store live).shrinks (trees family).shrinks
  obtain rfl | ⟨_, later⟩ := live
  · refine ⟨history, safe', bounded, ?_⟩
    intro family _ other live'
    exact (agree family trivial other live').shrinks (trees family).shrinks
  -- No call has tried more than one revision ahead, so the tried store is alone now.
  have newest : ∀ other ∈ history.failures, other.revision ≤ store.revision := by
    intro other member
    have bound := bounded other member
    omega
  refine ⟨history, safe', fun other member => Nat.le_succ_of_le (newest other member), ?_⟩
  intro family _ other live'
  obtain rfl | ⟨member, next⟩ := live'
  · exact ⟨(before family).marker, .inl rfl⟩
  · have bound := newest other member
    have ahead : other.revision = store.revision + 1 := next
    omega

lemma fresh_aligned : Aligned (.fresh fresh .empty : World B) := by
  refine ⟨_, fresh_safe, fun _ member => absurd member List.not_mem_nil, ?_⟩
  intro family _ store live
  obtain rfl | ⟨member, _⟩ := live
  · refine ⟨?_, .inl rfl⟩
    intro marked holds
    cases Directory.holds_settled.mp holds
  · exact absurd member List.not_mem_nil

lemma attentive_careful {config : Config} {family : String} :
    Careful config family (Handled (World.handle config) (attentive family : Fits B)) := by
  refine ⟨fun _ _ _ _ move => move.1, ?_, ?_⟩
  · rintro w identity slot r w' ⟨_, fits⟩
    cases r with
    | none => exact .inr (of_decide_eq_true fits)
    | some reply =>
      cases reply with
      | error e => exact .inr (of_decide_eq_true fits)
      | ok _ => exact .inl rfl
  · rintro w c r w' ⟨_, fits⟩ other
    have agrees : (w.agrees family || wrote c r) = true := by
      cases c <;> first | exact fits | exact absurd rfl (other _ _)
    exact Bool.or_eq_true_iff.mp agrees

end

variable {config : Config} {agent agent' : Agent B} {events : List (World B × Command)}

/-- One step, in which every slot that is replaced is inactive. -/
theorem LifeStep.aligned (step : LifeStep config turning agent events agent') (aligned : Aligned agent.world) :
    Aligned agent'.world ∧ ∀ event ∈ events, Inactive event.1 event.2 := by
  have calls : ∀ {call : Call} {w w₁ w' : World B} {result : Option Unit}, call.begins w = some w₁ →
      Exec (Handled (World.handle config) (turning call)) (call.program config) w₁ events result w' → Aligned w →
      Aligned w' ∧ ∀ event ∈ events, Inactive event.1 event.2 := by
    intro call w w₁ w' result begun exec aligned
    have begins : Aligned w₁ := by
      cases call with
      | task =>
        obtain ⟨_, taken⟩ := Option.ite_none_right_eq_some.mp begun
        cases taken
        exact aligned
      | _ =>
        cases begun
        exact aligned
    have careful : ∀ request fence, call = .start request fence →
        Careful config request.databaseFamily (Handled (World.handle config) (turning call : Fits B)) := by
      rintro request fence rfl
      exact attentive_careful
    obtain ⟨inactive, ends⟩ := (Call.keeps (fun _ _ _ _ move => move.1) careful begins).sound exec
    cases result with
    | none | some _ => exact ⟨ends, inactive⟩
  have opens : ∀ {w w₀ w' : World B} {result : Option Bool}, w.Crashes w₀ →
      Exec (Handled (World.handle config) fun _ _ _ _ => true) newPluginSupervisor w₀ events result w' → Aligned w →
      Aligned w' ∧ ∀ event ∈ events, Inactive event.1 event.2 := by
    intro w w₀ w' result crash exec aligned
    have plain : Plain config (Handled (World.handle config) fun (_ : World B) _ _ _ => true) :=
      fun _ _ _ _ move => move.1
    obtain ⟨inactive, ends⟩ := (newPluginSupervisor_keeps plain (crash.aligned aligned)).sound exec
    cases result with
    | none | some _ => exact ⟨ends, inactive⟩
  cases step with
  | call begun exec | stops begun exec => exact calls begun exec aligned
  | dies => exact ⟨aligned, fun _ member => absurd member List.not_mem_nil⟩
  | opens crash exec | refused crash exec => exact opens crash exec aligned

/-- Whatever the Agent lives through, every slot that it replaces is one that the marker does not name. -/
theorem inactive_slots_unmarked {labels : List (List (World B × Command))}
    (run : Run (LifeStep config turning) (.down (.fresh fresh .empty)) labels agent) :
    ∀ events ∈ labels, ∀ event ∈ events, Inactive event.1 event.2 := by
  intro events listed
  obtain ⟨before, after, agent₁, agent₂, _, early, step, _⟩ := run.of_mem listed
  have aligned : Aligned agent₁.world :=
    early.invariant (fun agent => Aligned agent.world) (fun step aligned => (step.aligned aligned).1) fresh_aligned
  exact (step.aligned aligned).2

/-! Lives under given answers. -/

omit [Hash] in
/-- The process stops, and nothing on the disk is lost. -/
def World.restart (w : World B) : Option (World B) :=
  match newFileStore w.machine.directory.visible with
  | .error _ => none
  | .ok store => some (.fresh ⟨⟨w.machine.directory.visible, []⟩, store⟩
      (w.packages.mapValues fun tree => ⟨⟨tree.marker.visible, []⟩, ⟨tree.slots.visible, []⟩⟩))

omit [Hash] in
lemma World.restart_crashes {w w₀ : World B} (restarts : w.restart = some w₀) : w.Crashes w₀ := by
  unfold World.restart at restarts
  split at restarts
  · cases restarts
  rename_i store opened
  cases restarts
  refine ⟨_, store, _, Directory.crashes_visible, opened, rfl, ?_⟩
  intro family
  refine ⟨_, _, Directory.crashes_visible, Directory.crashes_visible, ?_⟩
  unfold World.tree World.fresh
  dsimp only
  rw [FiniteMap.get_mapValues]
  cases w.packages.get family with
  | none => rfl
  | some => rfl

/-- One call, or one start of the Agent. -/
def Agent.act (config : Config) (fits : Call → Fits B) (act : Option Call) (answers : Nat → Answer B) :
    Agent B → Option (List (World B × Command) × Agent B)
  | .up w => act.bind fun call => (call.begins w).bind fun w₁ =>
      ((call.program config).run (World.handle config) (fits call) answers w₁).map fun ran =>
        (ran.1, if ran.2.1.isSome then .up ran.2.2 else .down ran.2.2)
  | .down w => if act.isSome then none else w.restart.bind fun w₀ =>
      (newPluginSupervisor.run (World.handle config) (fun _ _ _ _ => true) answers w₀).map fun ran =>
        (ran.1, if ran.2.1 = some true then .up ran.2.2 else .down ran.2.2)

lemma Agent.act_step {fits : Call → Fits B} {act : Option Call} {answers : Nat → Answer B}
    (acted : agent.act config fits act answers = some (events, agent')) :
    LifeStep config fits agent events agent' := by
  cases agent with
  | up w =>
    obtain ⟨call, _, acted⟩ := Option.bind_eq_some_iff.mp acted
    obtain ⟨w₁, begun, acted⟩ := Option.bind_eq_some_iff.mp acted
    obtain ⟨⟨events, result, w'⟩, ran, both⟩ := Option.map_eq_some_iff.mp acted
    cases both
    cases result with
    | none => exact .stops begun (Prog.run_exec ran)
    | some _ => exact .call begun (Prog.run_exec ran)
  | down w =>
    obtain ⟨_, acted⟩ := Option.ite_none_left_eq_some.mp acted
    obtain ⟨w₀, restarts, acted⟩ := Option.bind_eq_some_iff.mp acted
    obtain ⟨⟨events, result, w'⟩, ran, both⟩ := Option.map_eq_some_iff.mp acted
    cases both
    have crash := World.restart_crashes restarts
    dsimp only
    split
    · rename_i opened
      cases opened
      exact .opens crash (Prog.run_exec ran)
    · exact .refused crash (Prog.run_exec ran)

def Agent.live (config : Config) (fits : Call → Fits B) :
    List (Option Call × (Nat → Answer B)) → Agent B → Option (List (List (World B × Command)))
  | [], _ => some []
  | (act, answers) :: rest, agent => (agent.act config fits act answers).bind fun acted =>
      (acted.2.live config fits rest).map (acted.1 :: ·)

lemma Agent.live_run {fits : Call → Fits B} {acts : List (Option Call × (Nat → Answer B))}
    {labels : List (List (World B × Command))} (lived : agent.live config fits acts = some labels) :
    ∃ agent', Run (LifeStep config fits) agent labels agent' := by
  induction acts generalizing agent labels with
  | nil =>
    cases lived
    exact ⟨agent, .nil agent⟩
  | cons entry rest ih =>
    obtain ⟨⟨events, next⟩, acted, later⟩ := Option.bind_eq_some_iff.mp lived
    obtain ⟨labels, others, rfl⟩ := Option.map_eq_some_iff.mp later
    obtain ⟨last, run⟩ := ih others
    exact ⟨last, .cons (Agent.act_step acted) run⟩

end lives

section sample

local instance slotsText : StateCodec DiskSnapshot := snapshotText

def firstInstall : ReconcileRequest :=
  { upgradeRequest with desiredState := some .installed, desiredVersion := "1.0.0", operationRevision := 1 }

def nextInstall : ReconcileRequest := { upgradeRequest with desiredState := some .installed }

/-- SHA-256 on the two requests, which differ first in the version. -/
local instance slotsHash : Hash where
  sum256 bytes :=
    let digest := if bytes.getD 35 0 = 49 then 0xc7d754fa2382d3bb80faaa998bac54d6f22c1d37c1f6bb5bed5563103a808764
      else 0x407d777a62bb368f15f9fab28ee3413aa193a743abb0993371799360c65e7a28
    (List.range 32).map fun i => UInt8.ofNat (digest / 256 ^ (31 - i))

/-- The Agent stops at a command. -/
def stopsAt (n : Nat) (request : ReconcileRequest) (k : Nat) : Answer DiskSnapshot :=
  { answersAt 1 0 with
    crash := k = n
    lease := ⟨request.assignmentID, request.artifactID, request.operationRevision⟩
    artifact := ⟨.ok (samplePackage request.desiredVersion), 1⟩ }

/-- An installation that stops at a command. -/
def firstLife (n : Nat) : List (Option Call × (Nat → Answer DiskSnapshot)) :=
  [(none, fun _ => answersAt 0 0), (some (.start firstInstall sampleFence), stopsAt n firstInstall)]

/-- The next one, up to the removal of the inactive slot. -/
def secondLife : List (Option Call × (Nat → Answer DiskSnapshot)) :=
  [(none, fun _ => answersAt 2 0), (some (.start nextInstall sampleFence), stopsAt 7 nextInstall)]

/-- The command is to remove an inactive slot, and the slot has the marker or not. -/
def removes (marked : Bool) (event : World DiskSnapshot × Command) : Bool :=
  match event.2 with
  | .removeInactive family slot => decide ((event.1.tree family).active = some slot) == marked
  | _ => false

instance first_removes : Fact (((Agent.down (.fresh fresh .empty)).live (sampleConfig 5) turning (firstLife 7)).map
    (fun labels => labels.any (·.any (removes false))) = some true) where
  out := by decide +kernel

theorem inactive_slots_unmarked_first : ∃ labels : List (List (World DiskSnapshot × Command)),
    labels.any (·.any (removes false)) = true ∧ ∀ events ∈ labels, ∀ event ∈ events, Inactive event.1 event.2 := by
  obtain ⟨labels, lived, removed⟩ := Option.map_eq_some_iff.mp first_removes.out
  obtain ⟨agent, run⟩ := Agent.live_run lived
  exact ⟨labels, removed, inactive_slots_unmarked run⟩

instance second_removes : Fact (((Agent.down (.fresh fresh .empty)).live (sampleConfig 5) (fun _ _ _ _ _ => true)
    (firstLife 12 ++ secondLife)).map (fun labels => labels.any (·.any (removes true))) = some true) where
  out := by decide +kernel

/-- The Agent stops after the activation, and the next installation is to remove the slot that the marker
names. -/
theorem marked_slot_removed : ∃ labels, ∃ agent : Agent DiskSnapshot,
    Run (LifeStep (sampleConfig 5) fun _ _ _ _ _ => true) (.down (.fresh fresh .empty)) labels agent ∧
      ¬ ∀ events ∈ labels, ∀ event ∈ events, Inactive event.1 event.2 := by
  obtain ⟨labels, lived, removed⟩ := Option.map_eq_some_iff.mp second_removes.out
  obtain ⟨agent, run⟩ := Agent.live_run lived
  refine ⟨labels, agent, run, ?_⟩
  intro inactive
  obtain ⟨events, listed, found⟩ := List.any_eq_true.mp removed
  obtain ⟨⟨w, c⟩, member, marked⟩ := List.any_eq_true.mp found
  have unmarked := inactive events listed _ member
  cases c with
  | removeInactive =>
    simp only [removes, beq_true, decide_eq_true_eq] at marked
    exact unmarked marked
  | _ => cases marked

end sample

end DBPilot.Supervisor
