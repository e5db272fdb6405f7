import DBPilot.Plugins.Snapshots
import DBPilot.Supervisor.Program

/-!
# What the calls of the supervisor do

Under the assumption that every state is written and the Agent does not stop, the
effect of each call on the stored state of a family and on its entry in the table of
running processes. The conditions under which an environment answers are those of the
moves; where a call ends badly because of an answer, that answer is named.
-/

namespace DBPilot.Supervisor

open FiniteMaps Programs Plugins
open Jobs (Instant)

section effects

variable {B : Type} [StateCodec B]

/-- What the store keeps of a state. -/
def saved (revision : Nat) (state : FamilyState) : FamilyState := cloneFamily { state with stateRevision := revision }

def World.stored (w : World B) (family : String) : Option FamilyState := w.machine.store.get family

/-- The answers with which a command has not done what it is for. -/
def failed : (c : Command) → Reply c → Bool
  | .put _, reply => !reply.isOk
  | .lease wanted, reply =>
    match reply with
    | .ok lease => lease ≠ wanted
    | .error _ => true
  | .download _, reply => !reply.isOk
  | .installInactive _ _, reply => !reply.isOk
  | .installed _ _, reply => !reply.isOk
  | .startProcess _ _ _, reply => !reply.isOk
  | .activate _ _, reply => !reply.isOk
  | .removeInactive _ _, reply => !reply.isOk
  | .removeFamily _, reply => !reply.isOk
  | .recover _, reply => !reply.isOk
  | .drainProcess _, reply => !reply.isOk
  | .handshake _ _, reply => !reply.isOk
  | .applyConfiguration _ _ _, reply => !reply.isOk
  | .applyTypedConfiguration _ _ _, reply => !reply.isOk
  | _, _ => false

/-- The Agent goes on, and a state that is to be written is written. -/
def wrote : (c : Command) → Option (Reply c) → Bool
  | _, none => false
  | .put state, some reply => !failed (.put state) reply
  | _, some _ => true

/-- The moves of the supervisor's world in which every state is written. -/
def Steady (config : Config) (moves : Moves (World B) Command Reply) : Prop :=
  ∀ {w c r w'}, moves w c r w' → (∃ answer, w.handle config c answer = (r, w')) ∧ wrote c r = true

@[irreducible] def Always {α : Type} (moves : Moves (World B) Command Reply) (p : Sup α) (post : α → World B → Prop)
    (w : World B) : Prop := wp moves (fun _ _ => True) (fun _ => False) p post w

variable {config : Config} {moves : Moves (World B) Command Reply} {w w' w'' : World B} {family : String}

section rules

variable {α β : Type} {p : Sup α} {f : α → Sup β} {a : α} {post post' : α → World B → Prop}
  {goal : β → World B → Prop}

section

omit [StateCodec B]

lemma always_pure (h : post a w) : Always moves (pure a : Sup α) post w := by
  unfold Always
  exact wp_pure h

lemma always_bind (h : Always moves p (fun a => Always moves (f a) goal) w) : Always moves (p >>= f) goal w := by
  unfold Always at h ⊢
  exact wp_bind h

lemma always_mono (h : Always moves p post w) (weaker : ∀ a w, post a w → post' a w) : Always moves p post' w := by
  unfold Always at h ⊢
  exact wp_mono h weaker

/-- The Agent does not stop. -/
lemma Always.sound {events : List (World B × Command)} {o : Option α} (h : Always moves p post w)
    (exec : Exec moves p w events o w') : ∃ a, o = some a ∧ post a w' := by
  unfold Always at h
  obtain ⟨_, ends⟩ := exec.sound h
  cases o with
  | none => cases ends
  | some a => exact ⟨a, rfl, ends⟩

end

end rules

variable {c : Command}

/-- A command that is answered. -/
lemma Steady.issue {post : Reply c → World B → Prop} (steady : Steady config moves)
    (h : ∀ answer r w', w.respond config c answer = (r, w') → moves w c (some r) w' → post r w') :
    Always moves (Sup.issue c) post w := by
  unfold Always
  apply wp_perform
  · trivial
  · intro r w' move
    obtain ⟨⟨answer, handled⟩, _⟩ := steady move
    refine h answer r w' ?_ move
    unfold World.handle at handled
    dsimp only at handled
    split at handled
    · cases handled
    · cases handled
      rfl
  · intro w' move
    obtain ⟨_, wrote⟩ := steady move
    cases wrote

/-! The state store. -/

variable {state : FamilyState}

lemma put_ok {faults : Faults B} {now : Instant} {kept : FamilyState} {m m' : Machine B}
    (done : Plugins.put faults now state m = (m', .ok kept)) :
    (∃ revision, kept = saved revision state) ∧
      m'.store.get state.databaseFamily = some kept ∧
      ∀ other ≠ state.databaseFamily, m'.store.get other = m.store.get other := by
  unfold Plugins.put at done
  rcases prepared : preparePut faults.cancelled now state m.store with e | both
  · rw [prepared] at done
    cases done
  obtain ⟨numbered, next⟩ := both
  rw [prepared] at done
  dsimp only at done
  have committed : ∀ {m'' : Machine B}, commit faults next m = (m'', .ok ()) → m''.store = next := by
    intro m'' h
    unfold commit at h
    split at h <;> cases h
    rfl
  split at done
  · cases done
  rename_i m'' written
  cases done
  rw [committed written]
  unfold preparePut at prepared
  split at prepared
  · cases prepared
  split at prepared
  · cases prepared
  dsimp only at prepared
  split at prepared
  · cases prepared
  cases prepared
  have again : ∀ st : FamilyState, cloneFamily (cloneFamily st) = cloneFamily st := by
    intro st
    rw [cloneFamily_eq, cloneFamily_eq]
  refine ⟨⟨_, rfl⟩, ?_, ?_⟩
  · unfold FileStore.get
    dsimp only
    rw [FiniteMap.get_set_self, Option.map_some, again]
  intro other differs
  unfold FileStore.get
  dsimp only
  rw [FiniteMap.get_set_of_ne differs, cloneFamilies, FiniteMap.get_mapValues, Option.map_map]
  cases m.store.families.get other with
  | none => rfl
  | some st => exact congrArg some (again st)

/-- Nothing is stored and no entry of the table changes. -/
structure Beside (w w' : World B) : Prop where
  machine : w'.machine = w.machine
  running : w'.running = w.running

/-- Only the family is touched. -/
structure Elsewhere (family : String) (w w' : World B) : Prop where
  stored : ∀ other ≠ family, w'.stored other = w.stored other
  running : ∀ other ≠ family, w'.running.get other = w.running.get other

/-- A state is stored, and no entry of the table changes. -/
structure Stores (revision : Nat) (state : FamilyState) (w w' : World B) : Prop where
  here : w'.stored state.databaseFamily = some (saved revision state)
  others : ∀ other ≠ state.databaseFamily, w'.stored other = w.stored other
  running : w'.running = w.running

section

omit [StateCodec B]

lemma Beside.refl : Beside w w := ⟨rfl, rfl⟩

lemma Beside.stored (beside : Beside w w') : w'.stored family = w.stored family := by
  unfold World.stored
  rw [beside.machine]

lemma Beside.trans (first : Beside w w') (second : Beside w' w'') : Beside w w'' :=
  ⟨second.machine.trans first.machine, second.running.trans first.running⟩

lemma Elsewhere.trans (first : Elsewhere family w w') (second : Elsewhere family w' w'') : Elsewhere family w w'' :=
  ⟨fun other differs => (second.stored other differs).trans (first.stored other differs),
    fun other differs => (second.running other differs).trans (first.running other differs)⟩

end

variable {process : ManagedProcess} {revision : Nat}

section

omit [StateCodec B]

lemma Elsewhere.set : Elsewhere family w { w with running := w.running.set family process } :=
  ⟨fun _ _ => rfl, fun _ differs => FiniteMap.get_set_of_ne differs⟩

lemma Elsewhere.erase : Elsewhere family w { w with running := w.running.erase family } :=
  ⟨fun _ _ => rfl, fun _ differs => FiniteMap.get_erase_of_ne differs⟩

lemma Beside.elsewhere (beside : Beside w w') : Elsewhere family w w' :=
  ⟨fun _ _ => beside.stored, fun _ _ => by rw [beside.running]⟩

lemma Stores.elsewhere (stores : Stores revision state w w')
    (named : state.databaseFamily = family) : Elsewhere family w w' := by
  subst named
  exact ⟨stores.others, fun _ _ => by rw [stores.running]⟩

lemma Stores.found (stores : Stores revision state w w')
    (named : state.databaseFamily = family) : w'.stored family = some (saved revision state) := by
  subst named
  exact stores.here

end

/-- The moment that a failure is recorded at. -/
def Clock (moves : Moves (World B) Command Reply) (now : Instant) : Prop := ∃ w w', moves w .now (some now) w'

/-- A failure of this command leaves the process as it is. -/
def Command.applies : Command → Bool
  | .applyConfiguration _ _ _ => true
  | _ => false

/-- A command did not do what it is for, with these entries in the table. -/
def Failing (moves : Moves (World B) Command Reply) (running : FiniteMap String ManagedProcess) : Prop :=
  ∃ w c r w', moves w c (some r) w' ∧ w.running = running ∧ failed c r = true ∧ c.applies = false

/-! The commands. -/

/-- The commands that store nothing and change no entry of the table. -/
def aside : Command → Bool
  | .put _ | .manage _ _ | .forget _ => false
  | _ => true

section commands

variable (steady : Steady config moves)

include steady

lemma Steady.beside {post : Reply c → World B → Prop} (apart : aside c = true)
    (h : ∀ r w', Beside w w' → moves w c (some r) w' → post r w') : Always moves (Sup.issue c) post w := by
  refine steady.issue ?_
  intro answer r w' answers move
  refine h r w' ?_ move
  cases c <;> first | cases apart; done | skip
  all_goals
    simp only [World.respond, World.install, World.setTree] at answers
    try split at answers
    all_goals
      cases answers
      exact ⟨rfl, rfl⟩

lemma Steady.put {post : Except StateError FamilyState → World B → Prop}
    (h : ∀ revision w', Stores revision state w w' → post (.ok (saved revision state)) w') :
    Always moves (Sup.put state) post w := by
  apply steady.issue
  intro answer r w' answers move
  have written := (steady move).2
  rcases r with e | kept
  · cases written
  simp only [World.respond] at answers
  cases done : Plugins.put answer.faults answer.now state w.machine with
  | mk =>
    rw [done] at answers
    cases answers
    obtain ⟨⟨revision, rfl⟩, here, others⟩ := put_ok done
    exact h revision _ ⟨here, others, rfl⟩

lemma Steady.get {post : Option FamilyState → World B → Prop} (h : post (w.stored family) w) :
    Always moves (Sup.get family) post w := by
  apply steady.issue
  intro answer r w' answers _
  cases answers
  exact h

lemma Steady.list {post : List FamilyState → World B → Prop} (h : post w.machine.store.list w) :
    Always moves Sup.list post w := by
  apply steady.issue
  intro answer r w' answers _
  cases answers
  exact h

lemma Steady.running {post : Option ManagedProcess → World B → Prop} (h : post (w.running.get family) w) :
    Always moves (Sup.running family) post w := by
  apply steady.issue
  intro answer r w' answers _
  cases answers
  exact h

lemma Steady.forget (h : post () { w with running := w.running.erase family }) :
    Always moves (Sup.forget family) post w := by
  apply steady.issue
  intro answer r w' answers _
  cases answers
  exact h

lemma Steady.now {post : Instant → World B → Prop} (h : ∀ now, Clock moves now → post now w) :
    Always moves Sup.now post w := by
  apply steady.issue
  intro answer r w' answers move
  have same : w' = w := by
    cases answers
    rfl
  subst same
  exact h r ⟨_, _, move⟩

end commands

/-! Calls for one family. -/

/-- What the table and the store say of a family. -/
structure Standing where
  entry : Option ManagedProcess
  stored : Option FamilyState

def World.standing (w : World B) (family : String) : Standing := ⟨w.running.get family, w.stored family⟩

section

omit [StateCodec B]

lemma Beside.standing (beside : Beside w w') : w'.standing family = w.standing family := by
  unfold World.standing
  rw [beside.stored, beside.running]

lemma Elsewhere.standing (elsewhere : Elsewhere family w w') {other : String} (differs : other ≠ family) :
    w'.standing other = w.standing other := by
  unfold World.standing
  rw [elsewhere.stored other differs, elsewhere.running other differs]

end

/-- A command did not do what it is for while the family had this entry. -/
def Fails (moves : Moves (World B) Command Reply) (family : String) (entry : Option ManagedProcess) : Prop :=
  ∃ running, running.get family = entry ∧ Failing moves running

/-- The commands of a call for one family, and what they make of its standing. -/
@[simps] def familyProtocol (moves : Moves (World B) Command Reply) (family : String) :
    Protocol Command Reply Standing where
  permits _ c := match c with
    | .get name | .running name | .manage name _ | .forget name => name = family
    | .put state => state.databaseFamily = family
    | _ => True
  replies here c r := match c, r with
    | .get _, found => found = here.stored
    | .running _, found => found = here.entry
    | .put state, r => ∃ revision, r = .ok (saved revision state)
    | .now, now => Clock moves now
    | c, r => failed c r = true → c.applies = false → Fails moves family here.entry
  after here c r := match c, r with
    | .put _, .ok kept => { here with stored := some kept }
    | .manage _ process, _ => { here with entry := some process }
    | .forget _, _ => { here with entry := none }
    | _, _ => here

/-- A call for one family touches no other, and brings that one where its protocol says. -/
theorem Steady.follows {α : Type} {p : Sup α} {post : α → Standing → Prop} (steady : Steady config moves)
    (follows : (familyProtocol moves family).Follows (w.standing family) p post) :
    Always moves p (fun a w' => Elsewhere family w w' ∧ post a (w'.standing family)) w := by
  unfold Always
  refine wp_mono (follows.wp (fun here w' => Elsewhere family w w' ∧ w'.standing family = here) ?_
    ⟨⟨fun _ _ => rfl, fun _ _ => rfl⟩, rfl⟩) ?_
  · rintro _ c w₁ permitted ⟨elsewhere, rfl⟩
    have issued : Always moves (Sup.issue c) (fun r w₂ =>
        (familyProtocol moves family).replies (w₁.standing family) c r ∧ Elsewhere family w w₂ ∧
          w₂.standing family = (familyProtocol moves family).after (w₁.standing family) c r) w₁ := by
      cases c with
      | get =>
        cases permitted
        exact steady.get ⟨rfl, elsewhere, rfl⟩
      | running =>
        cases permitted
        exact steady.running ⟨rfl, elsewhere, rfl⟩
      | now => exact steady.now fun now clock => ⟨clock, elsewhere, rfl⟩
      | put =>
        refine steady.put fun revision w₂ stores => ⟨⟨revision, rfl⟩, elsewhere.trans (stores.elsewhere permitted), ?_⟩
        simp [World.standing, stores.found permitted, stores.running]
      | manage =>
        cases permitted
        refine steady.issue ?_
        rintro _ _ _ ⟨⟩ _
        exact ⟨by rintro ⟨⟩, elsewhere.trans .set, by simp [World.standing, World.stored]⟩
      | forget =>
        cases permitted
        exact steady.forget ⟨by rintro ⟨⟩, elsewhere.trans .erase, by simp [World.standing, World.stored]⟩
      | _ =>
        refine steady.beside rfl fun r w₂ beside move => ⟨?_, elsewhere.trans beside.elsewhere, ?_⟩
        · exact fun bad other => ⟨w₁.running, rfl, w₁, _, r, w₂, move, rfl, bad, other⟩
        · exact beside.standing
    unfold Always at issued
    exact issued
  · rintro a w' ⟨_, ends, elsewhere, rfl⟩
    exact ⟨elsewhere, ends⟩

/-! Failures. -/

/-- One failure more, now, would open the circuit. -/
def Reached (config : Config) (now : Instant) (failures : List Time) : Prop :=
  config.failureThreshold ≤ (recentFailures config now failures).length + 1

/-- The circuit after a failure was recorded over these failures. -/
def Recorded (config : Config) (moves : Moves (World B) Command Reply) (failures : List Time) (state : FamilyState) :
    Prop :=
  ∃ now, Clock moves now ∧
    (Reached config now failures ∧ state.circuitState = .opened ∧ state.processState = .circuitOpen ∨
      ¬ Reached config now failures ∧ state.circuitState ≠ .opened ∧ state.processState ≠ .circuitOpen)

omit [StateCodec B] in
lemma Recorded.coherent {failures : List Time} (recorded : Recorded config moves failures state) :
    state.circuitState = .opened ↔ state.processState = .circuitOpen := by
  obtain ⟨_, _, ⟨_, opened, open_⟩ | ⟨_, closed, other⟩⟩ := recorded
  · simp [opened, open_]
  · simp [closed, other]

variable {code : String}

omit [StateCodec B] in
lemma recordFailureAt_recorded {now : Instant} (clock : Clock moves now)
    (closed : state.circuitState ≠ .opened) (other : state.processState ≠ .circuitOpen) :
    Recorded config moves state.failures (recordFailureAt config now state code) := by
  refine ⟨now, clock, ?_⟩
  unfold recordFailureAt Reached
  dsimp only
  rw [List.length_append, List.length_singleton]
  split
  · exact .inl ⟨‹_›, rfl, rfl⟩
  · exact .inr ⟨‹_›, closed, other⟩

/-- What `recordFailure` leaves alone. -/
@[simp] lemma recordFailureAt_rest {now : Instant} :
    (recordFailureAt config now state code).databaseFamily = state.databaseFamily ∧
      (recordFailureAt config now state code).processID = state.processID ∧
      (recordFailureAt config now state code).desiredState = state.desiredState ∧
      (recordFailureAt config now state code).requestFingerprint = state.requestFingerprint ∧
      (recordFailureAt config now state code).activeSlot = state.activeSlot := by
  unfold recordFailureAt
  dsimp only
  split <;> exact ⟨rfl, rfl, rfl, rfl, rfl⟩

/-- How a call for a family ends that had a process and a state before it. -/
inductive Ending (config : Config) (moves : Moves (World B) Command Reply) (family : String) (failures : List Time)
    (old : Option ManagedProcess) (previous : FamilyState) : Standing → Prop
  | kept {p : ManagedProcess} {state : FamilyState} (process : old.map (·.process) = some p.process)
      (pid : state.processID = previous.processID) (desired : state.desiredState = .running)
      (closed : state.circuitState ≠ .opened) (running : state.processState = .running) :
      Ending config moves family failures old previous ⟨some p, some state⟩
  | cleared {state : FamilyState} (pid : state.processID = 0)
      (coherent : state.circuitState = .opened ↔ state.processState = .circuitOpen) :
      Ending config moves family failures old previous ⟨none, some state⟩
  | started {p : ManagedProcess} {state : FamilyState} (pid : state.processID = p.process.pid)
      (desired : state.desiredState = .running) (closed : state.circuitState ≠ .opened)
      (running : state.processState = .running) : Ending config moves family failures old previous ⟨some p, some state⟩
  /-- The old version is brought back, and a failure is recorded. -/
  | rolledBack {p : ManagedProcess} {state : FamilyState} (had : old.isSome = true)
      (pid : state.processID = p.process.pid) (desired : state.desiredState = .running)
      (recorded : Recorded config moves failures state) (failing : ∃ running, Failing moves running) :
      Ending config moves family failures old previous ⟨some p, some state⟩
  /-- The process still runs, and the state says that there is none. -/
  | stranded {p : ManagedProcess} {state : FamilyState} (had : old = some p) (pid : state.processID = 0)
      (recorded : Recorded config moves failures state) (failing : Fails moves family (some p)) :
      Ending config moves family failures old previous ⟨some p, some state⟩

/-- A state that differs from another in its progress only. -/
def Progress (state progress : FamilyState) : Prop :=
  ∃ processState healthState slots, progress =
    { state with processState := processState, healthState := healthState, slots := slots }

@[simp] lemma processStateForError_ne (e : SupervisorError) : processStateForError e ≠ .circuitOpen := by
  cases e <;> nofun

/-- A state of the family whose circuit is not open. -/
@[mk_iff] structure Fit (family : String) (state : FamilyState) : Prop where
  named : state.databaseFamily = family
  closed : state.circuitState ≠ .opened

@[simp] lemma forall_except {ε α : Type} {p : Except ε α → Prop} :
    (∀ r, p r) ↔ (∀ e, p (.error e)) ∧ ∀ a, p (.ok a) :=
  ⟨fun h => ⟨fun _ => h _, fun _ => h _⟩, fun h r => r.casesOn h.1 h.2⟩

attribute [simp] Sup.get Sup.list Sup.put Sup.running Sup.runningFor Sup.manage Sup.forget Sup.spawn
  Sup.expected Sup.now Sup.lease Sup.download Sup.installInactive Sup.installed Sup.activate Sup.removeInactive
  Sup.removeFamily Sup.recover Sup.startProcess Sup.drainProcess Sup.handshake Sup.applyConfiguration
  Sup.applyTypedConfiguration Sup.activationState Sup.issue perform Reply
  recordFailure finish stopFamily activation setProcess clearProcess advanceObservation applyActiveConfiguration

attribute [local simp] failed Command.applies Except.isOk Except.toBool

section calls

variable {request : ReconcileRequest} {state previous : FamilyState} {failures : List Time}
  {old entry : Option ManagedProcess} {here : Standing} {stored : Option FamilyState}

omit [StateCodec B]

@[simp high] lemma follows_put {α : Type} {k : Except StateError FamilyState → Sup α} {post : α → Standing → Prop} :
    (familyProtocol moves family).Follows here (.call (.put state) k) post ↔ state.databaseFamily = family ∧
      ∀ revision, (familyProtocol moves family).Follows { here with stored := some (saved revision state) }
        (k (.ok (saved revision state))) post := by
  refine and_congr Iff.rfl ⟨?_, ?_⟩
  · exact fun h revision => h _ ⟨revision, rfl⟩
  · rintro h _ ⟨revision, rfl⟩
    exact h revision

@[simp] lemma saved_rest : (saved revision state).processID = state.processID ∧
    (saved revision state).desiredState = state.desiredState ∧
    (saved revision state).circuitState = state.circuitState ∧
    (saved revision state).processState = state.processState := by
  rw [saved, cloneFamily_eq]
  exact ⟨rfl, rfl, rfl, rfl⟩

lemma fail_ends {processState : ProcessState} {cause : SupervisorError}
    (fit : Fit family state) (other : processState ≠ .circuitOpen)
    (strands : ∀ p, here.entry = some p → old = some p ∧ state.failures = failures ∧ Fails moves family (some p)) :
    (familyProtocol moves family).Follows here (fail config state processState code cause)
      fun _ => Ending config moves family failures old previous := by
  obtain ⟨entry, _⟩ := here
  let marked := clearProcess { state with processState := processState, healthState := .unhealthy }
  refine ⟨trivial, fun now clock => follows_put.mpr ⟨recordFailureAt_rest.1.trans fit.named, fun revision => ?_⟩⟩
  have recorded : Recorded config moves marked.failures (recordFailureAt config now marked code) :=
    recordFailureAt_recorded clock fit.closed other
  have pid : (recordFailureAt config now marked code).processID = 0 := recordFailureAt_rest.2.1
  cases entry with
  | none => exact .cleared pid recorded.coherent
  | some p =>
    obtain ⟨had, rfl, failing⟩ := strands p rfl
    exact .stranded had pid recorded failing

/-- However the program ends for the family of the request, it is one of the endings. -/
abbrev Concludes {α : Type} (config : Config) (moves : Moves (World B) Command Reply) (request : ReconcileRequest)
    (failures : List Time) (old : Option ManagedProcess) (previous : FamilyState) (here : Standing) (p : Sup α) : Prop :=
  (familyProtocol moves request.databaseFamily).Follows here p
    fun _ => Ending config moves request.databaseFamily failures old previous

section requests

variable (fit : Fit request.databaseFamily state)

include fit

lemma makeAbsent_ends :
    Concludes config moves request state.failures entry previous ⟨entry, stored⟩ (makeAbsent config request state) := by
  cases entry <;> simp +contextual [makeAbsent, fail_ends, Ending.cleared, fit_iff, fit.named, fit.closed, absentState]

lemma makeStopped_ends :
    Concludes config moves request state.failures entry previous ⟨entry, stored⟩
      (makeStopped config request state) := by
  cases entry <;> simp +contextual [makeStopped, fail_ends, Ending.cleared, fit_iff, fit.named, fit.closed]

/-- A step of the installation fails, or all of them are done; the state differs only in
its progress. -/
lemma install_progress :
    (familyProtocol moves request.databaseFamily).Follows ⟨entry, stored⟩ (install request state) fun r here =>
      here.entry = entry ∧ Progress state r.1 ∧ ∀ e, r.2 = .error e → Fails moves request.databaseFamily entry := by
  simp +contextual [install, Progress, fit.named]

lemma prepareSlot_progress :
    (familyProtocol moves request.databaseFamily).Follows ⟨entry, stored⟩ (prepareSlot request state) fun r here =>
      here.entry = entry ∧ Progress state r.1 ∧ ∀ e, r.2 = .error e → Fails moves request.databaseFamily entry := by
  have progress : Progress state state := ⟨state.processState, state.healthState, state.slots, rfl⟩
  simp +contextual [prepareSlot, install_progress, fit, progress]

lemma installOnly_ends {final : ProcessState} (other : final ≠ .circuitOpen) :
    Concludes config moves request failures old previous ⟨none, stored⟩ (installOnly config request state final) := by
  rw [installOnly, Concludes, follows_bind]
  refine (install_progress fit).mono ?_
  rintro ⟨_, result⟩ ⟨_, _⟩ ⟨rfl, ⟨_, _, _, rfl⟩, _⟩
  cases result <;> simp +contextual [fail_ends, Ending.cleared, fit_iff, fit.named, fit.closed, other]

lemma makeInstalled_ends :
    Concludes config moves request state.failures entry previous ⟨entry, stored⟩
      (makeInstalled config request state) := by
  cases entry <;>
    simp +contextual [makeInstalled, installOnly_ends, fail_ends, Ending.cleared, fit, fit.named, fit.closed]

end requests

section running

lemma rolledBack {p : ManagedProcess} {marked : FamilyState} {now : Instant}
    (clock : Clock moves now) (had : old.isSome = true) (counted : marked.failures = failures)
    (closed : marked.circuitState ≠ .opened) (other : marked.processState ≠ .circuitOpen)
    (pid : marked.processID = p.process.pid) (desired : marked.desiredState = .running)
    (failing : Fails moves family none) : Ending config moves family failures old previous
      ⟨some p, some (saved revision (recordFailureAt config now marked code))⟩ := by
  have recorded : Recorded config moves marked.failures (recordFailureAt config now marked code) :=
    recordFailureAt_recorded clock closed other
  obtain ⟨running, _, fails⟩ := failing
  subst counted
  exact .rolledBack had (recordFailureAt_rest.2.1.trans pid) (recordFailureAt_rest.2.2.1.trans desired) recorded
    ⟨running, fails⟩

variable [Hash] (desired : request.desiredState = some .running) (fit : Fit request.databaseFamily state)
  (fit' : Fit request.databaseFamily previous) {hadOldProcess : Bool} (had : hadOldProcess = true → old.isSome = true)

include desired fit fit' had

lemma rollback_ends {cause : SupervisorError} (failing : Fails moves request.databaseFamily none) :
    Concludes config moves request previous.failures old previous ⟨none, stored⟩
      (rollback config request previous hadOldProcess state cause) := by
  simp +contextual [rollback, fail_ends, rolledBack, fit, fit'.named, fit'.closed, failing, desired, had,
    recordDesired]

lemma launch_ends {installed : InstalledSlot} (wanted : state.desiredState = .running) :
    Concludes config moves request previous.failures old previous ⟨none, stored⟩
      (launch config request state previous hadOldProcess installed) := by
  simp +contextual [launch, rollback_ends, Ending.started, fit', fit_iff, fit.named, fit.closed, desired, wanted, had]

omit desired fit' had [Hash] in
lemma reconfigure_ends {process : ManagedProcess} {installed : InstalledSlot}
    (wanted : state.desiredState = .running) (running : previous.processState = .running) :
    Concludes config moves request failures (some process) previous ⟨some process, stored⟩
      (reconfigure config request state previous process installed) := by
  simp +contextual [reconfigure, Ending.kept, fit.named, fit.closed, wanted, running]

omit had in
lemma makeRunning_ends (wanted : state.desiredState = .running) (pid : state.processID = previous.processID)
    (same : state.processState = previous.processState) (counted : state.failures = previous.failures) :
    Concludes config moves request previous.failures entry previous ⟨entry, some state⟩
      (makeRunning config request state previous) := by
  rw [makeRunning]
  refine .perform rfl fun process found => ?_
  obtain rfl : entry = process := found.symm
  rw [follows_ite, follows_bind]
  refine ⟨?_, fun _ => (prepareSlot_progress fit).mono ?_⟩
  · cases entry <;> simp +contextual [Ending.kept, fit.closed, wanted, pid, same]
  · rintro ⟨_, result⟩ ⟨entry, _⟩ ⟨rfl, ⟨_, _, _, rfl⟩, failing⟩
    cases result <;> cases entry <;>
      simp_all +contextual [fail_ends, launch_ends, reconfigure_ends, fit_iff, fit.named, fit.closed]

end running

variable [Hash]

/-- The failures that count for a request. -/
def startFailures (request : ReconcileRequest) : Option FamilyState → List Time
  | none => []
  | some current => if current.observedOperationRevision < request.operationRevision then [] else current.failures

/-- What is known of the state that an admitted request starts from. -/
lemma startingState_spec {desired : DesiredState} {found : Option FamilyState} {hasProcess : Bool}
    (admitted : found.bind (fun current => refusal request current hasProcess) = none)
    (named : ∀ current, found = some current → current.databaseFamily = request.databaseFamily) :
    (startingState request desired found).databaseFamily = request.databaseFamily ∧
      (startingState request desired found).circuitState ≠ .opened ∧
      (startingState request desired found).failures = startFailures request found ∧
      (startingState request desired found).processID = found.elim 0 (·.processID) ∧
      ∀ current, found = some current → current.circuitState = .opened →
        current.observedOperationRevision < request.operationRevision := by
  rcases found with _ | current
  · refine ⟨rfl, ?_, rfl, rfl, ?_⟩
    · have closed : (startingState request desired none).circuitState = .closed := rfl
      rw [closed]
      decide
    · rintro _ ⟨⟩
  have named := named current rfl
  by_cases newer : current.observedOperationRevision < request.operationRevision
  · have reset : startingState request desired (some current) =
        { current with failures := [], circuitState := .closed } := if_pos newer
    rw [reset]
    refine ⟨named, nofun, (if_pos newer).symm, rfl, ?_⟩
    rintro _ ⟨⟩ _
    exact newer
  · have unchanged : startingState request desired (some current) = current := if_neg newer
    have closed : current.circuitState ≠ .opened := by
      intro opened
      simp only [Option.bind_some, refusal, opened, if_neg newer, if_true] at admitted
      split at admitted
      · cases admitted
      · split at admitted
        · cases admitted
        · cases admitted
    rw [unchanged]
    refine ⟨named, closed, (if_neg newer).symm, rfl, ?_⟩
    rintro _ ⟨⟩ opened
    exact absurd opened closed

/-- A `Start` leaves the family alone, or it is no older than an open circuit and ends as `Ending` says. -/
def Starts (config : Config) (moves : Moves (World B) Command Reply) (request : ReconcileRequest)
    (before after : Standing) : Prop :=
  after = before ∨
    (∀ current, before.stored = some current → current.circuitState = .opened →
        current.observedOperationRevision < request.operationRevision) ∧
      ∃ previous : FamilyState, previous.processID = before.stored.elim 0 (·.processID) ∧
        Ending config moves request.databaseFamily (startFailures request before.stored) before.entry previous after

theorem start_starts {fence : ExecutionFence}
    (named : ∀ current, stored = some current → current.databaseFamily = request.databaseFamily) :
    (familyProtocol moves request.databaseFamily).Follows ⟨entry, stored⟩ (start config request fence)
      fun _ => Starts config moves request ⟨entry, stored⟩ := by
  unfold start
  split
  · rename_i desired _ wanted
    refine .perform rfl fun found same => .perform rfl fun process same' => ?_
    obtain rfl : stored = found := same.symm
    obtain rfl : entry = process := same'.symm
    split
    · exact .inl rfl
    rename_i admitted
    obtain ⟨named', closed', counted, pid, permitted⟩ := @startingState_spec _ _ desired _ _ admitted named
    generalize startingState request desired stored = previous at *
    dsimp only
    split
    · exact .inl rfl
    refine follows_put.mpr ⟨rfl, fun revision => ?_⟩
    have fit : Fit request.databaseFamily previous := ⟨named', closed'⟩
    have ends : ∀ {here}, Ending config moves request.databaseFamily previous.failures entry previous here →
        Starts config moves request ⟨entry, stored⟩ here := by
      rw [counted]
      exact fun ending => .inr ⟨permitted, previous, pid, ending⟩
    cases desired with
    | absent => exact .mono (makeAbsent_ends ⟨rfl, closed'⟩) fun _ _ => ends
    | stopped => exact .mono (makeStopped_ends ⟨rfl, closed'⟩) fun _ _ => ends
    | installed => exact .mono (makeInstalled_ends ⟨rfl, closed'⟩) fun _ _ => ends
    | running => exact .mono (makeRunning_ends wanted ⟨rfl, closed'⟩ fit rfl rfl rfl rfl) fun _ _ => ends
  · exact .inl rfl

end calls

end effects

end DBPilot.Supervisor
