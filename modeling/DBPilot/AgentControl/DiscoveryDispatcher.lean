import DBPilot.AgentControl.Lanes

/-!
# The dispatcher of discovery reports

`DiscoveryDispatcher` of `internal/agentcontrol/discovery_observer.go`. Its waiter
starts no worker, so a delivery that expires in front of a pending report leaves that
report on a lane without a worker. As long as this does not happen, every accepted report
reaches the sink or gives way to a newer one.
-/

namespace DBPilot.AgentControl

open FiniteMaps Runs

/-- The last revision of each Agent, and the Agents in the order in which they came. -/
structure LastRevisions (δ : Type) where
  last : FiniteMap String (Nat × δ)
  lastOrder : List String

section discovery

variable {δ : Type} [DecidableEq δ]

def admitDiscovery (table : LastRevisions δ) (agent : String) (report : Report δ) : Admission :=
  match table.last.get agent with
  | none => .admitted
  | some (revision, digest) =>
    if report.revision < revision then .invalid
    else if report.revision = revision ∧ report.digest ≠ digest then .invalid
    else .admitted

omit [DecidableEq δ] in
/-- The oldest Agents are forgotten until no more than the maximum are left. -/
def evict (maximum : Nat) : List String → FiniteMap String (Nat × δ) → LastRevisions δ
  | [], last => ⟨last, []⟩
  | oldest :: rest, last =>
    if rest.length + 1 > maximum then evict maximum rest (last.erase oldest) else ⟨last, oldest :: rest⟩

omit [DecidableEq δ] in
def rememberDiscovery (maximum : Nat) (table : LastRevisions δ) (agent : String) (report : Report δ) : LastRevisions δ :=
  match table.last.get agent with
  | none => evict maximum (table.lastOrder ++ [agent]) (table.last.set agent (report.revision, report.digest))
  | some (revision, _) =>
    if revision ≥ report.revision then table
    else evict maximum table.lastOrder (table.last.set agent (report.revision, report.digest))

def discoveryRules (δ : Type) [DecidableEq δ] (maximum : Nat) : Rules δ (LastRevisions δ) where
  maximumPendingAgents := maximum
  admission := admitDiscovery
  remember := rememberDiscovery maximum
  closesQuarantined := true
  dropsRefused := true
  restarts := false

def newDiscoveryDispatcher (δ : Type) : Dispatcher δ (LastRevisions δ) := ⟨.empty, ⟨.empty, []⟩⟩

lemma admitDiscovery_ne_known {table : LastRevisions δ} {agent : String} {report : Report δ} :
    admitDiscovery table agent report ≠ .known := by
  unfold admitDiscovery
  split
  · nofun
  · split
    · nofun
    · split <;> nofun

theorem discovery_reports_held {maximum : Nat} {events : List (Event δ)} {d : Dispatcher δ (LastRevisions δ)}
    (run : Run (fun a event b => a.step (discoveryRules δ maximum) event = some b ∧
      Timely (discoveryRules δ maximum) a event) (newDiscoveryDispatcher δ) events d) (agent : String) :
    (∀ report ∈ (d.slot agent).accepted, (d.slot agent).Holds (discoveryRules δ maximum) report) ∧
      ∀ lane, (d.slot agent).lane = some lane → lane.quarantined = false →
        (d.slot agent).goroutines.countP Phase.works = 1 := by
  have start : ∀ agent, ((newDiscoveryDispatcher δ).slot agent).Sound (discoveryRules δ maximum) :=
    fun _ => ⟨.absent, nofun, nofun⟩
  have sound := run.invariant (fun d => ∀ agent, (d.slot agent).Sound (discoveryRules δ maximum))
    (fun step sound => Dispatcher.sound_step (fun _ _ _ => admitDiscovery_ne_known) (fun open_ => by cases open_) step.1 step.2 sound) start
  refine ⟨fun report accepted => (sound agent).holds accepted, ?_⟩
  intro lane found calm
  have attended := (sound agent).attended
  rw [found] at attended
  generalize (d.slot agent).goroutines = phases at attended
  obtain ⟨⟩ | ⟨works, _⟩ := attended
  rw [calm] at works
  simp [works]

end discovery

def firstReport : Report Nat := ⟨1, 1, by decide⟩

def secondReport : Report Nat := ⟨2, 2, by decide⟩

/-- The first report is with the sink, and the second is submitted meanwhile. -/
def twoReports : List (Event Nat) :=
  [.submit "a" firstReport, .turn "a" 0 .failed, .turn "a" 0 .failed, .submit "a" secondReport]

/-- The first delivery expires, and its call ends later. -/
def expiry : List (Event Nat) := [.turn "a" 0 .expired, .turn "a" 0 .failed, .turn "a" 0 .failed]

theorem discovery_reports_held_two :
    ∃ d, play (Dispatcher.step (discoveryRules Nat 8)) twoReports (newDiscoveryDispatcher Nat) = some d ∧
      (d.slot "a").Holds (discoveryRules Nat 8) secondReport := by
  refine ⟨_, rfl, (@discovery_reports_held Nat _ 8 twoReports _ ?_ "a").1 _ List.mem_cons_self⟩
  exact .cons ⟨rfl, trivial⟩ (.cons ⟨rfl, trivial⟩ (.cons ⟨rfl, trivial⟩ (.cons ⟨rfl, trivial⟩ (.nil _))))

theorem discovery_report_stranded :
    ∃ d, Run (fun a event b => a.step (discoveryRules Nat 8) event = some b) (newDiscoveryDispatcher Nat)
        (twoReports ++ expiry) d ∧
      secondReport ∈ (d.slot "a").accepted ∧ ¬ (d.slot "a").Holds (discoveryRules Nat 8) secondReport ∧
      (d.slot "a").lane.isSome = true ∧ (d.slot "a").goroutines = [] := by
  refine ⟨_, play_run rfl, List.mem_cons_self, ?_, rfl, rfl⟩
  rintro (handed | ⟨newer, member, later⟩ | ⟨_, phase, _, _, there, _⟩)
  · revert handed
    decide
  · have both : newer ∈ [secondReport, firstReport] := member
    have none : ∀ newer ∈ [secondReport, firstReport], ¬ secondReport.revision < newer.revision := by decide
    exact none newer both later
  · cases there

end DBPilot.AgentControl
