import DBPilot.Inspection.Schedule
import DBPilot.Plugins.State

/-!
# Leases of metric templates

`LeaseService` of `internal/metrictemplate/lease.go`, with the events that
`PostgresLeaseAuditRecorder` stores. Calls run side by side: a call holds the lock up
to the point where it returns or goes on to record its event, and the recorder answers
later. A call is numbered by its place in `calls`. Nil and cancelled contexts are left
out, and a SHA-256 sum that is only compared stands for what it is taken of.
-/

namespace DBPilot.MetricTemplate

open FiniteMaps Plugins Runs
open Inspection (Moment isUTC second)
open Jobs (Instant Scope)
open Wire (Bytes)

structure AuthenticatedAgent where
  (agentID sessionID : String)
  deriving DecidableEq

structure LeaseRequest where
  nonce : Bytes
  (commandID assignmentID instanceID : String)
  (configurationRevision operationRevision : Nat)
  (templateID revisionID queryDigest : String)
  deriving DecidableEq

/-- The mappings in the JSON text that they are stored in. -/
structure LeaseDefinition where
  revision : Nat
  statementBytes : Bytes
  (collectionIntervalSeconds timeoutSeconds maxRows maxColumns cardinalityLimit : Int)
  (valueMappings labelMappings : List String)

structure LeaseAuthorization where
  scope : Scope
  (hostID agentID assignmentID instanceID : String)
  (configurationRevision operationRevision : Nat)
  (templateID revisionID queryDigest : String)
  definition : LeaseDefinition
  trial : Bool
  authorizedAt : Moment

inductive LeaseResult where
  | issued
  | rejected
  deriving DecidableEq

structure LeaseAudit where
  scope : Scope
  (agentID hostID : String)
  request : LeaseRequest
  trial : Bool
  result : LeaseResult
  occurredAt : Instant
  deriving DecidableEq

structure MetricTemplateLease where
  id : String
  request : LeaseRequest
  expiresAt : Instant
  validFor : Int
  trial : Bool
  definition : LeaseDefinition

def validLeaseAgent (value : AuthenticatedAgent) : Bool :=
  resourcePattern value.agentID && resourcePattern value.sessionID

def validTemplateLeaseRequest (value : LeaseRequest) : Bool :=
  value.nonce.length = 32 && resourcePattern value.commandID && resourcePattern value.assignmentID &&
    resourcePattern value.instanceID && 0 < value.configurationRevision && 0 < value.operationRevision &&
    identifierPattern value.templateID && resourcePattern value.revisionID && hexDigest value.queryDigest

def LeaseDefinition.valid (value : LeaseDefinition) : Bool :=
  0 < value.revision && 0 < value.statementBytes.length && value.statementBytes.length ≤ 32768 &&
    10 ≤ value.collectionIntervalSeconds && value.collectionIntervalSeconds ≤ 86400 && 1 ≤ value.timeoutSeconds &&
    value.timeoutSeconds ≤ 30 && 1 ≤ value.maxRows && value.maxRows ≤ 100 && 1 ≤ value.maxColumns &&
    value.maxColumns ≤ 32 && 1 ≤ value.cardinalityLimit && value.cardinalityLimit ≤ 10000 &&
    0 < value.valueMappings.length && value.valueMappings.length ≤ 32 && value.labelMappings.length ≤ 16

def validLeaseAuthorization (value : LeaseAuthorization) (agent : AuthenticatedAgent) (request : LeaseRequest) : Bool :=
  value.scope.validate && resourcePattern value.hostID && value.agentID = agent.agentID &&
    value.assignmentID = request.assignmentID && value.instanceID = request.instanceID &&
    value.configurationRevision = request.configurationRevision &&
    value.operationRevision = request.operationRevision && value.templateID = request.templateID &&
    value.revisionID = request.revisionID && value.queryDigest = request.queryDigest && isUTC value.authorizedAt &&
    value.definition.valid

def LeaseAudit.validate (value : LeaseAudit) : Bool :=
  value.scope.validate && resourcePattern value.agentID && resourcePattern value.hostID &&
    resourcePattern value.request.assignmentID && resourcePattern value.request.instanceID &&
    resourcePattern value.request.commandID && identifierPattern value.request.templateID &&
    resourcePattern value.request.revisionID && hexDigest value.request.queryDigest &&
    value.request.configurationRevision ≠ 0 && value.request.operationRevision ≠ 0 && isUTC ⟨value.occurredAt, true⟩

/-- The key that stored events are deduplicated by. -/
def LeaseAudit.dedupe (value : LeaseAudit) : Scope × String × String × String × LeaseResult :=
  (value.scope, value.agentID, value.request.commandID, value.request.revisionID, value.result)

/-- Everything but the nonce. -/
def templateLeaseFingerprint (agent : AuthenticatedAgent) (request : LeaseRequest) : AuthenticatedAgent × LeaseRequest :=
  (agent, { request with nonce := [] })

structure LiveTemplateLease where
  fingerprint : AuthenticatedAgent × LeaseRequest
  lease : MetricTemplateLease
  /-- The call that made it. -/
  call : Nat

inductive Phase where
  | recording
  | returned
  | refused
  deriving DecidableEq

/-- A call with an event to record, `issued` where it has a lease. -/
structure Call where
  agent : AuthenticatedAgent
  request : LeaseRequest
  authorization : LeaseAuthorization
  now : Instant
  lease : Option MetricTemplateLease
  phase : Phase := .recording

def Call.audit (call : Call) : LeaseAudit where
  scope := call.authorization.scope
  agentID := call.agent.agentID
  hostID := call.authorization.hostID
  request := call.request
  trial := call.authorization.trial
  result := if call.lease.isSome then .issued else .rejected
  occurredAt := call.now

def leaseKey (agent : AuthenticatedAgent) (request : LeaseRequest) : String × Bytes := (agent.sessionID, request.nonce)

/-- A lease given to a caller, and the events stored by then. -/
structure Returned where
  agent : AuthenticatedAgent
  request : LeaseRequest
  lease : MetricTemplateLease
  events : List LeaseAudit

structure State where
  live : FiniteMap (String × Bytes) LiveTemplateLease := .empty
  closed : Bool := false
  calls : List Call := []
  events : List LeaseAudit := []
  returned : List Returned := []

structure LeaseService where
  ttl : Int
  maximum : Nat
  definitionDigest : Bytes → String

/-- The answer of the recorder; an event may be stored although the answer is an error. -/
inductive Recording where
  | done
  | lost
  | failed
  deriving DecidableEq

inductive Event where
  /-- With what the authorizer returned and whether it was no error, the clock and the
  random identity. -/
  | issue (agent : AuthenticatedAgent) (request : LeaseRequest) (authorization : LeaseAuthorization) (authorized : Bool)
      (now : Instant) (id : Option String)
  | record (call : Nat) (answer : Recording)
  | expire (call : Nat)
  | close

/-- `Issue` up to the return or the recorder. -/
def LeaseService.issue (service : LeaseService) (s : State) (agent : AuthenticatedAgent) (request : LeaseRequest)
    (authorization : LeaseAuthorization) (authorized : Bool) (now : Instant) (id : Option String) : State :=
  let rejected : State := { s with calls := s.calls ++ [{ agent, request, authorization, now, lease := none }] }
  if !validLeaseAgent agent || !validTemplateLeaseRequest request then s
  else if !authorized || !validLeaseAuthorization authorization agent request ||
      service.definitionDigest authorization.definition.statementBytes ≠ request.queryDigest then rejected
  else if s.closed then s
  else match s.live.get (leaseKey agent request) with
    | some existing =>
      if existing.fingerprint ≠ templateLeaseFingerprint agent request || existing.lease.expiresAt ≤ now then rejected
      else { s with returned := ⟨agent, request, existing.lease, s.events⟩ :: s.returned }
    | none =>
      if service.maximum ≤ s.live.entries.length then rejected
      else match id with
        | none => s
        | some id =>
          let lease : MetricTemplateLease := ⟨id, request, now + service.ttl, service.ttl, authorization.trial,
            authorization.definition⟩
          { s with
            live := s.live.set (leaseKey agent request)
              ⟨templateLeaseFingerprint agent request, lease, s.calls.length⟩
            calls := s.calls ++ [{ agent, request, authorization, now, lease := some lease }] }

/-- The live lease of a call goes, unless another has taken its place. -/
def State.drop (s : State) (n : Nat) (call : Call) : State :=
  if (s.live.get (leaseKey call.agent call.request)).any (·.call = n) then
    { s with live := s.live.erase (leaseKey call.agent call.request) }
  else s

def store (events : List LeaseAudit) (audit : LeaseAudit) : List LeaseAudit :=
  if events.any (·.dedupe = audit.dedupe) then events else audit :: events

/-- The rest of a call: the recorder's answer, and the return. -/
def State.record (s : State) (n : Nat) (call : Call) (answer : Recording) : State :=
  let events := if call.audit.validate && answer ≠ .failed then store s.events call.audit else s.events
  let ends (phase : Phase) : State := { s with events, calls := s.calls.set n { call with phase } }
  match call.lease with
  | none => ends .refused
  | some lease =>
    if call.audit.validate && answer = .done then
      { ends .returned with returned := ⟨call.agent, call.request, lease, events⟩ :: s.returned }
    else (ends .refused).drop n call

def LeaseService.next (service : LeaseService) (s : State) : Event → Option State
  | .issue agent request authorization authorized now id =>
    some (service.issue s agent request authorization authorized now id)
  | .record n answer => (s.calls[n]?.filter (·.phase = .recording)).map fun call => s.record n call answer
  -- The timer of a call is set as it returns.
  | .expire n => (s.calls[n]?.filter (·.phase = .returned)).map fun call => s.drop n call
  | .close => some { s with closed := true, live := .empty }

/-- An event that names the caller and its request. -/
def Covered (events : List LeaseAudit) (agent : AuthenticatedAgent) (request : LeaseRequest) : Prop :=
  ∃ event ∈ events, event.result = .issued ∧ event.agentID = agent.agentID ∧
    event.request.commandID = request.commandID ∧ event.request.instanceID = request.instanceID ∧
    event.request.revisionID = request.revisionID

instance {events : List LeaseAudit} {agent : AuthenticatedAgent} {request : LeaseRequest} :
    Decidable (Covered events agent request) :=
  inferInstanceAs (Decidable (∃ event ∈ events, _))

/-- A replay finds a lease whose event is stored, and an event to be recorded meets none
that names another instance under the same key. -/
def Careful (s : State) : Event → Bool
  | .issue agent request _ _ _ _ => (s.live.get (leaseKey agent request)).all fun existing =>
      existing.fingerprint ≠ templateLeaseFingerprint agent request ||
        s.calls[existing.call]?.all (·.phase = .returned)
  | .record n _ => s.calls[n]?.all fun call => s.events.all fun event =>
      event.dedupe ≠ call.audit.dedupe || event.request.instanceID = call.request.instanceID
  | _ => true

structure State.Sound (s : State) : Prop where
  live : ∀ key existing, s.live.get key = some existing → ∃ call, s.calls[existing.call]? = some call ∧
    existing.fingerprint = templateLeaseFingerprint call.agent call.request
  calls : ∀ call ∈ s.calls, call.phase = .returned → Covered s.events call.agent call.request
  returned : ∀ given ∈ s.returned, Covered given.events given.agent given.request

section sound

variable {service : LeaseService} {s : State} {events events' : List LeaseAudit} {agent : AuthenticatedAgent}
  {request : LeaseRequest} {n : Nat} {call : Call}

lemma Covered.mono (covered : Covered events agent request) (grows : events ⊆ events') : Covered events' agent request := by
  obtain ⟨event, member, names⟩ := covered
  exact ⟨event, grows member, names⟩

/-- Calls with one fingerprint are covered together. -/
lemma Covered.replay {agent' : AuthenticatedAgent} {request' : LeaseRequest} (covered : Covered events agent request)
    (same : templateLeaseFingerprint agent request = templateLeaseFingerprint agent' request') :
    Covered events agent' request' := by
  grind [Covered, templateLeaseFingerprint]

lemma subset_store (events : List LeaseAudit) (audit : LeaseAudit) : events ⊆ store events audit := by
  grind [store]

/-- An event that is not stored has one in its place, which names the same instance. -/
lemma covered_store (issued : call.lease.isSome = true)
    (shared : ∀ event ∈ events, event.dedupe = call.audit.dedupe → event.request.instanceID = call.request.instanceID) :
    Covered (store events call.audit) call.agent call.request := by
  grind [Covered, store, LeaseAudit.dedupe, Call.audit]

section

variable (sound : s.Sound)
include sound

lemma State.Sound.drop : (s.drop n call).Sound := by
  unfold State.drop
  split
  · refine ⟨?_, sound.calls, sound.returned⟩
    intro key existing found
    by_cases here : key = leaseKey call.agent call.request
    · rw [here, FiniteMap.get_erase_self] at found
      cases found
    · rw [FiniteMap.get_erase_of_ne here] at found
      exact sound.live key existing found
  · exact sound

/-- One more call that has an event to record. -/
lemma State.Sound.push (call : Call) (recording : call.phase = .recording) :
    State.Sound { s with calls := s.calls ++ [call] } := by
  refine ⟨?_, ?_, sound.returned⟩
  · intro key existing found
    have made := sound.live key existing found
    grind
  · have covered := sound.calls
    grind

lemma State.Sound.issue {authorization : LeaseAuthorization} {authorized : Bool} {now : Instant} {id : Option String}
    (careful : Careful s (.issue agent request authorization authorized now id) = true) :
    (service.issue s agent request authorization authorized now id).Sound := by
  unfold LeaseService.issue
  dsimp only
  split
  · exact sound
  split
  · exact sound.push _ rfl
  split
  · exact sound
  split
  · rename_i existing found
    split
    · exact sound.push _ rfl
    · rename_i same
      refine ⟨sound.live, sound.calls, List.forall_mem_cons.mpr ⟨?_, sound.returned⟩⟩
      obtain ⟨maker, there, made⟩ := sound.live _ _ found
      have covered := sound.calls maker (List.mem_of_getElem? there)
      grind [Careful, Covered.replay]
  · split
    · exact sound.push _ rfl
    split
    · exact sound
    · rename_i _ id
      have pushed := sound.push { agent, request, authorization, now, lease := some ⟨id, request, now + service.ttl,
        service.ttl, authorization.trial, authorization.definition⟩ } rfl
      refine ⟨?_, pushed.calls, pushed.returned⟩
      intro key existing found
      by_cases here : key = leaseKey agent request
      · rw [here, FiniteMap.get_set_self] at found
        cases found
        exact ⟨_, List.getElem?_concat_length, rfl⟩
      · rw [FiniteMap.get_set_of_ne here] at found
        exact pushed.live key existing found

lemma State.Sound.ends {phase : Phase} (found : s.calls[n]? = some call) (grows : s.events ⊆ events)
    (covered : phase = .returned → Covered events call.agent call.request) :
    State.Sound { s with events, calls := s.calls.set n { call with phase } } := by
  refine ⟨?_, ?_, sound.returned⟩
  · intro key existing live
    have made := sound.live key existing live
    grind
  · intro other member returned
    have before := sound.calls other
    grind [Covered.mono, List.mem_or_eq_of_mem_set]

lemma State.Sound.record {answer : Recording} (found : s.calls[n]? = some call)
    (careful : Careful s (.record n answer) = true) : (s.record n call answer).Sound := by
  have grows : s.events ⊆ if call.audit.validate && answer ≠ .failed then store s.events call.audit else s.events := by
    split
    · exact subset_store _ _
    · exact List.Subset.refl _
  unfold State.record
  dsimp only
  split
  · exact sound.ends found grows nofun
  · rename_i lease issued
    split
    · rename_i done
      simp only [Bool.and_eq_true, decide_eq_true_eq] at done
      have covered : Covered (store s.events call.audit) call.agent call.request :=
        covered_store (by rw [issued]; rfl) (by simpa [Careful, found, imp_iff_not_or] using careful)
      simp only [done, Bool.true_and, ne_eq, reduceCtorEq, not_false_eq_true, decide_true, if_true]
      have ended := sound.ends found (subset_store _ _) fun (_ : Phase.returned = .returned) => covered
      exact ⟨ended.live, ended.calls, List.forall_mem_cons.mpr ⟨covered, sound.returned⟩⟩
    · have ended := sound.ends found grows fun (refused : Phase.refused = .returned) => nomatch refused
      exact ended.drop

end

theorem leases_audited {es : List Event}
    (run : Run (fun a e b => service.next a e = some b ∧ Careful a e = true) {} es s) :
    ∀ given ∈ s.returned, Covered given.events given.agent given.request := by
  have start : State.Sound {} := ⟨fun _ _ found => (by cases found), fun _ member => absurd member List.not_mem_nil,
    fun _ member => absurd member List.not_mem_nil⟩
  have sound : s.Sound := by
    refine run.invariant State.Sound ?_ start
    rintro a e b ⟨step, careful⟩ sound
    cases e with
    | issue => exact Option.some.inj step ▸ sound.issue careful
    | record =>
      obtain ⟨call, found, rfl⟩ := Option.map_eq_some_iff.mp step
      exact sound.record (Option.filter_eq_some_iff.mp found).1 careful
    | expire n =>
      obtain ⟨call, _, rfl⟩ := Option.map_eq_some_iff.mp step
      exact sound.drop
    | close =>
      obtain rfl := Option.some.inj step
      exact ⟨fun _ _ found => (by cases found), sound.calls, sound.returned⟩
  exact sound.returned

end sound

def sampleDigest : String := "e004ebd5b5532a4b85984a62f8ad48a81aa3460c1ca07701f386135d72cdecf5"

def sampleService : LeaseService := ⟨30 * second, 4096, fun _ => sampleDigest⟩

/-- The request for an instance under a nonce of its own, and the clock reads one second. -/
def sampleIssue (instanceID : String) (nonce : UInt8) : Event :=
  .issue ⟨"agent", "session"⟩
    ⟨List.replicate 32 nonce, "command", "assignment", instanceID, 1, 1, "template", "revision", sampleDigest⟩
    ⟨⟨"tenant", "project"⟩, "host", "agent", "assignment", instanceID, 1, 1, "template", "revision", sampleDigest,
      ⟨1, Wire.utf8 "SELECT 1", 60, 5, 1, 1, 1, ["1"], []⟩, false, ⟨second, true⟩⟩ true second (some "lease")

def replayed : List Event := [sampleIssue "first" 0, .record 0 .done, sampleIssue "first" 0]

theorem leases_audited_replayed : ∃ s, Run (fun a e b => sampleService.next a e = some b ∧ Careful a e = true) {} replayed s ∧
    s.returned.length = 2 ∧ ∀ given ∈ s.returned, Covered given.events given.agent given.request := by
  have played : (play (fun s e => if Careful s e then sampleService.next s e else none) replayed {}).any
      (·.returned.length = 2) = true := by decide +kernel
  obtain ⟨s, played, two⟩ := (Option.any_eq_true _ _).mp played
  have run := (play_run played).mono fun step => (Option.ite_none_right_eq_some.mp step).symm
  exact ⟨s, run, of_decide_eq_true two, leases_audited run⟩

/-- Run the events: a lease was returned that no issued event covers. -/
def Unaudited (es : List Event) : Prop :=
  ∃ s, Run (fun a e b => sampleService.next a e = some b) {} es s ∧
    ∃ given ∈ s.returned, ¬ Covered given.events given.agent given.request

/-- A replay before the event is recorded; a second instance of the same command. -/
theorem lease_unaudited : Unaudited [sampleIssue "first" 0, sampleIssue "first" 0] ∧
    Unaudited [sampleIssue "first" 0, .record 0 .done, sampleIssue "second" 1, .record 1 .done] :=
  ⟨⟨_, .cons rfl (.single rfl), _, List.mem_cons_self, by decide +kernel⟩,
    ⟨_, .cons rfl (.cons rfl (.cons rfl (.single rfl))), _, List.mem_cons_self, by decide +kernel⟩⟩

end DBPilot.MetricTemplate
