import DBPilot.Lib.Runs
import Mathlib.Logic.Function.Basic

/-!
# Replies on the control stream

The streams of one Agent. A handler runs on the goroutine of its stream, but it knows
the Agent's name only: whenever it needs the session it takes the registered one. A
step is one section under the registry's lock, with the work up to the next; a session
is terminated there, and its context is cancelled some time later.
-/

namespace DBPilot.AgentReplies

open Runs

/-- The messages that are answered. -/
inductive Request where
  | commandPrepared
  | commandResult
  | pluginArtifactLease
  | credentialLease
  | metricTemplateLease
  deriving DecidableEq

/-- What `Supports` is asked for. -/
def Request.required : Request → Option (List String)
  | .commandPrepared | .commandResult => none
  | .pluginArtifactLease => some ["plugin.reconcile.v1", "plugin_reconcile.instance_descriptors.v1"]
  | .credentialLease =>
    some ["plugin.reconcile.v1", "plugin_reconcile.instance_descriptors.v1", "credential_lease.v1"]
  | .metricTemplateLease => some ["metric_template_lease.v1"]

/-- The lease is issued to a session. -/
def Request.named : Request → Bool
  | .credentialLease | .metricTemplateLease => true
  | _ => false

/-- Where a `Connect` call stands. -/
inductive Stage where
  | idle
  | supporting (request : Request)
  | naming (request : Request)
  | working (request : Request)
  | replying (request : Request)
  | closing
  | returned

def Stage.busy : Stage → Bool
  | .idle | .closing | .returned => false
  | _ => true

/-- A reply, with the session whose message it answers. -/
structure Reply where
  origin : Nat
  request : Request
  deriving DecidableEq

structure Session where
  number : Nat
  capabilities : List String
  /-- The channel; none is a message that is no reply. -/
  send : List (Option Reply) := []

structure Registry where
  queueCapacity : Nat
  sessionSequence : Nat := 0
  session : Option Session := none
  stages : Nat → Stage := fun _ => .returned
  /-- The replies, each with the session on whose stream it was sent. -/
  sent : List (Nat × Reply) := []
  /-- The sessions that asked for a lease, each with the one that `Issue` was given. -/
  issued : List (Nat × Nat) := []

/-- What an observer or an issuer returns. -/
inductive Answer where
  | reply
  | nothing
  | error

inductive Event where
  | register (capabilities : List String)
  | terminate
  | dispatch
  | receive (n : Nat) (request : Request)
  | look (n : Nat)
  | answer (n : Nat) (answer : Answer)
  | enqueue (n : Nat)
  | send (delivered : Bool)
  | close (n : Nat)
  | unregister (n : Nat)

namespace Registry

def goTo (r : Registry) (n : Nat) (stage : Stage) : Registry :=
  { r with stages := Function.update r.stages n stage }

def supports (r : Registry) (required : List String) : Bool :=
  r.session.any fun current => required.all (current.capabilities.contains ·)

def push (r : Registry) (message : Option Reply) : Option Registry :=
  match r.session with
  | none => none
  | some current =>
    if current.send.length < r.queueCapacity then
      some { r with session := some { current with send := current.send ++ [message] } }
    else none

def step (r : Registry) : Event → Option Registry
  | .register capabilities =>
    if r.session.isSome then none
    else some { r.goTo (r.sessionSequence + 1) .idle with
      sessionSequence := r.sessionSequence + 1
      session := some { number := r.sessionSequence + 1, capabilities } }
  | .terminate => some { r with session := none }
  | .dispatch => r.push none
  | .receive n request =>
    match r.stages n with
    | .idle => some (r.goTo n (if request.required.isSome then .supporting request else .working request))
    | _ => none
  | .look n =>
    match r.stages n with
    | .supporting request =>
      if r.supports (request.required.getD []) then
        some (r.goTo n (if request.named then .naming request else .working request))
      else some (r.goTo n .closing)
    | .naming request =>
      match r.session with
      | none => some (r.goTo n .closing)
      | some current => some { r.goTo n (.working request) with issued := (n, current.number) :: r.issued }
    | _ => none
  | .answer n answer =>
    match r.stages n, answer with
    | .working request, .reply => some (r.goTo n (.replying request))
    | .working _, .error => some (r.goTo n .closing)
    | .working .commandPrepared, .nothing => some (r.goTo n .idle)
    | _, _ => none
  | .enqueue n =>
    match r.stages n with
    | .replying request =>
      match r.push (some ⟨n, request⟩) with
      | some r' => some (r'.goTo n .idle)
      | none => some (r.goTo n .closing)
    | _ => none
  | .send delivered =>
    match r.session with
    | none => none
    | some current =>
      match r.stages current.number, current.send with
      | .idle, message :: rest =>
        if delivered then some { r with
          session := some { current with send := rest }
          sent := (message.map fun reply => (current.number, reply)).toList ++ r.sent }
        else some ({ r with session := some { current with send := rest } }.goTo current.number .closing)
      | _, _ => none
  | .close n =>
    match r.stages n with
    | .idle => some (r.goTo n .closing)
    | _ => none
  | .unregister n =>
    match r.stages n with
    | .closing => some { r.goTo n .returned with session := r.session.filter (·.number ≠ n) }
    | _ => none

def Step (r : Registry) (event : Event) (r' : Registry) : Prop := r.step event = some r'

/-- A session is registered while no handler runs, and a stream whose session was replaced takes
up no other message. -/
def Orderly (r : Registry) : Event → Prop
  | .register _ => ∀ n, (r.stages n).busy = false
  | .receive n _ => ∀ current ∈ r.session, current.number = n
  | _ => True

def OrderlyStep (r : Registry) (event : Event) (r' : Registry) : Prop := r.Orderly event ∧ r.Step event r'

structure Sound (r : Registry) : Prop where
  served : ∀ n, (r.stages n).busy = true → ∀ current ∈ r.session, current.number = n
  queued : ∀ current ∈ r.session, ∀ reply, some reply ∈ current.send → reply.origin = current.number
  sent : ∀ entry ∈ r.sent, entry.2.origin = entry.1
  issued : ∀ entry ∈ r.issued, entry.2 = entry.1

variable {r r' : Registry} {event : Event} {events : List Event} {n : Nat} {stage : Stage}

section

variable (sound : r.Sound)
include sound

lemma Sound.goTo (own : stage.busy = true → ∀ current ∈ r.session, current.number = n) : (r.goTo n stage).Sound := by
  refine ⟨?_, sound.queued, sound.sent, sound.issued⟩
  intro m busy
  simp only [Registry.goTo, Function.update_apply] at busy
  split at busy
  · rename_i same
    rw [same]
    exact own busy
  · exact sound.served m busy

lemma Sound.push {message : Option Reply} (pushed : r.push message = some r')
    (own : ∀ reply ∈ message, ∀ current ∈ r.session, reply.origin = current.number) : r'.Sound := by
  unfold Registry.push at pushed
  split at pushed
  · cases pushed
  rename_i current here
  split at pushed
  · cases pushed
    refine ⟨?_, ?_, sound.sent, sound.issued⟩
    · rintro m busy _ ⟨⟩
      exact sound.served m busy current here
    · rintro _ ⟨⟩ reply listed
      rcases List.mem_append.mp listed with old | new
      · exact sound.queued current here reply old
      · exact own reply (List.mem_singleton.mp new).symm current here
  · cases pushed

lemma Sound.step (moves : r.OrderlyStep event r') : r'.Sound := by
  obtain ⟨orderly, step⟩ := moves
  unfold Step Registry.step at step
  cases event with
  | register capabilities =>
    dsimp only at step
    split at step <;> cases step
    refine ⟨?_, by rintro _ ⟨⟩; nofun, sound.sent, sound.issued⟩
    intro m busy
    simp only [Registry.goTo, Function.update_apply] at busy
    split at busy
    · cases busy
    · rw [orderly m] at busy
      cases busy
  | terminate =>
    cases step
    exact ⟨fun _ _ => nofun, nofun, sound.sent, sound.issued⟩
  | dispatch => exact sound.push step nofun
  | receive n request =>
    dsimp only at step
    split at step <;> cases step
    exact sound.goTo fun _ => orderly
  | look n =>
    dsimp only at step
    split at step
    · rename_i here
      have own := sound.served n (by rw [here]; rfl)
      split at step <;> cases step
      · exact sound.goTo fun _ => own
      · exact sound.goTo nofun
    · rename_i here
      have own := sound.served n (by rw [here]; rfl)
      split at step <;> cases step
      · exact sound.goTo nofun
      · rename_i current registered
        refine ⟨(sound.goTo fun _ => own).served, sound.queued, sound.sent, ?_⟩
        exact List.forall_mem_cons.mpr ⟨own current registered, sound.issued⟩
    · cases step
  | answer n answer =>
    dsimp only at step
    split at step <;> cases step
    · rename_i here
      exact sound.goTo fun _ => sound.served n (by rw [here]; rfl)
    · exact sound.goTo nofun
    · exact sound.goTo nofun
  | enqueue n =>
    dsimp only at step
    split at step
    · rename_i here
      have own := sound.served n (by rw [here]; rfl)
      split at step <;> cases step
      · rename_i pushed
        refine (sound.push pushed ?_).goTo nofun
        rintro _ ⟨⟩ current registered
        exact (own current registered).symm
      · exact sound.goTo nofun
    · cases step
  | send delivered =>
    dsimp only at step
    split at step
    · cases step
    rename_i current here
    split at step
    · rename_i message rest idle queue
      have queued := sound.queued current here
      rw [queue] at queued
      have taken : { r with session := some { current with send := rest } }.Sound := by
        refine ⟨?_, ?_, sound.sent, sound.issued⟩
        · rintro m busy _ ⟨⟩
          exact sound.served m busy current here
        · rintro _ ⟨⟩ reply listed
          exact queued reply (List.mem_cons_of_mem _ listed)
      split at step <;> cases step
      · refine ⟨taken.served, taken.queued, List.forall_mem_append.mpr ⟨?_, sound.sent⟩, sound.issued⟩
        cases message with
        | none => nofun
        | some reply => exact List.forall_mem_singleton.mpr (queued reply List.mem_cons_self)
      · exact taken.goTo nofun
    · cases step
  | close n =>
    dsimp only at step
    split at step <;> cases step
    exact sound.goTo nofun
  | unregister n =>
    dsimp only at step
    split at step <;> cases step
    have moved : (r.goTo n .returned).Sound := sound.goTo nofun
    refine ⟨?_, ?_, sound.sent, sound.issued⟩
    · intro m busy current kept
      exact moved.served m busy current (Option.mem_filter_iff.mp kept).1
    · intro current kept
      exact sound.queued current (Option.mem_filter_iff.mp kept).1

end

/-- While the streams of the Agent are orderly, each reply is sent on the stream of the message
that it answers, and each lease is issued to the session that asked for it. -/
theorem replies_stay {capacity : Nat} (run : Run OrderlyStep { queueCapacity := capacity } events r) :
    (∀ entry ∈ r.sent, entry.2.origin = entry.1) ∧ ∀ entry ∈ r.issued, entry.2 = entry.1 := by
  have start : Sound { queueCapacity := capacity } := ⟨nofun, nofun, nofun, nofun⟩
  have sound := run.invariant Sound (fun step sound => sound.step step) start
  exact ⟨sound.sent, sound.issued⟩

theorem replies_stay_result : ∃ events r, Run OrderlyStep { queueCapacity := 1 } events r ∧
    r.sent = [(1, ⟨1, .commandResult⟩)] ∧ ∀ entry ∈ r.sent, entry.2.origin = entry.1 := by
  have run : Run OrderlyStep { queueCapacity := 1 }
      [.register [], .receive 1 .commandResult, .answer 1 .reply, .enqueue 1, .send true] _ :=
    .cons ⟨fun _ => rfl, rfl⟩ (.cons ⟨by rintro _ ⟨⟩; rfl, rfl⟩ (.cons ⟨trivial, rfl⟩
      (.cons ⟨trivial, rfl⟩ (.single ⟨trivial, rfl⟩))))
  exact ⟨_, _, run, rfl, (replies_stay run).1⟩

/-- A session is terminated and replaced while its lease is being issued. -/
theorem replies_cross : ∃ r, Run Step { queueCapacity := 1 }
      [.register (Request.credentialLease.required.getD []), .receive 1 .credentialLease, .look 1, .terminate,
        .register [], .look 1, .answer 1 .reply, .enqueue 1, .send true] r ∧
    r.sent = [(2, ⟨1, .credentialLease⟩)] ∧ r.issued = [(1, 2)] :=
  ⟨_, .cons rfl (.cons rfl (.cons rfl (.cons rfl (.cons rfl (.cons rfl (.cons rfl (.cons rfl (.single rfl)))))))), rfl, rfl⟩

end Registry

end DBPilot.AgentReplies
