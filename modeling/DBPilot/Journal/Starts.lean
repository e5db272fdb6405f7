import DBPilot.Journal.Integrity

/-!
# A command starts at most once

`AuthorizeStart` returns nil when its second transaction takes an authorised entry
to running. No event takes an entry back, so this happens once at most, never
after a cancellation or an interruption, and only under the fence recorded first.
-/

namespace DBPilot.Journal

open Transactions Runs
open Wire (Bytes)

/-- The execution token and the lease revision, once they are recorded. -/
def StoredEntry.fence (r : StoredEntry) : Option (Bytes × Nat) :=
  if r.executionTokenHash = none then none else some (r.executionToken, r.leaseRevision)

/-- The fence that `AuthorizeStart` was called with. -/
def Event.fence (e : Event) : Option (Bytes × Nat) :=
  match e.call with
  | .authorizeStart start _ | .continueStart start _ => some (start.executionToken, start.leaseRevision)
  | _ => none

/-- The command has been started, or can no longer be. -/
def Spent (id : String) (w : World) : Prop :=
  ∃ r, w.entry id = some r ∧ r.state ≠ .prepared ∧ r.state ≠ .startAuthorized

section rows

variable {r r' : StoredEntry} {e : Event} {f : Bytes × Nat}

section

variable (step : RowStep r e r')
include step

/-- Only the step from authorised to running starts the command. -/
lemma RowStep.start (starts : e.starts r.commandID = true) : r.state = .startAuthorized ∧ r'.state = .running ∧
      e.fence = some (r.executionToken, r.leaseRevision) := by
  cases step with
  | idle quiet | interrupt quiet =>
    rw [quiet] at starts
    cases starts
  | run authorized fence =>
    obtain ⟨_, token, revision⟩ := matchesFence_iff.mp fence
    exact ⟨authorized, rfl, by rw [token, revision]; rfl⟩
  | authorize | expire | cancel | complete | report | conflict => cases starts

lemma RowStep.stopped (stops : e.stops r.commandID = true) : r'.state = .cancelled ∨ r'.state = .interrupted := by
  cases step with
  | idle _ stopped => exact stopped stops
  | interrupt | expire => exact .inr rfl
  | cancel => exact .inl rfl
  | authorize | run | complete | report | conflict => cases stops

/-- A recorded fence stays: only prepared entries get one, and they have none. -/
lemma RowStep.fence_kept (sound : Sound r) (fenced : r.fence = some f) : r'.fence = some f := by
  cases step with
  | authorize prepared | expire prepared =>
    rw [StoredEntry.fence, if_pos (sound.unfenced prepared)] at fenced
    cases fenced
  | idle | interrupt | run | cancel | complete | report | conflict => exact fenced

end

end rows

section runs

variable {w w' a b : World} {e s : Event} {events rest : List Event} {id : String} {f : Bytes × Nat}

/-- A call that starts or stops a command finds its entry. -/
lemma Step.named_entry (step : Step w e w') (named : e.starts id = true ∨ e.stops id = true) :
    ∃ r r', w.entry id = some r ∧ w'.entry id = some r' ∧ RowStep r e r' := by
  have present : ∃ r, w.entry id = some r := by
    rcases step.outcome with commits | ⟨⟨error, failed⟩, _⟩
    · obtain ⟨call, answer⟩ := e
      cases call with
      | continueStart | cancelPrepared | markInterrupted =>
        obtain ⟨_, done, _⟩ := commits_map.mp commits
        obtain ⟨r, member, _, same, _⟩ := transition_row done
        simp only [Event.starts, Event.stops, Bool.false_eq_true, or_false, false_or, Bool.and_eq_true,
          decide_eq_true_eq] at named
        exact ⟨r, World.entry_eq_some.mpr ⟨member, same.trans named.1⟩⟩
      | prepare | authorizeStart | complete | markReported | markResultConflicted | reopen =>
        simp [Event.starts, Event.stops] at named
    · obtain ⟨quiet, unstopped⟩ := Event.quiet_of_failed failed id
      simp [quiet, unstopped] at named
  obtain ⟨r, found⟩ := present
  obtain ⟨r', found', moved⟩ := step.entry found
  exact ⟨r, r', found, found', moved⟩

lemma oneShot (id : String) : OneShot Step (Event.starts id) (Spent id) where
  closed step := by
    rintro ⟨r, found, unprepared, unauthorized⟩
    obtain ⟨r', found', moved⟩ := step.entry found
    refine ⟨r', found', ?_⟩
    cases moved with
    | idle | report => exact ⟨unprepared, unauthorized⟩
    | authorize prepared => exact absurd prepared unprepared
    | expire | interrupt | run | cancel | complete | conflict => constructor <;> rintro ⟨⟩
  armed step starts := by
    rintro ⟨r, found, _, unauthorized⟩
    obtain ⟨_, _, found', _, moved⟩ := step.named_entry (.inl starts)
    obtain rfl := Option.some.inj (found.symm.trans found')
    rw [← (World.entry_eq_some.mp found).2] at starts
    exact unauthorized (moved.start starts).1
  spends step starts := by
    obtain ⟨r, r', found, found', moved⟩ := step.named_entry (.inl starts)
    rw [← (World.entry_eq_some.mp found).2] at starts
    have running := (moved.start starts).2.1
    refine ⟨r', found', ?_, ?_⟩ <;> rw [running] <;> rintro ⟨⟩

lemma run_fence_kept (run : Run Step a rest w) (sound : ∀ r ∈ a.journal.commands, Sound r)
    (fenced : (a.entry id).bind (·.fence) = some f) : (w.entry id).bind (·.fence) = some f := by
  have both := run.invariant
    (fun w => (∀ r ∈ w.journal.commands, Sound r) ∧ (w.entry id).bind (·.fence) = some f)
    (fun step ⟨sound, fenced⟩ => by
      refine ⟨fun r' member' => ?_, ?_⟩
      · rcases step.evolves.backward r' member' with ⟨r, member, moved⟩ | fresh
        · exact moved.sound (sound r member)
        · exact Sound.fresh fresh
      obtain ⟨r, found, recorded⟩ := Option.bind_eq_some_iff.mp fenced
      obtain ⟨r', found', moved⟩ := step.entry found
      rw [found', Option.bind_some]
      exact moved.fence_kept (sound r (World.entry_eq_some.mp found).1) recorded)
    ⟨sound, fenced⟩
  exact both.2

/-- The fence of a start is recorded when it returns, and still in the last state. -/
lemma start_fence (run : Run Step .initial events w) (listed : s ∈ events) (starts : s.starts id = true) :
    s.fence = (w.entry id).bind (·.fence) := by
  obtain ⟨before, after, a, b, _, early, here, late⟩ := run.of_mem listed
  obtain ⟨r, r', found, found', moved⟩ := here.named_entry (.inl starts)
  obtain ⟨member, named⟩ := World.entry_eq_some.mp found
  rw [← named] at starts
  obtain ⟨authorized, _, fence⟩ := moved.start starts
  have sound := run_sound early r member
  have recorded : (b.entry id).bind (·.fence) = s.fence := by
    rw [found', Option.bind_some, fence]
    have valid := sound.fenced (by simp [StoredEntry.started, authorized])
    obtain ⟨_, _, hash⟩ := validStoredFence_iff.mp valid
    exact moved.fence_kept sound (if_neg (by rw [hash]; rintro ⟨⟩))
  rw [fence] at recorded ⊢
  exact (run_fence_kept late (run_sound (early.append (.single here))) recorded).symm

/-- Over the life of a journal a command is started at most once, never after its
cancellation or interruption, and only under the fence recorded for it, which is
never replaced. -/
theorem starts_at_most_once (run : Run Step .initial events w) (id : String) :
    events.countP (·.starts id) ≤ 1 ∧
    (∀ before e after a b, events = before ++ e :: after → Run Step .initial before a → Step a e b →
      Run Step b after w → (e.stops id = true ∨ ∃ r, b.entry id = some r ∧ r.state = .interrupted) →
      ∀ s ∈ after, s.starts id = false) ∧
    (∀ before rest a f, events = before ++ rest → Run Step .initial before a → Run Step a rest w →
      (a.entry id).bind (·.fence) = some f → ∀ s ∈ events, s.starts id = true → s.fence = some f) := by
  refine ⟨(oneShot id).at_most_once run, ?_, ?_⟩
  · intro before e after a b _ _ step late stopped
    apply (oneShot id).silent late
    rcases stopped with stops | ⟨r, found, interrupted⟩
    · obtain ⟨r, r', found, found', moved⟩ := step.named_entry (.inr stops)
      rw [← (World.entry_eq_some.mp found).2] at stops
      refine ⟨r', found', ?_⟩
      rcases moved.stopped stops with h | h <;> rw [h] <;> constructor <;> rintro ⟨⟩
    · refine ⟨r, found, ?_⟩
      rw [interrupted]
      constructor <;> rintro ⟨⟩
  · intro before rest a f _ early late fenced s listed starts
    rw [start_fence run listed starts]
    exact run_fence_kept late (run_sound early) fenced

end runs

/-! Two calls under the same fence, of which the second finds the command running,
and one more after the interruption. -/

def startedOnce : List Call :=
  [.prepare sampleEnvelope 10000000000, .authorizeStart sampleStart 20000000000,
    .authorizeStart sampleStart 21000000000, .continueStart sampleStart 30000000000,
    .continueStart sampleStart 31000000000, .markInterrupted "command" 40000000000,
    .authorizeStart sampleStart 50000000000]

theorem starts_at_most_once_sample :
    Run Step .initial (eventsOf startedOnce) (reached startedOnce) ∧
      (eventsOf startedOnce).map (·.answer) = [.ok, .underway, .underway, .ok, .failed .alreadyRunning, .ok,
        .failed (.refused .interrupted "running")] ∧
      (eventsOf startedOnce).countP (·.starts "command") ≤ 1 ∧
      ∀ s ∈ eventsOf startedOnce, s.starts "command" = true → s.fence = some (List.replicate 32 1, 1) := by
  have run : Run Step .initial (eventsOf startedOnce) (reached startedOnce) := run_reached (by decide +kernel)
  have recorded : ((reached startedOnce).entry "command").bind (·.fence) =
      some (List.replicate 32 1, 1) := by decide +kernel
  obtain ⟨once, _, fences⟩ := starts_at_most_once run "command"
  exact ⟨run, by decide +kernel, once, fences _ [] _ _ (List.append_nil _).symm run (.nil _) recorded⟩

end DBPilot.Journal
