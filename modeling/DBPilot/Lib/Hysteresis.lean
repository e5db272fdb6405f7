import Mathlib.Data.List.Induction
import Mathlib.Tactic.Lemma

/-!
# Hysteresis

A condition is observed at times. It becomes active once it has held for a given
wait, from the first observation that found it true; an observation that finds it
false ends it, and the wait starts again.
-/

namespace DBPilot.Hysteresis

structure Observation where
  now : Int
  holds : Bool
  deriving DecidableEq

inductive Phase where
  | idle
  | waiting (since : Int)
  | active
  deriving DecidableEq

def observe (wait : Int) : Phase → Observation → Phase
  | _, ⟨_, false⟩ => .idle
  | .idle, ⟨now, true⟩ => .waiting now
  | .waiting since, ⟨now, true⟩ => if wait ≤ now - since then .active else .waiting since
  | .active, ⟨_, true⟩ => .active

/-- The phase after a history of observations. -/
def after (wait : Int) (history : List Observation) : Phase := history.foldl (observe wait) .idle

variable {wait since : Int} {history rest : List Observation} {o : Observation} {phase : Phase}

@[simp] lemma after_concat : after wait (history ++ [o]) = observe wait (after wait history) o := by
  simp [after]

lemma observe_false (failed : o.holds = false) : observe wait phase o = .idle := by
  obtain ⟨now, holds⟩ := o
  subst failed
  cases phase <;> rfl

lemma observe_waiting (waits : observe wait phase o = .waiting since) :
    o.holds = true ∧ (phase = .idle ∧ o.now = since ∨ phase = .waiting since) := by
  obtain ⟨now, holds⟩ := o
  cases holds with
  | false => cases phase <;> cases waits
  | true =>
    refine ⟨rfl, ?_⟩
    cases phase with
    | idle =>
      injection waits with here
      exact .inl ⟨rfl, here⟩
    | waiting start =>
      change (if wait ≤ now - start then Phase.active else .waiting start) = .waiting since at waits
      split at waits
      · cases waits
      · exact .inr waits
    | active => cases waits

lemma observe_active (activates : observe wait phase o = .active) :
    o.holds = true ∧ (phase = .active ∨ ∃ since, phase = .waiting since ∧ wait ≤ o.now - since) := by
  obtain ⟨now, holds⟩ := o
  cases holds with
  | false => cases phase <;> cases activates
  | true =>
    refine ⟨rfl, ?_⟩
    cases phase with
    | idle => cases activates
    | waiting start =>
      change (if wait ≤ now - start then Phase.active else .waiting start) = .active at activates
      split at activates
      · rename_i long
        exact .inr ⟨start, rfl, long⟩
      · cases activates
    | active => exact .inl rfl

/-- A wait goes back to an observation that found the condition true when nothing was
under way, and no later one found it false or ended the wait. -/
structure Waits (wait : Int) (history : List Observation) (earlier : List Observation)
    (start : Observation) (during : List Observation) : Prop where
  split : history = earlier ++ start :: during
  idle : after wait earlier = .idle
  held : ∀ o ∈ start :: during, o.holds = true
  waiting : ∀ front back, during = front ++ back → after wait (earlier ++ start :: front) = .waiting start.now

lemma Waits.concat {earlier during : List Observation} {start : Observation}
    (waits : Waits wait history earlier start during) (holds : o.holds = true)
    (still : after wait (history ++ [o]) = .waiting start.now) :
    Waits wait (history ++ [o]) earlier start (during ++ [o]) := by
  refine ⟨by rw [waits.split]; simp, waits.idle, ?_, ?_⟩
  · intro o' listed
    rcases List.mem_append.mp (List.cons_append ▸ listed) with old | new
    · exact waits.held o' old
    · rw [List.mem_singleton.mp new]
      exact holds
  · intro front back parts
    rcases List.eq_nil_or_concat back with rfl | ⟨back', last, rfl⟩
    · rw [← List.append_nil front, ← parts, ← List.cons_append, ← List.append_assoc, ← waits.split]
      exact still
    · rw [List.concat_eq_append, ← List.append_assoc] at parts
      exact waits.waiting front back' (List.append_inj' parts rfl).1

theorem waits_of_waiting (waiting : after wait history = .waiting since) :
    ∃ earlier start during, Waits wait history earlier start during ∧ start.now = since := by
  induction history using List.reverseRecOn with
  | nil => cases waiting
  | append_singleton history o ih =>
    have stays := waiting
    rw [after_concat] at waiting
    obtain ⟨holds, ⟨idle, here⟩ | before⟩ := observe_waiting waiting
    · refine ⟨history, o, [], ⟨rfl, idle, by simpa using holds, ?_⟩, here⟩
      intro front back parts
      obtain ⟨rfl, _⟩ := List.append_eq_nil_iff.mp parts.symm
      rw [here]
      exact stays
    · obtain ⟨earlier, start, during, waits, rfl⟩ := ih before
      exact ⟨earlier, start, during ++ [o], waits.concat holds stays, rfl⟩

/-- What becomes active has held for the whole wait. -/
theorem waits_of_activates (inactive : after wait history ≠ .active)
    (activates : after wait (history ++ [o]) = .active) : o.holds = true ∧
      ∃ earlier start during, Waits wait history earlier start during ∧ wait ≤ o.now - start.now := by
  rw [after_concat] at activates
  obtain ⟨holds, already | ⟨since, waiting, long⟩⟩ := observe_active activates
  · exact absurd already inactive
  · obtain ⟨earlier, start, during, waits, rfl⟩ := waits_of_waiting waiting
    exact ⟨holds, earlier, start, during, waits, long⟩

end DBPilot.Hysteresis
