import DBPilot.Lib.Runs

/-!
# Start fences

A task waits until it is started under a fence and ends with that fence, or is
abandoned and ends without one. A waiting task may be cancelled, and a cancelled
task is never started. So a fence is written once, and a task that is cancelled
or abandoned before its start never gets one.
-/

namespace DBPilot.StartFence

open Runs

universe u v
variable {φ : Type u} {ε : Type v}

inductive Stage (φ : Type u) where
  | waiting (cancelled : Bool)
  | started (fence : φ)
  | ended (fence : Option φ)

namespace Stage

def fence : Stage φ → Option φ
  | waiting _ => none
  | started fence => some fence
  | ended fence => fence

/-- The task has no fence and cannot get one. -/
def Barred : Stage φ → Prop
  | waiting cancelled => cancelled = true
  | started _ => False
  | ended fence => fence = none

inductive Step : Stage φ → Stage φ → Prop
  | stay (s : Stage φ) : Step s s
  | cancel (cancelled : Bool) : Step (waiting cancelled) (waiting true)
  | start (fence : φ) : Step (waiting false) (started fence)
  | abandon (cancelled : Bool) : Step (waiting cancelled) (ended none)
  | finish (fence : φ) : Step (started fence) (ended (some fence))

variable {s s' : Stage φ} {f : φ} {es : List ε}

lemma Step.barred (step : Step s s') (barred : s.Barred) : s'.Barred := by
  cases step with
  | stay => exact barred
  | cancel => rfl
  | start => cases barred
  | abandon => rfl
  | finish => exact barred.elim

lemma Step.fence_kept (step : Step s s') (fenced : s.fence = some f) : s'.fence = some f := by
  cases step with
  | stay => exact fenced
  | cancel | start | abandon => cases fenced
  | finish => exact fenced

end Stage

end DBPilot.StartFence
