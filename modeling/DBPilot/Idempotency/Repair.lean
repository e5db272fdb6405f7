import DBPilot.Idempotency.Interleaving

/-!
# Secrets that were perhaps never returned

`BeginUnreturnedRecoverable` replaces the response of a row that was never completed.
The later statements ask for the owner and the phase, not for the response they finish,
so a second retry may come in between. Where no other running call holds another
response of the row, the calls agree.
-/

namespace DBPilot.Idempotency

open Threads Runs

section runs

variable [Storage] {fits : Fits} {κ : Type} {calls : κ → Call}

/-- As long as every repair leaves the other running calls with the response that they
hold, a claim that is returned as completed carries what is stored, and a row is
completed with what was reconciled. -/
theorem exclusive_repairs_agree (service : Service) (fresh : Fresh fits) (exclusive : Exclusive fits)
    {labels : List (Label κ)} {pool : Pool World Command Reply Outcome}
    (run : Run (Step (system calls fits service)) idle labels pool) :
    (∀ thread claim seen response, (thread, Event.returned (.claim (.ok claim)) seen) ∈ pool.shared.history →
      claim.state = .completed → claim.response = some response →
      Answered pool.shared thread seen response ∧
      (response.stored = some response → ∃ other record, (other, Event.completed record) ∈ pool.shared.history ∧
        record.response = response)) ∧
    (∀ record, pool.shared.record = some record → record.state = .audited ∨ record.state = .completed →
      Reconciled pool.shared record) := by
  have consistent : Consistent pool.shared := consistent_run fresh (fun _ _ => exclusive) run
  refine ⟨?_, consistent.reconciled⟩
  intro thread claim seen response returned completed there
  have answered := (consistent.returned returned).answered response there completed
  refine ⟨answered, fun same => ?_⟩
  obtain ⟨call, _, record, _, final⟩ := answered
  obtain ⟨other, last, member, _, _, response_eq⟩ := final.completed
  exact ⟨other, last, member, response_eq.trans (Option.some.inj (final.response.symm.trans same))⟩

end runs

/-! ## Retries -/

/-- `BeginUnreturnedRecoverable` and `Complete`. -/
def Call.secret : Call → Bool
  | .beginUnreturnedRecoverable _ _ => true
  | .complete _ _ _ _ => true
  | _ => false

abbrev SecretCall := { call : Call // call.secret = true }

/-- An environment in which repairs are exclusive. -/
def exclusiveRepairs [Storage] : Fits := fun thread w c r w' =>
  freshOwners thread w c r w' &&
    match c with
    | .repairIncompleteSideEffect _ owner response _ =>
      w.held.all fun entry => entry.1 = thread || entry.2.owner ≠ owner || response.stored = some entry.2.response
    | _ => true

lemma fresh_exclusiveRepairs [Storage] : Fresh exclusiveRepairs := by
  intro thread w owner w' fit
  exact fresh_freshOwners (Bool.and_eq_true_iff.mp fit).1

lemma exclusive_exclusiveRepairs [Storage] : Exclusive exclusiveRepairs := by
  intro thread w fingerprint owner response text r w' fit other held member apart same
  have all := List.all_eq_true.mp (Bool.and_eq_true_iff.mp fit).2 (other, held) member
  simpa [apart, same] using all

/-- A JSON string of one character. -/
def sampleSecret (letter : UInt8) : Response := ⟨201, [], [34, letter, 34]⟩

def unreturned : SecretCall := ⟨.beginUnreturnedRecoverable sampleFingerprint samplePayload, rfl⟩

/-- The side effect is committed, but the callback fails. -/
def committedWrite : List (Action SecretCall Answer) :=
  begins 0 unreturned firstOwner ++ smoothly 0 2 ++
  [.start ⟨.complete sampleFingerprint firstOwner (sampleSecret 97) samplePayload, rfl⟩] ++ smoothly 1 2 ++
  [.turn 1 { smooth with reconciled := .error .other }] ++ smoothly 1 1

def reconciledWith (response : Response) (w : World) : Bool :=
  w.history.any fun
    | (_, .reconciled given _) => given = response
    | _ => false

def storedAs (response : Response) (w : World) : Bool :=
  w.record.any fun record => record.state = .completed && record.response = response

/-- One retry repairs the row between the callback and the last phases of another. -/
def crossedRetries : List (Action SecretCall Answer) :=
  committedWrite ++ begins 2 unreturned secondOwner ++ smoothly 2 3 ++ recovers 2 (sampleSecret 98) ++ smoothly 2 3 ++
  begins 3 unreturned thirdOwner ++ smoothly 3 3 ++ recovers 3 (sampleSecret 99) ++ smoothly 3 2 ++ smoothly 2 5

/-- The retry is told that the row is completed with its own response, while the other's is
stored, for which the callback never succeeded. -/
theorem crossed_retries_disagree :
    Fresh freshOwners ∧ sampleSecret 98 ≠ sampleSecret 99 ∧
    ∃ labels pool, Run (Step (@system sampleStorage _ (fun call : SecretCall => call.val) freshOwners ⟨0⟩)) idle
      labels pool ∧ completedWith (sampleSecret 98) pool.shared = true ∧
      storedAs (sampleSecret 99) pool.shared = true ∧ reconciledWith (sampleSecret 99) pool.shared = false := by
  obtain ⟨pool, run, found⟩ := @exists_run sampleStorage _ (fun call : SecretCall => call.val) freshOwners ⟨0⟩
    crossedRetries (fun w => completedWith (sampleSecret 98) w && storedAs (sampleSecret 99) w &&
      !reconciledWith (sampleSecret 99) w) (by decide +kernel)
  simp only [Bool.and_eq_true, Bool.not_eq_true'] at found
  exact ⟨fresh_freshOwners, by decide, _, pool, run, found.1.1, found.1.2, found.2⟩

def singleRetry : List (Action SecretCall Answer) :=
  committedWrite ++ begins 2 unreturned secondOwner ++ smoothly 2 3 ++ recovers 2 (sampleSecret 98) ++ smoothly 2 8

theorem exclusive_repairs_agree_single :
    ∃ labels pool, Run (Step (@system sampleStorage _ (fun call : SecretCall => call.val)
      (@exclusiveRepairs sampleStorage) ⟨0⟩)) idle labels pool ∧
      completedWith (sampleSecret 98) pool.shared = true ∧ storedAs (sampleSecret 98) pool.shared = true ∧
      ∀ record, pool.shared.record = some record → record.state = .audited ∨ record.state = .completed →
        @Reconciled sampleStorage pool.shared record := by
  obtain ⟨pool, run, found⟩ := @exists_run sampleStorage _ (fun call : SecretCall => call.val)
    (@exclusiveRepairs sampleStorage) ⟨0⟩ singleRetry
    (fun w => completedWith (sampleSecret 98) w && storedAs (sampleSecret 98) w) (by decide +kernel)
  rw [Bool.and_eq_true] at found
  have agree := @exclusive_repairs_agree sampleStorage _ _ _ ⟨0⟩ (@fresh_exclusiveRepairs sampleStorage)
    (@exclusive_exclusiveRepairs sampleStorage) _ pool run
  exact ⟨_, pool, run, found.1, found.2, agree.2⟩

end DBPilot.Idempotency
