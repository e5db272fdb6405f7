import DBPilot.Journal.Calls

/-!
# Integrity of the journal

The invariant of an entry, kept by every event: a started entry has a valid
fence, a settled one has a result that carries its fence. A result is never
replaced, and it stays pending until it is acknowledged with its digest.
-/

namespace DBPilot.Journal

open Tables Transactions Runs
open Jobs (Digest sum256)
open Wire (Bytes)

/-- The entry has a terminal result. -/
def StoredEntry.settled (r : StoredEntry) : Bool :=
  r.state = .completed || r.state = .interrupted || r.state = .resultConflicted

/-- The stored result, its digest and its fence agree. -/
structure HasResult (r : StoredEntry) : Prop where
  nonempty : r.result ≠ []
  digest : r.resultDigest = some (sum256 r.result)
  fence : ∃ result, decodeResult r.result = some result ∧ result.executionToken = r.executionToken ∧
    result.leaseRevision = r.leaseRevision

structure Sound (r : StoredEntry) : Prop where
  unfenced : r.state = .prepared → r.executionTokenHash = none
  fenced : r.started = true → validStoredFence r = true
  settled : r.settled = true → HasResult r
  readable : r.envelope = [] ∨ ∃ envelope, r.envelope = encodeEnvelope envelope

section rows

variable {r r' : StoredEntry} {e : Event} {start : Start}

/-- The empty string encodes the empty result. -/
lemma encodeResult_ne_nil {result : CommandResult} (fenced : result.executionToken.length = 32) :
    encodeResult result ≠ [] := by
  intro empty
  have read := decodeResult_encodeResult result
  rw [empty] at read
  have same : decodeResult [] = some ⟨"", 0, "", [], "", [], 0, none⟩ := by decide +kernel
  rw [same] at read
  rw [← Option.some.inj read] at fenced
  cases fenced

lemma validStoredFence_iff : validStoredFence r = true ↔ r.executionToken.length = 32 ∧
    r.leaseRevision ≠ 0 ∧ r.executionTokenHash = some (sum256 r.executionToken) := by
  simp [validStoredFence, and_assoc]

lemma matchesFence_iff {token : Bytes} {revision : Nat} : matchesFence r token revision = true ↔
    token.length = 32 ∧ r.executionToken = token ∧ r.leaseRevision = revision := by
  simp only [matchesFence, Bool.and_eq_true, decide_eq_true_eq]
  constructor
  · rintro ⟨⟨⟨_, size⟩, token⟩, revision⟩
    exact ⟨size, token, revision⟩
  · rintro ⟨size, rfl, revision⟩
    exact ⟨⟨⟨size, size⟩, rfl⟩, revision⟩

lemma validStoredFence_fenced (valid : start.valid = true) : validStoredFence (fenced start r) = true := by
  simp only [Start.valid, Bool.and_eq_true, decide_eq_true_eq] at valid
  exact validStoredFence_iff.mpr ⟨valid.1.1, valid.1.2, rfl⟩

lemma Sound.interrupted (readable : r.envelope = [] ∨ ∃ envelope, r.envelope = encodeEnvelope envelope)
    (fence : validStoredFence r = true) (now : Instant) : Sound (setInterrupted r now) where
  unfenced := nofun
  fenced := nofun
  settled _ :=
    { nonempty := encodeResult_ne_nil (validStoredFence_iff.mp fence).1
      digest := rfl
      fence := ⟨interruptedResult r, decodeResult_encodeResult _, rfl, rfl⟩ }
  readable := readable

lemma Sound.result (sound : Sound r) (done : r.state = .completed ∨ r.state = .interrupted) : HasResult r := by
  apply sound.settled
  rcases done with h | h <;> simp [StoredEntry.settled, h]

/-- One event keeps the invariant of an entry. -/
lemma RowStep.sound (step : RowStep r e r') (sound : Sound r) : Sound r' := by
  cases step with
  | idle => exact sound
  | authorize _ valid =>
    exact ⟨by rintro ⟨⟩, fun _ => validStoredFence_fenced valid, by rintro ⟨⟩, sound.readable⟩
  | @expire start now prepared valid =>
    exact Sound.interrupted (r := fenced start r) sound.readable (validStoredFence_fenced valid) now
  | @interrupt _ now quiet started => exact Sound.interrupted sound.readable (sound.fenced started) now
  | run authorized =>
    have fence := sound.fenced (by simp [StoredEntry.started, authorized])
    exact ⟨by rintro ⟨⟩, fun _ => fence, by rintro ⟨⟩, sound.readable⟩
  | cancel => exact ⟨by rintro ⟨⟩, by rintro ⟨⟩, by rintro ⟨⟩, .inl rfl⟩
  | @complete _ result now running fence =>
    obtain ⟨size, token, revision⟩ := matchesFence_iff.mp fence
    exact ⟨by rintro ⟨⟩, by rintro ⟨⟩, fun _ => ⟨encodeResult_ne_nil size, rfl, result, decodeResult_encodeResult result,
      token.symm, revision.symm⟩, sound.readable⟩
  | report done =>
    have result := sound.result done
    exact ⟨sound.unfenced, sound.fenced, fun _ => ⟨result.nonempty, result.digest, result.fence⟩, sound.readable⟩
  | conflict done =>
    have result := sound.result done
    exact ⟨by rintro ⟨⟩, by rintro ⟨⟩, fun _ => ⟨result.nonempty, result.digest, result.fence⟩, sound.readable⟩

lemma Sound.fresh (fresh : Fresh r) : Sound r := by
  obtain ⟨envelope, now, rfl⟩ := fresh
  exact ⟨fun _ => rfl, nofun, nofun, .inr ⟨envelope, rfl⟩⟩

/-- The event acknowledges the result of the entry, or marks it conflicted, by its digest. -/
def Event.acknowledges (e : Event) (r : StoredEntry) : Prop :=
  ∃ digest, r.resultDigest = some digest ∧
    ((∃ now, e = ⟨.markReported r.commandID digest now, .ok⟩) ∨
      ∃ reason now, e = ⟨.markResultConflicted r.commandID digest reason now, .ok⟩)

end rows

section runs

variable {w w' : World} {e : Event} {events later : List Event} {r : StoredEntry} {id : String}

theorem run_sound (run : Run Step .initial events w) : ∀ r ∈ w.journal.commands, Sound r :=
  rows_invariant (fun w => w.journal.commands) Sound run (fun step => step.evolves) Sound.fresh
    (fun step sound => step.sound sound) (fun _ member => absurd member Table.not_mem_empty)

end runs

/-! A command that is prepared, started and completed. -/

def sampleEnvelope : CommandEnvelope where
  commandID := "command"
  expiresAt := some ⟨100, 0⟩
  nonce := [7]
  command := some (0, [])

def sampleStart : Start := ⟨"command", List.replicate 32 1, 1, 90000000000⟩

end DBPilot.Journal
