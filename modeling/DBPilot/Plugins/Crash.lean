import DBPilot.Plugins.Snapshots

/-!
# Crashes of the plugin state store

A process makes calls, any step of which may fail, until a crash; the next one opens
what the crash has left on the disk. A crash in the middle of a call is one that
follows the call with a fault at that step and without its cleanup.
-/

namespace DBPilot.Plugins

open Directories Runs
open Jobs (Instant)

section runs

variable {B : Type} [StateCodec B]

/-- What a call tried to make of the store, and whether it returned without an error;
nothing when it wrote nothing. -/
abbrev Attempt := Option (FileStore × Bool)

def putAttempt (faults : Faults B) (now : Instant) (state : FamilyState) (m : Machine B) : Attempt :=
  match preparePut faults.cancelled now state m.store with
  | .error _ => none
  | .ok (_, next) => some (next, (commit faults next m).2.isOk)

def deleteAttempt (faults : Faults B) (now : Instant) (family : String) (operationRevision : Nat) (m : Machine B) :
    Attempt :=
  match prepareDelete faults.cancelled now family operationRevision m.store with
  | .error _ | .ok none => none
  | .ok (some next) => some (next, (commit faults next m).2.isOk)

inductive Step : Machine B → Attempt → Machine B → Prop
  | put (faults : Faults B) (now : Instant) (state : FamilyState) (m : Machine B) :
      Step m (putAttempt faults now state m) (put faults now state m).1
  | delete (faults : Faults B) (now : Instant) (family : String) (operationRevision : Nat) (m : Machine B) :
      Step m (deleteAttempt faults now family operationRevision m) (delete faults now family operationRevision m).1
  | restart {m : Machine B} {entries : Entries FileName B} {store : FileStore}
      (crash : m.directory.Crashes entries) (opened : newFileStore entries = .ok store) :
      Step m none ⟨⟨entries, []⟩, store⟩

/-- The last store that a call returned, and what later calls tried and failed to make. -/
structure History where
  success : FileStore
  failures : List FileStore

def History.next (h : History) : Attempt → History
  | none => h
  | some (next, true) => ⟨next, []⟩
  | some (next, false) => ⟨h.success, h.failures ++ [next]⟩

def history (attempts : List Attempt) : History := attempts.foldl History.next ⟨.empty, []⟩

def fresh : Machine B := ⟨⟨fun _ => none, []⟩, .empty⟩

/-- The file of the current revision holds the current store and is not touched; the
other one is older, and may become one of the stores that were tried since. -/
structure Safe (h : History) (m : Machine B) : Prop where
  fit : m.store.Fit
  known : m.store = h.success ∨ m.store ∈ h.failures
  newest : h.success.revision ≤ m.store.revision
  current : m.store = .empty ∧ m.directory.durable (.state (suffixOf m.store.revision)) = none ∨
    ∃ body, m.directory.durable (.state (suffixOf m.store.revision)) = some body ∧ Encodes body m.store
  untouched : ∀ update ∈ m.directory.pending, ∀ content, ¬ update.Leaves (.state (suffixOf m.store.revision)) content
  older : m.directory.durable (.state (suffixOf (m.store.revision + 1))) = none ∨
    ∃ body old, m.directory.durable (.state (suffixOf (m.store.revision + 1))) = some body ∧ Encodes body old ∧
      old.revision < m.store.revision
  tried : ∀ update ∈ m.directory.pending, ∀ content,
    update.Leaves (.state (suffixOf (m.store.revision + 1))) content →
      content = none ∨ ∃ body next, content = some body ∧ Encodes body next ∧
        next.revision = m.store.revision + 1 ∧ next ∈ h.failures

variable {h : History} {m m' : Machine B} {entries : Entries FileName B} {next store : FileStore} {now : Instant}
  {result : Except StateError Unit} {attempts : List Attempt} {attempt : Attempt}

section

omit [StateCodec B]

variable {revision : Nat}

lemma suffixOf_succ_ne : suffixOf (revision + 1) ≠ suffixOf revision := by
  unfold suffixOf
  split <;> split <;> first | omega | simp

lemma eq_suffixOf_of_ne {suffix : Suffix} (other : suffix ≠ suffixOf revision) :
    suffix = suffixOf (revision + 1) := by
  have differs : suffixOf (revision + 1) ≠ suffixOf revision := suffixOf_succ_ne
  generalize suffixOf (revision + 1) = s at *
  generalize suffixOf revision = t at *
  cases suffix <;> cases s <;> cases t <;> simp_all

lemma suffixOf_add_two : suffixOf (revision + 1 + 1) = suffixOf revision := by
  unfold suffixOf
  rw [Nat.add_assoc, Nat.add_mod_right]

end

lemma fresh_safe : Safe ⟨.empty, []⟩ (fresh : Machine B) where
  fit := FileStore.empty_fit
  known := .inl rfl
  newest := Nat.le_refl _
  current := .inl ⟨rfl, rfl⟩
  untouched _ member := absurd member List.not_mem_nil
  older := .inl rfl
  tried _ member := absurd member List.not_mem_nil

/-- The file beside the one of the revision is older. -/
def Stale (entries : Entries FileName B) (revision : Nat) : Prop :=
  entries (.state (suffixOf (revision + 1))) = none ∨
    ∃ body old, entries (.state (suffixOf (revision + 1))) = some body ∧ Encodes body old ∧ old.revision < revision

lemma Stale.opens {body : B} (stale : Stale entries store.revision)
    (found : entries (.state (suffixOf store.revision)) = some body) (encodes : Encodes body store) :
    newFileStore entries = .ok store := by
  refine newFileStore_latest ((congrArg readSnapshot found).trans encodes.read) encodes.numbered encodes.fit ?_
  intro other differs snapshot read
  rw [eq_suffixOf_of_ne differs] at read
  rcases stale with none | ⟨_, old, some, older, before⟩
  · rw [none] at read
    cases read
  · rw [some, older.read] at read
    cases read
    exact before

/-- The newer file wins: the store was there before the crash. -/
lemma Safe.reopen_current (safe : Safe h m)
    (kept : entries (.state (suffixOf m.store.revision)) = m.directory.durable (.state (suffixOf m.store.revision)))
    (stale : Stale entries m.store.revision) :
    newFileStore entries = .ok m.store ∧ Safe h ⟨⟨entries, []⟩, m.store⟩ := by
  have again : Safe h ⟨⟨entries, []⟩, m.store⟩ := by
    refine ⟨safe.fit, safe.known, safe.newest, ?_, ?_, stale, ?_⟩
    · have current := safe.current
      rw [← kept] at current
      exact current
    · exact fun _ member => absurd member List.not_mem_nil
    · exact fun _ member => absurd member List.not_mem_nil
  refine ⟨?_, again⟩
  rcases safe.current with ⟨empty, missing⟩ | ⟨body, present, encodes⟩
  · have nothing : ∀ suffix, entries (.state suffix) = none := by
      intro suffix
      by_cases here : suffix = suffixOf m.store.revision
      · rw [here, kept, missing]
      · rw [eq_suffixOf_of_ne here]
        rcases stale with none | ⟨_, old, _, _, before⟩
        · exact none
        · rw [empty] at before
          exact absurd before (Nat.not_lt_zero _)
    rw [empty]
    unfold newFileStore
    rw [nothing .a, nothing .b]
    rfl
  · exact stale.opens (kept.trans present) encodes

/-- The newer file wins: a call that failed had put it there. -/
lemma Safe.reopen_tried {body : B} (safe : Safe h m)
    (kept : entries (.state (suffixOf m.store.revision)) = m.directory.durable (.state (suffixOf m.store.revision)))
    (found : entries (.state (suffixOf (m.store.revision + 1))) = some body) (encodes : Encodes body next)
    (revision : next.revision = m.store.revision + 1) (failed : next ∈ h.failures) :
    newFileStore entries = .ok next ∧ Safe h ⟨⟨entries, []⟩, next⟩ := by
  have before : Stale entries next.revision := by
    unfold Stale
    rw [revision, suffixOf_add_two, kept]
    rcases safe.current with ⟨_, missing⟩ | ⟨body, present, encodes⟩
    · exact .inl missing
    · exact .inr ⟨body, m.store, present, encodes, Nat.lt_succ_self _⟩
  have newest := safe.newest
  rw [← revision] at found
  refine ⟨before.opens found encodes, encodes.fit, .inr failed, by dsimp only; omega, .inr ⟨body, found, encodes⟩, ?_,
    before, ?_⟩
  · exact fun _ member => absurd member List.not_mem_nil
  · exact fun _ member => absurd member List.not_mem_nil

/-- What a crash leaves is opened and is safe again: the current store, or one that was tried since. -/
lemma Safe.reopen (safe : Safe h m) (crash : m.directory.Crashes entries) :
    ∃ store, newFileStore entries = .ok store ∧ Safe h ⟨⟨entries, []⟩, store⟩ ∧
      (store = m.store ∨ store ∈ h.failures ∧ store.revision = m.store.revision + 1) := by
  have kept : entries (.state (suffixOf m.store.revision)) =
      m.directory.durable (.state (suffixOf m.store.revision)) := by
    rcases crash.cases _ with same | ⟨update, member, leaves⟩
    · exact same
    · exact absurd leaves (safe.untouched update member _)
  rcases crash.cases (.state (suffixOf (m.store.revision + 1))) with same | ⟨update, member, leaves⟩
  · have stale := safe.older
    rw [← same] at stale
    obtain ⟨opened, again⟩ := safe.reopen_current kept stale
    exact ⟨m.store, opened, again, .inl rfl⟩
  · rcases safe.tried update member _ leaves with none | ⟨body, next, some, encodes, revision, failed⟩
    · obtain ⟨opened, again⟩ := safe.reopen_current kept (.inl none)
      exact ⟨m.store, opened, again, .inl rfl⟩
    · obtain ⟨opened, again⟩ := safe.reopen_tried kept some encodes revision failed
      exact ⟨next, opened, again, .inr ⟨failed, revision⟩⟩

lemma Safe.commits (safe : Safe h m) (succeeds : Succeeds m.store next now) (commits : Commits next m m' result) :
    Safe (h.next (some (next, result.isOk))) m' := by
  cases commits with
  | idle e =>
    refine ⟨safe.fit, safe.known.imp_right fun old => List.mem_append_left _ old, safe.newest, safe.current,
      safe.untouched, safe.older, ?_⟩
    intro update member content leaves
    rcases safe.tried update member content leaves with none | ⟨body, tried, some, encodes, revision, failed⟩
    · exact .inl none
    · exact .inr ⟨body, tried, some, encodes, revision, List.mem_append_left _ failed⟩
  | @failed encoded d' e encodes adds =>
    obtain ⟨more, pending, touches⟩ := adds.pending
    have durable := adds.durable
    rw [succeeds.revision] at touches
    refine ⟨safe.fit, safe.known.imp_right fun old => List.mem_append_left _ old, safe.newest, ?_, ?_, ?_, ?_⟩
    · dsimp only
      rw [durable]
      exact safe.current
    · dsimp only
      rw [pending]
      intro update member content leaves
      rcases List.mem_append.mp member with old | new
      · exact safe.untouched update old content leaves
      · exact absurd (touches update new _ content leaves).1.symm suffixOf_succ_ne
    · dsimp only
      rw [durable]
      exact safe.older
    · dsimp only
      rw [pending]
      intro update member content leaves
      rcases List.mem_append.mp member with old | new
      · rcases safe.tried update old content leaves with none | ⟨body, tried, some, encodes, revision, failed⟩
        · exact .inl none
        · exact .inr ⟨body, tried, some, encodes, revision, List.mem_append_left _ failed⟩
      · rcases (touches update new _ content leaves).2 with none | some
        · exact .inl none
        · exact .inr ⟨encoded, next, some, encodes, succeeds.revision, by simp [History.next, Except.isOk, Except.toBool]⟩
  | @done encoded before encodes adds =>
    have differs : suffixOf m.store.revision ≠ suffixOf next.revision := by
      rw [succeeds.revision]
      exact suffixOf_succ_ne.symm
    have kept : (before.perform (.rename (.temporary (suffixOf next.revision)) (.state (suffixOf next.revision))
        encoded)).sync.durable (.state (suffixOf m.store.revision)) =
        m.directory.durable (.state (suffixOf m.store.revision)) := by
      rw [renamed_other differs, adds.visible_other differs]
      exact applyAll_untouched safe.untouched
    refine ⟨succeeds.fit, .inl rfl, Nat.le_refl _, .inr ⟨encoded, renamed_self, encodes⟩, ?_, ?_, ?_⟩
    · exact fun _ member => absurd member List.not_mem_nil
    · dsimp only
      have back : suffixOf (next.revision + 1) = suffixOf m.store.revision := by
        rw [succeeds.revision, suffixOf_add_two]
      rw [back, kept, succeeds.revision]
      rcases safe.current with ⟨_, missing⟩ | ⟨body, present, older⟩
      · exact .inl missing
      · exact .inr ⟨body, m.store, present, older, Nat.lt_succ_self _⟩
    · exact fun _ member => absurd member List.not_mem_nil

lemma Step.safe (step : Step m attempt m') (safe : Safe h m) : Safe (h.next attempt) m' := by
  cases step with
  | put faults now state =>
    unfold putAttempt
    cases prepared : preparePut faults.cancelled now state m.store with
    | error e =>
      rw [put_of_error prepared]
      exact safe
    | ok both =>
      obtain ⟨kept, next⟩ := both
      obtain ⟨succeeds, _⟩ := preparePut_ok safe.fit prepared
      rw [put_of_ok prepared rfl]
      exact safe.commits succeeds (commit_commits succeeds rfl)
  | delete faults now family operationRevision =>
    unfold deleteAttempt
    cases prepared : prepareDelete faults.cancelled now family operationRevision m.store with
    | error e =>
      rw [delete_of_error prepared]
      exact safe
    | ok planned =>
      cases planned with
      | none =>
        rw [delete_of_none prepared]
        exact safe
      | some =>
        obtain ⟨succeeds, _⟩ := prepareDelete_ok safe.fit prepared
        rw [delete_of_some prepared]
        exact safe.commits succeeds (commit_commits succeeds rfl)
  | restart crash opened =>
    obtain ⟨store, loaded, again, _⟩ := safe.reopen crash
    rw [opened] at loaded
    cases loaded
    exact again

lemma run_safe (run : Run Step m attempts m') (safe : Safe h m) : Safe (attempts.foldl History.next h) m' := by
  induction run generalizing h with
  | nil => exact safe
  | cons step _ ih => exact ih (step.safe safe)

/-- After any calls, failures and restarts, whatever a crash leaves can be opened, and
holds the last store that a call returned or one that a later call failed to write. -/
theorem crash_safe (run : Run Step fresh attempts m) (crash : m.directory.Crashes entries) :
    ∃ store, newFileStore entries = .ok store ∧
      (store = (history attempts).success ∨ store ∈ (history attempts).failures) ∧
      (history attempts).success.revision ≤ store.revision := by
  obtain ⟨store, opened, safe, _⟩ := (run_safe run fresh_safe).reopen crash
  exact ⟨store, opened, safe.known, safe.newest⟩

end runs

section sample

/-- A text that is the snapshot itself. -/
local instance snapshotText : StateCodec DiskSnapshot where
  marshal snapshot := if snapshot.revision < 2 ^ 64 then some snapshot else none
  unmarshal body := if body.revision < 2 ^ 64 then some body else none
  size _ := 1
  revision_unmarshal := by
    intro snapshot body read
    split at read
    · cases read
      assumption
    · cases read
  size_marshal := by simp
  unmarshal_marshal := by
    intro snapshot body text
    split at text
    · rename_i small
      cases text
      exact if_pos small
    · cases text

def sampleDigest : String := String.ofList (List.replicate 64 '0')

def sampleFamily : FamilyState where
  assignmentID := "assignment"
  pluginID := "postgres"
  databaseFamily := "postgres"
  desiredConfigurationRevision := 1
  requestFingerprint := sampleDigest
  activeSlot := .none
  desiredState := .running
  processState := .installed
  circuitState := .closed
  healthState := .unknown
  activeConfigurationRevision := 1
  observedOperationRevision := 1

def noFaults : Faults DiskSnapshot := { left := ⟨0, none, none⟩ }

/-- The second call fails in the sync of the directory. -/
def unsyncedFaults : Faults DiskSnapshot := { noFaults with syncDirectory := true }

def firstPut : Machine DiskSnapshot := (put noFaults 1 sampleFamily fresh).1

def unsyncedPut : Machine DiskSnapshot := (put unsyncedFaults 2 { sampleFamily with processState := .running } firstPut).1

def unsyncedAttempts : List Attempt :=
  [putAttempt noFaults 1 sampleFamily (fresh : Machine DiskSnapshot),
    putAttempt unsyncedFaults 2 { sampleFamily with processState := .running } firstPut]

/-- The process stops after a call whose snapshot is in place although it failed. -/
theorem crash_safe_unsynced :
    unsyncedAttempts.map (·.map fun attempt => (attempt.1.revision, attempt.2)) = [some (1, true), some (2, false)] ∧
      ∃ store, newFileStore unsyncedPut.directory.visible = .ok store ∧
        (store = (history unsyncedAttempts).success ∨ store ∈ (history unsyncedAttempts).failures) ∧
        (history unsyncedAttempts).success.revision ≤ store.revision := by
  refine ⟨by decide +kernel, ?_⟩
  have run : Run Step fresh unsyncedAttempts unsyncedPut :=
    .cons (.put noFaults 1 sampleFamily fresh) (.single (.put unsyncedFaults 2 _ firstPut))
  exact crash_safe run Directory.crashes_visible

end sample

end DBPilot.Plugins
