import DBPilot.Plugins.Crash

/-!
# What comes back from the plugin state store

Whatever its files hold, a store that is opened, called and opened again gives a
family back as it was put, but for its slots: they are lost in the first copy.
-/

namespace DBPilot.Plugins

open FiniteMaps Directories Runs
open Jobs (Instant)

section calls

variable {B : Type} [StateCodec B]

inductive Call (B : Type) where
  | put (faults : Faults B) (now : Instant) (state : FamilyState)
  | delete (faults : Faults B) (now : Instant) (family : String) (operationRevision : Nat)

def Call.perform : Call B → Machine B → Machine B
  | .put faults now state, m => (Plugins.put faults now state m).1
  | .delete faults now family operationRevision, m => (Plugins.delete faults now family operationRevision m).1

/-- A store that `NewFileStore` has opened, after any calls. -/
def Reached (m : Machine B) : Prop :=
  ∃ directory store calls, newFileStore directory.visible = .ok store ∧
    Run (fun m (call : Call B) m' => call.perform m = m') ⟨directory, store⟩ calls m

/-- No file is newer than the store, but for what a failed call left in the file of the
next revision. -/
structure Sound (m : Machine B) : Prop where
  fit : m.store.Fit
  behind : ∀ suffix snapshot, readSnapshot (m.directory.visible (.state suffix)) = .ok (some snapshot) →
    snapshot.revision ≤ m.store.revision ∨
      suffix = suffixOf (m.store.revision + 1) ∧ snapshot.revision = m.store.revision + 1

variable {m m' : Machine B} {entries : Entries FileName B} {next store : FileStore} {now : Instant}
  {result : Except StateError Unit} {snapshot : DiskSnapshot} {state returned : FamilyState} {faults : Faults B}

lemma readSnapshot_ok {file : Option B} (read : readSnapshot file = .ok (some snapshot)) :
    validSnapshot snapshot = true ∧ snapshot.revision < 2 ^ 64 := by
  unfold readSnapshot at read
  split at read
  · cases read
  split at read
  · cases read
  split at read
  · cases read
  rename_i unmarshalled
  split at read
  · rename_i valid
    cases read
    exact ⟨valid, StateCodec.revision_unmarshal unmarshalled⟩
  · cases read

section loading

omit [StateCodec B]

variable {loading : Loading} {read : Except StateError (Option DiskSnapshot)}

lemma Loading.next_fit (fit : loading.store.Fit)
    (valid : ∀ snapshot, read = .ok (some snapshot) → validSnapshot snapshot = true ∧ snapshot.revision < 2 ^ 64) :
    (loading.next read).store.Fit := by
  match read with
  | .error e => exact fit
  | .ok none => exact fit
  | .ok (some snapshot) =>
    obtain ⟨checked, bounded⟩ := valid snapshot rfl
    unfold Loading.next
    dsimp only
    split
    · refine ⟨bounded, ?_⟩
      intro entry member
      obtain ⟨old, listed, rfl⟩ := List.mem_map.mp member
      rcases families : snapshot.families with _ | families
      · rw [families] at listed
        cases listed
      simp only [validSnapshot, families, Bool.and_eq_true, List.all_eq_true] at checked
      rw [families] at listed
      have passed := checked.2 old listed
      simp only [bne_iff_ne, ne_eq, decide_eq_true_eq] at passed
      obtain ⟨⟨⟨named, numbered⟩, past⟩, valid⟩ := passed
      have copy := validate_cloneFamily valid
      dsimp only
      rw [cloneFamily_eq] at copy ⊢
      exact ⟨named, numbered, past, copy, rfl⟩
    · exact fit

lemma Loading.le_next : loading.store.revision ≤ (loading.next read).store.revision := by
  match read with
  | .error e => exact Nat.le_refl _
  | .ok none => exact Nat.le_refl _
  | .ok (some snapshot) =>
    unfold Loading.next
    dsimp only
    split
    · exact Nat.le_of_lt ‹_›
    · exact Nat.le_refl _

lemma Loading.next_covers : snapshot.revision ≤ (loading.next (.ok (some snapshot))).store.revision := by
  unfold Loading.next
  dsimp only
  split
  · exact Nat.le_refl _
  · exact Nat.not_lt.mp ‹_›

end loading

lemma opened_sound {directory : Directory FileName B} (opened : newFileStore directory.visible = .ok store) :
    Sound ⟨directory, store⟩ := by
  unfold newFileStore at opened
  dsimp only at opened
  split at opened
  · cases opened
  cases opened
  constructor
  · exact Loading.next_fit (Loading.next_fit FileStore.empty_fit fun _ => readSnapshot_ok) fun _ => readSnapshot_ok
  intro suffix snapshot read
  left
  dsimp only at read ⊢
  cases suffix with
  | a =>
    rw [read]
    exact Nat.le_trans Loading.next_covers Loading.le_next
  | b =>
    rw [read]
    exact Loading.next_covers

lemma Sound.commits (sound : Sound m) (succeeds : Succeeds m.store next now) (commits : Commits next m m' result) :
    Sound m' := by
  cases commits with
  | idle e => exact sound
  | @failed encoded d' e encodes adds =>
    refine ⟨sound.fit, ?_⟩
    intro suffix snapshot read
    obtain ⟨more, pending, touches⟩ := adds.pending
    have visible : d'.visible = applyAll more m.directory.visible := by
      unfold Directory.visible
      rw [pending, adds.durable, applyAll_append]
    dsimp only at read
    rw [visible] at read
    rcases applyAll_cases more m.directory.visible (.state suffix) with same | ⟨update, member, leaves⟩
    · rw [same] at read
      exact sound.behind suffix snapshot read
    obtain ⟨here, none | some⟩ := touches update member suffix _ leaves
    · rw [none] at read
      cases read
    · rw [some, encodes.read] at read
      cases read
      rw [succeeds.revision] at here
      exact .inr ⟨here, succeeds.revision⟩
  | @done encoded before encodes adds =>
    refine ⟨succeeds.fit, ?_⟩
    intro suffix snapshot read
    left
    by_cases here : suffix = suffixOf next.revision
    · subst here
      have found : readSnapshot (some encoded) = .ok (some snapshot) := by
        rw [← renamed_self (d := before)]
        exact read
      rw [encodes.read] at found
      cases found
      exact Nat.le_refl _
    · have found : readSnapshot (m.directory.visible (.state suffix)) = .ok (some snapshot) := by
        rw [← adds.visible_other here, ← renamed_other (d := before) here]
        exact read
      dsimp only
      rw [succeeds.revision] at here ⊢
      rcases sound.behind suffix snapshot found with behind | ⟨same, _⟩
      · exact Nat.le_succ_of_le behind
      · exact absurd same here

lemma Call.sound (call : Call B) (sound : Sound m) : Sound (call.perform m) := by
  cases call with
  | put faults now state =>
    change Sound (Plugins.put faults now state m).1
    rcases prepared : preparePut faults.cancelled now state m.store with e | both
    · rw [put_of_error prepared]
      exact sound
    obtain ⟨kept, next⟩ := both
    obtain ⟨succeeds, _⟩ := preparePut_ok sound.fit prepared
    rw [put_of_ok prepared rfl]
    exact sound.commits succeeds (commit_commits succeeds rfl)
  | delete faults now family operationRevision =>
    change Sound (Plugins.delete faults now family operationRevision m).1
    rcases prepared : prepareDelete faults.cancelled now family operationRevision m.store with e | planned
    · rw [delete_of_error prepared]
      exact sound
    rcases planned with _ | next
    · rw [delete_of_none prepared]
      exact sound
    obtain ⟨succeeds, _⟩ := prepareDelete_ok sound.fit prepared
    rw [delete_of_some prepared]
    exact sound.commits succeeds (commit_commits succeeds rfl)

lemma Reached.sound (reached : Reached m) : Sound m := by
  obtain ⟨directory, store, calls, opened, run⟩ := reached
  refine run.invariant Sound ?_ (opened_sound opened)
  rintro a call b rfl sound
  exact call.sound sound

/-- After a commit the files hold the store. -/
lemma Sound.reopen (sound : Sound m) (succeeds : Succeeds m.store next now) (commits : Commits next m m' (.ok ())) :
    m'.store = next ∧ newFileStore m'.directory.visible = .ok next := by
  cases commits with
  | @done encoded before encodes adds =>
    refine ⟨rfl, ?_⟩
    have read : readSnapshot ((before.perform (.rename (.temporary (suffixOf next.revision))
        (.state (suffixOf next.revision)) encoded)).sync.visible (.state (suffixOf next.revision))) =
        .ok (some next.disk) := (congrArg readSnapshot renamed_self).trans encodes.read
    refine newFileStore_latest read encodes.numbered encodes.fit ?_
    intro other differs snapshot read
    have found : readSnapshot (m.directory.visible (.state other)) = .ok (some snapshot) := by
      rw [← adds.visible_other differs, ← renamed_other (d := before) differs]
      exact read
    rw [succeeds.revision] at differs ⊢
    rcases sound.behind other snapshot found with behind | ⟨same, _⟩
    · exact Nat.lt_succ_of_le behind
    · exact absurd same differs

/-- A put that returned without an error: what the store has become, and what opening
its files gives. -/
lemma put_ok (sound : Sound m) (done : put faults now state m = (m', .ok returned)) :
    m'.store.Fit ∧ newFileStore m'.directory.visible = .ok m'.store ∧
      m'.store.families = m.store.families.set state.databaseFamily
        { state with stateRevision := m'.store.revision, slots := .empty } := by
  rcases prepared : preparePut faults.cancelled now state m.store with e | both
  · rw [put_of_error prepared] at done
    cases done
  obtain ⟨kept, next⟩ := both
  obtain ⟨succeeds, rfl, families⟩ := preparePut_ok sound.fit prepared
  cases committed : commit faults next m with
  | mk after result =>
    rw [put_of_ok prepared committed] at done
    rcases result with e | u
    · cases done
    cases done
    obtain ⟨same, opened⟩ := sound.reopen succeeds (commit_commits succeeds committed)
    rw [same]
    refine ⟨succeeds.fit, opened, ?_⟩
    rw [families, cloneFamily_eq, succeeds.revision]

lemma mem_sortedFamilies {families : FiniteMap String FamilyState} :
    state ∈ sortedFamilies families ↔ ∃ entry ∈ families.entries, cloneFamily entry.2 = state := by
  simp only [sortedFamilies, List.mem_map, List.mem_insertionSort]
  constructor
  · rintro ⟨_, ⟨entry, member, rfl⟩, same⟩
    exact ⟨entry, member, same⟩
  · rintro ⟨entry, member, same⟩
    exact ⟨_, ⟨entry, member, rfl⟩, same⟩

/-- The store holds a family, by every way of reading it. -/
structure Holds (store : FileStore) (state : FamilyState) : Prop where
  got : store.get state.databaseFamily = some state
  listed : state ∈ store.list
  snapshot : state ∈ store.snapshot.2.2

/-- A family comes back as it was put, from the store and from its files, and the others
are as they were. -/
structure RoundTrip (m m' : Machine B) (state : FamilyState) : Prop where
  store : Holds m'.store { state with stateRevision := m'.store.revision }
  files : ∃ store, newFileStore m'.directory.visible = .ok store ∧
    Holds store { state with stateRevision := m'.store.revision } ∧
    ∀ family ≠ state.databaseFamily, store.get family = m.store.get family
  others : ∀ family ≠ state.databaseFamily, m'.store.get family = m.store.get family

/-- A family that was put comes back unchanged exactly when it has no slots. -/
theorem put_round_trip_iff (reached : Reached m) (done : put faults now state m = (m', .ok returned)) :
    RoundTrip m m' state ↔ state.slots = .empty := by
  have sound := reached.sound
  obtain ⟨fit, opened, families⟩ := put_ok sound done
  have others : ∀ family ≠ state.databaseFamily, m'.store.get family = m.store.get family := by
    intro family other
    rw [fit.get, sound.fit.get, families, FiniteMap.get_set_of_ne other]
  have found : m'.store.families.get state.databaseFamily =
      some { state with stateRevision := m'.store.revision, slots := .empty } := by
    rw [families]
    exact FiniteMap.get_set_self
  constructor
  · intro trip
    have got := trip.store.got
    rw [fit.get] at got
    have same := Option.some.inj (found.symm.trans got)
    exact (congrArg FamilyState.slots same).symm
  · intro bare
    have whole : Holds m'.store { state with stateRevision := m'.store.revision } := by
      rw [← bare] at found
      have member := FiniteMap.get_eq_some.mp found
      have listed : { state with stateRevision := m'.store.revision } ∈ sortedFamilies m'.store.families :=
        mem_sortedFamilies.mpr ⟨_, member, cloneFamily_eq_self.mpr (fit.kept _ member).bare⟩
      exact ⟨by rw [fit.get, found], listed, listed⟩
    exact ⟨whole, ⟨m'.store, opened, whole, others⟩, others⟩

end calls

section sample

local instance roundTripText : StateCodec DiskSnapshot := snapshotText

/-- A family with an installed slot. -/
def slottedFamily : FamilyState :=
  { sampleFamily with
    installedVersion := "1.0.0"
    activeSlot := .a
    slots := ⟨[(.a, ⟨"1.0.0", sampleDigest, sampleDigest, some 1⟩)], by simp⟩ }

def slottedPut : Machine DiskSnapshot := (put noFaults 1 slottedFamily fresh).1

lemma fresh_reached : Reached (fresh : Machine DiskSnapshot) := ⟨_, _, [], rfl, .nil _⟩

/-- A family with a slot is put, and comes back without it. -/
theorem slots_lost :
    Reached (fresh : Machine DiskSnapshot) ∧ slottedFamily.validate = true ∧
      (put noFaults 1 slottedFamily fresh).2.isOk = true ∧
      slottedPut.store.get "postgres" = some { slottedFamily with stateRevision := 1, slots := .empty } ∧
      (newFileStore slottedPut.directory.visible).toOption.bind (·.get "postgres") =
        some { slottedFamily with stateRevision := 1, slots := .empty } ∧
      slottedFamily.slots ≠ .empty :=
  ⟨fresh_reached, by decide +kernel⟩

theorem put_round_trip_iff_bare :
    ∃ returned, (put noFaults 1 sampleFamily fresh).2 = .ok returned ∧ RoundTrip fresh firstPut sampleFamily := by
  have done : put noFaults 1 sampleFamily fresh = (firstPut, .ok _) := rfl
  exact ⟨_, rfl, (put_round_trip_iff fresh_reached done).mpr rfl⟩

end sample

end DBPilot.Plugins
