import DBPilot.Plugins.Store

/-!
# What the store writes and reads back
-/

namespace DBPilot.Plugins

open FiniteMaps Directories
open Jobs (Instant)

/-! Copies. -/

lemma cloneTemplates_eq {values : List (Option MetricTemplateConfiguration)} : cloneTemplates values = values := by
  refine (List.map_congr_left ?_).trans (List.map_id _)
  intro value _
  cases value <;> rfl

lemma cloneInstanceTemplateRefs_eq {values : List InstanceTemplateReferences} :
    cloneInstanceTemplateRefs values = values := (List.map_congr_left fun _ _ => rfl).trans (List.map_id _)

variable {state : FamilyState}

/-- A copy has every field but the slots. -/
lemma cloneFamily_eq : cloneFamily state = { state with slots := .empty } := by
  simp only [cloneFamily, cloneTemplates_eq, cloneInstanceTemplateRefs_eq]
  rfl

lemma cloneFamily_eq_self : cloneFamily state = state ↔ state.slots = .empty := by
  rw [cloneFamily_eq]
  constructor
  · intro same
    exact (congrArg FamilyState.slots same).symm
  · intro bare
    rw [← bare]

lemma validate_cloneFamily (valid : state.validate = true) : (cloneFamily state).validate = true := by
  rw [cloneFamily_eq]
  simp only [FamilyState.validate, Bool.and_eq_true] at valid ⊢
  obtain ⟨⟨checks, _⟩, failures⟩ := valid
  exact ⟨⟨checks, rfl⟩, failures⟩

/-- What the store keeps of a family. -/
structure Kept (revision : Nat) (family : String) (state : FamilyState) : Prop where
  named : family = state.databaseFamily
  numbered : state.stateRevision ≠ 0
  past : state.stateRevision ≤ revision
  valid : state.validate = true
  bare : state.slots = .empty

structure FileStore.Fit (store : FileStore) : Prop where
  bounded : store.revision < 2 ^ 64
  kept : ∀ entry ∈ store.families.entries, Kept store.revision entry.1 entry.2

variable {store next : FileStore}

lemma FileStore.Fit.clone (fit : store.Fit) : cloneFamilies store.families = store.families :=
  FiniteMap.mapValues_eq_self fun entry member => cloneFamily_eq_self.mpr (fit.kept entry member).bare

lemma FileStore.Fit.get (fit : store.Fit) {family : String} : store.get family = store.families.get family := by
  unfold FileStore.get
  rw [← FiniteMap.get_mapValues]
  exact congrArg (fun families : FiniteMap String FamilyState => families.get family) fit.clone

lemma FileStore.empty_fit : FileStore.empty.Fit := ⟨by decide, fun _ member => absurd member List.not_mem_nil⟩

lemma nextRevision_eq {revision : Nat} (bounded : revision < 2 ^ 64) (some : nextRevision revision ≠ 0) :
    nextRevision revision = revision + 1 ∧ revision + 1 < 2 ^ 64 := by
  unfold nextRevision at *
  by_cases last : revision + 1 = 2 ^ 64
  · rw [last] at some
    simp at some
  · have inside : revision + 1 < 2 ^ 64 := by omega
    exact ⟨Nat.mod_eq_of_lt inside, inside⟩

section prepared

variable {cancelled : Bool} {now : Instant} {state kept : FamilyState} {family : String} {operationRevision : Nat}

/-- What a call is to make of the store. -/
structure Succeeds (store next : FileStore) (now : Instant) : Prop where
  revision : next.revision = store.revision + 1
  observed : next.observedAt = some now
  fit : next.Fit

lemma preparePut_ok (fit : store.Fit) (prepared : preparePut cancelled now state store = .ok (kept, next)) :
    Succeeds store next now ∧ kept = { state with stateRevision := store.revision + 1 } ∧
      next.families = store.families.set state.databaseFamily (cloneFamily kept) := by
  unfold preparePut at prepared
  split at prepared
  · cases prepared
  rename_i checked
  split at prepared
  · cases prepared
  dsimp only at prepared
  split at prepared
  · cases prepared
  rename_i some
  obtain ⟨revision, bounded⟩ := nextRevision_eq fit.bounded some
  rw [revision, fit.clone] at prepared
  cases prepared
  refine ⟨⟨rfl, rfl, bounded, ?_⟩, rfl, rfl⟩
  intro entry member
  rcases FiniteMap.mem_set.mp member with rfl | ⟨old, _⟩
  · have valid : state.validate = true := by simp_all
    have same : cloneFamily { state with stateRevision := store.revision + 1 } =
        { state with stateRevision := store.revision + 1, slots := .empty } := cloneFamily_eq
    dsimp only
    rw [same]
    refine ⟨rfl, Nat.succ_ne_zero _, Nat.le_refl _, ?_, rfl⟩
    have copy := validate_cloneFamily valid
    rw [cloneFamily_eq] at copy
    exact copy
  · have known := fit.kept entry old
    exact ⟨known.named, known.numbered, Nat.le_succ_of_le known.past, known.valid, known.bare⟩

lemma prepareDelete_ok (fit : store.Fit)
    (prepared : prepareDelete cancelled now family operationRevision store = .ok (some next)) :
    Succeeds store next now ∧ next.families = store.families.erase family := by
  unfold prepareDelete at prepared
  split at prepared
  · cases prepared
  split at prepared
  · cases prepared
  split at prepared
  · cases prepared
  dsimp only at prepared
  split at prepared
  · cases prepared
  rename_i some
  obtain ⟨revision, bounded⟩ := nextRevision_eq fit.bounded some
  rw [revision, fit.clone] at prepared
  cases prepared
  refine ⟨⟨rfl, rfl, bounded, ?_⟩, rfl⟩
  intro entry member
  have known := fit.kept entry (List.mem_filter.mp member).1
  exact ⟨known.named, known.numbered, Nat.le_succ_of_le known.past, known.valid, known.bare⟩

end prepared

/-! Files. -/

section files

variable {B : Type} [StateCodec B] {body : B} {faults : Faults B} {snapshot : DiskSnapshot} {suffix other : Suffix}
  {d d' : Directory FileName B} {entries : Entries FileName B} {e : StateError}

/-- The text of a store. -/
structure Encodes (body : B) (store : FileStore) : Prop where
  text : StateCodec.marshal store.disk = some body
  short : StateCodec.size body ≤ 2 ^ 20
  numbered : store.revision ≠ 0
  observed : store.observedAt.isSome = true
  fit : store.Fit

lemma Encodes.read (encodes : Encodes body store) : readSnapshot (some body) = .ok (some store.disk) := by
  have positive := StateCodec.size_marshal encodes.text
  have valid : validSnapshot store.disk = true := by
    simp only [validSnapshot, FileStore.disk, Bool.and_eq_true, bne_iff_ne, List.all_eq_true, decide_eq_true_eq]
    refine ⟨⟨encodes.numbered, encodes.observed⟩, ?_⟩
    intro entry member
    have known := encodes.fit.kept entry member
    exact ⟨⟨⟨known.named, known.numbered⟩, decide_eq_true known.past⟩, known.valid⟩
  unfold readSnapshot
  dsimp only
  rw [if_neg (by have := encodes.short; omega), StateCodec.unmarshal_marshal encodes.text]
  dsimp only
  rw [if_pos valid]

/-- What is added to a directory by writing to one of the files: only that file is
touched, and holds nothing or the whole text. -/
structure Adds (suffix : Suffix) (encoded : B) (d d' : Directory FileName B) : Prop where
  durable : d'.durable = d.durable
  pending : ∃ more, d'.pending = d.pending ++ more ∧ ∀ update ∈ more, ∀ s content,
    update.Leaves (.state s) content → s = suffix ∧ (content = none ∨ content = some encoded)

variable {encoded : B} {d'' : Directory FileName B} {result : Except StateError Unit}

section

omit [StateCodec B]

lemma Adds.refl : Adds suffix encoded d d := ⟨rfl, [], by simp, by simp⟩

lemma Adds.trans (first : Adds suffix encoded d d') (second : Adds suffix encoded d' d'') :
    Adds suffix encoded d d'' := by
  obtain ⟨more, pending, touches⟩ := first.pending
  obtain ⟨more', pending', touches'⟩ := second.pending
  refine ⟨second.durable.trans first.durable, more ++ more', by rw [pending', pending, List.append_assoc], ?_⟩
  intro update member
  rcases List.mem_append.mp member with old | new
  · exact touches update old
  · exact touches' update new

lemma Adds.perform {update : Update FileName B}
    (touches : ∀ s content, update.Leaves (.state s) content → s = suffix ∧ (content = none ∨ content = some encoded)) :
    Adds suffix encoded d (d.perform update) := by
  refine ⟨rfl, [update], rfl, ?_⟩
  intro one member
  rw [List.mem_singleton.mp member]
  exact touches

lemma Adds.link (content : B) : Adds suffix encoded d (d.perform (.link (.temporary suffix) content)) := by
  apply Adds.perform
  rintro s content ⟨⟩

lemma Adds.rename : Adds suffix encoded d (d.perform (.rename (.temporary suffix) (.state suffix) encoded)) := by
  apply Adds.perform
  rintro s content ⟨⟩
  exact ⟨rfl, .inr rfl⟩

lemma Adds.removeTemporary : Adds suffix encoded d (removeIfExists d (.temporary suffix)) := by
  unfold removeIfExists
  split
  · apply Adds.perform
    rintro s content ⟨⟩
  · exact .refl

lemma Adds.removeTarget : Adds suffix encoded d (removeIfExists d (.state suffix)) := by
  unfold removeIfExists
  split
  · apply Adds.perform
    rintro s content ⟨⟩
    exact ⟨rfl, .inl rfl⟩
  · exact .refl

lemma Adds.discard : Adds suffix encoded d (discard faults d (.temporary suffix)) := by
  unfold Plugins.discard
  split
  · exact .refl
  · exact .removeTemporary

lemma Adds.visible_other (adds : Adds suffix encoded d d') (differs : other ≠ suffix) :
    d'.visible (.state other) = d.visible (.state other) := by
  obtain ⟨more, pending, touches⟩ := adds.pending
  unfold Directory.visible
  rw [pending, adds.durable, applyAll_append]
  refine applyAll_untouched ?_
  intro update member content leaves
  exact differs (touches update member other content leaves).1

lemma renamed_self :
    (d.perform (.rename (.temporary suffix) (.state suffix) encoded)).sync.durable (.state suffix) = some encoded := by
  simp only [Directory.sync, Directory.visible, Directory.perform, applyAll_append]
  exact Function.update_self ..

lemma renamed_other (differs : other ≠ suffix) :
    (d.perform (.rename (.temporary suffix) (.state suffix) encoded)).sync.durable (.state other) =
      d.visible (.state other) := by
  simp only [Directory.sync, Directory.visible, Directory.perform, applyAll_append]
  refine (Function.update_of_ne ?_ _ _).trans (Function.update_of_ne ?_ _ _)
  · simpa using differs
  · simp

/-- A write that ends without an error has renamed the whole text into place and synced
the directory; one that fails has only added to it. -/
lemma writeFile_cases
    (written : writeFile faults suffix encoded d = (d', result)) :
    (∃ e, result = .error e) ∧ Adds suffix encoded d d' ∨
      result = .ok () ∧ ∃ before, Adds suffix encoded d before ∧
        d' = (before.perform (.rename (.temporary suffix) (.state suffix) encoded)).sync := by
  unfold writeFile at written
  dsimp only at written
  have removed : Adds suffix encoded d (removeIfExists d (.temporary suffix)) := .removeTemporary
  split at written
  · cases written
    exact .inl ⟨⟨_, rfl⟩, .refl⟩
  split at written
  · cases written
    exact .inl ⟨⟨_, rfl⟩, removed⟩
  have created := removed.trans (.link faults.left)
  split at written
  · cases written
    exact .inl ⟨⟨_, rfl⟩, created.trans .discard⟩
  have linked := created.trans (.link encoded)
  split at written
  · cases written
    exact .inl ⟨⟨_, rfl⟩, linked.trans .discard⟩
  have cleared := linked.trans .removeTarget
  split at written
  · cases written
    exact .inl ⟨⟨_, rfl⟩, cleared⟩
  · split at written
    · cases written
      exact .inl ⟨⟨_, rfl⟩, cleared.trans .rename⟩
    · cases written
      exact .inr ⟨rfl, _, cleared, rfl⟩

end

lemma writeSnapshot_cases
    (written : writeSnapshot faults snapshot d = (d', result)) :
    (∃ e, result = .error e) ∧ d' = d ∨
      ∃ encoded, StateCodec.marshal snapshot = some encoded ∧ StateCodec.size encoded ≤ 2 ^ 20 ∧
        writeFile faults (suffixOf snapshot.revision) encoded d = (d', result) := by
  unfold writeSnapshot at written
  split at written
  · cases written
    exact .inl ⟨⟨_, rfl⟩, rfl⟩
  split at written
  · cases written
    exact .inl ⟨⟨_, rfl⟩, rfl⟩
  · rename_i encoded text
    split at written
    · cases written
      exact .inl ⟨⟨_, rfl⟩, rfl⟩
    · exact .inr ⟨encoded, text, by omega, written⟩

/-- What a commit does, in terms of the text that it writes. -/
inductive Commits (next : FileStore) (m : Machine B) : Machine B → Except StateError Unit → Prop
  | idle (e : StateError) : Commits next m m (.error e)
  | failed {encoded : B} {d' : Directory FileName B} (e : StateError) (encodes : Encodes encoded next)
      (adds : Adds (suffixOf next.revision) encoded m.directory d') : Commits next m ⟨d', m.store⟩ (.error e)
  | done {encoded : B} {before : Directory FileName B} (encodes : Encodes encoded next)
      (adds : Adds (suffixOf next.revision) encoded m.directory before) :
      Commits next m ⟨(before.perform
        (.rename (.temporary (suffixOf next.revision)) (.state (suffixOf next.revision)) encoded)).sync, next⟩ (.ok ())

lemma commit_commits {m m' : Machine B} {now : Instant}
    (succeeds : Succeeds store next now) (committed : commit faults next m = (m', result)) :
    Commits next m m' result := by
  unfold commit at committed
  cases written : writeSnapshot faults next.disk m.directory with
  | mk =>
    rw [written] at committed
    have numbered : next.revision ≠ 0 := by
      rw [succeeds.revision]
      exact Nat.succ_ne_zero _
    have observed : next.observedAt.isSome = true := by
      rw [succeeds.observed]
      rfl
    rcases writeSnapshot_cases written with ⟨⟨e, rfl⟩, rfl⟩ | ⟨encoded, text, short, made⟩
    · cases committed
      exact .idle e
    have encodes : Encodes encoded next := ⟨text, short, numbered, observed, succeeds.fit⟩
    rcases writeFile_cases made with ⟨⟨e, rfl⟩, adds⟩ | ⟨rfl, before, adds, rfl⟩
    · cases committed
      exact .failed e encodes adds
    · cases committed
      exact .done encodes adds

section calls

variable {m m' : Machine B} {now : Instant} {state kept : FamilyState} {family : String} {operationRevision : Nat}
  {result : Except StateError Unit}

lemma put_of_error (prepared : preparePut faults.cancelled now state m.store = .error e) :
    put faults now state m = (m, .error e) := by
  unfold put
  rw [prepared]

lemma put_of_ok (prepared : preparePut faults.cancelled now state m.store = .ok (kept, next))
    (committed : commit faults next m = (m', result)) :
    put faults now state m = (m', result.map fun _ => cloneFamily kept) := by
  unfold put
  rw [prepared]
  dsimp only
  rw [committed]
  cases result <;> rfl

lemma delete_of_error (prepared : prepareDelete faults.cancelled now family operationRevision m.store = .error e) :
    delete faults now family operationRevision m = (m, .error e) := by
  unfold delete
  rw [prepared]

lemma delete_of_none (prepared : prepareDelete faults.cancelled now family operationRevision m.store = .ok none) :
    delete faults now family operationRevision m = (m, .ok ()) := by
  unfold delete
  rw [prepared]

lemma delete_of_some
    (prepared : prepareDelete faults.cancelled now family operationRevision m.store = .ok (some next)) :
    delete faults now family operationRevision m = commit faults next m := by
  unfold delete
  rw [prepared]

end calls

section loading

omit [StateCodec B]

variable {loading : Loading} {read : Except StateError (Option DiskSnapshot)}

lemma Loading.next_newest (newest : loading.store.revision < store.revision) (fit : store.Fit) :
    loading.next (.ok (some store.disk)) = ⟨store, loading.valid + 1, loading.invalid⟩ := by
  refine (if_pos newest).trans ?_
  simp only [FileStore.disk, Option.getD_some, fit.clone]

/-- A file that is not newer leaves the store, and nothing that was valid is forgotten. -/
lemma Loading.next_older
    (older : ∀ snapshot, read = .ok (some snapshot) → snapshot.revision ≤ loading.store.revision) :
    (loading.next read).store = loading.store ∧ loading.valid ≤ (loading.next read).valid := by
  match read with
  | .error e => exact ⟨rfl, Nat.le_refl _⟩
  | .ok none => exact ⟨rfl, Nat.le_refl _⟩
  | .ok (some snapshot) =>
    have behind := older snapshot rfl
    have stays : loading.next (.ok (some snapshot)) = { loading with valid := loading.valid + 1 } :=
      if_neg (Nat.not_lt.mpr behind)
    rw [stays]
    exact ⟨rfl, Nat.le_succ _⟩

lemma Loading.next_revision {bound : Nat} (start : loading.store.revision < bound)
    (older : ∀ snapshot, read = .ok (some snapshot) → snapshot.revision < bound) :
    (loading.next read).store.revision < bound := by
  match read with
  | .error e => exact start
  | .ok none => exact start
  | .ok (some snapshot) =>
    unfold Loading.next
    dsimp only
    split
    · exact older snapshot rfl
    · exact start

end loading

lemma newFileStore_of_valid {loading : Loading}
    (reached : ((⟨.empty, 0, none⟩ : Loading).next (readSnapshot (entries (.state .a)))).next
      (readSnapshot (entries (.state .b))) = loading) (valid : 0 < loading.valid) :
    newFileStore entries = .ok loading.store := by
  unfold newFileStore
  dsimp only
  rw [reached]
  obtain ⟨count, more⟩ := Nat.exists_eq_succ_of_ne_zero (Nat.pos_iff_ne_zero.mp valid)
  rw [more]
  cases loading.invalid <;> rfl

/-- `NewFileStore` loads the newest of the files that it can read. -/
lemma newFileStore_latest (read : readSnapshot (entries (.state suffix)) = .ok (some store.disk))
    (numbered : store.revision ≠ 0) (fit : store.Fit)
    (older : ∀ other ≠ suffix, ∀ snapshot, readSnapshot (entries (.state other)) = .ok (some snapshot) →
      snapshot.revision < store.revision) :
    newFileStore entries = .ok store := by
  have positive : 0 < store.revision := Nat.pos_of_ne_zero numbered
  cases suffix with
  | a =>
    have first : (⟨.empty, 0, none⟩ : Loading).next (readSnapshot (entries (.state .a))) = ⟨store, 1, none⟩ := by
      rw [read]
      exact Loading.next_newest positive fit
    have stays : ((⟨store, 1, none⟩ : Loading).next (readSnapshot (entries (.state .b)))).store = store ∧
        1 ≤ ((⟨store, 1, none⟩ : Loading).next (readSnapshot (entries (.state .b)))).valid :=
      Loading.next_older fun snapshot second => Nat.le_of_lt (older .b (by decide) snapshot second)
    rw [newFileStore_of_valid (congrArg (fun loading => Loading.next loading _) first) stays.2, stays.1]
  | b =>
    have behind : ((⟨.empty, 0, none⟩ : Loading).next (readSnapshot (entries (.state .a)))).store.revision <
        store.revision := Loading.next_revision positive (older .a (by decide))
    have second := Loading.next_newest behind fit
    rw [← read] at second
    rw [newFileStore_of_valid second (Nat.succ_pos _)]

end files

end DBPilot.Plugins
