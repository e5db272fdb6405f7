import DBPilot.Spool.Open

/-!
# The store and the segmented log

The abstract spool is a segmented log of records. A disk represents a log when
every segment file is the encodings of the segment's records, followed by an end
that `Tails` allows; a store indexes a log when its class lists are the records
in sequence order, each pointing at its segment. The acknowledgement flag of a
cursor is not part of a record: it is changed in memory without a rewrite.
-/

namespace DBPilot.Spool

open WallClock SegmentedLog KeyedSort

variable {J : Json} {T : Tails} {log : Log Record} {s : Store} {file : Option Bytes} {l : List Record}
  {c : DataClass} {f : Segment}

structure Record where
  batch : Batch
  dataClass : DataClass
  sequence : Nat
  cursor : Option PersistedCursorReceipt
  deriving DecidableEq

/-- The logical identity of a record. -/
def Record.ident (r : Record) : DataClass × String := (r.dataClass, r.batch.id)

def Entry.record (e : Entry) : Record where
  batch := e.batch
  dataClass := e.dataClass
  sequence := e.sequence
  cursor := e.cursor.map (·.withAck true)

/-- What `append` guarantees of everything it writes. -/
structure Record.Valid (r : Record) : Prop where
  dataClass : validClass r.dataClass = true
  id : r.batch.id ≠ ""
  sourceID : r.batch.sourceID ≠ ""
  createdAt : r.batch.createdAt.offset = 0
  sequence : r.sequence ≠ 0
  cursor : ∀ cursor, r.cursor = some cursor → cursor.Current

/-- `chunk` is an encoding of `r`, with either value of the acknowledgement flag. -/
def Image (J : Json) (r : Record) (chunk : Bytes) : Prop :=
  ∃ e : Entry, e.record = r ∧ encodeEntry J e = .ok chunk

/-- The unfinished ends a segment file may have, given its whole contents. -/
structure Tails where
  allowed : Bytes → Bytes → Prop
  nil : ∀ contents, allowed contents []

namespace Tails

/-- Complete records only. -/
def clean : Tails := ⟨fun _ tail => tail = [], fun _ => rfl⟩

/-- An interrupted write of one further record. -/
def torn (J : Json) : Tails where
  allowed := fun _ tail => tail = [] ∨ ∃ header payload, TornRecord J header payload tail
  nil := fun _ => .inl rfl

/-- An interrupted write that recovery cuts off. -/
def safe (J : Json) : Tails where
  allowed := fun contents tail => tail = [] ∨ ∃ header payload, TornRecord J header payload tail ∧
    ¬ (17 ≤ tail.length ∧ contents.length < payload.length)
  nil := fun _ => .inl rfl

end Tails

/-- A file holds the records of a segment, or neither exists. -/
def Stored (J : Json) (T : Tails) : Option (List Record) → Option Bytes → Prop
  | none, file => file = none
  | some l, file => ∃ chunks tail, List.Forall₂ (Image J) l chunks ∧
      file = some (chunks.flatten ++ tail) ∧ T.allowed (chunks.flatten ++ tail) tail

def Represents (J : Json) (T : Tails) (d : Disk) (log : Log Record) : Prop :=
  ∀ f, Stored J T (log f) (d.read f)

structure Indexes (s : Store) (log : Log Record) : Prop where
  increasing : ∀ c, Increasing Entry.sequence (s.entries c)
  sound : ∀ {c e}, e ∈ s.entries c → e.dataClass = c ∧ Holds log e.file e.record
  complete : ∀ {f r}, Holds log f r → ∃ e ∈ s.entries r.dataClass, e.file = f ∧ e.record = r
  bounded : ∀ {f r}, Holds log f r → r.sequence ≤ s.nextSeq

/-- The segment files hold a well-formed log of valid records. -/
structure Consistent (J : Json) (T : Tails) (log : Log Record) (d : Disk) : Prop where
  wf : WellFormed Record.sequence Record.ident log
  valid : ∀ {f r}, Holds log f r → r.Valid
  files : Represents J T d log

/-- Disk and memory agree on one well-formed log. -/
structure Coherent (J : Json) (T : Tails) (log : Log Record) (s : Store) : Prop
    extends Consistent J T log s.disk where
  index : Indexes s log
  activeFile : s.activeFile = none ∨ s.activeFile = some .active

/-! ## Records and their encodings -/

@[simp] lemma record_sequence (e : Entry) : e.record.sequence = e.sequence := rfl

@[simp] lemma record_dataClass (e : Entry) : e.record.dataClass = e.dataClass := rfl

@[simp] lemma record_batch (e : Entry) : e.record.batch = e.batch := rfl

variable {e : Entry}

lemma current_of_valid (h : e.record.Valid) {cursor : PersistedCursorReceipt} (hc : e.cursor = some cursor) :
    cursor.Current := by
  have hcurrent := h.cursor (cursor.withAck true) (by simp [Entry.record, hc])
  exact hcurrent.withAck cursor.ackPending

lemma clone_cursor_of_valid (h : e.record.Valid) : e.cursor.map clonePersistedCursor = e.cursor := by
  cases hc : e.cursor with
  | none => rfl
  | some => simp [clonePersistedCursor_of_current (current_of_valid h hc)]

/-- The entry read back from an encoding is the one encoded, up to its file. -/
lemma recordEntry_entryHeader (h : e.record.Valid) (chunk : Bytes) :
    recordEntry (entryHeader e, e.batch.payload) chunk = { e with file := .active, bytes := chunk.length } := by
  have hcursor : (e.cursor.map clonePersistedCursor).map clonePersistedCursor = e.cursor := by
    rw [clone_cursor_of_valid h, clone_cursor_of_valid h]
  have hcreated : e.batch.createdAt.utc = e.batch.createdAt := Time.utc_eq_self h.createdAt
  simp only [recordEntry, entryOf, entryHeader, hcursor, hcreated]

lemma encodeEntries_ok {items : List Entry} {contents : Bytes}
    (h : encodeEntries J items = .ok contents) : ∃ chunks, contents = chunks.flatten ∧
      List.Forall₂ (fun e chunk => encodeEntry J e = .ok chunk) items chunks := by
  induction items generalizing contents with
  | nil =>
    cases h
    exact ⟨[], rfl, .nil⟩
  | cons e items ih =>
    simp only [encodeEntries] at h
    cases he : encodeEntry J e with
    | error err => simp [he] at h
    | ok record =>
      cases hrest : encodeEntries J items with
      | error err => simp [he, hrest, Except.map] at h
      | ok =>
        simp only [he, hrest, Except.map, Except.ok.injEq] at h
        obtain ⟨chunks, rfl, hchunks⟩ := ih hrest
        exact ⟨record :: chunks, by rw [← h, List.flatten_cons], .cons he hchunks⟩

/-! ## Files that represent a segment -/

lemma Stored.mono {T' : Tails} (weaker : ∀ {contents tail}, T.allowed contents tail → T'.allowed contents tail)
    {l : Option (List Record)} (h : Stored J T l file) :
    Stored J T' l file := by
  cases l with
  | none => exact h
  | some l =>
    obtain ⟨chunks, tail, himages, hfile, htail⟩ := h
    exact ⟨chunks, tail, himages, hfile, weaker htail⟩

lemma Stored.of_clean (T : Tails) {l : Option (List Record)} (h : Stored J .clean l file) : Stored J T l file :=
  h.mono fun {contents tail} htail => by
    change tail = [] at htail
    rw [htail]
    exact T.nil contents

lemma stored_clean_iff :
    Stored J .clean (some l) file ↔ ∃ chunks, List.Forall₂ (Image J) l chunks ∧ file = some chunks.flatten := by
  constructor
  · rintro ⟨chunks, tail, himages, hfile, rfl⟩
    exact ⟨chunks, himages, by simpa using hfile⟩
  · rintro ⟨chunks, himages, hfile⟩
    exact ⟨chunks, [], himages, by simpa using hfile, rfl⟩

lemma Represents.read_isSome {d : Disk} (h : Represents J T d log) (f : Segment) :
    (d.read f).isSome ↔ (log f).isSome := by
  have hf := h f
  cases hl : log f with
  | none =>
    rw [hl] at hf
    change d.read f = none at hf
    simp [hf]
  | some l =>
    rw [hl] at hf
    obtain ⟨chunks, tail, -, hfile, -⟩ := hf
    simp [hfile]

lemma Represents.read_of_holds {d : Disk} (h : Represents J T d log) {r : Record} (held : Holds log f r) :
    ∃ contents, d.read f = some contents := by
  obtain ⟨l, hl, -⟩ := held
  exact Option.isSome_iff_exists.mp ((h.read_isSome f).mpr (by simp [hl]))

/-! ## Entries that index a log -/

namespace Indexes

lemma entry_unique (wf : WellFormed Record.sequence Record.ident log) (h : Indexes s log) {c' : DataClass}
    {e' : Entry} (he : e ∈ s.entries c) (he' : e' ∈ s.entries c') (same : e.sequence = e'.sequence) : e = e' := by
  obtain ⟨rfl, hheld⟩ := h.sound he
  obtain ⟨rfl, hheld'⟩ := h.sound he'
  obtain ⟨-, hrecord⟩ := wf.seq_inj hheld hheld' same
  have hclass : e.dataClass = e'.dataClass := congrArg Record.dataClass hrecord
  rw [hclass] at he
  exact (h.increasing _).key_inj he he' same

end Indexes

namespace Coherent

section

variable (h : Coherent J T log s)
include h

lemma entry_valid (he : e ∈ s.entries c) : e.record.Valid := h.valid (h.index.sound he).2

lemma mem_all : e ∈ s.all ↔ e ∈ s.entries e.dataClass := by
  simp only [Store.all, List.mem_flatMap]
  constructor
  · rintro ⟨c, -, he⟩
    obtain ⟨rfl, -⟩ := h.index.sound he
    exact he
  · intro he
    exact ⟨e.dataClass, mem_classes.mpr (h.entry_valid he).dataClass, he⟩

lemma mem_entries : e ∈ s.entries c ↔ e ∈ s.all ∧ e.dataClass = c := by
  constructor
  · intro he
    obtain ⟨rfl, -⟩ := h.index.sound he
    exact ⟨h.mem_all.mpr he, rfl⟩
  · rintro ⟨he, rfl⟩
    exact h.mem_all.mp he

lemma holds_of_mem_all (he : e ∈ s.all) : Holds log e.file e.record := (h.index.sound (h.mem_all.mp he)).2

lemma exists_of_holds {r : Record} (held : Holds log f r) : ∃ e ∈ s.all, e.file = f ∧ e.record = r := by
  obtain ⟨e, he, hfile, rfl⟩ := h.index.complete held
  exact ⟨e, h.mem_all.mpr he, hfile, rfl⟩

/-- No two entries of the store share a sequence, in whatever classes. -/
lemma sequences_nodup : (s.all.map Entry.sequence).Nodup := by
  rw [Store.all, List.map_flatMap]
  refine List.nodup_flatMap.mpr ⟨?_, ?_⟩
  · intro c _
    refine List.pairwise_map.mpr ((h.index.increasing c).imp ?_)
    intro a b hlt heq
    omega
  · refine classes_nodup.imp ?_
    intro c c' hne n hn hn'
    obtain ⟨e, he, rfl⟩ := List.mem_map.mp hn
    obtain ⟨e', he', hsame⟩ := List.mem_map.mp hn'
    have heq := h.index.entry_unique h.wf he he' hsame.symm
    exact hne ((h.index.sound he).1.symm.trans (heq ▸ (h.index.sound he').1))

end

end Coherent
end DBPilot.Spool
