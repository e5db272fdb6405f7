import DBPilot.Spool.Compaction

/-!
# The calls

A completed append pushes one record onto the log; an acknowledged cursor leaves
the log as it is. `Effect` says once what a call can do to the queue and to the
cursor receipts.
-/

namespace DBPilot.Spool

open WallClock SegmentedLog

variable {J : Json} {T : Tails} {log : Log Record} {s s' : Store} {c : DataClass} {batch : Batch}
  {receipt : Option PersistedCursorReceipt} {encoded : Bytes}

/-! ## Appending -/

section

variable (s : Store) (c : DataClass) (err : SpoolError)

@[simp] lemma auditIOFailure_entries : (s.auditIOFailure c err).entries = s.entries := by
  rw [Store.auditIOFailure]
  split <;> rfl

@[simp] lemma auditIOFailure_disk : (s.auditIOFailure c err).disk = s.disk := by
  rw [Store.auditIOFailure]
  split <;> rfl

@[simp] lemma auditIOFailure_nextSeq : (s.auditIOFailure c err).nextSeq = s.nextSeq := by
  rw [Store.auditIOFailure]
  split <;> rfl

@[simp] lemma auditIOFailure_limits : (s.auditIOFailure c err).limits = s.limits := by
  rw [Store.auditIOFailure]
  split <;> rfl

@[simp] lemma auditIOFailure_activeFile : (s.auditIOFailure c err).activeFile = s.activeFile := by
  rw [Store.auditIOFailure]
  split <;> rfl

@[simp] lemma auditIOFailure_activeSize : (s.auditIOFailure c err).activeSize = s.activeSize := by
  rw [Store.auditIOFailure]
  split <;> rfl

lemma sameQueue_auditIOFailure : SameQueue s (s.auditIOFailure c err) :=
  ⟨fun _ => by simp [Store.records], by simp, by simp, by simp⟩

end

lemma admission_duplicate {result : CursorAppendResult}
    (h : s.admission J c batch receipt = .ok (some result)) : result = .duplicate := by
  rw [Store.admission] at h
  rcases hcheck : receipt.elim (.ok none) (s.checkCursor J) with err | answer
  · simp [hcheck] at h
  cases answer with
  | some =>
    simp only [hcheck, Except.ok.injEq, Option.some.injEq] at h
    subst h
    rcases receipt with _ | receipt
    · simp at hcheck
    rw [Option.elim_some, Store.checkCursor] at hcheck
    split at hcheck
    · cases hcheck
    · cases hcheck
    · repeat' split at hcheck
      all_goals cases hcheck
      rfl
  | none =>
    simp only [hcheck] at h
    repeat' split at h
    all_goals cases h
    rfl

/-- `ErrAuditCapacity` or "spool capacity exhausted". -/
def SpoolError.Capacity (err : SpoolError) : Prop := err = .auditCapacity ∨ err = .capacityExhausted

instance (err : SpoolError) : Decidable err.Capacity := inferInstanceAs (Decidable (_ ∨ _))

lemma admission_error (failed : s.admission J c batch receipt = .error err) : ¬ err.Capacity := by
  unfold Store.admission at failed
  split at failed
  · rename_i hcheck
    cases failed
    rcases receipt with _ | receipt
    · cases hcheck
    rw [Option.elim_some, Store.checkCursor] at hcheck
    split at hcheck
    · rename_i hload
      cases hcheck
      unfold loadCursorReceipt at hload
      repeat' split at hload
      all_goals cases hload
      decide
    · cases hcheck
    · repeat' split at hcheck
      all_goals cases hcheck
      all_goals decide
  · cases failed
  · repeat' split at failed
    all_goals cases failed
    decide

/-- Everything `append` can do. -/
lemma append_cases (J : Json) (s : Store) (c : DataClass) (batch : Batch)
    (receipt : Option PersistedCursorReceipt) (write : Store.Write) :
    (∃ err, s.append J c batch receipt write = (.error err, s) ∧ ¬ err.Capacity) ∨
    (s.admission J c batch receipt = .ok (some .duplicate) ∧ s.append J c batch receipt write = (.ok .duplicate, s)) ∨
    ∃ encoded s', (validClass c = true ∧ batch.id ≠ "" ∧ batch.sourceID ≠ "") ∧
      s.admission J c batch receipt = .ok none ∧
      encodeRecord J (Store.newHeader c batch receipt (s.nextSeq + 1)) batch.payload = .ok encoded ∧
      ((∃ err, s.reserve J c encoded.length = (.error err, s') ∧
        s.append J c batch receipt write = (.error err, s'.auditIOFailure c err)) ∨
      s.reserve J c encoded.length = (.ok (), s') ∧
        s.append J c batch receipt write = match write with
          | .failed _ => (.error .io, (s'.write (write.bytes encoded)).auditIOFailure c .io)
          | .complete => (s'.write encoded).publish J
              (Store.newEntry c batch receipt (s.nextSeq + 1) s'.activePath encoded.length)
              receipt) := by
  by_cases hinvalid : (!validClass c || batch.id == "" || batch.sourceID == "") = true
  · exact .inl ⟨.invalidBatch, by rw [Store.append, if_pos hinvalid], by decide⟩
  have hvalid : validClass c = true ∧ batch.id ≠ "" ∧ batch.sourceID ≠ "" := by
    simpa [and_assoc] using hinvalid
  rcases hadmission : s.admission J c batch receipt with err | answer
  · exact .inl ⟨err, by rw [Store.append, if_neg hinvalid, hadmission], admission_error hadmission⟩
  cases answer with
  | some =>
    obtain rfl := admission_duplicate hadmission
    exact .inr (.inl ⟨rfl, by rw [Store.append, if_neg hinvalid, hadmission]⟩)
  | none =>
    cases hencode : encodeRecord J (Store.newHeader c batch receipt (s.nextSeq + 1)) batch.payload with
    | error err =>
      refine .inl ⟨err, by rw [Store.append, if_neg hinvalid, hadmission]; simp [hencode], ?_⟩
      rcases encodeRecord_error hencode with rfl | rfl <;> decide
    | ok encoded =>
      cases hreserve : s.reserve J c encoded.length with
      | mk answer s' =>
        refine .inr (.inr ⟨encoded, s', hvalid, rfl, rfl, ?_⟩)
        rcases answer with err | _
        · refine .inl ⟨err, hreserve, ?_⟩
          rw [Store.append, if_neg hinvalid, hadmission]
          simp [hencode, hreserve]
        refine .inr ⟨hreserve, ?_⟩
        rw [Store.append, if_neg hinvalid, hadmission]
        cases write with
        | complete | failed missing => simp only [hencode, hreserve]

@[simp] lemma nameActive_limits (s : Store) : s.nameActive.limits = s.limits := by
  rw [Store.nameActive]
  split <;> rfl

/-- The record an append adds. -/
def appended (c : DataClass) (batch : Batch) (receipt : Option PersistedCursorReceipt) (sequence : Nat) : Record where
  batch := { batch with createdAt := batch.createdAt.utc }
  dataClass := c
  sequence := sequence
  cursor := receipt.map (·.withAck true)

/-- The receipts `append` is called with: those `AppendWithCursor` builds. -/
def Fresh (receipt : Option PersistedCursorReceipt) : Prop :=
  ∀ value, receipt = some value → value.Current ∧ value.ackPending = true

lemma Fresh.clone (h : Fresh receipt) : receipt.map clonePersistedCursor = receipt := by
  cases receipt with
  | none => rfl
  | some value => simp [clonePersistedCursor_of_current (h value rfl).1]

lemma fresh_none : Fresh none := by
  intro value h
  cases h

lemma fresh_of_accepted {receipt : CursorReceipt} {payload : Bytes}
    (h : ¬ (!validCursorReceipt receipt || Checksum.sha256 payload != receipt.digest) = true) :
    Fresh (some (persistedOf receipt)) := by
  simp only [Bool.or_eq_true, not_or, Bool.not_eq_true, Bool.not_eq_false'] at h
  intro value hvalue
  cases hvalue
  exact ⟨⟨rfl, h.1, rfl⟩, rfl⟩

section NewEntry

lemma newEntry_record (fresh : Fresh receipt) (sequence : Nat) (file : Segment) (size : Nat) :
    (Store.newEntry c batch receipt sequence file size).record =
      appended c batch receipt sequence := by
  simp only [Entry.record, Store.newEntry, fresh.clone, appended]

end NewEntry

/-- `item` is what an append is about to add to `s`. -/
structure Next (J : Json) (s : Store) (item : Entry) (receipt : Option PersistedCursorReceipt)
    (encoded : Bytes) : Prop where
  encodes : encodeEntry J item = .ok encoded
  cursor : item.cursor.map clonePersistedCursor = receipt
  file : item.file = .active
  valid : item.record.Valid
  sequence : item.sequence = s.nextSeq + 1
  fresh : s.find item.dataClass item.batch.id = none

/-- The receipt bucket after a transaction that carries `receipt`. -/
def Installs (J : Json) (before : String → Option Bytes) :
    Option PersistedCursorReceipt → (String → Option Bytes) → Prop
  | none, after => after = before
  | some value, after => ∃ encoded, J.marshalCursor value = some encoded ∧
      after = Function.update before value.key (some encoded)

/-- The effect of a completed append on queue and receipts. -/
structure Publishes (J : Json) (s s' : Store) (r : Record) (receipt : Option PersistedCursorReceipt) : Prop where
  records : ∀ c, s'.records c = s.records c ++ if c = r.dataClass then [r] else []
  nextSeq : s'.nextSeq = r.sequence
  limits : s'.limits = s.limits
  receipts : Installs J s.disk.cursorReceipts receipt s'.disk.cursorReceipts

variable {item : Entry}

/-- The transaction cannot fail once the header has been encoded. -/
lemma commit_some (encodes : encodeEntry J item = .ok encoded)
    (cursor : item.cursor.map clonePersistedCursor = receipt)
    (d : Disk) :
    ∃ d', Store.commit J d item receipt = some d' ∧ d'.segments = d.segments ∧
      Installs J d.cursorReceipts receipt d'.cursorReceipts := by
  cases receipt with
  | none => exact ⟨_, rfl, rfl, rfl⟩
  | some =>
    obtain ⟨headerBytes, hmarshal, -⟩ := encodeRecord_ok encodes
    obtain ⟨encodedCursor, hcursor⟩ := J.cursor_of_header hmarshal cursor
    simp only [Store.commit, hcursor, Option.map_some, Option.some.injEq, exists_eq_left']
    exact ⟨trivial, encodedCursor, hcursor, rfl⟩

namespace Coherent

lemma sameIndex (h : Coherent J T log s) (entries : s'.entries = s.entries)
    (nextSeq : s'.nextSeq = s.nextSeq) (segments : s'.disk.segments = s.disk.segments)
    (activeFile : s'.activeFile = none ∨ s'.activeFile = some .active) : Coherent J T log s' where
  wf := h.wf
  valid := h.valid
  files := by
    intro f
    rw [Disk.read, segments]
    exact h.files f
  index := ⟨fun c => entries ▸ h.index.increasing c, fun {c e} he => h.index.sound (entries ▸ he),
    fun held => entries ▸ h.index.complete held, fun held => nextSeq ▸ h.index.bounded held⟩
  activeFile := activeFile

lemma of_clean (T : Tails) (h : Coherent J .clean log s) : Coherent J T log s :=
  ⟨⟨h.wf, h.valid, fun f => (h.files f).of_clean T⟩, h.index, h.activeFile⟩

section

variable (h : Coherent J T log s)
include h

lemma auditIOFailure (c : DataClass) (err : SpoolError) : Coherent J T log (s.auditIOFailure c err) :=
  h.sameIndex (by simp) (by simp) (by simp) (by simpa using h.activeFile)

lemma makeCapacity (c : DataClass) (size : Nat) :
    (∃ log', Coherent J T log' (s.makeCapacity J c size).2) ∧ Shrinks s (s.makeCapacity J c size).2 :=
  h.makeCapacityLoop c size (s.all.length + 1)

lemma rotate (size : Nat) : (s.rotate size).1 = .ok () ∧
    (∃ log', Coherent J T log' (s.rotate size).2) ∧ SameQueue s (s.rotate size).2 := by
  rw [Store.rotate]
  split
  · obtain ⟨hok, hlog, hqueue, -⟩ := h.sealActive
    exact ⟨hok, hlog, hqueue⟩
  · exact ⟨rfl, ⟨log, h⟩, .refl s⟩

lemma nameActive : Coherent J T log s.nameActive ∧
    SameQueue s s.nameActive ∧ s.nameActive.activeFile = some .active := by
  rw [Store.nameActive]
  split
  · exact ⟨h.sameIndex rfl rfl rfl (.inr rfl), ⟨fun _ => rfl, rfl, rfl, rfl⟩, rfl⟩
  · rename_i hsome
    exact ⟨h, .refl s, h.activeFile.resolve_left hsome⟩

/-- Rotation and eviction ahead of a write; on success the active file is named. -/
theorem reserve (c : DataClass) (size : Nat) :
    (∃ log', Coherent J T log' (s.reserve J c size).2) ∧ Shrinks s (s.reserve J c size).2 ∧
      ((s.reserve J c size).1 = .ok () → (s.reserve J c size).2.activeFile = some .active) := by
  obtain ⟨hok, ⟨log₁, hlog₁⟩, hqueue⟩ := h.rotate size
  rw [Store.reserve]
  cases hrotate : s.rotate size with
  | mk result s₁ =>
    rw [hrotate] at hok hlog₁ hqueue
    subst hok
    obtain ⟨⟨log₂, hlog₂⟩, hshrinks⟩ := hlog₁.makeCapacity c size
    simp only
    cases hmake : s₁.makeCapacity J c size with
    | mk result s₂ =>
      rw [hmake] at hlog₂ hshrinks
      have hall := hqueue.shrinks.trans hshrinks
      cases result with
      | error err => exact ⟨⟨log₂, hlog₂⟩, hall, fun hbad => by cases hbad⟩
      | ok _ =>
        obtain ⟨hnamed, hsame, hactive⟩ := hlog₂.nameActive
        exact ⟨⟨log₂, hnamed⟩, hall.trans hsame.shrinks, fun _ => hactive⟩

end

lemma stored_push {l : Option (List Record)} {file : Option Bytes} {r : Record} (clean : Stored J .clean l file)
    (image : Image J r encoded) :
    Stored J .clean (some (l.getD [] ++ [r])) (some (file.getD [] ++ encoded)) := by
  rcases l with _ | l
  · change file = none at clean
    subst clean
    exact stored_clean_iff.mpr ⟨[encoded], .cons image .nil, by simp⟩
  obtain ⟨chunks, himages, rfl⟩ := stored_clean_iff.mp clean
  refine stored_clean_iff.mpr ⟨chunks ++ [encoded], ?_, by simp⟩
  exact List.rel_append himages (.cons image .nil)

lemma read_write (active : s.activeFile = some .active) (encoded : Bytes) (f : Segment) :
    (s.write encoded).disk.read f =
      if f = .active then some ((s.disk.read .active).getD [] ++ encoded) else s.disk.read f := by
  simp [Store.write, Store.activePath, active, Disk.extend]

lemma entries_enqueue (s : Store) (item : Entry) (d : Disk) (c : DataClass) :
    (s.enqueue item d).entries c = s.entries c ++ if c = item.dataClass then [item] else [] := by
  by_cases hc : c = item.dataClass
  · subst hc
    simp [Store.enqueue]
  · simp [Store.enqueue, hc]

/-- A complete record behind complete records extends the log. -/
lemma enqueue (h : Coherent J T log s) (active : s.activeFile = some .active)
    (clean : Stored J .clean (log .active) (s.disk.read .active))
    (next : Next J s item receipt encoded) {d : Disk}
    (segments : d.segments = (s.write encoded).disk.segments) :
    Coherent J T (push log item.record) ((s.write encoded).enqueue item d) := by
  have hbounded : ∀ f r, Holds log f r → r.sequence < item.record.sequence := by
    intro f r held
    have := h.index.bounded held
    rw [record_sequence, next.sequence]
    omega
  have hfresh : ∀ f r, Holds log f r → r.ident ≠ item.record.ident := by
    intro f r held hident
    obtain ⟨e, he, -, rfl⟩ := h.index.complete held
    simp only [Record.ident, record_dataClass, record_batch, Prod.mk.injEq] at hident
    rw [record_dataClass, hident.1] at he
    simpa [hident.2] using List.find?_eq_none.mp next.fresh e he
  have hsequence : ((s.write encoded).enqueue item d).nextSeq = s.nextSeq + 1 := next.sequence
  have hentries := entries_enqueue (s.write encoded) item d
  have hread : ∀ f, d.read f = (s.write encoded).disk.read f := by
    intro f
    rw [Disk.read, segments]
    rfl
  refine ⟨⟨h.wf.push hbounded hfresh, ?_, ?_⟩, ⟨?_, ?_, ?_, ?_⟩, .inr active⟩
  · intro f r held
    rcases holds_push.mp held with hold | ⟨-, rfl⟩
    · exact h.valid hold
    · exact next.valid
  · intro f
    change Stored J T _ (d.read f)
    rw [hread, read_write active]
    by_cases hf : f = .active
    · subst hf
      have hpush := stored_push clean ⟨item, rfl, next.encodes⟩
      simpa [push] using hpush.of_clean T
    · simpa [push, hf] using h.files f
  · intro c
    rw [hentries]
    by_cases hc : c = item.dataClass
    · rw [if_pos hc]
      refine (h.index.increasing c).concat fun e he => ?_
      exact hbounded e.file e.record (h.index.sound he).2
    · rw [if_neg hc, List.append_nil]
      exact h.index.increasing c
  · intro c e he
    rw [hentries, List.mem_append] at he
    rcases he with hold | hnew
    · obtain ⟨hclass, held⟩ := h.index.sound hold
      exact ⟨hclass, holds_push.mpr (.inl held)⟩
    · by_cases hc : c = item.dataClass
      · rw [if_pos hc, List.mem_singleton] at hnew
        subst hnew
        exact ⟨hc.symm, holds_push.mpr (.inr ⟨next.file, rfl⟩)⟩
      · simp [hc] at hnew
  · intro f r held
    rcases holds_push.mp held with hold | ⟨rfl, rfl⟩
    · obtain ⟨e, he, hfile, rfl⟩ := h.index.complete hold
      exact ⟨e, by rw [hentries]; exact List.mem_append_left _ he, hfile, rfl⟩
    · exact ⟨item, by rw [hentries]; simp, next.file, rfl⟩
  · intro f r held
    rw [hsequence]
    rcases holds_push.mp held with hold | ⟨-, rfl⟩
    · have := h.index.bounded hold
      omega
    · rw [record_sequence, next.sequence]

/-- Part of a record behind complete records. -/
lemma write_torn (h : Coherent J T log s) (active : s.activeFile = some .active)
    (clean : Stored J .clean (log .active) (s.disk.read .active)) {bytes : Bytes}
    (allowed : T.allowed ((s.disk.read .active).getD [] ++ bytes) bytes) :
    Coherent J T (touch log) (s.write bytes) := by
  refine ⟨⟨h.wf.touch, fun held => h.valid (holds_touch.mp held), fun f => ?_⟩,
    ⟨h.index.increasing, fun he => ?_, fun held => h.index.complete (holds_touch.mp held),
      fun held => h.index.bounded (holds_touch.mp held)⟩, h.activeFile⟩
  · rw [read_write active]
    by_cases hf : f = .active
    · subst hf
      simp only [touch, Function.update_self, if_true]
      rcases hl : log .active with _ | l
      · rw [hl] at clean
        change s.disk.read .active = none at clean
        rw [clean] at allowed ⊢
        exact ⟨[], bytes, .nil, rfl, allowed⟩
      rw [hl] at clean
      obtain ⟨chunks, himages, hread⟩ := stored_clean_iff.mp clean
      rw [hread] at allowed ⊢
      exact ⟨chunks, bytes, himages, rfl, allowed⟩
    · simpa [touch, hf] using h.files f
  · obtain ⟨hclass, held⟩ := h.index.sound he
    exact ⟨hclass, holds_touch.mpr held⟩

lemma records_enqueue (s : Store) (item : Entry) (d : Disk) (c : DataClass) :
    (s.enqueue item d).records c = s.records c ++ if c = item.record.dataClass then [item.record] else [] := by
  rw [Store.records, entries_enqueue, List.map_append, apply_ite (List.map Entry.record)]
  rfl

lemma usedBytes_enqueue (s : Store) (valid : validClass item.dataClass = true) (d : Disk) :
    (s.enqueue item d).usedBytes = s.usedBytes + item.bytes := by
  simp only [Store.usedBytes, Store.all, classes, List.flatMap_cons, List.flatMap_nil, entries_enqueue,
    List.map_append, List.sum_append]
  cases hclass : item.dataClass with
  | other =>
    rw [hclass] at valid
    cases valid
  | _ => simp; omega

/-- A completed append stores its record. -/
theorem publish (h : Coherent J T log s) (active : s.activeFile = some .active)
    (clean : Stored J .clean (log .active) (s.disk.read .active))
    (next : Next J s item receipt encoded) :
    ((s.write encoded).publish J item receipt).1 = .ok .stored ∧
      (∃ log', Coherent J T log' ((s.write encoded).publish J item receipt).2) ∧
      Publishes J s ((s.write encoded).publish J item receipt).2 item.record receipt := by
  obtain ⟨d, hcommit, hsegments, hreceipts⟩ :=
    commit_some next.encodes next.cursor (s.write encoded).disk
  have hcoherent := h.enqueue active clean next hsegments
  have hpublishes : Publishes J s ((s.write encoded).enqueue item d) item.record receipt :=
    ⟨records_enqueue _ item d, rfl, rfl, hreceipts⟩
  rw [Store.publish, hcommit]
  simp only
  split
  · obtain ⟨hok, hlog, hsame, -⟩ := hcoherent.sealActive
    cases hseal : ((s.write encoded).enqueue item d).sealActive with
    | mk =>
      rw [hseal] at hok hlog hsame
      subst hok
      refine ⟨rfl, hlog, ⟨fun c => ?_, ?_, ?_, ?_⟩⟩
      · rw [hsame.records, hpublishes.records]
      · rw [hsame.nextSeq, hpublishes.nextSeq]
      · rw [hsame.limits, hpublishes.limits]
      · rw [hsame.receipts]
        exact hreceipts
  · exact ⟨rfl, ⟨_, hcoherent⟩, hpublishes⟩

end Coherent

lemma admission_none (h : s.admission J c batch receipt = .ok none) :
    s.find c batch.id = none ∧ ∀ value, receipt = some value → s.checkCursor J value = .ok none := by
  rw [Store.admission] at h
  rcases hcheck : receipt.elim (.ok none) (s.checkCursor J) with err | answer
  · simp [hcheck] at h
  cases answer with
  | some => simp [hcheck] at h
  | none =>
    constructor
    · simp only [hcheck] at h
      split at h
      · split at h <;> cases h
      · rename_i hnone
        exact Option.not_isSome_iff_eq_none.mp hnone
    · rintro value rfl
      exact hcheck

lemma find_eq_none_iff {id : String} : s.find c id = none ↔ ∀ r ∈ s.records c, r.batch.id ≠ id := by
  simp [Store.find, Store.records]

/-- A failed write leaves a proper part of the record. -/
lemma tornRecord_of_failed {header : RecordHeader} {payload : Bytes}
    (encodes : encodeRecord J header payload = .ok encoded) (missing : Nat) :
    TornRecord J header payload ((Store.Write.failed missing).bytes encoded) := by
  have hlength := length_encodeRecord encodes
  exact tornRecord_take encodes (by omega)

/-- What `append` answers and does to queue and receipts. -/
inductive Appends (J : Json) (s : Store) (c : DataClass) (batch : Batch)
    (receipt : Option PersistedCursorReceipt) : Except SpoolError CursorAppendResult → Store → Prop
  | failed {err : SpoolError} {s' : Store} : Shrinks s s' → Appends J s c batch receipt (.error err) s'
  | duplicate : s.admission J c batch receipt = .ok (some .duplicate) → Appends J s c batch receipt (.ok .duplicate) s
  | stored {s₁ s' : Store} : s.admission J c batch receipt = .ok none → Shrinks s s₁ →
      Publishes J s₁ s' (appended c batch receipt (s.nextSeq + 1)) receipt →
      Appends J s c batch receipt (.ok .stored) s'

namespace Coherent

/-- What `reserve` hands over to the write is the next entry of the store it
leaves. -/
lemma next (h : Coherent J T log s) (fresh : Fresh receipt)
    (valid : validClass c = true ∧ batch.id ≠ "" ∧ batch.sourceID ≠ "")
    (admitted : s.admission J c batch receipt = .ok none)
    (encodes : encodeRecord J (Store.newHeader c batch receipt (s.nextSeq + 1)) batch.payload =
      .ok encoded) (reserved : s.reserve J c encoded.length = (.ok (), s')) :
    s'.activeFile = some .active ∧ Next J s' (Store.newEntry c batch receipt (s.nextSeq + 1)
      s'.activePath encoded.length) receipt encoded := by
  obtain ⟨-, hshrinks, hactive⟩ := h.reserve c encoded.length
  rw [reserved] at hshrinks hactive
  have hfile : s'.activeFile = some .active := hactive rfl
  refine ⟨hfile, ⟨?_, ?_, ?_, ?_, ?_, ?_⟩⟩
  · simp only [encodeEntry, entryHeader, Store.newEntry, fresh.clone, Time.utc_utc]
    exact encodes
  · simp only [Store.newEntry, fresh.clone]
  · simp [Store.newEntry, Store.activePath, hfile]
  · rw [newEntry_record fresh]
    refine ⟨valid.1, valid.2.1, valid.2.2, rfl, Nat.succ_ne_zero _, ?_⟩
    intro cursor hc
    obtain ⟨value, hvalue, rfl⟩ := Option.map_eq_some_iff.mp hc
    exact (fresh value hvalue).1.withAck true
  · rw [hshrinks.nextSeq]
    rfl
  · refine find_eq_none_iff.mpr fun r hr => ?_
    exact find_eq_none_iff.mp (admission_none admitted).1 r ((hshrinks.records c).subset hr)

/-- An append that writes behind complete records; one whose write fails leaves part of
a record there. -/
theorem append (h : Coherent J T log s) (fresh : Fresh receipt) {write : Store.Write}
    (tidy : ∀ {encoded s' log'}, s.admission J c batch receipt = .ok none →
      encodeRecord J (Store.newHeader c batch receipt (s.nextSeq + 1)) batch.payload = .ok encoded →
      s.reserve J c encoded.length = (.ok (), s') → Coherent J T log' s' →
      Stored J .clean (log' .active) (s'.disk.read .active) ∧ (write ≠ .complete →
        T.allowed ((s'.disk.read .active).getD [] ++ write.bytes encoded) (write.bytes encoded))) :
    (∃ log', Coherent J T log' (s.append J c batch receipt write).2) ∧
      Appends J s c batch receipt (s.append J c batch receipt write).1 (s.append J c batch receipt write).2 := by
  rcases append_cases J s c batch receipt write with
    ⟨err, happend, -⟩ | ⟨hdup, happend⟩ | ⟨encoded, s', hvalid, hnone, hencode, hrest⟩
  · rw [happend]
    exact ⟨⟨log, h⟩, .failed (SameQueue.refl s).shrinks⟩
  · rw [happend]
    exact ⟨⟨log, h⟩, .duplicate hdup⟩
  · obtain ⟨⟨log', hlog'⟩, hshrinks, -⟩ := h.reserve c encoded.length
    rcases hrest with ⟨err, hreserve, happend⟩ | ⟨hreserve, happend⟩
    · rw [hreserve] at hlog' hshrinks
      rw [happend]
      refine ⟨⟨log', hlog'.auditIOFailure c err⟩, .failed ?_⟩
      exact hshrinks.trans (sameQueue_auditIOFailure s' c err).shrinks
    · rw [hreserve] at hlog' hshrinks
      obtain ⟨hactive, hnext⟩ := h.next fresh hvalid hnone hencode hreserve
      obtain ⟨hclean, hallowed⟩ := tidy hnone hencode hreserve hlog'
      rw [happend]
      cases write with
      | complete =>
        obtain ⟨hok, hlog, hpublishes⟩ := hlog'.publish hactive hclean hnext
        rw [newEntry_record fresh] at hpublishes
        simp only [hok]
        exact ⟨hlog, .stored hnone hshrinks hpublishes⟩
      | failed missing =>
        have hwrite := hlog'.write_torn hactive hclean (hallowed nofun)
        have hqueue : SameQueue s' (s'.write ((Store.Write.failed missing).bytes encoded)) :=
          ⟨fun _ => rfl, rfl, rfl, rfl⟩
        refine ⟨⟨_, hwrite.auditIOFailure c .io⟩, .failed ?_⟩
        exact hshrinks.trans (hqueue.shrinks.trans (sameQueue_auditIOFailure _ c .io).shrinks)

end Coherent

/-- What an accepted append leaves pending under the identity of its batch: the
batch itself, or the one that was already pending. -/
lemma Appends.pending {answer : CursorAppendResult} (h : Appends J s c batch none (.ok answer) s') :
    ∃ r ∈ s'.records c, r.batch.id = batch.id ∧
      (r.batch = { batch with createdAt := batch.createdAt.utc } ∨ r ∈ s.records c) := by
  cases h with
  | duplicate hdup =>
    rw [Store.admission] at hdup
    rcases hfind : s.find c batch.id with _ | item
    · simp [hfind] at hdup
    obtain ⟨hid, before, after, hsplit, -⟩ := find_split hfind
    have hr : item.record ∈ s.records c := by
      rw [Store.records, hsplit]
      exact List.mem_map_of_mem (by simp)
    exact ⟨item.record, hr, hid, .inr hr⟩
  | stored _ shrinks publishes =>
    refine ⟨appended c batch none (s.nextSeq + 1), ?_, rfl, .inl rfl⟩
    rw [publishes.records]
    exact List.mem_append_right _ (by simp [appended])

/-! ## Acknowledging -/

section

variable (key : String) (sequence : Nat) (e : Entry)

lemma acknowledgeEntry_cases :
    Store.acknowledgeEntry key sequence e = e ∨ ∃ cursor, e.cursor = some cursor ∧
      cursor.key = key ∧ cursor.sequence = sequence ∧
      Store.acknowledgeEntry key sequence e = { e with cursor := some (cursor.withAck false) } := by
  rw [Store.acknowledgeEntry]
  split
  · exact .inl rfl
  · rename_i cursor hcursor
    split
    · rename_i hmatch
      exact .inr ⟨cursor, hcursor, hmatch.1, hmatch.2, rfl⟩
    · exact .inl rfl

@[simp] lemma acknowledgeEntry_record : (Store.acknowledgeEntry key sequence e).record = e.record := by
  rcases acknowledgeEntry_cases key sequence e with hsame | ⟨cursor, hcursor, -, -, hack⟩
  · rw [hsame]
  · rw [hack]
    simp [Entry.record, hcursor]

@[simp] lemma acknowledgeEntry_file : (Store.acknowledgeEntry key sequence e).file = e.file := by
  rcases acknowledgeEntry_cases key sequence e with hsame | ⟨cursor, -, -, -, hack⟩
  · rw [hsame]
  · rw [hack]

end

/-- The store after the acknowledgement of a producer cursor. -/
def Store.acknowledged (s : Store) (key : String) (sequence : Nat) (encoded : Bytes) : Store :=
  { s with
    disk := { s.disk with
      cursorReceipts := Function.update s.disk.cursorReceipts key (some encoded) }
    entries := fun c => (s.entries c).map (acknowledgeEntry key sequence) }

lemma markCursorAcknowledged_cases (J : Json) (s : Store) (key : String) (sequence : Nat) :
    (∃ result, s.markCursorAcknowledged J key sequence = (result, s)) ∨
    ∃ current encoded, loadCursorReceipt J s.disk.cursorReceipts key = .ok (some current) ∧
      current.sequence = sequence ∧ J.marshalCursor (current.withAck false) = some encoded ∧
      s.markCursorAcknowledged J key sequence = (.ok (), s.acknowledged key sequence encoded) := by
  rw [Store.markCursorAcknowledged]
  split
  · exact .inl ⟨_, rfl⟩
  split
  · exact .inl ⟨_, rfl⟩
  · exact .inl ⟨_, rfl⟩
  · rename_i current hload
    split
    · exact .inl ⟨_, rfl⟩
    rename_i hsequence
    split
    · exact .inl ⟨_, rfl⟩
    · split
      · exact .inl ⟨_, rfl⟩
      · rename_i encoded hmarshal
        exact .inr ⟨current, encoded, hload, not_not.mp hsequence, hmarshal, rfl⟩

lemma acknowledged_records (s : Store) (key : String) (sequence : Nat) (encoded : Bytes)
    (c : DataClass) : (s.acknowledged key sequence encoded).records c = s.records c := by
  rw [Store.records, Store.acknowledged, List.map_map]
  exact List.map_congr_left fun e _ => acknowledgeEntry_record key sequence e

namespace Coherent

lemma acknowledged (h : Coherent J T log s) (key : String) (sequence : Nat) (encoded : Bytes) :
    Coherent J T log (s.acknowledged key sequence encoded) := by
  refine ⟨⟨h.wf, h.valid, h.files⟩, ⟨?_, ?_, ?_, h.index.bounded⟩, h.activeFile⟩
  · intro c
    exact (h.index.increasing c).map fun e =>
      congrArg Record.sequence (acknowledgeEntry_record key sequence e)
  · intro c e he
    obtain ⟨e₀, he₀, rfl⟩ := List.mem_map.mp he
    obtain ⟨hclass, held⟩ := h.index.sound he₀
    rw [acknowledgeEntry_record, acknowledgeEntry_file]
    exact ⟨(congrArg Record.dataClass (acknowledgeEntry_record key sequence e₀)).trans hclass, held⟩
  · intro f r held
    obtain ⟨e, he, hfile, hrecord⟩ := h.index.complete held
    refine ⟨_, List.mem_map_of_mem he, ?_, ?_⟩
    · rw [acknowledgeEntry_file, hfile]
    · rw [acknowledgeEntry_record, hrecord]

lemma ack (h : Coherent J T log s) (c : DataClass) (id : String) : ∃ log', Coherent J T log' (s.ack J c id).2 := by
  rw [Store.ack]
  split
  · exact ⟨log, h⟩
  obtain ⟨log', hlog'⟩ := h.delete c id
  split
  · rename_i err s' hdelete
    rw [hdelete] at hlog'
    exact ⟨log', hlog'.auditIOFailure c err⟩
  · rename_i s' hdelete
    rw [hdelete] at hlog'
    exact ⟨log', hlog'⟩

/-- Without interrupted writes every segment file holds complete records only. -/
lemma append_clean (h : Coherent J .clean log s) (fresh : Fresh receipt) :
    (∃ log', Coherent J .clean log' (s.append J c batch receipt .complete).2) ∧
      Appends J s c batch receipt (s.append J c batch receipt .complete).1 (s.append J c batch receipt .complete).2 :=
  h.append fresh fun _ _ _ hlog => ⟨hlog.files .active, nofun⟩

/-- Every call keeps disk and memory in step. -/
theorem step (h : Coherent J .clean log s) (call : Store.Call) :
    ∃ log', Coherent J .clean log' (s.step J call).2 := by
  cases call with
  | append => exact (h.append_clean fresh_none).1
  | appendWithCursor =>
    simp only [Store.step, Store.appendWithCursor]
    split
    · exact ⟨log, h⟩
    · rename_i hvalid
      exact (h.append_clean (fresh_of_accepted hvalid)).1
  | markCursorAcknowledged key sequence =>
    rcases markCursorAcknowledged_cases J s key sequence with
      ⟨result, hmark⟩ | ⟨current, encoded, -, -, -, hmark⟩
    · exact ⟨log, by simpa only [Store.step, hmark] using h⟩
    · exact ⟨log, by simpa only [Store.step, hmark] using h.acknowledged key sequence encoded⟩
  | ack c id => exact h.ack c id
  | sealActive => exact h.sealActive.2.1

end Coherent

/-! ## Effects -/

/-- Records only leave the queue, and an audit record only when it is
acknowledged. -/
structure Removes (s : Store) (call : Store.Call) (s' : Store) : Prop where
  records : ∀ c, (s'.records c).Sublist (s.records c)
  audit : ∀ r ∈ s.records .auditLog, call ≠ .ack .auditLog r.batch.id → r ∈ s'.records .auditLog
  limits : s'.limits = s.limits
  receipts : s'.disk.cursorReceipts = s.disk.cursorReceipts

lemma Shrinks.removes (h : Shrinks s s') (call : Store.Call) : Removes s call s' where
  records := h.records
  audit _ hr _ := h.audit ▸ hr
  limits := h.limits
  receipts := h.receipts

/-- What a call can do to the queue and to the receipts. -/
inductive Effect (J : Json) (s : Store) : Store.Call → Except SpoolError (Option CursorAppendResult) → Store → Prop
  | removes {call : Store.Call} {result : Except SpoolError (Option CursorAppendResult)}
      {s' : Store} : result ≠ .ok (some .stored) → Removes s call s' → Effect J s call result s'
  | stores {c : DataClass} {batch : Batch} {s₁ s' : Store} :
      s.admission J c batch none = .ok none → Shrinks s s₁ →
      Publishes J s₁ s' (appended c batch none (s.nextSeq + 1)) none →
      Effect J s (.append c batch) (.ok none) s'
  | storesWithCursor {c : DataClass} {batch : Batch} {receipt : CursorReceipt} {s₁ s' : Store} :
      Fresh (some (persistedOf receipt)) →
      s.admission J c batch (some (persistedOf receipt)) = .ok none → Shrinks s s₁ →
      Publishes J s₁ s' (appended c batch (some (persistedOf receipt)) (s.nextSeq + 1)) (some (persistedOf receipt)) →
      Effect J s (.appendWithCursor c batch receipt) (.ok (some .stored)) s'
  | acknowledges {key : String} {sequence : Nat} {current : PersistedCursorReceipt}
      {encoded : Bytes} :
      loadCursorReceipt J s.disk.cursorReceipts key = .ok (some current) →
      J.marshalCursor (current.withAck false) = some encoded →
      Effect J s (.markCursorAcknowledged key sequence) (.ok none) (s.acknowledged key sequence encoded)

lemma Effect.limits {call : Store.Call}
    {result : Except SpoolError (Option CursorAppendResult)} (h : Effect J s call result s') :
    s'.limits = s.limits := by
  cases h with
  | removes _ removes => exact removes.limits
  | stores _ shrinks publishes | storesWithCursor _ _ shrinks publishes =>
    exact publishes.limits.trans shrinks.limits
  | acknowledges _ _ => rfl

namespace Coherent

lemma removes_of_delete (h : Coherent J T log s) (c : DataClass) (id : String) :
    Removes s (.ack c id) (s.delete J c id).2 := by
  refine delete_rule ((SameQueue.refl s).shrinks.removes _) fun item size disk hfind hrewrite => ?_
  obtain ⟨hall, hitem, hclass⟩ := h.mem_of_find hfind
  refine ⟨fun c' => ?_, fun r hr hother => ?_, by simp, ?_⟩
  · rw [Store.records, forget_entries]
    exact (removeEntry_sublist s c id c').map Entry.record
  · obtain ⟨e, he, rfl⟩ := List.mem_map.mp hr
    rw [Store.records, forget_entries]
    refine List.mem_map_of_mem ((h.mem_removeEntry hfind).mpr ⟨he, fun hseq => ?_⟩)
    obtain rfl := h.index.entry_unique h.wf he hitem hseq
    obtain ⟨hid, -⟩ := find_split hfind
    obtain ⟨haudit, -⟩ := h.index.sound he
    exact hother (by rw [← hclass, haudit, record_batch, hid])
  · rw [forget_disk]
    exact (h.rewriteWithout hall hrewrite).2.2.2.2

lemma removes_of_ack (h : Coherent J T log s) (c : DataClass) (id : String) :
    Removes s (.ack c id) (s.ack J c id).2 := by
  have hremoves := h.removes_of_delete c id
  rw [Store.ack]
  split
  · exact (SameQueue.refl s).shrinks.removes _
  split
  · rename_i err s' hdelete
    rw [hdelete] at hremoves
    have hsame := sameQueue_auditIOFailure s' c err
    refine ⟨fun c' => ?_, fun r hr hother => ?_, ?_, ?_⟩
    · rw [hsame.records]
      exact hremoves.records c'
    · rw [hsame.records]
      exact hremoves.audit r hr hother
    · rw [hsame.limits, hremoves.limits]
    · rw [hsame.receipts, hremoves.receipts]
  · rename_i s' hdelete
    rw [hdelete] at hremoves
    exact hremoves

/-- Every call has one of the four effects. -/
theorem effect (h : Coherent J .clean log s) (call : Store.Call) :
    Effect J s call (s.step J call).1 (s.step J call).2 := by
  cases call with
  | append c batch =>
    have happends : Appends J s c batch none _ _ := (h.append_clean fresh_none).2
    simp only [Store.step]
    generalize hresult : s.append J c batch none .complete = result at happends
    obtain ⟨answer, s'⟩ := result
    cases happends with
    | failed hshrinks => exact .removes (by simp [Except.map]) (hshrinks.removes _)
    | duplicate _ => exact .removes (by simp [Except.map]) ((SameQueue.refl _).shrinks.removes _)
    | stored hnone hshrinks hpublishes => exact .stores hnone hshrinks hpublishes
  | appendWithCursor c batch receipt =>
    simp only [Store.step, Store.appendWithCursor]
    split
    · exact .removes (by simp [Except.map]) ((SameQueue.refl s).shrinks.removes _)
    rename_i hvalid
    have hfresh := fresh_of_accepted hvalid
    have happends : Appends J s c batch (some (persistedOf receipt)) _ _ := (h.append_clean hfresh).2
    generalize hresult : s.append J c batch (some (persistedOf receipt)) .complete = result at happends
    obtain ⟨answer, s'⟩ := result
    cases happends with
    | failed hshrinks => exact .removes (by simp [Except.map]) (hshrinks.removes _)
    | duplicate _ => exact .removes (by simp [Except.map]) ((SameQueue.refl _).shrinks.removes _)
    | stored hnone hshrinks hpublishes => exact .storesWithCursor hfresh hnone hshrinks hpublishes
  | markCursorAcknowledged key sequence =>
    rcases markCursorAcknowledged_cases J s key sequence with
      ⟨result, hmark⟩ | ⟨current, encoded, hload, -, hmarshal, hmark⟩
    · simp only [Store.step, hmark]
      exact .removes (by cases result <;> simp [Except.map]) ((SameQueue.refl s).shrinks.removes _)
    · simp only [Store.step, hmark]
      exact .acknowledges hload hmarshal
  | ack c id =>
    refine .removes ?_ (h.removes_of_ack c id)
    simp only [Store.step]
    cases (s.ack J c id).1 <;> simp [Except.map]
  | sealActive =>
    obtain ⟨hok, -, hqueue, -⟩ := h.sealActive
    refine .removes ?_ (hqueue.shrinks.removes _)
    simp only [Store.step, hok, Except.map]
    simp

end Coherent
end DBPilot.Spool
