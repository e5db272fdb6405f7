import DBPilot.Spool.Record
import Mathlib.Data.Finset.Insert
import Mathlib.Data.List.AList

/-!
# The spool store

One process's store: the segment directory and the bbolt buckets on disk, and
the entries, sequence counter and active-segment bookkeeping in memory. bbolt
transactions and file replacements are atomic. File operations succeed except
where a file is missing and where an append is told how its write fails.

A cancelled context and a closed store make every call return before it reads
or writes anything; neither is represented.
-/

namespace DBPilot.Spool

open SegmentedLog KeyedSort

/-- The spool root: the segment and quarantine directories and `state.db`. -/
structure Disk where
  segments : AList fun _ : Segment => Bytes
  quarantine : List (Segment × Bytes)
  segmentIndex : Nat → Option Segment
  dedup : DataClass × String → Option Nat
  cursorReceipts : String → Option Bytes

namespace Disk

/-- A root that has just been created. -/
def empty : Disk where
  segments := ∅
  quarantine := []
  segmentIndex := fun _ => none
  dedup := fun _ => none
  cursorReceipts := fun _ => none

def read (d : Disk) (f : Segment) : Option Bytes := d.segments.lookup f

def replace (d : Disk) (f : Segment) (contents : Bytes) : Disk :=
  { d with segments := d.segments.insert f contents }

def remove (d : Disk) (f : Segment) : Disk := { d with segments := d.segments.erase f }

/-- `O_CREATE|O_APPEND` and one write. -/
def extend (d : Disk) (f : Segment) (bytes : Bytes) : Disk :=
  d.replace f ((d.read f).getD [] ++ bytes)

def rename (d : Disk) (f g : Segment) : Option Disk :=
  (d.read f).map fun contents => (d.remove f).replace g contents

/-- `os.Truncate`, which pads a shorter file with zeros. -/
def truncate (d : Disk) (f : Segment) (size : Nat) : Disk :=
  match d.read f with
  | none => d
  | some contents => d.replace f (contents.take size ++ List.replicate (size - contents.length) 0)

@[simp] lemma read_replace (d : Disk) (f g : Segment) (contents : Bytes) :
    (d.replace f contents).read g = if g = f then some contents else d.read g := by
  by_cases h : g = f
  · subst h; simp [replace, read]
  · simp [replace, read, h]

@[simp] lemma read_remove (d : Disk) (f g : Segment) : (d.remove f).read g = if g = f then none else d.read g := by
  by_cases h : g = f
  · subst h; simp [remove, read]
  · simp [remove, read, h]

end Disk

structure Store where
  limits : Limits
  nextSeq : Nat
  entries : DataClass → List Entry
  findings : Finset Finding
  activeFile : Option Segment
  activeSize : Nat
  disk : Disk

def persistedOf (receipt : CursorReceipt) : PersistedCursorReceipt where
  version := 1
  key := receipt.key
  assignmentID := receipt.assignmentID
  configurationRevision := receipt.configurationRevision
  templateID := receipt.templateID
  instanceID := receipt.instanceID
  sequence := receipt.sequence
  digest := receipt.digest
  collectedAt := receipt.collectedAt.utc
  ackPending := true

def loadCursorReceipt (J : Json) (receipts : String → Option Bytes) (key : String) :
    Except SpoolError (Option PersistedCursorReceipt) :=
  match receipts key with
  | none => .ok none
  | some encoded =>
    match (J.unmarshalCursor encoded).bind validPersistedCursorReceipt with
    | none => .error .cursorConflict
    | some value => .ok (some (clonePersistedCursor value))

/-- The header `rewriteWithout` encodes for an entry. -/
def entryHeader (e : Entry) : RecordHeader where
  id := e.batch.id
  sourceID := e.batch.sourceID
  createdAt := e.batch.createdAt.utc
  priority := e.batch.priority
  checksum := e.batch.checksum
  dataClass := e.dataClass
  sequence := e.sequence
  cursor := e.cursor.map clonePersistedCursor

def encodeEntry (J : Json) (e : Entry) : Except SpoolError Bytes :=
  encodeRecord J (entryHeader e) e.batch.payload

def encodeEntries (J : Json) : List Entry → Except SpoolError Bytes
  | [] => .ok []
  | e :: rest =>
    match encodeEntry J e with
    | .error err => .error err
    | .ok record => (encodeEntries J rest).map (record ++ ·)

namespace Store

/-- Every entry, class by class. The map iterations of the code that go through
here (a sum, a minimum, a collect-and-sort) do not depend on the order. -/
def all (s : Store) : List Entry := classes.flatMap s.entries

def usedBytes (s : Store) : Nat := (s.all.map Entry.bytes).sum

def find (s : Store) (c : DataClass) (id : String) : Option Entry :=
  (s.entries c).find? (·.batch.id == id)

def removeEntry (s : Store) (c : DataClass) (id : String) : Store :=
  { s with entries := Function.update s.entries c ((s.entries c).eraseP (·.batch.id == id)) }

/-- What the pointer returned by `find` reads after `remove` has shifted the
slice in place: the entry that followed, or still the removed one if it was last. -/
def slotAfterRemove (s : Store) (c : DataClass) (id : String) (item : Entry) : Entry :=
  (((s.entries c).dropWhile (·.batch.id != id)).tail.head?).getD item

def auditIOFailure (s : Store) (c : DataClass) (err : SpoolError) : Store :=
  if c = .auditLog ∧ err ≠ .auditCapacity then
    { s with findings := insert .auditSpoolIOFailure s.findings }
  else s

/-- Zero means that no entry lives in the file. -/
def firstSequence (s : Store) (f : Segment) : Nat :=
  s.all.foldl (fun first item =>
    if item.file = f ∧ (first = 0 ∨ item.sequence < first) then item.sequence else first) 0

def relabel (s : Store) (f g : Segment) : Store :=
  { s with entries := fun c => (s.entries c).map fun item =>
      if item.file = f then { item with file := g } else item }

def sealActive (s : Store) : Except SpoolError Unit × Store :=
  match s.activeFile with
  | none => (.ok (), s)
  | some f =>
    if s.firstSequence f = 0 then
      (.ok (), { s with disk := s.disk.remove f, activeFile := none, activeSize := 0 })
    else
      let sealed := Segment.sealed (s.firstSequence f)
      match s.disk.rename f sealed with
      | none => (.error .io, s)
      | some disk =>
        let index := s.all.foldl (fun (index : Nat → Option Segment) item =>
          if item.file = f then Function.update index item.sequence (some sealed) else index)
          disk.segmentIndex
        (.ok (), { s.relabel f sealed with
          disk := { disk with segmentIndex := index }, activeFile := none, activeSize := 0 })

/-- The records a rewrite keeps, in the order it writes them. -/
def remaining (s : Store) (exclude : Entry) : List Entry :=
  sortOn Entry.sequence (s.all.filter fun item => item.file = exclude.file ∧ item.sequence ≠ exclude.sequence)

/-- The new physical size of the segment and the disk after the rewrite. -/
def rewriteWithout (J : Json) (s : Store) (exclude : Entry) : Except SpoolError (Nat × Disk) :=
  match s.remaining exclude with
  | [] => .ok (0, s.disk.remove exclude.file)
  | kept => (encodeEntries J kept).map fun contents =>
      (contents.length, s.disk.replace exclude.file contents)

/-- The index entries of one record, deleted in one transaction. -/
def unindex (d : Disk) (c : DataClass) (id : String) (sequence : Nat) : Disk :=
  { d with
    segmentIndex := Function.update d.segmentIndex sequence none
    dedup := Function.update d.dedup (c, id) none }

/-- The store without the entry `item` named `c`, `id`, once its segment has been
rewritten to `size` bytes. The bookkeeping of the active segment goes through the
pointer `find` returned, after `remove`. -/
def forget (s : Store) (c : DataClass) (id : String) (item : Entry) (size : Nat) (disk : Disk) :
    Store :=
  let slot := s.slotAfterRemove c id item
  let s' := { s.removeEntry c id with disk := unindex disk c id item.sequence }
  if some slot.file = s.activeFile then
    { s' with activeSize := size, activeFile := if size = 0 then none else s.activeFile }
  else s'

/-- The common body of `Ack` and `delete`. -/
def delete (J : Json) (s : Store) (c : DataClass) (id : String) : Except SpoolError Unit × Store :=
  match s.find c id with
  | none => (.ok (), s)
  | some item =>
    match s.rewriteWithout J item with
    | .error err => (.error err, s)
    | .ok (size, disk) => (.ok (), s.forget c id item size disk)

def evictsBefore (a b : Entry) : Prop :=
  a.batch.priority < b.batch.priority ∨ a.batch.priority = b.batch.priority ∧ a.sequence ≤ b.sequence

instance : DecidableRel evictsBefore := fun a b => by
  unfold evictsBefore
  exact inferInstance

def evictionCandidate (s : Store) : Option Entry :=
  [DataClass.metric, .log, .jobResult].findSome? fun c =>
    ((s.entries c).insertionSort evictsBefore).head?

/-- The loop of `makeCapacity`, with a bound on its turns. -/
def makeCapacityLoop (J : Json) (newClass : DataClass) (needed : Nat) : Nat → Store → Except SpoolError Unit × Store
  | 0, s => (.error .unbounded, s)
  | turns + 1, s =>
    if (s.usedBytes + needed : Int) ≤ s.limits.maxBytes then (.ok (), s) else
    match s.evictionCandidate with
    | none =>
      if newClass = .auditLog then
        (.error .auditCapacity, { s with findings := insert .auditSpoolFull s.findings })
      else (.error .capacityExhausted, s)
    | some candidate =>
      match s.delete J candidate.dataClass candidate.batch.id with
      | (.error err, s') => (.error err, s')
      | (.ok (), s') => makeCapacityLoop J newClass needed turns s'

def makeCapacity (J : Json) (s : Store) (newClass : DataClass) (needed : Nat) : Except SpoolError Unit × Store :=
  makeCapacityLoop J newClass needed (s.all.length + 1) s

/-- The fence of the producer cursor: an error, an exact repetition, or leave to
go on. -/
def checkCursor (J : Json) (s : Store) (receipt : PersistedCursorReceipt) :
    Except SpoolError (Option CursorAppendResult) :=
  match loadCursorReceipt J s.disk.cursorReceipts receipt.key with
  | .error err => .error err
  | .ok none => .ok none
  | .ok (some current) =>
    if current.ackPending ∧ receipt.sequence > current.sequence then .error .cursorACKPending else
    if receipt.sequence < current.sequence ∨
        receipt.sequence = current.sequence ∧
          (receipt.digest ≠ current.digest ∨ !receipt.collectedAt.equal current.collectedAt) ∨
        receipt.sequence > current.sequence ∧
          receipt.collectedAt.before current.collectedAt then .error .cursorConflict else
    if receipt.sequence = current.sequence then .ok (some .duplicate) else .ok none

/-- The answers `append` gives without storing anything: the cursor fence first,
then the logical identity of the batch. -/
def admission (J : Json) (s : Store) (c : DataClass) (batch : Batch)
    (receipt : Option PersistedCursorReceipt) : Except SpoolError (Option CursorAppendResult) :=
  match receipt.elim (.ok none) (s.checkCursor J) with
  | .error err => .error err
  | .ok (some result) => .ok (some result)
  | .ok none =>
    if (s.find c batch.id).isSome then
      if receipt.isSome then .error .cursorConflict else .ok (some .duplicate)
    else .ok none

/-- The header `append` writes. -/
def newHeader (c : DataClass) (batch : Batch) (receipt : Option PersistedCursorReceipt)
    (sequence : Nat) : RecordHeader where
  id := batch.id
  sourceID := batch.sourceID
  createdAt := batch.createdAt.utc
  priority := batch.priority
  checksum := batch.checksum
  dataClass := c
  sequence := sequence
  cursor := receipt

/-- The entry `append` stores. -/
def newEntry (c : DataClass) (batch : Batch) (receipt : Option PersistedCursorReceipt)
    (sequence : Nat) (file : Segment) (size : Nat) : Entry where
  batch := { batch with createdAt := batch.createdAt.utc }
  dataClass := c
  sequence := sequence
  file := file
  bytes := size
  cursor := receipt.map clonePersistedCursor

/-- The file `append` writes to; `reserve` has named it. -/
def activePath (s : Store) : Segment := s.activeFile.getD .active

/-- A record that would overflow the active segment goes to a new one. -/
def rotate (s : Store) (size : Nat) : Except SpoolError Unit × Store :=
  if s.activeFile ≠ none ∧ s.activeSize > 0 ∧
    (s.activeSize + size : Int) > s.limits.segmentBytes then s.sealActive else (.ok (), s)

/-- `append` writes to `active.open` if there is no active segment. -/
def nameActive (s : Store) : Store :=
  if s.activeFile = none then { s with activeFile := some .active, activeSize := 0 } else s

/-- Rotation and eviction ahead of a write, and the choice of the active file. -/
def reserve (J : Json) (s : Store) (c : DataClass) (size : Nat) : Except SpoolError Unit × Store :=
  match s.rotate size with
  | (.error err, s) => (.error err, s)
  | (.ok (), s) =>
    match s.makeCapacity J c size with
    | (.error err, s) => (.error err, s)
    | (.ok (), s) => (.ok (), s.nameActive)

/-- The bytes of a record reach the active segment. -/
def write (s : Store) (bytes : Bytes) : Store :=
  { s with disk := s.disk.extend s.activePath bytes }

/-- The one bbolt transaction that makes a written record visible. -/
def commit (J : Json) (d : Disk) (item : Entry) (receipt : Option PersistedCursorReceipt) :
    Option Disk :=
  let indexed := { d with
    segmentIndex := Function.update d.segmentIndex item.sequence (some item.file)
    dedup := Function.update d.dedup (item.dataClass, item.batch.id) (some item.sequence) }
  match receipt with
  | none => some indexed
  | some receipt => (J.marshalCursor receipt).map fun encoded =>
      { indexed with
        cursorReceipts := Function.update indexed.cursorReceipts receipt.key (some encoded) }

/-- The entry joins the queue. -/
def enqueue (s : Store) (item : Entry) (disk : Disk) : Store :=
  { s with
    disk := disk
    entries := Function.update s.entries item.dataClass (s.entries item.dataClass ++ [item])
    nextSeq := item.sequence
    activeSize := s.activeSize + item.bytes }

/-- What follows the write of a record: commit, publish, rotate a full segment. -/
def publish (J : Json) (s : Store) (item : Entry) (receipt : Option PersistedCursorReceipt) :
    Except SpoolError CursorAppendResult × Store :=
  match commit J s.disk item receipt with
  | none => (.error .marshal,
      { s with disk := s.disk.truncate s.activePath s.activeSize }.auditIOFailure item.dataClass .marshal)
  | some disk =>
    let stored := s.enqueue item disk
    if (stored.activeSize : Int) ≥ s.limits.segmentBytes then
      match stored.sealActive with
      | (.error err, s') => (.error err, s'.auditIOFailure item.dataClass err)
      | (.ok (), s') => (.ok .stored, s')
    else (.ok .stored, stored)

/-- How the write of a record ends. -/
inductive Write where
  | complete
  /-- The last `missing + 1` bytes do not reach the file, and `Write`, `Sync` or
  `Close` reports an error. -/
  | failed (missing : Nat)
  deriving DecidableEq

/-- The part of a record that reaches the file. -/
def Write.bytes (encoded : Bytes) : Write → Bytes
  | .complete => encoded
  | .failed missing => encoded.take (encoded.length - (missing + 1))

def append (J : Json) (s : Store) (c : DataClass) (batch : Batch)
    (receipt : Option PersistedCursorReceipt) (write : Write) :
    Except SpoolError CursorAppendResult × Store :=
  if !validClass c || batch.id == "" || batch.sourceID == "" then (.error .invalidBatch, s) else
  match s.admission J c batch receipt with
  | .error err => (.error err, s)
  | .ok (some result) => (.ok result, s)
  | .ok none =>
    let sequence := s.nextSeq + 1
    match encodeRecord J (newHeader c batch receipt sequence) batch.payload with
    | .error err => (.error err, s)
    | .ok encoded =>
      match s.reserve J c encoded.length with
      | (.error err, s') => (.error err, s'.auditIOFailure c err)
      | (.ok (), s') =>
        match write with
        | .failed _ => (.error .io, (s'.write (write.bytes encoded)).auditIOFailure c .io)
        | .complete =>
          (s'.write encoded).publish J (newEntry c batch receipt sequence s'.activePath encoded.length) receipt

/-! ## The exported operations -/

def appendWithCursor (J : Json) (s : Store) (c : DataClass) (batch : Batch)
    (receipt : CursorReceipt) : Except SpoolError CursorAppendResult × Store :=
  if !validCursorReceipt receipt || Checksum.sha256 batch.payload != receipt.digest then
    (.error .invalidReceipt, s)
  else s.append J c batch (some (persistedOf receipt)) .complete

/-- The flag of the in-memory cursors of one receipt is cleared in place. -/
def acknowledgeEntry (key : String) (sequence : Nat) (e : Entry) : Entry :=
  match e.cursor with
  | none => e
  | some cursor =>
    if cursor.key = key ∧ cursor.sequence = sequence then
      { e with cursor := some (cursor.withAck false) }
    else e

def markCursorAcknowledged (J : Json) (s : Store) (key : String) (sequence : Nat) : Except SpoolError Unit × Store :=
  if key = "" ∨ sequence = 0 then (.error .cursorConflict, s) else
  match loadCursorReceipt J s.disk.cursorReceipts key with
  | .error _ | .ok none => (.error .cursorConflict, s)
  | .ok (some current) =>
    if current.sequence ≠ sequence then (.error .cursorConflict, s) else
    if !current.ackPending then (.ok (), s) else
    match J.marshalCursor (current.withAck false) with
    | none => (.error .marshal, s)
    | some encoded => (.ok (), { s with
        disk := { s.disk with
          cursorReceipts := Function.update s.disk.cursorReceipts key (some encoded) }
        entries := fun c => (s.entries c).map (acknowledgeEntry key sequence) })

def ack (J : Json) (s : Store) (c : DataClass) (id : String) : Except SpoolError Unit × Store :=
  if !validClass c || id == "" then (.error .invalidAcknowledgement, s) else
  match s.delete J c id with
  | (.error err, s') => (.error err, s'.auditIOFailure c err)
  | (.ok (), s') => (.ok (), s')

def pending (s : Store) (c : DataClass) (limit : Int) : Except SpoolError (List Batch) :=
  if !validClass c || limit < 0 then .error .invalidPending else
  let items := s.entries c
  let limit := if limit = 0 ∨ limit > items.length then items.length else limit.toNat
  .ok ((items.take limit).map Entry.batch)

def cursor (J : Json) (s : Store) (key : String) : Except SpoolError (Option CursorReceipt) :=
  if key = "" ∨ key.utf8ByteSize > 1024 then .error .invalidKey else
  (loadCursorReceipt J s.disk.cursorReceipts key).map fun value => value.map publicCursorReceipt

/-- `Close` seals the active segment and lets go of the disk in any case. -/
def close (s : Store) : Except SpoolError Unit × Disk := (s.sealActive.1, s.sealActive.2.disk)

/-- The calls that change the spool. `Seal` is `sealActive` under the lock. -/
inductive Call where
  | append (c : DataClass) (batch : Batch)
  | appendWithCursor (c : DataClass) (batch : Batch) (receipt : CursorReceipt)
  | markCursorAcknowledged (key : String) (sequence : Nat)
  | ack (c : DataClass) (id : String)
  | sealActive

/-- The effect of one call and what it returns; only `AppendWithCursor` returns
more than an error. -/
def step (J : Json) (s : Store) : Call → Except SpoolError (Option CursorAppendResult) × Store
  | .append c batch => ((s.append J c batch none .complete).1.map fun _ => none,
      (s.append J c batch none .complete).2)
  | .appendWithCursor c batch receipt => ((s.appendWithCursor J c batch receipt).1.map some,
      (s.appendWithCursor J c batch receipt).2)
  | .markCursorAcknowledged key sequence =>
    ((s.markCursorAcknowledged J key sequence).1.map fun _ => none, (s.markCursorAcknowledged J key sequence).2)
  | .ack c id => ((s.ack J c id).1.map fun _ => none, (s.ack J c id).2)
  | .sealActive => (s.sealActive.1.map fun _ => none, s.sealActive.2)

end Store
end DBPilot.Spool
