import DBPilot.Spool.Store

/-!
# Opening a spool

`Open` scans the segment files, cuts off torn tails, quarantines corrupt
segments, sorts the recovered entries by sequence and re-installs the cursor
receipts of the recovered records in one bbolt transaction. The transaction
visits the entry map in Go's map order, which is a parameter here.
-/

namespace DBPilot.Spool

open SegmentedLog KeyedSort

namespace Disk

def sealedNames (d : Disk) : List Nat :=
  d.segments.keys.filterMap fun
    | .sealed first => some first
    | .active => none

/-- The sealed segments in the order of their names, then `active.open`. -/
def paths (d : Disk) : List Segment :=
  (d.sealedNames.insertionSort (· ≤ ·)).map Segment.sealed ++
    if (d.read .active).isSome then [.active] else []

/-- `quarantineFile`: the segment leaves the directory. -/
def quarantineFile (d : Disk) (f : Segment) (contents : Bytes) : Disk :=
  { d.remove f with quarantine := d.quarantine ++ [(f, contents)] }

/-- One segment: its entries, the disk afterwards, and whether it was corrupt. -/
def recoverSegment (J : Json) (d : Disk) (f : Segment) : List Entry × Disk × Bool :=
  let contents := (d.read f).getD []
  match recoverFile J contents with
  | none => ([], d.quarantineFile f contents, true)
  | some (items, kept) =>
    (items.map fun item => { item with file := f }, d.replace f (contents.take kept), false)

def recoverSegments (J : Json) : List Segment → Disk → List Entry × Disk × Bool
  | [], d => ([], d, false)
  | f :: rest, d =>
    let (items, d, corrupt) := d.recoverSegment J f
    let (more, d, corruptRest) := recoverSegments J rest d
    (items ++ more, d, corrupt || corruptRest)

end Disk

/-- An order in which Go may visit the entry map. -/
abbrev MapOrder := { order : List DataClass // order.Perm classes }

/-- The receipt part of the recovery transaction, over the entries in the order
they are visited. -/
def installReceipts (J : Json) : List Entry → (String → Option Bytes) → Except SpoolError (String → Option Bytes)
  | [], receipts => .ok receipts
  | item :: rest, receipts =>
    match item.cursor with
    | none => installReceipts J rest receipts
    | some cursor =>
      match loadCursorReceipt J receipts cursor.key with
      | .error err => .error err
      | .ok current =>
        if current.any (fun current => cursor.sequence < current.sequence ||
            cursor.sequence == current.sequence && (cursor.digest != current.digest ||
              !cursor.collectedAt.equal current.collectedAt)) then .error .cursorConflict else
        if current.all (fun current => cursor.sequence > current.sequence) then
          match J.marshalCursor cursor with
          | none => .error .marshal
          | some encoded =>
            installReceipts J rest (Function.update receipts cursor.key (some encoded))
        else installReceipts J rest receipts

/-- A store of the recovered items, before the transaction. -/
def recovered (limits : Limits) (items : List Entry) (d : Disk) (corrupt : Bool) : Store where
  limits := limits
  nextSeq := items.foldl (fun most item => max most item.sequence) 0
  entries := fun c => sortOn Entry.sequence (items.filter (·.dataClass = c))
  findings := if corrupt then {.corruptSegment} else ∅
  activeFile := (d.read .active).map fun _ => .active
  activeSize := ((d.read .active).getD []).length
  disk := d

/-- The index buckets rebuilt from the entries. -/
def reindex (d : Disk) (items : List Entry) : Disk :=
  { d with
    segmentIndex := items.foldl (fun index item => Function.update index item.sequence (some item.file)) fun _ => none
    dedup := items.foldl
      (fun dedup item => Function.update dedup (item.dataClass, item.batch.id) (some item.sequence))
      fun _ => none }

/-- The store after the segment scan. -/
def scanned (J : Json) (limits : Limits) (d : Disk) : Store :=
  let (items, d, corrupt) := Disk.recoverSegments J d.paths d
  recovered limits items d corrupt

/-- `Open` of a valid root, with the visiting order of the entry map. On an error
the disk that is left behind. -/
def openSpool (J : Json) (limits : Limits) (order : MapOrder) (d : Disk) : Except (SpoolError × Disk) Store :=
  if limits.maxBytes ≤ 0 ∨ limits.segmentBytes ≤ 0 then .error (.invalidRoot, d) else
  let s := scanned J limits d
  let visited := order.val.flatMap s.entries
  match installReceipts J visited s.disk.cursorReceipts with
  | .error err => .error (err, s.disk)
  | .ok receipts =>
    .ok { s with disk := { reindex s.disk visited with cursorReceipts := receipts } }

end DBPilot.Spool
