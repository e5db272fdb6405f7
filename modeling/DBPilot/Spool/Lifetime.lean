import DBPilot.Lib.Runs
import DBPilot.Spool.Recovery

/-!
# The lifetime of a spool root

Processes come and go over one spool root: a process opens it, makes calls, and
closes it or is killed, possibly inside a call. Every store that is ever up is
coherent with the files under it.
-/

namespace DBPilot.Spool

open SegmentedLog KeyedSort Runs

variable {J : Json} {T : Tails} {log : Log Record} {s s' : Store} {d : Disk} {r : Record}
  {receipt : Option PersistedCursorReceipt}

inductive Process where
  | up (s : Store)
  | down (d : Disk)

inductive Event where
  | call (call : Store.Call) (result : Except SpoolError (Option CursorAppendResult))
  | closed
  | killed
  | opened
  | refused (err : SpoolError)

/-- The disks a process leaves behind when it is killed: between calls, with a
sealed or compacted segment, in the middle of an eviction, with part of a record
written, or with a record written but not committed. bbolt may still lack the
index updates of what the files already show. -/
inductive Interrupted (J : Json) (s : Store) : Disk → Prop
  | idle : Interrupted J s s.disk
  | sealing : Interrupted J s s.sealActive.2.disk
  | deleting (c : DataClass) (id : String) : Interrupted J s (s.delete J c id).2.disk
  | evicting (c : DataClass) (size turns : Nat) :
      Interrupted J s (Store.makeCapacityLoop J c size turns (s.rotate size).2).2.disk
  | writing {c : DataClass} {batch : Batch} {receipt : Option PersistedCursorReceipt}
      {encoded : Bytes} {s' : Store} (write : Store.Write) : Fresh receipt →
      validClass c = true ∧ batch.id ≠ "" ∧ batch.sourceID ≠ "" →
      s.admission J c batch receipt = .ok none →
      encodeRecord J (Store.newHeader c batch receipt (s.nextSeq + 1)) batch.payload = .ok encoded →
      s.reserve J c encoded.length = (.ok (), s') →
      Interrupted J s (s'.write (write.bytes encoded)).disk
  | committed {c : DataClass} {batch : Batch} {receipt : Option PersistedCursorReceipt}
      {encoded : Bytes} {s' : Store} {d : Disk} : Fresh receipt →
      validClass c = true ∧ batch.id ≠ "" ∧ batch.sourceID ≠ "" →
      s.admission J c batch receipt = .ok none →
      encodeRecord J (Store.newHeader c batch receipt (s.nextSeq + 1)) batch.payload = .ok encoded →
      s.reserve J c encoded.length = (.ok (), s') →
      Store.commit J (s'.write encoded).disk
        (Store.newEntry c batch receipt (s.nextSeq + 1) s'.activePath encoded.length) receipt =
        some d → Interrupted J s d
  | unindexed {d d' : Disk} : Interrupted J s d → d'.segments = d.segments →
      d'.cursorReceipts = d.cursorReceipts → Interrupted J s d'

inductive Move (J : Json) : Process → Event → Process → Prop
  | call (s : Store) (call : Store.Call) : Move J (.up s) (.call call (s.step J call).1) (.up (s.step J call).2)
  | close (s : Store) : Move J (.up s) .closed (.down s.close.2)
  | kill {s : Store} {d : Disk} : Interrupted J s d → Move J (.up s) .killed (.down d)
  | opened {limits : Limits} {order : MapOrder} {d : Disk} {s : Store} :
      openSpool J limits order d = .ok s → Move J (.down d) .opened (.up s)
  | refused {limits : Limits} {order : MapOrder} {d d' : Disk} {err : SpoolError} :
      openSpool J limits order d = .error (err, d') → Move J (.down d) (.refused err) (.down d')

lemma Move.of_step {call : Store.Call}
    {result : Except SpoolError (Option CursorAppendResult)} (h : s.step J call = (result, s')) :
    Move J (.up s) (.call call result) (.up s') := by
  have hmove := Move.call (J := J) s call
  rwa [h] at hmove

/-- Roots without segment files, whatever receipts an earlier release has left
in them. -/
def Vacant (d : Disk) : Prop := d.segments = ∅

def Reachable (J : Json) (p : Process) : Prop :=
  ∃ d es, Vacant d ∧ Run (Move J) (.down d) es p

/-- The process state represents some log. -/
def Sound (J : Json) : Process → Prop
  | .up s => ∃ log, Coherent J .clean log s
  | .down d => ∃ log, Consistent J (.torn J) log d

lemma consistent_of_vacant (h : Vacant d) : Consistent J (.torn J) empty d := by
  refine ⟨empty_wellFormed, ?_, ?_⟩
  · rintro f r ⟨l, hl, -⟩
    cases hl
  · intro f
    change d.segments.lookup f = none
    rw [h, AList.lookup_empty]

lemma sound_of_vacant (h : Vacant d) : Sound J (.down d) :=
  ⟨empty, consistent_of_vacant h⟩

/-- The records a kill leaves: some of the queue, and perhaps one more that had
been written, with or without its receipt. -/
inductive Leaves (J : Json) (s : Store) (log : Log Record) (receipts : String → Option Bytes) : Prop
  | removed : (∀ {f r}, Holds log f r → r ∈ s.records r.dataClass) →
      receipts = s.disk.cursorReceipts → Leaves J s log receipts
  | added {c : DataClass} {batch : Batch} {receipt : Option PersistedCursorReceipt} :
      Fresh receipt → s.admission J c batch receipt = .ok none →
      (∀ {f r}, Holds log f r → r ∈ s.records r.dataClass ∨ r = appended c batch receipt (s.nextSeq + 1)) →
      receipts = s.disk.cursorReceipts ∨ Installs J s.disk.cursorReceipts receipt receipts →
      Leaves J s log receipts

variable {c : DataClass}

namespace Coherent

lemma mem_records (h : Coherent J T log s) {f : Segment} (held : Holds log f r) : r ∈ s.records r.dataClass := by
  obtain ⟨e, he, -, rfl⟩ := h.index.complete held
  exact List.mem_map_of_mem he

lemma holds_of_mem_records (h : Coherent J T log s) (hr : r ∈ s.records c) : ∃ f, Holds log f r := by
  obtain ⟨e, he, rfl⟩ := List.mem_map.mp hr
  exact ⟨e.file, (h.index.sound he).2⟩

lemma mem_records_of_shrinks {log' : Log Record} (h' : Coherent J T log' s')
    (shrinks : Shrinks s s') {f : Segment} (held : Holds log' f r) :
    r ∈ s.records r.dataClass := (shrinks.records _).subset (h'.mem_records held)

/-- Wherever the process is killed, the disk still represents a log of records
the process had stored or was storing. -/
theorem interrupted (h : Coherent J .clean log s) (interrupted : Interrupted J s d) :
    ∃ log', Consistent J (.torn J) log' d ∧ Leaves J s log' d.cursorReceipts := by
  induction interrupted with
  | idle => exact ⟨log, h.toConsistent.clean_torn, .removed h.mem_records rfl⟩
  | sealing =>
    obtain ⟨-, ⟨log', hlog'⟩, hqueue, -⟩ := h.sealActive
    exact ⟨log', hlog'.toConsistent.clean_torn,
      .removed (hlog'.mem_records_of_shrinks hqueue.shrinks) hqueue.receipts⟩
  | deleting c id =>
    obtain ⟨log', hlog'⟩ := h.delete c id
    have hremoves := h.removes_of_delete c id
    refine ⟨log', hlog'.toConsistent.clean_torn, .removed ?_ hremoves.receipts⟩
    exact fun held => (hremoves.records _).subset (hlog'.mem_records held)
  | evicting c size turns =>
    obtain ⟨-, ⟨log₁, hlog₁⟩, hqueue⟩ := h.rotate size
    obtain ⟨⟨log₂, hlog₂⟩, hshrinks⟩ := hlog₁.makeCapacityLoop c size turns
    have hall := hqueue.shrinks.trans hshrinks
    exact ⟨log₂, hlog₂.toConsistent.clean_torn, .removed (hlog₂.mem_records_of_shrinks hall) hall.receipts⟩
  | @writing c batch receipt encoded s' write fresh valid admitted encodes reserved =>
    obtain ⟨⟨log', hlog'⟩, hshrinks, -⟩ := h.reserve c encoded.length
    rw [reserved] at hlog' hshrinks
    obtain ⟨hactive, hnext⟩ := h.next fresh valid admitted encodes reserved
    cases write with
    | complete =>
      have hpush := hlog'.enqueue hactive (hlog'.files .active) hnext rfl
      rw [newEntry_record fresh] at hpush
      refine ⟨_, hpush.toConsistent.clean_torn, .added fresh admitted ?_ (.inl hshrinks.receipts)⟩
      intro f r held
      rcases holds_push.mp held with hold | ⟨-, rfl⟩
      · exact .inl (hlog'.mem_records_of_shrinks hshrinks hold)
      · exact .inr rfl
    | failed missing =>
      have htorn := tornRecord_of_failed encodes missing
      have hwrite := (hlog'.of_clean (.torn J)).write_torn hactive (hlog'.files .active) (.inr ⟨_, _, htorn⟩)
      refine ⟨_, hwrite.toConsistent, .removed ?_ hshrinks.receipts⟩
      exact fun held => hlog'.mem_records_of_shrinks hshrinks (holds_touch.mp held)
  | @committed c batch receipt encoded s' d fresh valid admitted encodes reserved commits =>
    obtain ⟨⟨log', hlog'⟩, hshrinks, -⟩ := h.reserve c encoded.length
    rw [reserved] at hlog' hshrinks
    obtain ⟨hactive, hnext⟩ := h.next fresh valid admitted encodes reserved
    obtain ⟨d', hcommit, hsegments, hinstalls⟩ :=
      commit_some hnext.encodes hnext.cursor (s'.write encoded).disk
    rw [commits] at hcommit
    cases hcommit
    have hpush := hlog'.enqueue hactive (hlog'.files .active) hnext hsegments
    rw [newEntry_record fresh] at hpush
    have hreceipts : (s'.write encoded).disk.cursorReceipts = s.disk.cursorReceipts :=
      hshrinks.receipts
    rw [hreceipts] at hinstalls
    refine ⟨_, hpush.toConsistent.clean_torn, .added fresh admitted ?_ (.inr hinstalls)⟩
    intro f r held
    rcases holds_push.mp held with hold | ⟨-, rfl⟩
    · exact .inl (hlog'.mem_records_of_shrinks hshrinks hold)
    · exact .inr rfl
  | unindexed _ segments receipts ih =>
    obtain ⟨log', hlog', hleaves⟩ := ih
    refine ⟨log', ⟨hlog'.wf, hlog'.valid, fun f => ?_⟩, receipts ▸ hleaves⟩
    rw [Disk.read, segments]
    exact hlog'.files f

end Coherent

lemma sound_of_move {p p' : Process} {e : Event} (move : Move J p e p') (h : Sound J p) : Sound J p' := by
  cases move <;> obtain ⟨log, hlog⟩ := h
  case call s call => exact hlog.step call
  case close s =>
    obtain ⟨log', hlog'⟩ := hlog.sealActive.2.1
    exact ⟨log', hlog'.toConsistent.clean_torn⟩
  case kill interrupted =>
    obtain ⟨log', hlog', -⟩ := hlog.interrupted interrupted
    exact ⟨log', hlog'⟩
  case opened opens => exact ⟨_, (hlog.openSpool _ _).1 _ opens⟩
  case refused refuses =>
    obtain ⟨log', hlog', -⟩ := (hlog.openSpool _ _).2 _ _ refuses
    exact ⟨log', hlog'⟩

theorem sound_of_reachable {p : Process} (h : Reachable J p) : Sound J p := by
  obtain ⟨d, es, hvacant, hrun⟩ := h
  exact hrun.invariant (Sound J) sound_of_move (sound_of_vacant hvacant)

/-- What every call keeps and every `Open` brings about holds in the stores of a run. -/
lemma up_of_run {step : Process → Event → Process → Prop} {P : Store → Prop} {es : List Event}
    (vacant : Vacant d) (run : Run step (.down d) es (.up s))
    (moves : ∀ {p e p'}, step p e p' → Move J p e p')
    (calls : ∀ {s call log}, Coherent J .clean log s →
      step (.up s) (.call call (s.step J call).1) (.up (s.step J call).2) → P s → P (s.step J call).2)
    (opens : ∀ {limits order d receipts}, ¬ (limits.maxBytes ≤ 0 ∨ limits.segmentBytes ≤ 0) →
      P (opened J limits order d receipts)) : P s := by
  let inv : Process → Prop := fun p => Sound J p ∧ ∀ s, p = .up s → P s
  have kept : ∀ {p e p'}, step p e p' → inv p → inv p' := by
    rintro p e p' hstep ⟨hsound, hup⟩
    have hmove := moves hstep
    refine ⟨sound_of_move hmove hsound, ?_⟩
    rintro s' rfl
    cases hmove with
    | call s =>
      obtain ⟨log, hlog⟩ := hsound
      exact calls hlog hstep (hup s rfl)
    | opened done =>
      obtain ⟨positive, receipts, -, rfl⟩ := openSpool_eq_ok done
      exact opens positive
  exact (run.invariant inv kept ⟨sound_of_vacant vacant, nofun⟩).2 s rfl

/-! ## A sample process -/

def sampleLimits : Limits := ⟨2 ^ 20, 2 ^ 20⟩

def sampleOrder : MapOrder := ⟨classes, .refl _⟩

/-- The store of a process that has opened an empty root. -/
def sampleOpened : Store where
  limits := sampleLimits
  nextSeq := 0
  entries := fun _ => []
  findings := ∅
  activeFile := none
  activeSize := 0
  disk := Disk.empty

lemma openSpool_empty (J : Json) : openSpool J sampleLimits sampleOrder Disk.empty = .ok sampleOpened := rfl

lemma vacant_empty : Vacant Disk.empty := rfl

def sampleBatch (id : String) : Batch := ⟨id, "s", sampleTime, 0, [], 0⟩

def sampleEntry (c : DataClass) (id : String) (sequence : Nat) (receipt : Option PersistedCursorReceipt) : Entry :=
  Store.newEntry c (sampleBatch id) receipt sequence .active
    (sampleChunk (sampleHeader id c sequence receipt) []).length

/-- The store once a sample batch has been appended to it. -/
def Store.withSample (s : Store) (c : DataClass) (id : String)
    (receipt : Option PersistedCursorReceipt) (receipts : String → Option Bytes) : Store :=
  let item := sampleEntry c id (s.nextSeq + 1) receipt
  let written := s.nameActive.write (sampleChunk (sampleHeader id c (s.nextSeq + 1) receipt) [])
  written.enqueue item { written.disk with
    segmentIndex := Function.update written.disk.segmentIndex item.sequence (some .active)
    dedup := Function.update written.disk.dedup (c, id) (some item.sequence)
    cursorReceipts := receipts }

/-- The store that holds one sample batch. -/
def storeA : Store := sampleOpened.withSample .log "a" none fun _ => none

set_option maxRecDepth 100000 in
lemma step_storeA : sampleOpened.step sampleJson (.append .log (sampleBatch "a")) = (.ok none, storeA) := by rfl

lemma storeA_reachable : Reachable sampleJson (.up storeA) := by
  refine ⟨Disk.empty, [.opened, .call (.append .log (sampleBatch "a")) (.ok none)], vacant_empty, ?_⟩
  exact .cons (.opened (openSpool_empty _)) (.single (.of_step step_storeA))

/-! ## Disk and memory -/

end DBPilot.Spool
