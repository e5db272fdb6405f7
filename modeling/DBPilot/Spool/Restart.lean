import DBPilot.Spool.Fence

/-!
# Restarting

`Close` and `Open` give the queue and the receipts back, unless a pending record
carries a cursor older than the durable receipt of its key: the recovery
transaction takes such a record for a conflict and `Open` fails.
-/

namespace DBPilot.Spool

open WallClock SegmentedLog Runs

/-! ## Queues with the same records -/

namespace Coherent
variable {J : Json} {T T' : Tails} {log log' : Log Record} {s s' : Store}

/-- The queue is determined by the records of the log. -/
lemma records_ext (h : Coherent J T log s) (h' : Coherent J T' log' s')
    (same : ∀ r, (∃ f, Holds log f r) ↔ ∃ f, Holds log' f r) (c : DataClass) :
    s.records c = s'.records c := by
  apply ((h.index.increasing c).map record_sequence).ext ((h'.index.increasing c).map record_sequence)
  intro r
  constructor
  · intro hr
    obtain ⟨f, held⟩ := (same r).mp (h.holds_of_mem_records hr)
    exact h.records_dataClass c r hr ▸ h'.mem_records held
  · intro hr
    obtain ⟨f, held⟩ := (same r).mpr (h'.holds_of_mem_records hr)
    exact h'.records_dataClass c r hr ▸ h.mem_records held

end Coherent

variable {s : Store}

lemma pending_eq_of_records {s' : Store} {c : DataClass} (same : s'.records c = s.records c) (limit : Int) : s'.pending c limit = s.pending c limit := by
  have hbatches : (s'.entries c).map Entry.batch = (s.entries c).map Entry.batch := by
    have hmap := congrArg (List.map Record.batch) same
    rwa [Store.records, Store.records, List.map_map, List.map_map] at hmap
  have hlength : (s'.entries c).length = (s.entries c).length := by
    simpa using congrArg List.length hbatches
  simp only [Store.pending, hlength, List.map_take, hbatches]

/-! ## The recovery transaction on covered cursors -/

section Transaction
variable {J : Json} {items : List Entry} {receipts : String → Option Bytes}

open Classical in
/-- The transaction writes nothing, and fails on a stale cursor. -/
lemma installReceipts_covered
    (covered : ∀ e ∈ items, ∀ cursor, e.cursor = some cursor → Covered J receipts cursor) :
    installReceipts J items receipts =
      if ∃ e ∈ items, ∃ cursor, e.cursor = some cursor ∧ Stale J receipts cursor then .error .cursorConflict
      else .ok receipts := by
  induction items with
  | nil => simp [installReceipts]
  | cons item rest ih =>
    have hrest := ih fun e he => covered e (List.mem_cons_of_mem item he)
    cases hcursor : item.cursor with
    | none => simp [installReceipts, hcursor, hrest]
    | some cursor =>
      obtain ⟨current, hload, hcover⟩ := covered item List.mem_cons_self cursor hcursor
      have hstale : Stale J receipts cursor ↔ cursor.sequence < current.sequence := by simp [Stale, hload]
      by_cases hlt : cursor.sequence < current.sequence
      · simp [installReceipts, hcursor, hload, hstale, hlt]
      · obtain ⟨hseq, hdigest, hat⟩ := hcover.resolve_left hlt
        simp [installReceipts, hcursor, hload, hstale, hseq, hdigest, hat, Time.equal, hrest]

end Transaction

/-! ## Close and Open -/

/-- No pending record carries a cursor older than the durable receipt. -/
def NothingStale (J : Json) (s : Store) : Prop :=
  ∀ c, ∀ e ∈ s.entries c, ∀ cursor, e.cursor = some cursor → ¬ Stale J s.disk.cursorReceipts cursor

/-- `Close` and `Open` succeed and give queue and receipts back. -/
def RestartsUnchanged (J : Json) (order : MapOrder) (s : Store) : Prop :=
  s.close.1 = .ok () ∧ ∃ s', openSpool J s.limits order s.close.2 = .ok s' ∧
    (∀ c limit, s'.pending c limit = s.pending c limit) ∧
    ∀ key, s'.cursor J key = s.cursor J key

variable {J : Json}

lemma limits_of_reachable (h : Reachable J (.up s)) : ¬ (s.limits.maxBytes ≤ 0 ∨ s.limits.segmentBytes ≤ 0) := by
  obtain ⟨d, es, hvacant, hrun⟩ := h
  refine up_of_run (P := fun s => ¬ (s.limits.maxBytes ≤ 0 ∨ s.limits.segmentBytes ≤ 0)) hvacant hrun id ?_ id
  intro s call log hlog _ hlimits
  rwa [(hlog.effect call).limits]

/-- The scan of a disk whose segments recovery keeps sees the queue of the store
that left it. -/
lemma scanned_of_safe {log : Log Record} (h : Coherent J (.safe J) log s) (limits : Limits) : (∀ c, (scanned J limits s.disk).records c = s.records c) ∧
      ∃ log', Coherent J .clean log' (scanned J limits s.disk) := by
  have hscanned := h.toConsistent.safe_torn.scanned limits
  refine ⟨hscanned.records_ext h ?_, _, hscanned⟩
  intro r
  constructor
  · rintro ⟨f, held⟩
    exact ⟨f, (holds_restrict.mp held).2⟩
  · rintro ⟨f, held⟩
    exact ⟨f, holds_restrict.mpr ⟨h.toConsistent.kept_of_safe held, held⟩⟩

/-- Whether a record is pending in a class, and its cursor up to the flag. -/
lemma exists_entry_of_records {s' : Store} {c : DataClass} (same : s'.records c = s.records c) {e : Entry}
    (he : e ∈ s.entries c) {cursor : PersistedCursorReceipt} (hcursor : e.cursor = some cursor) : ∃ e' ∈ s'.entries c, ∃ cursor', e'.cursor = some cursor' ∧
      cursor'.withAck true = cursor.withAck true := by
  have hr : e.record ∈ s'.records c := same ▸ List.mem_map_of_mem he
  obtain ⟨e', he', hrecord⟩ := List.mem_map.mp hr
  have hsame : e'.cursor.map (·.withAck true) = some (cursor.withAck true) :=
    (congrArg Record.cursor hrecord).trans (record_cursor hcursor)
  obtain ⟨cursor', hcursor', hack⟩ := Option.map_eq_some_iff.mp hsame
  exact ⟨e', he', cursor', hcursor', hack⟩

lemma stale_of_withAck {receipts : String → Option Bytes} {cursor cursor' : PersistedCursorReceipt}
    (same : cursor'.withAck true = cursor.withAck true) (h : Stale J receipts cursor) : Stale J receipts cursor' := by
  rw [← stale_withAck (a := true), same, stale_withAck]
  exact h

/-- What `Open` finds after `Close`: the queue of the closed store, every cursor of
which is covered by the receipt of its key. -/
lemma scanned_of_closed (reachable : Reachable J (.up s)) :
    s.close.1 = .ok () ∧ s.close.2.cursorReceipts = s.disk.cursorReceipts ∧
      (∃ log, Coherent J .clean log (scanned J s.limits s.close.2)) ∧
      (∀ c, (scanned J s.limits s.close.2).records c = s.records c) ∧
      ∀ c, ∀ e ∈ (scanned J s.limits s.close.2).entries c, ∀ cursor, e.cursor = some cursor →
        Covered J s.close.2.cursorReceipts cursor := by
  obtain ⟨d, es, hvacant, hrun⟩ := reachable
  obtain ⟨⟨⟨log, h⟩, hcovered⟩, -⟩ := guarded_of_run hrun (guarded_of_vacant hvacant)
  obtain ⟨hclose, ⟨log', h'⟩, hqueue, -⟩ := h.sealActive
  obtain ⟨hrecords, log'', hscanned⟩ := scanned_of_safe (h'.of_clean _) s.limits
  have hsame : ∀ c, (scanned J s.limits s.close.2).records c = s.records c :=
    fun c => (hrecords c).trans (hqueue.records c)
  have hreceipts : s.close.2.cursorReceipts = s.disk.cursorReceipts := hqueue.receipts
  refine ⟨hclose, hreceipts, ⟨log'', hscanned⟩, hsame, ?_⟩
  intro c e he cursor hcursor
  have hr : e.record ∈ s.records c := hsame c ▸ List.mem_map_of_mem he
  rw [hreceipts]
  exact covered_withAck.mp (hcovered c e.record hr _ (record_cursor hcursor))

open Classical in
/-- What the recovery transaction of `Open` makes of the receipts after `Close`. -/
lemma installReceipts_closed (reachable : Reachable J (.up s)) (order : MapOrder) :
    installReceipts J (order.val.flatMap (scanned J s.limits s.close.2).entries) s.close.2.cursorReceipts =
      if NothingStale J s then .ok s.close.2.cursorReceipts else .error .cursorConflict := by
  obtain ⟨-, hreceipts, ⟨log, hscanned⟩, hsame, hcovers⟩ := scanned_of_closed reachable
  have hstale : (∃ e ∈ order.val.flatMap (scanned J s.limits s.close.2).entries, ∃ cursor,
      e.cursor = some cursor ∧ Stale J s.close.2.cursorReceipts cursor) ↔ ¬ NothingStale J s := by
    rw [hreceipts]
    constructor
    · rintro ⟨e, he, cursor, hcursor, hstale⟩ fresh
      obtain ⟨c, -, he⟩ := List.mem_flatMap.mp he
      obtain ⟨e', he', cursor', hcursor', hack⟩ := exists_entry_of_records (hsame c).symm he hcursor
      exact fresh c e' he' cursor' hcursor' (stale_of_withAck hack hstale)
    · intro stale
      simp only [NothingStale, not_forall, not_not] at stale
      obtain ⟨c, e, he, cursor, hcursor, hstale⟩ := stale
      obtain ⟨e', he', cursor', hcursor', hack⟩ := exists_entry_of_records (hsame c) he hcursor
      refine ⟨e', ?_, cursor', hcursor', stale_of_withAck hack hstale⟩
      refine List.mem_flatMap.mpr ⟨c, order.property.mem_iff.mpr (mem_classes.mpr ?_), he'⟩
      rw [← (hscanned.index.sound he').1]
      exact (hscanned.entry_valid he').dataClass
  rw [installReceipts_covered, if_congr hstale rfl rfl, ite_not]
  intro e he
  obtain ⟨c, -, he⟩ := List.mem_flatMap.mp he
  exact hcovers c e he

/-- One stale record is enough for `Open` to fail. -/
lemma restart_conflict (reachable : Reachable J (.up s)) (order : MapOrder) (stale : ¬ NothingStale J s) : s.close.1 = .ok () ∧
      ∃ d, openSpool J s.limits order s.close.2 = .error (.cursorConflict, d) := by
  refine ⟨(scanned_of_closed reachable).1, ?_⟩
  rw [openSpool_eq (limits_of_reachable reachable), installReceipts_closed reachable, if_neg stale]
  exact ⟨_, rfl⟩

/-- In every reachable state, and for every order in which Go visits the entry
map, a restart is the identity on queue and receipts exactly when no pending
record is older than the receipt of its key. -/
theorem restart_identity_iff (J : Json) (s : Store) (reachable : Reachable J (.up s))
    (order : MapOrder) : RestartsUnchanged J order s ↔ NothingStale J s := by
  constructor
  · rintro ⟨-, s', hopen, -⟩
    by_contra hstale
    obtain ⟨-, d, hconflict⟩ := restart_conflict reachable order hstale
    rw [hconflict] at hopen
    cases hopen
  · intro fresh
    obtain ⟨hclose, hreceipts, -, hsame, -⟩ := scanned_of_closed reachable
    refine ⟨hclose, ?_⟩
    rw [openSpool_eq (limits_of_reachable reachable), installReceipts_closed reachable, if_pos fresh]
    refine ⟨_, rfl, fun c limit => pending_eq_of_records (hsame c) limit, fun key => ?_⟩
    simp only [Store.cursor, opened, hreceipts]

theorem restart_identity_storeA :
    NothingStale sampleJson storeA ∧ RestartsUnchanged sampleJson sampleOrder storeA := by
  have hiff := restart_identity_iff sampleJson storeA storeA_reachable sampleOrder
  have hfresh : NothingStale sampleJson storeA := by
    rintro c e he cursor hcursor ⟨current, hload, -⟩
    have hnone : loadCursorReceipt sampleJson storeA.disk.cursorReceipts cursor.key = .ok none := rfl
    rw [hnone] at hload
    cases hload
  exact ⟨hfresh, hiff.mpr hfresh⟩

/-- Two batches of one producer, the first still pending when the second is
stored: after `Close` the spool cannot be opened any more. -/
theorem restart_refused_for_producer :
    Run (Move sampleJson) (.up sampleOpened) producerCalls (.up storeSecond) ∧
      storeSecond.close.1 = .ok () ∧
      ∃ d, openSpool sampleJson storeSecond.limits sampleOrder storeSecond.close.2 = .error (.cursorConflict, d) := by
  refine ⟨producer_run, restart_conflict ⟨Disk.empty, .opened :: producerCalls, vacant_empty,
    .cons (.opened (openSpool_empty _)) producer_run⟩ sampleOrder ?_⟩
  intro hfresh
  have hload : loadCursorReceipt sampleJson storeSecond.disk.cursorReceipts sampleKey =
      .ok (some (sampleCursor 100 true)) := by decide +kernel
  refine hfresh .log _ List.mem_cons_self (sampleCursor 1 false) rfl ⟨sampleCursor 100 true, hload, by decide⟩

end DBPilot.Spool
