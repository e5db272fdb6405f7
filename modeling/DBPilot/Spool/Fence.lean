import DBPilot.Spool.Receipts

/-!
# The producer cursor fence

Over the whole lifetime of a spool root, kills included, the durable receipt of
a producer only moves forward. While a store is up every cursor in the queue is
covered by the receipt bucket; after a kill at most one written record may be
ahead of it, and `Open` installs that record's receipt.
-/

namespace DBPilot.Spool

open SegmentedLog Runs

def Process.receipts : Process → String → Option Bytes
  | .up s => s.disk.cursorReceipts
  | .down d => d.cursorReceipts

variable {J : Json} {log : Log Record} {s s' : Store} {p p' : Process} {receipts : String → Option Bytes}
  {receipt : Option PersistedCursorReceipt} {cursor : PersistedCursorReceipt}

/-- The cursor of every pending record is covered. -/
def AllCovered (J : Json) (s : Store) : Prop :=
  ∀ c, ∀ r ∈ s.records c, ∀ cursor, r.cursor = some cursor → Covered J s.disk.cursorReceipts cursor

/-- Every cursor on disk is covered, but for one record that may be ahead. -/
structure Fenced (J : Json) (log : Log Record) (receipts : String → Option Bytes) : Prop where
  fits : ∀ {f r cursor}, Holds log f r → r.cursor = some cursor → Covered J receipts cursor ∨ Ahead J receipts cursor
  single : ∀ {f f' r r' cursor cursor'}, Holds log f r → Holds log f' r' →
    r.cursor = some cursor → r'.cursor = some cursor' →
    Ahead J receipts cursor → Ahead J receipts cursor' → r = r'

def Guarded (J : Json) : Process → Prop
  | .up s => (∃ log, Coherent J .clean log s) ∧ AllCovered J s
  | .down d => ∃ log, Consistent J (.torn J) log d ∧ Fenced J log d.cursorReceipts

lemma fenced_of_covered (h : ∀ {f r cursor}, Holds log f r → r.cursor = some cursor → Covered J receipts cursor) :
    Fenced J log receipts where
  fits := fun held hcursor => .inl (h held hcursor)
  single := fun held _ hcursor _ hahead _ => absurd hahead (h held hcursor).not_ahead

/-! ## Calls -/

/-- The cursor an admitted append carries is ahead of the bucket; once its
transaction commits, everything is covered. -/
lemma installs_covered {c : DataClass} {batch : Batch} (fresh : Fresh receipt)
    (admitted : s.admission J c batch receipt = .ok none) (covered : AllCovered J s)
    (installs : Installs J s.disk.cursorReceipts receipt receipts)
    (sequence : Nat) :
    Advances J s.disk.cursorReceipts receipts ∧
      ∀ r cursor, r ∈ s.records r.dataClass ∨ r = appended c batch receipt sequence →
        r.cursor = some cursor → Covered J receipts cursor := by
  rcases receipt with _ | value
  · change receipts = s.disk.cursorReceipts at installs
    subst installs
    refine ⟨.refl J _, ?_⟩
    rintro r cursor (hold | rfl) hcursor
    · exact covered _ r hold cursor hcursor
    · cases hcursor
  obtain ⟨encoded, hmarshal, rfl⟩ := installs
  have hcurrent := (fresh value rfl).1
  obtain ⟨hahead, -⟩ := checkCursor_none ((admission_none admitted).2 value rfl)
  have hadvances : Advances J s.disk.cursorReceipts
      (Function.update s.disk.cursorReceipts value.key (some encoded)) := by
    apply advances_update hcurrent hmarshal
    intro old hold
    rcases hahead with hnone | ⟨old', hold', hfollows⟩
    · rw [hnone] at hold
      cases hold
    · rw [hold'] at hold
      cases hold
      exact .inr hfollows
  refine ⟨hadvances, ?_⟩
  rintro r cursor (hold | rfl) hcursor
  · exact (covered _ r hold cursor hcursor).advance hadvances
  · cases hcursor
    exact covered_installed hcurrent hmarshal

variable {sequence : Nat}

lemma publishes_covered {s₁ : Store} {c : DataClass} {batch : Batch} (fresh : Fresh receipt)
    (admitted : s.admission J c batch receipt = .ok none) (covered : AllCovered J s) (shrinks : Shrinks s s₁)
    (publishes : Publishes J s₁ s' (appended c batch receipt sequence) receipt)
    (classes : ∀ c', ∀ r ∈ s.records c', r.dataClass = c') :
    Advances J s.disk.cursorReceipts s'.disk.cursorReceipts ∧ AllCovered J s' := by
  have hinstalls := publishes.receipts
  rw [shrinks.receipts] at hinstalls
  obtain ⟨hadvances, hcovers⟩ := installs_covered fresh admitted covered hinstalls sequence
  refine ⟨hadvances, ?_⟩
  intro c' r hr cursor hcursor
  refine hcovers r cursor ?_ hcursor
  rw [publishes.records, List.mem_append] at hr
  rcases hr with hold | hnew
  · have hmem := (shrinks.records c').subset hold
    exact .inl (classes c' r hmem ▸ hmem)
  · split at hnew
    · exact .inr (List.mem_singleton.mp hnew)
    · cases hnew

lemma Coherent.records_dataClass {T : Tails} (h : Coherent J T log s) : ∀ c, ∀ r ∈ s.records c, r.dataClass = c := by
  intro c r hr
  obtain ⟨e, he, rfl⟩ := List.mem_map.mp hr
  exact (h.index.sound he).1

lemma effect_covered (h : Coherent J .clean log s) {call : Store.Call}
    {result : Except SpoolError (Option CursorAppendResult)} (effect : Effect J s call result s')
    (covered : AllCovered J s) :
    Advances J s.disk.cursorReceipts s'.disk.cursorReceipts ∧ AllCovered J s' := by
  cases effect with
  | removes _ removes =>
    rw [AllCovered, removes.receipts]
    refine ⟨.refl J _, ?_⟩
    intro c r hr
    exact covered c r ((removes.records c).subset hr)
  | stores admitted shrinks publishes =>
    exact publishes_covered fresh_none admitted covered shrinks publishes h.records_dataClass
  | storesWithCursor fresh admitted shrinks publishes =>
    exact publishes_covered fresh admitted covered shrinks publishes h.records_dataClass
  | @acknowledges key sequence current encoded hload hmarshal =>
    have hadvances : Advances J s.disk.cursorReceipts (Function.update s.disk.cursorReceipts key (some encoded)) := by
      apply advances_update ((load_current hload).withAck false) hmarshal
      intro old hold
      rw [hload] at hold
      cases hold
      exact .inl ⟨rfl, rfl, rfl⟩
    refine ⟨hadvances, ?_⟩
    intro c r hr cursor hcursor
    rw [acknowledged_records] at hr
    exact (covered c r hr cursor hcursor).advance hadvances

/-! ## Kills and restarts -/

lemma Leaves.fenced (h : Leaves J s log receipts) (covered : AllCovered J s) :
    Advances J s.disk.cursorReceipts receipts ∧ Fenced J log receipts := by
  cases h with
  | removed records same =>
    subst same
    refine ⟨.refl J _, fenced_of_covered ?_⟩
    exact fun held hcursor => covered _ _ (records held) _ hcursor
  | @added c batch receipt fresh admitted records receipts =>
    rcases receipts with rfl | installs
    · refine ⟨.refl J _, ?_⟩
      have hfits : ∀ {f r cursor}, Holds log f r → r.cursor = some cursor →
          Covered J s.disk.cursorReceipts cursor ∨
            Ahead J s.disk.cursorReceipts cursor ∧ r = appended c batch receipt (s.nextSeq + 1) := by
        intro f r cursor held hcursor
        rcases records held with hold | hnew
        · exact .inl (covered _ r hold cursor hcursor)
        · subst hnew
          rcases receipt with _ | value
          · cases hcursor
          cases hcursor
          have hcheck := (admission_none admitted).2 value rfl
          exact .inr ⟨(checkCursor_none hcheck).1, rfl⟩
      constructor
      · intro f r cursor held hcursor
        exact (hfits held hcursor).imp id And.left
      · intro f f' r r' cursor cursor' held held' hcursor hcursor' hahead hahead'
        have hnew := ((hfits held hcursor).resolve_left fun hc => hc.not_ahead hahead).2
        have hnew' := ((hfits held' hcursor').resolve_left fun hc => hc.not_ahead hahead').2
        exact hnew.trans hnew'.symm
    · obtain ⟨hadvances, hcovers⟩ :=
        installs_covered fresh admitted covered installs (s.nextSeq + 1)
      exact ⟨hadvances, fenced_of_covered fun held hcursor => hcovers _ _ (records held) hcursor⟩

lemma record_cursor {e : Entry} (h : e.cursor = some cursor) :
    e.record.cursor = some (cursor.withAck true) := by simp [Entry.record, h]

/-- A successful `Open` covers every cursor it recovers. -/
lemma opened_covered {d : Disk} (h : Consistent J (.torn J) log d) (fenced : Fenced J log d.cursorReceipts)
    {limits : Limits} {order : MapOrder} (installs : installReceipts J (order.val.flatMap (scanned J limits d).entries)
      d.cursorReceipts = .ok receipts) :
    Advances J d.cursorReceipts receipts ∧ AllCovered J (opened J limits order d receipts) := by
  have hscanned := h.scanned limits
  have hheld : ∀ e ∈ order.val.flatMap (scanned J limits d).entries, Holds log e.file e.record := by
    intro e he
    obtain ⟨c, -, he⟩ := List.mem_flatMap.mp he
    exact (holds_restrict.mp (hscanned.index.sound he).2).2
  have hfits : ∀ e ∈ order.val.flatMap (scanned J limits d).entries, ∀ cursor,
      e.cursor = some cursor → Covered J d.cursorReceipts cursor ∨ Ahead J d.cursorReceipts cursor := by
    intro e he cursor hcursor
    have hrecord := fenced.fits (hheld e he) (record_cursor hcursor)
    rwa [covered_withAck, ahead_withAck] at hrecord
  have hagree : ∀ e ∈ order.val.flatMap (scanned J limits d).entries,
      ∀ e' ∈ order.val.flatMap (scanned J limits d).entries, ∀ cursor cursor',
        e.cursor = some cursor → e'.cursor = some cursor' → Ahead J d.cursorReceipts cursor →
        Ahead J d.cursorReceipts cursor' → SameReceipt cursor cursor' := by
    intro e he e' he' cursor cursor' hcursor hcursor' hahead hahead'
    have hsame := fenced.single (hheld e he) (hheld e' he') (record_cursor hcursor)
      (record_cursor hcursor') hahead hahead'
    have hcursors : some (cursor.withAck true) = some (cursor'.withAck true) := by
      rw [← record_cursor hcursor, ← record_cursor hcursor', hsame]
    have hself : SameReceipt (cursor.withAck true) (cursor'.withAck true) := Option.some.inj hcursors ▸ ⟨rfl, rfl, rfl⟩
    exact hself
  obtain ⟨hadvances, hcovers⟩ := installReceipts_advances
    (fun e he cursor hcursor => current_of_valid (h.valid (hheld e he)) hcursor) hfits hagree
    installs
  refine ⟨hadvances, ?_⟩
  intro c r hr cursor hcursor
  obtain ⟨e, he, rfl⟩ := List.mem_map.mp hr
  change e ∈ (scanned J limits d).entries c at he
  obtain ⟨hclass, -⟩ := hscanned.index.sound he
  have hvisited : e ∈ order.val.flatMap (scanned J limits d).entries := by
    refine List.mem_flatMap.mpr ⟨c, order.property.mem_iff.mpr (mem_classes.mpr ?_), he⟩
    rw [← hclass]
    exact (hscanned.entry_valid he).dataClass
  cases hown : e.cursor with
  | none => simp [Entry.record, hown] at hcursor
  | some own =>
    rw [record_cursor hown] at hcursor
    cases hcursor
    exact hcovers e hvisited own hown

/-- One move of the lifetime keeps the fence and moves no receipt back. -/
theorem guarded_of_move {e : Event} (move : Move J p e p') (h : Guarded J p) :
    Guarded J p' ∧ Advances J p.receipts p'.receipts := by
  cases move with
  | call s call =>
    obtain ⟨⟨log, hlog⟩, hcovered⟩ := h
    obtain ⟨hadvances, hcovered'⟩ := effect_covered hlog (hlog.effect call) hcovered
    exact ⟨⟨hlog.step call, hcovered'⟩, hadvances⟩
  | close s =>
    obtain ⟨⟨log, hlog⟩, hcovered⟩ := h
    obtain ⟨-, ⟨log', hlog'⟩, hqueue, -⟩ := hlog.sealActive
    have hleaves : Leaves J s log' s.sealActive.2.disk.cursorReceipts :=
      .removed (hlog'.mem_records_of_shrinks hqueue.shrinks) hqueue.receipts
    obtain ⟨hadvances, hfenced⟩ := hleaves.fenced hcovered
    exact ⟨⟨log', hlog'.toConsistent.clean_torn, hfenced⟩, hadvances⟩
  | kill interrupted =>
    obtain ⟨⟨log, hlog⟩, hcovered⟩ := h
    obtain ⟨log', hlog', hleaves⟩ := hlog.interrupted interrupted
    obtain ⟨hadvances, hfenced⟩ := hleaves.fenced hcovered
    exact ⟨⟨log', hlog', hfenced⟩, hadvances⟩
  | @opened limits order d s opens =>
    obtain ⟨log, hlog, hfenced⟩ := h
    have hcoherent := (hlog.openSpool limits order).1 s opens
    obtain ⟨-, receipts, hinstalls, rfl⟩ := openSpool_eq_ok opens
    obtain ⟨hadvances, hcovered⟩ := opened_covered hlog hfenced hinstalls
    exact ⟨⟨⟨_, hcoherent⟩, hcovered⟩, hadvances⟩
  | @refused limits order d d' err refuses =>
    obtain ⟨log, hlog, hfenced⟩ := h
    obtain ⟨log', hlog', hsub, hreceipts⟩ := (hlog.openSpool limits order).2 err d' refuses
    change Guarded J (.down d') ∧ Advances J d.cursorReceipts d'.cursorReceipts
    rw [hreceipts]
    refine ⟨⟨log', hlog', hreceipts ▸ ⟨fun held => ?_, fun held held' => ?_⟩⟩, .refl J _⟩
    · exact hfenced.fits (hsub held)
    · exact hfenced.single (hsub held) (hsub held')

lemma guarded_of_vacant {d : Disk} (h : Vacant d) : Guarded J (.down d) := by
  refine ⟨empty, consistent_of_vacant h, fenced_of_covered ?_⟩
  rintro f r cursor ⟨l, hl, -⟩
  cases hl

/-! ## Stored sequences -/

/-- The key and sequence of an `AppendWithCursor` that answered
`CursorAppendStored`. -/
def Event.storedCursor : Event → Option (String × Nat)
  | .call (.appendWithCursor _ _ receipt) (.ok (some .stored)) =>
    some (receipt.key, receipt.sequence)
  | _ => none

/-- A stored cursor was ahead of an acknowledged receipt, and is the receipt
afterwards. -/
lemma stored_of_move {e : Event} (move : Move J p e p') (h : Guarded J p) {key : String}
    (stored : e.storedCursor = some (key, sequence)) :
    (∀ current, loadCursorReceipt J p.receipts key = .ok (some current) →
      current.sequence < sequence ∧ current.ackPending = false) ∧
    ∃ current, loadCursorReceipt J p'.receipts key = .ok (some current) ∧ current.sequence = sequence := by
  cases move with
  | call s call =>
    obtain ⟨⟨log, hlog⟩, -⟩ := h
    have heffect := hlog.effect call
    generalize hresult : s.step J call = answer at heffect stored
    obtain ⟨result, s'⟩ := answer
    cases heffect with
    | removes notStored _ =>
      cases call with
      | appendWithCursor =>
        exfalso
        rcases result with err | answer
        · cases stored
        rcases answer with _ | answer
        · cases stored
        cases answer with
        | stored => exact notStored rfl
        | duplicate => cases stored
      | append | markCursorAcknowledged | ack | sealActive => cases stored
    | stores => cases stored
    | @storesWithCursor c batch receipt s₁ _ fresh admitted shrinks publishes =>
      cases stored
      have hcheck := (admission_none admitted).2 _ rfl
      obtain ⟨encoded, hmarshal, hreceipts⟩ := publishes.receipts
      refine ⟨(checkCursor_none hcheck).2, persistedOf receipt, ?_, rfl⟩
      change loadCursorReceipt J s'.disk.cursorReceipts _ = _
      rw [hreceipts]
      exact load_installed (fresh _ rfl).1 hmarshal _
    | acknowledges _ _ => cases stored
  | close s | kill _ | opened _ | refused _ => cases stored

lemma guarded_of_run {es : List Event} (run : Run (Move J) p es p') (h : Guarded J p) :
    Guarded J p' ∧ Advances J p.receipts p'.receipts := by
  induction run with
  | nil p => exact ⟨h, .refl J _⟩
  | cons move _ ih =>
    obtain ⟨hnext, hadvances⟩ := guarded_of_move move h
    obtain ⟨hlast, hrest⟩ := ih hnext
    exact ⟨hlast, hadvances.trans hrest⟩

/-- Along a run the stored sequences of a key increase beyond its receipt. -/
lemma stored_of_run {es : List Event} (run : Run (Move J) p es p') (h : Guarded J p) :
    (∀ key sequence, (key, sequence) ∈ es.filterMap Event.storedCursor →
      ∀ current, loadCursorReceipt J p.receipts key = .ok (some current) → current.sequence < sequence) ∧
    (es.filterMap Event.storedCursor).Nodup := by
  induction run with
  | nil p => exact ⟨by simp, by simp⟩
  | @cons p q p' e es move _ ih =>
    obtain ⟨hnext, hadvances⟩ := guarded_of_move move h
    obtain ⟨hlater, hnodup⟩ := ih hnext
    have hstill : ∀ key sequence, (key, sequence) ∈ es.filterMap Event.storedCursor →
        ∀ current, loadCursorReceipt J p.receipts key = .ok (some current) → current.sequence < sequence := by
      intro key sequence hmem current hcurrent
      obtain ⟨current', hcurrent', hstep⟩ := hadvances key current hcurrent
      have hlt := hlater key sequence hmem current' hcurrent'
      rcases hstep with ⟨hseq, -, -⟩ | ⟨hseq, -⟩ <;> omega
    rcases hstored : e.storedCursor with _ | stored
    · rw [List.filterMap_cons_none hstored]
      exact ⟨hstill, hnodup⟩
    obtain ⟨key, sequence⟩ := stored
    obtain ⟨hbefore, current, hafter, hseq⟩ := stored_of_move move h hstored
    rw [List.filterMap_cons_some hstored]
    constructor
    · intro key' sequence' hmem
      rcases List.mem_cons.mp hmem with heq | hmem
      · cases heq
        exact fun current hcurrent => (hbefore current hcurrent).1
      · exact hstill key' sequence' hmem
    · refine List.nodup_cons.mpr ⟨fun hmem => ?_, hnodup⟩
      have hlt := hlater key sequence hmem current hafter
      omega

/-! ## A sample producer -/

/-- What the sample producer hands to `AppendWithCursor`. -/
def sampleReceipt (sequence : Nat) : CursorReceipt :=
  publicCursorReceipt (sampleCursor sequence true)

def sampleKey : String := "a\x001\x00t\x00i"

/-- The bucket of the sample producer holds one receipt. -/
def sampleReceipts (sequence ackPending : String) : String → Option Bytes :=
  Function.update (fun _ => none) sampleKey (some (cursorText sequence ackPending))

/-- The first batch has been stored with its cursor, -/
def storeFirst : Store :=
  sampleOpened.withSample .log "a" (some (sampleCursor 1 true)) (sampleReceipts "1" "true")

/-- its cursor has been acknowledged, -/
def storeAcknowledged : Store :=
  storeFirst.acknowledged sampleKey 1 (cursorText "1" "false")

/-- and the next batch has been stored. -/
def storeSecond : Store :=
  storeAcknowledged.withSample .log "bb" (some (sampleCursor 100 true)) (sampleReceipts "100" "true")

set_option maxRecDepth 100000 in
lemma step_storeSecond :
    storeAcknowledged.step sampleJson (.appendWithCursor .log (sampleBatch "bb") (sampleReceipt 100)) =
      (.ok (some .stored), storeSecond) := by
  have hreceipts : sampleReceipts "100" "true" =
      Function.update storeAcknowledged.disk.cursorReceipts sampleKey (some (cursorText "100" "true")) := by
    change _ = Function.update (Function.update (Function.update _ _ _) _ _) _ _
    rw [Function.update_idem, Function.update_idem]
    rfl
  rw [storeSecond, hreceipts]
  rfl

/-- The calls of the sample producer and what they return. -/
def producerCalls : List Event :=
  [.call (.appendWithCursor .log (sampleBatch "a") (sampleReceipt 1)) (.ok (some .stored)),
    .call (.markCursorAcknowledged sampleKey 1) (.ok none),
    .call (.appendWithCursor .log (sampleBatch "bb") (sampleReceipt 100)) (.ok (some .stored))]

set_option maxRecDepth 100000 in
lemma producer_first : Run (Move sampleJson) (.up sampleOpened) (producerCalls.take 1) (.up storeFirst) :=
  .single (.of_step (by rfl))

set_option maxRecDepth 100000 in
lemma producer_rest : Run (Move sampleJson) (.up storeFirst) (producerCalls.drop 1) (.up storeSecond) := by
  have hacknowledged : storeFirst.step sampleJson (.markCursorAcknowledged sampleKey 1) =
      (.ok none, storeAcknowledged) := by rfl
  exact .cons (.of_step hacknowledged) (.single (.of_step step_storeSecond))

lemma producer_run : Run (Move sampleJson) (.up sampleOpened) producerCalls (.up storeSecond) :=
  producer_first.append producer_rest

/-! ## The fence -/

/-- The fence over a whole lifetime: between any two moments of a run the durable
receipt of a key keeps or raises its sequence and its collection time, and keeps
digest and time while the sequence stays; no key and sequence is stored twice; a
higher sequence is only stored over an acknowledged receipt. -/
theorem cursor_fence (J : Json) (d : Disk) (vacant : Vacant d) (es es' : List Event)
    (p q : Process) (before : Run (Move J) (.down d) es p) (after : Run (Move J) p es' q) :
    (∀ key value, loadCursorReceipt J p.receipts key = .ok (some value) →
      ∃ value', loadCursorReceipt J q.receipts key = .ok (some value') ∧
        value.sequence ≤ value'.sequence ∧
        value.collectedAt.instant ≤ value'.collectedAt.instant ∧
        (value'.sequence = value.sequence → value'.digest = value.digest ∧
          value'.collectedAt.instant = value.collectedAt.instant)) ∧
    ((es ++ es').filterMap Event.storedCursor).Nodup ∧
    ∀ s c batch receipt, q = .up s →
      (s.step J (.appendWithCursor c batch receipt)).1 = .ok (some .stored) →
      ∀ current, loadCursorReceipt J s.disk.cursorReceipts receipt.key = .ok (some current) →
        receipt.sequence > current.sequence → current.ackPending = false := by
  have hstart := guarded_of_vacant (J := J) vacant
  obtain ⟨hguarded, -⟩ := guarded_of_run before hstart
  obtain ⟨hguarded', hadvances⟩ := guarded_of_run after hguarded
  refine ⟨?_, (stored_of_run (before.append after) hstart).2, ?_⟩
  · intro key value hvalue
    obtain ⟨value', hvalue', hstep⟩ := hadvances key value hvalue
    refine ⟨value', hvalue', ?_⟩
    rcases hstep with ⟨hseq, hdigest, hat⟩ | ⟨hseq, hat⟩
    · exact ⟨by omega, by omega, fun _ => ⟨hdigest.symm, hat.symm⟩⟩
    · exact ⟨by omega, hat, fun heq => by omega⟩
  · rintro s c batch receipt rfl hstored current hcurrent _
    have hevent : (Event.call (.appendWithCursor c batch receipt)
        (s.step J (.appendWithCursor c batch receipt)).1).storedCursor =
          some (receipt.key, receipt.sequence) := by rw [hstored]; rfl
    exact ((stored_of_move (.call s _) hguarded' hevent).1 current hcurrent).2

/-- The sample producer stores sequences 1 and 100, and the receipt of the second
is durable. -/
theorem cursor_fence_producer :
    Run (Move sampleJson) (.up sampleOpened) producerCalls (.up storeSecond) ∧
      producerCalls.filterMap Event.storedCursor = [(sampleKey, 1), (sampleKey, 100)] ∧
      [(sampleKey, 1), (sampleKey, 100)].Nodup ∧
      ∃ value', loadCursorReceipt sampleJson storeSecond.disk.cursorReceipts sampleKey =
        .ok (some value') ∧ 1 ≤ value'.sequence := by
  have hopened : Run (Move sampleJson) (.down Disk.empty) [.opened] (.up sampleOpened) :=
    .single (.opened (openSpool_empty _))
  obtain ⟨hraises, hnodup, -⟩ := cursor_fence sampleJson Disk.empty vacant_empty _ _ _ _
    (hopened.append producer_first) producer_rest
  obtain ⟨value', hload, hle, -⟩ := hraises sampleKey (sampleCursor 1 true)
    (by decide +kernel)
  exact ⟨producer_run, rfl, hnodup, value', hload, hle⟩

end DBPilot.Spool
