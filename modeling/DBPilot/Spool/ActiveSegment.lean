import DBPilot.Spool.Lifetime

/-!
# Bookkeeping of the active segment

`activeFile` and `activeSize` are meant to describe `active.open`. `Ack` and
`delete` update them through the pointer `find` returned, which after `remove`
points at the entry that moved up. When the removed entry lies in a sealed
segment and the entry behind it in the active one, the size of the sealed
segment is recorded for the active one. Where this does not happen the
bookkeeping is exact.
-/

namespace DBPilot.Spool

open SegmentedLog Runs

/-- `activeFile` and `activeSize` describe the file `active.open`. -/
structure Bookkeeping (s : Store) : Prop where
  present : ∀ contents, s.disk.read .active = some contents →
    s.activeFile = some .active ∧ s.activeSize = contents.length
  absent : s.disk.read .active = none → s.activeFile = none ∧ s.activeSize = 0

lemma Bookkeeping.auditIOFailure {s : Store} (h : Bookkeeping s) (c : DataClass)
    (err : SpoolError) : Bookkeeping (s.auditIOFailure c err) := by
  constructor
  · simpa using h.present
  · simpa using h.absent

namespace Store

/-- Removing the entry makes the pointer read an active entry in place of a
sealed one. -/
def Misreads (s : Store) (c : DataClass) (id : String) : Prop :=
  ∃ item, s.find c id = some item ∧ item.file ≠ .active ∧ (s.slotAfterRemove c id item).file = .active

/-- No turn of the eviction loop misreads. -/
def EvictsExactly (J : Json) (c : DataClass) (needed : Nat) : Nat → Store → Prop
  | 0, _ => True
  | turns + 1, s =>
    if (s.usedBytes + needed : Int) ≤ s.limits.maxBytes then True else
    match s.evictionCandidate with
    | none => True
    | some candidate => ¬ s.Misreads candidate.dataClass candidate.batch.id ∧
      EvictsExactly J c needed turns (s.delete J candidate.dataClass candidate.batch.id).2

/-- No eviction that makes room for a record of the batch misreads. -/
def ReservesExactly (J : Json) (s : Store) (c : DataClass) (batch : Batch)
    (receipt : Option PersistedCursorReceipt) : Prop :=
  s.admission J c batch receipt = .ok none → ∀ encoded,
    encodeRecord J (newHeader c batch receipt (s.nextSeq + 1)) batch.payload = .ok encoded →
    EvictsExactly J c encoded.length ((s.rotate encoded.length).2.all.length + 1) (s.rotate encoded.length).2

/-- No removal in the course of the call misreads. -/
def RemovesExactly (J : Json) (s : Store) : Call → Prop
  | .append c batch => s.ReservesExactly J c batch none
  | .appendWithCursor c batch receipt => s.ReservesExactly J c batch (some (persistedOf receipt))
  | .markCursorAcknowledged _ _ => True
  | .ack c id => ¬ s.Misreads c id
  | .sealActive => True

end Store

/-- The moves of a process all of whose removals are exact. -/
def ExactMove (J : Json) (p : Process) (e : Event) (p' : Process) : Prop :=
  Move J p e p' ∧ ∀ s call result, p = .up s → e = .call call result → s.RemovesExactly J call

namespace Coherent
variable {J : Json} {T : Tails} {log : Log Record} {s : Store}

lemma sealActive_bookkeeping (h : Coherent J T log s) (book : Bookkeeping s) :
    Bookkeeping s.sealActive.2 := by
  rcases h.activeFile with hnone | hactive
  · have hseal : s.sealActive = (.ok (), s) := by simp [Store.sealActive, hnone]
    rw [hseal]
    exact book
  by_cases hzero : s.firstSequence .active = 0
  · simp only [Store.sealActive, hactive, hzero, if_true]
    constructor
    · intro contents hread
      simp at hread
    · intro _
      exact ⟨rfl, rfl⟩
  · obtain ⟨first, hmem, hfile, hseq, -⟩ := firstSequence_of_mem h.positive hzero
    obtain ⟨contents, hread⟩ := h.files.read_of_holds (h.holds_of_mem_all hmem)
    rw [hfile] at hread
    simp only [Store.sealActive, hactive, hzero, if_false, Disk.rename, hread, Option.map_some]
    constructor
    · intro contents' hread'
      change ((s.disk.remove .active).replace _ contents).read .active = some contents' at hread'
      simp at hread'
    · intro _
      exact ⟨rfl, rfl⟩

variable {c : DataClass}

/-- The entry behind an active entry is active. -/
lemma slot_active (h : Coherent J T log s) {id : String} {item : Entry} (found : s.find c id = some item)
    (active : item.file = .active) :
    (s.slotAfterRemove c id item).file = .active := by
  obtain ⟨hid, before, after, hsplit, hfirst⟩ := find_split found
  rw [(removeEntry_split hsplit hid hfirst).2]
  rcases after with _ | ⟨next, after⟩
  · exact active
  have hinc := h.index.increasing c
  rw [hsplit] at hinc
  have hlt : item.sequence < next.sequence :=
    (List.pairwise_cons.mp (List.pairwise_append.mp hinc).2.1).1 next List.mem_cons_self
  have hitem : Holds log item.file item.record :=
    (h.index.sound (c := c) (by rw [hsplit]; simp)).2
  have hnext : Holds log next.file next.record :=
    (h.index.sound (c := c) (by rw [hsplit]; simp)).2
  cases hfile : next.file with
  | active => exact hfile
  | sealed n =>
    rw [active] at hitem
    rw [hfile] at hnext
    have hordered : next.sequence < item.sequence := h.wf.ordered hnext hitem
    omega

lemma forget_bookkeeping (h : Coherent J T log s) (book : Bookkeeping s) {id : String} {item : Entry}
    (found : s.find c id = some item) {size : Nat} {disk : Disk}
    (rewrite : s.rewriteWithout J item = .ok (size, disk)) (exactly : ¬ s.Misreads c id) :
    Bookkeeping (s.forget c id item size disk) := by
  obtain ⟨hall, -, -⟩ := h.mem_of_find found
  obtain ⟨hother, -, hsize, hzero, -⟩ := h.rewriteWithout hall rewrite
  have hread : (s.forget c id item size disk).disk.read .active = disk.read .active := by
    rw [forget_disk]
    rfl
  by_cases hfile : item.file = .active
  · have hslot := h.slot_active found hfile
    obtain ⟨contents, hcontents⟩ := h.files.read_of_holds (h.holds_of_mem_all hall)
    rw [hfile] at hcontents hsize hzero
    obtain ⟨hactive, -⟩ := book.present contents hcontents
    have hforget : (s.forget c id item size disk).activeSize = size ∧
        (s.forget c id item size disk).activeFile = if size = 0 then none else some .active := by
      simp [Store.forget, hslot, hactive]
    constructor
    · intro contents' hcontents'
      rw [hread] at hcontents'
      rw [hforget.1, hforget.2]
      have hne : size ≠ 0 := fun h0 => by
        rw [hzero.mp h0] at hcontents'
        cases hcontents'
      rw [if_neg hne, hsize, hcontents']
      exact ⟨rfl, rfl⟩
    · intro habsent
      rw [hread] at habsent
      rw [hforget.1, hforget.2, if_pos (hzero.mpr habsent)]
      exact ⟨rfl, hzero.mpr habsent⟩
  · have hslot : (s.slotAfterRemove c id item).file ≠ .active :=
      fun hslot => exactly ⟨item, found, hfile, hslot⟩
    have hkeep : ¬ some (s.slotAfterRemove c id item).file = s.activeFile := by
      rcases h.activeFile with hnone | hactive
      · simp [hnone]
      · simpa [hactive] using hslot
    have hforget : (s.forget c id item size disk).activeSize = s.activeSize ∧
        (s.forget c id item size disk).activeFile = s.activeFile := by
      simp only [Store.forget, if_neg hkeep]
      exact ⟨rfl, rfl⟩
    rw [hother .active (fun heq => hfile heq.symm)] at hread
    constructor
    · intro contents hcontents
      rw [hforget.1, hforget.2]
      exact book.present contents (hread ▸ hcontents)
    · intro habsent
      rw [hforget.1, hforget.2]
      exact book.absent (hread ▸ habsent)

lemma delete_bookkeeping (h : Coherent J T log s) (book : Bookkeeping s) {id : String}
    (exactly : ¬ s.Misreads c id) : Bookkeeping (s.delete J c id).2 :=
  delete_rule book fun _ _ _ hfind hrewrite => h.forget_bookkeeping book hfind hrewrite exactly

lemma makeCapacityLoop_bookkeeping (c : DataClass) (needed turns : Nat) {log : Log Record}
    {s : Store} (h : Coherent J T log s) (book : Bookkeeping s)
    (exactly : Store.EvictsExactly J c needed turns s) :
    Bookkeeping (Store.makeCapacityLoop J c needed turns s).2 := by
  induction turns generalizing s log with
  | zero => exact book
  | succ turns ih =>
    rw [Store.makeCapacityLoop]
    rw [Store.EvictsExactly] at exactly
    split
    · exact book
    rename_i hfull
    rw [if_neg hfull] at exactly
    rcases hcandidate : s.evictionCandidate with _ | candidate
    · simp only
      split
      · exact ⟨book.present, book.absent⟩
      · exact book
    simp only [hcandidate] at exactly
    obtain ⟨hnow, hlater⟩ := exactly
    have hbook : Bookkeeping (s.delete J candidate.dataClass candidate.batch.id).2 :=
      h.delete_bookkeeping book hnow
    obtain ⟨log', hlog'⟩ := h.delete candidate.dataClass candidate.batch.id
    simp only
    cases hdelete : s.delete J candidate.dataClass candidate.batch.id with
    | mk result s' =>
      rw [hdelete] at hbook hlog' hlater
      cases result with
      | error err => exact hbook
      | ok _ => exact ih hlog' hbook hlater

/-- What a write finds: the recorded size is that of the file, or zero. -/
lemma reserve_bookkeeping (h : Coherent J T log s) (book : Bookkeeping s) {size : Nat}
    (exactly : Store.EvictsExactly J c size ((s.rotate size).2.all.length + 1) (s.rotate size).2) :
    ((s.reserve J c size).1 ≠ .ok () → Bookkeeping (s.reserve J c size).2) ∧
      ((s.reserve J c size).1 = .ok () → (s.reserve J c size).2.activeSize =
        (((s.reserve J c size).2.disk.read .active).getD []).length) := by
  obtain ⟨hok, ⟨log₁, hlog₁⟩, -⟩ := h.rotate size
  have hrotated : Bookkeeping (s.rotate size).2 := by
    rw [Store.rotate]
    split
    · exact h.sealActive_bookkeeping book
    · exact book
  rw [Store.reserve]
  cases hrotate : s.rotate size with
  | mk result s₁ =>
    rw [hrotate] at hok hlog₁ hrotated exactly
    subst hok
    have hmade := hlog₁.makeCapacityLoop_bookkeeping c size (s₁.all.length + 1) hrotated exactly
    simp only
    cases hmake : s₁.makeCapacity J c size with
    | mk result s₂ =>
      rw [Store.makeCapacity] at hmake
      rw [hmake] at hmade
      rcases result with err | _
      · constructor
        · intro _
          exact hmade
        · intro hbad
          cases hbad
      constructor
      · intro hbad
        exact absurd rfl hbad
      intro _
      simp only [Store.nameActive]
      rcases hread : s₂.disk.read .active with _ | contents
      · rw [if_pos (hmade.absent hread).1]
        simp [hread]
      obtain ⟨hactive, hsize⟩ := hmade.present contents hread
      change s₂.activeFile = some .active at hactive
      change s₂.activeSize = contents.length at hsize
      rw [if_neg (by simp [hactive]), hread, hsize, Option.getD_some]

variable {receipt : Option PersistedCursorReceipt}

lemma publish_bookkeeping (h : Coherent J T log s) (active : s.activeFile = some .active)
    (clean : Stored J .clean (log .active) (s.disk.read .active)) {item : Entry}
    {encoded : Bytes}
    (next : Next J s item receipt encoded) (bytes : item.bytes = encoded.length)
    (size : s.activeSize = ((s.disk.read .active).getD []).length) :
    Bookkeeping ((s.write encoded).publish J item receipt).2 := by
  obtain ⟨d, hcommit, hsegments, -⟩ :=
    commit_some next.encodes next.cursor (s.write encoded).disk
  have hcoherent := h.enqueue active clean next hsegments
  have hread : d.read .active = some ((s.disk.read .active).getD [] ++ encoded) := by
    have hwrite := read_write active encoded .active
    rw [if_pos rfl] at hwrite
    rw [← hwrite, Disk.read, hsegments]
    rfl
  have hbook : Bookkeeping ((s.write encoded).enqueue item d) := by
    constructor
    · intro contents hcontents
      change d.read .active = some contents at hcontents
      rw [hread] at hcontents
      obtain rfl := Option.some.inj hcontents
      refine ⟨active, ?_⟩
      change s.activeSize + item.bytes = _
      rw [size, bytes, List.length_append]
    · intro habsent
      change d.read .active = none at habsent
      rw [hread] at habsent
      cases habsent
  rw [Store.publish, hcommit]
  simp only
  split
  · have hsealed := hcoherent.sealActive_bookkeeping hbook
    split
    · rename_i err s' hseal
      rw [hseal] at hsealed
      exact hsealed.auditIOFailure item.dataClass err
    · rename_i s' hseal
      rw [hseal] at hsealed
      exact hsealed
  · exact hbook

lemma append_bookkeeping (h : Coherent J .clean log s) (book : Bookkeeping s) {batch : Batch}
    (fresh : Fresh receipt)
    (exactly : s.ReservesExactly J c batch receipt) :
    Bookkeeping (s.append J c batch receipt .complete).2 := by
  rcases append_cases J s c batch receipt .complete with
    ⟨err, happend, -⟩ | ⟨-, happend⟩ | ⟨encoded, s', hvalid, hnone, hencode, hrest⟩
  · rw [happend]
    exact book
  · rw [happend]
    exact book
  · obtain ⟨hfailed, hready⟩ := h.reserve_bookkeeping book (exactly hnone encoded hencode)
    rcases hrest with ⟨err, hreserve, happend⟩ | ⟨hreserve, happend⟩
    · rw [hreserve] at hfailed
      rw [happend]
      exact (hfailed (by simp)).auditIOFailure c err
    · obtain ⟨⟨log', hlog'⟩, -, -⟩ := h.reserve c encoded.length
      rw [hreserve] at hlog' hready
      obtain ⟨hactive, hnext⟩ := h.next fresh hvalid hnone hencode hreserve
      rw [happend]
      exact hlog'.publish_bookkeeping hactive (hlog'.files .active) hnext rfl (hready rfl)

lemma step_bookkeeping (h : Coherent J .clean log s) (book : Bookkeeping s) {call : Store.Call}
    (exactly : s.RemovesExactly J call) : Bookkeeping (s.step J call).2 := by
  cases call with
  | append => exact h.append_bookkeeping book fresh_none exactly
  | appendWithCursor =>
    simp only [Store.step, Store.appendWithCursor]
    split
    · exact book
    · rename_i hvalid
      exact h.append_bookkeeping book (fresh_of_accepted hvalid) exactly
  | markCursorAcknowledged key sequence =>
    rcases markCursorAcknowledged_cases J s key sequence with
      ⟨result, hmark⟩ | ⟨current, encoded, -, -, -, hmark⟩
    · simp only [Store.step, hmark]
      exact book
    · simp only [Store.step, hmark]
      exact ⟨book.present, book.absent⟩
  | ack c id =>
    have hdeleted : Bookkeeping (s.delete J c id).2 := h.delete_bookkeeping book exactly
    simp only [Store.step, Store.ack]
    split
    · exact book
    split
    · rename_i err s' hdelete
      rw [hdelete] at hdeleted
      exact hdeleted.auditIOFailure c err
    · rename_i s' hdelete
      rw [hdelete] at hdeleted
      exact hdeleted
  | sealActive => exact h.sealActive_bookkeeping book

end Coherent

/-- In every run whose removals are exact, restarts and crashes included, the
bookkeeping of every store reached describes `active.open`. -/
theorem bookkeeping_of_exact_run (J : Json) (d : Disk) (vacant : Vacant d) (es : List Event)
    (s : Store) (run : Run (ExactMove J) (.down d) es (.up s)) : Bookkeeping s := by
  refine up_of_run vacant run And.left ?_ fun {limits order d} _ _ => ?_
  · intro s call log hlog hmove hbook
    exact hlog.step_bookkeeping hbook (hmove.2 s call _ rfl rfl)
  -- an opened store takes the bookkeeping from the file
  constructor
  · intro contents hread
    change (Disk.recoverSegments J d.paths d).2.1.read .active = some contents at hread
    simp [opened, scanned, recovered, hread]
  · intro habsent
    change (Disk.recoverSegments J d.paths d).2.1.read .active = none at habsent
    simp [opened, scanned, recovered, habsent]

/-! ## A misread removal -/

/-- The sample store with its segment sealed. -/
def storeSealed : Store := storeA.sealActive.2

lemma step_storeSealed : storeA.step sampleJson .sealActive = (.ok none, storeSealed) := rfl

/-- A second batch behind a sealed segment. -/
def storeB : Store := storeSealed.withSample .log "bb" none fun _ => none

/-- The entry of the first batch, in its sealed segment. -/
def sealedA : Entry := { sampleEntry .log "a" 1 none with file := .sealed 1 }

set_option maxRecDepth 100000 in
lemma step_storeB : storeSealed.step sampleJson (.append .log (sampleBatch "bb")) = (.ok none, storeB) := by rfl

/-- The first batch is acknowledged while the second lies in `active.open`. -/
def storeMisread : Store := storeB.forget .log "a" sealedA 0 (storeB.disk.remove (.sealed 1))

lemma step_storeMisread : storeB.step sampleJson (.ack .log "a") = (.ok none, storeMisread) := rfl

set_option maxRecDepth 100000 in
/-- Append, seal, append, acknowledge: `active.open` holds the second batch and
the store takes it for missing. -/
theorem bookkeeping_lost : ∃ s : Store,
    Run (Move sampleJson) (.down Disk.empty) [.opened,
      .call (.append .log (sampleBatch "a")) (.ok none), .call .sealActive (.ok none),
      .call (.append .log (sampleBatch "bb")) (.ok none), .call (.ack .log "a") (.ok none)] (.up s) ∧
    s.disk.read .active = some (sampleChunk headerB []) ∧ s.activeFile = none ∧ s.activeSize = 0 := by
  refine ⟨storeMisread, ?_, rfl, rfl, rfl⟩
  exact .cons (.opened (openSpool_empty _)) (.cons (.of_step step_storeA) (.cons (.of_step step_storeSealed)
    (.cons (.of_step step_storeB) (.single (.of_step step_storeMisread)))))

set_option maxRecDepth 20000 in
/-- The acknowledgement of a batch in the active segment is exact. -/
theorem bookkeeping_of_active_ack :
    ¬ storeA.Misreads .log "a" ∧ Bookkeeping (storeA.step sampleJson (.ack .log "a")).2 := by
  have hexact : ¬ storeA.Misreads .log "a" := by
    rintro ⟨item, hfind, hsealed, -⟩
    have hitem : storeA.find .log "a" = some (sampleEntry .log "a" 1 none) := rfl
    rw [hitem] at hfind
    cases hfind
    exact hsealed rfl
  have hreserves : sampleOpened.RemovesExactly sampleJson (.append .log (sampleBatch "a")) := by
    intro _ encoded hencodes
    obtain rfl : encoded = sampleChunk headerA [] := Except.ok.inj (hencodes.symm.trans encodes_headerA)
    have hfits : (sampleOpened.usedBytes + (sampleChunk headerA []).length : Int) ≤
        sampleOpened.limits.maxBytes := by decide +kernel
    exact (if_pos hfits).mpr trivial
  refine ⟨hexact, bookkeeping_of_exact_run sampleJson Disk.empty vacant_empty _ _
    (.cons (e := .opened) ⟨.opened (openSpool_empty _), ?_⟩
      (.cons ⟨.of_step step_storeA, ?_⟩ (.single ⟨.call storeA (.ack .log "a"), ?_⟩)))⟩
  · rintro _ _ _ ⟨⟩
  · rintro _ _ _ ⟨⟩ ⟨⟩
    exact hreserves
  · rintro _ _ _ ⟨⟩ ⟨⟩
    exact hexact

end DBPilot.Spool
