import DBPilot.Spool.Calls

/-!
# Recovery

`Open` reads back the log that the segment files represent. Segments whose end
is not one that recovery cuts off are lost as a whole; every other record is
given back, and the store that results is coherent with complete files.
-/

namespace DBPilot.Spool

open SegmentedLog KeyedSort Frames

variable {J : Json} {log : Log Record} {d : Disk} {chunks : List Bytes} {items : List Entry}
  {l : List Record} {f : Segment}

/-! ## One segment -/

lemma recoverFile_complete {records : List (RecordHeader × Bytes)} (encodes : EncodesAll J records chunks)
    (ok : ∀ record ∈ records, record.1.Recoverable) :
    recoverFile J chunks.flatten = some (List.zipWith recordEntry records chunks, chunks.flatten.length) := by
  have hreads := reads_all encodes ok (Nat.le_refl chunks.flatten.length)
  have hscan := scan_file (readRecord_advances J chunks.flatten.length) hreads []
  simpa [recoverFile] using hscan

/-- The header and payload of an entry, as they are encoded. -/
def entryRecord (e : Entry) : RecordHeader × Bytes := (entryHeader e, e.batch.payload)

/-- The chunks of a segment encode recoverable records, which are read back as the segment. -/
lemma encodes_of_segment (images : List.Forall₂ (Image J) l chunks) (valid : ∀ r ∈ l, r.Valid) :
    ∃ records, EncodesAll J records chunks ∧ (∀ record ∈ records, record.1.Recoverable) ∧
      (List.zipWith recordEntry records chunks).map Entry.record = l := by
  induction images with
  | nil => exact ⟨[], .nil, nofun, rfl⟩
  | @cons r chunk l chunks first _ ih =>
    obtain ⟨e, rfl, hencode⟩ := first
    obtain ⟨records, hall, hok, hrecords⟩ := ih fun r hr => valid r (List.mem_cons_of_mem _ hr)
    have hvalid := valid e.record List.mem_cons_self
    have hfirst : (recordEntry (entryRecord e) chunk).record = e.record := by
      rw [entryRecord, recordEntry_entryHeader hvalid]
      rfl
    refine ⟨entryRecord e :: records, .cons hencode hall, ?_, ?_⟩
    · refine List.forall_mem_cons.mpr ⟨⟨hvalid.dataClass, hvalid.id, hvalid.sourceID, hvalid.sequence, ?_⟩, hok⟩
      intro cursor hc
      simp only [entryRecord, entryHeader, clone_cursor_of_valid hvalid] at hc
      have hcurrent := current_of_valid hvalid hc
      exact ⟨hcurrent.version, hcurrent.valid⟩
    · rw [List.zipWith_cons_cons, List.map_cons, hfirst, hrecords]

/-- A file that represents a segment is read back as that segment, or condemned
because of its end. -/
lemma recoverFile_stored {contents : Bytes} (h : Stored J (.torn J) (some l) (some contents))
    (valid : ∀ r ∈ l, r.Valid) {kept : Nat}
    (recovers : recoverFile J contents = some (items, kept)) :
    items.map Entry.record = l ∧ Stored J .clean (some l) (some (contents.take kept)) := by
  obtain ⟨chunks, tail, himages, hcontents, htail⟩ := h
  obtain rfl := Option.some.inj hcontents
  obtain ⟨records, hall, hok, hrecords⟩ := encodes_of_segment himages valid
  have hread : recoverFile J (chunks.flatten ++ tail) = none ∨
      recoverFile J (chunks.flatten ++ tail) = some
        (List.zipWith recordEntry records chunks, chunks.flatten.length) := by
    rcases htail with rfl | ⟨header, payload, htorn⟩
    · rw [List.append_nil]
      exact .inr (recoverFile_complete hall hok)
    · rw [recoverFile_torn hall hok htorn]
      split
      · exact .inl rfl
      · exact .inr rfl
  rcases hread with hnone | hsome
  · rw [hnone] at recovers
    cases recovers
  · rw [hsome] at recovers
    obtain ⟨rfl, rfl⟩ := Prod.mk.inj (Option.some.inj recovers)
    refine ⟨hrecords, stored_clean_iff.mpr ⟨chunks, himages, ?_⟩⟩
    rw [List.take_left' rfl]

/-! ## The segment directory -/

namespace Disk

lemma mem_sealedNames {first : Nat} :
    first ∈ d.sealedNames ↔ (d.read (.sealed first)).isSome := by
  rw [read, AList.lookup_isSome, AList.mem_keys, sealedNames, List.mem_filterMap]
  constructor
  · rintro ⟨f, hf, hname⟩
    cases f with
    | active => cases hname
    | sealed n =>
      cases hname
      exact hf
  · exact fun h => ⟨_, h, rfl⟩

lemma mem_paths : f ∈ d.paths ↔ (d.read f).isSome := by
  cases f with
  | active => simp [paths]
  | sealed => simp [paths, mem_sealedNames]

lemma paths_nodup (d : Disk) : d.paths.Nodup := by
  have hnames : d.sealedNames.Nodup := by
    refine d.segments.keys_nodup.filterMap ?_
    intro f g n hf hg
    cases f with
    | active => cases hf
    | sealed n =>
      cases g with
      | active => cases hg
      | sealed m =>
        cases hf
        cases hg
        rfl
  have hsorted : (d.sealedNames.insertionSort (· ≤ ·)).Nodup :=
    (List.perm_insertionSort _ _).nodup_iff.mpr hnames
  refine List.nodup_append.mpr ⟨hsorted.map fun a b hab => Segment.sealed.inj hab, ?_, ?_⟩
  · split <;> simp
  · intro f hf g hg hfg
    subst hfg
    obtain ⟨first, -, rfl⟩ := List.mem_map.mp hf
    split at hg <;> simp at hg

/-- Whether recovery keeps a segment. -/
def kept (J : Json) (d : Disk) (f : Segment) : Bool := (recoverFile J ((d.read f).getD [])).isSome

def recoveredItems (J : Json) (d : Disk) (f : Segment) : List Entry :=
  match recoverFile J ((d.read f).getD []) with
  | none => []
  | some (items, _) => items.map fun item => { item with file := f }

def recoveredFile (J : Json) (d : Disk) (f : Segment) : Option Bytes :=
  (recoverFile J ((d.read f).getD [])).map fun (_, kept) => ((d.read f).getD []).take kept

lemma recoverSegment_eq (J : Json) (d : Disk) (f : Segment) :
    (d.recoverSegment J f).1 = d.recoveredItems J f ∧
      (∀ g, (d.recoverSegment J f).2.1.read g =
        if g = f then d.recoveredFile J f else d.read g) ∧
      (d.recoverSegment J f).2.1.cursorReceipts = d.cursorReceipts := by
  rw [recoverSegment, recoveredItems, recoveredFile]
  cases hrecover : recoverFile J ((d.read f).getD []) with
  | none =>
    refine ⟨rfl, fun g => ?_, rfl⟩
    exact read_remove d f g
  | some => exact ⟨rfl, fun g => by simp, rfl⟩

/-- The segments are recovered independently of each other. -/
lemma recoverSegments_eq (J : Json) {paths : List Segment} (distinct : paths.Nodup) (d : Disk) :
    (recoverSegments J paths d).1 = paths.flatMap (d.recoveredItems J) ∧
      (∀ g, (recoverSegments J paths d).2.1.read g =
        if g ∈ paths then d.recoveredFile J g else d.read g) ∧
      (recoverSegments J paths d).2.1.cursorReceipts = d.cursorReceipts := by
  induction paths generalizing d with
  | nil => simp [recoverSegments]
  | cons f rest ih =>
    obtain ⟨hf, hrest⟩ := List.nodup_cons.mp distinct
    obtain ⟨hitems, hread, hreceipts⟩ := recoverSegment_eq J d f
    obtain ⟨ihitems, ihread, ihreceipts⟩ := ih hrest (d.recoverSegment J f).2.1
    have hother : ∀ g ∈ rest, (d.recoverSegment J f).2.1.read g = d.read g := by
      intro g hg
      rw [hread, if_neg]
      rintro rfl
      exact hf hg
    refine ⟨?_, ?_, ihreceipts.trans hreceipts⟩
    · simp only [recoverSegments, List.flatMap_cons, ihitems, hitems]
      congr 1
      refine List.flatMap_congr fun g hg => ?_
      rw [recoveredItems, recoveredItems, hother g hg]
    · intro g
      change (recoverSegments J rest (d.recoverSegment J f).2.1).2.1.read g = _
      rw [ihread]
      by_cases hg : g ∈ rest
      · rw [if_pos hg, if_pos (List.mem_cons_of_mem f hg), recoveredFile, recoveredFile, hother g hg]
      · rw [if_neg hg, hread]
        by_cases hgf : g = f
        · subst hgf
          simp
        · simp [hgf, hg]

end Disk

lemma le_foldl_max (items : List Entry) (most : Nat) :
    most ≤ items.foldl (fun most item => max most item.sequence) most ∧
      ∀ e ∈ items, e.sequence ≤ items.foldl (fun most item => max most item.sequence) most := by
  induction items generalizing most with
  | nil => simp
  | cons item items ih =>
    obtain ⟨hmost, hitems⟩ := ih (max most item.sequence)
    refine ⟨by simp only [List.foldl_cons]; omega, fun e he => ?_⟩
    rcases List.mem_cons.mp he with rfl | he
    · simp only [List.foldl_cons]
      omega
    · exact hitems e he

namespace Consistent

lemma clean_torn (h : Consistent J .clean log d) : Consistent J (.torn J) log d :=
  ⟨h.wf, h.valid, fun f => (h.files f).of_clean _⟩

lemma safe_torn (h : Consistent J (.safe J) log d) : Consistent J (.torn J) log d := by
  refine ⟨h.wf, h.valid, fun f => (h.files f).mono ?_⟩
  rintro contents tail (hnil | ⟨header, payload, htorn, -⟩)
  · exact .inl hnil
  · exact .inr ⟨header, payload, htorn⟩

lemma segment_valid {T : Tails} (h : Consistent J T log d) (hl : log f = some l) :
    ∀ r ∈ l, r.Valid := fun _ hr => h.valid ⟨_, hl, hr⟩

/-- A segment whose end recovery cuts off is kept. -/
lemma kept_of_safe (h : Consistent J (.safe J) log d) {r : Record} (held : Holds log f r) : d.kept J f = true := by
  obtain ⟨l, hl, -⟩ := id held
  obtain ⟨contents, hread⟩ := h.files.read_of_holds held
  have hstored := h.files f
  rw [hl, hread] at hstored
  rw [Disk.kept, hread, Option.getD_some]
  obtain ⟨chunks, tail, himages, hcontents, htail⟩ := hstored
  obtain rfl := Option.some.inj hcontents
  obtain ⟨records, hall, hok, -⟩ := encodes_of_segment himages (h.segment_valid hl)
  rcases htail with rfl | ⟨header, payload, htorn, hsafe⟩
  · rw [List.append_nil, recoverFile_complete hall hok]
    rfl
  · rw [recoverFile_torn hall hok htorn, if_neg hsafe]
    rfl

section

variable (h : Consistent J (.torn J) log d)
include h

/-- What recovery reads from the file of a segment it keeps. -/
lemma recoveredItems_records (hl : log f = some l) (kept : d.kept J f = true) :
    (d.recoveredItems J f).map Entry.record = l ∧ ∀ e ∈ d.recoveredItems J f, e.file = f := by
  have hstored := h.files f
  obtain ⟨contents, hread⟩ := Option.isSome_iff_exists.mp ((h.files.read_isSome f).mpr (by simp [hl]))
  rw [hl, hread] at hstored
  rw [Disk.kept, hread, Option.getD_some] at kept
  obtain ⟨⟨items, size⟩, hrecover⟩ := Option.isSome_iff_exists.mp kept
  rw [Disk.recoveredItems, hread, Option.getD_some, hrecover]
  refine ⟨?_, ?_⟩
  · rw [List.map_map]
    exact (recoverFile_stored hstored (h.segment_valid hl) hrecover).1
  · intro e he
    obtain ⟨e₀, -, rfl⟩ := List.mem_map.mp he
    rfl

lemma recoveredItems_sound (exists_ : f ∈ d.paths) {e : Entry} (he : e ∈ d.recoveredItems J f) :
    e.file = f ∧ Holds (restrict log (d.kept J)) f e.record := by
  obtain ⟨l, hl⟩ := Option.isSome_iff_exists.mp ((h.files.read_isSome f).mp (Disk.mem_paths.mp exists_))
  have hkept : d.kept J f = true := by
    cases hrecover : recoverFile J ((d.read f).getD []) with
    | none => simp [Disk.recoveredItems, hrecover] at he
    | some => simp [Disk.kept, hrecover]
  obtain ⟨hrecords, hfile⟩ := h.recoveredItems_records hl hkept
  refine ⟨hfile e he, holds_restrict.mpr ⟨hkept, ⟨l, hl, ?_⟩⟩⟩
  exact hrecords ▸ List.mem_map_of_mem he

lemma recoveredItems_complete {r : Record} (held : Holds (restrict log (d.kept J)) f r) :
    f ∈ d.paths ∧ ∃ e ∈ d.recoveredItems J f, e.record = r := by
  obtain ⟨hkept, l, hl, hr⟩ := holds_restrict.mp held
  refine ⟨Disk.mem_paths.mpr ((h.files.read_isSome f).mpr (by simp [hl])), ?_⟩
  rw [← (h.recoveredItems_records hl hkept).1] at hr
  exact List.mem_map.mp hr

lemma recoveredItems_increasing (exists_ : f ∈ d.paths) : Increasing Entry.sequence (d.recoveredItems J f) := by
  obtain ⟨l, hl⟩ := Option.isSome_iff_exists.mp ((h.files.read_isSome f).mp (Disk.mem_paths.mp exists_))
  by_cases hkept : d.kept J f = true
  · refine Increasing.of_map record_sequence ?_
    rw [(h.recoveredItems_records hl hkept).1]
    exact h.wf.increasing hl
  · have hnone : recoverFile J ((d.read f).getD []) = none := by
      simpa [Disk.kept] using hkept
    rw [Disk.recoveredItems, hnone]
    exact List.Pairwise.nil

lemma recovered_sequences_nodup : ((d.paths.flatMap (d.recoveredItems J)).map Entry.sequence).Nodup := by
  rw [List.map_flatMap]
  refine List.nodup_flatMap.mpr ⟨fun f hf => ?_, ?_⟩
  · refine List.pairwise_map.mpr ((h.recoveredItems_increasing hf).imp fun hlt => ?_)
    exact Nat.ne_of_lt hlt
  · refine List.Pairwise.imp_of_mem ?_ d.paths_nodup
    intro f g hf hg hne n hn hn'
    obtain ⟨e, he, rfl⟩ := List.mem_map.mp hn
    obtain ⟨e', he', hsame⟩ := List.mem_map.mp hn'
    have hheld := (h.recoveredItems_sound hf he).2
    have hheld' := (h.recoveredItems_sound hg he').2
    exact hne ((h.wf.restrict (d.kept J)).seq_inj hheld hheld' hsame.symm).1

lemma recoveredFile_stored (f : Segment) : Stored J .clean (restrict log (d.kept J) f)
      (if f ∈ d.paths then d.recoveredFile J f else d.read f) := by
  have hstored := h.files f
  cases hl : log f with
  | none =>
    rw [hl] at hstored
    change d.read f = none at hstored
    have hpath : f ∉ d.paths := by simp [Disk.mem_paths, hstored]
    simp [restrict, hl, hpath, hstored, Stored]
  | some l =>
    obtain ⟨contents, hread⟩ :=
      Option.isSome_iff_exists.mp ((h.files.read_isSome f).mpr (by simp [hl]))
    rw [hl, hread] at hstored
    rw [if_pos (Disk.mem_paths.mpr (by simp [hread])), Disk.recoveredFile, restrict, Disk.kept,
      hread, Option.getD_some]
    cases hrecover : recoverFile J contents with
    | none => simp [Stored]
    | some result =>
      obtain ⟨items, size⟩ := result
      simpa [hl] using (recoverFile_stored hstored (h.segment_valid hl) hrecover).2

/-- Recovery gives back, as a coherent store, every segment it keeps. -/
theorem scanned (limits : Limits) : Coherent J .clean (restrict log (d.kept J)) (scanned J limits d) := by
  obtain ⟨hitems, hread, -⟩ := Disk.recoverSegments_eq J d.paths_nodup d
  have hwf := h.wf.restrict (d.kept J)
  have hmem : ∀ {c e}, e ∈ (Spool.scanned J limits d).entries c ↔
      (∃ f ∈ d.paths, e ∈ d.recoveredItems J f) ∧ e.dataClass = c := by
    intro c e
    simp [Spool.scanned, Spool.recovered, hitems]
  refine ⟨⟨hwf, fun held => h.valid (holds_restrict.mp held).2, fun f => ?_⟩, ⟨fun c => ?_, ?_, ?_, ?_⟩, ?_⟩
  · change Stored J .clean _ ((Disk.recoverSegments J d.paths d).2.1.read f)
    rw [hread]
    exact h.recoveredFile_stored f
  · refine sortOn_increasing ?_
    rw [hitems]
    exact h.recovered_sequences_nodup.sublist (List.filter_sublist.map Entry.sequence)
  · intro c e he
    obtain ⟨⟨f, hf, he⟩, hclass⟩ := hmem.mp he
    obtain ⟨rfl, held⟩ := h.recoveredItems_sound hf he
    exact ⟨hclass, held⟩
  · intro f r held
    obtain ⟨hf, e, he, rfl⟩ := h.recoveredItems_complete held
    exact ⟨e, hmem.mpr ⟨⟨f, hf, he⟩, rfl⟩, (h.recoveredItems_sound hf he).1, rfl⟩
  · intro f r held
    obtain ⟨hf, e, he, rfl⟩ := h.recoveredItems_complete held
    refine (le_foldl_max _ 0).2 e ?_
    rw [hitems]
    exact List.mem_flatMap.mpr ⟨f, hf, he⟩
  · cases hactive : (Disk.recoverSegments J d.paths d).2.1.read .active with
    | none => exact .inl (by simp [Spool.scanned, Spool.recovered, hactive])
    | some => exact .inr (by simp [Spool.scanned, Spool.recovered, hactive])

end

end Consistent

/-! ## Opening -/

lemma scanned_receipts (J : Json) (limits : Limits) (d : Disk) :
    (scanned J limits d).disk.cursorReceipts = d.cursorReceipts :=
  (Disk.recoverSegments_eq J d.paths_nodup d).2.2

/-- The store `Open` returns, given the receipts its transaction leaves. -/
def opened (J : Json) (limits : Limits) (order : MapOrder) (d : Disk) (receipts : String → Option Bytes) : Store :=
  { scanned J limits d with
    disk := { reindex (scanned J limits d).disk (order.val.flatMap (scanned J limits d).entries) with
      cursorReceipts := receipts } }

section Open
variable {limits : Limits} {order : MapOrder}

lemma openSpool_eq (positive : ¬ (limits.maxBytes ≤ 0 ∨ limits.segmentBytes ≤ 0)) :
    openSpool J limits order d =
      match installReceipts J (order.val.flatMap (scanned J limits d).entries) d.cursorReceipts with
      | .error err => .error (err, (scanned J limits d).disk)
      | .ok receipts => .ok (opened J limits order d receipts) := by
  rw [openSpool, if_neg positive, ← scanned_receipts J limits d]
  rfl

lemma openSpool_eq_ok (opens : openSpool J limits order d = .ok s) :
    ¬ (limits.maxBytes ≤ 0 ∨ limits.segmentBytes ≤ 0) ∧
      ∃ receipts, installReceipts J (order.val.flatMap (scanned J limits d).entries) d.cursorReceipts =
        .ok receipts ∧ s = opened J limits order d receipts := by
  by_cases hlimits : limits.maxBytes ≤ 0 ∨ limits.segmentBytes ≤ 0
  · rw [openSpool, if_pos hlimits] at opens
    cases opens
  rw [openSpool_eq hlimits] at opens
  split at opens
  · cases opens
  · cases opens
    exact ⟨hlimits, _, ‹_›, rfl⟩

lemma openSpool_eq_error {err : SpoolError} {d' : Disk} (refuses : openSpool J limits order d = .error (err, d')) :
    d' = d ∨ d' = (scanned J limits d).disk := by
  by_cases hlimits : limits.maxBytes ≤ 0 ∨ limits.segmentBytes ≤ 0
  · rw [openSpool, if_pos hlimits] at refuses
    cases refuses
    exact .inl rfl
  rw [openSpool_eq hlimits] at refuses
  split at refuses
  · cases refuses
    exact .inr rfl
  · cases refuses

end Open

namespace Consistent

/-- Whether `Open` succeeds or not, what it leaves behind is a spool. -/
theorem openSpool (h : Consistent J (.torn J) log d) (limits : Limits) (order : MapOrder) :
    (∀ s, openSpool J limits order d = .ok s → Coherent J .clean (restrict log (d.kept J)) s) ∧
    ∀ err d', openSpool J limits order d = .error (err, d') →
      ∃ log', Consistent J (.torn J) log' d' ∧ (∀ {f r}, Holds log' f r → Holds log f r) ∧
        d'.cursorReceipts = d.cursorReceipts := by
  constructor
  · intro s opens
    obtain ⟨-, receipts, -, rfl⟩ := openSpool_eq_ok opens
    exact (h.scanned limits).sameIndex rfl rfl rfl (h.scanned limits).activeFile
  · intro err d' refuses
    rcases openSpool_eq_error refuses with rfl | rfl
    · exact ⟨log, h, id, rfl⟩
    · exact ⟨_, (h.scanned limits).toConsistent.clean_torn,
        fun held => (holds_restrict.mp held).2, scanned_receipts J limits d⟩

end Consistent
end DBPilot.Spool
