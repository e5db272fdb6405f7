import DBPilot.Spool.Coherence

/-!
# Sealing, deletion and eviction

`sealActive` promotes the active segment of the log, `delete` keeps all records
of a segment but one, and eviction is a run of deletions outside the audit class.
-/

namespace DBPilot.Spool

open SegmentedLog KeyedSort

variable {J : Json} {T : Tails} {log : Log Record} {s : Store} {c : DataClass} {f : Segment}

/-- The durable queue of a class, oldest first. -/
def Store.records (s : Store) (c : DataClass) : List Record := (s.entries c).map Entry.record

/-- Nothing of the queue or of the cursor receipts differs. -/
structure SameQueue (s s' : Store) : Prop where
  records : ∀ c, s'.records c = s.records c
  nextSeq : s'.nextSeq = s.nextSeq
  limits : s'.limits = s.limits
  receipts : s'.disk.cursorReceipts = s.disk.cursorReceipts

/-- Some batches outside the audit class are gone. -/
structure Shrinks (s s' : Store) : Prop where
  records : ∀ c, (s'.records c).Sublist (s.records c)
  audit : s'.records .auditLog = s.records .auditLog
  nextSeq : s'.nextSeq = s.nextSeq
  limits : s'.limits = s.limits
  receipts : s'.disk.cursorReceipts = s.disk.cursorReceipts

lemma SameQueue.refl (s : Store) : SameQueue s s := ⟨fun _ => rfl, rfl, rfl, rfl⟩

lemma SameQueue.shrinks {s' : Store} (h : SameQueue s s') : Shrinks s s' where
  records c := by rw [h.records c]
  audit := h.records .auditLog
  nextSeq := h.nextSeq
  limits := h.limits
  receipts := h.receipts

lemma Shrinks.trans {s' s'' : Store} (h : Shrinks s s') (h' : Shrinks s' s'') : Shrinks s s'' where
  records c := (h'.records c).trans (h.records c)
  audit := h'.audit.trans h.audit
  nextSeq := h'.nextSeq.trans h.nextSeq
  limits := h'.limits.trans h.limits
  receipts := h'.receipts.trans h.receipts

/-! ## Sealing -/

lemma foldl_firstSequence (f : Segment) (items : List Entry) (first : Nat)
    (positive : ∀ e ∈ items, e.sequence ≠ 0) :
    let least := items.foldl (fun first item =>
      if item.file = f ∧ (first = 0 ∨ item.sequence < first) then item.sequence else first) first
    (least = first ∨ ∃ e ∈ items, e.file = f ∧ least = e.sequence) ∧
      (first ≠ 0 → least ≠ 0 ∧ least ≤ first) ∧
      ∀ e ∈ items, e.file = f → least ≠ 0 ∧ least ≤ e.sequence := by
  induction items generalizing first with
  | nil => simp
  | cons item items ih =>
    have hitem := positive item List.mem_cons_self
    obtain ⟨hfrom, hbelow, hleast⟩ := ih
      (if item.file = f ∧ (first = 0 ∨ item.sequence < first) then item.sequence else first)
      (fun e he => positive e (List.mem_cons_of_mem item he))
    simp only [List.foldl_cons]
    refine ⟨?_, ?_, ?_⟩
    · rcases hfrom with hsame | ⟨e, he, hfile, hseq⟩
      · by_cases htake : item.file = f ∧ (first = 0 ∨ item.sequence < first)
        · rw [if_pos htake] at hsame ⊢
          exact .inr ⟨item, List.mem_cons_self, htake.1, hsame⟩
        · rw [if_neg htake] at hsame ⊢
          exact .inl hsame
      · exact .inr ⟨e, List.mem_cons_of_mem item he, hfile, hseq⟩
    · intro hfirst
      split at hbelow <;> rename_i htake
      · have := hbelow hitem
        rw [if_pos htake]
        omega
      · rw [if_neg htake]
        exact hbelow hfirst
    · intro e he hfile
      rcases List.mem_cons.mp he with rfl | he
      · split at hbelow <;> rename_i htake
        · rw [if_pos htake]
          exact hbelow hitem
        · have hfirst : ¬ (first = 0 ∨ e.sequence < first) := fun h => htake ⟨hfile, h⟩
          have := hbelow (by omega)
          rw [if_neg htake]
          omega
      · exact hleast e he hfile

/-- The sequence a segment is sealed under is the least one it holds. -/
lemma firstSequence_of_mem (positive : ∀ e ∈ s.all, e.sequence ≠ 0) (h : s.firstSequence f ≠ 0) :
    ∃ e ∈ s.all, e.file = f ∧ s.firstSequence f = e.sequence ∧
      ∀ e' ∈ s.all, e'.file = f → e.sequence ≤ e'.sequence := by
  obtain ⟨hfrom, -, hleast⟩ := foldl_firstSequence f s.all 0 positive
  rcases hfrom with hzero | ⟨e, he, hfile, hseq⟩
  · exact absurd hzero h
  · refine ⟨e, he, hfile, hseq, fun e' he' hfile' => ?_⟩
    exact hseq ▸ (hleast e' he' hfile').2

lemma mem_relabel {g : Segment} {e : Entry} :
    e ∈ (s.relabel f g).entries c ↔ ∃ e₀ ∈ s.entries c, (if e₀.file = f then { e₀ with file := g } else e₀) = e :=
  List.mem_map

lemma relabel_records (s : Store) (f g : Segment) (c : DataClass) : (s.relabel f g).records c = s.records c := by
  rw [Store.records, Store.relabel, List.map_map]
  apply List.map_congr_left
  intro e _
  simp only [Function.comp_apply]
  split <;> rfl

namespace Coherent

section

variable (h : Coherent J T log s)
include h

lemma positive : ∀ e ∈ s.all, e.sequence ≠ 0 :=
  fun _ he => (h.valid (h.holds_of_mem_all he)).sequence

/-- An active segment without records is dropped. -/
lemma drop_active (unused : ∀ e ∈ s.all, e.file ≠ .active) :
    Coherent J T (keep log .active fun _ => false)
      { s with disk := s.disk.remove .active, activeFile := none, activeSize := 0 } where
  wf := h.wf.keep _ _
  valid := fun held => h.valid (holds_keep.mp held).1
  files := by
    intro f
    by_cases hf : f = .active
    · subst hf
      simp [Stored, keep]
    · simpa [keep, hf] using h.files f
  index :=
    { increasing := h.index.increasing
      sound := fun {c e} he => by
        obtain ⟨hclass, hheld⟩ := h.index.sound he
        have hne := unused e (h.mem_entries.mp he).1
        exact ⟨hclass, holds_keep.mpr ⟨hheld, fun hfile => absurd hfile hne⟩⟩
      complete := fun held => h.index.complete (holds_keep.mp held).1
      bounded := fun held => h.index.bounded (holds_keep.mp held).1 }
  activeFile := .inl rfl

/-- An active segment with records is renamed after the least of them. -/
lemma promote_active {first : Entry} (mem : first ∈ s.all) (file : first.file = .active)
    (least : ∀ e ∈ s.all, e.file = .active → first.sequence ≤ e.sequence) {contents : Bytes}
    (active : s.disk.read .active = some contents) (index : Nat → Option Segment) :
    Coherent J T (promote log first.sequence)
      { s.relabel .active (.sealed first.sequence) with
        disk := { (s.disk.remove .active).replace (.sealed first.sequence) contents with
          segmentIndex := index }
        activeFile := none
        activeSize := 0 } := by
  have hheld : Holds log .active first.record := file ▸ h.holds_of_mem_all mem
  have hfresh : log (.sealed first.sequence) = none := h.wf.promote_fresh hheld
  refine ⟨⟨?_, ?_, ?_⟩, ⟨?_, ?_, ?_, ?_⟩, .inl rfl⟩
  · refine h.wf.promote hheld fun r hr => ?_
    obtain ⟨e, he, hfile, rfl⟩ := h.exists_of_holds hr
    exact least e he hfile
  · intro f r held
    rcases (holds_promote hfresh).mp held with ⟨-, moved⟩ | ⟨-, stayed⟩
    · exact h.valid moved
    · exact h.valid stayed
  · intro f
    change Stored J T _ (((s.disk.remove .active).replace (.sealed first.sequence) contents).read f)
    by_cases hsealed : f = .sealed first.sequence
    · subst hsealed
      have hactive := h.files .active
      rw [active] at hactive
      simpa [promote] using hactive
    · by_cases hf : f = .active
      · subst hf
        simp [promote, Stored]
      · simpa [promote, hf, hsealed] using h.files f
  · intro c
    refine (h.index.increasing c).map fun e => ?_
    split <;> rfl
  · intro c e he
    obtain ⟨e₀, he₀, rfl⟩ := mem_relabel.mp he
    obtain ⟨hclass, held⟩ := h.index.sound he₀
    split
    · rename_i hfile
      exact ⟨hclass, (holds_promote hfresh).mpr (.inl ⟨rfl, hfile ▸ held⟩)⟩
    · rename_i hfile
      exact ⟨hclass, (holds_promote hfresh).mpr (.inr ⟨hfile, held⟩)⟩
  · intro f r held
    rcases (holds_promote hfresh).mp held with ⟨rfl, moved⟩ | ⟨hf, stayed⟩
    · obtain ⟨e, he, hfile, rfl⟩ := h.index.complete moved
      exact ⟨{ e with file := .sealed first.sequence }, mem_relabel.mpr ⟨e, he, if_pos hfile⟩, rfl, rfl⟩
    · obtain ⟨e, he, rfl, rfl⟩ := h.index.complete stayed
      exact ⟨e, mem_relabel.mpr ⟨e, he, if_neg hf⟩, rfl, rfl⟩
  · intro f r held
    rcases (holds_promote hfresh).mp held with ⟨-, moved⟩ | ⟨-, stayed⟩
    · exact h.index.bounded moved
    · exact h.index.bounded stayed

/-- `sealActive` never fails on a coherent store and does not touch the queue. -/
theorem sealActive : s.sealActive.1 = .ok () ∧
    (∃ log', Coherent J T log' s.sealActive.2) ∧ SameQueue s s.sealActive.2 ∧ s.sealActive.2.activeFile = none := by
  rcases h.activeFile with hnone | hactive
  · have hseal : s.sealActive = (.ok (), s) := by simp [Store.sealActive, hnone]
    rw [hseal]
    exact ⟨rfl, ⟨log, h⟩, .refl s, hnone⟩
  by_cases hzero : s.firstSequence .active = 0
  · simp only [Store.sealActive, hactive, hzero, if_true]
    refine ⟨trivial, ⟨_, h.drop_active fun e he hfile => ?_⟩, ⟨fun _ => rfl, rfl, rfl, rfl⟩, trivial⟩
    obtain ⟨-, -, hleast⟩ := foldl_firstSequence .active s.all 0 h.positive
    exact (hleast e he hfile).1 hzero
  obtain ⟨first, hmem, hfile, hseq, hleast⟩ := firstSequence_of_mem h.positive hzero
  obtain ⟨contents, hread⟩ := h.files.read_of_holds (h.holds_of_mem_all hmem)
  rw [hfile] at hread
  simp only [Store.sealActive, hactive, hzero, if_false, Disk.rename, hread, Option.map_some]
  rw [hseq]
  exact ⟨trivial, ⟨_, h.promote_active hmem hfile hleast hread _⟩,
    ⟨fun c => relabel_records s _ _ c, rfl, rfl, rfl⟩, trivial⟩

end

end Coherent

/-! ## Deletion -/

lemma delete_cases (J : Json) (s : Store) (c : DataClass) (id : String) :
    (s.find c id = none ∧ s.delete J c id = (.ok (), s)) ∨
    (∃ item err, s.find c id = some item ∧ s.rewriteWithout J item = .error err ∧ s.delete J c id = (.error err, s)) ∨
    ∃ item size disk, s.find c id = some item ∧ s.rewriteWithout J item = .ok (size, disk) ∧
      s.delete J c id = (.ok (), s.forget c id item size disk) := by
  rcases hfind : s.find c id with _ | item
  · exact .inl ⟨rfl, by simp [Store.delete, hfind]⟩
  cases hrewrite : s.rewriteWithout J item with
  | error err => exact .inr (.inl ⟨item, err, rfl, hrewrite, by simp [Store.delete, hfind, hrewrite]⟩)
  | ok result =>
    obtain ⟨size, disk⟩ := result
    exact .inr (.inr ⟨item, size, disk, rfl, hrewrite, by simp [Store.delete, hfind, hrewrite]⟩)

/-- A deletion leaves the store, or it forgets the entry. -/
lemma delete_rule {J : Json} {s : Store} {c : DataClass} {id : String} {P : Store → Prop} (idle : P s)
    (forgets : ∀ item size disk, s.find c id = some item → s.rewriteWithout J item = .ok (size, disk) →
      P (s.forget c id item size disk)) : P (s.delete J c id).2 := by
  rcases delete_cases J s c id with ⟨-, hdelete⟩ | ⟨item, err, -, -, hdelete⟩ |
    ⟨item, size, disk, hfind, hrewrite, hdelete⟩
  · rwa [hdelete]
  · rwa [hdelete]
  · rw [hdelete]
    exact forgets item size disk hfind hrewrite

variable {id : String} {item : Entry}

lemma find_split (h : s.find c id = some item) : item.batch.id = id ∧ ∃ before after,
      s.entries c = before ++ item :: after ∧ (∀ e ∈ before, e.batch.id ≠ id) := by
  obtain ⟨hid, before, after, hsplit, hbefore⟩ := List.find?_eq_some_iff_append.mp h
  refine ⟨by simpa using hid, before, after, hsplit, fun e he => ?_⟩
  simpa using hbefore e he

lemma removeEntry_of_ne (s : Store) {c' : DataClass} (id : String) (hc : c' ≠ c) :
    (s.removeEntry c id).entries c' = s.entries c' := Function.update_of_ne hc _ _

lemma removeEntry_split {before after : List Entry} (split : s.entries c = before ++ item :: after)
    (named : item.batch.id = id) (first : ∀ e ∈ before, e.batch.id ≠ id) :
    (s.removeEntry c id).entries c = before ++ after ∧ s.slotAfterRemove c id item = after.head?.getD item := by
  constructor
  · have herase : (before ++ item :: after).eraseP (·.batch.id == id) = before ++ after := by
      rw [List.eraseP_append_right _ (by simpa using first), List.eraseP_cons_of_pos (by simp [named])]
    simp [Store.removeEntry, split, herase]
  · have hdrop : (before ++ item :: after).dropWhile (·.batch.id != id) = item :: after := by
      rw [List.dropWhile_append_of_pos (by simpa using first), List.dropWhile_cons_of_neg (by simp [named])]
    simp [Store.slotAfterRemove, split, hdrop]

section

variable (s : Store) (c : DataClass) (id : String) (item : Entry) (size : Nat) (disk : Disk)

@[simp] lemma forget_entries : (s.forget c id item size disk).entries = (s.removeEntry c id).entries := by
  simp only [Store.forget]
  split <;> rfl

@[simp] lemma forget_nextSeq : (s.forget c id item size disk).nextSeq = s.nextSeq := by
  simp only [Store.forget]
  split <;> rfl

@[simp] lemma forget_limits : (s.forget c id item size disk).limits = s.limits := by
  simp only [Store.forget]
  split <;> rfl

@[simp] lemma forget_disk : (s.forget c id item size disk).disk = Store.unindex disk c id item.sequence := by
  simp only [Store.forget]
  split <;> rfl

end

/-- The records a rewrite leaves in the segment of `item`. -/
def others (item : Entry) : Record → Bool := fun r => r.sequence != item.sequence

namespace Coherent

section

variable (h : Coherent J T log s)
include h

lemma remaining_records (mem : item ∈ s.all) :
    (s.remaining item).map Entry.record = ((log item.file).getD []).filter (others item) := by
  obtain ⟨l, hl, -⟩ := h.holds_of_mem_all mem
  have hdistinct : ((s.all.filter fun e => e.file = item.file ∧ e.sequence ≠ item.sequence).map
      Entry.sequence).Nodup := h.sequences_nodup.sublist (List.filter_sublist.map Entry.sequence)
  have hsorted : Increasing Record.sequence ((s.remaining item).map Entry.record) :=
    (sortOn_increasing hdistinct).map record_sequence
  have hsegment : Increasing Record.sequence ((log item.file).getD []) := by
    rw [hl]
    exact h.wf.increasing hl
  refine hsorted.ext (hsegment.sublist List.filter_sublist) fun r => ?_
  rw [List.mem_map, List.mem_filter, ← holds_iff_mem_getD]
  constructor
  · rintro ⟨e, he, rfl⟩
    simp only [Store.remaining, mem_sortOn, List.mem_filter, decide_eq_true_eq] at he
    obtain ⟨hall, hfile, hne⟩ := he
    exact ⟨hfile ▸ h.holds_of_mem_all hall, by simpa [others] using hne⟩
  · rintro ⟨held, hne⟩
    obtain ⟨e, he, hfile, rfl⟩ := h.exists_of_holds held
    refine ⟨e, ?_, rfl⟩
    simp only [Store.remaining, mem_sortOn, List.mem_filter, decide_eq_true_eq]
    exact ⟨he, hfile, by simpa [others] using hne⟩

/-- A rewrite leaves the other segments alone, its own segment without the
record, and reports the size of what it has written. -/
lemma rewriteWithout (mem : item ∈ s.all) {size : Nat} {disk : Disk}
    (rewrite : s.rewriteWithout J item = .ok (size, disk)) :
    (∀ f, f ≠ item.file → disk.read f = s.disk.read f) ∧
      Stored J .clean (keep log item.file (others item) item.file) (disk.read item.file) ∧
      size = ((disk.read item.file).getD []).length ∧
      (size = 0 ↔ disk.read item.file = none) ∧
      disk.cursorReceipts = s.disk.cursorReceipts := by
  have hrecords := h.remaining_records mem
  rw [Store.rewriteWithout] at rewrite
  rw [keep, Function.update_self, ← hrecords]
  rcases hkept : s.remaining item with _ | ⟨e, kept⟩
  · simp only [hkept, Except.ok.injEq, Prod.mk.injEq] at rewrite
    obtain ⟨rfl, rfl⟩ := rewrite
    refine ⟨fun f hf => by simp [hf], by simp [Stored], by simp, by simp, rfl⟩
  rw [hkept] at rewrite
  rcases hencode : encodeEntries J (e :: kept) with err | contents
  · simp [hencode, Except.map] at rewrite
  simp only [hencode, Except.map, Except.ok.injEq, Prod.mk.injEq] at rewrite
  obtain ⟨rfl, rfl⟩ := rewrite
  obtain ⟨chunks, rfl, hchunks⟩ := encodeEntries_ok hencode
  have hne : chunks.flatten.length ≠ 0 := by
    cases hchunks with
    | cons first _ =>
      have := length_encodeRecord first
      rw [List.flatten_cons, List.length_append]
      omega
  refine ⟨fun f hf => by simp [hf], ?_, by simp, by simpa using hne, rfl⟩
  simp only [List.map_cons, Disk.read_replace, if_true]
  have images : List.Forall₂ (Image J) ((e :: kept).map Entry.record) chunks :=
    List.forall₂_map_left_iff.mpr (hchunks.imp fun e chunk first => ⟨e, rfl, first⟩)
  exact stored_clean_iff.mpr ⟨chunks, images, rfl⟩

lemma mem_of_find (found : s.find c id = some item) : item ∈ s.all ∧ item ∈ s.entries c ∧ item.dataClass = c := by
  have hmem : item ∈ s.entries c := List.mem_of_find?_eq_some found
  obtain ⟨hclass, -⟩ := h.index.sound hmem
  exact ⟨(h.mem_entries.mp hmem).1, hmem, hclass⟩

/-- Removing the entry `find` returned removes its sequence, and nothing else. -/
lemma mem_removeEntry (found : s.find c id = some item) {c' : DataClass} {e : Entry} :
    e ∈ (s.removeEntry c id).entries c' ↔ e ∈ s.entries c' ∧ e.sequence ≠ item.sequence := by
  obtain ⟨-, hitem, -⟩ := h.mem_of_find found
  by_cases hc : c' = c
  · subst hc
    obtain ⟨hid, before, after, hsplit, hfirst⟩ := find_split found
    have hinc := h.index.increasing c'
    rw [(removeEntry_split hsplit hid hfirst).1]
    rw [hsplit] at hinc ⊢
    obtain ⟨-, htail, hcross⟩ := List.pairwise_append.mp hinc
    obtain ⟨hafter, -⟩ := List.pairwise_cons.mp htail
    simp only [List.mem_append, List.mem_cons]
    constructor
    · rintro (hb | ha)
      · have := hcross e hb item List.mem_cons_self
        exact ⟨.inl hb, by omega⟩
      · have := hafter e ha
        exact ⟨.inr (.inr ha), by omega⟩
    · rintro ⟨hb | rfl | ha, hne⟩
      · exact .inl hb
      · exact absurd rfl hne
      · exact .inr ha
  · rw [removeEntry_of_ne s id hc]
    refine ⟨fun he => ⟨he, fun hseq => ?_⟩, fun he => he.1⟩
    have heq := h.index.entry_unique h.wf he hitem hseq
    exact hc ((h.index.sound he).1.symm.trans (heq ▸ (h.index.sound hitem).1))

end

lemma removeEntry_sublist (s : Store) (c : DataClass) (id : String) (c' : DataClass) :
    ((s.removeEntry c id).entries c').Sublist (s.entries c') := by
  by_cases hc : c' = c
  · subst hc
    simpa [Store.removeEntry] using List.eraseP_sublist
  · rw [removeEntry_of_ne s id hc]

/-- Deleting an entry keeps every other record. -/
theorem forget (h : Coherent J T log s) (found : s.find c id = some item) {size : Nat} {disk : Disk}
    (rewrite : s.rewriteWithout J item = .ok (size, disk)) :
    Coherent J T (keep log item.file (others item)) (s.forget c id item size disk) := by
  obtain ⟨hall, hitem, -⟩ := h.mem_of_find found
  obtain ⟨hother, hown, -, -, -⟩ := h.rewriteWithout hall rewrite
  refine ⟨⟨h.wf.keep _ _, fun held => h.valid (holds_keep.mp held).1, ?_⟩, ⟨?_, ?_, ?_, ?_⟩, ?_⟩
  · intro f
    rw [forget_disk]
    change Stored J T _ (disk.read f)
    by_cases hf : f = item.file
    · subst hf
      exact hown.of_clean T
    · rw [hother f hf, keep, Function.update_of_ne hf]
      exact h.files f
  · intro c'
    rw [forget_entries]
    exact (h.index.increasing c').sublist (removeEntry_sublist s c id c')
  · intro c' e he
    rw [forget_entries, h.mem_removeEntry found] at he
    obtain ⟨hclass, held⟩ := h.index.sound he.1
    exact ⟨hclass, holds_keep.mpr ⟨held, fun _ => by simpa [others] using he.2⟩⟩
  · intro f r held
    obtain ⟨hheld, hne⟩ := holds_keep.mp held
    obtain ⟨e, he, hfile, rfl⟩ := h.index.complete hheld
    refine ⟨e, ?_, hfile, rfl⟩
    rw [forget_entries, h.mem_removeEntry found]
    refine ⟨he, fun hseq => ?_⟩
    have heq := h.index.entry_unique h.wf he hitem hseq
    subst heq
    simpa [others] using hne hfile.symm
  · intro f r held
    rw [forget_nextSeq]
    exact h.index.bounded (holds_keep.mp held).1
  · simp only [Store.forget]
    split
    · split
      · exact .inl rfl
      · exact h.activeFile
    · exact h.activeFile

lemma delete (h : Coherent J T log s) (c : DataClass) (id : String) : ∃ log', Coherent J T log' (s.delete J c id).2 :=
  delete_rule (P := fun s => ∃ log, Coherent J T log s) ⟨log, h⟩ fun _ _ _ hfind hrewrite => ⟨_, h.forget hfind hrewrite⟩

lemma delete_shrinks (h : Coherent J T log s) (evictable : c ≠ .auditLog) (id : String) :
    Shrinks s (s.delete J c id).2 := by
  refine delete_rule (SameQueue.refl s).shrinks fun item size disk hfind hrewrite => ?_
  refine ⟨fun c' => ?_, ?_, by simp, by simp, ?_⟩
  · rw [Store.records, forget_entries]
    exact (removeEntry_sublist s c id c').map Entry.record
  · rw [Store.records, forget_entries, removeEntry_of_ne s id evictable.symm]
    rfl
  · rw [forget_disk]
    exact (h.rewriteWithout (h.mem_of_find hfind).1 hrewrite).2.2.2.2

end Coherent

/-! ## Eviction -/

lemma evictionCandidate_some {candidate : Entry}
    (h : s.evictionCandidate = some candidate) :
    ∃ c, c ≠ .auditLog ∧ candidate ∈ s.entries c := by
  obtain ⟨c, hc, hhead⟩ := List.exists_of_findSome?_eq_some h
  refine ⟨c, ?_, ?_⟩
  · rintro rfl
    simp at hc
  · exact (List.mem_insertionSort _).mp (List.mem_of_mem_head? hhead)

lemma find_of_mem {e : Entry} (h : e ∈ s.entries c) : ∃ item, s.find c e.batch.id = some item := by
  cases hfind : s.find c e.batch.id with
  | none => simpa using List.find?_eq_none.mp hfind e h
  | some item => exact ⟨item, rfl⟩

variable {err : SpoolError}

lemma encodeRecord_error {header : RecordHeader} {payload : Bytes}
    (failed : encodeRecord J header payload = .error err) : err = .payloadTooLarge ∨ err = .invalidHeader := by
  unfold encodeRecord at failed
  repeat' split at failed
  all_goals cases failed
  all_goals simp

lemma encodeEntries_error {items : List Entry} (failed : encodeEntries J items = .error err) :
    err = .payloadTooLarge ∨ err = .invalidHeader := by
  induction items with
  | nil => cases failed
  | cons e items ih =>
    rw [encodeEntries] at failed
    cases hencode : encodeEntry J e with
    | error =>
      rw [hencode] at failed
      cases failed
      exact encodeRecord_error hencode
    | ok =>
      cases hrest : encodeEntries J items with
      | error =>
        simp only [hencode, hrest, Except.map, Except.error.injEq] at failed
        exact ih (failed ▸ hrest)
      | ok => simp [hencode, hrest, Except.map] at failed

/-- A rewrite fails only where a record cannot be encoded. -/
lemma rewriteWithout_error (failed : s.rewriteWithout J item = .error err) :
    err = .payloadTooLarge ∨ err = .invalidHeader := by
  rw [Store.rewriteWithout] at failed
  split at failed
  · cases failed
  cases hencode : encodeEntries J (s.remaining item) with
  | ok => simp [hencode, Except.map] at failed
  | error =>
    simp only [hencode, Except.map, Except.error.injEq] at failed
    exact encodeEntries_error (failed ▸ hencode)

/-- A successful deletion of a pending batch shortens the queue. -/
lemma length_forget (valid : c ∈ classes) (found : s.find c id = some item) (size : Nat)
    (disk : Disk) :
    (s.forget c id item size disk).all.length + 1 = s.all.length := by
  obtain ⟨hid, before, after, hsplit, hfirst⟩ := find_split found
  have hclass : ((s.removeEntry c id).entries c).length + 1 = (s.entries c).length := by
    rw [(removeEntry_split hsplit hid hfirst).1, hsplit]
    simp only [List.length_append, List.length_cons]
    omega
  have hother : ∀ c', c' ≠ c → (s.removeEntry c id).entries c' = s.entries c' :=
    fun c' hc' => removeEntry_of_ne s id hc'
  simp only [Store.all, forget_entries, classes, List.flatMap_cons, List.flatMap_nil,
    List.length_append, List.length_nil]
  rcases (by simpa [classes] using valid) with rfl | rfl | rfl | rfl
  all_goals
    simp only [ne_eq, reduceCtorEq, not_false_eq_true, hother]
    omega

namespace Coherent

/-- Eviction keeps the store coherent and the audit class whole. -/
lemma makeCapacityLoop (c : DataClass) (needed : Nat) (turns : Nat) (h : Coherent J T log s) :
    (∃ log', Coherent J T log' (Store.makeCapacityLoop J c needed turns s).2) ∧
      Shrinks s (Store.makeCapacityLoop J c needed turns s).2 := by
  induction turns generalizing s log with
  | zero => exact ⟨⟨log, h⟩, (SameQueue.refl s).shrinks⟩
  | succ turns ih =>
    rw [Store.makeCapacityLoop]
    split
    · exact ⟨⟨log, h⟩, (SameQueue.refl s).shrinks⟩
    rcases hcandidate : s.evictionCandidate with _ | candidate
    · simp only
      split
      · exact ⟨⟨log, { h with index := ⟨h.index.increasing, h.index.sound, h.index.complete,
          h.index.bounded⟩ }⟩, ⟨fun _ => .refl _, rfl, rfl, rfl, rfl⟩⟩
      · exact ⟨⟨log, h⟩, (SameQueue.refl s).shrinks⟩
    obtain ⟨c', hne, hmem⟩ := evictionCandidate_some hcandidate
    obtain ⟨rfl, -⟩ := h.index.sound hmem
    obtain ⟨log', hcoherent⟩ := h.delete candidate.dataClass candidate.batch.id
    have hshrinks : Shrinks s (s.delete J candidate.dataClass candidate.batch.id).2 :=
      h.delete_shrinks hne candidate.batch.id
    simp only
    cases hdelete : s.delete J candidate.dataClass candidate.batch.id with
    | mk result s' =>
      rw [hdelete] at hcoherent hshrinks
      rcases result with err | _
      · exact ⟨⟨log', hcoherent⟩, hshrinks⟩
      obtain ⟨hlog, hrest⟩ := ih hcoherent
      exact ⟨hlog, hshrinks.trans hrest⟩

/-- The bound on the turns is never what ends the loop: every turn deletes an
entry. -/
lemma makeCapacityLoop_bounded (c : DataClass) (needed : Nat) (turns : Nat) (h : Coherent J T log s)
    (enough : s.all.length < turns) :
    (Store.makeCapacityLoop J c needed turns s).1 ≠ .error .unbounded := by
  induction turns generalizing s log with
  | zero => omega
  | succ turns ih =>
    rw [Store.makeCapacityLoop]
    split
    · simp
    rcases hcandidate : s.evictionCandidate with _ | candidate
    · simp only
      split <;> simp
    obtain ⟨c', hne, hmem⟩ := evictionCandidate_some hcandidate
    obtain ⟨rfl, -⟩ := h.index.sound hmem
    have hvalid : candidate.dataClass ∈ classes :=
      mem_classes.mpr (h.entry_valid hmem).dataClass
    simp only
    rcases delete_cases J s candidate.dataClass candidate.batch.id with
      ⟨hfind, -⟩ | ⟨item, err, -, hrewrite, hdelete⟩ |
      ⟨item, size, disk, hfind, hrewrite, hdelete⟩
    · obtain ⟨item, hitem⟩ := find_of_mem hmem
      rw [hfind] at hitem
      cases hitem
    · rw [hdelete]
      rintro ⟨⟩
      rcases rewriteWithout_error hrewrite with same | same <;> cases same
    · rw [hdelete]
      have hlen := length_forget hvalid hfind size disk
      exact ih (h.forget hfind hrewrite) (by omega)

end Coherent

end DBPilot.Spool
