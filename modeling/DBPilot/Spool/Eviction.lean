import DBPilot.Spool.Audit

/-!
# Eviction

Every turn of `makeCapacity` looks for the next entry to evict in the queue that
the turn before has changed. The entries taken are nevertheless those at the head
of one order of the queue the loop started from, and as few as will do. When the
new record does not fit at all, everything that can be evicted has been.
-/

namespace DBPilot.Spool

open SegmentedLog KeyedSort

variable {J : Json} {T : Tails} {log : Log Record} {s s' : Store} {c : DataClass} {e : Entry} {needed k : Nat}

namespace Store

/-- The entries that may be evicted: by class, then by priority, then by sequence. -/
def evictionOrder (s : Store) : List Entry :=
  [DataClass.metric, .log, .jobResult].flatMap fun c => (s.entries c).insertionSort evictsBefore

def without (s : Store) (removed : List Entry) : Store :=
  { s with entries := fun c => (s.entries c).filter (· ∉ removed) }

/-- The store has room for a record of `needed` bytes. -/
def Fits (s : Store) (needed : Nat) : Prop := (s.usedBytes + needed : Int) ≤ s.limits.maxBytes

end Store

instance : Std.Total Store.evictsBefore := ⟨fun a b => by unfold Store.evictsBefore; omega⟩

instance : IsTrans Entry Store.evictsBefore := ⟨fun a b c => by unfold Store.evictsBefore; omega⟩

lemma evictionCandidate_eq (s : Store) : s.evictionCandidate = s.evictionOrder.head? :=
  List.head?_flatMap.symm

lemma mem_evictionOrder : e ∈ s.evictionOrder ↔ ∃ c ∈ [DataClass.metric, .log, .jobResult], e ∈ s.entries c := by
  simp [Store.evictionOrder]

/-- Both read nothing but the queue. -/
lemma usedBytes_congr (same : s'.entries = s.entries) : s'.usedBytes = s.usedBytes := by
  rw [Store.usedBytes, Store.all, same]
  rfl

lemma evictionOrder_congr (same : s'.entries = s.entries) : s'.evictionOrder = s.evictionOrder := by
  rw [Store.evictionOrder, same]
  rfl

lemma without_without (s : Store) (l l' : List Entry) :
    ((s.without l).without l').entries = (s.without (l ++ l')).entries := by
  funext c
  simp only [Store.without, List.filter_filter]
  apply List.filter_congr
  intro e _
  simp [Bool.and_comm]

lemma without_nil (s : Store) : (s.without []).entries = s.entries := by
  funext c
  simp [Store.without]

namespace Coherent

section

variable (h : Coherent J T log s)
include h

lemma nodup_evictionOrder : s.evictionOrder.Nodup := by
  have distinct : [DataClass.metric, .log, .jobResult].Nodup := by decide
  refine List.nodup_flatMap.mpr ⟨fun c _ => ?_, distinct.imp ?_⟩
  · exact (List.perm_insertionSort _ _).nodup_iff.mpr (h.index.increasing c).nodup
  · intro c c' other e held held'
    obtain ⟨rfl, -⟩ := h.index.sound ((List.mem_insertionSort _).mp held)
    obtain ⟨same, -⟩ := h.index.sound ((List.mem_insertionSort _).mp held')
    exact other same

lemma evictionOrder_without (removed : List Entry) :
    (s.without removed).evictionOrder = s.evictionOrder.filter (· ∉ removed) := by
  simp only [Store.evictionOrder, List.filter_flatMap]
  congr 1
  funext c
  refine insertionSort_filter ?_ _
  intro a ha b hb hab hba
  refine (h.index.increasing c).key_inj ha hb ?_
  unfold Store.evictsBefore at hab hba
  omega

lemma entry_of_ident {c' : DataClass} {e' : Entry} (he : e ∈ s.entries c) (he' : e' ∈ s.entries c')
    (classes : e.dataClass = e'.dataClass) (ids : e.batch.id = e'.batch.id) : e = e' := by
  obtain ⟨-, same⟩ := h.wf.ident_inj (h.index.sound he).2 (h.index.sound he').2 (Prod.ext classes ids)
  exact h.index.entry_unique h.wf he he' (congrArg Record.sequence same)

/-- A turn evicts the first entry of the order, and no other. -/
lemma delete_evicts {rest : List Entry} (first : s.evictionOrder = e :: rest)
    (deleted : s.delete J e.dataClass e.batch.id = (.ok (), s')) :
    s'.entries = (s.without [e]).entries ∧ s'.limits = s.limits ∧ ∃ log', Coherent J T log' s' := by
  obtain ⟨c, -, he⟩ := mem_evictionOrder.mp (first ▸ List.mem_cons_self : e ∈ s.evictionOrder)
  obtain ⟨rfl, -⟩ := h.index.sound he
  rcases delete_cases J s e.dataClass e.batch.id with ⟨absent, -⟩ | ⟨_, _, -, -, failed⟩ |
    ⟨item, size, disk, found, rewrite, done⟩
  · obtain ⟨item, found⟩ := find_of_mem he
    rw [absent] at found
    cases found
  · rw [failed] at deleted
    cases deleted
  rw [done] at deleted
  cases deleted
  obtain ⟨-, member, classes⟩ := h.mem_of_find found
  obtain rfl := h.entry_of_ident member he classes (find_split found).1
  refine ⟨?_, by simp, _, h.forget found rewrite⟩
  funext c
  rw [forget_entries]
  refine ((h.index.increasing c).sublist (removeEntry_sublist s _ _ c)).ext
    ((h.index.increasing c).sublist List.filter_sublist) ?_
  intro e'
  rw [h.mem_removeEntry found]
  simp only [Store.without, List.mem_filter, List.mem_singleton, decide_eq_true_eq]
  constructor
  · rintro ⟨held, other⟩
    exact ⟨held, fun same => other (congrArg Entry.sequence same)⟩
  · rintro ⟨held, other⟩
    exact ⟨held, fun same => other (h.index.entry_unique h.wf held member same)⟩

end

end Coherent

/-- The first `k` entries of the eviction order are gone, and with fewer gone the
record did not fit. -/
structure Evicts (s s' : Store) (needed k : Nat) : Prop where
  entries : s'.entries = (s.without (s.evictionOrder.take k)).entries
  limits : s'.limits = s.limits
  needy : ∀ j < k, ¬ (s.without (s.evictionOrder.take j)).Fits needed

lemma Evicts.none (entries : s'.entries = s.entries) (limits : s'.limits = s.limits) : Evicts s s' needed 0 :=
  ⟨by rw [entries, List.take_zero, without_nil], limits, by simp⟩

section

variable {s₁ : Store} {rest : List Entry} (h : Coherent J T log s) (first : s.evictionOrder = e :: rest)
  (taken : s₁.entries = (s.without [e]).entries)
include h first taken

/-- The order of the next turn is what is left of this one's. -/
lemma Coherent.evictionOrder_next : s₁.evictionOrder = rest := by
  have fresh := h.nodup_evictionOrder
  rw [evictionOrder_congr taken, h.evictionOrder_without]
  rw [first] at fresh ⊢
  rw [List.filter_cons_of_neg (by simp), List.filter_eq_self]
  intro x hx
  have other : x ≠ e := fun same => (List.nodup_cons.mp fresh).1 (same ▸ hx)
  simpa using other

lemma Evicts.turn (tight : ¬ s.Fits needed) (limits : s₁.limits = s.limits) (evicts : Evicts s₁ s' needed k) :
    Evicts s s' needed (k + 1) := by
  have later : ∀ j, (s₁.without (rest.take j)).entries = (s.without (s.evictionOrder.take (j + 1))).entries := by
    intro j
    rw [first, List.take_succ_cons, ← List.singleton_append, ← without_without]
    funext c
    simp only [Store.without, taken]
  have order := h.evictionOrder_next first taken
  refine ⟨?_, evicts.limits.trans limits, ?_⟩
  · rw [evicts.entries, order, later]
  · intro j less
    cases j with
    | zero =>
      intro fits
      apply tight
      rwa [Store.Fits, List.take_zero, usedBytes_congr (without_nil s)] at fits
    | succ j =>
      have needy := evicts.needy j (by omega)
      rw [order, Store.Fits, usedBytes_congr (later j)] at needy
      exact fun fits => needy (limits ▸ fits)

end

lemma Coherent.makeCapacityLoop_evicts (h : Coherent J T log s) (c : DataClass) (needed turns : Nat) :
    ∃ k, Evicts s (Store.makeCapacityLoop J c needed turns s).2 needed k ∧
      ((Store.makeCapacityLoop J c needed turns s).1 = .ok () →
        (Store.makeCapacityLoop J c needed turns s).2.Fits needed) ∧
      ∀ err, (Store.makeCapacityLoop J c needed turns s).1 = .error err → err.Capacity →
        s.evictionOrder.length ≤ k := by
  induction turns generalizing s log with
  | zero =>
    refine ⟨0, .none rfl rfl, by simp [Store.makeCapacityLoop], ?_⟩
    rintro err ⟨⟩ capacity
    exact absurd capacity (by decide)
  | succ turns ih =>
    rw [Store.makeCapacityLoop]
    split
    · rename_i fits
      exact ⟨0, .none rfl rfl, fun _ => fits, by simp⟩
    rename_i tight
    rw [evictionCandidate_eq]
    cases order : s.evictionOrder with
    | nil =>
      refine ⟨0, ?_, ?_⟩
      · simp only [List.head?_nil]
        split <;> exact .none rfl rfl
      · simp only [List.head?_nil, List.length_nil]
        refine ⟨?_, fun _ _ _ => Nat.le_refl 0⟩
        split <;> simp
    | cons e =>
      simp only [List.head?_cons]
      cases deleted : s.delete J e.dataClass e.batch.id with
      | mk result s₁ =>
        cases result with
        | error err =>
          rcases delete_cases J s e.dataClass e.batch.id with ⟨-, done⟩ | ⟨item, failure, -, rewrite, done⟩ |
            ⟨_, _, _, -, -, done⟩
          all_goals
            rw [deleted] at done
            cases done
          refine ⟨0, .none rfl rfl, by simp, ?_⟩
          rintro err ⟨⟩ capacity
          rcases rewriteWithout_error rewrite with rfl | rfl <;> exact absurd capacity (by decide)
        | ok _ =>
          obtain ⟨taken, limits, log₁, h₁⟩ := h.delete_evicts order deleted
          obtain ⟨k, evicts, fits, rejects⟩ := ih h₁
          refine ⟨k + 1, evicts.turn h order taken tight limits, fits, ?_⟩
          intro err failed capacity
          have all := rejects err failed capacity
          rw [h.evictionOrder_next order taken] at all
          exact Nat.succ_le_succ all

/-! ## The append that makes room -/

lemma sealActive_cases (s : Store) :
    s.sealActive.2.usedBytes = s.usedBytes ∧ s.sealActive.2.limits = s.limits ∧
      ∀ err, s.sealActive.1 = .error err → ¬ err.Capacity := by
  have relabelled : ∀ f g, (s.relabel f g).usedBytes = s.usedBytes := by
    intro f g
    simp only [Store.usedBytes, Store.all, Store.relabel, List.map_flatMap, List.map_map]
    congr 3
    funext c
    apply List.map_congr_left
    intro e _
    simp only [Function.comp_apply]
    split <;> rfl
  unfold Store.sealActive
  split
  · exact ⟨rfl, rfl, by rintro err ⟨⟩⟩
  · split
    · exact ⟨rfl, rfl, by rintro err ⟨⟩⟩
    · dsimp only
      split
      · exact ⟨rfl, rfl, by rintro err ⟨⟩; decide⟩
      · exact ⟨relabelled _ _, rfl, by rintro err ⟨⟩⟩

variable {batch : Batch} {receipt : Option PersistedCursorReceipt} {err : SpoolError}

lemma reserve_cases (h : Coherent J T log s) (c : DataClass) (size : Nat) :
    (s.reserve J c size).1 = ((s.rotate size).2.makeCapacity J c size).1 ∧
      (s.reserve J c size).2.entries = ((s.rotate size).2.makeCapacity J c size).2.entries ∧
      (s.reserve J c size).2.limits = ((s.rotate size).2.makeCapacity J c size).2.limits := by
  obtain ⟨rotates, -⟩ := h.rotate size
  unfold Store.reserve
  cases rotated : s.rotate size with
  | mk result s₁ =>
    rw [rotated] at rotates
    subst rotates
    dsimp only
    cases made : s₁.makeCapacity J c size with
    | mk result s₂ =>
      cases result with
      | error err => exact ⟨rfl, rfl, rfl⟩
      | ok _ =>
        refine ⟨rfl, ?_, nameActive_limits s₂⟩
        dsimp only
        rw [Store.nameActive]
        split <;> rfl

/-- What is published has been enqueued. -/
lemma publish_cases {item : Entry} (valid : validClass item.dataClass = true) :
    (∀ err, (s.publish J item receipt).1 = .error err → ¬ err.Capacity) ∧
      ∀ answer, (s.publish J item receipt).1 = .ok answer →
        (s.publish J item receipt).2.usedBytes = s.usedBytes + item.bytes ∧
          (s.publish J item receipt).2.limits = s.limits := by
  unfold Store.publish
  cases commits : Store.commit J s.disk item receipt with
  | none => exact ⟨by rintro err ⟨⟩; decide, by rintro answer ⟨⟩⟩
  | some disk =>
    have used := Coherent.usedBytes_enqueue s valid disk
    dsimp only
    split
    · obtain ⟨same, limits, failure⟩ := sealActive_cases (s.enqueue item disk)
      cases seals : (s.enqueue item disk).sealActive with
      | mk result s₁ =>
        rw [seals] at same limits failure
        cases result with
        | error err =>
          refine ⟨?_, by rintro answer ⟨⟩⟩
          rintro err ⟨⟩
          exact failure err rfl
        | ok _ => exact ⟨(by rintro err ⟨⟩), fun _ _ => ⟨same.trans used, limits⟩⟩
    · exact ⟨(by rintro err ⟨⟩), fun _ _ => ⟨used, rfl⟩⟩

/-- What is stored has found room. -/
lemma Coherent.append_fits (h : Coherent J T log s)
    (stored : s.append J c batch receipt .complete = (.ok .stored, s')) :
    (s'.usedBytes : Int) ≤ s'.limits.maxBytes := by
  rcases append_cases J s c batch receipt .complete with ⟨_, failed, -⟩ | ⟨-, same⟩ |
    ⟨encoded, s₁, valid, -, -, ⟨_, -, failed⟩ | ⟨reserves, done⟩⟩
  · rw [failed] at stored
    cases stored
  · rw [same] at stored
    cases stored
  · rw [failed] at stored
    cases stored
  obtain ⟨-, ⟨log₁, h₁⟩, -⟩ := h.rotate encoded.length
  obtain ⟨made, entries, limits⟩ := reserve_cases h c encoded.length
  obtain ⟨k, -, fits, -⟩ := h₁.makeCapacityLoop_evicts c encoded.length ((s.rotate encoded.length).2.all.length + 1)
  rw [reserves] at made entries limits
  have room := fits made.symm
  rw [Store.Fits, ← Store.makeCapacity, ← usedBytes_congr entries, ← limits] at room
  rw [done] at stored
  dsimp only at stored room
  obtain ⟨used, kept⟩ := (publish_cases valid.1).2 _ (congrArg Prod.fst stored)
  rw [stored] at used kept
  rw [used, kept]
  exact room

/-- In every reachable store `makeCapacity` comes to an end. When it succeeds, it
has evicted the shortest head of the eviction order that makes room and left the
rest of the queue in its order, and what `Append` stores then stays within the
limit. A repetition is answered without a look at the limit. -/
theorem eviction_minimal (J : Json) (s : Store) (reachable : Reachable J (.up s)) (c : DataClass) (needed : Nat) :
    (s.makeCapacity J c needed).1 ≠ .error .unbounded ∧
    ((s.makeCapacity J c needed).1 = .ok () → ∃ k,
      (s.makeCapacity J c needed).2.entries = (s.without (s.evictionOrder.take k)).entries ∧
      (s.without (s.evictionOrder.take k)).Fits needed ∧
      ∀ j < k, ¬ (s.without (s.evictionOrder.take j)).Fits needed) ∧
    ∀ batch receipt s', s.append J c batch receipt .complete = (.ok .stored, s') →
      (s'.usedBytes : Int) ≤ s'.limits.maxBytes := by
  obtain ⟨log, h⟩ := sound_of_reachable reachable
  refine ⟨h.makeCapacityLoop_bounded c needed _ (Nat.lt_succ_self _), ?_, fun _ _ _ => h.append_fits⟩
  intro made
  obtain ⟨k, evicts, fits, -⟩ := h.makeCapacityLoop_evicts c needed (s.all.length + 1)
  have room := fits made
  rw [Store.Fits, usedBytes_congr evicts.entries, evicts.limits] at room
  exact ⟨k, evicts.entries, room, evicts.needy⟩

/-- The one batch of the sample store makes room for a record as large as the spool. -/
theorem eviction_minimal_storeA :
    (storeA.makeCapacity sampleJson .metric (2 ^ 20)).1 = .ok () ∧ ∃ k,
      (storeA.makeCapacity sampleJson .metric (2 ^ 20)).2.entries =
        (storeA.without (storeA.evictionOrder.take k)).entries ∧
      (storeA.without (storeA.evictionOrder.take k)).Fits (2 ^ 20) ∧
      ∀ j < k, ¬ (storeA.without (storeA.evictionOrder.take j)).Fits (2 ^ 20) := by
  have made : (storeA.makeCapacity sampleJson .metric (2 ^ 20)).1 = .ok () := by decide +kernel
  exact ⟨made, (eviction_minimal sampleJson storeA storeA_reachable .metric (2 ^ 20)).2.1 made⟩

set_option maxRecDepth 100000 in
/-- A root reopened with a smaller limit: the repetition of a pending batch
succeeds, and the spool holds more than the limit. -/
theorem repetition_beyond_limit : ∃ s : Store, Reachable sampleJson (.up s) ∧
    (s.append sampleJson .log (sampleBatch "a") none .complete).1 = .ok .duplicate ∧
    (s.append sampleJson .log (sampleBatch "a") none .complete).2.limits.maxBytes <
      (s.append sampleJson .log (sampleBatch "a") none .complete).2.usedBytes := by
  obtain ⟨d, es, vacant, run⟩ := storeA_reachable
  have opens : ∃ s, openSpool sampleJson ⟨1, 2 ^ 20⟩ sampleOrder storeA.close.2 = .ok s ∧
      (s.append sampleJson .log (sampleBatch "a") none .complete).1 = .ok .duplicate ∧
      (s.append sampleJson .log (sampleBatch "a") none .complete).2.limits.maxBytes <
        (s.append sampleJson .log (sampleBatch "a") none .complete).2.usedBytes :=
    ⟨_, rfl, rfl, by decide +kernel⟩
  obtain ⟨s, opens, facts⟩ := opens
  exact ⟨s, ⟨d, _, vacant, run.append (.cons (.close storeA) (.single (.opened opens)))⟩, facts⟩

/-! ## The append that finds no room -/

/-- By the time an append is rejected, everything that can be evicted has been. -/
lemma Coherent.append_rejected (h : Coherent J T log s)
    (rejected : (s.append J c batch receipt .complete).1 = .error err) (capacity : err.Capacity) :
    ∃ s₀, SameQueue s s₀ ∧
      (s.append J c batch receipt .complete).2.entries = (s₀.without s₀.evictionOrder).entries := by
  rcases append_cases J s c batch receipt .complete with ⟨_, failed, harmless⟩ | ⟨-, same⟩ |
    ⟨encoded, s₁, valid, -, -, ⟨_, reserves, failed⟩ | ⟨reserves, done⟩⟩
  · rw [failed] at rejected
    cases rejected
    exact absurd capacity harmless
  · rw [same] at rejected
    cases rejected
  · obtain ⟨-, ⟨log₀, h₀⟩, queue⟩ := h.rotate encoded.length
    obtain ⟨made, entries, -⟩ := reserve_cases h c encoded.length
    obtain ⟨k, evicts, -, all⟩ := h₀.makeCapacityLoop_evicts c encoded.length
      ((s.rotate encoded.length).2.all.length + 1)
    rw [failed] at rejected ⊢
    cases rejected
    rw [reserves] at made entries
    refine ⟨_, queue, ?_⟩
    rw [auditIOFailure_entries, entries, Store.makeCapacity, evicts.entries,
      List.take_of_length_le (all _ made.symm capacity)]
  · rw [done] at rejected
    exact absurd capacity ((publish_cases valid.1).1 _ rejected)

/-- A rejected append leaves the pending batches as they were exactly when there
was nothing to evict. -/
theorem rejected_append_keeps_iff (J : Json) (s : Store) (reachable : Reachable J (.up s)) (c : DataClass)
    (batch : Batch) (receipt : Option PersistedCursorReceipt) (err : SpoolError)
    (rejected : (s.append J c batch receipt .complete).1 = .error err) (capacity : err.Capacity) :
    (∀ c' limit, (s.append J c batch receipt .complete).2.pending c' limit = s.pending c' limit) ↔
      ∀ c' ∈ [DataClass.metric, .log, .jobResult], s.pending c' 0 = .ok [] := by
  obtain ⟨log, h⟩ := sound_of_reachable reachable
  obtain ⟨s₀, queue, entries⟩ := h.append_rejected rejected capacity
  have valid : ∀ c' ∈ [DataClass.metric, .log, .jobResult], validClass c' = true := by decide
  constructor
  · intro same c' evictable
    rw [← same, pending_all (valid c' evictable), Store.records, entries]
    suffices gone : (s₀.without s₀.evictionOrder).entries c' = [] by rw [gone]; rfl
    refine List.filter_eq_nil_iff.mpr fun e held => ?_
    simpa using mem_evictionOrder.mpr ⟨c', evictable, held⟩
  · intro empty c' limit
    have order : s₀.evictionOrder = [] := by
      refine List.eq_nil_iff_forall_not_mem.mpr fun e listed => ?_
      obtain ⟨c', evictable, held⟩ := mem_evictionOrder.mp listed
      have before := empty c' evictable
      rw [pending_all (valid c' evictable), ← queue.records, Except.ok.injEq, List.map_eq_nil_iff] at before
      have none : e.record ∈ s₀.records c' := List.mem_map_of_mem held
      rw [before] at none
      cases none
    apply pending_eq_of_records
    rw [Store.records, entries, order, without_nil]
    exact queue.records c'

/-- An empty spool with a limit of its own. -/
def sampleLimited (maxBytes : Int) : Store := { sampleOpened with limits := ⟨maxBytes, 2 ^ 20⟩ }

lemma sampleLimited_opens {maxBytes : Int} (positive : 0 < maxBytes) :
    Move sampleJson (.down Disk.empty) .opened (.up (sampleLimited maxBytes)) := by
  have limits : ¬ (maxBytes ≤ 0 ∨ (2 ^ 20 : Int) ≤ 0) := by omega
  have opens : openSpool sampleJson ⟨maxBytes, 2 ^ 20⟩ sampleOrder Disk.empty = .ok (sampleLimited maxBytes) := by
    rw [openSpool, if_neg limits]
    rfl
  exact .opened opens

/-- A record that does not fit is rejected by an empty spool, and nothing is lost. -/
theorem rejected_append_keeps_empty :
    (((sampleLimited 100).append sampleJson .log (sampleBatch "a") none .complete).1 = .error .capacityExhausted) ∧
    ∀ c' limit, ((sampleLimited 100).append sampleJson .log (sampleBatch "a") none .complete).2.pending c' limit =
      (sampleLimited 100).pending c' limit := by
  have rejected : ((sampleLimited 100).append sampleJson .log (sampleBatch "a") none .complete).1 =
      .error .capacityExhausted := by decide +kernel
  have reachable : Reachable sampleJson (.up (sampleLimited 100)) :=
    ⟨Disk.empty, _, vacant_empty, .single (sampleLimited_opens (by decide))⟩
  exact ⟨rejected, (rejected_append_keeps_iff sampleJson _ reachable .log (sampleBatch "a") none _ rejected
    (by decide)).mpr (by decide)⟩

/-- A spool that one record of the sample fills. -/
def storeTight : Store := ((sampleLimited 136).step sampleJson (.append .log (sampleBatch "a"))).2

/-- A record that does not fit even into the empty spool is rejected, and the
pending batch is gone. -/
theorem rejected_append_evicts : Reachable sampleJson (.up storeTight) ∧
    (storeTight.append sampleJson .log (sampleBatch "bb") none .complete).1 = .error .capacityExhausted ∧
    storeTight.pending .log 0 = .ok [sampleBatch "a"] ∧
    (storeTight.append sampleJson .log (sampleBatch "bb") none .complete).2.pending .log 0 = .ok [] := by
  have stored : Move sampleJson (.up (sampleLimited 136)) _ (.up storeTight) :=
    .call (sampleLimited 136) (.append .log (sampleBatch "a"))
  refine ⟨⟨Disk.empty, _, vacant_empty, .cons (sampleLimited_opens (by decide)) (.single stored)⟩, ?_⟩
  exact ⟨by decide +kernel, by decide +kernel, by decide +kernel⟩

end DBPilot.Spool
