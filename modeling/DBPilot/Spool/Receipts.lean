import DBPilot.Spool.Lifetime

/-!
# Cursor receipts

The receipt of a producer is kept twice: in the receipt bucket and in the header
of every record that carried it. A record's cursor is covered by the bucket when
the bucket holds the same receipt or a later one; while a store is up every
cursor is covered, and `Open` either covers them all or fails.
-/

namespace DBPilot.Spool

open WallClock

/-! ## Loading -/

variable {value : PersistedCursorReceipt} {encoded : Bytes}

section Load
variable {J : Json} {receipts : String → Option Bytes}

/-- What the bucket returns is always a receipt of the current version. -/
lemma load_current {key : String} (h : loadCursorReceipt J receipts key = .ok (some value)) : value.Current := by
  rw [loadCursorReceipt] at h
  split at h
  · cases h
  split at h
  · cases h
  · rename_i encoded _ checked hchecked
    cases h
    obtain ⟨decoded, -, hvalid⟩ := Option.bind_eq_some_iff.mp hchecked
    rw [validPersistedCursorReceipt] at hvalid
    split at hvalid
    · split at hvalid
      · rename_i hok
        cases hvalid
        exact ⟨hok.1, hok.2, rfl⟩
      · cases hvalid
    · cases hvalid

lemma load_installed (current : value.Current)
    (marshals : J.marshalCursor value = some encoded) (key : String) :
    loadCursorReceipt J (Function.update receipts key (some encoded)) key = .ok (some value) := by
  have hdecode : (J.unmarshalCursor encoded).bind validPersistedCursorReceipt = some value := by
    rw [J.cursor_roundTrip marshals, Option.bind_some]
    simp [validPersistedCursorReceipt, current.version, current.valid]
  simp [loadCursorReceipt, hdecode, clonePersistedCursor_of_current current]

lemma load_update_of_ne {key key' : String} (h : key' ≠ key) (encoded : Option Bytes) :
    loadCursorReceipt J (Function.update receipts key encoded) key' =
      loadCursorReceipt J receipts key' := by
  simp [loadCursorReceipt, Function.update_of_ne h]

end Load

/-! ## Covered cursors -/

/-- The same receipt, whatever its acknowledgement flag and time zone. -/
def SameReceipt (a b : PersistedCursorReceipt) : Prop :=
  a.sequence = b.sequence ∧ a.digest = b.digest ∧ a.collectedAt.instant = b.collectedAt.instant

/-- `later` may replace `earlier` in the bucket. -/
def Follows (earlier later : PersistedCursorReceipt) : Prop :=
  earlier.sequence < later.sequence ∧ earlier.collectedAt.instant ≤ later.collectedAt.instant

/-- The bucket holds the receipt or a later one. -/
def Covered (J : Json) (receipts : String → Option Bytes) (cursor : PersistedCursorReceipt) : Prop :=
  ∃ current, loadCursorReceipt J receipts cursor.key = .ok (some current) ∧
    (cursor.sequence < current.sequence ∨ SameReceipt cursor current)

/-- The bucket holds a later receipt. -/
def Stale (J : Json) (receipts : String → Option Bytes) (cursor : PersistedCursorReceipt) : Prop :=
  ∃ current, loadCursorReceipt J receipts cursor.key = .ok (some current) ∧ cursor.sequence < current.sequence

/-- The bucket does not know the receipt yet. -/
def Ahead (J : Json) (receipts : String → Option Bytes) (cursor : PersistedCursorReceipt) : Prop :=
  loadCursorReceipt J receipts cursor.key = .ok none ∨
    ∃ current, loadCursorReceipt J receipts cursor.key = .ok (some current) ∧ Follows current cursor

/-- Receipts only move forward: a later bucket holds for every key the same
receipt or one that follows it. -/
def Advances (J : Json) (before after : String → Option Bytes) : Prop :=
  ∀ key value, loadCursorReceipt J before key = .ok (some value) →
    ∃ value', loadCursorReceipt J after key = .ok (some value') ∧ (SameReceipt value value' ∨ Follows value value')

lemma Advances.refl (J : Json) (receipts : String → Option Bytes) : Advances J receipts receipts :=
  fun _ value h => ⟨value, h, .inl ⟨rfl, rfl, rfl⟩⟩

variable {J : Json}

lemma Advances.trans {a b c : String → Option Bytes} (first : Advances J a b) (second : Advances J b c) : Advances J a c := by
  intro key value hvalue
  obtain ⟨value', hvalue', hstep⟩ := first key value hvalue
  obtain ⟨value'', hvalue'', hstep'⟩ := second key value' hvalue'
  refine ⟨value'', hvalue'', ?_⟩
  rcases hstep with ⟨hseq, hdigest, hat⟩ | ⟨hseq, hat⟩
  · rcases hstep' with ⟨hseq', hdigest', hat'⟩ | ⟨hseq', hat'⟩
    · exact .inl ⟨hseq.trans hseq', hdigest.trans hdigest', hat.trans hat'⟩
    · exact .inr ⟨by omega, by omega⟩
  · rcases hstep' with ⟨hseq', -, hat'⟩ | ⟨hseq', hat'⟩
    · exact .inr ⟨by omega, by omega⟩
    · exact .inr ⟨by omega, by omega⟩

variable {receipts : String → Option Bytes}

/-- Replacing one receipt by the same or a following one. -/
lemma advances_update {key : String} (current : value.Current)
    (marshals : J.marshalCursor value = some encoded)
    (forward : ∀ old, loadCursorReceipt J receipts key = .ok (some old) → SameReceipt old value ∨ Follows old value) :
    Advances J receipts (Function.update receipts key (some encoded)) := by
  intro key' old hold
  by_cases hkey : key' = key
  · subst hkey
    exact ⟨value, load_installed current marshals key', forward old hold⟩
  · exact ⟨old, by rw [load_update_of_ne hkey]; exact hold, .inl ⟨rfl, rfl, rfl⟩⟩

variable {cursor : PersistedCursorReceipt}

lemma Covered.advance {before after : String → Option Bytes} (h : Covered J before cursor)
    (advances : Advances J before after) : Covered J after cursor := by
  obtain ⟨current, hcurrent, hcover⟩ := h
  obtain ⟨current', hcurrent', hstep⟩ := advances _ _ hcurrent
  refine ⟨current', hcurrent', ?_⟩
  rcases hcover with hlt | ⟨hseq, hdigest, hat⟩
  · rcases hstep with ⟨hseq', -, -⟩ | ⟨hseq', -⟩
    · exact .inl (by omega)
    · exact .inl (by omega)
  · rcases hstep with ⟨hseq', hdigest', hat'⟩ | ⟨hseq', -⟩
    · exact .inr ⟨hseq.trans hseq', hdigest.trans hdigest', hat.trans hat'⟩
    · exact .inl (by omega)

lemma Ahead.follows (h : Ahead J receipts cursor)
    (hvalue : loadCursorReceipt J receipts cursor.key = .ok (some value)) : Follows value cursor := by
  rcases h with hnone | ⟨current, hcurrent, hfollows⟩
  · cases hnone.symm.trans hvalue
  · cases hcurrent.symm.trans hvalue
    exact hfollows

lemma Covered.not_ahead (h : Covered J receipts cursor) : ¬ Ahead J receipts cursor := by
  intro hahead
  obtain ⟨current, hcurrent, hcover⟩ := h
  have hlt := (hahead.follows hcurrent).1
  rcases hcover with hle | ⟨hseq, -, -⟩ <;> omega

lemma covered_installed (current : value.Current)
    (marshals : J.marshalCursor value = some encoded) :
    Covered J (Function.update receipts value.key (some encoded)) value :=
  ⟨value, load_installed current marshals value.key, .inr ⟨rfl, rfl, rfl⟩⟩

/-- The acknowledgement flag of a cursor does not matter to any of these. -/
@[simp] lemma covered_withAck {a : Bool} :
    Covered J receipts (cursor.withAck a) ↔ Covered J receipts cursor := Iff.rfl

@[simp] lemma stale_withAck {a : Bool} : Stale J receipts (cursor.withAck a) ↔ Stale J receipts cursor := Iff.rfl

@[simp] lemma ahead_withAck {a : Bool} : Ahead J receipts (cursor.withAck a) ↔ Ahead J receipts cursor := Iff.rfl

/-- What the fence lets through is ahead of the bucket, and the bucket's receipt
has been acknowledged. -/
lemma checkCursor_none {s : Store} (h : s.checkCursor J value = .ok none) : Ahead J s.disk.cursorReceipts value ∧
      ∀ current, loadCursorReceipt J s.disk.cursorReceipts value.key = .ok (some current) →
        current.sequence < value.sequence ∧ current.ackPending = false := by
  rw [Store.checkCursor] at h
  rcases hload : loadCursorReceipt J s.disk.cursorReceipts value.key with err | answer
  · simp [hload] at h
  rcases answer with _ | current
  · refine ⟨.inl hload, ?_⟩
    intro current hcurrent
    cases hcurrent
  simp only [hload] at h
  split at h
  · cases h
  rename_i hpending
  split at h
  · cases h
  rename_i hconflict
  split at h
  · cases h
  rename_i hsame
  have hlt : current.sequence < value.sequence := by omega
  have hat : ¬ value.collectedAt.before current.collectedAt = true :=
    fun hbefore => hconflict (.inr (.inr ⟨hlt, hbefore⟩))
  have hack : ¬ current.ackPending = true := fun hack => hpending ⟨hack, hlt⟩
  refine ⟨.inr ⟨current, hload, hlt, ?_⟩, ?_⟩
  · simpa [Time.before] using hat
  · intro current' hcurrent'
    cases hcurrent'
    exact ⟨hlt, by simpa using hack⟩

/-! ## The recovery transaction -/

/-- One visit of the transaction that does not fail: the cursor is installed, or
the bucket holds it already. -/
lemma installReceipts_cons_some {item : Entry} {rest : List Entry} (hcursor : item.cursor = some cursor)
    {receipts' : String → Option Bytes} (h : installReceipts J (item :: rest) receipts = .ok receipts') :
    (∃ encoded, J.marshalCursor cursor = some encoded ∧
      (∀ current, loadCursorReceipt J receipts cursor.key = .ok (some current) → current.sequence < cursor.sequence) ∧
      installReceipts J rest (Function.update receipts cursor.key (some encoded)) = .ok receipts') ∨
    (∃ current, loadCursorReceipt J receipts cursor.key = .ok (some current) ∧
      SameReceipt cursor current) ∧ installReceipts J rest receipts = .ok receipts' := by
  simp only [installReceipts, hcursor] at h
  rcases hload : loadCursorReceipt J receipts cursor.key with err | answer
  · simp [hload] at h
  simp only [hload] at h
  split at h
  · cases h
  rename_i hconflict
  split at h
  · rename_i hnewer
    split at h
    · cases h
    · rename_i encoded hmarshal
      refine .inl ⟨encoded, hmarshal, ?_, h⟩
      intro current hcurrent
      cases hcurrent
      simpa using hnewer
  · rename_i hnewer
    rcases answer with _ | current
    · simp at hnewer
    refine .inr ⟨⟨current, rfl, ?_⟩, h⟩
    simp only [Option.any_some, Option.all_some, Bool.or_eq_true, Bool.and_eq_true,
      decide_eq_true_eq, beq_iff_eq, bne_iff_ne, Bool.not_eq_true', not_or, not_and, ne_eq,
      Time.equal, beq_eq_false_iff_ne, not_not] at hconflict hnewer
    have hseq : cursor.sequence = current.sequence := by omega
    exact ⟨hseq, (hconflict.2 hseq).1, (hconflict.2 hseq).2⟩

/-- A transaction over cursors that are covered, or ahead with at most one
receipt per key, moves receipts forward and leaves every cursor covered. -/
theorem installReceipts_advances {items : List Entry} {receipts' : String → Option Bytes}
    (current : ∀ e ∈ items, ∀ cursor, e.cursor = some cursor → cursor.Current)
    (fits : ∀ e ∈ items, ∀ cursor, e.cursor = some cursor → Covered J receipts cursor ∨ Ahead J receipts cursor)
    (agree : ∀ e ∈ items, ∀ e' ∈ items, ∀ cursor cursor', e.cursor = some cursor →
      e'.cursor = some cursor' → Ahead J receipts cursor → Ahead J receipts cursor' →
      SameReceipt cursor cursor')
    (h : installReceipts J items receipts = .ok receipts') :
    Advances J receipts receipts' ∧ ∀ e ∈ items, ∀ cursor, e.cursor = some cursor → Covered J receipts' cursor := by
  induction items generalizing receipts with
  | nil =>
    cases h
    exact ⟨.refl J _, fun e he => by cases he⟩
  | cons item rest ih =>
    obtain ⟨hitem, hcurrent⟩ := List.forall_mem_cons.mp current
    obtain ⟨hfit, hfits⟩ := List.forall_mem_cons.mp fits
    have hagree := fun e he e' he' => agree e (List.mem_cons_of_mem item he) e' (List.mem_cons_of_mem item he')
    have hunchanged (hcovered : ∀ cursor, item.cursor = some cursor → Covered J receipts cursor)
        (hrest : installReceipts J rest receipts = .ok receipts') : Advances J receipts receipts' ∧
          ∀ e ∈ item :: rest, ∀ cursor, e.cursor = some cursor → Covered J receipts' cursor := by
      obtain ⟨hadvances, hcovers⟩ := ih hcurrent hfits hagree hrest
      exact ⟨hadvances, List.forall_mem_cons.mpr ⟨fun cursor hc => (hcovered cursor hc).advance hadvances, hcovers⟩⟩
    rcases hcursor : item.cursor with _ | cursor
    · simp only [installReceipts, hcursor] at h
      exact hunchanged (by simp [hcursor]) h
    rcases installReceipts_cons_some hcursor h with
      ⟨encoded, hmarshal, hnewer, hrest⟩ | ⟨⟨old, hold, hsame⟩, hrest⟩
    · have hahead : Ahead J receipts cursor := by
        refine (hfit cursor hcursor).resolve_left ?_
        rintro ⟨old, hold, hcover⟩
        have := hnewer old hold
        rcases hcover with hlt | ⟨hseq, -, -⟩ <;> omega
      have hcurrently := hitem cursor hcursor
      have hstep := advances_update hcurrently hmarshal fun old hold => .inr (hahead.follows hold)
      have hbehind : ∀ e ∈ rest, ∀ other, e.cursor = some other →
          Ahead J (Function.update receipts cursor.key (some encoded)) other → Ahead J receipts other := by
        intro e he other hother hnow
        rcases hfits e he other hother with hcovered | hthen
        · exact absurd hnow (hcovered.advance hstep).not_ahead
        · exact hthen
      have hinstalled : ∀ e ∈ rest, ∀ other, e.cursor = some other →
          Covered J (Function.update receipts cursor.key (some encoded)) other ∨
            Ahead J (Function.update receipts cursor.key (some encoded)) other := by
        intro e he other hother
        rcases hfits e he other hother with hcovered | hthen
        · exact .inl (hcovered.advance hstep)
        by_cases hkey : other.key = cursor.key
        · have hsame := agree e (List.mem_cons_of_mem item he) item
            List.mem_cons_self other cursor hother hcursor hthen hahead
          refine .inl ⟨cursor, ?_, .inr hsame⟩
          rw [hkey]
          exact load_installed hcurrently hmarshal cursor.key
        · refine .inr ?_
          rwa [Ahead, load_update_of_ne hkey]
      obtain ⟨hadvances, hcovers⟩ := ih hcurrent hinstalled
        (fun e he e' he' other other' hother hother' hnow hnow' => hagree e he e' he' other other'
          hother hother' (hbehind e he other hother hnow) (hbehind e' he' other' hother' hnow')) hrest
      refine ⟨hstep.trans hadvances, List.forall_mem_cons.mpr ⟨?_, hcovers⟩⟩
      intro other hother
      cases hcursor.symm.trans hother
      exact (covered_installed hcurrently hmarshal).advance hadvances
    · refine hunchanged ?_ hrest
      intro other hother
      cases hcursor.symm.trans hother
      exact ⟨old, hold, .inr hsame⟩

end DBPilot.Spool
