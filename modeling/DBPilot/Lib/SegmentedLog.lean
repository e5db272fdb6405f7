import DBPilot.Lib.KeyedSort

/-!
# Segmented logs

A log of sequenced records split into segments: one active segment receives
every new record, and is sealed under the least sequence it holds. Records
leave a segment one at a time; a sealed segment disappears with its last record.
The operations below are the only ways the log changes, and each keeps the
well-formedness that makes sealing under the least sequence collision free.
-/

namespace DBPilot.SegmentedLog

open KeyedSort

universe u v
variable {α : Type u} {κ : Type v}

inductive Segment where
  | active
  | sealed (first : Nat)
  deriving DecidableEq

abbrev Log (α : Type u) := Segment → Option (List α)

/-- Record `a` is stored in segment `f`. -/
def Holds (log : Log α) (f : Segment) (a : α) : Prop := ∃ l, log f = some l ∧ a ∈ l

structure WellFormed (seq : α → Nat) (ident : α → κ) (log : Log α) : Prop where
  increasing : ∀ {f l}, log f = some l → Increasing seq l
  seq_inj : ∀ {f g a b}, Holds log f a → Holds log g b → seq a = seq b → f = g ∧ a = b
  ident_inj : ∀ {f g a b}, Holds log f a → Holds log g b → ident a = ident b → f = g ∧ a = b
  named : ∀ {n a}, Holds log (.sealed n) a → n ≤ seq a
  ordered : ∀ {n a b}, Holds log (.sealed n) a → Holds log .active b → seq a < seq b
  inhabited : ∀ {n l}, log (.sealed n) = some l → l ≠ []

def empty : Log α := fun _ => none

/-- Append a record to the active segment, opening it if needed. -/
def push (log : Log α) (a : α) : Log α :=
  Function.update log .active (some ((log .active).getD [] ++ [a]))

/-- Open the active segment. -/
def touch (log : Log α) : Log α := Function.update log .active (some ((log .active).getD []))

/-- Keep the records of one segment that satisfy `p`; an emptied segment goes. -/
def keep (log : Log α) (f : Segment) (p : α → Bool) : Log α :=
  Function.update log f (match (log f).getD [] |>.filter p with
    | [] => none
    | a :: l => some (a :: l))

/-- Seal the active segment under the name `first`. -/
def promote (log : Log α) (first : Nat) : Log α :=
  Function.update (Function.update log (.sealed first) (log .active)) .active none

/-- Forget whole segments. -/
def restrict (log : Log α) (kept : Segment → Bool) : Log α :=
  fun f => if kept f then log f else none

variable {seq : α → Nat} {ident : α → κ} {log log' : Log α}

variable {f : Segment}

lemma not_holds_of_none (h : log f = none) (a : α) : ¬ Holds log f a := by
  rintro ⟨l, hl, _⟩
  rw [h] at hl
  cases hl

lemma holds_iff_of_some {l : List α} (h : log f = some l) (a : α) : Holds log f a ↔ a ∈ l := by
  constructor
  · rintro ⟨l', hl', ha⟩
    rw [h] at hl'
    cases hl'
    exact ha
  · exact fun ha => ⟨l, h, ha⟩

lemma holds_iff_mem_getD (a : α) : Holds log f a ↔ a ∈ (log f).getD [] := by
  cases h : log f with
  | none => simpa using not_holds_of_none h a
  | some l => simpa using holds_iff_of_some h a

variable {a : α}

lemma holds_push {b : α} : Holds (push log a) f b ↔ Holds log f b ∨ f = .active ∧ b = a := by
  by_cases hf : f = .active
  · subst hf
    simp [holds_iff_mem_getD, push]
  · simp [Holds, push, hf]

lemma holds_touch : Holds (touch log) f a ↔ Holds log f a := by
  by_cases hf : f = .active
  · subst hf
    simp [holds_iff_mem_getD, touch]
  · simp [Holds, touch, hf]

lemma holds_keep {g : Segment} {p : α → Bool} {b : α} : Holds (keep log f p) g b ↔ Holds log g b ∧ (g = f → p b) := by
  by_cases hg : g = f
  · subst hg
    have hfilter : Holds (keep log g p) g b ↔ b ∈ ((log g).getD []).filter p := by
      rw [holds_iff_mem_getD, keep, Function.update_self]
      cases ((log g).getD []).filter p <;> simp
    rw [hfilter, List.mem_filter, holds_iff_mem_getD]
    simp
  · simp [Holds, keep, hg]

lemma holds_promote {first : Nat} {g : Segment} {b : α} (fresh : log (.sealed first) = none) :
    Holds (promote log first) g b ↔ g = .sealed first ∧ Holds log .active b ∨ g ≠ .active ∧ Holds log g b := by
  by_cases hactive : g = .active
  · subst hactive
    simp [Holds, promote]
  · by_cases hsealed : g = .sealed first
    · subst hsealed
      simp [Holds, promote, fresh]
    · simp [Holds, promote, hactive, hsealed]

lemma holds_restrict {kept : Segment → Bool} : Holds (restrict log kept) f a ↔ kept f ∧ Holds log f a := by
  by_cases hk : kept f <;> simp [Holds, restrict, hk]

lemma empty_wellFormed : WellFormed seq ident (empty : Log α) where
  increasing := by intro f l h; cases h
  seq_inj := by rintro f g a b ⟨l, h, _⟩; cases h
  ident_inj := by rintro f g a b ⟨l, h, _⟩; cases h
  named := by rintro n a ⟨l, h, _⟩; cases h
  ordered := by rintro n a b ⟨l, h, _⟩; cases h
  inhabited := by intro n l h; cases h

/-- Dropping records keeps a log well formed as long as no sealed segment is
left behind empty. -/
theorem WellFormed.sublog (wf : WellFormed seq ident log)
    (sub : ∀ {f l'}, log' f = some l' → ∃ l, log f = some l ∧ l'.Sublist l)
    (inhabited : ∀ {n l}, log' (.sealed n) = some l → l ≠ []) :
    WellFormed seq ident log' := by
  have back : ∀ {f a}, Holds log' f a → Holds log f a := by
    rintro f a ⟨l', hl', ha⟩
    obtain ⟨l, hl, hsub⟩ := sub hl'
    exact ⟨l, hl, hsub.subset ha⟩
  refine ⟨?_, fun ha hb => wf.seq_inj (back ha) (back hb),
    fun ha hb => wf.ident_inj (back ha) (back hb), fun ha => wf.named (back ha),
    fun ha hb => wf.ordered (back ha) (back hb), inhabited⟩
  intro f l' hl'
  obtain ⟨l, hl, hsub⟩ := sub hl'
  exact (wf.increasing hl).sublist hsub

lemma keep_eq_some {g : Segment} {p : α → Bool} {l' : List α} (h : keep log f p g = some l') : ∃ l, log g = some l ∧ l'.Sublist l ∧ (g = f → l' ≠ []) := by
  by_cases hg : g = f
  · subst hg
    rw [keep, Function.update_self] at h
    cases hl : log g with
    | none => simp [hl] at h
    | some l =>
      simp only [hl, Option.getD_some] at h
      cases hfilter : l.filter p with
      | nil => simp [hfilter] at h
      | cons =>
        simp only [hfilter, Option.some.injEq] at h
        subst h
        exact ⟨l, rfl, hfilter ▸ List.filter_sublist, fun _ => List.cons_ne_nil _ _⟩
  · rw [keep, Function.update_of_ne hg] at h
    exact ⟨l', h, List.Sublist.refl _, fun heq => absurd heq hg⟩

section

variable (wf : WellFormed seq ident log)
include wf

lemma WellFormed.keep (f : Segment) (p : α → Bool) : WellFormed seq ident (keep log f p) := by
  refine wf.sublog ?_ ?_
  · intro g l' h
    obtain ⟨l, hl, hsub, _⟩ := keep_eq_some h
    exact ⟨l, hl, hsub⟩
  · intro n l' h
    obtain ⟨l, hl, _, hne⟩ := keep_eq_some h
    by_cases hf : Segment.sealed n = f
    · exact hne hf
    · rw [SegmentedLog.keep, Function.update_of_ne hf] at h
      exact wf.inhabited h

lemma WellFormed.restrict (kept : Segment → Bool) : WellFormed seq ident (restrict log kept) := by
  have same : ∀ {f l}, SegmentedLog.restrict log kept f = some l → log f = some l := by
    intro f l h
    by_cases hk : kept f
    · simpa [SegmentedLog.restrict, hk] using h
    · simp [SegmentedLog.restrict, hk] at h
  exact wf.sublog (fun h => ⟨_, same h, List.Sublist.refl _⟩) (fun h => wf.inhabited (same h))

lemma WellFormed.touch : WellFormed seq ident (touch log) where
  increasing := by
    intro f l h
    by_cases hf : f = .active
    · subst hf
      rw [SegmentedLog.touch, Function.update_self] at h
      cases h
      cases hl : log .active with
      | none => exact List.Pairwise.nil
      | some l => exact wf.increasing hl
    · rw [SegmentedLog.touch, Function.update_of_ne hf] at h
      exact wf.increasing h
  seq_inj := fun ha hb => wf.seq_inj (holds_touch.mp ha) (holds_touch.mp hb)
  ident_inj := fun ha hb => wf.ident_inj (holds_touch.mp ha) (holds_touch.mp hb)
  named := fun ha => wf.named (holds_touch.mp ha)
  ordered := fun ha hb => wf.ordered (holds_touch.mp ha) (holds_touch.mp hb)
  inhabited := by
    intro n l h
    rw [SegmentedLog.touch, Function.update_of_ne (by simp)] at h
    exact wf.inhabited h

lemma WellFormed.push (newest : ∀ f b, Holds log f b → seq b < seq a)
    (fresh : ∀ f b, Holds log f b → ident b ≠ ident a) : WellFormed seq ident (push log a) where
  increasing := by
    intro f l h
    by_cases hf : f = .active
    · subst hf
      rw [SegmentedLog.push, Function.update_self] at h
      cases h
      cases hl : log .active with
      | none => exact List.pairwise_singleton _ a
      | some l =>
        refine (wf.increasing hl).concat ?_
        exact fun b hb => newest .active b ⟨l, hl, hb⟩
    · rw [SegmentedLog.push, Function.update_of_ne hf] at h
      exact wf.increasing h
  seq_inj := by
    intro f g b c hb hc same
    rcases holds_push.mp hb with hold | ⟨rfl, rfl⟩
    · rcases holds_push.mp hc with hold' | ⟨rfl, rfl⟩
      · exact wf.seq_inj hold hold' same
      · have := newest f b hold
        omega
    · rcases holds_push.mp hc with hold' | ⟨rfl, rfl⟩
      · have := newest g c hold'
        omega
      · exact ⟨rfl, rfl⟩
  ident_inj := by
    intro f g b c hb hc same
    rcases holds_push.mp hb with hold | ⟨rfl, rfl⟩
    · rcases holds_push.mp hc with hold' | ⟨rfl, rfl⟩
      · exact wf.ident_inj hold hold' same
      · exact absurd same (fresh f b hold)
    · rcases holds_push.mp hc with hold' | ⟨rfl, rfl⟩
      · exact absurd same.symm (fresh g c hold')
      · exact ⟨rfl, rfl⟩
  named := by
    intro n b hb
    rcases holds_push.mp hb with hb | ⟨hbad, _⟩
    · exact wf.named hb
    · cases hbad
  ordered := by
    intro n b c hb hc
    rcases holds_push.mp hb with hb | ⟨hbad, _⟩
    · rcases holds_push.mp hc with hc | ⟨_, rfl⟩
      · exact wf.ordered hb hc
      · exact newest _ b hb
    · cases hbad
  inhabited := by
    intro n l h
    rw [SegmentedLog.push, Function.update_of_ne (by simp)] at h
    exact wf.inhabited h

/-- The least active sequence cannot name an existing segment: that segment
would hold a record at or above its name and below every active record. -/
lemma WellFormed.promote_fresh (ha : Holds log .active a) : log (.sealed (seq a)) = none := by
  cases h : log (.sealed (seq a)) with
  | none => rfl
  | some l =>
    obtain ⟨b, hb⟩ := List.exists_mem_of_ne_nil l (wf.inhabited h)
    have hheld : Holds log (.sealed (seq a)) b := ⟨l, h, hb⟩
    have hname := wf.named hheld
    have horder := wf.ordered hheld ha
    omega

lemma WellFormed.promote (ha : Holds log .active a) (least : ∀ b, Holds log .active b → seq a ≤ seq b) :
    WellFormed seq ident (promote log (seq a)) := by
  have fresh := wf.promote_fresh ha
  -- Sealing moves the active records; tracing a record back undoes the move.
  let origin : Segment → Segment := fun g => if g = .sealed (seq a) then .active else g
  have back : ∀ {g b}, Holds (SegmentedLog.promote log (seq a)) g b → g ≠ .active ∧ Holds log (origin g) b := by
    intro g b hb
    rcases (holds_promote fresh).mp hb with ⟨rfl, moved⟩ | ⟨hg, stayed⟩
    · exact ⟨by simp, by simpa [origin] using moved⟩
    · have hne : g ≠ .sealed (seq a) := by
        rintro rfl
        exact not_holds_of_none fresh b stayed
      exact ⟨hg, by simpa [origin, hne] using stayed⟩
  have origin_inj : ∀ {g g'}, g ≠ .active → g' ≠ .active → origin g = origin g' → g = g' := by
    intro g g' hg hg' h
    simp only [origin] at h
    split at h <;> split at h <;> simp_all
  refine ⟨?_, ?_, ?_, ?_, ?_, ?_⟩
  · intro f l h
    by_cases hactive : f = .active
    · subst hactive
      simp [SegmentedLog.promote] at h
    · by_cases hsealed : f = .sealed (seq a)
      · subst hsealed
        simp only [SegmentedLog.promote, Function.update_of_ne hactive, Function.update_self] at h
        exact wf.increasing h
      · simp only [SegmentedLog.promote, Function.update_of_ne hactive, Function.update_of_ne hsealed] at h
        exact wf.increasing h
  · intro f g b c hb hc same
    obtain ⟨hf, hb⟩ := back hb
    obtain ⟨hg, hc⟩ := back hc
    obtain ⟨heq, rfl⟩ := wf.seq_inj hb hc same
    exact ⟨origin_inj hf hg heq, rfl⟩
  · intro f g b c hb hc same
    obtain ⟨hf, hb⟩ := back hb
    obtain ⟨hg, hc⟩ := back hc
    obtain ⟨heq, rfl⟩ := wf.ident_inj hb hc same
    exact ⟨origin_inj hf hg heq, rfl⟩
  · intro n b hb
    rcases (holds_promote fresh).mp hb with ⟨heq, moved⟩ | ⟨_, stayed⟩
    · cases heq
      exact least b moved
    · exact wf.named stayed
  · intro n b c _ hc
    exact absurd rfl (back hc).1
  · intro n l h
    by_cases hsealed : Segment.sealed n = .sealed (seq a)
    · rw [SegmentedLog.promote, Function.update_of_ne (by simp), hsealed, Function.update_self] at h
      obtain ⟨l', hl', hmem⟩ := ha
      rw [h] at hl'
      cases hl'
      exact List.ne_nil_of_mem hmem
    · rw [SegmentedLog.promote, Function.update_of_ne (by simp), Function.update_of_ne hsealed] at h
      exact wf.inhabited h

end

end DBPilot.SegmentedLog
