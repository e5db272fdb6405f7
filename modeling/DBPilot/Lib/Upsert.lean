import Mathlib.Data.List.Nodup
import Mathlib.Data.List.Perm.Subperm

/-!
# Upserts into a list of keyed rows

An update replaces the row of its key in place or is appended. Updates with
distinct keys are merged one after the other.
-/

namespace DBPilot.Upserts

universe u v
variable {ρ : Type u} {κ : Type v} [DecidableEq κ]

def upsert (key : ρ → κ) (rows : List ρ) (update : ρ) : List ρ :=
  if rows.any fun r => key r = key update then
    rows.map fun r => if key r = key update then update else r
  else rows ++ [update]

def merge (key : ρ → κ) (rows updates : List ρ) : List ρ := updates.foldl (upsert key) rows

variable {key : ρ → κ} {rows updates : List ρ} {r update : ρ}

lemma upsert_of_mem (taken : key update ∈ rows.map key) : upsert key rows update =
    rows.map fun r => if key r = key update then update else r := by
  apply if_pos
  simpa using taken

lemma upsert_of_not_mem (free : key update ∉ rows.map key) : upsert key rows update = rows ++ [update] := by
  apply if_neg
  simpa using free

lemma mem_upsert : r ∈ upsert key rows update ↔ r = update ∨ r ∈ rows ∧ key r ≠ key update := by
  by_cases taken : key update ∈ rows.map key
  · rw [upsert_of_mem taken, List.mem_map]
    constructor
    · rintro ⟨s, member, rfl⟩
      by_cases same : key s = key update
      · exact .inl (if_pos same)
      · rw [if_neg same]
        exact .inr ⟨member, same⟩
    · rintro (rfl | ⟨member, other⟩)
      · obtain ⟨s, member, same⟩ := List.mem_map.mp taken
        exact ⟨s, member, if_pos same⟩
      · exact ⟨r, member, if_neg other⟩
  · rw [upsert_of_not_mem taken, List.mem_append, List.mem_singleton]
    constructor
    · rintro (member | rfl)
      · refine .inr ⟨member, ?_⟩
        intro same
        exact taken (same ▸ List.mem_map_of_mem member)
      · exact .inl rfl
    · rintro (rfl | ⟨member, _⟩)
      · exact .inr rfl
      · exact .inl member

/-- An update of a known key keeps the keys, in their order. -/
lemma map_key_upsert (taken : key update ∈ rows.map key) : (upsert key rows update).map key = rows.map key := by
  rw [upsert_of_mem taken, List.map_map]
  apply List.map_congr_left
  intro r _
  by_cases same : key r = key update <;> simp [same]

lemma nodup_upsert (distinct : (rows.map key).Nodup) : ((upsert key rows update).map key).Nodup := by
  by_cases taken : key update ∈ rows.map key
  · rw [map_key_upsert taken]
    exact distinct
  · rw [upsert_of_not_mem taken, List.map_append]
    apply List.nodup_append_comm.mp
    exact List.nodup_cons.mpr ⟨taken, distinct⟩

/-- No count drops when the replaced row did not count. -/
lemma countP_le_countP_upsert {p : ρ → Bool} (uncounted : ∀ r ∈ rows, key r = key update → p r = false) :
    rows.countP p ≤ (upsert key rows update).countP p := by
  by_cases taken : key update ∈ rows.map key
  · rw [upsert_of_mem taken, List.countP_map]
    apply List.countP_mono_left
    intro r member counted
    have other : key r ≠ key update := by
      intro same
      rw [uncounted r member same] at counted
      cases counted
    simpa [other] using counted
  · rw [upsert_of_not_mem taken, List.countP_append]
    omega

lemma nodup_merge (distinct : (rows.map key).Nodup) : ((merge key rows updates).map key).Nodup := by
  unfold merge
  induction updates generalizing rows with
  | nil => exact distinct
  | cons update rest ih => exact ih (nodup_upsert distinct)

/-- A merged row is an update, or an old row that no update replaces. -/
lemma mem_merge (distinct : (updates.map key).Nodup) : r ∈ merge key rows updates ↔
    r ∈ updates ∨ r ∈ rows ∧ key r ∉ updates.map key := by
  unfold merge
  induction updates generalizing rows with
  | nil => simp
  | cons update rest ih =>
    obtain ⟨first, later⟩ := List.nodup_cons.mp distinct
    rw [List.foldl_cons, ih later, mem_upsert]
    constructor
    · rintro (listed | ⟨rfl | ⟨member, other⟩, untouched⟩)
      · exact .inl (List.mem_cons_of_mem update listed)
      · exact .inl List.mem_cons_self
      · exact .inr ⟨member, by simp only [List.map_cons, List.mem_cons, not_or]; exact ⟨other, untouched⟩⟩
    · rintro (listed | ⟨member, untouched⟩)
      · rcases List.mem_cons.mp listed with rfl | listed
        · exact .inr ⟨.inl rfl, first⟩
        · exact .inl listed
      · simp only [List.map_cons, List.mem_cons, not_or] at untouched
        exact .inr ⟨.inr ⟨member, untouched.1⟩, untouched.2⟩

/-- The merged keys are the old ones and those of the updates. -/
lemma mem_map_merge (distinct : (updates.map key).Nodup) {k : κ} :
    k ∈ (merge key rows updates).map key ↔ k ∈ updates.map key ∨ k ∈ rows.map key := by
  by_cases updated : k ∈ updates.map key
  · obtain ⟨update, listed, rfl⟩ := List.mem_map.mp updated
    exact iff_of_true (List.mem_map_of_mem ((mem_merge distinct).mpr (.inl listed))) (.inl updated)
  · rw [or_iff_right updated, List.mem_map, List.mem_map]
    constructor
    · rintro ⟨r, merged, rfl⟩
      rcases (mem_merge distinct).mp merged with listed | ⟨kept, _⟩
      · exact absurd (List.mem_map_of_mem listed) updated
      · exact ⟨r, kept, rfl⟩
    · rintro ⟨r, kept, rfl⟩
      exact ⟨r, (mem_merge distinct).mpr (.inr ⟨kept, updated⟩), rfl⟩

end DBPilot.Upserts
