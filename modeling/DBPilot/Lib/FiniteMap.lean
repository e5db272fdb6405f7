import DBPilot.Lib.Upsert
import Mathlib.Tactic.Lemma

/-!
# Finite maps

A finite map is a list of entries with distinct keys.
-/

namespace DBPilot.FiniteMaps

universe u v
variable {κ : Type u} {α : Type v}

structure FiniteMap (κ : Type u) (α : Type v) where
  entries : List (κ × α)
  distinct : (entries.map Prod.fst).Nodup
  deriving DecidableEq

namespace FiniteMap

def empty : FiniteMap κ α := ⟨[], List.nodup_nil⟩

def get [DecidableEq κ] (m : FiniteMap κ α) (k : κ) : Option α := m.entries.lookup k

def set [DecidableEq κ] (m : FiniteMap κ α) (k : κ) (a : α) : FiniteMap κ α :=
  ⟨Upserts.upsert Prod.fst m.entries (k, a), Upserts.nodup_upsert m.distinct⟩

def erase [DecidableEq κ] (m : FiniteMap κ α) (k : κ) : FiniteMap κ α :=
  ⟨m.entries.filter fun entry => entry.1 ≠ k, m.distinct.sublist (List.filter_sublist.map _)⟩

def filter (keep : α → Bool) (m : FiniteMap κ α) : FiniteMap κ α :=
  ⟨m.entries.filter fun entry => keep entry.2, m.distinct.sublist (List.filter_sublist.map _)⟩

def mapValues (f : α → α) (m : FiniteMap κ α) : FiniteMap κ α where
  entries := m.entries.map fun entry => (entry.1, f entry.2)
  distinct := by
    rw [List.map_map]
    exact m.distinct

variable {m : FiniteMap κ α} {k k' : κ} {a b : α} {f : α → α}

lemma ext_entries {m m' : FiniteMap κ α} (same : m.entries = m'.entries) : m = m' := by
  cases m
  cases m'
  simp_all

/-- A map that changes no value changes nothing. -/
lemma mapValues_eq_self (fixed : ∀ entry ∈ m.entries, f entry.2 = entry.2) : m.mapValues f = m := by
  apply ext_entries
  refine (List.map_congr_left ?_).trans (List.map_id _)
  intro entry member
  rw [fixed entry member]
  rfl

section lookups

variable [DecidableEq κ]

lemma get_eq_some : m.get k = some a ↔ (k, a) ∈ m.entries := by
  obtain ⟨entries, distinct⟩ := m
  unfold get
  dsimp only
  induction entries with
  | nil => simp
  | cons entry rest ih =>
    obtain ⟨k', b⟩ := entry
    obtain ⟨fresh, others⟩ := List.nodup_cons.mp distinct
    by_cases here : k = k'
    · subst here
      rw [List.lookup_cons_self, List.mem_cons]
      constructor
      · rintro ⟨⟩
        exact .inl rfl
      · rintro (same | later)
        · cases same
          rfl
        · exact absurd (List.mem_map_of_mem later) fresh
    · have other : (k == k') = false := by simp [here]
      rw [List.lookup_cons, other, List.mem_cons]
      dsimp only
      rw [ih others]
      constructor
      · exact .inr
      · rintro (same | later)
        · cases same
          exact absurd rfl here
        · exact later

lemma get_eq_none : m.get k = none ↔ ∀ a, (k, a) ∉ m.entries := by
  rw [Option.eq_none_iff_forall_ne_some]
  simp only [ne_eq, get_eq_some]

/-- Two lookups agree when the maps hold the same entries under the key. -/
lemma get_congr {m m' : FiniteMap κ α} (same : ∀ a, (k, a) ∈ m.entries ↔ (k, a) ∈ m'.entries) :
    m.get k = m'.get k := by
  ext a
  rw [get_eq_some, get_eq_some]
  exact same a

@[simp] lemma get_empty : (empty : FiniteMap κ α).get k = none := rfl

@[simp] lemma get_set_self : (m.set k a).get k = some a := get_eq_some.mpr (Upserts.mem_upsert.mpr (.inl rfl))

lemma get_set_of_ne (other : k' ≠ k) : (m.set k a).get k' = m.get k' := by
  apply get_congr
  intro b
  refine Upserts.mem_upsert.trans ?_
  constructor
  · rintro (same | ⟨member, _⟩)
    · exact absurd (congrArg Prod.fst same) other
    · exact member
  · intro member
    exact .inr ⟨member, other⟩

@[simp] lemma get_erase_self : (m.erase k).get k = none := by
  rw [get_eq_none]
  intro a member
  simpa using (List.mem_filter.mp member).2

lemma get_erase_of_ne (other : k' ≠ k) : (m.erase k).get k' = m.get k' := by
  apply get_congr
  intro b
  rw [erase, List.mem_filter]
  simp [other]

@[simp] lemma get_mapValues : (m.mapValues f).get k = (m.get k).map f := by
  cases found : m.get k with
  | none =>
    rw [get_eq_none] at found
    rw [Option.map_none, get_eq_none]
    intro b member
    obtain ⟨⟨k', a⟩, old, same⟩ := List.mem_map.mp member
    cases same
    exact found a old
  | some a => exact get_eq_some.mpr (List.mem_map.mpr ⟨(k, a), get_eq_some.mp found, rfl⟩)

lemma mem_set {entry : κ × α} :
    entry ∈ (m.set k a).entries ↔ entry = (k, a) ∨ entry ∈ m.entries ∧ entry.1 ≠ k := Upserts.mem_upsert

end lookups

end FiniteMap

end DBPilot.FiniteMaps
