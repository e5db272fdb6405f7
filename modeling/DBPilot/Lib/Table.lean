import DBPilot.Lib.Runs
import Mathlib.Data.List.Nodup
import Mathlib.Data.List.Perm.Subperm

/-!
# Keyed tables

A table is a list of rows no two of which have the same key. Rows are never
removed. `update` rewrites every row that satisfies a condition and keeps its key.

When each step of a system rewrites every row of a table by a row step, or adds a
fresh row, a run of the system is a run of row steps for each row, and what row
steps preserve holds of all rows.
-/

namespace DBPilot.Tables

open Runs

universe u v w x
variable {ρ : Type u} {κ : Type v} {key : ρ → κ}

structure Table (ρ : Type u) {κ : Type v} (key : ρ → κ) where
  rows : List ρ
  unique : (rows.map key).Nodup

/-- A rewriting of rows that keeps their keys. -/
structure Rewrite {ρ : Type u} {κ : Type v} (key : ρ → κ) where
  apply : ρ → ρ
  keeps : ∀ r, key (apply r) = key r

instance : CoeFun (Rewrite key) fun _ => ρ → ρ := ⟨Rewrite.apply⟩

namespace Table

instance : Membership ρ (Table ρ key) := ⟨fun t r => r ∈ t.rows⟩

def empty : Table ρ key := ⟨[], List.nodup_nil⟩

def find? [DecidableEq κ] (t : Table ρ key) (k : κ) : Option ρ :=
  t.rows.find? fun r => key r = k

lemma map_key_update {rows : List ρ} {p : ρ → Bool} {f : Rewrite key} :
    (rows.map fun r => if p r then f r else r).map key = rows.map key := by
  rw [List.map_map]
  apply List.map_congr_left
  intro r _
  by_cases h : p r = true <;> simp [h, f.keeps]

def update (t : Table ρ key) (p : ρ → Bool) (f : Rewrite key) : Table ρ key :=
  ⟨t.rows.map fun r => if p r then f r else r, by
    rw [map_key_update]
    exact t.unique⟩

/-- Replace the row that has the key of `r`. -/
def put [DecidableEq κ] (t : Table ρ key) (r : ρ) : Table ρ key :=
  ⟨t.rows.map fun s => if key s = key r then r else s, by
    have keys : (t.rows.map fun s => if key s = key r then r else s).map key = t.rows.map key := by
      rw [List.map_map]
      apply List.map_congr_left
      intro s _
      by_cases h : key s = key r <;> simp [h]
    rw [keys]
    exact t.unique⟩

/-- Nothing when the key is taken. -/
def insert? [DecidableEq κ] (t : Table ρ key) (r : ρ) : Option (Table ρ key) :=
  if free : key r ∉ t.rows.map key then
    some ⟨t.rows ++ [r], by simpa using List.nodup_append_comm.mp (List.nodup_cons.mpr ⟨free, t.unique⟩)⟩
  else none

variable {t t' : Table ρ key} {r r' : ρ} {p : ρ → Bool} {f : Rewrite key}

@[simp] lemma not_mem_empty : r ∉ (empty : Table ρ key) := List.not_mem_nil

lemma eq_of_key (first : r ∈ t) (second : r' ∈ t) (same : key r = key r') : r = r' :=
  List.inj_on_of_nodup_map t.unique first second same

lemma mem_update : r' ∈ t.update p f ↔ ∃ r ∈ t, (if p r then f r else r) = r' :=
  List.mem_map

lemma mem_update_of_mem (member : r ∈ t) : (if p r then f r else r) ∈ t.update p f :=
  mem_update.mpr ⟨r, member, rfl⟩

lemma exists_key_update (member' : r' ∈ t.update p f) : ∃ r ∈ t, key r = key r' := by
  obtain ⟨r, member, rfl⟩ := mem_update.mp member'
  refine ⟨r, member, ?_⟩
  by_cases h : p r = true <;> simp [h, f.keeps]

/-- The rows that count in one table, but for some keys, count in another. -/
lemma countP_le {q : ρ → Bool} (exempt : List κ)
    (each : ∀ r' ∈ t', p r' = true → key r' ∉ exempt → ∃ r ∈ t, key r = key r' ∧ q r = true) :
    t'.rows.countP p ≤ t.rows.countP q + exempt.length := by
  have distinct : ((t'.rows.filter p).map key).Nodup := t'.unique.sublist (List.filter_sublist.map key)
  have sub : (t'.rows.filter p).map key ⊆ (t.rows.filter q).map key ++ exempt := by
    intro k listed
    obtain ⟨r', counted, rfl⟩ := List.mem_map.mp listed
    obtain ⟨member', hit⟩ := List.mem_filter.mp counted
    by_cases excused : key r' ∈ exempt
    · exact List.mem_append_right _ excused
    · obtain ⟨r, member, same, hit'⟩ := each r' member' hit excused
      exact List.mem_append_left _ (same ▸ List.mem_map_of_mem (List.mem_filter.mpr ⟨member, hit'⟩))
  have bound := (distinct.subperm sub).length_le
  simpa [List.countP_eq_length_filter] using bound

variable [DecidableEq κ] {k : κ}

lemma find?_eq_some : t.find? k = some r ↔ r ∈ t ∧ key r = k := by
  constructor
  · intro found
    exact ⟨List.mem_of_find?_eq_some found, by simpa using List.find?_some found⟩
  · rintro ⟨member, rfl⟩
    cases found : t.find? (key r) with
    | none =>
      have absent := List.find?_eq_none.mp found r member
      simp at absent
    | some s =>
      have same : key s = key r := by simpa using List.find?_some found
      rw [eq_of_key (List.mem_of_find?_eq_some found) member same]

lemma find?_of_mem (member : r ∈ t) : t.find? (key r) = some r :=
  find?_eq_some.mpr ⟨member, rfl⟩

lemma mem_insert? (inserted : t.insert? r = some t') : r' ∈ t' ↔ r' ∈ t ∨ r' = r := by
  unfold insert? at inserted
  split at inserted
  · cases inserted
    exact List.mem_append.trans (or_congr_right List.mem_singleton)
  · cases inserted

lemma key_not_mem_of_insert? (inserted : t.insert? r = some t') (member : r' ∈ t) : key r' ≠ key r := by
  unfold insert? at inserted
  split at inserted
  · rename_i free
    intro same
    exact free (List.mem_map.mpr ⟨r', member, same⟩)
  · cases inserted

lemma mem_put (present : (t.find? (key r)).isSome = true) : r' ∈ t.put r ↔ r' = r ∨ r' ∈ t ∧ key r' ≠ key r := by
  obtain ⟨old, found⟩ := Option.isSome_iff_exists.mp present
  obtain ⟨member, same⟩ := find?_eq_some.mp found
  constructor
  · intro put
    obtain ⟨s, listed, rfl⟩ := List.mem_map.mp put
    by_cases hit : key s = key r
    · exact .inl (if_pos hit)
    · rw [if_neg hit]
      exact .inr ⟨listed, hit⟩
  · rintro (rfl | ⟨listed, other⟩)
    · exact List.mem_map.mpr ⟨old, member, if_pos same⟩
    · exact List.mem_map.mpr ⟨r', listed, if_neg other⟩

lemma find?_put_self (present : (t.find? (key r)).isSome = true) : (t.put r).find? (key r) = some r :=
  find?_eq_some.mpr ⟨(mem_put present).mpr (.inl rfl), rfl⟩

/-- Tables with the same rows of a key read the same at that key. -/
lemma find?_congr (same : ∀ r, key r = k → (r ∈ t ↔ r ∈ t')) : t.find? k = t'.find? k := by
  apply Option.ext
  intro r
  rw [find?_eq_some, find?_eq_some]
  constructor
  · rintro ⟨member, named⟩
    exact ⟨(same r named).mp member, named⟩
  · rintro ⟨member, named⟩
    exact ⟨(same r named).mpr member, named⟩

lemma find?_update : (t.update p f).find? k = (t.find? k).map fun r => if p r then f r else r := by
  cases found : t.find? k with
  | some r =>
    obtain ⟨member, rfl⟩ := find?_eq_some.mp found
    refine find?_eq_some.mpr ⟨mem_update_of_mem member, ?_⟩
    by_cases h : p r = true <;> simp [h, f.keeps]
  | none =>
    rw [Option.map_none, Option.eq_none_iff_forall_not_mem]
    intro r' listed
    obtain ⟨member', rfl⟩ := find?_eq_some.mp listed
    obtain ⟨r, member, same⟩ := exists_key_update member'
    rw [← same, find?_of_mem member] at found
    cases found

lemma find?_put_of_ne (present : (t.find? (key r)).isSome = true) (other : k ≠ key r) :
    (t.put r).find? k = t.find? k := by
  apply find?_congr
  rintro s rfl
  rw [mem_put present]
  constructor
  · rintro (rfl | ⟨member, _⟩)
    · exact absurd rfl other
    · exact member
  · intro member
    exact .inr ⟨member, other⟩

lemma find?_insert?_self (inserted : t.insert? r = some t') : t'.find? (key r) = some r :=
  find?_eq_some.mpr ⟨(mem_insert? inserted).mpr (.inr rfl), rfl⟩

lemma exists_insert? (free : t.find? (key r) = none) : ∃ t', t.insert? r = some t' := by
  have absent : key r ∉ t.rows.map key := by
    intro listed
    obtain ⟨r', member, same⟩ := List.mem_map.mp listed
    rw [← same, find?_of_mem member] at free
    cases free
  unfold insert?
  rw [dif_pos absent]
  exact ⟨_, rfl⟩

lemma find?_of_insert? (inserted : t.insert? r = some t') : t.find? (key r) = none := by
  rw [Option.eq_none_iff_forall_not_mem]
  intro r' listed
  obtain ⟨member, same⟩ := find?_eq_some.mp listed
  exact key_not_mem_of_insert? inserted member same

lemma find?_insert?_of_ne (inserted : t.insert? r = some t') (other : k ≠ key r) : t'.find? k = t.find? k := by
  apply find?_congr
  rintro s rfl
  rw [mem_insert? inserted]
  constructor
  · rintro (member | rfl)
    · exact member
    · exact absurd rfl other
  · exact .inl

/-- A condition that only the rows of one key meet counts one row. -/
lemma countP_eq_one (member : r ∈ t) (hit : p r = true)
    (only : ∀ s ∈ t, p s = true → key s = key r) : t.rows.countP p = 1 := by
  have same : t.rows.countP p = t.rows.countP fun s => key s = key r := by
    apply List.countP_congr
    intro s member'
    constructor
    · intro holds
      exact decide_eq_true (only s member' holds)
    · intro named
      rw [eq_of_key member' member (of_decide_eq_true named)]
      exact hit
  have counted : t.rows.countP (fun s => key s = key r) = (t.rows.map key).count (key r) := by
    rw [List.count, List.countP_map]
    rfl
  rw [same, counted]
  exact List.count_eq_one_of_mem t.unique (List.mem_map_of_mem member)

/-- Every key that had a row still has one. -/
def Keeps (t t' : Table ρ key) : Prop := ∀ k, (t.find? k).isSome = true → (t'.find? k).isSome = true

lemma Keeps.refl (t : Table ρ key) : t.Keeps t := fun _ present => present

lemma Keeps.trans {t'' : Table ρ key} (first : t.Keeps t') (second : t'.Keeps t'') : t.Keeps t'' :=
  fun k present => second k (first k present)

lemma isSome_find? : (t.find? k).isSome = true ↔ ∃ r ∈ t, key r = k := by
  simp only [Option.isSome_iff_exists, find?_eq_some]

end Table

section evolution

variable {σ : Type w} {ε : Type x} {step : σ → ε → σ → Prop}
  {rowStep : ρ → ε → ρ → Prop} {fresh : ρ → Prop} {s s' : σ} {es : List ε}

/-- A step rewrites every row by a row step and adds only fresh rows. -/
structure Evolves (rowStep : ρ → ρ → Prop) (fresh : ρ → Prop) (t t' : Table ρ key) : Prop where
  forward : ∀ r ∈ t, ∃ r' ∈ t', rowStep r r'
  backward : ∀ r' ∈ t', (∃ r ∈ t, rowStep r r') ∨ fresh r'

namespace Evolves

variable {R S : ρ → ρ → Prop} {t t' : Table ρ key} {p p' : ρ → Bool} {f f' : Rewrite key}

lemma refl (idle : ∀ r ∈ t, R r r) : Evolves R fresh t t where
  forward r member := ⟨r, member, idle r member⟩
  backward r member := .inl ⟨r, member, idle r member⟩

lemma of_update (each : ∀ r ∈ t, R r (if p r then f r else r)) : Evolves R fresh t (t.update p f) := by
  constructor
  · intro r member
    exact ⟨_, Table.mem_update_of_mem member, each r member⟩
  · intro r' member
    obtain ⟨r, old, rfl⟩ := Table.mem_update.mp member
    exact .inl ⟨r, old, each r old⟩

/-- The rows that an update leaves alone are idle. -/
lemma update (idle : ∀ r ∈ t, R r r) (hit : ∀ r ∈ t, p r = true → R r (f r)) : Evolves R fresh t (t.update p f) := by
  apply of_update
  intro r member
  by_cases h : p r = true
  · rw [if_pos h]
    exact hit r member h
  · rw [if_neg h]
    exact idle r member

/-- Two updates one after the other. -/
lemma update_update (idle : ∀ r ∈ t, R r r) (follows : ∀ r ∈ t, p r = true → p' (f r) = true)
    (miss : ∀ r ∈ t, p r ≠ true → p' r ≠ true) (hit : ∀ r ∈ t, p r = true → R r (f' (f r))) :
    Evolves R fresh t ((t.update p f).update p' f') := by
  have both : ∀ r ∈ t, R r (if p' (if p r then f r else r) then f' (if p r then f r else r)
      else if p r then f r else r) := by
    intro r member
    by_cases h : p r = true
    · rw [if_pos h, if_pos (follows r member h)]
      exact hit r member h
    · rw [if_neg h, if_neg (miss r member h)]
      exact idle r member
  constructor
  · intro r member
    exact ⟨_, Table.mem_update_of_mem (Table.mem_update_of_mem member), both r member⟩
  · intro r' member
    obtain ⟨r₁, member₁, rfl⟩ := Table.mem_update.mp member
    obtain ⟨r, old, rfl⟩ := Table.mem_update.mp member₁
    exact .inl ⟨r, old, both r old⟩

/-- Replacing one row. -/
lemma put [DecidableEq κ] {r r' : ρ} (idle : ∀ s ∈ t, key s ≠ key r → R s s) (member : r ∈ t)
    (same : key r' = key r) (hit : R r r') : Evolves R fresh t (t.put r') := by
  have each : ∀ s ∈ t, R s (if key s = key r' then r' else s) := by
    intro s old
    by_cases h : key s = key r'
    · rw [if_pos h, Table.eq_of_key old member (h.trans same)]
      exact hit
    · rw [if_neg h]
      exact idle s old (same ▸ h)
  constructor
  · intro s old
    exact ⟨_, List.mem_map_of_mem old, each s old⟩
  · intro s' new
    obtain ⟨s, old, rfl⟩ := List.mem_map.mp new
    exact .inl ⟨s, old, each s old⟩

lemma insert? [DecidableEq κ] {r : ρ} (idle : ∀ s ∈ t, R s s) (inserted : t.insert? r = some t')
    (isFresh : fresh r) : Evolves R fresh t t' := by
  constructor
  · intro s old
    exact ⟨s, (Table.mem_insert? inserted).mpr (.inl old), idle s old⟩
  · intro s' new
    rcases (Table.mem_insert? inserted).mp new with old | rfl
    · exact .inl ⟨s', old, idle s' old⟩
    · exact .inr isFresh

/-- Of two evolutions without fresh rows, one after the other. -/
lemma trans {t'' : Table ρ key} (compose : ∀ {a b c}, R a b → R b c → R a c)
    (first : Evolves R (fun _ => False) t t') (second : Evolves R (fun _ => False) t' t'') :
    Evolves R (fun _ => False) t t'' := by
  constructor
  · intro r member
    obtain ⟨r₁, member₁, hr⟩ := first.forward r member
    obtain ⟨r₂, member₂, hr'⟩ := second.forward r₁ member₁
    exact ⟨r₂, member₂, compose hr hr'⟩
  · intro r₂ member₂
    obtain ⟨r₁, member₁, hr'⟩ := (second.backward r₂ member₂).resolve_right id
    obtain ⟨r, member, hr⟩ := (first.backward r₁ member₁).resolve_right id
    exact .inl ⟨r, member, compose hr hr'⟩

/-- With keys kept, no key disappears. -/
lemma keeps [DecidableEq κ] (keyed : ∀ r r', R r r' → key r' = key r) (h : Evolves R fresh t t') :
    t.Keeps t' := by
  intro k present
  obtain ⟨r, member, rfl⟩ := Table.isSome_find?.mp present
  obtain ⟨r', member', hr⟩ := h.forward r member
  exact Table.isSome_find?.mpr ⟨r', member', keyed r r' hr⟩

/-- With keys kept, the row of a key evolves into the row of that key. -/
lemma of_key (keyed : ∀ r r', R r r' → key r' = key r) (h : Evolves R fresh t t') {r r' : ρ}
    (member : r ∈ t) (member' : r' ∈ t') (same : key r' = key r) : R r r' := by
  obtain ⟨r₁, member₁, hr⟩ := h.forward r member
  have eq : r₁ = r' := Table.eq_of_key member₁ member' ((keyed r r₁ hr).trans same.symm)
  exact eq ▸ hr

end Evolves

/-- What fresh rows satisfy and row steps preserve holds of all rows of a run. -/
theorem rows_invariant (table : σ → Table ρ key) (inv : ρ → Prop) (run : Run step s es s')
    (evolves : ∀ {s e s'}, step s e s' → Evolves (fun r r' => rowStep r e r') fresh (table s) (table s'))
    (starts : ∀ {r}, fresh r → inv r) (preserved : ∀ {r e r'}, rowStep r e r' → inv r → inv r')
    (start : ∀ r ∈ table s, inv r) : ∀ r ∈ table s', inv r := by
  apply run.invariant (fun s => ∀ r ∈ table s, inv r) _ start
  intro s e s' h all r' member'
  rcases (evolves h).backward r' member' with ⟨r, member, hr⟩ | isFresh
  · exact preserved hr (all r member)
  · exact starts isFresh

end evolution

end DBPilot.Tables
