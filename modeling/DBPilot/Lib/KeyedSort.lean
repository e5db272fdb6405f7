import Mathlib.Data.List.Sort

/-!
# Lists ordered by a natural key

A list whose keys strictly increase is determined by its members, so a sort by
distinct keys can be compared with any other way of listing the same members.
-/

namespace DBPilot.KeyedSort

universe u v
variable {α : Type u} {β : Type v} (key : α → Nat)

/-- The keys of the list strictly increase. -/
def Increasing (l : List α) : Prop := l.Pairwise fun a b => key a < key b

def sortOn (l : List α) : List α := l.insertionSort fun a b => key a ≤ key b

variable {key}

variable {l : List α}

section

variable (h : Increasing key l)
include h

lemma Increasing.nodup : l.Nodup := by
  refine List.Pairwise.imp ?_ h
  intro a b hlt heq
  rw [heq] at hlt
  exact Nat.lt_irrefl _ hlt

lemma Increasing.sublist {l' : List α} (sub : l'.Sublist l) : Increasing key l' :=
  List.Pairwise.sublist sub h

lemma Increasing.key_inj {a b : α} (ha : a ∈ l) (hb : b ∈ l) (same : key a = key b) : a = b := by
  induction l with
  | nil => cases ha
  | cons c l ih =>
    obtain ⟨first, rest⟩ := List.pairwise_cons.mp h
    rcases List.mem_cons.mp ha with hac | hal
    · rcases List.mem_cons.mp hb with hbc | hbl
      · exact hac.trans hbc.symm
      · have := first b hbl
        rw [← hac] at this
        omega
    · rcases List.mem_cons.mp hb with hbc | hbl
      · have := first a hal
        rw [← hbc] at this
        omega
      · exact ih rest hal hbl

lemma Increasing.concat {a : α} (above : ∀ b ∈ l, key b < key a) : Increasing key (l ++ [a]) := by
  refine List.pairwise_append.mpr ⟨h, List.pairwise_singleton _ _, ?_⟩
  intro b hb c hc
  rw [List.mem_singleton.mp hc]
  exact above b hb

end

lemma Increasing.map {f : α → β} {key' : β → Nat} (same : ∀ a, key' (f a) = key a) (h : Increasing key l) : Increasing key' (l.map f) := by
  refine List.Pairwise.map f ?_ h
  intro a b hab
  rw [same, same]
  exact hab

lemma Increasing.of_map {f : α → β} {key' : β → Nat} (same : ∀ a, key' (f a) = key a)
    (h : Increasing key' (l.map f)) : Increasing key l := by
  refine (List.pairwise_map.mp h).imp ?_
  intro a b hab
  rwa [same, same] at hab

/-- Two increasing lists with the same members are equal. -/
theorem Increasing.ext {l' : List α} (h : Increasing key l) (h' : Increasing key l')
    (same : ∀ a, a ∈ l ↔ a ∈ l') : l = l' := by
  have hperm : l.Perm l' := (List.perm_ext_iff_of_nodup h.nodup h'.nodup).mpr same
  refine List.Perm.eq_of_pairwise ?_ h h' hperm
  intro a b _ _ hab hba
  omega

@[simp] lemma mem_sortOn {a : α} : a ∈ sortOn key l ↔ a ∈ l :=
  List.mem_insertionSort _

/-- Sorting by a key that is injective on a duplicate-free list. -/
lemma sortOn_increasing (distinct : (l.map key).Nodup) : Increasing key (sortOn key l) := by
  have hsorted : (sortOn key l).Pairwise fun a b => key a ≤ key b := by
    have : Std.Total fun a b : α => key a ≤ key b := ⟨fun a b => Nat.le_total (key a) (key b)⟩
    have : IsTrans α fun a b => key a ≤ key b := ⟨fun a b c => Nat.le_trans⟩
    exact List.pairwise_insertionSort _ l
  have hperm : ((sortOn key l).map key).Nodup :=
    ((List.perm_insertionSort _ l).map key).nodup_iff.mpr distinct
  have hne : (sortOn key l).Pairwise fun a b => key a ≠ key b := List.pairwise_map.mp hperm
  exact (hsorted.and hne).imp fun ⟨hle, hne⟩ => Nat.lt_of_le_of_ne hle hne

/-- What is left out of a list is left out of its sort. -/
theorem insertionSort_filter {r : α → α → Prop} [DecidableRel r] [Std.Total r] [IsTrans α r]
    (antisymm : ∀ a ∈ l, ∀ b ∈ l, r a b → r b a → a = b) (p : α → Bool) :
    (l.filter p).insertionSort r = (l.insertionSort r).filter p := by
  refine List.Perm.eq_of_pairwise ?_ (List.pairwise_insertionSort r _) ((List.pairwise_insertionSort r l).filter p) ?_
  · intro a b ha hb
    rw [List.mem_insertionSort] at ha
    exact antisymm a (List.mem_of_mem_filter ha) b ((List.mem_insertionSort r).mp (List.mem_of_mem_filter hb))
  · exact (List.perm_insertionSort r _).trans ((List.perm_insertionSort r l).filter p).symm

end DBPilot.KeyedSort
