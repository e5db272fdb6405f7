import Mathlib.Algebra.Order.BigOperators.Group.List
import Mathlib.Algebra.Order.Ring.Nat
import Mathlib.Algebra.Order.Ring.Canonical
import Mathlib.Data.List.Nodup

/-!
# Queues served head by head

Several queues are served one head at a time, and a policy names the queue whose head is
next. A head that is refused stays where it is, so that nothing is served after it.
-/

namespace DBPilot.HeadOfLine

universe u v
variable {κ : Type u} {β : Type v}

abbrev Queues (κ : Type u) (β : Type v) := κ → List β

/-- A policy picks the head of one of the queues as long as one is left. -/
structure Policy (κ : Type u) (β : Type v) (keys : List κ) where
  pick : Queues κ β → Option (κ × β)
  head : ∀ {queues k b}, pick queues = some (k, b) → k ∈ keys ∧ ∃ rest, queues k = b :: rest
  empty : ∀ {queues}, pick queues = none → ∀ k ∈ keys, queues k = []

variable [DecidableEq κ] {keys : List κ} (policy : Policy κ β keys) (accepts : κ × β → Bool)

def pop (queues : Queues κ β) (k : κ) : Queues κ β := Function.update queues k (queues k).tail

omit [DecidableEq κ] in
variable (keys) in
def size (queues : Queues κ β) : Nat := (keys.map fun k => (queues k).length).sum

/-- The order in which everything would be served if nothing were refused. -/
def order : Nat → Queues κ β → List (κ × β)
  | 0, _ => []
  | turns + 1, queues =>
    match policy.pick queues with
    | none => []
    | some (k, b) => (k, b) :: order turns (pop queues k)

/-- Service up to the first head that is refused. -/
def drain : Nat → Queues κ β → Queues κ β
  | 0, queues => queues
  | turns + 1, queues =>
    match policy.pick queues with
    | none => queues
    | some (k, b) => if accepts (k, b) then drain turns (pop queues k) else queues

/-- There is nothing left, or the next head is refused. -/
def Blocked (queues : Queues κ β) : Prop := ∀ x, policy.pick queues = some x → accepts x = false

variable {policy accepts} {queues : Queues κ β} {k : κ} {b : β} {turns more : Nat}

lemma size_pop (nodup : keys.Nodup) (member : k ∈ keys) {rest : List β} (found : queues k = b :: rest) :
    size keys (pop queues k) + 1 = size keys queues := by
  induction keys with
  | nil => cases member
  | cons first keys ih =>
    obtain ⟨fresh, nodup⟩ := List.nodup_cons.mp nodup
    have split : ∀ q : Queues κ β, size (first :: keys) q = (q first).length + size keys q := fun _ => rfl
    rw [split, split]
    by_cases here : first = k
    · subst here
      have others : size keys (pop queues first) = size keys queues := by
        refine congrArg List.sum (List.map_congr_left ?_)
        intro other listed
        have apart : other ≠ first := fun same => fresh (same ▸ listed)
        rw [pop, Function.update_of_ne apart]
      rw [others, pop, Function.update_self, found, List.tail_cons, List.length_cons]
      omega
    · have shorter := ih nodup ((List.mem_cons.mp member).resolve_left (Ne.symm here))
      rw [pop, Function.update_of_ne here, ← pop]
      omega

omit [DecidableEq κ] in
lemma pick_of_size (empty : size keys queues = 0) : policy.pick queues = none := by
  rcases picked : policy.pick queues with _ | x
  · rfl
  obtain ⟨member, rest, found⟩ := policy.head picked
  have listed : (queues x.1).length ∈ keys.map fun k => (queues k).length := List.mem_map_of_mem member
  have positive := List.le_sum_of_mem listed
  rw [found, List.length_cons] at positive
  unfold size at empty
  omega

section enough

variable (nodup : keys.Nodup)
include nodup

lemma pick_pop {x : κ × β} (picked : policy.pick queues = some x) : size keys (pop queues x.1) + 1 = size keys queues := by
  obtain ⟨member, rest, found⟩ := policy.head picked
  exact size_pop nodup member found

/-- Turns beyond the number of what is queued change nothing. -/
lemma order_eq (enough : size keys queues ≤ turns) (enough' : size keys queues ≤ more) :
    order policy turns queues = order policy more queues := by
  induction turns generalizing queues more with
  | zero =>
    have none : policy.pick queues = none := pick_of_size (Nat.le_zero.mp enough)
    cases more with
    | zero => rfl
    | succ => simp only [order, none]
  | succ turns ih =>
    rcases picked : policy.pick queues with _ | x
    · cases more with
      | zero | succ more => simp only [order, picked]
    have smaller := pick_pop nodup picked
    cases more with
    | zero => omega
    | succ more =>
      simp only [order, picked]
      rw [@ih (pop queues x.1) more (by omega) (by omega)]

lemma mem_order (enough : size keys queues ≤ turns) {x : κ × β} :
    x ∈ order policy turns queues ↔ x.1 ∈ keys ∧ x.2 ∈ queues x.1 := by
  induction turns generalizing queues with
  | zero =>
    have none := policy.empty (pick_of_size (Nat.le_zero.mp enough))
    refine ⟨fun listed => absurd listed List.not_mem_nil, ?_⟩
    rintro ⟨member, listed⟩
    rw [none x.1 member] at listed
    cases listed
  | succ turns ih =>
    rcases picked : policy.pick queues with _ | y
    · simp only [order, picked, List.not_mem_nil, false_iff]
      rintro ⟨member, listed⟩
      rw [policy.empty picked x.1 member] at listed
      cases listed
    obtain ⟨member, rest, found⟩ := policy.head picked
    have smaller := pick_pop nodup picked
    simp only [order, picked, List.mem_cons]
    rw [@ih (pop queues y.1) (by omega)]
    by_cases same : x.1 = y.1
    · rw [same, pop, Function.update_self, found, List.tail_cons, List.mem_cons]
      constructor
      · rintro (rfl | ⟨_, later⟩)
        · exact ⟨member, .inl rfl⟩
        · exact ⟨member, .inr later⟩
      · rintro ⟨_, now | later⟩
        · exact .inl (Prod.ext same now)
        · exact .inr ⟨member, later⟩
    · rw [pop, Function.update_of_ne same]
      have apart : x ≠ y := fun equal => same (congrArg Prod.fst equal)
      simp [apart]

lemma size_drain : size keys (drain policy accepts turns queues) ≤ size keys queues := by
  induction turns generalizing queues with
  | zero => exact Nat.le_refl _
  | succ turns ih =>
    unfold drain
    split
    · exact Nat.le_refl _
    · rename_i k b picked
      split
      · have smaller : size keys (pop queues k) + 1 = size keys queues := pick_pop nodup picked
        have rest := @ih (pop queues k)
        omega
      · exact Nat.le_refl _

section

variable (enough : size keys queues ≤ turns)
include enough

/-- Service takes what is accepted from the front of the order. -/
theorem order_drain :
    order policy turns (drain policy accepts turns queues) = (order policy turns queues).dropWhile accepts := by
  induction turns generalizing queues with
  | zero => rfl
  | succ turns ih =>
    rcases picked : policy.pick queues with _ | x
    · simp only [drain, order, picked, List.dropWhile_nil]
    have smaller := pick_pop nodup picked
    have listed : order policy (turns + 1) queues = x :: order policy turns (pop queues x.1) := by
      simp only [order, picked]
    rw [listed]
    by_cases accepted : accepts x = true
    · have bound := @size_drain _ _ _ _ policy accepts (pop queues x.1) turns nodup
      rw [List.dropWhile_cons_of_pos accepted, ← @ih (pop queues x.1) (by omega),
        @order_eq _ _ _ _ policy _ turns (turns + 1) nodup (by omega) (by omega)]
      simp only [drain, picked, accepted, if_true]
    · rw [List.dropWhile_cons_of_neg accepted, ← listed]
      simp only [drain, picked, accepted]
      rfl

lemma blocked_drain : Blocked policy accepts (drain policy accepts turns queues) := by
  induction turns generalizing queues with
  | zero =>
    intro x picked
    rw [drain, pick_of_size (Nat.le_zero.mp enough)] at picked
    cases picked
  | succ turns ih =>
    unfold drain
    split
    · rename_i picked
      intro x other
      rw [picked] at other
      cases other
    · rename_i k b picked
      have smaller := pick_pop nodup picked
      split
      · exact ih (by dsimp only at smaller; omega)
      · rename_i refused
        intro x other
        rw [picked] at other
        cases other
        exact Bool.eq_false_iff.mpr refused

/-- All that would be accepted is served exactly when none of it comes after a refusal. -/
theorem drained_iff :
    (∀ k ∈ keys, ∀ b ∈ drain policy accepts turns queues k, accepts (k, b) = false) ↔
      (order policy turns queues).Pairwise fun earlier later => accepts later = true → accepts earlier = true := by
  have left : (∀ k ∈ keys, ∀ b ∈ drain policy accepts turns queues k, accepts (k, b) = false) ↔
      ∀ x ∈ (order policy turns queues).dropWhile accepts, accepts x = false := by
    have bound := @size_drain _ _ _ _ policy accepts queues turns nodup
    rw [← order_drain nodup enough]
    constructor
    · intro refused x listed
      obtain ⟨member, queued⟩ := (mem_order nodup (by omega)).mp listed
      exact refused x.1 member x.2 queued
    · intro refused k member b queued
      exact refused (k, b) ((mem_order nodup (by omega)).mpr ⟨member, queued⟩)
  rw [left]
  clear left
  induction order policy turns queues with
  | nil => simp
  | cons x rest ih =>
    by_cases accepted : accepts x = true
    · rw [List.dropWhile_cons_of_pos accepted, List.pairwise_cons]
      exact ⟨fun later => ⟨fun _ _ _ => accepted, ih.mp later⟩, fun both => ih.mpr both.2⟩
    · rw [List.dropWhile_cons_of_neg accepted, List.pairwise_cons]
      constructor
      · intro refused
        have later : ∀ y ∈ rest, accepts y = false := fun y listed => refused y (List.mem_cons_of_mem x listed)
        refine ⟨fun y listed yes => absurd yes (by simp [later y listed]), ?_⟩
        exact List.pairwise_of_forall_mem_list fun y _ z listed yes => absurd yes (by simp [later z listed])
      · rintro ⟨first, _⟩ y listed
        apply Bool.eq_false_iff.mpr
        rcases List.mem_cons.mp listed with rfl | later
        · exact accepted
        · exact fun yes => accepted (first y later yes)

end

end enough

/-- Service only takes away. -/
lemma mem_of_mem_drain (listed : b ∈ drain policy accepts turns queues k) : b ∈ queues k := by
  induction turns generalizing queues with
  | zero => exact listed
  | succ turns ih =>
    rcases picked : policy.pick queues with _ | x
    · simp only [drain, picked] at listed
      exact listed
    by_cases accepted : accepts x = true
    · simp only [drain, picked, accepted, if_true] at listed
      have kept := ih listed
      by_cases same : k = x.1
      · rw [same, pop, Function.update_self, ← same] at kept
        exact List.mem_of_mem_tail kept
      · rwa [pop, Function.update_of_ne same] at kept
    · simp only [drain, picked, accepted] at listed
      exact listed

lemma drain_of_blocked (blocked : Blocked policy accepts queues) : drain policy accepts turns queues = queues := by
  cases turns with
  | zero => rfl
  | succ =>
    unfold drain
    split
    · rfl
    · rename_i k b picked
      rw [blocked _ picked]
      rfl

end DBPilot.HeadOfLine
