import Mathlib.Tactic.Lemma
import Mathlib.Tactic.TypeStar

/-!
# Transactions

A transaction reads and writes a state and either commits a value or fails; a
transaction that fails leaves no state behind, so its writes are rolled back.
`Commits` inverts a committed transaction step by step.
-/

namespace DBPilot.Transactions

variable {σ ε α β : Type}

abbrev Tx (σ ε : Type) := StateT σ (Except ε)

def Commits (tx : Tx σ ε α) (s : σ) (a : α) (s' : σ) : Prop := tx s = .ok (a, s')

/-- Go on only when the condition holds. -/
def require (condition : Prop) [Decidable condition] (e : ε) : Tx σ ε Unit :=
  fun s => if condition then .ok ((), s) else .error e

/-- Read a value that may be absent. -/
def fetch (read : σ → Option α) (e : ε) : Tx σ ε α :=
  fun s => match read s with
    | some a => .ok (a, s)
    | none => .error e

/-- Run a pure computation that may fail. -/
def attempt (result : Except ε α) : Tx σ ε α :=
  fun s => match result with
    | .ok a => .ok (a, s)
    | .error e => .error e

def inspect (read : σ → α) : Tx σ ε α := fun s => .ok (read s, s)

def write (f : σ → σ) : Tx σ ε Unit := fun s => .ok ((), f s)

/-- A transaction without its result. -/
def ignore (tx : Tx σ ε α) : Tx σ ε Unit := (fun _ => ()) <$> tx

/-- A transaction run on its own: what fails leaves the state alone. -/
def perform (tx : Tx σ ε α) (s : σ) : Except ε α × σ :=
  match tx s with
  | .ok (a, s') => (.ok a, s')
  | .error e => (.error e, s)

variable {s s' : σ} {a : α} {b : β} {e : ε}

lemma perform_eq_ok {tx : Tx σ ε α} : perform tx s = (.ok a, s') ↔ Commits tx s a s' := by
  unfold perform Commits
  cases tx s <;> simp [Prod.ext_iff]

lemma perform_eq_error {tx : Tx σ ε α} (failed : perform tx s = (.error e, s')) : s' = s := by
  unfold perform at failed
  cases h : tx s with
  | ok p =>
    rw [h] at failed
    cases failed
  | error e' =>
    rw [h] at failed
    exact (Prod.ext_iff.mp failed).2.symm

@[simp] lemma commits_pure {x : α} : Commits (pure x : Tx σ ε α) s a s' ↔ x = a ∧ s = s' := by
  change (Except.ok (x, s) : Except ε (α × σ)) = .ok (a, s') ↔ _
  simp

variable {x : Tx σ ε α}

@[simp] lemma commits_bind {f : α → Tx σ ε β} {s'' : σ} :
    Commits (x >>= f) s b s'' ↔ ∃ a s', Commits x s a s' ∧ Commits (f a) s' b s'' := by
  unfold Commits
  change Except.bind (x s) (fun p => f p.1 p.2) = .ok (b, s'') ↔ _
  cases h : x s with
  | error e => simp [Except.bind]
  | ok p =>
    constructor
    · intro rest
      exact ⟨p.1, p.2, rfl, rest⟩
    · rintro ⟨a, s', first, rest⟩
      cases first
      exact rest

lemma commits_bind_pure {f : α → β} :
    Commits (x >>= fun a => pure (f a)) s b s' ↔ ∃ a, Commits x s a s' ∧ f a = b := by
  rw [commits_bind]
  constructor
  · rintro ⟨a, s₁, first, last⟩
    obtain ⟨rfl, rfl⟩ := commits_pure.mp last
    exact ⟨a, first, rfl⟩
  · rintro ⟨a, first, rfl⟩
    exact ⟨a, s', first, commits_pure.mpr ⟨rfl, rfl⟩⟩

@[simp] lemma commits_map {f : α → β} : Commits (f <$> x) s b s' ↔ ∃ a, Commits x s a s' ∧ f a = b := by
  rw [map_eq_pure_bind, commits_bind_pure]

@[simp] lemma commits_ignore {u : Unit} : Commits (ignore x) s u s' ↔ ∃ a, Commits x s a s' := by
  simp [ignore]

lemma Commits.ignored {u : Unit} {p : Prop} (step : Commits (ignore x) s u s')
    (rest : ∀ {a}, Commits x s a s' → p) : p := (commits_ignore.mp step).elim fun _ => rest

variable {condition : Prop}

@[simp] lemma commits_require [Decidable condition] {u : Unit} :
    Commits (require condition e) s u s' ↔ condition ∧ s = s' := by
  unfold Commits require
  by_cases h : condition <;> simp [h]

@[simp] lemma commits_fetch {read : σ → Option α} : Commits (fetch read e) s a s' ↔ read s = some a ∧ s = s' := by
  unfold Commits fetch
  cases read s <;> simp

@[simp] lemma commits_attempt {result : Except ε α} : Commits (attempt result) s a s' ↔ result = .ok a ∧ s = s' := by
  unfold Commits attempt
  cases result <;> simp

@[simp] lemma commits_inspect {read : σ → α} : Commits (inspect read : Tx σ ε α) s a s' ↔ read s = a ∧ s = s' := by
  simp [Commits, inspect]

@[simp] lemma commits_write {f : σ → σ} {u : Unit} : Commits (write f : Tx σ ε Unit) s u s' ↔ f s = s' := by
  simp [Commits, write]

lemma commits_ite [Decidable condition] {y : Tx σ ε α} :
    Commits (if condition then x else y) s a s' ↔
      (condition ∧ Commits x s a s') ∨ (¬ condition ∧ Commits y s a s') := by
  by_cases h : condition <;> simp [h]

/-- Reads a committed transaction statement by statement: the states between two statements that
only read are the same, and what was only looked at is named where it is used. -/
lemma commits_steps :
    (∀ {σ ε α : Type} {x a : α} {s s'}, Commits (pure x : Tx σ ε α) s a s' ↔ x = a ∧ s = s') ∧
    (∀ {σ ε α β : Type} {x : Tx σ ε α} {f : α → Tx σ ε β} {s b s''},
      Commits (x >>= f) s b s'' ↔ ∃ a s', Commits x s a s' ∧ Commits (f a) s' b s'') ∧
    (∀ {σ ε α : Type} {x : Tx σ ε α} {s u s'}, Commits (ignore x) s u s' ↔ ∃ a, Commits x s a s') ∧
    (∀ {σ ε : Type} {condition : Prop} [Decidable condition] {e : ε} {s : σ} {u s'},
      Commits (require condition e) s u s' ↔ condition ∧ s = s') ∧
    (∀ {σ ε α : Type} {read : σ → Option α} {e : ε} {s a s'},
      Commits (fetch read e) s a s' ↔ read s = some a ∧ s = s') ∧
    (∀ {σ ε α : Type} {result : Except ε α} {s : σ} {a s'},
      Commits (attempt result) s a s' ↔ result = .ok a ∧ s = s') ∧
    (∀ {σ ε α : Type} {read : σ → α} {s a s'}, Commits (inspect read : Tx σ ε α) s a s' ↔ read s = a ∧ s = s') ∧
    (∀ {σ ε : Type} {f : σ → σ} {s u s'}, Commits (write f : Tx σ ε Unit) s u s' ↔ f s = s') ∧
    (∀ {α : Type} {a : α} {p : Prop} {q : α → Prop}, (∃ b, (p ∧ a = b) ∧ q b) ↔ p ∧ q a) ∧
    (∀ {α : Type} {a : α} {p : α → Prop}, (∃ b, a = b ∧ p b) ↔ p a) ∧
    (∀ {α : Type} {p : Prop} [Nonempty α], (∃ _ : α, p) ↔ p) ∧ ∀ {p : Prop}, True ∧ p ↔ p := by
  refine ⟨commits_pure, commits_bind, commits_ignore, commits_require, commits_fetch, commits_attempt,
    commits_inspect, commits_write, ?_, exists_eq_left', exists_const _, iff_of_eq (true_and _)⟩
  simp [and_assoc]

/-! Guards of a computation without state. -/

lemma bind_eq_ok {x : Except ε α} {f : α → Except ε β} : (x >>= f) = .ok b ↔ ∃ a, x = .ok a ∧ f a = .ok b := by
  cases x <;> simp [bind, Except.bind]

lemma ite_throw_eq_ok [Decidable condition] {f : α → Except ε β}
    {rest : Except ε β} :
    (if condition then throw e >>= f else rest) = .ok b ↔ ¬ condition ∧ rest = .ok b := by
  by_cases h : condition <;> simp [h, bind, Except.bind, throw, throwThe, MonadExceptOf.throw]


end DBPilot.Transactions
