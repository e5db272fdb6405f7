import Mathlib.Tactic.Lemma

/-!
# Runs of labelled transition systems

A run is a finite sequence of labelled steps. What every step preserves, every
run preserves; steps may be restricted by a condition on the state before them
and their label.
-/

namespace DBPilot.Runs

universe u v w
variable {σ : Type u} {ε : Type v}

inductive Run (step : σ → ε → σ → Prop) : σ → List ε → σ → Prop
  | nil (a : σ) : Run step a [] a
  | cons {a b c : σ} {e : ε} {es : List ε} : step a e b → Run step b es c → Run step a (e :: es) c

variable {step : σ → ε → σ → Prop} {a b c : σ} {e : ε} {es es' : List ε}

lemma Run.single (h : step a e b) : Run step a [e] b := .cons h (.nil b)

lemma Run.append (first : Run step a es b) (second : Run step b es' c) : Run step a (es ++ es') c := by
  induction first with
  | nil => exact second
  | cons h _ ih => exact .cons h (ih second)

lemma Run.split {c : σ} (run : Run step a (es ++ es') c) : ∃ b, Run step a es b ∧ Run step b es' c := by
  induction es generalizing a with
  | nil => exact ⟨a, .nil a, run⟩
  | cons e es ih =>
    cases run with
    | cons h rest =>
      obtain ⟨b, early, late⟩ := ih rest
      exact ⟨b, .cons h early, late⟩

lemma Run.restrict {ok : ε → Prop} (run : Run step a es b) (all : ∀ e ∈ es, ok e) :
    Run (fun a e b => step a e b ∧ ok e) a es b := by
  induction run with
  | nil => exact .nil _
  | @cons a b c e es h _ ih =>
    refine .cons ⟨h, all e List.mem_cons_self⟩ ?_
    exact ih fun e' he' => all e' (List.mem_cons_of_mem e he')

/-- The invariant rule. -/
theorem Run.invariant (inv : σ → Prop) (preserved : ∀ {a e b}, step a e b → inv a → inv b)
    (run : Run step a es b) (start : inv a) : inv b := by
  induction run with
  | nil => exact start
  | cons h _ ih => exact ih (preserved h start)

/-- What every step preserves holds before and after each step of a run. -/
theorem Run.always (inv : σ → Prop) (preserved : ∀ {a e b}, step a e b → inv a → inv b)
    (run : Run step a es b) (start : inv a) :
    Run (fun a e b => step a e b ∧ inv a ∧ inv b) a es b := by
  induction run with
  | nil => exact .nil _
  | cons h _ ih =>
    have next := preserved h start
    exact .cons ⟨h, start, next⟩ (ih next)

/-- What no step brings about, and the last state has, every state had. -/
theorem Run.backward (inv : σ → Prop) (reflected : ∀ {a e b}, step a e b → inv b → inv a)
    (run : Run step a es b) (last : inv b) :
    inv a ∧ Run (fun a e b => step a e b ∧ inv a ∧ inv b) a es b := by
  induction run with
  | nil => exact ⟨last, .nil _⟩
  | cons h _ ih =>
    obtain ⟨next, rest⟩ := ih last
    have first := reflected h next
    exact ⟨first, .cons ⟨h, first, next⟩ rest⟩

lemma Run.mono {step' : σ → ε → σ → Prop} (sub : ∀ {a e b}, step a e b → step' a e b)
    (run : Run step a es b) : Run step' a es b := by
  induction run with
  | nil => exact .nil _
  | cons h _ ih => exact .cons (sub h) ih

/-- Every label of a run is that of one of its steps. -/
lemma Run.of_mem (run : Run step a es b) (listed : e ∈ es) :
    ∃ before after a' b', es = before ++ e :: after ∧ Run step a before a' ∧ step a' e b' ∧
      Run step b' after b := by
  induction run with
  | nil => cases listed
  | @cons a b c first rest h tail ih =>
    rcases List.mem_cons.mp listed with rfl | later
    · exact ⟨[], rest, a, b, rfl, .nil a, h, tail⟩
    · obtain ⟨before, after, a', b', rfl, early, here, late⟩ := ih later
      exact ⟨first :: before, after, a', b', rfl, .cons h early, here, late⟩

/-- A label that fires at most once: no step leaves the spent states, and what
fires starts outside them and ends inside. -/
structure OneShot (step : σ → ε → σ → Prop) (fires : ε → Bool) (spent : σ → Prop) : Prop where
  closed : ∀ {a e b}, step a e b → spent a → spent b
  armed : ∀ {a e b}, step a e b → fires e = true → ¬ spent a
  spends : ∀ {a e b}, step a e b → fires e = true → spent b

section oneShot

variable {fires : ε → Bool} {spent : σ → Prop}

/-- Nothing fires in a run from a spent state. -/
theorem OneShot.silent (shot : OneShot step fires spent) (run : Run step a es b) (start : spent a) :
    ∀ e ∈ es, fires e = false := by
  induction run with
  | nil => simp
  | cons h _ ih =>
    intro e listed
    rcases List.mem_cons.mp listed with rfl | later
    · apply Bool.eq_false_iff.mpr
      intro fired
      exact shot.armed h fired start
    · exact ih (shot.closed h start) e later

theorem OneShot.at_most_once (shot : OneShot step fires spent) (run : Run step a es b) : es.countP fires ≤ 1 := by
  induction run with
  | nil => simp
  | @cons a b c first rest h tail ih =>
    by_cases fired : fires first = true
    · have none := List.countP_eq_zero.mpr fun e listed => by
        simpa using shot.silent tail (shot.spends h fired) e listed
      rw [List.countP_cons_of_pos fired]
      omega
    · rw [List.countP_cons_of_neg fired]
      exact ih

end oneShot

/-- The labels one after the other, where a step is a function. -/
def play (next : σ → ε → Option σ) : List ε → σ → Option σ
  | [], a => some a
  | e :: es, a => (next a e).bind (play next es)

lemma play_run {next : σ → ε → Option σ} (played : play next es a = some b) :
    Run (fun a e b => next a e = some b) a es b := by
  induction es generalizing a with
  | nil =>
    cases played
    exact .nil _
  | cons e es ih =>
    obtain ⟨_, stepped, rest⟩ := Option.bind_eq_some_iff.mp played
    exact .cons stepped (ih rest)

end DBPilot.Runs
