import Mathlib.Tactic.Lemma

/-!
# Programs that call an environment

A program returns a value, or issues a command and goes on with the reply. What a
command may do is a relation between the states around it and the reply, and no reply
is a stop of the program at that command. `wp` is what must hold before a program so
that every command is issued in a state that is safe for it, every return meets the
postcondition and every stop leaves a state that is expected there.
-/

namespace DBPilot.Programs

inductive Prog (C : Type) (R : C → Type) (α : Type) where
  | pure (a : α)
  | call (c : C) (k : R c → Prog C R α)

variable {C : Type} {R : C → Type} {α β : Type} {σ A : Type}

def Prog.bind : Prog C R α → (α → Prog C R β) → Prog C R β
  | .pure a, f => f a
  | .call c k, f => .call c fun r => (k r).bind f

instance : Monad (Prog C R) where
  pure := .pure
  bind := .bind

/-- One command, and its reply. -/
def perform (c : C) : Prog C R (R c) := .call c .pure

/-- What the commands may do. -/
abbrev Moves (σ C : Type) (R : C → Type) := σ → (c : C) → Option (R c) → σ → Prop

/-- The executions of a program, with the commands and the states they are issued in. -/
inductive Exec (moves : Moves σ C R) : Prog C R α → σ → List (σ × C) → Option α → σ → Prop
  | pure {a : α} {s : σ} : Exec moves (.pure a) s [] (some a) s
  | stop {c : C} {k : R c → Prog C R α} {s s' : σ} (move : moves s c none s') :
      Exec moves (.call c k) s [(s, c)] none s'
  | call {c : C} {k : R c → Prog C R α} {s s' s'' : σ} {r : R c} {events : List (σ × C)} {o : Option α}
      (move : moves s c (some r) s') (rest : Exec moves (k r) s' events o s'') :
      Exec moves (.call c k) s ((s, c) :: events) o s''

def wp (moves : Moves σ C R) (safe : σ → C → Prop) (stopped : σ → Prop) : Prog C R α → (α → σ → Prop) → σ → Prop
  | .pure a, post, s => post a s
  | .call c k, post, s => safe s c ∧ ∀ r s', moves s c r s' →
      match r with
      | none => stopped s'
      | some r => wp moves safe stopped (k r) post s'

/-- How an execution ends. -/
def Ends (stopped : σ → Prop) (post : α → σ → Prop) : Option α → σ → Prop
  | none, s => stopped s
  | some a, s => post a s

section rules

variable {moves : Moves σ C R} {safe : σ → C → Prop} {stopped : σ → Prop} {p : Prog C R α} {f : α → Prog C R β}
  {post post' : α → σ → Prop} {goal : β → σ → Prop} {s s' : σ} {o : Option α} {events : List (σ × C)} {c : C}

lemma wp_pure {a : α} (h : post a s) : wp moves safe stopped (pure a : Prog C R α) post s := h

lemma wp_bind (h : wp moves safe stopped p (fun a => wp moves safe stopped (f a) goal) s) :
    wp moves safe stopped (p >>= f) goal s := by
  induction p generalizing s with
  | pure a => exact h
  | call c k ih =>
    refine ⟨h.1, ?_⟩
    intro r s' move
    have next := h.2 r s' move
    cases r with
    | none => exact next
    | some r => exact ih r next

lemma wp_mono (h : wp moves safe stopped p post s) (weaker : ∀ a s, post a s → post' a s) :
    wp moves safe stopped p post' s := by
  induction p generalizing s with
  | pure a => exact weaker a s h
  | call c k ih =>
    refine ⟨h.1, ?_⟩
    intro r s' move
    have next := h.2 r s' move
    cases r with
    | none => exact next
    | some r => exact ih r next

lemma wp_perform {post : R c → σ → Prop} (issued : safe s c)
    (replies : ∀ r s', moves s c (some r) s' → post r s') (stops : ∀ s', moves s c none s' → stopped s') :
    wp moves safe stopped (perform c) post s := by
  refine ⟨issued, ?_⟩
  intro r s' move
  cases r with
  | none => exact stops s' move
  | some r => exact replies r s' move

/-- What is shown of a program holds of its executions. -/
theorem Exec.sound (exec : Exec moves p s events o s') (h : wp moves safe stopped p post s) :
    (∀ event ∈ events, safe event.1 event.2) ∧ Ends stopped post o s' := by
  induction exec with
  | pure => exact ⟨fun _ member => absurd member List.not_mem_nil, h⟩
  | stop move =>
    refine ⟨?_, h.2 none _ move⟩
    intro event member
    rw [List.mem_singleton.mp member]
    exact h.1
  | call move _ ih =>
    obtain ⟨rest, last⟩ := ih (h.2 _ _ move)
    refine ⟨?_, last⟩
    intro event member
    rcases List.mem_cons.mp member with rfl | later
    · exact h.1
    · exact rest event later

/-- What every command preserves, every execution preserves. -/
theorem Exec.invariant (inv : σ → Prop) (preserved : ∀ {s c r s'}, moves s c r s' → inv s → inv s')
    (exec : Exec moves p s events o s') (start : inv s) : inv s' := by
  induction exec with
  | pure => exact start
  | stop move => exact preserved move start
  | call move _ ih => exact ih (preserved move start)

lemma Exec.mono {moves' : Moves σ C R} (exec : Exec moves p s events o s')
    (weaker : ∀ {s c r s'}, moves s c r s' → moves' s c r s') : Exec moves' p s events o s' := by
  induction exec with
  | pure => exact .pure
  | stop move => exact .stop (weaker move)
  | call move _ ih => exact .call (weaker move) ih

end rules

/-! Protocols: what a program may do next, whatever the state of the environment is. -/

/-- The commands that are permitted in a phase, the replies that are expected and the phase after them. -/
structure Protocol (C : Type) (R : C → Type) (P : Type) where
  permits : P → C → Prop
  replies : P → (c : C) → R c → Prop
  after : P → (c : C) → R c → P

section protocols

variable {P : Type}

def Protocol.Follows (protocol : Protocol C R P) : P → Prog C R α → (α → P → Prop) → Prop
  | phase, .pure a, post => post a phase
  | phase, .call c k, post =>
    protocol.permits phase c ∧ ∀ r, protocol.replies phase c r → protocol.Follows (protocol.after phase c r) (k r) post

variable {protocol : Protocol C R P} {phase : P} {p q : Prog C R α} {f : α → Prog C R β} {c : C}
  {post post' : α → P → Prop} {goal : β → P → Prop}

@[simp] lemma follows_pure {a : α} : protocol.Follows phase (pure a : Prog C R α) post ↔ post a phase := Iff.rfl

@[simp] lemma follows_return {a : α} : protocol.Follows phase (.pure a) post ↔ post a phase := Iff.rfl

@[simp] lemma follows_call {k : R c → Prog C R α} :
    protocol.Follows phase (.call c k) post ↔ protocol.permits phase c ∧
      ∀ r, protocol.replies phase c r → protocol.Follows (protocol.after phase c r) (k r) post := Iff.rfl

@[simp] lemma follows_bind : protocol.Follows phase (p >>= f) goal ↔
    protocol.Follows phase p fun a phase' => protocol.Follows phase' (f a) goal := by
  induction p generalizing phase with
  | pure a => exact Iff.rfl
  | call c k ih => exact and_congr Iff.rfl (forall₂_congr fun r _ => ih r)

@[simp] lemma follows_ite {condition : Prop} [Decidable condition] :
    protocol.Follows phase (if condition then p else q) post ↔
      (condition → protocol.Follows phase p post) ∧ (¬ condition → protocol.Follows phase q post) := by
  split <;> simp [*]

lemma Protocol.Follows.perform {f : R c → Prog C R β} (permitted : protocol.permits phase c)
    (h : ∀ r, protocol.replies phase c r → protocol.Follows (protocol.after phase c r) (f r) goal) :
    protocol.Follows phase (Programs.perform c >>= f) goal := follows_bind.mpr ⟨permitted, h⟩

lemma Protocol.Follows.mono (follows : protocol.Follows phase p post)
    (weaker : ∀ a phase, post a phase → post' a phase) : protocol.Follows phase p post' := by
  induction p generalizing phase with
  | pure a => exact weaker a phase follows
  | call c k ih => exact ⟨follows.1, fun r expected => ih r (follows.2 r expected)⟩

/-- An environment that keeps a phase's condition through every permitted command keeps it
through every program that follows the protocol. -/
theorem Protocol.Follows.wp {moves : Moves σ C R} {safe : σ → C → Prop} {stopped : σ → Prop} {s : σ}
    (holds : P → σ → Prop)
    (step : ∀ {phase c s}, protocol.permits phase c → holds phase s → wp moves safe stopped (Programs.perform c)
      (fun r s' => protocol.replies phase c r ∧ holds (protocol.after phase c r) s') s)
    (follows : protocol.Follows phase p post) (start : holds phase s) :
    wp moves safe stopped p (fun a s' => ∃ phase', post a phase' ∧ holds phase' s') s := by
  induction p generalizing phase s with
  | pure a => exact ⟨phase, follows, start⟩
  | call c k ih =>
    refine wp_bind (wp_mono (step follows.1 start) ?_)
    rintro r s' ⟨expected, holds'⟩
    exact ih r (follows.2 r expected) holds'

end protocols

section handlers

variable (handle : σ → (c : C) → A → Option (R c) × σ) (fits : σ → (c : C) → Option (R c) → σ → Bool)

/-- The moves of a handler whose answers come from outside, as far as they fit. -/
def Handled : Moves σ C R := fun s c r s' => (∃ answer, handle s c answer = (r, s')) ∧ fits s c r s' = true

/-- The execution under given answers; nothing when one of them does not fit. -/
def Prog.run : Prog C R α → (Nat → A) → σ → Option (List (σ × C) × Option α × σ)
  | .pure a, _, s => some ([], some a, s)
  | .call c k, answers, s =>
    match handle s c (answers 0) with
    | (none, s') => if fits s c none s' then some ([(s, c)], none, s') else none
    | (some r, s') =>
      if fits s c (some r) s' then
        ((k r).run (fun n => answers (n + 1)) s').map fun rest => ((s, c) :: rest.1, rest.2)
      else none

variable {handle fits} {p : Prog C R α} {answers : Nat → A} {s s' : σ} {o : Option α} {events : List (σ × C)}

theorem Prog.run_exec (ran : p.run handle fits answers s = some (events, o, s')) :
    Exec (Handled handle fits) p s events o s' := by
  induction p generalizing answers s events with
  | pure a =>
    cases ran
    exact .pure
  | call c k ih =>
    unfold Prog.run at ran
    split at ran
    · rename_i next handled
      split at ran
      · rename_i fit
        cases ran
        exact .stop ⟨⟨_, handled⟩, fit⟩
      · cases ran
    · rename_i r next handled
      split at ran
      · rename_i fit
        obtain ⟨⟨events', o', last⟩, later, same⟩ := Option.map_eq_some_iff.mp ran
        cases same
        exact .call ⟨⟨_, handled⟩, fit⟩ (ih r later)
      · cases ran

end handlers

end DBPilot.Programs
