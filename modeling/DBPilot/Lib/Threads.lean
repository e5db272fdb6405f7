import DBPilot.Lib.Programs
import DBPilot.Lib.Runs

/-!
# Programs that run side by side

Threads share a state, and each command of a thread is one atomic step. A thread is
known by its number. `Safe` is what must hold of a thread so that, whatever the others
do within `rely`, its commands keep the invariant and stay within what the others rely
on, and its return meets the postcondition. Threads that are all safe stay safe.
-/

namespace DBPilot.Threads

open Programs Runs

variable {σ C : Type} {R : C → Type} {κ α β A : Type}

/-- What a system is made of: its calls, and what a thread's commands, its start and
its return do to the shared state. -/
structure System (σ C : Type) (R : C → Type) (κ α : Type) where
  program : κ → Prog C R α
  moves : Nat → Moves σ C R
  starts : Nat → κ → σ → σ
  returns : Nat → α → σ → σ

structure Pool (σ C : Type) (R : C → Type) (α : Type) where
  shared : σ
  running : List (Nat × Prog C R α)
  /-- The number of the next thread. -/
  next : Nat

inductive Label (κ : Type) where
  | start (call : κ)
  | turn (thread : Nat)

inductive Step (system : System σ C R κ α) : Pool σ C R α → Label κ → Pool σ C R α → Prop
  | start (call : κ) (s : σ) (threads : List (Nat × Prog C R α)) (n : Nat) :
      Step system ⟨s, threads, n⟩ (.start call) ⟨system.starts n call s, (n, system.program call) :: threads, n + 1⟩
  | move {s s' : σ} {thread n : Nat} {c : C} {k : R c → Prog C R α} {r : R c}
      {before after : List (Nat × Prog C R α)} (moves : system.moves thread s c (some r) s') :
      Step system ⟨s, before ++ (thread, .call c k) :: after, n⟩ (.turn thread)
        ⟨s', before ++ (thread, k r) :: after, n⟩
  | stop {s s' : σ} {thread n : Nat} {c : C} {k : R c → Prog C R α} {before after : List (Nat × Prog C R α)}
      (moves : system.moves thread s c none s') :
      Step system ⟨s, before ++ (thread, .call c k) :: after, n⟩ (.turn thread) ⟨s', before ++ after, n⟩
  | return {s : σ} {thread n : Nat} {a : α} {before after : List (Nat × Prog C R α)} :
      Step system ⟨s, before ++ (thread, .pure a) :: after, n⟩ (.turn thread)
        ⟨system.returns thread a s, before ++ after, n⟩

/-- The assumptions of a proof about a system. -/
structure Contract (σ : Type) where
  inv : σ → Prop
  /-- What the other threads may do, as seen by this one. -/
  rely : Nat → σ → σ → Prop
  refl : ∀ thread s, rely thread s s
  trans : ∀ thread {a b c}, rely thread a b → rely thread b c → rely thread a c

namespace Contract

variable (contract : Contract σ)

/-- A step of one thread that the invariant and the other threads allow. -/
structure Permits (thread : Nat) (s s' : σ) : Prop where
  inv : contract.inv s'
  others : ∀ other, other ≠ thread → contract.rely other s s'

def Safe (moves : Nat → Moves σ C R) (thread : Nat) : Prog C R α → (α → σ → Prop) → σ → Prop
  | .pure a, post, s => ∀ now, contract.rely thread s now → contract.inv now → post a now
  | .call c k, post, s => ∀ now, contract.rely thread s now → contract.inv now → ∀ r s', moves thread now c r s' →
      contract.Permits thread now s' ∧
        match r with
        | none => True
        | some r => Safe moves thread (k r) post s'

variable {contract} {moves : Nat → Moves σ C R} {thread : Nat} {p : Prog C R α} {post post' : α → σ → Prop} {s now : σ}

lemma Safe.mono (safe : contract.Safe moves thread p post s) (later : contract.rely thread s now) :
    contract.Safe moves thread p post now := by
  cases p with
  | pure a | call c k => exact fun last others inv => safe last (contract.trans thread later others) inv

section

variable (safe : contract.Safe moves thread p post s)
include safe

/-- The rule of consequence, with what no thread undoes. -/
lemma Safe.consequence {known : σ → Prop} (start : known s)
    (lasts : ∀ other s s', contract.rely other s s' → known s → known s')
    (weaker : ∀ a now, contract.inv now → post a now → known now → post' a now) :
    contract.Safe moves thread p post' s := by
  induction p generalizing s with
  | pure a => exact fun now others inv => weaker a now inv (safe now others inv) (lasts thread s now others start)
  | call c k ih =>
    intro now others inv r s' move
    obtain ⟨permitted, rest⟩ := safe now others inv r s' move
    refine ⟨permitted, ?_⟩
    cases r with
    | none => trivial
    | some r =>
      have seen := permitted.others (thread + 1) (Nat.succ_ne_self thread)
      exact ih r rest (lasts _ now s' seen (lasts thread s now others start))

lemma Safe.weaken (weaker : ∀ a now, contract.inv now → post a now → post' a now) :
    contract.Safe moves thread p post' s :=
  safe.consequence (trivial : (fun _ => True) s) (fun _ _ _ _ _ => trivial) fun a now inv h _ => weaker a now inv h

lemma Safe.frame {known : σ → Prop} (start : known s)
    (lasts : ∀ other s s', contract.rely other s s' → known s → known s') :
    contract.Safe moves thread p (fun a now => post a now ∧ known now) s :=
  safe.consequence start lasts fun _ _ _ h here => ⟨h, here⟩

end

end Contract

variable {before after : List (Nat × Prog C R α)} {thread : Nat} {rest : Prog C R α}

section run

variable (contract : Contract σ) (system : System σ C R κ α)

/-- What a return must meet. -/
def Returns (thread : Nat) (a : α) (s : σ) : Prop := contract.Permits thread s (system.returns thread a s)

/-- Every call is safe from its start on. -/
structure Verified : Prop where
  starts : ∀ n call s, contract.inv s → contract.Permits n s (system.starts n call s)
  safe : ∀ n call s, contract.inv s →
    contract.Safe system.moves n (system.program call) (Returns contract system n) (system.starts n call s)

structure Sound (pool : Pool σ C R α) : Prop where
  inv : contract.inv pool.shared
  distinct : (pool.running.map Prod.fst).Nodup
  known : ∀ thread ∈ pool.running.map Prod.fst, thread < pool.next
  safe : ∀ thread ∈ pool.running,
    contract.Safe system.moves thread.1 thread.2 (Returns contract system thread.1) pool.shared

variable {contract system} {pool pool' : Pool σ C R α} {label : Label κ}

/-- The other threads stay safe. -/
lemma Sound.others {s' : σ} {n : Nat} {s : σ}
    (sound : Sound contract system ⟨s, before ++ (thread, rest) :: after, n⟩)
    (permitted : contract.Permits thread s s') :
    Sound contract system ⟨s', before ++ after, n⟩ := by
  have sub : (before ++ after).Sublist (before ++ (thread, rest) :: after) :=
    (List.sublist_cons_self _ _).append_left before
  refine ⟨permitted.inv, sound.distinct.sublist (sub.map _), ?_, ?_⟩
  · exact fun other member => sound.known other ((sub.map _).subset member)
  · intro other member
    refine (sound.safe other (sub.subset member)).mono (permitted.others other.1 ?_)
    rintro rfl
    have nodup := sound.distinct
    rw [List.map_append, List.map_cons, List.nodup_append, List.nodup_cons] at nodup
    obtain ⟨_, ⟨fresh, _⟩, apart⟩ := nodup
    rcases List.mem_append.mp member with early | late
    · exact apart other.1 (List.mem_map_of_mem early) other.1 List.mem_cons_self rfl
    · have listed : other.1 ∈ after.map Prod.fst := List.mem_map_of_mem late
      exact fresh listed

lemma Sound.moved {s s' : σ} {n : Nat} {rest' : Prog C R α}
    (sound : Sound contract system ⟨s, before ++ (thread, rest) :: after, n⟩)
    (permitted : contract.Permits thread s s')
    (safe : contract.Safe system.moves thread rest' (Returns contract system thread) s') :
    Sound contract system ⟨s', before ++ (thread, rest') :: after, n⟩ := by
  have others := sound.others permitted
  have names : (before ++ (thread, rest') :: after).map Prod.fst = (before ++ (thread, rest) :: after).map Prod.fst := by
    simp
  refine ⟨permitted.inv, names ▸ sound.distinct, names ▸ sound.known, ?_⟩
  intro other member
  rcases List.mem_append.mp member with early | late
  · exact others.safe other (List.mem_append_left _ early)
  · rcases List.mem_cons.mp late with rfl | later
    · exact safe
    · exact others.safe other (List.mem_append_right _ later)

theorem Step.sound (verified : Verified contract system) (step : Step system pool label pool')
    (sound : Sound contract system pool) : Sound contract system pool' := by
  cases step with
  | start call s threads n =>
    have permitted := verified.starts n call s sound.inv
    have fresh : n ∉ threads.map Prod.fst := fun member => Nat.lt_irrefl n (sound.known n member)
    refine ⟨permitted.inv, List.nodup_cons.mpr ⟨fresh, sound.distinct⟩, ?_, ?_⟩
    · intro other member
      rcases List.mem_cons.mp member with rfl | old
      · exact Nat.lt_succ_self _
      · exact Nat.lt_succ_of_lt (sound.known other old)
    · intro other member
      rcases List.mem_cons.mp member with rfl | old
      · exact verified.safe n call s sound.inv
      · refine (sound.safe other old).mono (permitted.others other.1 ?_)
        rintro rfl
        exact fresh (List.mem_map_of_mem old)
  | @move s s' thread n c k r before after move =>
    have here := sound.safe (thread, .call c k) (List.mem_append_right _ List.mem_cons_self)
    obtain ⟨permitted, next⟩ := here s (contract.refl thread s) sound.inv (some r) s' move
    exact sound.moved permitted next
  | @stop s s' thread n c k before after move =>
    have here := sound.safe (thread, .call c k) (List.mem_append_right _ List.mem_cons_self)
    exact sound.others (here s (contract.refl thread s) sound.inv none s' move).1
  | @«return» s thread n a before after =>
    have here := sound.safe (thread, .pure a) (List.mem_append_right _ List.mem_cons_self)
    exact sound.others (here s (contract.refl thread s) sound.inv)

/-- Whatever the interleaving, the invariant holds in every state of a run. -/
theorem run_sound (verified : Verified contract system) {labels : List (Label κ)}
    (run : Run (Step system) pool labels pool') (sound : Sound contract system pool) :
    Sound contract system pool' :=
  run.invariant (Sound contract system) (fun step before => step.sound verified before) sound

lemma sound_idle {s : σ} (inv : contract.inv s) : Sound contract system ⟨s, [], 0⟩ :=
  ⟨inv, List.nodup_nil, nofun, nofun⟩

end run

section effects

variable {allowed : C → Prop}

/-- Every command that the program may issue, whatever the replies are. -/
def Only (allowed : C → Prop) : Prog C R α → Prop
  | .pure _ => True
  | .call c k => allowed c ∧ ∀ r, Only allowed (k r)

lemma only_bind {p : Prog C R α} {f : α → Prog C R β} (first : Only allowed p) (rest : ∀ a, Only allowed (f a)) :
    Only allowed (p >>= f) := by
  induction p with
  | pure a => exact rest a
  | call c k ih => exact ⟨first.1, fun r => ih r (first.2 r)⟩

lemma only_perform {c : C} (h : allowed c) : Only allowed (perform c : Prog C R (R c)) := ⟨h, fun _ => trivial⟩

variable {system : System σ C R κ α} {pool pool' : Pool σ C R α} {label : Label κ}

lemma Step.only (programs : ∀ call, Only allowed (system.program call)) (step : Step system pool label pool')
    (before : ∀ thread ∈ pool.running, Only allowed thread.2) : ∀ thread ∈ pool'.running, Only allowed thread.2 := by
  cases step with
  | start call => exact List.forall_mem_cons.mpr ⟨programs call, before⟩
  | @move _ _ _ _ _ _ r =>
    obtain ⟨first, rest⟩ := List.forall_mem_append.mp before
    obtain ⟨here, last⟩ := List.forall_mem_cons.mp rest
    exact List.forall_mem_append.mpr ⟨first, List.forall_mem_cons.mpr ⟨here.2 r, last⟩⟩
  | stop move | «return» =>
    obtain ⟨first, rest⟩ := List.forall_mem_append.mp before
    exact List.forall_mem_append.mpr ⟨first, (List.forall_mem_cons.mp rest).2⟩

/-- What the commands, the starts and the returns do, every step does. -/
lemma Step.effect {effect : σ → σ → Prop} (starts : ∀ n call s, effect s (system.starts n call s))
    (returns : ∀ n a s, effect s (system.returns n a s))
    (moves : ∀ thread s c r s', allowed c → system.moves thread s c r s' → effect s s')
    (step : Step system pool label pool') (before : ∀ thread ∈ pool.running, Only allowed thread.2) :
    effect pool.shared pool'.shared := by
  cases step with
  | start call s threads n => exact starts n call s
  | move move | stop move =>
    exact moves _ _ _ _ _ (before _ (List.mem_append_right _ List.mem_cons_self)).1 move
  | «return» => exact returns _ _ _

end effects

section protocols

variable {P : Type} {protocol : Protocol C R P} {p : Prog C R α} {post : α → P → Prop} {phase : P}

/-- A thread that follows a protocol is safe, where what its phases say lasts whatever the
others do, and each permitted command leads from one phase to the next. -/
theorem Contract.safe_of_follows {contract : Contract σ} {moves : Nat → Moves σ C R} {s : σ}
    {holds : P → σ → Prop}
    (stable : ∀ {phase s s'}, holds phase s → contract.rely thread s s' → contract.inv s' → holds phase s')
    (step : ∀ {phase c s r s'}, protocol.permits phase c → holds phase s → contract.inv s → moves thread s c r s' →
      contract.Permits thread s s' ∧ ∀ reply, r = some reply → protocol.replies phase c reply ∧
        holds (protocol.after phase c reply) s')
    (follows : protocol.Follows phase p post) (start : holds phase s) :
    contract.Safe moves thread p (fun a s' => ∃ phase', post a phase' ∧ holds phase' s') s := by
  induction p generalizing phase s with
  | pure a => exact fun now others inv => ⟨phase, follows, stable start others inv⟩
  | call c k ih =>
    intro now others inv r s' move
    obtain ⟨permitted, next⟩ := step follows.1 (stable start others inv) inv move
    refine ⟨permitted, ?_⟩
    cases r with
    | none => trivial
    | some reply =>
      obtain ⟨expected, holds'⟩ := next reply rfl
      exact ih reply (follows.2 reply expected) holds'

end protocols

section play

variable (system : System σ C R κ α) (handle : Nat → σ → (c : C) → A → Option (R c) × σ)
  (fits : Nat → σ → (c : C) → Option (R c) → σ → Bool)

/-- What to do next, with the answer to the command where a thread takes a turn. -/
inductive Action (κ A : Type) where
  | start (call : κ)
  | turn (thread : Nat) (answer : A)

def Action.label : Action κ A → Label κ
  | .start call => .start call
  | .turn thread _ => .turn thread

/-- Takes the thread of that number out of the list. -/
def focus (thread : Nat) : List (Nat × Prog C R α) →
    Option (List (Nat × Prog C R α) × Prog C R α × List (Nat × Prog C R α))
  | [] => none
  | (other, rest) :: threads =>
    if other = thread then some ([], rest, threads)
    else (focus thread threads).map fun found => ((other, rest) :: found.1, found.2)

def play (pool : Pool σ C R α) : Action κ A → Option (Pool σ C R α)
  | .start call =>
    some ⟨system.starts pool.next call pool.shared, (pool.next, system.program call) :: pool.running, pool.next + 1⟩
  | .turn thread answer =>
    match focus thread pool.running with
    | none => none
    | some (before, .pure a, after) => some ⟨system.returns thread a pool.shared, before ++ after, pool.next⟩
    | some (before, .call c k, after) =>
      match handle thread pool.shared c answer with
      | (none, s') => if fits thread pool.shared c none s' then some ⟨s', before ++ after, pool.next⟩ else none
      | (some r, s') =>
        if fits thread pool.shared c (some r) s' then some ⟨s', before ++ (thread, k r) :: after, pool.next⟩ else none

def playAll (pool : Pool σ C R α) : List (Action κ A) → Option (Pool σ C R α)
  | [] => some pool
  | action :: actions =>
    match play system handle fits pool action with
    | none => none
    | some pool => playAll pool actions

variable {system handle fits}

lemma focus_eq_some {threads : List (Nat × Prog C R α)}
    (found : focus thread threads = some (before, rest, after)) : threads = before ++ (thread, rest) :: after := by
  induction threads generalizing before with
  | nil => cases found
  | cons first threads ih =>
    obtain ⟨other, program⟩ := first
    unfold focus at found
    split at found
    · rename_i same
      cases found
      rw [same]
      rfl
    · obtain ⟨⟨early, later⟩, inner, same⟩ := Option.map_eq_some_iff.mp found
      cases same
      rw [ih inner]
      rfl

lemma play_step (moves : system.moves = fun thread => Handled (handle thread) (fits thread))
    {pool pool' : Pool σ C R α} {action : Action κ A}
    (played : play system handle fits pool action = some pool') : Step system pool action.label pool' := by
  obtain ⟨s, threads, n⟩ := pool
  cases action with
  | start call =>
    cases played
    exact .start call s threads n
  | turn thread answer =>
    simp only [play] at played
    split at played
    · cases played
    · rename_i before a after found
      cases played
      rw [focus_eq_some found]
      exact .return
    · rename_i before c k after found
      rw [focus_eq_some found]
      split at played
      · rename_i s' handled
        split at played
        · cases played
          refine .stop ?_
          rw [moves]
          exact ⟨⟨answer, handled⟩, ‹_›⟩
        · cases played
      · rename_i r s' handled
        split at played
        · cases played
          refine .move ?_
          rw [moves]
          exact ⟨⟨answer, handled⟩, ‹_›⟩
        · cases played

theorem playAll_run (moves : system.moves = fun thread => Handled (handle thread) (fits thread))
    {pool pool' : Pool σ C R α} {actions : List (Action κ A)}
    (played : playAll system handle fits pool actions = some pool') :
    Run (Step system) pool (actions.map Action.label) pool' := by
  induction actions generalizing pool with
  | nil =>
    cases played
    exact .nil _
  | cons action actions ih =>
    unfold playAll at played
    split at played
    · cases played
    · rename_i middle first
      exact .cons (play_step moves first) (ih played)

end play

end DBPilot.Threads
