import DBPilot.Plugins.Crash
import DBPilot.Supervisor.Effects

/-!
# The active marker and the stored slot

The installer keeps the active slot in a marker, the supervisor keeps it in the stored
state. The two are aligned when every store that a crash may bring back has the slot of
every marker that it may leave. What each command of the supervisor does to this, if
steps may fail and the Agent may stop.
-/

namespace DBPilot.Supervisor

open FiniteMaps Directories Programs Plugins
open Jobs (Instant)

variable {B : Type}

/-- The active slot that a store has for a family. -/
def slotIn (store : FileStore) (family : String) : Slot := (store.get family).elim .none (·.activeSlot)

def World.slotOf (w : World B) (family : String) : Slot := slotIn w.machine.store family

/-- The stores that may be opened after a crash. -/
def Live (h : History) (m : Machine B) (store : FileStore) : Prop :=
  store = m.store ∨ store ∈ h.failures ∧ store.revision = m.store.revision + 1

/-- A store with this slot fits the directory of a family, where the current store has another slot at
most if the store has none and the tree of the current slot is gone. -/
structure Agree (tree : FamilyTree) (current slot : Slot) : Prop where
  marker : ∀ marked, tree.marker.Holds () marked → slot = marked
  gone : slot = current ∨ slot = .none ∧ ∀ content, ¬ tree.slots.Holds current content

def AlignedFor [StateCodec B] (which : String → Prop) (w : World B) : Prop :=
  ∃ h, Safe h w.machine ∧ (∀ store ∈ h.failures, store.revision ≤ w.machine.store.revision + 1) ∧
    ∀ family, which family → ∀ store, Live h w.machine store →
      Agree (w.tree family) (w.slotOf family) (slotIn store family)

def Aligned [StateCodec B] (w : World B) : Prop := AlignedFor (fun _ => True) w

/-- The marker of a family has been set to a slot, and the store may not have it yet. -/
structure Turning [StateCodec B] (family : String) (slot : Slot) (w : World B) : Prop where
  others : AlignedFor (· ≠ family) w
  marker : ∀ marked, (w.tree family).marker.Holds () marked → marked = slot
  active : (w.tree family).active = some slot
  settled : w.slotOf family = slot → Aligned w

/-- The installer finds no content in the directories that was not there. -/
def Shrinks (tree tree' : FamilyTree) : Prop :=
  (∀ slot, tree'.marker.Holds () slot → tree.marker.Holds () slot) ∧
    ∀ slot content, tree'.slots.Holds slot content → ∃ content, tree.slots.Holds slot content

variable {tree : FamilyTree}

lemma Shrinks.refl : Shrinks tree tree := ⟨fun _ => id, fun _ content holds => ⟨content, holds⟩⟩

lemma Agree.shrinks {tree' : FamilyTree} {current slot : Slot} (agree : Agree tree current slot)
    (shrinks : Shrinks tree tree') : Agree tree' current slot := by
  refine ⟨fun marked holds => agree.marker marked (shrinks.1 marked holds), agree.gone.imp_right ?_⟩
  rintro ⟨empty, gone⟩
  refine ⟨empty, ?_⟩
  intro content holds
  obtain ⟨content, held⟩ := shrinks.2 current content holds
  exact gone content held

section store

variable [StateCodec B] {h : History} {m m' : Machine B} {faults : Faults B} {now : Instant} {state : FamilyState}
  {result : Except StateError FamilyState} {w w' : World B} {family : String} {which : String → Prop}

lemma slotIn_set {store next : FileStore} {kept : FamilyState}
    (families : next.families = store.families.set family kept) (other : String) :
    slotIn next other = if other = family then kept.activeSlot else slotIn store other := by
  unfold slotIn FileStore.get
  rw [families]
  split
  · rename_i same
    rw [same, FiniteMap.get_set_self]
    rfl
  · rename_i differs
    rw [FiniteMap.get_set_of_ne differs]

/-- What a put makes of the store and of what a crash may bring back. -/
lemma put_effect (safe : Safe h m) (done : Plugins.put faults now state m = (m', result)) :
    Safe h m' ∧ m'.store = m.store ∧ result.isOk = false ∨
      ∃ next, next.revision = m.store.revision + 1 ∧
        (∀ other, slotIn next other =
          if other = state.databaseFamily then state.activeSlot else slotIn m.store other) ∧
        (Safe ⟨h.success, h.failures ++ [next]⟩ m' ∧ m'.store = m.store ∧ result.isOk = false ∨
          Safe ⟨next, []⟩ m' ∧ m'.store = next ∧ ∃ revision, result = .ok (saved revision state)) := by
  cases prepared : preparePut faults.cancelled now state m.store with
  | error e =>
    rw [put_of_error prepared] at done
    cases done
    exact .inl ⟨safe, rfl, rfl⟩
  | ok both =>
    obtain ⟨kept, next⟩ := both
    obtain ⟨succeeds, rfl, families⟩ := preparePut_ok safe.fit prepared
    cases committed : commit faults next m with
    | mk =>
      rw [put_of_ok prepared committed] at done
      cases done
      have commits := commit_commits succeeds committed
      have again := safe.commits succeeds commits
      have slots := slotIn_set families
      refine .inr ⟨next, succeeds.revision, slots, ?_⟩
      cases commits with
      | idle e | failed e => exact .inl ⟨again, rfl, rfl⟩
      | done => exact .inr ⟨again, rfl, _, rfl⟩

/-- A put of a state that has the slot of the store, or of one without a slot when the directory of its
family is empty. -/
lemma AlignedFor.put (aligned : AlignedFor which w) (done : Plugins.put faults now state w.machine = (m', result))
    (fits : which state.databaseFamily → state.activeSlot = w.slotOf state.databaseFamily ∨
      state.activeSlot = .none ∧ w.tree state.databaseFamily = .empty) :
    AlignedFor which { w with machine := m' } := by
  obtain ⟨h, safe, bounded, agree⟩ := aligned
  have now := fun family wanted => agree family wanted w.machine.store (.inl rfl)
  obtain ⟨safe', same, _⟩ | ⟨next, revision, slots, outcome⟩ := put_effect safe done
  · refine ⟨h, safe', ?_, ?_⟩
    · dsimp only
      rw [same]
      exact bounded
    intro family wanted store live
    unfold Live at live
    unfold World.slotOf
    dsimp only at live ⊢
    rw [same] at live ⊢
    exact agree family wanted store live
  · -- The store that was tried fits wherever the old one did.
    have tried : ∀ family, which family → (w.slotOf family = slotIn next family ∨ w.tree family = .empty) ∧
        Agree (w.tree family) (w.slotOf family) (slotIn next family) := by
      intro family wanted
      by_cases own : family = state.databaseFamily
      · subst own
        rw [slots, if_pos rfl]
        obtain same | ⟨none, empty⟩ := fits wanted
        · rw [same]
          exact ⟨.inl rfl, now _ wanted⟩
        refine ⟨.inr empty, ?_, .inr ⟨none, ?_⟩⟩
        · rw [empty]
          intro marked holds
          cases Directory.holds_settled.mp holds
        · rw [empty]
          intro content holds
          cases Directory.holds_settled.mp holds
      · rw [slots, if_neg own]
        exact ⟨.inl rfl, now family wanted⟩
    obtain ⟨safe', same, _⟩ | ⟨safe', same, _⟩ := outcome
    · refine ⟨_, safe', ?_, ?_⟩
      · intro store member
        dsimp only
        rw [same]
        obtain old | new := List.mem_append.mp member
        · exact bounded store old
        · rw [List.mem_singleton.mp new, revision]
      · intro family wanted store live
        unfold World.slotOf
        dsimp only
        rw [same]
        obtain rfl | ⟨member, later⟩ := live
        · rw [same]
          exact now family wanted
        obtain old | new := List.mem_append.mp member
        · dsimp only at later
          rw [same] at later
          exact agree family wanted store (.inr ⟨old, later⟩)
        · rw [List.mem_singleton.mp new]
          exact (tried family wanted).2
    · refine ⟨_, safe', fun _ member => absurd member List.not_mem_nil, ?_⟩
      intro family wanted store live
      obtain rfl | ⟨member, _⟩ := live
      · unfold World.slotOf
        dsimp only
        rw [same]
        exact ⟨(tried family wanted).2.marker, .inl rfl⟩
      · exact absurd member List.not_mem_nil

lemma Turning.put {slot : Slot} {revision : Nat} (turning : Turning family slot w)
    (done : Plugins.put faults now state w.machine = (m', .ok (saved revision state)))
    (named : state.databaseFamily = family) (turned : state.activeSlot = slot) :
    Aligned { w with machine := m' } := by
  obtain ⟨h, safe, bounded, agree⟩ := turning.others
  obtain ⟨_, _, fails⟩ | ⟨next, _, slots, ⟨_, _, fails⟩ | ⟨safe', same, _⟩⟩ := put_effect safe done
  · cases fails
  · cases fails
  · refine ⟨_, safe', fun _ member => absurd member List.not_mem_nil, ?_⟩
    intro other _ store live
    obtain rfl | ⟨member, _⟩ := live
    · unfold World.slotOf
      dsimp only
      rw [same]
      refine ⟨?_, .inl rfl⟩
      intro marked holds
      rw [slots]
      split
      · rename_i own
        rw [own, named] at holds
        rw [turned, turning.marker marked holds]
      · rename_i differs
        have apart : other ≠ family := fun own => differs (own.trans named.symm)
        exact (agree other apart w.machine.store (.inl rfl)).marker marked holds
    · exact absurd member List.not_mem_nil

/-- A command that writes no state. -/
lemma AlignedFor.shrinks (aligned : AlignedFor which w) (machine : w'.machine = w.machine)
    (shrinks : ∀ family, which family → Shrinks (w.tree family) (w'.tree family)) : AlignedFor which w' := by
  obtain ⟨h, safe, bounded, agree⟩ := aligned
  refine ⟨h, by rwa [machine], by rwa [machine], ?_⟩
  intro family wanted store live
  unfold World.slotOf
  rw [machine] at live ⊢
  exact (agree family wanted store live).shrinks (shrinks family wanted)

end store

/-! The installer. -/

variable {platform : Platform} {identity : SlotIdentity}

section installer

variable {tree tree' : FamilyTree} {faults : InstallerFaults} {slot : Slot} {result : Except SupervisorError Unit}

lemma holds_leave {left : Slot → Option SlotTree} {slots : Directory Slot SlotTree} {other : Slot} {content : SlotTree}
    (holds : (leave left slots slot).Holds other content) : ∃ content, slots.Holds other content := by
  unfold leave at holds
  split at holds
  · exact ⟨content, holds⟩
  rename_i present
  obtain ⟨old, visible⟩ := Option.ne_none_iff_exists'.mp fun none => present (Option.isNone_iff_eq_none.mpr none)
  split at holds
  · exact ⟨content, Directory.holds_unlink holds⟩
  · obtain held | leaves := Directory.holds_perform holds
    · exact ⟨content, held⟩
    · cases leaves
      exact ⟨old, Directory.holds_visible visible⟩

lemma removeInactiveSlot_shrinks (done : removeInactiveSlot faults slot tree = (result, tree')) :
    Shrinks tree tree' := by
  unfold removeInactiveSlot at done
  split at done
  · cases done
    exact .refl
  split at done
  · cases done
    exact .refl
  split at done
  · cases done
    exact .refl
  dsimp only at done
  split at done
  · rename_i present _
    obtain ⟨old, visible⟩ := Option.isSome_iff_exists.mp present
    split at done
    · cases done
      exact ⟨fun _ => id, fun _ content holds => ⟨content, Directory.holds_unlink holds⟩⟩
    cases done
    refine ⟨fun _ => id, ?_⟩
    intro other content holds
    -- Whatever becomes of the slot, it was there.
    obtain held | leaves := Directory.holds_perform holds
    · exact ⟨content, held⟩
    · cases leaves
      exact ⟨old, Directory.holds_visible visible⟩
  · have removed : ∀ {other content}, (if (tree.slots.visible slot).isSome = true then
        tree.slots.perform (.unlink slot) else tree.slots).Holds other content →
        ∃ content, tree.slots.Holds other content := by
      intro other content holds
      split at holds
      · exact ⟨content, Directory.holds_unlink holds⟩
      · exact ⟨content, holds⟩
    split at done
    · cases done
      exact ⟨fun _ => id, fun _ _ => removed⟩
    · cases done
      exact ⟨fun _ => id, fun _ _ holds => removed (Directory.holds_sync holds)⟩

lemma removeFamilyTree_shrinks (done : removeFamilyTree faults tree = (result, tree')) :
    Shrinks tree tree' ∧ (result = .ok () → tree' = .empty) := by
  have left : ∀ {left : Slot → Option SlotTree} {other content},
      (leave left (leave left tree.slots .a) .b).Holds other content → ∃ content, tree.slots.Holds other content := by
    intro left other content holds
    obtain ⟨_, holds⟩ := holds_leave holds
    exact holds_leave holds
  unfold removeFamilyTree at done
  split at done
  · cases done
    exact ⟨.refl, nofun⟩
  split at done
  · cases done
    refine ⟨⟨?_, fun _ _ => left⟩, nofun⟩
    intro marked holds
    dsimp only at holds
    split at holds
    · exact holds
    · exact Directory.holds_unlink holds
  · split at done
    · cases done
      exact ⟨⟨fun _ => Directory.holds_unlink, fun _ _ => left⟩, nofun⟩
    cases done
    refine ⟨⟨?_, ?_⟩, fun _ => rfl⟩
    · intro marked holds
      cases Directory.holds_settled.mp holds
    · intro other content holds
      cases Directory.holds_settled.mp holds

lemma recoverTree_shrinks (done : recoverTree faults tree = (result, tree')) : Shrinks tree tree' := by
  unfold recoverTree at done
  split at done
  · cases done
    exact .refl
  split at done
  · cases done
    exact .refl
  split at done
  · cases done
    exact .refl
  · cases done
    exact ⟨fun _ => Directory.holds_sync, fun _ content holds => ⟨content, holds⟩⟩

/-- An installation touches its slot and no marker. -/
lemma installInactive_effect {request : InstallRequest} {result : Except SupervisorError InstalledSlot}
    (done : installInactive platform faults request slot tree = (result, tree')) :
    tree'.marker = tree.marker ∧ ∀ other ≠ slot, ∀ content, tree'.slots.Holds other content →
      tree.slots.Holds other content := by
  have same : tree' = tree ∨ ∃ content, tree' = { tree with slots := tree.slots.perform (.link slot content) } ∨
      tree' = { tree with slots := (tree.slots.perform (.link slot content)).sync } := by
    unfold installInactive at done
    repeat' split at done
    all_goals
      cases done
      first
        | exact .inl rfl
        | exact .inr ⟨_, .inl rfl⟩
        | exact .inr ⟨_, .inr rfl⟩
  have linked : ∀ {linked other content}, other ≠ slot → (tree.slots.perform (.link slot linked)).Holds other content →
      tree.slots.Holds other content := by
    intro linked other content differs holds
    obtain held | leaves := Directory.holds_perform holds
    · exact held
    · cases leaves
      exact absurd rfl differs
  obtain rfl | ⟨content, rfl | rfl⟩ := same
  · exact ⟨rfl, fun _ _ _ => id⟩
  · exact ⟨rfl, fun _ differs _ => linked differs⟩
  · exact ⟨rfl, fun _ differs _ holds => linked differs (Directory.holds_sync holds)⟩

/-- An activation does nothing, or the marker has its slot, which is complete. -/
lemma activateSlot_effect (done : activateSlot platform faults identity slot tree = (result, tree')) :
    tree' = tree ∧ result.isOk = false ∨
      tree'.slots = tree.slots ∧ (tree.slots.visible slot).isSome = true ∧ tree'.active = some slot ∧
        (∀ marked, tree'.marker.Holds () marked → tree.marker.Holds () marked ∨ marked = slot) ∧
        (result = .ok () → ∀ marked, tree'.marker.Holds () marked → marked = slot) := by
  have visible : (tree.marker.perform (.link () slot)).visible () = some slot := by
    rw [Directory.visible_perform, Update.apply, Function.update_self]
  unfold activateSlot at done
  split at done
  · cases done
    exact .inl ⟨rfl, rfl⟩
  rename_i installed
  have present : (tree.slots.visible slot).isSome = true := by
    unfold installedSlot at installed
    split at installed
    · cases installed
    split at installed
    · cases installed
    · split at installed
      · cases installed
      · rename_i found
        rw [found]
        rfl
  split at done
  · cases done
    exact .inl ⟨rfl, rfl⟩
  dsimp only at done
  split at done
  · cases done
    refine .inr ⟨rfl, present, visible, ?_, by rintro ⟨⟩⟩
    intro marked holds
    refine (Directory.holds_perform holds).imp_right fun leaves => ?_
    cases leaves
    rfl
  · cases done
    have only : ∀ marked, (tree.marker.perform (.link () slot)).sync.Holds () marked → marked = slot := by
      intro marked holds
      have found := Directory.holds_settled.mp holds
      rw [visible] at found
      cases found
      rfl
    exact .inr ⟨rfl, present, visible, fun marked holds => .inr (only marked holds), fun _ => only⟩

end installer

/-! The commands. -/

/-- The slot of a command that replaces the inactive slot is not the marked one. -/
def Inactive (w : World B) : Command → Prop
  | .removeInactive family slot => (w.tree family).active ≠ some slot
  | .installInactive request slot => (w.tree request.databaseFamily).active ≠ some slot
  | _ => True

/-- The marker, if there is one, has the slot of the store. -/
def World.agrees (w : World B) (family : String) : Bool :=
  (w.tree family).active.all fun slot => decide (w.slotOf family = slot)

section commands

variable [StateCodec B] {config : Config} {moves : Moves (World B) Command Reply} {w w' w'' : World B}
  {family : String} {slot : Slot} {α β : Type}

/-- The program replaces inactive slots only, and is aligned wherever it stops. -/
@[irreducible] def Keeps (moves : Moves (World B) Command Reply) (p : Sup α) (post : α → World B → Prop) (w : World B) : Prop :=
  wp moves Inactive Aligned p post w

structure Kept (w w' : World B) : Prop where
  aligned : Aligned w'
  slots : ∀ family, w'.slotOf family = w.slotOf family

def Plain (config : Config) (moves : Moves (World B) Command Reply) : Prop :=
  ∀ w c r w', moves w c r w' → ∃ answer, w.handle config c answer = (r, w')

/-- An activation that fails, or in which the Agent stops, leaves the marker as it was; while the marker has
another slot than the store, the Agent goes on and states are written. -/
structure Careful (config : Config) (family : String) (moves : Moves (World B) Command Reply) : Prop where
  plain : Plain config moves
  activates : ∀ {w identity slot r w'}, moves w (.activate identity slot) r w' →
    r = some (.ok ()) ∨ (w'.tree family).active = (w.tree family).active
  turns : ∀ {w c r w'}, moves w c r w' → (∀ identity slot, c ≠ .activate identity slot) →
    w.agrees family = true ∨ wrote c r = true

lemma Keeps.sound {p : Sup α} {post : α → World B → Prop} {events : List (World B × Command)} {o : Option α}
    (h : Keeps moves p post w) (exec : Exec moves p w events o w') :
    (∀ event ∈ events, Inactive event.1 event.2) ∧ Programs.Ends Aligned post o w' := by
  unfold Keeps at h
  exact exec.sound h

variable {c : Command}

lemma Plain.issue {post : Reply c → World B → Prop} (plain : Plain config moves) (inactive : Inactive w c)
    (h : ∀ answer r w', w.respond config c answer = (r, w') →
      (moves w c (some r) w' → post r w') ∧ (moves w c none w' → Aligned w')) :
    Keeps moves (Sup.issue c) post w := by
  unfold Keeps
  apply wp_perform inactive
  · intro r w' move
    obtain ⟨answer, handled⟩ := plain _ _ _ _ move
    unfold World.handle at handled
    dsimp only at handled
    split at handled
    · cases handled
    · cases handled
      exact (h answer _ _ rfl).1 move
  · intro w' move
    obtain ⟨answer, handled⟩ := plain _ _ _ _ move
    unfold World.handle at handled
    dsimp only at handled
    split at handled
    · cases handled
      exact (h answer _ _ rfl).2 move
    · cases handled

omit [StateCodec B] in
lemma World.tree_setTree {other : String} :
    (w.setTree family tree).tree other = if other = family then tree else w.tree other := by
  unfold World.tree World.setTree
  dsimp only
  split
  · rename_i own
    rw [own, FiniteMap.get_set_self]
    rfl
  · rename_i differs
    rw [FiniteMap.get_set_of_ne differs]

omit [StateCodec B] in
lemma shrinks_setTree (shrinks : Shrinks (w.tree family) tree) (other : String) :
    Shrinks (w.tree other) ((w.setTree family tree).tree other) := by
  rw [World.tree_setTree]
  split
  · rename_i own
    rw [own]
    exact shrinks
  · exact .refl

/-- The commands that write no state, set no marker and add no slot. -/
def quiet : Command → Bool
  | .put _ | .activate _ _ | .installInactive _ _ => false
  | _ => true

lemma respond_quiet {answer : Answer B} {r : Reply c} (calm : quiet c = true)
    (answers : w.respond config c answer = (r, w')) :
    w'.machine = w.machine ∧ ∀ other, Shrinks (w.tree other) (w'.tree other) := by
  have unchanged : w'.machine = w.machine → w'.packages = w.packages →
      w'.machine = w.machine ∧ ∀ other, Shrinks (w.tree other) (w'.tree other) := by
    intro machine packages
    refine ⟨machine, fun other => ?_⟩
    unfold World.tree
    rw [packages]
    exact .refl
  cases c with
  | put | activate | installInactive => cases calm
  | removeInactive =>
    cases answers
    exact ⟨rfl, shrinks_setTree (removeInactiveSlot_shrinks rfl)⟩
  | removeFamily =>
    cases answers
    exact ⟨rfl, shrinks_setTree (removeFamilyTree_shrinks rfl).1⟩
  | recover =>
    cases answers
    exact ⟨rfl, shrinks_setTree (recoverTree_shrinks rfl)⟩
  | startProcess =>
    simp only [World.respond] at answers
    split at answers <;> cases answers <;> exact unchanged rfl rfl
  | _ =>
    cases answers
    exact unchanged rfl rfl

lemma Kept.of_quiet {answer : Answer B} {r : Reply c} (aligned : Aligned w) (calm : quiet c = true)
    (answers : w.respond config c answer = (r, w')) : Kept w w' := by
  obtain ⟨machine, shrinks⟩ := respond_quiet calm answers
  refine ⟨AlignedFor.shrinks aligned machine fun other _ => shrinks other, ?_⟩
  intro other
  unfold World.slotOf
  rw [machine]

variable {post : Except StateError FamilyState → World B → Prop} {state : FamilyState}

section plain

variable (plain : Plain config moves)

include plain

lemma Plain.quiet {post : Reply c → World B → Prop} (aligned : Aligned w) (h : ∀ r w', Kept w w' → post r w')
    (calm : quiet c = true := by rfl) (inactive : Inactive w c := by trivial) : Keeps moves (Sup.issue c) post w := by
  refine plain.issue inactive ?_
  intro answer r w' answers
  have kept := Kept.of_quiet aligned calm answers
  exact ⟨fun _ => h r w' kept, fun _ => kept.aligned⟩

section

variable (aligned : Aligned w)
include aligned

/-- The state that is read is aligned with the marker, and is that of the family. -/
lemma Plain.get {post : Option FamilyState → World B → Prop}
    (h : (∀ state, w.stored family = some state → state.databaseFamily = family ∧ state.activeSlot = w.slotOf family) →
      post (w.stored family) w) : Keeps moves (Sup.get family) post w := by
  refine plain.issue trivial ?_
  intro answer r w' answers
  cases answers
  refine ⟨fun _ => h ?_, fun _ => aligned⟩
  intro state stored
  obtain ⟨history, safe, _⟩ := aligned
  have found : w.machine.store.families.get family = some state := safe.fit.get.symm.trans stored
  refine ⟨(safe.fit.kept _ (FiniteMap.get_eq_some.mp found)).named.symm, ?_⟩
  have read : w.machine.store.get family = some state := stored
  unfold World.slotOf slotIn
  rw [read]
  rfl

lemma Plain.put (same : state.activeSlot = w.slotOf state.databaseFamily)
    (h : ∀ r w', Kept w w' → (∀ kept, r = .ok kept → ∃ revision, kept = saved revision state) → post r w') :
    Keeps moves (Sup.put state) post w := by
  refine plain.issue trivial ?_
  intro answer r w' answers
  cases done : Plugins.put answer.faults answer.now state w.machine with
  | mk machine =>
    simp only [World.respond, done] at answers
    cases answers
    have slots : ∀ other, slotIn machine.store other = slotIn w.machine.store other := by
      obtain ⟨history, safe, _⟩ := aligned
      intro other
      obtain ⟨_, unchanged, _⟩ | ⟨next, _, next_slots, ⟨_, unchanged, _⟩ | ⟨_, stored, _⟩⟩ := put_effect safe done
      · rw [unchanged]
      · rw [unchanged]
      · rw [stored, next_slots]
        split
        · rename_i own
          rw [own]
          exact same
        · rfl
    have kept : Kept w { w with machine } := ⟨AlignedFor.put aligned done fun _ => .inl same, slots⟩
    refine ⟨fun _ => h r _ kept ?_, fun _ => kept.aligned⟩
    intro written ok
    subst ok
    exact (put_ok done).1

lemma Plain.putAbsent (none : state.activeSlot = .none)
    (empty : w.tree state.databaseFamily = .empty) (h : ∀ r w', Aligned w' → post r w') :
    Keeps moves (Sup.put state) post w := by
  refine plain.issue trivial ?_
  intro answer r w' answers
  cases done : Plugins.put answer.faults answer.now state w.machine with
  | mk machine =>
    simp only [World.respond, done] at answers
    cases answers
    have aligned' : Aligned { w with machine } := AlignedFor.put aligned done fun _ => .inr ⟨none, empty⟩
    exact ⟨fun _ => h r _ aligned', fun _ => aligned'⟩

lemma Plain.removeFamily {post : Except SupervisorError Unit → World B → Prop}
    (h : ∀ r w', Kept w w' → (r = .ok () → w'.tree family = .empty) → post r w') :
    Keeps moves (Sup.removeFamily family) post w := by
  refine plain.issue trivial ?_
  intro answer r w' answers
  have kept := Kept.of_quiet aligned rfl answers
  refine ⟨fun _ => h r w' kept ?_, fun _ => kept.aligned⟩
  intro ok
  cases answers
  rw [World.tree_setTree, if_pos rfl]
  exact (removeFamilyTree_shrinks rfl).2 ok

lemma Plain.installInactive {request : InstallRequest} {post : Except SupervisorError InstalledSlot → World B → Prop}
    (other : slot ≠ w.slotOf request.databaseFamily) (inactive : (w.tree request.databaseFamily).active ≠ some slot)
    (h : ∀ r w', Kept w w' → post r w') : Keeps moves (Sup.installInactive request slot) post w := by
  refine plain.issue inactive ?_
  intro answer r w' answers
  cases done : Supervisor.installInactive config.platform answer.installer request slot
      (w.tree request.databaseFamily) with
  | mk result tree =>
    simp only [World.respond, World.install, done] at answers
    cases answers
    obtain ⟨marker, slots⟩ := installInactive_effect done
    have kept : Kept w (w.setTree request.databaseFamily tree) := by
      refine ⟨?_, fun _ => rfl⟩
      obtain ⟨history, safe, bounded, agree⟩ := aligned
      refine ⟨history, safe, bounded, ?_⟩
      intro family _ store live
      have before := agree family trivial store live
      rw [World.tree_setTree]
      split
      · rename_i own
        subst own
        refine ⟨by rw [marker]; exact before.marker, before.gone.imp_right ?_⟩
        rintro ⟨none, gone⟩
        exact ⟨none, fun content holds => gone content (slots _ other.symm content holds)⟩
      · exact before
    exact ⟨fun _ => h r _ kept, fun _ => kept.aligned⟩

end

end plain

/-! The activation. -/

/-- An activation that leaves the visible marker as it was. -/
lemma activateSlot_shrinks {faults : InstallerFaults} {tree' : FamilyTree}
    {result : Except SupervisorError Unit}
    (done : activateSlot platform faults identity slot tree = (result, tree'))
    (unmoved : tree'.active = tree.active) :
    Shrinks tree tree' := by
  obtain ⟨rfl, _⟩ | ⟨slots, _, active, marker, _⟩ := activateSlot_effect done
  · exact .refl
  rw [active] at unmoved
  refine ⟨?_, fun _ content holds => ⟨content, by rwa [slots] at holds⟩⟩
  intro marked holds
  obtain held | rfl := marker marked holds
  · exact held
  · exact Directory.holds_visible unmoved.symm

/-- An activation that succeeds. -/
lemma Turning.of_activate {faults : InstallerFaults} (aligned : Aligned w)
    (done : activateSlot platform faults identity slot (w.tree family) = (.ok (), tree)) :
    Turning family slot (w.setTree family tree) := by
  obtain ⟨_, fails⟩ | ⟨slots, present, active, _, only⟩ := activateSlot_effect done
  · cases fails
  have own : (w.setTree family tree).tree family = tree := by rw [World.tree_setTree, if_pos rfl]
  obtain ⟨history, safe, bounded, agree⟩ := aligned
  have apart : ∀ other ≠ family, (w.setTree family tree).tree other = w.tree other := by
    intro other differs
    rw [World.tree_setTree, if_neg differs]
  refine ⟨⟨history, safe, bounded, ?_⟩, by rw [own]; exact only rfl, by rw [own]; exact active, ?_⟩
  · intro other differs store live
    rw [apart other differs]
    exact agree other trivial store live
  intro settled
  refine ⟨history, safe, bounded, ?_⟩
  intro other _ store live
  by_cases here : other = family
  · subst here
    have before := agree other trivial store live
    rw [own]
    -- The slot is complete, so no store without it is left.
    obtain same | ⟨_, gone⟩ := before.gone
    · refine ⟨?_, .inl same⟩
      intro marked holds
      rw [only rfl marked holds, same]
      exact settled
    · obtain ⟨content, visible⟩ := Option.isSome_iff_exists.mp present
      have current : w.slotOf other = slot := settled
      rw [current] at gone
      exact absurd (Directory.holds_visible visible) (gone content)
  · rw [apart other here]
    exact agree other trivial store live

section careful

variable (careful : Careful config family moves)

include careful

lemma Careful.activate {post : Except SupervisorError Unit → World B → Prop}
    (named : identity.databaseFamily = family) (aligned : Aligned w)
    (failed : ∀ e w', Kept w w' → post (.error e) w') (turned : ∀ w', Turning family slot w' → post (.ok ()) w') :
    Keeps moves (Sup.activate identity slot) post w := by
  refine careful.plain.issue trivial ?_
  intro answer r w' answers
  cases done : activateSlot config.platform answer.installer identity slot (w.tree identity.databaseFamily) with
  | mk result tree =>
    simp only [World.respond, World.install, done] at answers
    rw [named] at answers done
    cases answers
    have unmoved : ((w.setTree family tree).tree family).active = (w.tree family).active →
        Kept w (w.setTree family tree) := by
      intro same
      rw [World.tree_setTree, if_pos rfl] at same
      exact ⟨AlignedFor.shrinks aligned rfl fun other _ => shrinks_setTree (activateSlot_shrinks done same) other,
        fun _ => rfl⟩
    constructor
    · intro move
      cases r with
      | ok _ => exact turned _ (.of_activate aligned done)
      | error e => exact failed e _ (unmoved ((careful.activates move).resolve_left (by rintro ⟨⟩)))
    · intro move
      exact (unmoved ((careful.activates move).resolve_left (by rintro ⟨⟩))).aligned

omit careful in
lemma Turning.settle (turning : Turning family slot w) (agrees : w.agrees family = true) : w.slotOf family = slot := by
  unfold World.agrees at agrees
  rw [turning.active] at agrees
  exact of_decide_eq_true agrees

lemma Careful.turningQuiet {post : Reply c → World B → Prop} (turning : Turning family slot w)
    (still : ∀ answer r w', w.respond config c answer = (r, w') → w'.machine = w.machine ∧ w'.packages = w.packages)
    (inactive : Inactive w c) (other : ∀ identity slot, c ≠ .activate identity slot)
    (h : ∀ r w', Turning family slot w' → post r w') : Keeps moves (Sup.issue c) post w := by
  refine careful.plain.issue inactive ?_
  intro answer r w' answers
  obtain ⟨machine, packages⟩ := still answer r w' answers
  have trees : ∀ other, w'.tree other = w.tree other := by
    intro other
    unfold World.tree
    rw [packages]
  have follows : ∀ {which}, AlignedFor which w → AlignedFor which w' := by
    intro which aligned
    refine aligned.shrinks machine fun other _ => ?_
    rw [trees]
    exact .refl
  constructor
  · intro _
    refine h r w' ⟨follows turning.others, by rw [trees]; exact turning.marker, by rw [trees]; exact turning.active, ?_⟩
    unfold World.slotOf
    rw [machine]
    exact fun settled => follows (turning.settled settled)
  · intro move
    obtain agrees | wrote := careful.turns move other
    · exact follows (turning.settled (turning.settle agrees))
    · cases wrote

lemma Careful.turningPut (turning : Turning family slot w)
    (named : state.databaseFamily = family) (turned : state.activeSlot = slot)
    (h : ∀ r w', Aligned w' → post r w') : Keeps moves (Sup.put state) post w := by
  refine careful.plain.issue trivial ?_
  intro answer r w' answers
  cases done : Plugins.put answer.faults answer.now state w.machine with
  | mk machine =>
    simp only [World.respond, done] at answers
    cases answers
    have settled : w.agrees family = true → Aligned { w with machine } := by
      intro agrees
      have current := turning.settle agrees
      refine AlignedFor.put (turning.settled current) done fun _ => .inl ?_
      rw [named, current, turned]
    constructor
    · intro move
      obtain agrees | wrote := careful.turns move (by rintro _ _ ⟨⟩)
      · exact h r _ (settled agrees)
      · cases r with
        | error e => cases wrote
        | ok =>
          obtain ⟨revision, rfl⟩ := (put_ok done).1
          exact h _ _ (turning.put done named turned)
    · intro move
      obtain agrees | wrote := careful.turns move (by rintro _ _ ⟨⟩)
      · exact settled agrees
      · cases wrote

end careful

end commands

end DBPilot.Supervisor
