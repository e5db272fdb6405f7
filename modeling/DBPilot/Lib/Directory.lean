import Mathlib.Data.List.Basic
import Mathlib.Tactic.Lemma

/-!
# A directory that may lose what was not synced

Every update of the entries of a directory is atomic. Those made since the last
sync are visible at once, and a crash keeps any of them, in their order.
-/

namespace DBPilot.Directories

universe u v
variable {ν : Type u} {γ : Type v}

abbrev Entries (ν : Type u) (γ : Type v) := ν → Option γ

inductive Update (ν : Type u) (γ : Type v) where
  | unlink (name : ν)
  | link (name : ν) (content : γ)
  | rename (source target : ν) (content : γ)

variable [DecidableEq ν]

def Update.apply : Update ν γ → Entries ν γ → Entries ν γ
  | .unlink name, entries => Function.update entries name none
  | .link name content, entries => Function.update entries name (some content)
  | .rename source target content, entries =>
    Function.update (Function.update entries source none) target (some content)

def applyAll (updates : List (Update ν γ)) (entries : Entries ν γ) : Entries ν γ :=
  updates.foldl (fun entries update => update.apply entries) entries

omit [DecidableEq ν] in
/-- What an update may leave under a name. -/
inductive Update.Leaves (name : ν) : Update ν γ → Option γ → Prop
  | unlink : Leaves name (.unlink name) none
  | link {content : γ} : Leaves name (.link name content) (some content)
  | source {target : ν} {content : γ} : Leaves name (.rename name target content) none
  | target {source : ν} {content : γ} : Leaves name (.rename source name content) (some content)

structure Directory (ν : Type u) (γ : Type v) where
  durable : Entries ν γ
  pending : List (Update ν γ)

namespace Directory

def visible (d : Directory ν γ) : Entries ν γ := applyAll d.pending d.durable

omit [DecidableEq ν] in
def perform (d : Directory ν γ) (update : Update ν γ) : Directory ν γ :=
  { d with pending := d.pending ++ [update] }

def sync (d : Directory ν γ) : Directory ν γ := ⟨d.visible, []⟩

omit [DecidableEq ν] in
/-- A content that may be found under a name, now or after a crash. -/
def Holds (d : Directory ν γ) (name : ν) (content : γ) : Prop :=
  d.durable name = some content ∨ ∃ update ∈ d.pending, update.Leaves name (some content)

/-- What a crash may leave. -/
def Crashes (d : Directory ν γ) (entries : Entries ν γ) : Prop :=
  ∃ kept, kept.Sublist d.pending ∧ entries = applyAll kept d.durable

end Directory

variable {d : Directory ν γ} {entries : Entries ν γ} {update : Update ν γ} {updates : List (Update ν γ)} {name : ν}

lemma Update.apply_cases (update : Update ν γ) (entries : Entries ν γ) (name : ν) :
    update.apply entries name = entries name ∨ update.Leaves name (update.apply entries name) := by
  cases update with
  | unlink other | link other =>
    by_cases here : name = other
    · subst here
      rw [Update.apply, Function.update_self]
      exact .inr (by constructor)
    · exact .inl (Function.update_of_ne here _ _)
  | rename source target =>
    by_cases here : name = target
    · subst here
      rw [Update.apply, Function.update_self]
      exact .inr .target
    · rw [Update.apply, Function.update_of_ne here]
      by_cases there : name = source
      · subst there
        rw [Function.update_self]
        exact .inr .source
      · exact .inl (Function.update_of_ne there _ _)

/-- An entry is the one from the start, or an update has left it. -/
lemma applyAll_cases (updates : List (Update ν γ)) (entries : Entries ν γ) (name : ν) :
    applyAll updates entries name = entries name ∨
      ∃ update ∈ updates, update.Leaves name (applyAll updates entries name) := by
  induction updates generalizing entries with
  | nil => exact .inl rfl
  | cons first rest ih =>
    rcases ih (first.apply entries) with same | ⟨update, member, leaves⟩
    · have reached : applyAll (first :: rest) entries name = first.apply entries name := same
      rcases first.apply_cases entries name with kept | leaves
      · exact .inl (reached.trans kept)
      · rw [← reached] at leaves
        exact .inr ⟨first, .head _, leaves⟩
    · exact .inr ⟨update, .tail _ member, leaves⟩

/-- A name that no update leaves anything under keeps its entry. -/
lemma applyAll_untouched (none : ∀ update ∈ updates, ∀ content, ¬ update.Leaves name content) :
    applyAll updates entries name = entries name := by
  rcases applyAll_cases updates entries name with same | ⟨update, member, leaves⟩
  · exact same
  · exact absurd leaves (none update member _)

lemma applyAll_append {more : List (Update ν γ)} :
    applyAll (updates ++ more) entries = applyAll more (applyAll updates entries) := List.foldl_append

lemma Directory.Crashes.cases (crash : d.Crashes entries) (name : ν) :
    entries name = d.durable name ∨ ∃ update ∈ d.pending, update.Leaves name (entries name) := by
  obtain ⟨kept, sub, rfl⟩ := crash
  rcases applyAll_cases kept d.durable name with same | ⟨update, member, leaves⟩
  · exact .inl same
  · exact .inr ⟨update, sub.subset member, leaves⟩

/-- The visible entries are what a stop of the process leaves. -/
lemma Directory.crashes_visible : d.Crashes d.visible := ⟨d.pending, List.Sublist.refl _, rfl⟩

section holds

variable {content : γ}

lemma Directory.Crashes.holds (crash : d.Crashes entries) (found : entries name = some content) :
    d.Holds name content := by
  rcases crash.cases name with same | ⟨update, member, leaves⟩
  · exact .inl (same.symm.trans found)
  · rw [found] at leaves
    exact .inr ⟨update, member, leaves⟩

lemma Directory.holds_visible (found : d.visible name = some content) : d.Holds name content :=
  Directory.crashes_visible.holds found

omit [DecidableEq ν] in
lemma Directory.holds_settled : (⟨entries, []⟩ : Directory ν γ).Holds name content ↔ entries name = some content :=
  ⟨fun holds => holds.resolve_right fun ⟨_, member, _⟩ => absurd member List.not_mem_nil, .inl⟩

omit [DecidableEq ν] in
lemma Directory.holds_perform (holds : (d.perform update).Holds name content) :
    d.Holds name content ∨ update.Leaves name (some content) := by
  obtain durable | ⟨other, member, leaves⟩ := holds
  · exact .inl (.inl durable)
  · obtain old | new := List.mem_append.mp member
    · exact .inl (.inr ⟨other, old, leaves⟩)
    · rw [List.mem_singleton.mp new] at leaves
      exact .inr leaves

omit [DecidableEq ν] in
lemma Directory.holds_unlink {other : ν} (holds : (d.perform (.unlink other)).Holds name content) :
    d.Holds name content := by
  rcases Directory.holds_perform holds with held | leaves
  · exact held
  · cases leaves

lemma Directory.holds_sync (holds : d.sync.Holds name content) : d.Holds name content :=
  Directory.holds_visible (Directory.holds_settled.mp holds)

lemma Directory.visible_perform : (d.perform update).visible = update.apply d.visible := applyAll_append

end holds

end DBPilot.Directories
