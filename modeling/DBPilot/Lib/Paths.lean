import Mathlib.Data.List.Basic
import Mathlib.Tactic.Lemma

/-!
# Slash-separated paths

Paths are byte strings. Cleaning a path drops empty components and dots, and lets a
double dot take the component before it away. A path all of whose components are
proper names is left as it is.
-/

namespace DBPilot.Paths

abbrev Path := List UInt8

def slash : UInt8 := 0x2f

def dots : Path := [0x2e, 0x2e]

def components (path : Path) : List Path := path.splitOn slash

/-- One component of `path.Clean`; what has been kept so far is in reverse order. -/
def cleanStep (rooted : Bool) (kept : List Path) (component : Path) : List Path :=
  if component = [] || component = [0x2e] then kept
  else if component = dots then
    match kept with
    | [] => if rooted then [] else [dots]
    | last :: earlier => if last = dots then dots :: kept else earlier
  else component :: kept

def cleanComponents (rooted : Bool) (parts : List Path) : List Path :=
  (parts.foldl (cleanStep rooted) []).reverse

/-- `path.Clean`. -/
def clean (path : Path) : Path :=
  let rooted := path.head? = some slash
  let joined := [slash].intercalate (cleanComponents rooted (components path))
  if rooted then slash :: joined
  else if joined = [] then [0x2e]
  else joined

/-- A name that stands for an entry of a directory. -/
def Proper (component : Path) : Prop := component ≠ [] ∧ component ≠ [0x2e] ∧ component ≠ dots

instance (component : Path) : Decidable (Proper component) := inferInstanceAs (Decidable (_ ∧ _))

lemma components_append {dir : Path} (plain : slash ∉ dir) (rest : Path) :
    components (dir ++ slash :: rest) = dir :: components rest := by
  have clear : ∀ b ∈ dir, (b == slash) = false := by
    intro b member
    exact beq_eq_false_iff_ne.mpr fun same => plain (same ▸ member)
  exact List.splitOnP_append_cons_of_forall_mem clear slash (beq_self_eq_true slash) rest

lemma cleanStep_of_proper {component : Path} (proper : Proper component) (rooted : Bool) (kept : List Path) :
    cleanStep rooted kept component = component :: kept := by
  obtain ⟨nonempty, noDot, noDots⟩ := proper
  simp [cleanStep, nonempty, noDot, noDots]

/-- Proper components are kept as they are. -/
theorem cleanComponents_of_proper {parts : List Path} (proper : ∀ part ∈ parts, Proper part) (rooted : Bool) :
    cleanComponents rooted parts = parts := by
  have kept : ∀ before, parts.foldl (cleanStep rooted) before = parts.reverse ++ before := by
    induction parts with
    | nil => exact fun before => rfl
    | cons part parts ih =>
      intro before
      rw [List.foldl_cons, cleanStep_of_proper (proper part List.mem_cons_self),
        ih (fun other member => proper other (List.mem_cons_of_mem _ member))]
      simp
  rw [cleanComponents, kept, List.append_nil, List.reverse_reverse]

end DBPilot.Paths
