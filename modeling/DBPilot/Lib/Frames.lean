import Mathlib.Data.List.Forall2
import Mathlib.Tactic.Lemma

/-!
# Scanning a file of self-delimiting frames

A reader looks at the unread suffix of a file and answers with a complete
frame, with a torn end, or with corruption. The scan keeps the frames up to the
first torn end and reports how much of the file they cover; corruption anywhere
discards the whole file.
-/

namespace DBPilot.Frames

universe u v
variable {α : Type u} {β : Type v}

inductive Head (α : Type u) where
  | torn
  | corrupt
  | frame (value : α) (size : Nat)
  deriving DecidableEq

/-- The frames of a file with the length they cover, or nothing on corruption. -/
def scan (head : List β → Head α) : Nat → List β → Option (List α × Nat)
  | _, [] => some ([], 0)
  | 0, _ :: _ => none
  | fuel + 1, rest@(_ :: _) =>
    match head rest with
    | .torn => some ([], 0)
    | .corrupt => none
    | .frame value size =>
      (scan head fuel (rest.drop size)).map fun (values, kept) => (value :: values, size + kept)

/-- `chunk` is read as one complete frame, whatever follows it. -/
def Reads (head : List β → Head α) (value : α) (chunk : List β) : Prop :=
  chunk ≠ [] ∧ ∀ rest, head (chunk ++ rest) = .frame value chunk.length

@[simp] lemma scan_nil (head : List β → Head α) (fuel : Nat) : scan head fuel [] = some ([], 0) := by
  cases fuel <;> rfl

lemma scan_of_ne_nil (head : List β → Head α) {rest : List β} (nonempty : rest ≠ [])
    (fuel : Nat) : scan head (fuel + 1) rest =
      match head rest with
      | .torn => some ([], 0)
      | .corrupt => none
      | .frame value size => (scan head fuel (rest.drop size)).map
          fun (values, kept) => (value :: values, size + kept) := by
  cases rest with
  | nil => exact absurd rfl nonempty
  | cons => rfl

variable {head : List β → Head α}

lemma scan_frame {value : α} {chunk : List β} (reads : Reads head value chunk) (fuel : Nat) (rest : List β) :
    scan head (fuel + 1) (chunk ++ rest) =
      (scan head fuel rest).map fun (values, kept) => (value :: values, chunk.length + kept) := by
  have nonempty : chunk ++ rest ≠ [] := fun h => reads.1 (List.append_eq_nil_iff.mp h).1
  rw [scan_of_ne_nil head nonempty, reads.2 rest]
  simp

variable {chunks : List (List β)} {values : List α}

/-- Complete frames are peeled off one by one; what the scan makes of the rest
of the file decides the outcome. -/
lemma scan_frames (reads : List.Forall₂ (Reads head) values chunks) (fuel : Nat)
    (rest : List β) :
    scan head (values.length + fuel) (chunks.flatten ++ rest) =
      (scan head fuel rest).map fun (more, kept) =>
        (values ++ more, chunks.flatten.length + kept) := by
  induction reads with
  | nil => simp
  | @cons value chunk values chunks first _ ih =>
    have hfuel : (value :: values).length + fuel = (values.length + fuel) + 1 := by
      simp only [List.length_cons]
      omega
    rw [hfuel, List.flatten_cons, List.append_assoc, scan_frame first, ih, Option.map_map]
    congr 1
    funext ⟨more, kept⟩
    simp [Nat.add_assoc]

/-- Enough fuel for a scan is any bound on the length of the file. -/
lemma scan_mono (advances : ∀ rest value size, head rest = .frame value size → 0 < size) {fuel more : Nat}
    {rest : List β} (enough : rest.length ≤ fuel) : scan head (fuel + more) rest = scan head fuel rest := by
  induction fuel generalizing rest with
  | zero =>
    have hnil : rest = [] := List.length_eq_zero_iff.mp (by omega)
    simp [hnil]
  | succ fuel ih =>
    by_cases hnil : rest = []
    · simp [hnil]
    · have hfuel : fuel + 1 + more = (fuel + more) + 1 := by omega
      rw [hfuel, scan_of_ne_nil head hnil, scan_of_ne_nil head hnil]
      cases hhead : head rest with
      | torn => rfl
      | corrupt => rfl
      | frame value size =>
        have hsize := advances rest value size hhead
        have hlen : 0 < rest.length := List.length_pos_iff.mpr hnil
        have hdrop : (rest.drop size).length ≤ fuel := by
          rw [List.length_drop]
          omega
        simp only [ih hdrop]

lemma length_le_flatten (reads : List.Forall₂ (Reads head) values chunks) :
    values.length ≤ chunks.flatten.length := by
  induction reads with
  | nil => simp
  | cons first =>
    have hpos := List.length_pos_iff.mpr first.1
    simp only [List.length_cons, List.flatten_cons, List.length_append]
    omega

/-- A file of complete frames and a final part: the scan with the length of the
file as fuel keeps exactly the frames when the final part is empty or torn, and
gives up when it is corrupt. -/
theorem scan_file (advances : ∀ rest value size, head rest = .frame value size → 0 < size)
    (reads : List.Forall₂ (Reads head) values chunks) (tail : List β) :
    scan head (chunks.flatten ++ tail).length (chunks.flatten ++ tail) =
      (scan head tail.length tail).map fun (more, kept) =>
        (values ++ more, chunks.flatten.length + kept) := by
  have hle := length_le_flatten reads
  obtain ⟨extra, hextra⟩ := Nat.exists_eq_add_of_le hle
  have hfuel : (chunks.flatten ++ tail).length = values.length + (tail.length + extra) := by
    rw [List.length_append]
    omega
  rw [hfuel, scan_frames reads, scan_mono advances (Nat.le_refl _)]

end DBPilot.Frames
