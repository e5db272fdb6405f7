import Mathlib.Algebra.Group.Int.Defs
import Mathlib.Data.List.Infix
import Mathlib.Data.List.Sort
import Mathlib.Data.String.Basic

/-!
# Texts and string maps

The string functions of Go that the models use, and maps from strings to strings
as lists of entries, each key once, whose order has no meaning.
-/

namespace DBPilot.Text

/-- Lower case as far as it reaches ASCII: the Kelvin sign and the dotted capital
I are the only other characters whose lower case is an ASCII letter. -/
def lowerChar (c : Char) : Char :=
  if c.toNat = 0x212A then 'k' else if c.toNat = 0x130 then 'i' else c.toLower

def lower (s : List Char) : List Char := s.map lowerChar

/-- The text at the head of the list, taken off. -/
def strip : List Char → List Char → Option (List Char)
  | [], s => some s
  | _ :: _, [] => none
  | c :: cs, d :: s => if c = d then strip cs s else none

def contains (part s : List Char) : Bool := s.tails.any fun rest => (strip part rest).isSome

lemma strip_eq_some {part s rest : List Char} (stripped : strip part s = some rest) : s = part ++ rest := by
  induction part generalizing s with
  | nil =>
    cases stripped
    rfl
  | cons c part ih =>
    cases s with
    | nil => cases stripped
    | cons d s =>
      unfold strip at stripped
      split at stripped
      · rename_i same
        rw [same, ih stripped]
        rfl
      · cases stripped

/-- A text that contains another has its characters. -/
lemma mem_of_contains {part s : List Char} {c : Char} (found : contains part s = true) (listed : c ∈ part) :
    c ∈ s := by
  obtain ⟨rest, tail, stripped⟩ := List.any_eq_true.mp found
  obtain ⟨more, stripped⟩ := Option.isSome_iff_exists.mp stripped
  refine ((List.mem_tails _ _).mp tail).subset ?_
  rw [strip_eq_some stripped]
  exact List.mem_append_left _ listed

def isLetter (c : Char) : Bool := 'a' ≤ c && c ≤ 'z' || 'A' ≤ c && c ≤ 'Z'

def isDigit (c : Char) : Bool := '0' ≤ c && c ≤ '9'

/-- The value of a decimal digit string. -/
def decimal (digits : List Char) : Nat :=
  digits.foldl (fun value c => value * 10 + (c.toNat - '0'.toNat)) 0

/-- `strconv.Atoi` on a 64-bit machine. -/
def atoi (s : String) : Option Int :=
  let (negative, digits) := match s.toList with
    | '-' :: rest => (true, rest)
    | '+' :: rest => (false, rest)
    | rest => (false, rest)
  if digits.isEmpty || !digits.all isDigit then none
  else
    let value : Int := if negative then -(decimal digits) else decimal digits
    if -2 ^ 63 ≤ value && value < 2 ^ 63 then some value else none

/-- `strconv.ParseBool`. -/
def parseBool (s : String) : Option Bool :=
  if s ∈ ["1", "t", "T", "TRUE", "true", "True"] then some true
  else if s ∈ ["0", "f", "F", "FALSE", "false", "False"] then some false
  else none

def hexDigit (n : Nat) : Char := if n < 10 then Char.ofNat ('0'.toNat + n) else Char.ofNat ('a'.toNat + (n - 10))

/-- `hex.EncodeToString`. -/
def hex (bytes : List UInt8) : String :=
  String.ofList (bytes.flatMap fun b => [hexDigit (b.toNat / 16), hexDigit (b.toNat % 16)])

lemma hexDigit_inj : ∀ n < 16, ∀ m < 16, hexDigit n = hexDigit m → n = m := by decide

/-- Pieces that show where they end determine the list they are written from. -/
lemma flatMap_injective {α β : Type*} {f : α → List β} (nonempty : ∀ a, f a ≠ [])
    (piece : ∀ {a b s t}, f a ++ s = f b ++ t → a = b ∧ s = t) : Function.Injective (List.flatMap f) := by
  intro l
  induction l with
  | nil =>
    intro r same
    cases r with
    | nil => rfl
    | cons b r => exact absurd (List.append_eq_nil_iff.mp same.symm).1 (nonempty b)
  | cons a l ih =>
    intro r same
    cases r with
    | nil => exact absurd (List.append_eq_nil_iff.mp same).1 (nonempty a)
    | cons b r =>
      obtain ⟨rfl, rest⟩ := piece same
      rw [ih rest]

lemma hex_injective : Function.Injective hex := by
  intro a b same
  refine flatMap_injective (fun _ => List.cons_ne_nil _ _) ?_ (String.ofList_injective same)
  intro x y s t same
  simp only [List.cons_append, List.nil_append, List.cons.injEq] at same
  obtain ⟨high, low, rest⟩ := same
  have hx := x.toNat_lt
  have hy := y.toNat_lt
  have high := hexDigit_inj _ (by omega) _ (by omega) high
  have low := hexDigit_inj _ (by omega) _ (by omega) low
  exact ⟨UInt8.toNat_inj.mp (by omega), rest⟩

abbrev StringMap := List (String × String)

namespace StringMap

def get (m : StringMap) (k : String) : Option String := List.lookup k m

/-- A key that is absent reads as the empty text. -/
def getD (m : StringMap) (k : String) : String := (get m k).getD ""

def set (m : StringMap) (k v : String) : StringMap := (k, v) :: m.filter fun entry => entry.1 != k

/-- The entries by key. -/
def sorted (m : StringMap) : StringMap := m.insertionSort fun a b => a.1 ≤ b.1

variable {m : StringMap} {k k' v : String}

@[simp] lemma get_set_self : get (set m k v) k = some v := by simp [get, set]

/-- Rewriting values key by key. -/
lemma get_map {f : String → String → String} :
    get (m.map fun entry => (entry.1, f entry.1 entry.2)) k = (get m k).map (f k) := by
  unfold get
  induction m with
  | nil => rfl
  | cons entry m ih =>
    obtain ⟨key, value⟩ := entry
    by_cases hit : k = key
    · subst hit
      simp
    · simpa [List.lookup_cons, beq_eq_false_iff_ne.mpr hit] using ih

end StringMap

end DBPilot.Text
