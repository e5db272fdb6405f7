import DBPilot.Lib.Text
import DBPilot.Lib.Wire
import Mathlib.Data.Nat.Digits.Defs

/-!
# Fields written after their length

A field is its length in decimal, a colon and its bytes. The colon is no digit, so
where a field ends can be read off its text: a sequence of fields is determined by
the bytes that it is written as.
-/

namespace DBPilot.LengthPrefix

def decimal (n : Nat) : List UInt8 := (Nat.toDigits 10 n).map fun c => UInt8.ofNat c.toNat

/-- A signed number, with its sign only where it is negative. -/
def signed : Int → List UInt8
  | .ofNat n => decimal n
  | .negSucc n => 0x2d :: decimal (n + 1)

def field (value : List UInt8) : List UInt8 := decimal value.length ++ 0x3a :: value

def fields (values : List (List UInt8)) : List UInt8 := values.flatMap field

lemma digit_range {n : Nat} {c : Char} (digit : c ∈ Nat.toDigits 10 n) : 48 ≤ c.toNat ∧ c.toNat ≤ 57 := by
  have isDigit := Nat.isDigit_of_mem_toDigits (by decide) (by decide) digit
  rw [Char.isDigit, Bool.and_eq_true, decide_eq_true_eq, decide_eq_true_eq] at isDigit
  exact ⟨isDigit.1, isDigit.2⟩

lemma decimal_range {n : Nat} {b : UInt8} (digit : b ∈ decimal n) : 48 ≤ b.toNat ∧ b.toNat ≤ 57 := by
  obtain ⟨c, member, rfl⟩ := List.mem_map.mp digit
  have range := digit_range member
  have small : (UInt8.ofNat c.toNat).toNat = c.toNat := Nat.mod_eq_of_lt (by omega)
  rwa [small]

lemma not_mem_decimal {n : Nat} {b : UInt8} (other : b.toNat < 48 ∨ 57 < b.toNat) : b ∉ decimal n := by
  intro digit
  have := decimal_range digit
  omega

lemma decimal_injective : Function.Injective decimal := by
  intro n m same
  -- A digit is recovered from its byte, and the number from its digits.
  have back : ∀ k, (decimal k).map (fun b => Char.ofNat b.toNat) = Nat.toDigits 10 k := by
    intro k
    rw [decimal, List.map_map]
    refine (List.map_congr_left ?_).trans (List.map_id _)
    intro c member
    have range := digit_range member
    have small : (UInt8.ofNat c.toNat).toNat = c.toNat := Nat.mod_eq_of_lt (by omega)
    rw [Function.comp_apply, small, Char.ofNat_toNat]
    rfl
  rw [← Nat.ofDigitChars_ten_toDigits (n := n), ← back n, same, back m, Nat.ofDigitChars_ten_toDigits]

lemma signed_injective : Function.Injective signed := by
  have minus : (0x2d : UInt8).toNat < 48 ∨ 57 < (0x2d : UInt8).toNat := by decide
  have apart : ∀ n m, decimal n ≠ 0x2d :: decimal m := by
    intro n m same
    refine not_mem_decimal minus (?_ : (0x2d : UInt8) ∈ decimal n)
    rw [same]
    exact List.mem_cons_self
  rintro (n | n) (m | m) same
  · rw [decimal_injective same]
  · exact absurd same (apart n _)
  · exact absurd same.symm (apart m _)
  · have := decimal_injective (List.cons.inj same).2
    rw [Nat.succ.inj this]

lemma utf8_toString (n : Nat) : Wire.utf8 (toString n) = decimal n := by
  have digits : toString n = String.ofList (Nat.toDigits 10 n) := Nat.repr_eq_ofList_toDigits
  have bytes : Wire.utf8 (toString n) = (Nat.toDigits 10 n).flatMap String.utf8EncodeChar := by
    simp [Wire.utf8, digits, List.utf8Encode]
  rw [bytes, decimal, List.map_eq_flatMap]
  refine List.flatMap_congr fun c digit => if_pos ?_
  exact le_trans (digit_range digit).2 (by decide)

lemma utf8_field (part : String) :
    Wire.utf8 (toString (Wire.utf8 part).length ++ ":" ++ part) = field (Wire.utf8 part) := by
  have colon : Wire.utf8 ":" = [0x3a] := rfl
  rw [Wire.utf8_append, Wire.utf8_append, utf8_toString, colon, field, List.append_assoc]
  rfl

/-- Two texts agree up to a separator with equally many separators before it, and after it. -/
lemma separated_inj_of_count {α : Type*} [DecidableEq α] {sep : α} {a a' b b' : List α}
    (count : a.count sep = a'.count sep) (same : a ++ sep :: b = a' ++ sep :: b') : a = a' ∧ b = b' := by
  induction a generalizing a' with
  | nil =>
    cases a' with
    | nil => exact ⟨rfl, (List.cons.inj same).2⟩
    | cons c a' =>
      obtain rfl : sep = c := (List.cons.inj same).1
      rw [List.count_nil, List.count_cons_self] at count
      cases count
  | cons c a ih =>
    cases a' with
    | nil =>
      obtain rfl : c = sep := (List.cons.inj same).1
      rw [List.count_nil, List.count_cons_self] at count
      cases count
    | cons =>
      obtain ⟨rfl, rest⟩ := List.cons.inj same
      rw [List.count_cons, List.count_cons, Nat.add_right_cancel_iff] at count
      obtain ⟨rfl, rfl⟩ := ih count rest
      exact ⟨rfl, rfl⟩

lemma field_append_inj {value value' rest rest' : List UInt8}
    (same : field value ++ rest = field value' ++ rest') : value = value' ∧ rest = rest' := by
  have colon : (0x3a : UInt8).toNat < 48 ∨ 57 < (0x3a : UInt8).toNat := by decide
  unfold field at same
  rw [List.append_assoc, List.append_assoc, List.cons_append, List.cons_append] at same
  obtain ⟨lengths, bodies⟩ := separated_inj_of_count ((List.count_eq_zero.mpr (not_mem_decimal colon)).trans
    (List.count_eq_zero.mpr (not_mem_decimal colon)).symm) same
  exact List.append_inj bodies (decimal_injective lengths)

/-- A sequence of fields is determined by its text. -/
theorem fields_injective : Function.Injective fields := by
  refine Text.flatMap_injective ?_ field_append_inj
  intro value empty
  simp [field] at empty

/-- Pieces that end where they say so are told apart in a list of known length. -/
lemma flatMap_append_inj {α β : Type*} {f : α → List β} {l l' : List α} {s t : List β}
    (piece : ∀ a ∈ l, ∀ b ∈ l', ∀ s t, f a ++ s = f b ++ t → a = b ∧ s = t) (length : l.length = l'.length)
    (same : l.flatMap f ++ s = l'.flatMap f ++ t) : l = l' ∧ s = t := by
  induction l generalizing l' with
  | nil =>
    obtain rfl := List.length_eq_zero_iff.mp length.symm
    exact ⟨rfl, same⟩
  | cons a l ih =>
    obtain ⟨b, l', rfl⟩ := List.exists_cons_of_length_eq_add_one length.symm
    rw [List.flatMap_cons, List.flatMap_cons, List.append_assoc, List.append_assoc] at same
    obtain ⟨rfl, rest⟩ := piece a List.mem_cons_self b List.mem_cons_self _ _ same
    have later := fun a here b there => piece a (List.mem_cons_of_mem _ here) b (List.mem_cons_of_mem _ there)
    obtain ⟨rfl, ends⟩ := ih later (Nat.succ.inj length) rest
    exact ⟨rfl, ends⟩

end DBPilot.LengthPrefix
