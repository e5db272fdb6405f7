import Mathlib.Tactic.Lemma
import Mathlib.Tactic.Ring

/-!
# Big-endian naturals

Fixed-width big-endian encoding of a natural number into bytes. A number that
does not fit the width is truncated, as the fixed-width conversions of the
usual binary packages do.
-/

namespace DBPilot.BigEndian

/-- The low `width` bytes of `n`, most significant first. -/
def put : Nat → Nat → List UInt8
  | 0, _ => []
  | width + 1, n => put width (n / 256) ++ [UInt8.ofNat n]

/-- The number spelled by a byte string. -/
def get (bytes : List UInt8) : Nat :=
  bytes.foldl (fun value byte => value * 256 + byte.toNat) 0

@[simp] lemma length_put (width n : Nat) : (put width n).length = width := by
  induction width generalizing n with
  | zero => rfl
  | succ width ih => simp [put, ih]

lemma get_concat (bytes : List UInt8) (byte : UInt8) : get (bytes ++ [byte]) = get bytes * 256 + byte.toNat := by
  simp [get]

lemma get_put (width n : Nat) : get (put width n) = n % 256 ^ width := by
  induction width generalizing n with
  | zero => simp [put, get, Nat.mod_one]
  | succ width ih =>
    have hbyte : (UInt8.ofNat n).toNat = n % 256 := by simp
    rw [put, get_concat, ih, hbyte, Nat.pow_succ', Nat.mod_mul]
    ring

lemma get_put_of_lt {width n : Nat} (fits : n < 256 ^ width) : get (put width n) = n := by
  rw [get_put, Nat.mod_eq_of_lt fits]

end DBPilot.BigEndian
