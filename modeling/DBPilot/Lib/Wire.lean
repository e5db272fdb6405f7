import Mathlib.Tactic.Lemma
import Mathlib.Data.List.Basic
import Mathlib.Tactic.Cases

/-!
# Messages in the protobuf wire format

A message is a sequence of numbered fields, each a base-128 number or a
length-delimited string of bytes. Scalars at their default are left out, so the
empty message is the empty string. What is encoded is read back.
-/

namespace DBPilot.Wire

abbrev Bytes := List UInt8

instance : LawfulBEq Bytes := inferInstance

inductive Payload where
  | number (value : Nat)
  | bytes (value : Bytes)
  deriving DecidableEq

structure Field where
  tag : Nat
  payload : Payload
  deriving DecidableEq

/-- The fuel is the number itself, which has more than enough groups of seven bits. -/
def varintAux : Nat → Nat → Bytes
  | 0, n => [UInt8.ofNat n]
  | fuel + 1, n => if n < 128 then [UInt8.ofNat n] else UInt8.ofNat (128 + n % 128) :: varintAux fuel (n / 128)

def varint (n : Nat) : Bytes := varintAux n n

def readVarint : Bytes → Option (Nat × Bytes)
  | [] => none
  | b :: rest =>
    if b.toNat < 128 then some (b.toNat, rest)
    else (readVarint rest).map fun (n, rest) => (b.toNat - 128 + 128 * n, rest)

def encodeField (field : Field) : Bytes :=
  match field.payload with
  | .number value => varint (8 * field.tag) ++ varint value
  | .bytes value => varint (8 * field.tag + 2) ++ varint value.length ++ value

def readField (encoded : Bytes) : Option (Field × Bytes) :=
  match readVarint encoded with
  | none => none
  | some (key, rest) =>
    match readVarint rest with
    | none => none
    | some (value, rest) =>
      if key % 8 = 0 then some (⟨key / 8, .number value⟩, rest)
      else if key % 8 = 2 ∧ value ≤ rest.length then
        some (⟨key / 8, .bytes (rest.take value)⟩, rest.drop value)
      else none

def encode (fields : List Field) : Bytes := fields.flatMap encodeField

def readFields : Nat → Bytes → Option (List Field)
  | _, [] => some []
  | 0, _ => none
  | fuel + 1, encoded =>
    match readField encoded with
    | none => none
    | some (field, rest) => (readFields fuel rest).map (field :: ·)

def decode (encoded : Bytes) : Option (List Field) := readFields encoded.length encoded

lemma readVarint_varintAux {fuel n : Nat} (enough : n ≤ fuel) (rest : Bytes) :
    readVarint (varintAux fuel n ++ rest) = some (n, rest) := by
  induction fuel generalizing n with
  | zero =>
    obtain rfl : n = 0 := by omega
    rfl
  | succ fuel ih =>
    by_cases small : n < 128
    · have byte : (UInt8.ofNat n).toNat = n := by
        rw [UInt8.toNat_ofNat']
        omega
      rw [varintAux, if_pos small, List.singleton_append, readVarint, byte, if_pos small]
    · have byte : (UInt8.ofNat (128 + n % 128)).toNat = 128 + n % 128 := by
        rw [UInt8.toNat_ofNat']
        omega
      have later : readVarint (varintAux fuel (n / 128) ++ rest) = some (n / 128, rest) := ih (by omega)
      rw [varintAux, if_neg small, List.cons_append, readVarint, byte, if_neg (by omega), later]
      simp only [Option.map_some, Option.some.injEq, Prod.mk.injEq, and_true]
      omega

@[simp] lemma readVarint_varint (n : Nat) (rest : Bytes) : readVarint (varint n ++ rest) = some (n, rest) :=
  readVarint_varintAux (Nat.le_refl n) rest

lemma varint_ne_nil (n : Nat) : varint n ≠ [] := by
  intro empty
  have read := readVarint_varint n []
  rw [empty] at read
  cases read

lemma readField_encodeField (field : Field) (rest : Bytes) :
    readField (encodeField field ++ rest) = some (field, rest) := by
  obtain ⟨tag, payload⟩ := field
  cases payload with
  | number =>
    have key : 8 * tag % 8 = 0 := by omega
    simp [encodeField, readField, key]
  | bytes =>
    have key : (8 * tag + 2) % 8 = 2 := by omega
    have number : (8 * tag + 2) / 8 = tag := by omega
    simp [encodeField, readField, key, number]

lemma encodeField_ne_nil (field : Field) : encodeField field ≠ [] := by
  unfold encodeField
  split <;> simp [varint_ne_nil]

lemma readFields_encode {fields : List Field} {fuel : Nat} (enough : (encode fields).length ≤ fuel) :
    readFields fuel (encode fields) = some fields := by
  induction fields generalizing fuel with
  | nil => cases fuel <;> rfl
  | cons field rest ih =>
    have split : encode (field :: rest) = encodeField field ++ encode rest := rfl
    have shorter : 0 < (encodeField field).length := List.length_pos_iff.mpr (encodeField_ne_nil field)
    rw [split, List.length_append] at enough
    cases fuel with
    | zero => omega
    | succ fuel =>
      have later : readFields fuel (encode rest) = some rest := ih (by omega)
      rw [split]
      cases encoded : encodeField field ++ encode rest with
      | nil => simp [encodeField_ne_nil] at encoded
      | cons => simp [readFields, ← encoded, readField_encodeField, later]

/-- What is encoded is read back. -/
theorem decode_encode (fields : List Field) : decode (encode fields) = some fields :=
  readFields_encode (Nat.le_refl _)

lemma encode_injective : Function.Injective encode := by
  intro fields fields' same
  have read := congrArg decode same
  rwa [decode_encode, decode_encode, Option.some.injEq] at read

/-! ## The fields of a message -/

def utf8 (s : String) : Bytes := s.toUTF8.data.toList

def readUtf8 (encoded : Bytes) : Option String := String.fromUTF8? ⟨encoded.toArray⟩

@[simp] lemma readUtf8_utf8 (s : String) : readUtf8 (utf8 s) = some s := by
  have same : (⟨(utf8 s).toArray⟩ : ByteArray) = s.toByteArray := by
    rw [utf8, Array.toArray_toList, String.toUTF8_eq_toByteArray]
  unfold readUtf8 String.fromUTF8?
  rw [same, dif_pos s.isValidUTF8]
  rfl

lemma utf8_injective : Function.Injective utf8 := by
  intro s t same
  have read := congrArg readUtf8 same
  rwa [readUtf8_utf8, readUtf8_utf8, Option.some.injEq] at read

lemma utf8_append (s t : String) : utf8 (s ++ t) = utf8 s ++ utf8 t := by simp [utf8]

def number (tag value : Nat) : List Field := if value = 0 then [] else [⟨tag, .number value⟩]

def blob (tag : Nat) (value : Bytes) : List Field := if value = [] then [] else [⟨tag, .bytes value⟩]

def text (tag : Nat) (value : String) : List Field := blob tag (utf8 value)

/-- Embedded messages, which are present even when they are empty. -/
def embedded (tag : Nat) (values : List Bytes) : List Field := values.map fun value => ⟨tag, .bytes value⟩

def numbers (tag : Nat) (fields : List Field) : List Nat :=
  fields.filterMap fun field =>
    match field.payload with
    | .number value => if field.tag = tag then some value else none
    | .bytes _ => none

def strings (tag : Nat) (fields : List Field) : List Bytes :=
  fields.filterMap fun field =>
    match field.payload with
    | .number _ => none
    | .bytes value => if field.tag = tag then some value else none

/-- The last occurrence of a field counts. -/
def getNumber (tag : Nat) (fields : List Field) : Nat := (numbers tag fields).getLastD 0

def getBlob (tag : Nat) (fields : List Field) : Bytes := (strings tag fields).getLastD []

def getText (tag : Nat) (fields : List Field) : Option String := readUtf8 (getBlob tag fields)

/-- A field left out at its default is read as the default. -/
@[simp] lemma getD_getLast?_ite {α : Type} [DecidableEq α] (value absent : α) :
    (if value = absent then [] else [value]).getLast?.getD absent = value := by
  by_cases same : value = absent <;> simp [same]

@[simp] lemma getLast?_toList {α : Type} (value : Option α) : value.toList.getLast? = value := by
  cases value <;> rfl

section fields

variable {tag other : Nat} {fields later : List Field}

@[simp] lemma numbers_append : numbers tag (fields ++ later) = numbers tag fields ++ numbers tag later :=
  List.filterMap_append

@[simp] lemma strings_append : strings tag (fields ++ later) = strings tag fields ++ strings tag later :=
  List.filterMap_append

@[simp] lemma numbers_number (value : Nat) :
    numbers tag (number other value) = if value ≠ 0 ∧ other = tag then [value] else [] := by
  by_cases zero : value = 0 <;> by_cases same : other = tag <;> simp [numbers, number, zero, same]

@[simp] lemma strings_number (value : Nat) : strings tag (number other value) = [] := by
  by_cases zero : value = 0 <;> simp [strings, number, zero]

@[simp] lemma numbers_blob (value : Bytes) : numbers tag (blob other value) = [] := by
  by_cases empty : value = [] <;> simp [numbers, blob, empty]

@[simp] lemma strings_blob (value : Bytes) :
    strings tag (blob other value) = if value ≠ [] ∧ other = tag then [value] else [] := by
  by_cases empty : value = [] <;> by_cases same : other = tag <;> simp [strings, blob, empty, same]

@[simp] lemma numbers_embedded (values : List Bytes) : numbers tag (embedded other values) = [] := by
  simp [numbers, embedded]

@[simp] lemma strings_embedded (values : List Bytes) :
    strings tag (embedded other values) = if other = tag then values else [] := by
  by_cases same : other = tag <;> simp [strings, embedded, same]

end fields

end DBPilot.Wire
