import DBPilot.Lib.BigEndian

/-!
# Checksums of byte strings

CRC-32 with the Castagnoli polynomial (reflected, initial and final complement)
and SHA-256 as FIPS 180-4 defines it. Both are executable on byte lists.
-/

namespace DBPilot.Checksum

/-- One bit of the reflected CRC-32C register. -/
def crcBit (crc : UInt32) : UInt32 :=
  if crc &&& 1 = 1 then (crc >>> 1) ^^^ 0x82F63B78 else crc >>> 1

def crcByte (crc : UInt32) (byte : UInt8) : UInt32 :=
  Nat.repeat crcBit 8 (crc ^^^ byte.toUInt32)

def crc32c (bytes : List UInt8) : UInt32 :=
  ~~~ (bytes.foldl crcByte 0xFFFFFFFF)

-- The check value of CRC-32C: the checksum of the ASCII digits "123456789".
example : crc32c [0x31, 0x32, 0x33, 0x34, 0x35, 0x36, 0x37, 0x38, 0x39] = 0xE3069283 := by
  decide +kernel

namespace Sha256

structure State where
  a : UInt32
  b : UInt32
  c : UInt32
  d : UInt32
  e : UInt32
  f : UInt32
  g : UInt32
  h : UInt32

def rotr (x : UInt32) (n : UInt32) : UInt32 := (x >>> n) ||| (x <<< (32 - n))

def initial : State :=
  ⟨0x6a09e667, 0xbb67ae85, 0x3c6ef372, 0xa54ff53a, 0x510e527f, 0x9b05688c, 0x1f83d9ab, 0x5be0cd19⟩

def constants : List UInt32 :=
  [0x428a2f98, 0x71374491, 0xb5c0fbcf, 0xe9b5dba5, 0x3956c25b, 0x59f111f1, 0x923f82a4, 0xab1c5ed5,
   0xd807aa98, 0x12835b01, 0x243185be, 0x550c7dc3, 0x72be5d74, 0x80deb1fe, 0x9bdc06a7, 0xc19bf174,
   0xe49b69c1, 0xefbe4786, 0x0fc19dc6, 0x240ca1cc, 0x2de92c6f, 0x4a7484aa, 0x5cb0a9dc, 0x76f988da,
   0x983e5152, 0xa831c66d, 0xb00327c8, 0xbf597fc7, 0xc6e00bf3, 0xd5a79147, 0x06ca6351, 0x14292967,
   0x27b70a85, 0x2e1b2138, 0x4d2c6dfc, 0x53380d13, 0x650a7354, 0x766a0abb, 0x81c2c92e, 0x92722c85,
   0xa2bfe8a1, 0xa81a664b, 0xc24b8b70, 0xc76c51a3, 0xd192e819, 0xd6990624, 0xf40e3585, 0x106aa070,
   0x19a4c116, 0x1e376c08, 0x2748774c, 0x34b0bcb5, 0x391c0cb3, 0x4ed8aa4a, 0x5b9cca4f, 0x682e6ff3,
   0x748f82ee, 0x78a5636f, 0x84c87814, 0x8cc70208, 0x90befffa, 0xa4506ceb, 0xbef9a3f7, 0xc67178f2]

/-- Append `count` schedule words to a reversed schedule of at least sixteen. -/
def extend : Nat → List UInt32 → List UInt32
  | 0, words => words
  | count + 1, words =>
    let w := fun i => words.getD (i - 1) 0
    let s0 := rotr (w 15) 7 ^^^ rotr (w 15) 18 ^^^ (w 15 >>> 3)
    let s1 := rotr (w 2) 17 ^^^ rotr (w 2) 19 ^^^ (w 2 >>> 10)
    extend count ((w 16 + s0 + w 7 + s1) :: words)

def round (s : State) (kw : UInt32) : State :=
  let s1 := rotr s.e 6 ^^^ rotr s.e 11 ^^^ rotr s.e 25
  let ch := (s.e &&& s.f) ^^^ (~~~ s.e &&& s.g)
  let t1 := s.h + s1 + ch + kw
  let s0 := rotr s.a 2 ^^^ rotr s.a 13 ^^^ rotr s.a 22
  let maj := (s.a &&& s.b) ^^^ (s.a &&& s.c) ^^^ (s.b &&& s.c)
  ⟨t1 + (s0 + maj), s.a, s.b, s.c, s.d + t1, s.e, s.f, s.g⟩

def words : Nat → List UInt8 → List UInt32
  | 0, _ => []
  | count + 1, bytes =>
    UInt32.ofNat (BigEndian.get (bytes.take 4)) :: words count (bytes.drop 4)

def compress (s : State) (block : List UInt8) : State :=
  let schedule := (extend 48 (words 16 block).reverse).reverse
  let t := (List.zipWith (· + ·) constants schedule).foldl round s
  ⟨s.a + t.a, s.b + t.b, s.c + t.c, s.d + t.d, s.e + t.e, s.f + t.f, s.g + t.g, s.h + t.h⟩

def pad (message : List UInt8) : List UInt8 :=
  message ++ 0x80 :: List.replicate ((119 - message.length % 64) % 64) 0 ++ BigEndian.put 8 (8 * message.length)

def blocks : Nat → State → List UInt8 → State
  | 0, s, _ => s
  | count + 1, s, bytes => blocks count (compress s (bytes.take 64)) (bytes.drop 64)

def digest (s : State) : List UInt8 :=
  [s.a, s.b, s.c, s.d, s.e, s.f, s.g, s.h].flatMap fun word => BigEndian.put 4 word.toNat

end Sha256

open Sha256 in
def sha256 (message : List UInt8) : List UInt8 :=
  digest (blocks ((pad message).length / 64) initial (pad message))

@[simp] lemma length_sha256 (message : List UInt8) : (sha256 message).length = 32 := by
  simp [sha256, Sha256.digest]

-- FIPS 180-4 example: the digest of "abc".
example : BigEndian.get (sha256 [0x61, 0x62, 0x63]) =
    0xba7816bf8f01cfea414140de5dae2223b00361a396177a9cb410ff61f20015ad := by
  decide +kernel

end DBPilot.Checksum
