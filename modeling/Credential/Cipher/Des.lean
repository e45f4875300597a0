import Credential.Cipher.Block

/-!
# DES and triple DES

The block ciphers on blocks of 8 octets, with keys of 8, 16 and 24 octets.
The lowest bit of each key octet is a parity bit and is not looked at. Blocks and keys
are lists of bits, most significant first. Deciphering runs the same rounds with the round
keys in reverse order.
-/

namespace Credential.Cipher.Des

/-- The bits of an octet. -/
def octetBits (b : UInt8) : List Bool :=
  [b &&& 0x80 != 0, b &&& 0x40 != 0, b &&& 0x20 != 0, b &&& 0x10 != 0,
    b &&& 0x08 != 0, b &&& 0x04 != 0, b &&& 0x02 != 0, b &&& 0x01 != 0]

/-- The bits of a byte string. -/
def bitsOf (bs : Bytes) : List Bool := bs.flatMap octetBits

/-- The number with the given bits. -/
def value (bits : List Bool) : Nat :=
  bits.foldl (fun n bit => 2 * n + bit.toNat) 0

/-- The octets with the given bits. -/
def octetsOf : List Bool → Bytes
  | a :: b :: c :: d :: e :: f :: g :: h :: rest =>
    UInt8.ofNat (value [a, b, c, d, e, f, g, h]) :: octetsOf rest
  | _ => []

/-- The bits at the given places, counted from 1. -/
def select (places : List Nat) (bits : List Bool) : List Bool :=
  let table := bits.toArray
  places.map fun place => table.getD (place - 1) false

/-- Bitwise exclusive or. -/
def xor (xs ys : List Bool) : List Bool := List.zipWith (· != ·) xs ys

/-- The initial permutation. -/
def initialPermutation : List Nat :=
  [58, 50, 42, 34, 26, 18, 10, 2, 60, 52, 44, 36, 28, 20, 12, 4,
   62, 54, 46, 38, 30, 22, 14, 6, 64, 56, 48, 40, 32, 24, 16, 8,
   57, 49, 41, 33, 25, 17, 9, 1, 59, 51, 43, 35, 27, 19, 11, 3,
   61, 53, 45, 37, 29, 21, 13, 5, 63, 55, 47, 39, 31, 23, 15, 7]

/-- The final permutation, the inverse of the initial one. -/
def finalPermutation : List Nat :=
  [40, 8, 48, 16, 56, 24, 64, 32, 39, 7, 47, 15, 55, 23, 63, 31,
   38, 6, 46, 14, 54, 22, 62, 30, 37, 5, 45, 13, 53, 21, 61, 29,
   36, 4, 44, 12, 52, 20, 60, 28, 35, 3, 43, 11, 51, 19, 59, 27,
   34, 2, 42, 10, 50, 18, 58, 26, 33, 1, 41, 9, 49, 17, 57, 25]

/-- The expansion of a half block to the size of a round key. -/
def expansion : List Nat :=
  [32, 1, 2, 3, 4, 5, 4, 5, 6, 7, 8, 9, 8, 9, 10, 11, 12, 13, 12, 13, 14, 15, 16, 17,
   16, 17, 18, 19, 20, 21, 20, 21, 22, 23, 24, 25, 24, 25, 26, 27, 28, 29, 28, 29, 30, 31, 32, 1]

/-- The permutation at the end of the round function. -/
def roundPermutation : List Nat :=
  [16, 7, 20, 21, 29, 12, 28, 17, 1, 15, 23, 26, 5, 18, 31, 10,
   2, 8, 24, 14, 32, 27, 3, 9, 19, 13, 30, 6, 22, 11, 4, 25]

/-- The key bits that the key schedule uses. -/
def keyChoice : List Nat :=
  [57, 49, 41, 33, 25, 17, 9, 1, 58, 50, 42, 34, 26, 18, 10, 2, 59, 51, 43, 35, 27, 19, 11, 3,
   60, 52, 44, 36, 63, 55, 47, 39, 31, 23, 15, 7, 62, 54, 46, 38, 30, 22, 14, 6, 61, 53, 45, 37,
   29, 21, 13, 5, 28, 20, 12, 4]

/-- The bits of a round key. -/
def roundKeyChoice : List Nat :=
  [14, 17, 11, 24, 1, 5, 3, 28, 15, 6, 21, 10, 23, 19, 12, 4, 26, 8, 16, 7, 27, 20, 13, 2,
   41, 52, 31, 37, 47, 55, 30, 40, 51, 45, 33, 48, 44, 49, 39, 56, 34, 53, 46, 42, 50, 36, 29, 32]

/-- How far the key halves rotate before each round key. -/
def keyRotations : List Nat := [1, 1, 2, 2, 2, 2, 2, 2, 1, 2, 2, 2, 2, 2, 2, 1]

/-- The eight substitutions of six bits by four; the outer two bits choose the row. -/
def substitutions : List (Array Nat) :=
  [#[14, 4, 13, 1, 2, 15, 11, 8, 3, 10, 6, 12, 5, 9, 0, 7,
     0, 15, 7, 4, 14, 2, 13, 1, 10, 6, 12, 11, 9, 5, 3, 8,
     4, 1, 14, 8, 13, 6, 2, 11, 15, 12, 9, 7, 3, 10, 5, 0,
     15, 12, 8, 2, 4, 9, 1, 7, 5, 11, 3, 14, 10, 0, 6, 13],
   #[15, 1, 8, 14, 6, 11, 3, 4, 9, 7, 2, 13, 12, 0, 5, 10,
     3, 13, 4, 7, 15, 2, 8, 14, 12, 0, 1, 10, 6, 9, 11, 5,
     0, 14, 7, 11, 10, 4, 13, 1, 5, 8, 12, 6, 9, 3, 2, 15,
     13, 8, 10, 1, 3, 15, 4, 2, 11, 6, 7, 12, 0, 5, 14, 9],
   #[10, 0, 9, 14, 6, 3, 15, 5, 1, 13, 12, 7, 11, 4, 2, 8,
     13, 7, 0, 9, 3, 4, 6, 10, 2, 8, 5, 14, 12, 11, 15, 1,
     13, 6, 4, 9, 8, 15, 3, 0, 11, 1, 2, 12, 5, 10, 14, 7,
     1, 10, 13, 0, 6, 9, 8, 7, 4, 15, 14, 3, 11, 5, 2, 12],
   #[7, 13, 14, 3, 0, 6, 9, 10, 1, 2, 8, 5, 11, 12, 4, 15,
     13, 8, 11, 5, 6, 15, 0, 3, 4, 7, 2, 12, 1, 10, 14, 9,
     10, 6, 9, 0, 12, 11, 7, 13, 15, 1, 3, 14, 5, 2, 8, 4,
     3, 15, 0, 6, 10, 1, 13, 8, 9, 4, 5, 11, 12, 7, 2, 14],
   #[2, 12, 4, 1, 7, 10, 11, 6, 8, 5, 3, 15, 13, 0, 14, 9,
     14, 11, 2, 12, 4, 7, 13, 1, 5, 0, 15, 10, 3, 9, 8, 6,
     4, 2, 1, 11, 10, 13, 7, 8, 15, 9, 12, 5, 6, 3, 0, 14,
     11, 8, 12, 7, 1, 14, 2, 13, 6, 15, 0, 9, 10, 4, 5, 3],
   #[12, 1, 10, 15, 9, 2, 6, 8, 0, 13, 3, 4, 14, 7, 5, 11,
     10, 15, 4, 2, 7, 12, 9, 5, 6, 1, 13, 14, 0, 11, 3, 8,
     9, 14, 15, 5, 2, 8, 12, 3, 7, 0, 4, 10, 1, 13, 11, 6,
     4, 3, 2, 12, 9, 5, 15, 10, 11, 14, 1, 7, 6, 0, 8, 13],
   #[4, 11, 2, 14, 15, 0, 8, 13, 3, 12, 9, 7, 5, 10, 6, 1,
     13, 0, 11, 7, 4, 9, 1, 10, 14, 3, 5, 12, 2, 15, 8, 6,
     1, 4, 11, 13, 12, 3, 7, 14, 10, 15, 6, 8, 0, 5, 9, 2,
     6, 11, 13, 8, 1, 4, 10, 7, 9, 5, 0, 15, 14, 2, 3, 12],
   #[13, 2, 8, 4, 6, 15, 11, 1, 10, 9, 3, 14, 5, 0, 12, 7,
     1, 15, 13, 8, 10, 3, 7, 4, 12, 5, 6, 11, 0, 14, 9, 2,
     7, 11, 4, 1, 9, 12, 14, 2, 0, 6, 10, 13, 15, 3, 5, 8,
     2, 1, 14, 7, 4, 10, 8, 13, 15, 12, 9, 0, 3, 5, 6, 11]]

/-- The four bits of a number below 16. -/
def nibbleBits (n : Nat) : List Bool :=
  [n.testBit 3, n.testBit 2, n.testBit 1, n.testBit 0]

/-- Substitutes each group of six bits. -/
def substitute : List (Array Nat) → List Bool → List Bool
  | box :: boxes, a :: b :: c :: d :: e :: f :: rest =>
    nibbleBits (box.getD (value [a, f] * 16 + value [b, c, d, e]) 0) ++ substitute boxes rest
  | _, _ => []

/-- The round function. -/
def mix (half key : List Bool) : List Bool :=
  select roundPermutation (substitute substitutions (xor (select expansion half) key))

/-- The rounds with the given keys, on the two halves of a block. -/
def rounds : List (List Bool) → List Bool × List Bool → List Bool × List Bool
  | [], halves => halves
  | key :: keys, (left, right) => rounds keys (right, xor left (mix right key))

/-- The bits with the first `count` moved to the end. -/
def rotate (count : Nat) (bits : List Bool) : List Bool :=
  bits.drop count ++ bits.take count

/-- The round keys, from the two key halves before the next rotation. -/
def keysFrom : List Nat → List Bool → List Bool → List (List Bool)
  | [], _, _ => []
  | count :: counts, left, right =>
    let left := rotate count left
    let right := rotate count right
    select roundKeyChoice (left ++ right) :: keysFrom counts left right

/-- The sixteen round keys of a key. -/
def roundKeys (key : Bytes) : List (List Bool) :=
  let bits := select keyChoice (bitsOf key)
  keysFrom keyRotations (bits.take 28) (bits.drop 28)

/-- A block under the given round keys. -/
def transform (keys : List (List Bool)) (block : Bytes) : Bytes :=
  let bits := select initialPermutation (bitsOf block)
  let (left, right) := rounds keys (bits.take 32, bits.drop 32)
  octetsOf (select finalPermutation (right ++ left))

/-- DES under a key of 8 octets. -/
def cipher (key : Bytes) : Block :=
  let keys := roundKeys key
  { size := 8
    encrypt := transform keys
    decrypt := transform keys.reverse }

/-- Triple DES: encrypt under the first key, decrypt under the second, encrypt under the
third. -/
def tripleCipher (first second third : Bytes) : Block :=
  let a := cipher first
  let b := cipher second
  let c := cipher third
  { size := 8
    encrypt := fun block => c.encrypt (b.decrypt (a.encrypt block))
    decrypt := fun block => a.decrypt (b.encrypt (c.decrypt block)) }

end Credential.Cipher.Des
