import Credential.Cipher.Block

/-!
# AES

The block cipher on 16 octets, with keys of 16, 24 and 32 octets. A block is a state of four
columns. Deciphering undoes the rounds one by one, each step by its inverse, so
`deciphered keys (enciphered keys s) = s` for every list of round keys.
-/

namespace Credential.Cipher.Aes

/-- One column of the state. -/
structure Column where
  r0 : UInt8
  r1 : UInt8
  r2 : UInt8
  r3 : UInt8
  deriving DecidableEq, Repr, Inhabited

/-- The four columns of a block. -/
structure State where
  c0 : Column
  c1 : Column
  c2 : Column
  c3 : Column
  deriving DecidableEq, Repr, Inhabited

/-- The substitution of SubBytes. -/
def substitutionTable : Array UInt8 :=
  #[
    0x63, 0x7c, 0x77, 0x7b, 0xf2, 0x6b, 0x6f, 0xc5, 0x30, 0x01, 0x67, 0x2b, 0xfe, 0xd7, 0xab, 0x76,
    0xca, 0x82, 0xc9, 0x7d, 0xfa, 0x59, 0x47, 0xf0, 0xad, 0xd4, 0xa2, 0xaf, 0x9c, 0xa4, 0x72, 0xc0,
    0xb7, 0xfd, 0x93, 0x26, 0x36, 0x3f, 0xf7, 0xcc, 0x34, 0xa5, 0xe5, 0xf1, 0x71, 0xd8, 0x31, 0x15,
    0x04, 0xc7, 0x23, 0xc3, 0x18, 0x96, 0x05, 0x9a, 0x07, 0x12, 0x80, 0xe2, 0xeb, 0x27, 0xb2, 0x75,
    0x09, 0x83, 0x2c, 0x1a, 0x1b, 0x6e, 0x5a, 0xa0, 0x52, 0x3b, 0xd6, 0xb3, 0x29, 0xe3, 0x2f, 0x84,
    0x53, 0xd1, 0x00, 0xed, 0x20, 0xfc, 0xb1, 0x5b, 0x6a, 0xcb, 0xbe, 0x39, 0x4a, 0x4c, 0x58, 0xcf,
    0xd0, 0xef, 0xaa, 0xfb, 0x43, 0x4d, 0x33, 0x85, 0x45, 0xf9, 0x02, 0x7f, 0x50, 0x3c, 0x9f, 0xa8,
    0x51, 0xa3, 0x40, 0x8f, 0x92, 0x9d, 0x38, 0xf5, 0xbc, 0xb6, 0xda, 0x21, 0x10, 0xff, 0xf3, 0xd2,
    0xcd, 0x0c, 0x13, 0xec, 0x5f, 0x97, 0x44, 0x17, 0xc4, 0xa7, 0x7e, 0x3d, 0x64, 0x5d, 0x19, 0x73,
    0x60, 0x81, 0x4f, 0xdc, 0x22, 0x2a, 0x90, 0x88, 0x46, 0xee, 0xb8, 0x14, 0xde, 0x5e, 0x0b, 0xdb,
    0xe0, 0x32, 0x3a, 0x0a, 0x49, 0x06, 0x24, 0x5c, 0xc2, 0xd3, 0xac, 0x62, 0x91, 0x95, 0xe4, 0x79,
    0xe7, 0xc8, 0x37, 0x6d, 0x8d, 0xd5, 0x4e, 0xa9, 0x6c, 0x56, 0xf4, 0xea, 0x65, 0x7a, 0xae, 0x08,
    0xba, 0x78, 0x25, 0x2e, 0x1c, 0xa6, 0xb4, 0xc6, 0xe8, 0xdd, 0x74, 0x1f, 0x4b, 0xbd, 0x8b, 0x8a,
    0x70, 0x3e, 0xb5, 0x66, 0x48, 0x03, 0xf6, 0x0e, 0x61, 0x35, 0x57, 0xb9, 0x86, 0xc1, 0x1d, 0x9e,
    0xe1, 0xf8, 0x98, 0x11, 0x69, 0xd9, 0x8e, 0x94, 0x9b, 0x1e, 0x87, 0xe9, 0xce, 0x55, 0x28, 0xdf,
    0x8c, 0xa1, 0x89, 0x0d, 0xbf, 0xe6, 0x42, 0x68, 0x41, 0x99, 0x2d, 0x0f, 0xb0, 0x54, 0xbb, 0x16]

/-- The inverse substitution. -/
def inverseTable : Array UInt8 :=
  #[
    0x52, 0x09, 0x6a, 0xd5, 0x30, 0x36, 0xa5, 0x38, 0xbf, 0x40, 0xa3, 0x9e, 0x81, 0xf3, 0xd7, 0xfb,
    0x7c, 0xe3, 0x39, 0x82, 0x9b, 0x2f, 0xff, 0x87, 0x34, 0x8e, 0x43, 0x44, 0xc4, 0xde, 0xe9, 0xcb,
    0x54, 0x7b, 0x94, 0x32, 0xa6, 0xc2, 0x23, 0x3d, 0xee, 0x4c, 0x95, 0x0b, 0x42, 0xfa, 0xc3, 0x4e,
    0x08, 0x2e, 0xa1, 0x66, 0x28, 0xd9, 0x24, 0xb2, 0x76, 0x5b, 0xa2, 0x49, 0x6d, 0x8b, 0xd1, 0x25,
    0x72, 0xf8, 0xf6, 0x64, 0x86, 0x68, 0x98, 0x16, 0xd4, 0xa4, 0x5c, 0xcc, 0x5d, 0x65, 0xb6, 0x92,
    0x6c, 0x70, 0x48, 0x50, 0xfd, 0xed, 0xb9, 0xda, 0x5e, 0x15, 0x46, 0x57, 0xa7, 0x8d, 0x9d, 0x84,
    0x90, 0xd8, 0xab, 0x00, 0x8c, 0xbc, 0xd3, 0x0a, 0xf7, 0xe4, 0x58, 0x05, 0xb8, 0xb3, 0x45, 0x06,
    0xd0, 0x2c, 0x1e, 0x8f, 0xca, 0x3f, 0x0f, 0x02, 0xc1, 0xaf, 0xbd, 0x03, 0x01, 0x13, 0x8a, 0x6b,
    0x3a, 0x91, 0x11, 0x41, 0x4f, 0x67, 0xdc, 0xea, 0x97, 0xf2, 0xcf, 0xce, 0xf0, 0xb4, 0xe6, 0x73,
    0x96, 0xac, 0x74, 0x22, 0xe7, 0xad, 0x35, 0x85, 0xe2, 0xf9, 0x37, 0xe8, 0x1c, 0x75, 0xdf, 0x6e,
    0x47, 0xf1, 0x1a, 0x71, 0x1d, 0x29, 0xc5, 0x89, 0x6f, 0xb7, 0x62, 0x0e, 0xaa, 0x18, 0xbe, 0x1b,
    0xfc, 0x56, 0x3e, 0x4b, 0xc6, 0xd2, 0x79, 0x20, 0x9a, 0xdb, 0xc0, 0xfe, 0x78, 0xcd, 0x5a, 0xf4,
    0x1f, 0xdd, 0xa8, 0x33, 0x88, 0x07, 0xc7, 0x31, 0xb1, 0x12, 0x10, 0x59, 0x27, 0x80, 0xec, 0x5f,
    0x60, 0x51, 0x7f, 0xa9, 0x19, 0xb5, 0x4a, 0x0d, 0x2d, 0xe5, 0x7a, 0x9f, 0x93, 0xc9, 0x9c, 0xef,
    0xa0, 0xe0, 0x3b, 0x4d, 0xae, 0x2a, 0xf5, 0xb0, 0xc8, 0xeb, 0xbb, 0x3c, 0x83, 0x53, 0x99, 0x61,
    0x17, 0x2b, 0x04, 0x7e, 0xba, 0x77, 0xd6, 0x26, 0xe1, 0x69, 0x14, 0x63, 0x55, 0x21, 0x0c, 0x7d]

/-- SubBytes on one octet. -/
def substitute (b : UInt8) : UInt8 := substitutionTable.getD b.toNat 0

/-- InvSubBytes on one octet. -/
def unsubstitute (b : UInt8) : UInt8 := inverseTable.getD b.toNat 0

/-- Multiplication by `x` in the field of 256 elements. -/
def double (b : UInt8) : UInt8 :=
  b <<< 1 ^^^ (if b ≥ 0x80 then 0x1b else 0)

namespace Column

/-- The sum of two columns. -/
def add (u v : Column) : Column :=
  ⟨u.r0 ^^^ v.r0, u.r1 ^^^ v.r1, u.r2 ^^^ v.r2, u.r3 ^^^ v.r3⟩

/-- The column with `f` applied to every octet. -/
def map (f : UInt8 → UInt8) (u : Column) : Column :=
  ⟨f u.r0, f u.r1, f u.r2, f u.r3⟩

/-- The column with its first octet moved to the end. -/
def rotate (u : Column) : Column := ⟨u.r1, u.r2, u.r3, u.r0⟩

/-- One octet of MixColumns: `2 a + 3 b + c + d`. -/
def mixOctet (a b c d : UInt8) : UInt8 :=
  double a ^^^ (double b ^^^ b) ^^^ c ^^^ d

/-- MixColumns on one column. -/
def mix (u : Column) : Column :=
  ⟨mixOctet u.r0 u.r1 u.r2 u.r3, mixOctet u.r1 u.r2 u.r3 u.r0, mixOctet u.r2 u.r3 u.r0 u.r1,
    mixOctet u.r3 u.r0 u.r1 u.r2⟩

/-- One octet of InvMixColumns: `14 a + 11 b + 13 c + 9 d`. -/
def unmixOctet (a b c d : UInt8) : UInt8 :=
  double (double (double (a ^^^ b ^^^ c ^^^ d) ^^^ a ^^^ c) ^^^ a ^^^ b) ^^^ b ^^^ c ^^^ d

/-- InvMixColumns on one column. -/
def unmix (u : Column) : Column :=
  ⟨unmixOctet u.r0 u.r1 u.r2 u.r3, unmixOctet u.r1 u.r2 u.r3 u.r0,
    unmixOctet u.r2 u.r3 u.r0 u.r1, unmixOctet u.r3 u.r0 u.r1 u.r2⟩

/-- The octets of a column. -/
def octets (u : Column) : Bytes := [u.r0, u.r1, u.r2, u.r3]

end Column

namespace State

/-- The state of a block of 16 octets. -/
def ofBytes : Bytes → State
  | [a, b, c, d, e, f, g, h, i, j, k, l, m, n, o, p] =>
    ⟨⟨a, b, c, d⟩, ⟨e, f, g, h⟩, ⟨i, j, k, l⟩, ⟨m, n, o, p⟩⟩
  | _ => default

/-- The octets of a state. -/
def octets (s : State) : Bytes :=
  s.c0.octets ++ s.c1.octets ++ s.c2.octets ++ s.c3.octets

/-- AddRoundKey. -/
def add (s key : State) : State :=
  ⟨s.c0.add key.c0, s.c1.add key.c1, s.c2.add key.c2, s.c3.add key.c3⟩

/-- The state with `f` applied to every column. -/
def map (f : Column → Column) (s : State) : State := ⟨f s.c0, f s.c1, f s.c2, f s.c3⟩

/-- ShiftRows: row `i` moves `i` columns to the left. -/
def shiftRows (s : State) : State :=
  ⟨⟨s.c0.r0, s.c1.r1, s.c2.r2, s.c3.r3⟩, ⟨s.c1.r0, s.c2.r1, s.c3.r2, s.c0.r3⟩,
    ⟨s.c2.r0, s.c3.r1, s.c0.r2, s.c1.r3⟩, ⟨s.c3.r0, s.c0.r1, s.c1.r2, s.c2.r3⟩⟩

/-- InvShiftRows: row `i` moves `i` columns to the right. -/
def unshiftRows (s : State) : State :=
  ⟨⟨s.c0.r0, s.c3.r1, s.c2.r2, s.c1.r3⟩, ⟨s.c1.r0, s.c0.r1, s.c3.r2, s.c2.r3⟩,
    ⟨s.c2.r0, s.c1.r1, s.c0.r2, s.c3.r3⟩, ⟨s.c3.r0, s.c2.r1, s.c1.r2, s.c0.r3⟩⟩

/-- SubBytes. -/
def substitute (s : State) : State := s.map (Column.map Aes.substitute)

/-- InvSubBytes. -/
def unsubstitute (s : State) : State := s.map (Column.map Aes.unsubstitute)

end State

/-- The rounds with the given keys; the last one does not mix the columns. -/
def rounds : List State → State → State
  | [], s => s
  | [key], s => s.substitute.shiftRows.add key
  | key :: keys, s => rounds keys ((s.substitute.shiftRows.map Column.mix).add key)

/-- The inverse of the rounds with the given keys. -/
def unrounds : List State → State → State
  | [], s => s
  | [key], s => (s.add key).unshiftRows.unsubstitute
  | key :: keys, s =>
    ((((unrounds keys s).add key).map Column.unmix).unshiftRows).unsubstitute

/-- The state after all rounds; the first key is added before them. -/
def enciphered : List State → State → State
  | [], s => s
  | key :: keys, s => rounds keys (s.add key)

/-- The state before all rounds. -/
def deciphered : List State → State → State
  | [], s => s
  | key :: keys, s => (unrounds keys s).add key

/-! ## Key schedule -/

/-- The columns of a key. -/
def keyColumns : Bytes → List Column
  | a :: b :: c :: d :: rest => ⟨a, b, c, d⟩ :: keyColumns rest
  | _ => []

/-- The round constants. -/
def roundConstants : List UInt8 := [0x01, 0x02, 0x04, 0x08, 0x10, 0x20, 0x40, 0x80, 0x1b, 0x36]

/-- What is added to the column `length` places back: the last column, which is rotated
and substituted at the start of each run of `length` columns, and only substituted in the
middle of a run of eight. -/
def scheduleTerm (length i : Nat) (last : Column) : Column :=
  if i % length = 0 then
    (last.rotate.map substitute).add ⟨roundConstants.getD (i / length - 1) 0, 0, 0, 0⟩
  else if length = 8 ∧ i % length = 4 then last.map substitute
  else last

/-- The expanded key with one more column, for a key of `length` columns. -/
def extendKey (length : Nat) (columns : Array Column) : Array Column :=
  let i := columns.size
  let term := scheduleTerm length i (columns.getD (i - 1) default)
  columns.push ((columns.getD (i - length) default).add term)

/-- The states that four columns each make up. -/
def groupColumns : List Column → List State
  | c0 :: c1 :: c2 :: c3 :: rest => ⟨c0, c1, c2, c3⟩ :: groupColumns rest
  | _ => []

/-- The round keys of a key: seven more than it has columns. -/
def roundKeys (key : Bytes) : List State :=
  let columns := keyColumns key
  let length := columns.length
  groupColumns (Nat.repeat (extendKey length) (28 + 3 * length) columns.toArray).toList

/-- AES under a key of 16, 24 or 32 octets. -/
def cipher (key : Bytes) : Block :=
  let keys := roundKeys key
  { size := 16
    encrypt := fun block => (enciphered keys (.ofBytes block)).octets
    decrypt := fun block => (deciphered keys (.ofBytes block)).octets }

end Credential.Cipher.Aes
