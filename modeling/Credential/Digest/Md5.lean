import Credential.Digest.Message

/-!
# MD5

The digest of a byte string in 16 octets. Each block of the message changes four words in 64
steps, and the digest is the last words with the low octet first.
-/

namespace Credential.Digest.Md5

/-- The four words that a block changes. -/
structure State where
  a : UInt32
  b : UInt32
  c : UInt32
  d : UInt32
  deriving DecidableEq, Repr

/-- The words before the first block. -/
def initial : State := ⟨0x67452301, 0xefcdab89, 0x98badcfe, 0x10325476⟩

/-- The constants of the 64 steps: the integer parts of `2 ^ 32 * |sin i|`. -/
def constants : List UInt32 :=
  [0xd76aa478, 0xe8c7b756, 0x242070db, 0xc1bdceee, 0xf57c0faf, 0x4787c62a, 0xa8304613, 0xfd469501,
   0x698098d8, 0x8b44f7af, 0xffff5bb1, 0x895cd7be, 0x6b901122, 0xfd987193, 0xa679438e, 0x49b40821,
   0xf61e2562, 0xc040b340, 0x265e5a51, 0xe9b6c7aa, 0xd62f105d, 0x02441453, 0xd8a1e681, 0xe7d3fbc8,
   0x21e1cde6, 0xc33707d6, 0xf4d50d87, 0x455a14ed, 0xa9e3e905, 0xfcefa3f8, 0x676f02d9, 0x8d2a4c8a,
   0xfffa3942, 0x8771f681, 0x6d9d6122, 0xfde5380c, 0xa4beea44, 0x4bdecfa9, 0xf6bb4b60, 0xbebfbc70,
   0x289b7ec6, 0xeaa127fa, 0xd4ef3085, 0x04881d05, 0xd9d4d039, 0xe6db99e5, 0x1fa27cf8, 0xc4ac5665,
   0xf4292244, 0x432aff97, 0xab9423a7, 0xfc93a039, 0x655b59c3, 0x8f0ccc92, 0xffeff47d, 0x85845dd1,
   0x6fa87e4f, 0xfe2ce6e0, 0xa3014314, 0x4e0811a1, 0xf7537e82, 0xbd3af235, 0x2ad7d2bb, 0xeb86d391]

/-- The rotations of a round, which repeat every four steps. -/
def rotations (round : Nat) : List UInt32 :=
  match round with
  | 0 => [7, 12, 17, 22]
  | 1 => [5, 9, 14, 20]
  | 2 => [4, 11, 16, 23]
  | _ => [6, 10, 15, 21]

/-- The index of the message word that step `i` uses. -/
def wordIndex (i : Nat) : Nat :=
  match i / 16 with
  | 0 => i
  | 1 => (5 * i + 1) % 16
  | 2 => (3 * i + 5) % 16
  | _ => 7 * i % 16

/-- The mixing function of a round. -/
def mix (round : Nat) (b c d : UInt32) : UInt32 :=
  match round with
  | 0 => (b &&& c) ||| (~~~b &&& d)
  | 1 => (d &&& b) ||| (~~~d &&& c)
  | 2 => b ^^^ c ^^^ d
  | _ => c ^^^ (b ||| ~~~d)

/-- Step `i`, on the words of a block. -/
def step (words : Array UInt32) (s : State) (i : Nat) (constant : UInt32) : State :=
  let round := i / 16
  let sum := s.a + mix round s.b s.c s.d + constant + words.getD (wordIndex i) 0
  ⟨s.d, s.b + rotateLeft sum ((rotations round).getD (i % 4) 0), s.b, s.c⟩

/-- The steps from step `i` on. -/
def steps (words : Array UInt32) : State → Nat → List UInt32 → State
  | s, _, [] => s
  | s, i, constant :: rest => steps words (step words s i constant) (i + 1) rest

/-- The words after a block. -/
def compress (s : State) (block : Bytes) : State :=
  let t := steps (littleEndianWords block).toArray s 0 constants
  ⟨s.a + t.a, s.b + t.b, s.c + t.c, s.d + t.d⟩

/-- The octets of the four words. -/
def State.octets (s : State) : Bytes :=
  littleEndianOctets s.a ++ littleEndianOctets s.b ++ littleEndianOctets s.c
    ++ littleEndianOctets s.d

/-- The digest of a message. -/
def digest (message : Bytes) : Bytes :=
  ((messageBlocks (Bytes.littleEndian 8) message).foldl compress initial).octets

end Credential.Digest.Md5

namespace Credential.Digest

/-- The MD5 digest of a message. -/
def md5 (message : Bytes) : Bytes := Md5.digest message

/-- An MD5 digest has 16 octets. -/
@[simp] theorem length_md5 (message : Bytes) : (md5 message).length = 16 := rfl

end Credential.Digest
