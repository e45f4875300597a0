import Credential.Digest.Message

/-!
# SHA-1

The digest of a byte string in 20 octets. Each block of the message changes five words in 80
steps, and the digest is the last words with the high octet first.
-/

namespace Credential.Digest.Sha1

/-- The five words that a block changes. -/
structure State where
  a : UInt32
  b : UInt32
  c : UInt32
  d : UInt32
  e : UInt32
  deriving DecidableEq, Repr

/-- The words before the first block. -/
def initial : State := ⟨0x67452301, 0xefcdab89, 0x98badcfe, 0x10325476, 0xc3d2e1f0⟩

/-- The message schedule with one more word. -/
def extend (schedule : Array UInt32) : Array UInt32 :=
  let n := schedule.size
  let back (k : Nat) := schedule.getD (n - k) 0
  schedule.push (rotateLeft (back 3 ^^^ back 8 ^^^ back 14 ^^^ back 16) 1)

/-- The 80 words of the message schedule of a block. -/
def schedule (block : Bytes) : Array UInt32 :=
  Nat.repeat extend 64 (bigEndianWords block).toArray

/-- The mixing function of a round of 20 steps, with its constant. -/
def mix (round : Nat) (b c d : UInt32) : UInt32 :=
  match round with
  | 0 => ((b &&& c) ||| (~~~b &&& d)) + 0x5a827999
  | 1 => (b ^^^ c ^^^ d) + 0x6ed9eba1
  | 2 => ((b &&& c) ||| (b &&& d) ||| (c &&& d)) + 0x8f1bbcdc
  | _ => (b ^^^ c ^^^ d) + 0xca62c1d6

/-- Step `i`, with its word of the schedule. -/
def step (s : State) (i : Nat) (word : UInt32) : State :=
  ⟨rotateLeft s.a 5 + mix (i / 20) s.b s.c s.d + s.e + word, s.a, rotateLeft s.b 30, s.c, s.d⟩

/-- The steps from step `i` on. -/
def steps : State → Nat → List UInt32 → State
  | s, _, [] => s
  | s, i, word :: rest => steps (step s i word) (i + 1) rest

/-- The words after a block. -/
def compress (s : State) (block : Bytes) : State :=
  let t := steps s 0 (schedule block).toList
  ⟨s.a + t.a, s.b + t.b, s.c + t.c, s.d + t.d, s.e + t.e⟩

/-- The octets of the five words. -/
def State.octets (s : State) : Bytes :=
  bigEndianOctets s.a ++ bigEndianOctets s.b ++ bigEndianOctets s.c ++ bigEndianOctets s.d
    ++ bigEndianOctets s.e

/-- The digest of a message. -/
def digest (message : Bytes) : Bytes :=
  ((messageBlocks (Bytes.bigEndian 8) message).foldl compress initial).octets

end Credential.Digest.Sha1

namespace Credential.Digest

/-- The SHA-1 digest of a message. -/
def sha1 (message : Bytes) : Bytes := Sha1.digest message

/-- A SHA-1 digest has 20 octets. -/
@[simp] theorem length_sha1 (message : Bytes) : (sha1 message).length = 20 := rfl

end Credential.Digest
