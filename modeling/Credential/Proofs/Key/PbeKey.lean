import Credential.Proofs.Bytes
import Credential.Proofs.Key.DerivedLength

/-!
# Keys from passwords by the letter of the standards

PBKDF1 and the key derivation of RFC 7292, Appendix B.2, in the words of the standards: digests as
recursions over their index, byte strings filled up with copies, and blocks added as numbers.
`derive?_eq_standard` says that every scheme derives its key and vector by them.

The derivation adds octet by octet with a carry; `addOne_eq` says that this is the sum as a number,
so nothing is lost at any octet (`toNat_addOne`).
-/

namespace Credential.Key.Pbe

/-! ## PBKDF1 -/

/-- The digests `T₁`, `T₂`, … of a message, counted from zero: each is taken of the one before
it. -/
def digestAt (hash : Bytes → Bytes) (message : Bytes) : (index : Nat) → Bytes
  | 0 => hash message
  | index + 1 => hash (digestAt hash message index)

theorem iterated_eq (hash : Bytes → Bytes) (iterations : Nat) (message : Bytes) :
    iterated hash iterations message = digestAt hash message (iterations - 1) := by
  unfold iterated
  generalize iterations - 1 = index
  induction index with
  | zero => rfl
  | succ index ih => exact congrArg hash ih

/-- The key and the vector of PBES1: the first eight octets of the last digest and the next
eight. -/
def pbes1 (hash : Bytes → Bytes) (password salt : Bytes) (iterations : Nat) : Bytes × Bytes :=
  let digest := digestAt hash (password ++ salt) (iterations - 1)
  (digest.take 8, (digest.drop 8).take 8)

theorem pbkdf1_halves (hash : Bytes → Bytes) (password salt : Bytes) (iterations : Nat) :
    ((pbkdf1 hash password salt iterations).take 8,
      ((pbkdf1 hash password salt iterations).drop 8).take 8) =
        pbes1 hash password salt iterations := by
  unfold pbkdf1 pbes1
  rw [iterated_eq, List.take_take, List.drop_take, List.take_take]
  rfl

/-! ## Copies -/

/-- `length` octets of copies of a byte string, of which the last copy may be cut. -/
def copies (data : Bytes) (length : Nat) : Bytes :=
  (List.range length).map fun i => data.getD (i % data.length) 0

@[simp] theorem length_copies (data : Bytes) (length : Nat) :
    (copies data length).length = length := by
  simp [copies]

/-- The least number of octets that are whole blocks and hold so many octets. -/
def roundedUp (length : Nat) : Nat :=
  (length + 63) / 64 * 64

theorem getElem?_flatten_replicate (data : Bytes) (count i : Nat) (h : i < count * data.length) :
    (List.replicate count data).flatten[i]? = data[i % data.length]? := by
  -- the place is in the first copy, or it is one of the others
  induction count generalizing i with
  | zero => omega
  | succ count ih =>
      rw [List.replicate_succ, List.flatten_cons]
      by_cases hfirst : i < data.length
      · rw [List.getElem?_append_left hfirst, Nat.mod_eq_of_lt hfirst]
      · have hle : data.length ≤ i := Nat.le_of_not_lt hfirst
        have hrest : i - data.length < count * data.length := by
          rw [Nat.succ_mul] at h
          omega
        rw [List.getElem?_append_right hle, ih _ hrest, ← Nat.mod_eq_sub_mod hle]

/-- Filling up to whole blocks is copying. -/
theorem filled_eq (data : Bytes) : filled data = copies data (roundedUp data.length) := by
  have hsize : filled data =
      (List.replicate 64 data).flatten.take (roundedUp data.length) := rfl
  -- 64 copies of at least one octet are enough
  have henough : roundedUp data.length ≤ 64 * data.length := by
    unfold roundedUp
    omega
  rw [hsize]
  apply List.ext_getElem?
  intro i
  by_cases hi : i < roundedUp data.length
  · have hpos : 0 < data.length := by omega
    have hmod : i % data.length < data.length := Nat.mod_lt _ hpos
    have hcopy :
        (copies data (roundedUp data.length))[i]? = some (data.getD (i % data.length) 0) := by
      unfold copies
      rw [List.getElem?_map, List.getElem?_range hi]
      rfl
    rw [List.getElem?_take_of_lt hi, getElem?_flatten_replicate _ _ _ (by omega), hcopy,
      List.getD_eq_getElem?_getD, List.getElem?_eq_getElem hmod]
    rfl
  · rw [List.getElem?_eq_none (by rw [List.length_take]; omega),
      List.getElem?_eq_none (by rw [length_copies]; omega)]

/-! ## Sums of blocks -/

theorem addOne_cons (x y : UInt8) (xs ys : Bytes) :
    addOne (x :: xs) (y :: ys) =
      ((x.toUInt16 + y.toUInt16 + (addOne xs ys).2).toUInt8 :: (addOne xs ys).1,
        (x.toUInt16 + y.toUInt16 + (addOne xs ys).2) >>> 8) := rfl

theorem length_addOne {xs ys : Bytes} (h : xs.length = ys.length) :
    (addOne xs ys).1.length = xs.length := by
  induction xs generalizing ys with
  | nil => cases ys <;> rfl
  | cons x xs ih =>
      cases ys with
      | nil => cases h
      | cons y ys => exact congrArg (· + 1) (ih (Nat.succ.inj h))

/-- A word holds the sum of two octets and of a carry. -/
theorem toNat_octetSum (x y : UInt8) {carry : UInt16} (h : carry.toNat ≤ 1) :
    (x.toUInt16 + y.toUInt16 + carry).toNat = x.toNat + y.toNat + carry.toNat := by
  have hx := x.toNat_lt
  have hy := y.toNat_lt
  rw [UInt16.toNat_add, UInt16.toNat_add, UInt8.toNat_toUInt16, UInt8.toNat_toUInt16]
  omega

theorem toNat_carry (sum : UInt16) : (sum >>> 8).toNat = sum.toNat / 256 := by
  rw [UInt16.toNat_shiftRight]
  exact Nat.shiftRight_eq_div_pow sum.toNat 8

/-- The carry is one at the last octet and at most one at all others, so no word is too small. -/
theorem carry_addOne_le (xs ys : Bytes) : (addOne xs ys).2.toNat ≤ 1 := by
  induction xs generalizing ys with
  | nil => exact Nat.le_refl 1
  | cons x xs ih =>
      cases ys with
      | nil => exact Nat.le_refl 1
      | cons y ys =>
          have hx := x.toNat_lt
          have hy := y.toNat_lt
          have hcarry := ih ys
          rw [addOne_cons, toNat_carry, toNat_octetSum x y hcarry]
          omega

/-- The octets and the carry together are the sum of the two numbers and one. -/
theorem toNat_addOne {xs ys : Bytes} (h : xs.length = ys.length) :
    Bytes.toNat (addOne xs ys).1 + (addOne xs ys).2.toNat * 256 ^ xs.length =
      Bytes.toNat xs + Bytes.toNat ys + 1 := by
  -- addition starts at the last octet, so the carry of the rest is there when an octet is added
  induction xs generalizing ys with
  | nil =>
      have hnil : ys = [] := List.eq_nil_of_length_eq_zero h.symm
      rw [hnil]
      rfl
  | cons x xs ih =>
      cases ys with
      | nil => cases h
      | cons y ys =>
          have hlength : xs.length = ys.length := Nat.succ.inj h
          have hrest := ih hlength
          have hout := length_addOne hlength
          have hsum := toNat_octetSum x y (carry_addOne_le xs ys)
          have hcons := addOne_cons x y xs ys
          generalize x.toUInt16 + y.toUInt16 + (addOne xs ys).2 = sum at hsum hcons
          have hoctet : sum.toUInt8.toNat = sum.toNat % 256 := UInt16.toNat_toUInt8 sum
          -- the octet and the carry are the two digits of the sum at this place
          have hdigits (place : Nat) : sum.toNat % 256 * place + sum.toNat / 256 * (place * 256) =
              x.toNat * place + y.toNat * place + (addOne xs ys).2.toNat * place := by
            rw [Nat.mul_comm place, ← Nat.mul_assoc, ← Nat.add_mul, Nat.mul_comm _ 256,
              Nat.mod_add_div, hsum, Nat.add_mul, Nat.add_mul]
          have hplace := hdigits (256 ^ xs.length)
          rw [hcons]
          dsimp only
          rw [Bytes.toNat_cons, Bytes.toNat_cons, Bytes.toNat_cons, hoctet, toNat_carry, hout,
            ← hlength, List.length_cons, Nat.pow_succ]
          omega

/-- Octet by octet with a carry, or as numbers of the size of the blocks. -/
theorem addOne_eq {xs ys : Bytes} (h : xs.length = ys.length) :
    (addOne xs ys).1 = Bytes.bigEndian xs.length (Bytes.toNat xs + Bytes.toNat ys + 1) := by
  have hsum := toNat_addOne h
  have hlength := length_addOne h
  have hlt := Bytes.toNat_lt_pow (addOne xs ys).1
  rw [hlength] at hlt
  have hmod : (Bytes.toNat xs + Bytes.toNat ys + 1) % 256 ^ xs.length =
      Bytes.toNat (addOne xs ys).1 := by
    rw [← hsum, Nat.add_mul_mod_self_right, Nat.mod_eq_of_lt hlt]
  rw [← Bytes.bigEndian_mod_pow, hmod, Bytes.bigEndian_toNat_of_length hlength]

/-! ## The derivation of RFC 7292 -/

/-- An output block: the digest iterated on 64 octets that tell the purpose and on the input. -/
def outputAt (id : UInt8) (iterations : Nat) (input : Bytes) : Bytes :=
  digestAt Digest.sha1 (List.replicate 64 id ++ input) (iterations - 1)

/-- The input after an output block: each of its blocks is increased, modulo its size, by the copies
of the output and one. -/
def nextInput (input output : Bytes) : Bytes :=
  (Bytes.blocks 64 input).flatMap fun block =>
    Bytes.bigEndian 64 (Bytes.toNat block + Bytes.toNat (copies output 64) + 1)

/-- The input before the output block with the given index. -/
def inputAt (id : UInt8) (iterations : Nat) (initial : Bytes) : (index : Nat) → Bytes
  | 0 => initial
  | index + 1 =>
    nextInput (inputAt id iterations initial index)
      (outputAt id iterations (inputAt id iterations initial index))

theorem inputAt_succ (id : UInt8) (iterations : Nat) (initial : Bytes) (index : Nat) :
    inputAt id iterations initial (index + 1) =
      nextInput (inputAt id iterations initial index)
        (outputAt id iterations (inputAt id iterations initial index)) := rfl

/-- The key derivation of RFC 7292, Appendix B.2, with SHA-1. -/
def derivedOctets (id : UInt8) (password salt : Bytes) (iterations size : Nat) : Bytes :=
  let initial := copies salt (roundedUp salt.length) ++ copies password (roundedUp password.length)
  let output (index : Nat) := outputAt id iterations (inputAt id iterations initial index)
  ((List.range ((size + 19) / 20)).flatMap output).take size

theorem length_outputAt (id : UInt8) (iterations : Nat) (input : Bytes) :
    (outputAt id iterations input).length = 20 := by
  unfold outputAt
  rw [← iterated_eq]
  exact length_iterated Digest.length_sha1 _ _

theorem length_nextInput (input output : Bytes) :
    (nextInput input output).length = 64 * (Bytes.blocks 64 input).length := by
  unfold nextInput
  generalize Bytes.blocks 64 input = blocks
  induction blocks with
  | nil => rfl
  | cons block rest ih =>
      rw [List.flatMap_cons, List.length_append, ih, Bytes.length_bigEndian, List.length_cons]
      omega

/-- The input is whole blocks all the time. -/
theorem length_inputAt_mod (id : UInt8) (iterations : Nat) {initial : Bytes}
    (h : initial.length % 64 = 0) (index : Nat) :
    (inputAt id iterations initial index).length % 64 = 0 := by
  cases index with
  | zero => exact h
  | succ index =>
      have hlength := length_nextInput (inputAt id iterations initial index)
        (outputAt id iterations (inputAt id iterations initial index))
      rw [inputAt_succ, hlength, Nat.mul_mod_right]

/-- Advancing the input is adding to its blocks as numbers. -/
theorem advance_eq {input output : Bytes} (hinput : input.length % 64 = 0)
    (houtput : output.length = 20) : advance input output = nextInput input output := by
  have haddend : filled output = copies output 64 := by
    rw [filled_eq, houtput]
    rfl
  have hblock : ∀ block ∈ Bytes.blocks 64 input, (addOne block (filled output)).1 =
      Bytes.bigEndian 64 (Bytes.toNat block + Bytes.toNat (copies output 64) + 1) := by
    intro block hb
    have hlength : block.length = 64 := Bytes.length_of_mem_blocks (by decide) hinput hb
    rw [addOne_eq (by rw [haddend, length_copies, hlength]), haddend, hlength]
  have hsize : blockSize = 64 := rfl
  unfold advance nextInput
  dsimp only
  rw [hsize, List.flatMap_def, List.flatMap_def, List.map_congr_left hblock]

/-- The output blocks from the index on where the input stands. -/
theorem outputBlocks_eq (id : UInt8) (iterations : Nat) {initial : Bytes}
    (h : initial.length % 64 = 0) (count index : Nat) :
    outputBlocks (List.replicate 64 id) iterations count (inputAt id iterations initial index) =
      (List.range' index count).flatMap fun i =>
        outputAt id iterations (inputAt id iterations initial i) := by
  -- the input that one output block leaves behind is the input of the next index
  induction count generalizing index with
  | zero => rfl
  | succ count ih =>
      have houtput : iterated Digest.sha1 iterations
          (List.replicate 64 id ++ inputAt id iterations initial index) =
            outputAt id iterations (inputAt id iterations initial index) := iterated_eq _ _ _
      have hnext := ih (index + 1)
      rw [inputAt_succ] at hnext
      unfold outputBlocks
      dsimp only
      rw [houtput, advance_eq (length_inputAt_mod id iterations h index) (length_outputAt _ _ _),
        hnext, List.range'_succ, List.flatMap_cons]

theorem pkcs12_eq (id : UInt8) (password salt : Bytes) (iterations size : Nat) :
    pkcs12 id password salt iterations size = derivedOctets id password salt iterations size := by
  have hwhole : (copies salt (roundedUp salt.length) ++
      copies password (roundedUp password.length)).length % 64 = 0 := by
    rw [List.length_append, length_copies, length_copies]
    unfold roundedUp
    omega
  have hblocks := outputBlocks_eq id iterations hwhole ((size + 19) / 20) 0
  rw [← List.range_eq_range'] at hblocks
  unfold derivedOctets
  dsimp only
  rw [← hblocks, ← filled_eq, ← filled_eq]
  rfl

/-! ## Schemes -/

namespace Scheme

/-- The key and the vector of a scheme by the standards. A PKCS#12 scheme takes the password as
UTF-16 with two zero octets after it, and derives the key with the purpose 1 and the vector with the
purpose 2. -/
def standard? (scheme : Scheme) (password salt : Bytes) (iterations : Nat) :
    Option (Bytes × Bytes) :=
  match scheme with
  | .md5Des => some (pbes1 Digest.md5 password salt iterations)
  | .sha1Des => some (pbes1 Digest.sha1 password salt iterations)
  | .sha1TripleDes =>
    (Text.Utf8.decode? password).map fun s =>
      let encoded := Text.Utf16.encode s.toList ++ [0, 0]
      (derivedOctets 1 encoded salt iterations 24, derivedOctets 2 encoded salt iterations 8)
  | .sha1TwoKeyTripleDes =>
    (Text.Utf8.decode? password).map fun s =>
      let encoded := Text.Utf16.encode s.toList ++ [0, 0]
      (derivedOctets 1 encoded salt iterations 16, derivedOctets 2 encoded salt iterations 8)

/-- A PKCS#12 scheme with keys and vectors of any size. -/
theorem map_pkcs12_eq (password salt : Bytes) (iterations keySize vectorSize : Nat) :
    ((bmpPassword? password).map fun encoded =>
        (pkcs12 Purpose.key.octet encoded salt iterations keySize,
          pkcs12 Purpose.vector.octet encoded salt iterations vectorSize)) =
      (Text.Utf8.decode? password).map fun s =>
        (derivedOctets 1 (Text.Utf16.encode s.toList ++ [0, 0]) salt iterations keySize,
          derivedOctets 2 (Text.Utf16.encode s.toList ++ [0, 0]) salt iterations vectorSize) := by
  unfold bmpPassword?
  rw [Option.map_map]
  congr 1
  funext s
  simp only [Function.comp, pkcs12_eq]
  rfl

/-- Every scheme derives its key and its vector by the standards. -/
theorem derive?_eq_standard (scheme : Scheme) (password salt : Bytes) (iterations : Nat) :
    scheme.derive? password salt iterations = scheme.standard? password salt iterations := by
  cases scheme with
  | md5Des => exact congrArg some (pbkdf1_halves _ _ _ _)
  | sha1Des => exact congrArg some (pbkdf1_halves _ _ _ _)
  | sha1TripleDes => exact map_pkcs12_eq password salt iterations 24 8
  | sha1TwoKeyTripleDes => exact map_pkcs12_eq password salt iterations 16 8

end Scheme

end Credential.Key.Pbe
