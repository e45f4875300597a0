import Credential.Proofs.Key.PbeKey
import Credential.Proofs.Text.Utf16
import Credential.Proofs.Text.Utf8

/-!
# The key derivation of PKCS#12

RFC 7292, Appendix B.2, as a `Derivation`: the inputs `I` and the output blocks `A` of one password,
salt and number of iterations, with the rules that tie each to the one before. `pkcs12_derivation`
says that `pkcs12` gives the first octets of `A₁ ‖ A₂ ‖ …` of every derivation, for every purpose
octet and size, and that there is one.

Between two output blocks the input is increased octet by octet in words of 16 bits. No sum of two
octets and a carry leaves such a word (`carry_addOne_le`), so all of it is one sum of two numbers. A
password is encoded before the derivation, and different passwords are encoded differently
(`bmpPassword?_injective`).
-/

namespace Credential.Key.Pbe

/-! ## Derivations -/

/-- The inputs and the output blocks of a derivation, counted from zero. The first input is the salt
and the password, both filled up to blocks of 64 octets by copies. An output block is the digest
iterated on 64 octets with the purpose and on the input. The next input has every block increased by
the copies of the output block and one, modulo the numbers of 512 bits. -/
structure Derivation (id : UInt8) (password salt : Bytes) (iterations : Nat) where
  input : Nat → Bytes
  output : Nat → Bytes
  input_zero : input 0 =
    copies salt (roundedUp salt.length) ++ copies password (roundedUp password.length)
  output_eq : ∀ i, output i =
    Nat.repeat Digest.sha1 iterations (List.replicate 64 id ++ input i)
  input_succ : ∀ i, Bytes.blocks 64 (input (i + 1)) =
    (Bytes.blocks 64 (input i)).map fun block => Bytes.bigEndian 64
      ((Bytes.toNat block + Bytes.toNat (copies (output i) 64) + 1) % Nat.pow 2 512)

theorem digestAt_eq_repeat (hash : Bytes → Bytes) (message : Bytes) (index : Nat) :
    digestAt hash message index = Nat.repeat hash (index + 1) message := by
  induction index with
  | zero => rfl
  | succ index ih => exact congrArg hash ih

theorem outputAt_eq_repeat {iterations : Nat} (h : 0 < iterations) (id : UInt8) (input : Bytes) :
    outputAt id iterations input =
      Nat.repeat Digest.sha1 iterations (List.replicate 64 id ++ input) := by
  have hlast : iterations - 1 + 1 = iterations := Nat.sub_add_cancel h
  unfold outputAt
  rw [digestAt_eq_repeat, hlast]

/-- The blocks of the next input are those of the input, increased one by one. -/
theorem blocks_nextInput (input output : Bytes) :
    Bytes.blocks 64 (nextInput input output) =
      (Bytes.blocks 64 input).map fun block => Bytes.bigEndian 64
        ((Bytes.toNat block + Bytes.toNat (copies output 64) + 1) % Nat.pow 2 512) := by
  have hpower : Nat.pow 2 512 = 256 ^ 64 := by decide +kernel
  have hwidth : ∀ block ∈ (Bytes.blocks 64 input).map (fun block => Bytes.bigEndian 64
      (Bytes.toNat block + Bytes.toNat (copies output 64) + 1)), block.length = 64 := by
    intro block hblock
    obtain ⟨before, -, rfl⟩ := List.mem_map.1 hblock
    exact Bytes.length_bigEndian 64 _
  simp only [hpower, Bytes.bigEndian_mod_pow]
  rw [nextInput, List.flatMap_def, Bytes.blocks_flatten (by decide) hwidth]

namespace Derivation

variable {id : UInt8} {password salt : Bytes} {iterations : Nat}

/-- The derivation by the recursion over the index of a block. -/
def standard (h : 0 < iterations) : Derivation id password salt iterations where
  input := inputAt id iterations
    (copies salt (roundedUp salt.length) ++ copies password (roundedUp password.length))
  output := fun i => outputAt id iterations (inputAt id iterations
    (copies salt (roundedUp salt.length) ++ copies password (roundedUp password.length)) i)
  input_zero := rfl
  output_eq := fun _ => outputAt_eq_repeat h id _
  input_succ := fun _ => blocks_nextInput _ _

variable (h : 0 < iterations) (derivation : Derivation id password salt iterations)
include h

theorem output_eq_outputAt (i : Nat) :
    derivation.output i = outputAt id iterations (derivation.input i) := by
  rw [derivation.output_eq, outputAt_eq_repeat h]

/-- The rules leave no choice: one input follows from the one before. -/
theorem input_eq_inputAt (i : Nat) :
    derivation.input i = inputAt id iterations
      (copies salt (roundedUp salt.length) ++ copies password (roundedUp password.length)) i := by
  induction i with
  | zero => exact derivation.input_zero
  | succ i ih =>
    have hblocks := derivation.input_succ i
    rw [← blocks_nextInput] at hblocks
    have hflat := congrArg List.flatten hblocks
    rw [Bytes.flatten_blocks (by decide), Bytes.flatten_blocks (by decide)] at hflat
    rw [hflat, derivation.output_eq_outputAt h, ih, inputAt_succ]

/-- The derived octets are the first ones of the output blocks, of which any number is taken that is
large enough. -/
theorem pkcs12_eq_take {size count : Nat} (hcount : size ≤ 20 * count) :
    pkcs12 id password salt iterations size =
      ((List.range count).flatMap derivation.output).take size := by
  have hlength : ∀ i, (derivation.output i).length = 20 := by
    intro i
    rw [derivation.output_eq_outputAt h]
    exact length_outputAt _ _ _
  have houtput : derivation.output = fun i => outputAt id iterations (inputAt id iterations
      (copies salt (roundedUp salt.length) ++ copies password (roundedUp password.length)) i) := by
    funext i
    rw [derivation.output_eq_outputAt h, derivation.input_eq_inputAt h]
  -- the derivation stops after as many blocks as the size needs
  have henough : size ≤ 20 * ((size + 19) / 20) := by omega
  have hfewer : (size + 19) / 20 ≤ count := by omega
  rw [Bytes.take_flatMap_range hlength henough hfewer, houtput, pkcs12_eq]
  rfl

end Derivation

/-! ## Passwords -/

/-- Different passwords are encoded differently. -/
theorem bmpPassword?_injective {password other encoded : Bytes}
    (h : bmpPassword? password = some encoded) (hother : bmpPassword? other = some encoded) :
    password = other := by
  obtain ⟨s, hs, rfl⟩ := Option.map_eq_some_iff.1 h
  obtain ⟨t, ht, heq⟩ := Option.map_eq_some_iff.1 hother
  have hchars : t.toList = s.toList := Text.Utf16.encode_injective (List.append_cancel_right heq)
  rw [← Text.Utf8.encode_of_decode? hs, ← Text.Utf8.encode_of_decode? ht,
    String.toList_inj.1 hchars]

/-! ## Main result -/

/-- The key derivation of PKCS#12 is that of RFC 7292, for every purpose octet, password, salt,
number of iterations and size. Its sums of blocks are exact, in words of 16 bits that never
overflow, and passwords that are UTF-8 are told apart by their encodings. -/
theorem pkcs12_derivation :
    (∀ (id : UInt8) (password salt : Bytes) (iterations size : Nat), 0 < iterations →
      (pkcs12 id password salt iterations size).length = size ∧
      Nonempty (Derivation id password salt iterations) ∧
      ∀ derivation : Derivation id password salt iterations, ∀ count, size ≤ 20 * count →
        pkcs12 id password salt iterations size =
          ((List.range count).flatMap derivation.output).take size) ∧
    (∀ block addend : Bytes, block.length = addend.length →
      (addOne block addend).1 = Bytes.bigEndian block.length
        ((Bytes.toNat block + Bytes.toNat addend + 1) % 256 ^ block.length) ∧
      Bytes.toNat (addOne block addend).1 +
          (addOne block addend).2.toNat * 256 ^ block.length =
        Bytes.toNat block + Bytes.toNat addend + 1) ∧
    (∀ (x y : UInt8) (xs ys : Bytes), x.toNat + y.toNat + (addOne xs ys).2.toNat < 65536 ∧
      (x.toUInt16 + y.toUInt16 + (addOne xs ys).2).toNat =
        x.toNat + y.toNat + (addOne xs ys).2.toNat) ∧
    (∀ password s, Text.Utf8.decode? password = some s →
      bmpPassword? password = some (Text.Utf16.encode s.toList ++ [0, 0])) ∧
    (∀ password other encoded, bmpPassword? password = some encoded →
      bmpPassword? other = some encoded → password = other) := by
  refine ⟨?derived, ?sums, ?words, ?encoded, ?injective⟩
  case derived =>
    intro id password salt iterations size h
    refine ⟨length_pkcs12 id password salt iterations size, ⟨.standard h⟩, ?_⟩
    intro derivation count hcount
    exact derivation.pkcs12_eq_take h hcount
  case sums =>
    intro block addend h
    refine ⟨?_, toNat_addOne h⟩
    rw [addOne_eq h, Bytes.bigEndian_mod_pow]
  case words =>
    intro x y xs ys
    have hx := x.toNat_lt
    have hy := y.toNat_lt
    have hcarry := carry_addOne_le xs ys
    refine ⟨?_, toNat_octetSum x y hcarry⟩
    omega
  case encoded =>
    intro password s hs
    simp [bmpPassword?, hs]
  case injective =>
    intro password other encoded
    exact bmpPassword?_injective

/-- Two output blocks for a password of one letter, under a purpose octet that no scheme uses; the
largest block of two octets, which is increased to zero with a carry; and the one password with the
encoding of the letter. -/
theorem pkcs12_derivation_two_blocks :
    bmpPassword? [0x70] = some [0, 0x70, 0, 0] ∧
    (∃ derivation : Derivation 3 [0, 0x70, 0, 0] [1, 2] 2, pkcs12 3 [0, 0x70, 0, 0] [1, 2] 2 25 =
      ((List.range 2).flatMap derivation.output).take 25) ∧
    (addOne [255, 255] [0, 0]).1 = [0, 0] ∧
    ∀ other, bmpPassword? other = some [0, 0x70, 0, 0] → other = [0x70] := by
  obtain ⟨hderived, hsums, -, hencoded, hinjective⟩ := pkcs12_derivation
  have hdecode : Text.Utf8.decode? [0x70] = some (Text.Utf8.ascii [0x70]) :=
    Text.Utf8.decode?_of_ascii (by decide +kernel)
  have hletter : bmpPassword? [0x70] = some [0, 0x70, 0, 0] := by
    rw [hencoded _ _ hdecode, Text.Utf8.ascii, String.toList_ofList]
    rfl
  obtain ⟨-, ⟨derivation⟩, htake⟩ := hderived 3 [0, 0x70, 0, 0] [1, 2] 2 25 (by decide)
  obtain ⟨hsum, -⟩ := hsums [255, 255] [0, 0] rfl
  exact ⟨hletter, ⟨derivation, htake derivation 2 (by decide)⟩, hsum.trans (by decide +kernel),
    fun other hother => hinjective _ _ _ hother hletter⟩

end Credential.Key.Pbe
