import Credential.Cipher.Aes

/-!
# AES deciphers what it enciphered

`deciphered_enciphered` says it of every list of round keys, so nothing is needed of the key
schedule, and `cipher_decrypt_encrypt` of blocks. Each step of a round is undone by its inverse: the
substitution by table (`unsubstitute_substitute`), the shift of the rows by definition, and
MixColumns by `Column.unmix_mix`, which rests on nothing but the linearity of `double`.
-/

namespace Credential.Cipher.Aes

/-! ## Octets -/

/-- The inverse table undoes the substitution, octet by octet. -/
@[simp] theorem unsubstitute_substitute (b : UInt8) : unsubstitute (substitute b) = b := by
  have htable : ∀ n < 256, unsubstitute (substitute (UInt8.ofNat n)) = UInt8.ofNat n := by
    decide +kernel
  have h := htable b.toNat b.toNat_lt
  rwa [UInt8.ofNat_toNat] at h

theorem xor_left_comm (a b c : UInt8) : a ^^^ (b ^^^ c) = b ^^^ (a ^^^ c) := by
  rw [← UInt8.xor_assoc, UInt8.xor_comm a b, UInt8.xor_assoc]

@[simp] theorem xor_cancel_left (a b : UInt8) : a ^^^ (a ^^^ b) = b := by
  rw [← UInt8.xor_assoc, UInt8.xor_self, UInt8.zero_xor]

@[simp] theorem xor_cancel_right (a b : UInt8) : a ^^^ b ^^^ b = a := by
  rw [UInt8.xor_assoc, UInt8.xor_self, UInt8.xor_zero]

theorem double_eq (b : UInt8) :
    double b = b <<< 1 ^^^ (if b.toBitVec.msb then 0x1b else 0) := by
  have hmsb : b ≥ 0x80 ↔ b.toBitVec.msb = true := by
    rw [BitVec.msb_eq_decide, decide_eq_true_iff]
    exact UInt8.le_iff_toNat_le
  unfold double
  simp only [hmsb]

/-- Doubling is linear: the top bits of the summands add up like all others. -/
theorem double_xor (a b : UInt8) : double (a ^^^ b) = double a ^^^ double b := by
  simp only [double_eq, UInt8.shiftLeft_xor, UInt8.toBitVec_xor, BitVec.msb_xor]
  cases a.toBitVec.msb with
  | false =>
      cases b.toBitVec.msb with
      | false => simp
      | true => simp [UInt8.xor_assoc]
  | true =>
      cases b.toBitVec.msb with
      | false => simp [UInt8.xor_assoc, UInt8.xor_comm, xor_left_comm]
      | true => simp [UInt8.xor_comm, xor_left_comm]

/-! ## Columns -/

namespace Column

section

variable (a b c d : UInt8)

/-- The octets of a mixed column have the sum of the octets of the column. -/
theorem mixOctet_sum :
    mixOctet a b c d ^^^ mixOctet b c d a ^^^ mixOctet c d a b ^^^ mixOctet d a b c =
      a ^^^ b ^^^ c ^^^ d := by
  simp only [mixOctet, UInt8.xor_assoc, UInt8.xor_comm, xor_left_comm, xor_cancel_left,
    UInt8.xor_self, UInt8.xor_zero]

theorem mixOctet_alternate :
    double (a ^^^ b ^^^ c ^^^ d) ^^^ mixOctet a b c d ^^^ mixOctet c d a b = a ^^^ c := by
  simp only [mixOctet, double_xor, UInt8.xor_assoc, UInt8.xor_comm, xor_left_comm,
    xor_cancel_left, UInt8.xor_self, UInt8.xor_zero]

theorem mixOctet_adjacent :
    double (a ^^^ c) ^^^ mixOctet a b c d ^^^ mixOctet b c d a = a ^^^ b := by
  simp only [mixOctet, double_xor, UInt8.xor_assoc, UInt8.xor_comm, xor_left_comm,
    xor_cancel_left, UInt8.xor_self, UInt8.xor_zero]

theorem mixOctet_others :
    double (a ^^^ b) ^^^ mixOctet b c d a ^^^ mixOctet c d a b ^^^ mixOctet d a b c = a := by
  simp only [mixOctet, double_xor, UInt8.xor_assoc, UInt8.xor_comm, xor_left_comm,
    xor_cancel_left, UInt8.xor_self, UInt8.xor_zero]

/-- The three doublings of `unmixOctet` bring back the sum of all four octets, of two alternate
ones, of two adjacent ones, and at last one octet. -/
theorem unmixOctet_mixOctet :
    unmixOctet (mixOctet a b c d) (mixOctet b c d a) (mixOctet c d a b) (mixOctet d a b c) = a := by
  unfold unmixOctet
  rw [mixOctet_sum, mixOctet_alternate, mixOctet_adjacent, mixOctet_others]

end

@[simp] theorem unmix_mix (u : Column) : u.mix.unmix = u := by
  cases u with
  | mk a b c d =>
      unfold mix unmix
      dsimp only
      rw [unmixOctet_mixOctet a b c d, unmixOctet_mixOctet b c d a, unmixOctet_mixOctet c d a b,
        unmixOctet_mixOctet d a b c]

@[simp] theorem add_add (u key : Column) : (u.add key).add key = u := by
  simp only [add, xor_cancel_right]

end Column

/-! ## States -/

namespace State

@[simp] theorem add_add (s key : State) : (s.add key).add key = s := by
  simp [add]

@[simp] theorem unsubstitute_substitute (s : State) : s.substitute.unsubstitute = s := by
  simp [substitute, unsubstitute, map, Column.map]

@[simp] theorem unshiftRows_shiftRows (s : State) : s.shiftRows.unshiftRows = s := rfl

@[simp] theorem unmix_mix (s : State) : (s.map Column.mix).map Column.unmix = s := by
  simp [map]

@[simp] theorem ofBytes_octets (s : State) : ofBytes s.octets = s := rfl

theorem octets_ofBytes {block : Bytes} (h : block.length = 16) :
    (ofBytes block).octets = block := by
  match block, h with
  | [_, _, _, _, _, _, _, _, _, _, _, _, _, _, _, _], _ => rfl

end State

/-! ## Rounds -/

theorem unrounds_rounds (keys : List State) (s : State) : unrounds keys (rounds keys s) = s := by
  induction keys generalizing s with
  | nil => rfl
  | cons key keys ih =>
      cases keys with
      | nil =>
          have hlast : unrounds [key] (rounds [key] s) =
              ((s.substitute.shiftRows.add key).add key).unshiftRows.unsubstitute := rfl
          rw [hlast, State.add_add, State.unshiftRows_shiftRows, State.unsubstitute_substitute]
      | cons next keys =>
          -- the later rounds are undone first
          have hround : unrounds (key :: next :: keys) (rounds (key :: next :: keys) s) =
              (((unrounds (next :: keys) (rounds (next :: keys)
                ((s.substitute.shiftRows.map Column.mix).add key))).add key).map
                  Column.unmix).unshiftRows.unsubstitute := rfl
          rw [hround, ih, State.add_add, State.unmix_mix, State.unshiftRows_shiftRows,
            State.unsubstitute_substitute]

theorem deciphered_enciphered (keys : List State) (s : State) :
    deciphered keys (enciphered keys s) = s := by
  cases keys with
  | nil => rfl
  | cons key keys => simp [deciphered, enciphered, unrounds_rounds]

@[simp] theorem length_cipher_encrypt (key block : Bytes) :
    ((cipher key).encrypt block).length = 16 := rfl

theorem cipher_decrypt_encrypt (key : Bytes) {block : Bytes} (h : block.length = 16) :
    (cipher key).decrypt ((cipher key).encrypt block) = block := by
  unfold cipher
  dsimp only
  rw [State.ofBytes_octets, deciphered_enciphered, State.octets_ofBytes h]

end Credential.Cipher.Aes
