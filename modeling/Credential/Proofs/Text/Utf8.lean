import Credential.Text.Utf8

/-!
# UTF-8 of ASCII texts

The octets of a text whose characters are all below 128 are their codes (`encode_of_ascii`), and
`ascii` is the text with given octets below 128 (`encode_ascii`, `eq_ascii_of_encode`). Encoding
distributes over texts put together (`encode_append`).
-/

namespace Credential.Text.Utf8

/-- The text whose characters have the given octets as codes. -/
def ascii (octets : Bytes) : String :=
  String.ofList (octets.map fun b => Char.ofNat b.toNat)

theorem encode_ofList (cs : List Char) :
    encode (String.ofList cs) = cs.flatMap String.utf8EncodeChar := by
  unfold encode
  rw [String.toByteArray_ofList, List.utf8Encode, List.data_toByteArray]

theorem encode_eq (s : String) : encode s = s.toList.flatMap String.utf8EncodeChar := by
  rw [← encode_ofList, String.ofList_toList]

@[simp] theorem encode_append (s t : String) : encode (s ++ t) = encode s ++ encode t := by
  rw [encode_eq, encode_eq, encode_eq, String.toList_append, List.flatMap_append]

theorem utf8EncodeChar_of_lt {c : Char} (h : c.toNat < 128) :
    String.utf8EncodeChar c = [UInt8.ofNat c.toNat] := by
  have hle : c.val.toNat ≤ 127 := Nat.le_of_lt_succ h
  unfold String.utf8EncodeChar
  exact if_pos hle

/-- The octets of a text below 128 are the codes of its characters. -/
theorem encode_of_ascii {s : String} (h : ∀ c ∈ s.toList, c.toNat < 128) :
    encode s = s.toList.map fun c => UInt8.ofNat c.toNat := by
  rw [encode_eq]
  generalize s.toList = cs at h
  induction cs with
  | nil => rfl
  | cons c cs ih =>
      have hrest := ih fun c hc => h c (List.mem_cons_of_mem _ hc)
      rw [List.flatMap_cons, hrest, utf8EncodeChar_of_lt (h c List.mem_cons_self)]
      rfl

theorem toNat_ofNat : ∀ n < 128, (Char.ofNat n).toNat = n := by
  decide

theorem encode_ascii {octets : Bytes} (h : ∀ b ∈ octets, b.toNat < 128) :
    encode (ascii octets) = octets := by
  have hlist : (ascii octets).toList = octets.map fun b => Char.ofNat b.toNat :=
    String.toList_ofList
  have hcodes : ∀ c ∈ (ascii octets).toList, c.toNat < 128 := by
    rw [hlist]
    intro c hc
    obtain ⟨b, hb, rfl⟩ := List.mem_map.1 hc
    rw [toNat_ofNat _ (h b hb)]
    exact h b hb
  rw [encode_of_ascii hcodes, hlist, List.map_map]
  calc octets.map ((fun c => UInt8.ofNat c.toNat) ∘ fun b => Char.ofNat b.toNat)
      = octets.map id := by
        apply List.map_congr_left
        intro b hb
        simp only [Function.comp, toNat_ofNat _ (h b hb), UInt8.ofNat_toNat, id]
    _ = octets := List.map_id _

/-- Octets below 128 are the encoding of their text. -/
theorem decode?_of_ascii {octets : Bytes} (h : ∀ b ∈ octets, b.toNat < 128) :
    decode? octets = some (ascii octets) := by
  have hdecode := decode?_encode (ascii octets)
  rwa [encode_ascii h] at hdecode

/-- A text whose octets are below 128 is the text with these octets. -/
theorem eq_ascii_of_encode {s : String} (h : ∀ b ∈ encode s, b.toNat < 128) :
    s = ascii (encode s) :=
  Option.some.inj ((decode?_encode s).symm.trans (decode?_of_ascii h))

end Credential.Text.Utf8
