import Credential.Bytes

/-!
# UTF-8

Texts as byte strings. `decode? (encode s) = some s`, and a byte string decodes to
`s` only if it is `encode s`, so decoding accepts exactly the encodings.
-/

namespace Credential.Text.Utf8

/-- The octets of a text. -/
def encode (s : String) : Bytes :=
  s.toByteArray.data.toList

/-- The text with the octets `bs`, if they are well-formed UTF-8. -/
def decode? (bs : Bytes) : Option String :=
  String.fromUTF8? ⟨bs.toArray⟩

theorem decode?_encode (s : String) : decode? (encode s) = some s := by
  simp [decode?, encode, String.fromUTF8?, s.isValidUTF8, String.fromUTF8]

theorem encode_of_decode? {bs : Bytes} {s : String} (h : decode? bs = some s) :
    encode s = bs := by
  unfold decode? String.fromUTF8? at h
  split at h
  · cases h
    simp [encode, String.fromUTF8]
  · cases h

end Credential.Text.Utf8
