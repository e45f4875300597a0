import Credential.Bytes

/-!
# Block ciphers

A block cipher under a fixed key: the size of its blocks and the two directions of its
permutation of them.
-/

namespace Credential.Cipher

/-- A block cipher under a fixed key. -/
structure Block where
  size : Nat
  encrypt : Bytes → Bytes
  decrypt : Bytes → Bytes

end Credential.Cipher
