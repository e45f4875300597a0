import Credential.Cipher.Error
import Credential.Bytes

/-!
# RC4

The stream cipher RC4 with keys of 5, 8 and 16 octets. A text is combined with a key
stream that depends on the key alone, so enciphering and deciphering are the same.
-/

namespace Credential.Cipher.Rc4

/-- The permutation of the octets and the two indices into it. -/
structure State where
  table : Array UInt8
  i : UInt8
  j : UInt8

/-- The table with two entries exchanged. -/
def exchange (table : Array UInt8) (i j : UInt8) : Array UInt8 :=
  let a := table.getD i.toNat 0
  let b := table.getD j.toNat 0
  (table.setIfInBounds i.toNat b).setIfInBounds j.toNat a

/-- One step of the key setup, for entry `n` and the key octet `k` at its place. -/
def setupStep (s : State) (n : Nat) (k : UInt8) : State :=
  let i := UInt8.ofNat n
  let j := s.j + s.table.getD n 0 + k
  ⟨exchange s.table i j, 0, j⟩

/-- The state after the key setup. -/
def setup (key : Bytes) : State :=
  let octets := key.toArray
  let identity : Array UInt8 := ((List.range 256).map UInt8.ofNat).toArray
  let s := (List.range 256).foldl
    (fun s n => setupStep s n (octets.getD (n % octets.size) 0)) ⟨identity, 0, 0⟩
  { s with j := 0 }

/-- The next `count` octets of the key stream. -/
def stream : (count : Nat) → State → Bytes
  | 0, _ => []
  | count + 1, s =>
    let i := s.i + 1
    let j := s.j + s.table.getD i.toNat 0
    let table := exchange s.table i j
    let index := table.getD i.toNat 0 + table.getD j.toNat 0
    table.getD index.toNat 0 :: stream count ⟨table, i, j⟩

end Credential.Cipher.Rc4

namespace Credential.Cipher

/-- The text combined with the key stream of `key`. -/
def rc4 (key data : Bytes) : Except Error Bytes :=
  if key.length = 5 ∨ key.length = 8 ∨ key.length = 16 then
    .ok (Bytes.xor data (Rc4.stream data.length (Rc4.setup key)))
  else .error (.keyLength key.length)

end Credential.Cipher
