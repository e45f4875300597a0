import Credential.Key.Legacy.Decrypt
import Credential.Proofs.Bytes

/-!
# Keys from chained digests

EVP_BytesToKey with MD5 and one iteration, as a recursion over the digests `D₁`, `D₂`, …: the first
is taken of password and salt, each later one of the digest before it, password and salt, and a key
is the first octets of `D₁ ‖ D₂ ‖ …`. `deriveKey_eq` says that `deriveKey` is this derivation. It
takes only as many digests as the key is long, which loses nothing (`take_chain`).
-/

namespace Credential.Key.Legacy

/-- The digests of the chain, counted from zero. -/
def chainDigest (password salt : Bytes) : (index : Nat) → Bytes
  | 0 => Digest.md5 (password ++ salt)
  | index + 1 => Digest.md5 (chainDigest password salt index ++ password ++ salt)

/-- The first `count` digests of the chain, one after the other. -/
def chain (password salt : Bytes) (count : Nat) : Bytes :=
  (List.range count).flatMap (chainDigest password salt)

/-- EVP_BytesToKey: the first `size` octets of the chain, of which `size` digests are enough. -/
def evpBytesToKey (password salt : Bytes) (size : Nat) : Bytes :=
  (chain password salt size).take size

section

variable (password salt : Bytes)

@[simp] theorem length_chainDigest (index : Nat) :
    (chainDigest password salt index).length = 16 := by
  cases index with
  | zero => exact Digest.length_md5 _
  | succ index => exact Digest.length_md5 _

/-- More digests do not change the octets that were there before. -/
theorem take_chain {size count more : Nat} (hsize : size ≤ 16 * count) (hcount : count ≤ more) :
    (chain password salt more).take size = (chain password salt count).take size :=
  Bytes.take_flatMap_range (length_chainDigest password salt) hsize hcount

/-- The digest that the one with the given index is taken after; the first is taken after none. -/
def chainBefore : (index : Nat) → Bytes
  | 0 => []
  | index + 1 => chainDigest password salt index

theorem md5_chainBefore (index : Nat) :
    Digest.md5 (chainBefore password salt index ++ password ++ salt) =
      chainDigest password salt index := by
  cases index with
  | zero =>
      unfold chainBefore chainDigest
      rw [List.nil_append]
  | succ index =>
      unfold chainBefore
      rw [chainDigest]

/-- Chained digests are the digests of the chain from the place on where they start. -/
theorem chainedDigests_eq (count index : Nat) :
    chainedDigests password salt count (chainBefore password salt index) =
      (List.range' index count).flatMap (chainDigest password salt) := by
  -- what one step hands on is the digest that the next index is taken after
  induction count generalizing index with
  | zero => rfl
  | succ count ih =>
      have hnext := ih (index + 1)
      unfold chainBefore at hnext
      unfold chainedDigests
      dsimp only
      rw [md5_chainBefore, hnext, List.range'_succ, List.flatMap_cons]

theorem deriveKey_eq (size : Nat) :
    deriveKey password salt size = evpBytesToKey password salt size := by
  have hdigests : chainedDigests password salt ((size + 15) / 16) [] =
      chain password salt ((size + 15) / 16) := by
    have hfrom := chainedDigests_eq password salt ((size + 15) / 16) 0
    rw [← List.range_eq_range'] at hfrom
    exact hfrom
  have hround : size ≤ 16 * ((size + 15) / 16) := by omega
  have hless : (size + 15) / 16 ≤ size := by omega
  unfold deriveKey evpBytesToKey
  rw [hdigests, take_chain password salt hround hless]

end

end Credential.Key.Legacy
