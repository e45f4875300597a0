import Credential.Proofs.Key.ChainedKey
import Credential.Proofs.Key.DerivedLength

/-!
# Keys of different lengths from one password

A key is the first octets of one chain of digests, however long it is. So a password and a salt give
keys that extend each other (`deriveKey_isPrefix`), and the key is the one that comes from taking
digests one after the other until there are enough octets (`deriveKey_eq_reached`): every digest is
taken after the whole digest before it, also after the last one that is needed only in part.
-/

namespace Credential.Key.Legacy

/-- Parts of the chain that are long enough begin with the same octets. -/
theorem take_chain_congr (password salt : Bytes) {size count other : Nat} (h : size ≤ 16 * count)
    (hother : size ≤ 16 * other) :
    (chain password salt count).take size = (chain password salt other).take size :=
  calc (chain password salt count).take size
      = (chain password salt (max count other)).take size :=
        (take_chain password salt h (Nat.le_max_left _ _)).symm
    _ = (chain password salt other).take size :=
        take_chain password salt hother (Nat.le_max_right _ _)

/-! ## One digest after the other -/

/-- A key that is not finished: the octets so far, and the digest that the next one is taken
after. -/
structure Growth where
  octets : Bytes
  previous : Bytes
  deriving DecidableEq, Repr

namespace Growth

/-- Nothing yet. -/
def start : Growth := ⟨[], []⟩

/-- One digest more. -/
def step (password salt : Bytes) (growth : Growth) : Growth :=
  let digest := Digest.md5 (growth.previous ++ password ++ salt)
  ⟨growth.octets ++ digest, digest⟩

@[simp] theorem length_octets_step (password salt : Bytes) (growth : Growth) :
    (growth.step password salt).octets.length = growth.octets.length + 16 := by
  simp [step]

/-- The key of `size` octets, after as many further digests as it takes. -/
def reached (password salt : Bytes) (size : Nat) (growth : Growth) : Bytes :=
  if growth.octets.length < size then reached password salt size (growth.step password salt)
  else growth.octets.take size
termination_by size - growth.octets.length
decreasing_by
  rw [length_octets_step]
  omega

/-- The first `count` digests have been taken, and all of the last one is handed on. -/
structure IsAt (password salt : Bytes) (count : Nat) (growth : Growth) : Prop where
  octets_eq : growth.octets = chain password salt count
  previous_eq : growth.previous = chainBefore password salt count

variable {password salt : Bytes} {count size : Nat} {growth : Growth}

theorem isAt_start : start.IsAt password salt 0 := ⟨rfl, rfl⟩

theorem IsAt.length_octets (h : growth.IsAt password salt count) :
    growth.octets.length = 16 * count := by
  rw [h.octets_eq]
  exact Bytes.length_flatMap_range (length_chainDigest password salt) count

theorem IsAt.step (h : growth.IsAt password salt count) :
    (growth.step password salt).IsAt password salt (count + 1) := by
  have hdigest : Digest.md5 (growth.previous ++ password ++ salt) =
      chainDigest password salt count := by
    rw [h.previous_eq, md5_chainBefore]
  refine ⟨?_, hdigest⟩
  simp only [Growth.step, hdigest, h.octets_eq, chain, List.range_succ, List.flatMap_append,
    List.flatMap_singleton]

/-- The run ends with a key from the chain, wherever on the chain it goes on from. -/
theorem IsAt.reached_eq (h : growth.IsAt password salt count) :
    growth.reached password salt size = evpBytesToKey password salt size := by
  -- every step puts one digest more into the invariant, until the octets are enough
  induction growth using reached.induct password salt size generalizing count with
  | case1 growth hshort ih =>
      rw [reached, if_pos hshort]
      exact ih h.step
  | case2 growth henough =>
      have hsize : size ≤ 16 * count := by
        rw [← h.length_octets]
        exact Nat.le_of_not_lt henough
      rw [reached, if_neg henough, h.octets_eq]
      exact take_chain_congr password salt hsize (by omega)

end Growth

/-! ## Prefixes of one chain -/

section

variable (password salt : Bytes)

theorem deriveKey_eq_reached (size : Nat) :
    deriveKey password salt size = Growth.start.reached password salt size := by
  rw [deriveKey_eq, Growth.isAt_start.reached_eq]

/-- A key is the beginning of any part of the chain that is long enough. -/
theorem deriveKey_eq_take {size count : Nat} (h : size ≤ 16 * count) :
    deriveKey password salt size = (chain password salt count).take size := by
  rw [deriveKey_eq]
  exact take_chain_congr password salt (by omega) h

/-- A shorter key is the beginning of a longer one. -/
theorem deriveKey_isPrefix {less size : Nat} (h : less ≤ size) :
    deriveKey password salt less <+: deriveKey password salt size := by
  have hless : less ≤ 16 * size := by omega
  have hsize : size ≤ 16 * size := by omega
  rw [deriveKey_eq_take password salt hless, deriveKey_eq_take password salt hsize]
  exact List.take_prefix_take_left h

/-- A key has the length that was asked for, also if this is no number of whole digests. It is the
beginning of the chain of digests and the key that is reached by taking one digest after the other.
So a shorter key from the same password and salt is the beginning of a longer one, and the keys of
DES, AES-128 and AES-256 extend each other. -/
theorem derived_keys_extend (size : Nat) :
    (deriveKey password salt size).length = size ∧
    (∀ count, size ≤ 16 * count → deriveKey password salt size <+: chain password salt count) ∧
    deriveKey password salt size = Growth.start.reached password salt size ∧
    (∀ less, less ≤ size → deriveKey password salt less <+: deriveKey password salt size) ∧
    deriveKey password salt Credential.Cipher.Algorithm.des.keyLength <+:
      deriveKey password salt Credential.Cipher.Algorithm.aes128.keyLength ∧
    deriveKey password salt Credential.Cipher.Algorithm.aes128.keyLength <+:
      deriveKey password salt Credential.Cipher.Algorithm.aes256.keyLength := by
  refine ⟨length_deriveKey password salt size, fun count h => ?_,
    deriveKey_eq_reached password salt size, fun less h => deriveKey_isPrefix password salt h,
    deriveKey_isPrefix password salt (by decide), deriveKey_isPrefix password salt (by decide)⟩
  rw [deriveKey_eq_take password salt h]
  exact List.take_prefix _ _

end

/-- A key of one digest and a half, and a shorter one from the same password and salt. -/
theorem derived_keys_extend_half :
    (24 ≤ 16 * 2 ∧
        deriveKey [112] [1, 2, 3, 4, 5, 6, 7, 8] 24 <+: chain [112] [1, 2, 3, 4, 5, 6, 7, 8] 2) ∧
      10 ≤ 24 ∧ deriveKey [112] [1, 2, 3, 4, 5, 6, 7, 8] 10 <+:
        deriveKey [112] [1, 2, 3, 4, 5, 6, 7, 8] 24 := by
  obtain ⟨-, hchain, -, hshorter, -⟩ := derived_keys_extend [112] [1, 2, 3, 4, 5, 6, 7, 8] 24
  exact ⟨⟨by decide, hchain 2 (by decide)⟩, by decide, hshorter 10 (by decide)⟩

end Credential.Key.Legacy
