/-!
# Modular arithmetic

Powers and inverses modulo a number, and the number that has two given residues. `euclid`
keeps the congruences `a = u x` and `b = v x` modulo `m`, so `inverse?` gives a number whose
product with `x` is 1 modulo `m`. `combine` puts the number together from its residues.
-/

namespace Credential.Key.Modular

/-- `base ^ exponent mod modulus` for a positive modulus, by repeated squaring over the
binary digits of the exponent. -/
def powMod (base exponent modulus : Nat) : Nat :=
  if _h : exponent = 0 then 1 % modulus
  else
    let square := powMod (base * base % modulus) (exponent / 2) modulus
    if exponent % 2 = 1 then square * base % modulus else square
termination_by exponent
decreasing_by omega

/-- Euclid's algorithm on `a` and `b`. With `a = u x` and `b = v x` modulo `m`, the result is
the greatest common divisor and how often `x` stands in it modulo `m`. -/
def euclid (m a b u v : Nat) : Nat × Nat :=
  if _h : b = 0 then (a, u)
  else euclid m b (a % b) v ((u + (m - a / b * v % m)) % m)
termination_by b
decreasing_by exact Nat.mod_lt _ (Nat.pos_of_ne_zero _h)

/-- The inverse of `x` modulo `m`, if they have no common divisor. -/
def inverse? (x m : Nat) : Option Nat :=
  let (divisor, u) := euclid m (x % m) m 1 0
  if divisor = 1 then some (u % m) else none

/-- The number below `p * q` that is `a` modulo `p` and `b` modulo `q`, for `b` below `q` and
the inverse `i` of `q` modulo `p`. -/
def combine (p q i a b : Nat) : Nat :=
  b + q * ((a + (p - b % p)) * i % p)

end Credential.Key.Modular
