import Credential.Key.Error

/-!
# Decoding options

A policy bounds the key sizes of the ciphers that protect a key. A heuristic says which
decryption failures are blamed on the password: a wrong password shows only as broken
padding or as a plaintext that does not parse, and so does a corrupt file.
-/

namespace Credential.Key

/-- The largest cipher key allowed, in bits; `none` for no limit. -/
structure Policy where
  limit : Option Nat := none
  deriving DecidableEq, Repr

/-- Refuses a cipher whose key size is above the limit. -/
def Policy.check (policy : Policy) (cipher : String) (bits : Nat) : Except Error Unit :=
  match policy.limit with
  | some limit => if bits > limit then .error (.keyTooLarge cipher bits limit) else .ok ()
  | none => .ok ()

/-- Which decryption failures mean a wrong password. -/
inductive Heuristic where
  | paddingAndStructure
  | paddingOnly
  | off
  deriving DecidableEq, Repr

namespace Heuristic

/-- The fault of a key whose ciphertext does not decrypt. -/
def cipherFailure : Heuristic → Cipher.Error → Error
  | .off, .padding => .decryptionFailed .padding
  | _, .padding => .badPassword
  | _, cause => .cipher cause

/-- The fault of a key whose decrypted octets do not parse. -/
def structureFailure (heuristic : Heuristic) (cause : Error) : Error :=
  if heuristic = .paddingAndStructure ∧ cause.kind = .malformedKey then .badPassword else cause

/-- The name of a heuristic in configurations and on the command line. -/
def name : Heuristic → String
  | .paddingAndStructure => "padding-and-structure"
  | .paddingOnly => "padding-only"
  | .off => "off"

/-- All heuristics; the first one is the default. -/
def all : List Heuristic := [.paddingAndStructure, .paddingOnly, .off]

end Heuristic

/-- The settings of every decoding. -/
structure Options where
  policy : Policy := {}
  heuristic : Heuristic := .paddingAndStructure
  deriving DecidableEq, Repr

end Credential.Key
