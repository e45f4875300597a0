import Credential.Json.Record
import Credential.Key.Policy

/-!
# Store configurations

Where a store finds its key and its certificates, and how it decodes the key. A
configuration file is a JSON record with the fields of `Config`; the first three are
required, and the others have defaults.
-/

namespace Credential.Store

open Json (Value Record withDefault?)

/-- The most password attempts of one load. -/
def maxAttempts : Nat := 3

/-- The configuration of a store. `attemptLimit` and `maxKeyBits` fit 32 bits. -/
structure Config where
  entryAlias : String
  keyPath : String
  certificatePath : String
  attemptLimit : Nat := maxAttempts
  requirePrivate : Bool := false
  maxKeyBits : Option Nat := none
  heuristic : Key.Heuristic := .paddingAndStructure
  deriving DecidableEq, Repr

namespace Config

/-- The number of password attempts: at least one and at most three, whatever the
configuration says. -/
def attempts (config : Config) : Nat := max 1 (min config.attemptLimit maxAttempts)

/-- The settings for decoding the key. -/
def options (config : Config) : Key.Options := ⟨⟨config.maxKeyBits⟩, config.heuristic⟩

/-! ## Configuration files -/

/-- The names of the fields. -/
def fieldNames : List String :=
  ["alias", "key-path", "cert-path", "max-attempts", "require-private-permissions",
   "max-key-bits", "bad-password-heuristic"]

/-- The configuration as a JSON object. -/
def toJson (config : Config) : Value :=
  .record [("alias", .text config.entryAlias), ("key-path", .text config.keyPath),
    ("cert-path", .text config.certificatePath), ("max-attempts", .nat config.attemptLimit),
    ("require-private-permissions", .boolean config.requirePrivate),
    ("max-key-bits", .optional (config.maxKeyBits.map .nat)),
    ("bad-password-heuristic", .text config.heuristic.name)]

/-- Reads a configuration from JSON. -/
def ofJson? (v : Value) : Option Config := do
  let record ← Record.ofValue? fieldNames v
  match record.values with
  | [entryAlias, keyPath, certificatePath, attemptLimit, requirePrivate, maxKeyBits, heuristic] =>
    return {
      entryAlias := ← Value.text? (← entryAlias)
      keyPath := ← Value.text? (← keyPath)
      certificatePath := ← Value.text? (← certificatePath)
      attemptLimit := ← withDefault? maxAttempts Value.nat32? attemptLimit
      requirePrivate := ← withDefault? false Value.boolean? requirePrivate
      maxKeyBits := ← withDefault? none (Value.nullable? Value.nat32?) maxKeyBits
      heuristic := ← withDefault? .paddingAndStructure
        (Value.choice? Key.Heuristic.all Key.Heuristic.name) heuristic }
  | _ => none

end Config

end Credential.Store
