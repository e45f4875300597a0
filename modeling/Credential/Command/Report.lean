import Credential.Json.Writer
import Credential.Key.Info.Json
import Credential.Store.KeyStore
import Credential.X509.Json

/-!
# Reports

What the commands print about a key, a chain and a store, as text in lines or as JSON.
-/

namespace Credential.Command

open Calendar (Timestamp)
open Json (Value)

/-- The lines of a text, each ended by a line feed. -/
def unlines (lines : List String) : String :=
  String.join (lines.map (· ++ "\n"))

/-- A JSON value on lines of its own. -/
def jsonText (v : Value) : String := v.pretty ++ "\n"

/-- A truth value in words. -/
def yesNo (b : Bool) : String := if b then "yes" else "no"

/-! ## Keys -/

/-- What is reported of a key. Its size is known if it was decoded. -/
structure KeyReport where
  info : Key.Info
  keySize : Option Nat
  deriving DecidableEq, Repr

namespace KeyReport

/-- Whether the key was decoded. -/
def decoded (report : KeyReport) : Bool := report.keySize.isSome

/-- The report as JSON. -/
def toJson (report : KeyReport) : Value :=
  .record (report.info.members ++ [("decoded", .boolean report.decoded)]
    ++ (report.keySize.map fun size => ("key_size", Value.nat size)).toList)

/-- The lines of the report. -/
def lines (report : KeyReport) : List String :=
  ["Private Key:", "    Format: " ++ report.info.format.title]
    ++ (report.info.label.map ("    Label: " ++ ·)).toList
    ++ ["    Structure: " ++ report.info.structure_.title,
      "    Encryption: " ++ report.info.encryption.getD "none",
      "    Algorithm: " ++ (report.info.algorithm.map Key.Algorithm.name).getD "unknown",
      match report.keySize with
      | some size => "    Key Size: " ++ toString size ++ " bits"
      | none => "    Key Size: unknown (encrypted, no password given)"]

end KeyReport

/-! ## Certificates -/

/-- The lines about a certificate with its number. -/
def certificateLines (index : Nat) (s : X509.Summary) : List String :=
  ["Certificate [" ++ toString index ++ "]:",
    "    Subject: " ++ s.subject,
    "    Issuer: " ++ s.issuer,
    "    Serial Number: " ++ s.serialNumber,
    "    Validity:",
    "        Not Before: " ++ s.notBefore.plain,
    "        Not After : " ++ s.notAfter.plain,
    "    Public Key Algorithm: " ++ s.publicKeyAlgorithm,
    "    Self-signed: " ++ yesNo s.selfSigned,
    "    CA: " ++ yesNo s.authority]

/-- The lines about certificates, which are numbered from `index`. -/
def chainLines (index : Nat) : List X509.Summary → List String
  | [] => []
  | s :: rest => certificateLines index s ++ chainLines (index + 1) rest

/-- The certificates as JSON. -/
def chainJson (summaries : List X509.Summary) : Value :=
  .array (summaries.map X509.Summary.toJson)

/-! ## Stores -/

/-- What is reported of a store. -/
structure StoreReport where
  name : String
  size : Nat
  createdAt : Option Timestamp
  key : Key.Info
  certificates : List X509.Summary
  deriving DecidableEq, Repr

namespace StoreReport

/-- The report as JSON. -/
def toJson (report : StoreReport) : Value :=
  .record [("alias", .text report.name), ("size", .nat report.size),
    ("created_at", .optional (report.createdAt.map fun t => .text t.interchange)),
    ("key", report.key.toJson), ("certificates", chainJson report.certificates)]

/-- The lines of the report. -/
def lines (report : StoreReport) : List String :=
  ["Key Store: OK", "    Alias: " ++ report.name, "    Entries: " ++ toString report.size]
    ++ (report.createdAt.map fun t => "    Created: " ++ t.plain).toList
    ++ ["    Key: " ++ report.key.structure_.title ++ " (" ++ report.key.format.title ++ ")"]
    ++ (report.key.encryption.map ("    Encryption: " ++ ·)).toList
    ++ chainLines 0 report.certificates

end StoreReport

end Credential.Command
