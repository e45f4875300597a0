import Credential.Key.Info
import Credential.Key.PrivateKey
import Credential.Store.Action
import Credential.Store.Config
import Credential.Store.Error
import Credential.X509.Chain

/-!
# The load sequence of a store

A load reads the key file, checks its permissions, proves that the key can be decoded, and
then reads the certificates. Of the key only the file is kept.

Without a prompt there is one attempt. With one, the key is decoded without a password
first, so that a key that needs none, or that no password would help, asks nobody. A wrong
password starts the sequence again, at most `Config.attempts` times in all.
-/

namespace Credential.Store

open Calendar (Timestamp)

/-- Where the password of the key comes from: it is fixed, and empty for none, or it is asked
for on every attempt. -/
inductive Protection where
  | password (octets : Bytes)
  | interactive
  deriving DecidableEq, Repr

namespace Protection

/-- The protection of a key that is not encrypted. -/
def none : Protection := .password []

/-- Whether the password is asked for. -/
def isInteractive : Protection → Bool
  | .password _ => false
  | .interactive => true

/-- The diagnostic text, which does not show the password. -/
def describe : Protection → String
  | .password _ => "Password(..)"
  | .interactive => "Interactive(..)"

end Protection

/-- What a store holds after a load: the alias, the content of the key file and the
certificates. -/
structure Entry where
  name : String
  material : Bytes
  chain : X509.Chain
  createdAt : Timestamp

/-- The content of a file. -/
def loadFile (path : String) : Attempt LoadError Bytes := do
  match ← Attempt.readFile path with
  | .ok bytes => return bytes
  | .error cause => Attempt.fail (.file path cause)

/-- Refuses a key file that others may use, if the configuration says so. -/
def checkPermissions (config : Config) : Attempt LoadError Unit := do
  match ← Attempt.permissions config.keyPath with
  | .exposed mode =>
    if config.requirePrivate then
      Attempt.fail (.insecurePermissions config.keyPath mode)
    else return ()
  | _ => return ()

/-- Decodes the key with a password and drops it. -/
def proveKey (config : Config) (material : Bytes) (password : Option Bytes) :
    Attempt LoadError Unit :=
  Attempt.ofOutcome
    (((Key.PrivateKey.ofFile material password config.options).mapError .key).map fun _ => ())

/-- The password that a fixed one stands for. -/
def fixedPassword (octets : Bytes) : Option Bytes :=
  if octets.isEmpty then none else some octets

/-- The cipher or scheme that encrypts a key file, if it shows one. -/
def shownEncryption (material : Bytes) : Option String :=
  (Key.Info.ofFile material).toOption.bind Key.Info.encryption

/-- Asks for the password and decodes the key with it. -/
def proveAskedKey (config : Config) (material : Bytes) (attempt : Nat) :
    Attempt LoadError Unit := do
  let prompt : Prompt :=
    ⟨config.entryAlias, attempt, config.attempts, shownEncryption material⟩
  match ← Attempt.askPassword prompt with
  | .password octets => proveKey config material (some octets)
  | .cancelled => Attempt.fail (.key .noPasswordProvided)
  | .abandoned => Attempt.ofOutcome .aborted

/-- Proves that the key can be decoded. -/
def verifyKey (config : Config) (protection : Protection) (material : Bytes) (attempt : Nat) :
    Attempt LoadError Unit :=
  match protection with
  | .password octets => proveKey config material (fixedPassword octets)
  | .interactive =>
    match Key.PrivateKey.ofFile material none config.options with
    | .ok _ => Attempt.ofOutcome (.ok ())
    | .aborted => Attempt.ofOutcome .aborted
    | .error cause =>
      if cause.kind = .noPasswordProvided then proveAskedKey config material attempt
      else Attempt.fail (.key cause)

/-- One attempt at a load. -/
def tryLoad (config : Config) (protection : Protection) (attempt : Nat) :
    Attempt LoadError Entry := do
  let material ← loadFile config.keyPath
  checkPermissions config
  verifyKey config protection material attempt
  let certificates ← loadFile config.certificatePath
  let chain ← Attempt.ofOutcome (.ofExcept ((X509.Chain.ofFile certificates).mapError .certificate))
  let createdAt ← Attempt.now
  return ⟨config.entryAlias, material, chain, createdAt⟩

/-- Attempts a load, and again after a wrong password as long as attempts are left. -/
def loadWithin (config : Config) (protection : Protection) :
    (left : Nat) → (attempt : Nat) → Attempt LoadError Entry
  | 0, attempt => tryLoad config protection attempt
  | left + 1, attempt =>
    Action.bind (fun outcome => match outcome with
      | .error cause =>
        if cause.kind.isRetryable then loadWithin config protection left (attempt + 1)
        else Attempt.fail cause
      | outcome => Attempt.ofOutcome outcome) (tryLoad config protection attempt)

/-- The number of attempts of a load. -/
def attemptsOf (config : Config) (protection : Protection) : Nat :=
  if protection.isInteractive then config.attempts else 1

/-- The whole load. -/
def loadEntry (config : Config) (protection : Protection) : Attempt LoadError Entry :=
  loadWithin config protection (attemptsOf config protection - 1) 1

end Credential.Store
