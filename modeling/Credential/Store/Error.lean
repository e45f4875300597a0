import Credential.Host.File
import Credential.Key.Error
import Credential.X509.Error

/-!
# Faults of a store

A load fails for one of the causes of `LoadError`. The store keeps the first one, and
every operation that needs the entry then fails with `Error.loadFailed`, which carries that
cause. `kind` classifies both and `message` is the wording.
-/

namespace Credential.Store

open Host (FileError)

/-- A class of store faults. -/
inductive Kind where
  | key (kind : Key.Kind)
  | emptyCertificateChain
  | certificate
  | file
  | insecurePermissions
  | readOnly
  | loadAborted
  deriving DecidableEq, Repr

namespace Kind

/-- Whether another password may succeed. -/
def isRetryable : Kind → Bool
  | .key kind => kind.isRetryable
  | _ => false

/-- The name of a kind in messages. -/
def name : Kind → String
  | .key kind => kind.name
  | .emptyCertificateChain => "empty certificate chain"
  | .certificate => "certificate error"
  | .file => "I/O error"
  | .insecurePermissions => "insecure permissions"
  | .readOnly => "read-only store"
  | .loadAborted => "load aborted"

end Kind

/-- Why a load fails. -/
inductive LoadError where
  | key (cause : Key.Error)
  | certificate (cause : X509.Error)
  | file (path : String) (cause : FileError)
  | insecurePermissions (path : String) (mode : Nat)
  | aborted
  deriving DecidableEq, Repr

namespace LoadError

/-- The class of a cause. -/
def kind : LoadError → Kind
  | .key cause => .key cause.kind
  | .certificate .emptyChain => .emptyCertificateChain
  | .certificate _ => .certificate
  | .file _ _ => .file
  | .insecurePermissions _ _ => .insecurePermissions
  | .aborted => .loadAborted

/-- Mode bits in octal digits. -/
def octal (mode : Nat) : String := String.ofList (Nat.toDigits 8 mode)

/-- The wording of a cause. -/
def message : LoadError → String
  | .key cause => "key error: " ++ cause.message
  | .certificate cause => "certificate error: " ++ cause.message
  | .file path cause => "failed to read " ++ path ++ ": " ++ cause.message
  | .insecurePermissions path mode =>
    path ++ " is accessible by other users (mode " ++ octal mode ++ ")"
  | .aborted => "load sequence panicked"

end LoadError

/-- Why an operation fails. -/
inductive Error where
  | key (cause : Key.Error)
  | readOnly (operation : String)
  | loadFailed (entryAlias : String) (source : LoadError)
  deriving DecidableEq, Repr

namespace Error

/-- The class of a fault. -/
def kind : Error → Kind
  | .key cause => .key cause.kind
  | .readOnly _ => .readOnly
  | .loadFailed _ source => source.kind

/-- The wording of a fault. -/
def message : Error → String
  | .key cause => "key error: " ++ cause.message
  | .readOnly operation =>
    "key store is read-only: " ++ operation ++ " is not supported"
  | .loadFailed entryAlias source =>
    "key store '" ++ entryAlias ++ "' failed to load: " ++ source.message

end Error

end Credential.Store
