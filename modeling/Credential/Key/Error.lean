import Credential.Der.Error
import Credential.Pem.Error
import Credential.Cipher.Error
import Credential.Key.Kind

/-!
# Faults of a key file

One constructor a cause. `Error.kind` classifies it and `Error.message` is the wording.
-/

namespace Credential.Key

/-- A structure with a version. -/
inductive Versioned where
  | rsaPrivateKey
  | privateKeyInfo
  deriving DecidableEq, Repr

/-- The name of a structure. -/
def Versioned.name : Versioned → String
  | .rsaPrivateKey => "RSAPrivateKey"
  | .privateKeyInfo => "PrivateKeyInfo"

/-- Why a DER encoding is no key structure. -/
inductive StructureFault where
  | firstElement
  | secondElement
  | missingDsaParameters
  deriving DecidableEq, Repr

/-- The wording of a structure fault. -/
def StructureFault.message : StructureFault → String
  | .firstElement => "unexpected first element"
  | .secondElement => "unexpected second element"
  | .missingDsaParameters => "DSA key without domain parameters"

/-- Why a header is no cipher with its initial vector. -/
inductive DekInfoFault where
  | noComma (text : String)
  | notHex (cause : Text.Hex.Error)
  | vectorTooShort (least count : Nat)
  | vectorLength (cipher : String) (expected actual : Nat)
  deriving DecidableEq, Repr

/-- The wording of a header fault. -/
def DekInfoFault.message : DekInfoFault → String
  | .noComma text => "expected '<cipher>,<iv>', got '" ++ text ++ "'"
  | .notHex cause => "IV is not hex: " ++ cause.message
  | .vectorTooShort least count =>
    "IV must be at least " ++ toString least ++ " bytes, got " ++ toString count
  | .vectorLength cipher expected actual =>
    cipher ++ " needs a " ++ toString expected ++ " byte IV, got " ++ toString actual

/-- Why the parameters of a password-based encryption are not usable. -/
inductive PbeFault where
  | missing
  | iterationCount (count : Nat)
  deriving DecidableEq, Repr

/-- The wording of a parameter fault. -/
def PbeFault.message : PbeFault → String
  | .missing => "missing parameters"
  | .iterationCount count => "iteration count " ++ toString count

/-- Why numbers are no RSA key, or an operation with one has no result. -/
inductive RsaFault where
  | invalidArguments
  | publicExponentTooLarge
  | invalidModulus
  | invalidExponent
  | invalidPrime
  | inconsistentResult
  deriving DecidableEq, Repr

/-- The wording of an RSA fault. -/
def RsaFault.message : RsaFault → String
  | .invalidArguments => "invalid arguments"
  | .publicExponentTooLarge => "public exponent too large"
  | .invalidModulus => "invalid modulus"
  | .invalidExponent => "invalid exponent"
  | .invalidPrime => "invalid prime value"
  | .inconsistentResult => "internal error"

/-- Why a key file gives no key. -/
inductive Error where
  | der (cause : Der.Error)
  | pem (cause : Pem.Error)
  | invalidVersion (record : Versioned) (version : Nat)
  | unrecognizedStructure (fault : StructureFault)
  | unrecognizedLabel (label : String)
  | unsupportedAlgorithm (name : String)
  | unsupportedCipher (name : String)
  | missingHeader (name : String)
  | invalidDekInfo (fault : DekInfoFault)
  | invalidPbeParameters (fault : PbeFault)
  | cipher (cause : Cipher.Error)
  | decryptionFailed (cause : Cipher.Error)
  | badPassword
  | noPasswordProvided
  | keyTooLarge (cipher : String) (bits limit : Nat)
  | inputOutOfRange
  | rsa (fault : RsaFault)
  deriving DecidableEq, Repr

namespace Error

/-- The class of a fault. -/
def kind : Error → Kind
  | .unrecognizedLabel _ | .unsupportedAlgorithm _ | .unsupportedCipher _ => .unsupportedAlgorithm
  | .badPassword => .badPassword
  | .noPasswordProvided => .noPasswordProvided
  | .keyTooLarge _ _ _ => .keyTooLarge
  | .der _ | .pem _ | .invalidVersion _ _ | .unrecognizedStructure _ | .missingHeader _
  | .invalidDekInfo _ | .invalidPbeParameters _ | .cipher _ | .decryptionFailed _
  | .inputOutOfRange | .rsa _ => .malformedKey

/-- The wording of a fault. -/
def message : Error → String
  | .der cause => "DER error: " ++ cause.message
  | .pem cause => "PEM error: " ++ cause.message
  | .invalidVersion record version =>
    "invalid " ++ record.name ++ " version " ++ toString version
  | .unrecognizedStructure fault => "unrecognized key structure: " ++ fault.message
  | .unrecognizedLabel label => "unrecognized PEM label '" ++ label ++ "'"
  | .unsupportedAlgorithm name => "unsupported algorithm: " ++ name
  | .unsupportedCipher name => "unsupported cipher '" ++ name ++ "'"
  | .missingHeader name => "missing PEM header '" ++ name ++ "'"
  | .invalidDekInfo fault => "invalid DEK-Info: " ++ fault.message
  | .invalidPbeParameters fault => "invalid PBE parameters: " ++ fault.message
  | .cipher cause => "cipher error: " ++ cause.message
  | .decryptionFailed cause => "decryption failed: " ++ cause.message
  | .badPassword => "bad password"
  | .noPasswordProvided => "key is encrypted and no password was provided"
  | .keyTooLarge name bits limit =>
    name ++ " needs a " ++ toString bits ++ "-bit key but at most " ++ toString limit
      ++ " bits are allowed"
  | .inputOutOfRange => "RSA input out of range: input is not smaller than the modulus"
  | .rsa fault => "RSA error: " ++ fault.message

end Error

instance : MonadLift (Except Der.Error) (Except Error) where
  monadLift := Except.mapError .der

instance : MonadLift (Except Pem.Error) (Except Error) where
  monadLift := Except.mapError .pem

end Credential.Key
