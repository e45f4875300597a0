import Credential.Der.Tag

/-!
# Faults of a DER encoding

One constructor a cause; `Error.message` is the wording.
-/

namespace Credential.Der

/-- Why a byte string is not the DER encoding that was asked for. -/
inductive Error where
  | unexpectedTag (expected found : Tag)
  | unexpectedEnd
  | trailingData (count : Nat)
  | lengthOverflow (count : Nat)
  | indefiniteLength
  | integerEmpty
  | integerNegative
  | integerOutOfRange
  | identifierEmpty
  | identifierIncomplete
  | identifierArcOverflow
  | identifierTooShort
  | identifierArcInvalid (part : String)
  | nullContent (count : Nat)
  deriving DecidableEq, Repr

/-- The wording of a fault. -/
def Error.message : Error → String
  | .unexpectedTag expected found =>
    "unexpected tag: expected " ++ expected.name ++ ", found " ++ found.name
  | .unexpectedEnd => "unexpected end of input"
  | .trailingData count => toString count ++ " trailing bytes after the last element"
  | .lengthOverflow count =>
    "length field spans " ++ toString count ++ " bytes (lengths over 32 bits are not supported)"
  | .indefiniteLength => "indefinite length is not allowed in DER"
  | .integerEmpty => "INTEGER: no data"
  | .integerNegative => "INTEGER: negative value where an unsigned one is required"
  | .integerOutOfRange => "INTEGER: value out of range for u64"
  | .identifierEmpty => "OBJECT IDENTIFIER: no data"
  | .identifierIncomplete => "OBJECT IDENTIFIER: incomplete encoding"
  | .identifierArcOverflow => "OBJECT IDENTIFIER: arc does not fit in 64 bits"
  | .identifierTooShort => "OBJECT IDENTIFIER: too few components (need at least 2)"
  | .identifierArcInvalid part => "OBJECT IDENTIFIER: invalid component '" ++ part ++ "'"
  | .nullContent count => "NULL: expected no content, found " ++ toString count ++ " bytes"

end Credential.Der
