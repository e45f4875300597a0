import Credential.Bytes

/-!
# Files of the host

Why a file cannot be read, and what its permission bits tell.
-/

namespace Credential.Host

/-- Why a file cannot be read. -/
inductive FileError where
  | notFound
  | permissionDenied
  | notDirectory
  | isDirectory
  | nameTooLong
  | nulInName
  | other (text : String)
  deriving DecidableEq, Repr

/-- The wording of a file error. -/
def FileError.message : FileError → String
  | .notFound => "No such file or directory (os error 2)"
  | .permissionDenied => "Permission denied (os error 13)"
  | .notDirectory => "Not a directory (os error 20)"
  | .isDirectory => "Is a directory (os error 21)"
  | .nameTooLong => "File name too long (os error 36)"
  | .nulInName => "file name contained an unexpected NUL byte"
  | .other text => text

/-- Who may use a file. -/
inductive Permissions where
  | ownerOnly
  | exposed (mode : Nat)
  | unknown
  deriving DecidableEq, Repr

namespace Permissions

/-- What mode bits tell: a file is exposed if group or others have any right. -/
def ofMode (mode : Nat) : Permissions :=
  let rights := mode % 0o1000
  if rights % 0o100 = 0 then .ownerOnly else .exposed rights

end Permissions

end Credential.Host
