/-!
# Header properties of a PEM block

A block carries named values in the order of its text. Names compare without regard to
the case of ASCII letters, and the first of several equal names counts.
-/

namespace Credential.Pem

/-- A named value of a block. -/
structure Header where
  name : String
  value : String
  deriving DecidableEq, Repr

/-- The named values of a block, in order. -/
abbrev Headers := List Header

/-- Whether two texts are the same but for the case of ASCII letters. -/
def sameName (s t : String) : Bool :=
  s.toList.map Char.toLower == t.toList.map Char.toLower

namespace Headers

/-- The value of the first header with the given name. -/
def get? (headers : Headers) (name : String) : Option String :=
  (headers.find? fun h => sameName h.name name).map Header.value

/-- Whether there is a header with the given name. -/
def contains (headers : Headers) (name : String) : Bool :=
  (headers.get? name).isSome

/-- The headers with one more at the end. -/
def insert (headers : Headers) (name value : String) : Headers :=
  headers ++ [⟨name, value⟩]

end Headers

/-- The header that announces the encryption of a block. -/
def procType : String := "Proc-Type"

/-- The header that names the cipher of an encrypted block and its initial vector. -/
def dekInfo : String := "DEK-Info"

end Credential.Pem
