import Credential.X509.Value

/-!
# Certificate extensions

An extension is an identifier, a criticality, which is false unless it is written, and a
value in an OCTET STRING. The basic constraints say whether the subject is a certificate
authority.
-/

namespace Credential.X509

/-- An extension of a certificate. -/
structure Extension where
  id : ObjectId
  critical : Bool
  value : Bytes
  deriving DecidableEq, Repr

/-- The BOOLEAN of a value other than the default, which is false. -/
def flagElements (b : Bool) : List Element :=
  if b then [⟨0x01, [0xFF]⟩] else []

namespace Extension

/-- Reads an Extension. -/
def ofElement? (e : Element) : Option Extension := do
  match ← e.sequence? with
  | [id, value] => return ⟨← ObjectId.ofElement? id, false, ← octetString? value⟩
  | [id, critical, value] =>
    return ⟨← ObjectId.ofElement? id, ← boolean? critical, ← octetString? value⟩
  | _ => none

/-- The Extension; a false criticality is left out. -/
def toElement (ext : Extension) : Element :=
  .sequence (ext.id.toElement :: (flagElements ext.critical ++ [⟨0x04, ext.value⟩]))

end Extension

/-- The identifier of the basic constraints, 2.5.29.19. -/
def basicConstraintsId : ObjectId := ⟨[0x55, 0x1D, 0x13]⟩

/-- Whether the subject is a certificate authority and how many intermediates may follow. -/
structure BasicConstraints where
  authority : Bool
  pathLength : Option Nat
  deriving DecidableEq, Repr

namespace BasicConstraints

/-- Reads the value of the extension. -/
def ofBytes? (value : Bytes) : Option BasicConstraints := do
  match ← elements? value with
  | [e] =>
    match ← e.sequence? with
    | [] => return ⟨false, none⟩
    | [first] =>
      if first.octet = 0x01 then return ⟨← boolean? first, none⟩
      else return ⟨false, some (← octetInteger? first)⟩
    | [first, second] => return ⟨← boolean? first, some (← octetInteger? second)⟩
    | _ => none
  | _ => none

end BasicConstraints

/-- Whether extensions say that the subject is a certificate authority. The first basic
constraints count, and unreadable ones say no. -/
def isAuthority (extensions : List Extension) : Bool :=
  match extensions.find? fun ext => ext.id == basicConstraintsId with
  | none => false
  | some ext => ((BasicConstraints.ofBytes? ext.value).map BasicConstraints.authority).getD false

end Credential.X509
