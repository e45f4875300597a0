import Credential.Der.Writer

/-!
# Strict DER elements

Certificates are read in strict DER: a length is in its shortest form, and an identifier
octet is that of a known universal type or of a class of its own. An element is its
identifier octet and its content; `elements?` reads a content as the elements that make it
up, so the structures of a certificate are read by matching on lists of elements.

`Element.encode` writes an element, and `Element.read?` gives back what it wrote.
-/

namespace Credential.X509

/-- A DER element: its identifier octet and its content. -/
structure Element where
  octet : UInt8
  content : Bytes
  deriving DecidableEq, Repr

/-- The identifier octets of the universal types. -/
def universalOctets : List UInt8 :=
  [0x01, 0x02, 0x03, 0x04, 0x05, 0x06, 0x09, 0x0A, 0x0C, 0x12, 0x13, 0x14, 0x15, 0x16, 0x17,
   0x18, 0x1A, 0x1E, 0x30, 0x31]

/-- Whether an octet identifies elements. Numbers above 30 are not supported. -/
def isIdentifier (b : UInt8) : Bool :=
  universalOctets.contains b || (0x40 ≤ b && b &&& 0x1F != 0x1F)

/-- The next length field, which is the shortest one for its value. -/
def readLength? : Bytes → Option (Nat × Bytes)
  | [] => none
  | b :: rest =>
    if b < 0x80 then some (b.toNat, rest)
    else
      let count := b.toNat - 0x80
      let digits := rest.take count
      if count ≤ 4 ∧ Der.lengthOctets (Bytes.toNat digits) = b :: digits then
        some (Bytes.toNat digits, rest.drop count)
      else none

theorem length_of_readLength? {input rest : Bytes} {n : Nat}
    (h : readLength? input = some (n, rest)) : rest.length ≤ input.length := by
  cases input with
  | nil => simp [readLength?] at h
  | cons b tail =>
    simp only [readLength?] at h
    split at h
    · obtain ⟨-, rfl⟩ := Prod.mk.inj (Option.some.inj h)
      simp
    · split at h
      · obtain ⟨-, rfl⟩ := Prod.mk.inj (Option.some.inj h)
        simp only [List.length_drop, List.length_cons]
        omega
      · cases h

namespace Element

/-- The encoding of an element. -/
def encode (e : Element) : Bytes :=
  Der.element e.octet e.content

/-- Reads the next element. -/
def read? : Bytes → Option (Element × Bytes)
  | [] => none
  | b :: rest =>
    match readLength? rest with
    | none => none
    | some (length, rest) =>
      let content := rest.take length
      if isIdentifier b ∧ content.length = length then some (⟨b, content⟩, rest.drop length)
      else none

theorem length_of_read? {input rest : Bytes} {e : Element}
    (h : read? input = some (e, rest)) : rest.length < input.length := by
  cases input with
  | nil => simp [read?] at h
  | cons b tail =>
    simp only [read?] at h
    split at h
    · cases h
    · rename_i length tail' hlength
      split at h
      · cases h
        have hle := length_of_readLength? hlength
        simp only [List.length_drop, List.length_cons]
        omega
      · cases h

end Element

/-- The elements that make up a content. -/
def elements? (content : Bytes) : Option (List Element) :=
  if content = [] then some []
  else
    match _h : Element.read? content with
    | none => none
    | some (e, rest) => (elements? rest).map (e :: ·)
termination_by content.length
decreasing_by exact Element.length_of_read? _h

/-- The encodings of elements, one after the other. -/
def encodeAll (es : List Element) : Bytes :=
  es.flatMap Element.encode

/-! ## Constructed elements -/

/-- The identifier octet of a SEQUENCE. -/
def sequenceOctet : UInt8 := 0x30

/-- The identifier octet of a SET. -/
def setOctet : UInt8 := 0x31

namespace Element

/-- The SEQUENCE of the given elements. -/
def sequence (es : List Element) : Element :=
  ⟨sequenceOctet, encodeAll es⟩

/-- The elements of a SEQUENCE. -/
def sequence? (e : Element) : Option (List Element) :=
  if e.octet = sequenceOctet then elements? e.content else none

/-- The SET of the given elements. -/
def set (es : List Element) : Element :=
  ⟨setOctet, encodeAll es⟩

/-- The elements of a SET. -/
def set? (e : Element) : Option (List Element) :=
  if e.octet = setOctet then elements? e.content else none

/-- Whether the element has a context-specific tag. -/
def isContext (e : Element) : Bool :=
  e.octet &&& 0xC0 == 0x80

/-- The tag number of an element. -/
def number (e : Element) : UInt8 :=
  e.octet &&& 0x1F

end Element

/-- The identifier octet of an explicit tag. -/
def explicitOctet (number : UInt8) : UInt8 := 0xA0 ||| number

/-- The identifier octet of an implicit tag on a primitive type. -/
def implicitOctet (number : UInt8) : UInt8 := 0x80 ||| number

/-- The element under the context-specific tag `number`, if it is next, and the elements
after it. Elements under smaller numbers in front of it are passed over. -/
def takeTagged (number : UInt8) (es : List Element) : Option Element × List Element :=
  match es.dropWhile fun e => e.isContext && e.number < number with
  | [] => (none, [])
  | e :: rest => if e.isContext ∧ e.number = number then (some e, rest) else (none, e :: rest)

end Credential.X509
