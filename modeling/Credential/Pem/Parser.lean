import Credential.Pem.Block
import Credential.Pem.Boundary

/-!
# Reading PEM texts

A text is read line by line, each line trimmed of blanks. Outside a block every line is
skipped until an opening boundary. Inside a block, the closing boundary with the same
label ends the block and every other boundary is skipped; so are empty lines. A line with
a colon is a header property, and every other line is payload.

`Position` is where the reader stands between two lines and `Position.advance` reads one
line. `firstBlock` and `allBlocks` run it over the lines of a text. `Block.ofText` reads
the first block of a text; `blocksOfText` reads all of them, where two boundaries may also
stand side by side on a line.
-/

namespace Credential.Pem

/-- Where the reader stands between two lines. The headers and the lines of payload of an
open block are kept with the latest one first. -/
inductive Position where
  | outside
  | inside (label : List Char) (headers : Headers) (payload : List (List Char))
  deriving DecidableEq, Repr

/-- What one line leads to. -/
inductive Progress where
  | more (position : Position)
  | closed (block : Block)
  deriving DecidableEq, Repr

/-- Reads a line of a block that is no boundary. -/
def readContent (label : List Char) (headers : Headers) (payload : List (List Char))
    (line : List Char) : Except Error Position :=
  if line.isEmpty then .ok (.inside label headers payload)
  else match Text.splitAt? ':' line with
    | none => .ok (.inside label headers (line :: payload))
    | some (name, value) =>
      let name := Text.trim name
      if name.isEmpty then .error (.invalidHeader (String.ofList line))
      else
        let header : Header := ⟨String.ofList name, String.ofList (Text.trim value)⟩
        .ok (.inside label (header :: headers) payload)

/-- The block that its closing boundary ends. -/
def closeBlock (label : List Char) (headers : Headers) (payload : List (List Char)) :
    Except Error Progress :=
  if payload.isEmpty then .error .missingData
  else
    let text := String.ofList payload.reverse.flatten
    .ok (.closed ⟨.ofText (String.ofList label), headers.reverse, text⟩)

/-- Reads one line. -/
def Position.advance (position : Position) (line : List Char) : Except Error Progress :=
  let line := Text.trim line
  match position, Boundary.ofLine? line with
  | .outside, some (.opening label) => .ok (.more (.inside label [] []))
  | .outside, _ => .ok (.more .outside)
  | .inside label headers payload, some (.closing ending) =>
    if ending = label then closeBlock label headers payload else .ok (.more position)
  | .inside _ _ _, some (.opening _) => .ok (.more position)
  | .inside label headers payload, none =>
    (readContent label headers payload line).map .more

/-- What a text without further lines amounts to, if no block was found. -/
def Position.fault : Position → Error
  | .outside => .missingBegin
  | .inside _ _ _ => .missingEnd

/-- The first block that ends in the given lines. -/
def firstBlock : Position → List (List Char) → Except Error Block
  | position, [] => .error position.fault
  | position, line :: lines =>
    match position.advance line with
    | .error e => .error e
    | .ok (.closed block) => .ok block
    | .ok (.more next) => firstBlock next lines

/-- All blocks in the given lines. -/
def allBlocks : Position → List (List Char) → Except Error (List Block)
  | .outside, [] => .ok []
  | .inside _ _ _, [] => .error .missingEnd
  | position, line :: lines =>
    match position.advance line with
    | .error e => .error e
    | .ok (.closed block) => (allBlocks .outside lines).map (block :: ·)
    | .ok (.more next) => allBlocks next lines

/-- The first block of a text. -/
def Block.ofText (s : String) : Except Error Block :=
  firstBlock .outside (Text.lines s.toList)

/-- The first block of a byte string that holds a text. -/
def Block.ofOctets (bytes : Bytes) : Except Error Block :=
  match Text.Utf8.decode? bytes with
  | none => .error .invalidUtf8
  | some s => Block.ofText s

/-- The text with a line feed between boundaries that stand side by side: after the first
five of ten dashes in a row, from the left. -/
def separateBoundaries : List Char → List Char
  | '-' :: '-' :: '-' :: '-' :: '-' :: '-' :: '-' :: '-' :: '-' :: '-' :: cs =>
    dashes ++ '\n' :: dashes ++ separateBoundaries cs
  | c :: cs => c :: separateBoundaries cs
  | [] => []

/-- All blocks of a text; there is at least one. -/
def blocksOfText (s : String) : Except Error (List Block) :=
  match allBlocks .outside (Text.lines (separateBoundaries s.toList)) with
  | .error e => .error e
  | .ok [] => .error .missingBegin
  | .ok blocks => .ok blocks

end Credential.Pem
