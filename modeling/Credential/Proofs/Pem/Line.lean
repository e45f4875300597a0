import Credential.Pem.Parser
import Credential.Proofs.Pem.Boundary

/-!
# What one line of a text can do

Everything that the reader makes of a line, as a relation between the position before it and what it
leads to (`Advances`). Outside of a block a line opens one or is skipped. Inside, it is ignored, it
is a header or a line of payload, or it closes the block. There are two faults: a header without a
name, and a block that is closed without payload.
-/

namespace Credential.Pem

/-- What a line, without the blanks around it, can lead to. -/
inductive Advances (line : List Char) : Position → Except Error Progress → Prop
  | skipped : Advances line .outside (.ok (.more .outside))
  | opened {label : List Char} : IsLabelText label →
      Advances line .outside (.ok (.more (.inside label [] [])))
  | ignored (label : List Char) (headers : Headers) (payload : List (List Char)) :
      Advances line (.inside label headers payload) (.ok (.more (.inside label headers payload)))
  | header (label : List Char) (headers : Headers) (payload : List (List Char))
      {name value : List Char} : Text.splitAt? ':' line = some (name, value) →
      Text.trim name ≠ [] → Advances line (.inside label headers payload)
        (.ok (.more (.inside label
          (⟨String.ofList (Text.trim name), String.ofList (Text.trim value)⟩ :: headers) payload)))
  | nameless (label : List Char) (headers : Headers) (payload : List (List Char)) :
      Advances line (.inside label headers payload)
        (.error (.invalidHeader (String.ofList line)))
  | payload (label : List Char) (headers : Headers) (payload : List (List Char)) : line ≠ [] →
      Advances line (.inside label headers payload)
        (.ok (.more (.inside label headers (line :: payload))))
  | empty (label : List Char) (headers : Headers) :
      Advances line (.inside label headers []) (.error .missingData)
  | closed (label : List Char) (headers : Headers) {payload : List (List Char)} : payload ≠ [] →
      Advances line (.inside label headers payload) (.ok (.closed
        ⟨.ofText (String.ofList label), headers.reverse, String.ofList payload.reverse.flatten⟩))

theorem advances_of_content (label : List Char) (headers : Headers) (payload : List (List Char))
    (line : List Char) : Advances line (.inside label headers payload)
      ((readContent label headers payload line).map .more) := by
  unfold readContent
  cases line with
  | nil => exact .ignored label headers payload
  | cons c cs =>
      rw [if_neg (by simp)]
      cases hcut : Text.splitAt? ':' (c :: cs) with
      | none => exact .payload label headers payload (List.cons_ne_nil c cs)
      | some parts =>
          obtain ⟨name, value⟩ := parts
          dsimp only
          by_cases hname : Text.trim name = []
          · rw [if_pos (by simp [hname])]
            exact .nameless label headers payload
          · rw [if_neg (by simpa using hname)]
            exact .header label headers payload hcut hname

theorem advances_of_closing (label : List Char) (headers : Headers) (payload : List (List Char))
    (line : List Char) :
    Advances line (.inside label headers payload) (closeBlock label headers payload) := by
  cases payload with
  | nil => exact .empty label headers
  | cons first rest => exact .closed label headers (List.cons_ne_nil first rest)

/-- Every line does what a line can do. -/
theorem Position.advances (position : Position) (line : List Char) :
    Advances (Text.trim line) position (position.advance line) := by
  unfold Position.advance
  cases position with
  | outside =>
      cases hline : Boundary.ofLine? (Text.trim line) with
      | none =>
          simp only [hline]
          exact .skipped
      | some boundary =>
          obtain ⟨-, hlabel⟩ := Boundary.ofLine?_eq_some_iff.1 hline
          simp only [hline]
          cases boundary with
          | opening label => exact .opened hlabel
          | closing label => exact .skipped
  | inside label headers payload =>
      cases hline : Boundary.ofLine? (Text.trim line) with
      | none =>
          simp only [hline]
          exact advances_of_content label headers payload (Text.trim line)
      | some boundary =>
          simp only [hline]
          cases boundary with
          | opening other => exact .ignored label headers payload
          | closing ending =>
              dsimp only
              split
              · exact advances_of_closing label headers payload (Text.trim line)
              · exact .ignored label headers payload

end Credential.Pem
