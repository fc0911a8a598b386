import GoLiteral.Kind
import GoLiteral.Reading.Scan

/-!
# Reading a body

Reading gives the text a body stands for, with the map from the boundaries of that text to places
in the body. A raw body is its own text. An interpreted body without a backslash is its own text
too, and is not scanned.
-/

namespace GoLiteral

/-- The value of a body. -/
structure Reading where
  /-- The text the body stands for. -/
  text : String
  /-- Where each boundary of the text comes from. -/
  positions : PositionMap
  deriving DecidableEq, Repr

namespace Reading

/-- Reads a body and appends its text to a buffer. The map counts from the first character that
is appended. -/
def append (kind : Kind) (body : String) (buffer : String) : Attempt :=
  match kind with
  | .raw => ⟨buffer ++ body, .ok (.verbatim body.length)⟩
  | .interpreted =>
    if '\\' ∈ body.toList then (Scan.start body.toList buffer).run
    else ⟨buffer ++ body, .ok (.identity body.length)⟩

/-- Reads a body of the given kind. Raw bodies never fail. -/
def ofBody (kind : Kind) (body : String) : Except BadEscape Reading :=
  let attempt := append kind body ""
  attempt.result.map fun positions ↦ ⟨attempt.buffer, positions⟩

end Reading

end GoLiteral
