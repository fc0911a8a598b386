import GoLiteral.Escape.Read

/-!
# Bad escapes

A body is refused for its leftmost bad escape. The error names the place of the backslash and
quotes the escape as far as it was looked at.
-/

namespace GoLiteral

/-- A bad escape in a body, with the position of its backslash. -/
inductive BadEscape where
  /-- The introducer is unknown, or a digit is missing or is none. -/
  | malformed (offset : Nat) (sequence : String)
  /-- The digits are signed, or their number is a line break or no character. -/
  | forbidden (offset : Nat) (sequence : String)
  /-- The body ends with the backslash. -/
  | unterminated (offset : Nat)
  deriving DecidableEq, Repr

namespace BadEscape

/-- The position of the backslash that opens the bad escape. -/
def offset : BadEscape → Nat
  | malformed offset _ => offset
  | forbidden offset _ => offset
  | unterminated offset => offset

/-- The error as it is shown. -/
def message : BadEscape → String
  | malformed offset sequence =>
    "malformed escape sequence '" ++ sequence ++ "' at offset " ++ toString offset
  | forbidden offset sequence =>
    "escape sequence '" ++ sequence ++ "' at offset " ++ toString offset ++
      " is not allowed in a literal"
  | unterminated offset => "unterminated escape sequence at offset " ++ toString offset

/-- The error for a fault met at `offset`, where `rest` is what is left of the body from the
backslash on. -/
def ofFault (fault : Escape.Fault) (offset : Nat) (rest : List Char) : BadEscape :=
  match fault with
  | .unterminated => .unterminated offset
  | .malformed width => .malformed offset (String.ofList (rest.take width))
  | .forbidden width => .forbidden offset (String.ofList (rest.take width))

@[simp] theorem offset_ofFault (fault : Escape.Fault) (offset : Nat) (rest : List Char) :
    (ofFault fault offset rest).offset = offset := by
  cases fault <;> rfl

end BadEscape

end GoLiteral
