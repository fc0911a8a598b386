/-!
# The two forms of a string literal

An *interpreted* literal stands between double quotes and gives the backslash a meaning; a *raw*
literal stands between backticks and is its own value. The opening delimiter alone decides which
form a literal has.
-/

namespace GoLiteral

/-- The form of a string literal. The default is `interpreted`. -/
inductive Kind where
  /-- Between double quotes, with escapes. -/
  | interpreted
  /-- Between backticks, taken as it stands. -/
  | raw
  deriving DecidableEq, Repr, Inhabited

namespace Kind

/-- The name of a kind, as settings spell it. -/
def name : Kind → String
  | interpreted => "interpreted"
  | raw => "raw"

/-- The kind with the given name. -/
def ofName? (name : String) : Option Kind :=
  [interpreted, raw].find? (·.name = name)

/-- The character on both sides of a literal of this kind. -/
def delimiter : Kind → Char
  | interpreted => '\"'
  | raw => '\x60'

/-- The kind of literal that a character opens. -/
def ofDelimiter? (c : Char) : Option Kind :=
  if c = interpreted.delimiter then some interpreted
  else if c = raw.delimiter then some raw
  else none

theorem ofDelimiter?_eq_some_iff {c : Char} {k : Kind} :
    ofDelimiter? c = some k ↔ c = k.delimiter := by
  by_cases hi : c = interpreted.delimiter
  · subst hi; cases k <;> decide
  · by_cases hr : c = raw.delimiter
    · subst hr; cases k <;> decide
    · cases k <;> simp [ofDelimiter?, hi, hr]

end Kind

end GoLiteral
