import GoLiteral.Escape.Digits

/-!
# Reading one escape

`Escape.read` is given what follows a backslash and answers with the character the escape stands
for and its width in the body, backslash included. Where it cannot, it answers with the reason
and how many characters of the body belong to the bad escape. Only that many characters are
looked at, so whether an escape can be read never depends on what comes before it, and on what
comes after it only for an octal escape that could take another digit.
-/

namespace GoLiteral

/-- An escape that has been read. -/
structure Escape where
  /-- The character it stands for. -/
  value : Char
  /-- How many characters of the body it takes up, its backslash included. -/
  width : Nat
  deriving DecidableEq, Repr

namespace Escape

/-- Why an escape cannot be read. A `width` counts the characters of the body that the bad escape
takes up, its backslash included, and never goes past the end of the body. -/
inductive Fault where
  /-- The body ends with the backslash. -/
  | unterminated
  /-- The introducer is unknown, or a digit is missing or is none. -/
  | malformed (width : Nat)
  /-- The digits are signed, or their number is a line break or no character. -/
  | forbidden (width : Nat)
  deriving DecidableEq, Repr

/-- Reads an octal escape, which always stands for a character below 256. -/
def readOctal (lead : Char) (rest : List Char) : Escape :=
  let digits := octalRun lead rest
  ⟨Char.ofUInt8 (octalWord digits).toUInt8, digits.length + 1⟩

/-- Reads the number in the next `count` characters, all of which have to be hexadecimal digits. -/
def readHexWord (count : Nat) (rest : List Char) : Except Fault UInt32 :=
  let digits := rest.take count
  if digits.length < count then .error (.malformed (digits.length + 2))
  else
    match hexWord? digits with
    | some value => .ok value
    | none => .error (.malformed (count + 2))

/-- Reads a two-digit hexadecimal escape. Two digits always fit in a byte. -/
def readHex (rest : List Char) : Except Fault Escape :=
  (readHexWord 2 rest).map fun value ↦ ⟨Char.ofUInt8 value.toUInt8, 4⟩

/-- The character with the given code point, unless it is a line break: an escape may not put one
into a literal that stands on one line. -/
def scalar? (value : UInt32) : Option Char :=
  if value = 0x0A ∨ value = 0x0D then none
  else if h : value.isValidChar then some ⟨value, h⟩
  else none

/-- Reads a Unicode escape of `count` digits. That there are enough characters is tested before a
sign is looked for, and the sign before the digits. -/
def readUnicode (count : Nat) (rest : List Char) : Except Fault Escape :=
  if rest.length < count then .error (.malformed (rest.length + 2))
  else if rest.head? = some '+' ∨ rest.head? = some '-' then .error (.forbidden (count + 2))
  else
    match readHexWord count rest with
    | .error fault => .error fault
    | .ok value =>
      match scalar? value with
      | some c => .ok ⟨c, count + 2⟩
      | none => .error (.forbidden (count + 2))

/-- Reads an escape from what follows its backslash. -/
def read : List Char → Except Fault Escape
  | [] => .error .unterminated
  | introducer :: rest =>
    match Class.ofIntroducer? introducer with
    | some .singleLetter =>
      match letterValue? introducer with
      | some value => .ok ⟨value, 2⟩
      | none => .error (.malformed 2)
    | some .octal => .ok (readOctal introducer rest)
    | some .hex => readHex rest
    | some .shortUnicode => readUnicode 4 rest
    | some .longUnicode => readUnicode 8 rest
    | _ => .error (.malformed 2)

end Escape

end GoLiteral
