/-!
# The classes of escape

A backslash is followed by an *introducer*, which alone decides what kind of escape it opens: a
single letter standing for one character, a run of octal digits, or a fixed number of hexadecimal
digits. This file holds the two single-letter tables, the classification, and the published
widths. The widths are not consulted when an escape is read; that they are kept is a theorem.
-/

namespace GoLiteral.Escape

/-! ## Single letters -/

/-- The character that a backslash and `c` stand for. A backslash before a line feed stands for
the line feed. -/
def letterValue? (c : Char) : Option Char :=
  match c with
  | 'a' => some '\x07'
  | 'b' => some '\x08'
  | 'f' => some '\x0c'
  | 'n' => some '\n'
  | 'r' => some '\x0d'
  | 't' => some '\t'
  | 'v' => some '\x0b'
  | '\\' => some '\\'
  | '\'' => some '\''
  | '\"' => some '\"'
  | '\n' => some '\n'
  | _ => none

/-- The letter that writes `c` after a backslash, if there is one. A line feed is always written
with the letter `n`. -/
def letterFor? (c : Char) : Option Char :=
  match c with
  | '\x07' => some 'a'
  | '\x08' => some 'b'
  | '\x0c' => some 'f'
  | '\n' => some 'n'
  | '\x0d' => some 'r'
  | '\t' => some 't'
  | '\x0b' => some 'v'
  | '\\' => some '\\'
  | '\'' => some '\''
  | '\"' => some '\"'
  | _ => none

theorem letterValue?_of_letterFor? {c l : Char} (h : letterFor? c = some l) :
    letterValue? l = some c := by
  unfold letterFor? at h
  split at h <;> simp_all <;> subst h <;> rfl

/-! ## Classes -/

/-- How a stretch of a body stands for one character of its value. -/
inductive Class where
  /-- A character that stands for itself. -/
  | identity
  /-- A backslash and one letter. -/
  | singleLetter
  /-- A backslash and one to three octal digits. -/
  | octal
  /-- A backslash, `x` and two hexadecimal digits. -/
  | hex
  /-- A backslash, `u` and four hexadecimal digits. -/
  | shortUnicode
  /-- A backslash, `U` and eight hexadecimal digits. -/
  | longUnicode
  deriving DecidableEq, Repr

/-- Whether `c` is one of the digits `0` to `7`. -/
def isOctal (c : Char) : Bool := '0' ≤ c && c ≤ '7'

theorem isOctal_iff {c : Char} : isOctal c = true ↔ '0' ≤ c ∧ c ≤ '7' := by
  rw [isOctal, Bool.and_eq_true, decide_eq_true_iff, decide_eq_true_iff]

namespace Class

/-- The class of the escape that `c` introduces, when it stands after a backslash. -/
def ofIntroducer? (c : Char) : Option Class :=
  if isOctal c then some octal
  else if c = 'x' then some hex
  else if c = 'u' then some shortUnicode
  else if c = 'U' then some longUnicode
  else if (letterValue? c).isSome then some singleLetter
  else none

/-- How many hexadecimal digits follow the introducer, for the classes with a fixed number. -/
def hexDigits? : Class → Option Nat
  | hex => some 2
  | shortUnicode => some 4
  | longUnicode => some 8
  | _ => none

/-- How many characters of the body one character takes up. Octal escapes vary. -/
def rawLength? : Class → Option Nat
  | identity => some 1
  | singleLetter => some 2
  | octal => none
  | hex => some 4
  | shortUnicode => some 6
  | longUnicode => some 10

/-- The numeric forms are their digits, a backslash and an introducer. -/
theorem rawLength?_eq_of_hexDigits? {cls : Class} {n : Nat} (h : cls.hexDigits? = some n) :
    cls.rawLength? = some (n + 2) := by
  cases cls <;> simp_all [hexDigits?, rawLength?]
  all_goals omega

theorem letterValue?_isSome_of_singleLetter {c : Char} (h : ofIntroducer? c = some singleLetter) :
    (letterValue? c).isSome := by
  unfold ofIntroducer? at h
  repeat' split at h
  all_goals simp_all

theorem ofIntroducer?_ne_identity (c : Char) : ofIntroducer? c ≠ some identity := by
  unfold ofIntroducer?
  repeat' split
  all_goals simp

end Class

end GoLiteral.Escape
