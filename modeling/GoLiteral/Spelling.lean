import GoLiteral.Escape.Digits

/-!
# Spelling a text

The spelling of a text is a body of an interpreted literal that stands for it. A character with a
single-letter escape is written by it; a hidden character is written by its code point, with four
digits when they are enough and eight otherwise; every other character stands for itself. Which
characters are hidden is a parameter: what the spelling reads back as does not depend on it.
-/

namespace GoLiteral.Spelling

/-- The escape that writes `c` by its code point. -/
def unicodeEscape (c : Char) : List Char :=
  if c.toNat ≤ 0xFFFF then '\\' :: 'u' :: Escape.hexText 4 c.toNat
  else '\\' :: 'U' :: Escape.hexText 8 c.toNat

/-- How a single character is written. -/
def ofChar (hidden : Char → Bool) (c : Char) : List Char :=
  match Escape.letterFor? c with
  | some letter => ['\\', letter]
  | none => if hidden c then unicodeEscape c else [c]

/-- Appends the spelling of a text to a buffer. -/
def append (hidden : Char → Bool) (text : String) (buffer : String) : String :=
  text.toList.foldl (fun written c ↦ written ++ String.ofList (ofChar hidden c)) buffer

/-- The spelling of a text. -/
def ofText (hidden : Char → Bool) (text : String) : String :=
  append hidden text ""

/-- A whole token for a text: its spelling between double quotes. -/
def quoted (hidden : Char → Bool) (text : String) : String :=
  (append hidden text "\"").push '\"'

/-! ## The characters of a spelling -/

theorem toList_append (hidden : Char → Bool) (text buffer : String) :
    (append hidden text buffer).toList =
      buffer.toList ++ text.toList.flatMap (ofChar hidden) := by
  unfold append
  induction text.toList generalizing buffer with
  | nil => simp
  | cons c cs ih => simp [ih]

@[simp] theorem toList_ofText (hidden : Char → Bool) (text : String) :
    (ofText hidden text).toList = text.toList.flatMap (ofChar hidden) := by
  rw [ofText, toList_append]
  simp

@[simp] theorem toList_quoted (hidden : Char → Bool) (text : String) :
    (quoted hidden text).toList = '\"' :: (ofText hidden text).toList ++ ['\"'] := by
  rw [quoted, String.toList_push, toList_append, toList_ofText]
  rfl

end GoLiteral.Spelling
