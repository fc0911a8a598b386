import GoLiteral.Escape.Class

/-!
# Digits and the words they write

Numbers are read into 32-bit words, the type of a code point. Octal digits are accumulated by
multiplication, hexadecimal ones by shifting. No escape has more than eight hexadecimal digits
or an octal value above 255, so no word loses a bit.
-/

namespace GoLiteral.Escape

/-! ## Octal -/

/-- The number that a run of octal digits writes. -/
def octalWord (digits : List Char) : UInt32 :=
  digits.foldl (fun value c ↦ value * 8 + (c.val - '0'.val)) 0

/-- The most digits an octal escape takes: one that starts with `4` to `7` stops at two, so that
its value stays below 256. -/
def octalLimit (lead : Char) : Nat := if lead ≤ '3' then 3 else 2

/-- The digits of an octal escape: the longest run of octal digits, up to the limit of its
first digit. -/
def octalRun (lead : Char) (rest : List Char) : List Char :=
  ((lead :: rest).take (octalLimit lead)).takeWhile isOctal

theorem length_octalRun_le (lead : Char) (rest : List Char) :
    (octalRun lead rest).length ≤ octalLimit lead := by
  have h := (List.takeWhile_sublist (l := (lead :: rest).take (octalLimit lead)) isOctal).length_le
  have h' := List.length_take_le (octalLimit lead) (lead :: rest)
  exact Nat.le_trans h h'

/-! ## Hexadecimal -/

/-- The value of a hexadecimal digit of either case. -/
def hexDigit? (c : Char) : Option UInt32 :=
  if '0' ≤ c ∧ c ≤ '9' then some (c.val - '0'.val)
  else if 'a' ≤ c ∧ c ≤ 'f' then some (c.val - 'a'.val + 10)
  else if 'A' ≤ c ∧ c ≤ 'F' then some (c.val - 'A'.val + 10)
  else none

/-- The number that a sequence of hexadecimal digits writes. -/
def hexWord (digits : List UInt32) : UInt32 :=
  digits.foldl (fun value d ↦ (value <<< 4) ||| d) 0

/-- The number that the characters write in hexadecimal, or nothing when one is no digit. -/
def hexWord? (cs : List Char) : Option UInt32 :=
  (cs.mapM hexDigit?).map hexWord

/-- The digit, in upper case, that writes a value below 16. -/
def hexDigitChar (n : Nat) : Char :=
  if n < 10 then Char.ofNat ('0'.toNat + n) else Char.ofNat ('A'.toNat + (n - 10))

/-- The last `width` hexadecimal digits of `n`, in upper case, with leading zeros. -/
def hexText : Nat → Nat → List Char
  | 0, _ => []
  | width + 1, n => hexText width (n / 16) ++ [hexDigitChar (n % 16)]

@[simp] theorem length_hexText (width n : Nat) : (hexText width n).length = width := by
  induction width generalizing n with
  | zero => rfl
  | succ w ih => simp [hexText, ih]

end GoLiteral.Escape
