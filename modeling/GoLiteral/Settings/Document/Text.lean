import GoLiteral.Escape.Digits

/-!
# The text of settings documents

The parts that a settings document is written with, as TOML has them: blanks, line breaks and
comments, strings, and keys. Keys are bare, or quoted as strings on one line. Strings come in four
forms: basic strings with escapes and literal strings without, either on one line or between
triple quotes on several.

A reader takes the characters that are left and answers with what it read and what is left after
it.
-/

namespace GoLiteral.Settings.Document

/-! ## Blanks and line ends -/

/-- Whether `c` is a space or a tab. -/
def isBlank (c : Char) : Bool := c = ' ' || c = '\t'

/-- Whether `c` may stand in a comment or a string: anything but controls, tabs excepted. -/
def isPrintable (c : Char) : Bool := c = '\t' || (0x20 ≤ c.toNat && c.toNat ≠ 0x7F)

/-- Drops the blanks in front. -/
def skipBlanks (cs : List Char) : List Char := cs.dropWhile isBlank

/-- What follows the line break in front. A carriage return counts only before a line feed. -/
def afterBreak? : List Char → Option (List Char)
  | '\n' :: rest => some rest
  | '\x0d' :: '\n' :: rest => some rest
  | _ => none

/-- Drops the blanks and line breaks in front. -/
def skipSpace : List Char → List Char
  | '\n' :: rest => skipSpace rest
  | '\x0d' :: '\n' :: rest => skipSpace rest
  | c :: rest => if isBlank c then skipSpace rest else c :: rest
  | [] => []

theorem length_skipSpace_le (cs : List Char) : (skipSpace cs).length ≤ cs.length := by
  fun_induction skipSpace cs <;> simp <;> omega

/-- What is left after the line, which may end with blanks and a comment. -/
def endLine? (cs : List Char) : Option (List Char) :=
  let left :=
    match skipBlanks cs with
    | '#' :: comment => comment.dropWhile isPrintable
    | other => other
  if left.isEmpty then some [] else afterBreak? left

/-- Drops the blanks, line breaks and comments in front. -/
def skipTrivia : List Char → List Char
  | '\n' :: rest => skipTrivia rest
  | '\x0d' :: '\n' :: rest => skipTrivia rest
  | '#' :: rest => skipTrivia (rest.dropWhile isPrintable)
  | c :: rest => if isBlank c then skipTrivia rest else c :: rest
  | [] => []
termination_by cs => cs.length
decreasing_by
  all_goals simp only [List.length_cons]
  · omega
  · omega
  · exact Nat.lt_succ_of_le (List.dropWhile_sublist _).length_le
  · omega

/-! ## Strings -/

/-- The character that a backslash and one letter write. -/
def letterValue? (c : Char) : Option Char :=
  match c with
  | 'b' => some '\x08'
  | 't' => some '\t'
  | 'n' => some '\n'
  | 'f' => some '\x0c'
  | 'r' => some '\x0d'
  | 'e' => some '\x1b'
  | '\"' => some '\"'
  | '\\' => some '\\'
  | _ => none

/-- The character whose code point the next `count` digits write, with the number of characters
read after the backslash. -/
def codePoint? (count : Nat) (rest : List Char) : Option (Char × Nat) := do
  let digits := rest.take count
  if digits.length < count then none
  let value ← Escape.hexWord? digits
  if h : value.isValidChar then some (⟨value, h⟩, count + 1) else none

/-- The character that an escape writes, given what follows its backslash, with the number of
characters read. -/
def escape? : List Char → Option (Char × Nat)
  | 'x' :: rest => codePoint? 2 rest
  | 'u' :: rest => codePoint? 4 rest
  | 'U' :: rest => codePoint? 8 rest
  | c :: _ => (letterValue? c).map fun value ↦ (value, 1)
  | [] => none

/-- Reads a basic string after its opening quote, with `read` the characters so far in reverse. -/
def basic? (cs read : List Char) : Option (String × List Char) :=
  match cs with
  | [] => none
  | c :: rest =>
    if c = '\"' then some (String.ofList read.reverse, rest)
    else if c = '\\' then
      match escape? rest with
      | some (value, width) => basic? (rest.drop width) (value :: read)
      | none => none
    else if isPrintable c then basic? rest (c :: read)
    else none
termination_by cs.length
decreasing_by all_goals simp; try omega

/-- Reads a literal string after its opening quote. -/
def literal? (cs : List Char) : Option (String × List Char) :=
  let text := cs.takeWhile fun c ↦ c ≠ '\'' && isPrintable c
  match cs.drop text.length with
  | '\'' :: rest => some (String.ofList text, rest)
  | _ => none

/-- Whether three quotes in front close a string. Of a longer run the last three do. -/
def closes (quote : Char) (cs : List Char) : Bool :=
  cs.take 3 = [quote, quote, quote] && (cs.drop 3).head? ≠ some quote

/-- What is left when a backslash before a line break has taken the break and all space after it,
given what follows the backslash. -/
def afterContinuation? (rest : List Char) : Option (List Char) :=
  if (afterBreak? (skipBlanks rest)).isSome then some (skipSpace rest) else none

theorem length_le_of_afterContinuation? {rest left : List Char}
    (h : afterContinuation? rest = some left) : left.length ≤ rest.length := by
  unfold afterContinuation? at h
  split at h
  · rw [← Option.some.inj h]
    exact length_skipSpace_le rest
  · exact absurd h (by simp)

/-- Reads a string between triple quotes after its opening quotes, with `read` the characters so
far in reverse. -/
def multiline? (quote : Char) (escapes : Bool) (cs read : List Char) :
    Option (String × List Char) :=
  match cs with
  | [] => none
  | c :: rest =>
    if closes quote (c :: rest) then some (String.ofList read.reverse, rest.drop 2)
    else if c = '\\' && escapes then
      match _ : afterContinuation? rest with
      | some left => multiline? quote escapes left read
      | none =>
        match escape? rest with
        | some (value, width) => multiline? quote escapes (rest.drop width) (value :: read)
        | none => none
    else if isPrintable c || (afterBreak? (c :: rest)).isSome then
      multiline? quote escapes rest (c :: read)
    else none
termination_by cs.length
decreasing_by
  · exact Nat.lt_succ_of_le (length_le_of_afterContinuation? (by assumption))
  · simp only [List.length_drop, List.length_cons]
    omega
  · simp

/-- Drops a line break directly after opening triple quotes. -/
def skipFirstBreak (cs : List Char) : List Char := (afterBreak? cs).getD cs

/-! ## Keys -/

/-- Whether `c` may stand in a bare key. -/
def isBare (c : Char) : Bool := c.isAlphanum || c = '_' || c = '-'

/-- Reads a key without dots. -/
def key? : List Char → Option (String × List Char)
  | '\"' :: rest => basic? rest []
  | '\'' :: rest => literal? rest
  | cs =>
    let name := cs.takeWhile isBare
    if name.isEmpty then none else some (String.ofList name, cs.drop name.length)

/-- Reads keys with dots between them, around which there may be blanks. -/
def path? (cs : List Char) : Option (List String × List Char) :=
  match key? cs with
  | none => none
  | some (name, left) =>
    match skipBlanks left with
    | '.' :: rest =>
      let next := skipBlanks rest
      if next.length < cs.length then
        (path? next).map fun (names, left) ↦ (name :: names, left)
      else none
    | left => some ([name], left)
termination_by cs.length

end GoLiteral.Settings.Document
