import Mathlib.Tactic.MkIffOfInductiveProp
import GoLiteral.Proofs.Token.Closing

/-!
# A token read from left to right

What it means that the last character of an interpreted token closes it is said from the front:
who goes through the token from left to right, and lets each backslash take the character behind
it along, must come to the last delimiter as to a character of its own. Whether a token is closed
is decided from its end instead, by the number of backslashes before the last character.

The two agree on every token. Going from left to right, a backslash that takes another one along
uses up two of them, and one that takes any other character along leaves no backslash before what
is behind; so from either side it is the parity of the last run that counts. The opening delimiter
is never looked at, and in a raw token no backslash is.
-/

namespace GoLiteral

/-! ## Lexemes -/

/-- Characters taken up from left to right, where a backslash takes the one behind it along. -/
def lexemes : List Char → List (List Char)
  | [] => []
  | '\\' :: c :: rest => ['\\', c] :: lexemes rest
  | c :: rest => [c] :: lexemes rest

theorem lexemes_pair (c : Char) (rest : List Char) :
    lexemes ('\\' :: c :: rest) = ['\\', c] :: lexemes rest := by rw [lexemes]

theorem lexemes_cons_of_ne {c : Char} (h : c ≠ '\\') (rest : List Char) :
    lexemes (c :: rest) = [c] :: lexemes rest := by
  rw [lexemes]
  rintro d rest' rfl -
  exact h rfl

theorem lexemes_singleton (c : Char) : lexemes [c] = [[c]] := by
  rw [lexemes, lexemes]
  simp

theorem flatten_lexemes (cs : List Char) : (lexemes cs).flatten = cs := by
  induction cs using lexemes.induct with
  | case1 => rfl
  | case2 c rest ih => rw [lexemes_pair, List.flatten_cons, ih]; rfl
  | case3 c rest hpair ih => rw [lexemes.eq_3 c rest hpair, List.flatten_cons, ih]; rfl

theorem getLast?_cons_lexemes (lexeme : List Char) {cs : List Char} (h : cs ≠ []) :
    (lexeme :: lexemes cs).getLast? = (lexemes cs).getLast? := by
  refine List.getLast?_cons_of_ne_nil ?_
  intro hnil
  have hflatten := flatten_lexemes cs
  rw [hnil] at hflatten
  exact h hflatten.symm

/-! ## The last run of backslashes -/

/-- In front of other characters, an even run of backslashes leaves the parity of the last run as
it is, whether that run reaches back to it or not. -/
theorem odd_trailingBackslashes_append {front : List Char} (h : Even (trailingBackslashes front))
    (rest : List Char) :
    Odd (trailingBackslashes (front ++ rest)) ↔ Odd (trailingBackslashes rest) := by
  rw [trailingBackslashes, List.reverse_append, List.takeWhile_append]
  split
  · next hall =>
    -- There are only backslashes in `rest`.
    have hrest : trailingBackslashes rest = rest.reverse.length := hall
    rw [List.length_append, hrest, ← trailingBackslashes, Nat.odd_add, iff_true_right h]
  · rfl

theorem even_trailingBackslashes_pair (c : Char) : Even (trailingBackslashes ['\\', c]) := by
  by_cases hc : c = '\\'
  · subst hc
    decide
  · have hzero : trailingBackslashes ['\\', c] = 0 := trailingBackslashes_append_of_ne ['\\'] hc
    rw [hzero]
    exact Even.zero

/-- **A character is taken along by a backslash** exactly when an odd number of backslashes stands
before it. -/
theorem getLast?_lexemes_eq_pair_iff (cs : List Char) (c : Char) :
    (lexemes (cs ++ [c])).getLast? = some ['\\', c] ↔ Odd (trailingBackslashes cs) := by
  have hne : ∀ rest : List Char, rest ++ [c] ≠ [] :=
    fun rest ↦ List.append_ne_nil_of_right_ne_nil _ (List.cons_ne_nil _ _)
  induction cs using lexemes.induct with
  | case1 =>
    rw [List.nil_append, lexemes_singleton]
    simp [trailingBackslashes]
  | case2 d rest ih =>
    rw [List.cons_append, List.cons_append, lexemes_pair, getLast?_cons_lexemes _ (hne rest)]
    exact ih.trans (odd_trailingBackslashes_append (even_trailingBackslashes_pair d) rest).symm
  | case3 d rest hpair ih =>
    by_cases hd : d = '\\'
    · subst hd
      cases rest with
      | nil =>
        rw [List.singleton_append, lexemes_pair]
        simp [trailingBackslashes, lexemes]
      | cons e rest => exact absurd rfl (hpair e rest rfl)
    · have heven : Even (trailingBackslashes [d]) := by
        have hzero : trailingBackslashes [d] = 0 := trailingBackslashes_append_of_ne [] hd
        rw [hzero]
        exact Even.zero
      rw [List.cons_append, lexemes_cons_of_ne hd, getLast?_cons_lexemes _ (hne rest)]
      exact ih.trans (odd_trailingBackslashes_append heven rest).symm

/-! ## Closed tokens -/

namespace Token

/-- What it means that the last character of a token closes it. -/
@[mk_iff]
structure EndsWithDelimiter (t : Token) : Prop where
  /-- There is a character behind the opening delimiter. -/
  two_le : 2 ≤ t.length
  /-- The last character is the delimiter of the token. -/
  last : t.text.toList.getLast? = some t.kind.delimiter
  /-- In an interpreted token it is not taken along by a backslash, by who goes from left to right
  through what is behind the opening delimiter. -/
  free : t.kind = .interpreted →
    (lexemes (t.text.toList.drop 1)).getLast? ≠ some ['\\', t.kind.delimiter]

variable {t : Token}

/-- **A token is closed from its end when it is closed from its front.** -/
theorem isClosed_iff_endsWithDelimiter : t.isClosed = true ↔ t.EndsWithDelimiter := by
  rw [isClosed_iff, endsWithDelimiter_iff]
  refine and_congr_right fun hlen ↦ and_congr_right fun hlast ↦ imp_congr_right fun _ ↦ ?_
  -- Between two delimiters, it is the parity of the run before the last one in either case.
  obtain ⟨inside, htext⟩ := exists_delimited hlen hlast
  have hdrop : t.text.toList.drop 1 = inside ++ [t.kind.delimiter] := by
    rw [htext]
    rfl
  rw [hdrop, ne_eq, getLast?_lexemes_eq_pair_iff, ← endsInEscape_iff_odd htext, Bool.eq_false_iff]

/-- **Where the body of a token ends.** It ends before the last character exactly when that is a
delimiter behind the opening one and, in an interpreted token, is not taken along by a backslash
when the token is read from left to right; otherwise it ends with the token. -/
theorem contentSpan_eq_iff_endsWithDelimiter (t : Token) :
    (t.contentSpan = ⟨1, t.length - 1⟩ ↔ t.EndsWithDelimiter) ∧
      (¬t.EndsWithDelimiter → t.contentSpan = ⟨1, t.length⟩) := by
  have hpos := t.length_pos
  rw [← isClosed_iff_endsWithDelimiter, contentSpan]
  by_cases hclosed : t.isClosed = true
  · rw [if_pos hclosed]
    exact ⟨iff_of_true rfl hclosed, fun hopen ↦ absurd hclosed hopen⟩
  · rw [if_neg hclosed]
    refine ⟨iff_of_false ?_ hclosed, fun _ ↦ rfl⟩
    rw [Span.mk.injEq]
    omega

end Token

end GoLiteral
