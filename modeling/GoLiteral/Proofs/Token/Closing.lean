import Mathlib.Data.List.Induction
import GoLiteral.Proofs.Reading.Piece
import GoLiteral.Proofs.Token.Cut

/-!
# Where a token is closed

Whether the last character of an interpreted token closes it is decided by the parity of the
backslashes before it. A body that splits ends in an even number of them, since the only piece
that ends in a backslash is a pair of them; so a delimiter behind such a body is never taken for
an escaped one.
-/

namespace GoLiteral

open Escape (IsDigit Spells letters)
open Piece (sources Splits)

/-! ## Backslashes at the end of a body -/

/-- How many backslashes a row of characters ends with. -/
def trailingBackslashes (cs : List Char) : ℕ := (cs.reverse.takeWhile (· = '\\')).length

theorem trailingBackslashes_append_pair (cs : List Char) :
    trailingBackslashes (cs ++ ['\\', '\\']) = trailingBackslashes cs + 2 := by
  simp [trailingBackslashes]

theorem trailingBackslashes_append_of_ne (cs : List Char) {c : Char} (h : c ≠ '\\') :
    trailingBackslashes (cs ++ [c]) = 0 := by
  simp [trailingBackslashes, h]

theorem Escape.IsDigit.ne_backslash {base : ℕ} (hbase : base ≤ 16) {c : Char}
    (h : IsDigit base c) : c ≠ '\\' := by
  rintro rfl
  exact absurd (h.mono hbase) (by decide)

theorem Escape.Spells.eq_pair_or {source : List Char} {c : Char} (h : Spells source c) :
    source = ['\\', '\\'] ∨ ∃ front last, source = front ++ [last] ∧ last ≠ '\\' := by
  -- A numeric escape ends in its last digit.
  have numeric : ∀ {base : ℕ} {intro : List Char} {ds : List Char}, base ≤ 16 → ds ≠ [] →
      (∀ d ∈ ds, IsDigit base d) → ∃ front last, intro ++ ds = front ++ [last] ∧ last ≠ '\\' := by
    intro base intro ds hbase hne digits
    refine ⟨intro ++ ds.dropLast, ds.getLast hne, ?_, ?_⟩
    · rw [List.append_assoc, List.dropLast_append_getLast hne]
    · exact (digits _ (List.getLast_mem hne)).ne_backslash hbase
  cases h with
  | plain ne => exact Or.inr ⟨[], c, rfl, ne⟩
  | @letter l _ mem =>
    by_cases hl : l = '\\'
    · exact Or.inl (by rw [hl])
    · exact Or.inr ⟨['\\'], l, rfl, hl⟩
  | octal digits length number =>
    exact Or.inr (@numeric 8 ['\\'] _ (by decide) (List.cons_ne_nil _ _) digits)
  | hex length digits number =>
    exact Or.inr (@numeric 16 ['\\', 'x'] _ le_rfl (by rintro rfl; simp at length) digits)
  | shortUnicode length digits number =>
    exact Or.inr (@numeric 16 ['\\', 'u'] _ le_rfl (by rintro rfl; simp at length) digits)
  | longUnicode length digits number =>
    exact Or.inr (@numeric 16 ['\\', 'U'] _ le_rfl (by rintro rfl; simp at length) digits)

/-- **A body that splits ends in an even number of backslashes.** -/
theorem even_trailingBackslashes_sources (ps : List Piece) :
    Even (trailingBackslashes (sources ps)) := by
  induction ps using List.reverseRecOn with
  | nil => exact Even.zero
  | append_singleton ps p ih =>
    have hsources : sources (ps ++ [p]) = sources ps ++ p.source := by simp
    rw [hsources]
    rcases p.spells.eq_pair_or with hp | ⟨front, last, hp, hne⟩
    · rw [hp, trailingBackslashes_append_pair]
      exact ih.add even_two
    · rw [hp, ← List.append_assoc, trailingBackslashes_append_of_ne _ hne]
      exact Even.zero

/-! ## Closed tokens -/

namespace Token

theorem ofText?_text (t : Token) : ofText? t.text = some t := by
  obtain ⟨text, kind, opens⟩ := t
  rw [ofText?]
  split
  · next h => exact absurd (h.symm.trans opens) (by simp)
  · next c h =>
    obtain rfl : c = kind.delimiter := Option.some.inj (h.symm.trans opens)
    split
    · next hk =>
      exact absurd (hk.symm.trans (Kind.ofDelimiter?_eq_some_iff.mpr rfl)) (by simp)
    · next kind' hk =>
      obtain rfl : kind' = kind :=
        Option.some.inj (hk.symm.trans (Kind.ofDelimiter?_eq_some_iff.mpr rfl))
      rfl

variable {t : Token}

theorem text_of_ofText? {text : String} (h : ofText? text = some t) : t.text = text := by
  rw [ofText?] at h
  split at h
  · exact absurd h (by simp)
  · split at h
    · exact absurd h (by simp)
    · rw [← Option.some.inj h]

theorem length_pos (t : Token) : 0 < t.length := by
  rw [length_eq]
  exact List.length_pos_of_mem (List.mem_of_head? t.opens)

theorem isClosed_iff : t.isClosed = true ↔ 2 ≤ t.length ∧
    t.text.toList.getLast? = some t.kind.delimiter ∧
      (t.kind = .interpreted → t.endsInEscape = false) := by
  simp [isClosed, and_assoc, imp_iff_not_or]

theorem exists_delimited (hlen : 2 ≤ t.length)
    (hlast : t.text.toList.getLast? = some t.kind.delimiter) :
    ∃ inside, t.text.toList = t.kind.delimiter :: inside ++ [t.kind.delimiter] := by
  obtain ⟨front, hfront⟩ := List.getLast?_eq_some_iff.mp hlast
  have hopens := t.opens
  rw [length_eq, hfront] at hlen
  rw [hfront] at hopens
  cases front with
  | nil => exact absurd hlen (by simp)
  | cons first inside =>
    obtain rfl : first = t.kind.delimiter := Option.some.inj hopens
    exact ⟨inside, hfront⟩

theorem toList_body_of_not_closed (hopen : ¬t.isClosed = true) :
    t.body.toList = t.text.toList.drop 1 := by
  have hle : (⟨1, t.length⟩ : Span).start ≤ t.length := t.length_pos
  rw [body, contentSpan, if_neg hopen, toList_slice_of_le t hle, length_eq, List.take_length]

section Delimited

variable {inside : List Char}
  (htext : t.text.toList = t.kind.delimiter :: inside ++ [t.kind.delimiter])
include htext

theorem length_of_delimited : t.length = inside.length + 2 := by
  rw [length_eq, htext]
  simp

theorem endsInEscape_iff_odd : t.endsInEscape = true ↔ Odd (trailingBackslashes inside) := by
  rw [endsInEscape, t.toList_inner htext (Kind.utf8Size_delimiter _) (Kind.utf8Size_delimiter _),
    decide_eq_true_iff, ← trailingBackslashes, Nat.odd_iff]

theorem isClosed_of_even (heven : Even (trailingBackslashes inside)) : t.isClosed = true := by
  have hlast : t.text.toList.getLast? = some t.kind.delimiter := by
    rw [htext, List.getLast?_concat]
  have hescape : t.endsInEscape = false := by
    rw [Bool.eq_false_iff, ne_eq, endsInEscape_iff_odd htext, Nat.not_odd_iff_even]
    exact heven
  have hlen : 2 ≤ t.length := by
    rw [length_of_delimited htext]
    omega
  simp [isClosed, hlast, hescape, hlen]

theorem contentSpan_of_closed (hclosed : t.isClosed = true) :
    t.contentSpan = ⟨1, inside.length + 1⟩ := by
  rw [contentSpan, if_pos hclosed, length_of_delimited htext]
  rfl

theorem toList_body_of_closed (hclosed : t.isClosed = true) : t.body.toList = inside := by
  rw [body, contentSpan_of_closed htext hclosed, toList_slice_of_le _ (Nat.le_add_left _ _), htext,
    List.cons_append, List.take_succ_cons, List.take_left, List.drop_succ_cons, List.drop_zero]

end Delimited

theorem even_trailingBackslashes_body (hkind : t.kind = .interpreted)
    (hclosed : t.isClosed = true) : Even (trailingBackslashes t.body.toList) := by
  obtain ⟨hlen, hlast, hescape⟩ := isClosed_iff.mp hclosed
  obtain ⟨inside, htext⟩ := exists_delimited hlen hlast
  have hodd := (endsInEscape_iff_odd htext).not.mp (Bool.eq_false_iff.mp (hescape hkind))
  rwa [toList_body_of_closed htext hclosed, ← Nat.not_odd_iff_even]

end Token

end GoLiteral
