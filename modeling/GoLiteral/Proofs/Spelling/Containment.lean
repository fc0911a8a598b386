import GoLiteral.Proofs.Spelling.RoundTrip
import GoLiteral.Unicode.Category

/-!
# A quoted text stays between its quotes

What is written behind a quoted text must not be able to become a part of it, nor the other way
round. Who looks for the end of a quoted text does not read its escapes, but only passes over the
character behind each backslash and stops at the first double quote that is left. That goes through
the text in other steps than a reading does: the digits of an escape are characters like any others,
and a backslash is seen as the first of two whatever it begins.

Both ways to go through a body meet again behind every piece, since behind its introducer an escape
has only digits. So the search stops in front of the first piece that is a bare double quote, and a
spelling has none.

Nor can a quoted text be seen to end by its looks: a spelling has no line breaks and no hidden
characters. Of the characters that are hidden nothing is asked here but that none of those is among
them that a spelling is written with.
-/

namespace GoLiteral

open Escape (IsDigit Spells letterFor?)
open Piece (sources)

/-- The place of the first double quote, where a backslash takes the character behind it along. -/
def closingQuote? : List Char → Option ℕ
  | [] => none
  | '\\' :: _ :: rest => (closingQuote? rest).map (· + 2)
  | c :: rest => if c = '\"' then some 0 else (closingQuote? rest).map (· + 1)

theorem closingQuote?_quote (rest : List Char) : closingQuote? ('\"' :: rest) = some 0 := by
  simp [closingQuote?]

theorem closingQuote?_cons_of_ne {c : Char} (hbackslash : c ≠ '\\') (hquote : c ≠ '\"')
    (rest : List Char) : closingQuote? (c :: rest) = (closingQuote? rest).map (· + 1) := by
  cases rest with
  | nil => simp [closingQuote?, hquote]
  | cons d rest => simp [closingQuote?, hbackslash, hquote]

/-! ## Pieces -/

theorem Escape.IsDigit.ne_quote {c : Char} (h : IsDigit 16 c) : c ≠ '\\' ∧ c ≠ '\"' :=
  h.of_forall (p := fun d ↦ d ≠ '\\' ∧ d ≠ '\"') (by decide)

theorem Escape.Spells.eq_singleton_or_digits {source : List Char} {c : Char}
    (h : Spells source c) : (source = [c] ∧ c ≠ '\\') ∨
      ∃ l ds, source = '\\' :: l :: ds ∧ ∀ d ∈ ds, IsDigit 16 d := by
  cases h with
  | plain ne => exact Or.inl ⟨rfl, ne⟩
  | letter mem => exact Or.inr ⟨_, [], rfl, by simp⟩
  | octal digits length number =>
    exact Or.inr ⟨_, _, rfl, fun d hd ↦ (digits d (List.mem_cons_of_mem _ hd)).mono (by decide)⟩
  | hex length digits | shortUnicode length digits | longUnicode length digits =>
    exact Or.inr ⟨_, _, rfl, digits⟩

theorem closingQuote?_digits_append {ds : List Char} (h : ∀ d ∈ ds, IsDigit 16 d)
    (rest : List Char) :
    closingQuote? (ds ++ rest) = (closingQuote? rest).map (· + ds.length) := by
  induction ds with
  | nil => simp
  | cons d ds ih =>
    obtain ⟨hbackslash, hquote⟩ := (h d List.mem_cons_self).ne_quote
    rw [List.cons_append, closingQuote?_cons_of_ne hbackslash hquote,
      ih fun x hx ↦ h x (List.mem_cons_of_mem _ hx), Option.map_map, List.length_cons]
    rfl

theorem closingQuote?_source_append {p : Piece} (h : p.source ≠ ['\"']) (rest : List Char) :
    closingQuote? (p.source ++ rest) = (closingQuote? rest).map (· + p.source.length) := by
  obtain ⟨hsource, hne⟩ | ⟨l, ds, hsource, digits⟩ := p.spells.eq_singleton_or_digits
  · have hquote : p.value ≠ '\"' := by
      rw [hsource] at h
      exact fun hvalue ↦ h (by rw [hvalue])
    rw [hsource, List.singleton_append, closingQuote?_cons_of_ne hne hquote]
    rfl
  · -- The backslash takes the introducer along, whatever it is, and only digits are left to pass.
    rw [hsource, List.cons_append, List.cons_append, closingQuote?,
      closingQuote?_digits_append digits, Option.map_map]
    rfl

/-- **The search stops at the first bare double quote.** -/
theorem closingQuote?_sources_append {ps : List Piece} (h : ∀ p ∈ ps, p.source ≠ ['\"'])
    (rest : List Char) :
    closingQuote? (sources ps ++ rest) = (closingQuote? rest).map (· + (sources ps).length) := by
  induction ps with
  | nil => simp
  | cons p ps ih =>
    rw [Piece.sources_cons, List.append_assoc,
      closingQuote?_source_append (h p List.mem_cons_self),
      ih fun q hq ↦ h q (List.mem_cons_of_mem _ hq), Option.map_map, List.length_append]
    cases closingQuote? rest with
    | none => rfl
    | some n =>
      rw [Option.map_some, Option.map_some, Function.comp_apply]
      congr 1
      omega

namespace Spelling

variable {hidden : Char → Bool}

/-! ## The characters of a spelling -/

/-- A space, or a character of ASCII that can be seen. -/
def IsPrintable (c : Char) : Prop := ' ' ≤ c ∧ c ≤ '~'

instance (c : Char) : Decidable (IsPrintable c) :=
  inferInstanceAs (Decidable (' ' ≤ c ∧ c ≤ '~'))

theorem isPrintable_of_letterFor? {c l : Char} (h : letterFor? c = some l) : IsPrintable l := by
  unfold letterFor? at h
  split at h
  case h_11 => exact absurd h (by simp)
  all_goals
    obtain rfl := Option.some.inj h
    decide

theorem isPrintable_of_mem_unicodeEscape {c x : Char} (h : x ∈ unicodeEscape c) :
    IsPrintable x := by
  have digit : ∀ {d : Char}, IsDigit 16 d → IsPrintable d :=
    fun hd ↦ hd.of_forall (p := IsPrintable) (by decide)
  rw [unicodeEscape] at h
  split at h
  all_goals
    rcases List.mem_cons.mp h with rfl | h
    · decide
    rcases List.mem_cons.mp h with rfl | h
    · decide
    exact digit (isDigit_of_mem_hexText h)

/-- An escape is written with printable characters; any other character is written as it is, and
is one that has no letter and is not hidden. -/
theorem isPrintable_or_of_mem_ofChar {c x : Char} (h : x ∈ ofChar hidden c) :
    IsPrintable x ∨ letterFor? x = none ∧ hidden x = false := by
  rw [ofChar] at h
  cases hletter : letterFor? c with
  | some letter =>
    simp only [hletter, List.mem_cons, List.not_mem_nil, or_false] at h
    rcases h with rfl | rfl
    · exact Or.inl (by decide)
    · exact Or.inl (isPrintable_of_letterFor? hletter)
  | none =>
    cases hhidden : hidden c with
    | true =>
      simp only [hletter, hhidden, ↓reduceIte] at h
      exact Or.inl (isPrintable_of_mem_unicodeEscape h)
    | false =>
      simp only [hletter, hhidden, Bool.false_eq_true, ↓reduceIte, List.mem_singleton] at h
      subst h
      exact Or.inr ⟨hletter, hhidden⟩

theorem isPrintable_or_of_mem_ofText {text : String} {x : Char}
    (h : x ∈ (ofText hidden text).toList) :
    IsPrintable x ∨ letterFor? x = none ∧ hidden x = false := by
  rw [toList_ofText] at h
  obtain ⟨c, -, hx⟩ := List.mem_flatMap.mp h
  exact isPrintable_or_of_mem_ofChar hx

/-- A spelling stands on one line, whatever is hidden: line breaks have letters. -/
theorem not_lineBreak_of_mem_ofText {text : String} {x : Char}
    (h : x ∈ (ofText hidden text).toList) : x ≠ '\n' ∧ x ≠ '\x0d' := by
  rcases isPrintable_or_of_mem_ofText h with hprintable | ⟨hletter, -⟩
  · constructor
    · rintro rfl
      exact absurd hprintable (by decide)
    · rintro rfl
      exact absurd hprintable (by decide)
  · constructor
    · rintro rfl
      exact absurd hletter (by decide)
    · rintro rfl
      exact absurd hletter (by decide)

theorem ofChar_ne_quote (c : Char) : ofChar hidden c ≠ ['\"'] := by
  intro h
  obtain ⟨hsource, -⟩ | ⟨ds, hsource⟩ := (spells_ofChar hidden c).eq_singleton_or
  · obtain rfl : '\"' = c := List.singleton_inj.mp (h.symm.trans hsource)
    have hescaped : ofChar hidden '\"' = ['\\', '\"'] := rfl
    exact absurd (hescaped.symm.trans h) (by decide)
  · exact absurd (List.head_eq_of_cons_eq (h.symm.trans hsource)) (by decide)

theorem closingQuote?_ofText_append (text : String) (rest : List Char) :
    closingQuote? ((ofText hidden text).toList ++ '\"' :: rest) =
      some (ofText hidden text).length := by
  have hpieces : ∀ p ∈ text.toList.map (piece hidden), p.source ≠ ['\"'] := by
    intro p hp
    obtain ⟨c, -, rfl⟩ := List.mem_map.mp hp
    exact ofChar_ne_quote c
  rw [← sources_map_piece, closingQuote?_sources_append hpieces, closingQuote?_quote,
    sources_map_piece, String.length_toList, Option.map_some, Nat.zero_add]

/-- **Quoted text cannot break out.** Whatever is written behind a quoted text, the search for its
end, which begins behind the opening quote, stops at its last character. And a spelling has no line
breaks and no hidden characters, as long as no printable character of ASCII is hidden. -/
theorem closingQuote?_quoted_append
    (printable : ∀ c : Char, ' ' ≤ c → c ≤ '~' → hidden c = false) (text rest : String) :
    (closingQuote? ((quoted hidden text ++ rest).toList.drop 1)).map (1 + ·) =
        some ((quoted hidden text).length - 1) ∧
      ∀ c ∈ (ofText hidden text).toList, c ≠ '\n' ∧ c ≠ '\x0d' ∧ hidden c = false := by
  constructor
  · have hquoted : (quoted hidden text ++ rest).toList.drop 1 =
        (ofText hidden text).toList ++ '\"' :: rest.toList := by
      rw [String.toList_append, toList_quoted]
      simp
    have hlength : (quoted hidden text).length = (ofText hidden text).length + 2 := by
      rw [← String.length_toList, toList_quoted, List.length_append, List.length_cons,
        String.length_toList]
      rfl
    rw [hquoted, closingQuote?_ofText_append, hlength, Option.map_some, Nat.add_comm]
    rfl
  · intro c hc
    obtain ⟨hlf, hcr⟩ := not_lineBreak_of_mem_ofText hc
    rcases isPrintable_or_of_mem_ofText hc with ⟨hle, hge⟩ | ⟨-, hhidden⟩
    · exact ⟨hlf, hcr, printable c hle hge⟩
    · exact ⟨hlf, hcr, hhidden⟩

theorem isHidden_of_isPrintable {c : Char} (h : IsPrintable c) : Unicode.isHidden c = false :=
  Escape.forall_between (p := fun d ↦ Unicode.isHidden d = false) (by decide +kernel) h.1 h.2

/-- A text that would close the literal and go on behind it, with an escape character, a zero width
joiner and a line feed in it. -/
theorem closingQuote?_quoted_append_breakout :
    (∀ c : Char, ' ' ≤ c → c ≤ '~' → Unicode.isHidden c = false) ∧
      (closingQuote? ((quoted Unicode.isHidden "\\\"); \x1b\u200d\n" ++ "\"x\"").toList.drop 1)).map
          (1 + ·) = some ((quoted Unicode.isHidden "\\\"); \x1b\u200d\n").length - 1) ∧
      ∀ c ∈ (ofText Unicode.isHidden "\\\"); \x1b\u200d\n").toList,
        c ≠ '\n' ∧ c ≠ '\x0d' ∧ Unicode.isHidden c = false := by
  have printable : ∀ c : Char, ' ' ≤ c → c ≤ '~' → Unicode.isHidden c = false :=
    fun _ hle hge ↦ isHidden_of_isPrintable ⟨hle, hge⟩
  exact ⟨printable, closingQuote?_quoted_append printable _ _⟩

end Spelling

end GoLiteral
