import GoLiteral.Proofs.Reading.Walk
import GoLiteral.Spelling

/-!
# A spelling reads back as its text

The spelling of a character is a piece that stands for it, and one whose end never depends on what
follows: the only escapes it uses are single letters and Unicode escapes of fixed width, never
octal ones. So the spellings of the characters of a text, one after the other, are a row of pieces
before whatever follows, and reading a spelling gives the text back with the places where the
spellings of its characters meet. Nothing depends on which characters are hidden.
-/

namespace GoLiteral.Spelling

open Escape (IsDigit Spells CanGrow digitValue numeral)
open Piece (sources Separated boundary Splits)

/-! ## The digits that are written -/

theorem digitValue_hexDigitChar {n : ℕ} (h : n < 16) :
    digitValue (Escape.hexDigitChar n) = n := by
  have all : ∀ m ∈ List.range 16, digitValue (Escape.hexDigitChar m) = m := by decide
  exact all n (List.mem_range.mpr h)

theorem isDigit_of_mem_hexText {width n : ℕ} {d : Char} (h : d ∈ Escape.hexText width n) :
    IsDigit 16 d := by
  induction width generalizing n with
  | zero => exact absurd h List.not_mem_nil
  | succ width ih =>
    rw [Escape.hexText, List.mem_append, List.mem_singleton] at h
    rcases h with h | rfl
    · exact ih h
    · have hlt : n % 16 < 16 := Nat.mod_lt _ (by decide)
      exact (digitValue_hexDigitChar hlt).trans_lt hlt

theorem numeral_hexText (width n : ℕ) :
    numeral 16 (Escape.hexText width n) = n % 16 ^ width := by
  induction width generalizing n with
  | zero => rw [Escape.hexText, Escape.numeral_nil, pow_zero, Nat.mod_one]
  | succ width ih =>
    rw [Escape.hexText, Escape.numeral_append_singleton, ih,
      digitValue_hexDigitChar (Nat.mod_lt _ (by decide)), pow_succ', Nat.mod_mul, Nat.add_comm,
      Nat.mul_comm]

/-! ## The spelling of a character -/

variable (hidden : Char → Bool)

theorem spells_unicodeEscape {c : Char} (hlf : c ≠ '\n') (hcr : c ≠ '\x0d') :
    Spells (unicodeEscape c) c := by
  rw [unicodeEscape]
  split
  · next hle =>
    refine .shortUnicode (Escape.length_hexText 4 _) (fun d ↦ isDigit_of_mem_hexText) ?_ hlf hcr
    rw [numeral_hexText, Nat.mod_eq_of_lt (by omega)]
  · have hlt : c.toNat < 2 ^ 32 := c.val.toNat_lt
    refine .longUnicode (Escape.length_hexText 8 _) (fun d ↦ isDigit_of_mem_hexText) ?_ hlf hcr
    rw [numeral_hexText, Nat.mod_eq_of_lt (by omega)]

/-- A character is spelled by a stretch that stands for it. The line breaks and the backslash have
letters, so neither reaches a Unicode escape or is written as it is. -/
theorem spells_ofChar (c : Char) : Spells (ofChar hidden c) c := by
  rw [ofChar]
  cases hletter : Escape.letterFor? c with
  | some letter =>
    refine .letter (Escape.letterValue?_eq_some_iff.mp ?_)
    exact Escape.letterValue?_of_letterFor? hletter
  | none =>
    have hne : ∀ x : Char, (Escape.letterFor? x).isSome → c ≠ x := by
      rintro x hx rfl
      rw [hletter] at hx
      exact absurd hx (by decide)
    cases hidden c with
    | true => exact spells_unicodeEscape (hne _ rfl) (hne _ rfl)
    | false => exact .plain (hne _ rfl)

/-- No spelling is an octal escape, so none could take up more than it does. -/
theorem not_canGrow_ofChar (c : Char) : ¬CanGrow (ofChar hidden c) := by
  rw [ofChar]
  cases hletter : Escape.letterFor? c with
  | some letter =>
    have hmem := Escape.letterValue?_eq_some_iff.mp (Escape.letterValue?_of_letterFor? hletter)
    exact Escape.not_canGrow_cons (Escape.not_isDigit_of_mem_letters hmem) []
  | none =>
    cases hidden c with
    | true =>
      simp only [↓reduceIte, unicodeEscape]
      split
      · exact Escape.not_canGrow_cons (by decide) _
      · exact Escape.not_canGrow_cons (by decide) _
    | false => simp [CanGrow]

/-! ## The spelling of a text -/

/-- The spelling of a character, as a piece of a body. -/
def piece (c : Char) : Piece := ⟨ofChar hidden c, c, spells_ofChar hidden c⟩

@[simp] theorem map_value_map_piece (cs : List Char) :
    (cs.map (piece hidden)).map Piece.value = cs := by
  rw [List.map_map]
  exact List.map_id cs

theorem sources_map_piece (text : String) :
    sources (text.toList.map (piece hidden)) = (ofText hidden text).toList := by
  rw [toList_ofText, sources, List.flatMap_map]
  rfl

theorem separated_map_piece (cs rest : List Char) : Separated (cs.map (piece hidden)) rest := by
  induction cs with
  | nil => trivial
  | cons c cs ih => exact ⟨.of_not_canGrow (not_canGrow_ofChar hidden c) _, ih⟩

theorem splits_ofText (text : String) :
    Splits (ofText hidden text).toList (text.toList.map (piece hidden)) :=
  ⟨sources_map_piece hidden text, separated_map_piece hidden _ _⟩

theorem boundary_map_piece (text : String) (d : ℕ) :
    boundary (text.toList.map (piece hidden)) d =
      (ofText hidden (String.ofList (text.toList.take d))).length := by
  have hpieces : (text.toList.map (piece hidden)).take d =
      (String.ofList (text.toList.take d)).toList.map (piece hidden) := by
    rw [← List.map_take, String.toList_ofList]
  rw [boundary, hpieces, sources_map_piece, String.length_toList]

/-- **Reading undoes spelling.** The text comes back with a map that sends each boundary to the
length of the spelling of what is before it and leaves all other slots empty. And no escape of a
spelling is ever refused, or read differently for what follows it. -/
theorem ofBody_ofText (text : String) :
    (∃ slots : Array (Option ℕ),
      Reading.ofBody .interpreted (ofText hidden text) = .ok ⟨text, .anchored slots⟩ ∧
        slots.size = (ofText hidden text).length + 1 ∧
        ∀ (d : ℕ) (hd : d < slots.size), slots[d] = if d ≤ text.length then
          some (ofText hidden (String.ofList (text.toList.take d))).length else none) ∧
      (ofText hidden text).toList = text.toList.flatMap (ofChar hidden) ∧
      ∀ c ds, ofChar hidden c = '\\' :: ds → ∀ rest,
        Escape.read (ds ++ rest) = .ok ⟨c, ds.length + 1⟩ := by
  refine ⟨?_, toList_ofText hidden text, ?_⟩
  · refine ⟨Piece.slots (text.toList.map (piece hidden)), ?_, ?_, ?_⟩
    · rw [Reading.ofBody_of_splits (splits_ofText hidden text), map_value_map_piece,
        String.ofList_toList]
      rfl
    · rw [Piece.size_slots, sources_map_piece, String.length_toList]
    · intro d hd
      rw [Piece.getElem_slots, boundary_map_piece, List.length_map, String.length_toList]
  · intro c ds hsource rest
    refine Escape.read_of_spells (hsource ▸ spells_ofChar hidden c) (.of_not_canGrow ?_ rest)
    exact hsource ▸ not_canGrow_ofChar hidden c

end GoLiteral.Spelling
