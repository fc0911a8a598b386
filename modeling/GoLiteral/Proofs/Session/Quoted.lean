import GoLiteral.Proofs.Session.Places
import GoLiteral.Proofs.Spelling.RoundTrip
import GoLiteral.Proofs.Token.Closing

/-!
# A quoted text is a token for it

The spelling of a text splits into the spellings of its characters, so it ends in an even number of
backslashes and the delimiter that is put behind it closes the token, whatever the text ends in.
The body of the token is then the spelling, and a session on it reads the text back.
-/

namespace GoLiteral

open Piece (Splits)

namespace Token

variable (hidden : Char → Bool) (text : String)

/-- The token that quotes a text. -/
def quoting : Token where
  text := Spelling.quoted hidden text
  kind := .interpreted
  opens := by
    rw [Spelling.toList_quoted]
    rfl

theorem toList_text_quoting : (quoting hidden text).text.toList =
    (quoting hidden text).kind.delimiter :: (Spelling.ofText hidden text).toList ++
      [(quoting hidden text).kind.delimiter] :=
  Spelling.toList_quoted hidden text

theorem isClosed_quoting : (quoting hidden text).isClosed = true := by
  refine isClosed_of_even (toList_text_quoting hidden text) ?_
  rw [← Spelling.sources_map_piece]
  exact even_trailingBackslashes_sources _

theorem length_quoting :
    (quoting hidden text).length = (Spelling.ofText hidden text).length + 2 := by
  rw [length_of_delimited (toList_text_quoting hidden text), String.length_toList]

theorem contentSpan_quoting :
    (quoting hidden text).contentSpan = ⟨1, (Spelling.ofText hidden text).length + 1⟩ := by
  rw [contentSpan_of_closed (toList_text_quoting hidden text) (isClosed_quoting hidden text),
    String.length_toList]

theorem body_quoting : (quoting hidden text).body = Spelling.ofText hidden text :=
  String.toList_injective
    (toList_body_of_closed (toList_text_quoting hidden text) (isClosed_quoting hidden text))

theorem splits_quoting :
    Splits ((quoting hidden text).slice (quoting hidden text).contentSpan).toList
      (text.toList.map (Spelling.piece hidden)) := by
  rw [← body, body_quoting]
  exact Spelling.splits_ofText hidden text

end Token

namespace Session

section Quoting

variable {hidden : Char → Bool} {text : String} {s : Session}
  (hhost : s.host = Token.quoting hidden text)
include hhost

private theorem kind_of_quoting : s.host.kind = .interpreted := by
  rw [hhost]
  rfl

private theorem fits_of_quoting : s.fits s.contentSpan := by
  rw [fits_iff, contentSpan, hhost, Token.contentSpan_quoting, Token.length_quoting]
  constructor
  · exact Nat.le_add_left 1 _
  · exact Nat.le_succ _

private theorem splits_of_quoting : Splits (s.host.slice s.contentSpan).toList
    (text.toList.map (Spelling.piece hidden)) := by
  rw [contentSpan, hhost]
  exact Token.splits_quoting hidden text

theorem read_of_quoting : (s.read s.contentSpan).2 = .ok text := by
  rw [read_of_splits (kind_of_quoting hhost) (fits_of_quoting hhost) (splits_of_quoting hhost),
    Spelling.map_value_map_piece, String.ofList_toList]

theorem toHost?_of_quoting (d : ℕ) : (s.read s.contentSpan).1.toHost? d s.contentSpan =
    if d ≤ text.length then
      some (1 + (Spelling.ofText hidden (String.ofList (text.toList.take d))).length)
    else none := by
  have hstart : s.contentSpan.start = 1 := rfl
  rw [toHost?_of_splits (kind_of_quoting hhost) (fits_of_quoting hhost) (splits_of_quoting hhost),
    Spelling.boundary_map_piece, List.length_map, String.length_toList, hstart]

end Quoting

/-- **A quoted text is a closed token that reads as the text.** Its body is the spelling of the
text, and a session on it sends each boundary of the text behind the opening delimiter and the
spelling of what is before the boundary. -/
theorem read_quoted (hidden : Char → Bool) (text : String) : ∃ t : Token,
    Token.ofText? (Spelling.quoted hidden text) = some t ∧
      t.kind = .interpreted ∧ t.isClosed = true ∧ t.contentSpan = ⟨1, t.length - 1⟩ ∧
      t.body = Spelling.ofText hidden text ∧
      ∀ s : Session, s.host = t → (s.read s.contentSpan).2 = .ok text ∧
        ∀ d, (s.read s.contentSpan).1.toHost? d s.contentSpan = if d ≤ text.length then
          some (1 + (Spelling.ofText hidden (String.ofList (text.toList.take d))).length)
        else none := by
  refine ⟨Token.quoting hidden text, Token.ofText?_text (Token.quoting hidden text), rfl,
    Token.isClosed_quoting hidden text, ?_, Token.body_quoting hidden text, ?_⟩
  · rw [Token.contentSpan_quoting, Token.length_quoting]
    rfl
  · intro s hhost
    exact ⟨read_of_quoting hhost, toHost?_of_quoting hhost⟩

end Session

end GoLiteral
