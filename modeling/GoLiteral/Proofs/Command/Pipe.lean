import GoLiteral.Proofs.Command.Outcome
import GoLiteral.Proofs.Session.Quoted
import GoLiteral.Proofs.Spelling.Containment

/-!
# Spelling a text and reading it back through a pipe

What `encode` prints is one line, and `decode` reads it without its line break. A spelling never
ends with a carriage return, as that has a letter, and a quoted one ends with its quote. So only
the line break goes that was put there, and `decode` works on the very text that `encode` made of
the given one, also where the given one ends with line breaks.
-/

namespace GoLiteral

namespace Command

variable (hidden : Char → Bool)

theorem bodyValue_ofText (text : String) :
    bodyValue .interpreted (Spelling.ofText hidden text) = .ok text := by
  rw [bodyValue, Reading.ofBody_of_splits (Spelling.splits_ofText hidden text),
    Spelling.map_value_map_piece, String.ofList_toList]

theorem tokenValue_quoted (text : String) :
    tokenValue (Spelling.quoted hidden text) = .ok text := by
  have htoken : token (Spelling.quoted hidden text) = .ok (Token.quoting hidden text) := by
    have hread : Token.ofText? (Spelling.quoted hidden text) = some (Token.quoting hidden text) :=
      Token.ofText?_text (Token.quoting hidden text)
    rw [token, hread]
  have hvalue : ((Session.ofToken (Token.quoting hidden text)).read
      (Session.ofToken (Token.quoting hidden text)).contentSpan).2 = .ok text :=
    Session.read_of_quoting rfl
  rw [tokenValue, htoken]
  exact congrArg (Except.mapError Failure.badLiteral) hvalue

variable (settings : Settings)

theorem getLast?_spelling (quote : Bool) (text : String) :
    (spelling hidden settings quote text).toList.getLast? ≠ some '\x0d' := by
  rw [spelling]
  split
  · rw [Spelling.toList_quoted, List.getLast?_concat]
    decide
  · intro hlast
    exact (Spelling.not_lineBreak_of_mem_ofText (List.mem_of_getLast? hlast)).2 rfl

/-- A spelling has the text for its value, if it is taken for what it is. -/
theorem value_spelling {reader : Settings} {quote : Bool}
    (hkind : (quote || settings.quote) = false → reader.kind = .interpreted) (text : String) :
    value reader (!(quote || settings.quote)) false (spelling hidden settings quote text) =
      .ok text := by
  cases hquote : quote || settings.quote with
  | true =>
    rw [spelling, hquote]
    exact tokenValue_quoted hidden text
  | false =>
    rw [spelling, hquote, value, Bool.not_false, if_pos rfl, if_neg Bool.false_ne_true,
      hkind hquote]
    exact bodyValue_ofText hidden text

/-- **A pipe from `encode` to `decode` loses nothing.** The text that is given to `encode` is what
`decode` prints, with a line feed behind it, when it reads all that `encode` has printed as a token
where that put quotes around it, and as an interpreted body where it did not. -/
theorem outcome_decode_encode (writer reader : Settings) (stdin : ByteArray) (quote : Bool)
    (hkind : (quote || writer.quote) = false → reader.kind = .interpreted) (text : String) :
    ∃ printed : String,
      outcome hidden writer stdin (encode quote (some text)) = (.ok (), printed) ∧
        outcome hidden reader printed.toUTF8 (decode (!(quote || writer.quote)) false none) =
          (.ok (), text ++ "\n") := by
  refine ⟨spelling hidden writer quote text ++ "\n", ?_, ?_⟩
  · rw [outcome_encode]
    rfl
  · rw [outcome_decode, inputText_line (getLast?_spelling hidden writer quote text), Except.bind,
      value_spelling hidden writer hkind]
    rfl

/-- A text with a backslash and line breaks at its end, through a pipe without quotes. -/
theorem outcome_decode_encode_lineBreaks :
    ((false || Settings.standard.quote) = false → Settings.standard.kind = .interpreted) ∧
      ∃ printed : String,
        outcome Unicode.isHidden .standard .empty (encode false (some "a\\\x0d\n\n")) =
            (.ok (), printed) ∧
          outcome Unicode.isHidden .standard printed.toUTF8 (decode true false none) =
            (.ok (), "a\\\x0d\n\n" ++ "\n") := by
  have hkind : (false || Settings.standard.quote) = false → Settings.standard.kind = .interpreted :=
    fun _ ↦ rfl
  exact ⟨hkind, outcome_decode_encode Unicode.isHidden .standard .standard .empty false hkind _⟩

end Command

end GoLiteral
