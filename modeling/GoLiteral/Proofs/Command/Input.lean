import GoLiteral.Proofs.Command.Pipe

/-!
# A text that is given and a text that is piped in

What a command prints for a text is the text and a line feed, and what a command reads from the
standard input loses one line break at its end. So for a command it makes no difference whether a
text is given to it or printed by another command, except for one carriage return: where the text
ends with one, that and the line feed are the line break that is lost. The exception is exact, as
no two texts have the same spelling.
-/

namespace GoLiteral.Command

variable (hidden : Char → Bool) (settings : Settings) (stdin : ByteArray)

theorem spelling_injective (quote : Bool) :
    Function.Injective (spelling hidden settings quote) := by
  -- Under the standard settings a spelling can be read back, with quotes or without.
  have hvalue : ∀ text, value .standard (!(quote || settings.quote)) false
      (spelling hidden settings quote text) = .ok text := value_spelling hidden settings fun _ ↦ rfl
  intro text text' h
  exact Except.ok.inj ((hvalue text).symm.trans (h ▸ hvalue text'))

theorem outcome_encode_some (quote : Bool) (text : String) :
    outcome hidden settings stdin (encode quote (some text)) =
      (.ok (), spelling hidden settings quote text ++ "\n") :=
  outcome_encode hidden settings stdin quote (some text)

theorem exists_of_outcome_decode {body raw : Bool} {input : Option String} {printed : String}
    (h : outcome hidden settings stdin (decode body raw input) = (.ok (), printed)) :
    ∃ text, printed = text ++ "\n" := by
  rw [outcome_decode] at h
  cases hvalue : (inputText input stdin).bind (value settings body raw) with
  | error failure =>
    rw [hvalue] at h
    exact absurd (congrArg Prod.fst h) (by simp [lineOutcome])
  | ok text =>
    rw [hvalue] at h
    exact ⟨text, (congrArg Prod.snd h).symm⟩

/-- **A text can be given or piped in.** A command that reads a printed text from the standard
input ends as it does when it is given the text, without the carriage return at the end of the text
if there is one; `encode` prints the spelling of the whole text only if there is none. So what
`decode` prints is spelled by `encode` behind it, but for such a carriage return. -/
theorem outcome_line (text : String) :
    (∀ body raw, outcome hidden settings (text ++ "\n").toUTF8 (decode body raw none) =
      outcome hidden settings stdin (decode body raw (some (dropReturn text)))) ∧
    (∀ quote, outcome hidden settings (text ++ "\n").toUTF8 (encode quote none) =
      outcome hidden settings stdin (encode quote (some (dropReturn text)))) ∧
    (∀ quote, outcome hidden settings (text ++ "\n").toUTF8 (encode quote none) =
        outcome hidden settings stdin (encode quote (some text)) ↔
      text.toList.getLast? ≠ some '\x0d') ∧
    ∀ reader body raw input printed,
      outcome hidden reader stdin (decode body raw input) = (.ok (), printed) →
        ∃ value, printed = value ++ "\n" ∧ ∀ quote,
          outcome hidden settings printed.toUTF8 (encode quote none) =
            (.ok (), spelling hidden settings quote (dropReturn value) ++ "\n") := by
  have hencode : ∀ (text : String) quote, outcome hidden settings (text ++ "\n").toUTF8
      (encode quote none) = (.ok (), spelling hidden settings quote (dropReturn text) ++ "\n") := by
    intro text quote
    rw [outcome_encode, inputText_printed]
    rfl
  refine ⟨?_, ?_, ?_, ?_⟩
  · intro body raw
    rw [outcome_decode, outcome_decode, inputText_printed, inputText]
  · intro quote
    rw [hencode, outcome_encode_some]
  · intro quote
    rw [hencode, outcome_encode_some, Prod.mk.injEq, String.append_left_inj,
      ← dropReturn_eq_self_iff]
    exact ⟨fun h ↦ spelling_injective hidden settings quote h.2, fun h ↦ ⟨rfl, congrArg _ h⟩⟩
  · intro reader body raw input printed h
    obtain ⟨value, rfl⟩ := exists_of_outcome_decode hidden reader stdin h
    exact ⟨value, rfl, hencode value⟩

/-- The value of a literal that ends with a carriage return loses it on its way to `encode`. -/
theorem outcome_line_carriageReturn :
    outcome Unicode.isHidden .standard .empty (decode false false (some "\"a\\r\"")) =
        (.ok (), "a\x0d" ++ "\n") ∧
      outcome Unicode.isHidden .standard ("a\x0d" ++ "\n").toUTF8 (encode false none) =
        (.ok (), "a\n") ∧
      outcome Unicode.isHidden .standard .empty (encode false (some "a\x0d")) = (.ok (), "a\\r\n") ∧
      outcome Unicode.isHidden .standard ("a\x0d" ++ "\n").toUTF8 (encode false none) ≠
        outcome Unicode.isHidden .standard .empty (encode false (some "a\x0d")) := by
  decide +kernel

end GoLiteral.Command
